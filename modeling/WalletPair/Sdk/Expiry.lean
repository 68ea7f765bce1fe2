import WalletPair.Lib.Journal
import WalletPair.Sdk.Protocol

/-! The lifetime of a session, as both sides count it. It starts with the first
`ready.connected` of the pairing, which a run is watched for; the start that a session
remembers, the timer it arms and the starts that storage holds must not be later. -/

namespace WalletPair.Sdk
open WalletPair.Lib

/-- The frames that carry requests, responses and events. -/
def Body.traffic : Body → Bool
  | .req _ _ => true
  | .res _ _ => true
  | .evt _ _ => true
  | _ => false

/-- A session and the time of the first `ready.connected` of its pairing. -/
structure Timed (Session : Type) where
  session : Session
  first : Option Nat := none

section
variable (first : Option Nat) (ttl now : Nat)

/-- The lifetime is over. -/
def Over : Prop := ∃ start ∈ first, start + ttl ≤ now

/-- The lifetime was over before this moment. -/
def Past : Prop := ∃ start ∈ first, start + ttl < now

instance : Decidable (Over first ttl now) := by
  unfold Over
  infer_instance

instance : Decidable (Past first ttl now) := by
  unfold Past
  infer_instance

end

variable {first : Option Nat} {ttl now : Nat}

theorem Past.over (past : Past first ttl now) : Over first ttl now := by
  obtain ⟨start, known, late⟩ := past
  exact ⟨start, known, late.le⟩

section
variable {Snap Task : Type} {startOf : Snap → Option Nat} {started deadline : Option Nat} {journal : Journal Snap Task}

/-- Nothing counts from a later moment than the first connection: neither the session,
nor its timer, nor a snapshot. -/
structure Dated (startOf : Snap → Option Nat) (first : Option Nat) (ttl : Nat) (started deadline : Option Nat)
    (journal : Journal Snap Task) : Prop where
  started : ∀ start, started = some start → ∃ begun ∈ first, start ≤ begun
  deadline : ∀ due, deadline = some due → ∃ begun ∈ first, due ≤ begun + ttl
  stored : journal.Every fun snap => ∀ start, startOf snap = some start → ∃ begun ∈ first, start ≤ begun

theorem Dated.blank : Dated startOf first ttl none none (Journal.fresh : Journal Snap Task) :=
  ⟨nofun, nofun, Journal.Every.fresh⟩

/-- Arming the timer: it is due no later than the end of the lifetime. -/
theorem Dated.live {begun : Nat} (dated : Dated startOf (some begun) ttl started deadline journal)
    (opening : started = none → now ≤ begun) (inTime : now ≤ begun + ttl) :
    Dated startOf (some begun) ttl (some (started.getD now)) (some (now + (ttl - (now - started.getD now)))) journal := by
  have early : started.getD now ≤ begun := by
    cases shape : started with
    | none => exact opening shape
    | some start =>
      obtain ⟨other, same, before⟩ := dated.started start shape
      rwa [← Option.some.inj same] at before
  refine ⟨fun start same => ⟨begun, rfl, Option.some.inj same ▸ early⟩, fun due same => ⟨begun, rfl, ?_⟩, dated.stored⟩
  rw [← Option.some.inj same]
  omega

/-- An armed timer is due before the moment that is past the lifetime. -/
theorem Dated.disarmed (dated : Dated startOf first ttl started deadline journal) (past : Past first ttl now)
    (prompt : ∀ due ∈ deadline, now ≤ due) : deadline = none := by
  cases shape : deadline with
  | none => rfl
  | some due =>
    obtain ⟨start, known, late⟩ := past
    obtain ⟨begun, same, before⟩ := dated.deadline due shape
    have begins : start = begun := Option.some.inj (known.symm.trans same)
    have inTime := prompt due shape
    omega

end

end WalletPair.Sdk
