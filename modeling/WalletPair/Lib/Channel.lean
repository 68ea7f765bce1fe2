import Mathlib.Data.List.Induction
import Mathlib.Data.List.Sort
import Mathlib.Logic.Relation

/-! A channel that keeps the order and may lose anything. What goes in carries a number above
all earlier ones; what comes out went in before, and carries a number above all that came
out already. The states it can reach are those with two ascending records, one inside the
other. -/

namespace WalletPair.Lib

/-- What went into a channel and what came out of it. -/
structure Channel (α : Type) where
  sent : List α
  received : List α

namespace Channel
variable {α : Type} {number : α → Nat} {c d : Channel α}

/-- The numbers ascend. -/
abbrev Ascending (number : α → Nat) (items : List α) : Prop := items.Pairwise fun a b => number a < number b

inductive Step (number : α → Nat) : Channel α → Channel α → Prop where
  | send (c : Channel α) (a : α) (above : ∀ b ∈ c.sent, number b < number a) :
    Step number c { c with sent := c.sent ++ [a] }
  | deliver (c : Channel α) (a : α) (known : a ∈ c.sent) (above : ∀ b ∈ c.received, number b < number a) :
    Step number c { c with received := c.received ++ [a] }

/-- Chains of steps. -/
abbrev Reaches (number : α → Nat) : Channel α → Channel α → Prop := Relation.ReflTransGen (Step number)

structure Sound (number : α → Nat) (c : Channel α) : Prop where
  sent : Ascending number c.sent
  received : Ascending number c.received
  known : ∀ a ∈ c.received, a ∈ c.sent

theorem ascending_concat {items : List α} {a : α} (ascends : Ascending number items)
    (above : ∀ b ∈ items, number b < number a) : Ascending number (items ++ [a]) := by
  refine List.pairwise_append.mpr ⟨ascends, List.pairwise_singleton _ a, ?_⟩
  intro b old c new
  rw [List.mem_singleton.mp new]
  exact above b old

theorem Sound.step (h : Sound number c) (step : Step number c d) : Sound number d := by
  cases step with
  | send a above =>
    exact ⟨ascending_concat h.sent above, h.received, fun b came => List.mem_append_left _ (h.known b came)⟩
  | deliver a known above =>
    refine ⟨h.sent, ascending_concat h.received above, fun b came => ?_⟩
    rcases List.mem_append.mp came with old | new
    · exact h.known b old
    · rw [List.mem_singleton.mp new]
      exact known

/-- What came out is what went in, with some of it left out. -/
theorem Sound.sublist (h : Sound number c) : c.received.Sublist c.sent := by
  have once : c.received.Nodup := by
    refine h.received.imp fun {a b} below same => ?_
    rw [same] at below
    exact absurd below (Nat.lt_irrefl _)
  have : Std.Antisymm (fun a b => number a < number b) :=
    ⟨fun _ _ below above => absurd (below.trans above) (Nat.lt_irrefl _)⟩
  exact List.sublist_of_subperm_of_pairwise (List.subperm_of_subset once h.known) h.received h.sent

/-- More goes in. -/
theorem reaches_sent (sent received : List α) {items : List α} (ascends : Ascending number (sent ++ items)) :
    Reaches number ⟨sent, received⟩ ⟨sent ++ items, received⟩ := by
  induction items using List.reverseRecOn with
  | nil =>
    rw [List.append_nil]
  | append_singleton items a ih =>
    rw [← List.append_assoc] at ascends ⊢
    obtain ⟨before, -, apart⟩ := List.pairwise_append.mp ascends
    exact (ih before).tail (.send ⟨sent ++ items, received⟩ a fun b old => apart b old a (List.mem_singleton_self a))

/-- More comes out. -/
theorem reaches_received (sent received : List α) {items : List α} (ascends : Ascending number (received ++ items))
    (known : ∀ a ∈ items, a ∈ sent) : Reaches number ⟨sent, received⟩ ⟨sent, received ++ items⟩ := by
  induction items using List.reverseRecOn with
  | nil =>
    rw [List.append_nil]
  | append_singleton items a ih =>
    rw [← List.append_assoc] at ascends ⊢
    obtain ⟨before, -, apart⟩ := List.pairwise_append.mp ascends
    have earlier := ih before fun b old => known b (List.mem_append_left _ old)
    exact earlier.tail (.deliver ⟨sent, received ++ items⟩ a (known a (by simp)) fun b old =>
      apart b old a (List.mem_singleton_self a))

/-- Both records have only grown. -/
structure Grew (c d : Channel α) : Prop where
  sent : c.sent <+: d.sent
  received : c.received <+: d.received

theorem Grew.refl (c : Channel α) : Grew c c := ⟨List.prefix_rfl, List.prefix_rfl⟩

theorem Grew.trans {e : Channel α} (first : Grew c d) (second : Grew d e) : Grew c e :=
  ⟨first.sent.trans second.sent, first.received.trans second.received⟩

/-- A sound channel is reached from each of its pasts. -/
theorem Sound.reached (h : Sound number d) (grew : Grew c d) : Reaches number c d := by
  obtain ⟨before, came⟩ := c
  obtain ⟨after, come⟩ := d
  obtain ⟨⟨more, rfl⟩, ⟨new, rfl⟩⟩ := grew
  have entered : Reaches number ⟨before, came⟩ ⟨before ++ more, came⟩ := reaches_sent before came h.sent
  have left : Reaches number ⟨before ++ more, came⟩ ⟨before ++ more, came ++ new⟩ :=
    reaches_received _ came h.received fun a mem => h.known a (List.mem_append_right _ mem)
  exact entered.trans left

/-- The states that a new channel reaches. -/
theorem reaches_iff : Reaches number ⟨[], []⟩ c ↔ Sound number c := by
  constructor
  · intro reached
    induction reached with
    | refl => exact ⟨List.Pairwise.nil, List.Pairwise.nil, fun _ none => none⟩
    | tail _ step ih => exact ih.step step
  · intro h
    exact h.reached ⟨List.nil_prefix, List.nil_prefix⟩

end Channel

end WalletPair.Lib
