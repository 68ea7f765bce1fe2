import WalletPair.Relay.Server.Store

/-! What one message does, and to whom: which messages are refused without a trace, which
channel is touched, and which queues are written to. -/

namespace WalletPair.Relay.Server
open WalletPair.Lib WalletPair.Lib.Program

variable {τ : Type} {s t : World τ} {connId sender : Nat} {raw : τ} {atCapacity : Bool} {msg : ClientMessage}
  {r : ProcessResult τ}

theorem handled_of_ok (processed : processMessage connId sender raw msg atCapacity s = .ok r t) :
    Handled s connId sender raw atCapacity msg r t := by
  obtain ⟨r', t', run, handled⟩ := processMessage_handled connId sender raw msg atCapacity s
  rw [processed] at run
  cases run
  exact handled

/-! ### Refusals -/

/-- If the message is refused, the channels are as they were. -/
def RefusedUntouched (s : World τ) (connId sender : Nat) (raw : τ) (msg : ClientMessage) (atCapacity : Bool) : Prop :=
  ∀ frame t, processMessage connId sender raw msg atCapacity s = .ok (.reject frame) t → t.channels = s.channels

/-- The message is a create that would take the place of the channel that exists. -/
def World.Replaces (s : World τ) : ClientMessage → Prop
  | .create ch _ => ∃ c, s.channels.get ch = some c ∧ s.replaceable c = true
  | _ => False

theorem vacating_channels {ch : String} {c : Channel} (found : s.channels.get ch = some c) :
    (s.vacating ch).channels = s.channels.delete ch := by
  unfold World.vacating World.removing
  rw [if_pos (by simp [found])]

/-- A replacing create gives up the old channel, and at capacity it gets no new one. -/
theorem processMessage_of_replaces {ch peer : String} {c : Channel} (found : s.channels.get ch = some c)
    (replaceable : s.replaceable c = true) (atCapacity : Bool) :
    processMessage connId sender raw (.create ch peer) atCapacity s =
      if atCapacity then .ok (.reject (buildTerminate ch .rateLimited s.clock)) (s.vacating ch)
      else .ok .okCreated ((s.vacating ch).creating connId sender ch peer) := by
  have existing := replaceExisting_apply ch s
  rw [found] at existing
  dsimp only at existing
  rw [if_pos replaceable] at existing
  have clock : (s.vacating ch).clock = s.clock := by
    unfold World.vacating World.removing
    split <;> rfl
  unfold processMessage handleCreate
  dsimp only
  rw [bind_of_ok existing, ← clock]
  cases atCapacity <;> rfl

/-- A create on a channel that stays is refused. -/
theorem processMessage_of_kept {ch peer : String} {c : Channel} (found : s.channels.get ch = some c)
    (kept : s.replaceable c = false) :
    processMessage connId sender raw (.create ch peer) atCapacity s =
      .ok (.reject (buildTerminate ch .channelExists s.clock)) s := by
  have existing := replaceExisting_apply ch s
  rw [found] at existing
  dsimp only at existing
  rw [if_neg (by simp [kept])] at existing
  unfold processMessage handleCreate
  dsimp only
  rw [bind_of_ok existing]
  rfl

theorem not_untouched_of_replaces (replaces : s.Replaces msg) : ¬ RefusedUntouched s connId sender raw msg true := by
  intro untouched
  cases msg with
  | create ch peer =>
    obtain ⟨c, found, replaceable⟩ := replaces
    have same := untouched _ _ (processMessage_of_replaces found replaceable true)
    rw [vacating_channels found] at same
    have gone : (s.channels.delete ch).get ch = none := OrderedMap.get_delete_self _ _
    rw [same, found] at gone
    cases gone
  | _ => exact replaces

/-- A refusal leaves the channels alone exactly if it is not that of a replacing create
at capacity. -/
theorem refused_untouched_iff (s : World τ) (connId sender : Nat) (raw : τ) (msg : ClientMessage) (atCapacity : Bool) :
    RefusedUntouched s connId sender raw msg atCapacity ↔ ¬ (atCapacity = true ∧ s.Replaces msg) := by
  constructor
  · rintro untouched ⟨rfl, replaces⟩
    exact not_untouched_of_replaces replaces untouched
  · intro spared frame t processed
    cases handled_of_ok processed with
    | refused reason target => rfl
    | evicted found replaceable full => exact absurd ⟨full, _, found, replaceable⟩ spared

namespace Sample

def channel : String := "aaaaaaaaaaaaaaaaaaaaaaaaaaaaaaaaaaaaaaaaaaaaaaaaaaaaaaaaaaaaaaaa"
def dapp : String := "AQEBAQEBAQEBAQEBAQEBAQEBAQEBAQEBAQEBAQEBAQE"
def wallet : String := "AgICAgICAgICAgICAgICAgICAgICAgICAgICAgICAgI"

/-- The dApp waits on its first connection. -/
def waiting : World String := (World.fresh String 32 300 86400).creating 1 1 channel dapp

theorem waiting_channel : waiting.channels.get channel = some (Channel.new channel dapp ⟨1, 1⟩ 0) := by
  unfold waiting World.creating
  rw [sending_toChannelStore]
  exact OrderedMap.get_set_self _ _ _

end Sample

/-- A dApp that comes back while the server is at capacity loses the channel it had. -/
theorem refused_create_loses_channel :
    ¬ ∀ (s : World String) (connId sender : Nat) (raw : String) (msg : ClientMessage) (atCapacity : Bool),
      RefusedUntouched s connId sender raw msg atCapacity := by
  intro all
  have replaces : Sample.waiting.Replaces (.create Sample.channel Sample.dapp) := ⟨_, Sample.waiting_channel, rfl⟩
  exact not_untouched_of_replaces replaces (all Sample.waiting 2 2 "" _ true)

end WalletPair.Relay.Server
