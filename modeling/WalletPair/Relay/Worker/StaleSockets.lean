import WalletPair.Relay.Worker.Handlers

/-! Sockets that were replaced, refused or left over from an earlier incarnation of the
channel. Their attachment still carries the role, and the handler of close events goes
by the role alone; so such an event is ignored only in the states in which the loss of
that role means nothing. -/

namespace WalletPair.Relay.Worker
open WalletPair.Lib.Program WalletPair.Lib.Run WalletPair.Sdk

variable {τ : Type}

/-! ### Who holds a role -/

/-- The sockets that hold the two roles of the current incarnation. -/
structure Holders where
  dapp : Option Nat := none
  wallet : Option Nat := none

/-- A granted create starts an incarnation, in which no wallet has joined yet. -/
def Holders.note (h : Holders) : Obs τ → Holders
  | .assigned .dapp id => ⟨some id, none⟩
  | .assigned .wallet id => { h with wallet := some id }
  | .revoked _ => { h with wallet := none }
  | .sent _ _ => h

def Holders.of (h : Holders) : Role → Option Nat
  | .dapp => h.dapp
  | .wallet => h.wallet

/-- The most recent socket that was assigned the role in the current incarnation. -/
def ChannelDO.holder (s : ChannelDO τ) (role : Role) : Option Nat := (s.trace.foldl Holders.note {}).of role

/-- The socket does not hold the role its attachment names, or never had one. -/
def ChannelDO.Stale (s : ChannelDO τ) (id : Nat) : Prop :=
  ∀ attachment, s.attachment id = some attachment → s.holder attachment.role ≠ some id

/-! ### Close events -/

/-- The socket whose close or error event this is, and whether it is still listed. -/
def Event.ended : Event τ → Option (Nat × Bool)
  | .close id listed => some (id, listed)
  | .error id listed => some (id, listed)
  | _ => none

/-- The object when the handler of a close event reads its fields. -/
def ChannelDO.noticing (s : ChannelDO τ) (id : Nat) (listed : Bool) : ChannelDO τ :=
  ({ s with sockets := s.sockets.modify id (Socket.gone listed) } : ChannelDO τ).woken

/-- Neither the channel's state, its wallet, the alarm nor storage changed, and nothing
was sent. -/
structure Ignored (s t : ChannelDO τ) : Prop where
  channelState : t.channelState = s.channelState
  walletPeerId : t.walletPeerId = s.walletPeerId
  alarm : t.alarm = s.alarm
  stored : t.stored = s.stored
  trace : t.trace = s.trace

/-- The loss of the role the socket carries means something to the channel: a dApp before
the channel is connected, a wallet that waits to be accepted. -/
def ChannelDO.Misses (s : ChannelDO τ) (id : Nat) : Prop :=
  nonEmpty s.channelId ≠ none ∧ ∃ attachment, s.attachment id = some attachment ∧
    (s.channelState = .pendingAccept ∨ s.channelState = .waiting ∧ attachment.role = .dapp)

theorem after_disconnect (id : Nat) (listed : Bool) (s : ChannelDO τ) :
    after (disconnect id listed) s =
      ({ (s.noticing id listed).losing id with
        sockets := ((s.noticing id listed).losing id).sockets.modify id (Socket.gone false) } : ChannelDO τ) := by
  unfold disconnect webSocketClose
  simp only [updateSocket, after_modify_bind]
  have run : ∀ t : ChannelDO τ, (do ensureInitialized; handleDisconnect id) t = .ok () (t.woken.losing id) :=
    fun t => handleDisconnect_apply id t.woken
  rw [after_bind_of_ok (run _)]
  rfl

theorem abandoning_channelState (s : ChannelDO τ) (ch : String) : (s.abandoning ch).channelState = .closed := by
  simp [ChannelDO.abandoning, ChannelDO.closing]

theorem releasing_channelState (s : ChannelDO τ) : s.releasing.channelState = .waiting := by
  simp [ChannelDO.releasing]

theorem losing_of_not_misses {s : ChannelDO τ} {id : Nat} (kept : ¬ s.Misses id) : s.losing id = s := by
  unfold ChannelDO.losing
  cases attached : s.attachment id with
  | none => rfl
  | some attachment =>
    cases named : nonEmpty s.channelId with
    | none => rfl
    | some ch =>
      have calm : s.channelState ≠ .pendingAccept ∧ (s.channelState = .waiting → attachment.role ≠ .dapp) := by
        constructor
        · intro pending
          exact kept ⟨by simp [named], attachment, attached, Or.inl pending⟩
        · intro waiting dapp
          exact kept ⟨by simp [named], attachment, attached, Or.inr ⟨waiting, dapp⟩⟩
      dsimp only
      split
      · exact absurd ‹attachment.role = .dapp› (calm.2 ‹_›)
      · exact absurd ‹_› calm.1
      · exact absurd ‹_› calm.1
      · rfl

theorem losing_channelState_of_misses {s : ChannelDO τ} {id : Nat} (missed : s.Misses id) :
    (s.losing id).channelState ≠ s.channelState := by
  obtain ⟨known, attachment, attached, missed⟩ := missed
  obtain ⟨ch, named⟩ := Option.ne_none_iff_exists'.mp known
  unfold ChannelDO.losing
  simp only [attached, named]
  rcases missed with pending | ⟨waiting, dapp⟩
  · rw [pending]
    cases attachment.role with
    | dapp => simp [abandoning_channelState]
    | wallet => simp [releasing_channelState]
  · rw [waiting, dapp]
    simp [abandoning_channelState]

/-- Losing a socket is ignored exactly if the channel does not miss it. -/
theorem losing_ignored_iff (s : ChannelDO τ) (id : Nat) : Ignored s (s.losing id) ↔ ¬ s.Misses id := by
  constructor
  · intro ignored missed
    exact losing_channelState_of_misses missed ignored.channelState
  · intro kept
    rw [losing_of_not_misses kept]
    exact ⟨rfl, rfl, rfl, rfl, rfl⟩

/-! ### Runs -/

variable [Wire τ]

/-- If this is the close or error event of a stale socket, it is ignored. -/
def StaleIgnored (s : ChannelDO τ) (e : Inputs × Event τ) : Prop :=
  ∀ id listed, e.2.ended = some (id, listed) → s.Stale id →
    Ignored (({ s with inputs := e.1 } : ChannelDO τ).noticing id listed) (step s e)

/-- If this is the close or error event of a stale socket, the channel does not miss the
role that the socket still carries. -/
def StaleUnmissed (s : ChannelDO τ) (e : Inputs × Event τ) : Prop :=
  ∀ id listed, e.2.ended = some (id, listed) → s.Stale id → ¬ (s.noticing id listed).Misses id

theorem step_ended {s : ChannelDO τ} {e : Inputs × Event τ} {id : Nat} {listed : Bool}
    (ended : e.2.ended = some (id, listed)) :
    step s e = after (disconnect id listed) { s with inputs := e.1 } := by
  obtain ⟨inputs, event⟩ := e
  cases event with
  | close id' listed' =>
    cases ended
    rfl
  | error id' listed' =>
    cases ended
    rfl
  | _ => cases ended

omit [Wire τ] in
/-- What the channel misses does not depend on the choices of the environment. -/
theorem misses_noticing_inputs (s : ChannelDO τ) (inputs : Inputs) {id : Nat} {listed : Bool} :
    (({ s with inputs } : ChannelDO τ).noticing id listed).Misses id ↔ (s.noticing id listed).Misses id := by
  have same : ({ s with inputs } : ChannelDO τ).noticing id listed = { s.noticing id listed with inputs } := by
    unfold ChannelDO.noticing ChannelDO.woken
    dsimp only
    split <;> rfl
  rw [same]
  exact Iff.rfl

theorem staleIgnored_iff (s : ChannelDO τ) (e : Inputs × Event τ) : StaleIgnored s e ↔ StaleUnmissed s e := by
  have each : ∀ id listed, e.2.ended = some (id, listed) →
      (Ignored (({ s with inputs := e.1 } : ChannelDO τ).noticing id listed) (step s e) ↔
        ¬ (s.noticing id listed).Misses id) := by
    intro id listed ended
    rw [step_ended ended, after_disconnect]
    rw [← misses_noticing_inputs s e.1, ← losing_ignored_iff]
    exact ⟨fun h => ⟨h.1, h.2, h.3, h.4, h.5⟩, fun h => ⟨h.1, h.2, h.3, h.4, h.5⟩⟩
  constructor
  · intro ignored id listed ended stale
    exact (each id listed ended).mp (ignored id listed ended stale)
  · intro unmissed id listed ended stale
    exact (each id listed ended).mpr (unmissed id listed ended stale)

/-- Close and error events of stale sockets are ignored along a run exactly if none of
them carries a role that the channel would miss at that point. -/
theorem stale_sockets_ignored_iff (name : String) (events : List (Inputs × Event τ)) :
    Along step StaleIgnored (.fresh τ name) events ↔ Along step StaleUnmissed (.fresh τ name) events :=
  along_congr staleIgnored_iff

/-- A stale socket whose event changes the channel's state. -/
theorem not_staleIgnored {s : ChannelDO τ} {inputs : Inputs} {event : Event τ} {id : Nat} {listed : Bool} {role : Role}
    (ended : event.ended = some (id, listed)) (carries : (s.attachment id).map WsAttachment.role = some role)
    (replaced : s.holder role ≠ some id)
    (changed : (step s (inputs, event)).channelState ≠
      (({ s with inputs } : ChannelDO τ).noticing id listed).channelState) : ¬ StaleIgnored s (inputs, event) := by
  intro ignored
  have stale : s.Stale id := by
    intro attachment attached
    rw [attached] at carries
    rw [Option.some.inj carries]
    exact replaced
  exact changed (ignored id listed ended stale).channelState

namespace Sample

/-- The dApp comes back on a second socket before the relay notices that the first is
gone. -/
def replacing : List (Inputs × Event String) :=
  [({}, upgrade), ({}, text 0 create), ({}, upgrade), ({}, text 1 create)]

def replaced : ChannelDO String := run step (.fresh String channel) replacing

theorem replaced_facts :
    (replaced.attachment 0).map WsAttachment.role = some .dapp ∧ replaced.holder .dapp ≠ some 0 ∧
      (step replaced ({}, .close 0 false)).channelState ≠
        (({ replaced with inputs := {} } : ChannelDO String).noticing 0 false).channelState := by
  simp only [replaced, replacing, text, run_cons, run_nil, step_text read_create]
  decide +kernel

end Sample

/-- The close event of the replaced socket closes the channel of the new one. -/
theorem replaced_socket_closes_channel :
    ¬ ∀ (name : String) (events : List (Inputs × Event String)),
      Along step StaleIgnored (.fresh String name) events := by
  intro all
  have ignored := along_last (all Sample.channel (Sample.replacing ++ [({}, .close 0 false)]))
  obtain ⟨carries, replaced, changed⟩ := Sample.replaced_facts
  refine @not_staleIgnored String _ Sample.replaced {} (.close 0 false) 0 false .dapp rfl carries replaced ?_ ignored
  -- both sides are the same text; unfolding either would run the sample again
  with_reducible exact changed

end WalletPair.Relay.Worker
