import WalletPair.Sdk.DApp.Lifetime
import WalletPair.Sdk.DApp.Link

/-! What one turn of the event loop can do to the channel, the phase and the record, by its
label. All labels but three are made of moves and of changes to the queue. -/

namespace WalletPair.Sdk.DApp
open WalletPair.Lib WalletPair.Lib.Program

/-! ### Labels made of moves -/

/-- The channel, the session's own key, the phase and the record are the same. -/
structure SameView (s t : Session) : Prop where
  channelId : t.channelId = s.channelId
  pubKeyB64 : t.pubKeyB64 = s.pubKeyB64
  phase : t.phase = s.phase
  trace : t.trace = s.trace

/-- Labels that neither start a pairing nor restore one. -/
def Label.continues : Label → Bool
  | .createPairing _ _ _ => false
  | .restore _ => false
  | .crash => false
  | _ => true

/-- What the continuation of a save may do. -/
structure Continues (ok : Kind → Prop) (resolves : Bool) (task : Task) : Prop where
  own : resolves = true → ok task.kind
  delivers : resolves = true → task.kind = .receiving → ok .event ∧ ok .resolving
  offers : resolves = true → ∀ target, task = .accept target → ok .offer
  restores : resolves = false → task.kind = .receiving → ok .receiving

section
variable {C : Crypto} {ok : Kind → Prop} {I : Session → Prop} {s : Session} {inputs : Inputs}

/-- A property that the moves of a label keep, and that rests on what `SameView` compares. -/
theorem step_rule {l : Label} (continues : l.continues = true) (kinds : ∀ k ∈ l.kinds, ok k)
    (settles : ∀ ticket resolves, l = .settle ticket resolves → ∀ call, s.journal.find ticket = some call →
      Continues ok resolves call.task)
    (move : ∀ s t k, k.quiet = true ∨ ok k → Move s k t → I s → I t) (view : ∀ s t, SameView s t → I s → I t)
    (held : I s) : I (step C s (inputs, l)) := by
  have start : I { s with inputs := inputs } := view s _ ⟨rfl, rfl, rfl, rfl⟩ held
  have kept {m : M Unit} (made : Keeps (Moves ok) m) : Keeps (Preserve I) m := preserve_of_moves made move
  by_cases moving : l.moving = true
  · exact kept (fun s => moves_mono kinds (act_moves C l moving s)) _ start
  cases l with
  | destroy =>
    refine Keeps.bind (kept (close_moves _)) (fun _ => ?_) _ start
    exact fun s held => view s _ ⟨rfl, rfl, rfl, rfl⟩ held
  | flush ticket => exact view s _ ⟨rfl, rfl, rfl, rfl⟩ held
  | settle ticket resolves =>
    change I (after (settleCall C ticket resolves) { s with inputs := inputs })
    have removed : I { s with inputs := inputs, journal := s.journal.remove ticket } := view s _ ⟨rfl, rfl, rfl, rfl⟩ held
    rcases settleCall_cases C ticket resolves { s with inputs := inputs } with idle | ⟨call, found, ⟨goes, -, run⟩ | ⟨fails, run⟩⟩
    · rw [idle]
      exact start
    · rw [run]
      have allowed := settles ticket resolves rfl call found
      exact kept (resume_moves C call.task (allowed.own goes) (allowed.delivers goes) (allowed.offers goes)) _ removed
    · rw [run]
      have allowed := settles ticket resolves rfl call found
      exact kept (fail_task_moves "save" call.task (allowed.restores fails)) _ removed
  | createPairing privateKey channelId deferTransport => cases continues
  | restore snapshot => cases continues
  | crash => cases continues
  | _ => simp [Label.moving] at moving

/-! ### The channel -/

/-- What the session writes into its messages, the time apart. -/
def Session.names (s : Session) : String × String := (s.channelId, s.pubKeyB64)

theorem names_of_move {t : Session} {k : Kind} (move : Move s k t) : t.names = s.names := by
  cases move <;> rfl

/-- Only a new pairing or a restored one changes the channel or the session's own key. -/
theorem step_names {l : Label} (continues : l.continues = true) : (step C s (inputs, l)).names = s.names := by
  have allowed : ∀ k : Kind, k ∈ l.kinds → True := fun _ _ => trivial
  have settles : ∀ ticket resolves, l = .settle ticket resolves → ∀ call, s.journal.find ticket = some call →
      Continues (fun _ => True) resolves call.task :=
    fun _ _ _ _ _ => ⟨fun _ => trivial, fun _ _ => ⟨trivial, trivial⟩, fun _ _ _ => trivial, fun _ _ => trivial⟩
  refine step_rule (I := fun t => t.names = s.names) continues allowed settles ?_ ?_ rfl
  · exact fun _ _ _ _ move same => (names_of_move move).trans same
  · intro t u view same
    unfold Session.names
    rw [view.channelId, view.pubKeyB64]
    exact same

theorem channel_of_move {t : Session} {k : Kind} (move : Move s k t) : t.channelId = s.channelId :=
  congrArg Prod.fst (names_of_move move)

theorem step_channel {l : Label} (continues : l.continues = true) : (step C s (inputs, l)).channelId = s.channelId :=
  congrArg Prod.fst (step_names continues)

theorem createPairing_channel {privateKey : Bytes} {channelId : String} {deferTransport : Bool} :
    (step C s (inputs, .createPairing privateKey channelId deferTransport)).channelId = channelId := by
  have made : Keeps (Moves fun _ => True) (announcePairing C (generateX25519KeyPair C privateKey) channelId deferTransport) :=
    announcePairing_moves trivial trivial C _ _ _
  have kept : Keeps (Preserve fun t : Session => t.channelId = channelId)
      (announcePairing C (generateX25519KeyPair C privateKey) channelId deferTransport) :=
    preserve_of_moves made fun _ _ _ _ move same => (channel_of_move move).trans same
  change (after (createPairing C privateKey channelId deferTransport) { s with inputs := inputs }).channelId = channelId
  unfold createPairing resetPairing
  rw [after_modify_bind]
  exact kept _ rfl

/-- A restored session is on the channel of the snapshot, or stays on its own. -/
theorem restore_channel {d : Snapshot} :
    (step C s (inputs, .restore d)).channelId = s.channelId ∨ (step C s (inputs, .restore d)).channelId = d.channelId := by
  have remote : Keeps (Preserve fun t : Session => t.channelId = s.channelId ∨ t.channelId = d.channelId)
      (restoreRemote d.remotePubKeyB64) := by
    unfold restoreRemote
    split
    · exact .modify fun _ held => held
    · split
      · exact .throw _
      · exact .modify fun _ held => held
  have made : Keeps (Moves fun _ => True) (setPhase .connected) := setPhase_moves _ (Or.inr trivial)
  have opens : Keeps (Preserve fun t : Session => t.channelId = s.channelId ∨ t.channelId = d.channelId) (setPhase .connected) :=
    preserve_of_moves made fun _ _ _ _ move held => by rwa [channel_of_move move]
  have restored : Keeps (Preserve fun t : Session => t.channelId = s.channelId ∨ t.channelId = d.channelId) (restoreSafely d) :=
    .tryCatch (.ite (.pure _) (.bind (.modify fun _ _ => Or.inr rfl) fun _ => .bind remote fun _ =>
      .bind (.modify fun _ held => held) fun _ => .ite (.pure _)
      (.bind (.modify fun _ held => held) fun _ => .bind opens fun _ => .pure _))) fun _ => .pure _
  exact Keeps.bind restored (fun _ => .pure _) { s with inputs := inputs } (Or.inl rfl)

/-- The snapshot names a channel and a key, so that it is taken over. -/
def Snapshot.identifies (d : Snapshot) : Bool := d.channelId ≠ "" ∧ d.privKey ≠ []

/-- The snapshot is of a session that was connected. -/
def Snapshot.keyed (d : Snapshot) : Bool := d.identifies ∧ d.sendKey ≠ none ∧ d.recvKey ≠ none

theorem restore_unidentified {d : Snapshot} (blank : d.identifies = false) :
    step C s (inputs, .restore d) = { s with inputs := inputs } := by
  have first : d.channelId = "" ∨ d.privKey = [] := by
    by_contra named
    simp only [not_or] at named
    simp [Snapshot.identifies, named] at blank
  change after (restoreSafely d >>= fun _ => pure ()) { s with inputs := inputs } = _
  unfold restoreSafely restore
  rw [if_pos first]
  rfl

/-- A snapshot without keys leaves the phase as it is. -/
theorem restore_unkeyed {d : Snapshot} (unkeyed : d.keyed = false) :
    (step C s (inputs, .restore d)).phase = s.phase := by
  have remote : Keeps (Preserve fun t : Session => t.phase = s.phase) (restoreRemote d.remotePubKeyB64) := by
    unfold restoreRemote
    split
    · exact .modify fun _ held => held
    · split
      · exact .throw _
      · exact .modify fun _ held => held
  have keys : ¬ (d.channelId = "" ∨ d.privKey = []) → d.sendKey = none ∨ d.recvKey = none := by
    intro named
    simp only [not_or] at named
    by_contra both
    simp only [not_or] at both
    simp [Snapshot.keyed, Snapshot.identifies, named, both] at unkeyed
  have restored : Keeps (Preserve fun t : Session => t.phase = s.phase) (restoreSafely d) := by
    refine .tryCatch ?_ fun _ => .pure _
    unfold restore
    by_cases blank : d.channelId = "" ∨ d.privKey = []
    · rw [if_pos blank]
      exact .pure _
    · rw [if_neg blank]
      refine .bind (.modify fun _ held => held) fun _ => .bind remote fun _ => .bind (.modify fun _ held => held) fun _ => ?_
      rw [if_pos (keys blank)]
      exact .pure _
  exact Keeps.bind restored (fun _ => .pure _) { s with inputs := inputs } rfl

/-! ### The phase -/

/-- Only an accepted `ready.connected` or a restored snapshot makes a session connected. -/
theorem step_connected {l : Label} (alive : l ≠ .crash) (connected : (step C s (inputs, l)).phase = .connected) :
    s.phase = .connected ∨ s.opens l = true ∨ ∃ d, l = .restore d := by
  by_contra other
  simp only [not_or, not_exists] at other
  obtain ⟨before, closed, fresh⟩ := other
  suffices after : (step C s (inputs, l)).phase ≠ .connected from after connected
  have moves {t u : Session} {k : Kind} (allowed : k.quiet = true ∨ k ≠ .phase .connected) (move : Move t k u)
      (unconnected : t.phase ≠ .connected) : u.phase ≠ .connected := by
    cases move with
    | phase phase u =>
      rintro rfl
      exact allowed.elim nofun fun allowed => allowed rfl
    | _ => exact unconnected
  cases l with
  | message msg =>
    have refused : s.acceptsReady msg = false := Bool.eq_false_iff.mpr closed
    have made : Moves Kind.aside { s with inputs := inputs } (step C s (inputs, .message msg)) :=
      handleMessage_aside (s := { s with inputs := inputs }) refused
    exact fun connected => before (phase_of_moves (s := { s with inputs := inputs }) (fun aside => aside.2.2 rfl) made connected)
  | createPairing privateKey channelId deferTransport =>
    have made : Keeps (Moves (· ≠ .phase .connected))
        (announcePairing C (generateX25519KeyPair C privateKey) channelId deferTransport) :=
      announcePairing_moves nofun nofun C _ _ _
    have kept : Keeps (Preserve fun t : Session => t.phase ≠ .connected)
        (announcePairing C (generateX25519KeyPair C privateKey) channelId deferTransport) :=
      preserve_of_moves made fun _ _ _ allowed move held => moves allowed move held
    change (after (createPairing C privateKey channelId deferTransport) { s with inputs := inputs }).phase ≠ .connected
    unfold createPairing resetPairing
    rw [after_modify_bind]
    exact kept _ before
  | restore snapshot => exact absurd rfl (fresh snapshot)
  | crash => exact absurd rfl alive
  | _ =>
    have resumed (task : Task) (resolves : Bool) : Continues (· ≠ .phase .connected) resolves task := by
      refine ⟨fun _ => ?_, fun _ _ => ⟨nofun, nofun⟩, fun _ _ _ => nofun, fun _ _ => nofun⟩
      cases task <;> exact nofun
    exact step_rule (I := fun t => t.phase ≠ .connected) rfl (by simp [Label.kinds]) (fun _ resolves _ call _ => resumed call.task resolves)
      (fun _ _ _ => moves) (fun _ _ view held => by rwa [view.phase]) before

/-! ### The record -/

/-- Neither an event of the wallet nor the result of a request. -/
def Obs.silent (o : Obs) : Prop := o.kind ≠ .event ∧ o.kind ≠ .resolving

theorem silent_move {start : List Obs} {t u : Session} {k : Kind} (allowed : k.quiet = true ∨ (k ≠ .event ∧ k ≠ .resolving))
    (move : Move t k u) (added : Run.Adds Obs.silent start t.trace) : Run.Adds Obs.silent start u.trace := by
  cases move with
  | note o =>
    refine added.trans (.single ?_)
    rcases allowed with quiet | other
    · unfold Obs.silent
      constructor <;> (intro same; rw [same] at quiet; cases quiet)
    · exact other
  | _ => exact added

/-- Labels that can bring an event of the wallet or a result. -/
def Label.delivers : Label → Bool
  | .message _ => true
  | .settle _ _ => true
  | _ => false

/-- Events and results come with a message, or with an answer of the storage. -/
theorem step_silent {l : Label} (quiet : l.delivers = false) (alive : l ≠ .crash) :
    Run.Adds Obs.silent s.trace (step C s (inputs, l)).trace := by
  have kept {m : M Unit} (made : Keeps (Moves fun k => k ≠ .event ∧ k ≠ .resolving) m) :
      Keeps (Preserve fun t : Session => Run.Adds Obs.silent s.trace t.trace) m :=
    preserve_of_moves made fun _ _ _ allowed move held => silent_move allowed move held
  cases l with
  | createPairing privateKey channelId deferTransport =>
    change Run.Adds _ _ (after (createPairing C privateKey channelId deferTransport) { s with inputs := inputs }).trace
    unfold createPairing resetPairing
    rw [after_modify_bind]
    exact kept (announcePairing_moves (by constructor <;> rintro ⟨⟩) (by constructor <;> rintro ⟨⟩) C _ _ _) _ (Run.Adds.refl _)
  | restore snapshot =>
    have restored : Keeps (Preserve fun t : Session => Run.Adds Obs.silent s.trace t.trace) (restoreSafely snapshot) :=
      restoreSafely_rule (fun f same t held => by rw [after_modify, (same t).trace]; exact held)
        (kept (setPhase_moves _ (Or.inr (by constructor <;> rintro ⟨⟩)))) snapshot
    exact Keeps.bind restored (fun _ => .pure _) { s with inputs := inputs } (Run.Adds.refl _)
  | crash => exact absurd rfl alive
  | message msg => cases quiet
  | settle ticket resolves => cases quiet
  | _ =>
    refine step_rule (I := fun t => Run.Adds Obs.silent s.trace t.trace) rfl ?_ (by rintro ticket resolves ⟨⟩) (fun _ _ _ => silent_move)
      (fun _ _ view held => by rwa [view.trace]) (Run.Adds.refl _)
    simp [Label.kinds]

/-! ### Closing -/

/-- A close message of this session can be sent. -/
def Session.canClose (s : Session) : Prop :=
  (⟨1, s.channelId, s.inputs.now, s.pubKeyB64, .close "normal"⟩ : ProtocolMessage).wireBytes ≤ maxMessageBytes

instance (s : Session) : Decidable s.canClose := inferInstanceAs (Decidable (_ ≤ _))

/-- What the close message is made of stays the same while the pending requests are rejected. -/
theorem rejectAllPending_names (error channelId pubKeyB64 : String) (now : Nat) :
    Triple (fun t => t.channelId = channelId ∧ t.inputs.now = now ∧ t.pubKeyB64 = pubKeyB64) (rejectAllPending error)
      (fun _ t => t.channelId = channelId ∧ t.inputs.now = now ∧ t.pubKeyB64 = pubKeyB64) (fun _ => False) := by
  have settled (promise : Nat) (outcome : Outcome) :
      Triple (fun t => t.channelId = channelId ∧ t.inputs.now = now ∧ t.pubKeyB64 = pubKeyB64) (settle promise outcome)
        (fun _ t => t.channelId = channelId ∧ t.inputs.now = now ∧ t.pubKeyB64 = pubKeyB64) (fun _ => False) :=
    .modify fun t held => by split <;> exact held
  exact .read fun s held => .start (.bind (.forM _ _ fun req _ => .bind (.modify fun _ held => held) fun _ => settled _ _)
    fun _ => .modify fun _ held => held) held

theorem setPhase_closed (s : Session) : (after (setPhase .closed) s).phase = .closed := by
  have link := congrArg Link.phase (setPhase_link .closed s)
  by_cases same : s.phase = .closed
  · rw [if_pos same] at link
    exact link.trans same
  · rw [if_neg same] at link
    exact link

/-- A session that can send its close message ends closed, whatever its listeners do. -/
theorem close_closed (fits : s.canClose) : (after (close "normal") s).phase = .closed := by
  let v : Session := { s with
    intentionalClose := true, staleBelow := s.ticket, pendingAcceptTimer := none
    timers := (s.timers.clearSessionTtl).stopReconnect }
  have body : after (close "normal") s = after (rejectAllPending "Session closed" >>= fun _ => (do
    let s ← get
    if s.channelId ≠ "" then sendRaw (.close "normal") none
    clearPersistence
    setPhase .closed : M Unit)) v := rfl
  obtain ⟨_, u, run, channel, now, key⟩ :=
    (rejectAllPending_names "Session closed" s.channelId s.pubKeyB64 s.inputs.now).returns (s := v) ⟨rfl, rfl, rfl⟩
  have sends : sendRaw (.close "normal") none u =
      .ok () { u with trace := u.trace ++
        [.sent ⟨1, u.channelId, u.inputs.now, u.pubKeyB64, .close "normal"⟩ none u.journal.disk] } := by
    unfold Session.canClose at fits
    rw [← channel, ← now, ← key] at fits
    unfold sendRaw
    rw [get_bind_apply, if_neg (Nat.not_lt.mpr fits)]
    rfl
  rw [body, Program.after_bind, run]
  dsimp only
  rw [after_get_bind]
  by_cases paired : u.channelId ≠ ""
  · rw [if_pos paired, Program.after_bind, sends]
    exact setPhase_closed _
  · rw [if_neg paired]
    exact setPhase_closed _

end

end WalletPair.Sdk.DApp
