import WalletPair.Sdk.Wallet.Loop

/-! What the methods of the wallet session can do to the fields that the protocol's
guarantees are about, as a relation of atomic moves; sending, receiving and the
bookkeeping of requests are told apart. -/

namespace WalletPair.Sdk.Wallet
open WalletPair.Lib WalletPair.Lib.Program

inductive Kind where
  | plain
  | phase (phase : Phase)
  | lifetime
  | forget
  | peer
  | offer
  | sending
  | receiving
  | caching
  | saving
  deriving DecidableEq

/-- Closing can end any method, so it goes with the moves that matter to nobody. -/
def Kind.quiet : Kind → Bool
  | .plain => true
  | .phase .closed => true
  | .forget => true
  | _ => false

def Task.kind : Task → Kind
  | .respond _ _ _ _ _ _ => .sending
  | .event _ _ _ _ => .sending
  | .request _ _ _ => .receiving
  | .join _ _ _ _ _ => .offer
  | .snapshot => .saving
  | .cleared => .plain

/-- Frames without a payload of the application, by what they are for. -/
def bodyKind : Body → Kind
  | .create _ => .offer
  | .accept _ => .offer
  | .join _ => .offer
  | .req _ _ => .sending
  | .res _ _ => .sending
  | .evt _ _ => .sending
  | _ => .plain

def Obs.kind : Obs → Kind
  | .emitted (.request _ _ _) => .caching
  | .emitted _ => .plain
  | .prompting _ _ => .caching
  | .sealing _ => .sending
  | .sent message none _ => bodyKind message.body
  | .sent _ (some _) _ => .sending
  | .delivered _ => .receiving
  | .approving _ _ => .caching
  | .answering _ _ _ => .caching
  | .recorded _ _ => .caching
  | .broadcast _ => .caching
  | .reused _ => .caching

/-- The incidental fields of `u`, and all others of `s`. -/
def Session.adjusted (s u : Session) : Session :=
  { s with
    url := u.url
    timers := { u.timers with sessionTtl := s.timers.sessionTtl }
    reconnecting := u.reconnecting
    reconnectAttempt := u.reconnectAttempt
    reconnectStartedAt := u.reconnectStartedAt
    intentionalClose := u.intentionalClose
    staleBelow := u.staleBelow
    evtCounter := u.evtCounter
    connects := u.connects
    inputs := { s.inputs with throws := u.inputs.throws } }

/-- One atomic change of the session. -/
inductive Move (s : Session) : Kind → Session → Prop where
  | adjust (u : Session) : Move s .plain (s.adjusted u)
  | tick (u : Session) : Move s .plain { s.adjusted u with ticket := s.ticket + 1 }
  | note (o : Obs) : Move s o.kind { s with trace := s.trace ++ [o] }
  | phase (phase : Phase) (u : Session) : Move s (.phase phase) { s.adjusted u with phase }
  | lapse : Move s .plain { s with timers := s.timers.clearSessionTtl }
  | live (start : Nat) (known : start = s.sessionStartTime.getD s.inputs.now) : Move s .lifetime { s with
      sessionStartTime := some start
      timers := s.timers.startSessionTtl s.options.sessionTtl start s.inputs.now }
  | forget : Move s .forget { s with
      pendingRequestRecords := .empty, idempotencyCache := .empty, broadcastResponseCache := .empty }
  | rekey (sendKey recvKey : Bytes) : Move s .peer { s with sendKey := some sendKey, recvKey := some recvKey }
  | fingerprint (code : String) : Move s .peer { s with sessionFingerprint := code }
  | joinKey (key : Option Bytes) : Move s .offer { s with sessionKey := key }
  | save (task : Task) (snapshot : Snapshot) (adapter : Persistence)
    (configured : s.options.persistence = some adapter) (async : adapter.async = true)
    (current : s.serialize = some snapshot) :
    Move s task.kind { s with ticket := s.ticket + 1, journal := s.journal.enqueue s.ticket (some snapshot) task }
  | put (task : Task) (snapshot : Snapshot) (adapter : Persistence)
    (configured : s.options.persistence = some adapter) (sync : adapter.async = false)
    (current : s.serialize = some snapshot) : Move s task.kind { s with journal := s.journal.put (some snapshot) }
  | clear (adapter : Persistence) (configured : s.options.persistence = some adapter) (async : adapter.async = true) :
    Move s .plain { s with ticket := s.ticket + 1, journal := s.journal.enqueue s.ticket none .cleared }
  | wipe (adapter : Persistence) (configured : s.options.persistence = some adapter) (sync : adapter.async = false) :
    Move s .plain { s with journal := s.journal.put none }
  | reserve : Move s .sending { s with sendSeq := s.sendSeq + 1 }
  | receive (seq : Int) : Move s .receiving { s with recvSeq := seq }
  | cache (pending : OrderedMap PendingRequestRecord) (idempotency broadcast : OrderedMap CachedRequestResponse) :
    Move s .caching { s with
      pendingRequestRecords := pending, idempotencyCache := idempotency, broadcastResponseCache := broadcast }

/-- Chains of quiet moves and moves of the kinds in `ok`. -/
abbrev Moves (ok : Kind → Prop) : Session → Session → Prop :=
  Relation.ReflTransGen (fun s t => ∃ k, (k.quiet = true ∨ ok k) ∧ Move s k t)

theorem moves_mono {ok weaker : Kind → Prop} {s t : Session} (imp : ∀ k, ok k → weaker k) (made : Moves ok s t) :
    Moves weaker s t :=
  Relation.ReflTransGen.mono (fun _ _ ⟨k, allowed, move⟩ => ⟨k, allowed.imp_right (imp k), move⟩) _ _ made

/-- A program made of moves keeps what each of its moves keeps. -/
theorem preserve_of_moves {α : Type} {m : M α} {ok : Kind → Prop} {I : Session → Prop} (made : Keeps (Moves ok) m)
    (each : ∀ s t k, k.quiet = true ∨ ok k → Move s k t → I s → I t) : Keeps (Preserve I) m :=
  made.preserve fun s t ⟨k, allowed, move⟩ => each s t k allowed move

/-- Moves only add to the record, and only what their kinds allow. -/
theorem notes_of_moves {ok : Kind → Prop} {s t : Session} (made : Moves ok s t) :
    ∃ more, t.trace = s.trace ++ more ∧ ∀ o ∈ more, o.kind.quiet = true ∨ ok o.kind := by
  induction made with
  | refl => exact ⟨[], by simp, by simp⟩
  | tail _ move ih =>
    obtain ⟨more, grown, kinds⟩ := ih
    obtain ⟨k, allowed, move⟩ := move
    cases move with
    | note o =>
      refine ⟨more ++ [o], by rw [grown, List.append_assoc], fun p member => ?_⟩
      rcases List.mem_append.mp member with old | new
      · exact kinds p old
      · rw [List.mem_singleton.mp new]
        exact allowed
    | _ => exact ⟨more, grown, kinds⟩

/-- The record only grows. -/
def Grows (s t : Session) : Prop := s.trace <+: t.trace

instance : Std.Refl Grows := ⟨fun _ => List.prefix_rfl⟩

/-- Whatever a program of moves does, it only adds to the record. -/
theorem grows_of_moves {α : Type} {m : M α} (made : Keeps (Moves fun _ => True) m) : Keeps Grows m := by
  intro s
  obtain ⟨more, grown, -⟩ := notes_of_moves (made s)
  exact ⟨more, grown.symm⟩

section Effects
variable {ok : Kind → Prop}

theorem moves_of {f : Session → Session} {k : Kind} (each : ∀ s, Move s k (f s))
    (allowed : k.quiet = true ∨ ok k) : Keeps (Moves ok) (modify f) :=
  fun s => .single ⟨k, allowed, each s⟩

/-- A change of incidental fields only. -/
theorem moves_adjusting {f : Session → Session} (same : ∀ s, f s = s.adjusted (f s)) :
    Keeps (Moves ok) (modify f) := by
  intro s
  have move := Move.adjust (s := s) (f s)
  rw [← same s] at move
  exact .single ⟨.plain, Or.inl rfl, move⟩

theorem record_moves {o : Obs} (allowed : o.kind.quiet = true ∨ ok o.kind) : Keeps (Moves ok) (record o) :=
  moves_of (fun _ => .note o) allowed

theorem emit_moves (event : Event)
    (allowed : (Obs.emitted event).kind.quiet = true ∨ ok (Obs.emitted event).kind) :
    Keeps (Moves ok) (emit event) := by
  refine .bind .get fun s => .ite (.pure _) (.bind (record_moves allowed) fun _ => ?_)
  cases s.inputs.throws with
  | nil => exact .pure _
  | cons throws rest => exact .bind (moves_adjusting fun _ => rfl) fun _ => .ite (.throw _) (.pure _)

theorem report_moves (message : String) : Keeps (Moves ok) (emit (.error message)) := emit_moves _ (Or.inl rfl)

theorem sendMessage_moves (message : ProtocolMessage)
    (allowed : (bodyKind message.body).quiet = true ∨ ok (bodyKind message.body)) :
    Keeps (Moves ok) (sendMessage message none) :=
  .bind .get fun _ => .ite (report_moves _) (record_moves allowed)

theorem sendRaw_moves (body : Body) (allowed : (bodyKind body).quiet = true ∨ ok (bodyKind body)) :
    Keeps (Moves ok) (sendRaw body none) :=
  .bind .get fun _ => sendMessage_moves _ allowed

theorem sendFrame_moves (sending : ok .sending) (body : Body) (frame : Sealed) :
    Keeps (Moves ok) (sendRaw body (some frame)) :=
  .bind .get fun _ => .bind .get fun _ => .ite (report_moves _) (record_moves (Or.inr sending))

/-- What `persistSnapshot` can do: nothing without an adapter, throw without a key pair,
leave the task waiting, or save at once. -/
theorem persistSnapshot_cases (task : Task) (s : Session) :
    (s.options.persistence = none ∧ persistSnapshot task s = .ok false s) ∨
    (∃ adapter, s.options.persistence = some adapter ∧ s.serialize = none ∧
      persistSnapshot task s = .error "serialize" s) ∨
    (∃ adapter snapshot, s.options.persistence = some adapter ∧ adapter.async = true ∧
      s.serialize = some snapshot ∧ persistSnapshot task s =
        .ok true { s with ticket := s.ticket + 1, journal := s.journal.enqueue s.ticket (some snapshot) task }) ∨
    (∃ adapter snapshot, s.options.persistence = some adapter ∧ adapter.async = false ∧
      s.serialize = some snapshot ∧
      persistSnapshot task s = .ok false { s with journal := s.journal.put (some snapshot) }) := by
  cases configured : s.options.persistence with
  | none =>
    left
    exact ⟨rfl, by simp [persistSnapshot, configured]⟩
  | some adapter =>
    right
    cases current : s.serialize with
    | none =>
      left
      exact ⟨adapter, rfl, rfl, by simp [persistSnapshot, configured, current]⟩
    | some snapshot =>
      right
      cases async : adapter.async with
      | true =>
        left
        exact ⟨adapter, snapshot, rfl, async, rfl, by simp [persistSnapshot, configured, current, async]⟩
      | false =>
        right
        exact ⟨adapter, snapshot, rfl, async, rfl, by simp [persistSnapshot, configured, current, async]⟩

theorem persistSnapshot_moves (task : Task) (allowed : task.kind.quiet = true ∨ ok task.kind) :
    Keeps (Moves ok) (persistSnapshot task) := by
  intro s
  rcases persistSnapshot_cases task s with ⟨-, run⟩ | ⟨adapter, -, -, run⟩ |
    ⟨adapter, snapshot, configured, async, current, run⟩ | ⟨adapter, snapshot, configured, sync, current, run⟩
  · rw [after_of_ok run]
  · rw [after_of_error run]
  · rw [after_of_ok run]
    exact .single ⟨task.kind, allowed, .save task snapshot adapter configured async current⟩
  · rw [after_of_ok run]
    exact .single ⟨task.kind, allowed, .put task snapshot adapter configured sync current⟩

theorem persistSnapshotAsync_moves (saves : ok .saving) : Keeps (Moves ok) persistSnapshotAsync :=
  .bind (persistSnapshot_moves .snapshot (Or.inr saves)) fun _ => .pure _

theorem clearPersistence_moves : Keeps (Moves ok) clearPersistence := by
  intro s
  unfold clearPersistence
  rw [after_modify]
  cases configured : s.options.persistence with
  | none => exact .refl
  | some adapter =>
    cases clears : adapter.clears with
    | false => simpa [clears] using .refl
    | true =>
      cases async : adapter.async with
      | true => simpa [clears, async] using .single ⟨.plain, Or.inl rfl, Move.clear adapter configured async⟩
      | false => simpa [clears, async] using .single ⟨.plain, Or.inl rfl, Move.wipe adapter configured async⟩

theorem setPhase_moves (phase : Phase) (allowed : (Kind.phase phase).quiet = true ∨ ok (.phase phase)) :
    Keeps (Moves ok) (setPhase phase) := by
  refine .bind .get fun _ => .ite (.pure _) (.bind ?_ fun _ => emit_moves _ (Or.inl rfl))
  refine moves_of (fun s => ?_) allowed
  have move := Move.phase (s := s) phase { s with
    timers := if phase = .connected then s.timers else s.timers.stopHeartbeat }
  by_cases opens : phase = .connected
  · simpa only [Session.adjusted, if_pos opens] using move
  · simpa only [Session.adjusted, Timers.stopHeartbeat, if_neg opens] using move

theorem stopReconnect_moves : Keeps (Moves ok) stopReconnect := moves_adjusting fun _ => rfl

theorem clearSessionTtl_moves : Keeps (Moves ok) clearSessionTtl := moves_of (fun _ => .lapse) (Or.inl rfl)

theorem startSessionTtl_moves (lives : ok .lifetime) : Keeps (Moves ok) startSessionTtl :=
  moves_of (fun s => .live (s.sessionStartTime.getD s.inputs.now) rfl) (Or.inr lives)

theorem startHeartbeat_moves : Keeps (Moves ok) startHeartbeat := by
  refine moves_adjusting fun s => ?_
  by_cases off : s.options.heartbeatInterval = 0
  · simp [Session.adjusted, Timers.startHeartbeat, Timers.stopHeartbeat, off]
  · simp [Session.adjusted, Timers.startHeartbeat, Timers.stopHeartbeat, off]

theorem forgetRequests_moves : Keeps (Moves ok) forgetRequests := moves_of (fun _ => .forget) (Or.inl rfl)

theorem close_moves (reason : String) : Keeps (Moves ok) (close reason) := by
  have rest : Keeps (Moves ok) (do clearPersistence; setPhase .closed) :=
    .bind clearPersistence_moves fun _ => setPhase_moves _ (Or.inl rfl)
  exact .bind (moves_adjusting fun _ => rfl) fun _ => .bind stopReconnect_moves fun _ =>
    .bind clearSessionTtl_moves fun _ => .bind forgetRequests_moves fun _ => .bind .get fun _ =>
    .ite (.bind (sendRaw_moves _ (Or.inl rfl)) fun _ => rest) rest

theorem persistenceError_moves (error : String) : Keeps (Moves ok) (persistenceError error) :=
  .bind (report_moves _) fun _ => .bind (close_moves _) fun _ => .pure _

end Effects

/-! ### Joining and reconnecting -/

section Link
variable {ok : Kind → Prop} (C : Crypto)

theorem setTransportUrl_moves : Keeps (Moves ok) setTransportUrl := by
  refine moves_adjusting fun s => ?_
  split <;> rfl

theorem awaitConnect_moves (next : Await) : Keeps (Moves ok) (awaitConnect next) :=
  moves_of (fun s => .tick { s with connects := s.connects ++ [(s.ticket, next)] }) (Or.inl rfl)

theorem doReconnectAttempt_moves : Keeps (Moves ok) doReconnectAttempt :=
  .bind .get fun _ => .ite (.pure _)
    (.ite (.bind setTransportUrl_moves fun _ => awaitConnect_moves _) (awaitConnect_moves _))

theorem giveUpReconnect_moves : Keeps (Moves ok) giveUpReconnect :=
  .bind stopReconnect_moves fun _ => .bind (moves_adjusting fun _ => rfl) fun _ => .bind .get fun _ =>
    .bind forgetRequests_moves fun _ => .bind clearPersistence_moves fun _ =>
    .bind (moves_adjusting fun _ => rfl) fun _ => .bind (emit_moves _ (Or.inl rfl)) fun _ =>
    setPhase_moves _ (Or.inl rfl)

theorem scheduleReconnect_moves : Keeps (Moves ok) scheduleReconnect := by
  refine .bind .get fun _ => .ite (.pure _) (.bind ?_ fun _ => .bind .get fun _ =>
    .ite giveUpReconnect_moves (moves_adjusting fun _ => rfl))
  refine moves_adjusting fun s => ?_
  split <;> rfl

theorem startReconnect_moves (drops : ok (.phase .disconnected)) : Keeps (Moves ok) startReconnect :=
  .bind .get fun _ => .bind (moves_adjusting fun _ => rfl) fun _ => .bind (setPhase_moves _ (Or.inr drops)) fun _ =>
    .ite (.bind (moves_adjusting fun _ => rfl) fun _ => scheduleReconnect_moves) scheduleReconnect_moves

theorem handleTransportClose_moves (drops : ok (.phase .disconnected)) : Keeps (Moves ok) handleTransportClose :=
  .bind .get fun _ => .ite (startReconnect_moves drops) (.pure _)

theorem ping_moves : Keeps (Moves ok) ping := .bind .get fun _ => .ite (sendRaw_moves _ (Or.inl rfl)) (.pure _)

theorem establishKeys_moves (peer : ok .peer) (offer : ok .offer) (remote privateKey : Bytes) :
    Keeps (Moves ok) (establishKeys C remote privateKey) :=
  .bind .get fun _ => .bind (.runExcept _) fun _ => .bind (.runExcept _) fun _ => .bind (.runExcept _) fun _ =>
    .bind (moves_of (fun _ => .rekey _ _) (Or.inr peer)) fun _ => .bind (.runExcept _) fun _ =>
    .bind (moves_of (fun _ => .fingerprint _) (Or.inr peer)) fun _ => .bind (emit_moves _ (Or.inl rfl)) fun _ => .bind (.runExcept _) fun _ =>
    moves_of (fun _ => .joinKey _) (Or.inr offer)

theorem confirmJoin_moves : Keeps (Moves ok) confirmJoin :=
  .bind .get fun _ => .ite (.bind (.throw _) fun _ => .bind setTransportUrl_moves fun _ => awaitConnect_moves _)
    (.bind setTransportUrl_moves fun _ => awaitConnect_moves _)

theorem takeSealedJoin_moves (offer : ok .offer) : Keeps (Moves ok) (takeSealedJoin C) := by
  refine .bind .get fun s => ?_
  cases s.sessionKey with
  | none => exact .pure _
  | some sessionKey =>
    exact .bind (.runExcept _) fun _ => .bind (moves_of (fun _ => .joinKey none) (Or.inr offer)) fun _ => .pure _

theorem sendJoin_moves (offer : ok .offer) (reconnecting : Bool) : Keeps (Moves ok) (sendJoin C reconnecting) :=
  .bind (takeSealedJoin_moves C offer) fun _ => .bind .get fun _ => .bind (persistSnapshot_moves _ (Or.inr offer)) fun _ =>
    .ite (.pure _) (sendMessage_moves _ (Or.inr offer))

theorem handleReady_moves (connects : ok (.phase .connected)) (lives : ok .lifetime)
    (waits : ok (.phase .waitingAccept)) (saves : ok .saving) (state remote : Option String) :
    Keeps (Moves ok) (handleReady state remote) :=
  .bind stopReconnect_moves fun _ => .bind .get fun _ => .ite
    (.ite (.bind (report_moves _) fun _ => close_moves _)
      (.bind (moves_adjusting fun _ => rfl) fun _ => .bind (setPhase_moves _ (Or.inr connects)) fun _ =>
        .bind (startSessionTtl_moves lives) fun _ => .bind startHeartbeat_moves fun _ =>
        persistSnapshotAsync_moves saves))
    (.ite (setPhase_moves _ (Or.inr waits)) (.pure _))

theorem handleClose_moves : Keeps (Moves ok) handleClose :=
  .bind .get fun _ => .ite
    (.bind forgetRequests_moves fun _ => .bind clearPersistence_moves fun _ =>
      .bind (setPhase_moves _ (Or.inl rfl)) fun _ => moves_adjusting fun _ => rfl)
    (.pure _)

theorem handleTerminate_moves (drops : ok (.phase .disconnected)) (reason : Option String) :
    Keeps (Moves ok) (handleTerminate reason) :=
  .bind .get fun _ => .ite (.pure _) (.ite (startReconnect_moves drops)
    (.bind forgetRequests_moves fun _ => .bind clearPersistence_moves fun _ =>
      .bind (setPhase_moves _ (Or.inl rfl)) fun _ => moves_adjusting fun _ => rfl))

theorem reconnect_moves (drops : ok (.phase .disconnected)) : Keeps (Moves ok) reconnect :=
  .bind (moves_adjusting fun _ => rfl) fun _ => .bind stopReconnect_moves fun _ =>
    .bind (setPhase_moves _ (Or.inr drops)) fun _ => .bind (moves_adjusting fun _ => rfl) fun _ =>
    doReconnectAttempt_moves

theorem observeSend_moves (observed : Bool) (error : String) : Keeps (Moves ok) (observeSend observed error) :=
  .ite (report_moves _) (.pure _)

theorem joinFailed_moves (reconnecting : Bool) (error : String) :
    Keeps (Moves ok) (joinFailed reconnecting error) :=
  .tryCatch (.bind (persistenceError_moves _) fun _ => .ite scheduleReconnect_moves (.pure _))
    fun _ => .ite scheduleReconnect_moves (.pure _)

theorem connected_moves (waits : ok (.phase .waitingAccept)) (offer : ok .offer) (next : Await) (opened : Bool) :
    Keeps (Moves ok) (connected C next opened) := by
  have joined (reconnecting : Bool) : Keeps (Moves ok) (do setPhase .waitingAccept; sendJoin C reconnecting) :=
    .bind (setPhase_moves _ (Or.inr waits)) fun _ => sendJoin_moves C offer _
  match next, opened with
  | .confirm, true => exact joined false
  | .confirm, false => exact .pure _
  | .reconnect, true => exact .tryCatch (joined true) fun _ => scheduleReconnect_moves
  | .reconnect, false => exact scheduleReconnect_moves

theorem settleConnect_moves (waits : ok (.phase .waitingAccept)) (offer : ok .offer) (ticket : Nat)
    (opened : Bool) : Keeps (Moves ok) (settleConnect C ticket opened) := by
  refine .bind .get fun s => ?_
  cases s.connects.find? (fun c => c.1 == ticket) with
  | none => exact .pure _
  | some c => exact .bind (moves_adjusting fun _ => rfl) fun _ => connected_moves C waits offer c.2 opened

theorem fire_moves (name : TimerName) (drops : name = .liveness → ok (.phase .disconnected)) :
    Keeps (Moves ok) (fire name) := by
  refine .bind .get fun s => ?_
  cases name with
  | reconnect =>
    exact .ite (.bind (moves_adjusting fun _ => rfl) fun _ => .bind doReconnectAttempt_moves fun _ =>
      moves_adjusting fun _ => rfl) (.pure _)
  | heartbeat =>
    refine .ite (.bind (moves_adjusting fun _ => rfl) fun _ => .ite (.bind ping_moves fun _ => ?_) (.pure _)) (.pure _)
    refine moves_adjusting fun s => ?_
    split <;> rfl
  | liveness =>
    exact .ite (.bind (moves_adjusting fun _ => rfl) fun _ => handleTransportClose_moves (drops rfl)) (.pure _)
  | sessionTtl =>
    exact .ite (.bind clearSessionTtl_moves fun _ => .bind (report_moves _) fun _ => close_moves _) (.pure _)

end Link

/-! ### Sending -/

section Sending
variable {ok : Kind → Prop} (C : Crypto)

theorem nextSendSeq_moves (sending : ok .sending) (task : Nat → Task) (held : ∀ n, (task n).kind = .sending) :
    Keeps (Moves ok) (nextSendSeq task) :=
  .bind .get fun _ => .ite (.bind (report_moves _) fun _ => .bind (close_moves _) fun _ => .pure _)
    (.bind (moves_of (fun _ => .reserve) (Or.inr sending)) fun _ =>
      .bind (persistSnapshot_moves _ (Or.inr (by rw [held]; exact sending))) fun _ => .ite (.pure _) (.pure _))

theorem sendSealed_moves (sending : ok .sending) (type : AadType) (id : String) (seq : Nat) (payload : Json)
    (body : Option String → Body) : Keeps (Moves ok) (sendSealed C type id seq payload body) := by
  refine .bind .get fun s => ?_
  cases s.sendKey with
  | none => exact .pure _
  | some sendKey =>
    dsimp only
    cases sealPayload C sendKey s.channelId seq payload ⟨type, s.pubKeyB64, id⟩ with
    | error e => exact .throw _
    | ok made =>
      exact .bind (record_moves (Or.inr sending)) fun _ => .bind (sendFrame_moves sending _ _) fun _ => .pure _

theorem sendEvent_moves (sending : ok .sending) (name : String) (data : Option Json) (evtId : String)
    (seq : Nat) : Keeps (Moves ok) (sendEvent C name data evtId seq) :=
  .bind (sendSealed_moves C sending _ _ _ _ _) fun _ => .pure _

theorem pushEvent_moves (sending : ok .sending) (name : String) (data : Option Json) :
    Keeps (Moves ok) (pushEvent C name data) := by
  refine .bind .get fun _ => .ite (.pure _) (.bind (nextSendSeq_moves sending _ fun _ => rfl) fun reserved =>
    .bind (moves_adjusting fun _ => rfl) fun _ => ?_)
  cases reserved with
  | exhausted => exact .pure _
  | reserved seq => exact sendEvent_moves C sending _ _ _ _
  | waits => exact .pure _

theorem cacheProcessedResponse_moves (caching : ok .caching) (id : String) (answer : Bool)
    (data : Option Json) : Keeps (Moves ok) (cacheProcessedResponse id answer data) := by
  refine .bind .get fun s => ?_
  cases s.pendingRequestRecords.get id with
  | none => exact .pure _
  | some pending =>
    exact .bind (moves_of (fun s => .cache _ _ s.broadcastResponseCache) (Or.inr caching)) fun _ =>
      .bind (record_moves (Or.inr caching)) fun _ => .ite
        (.bind (moves_of (fun s => .cache s.pendingRequestRecords s.idempotencyCache _) (Or.inr caching)) fun _ =>
          record_moves (Or.inr caching))
        (.pure _)

variable (sending : ok .sending) (caching : ok .caching)
include sending caching

theorem sendAnswer_moves (id : String) (answer : Bool) (data : Option Json) (caches : Bool) (seq : Nat) :
    Keeps (Moves ok) (sendAnswer C id answer data caches seq) :=
  .bind (sendSealed_moves C sending _ _ _ _ _) fun _ =>
    .ite (.bind (cacheProcessedResponse_moves caching _ _ _) fun _ => .pure _) (.pure _)

theorem sendResponse_moves (id : String) (answer : Bool) (data : Option Json) (caches observed : Bool) :
    Keeps (Moves ok) (sendResponse C id answer data caches observed) := by
  refine .bind .get fun _ => .ite (.pure _) (.bind (nextSendSeq_moves sending _ fun _ => rfl) fun reserved => ?_)
  cases reserved with
  | exhausted => exact .pure _
  | reserved seq => exact .bind (sendAnswer_moves C sending caching _ _ _ _ _) fun _ => .pure _
  | waits => exact .pure _

theorem approve_moves (id : String) (result : Option Json) : Keeps (Moves ok) (approve C id result) :=
  .bind (record_moves (Or.inr caching)) fun _ => sendResponse_moves C sending caching _ _ _ _ _

theorem reject_moves (id code message : String) (observed : Bool) :
    Keeps (Moves ok) (reject C id code message observed) :=
  sendResponse_moves C sending caching _ _ _ _ _

theorem replay_moves (id : String) (entry : CachedRequestResponse) : Keeps (Moves ok) (replay C id entry) :=
  .bind (record_moves (Or.inr caching)) fun _ => sendResponse_moves C sending caching _ _ _ _ _

theorem promptRequest_moves (id method : String) (params : Json) (paramsHash : String) (plaintext : Bytes) :
    Keeps (Moves ok) (promptRequest C id method params paramsHash plaintext) := by
  refine .bind .get fun s => ?_
  cases s.pendingRequestRecords.get id with
  | some pending => exact .ite (.pure _) (reject_moves C sending caching _ _ _ _)
  | none =>
    exact .ite (reject_moves C sending caching _ _ _ _)
      (.bind (moves_of (fun s => .cache _ s.idempotencyCache s.broadcastResponseCache) (Or.inr caching)) fun _ =>
        .bind (record_moves (Or.inr caching)) fun _ => emit_moves _ (Or.inr caching))

theorem dispatchRequest_moves (id method : String) (params : Json) (paramsHash : String)
    (plaintext : Bytes) : Keeps (Moves ok) (dispatchRequest C id method params paramsHash plaintext) := by
  have mismatch := reject_moves C sending caching id "invalid_params" "Duplicate request ID with different params" true
  refine .bind .get fun s => ?_
  cases s.broadcastResponseCache.get id with
  | some cachedBroadcast => exact .ite (replay_moves C sending caching _ _) mismatch
  | none =>
    dsimp only
    cases s.idempotencyCache.get id with
    | none => exact promptRequest_moves C sending caching _ _ _ _ _
    | some cached =>
      refine .ite (.bind (.bind ?_ fun _ => record_moves (Or.inr caching)) fun _ =>
        .ite (promptRequest_moves C sending caching _ _ _ _ _) (replay_moves C sending caching _ _)) mismatch
      exact moves_of (fun s => .cache s.pendingRequestRecords _ s.broadcastResponseCache) (Or.inr caching)

theorem processRequest_moves (id : String) (data : Json) (plaintext : Bytes) :
    Keeps (Moves ok) (processRequest C id data plaintext) := by
  refine .bind .get fun s => ?_
  cases methodOf data with
  | none => exact reject_moves C sending caching _ _ _ _
  | some method =>
    exact .ite (dispatchRequest_moves C sending caching _ _ _ _ _) (reject_moves C sending caching _ _ _ _)

end Sending

/-! ### Receiving and continuations -/

section Receiving
variable {ok : Kind → Prop} (C : Crypto)

/-- The moves of a request that is opened, looked up, and answered or shown. -/
structure Serving (ok : Kind → Prop) : Prop where
  sending : ok .sending
  receiving : ok .receiving
  caching : ok .caching

theorem deliverRequest_moves (serves : Serving ok) (frame : Delivery) (data : Json) :
    Keeps (Moves ok) (deliverRequest C frame data) :=
  .bind (record_moves (Or.inr serves.receiving)) fun _ => processRequest_moves C serves.sending serves.caching _ _ _

theorem openRequest_moves (serves : Serving ok) (recvKey : Bytes) (sender id envelope : String) :
    Keeps (Moves ok) (openRequest C recvKey sender id envelope) :=
  .bind .get fun _ => .bind (.runExcept _) fun _ => .ite (.pure _)
    (.bind (moves_of (fun _ => .receive _) (Or.inr serves.receiving)) fun _ =>
      .bind (persistSnapshot_moves _ (Or.inr serves.receiving)) fun _ =>
      .ite (.pure _) (deliverRequest_moves C serves _ _))

theorem handleRequest_moves (serves : Serving ok) (sender : String) (id envelope : Option String) :
    Keeps (Moves ok) (handleRequest C sender id envelope) := by
  have refused (id code message : String) := reject_moves C serves.sending serves.caching id code message true
  refine .bind .get fun s => .ite (.pure _) ?_
  cases nonEmpty id with
  | none => exact .pure _
  | some id =>
    dsimp only
    split
    · exact .tryCatch (openRequest_moves C serves _ _ _ _) fun _ => refused _ _ _
    · exact refused _ _ _

/-- The continuation of a receive puts the counter back when anything in it throws. -/
theorem rollback_moves (receiving : ok .receiving) (prevRecvSeq : Int) (error : String) :
    Keeps (Moves ok) (do
      modify fun s => { s with recvSeq := prevRecvSeq }
      let wrapped ← persistenceError error
      emit (.error wrapped)) :=
  .bind (moves_of (fun _ => .receive prevRecvSeq) (Or.inr receiving)) fun _ =>
    .bind (persistenceError_moves error) fun _ => report_moves _

/-- A resumed task moves within its own kind; an answer may also be recorded. -/
theorem resume_moves (task : Task) (own : ok task.kind) (caching : task.kind = .sending → ok .caching)
    (serves : task.kind = .receiving → Serving ok) : Keeps (Moves ok) (resume C task) := by
  cases task with
  | respond id answer data caches observed seq =>
    exact .tryCatch (.bind (sendAnswer_moves C own (caching rfl) _ _ _ _ _) fun _ => .pure _)
      fun _ => observeSend_moves _ _
  | event name data evtId seq => exact .tryCatch (sendEvent_moves C own _ _ _ _) fun _ => .pure _
  | request frame data prevRecvSeq =>
    exact .tryCatch (deliverRequest_moves C (serves rfl) _ _) fun e => rollback_moves own prevRecvSeq e
  | join channelId sender ts sealedJoin reconnecting =>
    exact .tryCatch (sendMessage_moves _ (Or.inr own)) fun _ => joinFailed_moves _ _
  | snapshot => exact .pure _
  | cleared => exact .pure _

/-- A rejected save closes the session; only a receive puts its counter back. -/
theorem fail_task_moves (error : String) (task : Task) (receiving : task.kind = .receiving → ok .receiving) :
    Keeps (Moves ok) (fail error task) := by
  cases task with
  | respond id answer data caches observed seq =>
    exact .tryCatch (.bind (persistenceError_moves _) fun _ => .throw _) fun _ => observeSend_moves _ _
  | event name data evtId seq => exact .bind (persistenceError_moves _) fun _ => .pure _
  | request frame data prevRecvSeq => exact rollback_moves (receiving rfl) prevRecvSeq error
  | join channelId sender ts sealedJoin reconnecting => exact joinFailed_moves _ _
  | snapshot => exact .bind (persistenceError_moves _) fun _ => .pure _
  | cleared => exact report_moves _

end Receiving

/-! ### Whole labels -/

section Labels
variable (C : Crypto)

/-- Settling a call does nothing, or runs one of its two continuations without the call. -/
theorem settleCall_cases (ticket : Nat) (resolves : Bool) (s : Session) :
    after (settleCall C ticket resolves) s = s ∨ ∃ call, s.journal.find ticket = some call ∧
      (resolves = true ∧ call.durable = true ∧ after (settleCall C ticket resolves) s =
          after (resume C call.task) { s with journal := s.journal.remove ticket } ∨
        resolves = false ∧ after (settleCall C ticket resolves) s =
          after (fail "save" call.task) { s with journal := s.journal.remove ticket }) := by
  unfold settleCall
  rw [after_get_bind]
  cases found : s.journal.find ticket with
  | none => exact Or.inl rfl
  | some call =>
    cases resolves with
    | false => exact Or.inr ⟨call, rfl, Or.inr ⟨rfl, rfl⟩⟩
    | true =>
      by_cases durable : call.durable = true
      · refine Or.inr ⟨call, rfl, Or.inl ⟨rfl, durable, ?_⟩⟩
        simp only [if_pos, durable]
        rfl
      · left
        simp only [if_neg durable, if_true]
        rfl

/-- The continuation of a save that has reached storage. -/
theorem settleCall_durable {ticket : Nat} {call : Call Snapshot Task} {s : Session}
    (found : s.journal.find ticket = some call) (durable : call.durable = true) :
    after (settleCall C ticket true) s = after (resume C call.task) { s with journal := s.journal.remove ticket } := by
  unfold settleCall
  rw [after_get_bind, found]
  simp only [if_pos, durable]
  rfl

/-- Settling a call: its continuation starts from the session without it. -/
theorem settleCall_rule {P I : Session → Prop} {ticket : Nat} {resolves : Bool} (idle : ∀ s, P s → I s)
    (goes : resolves = true → ∀ s call, P s → s.journal.find ticket = some call → call.durable = true →
      Triple (fun t => t = { s with journal := s.journal.remove ticket }) (resume C call.task) (fun _ => I) I)
    (fails : resolves = false → ∀ s call, P s → s.journal.find ticket = some call →
      Triple (fun t => t = { s with journal := s.journal.remove ticket }) (fail "save" call.task) (fun _ => I) I) :
    Triple P (settleCall C ticket resolves) (fun _ => I) I := by
  refine .read fun s held => ?_
  have same : Triple (fun t => t = s) (modify fun s => { s with journal := s.journal.remove ticket } : M PUnit)
      (fun _ t => t = { s with journal := s.journal.remove ticket }) I := .modify fun _ same => by rw [same]
  cases found : s.journal.find ticket with
  | none => exact .pure fun _ same => same ▸ idle s held
  | some call =>
    refine .ite (fun resolved => .ite (fun durable => .bind same fun _ => ?_) fun _ =>
      .pure fun _ same => same ▸ idle s held) (fun rejected => .bind same fun _ => ?_)
    · exact goes resolved s call held found durable
    · exact fails (by simpa using rejected) s call held found

/-- Labels that only make moves; the others reset the session, restore it, or touch the queue. -/
def Label.moving : Label → Bool
  | .prepareJoin _ _ => false
  | .restore _ => false
  | .destroy => false
  | .flush _ => false
  | .settle _ _ => false
  | .crash => false
  | _ => true

/-- The moves an inbound message can cause. -/
def messageKinds : Body → List Kind
  | .ready _ _ => [.lifetime, .phase .connected, .phase .waitingAccept, .saving]
  | .req _ _ => [.sending, .receiving, .caching]
  | .terminate _ => [.phase .disconnected]
  | _ => []

/-- The moves a label can make. -/
def Label.kinds : Label → List Kind
  | .approve _ _ => [.sending, .caching]
  | .reject _ _ _ => [.sending, .caching]
  | .pushEvent _ _ => [.sending]
  | .reconnect => [.phase .disconnected]
  | .transportClose => [.phase .disconnected]
  | .fire _ => [.phase .disconnected]
  | .connect _ _ => [.phase .waitingAccept, .offer]
  | .message msg => messageKinds msg.body
  | _ => []

theorem handleMessage_moves (msg : ProtocolMessage) :
    Keeps (Moves (· ∈ messageKinds msg.body)) (handleMessage C msg) := by
  obtain ⟨v, ch, ts, sender, body⟩ := msg
  refine .ite (report_moves _) (.ite (close_moves _) ?_)
  cases body with
  | ready state remote =>
    exact handleReady_moves (by simp [messageKinds]) (by simp [messageKinds]) (by simp [messageKinds])
      (by simp [messageKinds]) state remote
  | req id envelope =>
    exact handleRequest_moves C ⟨by simp [messageKinds], by simp [messageKinds], by simp [messageKinds]⟩ _ _ _
  | ping => exact sendRaw_moves _ (Or.inl rfl)
  | pong => exact moves_adjusting fun _ => rfl
  | close reason => exact handleClose_moves
  | terminate reason => exact handleTerminate_moves (by simp [messageKinds]) reason
  | create dappMeta => exact .pure _
  | join sealedJoin => exact .pure _
  | accept target => exact .pure _
  | res id envelope => exact .pure _
  | evt id envelope => exact .pure _

theorem act_moves (label : Label) (moving : label.moving = true) :
    Keeps (Moves (· ∈ label.kinds)) (act C label) := by
  cases label with
  | prepareJoin parsed privateKey => cases moving
  | restore snapshot => cases moving
  | destroy => cases moving
  | flush ticket => cases moving
  | settle ticket ok => cases moving
  | crash => cases moving
  | confirmJoin => exact confirmJoin_moves
  | approve id result => exact approve_moves C (by simp [Label.kinds]) (by simp [Label.kinds]) id result
  | reject id code message => exact reject_moves C (by simp [Label.kinds]) (by simp [Label.kinds]) _ _ _ _
  | pushEvent name data => exact pushEvent_moves C (by simp [Label.kinds]) name data
  | ping => exact ping_moves
  | close reason => exact close_moves reason
  | reconnect => exact reconnect_moves (by simp [Label.kinds])
  | message msg => exact handleMessage_moves C msg
  | transportClose => exact handleTransportClose_moves (by simp [Label.kinds])
  | fire name => exact fire_moves name fun _ => by simp [Label.kinds]
  | connect ticket opened => exact settleConnect_moves C (by simp [Label.kinds]) (by simp [Label.kinds]) ticket opened

end Labels

/-! ### Every step -/

/-- The fields that restoring a snapshot and preparing a join leave alone. -/
structure Abreast (s t : Session) : Prop where
  options : t.options = s.options
  journal : t.journal = s.journal
  ticket : t.ticket = s.ticket
  trace : t.trace = s.trace

section Every
variable {I : Session → Prop} (C : Crypto)

theorem restoreSafely_rule (field : ∀ f : Session → Session, (∀ s, Abreast s (f s)) → Keeps (Preserve I) (modify f : M Unit))
    (opens : Keeps (Preserve I) (setPhase .connected)) (d : Snapshot) : Keeps (Preserve I) (restoreSafely C d) := by
  have remote : Keeps (Preserve I) (restoreRemote d.remotePubKeyB64) := by
    unfold restoreRemote
    split
    · exact field _ fun _ => ⟨rfl, rfl, rfl, rfl⟩
    · split
      · exact .throw _
      · exact field _ fun _ => ⟨rfl, rfl, rfl, rfl⟩
  exact .tryCatch (.ite (.pure _) (.bind (field _ fun _ => ⟨rfl, rfl, rfl, rfl⟩) fun _ => .bind remote fun _ =>
    .bind (field _ fun _ => ⟨rfl, rfl, rfl, rfl⟩) fun _ => .ite (.pure _) (.bind (field _ fun _ => ⟨rfl, rfl, rfl, rfl⟩)
    fun _ => .bind .get fun _ => .bind (.runExcept _) fun _ => .ite (.bind (field _ fun _ => ⟨rfl, rfl, rfl, rfl⟩) fun _ =>
    .bind opens fun _ => .pure _) (.pure _)))) fun _ => .pure _

/-- What every change of a session keeps: each move, the fields of a prepared join or a
restored session, and what happens to the queue. -/
structure StepRules (I : Session → Prop) : Prop where
  move : ∀ {s t : Session} {k : Kind}, Move s k t → I s → I t
  field : ∀ {s t : Session}, Abreast s t → I s → I t
  removes : ∀ {s : Session} (ticket : Nat), I s → I { s with journal := s.journal.remove ticket }
  flushes : ∀ {s : Session} (ticket : Nat), I s → I { s with journal := s.journal.flush ticket }
  crashes : ∀ {s : Session}, I s → I s.renewed

namespace StepRules

theorem kept (rules : StepRules I) {α : Type} {m : M α} (made : Keeps (Moves fun _ => True) m) : Keeps (Preserve I) m :=
  preserve_of_moves made fun _ _ _ _ move h => rules.move move h

theorem fields (rules : StepRules I) (f : Session → Session) (same : ∀ s, Abreast s (f s)) :
    Keeps (Preserve I) (modify f : M Unit) := fun s h => rules.field (same s) h

theorem settleCall (rules : StepRules I) (ticket : Nat) (resolves : Bool) :
    Keeps (Preserve I) (settleCall C ticket resolves) := by
  refine .bind .get fun s => ?_
  cases s.journal.find ticket with
  | none => exact .pure _
  | some call =>
    have removed : Keeps (Preserve I) (modify fun s => { s with journal := s.journal.remove ticket } : M Unit) :=
      fun s h => rules.removes ticket h
    have resumed : Keeps (Preserve I) (resume C call.task) :=
      rules.kept (resume_moves C call.task trivial (fun _ => trivial) fun _ => ⟨trivial, trivial, trivial⟩)
    exact .ite (.ite (.bind removed fun _ => resumed) (.pure _))
      (.bind removed fun _ => rules.kept (fail_task_moves "save" call.task fun _ => trivial))

theorem restart (rules : StepRules I) : Keeps (Preserve I) (restart C) := by
  refine .bind (fun s h => rules.crashes h) fun _ => .bind .get fun s => ?_
  cases s.journal.disk.contents with
  | none => exact .pure _
  | some snapshot =>
    have opens : Keeps (Preserve I) (setPhase .connected) := rules.kept (setPhase_moves _ (Or.inr trivial))
    exact .bind (restoreSafely_rule C rules.fields opens snapshot) fun _ => .pure _

theorem step (rules : StepRules I) {s : Session} {l : Inputs × Label} (h : I s) : I (step C s l) := by
  have kept : Keeps (Preserve I) (act C l.2) := by
    by_cases moving : l.2.moving = true
    · exact rules.kept fun s => moves_mono (fun _ _ => trivial) (act_moves C l.2 moving s)
    · cases shape : l.2 with
      | prepareJoin parsed privateKey =>
        exact .bind (rules.fields _ fun _ => ⟨rfl, rfl, rfl, rfl⟩) fun _ => .bind (.runExcept _) fun _ =>
          .bind (rules.fields _ fun _ => ⟨rfl, rfl, rfl, rfl⟩) fun _ =>
          rules.kept (establishKeys_moves C trivial trivial _ _)
      | destroy =>
        exact .bind (rules.kept (close_moves _)) fun _ => .bind (rules.fields _ fun _ => ⟨rfl, rfl, rfl, rfl⟩) fun _ =>
          .bind (rules.kept forgetRequests_moves) fun _ => rules.fields _ fun _ => ⟨rfl, rfl, rfl, rfl⟩
      | restore snapshot =>
        have opens : Keeps (Preserve I) (setPhase .connected) := rules.kept (setPhase_moves _ (Or.inr trivial))
        exact .bind (restoreSafely_rule C rules.fields opens snapshot) fun _ => .pure _
      | flush ticket => exact fun s h => rules.flushes ticket h
      | settle ticket resolves => exact rules.settleCall C ticket resolves
      | crash => exact rules.restart C
      | _ => simp [shape, Label.moving] at moving
  have start : I { s with inputs := l.1 } := rules.field (s := s) ⟨rfl, rfl, rfl, rfl⟩ h
  exact kept _ start

theorem run (rules : StepRules I) {s : Session} (labels : List (Inputs × Label)) (h : I s) :
    I (Run.run (Wallet.step C) s labels) := by
  induction labels generalizing s with
  | nil => exact h
  | cons l rest ih => exact ih (rules.step C h)

end StepRules

/-- The options of a session never change. -/
theorem options_rules (options : Options) : StepRules fun s => s.options = options where
  move := fun move same => by cases move <;> exact same
  field := fun same before => same.options.trans before
  removes := fun _ same => same
  flushes := fun _ same => same
  crashes := fun same => same

theorem step_options (s : Session) (l : Inputs × Label) : (step C s l).options = s.options :=
  (options_rules s.options).step C rfl

theorem run_options (s : Session) (labels : List (Inputs × Label)) :
    (Run.run (step C) s labels).options = s.options :=
  (options_rules s.options).run C labels rfl

end Every

end WalletPair.Sdk.Wallet
