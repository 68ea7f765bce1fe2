import WalletPair.Sdk.DApp.Loop

/-! What the methods of the dApp session can do to the fields that the protocol's
guarantees are about, said once as a relation of atomic moves. The moves come in kinds,
so that a fact about sending does not care about receiving or about the peer. -/

namespace WalletPair.Sdk.DApp
open WalletPair.Lib WalletPair.Lib.Program

inductive Kind where
  | plain
  | phase (phase : Phase)
  | lifetime
  | peer
  | keys
  | announce
  | offer
  | event
  | sending
  | receiving
  | resolving
  | taking
  | saving
  deriving DecidableEq

/-- Closing can end any method, so it goes with the moves that matter to nobody. -/
def Kind.quiet : Kind → Bool
  | .plain => true
  | .phase .closed => true
  | _ => false

def Task.kind : Task → Kind
  | .request _ _ _ _ _ => .sending
  | .resend _ _ _ _ _ => .sending
  | .response _ _ _ _ => .receiving
  | .event _ _ _ => .receiving
  | .accept _ => .saving
  | .snapshot => .saving
  | .cleared => .plain

/-- Frames without a payload of the application, by what they are for. -/
def bodyKind : Body → Kind
  | .create _ => .offer
  | .accept _ => .offer
  | .join _ => .offer
  | .req _ _ => .sending
  | .res _ _ => .sending
  | .evt _ _ => .sending
  | _ => .plain

def Obs.kind : Obs → Kind
  | .emitted (.walletJoined _ _) => .offer
  | .emitted (.event _ _) => .event
  | .sealing _ => .sending
  | .sent _ (some _) _ => .sending
  | .sent message none _ => bodyKind message.body
  | .delivered _ => .receiving
  | .settled _ (.resolved _) => .resolving
  | .joinPending _ => .offer
  | .accepted _ => .offer
  | _ => .plain

/-- The incidental fields of `u`, and all others of `s`. -/
def Session.adjusted (s u : Session) : Session :=
  { s with
    url := u.url
    timers := { u.timers with sessionTtl := s.timers.sessionTtl }
    pendingAcceptTimer := u.pendingAcceptTimer
    orphanedAcceptTimers := u.orphanedAcceptTimers
    reconnecting := u.reconnecting
    reconnectAttempt := u.reconnectAttempt
    reconnectStartedAt := u.reconnectStartedAt
    intentionalClose := u.intentionalClose
    staleBelow := u.staleBelow
    connects := u.connects
    inputs := { s.inputs with throws := u.inputs.throws } }

/-- The promise has an outcome. -/
def Session.hasSettled (s : Session) (promise : Nat) : Bool :=
  s.trace.any fun o => match o with
    | .settled p _ => p == promise
    | _ => false

/-- One atomic change of the session. The map of pending requests loses one entry with its
timer, or all of them once their promises have an outcome. -/
inductive Move (s : Session) : Kind → Session → Prop where
  | adjust (u : Session) : Move s .plain (s.adjusted u)
  | tick (u : Session) : Move s .plain { s.adjusted u with ticket := s.ticket + 1 }
  | note (o : Obs) : Move s o.kind { s with trace := s.trace ++ [o] }
  | phase (phase : Phase) (u : Session) : Move s (.phase phase) { s.adjusted u with phase }
  | lapse : Move s .plain { s with timers := s.timers.clearSessionTtl }
  | live (start : Nat) (known : start = s.sessionStartTime.getD s.inputs.now) : Move s .lifetime { s with
      sessionStartTime := some start
      timers := s.timers.startSessionTtl s.options.sessionTtl start s.inputs.now }
  | untime (promise : Nat) :
    Move s .plain { s with requestTimers := s.requestTimers.filter (fun t => t.promise != promise) }
  | reject (done : ∀ p ∈ s.pendingRequests.values,
      s.hasSettled p.promise = true ∧ ∀ t ∈ s.requestTimers, t.promise ≠ p.promise) :
    Move s .plain { s with pendingRequests := .empty }
  | take (id : String) (promise : Nat) : Move s .taking { s with
      requestTimers := s.requestTimers.filter (fun t => t.promise != promise)
      pendingRequests := s.pendingRequests.delete id }
  | peer (u : Session) : Move s .peer { s with
      remotePubKey := u.remotePubKey
      walletCapabilities := u.walletCapabilities
      walletMeta := u.walletMeta
      approvedCapabilities := u.approvedCapabilities
      approvedWalletMeta := u.approvedWalletMeta
      approvedWalletPubKeyB64 := u.approvedWalletPubKeyB64
      approvedScopeRecorded := u.approvedScopeRecorded
      paired := u.paired }
  | rekey (sendKey recvKey : Bytes) : Move s .keys { s with sendKey := some sendKey, recvKey := some recvKey }
  | announce (uri code : String) : Move s .announce { s with pairingUri := uri, sessionFingerprint := code }
  | save (task : Task) (snapshot : Snapshot) (adapter : Persistence)
    (configured : s.options.persistence = some adapter) (async : adapter.async = true)
    (current : s.serialize = some snapshot) :
    Move s task.kind { s with ticket := s.ticket + 1, journal := s.journal.enqueue s.ticket (some snapshot) task }
  | put (task : Task) (snapshot : Snapshot) (adapter : Persistence)
    (configured : s.options.persistence = some adapter) (sync : adapter.async = false)
    (current : s.serialize = some snapshot) : Move s task.kind { s with journal := s.journal.put (some snapshot) }
  | clear (adapter : Persistence) (configured : s.options.persistence = some adapter) (async : adapter.async = true) :
    Move s .plain { s with ticket := s.ticket + 1, journal := s.journal.enqueue s.ticket none .cleared }
  | wipe (adapter : Persistence) (configured : s.options.persistence = some adapter) (sync : adapter.async = false) :
    Move s .plain { s with journal := s.journal.put none }
  | count : Move s .sending { s with reqCounter := s.reqCounter + 1 }
  | reserve : Move s .sending { s with sendSeq := s.sendSeq + 1 }
  | register (id : String) (p : PendingRequest) (timer : RequestTimer) : Move s .sending { s with
      requestTimers := s.requestTimers ++ [timer]
      pendingRequests := s.pendingRequests.set id p }
  | receive (seq : Int) : Move s .receiving { s with recvSeq := seq }

/-- Chains of quiet moves and moves of the kinds in `ok`. -/
abbrev Moves (ok : Kind → Prop) : Session → Session → Prop :=
  Relation.ReflTransGen (fun s t => ∃ k, (k.quiet = true ∨ ok k) ∧ Move s k t)

theorem moves_mono {ok weaker : Kind → Prop} {s t : Session} (imp : ∀ k, ok k → weaker k) (made : Moves ok s t) :
    Moves weaker s t :=
  Relation.ReflTransGen.mono (fun _ _ ⟨k, allowed, move⟩ => ⟨k, allowed.imp_right (imp k), move⟩) _ _ made

/-- A program made of moves keeps what each of its moves keeps. -/
theorem preserve_of_moves {α : Type} {m : M α} {ok : Kind → Prop} {I : Session → Prop} (made : Keeps (Moves ok) m)
    (each : ∀ s t k, k.quiet = true ∨ ok k → Move s k t → I s → I t) : Keeps (Preserve I) m :=
  made.preserve fun s t ⟨k, allowed, move⟩ => each s t k allowed move

/-- Moves only add to the record, and only what their kinds allow. -/
theorem notes_of_moves {ok : Kind → Prop} {s t : Session} (made : Moves ok s t) :
    ∃ more, t.trace = s.trace ++ more ∧ ∀ o ∈ more, o.kind.quiet = true ∨ ok o.kind := by
  induction made with
  | refl => exact ⟨[], by simp, by simp⟩
  | tail _ move ih =>
    obtain ⟨more, grown, kinds⟩ := ih
    obtain ⟨k, allowed, move⟩ := move
    cases move with
    | note o =>
      refine ⟨more ++ [o], by rw [grown, List.append_assoc], fun p member => ?_⟩
      rcases List.mem_append.mp member with old | new
      · exact kinds p old
      · rw [List.mem_singleton.mp new]
        exact allowed
    | _ => exact ⟨more, grown, kinds⟩

/-- The record only grows. -/
def Grows (s t : Session) : Prop := s.trace <+: t.trace

instance : Std.Refl Grows := ⟨fun _ => List.prefix_rfl⟩

/-- Whatever a program of moves does, it only adds to the record. -/
theorem grows_of_moves {α : Type} {m : M α} (made : Keeps (Moves fun _ => True) m) : Keeps Grows m := by
  intro s
  obtain ⟨more, grown, -⟩ := notes_of_moves (made s)
  exact ⟨more, grown.symm⟩

section Effects
variable {ok : Kind → Prop}

theorem moves_of {f : Session → Session} {k : Kind} (each : ∀ s, Move s k (f s))
    (allowed : k.quiet = true ∨ ok k) : Keeps (Moves ok) (modify f) :=
  fun s => .single ⟨k, allowed, each s⟩

/-- A change of incidental fields only. -/
theorem moves_adjusting {f : Session → Session} (same : ∀ s, f s = s.adjusted (f s)) :
    Keeps (Moves ok) (modify f) := by
  intro s
  have move := Move.adjust (s := s) (f s)
  rw [← same s] at move
  exact .single ⟨.plain, Or.inl rfl, move⟩

theorem record_moves {o : Obs} (allowed : o.kind.quiet = true ∨ ok o.kind) : Keeps (Moves ok) (record o) :=
  moves_of (fun _ => .note o) allowed

theorem freshTicket_moves : Keeps (Moves ok) freshTicket :=
  .bind .get fun _ => .bind (moves_of (fun s => .tick s) (Or.inl rfl)) fun _ => .pure _

theorem emit_moves (event : Event)
    (allowed : (Obs.emitted event).kind.quiet = true ∨ ok (Obs.emitted event).kind) :
    Keeps (Moves ok) (emit event) := by
  refine .bind .get fun s => .ite (.pure _) (.bind (record_moves allowed) fun _ => ?_)
  cases s.inputs.throws with
  | nil => exact .pure _
  | cons throws rest => exact .bind (moves_adjusting fun _ => rfl) fun _ => .ite (.throw _) (.pure _)

theorem report_moves (message : String) : Keeps (Moves ok) (emit (.error message)) := emit_moves _ (Or.inl rfl)

theorem settle_moves (promise : Nat) (outcome : Outcome)
    (allowed : (Obs.settled promise outcome).kind.quiet = true ∨ ok (Obs.settled promise outcome).kind) :
    Keeps (Moves ok) (settle promise outcome) := by
  intro s
  unfold settle
  rw [after_modify]
  split
  · exact .refl
  · exact .single ⟨_, allowed, Move.note (.settled promise outcome)⟩

theorem fail_moves (promise : Nat) (error : String) : Keeps (Moves ok) (settle promise (.failed error)) :=
  settle_moves promise (.failed error) (Or.inl rfl)

theorem sendRaw_moves (body : Body) (allowed : (bodyKind body).quiet = true ∨ ok (bodyKind body)) :
    Keeps (Moves ok) (sendRaw body none) :=
  .bind .get fun _ => .ite (report_moves _) (record_moves allowed)

theorem sendFrame_moves (sending : ok .sending) (body : Body) (frame : Sealed) :
    Keeps (Moves ok) (sendRaw body (some frame)) :=
  .bind .get fun _ => .ite (report_moves _) (record_moves (Or.inr sending))

/-- What `persistSnapshot` can do: nothing without an adapter, throw without a key pair,
leave the task waiting, or save at once. -/
theorem persistSnapshot_cases (task : Task) (s : Session) :
    (s.options.persistence = none ∧ persistSnapshot task s = .ok false s) ∨
    (∃ adapter, s.options.persistence = some adapter ∧ s.serialize = none ∧
      persistSnapshot task s = .error "serialize" s) ∨
    (∃ adapter snapshot, s.options.persistence = some adapter ∧ adapter.async = true ∧
      s.serialize = some snapshot ∧ persistSnapshot task s =
        .ok true { s with ticket := s.ticket + 1, journal := s.journal.enqueue s.ticket (some snapshot) task }) ∨
    (∃ adapter snapshot, s.options.persistence = some adapter ∧ adapter.async = false ∧
      s.serialize = some snapshot ∧
      persistSnapshot task s = .ok false { s with journal := s.journal.put (some snapshot) }) := by
  cases configured : s.options.persistence with
  | none =>
    left
    exact ⟨rfl, by simp [persistSnapshot, configured]⟩
  | some adapter =>
    right
    cases current : s.serialize with
    | none =>
      left
      exact ⟨adapter, rfl, rfl, by simp [persistSnapshot, configured, current]⟩
    | some snapshot =>
      right
      cases async : adapter.async with
      | true =>
        left
        exact ⟨adapter, snapshot, rfl, async, rfl, by simp [persistSnapshot, configured, current, async]⟩
      | false =>
        right
        exact ⟨adapter, snapshot, rfl, async, rfl, by simp [persistSnapshot, configured, current, async]⟩

theorem persistSnapshot_moves (task : Task) (allowed : task.kind.quiet = true ∨ ok task.kind) :
    Keeps (Moves ok) (persistSnapshot task) := by
  intro s
  rcases persistSnapshot_cases task s with ⟨-, run⟩ | ⟨adapter, -, -, run⟩ |
    ⟨adapter, snapshot, configured, async, current, run⟩ | ⟨adapter, snapshot, configured, sync, current, run⟩
  · rw [after_of_ok run]
  · rw [after_of_error run]
  · rw [after_of_ok run]
    exact .single ⟨_, allowed, Move.save task snapshot adapter configured async current⟩
  · rw [after_of_ok run]
    exact .single ⟨_, allowed, Move.put task snapshot adapter configured sync current⟩

theorem persistSnapshotAsync_moves (saves : ok .saving) : Keeps (Moves ok) persistSnapshotAsync :=
  .bind (persistSnapshot_moves .snapshot (Or.inr saves)) fun _ => .pure _

theorem clearPersistence_moves : Keeps (Moves ok) clearPersistence := by
  intro s
  unfold clearPersistence
  rw [after_modify]
  cases configured : s.options.persistence with
  | none => exact .refl
  | some adapter =>
    cases clears : adapter.clears with
    | false => simpa [clears] using .refl
    | true =>
      cases async : adapter.async with
      | true => simpa [clears, async] using .single ⟨.plain, Or.inl rfl, Move.clear adapter configured async⟩
      | false => simpa [clears, async] using .single ⟨.plain, Or.inl rfl, Move.wipe adapter configured async⟩

theorem setPhase_moves (phase : Phase) (allowed : (Kind.phase phase).quiet = true ∨ ok (.phase phase)) :
    Keeps (Moves ok) (setPhase phase) := by
  refine .bind .get fun _ => .ite (.pure _) (.bind ?_ fun _ => emit_moves _ (Or.inl rfl))
  refine moves_of (fun s => ?_) allowed
  have move := Move.phase (s := s) phase { s with
    timers := if phase = .connected then s.timers else s.timers.stopHeartbeat }
  by_cases opens : phase = .connected
  · simpa only [Session.adjusted, if_pos opens] using move
  · simpa only [Session.adjusted, Timers.stopHeartbeat, if_neg opens] using move

theorem stopReconnect_moves : Keeps (Moves ok) stopReconnect := moves_adjusting fun _ => rfl

theorem clearPendingAcceptTimer_moves : Keeps (Moves ok) clearPendingAcceptTimer := moves_adjusting fun _ => rfl

theorem clearSessionTtl_moves : Keeps (Moves ok) clearSessionTtl := moves_of (fun _ => .lapse) (Or.inl rfl)

theorem startSessionTtl_moves (lives : ok .lifetime) : Keeps (Moves ok) startSessionTtl :=
  moves_of (fun s => .live (s.sessionStartTime.getD s.inputs.now) rfl) (Or.inr lives)

theorem startHeartbeat_moves : Keeps (Moves ok) startHeartbeat := by
  refine moves_adjusting fun s => ?_
  by_cases off : s.options.heartbeatInterval = 0
  · simp [Session.adjusted, Timers.startHeartbeat, Timers.stopHeartbeat, off]
  · simp [Session.adjusted, Timers.startHeartbeat, Timers.stopHeartbeat, off]

theorem hasSettled_append (s : Session) (more : List Obs) {promise : Nat} (settled : s.hasSettled promise = true) :
    Session.hasSettled { s with trace := s.trace ++ more } promise = true := by
  unfold Session.hasSettled at settled ⊢
  rw [List.any_append, settled]
  rfl

theorem after_settle (promise : Nat) (outcome : Outcome) (s : Session) :
    after (settle promise outcome) s = if s.hasSettled promise then s else
      { s with trace := s.trace ++ [.settled promise outcome] } := rfl

/-- Settling settles the promise, and no other field but the record changes. -/
theorem settle_spec (promise : Nat) (outcome : Outcome) (s : Session) :
    ∃ more, after (settle promise outcome) s = { s with trace := s.trace ++ more } ∧
      Session.hasSettled { s with trace := s.trace ++ more } promise = true := by
  rw [after_settle]
  by_cases already : s.hasSettled promise = true
  · refine ⟨[], ?_, ?_⟩
    · rw [if_pos already, List.append_nil]
    · exact hasSettled_append s [] already
  · refine ⟨[.settled promise outcome], if_neg already, ?_⟩
    simp [Session.hasSettled]

/-- Rejecting one request after the other leaves the map alone; their promises are settled
and their timers are gone. -/
theorem rejectEach_moves (error : String) (reqs : List PendingRequest) (s : Session) :
    ∃ t, (reqs.forM fun req => do
        modify fun s => { s with requestTimers := s.requestTimers.filter (fun t => t.promise != req.promise) }
        settle req.promise (.failed error) : M PUnit) s = .ok () t ∧
      Moves ok s t ∧ t.pendingRequests = s.pendingRequests ∧ t.requestTimers ⊆ s.requestTimers ∧
      (∀ p, s.hasSettled p = true → t.hasSettled p = true) ∧
      ∀ req ∈ reqs, t.hasSettled req.promise = true ∧ ∀ timer ∈ t.requestTimers, timer.promise ≠ req.promise := by
  induction reqs generalizing s with
  | nil => exact ⟨s, rfl, .refl, rfl, List.Subset.refl _, fun _ settled => settled, by simp⟩
  | cons req rest ih =>
    let untimed : Session := { s with requestTimers := s.requestTimers.filter (fun t => t.promise != req.promise) }
    obtain ⟨more, run, settled⟩ := settle_spec req.promise (.failed error) untimed
    have moved : Moves ok untimed { untimed with trace := untimed.trace ++ more } := run ▸ fail_moves req.promise error untimed
    obtain ⟨t, ran, moves, pending, timers, grows, done⟩ := ih { untimed with trace := untimed.trace ++ more }
    refine ⟨t, ?_, .trans (.head ⟨.plain, Or.inl rfl, Move.untime req.promise⟩ moved) moves, pending,
      fun timer mem => (List.mem_filter.mp (timers mem)).1, fun p old => grows p (hasSettled_append untimed more old), ?_⟩
    · rw [← ran]
      have first : (do
          modify fun s => { s with requestTimers := s.requestTimers.filter (fun t => t.promise != req.promise) }
          settle req.promise (.failed error) : M PUnit) s = .ok () { untimed with trace := untimed.trace ++ more } := by
        rw [← run]
        rfl
      exact bind_of_ok first
    · intro other member
      rcases List.mem_cons.mp member with rfl | later
      · refine ⟨grows _ settled, fun timer mem => ?_⟩
        have kept := (List.mem_filter.mp (timers mem)).2
        simpa using kept
      · exact done other later

theorem rejectAllPending_moves (error : String) : Keeps (Moves ok) (rejectAllPending error) := by
  intro s
  obtain ⟨t, ran, moves, pending, -, -, done⟩ := @rejectEach_moves ok error s.pendingRequests.values s
  unfold rejectAllPending
  rw [after_get_bind, after_bind_of_ok ran, after_modify]
  refine .tail moves ⟨.plain, Or.inl rfl, Move.reject ?_⟩
  rw [pending]
  exact done

theorem close_moves (reason : String) : Keeps (Moves ok) (close reason) := by
  have rest : Keeps (Moves ok) (do clearPersistence; setPhase .closed) :=
    .bind clearPersistence_moves fun _ => setPhase_moves _ (Or.inl rfl)
  exact .bind (moves_adjusting fun _ => rfl) fun _ => .bind clearPendingAcceptTimer_moves fun _ =>
    .bind clearSessionTtl_moves fun _ => .bind stopReconnect_moves fun _ =>
    .bind (rejectAllPending_moves _) fun _ => .bind .get fun _ =>
    .ite (.bind (sendRaw_moves _ (Or.inl rfl)) fun _ => rest) rest

theorem persistenceError_moves (error : String) : Keeps (Moves ok) (persistenceError error) :=
  .bind (report_moves _) fun _ => .bind (close_moves _) fun _ => .pure _

end Effects

/-! ### Reconnecting and pairing -/

section Link
variable {ok : Kind → Prop}

theorem setTransportChannelHint_moves : Keeps (Moves ok) setTransportChannelHint := by
  refine moves_adjusting fun s => ?_
  cases s.url with
  | none => rfl
  | some base =>
    by_cases hinted : s.options.canSetUrl ∧ base ≠ "" ∧ !includes base "?ch="
    · simp only [if_pos hinted]
      rfl
    · simp only [if_neg hinted]
      rfl

theorem awaitConnect_moves (next : Await) : Keeps (Moves ok) (awaitConnect next) :=
  moves_of (fun s => .tick { s with connects := s.connects ++ [(s.ticket, next)] }) (Or.inl rfl)

theorem doReconnectAttempt_moves : Keeps (Moves ok) doReconnectAttempt :=
  .bind .get fun _ => .ite (.pure _)
    (.bind setTransportChannelHint_moves fun _ => awaitConnect_moves _)

theorem giveUpReconnect_moves : Keeps (Moves ok) giveUpReconnect :=
  .bind stopReconnect_moves fun _ => .bind (moves_adjusting fun _ => rfl) fun _ => .bind .get fun _ =>
    .bind (rejectAllPending_moves _) fun _ => .bind clearPersistence_moves fun _ =>
    .bind (moves_adjusting fun _ => rfl) fun _ => .bind (emit_moves _ (Or.inl rfl)) fun _ =>
    setPhase_moves _ (Or.inl rfl)

theorem scheduleReconnect_moves : Keeps (Moves ok) scheduleReconnect := by
  refine .bind .get fun _ => .ite (.pure _) (.bind ?_ fun _ => .bind .get fun _ =>
    .ite giveUpReconnect_moves (moves_adjusting fun _ => rfl))
  refine moves_adjusting fun s => ?_
  split <;> rfl

theorem startReconnect_moves (drops : ok (.phase .disconnected)) : Keeps (Moves ok) startReconnect :=
  .bind .get fun _ => .bind (moves_adjusting fun _ => rfl) fun _ =>
    .bind clearPendingAcceptTimer_moves fun _ => .bind (setPhase_moves _ (Or.inr drops)) fun _ =>
    .ite (.bind (moves_adjusting fun _ => rfl) fun _ => scheduleReconnect_moves) scheduleReconnect_moves

theorem handleTransportClose_moves (drops : ok (.phase .disconnected)) : Keeps (Moves ok) handleTransportClose :=
  .bind .get fun _ => .ite (startReconnect_moves drops) (.pure _)

theorem doAccept_moves (peer : ok .peer) (offer : ok .offer) (saves : ok .saving) : Keeps (Moves ok) doAccept :=
  .bind (moves_of (fun s => .peer { s with
      paired := true
      approvedCapabilities := s.walletCapabilities
      approvedWalletMeta := s.walletMeta
      approvedWalletPubKeyB64 := s.remotePubKey.map b64urlEncode
      approvedScopeRecorded := true }) (Or.inr peer)) fun _ => .bind .get fun _ =>
    .bind (persistSnapshot_moves _ (Or.inr saves)) fun _ => .ite (.pure _) (sendRaw_moves _ (Or.inr offer))

theorem ping_moves : Keeps (Moves ok) ping := .bind .get fun _ => .ite (sendRaw_moves _ (Or.inl rfl)) (.pure _)

theorem acceptWallet_moves (peer : ok .peer) (offer : ok .offer) (saves : ok .saving) :
    Keeps (Moves ok) acceptWallet :=
  .bind .get fun _ => .ite (.pure _) (.bind (record_moves (Or.inr offer)) fun _ =>
    .bind clearPendingAcceptTimer_moves fun _ => doAccept_moves peer offer saves)

theorem rejectWallet_moves : Keeps (Moves ok) rejectWallet :=
  .bind .get fun _ => .ite (.pure _) (.bind (sendRaw_moves _ (Or.inl rfl)) fun _ => close_moves _)

theorem connectTransport_moves : Keeps (Moves ok) connectTransport :=
  .bind setTransportChannelHint_moves fun _ => awaitConnect_moves _

theorem announcePairing_moves (waits : ok (.phase .waiting)) (announces : ok .announce) (C : Crypto) (kp : X25519KeyPair) (channelId : String)
    (deferTransport : Bool) : Keeps (Moves ok) (announcePairing C kp channelId deferTransport) := by
  refine .bind .get fun s => ?_
  cases nonEmpty s.url with
  | none => exact .throw _
  | some relayUrl =>
    exact .bind (moves_of (fun s => .announce _ s.sessionFingerprint) (Or.inr announces)) fun _ =>
      .bind (.runExcept _) fun _ => .bind (moves_of (fun s => .announce s.pairingUri _) (Or.inr announces)) fun _ =>
      .bind (emit_moves _ (Or.inl rfl)) fun _ => .bind (emit_moves _ (Or.inl rfl)) fun _ => .ite (setPhase_moves _ (Or.inr waits)) connectTransport_moves

theorem refuseJoin_moves (reason error : String) : Keeps (Moves ok) (refuseJoin reason error) :=
  .bind (sendRaw_moves _ (Or.inl rfl)) fun _ => report_moves _

/-- The moves of a join: the peer, its keys, what is offered to the application, and the phase. -/
structure Joining (ok : Kind → Prop) : Prop where
  peer : ok .peer
  keys : ok .keys
  offer : ok .offer
  pending : ok (.phase .pendingAccept)
  saving : ok .saving

theorem offerWallet_moves (joins : Joining ok) (key : Bytes) (knownWallet : Bool)
    (capabilities walletMeta : Option Json) :
    Keeps (Moves ok) (offerWallet key knownWallet capabilities walletMeta) :=
  .bind (emit_moves _ (Or.inr joins.offer)) fun _ => .bind (record_moves (Or.inr joins.offer)) fun _ =>
    .bind (setPhase_moves _ (Or.inr joins.pending)) fun _ => .bind .get fun _ =>
    .ite (doAccept_moves joins.peer joins.offer joins.saving) (moves_adjusting fun _ => rfl)

theorem processJoin_moves (joins : Joining ok) (C : Crypto) (joinPubKey : String) (remoteBytes rootKey : Bytes)
    (sealedJoin : SealedJoin) : Keeps (Moves ok) (processJoin C joinPubKey remoteBytes rootKey sealedJoin) := by
  refine .bind .get fun s => ?_
  cases readJoin C s rootKey sealedJoin with
  | refused reason error => exact refuseJoin_moves reason error
  | offered capabilities walletMeta =>
    refine .ite (refuseJoin_moves _ _) (.bind (.runExcept _) fun knownWallet =>
      .bind (moves_of (fun s => .peer { s with walletCapabilities := capabilities, walletMeta }) (Or.inr joins.peer))
      fun _ => .bind (.runExcept _) fun keys => .bind (moves_of (fun _ => .rekey _ _) (Or.inr joins.keys)) fun _ => ?_)
    cases scopeError s capabilities with
    | some error => exact refuseJoin_moves _ _
    | none => exact offerWallet_moves joins _ _ _ _

theorem handleJoin_moves (joins : Joining ok) (C : Crypto) (joinPubKey : String) (sealedJoin : SealedJoin) :
    Keeps (Moves ok) (handleJoin C joinPubKey sealedJoin) := by
  refine .ite (report_moves _) ?_
  cases decodePublicKey joinPubKey with
  | none => exact refuseJoin_moves _ _
  | some remoteBytes =>
    exact .bind (moves_of (fun s => .peer { s with remotePubKey := some remoteBytes }) (Or.inr joins.peer)) fun _ =>
      .bind .get fun _ => .bind (.runExcept _) fun _ => processJoin_moves joins C _ _ _ _

theorem handleClose_moves : Keeps (Moves ok) handleClose :=
  .bind .get fun _ => .ite
    (.bind (rejectAllPending_moves _) fun _ => .bind clearPersistence_moves fun _ =>
      .bind (setPhase_moves _ (Or.inl rfl)) fun _ => moves_adjusting fun _ => rfl)
    (.pure _)

theorem handleTerminate_moves (drops : ok (.phase .disconnected)) (reason : Option String) :
    Keeps (Moves ok) (handleTerminate reason) :=
  .bind .get fun _ => .ite (.pure _) (.ite (startReconnect_moves drops)
    (.bind (rejectAllPending_moves _) fun _ => .bind clearPersistence_moves fun _ =>
      .bind (setPhase_moves _ (Or.inl rfl)) fun _ => moves_adjusting fun _ => rfl))

theorem reconnect_moves (drops : ok (.phase .disconnected)) : Keeps (Moves ok) reconnect :=
  .bind (moves_adjusting fun _ => rfl) fun _ => .bind stopReconnect_moves fun _ =>
    .bind (setPhase_moves _ (Or.inr drops)) fun _ => .bind (moves_adjusting fun _ => rfl) fun _ =>
    doReconnectAttempt_moves

theorem connected_moves (waits : ok (.phase .waiting)) (offer : ok .offer) (next : Await) (opened : Bool) :
    Keeps (Moves ok) (connected next opened) := by
  have create : Keeps (Moves ok) (do let s ← get; sendRaw (.create s.dappMeta) none : M Unit) :=
    .bind .get fun _ => sendRaw_moves _ (Or.inr offer)
  match next, opened with
  | .pairing, true => exact .bind (setPhase_moves _ (Or.inr waits)) fun _ => create
  | .pairing, false => exact .pure _
  | .reconnect, true => exact .tryCatch create fun _ => scheduleReconnect_moves
  | .reconnect, false => exact scheduleReconnect_moves

theorem settleConnect_moves (waits : ok (.phase .waiting)) (offer : ok .offer) (ticket : Nat) (opened : Bool) :
    Keeps (Moves ok) (settleConnect ticket opened) := by
  refine .bind .get fun s => ?_
  cases s.connects.find? (fun c => c.1 == ticket) with
  | none => exact .pure _
  | some c => exact .bind (moves_adjusting fun _ => rfl) fun _ => connected_moves waits offer c.2 opened

theorem fire_moves (name : TimerName) (drops : name = .liveness → ok (.phase .disconnected))
    (takes : ∀ promise, name = .request promise → ok .taking) : Keeps (Moves ok) (fire name) := by
  refine .bind .get fun s => ?_
  cases name with
  | pendingAccept =>
    exact .ite (.bind (moves_adjusting fun _ => rfl) fun _ => .bind (report_moves _) fun _ => close_moves _) (.pure _)
  | orphanedAccept index =>
    exact .ite (.bind (moves_adjusting fun _ => rfl) fun _ => .bind (report_moves _) fun _ => close_moves _) (.pure _)
  | reconnect =>
    exact .ite (.bind (moves_adjusting fun _ => rfl) fun _ => .bind doReconnectAttempt_moves fun _ =>
      moves_adjusting fun _ => rfl) (.pure _)
  | heartbeat =>
    refine .ite (.bind (moves_adjusting fun _ => rfl) fun _ => .ite (.bind ping_moves fun _ => ?_) (.pure _)) (.pure _)
    refine moves_adjusting fun s => ?_
    split <;> rfl
  | liveness =>
    exact .ite (.bind (moves_adjusting fun _ => rfl) fun _ => handleTransportClose_moves (drops rfl)) (.pure _)
  | sessionTtl =>
    exact .ite (.bind clearSessionTtl_moves fun _ => .bind (report_moves _) fun _ => close_moves _) (.pure _)
  | request promise =>
    dsimp only
    cases s.requestTimers.find? (fun t => t.promise == promise) with
    | none => exact .pure _
    | some timer =>
      exact .ite (.bind (moves_of (fun _ => .take timer.id promise) (Or.inr (takes promise rfl))) fun _ => fail_moves _ _) (.pure _)

end Link

/-! ### Sending -/

section Sending
variable {ok : Kind → Prop} (sending : ok .sending) (C : Crypto)
include sending

theorem nextSendSeq_moves (task : Nat → Task) (held : ∀ n, (task n).kind = .sending) :
    Keeps (Moves ok) (nextSendSeq task) :=
  .bind .get fun _ => .ite (.bind (report_moves _) fun _ => .bind (close_moves _) fun _ => .throw _)
    (.bind (moves_of (fun _ => .reserve) (Or.inr sending)) fun _ =>
      .bind (persistSnapshot_moves _ (Or.inr (by rw [held]; exact sending))) fun _ => .ite (.pure _) (.pure _))

theorem buildRequestMessage_moves (call : Nat) (id method : String) (params : Option Json) (seq : Nat) :
    Keeps (Moves ok) (buildRequestMessage C call id method params seq) := by
  refine .bind .get fun s => ?_
  cases s.sendKey with
  | none => exact .throw _
  | some sendKey =>
    dsimp only
    cases sealPayload C sendKey s.channelId seq (buildSealedParams method params) ⟨.req, s.pubKeyB64, id⟩ with
    | error e => exact .throw _
    | ok made => exact .bind (record_moves (Or.inr sending)) fun _ => .pure _

/-- What `request` does with a sealed frame: register it and hand it to the transport. -/
theorem registerRequest_moves (promise : Nat) (id method : String) (params : Option Json) (body : Body) (frame : Sealed) :
    Keeps (Moves ok) (do
      modify fun s => { s with
        requestTimers := s.requestTimers ++ [⟨promise, id, method, s.inputs.now + s.options.requestTimeout⟩]
        pendingRequests := s.pendingRequests.set id ⟨id, method, params, promise⟩ }
      tryCatch (sendRaw body (some frame)) fun e => settle promise (.failed e)) := by
  exact .bind (moves_of (fun _ => .register id _ _) (Or.inr sending)) fun _ =>
    .tryCatch (sendFrame_moves sending _ _) fun _ => fail_moves _ _

theorem sendRequest_moves (promise : Nat) (id method : String) (params : Option Json) (seq : Nat) :
    Keeps (Moves ok) (sendRequest C promise id method params seq) :=
  .bind (buildRequestMessage_moves sending C promise id method params seq) fun _ =>
    registerRequest_moves sending promise id method params _ _

theorem sendResend_moves (call : Nat) (id method : String) (params : Option Json) (seq : Nat) :
    Keeps (Moves ok) (sendResend C call id method params seq) :=
  .bind (buildRequestMessage_moves sending C call id method params seq) fun _ => sendFrame_moves sending _ _

theorem request_moves (method : String) (params : Option Json) : Keeps (Moves ok) (request C method params) := by
  refine .bind freshTicket_moves fun _ => .bind .get fun _ => .ite (fail_moves _ _) (.ite (fail_moves _ _)
    (.bind (moves_of (fun _ => .count) (Or.inr sending)) fun _ => .tryCatch
      (.bind (nextSendSeq_moves sending _ fun _ => rfl) fun reserved => ?_) fun _ => fail_moves _ _))
  cases reserved with
  | none => exact .pure _
  | some seq => exact sendRequest_moves sending C _ _ _ _ _

theorem resendPending_moves : Keeps (Moves ok) (resendPending C) := by
  refine .bind .get fun _ => .ite (.pure _) (.forM _ _ fun req _ =>
    .bind (nextSendSeq_moves sending _ fun _ => rfl) fun reserved => ?_)
  cases reserved with
  | none => exact .pure _
  | some seq => exact sendResend_moves sending C _ _ _ _ _

theorem handleReady_moves (connects : ok (.phase .connected)) (lives : ok .lifetime) (waits : ok (.phase .waiting))
    (saves : ok .saving) (state remote : Option String) : Keeps (Moves ok) (handleReady C state remote) :=
  .bind stopReconnect_moves fun _ => .bind .get fun _ => .ite
    (.ite (.bind (report_moves _) fun _ => close_moves _)
      (.bind (moves_adjusting fun _ => rfl) fun _ => .bind (setPhase_moves _ (Or.inr connects)) fun _ =>
        .bind (startSessionTtl_moves lives) fun _ => .bind startHeartbeat_moves fun _ =>
        .bind (persistSnapshotAsync_moves saves) fun _ => .ite (resendPending_moves sending C) (.pure _)))
    (.ite (setPhase_moves _ (Or.inr waits)) (.pure _))

end Sending

/-! ### Receiving -/

section Receiving
variable {ok : Kind → Prop} (receiving : ok .receiving) (C : Crypto)

theorem forgetRequest_moves (takes : ok .taking) (id : String) (pending : PendingRequest) :
    Keeps (Moves ok) (forgetRequest id pending) := moves_of (fun _ => .take id pending.promise) (Or.inr takes)

include receiving

theorem deliverResponse_moves (resolving : ok .resolving) (promise : Nat) (frame : Delivery) (data : Json) :
    Keeps (Moves ok) (deliverResponse promise frame data) := by
  refine .bind (record_moves (Or.inr receiving)) fun _ => .bind (.runExcept _) fun outcome => ?_
  split
  · exact .bind (settle_moves _ _ (Or.inr resolving)) fun _ => emit_moves _ (Or.inl rfl)
  · exact .bind (.runExcept _) fun _ => .bind (settle_moves _ _ (Or.inl rfl)) fun _ => emit_moves _ (Or.inl rfl)
  · exact fail_moves _ _

theorem deliverEvent_moves (event : ok .event) (frame : Delivery) (data : Json) :
    Keeps (Moves ok) (deliverEvent frame data) := by
  refine .bind (record_moves (Or.inr receiving)) fun _ => ?_
  cases eventOf data with
  | none => exact report_moves _
  | some named => exact emit_moves _ (Or.inr event)

theorem openResponse_moves (resolving : ok .resolving) (promise : Nat) (recvKey : Bytes) (sender id envelope : String) :
    Keeps (Moves ok) (openResponse C promise recvKey sender id envelope) :=
  .bind .get fun _ => .bind (.runExcept _) fun _ => .ite (fail_moves _ _)
    (.bind (moves_of (fun _ => .receive _) (Or.inr receiving)) fun _ =>
      .bind (persistSnapshot_moves _ (Or.inr receiving)) fun _ =>
      .ite (.pure _) (deliverResponse_moves receiving resolving _ _ _))

theorem openEvent_moves (event : ok .event) (recvKey : Bytes) (sender id envelope : String) :
    Keeps (Moves ok) (openEvent C recvKey sender id envelope) :=
  .bind .get fun _ => .bind (.runExcept _) fun _ => .ite (.pure _)
    (.bind (moves_of (fun _ => .receive _) (Or.inr receiving)) fun _ =>
      .bind (persistSnapshot_moves _ (Or.inr receiving)) fun _ =>
      .ite (.pure _) (deliverEvent_moves receiving event _ _))

theorem handleResponse_moves (resolving : ok .resolving) (takes : ok .taking) (sender : String) (id envelope : Option String) :
    Keeps (Moves ok) (handleResponse C sender id envelope) := by
  refine .bind .get fun s => .ite (.pure _) ?_
  cases nonEmpty id with
  | none => exact .pure _
  | some id =>
    dsimp only
    cases s.pendingRequests.get id with
    | none => exact .pure _
    | some pending =>
      refine .bind (forgetRequest_moves takes id pending) fun _ => ?_
      cases nonEmpty envelope with
      | none => exact fail_moves _ _
      | some envelope =>
        cases s.recvKey with
        | none => exact fail_moves _ _
        | some recvKey => exact .tryCatch (openResponse_moves receiving C resolving _ _ _ _ _) fun _ => fail_moves _ _

theorem handleEvent_moves (event : ok .event) (sender : String) (id envelope : Option String) :
    Keeps (Moves ok) (handleEvent C sender id envelope) := by
  refine .bind .get fun s => .ite (.pure _) ?_
  split
  · exact .tryCatch (openEvent_moves receiving C event _ _ _ _) fun _ => .pure _
  · exact .pure _

/-- The continuation of a receive puts the counter back when anything in it throws. -/
theorem rollback_moves {rest : String → M Unit} (prevRecvSeq : Int) (error : String)
    (plain : ∀ wrapped, Keeps (Moves ok) (rest wrapped)) :
    Keeps (Moves ok) (do
      modify fun s => { s with recvSeq := prevRecvSeq }
      let wrapped ← persistenceError error
      rest wrapped) :=
  .bind (moves_of (fun _ => .receive prevRecvSeq) (Or.inr receiving)) fun _ =>
    .bind (persistenceError_moves error) plain

end Receiving

/-! ### Whole labels -/

section Labels
variable {ok : Kind → Prop} (C : Crypto)

/-- A resumed task moves within its own kind. -/
theorem resume_moves (task : Task) (own : ok task.kind) (event : task.kind = .receiving → ok .event ∧ ok .resolving)
    (offer : ∀ target, task = .accept target → ok .offer) : Keeps (Moves ok) (resume C task) := by
  cases task with
  | request promise id method params seq =>
    exact .tryCatch (sendRequest_moves own C _ _ _ _ _) fun _ => fail_moves _ _
  | resend promise id method params seq => exact .tryCatch (sendResend_moves own C _ _ _ _ _) fun _ => .pure _
  | response promise frame data prevRecvSeq =>
    exact .tryCatch (deliverResponse_moves own (event rfl).2 _ _ _) fun e =>
      rollback_moves own prevRecvSeq e fun _ => fail_moves _ _
  | event frame data prevRecvSeq =>
    exact .tryCatch (deliverEvent_moves own (event rfl).1 _ _) fun e =>
      rollback_moves own prevRecvSeq e fun _ => report_moves _
  | accept target =>
    exact .tryCatch (sendRaw_moves _ (Or.inr (offer target rfl))) fun _ =>
      .bind (persistenceError_moves _) fun _ => .pure _
  | snapshot => exact .pure _
  | cleared => exact .pure _

/-- A rejected save closes the session; only a receive puts its counter back. -/
theorem fail_task_moves (error : String) (task : Task) (receiving : task.kind = .receiving → ok .receiving) :
    Keeps (Moves ok) (fail error task) := by
  cases task with
  | request promise id method params seq =>
    exact .tryCatch (.bind (persistenceError_moves _) fun _ => fail_moves _ _) fun _ => fail_moves _ _
  | resend promise id method params seq => exact .bind (persistenceError_moves _) fun _ => .pure _
  | response promise frame data prevRecvSeq =>
    exact rollback_moves (receiving rfl) prevRecvSeq error fun _ => fail_moves _ _
  | event frame data prevRecvSeq => exact rollback_moves (receiving rfl) prevRecvSeq error fun _ => report_moves _
  | accept target => exact .bind (persistenceError_moves _) fun _ => .pure _
  | snapshot => exact .bind (persistenceError_moves _) fun _ => .pure _
  | cleared => exact report_moves _

/-- Settling a call does nothing, or runs one of its two continuations without the call. -/
theorem settleCall_cases (ticket : Nat) (resolves : Bool) (s : Session) :
    after (settleCall C ticket resolves) s = s ∨ ∃ call, s.journal.find ticket = some call ∧
      (resolves = true ∧ call.durable = true ∧ after (settleCall C ticket resolves) s =
          after (resume C call.task) { s with journal := s.journal.remove ticket } ∨
        resolves = false ∧ after (settleCall C ticket resolves) s =
          after (fail "save" call.task) { s with journal := s.journal.remove ticket }) := by
  unfold settleCall
  rw [after_get_bind]
  cases found : s.journal.find ticket with
  | none => exact Or.inl rfl
  | some call =>
    cases resolves with
    | false => exact Or.inr ⟨call, rfl, Or.inr ⟨rfl, rfl⟩⟩
    | true =>
      by_cases durable : call.durable = true
      · refine Or.inr ⟨call, rfl, Or.inl ⟨rfl, durable, ?_⟩⟩
        simp only [if_pos, durable]
        rfl
      · left
        simp only [if_neg durable, if_true]
        rfl

/-- The continuation of a save that has reached storage. -/
theorem settleCall_durable {ticket : Nat} {call : Call Snapshot Task} {s : Session}
    (found : s.journal.find ticket = some call) (durable : call.durable = true) :
    after (settleCall C ticket true) s = after (resume C call.task) { s with journal := s.journal.remove ticket } := by
  unfold settleCall
  rw [after_get_bind, found]
  simp only [if_pos, durable]
  rfl

/-- Settling a call: its continuation starts from the session without it. -/
theorem settleCall_rule {P I : Session → Prop} {ticket : Nat} {resolves : Bool} (idle : ∀ s, P s → I s)
    (goes : resolves = true → ∀ s call, P s → s.journal.find ticket = some call → call.durable = true →
      Triple (fun t => t = { s with journal := s.journal.remove ticket }) (resume C call.task) (fun _ => I) I)
    (fails : resolves = false → ∀ s call, P s → s.journal.find ticket = some call →
      Triple (fun t => t = { s with journal := s.journal.remove ticket }) (fail "save" call.task) (fun _ => I) I) :
    Triple P (settleCall C ticket resolves) (fun _ => I) I := by
  refine .read fun s held => ?_
  have same : Triple (fun t => t = s) (modify fun s => { s with journal := s.journal.remove ticket } : M PUnit)
      (fun _ t => t = { s with journal := s.journal.remove ticket }) I := .modify fun _ same => by rw [same]
  cases found : s.journal.find ticket with
  | none => exact .pure fun _ same => same ▸ idle s held
  | some call =>
    refine .ite (fun resolved => .ite (fun durable => .bind same fun _ => ?_) fun _ =>
      .pure fun _ same => same ▸ idle s held) (fun rejected => .bind same fun _ => ?_)
    · exact goes resolved s call held found durable
    · exact fails (by simpa using rejected) s call held found

/-- Labels that only make moves; the others reset the session, restore it, or touch the queue. -/
def Label.moving : Label → Bool
  | .createPairing _ _ _ => false
  | .restore _ => false
  | .destroy => false
  | .flush _ => false
  | .settle _ _ => false
  | .crash => false
  | _ => true

/-- The moves an inbound message can cause. -/
def messageKinds : Body → List Kind
  | .ready _ _ => [.sending, .lifetime, .phase .connected, .phase .waiting, .saving]
  | .join _ => [.peer, .keys, .offer, .phase .pendingAccept, .saving]
  | .res _ _ => [.receiving, .resolving, .taking]
  | .evt _ _ => [.receiving, .event]
  | .terminate _ => [.phase .disconnected]
  | _ => []

/-- The moves a label can make. -/
def Label.kinds : Label → List Kind
  | .request _ _ => [.sending]
  | .acceptWallet => [.peer, .offer, .saving]
  | .reconnect => [.phase .disconnected]
  | .transportClose => [.phase .disconnected]
  | .fire _ => [.phase .disconnected, .taking]
  | .connect _ _ => [.phase .waiting, .offer]
  | .message msg => messageKinds msg.body
  | _ => []

theorem handleMessage_moves (msg : ProtocolMessage) :
    Keeps (Moves (· ∈ messageKinds msg.body)) (handleMessage C msg) := by
  obtain ⟨v, ch, ts, sender, body⟩ := msg
  refine .ite (report_moves _) (.ite (close_moves _) ?_)
  cases body with
  | ready state remote =>
    exact handleReady_moves (by simp [messageKinds]) C (by simp [messageKinds]) (by simp [messageKinds])
      (by simp [messageKinds]) (by simp [messageKinds]) state remote
  | join sealedJoin => exact handleJoin_moves (by constructor <;> simp [messageKinds]) C _ _
  | res id envelope => exact handleResponse_moves (by simp [messageKinds]) C (by simp [messageKinds]) (by simp [messageKinds]) _ _ _
  | evt id envelope => exact handleEvent_moves (by simp [messageKinds]) C (by simp [messageKinds]) _ _ _
  | ping => exact sendRaw_moves _ (Or.inl rfl)
  | pong => exact moves_adjusting fun _ => rfl
  | close reason => exact handleClose_moves
  | terminate reason => exact handleTerminate_moves (by simp [messageKinds]) reason
  | create dappMeta => exact .pure _
  | accept target => exact .pure _
  | req id envelope => exact .pure _

theorem act_moves (label : Label) (moving : label.moving = true) :
    Keeps (Moves (· ∈ label.kinds)) (act C label) := by
  cases label with
  | createPairing privateKey channelId deferTransport => cases moving
  | restore snapshot => cases moving
  | destroy => cases moving
  | flush ticket => cases moving
  | settle ticket ok => cases moving
  | crash => cases moving
  | connectTransport => exact connectTransport_moves
  | acceptWallet => exact acceptWallet_moves (by simp [Label.kinds]) (by simp [Label.kinds]) (by simp [Label.kinds])
  | rejectWallet => exact rejectWallet_moves
  | request method params => exact request_moves (by simp [Label.kinds]) C method params
  | ping => exact ping_moves
  | close reason => exact close_moves reason
  | reconnect => exact reconnect_moves (by simp [Label.kinds])
  | message msg => exact handleMessage_moves C msg
  | transportClose => exact handleTransportClose_moves (by simp [Label.kinds])
  | fire name => exact fire_moves name (fun _ => by simp [Label.kinds]) fun _ _ => by simp [Label.kinds]
  | connect ticket opened => exact settleConnect_moves (by simp [Label.kinds]) (by simp [Label.kinds]) ticket opened

end Labels

/-! ### Every step -/

/-- The fields that restoring a snapshot and announcing a pairing leave alone. -/
structure Abreast (s t : Session) : Prop where
  options : t.options = s.options
  journal : t.journal = s.journal
  ticket : t.ticket = s.ticket
  trace : t.trace = s.trace
  pending : t.pendingRequests = s.pendingRequests
  timers : t.requestTimers = s.requestTimers

section Every
variable {I : Session → Prop} (C : Crypto)

theorem restoreSafely_rule (field : ∀ f : Session → Session, (∀ s, Abreast s (f s)) → Keeps (Preserve I) (modify f : M Unit))
    (opens : Keeps (Preserve I) (setPhase .connected)) (d : Snapshot) : Keeps (Preserve I) (restoreSafely d) := by
  have remote : Keeps (Preserve I) (restoreRemote d.remotePubKeyB64) := by
    unfold restoreRemote
    split
    · exact field _ fun _ => ⟨rfl, rfl, rfl, rfl, rfl, rfl⟩
    · split
      · exact .throw _
      · exact field _ fun _ => ⟨rfl, rfl, rfl, rfl, rfl, rfl⟩
  exact .tryCatch (.ite (.pure _) (.bind (field _ fun _ => ⟨rfl, rfl, rfl, rfl, rfl, rfl⟩) fun _ => .bind remote fun _ =>
    .bind (field _ fun _ => ⟨rfl, rfl, rfl, rfl, rfl, rfl⟩) fun _ => .ite (.pure _)
    (.bind (field _ fun _ => ⟨rfl, rfl, rfl, rfl, rfl, rfl⟩) fun _ => .bind opens fun _ => .pure _))) fun _ => .pure _

/-- What every change of a session keeps: each move, the fields of a new pairing or a
restored one, and what happens to the queue. -/
structure StepRules (I : Session → Prop) : Prop where
  move : ∀ {s t : Session} {k : Kind}, Move s k t → I s → I t
  field : ∀ {s t : Session}, Abreast s t → I s → I t
  removes : ∀ {s : Session} (ticket : Nat), I s → I { s with journal := s.journal.remove ticket }
  flushes : ∀ {s : Session} (ticket : Nat), I s → I { s with journal := s.journal.flush ticket }
  crashes : ∀ {s : Session}, I s → I s.renewed

namespace StepRules

theorem kept (rules : StepRules I) {α : Type} {m : M α} (made : Keeps (Moves fun _ => True) m) : Keeps (Preserve I) m :=
  preserve_of_moves made fun _ _ _ _ move h => rules.move move h

theorem fields (rules : StepRules I) (f : Session → Session) (same : ∀ s, Abreast s (f s)) :
    Keeps (Preserve I) (modify f : M Unit) := fun s h => rules.field (same s) h

theorem settleCall (rules : StepRules I) (ticket : Nat) (resolves : Bool) :
    Keeps (Preserve I) (settleCall C ticket resolves) := by
  refine .bind .get fun s => ?_
  cases s.journal.find ticket with
  | none => exact .pure _
  | some call =>
    have removed : Keeps (Preserve I) (modify fun s => { s with journal := s.journal.remove ticket } : M Unit) :=
      fun s h => rules.removes ticket h
    have resumed : Keeps (Preserve I) (resume C call.task) :=
      rules.kept (resume_moves C call.task trivial (fun _ => ⟨trivial, trivial⟩) fun _ _ => trivial)
    exact .ite (.ite (.bind removed fun _ => resumed) (.pure _))
      (.bind removed fun _ => rules.kept (fail_task_moves "save" call.task fun _ => trivial))

theorem restart (rules : StepRules I) : Keeps (Preserve I) restart := by
  refine .bind (fun s h => rules.crashes h) fun _ => .bind .get fun s => ?_
  cases s.journal.disk.contents with
  | none => exact .pure _
  | some snapshot =>
    exact .bind (restoreSafely_rule rules.fields (rules.kept (setPhase_moves _ (Or.inr trivial))) snapshot) fun _ => .pure _

theorem step (rules : StepRules I) {s : Session} {l : Inputs × Label} (h : I s) : I (step C s l) := by
  have kept : Keeps (Preserve I) (act C l.2) := by
    by_cases moving : l.2.moving = true
    · exact rules.kept fun s => moves_mono (fun _ _ => trivial) (act_moves C l.2 moving s)
    · cases shape : l.2 with
      | createPairing privateKey channelId deferTransport =>
        exact .bind (rules.fields _ fun _ => ⟨rfl, rfl, rfl, rfl, rfl, rfl⟩) fun _ =>
          rules.kept (announcePairing_moves trivial trivial C _ _ _)
      | destroy =>
        exact .bind (rules.kept (close_moves _)) fun _ => rules.fields _ fun _ => ⟨rfl, rfl, rfl, rfl, rfl, rfl⟩
      | restore snapshot =>
        exact .bind (restoreSafely_rule rules.fields (rules.kept (setPhase_moves _ (Or.inr trivial))) snapshot) fun _ =>
          .pure _
      | flush ticket => exact fun s h => rules.flushes ticket h
      | settle ticket resolves => exact rules.settleCall C ticket resolves
      | crash => exact rules.restart
      | _ => simp [shape, Label.moving] at moving
  have start : I { s with inputs := l.1 } := rules.field (s := s) ⟨rfl, rfl, rfl, rfl, rfl, rfl⟩ h
  exact kept _ start

theorem run (rules : StepRules I) {s : Session} (labels : List (Inputs × Label)) (h : I s) :
    I (Run.run (DApp.step C) s labels) := by
  induction labels generalizing s with
  | nil => exact h
  | cons l rest ih => exact ih (rules.step C h)

end StepRules

/-- The options of a session never change. -/
theorem options_rules (options : Options) : StepRules fun s => s.options = options where
  move := fun move same => by cases move <;> exact same
  field := fun same before => same.options.trans before
  removes := fun _ same => same
  flushes := fun _ same => same
  crashes := fun same => same

theorem step_options (s : Session) (l : Inputs × Label) : (step C s l).options = s.options :=
  (options_rules s.options).step C rfl

theorem run_options (s : Session) (labels : List (Inputs × Label)) :
    (Run.run (step C) s labels).options = s.options :=
  (options_rules s.options).run C labels rfl

end Every

end WalletPair.Sdk.DApp
