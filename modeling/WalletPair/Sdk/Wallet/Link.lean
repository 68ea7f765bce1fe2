import WalletPair.Sdk.Wallet.Moves

/-! The fields of the wallet session that belong to its connection. Sending, receiving and
settling leave them alone unless they close the session; the methods that do change them
are the ones that connect, drop and reconnect. -/

namespace WalletPair.Sdk.Wallet
open WalletPair.Lib WalletPair.Lib.Program

/-- The end of a reconnect cycle that was given up. -/
def Obs.exhausts : Obs → Bool
  | .emitted (.reconnectExhausted _) => true
  | _ => false

/-- The connection as the session keeps it, with the clock it reads and how often it gave up. -/
structure Link where
  options : Options
  url : String
  channelId : String
  relayUrl : String
  phase : Phase
  timers : Timers
  reconnecting : Bool
  reconnectAttempt : Nat
  reconnectStartedAt : Nat
  intentionalClose : Bool
  connects : List (Nat × Await)
  now : Nat
  muted : Bool
  exhaustions : Nat

def Session.link (s : Session) : Link where
  options := s.options
  url := s.url
  channelId := s.channelId
  relayUrl := s.relayUrl
  phase := s.phase
  timers := s.timers
  reconnecting := s.reconnecting
  reconnectAttempt := s.reconnectAttempt
  reconnectStartedAt := s.reconnectStartedAt
  intentionalClose := s.intentionalClose
  connects := s.connects
  now := s.inputs.now
  muted := s.muted
  exhaustions := s.trace.countP Obs.exhausts

/-- What `close` makes of the connection; a listener that throws may keep it from its end. -/
def Link.closing (l : Link) (ended : Bool) : Link :=
  { l with
    intentionalClose := true
    phase := if ended then .closed else l.phase
    timers :=
      if ended ∧ l.phase ≠ .closed then l.timers.stopReconnect.clearSessionTtl.stopHeartbeat
      else l.timers.stopReconnect.clearSessionTtl }

theorem Link.closing_closing (l : Link) (first second : Bool) :
    (l.closing first).closing second = l.closing (first || second) := by
  cases first <;> cases second <;> by_cases finished : l.phase = .closed <;>
    simp [Link.closing, finished, Timers.clearSessionTtl, Timers.stopReconnect, Timers.stopHeartbeat]

/-- The connection is as it was, or was closed. -/
structure Drifts (s t : Session) : Prop where
  link : t.link = s.link ∨ ∃ ended, t.link = s.link.closing ended
  throws : t.inputs.throws <:+ s.inputs.throws

instance : Std.Refl Drifts := ⟨fun _ => ⟨.inl rfl, List.suffix_rfl⟩⟩

instance : IsTrans Session Drifts := ⟨fun s t u first second => by
  refine ⟨?_, second.throws.trans first.throws⟩
  rcases first.link with same | ⟨ended, closed⟩
  · rw [← same]
    exact second.link
  · rcases second.link with same' | ⟨again, closed'⟩
    · exact .inr ⟨ended, same'.trans closed⟩
    · rw [closed, Link.closing_closing] at closed'
      exact .inr ⟨ended || again, closed'⟩⟩

/-- A change of fields that are none of the connection's. -/
theorem drifts_modify {f : Session → Session} (same : ∀ s, (f s).link = s.link)
    (throws : ∀ s, (f s).inputs.throws = s.inputs.throws) : Keeps Drifts (modify f) :=
  fun s => ⟨.inl (same s), (throws s).symm ▸ List.suffix_rfl⟩

section Effects

theorem exhaustions_append {o : Obs} (other : o.exhausts = false) (trace : List Obs) :
    (trace ++ [o]).countP Obs.exhausts = trace.countP Obs.exhausts := by
  simp [List.countP_append, other]

theorem record_drifts {o : Obs} (other : o.exhausts = false) : Keeps Drifts (record o) := by
  apply drifts_modify
  · intro s
    simp only [Session.link, exhaustions_append other]
  · intro s
    rfl

theorem emitting_link {event : Event} (other : (Obs.emitted event).exhausts = false) (s : Session) :
    (s.emitting event).link = s.link := by
  unfold Session.emitting
  split
  · rfl
  · simp only [Session.link, exhaustions_append other]

theorem emitting_throws (event : Event) (s : Session) : (s.emitting event).inputs.throws <:+ s.inputs.throws := by
  unfold Session.emitting
  split
  · exact List.suffix_rfl
  · exact List.tail_suffix _

theorem emit_drifts {event : Event} (other : (Obs.emitted event).exhausts = false) : Keeps Drifts (emit event) := by
  intro s
  rw [after_emit]
  exact ⟨.inl (emitting_link other s), emitting_throws event s⟩

theorem sendMessage_drifts (message : ProtocolMessage) (frame : Option Sealed) :
    Keeps Drifts (sendMessage message frame) :=
  .bind .get fun _ => .ite (emit_drifts rfl) (record_drifts rfl)

theorem sendRaw_drifts (body : Body) (frame : Option Sealed) : Keeps Drifts (sendRaw body frame) :=
  .bind .get fun _ => sendMessage_drifts _ _

theorem persistSnapshot_drifts (task : Task) : Keeps Drifts (persistSnapshot task) := by
  intro s
  rcases persistSnapshot_cases task s with ⟨-, run⟩ | ⟨adapter, -, -, run⟩ |
    ⟨adapter, snapshot, -, -, -, run⟩ | ⟨adapter, snapshot, -, -, -, run⟩
  · rw [after_of_ok run]
    exact ⟨.inl rfl, List.suffix_rfl⟩
  · rw [after_of_error run]
    exact ⟨.inl rfl, List.suffix_rfl⟩
  · rw [after_of_ok run]
    exact ⟨.inl rfl, List.suffix_rfl⟩
  · rw [after_of_ok run]
    exact ⟨.inl rfl, List.suffix_rfl⟩

theorem persistSnapshotAsync_drifts : Keeps Drifts persistSnapshotAsync :=
  .bind (persistSnapshot_drifts .snapshot) fun _ => .pure _

theorem clearPersistence_drifts : Keeps Drifts clearPersistence := by
  apply drifts_modify
  all_goals
    intro s
    cases s.options.persistence with
    | none => rfl
    | some adapter =>
      dsimp only
      split_ifs <;> rfl

theorem forgetRequests_drifts : Keeps Drifts forgetRequests := drifts_modify (fun _ => rfl) fun _ => rfl

theorem setPhase_link (phase : Phase) (s : Session) : (after (setPhase phase) s).link =
    if s.phase = phase then s.link else { s.link with
      phase
      timers := if phase = .connected then s.timers else s.timers.stopHeartbeat } := by
  unfold setPhase
  rw [after_get_bind]
  by_cases same : s.phase = phase
  · rw [if_pos same, if_pos same]
    rfl
  · rw [if_neg same, if_neg same, after_modify_bind, after_emit, emitting_link rfl]
    rfl

theorem setPhase_throws (phase : Phase) (s : Session) :
    (after (setPhase phase) s).inputs.throws <:+ s.inputs.throws := by
  unfold setPhase
  rw [after_get_bind]
  split
  · exact List.suffix_rfl
  · rw [after_modify_bind, after_emit]
    exact emitting_throws _ _

/-- The session was closed, unless a listener kept it from the end. -/
structure Closes (s t : Session) : Prop where
  link : ∃ ended, t.link = s.link.closing ended
  throws : t.inputs.throws <:+ s.inputs.throws

theorem Closes.drifts {s t : Session} (closes : Closes s t) : Drifts s t := ⟨.inr closes.link, closes.throws⟩

theorem Closes.drift {s t u : Session} (closes : Closes s t) (drifts : Drifts t u) : Closes s u := by
  refine ⟨?_, drifts.throws.trans closes.throws⟩
  obtain ⟨ended, shut⟩ := closes.link
  rcases drifts.link with same | ⟨again, shut'⟩
  · exact ⟨ended, same.trans shut⟩
  · rw [shut, Link.closing_closing] at shut'
    exact ⟨ended || again, shut'⟩

/-- The last part of `close`. -/
theorem Closes.shut {s t : Session} (closes : Closes s t) : Closes s (after (setPhase .closed) t) := by
  refine ⟨?_, (setPhase_throws _ _).trans closes.throws⟩
  obtain ⟨ended, shut⟩ := closes.link
  rw [setPhase_link]
  by_cases already : t.phase = .closed
  · rw [if_pos already]
    exact ⟨ended, shut⟩
  · rw [if_neg already]
    refine ⟨true, ?_⟩
    have phase : (s.link.closing ended).phase ≠ .closed := by
      rw [← shut]
      exact already
    have timers : t.timers = (s.link.closing ended).timers := congrArg Link.timers shut
    rw [shut, timers]
    cases ended with
    | true => exact absurd rfl phase
    | false =>
      have finished : s.link.phase ≠ .closed := phase
      simp [Link.closing, finished]

/-- Everything that `close` clears is cleared before it can throw. -/
theorem close_closes (reason : String) : Keeps Closes (close reason) := by
  intro s
  let cleared : Session := { s with
    intentionalClose := true, staleBelow := s.ticket, timers := s.timers.stopReconnect.clearSessionTtl }
  have start : Closes s cleared := ⟨⟨false, rfl⟩, List.suffix_rfl⟩
  have kept {α : Type} {m : M α} (drifts : Keeps Drifts m) : Keeps (Preserve (Closes s)) m :=
    fun t closes => closes.drift (drifts t)
  have last : Keeps (Preserve (Closes s)) (do clearPersistence; setPhase .closed : M Unit) :=
    .bind (kept clearPersistence_drifts) fun _ _ closes => closes.shut
  have rest : Keeps (Preserve (Closes s)) (do
      forgetRequests
      let s ← get
      if s.channelId ≠ "" then sendRaw (.close reason) none
      clearPersistence
      setPhase .closed : M Unit) :=
    .bind (kept forgetRequests_drifts) fun _ => .bind .get fun _ =>
      .ite (.bind (kept (sendRaw_drifts _ _)) fun _ => last) last
  exact rest cleared start

theorem close_drifts (reason : String) : Keeps Drifts (close reason) :=
  (close_closes reason).mono fun _ _ closes => closes.drifts

theorem persistenceError_drifts (error : String) : Keeps Drifts (persistenceError error) :=
  .bind (emit_drifts rfl) fun _ => .bind (close_drifts _) fun _ => .pure _

end Effects

/-! ### Sending and receiving -/

section Traffic
variable (C : Crypto)

theorem nextSendSeq_drifts (task : Nat → Task) : Keeps Drifts (nextSendSeq task) :=
  .bind .get fun _ => .ite (.bind (emit_drifts rfl) fun _ => .bind (close_drifts _) fun _ => .pure _)
    (.bind (drifts_modify (fun _ => rfl) fun _ => rfl) fun _ => .bind (persistSnapshot_drifts _) fun _ =>
      .ite (.pure _) (.pure _))

theorem cacheProcessedResponse_drifts (id : String) (ok : Bool) (data : Option Json) :
    Keeps Drifts (cacheProcessedResponse id ok data) := by
  refine .bind .get fun s => ?_
  cases s.pendingRequestRecords.get id with
  | none => exact .pure _
  | some pending =>
    exact .bind (drifts_modify (fun _ => rfl) fun _ => rfl) fun _ => .bind (record_drifts rfl) fun _ =>
      .ite (.bind (drifts_modify (fun _ => rfl) fun _ => rfl) fun _ => record_drifts rfl) (.pure _)

theorem sendSealed_drifts (type : AadType) (id : String) (seq : Nat) (payload : Json) (body : Option String → Body) :
    Keeps Drifts (sendSealed C type id seq payload body) := by
  refine .bind .get fun s => ?_
  cases s.sendKey with
  | none => exact .pure _
  | some sendKey =>
    dsimp only
    cases sealPayload C sendKey s.channelId seq payload ⟨type, s.pubKeyB64, id⟩ with
    | error e => exact .throw _
    | ok made => exact .bind (record_drifts rfl) fun _ => .bind (sendRaw_drifts _ _) fun _ => .pure _

theorem sendAnswer_drifts (id : String) (ok : Bool) (data : Option Json) (caches : Bool) (seq : Nat) :
    Keeps Drifts (sendAnswer C id ok data caches seq) :=
  .bind (sendSealed_drifts C _ _ _ _ _) fun _ =>
    .ite (.bind (cacheProcessedResponse_drifts _ _ _) fun _ => .pure _) (.pure _)

theorem sendResponse_drifts (id : String) (ok : Bool) (data : Option Json) (caches observed : Bool) :
    Keeps Drifts (sendResponse C id ok data caches observed) := by
  refine .bind .get fun _ => .ite (.pure _) (.bind (nextSendSeq_drifts _) fun reservation => ?_)
  cases reservation with
  | reserved seq => exact .bind (sendAnswer_drifts C _ _ _ _ _) fun _ => .pure _
  | exhausted => exact .pure _
  | waits => exact .pure _

theorem approve_drifts (id : String) (result : Option Json) : Keeps Drifts (approve C id result) :=
  .bind (record_drifts rfl) fun _ => sendResponse_drifts C _ _ _ _ _

theorem reject_drifts (id code message : String) (observed : Bool) : Keeps Drifts (reject C id code message observed) :=
  sendResponse_drifts C _ _ _ _ _

theorem sendEvent_drifts (name : String) (data : Option Json) (evtId : String) (seq : Nat) :
    Keeps Drifts (sendEvent C name data evtId seq) :=
  .bind (sendSealed_drifts C _ _ _ _ _) fun _ => .pure _

theorem pushEvent_drifts (name : String) (data : Option Json) : Keeps Drifts (pushEvent C name data) := by
  refine .bind .get fun _ => .ite (.pure _) (.bind (nextSendSeq_drifts _) fun reservation =>
    .bind (drifts_modify (fun _ => rfl) fun _ => rfl) fun _ => ?_)
  cases reservation with
  | reserved seq => exact sendEvent_drifts C _ _ _ _
  | exhausted => exact .pure _
  | waits => exact .pure _

theorem replay_drifts (id : String) (entry : CachedRequestResponse) : Keeps Drifts (replay C id entry) :=
  .bind (record_drifts rfl) fun _ => sendResponse_drifts C _ _ _ _ _

theorem promptRequest_drifts (id method : String) (params : Json) (paramsHash : String) (plaintext : Bytes) :
    Keeps Drifts (promptRequest C id method params paramsHash plaintext) := by
  refine .bind .get fun s => ?_
  cases s.pendingRequestRecords.get id with
  | some pending => exact .ite (.pure _) (reject_drifts C _ _ _ _)
  | none =>
    exact .ite (reject_drifts C _ _ _ _) (.bind (drifts_modify (fun _ => rfl) fun _ => rfl) fun _ =>
      .bind (record_drifts rfl) fun _ => emit_drifts rfl)

theorem dispatchRequest_drifts (id method : String) (params : Json) (paramsHash : String) (plaintext : Bytes) :
    Keeps Drifts (dispatchRequest C id method params paramsHash plaintext) := by
  refine .bind .get fun s => ?_
  cases s.broadcastResponseCache.get id with
  | some cachedBroadcast => exact .ite (replay_drifts C _ _) (reject_drifts C _ _ _ _)
  | none =>
    dsimp only
    cases s.idempotencyCache.get id with
    | none => exact promptRequest_drifts C _ _ _ _ _
    | some cached =>
      exact .ite (.bind (.bind (drifts_modify (fun _ => rfl) fun _ => rfl) fun _ => record_drifts rfl) fun _ =>
        .ite (promptRequest_drifts C _ _ _ _ _) (replay_drifts C _ _)) (reject_drifts C _ _ _ _)

theorem processRequest_drifts (id : String) (data : Json) (plaintext : Bytes) :
    Keeps Drifts (processRequest C id data plaintext) := by
  refine .bind .get fun s => ?_
  cases methodOf data with
  | none => exact reject_drifts C _ _ _ _
  | some method => exact .ite (dispatchRequest_drifts C _ _ _ _ _) (reject_drifts C _ _ _ _)

theorem deliverRequest_drifts (frame : Delivery) (data : Json) : Keeps Drifts (deliverRequest C frame data) :=
  .bind (record_drifts rfl) fun _ => processRequest_drifts C _ _ _

theorem openRequest_drifts (recvKey : Bytes) (sender id envelope : String) :
    Keeps Drifts (openRequest C recvKey sender id envelope) :=
  .bind .get fun _ => .bind (.runExcept _) fun _ => .ite (.pure _)
    (.bind (drifts_modify (fun _ => rfl) fun _ => rfl) fun _ => .bind (persistSnapshot_drifts _) fun _ =>
      .ite (.pure _) (deliverRequest_drifts C _ _))

theorem handleRequest_drifts (sender : String) (id envelope : Option String) :
    Keeps Drifts (handleRequest C sender id envelope) := by
  refine .bind .get fun s => .ite (.pure _) ?_
  cases nonEmpty id with
  | none => exact .pure _
  | some id =>
    dsimp only
    split
    · exact .tryCatch (openRequest_drifts C _ _ _ _) fun _ => reject_drifts C _ _ _ _
    · exact reject_drifts C _ _ _ _

theorem ping_drifts : Keeps Drifts ping := .bind .get fun _ => .ite (sendRaw_drifts _ _) (.pure _)

theorem takeSealedJoin_drifts : Keeps Drifts (takeSealedJoin C) := by
  refine .bind .get fun s => ?_
  cases s.sessionKey with
  | none => exact .pure _
  | some sessionKey =>
    exact .bind (.runExcept _) fun _ => .bind (drifts_modify (fun _ => rfl) fun _ => rfl) fun _ => .pure _

theorem sendJoin_drifts (reconnecting : Bool) : Keeps Drifts (sendJoin C reconnecting) :=
  .bind (takeSealedJoin_drifts C) fun _ => .bind .get fun _ => .bind (persistSnapshot_drifts _) fun _ =>
    .ite (.pure _) (sendMessage_drifts _ _)

theorem observeSend_drifts (observed : Bool) (error : String) : Keeps Drifts (observeSend observed error) :=
  .ite (emit_drifts rfl) (.pure _)

end Traffic

/-! ### Continuations -/

section Continuations
variable {R : Session → Session → Prop} [Std.Refl R] [IsTrans Session R] (drift : ∀ s t, Drifts s t → R s t)

omit [Std.Refl R] [IsTrans Session R] in
include drift in
theorem modify_rule {f : Session → Session} (same : ∀ s, (f s).link = s.link)
    (throws : ∀ s, (f s).inputs.throws = s.inputs.throws) : Keeps R (modify f) :=
  (drifts_modify same throws).mono drift

include drift in
theorem joinFailed_rule (schedule : Keeps R scheduleReconnect) (reconnecting : Bool) (error : String) :
    Keeps R (joinFailed reconnecting error) :=
  .tryCatch (.bind ((persistenceError_drifts error).mono drift) fun _ => .ite schedule (.pure _)) fun _ =>
    .ite schedule (.pure _)

variable (failed : ∀ reconnecting error, Keeps R (joinFailed reconnecting error))
include drift failed

/-- Continuations of a save do what a failed join does, or less. -/
theorem resume_rule (C : Crypto) (task : Task) : Keeps R (resume C task) := by
  cases task with
  | respond id ok data caches observed seq =>
    exact .tryCatch (.bind ((sendAnswer_drifts C _ _ _ _ _).mono drift) fun _ => .pure _) fun _ =>
      (observeSend_drifts _ _).mono drift
  | event name data evtId seq => exact .tryCatch ((sendEvent_drifts C _ _ _ _).mono drift) fun _ => .pure _
  | request frame data prevRecvSeq =>
    exact .tryCatch ((deliverRequest_drifts C _ _).mono drift) fun e =>
      .bind (modify_rule drift (fun _ => rfl) fun _ => rfl) fun _ =>
      .bind ((persistenceError_drifts _).mono drift) fun _ => (emit_drifts rfl).mono drift
  | join channelId sender ts sealedJoin reconnecting =>
    exact .tryCatch ((sendMessage_drifts _ _).mono drift) fun e => failed reconnecting e
  | snapshot => exact .pure _
  | cleared => exact .pure _

theorem fail_rule (error : String) (task : Task) : Keeps R (fail error task) := by
  cases task with
  | respond id ok data caches observed seq =>
    exact .tryCatch (.bind ((persistenceError_drifts _).mono drift) fun _ => .throw _) fun _ =>
      (observeSend_drifts _ _).mono drift
  | event name data evtId seq => exact .bind ((persistenceError_drifts _).mono drift) fun _ => .pure _
  | request frame data prevRecvSeq =>
    exact .bind (modify_rule drift (fun _ => rfl) fun _ => rfl) fun _ =>
      .bind ((persistenceError_drifts _).mono drift) fun _ => (emit_drifts rfl).mono drift
  | join channelId sender ts sealedJoin reconnecting => exact failed reconnecting error
  | snapshot => exact .bind ((persistenceError_drifts _).mono drift) fun _ => .pure _
  | cleared => exact (emit_drifts rfl).mono drift

theorem settleCall_keeps (C : Crypto) (ticket : Nat) (resolves : Bool) : Keeps R (settleCall C ticket resolves) := by
  refine .bind .get fun s => ?_
  cases s.journal.find ticket with
  | none => exact .pure _
  | some call =>
    have removed : Keeps R (modify fun s => { s with journal := s.journal.remove ticket } : M Unit) :=
      modify_rule drift (fun _ => rfl) fun _ => rfl
    exact .ite (.ite (.bind removed fun _ => resume_rule drift failed C _) (.pure _))
      (.bind removed fun _ => fail_rule drift failed _ _)

end Continuations

end WalletPair.Sdk.Wallet
