import WalletPair.Sdk.DApp.Moves

/-! The fields of the dApp session that belong to its connection. Sending, receiving and
settling leave them alone unless they close the session; the methods that do change them
are the ones that connect, drop and reconnect. -/

namespace WalletPair.Sdk.DApp
open WalletPair.Lib WalletPair.Lib.Program

/-- The end of a reconnect cycle that was given up. -/
def Obs.exhausts : Obs → Bool
  | .emitted (.reconnectExhausted _) => true
  | _ => false

/-- The connection as the session keeps it, with the clock it reads and how often it gave up. -/
structure Link where
  options : Options
  url : Option String
  channelId : String
  pairingUri : String
  phase : Phase
  timers : Timers
  pendingAcceptTimer : Option Nat
  reconnecting : Bool
  reconnectAttempt : Nat
  reconnectStartedAt : Nat
  intentionalClose : Bool
  connects : List (Nat × Await)
  now : Nat
  muted : Bool
  exhaustions : Nat

def Session.link (s : Session) : Link where
  options := s.options
  url := s.url
  channelId := s.channelId
  pairingUri := s.pairingUri
  phase := s.phase
  timers := s.timers
  pendingAcceptTimer := s.pendingAcceptTimer
  reconnecting := s.reconnecting
  reconnectAttempt := s.reconnectAttempt
  reconnectStartedAt := s.reconnectStartedAt
  intentionalClose := s.intentionalClose
  connects := s.connects
  now := s.inputs.now
  muted := s.muted
  exhaustions := s.trace.countP Obs.exhausts

/-- What `close` makes of the connection; a listener that throws may keep it from its end. -/
def Link.closing (l : Link) (ended : Bool) : Link :=
  { l with
    intentionalClose := true
    pendingAcceptTimer := none
    phase := if ended then .closed else l.phase
    timers :=
      if ended ∧ l.phase ≠ .closed then l.timers.clearSessionTtl.stopReconnect.stopHeartbeat
      else l.timers.clearSessionTtl.stopReconnect }

theorem Link.closing_closing (l : Link) (first second : Bool) :
    (l.closing first).closing second = l.closing (first || second) := by
  cases first <;> cases second <;> by_cases finished : l.phase = .closed <;>
    simp [Link.closing, finished, Timers.clearSessionTtl, Timers.stopReconnect, Timers.stopHeartbeat]

/-- The connection is as it was, or was closed. -/
structure Drifts (s t : Session) : Prop where
  link : t.link = s.link ∨ ∃ ended, t.link = s.link.closing ended
  throws : t.inputs.throws <:+ s.inputs.throws

instance : Std.Refl Drifts := ⟨fun _ => ⟨.inl rfl, List.suffix_rfl⟩⟩

instance : IsTrans Session Drifts := ⟨fun s t u first second => by
  refine ⟨?_, second.throws.trans first.throws⟩
  rcases first.link with same | ⟨ended, closed⟩
  · rw [← same]
    exact second.link
  · rcases second.link with same' | ⟨again, closed'⟩
    · exact .inr ⟨ended, same'.trans closed⟩
    · rw [closed, Link.closing_closing] at closed'
      exact .inr ⟨ended || again, closed'⟩⟩

/-- A change of fields that are none of the connection's. -/
theorem drifts_modify {f : Session → Session} (same : ∀ s, (f s).link = s.link)
    (throws : ∀ s, (f s).inputs.throws = s.inputs.throws) : Keeps Drifts (modify f) :=
  fun s => ⟨.inl (same s), (throws s).symm ▸ List.suffix_rfl⟩

section Effects

theorem exhaustions_append {o : Obs} (other : o.exhausts = false) (trace : List Obs) :
    (trace ++ [o]).countP Obs.exhausts = trace.countP Obs.exhausts := by
  simp [List.countP_append, other]

theorem record_drifts {o : Obs} (other : o.exhausts = false) : Keeps Drifts (record o) := by
  apply drifts_modify
  · intro s
    simp only [Session.link, exhaustions_append other]
  · intro s
    rfl

theorem emitting_link {event : Event} (other : (Obs.emitted event).exhausts = false) (s : Session) :
    (s.emitting event).link = s.link := by
  unfold Session.emitting
  split
  · rfl
  · simp only [Session.link, exhaustions_append other]

theorem emitting_throws (event : Event) (s : Session) : (s.emitting event).inputs.throws <:+ s.inputs.throws := by
  unfold Session.emitting
  split
  · exact List.suffix_rfl
  · exact List.tail_suffix _

theorem emit_drifts {event : Event} (other : (Obs.emitted event).exhausts = false) : Keeps Drifts (emit event) := by
  intro s
  rw [after_emit]
  exact ⟨.inl (emitting_link other s), emitting_throws event s⟩

theorem settle_drifts (promise : Nat) (outcome : Outcome) : Keeps Drifts (settle promise outcome) := by
  apply drifts_modify
  · intro s
    split
    · rfl
    · simp only [Session.link, exhaustions_append (o := .settled promise outcome) rfl]
  · intro s
    split <;> rfl

theorem freshTicket_drifts : Keeps Drifts freshTicket :=
  .bind .get fun _ => .bind (drifts_modify (fun _ => rfl) fun _ => rfl) fun _ => .pure _

theorem sendRaw_drifts (body : Body) (frame : Option Sealed) : Keeps Drifts (sendRaw body frame) :=
  .bind .get fun _ => .ite (emit_drifts rfl) (record_drifts rfl)

theorem persistSnapshot_drifts (task : Task) : Keeps Drifts (persistSnapshot task) := by
  intro s
  rcases persistSnapshot_cases task s with ⟨-, run⟩ | ⟨adapter, -, -, run⟩ |
    ⟨adapter, snapshot, -, -, -, run⟩ | ⟨adapter, snapshot, -, -, -, run⟩
  · rw [after_of_ok run]
    exact ⟨.inl rfl, List.suffix_rfl⟩
  · rw [after_of_error run]
    exact ⟨.inl rfl, List.suffix_rfl⟩
  · rw [after_of_ok run]
    exact ⟨.inl rfl, List.suffix_rfl⟩
  · rw [after_of_ok run]
    exact ⟨.inl rfl, List.suffix_rfl⟩

theorem persistSnapshotAsync_drifts : Keeps Drifts persistSnapshotAsync :=
  .bind (persistSnapshot_drifts .snapshot) fun _ => .pure _

theorem clearPersistence_drifts : Keeps Drifts clearPersistence := by
  apply drifts_modify
  all_goals
    intro s
    cases s.options.persistence with
    | none => rfl
    | some adapter =>
      dsimp only
      split_ifs <;> rfl

theorem rejectAllPending_drifts (error : String) : Keeps Drifts (rejectAllPending error) :=
  .bind .get fun _ => .bind (.forM _ _ fun _ _ => .bind (drifts_modify (fun _ => rfl) fun _ => rfl) fun _ =>
    settle_drifts _ _) fun _ => drifts_modify (fun _ => rfl) fun _ => rfl

theorem setPhase_link (phase : Phase) (s : Session) : (after (setPhase phase) s).link =
    if s.phase = phase then s.link else { s.link with
      phase
      timers := if phase = .connected then s.timers else s.timers.stopHeartbeat } := by
  unfold setPhase
  rw [after_get_bind]
  by_cases same : s.phase = phase
  · rw [if_pos same, if_pos same]
    rfl
  · rw [if_neg same, if_neg same, after_modify_bind, after_emit, emitting_link rfl]
    rfl

theorem setPhase_throws (phase : Phase) (s : Session) :
    (after (setPhase phase) s).inputs.throws <:+ s.inputs.throws := by
  unfold setPhase
  rw [after_get_bind]
  split
  · exact List.suffix_rfl
  · rw [after_modify_bind, after_emit]
    exact emitting_throws _ _

/-- The session was closed, unless a listener kept it from the end. -/
structure Closes (s t : Session) : Prop where
  link : ∃ ended, t.link = s.link.closing ended
  throws : t.inputs.throws <:+ s.inputs.throws

theorem Closes.drifts {s t : Session} (closes : Closes s t) : Drifts s t := ⟨.inr closes.link, closes.throws⟩

theorem Closes.drift {s t u : Session} (closes : Closes s t) (drifts : Drifts t u) : Closes s u := by
  refine ⟨?_, drifts.throws.trans closes.throws⟩
  obtain ⟨ended, shut⟩ := closes.link
  rcases drifts.link with same | ⟨again, shut'⟩
  · exact ⟨ended, same.trans shut⟩
  · rw [shut, Link.closing_closing] at shut'
    exact ⟨ended || again, shut'⟩

/-- The last part of `close`. -/
theorem Closes.shut {s t : Session} (closes : Closes s t) : Closes s (after (setPhase .closed) t) := by
  refine ⟨?_, (setPhase_throws _ _).trans closes.throws⟩
  obtain ⟨ended, shut⟩ := closes.link
  rw [setPhase_link]
  by_cases already : t.phase = .closed
  · rw [if_pos already]
    exact ⟨ended, shut⟩
  · rw [if_neg already]
    refine ⟨true, ?_⟩
    have phase : (s.link.closing ended).phase ≠ .closed := by
      rw [← shut]
      exact already
    have timers : t.timers = (s.link.closing ended).timers := congrArg Link.timers shut
    rw [shut, timers]
    cases ended with
    | true => exact absurd rfl phase
    | false =>
      have finished : s.link.phase ≠ .closed := phase
      simp [Link.closing, finished]

/-- Everything that `close` clears is cleared before it can throw. -/
theorem close_closes (reason : String) : Keeps Closes (close reason) := by
  intro s
  let cleared : Session := { s with
    intentionalClose := true, staleBelow := s.ticket, pendingAcceptTimer := none
    timers := s.timers.clearSessionTtl.stopReconnect }
  have start : Closes s cleared := ⟨⟨false, rfl⟩, List.suffix_rfl⟩
  have kept {α : Type} {m : M α} (drifts : Keeps Drifts m) : Keeps (Preserve (Closes s)) m :=
    fun t closes => closes.drift (drifts t)
  have last : Keeps (Preserve (Closes s)) (do clearPersistence; setPhase .closed : M Unit) :=
    .bind (kept clearPersistence_drifts) fun _ _ closes => closes.shut
  have rest : Keeps (Preserve (Closes s)) (do
      rejectAllPending "Session closed"
      let s ← get
      if s.channelId ≠ "" then sendRaw (.close reason) none
      clearPersistence
      setPhase .closed : M Unit) :=
    .bind (kept (rejectAllPending_drifts _)) fun _ => .bind .get fun _ =>
      .ite (.bind (kept (sendRaw_drifts _ _)) fun _ => last) last
  exact rest cleared start

theorem close_drifts (reason : String) : Keeps Drifts (close reason) :=
  (close_closes reason).mono fun _ _ closes => closes.drifts

theorem persistenceError_drifts (error : String) : Keeps Drifts (persistenceError error) :=
  .bind (emit_drifts rfl) fun _ => .bind (close_drifts _) fun _ => .pure _

end Effects

/-! ### Sending and receiving -/

section Traffic
variable (C : Crypto)

theorem nextSendSeq_drifts (task : Nat → Task) : Keeps Drifts (nextSendSeq task) :=
  .bind .get fun _ => .ite (.bind (emit_drifts rfl) fun _ => .bind (close_drifts _) fun _ => .throw _)
    (.bind (drifts_modify (fun _ => rfl) fun _ => rfl) fun _ => .bind (persistSnapshot_drifts _) fun _ =>
      .ite (.pure _) (.pure _))

theorem buildRequestMessage_drifts (call : Nat) (id method : String) (params : Option Json) (seq : Nat) :
    Keeps Drifts (buildRequestMessage C call id method params seq) := by
  refine .bind .get fun s => ?_
  cases s.sendKey with
  | none => exact .throw _
  | some sendKey =>
    dsimp only
    cases sealPayload C sendKey s.channelId seq (buildSealedParams method params) ⟨.req, s.pubKeyB64, id⟩ with
    | error e => exact .throw _
    | ok made => exact .bind (record_drifts rfl) fun _ => .pure _

theorem sendRequest_drifts (promise : Nat) (id method : String) (params : Option Json) (seq : Nat) :
    Keeps Drifts (sendRequest C promise id method params seq) :=
  .bind (buildRequestMessage_drifts C promise id method params seq) fun _ =>
    .bind (drifts_modify (fun _ => rfl) fun _ => rfl) fun _ => .tryCatch (sendRaw_drifts _ _) fun _ => settle_drifts _ _

theorem sendResend_drifts (call : Nat) (id method : String) (params : Option Json) (seq : Nat) :
    Keeps Drifts (sendResend C call id method params seq) :=
  .bind (buildRequestMessage_drifts C call id method params seq) fun _ => sendRaw_drifts _ _

theorem request_drifts (method : String) (params : Option Json) : Keeps Drifts (request C method params) := by
  refine .bind freshTicket_drifts fun _ => .bind .get fun _ => .ite (settle_drifts _ _) (.ite (settle_drifts _ _)
    (.bind (drifts_modify (fun _ => rfl) fun _ => rfl) fun _ => .tryCatch
      (.bind (nextSendSeq_drifts _) fun reserved => ?_) fun _ => settle_drifts _ _))
  cases reserved with
  | none => exact .pure _
  | some seq => exact sendRequest_drifts C _ _ _ _ _

theorem resendPending_drifts : Keeps Drifts (resendPending C) := by
  refine .bind .get fun _ => .ite (.pure _) (.forM _ _ fun req _ => .bind (nextSendSeq_drifts _) fun reserved => ?_)
  cases reserved with
  | none => exact .pure _
  | some seq => exact sendResend_drifts C _ _ _ _ _

theorem deliverResponse_drifts (promise : Nat) (frame : Delivery) (data : Json) :
    Keeps Drifts (deliverResponse promise frame data) := by
  refine .bind (record_drifts rfl) fun _ => .bind (.runExcept _) fun outcome => ?_
  split
  · exact .bind (settle_drifts _ _) fun _ => emit_drifts rfl
  · exact .bind (.runExcept _) fun _ => .bind (settle_drifts _ _) fun _ => emit_drifts rfl
  · exact settle_drifts _ _

theorem deliverEvent_drifts (frame : Delivery) (data : Json) : Keeps Drifts (deliverEvent frame data) := by
  refine .bind (record_drifts rfl) fun _ => ?_
  cases eventOf data with
  | none => exact emit_drifts rfl
  | some named => exact emit_drifts rfl

theorem openResponse_drifts (promise : Nat) (recvKey : Bytes) (sender id envelope : String) :
    Keeps Drifts (openResponse C promise recvKey sender id envelope) :=
  .bind .get fun _ => .bind (.runExcept _) fun _ => .ite (settle_drifts _ _)
    (.bind (drifts_modify (fun _ => rfl) fun _ => rfl) fun _ => .bind (persistSnapshot_drifts _) fun _ =>
      .ite (.pure _) (deliverResponse_drifts _ _ _))

theorem openEvent_drifts (recvKey : Bytes) (sender id envelope : String) :
    Keeps Drifts (openEvent C recvKey sender id envelope) :=
  .bind .get fun _ => .bind (.runExcept _) fun _ => .ite (.pure _)
    (.bind (drifts_modify (fun _ => rfl) fun _ => rfl) fun _ => .bind (persistSnapshot_drifts _) fun _ =>
      .ite (.pure _) (deliverEvent_drifts _ _))

theorem handleResponse_drifts (sender : String) (id envelope : Option String) :
    Keeps Drifts (handleResponse C sender id envelope) := by
  refine .bind .get fun s => .ite (.pure _) ?_
  cases nonEmpty id with
  | none => exact .pure _
  | some id =>
    dsimp only
    cases s.pendingRequests.get id with
    | none => exact .pure _
    | some pending =>
      refine .bind (drifts_modify (fun _ => rfl) fun _ => rfl) fun _ => ?_
      split
      · exact .tryCatch (openResponse_drifts C _ _ _ _ _) fun _ => settle_drifts _ _
      · exact settle_drifts _ _

theorem handleEvent_drifts (sender : String) (id envelope : Option String) :
    Keeps Drifts (handleEvent C sender id envelope) := by
  refine .bind .get fun s => .ite (.pure _) ?_
  split
  · exact .tryCatch (openEvent_drifts C _ _ _ _) fun _ => .pure _
  · exact .pure _

/-- A continuation that puts the counter back and closes. -/
theorem rollback_drifts {rest : String → M Unit} (prevRecvSeq : Int) (error : String)
    (last : ∀ wrapped, Keeps Drifts (rest wrapped)) :
    Keeps Drifts (do
      modify fun s => { s with recvSeq := prevRecvSeq }
      let wrapped ← persistenceError error
      rest wrapped) :=
  .bind (drifts_modify (fun _ => rfl) fun _ => rfl) fun _ => .bind (persistenceError_drifts error) last

theorem resume_drifts (task : Task) : Keeps Drifts (resume C task) := by
  cases task with
  | request promise id method params seq =>
    exact .tryCatch (sendRequest_drifts C _ _ _ _ _) fun _ => settle_drifts _ _
  | resend promise id method params seq => exact .tryCatch (sendResend_drifts C _ _ _ _ _) fun _ => .pure _
  | response promise frame data prevRecvSeq =>
    exact .tryCatch (deliverResponse_drifts _ _ _) fun e => rollback_drifts prevRecvSeq e fun _ => settle_drifts _ _
  | event frame data prevRecvSeq =>
    exact .tryCatch (deliverEvent_drifts _ _) fun e => rollback_drifts prevRecvSeq e fun _ => emit_drifts rfl
  | accept target =>
    exact .tryCatch (sendRaw_drifts _ _) fun _ => .bind (persistenceError_drifts _) fun _ => .pure _
  | snapshot => exact .pure _
  | cleared => exact .pure _

theorem fail_drifts (error : String) (task : Task) : Keeps Drifts (fail error task) := by
  cases task with
  | request promise id method params seq =>
    exact .tryCatch (.bind (persistenceError_drifts _) fun _ => settle_drifts _ _) fun _ => settle_drifts _ _
  | resend promise id method params seq => exact .bind (persistenceError_drifts _) fun _ => .pure _
  | response promise frame data prevRecvSeq => exact rollback_drifts prevRecvSeq error fun _ => settle_drifts _ _
  | event frame data prevRecvSeq => exact rollback_drifts prevRecvSeq error fun _ => emit_drifts rfl
  | accept target => exact .bind (persistenceError_drifts _) fun _ => .pure _
  | snapshot => exact .bind (persistenceError_drifts _) fun _ => .pure _
  | cleared => exact emit_drifts rfl

theorem settleCall_drifts (ticket : Nat) (resolves : Bool) : Keeps Drifts (settleCall C ticket resolves) := by
  refine .bind .get fun s => ?_
  cases s.journal.find ticket with
  | none => exact .pure _
  | some call =>
    exact .ite (.ite (.bind (drifts_modify (fun _ => rfl) fun _ => rfl) fun _ => resume_drifts C _) (.pure _))
      (.bind (drifts_modify (fun _ => rfl) fun _ => rfl) fun _ => fail_drifts _ _)

end Traffic

/-! ### Joins up to the offer -/

section Joins
variable (C : Crypto)

theorem doAccept_drifts : Keeps Drifts doAccept :=
  .bind (drifts_modify (fun _ => rfl) fun _ => rfl) fun _ => .bind .get fun _ =>
    .bind (persistSnapshot_drifts _) fun _ => .ite (.pure _) (sendRaw_drifts _ _)

theorem ping_drifts : Keeps Drifts ping := .bind .get fun _ => .ite (sendRaw_drifts _ _) (.pure _)

theorem rejectWallet_drifts : Keeps Drifts rejectWallet :=
  .bind .get fun _ => .ite (.pure _) (.bind (sendRaw_drifts _ _) fun _ => close_drifts _)

theorem refuseJoin_drifts (reason error : String) : Keeps Drifts (refuseJoin reason error) :=
  .bind (sendRaw_drifts _ _) fun _ => emit_drifts rfl

/-- A join does to the connection what offering the wallet does. -/
theorem handleJoin_rule {R : Session → Session → Prop} [Std.Refl R] [IsTrans Session R]
    (drift : ∀ s t, Drifts s t → R s t)
    (offer : ∀ key known capabilities walletMeta, Keeps R (offerWallet key known capabilities walletMeta))
    (joinPubKey : String) (sealedJoin : SealedJoin) : Keeps R (handleJoin C joinPubKey sealedJoin) := by
  have change {f : Session → Session} (same : ∀ s, (f s).link = s.link)
      (throws : ∀ s, (f s).inputs.throws = s.inputs.throws) : Keeps R (modify f) :=
    (drifts_modify same throws).mono drift
  have refuse (reason error : String) : Keeps R (refuseJoin reason error) := (refuseJoin_drifts reason error).mono drift
  refine .ite ((emit_drifts rfl).mono drift) ?_
  cases decodePublicKey joinPubKey with
  | none => exact refuse _ _
  | some remoteBytes =>
    refine .bind (change (fun _ => rfl) fun _ => rfl) fun _ => .bind .get fun _ => .bind (.runExcept _) fun rootKey =>
      .bind .get fun s => ?_
    cases readJoin C s rootKey sealedJoin with
    | refused reason error => exact refuse reason error
    | offered capabilities walletMeta =>
      refine .ite (refuse _ _) (.bind (.runExcept _) fun _ => .bind (change (fun _ => rfl) fun _ => rfl) fun _ =>
        .bind (.runExcept _) fun _ => .bind (change (fun _ => rfl) fun _ => rfl) fun _ => ?_)
      cases scopeError s capabilities with
      | some error => exact refuse _ _
      | none => exact offer _ _ _ _

end Joins

end WalletPair.Sdk.DApp
