import WalletPair.Sdk.Wallet.Books
import WalletPair.Sdk.Wallet.Refusals

/-! Reservations of the wallet that outlive their pairing: the answers and events whose
number is saved when the session has been closed, destroyed or paired anew. -/

namespace WalletPair.Sdk.Wallet
open WalletPair.Lib WalletPair.Lib.Program

/-! ### Silence -/

/-- A frame was sealed or given to the transport. -/
def Obs.sends : Obs → Bool
  | .sealing _ => true
  | .sent _ _ _ => true
  | _ => false

/-- Nothing was sealed, nothing given to the transport, and no record or cached answer added. -/
structure Silent (s t : Session) : Prop where
  trace : Run.Adds (fun o => o.sends = false) s.trace t.trace
  pending : ∀ id p, t.pendingRequestRecords.get id = some p → s.pendingRequestRecords.get id = some p
  idempotency : ∀ id e, t.idempotencyCache.get id = some e → s.idempotencyCache.get id = some e
  broadcast : ∀ id e, t.broadcastResponseCache.get id = some e → s.broadcastResponseCache.get id = some e

theorem silent_same {s t : Session} (trace : t.trace = s.trace) (books : t.requestBooks = s.requestBooks) :
    Silent s t := by
  have pending := pending_of_books books
  have idempotency : t.idempotencyCache = s.idempotencyCache := congrArg RequestBooks.idempotency books
  have broadcast : t.broadcastResponseCache = s.broadcastResponseCache := congrArg RequestBooks.broadcast books
  exact ⟨trace ▸ Run.Adds.refl _, fun _ _ found => pending ▸ found, fun _ _ found => idempotency ▸ found,
    fun _ _ found => broadcast ▸ found⟩

theorem Silent.refl (s : Session) : Silent s s := silent_same rfl rfl

theorem Silent.trans {s t u : Session} (first : Silent s t) (second : Silent t u) : Silent s u :=
  ⟨first.trace.trans second.trace, fun id p found => first.pending id p (second.pending id p found),
    fun id e found => first.idempotency id e (second.idempotency id e found),
    fun id e found => first.broadcast id e (second.broadcast id e found)⟩

instance : Std.Refl Silent := ⟨Silent.refl⟩

instance : IsTrans Session Silent := ⟨fun _ _ _ => Silent.trans⟩

/-- A frame was sealed or given to the transport on the way. -/
def Loud (s t : Session) : Prop := ∃ u o, Obs.sends o = true ∧ s.trace <+: u ∧ u ++ [o] <+: t.trace

theorem Loud.not_silent {s t : Session} (loud : Loud s t) : ¬ Silent s t := by
  obtain ⟨u, o, sends, before, recorded⟩ := loud
  intro silent
  exact Run.Adds.not_of_prefix (by simp [sends]) before recorded silent.trace

theorem Loud.before {s t u : Session} (grown : s.trace <+: t.trace) (loud : Loud t u) : Loud s u := by
  obtain ⟨v, o, sends, before, recorded⟩ := loud
  exact ⟨v, o, sends, grown.trans before, recorded⟩

theorem Loud.later {s t u : Session} (loud : Loud s t) (grown : t.trace <+: u.trace) : Loud s u := by
  obtain ⟨v, o, sends, before, recorded⟩ := loud
  exact ⟨v, o, sends, before, recorded.trans grown⟩

theorem emit_silent (event : Event) : Keeps Silent (emit event) := by
  intro s
  rw [after_emit]
  unfold Session.emitting
  split
  · exact Silent.refl s
  · exact ⟨Run.Adds.single rfl, fun _ _ found => found, fun _ _ found => found, fun _ _ found => found⟩

theorem silent_modify {f : Session → Session} (trace : ∀ s, (f s).trace = s.trace)
    (books : ∀ s, (f s).requestBooks = s.requestBooks) : Keeps Silent (modify f : M PUnit) :=
  fun s => silent_same (trace s) (books s)

theorem clearPersistence_silent : Keeps Silent clearPersistence := by
  refine silent_modify (fun s => ?_) (fun s => ?_)
  · split
    · rfl
    · split_ifs <;> rfl
  · split
    · rfl
    · split_ifs <;> rfl

theorem setPhase_silent (phase : Phase) : Keeps Silent (setPhase phase) :=
  .bind .get fun _ => .ite (.pure _) (.bind (silent_modify (fun _ => rfl) fun _ => rfl) fun _ => emit_silent _)

/-! ### Closing -/

/-- Whether closing puts a close frame on the wire. -/
def Session.closesAloud (s : Session) (reason : String) : Bool :=
  s.channelId ≠ "" &&
    (ProtocolMessage.mk 1 s.channelId s.inputs.now s.pubKeyB64 (.close reason)).wireBytes ≤ maxMessageBytes

theorem sendRaw_large {s : Session} {body : Body} (frame : Option Sealed)
    (large : ¬ (ProtocolMessage.mk 1 s.channelId s.inputs.now s.pubKeyB64 body).wireBytes ≤ maxMessageBytes) :
    sendRaw body frame s = emit (.error "Message exceeds 64 KB limit") s := by
  unfold sendRaw sendMessage
  rw [get_bind_apply, get_bind_apply, if_pos (Nat.lt_of_not_le large)]

/-- What closing does once everything is forgotten. -/
def finishClose (reason : String) : M Unit := do
  let s ← get
  if s.channelId ≠ "" then sendRaw (.close reason) none
  clearPersistence
  setPhase .closed

/-- Closing is silent exactly when it has no channel to name or its frame is too large. -/
theorem close_cases (s : Session) (reason : String) :
    (s.closesAloud reason = true ∧ Loud s (after (close reason) s)) ∨
      (s.closesAloud reason = false ∧ Silent s (after (close reason) s)) := by
  let u : Session := { s with
    intentionalClose := true, staleBelow := s.ticket, timers := (s.timers.stopReconnect).clearSessionTtl
    pendingRequestRecords := .empty, idempotencyCache := .empty, broadcastResponseCache := .empty }
  have forgotten : Silent s u := ⟨Run.Adds.refl _, by simp [u], by simp [u], by simp [u]⟩
  have run : after (close reason) s = after (finishClose reason) u := rfl
  have rest : Keeps Silent (do clearPersistence; setPhase .closed : M Unit) :=
    .bind clearPersistence_silent fun _ => setPhase_silent _
  have aloud : s.closesAloud reason = u.closesAloud reason := rfl
  rw [run, aloud]
  unfold finishClose
  rw [after_get_bind]
  by_cases named : u.channelId ≠ ""
  · rw [if_pos named]
    by_cases fits : (ProtocolMessage.mk 1 u.channelId u.inputs.now u.pubKeyB64 (.close reason)).wireBytes ≤ maxMessageBytes
    · let v : Session := { u with trace := u.trace ++
        [.sent ⟨1, u.channelId, u.inputs.now, u.pubKeyB64, .close reason⟩ none u.journal.disk] }
      have sent : sendRaw (.close reason) none u = .ok () v := sendRaw_fits none fits
      left
      rw [Program.after_bind, sent]
      exact ⟨by simp [Session.closesAloud, named, fits], _, _, rfl, forgotten.trace.grows, (rest v).trace.grows⟩
    · have reported : sendRaw (.close reason) none u = _ := sendRaw_large none fits
      have silent : Keeps Silent (do emit (.error "Message exceeds 64 KB limit"); clearPersistence; setPhase .closed) :=
        .bind (emit_silent _) fun _ => rest
      have ended := silent u
      right
      rw [Program.after_bind] at ended ⊢
      rw [reported]
      exact ⟨by simp [Session.closesAloud, fits], forgotten.trans ended⟩
  · right
    rw [if_neg named]
    exact ⟨by simp [Session.closesAloud, named], forgotten.trans (rest u)⟩

/-- A failed save reports the error and closes; a listener that throws prevents the closing. -/
theorem persistenceError_cases (s : Session) (error : String) :
    ((s.hears && s.closesAloud "protocol_error") = true ∧ Loud s (after (persistenceError error) s)) ∨
      ((s.hears && s.closesAloud "protocol_error") = false ∧ Silent s (after (persistenceError error) s)) := by
  let event : Event := .error ("Session persistence failed: " ++ error)
  have emitted : Silent s (s.emitting event) := after_emit event s ▸ emit_silent event s
  cases hears : s.hears with
  | false =>
    have run : after (persistenceError error) s = s.emitting event := by
      unfold persistenceError
      rw [Program.after_bind, emit_apply, hears]
      rfl
    right
    rw [run]
    exact ⟨rfl, emitted⟩
  | true =>
    have run : after (persistenceError error) s = after (close "protocol_error") (s.emitting event) := by
      unfold persistenceError
      rw [Program.after_bind, emit_apply, hears]
      exact after_bind_pure (close "protocol_error") _ _
    have aloud : (s.emitting event).closesAloud "protocol_error" = s.closesAloud "protocol_error" := by
      unfold Session.emitting
      split <;> rfl
    rw [run, Bool.true_and, ← aloud]
    rcases close_cases (s.emitting event) "protocol_error" with ⟨sent, loud⟩ | ⟨unsent, silent⟩
    · exact Or.inl ⟨sent, loud.before emitted.trace.grows⟩
    · exact Or.inr ⟨unsent, emitted.trans silent⟩

/-! ### Continuations of a reservation -/

section
variable (C : Crypto)

/-- Whether the continuation of a reservation finds a key and a payload it can seal. -/
def Session.seals (s : Session) (type : AadType) (id : String) (seq : Nat) (payload : Json) : Bool :=
  match s.sendKey with
  | none => false
  | some sendKey => (sealPayload C sendKey s.channelId seq payload ⟨type, s.pubKeyB64, id⟩).isOk

def Session.wouldSeal (s : Session) : Task → Bool
  | .respond id ok data _ _ seq => s.seals C .res id seq (responsePayload ok data)
  | .event name data evtId seq => s.seals C .evt evtId seq (eventPayload name data)
  | _ => false

/-- A frame is sealed and handed over, or nothing happens, with or without an exception. -/
theorem sendSealed_cases (s : Session) (type : AadType) (id : String) (seq : Nat) (payload : Json)
    (body : Option String → Body) :
    (s.seals C type id seq payload = true ∧ Loud s (after (sendSealed C type id seq payload body) s)) ∨
    (s.seals C type id seq payload = false ∧
      (sendSealed C type id seq payload body s = .ok false s ∨ ∃ e, sendSealed C type id seq payload body s = .error e s)) := by
  unfold sendSealed Session.seals
  rw [get_bind_apply, after_get_bind]
  cases s.sendKey with
  | none => exact Or.inr ⟨rfl, Or.inl rfl⟩
  | some sendKey =>
    dsimp only
    cases sealPayload C sendKey s.channelId seq payload ⟨type, s.pubKeyB64, id⟩ with
    | error e => exact Or.inr ⟨rfl, Or.inr ⟨e, rfl⟩⟩
    | ok pair =>
      obtain ⟨envelope, plaintext⟩ := pair
      let frame : Sealed := ⟨sendKey, seq, s.channelId, ⟨type, s.pubKeyB64, id⟩, plaintext, none⟩
      have rest : Keeps (Moves fun _ => True) (do sendRaw (body (some envelope)) (some frame); return true : M Bool) :=
        .bind (sendFrame_moves trivial _ _) fun _ => .pure _
      have grown := grows_of_moves rest { s with trace := s.trace ++ [.sealing frame] }
      have recorded : record (.sealing frame) s = .ok () { s with trace := s.trace ++ [.sealing frame] } := rfl
      refine Or.inl ⟨rfl, s.trace, .sealing frame, rfl, List.prefix_rfl, ?_⟩
      rw [after_bind_of_ok recorded]
      exact grown

theorem observeSend_silent (observed : Bool) (error : String) : Keeps Silent (observeSend observed error) :=
  .ite (emit_silent _) (.pure _)

/-- What a sealed frame is followed by does not take it out of the record; where nothing
was sealed, `next` only sees that nothing was sent. -/
theorem sealed_then_cases {s : Session} {type : AadType} {id : String} {seq : Nat} {payload : Json}
    {body : Option String → Body} {next : Bool → M Unit} {handler : String → M Unit}
    (rest : ∀ sent, Keeps (Moves fun _ => True) (next sent)) (idle : next false = pure ())
    (caught : ∀ e, Keeps Silent (handler e)) :
    (s.seals C type id seq payload = true ∧
      Loud s (after (tryCatch (sendSealed C type id seq payload body >>= next) handler) s)) ∨
    (s.seals C type id seq payload = false ∧
      Silent s (after (tryCatch (sendSealed C type id seq payload body >>= next) handler) s)) := by
  have grown (e : String) : Keeps Grows (handler e) := fun s => (caught e s).trace.grows
  rcases sendSealed_cases C s type id seq payload body with ⟨seals, loud⟩ | ⟨stuck, run | ⟨e, run⟩⟩
  · left
    exact ⟨seals, (loud.later (Keeps.after_bind (fun sent => grows_of_moves (rest sent)) s)).later
      (Keeps.after_tryCatch_of_handler grown s)⟩
  · have ended : (sendSealed C type id seq payload body >>= next) s = .ok () s := by
      rw [bind_of_ok run, idle]
      rfl
    right
    rw [after_tryCatch, ended]
    exact ⟨stuck, Silent.refl s⟩
  · have thrown : (sendSealed C type id seq payload body >>= next) s = .error e s := bind_of_error run
    right
    rw [after_tryCatch, thrown]
    exact ⟨stuck, caught e s⟩

/-- Once its save is durable, the continuation of a reservation seals, or stays silent. -/
theorem resume_cases (s : Session) (task : Task) (reserved : task.reserves ≠ none) :
    (s.wouldSeal C task = true ∧ Loud s (after (resume C task) s)) ∨
      (s.wouldSeal C task = false ∧ Silent s (after (resume C task) s)) := by
  cases task with
  | respond id ok data caches observed seq =>
    let next (sent : Bool) : M Unit :=
      (if sent ∧ caches then cacheProcessedResponse id ok data >>= fun _ => pure sent else pure sent) >>= fun _ => pure ()
    have rest (sent : Bool) : Keeps (Moves fun _ => True) (next sent) :=
      .bind (.ite (.bind (cacheProcessedResponse_moves trivial _ _ _) fun _ => .pure _) (.pure _)) fun _ => .pure _
    have split : (sendAnswer C id ok data caches seq >>= fun _ => pure () : M Unit) =
        sendSealed C .res id seq (responsePayload ok data) (.res (some id)) >>= next := bind_assoc _ _ _
    change (_ ∧ Loud s (after (tryCatch (sendAnswer C id ok data caches seq >>= fun _ => pure ()) _) s)) ∨
      (_ ∧ Silent s (after (tryCatch (sendAnswer C id ok data caches seq >>= fun _ => pure ()) _) s))
    rw [split]
    exact sealed_then_cases C rest rfl (observeSend_silent observed)
  | event name data evtId seq =>
    exact sealed_then_cases C (fun _ => .pure _) rfl fun _ => .pure _
  | request frame data prevRecvSeq => exact absurd rfl reserved
  | join channelId sender ts sealedJoin reconnecting => exact absurd rfl reserved
  | snapshot => exact absurd rfl reserved
  | cleared => exact absurd rfl reserved

/-- When its save is rejected, the continuation of a reservation closes the session. -/
theorem fail_cases (s : Session) (task : Task) (reserved : task.reserves ≠ none) :
    ((s.hears && s.closesAloud "protocol_error") = true ∧ Loud s (after (fail "save" task) s)) ∨
      ((s.hears && s.closesAloud "protocol_error") = false ∧ Silent s (after (fail "save" task) s)) := by
  cases task with
  | respond id ok data caches observed seq =>
    have rethrown (wrapped : String) : Keeps Silent (throw wrapped : M Unit) := .throw _
    have caught := observeSend_silent observed
    have thrown (wrapped : String) : Keeps Grows (throw wrapped : M Unit) := .throw _
    have grown (e : String) : Keeps Grows (observeSend observed e) := fun s => (caught e s).trace.grows
    rcases persistenceError_cases s "save" with ⟨aloud, loud⟩ | ⟨hushed, silent⟩
    · left
      exact ⟨aloud, (loud.later (Keeps.after_bind thrown s)).later (Keeps.after_tryCatch_of_handler grown s)⟩
    · right
      exact ⟨hushed, (silent.trans (Keeps.after_bind rethrown s)).trans (Keeps.after_tryCatch_of_handler caught s)⟩
  | event name data evtId seq =>
    have run : after (fail "save" (.event name data evtId seq)) s = after (persistenceError "save") s :=
      after_bind_pure (persistenceError "save") _ s
    rw [run]
    exact persistenceError_cases s "save"
  | request frame data prevRecvSeq => exact absurd rfl reserved
  | join channelId sender ts sealedJoin reconnecting => exact absurd rfl reserved
  | snapshot => exact absurd rfl reserved
  | cleared => exact absurd rfl reserved

/-! ### Runs -/

/-- The step settles the save of a number reserved before the session was last closed or
paired anew, by the application or by the session itself. -/
def Session.settlesStale (s : Session) (ticket : Nat) : Prop :=
  ticket < s.staleBelow ∧ ∃ call, s.journal.find ticket = some call ∧ call.task.reserves ≠ none

/-- A stale reservation is not used in this step. -/
def StaleUnused (s : Session) (l : Inputs × Label) : Prop :=
  ∀ ticket ok, l.2 = .settle ticket ok → s.settlesStale ticket → Silent s (step C s l)

/-- When a stale save resolves, there is nothing to seal with; when it is rejected, no
close frame can go out. -/
def StaleUnusable (s : Session) (l : Inputs × Label) : Prop :=
  ∀ ticket ok, l.2 = .settle ticket ok → s.settlesStale ticket → ∀ call, s.journal.find ticket = some call →
    if ok then call.durable = true → s.wouldSeal C call.task = false
    else (Session.hears { s with inputs := l.1 } &&
      Session.closesAloud { s with inputs := l.1 } "protocol_error") = false

theorem settle_silent_iff (s : Session) (inputs : Inputs) (ticket : Nat) (ok : Bool) (call : Call Snapshot Task)
    (found : s.journal.find ticket = some call) (reserved : call.task.reserves ≠ none) :
    Silent s (step C s (inputs, .settle ticket ok)) ↔
      if ok then call.durable = true → s.wouldSeal C call.task = false
      else (Session.hears { s with inputs := inputs } &&
        Session.closesAloud { s with inputs := inputs } "protocol_error") = false := by
  let u : Session := { s with inputs := inputs, journal := s.journal.remove ticket }
  have same {t : Session} : Silent s t ↔ Silent u t :=
    ⟨fun h => ⟨h.trace, h.pending, h.idempotency, h.broadcast⟩, fun h => ⟨h.trace, h.pending, h.idempotency, h.broadcast⟩⟩
  have waiting : Session.journal { s with inputs := inputs } = s.journal := rfl
  cases ok with
  | true =>
    by_cases durable : call.durable = true
    · have run : step C s (inputs, .settle ticket true) = after (resume C call.task) u := by
        change after (settleCall C ticket true) { s with inputs := inputs } = _
        unfold settleCall
        rw [after_get_bind, waiting, found]
        simp only [if_true, durable, after_modify_bind]
        rfl
      rw [run, same]
      rcases resume_cases C u call.task reserved with ⟨seals, loud⟩ | ⟨stuck, silent⟩
      · have seals : s.wouldSeal C call.task = true := seals
        exact iff_of_false loud.not_silent (by simp [durable, seals])
      · have stuck : s.wouldSeal C call.task = false := stuck
        exact iff_of_true silent (by simp [stuck])
    · have run : step C s (inputs, .settle ticket true) = { s with inputs := inputs } := by
        change after (settleCall C ticket true) { s with inputs := inputs } = _
        unfold settleCall
        rw [after_get_bind, waiting, found]
        simp only [if_true, durable]
        rfl
      rw [run]
      exact iff_of_true (silent_same rfl rfl) (by simp [durable])
  | false =>
    have run : step C s (inputs, .settle ticket false) = after (fail "save" call.task) u := by
      change after (settleCall C ticket false) { s with inputs := inputs } = _
      unfold settleCall
      rw [after_get_bind, waiting, found]
      rfl
    rw [run, same]
    rcases fail_cases u call.task reserved with ⟨aloud, loud⟩ | ⟨hushed, silent⟩
    · have aloud : (Session.hears { s with inputs := inputs } &&
        Session.closesAloud { s with inputs := inputs } "protocol_error") = true := aloud
      exact iff_of_false loud.not_silent (by simp [aloud])
    · exact iff_of_true silent hushed

/-- In every run, no stale reservation is used exactly when none is usable as it settles. -/
theorem stale_unused_iff (s : Session) (labels : List (Inputs × Label)) :
    Run.Along (step C) (StaleUnused C) s labels ↔
      Run.Along (step C) (StaleUnusable C) s labels := by
  refine Run.along_congr fun s l => ⟨fun unused ticket ok shape stale call found => ?_, fun unusable ticket ok shape stale => ?_⟩
  · obtain ⟨older, call', found', reserved⟩ := stale
    have same : call' = call := Option.some.inj (found'.symm.trans found)
    subst same
    have silent := unused ticket ok shape ⟨older, call', found', reserved⟩
    obtain ⟨inputs, label⟩ := l
    obtain rfl : label = _ := shape
    exact (settle_silent_iff C s inputs ticket ok call' found reserved).mp silent
  · obtain ⟨older, call, found, reserved⟩ := stale
    have usable := unusable ticket ok shape ⟨older, call, found, reserved⟩ call found
    obtain ⟨inputs, label⟩ := l
    obtain rfl : label = _ := shape
    exact (settle_silent_iff C s inputs ticket ok call found reserved).mpr usable

end

end WalletPair.Sdk.Wallet
