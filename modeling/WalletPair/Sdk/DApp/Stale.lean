import WalletPair.Sdk.DApp.Books

/-! Reservations that outlive their pairing. The continuation of a save runs against
whatever the session holds by then; it stays quiet exactly when there is nothing left to
seal with. -/

namespace WalletPair.Sdk.DApp
open WalletPair.Lib WalletPair.Lib.Program

/-! ### Silence -/

/-- A frame was sealed or given to the transport. -/
def Obs.sends : Obs → Bool
  | .sealing _ => true
  | .sent _ _ _ => true
  | _ => false

/-- Nothing was sealed, nothing given to the transport, and no pending request added. -/
structure Silent (s t : Session) : Prop where
  trace : Run.Adds (fun o => o.sends = false) s.trace t.trace
  entries : ∀ id p, t.pendingRequests.get id = some p → s.pendingRequests.get id = some p

theorem Silent.refl (s : Session) : Silent s s := ⟨Run.Adds.refl _, fun _ _ found => found⟩

theorem silent_same {s t : Session} (trace : t.trace = s.trace) (entries : t.pendingRequests = s.pendingRequests) :
    Silent s t := ⟨trace ▸ Run.Adds.refl _, fun _ _ found => entries ▸ found⟩

theorem Silent.trans {s t u : Session} (first : Silent s t) (second : Silent t u) : Silent s u :=
  ⟨first.trace.trans second.trace, fun id p found => first.entries id p (second.entries id p found)⟩

instance : Std.Refl Silent := ⟨Silent.refl⟩

instance : IsTrans Session Silent := ⟨fun _ _ _ => Silent.trans⟩

theorem Silent.of_mem_drop {s t : Session} (silent : Silent s t) {o : Obs} (mem : o ∈ t.trace.drop s.trace.length) :
    o.sends = false := by
  obtain ⟨new, made, quiet⟩ := silent.trace
  rw [made, List.drop_left] at mem
  exact quiet o mem

/-- A frame was sealed or given to the transport on the way. -/
def Loud (s t : Session) : Prop := ∃ u o, Obs.sends o = true ∧ s.trace <+: u ∧ u ++ [o] <+: t.trace

theorem Loud.not_silent {s t : Session} (loud : Loud s t) : ¬ Silent s t := by
  obtain ⟨u, o, sends, before, recorded⟩ := loud
  intro silent
  exact Run.Adds.not_of_prefix (by simp [sends]) before recorded silent.trace

theorem Loud.before {s t u : Session} (grown : s.trace <+: t.trace) (loud : Loud t u) : Loud s u := by
  obtain ⟨v, o, sends, before, recorded⟩ := loud
  exact ⟨v, o, sends, grown.trans before, recorded⟩

theorem Loud.later {s t u : Session} (loud : Loud s t) (grown : t.trace <+: u.trace) : Loud s u := by
  obtain ⟨v, o, sends, before, recorded⟩ := loud
  exact ⟨v, o, sends, before, recorded.trans grown⟩

theorem silent_modify {f : Session → Session} (trace : ∀ s, (f s).trace = s.trace)
    (entries : ∀ s id p, (f s).pendingRequests.get id = some p → s.pendingRequests.get id = some p) :
    Keeps Silent (modify f : M PUnit) :=
  fun s => ⟨by rw [after_modify, trace]; exact Run.Adds.refl _, entries s⟩

theorem emit_silent (event : Event) : Keeps Silent (emit event) := by
  intro s
  rw [after_emit]
  unfold Session.emitting
  split
  · exact Silent.refl s
  · exact ⟨Run.Adds.single rfl, fun _ _ found => found⟩

theorem settle_silent (promise : Nat) (outcome : Outcome) : Keeps Silent (settle promise outcome) := by
  intro s
  unfold settle
  rw [after_modify]
  split
  · exact Silent.refl s
  · exact ⟨Run.Adds.single rfl, fun _ _ found => found⟩

theorem clearPersistence_silent : Keeps Silent clearPersistence := by
  refine silent_modify (fun s => ?_) (fun s id p found => ?_)
  · split
    · rfl
    · split_ifs <;> rfl
  · split at found
    · exact found
    · split_ifs at found <;> exact found

theorem setPhase_silent (phase : Phase) : Keeps Silent (setPhase phase) :=
  .bind .get fun _ => .ite (.pure _) (.bind (silent_modify (fun _ => rfl) fun _ _ _ found => found) fun _ => emit_silent _)

/-! ### Closing -/

/-- Whether closing puts a close frame on the wire. -/
def Session.closesAloud (s : Session) (reason : String) : Bool :=
  s.channelId ≠ "" &&
    (ProtocolMessage.mk 1 s.channelId s.inputs.now s.pubKeyB64 (.close reason)).wireBytes ≤ maxMessageBytes

theorem sendRaw_fits {s : Session} {body : Body} (frame : Option Sealed)
    (fits : (ProtocolMessage.mk 1 s.channelId s.inputs.now s.pubKeyB64 body).wireBytes ≤ maxMessageBytes) :
    sendRaw body frame s = .ok () { s with
      trace := s.trace ++ [.sent ⟨1, s.channelId, s.inputs.now, s.pubKeyB64, body⟩ frame s.journal.disk] } := by
  unfold sendRaw
  rw [get_bind_apply, if_neg (Nat.not_lt_of_le fits)]
  rfl

theorem sendRaw_large {s : Session} {body : Body} (frame : Option Sealed)
    (large : ¬ (ProtocolMessage.mk 1 s.channelId s.inputs.now s.pubKeyB64 body).wireBytes ≤ maxMessageBytes) :
    sendRaw body frame s = emit (.error "Message exceeds 64 KB limit") s := by
  unfold sendRaw
  rw [get_bind_apply, if_pos (Nat.lt_of_not_le large)]

/-- Silent so far, and addressed as before. -/
structure Hushed (s t : Session) : Prop extends Silent s t where
  channelId : t.channelId = s.channelId
  now : t.inputs.now = s.inputs.now
  pubKeyB64 : t.pubKeyB64 = s.pubKeyB64

theorem Hushed.refl (s : Session) : Hushed s s := ⟨Silent.refl s, rfl, rfl, rfl⟩

theorem Hushed.trans {s t u : Session} (first : Hushed s t) (second : Hushed t u) : Hushed s u :=
  ⟨first.toSilent.trans second.toSilent, second.channelId.trans first.channelId, second.now.trans first.now,
    second.pubKeyB64.trans first.pubKeyB64⟩

theorem rejectAllPending_hushed (s : Session) (error : String) :
    Triple (Hushed s) (rejectAllPending error) (fun _ => Hushed s) (fun _ => False) := by
  have change {f : Session → Session} (same : ∀ u, Hushed u (f u)) :
      Triple (Hushed s) (modify f : M PUnit) (fun _ => Hushed s) (fun _ => False) :=
    .modify fun u hushed => hushed.trans (same u)
  refine .read fun u hushed => .start (.bind (.forM _ _ fun req _ => .bind (change fun u => ?_) fun _ => ?_) fun _ => ?_) hushed
  · exact ⟨silent_same rfl rfl, rfl, rfl, rfl⟩
  · refine change fun u => ?_
    split
    · exact Hushed.refl u
    · exact ⟨⟨Run.Adds.single rfl, fun _ _ found => found⟩, rfl, rfl, rfl⟩
  · exact change fun u => ⟨⟨Run.Adds.refl _, by simp⟩, rfl, rfl, rfl⟩

/-- What closing does once the pending requests are rejected. -/
def finishClose (reason : String) : M Unit := do
  let s ← get
  if s.channelId ≠ "" then sendRaw (.close reason) none
  clearPersistence
  setPhase .closed

theorem close_hushed (s : Session) (reason : String) :
    ∃ u, Hushed s u ∧ after (close reason) s = after (finishClose reason) u := by
  let v : Session := { s with
    intentionalClose := true, staleBelow := s.ticket, pendingAcceptTimer := none
    timers := (s.timers.clearSessionTtl).stopReconnect }
  have start : Hushed s v := ⟨silent_same rfl rfl, rfl, rfl, rfl⟩
  obtain ⟨_, u, run, hushed⟩ := (rejectAllPending_hushed s "Session closed").returns start
  refine ⟨u, hushed, ?_⟩
  have body : after (close reason) s = after (rejectAllPending "Session closed" >>= fun _ => finishClose reason) v := rfl
  rw [body, Program.after_bind, run]

/-- Closing is silent exactly when it has no channel to name or its frame is too large. -/
theorem close_cases (s : Session) (reason : String) :
    (s.closesAloud reason = true ∧ Loud s (after (close reason) s)) ∨
      (s.closesAloud reason = false ∧ Silent s (after (close reason) s)) := by
  obtain ⟨u, hushed, run⟩ := close_hushed s reason
  have rest : Keeps Silent (do clearPersistence; setPhase .closed : M Unit) :=
    .bind clearPersistence_silent fun _ => setPhase_silent _
  have aloud : s.closesAloud reason = u.closesAloud reason := by
    unfold Session.closesAloud
    rw [hushed.channelId, hushed.now, hushed.pubKeyB64]
  rw [run, aloud]
  unfold finishClose
  rw [after_get_bind]
  by_cases named : u.channelId ≠ ""
  · rw [if_pos named]
    by_cases fits : (ProtocolMessage.mk 1 u.channelId u.inputs.now u.pubKeyB64 (.close reason)).wireBytes ≤ maxMessageBytes
    · let v : Session := { u with trace := u.trace ++
        [.sent ⟨1, u.channelId, u.inputs.now, u.pubKeyB64, .close reason⟩ none u.journal.disk] }
      have sent : sendRaw (.close reason) none u = .ok () v := sendRaw_fits none fits
      left
      rw [Program.after_bind, sent]
      exact ⟨by simp [Session.closesAloud, named, fits], _, _, rfl, hushed.trace.grows, (rest v).trace.grows⟩
    · have reported : sendRaw (.close reason) none u = _ := sendRaw_large none fits
      have silent : Keeps Silent (do emit (.error "Message exceeds 64 KB limit"); clearPersistence; setPhase .closed) :=
        .bind (emit_silent _) fun _ => rest
      have ended := silent u
      right
      rw [Program.after_bind] at ended ⊢
      rw [reported]
      exact ⟨by simp [Session.closesAloud, fits], hushed.toSilent.trans ended⟩
  · right
    rw [if_neg named]
    exact ⟨by simp [Session.closesAloud, named], hushed.toSilent.trans (rest u)⟩

/-- A failed save reports the error and closes; a listener that throws prevents the closing. -/
theorem persistenceError_cases (s : Session) (error : String) :
    ((s.hears && s.closesAloud "protocol_error") = true ∧ Loud s (after (persistenceError error) s)) ∨
      ((s.hears && s.closesAloud "protocol_error") = false ∧ Silent s (after (persistenceError error) s)) := by
  let event : Event := .error ("Session persistence failed: " ++ error)
  have emitted : Silent s (s.emitting event) := after_emit event s ▸ emit_silent event s
  cases hears : s.hears with
  | false =>
    have run : after (persistenceError error) s = s.emitting event := by
      unfold persistenceError
      rw [Program.after_bind, emit_apply, hears]
      rfl
    right
    rw [run]
    exact ⟨rfl, emitted⟩
  | true =>
    have run : after (persistenceError error) s = after (close "protocol_error") (s.emitting event) := by
      unfold persistenceError
      rw [Program.after_bind, emit_apply, hears]
      exact after_bind_pure (close "protocol_error") _ _
    have aloud : (s.emitting event).closesAloud "protocol_error" = s.closesAloud "protocol_error" := by
      unfold Session.emitting
      split <;> rfl
    rw [run, Bool.true_and, ← aloud]
    rcases close_cases (s.emitting event) "protocol_error" with ⟨sent, loud⟩ | ⟨unsent, silent⟩
    · exact Or.inl ⟨sent, loud.before emitted.trace.grows⟩
    · exact Or.inr ⟨unsent, emitted.trans silent⟩

/-! ### Continuations of a reservation -/

section
variable (C : Crypto)

/-- Whether the continuation of a reservation finds a key and a payload it can seal. -/
def Session.seals (s : Session) (id method : String) (params : Option Json) (seq : Nat) : Bool :=
  match s.sendKey with
  | none => false
  | some sendKey =>
    (sealPayload C sendKey s.channelId seq (buildSealedParams method params) ⟨.req, s.pubKeyB64, id⟩).isOk

def Session.wouldSeal (s : Session) : Task → Bool
  | .request _ id method params seq => s.seals C id method params seq
  | .resend _ id method params seq => s.seals C id method params seq
  | _ => false

/-- Building the frame either seals it or throws and leaves everything as it was. -/
theorem buildRequestMessage_cases (s : Session) (call : Nat) (id method : String) (params : Option Json) (seq : Nat) :
    (s.seals C id method params seq = true ∧ ∃ made frame t, buildRequestMessage C call id method params seq s =
        .ok made t ∧ t.trace = s.trace ++ [.sealing frame]) ∨
    (s.seals C id method params seq = false ∧ ∃ e, buildRequestMessage C call id method params seq s = .error e s) := by
  unfold buildRequestMessage Session.seals
  rw [get_bind_apply]
  cases keyed : s.sendKey with
  | none => exact Or.inr ⟨rfl, _, rfl⟩
  | some sendKey =>
    dsimp only
    cases sealPayload C sendKey s.channelId seq (buildSealedParams method params) ⟨.req, s.pubKeyB64, id⟩ with
    | error e => exact Or.inr ⟨rfl, e, rfl⟩
    | ok pair =>
      obtain ⟨envelope, plaintext⟩ := pair
      exact Or.inl ⟨rfl, _, _, _, rfl, rfl⟩

/-- A frame that was built stays in the record of whatever follows. -/
theorem loud_of_built {s : Session} {call : Nat} {id method : String} {params : Option Json} {seq : Nat}
    {made : Body × Sealed} {frame : Sealed} {t : Session} {next : Body × Sealed → M Unit} {handler : String → M Unit}
    (run : buildRequestMessage C call id method params seq s = .ok made t) (recorded : t.trace = s.trace ++ [.sealing frame])
    (rest : ∀ a, Keeps Grows (next a)) (caught : ∀ e, Keeps Grows (handler e)) :
    Loud s (after (tryCatch (buildRequestMessage C call id method params seq >>= next) handler) s) := by
  have built : Loud s (after (buildRequestMessage C call id method params seq) s) := by
    rw [after_of_ok run]
    exact ⟨s.trace, .sealing frame, rfl, List.prefix_rfl, recorded ▸ List.prefix_rfl⟩
  exact (built.later (Keeps.after_bind rest s)).later (Keeps.after_tryCatch_of_handler caught s)

/-- Once its save is durable, the continuation of a reservation seals, or stays silent. -/
theorem resume_cases (s : Session) (task : Task) (reserved : task.reserves ≠ none) :
    (s.wouldSeal C task = true ∧ Loud s (after (resume C task) s)) ∨
      (s.wouldSeal C task = false ∧ Silent s (after (resume C task) s)) := by
  cases task with
  | request promise id method params seq =>
    rcases buildRequestMessage_cases C s promise id method params seq with ⟨seals, made, frame, t, run, recorded⟩ | ⟨stuck, e, run⟩
    · left
      refine ⟨seals, loud_of_built C run recorded (fun a => ?_) (fun e => ?_)⟩
      · exact grows_of_moves (registerRequest_moves trivial promise id method params a.1 a.2)
      · exact grows_of_moves (fail_moves promise e)
    · have thrown : sendRequest C promise id method params seq s = .error e s := bind_of_error run
      right
      refine ⟨stuck, ?_⟩
      change Silent s (after (tryCatch (sendRequest C promise id method params seq) _) s)
      rw [after_tryCatch, thrown]
      exact settle_silent promise (.failed e) s
  | resend promise id method params seq =>
    rcases buildRequestMessage_cases C s promise id method params seq with ⟨seals, made, frame, t, run, recorded⟩ | ⟨stuck, e, run⟩
    · left
      refine ⟨seals, loud_of_built C run recorded (fun a => ?_) (fun e => .pure _)⟩
      exact grows_of_moves (sendFrame_moves trivial a.1 a.2)
    · have thrown : sendResend C promise id method params seq s = .error e s := bind_of_error run
      right
      refine ⟨stuck, ?_⟩
      change Silent s (after (tryCatch (sendResend C promise id method params seq) _) s)
      rw [after_tryCatch, thrown]
      exact Silent.refl s
  | response promise frame data prevRecvSeq => exact absurd rfl reserved
  | event frame data prevRecvSeq => exact absurd rfl reserved
  | accept target => exact absurd rfl reserved
  | snapshot => exact absurd rfl reserved
  | cleared => exact absurd rfl reserved

/-- When its save is rejected, the continuation of a reservation closes the session. -/
theorem fail_cases (s : Session) (task : Task) (reserved : task.reserves ≠ none) :
    ((s.hears && s.closesAloud "protocol_error") = true ∧ Loud s (after (fail "save" task) s)) ∨
      ((s.hears && s.closesAloud "protocol_error") = false ∧ Silent s (after (fail "save" task) s)) := by
  cases task with
  | request promise id method params seq =>
    have silenced (e : String) : Keeps Silent (settle promise (.failed e)) := settle_silent _ _
    have grown (e : String) : Keeps Grows (settle promise (.failed e)) := fun s => (silenced e s).trace.grows
    rcases persistenceError_cases s "save" with ⟨aloud, loud⟩ | ⟨hushed, silent⟩
    · left
      exact ⟨aloud, (loud.later (Keeps.after_bind grown s)).later (Keeps.after_tryCatch_of_handler grown s)⟩
    · right
      refine ⟨hushed, (silent.trans (Keeps.after_bind silenced s)).trans (Keeps.after_tryCatch_of_handler silenced s)⟩
  | resend promise id method params seq =>
    have run : after (fail "save" (.resend promise id method params seq)) s = after (persistenceError "save") s :=
      after_bind_pure (persistenceError "save") _ s
    rw [run]
    exact persistenceError_cases s "save"
  | response promise frame data prevRecvSeq => exact absurd rfl reserved
  | event frame data prevRecvSeq => exact absurd rfl reserved
  | accept target => exact absurd rfl reserved
  | snapshot => exact absurd rfl reserved
  | cleared => exact absurd rfl reserved

/-! ### Runs -/

/-- The step settles the save of a number reserved before the session was last closed or
paired anew, by the application or by the session itself. -/
def Session.settlesStale (s : Session) (ticket : Nat) : Prop :=
  ticket < s.staleBelow ∧ ∃ call, s.journal.find ticket = some call ∧ call.task.reserves ≠ none

/-- A stale reservation is not used in this step. -/
def StaleUnused (s : Session) (l : Inputs × Label) : Prop :=
  ∀ ticket ok, l.2 = .settle ticket ok → s.settlesStale ticket → Silent s (step C s l)

/-- When a stale save resolves, there is nothing to seal with; when it is rejected, no
close frame can go out. -/
def StaleUnusable (s : Session) (l : Inputs × Label) : Prop :=
  ∀ ticket ok, l.2 = .settle ticket ok → s.settlesStale ticket → ∀ call, s.journal.find ticket = some call →
    if ok then call.durable = true → s.wouldSeal C call.task = false
    else (Session.hears { s with inputs := l.1 } &&
      Session.closesAloud { s with inputs := l.1 } "protocol_error") = false

theorem settle_silent_iff (s : Session) (inputs : Inputs) (ticket : Nat) (ok : Bool) (call : Call Snapshot Task)
    (found : s.journal.find ticket = some call) (reserved : call.task.reserves ≠ none) :
    Silent s (step C s (inputs, .settle ticket ok)) ↔
      if ok then call.durable = true → s.wouldSeal C call.task = false
      else (Session.hears { s with inputs := inputs } &&
        Session.closesAloud { s with inputs := inputs } "protocol_error") = false := by
  let u : Session := { s with inputs := inputs, journal := s.journal.remove ticket }
  have same {t : Session} : Silent s t ↔ Silent u t :=
    ⟨fun h => ⟨h.trace, h.entries⟩, fun h => ⟨h.trace, h.entries⟩⟩
  have waiting : Session.journal { s with inputs := inputs } = s.journal := rfl
  cases ok with
  | true =>
    by_cases durable : call.durable = true
    · have run : step C s (inputs, .settle ticket true) = after (resume C call.task) u := by
        change after (settleCall C ticket true) { s with inputs := inputs } = _
        unfold settleCall
        rw [after_get_bind, waiting, found]
        simp only [if_true, durable, after_modify_bind]
        rfl
      rw [run, same]
      rcases resume_cases C u call.task reserved with ⟨seals, loud⟩ | ⟨stuck, silent⟩
      · have seals : s.wouldSeal C call.task = true := seals
        exact iff_of_false loud.not_silent (by simp [durable, seals])
      · have stuck : s.wouldSeal C call.task = false := stuck
        exact iff_of_true silent (by simp [stuck])
    · have run : step C s (inputs, .settle ticket true) = { s with inputs := inputs } := by
        change after (settleCall C ticket true) { s with inputs := inputs } = _
        unfold settleCall
        rw [after_get_bind, waiting, found]
        simp only [if_true, durable]
        rfl
      rw [run]
      exact iff_of_true (silent_same rfl rfl) (by simp [durable])
  | false =>
    have run : step C s (inputs, .settle ticket false) = after (fail "save" call.task) u := by
      change after (settleCall C ticket false) { s with inputs := inputs } = _
      unfold settleCall
      rw [after_get_bind, waiting, found]
      rfl
    rw [run, same]
    rcases fail_cases u call.task reserved with ⟨aloud, loud⟩ | ⟨hushed, silent⟩
    · have aloud : (Session.hears { s with inputs := inputs } &&
        Session.closesAloud { s with inputs := inputs } "protocol_error") = true := aloud
      exact iff_of_false loud.not_silent (by simp [aloud])
    · exact iff_of_true silent hushed

theorem not_unused_of_sends {s : Session} {inputs : Inputs} {ticket : Nat} (older : ticket < s.staleBelow) {seq : Nat}
    (task : (s.journal.find ticket).map (fun call => call.task.reserves) = some (some seq))
    (sends : ((step C s (inputs, .settle ticket true)).trace.drop s.trace.length).any Obs.sends = true) :
    ¬ StaleUnused C s (inputs, .settle ticket true) := by
  intro unused
  obtain ⟨call, found, reserved⟩ := Option.map_eq_some_iff.mp task
  have silent := unused ticket true rfl ⟨older, call, found, by rw [reserved]; nofun⟩
  obtain ⟨o, mem, sent⟩ := List.any_eq_true.mp sends
  rw [silent.of_mem_drop mem] at sent
  cases sent

/-- In every run, no stale reservation is used exactly when none is usable as it settles. -/
theorem stale_unused_iff (s : Session) (labels : List (Inputs × Label)) :
    Run.Along (step C) (StaleUnused C) s labels ↔
      Run.Along (step C) (StaleUnusable C) s labels := by
  refine Run.along_congr fun s l => ⟨fun unused ticket ok shape stale call found => ?_, fun unusable ticket ok shape stale => ?_⟩
  · obtain ⟨older, call', found', reserved⟩ := stale
    have same : call' = call := Option.some.inj (found'.symm.trans found)
    subst same
    have silent := unused ticket ok shape ⟨older, call', found', reserved⟩
    obtain ⟨inputs, label⟩ := l
    obtain rfl : label = _ := shape
    exact (settle_silent_iff C s inputs ticket ok call' found reserved).mp silent
  · obtain ⟨older, call, found, reserved⟩ := stale
    have usable := unusable ticket ok shape ⟨older, call, found, reserved⟩ call found
    obtain ⟨inputs, label⟩ := l
    obtain rfl : label = _ := shape
    exact (settle_silent_iff C s inputs ticket ok call found reserved).mpr usable

end

end WalletPair.Sdk.DApp
