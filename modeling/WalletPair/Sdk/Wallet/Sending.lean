import WalletPair.Sdk.Wallet.Stale

/-! What an invariant of the sealed frames has to say on the wallet side: answers, cached
answers and events all reserve a number, seal under it and hand the frame over, so an
invariant that each of these steps keeps is kept by all methods. The numbering of the frames
is one, and so is what storage holds when a frame is handed over, which closing clears while
numbers wait. -/

namespace WalletPair.Sdk.Wallet
open WalletPair.Lib WalletPair.Lib.Program

/-- An invariant with the permissions to seal under a number and to hand the sealed frame
over. `turn` is what a call must meet for its continuation to run. -/
structure SendRules (I : Session → Prop) (mayUse mayHand turn : Session → Nat → Prop) : Prop where
  other : ∀ {s t : Session} {k : Kind}, k ≠ .sending → Move s k t → I s → I t
  counts : ∀ {s : Session}, I s → I { s with evtCounter := s.evtCounter + 1 }
  countsUse : ∀ {s : Session} {n : Nat}, mayUse s n → mayUse { s with evtCounter := s.evtCounter + 1 } n
  reserves : ∀ {s : Session} {task : Task}, I s → s.sendKey.isSome = true → s.sendSeq < maxSendSeq →
    task.reserves = some s.sendSeq → Triple (fun t => t = { s with sendSeq := s.sendSeq + 1 }) (persistSnapshot task)
      (fun waits t => I t ∧ (waits = false → mayUse t s.sendSeq)) I
  seals : ∀ {s : Session} {frame : Sealed}, I s → mayUse s frame.seq → frame.header.type ≠ .req →
    I { s with trace := s.trace ++ [.sealing frame] } ∧
      mayHand { s with trace := s.trace ++ [.sealing frame] } frame.seq
  hands : ∀ {s : Session} {message : ProtocolMessage} {frame : Sealed}, I s → mayHand s frame.seq →
    I { s with trace := s.trace ++ [.sent message (some frame) s.journal.disk] }
  removes : ∀ {s : Session} (ticket : Nat), I s → I { s with journal := s.journal.remove ticket }
  resumes : ∀ {s : Session} {ticket n : Nat} {call : Call Snapshot Task}, I s → turn s ticket →
    s.journal.find ticket = some call → call.durable = true → call.task.reserves = some n →
    mayUse { s with journal := s.journal.remove ticket } n

/-- The numbers a reservation makes usable. -/
def Reservation.seq : Reservation → Option Nat
  | .reserved seq => some seq
  | _ => none

namespace SendRules
variable {I : Session → Prop} {mayUse mayHand turn : Session → Nat → Prop}

theorem kept (rules : SendRules I mayUse mayHand turn) {α : Type} {m : M α} {ok : Kind → Prop} (sends : ¬ ok .sending)
    (made : Keeps (Moves ok) m) : Keeps (Preserve I) m := by
  refine preserve_of_moves made fun s t k allowed move h => rules.other ?_ move h
  rintro rfl
  rcases allowed with quiet | counts
  · cases quiet
  · exact sends counts

theorem kept_plain (rules : SendRules I mayUse mayHand turn) {α : Type} {m : M α}
    (made : Keeps (Moves (· ≠ .sending)) m) : Keeps (Preserve I) m := rules.kept (by simp) made

theorem plain (rules : SendRules I mayUse mayHand turn) {α : Type} {m : M α} (made : Keeps (Moves (· ≠ .sending)) m) :
    Triple I m (fun _ => I) I :=
  .preserve (rules.kept_plain made)

/-! ### Answers and events -/

/-- A number is reserved, and may be used at once or when its save is durable. -/
theorem nextSendSeq (rules : SendRules I mayUse mayHand turn)
    (task : Nat → Task) (holds : ∀ n, (task n).reserves = some n) :
    Triple (fun s => I s ∧ s.sendKey.isSome = true) (nextSendSeq task)
      (fun r s => I s ∧ ∀ n, r.seq = some n → mayUse s n) I := by
  refine .read fun s ⟨h, keyed⟩ => .ite (fun _ => ?_) (fun under => ?_)
  · exact .start (.bind (rules.plain (report_moves _)) fun _ => .bind (rules.plain (close_moves _)) fun _ =>
      .pure fun _ held => ⟨held, fun n none => nomatch none⟩) h
  · have room : s.sendSeq < maxSendSeq := Nat.lt_of_not_le under
    refine .bind (Q := fun _ t => t = { s with sendSeq := s.sendSeq + 1 }) (.modify fun _ same => by rw [same])
      fun _ => .bind (rules.reserves h keyed room (holds _)) fun waits => .ite
        (fun _ => .pure fun _ held => ⟨held.1, nofun⟩) fun now => .pure fun _ held => ⟨held.1, ?_⟩
    rintro n ⟨⟩
    exact held.2 (by simpa using now)

variable (C : Crypto)

theorem sendRaw (rules : SendRules I mayUse mayHand turn) (body : Body) (frame : Sealed) :
    Triple (fun s => I s ∧ mayHand s frame.seq) (sendRaw body (some frame))
      (fun _ => I) I := by
  refine .read fun s ⟨h, may⟩ => .read fun t same => .ite (fun _ => ?_) (fun _ => ?_)
  · exact (rules.plain (report_moves _)).start (same ▸ h)
  · subst same
    exact .at_state (rules.hands h may)

theorem sendSealed (rules : SendRules I mayUse mayHand turn)
    {type : AadType} (answers : type ≠ .req) (id : String) (seq : Nat) (payload : Json)
    (body : Option String → Body) :
    Triple (fun s => I s ∧ mayUse s seq) (sendSealed C type id seq payload body)
      (fun _ => I) I := by
  refine .read fun s ⟨h, may⟩ => ?_
  cases s.sendKey with
  | none => exact .pure fun _ same => same ▸ h
  | some sendKey =>
    dsimp only
    cases sealPayload C sendKey s.channelId seq payload ⟨type, s.pubKeyB64, id⟩ with
    | error e => exact .throw fun _ same => same ▸ h
    | ok made =>
      let frame : Sealed := ⟨sendKey, seq, s.channelId, ⟨type, s.pubKeyB64, id⟩, made.2, none⟩
      refine .bind (Q := fun _ t => I t ∧ mayHand t frame.seq)
        (.at_state ?_) fun _ => .bind (rules.sendRaw _ frame) fun _ => .pure fun _ held => held
      have both : I { s with trace := s.trace ++ [.sealing frame] } ∧
          mayHand { s with trace := s.trace ++ [.sealing frame] } frame.seq := rules.seals h may answers
      exact both

theorem sendAnswer (rules : SendRules I mayUse mayHand turn)
    (id : String) (answer : Bool) (data : Option Json) (caches : Bool) (seq : Nat) :
    Triple (fun s => I s ∧ mayUse s seq) (sendAnswer C id answer data caches seq)
      (fun _ => I) I :=
  .bind (rules.sendSealed C (by decide) _ _ _ _) fun _ => .ite
    (fun _ => .bind (rules.plain (cacheProcessedResponse_moves nofun _ _ _))
      fun _ => .pure fun _ held => held)
    (fun _ => .pure fun _ held => held)

theorem sendEvent (rules : SendRules I mayUse mayHand turn)
    (name : String) (data : Option Json) (evtId : String) (seq : Nat) :
    Triple (fun s => I s ∧ mayUse s seq) (sendEvent C name data evtId seq)
      (fun _ => I) I :=
  .bind (rules.sendSealed C (by decide) _ _ _ _) fun _ => .pure fun _ held => held

theorem sendResponse (rules : SendRules I mayUse mayHand turn)
    (id : String) (answer : Bool) (data : Option Json) (caches observed : Bool) :
    Keeps (Preserve I) (sendResponse C id answer data caches observed) := by
  refine Triple.keeps (.read fun s h => .ite (fun _ => .pure fun _ same => same ▸ h) fun keyed =>
    .start (.bind (rules.nextSendSeq _ fun _ => rfl) fun reserved => ?_)
      (⟨h, Option.isSome_iff_ne_none.mpr keyed⟩ : _ ∧ _))
  cases reserved with
  | exhausted => exact .pure fun _ held => held.1
  | reserved seq =>
    exact .bind ((rules.sendAnswer C id answer data caches seq).mono
      (fun _ held => ⟨held.1, held.2 seq rfl⟩) (fun _ _ held => held) (fun _ held => held))
      fun _ => .pure fun _ held => held
  | waits => exact .pure fun _ held => held.1

theorem pushEvent (rules : SendRules I mayUse mayHand turn) (name : String) (data : Option Json) :
    Keeps (Preserve I) (pushEvent C name data) := by
  refine Triple.keeps (.read fun s h => .ite (fun _ => .pure fun _ same => same ▸ h) fun openSession => ?_)
  have keyed : s.sendKey.isSome = true := by
    simp only [not_or, not_not] at openSession
    exact Option.isSome_iff_ne_none.mpr openSession.2
  refine .start (.bind (rules.nextSendSeq _ fun _ => rfl) fun reserved =>
    .bind (Q := fun _ t => I t ∧ ∀ n, reserved.seq = some n → mayUse t n)
      (.modify fun _ held => ⟨rules.counts held.1, fun n same => rules.countsUse (held.2 n same)⟩) fun _ => ?_)
      (⟨h, keyed⟩ : _ ∧ _)
  cases reserved with
  | exhausted => exact .pure fun _ held => held.1
  | reserved seq =>
    exact (rules.sendEvent C name data _ seq).mono (fun _ held => ⟨held.1, held.2 seq rfl⟩)
      (fun _ _ held => held) (fun _ held => held)
  | waits => exact .pure fun _ held => held.1

theorem approve (rules : SendRules I mayUse mayHand turn) (id : String) (result : Option Json) :
    Keeps (Preserve I) (approve C id result) :=
  .bind (rules.kept_plain (record_moves (Or.inr nofun))) fun _ => rules.sendResponse C _ _ _ _ _

theorem reject (rules : SendRules I mayUse mayHand turn) (id code message : String) (observed : Bool) :
    Keeps (Preserve I) (reject C id code message observed) :=
  rules.sendResponse C _ _ _ _ _

/-! ### Requests -/

theorem replay (rules : SendRules I mayUse mayHand turn) (id : String) (entry : CachedRequestResponse) :
    Keeps (Preserve I) (replay C id entry) :=
  .bind (rules.kept_plain (record_moves (Or.inr nofun))) fun _ => rules.sendResponse C _ _ _ _ _

theorem promptRequest (rules : SendRules I mayUse mayHand turn)
    (id method : String) (params : Json) (paramsHash : String) (plaintext : Bytes) :
    Keeps (Preserve I) (promptRequest C id method params paramsHash plaintext) := by
  refine .bind .get fun s => ?_
  cases s.pendingRequestRecords.get id with
  | some pending => exact .ite (.pure _) (rules.reject C _ _ _ _)
  | none =>
    refine .ite (rules.reject C _ _ _ _) (rules.kept_plain (.bind ?_ fun _ =>
      .bind (record_moves (Or.inr nofun)) fun _ => emit_moves _ (Or.inr nofun)))
    exact moves_of (fun s => .cache _ s.idempotencyCache s.broadcastResponseCache) (Or.inr nofun)

theorem dispatchRequest (rules : SendRules I mayUse mayHand turn)
    (id method : String) (params : Json) (paramsHash : String)
    (plaintext : Bytes) :
    Keeps (Preserve I) (dispatchRequest C id method params paramsHash plaintext) := by
  refine .bind .get fun s => ?_
  cases s.broadcastResponseCache.get id with
  | some cachedBroadcast => exact .ite (rules.replay C _ _) (rules.reject C _ _ _ _)
  | none =>
    dsimp only
    cases s.idempotencyCache.get id with
    | none => exact rules.promptRequest C _ _ _ _ _
    | some cached =>
      refine .ite (.bind (rules.kept_plain (.bind ?_ fun _ => record_moves (Or.inr nofun))) fun _ =>
        .ite (rules.promptRequest C _ _ _ _ _) (rules.replay C _ _)) (rules.reject C _ _ _ _)
      exact moves_of (fun s => .cache s.pendingRequestRecords _ s.broadcastResponseCache) (Or.inr nofun)

theorem processRequest (rules : SendRules I mayUse mayHand turn) (id : String) (data : Json) (plaintext : Bytes) :
    Keeps (Preserve I) (processRequest C id data plaintext) := by
  refine .bind .get fun s => ?_
  cases methodOf data with
  | none => exact rules.reject C _ _ _ _
  | some method => exact .ite (rules.dispatchRequest C _ _ _ _ _) (rules.reject C _ _ _ _)

theorem deliverRequest (rules : SendRules I mayUse mayHand turn) (frame : Delivery) (data : Json) :
    Keeps (Preserve I) (deliverRequest C frame data) :=
  .bind (rules.kept_plain (record_moves (Or.inr nofun))) fun _ => rules.processRequest C _ _ _

theorem openRequest (rules : SendRules I mayUse mayHand turn) (recvKey : Bytes) (sender id envelope : String) :
    Keeps (Preserve I) (openRequest C recvKey sender id envelope) :=
  .bind .get fun _ => .bind (.runExcept _) fun _ => .ite (.pure _)
    (.bind (rules.kept_plain (moves_of (fun _ => .receive _) (Or.inr nofun))) fun _ =>
      .bind (rules.kept_plain (persistSnapshot_moves _ (Or.inr nofun))) fun _ =>
      .ite (.pure _) (rules.deliverRequest C _ _))

theorem handleRequest (rules : SendRules I mayUse mayHand turn) (sender : String) (id envelope : Option String) :
    Keeps (Preserve I) (handleRequest C sender id envelope) := by
  refine .bind .get fun s => .ite (.pure _) ?_
  cases nonEmpty id with
  | none => exact .pure _
  | some id =>
    dsimp only
    split
    · exact .tryCatch (rules.openRequest C _ _ _ _) fun _ => rules.reject C _ _ _ _
    · exact rules.reject C _ _ _ _

theorem handleMessage (rules : SendRules I mayUse mayHand turn) (msg : ProtocolMessage) :
    Keeps (Preserve I) (handleMessage C msg) := by
  by_cases serves : .sending ∈ messageKinds msg.body
  · obtain ⟨v, ch, ts, sender, body⟩ := msg
    cases body with
    | req id envelope =>
      exact .ite (rules.kept_plain (report_moves _)) (.ite (rules.kept_plain (close_moves _))
        (rules.handleRequest C _ _ _))
    | _ => simp [messageKinds] at serves
  · exact rules.kept serves (handleMessage_moves C msg)

/-! ### Continuations and labels -/

theorem resumed (rules : SendRules I mayUse mayHand turn) {s : Session} {ticket : Nat} {call : Call Snapshot Task} (h : I s)
    (inTurn : turn s ticket) (found : s.journal.find ticket = some call) (durable : call.durable = true) :
    Triple (fun t => t = { s with journal := s.journal.remove ticket }) (resume C call.task) (fun _ => I) I := by
  have removed := rules.removes ticket h
  have may (seq : Nat) (holds : call.task.reserves = some seq) := rules.resumes h inTurn found durable holds
  cases shape : call.task with
  | respond id answer data caches observed seq =>
    have ready := may seq (by rw [shape]; rfl)
    exact .tryCatch (.start (.bind (rules.sendAnswer C id answer data caches seq) fun _ =>
      .pure fun _ held => held) (⟨removed, ready⟩ : _ ∧ _)) fun _ => rules.plain (observeSend_moves _ _)
  | event name data evtId seq =>
    have ready := may seq (by rw [shape]; rfl)
    exact .tryCatch ((rules.sendEvent C name data evtId seq).start ⟨removed, ready⟩) fun _ =>
      .pure fun _ held => held
  | request frame data prevRecvSeq =>
    exact .tryCatch ((Triple.preserve (rules.deliverRequest C frame data)).start removed) fun e =>
      rules.plain (rollback_moves (by decide) prevRecvSeq e)
  | join channelId sender ts sealedJoin reconnecting =>
    exact (rules.plain (resume_moves C (.join channelId sender ts sealedJoin reconnecting) nofun nofun nofun)).start removed
  | snapshot => exact .pure fun _ same => same ▸ removed
  | cleared => exact .pure fun _ same => same ▸ removed

theorem settleCall (rules : SendRules I mayUse mayHand turn) (ticket : Nat) (resolves : Bool) :
    Triple (fun s => I s ∧ (resolves = true → turn s ticket)) (settleCall C ticket resolves) (fun _ => I) I := by
  refine settleCall_rule C (fun s held => held.1)
    (fun resolved s call held found durable => rules.resumed C held.1 (held.2 resolved) found durable)
    fun _ s call held found => ?_
  exact (rules.plain (fail_task_moves "save" call.task fun _ => nofun)).start (rules.removes ticket held.1)

/-- The labels that neither reset the session nor touch the queue. -/
theorem act (rules : SendRules I mayUse mayHand turn) (label : Label) (moving : label.moving = true) :
    Keeps (Preserve I) (act C label) := by
  by_cases sends : Kind.sending ∈ label.kinds
  · cases label with
    | approve id result => exact rules.approve C id result
    | reject id code message => exact rules.reject C _ _ _ _
    | pushEvent name data => exact rules.pushEvent C name data
    | message msg => exact rules.handleMessage C msg
    | _ => simp [Label.moving, Label.kinds] at moving sends
  · exact rules.kept sends (act_moves C label moving)

end SendRules

/-! ## Numbers -/

variable {o : Origin} {since : Nat}

theorem books_sealing {s : Session} (began : since ≤ s.trace.length) (frame : Sealed) :
    Session.books { s with trace := s.trace ++ [.sealing frame] } .outbound since =
      { s.books .outbound since with used := (s.books .outbound since).used ++ [frame.seq] } := by
  simp [Session.books, Session.key, Session.next, Session.used, Session.handed, Session.sealedFrames,
    Session.handedFrames, filterMap_since began, Obs.sealedFrame, Obs.handedFrame]

theorem handedFrames_handing {s : Session} (began : since ≤ s.trace.length) (message : ProtocolMessage) (frame : Sealed) :
    Session.handedFrames { s with trace := s.trace ++ [.sent message (some frame) s.journal.disk] } since =
      s.handedFrames since ++ [(frame, s.journal.disk)] := by
  simp [Session.handedFrames, filterMap_since began, Obs.handedFrame]

theorem books_handing {s : Session} (began : since ≤ s.trace.length) (message : ProtocolMessage) (frame : Sealed) :
    Session.books { s with trace := s.trace ++ [.sent message (some frame) s.journal.disk] } .outbound since =
      { s.books .outbound since with
        handed := (s.books .outbound since).handed ++ [(frame.seq, (s.books .outbound since).journal.disk)] } := by
  simp [Session.books, Session.key, Session.next, Session.used, Session.handed, Session.sealedFrames,
    handedFrames_handing began, filterMap_since began, Obs.sealedFrame]

/-! ### Methods that send -/

theorem numbered_rules (o : Origin) : SendRules (Session.Numbered o .outbound)
    (fun s n => MayUse (scheme o .outbound) (s.books .outbound o.record) n)
    (fun s n => MayHand (scheme o .outbound) (s.books .outbound o.record) n) (fun s ticket => s.journal.NextToSettle ticket) where
  other := fun other move h => by
    refine numbered_of_move ?_ move h
    exact other
  counts := fun h => ⟨h.toNumbered, h.began⟩
  countsUse := fun may => may
  reserves := fun h keyed room holds => persistSnapshot_numbered h rfl rfl keyed le_rfl room holds
  seals := fun h may _ => by
    have both := h.use may
    rw [← books_sealing h.began] at both
    exact ⟨⟨both.1, h.began.trans (by simp)⟩, both.2⟩
  hands := fun h may => by
    have handed := h.hand may
    rw [← books_handing h.began] at handed
    exact ⟨handed, h.began.trans (by simp)⟩
  removes := fun ticket h => ⟨h.remove ticket, h.began⟩
  resumes := fun h next found durable holds => h.mayUse_remove found next durable holds

/-! ### What storage holds -/

/-- Every frame handed over since then had a snapshot in storage behind it. -/
structure Session.Backed (since : Nat) (s : Session) : Prop where
  saved : s.options.persistence ≠ none
  began : since ≤ s.trace.length
  stored : ∀ h ∈ s.handedFrames since, h.2.contents ≠ none

theorem Session.Backed.of_handed {s t : Session} (h : s.Backed since) (options : t.options = s.options)
    (began : s.trace.length ≤ t.trace.length) (handed : t.handedFrames since = s.handedFrames since) : t.Backed since :=
  ⟨options ▸ h.saved, h.began.trans began, handed ▸ h.stored⟩

/-- The continuation that is taken out finds storage in place. -/
def Session.storageHolds (s : Session) (ticket : Nat) : Prop :=
  ∀ call, s.journal.find ticket = some call → call.durable = true → call.task.reserves ≠ none →
    s.journal.disk.contents ≠ none

theorem backed_rules (since : Nat) : SendRules (Session.Backed since) (fun s _ => s.journal.disk.contents ≠ none)
    (fun s _ => s.journal.disk.contents ≠ none) Session.storageHolds where
  other := fun {s t k} other move h => by
    refine h.of_handed ?_ move.length_le ?_
    · cases move <;> rfl
    · cases move with
      | note note => simp [Session.handedFrames, filterMap_since h.began, (Obs.frames_eq_none other).2]
      | _ => rfl
  counts := fun h => h.of_handed rfl le_rfl rfl
  countsUse := fun may => may
  reserves := fun {s task} h _ _ _ => by
    rintro t rfl
    rcases persistSnapshot_cases task { s with sendSeq := s.sendSeq + 1 } with
      ⟨none, run⟩ | ⟨adapter, -, -, run⟩ | ⟨adapter, snap, -, -, -, run⟩ | ⟨adapter, snap, -, -, -, run⟩
    · exact absurd none h.saved
    · rw [run]
      exact h.of_handed rfl le_rfl rfl
    · rw [run]
      exact ⟨h.of_handed rfl le_rfl rfl, fun now => absurd now (by simp)⟩
    · rw [run]
      exact ⟨h.of_handed rfl le_rfl rfl, fun _ => by simp [Journal.put, Disk.put, Disk.contents]⟩
  seals := fun {s frame} h may _ => by
    refine ⟨h.of_handed rfl (by simp) ?_, may⟩
    simp [Session.handedFrames, filterMap_since h.began, Obs.handedFrame]
  hands := fun {s message frame} h may => by
    refine ⟨h.saved, h.began.trans (by simp), fun pair mem => ?_⟩
    rw [handedFrames_handing h.began] at mem
    rcases List.mem_append.mp mem with old | new
    · exact h.stored pair old
    · rw [List.mem_singleton.mp new]
      exact may
  removes := fun _ h => h.of_handed rfl le_rfl rfl
  resumes := fun {s ticket n call} _ holds found durable reserves => by
    refine holds call found durable ?_
    rw [reserves]
    simp

/-- Nothing sent, nothing handed over. -/
theorem Silent.handedFrames {s t : Session} (silent : Silent s t) (began : since ≤ s.trace.length) :
    t.handedFrames since = s.handedFrames since := by
  obtain ⟨new, made, quiet⟩ := silent.trace
  have unsent : new.filterMap Obs.handedFrame = [] := by
    refine List.filterMap_eq_nil_iff.mpr fun note mem => ?_
    have still := quiet note mem
    cases note with
    | sent message frame disk => cases still
    | _ => rfl
  rw [Session.handedFrames, made, List.drop_append_of_le_length began, List.filterMap_append, unsent, List.append_nil]
  rfl

section
variable (C : Crypto)

theorem restart_backed : Keeps (Preserve (Session.Backed since)) (restart C) := by
  have field (f : Session → Session) (same : ∀ s, Abreast s (f s)) : Keeps (Preserve (Session.Backed since)) (modify f : M Unit) := by
    refine fun s h => h.of_handed (same s).options ?_ ?_
    · rw [after_modify, (same s).trace]
    · rw [after_modify, Session.handedFrames, (same s).trace]
      rfl
  have opens : Keeps (Preserve (Session.Backed since)) (setPhase .connected) :=
    (backed_rules since).kept_plain (setPhase_moves _ (Or.inr (by simp)))
  refine .bind (fun s h => h.of_handed rfl le_rfl rfl) fun _ => .bind .get fun s => ?_
  cases s.journal.disk.contents with
  | none => exact .pure _
  | some snapshot => exact .bind (restoreSafely_rule C field opens snapshot) fun _ => .pure _

/-! ### Crashes and whole runs -/

/-- A continuation that is about to seal finds a snapshot in storage: the session was not
closed since its number was saved, or saved again. -/
def Stored (s : Session) (l : Inputs × Label) : Prop :=
  match l.2 with
  | .settle ticket true => ∀ call ∈ s.journal.find ticket, call.durable = true → s.wouldSeal C call.task = true →
    s.journal.disk.contents ≠ none
  | _ => True

instance (s : Session) (l : Inputs × Label) : Decidable (Stored C s l) := by
  obtain ⟨inputs, label⟩ := l
  unfold Stored
  apply @Label.casesOn _ label <;> intros <;> first | infer_instance | (rename_i ok; cases ok <;> infer_instance)

theorem step_numbered {s : Session} {l : Inputs × Label} (inPairing : InPairing s l)
    (own : l.2 = .crash → ∀ snap, s.journal.disk.contents = some snap → o.owns snap.privKey)
    (saved : s.options.persistence ≠ none) (h : s.Numbered o .outbound) : (step C s l).Numbered o .outbound := by
  have start : Session.Numbered o .outbound { s with inputs := l.1 } := ⟨h.toNumbered, h.began⟩
  obtain ⟨inputs, label⟩ := l
  by_cases moving : label.moving = true
  · exact (numbered_rules o).act C label moving _ start
  · cases label with
    | prepareJoin parsed privateKey => exact inPairing.elim
    | restore snapshot => exact inPairing.elim
    | destroy => exact inPairing.elim
    | flush ticket => exact ⟨start.flush inPairing, start.began⟩
    | settle ticket ok => exact ((numbered_rules o).settleCall C ticket ok).final ⟨start, fun _ => inPairing.2⟩
    | crash => exact restart_numbered C start saved (own rfl)
    | _ => simp [Label.moving] at moving

theorem step_backed {s : Session} {l : Inputs × Label} (inPairing : InPairing s l) (stored : Stored C s l)
    (h : s.Backed since) : (step C s l).Backed since := by
  have start : Session.Backed since { s with inputs := l.1 } := h.of_handed rfl le_rfl rfl
  obtain ⟨inputs, label⟩ := l
  by_cases moving : label.moving = true
  · exact (backed_rules since).act C label moving _ start
  · cases label with
    | prepareJoin parsed privateKey => exact inPairing.elim
    | restore snapshot => exact inPairing.elim
    | destroy => exact inPairing.elim
    | flush ticket => exact start.of_handed rfl le_rfl rfl
    | settle ticket ok =>
      obtain rfl : ok = true := inPairing.1
      by_cases holds : Session.storageHolds s ticket
      · exact ((backed_rules since).settleCall C ticket true).final ⟨start, fun _ => holds⟩
      · -- storage is empty, so the continuation has nothing it could seal
        simp only [Session.storageHolds, not_forall] at holds
        obtain ⟨call, found, durable, reserved, empty⟩ := holds
        have stuck : call.durable = true → s.wouldSeal C call.task = false := fun _ =>
          Bool.eq_false_iff.mpr fun seals => empty (stored call found durable seals)
        have silent := (settle_silent_iff C s inputs ticket true call found reserved).mpr stuck
        exact h.of_handed (step_options C s _) silent.trace.grows.length_le (silent.handedFrames h.began)
    | crash => exact restart_backed C _ start
    | _ => simp [Label.moving] at moving

/-- A pairing with this private key can begin: no number of an earlier pairing waits for its
save, and the key pair is new to storage. -/
structure Session.Vacant (privateKey : Bytes) (s : Session) : Prop where
  waits : s.journal.held Task.reserves = []
  unused : s.journal.Every (·.privKey ≠ privateKey)

/-- A step inside the pairing with this private key, with storage behind every frame. -/
def Guarded (privateKey : Bytes) (s : Session) (l : Inputs × Label) : Prop :=
  InPairing s l ∧ RestoresOwn privateKey s l ∧ Stored C s l

instance (privateKey : Bytes) (s : Session) (l : Inputs × Label) : Decidable (Guarded C privateKey s l) :=
  inferInstanceAs (Decidable (_ ∧ _ ∧ _))

variable {C} {s : Session} {inputs : Inputs} {parsed : PairingParams} {privateKey : Bytes}
variable {labels : List (Inputs × Label)}

/-- A pairing of any object numbers its frames from zero, when no number of an earlier one
waits and the key pair is new. -/
theorem joinRun_numbered (saved : s.options.persistence ≠ none) (queued : s.Queued)
    (vacant : s.Vacant privateKey) (decodes : b64urlDecode parsed.pubkey ≠ none)
    (guarded : Run.Along (step C) (Guarded C privateKey) (step C s (inputs, .prepareJoin parsed privateKey)) labels) :
    (joinRun C s inputs parsed privateKey labels).Numbered (s.origin privateKey) .outbound ∧
      (joinRun C s inputs parsed privateKey labels).Backed s.trace.length := by
  have numbered : (step C s (inputs, .prepareJoin parsed privateKey)).Numbered (s.origin privateKey) .outbound :=
    prepareJoin_numbered C rfl rfl queued (by exact vacant.waits)
      (vacant.unused.imp fun _ other own => absurd (own privateKey rfl) other) inputs decodes privateKey
  have prepared : Keeps (Preserve (Session.Backed s.trace.length)) (prepareJoin C parsed privateKey) :=
    .bind (fun t h => h.of_handed rfl le_rfl rfl) fun _ => .bind (.runExcept _) fun _ =>
      .bind (fun t h => h.of_handed rfl le_rfl rfl) fun _ =>
      (backed_rules _).kept_plain (establishKeys_moves C (by simp) (by simp) _ _)
  have backed : (step C s (inputs, .prepareJoin parsed privateKey)).Backed s.trace.length :=
    prepared _ ⟨saved, le_rfl, by simp [Session.handedFrames]⟩
  refine Run.invariant (I := fun t => t.Numbered (s.origin privateKey) .outbound ∧ t.Backed s.trace.length)
    (fun t l ok held => ?_) guarded ⟨numbered, backed⟩
  obtain ⟨inPairing, own, stored⟩ := ok
  refine ⟨step_numbered C inPairing (fun crash snap loaded key same => ?_) held.2.saved held.1, step_backed C inPairing stored held.2⟩
  cases same
  rw [RestoresOwn, crash] at own
  exact own snap loaded

end

end WalletPair.Sdk.Wallet
