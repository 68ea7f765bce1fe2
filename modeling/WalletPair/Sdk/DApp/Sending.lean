import WalletPair.Sdk.Sealing
import WalletPair.Sdk.DApp.Stale

/-! What an invariant of the sealed frames has to say on the dApp side. A method that sends
reserves its number, waits for the save or goes on at once, seals, and hands the frame
over; an invariant that each of these steps keeps is kept by all methods. The numbering of
the frames is one, and so is what storage holds when a frame is handed over: closing clears
it, and a number that waited meanwhile is used with nothing behind it. -/

namespace WalletPair.Sdk.DApp
open WalletPair.Lib WalletPair.Lib.Program

/-- A request of the application: the call it belongs to, its id, method and parameters. -/
structure Ask where
  call : Nat
  id : String
  method : String
  params : Option Json

/-- What a sealed request shows: the call and the id it belongs to, and its text. -/
structure Claim where
  call : Option Nat
  id : String
  text : Except String Bytes

/-- The request as every frame that carries it shows it. -/
def Ask.claim (C : Crypto) (a : Ask) : Claim :=
  ⟨some a.call, a.id, (canonicalJson C (some (buildSealedParams a.method a.params))).map utf8ToBytes⟩

def claimOf (frame : Sealed) : Claim := ⟨frame.call, frame.header.id, .ok frame.plaintext⟩

def PendingRequest.ask (p : PendingRequest) : Ask := ⟨p.promise, p.id, p.method, p.params⟩

/-- The request a continuation will seal, and the number it holds. -/
def Task.asking : Task → Option (Ask × Nat)
  | .request promise id method params seq => some (⟨promise, id, method, params⟩, seq)
  | .resend promise id method params seq => some (⟨promise, id, method, params⟩, seq)
  | _ => none

theorem Task.reserves_of_asking {task : Task} {a : Ask} {n : Nat} (asks : task.asking = some (a, n)) :
    task.reserves = some n := by
  cases task with
  | request promise id method params seq =>
    cases asks
    rfl
  | resend promise id method params seq =>
    cases asks
    rfl
  | _ => cases asks

/-- An invariant with the permissions to seal a request under a number and to hand the sealed
frame over. `fresh` is what holds of the id of a new call, `source` of a request that was
sealed before, and `turn` is what a call must meet for its continuation to run. -/
structure SendRules (C : Crypto) (I : Session → Prop) (fresh : Session → String → Prop) (source : Session → Ask → Prop)
    (mayUse : Session → Ask → Nat → Prop) (mayHand : Session → Sealed → Prop) (turn : Session → Nat → Prop) : Prop where
  other : ∀ {s t : Session} {k : Kind}, k ≠ .sending → Move s k t → I s → I t
  counts : ∀ {s : Session}, I s → I { s with reqCounter := s.reqCounter + 1 } ∧
    fresh { s with reqCounter := s.reqCounter + 1 } ("req-" ++ toString (s.reqCounter + 1))
  later : ∀ {s t : Session} {a : Ask}, s.trace <+: t.trace → source s a → source t a
  pends : ∀ {s : Session}, I s → ∀ p ∈ s.pendingRequests.values, source s p.ask
  reserves : ∀ {s : Session} {task : Task} {a : Ask}, I s → s.sendKey.isSome = true → s.sendSeq < maxSendSeq →
    task.asking = some (a, s.sendSeq) → fresh s a.id ∨ source s a →
    Triple (fun t => t = { s with sendSeq := s.sendSeq + 1 }) (persistSnapshot task)
      (fun waits t => I t ∧ (waits = false → mayUse t a s.sendSeq)) I
  seals : ∀ {s : Session} {a : Ask} {frame : Sealed}, I s → mayUse s a frame.seq → frame.header.type = .req →
    claimOf frame = a.claim C → I { s with trace := s.trace ++ [.sealing frame] } ∧
      mayHand { s with trace := s.trace ++ [.sealing frame] } frame ∧
      source { s with trace := s.trace ++ [.sealing frame] } a
  registers : ∀ {s : Session} {p : PendingRequest} {frame : Sealed} (timers : List RequestTimer), I s →
    mayHand s frame → source s p.ask →
    I { s with requestTimers := timers, pendingRequests := s.pendingRequests.set p.id p } ∧
      mayHand { s with requestTimers := timers, pendingRequests := s.pendingRequests.set p.id p } frame
  hands : ∀ {s : Session} {message : ProtocolMessage} {frame : Sealed}, I s → mayHand s frame →
    I { s with trace := s.trace ++ [.sent message (some frame) s.journal.disk] }
  removes : ∀ {s : Session} (ticket : Nat), I s → I { s with journal := s.journal.remove ticket }
  resumes : ∀ {s : Session} {ticket n : Nat} {a : Ask} {call : Call Snapshot Task}, I s → turn s ticket →
    s.journal.find ticket = some call → call.durable = true → call.task.asking = some (a, n) →
    mayUse { s with journal := s.journal.remove ticket } a n

namespace SendRules
variable {C : Crypto} {I : Session → Prop} {fresh : Session → String → Prop} {source : Session → Ask → Prop}
variable {mayUse : Session → Ask → Nat → Prop} {mayHand : Session → Sealed → Prop} {turn : Session → Nat → Prop}

theorem kept (rules : SendRules C I fresh source mayUse mayHand turn) {α : Type} {m : M α} {ok : Kind → Prop}
    (sends : ¬ ok .sending) (made : Keeps (Moves ok) m) : Keeps (Preserve I) m := by
  refine preserve_of_moves made fun s t k allowed move h => rules.other ?_ move h
  rintro rfl
  rcases allowed with quiet | counts
  · cases quiet
  · exact sends counts

theorem plain (rules : SendRules C I fresh source mayUse mayHand turn) {α : Type} {m : M α}
    (made : Keeps (Moves (· ≠ .sending)) m) : Triple I m (fun _ => I) I :=
  .preserve (rules.kept (by simp) made)

/-! ### Methods that send -/

/-- A number is reserved, and may be used at once or when its save is durable. -/
theorem nextSendSeq (rules : SendRules C I fresh source mayUse mayHand turn) (a : Ask) (task : Nat → Task)
    (holds : ∀ n, (task n).asking = some (a, n)) :
    Triple (fun s => I s ∧ s.sendKey.isSome = true ∧ (fresh s a.id ∨ source s a)) (nextSendSeq task)
      (fun r s => I s ∧ ∀ n, r = some n → mayUse s a n) I := by
  refine .read fun s ⟨h, keyed, known⟩ => .ite (fun _ => ?_) (fun under => ?_)
  · exact .start (.bind (rules.plain (report_moves _)) fun _ => .bind (rules.plain (close_moves _)) fun _ =>
      .throw fun _ held => held) h
  · have room : s.sendSeq < maxSendSeq := Nat.lt_of_not_le under
    refine .bind (Q := fun _ t => t = { s with sendSeq := s.sendSeq + 1 }) (.modify fun _ same => by rw [same])
      fun _ => .bind (rules.reserves h keyed room (holds _) known) fun waits => .ite
        (fun _ => .pure fun _ held => ⟨held.1, nofun⟩) fun now => .pure fun _ held => ⟨held.1, ?_⟩
    rintro n ⟨⟩
    exact held.2 (by simpa using now)

theorem buildRequestMessage (rules : SendRules C I fresh source mayUse mayHand turn) (a : Ask) (seq : Nat) :
    Triple (fun s => I s ∧ mayUse s a seq) (buildRequestMessage C a.call a.id a.method a.params seq)
      (fun made s => I s ∧ mayHand s made.2 ∧ source s a) I := by
  refine .read fun s ⟨h, may⟩ => ?_
  cases s.sendKey with
  | none => exact .throw fun _ same => same ▸ h
  | some sendKey =>
    dsimp only
    cases sealing : sealPayload C sendKey s.channelId seq (buildSealedParams a.method a.params) ⟨.req, s.pubKeyB64, a.id⟩ with
    | error e => exact .throw fun _ same => same ▸ h
    | ok made =>
      let frame : Sealed := ⟨sendKey, seq, s.channelId, ⟨.req, s.pubKeyB64, a.id⟩, made.2, some a.call⟩
      have shown : claimOf frame = a.claim C := by
        obtain ⟨-, text, printed, plain⟩ := sealPayload_text sealing
        simp only [claimOf, Ask.claim, frame, printed, plain, Except.map]
      refine .bind (Q := fun _ t => I t ∧ mayHand t frame ∧ source t a) (.at_state ?_) fun _ => .pure fun _ held => held
      exact rules.seals h may rfl shown

theorem sendRaw (rules : SendRules C I fresh source mayUse mayHand turn) (body : Body) (frame : Sealed) :
    Triple (fun s => I s ∧ mayHand s frame) (sendRaw body (some frame)) (fun _ => I) I := by
  refine .read fun s ⟨h, may⟩ => .ite (fun _ => ?_) fun _ => ?_
  · exact (rules.plain (report_moves _)).start h
  · exact .at_state (rules.hands h may)

theorem sendRequest (rules : SendRules C I fresh source mayUse mayHand turn) (a : Ask) (seq : Nat) :
    Triple (fun s => I s ∧ mayUse s a seq) (sendRequest C a.call a.id a.method a.params seq) (fun _ => I) I :=
  .bind (rules.buildRequestMessage a seq) fun made =>
    .bind (Q := fun _ s => I s ∧ mayHand s made.2) (.modify fun _ held =>
      rules.registers (p := ⟨a.id, a.method, a.params, a.call⟩) _ held.1 held.2.1 held.2.2)
      fun _ => .tryCatch (rules.sendRaw _ _) fun _ => rules.plain (fail_moves _ _)

theorem sendResend (rules : SendRules C I fresh source mayUse mayHand turn) (a : Ask) (seq : Nat) :
    Triple (fun s => I s ∧ mayUse s a seq) (sendResend C a.call a.id a.method a.params seq) (fun _ => I) I :=
  .bind (rules.buildRequestMessage a seq) fun _ =>
    (rules.sendRaw _ _).mono (fun _ held => ⟨held.1, held.2.1⟩) (fun _ _ held => held) (fun _ held => held)

theorem request (rules : SendRules C I fresh source mayUse mayHand turn) (method : String) (params : Option Json) :
    Keeps (Preserve I) (request C method params) := by
  refine Triple.keeps (.bind (rules.plain freshTicket_moves) fun promise => .read fun s h =>
    .ite (fun _ => (rules.plain (fail_moves _ _)).start h) fun openSession =>
    .ite (fun _ => (rules.plain (fail_moves _ _)).start h) fun _ => ?_)
  have keyed : s.sendKey.isSome = true := by
    simp only [not_or, not_not] at openSession
    exact Option.isSome_iff_ne_none.mpr openSession.2
  let a : Ask := ⟨promise, "req-" ++ toString (s.reqCounter + 1), method, params⟩
  refine .bind (Q := fun _ t => I t ∧ t.sendKey.isSome = true ∧ (fresh t a.id ∨ source t a)) (.modify fun t same => ?_)
    fun _ => .tryCatch (.bind (rules.nextSendSeq a _ fun _ => rfl) fun reserved => ?_) fun _ => rules.plain (fail_moves _ _)
  · rw [same]
    obtain ⟨counted, new⟩ := rules.counts h
    exact ⟨counted, keyed, Or.inl new⟩
  · cases reserved with
    | none => exact .pure fun _ held => held.1
    | some seq =>
      exact (rules.sendRequest a seq).mono (fun _ held => ⟨held.1, held.2 seq rfl⟩) (fun _ _ held => held)
        (fun _ held => held)

end SendRules

/-- No move takes the send key away, and none takes back what was recorded. -/
theorem keyed_of_moves {α : Type} {m : M α} {kept : Session → Prop}
    (later : ∀ {s t : Session}, s.trace <+: t.trace → kept s → kept t) (made : Keeps (Moves fun _ => True) m) :
    Keeps (Preserve fun s => s.sendKey.isSome = true ∧ kept s) m := by
  have keyed : Keeps (Preserve fun s => s.sendKey.isSome = true) m := by
    refine preserve_of_moves made fun s t k _ move keyed => ?_
    cases move with
    | rekey sendKey recvKey => rfl
    | _ => exact keyed
  exact fun s held => ⟨keyed s held.1, later (grows_of_moves made s) held.2⟩

namespace SendRules
variable {C : Crypto} {I : Session → Prop} {fresh : Session → String → Prop} {source : Session → Ask → Prop}
variable {mayUse : Session → Ask → Nat → Prop} {mayHand : Session → Sealed → Prop} {turn : Session → Nat → Prop}

theorem resendPending (rules : SendRules C I fresh source mayUse mayHand turn) : Keeps (Preserve I) (resendPending C) := by
  refine Triple.keeps (.read fun s h => .ite (fun _ => .pure fun _ same => same ▸ h) fun openSession => ?_)
  have keyed : s.sendKey.isSome = true := by
    simp only [not_or, not_not] at openSession
    exact Option.isSome_iff_ne_none.mpr openSession.2
  -- each round may reserve again, so the key and the sealed requests are part of the loop's invariant
  let known (t : Session) : Prop := ∀ p ∈ s.pendingRequests.values, source t p.ask
  have later {t u : Session} (grown : t.trace <+: u.trace) (held : known t) : known u :=
    fun p mem => rules.later grown (held p mem)
  refine (Triple.mono (Triple.preserve (I := fun t => I t ∧ t.sendKey.isSome = true ∧ known t)
    (.forM _ _ fun req mem => Triple.keeps ?_)) (fun _ held => held) (fun _ _ held => held.1) (fun _ held => held.1)).start
    ⟨h, keyed, rules.pends h⟩
  refine .bind ((rules.nextSendSeq req.ask (fun n => .resend req.promise req.id req.method req.params n) fun _ => rfl).and_keeps
    (keyed_of_moves later (nextSendSeq_moves trivial (fun n => .resend req.promise req.id req.method req.params n) fun _ => rfl))
    |>.mono (fun t held => ⟨⟨held.1, held.2.1, Or.inr (held.2.2 req mem)⟩, held.2⟩) (fun _ _ held => held) (fun _ held => held))
    fun reserved => ?_
  cases reserved with
  | none => exact .pure fun _ held => ⟨held.1.1, held.2⟩
  | some seq =>
    exact ((rules.sendResend req.ask seq).and_keeps (keyed_of_moves later (sendResend_moves trivial C _ _ _ _ _))).mono
      (fun t held => ⟨⟨held.1.1, held.1.2 seq rfl⟩, held.2⟩) (fun _ _ held => held) (fun _ held => held)

theorem handleReady (rules : SendRules C I fresh source mayUse mayHand turn) (state remote : Option String) :
    Keeps (Preserve I) (handleReady C state remote) := by
  have plain {α : Type} {m : M α} (made : Keeps (Moves (· ≠ .sending)) m) : Keeps (Preserve I) m :=
    rules.kept (by simp) made
  exact .bind (plain stopReconnect_moves) fun _ => .bind .get fun _ => .ite
    (.ite (plain (.bind (report_moves _) fun _ => close_moves _))
      (.bind (plain (moves_adjusting fun _ => rfl)) fun _ => .bind (plain (setPhase_moves _ (Or.inr nofun))) fun _ =>
        .bind (plain (startSessionTtl_moves nofun)) fun _ => .bind (plain startHeartbeat_moves) fun _ =>
        .bind (plain (persistSnapshotAsync_moves nofun)) fun _ => .ite (rules.resendPending) (.pure _)))
    (.ite (plain (setPhase_moves _ (Or.inr nofun))) (.pure _))

theorem handleMessage (rules : SendRules C I fresh source mayUse mayHand turn) (msg : ProtocolMessage) :
    Keeps (Preserve I) (handleMessage C msg) := by
  by_cases ready : .sending ∈ messageKinds msg.body
  · obtain ⟨v, ch, ts, sender, body⟩ := msg
    cases body with
    | ready state remote =>
      have plain {m : M Unit} (made : Keeps (Moves (· ≠ .sending)) m) : Keeps (Preserve I) m :=
        rules.kept (by simp) made
      exact .ite (plain (report_moves _)) (.ite (plain (close_moves _)) (rules.handleReady state remote))
    | _ => simp [messageKinds] at ready
  · exact rules.kept ready (handleMessage_moves C msg)

/-! ### Continuations and labels -/

theorem resumed (rules : SendRules C I fresh source mayUse mayHand turn) {s : Session} {ticket : Nat} {call : Call Snapshot Task} (h : I s)
    (inTurn : turn s ticket) (found : s.journal.find ticket = some call) (durable : call.durable = true) :
    Triple (fun t => t = { s with journal := s.journal.remove ticket }) (resume C call.task) (fun _ => I) I := by
  have removed := rules.removes ticket h
  have may (a : Ask) (seq : Nat) (holds : call.task.asking = some (a, seq)) := rules.resumes h inTurn found durable holds
  by_cases sends : call.task.kind = .sending
  · cases shape : call.task with
    | request promise id method params seq =>
      have ready := may ⟨promise, id, method, params⟩ seq (by rw [shape]; rfl)
      exact .tryCatch ((rules.sendRequest ⟨promise, id, method, params⟩ seq).start ⟨removed, ready⟩) fun _ =>
        rules.plain (fail_moves _ _)
    | resend promise id method params seq =>
      have ready := may ⟨promise, id, method, params⟩ seq (by rw [shape]; rfl)
      exact .tryCatch ((rules.sendResend ⟨promise, id, method, params⟩ seq).start ⟨removed, ready⟩) fun _ =>
        .pure fun _ held => held
    | _ =>
      rw [shape] at sends
      cases sends
  · exact (rules.plain (resume_moves C call.task sends (fun _ => ⟨nofun, nofun⟩) fun _ _ => nofun)).start removed

theorem settleCall (rules : SendRules C I fresh source mayUse mayHand turn) (ticket : Nat) (resolves : Bool) :
    Triple (fun s => I s ∧ (resolves = true → turn s ticket)) (settleCall C ticket resolves) (fun _ => I) I := by
  refine settleCall_rule C (fun s held => held.1)
    (fun resolved s call held found durable => rules.resumed held.1 (held.2 resolved) found durable)
    fun _ s call held found => ?_
  exact (rules.plain (fail_task_moves "save" call.task fun _ => nofun)).start (rules.removes ticket held.1)

/-- The labels that neither reset the session nor touch the queue. -/
theorem act (rules : SendRules C I fresh source mayUse mayHand turn) (label : Label) (moving : label.moving = true) :
    Keeps (Preserve I) (act C label) := by
  by_cases sends : Kind.sending ∈ label.kinds
  · cases label with
    | request method params => exact rules.request method params
    | message msg => exact rules.handleMessage msg
    | _ => simp [Label.moving, Label.kinds] at moving sends
  · exact rules.kept sends (act_moves C label moving)

end SendRules

/-! ## Numbers -/

variable {o : Origin} {since : Nat}

theorem books_sealing {s : Session} (began : since ≤ s.trace.length) (frame : Sealed) :
    Session.books { s with trace := s.trace ++ [.sealing frame] } .outbound since =
      { s.books .outbound since with used := (s.books .outbound since).used ++ [frame.seq] } := by
  simp [Session.books, Session.key, Session.next, Session.used, Session.handed, Session.sealedFrames,
    Session.handedFrames, filterMap_since began, Obs.sealedFrame, Obs.handedFrame]

theorem handedFrames_handing {s : Session} (began : since ≤ s.trace.length) (message : ProtocolMessage) (frame : Sealed) :
    Session.handedFrames { s with trace := s.trace ++ [.sent message (some frame) s.journal.disk] } since =
      s.handedFrames since ++ [(frame, s.journal.disk)] := by
  simp [Session.handedFrames, filterMap_since began, Obs.handedFrame]

theorem books_handing {s : Session} (began : since ≤ s.trace.length) (message : ProtocolMessage) (frame : Sealed) :
    Session.books { s with trace := s.trace ++ [.sent message (some frame) s.journal.disk] } .outbound since =
      { s.books .outbound since with
        handed := (s.books .outbound since).handed ++ [(frame.seq, (s.books .outbound since).journal.disk)] } := by
  simp [Session.books, Session.key, Session.next, Session.used, Session.handed, Session.sealedFrames,
    handedFrames_handing began, filterMap_since began, Obs.sealedFrame]

/-! ### Methods that send -/

theorem numbered_rules (C : Crypto) (o : Origin) : SendRules C (Session.Numbered o .outbound) (fun _ _ => True)
    (fun _ _ => True) (fun s _ n => MayUse (scheme o .outbound) (s.books .outbound o.record) n)
    (fun s frame => MayHand (scheme o .outbound) (s.books .outbound o.record) frame.seq)
    (fun s ticket => s.journal.NextToSettle ticket) where
  other := fun other move h => by
    refine numbered_of_move ?_ move h
    exact other
  counts := fun h => ⟨⟨h.toNumbered, h.began⟩, trivial⟩
  later := fun _ _ => trivial
  pends := fun _ _ _ => trivial
  reserves := fun h keyed room asks _ =>
    persistSnapshot_numbered h rfl rfl keyed le_rfl room (Task.reserves_of_asking asks)
  seals := fun h may _ _ => by
    have both := h.use may
    rw [← books_sealing h.began] at both
    exact ⟨⟨both.1, h.began.trans (by simp)⟩, both.2, trivial⟩
  registers := fun _ h may _ => ⟨⟨h.toNumbered, h.began⟩, may⟩
  hands := fun h may => by
    have handed := h.hand may
    rw [← books_handing h.began] at handed
    exact ⟨handed, h.began.trans (by simp)⟩
  removes := fun ticket h => ⟨h.remove ticket, h.began⟩
  resumes := fun h next found durable asks => h.mayUse_remove found next durable (Task.reserves_of_asking asks)

/-! ### What storage holds -/

/-- Every frame handed over since then had a snapshot in storage behind it. -/
structure Session.Backed (since : Nat) (s : Session) : Prop where
  saved : s.options.persistence ≠ none
  began : since ≤ s.trace.length
  stored : ∀ h ∈ s.handedFrames since, h.2.contents ≠ none

theorem Session.Backed.of_handed {s t : Session} (h : s.Backed since) (options : t.options = s.options)
    (began : s.trace.length ≤ t.trace.length) (handed : t.handedFrames since = s.handedFrames since) : t.Backed since :=
  ⟨options ▸ h.saved, h.began.trans began, handed ▸ h.stored⟩

/-- The continuation that is taken out finds storage in place. -/
def Session.storageHolds (s : Session) (ticket : Nat) : Prop :=
  ∀ call, s.journal.find ticket = some call → call.durable = true → call.task.reserves ≠ none →
    s.journal.disk.contents ≠ none

theorem backed_rules (C : Crypto) (since : Nat) : SendRules C (Session.Backed since) (fun _ _ => True) (fun _ _ => True)
    (fun s _ _ => s.journal.disk.contents ≠ none) (fun s _ => s.journal.disk.contents ≠ none)
    Session.storageHolds where
  other := fun {s t k} other move h => by
    refine h.of_handed ?_ move.length_le ?_
    · cases move <;> rfl
    · cases move with
      | note note => simp [Session.handedFrames, filterMap_since h.began, (Obs.frames_eq_none other).2]
      | _ => rfl
  counts := fun h => ⟨h.of_handed rfl le_rfl rfl, trivial⟩
  later := fun _ _ => trivial
  pends := fun _ _ _ => trivial
  reserves := fun {s task a} h _ _ _ _ => by
    rintro t rfl
    rcases persistSnapshot_cases task { s with sendSeq := s.sendSeq + 1 } with
      ⟨none, run⟩ | ⟨adapter, -, -, run⟩ | ⟨adapter, snap, -, -, -, run⟩ | ⟨adapter, snap, -, -, -, run⟩
    · exact absurd none h.saved
    · rw [run]
      exact h.of_handed rfl le_rfl rfl
    · rw [run]
      exact ⟨h.of_handed rfl le_rfl rfl, fun now => absurd now (by simp)⟩
    · rw [run]
      exact ⟨h.of_handed rfl le_rfl rfl, fun _ => by simp [Journal.put, Disk.put, Disk.contents]⟩
  seals := fun {s a frame} h may _ _ => by
    refine ⟨h.of_handed rfl (by simp) ?_, may, trivial⟩
    simp [Session.handedFrames, filterMap_since h.began, Obs.handedFrame]
  registers := fun _ h may _ => ⟨h.of_handed rfl le_rfl rfl, may⟩
  hands := fun {s message frame} h may => by
    refine ⟨h.saved, h.began.trans (by simp), fun pair mem => ?_⟩
    rw [handedFrames_handing h.began] at mem
    rcases List.mem_append.mp mem with old | new
    · exact h.stored pair old
    · rw [List.mem_singleton.mp new]
      exact may
  removes := fun _ h => h.of_handed rfl le_rfl rfl
  resumes := fun {s ticket n a call} _ holds found durable asks => by
    refine holds call found durable ?_
    rw [Task.reserves_of_asking asks]
    simp

/-- Nothing sent, nothing handed over. -/
theorem Silent.handedFrames {s t : Session} (silent : Silent s t) (began : since ≤ s.trace.length) :
    t.handedFrames since = s.handedFrames since := by
  obtain ⟨new, made, quiet⟩ := silent.trace
  have unsent : new.filterMap Obs.handedFrame = [] := by
    refine List.filterMap_eq_nil_iff.mpr fun note mem => ?_
    have still := quiet note mem
    cases note with
    | sent message frame disk => cases still
    | _ => rfl
  rw [Session.handedFrames, made, List.drop_append_of_le_length began, List.filterMap_append, unsent, List.append_nil]
  rfl

theorem restart_backed : Keeps (Preserve (Session.Backed since)) restart := by
  have field (f : Session → Session) (same : ∀ s, Abreast s (f s)) : Keeps (Preserve (Session.Backed since)) (modify f : M Unit) := by
    refine fun s h => h.of_handed (same s).options ?_ ?_
    · rw [after_modify, (same s).trace]
    · rw [after_modify, Session.handedFrames, (same s).trace]
      rfl
  have opens : Keeps (Preserve (Session.Backed since)) (setPhase .connected) :=
    ((backed_rules .transparent since).plain (setPhase_moves _ (Or.inr (by simp)))).keeps
  refine .bind (fun s h => h.of_handed rfl le_rfl rfl) fun _ => .bind .get fun s => ?_
  cases s.journal.disk.contents with
  | none => exact .pure _
  | some snapshot => exact .bind (restoreSafely_rule field opens snapshot) fun _ => .pure _

/-! ### Crashes and whole runs -/

section
variable (C : Crypto)

/-- A continuation that is about to seal finds a snapshot in storage: the session was not
closed since its number was saved, or saved again. -/
def Stored (s : Session) (l : Inputs × Label) : Prop :=
  match l.2 with
  | .settle ticket true => ∀ call ∈ s.journal.find ticket, call.durable = true → s.wouldSeal C call.task = true →
    s.journal.disk.contents ≠ none
  | _ => True

instance (s : Session) (l : Inputs × Label) : Decidable (Stored C s l) := by
  obtain ⟨inputs, label⟩ := l
  unfold Stored
  apply @Label.casesOn _ label <;> intros <;> first | infer_instance | (rename_i ok; cases ok <;> infer_instance)

theorem step_numbered {s : Session} {l : Inputs × Label} (inPairing : InPairing s l)
    (own : l.2 = .crash → ∀ snap, s.journal.disk.contents = some snap → o.owns snap.privKey)
    (saved : s.options.persistence ≠ none) (h : s.Numbered o .outbound) : (step C s l).Numbered o .outbound := by
  have start : Session.Numbered o .outbound { s with inputs := l.1 } := ⟨h.toNumbered, h.began⟩
  obtain ⟨inputs, label⟩ := l
  by_cases moving : label.moving = true
  · exact (numbered_rules C o).act label moving _ start
  · cases label with
    | createPairing privateKey channelId deferTransport => exact inPairing.elim
    | restore snapshot => exact inPairing.elim
    | destroy => exact inPairing.elim
    | flush ticket => exact ⟨start.flush inPairing, start.began⟩
    | settle ticket ok => exact ((numbered_rules C o).settleCall ticket ok).final ⟨start, fun _ => inPairing.2⟩
    | crash => exact restart_numbered start saved (own rfl)
    | _ => simp [Label.moving] at moving

theorem step_backed {s : Session} {l : Inputs × Label} (inPairing : InPairing s l) (stored : Stored C s l)
    (h : s.Backed since) : (step C s l).Backed since := by
  have start : Session.Backed since { s with inputs := l.1 } := h.of_handed rfl le_rfl rfl
  obtain ⟨inputs, label⟩ := l
  by_cases moving : label.moving = true
  · exact (backed_rules C since).act label moving _ start
  · cases label with
    | createPairing privateKey channelId deferTransport => exact inPairing.elim
    | restore snapshot => exact inPairing.elim
    | destroy => exact inPairing.elim
    | flush ticket => exact start.of_handed rfl le_rfl rfl
    | settle ticket ok =>
      obtain rfl : ok = true := inPairing.1
      by_cases holds : Session.storageHolds s ticket
      · exact ((backed_rules C since).settleCall ticket true).final ⟨start, fun _ => holds⟩
      · -- storage is empty, so the continuation has nothing it could seal
        simp only [Session.storageHolds, not_forall] at holds
        obtain ⟨call, found, durable, reserved, empty⟩ := holds
        have stuck : call.durable = true → s.wouldSeal C call.task = false := fun _ =>
          Bool.eq_false_iff.mpr fun seals => empty (stored call found durable seals)
        have silent := (settle_silent_iff C s inputs ticket true call found reserved).mpr stuck
        exact h.of_handed (step_options C s _) silent.trace.grows.length_le (silent.handedFrames h.began)
    | crash => exact restart_backed _ start
    | _ => simp [Label.moving] at moving

/-- A pairing with this private key can begin: no number of an earlier pairing waits for its
save, and the key pair is new to storage. -/
structure Session.Vacant (privateKey : Bytes) (s : Session) : Prop where
  waits : s.journal.held Task.reserves = []
  unused : s.journal.Every (·.privKey ≠ privateKey)

/-- A step inside the pairing with this private key, with storage behind every frame. -/
def Guarded (privateKey : Bytes) (s : Session) (l : Inputs × Label) : Prop :=
  InPairing s l ∧ RestoresOwn privateKey s l ∧ Stored C s l

instance (privateKey : Bytes) (s : Session) (l : Inputs × Label) : Decidable (Guarded C privateKey s l) :=
  inferInstanceAs (Decidable (_ ∧ _ ∧ _))

variable {C} {s : Session} {inputs : Inputs} {privateKey : Bytes} {channelId : String} {deferTransport : Bool}
variable {labels : List (Inputs × Label)}

/-- A pairing of any object numbers its frames from zero, when no number of an earlier one
waits and the key pair is new. -/
theorem pairingRun_numbered (saved : s.options.persistence ≠ none) (queued : s.Queued)
    (vacant : s.Vacant privateKey)
    (guarded : Run.Along (step C) (Guarded C privateKey)
      (step C s (inputs, .createPairing privateKey channelId deferTransport)) labels) :
    (pairingRun C s inputs privateKey channelId deferTransport labels).Numbered (s.origin privateKey) .outbound ∧
      (pairingRun C s inputs privateKey channelId deferTransport labels).Backed s.trace.length := by
  have numbered : (step C s (inputs, .createPairing privateKey channelId deferTransport)).Numbered
      (s.origin privateKey) .outbound :=
    createPairing_numbered C rfl rfl queued (by exact vacant.waits)
      (vacant.unused.imp fun _ other own => absurd (own privateKey rfl) other) inputs privateKey channelId deferTransport
  have announced : Keeps (Preserve (Session.Backed s.trace.length)) (createPairing C privateKey channelId deferTransport) :=
    .bind (fun t h => h.of_handed rfl le_rfl rfl) fun _ =>
      ((backed_rules C _).plain (announcePairing_moves (by simp) (by simp) C _ _ _)).keeps
  have backed : (step C s (inputs, .createPairing privateKey channelId deferTransport)).Backed s.trace.length :=
    announced _ ⟨saved, le_rfl, by simp [Session.handedFrames]⟩
  refine Run.invariant (I := fun t => t.Numbered (s.origin privateKey) .outbound ∧ t.Backed s.trace.length)
    (fun t l ok held => ?_) guarded ⟨numbered, backed⟩
  obtain ⟨inPairing, own, stored⟩ := ok
  refine ⟨step_numbered C inPairing (fun crash snap loaded key same => ?_) held.2.saved held.1, step_backed C inPairing stored held.2⟩
  cases same
  rw [RestoresOwn, crash] at own
  exact own snap loaded

end

end WalletPair.Sdk.DApp
