import WalletPair.Sdk.DApp.Books

/-! What receiving can do to the dApp session, said once. A frame that opens above the
counter moves the counter, waits for its save, and is delivered. `Receives` lists what an
invariant has to say about these moments; the rules below carry it through the handlers
and through the continuations of saves. -/

namespace WalletPair.Sdk.DApp
open WalletPair.Lib WalletPair.Lib.Program

/-- The counter was just moved to the number of the frame. -/
structure Advanced (I : Session → Prop) (d : Delivery) (t : Session) : Prop where
  from_below : ∃ s, I s ∧ s.recvKey.isSome = true ∧ s.recvSeq < d.seq ∧ t = { s with recvSeq := d.seq }
  bounded : d.seq ≤ maxSeq

/-- An invariant `I` of receiving: `good` says which continuations may be queued, and
`May` when a frame may be delivered. -/
structure Receives (good : Task → Prop) (I : Session → Prop) (May : Delivery → Session → Prop) : Prop where
  moves : ∀ s t k, k ≠ .receiving → k ≠ .resolving → Move s k t → I s → I t
  accept : ∀ d task, task.receipt = some d → good task →
    Triple (Advanced I d) (persistSnapshot task) (fun waits t => I t ∧ (waits = false → May d t)) I
  deliver : ∀ s d, I s → May d s → I { s with trace := s.trace ++ [.delivered d] }
  resolve : ∀ s promise d data prev, good (.response promise d data prev) → d ∈ s.deliveries →
    data.field "_ok" = some (.bool true) → I s →
    I { s with trace := s.trace ++ [.settled promise (.resolved (data.field "_result"))] }

/-- No listener throws from here on. -/
def Session.calm (s : Session) : Prop := true ∉ s.inputs.throws

theorem emit_calm (event : Event) : Triple Session.calm (emit event) (fun _ => Session.calm) fun _ => False := by
  intro s calm
  have heard : s.hears = true := by
    unfold Session.hears
    cases heads : s.inputs.throws with
    | nil => simp
    | cons head rest =>
      have : head ≠ true := fun same => calm (by simp [heads, same])
      simp [this]
  rw [emit_apply, if_pos heard]
  unfold Session.calm Session.emitting
  split_ifs with muted
  · exact calm
  · exact fun mem => calm (List.mem_of_mem_tail mem)

theorem settle_calm (promise : Nat) (outcome : Outcome) :
    Triple Session.calm (settle promise outcome) (fun _ => Session.calm) fun _ => False := by
  refine .modify fun s calm => ?_
  split_ifs
  · exact calm
  · exact calm

/-- The payload of a response makes its continuation throw before the promise settles: it
is null, or a refusal whose message has no text. -/
def unreadable : Json → Bool
  | .null => true
  | data => data.flag "_ok" == some false && !(refusalMessage data).printable

theorem errorOf_readable {data : Json} (readable : unreadable data = false)
    (refused : data.member "_ok" = .ok (some (.bool false))) :
    errorOf (refusalMessage data) = .ok (refusalMessage data) := by
  have printable : (refusalMessage data).printable = true := by
    cases data with
    | obj fields =>
      have flag : (Json.obj fields).flag "_ok" = some false := by
        have field : (Json.obj fields).field "_ok" = some (.bool false) := Except.ok.inj refused
        simp [Json.flag, field]
      simpa [unreadable, flag] using readable
    | null => cases readable
    | _ => cases Except.ok.inj refused
  rw [errorOf, if_pos printable]

/-- Delivering a response throws only if a listener does, or if its payload is unreadable. -/
theorem deliverResponse_calm (promise : Nat) (frame : Delivery) {data : Json} (readable : unreadable data = false) :
    Triple Session.calm (deliverResponse promise frame data) (fun _ => Session.calm) fun _ => False := by
  refine .bind (Q := fun _ => Session.calm) (.modify fun _ calm => calm) fun _ =>
    .bind (Q := fun outcome s => data.member "_ok" = .ok outcome ∧ Session.calm s) ?_ fun outcome => .assume fun read => ?_
  · cases data with
    | null => cases readable
    | _ => exact fun _ calm => ⟨rfl, calm⟩
  · split
    · exact .bind (settle_calm _ _) fun _ => emit_calm _
    · rw [errorOf_readable readable read]
      exact .bind (Q := fun _ => Session.calm) (.pure fun _ calm => calm) fun message =>
        .bind (settle_calm _ _) fun _ => emit_calm _
    · exact settle_calm _ _

theorem deliverEvent_calm (frame : Delivery) (data : Json) :
    Triple Session.calm (deliverEvent frame data) (fun _ => Session.calm) fun _ => False := by
  refine .bind (Q := fun _ => Session.calm) (.modify fun _ calm => calm) fun _ => ?_
  cases eventOf data with
  | none => exact emit_calm _
  | some named => exact emit_calm _

namespace Receives
variable {good : Task → Prop} {I : Session → Prop} {May : Delivery → Session → Prop}

/-- What neither receives nor resolves keeps the invariant. -/
theorem kept {α : Type} {m : M α} {ok : Kind → Prop} (R : Receives good I May) (receives : ¬ ok .receiving)
    (resolves : ¬ ok .resolving) (made : Keeps (Moves ok) m) : Keeps (Preserve I) m := by
  refine preserve_of_moves made fun s t k allowed move h => R.moves s t k ?_ ?_ move h
  · rintro rfl
    exact allowed.elim nofun receives
  · rintro rfl
    exact allowed.elim nofun resolves

theorem plain {α : Type} {m : M α} (R : Receives good I May)
    (made : Keeps (Moves fun k => k ≠ .receiving ∧ k ≠ .resolving) m) : Triple I m (fun _ => I) I :=
  .preserve (R.kept (by simp) (by simp) made)

/-- The continuation of a response: the frame is delivered, then the promise settles. -/
theorem deliverResponse (R : Receives good I May) {promise : Nat} {frame : Delivery} {data : Json} {prev : Int}
    (known : good (.response promise frame data prev)) :
    Triple (fun s => I s ∧ May frame s) (deliverResponse promise frame data) (fun _ => I) I := by
  refine .bind (Q := fun _ s => I s ∧ frame ∈ s.deliveries) (.modify fun s held => ?_) fun _ =>
    .bind (.runExcept (Q := fun outcome s => data.member "_ok" = .ok outcome ∧ I s ∧ frame ∈ s.deliveries)
      (fun _ same _ held => ⟨same, held⟩) fun _ held => held.1) fun outcome => .assume fun read => ?_
  · exact ⟨R.deliver s frame held.1 held.2, by simp [Session.deliveries, Obs.delivery]⟩
  · split
    · have field : data.field "_ok" = some (.bool true) := by
        cases data with
        | obj fields => exact Except.ok.inj read
        | null => cases read
        | _ => cases Except.ok.inj read
      refine .bind (Q := fun _ => I) (.modify fun s held => ?_) fun _ =>
        R.plain (emit_moves _ (Or.inl rfl))
      obtain ⟨h, mem⟩ := held
      split_ifs
      · exact h
      · exact R.resolve s promise frame data prev known mem field h
    · exact .mono (.bind (.runExcept (Q := fun _ => I) (fun _ _ _ h => h) fun _ h => h) fun _ =>
        .bind (R.plain (settle_moves _ _ (Or.inl rfl))) fun _ => R.plain (emit_moves _ (Or.inl rfl)))
        (fun _ held => held.1) (fun _ _ held => held) (fun _ held => held)
    · exact (R.plain (fail_moves _ _)).mono (fun _ held => held.1) (fun _ _ held => held) (fun _ held => held)

theorem deliverEvent (R : Receives good I May) (frame : Delivery) (data : Json) :
    Triple (fun s => I s ∧ May frame s) (deliverEvent frame data) (fun _ => I) I := by
  refine .bind (Q := fun _ => I) (.modify fun s ⟨h, may⟩ => R.deliver s frame h may) fun _ => ?_
  cases eventOf data with
  | none => exact R.plain (report_moves _)
  | some named => exact R.plain (emit_moves _ (Or.inr ⟨nofun, nofun⟩))

section
variable (C : Crypto)

/-- From the unsealed payload on: a response that is accepted waits or is delivered. -/
theorem openResponse (R : Receives good I May) {s : Session} (h : I s) (keyed : s.recvKey.isSome = true)
    (promise : Nat) (recvKey : Bytes) (sender id envelope : String)
    (opens : ∀ opened, unsealPayload C recvKey s.channelId envelope ⟨.res, sender, id⟩ = .ok opened →
      s.recvSeq < opened.seq →
      good (.response promise ⟨recvKey, opened.seq, .res, id, opened.plaintext⟩ opened.data s.recvSeq)) :
    Triple (fun t => t = s) (openResponse C promise recvKey sender id envelope) (fun _ => I) I := by
  refine .read fun t same => ?_
  subst same
  refine .bind (.runExcept
    (Q := fun opened u => unsealPayload C recvKey t.channelId envelope ⟨.res, sender, id⟩ = .ok opened ∧ u = t)
    (fun _ read _ same => ⟨read, same⟩) fun _ same => same ▸ h) fun opened => .assume fun read =>
    .ite (fun _ => (R.plain (fail_moves _ _)).start h) fun above => ?_
  have below : t.recvSeq < opened.seq := Int.not_le.mp above
  have known := opens opened read below
  let d : Delivery := ⟨recvKey, opened.seq, .res, id, opened.plaintext⟩
  refine .bind (Q := fun _ u => Advanced I d u) (.modify fun u same => ?_) fun _ =>
    .bind (R.accept d _ rfl known) fun waits => .ite (fun _ => .pure fun _ held => held.1) fun now => ?_
  · rw [same]
    exact ⟨⟨t, h, keyed, below, rfl⟩, (unsealPayload_ok C read).1⟩
  · exact (R.deliverResponse known).mono (fun _ held => ⟨held.1, held.2 (by simpa using now)⟩)
      (fun _ _ held => held) (fun _ held => held)

theorem openEvent (R : Receives good I May) {s : Session} (h : I s) (keyed : s.recvKey.isSome = true)
    (recvKey : Bytes) (sender id envelope : String)
    (opens : ∀ opened, unsealPayload C recvKey s.channelId envelope ⟨.evt, sender, id⟩ = .ok opened →
      s.recvSeq < opened.seq →
      good (.event ⟨recvKey, opened.seq, .evt, id, opened.plaintext⟩ opened.data s.recvSeq)) :
    Triple (fun t => t = s) (openEvent C recvKey sender id envelope) (fun _ => I) I := by
  refine .read fun t same => ?_
  subst same
  refine .bind (.runExcept
    (Q := fun opened u => unsealPayload C recvKey t.channelId envelope ⟨.evt, sender, id⟩ = .ok opened ∧ u = t)
    (fun _ read _ same => ⟨read, same⟩) fun _ same => same ▸ h) fun opened => .assume fun read =>
    .ite (fun _ => .pure fun _ same => same ▸ h) fun above => ?_
  have below : t.recvSeq < opened.seq := Int.not_le.mp above
  let d : Delivery := ⟨recvKey, opened.seq, .evt, id, opened.plaintext⟩
  refine .bind (Q := fun _ u => Advanced I d u) (.modify fun u same => ?_) fun _ =>
    .bind (R.accept d _ rfl (opens opened read below)) fun waits => .ite (fun _ => .pure fun _ held => held.1)
      fun now => ?_
  · rw [same]
    exact ⟨⟨t, h, keyed, below, rfl⟩, (unsealPayload_ok C read).1⟩
  · exact (R.deliverEvent d opened.data).mono (fun _ held => ⟨held.1, held.2 (by simpa using now)⟩)
      (fun _ _ held => held) (fun _ held => held)

/-- What a frame that arrives may open to, in a state with the invariant. -/
structure Opens (good : Task → Prop) (I : Session → Prop) (msg : ProtocolMessage) : Prop where
  response : ∀ s, I s → ∀ id envelope pending recvKey opened, msg.body = .res (some id) (some envelope) →
    s.pendingRequests.get id = some pending → s.recvKey = some recvKey →
    unsealPayload C recvKey s.channelId envelope ⟨.res, msg.sender, id⟩ = .ok opened → s.recvSeq < opened.seq →
    good (.response pending.promise ⟨recvKey, opened.seq, .res, id, opened.plaintext⟩ opened.data s.recvSeq)
  event : ∀ s, I s → ∀ id envelope recvKey opened, msg.body = .evt (some id) (some envelope) →
    s.recvKey = some recvKey →
    unsealPayload C recvKey s.channelId envelope ⟨.evt, msg.sender, id⟩ = .ok opened → s.recvSeq < opened.seq →
    good (.event ⟨recvKey, opened.seq, .evt, id, opened.plaintext⟩ opened.data s.recvSeq)

/-- What a frame that arrives in this state may open to. -/
structure OpensAt (good : Task → Prop) (s : Session) (msg : ProtocolMessage) : Prop where
  response : ∀ id envelope pending recvKey opened, msg.body = .res (some id) (some envelope) →
    s.pendingRequests.get id = some pending → s.recvKey = some recvKey →
    unsealPayload C recvKey s.channelId envelope ⟨.res, msg.sender, id⟩ = .ok opened → s.recvSeq < opened.seq →
    good (.response pending.promise ⟨recvKey, opened.seq, .res, id, opened.plaintext⟩ opened.data s.recvSeq)
  event : ∀ id envelope recvKey opened, msg.body = .evt (some id) (some envelope) → s.recvKey = some recvKey →
    unsealPayload C recvKey s.channelId envelope ⟨.evt, msg.sender, id⟩ = .ok opened → s.recvSeq < opened.seq →
    good (.event ⟨recvKey, opened.seq, .evt, id, opened.plaintext⟩ opened.data s.recvSeq)

theorem Opens.at_state {msg : ProtocolMessage} {s : Session} (opens : Opens C good I msg) (h : I s) :
    OpensAt C good s msg :=
  ⟨fun id envelope pending recvKey opened => opens.response s h id envelope pending recvKey opened,
    fun id envelope recvKey opened => opens.event s h id envelope recvKey opened⟩

theorem handleResponse_at (R : Receives good I May) {s : Session} {v ts : Nat} {ch sender : String}
    {id envelope : Option String} (opens : OpensAt C good s ⟨v, ch, ts, sender, .res id envelope⟩) (h : I s) :
    Triple (fun t => t = s) (handleResponse C sender id envelope) (fun _ => I) I := by
  refine .read fun t same => ?_
  subst same
  refine .ite (fun _ => .pure fun _ same => same ▸ h) fun _ => ?_
  cases named : nonEmpty id with
  | none => exact .pure fun _ same => same ▸ h
  | some name =>
    dsimp only
    cases found : t.pendingRequests.get name with
    | none => exact .pure fun _ same => same ▸ h
    | some pending =>
      have forgotten : ∀ u, u = after (forgetRequest name pending) t → I u := fun u same =>
        same ▸ (R.plain (forgetRequest_moves ⟨nofun, nofun⟩ name pending)).final h
      refine .bind (Q := fun _ u => u = after (forgetRequest name pending) t) (.modify fun u same => same ▸ rfl) fun _ => ?_
      cases shown : nonEmpty envelope with
      | none => exact (R.plain (fail_moves _ _)).mono forgotten (fun _ _ held => held) (fun _ held => held)
      | some text =>
        cases keyed : t.recvKey with
        | none => exact (R.plain (fail_moves _ _)).mono forgotten (fun _ _ held => held) (fun _ held => held)
        | some recvKey =>
          refine .tryCatch (R.openResponse C (forgotten _ rfl) (by simp [forgetRequest, keyed]) pending.promise recvKey
            sender name text fun opened read below => ?_) fun _ => R.plain (fail_moves _ _)
          exact opens.response name text pending recvKey opened
            (by rw [nonEmpty_some named, nonEmpty_some shown]) found keyed read below

theorem handleEvent_at (R : Receives good I May) {s : Session} {v ts : Nat} {ch sender : String}
    {id envelope : Option String} (opens : OpensAt C good s ⟨v, ch, ts, sender, .evt id envelope⟩) (h : I s) :
    Triple (fun t => t = s) (handleEvent C sender id envelope) (fun _ => I) I := by
  refine .read fun t same => ?_
  subst same
  refine .ite (fun _ => .pure fun _ same => same ▸ h) fun _ => ?_
  cases shown : nonEmpty envelope with
  | none => exact .pure fun _ same => same ▸ h
  | some text =>
    cases named : nonEmpty id with
    | none => exact .pure fun _ same => same ▸ h
    | some name =>
      cases keyed : t.recvKey with
      | none => exact .pure fun _ same => same ▸ h
      | some recvKey =>
        refine .tryCatch (R.openEvent C h (by simp [keyed]) recvKey sender name text fun opened read below => ?_)
          fun _ => .pure fun _ held => held
        exact opens.event name text recvKey opened
          (by rw [nonEmpty_some named, nonEmpty_some shown]) keyed read below

theorem handleMessage_at (R : Receives good I May) {s : Session} {msg : ProtocolMessage}
    (opens : OpensAt C good s msg) (h : I s) : I (after (handleMessage C msg) s) := by
  have plain {m : M Unit} (made : Keeps (Moves fun k => k ≠ .receiving ∧ k ≠ .resolving) m) :
      Triple (fun t => t = s) m (fun _ => I) I := (R.plain made).start h
  obtain ⟨v, ch, ts, sender, body⟩ := msg
  cases body with
  | res id envelope =>
    exact Triple.final (.ite (fun _ => plain (report_moves _)) fun _ => .ite (fun _ => plain (close_moves _)) fun _ =>
      R.handleResponse_at C opens h) rfl
  | evt id envelope =>
    exact Triple.final (.ite (fun _ => plain (report_moves _)) fun _ => .ite (fun _ => plain (close_moves _)) fun _ =>
      R.handleEvent_at C opens h) rfl
  | _ => exact R.kept (by simp [messageKinds]) (by simp [messageKinds]) (handleMessage_moves C _) _ h

theorem handleMessage (R : Receives good I May) {msg : ProtocolMessage} (opens : Opens C good I msg) :
    Keeps (Preserve I) (handleMessage C msg) := fun _ h => R.handleMessage_at C (opens.at_state C h) h

/-- What the continuation of a save needs: a frame may be delivered, and nothing in its
delivery throws. -/
structure Continues (good : Task → Prop) (I : Session → Prop) (May : Delivery → Session → Prop) (task : Task)
    (s : Session) : Prop where
  holds : I s
  known : task.kind = .receiving → good task
  may : ∀ d, task.receipt = some d → May d s
  calm : task.kind = .receiving → s.calm
  readable : ∀ promise frame data prev, task = .response promise frame data prev → unreadable data = false

theorem resume (R : Receives good I May) {task : Task} {s : Session} (ready : Continues good I May task s) :
    Triple (fun t => t = s) (resume C task) (fun _ => I) I := by
  by_cases receives : task.kind = .receiving
  · cases task with
    | response promise frame data prev =>
      have readable := ready.readable promise frame data prev rfl
      refine .tryCatch (I := fun _ => False) ?_ fun _ => fun _ no => no.elim
      exact (((R.deliverResponse (ready.known rfl)).and (deliverResponse_calm promise frame readable)).mono
        (fun _ held => held) (fun _ _ held => held.1) (fun _ held => held.2)).start
        ⟨⟨ready.holds, ready.may frame rfl⟩, ready.calm rfl⟩
    | event frame data prev =>
      refine .tryCatch (I := fun _ => False) ?_ fun _ => fun _ no => no.elim
      exact (((R.deliverEvent frame data).and (deliverEvent_calm frame data)).mono
        (fun _ held => held) (fun _ _ held => held.1) (fun _ held => held.2)).start
        ⟨⟨ready.holds, ready.may frame rfl⟩, ready.calm rfl⟩
    | _ => cases receives
  · have other : task.kind ≠ .resolving := by cases task <;> nofun
    exact (R.plain (resume_moves C task ⟨receives, other⟩ (fun same => absurd same receives)
      fun _ _ => ⟨nofun, nofun⟩)).start ready.holds

end

end Receives

end WalletPair.Sdk.DApp
