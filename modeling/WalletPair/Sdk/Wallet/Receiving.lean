import WalletPair.Sdk.Wallet.Books

/-! What receiving can do to the wallet session, said once. A request that opens above the
counter moves the counter, waits for its save, and is handed to the lookup in the caches.
Its continuation puts the counter back when something throws, so it matters that nothing
does: with an asynchronous adapter an answer only queues a save. -/

namespace WalletPair.Sdk.Wallet
open WalletPair.Lib WalletPair.Lib.Program

/-- The counter was just moved to the number of the frame. -/
structure Advanced (I : Session → Prop) (d : Delivery) (t : Session) : Prop where
  from_below : ∃ s, I s ∧ s.recvKey.isSome = true ∧ s.recvSeq < d.seq ∧ t = { s with recvSeq := d.seq }
  bounded : d.seq ≤ maxSeq

/-- An invariant `I` of receiving: `good` says which continuations may be queued, and
`May` when a frame may be delivered. -/
structure Receives (good : Task → Prop) (I : Session → Prop) (May : Delivery → Session → Prop) : Prop where
  moves : ∀ s t k, k ≠ .receiving → Move s k t → I s → I t
  accept : ∀ d task, task.receipt = some d → good task →
    Triple (Advanced I d) (persistSnapshot task) (fun waits t => I t ∧ (waits = false → May d t)) I
  deliver : ∀ s d, I s → May d s → I { s with trace := s.trace ++ [.delivered d] }

/-! ### Deliveries that do not throw -/

/-- No listener throws from here on, and a save is always queued. -/
structure Session.Steady (s : Session) : Prop where
  calm : true ∉ s.inputs.throws
  live : s.privKey.isSome = true
  async : ∃ adapter, s.options.persistence = some adapter ∧ adapter.async = true

/-- The program returns, in a session that is still steady. -/
abbrev Steadily {α : Type} (m : M α) : Prop := Triple Session.Steady m (fun _ => Session.Steady) fun _ => False

theorem steadily_modify {f : Session → Session} (same : ∀ s : Session, s.Steady → (f s).Steady) :
    Steadily (modify f : M Unit) := .modify same

theorem record_steady (o : Obs) : Steadily (record o) := steadily_modify fun _ h => ⟨h.calm, h.live, h.async⟩

theorem emit_steady (event : Event) : Steadily (emit event) := by
  refine .read fun s h => .ite (fun _ => .pure fun _ same => same ▸ h) fun _ =>
    .start (P := Session.Steady) ?_ h
  -- the listeners that were to throw are those of the state before the emission
  have calm := h.calm
  refine .bind (record_steady _) fun _ => ?_
  cases heads : s.inputs.throws with
  | nil => exact .pure fun _ held => held
  | cons head rest =>
    rw [heads] at calm
    refine .bind (Q := fun _ => Session.Steady) (.modify fun t held => ⟨fun mem => calm (by simp [mem]), held.live,
      held.async⟩) fun _ => .ite (fun throws => absurd (by simp [throws]) calm) fun _ => .pure fun _ held => held

theorem sendRaw_steady (body : Body) (frame : Option Sealed) : Steadily (sendRaw body frame) :=
  .read fun _ h => .read fun _ same => .ite (fun _ => (emit_steady _).start (same ▸ h)) fun _ =>
    (record_steady _).start (same ▸ h)

theorem clearPersistence_steady : Steadily clearPersistence := by
  refine steadily_modify fun s h => ?_
  cases s.options.persistence with
  | none => exact h
  | some adapter =>
    dsimp only
    split_ifs
    · exact ⟨h.calm, h.live, h.async⟩
    · exact ⟨h.calm, h.live, h.async⟩
    · exact h

theorem setPhase_steady (phase : Phase) : Steadily (setPhase phase) :=
  .read fun _ h => .ite (fun _ => .pure fun _ same => same ▸ h) fun _ =>
    .start (.bind (steadily_modify fun _ held => ⟨held.calm, held.live, held.async⟩) fun _ => emit_steady _) h

theorem close_steady (reason : String) : Steadily (close reason) := by
  have field {f : Session → Session} (same : ∀ s, (f s).inputs = s.inputs ∧ (f s).privKey = s.privKey ∧
      (f s).options = s.options) : Steadily (modify f : M Unit) :=
    steadily_modify fun s h => ⟨(same s).1 ▸ h.calm, (same s).2.1 ▸ h.live, (same s).2.2 ▸ h.async⟩
  have rest : Steadily (do clearPersistence; setPhase .closed) :=
    .bind clearPersistence_steady fun _ => setPhase_steady _
  exact .bind (field fun _ => ⟨rfl, rfl, rfl⟩) fun _ => .bind (field fun _ => ⟨rfl, rfl, rfl⟩) fun _ =>
    .bind (field fun _ => ⟨rfl, rfl, rfl⟩) fun _ => .bind (field fun _ => ⟨rfl, rfl, rfl⟩) fun _ =>
    .read fun _ h => .ite (fun _ => .start (.bind (sendRaw_steady _ _) fun _ => rest) h) fun _ => rest.start h

/-- A reservation waits for its save, or there is no number left. -/
theorem nextSendSeq_steady (task : Nat → Task) :
    Triple Session.Steady (nextSendSeq task)
      (fun r t => t.Steady ∧ ∀ seq, r ≠ .reserved seq) fun _ => False := by
  refine .read fun s h => .ite (fun _ => ?_) fun _ => .at_state ?_
  · exact .start (.bind (emit_steady _) fun _ => .bind (close_steady _) fun _ => .pure fun _ held => ⟨held, by rintro seq ⟨⟩⟩) h
  · obtain ⟨adapter, configured, async⟩ := h.async
    rw [modify_bind_apply]
    rcases persistSnapshot_cases (task s.sendSeq) { s with sendSeq := s.sendSeq + 1 } with
      ⟨none, -⟩ | ⟨other, -, unsaved, -⟩ | ⟨other, snapshot, -, -, -, run⟩ | ⟨other, snapshot, same, sync, -, -⟩
    · exact absurd (configured.symm.trans none) (by simp)
    · have live := h.live
      simp [Session.serialize] at unsaved
      simp [unsaved] at live
    · rw [bind_of_ok run]
      exact ⟨⟨h.calm, h.live, h.async⟩, by rintro seq ⟨⟩⟩
    · rw [Option.some.inj (configured.symm.trans same), sync] at async
      cases async

section
variable (C : Crypto)

theorem sendResponse_steady (id : String) (ok : Bool) (data : Option Json) (caches observed : Bool) :
    Steadily (sendResponse C id ok data caches observed) := by
  refine .read fun s h => .ite (fun _ => .pure fun _ same => same ▸ h) fun _ =>
    .start (.bind (nextSendSeq_steady _) fun reserved => ?_) h
  cases reserved with
  | exhausted => exact .pure fun _ held => held.1
  | reserved seq => exact fun _ held => absurd rfl (held.2 seq)
  | waits => exact .pure fun _ held => held.1

theorem promptRequest_steady (id method : String) (params : Json) (paramsHash : String) (plaintext : Bytes) :
    Steadily (promptRequest C id method params paramsHash plaintext) := by
  refine .read fun s h => ?_
  cases s.pendingRequestRecords.get id with
  | some pending =>
    exact .ite (fun _ => .pure fun _ same => same ▸ h) fun _ => (sendResponse_steady C _ _ _ _ _).start h
  | none =>
    exact .ite (fun _ => (sendResponse_steady C _ _ _ _ _).start h) fun _ =>
      .start (.bind (steadily_modify fun _ held => ⟨held.calm, held.live, held.async⟩) fun _ =>
        .bind (record_steady _) fun _ => emit_steady _) h

theorem dispatchRequest_steady (id method : String) (params : Json) (paramsHash : String) (plaintext : Bytes) :
    Steadily (dispatchRequest C id method params paramsHash plaintext) := by
  have replays (entry : CachedRequestResponse) : Steadily (replay C id entry) :=
    .bind (record_steady _) fun _ => sendResponse_steady C _ _ _ _ _
  refine .read fun s h => ?_
  cases s.broadcastResponseCache.get id with
  | some cachedBroadcast =>
    exact .ite (fun _ => (replays _).start h) fun _ => (sendResponse_steady C _ _ _ _ _).start h
  | none =>
    dsimp only
    cases s.idempotencyCache.get id with
    | none => exact (promptRequest_steady C _ _ _ _ _).start h
    | some cached =>
      have touched : Steadily (touchIdempotencyEntry id cached) :=
        .bind (steadily_modify fun _ held => ⟨held.calm, held.live, held.async⟩) fun _ => record_steady _
      exact .ite (fun _ => .start (.bind touched fun _ => .ite (fun _ => promptRequest_steady C _ _ _ _ _)
        fun _ => replays _) h) fun _ => (sendResponse_steady C _ _ _ _ _).start h

theorem deliverRequest_steady (frame : Delivery) (data : Json) : Steadily (deliverRequest C frame data) := by
  refine .bind (record_steady _) fun _ => .read fun s h => ?_
  cases methodOf data with
  | none => exact (sendResponse_steady C _ _ _ _ _).start h
  | some method =>
    exact .ite (fun _ => (dispatchRequest_steady C _ _ _ _ _).start h) fun _ =>
      (sendResponse_steady C _ _ _ _ _).start h

end

/-! ### The rules of receiving -/

namespace Receives
variable {good : Task → Prop} {I : Session → Prop} {May : Delivery → Session → Prop}

/-- What does not receive keeps the invariant. -/
theorem kept {α : Type} {m : M α} {ok : Kind → Prop} (R : Receives good I May) (receives : ¬ ok .receiving)
    (made : Keeps (Moves ok) m) : Keeps (Preserve I) m := by
  refine preserve_of_moves made fun s t k allowed move h => R.moves s t k ?_ move h
  rintro rfl
  exact allowed.elim nofun receives

theorem plain {α : Type} {m : M α} (R : Receives good I May) (made : Keeps (Moves (· ≠ .receiving)) m) :
    Triple I m (fun _ => I) I := .preserve (R.kept (by simp) made)

section
variable (C : Crypto)

theorem deliverRequest (R : Receives good I May) (frame : Delivery) (data : Json) :
    Triple (fun s => I s ∧ May frame s) (deliverRequest C frame data) (fun _ => I) I :=
  .bind (Q := fun _ => I) (.modify fun s ⟨h, may⟩ => R.deliver s frame h may) fun _ =>
    R.plain (processRequest_moves C nofun nofun _ _ _)

/-- From the unsealed payload on: a request that is accepted waits or is delivered. -/
theorem openRequest (R : Receives good I May) {s : Session} (h : I s) (keyed : s.recvKey.isSome = true)
    (recvKey : Bytes) (sender id envelope : String)
    (opens : ∀ opened, unsealPayload C recvKey s.channelId envelope ⟨.req, sender, id⟩ = .ok opened →
      s.recvSeq < opened.seq →
      good (.request ⟨recvKey, opened.seq, .req, id, opened.plaintext⟩ opened.data s.recvSeq)) :
    Triple (fun t => t = s) (openRequest C recvKey sender id envelope) (fun _ => I) I := by
  refine .read fun t same => ?_
  subst same
  refine .bind (.runExcept
    (Q := fun opened u => unsealPayload C recvKey t.channelId envelope ⟨.req, sender, id⟩ = .ok opened ∧ u = t)
    (fun _ read _ same => ⟨read, same⟩) fun _ same => same ▸ h) fun opened => .assume fun read =>
    .ite (fun _ => .pure fun _ same => same ▸ h) fun above => ?_
  have below : t.recvSeq < opened.seq := Int.not_le.mp above
  let d : Delivery := ⟨recvKey, opened.seq, .req, id, opened.plaintext⟩
  refine .bind (Q := fun _ u => Advanced I d u) (.modify fun u same => ?_) fun _ =>
    .bind (R.accept d _ rfl (opens opened read below)) fun waits => .ite (fun _ => .pure fun _ held => held.1)
      fun now => ?_
  · rw [same]
    exact ⟨⟨t, h, keyed, below, rfl⟩, (unsealPayload_ok C read).1⟩
  · exact (R.deliverRequest C d opened.data).mono (fun _ held => ⟨held.1, held.2 (by simpa using now)⟩)
      (fun _ _ held => held) (fun _ held => held)

/-- What a frame that arrives may open to, in a state with the invariant. -/
def Opens (good : Task → Prop) (I : Session → Prop) (msg : ProtocolMessage) : Prop :=
  ∀ s, I s → ∀ id envelope recvKey opened, msg.body = .req (some id) (some envelope) → s.recvKey = some recvKey →
    unsealPayload C recvKey s.channelId envelope ⟨.req, msg.sender, id⟩ = .ok opened → s.recvSeq < opened.seq →
    good (.request ⟨recvKey, opened.seq, .req, id, opened.plaintext⟩ opened.data s.recvSeq)

/-- What a frame that arrives in this state may open to. -/
def OpensAt (good : Task → Prop) (s : Session) (msg : ProtocolMessage) : Prop :=
  ∀ id envelope recvKey opened, msg.body = .req (some id) (some envelope) → s.recvKey = some recvKey →
    unsealPayload C recvKey s.channelId envelope ⟨.req, msg.sender, id⟩ = .ok opened → s.recvSeq < opened.seq →
    good (.request ⟨recvKey, opened.seq, .req, id, opened.plaintext⟩ opened.data s.recvSeq)

theorem handleRequest_at (R : Receives good I May) {s : Session} {v ts : Nat} {ch sender : String}
    {id envelope : Option String} (opens : OpensAt C good s ⟨v, ch, ts, sender, .req id envelope⟩) (h : I s) :
    Triple (fun t => t = s) (handleRequest C sender id envelope) (fun _ => I) I := by
  have refused (name code message : String) : Triple I (reject C name code message true) (fun _ => I) I :=
    R.plain (reject_moves C nofun nofun _ _ _ _)
  refine .read fun t same => ?_
  subst same
  refine .ite (fun _ => .pure fun _ same => same ▸ h) fun _ => ?_
  cases named : nonEmpty id with
  | none => exact .pure fun _ same => same ▸ h
  | some name =>
    dsimp only
    cases shown : nonEmpty envelope with
    | none => exact (refused _ _ _).start h
    | some text =>
      cases keyed : t.recvKey with
      | none => exact (refused _ _ _).start h
      | some recvKey =>
        refine .tryCatch (R.openRequest C h (by simp [keyed]) recvKey sender name text fun opened read below => ?_)
          fun _ => refused _ _ _
        exact opens name text recvKey opened (by rw [nonEmpty_some named, nonEmpty_some shown]) keyed read below

theorem handleMessage_at (R : Receives good I May) {s : Session} {msg : ProtocolMessage}
    (opens : OpensAt C good s msg) (h : I s) : I (after (handleMessage C msg) s) := by
  have plain {m : M Unit} (made : Keeps (Moves (· ≠ .receiving)) m) : Triple (fun t => t = s) m (fun _ => I) I :=
    (R.plain made).start h
  obtain ⟨v, ch, ts, sender, body⟩ := msg
  cases body with
  | req id envelope =>
    exact Triple.final (.ite (fun _ => plain (report_moves _)) fun _ => .ite (fun _ => plain (close_moves _)) fun _ =>
      R.handleRequest_at C opens h) rfl
  | _ => exact R.kept (by simp [messageKinds]) (handleMessage_moves C _) _ h

theorem handleMessage (R : Receives good I May) {msg : ProtocolMessage} (opens : Opens C good I msg) :
    Keeps (Preserve I) (handleMessage C msg) :=
  fun s h => R.handleMessage_at C (fun id envelope recvKey opened => opens s h id envelope recvKey opened) h

/-- What the continuation of a save needs: a frame may be delivered, and nothing in its
delivery throws. -/
structure Continues (good : Task → Prop) (I : Session → Prop) (May : Delivery → Session → Prop) (task : Task)
    (s : Session) : Prop where
  holds : I s
  may : ∀ d, task.receipt = some d → May d s
  steady : task.kind = .receiving → s.Steady

theorem resume (R : Receives good I May) {task : Task} {s : Session} (ready : Continues good I May task s) :
    Triple (fun t => t = s) (resume C task) (fun _ => I) I := by
  by_cases receives : task.kind = .receiving
  · cases task with
    | request frame data prev =>
      refine .tryCatch (I := fun _ => False) ?_ fun _ => fun _ no => no.elim
      exact (((R.deliverRequest C frame data).and (deliverRequest_steady C frame data)).mono
        (fun _ held => held) (fun _ _ held => held.1) (fun _ held => held.2)).start
        ⟨⟨ready.holds, ready.may frame rfl⟩, ready.steady rfl⟩
    | _ => cases receives
  · exact (R.plain (resume_moves C task receives (fun _ => nofun) fun same => absurd same receives)).start ready.holds

end

end Receives

end WalletPair.Sdk.Wallet
