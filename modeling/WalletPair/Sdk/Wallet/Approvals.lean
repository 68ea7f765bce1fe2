import WalletPair.Sdk.Sealing
import WalletPair.Sdk.Wallet.Deliveries

/-! What the wallet's answers rest on. The application is asked only about requests that were
delivered, and an answer that says yes carries what the application approved under its id,
whether it is sent at once, after its save, or out of a cache. -/

namespace WalletPair.Sdk.Wallet
open WalletPair.Lib WalletPair.Lib.Program

/-- A yes under this id is one that the application gave, and a no carries an error. -/
def Session.Vouched (s : Session) (id : String) (ok : Bool) (data : Option Json) : Prop :=
  match ok with
  | true => .approving id data ∈ s.trace
  | false => ∃ code message, data = some (errorData code message)

/-- The frame is the text of an answer that is vouched for. -/
def Session.Founded (C : Crypto) (s : Session) (frame : Sealed) : Prop :=
  ∃ ok data text, canonicalJson C (some (responsePayload ok data)) = .ok text ∧ frame.plaintext = utf8ToBytes text ∧
    s.Vouched frame.header.id ok data

/-- The application was shown a delivered request under this id. -/
def Session.Shown (s : Session) (id : String) (plaintext : Bytes) : Prop :=
  ∃ d ∈ s.deliveries, d.id = id ∧ d.plaintext = plaintext

/-- An answer that waits for its save is vouched for. -/
def Task.Vouched (s : Session) : Task → Prop
  | .respond id ok data _ _ _ => s.Vouched id ok data
  | _ => True

/-- Answers rest on approvals, approvals on prompts, and prompts on deliveries. -/
structure Session.Rests (C : Crypto) (s : Session) : Prop where
  sealed : ∀ frame ∈ s.sealedFrames, frame.header.type = .res → s.Founded C frame
  waiting : ∀ call ∈ s.journal.calls, call.task.Vouched s
  prompted : ∀ id plaintext, .prompting id plaintext ∈ s.trace → s.Shown id plaintext
  ordered : ∀ before id result, before ++ [.approving id result] <+: s.trace → ∃ plaintext, .prompting id plaintext ∈ before

/-- So do the answers that the caches keep. -/
structure Session.Vouches (C : Crypto) (s : Session) : Prop extends s.Rests C where
  cached : ∀ id entry, s.idempotencyCache.get id = some entry → entry.tooLarge = false → s.Vouched id entry.ok entry.data
  broadcast : ∀ id entry, s.broadcastResponseCache.get id = some entry → s.Vouched id entry.ok entry.data

variable {C : Crypto} {s t : Session}

/-! ### Moves -/

theorem Session.Vouched.mono {id : String} {ok : Bool} {data : Option Json} (h : s.Vouched id ok data)
    (grown : s.trace ⊆ t.trace) : t.Vouched id ok data := by
  cases ok with
  | true => exact grown h
  | false => exact h

theorem Session.Founded.mono {frame : Sealed} (h : s.Founded C frame) (grown : s.trace ⊆ t.trace) : t.Founded C frame := by
  obtain ⟨ok, data, text, printed, shown, vouched⟩ := h
  exact ⟨ok, data, text, printed, shown, vouched.mono grown⟩

theorem Session.Shown.mono {id : String} {plaintext : Bytes} (h : s.Shown id plaintext) (grown : s.trace ⊆ t.trace) :
    t.Shown id plaintext := by
  obtain ⟨d, mem, same⟩ := h
  exact ⟨d, List.filterMap_subset _ grown mem, same⟩

theorem Task.Vouched.mono {task : Task} (h : task.Vouched s) (grown : s.trace ⊆ t.trace) : task.Vouched t := by
  cases task with
  | respond id ok data caches observed seq => exact Session.Vouched.mono h grown
  | _ => trivial

theorem Task.vouched_of_kind {task : Task} (other : task.kind ≠ .sending) : task.Vouched s := by
  cases task with
  | respond id ok data caches observed seq => exact absurd rfl other
  | _ => trivial

/-- Nothing is recorded and nothing new waits. -/
theorem Session.Rests.fewer (h : s.Rests C) (trace : t.trace = s.trace) (calls : ∀ c ∈ t.journal.calls, c.task.Vouched s) :
    t.Rests C := by
  have grown : s.trace ⊆ t.trace := trace ▸ List.Subset.refl _
  constructor
  · intro frame mem answers
    rw [Session.sealedFrames, trace] at mem
    exact (h.sealed frame mem answers).mono grown
  · exact fun c mem => (calls c mem).mono grown
  · intro id plaintext mem
    rw [trace] at mem
    exact (h.prompted id plaintext mem).mono grown
  · intro before id result mem
    rw [trace] at mem
    exact h.ordered before id result mem

/-- The caches hold nothing new either. -/
theorem Session.Vouches.fewer (h : s.Vouches C) (trace : t.trace = s.trace)
    (calls : ∀ c ∈ t.journal.calls, c.task.Vouched s)
    (cached : ∀ id entry, t.idempotencyCache.get id = some entry → s.idempotencyCache.get id = some entry)
    (broadcast : ∀ id entry, t.broadcastResponseCache.get id = some entry → s.broadcastResponseCache.get id = some entry) :
    t.Vouches C := by
  have grown : s.trace ⊆ t.trace := trace ▸ List.Subset.refl _
  refine ⟨h.toRests.fewer trace calls, fun id entry found small => ?_, fun id entry found => ?_⟩
  · exact (h.cached id entry (cached id entry found) small).mono grown
  · exact (h.broadcast id entry (broadcast id entry found)).mono grown

/-- What has to hold for this to be recorded. -/
def Obs.Allowed (C : Crypto) (s : Session) : Obs → Prop
  | .sealing frame => frame.header.type = .res → s.Founded C frame
  | .prompting id plaintext => s.Shown id plaintext
  | .approving id _ => ∃ plaintext, .prompting id plaintext ∈ s.trace
  | _ => True

theorem Session.Rests.note (h : s.Rests C) {o : Obs} (allowed : o.Allowed C s) :
    Session.Rests C { s with trace := s.trace ++ [o] } := by
  have grown : s.trace ⊆ s.trace ++ [o] := List.subset_append_left _ _
  refine ⟨?_, fun c mem => (h.waiting c mem).mono grown, ?_, ?_⟩
  · intro frame mem answers
    have found : s.Founded C frame := by
      obtain ⟨p, member, shape⟩ := List.mem_filterMap.mp mem
      rcases List.mem_append.mp member with old | new
      · exact h.sealed frame (List.mem_filterMap.mpr ⟨p, old, shape⟩) answers
      · rw [List.mem_singleton.mp new] at shape
        cases o with
        | sealing made =>
          cases shape
          exact allowed answers
        | _ => cases shape
    exact found.mono grown
  · intro id plaintext mem
    have shown : s.Shown id plaintext := by
      rcases List.mem_append.mp mem with old | new
      · exact h.prompted id plaintext old
      · rw [← List.mem_singleton.mp new] at allowed
        exact allowed
    exact shown.mono grown
  · intro before id result mem
    rcases List.prefix_concat_iff.mp mem with last | old
    · obtain ⟨rfl, same⟩ := List.append_inj' last rfl
      rw [← (List.cons.inj same).1] at allowed
      exact allowed
    · exact h.ordered before id result old

theorem Session.Vouches.note (h : s.Vouches C) {o : Obs} (allowed : o.Allowed C s) :
    Session.Vouches C { s with trace := s.trace ++ [o] } :=
  ⟨h.toRests.note allowed, fun id entry found small => (h.cached id entry found small).mono (List.subset_append_left _ _),
    fun id entry found => (h.broadcast id entry found).mono (List.subset_append_left _ _)⟩

theorem Obs.allowed_of_kind {o : Obs} (sends : o.kind ≠ .sending) (caches : o.kind ≠ .caching) : o.Allowed C s := by
  cases o with
  | sealing frame => exact absurd rfl sends
  | prompting id plaintext => exact absurd rfl caches
  | approving id result => exact absurd rfl caches
  | _ => trivial

theorem Session.Rests.enqueue (h : s.Rests C) {write : Option Snapshot} {task : Task} (vouched : task.Vouched s) :
    Session.Rests C { s with ticket := s.ticket + 1, journal := s.journal.enqueue s.ticket write task } := by
  refine h.fewer rfl fun c mem => ?_
  rcases List.mem_append.mp mem with old | new
  · exact h.waiting c old
  · rw [List.mem_singleton.mp new]
    exact vouched

theorem Session.Vouches.enqueue (h : s.Vouches C) {write : Option Snapshot} {task : Task} (vouched : task.Vouched s) :
    Session.Vouches C { s with ticket := s.ticket + 1, journal := s.journal.enqueue s.ticket write task } :=
  ⟨h.toRests.enqueue vouched, h.cached, h.broadcast⟩

theorem rests_of_move {k : Kind} (sends : k ≠ .sending) (caches : k ≠ .caching) (move : Move s k t) (h : s.Rests C) :
    t.Rests C := by
  cases move with
  | note o => exact h.note (Obs.allowed_of_kind sends caches)
  | save task snapshot adapter configured async current => exact h.enqueue (Task.vouched_of_kind sends)
  | clear adapter configured async => exact h.enqueue trivial
  | put task snapshot adapter configured sync current => exact h.fewer rfl h.waiting
  | wipe adapter configured sync => exact h.fewer rfl h.waiting
  | _ => exact h.fewer rfl h.waiting

theorem vouches_of_move {k : Kind} (sends : k ≠ .sending) (caches : k ≠ .caching) (move : Move s k t) (h : s.Vouches C) :
    t.Vouches C := by
  have grown : s.trace ⊆ t.trace := by
    cases move with
    | note o => exact List.subset_append_left _ _
    | _ => exact List.Subset.refl _
  have rests := rests_of_move sends caches move h.toRests
  cases move with
  | cache pending idempotency broadcast => exact absurd rfl caches
  | forget => exact ⟨rests, fun id entry found => (nomatch found), fun id entry found => (nomatch found)⟩
  | _ =>
    exact ⟨rests, fun id entry found small => (h.cached id entry found small).mono grown,
      fun id entry found => (h.broadcast id entry found).mono grown⟩

theorem vouches_of_moves {α : Type} {m : M α} {ok : Kind → Prop} (sends : ¬ ok .sending) (caches : ¬ ok .caching)
    (made : Keeps (Moves ok) m) : Keeps (Preserve (Session.Vouches C)) m := by
  refine preserve_of_moves made fun s t k allowed move h => vouches_of_move ?_ ?_ move h
  · rintro rfl
    exact allowed.elim nofun sends
  · rintro rfl
    exact allowed.elim nofun caches

/-- What neither sends nor caches. -/
theorem plain_vouches {α : Type} {m : M α} (made : Keeps (Moves fun k => k ≠ .sending ∧ k ≠ .caching) m) :
    Keeps (Preserve (Session.Vouches C)) m := vouches_of_moves (by simp) (by simp) made

theorem record_vouches {o : Obs} (allowed : ∀ s : Session, o.Allowed C s) : Keeps (Preserve (Session.Vouches C)) (record o) :=
  fun s h => h.note (allowed s)

theorem emit_vouches (event : Event) : Keeps (Preserve (Session.Vouches C)) (emit event) := by
  refine .bind .get fun s => .ite (.pure _) (.bind (record_vouches fun _ => trivial) fun _ => ?_)
  have field {f : Session → Session} (same : ∀ s, f s = s.adjusted (f s)) : Keeps (Preserve (Session.Vouches C)) (modify f : M Unit) :=
    plain_vouches (moves_adjusting same)
  cases s.inputs.throws with
  | nil => exact .pure _
  | cons throws rest => exact .bind (field fun _ => rfl) fun _ => .ite (.throw _) (.pure _)

theorem persistSnapshot_vouches {task : Task} {P : Session → Prop}
    (vouched : ∀ s, P s → s.Vouches C ∧ task.Vouched s) :
    Triple P (persistSnapshot task) (fun _ => Session.Vouches C) (Session.Vouches C) := by
  intro s held
  obtain ⟨h, mine⟩ := vouched s held
  rcases persistSnapshot_cases task s with
    ⟨-, run⟩ | ⟨adapter, -, -, run⟩ | ⟨adapter, snap, -, -, -, run⟩ | ⟨adapter, snap, -, -, -, run⟩
  · rw [run]
    exact h
  · rw [run]
    exact h
  · rw [run]
    exact h.enqueue mine
  · rw [run]
    exact h.fewer rfl h.waiting (fun _ _ => id) fun _ _ => id

/-! ### Caches -/

theorem get_evict {α : Type} {limit fuel : Nat} {m : OrderedMap α} {key : String} {v : α}
    (found : (evict limit fuel m).get key = some v) : m.get key = some v := by
  induction fuel generalizing m with
  | zero => exact found
  | succ fuel ih =>
    rw [evict] at found
    split_ifs at found with large
    · cases first : m.oldest with
      | none =>
        rw [first] at found
        exact found
      | some oldest =>
        rw [first] at found
        dsimp only at found
        split_ifs at found with unnamed
        · exact found
        · exact OrderedMap.get_of_delete (ih found)
    · exact found

theorem get_of_set {α : Type} {m : OrderedMap α} {k key : String} {v w : α} (found : (m.set k v).get key = some w) :
    key = k ∧ w = v ∨ m.get key = some w := by
  by_cases same : key = k
  · subst same
    rw [OrderedMap.get_set_self] at found
    exact Or.inl ⟨rfl, (Option.some.inj found).symm⟩
  · rw [OrderedMap.get_set_of_ne same] at found
    exact Or.inr found

/-- The caches take an entry that is vouched for. -/
theorem Session.Vouches.caches (h : s.Vouches C) {pending : OrderedMap PendingRequestRecord}
    {idempotency broadcast : OrderedMap CachedRequestResponse}
    (cached : ∀ id entry, idempotency.get id = some entry → entry.tooLarge = false → s.Vouched id entry.ok entry.data)
    (kept : ∀ id entry, broadcast.get id = some entry → s.Vouched id entry.ok entry.data) :
    Session.Vouches C { s with
      pendingRequestRecords := pending, idempotencyCache := idempotency, broadcastResponseCache := broadcast } :=
  ⟨⟨h.sealed, h.waiting, h.prompted, h.ordered⟩, cached, kept⟩

theorem cacheProcessedResponse_vouches (id : String) (ok : Bool) (data : Option Json) :
    Triple (fun s => s.Vouches C ∧ s.Vouched id ok data) (cacheProcessedResponse id ok data) (fun _ => Session.Vouches C)
      (Session.Vouches C) := by
  have noted (o : Obs) (allowed : ∀ s : Session, o.Allowed C s) :
      Triple (fun s => s.Vouches C ∧ s.Vouched id ok data) (record o) (fun _ s => s.Vouches C ∧ s.Vouched id ok data)
        (Session.Vouches C) :=
    .modify fun s held => ⟨held.1.note (allowed s), held.2.mono (List.subset_append_left _ _)⟩
  refine .read fun s ⟨h, vouched⟩ => ?_
  cases s.pendingRequestRecords.get id with
  | none => exact .pure fun _ same => same ▸ h
  | some pending =>
    refine .bind (Q := fun _ t => t.Vouches C ∧ t.Vouched id ok data) (.modify fun t same => ?_) fun _ =>
      .bind (noted (.recorded id _) fun _ => trivial) fun _ => .ite (fun _ => ?_) fun _ => .pure fun _ held => held.1
    · subst same
      refine ⟨h.caches (fun key entry found small => ?_) h.broadcast, vouched⟩
      rcases get_of_set (get_evict found) with ⟨rfl, rfl⟩ | old
      · have whole : responseTooLarge data = false := small
        simpa [whole] using vouched
      · exact h.cached key entry old small
    · refine .bind (Q := fun _ t => t.Vouches C ∧ t.Vouched id ok data) (.modify fun t held => ?_) fun _ =>
        (noted (.broadcast id) fun _ => trivial).mono (fun _ held => held) (fun _ _ held => held.1) fun _ held => held
      refine ⟨held.1.caches held.1.cached fun key entry found => ?_, held.2⟩
      rcases get_of_set (get_evict found) with ⟨rfl, rfl⟩ | old
      · exact held.2
      · exact held.1.broadcast key entry old

/-- Using an entry again only moves it to the end. -/
theorem touchIdempotencyEntry_vouches {id : String} {entry : CachedRequestResponse} :
    Triple (fun s => s.Vouches C ∧ s.idempotencyCache.get id = some entry) (touchIdempotencyEntry id entry)
      (fun _ => Session.Vouches C) (Session.Vouches C) := by
  refine .bind (Q := fun _ => Session.Vouches C) (.modify fun s ⟨h, known⟩ => ?_) fun _ =>
    .preserve (record_vouches fun _ => trivial)
  refine h.caches (fun key other found small => ?_) h.broadcast
  rcases get_of_set found with ⟨rfl, rfl⟩ | old
  · exact h.cached _ _ known small
  · exact h.cached key other (OrderedMap.get_of_delete old) small

/-! ### Answers -/

section Answers
variable (C)

theorem vouched_kept {α : Type} {m : M α} (made : Keeps (Moves fun _ => True) m) (id : String) (ok : Bool)
    (data : Option Json) : Keeps (Preserve fun s : Session => s.Vouched id ok data) m :=
  fun s held => held.mono (grows_of_moves made s).subset

theorem nextSendSeq_vouches (task : Nat → Task) : Triple (fun s => s.Vouches C ∧ ∀ n, (task n).Vouched s) (nextSendSeq task)
    (fun _ => Session.Vouches C) (Session.Vouches C) := by
  refine .read fun s ⟨h, vouched⟩ => .ite (fun _ => ?_) fun _ => ?_
  · have ends : Keeps (Preserve (Session.Vouches C)) (close "normal") := plain_vouches (close_moves _)
    exact .start (.bind (.preserve (emit_vouches _)) fun _ => .bind (.preserve ends) fun _ => .pure fun _ held => held) h
  · refine .bind (Q := fun _ t => t.Vouches C ∧ (task s.sendSeq).Vouched t) (.modify fun t same => ?_) fun _ =>
      .bind (persistSnapshot_vouches fun _ held => held) fun waits => .ite
        (fun _ => .pure fun _ held => held) fun _ => .pure fun _ held => held
    subst same
    exact ⟨h.fewer rfl h.waiting (fun _ _ => id) fun _ _ => id, vouched _⟩

theorem sendRaw_vouches (body : Body) (frame : Option Sealed) : Keeps (Preserve (Session.Vouches C)) (sendRaw body frame) :=
  .bind .get fun _ => .bind .get fun _ => .ite (emit_vouches _) (record_vouches fun _ => trivial)

/-- A frame may be sealed whose text is that of an answer that may be given. -/
theorem sendSealed_vouches {P : Session → Prop} {type : AadType} {id : String} {seq : Nat} {payload : Json}
    {body : Option String → Body} (founded : ∀ s, P s → s.Vouches C ∧ ∀ frame : Sealed, frame.header.type = .res → type = .res →
      frame.header.id = id → (∃ text, canonicalJson C (some payload) = .ok text ∧ frame.plaintext = utf8ToBytes text) →
      s.Founded C frame) :
    Triple P (sendSealed C type id seq payload body) (fun _ => Session.Vouches C) (Session.Vouches C) := by
  refine .read fun s held => ?_
  obtain ⟨h, founds⟩ := founded s held
  cases s.sendKey with
  | none => exact .pure fun _ same => same ▸ h
  | some sendKey =>
    dsimp only
    cases sealing : sealPayload C sendKey s.channelId seq payload ⟨type, s.pubKeyB64, id⟩ with
    | error e => exact .throw fun _ same => same ▸ h
    | ok made =>
      refine .bind (Q := fun _ => Session.Vouches C) (.at_state (h.note ?_)) fun _ =>
        .bind (.preserve (sendRaw_vouches C _ _)) fun _ => .pure fun _ kept => kept
      exact fun answers => founds _ answers answers rfl (sealPayload_text sealing).2

theorem sendAnswer_vouches (id : String) (ok : Bool) (data : Option Json) (caches : Bool) (seq : Nat) :
    Triple (fun s => s.Vouches C ∧ s.Vouched id ok data) (sendAnswer C id ok data caches seq) (fun _ => Session.Vouches C)
      (Session.Vouches C) := by
  have sealing : Triple (fun s => s.Vouches C ∧ s.Vouched id ok data)
      (sendSealed C .res id seq (responsePayload ok data) (.res (some id))) (fun _ => Session.Vouches C) (Session.Vouches C) := by
    refine sendSealed_vouches C fun s held => ⟨held.1, fun frame _ _ named shown => ?_⟩
    obtain ⟨text, printed, same⟩ := shown
    exact ⟨ok, data, text, printed, same, named ▸ held.2⟩
  have both := sealing.and_keeps (vouched_kept
    (sendSealed_moves C trivial .res id seq (responsePayload ok data) (.res (some id))) id ok data)
  refine .bind (both.mono (fun _ held => ⟨held, held.2⟩) (fun _ _ held => held) fun _ held => held.1) fun sent => .ite
    (fun _ => .bind (cacheProcessedResponse_vouches id ok data) fun _ => .pure fun _ held => held)
    fun _ => .pure fun _ held => held.1

theorem sendResponse_vouches (id : String) (ok : Bool) (data : Option Json) (caches observed : Bool) :
    Triple (fun s => s.Vouches C ∧ s.Vouched id ok data) (sendResponse C id ok data caches observed)
      (fun _ => Session.Vouches C) (Session.Vouches C) := by
  refine .read fun s held => .ite (fun _ => .pure fun _ same => same ▸ held.1) fun _ =>
    .start (P := fun t => t.Vouches C ∧ t.Vouched id ok data) ?_ held
  have reserving := (nextSendSeq_vouches C (.respond id ok data caches observed)).and_keeps
    (vouched_kept (nextSendSeq_moves trivial _ fun _ => rfl) id ok data)
  refine .bind (reserving.mono (fun _ kept => ⟨⟨kept.1, fun _ => kept.2⟩, kept.2⟩) (fun _ _ kept => kept)
    fun _ kept => kept.1) fun reserved => ?_
  cases reserved with
  | exhausted => exact .pure fun _ kept => kept.1
  | reserved seq => exact .bind (sendAnswer_vouches C id ok data caches seq) fun _ => .pure fun _ kept => kept
  | waits => exact .pure fun _ kept => kept.1

/-- A no needs no approval. -/
theorem reject_vouches (id code message : String) (observed : Bool) :
    Keeps (Preserve (Session.Vouches C)) (reject C id code message observed) :=
  ((sendResponse_vouches C id false _ true observed).mono (fun _ h => ⟨h, code, message, rfl⟩) (fun _ _ h => h) fun _ h => h).keeps

theorem approve_vouches (id : String) (result : Option Json) :
    Triple (fun s => s.Vouches C ∧ ∃ plaintext, .prompting id plaintext ∈ s.trace) (approve C id result)
      (fun _ => Session.Vouches C) (Session.Vouches C) :=
  .bind (Q := fun _ s => s.Vouches C ∧ s.Vouched id true result)
    (.modify fun s held => ⟨held.1.note (o := .approving id result) held.2, List.mem_append_right s.trace (List.mem_singleton.mpr rfl)⟩) fun _ =>
    sendResponse_vouches C id true result true false

theorem pushEvent_vouches (name : String) (data : Option Json) : Keeps (Preserve (Session.Vouches C)) (pushEvent C name data) := by
  have sends (evtId : String) (seq : Nat) : Triple (Session.Vouches C) (sendEvent C name data evtId seq)
      (fun _ => Session.Vouches C) (Session.Vouches C) :=
    .bind (sendSealed_vouches C fun s h => ⟨h, fun _ _ answers => nomatch answers⟩) fun _ => .pure fun _ held => held
  refine .bind .get fun s => .ite (.pure _) ?_
  refine .bind (Triple.keeps ((nextSendSeq_vouches C _).mono (fun _ h => ⟨h, fun _ => trivial⟩) (fun _ _ h => h) fun _ h => h))
    fun reserved => .bind (fun _ h => h.fewer rfl h.waiting (fun _ _ => id) fun _ _ => id) fun _ => ?_
  cases reserved with
  | reserved seq => exact (sends _ seq).keeps
  | exhausted => exact .pure _
  | waits => exact .pure _

/-! ### Requests -/

theorem replay_vouches (id : String) (entry : CachedRequestResponse) :
    Triple (fun s => s.Vouches C ∧ s.Vouched id entry.ok entry.data) (replay C id entry) (fun _ => Session.Vouches C)
      (Session.Vouches C) :=
  .bind (Q := fun _ s => s.Vouches C ∧ s.Vouched id entry.ok entry.data)
    (.modify fun _ held => ⟨held.1.note (o := .answering id entry.ok entry.data) trivial, held.2.mono (List.subset_append_left _ _)⟩) fun _ =>
    sendResponse_vouches C id entry.ok entry.data false true

theorem promptRequest_vouches (id method : String) (params : Json) (paramsHash : String) (plaintext : Bytes) :
    Triple (fun s => s.Vouches C ∧ s.Shown id plaintext) (promptRequest C id method params paramsHash plaintext)
      (fun _ => Session.Vouches C) (Session.Vouches C) := by
  have refused (code message : String) : Triple (fun s => s.Vouches C ∧ s.Shown id plaintext) (reject C id code message true)
      (fun _ => Session.Vouches C) (Session.Vouches C) :=
    (Triple.preserve (reject_vouches C _ _ _ _)).mono (fun _ held => held.1) (fun _ _ h => h) fun _ h => h
  refine .read fun s held => ?_
  cases s.pendingRequestRecords.get id with
  | some pending => exact .ite (fun _ => .pure fun _ same => same ▸ held.1) fun _ => (refused _ _).start held
  | none =>
    refine .ite (fun _ => (refused _ _).start held) fun _ =>
      .start (P := fun t => t.Vouches C ∧ t.Shown id plaintext) ?_ held
    refine .bind (Q := fun _ t => t.Vouches C ∧ t.Shown id plaintext) (.modify fun t kept => ?_) fun _ =>
      .bind (Q := fun _ => Session.Vouches C) (.modify fun t kept => kept.1.note kept.2) fun _ => .preserve (emit_vouches _)
    exact ⟨kept.1.caches kept.1.cached kept.1.broadcast, kept.2⟩

theorem dispatchRequest_vouches (id method : String) (params : Json) (paramsHash : String) (plaintext : Bytes) :
    Triple (fun s => s.Vouches C ∧ s.Shown id plaintext) (dispatchRequest C id method params paramsHash plaintext)
      (fun _ => Session.Vouches C) (Session.Vouches C) := by
  have refused : Triple (fun s => s.Vouches C ∧ s.Shown id plaintext) (duplicateMismatch C id)
      (fun _ => Session.Vouches C) (Session.Vouches C) :=
    (Triple.preserve (reject_vouches C _ _ _ _)).mono (fun _ held => held.1) (fun _ _ h => h) fun _ h => h
  refine .read fun s held => ?_
  cases recent : s.broadcastResponseCache.get id with
  | some cachedBroadcast =>
    exact .ite (fun _ => (replay_vouches C id cachedBroadcast).start ⟨held.1, held.1.broadcast id cachedBroadcast recent⟩)
      fun _ => refused.start held
  | none =>
    dsimp only
    cases known : s.idempotencyCache.get id with
    | none => exact (promptRequest_vouches C id method params paramsHash plaintext).start held
    | some cached =>
      refine .ite (fun _ => ?_) fun _ => refused.start held
      have grows : Keeps Grows (touchIdempotencyEntry id cached) := fun t => List.prefix_append t.trace _
      have touched : Triple (fun t => t = s) (touchIdempotencyEntry id cached)
          (fun _ t => t.Vouches C ∧ s.trace ⊆ t.trace) (Session.Vouches C) :=
        ((touchIdempotencyEntry_vouches.and (Triple.of_keeps (P := fun t => t = s) (Q := fun t => s.trace ⊆ t.trace) grows
          fun _ _ grown same => same ▸ grown.subset)).mono (fun _ same => ⟨same ▸ ⟨held.1, known⟩, same⟩)
          (fun _ _ kept => kept) fun _ kept => kept.1)
      refine .bind touched fun _ => .ite (fun _ => ?_) fun small => ?_
      · exact (promptRequest_vouches C id method params paramsHash plaintext).mono
          (fun _ kept => ⟨kept.1, held.2.mono kept.2⟩) (fun _ _ h => h) fun _ h => h
      · exact (replay_vouches C id cached).mono
          (fun _ kept => ⟨kept.1, (held.1.cached id cached known (by simpa using small)).mono kept.2⟩)
          (fun _ _ h => h) fun _ h => h

theorem deliverRequest_vouches (frame : Delivery) (data : Json) :
    Keeps (Preserve (Session.Vouches C)) (deliverRequest C frame data) := by
  have refused (code message : String) : Triple (fun s => s.Vouches C ∧ s.Shown frame.id frame.plaintext)
      (reject C frame.id code message true) (fun _ => Session.Vouches C) (Session.Vouches C) :=
    (Triple.preserve (reject_vouches C _ _ _ _)).mono (fun _ held => held.1) (fun _ _ h => h) fun _ h => h
  refine Triple.keeps (.bind (Q := fun _ s => s.Vouches C ∧ s.Shown frame.id frame.plaintext) (.modify fun s h => ?_)
    fun _ => .read fun s held => ?_)
  · refine ⟨h.note trivial, frame, ?_, rfl, rfl⟩
    simp [Session.deliveries, Obs.delivery]
  · cases methodOf data with
    | none => exact (refused _ _).start held
    | some method =>
      exact .ite (fun _ => (dispatchRequest_vouches C _ _ _ _ _).start held) fun _ => (refused _ _).start held

theorem openRequest_vouches (recvKey : Bytes) (sender id envelope : String) :
    Keeps (Preserve (Session.Vouches C)) (openRequest C recvKey sender id envelope) :=
  .bind .get fun _ => .bind (.runExcept _) fun _ => .ite (.pure _)
    (.bind (plain_vouches (moves_of (fun _ => .receive _) (Or.inr (by decide)))) fun _ =>
      .bind (Triple.keeps (persistSnapshot_vouches fun _ h => ⟨h, trivial⟩)) fun _ =>
      .ite (.pure _) (deliverRequest_vouches C _ _))

theorem handleRequest_vouches (sender : String) (id envelope : Option String) :
    Keeps (Preserve (Session.Vouches C)) (handleRequest C sender id envelope) := by
  refine .bind .get fun s => .ite (.pure _) ?_
  cases nonEmpty id with
  | none => exact .pure _
  | some id =>
    dsimp only
    split
    · exact .tryCatch (openRequest_vouches C _ _ _ _) fun _ => reject_vouches C _ _ _ _
    · exact reject_vouches C _ _ _ _

theorem handleMessage_vouches (msg : ProtocolMessage) : Keeps (Preserve (Session.Vouches C)) (handleMessage C msg) := by
  by_cases serves : .sending ∈ messageKinds msg.body
  · obtain ⟨v, ch, ts, sender, body⟩ := msg
    cases body with
    | req id envelope =>
      exact .ite (emit_vouches _) (.ite (plain_vouches (close_moves _)) (handleRequest_vouches C _ _ _))
    | _ => simp [messageKinds] at serves
  · refine vouches_of_moves serves ?_ (handleMessage_moves C msg)
    intro caches
    cases shape : msg.body with
    | req id envelope => exact serves (by simp [shape, messageKinds])
    | _ => simp [shape, messageKinds] at caches

/-! ### Steps -/

theorem resume_vouches {task : Task} {s : Session} (h : s.Vouches C) (vouched : task.Vouched s) :
    Triple (fun t => t = s) (resume C task) (fun _ => Session.Vouches C) (Session.Vouches C) := by
  have wrapped (error : String) : Keeps (Preserve (Session.Vouches C)) (persistenceError error) :=
    plain_vouches (persistenceError_moves error)
  cases task with
  | respond id ok data caches observed seq =>
    refine .tryCatch (.start (.bind (sendAnswer_vouches C id ok data caches seq) fun _ => .pure fun _ held => held)
      (⟨h, vouched⟩ : _ ∧ _)) fun _ => .preserve (plain_vouches (observeSend_moves _ _))
  | event name data evtId seq =>
    refine .tryCatch (.start (.bind (sendSealed_vouches C (P := Session.Vouches C) fun s held => ⟨held, fun _ _ answers => nomatch answers⟩)
      fun _ => .pure fun _ held => held) h) fun _ => .pure fun _ held => held
  | request frame data prev =>
    refine .tryCatch ((Triple.preserve (deliverRequest_vouches C frame data)).start h) fun e => .preserve ?_
    exact .bind (plain_vouches (moves_of (fun _ => .receive _) (Or.inr (by decide)))) fun _ =>
      .bind (wrapped e) fun _ => emit_vouches _
  | _ => exact .start (.preserve (plain_vouches (resume_moves C _ ⟨nofun, nofun⟩ nofun nofun))) h

/-- No answer is kept. -/
def Session.Emptied (s : Session) : Prop := s.idempotencyCache = .empty ∧ s.broadcastResponseCache = .empty

/-- Whatever a snapshot holds, it holds no answers. -/
theorem restoreSafely_emptied (d : Snapshot) : Keeps (Preserve Session.Emptied) (restoreSafely C d) := by
  have remote : Keeps (Preserve Session.Emptied) (restoreRemote d.remotePubKeyB64) := by
    unfold restoreRemote
    split
    · exact fun _ held => held
    · split
      · exact .throw _
      · exact fun _ held => held
  have opens : Keeps (Preserve Session.Emptied) (setPhase .connected) := by
    refine preserve_of_moves (setPhase_moves _ (Or.inr rfl) : Keeps (Moves (· = .phase .connected)) _)
      fun s t k allowed move held => ?_
    cases move with
    | cache pending idempotency broadcast => rcases allowed with quiet | shown <;> contradiction
    | forget => exact ⟨rfl, rfl⟩
    | _ => exact held
  exact .tryCatch (.ite (.pure _) (.bind (fun _ held => held) fun _ => .bind remote fun _ =>
    .bind (fun _ held => held) fun _ => .ite (.pure _) (.bind (fun _ held => held) fun _ => .bind .get fun _ =>
      .bind (.runExcept _) fun _ => .ite (.bind (fun _ held => held) fun _ => .bind opens fun _ => .pure _) (.pure _))))
    fun _ => .pure _

/-- A process that starts again has no answers to repeat. -/
theorem restart_emptied (s : Session) : (after (restart C) s).Emptied := by
  refine Triple.final (P := fun _ => True) (.bind (Q := fun _ => Session.Emptied) (.modify fun _ _ => ⟨rfl, rfl⟩) fun _ =>
    .read fun t held => ?_) trivial
  cases t.journal.disk.contents with
  | none => exact .pure fun _ same => same ▸ held
  | some snapshot =>
    exact .start (.bind (.preserve (restoreSafely_emptied C snapshot)) fun _ => .pure fun _ kept => kept) held

theorem restart_keeps_rests (s : Session) (h : s.Rests C) : (after (restart C) s).Rests C := by
  have opens : Keeps (Preserve (Session.Rests C)) (setPhase .connected) := by
    refine preserve_of_moves (setPhase_moves _ (Or.inr rfl) : Keeps (Moves (· = .phase .connected)) _)
      fun s t k allowed move held => rests_of_move ?_ ?_ move held
    · rintro rfl
      exact allowed.elim nofun nofun
    · rintro rfl
      exact allowed.elim nofun nofun
  exact restart_keeps C opens (fun calls trace held => held.fewer trace fun c mem => by
    obtain ⟨b, old, same⟩ := calls c mem
    exact same ▸ held.waiting b old) _ h

/-- The application answers only what it was asked. -/
def OnlyAsked (s : Session) (l : Inputs × Label) : Prop :=
  match l.2 with
  | .approve id _ => ∃ plaintext, .prompting id plaintext ∈ s.trace
  | _ => True

def Obs.asksFor (id : String) : Obs → Bool
  | .prompting other _ => other = id
  | _ => false

theorem asked_iff {id : String} : s.trace.any (Obs.asksFor id) = true ↔ ∃ plaintext, .prompting id plaintext ∈ s.trace := by
  simp only [List.any_eq_true]
  constructor
  · rintro ⟨o, mem, asks⟩
    cases o with
    | prompting other plaintext =>
      have same : other = id := by simpa [Obs.asksFor] using asks
      exact ⟨plaintext, same ▸ mem⟩
    | _ => cases asks
  · rintro ⟨plaintext, mem⟩
    exact ⟨_, mem, by simp [Obs.asksFor]⟩

instance (s : Session) (l : Inputs × Label) : Decidable (OnlyAsked s l) := by
  unfold OnlyAsked
  split
  · exact decidable_of_iff _ asked_iff
  · infer_instance

theorem step_vouches {l : Inputs × Label} (inPairing : InPairing s l) (asked : OnlyAsked s l) (h : s.Vouches C) :
    (step C s l).Vouches C := by
  obtain ⟨inputs, label⟩ := l
  have start : Session.Vouches C { s with inputs := inputs } := h.fewer rfl h.waiting (fun _ _ => id) fun _ _ => id
  by_cases plain : label.moving = true ∧ Kind.sending ∉ label.kinds
  · refine vouches_of_moves plain.2 ?_ (act_moves C label plain.1) _ start
    intro caches
    cases label with
    | message msg =>
      cases shape : msg.body with
      | req id envelope => exact plain.2 (by simp [Label.kinds, shape, messageKinds])
      | _ => simp [Label.kinds, shape, messageKinds] at caches
    | _ => simp_all [Label.kinds]
  · cases label with
    | prepareJoin parsed privateKey => exact inPairing.elim
    | restore snapshot => exact inPairing.elim
    | destroy => exact inPairing.elim
    | approve id result => exact (approve_vouches C id result).final ⟨start, asked⟩
    | reject id code message => exact reject_vouches C _ _ _ _ _ start
    | pushEvent name data => exact pushEvent_vouches C _ _ _ start
    | message msg => exact handleMessage_vouches C msg _ start
    | flush ticket =>
      refine start.fewer rfl (fun c mem => ?_) (fun _ _ => id) fun _ _ => id
      obtain ⟨b, old, same, -⟩ := Journal.mem_flush mem
      exact same ▸ start.waiting b old
    | settle ticket resolves =>
      refine Triple.final (P := fun t => t = { s with inputs := inputs }) (settleCall_rule C (fun t same => same ▸ start)
        (fun _ t call same found _ => ?_) fun rejected => ?_) rfl
      · subst same
        have removed := start.fewer (t := { s with inputs := inputs, journal := s.journal.remove ticket }) rfl
          (fun c mem => start.waiting c (List.mem_filter.mp mem).1) (fun _ _ => id) fun _ _ => id
        exact resume_vouches C removed (start.waiting call (Journal.mem_of_find found).1)
      · rw [inPairing.1] at rejected
        cases rejected
    | crash =>
      have emptied := restart_emptied C { s with inputs := inputs }
      refine ⟨restart_keeps_rests C _ start.toRests, fun id entry found => ?_, fun id entry found => ?_⟩
      · change (after (restart C) _).idempotencyCache.get id = some entry at found
        rw [emptied.1] at found
        cases found
      · change (after (restart C) _).broadcastResponseCache.get id = some entry at found
        rw [emptied.2] at found
        cases found
    | _ => simp [Label.moving, Label.kinds] at plain

end Answers

end WalletPair.Sdk.Wallet
