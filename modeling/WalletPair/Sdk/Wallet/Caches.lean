import WalletPair.Lib.Recency
import WalletPair.Sdk.Wallet.Refusals
import WalletPair.Sdk.Wallet.Books
import WalletPair.Sdk.Wallet.Link

/-! The response caches of the wallet as lists of ids in the order they are evicted in. The
eviction loops keep them below their limits in every run. They hold the most recently used
ids as long as every use also moves the id to the end. -/

namespace WalletPair.Sdk.Wallet
open WalletPair.Lib WalletPair.Lib.Program

/-! ### Eviction -/

/-- Deleting the oldest key leaves the others in their order. -/
theorem keys_delete_oldest {α : Type} {m : OrderedMap α} {key : String} {rest : List String} (split : m.keys = key :: rest) :
    (m.delete key).keys = rest := by
  have nodup : m.keys.Nodup := m.nodup
  rw [OrderedMap.keys_delete, ← List.Nodup.erase_eq_filter nodup, split, List.erase_cons_head]

/-- As many turns as there are entries leave the newest ones. -/
theorem keys_evict {α : Type} (limit fuel : Nat) (m : OrderedMap α) (named : "" ∉ m.keys) (enough : m.size ≤ fuel) :
    (evict limit fuel m).keys = m.keys.rtake limit := by
  induction fuel generalizing m with
  | zero =>
    have empty : m.keys.length ≤ limit := by
      rw [← OrderedMap.size_eq_keys]
      omega
    rw [rtake_of_le empty]
    rfl
  | succ fuel ih =>
    unfold evict
    by_cases full : m.size > limit
    · rw [if_pos full]
      cases split : m.keys with
      | nil =>
        rw [OrderedMap.size_eq_keys, split] at full
        cases full
      | cons key rest =>
        have first : m.oldest = some key := by
          unfold OrderedMap.oldest
          rw [split]
          rfl
        have some : key ≠ "" := by
          rintro rfl
          exact named (split ▸ List.mem_cons_self)
        have left : (m.delete key).keys = rest := keys_delete_oldest split
        rw [first]
        dsimp only
        rw [if_neg some, ih, left]
        · have longer : limit ≤ rest.length := by
            rw [OrderedMap.size_eq_keys, split, List.length_cons] at full
            omega
          exact (rtake_append longer [key]).symm
        · rw [left]
          intro empty
          exact named (split ▸ List.mem_cons_of_mem _ empty)
        · rw [OrderedMap.size_eq_keys, left]
          rw [OrderedMap.size_eq_keys, split, List.length_cons] at enough
          omega
    · rw [if_neg full]
      have short : m.keys.length ≤ limit := by
        rw [← OrderedMap.size_eq_keys]
        omega
      rw [rtake_of_le short]

/-- The eviction loop ends within as many turns as there are entries: more make no difference. -/
theorem evict_ends {α : Type} (limit fuel : Nat) (m : OrderedMap α) (enough : m.size ≤ fuel) :
    evict limit fuel m = evict limit m.size m := by
  -- one more turn than there are entries makes no difference
  have again (fuel : Nat) : ∀ m : OrderedMap α, m.size ≤ fuel → evict limit (fuel + 1) m = evict limit fuel m := by
    induction fuel with
    | zero =>
      intro m empty
      unfold evict
      rw [if_neg (by omega)]
    | succ fuel ih =>
      intro m enough
      rw [evict, evict]
      by_cases full : m.size > limit
      · rw [if_pos full, if_pos full]
        cases first : m.oldest with
        | none => rfl
        | some oldest =>
          have known : oldest ∈ m.keys := List.mem_of_mem_head? first
          have fewer := OrderedMap.size_delete known
          dsimp only
          rw [ih (m.delete oldest) (by omega)]
      · rw [if_neg full, if_neg full]
  induction fuel, enough using Nat.le_induction with
  | base => rfl
  | succ fuel enough ih => rw [again fuel m enough, ih]

/-- A new key goes to the end, and the oldest one is evicted when there is no room. -/
theorem keys_evict_set (limit : Nat) {m : OrderedMap CachedRequestResponse} {id : String} (entry : CachedRequestResponse)
    (named : "" ∉ m.keys) (some : id ≠ "") (fresh : id ∉ m.keys) :
    (evict limit (m.set id entry).size (m.set id entry)).keys = (m.keys ++ [id]).rtake limit := by
  rw [keys_evict limit _ _ _ (le_refl _), OrderedMap.keys_set_new fresh]
  rw [OrderedMap.keys_set_new fresh]
  simp only [List.mem_append, List.mem_singleton, not_or]
  exact ⟨named, some.symm⟩

/-- However the key was placed, no empty key appears and the limit holds. -/
theorem evict_set_bounded (limit : Nat) {m : OrderedMap CachedRequestResponse} {id : String} (entry : CachedRequestResponse)
    (named : "" ∉ m.keys) (some : id ≠ "") :
    "" ∉ (evict limit (m.set id entry).size (m.set id entry)).keys ∧
      (evict limit (m.set id entry).size (m.set id entry)).size ≤ limit := by
  have named' : "" ∉ (m.set id entry).keys := by
    rw [OrderedMap.mem_keys_set]
    rintro (old | new)
    · exact named old
    · exact some new.symm
  have kept := keys_evict limit _ _ named' (le_refl _)
  constructor
  · rw [kept]
    exact fun present => named' ((List.drop_sublist _ _).subset present)
  · rw [OrderedMap.size_eq_keys, kept, length_rtake]
    exact Nat.min_le_left _ _

theorem keys_reinsert (m : OrderedMap CachedRequestResponse) (id : String) (entry : CachedRequestResponse) :
    ((m.delete id).set id entry).keys = m.keys.erase id ++ [id] := by
  have nodup : m.keys.Nodup := m.nodup
  have absent : id ∉ (m.delete id).keys := by simp
  rw [OrderedMap.keys_set_new absent, OrderedMap.keys_delete, ← List.Nodup.erase_eq_filter nodup]

/-! ### Uses -/

/-- The id whose response was recorded, or answered out of the idempotency cache. `held` tells
the ids that the other cache answers for. -/
def Obs.responseUse (held : String → Bool) : Obs → Option String
  | .recorded id _ => some id
  | .answering id _ _ => if held id then none else some id
  | _ => none

/-- The id whose broadcast was recorded, or answered out of the broadcast cache. -/
def Obs.broadcastUse (held : String → Bool) : Obs → Option String
  | .broadcast id => some id
  | .answering id _ _ => if held id then some id else none
  | _ => none

/-- The uses of the two caches since the pairing began. -/
structure Uses where
  responses : List String
  broadcasts : List String

def Uses.none : Uses := ⟨[], []⟩

def Uses.also (uses : Uses) (held : String → Bool) (new : List Obs) : Uses :=
  ⟨uses.responses ++ new.filterMap (Obs.responseUse held), uses.broadcasts ++ new.filterMap (Obs.broadcastUse held)⟩

/-- Whether the note of an observation is a use of a cache. -/
def Obs.isUse : Obs → Bool
  | .recorded _ _ => true
  | .broadcast _ => true
  | .answering _ _ _ => true
  | _ => false

theorem also_append (uses : Uses) (held : String → Bool) (first second : List Obs) :
    uses.also held (first ++ second) = (uses.also held first).also held second := by
  simp [Uses.also]

theorem also_nil (uses : Uses) (held : String → Bool) : uses.also held [] = uses := by simp [Uses.also]

theorem also_other (uses : Uses) (held : String → Bool) {o : Obs} (other : o.isUse = false) : uses.also held [o] = uses := by
  have apart : o.responseUse held = none ∧ o.broadcastUse held = none := by
    cases o with
    | recorded id entry => cases other
    | broadcast id => cases other
    | answering id ok data => cases other
    | _ => exact ⟨rfl, rfl⟩
  simp [Uses.also, apart.1, apart.2]

/-- The requests that wait for the save of their number. -/
def Session.deferred (s : Session) : List Delivery := s.journal.calls.filterMap fun c => c.task.receipt

theorem deferred_remove (s : Session) (ticket : Nat) :
    ∀ d ∈ Session.deferred { s with journal := s.journal.remove ticket }, d ∈ s.deferred := by
  intro d member
  obtain ⟨c, queued, receipt⟩ := List.mem_filterMap.mp member
  exact List.mem_filterMap.mpr ⟨c, (List.mem_filter.mp queued).1, receipt⟩

theorem deferred_flush (s : Session) (ticket : Nat) :
    ∀ d ∈ Session.deferred { s with journal := s.journal.flush ticket }, d ∈ s.deferred := by
  intro d member
  obtain ⟨c, queued, receipt⟩ := List.mem_filterMap.mp member
  dsimp only at queued
  unfold Journal.flush at queued
  have known : ∃ c' ∈ s.journal.calls, c'.task = c.task := by
    split at queued
    · exact ⟨c, queued, rfl⟩
    · split at queued
      · exact ⟨c, queued, rfl⟩
      · obtain ⟨c', old, rfl⟩ := List.mem_map.mp queued
        exact ⟨c', old, Call.mature_task.symm⟩
  obtain ⟨c', old, same⟩ := known
  exact List.mem_filterMap.mpr ⟨c', old, same ▸ receipt⟩

/-- What the caches hold in terms of their uses; no request is pending that they answer. -/
structure Exact (uses : Uses) (s : Session) : Prop where
  responses : s.idempotencyCache.keys = mostRecent idempotencyCacheLimit uses.responses
  broadcasts : s.broadcastResponseCache.keys = mostRecent broadcastCacheLimit uses.broadcasts
  unanswered : ∀ id ∈ s.pendingRequestRecords.keys, id ∉ s.idempotencyCache.keys ∧ id ∉ s.broadcastResponseCache.keys

/-- The limits, and that ids are not empty. -/
structure Bounded (s : Session) : Prop where
  pending : s.pendingRequestRecords.size ≤ maxPendingRequests
  idempotency : s.idempotencyCache.size ≤ idempotencyCacheLimit
  broadcast : s.broadcastResponseCache.size ≤ broadcastCacheLimit
  pendingNamed : "" ∉ s.pendingRequestRecords.keys
  idempotencyNamed : "" ∉ s.idempotencyCache.keys
  broadcastNamed : "" ∉ s.broadcastResponseCache.keys
  queued : ∀ d ∈ s.deferred, d.id ≠ ""

/-- The session is closed or about to be. -/
def Session.Over (s : Session) : Prop := s.intentionalClose = true ∨ s.phase = .closed

/-- The session is over, and its books are empty. -/
structure Forgotten (s : Session) : Prop where
  pending : s.pendingRequestRecords.keys = []
  idempotency : s.idempotencyCache.keys = []
  broadcast : s.broadcastResponseCache.keys = []
  finished : s.Over

theorem Bounded.besides {s t : Session} (h : Bounded s) (books : t.requestBooks = s.requestBooks)
    (queued : ∀ d ∈ t.deferred, d ∈ s.deferred) : Bounded t := by
  have pending : t.pendingRequestRecords = s.pendingRequestRecords := congrArg RequestBooks.pending books
  have idempotency : t.idempotencyCache = s.idempotencyCache := congrArg RequestBooks.idempotency books
  have broadcast : t.broadcastResponseCache = s.broadcastResponseCache := congrArg RequestBooks.broadcast books
  refine ⟨?_, ?_, ?_, ?_, ?_, ?_, fun d member => h.queued d (queued d member)⟩
  · rw [pending]
    exact h.pending
  · rw [idempotency]
    exact h.idempotency
  · rw [broadcast]
    exact h.broadcast
  · rw [pending]
    exact h.pendingNamed
  · rw [idempotency]
    exact h.idempotencyNamed
  · rw [broadcast]
    exact h.broadcastNamed

theorem Exact.besides {uses : Uses} {s t : Session} (h : Exact uses s) (books : t.requestBooks = s.requestBooks) : Exact uses t := by
  have pending : t.pendingRequestRecords = s.pendingRequestRecords := congrArg RequestBooks.pending books
  have idempotency : t.idempotencyCache = s.idempotencyCache := congrArg RequestBooks.idempotency books
  have broadcast : t.broadcastResponseCache = s.broadcastResponseCache := congrArg RequestBooks.broadcast books
  constructor
  · rw [idempotency]
    exact h.responses
  · rw [broadcast]
    exact h.broadcasts
  · rw [pending, idempotency, broadcast]
    exact h.unanswered

/-! ### What one step keeps -/

/-- Which ids the broadcast cache answers for. -/
def Session.holds (s : Session) (id : String) : Bool := (s.broadcastResponseCache.get id).isSome

/-- In the course of a step from `origin`: the limits hold, and the caches hold what the uses so
far and those of the step make them hold, as long as the run is a smooth one; unless everything
was forgotten because the session ended, where `lost` allows it. -/
structure Tracks (lost smooth : Prop) (uses : Uses) (origin t : Session) : Prop where
  bounded : Bounded t
  exact : smooth → ∃ new, t.trace = origin.trace ++ new ∧
    (Exact (uses.also origin.holds new) t ∨ lost ∧ Forgotten t)

section Steps
variable {lost smooth : Prop} {uses : Uses} {origin s t : Session}

/-- Until something is forgotten nothing is lost. -/
theorem Tracks.may (h : Tracks lost smooth uses origin s) (imp : lost → True) : Tracks True smooth uses origin s :=
  ⟨h.bounded, fun fine => by
    obtain ⟨new, grown, exact | ⟨allowed, forgotten⟩⟩ := h.exact fine
    · exact ⟨new, grown, .inl exact⟩
    · exact ⟨new, grown, .inr ⟨imp allowed, forgotten⟩⟩⟩

/-- The books and the record stay, no request is queued, and what is over stays over. -/
theorem Tracks.besides (h : Tracks lost smooth uses origin s) (books : t.requestBooks = s.requestBooks)
    (trace : t.trace = s.trace) (queued : ∀ d ∈ t.deferred, d ∈ s.deferred) (finished : lost → s.Over → t.Over) :
    Tracks lost smooth uses origin t := by
  refine ⟨h.bounded.besides books queued, fun fine => ?_⟩
  obtain ⟨new, grown, exact | ⟨allowed, forgotten⟩⟩ := h.exact fine
  · exact ⟨new, trace.trans grown, .inl (exact.besides books)⟩
  · have pending : t.pendingRequestRecords = s.pendingRequestRecords := congrArg RequestBooks.pending books
    have idempotency : t.idempotencyCache = s.idempotencyCache := congrArg RequestBooks.idempotency books
    have broadcast : t.broadcastResponseCache = s.broadcastResponseCache := congrArg RequestBooks.broadcast books
    exact ⟨new, trace.trans grown, .inr ⟨allowed, pending ▸ forgotten.pending, idempotency ▸ forgotten.idempotency,
      broadcast ▸ forgotten.broadcast, finished allowed forgotten.finished⟩⟩

theorem Tracks.notes (h : Tracks lost smooth uses origin s) {o : Obs} (other : o.isUse = false) :
    Tracks lost smooth uses origin { s with trace := s.trace ++ [o] } := by
  refine ⟨h.bounded.besides rfl fun _ member => member, fun fine => ?_⟩
  obtain ⟨new, grown, exact | ⟨allowed, forgotten⟩⟩ := h.exact fine
  · refine ⟨new ++ [o], by rw [grown, List.append_assoc], .inl ?_⟩
    rw [also_append, also_other _ _ other]
    exact exact.besides rfl
  · exact ⟨new ++ [o], by rw [grown, List.append_assoc], .inr ⟨allowed, forgotten.pending, forgotten.idempotency,
      forgotten.broadcast, forgotten.finished⟩⟩

/-- Forgetting everything, in a session that is over. -/
theorem Tracks.forgets (h : Tracks lost smooth uses origin s) (finished : s.Over) : Tracks True smooth uses origin { s with
    pendingRequestRecords := .empty, idempotencyCache := .empty, broadcastResponseCache := .empty } := by
  refine ⟨⟨Nat.zero_le _, Nat.zero_le _, Nat.zero_le _, List.not_mem_nil, List.not_mem_nil, List.not_mem_nil,
    h.bounded.queued⟩, fun fine => ?_⟩
  obtain ⟨new, grown, -⟩ := h.exact fine
  exact ⟨new, grown, .inr ⟨trivial, rfl, rfl, rfl, finished⟩⟩

/-- A call of the adapter that carries no request, or one with an id. -/
theorem Tracks.queues (h : Tracks lost smooth uses origin s) (task : Task) (named : ∀ d, task.receipt = some d → d.id ≠ "")
    (write : Option Snapshot) : Tracks lost smooth uses origin { s with
      ticket := s.ticket + 1, journal := s.journal.enqueue s.ticket write task } := by
  refine ⟨⟨h.bounded.pending, h.bounded.idempotency, h.bounded.broadcast, h.bounded.pendingNamed,
    h.bounded.idempotencyNamed, h.bounded.broadcastNamed, fun d member => ?_⟩, fun fine => ?_⟩
  · obtain ⟨c, queued, receipt⟩ := List.mem_filterMap.mp member
    rcases List.mem_append.mp queued with old | new
    · exact h.bounded.queued d (List.mem_filterMap.mpr ⟨c, old, receipt⟩)
    · rw [List.mem_singleton.mp new] at receipt
      exact named d receipt
  · obtain ⟨new, grown, exact | ⟨allowed, forgotten⟩⟩ := h.exact fine
    · exact ⟨new, grown, .inl (exact.besides rfl)⟩
    · exact ⟨new, grown, .inr ⟨allowed, forgotten.pending, forgotten.idempotency, forgotten.broadcast, forgotten.finished⟩⟩

/-! ### Recording and answering -/

/-- Recording an answer moves its id from the pending requests to the end of the caches. -/
theorem Tracks.records (h : Tracks lost smooth uses origin s) {id : String} {pending : PendingRequestRecord}
    (known : s.pendingRequestRecords.get id = some pending) (entry : CachedRequestResponse) :
    Tracks lost smooth uses origin { s with
      pendingRequestRecords := s.pendingRequestRecords.delete id
      idempotencyCache := evictIdempotencyCache (s.idempotencyCache.set id entry)
      trace := s.trace ++ [.recorded id entry] } := by
  have member := OrderedMap.mem_keys_of_get known
  have named : id ≠ "" := fun empty => h.bounded.pendingNamed (empty ▸ member)
  obtain ⟨stillNamed, short⟩ := evict_set_bounded idempotencyCacheLimit entry h.bounded.idempotencyNamed named
  have fewer := OrderedMap.size_delete member
  have least := h.bounded.pending
  refine ⟨⟨?_, short, h.bounded.broadcast, ?_, stillNamed, h.bounded.broadcastNamed, h.bounded.queued⟩, fun fine => ?_⟩
  · dsimp only
    omega
  · exact fun present => h.bounded.pendingNamed (OrderedMap.mem_keys_delete.mp present).1
  · obtain ⟨new, grown, exact | ⟨-, forgotten⟩⟩ := h.exact fine
    · refine ⟨new ++ [.recorded id entry], by rw [grown, List.append_assoc], .inl ?_⟩
      have fresh := (exact.unanswered id member).1
      have keys := keys_evict_set idempotencyCacheLimit entry h.bounded.idempotencyNamed named fresh
      have spelled : uses.also origin.holds (new ++ [.recorded id entry]) =
          ⟨(uses.also origin.holds new).responses ++ [id], (uses.also origin.holds new).broadcasts⟩ := by
        simp [Uses.also, Obs.responseUse, Obs.broadcastUse]
      rw [spelled]
      refine ⟨?_, exact.broadcasts, fun other waits => ?_⟩
      · rw [mostRecent_concat (by decide), ← exact.responses, List.erase_of_not_mem fresh]
        exact keys
      · obtain ⟨old, apart⟩ := OrderedMap.mem_keys_delete.mp waits
        refine ⟨fun present => ?_, (exact.unanswered other old).2⟩
        have among : other ∈ s.idempotencyCache.keys ++ [id] := by
          change other ∈ (evict _ _ _).keys at present
          rw [keys] at present
          exact (List.drop_sublist _ _).subset present
        rcases List.mem_append.mp among with before | last
        · exact (exact.unanswered other old).1 before
        · exact apart (List.mem_singleton.mp last)
    · rw [forgotten.pending] at member
      cases member

/-- Recording a broadcast moves its id to the end of its cache. -/
theorem Tracks.broadcasts (h : Tracks lost smooth uses origin s) {id : String} (named : id ≠ "")
    (settled : id ∉ s.pendingRequestRecords.keys) (fresh : smooth → id ∉ s.broadcastResponseCache.keys)
    (alive : ¬ Forgotten s) (entry : CachedRequestResponse) : Tracks lost smooth uses origin { s with
      broadcastResponseCache := evictBroadcastCache (s.broadcastResponseCache.set id entry)
      trace := s.trace ++ [.broadcast id] } := by
  obtain ⟨stillNamed, short⟩ := evict_set_bounded broadcastCacheLimit entry h.bounded.broadcastNamed named
  refine ⟨⟨h.bounded.pending, h.bounded.idempotency, short, h.bounded.pendingNamed, h.bounded.idempotencyNamed,
    stillNamed, h.bounded.queued⟩, fun fine => ?_⟩
  obtain ⟨new, grown, exact | ⟨-, forgotten⟩⟩ := h.exact fine
  · refine ⟨new ++ [.broadcast id], by rw [grown, List.append_assoc], .inl ?_⟩
    have keys := keys_evict_set broadcastCacheLimit entry h.bounded.broadcastNamed named (fresh fine)
    have spelled : uses.also origin.holds (new ++ [.broadcast id]) =
        ⟨(uses.also origin.holds new).responses, (uses.also origin.holds new).broadcasts ++ [id]⟩ := by
      simp [Uses.also, Obs.responseUse, Obs.broadcastUse]
    rw [spelled]
    refine ⟨exact.responses, ?_, fun other waits => ⟨(exact.unanswered other waits).1, fun present => ?_⟩⟩
    · rw [mostRecent_concat (by decide), ← exact.broadcasts, List.erase_of_not_mem (fresh fine)]
      exact keys
    · have among : other ∈ s.broadcastResponseCache.keys ++ [id] := by
        change other ∈ (evict _ _ _).keys at present
        rw [keys] at present
        exact (List.drop_sublist _ _).subset present
      rcases List.mem_append.mp among with before | last
      · exact (exact.unanswered other waits).2 before
      · exact settled (List.mem_singleton.mp last ▸ waits)
  · exact absurd forgotten alive

theorem keys_evict_ne_nil {limit : Nat} (room : 0 < limit) {m : OrderedMap CachedRequestResponse} {id : String}
    (entry : CachedRequestResponse) (named : "" ∉ m.keys) (some : id ≠ "") :
    (evict limit (m.set id entry).size (m.set id entry)).keys ≠ [] := by
  have member : id ∈ (m.set id entry).keys := OrderedMap.mem_keys_set.mpr (.inr rfl)
  have named' : "" ∉ (m.set id entry).keys := by
    rw [OrderedMap.mem_keys_set]
    rintro (old | new)
    · exact named old
    · exact some new.symm
  rw [keys_evict limit _ _ named' (le_refl _)]
  apply List.ne_nil_of_length_pos
  rw [length_rtake]
  have long := List.length_pos_of_mem member
  omega

theorem cacheProcessedResponse_tracks (id : String) (ok : Bool) (data : Option Json) :
    Keeps (Preserve (Tracks lost smooth uses origin)) (cacheProcessedResponse id ok data) := by
  intro s h
  unfold cacheProcessedResponse
  rw [after_get_bind]
  cases known : s.pendingRequestRecords.get id with
  | none => exact h
  | some pending =>
    have member := OrderedMap.mem_keys_of_get known
    have named : id ≠ "" := fun empty => h.bounded.pendingNamed (empty ▸ member)
    dsimp only
    rw [after_modify_bind]
    unfold record
    rw [after_modify_bind]
    have recorded := h.records known
      { toPendingRequestRecord := pending, ok := ok, data := if responseTooLarge data then some .null else data,
        tooLarge := responseTooLarge data }
    split
    · refine recorded.broadcasts named (by simp) (fun fine => ?_) (fun forgotten => ?_) _
      · obtain ⟨new, -, exact | ⟨-, forgotten⟩⟩ := h.exact fine
        · exact (exact.unanswered id member).2
        · rw [forgotten.pending] at member
          cases member
      · exact keys_evict_ne_nil (by decide) _ h.bounded.idempotencyNamed named forgotten.idempotency
    · exact recorded

/-- A change of fields that neither the books nor the queue hold. -/
theorem modify_tracks {f : Session → Session} (books : ∀ s, (f s).requestBooks = s.requestBooks)
    (trace : ∀ s, (f s).trace = s.trace) (queued : ∀ s, (f s).journal = s.journal)
    (finished : ∀ s, lost → s.Over → (f s).Over) : Keeps (Preserve (Tracks lost smooth uses origin)) (modify f) := by
  intro s h
  refine h.besides (books s) (trace s) (fun d member => ?_) (finished s)
  unfold Session.deferred at member ⊢
  rw [after_modify, queued s] at member
  exact member

theorem record_tracks {o : Obs} (other : o.isUse = false) :
    Keeps (Preserve (Tracks lost smooth uses origin)) (record o) := fun _ h => h.notes other

theorem emit_tracks (event : Event) : Keeps (Preserve (Tracks lost smooth uses origin)) (emit event) := by
  intro s h
  rw [after_emit]
  unfold Session.emitting
  split
  · exact h
  · exact (h.notes (o := .emitted event) rfl).besides rfl rfl (fun _ member => member) fun _ finished => finished

theorem sendMessage_tracks (message : ProtocolMessage) (frame : Option Sealed) :
    Keeps (Preserve (Tracks lost smooth uses origin)) (sendMessage message frame) :=
  .bind .get fun _ => .ite (emit_tracks _) (record_tracks rfl)

theorem sendRaw_tracks (body : Body) (frame : Option Sealed) :
    Keeps (Preserve (Tracks lost smooth uses origin)) (sendRaw body frame) :=
  .bind .get fun _ => sendMessage_tracks _ _

theorem persistSnapshot_tracks (task : Task) (named : ∀ d, task.receipt = some d → d.id ≠ "") :
    Keeps (Preserve (Tracks lost smooth uses origin)) (persistSnapshot task) := by
  intro s h
  rcases persistSnapshot_cases task s with ⟨-, run⟩ | ⟨adapter, -, -, run⟩ |
    ⟨adapter, snapshot, -, -, -, run⟩ | ⟨adapter, snapshot, -, -, -, run⟩
  · rw [after_of_ok run]
    exact h
  · rw [after_of_error run]
    exact h
  · rw [after_of_ok run]
    exact h.queues task named _
  · rw [after_of_ok run]
    exact h.besides rfl rfl (fun _ member => member) fun _ finished => finished

theorem clearPersistence_tracks : Keeps (Preserve (Tracks lost smooth uses origin)) clearPersistence := by
  intro s h
  unfold clearPersistence
  rw [after_modify]
  cases s.options.persistence with
  | none => exact h
  | some adapter =>
    dsimp only
    split_ifs
    · exact h.queues .cleared nofun none
    · exact h.besides rfl rfl (fun _ member => member) fun _ finished => finished
    · exact h

/-- Entering a phase, which ends nothing that is over when it is the closed one. -/
theorem setPhase_tracks {phase : Phase} (finished : lost → phase = .closed) :
    Keeps (Preserve (Tracks lost smooth uses origin)) (setPhase phase) :=
  .bind .get fun _ => .ite (.pure _) (.bind (modify_tracks (fun _ => rfl) (fun _ => rfl) (fun _ => rfl)
    fun _ may _ => .inr (finished may)) fun _ => emit_tracks _)

/-! ### Ending the session -/

/-- Once the session is marked as closing, everything may be forgotten. -/
theorem closing_tracks {m : M Unit} (rest : Keeps (Preserve (Tracks True smooth uses origin)) m) (h : Tracks lost smooth uses origin s)
    (finished : s.intentionalClose = true) : Tracks True smooth uses origin (after (do forgetRequests; m) s) := by
  unfold forgetRequests
  rw [after_modify_bind]
  exact rest _ (h.forgets (.inl finished))

theorem close_tracks (reason : String) (h : Tracks lost smooth uses origin s) :
    Tracks True smooth uses origin (after (close reason) s) := by
  unfold close stopReconnect clearSessionTtl
  rw [after_modify_bind, after_modify_bind, after_modify_bind]
  have rest : Keeps (Preserve (Tracks True smooth uses origin)) (do
      let s ← get
      if s.channelId ≠ "" then sendRaw (.close reason) none
      clearPersistence
      setPhase .closed : M Unit) :=
    .bind .get fun _ => .ite (.bind (sendRaw_tracks _ _) fun _ => .bind clearPersistence_tracks fun _ =>
      setPhase_tracks fun _ => rfl) (.bind clearPersistence_tracks fun _ => setPhase_tracks fun _ => rfl)
  refine closing_tracks rest (h.besides rfl rfl (fun _ member => member) fun _ _ => .inl rfl) rfl

theorem close_keeps (reason : String) : Keeps (Preserve (Tracks True smooth uses origin)) (close reason) :=
  fun _ h => close_tracks reason h

theorem persistenceError_tracks (error : String) : Keeps (Preserve (Tracks True smooth uses origin)) (persistenceError error) :=
  .bind (emit_tracks _) fun _ => .bind (close_keeps _) fun _ => .pure _

/-! ### Answers -/

variable (C : Crypto)

theorem nextSendSeq_tracks {task : Nat → Task} (named : ∀ n, (task n).receipt = none) :
    Keeps (Preserve (Tracks True smooth uses origin)) (nextSendSeq task) := by
  have saves (n : Nat) : ∀ d, (task n).receipt = some d → d.id ≠ "" := by
    intro d receipt
    rw [named n] at receipt
    cases receipt
  exact .bind .get fun _ => .ite (.bind (emit_tracks _) fun _ => .bind (close_keeps _) fun _ => .pure _)
    (.bind (modify_tracks (fun _ => rfl) (fun _ => rfl) (fun _ => rfl) fun _ _ finished => finished) fun _ =>
      .bind (persistSnapshot_tracks _ (saves _)) fun _ => .ite (.pure _) (.pure _))

theorem sendSealed_tracks (type : AadType) (id : String) (seq : Nat) (payload : Json) (body : Option String → Body) :
    Keeps (Preserve (Tracks lost smooth uses origin)) (sendSealed C type id seq payload body) := by
  refine .bind .get fun s => ?_
  cases s.sendKey with
  | none => exact .pure _
  | some sendKey =>
    dsimp only
    cases sealPayload C sendKey s.channelId seq payload ⟨type, s.pubKeyB64, id⟩ with
    | error e => exact .throw _
    | ok made => exact .bind (record_tracks rfl) fun _ => .bind (sendRaw_tracks _ _) fun _ => .pure _

theorem sendAnswer_tracks (id : String) (ok : Bool) (data : Option Json) (caches : Bool) (seq : Nat) :
    Keeps (Preserve (Tracks lost smooth uses origin)) (sendAnswer C id ok data caches seq) :=
  .bind (sendSealed_tracks C _ _ _ _ _) fun _ =>
    .ite (.bind (cacheProcessedResponse_tracks _ _ _) fun _ => .pure _) (.pure _)

theorem sendResponse_tracks (id : String) (ok : Bool) (data : Option Json) (caches observed : Bool) :
    Keeps (Preserve (Tracks True smooth uses origin)) (sendResponse C id ok data caches observed) := by
  refine .bind .get fun _ => .ite (.pure _) (.bind (nextSendSeq_tracks fun _ => rfl) fun reservation => ?_)
  cases reservation with
  | reserved seq => exact .bind (sendAnswer_tracks C _ _ _ _ _) fun _ => .pure _
  | exhausted => exact .pure _
  | waits => exact .pure _

theorem approve_tracks (id : String) (result : Option Json) :
    Keeps (Preserve (Tracks True smooth uses origin)) (approve C id result) :=
  .bind (record_tracks rfl) fun _ => sendResponse_tracks C _ _ _ _ _

theorem reject_tracks (id code message : String) (observed : Bool) :
    Keeps (Preserve (Tracks True smooth uses origin)) (reject C id code message observed) :=
  sendResponse_tracks C _ _ _ _ _

theorem sendEvent_tracks (name : String) (data : Option Json) (evtId : String) (seq : Nat) :
    Keeps (Preserve (Tracks lost smooth uses origin)) (sendEvent C name data evtId seq) :=
  .bind (sendSealed_tracks C _ _ _ _ _) fun _ => .pure _

theorem pushEvent_tracks (name : String) (data : Option Json) :
    Keeps (Preserve (Tracks True smooth uses origin)) (pushEvent C name data) := by
  refine .bind .get fun _ => .ite (.pure _) (.bind (nextSendSeq_tracks fun _ => rfl) fun reservation =>
    .bind (modify_tracks (fun _ => rfl) (fun _ => rfl) (fun _ => rfl) fun _ _ finished => finished) fun _ => ?_)
  cases reservation with
  | reserved seq => exact sendEvent_tracks C _ _ _ _
  | exhausted => exact .pure _
  | waits => exact .pure _

/-! ### Requests -/

/-- A duplicate that a cache answers is the newest broadcast, or an answer small enough to be
kept whole. -/
def Session.Smooth (s : Session) (id paramsHash : String) : Prop :=
  (∀ cached, s.broadcastResponseCache.get id = some cached →
    constantTimeEqual cached.paramsHash paramsHash = true → s.broadcastResponseCache.keys.getLast? = some id) ∧
  (s.broadcastResponseCache.get id = none → ∀ cached, s.idempotencyCache.get id = some cached →
    constantTimeEqual cached.paramsHash paramsHash = true → cached.tooLarge = false)

/-- Prompting for a request that no cache answers. -/
theorem promptRequest_tracks (h : Tracks False smooth uses origin s) {id : String} (named : id ≠ "")
    (absent : smooth → id ∉ s.idempotencyCache.keys ∧ id ∉ s.broadcastResponseCache.keys) (method : String)
    (params : Json) (paramsHash : String) (plaintext : Bytes) :
    Tracks True smooth uses origin (after (promptRequest C id method params paramsHash plaintext) s) := by
  have kept : Tracks True smooth uses origin s := h.may fun _ => trivial
  unfold promptRequest
  rw [after_get_bind]
  cases known : s.pendingRequestRecords.get id with
  | some pending =>
    dsimp only
    split
    · exact kept
    · exact reject_tracks C _ _ _ _ s kept
  | none =>
    dsimp only
    by_cases full : s.pendingRequestRecords.size ≥ maxPendingRequests
    · rw [if_pos full]
      exact reject_tracks C _ _ _ _ s kept
    · rw [if_neg full]
      have fresh : id ∉ s.pendingRequestRecords.keys := OrderedMap.get_eq_none.mp known
      have prompted : Tracks True smooth uses origin { s with
          pendingRequestRecords := s.pendingRequestRecords.set id ⟨paramsHash, method⟩ } := by
        refine ⟨⟨?_, h.bounded.idempotency, h.bounded.broadcast, ?_, h.bounded.idempotencyNamed, h.bounded.broadcastNamed,
          h.bounded.queued⟩, fun fine => ?_⟩
        · dsimp only
          rw [OrderedMap.size_set_new fresh]
          omega
        · dsimp only
          rw [OrderedMap.mem_keys_set]
          rintro (old | new)
          · exact h.bounded.pendingNamed old
          · exact named new.symm
        · obtain ⟨new, grown, exact | ⟨no, -⟩⟩ := h.exact fine
          · refine ⟨new, grown, .inl ⟨exact.responses, exact.broadcasts, fun other waits => ?_⟩⟩
            rcases OrderedMap.mem_keys_set.mp waits with old | rfl
            · exact exact.unanswered other old
            · exact absent fine
          · exact no.elim
      have rest : Keeps (Preserve (Tracks True smooth uses origin)) (do
          record (.prompting id plaintext)
          emit (.request id method params) : M Unit) := .bind (record_tracks rfl) fun _ => emit_tracks _
      exact rest _ prompted

/-- Answering out of the broadcast cache with its newest entry. -/
theorem Tracks.answers_broadcast (h : Tracks False smooth uses origin s) {id : String} (ok : Bool) (data : Option Json)
    (same : smooth → s.broadcastResponseCache = origin.broadcastResponseCache) (known : id ∈ s.broadcastResponseCache.keys)
    (latest : smooth → s.broadcastResponseCache.keys.getLast? = some id) :
    Tracks False smooth uses origin { s with trace := s.trace ++ [.answering id ok data] } := by
  refine ⟨h.bounded.besides rfl fun _ member => member, fun fine => ?_⟩
  obtain ⟨new, grown, exact | ⟨no, -⟩⟩ := h.exact fine
  · refine ⟨new ++ [.answering id ok data], by rw [grown, List.append_assoc], .inl ?_⟩
    have held : origin.holds id = true := by
      unfold Session.holds
      rw [← same fine]
      cases found : s.broadcastResponseCache.get id with
      | some cached => rfl
      | none => exact absurd known (OrderedMap.get_eq_none.mp found)
    have spelled : uses.also origin.holds (new ++ [.answering id ok data]) =
        ⟨(uses.also origin.holds new).responses, (uses.also origin.holds new).broadcasts ++ [id]⟩ := by
      simp [Uses.also, Obs.responseUse, Obs.broadcastUse, held]
    rw [spelled]
    refine ⟨exact.responses, ?_, exact.unanswered⟩
    have last := latest fine
    rw [exact.broadcasts] at last
    rw [mostRecent_again (by decide) last]
    exact exact.broadcasts
  · exact no.elim

/-- The session once the entry under `id` was moved to the end and is answered with. -/
def Session.reusing (s : Session) (id : String) (cached : CachedRequestResponse) : Session :=
  { s.touched id cached with trace := s.trace ++ [.reused id] ++ [.answering id cached.ok cached.data] }

theorem Bounded.touches (h : Bounded s) {id : String} {cached : CachedRequestResponse}
    (found : s.idempotencyCache.get id = some cached) : Bounded (s.touched id cached) := by
  have known := OrderedMap.mem_keys_of_get found
  have keys := keys_reinsert s.idempotencyCache id cached
  have named : id ≠ "" := fun empty => h.idempotencyNamed (empty ▸ known)
  refine ⟨h.pending, ?_, h.broadcast, h.pendingNamed, ?_, h.broadcastNamed, h.queued⟩
  · have positive := List.length_pos_of_mem known
    have limit := h.idempotency
    unfold Session.touched
    dsimp only
    rw [OrderedMap.size_eq_keys, keys, List.length_append, List.length_erase_of_mem known, List.length_singleton,
      ← OrderedMap.size_eq_keys]
    rw [← OrderedMap.size_eq_keys] at positive
    omega
  · unfold Session.touched
    dsimp only
    rw [keys, List.mem_append, List.mem_singleton]
    rintro (old | new)
    · exact h.idempotencyNamed (List.mem_of_mem_erase old)
    · exact named new.symm

/-- Answering out of the idempotency cache moves the entry to the end. -/
theorem Tracks.answers_response (h : Tracks False smooth uses origin s) {id : String} {cached : CachedRequestResponse}
    (same : smooth → s.broadcastResponseCache = origin.broadcastResponseCache) (other : id ∉ s.broadcastResponseCache.keys)
    (found : s.idempotencyCache.get id = some cached) : Tracks False smooth uses origin (s.reusing id cached) := by
  have known := OrderedMap.mem_keys_of_get found
  have keys := keys_reinsert s.idempotencyCache id cached
  refine ⟨(h.bounded.touches found).besides rfl fun _ member => member, fun fine => ?_⟩
  obtain ⟨new, grown, exact | ⟨no, -⟩⟩ := h.exact fine
  · refine ⟨new ++ [.reused id, .answering id cached.ok cached.data], by simp [Session.reusing, grown], .inl ?_⟩
    have held : origin.holds id = false := by
      unfold Session.holds
      rw [← same fine, OrderedMap.get_eq_none.mpr other]
      rfl
    have spelled : uses.also origin.holds (new ++ [.reused id, .answering id cached.ok cached.data]) =
        ⟨(uses.also origin.holds new).responses ++ [id], (uses.also origin.holds new).broadcasts⟩ := by
      simp [Uses.also, List.filterMap_cons, Obs.responseUse, Obs.broadcastUse, held]
    rw [spelled]
    refine ⟨?_, exact.broadcasts, fun waiting waits => ⟨fun present => ?_, (exact.unanswered waiting waits).2⟩⟩
    · change ((s.idempotencyCache.delete id).set id cached).keys = _
      have limit := h.bounded.idempotency
      rw [OrderedMap.size_eq_keys] at limit
      have short : (s.idempotencyCache.keys.erase id ++ [id]).length ≤ idempotencyCacheLimit := by
        have positive := List.length_pos_of_mem known
        rw [List.length_append, List.length_erase_of_mem known, List.length_singleton]
        omega
      rw [mostRecent_concat (by decide), ← exact.responses, keys, rtake_of_le short]
    · change waiting ∈ ((s.idempotencyCache.delete id).set id cached).keys at present
      rw [keys, List.mem_append, List.mem_singleton] at present
      apply (exact.unanswered waiting waits).1
      rcases present with old | rfl
      · exact List.mem_of_mem_erase old
      · exact known
  · exact no.elim

/-- Looking a request up in the caches. -/
theorem dispatchRequest_tracks (h : Tracks False smooth uses origin s) {id paramsHash : String} (named : id ≠ "")
    (same : smooth → s.broadcastResponseCache = origin.broadcastResponseCache) (fine : smooth → s.Smooth id paramsHash)
    (method : String) (params : Json) (plaintext : Bytes) :
    Tracks True smooth uses origin (after (dispatchRequest C id method params paramsHash plaintext) s) := by
  have kept : Tracks True smooth uses origin s := h.may fun _ => trivial
  unfold dispatchRequest
  rw [after_get_bind]
  cases broadcast : s.broadcastResponseCache.get id with
  | some cached =>
    dsimp only
    by_cases equal : constantTimeEqual cached.paramsHash paramsHash = true
    · rw [if_pos equal]
      have answered := h.answers_broadcast cached.ok cached.data same (OrderedMap.mem_keys_of_get broadcast)
        fun run => (fine run).1 cached broadcast equal
      exact sendResponse_tracks C _ _ _ _ _ _ (answered.may fun _ => trivial)
    · rw [if_neg equal]
      exact reject_tracks C _ _ _ _ s kept
  | none =>
    have apart : id ∉ s.broadcastResponseCache.keys := OrderedMap.get_eq_none.mp broadcast
    dsimp only
    cases found : s.idempotencyCache.get id with
    | none =>
      exact promptRequest_tracks C h named (fun _ => ⟨OrderedMap.get_eq_none.mp found, apart⟩) _ _ _ _
    | some cached =>
      dsimp only
      by_cases equal : constantTimeEqual cached.paramsHash paramsHash = true
      · rw [if_pos equal]
        unfold touchIdempotencyEntry record
        rw [bind_assoc, after_modify_bind, after_modify_bind]
        by_cases large : cached.tooLarge = true
        · rw [if_pos large]
          -- nothing is claimed of a run in which such an entry is moved
          have rough : ¬ smooth := fun run => by
            have small := (fine run).2 broadcast cached found equal
            rw [large] at small
            cases small
          exact promptRequest_tracks C (s := s.touched id cached) ⟨h.bounded.touches found, fun run => absurd run rough⟩ named
            (fun run => absurd run rough) _ _ _ _
        · rw [if_neg large]
          exact sendResponse_tracks C _ _ _ _ _ _ ((h.answers_response same apart found).may fun _ => trivial)
      · rw [if_neg equal]
        exact reject_tracks C _ _ _ _ s kept

/-- The condition on a request that is delivered to the session. -/
def Session.Admits (s : Session) (id : String) (data : Json) (plaintext : Bytes) : Prop :=
  ∀ method, methodOf data = some method →
    ((s.effectiveCapabilities.field "methods").getD .null).hasString method = true → s.Smooth id (sha256Hex C plaintext)

theorem deliverRequest_tracks (h : Tracks False smooth uses origin s) (frame : Delivery) (named : frame.id ≠ "")
    (same : smooth → s.broadcastResponseCache = origin.broadcastResponseCache) {data : Json}
    (fine : smooth → s.Admits C frame.id data frame.plaintext) :
    Tracks True smooth uses origin (after (deliverRequest C frame data) s) := by
  have noted := h.notes (o := .delivered frame) rfl
  unfold deliverRequest record processRequest
  rw [after_modify_bind, after_get_bind]
  cases spelled : methodOf data with
  | none => exact reject_tracks C _ _ _ _ _ (noted.may fun _ => trivial)
  | some method =>
    dsimp only
    split
    · rename_i granted
      exact dispatchRequest_tracks C noted named same (fun run => fine run method spelled granted) _ _ _
    · exact reject_tracks C _ _ _ _ _ (noted.may fun _ => trivial)

/-- A request that opens is delivered at once, or waits for its save. -/
theorem openRequest_tracks (h : Tracks False smooth uses origin s) {id : String} (named : id ≠ "")
    (same : smooth → s.broadcastResponseCache = origin.broadcastResponseCache) (recvKey : Bytes) (sender envelope : String)
    (fine : ∀ opened, unsealPayload C recvKey s.channelId envelope ⟨.req, sender, id⟩ = .ok opened → s.recvSeq < opened.seq →
      s.savesLater = false → smooth → s.Admits C id opened.data opened.plaintext) :
    Tracks True smooth uses origin (after (openRequest C recvKey sender id envelope) s) := by
  have kept : Tracks True smooth uses origin s := h.may fun _ => trivial
  unfold openRequest
  rw [after_get_bind]
  cases opens : unsealPayload C recvKey s.channelId envelope ⟨.req, sender, id⟩ with
  | error e => exact kept
  | ok opened =>
    change Tracks True smooth uses origin (after (if (opened.seq : Int) ≤ s.recvSeq then pure () else _) s)
    by_cases old : (opened.seq : Int) ≤ s.recvSeq
    · rw [if_pos old]
      exact kept
    · rw [if_neg old, after_modify_bind]
      let frame : Delivery := ⟨recvKey, opened.seq, .req, id, opened.plaintext⟩
      let u : Session := { s with recvSeq := opened.seq }
      have counted : Tracks False smooth uses origin u := h.besides rfl rfl (fun _ member => member) fun no => no.elim
      have saves : ∀ d, (Task.request frame opened.data s.recvSeq).receipt = some d → d.id ≠ "" := by
        rintro d ⟨⟩
        exact named
      have saved := persistSnapshot_tracks (.request frame opened.data s.recvSeq) saves u counted
      have admits (sync : s.savesLater = false) (run : smooth) : s.Admits C id opened.data opened.plaintext :=
        fine opened opens (Int.not_le.mp old) sync run
      rcases persistSnapshot_cases (.request frame opened.data s.recvSeq) u with ⟨configured, run⟩ | ⟨adapter, -, -, run⟩ |
        ⟨adapter, snapshot, -, -, -, run⟩ | ⟨adapter, snapshot, configured, sync, -, run⟩
      · have now : s.savesLater = false := by
          unfold Session.savesLater
          rw [show s.options.persistence = none from configured]
          rfl
        rw [after_bind_of_ok run]
        exact deliverRequest_tracks C counted frame named same (admits now)
      · rw [after_bind, run]
        exact counted.may fun _ => trivial
      · rw [after_of_ok run] at saved
        rw [after_bind_of_ok run]
        exact saved.may fun _ => trivial
      · rw [after_of_ok run] at saved
        have now : s.savesLater = false := by
          unfold Session.savesLater
          rw [show s.options.persistence = some adapter from configured]
          exact sync
        rw [after_bind_of_ok run]
        exact deliverRequest_tracks C saved frame named same (admits now)

/-- The condition on a request frame that arrives. -/
def Session.AdmitsFrame (s : Session) (sender : String) (id envelope : Option String) : Prop :=
  ∀ name text recvKey opened, nonEmpty id = some name → nonEmpty envelope = some text → s.recvKey = some recvKey →
    unsealPayload C recvKey s.channelId text ⟨.req, sender, name⟩ = .ok opened → s.recvSeq < opened.seq →
    s.savesLater = false → s.Admits C name opened.data opened.plaintext

theorem ne_of_nonEmpty {field : Option String} {text : String} (shown : nonEmpty field = some text) : text ≠ "" := by
  rintro rfl
  unfold nonEmpty at shown
  split at shown
  · split_ifs at shown with empty
    cases shown
    exact empty rfl
  · cases shown

theorem handleRequest_tracks (h : Tracks False smooth uses origin s)
    (same : smooth → s.broadcastResponseCache = origin.broadcastResponseCache) {sender : String} {id envelope : Option String}
    (fine : smooth → s.phase = .connected → s.fromRemote sender = true → s.AdmitsFrame C sender id envelope) :
    Tracks True smooth uses origin (after (handleRequest C sender id envelope) s) := by
  have kept : Tracks True smooth uses origin s := h.may fun _ => trivial
  unfold handleRequest
  rw [after_get_bind]
  by_cases away : s.phase ≠ .connected ∨ !s.fromRemote sender
  · rw [if_pos away]
    exact kept
  · rw [if_neg away]
    obtain ⟨live, known⟩ := not_or.mp away
    cases named : nonEmpty id with
    | none => exact kept
    | some name =>
      dsimp only
      split
      · rename_i text recvKey shown keyed
        have opened := openRequest_tracks C h (ne_of_nonEmpty named) same recvKey sender text
          fun opened opens below now run => fine run (by simpa using live) (by simpa using known) name text recvKey opened
            named shown keyed opens below now
        have caught : Keeps (Preserve (Tracks True smooth uses origin))
            (reject C name "decryption_failed" "Failed to decrypt request" true) := reject_tracks C _ _ _ _
        exact Keeps.after_tryCatch_of_handler (fun _ => caught) s opened
      · exact reject_tracks C _ _ _ _ s kept

/-! ### Reconnecting -/

theorem giveUpReconnect_tracks (h : Tracks lost smooth uses origin s) :
    Tracks True smooth uses origin (after giveUpReconnect s) := by
  let finished : Session := { s with timers := s.timers.stopReconnect, reconnecting := false, intentionalClose := true }
  have marked : Tracks lost smooth uses origin finished := h.besides rfl rfl (fun _ member => member) fun _ _ => .inl rfl
  -- marking the session as closed first makes no difference
  have ordered : after giveUpReconnect s = after (do
      forgetRequests
      clearPersistence
      emit (.reconnectExhausted s.reconnectAttempt)
      setPhase .closed : M Unit) finished := by
    unfold giveUpReconnect stopReconnect forgetRequests clearPersistence
    simp only [after_modify_bind, after_get_bind, finished]
    congr 1
    cases s.options.persistence with
    | none => rfl
    | some adapter =>
      dsimp only
      split_ifs <;> rfl
  rw [ordered]
  exact closing_tracks (.bind clearPersistence_tracks fun _ => .bind (emit_tracks _) fun _ => setPhase_tracks fun _ => rfl)
    marked rfl

theorem scheduleReconnect_tracks : Keeps (Preserve (Tracks True smooth uses origin)) scheduleReconnect := by
  have started : Keeps (Preserve (Tracks True smooth uses origin))
      (modify fun s => if s.reconnectStartedAt = 0 then { s with reconnectStartedAt := s.inputs.now } else s : M Unit) := by
    intro s h
    rw [after_modify]
    split
    · exact h.besides rfl rfl (fun _ member => member) fun _ finished => finished
    · exact h
  exact .bind .get fun _ => .ite (.pure _) (.bind started fun _ => .bind .get fun _ =>
    .ite (fun _ h => giveUpReconnect_tracks h)
      (modify_tracks (fun _ => rfl) (fun _ => rfl) (fun _ => rfl) fun _ _ finished => finished))

/-- What follows a part of a step that forgets nothing. -/
theorem then_tracks {α : Type} {m : M α} {f : α → M Unit} (first : Keeps (Preserve (Tracks False smooth uses origin)) m)
    (rest : ∀ a, Keeps (Preserve (Tracks True smooth uses origin)) (f a)) (h : Tracks False smooth uses origin s) :
    Tracks True smooth uses origin (after (m >>= f) s) :=
  Keeps.after_bind rest s ((first s h).may fun _ => trivial)

theorem startReconnect_tracks (h : Tracks False smooth uses origin s) :
    Tracks True smooth uses origin (after startReconnect s) := by
  unfold startReconnect
  rw [after_get_bind, after_modify_bind]
  refine then_tracks (setPhase_tracks fun no => no.elim) (fun _ => ?_)
    (h.besides rfl rfl (fun _ member => member) fun no => no.elim)
  exact .ite (.bind (modify_tracks (fun _ => rfl) (fun _ => rfl) (fun _ => rfl) fun _ _ finished => finished) fun _ =>
    scheduleReconnect_tracks) scheduleReconnect_tracks

theorem handleTransportClose_tracks (h : Tracks False smooth uses origin s) :
    Tracks True smooth uses origin (after handleTransportClose s) := by
  unfold handleTransportClose
  rw [after_get_bind]
  split
  · exact startReconnect_tracks h
  · exact h.may fun _ => trivial

theorem setTransportUrl_tracks : Keeps (Preserve (Tracks lost smooth uses origin)) setTransportUrl := by
  intro s h
  unfold setTransportUrl
  rw [after_modify]
  split_ifs
  · exact h.besides rfl rfl (fun _ member => member) fun _ finished => finished
  · exact h.besides rfl rfl (fun _ member => member) fun _ finished => finished
  · exact h

theorem doReconnectAttempt_tracks : Keeps (Preserve (Tracks False smooth uses origin)) doReconnectAttempt := by
  have connects : Keeps (Preserve (Tracks False smooth uses origin)) (awaitConnect .reconnect) :=
    modify_tracks (fun _ => rfl) (fun _ => rfl) (fun _ => rfl) fun _ no => no.elim
  exact .bind .get fun _ => .ite (.pure _) (.ite (.bind setTransportUrl_tracks fun _ => connects) connects)

/-! ### Messages -/

theorem handleReady_tracks (state remote : Option String) (h : Tracks False smooth uses origin s) :
    Tracks True smooth uses origin (after (handleReady state remote) s) := by
  have field {f : Session → Session} (books : ∀ s, (f s).requestBooks = s.requestBooks) (trace : ∀ s, (f s).trace = s.trace)
      (queued : ∀ s, (f s).journal = s.journal) : Keeps (Preserve (Tracks False smooth uses origin)) (modify f) :=
    modify_tracks books trace queued fun _ no => no.elim
  have opens : Keeps (Preserve (Tracks False smooth uses origin)) (do
      modify fun s => { s with reconnecting := false, reconnectAttempt := 0, reconnectStartedAt := 0 }
      setPhase .connected
      startSessionTtl
      startHeartbeat
      persistSnapshotAsync : M Unit) :=
    .bind (field (fun _ => rfl) (fun _ => rfl) fun _ => rfl) fun _ => .bind (setPhase_tracks fun no => no.elim) fun _ =>
      .bind (field (fun _ => rfl) (fun _ => rfl) fun _ => rfl) fun _ =>
      .bind (field (fun _ => rfl) (fun _ => rfl) fun _ => rfl) fun _ => .bind (persistSnapshot_tracks _ nofun) fun _ => .pure _
  unfold handleReady stopReconnect
  rw [after_modify_bind, after_get_bind]
  have stopped : Tracks False smooth uses origin { s with timers := s.timers.stopReconnect } :=
    h.besides rfl rfl (fun _ member => member) fun no => no.elim
  by_cases connects : state = some "connected"
  · rw [if_pos connects]
    split
    · exact then_tracks (emit_tracks _) (fun _ => close_keeps _) stopped
    · exact (opens _ stopped).may fun _ => trivial
  · rw [if_neg connects]
    split
    · exact (setPhase_tracks (fun no => no.elim) _ stopped).may fun _ => trivial
    · exact stopped.may fun _ => trivial

/-- The end of a session at the word of the other side or of the relay. -/
theorem ending_tracks (h : Tracks lost smooth uses origin s) : Tracks True smooth uses origin (after (do
    forgetRequests
    clearPersistence
    setPhase .closed
    modify fun s => { s with intentionalClose := true } : M Unit) s) := by
  -- the session is over as soon as its phase is set, or was before
  have marked := h.besides (t := { s with intentionalClose := true }) rfl rfl (fun _ member => member) fun _ _ => .inl rfl
  have cleared := clearPersistence_tracks _ (marked.forgets (.inl rfl))
  unfold forgetRequests
  rw [after_modify_bind]
  let u : Session := { s with
    pendingRequestRecords := .empty, idempotencyCache := .empty, broadcastResponseCache := .empty }
  change Tracks True smooth uses origin (after _ u)
  obtain ⟨v, run, same⟩ : ∃ v, clearPersistence u = .ok () v ∧
      after clearPersistence { u with intentionalClose := true } = { v with intentionalClose := true } := by
    unfold clearPersistence
    rw [modify_apply, after_modify]
    refine ⟨_, rfl, ?_⟩
    cases s.options.persistence with
    | none => rfl
    | some adapter =>
      dsimp only [u]
      split_ifs <;> rfl
  rw [after_bind_of_ok run]
  have finished : Tracks True smooth uses origin { v with intentionalClose := true } := same ▸ cleared
  by_cases already : v.phase = .closed
  · have stays : setPhase .closed v = .ok () v := by
      unfold setPhase
      rw [get_bind_apply, if_pos already]
      rfl
    rw [after_bind_of_ok stays]
    exact finished
  · have rest : Keeps (Preserve (Tracks True smooth uses origin)) (do
        emit (.phase .closed)
        modify fun s => { s with intentionalClose := true } : M Unit) :=
      .bind (emit_tracks _) fun _ => modify_tracks (fun _ => rfl) (fun _ => rfl) (fun _ => rfl) fun _ _ _ => .inl rfl
    have enters : after (do
        setPhase .closed
        modify fun s => { s with intentionalClose := true } : M Unit) v = after (do
          emit (.phase .closed)
          modify fun s => { s with intentionalClose := true } : M Unit)
        { v with phase := .closed, timers := v.timers.stopHeartbeat } := by
      unfold setPhase
      rw [bind_assoc, after_get_bind, if_neg already, bind_assoc, after_modify_bind]
      rfl
    rw [enters]
    exact rest _ (finished.besides rfl rfl (fun _ member => member) fun _ _ => .inr rfl)

theorem handleMessage_tracks (h : Tracks False smooth uses origin s)
    (same : smooth → s.broadcastResponseCache = origin.broadcastResponseCache) {msg : ProtocolMessage}
    (fine : smooth → ∀ id envelope, msg.body = .req id envelope → msg.sender ≠ "_adapter" → msg.v = 1 →
      s.phase = .connected → s.fromRemote msg.sender = true → s.AdmitsFrame C msg.sender id envelope) :
    Tracks True smooth uses origin (after (handleMessage C msg) s) := by
  have kept : Tracks True smooth uses origin s := h.may fun _ => trivial
  obtain ⟨v, ch, ts, sender, body⟩ := msg
  unfold handleMessage
  by_cases spoofed : (!body.fromRelay) = true ∧ sender = "_adapter"
  · rw [if_pos spoofed]
    exact emit_tracks _ s kept
  · rw [if_neg spoofed]
    by_cases old : v ≠ 1
    · rw [if_pos old]
      exact close_keeps _ s kept
    · rw [if_neg old]
      cases body with
      | ready state remote => exact handleReady_tracks state remote h
      | req id envelope =>
        have sent : sender ≠ "_adapter" := fun adapter => spoofed ⟨rfl, adapter⟩
        exact handleRequest_tracks C h same fun run => fine run id envelope rfl sent (not_not.mp old)
      | ping => exact sendRaw_tracks _ _ s kept
      | pong => exact kept.besides rfl rfl (fun _ member => member) fun _ finished => finished
      | close reason =>
        change Tracks True smooth uses origin (after handleClose s)
        unfold handleClose
        rw [after_get_bind]
        split
        · exact ending_tracks h
        · exact kept
      | terminate reason =>
        change Tracks True smooth uses origin (after (handleTerminate reason) s)
        unfold handleTerminate
        rw [after_get_bind]
        split_ifs
        · exact kept
        · exact startReconnect_tracks h
        · exact ending_tracks h
      | create dappMeta => exact kept
      | join sealedJoin => exact kept
      | accept target => exact kept
      | res id envelope => exact kept
      | evt id envelope => exact kept

/-! ### Continuations -/

theorem joinFailed_tracks (reconnecting : Bool) (error : String) :
    Keeps (Preserve (Tracks True smooth uses origin)) (joinFailed reconnecting error) :=
  .tryCatch (.bind (persistenceError_tracks error) fun _ => .ite scheduleReconnect_tracks (.pure _)) fun _ =>
    .ite scheduleReconnect_tracks (.pure _)

theorem observeSend_tracks (observed : Bool) (error : String) :
    Keeps (Preserve (Tracks True smooth uses origin)) (observeSend observed error) := .ite (emit_tracks _) (.pure _)

/-- Taking a receive back. -/
theorem rollback_tracks (prevRecvSeq : Int) (error : String) : Keeps (Preserve (Tracks True smooth uses origin)) (do
    modify fun s => { s with recvSeq := prevRecvSeq }
    let wrapped ← persistenceError error
    emit (.error wrapped) : M Unit) :=
  .bind (modify_tracks (fun _ => rfl) (fun _ => rfl) (fun _ => rfl) fun _ _ finished => finished) fun _ =>
    .bind (persistenceError_tracks _) fun _ => emit_tracks _

theorem resume_tracks (h : Tracks False smooth uses origin s)
    (same : smooth → s.broadcastResponseCache = origin.broadcastResponseCache) {task : Task}
    (named : ∀ d, task.receipt = some d → d.id ≠ "")
    (fine : smooth → ∀ frame data prevRecvSeq, task = .request frame data prevRecvSeq → s.Admits C frame.id data frame.plaintext) :
    Tracks True smooth uses origin (after (resume C task) s) := by
  have kept : Tracks True smooth uses origin s := h.may fun _ => trivial
  cases task with
  | respond id ok data caches observed seq =>
    have rest : Keeps (Preserve (Tracks True smooth uses origin)) (resume C (.respond id ok data caches observed seq)) :=
      .tryCatch (.bind (sendAnswer_tracks C _ _ _ _ _) fun _ => .pure _) fun _ => observeSend_tracks _ _
    exact rest s kept
  | event name data evtId seq =>
    have rest : Keeps (Preserve (Tracks True smooth uses origin)) (resume C (.event name data evtId seq)) :=
      .tryCatch (sendEvent_tracks C _ _ _ _) fun _ => .pure _
    exact rest s kept
  | request frame data prevRecvSeq =>
    have delivered := deliverRequest_tracks C h frame (named frame rfl) same fun run => fine run frame data prevRecvSeq rfl
    exact Keeps.after_tryCatch_of_handler (rollback_tracks prevRecvSeq) s delivered
  | join channelId sender ts sealedJoin reconnecting =>
    have rest : Keeps (Preserve (Tracks True smooth uses origin)) (resume C (.join channelId sender ts sealedJoin reconnecting)) :=
      .tryCatch (sendMessage_tracks _ _) fun _ => joinFailed_tracks _ _
    exact rest s kept
  | snapshot => exact kept
  | cleared => exact kept

theorem fail_tracks (error : String) (task : Task) : Keeps (Preserve (Tracks True smooth uses origin)) (fail error task) := by
  cases task with
  | respond id ok data caches observed seq =>
    exact .tryCatch (.bind (persistenceError_tracks _) fun _ => .throw _) fun _ => observeSend_tracks _ _
  | event name data evtId seq => exact .bind (persistenceError_tracks _) fun _ => .pure _
  | request frame data prevRecvSeq => exact rollback_tracks prevRecvSeq error
  | join channelId sender ts sealedJoin reconnecting => exact joinFailed_tracks _ _
  | snapshot => exact .bind (persistenceError_tracks _) fun _ => .pure _
  | cleared => exact emit_tracks _

theorem settleCall_tracks (h : Tracks False smooth uses origin s)
    (same : smooth → s.broadcastResponseCache = origin.broadcastResponseCache) {ticket : Nat} {resolves : Bool}
    (fine : smooth → resolves = true → ∀ call ∈ s.journal.find ticket, call.durable = true → ∀ frame data prevRecvSeq,
      call.task = .request frame data prevRecvSeq → s.Admits C frame.id data frame.plaintext) :
    Tracks True smooth uses origin (after (settleCall C ticket resolves) s) := by
  have removed : Tracks False smooth uses origin { s with journal := s.journal.remove ticket } :=
    h.besides rfl rfl (deferred_remove s ticket) fun no => no.elim
  rcases settleCall_cases C ticket resolves s with idle | ⟨call, found, ⟨yes, durable, run⟩ | ⟨-, run⟩⟩
  · rw [idle]
    exact h.may fun _ => trivial
  · rw [run]
    refine resume_tracks C removed same (fun d receipt => ?_) fun smoothly frame data prevRecvSeq shape => ?_
    · have queued : d ∈ s.deferred := List.mem_filterMap.mpr ⟨call, (Journal.mem_of_find found).1, receipt⟩
      exact h.bounded.queued d queued
    · exact fine smoothly yes call found durable frame data prevRecvSeq shape
  · rw [run]
    exact fail_tracks _ _ _ (removed.may fun _ => trivial)

theorem sendJoin_tracks (reconnecting : Bool) : Keeps (Preserve (Tracks False smooth uses origin)) (sendJoin C reconnecting) := by
  have took : Keeps (Preserve (Tracks False smooth uses origin)) (takeSealedJoin C) := by
    refine .bind .get fun s => ?_
    cases s.sessionKey with
    | none => exact .pure _
    | some sessionKey =>
      exact .bind (.runExcept _) fun _ =>
        .bind (modify_tracks (fun _ => rfl) (fun _ => rfl) (fun _ => rfl) fun _ no => no.elim) fun _ => .pure _
  exact .bind took fun _ => .bind .get fun _ => .bind (persistSnapshot_tracks _ nofun) fun _ =>
    .ite (.pure _) (sendMessage_tracks _ _)

theorem settleConnect_tracks (ticket : Nat) (opened : Bool) (h : Tracks False smooth uses origin s) :
    Tracks True smooth uses origin (after (settleConnect C ticket opened) s) := by
  have join (reconnecting : Bool) : Keeps (Preserve (Tracks False smooth uses origin)) (do
      setPhase .waitingAccept
      sendJoin C reconnecting : M Unit) :=
    .bind (setPhase_tracks fun no => no.elim) fun _ => sendJoin_tracks C _
  unfold settleConnect
  rw [after_get_bind]
  cases s.connects.find? (fun c => c.1 == ticket) with
  | none => exact h.may fun _ => trivial
  | some c =>
    obtain ⟨n, next⟩ := c
    dsimp only
    rw [after_modify_bind]
    have taken : Tracks False smooth uses origin { s with connects := s.connects.filter (fun c => c.1 != ticket) } :=
      h.besides rfl rfl (fun _ member => member) fun no => no.elim
    match next, opened with
    | .confirm, true => exact (join false _ taken).may fun _ => trivial
    | .confirm, false => exact taken.may fun _ => trivial
    | .reconnect, true =>
      exact Keeps.after_tryCatch_of_handler (fun _ => scheduleReconnect_tracks) _ ((join true _ taken).may fun _ => trivial)
    | .reconnect, false => exact scheduleReconnect_tracks _ (taken.may fun _ => trivial)

/-! ### Timers and calls -/

theorem fire_tracks (name : TimerName) (h : Tracks False smooth uses origin s) :
    Tracks True smooth uses origin (after (fire name) s) := by
  have field {f : Session → Session} (books : ∀ s, (f s).requestBooks = s.requestBooks) (trace : ∀ s, (f s).trace = s.trace)
      (queued : ∀ s, (f s).journal = s.journal) : Keeps (Preserve (Tracks False smooth uses origin)) (modify f) :=
    modify_tracks books trace queued fun _ no => no.elim
  unfold fire
  rw [after_get_bind]
  cases name with
  | reconnect =>
    have rest : Keeps (Preserve (Tracks False smooth uses origin)) (if due s.inputs.now s.timers.reconnect then do
        modify fun s => { s with timers := s.timers.stopReconnect }
        doReconnectAttempt
        modify fun s => { s with reconnectAttempt := s.reconnectAttempt + 1 } else pure () : M Unit) :=
      .ite (.bind (field (fun _ => rfl) (fun _ => rfl) fun _ => rfl) fun _ => .bind doReconnectAttempt_tracks fun _ =>
        field (fun _ => rfl) (fun _ => rfl) fun _ => rfl) (.pure _)
    exact (rest s h).may fun _ => trivial
  | heartbeat =>
    dsimp only
    split
    · rw [after_modify_bind]
      have rearmed : Tracks False smooth uses origin { s with timers := { s.timers with
          heartbeat := some (s.inputs.now + s.options.heartbeatInterval) } } :=
        h.besides rfl rfl (fun _ member => member) fun no => no.elim
      split
      · have pings : Keeps (Preserve (Tracks False smooth uses origin)) ping :=
          .bind .get fun _ => .ite (sendRaw_tracks _ _) (.pure _)
        refine then_tracks pings (fun _ s h => ?_) rearmed
        rw [after_modify]
        split
        · exact h.besides rfl rfl (fun _ member => member) fun _ finished => finished
        · exact h
      · exact rearmed.may fun _ => trivial
    · exact h.may fun _ => trivial
  | liveness =>
    dsimp only
    split
    · rw [after_modify_bind]
      exact handleTransportClose_tracks (h.besides rfl rfl (fun _ member => member) fun no => no.elim)
    · exact h.may fun _ => trivial
  | sessionTtl =>
    dsimp only
    split
    · rw [after_modify_bind]
      have lapsed : Tracks False smooth uses origin { s with timers := s.timers.clearSessionTtl } :=
        h.besides rfl rfl (fun _ member => member) fun no => no.elim
      exact then_tracks (emit_tracks _) (fun _ => close_keeps _) lapsed
    · exact h.may fun _ => trivial

theorem destroy_tracks (h : Tracks False smooth uses origin s) : Tracks True smooth uses origin (after destroy s) := by
  have closed := close_tracks "normal" h
  unfold destroy
  rw [after_bind]
  obtain ⟨ended, shut⟩ := (close_closes "normal" s).link
  have finished : (after (close "normal") s).intentionalClose = true := congrArg Link.intentionalClose shut
  cases run : close "normal" s with
  | error e t =>
    rw [after_of_error run] at closed
    exact closed
  | ok a t =>
    rw [after_of_ok run] at closed finished
    dsimp only
    rw [after_modify_bind]
    refine closing_tracks ?_ (closed.besides rfl rfl (fun _ member => member) fun _ finished => finished) finished
    exact modify_tracks (fun _ => rfl) (fun _ => rfl) (fun _ => rfl) fun _ _ finished => finished

theorem reconnect_tracks : Keeps (Preserve (Tracks False smooth uses origin)) reconnect := by
  have field {f : Session → Session} (books : ∀ s, (f s).requestBooks = s.requestBooks) (trace : ∀ s, (f s).trace = s.trace)
      (queued : ∀ s, (f s).journal = s.journal) : Keeps (Preserve (Tracks False smooth uses origin)) (modify f) :=
    modify_tracks books trace queued fun _ no => no.elim
  exact .bind (field (fun _ => rfl) (fun _ => rfl) fun _ => rfl) fun _ =>
    .bind (field (fun _ => rfl) (fun _ => rfl) fun _ => rfl) fun _ => .bind (setPhase_tracks fun no => no.elim) fun _ =>
    .bind (field (fun _ => rfl) (fun _ => rfl) fun _ => rfl) fun _ => doReconnectAttempt_tracks

theorem confirmJoin_tracks : Keeps (Preserve (Tracks False smooth uses origin)) confirmJoin :=
  .bind .get fun _ => .ite (.throw _) (.bind setTransportUrl_tracks fun _ =>
    modify_tracks (fun _ => rfl) (fun _ => rfl) (fun _ => rfl) fun _ no => no.elim)

end Steps

end WalletPair.Sdk.Wallet
