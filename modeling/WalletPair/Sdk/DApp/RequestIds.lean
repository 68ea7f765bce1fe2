import WalletPair.Sdk.Number
import WalletPair.Sdk.DApp.Deliveries

/-! The ids of requests. A call takes the next value of a counter for its id, and the counter
is saved together with the sequence numbers; so a restored session goes on above every id
that was ever sealed, and two frames with one id belong to one call. -/

namespace WalletPair.Sdk.DApp
open WalletPair.Lib WalletPair.Lib.Program

def requestId (n : Nat) : String := "req-" ++ toString n

theorem requestId_injective {m n : Nat} (same : requestId m = requestId n) : m = n := by
  have digits : (toString m : String) = toString n := by
    have spelled := congrArg String.toList same
    simp only [requestId, String.toList_append, List.append_cancel_left_eq] at spelled
    exact String.toList_injective spelled
  exact Num.toString_injective digits

/-- The counter of ids that a restored session starts from. -/
def Snapshot.idMark (d : Snapshot) : Nat := d.reqCounter.getD 0

/-- Every snapshot that counts past the number counts past the id. -/
def Snapshot.KeepsUp (n : Nat) (id : String) (d : Snapshot) : Prop :=
  n < d.sendMark → ∀ k, id = requestId k → k ≤ d.idMark

section Claims
variable (C : Crypto)

/-- A frame with this claim was sealed. -/
def Session.Asked (s : Session) (c : Claim) : Prop := ∃ frame ∈ s.sealedFrames, claimOf frame = c

/-- A frame with this claim was sealed, or waits for its save to be sealed. -/
def Session.Claimed (s : Session) (c : Claim) : Prop :=
  s.Asked c ∨ ∃ call ∈ s.journal.calls, ∃ a n, call.task.asking = some (a, n) ∧ a.claim C = c

/-- One id belongs to one call with one text, its counter is in storage as soon as the frame's
number is, and every pending request was sealed. -/
structure Session.Distinct (s : Session) : Prop where
  saved : s.options.persistence ≠ none
  unique : ∀ c d, s.Claimed C c → s.Claimed C d → c.id = d.id → c = d
  counted : s.privKey.isSome = true → ∀ c, s.Claimed C c → ∀ k, c.id = requestId k → k ≤ s.reqCounter
  bounded : s.privKey.isSome = true → s.journal.Every fun d => d.sendMark ≤ s.sendSeq
  sealedMarks : ∀ frame ∈ s.sealedFrames, s.journal.Every (Snapshot.KeepsUp frame.seq frame.header.id)
  waitingMarks : ∀ call ∈ s.journal.calls, ∀ a n, call.task.asking = some (a, n) →
    s.journal.Every (Snapshot.KeepsUp n a.id)
  pending : ∀ id p, s.pendingRequests.get id = some p → p.id = id ∧ s.Asked (p.ask.claim C)

/-- No frame with this id was sealed or waits. -/
def Session.NewId (s : Session) (id : String) : Prop :=
  s.privKey.isSome = true → id = requestId s.reqCounter ∧ ∀ c, s.Claimed C c → c.id ≠ id

/-- The request may be sealed under this number. -/
structure Session.MayAsk (s : Session) (a : Ask) (n : Nat) : Prop where
  same : ∀ c, s.Claimed C c → c.id = a.id → c = a.claim C
  counted : s.privKey.isSome = true → ∀ k, a.id = requestId k → k ≤ s.reqCounter
  marks : s.journal.Every (Snapshot.KeepsUp n a.id)

end Claims

section Invariant
variable {C : Crypto} {s t : Session} {a : Ask} {c : Claim} {d : Snapshot} {n : Nat}

theorem Session.Asked.later (asked : s.Asked c) (grown : s.trace <+: t.trace) : t.Asked c :=
  ⟨asked.choose, (grown.sublist.filterMap _).subset asked.choose_spec.1, asked.choose_spec.2⟩

/-- A snapshot of the session counts as far as the session. -/
theorem serialize_marks (current : s.serialize = some d) :
    s.privKey.isSome = true ∧ d.sendMark = s.sendSeq ∧ d.idMark = s.reqCounter := by
  obtain ⟨live, mark, -, -, -, -, counter⟩ := serialize_some .outbound current
  exact ⟨live, mark, by rw [Snapshot.idMark, counter, Option.getD_some]⟩

theorem Session.Distinct.keepsUp (h : s.Distinct C) (current : s.serialize = some d) (claimed : s.Claimed C c)
    (n : Nat) : d.KeepsUp n c.id := by
  obtain ⟨live, -, counter⟩ := serialize_marks current
  intro _ k same
  rw [counter]
  exact h.counted live c claimed k same

theorem Session.MayAsk.keepsUp (may : s.MayAsk C a n) (current : s.serialize = some d) : d.KeepsUp n a.id := by
  obtain ⟨live, -, counter⟩ := serialize_marks current
  intro _ k same
  rw [counter]
  exact may.counted live k same

/-- No call that asks is new, and nothing was recorded: nothing new is claimed. -/
theorem Session.Claimed.earlier (calls : ∀ e ∈ t.journal.calls, e.task.asking ≠ none → ∃ b ∈ s.journal.calls, b.task = e.task)
    (sealed : t.sealedFrames = s.sealedFrames) (claimed : t.Claimed C c) : s.Claimed C c := by
  rcases claimed with ⟨frame, mem, same⟩ | ⟨e, mem, a, n, asks, same⟩
  · exact Or.inl ⟨frame, sealed ▸ mem, same⟩
  · obtain ⟨b, old, task⟩ := calls e mem (by simp [asks])
    exact Or.inr ⟨b, old, a, n, task ▸ asks, same⟩

/-- Nothing is claimed that was not, the counters are as they were, and storage has come by
snapshots of this session only. -/
structure Settled (s t : Session) : Prop where
  options : t.options = s.options
  privKey : t.privKey = s.privKey
  reqCounter : t.reqCounter = s.reqCounter
  sendSeq : t.sendSeq = s.sendSeq
  calls : ∀ e ∈ t.journal.calls, e.task.asking ≠ none → ∃ b ∈ s.journal.calls, b.task = e.task
  sealed : t.sealedFrames = s.sealedFrames
  stored : ∀ P : Snapshot → Prop, s.journal.Every P → (∀ d, s.serialize = some d → P d) → t.journal.Every P
  pending : ∀ id p, t.pendingRequests.get id = some p → s.pendingRequests.get id = some p

theorem Settled.idle (options : t.options = s.options) (privKey : t.privKey = s.privKey)
    (reqCounter : t.reqCounter = s.reqCounter) (sendSeq : t.sendSeq = s.sendSeq) (journal : t.journal = s.journal)
    (sealed : t.sealedFrames = s.sealedFrames)
    (pending : ∀ id p, t.pendingRequests.get id = some p → s.pendingRequests.get id = some p) : Settled s t :=
  ⟨options, privKey, reqCounter, sendSeq, fun e mem _ => ⟨e, journal ▸ mem, rfl⟩, sealed,
    fun _ held _ => journal.symm ▸ held, pending⟩

theorem Session.Distinct.settled (h : s.Distinct C) (same : Settled s t) : t.Distinct C := by
  have claimed {c : Claim} (new : t.Claimed C c) : s.Claimed C c := new.earlier same.calls same.sealed
  refine ⟨same.options ▸ h.saved, fun c d left right => h.unique c d (claimed left) (claimed right), ?_, ?_, ?_, ?_, ?_⟩
  · intro live c new
    rw [same.reqCounter]
    exact h.counted (same.privKey ▸ live) c (claimed new)
  · intro live
    rw [same.sendSeq]
    exact same.stored _ (h.bounded (same.privKey ▸ live)) fun d current => (serialize_marks current).2.1.le
  · intro frame mem
    have old : frame ∈ s.sealedFrames := same.sealed ▸ mem
    exact same.stored _ (h.sealedMarks frame old) fun d current =>
      h.keepsUp (c := claimOf frame) current (Or.inl ⟨frame, old, rfl⟩) frame.seq
  · intro e mem a n asks
    obtain ⟨b, old, task⟩ := same.calls e mem (by simp [asks])
    have asked : b.task.asking = some (a, n) := task ▸ asks
    exact same.stored _ (h.waitingMarks b old a n asked) fun d current =>
      h.keepsUp (c := a.claim C) current (Or.inr ⟨b, old, a, n, asked, rfl⟩) n
  · intro id p found
    obtain ⟨named, frame, mem, shown⟩ := h.pending id p (same.pending id p found)
    exact ⟨named, frame, same.sealed.symm ▸ mem, shown⟩

theorem Session.MayAsk.settled (may : s.MayAsk C a n) (same : Settled s t) : t.MayAsk C a n := by
  refine ⟨fun c new => may.same c (new.earlier same.calls same.sealed), ?_, ?_⟩
  · rw [same.privKey, same.reqCounter]
    exact may.counted
  · exact same.stored _ may.marks fun d current => may.keepsUp current

theorem settled_of_move {k : Kind} (other : k ≠ .sending) (move : Move s k t) : Settled s t := by
  have enqueued {task : Task} {write : Option Snapshot} (silent : task.asking = none) :
      ∀ e ∈ (s.journal.enqueue s.ticket write task).calls, e.task.asking ≠ none → ∃ b ∈ s.journal.calls, b.task = e.task := by
    intro e mem asks
    rcases List.mem_append.mp mem with old | new
    · exact ⟨e, old, rfl⟩
    · rw [List.mem_singleton.mp new] at asks
      exact absurd silent asks
  cases move with
  | note o => exact .idle rfl rfl rfl rfl rfl (sealedFrames_of_move other (.note o)) fun _ _ found => found
  | save task snapshot adapter configured async current =>
    have silent : task.asking = none := by
      cases task with
      | request promise id method params seq => exact absurd rfl other
      | resend promise id method params seq => exact absurd rfl other
      | _ => rfl
    exact ⟨rfl, rfl, rfl, rfl, enqueued silent, rfl, fun P held now => held.enqueue fun d same =>
      now d (Option.some.inj same ▸ current), fun _ _ found => found⟩
  | put task snapshot adapter configured sync current =>
    exact ⟨rfl, rfl, rfl, rfl, fun e mem _ => ⟨e, mem, rfl⟩, rfl, fun P held now => held.put fun d same =>
      now d (Option.some.inj same ▸ current), fun _ _ found => found⟩
  | clear adapter configured async =>
    have silent : Task.asking .cleared = none := rfl
    exact ⟨rfl, rfl, rfl, rfl, enqueued silent, rfl, fun P held _ => held.enqueue fun d same => (nomatch same),
      fun _ _ found => found⟩
  | wipe adapter configured sync =>
    exact ⟨rfl, rfl, rfl, rfl, fun e mem _ => ⟨e, mem, rfl⟩, rfl, fun P held _ => held.put fun d same => (nomatch same),
      fun _ _ found => found⟩
  | reject done => exact .idle rfl rfl rfl rfl rfl rfl fun id p found => by simp at found
  | take id promise => exact .idle rfl rfl rfl rfl rfl rfl fun _ _ found => OrderedMap.get_of_delete found
  | count => exact absurd rfl other
  | reserve => exact absurd rfl other
  | register id p timer => exact absurd rfl other
  | _ => exact .idle rfl rfl rfl rfl rfl rfl fun _ _ found => found

/-! ### Asking -/

/-- A request with a new id, or one that was sealed before, may take the next number. -/
theorem Session.Distinct.mayAsk (h : s.Distinct C) (live : s.privKey.isSome = true)
    (known : s.NewId C a.id ∨ s.Asked (a.claim C)) : s.MayAsk C a s.sendSeq := by
  have marks : s.journal.Every (Snapshot.KeepsUp s.sendSeq a.id) :=
    (h.bounded live).imp fun d below above => absurd above (Nat.not_lt.mpr below)
  rcases known with new | asked
  · obtain ⟨named, unclaimed⟩ := new live
    refine ⟨fun c claimed same => absurd same (unclaimed c claimed), fun _ k same => ?_, marks⟩
    exact (requestId_injective (same.symm.trans named)).le
  · have claimed : s.Claimed C (a.claim C) := Or.inl asked
    exact ⟨fun c other same => h.unique c (a.claim C) other claimed same, fun live k same =>
      h.counted live _ claimed k same, marks⟩

/-- The request waits for the save of its number. -/
theorem Session.Distinct.waits (h : s.Distinct C) (current : s.serialize = some d) {task : Task}
    (asks : task.asking = some (a, n)) (may : s.MayAsk C a n) : Session.Distinct C { s with
      ticket := s.ticket + 1, journal := s.journal.enqueue s.ticket (some d) task } := by
  have claims {c : Claim} (new : Session.Claimed C { s with
      ticket := s.ticket + 1, journal := s.journal.enqueue s.ticket (some d) task } c) : s.Claimed C c ∨ c = a.claim C := by
    rcases new with asked | ⟨e, mem, b, m, other, shown⟩
    · exact Or.inl (Or.inl asked)
    · rcases List.mem_append.mp mem with old | new
      · exact Or.inl (Or.inr ⟨e, old, b, m, other, shown⟩)
      · rw [List.mem_singleton.mp new, asks, Option.some.injEq, Prod.mk.injEq] at other
        exact Or.inr (other.1 ▸ shown.symm)
  have joins {P : Snapshot → Prop} (held : s.journal.Every P) (good : P d) :
      (s.journal.enqueue s.ticket (some d) task).Every P := held.enqueue fun snap same => Option.some.inj same ▸ good
  refine ⟨h.saved, ?_, ?_, ?_, ?_, ?_, h.pending⟩
  · intro c e left right same
    rcases claims left with old | rfl <;> rcases claims right with other | rfl
    · exact h.unique c e old other same
    · exact may.same c old same
    · exact (may.same e other same.symm).symm
    · rfl
  · intro live c new
    rcases claims new with old | rfl
    · exact h.counted live c old
    · exact may.counted live
  · intro live
    exact joins (h.bounded live) (serialize_marks current).2.1.le
  · intro frame mem
    exact joins (h.sealedMarks frame mem) (h.keepsUp (c := claimOf frame) current (Or.inl ⟨frame, mem, rfl⟩) frame.seq)
  · intro e mem b m other
    rcases List.mem_append.mp mem with old | new
    · exact joins (h.waitingMarks e old b m other)
        (h.keepsUp (c := b.claim C) current (Or.inr ⟨e, old, b, m, other, rfl⟩) m)
    · rw [List.mem_singleton.mp new, asks, Option.some.injEq, Prod.mk.injEq] at other
      rw [← other.1, ← other.2]
      exact joins may.marks (may.keepsUp current)

theorem reserve_distinct (h : s.Distinct C) {task : Task} (asks : task.asking = some (a, s.sendSeq))
    (known : s.NewId C a.id ∨ s.Asked (a.claim C)) :
    Triple (fun t => t = { s with sendSeq := s.sendSeq + 1 }) (persistSnapshot task)
      (fun waits t => t.Distinct C ∧ (waits = false → t.MayAsk C a s.sendSeq)) (Session.Distinct C) := by
  refine .at_state ?_
  have counted : Session.Distinct C { s with sendSeq := s.sendSeq + 1 } :=
    ⟨h.saved, h.unique, h.counted, fun live => (h.bounded live).imp fun _ below => Nat.le_succ_of_le below,
      h.sealedMarks, h.waitingMarks, h.pending⟩
  have may (live : s.privKey.isSome = true) : Session.MayAsk C { s with sendSeq := s.sendSeq + 1 } a s.sendSeq :=
    ⟨(h.mayAsk live known).same, (h.mayAsk live known).counted, (h.mayAsk live known).marks⟩
  rcases persistSnapshot_cases task { s with sendSeq := s.sendSeq + 1 } with
    ⟨none, -⟩ | ⟨adapter, -, -, run⟩ | ⟨adapter, d, -, -, current, run⟩ | ⟨adapter, d, configured, sync, current, run⟩
  · exact absurd none h.saved
  · rw [run]
    exact counted
  · rw [run]
    exact ⟨counted.waits current asks (may (serialize_marks current).1), nofun⟩
  · rw [run]
    have same := settled_of_move (k := .saving) nofun (Move.put .snapshot d adapter configured sync current)
    exact ⟨counted.settled same, fun _ => (may (serialize_marks current).1).settled same⟩

theorem seal_distinct (h : s.Distinct C) {frame : Sealed} (may : s.MayAsk C a frame.seq) (shown : claimOf frame = a.claim C) :
    Session.Distinct C { s with trace := s.trace ++ [.sealing frame] } := by
  have claims {c : Claim} (new : Session.Claimed C { s with trace := s.trace ++ [.sealing frame] } c) :
      s.Claimed C c ∨ c = a.claim C := by
    rcases new with ⟨f, mem, same⟩ | waiting
    · rw [sealedFrames_sealing] at mem
      rcases List.mem_append.mp mem with old | new
      · exact Or.inl (Or.inl ⟨f, old, same⟩)
      · rw [List.mem_singleton.mp new, shown] at same
        exact Or.inr same.symm
    · exact Or.inl (Or.inr waiting)
  refine ⟨h.saved, ?_, ?_, h.bounded, ?_, h.waitingMarks, ?_⟩
  · intro c e left right same
    rcases claims left with old | rfl <;> rcases claims right with other | rfl
    · exact h.unique c e old other same
    · exact may.same c old same
    · exact (may.same e other same.symm).symm
    · rfl
  · intro live c new
    rcases claims new with old | rfl
    · exact h.counted live c old
    · exact may.counted live
  · intro f mem
    rw [sealedFrames_sealing] at mem
    rcases List.mem_append.mp mem with old | new
    · exact h.sealedMarks f old
    · rw [List.mem_singleton.mp new, show frame.header.id = a.id from congrArg Claim.id shown]
      exact may.marks
  · intro id p found
    obtain ⟨named, asked⟩ := h.pending id p found
    exact ⟨named, asked.later (List.prefix_append _ _)⟩

theorem distinct_rules (C : Crypto) : SendRules C (Session.Distinct C) (Session.NewId C)
    (fun s a => s.Asked (a.claim C)) (Session.MayAsk C) (fun _ _ => True) fun _ _ => True where
  other := fun other move h => h.settled (settled_of_move other move)
  counts := fun {s} h => by
    refine ⟨⟨h.saved, h.unique, fun live c claimed k same => Nat.le_succ_of_le (h.counted live c claimed k same),
      h.bounded, h.sealedMarks, h.waitingMarks, h.pending⟩, fun live => ⟨rfl, fun c claimed same => ?_⟩⟩
    exact absurd (h.counted live c claimed (s.reqCounter + 1) same) (Nat.not_succ_le_self _)
  later := fun grown asked => asked.later grown
  pends := fun {s} h p mem => by
    obtain ⟨⟨id, q⟩, entry, rfl⟩ := List.mem_map.mp mem
    exact (h.pending id q (OrderedMap.get_eq_some.mpr entry)).2
  reserves := fun h _ _ asks known => reserve_distinct h asks known
  seals := fun {s a frame} h may _ shown =>
    ⟨seal_distinct h may shown, trivial, frame, by rw [sealedFrames_sealing]; simp, shown⟩
  registers := fun {s p frame} timers h _ asked => by
    refine ⟨⟨h.saved, h.unique, h.counted, h.bounded, h.sealedMarks, h.waitingMarks, fun id q found => ?_⟩, trivial⟩
    by_cases same : id = p.id
    · subst same
      rw [OrderedMap.get_set_self, Option.some.injEq] at found
      exact found ▸ ⟨rfl, asked⟩
    · rw [OrderedMap.get_set_of_ne same] at found
      exact h.pending id q found
  hands := fun {s message frame} h _ => h.settled (.idle rfl rfl rfl rfl rfl
    (by simp [Session.sealedFrames, Obs.sealedFrame]) fun _ _ found => found)
  removes := fun ticket h => h.settled ⟨rfl, rfl, rfl, rfl, fun e mem _ => ⟨e, (List.mem_filter.mp mem).1, rfl⟩, rfl,
    fun _ held _ => held.remove ticket, fun _ _ found => found⟩
  resumes := fun {s ticket n a call} h _ found _ asks => by
    obtain ⟨mem, -⟩ := Journal.mem_of_find found
    have claimed : s.Claimed C (a.claim C) := Or.inr ⟨call, mem, a, n, asks, rfl⟩
    refine ⟨fun c new same => ?_, fun live => h.counted live _ claimed, (h.waitingMarks call mem a n asks).remove ticket⟩
    have fewer : ∀ e ∈ (s.journal.remove ticket).calls, e.task.asking ≠ none → ∃ b ∈ s.journal.calls, b.task = e.task :=
      fun e mem _ => ⟨e, (List.mem_filter.mp mem).1, rfl⟩
    have old : s.Claimed C c :=
      Session.Claimed.earlier (t := { s with journal := s.journal.remove ticket }) fewer rfl new
    exact h.unique c (a.claim C) old claimed same

/-! ### Crashes and steps -/

/-- A session restored from the latest snapshot goes on above every id that was sealed. -/
theorem Session.Distinct.revived (h : s.Distinct C) (latest : s.journal.disk.latest = some d) (idle : s.journal.calls = [])
    (below : ∀ frame ∈ s.sealedFrames, frame.seq < d.sendMark) (same : Abreast s t) (sendSeq : t.sendSeq = d.sendMark)
    (counter : 0 < d.sendMark → t.reqCounter = d.idMark) : t.Distinct C := by
  have sealed : t.sealedFrames = s.sealedFrames := by
    unfold Session.sealedFrames
    rw [same.trace]
  have calls : t.journal.calls = [] := same.journal ▸ idle
  have claims {c : Claim} (claimed : t.Claimed C c) : ∃ frame ∈ s.sealedFrames, claimOf frame = c := by
    rcases claimed with asked | ⟨e, mem, -⟩
    · exact sealed ▸ asked
    · rw [calls] at mem
      cases mem
  refine ⟨same.options ▸ h.saved, fun c e left right => h.unique c e (Or.inl (claims left)) (Or.inl (claims right)),
    fun _ c claimed k named => ?_, fun _ => ⟨fun snap found => ?_, fun e mem => ?_⟩, ?_, ?_, ?_⟩
  · obtain ⟨frame, mem, rfl⟩ := claims claimed
    have reached := below frame mem
    rw [counter (Nat.zero_lt_of_lt reached)]
    exact (h.sealedMarks frame mem).latest d latest reached k named
  · rw [same.journal, latest, Option.some.injEq] at found
    rw [sendSeq, found]
  · rw [calls] at mem
    cases mem
  · rw [sealed, same.journal]
    exact h.sealedMarks
  · intro e mem
    rw [calls] at mem
    cases mem
  · intro id p found
    rw [same.pending] at found
    obtain ⟨named, frame, mem, shown⟩ := h.pending id p found
    exact ⟨named, frame, sealed ▸ mem, shown⟩

theorem restoreSafely_distinct (h : s.Distinct C) (good : d.Restorable .outbound)
    (latest : s.journal.disk.latest = some d) (idle : s.journal.calls = []) (zero : s.sendSeq = 0)
    (below : ∀ frame ∈ s.sealedFrames, frame.seq < d.sendMark) : (after (restoreSafely d) s).Distinct C := by
  have unused (missing : d.sendKey = none ∨ d.recvKey = none) : d.sendMark = 0 := by
    by_contra above
    have keyed : d.sendKey ≠ none := good.keyed (Nat.pos_of_ne_zero above)
    exact missing.elim keyed (good.paired keyed)
  have remote : Triple (fun t => Abreast s t ∧ t.sendSeq = 0) (restoreRemote d.remotePubKeyB64)
      (fun _ t => Abreast s t ∧ t.sendSeq = 0) (Session.Distinct C) := by
    unfold restoreRemote
    cases shown : nonEmpty d.remotePubKeyB64 with
    | none => exact .modify fun _ held => ⟨⟨held.1.1, held.1.2, held.1.3, held.1.4, held.1.5, held.1.6⟩, held.2⟩
    | some text =>
      dsimp only
      cases decoded : b64urlDecode text with
      | none => exact absurd decoded (good.decodes text shown)
      | some bytes => exact .modify fun _ held => ⟨⟨held.1.1, held.1.2, held.1.3, held.1.4, held.1.5, held.1.6⟩, held.2⟩
  have body : Triple (fun t => t = s) (restore d) (fun _ => Session.Distinct C) (Session.Distinct C) := by
    refine .ite (fun _ => .pure fun _ same => same ▸ h) fun _ => ?_
    refine .bind (Q := fun _ t => Abreast s t ∧ t.sendSeq = 0)
      (.modify fun t same => by
        subst same
        exact ⟨⟨rfl, rfl, rfl, rfl, rfl, rfl⟩, zero⟩) fun _ => .bind remote fun _ =>
      .bind (Q := fun _ t => Abreast s t ∧ t.sendSeq = 0)
        (.modify fun t held => ⟨⟨held.1.1, held.1.2, held.1.3, held.1.4, held.1.5, held.1.6⟩, held.2⟩) fun _ =>
      .ite (fun missing => .pure fun t held => ?_) fun _ =>
      .bind (Q := fun _ => Session.Distinct C) (.modify fun t held => ?_) fun _ =>
      .bind ((distinct_rules C).plain (setPhase_moves _ (Or.inr nofun))) fun _ => .pure fun _ held => held
    · exact h.revived latest idle below held.1 (held.2.trans (unused missing).symm) fun above =>
        absurd (unused missing) (Nat.ne_of_gt above)
    · exact h.revived latest idle below ⟨held.1.1, held.1.2, held.1.3, held.1.4, held.1.5, held.1.6⟩ rfl fun _ => rfl
  exact Triple.final (.tryCatch body fun _ => .pure fun _ held => held) rfl

theorem restart_distinct (h : s.Distinct C) (numbered : s.Numbered .new .outbound) : (after restart s).Distinct C := by
  have fresh : Session.Distinct C s.renewed := by
    have asked {c : Claim} (claimed : Session.Claimed C s.renewed c) : s.Claimed C c :=
      claimed.elim Or.inl fun ⟨e, mem, _⟩ => nomatch mem
    exact ⟨h.saved, fun c e left right => h.unique c e (asked left) (asked right), nofun, nofun,
      fun frame mem => (h.sealedMarks frame mem).crash, fun e mem => (nomatch mem), fun id p found => (nomatch found)⟩
  cases contents : s.journal.disk.contents with
  | none =>
    rw [restart_of_empty contents]
    exact fresh
  | some d =>
    have latest := Disk.latest_of_contents contents
    rw [restart_of_stored contents]
    refine restoreSafely_distinct fresh (numbered.latest d latest (Origin.new_owns _)) latest rfl rfl fun frame mem => ?_
    obtain ⟨last, found, above⟩ := (numbered.covered h.saved frame.seq (List.mem_map_of_mem mem)).latest
    have same : last = d := Option.some.inj (found.symm.trans latest)
    exact same ▸ above

/-- One turn of the event loop inside a pairing. -/
theorem step_distinct {l : Inputs × Label} (inPairing : InPairing s l) (numbered : s.Numbered .new .outbound)
    (h : s.Distinct C) : (step C s l).Distinct C := by
  obtain ⟨inputs, label⟩ := l
  have start : Session.Distinct C { s with inputs := inputs } :=
    h.settled (.idle rfl rfl rfl rfl rfl rfl fun _ _ found => found)
  by_cases moving : label.moving = true
  · exact (distinct_rules C).act label moving _ start
  · cases label with
    | createPairing privateKey channelId deferTransport => exact inPairing.elim
    | restore snapshot => exact inPairing.elim
    | destroy => exact inPairing.elim
    | flush ticket =>
      refine start.settled ⟨rfl, rfl, rfl, rfl, fun e mem _ => ?_, rfl, fun _ held _ => held.flush ticket,
        fun _ _ found => found⟩
      obtain ⟨b, old, same, -⟩ := Journal.mem_flush mem
      exact ⟨b, old, same.symm⟩
    | settle ticket resolves => exact ((distinct_rules C).settleCall ticket resolves).final ⟨start, fun _ => trivial⟩
    | crash => exact restart_distinct start ⟨numbered.toNumbered, numbered.began⟩
    | _ => simp [Label.moving] at moving

end Invariant

end WalletPair.Sdk.DApp
