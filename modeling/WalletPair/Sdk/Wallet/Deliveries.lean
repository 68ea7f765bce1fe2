import WalletPair.Sdk.Wallet.Sending
import WalletPair.Sdk.Wallet.Replay

/-! What one pairing of the wallet session delivers, crashes included. The numbers of the
delivered frames ascend, and every frame that was delivered or waits for its save is one
that the peer is known to have sealed. -/

namespace WalletPair.Sdk.Wallet
open WalletPair.Lib WalletPair.Lib.Program

/-- The frame that waits with this continuation is known. -/
def Task.Knows (known : Delivery → Prop) (task : Task) : Prop := ∀ d, task.receipt = some d → known d

/-- Every frame that waits or was delivered is known. -/
structure Session.Knows (known : Delivery → Prop) (s : Session) : Prop where
  awaited : ∀ c ∈ s.journal.calls, c.task.Knows known
  delivered : ∀ d ∈ s.deliveries, known d

/-- The receive counter is ahead of ascending deliveries, and all frames are known. -/
structure Session.Ordered (known : Delivery → Prop) (s : Session) : Prop where
  numbered : s.Numbered .new .inbound
  knows : s.Knows known

section Knows
variable {known weaker : Delivery → Prop} {s t : Session}

theorem Session.Knows.mono (h : s.Knows known) (imp : ∀ d, known d → weaker d) : s.Knows weaker :=
  ⟨fun c mem d opens => imp d (h.awaited c mem d opens), fun d mem => imp d (h.delivered d mem)⟩

theorem Session.Ordered.mono (h : s.Ordered known) (imp : ∀ d, known d → weaker d) : s.Ordered weaker :=
  ⟨h.numbered, h.knows.mono imp⟩

/-- Nothing new waits and nothing new was delivered. -/
theorem Session.Knows.fewer (h : s.Knows known) (calls : ∀ c ∈ t.journal.calls, ∃ b ∈ s.journal.calls, b.task = c.task)
    (trace : t.trace = s.trace) : t.Knows known := by
  refine ⟨fun c mem => ?_, fun d mem => ?_⟩
  · obtain ⟨b, old, same⟩ := calls c mem
    exact same ▸ h.awaited b old
  · have old : d ∈ s.deliveries := by
      unfold Session.deliveries at mem ⊢
      rwa [trace] at mem
    exact h.delivered d old

theorem Task.knows_of_kind {task : Task} (other : task.kind ≠ .receiving) : task.Knows known := by
  intro d opens
  cases task with
  | request frame data prev => exact absurd rfl other
  | _ => cases opens

theorem Session.Knows.enqueue (h : s.Knows known) {write : Option Snapshot} {task : Task} (fresh : task.Knows known) :
    Session.Knows known { s with ticket := s.ticket + 1, journal := s.journal.enqueue s.ticket write task } := by
  refine ⟨fun c mem => ?_, h.delivered⟩
  rcases List.mem_append.mp mem with old | new
  · exact h.awaited c old
  · rw [List.mem_singleton.mp new]
    exact fresh

theorem Session.Knows.note (h : s.Knows known) {o : Obs} (fresh : ∀ d, o.delivery = some d → known d) :
    Session.Knows known { s with trace := s.trace ++ [o] } := by
  refine ⟨h.awaited, fun d mem => ?_⟩
  obtain ⟨p, member, shape⟩ := List.mem_filterMap.mp mem
  rcases List.mem_append.mp member with old | new
  · exact h.delivered d (List.mem_filterMap.mpr ⟨p, old, shape⟩)
  · rw [List.mem_singleton.mp new] at shape
    exact fresh d shape

theorem knows_of_move {k : Kind} (other : k ≠ .receiving) (move : Move s k t) (h : s.Knows known) : t.Knows known := by
  cases move with
  | note o =>
    refine h.note fun d opens => ?_
    rw [Obs.delivery_eq_none other] at opens
    cases opens
  | save task snapshot adapter configured async current => exact h.enqueue (Task.knows_of_kind other)
  | clear adapter configured async => exact h.enqueue (Task.knows_of_kind nofun)
  | put task snapshot adapter configured sync current => exact ⟨h.awaited, h.delivered⟩
  | wipe adapter configured sync => exact ⟨h.awaited, h.delivered⟩
  | receive seq => exact absurd rfl other
  | _ => exact ⟨h.awaited, h.delivered⟩

theorem knows_of_moves {α : Type} {m : M α} (made : Keeps (Moves (· ≠ .receiving)) m) :
    Keeps (Preserve (Session.Knows known)) m := by
  refine preserve_of_moves made fun s t k allowed move h => knows_of_move ?_ move h
  intro receives
  rw [receives] at allowed
  exact allowed.elim nofun fun other => other rfl

theorem ordered_of_move {k : Kind} (other : k ≠ .receiving) (move : Move s k t) (h : s.Ordered known) :
    t.Ordered known :=
  ⟨numbered_of_move other move h.numbered, knows_of_move other move h.knows⟩

/-! ### Receiving -/

theorem persistSnapshot_knows {task : Task} (fresh : task.Knows known) :
    Triple (Session.Knows known) (persistSnapshot task) (fun _ => Session.Knows known) (Session.Knows known) := by
  intro s h
  rcases persistSnapshot_cases task s with
    ⟨-, run⟩ | ⟨adapter, -, -, run⟩ | ⟨adapter, snap, -, -, -, run⟩ | ⟨adapter, snap, -, -, -, run⟩
  · rw [run]
    exact h
  · rw [run]
    exact h
  · rw [run]
    exact h.enqueue fresh
  · rw [run]
    exact ⟨h.awaited, h.delivered⟩

/-- The frame may be delivered next. -/
def MayDeliver (known : Delivery → Prop) (d : Delivery) (s : Session) : Prop :=
  MayUse (scheme .new .inbound) (s.books .inbound) d.seq ∧ known d

/-- A frame above the counter is counted, and may be delivered once its save is durable. -/
theorem accept_ordered (d : Delivery) (task : Task) (opens : task.receipt = some d) (fresh : task.Knows known) :
    Triple (Advanced (Session.Ordered known) d) (persistSnapshot task)
      (fun waits t => t.Ordered known ∧ (waits = false → MayDeliver known d t)) (Session.Ordered known) := by
  rintro t ⟨⟨s, h, keyed, below, rfl⟩, bounded⟩
  have above : s.next .inbound ≤ d.seq := by
    simp only [Session.next]
    omega
  have next : Session.next { s with recvSeq := d.seq } .inbound = d.seq + 1 := by
    simp only [Session.next]
    omega
  have counted : Session.books { s with recvSeq := d.seq } .inbound = { s.books .inbound with next := d.seq + 1 } := by
    unfold Session.books
    rw [next]
    rfl
  have room : d.seq < Direction.inbound.cap := Nat.lt_succ_of_le bounded
  have holds : task.number .inbound = some d.seq := by simp [Task.number, opens]
  have still : Session.Knows known { s with recvSeq := d.seq } := ⟨h.knows.awaited, h.knows.delivered⟩
  have both := (persistSnapshot_numbered h.numbered counted rfl keyed above room holds).and
    ((persistSnapshot_knows fresh).start still)
  exact both.mono (fun _ same => ⟨same, same⟩) (fun _ _ held => ⟨⟨held.1.1, held.2⟩, fun now =>
    ⟨held.1.2 now, fresh d opens⟩⟩) (fun _ held => ⟨held.1, held.2⟩) _ rfl

theorem deliver_ordered (s : Session) (d : Delivery) (h : s.Ordered known) (may : MayDeliver known d s) :
    Session.Ordered known { s with trace := s.trace ++ [.delivered d] } := by
  have books : Session.books { s with trace := s.trace ++ [.delivered d] } .inbound Origin.new.record =
      { s.books .inbound Origin.new.record with used := (s.books .inbound Origin.new.record).used ++ [d.seq] } := by
    simp [Session.books, Session.key, Session.next, Session.used, Session.handed, Session.deliveries,
      Obs.delivery, Origin.new]
  refine ⟨?_, h.knows.note fun e same => ?_⟩
  · have used := (h.numbered.use may.1).1
    rw [← books] at used
    exact ⟨used, Nat.zero_le _⟩
  · rw [← Option.some.inj same]
    exact may.2

theorem receives_ordered (known : Delivery → Prop) :
    Receives (Task.Knows known) (Session.Ordered known) (MayDeliver known) where
  moves _ _ _ receives move h := ordered_of_move receives move h
  accept d task opens fresh := accept_ordered d task opens fresh
  deliver := deliver_ordered

end Knows

/-! ### Steps -/

section Steps
variable (C : Crypto) {known : Delivery → Prop} {s : Session}

theorem settleCall_ordered {inputs : Inputs} {ticket : Nat} {resolves : Bool}
    (settles : resolves = true ∧ s.journal.NextToSettle ticket) (unfailing : Unfailing s (inputs, .settle ticket resolves))
    (h : s.Ordered known) : (after (settleCall C ticket resolves) { s with inputs := inputs }).Ordered known := by
  have start : Session.Ordered known { s with inputs := inputs } := ⟨⟨h.numbered.toNumbered, Nat.zero_le _⟩, h.knows.awaited, h.knows.delivered⟩
  refine Triple.final (P := fun t => t = { s with inputs := inputs }) (settleCall_rule C (fun t same => same ▸ start)
    (fun _ t call same found durable => ?_) (fun rejected => ?_)) rfl
  · subst same
    have removed : Session.Ordered known { s with inputs := inputs, journal := s.journal.remove ticket } :=
      ⟨⟨start.numbered.remove ticket, Nat.zero_le _⟩, start.knows.fewer (fun c mem => ⟨c, (List.mem_filter.mp mem).1, rfl⟩) rfl⟩
    have fresh := h.knows.awaited call (Journal.mem_of_find found).1
    have may (d : Delivery) (opens : call.task.receipt = some d) :=
      start.numbered.mayUse_remove found settles.2 durable (n := d.seq) (by simp [scheme, Task.number, opens])
    -- a call waits only where saves are asynchronous
    have async : ∃ adapter, s.options.persistence = some adapter ∧ adapter.async = true := by
      by_contra sync
      have idle := h.numbered.idle fun adapter configured => by
        by_contra later
        exact sync ⟨adapter, configured, by simpa using later⟩
      have here := (Journal.mem_of_find found).1
      change call ∈ (s.books .inbound Origin.new.record).journal.calls at here
      rw [idle] at here
      cases here
    have saved : s.options.persistence ≠ none := by
      obtain ⟨adapter, configured, -⟩ := async
      rw [configured]
      rintro ⟨⟩
    refine (receives_ordered known).resume C ⟨removed, fun d opens => ⟨may d opens, fresh d opens⟩, fun receives => ?_⟩
    have opens : ∃ d, call.task.receipt = some d := by
      cases shape : call.task with
      | request frame data prev => exact ⟨frame, rfl⟩
      | _ =>
        rw [shape] at receives
        cases receives
    obtain ⟨d, opens⟩ := opens
    exact ⟨(unfailing call found receives).2, ((may d opens).covered saved).1, async⟩
  · rw [settles.1] at rejected
    cases rejected

/-- A restart keeps what depends on the record and on the calls that wait, where fewer calls may wait. -/
theorem restart_keeps {I : Session → Prop} (opens : Keeps (Preserve I) (setPhase .connected))
    (fewer : ∀ {s t : Session}, (∀ c ∈ t.journal.calls, ∃ b ∈ s.journal.calls, b.task = c.task) → t.trace = s.trace →
      I s → I t) : Keeps (Preserve I) (restart C) := by
  have field (f : Session → Session) (same : ∀ s, Abreast s (f s)) : Keeps (Preserve I) (modify f : M Unit) :=
    fun t held => fewer (fun c mem => ⟨c, (same t).journal ▸ mem, rfl⟩) (same t).trace held
  refine .bind (fun u held => fewer (s := u) (fun c mem => nomatch mem) rfl held) fun _ => .bind .get fun t => ?_
  cases t.journal.disk.contents with
  | none => exact .pure _
  | some snapshot => exact .bind (restoreSafely_rule C field opens snapshot) fun _ => .pure _

theorem restart_ordered (h : s.Ordered known) (saved : s.options.persistence ≠ none) : (after (restart C) s).Ordered known := by
  have opens : Keeps (Preserve (Session.Knows known)) (setPhase .connected) :=
    knows_of_moves (setPhase_moves _ (Or.inr nofun))
  have kept : Keeps (Preserve (Session.Knows known)) (restart C) :=
    restart_keeps C opens fun calls trace held => held.fewer calls trace
  exact ⟨restart_numbered C h.numbered saved fun _ _ => Origin.new_owns _, kept s h.knows⟩

/-- One turn of the event loop inside a pairing. `opens` is about the frame that arrives. -/
theorem step_ordered {l : Inputs × Label} (inPairing : InPairing s l) (unfailing : Unfailing s l)
    (saved : s.options.persistence ≠ none)
    (opens : ∀ msg, l.2 = .message msg → Receives.OpensAt C (Task.Knows known) s msg) (h : s.Ordered known) :
    (step C s l).Ordered known := by
  obtain ⟨inputs, label⟩ := l
  have start : Session.Ordered known { s with inputs := inputs } := ⟨⟨h.numbered.toNumbered, Nat.zero_le _⟩, h.knows.awaited, h.knows.delivered⟩
  have R := receives_ordered known
  by_cases moving : label.moving = true ∧ Kind.receiving ∉ label.kinds
  · exact R.kept moving.2 (act_moves C label moving.1) _ start
  · cases label with
    | prepareJoin parsed privateKey => exact inPairing.elim
    | restore snapshot => exact inPairing.elim
    | destroy => exact inPairing.elim
    | crash => exact restart_ordered C start saved
    | message msg =>
      have now : Receives.OpensAt C (Task.Knows known) { s with inputs := inputs } msg :=
        opens msg rfl
      exact R.handleMessage_at C now start
    | flush ticket =>
      refine ⟨⟨start.numbered.flush inPairing, Nat.zero_le _⟩, start.knows.fewer (fun c mem => ?_) rfl⟩
      obtain ⟨b, old, same, -⟩ := Journal.mem_flush mem
      exact ⟨b, old, same.symm⟩
    | settle ticket resolves => exact settleCall_ordered C inPairing unfailing h
    | _ => simp [Label.moving, Label.kinds] at moving

theorem prepareJoin_ordered (options : Options) (inputs : Inputs) {parsed : PairingParams}
    (decodes : b64urlDecode parsed.pubkey ≠ none) (privateKey : Bytes) :
    (step C (Session.new options) (inputs, .prepareJoin parsed privateKey)).Ordered known := by
  have blank : Session.Knows known { Session.new options with inputs := inputs } := by
    constructor
    · intro c mem
      cases mem
    · intro d mem
      cases mem
  have fields (f : Session → Session) (same : ∀ s, (f s).journal = s.journal ∧ (f s).trace = s.trace) :
      Keeps (Preserve (Session.Knows known)) (modify f : M Unit) := fun t held =>
    held.fewer (fun c mem => ⟨c, (same t).1 ▸ mem, rfl⟩) (same t).2
  have kept : Keeps (Preserve (Session.Knows known)) (prepareJoin C parsed privateKey) :=
    .bind (fields _ fun _ => ⟨rfl, rfl⟩) fun _ => .bind (.runExcept _) fun _ =>
      .bind (fields _ fun _ => ⟨rfl, rfl⟩) fun _ => knows_of_moves (establishKeys_moves C nofun nofun _ _)
  exact ⟨prepareJoin_numbered C rfl rfl (run_queued C options []) rfl Journal.Every.fresh inputs decodes privateKey,
    kept _ blank⟩

end Steps

/-! ### What is sealed -/

section Sealing
variable {s t : Session}

/-- Whatever this side seals is a response or an event. -/
def Session.SealsAnswers (s : Session) : Prop := ∀ frame ∈ s.sealedFrames, frame.header.type ≠ .req

theorem sealedFrames_of_move {k : Kind} (other : k ≠ .sending) (move : Move s k t) :
    t.sealedFrames = s.sealedFrames := by
  cases move with
  | note o => simp [Session.sealedFrames, (Obs.frames_eq_none other).1]
  | _ => rfl

theorem sealedFrames_sealing (s : Session) (frame : Sealed) :
    Session.sealedFrames { s with trace := s.trace ++ [.sealing frame] } = s.sealedFrames ++ [frame] := by
  simp [Session.sealedFrames, Obs.sealedFrame]

theorem answers_rules : SendRules Session.SealsAnswers (fun _ _ => True) (fun _ _ => True) fun _ _ => True where
  other := fun other move h frame mem => h frame (sealedFrames_of_move other move ▸ mem)
  counts := fun h => h
  countsUse := fun _ => trivial
  reserves := fun {s task} h _ _ _ => by
    rintro t rfl
    rcases persistSnapshot_cases task { s with sendSeq := s.sendSeq + 1 } with
      ⟨-, run⟩ | ⟨adapter, -, -, run⟩ | ⟨adapter, snap, -, -, -, run⟩ | ⟨adapter, snap, -, -, -, run⟩
    · rw [run]
      exact ⟨h, fun _ => trivial⟩
    · rw [run]
      exact h
    · rw [run]
      exact ⟨h, fun _ => trivial⟩
    · rw [run]
      exact ⟨h, fun _ => trivial⟩
  seals := fun {s frame} h _ answers => by
    refine ⟨fun f mem => ?_, trivial⟩
    rw [sealedFrames_sealing] at mem
    rcases List.mem_append.mp mem with old | new
    · exact h f old
    · rw [List.mem_singleton.mp new]
      exact answers
  hands := fun {s message frame} h _ f mem => by
    refine h f ?_
    simpa [Session.sealedFrames, Obs.sealedFrame] using mem
  removes := fun _ h => h
  resumes := fun _ _ _ _ _ => trivial

theorem answers_of_moves {α : Type} {m : M α} (made : Keeps (Moves (· ≠ .sending)) m) :
    Keeps (Preserve Session.SealsAnswers) m := answers_rules.kept (by simp) made

theorem step_answers (C : Crypto) {l : Inputs × Label} (inPairing : InPairing s l) (h : s.SealsAnswers) :
    (step C s l).SealsAnswers := by
  obtain ⟨inputs, label⟩ := l
  have start : Session.SealsAnswers { s with inputs := inputs } := h
  by_cases moving : label.moving = true
  · exact answers_rules.act C label moving _ start
  · cases label with
    | prepareJoin parsed privateKey => exact inPairing.elim
    | restore snapshot => exact inPairing.elim
    | destroy => exact inPairing.elim
    | flush ticket => exact start
    | settle ticket resolves => exact (answers_rules.settleCall C ticket resolves).final ⟨start, fun _ => trivial⟩
    | crash =>
      have opens : Keeps (Preserve Session.SealsAnswers) (setPhase .connected) := answers_of_moves (setPhase_moves _ (Or.inr nofun))
      refine restart_keeps C opens (fun _ trace held frame mem => held frame ?_) _ start
      rwa [Session.sealedFrames, trace] at mem
    | _ => simp [Label.moving] at moving

theorem prepareJoin_answers (C : Crypto) (options : Options) (inputs : Inputs) (parsed : PairingParams)
    (privateKey : Bytes) : (step C (Session.new options) (inputs, .prepareJoin parsed privateKey)).SealsAnswers := by
  have keyed (remote : Bytes) : Keeps (Preserve Session.SealsAnswers) (establishKeys C remote privateKey) :=
    answers_of_moves (establishKeys_moves C nofun nofun remote privateKey)
  have made : Keeps (Preserve Session.SealsAnswers) (prepareJoin C parsed privateKey) :=
    .bind (fun _ held => held) fun _ => .bind (.runExcept _) fun _ => .bind (fun _ held => held) fun _ => keyed _
  exact made { Session.new options with inputs := inputs } nofun

/-- The record only grows, whatever happens. -/
theorem grows_rules (earlier : List Obs) : StepRules fun s => earlier <+: s.trace where
  move := fun move before => by
    cases move with
    | note o => exact before.trans (List.prefix_append _ _)
    | _ => exact before
  field := fun same before => same.trace.symm ▸ before
  removes := fun _ before => before
  flushes := fun _ before => before
  crashes := fun before => before

/-- What was sealed stays sealed. -/
theorem sealed_later (C : Crypto) {l : Inputs × Label} {frame : Sealed} (mem : frame ∈ s.sealedFrames) :
    frame ∈ (step C s l).sealedFrames := by
  have grown := (grows_rules s.trace).step C (s := s) (l := l) List.prefix_rfl
  exact (grown.sublist.filterMap _).subset mem

end Sealing

end WalletPair.Sdk.Wallet
