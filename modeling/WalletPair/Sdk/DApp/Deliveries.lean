import WalletPair.Sdk.DApp.Sending
import WalletPair.Sdk.DApp.Replay

/-! What one pairing of the dApp session delivers, crashes included. The numbers of the
delivered frames ascend, and every frame that was delivered or waits for its save is one
that the peer is known to have sealed. -/

namespace WalletPair.Sdk.DApp
open WalletPair.Lib WalletPair.Lib.Program

/-- The frame that waits with this continuation is known. -/
def Task.Knows (known : Delivery → Prop) (task : Task) : Prop := ∀ d, task.receipt = some d → known d

/-- Every frame that waits or was delivered is known. -/
structure Session.Knows (known : Delivery → Prop) (s : Session) : Prop where
  awaited : ∀ c ∈ s.journal.calls, c.task.Knows known
  delivered : ∀ d ∈ s.deliveries, known d

/-- The receive counter is ahead of ascending deliveries, and all frames are known. -/
structure Session.Ordered (known : Delivery → Prop) (s : Session) : Prop where
  numbered : s.Numbered .new .inbound
  knows : s.Knows known

section Knows
variable {known weaker : Delivery → Prop} {s t : Session}

theorem Session.Knows.mono (h : s.Knows known) (imp : ∀ d, known d → weaker d) : s.Knows weaker :=
  ⟨fun c mem d opens => imp d (h.awaited c mem d opens), fun d mem => imp d (h.delivered d mem)⟩

theorem Session.Ordered.mono (h : s.Ordered known) (imp : ∀ d, known d → weaker d) : s.Ordered weaker :=
  ⟨h.numbered, h.knows.mono imp⟩

/-- Nothing new waits and nothing new was delivered. -/
theorem Session.Knows.fewer (h : s.Knows known) (calls : ∀ c ∈ t.journal.calls, ∃ b ∈ s.journal.calls, b.task = c.task)
    (trace : t.trace = s.trace) : t.Knows known := by
  refine ⟨fun c mem => ?_, fun d mem => ?_⟩
  · obtain ⟨b, old, same⟩ := calls c mem
    exact same ▸ h.awaited b old
  · have old : d ∈ s.deliveries := by
      unfold Session.deliveries at mem ⊢
      rwa [trace] at mem
    exact h.delivered d old

theorem Task.knows_of_kind {task : Task} (other : task.kind ≠ .receiving) : task.Knows known := by
  intro d opens
  cases task with
  | response promise frame data prev => exact absurd rfl other
  | event frame data prev => exact absurd rfl other
  | _ => cases opens

theorem Session.Knows.enqueue (h : s.Knows known) {write : Option Snapshot} {task : Task} (fresh : task.Knows known) :
    Session.Knows known { s with ticket := s.ticket + 1, journal := s.journal.enqueue s.ticket write task } := by
  refine ⟨fun c mem => ?_, h.delivered⟩
  rcases List.mem_append.mp mem with old | new
  · exact h.awaited c old
  · rw [List.mem_singleton.mp new]
    exact fresh

theorem Session.Knows.note (h : s.Knows known) {o : Obs} (fresh : ∀ d, o.delivery = some d → known d) :
    Session.Knows known { s with trace := s.trace ++ [o] } := by
  refine ⟨h.awaited, fun d mem => ?_⟩
  obtain ⟨p, member, shape⟩ := List.mem_filterMap.mp mem
  rcases List.mem_append.mp member with old | new
  · exact h.delivered d (List.mem_filterMap.mpr ⟨p, old, shape⟩)
  · rw [List.mem_singleton.mp new] at shape
    exact fresh d shape

theorem knows_of_move {k : Kind} (other : k ≠ .receiving) (move : Move s k t) (h : s.Knows known) : t.Knows known := by
  cases move with
  | note o =>
    refine h.note fun d opens => ?_
    rw [Obs.delivery_eq_none other] at opens
    cases opens
  | save task snapshot adapter configured async current => exact h.enqueue (Task.knows_of_kind other)
  | clear adapter configured async => exact h.enqueue (Task.knows_of_kind nofun)
  | put task snapshot adapter configured sync current => exact ⟨h.awaited, h.delivered⟩
  | wipe adapter configured sync => exact ⟨h.awaited, h.delivered⟩
  | receive seq => exact absurd rfl other
  | _ => exact ⟨h.awaited, h.delivered⟩

theorem knows_of_moves {α : Type} {m : M α} (made : Keeps (Moves (· ≠ .receiving)) m) :
    Keeps (Preserve (Session.Knows known)) m := by
  refine preserve_of_moves made fun s t k allowed move h => knows_of_move ?_ move h
  intro receives
  rw [receives] at allowed
  exact allowed.elim nofun fun other => other rfl

theorem ordered_of_move {k : Kind} (other : k ≠ .receiving) (move : Move s k t) (h : s.Ordered known) :
    t.Ordered known :=
  ⟨numbered_of_move other move h.numbered, knows_of_move other move h.knows⟩

/-! ### Receiving -/

theorem persistSnapshot_knows {task : Task} (fresh : task.Knows known) :
    Triple (Session.Knows known) (persistSnapshot task) (fun _ => Session.Knows known) (Session.Knows known) := by
  intro s h
  rcases persistSnapshot_cases task s with
    ⟨-, run⟩ | ⟨adapter, -, -, run⟩ | ⟨adapter, snap, -, -, -, run⟩ | ⟨adapter, snap, -, -, -, run⟩
  · rw [run]
    exact h
  · rw [run]
    exact h
  · rw [run]
    exact h.enqueue fresh
  · rw [run]
    exact ⟨h.awaited, h.delivered⟩

/-- The frame may be delivered next. -/
def MayDeliver (known : Delivery → Prop) (d : Delivery) (s : Session) : Prop :=
  MayUse (scheme .new .inbound) (s.books .inbound) d.seq ∧ known d

/-- A frame above the counter is counted, and may be delivered once its save is durable. -/
theorem accept_ordered (d : Delivery) (task : Task) (opens : task.receipt = some d) (fresh : task.Knows known) :
    Triple (Advanced (Session.Ordered known) d) (persistSnapshot task)
      (fun waits t => t.Ordered known ∧ (waits = false → MayDeliver known d t)) (Session.Ordered known) := by
  rintro t ⟨⟨s, h, keyed, below, rfl⟩, bounded⟩
  have above : s.next .inbound ≤ d.seq := by
    simp only [Session.next]
    omega
  have next : Session.next { s with recvSeq := d.seq } .inbound = d.seq + 1 := by
    simp only [Session.next]
    omega
  have counted : Session.books { s with recvSeq := d.seq } .inbound = { s.books .inbound with next := d.seq + 1 } := by
    unfold Session.books
    rw [next]
    rfl
  have room : d.seq < Direction.inbound.cap := Nat.lt_succ_of_le bounded
  have holds : task.number .inbound = some d.seq := by simp [Task.number, opens]
  have still : Session.Knows known { s with recvSeq := d.seq } := ⟨h.knows.awaited, h.knows.delivered⟩
  have both := (persistSnapshot_numbered h.numbered counted rfl keyed above room holds).and
    ((persistSnapshot_knows fresh).start still)
  exact both.mono (fun _ same => ⟨same, same⟩) (fun _ _ held => ⟨⟨held.1.1, held.2⟩, fun now =>
    ⟨held.1.2 now, fresh d opens⟩⟩) (fun _ held => ⟨held.1, held.2⟩) _ rfl

theorem deliver_ordered (s : Session) (d : Delivery) (h : s.Ordered known) (may : MayDeliver known d s) :
    Session.Ordered known { s with trace := s.trace ++ [.delivered d] } := by
  have books : Session.books { s with trace := s.trace ++ [.delivered d] } .inbound Origin.new.record =
      { s.books .inbound Origin.new.record with used := (s.books .inbound Origin.new.record).used ++ [d.seq] } := by
    simp [Session.books, Session.key, Session.next, Session.used, Session.handed, Session.deliveries,
      Obs.delivery, Origin.new]
  refine ⟨?_, h.knows.note fun e same => ?_⟩
  · have used := (h.numbered.use may.1).1
    rw [← books] at used
    exact ⟨used, Nat.zero_le _⟩
  · rw [← Option.some.inj same]
    exact may.2

theorem receives_ordered (known : Delivery → Prop) :
    Receives (Task.Knows known) (Session.Ordered known) (MayDeliver known) where
  moves _ _ _ receives _ move h := ordered_of_move receives move h
  accept d task opens fresh := accept_ordered d task opens fresh
  deliver := deliver_ordered
  resolve _ promise _ data _ _ _ _ h :=
    ordered_of_move (k := .resolving) nofun (Move.note (.settled promise (.resolved (data.field "_result")))) h

end Knows

/-! ### Steps -/

section Steps
variable (C : Crypto) {known : Delivery → Prop} {s : Session}

/-- What a turn inside a pairing keeps: `R` speaks for everything but the queue and a crash. -/
theorem Receives.step_rule {good : Task → Prop} {I : Session → Prop} {May : Delivery → Session → Prop}
    (R : Receives good I May) {l : Inputs × Label} (inPairing : InPairing s l) (unfailing : Unfailing s l)
    (start : I { s with inputs := l.1 }) (opens : ∀ msg, l.2 = .message msg → Receives.OpensAt C good s msg)
    (resumes : ∀ ticket call, s.journal.NextToSettle ticket → s.journal.find ticket = some call → call.durable = true →
      I { s with inputs := l.1, journal := s.journal.remove ticket } ∧ good call.task ∧
        ∀ d, call.task.receipt = some d → May d { s with inputs := l.1, journal := s.journal.remove ticket })
    (flushes : ∀ ticket, l.2 = .flush ticket → I { s with inputs := l.1, journal := s.journal.flush ticket })
    (crashes : l.2 = .crash → I (after restart { s with inputs := l.1 })) : I (step C s l) := by
  obtain ⟨inputs, label⟩ := l
  by_cases moving : label.moving = true ∧ Kind.receiving ∉ label.kinds ∧ Kind.resolving ∉ label.kinds
  · exact R.kept moving.2.1 moving.2.2 (act_moves C label moving.1) _ start
  · cases label with
    | createPairing privateKey channelId deferTransport => exact inPairing.elim
    | restore snapshot => exact inPairing.elim
    | destroy => exact inPairing.elim
    | crash => exact crashes rfl
    | message msg =>
      have now : Receives.OpensAt C good { s with inputs := inputs } msg :=
        ⟨(opens msg rfl).response, (opens msg rfl).event⟩
      exact R.handleMessage_at C now start
    | flush ticket => exact flushes ticket rfl
    | settle ticket resolves =>
      refine Triple.final (P := fun t => t = { s with inputs := inputs }) (settleCall_rule C (fun t same => same ▸ start)
        (fun _ t call same found durable => ?_) (fun rejected => ?_)) rfl
      · subst same
        obtain ⟨removed, known, may⟩ := resumes ticket call inPairing.2 found durable
        refine R.resume C ⟨removed, fun _ => known, may, fun receives => (unfailing call found receives).2.1,
          fun promise frame data prev same => ?_⟩
        have readable := (unfailing call found (by rw [same]; rfl)).2.2
        rw [same] at readable
        exact readable
      · rw [inPairing.1] at rejected
        cases rejected
    | _ => simp [Label.moving, Label.kinds] at moving

/-- A restart keeps what depends on the record and on the calls that wait, where fewer calls may wait. -/
theorem restart_keeps {I : Session → Prop} (opens : Keeps (Preserve I) (setPhase .connected))
    (fewer : ∀ {s t : Session}, (∀ c ∈ t.journal.calls, ∃ b ∈ s.journal.calls, b.task = c.task) → t.trace = s.trace →
      I s → I t) : Keeps (Preserve I) restart := by
  have field (f : Session → Session) (same : ∀ s, Abreast s (f s)) : Keeps (Preserve I) (modify f : M Unit) :=
    fun t held => fewer (fun c mem => ⟨c, (same t).journal ▸ mem, rfl⟩) (same t).trace held
  refine .bind (fun u held => fewer (s := u) (fun c mem => nomatch mem) rfl held) fun _ => .bind .get fun t => ?_
  cases t.journal.disk.contents with
  | none => exact .pure _
  | some snapshot => exact .bind (restoreSafely_rule field opens snapshot) fun _ => .pure _

theorem restart_ordered (h : s.Ordered known) (saved : s.options.persistence ≠ none) : (after restart s).Ordered known := by
  have opens : Keeps (Preserve (Session.Knows known)) (setPhase .connected) :=
    knows_of_moves (setPhase_moves _ (Or.inr nofun))
  have kept : Keeps (Preserve (Session.Knows known)) restart :=
    restart_keeps opens fun calls trace held => held.fewer calls trace
  exact ⟨restart_numbered h.numbered saved fun _ _ => Origin.new_owns _, kept s h.knows⟩

/-- One turn of the event loop inside a pairing. `opens` is about the frame that arrives. -/
theorem step_ordered {l : Inputs × Label} (inPairing : InPairing s l) (unfailing : Unfailing s l)
    (saved : s.options.persistence ≠ none)
    (opens : ∀ msg, l.2 = .message msg → Receives.OpensAt C (Task.Knows known) s msg) (h : s.Ordered known) :
    (step C s l).Ordered known := by
  have start : Session.Ordered known { s with inputs := l.1 } := ⟨⟨h.numbered.toNumbered, Nat.zero_le _⟩, h.knows.awaited, h.knows.delivered⟩
  refine (receives_ordered known).step_rule C inPairing unfailing start opens (fun ticket call next found durable => ?_)
    (fun ticket flushing => ?_) fun _ => restart_ordered start saved
  · have fresh := h.knows.awaited call (Journal.mem_of_find found).1
    refine ⟨⟨⟨start.numbered.remove ticket, Nat.zero_le _⟩, start.knows.fewer (fun c mem => ⟨c, (List.mem_filter.mp mem).1, rfl⟩) rfl⟩,
      fresh, fun d opens => ⟨?_, fresh d opens⟩⟩
    exact start.numbered.mayUse_remove found next durable (by simp [scheme, Task.number, opens])
  · have inOrder : s.journal.NextToFlush ticket := by
      unfold InPairing at inPairing
      rw [flushing] at inPairing
      exact inPairing
    refine ⟨⟨start.numbered.flush inOrder, Nat.zero_le _⟩, start.knows.fewer (fun c mem => ?_) rfl⟩
    obtain ⟨b, old, same, -⟩ := Journal.mem_flush mem
    exact ⟨b, old, same.symm⟩

theorem createPairing_ordered (options : Options) (inputs : Inputs) (privateKey : Bytes) (channelId : String)
    (deferTransport : Bool) :
    (step C (Session.new options) (inputs, .createPairing privateKey channelId deferTransport)).Ordered known := by
  have blank : Session.Knows known { Session.new options with inputs := inputs } := by
    constructor
    · intro c mem
      cases mem
    · intro d mem
      cases mem
  have announced : Keeps (Preserve (Session.Knows known))
      (announcePairing C (generateX25519KeyPair C privateKey) channelId deferTransport) :=
    knows_of_moves (announcePairing_moves nofun nofun C _ channelId deferTransport)
  have knows : Session.Knows known (after (createPairing C privateKey channelId deferTransport)
      { Session.new options with inputs := inputs }) := by
    unfold createPairing
    refine Keeps.bind ?_ (fun _ => announced) _ blank
    intro t held
    exact held.fewer (fun c mem => ⟨c, mem, rfl⟩) rfl
  exact ⟨createPairing_numbered C rfl rfl (run_queued C options []) rfl Journal.Every.fresh inputs privateKey channelId
    deferTransport, knows⟩

end Steps

/-! ### What is sealed -/

section Sealing
variable {s t : Session}

/-- Whatever this side seals is a request. -/
def Session.SealsRequests (s : Session) : Prop := ∀ frame ∈ s.sealedFrames, frame.header.type = .req

theorem sealedFrames_of_move {k : Kind} (other : k ≠ .sending) (move : Move s k t) :
    t.sealedFrames = s.sealedFrames := by
  cases move with
  | note o => simp [Session.sealedFrames, (Obs.frames_eq_none other).1]
  | _ => rfl

theorem sealedFrames_sealing (s : Session) (frame : Sealed) :
    Session.sealedFrames { s with trace := s.trace ++ [.sealing frame] } = s.sealedFrames ++ [frame] := by
  simp [Session.sealedFrames, Obs.sealedFrame]

theorem requests_rules (C : Crypto) : SendRules C Session.SealsRequests (fun _ _ => True) (fun _ _ => True)
    (fun _ _ _ => True) (fun _ _ => True) fun _ _ => True where
  other := fun other move h frame mem => h frame (sealedFrames_of_move other move ▸ mem)
  counts := fun h => ⟨h, trivial⟩
  later := fun _ _ => trivial
  pends := fun _ _ _ => trivial
  reserves := fun {s task a} h _ _ _ _ => by
    rintro t rfl
    rcases persistSnapshot_cases task { s with sendSeq := s.sendSeq + 1 } with
      ⟨-, run⟩ | ⟨adapter, -, -, run⟩ | ⟨adapter, snap, -, -, -, run⟩ | ⟨adapter, snap, -, -, -, run⟩
    · rw [run]
      exact ⟨h, fun _ => trivial⟩
    · rw [run]
      exact h
    · rw [run]
      exact ⟨h, fun _ => trivial⟩
    · rw [run]
      exact ⟨h, fun _ => trivial⟩
  seals := fun {s a frame} h _ asks _ => by
    refine ⟨fun f mem => ?_, trivial, trivial⟩
    rw [sealedFrames_sealing] at mem
    rcases List.mem_append.mp mem with old | new
    · exact h f old
    · rw [List.mem_singleton.mp new]
      exact asks
  registers := fun _ h _ _ => ⟨h, trivial⟩
  hands := fun {s message frame} h _ f mem => by
    refine h f ?_
    simpa [Session.sealedFrames, Obs.sealedFrame] using mem
  removes := fun _ h => h
  resumes := fun _ _ _ _ _ => trivial

theorem requests_of_moves (C : Crypto) {α : Type} {m : M α} (made : Keeps (Moves (· ≠ .sending)) m) :
    Keeps (Preserve Session.SealsRequests) m := (requests_rules C).kept (by simp) made

theorem step_requests (C : Crypto) {l : Inputs × Label} (inPairing : InPairing s l) (h : s.SealsRequests) :
    (step C s l).SealsRequests := by
  obtain ⟨inputs, label⟩ := l
  have start : Session.SealsRequests { s with inputs := inputs } := h
  by_cases moving : label.moving = true
  · exact (requests_rules C).act label moving _ start
  · cases label with
    | createPairing privateKey channelId deferTransport => exact inPairing.elim
    | restore snapshot => exact inPairing.elim
    | destroy => exact inPairing.elim
    | flush ticket => exact start
    | settle ticket resolves => exact ((requests_rules C).settleCall ticket resolves).final ⟨start, fun _ => trivial⟩
    | crash =>
      have opens : Keeps (Preserve Session.SealsRequests) (setPhase .connected) := requests_of_moves C (setPhase_moves _ (Or.inr nofun))
      refine restart_keeps opens (fun _ trace held frame mem => held frame ?_) _ start
      rwa [Session.sealedFrames, trace] at mem
    | _ => simp [Label.moving] at moving

theorem createPairing_requests (C : Crypto) (options : Options) (inputs : Inputs) (privateKey : Bytes)
    (channelId : String) (deferTransport : Bool) :
    (step C (Session.new options) (inputs, .createPairing privateKey channelId deferTransport)).SealsRequests := by
  have announced : Keeps (Preserve Session.SealsRequests)
      (announcePairing C (generateX25519KeyPair C privateKey) channelId deferTransport) :=
    requests_of_moves C (announcePairing_moves nofun nofun C _ channelId deferTransport)
  have made : Keeps (Preserve Session.SealsRequests) (createPairing C privateKey channelId deferTransport) :=
    .bind (fun _ held => held) fun _ => announced
  exact made { Session.new options with inputs := inputs } nofun

/-- The record only grows, whatever happens. -/
theorem grows_rules (earlier : List Obs) : StepRules fun s => earlier <+: s.trace where
  move := fun move before => by
    cases move with
    | note o => exact before.trans (List.prefix_append _ _)
    | _ => exact before
  field := fun same before => same.trace.symm ▸ before
  removes := fun _ before => before
  flushes := fun _ before => before
  crashes := fun before => before

/-- What was sealed stays sealed. -/
theorem sealed_later (C : Crypto) {l : Inputs × Label} {frame : Sealed} (mem : frame ∈ s.sealedFrames) :
    frame ∈ (step C s l).sealedFrames := by
  have grown := (grows_rules s.trace).step C (s := s) (l := l) List.prefix_rfl
  exact (grown.sublist.filterMap _).subset mem

end Sealing

end WalletPair.Sdk.DApp
