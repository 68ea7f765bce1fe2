import WalletPair.Sdk.DApp.Receiving

/-! Replay protection of one dApp session object whose saves may settle in any order. As
long as no receive is taken back, the counter only grows and a number that was seen is
delivered at most once. -/

namespace WalletPair.Sdk.DApp
open WalletPair.Lib WalletPair.Lib.Program

/-- The numbers of the frames that wait for their save. -/
def Session.awaited (s : Session) : List Nat := s.journal.held (Task.number · .inbound)

/-- Every number that waits or was delivered lies at or below the counter, none occurs
twice, and the counter has not fallen below `floor`. -/
structure Session.Once (since : Nat) (floor : Int) (s : Session) : Prop where
  counted : Counted s.awaited (s.next .inbound) (s.used .inbound since)
  above : floor ≤ s.recvSeq
  began : since ≤ s.trace.length

theorem once_of_move {since : Nat} {floor : Int} {s t : Session} {k : Kind} (other : k ≠ .receiving) (move : Move s k t)
    (h : s.Once since floor) : t.Once since floor := by
  have enqueued {task : Task} {write : Option Snapshot} (passive : task.number .inbound = none) :
      (s.journal.enqueue s.ticket write task).held (Task.number · .inbound) = s.awaited := by
    rw [Journal.held_enqueue, passive]
    simp [Session.awaited]
  cases move with
  | note o =>
    refine ⟨?_, h.above, h.began.trans (by simp)⟩
    have used : Session.used { s with trace := s.trace ++ [o] } .inbound since = s.used .inbound since := by
      simp [Session.used, Session.deliveries, filterMap_since h.began, Obs.delivery_eq_none other]
    rw [used]
    exact h.counted
  | save task snapshot adapter configured async current =>
    have passive : task.number .inbound = none := Task.number_eq_none other
    refine ⟨?_, h.above, h.began⟩
    unfold Session.awaited
    rw [enqueued passive]
    exact h.counted
  | clear adapter configured async =>
    refine ⟨?_, h.above, h.began⟩
    unfold Session.awaited
    rw [enqueued rfl]
    exact h.counted
  | receive seq => exact absurd rfl other
  | _ => exact ⟨h.counted, h.above, h.began⟩

/-- A frame above the counter is counted; it may be delivered as soon as nothing waits. -/
theorem accept_once {since : Nat} {floor : Int} (d : Delivery) (task : Task) (opens : task.receipt = some d) :
    Triple (Advanced (Session.Once since floor) d) (persistSnapshot task)
      (fun waits t => t.Once since floor ∧ (waits = false → Free t.awaited (t.next .inbound) (t.used .inbound since) d.seq))
      (Session.Once since floor) := by
  rintro t ⟨⟨s, h, -, below, rfl⟩, -⟩
  have fresh : s.next .inbound ≤ d.seq := by
    simp only [Session.next]
    omega
  have next : Session.next { s with recvSeq := d.seq } .inbound = d.seq + 1 := by
    simp only [Session.next]
    omega
  have above : floor ≤ (d.seq : Int) := by
    have := h.above
    omega
  obtain ⟨skipped, free⟩ := h.counted.skip fresh
  have counted : Session.Once since floor { s with recvSeq := d.seq } := by
    refine ⟨?_, above, h.began⟩
    rw [next]
    exact skipped
  rcases persistSnapshot_cases task { s with recvSeq := d.seq } with
    ⟨-, run⟩ | ⟨adapter, -, -, run⟩ | ⟨adapter, snap, -, -, -, run⟩ | ⟨adapter, snap, -, -, -, run⟩
  · rw [run]
    exact ⟨counted, fun _ => next ▸ free⟩
  · rw [run]
    exact counted
  · rw [run]
    refine ⟨⟨?_, above, h.began⟩, by rintro ⟨⟩⟩
    have waiting : (s.journal.enqueue s.ticket (some snap) task).held (Task.number · .inbound) =
        s.awaited ++ [d.seq] := by
      rw [Journal.held_enqueue, Task.number, opens]
      rfl
    have held := h.counted.hold fresh
    rw [← next, ← waiting] at held
    exact held
  · rw [run]
    exact ⟨⟨counted.counted, above, h.began⟩, fun _ => next ▸ free⟩

theorem deliver_once {since : Nat} {floor : Int} (s : Session) (d : Delivery) (h : s.Once since floor)
    (free : Free s.awaited (s.next .inbound) (s.used .inbound since) d.seq) :
    Session.Once since floor { s with trace := s.trace ++ [.delivered d] } := by
  refine ⟨?_, h.above, h.began.trans (by simp)⟩
  have used : Session.used { s with trace := s.trace ++ [.delivered d] } .inbound since =
      s.used .inbound since ++ [d.seq] := by
    simp [Session.used, Session.deliveries, filterMap_since h.began, Obs.delivery]
  rw [used]
  exact h.counted.use free

theorem receives_once (since : Nat) (floor : Int) : Receives (fun _ => True) (Session.Once since floor)
    fun d s => Free s.awaited (s.next .inbound) (s.used .inbound since) d.seq where
  moves _ _ _ receives _ move h := once_of_move receives move h
  accept d task opens _ := accept_once d task opens
  deliver := deliver_once
  resolve _ promise _ data _ _ _ _ h :=
    once_of_move (k := .resolving) nofun (Move.note (.settled promise (.resolved (data.field "_result")))) h

/-- A continuation taken out of the queue may deliver the number it held. -/
theorem remove_once {since : Nat} {floor : Int} {s : Session} {ticket : Nat} {call : Call Snapshot Task} (h : s.Once since floor)
    (found : s.journal.find ticket = some call) :
    Session.Once since floor { s with journal := s.journal.remove ticket } ∧ ∀ d, call.task.receipt = some d →
      Free ((s.journal.remove ticket).held (Task.number · .inbound)) (s.next .inbound) (s.used .inbound since) d.seq := by
  refine ⟨⟨h.counted.sublist (Journal.held_remove ticket), h.above, h.began⟩, fun d opens => ?_⟩
  have holds : call.task.number .inbound = some d.seq := by simp [Task.number, opens]
  have mem : d.seq ∈ s.awaited := Journal.mem_held (Journal.mem_of_find found).1 holds
  obtain ⟨nodup, -, apart⟩ := List.nodup_append.mp h.counted.nodup
  exact ⟨h.counted.lt _ (List.mem_append_left _ mem), Journal.not_held_remove found holds nodup,
    fun used => apart _ mem _ used rfl⟩

/-! ### Steps -/

/-- The steps of one object inside one pairing. -/
def Label.sameObject : Label → Bool
  | .createPairing _ _ _ => false
  | .restore _ => false
  | .crash => false
  | _ => true

/-- The continuation of a response whose payload makes it throw. -/
def Task.throws : Task → Bool
  | .response _ _ data _ => unreadable data
  | _ => false

/-- Nothing takes a receive back in this step: a receive's save that settles resolves, no
listener called by its continuation throws, and neither does a response's payload. -/
def Unfailing (s : Session) (l : Inputs × Label) : Prop :=
  match l.2 with
  | .settle ticket ok => ∀ call ∈ s.journal.find ticket, call.task.kind = .receiving →
    ok = true ∧ true ∉ l.1.throws ∧ call.task.throws = false
  | _ => True

instance (s : Session) (l : Inputs × Label) : Decidable (Unfailing s l) := by
  obtain ⟨inputs, label⟩ := l
  unfold Unfailing
  apply @Label.casesOn _ label <;> intros <;> infer_instance

section
variable (C : Crypto)

theorem settleCall_once {since : Nat} {floor : Int} {s : Session} {inputs : Inputs} {ticket : Nat} {resolves : Bool}
    (unfailing : Unfailing s (inputs, .settle ticket resolves)) (h : s.Once since floor) :
    (after (settleCall C ticket resolves) { s with inputs := inputs }).Once since floor := by
  have start : Session.Once since floor { s with inputs := inputs } := ⟨h.counted, h.above, h.began⟩
  refine Triple.final (P := fun t => t = { s with inputs := inputs }) (settleCall_rule C (fun t same => same ▸ start)
    (fun _ t call same found _ => ?_) (fun rejected t call same found => ?_)) rfl
  · subst same
    obtain ⟨removed, may⟩ := remove_once start found
    refine (receives_once since floor).resume C ⟨removed, fun _ => trivial, may, fun receives => ?_,
      fun promise frame data prev same => ?_⟩
    · exact (unfailing call found receives).2.1
    · have readable := (unfailing call found (by rw [same]; rfl)).2.2
      rw [same] at readable
      exact readable
  · subst same
    obtain ⟨removed, -⟩ := remove_once start found
    have other : call.task.kind ≠ .receiving := by
      intro receives
      have resolved := (unfailing call found receives).1
      rw [rejected] at resolved
      cases resolved
    exact ((receives_once since floor).plain (fail_task_moves "save" call.task fun same => absurd same other)).start removed

theorem step_once {since : Nat} {floor : Int} {s : Session} {l : Inputs × Label} (same : l.2.sameObject = true)
    (unfailing : Unfailing s l) (h : s.Once since floor) : (step C s l).Once since floor := by
  obtain ⟨inputs, label⟩ := l
  have start : Session.Once since floor { s with inputs := inputs } := ⟨h.counted, h.above, h.began⟩
  have R := receives_once since floor
  by_cases moving : label.moving = true ∧ Kind.receiving ∉ label.kinds ∧ Kind.resolving ∉ label.kinds
  · exact R.kept moving.2.1 moving.2.2 (act_moves C label moving.1) _ start
  · cases label with
    | createPairing privateKey channelId deferTransport => cases same
    | restore snapshot => cases same
    | crash => cases same
    | message msg => exact R.handleMessage C ⟨fun _ _ _ _ _ _ _ _ _ _ _ _ => trivial,
        fun _ _ _ _ _ _ _ _ _ _ => trivial⟩ _ start
    | destroy =>
      exact Triple.final (P := fun t => t = { s with inputs := inputs })
        (.bind ((R.plain (close_moves "normal")).start start) fun _ => .modify fun t held => ⟨held.counted, held.above, held.began⟩) rfl
    | flush ticket =>
      refine ⟨?_, h.above, h.began⟩
      have held : (s.journal.flush ticket).held (Task.number · .inbound) = s.awaited := Journal.held_flush ticket
      have counted := h.counted
      rw [← held] at counted
      exact counted
    | settle ticket resolves => exact settleCall_once C unfailing h
    | _ => simp [Label.moving, Label.kinds] at moving

/-! ### Whole runs -/

/-- Since the record had this length, no number of this direction was used or handed over, and
none waits. -/
structure Session.Untouched (dir : Direction) (since : Nat) (s : Session) : Prop where
  began : since ≤ s.trace.length
  waits : s.journal.held (Task.number · dir) = []
  used : s.used dir since = []
  handed : s.handed dir since = []

theorem untouched_of_moves {dir : Direction} {since : Nat} {α : Type} {m : M α}
    (made : Keeps (Moves (· ≠ counting dir)) m) : Keeps (Preserve (Session.Untouched dir since)) m := by
  refine preserve_of_moves made fun s t k allowed move h => ?_
  have other : k ≠ counting dir := by
    rintro rfl
    rcases allowed with quiet | no
    · cases dir <;> cases quiet
    · exact no rfl
  cases move with
  | note o =>
    have same := books_note h.began other
    exact ⟨h.began.trans (by simp), h.waits, (congrArg Books.used same).trans h.used, (congrArg Books.handed same).trans h.handed⟩
  | save task snapshot adapter configured async current =>
    refine ⟨h.began, ?_, by cases dir <;> exact h.used, by cases dir <;> exact h.handed⟩
    rw [Journal.held_enqueue, Task.number_eq_none other, h.waits]
    rfl
  | clear adapter configured async =>
    refine ⟨h.began, ?_, by cases dir <;> exact h.used, by cases dir <;> exact h.handed⟩
    rw [Journal.held_enqueue, h.waits]
    cases dir <;> rfl
  | _ => exact ⟨h.began, h.waits, by cases dir <;> exact h.used, by cases dir <;> exact h.handed⟩

/-- The labels that start a pairing, or take one up from a snapshot. -/
def Label.starts : Label → Bool
  | .createPairing _ _ _ => true
  | .restore _ => true
  | _ => false

/-- A pairing starts in any session in which no number of this direction waits. -/
theorem starts_untouched (dir : Direction) {s : Session} (waits : s.journal.held (Task.number · dir) = []) (inputs : Inputs)
    {start : Label} (starts : start.starts = true) : (step C s (inputs, start)).Untouched dir s.trace.length := by
  have empty {α : Type} (f : Obs → Option α) : (s.trace.drop s.trace.length).filterMap f = [] := by simp
  have begins : Session.Untouched dir s.trace.length { s with inputs := inputs } := by
    cases dir with
    | outbound => exact ⟨le_rfl, waits, congrArg (List.map _) (empty _), congrArg (List.map _) (empty _)⟩
    | inbound => exact ⟨le_rfl, waits, congrArg (List.map _) (empty _), rfl⟩
  have field {f : Session → Session} (same : ∀ t, (f t).journal = t.journal ∧ (f t).trace = t.trace) :
      Keeps (Preserve (Session.Untouched dir s.trace.length)) (modify f : M Unit) := by
    intro t h
    refine ⟨(same t).2 ▸ h.began, (same t).1 ▸ h.waits, ?_, ?_⟩
    · have used := h.used
      cases dir <;> simpa [Session.used, Session.sealedFrames, Session.deliveries, same t] using used
    · have handed := h.handed
      cases dir with
      | outbound => simpa [Session.handed, Session.handedFrames, same t] using handed
      | inbound => rfl
  cases start with
  | createPairing privateKey channelId deferTransport =>
    have created : Keeps (Preserve (Session.Untouched dir s.trace.length))
        (createPairing C privateKey channelId deferTransport) :=
      .bind (field fun _ => ⟨rfl, rfl⟩) fun _ =>
        untouched_of_moves (announcePairing_moves (by cases dir <;> rintro ⟨⟩) (by cases dir <;> rintro ⟨⟩) C _ _ _)
    exact created _ begins
  | restore d =>
    have opens : Keeps (Preserve (Session.Untouched dir s.trace.length)) (setPhase .connected) :=
      untouched_of_moves (setPhase_moves _ (Or.inr (ne_counting (by rintro ⟨⟩) (by rintro ⟨⟩))))
    have restored : Keeps (Preserve (Session.Untouched dir s.trace.length)) (restoreSafely d) :=
      restoreSafely_rule (fun _ same => field fun t => ⟨(same t).journal, (same t).trace⟩) opens d
    exact Keeps.bind restored (fun _ => .pure _) _ begins
  | _ => cases starts

/-- Along a run in which no receive is taken back the counter never falls and no frame is
delivered twice. -/
theorem run_once {since : Nat} {s : Session} (untouched : s.Untouched .inbound since) {first second : List (Inputs × Label)}
    (unfailing : Run.Along (step C) (fun s l => l.2.sameObject = true ∧ Unfailing s l) s (first ++ second)) :
    (Run.run (step C) s first).recvSeq ≤ (Run.run (step C) s (first ++ second)).recvSeq ∧
      (((Run.run (step C) s (first ++ second)).deliveries since).map (fun d => (d.key, d.seq))).Nodup := by
  have waits : s.awaited = [] := untouched.waits
  have start : s.Once since s.recvSeq := ⟨by rw [waits, untouched.used]; exact Counted.start _, le_rfl, untouched.began⟩
  obtain ⟨before, after⟩ := Run.along_append.mp unfailing
  have reached := Run.invariant (fun _ _ ok h => step_once C ok.1 ok.2 h) before start
  have higher : (Run.run (step C) s first).Once since (Run.run (step C) s first).recvSeq :=
    ⟨reached.counted, le_rfl, reached.began⟩
  have final := Run.invariant (fun _ _ ok h => step_once C ok.1 ok.2 h) after higher
  rw [Run.run_append]
  refine ⟨final.above, List.Nodup.of_map Prod.snd ?_⟩
  simpa [Session.used, Function.comp_def] using final.counted.used_nodup

end

end WalletPair.Sdk.DApp
