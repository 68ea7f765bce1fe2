import WalletPair.Lib.Slots
import WalletPair.Sdk.DApp.Receiving
import Mathlib.Data.List.Dedup

/-! How many requests of the dApp are under way. A request is checked against the limit
when it is made and enters the map when the save of its number has settled; a response
leaves the map before its own save has settled. The invariant gives every request that is
under way a slot: in the map, in a waiting continuation, or with the method that runs. -/

namespace WalletPair.Sdk.DApp
open WalletPair.Lib WalletPair.Lib.Program

/-- The promises whose requests were sealed. -/
def Session.sealedCalls (s : Session) : List Nat := s.sealedFrames.filterMap Sealed.call

/-- The promise of a request that waits for its number, or of one whose response waits. -/
def Task.holds : Task → Option Nat
  | .request promise _ _ _ _ => some promise
  | .response promise _ _ _ => some promise
  | _ => none

def Task.asks : Task → Option Nat
  | .request promise _ _ _ _ => some promise
  | _ => none

def Task.repeats : Task → Option Nat
  | .resend promise _ _ _ _ => some promise
  | _ => none

/-- The requests sent or reserved whose promises have no outcome yet. -/
def Session.openRequests (s : Session) : List Nat :=
  (s.sealedCalls ++ s.journal.held Task.asks).dedup.filter (fun p => !s.hasSettled p)

def Session.slots (s : Session) : List Nat :=
  s.pendingRequests.values.map PendingRequest.promise ++ s.journal.held Task.holds

/-- Every sealed request without an outcome has a slot; `extra` are those of the running method. -/
structure Accounted (extra : List Nat) (s : Session) : Prop where
  tickets : s.journal.calls.Pairwise (fun c d => c.ticket ≠ d.ticket)
  below : ∀ c ∈ s.journal.calls, c.ticket < s.ticket
  slotted : Slotted maxPendingRequests (fun p => p ∈ s.sealedCalls ∧ s.hasSettled p = false) (extra ++ s.slots)
  known : ∀ p ∈ s.pendingRequests.values, p.promise ∈ s.sealedCalls
  resent : ∀ p ∈ s.journal.held Task.repeats, p ∈ s.sealedCalls
  timed : ∀ t ∈ s.requestTimers, ∃ p, s.pendingRequests.get t.id = some p ∧ p.promise = t.promise

namespace Accounted
variable {extra : List Nat} {s : Session}

theorem openRequests_le (h : Accounted [] s) : s.openRequests.length ≤ maxPendingRequests := by
  refine h.slotted.count ((List.nodup_dedup _).filter _) fun p mem => ?_
  obtain ⟨made, unsettled⟩ := List.mem_filter.mp mem
  have pending : s.hasSettled p = false := by simpa using unsettled
  rcases List.mem_append.mp (List.mem_dedup.mp made) with wasSealed | waits
  · exact Or.inl ⟨wasSealed, pending⟩
  · right
    obtain ⟨call, queued, asked⟩ := List.mem_filterMap.mp waits
    have holds : call.task.holds = some p := by
      cases task : call.task with
      | request promise id method params seq =>
        rw [task] at asked
        exact asked
      | _ =>
        rw [task] at asked
        cases asked
    exact List.mem_append_right _ (List.mem_append_right _ (Journal.mem_held queued holds))

/-! ### The record -/

theorem sealedCalls_note {o : Obs} (other : o.sealedFrame = none) :
    Session.sealedCalls { s with trace := s.trace ++ [o] } = s.sealedCalls := by
  simp [Session.sealedCalls, Session.sealedFrames, other]

theorem hasSettled_of_note {o : Obs} {p : Nat} (unsettled : Session.hasSettled { s with trace := s.trace ++ [o] } p = false) :
    s.hasSettled p = false := by
  by_contra settled
  have before : s.hasSettled p = true := by simpa using settled
  rw [hasSettled_append s [o] before] at unsettled
  cases unsettled

theorem note (h : Accounted extra s) {o : Obs} (other : o.sealedFrame = none) :
    Accounted extra { s with trace := s.trace ++ [o] } := by
  have same := sealedCalls_note (s := s) other
  refine ⟨h.tickets, h.below, h.slotted.mono fun p ⟨made, pending⟩ => ⟨same ▸ made, hasSettled_of_note pending⟩,
    ?_, ?_, h.timed⟩
  · rw [same]
    exact h.known
  · rw [same]
    exact h.resent

/-- Sealing a request that has a slot, or that was sealed before. -/
theorem sealing (h : Accounted extra s) {frame : Sealed} {call : Nat} (frameCall : frame.call = some call)
    (slot : call ∈ extra ∨ call ∈ s.sealedCalls) :
    Accounted extra { s with trace := s.trace ++ [.sealing frame] } ∧
      call ∈ Session.sealedCalls { s with trace := s.trace ++ [.sealing frame] } := by
  have same : Session.sealedCalls { s with trace := s.trace ++ [.sealing frame] } = s.sealedCalls ++ [call] := by
    simp [Session.sealedCalls, Session.sealedFrames, Obs.sealedFrame, frameCall]
  refine ⟨⟨h.tickets, h.below, h.slotted.opened fun p slot => ?_, ?_, ?_, h.timed⟩, by simp [same]⟩
  · obtain ⟨made, pending⟩ := slot
    have before := hasSettled_of_note pending
    rw [same] at made
    rcases List.mem_append.mp made with old | new
    · exact Or.inl ⟨old, before⟩
    · rw [List.mem_singleton.mp new] at before ⊢
      rcases slot with inExtra | known
      · exact Or.inr (List.mem_append_left _ inExtra)
      · exact Or.inl ⟨known, before⟩
  · intro p mem
    rw [same]
    exact List.mem_append_left _ (h.known p mem)
  · intro p mem
    rw [same]
    exact List.mem_append_left _ (h.resent p mem)

/-- A promise with an outcome needs no slot. -/
theorem settled {p : Nat} (h : Accounted (p :: extra) s) (done : s.hasSettled p = true) : Accounted extra s := by
  have slotted : Slotted maxPendingRequests (fun p => p ∈ s.sealedCalls ∧ s.hasSettled p = false)
      ([p] ++ (extra ++ s.slots)) := h.slotted
  refine { h with slotted := slotted.free fun q mem still => ?_ }
  rw [List.mem_singleton.mp mem, done] at still
  cases still.2

/-! ### The queue and the map -/

/-- A save hands the slot of the running method over to its continuation. -/
theorem enqueue {write : Option Snapshot} {task : Task} (h : Accounted (task.holds.toList ++ extra) s)
    (again : ∀ p ∈ task.repeats, p ∈ s.sealedCalls) :
    Accounted extra { s with ticket := s.ticket + 1, journal := s.journal.enqueue s.ticket write task } := by
  refine ⟨?_, ?_, ?_, h.known, ?_, h.timed⟩
  · refine List.pairwise_append.mpr ⟨h.tickets, List.pairwise_singleton _ _, fun c old d new => ?_⟩
    rw [List.mem_singleton.mp new]
    exact Nat.ne_of_lt (h.below c old)
  · intro c mem
    rcases List.mem_append.mp mem with old | new
    · exact (h.below c old).trans (Nat.lt_succ_self _)
    · rw [List.mem_singleton.mp new]
      exact Nat.lt_succ_self _
  · refine h.slotted.perm ?_
    unfold Session.slots
    rw [Journal.held_enqueue]
    exact List.perm_iff_count.mpr fun p => by
      simp only [List.count_append]
      omega
  · intro p mem
    rw [Journal.held_enqueue] at mem
    rcases List.mem_append.mp mem with old | new
    · exact h.resent p old
    · exact again p (by simpa using new)

theorem remove (h : Accounted [] s) {ticket : Nat} {call : Call Snapshot Task} (found : s.journal.find ticket = some call) :
    Accounted call.task.holds.toList { s with journal := s.journal.remove ticket } := by
  have fewer : (s.journal.remove ticket).calls.Sublist s.journal.calls := List.filter_sublist
  refine ⟨h.tickets.sublist fewer, fun c mem => h.below c (fewer.subset mem), h.slotted.perm ?_, h.known,
    fun p mem => h.resent p ((Journal.held_remove ticket).subset mem), h.timed⟩
  have moved : (s.journal.held Task.holds).Perm (call.task.holds.toList ++ (s.journal.remove ticket).held Task.holds) :=
    Journal.held_remove_perm found h.tickets
  unfold Session.slots
  rw [List.nil_append]
  exact (moved.append_left _).trans (List.perm_append_comm_assoc _ _ _)

theorem flush (h : Accounted extra s) (ticket : Nat) : Accounted extra { s with journal := s.journal.flush ticket } := by
  refine ⟨?_, ?_, ?_, h.known, ?_, h.timed⟩
  · have same : (s.journal.flush ticket).calls.map Call.ticket = s.journal.calls.map Call.ticket :=
      Journal.tickets_flush ticket
    have distinct := List.pairwise_map.mpr h.tickets
    rw [← same] at distinct
    exact List.pairwise_map.mp distinct
  · intro c mem
    obtain ⟨e, old, -, -, same⟩ := Journal.mem_flush mem
    exact same ▸ h.below e old
  · have same : Session.slots { s with journal := s.journal.flush ticket } = s.slots := by
      unfold Session.slots
      rw [Journal.held_flush]
    rw [same]
    exact h.slotted
  · rw [Journal.held_flush]
    exact h.resent

/-- A request that has been sealed enters the map under a new id, with its timer. -/
theorem register {promise : Nat} (h : Accounted (promise :: extra) s) {id : String} {p : PendingRequest}
    {timer : RequestTimer} (fresh : s.pendingRequests.get id = none) (own : p.promise = promise)
    (timerOwn : timer.promise = promise ∧ timer.id = id) (made : promise ∈ s.sealedCalls) :
    Accounted extra { s with
      requestTimers := s.requestTimers ++ [timer], pendingRequests := s.pendingRequests.set id p } := by
  refine ⟨h.tickets, h.below, h.slotted.perm ?_, ?_, h.resent, ?_⟩
  · unfold Session.slots
    rw [OrderedMap.values_set_new fresh, List.map_append, List.map_cons, List.map_nil, own]
    exact List.perm_iff_count.mpr fun q => by
      simp only [List.count_append, List.cons_append, List.count_cons, List.count_nil]
      omega
  · intro q mem
    rw [OrderedMap.values_set_new fresh] at mem
    rcases List.mem_append.mp mem with old | new
    · exact h.known q old
    · rw [List.mem_singleton.mp new, own]
      exact made
  · intro t mem
    rcases List.mem_append.mp mem with old | new
    · obtain ⟨q, found, same⟩ := h.timed t old
      have other : t.id ≠ id := by
        rintro rfl
        rw [fresh] at found
        cases found
      exact ⟨q, (OrderedMap.get_set_of_ne other).trans found, same⟩
    · rw [List.mem_singleton.mp new]
      exact ⟨p, timerOwn.2 ▸ OrderedMap.get_set_self _ _ _, own.trans timerOwn.1.symm⟩

/-- An entry that leaves the map with its timer gives its slot to the running method. -/
theorem take (h : Accounted extra s) {id : String} {p : PendingRequest} (found : s.pendingRequests.get id = some p) :
    Accounted (p.promise :: extra) { s with
      requestTimers := s.requestTimers.filter (fun t => t.promise != p.promise)
      pendingRequests := s.pendingRequests.delete id } := by
  have moved := (OrderedMap.values_delete found).map PendingRequest.promise
  refine ⟨h.tickets, h.below, h.slotted.perm ?_, ?_, h.resent, ?_⟩
  · unfold Session.slots
    refine ((moved.append_right _).append_left extra).trans ?_
    exact List.perm_middle
  · intro q mem
    obtain ⟨key, kept⟩ := OrderedMap.mem_values.mp mem
    exact h.known q (OrderedMap.mem_values.mpr ⟨key, OrderedMap.get_of_delete kept⟩)
  · intro t mem
    obtain ⟨old, differ⟩ := List.mem_filter.mp mem
    obtain ⟨q, known, same⟩ := h.timed t old
    have other : t.id ≠ id := by
      intro equal
      rw [equal, found, Option.some.injEq] at known
      rw [known, same] at differ
      simp at differ
    exact ⟨q, (OrderedMap.get_delete_of_ne other).trans known, same⟩

/-- The map is emptied once all its promises have an outcome. -/
theorem rejectAll (h : Accounted extra s) (done : ∀ p ∈ s.pendingRequests.values,
    s.hasSettled p.promise = true ∧ ∀ t ∈ s.requestTimers, t.promise ≠ p.promise) :
    Accounted extra { s with pendingRequests := .empty } := by
  refine ⟨h.tickets, h.below, ?_, by simp [OrderedMap.values, OrderedMap.empty], h.resent, ?_⟩
  · have moved : (extra ++ s.slots).Perm
        (s.pendingRequests.values.map PendingRequest.promise ++ (extra ++ s.journal.held Task.holds)) :=
      List.perm_append_comm_assoc _ _ _
    refine (h.slotted.perm moved).free fun p mem still => ?_
    obtain ⟨entry, member, rfl⟩ := List.mem_map.mp mem
    rw [(done entry member).1] at still
    cases still.2
  · intro t mem
    obtain ⟨p, found, same⟩ := h.timed t mem
    exact absurd same.symm ((done p (OrderedMap.mem_values.mpr ⟨t.id, found⟩)).2 t mem)

end Accounted

/-! ### Moves -/

/-- Moves that neither send, receive nor take a request out of the map. -/
def Kind.apart (k : Kind) : Prop := k ≠ .sending ∧ k ≠ .receiving ∧ k ≠ .taking

theorem Task.idle_of_apart {task : Task} (other : task.kind.apart) : task.holds = none ∧ task.repeats = none := by
  obtain ⟨sends, receives, -⟩ := other
  cases task with
  | request promise id method params seq => exact absurd rfl sends
  | resend promise id method params seq => exact absurd rfl sends
  | response promise frame data prevRecvSeq => exact absurd rfl receives
  | event frame data prevRecvSeq => exact absurd rfl receives
  | _ => exact ⟨rfl, rfl⟩

theorem accounted_of_move {extra : List Nat} {s t : Session} {k : Kind} (other : k.apart) (move : Move s k t)
    (h : Accounted extra s) : Accounted extra t := by
  cases move with
  | note o => exact h.note (Obs.frames_eq_none other.1).1
  | tick u =>
    exact ⟨h.tickets, fun c mem => (h.below c mem).trans (Nat.lt_succ_self _), h.slotted, h.known, h.resent, h.timed⟩
  | untime promise =>
    exact ⟨h.tickets, h.below, h.slotted, h.known, h.resent, fun t mem => h.timed t (List.mem_filter.mp mem).1⟩
  | reject done => exact h.rejectAll done
  | take id promise => exact absurd rfl other.2.2
  | save task snapshot adapter configured async current =>
    obtain ⟨holds, repeats⟩ := Task.idle_of_apart other
    refine Accounted.enqueue ?_ (by simp [repeats])
    rw [holds]
    exact h
  | clear adapter configured async => exact Accounted.enqueue (by exact h) (by simp [Task.repeats])
  | register id p timer => exact absurd rfl other.1
  | _ => exact ⟨h.tickets, h.below, h.slotted, h.known, h.resent, h.timed⟩

theorem accounted_kept {extra : List Nat} {α : Type} {m : M α} (made : Keeps (Moves Kind.apart) m) :
    Keeps (Preserve (Accounted extra)) m := by
  refine preserve_of_moves made fun s t k allowed move h => accounted_of_move ?_ move h
  rcases allowed with quiet | other
  · refine ⟨?_, ?_, ?_⟩ <;> rintro rfl <;> cases quiet
  · exact other

theorem accounted_of_moves {extra : List Nat} {α : Type} {m : M α} (made : Keeps (Moves Kind.apart) m) :
    Triple (Accounted extra) m (fun _ => Accounted extra) (Accounted extra) := .preserve (accounted_kept made)

/-- An id that is not in the map stays out of it. -/
theorem absent_kept {id : String} {α : Type} {m : M α} (made : Keeps (Moves Kind.apart) m) :
    Keeps (Preserve fun s => s.pendingRequests.get id = none) m := by
  refine preserve_of_moves made fun s t k allowed move absent => ?_
  cases move with
  | reject done => rfl
  | take key promise => simp [Kind.quiet, Kind.apart] at allowed
  | register key p timer => simp [Kind.quiet, Kind.apart] at allowed
  | _ => exact absent

/-! ### Methods that send -/

section Methods
variable {extra : List Nat} (C : Crypto)

/-- Settling a promise frees its slot, if it still has one. -/
theorem settle_accounted {E : Session → Prop} (promise : Nat) (outcome : Outcome) :
    Triple (fun s => Accounted (promise :: extra) s ∨ Accounted extra s) (settle promise outcome)
      (fun _ => Accounted extra) E := by
  intro s held
  change Accounted extra (after (settle promise outcome) s)
  have other : (Obs.settled promise outcome).kind.apart := by
    cases outcome <;> exact ⟨nofun, nofun, nofun⟩
  have moved : Keeps (Moves Kind.apart) (settle promise outcome) := settle_moves promise outcome (Or.inr other)
  rcases held with slot | free
  · obtain ⟨more, run, done⟩ := settle_spec promise outcome s
    have kept := (accounted_of_moves moved).final slot
    rw [run] at kept ⊢
    exact kept.settled done
  · exact (accounted_of_moves moved).final free

theorem persistSnapshot_accounted (task : Task) :
    Triple (fun s => Accounted (task.holds.toList ++ extra) s ∧ ∀ p ∈ task.repeats, p ∈ s.sealedCalls)
      (persistSnapshot task)
      (fun waits s => (waits = true → Accounted extra s) ∧ (waits = false → Accounted (task.holds.toList ++ extra) s))
      (Accounted (task.holds.toList ++ extra)) := by
  intro s ⟨h, again⟩
  rcases persistSnapshot_cases task s with ⟨-, run⟩ | ⟨adapter, -, -, run⟩ |
    ⟨adapter, snapshot, -, -, -, run⟩ | ⟨adapter, snapshot, -, -, -, run⟩
  · rw [run]
    exact ⟨nofun, fun _ => h⟩
  · rw [run]
    exact h
  · rw [run]
    exact ⟨fun _ => h.enqueue again, nofun⟩
  · rw [run]
    exact ⟨nofun, fun _ => ⟨h.tickets, h.below, h.slotted, h.known, h.resent, h.timed⟩⟩

theorem persistSnapshot_absent (task : Task) (id : String) :
    Keeps (Preserve fun s => s.pendingRequests.get id = none) (persistSnapshot task) := by
  intro s absent
  rcases persistSnapshot_cases task s with ⟨-, run⟩ | ⟨adapter, -, -, run⟩ |
    ⟨adapter, snapshot, -, -, -, run⟩ | ⟨adapter, snapshot, -, -, -, run⟩
  · rw [after_of_ok run]
    exact absent
  · rw [after_of_error run]
    exact absent
  · rw [after_of_ok run]
    exact absent
  · rw [after_of_ok run]
    exact absent

theorem nextSendSeq_accounted {slot again : Option Nat} (task : Nat → Task) (holds : ∀ n, (task n).holds = slot)
    (repeats : ∀ n, (task n).repeats = again) :
    Triple (fun s => Accounted (slot.toList ++ extra) s ∧ ∀ p ∈ again, p ∈ s.sealedCalls) (nextSendSeq task)
      (fun reserved s => (reserved = none → Accounted extra s) ∧
        (∀ seq, reserved = some seq → Accounted (slot.toList ++ extra) s))
      (Accounted (slot.toList ++ extra)) := by
  refine .read fun s ⟨h, sealedBefore⟩ => .ite (fun _ => ?_) fun _ => ?_
  · exact .start (.bind (accounted_of_moves (report_moves _)) fun _ => .bind (accounted_of_moves (close_moves _)) fun _ =>
      .throw fun _ held => held) h
  · have saved := @persistSnapshot_accounted extra (task s.sendSeq)
    rw [holds, repeats] at saved
    refine .bind (Q := fun _ t => Accounted (slot.toList ++ extra) t ∧ ∀ p ∈ again, p ∈ t.sealedCalls)
      (.modify fun t same => ?_) fun _ => .bind saved fun waits => .ite (fun yes => .pure fun t held => ?_)
      fun no => .pure fun t held => ?_
    · subst same
      exact ⟨⟨h.tickets, h.below, h.slotted, h.known, h.resent, h.timed⟩, sealedBefore⟩
    · exact ⟨fun _ => held.1 yes, nofun⟩
    · exact ⟨nofun, fun _ _ => held.2 (by simpa using no)⟩

theorem nextSendSeq_absent (task : Nat → Task) (id : String) :
    Keeps (Preserve fun s => s.pendingRequests.get id = none) (nextSendSeq task) := by
  refine .bind .get fun s => .ite ?_ ?_
  · exact .bind (absent_kept (report_moves _)) fun _ => .bind (absent_kept (close_moves _)) fun _ => .throw _
  · exact .bind (.modify fun _ absent => absent) fun _ => .bind (persistSnapshot_absent _ id) fun _ =>
      .ite (.pure _) (.pure _)

theorem buildRequestMessage_accounted (call : Nat) (id method : String) (params : Option Json) (seq : Nat) :
    Triple (fun s => Accounted extra s ∧ (call ∈ extra ∨ call ∈ s.sealedCalls))
      (buildRequestMessage C call id method params seq)
      (fun _ s => Accounted extra s ∧ call ∈ s.sealedCalls) (Accounted extra) := by
  refine .read fun s ⟨h, slot⟩ => ?_
  cases s.sendKey with
  | none => exact .throw fun _ same => same ▸ h
  | some sendKey =>
    dsimp only
    cases sealPayload C sendKey s.channelId seq (buildSealedParams method params) ⟨.req, s.pubKeyB64, id⟩ with
    | error e => exact .throw fun _ same => same ▸ h
    | ok made =>
      let frame : Sealed := ⟨sendKey, seq, s.channelId, ⟨.req, s.pubKeyB64, id⟩, made.2, some call⟩
      have both : Accounted extra { s with trace := s.trace ++ [.sealing frame] } ∧
          call ∈ Session.sealedCalls { s with trace := s.trace ++ [.sealing frame] } := h.sealing rfl slot
      exact .at_state both

theorem buildRequestMessage_absent (call : Nat) (id method : String) (params : Option Json) (seq : Nat) (key : String) :
    Keeps (Preserve fun s => s.pendingRequests.get key = none) (buildRequestMessage C call id method params seq) := by
  refine .bind .get fun s => ?_
  cases s.sendKey with
  | none => exact .throw _
  | some sendKey =>
    dsimp only
    cases sealPayload C sendKey s.channelId seq (buildSealedParams method params) ⟨.req, s.pubKeyB64, id⟩ with
    | error e => exact .throw _
    | ok made => exact .bind (.modify fun _ absent => absent) fun _ => .pure _

theorem sendFrame_accounted (body : Body) (frame : Sealed) :
    Triple (Accounted extra) (sendRaw body (some frame)) (fun _ => Accounted extra) (Accounted extra) := by
  refine .read fun s h => .ite (fun _ => (accounted_of_moves (report_moves _)).start h) fun _ => .modify fun t same => ?_
  subst same
  exact h.note rfl

theorem sendRequest_accounted (promise : Nat) (id method : String) (params : Option Json) (seq : Nat) :
    Triple (fun s => Accounted [promise] s ∧ s.pendingRequests.get id = none)
      (sendRequest C promise id method params seq) (fun _ => Accounted []) (Accounted [promise]) := by
  have built := (@buildRequestMessage_accounted [promise] C promise id method params seq).and_keeps
    (buildRequestMessage_absent C promise id method params seq id)
  refine .bind (built.mono (fun s held => ⟨⟨held.1, Or.inl (by simp)⟩, held.2⟩) (fun _ _ held => held)
    fun _ held => held.1) fun made => .bind (Q := fun _ => Accounted []) (.modify fun s held => ?_) fun _ =>
    .tryCatch (sendFrame_accounted _ _) fun _ => (settle_accounted _ _).mono (fun _ held => Or.inr held)
      (fun _ _ held => held) (fun _ held => held)
  obtain ⟨⟨h, made⟩, fresh⟩ := held
  exact h.register fresh rfl ⟨rfl, rfl⟩ made

theorem sendResend_accounted (call : Nat) (id method : String) (params : Option Json) (seq : Nat) :
    Triple (fun s => Accounted [] s ∧ call ∈ s.sealedCalls) (sendResend C call id method params seq)
      (fun _ => Accounted []) (Accounted []) :=
  .bind ((buildRequestMessage_accounted C call id method params seq).mono (fun _ held => ⟨held.1, Or.inr held.2⟩)
    (fun _ _ held => held.1) fun _ held => held) fun _ => sendFrame_accounted _ _

/-- A request that passes the check of the limit finds a free slot and a new id. -/
def RoomForRequest (s : Session) : Prop :=
  s.phase = .connected → s.sendKey ≠ none → s.pendingRequests.size < maxPendingRequests →
    s.slots.length < maxPendingRequests ∧ s.pendingRequests.get ("req-" ++ toString (s.reqCounter + 1)) = none

instance (s : Session) : Decidable (RoomForRequest s) := by
  unfold RoomForRequest
  infer_instance

theorem request_accounted {s : Session} (h : Accounted [] s) (room : RoomForRequest s) (method : String)
    (params : Option Json) :
    Triple (fun t => t = s) (request C method params) (fun _ => Accounted []) (Accounted []) := by
  have ticked : Accounted [] { s with ticket := s.ticket + 1 } :=
    ⟨h.tickets, fun c mem => (h.below c mem).trans (Nat.lt_succ_self _), h.slotted, h.known, h.resent, h.timed⟩
  have refused (promise : Nat) (error : String) : Triple (fun t => t = { s with ticket := s.ticket + 1 })
      (settle promise (.failed error)) (fun _ => Accounted []) (Accounted []) :=
    (accounted_of_moves (fail_moves promise error)).start ticked
  have drawn : freshTicket s = .ok s.ticket { s with ticket := s.ticket + 1 } := rfl
  refine .bind (Q := fun _ t => t = { s with ticket := s.ticket + 1 }) (.at_state (by rw [drawn])) fun promise =>
    .read fun t same => ?_
  subst same
  refine .ite (fun _ => refused _ _) fun online => .ite (fun _ => refused _ _) fun under => ?_
  simp only [not_or, not_not] at online
  obtain ⟨free, fresh⟩ := room online.1 online.2 (Nat.lt_of_not_le under)
  have claimed : Accounted [promise] { s with ticket := s.ticket + 1, reqCounter := s.reqCounter + 1 } :=
    ⟨ticked.tickets, ticked.below, h.slotted.claim free promise, h.known, h.resent, h.timed⟩
  let id := "req-" ++ toString (s.reqCounter + 1)
  refine .bind (Q := fun _ t => Accounted [promise] t ∧ t.pendingRequests.get id = none)
    (.modify fun t same => ?_) fun _ => .tryCatch (.bind (Q := fun reserved t =>
      ((reserved = none → Accounted [] t) ∧ (∀ seq, reserved = some seq → Accounted [promise] t)) ∧
        t.pendingRequests.get id = none) ?_ fun reserved => ?_) fun _ =>
    (settle_accounted promise _).mono (fun _ held => Or.inl held) (fun _ _ held => held) fun _ held => held
  · subst same
    exact ⟨claimed, fresh⟩
  · refine ((@nextSendSeq_accounted [] (some promise) none _ (fun _ => rfl) fun _ => rfl).and_keeps
      (nextSendSeq_absent (.request promise id method params) id)).mono (fun t held => ?_) (fun _ _ held => held)
      fun t held => held.1
    exact ⟨⟨held.1, nofun⟩, held.2⟩
  · cases reserved with
    | none => exact .pure fun t held => held.1.1 rfl
    | some seq =>
      exact (sendRequest_accounted C promise id method params seq).mono (fun t held => ⟨held.1.2 seq rfl, held.2⟩)
        (fun _ _ held => held) fun _ held => held

/-- What was sealed stays sealed. -/
theorem sealedCalls_grow {α : Type} {m : M α} (made : Keeps (Moves fun _ => True) m) (call : Nat) :
    Keeps (Preserve fun s => call ∈ s.sealedCalls) m := by
  refine (grows_of_moves made).mono fun s t grown member => ?_
  obtain ⟨more, trace⟩ := grown
  simp only [Session.sealedCalls, Session.sealedFrames, ← trace, List.drop_zero, List.filterMap_append]
  exact List.mem_append_left _ member

theorem resendPending_accounted : Keeps (Preserve (Accounted [])) (resendPending C) := by
  refine Triple.keeps (.read fun s h => .ite (fun _ => .pure fun _ same => same ▸ h) fun _ => ?_)
  -- the promises of the loop were in the map when it started, so they were sealed
  refine .mono (.forM (I := fun t => Accounted [] t ∧ ∀ req ∈ s.pendingRequests.values, req.promise ∈ t.sealedCalls)
    (E := Accounted []) _ _ fun req member => ?_) (fun t same => ?_) (fun _ _ held => held.1) fun _ held => held
  · have sealedStay {α : Type} {m : M α} (made : Keeps (Moves fun _ => True) m) :
        Keeps (Preserve fun t => ∀ req ∈ s.pendingRequests.values, req.promise ∈ t.sealedCalls) m :=
      fun t known req mem => sealedCalls_grow made req.promise t (known req mem)
    have reserved := (@nextSendSeq_accounted [] none (some req.promise) _ (fun _ => rfl) fun _ => rfl).and_keeps
      (sealedStay (nextSendSeq_moves trivial (.resend req.promise req.id req.method req.params) fun _ => rfl))
    refine .bind (reserved.mono (fun t held => ⟨⟨held.1, ?_⟩, held.2⟩) (fun _ _ held => held) fun _ held => held.1)
      fun result => ?_
    · intro p same
      cases same
      exact held.2 req member
    · cases result with
      | none => exact .pure fun t held => ⟨held.1.1 rfl, held.2⟩
      | some seq =>
        exact ((sendResend_accounted C req.promise req.id req.method req.params seq).and_keeps
          (sealedStay (sendResend_moves trivial C _ _ _ _ _))).mono
          (fun t held => ⟨⟨held.1.2 seq rfl, held.2 req member⟩, held.2⟩) (fun _ _ held => held) fun _ held => held.1
  · subst same
    exact ⟨h, h.known⟩

theorem handleReady_accounted (state remote : Option String) :
    Keeps (Preserve (Accounted [])) (handleReady C state remote) := by
  have connects : (Kind.phase .connected).apart := by refine ⟨?_, ?_, ?_⟩ <;> rintro ⟨⟩
  have waits : (Kind.phase .waiting).apart := by refine ⟨?_, ?_, ?_⟩ <;> rintro ⟨⟩
  have lives : Kind.lifetime.apart := by refine ⟨?_, ?_, ?_⟩ <;> rintro ⟨⟩
  have saves : Kind.saving.apart := by refine ⟨?_, ?_, ?_⟩ <;> rintro ⟨⟩
  exact .bind (accounted_kept stopReconnect_moves) fun _ => .bind .get fun _ => .ite
    (.ite (accounted_kept (.bind (report_moves _) fun _ => close_moves _))
      (.bind (accounted_kept (moves_adjusting fun _ => rfl)) fun _ =>
        .bind (accounted_kept (setPhase_moves _ (Or.inr connects))) fun _ =>
        .bind (accounted_kept (startSessionTtl_moves lives)) fun _ => .bind (accounted_kept startHeartbeat_moves) fun _ =>
        .bind (accounted_kept (persistSnapshotAsync_moves saves)) fun _ => .ite (resendPending_accounted C) (.pure _)))
    (.ite (accounted_kept (setPhase_moves _ (Or.inr waits))) (.pure _))

/-! ### Methods that receive -/

theorem delivered_accounted {E : Session → Prop} (frame : Delivery) :
    Triple (Accounted extra) (record (.delivered frame)) (fun _ => Accounted extra) E :=
  .modify fun _ h => h.note rfl

theorem receive_accounted {E : Session → Prop} (seq : Int) :
    Triple (Accounted extra) (modify fun s => { s with recvSeq := seq } : M PUnit) (fun _ => Accounted extra) E :=
  .modify fun _ h => ⟨h.tickets, h.below, h.slotted, h.known, h.resent, h.timed⟩

theorem announce_accounted (event : Event) (other : (Obs.emitted event).kind.apart) :
    Triple (Accounted extra) (emit event) (fun _ => Accounted extra) (Accounted extra) :=
  accounted_of_moves (emit_moves event (Or.inr other))

/-- A response settles its promise before anything else can throw, unless its payload does. -/
theorem deliverResponse_accounted {data : Json} (readable : unreadable data = false) (promise : Nat) (frame : Delivery) :
    Triple (Accounted (promise :: extra)) (deliverResponse promise frame data) (fun _ => Accounted extra)
      (Accounted extra) := by
  have freed (outcome : Outcome) : Triple (Accounted (promise :: extra)) (settle promise outcome)
      (fun _ => Accounted extra) (Accounted extra) :=
    (settle_accounted promise outcome).mono (fun _ held => Or.inl held) (fun _ _ held => held) fun _ held => held
  refine .bind (delivered_accounted frame) fun _ =>
    .bind (Q := fun outcome s => data.member "_ok" = .ok outcome ∧ Accounted (promise :: extra) s) ?_ fun outcome =>
    .assume fun read => ?_
  · cases data with
    | null => cases readable
    | _ => exact fun _ held => ⟨rfl, held⟩
  · split
    · exact .bind (freed _) fun _ => announce_accounted _ ⟨nofun, nofun, nofun⟩
    · rw [errorOf_readable readable read]
      exact .bind (Q := fun _ => Accounted (promise :: extra)) (.pure fun _ held => held) fun message =>
        .bind (freed _) fun _ => announce_accounted _ ⟨nofun, nofun, nofun⟩
    · exact freed _

/-- What an unreadable response does: nothing but throw. -/
theorem deliverUnreadable {P : Session → Prop} {data : Json} (throws : unreadable data = true) (promise : Nat)
    (frame : Delivery) (noted : ∀ s, P s → P { s with trace := s.trace ++ [.delivered frame] }) :
    Triple P (deliverResponse promise frame data) (fun _ _ => False) P := by
  refine .bind (Q := fun _ => P) (.modify noted) fun _ => ?_
  cases data with
  | null => exact .throw fun _ held => held
  | obj fields =>
    have both : (Json.obj fields).flag "_ok" = some false ∧ (refusalMessage (.obj fields)).printable = false := by
      simpa [unreadable] using throws
    have field : (Json.obj fields).field "_ok" = some (.bool false) := by
      have flag := both.1
      unfold Json.flag at flag
      split at flag
      · rename_i b shape
        cases flag
        exact shape
      · cases flag
    have read : (Json.obj fields).member "_ok" = .ok (some (.bool false)) := congrArg Except.ok field
    have unprintable : errorOf (refusalMessage (.obj fields)) = .error "Cannot convert object to primitive value" := by
      rw [errorOf, both.2]
      rfl
    rw [read]
    refine .bind (Q := fun outcome s => outcome = some (.bool false) ∧ P s) (.pure fun _ held => ⟨rfl, held⟩) fun _ =>
      .assume fun outcome => ?_
    subst outcome
    dsimp only
    rw [unprintable]
    exact .bind (Q := fun _ _ => False) (.throw fun _ held => held) fun _ => fun _ never => never.elim
  | _ => cases throws

theorem openResponse_accounted (promise : Nat) (recvKey : Bytes) (sender id envelope : String) :
    Triple (Accounted [promise]) (openResponse C promise recvKey sender id envelope) (fun _ => Accounted [])
      (fun s => Accounted [promise] s ∨ Accounted [] s) := by
  refine .read fun s h => .start (.bind (.runExcept (Q := fun _ => Accounted [promise]) (fun _ _ _ held => held)
    fun _ held => Or.inl held) fun opened => .ite (fun _ => ?_) fun _ => ?_) h
  · exact (settle_accounted promise _).mono (fun _ held => Or.inl held) (fun _ _ held => held) fun _ held => held
  · have saved := @persistSnapshot_accounted []
      (.response promise ⟨recvKey, opened.seq, .res, id, opened.plaintext⟩ opened.data s.recvSeq)
    refine .bind (receive_accounted _) fun _ => .bind (saved.mono (fun _ held => ⟨held, nofun⟩) (fun _ _ held => held)
      fun _ held => Or.inl held) fun waits => .ite (fun yes => .pure fun _ held => held.1 yes) fun no => ?_
    cases throws : unreadable opened.data with
    | true =>
      exact (deliverUnreadable throws promise _ fun _ h => h.note rfl).mono (fun _ held => held.2 (by simpa using no))
        (fun _ _ never => never.elim) fun _ held => Or.inl held
    | false =>
      exact (deliverResponse_accounted throws promise _).mono (fun _ held => held.2 (by simpa using no))
        (fun _ _ held => held) fun _ held => Or.inr held

theorem handleResponse_accounted (sender : String) (id envelope : Option String) :
    Keeps (Preserve (Accounted [])) (handleResponse C sender id envelope) := by
  have freed (promise : Nat) (error : String) : Triple (fun s => Accounted [promise] s ∨ Accounted [] s)
      (settle promise (.failed error)) (fun _ => Accounted []) (Accounted []) := settle_accounted promise _
  refine Triple.keeps (.read fun s h => .ite (fun _ => .pure fun _ same => same ▸ h) fun _ => ?_)
  cases nonEmpty id with
  | none => exact .pure fun _ same => same ▸ h
  | some name =>
    dsimp only
    cases found : s.pendingRequests.get name with
    | none => exact .pure fun _ same => same ▸ h
    | some pending =>
      refine .bind (Q := fun _ => Accounted [pending.promise]) (.modify fun t same => ?_) fun _ => ?_
      · subst same
        exact h.take found
      · split
        · exact .tryCatch (openResponse_accounted C _ _ _ _ _) fun _ => freed _ _
        · exact (freed _ _).mono (fun _ held => Or.inl held) (fun _ _ held => held) fun _ held => held

theorem deliverEvent_accounted (frame : Delivery) (data : Json) :
    Triple (Accounted extra) (deliverEvent frame data) (fun _ => Accounted extra) (Accounted extra) := by
  refine .bind (delivered_accounted frame) fun _ => ?_
  cases eventOf data with
  | none => exact announce_accounted _ ⟨nofun, nofun, nofun⟩
  | some named => exact announce_accounted _ ⟨nofun, nofun, nofun⟩

theorem handleEvent_accounted (sender : String) (id envelope : Option String) :
    Keeps (Preserve (Accounted [])) (handleEvent C sender id envelope) := by
  refine Triple.keeps (.read fun s h => .ite (fun _ => .pure fun _ same => same ▸ h) fun _ => .start ?_ h)
  split
  · refine .tryCatch (.read fun t held => .start (.bind (.runExcept (Q := fun _ => Accounted [])
      (fun _ _ _ held => held) fun _ held => held) fun opened => .ite (fun _ => .pure fun _ held => held) fun _ => ?_) held)
      fun _ => .pure fun _ held => held
    refine .bind (receive_accounted _) fun _ => .bind ((@persistSnapshot_accounted [] (.event _ _ _)).mono
      (fun _ held => ⟨held, nofun⟩) (fun _ _ held => held) fun _ held => held) fun waits =>
      .ite (fun yes => .pure fun _ held => held.1 yes) fun no => ?_
    exact (deliverEvent_accounted _ _).mono (fun _ held => held.2 (by simpa using no)) (fun _ _ held => held)
      fun _ held => held
  · exact .pure fun _ held => held

theorem handleMessage_accounted (msg : ProtocolMessage) : Keeps (Preserve (Accounted [])) (handleMessage C msg) := by
  obtain ⟨v, ch, ts, sender, body⟩ := msg
  have checked {m : M Unit} (rest : Keeps (Preserve (Accounted [])) m) : Keeps (Preserve (Accounted []))
      (if !body.fromRelay ∧ sender = "_adapter" then emit (.error "Rejected message with spoofed _adapter from")
        else if v ≠ 1 then close "unsupported_version" else m) :=
    .ite (accounted_kept (report_moves _)) (.ite (accounted_kept (close_moves _)) rest)
  cases body with
  | ready state remote => exact checked (handleReady_accounted C state remote)
  | res id envelope => exact checked (handleResponse_accounted C _ _ _)
  | evt id envelope => exact checked (handleEvent_accounted C _ _ _)
  | _ => exact accounted_kept fun s => moves_mono (by simp [messageKinds, Kind.apart]) (handleMessage_moves C _ s)

/-! ### Continuations and timers -/

theorem close_calm (reason : String) : Triple Session.calm (close reason) (fun _ => Session.calm) fun _ => False := by
  have field {f : Session → Session} (same : ∀ s, (f s).inputs = s.inputs) :
      Triple Session.calm (modify f : M PUnit) (fun _ => Session.calm) fun _ => False :=
    .modify fun s calm => by
      unfold Session.calm
      rw [same]
      exact calm
  have rejected : Triple Session.calm (rejectAllPending "Session closed") (fun _ => Session.calm) fun _ => False :=
    .read fun s calm => .start (.bind (.forM _ _ fun req _ => .bind (field fun _ => rfl) fun _ => settle_calm _ _) fun _ =>
      field fun _ => rfl) calm
  have cleared : Triple Session.calm clearPersistence (fun _ => Session.calm) fun _ => False := by
    refine field fun s => ?_
    split
    · rfl
    · split_ifs <;> rfl
  have closed : Triple Session.calm (setPhase .closed) (fun _ => Session.calm) fun _ => False :=
    .read fun s calm => .start (.ite (fun _ => .pure fun _ held => held) fun _ =>
      .bind (field fun _ => rfl) fun _ => emit_calm _) calm
  have said (body : Body) : Triple Session.calm (sendRaw body none) (fun _ => Session.calm) fun _ => False :=
    .read fun s calm => .start (.ite (fun _ => emit_calm _) fun _ => field fun _ => rfl) calm
  have rest : Triple Session.calm (do clearPersistence; setPhase .closed) (fun _ => Session.calm) fun _ => False :=
    .bind cleared fun _ => closed
  exact .bind (field fun _ => rfl) fun _ => .bind (field fun _ => rfl) fun _ => .bind (field fun _ => rfl) fun _ =>
    .bind (field fun _ => rfl) fun _ => .bind rejected fun _ => .read fun s calm => .start
      (.ite (fun _ => .bind (said _) fun _ => rest) fun _ => rest) calm

theorem persistenceError_calm (error : String) :
    Triple Session.calm (persistenceError error) (fun _ => Session.calm) fun _ => False :=
  .bind (emit_calm _) fun _ => .bind (close_calm _) fun _ => .pure fun _ calm => calm

/-- Taking a response back settles its promise when no listener throws. -/
theorem rollback_accounted (promise : Nat) (prevRecvSeq : Int) (error : String) :
    Triple (fun s => Accounted (promise :: extra) s ∧ s.calm) (do
      modify fun s => { s with recvSeq := prevRecvSeq }
      let wrapped ← persistenceError error
      settle promise (.failed wrapped)) (fun _ => Accounted extra) (Accounted extra) := by
  have reported := (@accounted_of_moves (promise :: extra) _ _ (persistenceError_moves error)).and
    (persistenceError_calm error)
  refine .bind (Q := fun _ s => Accounted (promise :: extra) s ∧ s.calm) (.modify fun s held => ?_) fun _ =>
    .bind (reported.mono (fun _ held => held) (fun _ _ held => held) fun _ held => held.2.elim) fun _ =>
    (settle_accounted promise _).mono (fun _ held => Or.inl held.1) (fun _ _ held => held) fun _ held => held
  obtain ⟨h, calm⟩ := held
  exact ⟨⟨h.tickets, h.below, h.slotted, h.known, h.resent, h.timed⟩, calm⟩

/-- What the continuation of a save needs: a request's id is not in the map, and no
listener throws where a response's promise is settled last. -/
def Continuable (s : Session) (inputs : Inputs) (resolves : Bool) : Task → Prop
  | .request _ id _ _ _ => resolves = true → s.pendingRequests.get id = none
  | .response _ _ data _ => resolves = false ∨ unreadable data = true → true ∉ inputs.throws
  | _ => True

instance (s : Session) (inputs : Inputs) (resolves : Bool) (task : Task) :
    Decidable (Continuable s inputs resolves task) := by
  unfold Continuable
  split <;> infer_instance

theorem resume_accounted {s : Session} {task : Task} (h : Accounted task.holds.toList s)
    (again : ∀ p ∈ task.repeats, p ∈ s.sealedCalls) (ready : Continuable s s.inputs true task) :
    Triple (fun t => t = s) (resume C task) (fun _ => Accounted []) (Accounted []) := by
  cases task with
  | request promise id method params seq =>
    exact .tryCatch ((sendRequest_accounted C promise id method params seq).start ⟨h, ready rfl⟩) fun _ =>
      (settle_accounted promise _).mono (fun _ held => Or.inl held) (fun _ _ held => held) fun _ held => held
  | resend promise id method params seq =>
    exact .tryCatch ((sendResend_accounted C promise id method params seq).start ⟨h, again promise rfl⟩) fun _ =>
      .pure fun _ held => held
  | response promise frame data prevRecvSeq =>
    cases throws : unreadable data with
    | true =>
      have thrown := deliverUnreadable (P := fun t => Accounted [promise] t ∧ t.calm) throws promise frame
        fun _ held => ⟨held.1.note rfl, held.2⟩
      exact .tryCatch ((thrown.mono (fun _ held => held) (fun _ _ never => never.elim) fun _ held => held).start
        ⟨h, ready (Or.inr throws)⟩) fun e => rollback_accounted promise prevRecvSeq e
    | false =>
      exact .tryCatch ((deliverResponse_accounted throws promise frame).start h) fun e =>
        .bind (receive_accounted _) fun _ => .bind (accounted_of_moves (persistenceError_moves e)) fun _ =>
        (settle_accounted promise _).mono (fun _ held => Or.inr held) (fun _ _ held => held) fun _ held => held
  | event frame data prevRecvSeq =>
    exact .tryCatch ((deliverEvent_accounted frame data).start h) fun e =>
      .bind (receive_accounted _) fun _ => .bind (accounted_of_moves (persistenceError_moves e)) fun _ =>
      accounted_of_moves (report_moves _)
  | accept target =>
    have saves : Kind.saving.apart := by refine ⟨?_, ?_, ?_⟩ <;> rintro ⟨⟩
    have offer : Kind.offer.apart := by refine ⟨?_, ?_, ?_⟩ <;> rintro ⟨⟩
    exact (accounted_of_moves (resume_moves C (.accept target) saves (fun same => nomatch same) fun _ _ => offer)).start h
  | snapshot => exact .pure fun _ same => same ▸ h
  | cleared => exact .pure fun _ same => same ▸ h

theorem fail_accounted {s : Session} {task : Task} (h : Accounted task.holds.toList s)
    (ready : Continuable s s.inputs false task) (error : String) :
    Triple (fun t => t = s) (fail error task) (fun _ => Accounted []) (Accounted []) := by
  cases task with
  | request promise id method params seq =>
    have freed (error : String) : Triple (Accounted [promise]) (settle promise (.failed error)) (fun _ => Accounted [])
        (Accounted [promise]) :=
      (settle_accounted promise _).mono (fun _ held => Or.inl held) (fun _ _ held => held) fun _ held => held
    exact .tryCatch (.start (.bind (accounted_of_moves (persistenceError_moves error)) fun _ => freed _) h) fun _ =>
      (settle_accounted promise _).mono (fun _ held => Or.inl held) (fun _ _ held => held) fun _ held => held
  | response promise frame data prevRecvSeq =>
    exact (rollback_accounted promise prevRecvSeq error).start ⟨h, ready (Or.inl rfl)⟩
  | event frame data prevRecvSeq =>
    exact .start (.bind (receive_accounted _) fun _ => .bind (accounted_of_moves (persistenceError_moves error)) fun _ =>
      accounted_of_moves (report_moves _)) h
  | resend promise id method params seq =>
    exact (accounted_of_moves (.bind (persistenceError_moves _) fun _ => .pure _)).start h
  | accept target => exact (accounted_of_moves (.bind (persistenceError_moves _) fun _ => .pure _)).start h
  | snapshot => exact (accounted_of_moves (.bind (persistenceError_moves _) fun _ => .pure _)).start h
  | cleared => exact (accounted_of_moves (report_moves _)).start h

theorem fire_accounted (name : TimerName) : Keeps (Preserve (Accounted [])) (fire name) := by
  have drops : (Kind.phase .disconnected).apart := by refine ⟨?_, ?_, ?_⟩ <;> rintro ⟨⟩
  cases name with
  | request promise =>
    refine Triple.keeps (.read fun s h => ?_)
    dsimp only
    cases armed : s.requestTimers.find? (fun t => t.promise == promise) with
    | none => exact .pure fun _ same => same ▸ h
    | some timer =>
      obtain ⟨p, found, same⟩ := h.timed timer (List.mem_of_find?_eq_some armed)
      have own : timer.promise = promise := by simpa using List.find?_some armed
      have taken := h.take found
      rw [same, own] at taken
      refine .ite (fun _ => .bind (Q := fun _ => Accounted [promise]) (.modify fun t same => ?_) fun _ => ?_)
        fun _ => .pure fun _ same => same ▸ h
      · subst same
        exact taken
      · exact (settle_accounted promise _).mono (fun _ held => Or.inl held) (fun _ _ held => held) fun _ held => held
  | _ => exact accounted_kept (fire_moves _ (fun _ => drops) fun _ same => nomatch same)

/-! ### Steps and runs -/

/-- The steps in which the limit is kept: a request that passes the check finds a free slot
and a new id, continuations find what they need, and the process does not die. -/
def WithinLimit (s : Session) (l : Inputs × Label) : Prop :=
  match l.2 with
  | .request _ _ => RoomForRequest s
  | .settle ticket resolves => ∀ call ∈ s.journal.find ticket, Continuable s l.1 resolves call.task
  | .crash => False
  | _ => True

instance (s : Session) (l : Inputs × Label) : Decidable (WithinLimit s l) := by
  obtain ⟨inputs, label⟩ := l
  unfold WithinLimit
  apply @Label.casesOn _ label <;> intros <;> infer_instance

theorem settleCall_accounted {s : Session} {inputs : Inputs} {ticket : Nat} {resolves : Bool}
    (ready : ∀ call ∈ s.journal.find ticket, Continuable s inputs resolves call.task) (h : Accounted [] s) :
    Accounted [] (after (settleCall C ticket resolves) { s with inputs := inputs }) := by
  have start : Accounted [] { s with inputs := inputs } :=
    ⟨h.tickets, h.below, h.slotted, h.known, h.resent, h.timed⟩
  refine (settleCall_rule C (P := fun t => t = { s with inputs := inputs }) (fun t same => same ▸ start)
    (fun resolved t call same found _ => ?_) fun rejected t call same found => ?_).final rfl
  · subst same resolved
    have again : ∀ p ∈ call.task.repeats, p ∈ s.sealedCalls := fun p repeats =>
      h.resent p (Journal.mem_held (Journal.mem_of_find found).1 repeats)
    have held : Accounted call.task.holds.toList
        { s with inputs := inputs, journal := s.journal.remove ticket } := start.remove found
    exact resume_accounted C held again (ready call found)
  · subst same rejected
    have held : Accounted call.task.holds.toList
        { s with inputs := inputs, journal := s.journal.remove ticket } := start.remove found
    exact fail_accounted held (ready call found) "save"

theorem step_accounted {s : Session} {l : Inputs × Label} (within : WithinLimit s l) (h : Accounted [] s) :
    Accounted [] (step C s l) := by
  obtain ⟨inputs, label⟩ := l
  have start : Accounted [] { s with inputs := inputs } :=
    ⟨h.tickets, h.below, h.slotted, h.known, h.resent, h.timed⟩
  have field {f : Session → Session} (same : ∀ s, (f s).journal = s.journal ∧ (f s).ticket = s.ticket ∧
      (f s).trace = s.trace ∧ (f s).pendingRequests = s.pendingRequests ∧ (f s).requestTimers = s.requestTimers) :
      Keeps (Preserve (Accounted [])) (modify f : M Unit) := by
    intro t held
    obtain ⟨journal, ticket, trace, pending, timers⟩ := same t
    change Accounted [] (f t)
    generalize f t = u at journal ticket trace pending timers ⊢
    refine ⟨?_, ?_, ?_, ?_, ?_, ?_⟩
    all_goals simp only [Session.slots, Session.sealedCalls, Session.sealedFrames, Session.hasSettled, journal, ticket,
      trace, pending, timers]
    · exact held.tickets
    · exact held.below
    · exact held.slotted
    · exact held.known
    · exact held.resent
    · exact held.timed
  have plain : ∀ phase, (Kind.phase phase).apart := fun _ => by refine ⟨?_, ?_, ?_⟩ <;> rintro ⟨⟩
  cases label with
  | request method params =>
    exact (request_accounted C start within method params).final rfl
  | message msg => exact handleMessage_accounted C msg _ start
  | fire name => exact fire_accounted name _ start
  | settle ticket resolves => exact settleCall_accounted C within h
  | crash => exact within.elim
  | flush ticket => exact start.flush ticket
  | createPairing privateKey channelId deferTransport =>
    have announce : Kind.announce.apart := by refine ⟨?_, ?_, ?_⟩ <;> rintro ⟨⟩
    have waits : (Kind.phase .waiting).apart := plain _
    have created : Keeps (Preserve (Accounted [])) (createPairing C privateKey channelId deferTransport) :=
      .bind (field fun _ => ⟨rfl, rfl, rfl, rfl, rfl⟩) fun _ =>
        accounted_kept (announcePairing_moves waits announce C _ _ _)
    exact created _ start
  | restore d =>
    have remote : Keeps (Preserve (Accounted [])) (restoreRemote d.remotePubKeyB64) := by
      unfold restoreRemote
      split
      · exact field fun _ => ⟨rfl, rfl, rfl, rfl, rfl⟩
      · split
        · exact .throw _
        · exact field fun _ => ⟨rfl, rfl, rfl, rfl, rfl⟩
    have restored : Keeps (Preserve (Accounted [])) (restoreSafely d) :=
      .tryCatch (.ite (.pure _) (.bind (field fun _ => ⟨rfl, rfl, rfl, rfl, rfl⟩) fun _ => .bind remote fun _ =>
        .bind (field fun _ => ⟨rfl, rfl, rfl, rfl, rfl⟩) fun _ => .ite (.pure _)
        (.bind (field fun _ => ⟨rfl, rfl, rfl, rfl, rfl⟩) fun _ =>
        .bind (accounted_kept (setPhase_moves _ (Or.inr (plain _)))) fun _ => .pure _))) fun _ => .pure _
    exact Keeps.bind restored (fun _ => .pure _) _ start
  | destroy =>
    have destroyed : Keeps (Preserve (Accounted [])) destroy :=
      .bind (accounted_kept (close_moves _)) fun _ => field fun _ => ⟨rfl, rfl, rfl, rfl, rfl⟩
    exact destroyed _ start
  | _ => exact accounted_kept (fun s => moves_mono (by simp [Label.kinds, Kind.apart]) (act_moves C _ rfl s)) _ start

/-- In every run within the limit at most 32 requests are sent or reserved and not settled. -/
theorem open_requests_capped (options : Options) (labels : List (Inputs × Label))
    (within : Run.Along (step C) WithinLimit (Session.new options) labels) :
    (Run.run (step C) (Session.new options) labels).openRequests.length ≤ 32 := by
  have new : Accounted [] (Session.new options) := by
    have unsealed : (Session.new options).sealedCalls = [] := rfl
    have slotted : Slotted maxPendingRequests
        (fun p => p ∈ (Session.new options).sealedCalls ∧ (Session.new options).hasSettled p = false) [] := by
      refine Slotted.empty fun p held => ?_
      rw [unsealed] at held
      cases held.1
    exact ⟨List.Pairwise.nil, by simp [Session.new, Journal.fresh], slotted,
      by simp [Session.new, OrderedMap.values, OrderedMap.empty], by simp [Session.new, Journal.fresh, Journal.held],
      by simp [Session.new]⟩
  exact (Run.invariant (fun _ _ ok h => step_accounted C ok h) within new).openRequests_le

end Methods

namespace Sample

/-- A paired dApp makes requests one after the other. -/
def manyRequests (count : Nat) : List (Inputs × Label) :=
  ({}, .createPairing Sdk.Sample.dappKey "ab" false) :: pairing ++
    (Sdk.Sample.calmly (List.replicate count (.request "m" none)) : List (Inputs × Label))

end Sample

theorem open_requests_capped_sample :
    Run.Along (step .transparent) WithinLimit (Session.new Sample.options)
      (Sample.manyRequests 2 ++ Sdk.Sample.calmly [.flush 4, .settle 4 true, .request "m" none]) ∧
    (Run.run (step .transparent) (Session.new Sample.options)
      (Sample.manyRequests 2 ++ Sdk.Sample.calmly [.flush 4, .settle 4 true, .request "m" none])).openRequests.length ≤ 32 := by
  have within : Run.Along (step .transparent) WithinLimit (Session.new Sample.options)
      (Sample.manyRequests 2 ++ Sdk.Sample.calmly [.flush 4, .settle 4 true, .request "m" none]) := by decide +kernel
  exact ⟨within, open_requests_capped .transparent Sample.options _ within⟩

/-- Requests that wait for their saves are not counted, so the limit never stops them. -/
theorem waiting_requests_exceed_limit :
    (Run.run (step .transparent) (Session.new Sample.options) (Sample.manyRequests 33)).openRequests.length = 33 := by
  decide +kernel

end WalletPair.Sdk.DApp
