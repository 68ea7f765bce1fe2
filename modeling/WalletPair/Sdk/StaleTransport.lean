import Mathlib.Data.List.Forall2
import WalletPair.Sdk.Transport

/-! Sockets that the transport has given up. Frames are written in the order they were
given and never later than their window; but a handshake that `disconnect()` does not
reach, and the close or the messages of an earlier socket, still act on the transport. -/

namespace WalletPair.Sdk.Transport
open WalletPair.Lib

variable {Frame : Type}

/-! ### The order of frames -/

/-- The frames given to `send()`, with their windows. -/
def givenFrames (trace : List (Obs Frame)) : List (Nat × Frame) :=
  trace.filterMap fun o => match o with
    | .given window frame => some (window, frame)
    | _ => none

/-- The frames written, with their sockets. -/
def writtenFrames (trace : List (Obs Frame)) : List (Nat × Frame) :=
  trace.filterMap fun o => match o with
    | .written socket frame => some (socket, frame)
    | _ => none

/-- A frame goes to a socket of its window or of an earlier one. -/
def Carries (written given : Nat × Frame) : Prop := written.2 = given.2 ∧ written.1 < given.1

/-- Each frame is written at most once, in the order it was given in, and to no socket
opened after its window. -/
def InOrder (s : State Frame) : Prop :=
  List.SublistForall₂ Carries (writtenFrames s.trace) (givenFrames s.trace)

theorem carried_append {written given more last : List (Nat × Frame)} (first : List.SublistForall₂ Carries written given)
    (rest : List.Forall₂ Carries more last) : List.SublistForall₂ Carries (written ++ more) (given ++ last) := by
  obtain ⟨kept, pairs, within⟩ := List.sublistForall₂_iff.mp first
  exact List.sublistForall₂_iff.mpr ⟨kept ++ last, List.rel_append pairs rest, within.append (List.Sublist.refl last)⟩

theorem carried_more {written given more : List (Nat × Frame)} (first : List.SublistForall₂ Carries written given) :
    List.SublistForall₂ Carries written (given ++ more) := by
  obtain ⟨kept, pairs, within⟩ := List.sublistForall₂_iff.mp first
  exact List.sublistForall₂_iff.mpr ⟨kept, pairs, within.trans (List.sublist_append_left _ _)⟩

/-- The frames of the queue were given in this window, after all that were written. -/
structure Queued (s : State Frame) : Prop where
  split : ∃ done rest, givenFrames s.trace = done ++ rest ∧ List.SublistForall₂ Carries (writtenFrames s.trace) done ∧
    (s.outbound.map fun frame => (s.sockets.length, frame)).Sublist rest
  idle : s.state = .connected → s.outbound = []
  live : s.state = .connected → s.ws ≠ none
  known : ∀ k, s.ws = some k → k < s.sockets.length

theorem givenFrames_append (trace more : List (Obs Frame)) :
    givenFrames (trace ++ more) = givenFrames trace ++ givenFrames more := List.filterMap_append

theorem writtenFrames_append (trace more : List (Obs Frame)) :
    writtenFrames (trace ++ more) = writtenFrames trace ++ writtenFrames more := List.filterMap_append

@[simp] theorem length_adjust (s : State Frame) (k : Nat) (f : Socket → Socket) :
    (s.adjust k f).sockets.length = s.sockets.length := List.length_modify ..

/-- A socket with a handler was made by a `connect()`. -/
theorem known_of_handler {s : State Frame} {k : Nat} (alive : (s.socket k).onopen = true) : k < s.sockets.length := by
  by_contra unknown
  have absent : s.sockets[k]? = none := List.getElem?_eq_none (Nat.le_of_not_lt unknown)
  rw [State.socket, absent] at alive
  cases alive

namespace Queued
variable {s t : State Frame}

theorem start : Queued (State.new : State Frame) where
  split := ⟨[], [], rfl, .nil, List.nil_sublist _⟩
  idle := fun _ => rfl
  live := nofun
  known := nofun

/-- A step that gives and writes nothing, and only empties the queue. -/
theorem quiet (h : Queued s) (given : givenFrames t.trace = givenFrames s.trace)
    (written : writtenFrames t.trace = writtenFrames s.trace) (queue : t.outbound = [] ∨ t.outbound = s.outbound)
    (sockets : t.sockets.length = s.sockets.length) (state : t.state = .connected → t.outbound = [] ∧ t.ws ≠ none)
    (ws : t.ws = none ∨ t.ws = s.ws) : Queued t where
  split := by
    obtain ⟨done, rest, split, carried, within⟩ := h.split
    rw [given, written, sockets]
    refine ⟨done, rest, split, carried, ?_⟩
    rcases queue with empty | same
    · rw [empty]
      exact List.nil_sublist _
    · rw [same]
      exact within
  idle := fun connected => (state connected).1
  live := fun connected => (state connected).2
  known := by
    intro k current
    rw [sockets]
    rcases ws with none | same
    · rw [none] at current
      cases current
    · exact h.known k (same ▸ current)

theorem connect (h : Queued s) (throws : Bool) : Queued (connect throws s) := by
  obtain ⟨done, rest, split, carried, -⟩ := h.split
  cases throws with
  | true =>
    refine ⟨⟨done, rest, ?_, ?_, List.nil_sublist _⟩, nofun, nofun, ?_⟩
    · change givenFrames (s.trace ++ _) = _
      rw [givenFrames_append, split]
      exact List.append_nil _
    · change List.SublistForall₂ Carries (writtenFrames (s.trace ++ _)) _
      rw [writtenFrames_append]
      exact (List.append_nil (writtenFrames s.trace)).symm ▸ carried
    · intro k current
      change k < (s.sockets ++ _).length
      rw [List.length_append]
      exact Nat.lt_add_right _ (h.known k current)
  | false =>
    refine ⟨⟨done, rest, split, carried, List.nil_sublist _⟩, nofun, nofun, ?_⟩
    intro k current
    change k < (s.sockets ++ _).length
    rw [List.length_append]
    exact Nat.lt_add_right _ (h.known k current)

/-- A frame that waits for the handshake. -/
theorem hold (h : Queued s) (frame : Frame) (waits : s.state ≠ .connected) :
    Queued (buffer frame (s.record [.given s.sockets.length frame])) := by
  obtain ⟨done, rest, split, carried, within⟩ := h.split
  refine ⟨⟨done, rest ++ [(s.sockets.length, frame)], ?_, ?_, ?_⟩, fun connected => absurd connected waits,
    fun connected => absurd connected waits, h.known⟩
  · change givenFrames (s.trace ++ _) = _
    rw [givenFrames_append, split, List.append_assoc]
    rfl
  · change List.SublistForall₂ Carries (writtenFrames (s.trace ++ _)) _
    rw [writtenFrames_append]
    exact (List.append_nil (writtenFrames s.trace)).symm ▸ carried
  · change (List.map _ (_ ++ [frame])).Sublist _
    rw [List.map_append]
    apply List.Sublist.append
    · apply List.Sublist.trans _ within
      split
      · exact (List.drop_sublist 1 s.outbound).map _
      · exact List.Sublist.refl _
    · exact List.Sublist.refl _

/-- A frame that is written at once. -/
theorem write (h : Queued s) (frame : Frame) {k : Nat} (current : s.ws = some k) (connected : s.state = .connected) :
    Queued ((s.record [.given s.sockets.length frame]).record [.written k frame]) := by
  obtain ⟨done, rest, split, carried, -⟩ := h.split
  have empty : s.outbound = [] := h.idle connected
  refine ⟨⟨(done ++ rest) ++ [(s.sockets.length, frame)], [], ?_, ?_, ?_⟩, h.idle, h.live, h.known⟩
  · change givenFrames (s.trace ++ _ ++ _) = _
    rw [givenFrames_append, givenFrames_append, split]
    rfl
  · change List.SublistForall₂ Carries (writtenFrames (s.trace ++ _ ++ _)) _
    rw [writtenFrames_append, writtenFrames_append]
    have older : writtenFrames s.trace ++ writtenFrames [.given s.sockets.length frame] = writtenFrames s.trace :=
      List.append_nil _
    rw [older]
    exact carried_append (carried_more carried) (.cons ⟨rfl, h.known k current⟩ .nil)
  · change (List.map _ s.outbound).Sublist _
    rw [empty]
    exact List.nil_sublist _

theorem send (h : Queued s) (frame : Frame) : Queued (send frame s) := by
  unfold Transport.send
  dsimp only
  cases current : s.ws with
  | none => exact h.hold frame fun connected => h.live connected current
  | some k =>
    dsimp only
    split
    · rename_i connected
      exact h.write frame current connected
    · rename_i waits
      exact h.hold frame waits

/-- Opening writes the queue. -/
theorem onopen (h : Queued s) (k : Nat) : Queued (onopen k s) := by
  unfold Transport.onopen
  by_cases alive : (s.socket k).onopen = true
  swap
  · rw [if_pos (by simp [alive])]
    exact h
  by_cases settled : (s.socket k).settled = true
  · rw [if_pos (by simp [settled])]
    exact h
  rw [if_neg (by simp [alive, settled])]
  dsimp only [flushOutbound, State.record]
  obtain ⟨done, rest, split, carried, within⟩ := h.split
  have known := known_of_handler alive
  have size : (s.adjust k fun c => { c with settled := true, timer := false }).sockets.length = s.sockets.length :=
    length_adjust s k _
  have quietGiven (frames : List Frame) : givenFrames (frames.map fun frame => Obs.written k frame) = [] := by
    simp [givenFrames]
  have opens : ∀ opened : Bool, givenFrames ((if opened then [.openHandler] else []) ++ [.resolved k] : List (Obs Frame)) = []
      ∧ writtenFrames ((if opened then [.openHandler] else []) ++ [.resolved k] : List (Obs Frame)) = [] := by
    intro opened
    cases opened <;> exact ⟨rfl, rfl⟩
  have writes (frames : List Frame) :
      writtenFrames (frames.map fun frame => Obs.written k frame) = frames.map fun frame => (k, frame) := by
    simp [writtenFrames, List.filterMap_map]
  refine ⟨⟨done ++ rest, [], ?_, ?_, List.nil_sublist _⟩, fun _ => rfl, nofun, ?_⟩
  · change givenFrames (s.trace ++ _ ++ _) = _
    rw [givenFrames_append, givenFrames_append, quietGiven, (opens _).1, split]
    simp
  · change List.SublistForall₂ Carries (writtenFrames (s.trace ++ _ ++ _)) _
    rw [writtenFrames_append, writtenFrames_append, (opens _).2, writes, List.append_nil]
    change List.SublistForall₂ Carries (writtenFrames s.trace ++ s.outbound.map fun frame => (k, frame)) _
    have now : List.Forall₂ Carries (s.outbound.map fun frame => (k, frame))
        (s.outbound.map fun frame => (s.sockets.length, frame)) := by
      rw [List.forall₂_map_left_iff, List.forall₂_map_right_iff]
      exact List.forall₂_same.mpr fun _ _ => ⟨rfl, known⟩
    obtain ⟨kept, pairs, inside⟩ := List.sublistForall₂_iff.mp (carried_append carried now)
    exact List.sublistForall₂_iff.mpr ⟨kept, pairs, inside.trans ((List.Sublist.refl done).append within)⟩
  · intro j current
    change j < (s.adjust k _).sockets.length
    rw [size]
    cases current
    exact known

theorem onmessage (h : Queued s) (k : Nat) (data : Data) : Queued (onmessage k data s) := by
  unfold Transport.onmessage
  split
  · exact h
  · split
    · refine h.quiet ?_ ?_ (Or.inr rfl) rfl (fun connected => ⟨h.idle connected, h.live connected⟩) (Or.inr rfl)
      · exact (givenFrames_append _ _).trans (List.append_nil _)
      · exact (writtenFrames_append _ _).trans (List.append_nil _)
    · exact h

theorem onclose (h : Queued s) (k : Nat) : Queued (onclose k s) := by
  unfold Transport.onclose
  split
  · exact h
  · dsimp only
    split
    · refine h.quiet ?_ ?_ (Or.inr rfl) (length_adjust s k _) nofun (Or.inl rfl)
      · apply (givenFrames_append _ _).trans
        split <;> exact List.append_nil _
      · apply (writtenFrames_append _ _).trans
        split <;> exact List.append_nil _
    · refine h.quiet ?_ ?_ (Or.inr rfl) ?_ nofun (Or.inl rfl)
      · exact (givenFrames_append _ _).trans (List.append_nil _)
      · exact (writtenFrames_append _ _).trans (List.append_nil _)
      · exact (length_adjust _ k _).trans (length_adjust s k _)

theorem timedOut (h : Queued s) (k : Nat) : Queued (timedOut k s) := by
  unfold Transport.timedOut
  split
  · exact h
  · split
    · exact h.quiet rfl rfl (Or.inr rfl) (length_adjust s k _)
        (fun connected => ⟨h.idle connected, h.live connected⟩) (Or.inr rfl)
    · refine h.quiet ?_ ?_ (Or.inr rfl) (length_adjust s k _) nofun (Or.inr rfl)
      · exact (givenFrames_append _ _).trans (List.append_nil _)
      · exact (writtenFrames_append _ _).trans (List.append_nil _)

theorem disconnect (h : Queued s) : Queued (disconnect s) := by
  unfold Transport.disconnect
  cases s.ws with
  | none => exact h.quiet rfl rfl (Or.inl rfl) rfl nofun (Or.inr rfl)
  | some k =>
    refine h.quiet ?_ ?_ (Or.inl rfl) (length_adjust s k _) nofun (Or.inl rfl)
    · exact (givenFrames_append _ _).trans (List.append_nil _)
    · exact (writtenFrames_append _ _).trans (List.append_nil _)

theorem step (h : Queued s) (l : Label Frame) : Queued (step s l) := by
  cases l with
  | onMessage => exact h.quiet rfl rfl (Or.inr rfl) rfl (fun connected => ⟨h.idle connected, h.live connected⟩) (Or.inr rfl)
  | onClose => exact h.quiet rfl rfl (Or.inr rfl) rfl (fun connected => ⟨h.idle connected, h.live connected⟩) (Or.inr rfl)
  | onOpen => exact h.quiet rfl rfl (Or.inr rfl) rfl (fun connected => ⟨h.idle connected, h.live connected⟩) (Or.inr rfl)
  | connect throws => exact h.connect throws
  | send frame => exact h.send frame
  | disconnect => exact h.disconnect
  | opened k => exact h.onopen k
  | message k data => exact h.onmessage k data
  | closed k => exact h.onclose k
  | errored k =>
    change Queued (onerror k s)
    unfold onerror
    split
    · exact h.quiet rfl rfl (Or.inr rfl) rfl (fun connected => ⟨h.idle connected, h.live connected⟩) (Or.inr rfl)
    · exact h
  | timeout k => exact h.timedOut k

/-- Over whole runs frames are written in order. -/
theorem inOrder (h : Queued s) : InOrder s := by
  obtain ⟨done, rest, split, carried, -⟩ := h.split
  rw [InOrder, split]
  exact carried_more carried

end Queued

/-! ### Stale events -/

/-- A frame that leaves or reaches the application. -/
def Obs.isFrame : Obs Frame → Bool
  | .written _ _ => true
  | .delivered _ _ => true
  | _ => false

def Obs.isDelivery : Obs Frame → Bool
  | .delivered _ _ => true
  | _ => false

def Obs.isCloseCall : Obs Frame → Bool
  | .closeHandler _ => true
  | _ => false

/-- What a step has to leave alone: without a socket in use the transport is disconnected
and carries nothing; another socket's close changes nothing, and its messages go nowhere. -/
structure Ignores (s : State Frame) (l : Label Frame) : Prop where
  idle : s.latest = none → (∀ throws, l ≠ .connect throws) →
    (step s l).state = .disconnected ∧ (step s l).trace.filter Obs.isFrame = s.trace.filter Obs.isFrame
  closes : ∀ k, l = .closed k → s.latest ≠ some k →
    (step s l).state = s.state ∧ (step s l).ws = s.ws ∧
      (step s l).trace.filter Obs.isCloseCall = s.trace.filter Obs.isCloseCall
  frames : ∀ k data, l = .message k data → s.latest ≠ some k →
    (step s l).trace.filter Obs.isDelivery = s.trace.filter Obs.isDelivery

/-- Events that do not reach the handlers of a stale socket. -/
def Harmless (s : State Frame) : Label Frame → Prop
  | .opened k => s.latest ≠ none ∨ (s.socket k).onopen = false ∨ (s.socket k).settled = true
  | .message k data => s.latest = some k ∨ (s.socket k).onmessage = false ∨ s.hasMessageHandler = false ∨
      wireMessage data = none
  | .closed k => s.latest = some k ∨ (s.socket k).onclose = false ∨
      ((s.socket k).settled = true ∧ s.state ≠ .connected) ∨ (s.state = .disconnected ∧ s.ws = none)
  | _ => True

/-- Without a socket in use the transport is disconnected. -/
def Idle (s : State Frame) : Prop := s.latest = none → s.state = .disconnected

section Step
variable {s : State Frame} {l : Label Frame}

/-- A step that changes nothing. -/
theorem ignores_of_same (idle : Idle s) (same : step s l = s) : Ignores s l where
  idle := fun unused _ => by
    rw [same]
    exact ⟨idle unused, rfl⟩
  closes := fun _ _ _ => by
    rw [same]
    exact ⟨rfl, rfl, rfl⟩
  frames := fun _ _ _ _ => by rw [same]

theorem ignores_opened (idle : Idle s) (k : Nat) : Ignores s (.opened k) ↔ Harmless s (.opened k) := by
  cases alive : (s.socket k).onopen with
  | false => exact iff_of_true (ignores_of_same idle (if_pos (by simp [alive]))) (Or.inr (Or.inl alive))
  | true =>
    cases settled : (s.socket k).settled with
    | true => exact iff_of_true (ignores_of_same idle (if_pos (by simp [settled]))) (Or.inr (Or.inr settled))
    | false =>
      have opened : (step s (.opened k)).state = .connected := by
        change (onopen k s).state = .connected
        unfold onopen
        rw [if_neg (by simp [alive, settled])]
        rfl
      constructor
      · intro ignores
        left
        intro unused
        exact absurd (opened.symm.trans (ignores.idle unused nofun).1) (by decide)
      · rintro (used | none | done)
        · exact ⟨fun unused => absurd unused used, nofun, nofun⟩
        · exact absurd (none.symm.trans alive) (by decide)
        · exact absurd (done.symm.trans settled) (by decide)

theorem ignores_message (idle : Idle s) (k : Nat) (data : Data) :
    Ignores s (.message k data) ↔ Harmless s (.message k data) := by
  cases attached : (s.socket k).onmessage with
  | false => exact iff_of_true (ignores_of_same idle (if_pos (by simp [attached]))) (Or.inr (Or.inl attached))
  | true =>
    cases handled : s.hasMessageHandler with
    | false => exact iff_of_true (ignores_of_same idle (if_pos (by simp [handled]))) (Or.inr (Or.inr (Or.inl handled)))
    | true =>
      cases wire : wireMessage data with
      | none =>
        have run : step s (.message k data) = s := (if_neg (by simp [attached, handled])).trans (by rw [wire])
        exact iff_of_true (ignores_of_same idle run) (Or.inr (Or.inr (Or.inr wire)))
      | some message =>
        have run : step s (.message k data) = s.record [.delivered k message] :=
          (if_neg (by simp [attached, handled])).trans (by rw [wire])
        constructor
        · intro ignores
          left
          by_contra stale
          have quiet := ignores.frames k data rfl stale
          rw [run] at quiet
          change (s.trace ++ [Obs.delivered k message]).filter Obs.isDelivery = _ at quiet
          rw [List.filter_append] at quiet
          simp [Obs.isDelivery] at quiet
        · rintro (used | none | unset | dropped)
          · refine ⟨fun unused => ?_, by rintro j ⟨⟩, fun j other same stale => ?_⟩
            · cases unused.symm.trans used
            · cases same
              exact absurd used stale
          · exact absurd (none.symm.trans attached) (by decide)
          · exact absurd (unset.symm.trans handled) (by decide)
          · cases dropped.symm.trans wire

/-- What the close of a socket does when it reaches its handler. -/
theorem onclose_run {k : Nat} (attached : (s.socket k).onclose = true)
    (reaches : ¬ ((s.socket k).settled = true ∧ s.state ≠ .connected)) :
    (onclose k s).state = .disconnected ∧ (onclose k s).ws = none ∧ (onclose k s).latest = s.latest ∧
      (s.state ≠ .connected → (onclose k s).trace = s.trace ++ [.rejected k]) := by
  unfold onclose
  rw [if_neg (by simpa [attached] using fun settled => by simpa [settled] using reaches)]
  dsimp only
  split
  · rename_i connected
    exact ⟨rfl, rfl, rfl, fun other => absurd connected other⟩
  · exact ⟨rfl, rfl, rfl, fun _ => rfl⟩

theorem ignores_closed (idle : Idle s) (k : Nat) : Ignores s (.closed k) ↔ Harmless s (.closed k) := by
  cases attached : (s.socket k).onclose with
  | false => exact iff_of_true (ignores_of_same idle (if_pos (by simp [attached]))) (Or.inr (Or.inl attached))
  | true =>
    by_cases ended : (s.socket k).settled = true ∧ s.state ≠ .connected
    · have same : step s (.closed k) = s := if_pos (by simp [ended.1, ended.2])
      exact iff_of_true (ignores_of_same idle same) (Or.inr (Or.inr (Or.inl ended)))
    · obtain ⟨state, ws, -, rejected⟩ := onclose_run attached ended
      constructor
      · intro ignores
        by_cases used : s.latest = some k
        · exact Or.inl used
        · have kept := ignores.closes k rfl used
          exact Or.inr (Or.inr (Or.inr ⟨kept.1.symm.trans state, kept.2.1.symm.trans ws⟩))
      · rintro (used | none | done | ⟨gone, empty⟩)
        · refine ⟨fun unused => absurd (unused.symm.trans used) nofun, fun j same stale => ?_, nofun⟩
          cases same
          exact absurd used stale
        · exact absurd (none.symm.trans attached) (by decide)
        · exact absurd done ended
        · have grown := rejected (by rw [gone]; decide)
          constructor
          · intro _ _
            refine ⟨state, ?_⟩
            change (onclose k s).trace.filter _ = _
            rw [grown, List.filter_append]
            exact List.append_nil _
          · intro j _ _
            refine ⟨state.trans gone.symm, ws.trans empty.symm, ?_⟩
            change (onclose k s).trace.filter _ = _
            rw [grown, List.filter_append]
            exact List.append_nil _
          · nofun

/-- The other labels are harmless, whoever they come from. -/
theorem ignores_idle (silent : s.latest = none → (step s l).state = .disconnected ∧
      ∃ more, (step s l).trace = s.trace ++ more ∧ ∀ o ∈ more, o.isFrame = false)
    (closed : ∀ k, l ≠ .closed k) (message : ∀ k data, l ≠ .message k data) : Ignores s l where
  idle := by
    intro unused _
    obtain ⟨state, more, grown, quiet⟩ := silent unused
    refine ⟨state, ?_⟩
    have none : more.filter Obs.isFrame = [] := List.filter_eq_nil_iff.mpr fun o mem => by simp [quiet o mem]
    rw [grown, List.filter_append, none, List.append_nil]
  closes := fun k same => absurd same (closed k)
  frames := fun k data same => absurd same (message k data)

/-- A step leaves alone what it has to exactly when its event is harmless. -/
theorem ignores_iff (idle : Idle s) (l : Label Frame) : Ignores s l ↔ Harmless s l := by
  cases l with
  | opened k => exact ignores_opened idle k
  | message k data => exact ignores_message idle k data
  | closed k => exact ignores_closed idle k
  | onMessage => exact iff_of_true (ignores_idle (fun unused => ⟨idle unused, [], (List.append_nil _).symm, nofun⟩) nofun nofun) trivial
  | onClose => exact iff_of_true (ignores_idle (fun unused => ⟨idle unused, [], (List.append_nil _).symm, nofun⟩) nofun nofun) trivial
  | onOpen => exact iff_of_true (ignores_idle (fun unused => ⟨idle unused, [], (List.append_nil _).symm, nofun⟩) nofun nofun) trivial
  | connect throws => exact iff_of_true ⟨fun _ other => absurd rfl (other throws), nofun, nofun⟩ trivial
  | send frame =>
    refine iff_of_true (ignores_idle (fun unused => ?_) nofun nofun) trivial
    have waits : s.state ≠ .connected := by
      rw [idle unused]
      decide
    have buffered : step s (.send frame) = buffer frame (s.record [.given s.sockets.length frame]) := by
      change Transport.send frame s = _
      unfold Transport.send
      cases s.ws with
      | none => rfl
      | some k => exact if_neg waits
    rw [buffered]
    exact ⟨idle unused, [.given s.sockets.length frame], rfl, by simp [Obs.isFrame]⟩
  | disconnect =>
    refine iff_of_true (ignores_idle (fun _ => ⟨rfl, ?_⟩) nofun nofun) trivial
    change ∃ more, (Transport.disconnect s).trace = _ ∧ _
    unfold Transport.disconnect
    cases s.ws with
    | none => exact ⟨[], (List.append_nil _).symm, nofun⟩
    | some k => exact ⟨[.closing k], rfl, by simp [Obs.isFrame]⟩
  | errored k =>
    refine iff_of_true (ignores_idle (fun unused => ?_) nofun nofun) trivial
    change (onerror k s).state = _ ∧ ∃ more, (onerror k s).trace = _ ∧ _
    unfold onerror
    split
    · exact ⟨idle unused, [], (List.append_nil _).symm, nofun⟩
    · exact ⟨idle unused, [], (List.append_nil _).symm, nofun⟩
  | timeout k =>
    refine iff_of_true (ignores_idle (fun unused => ?_) nofun nofun) trivial
    change (timedOut k s).state = _ ∧ ∃ more, (timedOut k s).trace = _ ∧ _
    unfold timedOut
    split
    · exact ⟨idle unused, [], (List.append_nil _).symm, nofun⟩
    · split
      · exact ⟨idle unused, [], (List.append_nil _).symm, nofun⟩
      · exact ⟨rfl, [.closing k, .rejected k], rfl, by simp [Obs.isFrame]⟩

/-- Only `connect()` and `disconnect()` change which socket is in use. -/
theorem latest_step (l : Label Frame) (connect : ∀ throws, l ≠ .connect throws) (disconnect : l ≠ .disconnect) :
    (step s l).latest = s.latest := by
  cases l with
  | connect throws => exact absurd rfl (connect throws)
  | disconnect => exact absurd rfl disconnect
  | send frame =>
    change (Transport.send frame s).latest = _
    unfold Transport.send
    cases s.ws with
    | none => rfl
    | some k => dsimp only; split <;> rfl
  | opened k =>
    change (onopen k s).latest = _
    unfold onopen
    split <;> rfl
  | message k data =>
    change (onmessage k data s).latest = _
    unfold onmessage
    split
    · rfl
    · split <;> rfl
  | closed k =>
    change (onclose k s).latest = _
    unfold onclose
    split
    · rfl
    · dsimp only
      split <;> rfl
  | errored k =>
    change (onerror k s).latest = _
    unfold onerror
    split <;> rfl
  | timeout k =>
    change (timedOut k s).latest = _
    unfold timedOut
    split
    · rfl
    · split <;> rfl
  | _ => rfl

theorem idle_step (ignores : Ignores s l) : Idle (step s l) := by
  intro unused
  by_cases connects : ∃ throws, l = .connect throws
  · obtain ⟨throws, rfl⟩ := connects
    cases throws <;> cases unused
  · have connect : ∀ throws, l ≠ .connect throws := fun throws same => connects ⟨throws, same⟩
    by_cases drops : l = .disconnect
    · subst drops
      rfl
    · exact (ignores.idle ((latest_step l connect drops).symm.trans unused) connect).1

end Step

theorem along_ignores (s : State Frame) (labels : List (Label Frame)) (idle : Idle s) :
    Run.Along step Ignores s labels ↔ Run.Along step Harmless s labels := by
  induction labels generalizing s with
  | nil => exact Iff.rfl
  | cons l rest ih =>
    have head := ignores_iff idle l
    constructor
    · intro all
      exact ⟨head.mp all.1, (ih _ (idle_step all.1)).mp all.2⟩
    · intro all
      have first := head.mpr all.1
      exact ⟨first, (ih _ (idle_step first)).mpr all.2⟩

theorem queued_run (labels : List (Label Frame)) : Queued (Run.run step (State.new : State Frame) labels) := by
  have keep : ∀ s label, True → Queued s → Queued (step s label : State Frame) := fun _ l _ h => h.step l
  exact Run.invariant keep (Run.along_of_forall fun _ _ _ => trivial) Queued.start

/-- Stale sockets are ignored throughout a run exactly when none of its events reaches a
handler of theirs; frames are written in order in every run. -/
theorem stale_sockets_ignored (labels : List (Label Frame)) :
    (Run.Along step Ignores (State.new : State Frame) labels ↔ Run.Along step Harmless (State.new : State Frame) labels) ∧
      InOrder (Run.run step (State.new : State Frame) labels) :=
  ⟨along_ignores _ labels fun _ => rfl, (queued_run labels).inOrder⟩

/-- A socket that opens after `disconnect()` connects the transport again. -/
theorem late_open_reconnects :
    (Run.run step (State.new : State Nat) [.connect false, .disconnect]).latest = none ∧
      ¬ Run.Along step Ignores (State.new : State Nat) [.connect false, .disconnect, .opened 0] := by
  refine ⟨rfl, fun ignored => ?_⟩
  have last : Ignores (Run.run step (State.new : State Nat) [.connect false, .disconnect]) (.opened 0) := ignored.2.2.1
  exact absurd (last.idle rfl nofun).1 (by decide)

end WalletPair.Sdk.Transport
