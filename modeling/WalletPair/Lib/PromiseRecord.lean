import WalletPair.Lib.PromiseLock
import Mathlib.Data.List.Induction
import Mathlib.Data.List.Perm.Subperm
import Mathlib.Data.List.Sort

/-! The record of the calls that took effect, in the system of `PromiseLock`: the stored
value is what the recorded operations make of the first one, as long as every write comes
from a look at the value it replaces, and the record keeps to real time. -/

namespace WalletPair.Lib.PromiseLock

variable {Op σ : Type} {ops : Operations Op σ}

/-! ### The record of effects -/

/-- What a call holds fits its operation. -/
def Call.Holds (ops : Operations Op σ) (call : Call Op σ) : Prop :=
  match call.stage with
  | .queued | .fetching | .fetched _ => ops.blind call.op = none
  | .storing none value => ops.blind call.op = some value
  | .storing (some seen) value => ops.blind call.op = none ∧ ops.update call.op seen = some value
  | _ => True

/-- The record names every call that took effect, once, and no call before one that had
returned when it was made. -/
structure Recorded (ops : Operations Op σ) (s : State Op σ) : Prop where
  holds : ∀ (i : Nat) (call : Call Op σ), s.calls[i]? = some call → call.Holds ops
  nodup : s.order.Nodup
  mem : ∀ i, i ∈ s.order ↔ ∃ call, s.calls[i]? = some call ∧ effective ops call = true
  returned : ∀ (i : Nat) (call : Call Op σ), s.calls[i]? = some call → ∀ j ∈ call.after, s.released j = true
  realTime : s.order.Pairwise fun i j => ∀ call : Call Op σ, s.calls[i]? = some call → j ∉ call.after

section Record
variable {s : State Op σ} {i j : Nat} {ok : Bool} {call : Call Op σ}

theorem holds_issued (op : Op) : (issued ops s op).Holds ops := by
  unfold Call.Holds issued
  cases guarded : ops.blind op <;> simp

theorem holds_next (holds : call.Holds ops) : Call.Holds ops { call with stage := next ops s call ok } := by
  unfold Call.Holds at holds ⊢
  unfold next
  cases stage : call.stage with
  | queued =>
    rw [stage] at holds
    by_cases turn : call.previous.all s.released = true <;> simpa [turn] using holds
  | fetching =>
    rw [stage] at holds
    exact holds
  | fetched answer =>
    rw [stage] at holds
    cases answer with
    | none => trivial
    | some seen =>
      cases made : ops.update call.op seen with
      | none => simp [made]
      | some value => simpa [made] using holds
  | storing seen value => trivial
  | stored done => trivial
  | settled done => trivial
  | released done => trivial

theorem not_effective_issued (op : Op) : effective ops (issued ops s op) = false := by
  unfold effective issued
  cases ops.blind op <;> rfl

/-- A call is effective after its step if it was, or if the step is its effect. -/
theorem effective_next :
    effective ops { call with stage := next ops s call ok } = (effective ops call || takesEffect ops s call ok) := by
  unfold effective next takesEffect
  cases stage : call.stage with
  | queued => by_cases turn : call.previous.all s.released = true <;> simp [turn]
  | fetching => cases ok <;> simp
  | fetched answer =>
    cases answer with
    | none => simp
    | some seen => cases made : ops.update call.op seen <;> simp [made]
  | storing seen value => simp
  | stored done => simp
  | settled done => simp
  | released done => simp

/-- A call takes effect once, before it is released. -/
theorem not_yet (effect : takesEffect ops s call ok = true) :
    effective ops call = false ∧ call.stage.isReleased = false := by
  unfold takesEffect at effect
  unfold effective
  cases stage : call.stage <;> simp_all [Stage.isReleased]

theorem recorded_initial (store : σ) : Recorded ops ({ store } : State Op σ) := by
  refine ⟨?_, ?_, ?_, ?_, ?_⟩ <;> simp

theorem Recorded.lt (h : Recorded ops s) (taken : i ∈ s.order) : i < s.calls.length := by
  obtain ⟨call, known, -⟩ := (h.mem i).mp taken
  exact (List.getElem?_eq_some_iff.mp known).1

theorem Recorded.issue (h : Recorded ops s) (op : Op) : Recorded ops (issue ops s op) := by
  refine ⟨?_, ?_, ?_, ?_, ?_⟩
  · intro i call known
    rcases get_issue known with old | ⟨-, rfl⟩
    · exact h.holds i call old
    · exact holds_issued op
  · rw [order_issue]
    exact h.nodup
  · intro i
    rw [order_issue, h.mem i]
    constructor
    · rintro ⟨call, known, taken⟩
      exact ⟨call, get_issue_old known, taken⟩
    · rintro ⟨call, known, taken⟩
      rcases get_issue known with old | ⟨-, rfl⟩
      · exact ⟨call, old, taken⟩
      · rw [not_effective_issued] at taken
        cases taken
  · intro i call known j mem
    apply released_step (.issue op)
    rcases get_issue known with old | ⟨-, rfl⟩
    · exact h.returned i call old j mem
    · exact (List.mem_filter.mp mem).2
  · rw [order_issue]
    apply h.realTime.imp_of_mem
    intro i j taken _ apart call known
    rcases get_issue known with old | ⟨rfl, -⟩
    · exact apart call old
    · exact absurd (h.lt taken) (Nat.lt_irrefl _)

theorem Recorded.advance (h : Recorded ops s) (i : Nat) (ok : Bool) : Recorded ops (advance ops s i ok) := by
  cases stepped : s.calls[i]? with
  | none => rwa [advance_missing stepped]
  | some moved =>
    have apart : (s.order).Pairwise fun a b =>
        ∀ call : Call Op σ, (PromiseLock.advance ops s i ok).calls[a]? = some call → b ∉ call.after := by
      apply h.realTime.imp
      intro a b before call known
      rcases get_advance stepped known with ⟨-, old⟩ | ⟨rfl, rfl⟩
      · exact before call old
      · exact before moved stepped
    have effects : ∀ a, (∃ call, (PromiseLock.advance ops s i ok).calls[a]? = some call ∧ effective ops call = true) ↔
        a ∈ s.order ∨ (a = i ∧ takesEffect ops s moved ok = true) := by
      intro a
      rw [h.mem a]
      by_cases same : a = i
      · subst same
        rw [get_advance_self stepped]
        simp [stepped, effective_next]
      · rw [get_advance_of_ne same]
        simp [same]
    refine ⟨?_, ?_, ?_, ?_, ?_⟩
    · intro j call known
      rcases get_advance stepped known with ⟨-, old⟩ | ⟨-, rfl⟩
      · exact h.holds j call old
      · exact holds_next (h.holds i moved stepped)
    · rw [order_advance stepped]
      by_cases effect : takesEffect ops s moved ok = true
      · rw [if_pos effect]
        refine h.nodup.append (List.nodup_singleton i) fun a taken new => ?_
        rw [List.mem_singleton.mp new, h.mem i] at taken
        obtain ⟨call, known, done⟩ := taken
        cases stepped.symm.trans known
        rw [(not_yet effect).1] at done
        cases done
      · rw [if_neg effect]
        exact h.nodup
    · intro a
      rw [effects a, order_advance stepped]
      by_cases effect : takesEffect ops s moved ok = true <;> simp [effect]
    · intro j call known k mem
      apply released_step (.advance i ok)
      rcases get_advance stepped known with ⟨-, old⟩ | ⟨-, rfl⟩
      · exact h.returned j call old k mem
      · exact h.returned i moved stepped k mem
    · rw [order_advance stepped]
      by_cases effect : takesEffect ops s moved ok = true
      · rw [if_pos effect, List.pairwise_append]
        refine ⟨apart, List.pairwise_singleton _ _, fun a taken b new call known mem => ?_⟩
        -- had the call that takes effect now returned before, it would be released
        rw [List.mem_singleton.mp new] at mem
        have ended : s.released i = true := by
          rcases get_advance stepped known with ⟨-, old⟩ | ⟨-, rfl⟩
          · exact h.returned a call old i mem
          · exact h.returned i moved stepped i mem
        simp [State.released, stepped, (not_yet effect).2] at ended
      · rw [if_neg effect]
        exact apart

theorem Recorded.step (h : Recorded ops s) (l : Label Op) : Recorded ops (step ops s l) := by
  cases l with
  | issue op => exact h.issue op
  | advance i ok => exact h.advance i ok

/-- The history grows by the operation of the call that takes effect. -/
theorem history_advance (known : s.calls[i]? = some call) (ok : Bool) :
    (advance ops s i ok).history = if takesEffect ops s call ok then s.history ++ [call.op] else s.history := by
  have same : ∀ a : Nat, ((advance ops s i ok).calls[a]?).map Call.op = (s.calls[a]?).map Call.op := by
    intro a
    by_cases here : a = i
    · subst here
      rw [get_advance_self known, known]
      rfl
    · rw [get_advance_of_ne here]
  unfold State.history
  simp only [same, order_advance known]
  by_cases effect : takesEffect ops s call ok = true
  · simp [effect, known]
  · simp [effect]

theorem history_issue (h : Recorded ops s) (op : Op) : (issue ops s op).history = s.history := by
  unfold State.history
  rw [order_issue]
  apply List.filterMap_congr
  intro i taken
  rw [calls_issue, List.getElem?_append_left (h.lt taken)]

end Record

/-! ### One after the other -/

/-- A call that writes now writes what its operation makes of the value stored. -/
def Fresh (s : State Op σ) : Label Op → Prop
  | .issue _ => True
  | .advance i ok =>
    match (s.calls[i]?).map Call.stage with
    | some (.storing (some seen) _) => ok = true → seen = s.store
    | _ => True

instance [DecidableEq σ] (s : State Op σ) (l : Label Op) : Decidable (Fresh s l) := by
  unfold Fresh
  split
  · infer_instance
  · split <;> infer_instance

section Effects
variable {s : State Op σ} {i j : Nat} {ok : Bool} {call : Call Op σ}

/-- The stored value changes by a write that is carried out. -/
theorem store_changes {l : Label Op} (changed : (step ops s l).store ≠ s.store) :
    ∃ i call seen value, l = .advance i true ∧ s.calls[i]? = some call ∧ call.stage = .storing seen value := by
  cases l with
  | issue op => exact absurd (store_issue op) changed
  | advance i ok =>
    cases known : s.calls[i]? with
    | none => exact absurd (congrArg State.store (advance_missing known)) changed
    | some call =>
      have becomes : (advance ops s i ok).store ≠ s.store := changed
      rw [store_advance known] at becomes
      unfold written at becomes
      cases stage : call.stage with
      | storing seen value =>
        cases ok with
        | false => simp [stage] at becomes
        | true => exact ⟨i, call, seen, value, rfl, known, stage⟩
      | _ => simp [stage] at becomes

/-- The effect of a fresh step is its operation, run alone. -/
theorem perform_effect (holds : call.Holds ops) (known : s.calls[i]? = some call) (fresh : Fresh s (.advance i ok))
    (effect : takesEffect ops s call ok = true) : written s call ok = ops.perform s.store call.op := by
  unfold takesEffect at effect
  unfold Call.Holds at holds
  unfold written Operations.perform
  simp only [Fresh, known, Option.map_some] at fresh
  cases stage : call.stage with
  | fetching =>
    simp only [stage, Bool.and_eq_true, Option.isNone_iff_eq_none] at effect holds
    simp [holds, effect.2]
  | storing seen value =>
    simp only [stage] at effect holds fresh
    cases seen with
    | none => simp [holds, effect]
    | some seen =>
      have same : seen = s.store := fresh effect
      rw [same] at holds
      simp [holds, effect]
  | _ => simp [stage] at effect

theorem written_of_no_effect (effect : takesEffect ops s call ok = false) : written s call ok = s.store := by
  unfold takesEffect at effect
  unfold written
  cases stage : call.stage <;> simp_all

/-- The stored value is what the operations of the record make of the first one, one at a time. -/
def Sequential (ops : Operations Op σ) (initial : σ) (s : State Op σ) : Prop :=
  s.store = s.history.foldl ops.perform initial

theorem Sequential.step {initial : σ} {l : Label Op} (recorded : Recorded ops s) (h : Sequential ops initial s)
    (fresh : Fresh s l) : Sequential ops initial (step ops s l) := by
  unfold Sequential at h ⊢
  cases l with
  | issue op => rw [show PromiseLock.step ops s (.issue op) = issue ops s op from rfl, store_issue, history_issue recorded, h]
  | advance i ok =>
    cases known : s.calls[i]? with
    | none => rwa [show PromiseLock.step ops s (.advance i ok) = s from advance_missing known]
    | some call =>
      have holds : call.Holds ops := recorded.holds i call known
      change (advance ops s i ok).store = (advance ops s i ok).history.foldl ops.perform initial
      rw [store_advance known, history_advance known]
      cases effect : takesEffect ops s call ok with
      | true => rw [if_pos rfl, List.foldl_append, ← h, perform_effect holds known fresh effect]; rfl
      | false => rw [if_neg Bool.false_ne_true, ← h, written_of_no_effect effect]

/-- The call is between its read and its write. -/
def Call.between (call : Call Op σ) : Option σ :=
  match call.stage with
  | .fetched (some seen) => some seen
  | .storing seen _ => seen
  | _ => none

theorem Call.Holds.locked (holds : call.Holds ops) {seen : σ} (inside : call.between = some seen) :
    ops.blind call.op = none ∧ call.stage ≠ .queued ∧ call.stage.isReleased = false := by
  unfold Call.Holds at holds
  unfold Call.between at inside
  cases stage : call.stage with
  | fetched answer =>
    rw [stage] at holds
    exact ⟨holds, nofun, rfl⟩
  | storing read value =>
    rw [stage] at holds inside
    cases inside
    exact ⟨holds.1, nofun, rfl⟩
  | _ =>
    rw [stage] at inside
    cases inside

/-- While a call is between its read and its write, the stored value changes by its own
write or by a blind operation only. -/
theorem disturbed {l : Label Op} {seen : σ} (chained : Chained ops s) (recorded : Recorded ops s)
    (known : s.calls[i]? = some call) (inside : call.between = some seen) (changed : (step ops s l).store ≠ s.store) :
    l = .advance i true ∨ ∃ j other, l = .advance j true ∧ s.calls[j]? = some other ∧ ops.blind other.op ≠ none := by
  obtain ⟨j, other, read, value, rfl, found, stage⟩ := store_changes changed
  by_cases same : j = i
  · exact Or.inl (by rw [same])
  refine Or.inr ⟨j, other, rfl, found, fun guarded => ?_⟩
  obtain ⟨open_, left, busy⟩ := (recorded.holds i call known).locked inside
  rcases Nat.lt_or_gt_of_ne same with before | after
  · have ended := chained.exclusive found known guarded open_ before left
    rw [stage] at ended
    cases ended
  · have ended := chained.exclusive known found open_ guarded after (by rw [stage]; nofun)
    rw [busy] at ended
    cases ended

/-- Every call between its read and its write has read what is stored. -/
def Undisturbed (s : State Op σ) : Prop :=
  ∀ (i : Nat) (call : Call Op σ) (seen : σ), s.calls[i]? = some call → call.between = some seen → seen = s.store

theorem Undisturbed.fresh (h : Undisturbed s) (l : Label Op) : Fresh s l := by
  unfold Fresh
  cases l with
  | issue op => trivial
  | advance i ok =>
    cases known : s.calls[i]? with
    | none => simp [known]
    | some call =>
      simp only [known, Option.map_some]
      cases stage : call.stage with
      | storing read value =>
        cases read with
        | none => trivial
        | some seen => exact fun _ => h i call seen known (by simp [Call.between, stage])
      | _ => trivial

theorem between_next {seen : σ} (inside : Call.between { call with stage := next ops s call ok } = some seen) :
    (call.stage = .fetching ∧ seen = s.store) ∨ (call.between = some seen ∧ written s call ok = s.store) := by
  unfold next at inside
  cases stage : call.stage with
  | queued => by_cases turn : call.previous.all s.released = true <;> simp [Call.between, stage, turn] at inside
  | fetching =>
    cases ok with
    | false => simp [Call.between, stage] at inside
    | true => exact Or.inl ⟨rfl, by simpa [Call.between, stage, eq_comm] using inside⟩
  | fetched answer =>
    cases answer with
    | none => simp [Call.between, stage] at inside
    | some read =>
      cases made : ops.update call.op read with
      | none => simp [Call.between, stage, made] at inside
      | some value => exact Or.inr ⟨by simpa [Call.between, stage, made] using inside, by simp [written, stage]⟩
  | _ => simp [Call.between, stage] at inside

/-- Where every operation takes the lock, nothing comes between a read and its write. -/
theorem Undisturbed.step (all : ∀ op, ops.blind op = none) (chained : Chained ops s) (recorded : Recorded ops s)
    (h : Undisturbed s) (l : Label Op) : Undisturbed (step ops s l) := by
  intro j found seen known inside
  cases l with
  | issue op =>
    rcases get_issue known with old | ⟨-, rfl⟩
    · exact (h j found seen old inside).trans (store_issue op).symm
    · simp [Call.between, issued, all op] at inside
  | advance i ok =>
    cases stepped : s.calls[i]? with
    | none =>
      rw [show PromiseLock.step ops s (.advance i ok) = s from advance_missing stepped] at known ⊢
      exact h j found seen known inside
    | some moved =>
      rcases get_advance stepped known with ⟨different, old⟩ | ⟨rfl, rfl⟩
      · by_contra changed
        have moves : (PromiseLock.step ops s (.advance i ok)).store ≠ s.store :=
          fun same => changed ((h j found seen old inside).trans same.symm)
        rcases disturbed chained recorded old inside moves with own | ⟨k, other, -, -, unguarded⟩
        · cases own
          exact different rfl
        · exact unguarded (all other.op)
      · change seen = (advance ops s j ok).store
        rw [store_advance stepped]
        rcases between_next inside with ⟨stage, rfl⟩ | ⟨before, same⟩
        · simp [written, stage]
        · rw [same]
          exact h j moved seen stepped before

/-- The locked calls of the record stand in the order in which they were made. -/
def Ascending (ops : Operations Op σ) (s : State Op σ) : Prop :=
  s.order.Pairwise fun i j => Locked ops s i → Locked ops s j → i < j

theorem Ascending.step (chained : Chained ops s) (recorded : Recorded ops s) (h : Ascending ops s) (l : Label Op) :
    Ascending ops (step ops s l) := by
  have was : ∀ {k}, k < s.calls.length → Locked ops (PromiseLock.step ops s l) k → Locked ops s k := by
    intro k within now
    rcases locked_of_step now with old | ⟨rfl, -⟩
    · exact old
    · exact absurd within (Nat.lt_irrefl _)
  have kept : s.order.Pairwise fun i j =>
      Locked ops (PromiseLock.step ops s l) i → Locked ops (PromiseLock.step ops s l) j → i < j :=
    h.imp_of_mem fun first second before locked other =>
      before (was (recorded.lt first) locked) (was (recorded.lt second) other)
  unfold Ascending
  cases l with
  | issue op =>
    have same : (PromiseLock.step ops s (.issue op)).order = s.order := order_issue op
    rw [same]
    exact kept
  | advance i ok =>
    cases stepped : s.calls[i]? with
    | none => rwa [show PromiseLock.step ops s (.advance i ok) = s from advance_missing stepped]
    | some moved =>
      have same : (PromiseLock.step ops s (.advance i ok)).order =
          if takesEffect ops s moved ok then s.order ++ [i] else s.order := order_advance stepped
      rw [same]
      cases effect : takesEffect ops s moved ok with
      | false => exact kept
      | true =>
        rw [if_pos rfl, List.pairwise_append]
        refine ⟨kept, List.pairwise_singleton _ _, fun a taken b new locked other => ?_⟩
        rw [List.mem_singleton.mp new] at other ⊢
        obtain ⟨call, known, done⟩ := (recorded.mem a).mp taken
        -- had the later call taken effect first, this one would be released already
        rcases Nat.lt_trichotomy a i with before | rfl | after
        · exact before
        · cases stepped.symm.trans known
          rw [(not_yet effect).1] at done
          cases done
        · have guarded : ops.blind call.op = none := (was (recorded.lt taken) locked).guarded known
          have mine : ops.blind moved.op = none := (was (List.getElem?_eq_some_iff.mp stepped).1 other).guarded stepped
          have left : call.stage ≠ .queued := by
            intro queued
            simp [effective, queued] at done
          have ended := chained.exclusive stepped known mine guarded after left
          rw [(not_yet effect).2] at ended
          cases ended

end Effects

/-! ### Every run -/

/-- What holds of every state a run leads to. -/
structure Sound (ops : Operations Op σ) (s : State Op σ) : Prop where
  chained : Chained ops s
  recorded : Recorded ops s
  ascending : Ascending ops s

theorem sound_initial (store : σ) : Sound ops ({ store } : State Op σ) :=
  ⟨chained_initial store, recorded_initial store, List.Pairwise.nil⟩

theorem Sound.step {s : State Op σ} (h : Sound ops s) (l : Label Op) : Sound ops (step ops s l) :=
  ⟨h.chained.step l, h.recorded.step l, h.ascending.step h.chained h.recorded l⟩

theorem along_true (s : State Op σ) (labels : List (Label Op)) : Run.Along (step ops) (fun _ _ => True) s labels :=
  Run.along_of_forall fun _ _ _ => trivial

theorem sound_run (store : σ) (labels : List (Label Op)) : Sound ops (Run.run (step ops) { store } labels) :=
  Run.invariant (fun _ l _ sound => sound.step l) (along_true _ labels) (sound_initial store)

/-- A run whose writes are all fresh has carried out the operations one at a time. -/
theorem sequential_run {store : σ} {labels : List (Label Op)} (fresh : Run.Along (step ops) Fresh { store } labels) :
    Sequential ops store (Run.run (step ops) { store } labels) := by
  have keep : ∀ (s : State Op σ) l, Fresh s l → Sound ops s ∧ Sequential ops store s →
      Sound ops (step ops s l) ∧ Sequential ops store (step ops s l) :=
    fun s l now before => ⟨before.1.step l, before.2.step before.1.recorded now⟩
  exact (Run.invariant keep fresh ⟨sound_initial store, rfl⟩).2

section Order
variable {s : State Op σ}

/-- Where every operation takes the lock, every run is fresh. -/
theorem fresh_run (all : ∀ op, ops.blind op = none) (store : σ) (labels : List (Label Op)) :
    Run.Along (step ops) Fresh { store } labels := by
  suffices every : ∀ s : State Op σ, Sound ops s → Undisturbed s → Run.Along (step ops) Fresh s labels from
    every _ (sound_initial store) fun i call seen known => by simp at known
  induction labels with
  | nil => exact fun _ _ _ => trivial
  | cons l rest ih =>
    intro s sound calm
    exact ⟨calm.fresh l, ih _ (sound.step l) (calm.step all sound.chained sound.recorded l)⟩

theorem filterMap_range {α β : Type} (items : List α) (f : α → Option β) :
    ((List.range items.length).filterMap fun i => (items[i]?).bind f) = items.filterMap f := by
  induction items using List.reverseRecOn with
  | nil => rfl
  | append_singleton first last ih =>
    have earlier : ((List.range first.length).filterMap fun i => ((first ++ [last])[i]?).bind f) = first.filterMap f := by
      rw [← ih]
      apply List.filterMap_congr
      intro i mem
      rw [List.getElem?_append_left (List.mem_range.mp mem)]
    rw [List.length_append, List.length_singleton, List.range_succ, List.filterMap_append, List.filterMap_append, earlier]
    simp [List.filterMap_cons]

/-- Places taken in ascending order give a part of the list. -/
theorem filterMap_ascending {α β : Type} (items : List α) (f : α → Option β) {places : List Nat}
    (ascending : places.Pairwise (· < ·)) (within : ∀ i ∈ places, i < items.length) :
    (places.filterMap fun i => (items[i]?).bind f).Sublist (items.filterMap f) := by
  have part : places.Sublist (List.range items.length) := by
    apply List.sublist_of_subperm_of_pairwise (r := (· < ·))
    · exact List.Nodup.subperm (ascending.imp Nat.ne_of_lt) fun i mem => List.mem_range.mpr (within i mem)
    · exact ascending
    · exact List.pairwise_lt_range
  rw [← filterMap_range items f]
  exact part.filterMap _

/-- The calls that took effect, in the order in which they were made. -/
def State.succeeded (ops : Operations Op σ) (s : State Op σ) : List Op :=
  (s.calls.filter (effective ops)).map Call.op

/-- Where every operation takes the lock, the calls take effect in the order they were made. -/
theorem history_eq_succeeded (all : ∀ op, ops.blind op = none) (sound : Sound ops s) :
    s.order.Pairwise (· < ·) ∧ s.history = s.succeeded ops := by
  have locked : ∀ i ∈ s.order, Locked ops s i := by
    intro i taken
    obtain ⟨call, known, -⟩ := (sound.recorded.mem i).mp taken
    exact ⟨call, known, all call.op⟩
  have ascending : s.order.Pairwise (· < ·) :=
    sound.ascending.imp_of_mem fun first second before => before (locked _ first) (locked _ second)
  refine ⟨ascending, ?_⟩
  let done := fun i : Nat => (s.calls[i]?).any (effective ops)
  have members : ∀ i, i ∈ s.order ↔ i ∈ (List.range s.calls.length).filter done := by
    intro i
    rw [sound.recorded.mem i, List.mem_filter, List.mem_range]
    constructor
    · rintro ⟨call, known, effect⟩
      exact ⟨(List.getElem?_eq_some_iff.mp known).1, by simp [done, known, effect]⟩
    · rintro ⟨within, effect⟩
      refine ⟨s.calls[i], List.getElem?_eq_getElem within, ?_⟩
      simpa [done, List.getElem?_eq_getElem within] using effect
  have same : s.order = (List.range s.calls.length).filter done := by
    have sorted : ((List.range s.calls.length).filter done).Pairwise (· < ·) := List.pairwise_lt_range.filter done
    have perm : s.order.Perm ((List.range s.calls.length).filter done) :=
      (List.perm_ext_iff_of_nodup sound.recorded.nodup (sorted.imp Nat.ne_of_lt)).mpr members
    exact perm.eq_of_pairwise (fun a b _ _ lt gt => absurd lt (Nat.lt_asymm gt)) ascending sorted
  calc s.history = (List.range s.calls.length).filterMap fun i =>
        (s.calls[i]?).bind fun call => if effective ops call then some call.op else none := by
        unfold State.history
        rw [same, List.filterMap_filter]
        apply List.filterMap_congr
        intro i mem
        rw [List.getElem?_eq_getElem (List.mem_range.mp mem)]
        simp [done, List.getElem?_eq_getElem (List.mem_range.mp mem)]
    _ = s.calls.filterMap fun call => if effective ops call then some call.op else none := filterMap_range _ _
    _ = s.succeeded ops := by
        unfold State.succeeded
        rw [← List.filterMap_eq_map, List.filterMap_filter]
        rfl

/-- The locked operations of the record are a part of those made, in the same order. -/
theorem history_sublist {β : Type} (f : Op → Option β) (named : ∀ op, (f op).isSome → ops.blind op = none) (sound : Sound ops s) :
    (s.history.filterMap f).Sublist ((s.calls.map Call.op).filterMap f) := by
  let counted := fun i : Nat => (s.calls[i]?).any fun call => (f call.op).isSome
  have locked : ∀ i ∈ s.order.filter counted, Locked ops s i := by
    intro i mem
    obtain ⟨taken, some⟩ := List.mem_filter.mp mem
    obtain ⟨call, known, -⟩ := (sound.recorded.mem i).mp taken
    exact ⟨call, known, named call.op (by simpa [counted, known] using some)⟩
  have ascending : (s.order.filter counted).Pairwise (· < ·) :=
    (sound.ascending.filter counted).imp_of_mem fun first second before => before (locked _ first) (locked _ second)
  have part := filterMap_ascending s.calls (fun call => f call.op) ascending fun i mem => (locked i mem).lt
  have left : s.history.filterMap f = (s.order.filter counted).filterMap fun i => (s.calls[i]?).bind fun call => f call.op := by
    unfold State.history
    rw [List.filterMap_filterMap, List.filterMap_filter]
    apply List.filterMap_congr
    intro i _
    cases known : s.calls[i]? with
    | none => simp [counted, known]
    | some call => cases value : f call.op <;> simp [counted, known, value]
  rw [left, List.filterMap_map]
  exact part

end Order

/-! ### What the stored value keeps of its history -/

/-- A relation between the operations so far and a value derived from them. -/
structure Traces (ops : Operations Op σ) (I : List Op → σ → Prop) : Prop where
  grow : ∀ done op value, I done value → I (done ++ [op]) value
  update : ∀ done op seen value, I done seen → ops.update op seen = some value → I (done ++ [op]) value
  blind : ∀ done op value, ops.blind op = some value → I (done ++ [op]) value

/-- The stored value and every value read and not yet replaced derive from the history. -/
structure Traced (I : List Op → σ → Prop) (s : State Op σ) : Prop where
  store : I s.history s.store
  seen : ∀ (i : Nat) (call : Call Op σ) (seen : σ), s.calls[i]? = some call → call.between = some seen → I s.history seen

theorem Traced.step {I : List Op → σ → Prop} (traces : Traces ops I) {s : State Op σ} (recorded : Recorded ops s)
    (h : Traced I s) (l : Label Op) : Traced I (step ops s l) := by
  cases l with
  | issue op =>
    change Traced I (issue ops s op)
    refine ⟨?_, fun j found seen known inside => ?_⟩
    · rw [history_issue recorded, store_issue]
      exact h.store
    · rw [history_issue recorded]
      rcases get_issue known with old | ⟨-, rfl⟩
      · exact h.seen j found seen old inside
      · unfold Call.between issued at inside
        cases guarded : ops.blind op <;> simp [guarded] at inside
  | advance i ok =>
    change Traced I (advance ops s i ok)
    cases stepped : s.calls[i]? with
    | none => rwa [advance_missing stepped]
    | some moved =>
      have older : ∀ value, I s.history value → I (advance ops s i ok).history value := by
        intro value held
        rw [history_advance stepped]
        cases takesEffect ops s moved ok with
        | true => exact traces.grow _ _ _ held
        | false => exact held
      have stored : I (advance ops s i ok).history (advance ops s i ok).store := by
        rw [store_advance stepped]
        cases stage : moved.stage with
        | storing read value =>
          cases ok with
          | false =>
            have same : written s moved false = s.store := by simp [written, stage]
            rw [same]
            exact older _ h.store
          | true =>
            have becomes : written s moved true = value := by simp [written, stage]
            have holds := recorded.holds i moved stepped
            rw [becomes, history_advance stepped, if_pos (by simp [takesEffect, stage])]
            unfold Call.Holds at holds
            rw [stage] at holds
            cases read with
            | none => exact traces.blind _ _ _ holds
            | some seen => exact traces.update _ _ seen _ (h.seen i moved seen stepped (by simp [Call.between, stage])) holds.2
        | _ =>
          have same : written s moved ok = s.store := by simp [written, stage]
          rw [same]
          exact older _ h.store
      refine ⟨stored, fun j found seen known inside => ?_⟩
      rcases get_advance stepped known with ⟨-, old⟩ | ⟨rfl, rfl⟩
      · exact older _ (h.seen j found seen old inside)
      · rcases between_next inside with ⟨-, rfl⟩ | ⟨before, -⟩
        · exact older _ h.store
        · exact older _ (h.seen j moved seen stepped before)

theorem traced_run {I : List Op → σ → Prop} (traces : Traces ops I) {store : σ} (start : I [] store)
    (labels : List (Label Op)) : I (Run.run (step ops) { store } labels).history (Run.run (step ops) { store } labels).store := by
  have keep : ∀ (s : State Op σ) l, True → Sound ops s ∧ Traced I s → Sound ops (step ops s l) ∧ Traced I (step ops s l) :=
    fun s l _ before => ⟨before.1.step l, before.2.step traces before.1.recorded l⟩
  have first : Traced I ({ store } : State Op σ) := ⟨start, fun i call seen known => by simp at known⟩
  exact (Run.invariant keep (along_true _ labels) ⟨sound_initial store, first⟩).2.store

/-! ### Linearisations -/

/-- The call took effect. -/
def State.tookEffect (ops : Operations Op σ) (s : State Op σ) (i : Nat) : Bool := (s.calls[i]?).any (effective ops)

/-- The first call had returned when the second was made. -/
def State.precedes (s : State Op σ) (first second : Nat) : Bool :=
  (s.calls[second]?).any fun call => call.after.contains first

/-- The stored value is what the calls that took effect make of the first one when they run
one at a time, in an order that no two of them contradict. -/
def Linearised (ops : Operations Op σ) (initial : σ) (s : State Op σ) : Prop :=
  ∃ order : List Nat, order.Nodup ∧ (∀ i, i ∈ order ↔ s.tookEffect ops i = true) ∧
    (order.Pairwise fun i j => s.precedes j i = false) ∧
    s.store = (order.filterMap fun i => (s.calls[i]?).map Call.op).foldl ops.perform initial

theorem linearised_run {store : σ} {labels : List (Label Op)} (fresh : Run.Along (step ops) Fresh { store } labels) :
    Linearised ops store (Run.run (step ops) { store } labels) := by
  have recorded : Recorded ops (Run.run (step ops) { store } labels) := (sound_run store labels).recorded
  refine ⟨_, recorded.nodup, fun i => ?_, ?_, sequential_run fresh⟩
  · rw [recorded.mem i, State.tookEffect]
    cases (Run.run (step ops) { store } labels).calls[i]? with
    | none => simp
    | some call => simp
  · apply recorded.realTime.imp
    intro i j before
    unfold State.precedes
    cases known : (Run.run (step ops) { store } labels).calls[i]? with
    | none => rfl
    | some call => simpa using before call known

end WalletPair.Lib.PromiseLock
