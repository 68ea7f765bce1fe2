import Mathlib.Data.List.Basic

/-! Finite runs of a deterministic transition function whose labels carry every
choice of the environment. `Along ok` restricts each step by the state it starts
from, so that one system serves claims with different assumptions. -/

namespace WalletPair.Lib.Run

variable {State Label : Type} {step : State → Label → State}

/-- The state reached from `s` by taking the labels in order. -/
def run (step : State → Label → State) (s : State) (labels : List Label) : State :=
  labels.foldl step s

/-- Every label of the run is admitted in the state it is taken from. -/
def Along (step : State → Label → State) (ok : State → Label → Prop) : State → List Label → Prop
  | _, [] => True
  | s, label :: rest => ok s label ∧ Along step ok (step s label) rest

instance decidableAlong {ok : State → Label → Prop} [∀ s l, Decidable (ok s l)] :
    (s : State) → (labels : List Label) → Decidable (Along step ok s labels)
  | _, [] => instDecidableTrue
  | s, label :: rest =>
    have : Decidable (Along step ok (step s label) rest) := decidableAlong (step s label) rest
    instDecidableAnd (p := ok s label)

@[simp] theorem run_nil (s : State) : run step s [] = s := rfl

@[simp] theorem run_cons (s : State) (label : Label) (rest : List Label) :
    run step s (label :: rest) = run step (step s label) rest := rfl

theorem run_append (s : State) (first second : List Label) :
    run step s (first ++ second) = run step (run step s first) second :=
  List.foldl_append

theorem Along.mono {ok weaker : State → Label → Prop} (imp : ∀ s l, ok s l → weaker s l)
    {s : State} {labels : List Label} (h : Along step ok s labels) : Along step weaker s labels := by
  induction labels generalizing s with
  | nil => trivial
  | cons label rest ih => exact ⟨imp s label h.1, ih h.2⟩

/-- A restriction of the labels alone may be added. -/
theorem Along.and_all {ok : State → Label → Prop} {allowed : Label → Prop} {s : State} {labels : List Label}
    (h : Along step ok s labels) (all : ∀ l ∈ labels, allowed l) :
    Along step (fun s l => allowed l ∧ ok s l) s labels := by
  induction labels generalizing s with
  | nil => trivial
  | cons label rest ih => exact ⟨⟨all label (by simp), h.1⟩, ih h.2 fun l mem => all l (by simp [mem])⟩

theorem Along.and {ok also : State → Label → Prop} {s : State} {labels : List Label} (h : Along step ok s labels)
    (too : Along step also s labels) : Along step (fun s l => ok s l ∧ also s l) s labels := by
  induction labels generalizing s with
  | nil => trivial
  | cons label rest ih => exact ⟨⟨h.1, too.1⟩, ih h.2 too.2⟩

/-- Two restrictions that admit the same steps admit the same runs. -/
theorem along_congr {ok other : State → Label → Prop} (same : ∀ s l, ok s l ↔ other s l) {s : State}
    {labels : List Label} : Along step ok s labels ↔ Along step other s labels :=
  ⟨Along.mono fun s l => (same s l).mp, Along.mono fun s l => (same s l).mpr⟩

/-- Labels that are admitted in every state. -/
theorem along_of_forall {ok : State → Label → Prop} {s : State} {labels : List Label}
    (always : ∀ l ∈ labels, ∀ s, ok s l) : Along step ok s labels := by
  induction labels generalizing s with
  | nil => trivial
  | cons label rest ih => exact ⟨always label (by simp) s, ih fun l mem => always l (by simp [mem])⟩

theorem along_append {ok : State → Label → Prop} {s : State} {first second : List Label} :
    Along step ok s (first ++ second) ↔
      Along step ok s first ∧ Along step ok (run step s first) second := by
  induction first generalizing s with
  | nil => simp [Along]
  | cons label rest ih => simp only [List.cons_append, Along, ih, run_cons, and_assoc]

/-- The last step of a run that is admitted. -/
theorem along_last {ok : State → Label → Prop} {s : State} {first : List Label} {label : Label}
    (h : Along step ok s (first ++ [label])) : ok (run step s first) label :=
  (along_append.mp h).2.1

/-- An invariant kept by every admitted step holds after every admitted run. -/
theorem invariant {ok : State → Label → Prop} {I : State → Prop}
    (keep : ∀ s label, ok s label → I s → I (step s label)) {s : State} {labels : List Label}
    (admitted : Along step ok s labels) (start : I s) : I (run step s labels) := by
  induction labels generalizing s with
  | nil => exact start
  | cons label rest ih => exact ih admitted.2 (keep s label admitted.1 start)

/-- When a step from a good state leads to a good state exactly if it is admitted, the runs
that stay good are the admitted ones. -/
theorem along_iff_throughout {ok : State → Label → Prop} {I J : State → Prop}
    (side : ∀ s label, J s → J (step s label))
    (exactly : ∀ s label, J s → I s → (I (step s label) ↔ ok s label)) {s : State} {labels : List Label}
    (well : J s) (start : I s) :
    Along step ok s labels ↔ ∀ first, first <+: labels → I (run step s first) := by
  constructor
  · intro admitted first before
    obtain ⟨rest, rfl⟩ := before
    have keep : ∀ s label, ok s label → J s ∧ I s → J (step s label) ∧ I (step s label) :=
      fun s label allowed both => ⟨side s label both.1, (exactly s label both.1 both.2).mpr allowed⟩
    have reached : J (run step s first) ∧ I (run step s first) :=
      @invariant _ _ step ok (fun s => J s ∧ I s) keep s first (along_append.mp admitted).1 ⟨well, start⟩
    exact reached.2
  · intro throughout
    induction labels generalizing s with
    | nil => trivial
    | cons label rest ih =>
      have next : I (step s label) := throughout [label] (by simp)
      refine ⟨(exactly s label well start).mp next, ih (side s label well) next fun first before => ?_⟩
      exact throughout (label :: first) (by simpa using before)

/-! ### Records that only grow -/

section Records
variable {Obs : Type} {ok : Obs → Prop} {s t u : List Obs} {o : Obs}

/-- What was recorded after `u` is new since `s`, if `u` came after `s`. -/
theorem mem_drop_of_prefix (before : s <+: u) (recorded : u ++ [o] <+: t) : o ∈ t.drop s.length := by
  obtain ⟨first, rfl⟩ := before
  obtain ⟨rest, rfl⟩ := recorded
  simp

/-- The second record is the first with more added, all of it as `ok` says. -/
def Adds (ok : Obs → Prop) (s t : List Obs) : Prop := ∃ new, t = s ++ new ∧ ∀ o ∈ new, ok o

theorem Adds.refl (s : List Obs) : Adds ok s s := ⟨[], by simp, by simp⟩

theorem Adds.trans (first : Adds ok s t) (second : Adds ok t u) : Adds ok s u := by
  obtain ⟨left, rfl, leftOk⟩ := first
  obtain ⟨right, rfl, rightOk⟩ := second
  refine ⟨left ++ right, List.append_assoc _ _ _, fun o mem => ?_⟩
  rcases List.mem_append.mp mem with old | new
  · exact leftOk o old
  · exact rightOk o new

theorem Adds.imp {weaker : Obs → Prop} (added : Adds ok s t) (allowed : ∀ o, ok o → weaker o) : Adds weaker s t := by
  obtain ⟨new, rfl, all⟩ := added
  exact ⟨new, rfl, fun o mem => allowed o (all o mem)⟩

theorem Adds.single (allowed : ok o) : Adds ok s (s ++ [o]) := ⟨[o], rfl, by simpa using allowed⟩

theorem Adds.grows (added : Adds ok s t) : s <+: t := ⟨added.choose, added.choose_spec.1.symm⟩

theorem Adds.not_of_prefix (bad : ¬ ok o) (before : s <+: u) (recorded : u ++ [o] <+: t) : ¬ Adds ok s t := by
  rintro ⟨new, rfl, allowed⟩
  have mem := mem_drop_of_prefix before recorded
  rw [List.drop_left] at mem
  exact bad (allowed o mem)

end Records

end WalletPair.Lib.Run
