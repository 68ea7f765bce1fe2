import Mathlib.Order.Defs.PartialOrder
import Mathlib.Order.Defs.Unbundled
import Mathlib.Logic.Relation

/-! Programs that update a state and may throw. A throw keeps every update made
before it, as in a language with mutable objects. `Keeps R m` says that each run
of `m`, thrown or not, relates its first state to its last one by `R`; a preorder
`R` is closed under the control structure, so a handler is checked part by part.
`Triple P m Q E` is the rule form for results that the next part depends on. -/

namespace WalletPair.Lib.Program

/-- A computation over a mutable state; an error carries its message. -/
abbrev Prog (σ α : Type) := EStateM String σ α

variable {σ α β : Type}

/-- The state left behind, whether the program returned or threw. -/
def after (m : Prog σ α) (s : σ) : σ :=
  match m s with
  | .ok _ t => t
  | .error _ t => t

/-- Whether the program returned, with its value. -/
def value (m : Prog σ α) (s : σ) : Option α :=
  match m s with
  | .ok a _ => some a
  | .error _ _ => none

/-- Runs a computation that reads nothing and may throw. -/
def runExcept : Except String α → Prog σ α
  | .ok a => pure a
  | .error e => throw e

@[simp] theorem after_runExcept (x : Except String α) (s : σ) : after (runExcept x) s = s := by
  cases x <;> rfl

@[simp] theorem after_pure (a : α) (s : σ) : after (pure a : Prog σ α) s = s := rfl

@[simp] theorem after_throw (e : String) (s : σ) : after (throw e : Prog σ α) s = s := rfl

@[simp] theorem after_modify (f : σ → σ) (s : σ) : after (modify f : Prog σ Unit) s = f s := rfl

@[simp] theorem after_get (s : σ) : after (get : Prog σ σ) s = s := rfl

theorem after_bind (m : Prog σ α) (f : α → Prog σ β) (s : σ) :
    after (m >>= f) s = match m s with
      | .ok a t => after (f a) t
      | .error _ t => t := by
  change after (EStateM.bind m f) s = _
  unfold after EStateM.bind
  cases m s with
  | ok a t => rfl
  | error e t => rfl

/-- What only computes a result leaves the state alone. -/
theorem after_bind_pure (m : Prog σ α) (f : α → β) (s : σ) : after (m >>= fun a => pure (f a)) s = after m s := by
  rw [after_bind]
  unfold after
  cases m s with
  | ok a t => rfl
  | error e t => rfl

@[simp] theorem after_get_bind (f : σ → Prog σ β) (s : σ) :
    after (get >>= f) s = after (f s) s := rfl

@[simp] theorem after_modify_bind (g : σ → σ) (f : PUnit → Prog σ β) (s : σ) :
    after (modify g >>= f) s = after (f ⟨⟩) (g s) := rfl

@[simp] theorem after_pure_bind (a : α) (f : α → Prog σ β) (s : σ) :
    after (pure a >>= f) s = after (f a) s := rfl

@[simp] theorem after_throw_bind (e : String) (f : α → Prog σ β) (s : σ) :
    after ((throw e : Prog σ α) >>= f) s = s := rfl

@[simp] theorem after_map (f : α → β) (m : Prog σ α) (s : σ) : after (f <$> m) s = after m s := by
  change after (EStateM.map f m) s = _
  unfold after EStateM.map
  cases m s with
  | ok a t => rfl
  | error e t => rfl

theorem after_ite {c : Prop} [Decidable c] (m n : Prog σ α) (s : σ) :
    after (if c then m else n) s = if c then after m s else after n s := by
  split <;> rfl

theorem after_tryCatch (m : Prog σ α) (h : String → Prog σ α) (s : σ) :
    after (tryCatch m h) s = match m s with
      | .ok _ t => t
      | .error e t => after (h e) t := by
  change after (EStateM.tryCatch m h) s = _
  unfold after EStateM.tryCatch
  cases m s with
  | ok a t => rfl
  | error e t => rfl

/-- A handler that does nothing leaves what the body left. -/
theorem after_tryCatch_pure (m : Prog σ Unit) (s : σ) : after (tryCatch m fun _ => pure ()) s = after m s := by
  rw [after_tryCatch]
  unfold after
  cases m s with
  | ok a t => rfl
  | error e t => rfl

/-! Running a program at a state, one statement at a time. -/

@[simp] theorem pure_apply (a : α) (s : σ) : (pure a : Prog σ α) s = .ok a s := rfl

@[simp] theorem throw_apply (e : String) (s : σ) : (throw e : Prog σ α) s = .error e s := rfl

@[simp] theorem modify_apply (g : σ → σ) (s : σ) : (modify g : Prog σ PUnit) s = .ok ⟨⟩ (g s) := rfl

@[simp] theorem get_bind_apply (f : σ → Prog σ β) (s : σ) : (get >>= f : Prog σ β) s = f s s := rfl

@[simp] theorem modify_bind_apply (g : σ → σ) (f : PUnit → Prog σ β) (s : σ) :
    (modify g >>= f : Prog σ β) s = f ⟨⟩ (g s) := rfl

@[simp] theorem map_modify_apply (f : PUnit → α) (g : σ → σ) (s : σ) :
    (f <$> modify g : Prog σ α) s = .ok (f ⟨⟩) (g s) := rfl

theorem bind_of_ok {m : Prog σ α} {f : α → Prog σ β} {s t : σ} {a : α} (h : m s = .ok a t) :
    (m >>= f) s = f a t := by
  change EStateM.bind m f s = _
  simp only [EStateM.bind, h]

theorem bind_of_error {m : Prog σ α} {f : α → Prog σ β} {s t : σ} {e : String} (h : m s = .error e t) :
    (m >>= f) s = .error e t := by
  change EStateM.bind m f s = _
  simp only [EStateM.bind, h]

theorem tryCatch_of_ok {m : Prog σ α} {h : String → Prog σ α} {s t : σ} {a : α} (run : m s = .ok a t) :
    tryCatch m h s = .ok a t := by
  change EStateM.tryCatch m h s = _
  unfold EStateM.tryCatch
  rw [run]

theorem tryCatch_of_error {m : Prog σ α} {h : String → Prog σ α} {s t : σ} {e : String} (run : m s = .error e t) :
    tryCatch m h s = h e t := by
  change EStateM.tryCatch m h s = _
  unfold EStateM.tryCatch
  rw [run]
  rfl

theorem after_of_ok {m : Prog σ α} {s t : σ} {a : α} (h : m s = .ok a t) : after m s = t := by
  simp only [after, h]

theorem after_of_error {m : Prog σ α} {s t : σ} {e : String} (h : m s = .error e t) :
    after m s = t := by
  simp only [after, h]

theorem after_bind_of_ok {m : Prog σ α} {f : α → Prog σ β} {s t : σ} {a : α} (h : m s = .ok a t) :
    after (m >>= f) s = after (f a) t := by
  rw [after_bind, h]

theorem ok_of_value {m : Prog σ α} {s : σ} {a : α} (h : value m s = some a) : ∃ t, m s = .ok a t := by
  unfold value at h
  cases run : m s with
  | ok b t =>
    rw [run] at h
    cases h
    exact ⟨t, rfl⟩
  | error e t =>
    rw [run] at h
    cases h

/-- A program that returned did so in each of its parts. -/
theorem ok_of_bind {m : Prog σ α} {f : α → Prog σ β} {s t : σ} {b : β} (h : (m >>= f) s = .ok b t) :
    ∃ a u, m s = .ok a u ∧ f a u = .ok b t := by
  cases run : m s with
  | ok a u =>
    rw [bind_of_ok run] at h
    exact ⟨a, u, rfl, h⟩
  | error e u =>
    rw [bind_of_error run] at h
    cases h

theorem ok_of_runExcept {x : Except String α} {s t : σ} {a : α} (h : runExcept x s = .ok a t) : x = .ok a ∧ t = s := by
  cases x with
  | ok b =>
    cases h
    exact ⟨rfl, rfl⟩
  | error e => cases h

/-- A computation that returns comes before the rest. -/
theorem ok_of_runExcept_bind {x : Except String α} {f : α → Prog σ β} {s t : σ} {b : β}
    (h : (runExcept x >>= f) s = .ok b t) : ∃ a, x = .ok a ∧ f a s = .ok b t := by
  obtain ⟨a, u, run, rest⟩ := ok_of_bind h
  obtain ⟨same, rfl⟩ := ok_of_runExcept run
  exact ⟨a, same, rest⟩

theorem runExcept_bind_of_ok {x : Except String α} {f : α → Prog σ β} {s : σ} {a : α} (h : x = .ok a) :
    (runExcept x >>= f) s = f a s := by
  rw [h]
  rfl

theorem runExcept_bind_of_error {x : Except String α} {f : α → Prog σ β} {s : σ} {e : String} (h : x = .error e) :
    (runExcept x >>= f) s = .error e s := by
  rw [h]
  rfl

/-- Every run of `m` relates its first state to its last one by `R`. -/
def Keeps (R : σ → σ → Prop) (m : Prog σ α) : Prop := ∀ s, R s (after m s)

section Rules
variable {R : σ → σ → Prop} [refl : Std.Refl R] [trans : IsTrans σ R]

omit trans in
theorem Keeps.pure (a : α) : Keeps R (pure a : Prog σ α) := fun s => refl.refl s

omit trans in
theorem Keeps.throw (e : String) : Keeps R (throw e : Prog σ α) := fun s => refl.refl s

omit trans in
theorem Keeps.runExcept (x : Except String α) : Keeps R (runExcept x : Prog σ α) := by
  intro s
  rw [after_runExcept]
  exact refl.refl s

omit trans in
theorem Keeps.get : Keeps R (get : Prog σ σ) := fun s => refl.refl s

omit refl trans in
theorem Keeps.modify {f : σ → σ} (h : ∀ s, R s (f s)) : Keeps R (modify f : Prog σ Unit) := h

omit refl in
theorem Keeps.bind {m : Prog σ α} {f : α → Prog σ β} (first : Keeps R m)
    (rest : ∀ a, Keeps R (f a)) : Keeps R (m >>= f) := by
  intro s
  have start := first s
  rw [after_bind]
  unfold after at start
  cases h : m s with
  | ok a t =>
    rw [h] at start
    exact trans.trans _ _ _ start (rest a t)
  | error e t =>
    rw [h] at start
    exact start

omit refl trans in
theorem Keeps.ite {c : Prop} [Decidable c] {m n : Prog σ α} (yes : Keeps R m) (no : Keeps R n) :
    Keeps R (if c then m else n) := by
  split
  · exact yes
  · exact no

omit refl in
theorem Keeps.tryCatch {m : Prog σ α} {h : String → Prog σ α} (body : Keeps R m)
    (handler : ∀ e, Keeps R (h e)) : Keeps R (tryCatch m h) := by
  intro s
  have start := body s
  rw [after_tryCatch]
  unfold after at start
  cases run : m s with
  | ok a t =>
    rw [run] at start
    exact start
  | error e t =>
    rw [run] at start
    exact trans.trans _ _ _ start (handler e t)

omit trans in
/-- What follows a part of a program goes on from the state it left. -/
theorem Keeps.after_bind {m : Prog σ α} {f : α → Prog σ β} (rest : ∀ a, Keeps R (f a)) (s : σ) :
    R (after m s) (after (m >>= f) s) := by
  rw [Program.after_bind]
  unfold after
  cases m s with
  | ok a t => exact rest a t
  | error e t => exact refl.refl t

omit trans in
theorem Keeps.after_tryCatch_of_handler {m : Prog σ α} {h : String → Prog σ α} (handler : ∀ e, Keeps R (h e)) (s : σ) :
    R (after m s) (after (MonadExcept.tryCatch m h) s) := by
  rw [Program.after_tryCatch]
  unfold after
  cases m s with
  | ok a t => exact refl.refl t
  | error e t => exact handler e t

theorem Keeps.forM (f : α → Prog σ PUnit) (items : List α) (each : ∀ a ∈ items, Keeps R (f a)) :
    Keeps R (items.forM f) := by
  induction items with
  | nil => exact Keeps.pure PUnit.unit
  | cons a rest ih =>
    change Keeps R (f a >>= fun _ => rest.forM f)
    exact Keeps.bind (each a (by simp)) (fun _ => ih (fun b mem => each b (by simp [mem])))

end Rules

theorem Keeps.mono {R T : σ → σ → Prop} {m : Prog σ α} (kept : Keeps R m)
    (weaker : ∀ s t, R s t → T s t) : Keeps T m :=
  fun s => weaker s _ (kept s)

/-- Preservation of an invariant, as a relation between states. -/
def Preserve (I : σ → Prop) : σ → σ → Prop := fun s t => I s → I t

instance (I : σ → Prop) : Std.Refl (Preserve I) := ⟨fun _ held => held⟩

instance (I : σ → Prop) : IsTrans σ (Preserve I) := ⟨fun _ _ _ first second held => second (first held)⟩

/-! ### Chains of atomic moves -/

section Chains
variable {Move : σ → σ → Prop}

instance reflMoves : Std.Refl (Relation.ReflTransGen Move) := ⟨fun _ => Relation.ReflTransGen.refl⟩

instance transMoves : IsTrans σ (Relation.ReflTransGen Move) := ⟨fun _ _ _ => Relation.ReflTransGen.trans⟩

/-- A program made of moves keeps what every move keeps. -/
theorem Keeps.preserve {I : σ → Prop} {m : Prog σ α} (made : Keeps (Relation.ReflTransGen Move) m)
    (each : ∀ s t, Move s t → I s → I t) : Keeps (Preserve I) m := by
  intro s held
  have chain := made s
  generalize after m s = last at chain ⊢
  induction chain with
  | refl => exact held
  | tail _ move ih => exact each _ _ move ih

end Chains

/-! ### Pre- and postconditions -/

/-- From a state with `P` the program returns a value and a state with `Q`, or throws in
a state with `E`. -/
def Triple (P : σ → Prop) (m : Prog σ α) (Q : α → σ → Prop) (E : σ → Prop) : Prop :=
  ∀ s, P s → match m s with
    | .ok a t => Q a t
    | .error _ t => E t

namespace Triple
variable {P P' E E' I : σ → Prop} {Q Q' : α → σ → Prop} {S : β → σ → Prop}

theorem pure {a : α} (h : ∀ s, P s → Q a s) : Triple P (pure a : Prog σ α) Q E := h

theorem throw {e : String} (h : ∀ s, P s → E s) : Triple P (throw e : Prog σ α) Q E := h

theorem modify {f : σ → σ} {Q : PUnit → σ → Prop} (h : ∀ s, P s → Q ⟨⟩ (f s)) :
    Triple P (modify f : Prog σ PUnit) Q E := h

theorem runExcept {x : Except String α} (returned : ∀ a, x = .ok a → ∀ s, P s → Q a s)
    (thrown : ∀ s, P s → E s) : Triple P (runExcept x : Prog σ α) Q E := by
  intro s held
  cases x with
  | ok a => exact returned a rfl s held
  | error e => exact thrown s held

theorem bind {m : Prog σ α} {f : α → Prog σ β} (first : Triple P m Q E)
    (rest : ∀ a, Triple (Q a) (f a) S E) : Triple P (m >>= f) S E := by
  intro s held
  have start := first s held
  change match EStateM.bind m f s with
    | .ok a t => S a t
    | .error _ t => E t
  unfold EStateM.bind
  cases run : m s with
  | ok a t =>
    rw [run] at start
    exact rest a t start
  | error e t =>
    rw [run] at start
    exact start

theorem tryCatch {m : Prog σ α} {h : String → Prog σ α} (body : Triple P m Q I)
    (handler : ∀ e, Triple I (h e) Q E) : Triple P (tryCatch m h) Q E := by
  intro s held
  have start := body s held
  change match EStateM.tryCatch m h s with
    | .ok a t => Q a t
    | .error _ t => E t
  unfold EStateM.tryCatch
  cases run : m s with
  | ok a t =>
    rw [run] at start
    exact start
  | error e t =>
    rw [run] at start
    exact handler e t start

theorem forM (f : α → Prog σ PUnit) (items : List α) (each : ∀ a ∈ items, Triple I (f a) (fun _ => I) E) :
    Triple I (items.forM f) (fun _ => I) E := by
  induction items with
  | nil => exact pure fun _ held => held
  | cons a rest ih =>
    change Triple I (f a >>= fun _ => rest.forM f) (fun _ => I) E
    exact bind (each a (by simp)) fun _ => ih fun b mem => each b (by simp [mem])

/-- Reading the state: what follows starts in the state it read. -/
theorem read {f : σ → Prog σ β} (rest : ∀ s, P s → Triple (fun t => t = s) (f s) S E) :
    Triple P (MonadState.get >>= f) S E := fun s held => rest s held s rfl

/-- Running on from one known state. -/
theorem at_state {m : Prog σ α} {s : σ} (h : match m s with
    | .ok a t => Q a t
    | .error _ t => E t) : Triple (fun t => t = s) m Q E :=
  fun _ same => same ▸ h

theorem start {m : Prog σ α} {s : σ} (h : Triple P m Q E) (held : P s) : Triple (fun t => t = s) m Q E :=
  at_state (h s held)

/-- A fact that does not depend on the state. -/
theorem assume {fact : Prop} {m : Prog σ α} (h : fact → Triple P m Q E) :
    Triple (fun s => fact ∧ P s) m Q E := fun s held => h held.1 s held.2

theorem ite {c : Prop} [Decidable c] {m n : Prog σ α} (yes : c → Triple P m Q E)
    (no : ¬c → Triple P n Q E) : Triple P (if c then m else n) Q E := by
  split
  · exact yes ‹_›
  · exact no ‹_›

theorem mono {m : Prog σ α} (h : Triple P m Q E) (pre : ∀ s, P' s → P s)
    (post : ∀ a s, Q a s → Q' a s) (thrown : ∀ s, E s → E' s) : Triple P' m Q' E' := by
  intro s held
  have start := h s (pre s held)
  cases run : m s with
  | ok a t =>
    rw [run] at start
    exact post a t start
  | error e t =>
    rw [run] at start
    exact thrown t start

/-- A triple from what a program keeps. -/
theorem of_keeps {R : σ → σ → Prop} {m : Prog σ α} (kept : Keeps R m) {Q : σ → Prop}
    (step : ∀ s t, R s t → P s → Q t) : Triple P m (fun _ => Q) Q := by
  intro s held
  have related := kept s
  unfold after at related
  cases run : m s with
  | ok a t =>
    rw [run] at related
    exact step s t related held
  | error e t =>
    rw [run] at related
    exact step s t related held

/-- Two ways to look at one program. -/
theorem and {K L : σ → Prop} {T : α → σ → Prop} {m : Prog σ α} (h : Triple P m Q E) (also : Triple K m T L) :
    Triple (fun s => P s ∧ K s) m (fun a s => Q a s ∧ T a s) (fun s => E s ∧ L s) := by
  intro s held
  have one := h s held.1
  have two := also s held.2
  cases run : m s with
  | ok a t =>
    rw [run] at one two
    exact ⟨one, two⟩
  | error e t =>
    rw [run] at one two
    exact ⟨one, two⟩

theorem preserve {m : Prog σ α} (kept : Keeps (Preserve I) m) : Triple I m (fun _ => I) I :=
  of_keeps kept (fun _ _ held => held)

/-- Adding an invariant that the program keeps. -/
theorem and_keeps {K : σ → Prop} {m : Prog σ α} (h : Triple P m Q E) (kept : Keeps (Preserve K) m) :
    Triple (fun s => P s ∧ K s) m (fun a s => Q a s ∧ K s) (fun s => E s ∧ K s) := h.and (preserve kept)

/-- What holds at the end, however the program ends. -/
theorem final {m : Prog σ α} {Q : σ → Prop} (h : Triple P m (fun _ => Q) Q) {s : σ} (held : P s) :
    Q (after m s) := by
  have start := h s held
  unfold after
  cases run : m s with
  | ok a t =>
    rw [run] at start
    exact start
  | error e t =>
    rw [run] at start
    exact start

/-- A program that never throws returns. -/
theorem returns {m : Prog σ α} (h : Triple P m Q (fun _ => False)) {s : σ} (held : P s) :
    ∃ a t, m s = .ok a t ∧ Q a t := by
  have start := h s held
  cases run : m s with
  | ok a t =>
    rw [run] at start
    exact ⟨a, t, rfl, start⟩
  | error e t =>
    rw [run] at start
    exact start.elim

theorem keeps {m : Prog σ α} (h : Triple I m (fun _ => I) I) : Keeps (Preserve I) m :=
  fun _ held => h.final held

end Triple

end WalletPair.Lib.Program
