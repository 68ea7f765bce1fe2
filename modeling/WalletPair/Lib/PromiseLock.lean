import WalletPair.Lib.Run
import Mathlib.Algebra.GroupWithZero.Nat
import Mathlib.Data.List.Basic
import Mathlib.Data.Nat.Find

/-! Operations on one stored value, some of which pass a lock that is a chain of promises:
every locked call takes the promise of the call before it when it is made, waits for that
promise, reads, computes, writes, and then resolves its own. The reads and writes are
answered at any later time and may fail. `order` records the calls as they take effect. -/

namespace WalletPair.Lib.PromiseLock

variable {Op σ : Type}

/-- A `blind` operation replaces the stored value without the lock and without a look; the
others read it under the lock and write what `update` gives, if it gives anything. -/
structure Operations (Op σ : Type) where
  blind : Op → Option σ
  update : Op → σ → Option σ

/-- What an operation makes of the stored value when it runs alone. -/
def Operations.perform (ops : Operations Op σ) (value : σ) (op : Op) : σ :=
  (ops.blind op).getD ((ops.update op value).getD value)

/-- Where a call stands. `fetched` and `stored` are answers that were given but not yet
delivered; a released call has resolved its promise and returned to its caller. -/
inductive Stage (σ : Type)
  | queued
  | fetching
  | fetched (answer : Option σ)
  | storing (seen : Option σ) (value : σ)
  | stored (ok : Bool)
  | settled (ok : Bool)
  | released (ok : Bool)
  deriving DecidableEq

/-- `previous` is the promise the call waits for, and `after` are the calls that had returned
when it was made. -/
structure Call (Op σ : Type) where
  op : Op
  previous : Option Nat
  after : List Nat
  stage : Stage σ
  deriving DecidableEq

structure State (Op σ : Type) where
  store : σ
  calls : List (Call Op σ) := []
  lock : Option Nat := none
  order : List Nat := []
  deriving DecidableEq

/-- A call is made, or an earlier one takes its next step; `ok` is the storage's answer
where the step is one. -/
inductive Label (Op : Type)
  | issue (op : Op)
  | advance (call : Nat) (ok : Bool)
  deriving DecidableEq

def Stage.isReleased : Stage σ → Bool
  | .released _ => true
  | _ => false

def State.released (s : State Op σ) (i : Nat) : Bool := (s.calls[i]?).any (·.stage.isReleased)

variable (ops : Operations Op σ)

def issue (s : State Op σ) (op : Op) : State Op σ :=
  let after := (List.range s.calls.length).filter s.released
  match ops.blind op with
  | some value => { s with calls := s.calls ++ [⟨op, none, after, .storing none value⟩] }
  | none => { s with calls := s.calls ++ [⟨op, s.lock, after, .queued⟩], lock := some s.calls.length }

/-- The stage after the call's next step. -/
def next (s : State Op σ) (call : Call Op σ) (ok : Bool) : Stage σ :=
  match call.stage with
  | .queued => if call.previous.all s.released then .fetching else .queued
  | .fetching => .fetched (if ok then some s.store else none)
  | .fetched none => .settled false
  | .fetched (some seen) =>
    match ops.update call.op seen with
    | none => .settled true
    | some value => .storing (some seen) value
  | .storing _ _ => .stored ok
  | .stored done => .settled done
  | .settled done => .released done
  | .released done => .released done

/-- The stored value after the call's next step. -/
def written (s : State Op σ) (call : Call Op σ) (ok : Bool) : σ :=
  match call.stage with
  | .storing _ value => if ok then value else s.store
  | _ => s.store

/-- A call takes effect when its write is carried out, or when it reads a value it leaves as it is. -/
def takesEffect (s : State Op σ) (call : Call Op σ) (ok : Bool) : Bool :=
  match call.stage with
  | .fetching => ok && (ops.update call.op s.store).isNone
  | .storing _ _ => ok
  | _ => false

def advance (s : State Op σ) (i : Nat) (ok : Bool) : State Op σ :=
  match s.calls[i]? with
  | none => s
  | some call =>
    { s with
      store := written s call ok
      calls := s.calls.set i { call with stage := next ops s call ok }
      order := if takesEffect ops s call ok then s.order ++ [i] else s.order }

def step (s : State Op σ) : Label Op → State Op σ
  | .issue op => issue ops s op
  | .advance i ok => advance ops s i ok

/-- The call at this place passes the lock. -/
def Locked (s : State Op σ) (i : Nat) : Prop := ∃ call, s.calls[i]? = some call ∧ ops.blind call.op = none

/-- The call's read found a value, or its write was carried out, so it has taken effect. -/
def effective (call : Call Op σ) : Bool :=
  match call.stage with
  | .fetched (some seen) => (ops.update call.op seen).isNone
  | .stored ok | .settled ok | .released ok => ok
  | _ => false

/-- The operations that took effect, in that order. -/
def State.history (s : State Op σ) : List Op := s.order.filterMap fun i => (s.calls[i]?).map Call.op

/-! ### What a step does to the calls -/

section Steps
variable {ops} {s : State Op σ} {i j : Nat} {ok : Bool} {call found : Call Op σ}

/-- The call a made operation becomes. -/
def issued (ops : Operations Op σ) (s : State Op σ) (op : Op) : Call Op σ :=
  ⟨op, if (ops.blind op).isSome then none else s.lock, (List.range s.calls.length).filter s.released,
    match ops.blind op with
    | some value => .storing none value
    | none => .queued⟩

theorem calls_issue (op : Op) : (issue ops s op).calls = s.calls ++ [issued ops s op] := by
  unfold issue issued
  cases ops.blind op <;> rfl

@[simp] theorem store_issue (op : Op) : (issue ops s op).store = s.store := by
  unfold issue
  cases ops.blind op <;> rfl

@[simp] theorem order_issue (op : Op) : (issue ops s op).order = s.order := by
  unfold issue
  cases ops.blind op <;> rfl

theorem get_issue {op : Op} (known : (issue ops s op).calls[i]? = some call) :
    s.calls[i]? = some call ∨ (i = s.calls.length ∧ call = issued ops s op) := by
  rw [calls_issue] at known
  rcases Nat.lt_trichotomy i s.calls.length with before | rfl | beyond
  · rw [List.getElem?_append_left before] at known
    exact Or.inl known
  · rw [List.getElem?_concat_length] at known
    exact Or.inr ⟨rfl, (Option.some.inj known).symm⟩
  · rw [List.getElem?_eq_none (by simp; omega)] at known
    cases known

theorem get_issue_old {op : Op} (known : s.calls[i]? = some call) : (issue ops s op).calls[i]? = some call := by
  rw [calls_issue, List.getElem?_append_left (List.getElem?_eq_some_iff.mp known).1]
  exact known

/-- Every call after a step of the `i`-th one is an old one, or is that one at its next stage. -/
theorem get_advance (known : s.calls[i]? = some call) (after : (advance ops s i ok).calls[j]? = some found) :
    (j ≠ i ∧ s.calls[j]? = some found) ∨ (j = i ∧ found = { call with stage := next ops s call ok }) := by
  simp only [advance, known] at after
  by_cases same : i = j
  · subst same
    rw [List.getElem?_set_self (List.getElem?_eq_some_iff.mp known).1] at after
    exact Or.inr ⟨rfl, (Option.some.inj after).symm⟩
  · rw [List.getElem?_set_ne same] at after
    exact Or.inl ⟨Ne.symm same, after⟩

theorem get_advance_self (known : s.calls[i]? = some call) :
    (advance ops s i ok).calls[i]? = some { call with stage := next ops s call ok } := by
  simp only [advance, known]
  rw [List.getElem?_set_self (List.getElem?_eq_some_iff.mp known).1]

theorem get_advance_of_ne (different : j ≠ i) : (advance ops s i ok).calls[j]? = s.calls[j]? := by
  unfold advance
  cases s.calls[i]? with
  | none => rfl
  | some call => exact List.getElem?_set_ne (Ne.symm different)

theorem advance_missing (missing : s.calls[i]? = none) : advance ops s i ok = s := by
  simp only [advance, missing]

theorem length_advance : (advance ops s i ok).calls.length = s.calls.length := by
  unfold advance
  cases s.calls[i]? with
  | none => rfl
  | some call => exact List.length_set

@[simp] theorem lock_advance : (advance ops s i ok).lock = s.lock := by
  unfold advance
  cases s.calls[i]? <;> rfl

theorem store_advance (known : s.calls[i]? = some call) : (advance ops s i ok).store = written s call ok := by
  simp only [advance, known]

theorem order_advance (known : s.calls[i]? = some call) :
    (advance ops s i ok).order = if takesEffect ops s call ok then s.order ++ [i] else s.order := by
  simp only [advance, known]

theorem next_released {done : Bool} (stage : call.stage = .released done) :
    next ops s call ok = .released done := by
  simp only [next, stage]

/-- A call that was seen stays, with its operation, its place in the chain and its past. -/
theorem get_step (l : Label Op) (known : s.calls[i]? = some call) :
    ∃ later, (step ops s l).calls[i]? = some later ∧ later.op = call.op ∧ later.previous = call.previous ∧
      later.after = call.after ∧ (call.stage.isReleased = true → later.stage = call.stage) := by
  cases l with
  | issue op => exact ⟨call, get_issue_old known, rfl, rfl, rfl, fun _ => rfl⟩
  | advance j ok =>
    by_cases same : i = j
    · subst same
      refine ⟨_, get_advance_self known, rfl, rfl, rfl, fun ended => ?_⟩
      cases stage : call.stage with
      | released done => exact next_released stage
      | _ =>
        rw [stage] at ended
        cases ended
    · exact ⟨call, (get_advance_of_ne same).trans known, rfl, rfl, rfl, fun _ => rfl⟩

theorem released_step (l : Label Op) (ended : s.released i = true) : (step ops s l).released i = true := by
  unfold State.released at ended ⊢
  cases known : s.calls[i]? with
  | none =>
    rw [known] at ended
    cases ended
  | some call =>
    rw [known] at ended
    obtain ⟨later, found, -, -, -, same⟩ := get_step l known
    rw [found]
    simpa [same ended] using ended

theorem locked_step (l : Label Op) (locked : Locked ops s i) : Locked ops (step ops s l) i := by
  obtain ⟨call, known, guarded⟩ := locked
  obtain ⟨later, found, op, -⟩ := get_step l known
  exact ⟨later, found, by rw [op, guarded]⟩

/-- A locked call of the next state was one before, or was just made. -/
theorem locked_of_step {l : Label Op} (locked : Locked ops (step ops s l) i) :
    Locked ops s i ∨ (i = s.calls.length ∧ ∃ op, l = .issue op ∧ ops.blind op = none) := by
  obtain ⟨call, known, guarded⟩ := locked
  cases l with
  | issue op =>
    rcases get_issue known with old | ⟨rfl, rfl⟩
    · exact Or.inl ⟨call, old, guarded⟩
    · exact Or.inr ⟨rfl, op, rfl, guarded⟩
  | advance j ok =>
    cases stepped : s.calls[j]? with
    | none =>
      rw [show step ops s (.advance j ok) = s from advance_missing stepped] at known
      exact Or.inl ⟨call, known, guarded⟩
    | some moved =>
      rcases get_advance stepped known with ⟨-, old⟩ | ⟨rfl, rfl⟩
      · exact Or.inl ⟨call, old, guarded⟩
      · exact Or.inl ⟨moved, stepped, guarded⟩

end Steps

/-! ### The chain of promises -/

/-- The chain names every locked call, and who left the queue had every earlier one released. -/
structure Chained (s : State Op σ) : Prop where
  holder : ∀ p, s.lock = some p → Locked ops s p
  last : ∀ i, Locked ops s i → ∃ p, s.lock = some p ∧ i ≤ p
  previous : ∀ i call, s.calls[i]? = some call → ∀ p, call.previous = some p → p < i ∧ Locked ops s p
  chain : ∀ i call, s.calls[i]? = some call → ops.blind call.op = none →
    ∀ j < i, Locked ops s j → ∃ p, call.previous = some p ∧ j ≤ p
  past : ∀ i call, s.calls[i]? = some call → ops.blind call.op = none → call.stage ≠ .queued →
    ∀ j < i, Locked ops s j → s.released j = true

variable {ops}

theorem Locked.lt {s : State Op σ} {i : Nat} (locked : Locked ops s i) : i < s.calls.length := by
  obtain ⟨call, known, -⟩ := locked
  exact (List.getElem?_eq_some_iff.mp known).1

theorem chained_initial (store : σ) : Chained ops ({ store } : State Op σ) := by
  refine ⟨?_, ?_, ?_, ?_, ?_⟩ <;> simp [Locked]

theorem Chained.issue {s : State Op σ} (h : Chained ops s) (op : Op) : Chained ops (issue ops s op) := by
  have lockedOf : ∀ {i}, Locked ops (PromiseLock.issue ops s op) i →
      Locked ops s i ∨ (i = s.calls.length ∧ ops.blind op = none) := by
    intro i locked
    rcases locked_of_step (l := .issue op) locked with old | ⟨rfl, made, same, guarded⟩
    · exact Or.inl old
    · cases same
      exact Or.inr ⟨rfl, guarded⟩
  have stays : ∀ {i}, Locked ops s i → Locked ops (PromiseLock.issue ops s op) i := locked_step (.issue op)
  have free : ∀ {i j call}, s.calls[i]? = some call → j < i → Locked ops (PromiseLock.issue ops s op) j → Locked ops s j := by
    intro i j call known before locked
    rcases lockedOf locked with old | ⟨rfl, -⟩
    · exact old
    · exact absurd (List.getElem?_eq_some_iff.mp known).1 (by omega)
  refine ⟨?_, ?_, ?_, ?_, ?_⟩
  · intro p named
    unfold PromiseLock.issue at named
    cases guarded : ops.blind op with
    | some value =>
      rw [guarded] at named
      exact stays (h.holder p named)
    | none =>
      rw [guarded] at named
      cases named
      exact ⟨issued ops s op, by rw [calls_issue, List.getElem?_concat_length], guarded⟩
  · intro i locked
    unfold PromiseLock.issue
    cases guarded : ops.blind op with
    | some value =>
      rcases lockedOf locked with old | ⟨-, other⟩
      · exact h.last i old
      · rw [guarded] at other
        cases other
    | none =>
      refine ⟨s.calls.length, rfl, ?_⟩
      rcases lockedOf locked with old | ⟨rfl, -⟩
      · exact Nat.le_of_lt old.lt
      · exact le_rfl
  · intro i call known p named
    rcases get_issue known with old | ⟨rfl, rfl⟩
    · obtain ⟨before, locked⟩ := h.previous i call old p named
      exact ⟨before, stays locked⟩
    · have held : s.lock = some p := by
        unfold issued at named
        cases guarded : ops.blind op with
        | some value =>
          rw [guarded] at named
          cases named
        | none => simpa [guarded] using named
      exact ⟨(h.holder p held).lt, stays (h.holder p held)⟩
  · intro i call known guarded j before locked
    rcases get_issue known with old | ⟨rfl, rfl⟩
    · exact h.chain i call old guarded j before (free old before locked)
    · have named : (issued ops s op).previous = s.lock := by
        have open_ : ops.blind op = none := guarded
        simp [issued, open_]
      rw [named]
      rcases lockedOf locked with old | ⟨rfl, -⟩
      · exact h.last j old
      · exact absurd before (Nat.lt_irrefl _)
  · intro i call known guarded left j before locked
    rcases get_issue known with old | ⟨rfl, rfl⟩
    · exact released_step (.issue op) (h.past i call old guarded left j before (free old before locked))
    · have open_ : ops.blind op = none := guarded
      exact absurd (by simp [issued, open_]) left

theorem Chained.advance {s : State Op σ} (h : Chained ops s) (i : Nat) (ok : Bool) : Chained ops (advance ops s i ok) := by
  cases stepped : s.calls[i]? with
  | none => rwa [advance_missing stepped]
  | some moved =>
    have locked_iff : ∀ {j}, Locked ops (PromiseLock.advance ops s i ok) j ↔ Locked ops s j := by
      intro j
      constructor
      · intro locked
        rcases locked_of_step (l := .advance i ok) locked with old | ⟨-, op, other, -⟩
        · exact old
        · cases other
      · exact locked_step (.advance i ok)
    refine ⟨?_, ?_, ?_, ?_, ?_⟩
    · intro p named
      exact locked_iff.mpr (h.holder p (lock_advance ▸ named))
    · intro j locked
      rw [lock_advance]
      exact h.last j (locked_iff.mp locked)
    · intro j call known p named
      rw [locked_iff]
      rcases get_advance stepped known with ⟨-, old⟩ | ⟨rfl, rfl⟩
      · exact h.previous j call old p named
      · exact h.previous j moved stepped p named
    · intro j call known guarded k before locked
      have was := locked_iff.mp locked
      rcases get_advance stepped known with ⟨-, old⟩ | ⟨rfl, rfl⟩
      · exact h.chain j call old guarded k before was
      · exact h.chain j moved stepped guarded k before was
    · intro j call known guarded left k before locked
      have was := locked_iff.mp locked
      apply released_step (.advance i ok)
      rcases get_advance stepped known with ⟨-, old⟩ | ⟨rfl, rfl⟩
      · exact h.past j call old guarded left k before was
      by_cases waiting : moved.stage = .queued
      · -- it leaves the queue now: the call before it is released, and that one had left the queue
        simp only [next, waiting] at left
        by_cases turn : moved.previous.all s.released = true
        · obtain ⟨p, named, upTo⟩ := h.chain j moved stepped guarded k before was
          rw [named] at turn
          have ended : s.released p = true := by simpa using turn
          rcases Nat.lt_or_eq_of_le upTo with earlier | rfl
          · obtain ⟨-, holder, found, open_⟩ := h.previous j moved stepped p named
            apply h.past p holder found open_ _ k earlier was
            intro queued
            simp [State.released, found, queued, Stage.isReleased] at ended
          · exact ended
        · exact absurd (if_neg turn) left
      · exact h.past j moved stepped guarded waiting k before was

theorem Chained.step {s : State Op σ} (h : Chained ops s) (l : Label Op) : Chained ops (step ops s l) := by
  cases l with
  | issue op => exact h.issue op
  | advance i ok => exact h.advance i ok

theorem Locked.guarded {s : State Op σ} {i : Nat} {call : Call Op σ} (locked : Locked ops s i)
    (known : s.calls[i]? = some call) : ops.blind call.op = none := by
  obtain ⟨found, there, open_⟩ := locked
  cases known.symm.trans there
  exact open_

/-- Of two locked calls that left the queue the earlier one is released. -/
theorem Chained.exclusive {s : State Op σ} (h : Chained ops s) {i j : Nat} {first second : Call Op σ}
    (one : s.calls[i]? = some first) (other : s.calls[j]? = some second) (guarded : ops.blind first.op = none)
    (also : ops.blind second.op = none) (before : i < j) (left : second.stage ≠ .queued) :
    first.stage.isReleased = true := by
  have ended := h.past j second other also left i before ⟨first, one, guarded⟩
  simpa [State.released, one] using ended

/-! ### Progress -/

/-- How many steps a call has left. -/
def Stage.left : Stage σ → Nat
  | .queued => 6
  | .fetching => 5
  | .fetched _ => 4
  | .storing _ _ => 3
  | .stored _ => 2
  | .settled _ => 1
  | .released _ => 0

def State.work (s : State Op σ) : Nat := (s.calls.map fun call => call.stage.left).sum

/-- Every call has returned. -/
def State.Done (s : State Op σ) : Prop := ∀ call ∈ s.calls, call.stage.isReleased = true

section Progress
variable {s : State Op σ} {i : Nat} {call : Call Op σ}

theorem sum_set_lt {α : Type} (weight : α → Nat) {items : List α} {old new : α} {i : Nat} (known : items[i]? = some old)
    (less : weight new < weight old) : ((items.set i new).map weight).sum < (items.map weight).sum := by
  induction items generalizing i with
  | nil => simp at known
  | cons first rest ih =>
    cases i with
    | zero =>
      cases known
      simpa using less
    | succ i =>
      have tail := ih (i := i) (by simpa using known)
      simpa using tail

theorem work_advance (known : s.calls[i]? = some call) (ok : Bool)
    (less : (next ops s call ok).left < call.stage.left) : (advance ops s i ok).work < s.work := by
  unfold State.work
  simp only [advance, known]
  exact sum_set_lt (fun call : Call Op σ => call.stage.left) known less

theorem next_left (ok : Bool) (ready : call.stage = .queued → call.previous.all s.released = true)
    (busy : call.stage.isReleased = false) : (next ops s call ok).left < call.stage.left := by
  unfold next
  cases stage : call.stage with
  | queued => simp [ready stage, Stage.left]
  | fetched answer =>
    cases answer with
    | none => simp [Stage.left]
    | some seen => cases made : ops.update call.op seen <;> simp [Stage.left, made]
  | released done =>
    rw [stage] at busy
    cases busy
  | _ => simp [Stage.left]

/-- As long as some call has not returned, some call can take a step, whatever the storage answers. -/
theorem progress (chained : Chained ops s) : s.Done ∨ ∃ i, ∀ ok, (advance ops s i ok).work < s.work := by
  by_cases all : ∃ i, i < s.calls.length ∧ s.released i = false
  · obtain ⟨i, ⟨within, busy⟩, least⟩ : ∃ i, (i < s.calls.length ∧ s.released i = false) ∧
        ∀ j < i, ¬ (j < s.calls.length ∧ s.released j = false) :=
      ⟨Nat.find all, Nat.find_spec all, fun _ before => Nat.find_min all before⟩
    obtain ⟨call, known⟩ : ∃ call, s.calls[i]? = some call := ⟨_, List.getElem?_eq_getElem within⟩
    have running : call.stage.isReleased = false := by simpa [State.released, known] using busy
    refine Or.inr ⟨i, fun ok => work_advance known ok (next_left ok ?_ running)⟩
    intro _
    cases named : call.previous with
    | none => rfl
    | some p =>
      obtain ⟨before, locked⟩ := chained.previous i call known p named
      by_contra waits
      exact least p before ⟨locked.lt, by simpa using waits⟩
  · left
    intro call mem
    obtain ⟨i, known⟩ := List.getElem?_of_mem mem
    by_contra busy
    refine all ⟨i, (List.getElem?_eq_some_iff.mp known).1, ?_⟩
    simpa [State.released, known] using busy

/-- Whatever the storage answers from now on, all calls return. -/
theorem drains (chained : Chained ops s) (answers : Nat → Bool) :
    ∃ turns : List Nat, (Run.run (step ops) s (turns.mapIdx fun k i => .advance i (answers k))).Done := by
  induction bound : s.work using Nat.strongRecOn generalizing s answers with
  | ind n ih =>
    subst bound
    rcases progress chained with done | ⟨i, moves⟩
    · exact ⟨[], done⟩
    · obtain ⟨turns, done⟩ := ih _ (moves (answers 0)) (chained.advance i (answers 0)) (fun k => answers (k + 1)) rfl
      refine ⟨i :: turns, ?_⟩
      rw [List.mapIdx_cons, Run.run_cons]
      exact done

end Progress

end WalletPair.Lib.PromiseLock
