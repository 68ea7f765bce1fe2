import WalletPair.Extension.RequestRuns

/-! The accounts of the deferred requests: each is answered once, or waits in the queue, or is
pursued by a call that a flush made for it. -/

namespace WalletPair.Extension.Rpc
open WalletPair.Lib WalletPair.Lib.Run WalletPair.Sdk WalletPair.Sdk.DApp

/-! ### Where a deferred request is -/

def Stage.isEnded : Stage → Bool
  | .ended => true
  | _ => false

def Stage.isDeferred : Stage → Bool
  | .deferred => true
  | _ => false

/-- Deferred, or later. -/
def Stage.isLate : Stage → Bool
  | .deferred | .returned _ | .ended => true
  | _ => false

/-- The call is under way on behalf of call `n`. -/
def Call.pursues (c : Call) (n : Nat) : Bool := c.caller = .flush n && !c.stage.isEnded

namespace Desk

/-- How often the resolver of a call was called. -/
def answersTo (s : Desk) (n : Nat) : Nat := s.answers.countP fun a => a.1 = n

def waiting (s : Desk) (n : Nat) : Nat := s.deferredRequests.countP fun req => req.call = n

def pursued (s : Desk) (n : Nat) : Nat := s.calls.countP fun c => c.pursues n

/-- One for the owed call. -/
def debt (owed : Option Nat) (n : Nat) : Nat := if owed = some n then 1 else 0

@[simp] theorem debt_none (n : Nat) : debt none n = 0 := rfl

@[simp] theorem debt_self (n : Nat) : debt (some n) n = 1 := if_pos rfl

theorem debt_some (n m : Nat) : debt (some n) m = if n = m then 1 else 0 := by
  unfold debt
  simp only [Option.some_inj]

/-- Each deferred call is answered, waits in the queue, or is pursued by a flushed call, and it is so
once; `owed` is a call that is none of it for the moment. -/
structure Accounts (s : Desk) (owed : Option Nat) : Prop where
  balance : ∀ n, s.answersTo n + s.waiting n + s.pursued n + debt owed n = s.deferrals.count n
  once : s.deferrals.Nodup
  open_ : ∀ n ∈ s.deferrals, ∃ c, s.calls[n]? = some c ∧ c.stage.isLate = true ∧ (c.stage.isDeferred = true ↔ s.answersTo n = 0)
  known : ∀ (i : Nat) (c : Call), s.calls[i]? = some c → c.stage.isDeferred = true → i ∈ s.deferrals
  timed : ∀ id, (s.deferredRequests.countP fun req => req.id = id) ≤ s.timers.countP fun timer => timer.2 = id
  older : ∀ (i : Nat) (c : Call), s.calls[i]? = some c → ∀ n, c.caller = .flush n → n < i

end Desk

/-! ### What the operations do to the accounts -/

section Lists
variable {α : Type} {p : α → Bool} {f : α → α} {l : List α} {n : Nat}

theorem countP_modify {x : α} (found : l[n]? = some x) :
    (l.modify n f).countP p + (if p x then 1 else 0) = l.countP p + if p (f x) then 1 else 0 := by
  induction l generalizing n with
  | nil => cases found
  | cons y rest ih =>
    cases n with
    | zero =>
      cases found
      simp only [List.modify_zero_cons, List.countP_cons]
      omega
    | succ n =>
      have later := ih (n := n) found
      simp only [List.modify_succ_cons, List.countP_cons]
      omega

theorem modify_congr {x : α} {g : α → α} (found : l[n]? = some x) (same : f x = g x) : l.modify n f = l.modify n g := by
  induction l generalizing n with
  | nil => cases found
  | cons y rest ih =>
    cases n with
    | zero =>
      cases found
      simp only [List.modify_zero_cons, same]
    | succ n => simp only [List.modify_succ_cons, ih (n := n) found]

theorem getElem?_concat {x y : α} (found : (l ++ [y])[n]? = some x) : l[n]? = some x ∨ (n = l.length ∧ x = y) := by
  rcases Nat.lt_or_ge n l.length with old | new
  · rw [List.getElem?_append_left old] at found
    exact Or.inl found
  · rw [List.getElem?_append_right new] at found
    have last : n - l.length = 0 := by
      have bound := (List.getElem?_eq_some_iff.mp found).1
      simpa using bound
    rw [last] at found
    cases found
    exact Or.inr ⟨by omega, rfl⟩

end Lists

namespace Desk
variable {s : Desk} {owed : Option Nat} {now n m : Nat} {c : Call}

/-- A call that is not deferred yet is none of the accounts' calls. -/
theorem Accounts.not_mem (accounts : s.Accounts owed) (found : s.calls[n]? = some c) (early : c.stage.isLate = false) :
    n ∉ s.deferrals := by
  intro mem
  obtain ⟨c', found', late, -⟩ := accounts.open_ n mem
  rw [found] at found'
  cases found'
  rw [early] at late
  cases late

theorem pursued_setStage (found : s.calls[n]? = some c) (stage : Stage) (m : Nat) :
    (s.setStage n stage).pursued m + (if c.pursues m then 1 else 0) =
      s.pursued m + if ({ c with stage } : Call).pursues m then 1 else 0 :=
  countP_modify (p := fun x : Call => x.pursues m) (f := fun x : Call => { x with stage }) found

theorem getElem?_setStage {stage : Stage} (i : Nat) :
    (s.setStage n stage).calls[i]? = (s.calls[i]?).map fun c => if n = i then { c with stage } else c := by
  unfold setStage
  rw [List.getElem?_modify]
  rfl

/-- What is known of the deferred calls stays so where no other is deferred. -/
theorem known_setStage {stage : Stage} {deferrals : List Nat} (plain : stage.isDeferred = true → n ∈ deferrals)
    (known : ∀ (i : Nat) (c : Call), s.calls[i]? = some c → c.stage.isDeferred = true → i ∈ deferrals) :
    ∀ (i : Nat) (c : Call), (s.setStage n stage).calls[i]? = some c → c.stage.isDeferred = true → i ∈ deferrals := by
  intro i c found deferred
  rw [getElem?_setStage] at found
  cases before : s.calls[i]? with
  | none =>
    rw [before] at found
    cases found
  | some b =>
    rw [before] at found
    have moved := Option.some_inj.mp found
    dsimp only at moved
    by_cases own : n = i
    · subst own
      rw [if_pos rfl] at moved
      subst moved
      exact plain deferred
    · rw [if_neg own] at moved
      subst moved
      exact known i b before deferred

/-- Callers stay who they are. -/
theorem older_setStage {stage : Stage} (older : ∀ (i : Nat) (c : Call), s.calls[i]? = some c → ∀ n, c.caller = .flush n → n < i) :
    ∀ (i : Nat) (c : Call), (s.setStage n stage).calls[i]? = some c → ∀ n, c.caller = .flush n → n < i := by
  intro i c found m flushed
  rw [getElem?_setStage] at found
  cases before : s.calls[i]? with
  | none =>
    rw [before] at found
    cases found
  | some b =>
    rw [before] at found
    have caller : c.caller = b.caller := by
      rw [← Option.some_inj.mp found]
      split_ifs <;> rfl
    rw [caller] at flushed
    exact older i b before m flushed

/-- A call moves on to a stage of the same kind. -/
theorem Accounts.setStage {stage : Stage} (accounts : s.Accounts owed) (found : s.calls[n]? = some c)
    (pursues : ∀ m, c.caller = .flush m → stage.isEnded = c.stage.isEnded)
    (plain : stage.isDeferred = false) (late : n ∈ s.deferrals → stage.isLate = true ∧ c.stage.isDeferred = false) :
    (s.setStage n stage).Accounts owed := by
  have undeferred : stage.isDeferred = true → n ∈ s.deferrals := by
    rw [plain]
    exact nofun
  refine ⟨fun m => ?_, accounts.once, fun i mem => ?_, known_setStage undeferred accounts.known, accounts.timed,
    older_setStage accounts.older⟩
  · have counted := pursued_setStage found stage m
    have pursuing : ({ c with stage } : Call).pursues m = c.pursues m := by
      by_cases flushed : c.caller = .flush m
      · simp [Call.pursues, pursues m flushed]
      · simp [Call.pursues, flushed]
    rw [pursuing] at counted
    have same : (s.setStage n stage).pursued m = s.pursued m := Nat.add_right_cancel counted
    have before := accounts.balance m
    rw [← same] at before
    exact before
  · obtain ⟨c', found', late', deferred⟩ := accounts.open_ i mem
    rw [getElem?_setStage, found']
    by_cases own : n = i
    · subst own
      rw [found] at found'
      cases found'
      obtain ⟨stays, same⟩ := late mem
      refine ⟨{ c with stage }, by simp, stays, ?_⟩
      change stage.isDeferred = true ↔ s.answersTo n = 0
      rw [plain, ← same]
      exact deferred
    · refine ⟨c', by simp [own], late', deferred⟩

/-- A call that is none of the accounts' calls moves on, and is not on behalf of one when it ends. -/
theorem Accounts.advance {stage : Stage} (accounts : s.Accounts owed) (found : s.calls[n]? = some c)
    (early : c.stage.isLate = false) (plain : stage.isDeferred = false) (stays : stage.isEnded = true → ∀ m, c.caller ≠ .flush m) :
    (s.setStage n stage).Accounts owed := by
  refine accounts.setStage found (fun m flushed => ?_) plain fun mem => absurd mem (accounts.not_mem found early)
  have open_ : c.stage.isEnded = false := by
    cases at_ : c.stage with
    | ended =>
      rw [at_] at early
      cases early
    | _ => rfl
  rw [open_]
  exact Bool.eq_false_iff.mpr fun ended => stays ended m flushed

/-- The resolver of the owed call settles the accounts. -/
theorem Accounts.resolve {origin : Option String} {response : RpcResponse} (accounts : s.Accounts (some n)) :
    (s.resolve now n origin response).Accounts none := by
  have mem : n ∈ s.deferrals := by
    have balance := accounts.balance n
    rw [debt_self] at balance
    exact List.count_pos_iff.mp (by omega)
  obtain ⟨c, found, late, deferred⟩ := accounts.open_ n mem
  have unanswered : s.answersTo n = 0 := by
    have balance := accounts.balance n
    rw [debt_self] at balance
    have atMost := List.nodup_iff_count_le_one.mp accounts.once n
    omega
  have at_ : c.stage = .deferred := by
    have is := deferred.mpr unanswered
    cases stage : c.stage with
    | deferred => rfl
    | _ =>
      rw [stage] at is
      cases is
  have moved : (s.resolve now n origin response).calls = (s.setStage n (.returned response)).calls :=
    modify_congr found (by rw [at_])
  have told (m : Nat) : (s.resolve now n origin response).answersTo m = s.answersTo m + if m = n then 1 else 0 := by
    change (s.answers ++ [(n, response)]).countP _ = _
    rw [List.countP_append]
    congr 1
    simp [List.countP_cons, eq_comm]
  have pursued (m : Nat) : (s.resolve now n origin response).pursued m = s.pursued m := by
    have counted := pursued_setStage found (.returned response) m
    have same : ({ c with stage := .returned response } : Call).pursues m = c.pursues m := by
      unfold Call.pursues
      rw [at_]
      rfl
    rw [same] at counted
    unfold Desk.pursued at *
    rw [moved]
    exact Nat.add_right_cancel counted
  refine ⟨fun m => ?_, accounts.once, fun i member => ?_, ?_, accounts.timed, ?_⟩
  · have balance := accounts.balance m
    rw [told, pursued, debt_none]
    rw [debt_some] at balance
    change _ + s.waiting m + _ + 0 = s.deferrals.count m
    by_cases own : n = m
    · rw [if_pos own] at balance
      rw [if_pos own.symm]
      omega
    · rw [if_neg own] at balance
      rw [if_neg fun same => own same.symm]
      omega
  · obtain ⟨c', found', late', deferred'⟩ := accounts.open_ i member
    rw [moved, getElem?_setStage, found', told]
    by_cases own : n = i
    · subst own
      exact ⟨{ c' with stage := .returned response }, by simp, rfl, by simp [Stage.isDeferred]⟩
    · rw [if_neg fun same => own same.symm]
      exact ⟨c', by simp [own], late', deferred'⟩
  · rw [moved]
    exact known_setStage nofun accounts.known
  · rw [moved]
    exact older_setStage accounts.older

/-- An entry leaves the queue, and at most one timer of its id with it. -/
theorem Accounts.remove {before after : List Deferred} {req : Deferred} {timer : Nat × String} (accounts : s.Accounts none)
    (queue : s.deferredRequests = before ++ req :: after) (same : timer.2 = req.id) :
    ({ s with deferredRequests := before ++ after, timers := s.timers.erase timer } : Desk).Accounts (some req.call) := by
  refine ⟨fun m => ?_, accounts.once, accounts.open_, accounts.known, fun id => ?_, accounts.older⟩
  · have balance := accounts.balance m
    have counted : s.waiting m = (before ++ after).countP (fun req => req.call = m) + if req.call = m then 1 else 0 := by
      unfold waiting
      rw [queue, List.countP_append, List.countP_append, List.countP_cons]
      simp [add_assoc]
    change s.answersTo m + (before ++ after).countP (fun req => req.call = m) + s.pursued m + debt (some req.call) m =
      s.deferrals.count m
    rw [debt_some]
    rw [debt_none] at balance
    omega
  · have timed := accounts.timed id
    have erased := List.countP_erase (fun timer : Nat × String => decide (timer.2 = id)) s.timers timer
    have split : s.deferredRequests.countP (fun req => req.id = id) =
        (before ++ after).countP (fun req => req.id = id) + if req.id = id then 1 else 0 := by
      rw [queue, List.countP_append, List.countP_append, List.countP_cons]
      simp [add_assoc]
    change (before ++ after).countP (fun req => req.id = id) ≤ (s.timers.erase timer).countP fun timer => timer.2 = id
    rw [erased, same]
    by_cases own : req.id = id
    · simp only [own, decide_true, if_true] at split ⊢
      split_ifs <;> omega
    · simp only [own, decide_false, Bool.false_eq_true, if_false, and_false] at split ⊢
      omega

theorem Accounts.shift {req : Deferred} {rest : List Deferred} (accounts : s.Accounts none)
    (queue : s.deferredRequests = req :: rest) : (s.shift req rest).Accounts (some req.call) :=
  @Accounts.remove s [] rest req (req.call, req.id) accounts queue rfl

theorem Accounts.iterate {f : Desk → Desk} (keeps : ∀ s : Desk, s.Accounts none → (f s).Accounts none) (k : Nat)
    (accounts : s.Accounts none) : (f^[k] s).Accounts none := by
  induction k generalizing s with
  | zero => exact accounts
  | succ k ih => exact ih (keeps s accounts)

theorem Accounts.rejectAllDeferred {code : Int} {message : String} (accounts : s.Accounts none) :
    (s.rejectAllDeferred now code message).Accounts none := by
  refine Accounts.iterate (fun s accounts => ?_) _ accounts
  unfold rejectFirst
  split
  · exact accounts
  · rename_i req rest queue
    exact (accounts.shift queue).resolve

/-- A flushed call pursues the owed one. -/
theorem Accounts.pursue {id : String} {payload : EIP1193Request} {origin : Option String} (accounts : s.Accounts (some n)) :
    ({ s with calls := s.calls ++ [⟨.flush n, id, payload, origin, .permission⟩] } : Desk).Accounts none := by
  have mem : n ∈ s.deferrals := by
    have balance := accounts.balance n
    rw [debt_self] at balance
    exact List.count_pos_iff.mp (by omega)
  have below : n < s.calls.length := by
    obtain ⟨c, found, -⟩ := accounts.open_ n mem
    exact (List.getElem?_eq_some_iff.mp found).1
  refine ⟨fun m => ?_, accounts.once, fun i member => ?_, fun i c found deferred => ?_, accounts.timed, fun i c found m flushed => ?_⟩
  · have balance := accounts.balance m
    have counted : (s.calls ++ [Call.mk (.flush n) id payload origin .permission]).countP (fun c : Call => c.pursues m) =
        s.pursued m + debt (some n) m := by
      rw [List.countP_append, debt_some]
      congr 1
      simp [Call.pursues, Stage.isEnded]
    change s.answersTo m + s.waiting m + (s.calls ++ [_]).countP _ + 0 = s.deferrals.count m
    rw [counted]
    omega
  · obtain ⟨c, found, rest⟩ := accounts.open_ i member
    exact ⟨c, (List.getElem?_append_left (List.getElem?_eq_some_iff.mp found).1).trans found, rest⟩
  · rcases getElem?_concat found with old | ⟨rfl, rfl⟩
    · exact accounts.known i c old deferred
    · cases deferred
  · rcases getElem?_concat found with old | ⟨rfl, rfl⟩
    · exact accounts.older i c old m flushed
    · cases flushed
      exact below

theorem Accounts.flushDeferredRequests (accounts : s.Accounts none) : s.flushDeferredRequests.Accounts none := by
  refine Accounts.iterate (fun s accounts => ?_) _ accounts
  unfold flushFirst
  split
  · exact accounts
  · rename_i req rest queue
    exact (accounts.shift queue).pursue

theorem Accounts.timeout {timer : Nat × String} (accounts : s.Accounts none) : (s.timeout now timer).Accounts none := by
  unfold Desk.timeout
  split_ifs with armed
  · dsimp only
    split
    · rename_i idle
      refine ⟨accounts.balance, accounts.once, accounts.open_, accounts.known, fun id => ?_, accounts.older⟩
      have timed := accounts.timed id
      have erased := List.countP_erase (fun timer : Nat × String => decide (timer.2 = id)) s.timers timer
      change _ ≤ (s.timers.erase timer).countP fun timer => timer.2 = id
      rw [erased]
      by_cases own : timer.2 = id
      · have none_ : s.deferredRequests.countP (fun req => req.id = id) = 0 := by
          refine List.countP_eq_zero.mpr fun req mem => ?_
          have other := List.find?_eq_none.mp idle req mem
          simpa [own] using other
        rw [none_]
        exact Nat.zero_le _
      · simp only [own, decide_false, Bool.false_eq_true, and_false, if_false]
        omega
    · rename_i req found
      obtain ⟨named, before, after, queue, others⟩ := List.find?_eq_some_iff_append.mp found
      have same : timer.2 = req.id := by simpa using (beq_iff_eq.mp named).symm
      have cut : s.deferredRequests.eraseP (·.id == timer.2) = before ++ after := by
        rw [queue, List.eraseP_append_right _ (by simpa using others), List.eraseP_cons_of_pos (p := fun req : Deferred => req.id == timer.2) named]
      rw [cut]
      exact (accounts.remove queue same).resolve
  · exact accounts

/-- A call is deferred. -/
theorem Accounts.addDeferredRequest (accounts : s.Accounts none) (found : s.calls[n]? = some c) (early : c.stage.isLate = false) :
    (s.addDeferredRequest n c).Accounts none := by
  have fresh := accounts.not_mem found early
  have untouched := accounts.balance n
  rw [List.count_eq_zero.mpr fresh] at untouched
  have open_ : c.stage.isEnded = false := by
    cases at_ : c.stage with
    | ended =>
      rw [at_] at early
      cases early
    | _ => rfl
  have pursued (m : Nat) : (s.setStage n .deferred).pursued m = s.pursued m := by
    have counted := pursued_setStage found .deferred m
    have same : ({ c with stage := .deferred } : Call).pursues m = c.pursues m := by
      unfold Call.pursues
      rw [open_]
      rfl
    rw [same] at counted
    exact Nat.add_right_cancel counted
  have listed : ∀ (i : Nat) (c : Call), s.calls[i]? = some c → c.stage.isDeferred = true → i ∈ s.deferrals ++ [n] :=
    fun i c found deferred => List.mem_append_left _ (accounts.known i c found deferred)
  refine ⟨fun m => ?_, ?_, fun i mem => ?_, known_setStage (fun _ => List.mem_append_right _ (List.mem_singleton_self n)) listed,
    fun id => ?_, older_setStage accounts.older⟩
  · have balance := accounts.balance m
    change s.answersTo m + (s.deferredRequests ++ [Deferred.mk c.id c.payload c.origin n]).countP (fun req => req.call = m) +
      (s.setStage n .deferred).pursued m + 0 = (s.deferrals ++ [n]).count m
    rw [pursued, List.countP_append, List.count_append, ← balance, List.count_singleton]
    have one : [Deferred.mk c.id c.payload c.origin n].countP (fun req => req.call = m) = if n == m then 1 else 0 := by
      simp
    rw [one]
    change _ + (s.waiting m + _) + _ + 0 = _
    rw [debt_none]
    omega
  · exact List.Nodup.append accounts.once (List.nodup_singleton n) (by simpa using fresh)
  · change ∃ c', (s.setStage n .deferred).calls[i]? = some c' ∧ c'.stage.isLate = true ∧
      (c'.stage.isDeferred = true ↔ s.answersTo i = 0)
    rw [getElem?_setStage]
    rcases List.mem_append.mp mem with old | new
    · have other : n ≠ i := by
        rintro rfl
        exact fresh old
      obtain ⟨c', found', rest⟩ := accounts.open_ i old
      exact ⟨c', by simp [found', other], rest⟩
    · have own : i = n := List.mem_singleton.mp new
      subst own
      refine ⟨{ c with stage := .deferred }, by simp [found], rfl, iff_of_true rfl ?_⟩
      omega
  · have timed := accounts.timed id
    change (s.deferredRequests ++ [Deferred.mk c.id c.payload c.origin n]).countP (fun req => req.id = id) ≤
      (s.timers ++ [(n, c.id)]).countP fun timer => timer.2 = id
    rw [List.countP_append, List.countP_append]
    simpa [List.countP_cons] using timed

/-- A flushed call hands its response over. -/
theorem Accounts.finish {response : RpcResponse} (accounts : s.Accounts none) (found : s.calls[n]? = some c)
    (at_ : c.stage = .returned response) (caller : c.caller = .flush m) : (s.setStage n .ended).Accounts (some m) := by
  refine ⟨fun k => ?_, accounts.once, fun i mem => ?_, known_setStage nofun accounts.known, accounts.timed,
    older_setStage accounts.older⟩
  · have balance := accounts.balance k
    have counted := pursued_setStage found .ended k
    have finished : ({ c with stage := .ended } : Call).pursues k = false := by simp [Call.pursues, Stage.isEnded]
    have own : c.pursues k = decide (m = k) := by simp [Call.pursues, caller, at_, Stage.isEnded]
    rw [finished, own] at counted
    change s.answersTo k + s.waiting k + (s.setStage n .ended).pursued k + debt (some m) k = s.deferrals.count k
    rw [debt_some]
    rw [debt_none] at balance
    simp only [decide_eq_true_eq, Bool.false_eq_true, if_false] at counted
    omega
  · obtain ⟨c', found', late, deferred⟩ := accounts.open_ i mem
    rw [getElem?_setStage, found']
    by_cases own : n = i
    · subst own
      rw [found] at found'
      cases found'
      refine ⟨{ c with stage := .ended }, by simp, rfl, ?_⟩
      rw [at_] at deferred
      exact deferred
    · exact ⟨c', by simp [own], late, deferred⟩

/-! ### Turns -/

/-- The session, the flag and what is known of the wallet have no part in the accounts. -/
theorem Accounts.congr {t : Desk} (accounts : s.Accounts owed) (answers : t.answers = s.answers)
    (queue : t.deferredRequests = s.deferredRequests) (calls : t.calls = s.calls) (deferrals : t.deferrals = s.deferrals)
    (timers : t.timers = s.timers) : t.Accounts owed := by
  obtain ⟨balance, once, open_, known, timed, older⟩ := accounts
  unfold answersTo waiting pursued at balance
  unfold answersTo at open_
  refine ⟨?_, ?_, ?_, ?_, ?_, ?_⟩
  · unfold answersTo waiting pursued
    rw [answers, queue, calls, deferrals]
    exact balance
  · rw [deferrals]
    exact once
  · unfold answersTo
    rw [answers, calls, deferrals]
    exact open_
  · rw [calls, deferrals]
    exact known
  · rw [queue, timers]
    exact timed
  · rw [calls]
    exact older

theorem Accounts.setPhase {phase : Phase} (accounts : s.Accounts none) : (s.setPhase now phase).Accounts none := by
  unfold Desk.setPhase
  split
  · exact accounts
  · rename_i object before session
    split_ifs
    · exact accounts
    · cases phase with
      | connected =>
        exact Accounts.flushDeferredRequests (s := { s with session := some (object, .connected), pairingInProgress := false })
          (accounts.congr rfl rfl rfl rfl rfl)
      | closed =>
        exact Accounts.rejectAllDeferred
          (s := { s with session := some (object, .closed), pairingInProgress := false, known := {} })
          (accounts.congr rfl rfl rfl rfl rfl)
      | _ => exact accounts.congr rfl rfl rfl rfl rfl

/-- Showing a pairing leaves the calls alone. -/
theorem setPhase_waiting_calls : (s.setPhase now .waiting).calls = s.calls := by
  unfold Desk.setPhase
  split
  · rfl
  · split_ifs <;> rfl

end Desk

/-- The turn ends a call with an exception. -/
def Desk.throws (toLowerCase : String → String) (s : Desk) (turn : Nat × Label) (c : Call) (n : Nat) : Bool :=
  match turn.2, c.stage with
  | .permission call ok, .permission => call = n && (!ok ||
    match handleRpcRequest toLowerCase s.known (s.session.map (·.2)) s.pairingInProgress (permits s.permissions c.origin) c.payload with
    | .threw _ => true
    | _ => false)
  | .settings call outcome, .settings => call = n && outcome ≠ .done
  | .connect call outcome, .connecting _ => call = n && outcome ≠ .done
  | _, _ => false

def Call.flushed (c : Call) : Bool :=
  match c.caller with
  | .flush _ => true
  | _ => false

/-- No call that a flush made ends with an exception. -/
def Desk.Answers (toLowerCase : String → String) (s : Desk) (turn : Nat × Label) : Prop :=
  ∀ p ∈ s.calls.zipIdx, p.1.flushed = true → s.throws toLowerCase turn p.1 p.2 = false

instance (toLowerCase : String → String) (s : Desk) (turn : Nat × Label) : Decidable (s.Answers toLowerCase turn) :=
  inferInstanceAs (Decidable (∀ p ∈ s.calls.zipIdx, _))

theorem Desk.Answers.quiet {toLowerCase : String → String} {s : Desk} {turn : Nat × Label} {n : Nat} {c : Call}
    (answers : s.Answers toLowerCase turn) (found : s.calls[n]? = some c) (flushed : ∃ m, c.caller = .flush m) :
    s.throws toLowerCase turn c n = false := by
  refine answers (c, n) (List.mk_mem_zipIdx_iff_getElem?.mpr found) ?_
  obtain ⟨m, caller⟩ := flushed
  unfold Call.flushed
  rw [caller]

namespace Desk
variable {s : Desk} {now n : Nat} {c : Call} {toLowerCase : String → String}

theorem Accounts.handle (accounts : s.Accounts none) (found : s.calls[n]? = some c) (at_ : c.stage = .permission)
    (answers : (∃ m, c.caller = .flush m) → s.throws toLowerCase (now, .permission n true) c n = false) :
    (s.handle toLowerCase n c).Accounts none := by
  have early : c.stage.isLate = false := by rw [at_]; rfl
  unfold Desk.handle
  split
  · exact accounts.advance found early rfl nofun
  · rename_i message turn
    refine accounts.advance found early rfl fun _ m flushed => ?_
    have quiet := answers ⟨m, flushed⟩
    unfold throws at quiet
    rw [at_, turn] at quiet
    simp at quiet
  · exact Accounts.advance (s := { s with pairingInProgress := true }) (accounts.congr rfl rfl rfl rfl rfl) found early rfl nofun
  · exact accounts.addDeferredRequest found early
  · exact accounts.advance found early rfl nofun
  · exact accounts.advance found early rfl nofun

theorem Accounts.createSession {outcome : Outcome} (accounts : s.Accounts none) (found : s.calls[n]? = some c)
    (at_ : c.stage = .settings) (answers : (∃ m, c.caller = .flush m) → outcome = .done) :
    (s.createSession now n outcome).Accounts none := by
  have early : c.stage.isLate = false := by rw [at_]; rfl
  cases outcome with
  | refused => exact accounts.advance found early rfl fun _ m flushed => nomatch answers ⟨m, flushed⟩
  | broken =>
    have ended : (s.setStage n .ended).Accounts none :=
      accounts.advance found early rfl fun _ m flushed => nomatch answers ⟨m, flushed⟩
    exact Accounts.congr ended.setPhase rfl rfl rfl rfl rfl
  | done =>
    have moved : (s.setStage n (.connecting s.objects)).Accounts none := accounts.advance found early rfl nofun
    exact Accounts.congr moved.setPhase rfl rfl rfl rfl rfl

theorem Accounts.connectTransport {object : Nat} {outcome : Outcome} (accounts : s.Accounts none) (found : s.calls[n]? = some c)
    (at_ : c.stage = .connecting object) (answers : (∃ m, c.caller = .flush m) → outcome = .done) :
    (s.connectTransport now n object c outcome).Accounts none := by
  have early : c.stage.isLate = false := by rw [at_]; rfl
  have shows (t : Desk) (fine : t.Accounts none) (same : t.calls = s.calls) : (outcome = .broken → (t.setStage n .ended).Accounts none) ∧
      (t.created n c).Accounts none := by
    have here : t.calls[n]? = some c := by rw [same, found]
    refine ⟨fun broken => fine.advance here early rfl fun _ m flushed => ?_, ?_⟩
    · rw [broken] at answers
      cases answers ⟨m, flushed⟩
    · unfold created
      split
      · rename_i popup
        exact fine.advance here early rfl fun _ m flushed => by rw [popup] at flushed; cases flushed
      · exact fine.addDeferredRequest here early
  unfold Desk.connectTransport
  cases outcome with
  | refused => exact accounts.advance found early rfl fun _ m flushed => nomatch answers ⟨m, flushed⟩
  | broken =>
    dsimp only
    split_ifs
    · exact (shows _ accounts.setPhase setPhase_waiting_calls).1 rfl
    · exact (shows _ accounts rfl).1 rfl
  | done =>
    dsimp only
    split_ifs
    · exact (shows _ accounts.setPhase setPhase_waiting_calls).2
    · exact (shows _ accounts rfl).2

/-- A new call is not on behalf of another. -/
theorem Accounts.enter (accounts : s.Accounts none) (plain : c.stage.isDeferred = false) (caller : ∀ m, c.caller ≠ .flush m) :
    ({ s with calls := s.calls ++ [c] } : Desk).Accounts none := by
  refine ⟨fun m => ?_, accounts.once, fun i member => ?_, fun i c' found deferred => ?_, accounts.timed, fun i c' found m flushed => ?_⟩
  · have counted : (s.calls ++ [c]).countP (fun c : Call => c.pursues m) = s.pursued m := by
      rw [List.countP_append]
      simp [Call.pursues, caller m, pursued]
    change s.answersTo m + s.waiting m + (s.calls ++ [c]).countP _ + 0 = s.deferrals.count m
    rw [counted]
    exact accounts.balance m
  · obtain ⟨c', found, rest⟩ := accounts.open_ i member
    exact ⟨c', (List.getElem?_append_left (List.getElem?_eq_some_iff.mp found).1).trans found, rest⟩
  · rcases getElem?_concat found with old | ⟨rfl, rfl⟩
    · exact accounts.known i c' old deferred
    · rw [plain] at deferred
      cases deferred
  · rcases getElem?_concat found with old | ⟨rfl, rfl⟩
    · exact accounts.older i c' old m flushed
    · exact absurd flushed (caller m)

end Desk

/-- One turn keeps the accounts. -/
theorem step_accounts (toLowerCase : String → String) (s : Desk) (turn : Nat × Label) (answers : s.Answers toLowerCase turn)
    (accounts : s.Accounts none) : (step toLowerCase s turn).Accounts none := by
  obtain ⟨now, label⟩ := turn
  generalize after : step toLowerCase s (now, label) = t
  have stepped : Stepped toLowerCase s now label t := after ▸ step_stepped toLowerCase s now label
  clear after
  have early {c : Call} {stage : Stage} (at_ : c.stage = stage) (before : stage.isLate = false) : c.stage.isLate = false := by
    rw [at_]
    exact before
  cases stepped with
  | stays => exact accounts
  | request id payload origin => exact accounts.enter rfl nofun
  | startPairing => exact accounts.enter rfl nofun
  | handles found at_ => exact accounts.handle found at_ (answers.quiet found)
  | unread found at_ =>
    refine accounts.advance found (early at_ rfl) rfl fun _ m flushed => ?_
    have quiet := answers.quiet found ⟨m, flushed⟩
    simp [Desk.throws, at_] at quiet
  | creates outcome found at_ =>
    refine accounts.createSession found at_ fun flushed => ?_
    have quiet := answers.quiet found flushed
    simpa [Desk.throws, at_] using quiet
  | connects outcome found at_ =>
    refine accounts.connectTransport found at_ fun flushed => ?_
    have quiet := answers.quiet found flushed
    simpa [Desk.throws, at_] using quiet
  | proxied answer found at_ => exact accounts.advance found (early at_ rfl) rfl nofun
  | relayed answer found at_ =>
    exact Desk.Accounts.advance (s := { s with permissions := _ }) (accounts.congr rfl rfl rfl rfl rfl) found (early at_ rfl) rfl nofun
  | replies found at_ caller =>
    refine Desk.Accounts.setStage (s := { s with replies := _ }) (accounts.congr rfl rfl rfl rfl rfl) found (fun m flushed => ?_) rfl
      fun _ => ?_
    · rw [caller] at flushed
      cases flushed
    · rw [at_]
      exact ⟨rfl, rfl⟩
  | hands found at_ caller => exact (accounts.finish found at_ caller).resolve
  | drops found at_ caller =>
    refine accounts.setStage found (fun m flushed => ?_) rfl fun _ => ?_
    · rw [caller] at flushed
      cases flushed
    · rw [at_]
      exact ⟨rfl, rfl⟩
  | timeout timer => exact accounts.timeout
  | phase started => exact accounts.setPhase
  | rejectWallet => exact accounts.rejectAllDeferred
  | disconnect =>
    exact Desk.Accounts.rejectAllDeferred (s := { s with session := none, pairingInProgress := false, known := {} })
      (accounts.congr rfl rfl rfl rfl rfl)
  | restored => exact Desk.Accounts.setPhase (s := s.newSession) (accounts.congr rfl rfl rfl rfl rfl)
  | unrestored => exact accounts.congr rfl rfl rfl rfl rfl
  | learn known => exact accounts.congr rfl rfl rfl rfl rfl
  | revoke origin => exact accounts.congr rfl rfl rfl rfl rfl

/-! ### What the accounts say -/

namespace Desk
variable {s : Desk} {n : Nat}

/-- No timer is armed, and every call has ended or is deferred. -/
def Drained (s : Desk) : Prop := s.timers = [] ∧ ∀ c ∈ s.calls, c.stage.isEnded = true ∨ c.stage.isDeferred = true

/-- What is armed for the queue. -/
theorem Accounts.armed (accounts : s.Accounts none) {req : Deferred} (mem : req ∈ s.deferredRequests) :
    ∃ timer ∈ s.timers, timer.2 = req.id := by
  have timed := accounts.timed req.id
  have entered : 0 < s.deferredRequests.countP (fun other => other.id = req.id) :=
    List.countP_pos_iff.mpr ⟨req, mem, by simp⟩
  obtain ⟨timer, armed, named⟩ := List.countP_pos_iff.mp (Nat.lt_of_lt_of_le entered timed)
  exact ⟨timer, armed, by simpa using named⟩

/-- When nothing goes on any more, every deferred request was answered. The induction goes down
from the last call, since a flushed call is younger than the one it pursues. -/
theorem Accounts.answered (accounts : s.Accounts none) (drained : s.Drained) (mem : n ∈ s.deferrals) : s.answersTo n = 1 := by
  have all : ∀ k n, s.calls.length - n ≤ k → n ∈ s.deferrals → s.answersTo n = 1 := by
    intro k
    induction k with
    | zero =>
      intro n bound mem
      obtain ⟨c, found, -⟩ := accounts.open_ n mem
      have below := (List.getElem?_eq_some_iff.mp found).1
      omega
    | succ k ih =>
      intro n bound mem
      have balance := accounts.balance n
      rw [debt_none, List.count_eq_one_of_mem accounts.once mem] at balance
      have queue : s.waiting n = 0 := by
        refine List.countP_eq_zero.mpr fun req mem => ?_
        obtain ⟨timer, armed, -⟩ := accounts.armed mem
        rw [drained.1] at armed
        cases armed
      have none_ : s.pursued n = 0 := by
        refine List.countP_eq_zero.mpr fun c mem' pursues => ?_
        obtain ⟨i, found⟩ := List.mem_iff_getElem?.mp mem'
        simp only [Call.pursues, Bool.and_eq_true, decide_eq_true_eq, Bool.not_eq_true'] at pursues
        have younger := accounts.older i c found n pursues.1
        have below := (List.getElem?_eq_some_iff.mp found).1
        have deferred : c.stage.isDeferred = true := by
          rcases drained.2 c mem' with ended | deferred
          · rw [pursues.2] at ended
            cases ended
          · exact deferred
        have own := accounts.known i c found deferred
        obtain ⟨c', found', -, unanswered⟩ := accounts.open_ i own
        rw [found] at found'
        cases found'
        have none_ := unanswered.mp deferred
        have one := ih i (by omega) own
        omega
      omega
  exact all _ n (Nat.le_refl _) mem

end Desk

end WalletPair.Extension.Rpc
