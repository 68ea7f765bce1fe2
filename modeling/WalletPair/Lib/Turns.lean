import WalletPair.Lib.Ledger

/-! Numbers that are used in the order they were handed out. A number waits in the
journal, is used, and the result is passed on or dropped; as long as each number that
stops waiting is the least one, what is passed on ascends. -/

namespace WalletPair.Lib

/-- The used numbers ascend into the held ones, and what was passed on is a part of the used. -/
structure Ordered (next : Nat) (held used passed : List Nat) : Prop where
  ascending : (used ++ held).Pairwise (· < ·)
  below : ∀ n ∈ used ++ held, n < next
  part : passed.Sublist used

/-- The number can be used next. -/
structure Turn (next : Nat) (held used : List Nat) (n : Nat) : Prop where
  lt : n < next
  after : ∀ m ∈ used, m < n
  before : ∀ m ∈ held, n < m

/-- The number was used last and is not passed on yet. -/
def Last (used passed : List Nat) (n : Nat) : Prop := ∃ earlier, used = earlier ++ [n] ∧ passed.Sublist earlier

namespace Ordered
variable {next n : Nat} {held used passed : List Nat}

theorem start (next : Nat) : Ordered next [] [] [] := ⟨by simp, by simp, by simp⟩

theorem passed_ascending (h : Ordered next held used passed) : passed.Pairwise (· < ·) :=
  (List.pairwise_append.mp h.ascending).1.sublist h.part

theorem held_nodup (h : Ordered next held used passed) : held.Nodup :=
  (List.pairwise_append.mp h.ascending).2.1.imp fun lt => Nat.ne_of_lt lt

theorem raise (h : Ordered next held used passed) : Ordered (next + 1) held used passed :=
  ⟨h.ascending, fun n mem => (h.below n mem).trans (Nat.lt_succ_self next), h.part⟩

/-- Handing out the next number, to wait. -/
theorem hold (h : Ordered next held used passed) : Ordered (next + 1) (held ++ [next]) used passed := by
  refine ⟨?_, ?_, h.part⟩
  · rw [← List.append_assoc, List.pairwise_append]
    refine ⟨h.ascending, List.pairwise_singleton _ _, fun n mem m last => ?_⟩
    rw [List.mem_singleton.mp last]
    exact h.below n mem
  · intro n mem
    rw [← List.append_assoc] at mem
    rcases List.mem_append.mp mem with old | new
    · exact (h.below n old).trans (Nat.lt_succ_self next)
    · rw [List.mem_singleton.mp new]
      exact Nat.lt_succ_self next

theorem sublist {fewer : List Nat} (h : Ordered next held used passed) (less : fewer.Sublist held) :
    Ordered next fewer used passed := by
  have both : (used ++ fewer).Sublist (used ++ held) := List.Sublist.append (List.Sublist.refl used) less
  exact ⟨h.ascending.sublist both, fun n mem => h.below n (both.subset mem), h.part⟩

theorem use (h : Ordered next held used passed) (turn : Turn next held used n) :
    Ordered next held (used ++ [n]) passed ∧ Last (used ++ [n]) passed n := by
  obtain ⟨ascending, waiting, across⟩ := List.pairwise_append.mp h.ascending
  refine ⟨⟨?_, ?_, h.part.trans (List.sublist_append_left _ _)⟩, used, rfl, h.part⟩
  · rw [List.append_assoc, List.singleton_append, List.pairwise_append]
    refine ⟨ascending, List.pairwise_cons.mpr ⟨turn.before, waiting⟩, fun m old k mem => ?_⟩
    rcases List.mem_cons.mp mem with rfl | later
    · exact turn.after m old
    · exact across m old k later
  · intro m mem
    rw [List.append_assoc, List.singleton_append] at mem
    rcases List.mem_append.mp mem with old | new
    · exact h.below m (List.mem_append_left _ old)
    · rcases List.mem_cons.mp new with rfl | later
      · exact turn.lt
      · exact h.below m (List.mem_append_right _ later)

theorem pass (h : Ordered next held used passed) (last : Last used passed n) :
    Ordered next held used (passed ++ [n]) := by
  obtain ⟨earlier, rfl, part⟩ := last
  exact ⟨h.ascending, h.below, List.Sublist.append part (List.Sublist.refl [n])⟩

/-- The least of the waiting numbers has its turn when its continuation is taken out. -/
theorem turn_remove {Snap Task : Type} {reserves : Task → Option Nat} {j : Journal Snap Task} {ticket : Nat}
    {c : Call Snap Task} (h : Ordered next (j.held reserves) used passed) (found : j.find ticket = some c)
    (holds : reserves c.task = some n) (least : ∀ m ∈ j.held reserves, n ≤ m) :
    Turn next ((j.remove ticket).held reserves) used n := by
  have waiting : n ∈ j.held reserves := Journal.mem_held (Journal.mem_of_find found).1 holds
  obtain ⟨-, -, across⟩ := List.pairwise_append.mp h.ascending
  refine ⟨h.below n (List.mem_append_right _ waiting), fun m old => across m old n waiting, fun m mem => ?_⟩
  have low : n ≤ m := least m ((Journal.held_remove ticket).subset mem)
  refine Nat.lt_of_le_of_ne low ?_
  rintro rfl
  exact Journal.not_held_remove found holds h.held_nodup mem

end Ordered

/-! ### A receiver that only goes forward -/

/-- What is taken of the numbers that arrive in this order when each must lie above the last one taken. -/
def takeAbove (last : Int) : List Nat → List Nat
  | [] => []
  | n :: rest => if (n : Int) ≤ last then takeAbove last rest else n :: takeAbove n rest

theorem takeAbove_ascending {last : Int} {numbers : List Nat} (ascending : numbers.Pairwise (· < ·))
    (above : ∀ n ∈ numbers, last < n) : takeAbove last numbers = numbers := by
  induction numbers generalizing last with
  | nil => rfl
  | cons n rest ih =>
    obtain ⟨later, ascending⟩ := List.pairwise_cons.mp ascending
    have high : ¬ (n : Int) ≤ last := by
      have := above n (by simp)
      omega
    have tail : takeAbove n rest = rest := by
      apply ih ascending
      intro m mem
      have := later m mem
      omega
    rw [takeAbove, if_neg high, tail]

end WalletPair.Lib
