import Mathlib.Data.List.Dedup
import Mathlib.Data.List.DropRight

/-! What a bounded cache keeps when it makes room for what was used last: the most recently
used of everything that was ever used. -/

namespace WalletPair.Lib

variable {α : Type}

theorem length_rtake (limit : Nat) (items : List α) : (items.rtake limit).length = min limit items.length := by
  unfold List.rtake
  rw [List.length_drop]
  omega

/-- Only the end of a list matters to what is taken from its end. -/
theorem rtake_append {limit : Nat} {last : List α} (enough : limit ≤ last.length) (first : List α) :
    (first ++ last).rtake limit = last.rtake limit := by
  unfold List.rtake
  have skipped : (first ++ last).length - limit = first.length + (last.length - limit) := by
    rw [List.length_append]
    omega
  rw [skipped, List.drop_append, List.drop_eq_nil_of_le (by omega), List.nil_append]
  congr 1
  omega

theorem rtake_of_le {limit : Nat} {items : List α} (short : items.length ≤ limit) : items.rtake limit = items := by
  unfold List.rtake
  rw [Nat.sub_eq_zero_of_le short, List.drop_zero]

variable [DecidableEq α]

/-- The latest `limit` different items of a history of uses, the latest one last. -/
def mostRecent (limit : Nat) (uses : List α) : List α := uses.dedup.rtake limit

theorem dedup_concat (uses : List α) (a : α) : (uses ++ [a]).dedup = uses.dedup.erase a ++ [a] := by
  induction uses with
  | nil => simp
  | cons b rest ih =>
    rw [List.cons_append]
    by_cases again : b ∈ rest
    · rw [List.dedup_cons_of_mem (List.mem_append_left _ again), List.dedup_cons_of_mem again, ih]
    · by_cases same : b = a
      · subst same
        have absent : b ∉ rest.dedup := by rwa [List.mem_dedup]
        rw [List.dedup_cons_of_mem (by simp), ih, List.dedup_cons_of_notMem again, List.erase_cons_head,
          List.erase_of_not_mem absent]
      · have apart : b ∉ rest ++ [a] := by simp [again, same]
        rw [List.dedup_cons_of_notMem apart, List.dedup_cons_of_notMem again, ih,
          List.erase_cons_tail (by simpa using same), List.cons_append]

/-- Forgetting an item before or after the oldest ones are dropped. -/
theorem rtake_erase {limit : Nat} {items : List α} (nodup : items.Nodup) (a : α) :
    (items.erase a).rtake limit = ((items.rtake (limit + 1)).erase a).rtake limit := by
  by_cases short : items.length ≤ limit + 1
  · rw [rtake_of_le short]
  · have full : (items.rtake (limit + 1)).length = limit + 1 := by
      rw [length_rtake]
      omega
    obtain ⟨first, split⟩ : ∃ first, items = first ++ items.rtake (limit + 1) :=
      ⟨items.take (items.length - (limit + 1)), (List.take_append_drop _ _).symm⟩
    generalize items.rtake (limit + 1) = last at full split ⊢
    rw [split] at nodup ⊢
    by_cases old : a ∈ first
    · have gone : a ∉ last := fun present => (List.nodup_append.mp nodup).2.2 a old a present rfl
      rw [List.erase_append_left _ old, List.erase_of_not_mem gone, rtake_append (by omega)]
    · have enough : limit ≤ (last.erase a).length := by
        have most := List.length_erase_le (a := a) (l := last)
        by_cases present : a ∈ last
        · rw [List.length_erase_of_mem present]
          omega
        · rw [List.erase_of_not_mem present]
          omega
      rw [List.erase_append_right _ old, rtake_append enough]

/-- A use moves the item to the end, and pushes the oldest one out when there is no room. -/
theorem mostRecent_concat {limit : Nat} (room : 0 < limit) (uses : List α) (a : α) :
    mostRecent limit (uses ++ [a]) = ((mostRecent limit uses).erase a ++ [a]).rtake limit := by
  obtain ⟨n, rfl⟩ : ∃ n, limit = n + 1 := ⟨limit - 1, by omega⟩
  unfold mostRecent
  rw [dedup_concat, List.rtake_concat_succ, List.rtake_concat_succ, rtake_erase (List.nodup_dedup uses) a]

theorem length_mostRecent_le (limit : Nat) (uses : List α) : (mostRecent limit uses).length ≤ limit := by
  unfold mostRecent
  rw [length_rtake]
  exact Nat.min_le_left _ _

theorem nodup_mostRecent (limit : Nat) (uses : List α) : (mostRecent limit uses).Nodup :=
  (List.nodup_dedup uses).sublist (List.drop_sublist _ _)

/-- Using the latest item again changes nothing. -/
theorem mostRecent_again {limit : Nat} (room : 0 < limit) {uses : List α} {a : α}
    (latest : (mostRecent limit uses).getLast? = some a) : mostRecent limit (uses ++ [a]) = mostRecent limit uses := by
  rw [mostRecent_concat room]
  have nodup := nodup_mostRecent limit uses
  have short := length_mostRecent_le limit uses
  obtain ⟨front, split⟩ : ∃ front, mostRecent limit uses = front ++ [a] := by
    obtain ⟨front, split⟩ := List.getLast?_eq_some_iff.mp latest
    exact ⟨front, split⟩
  rw [split] at nodup short ⊢
  have absent : a ∉ front := fun present => (List.nodup_append.mp nodup).2.2 a present a (by simp) rfl
  rw [List.erase_append_right _ absent, List.erase_cons_head, List.append_nil, rtake_of_le short]

end WalletPair.Lib
