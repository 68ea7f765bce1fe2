import WalletPair.Lib.Ledger
import WalletPair.Lib.OrderedMap
import Mathlib.Data.List.Perm.Subperm

/-! A bounded number of slots. Every item that is still open has a slot; items move between
the places that hold slots, and a slot is freed only when its item is closed. -/

namespace WalletPair.Lib

/-- Every open item is in a slot, and there are not too many slots. -/
structure Slotted (cap : Nat) (isOpen : Nat → Prop) (slots : List Nat) : Prop where
  room : slots.length ≤ cap
  covered : ∀ n, isOpen n → n ∈ slots

namespace Slotted
variable {cap n : Nat} {isOpen : Nat → Prop} {slots : List Nat}

theorem empty (closed : ∀ n, ¬ isOpen n) : Slotted cap isOpen [] :=
  ⟨Nat.zero_le cap, fun n still => absurd still (closed n)⟩

/-- Slots may be handed around. -/
theorem perm {others : List Nat} (h : Slotted cap isOpen slots) (same : slots.Perm others) : Slotted cap isOpen others :=
  ⟨same.length_eq ▸ h.room, fun n still => same.mem_iff.mp (h.covered n still)⟩

theorem mono {fewer : Nat → Prop} (h : Slotted cap isOpen slots) (part : ∀ n, fewer n → isOpen n) :
    Slotted cap fewer slots := ⟨h.room, fun n still => h.covered n (part n still)⟩

/-- An item that has a slot may become open. -/
theorem opened {more : Nat → Prop} (h : Slotted cap isOpen slots) (new : ∀ n, more n → isOpen n ∨ n ∈ slots) :
    Slotted cap more slots := by
  refine ⟨h.room, fun n still => ?_⟩
  rcases new n still with old | mem
  · exact h.covered n old
  · exact mem

/-- The slots of closed items are free. -/
theorem free {closed : List Nat} (h : Slotted cap isOpen (closed ++ slots)) (done : ∀ n ∈ closed, ¬ isOpen n) :
    Slotted cap isOpen slots := by
  refine ⟨?_, fun n still => ?_⟩
  · have room := h.room
    rw [List.length_append] at room
    omega
  · rcases List.mem_append.mp (h.covered n still) with gone | kept
    · exact absurd still (done n gone)
    · exact kept

theorem claim (h : Slotted cap isOpen slots) (room : slots.length < cap) (n : Nat) : Slotted cap isOpen (n :: slots) :=
  ⟨room, fun m still => List.mem_cons_of_mem n (h.covered m still)⟩

/-- Distinct open items are at most as many as there can be slots. -/
theorem count {items : List Nat} (h : Slotted cap isOpen slots) (nodup : items.Nodup)
    (held : ∀ n ∈ items, isOpen n ∨ n ∈ slots) : items.length ≤ cap := by
  have inside : items ⊆ slots := by
    intro n mem
    rcases held n mem with still | slot
    · exact h.covered n still
    · exact slot
  exact (nodup.subperm inside).length_le.trans h.room

end Slotted

/-! ### Places that hold slots -/

namespace OrderedMap
variable {α : Type} {m : OrderedMap α} {k : String} {v : α}

theorem values_set_new (fresh : m.get k = none) : (m.set k v).values = m.values ++ [v] := by
  have absent : k ∉ m.keys := get_eq_none.mp fresh
  unfold values set
  rw [dif_neg absent]
  simp

theorem values_delete (found : m.get k = some v) : m.values.Perm (v :: (m.delete k).values) := by
  have member : (k, v) ∈ m.entries := get_eq_some.mp found
  obtain ⟨before, after, entries⟩ := List.append_of_mem member
  have nodup := m.nodup
  have kept : m.entries.filter (fun e => e.1 != k) = before ++ after := by
    rw [entries] at nodup ⊢
    simp only [List.map_append, List.map_cons, List.nodup_append, List.nodup_cons, List.mem_map, List.mem_cons] at nodup
    obtain ⟨-, ⟨absentAfter, -⟩, apart⟩ := nodup
    have first : before.filter (fun e => e.1 != k) = before := by
      rw [List.filter_eq_self]
      intro e mem
      have differ : e.1 ≠ k := apart e.1 ⟨e, mem, rfl⟩ k (Or.inl rfl)
      simpa using differ
    have second : after.filter (fun e => e.1 != k) = after := by
      rw [List.filter_eq_self]
      intro e mem
      have differ : e.1 ≠ k := fun same => absentAfter ⟨e, mem, same⟩
      simpa using differ
    rw [List.filter_append, List.filter_cons_of_neg (by simp), first, second]
  unfold values delete
  simp only [kept]
  rw [entries, List.map_append, List.map_cons, List.map_append]
  exact List.perm_middle

theorem mem_values : v ∈ m.values ↔ ∃ k, m.get k = some v := by
  unfold values
  constructor
  · intro member
    obtain ⟨⟨key, value⟩, mem, rfl⟩ := List.mem_map.mp member
    exact ⟨key, get_eq_some.mpr mem⟩
  · rintro ⟨key, found⟩
    exact List.mem_map.mpr ⟨(key, v), get_eq_some.mp found, rfl⟩

end OrderedMap

/-- A call taken out of the journal takes what its continuation holds, and nothing else. -/
theorem Journal.held_remove_perm {Snap Task : Type} {reserves : Task → Option Nat} {j : Journal Snap Task} {ticket : Nat}
    {c : Call Snap Task} (found : j.find ticket = some c) (unique : j.calls.Pairwise (fun c d => c.ticket ≠ d.ticket)) :
    (j.held reserves).Perm ((reserves c.task).toList ++ (j.remove ticket).held reserves) := by
  obtain ⟨before, after, calls, kept, -⟩ := split_at found unique
  unfold held
  rw [calls, kept, List.filterMap_append, List.filterMap_append]
  cases holds : reserves c.task with
  | none => simp [holds]
  | some n => simp [holds]

end WalletPair.Lib
