import Mathlib.Data.List.Nodup
import Mathlib.Data.List.Basic

/-! A finite map that remembers insertion order: overwriting a key keeps its
place, and the first entry is the one inserted longest ago. -/

namespace WalletPair.Lib

/-- Entries in insertion order, with no key twice. -/
structure OrderedMap (α : Type) where
  entries : List (String × α)
  nodup : (entries.map Prod.fst).Nodup
  deriving DecidableEq

variable {α : Type}

namespace OrderedMap

def empty : OrderedMap α := ⟨[], List.nodup_nil⟩

instance : Inhabited (OrderedMap α) := ⟨empty⟩

def keys (m : OrderedMap α) : List String := m.entries.map Prod.fst

def size (m : OrderedMap α) : Nat := m.entries.length

def values (m : OrderedMap α) : List α := m.entries.map Prod.snd

def get (m : OrderedMap α) (k : String) : Option α :=
  (m.entries.find? (fun e => e.1 == k)).map Prod.snd

/-- The key inserted longest ago. -/
def oldest (m : OrderedMap α) : Option String := m.keys.head?

def delete (m : OrderedMap α) (k : String) : OrderedMap α :=
  ⟨m.entries.filter (fun e => e.1 != k),
    m.nodup.sublist (List.filter_sublist.map _)⟩

private theorem keys_overwrite (entries : List (String × α)) (k : String) (v : α) :
    (entries.map (fun e => if e.1 = k then (k, v) else e)).map Prod.fst = entries.map Prod.fst := by
  rw [List.map_map]
  apply List.map_congr_left
  intro e _
  by_cases h : e.1 = k <;> simp [h]

/-- Overwrites in place, or appends a new key. -/
def set (m : OrderedMap α) (k : String) (v : α) : OrderedMap α :=
  if known : k ∈ m.keys then
    ⟨m.entries.map (fun e => if e.1 = k then (k, v) else e), by
      rw [keys_overwrite]
      exact m.nodup⟩
  else
    ⟨m.entries ++ [(k, v)], by
      rw [List.map_append]
      exact List.Nodup.append m.nodup (List.nodup_singleton k) (by simpa [keys] using known)⟩

theorem get_eq_some {m : OrderedMap α} {k : String} {v : α} :
    m.get k = some v ↔ (k, v) ∈ m.entries := by
  obtain ⟨entries, nodup⟩ := m
  unfold get
  induction entries with
  | nil => simp
  | cons e rest ih =>
    obtain ⟨key, value⟩ := e
    simp only [List.map_cons, List.nodup_cons] at nodup
    by_cases same : key = k
    · subst same
      have absent : (key, v) ∉ rest := fun mem => nodup.1 (List.mem_map.mpr ⟨_, mem, rfl⟩)
      simp [absent, eq_comm]
    · have different : (key == k) = false := by simpa using same
      have tail := ih nodup.2
      simp only [List.find?_cons, different, List.mem_cons, Prod.mk.injEq]
      rw [tail]
      constructor
      · exact Or.inr
      · rintro (⟨rfl, -⟩ | mem)
        · exact absurd rfl same
        · exact mem

theorem get_eq_none {m : OrderedMap α} {k : String} : m.get k = none ↔ k ∉ m.keys := by
  constructor
  · intro missing present
    obtain ⟨⟨key, v⟩, mem, rfl⟩ := List.mem_map.mp present
    rw [show m.get key = some v from get_eq_some.mpr mem] at missing
    cases missing
  · intro absent
    cases found : m.get k with
    | none => rfl
    | some v => exact absurd (List.mem_map.mpr ⟨_, get_eq_some.mp found, rfl⟩) absent

theorem mem_keys_of_get {m : OrderedMap α} {k : String} {v : α} (h : m.get k = some v) : k ∈ m.keys :=
  List.mem_map.mpr ⟨_, get_eq_some.mp h, rfl⟩

@[simp] theorem keys_empty : (empty : OrderedMap α).keys = [] := rfl

@[simp] theorem get_empty (k : String) : (empty : OrderedMap α).get k = none := rfl

@[simp] theorem size_empty : (empty : OrderedMap α).size = 0 := rfl

theorem size_eq_keys (m : OrderedMap α) : m.size = m.keys.length := by simp [size, keys]

theorem keys_delete (m : OrderedMap α) (k : String) :
    (m.delete k).keys = m.keys.filter (fun key => key != k) := by
  simp only [delete, keys, List.filter_map]
  rfl

@[simp] theorem mem_keys_delete {m : OrderedMap α} {k key : String} :
    key ∈ (m.delete k).keys ↔ key ∈ m.keys ∧ key ≠ k := by
  simp [keys_delete, and_comm]

theorem keys_set_known {m : OrderedMap α} {k : String} {v : α} (known : k ∈ m.keys) :
    (m.set k v).keys = m.keys := by
  unfold set
  rw [dif_pos known]
  exact keys_overwrite m.entries k v

theorem keys_set_new {m : OrderedMap α} {k : String} {v : α} (fresh : k ∉ m.keys) :
    (m.set k v).keys = m.keys ++ [k] := by
  unfold set
  rw [dif_neg fresh]
  simp [keys]

theorem mem_keys_set {m : OrderedMap α} {k key : String} {v : α} : key ∈ (m.set k v).keys ↔ key ∈ m.keys ∨ key = k := by
  by_cases known : k ∈ m.keys
  · rw [keys_set_known known]
    constructor
    · exact Or.inl
    · rintro (old | rfl)
      · exact old
      · exact known
  · rw [keys_set_new known, List.mem_append, List.mem_singleton]

/-- Overwriting adds nothing to the size, and a new key adds one. -/
theorem size_set_known {m : OrderedMap α} {k : String} {v : α} (known : k ∈ m.keys) : (m.set k v).size = m.size := by
  rw [size_eq_keys, keys_set_known known, size_eq_keys]

theorem size_set_new {m : OrderedMap α} {k : String} {v : α} (fresh : k ∉ m.keys) :
    (m.set k v).size = m.size + 1 := by
  rw [size_eq_keys, keys_set_new fresh, List.length_append, ← size_eq_keys]
  rfl

theorem size_delete {m : OrderedMap α} {k : String} (known : k ∈ m.keys) : (m.delete k).size + 1 = m.size := by
  have erased : m.keys.filter (fun key => key != k) = m.keys.erase k :=
    (List.Nodup.erase_eq_filter m.nodup k).symm
  have positive : 0 < m.keys.length := List.length_pos_of_mem known
  rw [size_eq_keys, keys_delete, erased, List.length_erase_of_mem known, size_eq_keys]
  omega

theorem mem_entries_set {m : OrderedMap α} {k key : String} {v w : α} :
    (key, w) ∈ (m.set k v).entries ↔ (key = k ∧ w = v) ∨ (key ≠ k ∧ (key, w) ∈ m.entries) := by
  by_cases known : k ∈ m.keys
  · simp only [set, dif_pos known, List.mem_map]
    constructor
    · rintro ⟨e, mem, shape⟩
      by_cases same : e.1 = k
      · rw [if_pos same] at shape
        exact Or.inl ⟨(Prod.mk.inj shape).1.symm, (Prod.mk.inj shape).2.symm⟩
      · rw [if_neg same] at shape
        subst shape
        exact Or.inr ⟨same, mem⟩
    · rintro (⟨rfl, rfl⟩ | ⟨different, mem⟩)
      · obtain ⟨e, mem, same⟩ := List.mem_map.mp known
        exact ⟨e, mem, by rw [if_pos same]⟩
      · exact ⟨(key, w), mem, by rw [if_neg different]⟩
  · have absent : ∀ u, (k, u) ∉ m.entries := fun u mem => known (List.mem_map.mpr ⟨_, mem, rfl⟩)
    simp only [set, dif_neg known, List.mem_append, List.mem_singleton, Prod.mk.injEq]
    constructor
    · rintro (mem | same)
      · exact Or.inr ⟨fun same => absent w (same ▸ mem), mem⟩
      · exact Or.inl same
    · rintro (same | ⟨-, mem⟩)
      · exact Or.inr same
      · exact Or.inl mem

@[simp] theorem get_set_self (m : OrderedMap α) (k : String) (v : α) : (m.set k v).get k = some v := by
  rw [get_eq_some, mem_entries_set]
  exact Or.inl ⟨rfl, rfl⟩

theorem get_set_of_ne {m : OrderedMap α} {k key : String} {v : α} (different : key ≠ k) :
    (m.set k v).get key = m.get key := by
  apply Option.ext
  intro w
  rw [get_eq_some, get_eq_some, mem_entries_set]
  simp [different]

theorem mem_entries_delete {m : OrderedMap α} {k key : String} {w : α} :
    (key, w) ∈ (m.delete k).entries ↔ key ≠ k ∧ (key, w) ∈ m.entries := by
  simp [delete, and_comm]

@[simp] theorem get_delete_self (m : OrderedMap α) (k : String) : (m.delete k).get k = none := by
  rw [get_eq_none, mem_keys_delete]
  exact fun present => present.2 rfl

theorem get_delete_of_ne {m : OrderedMap α} {k key : String} (different : key ≠ k) :
    (m.delete k).get key = m.get key := by
  apply Option.ext
  intro w
  rw [get_eq_some, get_eq_some, mem_entries_delete]
  simp [different]

/-- Deleting adds no entry. -/
theorem get_of_delete {m : OrderedMap α} {k key : String} {v : α} (found : (m.delete k).get key = some v) :
    m.get key = some v := by
  by_cases same : key = k
  · rw [same, get_delete_self] at found
    cases found
  · rwa [get_delete_of_ne same] at found

theorem ext_entries {m n : OrderedMap α} (same : m.entries = n.entries) : m = n := by
  cases m
  cases n
  cases same
  rfl

@[simp] theorem size_eq_zero {m : OrderedMap α} : m.size = 0 ↔ m = .empty := by
  constructor
  · intro none
    exact ext_entries (List.length_eq_zero_iff.mp none)
  · rintro rfl
    rfl

/-- Writing what is there already changes nothing. -/
theorem set_same {m : OrderedMap α} {k : String} {v : α} (found : m.get k = some v) : m.set k v = m := by
  apply ext_entries
  unfold set
  rw [dif_pos (mem_keys_of_get found)]
  dsimp only
  conv_rhs => rw [← List.map_id m.entries]
  apply List.map_congr_left
  rintro ⟨key, w⟩ mem
  by_cases same : key = k
  · rw [same] at mem ⊢
    have value : m.get k = some w := get_eq_some.mpr mem
    rw [found] at value
    cases value
    rw [if_pos rfl]
    rfl
  · rw [if_neg same]
    rfl

end OrderedMap

end WalletPair.Lib
