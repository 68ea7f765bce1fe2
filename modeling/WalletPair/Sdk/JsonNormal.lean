import WalletPair.Sdk.Json
import Mathlib.Data.List.Sort

/-! When two JSON values are the same value. The members of an object have no order, and a
number has many decimal forms; `normal` picks one form of each, and two objects without
repeated keys are the same exactly when every key holds the same value in both. -/

namespace WalletPair.Sdk.Json

/-- Without zeros at the end of the fraction. -/
def trimNumber : Int → Nat → Json
  | mantissa, 0 => .num mantissa 0
  | mantissa, exponent + 1 =>
    if mantissa % 10 = 0 then trimNumber (mantissa / 10) exponent else .num mantissa (exponent + 1)

mutual
/-- The value with the members of every object in the order of their keys. -/
def normal : Json → Json
  | .num mantissa exponent => trimNumber mantissa exponent
  | .arr items => .arr (normalItems items)
  | .obj fields => .obj (normalFields fields)
  | value => value

def normalItems : List Json → List Json
  | [] => []
  | item :: rest => normal item :: normalItems rest

def normalFields : List (String × Json) → List (String × Json)
  | [] => []
  | (key, value) :: rest => insertMember (key, normal value) (normalFields rest)
end

mutual
/-- No object in the value has the same key twice. -/
def proper : Json → Bool
  | .arr items => properItems items
  | .obj fields => properFields fields
  | _ => true

def properItems : List Json → Bool
  | [] => true
  | item :: rest => proper item && properItems rest

def properFields : List (String × Json) → Bool
  | [] => true
  | (key, value) :: rest => proper value && properFields rest && !(rest.any fun f => f.1 == key)
end

/-! ### Shapes -/

theorem trimNumber_num (mantissa : Int) (exponent : Nat) : ∃ m e, trimNumber mantissa exponent = .num m e := by
  induction exponent generalizing mantissa with
  | zero => exact ⟨mantissa, 0, rfl⟩
  | succ exponent ih =>
    unfold trimNumber
    split_ifs
    · exact ih _
    · exact ⟨mantissa, exponent + 1, rfl⟩

theorem normal_eq_str {value : Json} {s : String} (h : value.normal = .str s) : value = .str s := by
  cases value with
  | num mantissa exponent =>
    obtain ⟨m, e, shape⟩ := trimNumber_num mantissa exponent
    rw [normal, shape] at h
    cases h
  | str text => simpa [normal] using h
  | _ => simp [normal] at h

theorem obj_of_normal {value : Json} {fields : List (String × Json)} (h : value.normal = .obj fields) :
    ∃ own, value = .obj own ∧ normalFields own = fields := by
  cases value with
  | num mantissa exponent =>
    obtain ⟨m, e, shape⟩ := trimNumber_num mantissa exponent
    rw [normal, shape] at h
    cases h
  | obj own => exact ⟨own, rfl, by simpa [normal] using h⟩
  | _ => simp [normal] at h

/-! ### Members -/

theorem field_normal (fields : List (String × Json)) (key : String) :
    (normal (.obj fields)).field key = ((Json.obj fields).field key).map normal := by
  rw [normal]
  induction fields with
  | nil => rfl
  | cons first rest ih =>
    obtain ⟨name, value⟩ := first
    rw [normalFields, field_insertMember, ih]
    by_cases own : name = key <;> simp [field, own]

theorem insertMember_perm (member : String × Json) (fields : List (String × Json)) :
    (insertMember member fields).Perm (member :: fields) := by
  induction fields with
  | nil => exact List.Perm.refl _
  | cons next rest ih =>
    unfold insertMember
    split_ifs
    · exact (ih.cons next).trans (List.Perm.swap member next rest)
    · exact List.Perm.refl _

theorem normalFields_keys (fields : List (String × Json)) :
    ((normalFields fields).map Prod.fst).Perm (fields.map Prod.fst) := by
  induction fields with
  | nil => exact List.Perm.refl _
  | cons first rest ih =>
    obtain ⟨key, value⟩ := first
    rw [normalFields]
    exact ((insertMember_perm _ _).map Prod.fst).trans (ih.cons key)

/-- Sorted, with no key twice. -/
def Ascending (fields : List (String × Json)) : Prop := fields.Pairwise fun a b => a.1 < b.1

theorem insertMember_ascending {member : String × Json} {fields : List (String × Json)} (sorted : Ascending fields)
    (fresh : member.1 ∉ fields.map Prod.fst) : Ascending (insertMember member fields) := by
  induction fields with
  | nil => exact List.pairwise_singleton _ _
  | cons next rest ih =>
    obtain ⟨first, others⟩ := List.pairwise_cons.mp sorted
    have different : member.1 ≠ next.1 := fun same => fresh (by simp [same])
    have absent : member.1 ∉ rest.map Prod.fst := fun mem => fresh (by simp [List.mem_map.mp mem])
    unfold insertMember
    split_ifs with smaller
    · refine List.pairwise_cons.mpr ⟨fun f mem => ?_, ih others absent⟩
      rcases List.mem_cons.mp ((insertMember_perm _ _).mem_iff.mp mem) with rfl | old
      · exact smaller
      · exact first f old
    · have larger : member.1 < next.1 := lt_of_le_of_ne (not_lt.mp smaller) different
      refine List.pairwise_cons.mpr ⟨fun f mem => ?_, sorted⟩
      rcases List.mem_cons.mp mem with rfl | old
      · exact larger
      · exact larger.trans (first f old)

theorem normalFields_ascending {fields : List (String × Json)} (distinct : (fields.map Prod.fst).Nodup) :
    Ascending (normalFields fields) := by
  induction fields with
  | nil => exact List.Pairwise.nil
  | cons first rest ih =>
    obtain ⟨key, value⟩ := first
    obtain ⟨fresh, others⟩ := List.nodup_cons.mp distinct
    rw [normalFields]
    exact insertMember_ascending (ih others) fun mem => fresh ((normalFields_keys rest).mem_iff.mp mem)

theorem field_eq_some {fields : List (String × Json)} (distinct : (fields.map Prod.fst).Nodup) {key : String}
    {value : Json} : (Json.obj fields).field key = some value ↔ (key, value) ∈ fields := by
  induction fields with
  | nil => simp [field]
  | cons first rest ih =>
    obtain ⟨name, own⟩ := first
    obtain ⟨fresh, others⟩ := List.nodup_cons.mp distinct
    by_cases here : name = key
    · subst here
      have absent : (name, value) ∉ rest := fun mem => fresh (List.mem_map.mpr ⟨_, mem, rfl⟩)
      simp [field, absent, eq_comm]
    · have skip : (Json.obj ((name, own) :: rest)).field key = (Json.obj rest).field key := by simp [field, here]
      have other : (key, value) ≠ (name, own) := fun same => here (Prod.ext_iff.mp same).1.symm
      rw [skip, ih others]
      simp [other]

/-- Sorted lists of members are equal when every key holds the same in both. -/
theorem ascending_ext {xs ys : List (String × Json)} (left : Ascending xs) (right : Ascending ys)
    (same : ∀ key, (Json.obj xs).field key = (Json.obj ys).field key) : xs = ys := by
  have distinct {zs : List (String × Json)} (sorted : Ascending zs) : (zs.map Prod.fst).Nodup :=
    List.pairwise_map.mpr (sorted.imp fun smaller => smaller.ne)
  have members (f : String × Json) : f ∈ xs ↔ f ∈ ys := by
    obtain ⟨key, value⟩ := f
    rw [← field_eq_some (distinct left), ← field_eq_some (distinct right), same]
  have perm : xs.Perm ys :=
    (List.perm_ext_iff_of_nodup (List.Nodup.of_map _ (distinct left)) (List.Nodup.of_map _ (distinct right))).mpr members
  exact perm.eq_of_pairwise (fun a b _ _ forth back => absurd (forth.trans back) (lt_irrefl _)) left right

/-- Two objects without repeated keys are the same value when every key holds the same. -/
theorem normal_obj_ext {xs ys : List (String × Json)} (left : (xs.map Prod.fst).Nodup) (right : (ys.map Prod.fst).Nodup)
    (same : ∀ key, ((Json.obj xs).field key).map normal = ((Json.obj ys).field key).map normal) :
    normal (.obj xs) = normal (.obj ys) := by
  have fields := ascending_ext (normalFields_ascending left) (normalFields_ascending right) fun key => by
    have first := field_normal xs key
    have second := field_normal ys key
    rw [normal] at first second
    rw [first, second, same]
  rw [normal, normal, fields]

/-- Objects that are the same value hold the same under every key. -/
theorem fields_of_normal {xs ys : List (String × Json)} (same : normal (.obj xs) = normal (.obj ys)) (key : String) :
    ((Json.obj xs).field key).map normal = ((Json.obj ys).field key).map normal := by
  rw [← field_normal, ← field_normal, same]

/-- Objects that are the same value have the same keys. -/
theorem keys_of_normal {xs ys : List (String × Json)} (same : normal (.obj xs) = normal (.obj ys)) :
    (xs.map Prod.fst).Perm (ys.map Prod.fst) := by
  rw [normal, normal, Json.obj.injEq] at same
  have left := normalFields_keys xs
  rw [same] at left
  exact left.symm.trans (normalFields_keys ys)

/-! ### Objects put together and taken apart -/

theorem field_eq_none {fields : List (String × Json)} {key : String} :
    (Json.obj fields).field key = none ↔ key ∉ fields.map Prod.fst := by
  simp only [field, Option.map_eq_none_iff, List.find?_eq_none, List.mem_map, not_exists, not_and]
  constructor
  · intro none f member same
    exact none f member (by simp [same])
  · intro absent f member
    simpa using absent f member

theorem field_without (fields : List (String × Json)) (keys : List String) (key : String) :
    (Json.obj (without fields keys)).field key = if key ∈ keys then none else (Json.obj fields).field key := by
  induction fields with
  | nil => simp [without, field]
  | cons first rest ih =>
    obtain ⟨name, value⟩ := first
    unfold without at ih ⊢
    by_cases dropped : name ∈ keys
    · rw [List.filter_cons_of_neg (by simpa using dropped), ih]
      by_cases own : name = key
      · rw [if_pos (own ▸ dropped), if_pos (own ▸ dropped)]
      · simp [field, own]
    · rw [List.filter_cons_of_pos (by simpa using dropped)]
      by_cases own : name = key
      · rw [if_neg (own ▸ dropped)]
        simp [field, own]
      · have skip (l : List (String × Json)) : (Json.obj ((name, value) :: l)).field key = (Json.obj l).field key := by
          simp [field, own]
        rw [skip, skip, ih]

theorem nodup_without {fields : List (String × Json)} (keys : List String) (distinct : (fields.map Prod.fst).Nodup) :
    ((without fields keys).map Prod.fst).Nodup :=
  distinct.sublist (List.filter_sublist.map _)

/-- Equal objects stay equal when the same members are dropped. -/
theorem normal_without {xs ys : List (String × Json)} (keys : List String) (distinct : (ys.map Prod.fst).Nodup)
    (same : normal (.obj xs) = normal (.obj ys)) : normal (.obj (without xs keys)) = normal (.obj (without ys keys)) := by
  have left : (xs.map Prod.fst).Nodup := (keys_of_normal same).nodup_iff.mpr distinct
  refine normal_obj_ext (nodup_without keys left) (nodup_without keys distinct) fun key => ?_
  rw [field_without, field_without]
  split_ifs
  · rfl
  · exact fields_of_normal same key

theorem without_of_absent {fields : List (String × Json)} {key : String} (absent : key ∉ fields.map Prod.fst) :
    without fields [key] = fields := by
  refine List.filter_eq_self.mpr fun f member => ?_
  have other : f.1 ≠ key := fun same => absent (List.mem_map.mpr ⟨f, member, same⟩)
  simpa using other

theorem keys_define (fields : List (String × Json)) (key : String) (value : Json) :
    (define fields key value).map Prod.fst =
      if key ∈ fields.map Prod.fst then fields.map Prod.fst else fields.map Prod.fst ++ [key] := by
  unfold define
  have known : fields.any (fun f => f.1 == key) = true ↔ key ∈ fields.map Prod.fst := by simp
  by_cases old : key ∈ fields.map Prod.fst
  · rw [if_pos (known.mpr old), if_pos old, List.map_map]
    apply List.map_congr_left
    intro f _
    by_cases own : f.1 = key <;> simp [own]
  · rw [if_neg (fun h => old (known.mp h)), if_neg old]
    simp

theorem field_map_update {fields : List (String × Json)} {key name : String} (value : Json)
    (known : key ∈ fields.map Prod.fst) :
    (Json.obj (fields.map fun f => if f.1 == key then (key, value) else f)).field name =
      if name = key then some value else (Json.obj fields).field name := by
  induction fields with
  | nil => simp at known
  | cons first rest ih =>
    obtain ⟨own, old⟩ := first
    by_cases here : own = key
    · subst here
      by_cases asked : name = own
      · simp [field, asked]
      · have skip (v : Json) (l : List (String × Json)) : (Json.obj ((own, v) :: l)).field name = (Json.obj l).field name := by
          simp [field, Ne.symm asked]
        by_cases again : own ∈ rest.map Prod.fst
        · have later := ih again
          rw [if_neg asked] at later
          rw [if_neg asked, skip, ← later]
          simpa using skip value _
        · have plain : rest.map (fun f => if f.1 == own then (own, value) else f) = rest := by
            refine (List.map_congr_left fun f member => ?_).trans (List.map_id rest)
            have other : f.1 ≠ own := fun same => again (List.mem_map.mpr ⟨f, member, same⟩)
            simp [other]
          rw [List.map_cons, plain, if_neg asked, skip]
          simpa using skip value _
    · have later : key ∈ rest.map Prod.fst := by simpa [Ne.symm here] using known
      have skip := ih later
      by_cases asked : own = name
      · have other : name ≠ key := fun same => here (asked.trans same)
        simp [field, asked, other]
      · simp only [field] at skip ⊢
        simpa [here, asked] using skip

theorem field_define (fields : List (String × Json)) (key name : String) (value : Json) :
    (Json.obj (define fields key value)).field name = if name = key then some value else (Json.obj fields).field name := by
  unfold define
  by_cases known : key ∈ fields.map Prod.fst
  · rw [if_pos (by simpa using known)]
    exact field_map_update value known
  · rw [if_neg (by simpa using known)]
    have absent := field_eq_none.mpr known
    by_cases asked : name = key
    · subst asked
      simp only [field, Option.map_eq_none_iff] at absent
      simp [field, List.find?_append, absent]
    · simp [field, List.find?_append, Ne.symm asked, asked]

theorem nodup_define {fields : List (String × Json)} (key : String) (value : Json)
    (distinct : (fields.map Prod.fst).Nodup) : ((define fields key value).map Prod.fst).Nodup := by
  rw [keys_define]
  split_ifs with known
  · exact distinct
  · exact List.nodup_append.mpr ⟨distinct, List.nodup_singleton _, by
      intro name member other single same
      rw [List.mem_singleton.mp single] at same
      exact known (same ▸ member)⟩

/-- A later member hides an earlier one of the same name. -/
theorem field_spread {fields more : List (String × Json)} (distinct : (more.map Prod.fst).Nodup) (name : String) :
    (Json.obj (spread fields more)).field name = ((Json.obj more).field name).or ((Json.obj fields).field name) := by
  induction more generalizing fields with
  | nil => simp [spread, field]
  | cons first rest ih =>
    obtain ⟨key, value⟩ := first
    obtain ⟨fresh, others⟩ := List.nodup_cons.mp distinct
    have unfolded : spread fields ((key, value) :: rest) = spread (define fields key value) rest := rfl
    rw [unfolded, ih others, field_define]
    by_cases own : name = key
    · subst own
      rw [if_pos rfl, field_eq_none.mpr fresh]
      simp [field]
    · simp [field, own, Ne.symm own]

theorem nodup_spread {fields : List (String × Json)} (more : List (String × Json))
    (distinct : (fields.map Prod.fst).Nodup) : ((spread fields more).map Prod.fst).Nodup := by
  induction more generalizing fields with
  | nil => exact distinct
  | cons first rest ih => exact ih (nodup_define _ _ distinct)

theorem nodup_of_proper {fields : List (String × Json)} (h : (Json.obj fields).proper = true) :
    (fields.map Prod.fst).Nodup := by
  rw [proper] at h
  induction fields with
  | nil => exact List.nodup_nil
  | cons first rest ih =>
    obtain ⟨key, value⟩ := first
    simp only [properFields, Bool.and_eq_true, Bool.not_eq_true', List.any_eq_false, beq_iff_eq] at h
    refine List.nodup_cons.mpr ⟨fun member => ?_, ih h.1.2⟩
    obtain ⟨f, old, same⟩ := List.mem_map.mp member
    exact h.2 f old same

/-! ### No value is a member of itself -/

mutual
/-- The number of arrays and objects in the value. -/
def weight : Json → Nat
  | .arr items => 1 + weightItems items
  | .obj fields => 1 + weightFields fields
  | _ => 0

def weightItems : List Json → Nat
  | [] => 0
  | item :: rest => weight item + weightItems rest

def weightFields : List (String × Json) → Nat
  | [] => 0
  | (_, value) :: rest => weight value + weightFields rest
end

theorem weightFields_insertMember (member : String × Json) (fields : List (String × Json)) :
    weightFields (insertMember member fields) = weight member.2 + weightFields fields := by
  induction fields with
  | nil => rfl
  | cons next rest ih =>
    unfold insertMember
    split_ifs
    · rw [weightFields, weightFields, ih]
      omega
    · rw [weightFields]

mutual
theorem weight_normal : (value : Json) → weight (normal value) = weight value
  | .null | .bool _ | .str _ => rfl
  | .num mantissa exponent => by
    obtain ⟨m, e, shape⟩ := trimNumber_num mantissa exponent
    rw [normal, shape, weight, weight]
    all_goals simp
  | .arr items => by rw [normal, weight, weight, weight_normalItems]
  | .obj fields => by rw [normal, weight, weight, weight_normalFields]

theorem weight_normalItems : (items : List Json) → weightItems (normalItems items) = weightItems items
  | [] => rfl
  | item :: rest => by rw [normalItems, weightItems, weightItems, weight_normal, weight_normalItems]

theorem weight_normalFields : (fields : List (String × Json)) →
    weightFields (normalFields fields) = weightFields fields
  | [] => rfl
  | (key, value) :: rest => by
    rw [normalFields, weightFields_insertMember, weightFields, weight_normal, weight_normalFields]
end

theorem weight_le_of_mem {fields : List (String × Json)} {key : String} {value : Json} (member : (key, value) ∈ fields) :
    weight value ≤ weightFields fields := by
  induction fields with
  | nil => cases member
  | cons first rest ih =>
    obtain ⟨name, own⟩ := first
    rw [weightFields]
    rcases List.mem_cons.mp member with same | later
    · cases same
      omega
    · have bound := ih later
      omega

/-- An object is not the same value as one of its members. -/
theorem normal_ne_member {fields : List (String × Json)} {key : String} {value : Json}
    (distinct : (fields.map Prod.fst).Nodup) (member : (Json.obj fields).field key = some value) :
    value.normal ≠ (Json.obj fields).normal := by
  intro same
  have inside := weight_le_of_mem ((field_eq_some distinct).mp member)
  have weights : weight value = weight (.obj fields) := by
    rw [← weight_normal value, same, weight_normal]
  rw [weight] at weights
  omega

end WalletPair.Sdk.Json
