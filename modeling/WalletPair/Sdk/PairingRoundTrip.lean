import Mathlib.Data.List.TakeWhile
import WalletPair.Sdk.RawText

/-! The round trip of a pairing URI. The methods and chains are written without escaping, so
a URI gives back what it was built from exactly when these texts hold nothing that a query
string or a comma list reads. -/

namespace WalletPair.Sdk

/-! ### Comma lists -/

section Pieces

variable {α : Type*} {a : α}

/-- No piece holds the separator. -/
theorem not_mem_piece [BEq α] [LawfulBEq α] (xs : List α) : ∀ piece ∈ xs.splitOn a, a ∉ piece := by
  induction xs with
  | nil => simp
  | cons x rest ih =>
    rw [List.splitOn_cons_eq_if_modifyHead]
    split
    · intro piece member
      rcases List.mem_cons.mp member with rfl | member
      · simp
      · exact ih piece member
    · rename_i other
      cases pieces : rest.splitOn a with
      | nil => exact absurd pieces (List.splitOn_ne_nil a rest)
      | cons first more =>
        rw [pieces] at ih
        intro piece member
        rcases List.mem_cons.mp member with rfl | member
        · intro inside
          rcases List.mem_cons.mp inside with rfl | inside
          · simp at other
          · exact ih first (by simp) inside
        · exact ih piece (by simp [member])

/-- What pieces take up in a joined text, each with one separator. -/
def weight (pieces : List (List α)) : Nat := (pieces.map fun piece => piece.length + 1).sum

theorem length_intercalate {pieces : List (List α)} (present : pieces ≠ []) :
    ([a].intercalate pieces).length + 1 = weight pieces := by
  induction pieces with
  | nil => exact absurd rfl present
  | cons piece rest ih =>
    cases rest with
    | nil => simp [weight]
    | cons next more =>
      have tail := ih (by simp)
      rw [List.intercalate_cons_cons, List.length_append, List.length_append]
      rw [weight, List.map_cons, List.sum_cons, ← weight, ← tail]
      simp only [List.length_singleton]
      omega

/-- Pieces that are left out take up room. -/
theorem weight_filter (pieces : List (List α)) (keep : List α → Bool) :
    weight (pieces.filter keep) ≤ weight pieces ∧
      (weight pieces ≤ weight (pieces.filter keep) → pieces.filter keep = pieces) := by
  induction pieces with
  | nil => simp
  | cons piece rest ih =>
    have whole : weight (piece :: rest) = piece.length + 1 + weight rest := by simp [weight]
    cases kept : keep piece with
    | true =>
      have part : weight (piece :: rest.filter keep) = piece.length + 1 + weight (rest.filter keep) := by simp [weight]
      rw [List.filter_cons_of_pos kept, whole, part]
      refine ⟨by omega, fun full => ?_⟩
      rw [ih.2 (by omega)]
    | false =>
      rw [List.filter_cons_of_neg (by simp [kept]), whole]
      exact ⟨by omega, fun full => by omega⟩

end Pieces

/-! ### Items -/

/-- An item that stays what it is between commas in a query string. -/
def Verbatim (item : String) : Prop :=
  (∀ c ∈ item.toList, c ≠ ',' ∧ c ≠ '&' ∧ c ≠ '+') ∧ escapes item.toList = 0

instance (item : String) : Decidable (Verbatim item) :=
  @instDecidableAnd _ _ (List.decidableBAll _ item.toList) inferInstance

/-- The items as they are written. -/
def joined (items : List String) : List Char := [','].intercalate (items.map String.toList)

/-- The value that is read where a text was written as it is: up to the next `&`. -/
def readBack (text : List Char) : String := decodeField ((text.takeWhile (· != '&')).flatMap String.utf8EncodeChar)

theorem readBack_toList (text : List Char) :
    (readBack text).toList = utf8Decode .start (percentDecode (queryBytes (text.takeWhile (· != '&')))) := by
  rw [readBack, decodeField, String.toList_ofList]
  rfl

theorem joined_cons (item next : String) (more : List String) :
    joined (item :: next :: more) = item.toList ++ ',' :: joined (next :: more) := by
  simp [joined]

theorem escapes_joined (items : List String) :
    escapes (joined items) = (items.map fun item => escapes item.toList).sum := by
  induction items with
  | nil => rfl
  | cons item rest ih =>
    cases rest with
    | nil => simp [joined]
    | cons next more =>
      rw [joined_cons, escapes_comma, ih]
      rfl

theorem mem_joined {items : List String} {c : Char} (inside : c ∈ joined items) :
    c = ',' ∨ ∃ item ∈ items, c ∈ item.toList := by
  induction items with
  | nil => cases inside
  | cons item rest ih =>
    cases rest with
    | nil => exact .inr ⟨item, by simp, by simpa [joined] using inside⟩
    | cons next more =>
      rw [joined_cons] at inside
      rcases List.mem_append.mp inside with first | rest
      · exact .inr ⟨item, by simp, first⟩
      · rcases List.mem_cons.mp rest with comma | rest
        · exact .inl comma
        · rcases ih rest with comma | ⟨other, member, within⟩
          · exact .inl comma
          · exact .inr ⟨other, by simp [member], within⟩

theorem mem_joined_of_mem {items : List String} {item : String} {c : Char} (member : item ∈ items)
    (inside : c ∈ item.toList) : c ∈ joined items := by
  induction items with
  | nil => cases member
  | cons first rest ih =>
    cases rest with
    | nil =>
      rw [List.mem_singleton] at member
      simpa [joined, member] using inside
    | cons next more =>
      rw [joined_cons]
      rcases List.mem_cons.mp member with rfl | member
      · simp [inside]
      · simp [ih member]

/-- A text without an ampersand and without escapes is read to its end. -/
theorem readBack_plain {text : List Char} (whole : '&' ∉ text) (none : escapes text = 0) :
    (readBack text).toList = text.map plusToSpace := by
  have all : text.takeWhile (· != '&') = text := by
    rw [List.takeWhile_eq_self_iff]
    intro c member
    simp only [bne_iff_ne]
    exact fun is => whole (is ▸ member)
  rw [readBack_toList, all, decoded_plain none]

/-- What is read from a text is shorter, unless the text has neither an ampersand nor an escape. -/
theorem length_readBack (text : List Char) : (readBack text).toList.length ≤ text.length ∧
    (text.length ≤ (readBack text).toList.length → '&' ∉ text ∧ escapes text = 0) := by
  have bound := length_decoded (text.takeWhile (· != '&')) fine_start
  have idle : Utf8State.start.pending.length = 0 := rfl
  have shorter : (text.takeWhile (· != '&')).length ≤ text.length := (List.takeWhile_prefix _).length_le
  rw [readBack_toList]
  refine ⟨by omega, fun full => ?_⟩
  have all : text.takeWhile (· != '&') = text := (List.takeWhile_prefix _).eq_of_length (by omega)
  refine ⟨fun member => ?_, by rw [all] at bound full; omega⟩
  rw [List.takeWhile_eq_self_iff] at all
  have other := all '&' member
  simp at other

theorem map_plusToSpace {text : List Char} : text.map plusToSpace = text ↔ '+' ∉ text := by
  constructor
  · intro same member
    have mapped : '+' ∈ text.map plusToSpace := same.symm ▸ member
    obtain ⟨c, -, is⟩ := List.mem_map.mp mapped
    unfold plusToSpace at is
    split_ifs at is with plus
    · cases is
    · exact plus is
  · intro free
    have same : ∀ c ∈ text, plusToSpace c = c := by
      intro c member
      apply if_neg
      intro plus
      exact free (plus ▸ member)
    rw [List.map_congr_left same, List.map_id']

theorem joined_ne_nil {items : List String} (present : items ≠ []) (full : ∀ item ∈ items, item ≠ "") :
    joined items ≠ [] := by
  obtain ⟨first, rest, rfl⟩ := List.exists_cons_of_ne_nil present
  have solid : first.toList ≠ [] := by simpa using full first (by simp)
  obtain ⟨c, inside⟩ := List.exists_mem_of_ne_nil _ solid
  exact List.ne_nil_of_mem (mem_joined_of_mem List.mem_cons_self inside)

theorem length_joined {items : List String} (present : items ≠ []) :
    (joined items).length + 1 = weight (items.map String.toList) :=
  length_intercalate (by simpa using present)

/-- Items that are read back whole are verbatim: no character was lost on the way. -/
theorem verbatim_of_read {items : List String} (present : items ≠ [])
    (read : splitList (some (readBack (joined items))) = some items) : ∀ item ∈ items, Verbatim item := by
  have weighs := length_joined present
  obtain ⟨text, given, split⟩ := Option.map_eq_some_iff.mp read
  have is := nonEmpty_some given
  cases is
  have split : ((readBack (joined items)).toList.splitOn ',').filter (fun item => !item.isEmpty) =
      items.map String.toList := by
    have mapped := congrArg (List.map String.toList) split
    rw [List.map_map] at mapped
    simpa [Function.comp_def] using mapped
  -- no piece was dropped and no character was lost
  have kept := weight_filter ((readBack (joined items)).toList.splitOn ',') (fun item => !item.isEmpty)
  have whole := length_intercalate (a := ',') (List.splitOn_ne_nil ',' (readBack (joined items)).toList)
  rw [List.intercalate_splitOn] at whole
  have short := length_readBack (joined items)
  rw [split] at kept
  have equal := kept.2 (by omega)
  obtain ⟨noAmp, noEscape⟩ := short.2 (by omega)
  have same : readBack (joined items) = String.ofList (joined items) := by
    have text : joined items = (readBack (joined items)).toList := by
      conv_lhs => rw [joined, equal, List.intercalate_splitOn]
    conv_rhs => rw [text, String.ofList_toList]
  have plain := readBack_plain noAmp noEscape
  rw [same, String.toList_ofList] at plain
  have noPlus := map_plusToSpace.mp plain.symm
  rw [escapes_joined, List.sum_eq_zero_iff] at noEscape
  intro item member
  refine ⟨fun c inside => ⟨?_, ?_, ?_⟩, noEscape _ (List.mem_map_of_mem member)⟩
  · intro comma
    apply not_mem_piece (a := ',') (readBack (joined items)).toList item.toList
    · rw [← equal]
      exact List.mem_map_of_mem member
    · exact comma ▸ inside
  · exact fun is => noAmp (is ▸ mem_joined_of_mem member inside)
  · exact fun is => noPlus (is ▸ mem_joined_of_mem member inside)

/-- Verbatim items are read back whole. -/
theorem read_of_verbatim {items : List String} (present : items ≠ []) (full : ∀ item ∈ items, item ≠ "")
    (verbatim : ∀ item ∈ items, Verbatim item) : splitList (some (readBack (joined items))) = some items := by
  have absent {c : Char} (other : c ≠ ',') (free : ∀ item ∈ items, c ∉ item.toList) : c ∉ joined items := by
    intro inside
    rcases mem_joined inside with comma | ⟨item, member, within⟩
    · exact other comma
    · exact free item member within
  have noAmp : '&' ∉ joined items :=
    absent (by decide) fun item member inside => ((verbatim item member).1 _ inside).2.1 rfl
  have noPlus : '+' ∉ joined items :=
    absent (by decide) fun item member inside => ((verbatim item member).1 _ inside).2.2 rfl
  have noEscape : escapes (joined items) = 0 := by
    rw [escapes_joined, List.sum_eq_zero_iff]
    intro count member
    obtain ⟨item, within, rfl⟩ := List.mem_map.mp member
    exact (verbatim item within).2
  have same : (readBack (joined items)).toList = joined items := by
    rw [readBack_plain noAmp noEscape, map_plusToSpace.mpr noPlus]
  have split : (joined items).splitOn ',' = items.map String.toList := by
    apply List.splitOn_intercalate
    · intro piece member inside
      obtain ⟨item, within, rfl⟩ := List.mem_map.mp member
      exact ((verbatim item within).1 _ inside).1 rfl
    · simpa using present
  have solid : (items.map String.toList).filter (fun item => !item.isEmpty) = items.map String.toList := by
    rw [List.filter_eq_self]
    intro piece member
    obtain ⟨item, within, rfl⟩ := List.mem_map.mp member
    simpa using full item within
  have nonempty : readBack (joined items) ≠ "" := by
    intro empty
    rw [empty] at same
    exact joined_ne_nil present full same.symm
  rw [splitList, nonEmpty, if_neg nonempty, Option.map_some, same, split, solid, List.map_map]
  simp [Function.comp_def]

/-! ### The query string -/

/-- A parameter whose value is written as it is. -/
theorem queryPairs_raw (key : String) (bytes : Bytes) :
    queryPairs (escaped key.toList ++ 61 :: bytes) = (key, decodeField (bytes.takeWhile (· != 38))) ::
      queryPairs ((bytes.dropWhile (· != 38)).drop 1) := by
  have apart : (38 : UInt8) ∉ escaped key.toList ++ 61 :: bytes.takeWhile (· != 38) := by
    intro member
    rcases List.mem_append.mp member with left | right
    · exact (escaped_clean _ _ left).1 rfl
    · rcases List.mem_cons.mp right with equals | right
      · cases equals
      · have other := List.mem_takeWhile_imp right
        simp at other
  have free : ∀ b ∈ escaped key.toList, (b != 61) = true := fun b member => by
    simpa using (escaped_clean _ b member).2.2
  have name : (escaped key.toList ++ 61 :: bytes.takeWhile (· != 38)).takeWhile (· != 61) = escaped key.toList := by
    rw [List.takeWhile_append_of_pos free]
    simp
  have value : (escaped key.toList ++ 61 :: bytes.takeWhile (· != 38)).dropWhile (· != 61) =
      61 :: bytes.takeWhile (· != 38) := by
    rw [List.dropWhile_append_of_pos free]
    simp
  have pair : decodePair (escaped key.toList ++ 61 :: bytes.takeWhile (· != 38)) =
      (key, decodeField (bytes.takeWhile (· != 38))) := by
    rw [decodePair, name, value, List.drop_one, List.tail_cons, decodeField_escaped]
  have whole := List.takeWhile_append_dropWhile (p := (· != (38 : UInt8))) (l := bytes)
  cases rest : bytes.dropWhile (· != 38) with
  | nil =>
    rw [rest, List.append_nil] at whole
    conv_lhs => rw [← whole]
    rw [queryPairs, List.splitOn_eq_singleton apart, List.filter_cons_of_pos (by simp), List.map_cons, pair]
    rfl
  | cons b more =>
    have is : b = 38 := by
      have head := List.head_dropWhile_not (· != (38 : UInt8)) (l := bytes) (by simp [rest])
      simp only [rest, List.head_cons] at head
      simpa using head
    subst is
    rw [rest] at whole
    conv_lhs => rw [← whole]
    rw [queryPairs, ← List.cons_append, ← List.append_assoc, List.splitOn_append_cons_self_of_not_mem apart,
      List.filter_cons_of_pos (by simp), List.map_cons, pair]
    rfl

/-- What stands behind a value: the end or the next parameter. -/
def Ends (tail : Bytes) : Prop := tail = [] ∨ ∃ rest, tail = 38 :: rest

theorem takeWhile_ends {tail : Bytes} (ends : Ends tail) : tail.takeWhile (· != 38) = [] := by
  rcases ends with rfl | ⟨rest, rfl⟩ <;> simp

theorem dropWhile_ends {tail : Bytes} (ends : Ends tail) : tail.dropWhile (· != 38) = tail := by
  rcases ends with rfl | ⟨rest, rfl⟩ <;> simp

/-- A character that is not an ampersand has no such byte. -/
theorem not_ampersand {c : Char} (other : c ≠ '&') : ∀ b ∈ String.utf8EncodeChar c, (b != 38) = true := by
  intro b member
  rw [bne_iff_ne]
  intro is
  subst is
  exact other (byte_of_char member (by decide))

/-- Bytes and characters agree on where a value ends. -/
theorem takeWhile_bytes (text : List Char) {tail : Bytes} (ends : Ends tail) :
    (text.flatMap String.utf8EncodeChar ++ tail).takeWhile (· != 38) =
      (text.takeWhile (· != '&')).flatMap String.utf8EncodeChar := by
  induction text with
  | nil => exact takeWhile_ends ends
  | cons c rest ih =>
    rw [List.flatMap_cons, List.append_assoc]
    by_cases amp : c = '&'
    · subst amp
      have encoded : String.utf8EncodeChar '&' = [38] := by decide
      simp [encoded]
    · rw [List.takeWhile_append_of_pos (not_ampersand amp), ih, List.takeWhile_cons_of_pos (by simpa using amp),
        List.flatMap_cons]

theorem dropWhile_bytes {text : List Char} (free : '&' ∉ text) {tail : Bytes} (ends : Ends tail) :
    (text.flatMap String.utf8EncodeChar ++ tail).dropWhile (· != 38) = tail := by
  have skipped : ∀ b ∈ text.flatMap String.utf8EncodeChar, (b != 38) = true := by
    intro b member
    obtain ⟨c, inside, byte⟩ := List.mem_flatMap.mp member
    exact not_ampersand (fun is => free (is ▸ inside)) b byte
  rw [List.dropWhile_append_of_pos skipped, dropWhile_ends ends]

/-- A list parameter; when its items are verbatim the next parameters follow it. -/
theorem queryPairs_list (key : String) (items : List String) {tail : Bytes} (ends : Ends tail) :
    ∃ more, queryPairs (escaped key.toList ++ 61 :: ((joined items).flatMap String.utf8EncodeChar ++ tail)) =
      (key, readBack (joined items)) :: more ∧
      ((∀ item ∈ items, Verbatim item) → more = queryPairs (tail.drop 1)) := by
  refine ⟨queryPairs ((((joined items).flatMap String.utf8EncodeChar ++ tail).dropWhile (· != 38)).drop 1), ?_,
    fun verbatim => ?_⟩
  · rw [queryPairs_raw, takeWhile_bytes _ ends]
    rfl
  · have free : '&' ∉ joined items := by
      intro inside
      rcases mem_joined inside with comma | ⟨item, member, within⟩
      · cases comma
      · exact ((verbatim item member).1 _ within).2.1 rfl
    rw [dropWhile_bytes free ends]

/-- An escaped parameter before the end or the next one. -/
theorem queryPairs_escaped (key text : String) {tail : Bytes} (ends : Ends tail) :
    queryPairs (pairBytes key text ++ tail) = (key, text) :: queryPairs (tail.drop 1) := by
  have kept : ∀ b ∈ escaped text.toList, (b != 38) = true := by
    intro b member
    exact bne_iff_ne.mpr (escaped_clean _ b member).1
  rw [pairBytes, List.append_assoc, List.cons_append, queryPairs_raw, List.takeWhile_append_of_pos kept,
    List.dropWhile_append_of_pos kept, takeWhile_ends ends, dropWhile_ends ends, List.append_nil, decodeField_escaped]

/-! ### The lists of a built URI -/

/-- A list as parsing gives it: the empty one counts as absent. -/
def listed : Option (List String) → Option (List String)
  | some (first :: rest) => some (first :: rest)
  | _ => none

def itemsOf (list : Option (List String)) : List String := list.getD []

/-- The parameter that carries a list, if it is written. -/
def listBytes (key : String) (list : Option (List String)) : Bytes :=
  match listed list with
  | some items => 38 :: (escaped key.toList ++ 61 :: (joined items).flatMap String.utf8EncodeChar)
  | none => []

theorem ends_listBytes (key : String) (list : Option (List String)) : Ends (listBytes key list) := by
  unfold listBytes
  split
  · exact .inr ⟨_, rfl⟩
  · exact .inl rfl

theorem listParam_bytes {label key : String}
    (spelled : label.toList.flatMap String.utf8EncodeChar = 38 :: (escaped key.toList ++ [61]))
    (list : Option (List String)) :
    (listParam label list).toList.flatMap String.utf8EncodeChar = listBytes key list := by
  match list with
  | none => rfl
  | some [] => rfl
  | some (first :: rest) =>
    rw [listParam, String.toList_append, String.toList_intercalate, List.flatMap_append, spelled]
    simp [listBytes, listed, joined]

theorem queryTail_bytes (params : PairingParams) :
    (queryTail params).flatMap String.utf8EncodeChar = pairBytes "url" params.url ++ 38 :: (pairBytes "icon" params.icon ++
      (listBytes "methods" params.methods ++ listBytes "chains" params.chains)) := by
  have u : "url=".toList.flatMap String.utf8EncodeChar = escaped "url".toList ++ [61] := by decide
  have i : "&icon=".toList.flatMap String.utf8EncodeChar = 38 :: (escaped "icon".toList ++ [61]) := by decide
  have m : "&methods=".toList.flatMap String.utf8EncodeChar = 38 :: (escaped "methods".toList ++ [61]) := by
    decide
  have c : "&chains=".toList.flatMap String.utf8EncodeChar = 38 :: (escaped "chains".toList ++ [61]) := by
    decide
  rw [queryTail]
  simp only [List.flatMap_append, u, i, escaped_encode, listParam_bytes m, listParam_bytes c, pairBytes,
    List.append_assoc, List.cons_append, List.nil_append]

theorem ends_append {first second : Bytes} (left : Ends first) (right : Ends second) : Ends (first ++ second) := by
  rcases left with rfl | ⟨rest, rfl⟩
  · exact right
  · exact .inr ⟨rest ++ second, rfl⟩

/-- The parameters behind the icon. -/
def listPairs (params : PairingParams) : List (String × String) :=
  queryPairs ((listBytes "methods" params.methods ++ listBytes "chains" params.chains).drop 1)

theorem queryPairs_tail (params : PairingParams) :
    queryPairs ((queryTail params).flatMap String.utf8EncodeChar) =
      ("url", params.url) :: ("icon", params.icon) :: listPairs params := by
  rw [queryTail_bytes, queryPairs_cons,
    queryPairs_escaped _ _ (ends_append (ends_listBytes _ _) (ends_listBytes _ _)), listPairs]

/-- Both lists are read back whole. -/
def ListsRead (params : PairingParams) : Prop :=
  splitList (getParam (listPairs params) "methods") = listed params.methods ∧
    splitList (getParam (listPairs params) "chains") = listed params.chains

theorem getParam_self (key text : String) (rest : List (String × String)) : getParam ((key, text) :: rest) key = some text := by
  simp [getParam]

theorem getParam_other {key name : String} (other : (key == name) = false) (text : String) (rest : List (String × String)) :
    getParam ((key, text) :: rest) name = getParam rest name := by
  simp [getParam, other]

/-- The parameters of the chains alone. -/
def chainPairs (chains : Option (List String)) : List (String × String) :=
  queryPairs ((listBytes "chains" chains).drop 1)

theorem chainPairs_some (first : String) (rest : List String) :
    ∃ more, chainPairs (some (first :: rest)) = ("chains", readBack (joined (first :: rest))) :: more ∧
      ((∀ item ∈ first :: rest, Verbatim item) → more = []) := by
  obtain ⟨more, pairs, follows⟩ := queryPairs_list "chains" (first :: rest) (.inl rfl)
  rw [List.append_nil] at pairs
  exact ⟨more, pairs, follows⟩

theorem chains_verbatim {chains : Option (List String)}
    (read : splitList (getParam (chainPairs chains) "chains") = listed chains) :
    ∀ item ∈ itemsOf chains, Verbatim item := by
  match chains with
  | none => simp [itemsOf]
  | some [] => simp [itemsOf]
  | some (first :: rest) =>
    obtain ⟨more, pairs, -⟩ := chainPairs_some first rest
    rw [pairs, getParam_self] at read
    exact verbatim_of_read (List.cons_ne_nil first rest) read

theorem chains_read {chains : Option (List String)} (full : ∀ item ∈ itemsOf chains, item ≠ "")
    (verbatim : ∀ item ∈ itemsOf chains, Verbatim item) :
    splitList (getParam (chainPairs chains) "methods") = none ∧
      splitList (getParam (chainPairs chains) "chains") = listed chains := by
  match chains with
  | none => exact ⟨rfl, rfl⟩
  | some [] => exact ⟨rfl, rfl⟩
  | some (first :: rest) =>
    obtain ⟨more, pairs, follows⟩ := chainPairs_some first rest
    rw [pairs, getParam_self, getParam_other (by decide), follows verbatim]
    exact ⟨rfl, read_of_verbatim (List.cons_ne_nil first rest) full verbatim⟩

/-- The lists are read back whole exactly when their items are verbatim. -/
theorem listsRead_iff {params : PairingParams} (methods : ∀ item ∈ itemsOf params.methods, item ≠ "")
    (chains : ∀ item ∈ itemsOf params.chains, item ≠ "") :
    ListsRead params ↔ ∀ item ∈ itemsOf params.methods ++ itemsOf params.chains, Verbatim item := by
  cases written : listed params.methods with
  | none =>
    have bare : listBytes "methods" params.methods = [] := by rw [listBytes, written]
    have empty : itemsOf params.methods = [] := by
      match params.methods, written with
      | none, _ => rfl
      | some [], _ => rfl
    rw [ListsRead, listPairs, written, bare, empty, List.nil_append, List.nil_append]
    exact ⟨fun read => chains_verbatim read.2, chains_read chains⟩
  | some items =>
    have is : params.methods = some items ∧ items ≠ [] := by
      match params.methods, written with
      | some (first :: rest), rfl => exact ⟨rfl, by simp⟩
    have spelled : (listBytes "methods" params.methods ++ listBytes "chains" params.chains).drop 1 =
        escaped "methods".toList ++ 61 :: ((joined items).flatMap String.utf8EncodeChar ++
          listBytes "chains" params.chains) := by
      rw [listBytes, written]
      simp
    have own : itemsOf params.methods = items := by rw [is.1]; rfl
    obtain ⟨more, pairs, follows⟩ := queryPairs_list "methods" items (ends_listBytes "chains" params.chains)
    rw [ListsRead, listPairs, written, spelled, pairs, getParam_self, getParam_other (by decide), own]
    rw [own] at methods
    constructor
    · intro read
      have verbatim := verbatim_of_read is.2 read.1
      intro item member
      rcases List.mem_append.mp member with first | second
      · exact verbatim item first
      · rw [follows verbatim] at read
        exact chains_verbatim read.2 item second
    · intro verbatim
      have first : ∀ item ∈ items, Verbatim item := fun item member => verbatim item (by simp [member])
      refine ⟨read_of_verbatim is.2 methods first, ?_⟩
      rw [follows first]
      exact (chains_read chains fun item member => verbatim item (by simp [member])).2

/-! ### The round trip -/

/-- What the texts of a pairing must be for its URI to be accepted. -/
structure PairingParams.Proper (params : PairingParams) : Prop where
  ch : params.ch.toList.length = 64 ∧ params.ch.toList.all isLowerHex = true
  pubkey : ∃ key : Bytes, key.length = 32 ∧ params.pubkey = b64urlEncode key
  relay : params.relay ≠ ""
  name : params.name ≠ ""
  url : params.url ≠ ""
  icon : "https:".toList.isPrefixOf params.icon.toList = true
  methods : ∀ item ∈ itemsOf params.methods, item ≠ ""
  chains : ∀ item ∈ itemsOf params.chains, item ≠ ""

theorem unreserved_of_lowerHex {c : Char} (digit : isLowerHex c = true) : isUnreserved c = true := by
  have small : c.toNat < 128 := by
    simp only [isLowerHex, Bool.or_eq_true, Bool.and_eq_true, decide_eq_true_eq, Char.le_def, UInt32.le_iff_toNat_le,
      Char.toNat_val, Char.reduceToNat] at digit
    omega
  have known : ∀ n < 128, isLowerHex (Char.ofNat n) = true → isUnreserved (Char.ofNat n) = true := by decide
  have found := known c.toNat small
  rw [Char.ofNat_toNat] at found
  exact found digit

theorem requireParam_present {params : List (String × String)} {name text message : String}
    (found : getParam params name = some text) (full : text ≠ "") : requireParam params name message = .ok text := by
  rw [requireParam, found, nonEmpty, if_neg full]
  rfl

/-- A built URI is accepted; only its lists may differ from those it was built with. -/
theorem parsePairingUri_built {params : PairingParams} (proper : params.Proper) :
    parsePairingUri (buildPairingUri params) = .ok ⟨params.ch, params.pubkey, params.relay, params.name, params.url,
      params.icon, splitList (getParam (listPairs params) "methods"), splitList (getParam (listPairs params) "chains")⟩ := by
  obtain ⟨key, size, encoded⟩ := proper.pubkey
  have hex : ∀ c ∈ params.ch.toList, isUnreserved c = true := fun c member =>
    unreserved_of_lowerHex (List.all_eq_true.mp proper.ch.2 c member)
  have sextets : ∀ c ∈ params.pubkey.toList, isUnreserved c = true := by
    rw [encoded]
    exact b64urlEncode_unreserved key
  have read := searchParams_buildPairingUri hex sextets
  rw [queryPairs_tail] at read
  have chFull : params.ch ≠ "" := by
    intro empty
    have size := proper.ch.1
    rw [empty] at size
    cases size
  have pubkeyFull : params.pubkey ≠ "" := by
    intro empty
    have back := b64urlDecode_encode key
    rw [← encoded, empty] at back
    cases back
    cases size
  have iconFull : params.icon ≠ "" := by
    intro empty
    have https := proper.icon
    rw [empty] at https
    cases https
  have decoded : b64urlDecode params.pubkey = some key := by rw [encoded, b64urlDecode_encode]
  have methods : getParam (searchParams (stripScheme (buildPairingUri params).toList)) "methods" =
      getParam (listPairs params) "methods" := by
    rw [read]
    simp [getParam]
  have chains : getParam (searchParams (stripScheme (buildPairingUri params).toList)) "chains" =
      getParam (listPairs params) "chains" := by
    rw [read]
    simp [getParam]
  have given {name text : String} (found : getParam (searchParams (stripScheme (buildPairingUri params).toList)) name =
      some text) (full : text ≠ "") (message : String) :
      requireParam (searchParams (stripScheme (buildPairingUri params).toList)) name message = .ok text :=
    requireParam_present found full
  rw [read] at given
  unfold parsePairingUri
  simp only [methods, chains]
  rw [read]
  simp only [given (show getParam _ "ch" = some params.ch by simp [getParam]) chFull,
    given (show getParam _ "pubkey" = some params.pubkey by simp [getParam]) pubkeyFull,
    given (show getParam _ "name" = some params.name by simp [getParam]) proper.name,
    given (show getParam _ "url" = some params.url by simp [getParam]) proper.url,
    given (show getParam _ "icon" = some params.icon by simp [getParam]) iconFull,
    given (show getParam _ "relay" = some params.relay by simp [getParam]) proper.relay, decoded, orThrow,
    proper.ch.1, proper.ch.2, proper.icon, size, bind, Except.bind, pure, Except.pure]
  simp

/-- A pairing URI gives back what it was built from exactly when every method and chain is
free of `,`, `&`, `+` and percent escapes: these texts are written without escaping. -/
theorem pairing_uri_round_trip {params : PairingParams} (proper : params.Proper) :
    parsePairingUri (buildPairingUri params) =
        .ok { params with methods := listed params.methods, chains := listed params.chains } ↔
      ∀ item ∈ itemsOf params.methods ++ itemsOf params.chains, Verbatim item := by
  rw [parsePairingUri_built proper, ← listsRead_iff proper.methods proper.chains, ListsRead, Except.ok.injEq,
    PairingParams.mk.injEq]
  simp

/-- A pairing whose methods and chain are verbatim. -/
def plainParams : PairingParams where
  ch := String.ofList (List.replicate 64 'a')
  pubkey := b64urlEncode (List.replicate 32 7)
  relay := "wss://relay.example/?a=b&c"
  name := "Name + 100%"
  url := "https://dapp.example"
  icon := "https://dapp.example/i.png"
  methods := some ["eth_sendTransaction", "50%"]
  chains := some ["eip155:1"]

theorem plainParams_proper : plainParams.Proper := by
  constructor
  · decide +kernel
  · exact ⟨List.replicate 32 7, by decide, rfl⟩
  all_goals decide +kernel

theorem pairing_uri_round_trip_sample :
    (∀ item ∈ itemsOf plainParams.methods ++ itemsOf plainParams.chains, Verbatim item) ∧
      parsePairingUri (buildPairingUri plainParams) = .ok plainParams := by
  have verbatim : ∀ item ∈ itemsOf plainParams.methods ++ itemsOf plainParams.chains, Verbatim item := by
    decide +kernel
  exact ⟨verbatim, (pairing_uri_round_trip plainParams_proper).mpr verbatim⟩

/-- A method that holds an ampersand. -/
def ampersandParams : PairingParams := { plainParams with methods := some ["wallet_a&b"], chains := none }

/-- What follows the ampersand is read as another parameter and lost. -/
theorem ampersand_method_truncated : ampersandParams.Proper ∧
    parsePairingUri (buildPairingUri ampersandParams) = .ok { ampersandParams with methods := some ["wallet_a"] } ∧
    parsePairingUri (buildPairingUri ampersandParams) ≠ .ok ampersandParams := by
  have plain := plainParams_proper
  have proper : ampersandParams.Proper :=
    ⟨plain.ch, plain.pubkey, plain.relay, plain.name, plain.url, plain.icon, by decide +kernel, by decide +kernel⟩
  have methods : splitList (getParam (listPairs ampersandParams) "methods") = some ["wallet_a"] := by decide +kernel
  have chains : splitList (getParam (listPairs ampersandParams) "chains") = none := by decide +kernel
  have read : parsePairingUri (buildPairingUri ampersandParams) =
      .ok { ampersandParams with methods := some ["wallet_a"] } := by
    rw [parsePairingUri_built proper, methods, chains]
    rfl
  refine ⟨proper, read, ?_⟩
  rw [read]
  intro whole
  have same : some ["wallet_a"] = some ["wallet_a&b"] := congrArg PairingParams.methods (Except.ok.inj whole)
  exact absurd same (by decide)

end WalletPair.Sdk
