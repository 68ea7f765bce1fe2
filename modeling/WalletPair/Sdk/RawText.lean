import WalletPair.Sdk.Number
import WalletPair.Sdk.PairingUri

/-! Texts that a query string carries as they are. Reading one back turns `+` into a space
and decodes escapes; it never makes a text longer, and every escape makes it shorter. -/

namespace WalletPair.Sdk

/-! ### Bytes of characters -/

/-- A character is one byte of ASCII or has none. -/
theorem utf8EncodeChar_ascii (c : Char) :
    (String.utf8EncodeChar c = [UInt8.ofNat c.toNat] ∧ c.toNat < 128) ∨
      (∀ b ∈ String.utf8EncodeChar c, 128 ≤ b.toNat) ∧ 128 ≤ c.toNat := by
  by_cases small : c.toNat < 128
  · left
    have known : ∀ n < 128, String.utf8EncodeChar (Char.ofNat n) = [UInt8.ofNat n] := by decide
    have found := known c.toNat small
    rw [Char.ofNat_toNat] at found
    exact ⟨found, small⟩
  · refine .inr ⟨fun b member => ?_, by omega⟩
    have size : c.val.toNat < 0x110000 := by
      have valid : c.val.toNat < 0xD800 ∨ 0xDFFF < c.val.toNat ∧ c.val.toNat < 0x110000 := c.valid
      omega
    have same : c.val.toNat = c.toNat := rfl
    unfold String.utf8EncodeChar at member
    dsimp only at member
    split_ifs at member
    · omega
    all_goals
      simp only [List.mem_cons, List.not_mem_nil, or_false] at member
      rcases member with rfl | rfl | rfl | rfl <;> simp only [UInt8.toNat_ofNat'] <;> omega

/-- Only these characters have the bytes that a query string reads. -/
theorem byte_of_char {c : Char} {b : UInt8} (member : b ∈ String.utf8EncodeChar c) (small : b.toNat < 128) :
    c = Char.ofNat b.toNat := by
  rcases utf8EncodeChar_ascii c with ⟨ascii, less⟩ | ⟨high, -⟩
  · rw [ascii, List.mem_singleton] at member
    have value : b.toNat = c.toNat := by
      rw [member, UInt8.toNat_ofNat']
      omega
    rw [value, Char.ofNat_toNat]
  · have big := high b member
    omega

/-- A character that is not `%` has no such byte. -/
theorem not_percent {c : Char} (other : c ≠ '%') : ∀ b ∈ String.utf8EncodeChar c, b ≠ 37 := by
  intro b member is
  subst is
  exact other (byte_of_char member (by decide))

/-- A character begins with a byte that cannot continue another one. -/
theorem utf8EncodeChar_lead (c : Char) : ∃ b rest, String.utf8EncodeChar c = b :: rest ∧
    (b.toNat < 0x80 ∨ 0xBF < b.toNat) := by
  have size : c.val.toNat < 0x110000 := by
    have valid : c.val.toNat < 0xD800 ∨ 0xDFFF < c.val.toNat ∧ c.val.toNat < 0x110000 := c.valid
    omega
  unfold String.utf8EncodeChar
  dsimp only
  split_ifs
  · refine ⟨_, _, rfl, .inl ?_⟩
    rw [UInt8.toNat_ofNat']
    omega
  all_goals
    refine ⟨_, _, rfl, .inr ?_⟩
    rw [UInt8.toNat_ofNat']
    omega

/-! ### Characters behind other bytes -/

/-- What may continue a character lies between these bounds. -/
def Utf8State.Fine (st : Utf8State) : Prop := 0x80 ≤ st.lower ∧ st.upper ≤ 0xBF

/-- A character that was begun and is not finished. -/
def Utf8State.pending (st : Utf8State) : List Char := if st.missing = 0 then [] else [replacement]

theorem fine_start : Utf8State.start.Fine := by
  constructor <;> decide

theorem fine_utf8Step (st : Utf8State) (b : Nat) : (utf8Step st b).2.Fine := by
  have lead : (leadByte b).2.Fine := by
    unfold leadByte Utf8State.Fine
    split_ifs <;> simp [Utf8State.start]
  unfold utf8Step
  split_ifs
  · exact lead
  · exact fine_start
  · constructor <;> dsimp only <;> omega
  · exact lead

/-- A character is read whole, whatever was begun before it. -/
theorem utf8Decode_char {st : Utf8State} (fine : st.Fine) (c : Char) (rest : Bytes) :
    utf8Decode st (String.utf8EncodeChar c ++ rest) = st.pending ++ c :: utf8Decode .start rest := by
  obtain ⟨b, more, encoded, lead⟩ := utf8EncodeChar_lead c
  have whole := utf8Decode_encodeChar c rest
  rw [encoded, List.cons_append] at whole ⊢
  have first : utf8Step .start b.toNat = leadByte b.toNat := rfl
  rw [utf8Decode, first] at whole
  have out : ¬(st.lower ≤ b.toNat ∧ b.toNat ≤ st.upper) := by
    have lower := fine.1
    have upper := fine.2
    omega
  rw [utf8Decode, utf8Step, Utf8State.pending]
  by_cases idle : st.missing = 0
  · rw [if_pos idle, if_pos idle, whole, List.nil_append]
  · rw [if_neg idle, if_neg idle, if_neg out, List.cons_append, whole]
    rfl

/-! ### Escapes in a text -/

/-- A text that begins with `%` and two hexadecimal digits. -/
def startsEscape : List Char → Bool
  | '%' :: high :: low :: _ => (Json.hexValue high).isSome && (Json.hexValue low).isSome
  | _ => false

/-- How many escapes a text holds. -/
def escapes : List Char → Nat
  | [] => 0
  | c :: rest => (if startsEscape (c :: rest) then 1 else 0) + escapes rest

theorem startsEscape_other {c : Char} (other : c ≠ '%') (rest : List Char) : startsEscape (c :: rest) = false := by
  unfold startsEscape
  split
  · rename_i h
    cases h
    exact absurd rfl other
  · rfl

/-- An escape, spelled out: its digits begin no other one. -/
theorem startsEscape_spelled {text : List Char} (starts : startsEscape text = true) :
    ∃ high low rest h l, text = '%' :: high :: low :: rest ∧ Json.hexValue high = some h ∧
      Json.hexValue low = some l ∧ escapes text = 1 + escapes rest := by
  have digit {c : Char} {n : Nat} (value : Json.hexValue c = some n) : c ≠ '%' := by
    intro is
    subst is
    cases value
  have whole := starts
  unfold startsEscape at starts
  split at starts
  · rename_i high low rest
    obtain ⟨left, right⟩ := Bool.and_eq_true_iff.mp starts
    obtain ⟨h, valueH⟩ := Option.isSome_iff_exists.mp left
    obtain ⟨l, valueL⟩ := Option.isSome_iff_exists.mp right
    refine ⟨high, low, rest, h, l, rfl, valueH, valueL, ?_⟩
    rw [escapes, if_pos whole, escapes, startsEscape_other (digit valueH), escapes, startsEscape_other (digit valueL)]
    simp
  · cases starts

/-- A comma ends an escape that was not complete. -/
theorem startsEscape_comma (c : Char) (rest more : List Char) :
    startsEscape (c :: (rest ++ ',' :: more)) = startsEscape (c :: rest) := by
  by_cases percent : c = '%'
  · subst percent
    match rest with
    | [] =>
      cases more <;> rfl
    | [high] =>
      have comma : Json.hexValue ',' = none := by decide
      simp [startsEscape, comma]
    | high :: low :: tail => rfl
  · rw [startsEscape_other percent, startsEscape_other percent]

theorem escapes_comma (text more : List Char) : escapes (text ++ ',' :: more) = escapes text + escapes more := by
  induction text with
  | nil =>
    have comma : (',' : Char) ≠ '%' := by decide
    simp [escapes, startsEscape_other comma]
  | cons c rest ih =>
    rw [List.cons_append, escapes, startsEscape_comma, ih, escapes]
    omega

/-! ### Reading a text back -/

/-- The bytes of a text in a query string, where `+` is a space. -/
def queryBytes (text : List Char) : Bytes :=
  (text.flatMap String.utf8EncodeChar).map fun b => if b = 43 then 32 else b

def plusToSpace (c : Char) : Char := if c = '+' then ' ' else c

theorem queryBytes_cons (c : Char) (rest : List Char) :
    queryBytes (c :: rest) = String.utf8EncodeChar (plusToSpace c) ++ queryBytes rest := by
  have first : (String.utf8EncodeChar c).map (fun b => if b = 43 then 32 else b) =
      String.utf8EncodeChar (plusToSpace c) := by
    by_cases plus : c = '+'
    · subst plus
      decide
    · have same : ∀ b ∈ String.utf8EncodeChar c, (if b = 43 then 32 else b) = b := by
        intro b member
        apply if_neg
        intro is
        subst is
        exact plus (byte_of_char member (by decide))
      rw [plusToSpace, if_neg plus, List.map_congr_left same, List.map_id']
  rw [queryBytes, List.flatMap_cons, List.map_append, first]
  rfl

/-- Bytes without `%` stand for themselves. -/
theorem percentDecode_append {bytes : Bytes} (free : ∀ b ∈ bytes, b ≠ 37) (rest : Bytes) :
    percentDecode (bytes ++ rest) = bytes ++ percentDecode rest := by
  induction bytes with
  | nil => rfl
  | cons b bytes ih =>
    rw [List.cons_append, percentDecode_cons (free b (by simp)), ih fun a member => free a (by simp [member]),
      List.cons_append]

/-- A hexadecimal digit is one byte, and reads as it does in the text. -/
theorem hexValue_byte {c : Char} {n : Nat} (digit : Json.hexValue c = some n) :
    ∃ b : UInt8, String.utf8EncodeChar (plusToSpace c) = [b] ∧ Json.hexValue (Char.ofNat b.toNat) = some n := by
  have plain : plusToSpace c = c := by
    apply if_neg
    intro plus
    subst plus
    cases digit
  have range := Json.hexValue_range digit
  rcases utf8EncodeChar_ascii c with ⟨ascii, small⟩ | ⟨-, big⟩
  · refine ⟨UInt8.ofNat c.toNat, plain.symm ▸ ascii, ?_⟩
    have value : (UInt8.ofNat c.toNat).toNat = c.toNat := by
      rw [UInt8.toNat_ofNat']
      omega
    rw [value, Char.ofNat_toNat, digit]
  · omega

/-- A byte that is a hexadecimal digit comes from that digit. -/
theorem queryBytes_digit {text : List Char} {b : UInt8} {bytes : Bytes} {n : Nat} (spelled : queryBytes text = b :: bytes)
    (digit : Json.hexValue (Char.ofNat b.toNat) = some n) :
    ∃ c rest, text = c :: rest ∧ Json.hexValue c = some n ∧ queryBytes rest = bytes := by
  cases text with
  | nil => cases spelled
  | cons c rest =>
    rw [queryBytes_cons] at spelled
    have small : b.toNat < 128 := by
      have range := Json.hexValue_range digit
      have bound := b.toNat_lt
      have same : (Char.ofNat b.toNat).toNat = b.toNat := by
        have known : ∀ n < 256, (Char.ofNat n).toNat = n := by decide +kernel
        exact known _ bound
      omega
    obtain ⟨lead, more, encoded, -⟩ := utf8EncodeChar_lead (plusToSpace c)
    have first : lead = b := by
      rw [encoded] at spelled
      exact (List.cons.inj spelled).1
    have is : plusToSpace c = Char.ofNat b.toNat := byte_of_char (by rw [encoded, first]; simp) small
    rw [← is] at digit
    have plain : plusToSpace c = c := by
      apply if_neg
      intro plus
      subst plus
      cases digit
    rw [plain] at digit
    obtain ⟨byte, single, -⟩ := hexValue_byte digit
    rw [single] at spelled
    exact ⟨c, rest, rfl, digit, (List.cons.inj spelled).2⟩

/-- An escape is one byte. -/
theorem percentDecode_escape {high low : Char} {h l : Nat} (left : Json.hexValue high = some h)
    (right : Json.hexValue low = some l) (rest : List Char) :
    percentDecode (queryBytes ('%' :: high :: low :: rest)) =
      UInt8.ofNat (h * 16 + l) :: percentDecode (queryBytes rest) := by
  obtain ⟨a, encodedA, valueA⟩ := hexValue_byte left
  obtain ⟨b, encodedB, valueB⟩ := hexValue_byte right
  have percent : String.utf8EncodeChar (plusToSpace '%') = [37] := by decide
  rw [queryBytes_cons, queryBytes_cons, queryBytes_cons, percent, encodedA, encodedB]
  simp only [List.cons_append, List.nil_append, percentDecode, valueA, valueB]

/-- Any other character stands for itself. -/
theorem percentDecode_char {c : Char} {rest : List Char} (plain : startsEscape (c :: rest) = false) :
    percentDecode (queryBytes (c :: rest)) =
      String.utf8EncodeChar (plusToSpace c) ++ percentDecode (queryBytes rest) := by
  rw [queryBytes_cons]
  by_cases percent : c = '%'
  · subst percent
    have encoded : String.utf8EncodeChar (plusToSpace '%') = [37] := by decide
    rw [encoded, List.cons_append, List.nil_append, percentDecode.eq_def]
    split
    · rename_i high low more spelled
      have bytes := (List.cons.inj spelled).2
      split
      · rename_i h l valueH valueL
        obtain ⟨a, textA, isText, digitA, next⟩ := queryBytes_digit bytes valueH
        obtain ⟨b, textB, isText', digitB, -⟩ := queryBytes_digit next valueL
        rw [isText, isText', startsEscape, digitA, digitB] at plain
        cases plain
      · rw [bytes]
        rfl
    · rename_i spelled
      obtain ⟨isB, isRest⟩ := List.cons.inj spelled
      rw [← isB, ← isRest]
      rfl
    · rename_i spelled
      cases spelled
  · apply percentDecode_append
    apply not_percent
    unfold plusToSpace
    split
    · decide
    · exact percent

theorem length_pending (st : Utf8State) : st.pending.length = if st.missing = 0 then 0 else 1 := by
  unfold Utf8State.pending
  split <;> rfl

/-- Reading a text back does not make it longer, and every escape shortens it by two. -/
theorem length_decoded (text : List Char) {st : Utf8State} (fine : st.Fine) :
    (utf8Decode st (percentDecode (queryBytes text))).length + 2 * escapes text ≤ text.length + st.pending.length := by
  -- an escape takes three characters at once
  induction size : text.length using Nat.strong_induction_on generalizing text st with
  | _ n ih =>
    cases text with
    | nil => simp [queryBytes, percentDecode, utf8Decode, escapes, Utf8State.pending]
    | cons c rest =>
      rw [List.length_cons] at size
      cases starts : startsEscape (c :: rest) with
      | true =>
        obtain ⟨high, low, more, h, l, spelled, left, right, count⟩ := startsEscape_spelled starts
        have shorter : rest.length = more.length + 2 := by
          rw [(List.cons.inj spelled).2]
          rfl
        rw [count, spelled, percentDecode_escape left right, utf8Decode, List.length_append]
        have step := length_utf8Step st (UInt8.ofNat (h * 16 + l)).toNat
        have tail := ih more.length (by omega) more (fine_utf8Step st (UInt8.ofNat (h * 16 + l)).toNat) rfl
        rw [length_pending] at tail ⊢
        omega
      | false =>
        have tail := ih rest.length (by omega) rest fine_start rfl
        have idle : Utf8State.start.pending.length = 0 := rfl
        rw [percentDecode_char starts, utf8Decode_char fine, escapes, starts, List.length_append, List.length_cons]
        simp only [Bool.false_eq_true, if_false]
        omega

/-- A text without escapes is read back with its `+` turned into spaces. -/
theorem decoded_plain {text : List Char} (none : escapes text = 0) :
    utf8Decode .start (percentDecode (queryBytes text)) = text.map plusToSpace := by
  induction text with
  | nil => rfl
  | cons c rest ih =>
    rw [escapes] at none
    have starts : startsEscape (c :: rest) = false := by
      by_contra escape
      rw [if_pos (Bool.eq_true_of_not_eq_false escape)] at none
      omega
    rw [percentDecode_char starts, utf8Decode_char fine_start, ih (by omega)]
    rfl

end WalletPair.Sdk
