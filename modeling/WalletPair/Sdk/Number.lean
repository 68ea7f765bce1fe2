import Mathlib.Data.Nat.Digits.Lemmas
import Mathlib.Tactic.Linarith
import Mathlib.Tactic.Positivity
import WalletPair.Sdk.Json

/-! JavaScript numbers: doubles with their rounding, the texts that `toString` writes and
the numbers that `parseInt` and `Number` read. -/

namespace WalletPair.Sdk

inductive Num where
  | nan
  | infinity (negative : Bool)
  | finite (value : ℚ)
  deriving DecidableEq

namespace Num

/-! ### Rounding -/

/-- The significand of the double nearest to `n / d`, and the power of two that it is
scaled by. Ties go to the even significand. -/
def significand (n d : Nat) : Nat × Int :=
  -- subnormal from a scale of 1074 on
  let scale : Int := if d ≤ n then 52 - Nat.log2 (n / d) else min 1074 (53 + Nat.log2 ((d - 1) / n))
  let top := n * 2 ^ scale.toNat
  let bottom := d * 2 ^ (-scale).toNat
  let floor := top / bottom
  let twice := 2 * (top % bottom)
  (if bottom < twice ∨ (bottom = twice ∧ floor % 2 = 1) then floor + 1 else floor, scale)

/-- The double nearest to a number. -/
def nearest (q : ℚ) : Num :=
  if q = 0 then .finite 0
  else
    let (digits, scale) := significand q.num.natAbs q.den
    let magnitude : ℚ := digits * 2 ^ (-scale).toNat / 2 ^ scale.toNat
    if 2 ^ 1024 ≤ magnitude then .infinity (q < 0)
    else .finite (if q < 0 then -magnitude else magnitude)

/-- The number that a JSON text spells. -/
def ofDecimal (mantissa : Int) (exponent : Nat) : Num := nearest (mantissa / 10 ^ exponent)

def size (q : ℚ) : ℚ := if q < 0 then -q else q

/-- `Number.isFinite(n) && n > 0`. -/
def isPositive : Num → Bool
  | .finite q => 0 < q
  | _ => false

/-- Whether a condition takes the number for true. -/
def truthy : Num → Bool
  | .nan => false
  | .finite q => q ≠ 0
  | .infinity _ => true

/-! ### Writing -/

/-- The position of the decimal point of a positive number. -/
def pointOf (q : ℚ) : Int :=
  if 1 ≤ q then (Nat.toDigits 10 q.floor.toNat).length
  else
    let zeros := (List.range 400).find? (fun k => 1 ≤ q * 10 ^ (k + 1))
    Int.negOfNat (zeros.getD 400)

/-- The fewest digits that read back as the double, with the closest of their values. -/
def shortestDigits (q : ℚ) : Int × Int :=
  let point := pointOf q
  let tries := (List.range 17).filterMap fun k =>
    let shift : Int := k + 1 - point
    let scaled : ℚ := q * 10 ^ shift.toNat / 10 ^ (-shift).toNat
    let value (digits : Int) : ℚ := digits * 10 ^ (-shift).toNat / 10 ^ shift.toNat
    let below := scaled.floor
    let near := if scaled - below ≤ 1 / 2 then [below, below + 1] else [below + 1, below]
    (near.find? fun digits => nearest (value digits) = .finite q).map fun digits => (digits, shift)
  tries.head?.getD (q.floor, 0)

/-- `String(n)`. -/
def text : Num → String
  | .nan => "NaN"
  | .infinity negative => if negative then "-Infinity" else "Infinity"
  | .finite q =>
    if q.den = 1 ∧ q.num.natAbs ≤ 2 ^ 53 then toString q.num
    else
      let (digits, shift) := shortestDigits (size q)
      let mantissa := if q < 0 then -digits else digits
      String.ofList (Json.numberText (mantissa * 10 ^ (-shift).toNat) shift.toNat)

/-- The hexadecimal digits after the point. -/
def hexFraction : Nat → ℚ → List Char
  | 0, _ => []
  | fuel + 1, q =>
    if q = 0 then []
    else Nat.digitChar (q * 16).floor.toNat :: hexFraction fuel (q * 16 - (q * 16).floor)

/-- `n.toString(16)`. -/
def hexText : Num → String
  | .nan => "NaN"
  | .infinity negative => if negative then "-Infinity" else "Infinity"
  | .finite q =>
    let whole := Nat.toDigits 16 (size q).floor.toNat
    let fraction := hexFraction 270 (size q - (size q).floor)
    String.ofList ((if q < 0 then ['-'] else []) ++ whole ++ (if fraction = [] then [] else '.' :: fraction))

/-! ### Reading -/

/-- White space and line terminators. -/
def isWhite (c : Char) : Bool :=
  [0x09, 0x0A, 0x0B, 0x0C, 0x0D, 0x20, 0xA0, 0x1680, 0x2028, 0x2029, 0x202F, 0x205F, 0x3000, 0xFEFF].contains c.toNat ||
    (0x2000 ≤ c.toNat && c.toNat ≤ 0x200A)

/-- The value of a digit below the radix. -/
def digitValue (radix : Nat) (c : Char) : Option Nat := (Json.hexValue c).filter (· < radix)

/-- The digits that a text starts with, as a number, and how many there are. -/
def leadingDigits (radix : Nat) : Nat → List Char → Nat × Nat
  | acc, c :: rest =>
    match digitValue radix c with
    | some d => ((leadingDigits radix (acc * radix + d) rest).1, (leadingDigits radix (acc * radix + d) rest).2 + 1)
    | none => (acc, 0)
  | acc, [] => (acc, 0)

/-- An optional sign, and what follows it. -/
def splitSign : List Char → Bool × List Char
  | '-' :: rest => (true, rest)
  | '+' :: rest => (false, rest)
  | cs => (false, cs)

/-- The prefix of a hexadecimal number is optional. -/
def stripHex : List Char → List Char
  | '0' :: 'x' :: rest => rest
  | '0' :: 'X' :: rest => rest
  | cs => cs

/-- `Number.parseInt(text, radix)` for a radix of ten or sixteen. -/
def parseInt (cs : List Char) (radix : Nat) : Num :=
  let (negative, cs) := splitSign (cs.dropWhile isWhite)
  let (value, count) := leadingDigits radix 0 (if radix = 16 then stripHex cs else cs)
  if count = 0 then .nan
  else nearest (if negative then -(value : ℚ) else value)

/-- A decimal literal without sign, all of the text. -/
def decimalLiteral (cs : List Char) : Num :=
  let (whole, rest) := Json.takeDigits cs
  let (fraction, rest) := match rest with
    | '.' :: more => Json.takeDigits more
    | rest => ([], rest)
  if whole = [] ∧ fraction = [] then .nan
  else
    let value : ℚ := Json.digitsValue (whole ++ fraction) / 10 ^ fraction.length
    match rest with
    | [] => nearest value
    | e :: more =>
      let (negative, more) := splitSign more
      let (power, rest) := Json.takeDigits more
      if (e ≠ 'e' ∧ e ≠ 'E') ∨ power = [] ∨ rest ≠ [] then .nan
      else if negative then nearest (value / 10 ^ Json.digitsValue power)
      else nearest (value * 10 ^ Json.digitsValue power)

/-- Digits of a radix, all of the text. -/
def radixLiteral (radix : Nat) (cs : List Char) : Num :=
  let (value, count) := leadingDigits radix 0 cs
  if count = 0 ∨ count ≠ cs.length then .nan else nearest value

def negate : Num → Num
  | .finite q => .finite (-q)
  | .infinity negative => .infinity !negative
  | .nan => .nan

/-- `Number(text)`. -/
def ofText (s : String) : Num :=
  let trimmed := (s.toList.dropWhile isWhite).reverse.dropWhile isWhite |>.reverse
  let unsigned (cs : List Char) : Num := if cs = "Infinity".toList then .infinity false else decimalLiteral cs
  match trimmed with
  | [] => .finite 0
  | '0' :: 'x' :: rest | '0' :: 'X' :: rest => radixLiteral 16 rest
  | '0' :: 'o' :: rest | '0' :: 'O' :: rest => radixLiteral 8 rest
  | '0' :: 'b' :: rest | '0' :: 'B' :: rest => radixLiteral 2 rest
  | '-' :: rest => negate (unsigned rest)
  | '+' :: rest => unsigned rest
  | cs => unsigned cs

/-- The byte that a typed array stores. -/
def toUint8 : Num → UInt8
  | .finite q => UInt8.ofNat ((if q < 0 then -(-q).floor else q.floor) % 256).toNat
  | _ => 0

/-! ### Exact numbers -/

theorem significand_small {n : Nat} (pos : 0 < n) (small : n < 2 ^ 53) :
    ∃ scale : Nat, significand n 1 = (n * 2 ^ scale, (scale : Int)) := by
  have low : Nat.log2 n ≤ 52 := Nat.lt_succ_iff.mp ((Nat.log2_lt (by omega)).mpr small)
  refine ⟨52 - Nat.log2 n, ?_⟩
  have scale : (52 : Int) - Nat.log2 n = ((52 - Nat.log2 n : Nat) : Int) := by omega
  simp only [significand, Nat.div_one, if_pos (show 1 ≤ n from pos), scale]
  simp [Nat.mod_one]

/-- From `2 ^ 53` on the low bits are rounded away. -/
theorem significand_large {n : Nat} (large : 2 ^ 53 ≤ n) :
    ∃ k digits : Nat, significand n 1 = (digits, -(k : Int)) ∧ 0 < digits ∧ digits * 2 ^ k ≤ 2 * n := by
  have high : 53 ≤ Nat.log2 n := (Nat.le_log2 (by omega)).mpr large
  have scale : (52 : Int) - Nat.log2 n = -((Nat.log2 n - 52 : Nat) : Int) := by omega
  have power : 2 ^ (Nat.log2 n - 52) ≤ n :=
    (Nat.pow_le_pow_right (by decide) (Nat.sub_le _ 52)).trans (Nat.log2_self_le (by omega))
  have whole : 0 < n / 2 ^ (Nat.log2 n - 52) := Nat.div_pos power (by positivity)
  have below : n / 2 ^ (Nat.log2 n - 52) * 2 ^ (Nat.log2 n - 52) ≤ n := Nat.div_mul_le_self _ _
  simp only [significand, Nat.div_one, if_pos (show 1 ≤ n by omega), scale]
  refine ⟨Nat.log2 n - 52, _, rfl, ?_, ?_⟩
  · split
    · exact Nat.succ_pos _
    · simpa using whole
  · simp only [Int.toNat_neg_natCast, pow_zero, mul_one, neg_neg, Int.toNat_natCast, one_mul]
    split
    · rw [Nat.add_mul]
      omega
    · omega

/-- Small numbers are doubles. -/
theorem nearest_nat {n : Nat} (small : n < 2 ^ 53) : nearest (n : ℚ) = .finite n := by
  rcases Nat.eq_zero_or_pos n with rfl | pos
  · simp [nearest]
  obtain ⟨scale, split⟩ := significand_small pos small
  have nonzero : (n : ℚ) ≠ 0 := by exact_mod_cast pos.ne'
  have value : ((n * 2 ^ scale : Nat) : ℚ) * 2 ^ (-(scale : Int)).toNat / 2 ^ (scale : Int).toNat = n := by
    rw [Int.toNat_neg_natCast, Int.toNat_natCast, pow_zero, mul_one]
    push_cast
    exact mul_div_cancel_right₀ _ (by positivity)
  have bounded : ¬ (2 : ℚ) ^ 1024 ≤ n := by
    have : n < 2 ^ 1024 := small.trans (by decide +kernel)
    exact not_le.mpr (by exact_mod_cast this)
  have positive : ¬ (n : ℚ) < 0 := not_lt.mpr (by positivity)
  simp only [nearest, if_neg nonzero, Rat.num_natCast, Int.natAbs_natCast, Rat.den_natCast, split, value, if_neg bounded,
    if_neg positive]

/-- A number far below the largest double has a positive double. -/
theorem nearest_positive {n : Nat} (pos : 0 < n) (bounded : n < 10 ^ 21) : (nearest (n : ℚ)).isPositive = true := by
  by_cases small : n < 2 ^ 53
  · rw [nearest_nat small]
    simpa [isPositive] using pos
  obtain ⟨k, digits, split, some, below⟩ := significand_large (Nat.le_of_not_lt small)
  have nonzero : (n : ℚ) ≠ 0 := by exact_mod_cast pos.ne'
  have value : (digits : ℚ) * 2 ^ (-(-(k : Int))).toNat / 2 ^ (-(k : Int)).toNat = ((digits * 2 ^ k : Nat) : ℚ) := by
    rw [neg_neg, Int.toNat_neg_natCast, Int.toNat_natCast, pow_zero, div_one]
    push_cast
    rfl
  have fits : ¬ (2 : ℚ) ^ 1024 ≤ ((digits * 2 ^ k : Nat) : ℚ) := by
    have limit : 2 * 10 ^ 21 < 2 ^ 1024 := by decide +kernel
    have : digits * 2 ^ k < 2 ^ 1024 := by omega
    exact not_le.mpr (by exact_mod_cast this)
  have positive : ¬ (n : ℚ) < 0 := not_lt.mpr (by positivity)
  have result : 0 < digits * 2 ^ k := by positivity
  simp only [nearest, if_neg nonzero, Rat.num_natCast, Int.natAbs_natCast, Rat.den_natCast, split, value, if_neg fits,
    if_neg positive, isPositive, decide_eq_true_eq]
  exact_mod_cast result

theorem text_nat {n : Nat} (small : n ≤ 2 ^ 53) : (Num.finite n).text = toString n := by
  have whole : (n : ℚ).den = 1 ∧ (n : ℚ).num.natAbs ≤ 2 ^ 53 := by simpa using small
  rw [text, if_pos whole, Rat.num_natCast]
  rfl

end Num

/-- The hexadecimal digits lie between `0` and `f`. -/
theorem Json.hexValue_range {c : Char} {n : Nat} (read : Json.hexValue c = some n) :
    48 ≤ c.toNat ∧ c.toNat ≤ 102 ∧ n < 16 := by
  unfold Json.hexValue at read
  simp only [Char.le_def, UInt32.le_iff_toNat_le, Char.toNat_val, Char.reduceToNat] at read
  split_ifs at read <;> simp only [Option.some.injEq] at read <;> omega

namespace Num

/-- A digit is neither a space nor a sign. -/
theorem digit_plain {radix d : Nat} {c : Char} (digit : digitValue radix c = some d) :
    isWhite c = false ∧ c ≠ '-' ∧ c ≠ '+' := by
  have range := Json.hexValue_range (Option.filter_eq_some_iff.mp digit).1
  refine ⟨?_, ?_, ?_⟩
  · simp only [isWhite, Bool.or_eq_false_iff, Bool.and_eq_false_imp, decide_eq_true_eq, decide_eq_false_iff_not]
    refine ⟨?_, fun _ => by omega⟩
    simp only [List.contains_eq_mem, List.mem_cons, List.not_mem_nil, or_false, decide_eq_false_iff_not]
    omega
  · rintro rfl
    exact absurd range.1 (by decide)
  · rintro rfl
    exact absurd range.1 (by decide)

theorem splitSign_digit {radix d : Nat} {c : Char} (digit : digitValue radix c = some d) (rest : List Char) :
    splitSign (c :: rest) = (false, c :: rest) := by
  obtain ⟨-, minus, plus⟩ := digit_plain digit
  unfold splitSign
  split
  · rename_i same
    exact absurd (List.cons.inj same).1 minus
  · rename_i same
    exact absurd (List.cons.inj same).1 plus
  · rfl

/-- Two hexadecimal digits. -/
theorem parseInt_pair {a b : Char} {high low : Nat} (left : Json.hexValue a = some high)
    (right : Json.hexValue b = some low) : parseInt [a, b] 16 = .finite (high * 16 + low : Nat) := by
  have first := Json.hexValue_range left
  have second := Json.hexValue_range right
  have leftDigit : digitValue 16 a = some high := Option.filter_eq_some_iff.mpr ⟨left, by simpa using first.2.2⟩
  have rightDigit : digitValue 16 b = some low := Option.filter_eq_some_iff.mpr ⟨right, by simpa using second.2.2⟩
  have kept : [a, b].dropWhile isWhite = [a, b] := by simp [(digit_plain leftDigit).1]
  have bare : stripHex [a, b] = [a, b] := by
    unfold stripHex
    split
    · rename_i same
      have letter : b = 'x' := (List.cons.inj (List.cons.inj same).2).1
      exact absurd second.2.1 (by rw [letter]; decide)
    · rename_i same
      have letter : b = 'X' := (List.cons.inj (List.cons.inj same).2).1
      rw [letter] at right
      cases right
    · rfl
  have small : high * 16 + low < 2 ^ 53 := by omega
  simp only [parseInt, kept, splitSign_digit leftDigit, if_true, bare, leadingDigits, leftDigit, rightDigit]
  simpa using nearest_nat small

theorem toUint8_nat {n : Nat} (small : n < 256) : (Num.finite n).toUint8 = UInt8.ofNat n := by
  have positive : ¬ (n : ℚ) < 0 := not_lt.mpr (Nat.cast_nonneg n)
  have whole : (n : ℚ).floor = n := by simp [Rat.floor]
  simp only [toUint8, if_neg positive, whole]
  congr 1
  omega

end Num

/-- A number written in digits only has at most 21 of them. -/
theorem Json.numberText_length {mantissa : Int} {exponent : Nat}
    (plain : ∀ c ∈ Json.numberText mantissa exponent, c.isDigit = true) :
    (Json.numberText mantissa exponent).length ≤ 21 := by
  unfold Json.numberText at plain ⊢
  by_cases zero : mantissa = 0
  · simp [zero]
  rw [if_neg zero] at plain ⊢
  generalize Json.trimZeros mantissa.natAbs mantissa.natAbs 0 = trimmed at plain ⊢
  obtain ⟨digits, dropped⟩ := trimmed
  dsimp only at plain ⊢
  generalize Nat.toDigits 10 digits = ds at plain ⊢
  generalize (ds.length : Int) + dropped - exponent = point at plain ⊢
  by_cases negative : mantissa < 0
  · rw [if_pos negative] at plain
    exact absurd (plain '-' (by simp)) (by decide)
  rw [if_neg negative] at plain ⊢
  by_cases whole : (ds.length : Int) ≤ point ∧ point ≤ 21
  · rw [if_pos whole, List.length_append, List.length_replicate]
    omega
  rw [if_neg whole] at plain ⊢
  by_cases fraction : 0 < point ∧ point ≤ 21
  · rw [if_pos fraction] at plain
    exact absurd (plain '.' (by simp)) (by decide)
  rw [if_neg fraction] at plain ⊢
  by_cases tiny : -6 < point ∧ point ≤ 0
  · rw [if_pos tiny] at plain
    exact absurd (plain '.' (by simp)) (by decide)
  rw [if_neg tiny] at plain
  exfalso
  by_cases one : ds.length = 1
  · rw [if_pos one] at plain
    exact absurd (plain 'e' (by simp)) (by decide)
  · rw [if_neg one] at plain
    exact absurd (plain 'e' (by simp)) (by decide)

namespace Num

theorem toString_injective {m n : Nat} (same : toString m = toString n) : m = n := by
  have digits : Nat.toDigits 10 m = Nat.toDigits 10 n := by
    rw [Nat.toString_eq_ofList_toDigits, Nat.toString_eq_ofList_toDigits] at same
    exact String.ofList_injective same
  rw [← @Nat.ofDigitChars_ten_toDigits m, digits, Nat.ofDigitChars_ten_toDigits]

/-- What is written as a number in digits only is short. -/
theorem lt_of_text {n : Num} {value : Nat} (same : n.text = toString value) : value < 10 ^ 21 := by
  have spelled : n.text.toList = Nat.toDigits 10 value := by
    rw [same, Nat.toString_eq_ofList_toDigits, String.toList_ofList]
  have digits : ∀ c ∈ n.text.toList, c.isDigit = true := fun c member =>
    Nat.isDigit_of_mem_toDigits (by decide) (by decide) (spelled ▸ member)
  cases n with
  | nan => exact absurd (digits 'N' (by decide)) (by decide)
  | infinity negative => cases negative <;> exact absurd (digits 'I' (by decide)) (by decide)
  | finite q =>
    by_cases safe : q.den = 1 ∧ q.num.natAbs ≤ 2 ^ 53
    · rw [text, if_pos safe] at same digits
      have limit : 2 ^ 53 < 10 ^ 21 := by decide
      cases whole : q.num with
      | ofNat k =>
        rw [whole] at same safe
        have value : k = value := toString_injective same
        have bound : k ≤ 2 ^ 53 := safe.2
        omega
      | negSucc k =>
        rw [whole] at digits
        exact absurd (digits '-' (by simp [toString, Int.repr])) (by decide)
    · have short : (Num.finite q).text.toList.length ≤ 21 := by
        rw [text, if_neg safe] at digits ⊢
        dsimp only at digits ⊢
        rw [String.toList_ofList] at digits ⊢
        exact Json.numberText_length digits
      rw [spelled] at short
      exact (Nat.length_toDigits_le_iff (by decide) (by decide)).mp short

end Num

end WalletPair.Sdk
