import Mathlib.Algebra.GroupWithZero.Nat
import WalletPair.Sdk.Json

/-! The text of a JSON value, read by the common grammar without deciding what its literals
stand for: a number keeps its digits, and a string is a list of UTF-16 code units, which an
escape may leave without a partner. Both relays read this, each in its own way. -/

namespace WalletPair.Relay
open WalletPair.Sdk.Json

/-! ### Code units -/

/-- A string of JavaScript. -/
abbrev Units := List UInt16

def charUnits (c : Char) : Units :=
  if c.toNat < 0x10000 then [UInt16.ofNat c.toNat]
  else
    let rest := c.toNat - 0x10000
    [UInt16.ofNat (0xD800 + rest / 0x400), UInt16.ofNat (0xDC00 + rest % 0x400)]

def units (text : List Char) : Units := text.flatMap charUnits

/-- The length of the text in UTF-8. -/
def utf8Length (text : List Char) : Nat := (text.map Char.utf8Size).sum

/-- Every character takes at least as many bytes as code units. -/
theorem units_length_le (text : List Char) : (units text).length ≤ utf8Length text := by
  have one : ∀ c : Char, (charUnits c).length ≤ c.utf8Size := by
    intro c
    have size : c.utf8Size = if c.val ≤ 0x7f then 1 else if c.val ≤ 0x7ff then 2 else if c.val ≤ 0xffff then 3 else 4 :=
      rfl
    rw [size]
    unfold charUnits
    split
    · simp only [List.length_singleton]
      split_ifs <;> omega
    · next large =>
      have above : ¬ c.val ≤ 0xffff := by
        intro small
        have bound : c.val.toNat ≤ (0xffff : UInt32).toNat := small
        have same : c.toNat = c.val.toNat := rfl
        have top : (0xffff : UInt32).toNat = 65535 := rfl
        omega
      have first : ¬ c.val ≤ 0x7f := fun small => above (UInt32.le_trans small (by decide))
      have second : ¬ c.val ≤ 0x7ff := fun small => above (UInt32.le_trans small (by decide))
      rw [if_neg first, if_neg second, if_neg above]
      simp
  induction text with
  | nil => simp [units, utf8Length]
  | cons c rest ih =>
    have head := one c
    simp only [units, utf8Length, List.flatMap_cons, List.length_append, List.map_cons, List.sum_cons] at ih ⊢
    omega

def isHigh (u : UInt16) : Bool := 0xD800 ≤ u && u < 0xDC00

def isLow (u : UInt16) : Bool := 0xDC00 ≤ u && u < 0xE000

/-- Every high surrogate is followed by a low one, and no low one stands alone. -/
def wellFormed : Units → Bool
  | [] => true
  | [u] => !isHigh u && !isLow u
  | u :: v :: rest => if isHigh u then isLow v && wellFormed rest else !isLow u && wellFormed (v :: rest)

/-! ### The tree -/

/-- A number as it is written; the exponent is its sign and its digits. -/
structure NumberLiteral where
  negative : Bool
  whole : List Char
  fraction : Option (List Char)
  exponent : Option (Bool × List Char)
  deriving DecidableEq

/-- The decimal `mantissa * 10 ^ (-exponent)` that is written. -/
def NumberLiteral.decimal (l : NumberLiteral) : Int × Nat :=
  let fraction := l.fraction.getD []
  let power : Int := match l.exponent with
    | none => 0
    | some (true, digits) => -(digitsValue digits : Int)
    | some (false, digits) => digitsValue digits
  let digits := digitsValue (l.whole ++ fraction)
  let shift : Int := fraction.length - power
  let magnitude : Nat := if shift < 0 then digits * 10 ^ (-shift).toNat else digits
  (if l.negative then -(magnitude : Int) else magnitude, shift.toNat)

inductive JsonText where
  | null
  | bool (b : Bool)
  | num (literal : NumberLiteral)
  | str (units : Units)
  | arr (items : List JsonText)
  | obj (members : List (Units × JsonText))

namespace JsonText

/-- A property of an object: the last of that name. -/
def field : JsonText → String → Option JsonText
  | .obj members, key => (members.reverse.find? fun m => m.1 == units key.toList).map Prod.snd
  | _, _ => none

/-! ### Reading -/

/-- The text after an opening quote. -/
def readString : Nat → Units → List Char → Option (Units × List Char)
  | 0, _, _ => none
  | fuel + 1, acc, text =>
    match text with
    | '"' :: rest => some (acc, rest)
    | '\\' :: 'u' :: rest => do
      let (unit, rest) ← hex4 rest
      readString fuel (acc ++ [UInt16.ofNat unit]) rest
    | '\\' :: c :: rest =>
      if c = '"' ∨ c = '\\' ∨ c = '/' then readString fuel (acc ++ charUnits c) rest
      else if c = 'n' then readString fuel (acc ++ [10]) rest
      else if c = 'r' then readString fuel (acc ++ [13]) rest
      else if c = 't' then readString fuel (acc ++ [9]) rest
      else if c = 'b' then readString fuel (acc ++ [8]) rest
      else if c = 'f' then readString fuel (acc ++ [12]) rest
      else none
    | c :: rest => if c.toNat < 32 then none else readString fuel (acc ++ charUnits c) rest
    | [] => none

/-- A number token after its optional sign. -/
def readNumber (negative : Bool) (text : List Char) : Option (NumberLiteral × List Char) := do
  let (whole, rest) := takeDigits text
  if whole = [] ∨ (whole.length > 1 ∧ whole.head? = some '0') then none
  let (fraction, rest) ← match rest with
    | '.' :: more =>
      let (digits, rest) := takeDigits more
      if digits = [] then none else some (some digits, rest)
    | _ => some (none, rest)
  let (exponent, rest) ← match rest with
    | e :: more =>
      if e = 'e' ∨ e = 'E' then
        let (sign, more) := match more with
          | '+' :: more => (false, more)
          | '-' :: more => (true, more)
          | _ => (false, more)
        let (digits, rest) := takeDigits more
        if digits = [] then none else some (some (sign, digits), rest)
      else some (none, rest)
    | [] => some (none, rest)
  some (⟨negative, whole, fraction, exponent⟩, rest)

def readValue : Nat → List Char → Option (JsonText × List Char)
  | 0, _ => none
  | fuel + 1, text =>
    match skip text with
    | 'n' :: 'u' :: 'l' :: 'l' :: rest => some (.null, rest)
    | 't' :: 'r' :: 'u' :: 'e' :: rest => some (.bool true, rest)
    | 'f' :: 'a' :: 'l' :: 's' :: 'e' :: rest => some (.bool false, rest)
    | '"' :: rest => do
      let (s, rest) ← readString (rest.length + 1) [] rest
      some (.str s, rest)
    | '-' :: rest => do
      let (literal, rest) ← readNumber true rest
      some (.num literal, rest)
    | '[' :: rest =>
      match skip rest with
      | ']' :: rest => some (.arr [], rest)
      | _ => items fuel [] rest
    | '\x7b' :: rest =>
      match skip rest with
      | '\x7d' :: rest => some (.obj [], rest)
      | _ => members fuel [] rest
    | rest => do
      let (literal, rest) ← readNumber false rest
      some (.num literal, rest)
where
  items : Nat → List JsonText → List Char → Option (JsonText × List Char)
    | 0, _, _ => none
    | fuel + 1, acc, text => do
      let (item, rest) ← readValue fuel text
      match skip rest with
      | ',' :: rest => items fuel (acc ++ [item]) rest
      | ']' :: rest => some (.arr (acc ++ [item]), rest)
      | _ => none
  members : Nat → List (Units × JsonText) → List Char → Option (JsonText × List Char)
    | 0, _, _ => none
    | fuel + 1, acc, text => do
      match skip text with
      | '"' :: rest => do
        let (key, rest) ← readString (rest.length + 1) [] rest
        match skip rest with
        | ':' :: rest => do
          let (value, rest) ← readValue fuel rest
          match skip rest with
          | ',' :: rest => members fuel (acc ++ [(key, value)]) rest
          | '\x7d' :: rest => some (.obj (acc ++ [(key, value)]), rest)
          | _ => none
        | _ => none
      | _ => none

/-- The value that makes up the whole text. -/
def read (text : List Char) : Option JsonText :=
  match readValue (2 * text.length + 2) text with
  | some (value, rest) => if skip rest = [] then some value else none
  | none => none

mutual
/-- How deep arrays and objects are nested. -/
def depth : JsonText → Nat
  | .arr items => depthItems items + 1
  | .obj members => depthMembers members + 1
  | _ => 0

def depthItems : List JsonText → Nat
  | [] => 0
  | item :: rest => max (depth item) (depthItems rest)

def depthMembers : List (Units × JsonText) → Nat
  | [] => 0
  | (_, value) :: rest => max (depth value) (depthMembers rest)
end

mutual
/-- Every number and every string, keys included, is of the given kind. -/
def literals (number : NumberLiteral → Bool) (string : Units → Bool) : JsonText → Bool
  | .num literal => number literal
  | .str s => string s
  | .arr items => literalsItems number string items
  | .obj members => literalsMembers number string members
  | _ => true

def literalsItems (number : NumberLiteral → Bool) (string : Units → Bool) : List JsonText → Bool
  | [] => true
  | item :: rest => literals number string item && literalsItems number string rest

def literalsMembers (number : NumberLiteral → Bool) (string : Units → Bool) : List (Units × JsonText) → Bool
  | [] => true
  | (key, value) :: rest => string key && literals number string value && literalsMembers number string rest
end

end JsonText

end WalletPair.Relay
