import Mathlib.Data.List.Basic
import Mathlib.Data.String.Basic

/-! JSON values as the sessions handle them, with the parts of the standard library
they call: `JSON.stringify`, `JSON.parse` and property access. A JavaScript
`undefined` is `none : Option Json`. -/

namespace WalletPair.Sdk

abbrev Bytes := List UInt8

/-- `new TextEncoder().encode(s)`. -/
def utf8ToBytes (s : String) : Bytes := s.toByteArray.data.toList

theorem utf8ToBytes_injective : Function.Injective utf8ToBytes := by
  intro a b same
  apply String.toByteArray_inj.mp
  apply ByteArray.ext
  exact Array.toList_inj.mp same

/-- A number is the decimal `mantissa * 10 ^ (-exponent)`. -/
inductive Json where
  | null
  | bool (b : Bool)
  | num (mantissa : Int) (exponent : Nat)
  | str (s : String)
  | arr (items : List Json)
  | obj (fields : List (String × Json))
  deriving Inhabited

namespace Json

/-- Property access; reading a property of `null` throws. -/
def member : Json → String → Except String (Option Json)
  | .null, _ => .error "Cannot read properties of null"
  | .obj fields, key => .ok ((fields.find? (fun f => f.1 == key)).map Prod.snd)
  | _, _ => .ok none

/-- A property of an object, absent for every other value. -/
def field : Json → String → Option Json
  | .obj fields, key => (fields.find? (fun f => f.1 == key)).map Prod.snd
  | _, _ => none

/-- A property that is a boolean. -/
def flag (value : Json) (key : String) : Option Bool :=
  match value.field key with
  | some (.bool b) => some b
  | _ => none

/-- `typeof v === 'object'` for a non-null value. -/
def isObject : Json → Bool
  | .arr _ => true
  | .obj _ => true
  | _ => false

/-- Whether a condition takes the value for true. -/
def truthy : Json → Bool
  | .null => false
  | .bool b => b
  | .num mantissa _ => mantissa ≠ 0
  | .str s => s ≠ ""
  | _ => true

def isArray : Json → Bool
  | .arr _ => true
  | _ => false

def asString : Json → Option String
  | .str s => some s
  | _ => none

/-- `new Set(items).has(s)` for a string. -/
def hasString : Json → String → Bool
  | .arr items, s => items.any (fun item => item.asString == some s)
  | _, _ => false

/-- Define a property: an existing key keeps its place. -/
def define (fields : List (String × Json)) (key : String) (value : Json) : List (String × Json) :=
  if fields.any (fun f => f.1 == key) then
    fields.map (fun f => if f.1 == key then (key, value) else f)
  else fields ++ [(key, value)]

/-- `{...fields, ...more}`. -/
def spread (fields more : List (String × Json)) : List (String × Json) :=
  more.foldl (fun acc f => define acc f.1 f.2) fields

/-- The own enumerable properties of an object or an array. -/
def ownFields : Json → List (String × Json)
  | .obj fields => fields
  | .arr items => items.zipIdx.map (fun item => (toString item.2, item.1))
  | _ => []

def without (fields : List (String × Json)) (keys : List String) : List (String × Json) :=
  fields.filter (fun f => !keys.contains f.1)

mutual
/-- Whether `String(value)` returns: an object whose own `toString` hides the inherited one
throws, and so does an array that holds one. -/
def printable : Json → Bool
  | .arr items => printableItems items
  | .obj fields => !fields.any (fun f => f.1 == "toString")
  | _ => true

def printableItems : List Json → Bool
  | [] => true
  | item :: rest => printable item && printableItems rest
end

/-! ### `JSON.stringify` -/

/-- A text of ASCII characters as bytes. -/
def ascii (text : List Char) : Bytes := text.map (fun c => UInt8.ofNat c.toNat)

def hexDigit (n : Nat) : UInt8 := UInt8.ofNat (if n < 10 then 48 + n else 87 + n)

/-- Every escaped character is a single byte of UTF-8, so bytes are escaped one by one. -/
def escapeByte (b : UInt8) : Bytes :=
  if b = 34 ∨ b = 92 then [92, b]
  else if b = 10 then ascii ['\\', 'n']
  else if b = 13 then ascii ['\\', 'r']
  else if b = 9 then ascii ['\\', 't']
  else if b = 8 then ascii ['\\', 'b']
  else if b = 12 then ascii ['\\', 'f']
  else if b < 32 then ascii ['\\', 'u', '0', '0'] ++ [hexDigit (b.toNat / 16), hexDigit (b.toNat % 16)]
  else [b]

def quote (s : String) : Bytes := 34 :: (utf8ToBytes s).flatMap escapeByte ++ [34]

/-- Drop trailing zeros of the digits, counting them. -/
def trimZeros : Nat → Nat → Nat → Nat × Nat
  | 0, digits, dropped => (digits, dropped)
  | fuel + 1, digits, dropped =>
    if digits ≠ 0 ∧ digits % 10 = 0 then trimZeros fuel (digits / 10) (dropped + 1) else (digits, dropped)

/-- `Number::toString`: `point` is the position of the decimal point after the first digit's left edge. -/
def numberText (mantissa : Int) (exponent : Nat) : List Char :=
  if mantissa = 0 then ['0'] else
  let (digits, dropped) := trimZeros mantissa.natAbs mantissa.natAbs 0
  let ds := Nat.toDigits 10 digits
  let point : Int := ds.length + dropped - exponent
  let body :=
    if (ds.length : Int) ≤ point ∧ point ≤ 21 then ds ++ List.replicate (point - ds.length).toNat '0'
    else if 0 < point ∧ point ≤ 21 then ds.take point.toNat ++ '.' :: ds.drop point.toNat
    else if -6 < point ∧ point ≤ 0 then '0' :: '.' :: List.replicate (-point).toNat '0' ++ ds
    else
      let e := point - 1
      let sign := if e < 0 then '-' else '+'
      let tail := 'e' :: sign :: Nat.toDigits 10 e.natAbs
      if ds.length = 1 then ds ++ tail else ds.take 1 ++ '.' :: ds.drop 1 ++ tail
  if mantissa < 0 then '-' :: body else body

mutual
/-- The UTF-8 bytes of `JSON.stringify(value)`. -/
def stringify : Json → Bytes
  | .null => ascii ['n', 'u', 'l', 'l']
  | .bool b => if b then ascii ['t', 'r', 'u', 'e'] else ascii ['f', 'a', 'l', 's', 'e']
  | .num m e => ascii (numberText m e)
  | .str s => quote s
  | .arr items => 91 :: stringifyItems items ++ [93]
  | .obj fields => 123 :: stringifyFields fields ++ [125]

def stringifyItems : List Json → Bytes
  | [] => []
  | [item] => stringify item
  | item :: rest => stringify item ++ 44 :: stringifyItems rest

def stringifyFields : List (String × Json) → Bytes
  | [] => []
  | [(key, value)] => quote key ++ 58 :: stringify value
  | (key, value) :: rest => quote key ++ 58 :: stringify value ++ 44 :: stringifyFields rest
end

/-! ### Canonical order -/

/-- Insert a member before the first one with a greater key. -/
def insertMember (member : String × Json) : List (String × Json) → List (String × Json)
  | [] => [member]
  | next :: rest =>
    if next.1 < member.1 then next :: insertMember member rest else member :: next :: rest

mutual
/-- The members of every object in the order of their keys. -/
def sortKeys : Json → Json
  | .arr items => .arr (sortItems items)
  | .obj fields => .obj (sortFields fields)
  | value => value

def sortItems : List Json → List Json
  | [] => []
  | item :: rest => sortKeys item :: sortItems rest

def sortFields : List (String × Json) → List (String × Json)
  | [] => []
  | (key, value) :: rest => insertMember (key, sortKeys value) (sortFields rest)
end

/-- A member is found in the sorted object, with its own members sorted. -/
theorem field_insertMember (member : String × Json) (fields : List (String × Json)) (key : String) :
    (Json.obj (insertMember member fields)).field key =
      if member.1 = key then some member.2 else (Json.obj fields).field key := by
  induction fields with
  | nil => by_cases own : member.1 = key <;> simp [insertMember, field, own]
  | cons next rest ih =>
    unfold insertMember
    split
    · rename_i smaller
      by_cases here : next.1 = key
      · have other : member.1 ≠ key := fun own => String.lt_irrefl key (by rw [here, own] at smaller; exact smaller)
        simp [field, here, other]
      · have skip (l : List (String × Json)) : (Json.obj (next :: l)).field key = (Json.obj l).field key := by
          simp [field, here]
        rw [skip, skip, ih]
    · by_cases own : member.1 = key <;> simp [field, own]

theorem field_sortKeys (fields : List (String × Json)) (key : String) :
    (sortKeys (.obj fields)).field key = ((Json.obj fields).field key).map sortKeys := by
  rw [sortKeys]
  induction fields with
  | nil => rfl
  | cons first rest ih =>
    obtain ⟨name, value⟩ := first
    rw [sortFields, field_insertMember, ih]
    by_cases own : name = key <;> simp [field, own]

/-! ### Equality -/

mutual
/-- Structural equality. -/
def same : Json → Json → Bool
  | .null, .null => true
  | .bool a, .bool b => a == b
  | .num m e, .num n f => m == n && e == f
  | .str a, .str b => a == b
  | .arr xs, .arr ys => sameItems xs ys
  | .obj xs, .obj ys => sameFields xs ys
  | _, _ => false

def sameItems : List Json → List Json → Bool
  | [], [] => true
  | x :: xs, y :: ys => same x y && sameItems xs ys
  | _, _ => false

def sameFields : List (String × Json) → List (String × Json) → Bool
  | [], [] => true
  | (k, x) :: xs, (l, y) :: ys => k == l && same x y && sameFields xs ys
  | _, _ => false
end

mutual
theorem eq_of_same : (a b : Json) → same a b = true → a = b
  | .null, b, h => by cases b <;> simp_all [same]
  | .bool a, b, h => by cases b <;> simp_all [same]
  | .num m e, b, h => by cases b <;> simp_all [same]
  | .str a, b, h => by cases b <;> simp_all [same]
  | .arr xs, .arr ys, h => by rw [eq_of_sameItems xs ys (by simpa [same] using h)]
  | .arr xs, .null, h | .arr xs, .bool _, h | .arr xs, .num _ _, h | .arr xs, .str _, h | .arr xs, .obj _, h => by
    simp [same] at h
  | .obj xs, .obj ys, h => by rw [eq_of_sameFields xs ys (by simpa [same] using h)]
  | .obj xs, .null, h | .obj xs, .bool _, h | .obj xs, .num _ _, h | .obj xs, .str _, h | .obj xs, .arr _, h => by
    simp [same] at h

theorem eq_of_sameItems : (xs ys : List Json) → sameItems xs ys = true → xs = ys
  | [], [], _ => rfl
  | [], _ :: _, h => by simp [sameItems] at h
  | _ :: _, [], h => by simp [sameItems] at h
  | x :: xs, y :: ys, h => by
    simp only [sameItems, Bool.and_eq_true] at h
    rw [eq_of_same x y h.1, eq_of_sameItems xs ys h.2]

theorem eq_of_sameFields : (xs ys : List (String × Json)) → sameFields xs ys = true → xs = ys
  | [], [], _ => rfl
  | [], _ :: _, h => by simp [sameFields] at h
  | _ :: _, [], h => by simp [sameFields] at h
  | (k, x) :: xs, (l, y) :: ys, h => by
    simp only [sameFields, Bool.and_eq_true, beq_iff_eq] at h
    rw [h.1.1, eq_of_same x y h.1.2, eq_of_sameFields xs ys h.2]
end

/-! ### `JSON.parse` -/

def isSpace (c : Char) : Bool := c = ' ' || c = '\n' || c = '\r' || c = '\t'

def skip : List Char → List Char
  | c :: rest => if isSpace c then skip rest else c :: rest
  | [] => []

def hexValue (c : Char) : Option Nat :=
  if '0' ≤ c ∧ c ≤ '9' then some (c.toNat - 48)
  else if 'a' ≤ c ∧ c ≤ 'f' then some (c.toNat - 87)
  else if 'A' ≤ c ∧ c ≤ 'F' then some (c.toNat - 55)
  else none

def hex4 : List Char → Option (Nat × List Char)
  | a :: b :: c :: d :: rest => do
    let a ← hexValue a
    let b ← hexValue b
    let c ← hexValue c
    let d ← hexValue d
    some (((a * 16 + b) * 16 + c) * 16 + d, rest)
  | _ => none

/-- The text after an opening quote: the string's characters and what follows the
closing quote. A lone surrogate escape has no counterpart here and is refused. -/
def parseString : Nat → List Char → List Char → Option (String × List Char)
  | 0, _, _ => none
  | fuel + 1, acc, text =>
    match text with
    | '"' :: rest => some (String.ofList acc.reverse, rest)
    | '\\' :: 'u' :: rest => do
      let (high, rest) ← hex4 rest
      if 0xD800 ≤ high ∧ high < 0xDC00 then
        match rest with
        | '\\' :: 'u' :: rest => do
          let (low, rest) ← hex4 rest
          if 0xDC00 ≤ low ∧ low < 0xE000 then
            parseString fuel (Char.ofNat (0x10000 + (high - 0xD800) * 0x400 + (low - 0xDC00)) :: acc) rest
          else none
        | _ => none
      else if 0xDC00 ≤ high ∧ high < 0xE000 then none
      else parseString fuel (Char.ofNat high :: acc) rest
    | '\\' :: c :: rest =>
      if c = '"' ∨ c = '\\' ∨ c = '/' then parseString fuel (c :: acc) rest
      else if c = 'n' then parseString fuel ('\n' :: acc) rest
      else if c = 'r' then parseString fuel ('\r' :: acc) rest
      else if c = 't' then parseString fuel ('\t' :: acc) rest
      else if c = 'b' then parseString fuel (Char.ofNat 8 :: acc) rest
      else if c = 'f' then parseString fuel (Char.ofNat 12 :: acc) rest
      else none
    | c :: rest => if c.toNat < 32 then none else parseString fuel (c :: acc) rest
    | [] => none

def takeDigits : List Char → List Char × List Char
  | c :: rest => if c.isDigit then ((c :: (takeDigits rest).1), (takeDigits rest).2) else ([], c :: rest)
  | [] => ([], [])

def digitsValue (ds : List Char) : Nat := Nat.ofDigitChars 10 ds 0

/-- A number token after its optional sign. -/
def parseNumber (negative : Bool) (text : List Char) : Option (Json × List Char) := do
  let (whole, rest) := takeDigits text
  if whole = [] ∨ (whole.length > 1 ∧ whole.head? = some '0') then none
  let (fraction, rest) ← match rest with
    | '.' :: more =>
      let (ds, rest) := takeDigits more
      if ds = [] then none else some (ds, rest)
    | _ => some ([], rest)
  let (power, rest) ← match rest with
    | e :: more =>
      if e = 'e' ∨ e = 'E' then
        let (sign, more) : Int × List Char := match more with
          | '+' :: more => (1, more)
          | '-' :: more => (-1, more)
          | _ => (1, more)
        let (ds, rest) := takeDigits more
        if ds = [] then none else some (sign * (digitsValue ds : Int), rest)
      else some ((0 : Int), rest)
    | [] => some ((0 : Int), rest)
  let digits := digitsValue (whole ++ fraction)
  let shift : Int := fraction.length - power
  let magnitude : Nat := if shift < 0 then digits * 10 ^ (-shift).toNat else digits
  some (.num (if negative then -(magnitude : Int) else magnitude) shift.toNat, rest)

def parseValue : Nat → List Char → Option (Json × List Char)
  | 0, _ => none
  | fuel + 1, text =>
    match skip text with
    | 'n' :: 'u' :: 'l' :: 'l' :: rest => some (.null, rest)
    | 't' :: 'r' :: 'u' :: 'e' :: rest => some (.bool true, rest)
    | 'f' :: 'a' :: 'l' :: 's' :: 'e' :: rest => some (.bool false, rest)
    | '"' :: rest => do
      let (s, rest) ← parseString (rest.length + 1) [] rest
      some (.str s, rest)
    | '-' :: rest => parseNumber true rest
    | '[' :: rest =>
      match skip rest with
      | ']' :: rest => some (.arr [], rest)
      | _ => items fuel [] rest
    | '\x7b' :: rest =>
      match skip rest with
      | '\x7d' :: rest => some (.obj [], rest)
      | _ => fields fuel [] rest
    | rest => parseNumber false rest
where
  items : Nat → List Json → List Char → Option (Json × List Char)
    | 0, _, _ => none
    | fuel + 1, acc, text => do
      let (item, rest) ← parseValue fuel text
      match skip rest with
      | ',' :: rest => items fuel (item :: acc) rest
      | ']' :: rest => some (.arr (item :: acc).reverse, rest)
      | _ => none
  fields : Nat → List (String × Json) → List Char → Option (Json × List Char)
    | 0, _, _ => none
    | fuel + 1, acc, text => do
      match skip text with
      | '"' :: rest => do
        let (key, rest) ← parseString (rest.length + 1) [] rest
        match skip rest with
        | ':' :: rest => do
          let (value, rest) ← parseValue fuel rest
          match skip rest with
          | ',' :: rest => fields fuel (define acc key value) rest
          | '\x7d' :: rest => some (.obj (define acc key value), rest)
          | _ => none
        | _ => none
      | _ => none

/-- `JSON.parse` of a text given by its characters. -/
def parse (text : List Char) : Option Json :=
  match parseValue (2 * text.length + 2) text with
  | some (value, rest) => if skip rest = [] then some value else none
  | none => none

example : (Json.obj [("b", .arr [.num 15 1, .null]), ("a", .str "x\"y")]).stringify =
    utf8ToBytes "\x7b\"b\":[1.5,null],\"a\":\"x\\\"y\"\x7d" := by decide +kernel

end Json

end WalletPair.Sdk
