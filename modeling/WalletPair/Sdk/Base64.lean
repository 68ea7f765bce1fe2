import WalletPair.Sdk.Codec

/-! The base64url codec as it is built: `btoa` and `atob` of the platform, with the alphabet
and the padding exchanged around them. The sessions' own codec works on bytes, so that runs
evaluate fast; `encode_codec` and `decode_codec` show that it is this one, on the texts over
the alphabet. -/

namespace WalletPair.Sdk.Base64

/-! ### The platform -/

/-- The alphabet of base64: `A-Z`, `a-z`, `0-9`, `+` and `/`. -/
def standardChar (n : Nat) : Char :=
  if n < 62 then sextetChar n else if n = 62 then '+' else '/'

/-- The value of a character of base64. -/
def standardValue (c : Char) : Option Nat :=
  if 'A' ≤ c ∧ c ≤ 'Z' then some (c.toNat - 65)
  else if 'a' ≤ c ∧ c ≤ 'z' then some (c.toNat - 71)
  else if '0' ≤ c ∧ c ≤ '9' then some (c.toNat + 4)
  else if c = '+' then some 62
  else if c = '/' then some 63
  else none

/-- `btoa` of a binary string. -/
def btoa (bytes : Bytes) : List Char :=
  let chars := (sextets bytes).map standardChar
  chars ++ List.replicate ((4 - chars.length % 4) % 4) '='

def isSpace (c : Char) : Bool := c = ' ' || c = '\n' || c = '\r' || c = '\t' || c = '\x0c'

/-- Up to two padding characters are removed from a text whose length is a multiple of four. -/
def dropPadding (data : List Char) : List Char :=
  if data.length % 4 = 0 ∧ data.getLast? = some '=' then
    if data.dropLast.getLast? = some '=' then data.dropLast.dropLast else data.dropLast
  else data

/-- `atob`, which forgives white space and missing padding. -/
def atob (text : List Char) : Option Bytes := do
  let values ← (dropPadding (text.filter fun c => !isSpace c)).mapM standardValue
  decodeGroups values

/-! ### The codec -/

/-- `text.replace(/from/g, to)` for one character. -/
def replaceAll (source target : Char) (text : List Char) : List Char :=
  text.map fun c => if c = source then target else c

def b64urlEncode (bytes : Bytes) : List Char :=
  (replaceAll '/' '_' (replaceAll '+' '-' (btoa bytes))).filter (· ≠ '=')

def toStandard (text : List Char) : List Char := replaceAll '_' '/' (replaceAll '-' '+' text)

def b64urlDecode (text : List Char) : Option Bytes :=
  let b64 := toStandard text
  atob (b64 ++ List.replicate ((4 - b64.length % 4) % 4) '=')

/-- A character of base64url. -/
def isUrlChar (c : Char) : Bool := c.isAlphanum || c = '_' || c = '-'

/-! ### Characters -/

theorem url_char : ∀ n < 64, isUrlChar (sextetChar n) = true ∧ isSpace (standardChar n) = false ∧
    standardChar n ≠ '=' ∧ standardValue (standardChar n) = some n ∧ sextetChar n ≠ '=' ∧
    (if (if standardChar n = '+' then '-' else standardChar n) = '/' then '_'
      else if standardChar n = '+' then '-' else standardChar n) = sextetChar n ∧
    (if (if sextetChar n = '-' then '+' else sextetChar n) = '_' then '/'
      else if sextetChar n = '-' then '+' else sextetChar n) = standardChar n := by
  decide +kernel

/-- The value of a character of base64url. -/
def urlValue (c : Char) : Nat :=
  if c.isUpper then c.toNat - 65
  else if c.isLower then c.toNat - 71
  else if c.isDigit then c.toNat + 4
  else if c = '-' then 62
  else 63

theorem urlValue_sextetChar : ∀ n < 64, urlValue (sextetChar n) = n := by decide +kernel

theorem ascii_of_url {c : Char} (url : isUrlChar c = true) : c.toNat < 128 := by
  unfold isUrlChar Char.isAlphanum Char.isAlpha Char.isUpper Char.isLower at url
  simp only [Char.isDigit, Bool.or_eq_true, Bool.and_eq_true, decide_eq_true_eq, ge_iff_le, UInt32.le_iff_toNat_le] at url
  have value : c.val.toNat = c.toNat := rfl
  rcases url with ((((upper | lower) | digit) | score) | dash)
  · have top := upper.2
    simp at top
    omega
  · have top := lower.2
    simp at top
    omega
  · have top := digit.2
    simp at top
    omega
  · subst score
    decide
  · subst dash
    decide

theorem sextetChar_urlValue {c : Char} (url : isUrlChar c = true) : sextetChar (urlValue c) = c ∧ urlValue c < 64 := by
  have read : ∀ n < 128, isUrlChar (Char.ofNat n) = true →
      sextetChar (urlValue (Char.ofNat n)) = Char.ofNat n ∧ urlValue (Char.ofNat n) < 64 := by
    decide +kernel
  have same := read c.toNat (ascii_of_url url)
  rw [Char.ofNat_toNat] at same
  exact same url

/-- A text over the alphabet spells its values. -/
theorem spell {text : List Char} (url : ∀ c ∈ text, isUrlChar c = true) :
    (text.map urlValue).map sextetChar = text ∧ ∀ n ∈ text.map urlValue, n < 64 := by
  constructor
  · rw [List.map_map]
    calc text.map (sextetChar ∘ urlValue)
        = text.map id := List.map_congr_left fun c member => (sextetChar_urlValue (url c member)).1
      _ = text := List.map_id text
  · intro n member
    obtain ⟨c, inside, rfl⟩ := List.mem_map.mp member
    exact (sextetChar_urlValue (url c inside)).2

/-! ### Encoding -/

theorem filter_pad (k : Nat) : (replaceAll '/' '_' (replaceAll '+' '-' (List.replicate k '='))).filter (· ≠ '=') = [] := by
  apply List.filter_eq_nil_iff.mpr
  intro c member
  simp only [replaceAll, List.map_replicate] at member
  rw [List.eq_of_mem_replicate member]
  decide

theorem b64urlEncode_eq (bytes : Bytes) : b64urlEncode bytes = (sextets bytes).map sextetChar := by
  have small := sextets_lt bytes
  have exchanged : replaceAll '/' '_' (replaceAll '+' '-' ((sextets bytes).map standardChar)) =
      (sextets bytes).map sextetChar := by
    simp only [replaceAll, List.map_map]
    exact List.map_congr_left fun n member => (url_char n (small n member)).2.2.2.2.2.1
  have kept : ((sextets bytes).map sextetChar).filter (· ≠ '=') = (sextets bytes).map sextetChar := by
    apply List.filter_eq_self.mpr
    intro c member
    obtain ⟨n, inside, rfl⟩ := List.mem_map.mp member
    exact decide_eq_true (url_char n (small n inside)).2.2.2.2.1
  have split (first second : List Char) : replaceAll '/' '_' (replaceAll '+' '-' (first ++ second)) =
      replaceAll '/' '_' (replaceAll '+' '-' first) ++ replaceAll '/' '_' (replaceAll '+' '-' second) := by
    simp [replaceAll]
  unfold b64urlEncode btoa
  dsimp only
  rw [split, List.filter_append, filter_pad, exchanged, kept, List.append_nil]

/-- The codec of the sessions encodes in the same way. -/
theorem encode_codec (bytes : Bytes) : Sdk.b64urlEncode bytes = String.ofList (b64urlEncode bytes) := by
  rw [b64urlEncode_eq]
  rfl

/-! ### Decoding -/

theorem mapM_standardValue {values : List Nat} (small : ∀ n ∈ values, n < 64) :
    (values.map standardChar).mapM standardValue = some values := by
  induction values with
  | nil => rfl
  | cons n rest ih =>
    have first := (url_char n (small n List.mem_cons_self)).2.2.2.1
    have others := ih fun m member => small m (List.mem_cons_of_mem _ member)
    simp [List.mapM_cons, first, others]

theorem toStandard_sextets {values : List Nat} (small : ∀ n ∈ values, n < 64) :
    toStandard (values.map sextetChar) = values.map standardChar := by
  simp only [toStandard, replaceAll, List.map_map]
  exact List.map_congr_left fun n member => (url_char n (small n member)).2.2.2.2.2.2

/-- The padding that is added is the padding that is dropped, unless three are missing. -/
theorem dropPadding_pad {data : List Char} (clean : '=' ∉ data) :
    dropPadding (data ++ List.replicate ((4 - data.length % 4) % 4) '=') =
      if data.length % 4 = 1 then data ++ ['='] else data := by
  have unpadded : data.getLast? ≠ some '=' := fun last => clean (List.mem_of_getLast? last)
  have cases : data.length % 4 = 0 ∨ data.length % 4 = 1 ∨ data.length % 4 = 2 ∨ data.length % 4 = 3 := by omega
  unfold dropPadding
  rcases cases with none | three | two | one
  · simp [none, unpadded]
  · have total : (data.length + 3) % 4 = 0 := by omega
    simp [three, List.replicate, total]
  · have total : (data.length + 2) % 4 = 0 := by omega
    simp [two, List.replicate, total]
  · have total : (data.length + 1) % 4 = 0 := by omega
    simp [one, total, unpadded]

theorem b64urlDecode_sextets {values : List Nat} (small : ∀ n ∈ values, n < 64) :
    b64urlDecode (values.map sextetChar) = decodeGroups values := by
  have solid (text : List Char) (clean : ∀ c ∈ text, isSpace c = false) : text.filter (fun c => !isSpace c) = text :=
    List.filter_eq_self.mpr fun c member => by rw [clean c member]; rfl
  have clean : '=' ∉ values.map standardChar := by
    intro member
    obtain ⟨n, inside, same⟩ := List.mem_map.mp member
    exact (url_char n (small n inside)).2.2.1 same
  unfold b64urlDecode atob
  dsimp only
  rw [toStandard_sextets small, solid _ (by
    intro c member
    rcases List.mem_append.mp member with spelled | pad
    · obtain ⟨n, inside, rfl⟩ := List.mem_map.mp spelled
      exact (url_char n (small n inside)).2.1
    · rw [List.eq_of_mem_replicate pad]
      decide), dropPadding_pad clean]
  by_cases one : (values.map standardChar).length % 4 = 1
  · rw [if_pos one, decodeGroups_one (by simpa using one), List.mapM_append, mapM_standardValue small]
    rfl
  · rw [if_neg one, mapM_standardValue small]
    rfl

/-! ### Unused bits -/

/-- The values with the bits cleared that no byte holds. -/
def canonical : List Nat → List Nat
  | [a, b] => [a, b / 16 * 16]
  | [a, b, c] => [a, b, c / 4 * 4]
  | a :: b :: c :: d :: rest => a :: b :: c :: d :: canonical rest
  | values => values

/-- Encoding what was decoded clears the unused bits. -/
theorem sextets_decodeGroups {values : List Nat} (small : ∀ n ∈ values, n < 64) {bytes : Bytes}
    (decoded : decodeGroups values = some bytes) : sextets bytes = canonical values := by
  have byte {n : Nat} (fits : n < 256) : (UInt8.ofNat n).toNat = n := by
    rw [UInt8.toNat_ofNat', Nat.mod_eq_of_lt fits]
  induction values using decodeGroups.induct generalizing bytes with
  | case1 =>
    cases decoded
    rfl
  | case2 a => cases decoded
  | case3 a b =>
    have fits : a < 64 ∧ b < 64 := ⟨small a (by simp), small b (by simp)⟩
    cases decoded
    simp only [sextets, canonical, List.cons.injEq, and_true]
    rw [byte (by omega)]
    omega
  | case4 a b c =>
    have fits : a < 64 ∧ b < 64 ∧ c < 64 := ⟨small a (by simp), small b (by simp), small c (by simp)⟩
    cases decoded
    simp only [sextets, canonical, List.cons.injEq, and_true]
    rw [byte (by omega), byte (by omega)]
    omega
  | case5 a b c d rest ih =>
    have fits : a < 64 ∧ b < 64 ∧ c < 64 ∧ d < 64 :=
      ⟨small a (by simp), small b (by simp), small c (by simp), small d (by simp)⟩
    simp only [decodeGroups, Option.bind_eq_bind, Option.bind_eq_some_iff, Option.some.injEq] at decoded
    obtain ⟨tail, read, rfl⟩ := decoded
    have later := ih (fun n member => small n (by simp [member])) read
    simp only [sextets, canonical, List.cons.injEq, later, and_true]
    rw [byte (by omega), byte (by omega), byte (by omega)]
    omega

/-- The low bits of the last character that no byte holds. -/
def unusedBits (length : Nat) : Nat := if length % 4 = 2 then 4 else if length % 4 = 3 then 2 else 0

/-- The texts are as long as each other, and differ at most in the unused bits. -/
structure SameBits (s t : List Char) : Prop where
  length : t.length = s.length
  front : t.dropLast = s.dropLast
  last : ∀ c ∈ s.getLast?, ∀ d ∈ t.getLast?,
    urlValue d / 2 ^ unusedBits s.length = urlValue c / 2 ^ unusedBits s.length

/-- Only the last value of a short group is changed, and only below. -/
theorem canonical_same (values : List Nat) :
    (canonical values).length = values.length ∧ (canonical values).dropLast = values.dropLast ∧
    ∀ m ∈ values.getLast?, ∀ n ∈ (canonical values).getLast?,
      n / 2 ^ unusedBits values.length = m / 2 ^ unusedBits values.length := by
  induction values using decodeGroups.induct with
  | case1 => exact ⟨rfl, rfl, by rintro m ⟨⟩⟩
  | case2 a =>
    refine ⟨rfl, rfl, fun m last n same => ?_⟩
    cases last
    cases same
    rfl
  | case3 a b =>
    refine ⟨rfl, rfl, fun m last n same => ?_⟩
    cases last
    cases same
    change b / 16 * 16 / 16 = b / 16
    omega
  | case4 a b c =>
    refine ⟨rfl, rfl, fun m last n same => ?_⟩
    cases last
    cases same
    change c / 4 * 4 / 4 = c / 4
    omega
  | case5 a b c d rest ih =>
    obtain ⟨length, front, last⟩ := ih
    have period : unusedBits (a :: b :: c :: d :: rest).length = unusedBits rest.length := by
      simp only [List.length_cons, unusedBits]
      congr 1
      · simp only [eq_iff_iff]
        omega
      · congr 1
        simp only [eq_iff_iff]
        omega
    refine ⟨by simp [canonical, length], ?_⟩
    rw [period]
    cases rest with
    | nil =>
      refine ⟨rfl, fun m last n same => ?_⟩
      cases last
      cases same
      rfl
    | cons e more =>
      cases changed : canonical (e :: more) with
      | nil => simp [changed] at length
      | cons e' more' =>
        rw [changed] at front last
        simp only [canonical, changed]
        exact ⟨by simpa using front, by simpa using last⟩

theorem canonical_small {values : List Nat} (small : ∀ n ∈ values, n < 64) : ∀ n ∈ canonical values, n < 64 := by
  induction values using decodeGroups.induct with
  | case1 => exact small
  | case2 a => exact small
  | case3 a b =>
    have fits : a < 64 ∧ b < 64 := ⟨small a (by simp), small b (by simp)⟩
    intro n member
    simp only [canonical, List.mem_cons, List.not_mem_nil, or_false] at member
    omega
  | case4 a b c =>
    have fits : a < 64 ∧ b < 64 ∧ c < 64 := ⟨small a (by simp), small b (by simp), small c (by simp)⟩
    intro n member
    simp only [canonical, List.mem_cons, List.not_mem_nil, or_false] at member
    omega
  | case5 a b c d rest ih =>
    have later := ih fun n member => small n (by simp [member])
    intro n member
    simp only [canonical, List.mem_cons] at member
    rcases member with rfl | rfl | rfl | rfl | inside
    · exact small _ (by simp)
    · exact small _ (by simp)
    · exact small _ (by simp)
    · exact small _ (by simp)
    · exact later n inside

/-- A decoded text, encoded again. -/
theorem sameBits_reencoded {text : List Char} (url : ∀ c ∈ text, isUrlChar c = true) {bytes : Bytes}
    (decoded : b64urlDecode text = some bytes) : SameBits text (b64urlEncode bytes) := by
  obtain ⟨spelled, small⟩ := spell url
  rw [← spelled, b64urlDecode_sextets small] at decoded
  have again : b64urlEncode bytes = (canonical (text.map urlValue)).map sextetChar := by
    rw [b64urlEncode_eq, sextets_decodeGroups small decoded]
  obtain ⟨length, front, last⟩ := canonical_same (text.map urlValue)
  rw [again]
  refine ⟨by simpa using length, ?_, fun c final d final' => ?_⟩
  · rw [← List.map_dropLast, front, List.map_dropLast, spelled]
  · rw [List.getLast?_map] at final'
    obtain ⟨n, value, rfl⟩ := Option.map_eq_some_iff.mp final'
    have member : n ∈ canonical (text.map urlValue) := List.mem_of_getLast? value
    rw [urlValue_sextetChar n (canonical_small small n member)]
    have spelledLast : urlValue c ∈ (text.map urlValue).getLast? := by
      rw [List.getLast?_map]
      exact Option.mem_map_of_mem _ final
    simpa using last (urlValue c) spelledLast n value

/-- Decoding gives back what was encoded. -/
theorem b64urlDecode_encode (bytes : Bytes) : b64urlDecode (b64urlEncode bytes) = some bytes := by
  rw [b64urlEncode_eq, b64urlDecode_sextets (sextets_lt bytes), decodeGroups_sextets]

/-- The codec of the sessions reads the texts over the alphabet in the same way. -/
theorem decode_codec {text : List Char} (url : ∀ c ∈ text, isUrlChar c = true) :
    Sdk.b64urlDecode (String.ofList text) = b64urlDecode text := by
  obtain ⟨spelled, small⟩ := spell url
  rw [← spelled, b64urlDecode_sextets small, b64urlDecode_ofList small]

end WalletPair.Sdk.Base64
