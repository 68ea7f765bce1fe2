import WalletPair.Sdk.Json

/-! Byte strings and their text forms: hexadecimal, base64url without padding,
UTF-8, and the length-prefixed fields of the associated data. -/

namespace WalletPair.Sdk

/-! ### Hexadecimal -/

def hexChar (n : Nat) : Char := Char.ofNat (Json.hexDigit n).toNat

def bytesToHex (bytes : Bytes) : String :=
  String.ofList (bytes.flatMap (fun b => [hexChar (b.toNat / 16), hexChar (b.toNat % 16)]))

def hexPairs : Bytes → Option Bytes
  | [] => some []
  | [_] => none
  | high :: low :: rest => do
    let h ← Json.hexValue (Char.ofNat high.toNat)
    let l ← Json.hexValue (Char.ofNat low.toNat)
    let bytes ← hexPairs rest
    some (UInt8.ofNat (h * 16 + l) :: bytes)

/-- Throws on odd length and on a character that is no hexadecimal digit; every byte of
a character outside ASCII is refused as well. -/
def hexToBytes (hex : String) : Option Bytes := hexPairs (utf8ToBytes hex)

/-! ### Base64url -/

/-- The alphabet of base64url: `A-Z`, `a-z`, `0-9`, `-` and `_`. -/
def sextetChar (n : Nat) : Char :=
  if n < 26 then Char.ofNat (65 + n)
  else if n < 52 then Char.ofNat (71 + n)
  else if n < 62 then Char.ofNat (n - 4)
  else if n = 62 then '-'
  else '_'

/-- Three bytes make four groups of six bits; a short group is filled with zero bits. -/
def sextets : Bytes → List Nat
  | [] => []
  | [a] => [a.toNat / 4, a.toNat % 4 * 16]
  | [a, b] => [a.toNat / 4, a.toNat % 4 * 16 + b.toNat / 16, b.toNat % 16 * 4]
  | a :: b :: c :: rest =>
    a.toNat / 4 :: (a.toNat % 4 * 16 + b.toNat / 16) :: (b.toNat % 16 * 4 + c.toNat / 64) ::
      c.toNat % 64 :: sextets rest

/-- `btoa` with the alphabet of base64url and the padding dropped. -/
def b64urlEncode (bytes : Bytes) : String := String.ofList ((sextets bytes).map sextetChar)

/-- The value of a character of either base64 alphabet. -/
def sextet (c : UInt8) : Option Nat :=
  if 65 ≤ c ∧ c ≤ 90 then some (c.toNat - 65)
  else if 97 ≤ c ∧ c ≤ 122 then some (c.toNat - 71)
  else if 48 ≤ c ∧ c ≤ 57 then some (c.toNat + 4)
  else if c = 45 ∨ c = 43 then some 62
  else if c = 95 ∨ c = 47 then some 63
  else none

/-- Whole groups of four, then a group of two or three; one left over is refused and
the unused low bits of a short group are dropped. -/
def decodeGroups : List Nat → Option Bytes
  | [] => some []
  | [_] => none
  | [a, b] => some [UInt8.ofNat (a * 4 + b / 16)]
  | [a, b, c] => some [UInt8.ofNat (a * 4 + b / 16), UInt8.ofNat (b % 16 * 16 + c / 4)]
  | a :: b :: c :: d :: rest => do
    let bytes ← decodeGroups rest
    some (UInt8.ofNat (a * 4 + b / 16) :: UInt8.ofNat (b % 16 * 16 + c / 4) ::
      UInt8.ofNat (c % 4 * 64 + d) :: bytes)

def isAsciiSpace (c : UInt8) : Bool := c = 32 || c = 10 || c = 13 || c = 9 || c = 12

/-- Up to two padding characters are removed from a text whose length is a multiple of four. -/
def dropPadding (data : Bytes) : Bytes :=
  if data.length % 4 = 0 ∧ data.getLast? = some 61 then
    if data.dropLast.getLast? = some 61 then data.dropLast.dropLast else data.dropLast
  else data

/-- `atob`: white space is ignored, then the padding. -/
def atob (text : Bytes) : Option Bytes := do
  let values ← (dropPadding (text.filter (fun c => !isAsciiSpace c))).mapM sextet
  decodeGroups values

/-- The text is padded to a multiple of four before `atob` sees it. A character outside
ASCII is refused, byte by byte as well. -/
def b64urlDecode (text : String) : Option Bytes :=
  let bytes := utf8ToBytes text
  atob (bytes ++ List.replicate ((4 - bytes.length % 4) % 4) 61)

example : b64urlEncode [251, 255, 1, 0] = "-_8BAA" := by decide

example : b64urlDecode "-_8BAA" = some [251, 255, 1, 0] := by decide +kernel

theorem utf8ToBytes_ofList (cs : List Char) :
    utf8ToBytes (String.ofList cs) = cs.flatMap String.utf8EncodeChar := by
  unfold utf8ToBytes
  rw [String.toByteArray_ofList]
  unfold List.utf8Encode
  simp

/-- The byte of a character of the alphabet. -/
private def sextetByte (n : Nat) : UInt8 := UInt8.ofNat (sextetChar n).toNat

private theorem sextetByte_read : ∀ n < 64,
    String.utf8EncodeChar (sextetChar n) = [sextetByte n] ∧ sextet (sextetByte n) = some n ∧
      isAsciiSpace (sextetByte n) = false ∧ sextetByte n ≠ 61 := by
  decide +kernel

theorem sextets_lt (bytes : Bytes) : ∀ n ∈ sextets bytes, n < 64 := by
  have small (b : UInt8) : b.toNat < 256 := b.toNat_lt
  induction bytes using sextets.induct with
  | case1 => simp [sextets]
  | case2 a =>
    have := small a
    simp only [sextets, List.mem_cons, List.not_mem_nil, or_false]
    omega
  | case3 a b =>
    have := small a
    have := small b
    simp only [sextets, List.mem_cons, List.not_mem_nil, or_false]
    omega
  | case4 a b c rest ih =>
    have := small a
    have := small b
    have := small c
    simp only [sextets, List.mem_cons]
    rintro n (rfl | rfl | rfl | rfl | later)
    any_goals omega
    exact ih n later

theorem decodeGroups_sextets (bytes : Bytes) : decodeGroups (sextets bytes) = some bytes := by
  have small (b : UInt8) : b.toNat < 256 := b.toNat_lt
  have read (b : UInt8) {n : Nat} (same : n % 256 = b.toNat) : UInt8.ofNat n = b := by
    apply UInt8.toNat_inj.mp
    rw [UInt8.toNat_ofNat', same]
  induction bytes using sextets.induct with
  | case1 => rfl
  | case2 a =>
    have := small a
    simp only [sextets, decodeGroups]
    rw [read a (by omega)]
  | case3 a b =>
    have := small a
    have := small b
    simp only [sextets, decodeGroups]
    rw [read a (by omega), read b (by omega)]
  | case4 a b c rest ih =>
    have := small a
    have := small b
    have := small c
    simp only [sextets, decodeGroups, ih, Option.bind_eq_bind, Option.bind_some]
    rw [read a (by omega), read b (by omega), read c (by omega)]

/-- One character left over is no base64. -/
theorem decodeGroups_one {values : List Nat} (one : values.length % 4 = 1) : decodeGroups values = none := by
  induction values using decodeGroups.induct with
  | case1 => simp at one
  | case2 a => rfl
  | case3 a b => simp at one
  | case4 a b c => simp at one
  | case5 a b c d rest ih =>
    have shorter : rest.length % 4 = 1 := by
      simp only [List.length_cons] at one
      omega
    simp [decodeGroups, ih shorter]

/-- The padding that is added is the padding that is dropped, unless three are missing. -/
private theorem dropPadding_pad {data : Bytes} (clean : 61 ∉ data) :
    dropPadding (data ++ List.replicate ((4 - data.length % 4) % 4) 61) =
      if data.length % 4 = 1 then data ++ [61] else data := by
  have noPad : data.getLast? ≠ some 61 := fun last => clean (List.mem_of_getLast? last)
  have cases : data.length % 4 = 0 ∨ data.length % 4 = 1 ∨ data.length % 4 = 2 ∨ data.length % 4 = 3 := by omega
  unfold dropPadding
  rcases cases with none | three | two | one
  · simp [none, noPad]
  · have total : (data.length + 3) % 4 = 0 := by omega
    simp [three, List.replicate, total]
  · have total : (data.length + 2) % 4 = 0 := by omega
    simp [two, List.replicate, total]
  · have total : (data.length + 1) % 4 = 0 := by omega
    simp [one, total, noPad]

private theorem mapM_sextet {values : List Nat} (small : ∀ n ∈ values, n < 64) :
    (values.map sextetByte).mapM sextet = some values := by
  induction values with
  | nil => rfl
  | cons n rest ih =>
    have head := (sextetByte_read n (small n (by simp))).2.1
    have tail := ih (fun m mem => small m (by simp [mem]))
    simp [List.mapM_cons, head, tail]

/-- A text over the alphabet is decoded by its values. -/
theorem b64urlDecode_ofList {values : List Nat} (small : ∀ n ∈ values, n < 64) :
    b64urlDecode (String.ofList (values.map sextetChar)) = decodeGroups values := by
  have text : utf8ToBytes (String.ofList (values.map sextetChar)) = values.map sextetByte := by
    rw [utf8ToBytes_ofList, List.flatMap_map, List.map_eq_flatMap]
    exact List.flatMap_congr (fun n mem => (sextetByte_read n (small n mem)).1)
  have pad (k : Nat) : (List.replicate k (61 : UInt8)).filter (fun c => !isAsciiSpace c) = List.replicate k 61 :=
    List.filter_eq_self.mpr (fun b mem => by rw [List.eq_of_mem_replicate mem]; rfl)
  have kept : (values.map sextetByte).filter (fun c => !isAsciiSpace c) = values.map sextetByte := by
    apply List.filter_eq_self.mpr
    intro b mem
    obtain ⟨n, member, rfl⟩ := List.mem_map.mp mem
    rw [(sextetByte_read n (small n member)).2.2.1]
    rfl
  have clean : 61 ∉ values.map sextetByte := by
    intro mem
    obtain ⟨n, member, same⟩ := List.mem_map.mp mem
    exact (sextetByte_read n (small n member)).2.2.2 same
  simp only [b64urlDecode, atob, text, List.filter_append, pad, kept]
  rw [dropPadding_pad clean]
  by_cases one : (values.map sextetByte).length % 4 = 1
  · rw [if_pos one, decodeGroups_one (by simpa using one), List.mapM_append, mapM_sextet small]
    rfl
  · rw [if_neg one, mapM_sextet small]
    rfl

/-- Decoding gives back what was encoded. -/
theorem b64urlDecode_encode (bytes : Bytes) : b64urlDecode (b64urlEncode bytes) = some bytes := by
  unfold b64urlEncode
  rw [b64urlDecode_ofList (sextets_lt bytes), decodeGroups_sextets]

/-! ### UTF-8 -/

/-- State of the UTF-8 decoder: the code point so far, how many continuation bytes are
missing, and the range allowed for the next one. -/
structure Utf8State where
  point : Nat
  missing : Nat
  lower : Nat
  upper : Nat

def Utf8State.start : Utf8State := ⟨0, 0, 0x80, 0xBF⟩

def replacement : Char := Char.ofNat 0xFFFD

/-- A byte that can start a character. -/
def leadByte (b : Nat) : List Char × Utf8State :=
  if b < 0x80 then ([Char.ofNat b], .start)
  else if 0xC2 ≤ b ∧ b ≤ 0xDF then ([], ⟨b - 0xC0, 1, 0x80, 0xBF⟩)
  else if 0xE0 ≤ b ∧ b ≤ 0xEF then
    ([], ⟨b - 0xE0, 2, if b = 0xE0 then 0xA0 else 0x80, if b = 0xED then 0x9F else 0xBF⟩)
  else if 0xF0 ≤ b ∧ b ≤ 0xF4 then
    ([], ⟨b - 0xF0, 3, if b = 0xF0 then 0x90 else 0x80, if b = 0xF4 then 0x8F else 0xBF⟩)
  else ([replacement], .start)

def utf8Step (st : Utf8State) (b : Nat) : List Char × Utf8State :=
  if st.missing = 0 then leadByte b
  else if st.lower ≤ b ∧ b ≤ st.upper then
    let point := st.point * 64 + (b - 0x80)
    if st.missing = 1 then ([Char.ofNat point], .start) else ([], ⟨point, st.missing - 1, 0x80, 0xBF⟩)
  else (replacement :: (leadByte b).1, (leadByte b).2)

def utf8Decode : Utf8State → Bytes → List Char
  | st, [] => if st.missing = 0 then [] else [replacement]
  | st, b :: rest => (utf8Step st b.toNat).1 ++ utf8Decode (utf8Step st b.toNat).2 rest

/-- `new TextDecoder().decode`, as characters: ill-formed input becomes U+FFFD and a
leading byte order mark is dropped. -/
def textDecode (bytes : Bytes) : List Char :=
  match utf8Decode .start bytes with
  | c :: rest => if c.toNat = 0xFEFF then rest else c :: rest
  | [] => []

private theorem ofNat_byte {n : Nat} (small : n < 256) : (UInt8.ofNat n).toNat = n := by
  rw [UInt8.toNat_ofNat']
  omega

/-- A byte that leads a longer character leaves the decoder waiting. -/
private theorem utf8Decode_lead {b : Nat} {st : Utf8State} {rest : Bytes} (small : b < 256)
    (leads : leadByte b = ([], st)) : utf8Decode .start (UInt8.ofNat b :: rest) = utf8Decode st rest := by
  simp only [utf8Decode, ofNat_byte small, utf8Step, Utf8State.start, if_true, leads, List.nil_append]

/-- A continuation byte before the last one. -/
private theorem utf8Decode_more {st : Utf8State} {b : Nat} {rest : Bytes} (more : 1 < st.missing)
    (within : st.lower ≤ b ∧ b ≤ st.upper) (small : b < 256) :
    utf8Decode st (UInt8.ofNat b :: rest) =
      utf8Decode ⟨st.point * 64 + (b - 0x80), st.missing - 1, 0x80, 0xBF⟩ rest := by
  have waiting : st.missing ≠ 0 := by omega
  have notLast : st.missing ≠ 1 := by omega
  simp only [utf8Decode, ofNat_byte small, utf8Step, waiting, notLast, within, and_self, if_true, if_false,
    List.nil_append]

/-- The last continuation byte completes the character. -/
private theorem utf8Decode_last {st : Utf8State} {b : Nat} {rest : Bytes} (last : st.missing = 1)
    (within : st.lower ≤ b ∧ b ≤ st.upper) (small : b < 256) :
    utf8Decode st (UInt8.ofNat b :: rest) = Char.ofNat (st.point * 64 + (b - 0x80)) :: utf8Decode .start rest := by
  simp [utf8Decode, ofNat_byte small, utf8Step, last, within]

theorem utf8Decode_encodeChar (c : Char) (rest : Bytes) :
    utf8Decode .start (String.utf8EncodeChar c ++ rest) = c :: utf8Decode .start rest := by
  have same : Char.ofNat c.val.toNat = c := Char.ofNat_toNat c
  have valid : c.val.toNat < 0xD800 ∨ 0xDFFF < c.val.toNat ∧ c.val.toNat < 0x110000 := c.valid
  unfold String.utf8EncodeChar
  generalize c.val.toNat = v at valid same
  -- the four lengths of an encoded character
  by_cases one : v ≤ 0x7f
  · have first : (UInt8.ofNat v).toNat = v := ofNat_byte (by omega)
    have small : v < 128 := by omega
    simp [one, utf8Decode, utf8Step, leadByte, Utf8State.start, first, small, same]
  by_cases two : v ≤ 0x7ff
  · simp only [one, two, if_false, if_true, List.cons_append, List.nil_append]
    have leads : leadByte (v / 64 % 0x20 + 0xc0) = ([], ⟨v / 64, 1, 0x80, 0xBF⟩) := by
      have range : 0xC2 ≤ v / 64 % 0x20 + 0xc0 ∧ v / 64 % 0x20 + 0xc0 ≤ 0xDF := by omega
      have big : ¬ v / 64 % 0x20 + 0xc0 < 0x80 := by omega
      have point : v / 64 % 0x20 + 0xc0 - 0xC0 = v / 64 := by omega
      simp only [leadByte, big, range, and_self, if_true, if_false, point]
    rw [utf8Decode_lead (by omega) leads, utf8Decode_last rfl (by dsimp only; omega) (by omega)]
    have point : v / 64 * 64 + (v % 0x40 + 0x80 - 0x80) = v := by omega
    rw [point, same]
  by_cases three : v ≤ 0xffff
  · simp only [one, two, three, if_false, if_true, List.cons_append, List.nil_append]
    have leads : leadByte (v / 4096 % 0x10 + 0xe0) = ([], ⟨v / 4096, 2,
        if v / 4096 % 0x10 + 0xe0 = 0xE0 then 0xA0 else 0x80,
        if v / 4096 % 0x10 + 0xe0 = 0xED then 0x9F else 0xBF⟩) := by
      have range : 0xE0 ≤ v / 4096 % 0x10 + 0xe0 ∧ v / 4096 % 0x10 + 0xe0 ≤ 0xEF := by omega
      have big : ¬ v / 4096 % 0x10 + 0xe0 < 0x80 := by omega
      have long : ¬ (0xC2 ≤ v / 4096 % 0x10 + 0xe0 ∧ v / 4096 % 0x10 + 0xe0 ≤ 0xDF) := by omega
      have point : v / 4096 % 0x10 + 0xe0 - 0xE0 = v / 4096 := by omega
      simp only [leadByte, big, long, range, and_self, if_true, if_false, point]
    rw [utf8Decode_lead (by omega) leads,
      utf8Decode_more (by dsimp only; omega) (by dsimp only; split <;> split <;> omega) (by omega),
      utf8Decode_last rfl (by dsimp only; omega) (by omega)]
    have point : (v / 4096 * 64 + (v / 64 % 0x40 + 0x80 - 0x80)) * 64 + (v % 0x40 + 0x80 - 0x80) = v := by omega
    rw [point, same]
  · simp only [one, two, three, if_false, List.cons_append, List.nil_append]
    have leads : leadByte (v / 262144 % 0x08 + 0xf0) = ([], ⟨v / 262144, 3,
        if v / 262144 % 0x08 + 0xf0 = 0xF0 then 0x90 else 0x80,
        if v / 262144 % 0x08 + 0xf0 = 0xF4 then 0x8F else 0xBF⟩) := by
      have range : 0xF0 ≤ v / 262144 % 0x08 + 0xf0 ∧ v / 262144 % 0x08 + 0xf0 ≤ 0xF4 := by omega
      have big : ¬ v / 262144 % 0x08 + 0xf0 < 0x80 := by omega
      have long : ¬ (0xC2 ≤ v / 262144 % 0x08 + 0xf0 ∧ v / 262144 % 0x08 + 0xf0 ≤ 0xDF) := by omega
      have longer : ¬ (0xE0 ≤ v / 262144 % 0x08 + 0xf0 ∧ v / 262144 % 0x08 + 0xf0 ≤ 0xEF) := by omega
      have point : v / 262144 % 0x08 + 0xf0 - 0xF0 = v / 262144 := by omega
      simp only [leadByte, big, long, longer, range, and_self, if_true, if_false, point]
    rw [utf8Decode_lead (by omega) leads,
      utf8Decode_more (by dsimp only; omega) (by dsimp only; split <;> split <;> omega) (by omega),
      utf8Decode_more (by dsimp only; omega) (by dsimp only; omega) (by omega),
      utf8Decode_last rfl (by dsimp only; omega) (by omega)]
    have point : ((v / 262144 * 64 + (v / 4096 % 0x40 + 0x80 - 0x80)) * 64 + (v / 64 % 0x40 + 0x80 - 0x80)) * 64 +
        (v % 0x40 + 0x80 - 0x80) = v := by omega
    rw [point, same]

/-- Decoding gives back what was encoded. -/
theorem utf8Decode_encode (cs : List Char) : utf8Decode .start (cs.flatMap String.utf8EncodeChar) = cs := by
  induction cs with
  | nil => rfl
  | cons c rest ih => rw [List.flatMap_cons, utf8Decode_encodeChar, ih]

/-- A byte completes at most one character more than the decoder was waiting for. -/
theorem length_utf8Step (st : Utf8State) (b : Nat) :
    (utf8Step st b).1.length + (if (utf8Step st b).2.missing = 0 then 0 else 1) ≤
      1 + (if st.missing = 0 then 0 else 1) := by
  have lead : (leadByte b).1.length + (if (leadByte b).2.missing = 0 then 0 else 1) = 1 := by
    unfold leadByte
    split_ifs <;> simp_all [Utf8State.start]
  unfold utf8Step
  split_ifs <;> simp_all [Utf8State.start]

/-- The decoder makes at most one character of a byte. -/
theorem length_utf8Decode (bytes : Bytes) (st : Utf8State) :
    (utf8Decode st bytes).length ≤ bytes.length + (if st.missing = 0 then 0 else 1) := by
  induction bytes generalizing st with
  | nil =>
    simp only [utf8Decode]
    split <;> simp
  | cons b rest ih =>
    rw [utf8Decode, List.length_append, List.length_cons]
    have tail := ih (utf8Step st b.toNat).2
    have head := length_utf8Step st b.toNat
    omega

theorem length_textDecode (bytes : Bytes) : (textDecode bytes).length ≤ bytes.length := by
  have whole := length_utf8Decode bytes .start
  have idle : Utf8State.start.missing = 0 := rfl
  rw [if_pos idle] at whole
  unfold textDecode
  cases decoded : utf8Decode .start bytes with
  | nil => simp
  | cons c rest =>
    rw [decoded] at whole
    dsimp only
    split
    · exact (Nat.le_succ _).trans whole
    · exact whole

/-! ### Numbers on the wire -/

/-- `setUint16(0, n)`. -/
def uint16Bytes (n : Nat) : Bytes := [UInt8.ofNat (n / 256), UInt8.ofNat (n % 256)]

/-- `setUint32(0, n)`. -/
def uint32Bytes (n : Nat) : Bytes :=
  [UInt8.ofNat (n / 16777216), UInt8.ofNat (n / 65536 % 256), UInt8.ofNat (n / 256 % 256), UInt8.ofNat (n % 256)]

/-- `getUint32(0)`; shorter input throws. -/
def readUint32 : Bytes → Option Nat
  | a :: b :: c :: d :: _ => some (((a.toNat * 256 + b.toNat) * 256 + c.toNat) * 256 + d.toNat)
  | _ => none

theorem readUint32_le {bytes : Bytes} {n : Nat} (h : readUint32 bytes = some n) : n ≤ 0xffffffff := by
  unfold readUint32 at h
  split at h
  · rename_i a b c d rest
    have ha := a.toNat_lt
    have hb := b.toNat_lt
    have hc := c.toNat_lt
    have hd := d.toNat_lt
    simp only [Option.some.injEq] at h
    omega
  · cases h

/-- Length-prefix a UTF-8 string: uint16_be(byte_length) || utf8_bytes. -/
def lp (s : String) : Except String Bytes :=
  let bytes := utf8ToBytes s
  if bytes.length > 0xffff then .error "AAD field exceeds 65535 bytes"
  else .ok (uint16Bytes bytes.length ++ bytes)

private theorem uint16Bytes_injective {m n : Nat} (hm : m ≤ 0xffff) (hn : n ≤ 0xffff)
    (same : uint16Bytes m = uint16Bytes n) : m = n := by
  simp only [uint16Bytes, List.cons.injEq, and_true] at same
  have high := congrArg UInt8.toNat same.1
  have low := congrArg UInt8.toNat same.2
  simp only [UInt8.toNat_ofNat'] at high low
  omega

/-- A length-prefixed field can be read off the front of what follows. -/
theorem lp_append_injective {s t : String} {a b x y : Bytes} (hs : lp s = .ok a) (ht : lp t = .ok b)
    (same : a ++ x = b ++ y) : s = t ∧ x = y := by
  simp only [lp] at hs ht
  split_ifs at hs with shortS
  split_ifs at ht with shortT
  cases hs
  cases ht
  rw [List.append_assoc, List.append_assoc] at same
  have heads := List.append_inj same (by simp [uint16Bytes])
  have lengths := uint16Bytes_injective (by omega) (by omega) heads.1
  have parts := List.append_inj heads.2 lengths
  exact ⟨utf8ToBytes_injective parts.1, parts.2⟩

end WalletPair.Sdk
