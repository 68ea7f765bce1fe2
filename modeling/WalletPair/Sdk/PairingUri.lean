import WalletPair.Sdk.Protocol

/-! Reading a pairing URI: the query string as a browser parses it, the checks made on its
parameters, and that a URI built from a channel, a key and a name gives these back. -/

namespace WalletPair.Sdk

/-! ### Query strings -/

/-- `%` and two hexadecimal digits stand for a byte; any other `%` stands for itself. -/
def percentDecode : Bytes → Bytes
  | 37 :: high :: low :: rest =>
    match Json.hexValue (Char.ofNat high.toNat), Json.hexValue (Char.ofNat low.toNat) with
    | some h, some l => UInt8.ofNat (h * 16 + l) :: percentDecode rest
    | _, _ => 37 :: percentDecode (high :: low :: rest)
  | b :: rest => b :: percentDecode rest
  | [] => []

/-- A name or a value: `+` is a space, then percent and UTF-8 decoding. -/
def decodeField (bytes : Bytes) : String :=
  String.ofList (utf8Decode .start (percentDecode (bytes.map fun b => if b = 43 then 32 else b)))

/-- One `name=value`; without `=` the value is empty. -/
def decodePair (piece : Bytes) : String × String :=
  (decodeField (piece.takeWhile (· != 61)), decodeField ((piece.dropWhile (· != 61)).drop 1))

/-- The list of a `URLSearchParams`: the pieces between `&` that are not empty. -/
def queryPairs (bytes : Bytes) : List (String × String) :=
  ((bytes.splitOn 38).filter (fun piece => !piece.isEmpty)).map decodePair

/-- `new URLSearchParams(text)`: a leading `?` is dropped. -/
def searchParams (text : List Char) : List (String × String) :=
  queryPairs ((match text with
    | '?' :: rest => rest
    | other => other).flatMap String.utf8EncodeChar)

/-- `params.get(name)`: the first value of that name. -/
def getParam (params : List (String × String)) (name : String) : Option String :=
  (params.find? (fun p => p.1 == name)).map Prod.snd

/-! ### Pairing URIs -/

/-- `uri.replace(/^walletpair:\?/, '')`. -/
def stripScheme (uri : List Char) : List Char :=
  if "walletpair:?".toList.isPrefixOf uri then uri.drop 12 else uri

def isLowerHex (c : Char) : Bool := ('0' ≤ c && c ≤ '9') || ('a' ≤ c && c ≤ 'f')

/-- A comma list without its empty items; absent when the parameter is missing or empty. -/
def splitList (param : Option String) : Option (List String) :=
  (nonEmpty param).map fun text => ((text.toList.splitOn ',').filter (fun item => !item.isEmpty)).map String.ofList

/-- A parameter that must be there and not be empty. -/
def requireParam (params : List (String × String)) (name message : String) : Except String String :=
  orThrow message (nonEmpty (getParam params name))

def parsePairingUri (uri : String) : Except String PairingParams := do
  let params := searchParams (stripScheme uri.toList)
  let ch ← requireParam params "ch" "Invalid pairing URI: missing ch or pubkey"
  let pubkey ← requireParam params "pubkey" "Invalid pairing URI: missing ch or pubkey"
  if !(ch.toList.length = 64 && ch.toList.all isLowerHex) then
    throw "Invalid pairing URI: ch must be 64 lowercase hex chars"
  let pubkeyBytes ← orThrow "invalid base64" (b64urlDecode pubkey)
  if pubkeyBytes.length ≠ 32 then throw "Invalid pairing URI: pubkey must be 32 bytes"
  let name ← requireParam params "name" "Invalid pairing URI: missing required param \"name\""
  let url ← requireParam params "url" "Invalid pairing URI: missing required param \"url\""
  let icon ← requireParam params "icon" "Invalid pairing URI: missing required param \"icon\""
  if !"https:".toList.isPrefixOf icon.toList then throw "Invalid pairing URI: icon must use https:"
  let relay ← requireParam params "relay" "Invalid pairing URI: missing required param \"relay\""
  return ⟨ch, pubkey, relay, name, url, icon, splitList (getParam params "methods"),
    splitList (getParam params "chains")⟩

/-- A channel id is drawn at random. -/
def generateChannelId (random : Bytes) : String := bytesToHex random

/-! ### What a built URI reads back as -/

private theorem unreserved_lt {c : Char} (free : isUnreserved c = true) : c.toNat < 128 := by
  unfold isUnreserved at free
  rcases Bool.or_eq_true_iff.mp free with plain | sign
  · unfold Char.isAlphanum Char.isAlpha Char.isUpper Char.isLower at plain
    simp only [Char.isDigit, Bool.or_eq_true, Bool.and_eq_true, decide_eq_true_eq, UInt32.le_iff_toNat_le] at plain
    have upper : 'Z'.val.toNat < 128 := by decide
    have lower : 'z'.val.toNat < 128 := by decide
    have digit : '9'.val.toNat < 128 := by decide
    change c.val.toNat < 128
    omega
  · have signs : ("-_.!~*'()".toList.all fun c => decide (c.toNat < 128)) = true := by decide
    exact of_decide_eq_true (List.all_eq_true.mp signs c (by simpa using sign))

/-- A character that is left alone is one byte, and none that a query string reads. -/
theorem unreserved_byte {c : Char} (free : isUnreserved c = true) :
    ∃ b : UInt8, String.utf8EncodeChar c = [b] ∧ b ≠ 37 ∧ b ≠ 38 ∧ b ≠ 43 ∧ b ≠ 61 := by
  have known : ∀ n < 128, isUnreserved (Char.ofNat n) = true →
      String.utf8EncodeChar (Char.ofNat n) = [UInt8.ofNat n] ∧ UInt8.ofNat n ≠ 37 ∧ UInt8.ofNat n ≠ 38 ∧
        UInt8.ofNat n ≠ 43 ∧ UInt8.ofNat n ≠ 61 := by
    decide +kernel
  have found := known c.toNat (unreserved_lt free)
  rw [Char.ofNat_toNat] at found
  exact ⟨_, found free⟩

/-- An escaped byte, as bytes. -/
private theorem percentByte_bytes : ∀ n < 256, ∃ high low : UInt8,
    (percentByte (UInt8.ofNat n)).flatMap String.utf8EncodeChar = [37, high, low] ∧
      (∀ b ∈ [37, high, low], b ≠ 38 ∧ b ≠ 43 ∧ b ≠ 61) ∧
      Json.hexValue (Char.ofNat high.toNat) = some (n / 16) ∧ Json.hexValue (Char.ofNat low.toNat) = some (n % 16) := by
  have digit : ∀ d < 16,
      String.utf8EncodeChar (upperHex d) = [UInt8.ofNat (upperHex d).toNat] ∧
        (UInt8.ofNat (upperHex d).toNat ≠ 38 ∧ UInt8.ofNat (upperHex d).toNat ≠ 43 ∧ UInt8.ofNat (upperHex d).toNat ≠ 61) ∧
        Json.hexValue (Char.ofNat (UInt8.ofNat (upperHex d).toNat).toNat) = some d := by
    decide +kernel
  intro n small
  obtain ⟨high, highClean, highValue⟩ := digit (n / 16) (by omega)
  obtain ⟨low, lowClean, lowValue⟩ := digit (n % 16) (by omega)
  have value : (UInt8.ofNat n).toNat = n := by
    rw [UInt8.toNat_ofNat', Nat.mod_eq_of_lt small]
  refine ⟨_, _, ?_, ?_, highValue, lowValue⟩
  · rw [percentByte, value, List.flatMap_cons, List.flatMap_cons, List.flatMap_cons, high, low]
    rfl
  · intro b member
    rcases List.mem_cons.mp member with rfl | later
    · decide
    rcases List.mem_cons.mp later with rfl | last
    · exact highClean
    · rw [List.mem_singleton.mp last]
      exact lowClean

/-- What `encodeURIComponent` writes for a text, as bytes. -/
def escaped (cs : List Char) : Bytes :=
  (cs.flatMap fun c => if isUnreserved c then [c] else (String.utf8EncodeChar c).flatMap percentByte).flatMap
    String.utf8EncodeChar

theorem escaped_cons (c : Char) (cs : List Char) : escaped (c :: cs) = escaped [c] ++ escaped cs := by
  simp [escaped]

theorem escaped_free {c : Char} (free : isUnreserved c = true) : escaped [c] = String.utf8EncodeChar c := by
  simp [escaped, free]

private theorem escaped_other {c : Char} (other : isUnreserved c = false) :
    escaped [c] = (String.utf8EncodeChar c).flatMap fun b => (percentByte b).flatMap String.utf8EncodeChar := by
  simp [escaped, other, List.flatMap_assoc]

/-- An escaped text holds no byte that separates parameters. -/
theorem escaped_clean (cs : List Char) : ∀ b ∈ escaped cs, b ≠ 38 ∧ b ≠ 43 ∧ b ≠ 61 := by
  induction cs with
  | nil => simp [escaped]
  | cons c cs ih =>
    intro b member
    rw [escaped_cons] at member
    rcases List.mem_append.mp member with first | rest
    · cases free : isUnreserved c with
      | true =>
        obtain ⟨byte, encoded, -, notAmp, notPlus, notEq⟩ := unreserved_byte free
        rw [escaped_free free, encoded, List.mem_singleton] at first
        exact first ▸ ⟨notAmp, notPlus, notEq⟩
      | false =>
        rw [escaped_other free] at first
        obtain ⟨byte, -, escape⟩ := List.mem_flatMap.mp first
        obtain ⟨high, low, shape, clean, -⟩ := percentByte_bytes byte.toNat byte.toNat_lt
        rw [UInt8.ofNat_toNat] at shape
        exact clean b (shape ▸ escape)
    · exact ih b rest

/-- Percent decoding gives the bytes back. -/
private theorem percentDecode_escapes (bytes rest : Bytes) :
    percentDecode ((bytes.flatMap fun b => (percentByte b).flatMap String.utf8EncodeChar) ++ rest) =
      bytes ++ percentDecode rest := by
  induction bytes with
  | nil => rfl
  | cons b bytes ih =>
    obtain ⟨high, low, shape, -, left, right⟩ := percentByte_bytes b.toNat b.toNat_lt
    rw [UInt8.ofNat_toNat] at shape
    have value : UInt8.ofNat (b.toNat / 16 * 16 + b.toNat % 16) = b := by
      rw [Nat.div_add_mod']
      exact UInt8.ofNat_toNat
    rw [List.flatMap_cons, shape, List.append_assoc]
    simp only [List.cons_append, List.nil_append, percentDecode, left, right, value, ih]

theorem percentDecode_cons {b : UInt8} (other : b ≠ 37) (rest : Bytes) :
    percentDecode (b :: rest) = b :: percentDecode rest := by
  rw [percentDecode.eq_def]
  split
  · rename_i h
    cases h
    exact absurd rfl other
  · rename_i h
    cases h
    rfl
  · rename_i h
    cases h

private theorem percentDecode_escaped (cs : List Char) (rest : Bytes) :
    percentDecode (escaped cs ++ rest) = cs.flatMap String.utf8EncodeChar ++ percentDecode rest := by
  induction cs with
  | nil => rfl
  | cons c cs ih =>
    rw [escaped_cons, List.append_assoc, List.flatMap_cons, List.append_assoc]
    cases free : isUnreserved c with
    | true =>
      obtain ⟨byte, encoded, notPercent, -⟩ := unreserved_byte free
      rw [escaped_free free, encoded, List.cons_append, List.nil_append, percentDecode_cons notPercent, ih]
      rfl
    | false => rw [escaped_other free, percentDecode_escapes, ih]

/-- A field reads back as the text that was escaped. -/
theorem decodeField_escaped (text : String) : decodeField (escaped text.toList) = text := by
  have kept : (escaped text.toList).map (fun b => if b = 43 then 32 else b) = escaped text.toList := by
    have same : ∀ b ∈ escaped text.toList, (if b = 43 then 32 else b) = b := fun b member =>
      if_neg (escaped_clean _ b member).2.1
    rw [List.map_congr_left same, List.map_id']
  have decoded := percentDecode_escaped text.toList []
  rw [List.append_nil, show percentDecode [] = [] from rfl, List.append_nil] at decoded
  rw [decodeField, kept, decoded, utf8Decode_encode, String.ofList_toList]

theorem escaped_unreserved {text : List Char} (free : ∀ c ∈ text, isUnreserved c = true) :
    escaped text = text.flatMap String.utf8EncodeChar := by
  induction text with
  | nil => rfl
  | cons c rest ih =>
    rw [escaped_cons, escaped_free (free c (by simp)), ih fun d member => free d (by simp [member]), List.flatMap_cons]

/-- One parameter of a built URI. -/
def pairBytes (key text : String) : Bytes := escaped key.toList ++ 61 :: escaped text.toList

theorem decodePair_pairBytes (key text : String) : decodePair (pairBytes key text) = (key, text) := by
  have free : ∀ b ∈ escaped key.toList, (b != 61) = true := fun b member => by
    simpa using (escaped_clean _ b member).2.2
  have name : (pairBytes key text).takeWhile (· != 61) = escaped key.toList := by
    rw [pairBytes, List.takeWhile_append_of_pos free]
    simp
  have value : (pairBytes key text).dropWhile (· != 61) = 61 :: escaped text.toList := by
    rw [pairBytes, List.dropWhile_append_of_pos free]
    simp
  rw [decodePair, name, value, List.drop_one, List.tail_cons, decodeField_escaped, decodeField_escaped]

theorem queryPairs_cons (key text : String) (rest : Bytes) :
    queryPairs (pairBytes key text ++ 38 :: rest) = (key, text) :: queryPairs rest := by
  have whole : (38 : UInt8) ∉ pairBytes key text := by
    intro member
    rcases List.mem_append.mp member with left | right
    · exact (escaped_clean _ _ left).1 rfl
    · rcases List.mem_cons.mp right with equals | right
      · cases equals
      · exact (escaped_clean _ _ right).1 rfl
  have some : !(pairBytes key text).isEmpty := by simp [pairBytes]
  rw [queryPairs, List.splitOn_append_cons_self_of_not_mem whole, List.filter_cons_of_pos (by simpa using some),
    List.map_cons, decodePair_pairBytes]
  rfl

theorem stripScheme_append (text : List Char) : stripScheme ("walletpair:?".toList ++ text) = text := by
  have leads : "walletpair:?".toList.isPrefixOf ("walletpair:?".toList ++ text) = true := by
    rw [List.isPrefixOf_iff_prefix]
    exact List.prefix_append _ _
  rw [stripScheme, if_pos leads]
  exact List.drop_left' (by decide)

/-- A text that does not begin with a question mark is the query string itself. -/
theorem searchParams_cons {c : Char} {rest : List Char} (other : c ≠ '?') :
    searchParams (c :: rest) = queryPairs ((c :: rest).flatMap String.utf8EncodeChar) := by
  unfold searchParams
  split
  · rename_i h
    cases h
    exact absurd rfl other
  · rfl

theorem escaped_encode (text : String) :
    (encodeURIComponent text).toList.flatMap String.utf8EncodeChar = escaped text.toList := by
  rw [encodeURIComponent, String.toList_ofList]
  rfl

/-- The query string of a built URI up to the name, with what follows it. -/
def queryText (params : PairingParams) (tail : List Char) : List Char :=
  'c' :: ("h=".toList ++ (params.ch.toList ++ ("&pubkey=".toList ++ (params.pubkey.toList ++ ("&relay=".toList ++
    ((encodeURIComponent params.relay).toList ++ ("&name=".toList ++ ((encodeURIComponent params.name).toList ++
      '&' :: tail))))))))

theorem queryText_bytes {params : PairingParams} (ch : ∀ c ∈ params.ch.toList, isUnreserved c = true)
    (pubkey : ∀ c ∈ params.pubkey.toList, isUnreserved c = true) (tail : List Char) :
    (queryText params tail).flatMap String.utf8EncodeChar =
      pairBytes "ch" params.ch ++ 38 :: (pairBytes "pubkey" params.pubkey ++ 38 :: (pairBytes "relay" params.relay ++
        38 :: (pairBytes "name" params.name ++ 38 :: tail.flatMap String.utf8EncodeChar))) := by
  have c : String.utf8EncodeChar 'c' ++ "h=".toList.flatMap String.utf8EncodeChar = escaped "ch".toList ++ [61] := by
    decide
  have k : "&pubkey=".toList.flatMap String.utf8EncodeChar = 38 :: (escaped "pubkey".toList ++ [61]) := by
    decide
  have r : "&relay=".toList.flatMap String.utf8EncodeChar = 38 :: (escaped "relay".toList ++ [61]) := by
    decide
  have n : "&name=".toList.flatMap String.utf8EncodeChar = 38 :: (escaped "name".toList ++ [61]) := by
    decide
  have amp : String.utf8EncodeChar '&' = [38] := by decide
  rw [queryText, List.flatMap_cons, List.flatMap_append, ← List.append_assoc, c]
  simp only [List.flatMap_append, List.flatMap_cons, k, r, n, amp, escaped_encode, ← escaped_unreserved ch,
    ← escaped_unreserved pubkey, pairBytes, List.append_assoc, List.cons_append, List.nil_append]

/-- What follows the name. -/
def queryTail (params : PairingParams) : List Char :=
  "url=".toList ++ ((encodeURIComponent params.url).toList ++ ("&icon=".toList ++
    ((encodeURIComponent params.icon).toList ++ ((listParam "&methods=" params.methods).toList ++
      (listParam "&chains=" params.chains).toList))))

theorem buildPairingUri_toList (params : PairingParams) :
    (buildPairingUri params).toList = "walletpair:?".toList ++ queryText params (queryTail params) := by
  have first (rest : List Char) : "walletpair:?ch=".toList ++ rest =
      "walletpair:?".toList ++ 'c' :: ("h=".toList ++ rest) := rfl
  have next (rest : List Char) : "&url=".toList ++ rest = '&' :: ("url=".toList ++ rest) := rfl
  unfold buildPairingUri queryText queryTail
  simp only [String.toList_append, List.append_assoc]
  rw [first, next]

/-- The parameters that come first in a built URI; what follows depends on texts that are
written as they are. -/
theorem searchParams_buildPairingUri {params : PairingParams} (ch : ∀ c ∈ params.ch.toList, isUnreserved c = true)
    (pubkey : ∀ c ∈ params.pubkey.toList, isUnreserved c = true) :
    searchParams (stripScheme (buildPairingUri params).toList) = ("ch", params.ch) ::
      ("pubkey", params.pubkey) :: ("relay", params.relay) :: ("name", params.name) ::
        queryPairs ((queryTail params).flatMap String.utf8EncodeChar) := by
  rw [buildPairingUri_toList, stripScheme_append]
  unfold queryText
  rw [searchParams_cons (by decide)]
  change queryPairs ((queryText params (queryTail params)).flatMap String.utf8EncodeChar) = _
  rw [queryText_bytes ch pubkey]
  simp only [queryPairs_cons]

theorem requireParam_ok {params : List (String × String)} {name message text : String}
    (found : requireParam params name message = .ok text) : getParam params name = some text := by
  unfold requireParam at found
  cases read : nonEmpty (getParam params name) with
  | none => simp [read, orThrow] at found
  | some value =>
    rw [read] at found
    cases found
    exact nonEmpty_some read

/-- The parameters behind an accepted URI. -/
theorem parsePairingUri_ok {uri : String} {parsed : PairingParams} (accepted : parsePairingUri uri = .ok parsed) :
    getParam (searchParams (stripScheme uri.toList)) "ch" = some parsed.ch ∧
      getParam (searchParams (stripScheme uri.toList)) "pubkey" = some parsed.pubkey ∧
      getParam (searchParams (stripScheme uri.toList)) "name" = some parsed.name := by
  unfold parsePairingUri at accepted
  obtain ⟨ch, foundCh, accepted⟩ := ok_of_except_bind accepted
  obtain ⟨pubkey, foundPubkey, accepted⟩ := ok_of_except_bind accepted
  split_ifs at accepted
  · cases accepted
  obtain ⟨bytes, -, accepted⟩ := ok_of_except_bind accepted
  split_ifs at accepted
  · cases accepted
  obtain ⟨name, foundName, accepted⟩ := ok_of_except_bind accepted
  obtain ⟨url, -, accepted⟩ := ok_of_except_bind accepted
  obtain ⟨icon, -, accepted⟩ := ok_of_except_bind accepted
  split_ifs at accepted
  · cases accepted
  obtain ⟨relay, -, accepted⟩ := ok_of_except_bind accepted
  cases accepted
  exact ⟨requireParam_ok foundCh, requireParam_ok foundPubkey, requireParam_ok foundName⟩

/-- A URI that is accepted names the channel, the key and the dApp it was built with. -/
theorem parsePairingUri_buildPairingUri {params parsed : PairingParams}
    (ch : ∀ c ∈ params.ch.toList, isUnreserved c = true) (pubkey : ∀ c ∈ params.pubkey.toList, isUnreserved c = true)
    (accepted : parsePairingUri (buildPairingUri params) = .ok parsed) :
    parsed.ch = params.ch ∧ parsed.pubkey = params.pubkey ∧ parsed.name = params.name := by
  have read := searchParams_buildPairingUri ch pubkey
  obtain ⟨channel, key, name⟩ := parsePairingUri_ok accepted
  rw [read] at channel key name
  simp [getParam] at channel key name
  exact ⟨channel.symm, key.symm, name.symm⟩

theorem generateChannelId_unreserved (random : Bytes) : ∀ c ∈ (generateChannelId random).toList, isUnreserved c = true := by
  have digits : ∀ n < 16, isUnreserved (hexChar n) = true := by decide
  intro c member
  rw [generateChannelId, bytesToHex, String.toList_ofList] at member
  obtain ⟨b, -, digit⟩ := List.mem_flatMap.mp member
  have small := b.toNat_lt
  rcases List.mem_cons.mp digit with rfl | digit
  · exact digits _ (by omega)
  · rw [List.mem_singleton] at digit
    exact digit ▸ digits _ (by omega)

theorem b64urlEncode_unreserved (bytes : Bytes) : ∀ c ∈ (b64urlEncode bytes).toList, isUnreserved c = true := by
  have digits : ∀ n < 64, isUnreserved (sextetChar n) = true := by decide
  intro c member
  rw [b64urlEncode, String.toList_ofList] at member
  obtain ⟨n, digit, rfl⟩ := List.mem_map.mp member
  exact digits n (sextets_lt bytes n digit)

end WalletPair.Sdk
