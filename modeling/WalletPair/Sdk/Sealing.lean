import WalletPair.Sdk.Crypto
import WalletPair.Sdk.JsonNormal
import Mathlib.Data.List.Induction

/-! Sealed envelopes and what they are bound to. The associated data of a payload names the
channel, the type, the sender and the id, with the lengths written out, and that of a join
the channel alone under a type of its own; so an envelope opens under exactly the context
it was sealed in. -/

namespace WalletPair.Sdk

/-! ### Channel ids -/

def isHexByte (b : UInt8) : Bool := (48 ≤ b && b ≤ 57) || (97 ≤ b && b ≤ 102)

/-- Sixty-four lowercase hexadecimal digits. -/
def IsChannelId (channelIdHex : String) : Prop :=
  (utf8ToBytes channelIdHex).length = 64 ∧ ∀ b ∈ utf8ToBytes channelIdHex, isHexByte b = true

instance (channelIdHex : String) : Decidable (IsChannelId channelIdHex) := by
  unfold IsChannelId
  exact @instDecidableAnd _ _ inferInstance (List.decidableBAll _ _)

private theorem hexValue_of_lower : ∀ n < 256, isHexByte (UInt8.ofNat n) = true →
    ∃ v, v < 16 ∧ Json.hexValue (Char.ofNat n) = some v ∧ Json.hexDigit v = UInt8.ofNat n := by
  decide +kernel

/-- Two digits are read as the byte they were written for. -/
theorem hexPairs_lower {digits : Bytes} {count : Nat} (length : digits.length = 2 * count)
    (lower : ∀ b ∈ digits, isHexByte b = true) :
    ∃ bytes, hexPairs digits = some bytes ∧ bytes.length = count ∧
      digits = bytes.flatMap (fun b => [Json.hexDigit (b.toNat / 16), Json.hexDigit (b.toNat % 16)]) := by
  induction count generalizing digits with
  | zero =>
    have empty : digits = [] := List.length_eq_zero_iff.mp length
    exact ⟨[], by rw [empty]; rfl, rfl, empty⟩
  | succ count ih =>
    match digits, length, lower with
    | high :: low :: rest, length, lower =>
      obtain ⟨h, small, highValue, highDigit⟩ :=
        hexValue_of_lower high.toNat high.toNat_lt (by simpa using lower high (by simp))
      obtain ⟨l, smaller, lowValue, lowDigit⟩ :=
        hexValue_of_lower low.toNat low.toNat_lt (by simpa using lower low (by simp))
      have shorter : rest.length = 2 * count := by
        simp only [List.length_cons] at length
        omega
      obtain ⟨bytes, read, half, digits⟩ := ih shorter fun b member => lower b (by simp [member])
      refine ⟨UInt8.ofNat (h * 16 + l) :: bytes, ?_, by simp [half], ?_⟩
      · simp [hexPairs, highValue, lowValue, read]
      · have value : (UInt8.ofNat (h * 16 + l)).toNat = h * 16 + l := by
          rw [UInt8.toNat_ofNat']
          omega
        have quotient : (h * 16 + l) / 16 = h := by omega
        have remainder : (h * 16 + l) % 16 = l := by omega
        rw [List.flatMap_cons, value, quotient, remainder, highDigit, lowDigit, ← digits]
        simp

/-- A channel id stands for thirty-two bytes, and different ids for different bytes. -/
theorem channelBytes_of_id {channelIdHex : String} (id : IsChannelId channelIdHex) :
    ∃ bytes, channelBytes channelIdHex = .ok bytes ∧ bytes.length = 32 ∧ utf8ToBytes channelIdHex =
      bytes.flatMap (fun b => [Json.hexDigit (b.toNat / 16), Json.hexDigit (b.toNat % 16)]) := by
  have length : (utf8ToBytes channelIdHex).length = 2 * 32 := id.1
  obtain ⟨bytes, read, length, digits⟩ := hexPairs_lower length id.2
  exact ⟨bytes, by simp [channelBytes, hexToBytes, read, orThrow], length, digits⟩

theorem channelBytes_injective {left right : String} {bytes : Bytes} (first : IsChannelId left)
    (second : IsChannelId right) (one : channelBytes left = .ok bytes) (two : channelBytes right = .ok bytes) :
    left = right := by
  obtain ⟨xs, readLeft, -, digitsLeft⟩ := channelBytes_of_id first
  obtain ⟨ys, readRight, -, digitsRight⟩ := channelBytes_of_id second
  have sameLeft : xs = bytes := by simpa [one] using readLeft.symm
  have sameRight : ys = bytes := by simpa [two] using readRight.symm
  apply utf8ToBytes_injective
  rw [digitsLeft, digitsRight, sameLeft, sameRight]

/-! ### Associated data -/

/-- The fields of a header fit their length prefix. -/
def AadHeader.Fits (header : AadHeader) : Prop :=
  (utf8ToBytes header.sender).length ≤ 65535 ∧ (utf8ToBytes header.id).length ≤ 65535

/-- A field behind its length. -/
def prefixed (text : String) : Bytes := uint16Bytes (utf8ToBytes text).length ++ utf8ToBytes text

theorem lp_of_fits {text : String} (fits : (utf8ToBytes text).length ≤ 65535) : lp text = .ok (prefixed text) := by
  unfold lp
  rw [if_neg (by omega)]
  rfl

theorem buildAad_of_fits {channelIdHex : String} {header : AadHeader} {channel : Bytes}
    (read : channelBytes channelIdHex = .ok channel) (fits : header.Fits) :
    buildAad channelIdHex header =
      .ok (channel ++ header.type.byte :: (prefixed header.sender ++ prefixed header.id)) := by
  simp [buildAad, read, lp_of_fits fits.1, lp_of_fits fits.2, bind, Except.bind, pure, Except.pure]

/-- Equal associated data name the same channel, type, sender and id. -/
theorem buildAad_binds {left right : String} {h k : AadHeader} {aad : Bytes} (first : IsChannelId left)
    (second : IsChannelId right) (one : buildAad left h = .ok aad) (two : buildAad right k = .ok aad)
    (fits : h.Fits) (fits' : k.Fits) : left = right ∧ h = k := by
  obtain ⟨xs, readLeft, lengthLeft, -⟩ := channelBytes_of_id first
  obtain ⟨ys, readRight, lengthRight, -⟩ := channelBytes_of_id second
  have same : xs ++ h.type.byte :: (prefixed h.sender ++ prefixed h.id) =
      ys ++ k.type.byte :: (prefixed k.sender ++ prefixed k.id) := by
    rw [buildAad_of_fits readLeft fits] at one
    rw [buildAad_of_fits readRight fits'] at two
    exact Except.ok.inj (one.trans two.symm)
  have channels : xs = ys := (List.append_inj same (lengthLeft.trans lengthRight.symm)).1
  subst channels
  obtain rfl := channelBytes_injective first second readLeft readRight
  exact ⟨rfl, buildAad_injective one two⟩

/-- The associated data of a join on this channel. -/
def joinAad (channel : Bytes) : Bytes := channel ++ [0x04]

/-- Joins and payloads are sealed with different associated data, whatever the channels. -/
theorem joinAad_ne_buildAad {left right : String} {header : AadHeader} {channel aad : Bytes} (first : IsChannelId left)
    (second : IsChannelId right) (read : channelBytes left = .ok channel) (built : buildAad right header = .ok aad)
    (fits : header.Fits) : joinAad channel ≠ aad := by
  intro same
  obtain ⟨xs, readLeft, lengthLeft, -⟩ := channelBytes_of_id first
  obtain ⟨ys, readRight, lengthRight, -⟩ := channelBytes_of_id second
  obtain rfl : xs = channel := by simpa [read] using readLeft.symm
  rw [buildAad_of_fits readRight fits] at built
  have length := congrArg List.length (same.trans (Except.ok.inj built).symm)
  simp only [joinAad, prefixed, uint16Bytes, List.length_append, List.length_cons, List.length_nil] at length
  omega

/-! ### The primitives -/

/-- The cipher opens what it sealed; what ends in something sealed, or is cut from the end of
it, opens under no other key, nonce or associated data; a sealed text carries its tag. -/
structure Crypto.Aead (C : Crypto) : Prop where
  opens : ∀ key nonce aad plaintext, C.decrypt key nonce aad (C.encrypt key nonce aad plaintext) = some plaintext
  binds : ∀ key nonce aad plaintext key' nonce' aad' ciphertext opened,
    C.decrypt key' nonce' aad' ciphertext = some opened →
    ciphertext <:+ C.encrypt key nonce aad plaintext ∨ C.encrypt key nonce aad plaintext <:+ ciphertext →
    key' = key ∧ nonce' = nonce ∧ aad' = aad
  tagged : ∀ key nonce aad plaintext, 16 ≤ (C.encrypt key nonce aad plaintext).length

/-- The canonical printer writes this value as a text that reads back as the same value. -/
def Crypto.Prints (C : Crypto) (value : Json) (text : String) (back : Json) : Prop :=
  C.canonicalize value = some text ∧ Json.parse (textDecode (utf8ToBytes text)) = some back ∧
    back.normal = value.normal

/-! ### Payloads -/

theorem readUint32_uint32Bytes {n : Nat} (small : n ≤ maxSeq) : readUint32 (uint32Bytes n) = some n := by
  simp only [uint32Bytes, readUint32, UInt8.toNat_ofNat', Option.some.injEq]
  unfold maxSeq at small
  omega

section
variable {C : Crypto} {key : Bytes} {channelIdHex text : String} {seq : Nat} {data back : Json} {header : AadHeader}
  {aad : Bytes}

/-- The bytes of a sealed payload. -/
def payloadEnvelope (C : Crypto) (key : Bytes) (seq : Nat) (aad plaintext : Bytes) : Bytes :=
  uint32Bytes seq ++ C.encrypt key (payloadNonce C key (uint32Bytes seq)) aad plaintext

theorem sealPayload_ok (small : seq ≤ maxSeq) (printed : C.canonicalize data = some text)
    (built : buildAad channelIdHex header = .ok aad) : sealPayload C key channelIdHex seq data header =
      .ok (b64urlEncode (payloadEnvelope C key seq aad (utf8ToBytes text)), utf8ToBytes text) := by
  unfold sealPayload
  rw [if_neg (Nat.not_lt.mpr small)]
  simp [canonicalJson, printed, orThrow, built, bind, Except.bind, pure, Except.pure, payloadEnvelope]

/-- What is sealed is the canonical text of the value. -/
theorem sealPayload_text {made : String × Bytes} (sealing : sealPayload C key channelIdHex seq data header = .ok made) :
    seq ≤ maxSeq ∧ ∃ text, canonicalJson C (some data) = .ok text ∧ made.2 = utf8ToBytes text := by
  unfold sealPayload at sealing
  split_ifs at sealing with large
  · cases sealing
  · obtain ⟨text, printed, sealing⟩ := ok_of_except_bind sealing
    obtain ⟨aad, -, sealing⟩ := ok_of_except_bind sealing
    cases sealing
    exact ⟨Nat.not_lt.mp large, text, printed, rfl⟩

/-- Opening takes the number off the front, opens the rest, and reads the text. -/
theorem unsealPayload_apply {bytes : Bytes} (built : buildAad channelIdHex header = .ok aad) :
    unsealPayload C key channelIdHex (b64urlEncode bytes) header = (do
      let plaintext ← orThrow "invalid tag" (C.decrypt key (payloadNonce C key (bytes.take 4)) aad (bytes.drop 4))
      let seq ← orThrow "out of bounds" (readUint32 (bytes.take 4))
      let data ← orThrow "Decrypted payload is not valid JSON" (Json.parse (textDecode plaintext))
      return ⟨seq, data, plaintext⟩) := by
  unfold unsealPayload
  rw [b64urlDecode_encode, built]
  rfl

/-- A payload opens in the context it was sealed in. -/
theorem unsealPayload_sealed (aead : C.Aead) (small : seq ≤ maxSeq) (prints : C.Prints data text back)
    (built : buildAad channelIdHex header = .ok aad) : unsealPayload C key channelIdHex
      (b64urlEncode (payloadEnvelope C key seq aad (utf8ToBytes text))) header =
      .ok ⟨seq, back, utf8ToBytes text⟩ := by
  have number : (payloadEnvelope C key seq aad (utf8ToBytes text)).take 4 = uint32Bytes seq := by
    simp [payloadEnvelope, uint32Bytes]
  have rest : (payloadEnvelope C key seq aad (utf8ToBytes text)).drop 4 =
      C.encrypt key (payloadNonce C key (uint32Bytes seq)) aad (utf8ToBytes text) := by
    simp [payloadEnvelope, uint32Bytes]
  rw [unsealPayload_apply built, number, rest, aead.opens, readUint32_uint32Bytes small]
  simp [orThrow, prints.2.1, bind, Except.bind, pure, Except.pure]

/-- A payload opens under no other associated data. -/
theorem unsealPayload_bound (aead : C.Aead) {other : String} {header' : AadHeader} {aad' plaintext : Bytes}
    {opened : Unsealed} (built : buildAad other header' = .ok aad')
    (success : unsealPayload C key other (b64urlEncode (payloadEnvelope C key seq aad plaintext)) header' = .ok opened) :
    aad' = aad := by
  rw [unsealPayload_apply built] at success
  obtain ⟨plain, opens, -⟩ := ok_of_except_bind success
  have decrypted : C.decrypt key (payloadNonce C key ((payloadEnvelope C key seq aad plaintext).take 4)) aad'
      ((payloadEnvelope C key seq aad plaintext).drop 4) = some plain := orThrow_ok opens
  have suffix : (payloadEnvelope C key seq aad plaintext).drop 4 <:+
      C.encrypt key (payloadNonce C key (uint32Bytes seq)) aad plaintext := by
    simp [payloadEnvelope, uint32Bytes]
  exact (aead.binds _ _ _ _ _ _ _ _ _ decrypted (Or.inl suffix)).2.2

end

/-! ### Joins -/

section
variable {C : Crypto} {key nonce channel plaintext : Bytes} {channelIdHex other : String}

/-- The bytes of a sealed join. -/
def joinEnvelope (C : Crypto) (key nonce channel plaintext : Bytes) : Bytes :=
  nonce ++ C.encrypt key nonce (joinAad channel) plaintext

/-- What a wallet offers in its first join. -/
def offerOf (capabilities : Json) (walletMeta : Option Json) : Json :=
  .obj [("capabilities", capabilities), ("meta", walletMeta.getD .null)]

theorem sealJoin_apply {capabilities : Json} {walletMeta : Option Json} {text : String}
    (read : channelBytes channelIdHex = .ok channel)
    (printed : C.canonicalize (offerOf capabilities walletMeta) = some text) :
    sealJoin C key channelIdHex capabilities walletMeta nonce =
      .ok (b64urlEncode (joinEnvelope C key nonce channel (utf8ToBytes text))) := by
  unfold offerOf at printed
  simp [sealJoin, canonicalJson, printed, orThrow, read, bind, Except.bind, pure, Except.pure, joinEnvelope, joinAad]

/-- Opening a join takes the nonce off the front. -/
theorem unsealJoin_apply {bytes : Bytes} (read : channelBytes channelIdHex = .ok channel) :
    unsealJoin C key channelIdHex (b64urlEncode bytes) =
      if bytes.length < 28 then .error "Invalid sealed_join envelope"
      else (do
        let plaintext ← orThrow "invalid tag" (C.decrypt key (bytes.take 12) (joinAad channel) (bytes.drop 12))
        orThrow "Decrypted sealed_join payload is not valid JSON" (Json.parse (textDecode plaintext))) := by
  unfold unsealJoin
  rw [b64urlDecode_encode, read]
  rfl

/-- A join that opens was decrypted. -/
theorem decrypt_of_unsealJoin {bytes : Bytes} {opened : Json} (read : channelBytes channelIdHex = .ok channel)
    (success : unsealJoin C key channelIdHex (b64urlEncode bytes) = .ok opened) :
    ∃ plain, C.decrypt key (bytes.take 12) (joinAad channel) (bytes.drop 12) = some plain := by
  rw [unsealJoin_apply read] at success
  split_ifs at success
  obtain ⟨plain, opens, -⟩ := ok_of_except_bind success
  exact ⟨plain, orThrow_ok opens⟩

theorem unsealJoin_sealed (aead : C.Aead) {value back : Json} {text : String} (random : nonce.length = 12)
    (prints : C.Prints value text back) (read : channelBytes channelIdHex = .ok channel) :
    unsealJoin C key channelIdHex (b64urlEncode (joinEnvelope C key nonce channel (utf8ToBytes text))) = .ok back := by
  have first : (joinEnvelope C key nonce channel (utf8ToBytes text)).take 12 = nonce := by
    rw [joinEnvelope, ← random, List.take_left]
  have rest : (joinEnvelope C key nonce channel (utf8ToBytes text)).drop 12 =
      C.encrypt key nonce (joinAad channel) (utf8ToBytes text) := by
    rw [joinEnvelope, ← random, List.drop_left]
  have long : ¬ (joinEnvelope C key nonce channel (utf8ToBytes text)).length < 28 := by
    have tagged := aead.tagged key nonce (joinAad channel) (utf8ToBytes text)
    rw [joinEnvelope, List.length_append]
    omega
  rw [unsealJoin_apply read, if_neg long, first, rest, aead.opens]
  simp [orThrow, prints.2.1, bind, Except.bind]

/-- A join opens on no other channel. -/
theorem unsealJoin_bound (aead : C.Aead) {channel' : Bytes} {opened : Json} (random : nonce.length = 12)
    (read : channelBytes other = .ok channel')
    (success : unsealJoin C key other (b64urlEncode (joinEnvelope C key nonce channel plaintext)) = .ok opened) :
    channel' = channel := by
  obtain ⟨plain, decrypted⟩ := decrypt_of_unsealJoin read success
  have rest : (joinEnvelope C key nonce channel plaintext).drop 12 = C.encrypt key nonce (joinAad channel) plaintext := by
    rw [joinEnvelope, ← random, List.drop_left]
  have suffix : (joinEnvelope C key nonce channel plaintext).drop 12 <:+
      C.encrypt key nonce (joinAad channel) plaintext := ⟨[], rest⟩
  have same := (aead.binds _ _ _ _ _ _ _ _ _ decrypted (Or.inl suffix)).2.2
  exact List.append_cancel_right same

end

/-! ### Payloads against joins -/

section
variable {C : Crypto} {key key' nonce channel aad plaintext : Bytes} {seq : Nat} {other : String}

/-- A sealed payload is no join. -/
theorem payload_not_join (aead : C.Aead) {channel' : Bytes} {opened : Json} (read : channelBytes other = .ok channel')
    (different : joinAad channel' ≠ aad) :
    unsealJoin C key' other (b64urlEncode (payloadEnvelope C key seq aad plaintext)) ≠ .ok opened := by
  intro success
  obtain ⟨plain, decrypted⟩ := decrypt_of_unsealJoin read success
  have suffix : (payloadEnvelope C key seq aad plaintext).drop 12 <:+
      C.encrypt key (payloadNonce C key (uint32Bytes seq)) aad plaintext := by
    have cut : (payloadEnvelope C key seq aad plaintext).drop 12 =
        (C.encrypt key (payloadNonce C key (uint32Bytes seq)) aad plaintext).drop 8 := by
      simp [payloadEnvelope, uint32Bytes]
    rw [cut]
    exact List.drop_suffix _ _
  exact different (aead.binds _ _ _ _ _ _ _ _ _ decrypted (Or.inl suffix)).2.2

/-- A sealed join is no payload. -/
theorem join_not_payload (aead : C.Aead) {header : AadHeader} {aad' : Bytes} {opened : Unsealed}
    (random : nonce.length = 12) (built : buildAad other header = .ok aad') (different : joinAad channel ≠ aad') :
    unsealPayload C key' other (b64urlEncode (joinEnvelope C key nonce channel plaintext)) header ≠ .ok opened := by
  intro success
  rw [unsealPayload_apply built] at success
  obtain ⟨plain, opens, -⟩ := ok_of_except_bind success
  have suffix : C.encrypt key nonce (joinAad channel) plaintext <:+
      (joinEnvelope C key nonce channel plaintext).drop 4 := by
    rw [joinEnvelope, List.drop_append_of_le_length (by omega)]
    exact List.suffix_append _ _
  exact different (aead.binds _ _ _ _ _ _ _ _ _ (orThrow_ok opens) (Or.inr suffix)).2.2.symm

end

/-! ### Envelopes and their contexts -/

/-- A sealed payload opens under exactly its channel and header, with its number, its value
and its canonical text; a sealed join on exactly its channel; and neither opens as the
other, whatever the keys. -/
theorem sealed_envelopes_bind (C : Crypto) (aead : C.Aead) :
    (∀ (key : Bytes) (channel channel' : String) (seq : Nat) (data back : Json) (text : String) (header header' : AadHeader),
      IsChannelId channel → IsChannelId channel' → seq < 2 ^ 32 → C.Prints data text back → header.Fits → header'.Fits →
      ∃ envelope, sealPayload C key channel seq data header = .ok (envelope, utf8ToBytes text) ∧
        ((∃ opened, unsealPayload C key channel' envelope header' = .ok opened) ↔ channel' = channel ∧ header' = header) ∧
        (∀ opened, unsealPayload C key channel' envelope header' = .ok opened →
          opened.seq = seq ∧ opened.data = back ∧ opened.data.normal = data.normal ∧
            opened.plaintext = utf8ToBytes text) ∧
        ∀ key' opened, unsealJoin C key' channel' envelope ≠ .ok opened) ∧
    (∀ (key nonce : Bytes) (channel channel' : String) (capabilities : Json) (walletMeta : Option Json) (back : Json)
      (text : String), IsChannelId channel → IsChannelId channel' → nonce.length = 12 →
      C.Prints (offerOf capabilities walletMeta) text back →
      ∃ envelope, sealJoin C key channel capabilities walletMeta nonce = .ok envelope ∧
        ((∃ opened, unsealJoin C key channel' envelope = .ok opened) ↔ channel' = channel) ∧
        (∀ opened, unsealJoin C key channel' envelope = .ok opened →
          opened = back ∧ opened.normal = (offerOf capabilities walletMeta).normal) ∧
        ∀ key' header opened, header.Fits → unsealPayload C key' channel' envelope header ≠ .ok opened) := by
  constructor
  · intro key channel channel' seq data back text header header' id id' small prints fits fits'
    obtain ⟨bytes, read, -, -⟩ := channelBytes_of_id id
    obtain ⟨bytes', read', -, -⟩ := channelBytes_of_id id'
    have built := buildAad_of_fits read fits
    have built' := buildAad_of_fits read' fits'
    have inRange : seq ≤ maxSeq := by
      unfold maxSeq
      omega
    have same {opened : Unsealed} (success : unsealPayload C key channel' (b64urlEncode (payloadEnvelope C key seq
        (bytes ++ header.type.byte :: (prefixed header.sender ++ prefixed header.id)) (utf8ToBytes text))) header' =
          .ok opened) : channel' = channel ∧ header' = header :=
      buildAad_binds id' id ((unsealPayload_bound aead built' success) ▸ built') built fits' fits
    have opens : unsealPayload C key channel _ header = _ := unsealPayload_sealed aead inRange prints built
    refine ⟨_, sealPayload_ok inRange prints.1 built, ⟨fun ⟨opened, success⟩ => same success, ?_⟩, ?_, ?_⟩
    · rintro ⟨rfl, rfl⟩
      exact ⟨_, opens⟩
    · intro opened success
      obtain ⟨rfl, rfl⟩ := same success
      rw [opens] at success
      cases success
      exact ⟨rfl, rfl, prints.2.2, rfl⟩
    · intro key' opened
      exact payload_not_join aead read' (joinAad_ne_buildAad id' id read' built fits)
  · intro key nonce channel channel' capabilities walletMeta back text id id' random prints
    obtain ⟨bytes, read, -, -⟩ := channelBytes_of_id id
    obtain ⟨bytes', read', -, -⟩ := channelBytes_of_id id'
    have opens : unsealJoin C key channel _ = _ := unsealJoin_sealed aead random prints read
    have same {opened : Json} (success : unsealJoin C key channel' (b64urlEncode (joinEnvelope C key nonce bytes
        (utf8ToBytes text))) = .ok opened) : channel' = channel :=
      channelBytes_injective id' id read' (unsealJoin_bound aead random read' success ▸ read)
    refine ⟨_, sealJoin_apply read prints.1, ⟨fun ⟨opened, success⟩ => same success, ?_⟩, ?_, ?_⟩
    · rintro rfl
      exact ⟨_, opens⟩
    · intro opened success
      obtain rfl := same success
      rw [opens] at success
      cases success
      exact ⟨rfl, prints.2.2⟩
    · intro key' header opened fits
      have built := buildAad_of_fits read' fits
      exact join_not_payload aead random built (joinAad_ne_buildAad id id' read built fits)

/-! ### A cipher that binds its context -/

/-- A byte string that can be read off the end of what precedes it. -/
def closed (bytes : Bytes) : Bytes := 0 :: bytes.flatMap fun b => [b, 1]

theorem closed_concat (bytes : Bytes) (b : UInt8) : closed (bytes ++ [b]) = closed bytes ++ [b, 1] := by
  simp [closed]

/-- What stands last tells an empty string from another one. -/
theorem closed_ends_apart {left right bytes : Bytes} {b : UInt8} : left ++ closed [] ≠ right ++ closed (bytes ++ [b]) := by
  intro same
  have whole : left ++ [0] = (right ++ closed bytes ++ [b]) ++ [1] := by
    simpa [closed, List.append_assoc] using same
  exact absurd (List.append_inj' whole rfl).2 (by decide)

theorem closed_cancel {left right xs ys : Bytes} (same : left ++ closed xs = right ++ closed ys) :
    left = right ∧ xs = ys := by
  induction xs using List.reverseRecOn generalizing ys with
  | nil =>
    induction ys using List.reverseRecOn with
    | nil => exact ⟨List.append_cancel_right same, rfl⟩
    | append_singleton ys c _ => exact absurd same closed_ends_apart
  | append_singleton xs b ih =>
    induction ys using List.reverseRecOn with
    | nil => exact absurd same.symm closed_ends_apart
    | append_singleton ys c _ =>
      rw [closed_concat, closed_concat, ← List.append_assoc, ← List.append_assoc] at same
      obtain ⟨front, back⟩ := List.append_inj' same rfl
      obtain ⟨fronts, rfl⟩ := ih front
      have bytes : b = c := (List.cons.inj back).1
      exact ⟨fronts, by rw [bytes]⟩

/-- A tag that writes the key, the nonce and the associated data out. -/
def fullTag (key nonce aad : Bytes) : Bytes := closed key ++ closed nonce ++ closed aad ++ List.replicate 16 0

theorem fullTag_cancel {left right key nonce aad key' nonce' aad' : Bytes}
    (same : left ++ fullTag key nonce aad = right ++ fullTag key' nonce' aad') :
    key = key' ∧ nonce = nonce' ∧ aad = aad' := by
  unfold fullTag at same
  have whole : (left ++ closed key ++ closed nonce ++ closed aad) ++ List.replicate 16 0 =
      (right ++ closed key' ++ closed nonce' ++ closed aad') ++ List.replicate 16 0 := by
    simpa only [List.append_assoc] using same
  have one := List.append_cancel_right whole
  obtain ⟨two, data⟩ := closed_cancel one
  obtain ⟨three, nonces⟩ := closed_cancel two
  exact ⟨(closed_cancel three).2, nonces, data⟩

/-- The transparent primitives with a cipher whose tag leaves nothing out. -/
def Crypto.ideal : Crypto :=
  { Crypto.transparent with
    encrypt := fun key nonce aad plaintext => plaintext ++ fullTag key nonce aad
    decrypt := fun key nonce aad ciphertext =>
      let size := ciphertext.length - (fullTag key nonce aad).length
      if ciphertext.drop size = fullTag key nonce aad then some (ciphertext.take size) else none }

theorem Crypto.ideal_aead : Crypto.ideal.Aead := by
  refine ⟨fun key nonce aad plaintext => ?_, ?_, fun key nonce aad plaintext => ?_⟩
  · simp [Crypto.ideal]
  · intro key nonce aad plaintext key' nonce' aad' ciphertext opened decrypted overlap
    have ends : ∃ front, ciphertext = front ++ fullTag key' nonce' aad' := by
      have checked : ciphertext.drop (ciphertext.length - (fullTag key' nonce' aad').length) =
          fullTag key' nonce' aad' := by
        by_contra different
        simp [Crypto.ideal, different] at decrypted
      exact ⟨_, by rw [← checked, List.take_append_drop]⟩
    obtain ⟨front, rfl⟩ := ends
    rcases overlap with ⟨more, same⟩ | ⟨more, same⟩
    · rw [← List.append_assoc] at same
      exact fullTag_cancel same
    · change more ++ (plaintext ++ fullTag key nonce aad) = front ++ fullTag key' nonce' aad' at same
      rw [← List.append_assoc] at same
      obtain ⟨keys, nonces, data⟩ := fullTag_cancel same
      exact ⟨keys.symm, nonces.symm, data.symm⟩
  · simp [Crypto.ideal, fullTag]
    omega

namespace Sample

/-- Some channel, some value and its canonical text. -/
def someChannel : String := String.ofList (List.replicate 64 'b')

def value : Json := .obj [("b", .num 15 1), ("a", .str "x")]

def valueText : String := "\x7b\"a\":\"x\",\"b\":1.5\x7d"

def offerText : String := "\x7b\"capabilities\":\x7b\"a\":\"x\",\"b\":1.5\x7d,\"meta\":null\x7d"

def valueBack : Json := .obj [("a", .str "x"), ("b", .num 15 1)]

def offerBack : Json := .obj [("capabilities", valueBack), ("meta", .null)]

theorem value_prints : Crypto.ideal.Prints value valueText valueBack := by
  refine ⟨by decide +kernel, ?_, ?_⟩
  · rfl
  · rfl

theorem offer_prints : Crypto.ideal.Prints (offerOf value none) offerText offerBack := by
  refine ⟨by decide +kernel, ?_, ?_⟩
  · rfl
  · rfl

end Sample

theorem sealed_envelopes_bind_sample :
    (∃ envelope, sealPayload .ideal [1] Sample.someChannel 7 Sample.value ⟨.req, "d", "req-1"⟩ =
        .ok (envelope, utf8ToBytes Sample.valueText) ∧
      ∃ opened, unsealPayload .ideal [1] Sample.someChannel envelope ⟨.req, "d", "req-1"⟩ = .ok opened) ∧
    (∃ envelope, sealJoin .ideal [1] Sample.someChannel Sample.value none (List.replicate 12 0) = .ok envelope ∧
      ∃ opened, unsealJoin .ideal [1] Sample.someChannel envelope = .ok opened) := by
  obtain ⟨payloads, joins⟩ := sealed_envelopes_bind .ideal Crypto.ideal_aead
  have channel : IsChannelId Sample.someChannel := by decide +kernel
  have fits : AadHeader.Fits ⟨.req, "d", "req-1"⟩ := by
    constructor <;> decide +kernel
  obtain ⟨payload, sealedPayload, opens, -⟩ := payloads [1] Sample.someChannel Sample.someChannel 7 Sample.value
    Sample.valueBack Sample.valueText ⟨.req, "d", "req-1"⟩ ⟨.req, "d", "req-1"⟩ channel channel (by decide)
    Sample.value_prints fits fits
  obtain ⟨join, sealedJoin, joinOpens, -⟩ := joins [1] (List.replicate 12 0) Sample.someChannel Sample.someChannel
    Sample.value none Sample.offerBack Sample.offerText channel channel rfl Sample.offer_prints
  exact ⟨⟨payload, sealedPayload, opens.mpr ⟨rfl, rfl⟩⟩, ⟨join, sealedJoin, joinOpens.mpr rfl⟩⟩

end WalletPair.Sdk
