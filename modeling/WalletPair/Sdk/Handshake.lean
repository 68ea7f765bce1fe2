import WalletPair.Sdk.DApp.Session

/-! The handshake as seen from both ends: the secret the two private keys share, and the
sealed join that one end writes and the other reads. -/

namespace WalletPair.Sdk
open WalletPair.Lib

/-- What the handshake needs of the imported primitives: X25519 is commutative on honest
keys, and the AEAD decrypts what it encrypted and appends a tag of 16 bytes. -/
structure Crypto.Handshake (C : Crypto) : Prop where
  publicKey : ∀ a : Bytes, a.length = 32 → (C.getPublicKey a).length = 32
  agree : ∀ a b : Bytes, a.length = 32 → b.length = 32 →
    C.getSharedSecret a (C.getPublicKey b) = C.getSharedSecret b (C.getPublicKey a)
  opens : ∀ key nonce aad plaintext,
    C.decrypt key nonce aad (C.encrypt key nonce aad plaintext) = some plaintext
  tagged : ∀ key nonce aad plaintext, (C.encrypt key nonce aad plaintext).length = plaintext.length + 16

theorem plainTag_length (key nonce aad : Bytes) : (plainTag key nonce aad).length = 16 := by
  simp only [plainTag, List.length_take, List.length_append, List.length_replicate]
  omega

theorem Crypto.transparent_handshake : Crypto.Handshake Crypto.transparent where
  publicKey _ length := length
  agree a b _ _ := by
    change some (List.zipWith _ (a.take 2) (b.take 2)) = some (List.zipWith _ (b.take 2) (a.take 2))
    rw [List.zipWith_comm]
    simp only [UInt8.add_comm]
  opens key nonce aad plaintext := by
    simp [Crypto.transparent, plainTag_length]
  tagged key nonce aad plaintext := by
    simp [Crypto.transparent, plainTag_length]

variable {C : Crypto}

/-- Both ends come to the same secret, or both are refused. -/
theorem computeSharedSecret_comm (handshake : C.Handshake) {a b : Bytes} (left : a.length = 32)
    (right : b.length = 32) : computeSharedSecret C a (C.getPublicKey b) = computeSharedSecret C b (C.getPublicKey a) := by
  unfold computeSharedSecret
  rw [handshake.publicKey a left, handshake.publicKey b right, handshake.agree a b left right]

/-- The object a join carries. -/
def offerJson (capabilities : Json) (walletMeta : Option Json) : Json :=
  .obj [("capabilities", capabilities), ("meta", walletMeta.getD .null)]

theorem sealJoin_ok {key nonce : Bytes} {channelId envelope : String} {capabilities : Json}
    {walletMeta : Option Json} (made : sealJoin C key channelId capabilities walletMeta nonce = .ok envelope) :
    ∃ text ch, C.canonicalize (offerJson capabilities walletMeta) = some text ∧ channelBytes channelId = .ok ch ∧
      envelope = b64urlEncode (nonce ++ C.encrypt key nonce (ch ++ [0x04]) (utf8ToBytes text)) := by
  change (do
    let plaintext := utf8ToBytes (← orThrow _ (C.canonicalize (offerJson capabilities walletMeta)))
    let aad := (← channelBytes channelId) ++ [0x04]
    return b64urlEncode (nonce ++ C.encrypt key nonce aad plaintext)) = _ at made
  cases printed : C.canonicalize (offerJson capabilities walletMeta) with
  | none => simp [printed, orThrow, bind, Except.bind] at made
  | some text =>
  cases channel : channelBytes channelId with
  | error e => simp [printed, channel, orThrow, bind, Except.bind] at made
  | ok ch =>
    simp only [printed, channel, orThrow, bind, Except.bind, pure, Except.pure, Except.ok.injEq] at made
    exact ⟨text, ch, rfl, rfl, made.symm⟩

/-- Reading back a sealed join gives what its canonical text parses to. -/
theorem unsealJoin_sealJoin (handshake : C.Handshake) {key nonce : Bytes} {channelId envelope : String}
    {capabilities : Json} {walletMeta : Option Json} (random : nonce.length = 12)
    (made : sealJoin C key channelId capabilities walletMeta nonce = .ok envelope) :
    ∃ text, C.canonicalize (offerJson capabilities walletMeta) = some text ∧ unsealJoin C key channelId envelope =
      orThrow "Decrypted sealed_join payload is not valid JSON" (Json.parse (textDecode (utf8ToBytes text))) := by
  obtain ⟨text, ch, printed, channel, rfl⟩ := sealJoin_ok made
  have bytes := handshake.tagged key nonce (ch ++ [0x04]) (utf8ToBytes text)
  have long : ¬ (nonce ++ C.encrypt key nonce (ch ++ [0x04]) (utf8ToBytes text)).length < 12 + 16 := by
    rw [List.length_append]
    omega
  have taken : (nonce ++ C.encrypt key nonce (ch ++ [0x04]) (utf8ToBytes text)).take 12 = nonce :=
    List.take_left' random
  have dropped : (nonce ++ C.encrypt key nonce (ch ++ [0x04]) (utf8ToBytes text)).drop 12 = _ :=
    List.drop_left' random
  refine ⟨text, printed, ?_⟩
  simp only [unsealJoin, b64urlDecode_encode, channel, orThrow, bind, Except.bind, long, ↓reduceIte, taken, dropped,
    handshake.opens]

/-- A sealed join is not the empty text. -/
theorem sealJoin_ne_empty {key nonce : Bytes} {channelId envelope : String} {capabilities : Json}
    {walletMeta : Option Json} (random : nonce.length = 12)
    (made : sealJoin C key channelId capabilities walletMeta nonce = .ok envelope) : envelope ≠ "" := by
  obtain ⟨text, ch, -, -, rfl⟩ := sealJoin_ok made
  intro empty
  have decoded := b64urlDecode_encode (nonce ++ C.encrypt key nonce (ch ++ [0x04]) (utf8ToBytes text))
  rw [empty, show b64urlDecode "" = some [] by decide] at decoded
  have length := congrArg List.length (Option.some.inj decoded)
  rw [List.length_append, random, List.length_nil] at length
  omega

namespace DApp

/-- A dApp on the same channel with the same root key reads the offer that was sealed. -/
theorem readJoin_sealed (handshake : C.Handshake) {d : Session} {rootKey joinKey nonce : Bytes} {envelope : String}
    {capabilities : Json} {walletMeta : Option Json} (random : nonce.length = 12)
    (derived : deriveJoinEncryptionKey C rootKey d.channelId = .ok joinKey)
    (made : sealJoin C joinKey d.channelId capabilities walletMeta nonce = .ok envelope) :
    ∃ text, C.canonicalize (offerJson capabilities walletMeta) = some text ∧
      ∀ back, Json.parse (textDecode (utf8ToBytes text)) = some (.obj back) →
        readJoin C d rootKey (.text envelope) =
          .offered ((Json.obj back).field "capabilities") ((Json.obj back).field "meta") := by
  obtain ⟨text, printed, opened⟩ := unsealJoin_sealJoin handshake random made
  refine ⟨text, printed, fun back parsed => ?_⟩
  rw [parsed] at opened
  simp [readJoin, sealJoin_ne_empty random made, derived, opened, orThrow, bind, Except.bind, pure, Except.pure,
    Json.member, Json.field]

end DApp

end WalletPair.Sdk
