import WalletPair.Sdk.Codec
import Mathlib.Data.LawfulXor.Basic

/-! The protocol's cryptographic helpers. The primitives (X25519, HKDF, HMAC, SHA-256,
ChaCha20-Poly1305) and the canonical JSON printer come from packages outside the
repository and are the parameter `Crypto`; everything built from them is here. -/

namespace WalletPair.Sdk

/-- The imported primitives. `none` stands for a thrown exception. -/
structure Crypto where
  getPublicKey : Bytes → Bytes
  getSharedSecret : Bytes → Bytes → Option Bytes
  sha256 : Bytes → Bytes
  hmac : Bytes → Bytes → Bytes
  hkdf : Bytes → Bytes → String → Bytes
  encrypt : Bytes → Bytes → Bytes → Bytes → Bytes
  decrypt : Bytes → Bytes → Bytes → Bytes → Option Bytes
  canonicalize : Json → Option String

variable (C : Crypto)

def orThrow {α : Type} (message : String) : Option α → Except String α
  | some a => .ok a
  | none => .error message

theorem orThrow_ok {α : Type} {message : String} {value : Option α} {a : α} (h : orThrow message value = .ok a) :
    value = some a := by
  cases value with
  | none => cases h
  | some b =>
    cases h
    rfl

theorem ok_of_except_bind {ε α β : Type} {x : Except ε α} {f : α → Except ε β} {b : β}
    (h : (x >>= f) = .ok b) : ∃ a, x = .ok a ∧ f a = .ok b := by
  cases x with
  | error e => cases h
  | ok a => exact ⟨a, rfl, h⟩

/-! ### Keys -/

structure X25519KeyPair where
  privateKey : Bytes
  publicKey : Bytes
  publicKeyB64 : String
  deriving DecidableEq

/-- The random private key is an input of the model. -/
def generateX25519KeyPair (privateKey : Bytes) : X25519KeyPair :=
  ⟨privateKey, C.getPublicKey privateKey, b64urlEncode (C.getPublicKey privateKey)⟩

def computeSharedSecret (myPrivateKey remotePubKey : Bytes) : Except String Bytes := do
  if remotePubKey.length ≠ 32 then throw "Remote public key must be exactly 32 bytes"
  let shared ← orThrow "invalid private or public key received" (C.getSharedSecret myPrivateKey remotePubKey)
  if shared.all (· = 0) then throw "X25519 produced all-zero shared secret (low-order public key)"
  return shared

def channelBytes (channelIdHex : String) : Except String Bytes :=
  orThrow "hex string expected" (hexToBytes channelIdHex)

def deriveSessionKey (sharedSecret : Bytes) (channelIdHex : String) : Except String Bytes := do
  return C.hkdf sharedSecret (← channelBytes channelIdHex) "walletpair-v1 root"

structure SessionCryptoContext where
  dappPubKeyB64 : String
  walletPubKeyB64 : String
  capabilities : Option Json
  walletMeta : Option Json
  dappName : Option String

structure DirectionalSessionKeys where
  dappToWalletKey : Bytes
  walletToDappKey : Bytes
  transcriptHash : Bytes
  deriving DecidableEq

/-- `canonicalize(value) ?? 'null'`. -/
def canonicalJson : Option Json → Except String String
  | none => .ok "null"
  | some value => orThrow "value is not canonicalizable" (C.canonicalize value)

def transcriptInput (channelIdHex : String) (context : SessionCryptoContext) : Except String Bytes := do
  return utf8ToBytes "walletpair-v1-transcript" ++ (← channelBytes channelIdHex) ++
    (← lp context.dappPubKeyB64) ++ (← lp context.walletPubKeyB64) ++
    (← lp (← canonicalJson C context.capabilities)) ++ (← lp (← canonicalJson C context.walletMeta)) ++
    (← lp (context.dappName.getD ""))

def computeHandshakeTranscriptHash (channelIdHex : String) (context : SessionCryptoContext) :
    Except String Bytes := do
  return C.sha256 (← transcriptInput C channelIdHex context)

def deriveDirectionalSessionKeys (rootKey : Bytes) (channelIdHex : String)
    (context : SessionCryptoContext) : Except String DirectionalSessionKeys := do
  let transcriptHash ← computeHandshakeTranscriptHash C channelIdHex context
  return {
    dappToWalletKey := C.hkdf rootKey transcriptHash "walletpair-v1 dapp-to-wallet"
    walletToDappKey := C.hkdf rootKey transcriptHash "walletpair-v1 wallet-to-dapp"
    transcriptHash }

def padStart4 (s : String) : String := String.ofList (List.replicate (4 - s.length) '0') ++ s

def computeSessionFingerprint (channelIdHex dappPubKeyB64 : String) : Except String String := do
  let ch ← channelBytes channelIdHex
  let key ← orThrow "invalid base64" (b64urlDecode dappPubKeyB64)
  let hash := C.sha256 (utf8ToBytes "walletpair-v1-session-fingerprint" ++ ch ++ key)
  let word ← orThrow "out of bounds" (readUint32 hash)
  return padStart4 (toString (word % 10000))

def deriveJoinEncryptionKey (rootKey : Bytes) (channelIdHex : String) : Except String Bytes := do
  return C.hkdf rootKey (← channelBytes channelIdHex) "walletpair-v1 join-encryption"

/-! ### Private handshake -/

/-- Encrypt capabilities and meta for the join message; the nonce is random. -/
def sealJoin (joinEncryptionKey : Bytes) (channelIdHex : String) (capabilities : Json)
    (walletMeta : Option Json) (nonce : Bytes) : Except String String := do
  let plaintext := utf8ToBytes (← canonicalJson C
    (some (.obj [("capabilities", capabilities), ("meta", walletMeta.getD .null)])))
  let aad := (← channelBytes channelIdHex) ++ [0x04]
  return b64urlEncode (nonce ++ C.encrypt joinEncryptionKey nonce aad plaintext)

/-- The decrypted capabilities and meta of a join message. -/
def unsealJoin (joinEncryptionKey : Bytes) (channelIdHex sealedJoin : String) : Except String Json := do
  let envelope ← orThrow "invalid base64" (b64urlDecode sealedJoin)
  if envelope.length < 12 + 16 then throw "Invalid sealed_join envelope"
  let aad := (← channelBytes channelIdHex) ++ [0x04]
  let plaintext ← orThrow "invalid tag"
    (C.decrypt joinEncryptionKey (envelope.take 12) aad (envelope.drop 12))
  orThrow "Decrypted sealed_join payload is not valid JSON" (Json.parse (textDecode plaintext))

/-! ### Sealed payloads -/

inductive AadType where
  | req
  | res
  | evt
  deriving DecidableEq

def AadType.byte : AadType → UInt8
  | .req => 0x01
  | .res => 0x02
  | .evt => 0x03

structure AadHeader where
  type : AadType
  sender : String
  id : String
  deriving DecidableEq

/-- AAD = channel_id_bytes || type_byte || lp(from) || lp(id). -/
def buildAad (channelIdHex : String) (header : AadHeader) : Except String Bytes := do
  let chBytes ← channelBytes channelIdHex
  return chBytes ++ [header.type.byte] ++ (← lp header.sender) ++ (← lp header.id)

def maxSeq : Nat := 0xffffffff

def payloadNonce (key seqBytes : Bytes) : Bytes := (C.hmac key seqBytes).take 12

def sealPayload (encryptionKey : Bytes) (channelIdHex : String) (seq : Nat) (data : Json)
    (header : AadHeader) : Except String (String × Bytes) := do
  if seq > maxSeq then throw ("Sequence number out of range: " ++ toString seq ++ " (must be 0..4294967295)")
  let seqBytes := uint32Bytes seq
  let nonce := payloadNonce C encryptionKey seqBytes
  let plaintext := utf8ToBytes (← canonicalJson C (some data))
  let aad ← buildAad channelIdHex header
  return (b64urlEncode (seqBytes ++ C.encrypt encryptionKey nonce aad plaintext), plaintext)

structure Unsealed where
  seq : Nat
  data : Json
  plaintext : Bytes

def unsealPayload (encryptionKey : Bytes) (channelIdHex envelope : String) (header : AadHeader) :
    Except String Unsealed := do
  let bytes ← orThrow "invalid base64" (b64urlDecode envelope)
  let seqBytes := bytes.take 4
  let ciphertext := bytes.drop 4
  let nonce := payloadNonce C encryptionKey seqBytes
  let aad ← buildAad channelIdHex header
  let plaintext ← orThrow "invalid tag" (C.decrypt encryptionKey nonce aad ciphertext)
  let seq ← orThrow "out of bounds" (readUint32 seqBytes)
  let data ← orThrow "Decrypted payload is not valid JSON" (Json.parse (textDecode plaintext))
  return ⟨seq, data, plaintext⟩

/-- Equal associated data on one channel bind the same type, sender and id. -/
theorem buildAad_injective {channelIdHex : String} {h k : AadHeader} {a : Bytes}
    (left : buildAad channelIdHex h = .ok a) (right : buildAad channelIdHex k = .ok a) : h = k := by
  obtain ⟨ht, hs, hi⟩ := h
  obtain ⟨kt, ks, ki⟩ := k
  simp only [buildAad] at left right
  cases channel : channelBytes channelIdHex with
  | error e => simp [channel, bind, Except.bind] at left
  | ok ch =>
    cases sender : lp hs with
    | error e => simp [channel, sender, bind, Except.bind] at left
    | ok ls =>
    cases sender' : lp ks with
    | error e => simp [channel, sender', bind, Except.bind] at right
    | ok ls' =>
    cases named : lp hi with
    | error e => simp [channel, sender, named, bind, Except.bind] at left
    | ok li =>
    cases named' : lp ki with
    | error e => simp [channel, sender', named', bind, Except.bind] at right
    | ok li' =>
      simp only [channel, sender, named, bind, Except.bind, pure, Except.pure, Except.ok.injEq] at left
      simp only [channel, sender', named', bind, Except.bind, pure, Except.pure, Except.ok.injEq] at right
      have same := left.trans right.symm
      simp only [List.append_assoc, List.append_cancel_left_eq] at same
      obtain ⟨byte, fields⟩ := List.cons.inj same
      obtain ⟨rfl, rest⟩ := lp_append_injective sender sender' fields
      obtain ⟨rfl, -⟩ := lp_append_injective named named' (x := []) (y := []) (by simpa using rest)
      have type : ht = kt := by cases ht <;> cases kt <;> simp_all [AadType.byte]
      rw [type]

/-- What an opened payload says of itself. -/
theorem unsealPayload_ok {key : Bytes} {channelIdHex envelope : String} {header : AadHeader} {opened : Unsealed}
    (h : unsealPayload C key channelIdHex envelope header = .ok opened) :
    opened.seq ≤ maxSeq ∧ Json.parse (textDecode opened.plaintext) = some opened.data ∧
      ∃ aad, buildAad channelIdHex header = .ok aad := by
  unfold unsealPayload at h
  cases bytes : b64urlDecode envelope with
  | none => simp [bytes, orThrow, bind, Except.bind] at h
  | some bytes' =>
  cases aad : buildAad channelIdHex header with
  | error e => simp [bytes, aad, orThrow, bind, Except.bind] at h
  | ok aad' =>
  cases plain : C.decrypt key (payloadNonce C key (bytes'.take 4)) aad' (bytes'.drop 4) with
  | none => simp [bytes, aad, plain, orThrow, bind, Except.bind] at h
  | some plaintext =>
  cases number : readUint32 (bytes'.take 4) with
  | none => simp [bytes, aad, plain, number, orThrow, bind, Except.bind] at h
  | some seq =>
  cases parsed : Json.parse (textDecode plaintext) with
  | none => simp [bytes, aad, plain, number, parsed, orThrow, bind, Except.bind] at h
  | some data =>
    simp only [bytes, aad, plain, number, parsed, orThrow, bind, Except.bind, pure, Except.pure,
      Except.ok.injEq] at h
    subst h
    exact ⟨readUint32_le number, parsed, aad', rfl⟩

def sha256Hex (bytes : Bytes) : String := bytesToHex (C.sha256 bytes)

/-- Constant-time string comparison: every position is visited. -/
def constantTimeEqual (a b : String) : Bool :=
  let xs := a.toList.map Char.toNat
  let ys := b.toList.map Char.toNat
  xs.length = ys.length && (xs.zip ys).foldl (fun result p => result ||| (p.1 ^^^ p.2)) 0 = 0

private theorem fold_or_eq_zero (pairs : List (Nat × Nat)) (start : Nat) :
    pairs.foldl (fun result p => result ||| (p.1 ^^^ p.2)) start = 0 ↔
      start = 0 ∧ ∀ p ∈ pairs, p.1 = p.2 := by
  induction pairs generalizing start with
  | nil => simp
  | cons p rest ih =>
    rw [List.foldl_cons, ih]
    simp [Nat.or_eq_zero_iff, xor_eq_zero_iff, and_assoc]

private theorem eq_of_zip {xs ys : List Nat} (lengths : xs.length = ys.length)
    (same : ∀ p ∈ xs.zip ys, p.1 = p.2) : xs = ys := by
  induction xs generalizing ys with
  | nil =>
    cases ys with
    | nil => rfl
    | cons y rest => simp at lengths
  | cons x xs ih =>
    cases ys with
    | nil => simp at lengths
    | cons y rest =>
      have head : x = y := same (x, y) (by simp)
      have tail := ih (by simpa using lengths) (fun p mem => same p (by simp [mem]))
      rw [head, tail]

private theorem zip_self (xs : List Nat) : ∀ p ∈ xs.zip xs, p.1 = p.2 := by
  induction xs with
  | nil => simp
  | cons x xs ih => simpa using ih

@[simp] theorem constantTimeEqual_iff (a b : String) : constantTimeEqual a b = true ↔ a = b := by
  simp only [constantTimeEqual, Bool.and_eq_true, decide_eq_true_eq, fold_or_eq_zero, true_and]
  constructor
  · rintro ⟨lengths, same⟩
    have codes := eq_of_zip lengths same
    have injective : Function.Injective Char.toNat := fun c d h => Char.toNat_inj.mp h
    exact String.toList_inj.mp (List.map_injective_iff.mpr injective codes)
  · rintro rfl
    exact ⟨rfl, zip_self _⟩

/-! ### Pairing URI -/

/-- The characters `encodeURIComponent` leaves alone. -/
def isUnreserved (c : Char) : Bool := c.isAlphanum || "-_.!~*'()".toList.contains c

def upperHex (n : Nat) : Char := "0123456789ABCDEF".toList.getD n '0'

def percentByte (b : UInt8) : List Char := ['%', upperHex (b.toNat / 16), upperHex (b.toNat % 16)]

def encodeURIComponent (s : String) : String :=
  String.ofList (s.toList.flatMap (fun c =>
    if isUnreserved c then [c] else (String.utf8EncodeChar c).flatMap percentByte))

structure PairingParams where
  ch : String
  pubkey : String
  relay : String
  name : String
  url : String
  icon : String
  methods : Option (List String)
  chains : Option (List String)
  deriving DecidableEq

/-- A comma list, left out when absent or empty. -/
def listParam (label : String) : Option (List String) → String
  | some (first :: rest) => label ++ String.intercalate "," (first :: rest)
  | _ => ""

def buildPairingUri (params : PairingParams) : String :=
  "walletpair:?ch=" ++ params.ch ++ "&pubkey=" ++ params.pubkey ++
    "&relay=" ++ encodeURIComponent params.relay ++ "&name=" ++ encodeURIComponent params.name ++
    "&url=" ++ encodeURIComponent params.url ++ "&icon=" ++ encodeURIComponent params.icon ++
    listParam "&methods=" params.methods ++ listParam "&chains=" params.chains

/-! ### Transparent primitives -/

/-- Printing an object in canonical form loses neither that it is an object nor its flags. -/
structure Crypto.Canonical (C : Crypto) : Prop where
  object : ∀ fields text, C.canonicalize (.obj fields) = some text →
    ∃ back, Json.parse (textDecode (utf8ToBytes text)) = some (.obj back) ∧
      ∀ key, (Json.obj back).flag key = (Json.obj fields).flag key

/-- Sixteen bytes that depend on the key, the nonce and the associated data. -/
def plainTag (key nonce aad : Bytes) : Bytes :=
  (key.take 6 ++ nonce.take 4 ++ aad.reverse.take 6 ++ List.replicate 16 0).take 16

/-- The text of a value whose keys are sorted. -/
def sortedText (value : Json) : String :=
  String.ofList (value.sortKeys.stringify.map (fun b => Char.ofNat b.toNat))

/-- Whether the text reads back as an object with the flags of `fields`. -/
def readsBack (fields : List (String × Json)) (text : String) : Bool :=
  match Json.parse (textDecode (utf8ToBytes text)) with
  | some (.obj back) => (back ++ fields).all (fun f => (Json.obj back).flag f.1 = (Json.obj fields).flag f.1)
  | _ => false

/-- Stand-ins for the imported primitives that compute, to run the model on concrete
inputs: both sides agree on a secret, and decryption checks the tag encryption appends. -/
def Crypto.transparent : Crypto where
  getPublicKey privateKey := privateKey
  getSharedSecret a b := some (List.zipWith (fun x y => x + y) (a.take 2) (b.take 2))
  sha256 bytes := (bytes.reverse.take 8).reverse
  hmac key bytes := (bytes ++ key ++ List.replicate 12 0).take 32
  hkdf secret _ info := (utf8ToBytes info).getD 14 0 :: secret
  encrypt key nonce aad plaintext := plaintext ++ plainTag key nonce aad
  decrypt key nonce aad ciphertext :=
    let plaintext := ciphertext.take (ciphertext.length - 16)
    if ciphertext.drop (ciphertext.length - 16) = plainTag key nonce aad then some plaintext else none
  canonicalize
    | .obj fields =>
      let text := sortedText (.obj fields)
      if readsBack fields text then some text else none
    | value => some (sortedText value)

theorem flag_of_not_mem {fields : List (String × Json)} {key : String} (missing : ∀ f ∈ fields, f.1 ≠ key) :
    (Json.obj fields).flag key = none := by
  have absent : fields.find? (fun f => f.1 == key) = none := by
    rw [List.find?_eq_none]
    intro f mem
    simpa using missing f mem
  simp [Json.flag, Json.field, absent]

theorem readsBack_iff {fields : List (String × Json)} {text : String} (checked : readsBack fields text = true) :
    ∃ back, Json.parse (textDecode (utf8ToBytes text)) = some (.obj back) ∧
      ∀ key, (Json.obj back).flag key = (Json.obj fields).flag key := by
  unfold readsBack at checked
  split at checked
  · rename_i back parsed
    refine ⟨back, parsed, fun key => ?_⟩
    by_cases known : ∃ f ∈ back ++ fields, f.1 = key
    · obtain ⟨f, mem, rfl⟩ := known
      simpa using List.all_eq_true.mp checked f mem
    · push Not at known
      rw [flag_of_not_mem (fun f mem => known f (List.mem_append_left _ mem)),
        flag_of_not_mem (fun f mem => known f (List.mem_append_right _ mem))]
  · cases checked

theorem Crypto.transparent_canonical : Crypto.Canonical Crypto.transparent := by
  refine ⟨fun fields text printed => ?_⟩
  have checked : readsBack fields (sortedText (.obj fields)) = true ∧ sortedText (.obj fields) = text := by
    simpa [Crypto.transparent] using printed
  rw [← checked.2]
  exact readsBack_iff checked.1

end WalletPair.Sdk
