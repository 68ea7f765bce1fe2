import WalletPair.Relay.Worker.State
import WalletPair.Sdk.Base64

/-! The base64url codec of the sessions, and the check of peer ids that the worker makes with
a padding loop of its own. -/

namespace WalletPair.Relay.Worker.PeerKeys
open WalletPair.Sdk (Bytes)
open WalletPair.Sdk.Base64

/-- `while (b64.length % 4 !== 0) b64 += "="`; three turns are enough. -/
def padTo4 : Nat → List Char → List Char
  | 0, b64 => b64
  | fuel + 1, b64 => if b64.length % 4 ≠ 0 then padTo4 fuel (b64 ++ ['=']) else b64

/-- `validatePeerId`, with its own substitution and padding. -/
def validatePeerId (peerId : List Char) : Bool :=
  peerId ≠ [] && peerId.all isUrlChar &&
    match atob (padTo4 3 (toStandard peerId)) with
    | some binary => binary.length = 32
    | none => false

/-- The loop adds what the sessions add in one go. -/
theorem padTo4_eq (b64 : List Char) : padTo4 3 b64 = b64 ++ List.replicate ((4 - b64.length % 4) % 4) '=' := by
  have cases : b64.length % 4 = 0 ∨ b64.length % 4 = 1 ∨ b64.length % 4 = 2 ∨ b64.length % 4 = 3 := by omega
  rcases cases with none | three | two | one
  · simp [padTo4, none]
  · have second : (b64.length + 1) % 4 = 2 := by omega
    have third : (b64.length + 2) % 4 = 3 := by omega
    simp [padTo4, three, second, third, List.replicate]
  · have second : (b64.length + 1) % 4 = 3 := by omega
    have last : (b64.length + 2) % 4 = 0 := by omega
    simp [padTo4, two, second, last, List.replicate]
  · have last : (b64.length + 1) % 4 = 0 := by omega
    simp [padTo4, one, last]

/-- A text over the alphabet is a peer id when it decodes to a key. -/
theorem validatePeerId_iff {text : List Char} (url : ∀ c ∈ text, isUrlChar c = true) :
    validatePeerId text = true ↔ ∃ key, b64urlDecode text = some key ∧ key.length = 32 := by
  unfold validatePeerId
  rw [padTo4_eq, List.all_eq_true.mpr url, Bool.and_true]
  change (decide (text ≠ []) && match b64urlDecode text with
    | some binary => decide (binary.length = 32)
    | none => false) = true ↔ _
  cases decoded : b64urlDecode text with
  | none => simp
  | some key =>
    by_cases blank : text = []
    · subst blank
      cases decoded
      simp
    · simp [blank]

/-- The check of the worker's model is the same. -/
theorem validatePeerId_worker {text : List Char} (url : ∀ c ∈ text, isUrlChar c = true) :
    Worker.validatePeerId (String.ofList text) = validatePeerId text := by
  unfold Worker.validatePeerId validatePeerId
  rw [padTo4_eq, decode_codec url]
  have same : (String.ofList text).toList.all isPeerIdChar = text.all isUrlChar := by
    rw [String.toList_ofList]
    rfl
  have blank : decide (String.ofList text ≠ "") = decide (text ≠ []) := by
    have empty : String.ofList text = "" ↔ text = [] :=
      ⟨fun same => by simpa using congrArg String.toList same, fun same => by rw [same]⟩
    exact decide_eq_decide.mpr (not_congr empty)
  rw [same, blank]
  rfl

theorem isUrlChar_encode (bytes : Bytes) : ∀ c ∈ b64urlEncode bytes, isUrlChar c = true := by
  intro c member
  rw [b64urlEncode_eq] at member
  obtain ⟨n, inside, rfl⟩ := List.mem_map.mp member
  exact (url_char n (Sdk.sextets_lt bytes n inside)).1

/-- The worker takes the peer id of every session, which is its public key in the sessions' own
spelling. -/
theorem validatePeerId_key {key : Bytes} (length : key.length = 32) :
    Worker.validatePeerId (Sdk.b64urlEncode key) = true := by
  have url := isUrlChar_encode key
  rw [encode_codec, validatePeerId_worker url]
  exact (validatePeerId_iff url).mpr ⟨key, b64urlDecode_encode key, length⟩

/-- The codec of the sessions: encoding is over the alphabet and is undone by decoding, a
decoded text is encoded again up to its unused bits, and a text over the alphabet decodes
to a key exactly when the worker takes it for a peer id. -/
theorem base64url_codec :
    (∀ bytes : Bytes, (∀ c ∈ b64urlEncode bytes, isUrlChar c = true) ∧ b64urlDecode (b64urlEncode bytes) = some bytes) ∧
    (∀ (text : List Char) (bytes : Bytes), (∀ c ∈ text, isUrlChar c = true) → b64urlDecode text = some bytes →
      SameBits text (b64urlEncode bytes)) ∧
    (∀ text : List Char, (∀ c ∈ text, isUrlChar c = true) →
      ((∃ key, b64urlDecode text = some key ∧ key.length = 32) ↔ validatePeerId text = true)) := by
  exact ⟨fun bytes => ⟨isUrlChar_encode bytes, b64urlDecode_encode bytes⟩, fun text bytes url decoded =>
    sameBits_reencoded url decoded, fun text url => (validatePeerId_iff url).symm⟩

/-- `AB` decodes, and is encoded again without the bits that are not used. -/
theorem base64url_codec_sample : SameBits ['A', 'B'] ['A', 'A'] ∧ b64urlDecode ['A', 'B'] = some [0] := by
  have decoded : b64urlDecode ['A', 'B'] = some [0] := by decide +kernel
  have again : b64urlEncode [0] = ['A', 'A'] := by decide +kernel
  have url : (['A', 'B'].all isUrlChar) = true := by decide +kernel
  refine ⟨?_, decoded⟩
  rw [← again]
  exact base64url_codec.2.1 ['A', 'B'] [0] (List.all_eq_true.mp url) decoded

end WalletPair.Relay.Worker.PeerKeys
