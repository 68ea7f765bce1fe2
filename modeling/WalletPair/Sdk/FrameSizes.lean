import WalletPair.Sdk.Crypto
import WalletPair.Sdk.Protocol
import WalletPair.Sdk.RawText

/-! How long frames are. The text of a sealed value grows by a third in base64 and stands
whole in its frame, so a value of three quarters of the limit is already too large. -/

namespace WalletPair.Sdk
open WalletPair.Lib

/-- Size of a frame as the transport would get it. -/
def frameBytes (channelId : String) (ts : Nat) (sender : String) (body : Body) : Nat :=
  (ProtocolMessage.mk 1 channelId ts sender body).wireBytes

/-! ### Lengths of texts -/

theorem length_flatMap_le {α : Type} {f : α → Bytes} (some : ∀ a, f a ≠ []) (items : List α) :
    items.length ≤ (items.flatMap f).length := by
  induction items with
  | nil => exact Nat.zero_le _
  | cons a rest ih =>
    have one := List.length_pos_of_ne_nil (some a)
    simp only [List.length_cons, List.flatMap_cons, List.length_append]
    omega

theorem length_utf8ToBytes_ofList (text : List Char) : text.length ≤ (utf8ToBytes (String.ofList text)).length := by
  rw [utf8ToBytes_ofList]
  refine length_flatMap_le (fun c => ?_) text
  obtain ⟨b, rest, spelled, -⟩ := utf8EncodeChar_lead c
  rw [spelled]
  exact List.cons_ne_nil b rest

theorem length_quote (text : String) : (utf8ToBytes text).length + 2 ≤ (Json.quote text).length := by
  have escaped := length_flatMap_le (f := Json.escapeByte) (fun b => ?_) (utf8ToBytes text)
  · simp only [Json.quote, List.length_append, List.length_cons, List.length_nil]
    omega
  · unfold Json.escapeByte
    split_ifs <;> exact List.cons_ne_nil _ _

theorem length_sextets (bytes : Bytes) : 4 * bytes.length ≤ 3 * (sextets bytes).length := by
  fun_induction sextets bytes with
  | case1 => simp
  | case2 a => simp
  | case3 a b => simp
  | case4 a b c rest ih =>
    simp only [List.length_cons]
    omega

/-- Base64 makes a frame a third longer than what it seals. -/
theorem length_envelope (bytes : Bytes) : 4 * bytes.length ≤ 3 * (utf8ToBytes (b64urlEncode bytes)).length := by
  have spelled := length_utf8ToBytes_ofList ((sextets bytes).map sextetChar)
  rw [List.length_map] at spelled
  have grouped := length_sextets bytes
  unfold b64urlEncode
  omega

theorem stringify_obj (fields : List (String × Json)) :
    (Json.obj fields).stringify.length = (Json.stringifyFields fields).length + 2 := by
  simp [Json.stringify]

/-- A member's value is part of the text of its object. -/
theorem length_stringify_member {fields : List (String × Json)} {key : String} {value : Json} (member : (key, value) ∈ fields) :
    value.stringify.length ≤ (Json.stringifyFields fields).length := by
  induction fields with
  | nil => cases member
  | cons field rest ih =>
    obtain ⟨k, v⟩ := field
    cases rest with
    | nil =>
      obtain ⟨-, rfl⟩ : key = k ∧ value = v := by simpa using member
      simp only [Json.stringifyFields, List.length_append, List.length_cons]
      omega
    | cons next more =>
      simp only [Json.stringifyFields, List.length_append, List.length_cons]
      rcases List.mem_cons.mp member with here | later
      · obtain ⟨-, rfl⟩ : key = k ∧ value = v := by simpa using here
        omega
      · have inner := ih later
        omega

/-- A frame is at least as long as its sealed text. -/
theorem length_frame {body : Body} {envelope : String} {fields : List (String × Json)}
    (spelled : body.toJson.2 = .obj fields) (member : ("sealed", Json.str envelope) ∈ fields) (channelId : String) (ts : Nat)
    (sender : String) : (utf8ToBytes envelope).length < frameBytes channelId ts sender body := by
  have quoted := length_quote envelope
  have inner := length_stringify_member member
  have outer : body.toJson.2.stringify.length ≤ (Json.stringifyFields [("v", .num (1 : Nat) 0), ("t", .str body.toJson.1),
      ("ch", .str channelId), ("ts", .num ts 0), ("from", .str sender), ("body", body.toJson.2)]).length := by
    have last : ("body", body.toJson.2) ∈ [("v", Json.num (1 : Nat) 0), ("t", .str body.toJson.1), ("ch", .str channelId),
        ("ts", .num ts 0), ("from", .str sender), ("body", body.toJson.2)] := by simp
    exact length_stringify_member last
  unfold frameBytes ProtocolMessage.wireBytes
  rw [stringify_obj]
  rw [spelled, stringify_obj] at outer
  rw [spelled]
  simp only [Json.stringify] at inner
  dsimp only at outer ⊢
  omega

/-! ### Lengths of envelopes -/

/-- The transparent primitives with a printer for every value. -/
def Crypto.printing : Crypto := { Crypto.transparent with canonicalize := fun value => some (sortedText value) }

theorem length_sortedText (value : Json) : value.sortKeys.stringify.length ≤ (utf8ToBytes (sortedText value)).length := by
  have spelled := length_utf8ToBytes_ofList (value.sortKeys.stringify.map fun b => Char.ofNat b.toNat)
  rwa [List.length_map] at spelled

/-- Sealing with these primitives, and how long the envelope is. -/
theorem sealPayload_printing {channelId : String} {header : AadHeader} {aad : Bytes} (bound : buildAad channelId header = .ok aad)
    (key : Bytes) {seq : Nat} (small : seq ≤ maxSeq) (value : Json) :
    ∃ envelope plaintext, sealPayload .printing key channelId seq value header = .ok (envelope, plaintext) ∧
      4 * value.sortKeys.stringify.length ≤ 3 * (utf8ToBytes envelope).length := by
  let nonce := payloadNonce .printing key (uint32Bytes seq)
  let plaintext := utf8ToBytes (sortedText value)
  let sealed := uint32Bytes seq ++ (plaintext ++ plainTag key nonce aad)
  have made : sealPayload .printing key channelId seq value header = .ok (b64urlEncode sealed, plaintext) := by
    unfold sealPayload
    rw [if_neg (Nat.not_lt_of_le small), bound]
    rfl
  refine ⟨_, _, made, Nat.le_trans (Nat.mul_le_mul_left 4 ?_) (length_envelope sealed)⟩
  have long := length_sortedText value
  simp only [sealed, plaintext, List.length_append]
  omega

end WalletPair.Sdk
