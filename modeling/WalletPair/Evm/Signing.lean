import WalletPair.Evm.Provider
import WalletPair.Sdk.Crypto

/-! The message of `personal_sign`: bytes in hexadecimal that the provider turns into a
text. The wallet signs the bytes that were asked for when they are the encoding of a text
without a byte order mark. -/

namespace WalletPair.Evm
open WalletPair.Sdk

/-! ### What is asked for -/

/-- Pairs of hexadecimal digits. -/
def readHex : List Char → Option Bytes
  | [] => some []
  | [_] => none
  | a :: b :: rest => do
    let high ← Json.hexValue a
    let low ← Json.hexValue b
    let bytes ← readHex rest
    return UInt8.ofNat (high * 16 + low) :: bytes

/-- The bytes of a message that is `0x` and hexadecimal of even length. -/
def hexMessage (s : String) : Option Bytes :=
  match s.toList with
  | '0' :: 'x' :: digits => readHex digits
  | _ => none

/-- The relayed text is what the caller asked to have signed. -/
def SignsAsAsked : Value → Value → Prop
  | .str s, relayed =>
    match hexMessage s with
    | some bytes => ∃ t, relayed = .str t ∧ utf8ToBytes t = bytes
    | none => relayed = .str s
  | .undefined, _ => True
  | _, _ => False

/-- A request to sign is refused, or relayed as asked. -/
def SigningFidelity (p : Provider) (h : Heap) (args : RequestArgs) : Prop :=
  ∀ method params after, dispatch p h args = (.relayed method params, after) →
    SignsAsAsked (h.item args.params 0) (after.field params "message")

/-! ### Reading pairs -/

theorem hexBytes_readHex {digits : List Char} {bytes : Bytes} (read : readHex digits = some bytes) :
    hexBytes digits = bytes := by
  induction digits using readHex.induct generalizing bytes with
  | case1 =>
    cases read
    rfl
  | case2 => cases read
  | case3 a b rest ih =>
    rw [readHex] at read
    cases left : Json.hexValue a with
    | none => simp [left] at read
    | some high =>
      cases right : Json.hexValue b with
      | none => simp [left, right] at read
      | some low =>
        cases more : readHex rest with
        | none => simp [left, right, more] at read
        | some tail =>
          simp only [left, right, more, Option.bind_eq_bind, Option.bind_some, Option.pure_def, Option.some.injEq] at read
          have highSmall := (Json.hexValue_range left).2.2
          have lowSmall := (Json.hexValue_range right).2.2
          rw [hexBytes, Sdk.Num.parseInt_pair left right, Sdk.Num.toUint8_nat (by omega), ih more, read]

theorem length_hexBytes (units : List Char) : 2 * (hexBytes units).length ≤ units.length := by
  induction units using hexBytes.induct with
  | case1 a b rest ih =>
    simp only [hexBytes, List.length_cons]
    omega
  | case2 units other =>
    unfold hexBytes
    split
    · rename_i a b rest
      exact absurd rfl (other a b rest)
    · simp

theorem length_codeUnits (cs : List Char) :
    (cs.flatMap fun c => if c.toNat < 0x10000 then [c] else [replacement, replacement]).length ≤ 2 * cs.length := by
  induction cs with
  | nil => simp
  | cons c rest ih =>
    rw [List.flatMap_cons, List.length_append, List.length_cons]
    have one : (if c.toNat < 0x10000 then [c] else [replacement, replacement]).length ≤ 2 := by split <;> simp
    omega

/-- The text that a message in hexadecimal is decoded to. -/
def decodedText (s : String) : String := String.ofList (textDecode (hexBytes ((codeUnits s).drop 2)))

theorem codeUnits_hex {s : String} {rest : List Char} (spelled : s.toList = '0' :: 'x' :: rest) :
    (codeUnits s).drop 2 = rest.flatMap fun c => if c.toNat < 0x10000 then [c] else [replacement, replacement] := by
  rw [codeUnits, spelled]
  rfl

/-- Decoding makes every message shorter. -/
theorem decodedText_ne {s : String} {rest : List Char} (spelled : s.toList = '0' :: 'x' :: rest) : decodedText s ≠ s := by
  intro same
  have text : (decodedText s).toList.length = rest.length + 2 := by
    rw [same, spelled]
    rfl
  rw [decodedText, String.toList_ofList, codeUnits_hex spelled] at text
  have decoded := length_textDecode (hexBytes (rest.flatMap fun c =>
    if c.toNat < 0x10000 then [c] else [replacement, replacement]))
  have pairs := length_hexBytes (rest.flatMap fun c => if c.toNat < 0x10000 then [c] else [replacement, replacement])
  have units := length_codeUnits rest
  omega

theorem readHex_ascii {digits : List Char} {bytes : Bytes} (read : readHex digits = some bytes) :
    (digits.flatMap fun c => if c.toNat < 0x10000 then [c] else [replacement, replacement]) = digits := by
  induction digits using readHex.induct generalizing bytes with
  | case1 => rfl
  | case2 => cases read
  | case3 a b rest ih =>
    rw [readHex] at read
    obtain ⟨high, left, read⟩ := Option.bind_eq_some_iff.mp read
    obtain ⟨low, right, read⟩ := Option.bind_eq_some_iff.mp read
    obtain ⟨tail, more, -⟩ := Option.bind_eq_some_iff.mp read
    have first := (Json.hexValue_range left).2.1
    have second := (Json.hexValue_range right).2.1
    rw [List.flatMap_cons, List.flatMap_cons, ih more, if_pos (by omega), if_pos (by omega)]
    rfl

theorem decodedText_hex {s : String} {bytes : Bytes} (asked : hexMessage s = some bytes) :
    decodedText s = String.ofList (textDecode bytes) := by
  unfold hexMessage at asked
  split at asked
  · rename_i digits spelled
    rw [decodedText, codeUnits_hex spelled, readHex_ascii asked, hexBytes_readHex asked]
  · cases asked

/-- The bytes survive decoding when they encode a text without a byte order mark. -/
theorem textDecode_exact (bytes : Bytes) :
    utf8ToBytes (String.ofList (textDecode bytes)) = bytes ↔
      ∃ t : String, utf8ToBytes t = bytes ∧ ∀ rest, t.toList ≠ Char.ofNat 0xFEFF :: rest := by
  have decoded (t : String) : utf8Decode .start (utf8ToBytes t) = t.toList := by
    rw [← String.ofList_toList (s := t), utf8ToBytes_ofList, utf8Decode_encode, String.toList_ofList]
  constructor
  · intro exact_
    refine ⟨_, exact_, fun rest marked => ?_⟩
    have whole := decoded (String.ofList (textDecode bytes))
    rw [exact_, marked] at whole
    have dropped : textDecode bytes = rest := by
      rw [textDecode, whole]
      exact if_pos (by decide)
    have length := congrArg List.length marked
    rw [String.toList_ofList, dropped] at length
    simp at length
  · rintro ⟨t, rfl, unmarked⟩
    have same : textDecode (utf8ToBytes t) = t.toList := by
      rw [textDecode, decoded]
      cases spelled : t.toList with
      | nil => rfl
      | cons c rest =>
        refine if_neg fun mark => unmarked rest ?_
        rw [spelled, ← mark, Char.ofNat_toNat]
    rw [same, String.ofList_toList]

/-! ### The relayed text -/

section Request
variable {p : Provider} {h : Heap} {args : RequestArgs}

theorem dispatch_sign (signs : args.method = "personal_sign") (p : Provider) (h : Heap) :
    dispatch p h args = if p.disconnected then (.refused disconnectedError, h) else relay p h args := by
  obtain ⟨method, params⟩ := args
  obtain rfl : method = "personal_sign" := signs
  simp [dispatch, readOnlyMethods, walletMethods]

theorem mapRequest_sign (h : Heap) (params : Option Nat) : mapRequest h "personal_sign" params =
    messageText (h.item params 0) >>= fun text =>
      pure (some ⟨"wallet_signMessage", .ref h.length⟩, h ++ [⟨none, [("message", text), ("address", h.item params 1)]⟩]) := rfl

/-- A request to sign is refused with the message's error, or relayed with its text. -/
theorem relay_sign (signs : args.method = "personal_sign") :
    (∃ e, messageText (h.item args.params 0) = .error e ∧ relay p h args = (.refused e, h)) ∨
    ∃ text after, messageText (h.item args.params 0) = .ok text ∧
      relay p h args = (.relayed "wallet_signMessage" (.ref h.length), after) ∧
      after.field (.ref h.length) "message" = text := by
  obtain ⟨method, params⟩ := args
  obtain rfl : method = "personal_sign" := signs
  cases message : messageText (h.item params 0) with
  | error e =>
    left
    refine ⟨e, rfl, ?_⟩
    rw [relay, mapRequest_sign, message]
    rfl
  | ok text =>
    right
    let made : Obj := ⟨none, [("message", text), ("address", h.item params 1)]⟩
    have unnamed : Heap.field (h ++ [made]) (.ref h.length) "chain" = .undefined := Heap.field_new made
    have relayed : relay p h ⟨"personal_sign", params⟩ = (.relayed "wallet_signMessage" (.ref h.length),
        injectChain p ⟨"wallet_signMessage", .ref h.length⟩ (h ++ [made])) := by
      rw [relay, mapRequest_sign, message]
      rfl
    have injected : injectChain p ⟨"wallet_signMessage", .ref h.length⟩ (h ++ [made]) =
        Heap.write (h ++ [made]) h.length "chain" (.str ("eip155:" ++ p.chainId.text)) := by
      have required : chainRequiredMethods.contains "wallet_signMessage" = true := rfl
      have other : ¬ ("wallet_signMessage" = "wallet_sendTransaction" ∨ "wallet_signMessage" = "wallet_signTransaction") := by
        decide
      unfold injectChain
      dsimp only
      have unset : ¬ (Heap.field (h ++ [made]) (.ref h.length) "chain").truthy = true := by
        rw [unnamed]
        decide
      rw [if_pos required, if_neg other]
      exact if_neg unset
    refine ⟨text, _, rfl, relayed, ?_⟩
    rw [injected, Heap.field_write_self (by simp), if_neg (by decide), Heap.field_new]
    rfl

/-- What can be asked to be signed: a message that is not in hexadecimal, or the encoding
of a text without a byte order mark. -/
def Signable : Value → Prop
  | .str s => ¬ "0x".toList <+: s.toList ∨
      ∃ t : String, hexMessage s = some (utf8ToBytes t) ∧ ∀ rest, t.toList ≠ Char.ofNat 0xFEFF :: rest
  | .null => False
  | _ => True

/-- A message is refused or relayed as asked exactly when it is signable. -/
theorem messageText_asked (message : Value) :
    (∀ text, messageText message = .ok text → SignsAsAsked message text) ↔ Signable message := by
  cases message with
  | undefined => simp [SignsAsAsked, Signable]
  | null => simp [messageText, SignsAsAsked, Signable]
  | bool b => simp [messageText, Signable]
  | num n => simp [messageText, Signable]
  | ref a => simp [messageText, Signable]
  | str s =>
    by_cases hex : "0x".toList <+: s.toList
    · obtain ⟨rest, spelled⟩ := hex
      have spelled : s.toList = '0' :: 'x' :: rest := spelled.symm
      have text : messageText (.str s) = .ok (.str (decodedText s)) := by
        rw [messageText, if_pos (by rw [spelled]; rfl)]
        rfl
      have prefixed : "0x".toList <+: s.toList := ⟨rest, spelled.symm⟩
      rw [text]
      simp only [Except.ok.injEq, forall_eq', Signable, prefixed, not_true, false_or, SignsAsAsked]
      cases asked : hexMessage s with
      | none => simp [decodedText_ne spelled]
      | some bytes =>
        simp only [Value.str.injEq, exists_eq_left', decodedText_hex asked, textDecode_exact, Option.some.injEq]
        constructor
        · rintro ⟨t, same, unmarked⟩
          exact ⟨t, same.symm, unmarked⟩
        · rintro ⟨t, same, unmarked⟩
          exact ⟨t, same.symm, unmarked⟩
    · have none : hexMessage s = none := by
        unfold hexMessage
        split
        · rename_i digits spelled
          exact absurd ⟨digits, spelled.symm⟩ hex
        · rfl
      have text : messageText (.str s) = .ok (.str s) := by
        rw [messageText, if_neg fun found => hex (List.isPrefixOf_iff_prefix.mp found)]
      rw [text]
      refine ⟨fun _ => Or.inl hex, ?_⟩
      rintro _ _ ⟨⟩
      simp only [SignsAsAsked, none]

theorem hexMessage_bytesToHex (bytes : Bytes) : hexMessage ("0x" ++ bytesToHex bytes) = some bytes := by
  have digit : ∀ n < 16, Json.hexValue (hexChar n) = some n := by decide +kernel
  have pairs : readHex (bytes.flatMap fun b => [hexChar (b.toNat / 16), hexChar (b.toNat % 16)]) = some bytes := by
    induction bytes with
    | nil => rfl
    | cons b rest ih =>
      have small := b.toNat_lt
      have value : UInt8.ofNat (b.toNat / 16 * 16 + b.toNat % 16) = b := by
        rw [Nat.div_add_mod', UInt8.ofNat_toNat]
      rw [List.flatMap_cons, List.cons_append, List.cons_append, List.nil_append, readHex, digit _ (by omega),
        digit _ (by omega), ih]
      simp only [Option.bind_eq_bind, Option.bind_some, Option.pure_def, value]
  have spelled : ("0x" ++ bytesToHex bytes).toList =
      '0' :: 'x' :: bytes.flatMap fun b => [hexChar (b.toNat / 16), hexChar (b.toNat % 16)] := by
    have digits : (bytesToHex bytes).toList = bytes.flatMap fun b => [hexChar (b.toNat / 16), hexChar (b.toNat % 16)] :=
      String.toList_ofList
    rw [String.toList_append, digits]
    rfl
  rw [hexMessage, spelled]
  exact pairs

end Request

/-- `personal_sign` relays what it was asked to have signed, or refuses, exactly when the
message is signable; every byte string can be asked for in hexadecimal. -/
theorem personal_sign_fidelity (p : Provider) (h : Heap) (args : RequestArgs) (signs : args.method = "personal_sign") :
    (SigningFidelity p h args ↔ p.disconnected = true ∨ Signable (h.item args.params 0)) ∧
      ∀ bytes, hexMessage ("0x" ++ bytesToHex bytes) = some bytes := by
  refine ⟨?_, hexMessage_bytesToHex⟩
  have run := dispatch_sign signs p h
  cases connected : p.disconnected with
  | true =>
    rw [connected, if_pos rfl] at run
    refine ⟨fun _ => Or.inl rfl, fun _ method params after relayed => ?_⟩
    rw [run] at relayed
    cases relayed
  | false =>
    rw [connected, if_neg Bool.false_ne_true] at run
    rw [← messageText_asked]
    rcases relay_sign (p := p) (h := h) signs with ⟨e, message, ran⟩ | ⟨text, after, message, ran, read⟩
    · rw [message]
      refine ⟨fun _ => Or.inr nofun, fun _ method params after relayed => ?_⟩
      rw [run, ran] at relayed
      cases relayed
    · rw [message]
      constructor
      · intro faithful
        right
        rintro _ ⟨⟩
        exact read ▸ faithful _ _ _ (run.trans ran)
      · rintro (none | asked) method params after' relayed
        · cases none
        · rw [run, ran] at relayed
          cases relayed
          rw [read]
          exact asked text rfl

namespace Sample

/-- A connected provider, and one message to sign. -/
def signer : Provider := ⟨.finite 1, [], true, false, false⟩

def message (text : String) : Heap := [⟨some [.str text, .str "0xabc"], []⟩]

def signArgs : RequestArgs := ⟨"personal_sign", some 0⟩

end Sample

theorem personal_sign_fidelity_sample : SigningFidelity Sample.signer (Sample.message "0x4869") Sample.signArgs :=
  (personal_sign_fidelity Sample.signer (Sample.message "0x4869") Sample.signArgs rfl).1.mpr
    (Or.inr (Or.inr ⟨"Hi", by decide +kernel, by
      intro rest marked
      exact absurd (List.cons.inj marked).1 (by decide)⟩))

/-- Bytes that are no text are signed as the encoding of replacement characters. -/
theorem ill_formed_bytes_relayed : ¬ SigningFidelity Sample.signer (Sample.message "0xff") Sample.signArgs := by
  intro faithful
  have sent : (dispatch Sample.signer (Sample.message "0xff") Sample.signArgs).1 =
      .relayed "wallet_signMessage" (.ref 1) := rfl
  have text : (dispatch Sample.signer (Sample.message "0xff") Sample.signArgs).2.field (.ref 1) "message" =
      .str (String.ofList [replacement]) := by decide +kernel
  have asked := faithful _ _ (dispatch Sample.signer (Sample.message "0xff") Sample.signArgs).2 (Prod.ext sent rfl)
  rw [text] at asked
  obtain ⟨t, same, bytes⟩ : ∃ t, Value.str (String.ofList [replacement]) = .str t ∧ utf8ToBytes t = [255] := asked
  cases same
  exact absurd bytes (by decide +kernel)

end WalletPair.Evm
