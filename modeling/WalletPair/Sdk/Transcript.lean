import WalletPair.Sdk.Sealing

/-! What is hashed in a handshake: one fixed-width and five length-prefixed fields behind a
label. The fields can be read back off the bytes, and no other hash input looks the same. -/

namespace WalletPair.Sdk
variable {C : Crypto}

/-! ### Hash inputs -/

def transcriptLabel : Bytes := utf8ToBytes "walletpair-v1-transcript"

/-- The parts of a transcript that is hashed. -/
theorem transcriptInput_parts {channelIdHex : String} {context : SessionCryptoContext} {input : Bytes}
    (hashed : transcriptInput C channelIdHex context = .ok input) :
    ∃ channel dapp wallet capabilities walletMeta name capabilitiesText metaText,
      channelBytes channelIdHex = .ok channel ∧ lp context.dappPubKeyB64 = .ok dapp ∧
      lp context.walletPubKeyB64 = .ok wallet ∧ canonicalJson C context.capabilities = .ok capabilitiesText ∧
      lp capabilitiesText = .ok capabilities ∧ canonicalJson C context.walletMeta = .ok metaText ∧
      lp metaText = .ok walletMeta ∧ lp (context.dappName.getD "") = .ok name ∧
      input = transcriptLabel ++ (channel ++ (dapp ++ (wallet ++ (capabilities ++ (walletMeta ++ (name ++ [])))))) := by
  unfold transcriptInput at hashed
  obtain ⟨channel, read, hashed⟩ := ok_of_except_bind hashed
  obtain ⟨dapp, first, hashed⟩ := ok_of_except_bind hashed
  obtain ⟨wallet, second, hashed⟩ := ok_of_except_bind hashed
  obtain ⟨capabilitiesText, printed, hashed⟩ := ok_of_except_bind hashed
  obtain ⟨capabilities, third, hashed⟩ := ok_of_except_bind hashed
  obtain ⟨metaText, printed', hashed⟩ := ok_of_except_bind hashed
  obtain ⟨walletMeta, fourth, hashed⟩ := ok_of_except_bind hashed
  obtain ⟨name, fifth, hashed⟩ := ok_of_except_bind hashed
  refine ⟨channel, dapp, wallet, capabilities, walletMeta, name, capabilitiesText, metaText, read, first, second, printed,
    third, printed', fourth, fifth, ?_⟩
  have same := Except.ok.inj hashed
  rw [← same]
  simp [transcriptLabel, List.append_assoc]

/-- What `computeSessionFingerprint` hashes. -/
def fingerprintInput (channelIdHex dappPubKeyB64 : String) : Except String Bytes := do
  let ch ← channelBytes channelIdHex
  let key ← orThrow "invalid base64" (b64urlDecode dappPubKeyB64)
  return utf8ToBytes "walletpair-v1-session-fingerprint" ++ ch ++ key

theorem computeSessionFingerprint_eq (channelIdHex dappPubKeyB64 : String) :
    computeSessionFingerprint C channelIdHex dappPubKeyB64 = (do
      let input ← fingerprintInput channelIdHex dappPubKeyB64
      let word ← orThrow "out of bounds" (readUint32 (C.sha256 input))
      return padStart4 (toString (word % 10000))) := by
  unfold computeSessionFingerprint fingerprintInput
  simp only [bind_assoc, pure_bind]

theorem computeHandshakeTranscriptHash_eq (channelIdHex : String) (context : SessionCryptoContext) :
    computeHandshakeTranscriptHash C channelIdHex context =
      (transcriptInput C channelIdHex context).map C.sha256 := by
  unfold computeHandshakeTranscriptHash
  cases transcriptInput C channelIdHex context with
  | error e => rfl
  | ok input => rfl

/-- The labels part at the fifteenth byte. -/
theorem labels_part (first second : Bytes) :
    utf8ToBytes "walletpair-v1-session-fingerprint" ++ first ≠ transcriptLabel ++ second := by
  intro same
  have front := congrArg (List.take 15) same
  rw [List.take_append_of_le_length (by decide +kernel), List.take_append_of_le_length (by decide +kernel)] at front
  exact absurd front (by decide +kernel)

/-! ### Reading a transcript back -/

/-- Two handshakes that hash the same bytes have the same fields, and neither hashes what a
fingerprint does. -/
theorem transcript_unambiguous (C : Crypto) {channel channel' : String} {a b : SessionCryptoContext} {input input' : Bytes}
    (first : IsChannelId channel) (second : IsChannelId channel') (one : transcriptInput C channel a = .ok input)
    (two : transcriptInput C channel' b = .ok input') :
    (input = input' → channel = channel' ∧ a.dappPubKeyB64 = b.dappPubKeyB64 ∧ a.walletPubKeyB64 = b.walletPubKeyB64 ∧
      canonicalJson C a.capabilities = canonicalJson C b.capabilities ∧
      canonicalJson C a.walletMeta = canonicalJson C b.walletMeta ∧ a.dappName.getD "" = b.dappName.getD "") ∧
    (∀ other key print, fingerprintInput other key = .ok print → input ≠ print) := by
  obtain ⟨ch, dapp, wallet, capabilities, walletMeta, name, capabilitiesText, metaText, read, dappLp, walletLp, printed,
    capabilitiesLp, metaPrinted, metaLp, nameLp, bytes⟩ := transcriptInput_parts one
  obtain ⟨ch', dapp', wallet', capabilities', walletMeta', name', capabilitiesText', metaText', read', dappLp', walletLp',
    printed', capabilitiesLp', metaPrinted', metaLp', nameLp', bytes'⟩ := transcriptInput_parts two
  constructor
  · intro same
    rw [bytes, bytes'] at same
    obtain ⟨known, known_read, width, -⟩ := channelBytes_of_id first
    obtain ⟨known', known_read', width', -⟩ := channelBytes_of_id second
    obtain rfl : known = ch := by simpa [known_read] using read
    obtain rfl : known' = ch' := by simpa [known_read'] using read'
    have fields := List.append_cancel_left same
    obtain ⟨channels, fields⟩ := List.append_inj fields (width.trans width'.symm)
    obtain ⟨dapps, fields⟩ := lp_append_injective dappLp dappLp' fields
    obtain ⟨wallets, fields⟩ := lp_append_injective walletLp walletLp' fields
    obtain ⟨texts, fields⟩ := lp_append_injective capabilitiesLp capabilitiesLp' fields
    obtain ⟨metas, fields⟩ := lp_append_injective metaLp metaLp' fields
    obtain ⟨names, -⟩ := lp_append_injective nameLp nameLp' fields
    refine ⟨channelBytes_injective first second read (channels ▸ read'), dapps, wallets, ?_, ?_, names⟩
    · rw [printed, printed', texts]
    · rw [metaPrinted, metaPrinted', metas]
  · intro other key print hashed same
    unfold fingerprintInput at hashed
    obtain ⟨otherBytes, -, hashed⟩ := ok_of_except_bind hashed
    obtain ⟨keyBytes, -, hashed⟩ := ok_of_except_bind hashed
    have spelled := Except.ok.inj hashed
    rw [← same, bytes, List.append_assoc] at spelled
    exact labels_part _ _ spelled

namespace Sample

/-- A handshake with a dApp of this name. -/
def handshake (name : String) : SessionCryptoContext := ⟨"d", "w", some value, none, some name⟩

end Sample

/-- Two dApps with different names never hash the same transcript. -/
theorem transcript_unambiguous_sample :
    ∃ input input', transcriptInput .ideal Sample.someChannel (Sample.handshake "a") = .ok input ∧
      transcriptInput .ideal Sample.someChannel (Sample.handshake "b") = .ok input' ∧ input ≠ input' := by
  have known : IsChannelId Sample.someChannel := by decide +kernel
  have hashes : (transcriptInput .ideal Sample.someChannel (Sample.handshake "a")).isOk = true ∧
      (transcriptInput .ideal Sample.someChannel (Sample.handshake "b")).isOk = true := by
    decide +kernel
  cases one : transcriptInput .ideal Sample.someChannel (Sample.handshake "a") with
  | error e => simp [one, Except.isOk, Except.toBool] at hashes
  | ok input =>
    cases two : transcriptInput .ideal Sample.someChannel (Sample.handshake "b") with
    | error e => simp [two, Except.isOk, Except.toBool] at hashes
    | ok input' =>
      refine ⟨input, input', rfl, rfl, fun same => ?_⟩
      obtain ⟨-, -, -, -, -, names⟩ := (transcript_unambiguous .ideal known known one two).1 same
      exact absurd names (by decide)

end WalletPair.Sdk
