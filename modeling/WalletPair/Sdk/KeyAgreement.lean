import WalletPair.Sdk.DApp.Hosting
import WalletPair.Sdk.Wallet.Joining

/-! Both ends of a pairing derive the same keys. The wallet works from the pairing URI and
its own scope, the dApp from its own configuration and the join it decrypted; the two
contexts have the same canonical texts, so the transcripts and all keys are the same. -/

namespace WalletPair.Sdk
open WalletPair.Lib WalletPair.Lib.Program

/-- The canonical text of an object parses back to an object whose members have the same
canonical texts. -/
structure Crypto.RoundTrips (C : Crypto) : Prop where
  object : ∀ fields text, C.canonicalize (.obj fields) = some text →
    ∃ back, Json.parse (textDecode (utf8ToBytes text)) = some (.obj back) ∧
      ∀ key, ((Json.obj back).field key).map C.canonicalize = ((Json.obj fields).field key).map C.canonicalize
  null : C.canonicalize .null = some "null"

/-! ### Transcripts -/

section
variable {C : Crypto}

/-- Contexts that name the same parties and have the same canonical texts. -/
structure SameContext (C : Crypto) (a b : SessionCryptoContext) : Prop where
  dapp : a.dappPubKeyB64 = b.dappPubKeyB64
  wallet : a.walletPubKeyB64 = b.walletPubKeyB64
  capabilities : canonicalJson C a.capabilities = canonicalJson C b.capabilities
  walletMeta : canonicalJson C a.walletMeta = canonicalJson C b.walletMeta
  name : a.dappName = b.dappName

theorem computeHandshakeTranscriptHash_congr {a b : SessionCryptoContext} (same : SameContext C a b)
    (channelId : String) : computeHandshakeTranscriptHash C channelId a = computeHandshakeTranscriptHash C channelId b := by
  unfold computeHandshakeTranscriptHash transcriptInput
  rw [same.dapp, same.wallet, same.capabilities, same.walletMeta, same.name]

theorem deriveDirectionalSessionKeys_congr {a b : SessionCryptoContext} (same : SameContext C a b)
    (rootKey : Bytes) (channelId : String) :
    deriveDirectionalSessionKeys C rootKey channelId a = deriveDirectionalSessionKeys C rootKey channelId b := by
  unfold deriveDirectionalSessionKeys
  rw [computeHandshakeTranscriptHash_congr same]

/-- What the dApp decrypts has the canonical texts of what the wallet sealed. -/
theorem offer_round_trip (round : C.RoundTrips) {capabilities : Json} {walletMeta : Option Json} {text : String}
    (printed : C.canonicalize (offerJson capabilities walletMeta) = some text) :
    ∃ back, Json.parse (textDecode (utf8ToBytes text)) = some (.obj back) ∧
      canonicalJson C ((Json.obj back).field "capabilities") = canonicalJson C (some capabilities) ∧
      canonicalJson C ((Json.obj back).field "meta") = canonicalJson C walletMeta := by
  obtain ⟨back, parsed, same⟩ := round.object _ _ printed
  have read {key : String} {value : Json}
      (found : (Json.obj [("capabilities", capabilities), ("meta", walletMeta.getD .null)]).field key = some value) :
      canonicalJson C ((Json.obj back).field key) = canonicalJson C (some value) := by
    have texts := same key
    rw [found, Option.map_some] at texts
    obtain ⟨other, present, equal⟩ := Option.map_eq_some_iff.mp texts
    rw [present, canonicalJson, canonicalJson, equal]
  have described : canonicalJson C ((Json.obj back).field "meta") = canonicalJson C (some (walletMeta.getD .null)) :=
    read (by simp [Json.field])
  refine ⟨back, parsed, read (by simp [Json.field]), described.trans ?_⟩
  cases walletMeta with
  | none => simp [canonicalJson, round.null, orThrow]
  | some value => rfl

end

/-! ### The wallet's terms -/

namespace Wallet

/-- What the wallet derived for its pairing, and what it was derived from. -/
structure Terms where
  sendKey : Option Bytes
  recvKey : Option Bytes
  channelId : String
  context : SessionCryptoContext
  sessionFingerprint : String

def Session.terms (s : Session) : Terms :=
  ⟨s.sendKey, s.recvKey, s.channelId, sessionContext s, s.sessionFingerprint⟩

variable {C : Crypto} {s : Session} {terms : Terms}

theorem terms_of_moves {α : Type} {m : M α} {ok : Kind → Prop} (none : ¬ ok .peer) (made : Keeps (Moves ok) m) :
    Keeps (Preserve fun s => s.terms = terms) m := by
  refine preserve_of_moves made fun s t k allowed move same => ?_
  have other : k ≠ .peer := by
    rintro rfl
    rcases allowed with quiet | allowed
    · cases quiet
    · exact none allowed
  cases move with
  | rekey sendKey recvKey => exact absurd rfl other
  | fingerprint code => exact absurd rfl other
  | _ => exact same

theorem settleCall_terms (ticket : Nat) (resolves : Bool) :
    Triple (fun s => s.terms = terms) (settleCall C ticket resolves) (fun _ s => s.terms = terms)
      (fun s => s.terms = terms) := by
  refine settleCall_rule C (fun _ held => held) (fun _ s call same _ _ => ?_) fun _ s call same _ => ?_
  · have own : call.task.kind ≠ .peer := by cases call.task <;> nofun
    have made : Keeps (Moves (· ≠ .peer)) (resume C call.task) :=
      resume_moves C _ own (fun _ => nofun) fun _ => ⟨nofun, nofun, nofun⟩
    exact (Triple.preserve (terms_of_moves (fun h => h rfl) made)).start same
  · have made : Keeps (Moves (· ≠ .peer)) (fail "save" call.task) := fail_task_moves "save" call.task fun _ => nofun
    exact (Triple.preserve (terms_of_moves (fun h => h rfl) made)).start same

/-- Until it is destroyed or pairs anew, the wallet keeps what it derived. -/
theorem step_terms {l : Inputs × Label} (within : WithinPairing l) (alive : l.2 ≠ .destroy) :
    (step C s l).terms = s.terms := by
  obtain ⟨inputs, label⟩ := l
  obtain ⟨-, same⟩ := within
  have moved (moving : label.moving = true) (peer : Kind.peer ∉ label.kinds) : (step C s (inputs, label)).terms = s.terms :=
    terms_of_moves peer (act_moves C label moving) { s with inputs := inputs } rfl
  cases label with
  | prepareJoin parsed privateKey => exact same.elim
  | restore snapshot => exact same.elim
  | crash => exact same.elim
  | destroy => exact absurd rfl alive
  | flush ticket => rfl
  | settle ticket resolves => exact (settleCall_terms ticket resolves).final (s := { s with inputs := inputs }) rfl
  | message msg =>
    obtain ⟨v, ch, ts, sender, body⟩ := msg
    exact moved rfl (by cases body <;> simp [Label.kinds, messageKinds])
  | confirmJoin => exact moved rfl (by simp [Label.kinds])
  | approve id result => exact moved rfl (by simp [Label.kinds])
  | reject id code message => exact moved rfl (by simp [Label.kinds])
  | pushEvent name data => exact moved rfl (by simp [Label.kinds])
  | ping => exact moved rfl (by simp [Label.kinds])
  | close reason => exact moved rfl (by simp [Label.kinds])
  | reconnect => exact moved rfl (by simp [Label.kinds])
  | transportClose => exact moved rfl (by simp [Label.kinds])
  | fire name => exact moved rfl (by simp [Label.kinds])
  | connect ticket opened => exact moved rfl (by simp [Label.kinds])

theorem run_terms {labels : List (Inputs × Label)} (within : ∀ l ∈ labels, WithinPairing l ∧ l.2 ≠ .destroy) :
    (Run.run (step C) s labels).terms = s.terms := by
  induction labels generalizing s with
  | nil => rfl
  | cons l rest ih =>
    obtain ⟨here, later⟩ := List.forall_mem_cons.mp within
    rw [Run.run_cons, ih later, step_terms here.1 here.2]

end Wallet

/-! ### Agreement -/

/-- The dApp after its pairing was created and the labels were taken. -/
def hostRun (C : Crypto) (d : DApp.Session) (dappKey : Bytes) (channelId : String) (deferTransport : Bool)
    (labels : List (Inputs × DApp.Label)) : DApp.Session :=
  Run.run (DApp.step C) (after (DApp.createPairing C dappKey channelId deferTransport) d) labels

/-- Both ends hold keys, each other's, and computed the same transcript hash and the same
fingerprint. `sender` is the wallet's public key as the dApp received it. -/
structure Agreement (C : Crypto) (d : DApp.Session) (w : Wallet.Session) (sender : String) : Prop where
  keyed : w.sendKey ≠ none ∧ w.recvKey ≠ none
  toWallet : d.sendKey = w.recvKey
  toDApp : d.recvKey = w.sendKey
  transcript : computeHandshakeTranscriptHash C d.channelId (DApp.sessionContext d sender d.walletCapabilities d.walletMeta) =
    computeHandshakeTranscriptHash C w.channelId (Wallet.sessionContext w)
  fingerprint : d.sessionFingerprint = w.sessionFingerprint

section
variable {C : Crypto} {dappKey walletKey : Bytes} {channelId uri code : String} {parsed : PairingParams}
variable {d : DApp.Session} {s t : Wallet.Session}

/-- The dApp of the URI, as the wallet knows it. -/
theorem shows_of_hosting (hosting : DApp.Hosting C dappKey channelId uri code d) (random : dappKey.length = 32)
    (free : ∀ c ∈ channelId.toList, isUnreserved c = true) (read : parsePairingUri uri = .ok parsed) :
    Wallet.Shows C d parsed dappKey ∧ parsed.name = d.dappMeta.name := by
  obtain ⟨relay, url, icon, methods, chains, built⟩ := hosting.named
  rw [built] at read
  obtain ⟨ch, pubkey, name⟩ := @parsePairingUri_buildPairingUri
    ⟨channelId, b64urlEncode (C.getPublicKey dappKey), relay, d.dappMeta.name, url, icon, methods, chains⟩ parsed free
    (b64urlEncode_unreserved _) read
  exact ⟨⟨hosting.channelId.trans ch.symm, hosting.privKey, random, pubkey⟩, name⟩

/-- A sealed join that reached pending approval, seen from both ends. -/
theorem agreement_of_offered (handshake : C.Handshake) (round : C.RoundTrips)
    (hosting : DApp.Hosting C dappKey channelId uri code d)
    (shown : computeSessionFingerprint C channelId (b64urlEncode (C.getPublicKey dappKey)) = .ok code)
    (shows : Wallet.Shows C d parsed dappKey) (named : parsed.name = d.dappMeta.name)
    (prepared : Wallet.Prepared C parsed walletKey s t) (random : walletKey.length = 32)
    {sealedJoin : SealedJoin} (offers : prepared.proposal.Offers C sealedJoin) {d' : DApp.Session}
    (offered : DApp.Offered C d d' (b64urlEncode (C.getPublicKey walletKey)) sealedJoin) {w : Wallet.Session}
    (kept : w.terms = t.terms) : Agreement C d' w (b64urlEncode (C.getPublicKey walletKey)) := by
  obtain ⟨nonce, envelope, length, rfl, made⟩ := offers
  have root : offered.rootKey = prepared.rootKey := by
    have key : offered.key = C.getPublicKey walletKey :=
      Option.some.inj (offered.decoded.symm.trans (Wallet.decodePublicKey_encode handshake random))
    have rooted := offered.rooted
    rw [key, prepared.joinRootKey handshake random shows] at rooted
    exact (Except.ok.inj rooted).symm
  -- the dApp reads the offer that the wallet sealed
  have derived : deriveJoinEncryptionKey C offered.rootKey d.channelId = .ok prepared.joinKey := by
    rw [root, shows.channelId]
    exact prepared.sealing
  change sealJoin C prepared.joinKey parsed.ch _ _ nonce = _ at made
  rw [← shows.channelId] at made
  obtain ⟨text, printed, reads⟩ := DApp.readJoin_sealed handshake length derived made
  obtain ⟨back, parsedBack, capabilities, walletMeta⟩ := offer_round_trip round printed
  have offer := offered.offer
  rw [reads back parsedBack] at offer
  obtain ⟨sameCapabilities, sameMeta⟩ := DApp.JoinOffer.offered.inj offer
  rw [sameCapabilities] at capabilities
  rw [sameMeta] at walletMeta
  -- so both contexts have the same texts
  have context : SameContext C (DApp.sessionContext d (b64urlEncode (C.getPublicKey walletKey)) offered.capabilities
      offered.walletMeta) (Wallet.sessionContext t) := by
    refine ⟨?_, prepared.pubKeyB64.symm, ?_, ?_, ?_⟩
    · change d.pubKeyB64 = (t.remotePubKey.map b64urlEncode).getD ""
      rw [prepared.remotePubKey, prepared.remote_eq shows, hosting.pubKeyB64]
      rfl
    · change canonicalJson C offered.capabilities = canonicalJson C (some t.effectiveCapabilities)
      rw [capabilities, prepared.effectiveCapabilities]
      rfl
    · change canonicalJson C offered.walletMeta = canonicalJson C t.options.walletMeta
      rw [walletMeta, prepared.options]
      rfl
    · change some d.dappMeta.name = t.dappName
      rw [prepared.dappName, named]
  have keys : offered.keys = prepared.keys := by
    have same := offered.derived
    rw [root, deriveDirectionalSessionKeys_congr context, shows.channelId, prepared.derived] at same
    exact (Except.ok.inj same).symm
  have sendKey : w.sendKey = some prepared.keys.walletToDappKey :=
    (congrArg Wallet.Terms.sendKey kept).trans prepared.sendKey
  have recvKey : w.recvKey = some prepared.keys.dappToWalletKey :=
    (congrArg Wallet.Terms.recvKey kept).trans prepared.recvKey
  have terms := offered.terms
  refine ⟨?_, ?_, ?_, ?_, ?_⟩
  · rw [sendKey, recvKey]
    exact ⟨nofun, nofun⟩
  · rw [recvKey, ← keys]
    exact congrArg DApp.Terms.sendKey terms
  · rw [sendKey, ← keys]
    exact congrArg DApp.Terms.recvKey terms
  · have heard : DApp.sessionContext d' (b64urlEncode (C.getPublicKey walletKey)) d'.walletCapabilities d'.walletMeta =
        DApp.sessionContext d (b64urlEncode (C.getPublicKey walletKey)) offered.capabilities offered.walletMeta := by
      unfold DApp.sessionContext
      rw [show d'.pubKeyB64 = d.pubKeyB64 from congrArg DApp.Terms.pubKeyB64 terms,
        show d'.walletCapabilities = _ from congrArg DApp.Terms.walletCapabilities terms,
        show d'.walletMeta = _ from congrArg DApp.Terms.walletMeta terms,
        show d'.dappMeta.name = d.dappMeta.name from congrArg DApp.Terms.dappName terms]
    have said : Wallet.sessionContext w = Wallet.sessionContext t := congrArg Wallet.Terms.context kept
    have channel : d'.channelId = w.channelId := calc
      d'.channelId = d.channelId := congrArg DApp.Terms.channelId terms
      _ = t.channelId := shows.channelId.trans prepared.channelId.symm
      _ = w.channelId := (congrArg Wallet.Terms.channelId kept).symm
    rw [heard, said, channel, computeHandshakeTranscriptHash_congr context]
  · have walletShown := prepared.shown
    rw [prepared.remote_eq shows, ← shows.channelId, hosting.channelId, shown] at walletShown
    calc
      d'.sessionFingerprint = d.sessionFingerprint := congrArg DApp.Terms.sessionFingerprint terms
      _ = code := hosting.sessionFingerprint
      _ = t.sessionFingerprint := Except.ok.inj walletShown
      _ = w.sessionFingerprint := (congrArg Wallet.Terms.sessionFingerprint kept).symm

/-- The wallet prepares to join the dApp of a URI; the dApp handles a join that the wallet
sent, and no other before it. If that brings the wallet to pending approval, the two ends
agree on all keys, on the transcript and on the fingerprint. -/
theorem keys_agree (handshake : C.Handshake) (round : C.RoundTrips) {d₀ : DApp.Session} {w₀ : Wallet.Session}
    {random : Bytes} {deferTransport : Bool} (dappRandom : dappKey.length = 32) (walletRandom : walletKey.length = 32)
    (created : value (DApp.createPairing C dappKey (generateChannelId random) deferTransport) d₀ = some ())
    {hostLabels : List (Inputs × DApp.Label)} (alone : ∀ l ∈ hostLabels, DApp.BeforeJoin l.2)
    (read : parsePairingUri (hostRun C d₀ dappKey (generateChannelId random) deferTransport hostLabels).pairingUri =
      .ok parsed)
    (prepared : value (Wallet.prepareJoin C parsed walletKey) w₀ = some ()) (idle : Wallet.NoJoinWaits w₀)
    {labels : List (Inputs × Wallet.Label)} (within : ∀ l ∈ labels, Wallet.WithinPairing l ∧ l.2 ≠ .destroy)
    {message : ProtocolMessage} (sent : message ∈ Wallet.joinsSent C w₀ parsed walletKey labels) {inputs : Inputs}
    (pending : ¬ DApp.Refused (hostRun C d₀ dappKey (generateChannelId random) deferTransport hostLabels)
      (DApp.step C (hostRun C d₀ dappKey (generateChannelId random) deferTransport hostLabels) (inputs, .message message))) :
    Agreement C
      (DApp.step C (hostRun C d₀ dappKey (generateChannelId random) deferTransport hostLabels) (inputs, .message message))
      (Wallet.preparedRun C w₀ parsed walletKey labels) message.sender := by
  obtain ⟨d₁, create⟩ := ok_of_value created
  obtain ⟨shown, start⟩ := DApp.hosting_of_created create
  have hosting : DApp.Hosting C dappKey (generateChannelId random) d₁.pairingUri d₁.sessionFingerprint
      (hostRun C d₀ dappKey (generateChannelId random) deferTransport hostLabels) := by
    rw [hostRun, after_of_ok create]
    exact Run.invariant (fun _ _ waits held => DApp.step_hosting waits held)
      (Run.along_of_forall fun l member _ => alone l member) start
  generalize hostRun C d₀ dappKey (generateChannelId random) deferTransport hostLabels = d at *
  rw [hosting.pairingUri] at read
  obtain ⟨shows, named⟩ := shows_of_hosting hosting dappRandom (generateChannelId_unreserved random) read
  obtain ⟨t, prepare⟩ := ok_of_value prepared
  obtain ⟨ready⟩ := Wallet.prepared_of_ok prepare
  rw [← after_of_ok prepare] at ready
  -- every join of the wallet is its sealed offer, or says nothing
  obtain ⟨offers, sealedJoin, shape⟩ := Wallet.joinsSent_offer ready idle (fun _ offer => Or.inr offer)
    (fun l member => (within l member).1) (Run.along_of_forall fun _ _ _ => Or.inl (Or.inl rfl)) sent
  obtain ⟨-, sender, fits⟩ := offers sealedJoin shape
  obtain ⟨offered⟩ := DApp.message_offered C shape pending
  rcases fits with rfl | fits
  · -- a dApp without a wallet refuses a join that says nothing
    have offer := offered.offer
    simp [DApp.readJoin, hosting.paired] at offer
  · have kept : (Wallet.preparedRun C w₀ parsed walletKey labels).terms =
        (after (Wallet.prepareJoin C parsed walletKey) w₀).terms := Wallet.run_terms within
    rw [sender] at offered ⊢
    exact agreement_of_offered handshake round hosting shown shows named ready walletRandom fits offered kept

end

/-! ### A concrete pairing -/

/-- The text of sorted members, where it reads back as the same value. -/
def exactText (value : Json) : Option String :=
  match Json.parse (textDecode (utf8ToBytes (sortedText value))) with
  | some back => if Json.same back.sortKeys value.sortKeys then some (sortedText value) else none
  | none => none

/-- The transparent primitives with a printer that checks its own text. -/
def Crypto.exact : Crypto := { Crypto.transparent with canonicalize := exactText }

theorem Crypto.exact_handshake : Crypto.Handshake Crypto.exact where
  publicKey := Crypto.transparent_handshake.publicKey
  agree := Crypto.transparent_handshake.agree
  opens := Crypto.transparent_handshake.opens
  tagged := Crypto.transparent_handshake.tagged

theorem exactText_some {value : Json} {text : String} (printed : exactText value = some text) :
    ∃ back, Json.parse (textDecode (utf8ToBytes text)) = some back ∧ back.sortKeys = value.sortKeys := by
  unfold exactText at printed
  split at printed
  · rename_i back parsed
    split_ifs at printed with checked
    cases printed
    exact ⟨back, parsed, Json.eq_of_same _ _ checked⟩
  · cases printed

/-- The text depends on the sorted value only. -/
theorem exactText_congr {a b : Json} (same : a.sortKeys = b.sortKeys) : exactText a = exactText b := by
  have text : sortedText a = sortedText b := by rw [sortedText, sortedText, same]
  unfold exactText
  rw [text, same]

theorem Crypto.exact_roundTrips : Crypto.RoundTrips Crypto.exact := by
  refine ⟨fun fields text printed => ?_, by decide +kernel⟩
  obtain ⟨value, parsed, same⟩ := exactText_some printed
  cases value with
  | obj back =>
    refine ⟨back, parsed, fun key => ?_⟩
    have sorted : ((Json.obj back).field key).map Json.sortKeys = ((Json.obj fields).field key).map Json.sortKeys := by
      rw [← Json.field_sortKeys, ← Json.field_sortKeys, same]
    change ((Json.obj back).field key).map exactText = ((Json.obj fields).field key).map exactText
    cases left : (Json.obj back).field key <;> cases right : (Json.obj fields).field key
    · rfl
    · simp [left, right] at sorted
    · simp [left, right] at sorted
    · rw [left, right, Option.map_some, Option.map_some, Option.some.injEq] at sorted
      rw [Option.map_some, Option.map_some, exactText_congr sorted]
  | _ => simp [Json.sortKeys] at same

namespace Sample

/-- A dApp before its first pairing. -/
def idleHost : DApp.Session :=
  DApp.Session.new { dappMeta := ⟨"d", "", "https://d", "https://d/icon"⟩, url := some "wss://relay" }

def seed : Bytes := List.replicate 32 170

def hostLabels : List (Inputs × DApp.Label) := calmly [.connect 0 true]

theorem agreeing_facts :
    Program.value (DApp.createPairing .exact dappKey (generateChannelId seed) false) idleHost = some () ∧
    (parsePairingUri (hostRun .exact idleHost dappKey (generateChannelId seed) false hostLabels).pairingUri).toOption =
      some invitation ∧
    Program.value (Wallet.prepareJoin .exact invitation walletKey) Wallet.Sample.fresh = some () ∧
    Wallet.joinsSent .exact Wallet.Sample.fresh invitation walletKey Wallet.Sample.firstTry ≠ [] ∧
    ∀ message ∈ Wallet.joinsSent .exact Wallet.Sample.fresh invitation walletKey Wallet.Sample.firstTry,
      ¬ DApp.Refused (hostRun .exact idleHost dappKey (generateChannelId seed) false hostLabels)
        (DApp.step .exact (hostRun .exact idleHost dappKey (generateChannelId seed) false hostLabels)
          ({}, .message message)) := by
  decide +kernel

end Sample

theorem ok_of_toOption {α : Type} {x : Except String α} {a : α} (found : x.toOption = some a) : x = .ok a := by
  cases x with
  | error e => cases found
  | ok b => exact congrArg Except.ok (Option.some.inj found)

theorem keys_agree_sample :
    ∃ message ∈ Wallet.joinsSent .exact Wallet.Sample.fresh Sample.invitation Sample.walletKey Wallet.Sample.firstTry,
      Agreement .exact
        (DApp.step .exact (hostRun .exact Sample.idleHost Sample.dappKey (generateChannelId Sample.seed) false
          Sample.hostLabels) ({}, .message message))
        (Wallet.preparedRun .exact Wallet.Sample.fresh Sample.invitation Sample.walletKey Wallet.Sample.firstTry)
        message.sender := by
  have facts := Sample.agreeing_facts
  obtain ⟨message, sent⟩ := List.exists_mem_of_ne_nil _ facts.2.2.2.1
  exact ⟨message, sent, keys_agree Crypto.exact_handshake Crypto.exact_roundTrips (by decide) (by decide) facts.1
    (by simp [Sample.hostLabels, Sample.calmly, DApp.BeforeJoin]) (ok_of_toOption facts.2.1) facts.2.2.1 (by decide)
    (by simp [Wallet.Sample.firstTry, Wallet.WithinPairing, Wallet.Sample.random]) sent
    (facts.2.2.2.2 message sent)⟩

end WalletPair.Sdk
