import WalletPair.Sdk.PairingRoundTrip
import WalletPair.Sdk.Snapshots
import WalletPair.Sdk.Wallet.Joining

/-! What a failed `restore` or `prepareJoin` leaves behind. Both assign one field after the
other and may give up in between; the session is then as it was only if nothing was
assigned yet, or nothing new. -/

namespace WalletPair.Sdk
open WalletPair.Lib WalletPair.Lib.Program

/-! ### The fields of both sessions -/

/-- What is assigned up to the check of the traffic keys is what was there. -/
def Identity.Unassigned (d : Json) (i : Identity) : Prop :=
  d.isSet "channelId" = true → d.isSet "privKey" = true →
    i.channelId = d.field "channelId" ∧
    ∀ privKey, d.hexField "privKey" = some privKey →
      (i.privKey = some privKey ∧ i.pubKeyB64 = d.field "pubKeyB64") ∧
      ∀ remotePubKey, Identity.readRemote d = some remotePubKey →
        i.remotePubKey = remotePubKey ∧
        ∀ sendKey, Identity.readKey d "sendKey" = some sendKey →
          i.sendKey = sendKey ∧
          ∀ recvKey, Identity.readKey d "recvKey" = some recvKey → i.recvKey = recvKey

theorem Identity.restore_same (d : Json) (i : Identity) : (i.restore d).2 = i ↔ i.Unassigned d := by
  obtain ⟨channelId, privKey, pubKeyB64, remotePubKey, sendKey, recvKey⟩ := i
  unfold Identity.restore Identity.Unassigned
  dsimp only
  split
  · rename_i lacking
    rw [Bool.or_eq_true, Bool.not_eq_true', Bool.not_eq_true'] at lacking
    refine ⟨fun _ channel priv => ?_, fun _ => rfl⟩
    rcases lacking with none | none
    · exact absurd (none.symm.trans channel) (by decide)
    · exact absurd (none.symm.trans priv) (by decide)
  · rename_i named
    rw [Bool.or_eq_true, Bool.not_eq_true', Bool.not_eq_true', not_or, Bool.not_eq_false, Bool.not_eq_false] at named
    simp only [named, forall_const]
    cases d.hexField "privKey" with
    | none => simp [eq_comm]
    | some newPrivKey =>
      cases Identity.readRemote d with
      | none => simp [eq_comm]
      | some newRemote =>
        cases Identity.readKey d "sendKey" with
        | none => simp [eq_comm, and_assoc]
        | some newSend =>
          cases Identity.readKey d "recvKey" with
          | none => simp [eq_comm, and_assoc]
          | some newRecv => simp [eq_comm, and_assoc]

/-! ### `restore` of the dApp session -/

namespace DApp.Fields
variable {f : Fields} {throws : Bool}

/-- The assignments of an incomplete snapshot. -/
theorem restore_of_incomplete {d : Json} (incomplete : ¬ Identity.Complete d) :
    f.restore d throws = (false, { f with toIdentity := (f.toIdentity.restore d).2 }) := by
  have fails : (f.toIdentity.restore d).1 = false :=
    (Bool.not_eq_true _).mp (fun ok => incomplete ((Identity.restore_complete d f.toIdentity).mp ok))
  unfold restore
  generalize f.toIdentity.restore d = result at fails ⊢
  obtain ⟨ok, i⟩ := result
  cases fails
  rfl

/-- A snapshot that is complete changes the phase before a listener can throw. -/
theorem restore_phase {d : Json} (complete : Identity.Complete d) : (f.restore d throws).2.phase = .connected := by
  have ok := (Identity.restore_complete d f.toIdentity).mpr complete
  unfold restore
  generalize f.toIdentity.restore d = result at ok ⊢
  obtain ⟨_, i⟩ := result
  cases ok
  dsimp only
  split
  · assumption
  · rfl

/-- If the text is refused, the fields are as they were. -/
def RestoreAtomic (C : Crypto) (signed : String) (throws : Bool) (f : Fields) : Prop :=
  (f.restoreText C signed throws).1 = false → (f.restoreText C signed throws).2 = f

/-- The text holds no object, or one that is complete and heard, or one that brings nothing
new before it fails. -/
def Harmless (C : Crypto) (signed : String) (throws : Bool) (f : Fields) : Prop :=
  ∀ d, readSigned C signed = some d →
    (Identity.Complete d → f.phase = .connected ∨ throws = false) ∧
    (¬ Identity.Complete d → f.toIdentity.Unassigned d)

theorem restoreAtomic_iff (C : Crypto) (signed : String) (throws : Bool) (f : Fields) :
    f.RestoreAtomic C signed throws ↔ f.Harmless C signed throws := by
  unfold RestoreAtomic Harmless restoreText
  cases readSigned C signed with
  | none => exact ⟨fun _ d read => (by cases read), fun _ _ => rfl⟩
  | some d =>
    dsimp only
    constructor
    · rintro atomic _ ⟨⟩
      constructor
      · intro complete
        by_contra unheard
        have refused : (f.restore d throws).1 = false :=
          (Bool.not_eq_true _).mp fun ok => unheard ((restore_true d throws f).mp ok).2
        have phase : (f.restore d throws).2.phase = .connected := restore_phase complete
        rw [atomic refused] at phase
        exact unheard (Or.inl phase)
      · intro incomplete
        rw [restore_of_incomplete incomplete] at atomic
        apply (Identity.restore_same d f.toIdentity).mp
        exact congrArg Fields.toIdentity (atomic rfl)
    · intro harmless refused
      obtain ⟨heard, unassigned⟩ := harmless d rfl
      by_cases complete : Identity.Complete d
      · have ok := (restore_true d throws f).mpr ⟨complete, heard complete⟩
        rw [refused] at ok
        cases ok
      · rw [restore_of_incomplete complete, (Identity.restore_same d f.toIdentity).mpr (unassigned complete)]

end DApp.Fields

/-! ### `restore` of the wallet session -/

namespace Wallet.Fields
variable {C : Crypto} {f : Fields} {throws : Bool}

theorem restore_of_incomplete {d : Json} (incomplete : ¬ Identity.Complete d) :
    f.restore C d throws = (false, { f with toIdentity := (f.toIdentity.restore d).2 }) := by
  have fails : (f.toIdentity.restore d).1 = false :=
    (Bool.not_eq_true _).mp (fun ok => incomplete ((Identity.restore_complete d f.toIdentity).mp ok))
  unfold restore
  generalize f.toIdentity.restore d = result at fails ⊢
  obtain ⟨ok, i⟩ := result
  cases fails
  rfl

/-- A complete snapshot of another offer is refused after the counters are assigned. -/
theorem restore_of_other {d : Json} (complete : Identity.Complete d) (other : f.sameOffer C d = false) :
    f.restore C d throws = (false, restoreCounters d { f with toIdentity := (f.toIdentity.restore d).2 }) := by
  have ok := (Identity.restore_complete d f.toIdentity).mpr complete
  unfold restore
  generalize f.toIdentity.restore d = result at ok ⊢
  obtain ⟨_, i⟩ := result
  cases ok
  have same : (restoreCounters d { f with toIdentity := i }).sameOffer C d = false := other
  dsimp only
  rw [same]
  rfl

theorem restore_phase {d : Json} (complete : Identity.Complete d) (same : f.sameOffer C d = true) :
    (f.restore C d throws).2.phase = .connected := by
  have ok := (Identity.restore_complete d f.toIdentity).mpr complete
  unfold restore
  generalize f.toIdentity.restore d = result at ok ⊢
  obtain ⟨_, i⟩ := result
  cases ok
  have offer : (restoreCounters d { f with toIdentity := i }).sameOffer C d = true := same
  dsimp only
  rw [offer, if_neg (by simp)]
  split
  · assumption
  · rfl

/-- If the text is refused, the fields are as they were. -/
def RestoreAtomic (C : Crypto) (signed : String) (throws : Bool) (f : Fields) : Prop :=
  (f.restoreText C signed throws).1 = false → (f.restoreText C signed throws).2 = f

/-- The counters and the relay of the snapshot are those of the session. -/
def SameCounters (d : Json) (f : Fields) : Prop :=
  f.sendSeq = orElseNull (d.field "sendSeq") (.num 0 0) ∧ f.recvSeq = orElseNull (d.field "recvSeq") (.num (-1) 0) ∧
    f.relayUrl = d.field "relayUrl"

/-- The text holds no object, or one that is complete, for the same offer and heard, or one
that brings nothing new before it fails. -/
def Harmless (C : Crypto) (signed : String) (throws : Bool) (f : Fields) : Prop :=
  ∀ d, readSigned C signed = some d →
    (Identity.Complete d → f.sameOffer C d = true → f.phase = .connected ∨ throws = false) ∧
    (Identity.Complete d → f.sameOffer C d = false → f.toIdentity.Unassigned d ∧ f.SameCounters d) ∧
    (¬ Identity.Complete d → f.toIdentity.Unassigned d)

theorem restoreCounters_same {d : Json} {i : Identity} :
    restoreCounters d { f with toIdentity := i } = f ↔ i = f.toIdentity ∧ f.SameCounters d := by
  unfold restoreCounters SameCounters
  constructor
  · intro same
    have own := congrArg Fields.toIdentity same
    refine ⟨own, ?_, ?_, ?_⟩
    · exact (congrArg Fields.sendSeq same).symm
    · exact (congrArg Fields.recvSeq same).symm
    · exact (congrArg Fields.relayUrl same).symm
  · rintro ⟨rfl, sendSeq, recvSeq, relayUrl⟩
    rw [← sendSeq, ← recvSeq, ← relayUrl]

theorem restoreAtomic_iff (C : Crypto) (signed : String) (throws : Bool) (f : Fields) :
    f.RestoreAtomic C signed throws ↔ f.Harmless C signed throws := by
  unfold RestoreAtomic Harmless restoreText
  cases readSigned C signed with
  | none => exact ⟨fun _ d read => (by cases read), fun _ _ => rfl⟩
  | some d =>
    dsimp only
    constructor
    · rintro atomic _ ⟨⟩
      refine ⟨fun complete same => ?_, fun complete other => ?_, fun incomplete => ?_⟩
      · by_contra unheard
        have refused : (f.restore C d throws).1 = false :=
          (Bool.not_eq_true _).mp fun ok => unheard ((restore_true C d throws f).mp ok).2.2
        have phase : (f.restore C d throws).2.phase = .connected := restore_phase complete same
        rw [atomic refused] at phase
        exact unheard (Or.inl phase)
      · rw [restore_of_other complete other] at atomic
        obtain ⟨own, counters⟩ := restoreCounters_same.mp (atomic rfl)
        exact ⟨(Identity.restore_same d f.toIdentity).mp own, counters⟩
      · rw [restore_of_incomplete incomplete] at atomic
        apply (Identity.restore_same d f.toIdentity).mp
        exact congrArg Fields.toIdentity (atomic rfl)
    · intro harmless refused
      obtain ⟨heard, counters, unassigned⟩ := harmless d rfl
      by_cases complete : Identity.Complete d
      · cases offer : f.sameOffer C d with
        | true =>
          have ok := (restore_true C d throws f).mpr ⟨complete, offer, heard complete offer⟩
          rw [refused] at ok
          cases ok
        | false =>
          obtain ⟨own, same⟩ := counters complete offer
          rw [restore_of_other complete offer]
          exact restoreCounters_same.mpr ⟨(Identity.restore_same d f.toIdentity).mpr own, same⟩
      · rw [restore_of_incomplete complete, (Identity.restore_same d f.toIdentity).mpr (unassigned complete)]

end Wallet.Fields

/-! ### `prepareJoin` -/

namespace Wallet
variable {C : Crypto} {s t : Session} {parsed : PairingParams} {privateKey : Bytes}

/-- `prepareJoin` of a pairing URI. The random private key is an input. -/
def prepareJoinUri (C : Crypto) (uri : String) (privateKey : Bytes) : M Unit := do
  let parsed ← runExcept (parsePairingUri uri)
  prepareJoin C parsed privateKey

/-- What the handshake of this pairing is about. -/
def joinContext (C : Crypto) (parsed : PairingParams) (remote privateKey : Bytes) (options : Options) :
    SessionCryptoContext :=
  ⟨b64urlEncode remote, b64urlEncode (C.getPublicKey privateKey), some (computeScopeIntersection options.capabilities),
    options.walletMeta, some parsed.name⟩

/-- All keys of the pairing can be derived, and no listener throws at the fingerprint. -/
def Derivable (C : Crypto) (parsed : PairingParams) (privateKey : Bytes) (s : Session) : Prop :=
  ∃ remote shared rootKey keys code joinKey, b64urlDecode parsed.pubkey = some remote ∧
    computeSharedSecret C privateKey remote = .ok shared ∧ deriveSessionKey C shared parsed.ch = .ok rootKey ∧
    deriveDirectionalSessionKeys C rootKey parsed.ch (joinContext C parsed remote privateKey s.options) = .ok keys ∧
    computeSessionFingerprint C parsed.ch (b64urlEncode remote) = .ok code ∧
    deriveJoinEncryptionKey C rootKey parsed.ch = .ok joinKey ∧ s.hears = true

/-- The same session but for the record and the choices of the environment. -/
def SameFields (s t : Session) : Prop := { t with staleBelow := s.staleBelow, trace := s.trace, inputs := s.inputs } = s

/-- If `prepareJoin` throws, the fields are as they were. -/
def JoinAtomic (C : Crypto) (uri : String) (privateKey : Bytes) (s : Session) : Prop :=
  ∀ e t, prepareJoinUri C uri privateKey s = .error e t → SameFields s t

/-- The session after the fields of a new pairing are assigned. -/
def Session.rejoining (C : Crypto) (s : Session) (parsed : PairingParams) (remote privateKey : Bytes) : Session :=
  after (resetJoin C parsed remote privateKey)
    { s with intentionalClose := false, staleBelow := s.ticket, channelId := parsed.ch }

theorem prepareJoin_apply {remote : Bytes} (decoded : b64urlDecode parsed.pubkey = some remote) :
    prepareJoin C parsed privateKey s =
      establishKeys C remote privateKey (s.rejoining C parsed remote privateKey) := by
  unfold prepareJoin
  rw [modify_bind_apply, runExcept_bind_of_ok (congrArg (orThrow "invalid base64") decoded)]
  rfl

/-- Deriving the keys leaves the private key alone. -/
theorem establishKeys_privKey (C : Crypto) (remote privateKey : Bytes) :
    Keeps (fun s t : Session => t.privKey = s.privKey) (establishKeys C remote privateKey) := by
  have refl : Std.Refl fun s t : Session => t.privKey = s.privKey := ⟨fun _ => rfl⟩
  have trans : IsTrans Session fun s t => t.privKey = s.privKey := ⟨fun _ _ _ first second => second.trans first⟩
  have emitted : ∀ event, Keeps (fun s t : Session => t.privKey = s.privKey) (emit event) := by
    intro event s
    rw [after_emit]
    unfold Session.emitting
    split <;> rfl
  unfold establishKeys
  refine .bind .get fun s => .bind (.runExcept _) fun shared => .bind (.runExcept _) fun rootKey => ?_
  refine .bind (.runExcept _) fun keys => .bind (.modify fun _ => rfl) fun _ => .bind (.runExcept _) fun code => ?_
  refine .bind (.modify fun _ => rfl) fun _ => .bind (emitted _) fun _ => .bind (.runExcept _) fun joinKey => ?_
  exact .modify fun _ => rfl

/-- `prepareJoin` returns exactly if all keys can be derived. -/
theorem prepareJoin_ok {remote : Bytes} (decoded : b64urlDecode parsed.pubkey = some remote) :
    (∃ t, prepareJoin C parsed privateKey s = .ok () t) ↔ Derivable C parsed privateKey s := by
  constructor
  · rintro ⟨t, returned⟩
    rw [prepareJoin_apply decoded] at returned
    unfold establishKeys at returned
    rw [get_bind_apply] at returned
    obtain ⟨shared, agreed, returned⟩ := ok_of_runExcept_bind returned
    obtain ⟨rootKey, rooted, returned⟩ := ok_of_runExcept_bind returned
    obtain ⟨keys, derived, returned⟩ := ok_of_runExcept_bind returned
    rw [modify_bind_apply] at returned
    obtain ⟨code, shown, returned⟩ := ok_of_runExcept_bind returned
    rw [modify_bind_apply] at returned
    obtain ⟨_, u, emitted, returned⟩ := ok_of_bind returned
    obtain ⟨joinKey, sealing, -⟩ := ok_of_runExcept_bind returned
    refine ⟨remote, shared, rootKey, keys, code, joinKey, decoded, agreed, rooted, derived, shown, sealing, ?_⟩
    rw [emit_apply] at emitted
    split_ifs at emitted with heard
    exact heard
  · rintro ⟨other, shared, rootKey, keys, code, joinKey, bytes, agreed, rooted, derived, shown, sealing, heard⟩
    rw [decoded] at bytes
    cases bytes
    have told : ∀ u : Session, u.muted = s.muted → u.inputs = s.inputs →
        emit (.sessionFingerprint code) u = .ok () (u.emitting (.sessionFingerprint code)) := by
      intro u muted inputs
      have hears : u.hears = true := by
        unfold Session.hears at heard ⊢
        rw [muted, inputs]
        exact heard
      rw [emit_apply, if_pos hears]
    have channel : (s.rejoining C parsed remote privateKey).channelId = parsed.ch := rfl
    have context : sessionContext (s.rejoining C parsed remote privateKey) =
      joinContext C parsed remote privateKey s.options := rfl
    rw [prepareJoin_apply decoded]
    unfold establishKeys
    rw [get_bind_apply, channel, context, runExcept_bind_of_ok agreed, runExcept_bind_of_ok rooted,
      runExcept_bind_of_ok derived, modify_bind_apply, runExcept_bind_of_ok shown, modify_bind_apply]
    refine ⟨_, Eq.trans (bind_of_ok (told _ ?_ ?_)) (runExcept_bind_of_ok sealing)⟩
    · rfl
    · rfl

/-- The key of an accepted URI can be decoded. -/
theorem decoded_of_parsed {uri : String} (accepted : parsePairingUri uri = .ok parsed) :
    ∃ remote, b64urlDecode parsed.pubkey = some remote := by
  unfold parsePairingUri at accepted
  obtain ⟨ch, -, accepted⟩ := ok_of_except_bind accepted
  obtain ⟨pubkey, -, accepted⟩ := ok_of_except_bind accepted
  split_ifs at accepted
  · cases accepted
  obtain ⟨bytes, decoded, accepted⟩ := ok_of_except_bind accepted
  split_ifs at accepted
  · cases accepted
  obtain ⟨name, -, accepted⟩ := ok_of_except_bind accepted
  obtain ⟨url, -, accepted⟩ := ok_of_except_bind accepted
  obtain ⟨icon, -, accepted⟩ := ok_of_except_bind accepted
  split_ifs at accepted
  · cases accepted
  obtain ⟨relay, -, accepted⟩ := ok_of_except_bind accepted
  cases accepted
  refine ⟨bytes, ?_⟩
  cases text : b64urlDecode pubkey with
  | none => simp [text, orThrow] at decoded
  | some other => simpa [text, orThrow] using decoded

/-- A failed `prepareJoin` has given up the private key of the session. -/
theorem joinAtomic_iff (C : Crypto) (uri : String) (privateKey : Bytes) (s : Session)
    (fresh : s.privKey ≠ some privateKey) :
    JoinAtomic C uri privateKey s ↔ ∀ parsed, parsePairingUri uri = .ok parsed → Derivable C parsed privateKey s := by
  unfold JoinAtomic prepareJoinUri
  cases accepted : parsePairingUri uri with
  | error e =>
    constructor
    · intro _ parsed read
      cases read
    · intro _ e' t failed
      rw [runExcept_bind_of_error rfl] at failed
      cases failed
      rfl
  | ok parsed =>
    obtain ⟨remote, decoded⟩ := decoded_of_parsed accepted
    rw [runExcept_bind_of_ok rfl]
    constructor
    · rintro atomic _ ⟨⟩
      apply (prepareJoin_ok decoded).mp
      cases run : prepareJoin C parsed privateKey s with
      | ok _ t => exact ⟨t, rfl⟩
      | error e t =>
        have kept := establishKeys_privKey C remote privateKey (s.rejoining C parsed remote privateKey)
        rw [prepareJoin_apply decoded] at run
        rw [after_of_error run] at kept
        have same : { t with staleBelow := s.staleBelow, trace := s.trace, inputs := s.inputs } = s :=
          atomic e t (by rw [prepareJoin_apply decoded, run])
        have own := congrArg Session.privKey same
        change t.privKey = s.privKey at own
        exact absurd (own.symm.trans kept) fresh
    · intro derivable e t failed
      obtain ⟨u, returned⟩ := (prepareJoin_ok decoded).mpr (derivable parsed rfl)
      rw [returned] at failed
      cases failed

end Wallet

/-- What a refused snapshot or a failed join leaves behind: the session is as it was
exactly if the text or the URI is refused before the first assignment, or brings nothing
new up to where it fails. -/
theorem failed_initialisation_atomic_iff (C : Crypto) :
    (∀ (f : DApp.Fields) (signed : String) (throws : Bool),
      f.RestoreAtomic C signed throws ↔ f.Harmless C signed throws) ∧
    (∀ (f : Wallet.Fields) (signed : String) (throws : Bool),
      f.RestoreAtomic C signed throws ↔ f.Harmless C signed throws) ∧
    ∀ (s : Wallet.Session) (uri : String) (privateKey : Bytes), s.privKey ≠ some privateKey →
      (Wallet.JoinAtomic C uri privateKey s ↔
        ∀ parsed, parsePairingUri uri = .ok parsed → Wallet.Derivable C parsed privateKey s) :=
  ⟨fun f signed throws => DApp.Fields.restoreAtomic_iff C signed throws f,
    fun f signed throws => Wallet.Fields.restoreAtomic_iff C signed throws f,
    fun s uri privateKey fresh => Wallet.joinAtomic_iff C uri privateKey s fresh⟩

namespace Sample

/-- A snapshot of another channel that has lost its traffic keys. -/
def keyless : String := "\x7b\"channelId\":\"cd\",\"privKey\":\"05\"\x7d"

theorem keyless_refused : (keyed.restoreText .transparent keyless false).1 = false ∧
    (keyed.restoreText .transparent keyless false).2.channelId.bind Json.asString = some "cd" := by
  decide +kernel

/-- The snapshot of the session itself, with a key that is not hexadecimal. -/
def misspelled : String :=
  "\x7b\"channelId\":\"ab\",\"privKey\":\"0101010101010101010101010101010101010101010101010101010101010101\",\"pubKeyB64\":\"AQEBAQEBAQEBAQEBAQEBAQEBAQEBAQEBAQEBAQEBAQE\",\"remotePubKeyB64\":\"AgICAgICAgICAgICAgICAgICAgICAgICAgICAgICAgI\",\"sendKey\":\"zz\"\x7d"

/-- Primitives that refuse a key of low order. -/
def wary : Crypto :=
  { Crypto.transparent with
    getSharedSecret := fun a b => if b.all (· = 0) then none else Crypto.transparent.getSharedSecret a b }

/-- A wallet that is connected. -/
def pairedWallet : Wallet.Session :=
  Run.run (Wallet.step wary) (.new (Wallet.Sample.options false)) [({}, .prepareJoin pairing walletKey),
    ({}, .confirmJoin), ({ nonce := List.replicate 12 0 }, .connect 0 true), ({}, .message (ready dappKey))]

/-- A pairing with a key of low order. -/
def lowOrder : PairingParams := { Sdk.plainParams with pubkey := b64urlEncode (List.replicate 32 0) }

theorem lowOrder_proper : lowOrder.Proper := by
  have proper := Sdk.plainParams_proper
  exact ⟨proper.ch, ⟨List.replicate 32 0, by decide, rfl⟩, proper.relay, proper.name, proper.url, proper.icon, proper.methods,
    proper.chains⟩

end Sample

/-- A connected session keeps everything when its own snapshot turns out to be misspelled, and when
a URI is malformed, but not when the key of a URI turns out to be of low order. -/
theorem failed_initialisation_sample :
    Sample.keyed.RestoreAtomic Sample.wary Sample.misspelled false ∧
      Sample.pairedWallet.phase = .connected ∧
      Wallet.JoinAtomic Sample.wary "" Sample.secondKey Sample.pairedWallet ∧
      ¬ Wallet.JoinAtomic Sample.wary (buildPairingUri Sample.lowOrder) Sample.secondKey Sample.pairedWallet := by
  have connected : Sample.pairedWallet.phase = .connected ∧ Sample.pairedWallet.privKey ≠ some Sample.secondKey := by
    decide +kernel
  have joins (uri : String) := (failed_initialisation_atomic_iff Sample.wary).2.2 Sample.pairedWallet uri Sample.secondKey
    connected.2
  refine ⟨?_, connected.1, (joins "").mpr ?_, fun atomic => ?_⟩
  · have fields : (readSigned Sample.wary Sample.misspelled).all fun d =>
        (d.field "channelId").bind Json.asString = some "ab" ∧ d.hexField "privKey" = some Sample.dappKey ∧
          (d.field "pubKeyB64").bind Json.asString = some (b64urlEncode Sample.dappKey) ∧
          Identity.readRemote d = some (some Sample.walletKey) ∧ Identity.readKey d "sendKey" = none := by
      decide +kernel
    have text {v : Option Json} {t : String} (read : v.bind Json.asString = some t) : v = some (.str t) := by
      obtain ⟨value, rfl, own⟩ := Option.bind_eq_some_iff.mp read
      cases value with
      | str other => exact congrArg _ (congrArg _ (Option.some.inj own))
      | _ => cases own
    refine ((failed_initialisation_atomic_iff Sample.wary).1 Sample.keyed Sample.misspelled false).mpr ?_
    intro d read
    rw [read] at fields
    obtain ⟨channel, priv, pub, remote, send⟩ := of_decide_eq_true fields
    refine ⟨fun _ => Or.inl rfl, fun _ _ _ => ⟨(text channel).symm, fun privKey own => ?_⟩⟩
    rw [priv] at own
    refine ⟨⟨own, (text pub).symm⟩, fun remotePubKey own => ?_⟩
    rw [remote] at own
    refine ⟨Option.some.inj own, fun sendKey own => ?_⟩
    rw [send] at own
    cases own
  · intro parsed accepted
    cases accepted
  · obtain ⟨remote, shared, -, -, -, -, decoded, agreed, -⟩ := (joins _).mp atomic _ (parsePairingUri_built Sample.lowOrder_proper)
    have refused : ∀ other ∈ b64urlDecode Sample.lowOrder.pubkey,
        (computeSharedSecret Sample.wary Sample.secondKey other).isOk = false := by
      decide +kernel
    have failed := refused remote decoded
    rw [agreed] at failed
    cases failed

/-- A live session gives up its channel and its keys for a snapshot that it refuses. -/
theorem refused_snapshot_overwrites :
    ¬ ∀ C : Crypto,
      (∀ (f : DApp.Fields) (signed : String) (throws : Bool), f.RestoreAtomic C signed throws) ∧
      (∀ (f : Wallet.Fields) (signed : String) (throws : Bool), f.RestoreAtomic C signed throws) ∧
      ∀ (s : Wallet.Session) (uri : String) (privateKey : Bytes), Wallet.JoinAtomic C uri privateKey s := by
  intro all
  have same := (all .transparent).1 Sample.keyed Sample.keyless false Sample.keyless_refused.1
  have channel := Sample.keyless_refused.2
  rw [same] at channel
  exact absurd channel (by decide)

end WalletPair.Sdk
