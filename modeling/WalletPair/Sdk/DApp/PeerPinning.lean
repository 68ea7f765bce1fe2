import WalletPair.Sdk.DApp.Sending

/-! What a reconnect join, one that carries no offer, does to the peer the session has
approved. The handler assigns the sender's key before it checks whose key it is, so the
question is answered branch by branch. -/

namespace WalletPair.Sdk.DApp
open WalletPair.Lib WalletPair.Lib.Program

/-- The peer's key and the traffic keys. -/
def Session.pins (s : Session) : Option Bytes × Option Bytes × Option Bytes :=
  (s.remotePubKey, s.sendKey, s.recvKey)

/-- The key an accept frame names. -/
def Obs.acceptTarget : Obs → Option String
  | .sent ⟨_, _, _, _, .accept target⟩ _ _ => some target
  | _ => none

/-- The session still belongs to the wallet it had approved, and accepted nobody else. -/
structure Pinned (s t : Session) (approved sender : String) : Prop where
  noAccept : ∀ o ∈ t.trace.drop s.trace.length, ∀ target, o.acceptTarget = some target →
    target ≠ sender ∧ decodePublicKey target ≠ decodePublicKey sender
  approved : t.approvedWalletPubKeyB64 = some approved
  pins : t.pins = s.pins

/-! ### Moves that leave the peer alone -/

/-- The peer and its approval are as before, and no accept frame was sent. -/
structure Still (s t : Session) : Prop where
  pins : t.pins = s.pins
  approved : t.approvedWalletPubKeyB64 = s.approvedWalletPubKeyB64
  quiet : ∃ new, t.trace = s.trace ++ new ∧ ∀ o ∈ new, o.acceptTarget = none

theorem Still.refl (s : Session) : Still s s := ⟨rfl, rfl, [], by simp, by simp⟩

theorem Still.trans {s t u : Session} (first : Still s t) (second : Still t u) : Still s u := by
  obtain ⟨left, leftEq, leftQuiet⟩ := first.quiet
  obtain ⟨right, rightEq, rightQuiet⟩ := second.quiet
  refine ⟨second.pins.trans first.pins, second.approved.trans first.approved,
    left ++ right, by rw [rightEq, leftEq, List.append_assoc], fun o mem => ?_⟩
  rcases List.mem_append.mp mem with old | new
  · exact leftQuiet o old
  · exact rightQuiet o new

instance : Std.Refl Still := ⟨Still.refl⟩

instance : IsTrans Session Still := ⟨fun _ _ _ => Still.trans⟩

theorem acceptTarget_of_kind {o : Obs} (plain : o.kind = .plain) : o.acceptTarget = none := by
  unfold Obs.acceptTarget
  split
  · rename_i frame disk
    cases frame with
    | none => cases plain
    | some frame => cases plain
  · rfl

theorem still_note (s : Session) {o : Obs} (other : o.acceptTarget = none) :
    Still s { s with trace := s.trace ++ [o] } :=
  ⟨rfl, rfl, [o], rfl, by simpa using other⟩

theorem still_of_move {s t : Session} {k : Kind} (quiet : k.quiet = true) (move : Move s k t) : Still s t := by
  have same {u : Session} (pins : u.pins = s.pins) (approved : u.approvedWalletPubKeyB64 = s.approvedWalletPubKeyB64)
      (trace : u.trace = s.trace) : Still s u := ⟨pins, approved, [], by simpa using trace, by simp⟩
  cases move with
  | note o =>
    refine still_note s (acceptTarget_of_kind ?_)
    rcases o with ⟨event⟩ | _ | ⟨message, frame, disk⟩ | _ | ⟨promise, outcome⟩ | _ | _
    · cases event <;> first | rfl | cases quiet
    · cases quiet
    · cases frame with
      | none =>
        obtain ⟨v, ch, ts, sender, body⟩ := message
        cases body <;> first | rfl | cases quiet
      | some frame => cases quiet
    · cases quiet
    · cases outcome <;> first | rfl | cases quiet
    · cases quiet
    · cases quiet
  | peer u => cases quiet
  | rekey sendKey recvKey => cases quiet
  | _ => exact same rfl rfl rfl

theorem still_of_moves {α : Type} {m : M α} (made : Keeps (Moves fun _ => False) m) : Keeps Still m := by
  intro s
  have chain := made s
  generalize after m s = last at chain ⊢
  induction chain with
  | refl => exact Still.refl s
  | tail _ move ih =>
    obtain ⟨k, quiet | impossible, move⟩ := move
    · exact ih.trans (still_of_move quiet move)
    · exact impossible.elim

/-! ### Offering and accepting -/

/-- Whether the two emissions of an offer return: of the join, and of the phase change. -/
def Session.announces (s : Session) : Bool :=
  s.muted || (s.inputs.throws.head? != some true &&
    (s.phase == .pendingAccept || s.inputs.throws.tail.head? != some true))

/-- Whether an accept frame goes out at once: nothing to wait for, and not too large. -/
def Session.acceptsAtOnce (s : Session) (target : String) : Bool :=
  !s.options.persistence.any Persistence.async &&
    (ProtocolMessage.mk 1 s.channelId s.inputs.now s.pubKeyB64 (.accept target)).wireBytes ≤ maxMessageBytes

/-- The session apart from its phase, its timers, its record and the listeners' behaviour. -/
structure SameOffer (s t : Session) : Prop extends Still s t where
  options : t.options = s.options
  privKey : t.privKey = s.privKey
  pubKeyB64 : t.pubKeyB64 = s.pubKeyB64
  channelId : t.channelId = s.channelId
  now : t.inputs.now = s.inputs.now
  muted : t.muted = s.muted

theorem sameOffer_emitting (s : Session) (event : Event) : SameOffer s (s.emitting event) := by
  unfold Session.emitting
  split
  · exact ⟨Still.refl s, rfl, rfl, rfl, rfl, rfl, rfl⟩
  · exact ⟨⟨rfl, rfl, [.emitted event], rfl, by simp [Obs.acceptTarget]⟩, rfl, rfl, rfl, rfl, rfl, rfl⟩

theorem SameOffer.trans {s t u : Session} (first : SameOffer s t) (second : SameOffer t u) : SameOffer s u :=
  ⟨first.toStill.trans second.toStill, second.options.trans first.options, second.privKey.trans first.privKey,
    second.pubKeyB64.trans first.pubKeyB64, second.channelId.trans first.channelId, second.now.trans first.now,
    second.muted.trans first.muted⟩

/-- The session when the phase change of an offer is announced. -/
def Session.offering (s : Session) (key : Bytes) (capabilities walletMeta : Option Json) : Session :=
  { s.emitting (.walletJoined capabilities walletMeta) with
    trace := (s.emitting (.walletJoined capabilities walletMeta)).trace ++ [.joinPending key] }

theorem sameOffer_offering (s : Session) (key : Bytes) (capabilities walletMeta : Option Json) :
    SameOffer s (s.offering key capabilities walletMeta) :=
  (sameOffer_emitting s _).trans ⟨still_note _ rfl, rfl, rfl, rfl, rfl, rfl, rfl⟩

theorem hears_offering {s : Session} (key : Bytes) (capabilities walletMeta : Option Json) (timers : Timers) :
    Session.hears { s.offering key capabilities walletMeta with phase := .pendingAccept, timers } =
      (s.muted || s.inputs.throws.tail.head? != some true) := by
  unfold Session.hears Session.offering Session.emitting
  by_cases muted : s.muted = true
  · simp [muted]
  · simp [muted]

/-- The phase change of an offer returns if its listener does. -/
theorem setPhase_offering (s : Session) (key : Bytes) (capabilities walletMeta : Option Json) :
    ∃ t, SameOffer s t ∧ ((s.muted || s.phase == .pendingAccept || s.inputs.throws.tail.head? != some true) = true →
        setPhase .pendingAccept (s.offering key capabilities walletMeta) = .ok () t) ∧
      ((s.muted || s.phase == .pendingAccept || s.inputs.throws.tail.head? != some true) = false →
        setPhase .pendingAccept (s.offering key capabilities walletMeta) = .error "listener" t) := by
  have offered := sameOffer_offering s key capabilities walletMeta
  have phase : (s.offering key capabilities walletMeta).phase = s.phase := by
    unfold Session.offering Session.emitting
    split <;> rfl
  by_cases pending : s.phase = .pendingAccept
  · refine ⟨_, offered, fun _ => ?_, fun silent => ?_⟩
    · simp [setPhase, phase, pending]
    · simp [pending] at silent
  · let u : Session := { s.offering key capabilities walletMeta with
      phase := .pendingAccept
      timers := (s.offering key capabilities walletMeta).timers.stopHeartbeat }
    let event : Event := .phase .pendingAccept (s.offering key capabilities walletMeta).serialize
    have entered : SameOffer s u :=
      offered.trans ⟨⟨rfl, rfl, [], by simp [u], by simp⟩, rfl, rfl, rfl, rfl, rfl, rfl⟩
    have changed : setPhase .pendingAccept (s.offering key capabilities walletMeta) = emit event u := by
      simp [setPhase, phase, pending, u, event]
    have heard : u.hears = (s.muted || s.inputs.throws.tail.head? != some true) :=
      hears_offering key capabilities walletMeta _
    refine ⟨u.emitting event, entered.trans (sameOffer_emitting u event), fun announced => ?_, fun silent => ?_⟩
    · have again : u.hears = true := by
        rw [heard]
        simpa [pending] using announced
      rw [changed, emit_apply, if_pos again]
    · have again : u.hears = false := by
        rw [heard]
        simpa [pending] using silent
      rw [changed, emit_apply, again]
      rfl

/-- An offer that is announced is answered; one that is not stops there. -/
theorem offerWallet_cases (s : Session) (key : Bytes) (known : Bool) (capabilities walletMeta : Option Json) :
    ∃ t, SameOffer s t ∧ after (offerWallet key known capabilities walletMeta) s =
      if s.announces then after (answerOffer known) t else t := by
  by_cases hears : s.hears = true
  · obtain ⟨t, same, returned, thrown⟩ := setPhase_offering s key capabilities walletMeta
    have run : after (offerWallet key known capabilities walletMeta) s =
        after (setPhase .pendingAccept >>= fun _ => answerOffer known) (s.offering key capabilities walletMeta) := by
      unfold offerWallet
      rw [after_bind, emit_apply, if_pos hears]
      rfl
    have announces : s.announces =
        (s.muted || s.phase == .pendingAccept || s.inputs.throws.tail.head? != some true) := by
      unfold Session.hears at hears
      unfold Session.announces
      cases muted : s.muted with
      | true => rfl
      | false =>
        simp only [muted, Bool.false_or] at hears
        simp [hears]
    refine ⟨t, same, ?_⟩
    cases answered : s.announces with
    | true =>
      rw [run, after_bind, returned (announces ▸ answered)]
      rfl
    | false =>
      rw [run, after_bind, thrown (announces ▸ answered)]
      rfl
  · have off : s.hears = false := Bool.eq_false_iff.mpr hears
    simp only [Session.hears, Bool.or_eq_false_iff] at off
    have silent : s.announces = false := by simp [Session.announces, off.1, off.2]
    refine ⟨_, sameOffer_emitting s (.walletJoined capabilities walletMeta), ?_⟩
    unfold offerWallet
    rw [after_bind, emit_apply, if_neg hears, silent]
    rfl

/-- The peer with this key is approved, and an accept frame for it may have been sent. -/
structure Approves (s t : Session) (key : Bytes) : Prop where
  pins : t.pins = s.pins
  approved : t.approvedWalletPubKeyB64 = some (b64urlEncode key)
  frames : ∃ new, t.trace = s.trace ++ new ∧
    ((∃ o ∈ new, o.acceptTarget = some (b64urlEncode key)) ↔ s.acceptsAtOnce (b64urlEncode key) = true) ∧
    ∀ o ∈ new, o.acceptTarget = none ∨ o.acceptTarget = some (b64urlEncode key)

/-- The accept frame is sent, or found too large. -/
theorem sendAccept_approves {s t : Session} {key : Bytes} (pins : t.pins = s.pins)
    (approved : t.approvedWalletPubKeyB64 = some (b64urlEncode key)) (trace : t.trace = s.trace)
    (channelId : t.channelId = s.channelId) (now : t.inputs.now = s.inputs.now) (pubKeyB64 : t.pubKeyB64 = s.pubKeyB64)
    (atOnce : s.options.persistence.any Persistence.async = false) :
    Approves s (after (sendRaw (.accept (b64urlEncode key)) none) t) key := by
  let message : ProtocolMessage := ⟨1, s.channelId, s.inputs.now, s.pubKeyB64, .accept (b64urlEncode key)⟩
  unfold sendRaw
  rw [after_get_bind, channelId, now, pubKeyB64]
  by_cases large : message.wireBytes > maxMessageBytes
  · have still := still_of_moves (report_moves "Message exceeds 64 KB limit") t
    obtain ⟨new, made, quiet⟩ := still.quiet
    have ended : s.acceptsAtOnce (b64urlEncode key) = false := by
      simp only [Session.acceptsAtOnce, Bool.and_eq_false_iff, decide_eq_false_iff_not]
      exact Or.inr (Nat.not_le_of_lt large)
    rw [if_pos large]
    refine ⟨still.pins.trans pins, still.approved.trans approved, new, by rw [made, trace], ?_,
      fun o mem => Or.inl (quiet o mem)⟩
    rw [ended]
    constructor
    · rintro ⟨o, mem, shape⟩
      rw [quiet o mem] at shape
      cases shape
    · intro impossible
      cases impossible
  · have under : s.acceptsAtOnce (b64urlEncode key) = true := by
      simp only [Session.acceptsAtOnce, atOnce, Bool.not_false, Bool.true_and, decide_eq_true_eq]
      exact Nat.le_of_not_lt large
    rw [if_neg large]
    refine ⟨pins, approved, [.sent message none t.journal.disk], congrArg (· ++ _) trace, ?_, ?_⟩
    · simp [Obs.acceptTarget, under, message]
    · simp [Obs.acceptTarget, message]

/-- Acceptance approves the current peer; the frame that names it goes out unless a save
has to be waited for. -/
theorem doAccept_approves {s : Session} {key : Bytes} (peer : s.remotePubKey = some key) (live : s.privKey ≠ none) :
    Approves s (after doAccept s) key := by
  let u : Session := { s with
    paired := true
    approvedCapabilities := s.walletCapabilities
    approvedWalletMeta := s.walletMeta
    approvedWalletPubKeyB64 := s.remotePubKey.map b64urlEncode
    approvedScopeRecorded := true }
  have approved : u.approvedWalletPubKeyB64 = some (b64urlEncode key) := by simp [u, peer]
  have start : after doAccept s = after (persistSnapshot (.accept (b64urlEncode key)) >>= fun waits =>
      if waits then pure () else sendRaw (.accept (b64urlEncode key)) none) u := by
    simp [doAccept, u, peer]
  rw [start, after_bind]
  rcases persistSnapshot_cases (.accept (b64urlEncode key)) u with ⟨configured, run⟩ | ⟨adapter, -, missing, run⟩ |
    ⟨adapter, snapshot, configured, async, -, run⟩ | ⟨adapter, snapshot, configured, sync, -, run⟩
  · rw [run]
    have configured : s.options.persistence = none := configured
    exact sendAccept_approves rfl approved rfl rfl rfl rfl (by simp [configured])
  · have missing : s.privKey = none := by simpa [Session.serialize] using missing
    exact absurd missing live
  · rw [run]
    have configured : s.options.persistence = some adapter := configured
    refine ⟨rfl, approved, [], (List.append_nil _).symm, ?_, by simp⟩
    simp [Session.acceptsAtOnce, configured, async]
  · rw [run]
    have configured : s.options.persistence = some adapter := configured
    exact sendAccept_approves rfl approved rfl rfl rfl rfl (by simp [configured, sync])

/-! ### The join handler -/

section
variable (C : Crypto)

/-- The traffic keys a join without an offer leads to, when the handler gets that far. -/
def rejoinKeys (s : Session) (sender : String) (key : Bytes) : Except String DirectionalSessionKeys := do
  let rootKey ← joinRootKey C s.privKey key s.channelId
  if malformed s.approvedCapabilities then throw "Malformed wallet capabilities"
  deriveDirectionalSessionKeys C rootKey s.channelId
    (sessionContext s sender s.approvedCapabilities s.approvedWalletMeta)

/-- The session already holds the sender's key, derives the keys it already has, and does
not accept the sender. -/
structure Unmoved (s : Session) (approved sender : String) (key : Bytes) : Prop where
  remote : s.remotePubKey = some key
  keys : ∀ keys, rejoinKeys C s sender key = .ok keys →
    s.sendKey = some keys.dappToWalletKey ∧ s.recvKey = some keys.walletToDappKey
  accepts : ∀ keys, rejoinKeys C s sender key = .ok keys → scopeError s s.approvedCapabilities = none →
    s.announces = true → s.options.autoAccept = true →
    b64urlEncode key = approved ∧ s.acceptsAtOnce approved = false

/-- Where nothing was accepted, the session stays pinned if its keys do. -/
theorem pinned_iff_of_still {s u t : Session} {approved sender : String} (trace : u.trace = s.trace)
    (known : u.approvedWalletPubKeyB64 = some approved) (still : Still u t) :
    Pinned s t approved sender ↔ u.pins = s.pins := by
  obtain ⟨new, made, quiet⟩ := still.quiet
  constructor
  · intro pinned
    exact still.pins.symm.trans pinned.pins
  · intro same
    refine ⟨fun o mem target shape => ?_, still.approved.trans known, still.pins.trans same⟩
    rw [made, trace, List.drop_left] at mem
    rw [quiet o mem] at shape
    cases shape

/-- Where the sender was accepted, the session stays pinned only if it was the approved wallet
all along and the frame waits. -/
theorem pinned_iff_of_approves {s u t v : Session} {approved sender : String} {key : Bytes} (trace : u.trace = s.trace)
    (decodes : decodePublicKey sender = some key) (still : SameOffer u v) (accepted : Approves v t key) :
    Pinned s t approved sender ↔
      u.pins = s.pins ∧ b64urlEncode key = approved ∧ u.acceptsAtOnce approved = false := by
  obtain ⟨before, beforeEq, quiet⟩ := still.quiet
  obtain ⟨new, made, sent, only⟩ := accepted.frames
  have tail : t.trace.drop s.trace.length = before ++ new := by
    rw [made, beforeEq, trace, List.append_assoc, List.drop_left]
  have length : key.length = 32 := by
    unfold decodePublicKey at decodes
    split at decodes
    · split_ifs at decodes
      rw [← Option.some.inj decodes]
      assumption
    · cases decodes
  have names : decodePublicKey (b64urlEncode key) = decodePublicKey sender := by
    rw [decodes]
    simp [decodePublicKey, b64urlDecode_encode, length]
  have atOnce : v.acceptsAtOnce (b64urlEncode key) = u.acceptsAtOnce (b64urlEncode key) := by
    simp only [Session.acceptsAtOnce, still.options, still.channelId, still.now, still.pubKeyB64]
  constructor
  · intro pinned
    have same : b64urlEncode key = approved := Option.some.inj (accepted.approved.symm.trans pinned.approved)
    refine ⟨still.pins.symm.trans (accepted.pins.symm.trans pinned.pins), same, ?_⟩
    rw [← same, ← atOnce]
    by_contra now
    obtain ⟨o, mem, shape⟩ := sent.mpr (Bool.eq_true_of_not_eq_false now)
    have mem : o ∈ t.trace.drop s.trace.length := by
      rw [tail]
      exact List.mem_append_right _ mem
    exact (pinned.noAccept o mem _ shape).2 names
  · rintro ⟨pins, same, waits⟩
    refine ⟨fun o mem target shape => ?_, by rw [accepted.approved, same], (accepted.pins.trans still.pins).trans pins⟩
    exfalso
    rw [tail] at mem
    rcases List.mem_append.mp mem with old | fresh
    · rw [quiet o old] at shape
      cases shape
    · rcases only o fresh with none | named
      · rw [none] at shape
        cases shape
      · have now := sent.mp ⟨o, fresh, named⟩
        rw [atOnce, same, waits] at now
        cases now

theorem isSameApprovedWallet_other {s : Session} {approved sender : String}
    (known : s.approvedWalletPubKeyB64 = some approved) (other : sender ≠ approved)
    (capabilities walletMeta : Option Json) :
    isSameApprovedWallet C s sender capabilities walletMeta = .ok false := by
  have differ : s.approvedWalletPubKeyB64 ≠ some sender := by
    rw [known]
    exact fun same => other (Option.some.inj same).symm
  simp [isSameApprovedWallet, differ]
  rfl

/-- A refusal before the keys are assigned has changed the remote key only. -/
theorem pinned_iff_of_refused {s t : Session} {approved sender : String} {key : Bytes} (u : Session)
    (early : ∀ keys, rejoinKeys C s sender key ≠ .ok keys) (trace : u.trace = s.trace)
    (known : u.approvedWalletPubKeyB64 = some approved) (pins : u.pins = (some key, s.sendKey, s.recvKey))
    (still : Still u t) : Pinned s t approved sender ↔ Unmoved C s approved sender key := by
  rw [pinned_iff_of_still trace known still, pins]
  constructor
  · intro unchanged
    simp only [Session.pins, Prod.mk.injEq] at unchanged
    exact ⟨unchanged.1.symm, fun keys made => absurd made (early keys), fun keys made => absurd made (early keys)⟩
  · intro unmoved
    rw [Session.pins, unmoved.remote]

theorem rejoinKeys_malformed {s : Session} {sender : String} {key rootKey : Bytes}
    (root : joinRootKey C s.privKey key s.channelId = .ok rootKey) (bad : malformed s.approvedCapabilities = true) :
    rejoinKeys C s sender key = .error "Malformed wallet capabilities" := by
  simp [rejoinKeys, root, bad, bind, Except.bind, throw, throwThe, MonadExceptOf.throw]

theorem rejoinKeys_wellFormed {s : Session} {sender : String} {key rootKey : Bytes}
    (root : joinRootKey C s.privKey key s.channelId = .ok rootKey) (good : malformed s.approvedCapabilities = false) :
    rejoinKeys C s sender key = deriveDirectionalSessionKeys C rootKey s.channelId
      (sessionContext s sender s.approvedCapabilities s.approvedWalletMeta) := by
  simp [rejoinKeys, root, good, bind, Except.bind]

/-- The session once the join has assigned its keys. -/
def Session.rejoined (s : Session) (key : Bytes) (keys : DirectionalSessionKeys) : Session :=
  { s with
    remotePubKey := some key
    walletCapabilities := s.approvedCapabilities
    walletMeta := s.approvedWalletMeta
    sendKey := some keys.dappToWalletKey
    recvKey := some keys.walletToDappKey }

theorem pins_rejoined_iff {s : Session} {key : Bytes} {keys : DirectionalSessionKeys} :
    (s.rejoined key keys).pins = s.pins ↔ s.remotePubKey = some key ∧
      s.sendKey = some keys.dappToWalletKey ∧ s.recvKey = some keys.walletToDappKey := by
  simp only [Session.rejoined, Session.pins, Prod.mk.injEq]
  exact ⟨fun h => ⟨h.1.symm, h.2.1.symm, h.2.2.symm⟩, fun h => ⟨h.1.symm, h.2.1.symm, h.2.2.symm⟩⟩

/-- With the keys assigned: the scope is checked, and the wallet offered. -/
theorem offered_pinned_iff {s : Session} {approved sender : String} {key : Bytes} {keys : DirectionalSessionKeys}
    (known : s.approvedWalletPubKeyB64 = some approved) (decodes : decodePublicKey sender = some key)
    (live : s.privKey ≠ none) (made : rejoinKeys C s sender key = .ok keys) :
    Pinned s (after (match scopeError s s.approvedCapabilities with
      | some error => refuseJoin "unsupported_capability" error
      | none => offerWallet key false s.approvedCapabilities s.approvedWalletMeta) (s.rejoined key keys)) approved sender ↔
      Unmoved C s approved sender key := by
  have only {other : DirectionalSessionKeys} (same : rejoinKeys C s sender key = .ok other) : other = keys :=
    Except.ok.inj (same.symm.trans made)
  -- nobody is accepted: all depends on the keys
  have still {t : Session} (calm : Still (s.rejoined key keys) t)
      (declined : ¬ (scopeError s s.approvedCapabilities = none ∧ s.announces = true ∧ s.options.autoAccept = true)) :
      Pinned s t approved sender ↔ Unmoved C s approved sender key := by
    rw [pinned_iff_of_still (s := s) (u := s.rejoined key keys) rfl known calm, pins_rejoined_iff]
    constructor
    · rintro ⟨remote, send, recv⟩
      refine ⟨remote, fun other same => only same ▸ ⟨send, recv⟩, fun other _ scope heard accepts => ?_⟩
      exact absurd ⟨scope, heard, accepts⟩ declined
    · intro unmoved
      exact ⟨unmoved.remote, unmoved.keys keys made⟩
  cases scope : scopeError s s.approvedCapabilities with
  | some error =>
    refine still (still_of_moves (refuseJoin_moves _ _) _) ?_
    rw [scope]
    simp
  | none =>
    obtain ⟨t, same, run⟩ := offerWallet_cases (s.rejoined key keys) key false s.approvedCapabilities s.approvedWalletMeta
    have heard : (s.rejoined key keys).announces = s.announces := rfl
    dsimp only
    rw [run, heard]
    cases announces : s.announces with
    | false => exact still same.toStill (by simp [announces])
    | true =>
      simp only [if_true]
      unfold answerOffer
      rw [after_get_bind, same.options]
      cases accepts : s.options.autoAccept with
      | false =>
        have declines : ¬ ((s.rejoined key keys).options.autoAccept = true ∨ (false : Bool) = true) := by
          simp [Session.rejoined, accepts]
        rw [if_neg declines]
        refine still (same.toStill.trans ⟨rfl, rfl, [], (List.append_nil _).symm, by simp⟩) ?_
        simp [accepts]
      | true =>
        have agrees : (s.rejoined key keys).options.autoAccept = true ∨ (false : Bool) = true := by
          simp [Session.rejoined, accepts]
        have peer : t.remotePubKey = some key := congrArg Prod.fst same.pins
        have accepted := doAccept_approves peer (by rw [same.privKey]; exact live)
        have atOnce : (s.rejoined key keys).acceptsAtOnce approved = s.acceptsAtOnce approved := rfl
        rw [if_pos agrees, pinned_iff_of_approves (s := s) (u := s.rejoined key keys) rfl decodes same accepted,
          pins_rejoined_iff, atOnce]
        constructor
        · rintro ⟨⟨remote, send, recv⟩, spelled, waits⟩
          exact ⟨remote, fun other same => only same ▸ ⟨send, recv⟩, fun _ _ _ _ _ => ⟨spelled, waits⟩⟩
        · intro unmoved
          exact ⟨⟨unmoved.remote, unmoved.keys keys made⟩, unmoved.accepts keys made scope announces accepts⟩

/-- From the derived root key on. `s` is the session before the join assigned the key. -/
theorem processJoin_pinned_iff {s : Session} {approved sender : String} {key rootKey : Bytes} (paired : s.paired = true)
    (known : s.approvedWalletPubKeyB64 = some approved) (other : sender ≠ approved)
    (decodes : decodePublicKey sender = some key) (root : joinRootKey C s.privKey key s.channelId = .ok rootKey) :
    Pinned s (after (processJoin C sender key rootKey .null) { s with remotePubKey := some key }) approved sender ↔
      Unmoved C s approved sender key := by
  have live : s.privKey ≠ none := by
    intro missing
    rw [missing] at root
    cases root
  have read : readJoin C { s with remotePubKey := some key } rootKey .null =
      .offered s.approvedCapabilities s.approvedWalletMeta := by simp [readJoin, paired]
  unfold processJoin
  rw [after_get_bind, read]
  cases bad : malformed s.approvedCapabilities with
  | true =>
    have early : ∀ keys, rejoinKeys C s sender key ≠ .ok keys := by
      intro keys made
      rw [rejoinKeys_malformed C root bad] at made
      cases made
    simp only [bad, if_true]
    exact pinned_iff_of_refused C { s with remotePubKey := some key } early rfl known rfl
      (still_of_moves (refuseJoin_moves _ _) _)
  | false =>
    have same := isSameApprovedWallet_other C (s := { s with remotePubKey := some key }) known other
      s.approvedCapabilities s.approvedWalletMeta
    have derived : rejoinKeys C s sender key = _ := rejoinKeys_wellFormed C root bad
    simp only [bad, Bool.false_eq_true, if_false, same, runExcept, after_pure_bind, after_modify_bind]
    change Pinned s (after (runExcept (deriveDirectionalSessionKeys C rootKey s.channelId
      (sessionContext s sender s.approvedCapabilities s.approvedWalletMeta)) >>= _) _) approved sender ↔ _
    rw [← derived]
    cases made : rejoinKeys C s sender key with
    | error e =>
      have early : ∀ keys, rejoinKeys C s sender key ≠ .ok keys := by
        intro keys reached
        rw [made] at reached
        cases reached
      exact pinned_iff_of_refused C { s with
        remotePubKey := some key
        walletCapabilities := s.approvedCapabilities
        walletMeta := s.approvedWalletMeta } early rfl known rfl (Still.refl _)
    | ok keys => exact offered_pinned_iff C known decodes live made

theorem handleJoin_pinned_iff {s : Session} {approved sender : String} (paired : s.paired = true)
    (known : s.approvedWalletPubKeyB64 = some approved) (other : sender ≠ approved) :
    Pinned s (after (handleJoin C sender .null) s) approved sender ↔
      ∀ key, decodePublicKey sender = some key → Unmoved C s approved sender key := by
  have unread {t : Session} (still : Still s t) (unknown : decodePublicKey sender = none) :
      Pinned s t approved sender ↔ ∀ key, decodePublicKey sender = some key → Unmoved C s approved sender key := by
    rw [pinned_iff_of_still rfl known still, unknown]
    simp
  unfold handleJoin
  by_cases empty : sender = ""
  · rw [if_pos empty]
    refine unread (still_of_moves (report_moves _) s) ?_
    rw [empty]
    decide
  · rw [if_neg empty]
    cases decodes : decodePublicKey sender with
    | none =>
      have result := unread (still_of_moves (refuseJoin_moves "protocol_error" "Malformed wallet public key") s) decodes
      rw [decodes] at result
      exact result
    | some key =>
      have one : (∀ other, some key = some other → Unmoved C s approved sender other) ↔ Unmoved C s approved sender key := by
        simp
      rw [one]
      simp only [after_modify_bind, after_get_bind]
      cases root : joinRootKey C s.privKey key s.channelId with
      | error e =>
        have early : ∀ keys, rejoinKeys C s sender key ≠ .ok keys := by
          intro keys reached
          simp [rejoinKeys, root, bind, Except.bind] at reached
        exact pinned_iff_of_refused C { s with remotePubKey := some key } early rfl known rfl (Still.refl _)
      | ok rootKey => exact processJoin_pinned_iff C paired known other decodes root

theorem handleMessage_pinned_iff {s : Session} {msg : ProtocolMessage} {approved : String} (paired : s.paired = true)
    (known : s.approvedWalletPubKeyB64 = some approved) (offer : msg.body = .join .null)
    (other : msg.sender ≠ approved) :
    Pinned s (after (handleMessage C msg) s) approved msg.sender ↔
      msg.v ≠ 1 ∨ msg.sender = "_adapter" ∨ ∀ key, decodePublicKey msg.sender = some key →
        Unmoved C s approved msg.sender key := by
  have untouched {m : M Unit} (made : Keeps (Moves fun _ => False) m) : Pinned s (after m s) approved msg.sender :=
    (pinned_iff_of_still rfl known (still_of_moves made s)).mpr rfl
  unfold handleMessage
  rw [offer]
  by_cases spoofed : msg.sender = "_adapter"
  · rw [if_pos ⟨rfl, spoofed⟩]
    exact iff_of_true (untouched (report_moves _)) (Or.inr (Or.inl spoofed))
  · rw [if_neg (fun both => spoofed both.2)]
    by_cases version : msg.v ≠ 1
    · rw [if_pos version]
      exact iff_of_true (untouched (close_moves _)) (Or.inl version)
    · rw [if_neg version]
      dsimp only
      rw [handleJoin_pinned_iff C paired known other]
      simp only [version, spoofed, false_or]

/-- A join without an offer from another key leaves the session pinned exactly when it is
refused before the first assignment, or when the session had been moved to that key before
and nothing is left to change. -/
theorem null_join_pinned_iff (s : Session) (inputs : Inputs) (msg : ProtocolMessage) (approved : String)
    (paired : s.paired = true) (known : s.approvedWalletPubKeyB64 = some approved) (offer : msg.body = .join .null)
    (other : msg.sender ≠ approved) :
    Pinned s (step C s (inputs, .message msg)) approved msg.sender ↔
      msg.v ≠ 1 ∨ msg.sender = "_adapter" ∨ ∀ key, decodePublicKey msg.sender = some key →
        Unmoved C { s with inputs := inputs } approved msg.sender key := by
  let u : Session := { s with inputs := inputs }
  have result : Pinned u (after (handleMessage C msg) u) approved msg.sender ↔ _ :=
    handleMessage_pinned_iff C paired known offer other
  rw [← result]
  exact ⟨fun pinned => ⟨pinned.noAccept, pinned.approved, pinned.pins⟩,
    fun pinned => ⟨pinned.noAccept, pinned.approved, pinned.pins⟩⟩

end

/-! ### A relay that joins with a key of its own -/

namespace Sample

/-- A session paired with the wallet of the samples and connected to it. -/
def paired : Session :=
  pairingRun .transparent (.new { dappMeta := ⟨"d", "", "", ""⟩, url := some "u", canSetUrl := false }) {} Sample.dappKey "ab" false
    [({}, .connect 0 true), ({}, .message Sample.join), ({}, .message (Sample.ready Sample.walletKey))]

/-- The relay's key is neither side's. -/
def rejoin : ProtocolMessage := ⟨1, "ab", 0, b64urlEncode (List.replicate 32 3), .join .null⟩

end Sample

theorem sample_facts :
    Sample.paired.phase = .connected ∧ Sample.paired.paired = true ∧
    Sample.paired.approvedWalletPubKeyB64 = some (b64urlEncode Sample.walletKey) ∧
    Sample.rejoin.sender ≠ b64urlEncode Sample.walletKey ∧
    (step .transparent Sample.paired ({}, .message Sample.rejoin)).approvedWalletPubKeyB64 =
      some Sample.rejoin.sender := by
  decide +kernel

theorem null_join_pinned_iff_sample :
    Sample.paired.phase = .connected ∧
    (Pinned Sample.paired (step .transparent Sample.paired ({}, .message Sample.rejoin)) (b64urlEncode Sample.walletKey)
      Sample.rejoin.sender ↔
      Sample.rejoin.v ≠ 1 ∨ Sample.rejoin.sender = "_adapter" ∨
        ∀ key, decodePublicKey Sample.rejoin.sender = some key →
          Unmoved .transparent { Sample.paired with inputs := {} } (b64urlEncode Sample.walletKey)
            Sample.rejoin.sender key) := by
  obtain ⟨connected, paired, known, other, -⟩ := sample_facts
  exact ⟨connected, null_join_pinned_iff .transparent Sample.paired {} Sample.rejoin _ paired known rfl other⟩

/-- The relay joins without an offer and becomes the approved wallet. -/
theorem null_join_approves_relay :
    Sample.paired.paired = true ∧ Sample.paired.approvedWalletPubKeyB64 = some (b64urlEncode Sample.walletKey) ∧
    Sample.rejoin.body = .join .null ∧ Sample.rejoin.sender ≠ b64urlEncode Sample.walletKey ∧
    (step .transparent Sample.paired ({}, .message Sample.rejoin)).approvedWalletPubKeyB64 = some Sample.rejoin.sender ∧
    ¬ Pinned Sample.paired (step .transparent Sample.paired ({}, .message Sample.rejoin)) (b64urlEncode Sample.walletKey)
      Sample.rejoin.sender := by
  obtain ⟨-, paired, known, differ, moved⟩ := sample_facts
  refine ⟨paired, known, rfl, differ, moved, fun pinned => ?_⟩
  exact differ (Option.some.inj (moved.symm.trans pinned.approved))

end WalletPair.Sdk.DApp
