import WalletPair.Sdk.PairingUri
import WalletPair.Sdk.DApp.RefusedJoin

/-! A dApp session between showing its pairing URI and the first join: what it holds for
the wallet to come, and what a join that reaches pending approval leaves in it. -/

namespace WalletPair.Sdk.DApp
open WalletPair.Lib WalletPair.Lib.Program

/-! ### Waiting for a wallet -/

/-- What the session shows to wallets, with no wallet there yet. -/
structure Hosting (C : Crypto) (dappKey : Bytes) (channelId uri code : String) (s : Session) : Prop where
  named : ∃ relay url icon methods chains, uri = buildPairingUri ⟨channelId,
    b64urlEncode (C.getPublicKey dappKey), relay, s.dappMeta.name, url, icon, methods, chains⟩
  privKey : s.privKey = some dappKey
  pubKeyB64 : s.pubKeyB64 = b64urlEncode (C.getPublicKey dappKey)
  channelId : s.channelId = channelId
  pairingUri : s.pairingUri = uri
  sessionFingerprint : s.sessionFingerprint = code
  remotePubKey : s.remotePubKey = none
  paired : s.paired = false

variable {C : Crypto} {dappKey : Bytes} {channelId uri code : String} {s : Session}

theorem hosting_of_moves {α : Type} {m : M α} {ok : Kind → Prop} (peer : ¬ ok .peer) (announce : ¬ ok .announce)
    (made : Keeps (Moves ok) m) : Keeps (Preserve (Hosting C dappKey channelId uri code)) m := by
  refine preserve_of_moves made fun s t k allowed move hosting => ?_
  cases move with
  | peer u =>
    rcases allowed with quiet | allowed
    · cases quiet
    · exact absurd allowed peer
  | announce uri code =>
    rcases allowed with quiet | allowed
    · cases quiet
    · exact absurd allowed announce
  | _ => exact { hosting with }

/-- A session that has created its pairing hosts it. -/
theorem hosting_of_created {deferTransport : Bool} {t : Session}
    (created : createPairing C dappKey channelId deferTransport s = .ok () t) :
    computeSessionFingerprint C channelId (b64urlEncode (C.getPublicKey dappKey)) = .ok t.sessionFingerprint ∧
      Hosting C dappKey channelId t.pairingUri t.sessionFingerprint t := by
  unfold createPairing resetPairing announcePairing at created
  rw [modify_bind_apply, get_bind_apply] at created
  cases linked : nonEmpty s.url with
  | none =>
    simp only [linked] at created
    cases created
  | some relayUrl =>
    simp only [linked] at created
    rw [modify_bind_apply] at created
    obtain ⟨code, shown, created⟩ := ok_of_runExcept_bind created
    rw [modify_bind_apply] at created
    have emits (event : Event) (plain : (Obs.emitted event).kind.quiet = true) :
        Keeps (Moves fun k => k = .phase .waiting) (emit event) := emit_moves _ (Or.inl plain)
    have opens : Keeps (Moves fun k => k = .phase .waiting)
        (if deferTransport then setPhase .waiting else connectTransport) :=
      .ite (setPhase_moves _ (Or.inr rfl)) connectTransport_moves
    let announces (uri : String) : M Unit := do
      emit (.pairingUri uri)
      emit (.sessionFingerprint code)
      if deferTransport then setPhase .waiting else connectTransport
    have rest (uri : String) : Keeps (Moves fun k => k = .phase .waiting) (announces uri) :=
      .bind (emits _ rfl) fun _ => .bind (emits _ rfl) fun _ => opens
    have finish {u : Session} {uri : String} (start : Hosting C dappKey channelId uri code u)
        (run : announces uri u = .ok () t) : Hosting C dappKey channelId uri code t :=
      after_of_ok run ▸ hosting_of_moves nofun nofun (rest uri) u start
    have hosting := finish (by exact ⟨⟨relayUrl, _, _, _, _, rfl⟩, rfl, rfl, rfl, rfl, rfl, rfl, rfl⟩) created
    rw [hosting.sessionFingerprint, hosting.pairingUri]
    exact ⟨shown, hosting⟩

/-- The labels of one session object and one pairing, before the first join. -/
def BeforeJoin : Label → Prop
  | .createPairing _ _ _ => False
  | .restore _ => False
  | .destroy => False
  | .crash => False
  | .message msg => ∀ sealedJoin, msg.body ≠ .join sealedJoin
  | _ => True

theorem acceptWallet_hosting : Keeps (Preserve (Hosting C dappKey channelId uri code)) acceptWallet := by
  intro s hosting
  have idle : after acceptWallet s = s := by
    unfold acceptWallet
    rw [after_get_bind, if_pos (Or.inr hosting.remotePubKey)]
    rfl
  rw [idle]
  exact hosting

theorem settleCall_hosting (ticket : Nat) (resolves : Bool) :
    Triple (Hosting C dappKey channelId uri code) (settleCall C ticket resolves)
      (fun _ => Hosting C dappKey channelId uri code) (Hosting C dappKey channelId uri code) := by
  have removed {s : Session} (hosting : Hosting C dappKey channelId uri code s) :
      Hosting C dappKey channelId uri code { s with journal := s.journal.remove ticket } := { hosting with }
  refine settleCall_rule C (fun _ held => held) (fun _ s call hosting _ _ => ?_) fun _ s call hosting _ => ?_
  · have own : call.task.kind ≠ .peer ∧ call.task.kind ≠ .announce := by
      cases call.task <;> exact ⟨nofun, nofun⟩
    have made : Keeps (Moves fun k => k ≠ .peer ∧ k ≠ .announce) (resume C call.task) :=
      resume_moves C _ own (fun _ => ⟨⟨nofun, nofun⟩, nofun, nofun⟩) fun _ _ => ⟨nofun, nofun⟩
    exact (Triple.preserve (hosting_of_moves (fun h => h.1 rfl) (fun h => h.2 rfl) made)).start (removed hosting)
  · have made : Keeps (Moves fun k => k ≠ .peer ∧ k ≠ .announce) (fail "save" call.task) :=
      fail_task_moves "save" call.task fun _ => ⟨nofun, nofun⟩
    exact (Triple.preserve (hosting_of_moves (fun h => h.1 rfl) (fun h => h.2 rfl) made)).start (removed hosting)

theorem step_hosting {l : Inputs × Label} (waits : BeforeJoin l.2) (hosting : Hosting C dappKey channelId uri code s) :
    Hosting C dappKey channelId uri code (step C s l) := by
  obtain ⟨inputs, label⟩ := l
  have begun : Hosting C dappKey channelId uri code { s with inputs := inputs } := { hosting with }
  have moved (moving : label.moving = true) (peer : Kind.peer ∉ label.kinds) (announce : Kind.announce ∉ label.kinds) :
      Hosting C dappKey channelId uri code (step C s (inputs, label)) :=
    hosting_of_moves peer announce (act_moves C label moving) _ begun
  cases label with
  | createPairing privateKey channelId deferTransport => exact waits.elim
  | restore snapshot => exact waits.elim
  | destroy => exact waits.elim
  | crash => exact waits.elim
  | acceptWallet => exact acceptWallet_hosting _ begun
  | flush ticket => exact { hosting with }
  | settle ticket resolves => exact (settleCall_hosting ticket resolves).final begun
  | message msg =>
    obtain ⟨v, ch, ts, sender, body⟩ := msg
    cases body with
    | join sealedJoin => exact absurd rfl (waits sealedJoin)
    | _ => exact moved rfl (by simp [Label.kinds, messageKinds]) (by simp [Label.kinds, messageKinds])
  | connectTransport => exact moved rfl (by simp [Label.kinds]) (by simp [Label.kinds])
  | rejectWallet => exact moved rfl (by simp [Label.kinds]) (by simp [Label.kinds])
  | request method params => exact moved rfl (by simp [Label.kinds]) (by simp [Label.kinds])
  | ping => exact moved rfl (by simp [Label.kinds]) (by simp [Label.kinds])
  | close reason => exact moved rfl (by simp [Label.kinds]) (by simp [Label.kinds])
  | reconnect => exact moved rfl (by simp [Label.kinds]) (by simp [Label.kinds])
  | transportClose => exact moved rfl (by simp [Label.kinds]) (by simp [Label.kinds])
  | fire name => exact moved rfl (by simp [Label.kinds]) (by simp [Label.kinds])
  | connect ticket opened => exact moved rfl (by simp [Label.kinds]) (by simp [Label.kinds])

/-! ### A join that reaches pending approval -/

/-- What the session holds for its wallet, and what it is known by. -/
structure Terms where
  sendKey : Option Bytes
  recvKey : Option Bytes
  walletCapabilities : Option Json
  walletMeta : Option Json
  channelId : String
  pubKeyB64 : String
  dappName : String
  sessionFingerprint : String

def Session.terms (s : Session) : Terms :=
  ⟨s.sendKey, s.recvKey, s.walletCapabilities, s.walletMeta, s.channelId, s.pubKeyB64, s.dappMeta.name,
    s.sessionFingerprint⟩

theorem terms_of_moves {α : Type} {m : M α} {terms : Terms} {ok : Kind → Prop}
    (none : ¬ ok .peer ∧ ¬ ok .keys ∧ ¬ ok .announce) (made : Keeps (Moves ok) m) :
    Keeps (Preserve fun s => s.terms = terms) m := by
  refine preserve_of_moves made fun s t k allowed move same => ?_
  have other : k ≠ .peer ∧ k ≠ .keys ∧ k ≠ .announce := by
    refine ⟨?_, ?_, ?_⟩ <;> rintro rfl <;> rcases allowed with quiet | allowed
    · cases quiet
    · exact none.1 allowed
    · cases quiet
    · exact none.2.1 allowed
    · cases quiet
    · exact none.2.2 allowed
  cases move with
  | peer u => exact absurd rfl other.1
  | rekey sendKey recvKey => exact absurd rfl other.2.1
  | announce uri code => exact absurd rfl other.2.2
  | _ => exact same

/-- Accepting records the offer as it stands. -/
theorem doAccept_terms {terms : Terms} : Keeps (Preserve fun s => s.terms = terms) doAccept := by
  have saves (target : String) : Keeps (Moves fun k => k = .saving) (persistSnapshot (.accept target)) :=
    persistSnapshot_moves _ (Or.inr rfl)
  have sends (target : String) : Keeps (Moves fun k => k = .offer) (sendRaw (.accept target) none) :=
    sendRaw_moves _ (Or.inr rfl)
  have none : ¬ Kind.peer = .offer ∧ ¬ Kind.keys = .offer ∧ ¬ Kind.announce = .offer := ⟨nofun, nofun, nofun⟩
  exact .bind (.modify fun _ same => same) fun _ => .bind .get fun _ =>
    .bind (terms_of_moves ⟨nofun, nofun, nofun⟩ (saves _)) fun _ => .ite (.pure _) (terms_of_moves none (sends _))

theorem offerWallet_terms {terms : Terms} (key : Bytes) (known : Bool) (capabilities walletMeta : Option Json) :
    Keeps (Preserve fun s => s.terms = terms) (offerWallet key known capabilities walletMeta) := by
  have emits : Keeps (Moves fun k => k = .offer) (emit (.walletJoined capabilities walletMeta)) :=
    emit_moves _ (Or.inr rfl)
  have notes : Keeps (Moves fun k => k = .offer) (record (.joinPending key)) := record_moves (Or.inr rfl)
  have phased : Keeps (Moves fun k => k = .phase .pendingAccept) (setPhase .pendingAccept) :=
    setPhase_moves _ (Or.inr rfl)
  have none : ¬ Kind.peer = .offer ∧ ¬ Kind.keys = .offer ∧ ¬ Kind.announce = .offer := ⟨nofun, nofun, nofun⟩
  exact .bind (terms_of_moves none emits) fun _ => .bind (terms_of_moves none notes) fun _ =>
    .bind (terms_of_moves ⟨nofun, nofun, nofun⟩ phased) fun _ => .bind .get fun _ =>
    .ite doAccept_terms (.modify fun _ same => same)

theorem refused_of_trace {s t : Session} (same : t.trace = s.trace) : Refused s t := by
  intro o member
  rw [same, List.drop_length] at member
  cases member

/-- Reports, refusals and closing bring no wallet to pending approval. -/
theorem refused_of_moves {α : Type} {m : M α} (made : Keeps (Moves fun _ => False) m) : Keeps Refused m := by
  intro s
  have added : Keeps (fun s t : Session => Run.Adds (fun o => o.offers = false) s.trace t.trace) m := by
    intro s
    have chain := made s
    generalize after m s = last at chain ⊢
    induction chain with
    | refl => exact Run.Adds.refl _
    | tail _ move ih =>
      obtain ⟨k, quiet | impossible, move⟩ := move
      · apply ih.trans
        cases move with
        | note o =>
          cases o with
          | joinPending key => cases quiet
          | _ => exact Run.Adds.single rfl
        | _ => exact Run.Adds.refl _
      · exact impossible.elim
  obtain ⟨new, grown, quiet⟩ := added s
  intro o member
  rw [grown, List.drop_left] at member
  exact quiet o member

theorem refuseJoin_refused {s u : Session} {reason error : String} (same : u.trace = s.trace) :
    Refused s (after (refuseJoin reason error) u) := by
  have refused := refused_of_moves (refuseJoin_moves reason error) u
  unfold Refused at refused ⊢
  rwa [same] at refused

section
variable (C)

/-- The offer that a join brought to pending approval, and the keys that follow from it. -/
structure Offered (s t : Session) (sender : String) (sealedJoin : SealedJoin) where
  key : Bytes
  rootKey : Bytes
  capabilities : Option Json
  walletMeta : Option Json
  keys : DirectionalSessionKeys
  decoded : decodePublicKey sender = some key
  rooted : joinRootKey C s.privKey key s.channelId = .ok rootKey
  offer : readJoin C s rootKey sealedJoin = .offered capabilities walletMeta
  derived : deriveDirectionalSessionKeys C rootKey s.channelId (sessionContext s sender capabilities walletMeta) = .ok keys
  terms : t.terms = ⟨some keys.dappToWalletKey, some keys.walletToDappKey, capabilities, walletMeta, s.channelId,
    s.pubKeyB64, s.dappMeta.name, s.sessionFingerprint⟩

/-- A join whose offer does not pass the first checks brings no wallet to pending approval. -/
theorem processJoin_refused {sender : String} {key rootKey : Bytes} {sealedJoin : SealedJoin}
    (rooted : joinRootKey C s.privKey key s.channelId = .ok rootKey)
    (unread : readOffer C s sender key sealedJoin = none) :
    Refused s (after (processJoin C sender key rootKey sealedJoin) { s with remotePubKey := some key }) := by
  have reads : readJoin C { s with remotePubKey := some key } rootKey sealedJoin = readJoin C s rootKey sealedJoin := rfl
  unfold processJoin
  rw [after_get_bind, reads]
  cases offer : readJoin C s rootKey sealedJoin with
  | refused reason error => exact refuseJoin_refused rfl
  | offered capabilities walletMeta =>
    have known : isSameApprovedWallet C { s with remotePubKey := some key } sender capabilities walletMeta =
      isSameApprovedWallet C s sender capabilities walletMeta := rfl
    dsimp only
    cases bad : malformed capabilities with
    | true => exact refuseJoin_refused rfl
    | false =>
      simp only [Bool.false_eq_true, if_false, known]
      cases same : isSameApprovedWallet C s sender capabilities walletMeta with
      | error e => exact refused_of_trace rfl
      | ok known => simp [readOffer, rooted, offer, bad, same] at unread

theorem processJoin_offered {sender : String} {key rootKey : Bytes} {sealedJoin : SealedJoin}
    (decoded : decodePublicKey sender = some key) (rooted : joinRootKey C s.privKey key s.channelId = .ok rootKey)
    (pending : ¬ Refused s (after (processJoin C sender key rootKey sealedJoin) { s with remotePubKey := some key })) :
    Nonempty (Offered C s (after (processJoin C sender key rootKey sealedJoin) { s with remotePubKey := some key })
      sender sealedJoin) := by
  cases read : readOffer C s sender key sealedJoin with
  | none => exact absurd (processJoin_refused C rooted read) pending
  | some offer =>
    obtain ⟨rootKey', capabilities, walletMeta⟩ := offer
    obtain ⟨rooted', offer, -, -⟩ := readOffer_some C read
    have same : rootKey' = rootKey := Except.ok.inj (rooted'.symm.trans rooted)
    subst same
    obtain ⟨known, run⟩ := processJoin_read C read
    rw [run] at pending ⊢
    cases derived : deriveDirectionalSessionKeys C rootKey' s.channelId
        (sessionContext s sender capabilities walletMeta) with
    | error e =>
      rw [derived] at pending
      exact (pending (refused_of_trace rfl)).elim
    | ok keys =>
      rw [derived] at pending
      cases scope : scopeError s capabilities with
      | some error =>
        rw [scope] at pending
        exact (pending (refuseJoin_refused rfl)).elim
      | none =>
        exact ⟨⟨key, rootKey', capabilities, walletMeta, keys, decoded, rooted, offer, derived,
          offerWallet_terms key known capabilities walletMeta _ rfl⟩⟩

theorem message_offered {inputs : Inputs} {msg : ProtocolMessage} {sealedJoin : SealedJoin}
    (join : msg.body = .join sealedJoin) (pending : ¬ Refused s (step C s (inputs, .message msg))) :
    Nonempty (Offered C s (step C s (inputs, .message msg)) msg.sender sealedJoin) := by
  let u : Session := { s with inputs := inputs }
  change ¬ Refused u (after (handleMessage C msg) u) at pending
  change Nonempty (Offered C s (after (handleMessage C msg) u) msg.sender sealedJoin)
  unfold handleMessage at pending ⊢
  rw [join] at pending ⊢
  by_cases spoofed : msg.sender = "_adapter"
  · rw [if_pos ⟨rfl, spoofed⟩] at pending
    exact absurd (refused_of_moves (report_moves _) u) pending
  rw [if_neg (fun both => spoofed both.2)] at pending ⊢
  by_cases version : msg.v ≠ 1
  · rw [if_pos version] at pending
    exact absurd (refused_of_moves (close_moves _) u) pending
  rw [if_neg version] at pending ⊢
  dsimp only at pending ⊢
  unfold handleJoin at pending ⊢
  by_cases empty : msg.sender = ""
  · rw [if_pos empty] at pending
    exact absurd (refused_of_moves (report_moves _) u) pending
  rw [if_neg empty] at pending ⊢
  cases decodes : decodePublicKey msg.sender with
  | none =>
    rw [decodes] at pending
    exact absurd (refused_of_moves (refuseJoin_moves _ _) u) pending
  | some key =>
    rw [decodes] at pending
    simp only [after_modify_bind, after_get_bind] at pending ⊢
    cases rooted : joinRootKey C s.privKey key s.channelId with
    | error e =>
      have thrown : joinRootKey C u.privKey key u.channelId = .error e := rooted
      rw [thrown] at pending
      exact (pending (refused_of_trace rfl)).elim
    | ok rootKey =>
      have same : joinRootKey C u.privKey key u.channelId = .ok rootKey := rooted
      rw [same] at pending
      obtain ⟨offered⟩ := processJoin_offered C (s := u) decodes same pending
      exact ⟨⟨offered.key, offered.rootKey, offered.capabilities, offered.walletMeta, offered.keys, offered.decoded,
        offered.rooted, offered.offer, offered.derived, offered.terms⟩⟩

end

end WalletPair.Sdk.DApp
