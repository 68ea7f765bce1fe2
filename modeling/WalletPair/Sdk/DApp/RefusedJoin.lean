import WalletPair.Sdk.DApp.PeerPinning

/-! What a join that the dApp refuses leaves behind. The handler assigns the sender's key,
its offer and the derived keys between its checks, so a refusal is harmless only when what
was assigned up to it was in place before. -/

namespace WalletPair.Sdk.DApp
open WalletPair.Lib WalletPair.Lib.Program

/-- What ties the session to its wallet: the keys, what the wallet offered, the counters
and the approved wallet. -/
structure Bond where
  remotePubKey : Option Bytes
  sendKey : Option Bytes
  recvKey : Option Bytes
  walletCapabilities : Option Json
  walletMeta : Option Json
  sendSeq : Nat
  recvSeq : Int
  approvedCapabilities : Option Json
  approvedWalletMeta : Option Json
  approvedWalletPubKeyB64 : Option String
  approvedScopeRecorded : Bool
  paired : Bool

def Session.bond (s : Session) : Bond where
  remotePubKey := s.remotePubKey
  sendKey := s.sendKey
  recvKey := s.recvKey
  walletCapabilities := s.walletCapabilities
  walletMeta := s.walletMeta
  sendSeq := s.sendSeq
  recvSeq := s.recvSeq
  approvedCapabilities := s.approvedCapabilities
  approvedWalletMeta := s.approvedWalletMeta
  approvedWalletPubKeyB64 := s.approvedWalletPubKeyB64
  approvedScopeRecorded := s.approvedScopeRecorded
  paired := s.paired

theorem remotePubKey_of_bond {s t : Session} (same : t.bond = s.bond) : t.remotePubKey = s.remotePubKey :=
  congrArg Bond.remotePubKey same

/-- The join handler goes on to acceptance or to pending approval. -/
def Obs.offers : Obs → Bool
  | .joinPending _ => true
  | _ => false

/-- The step brought no wallet to acceptance or to pending approval. -/
def Refused (s t : Session) : Prop := ∀ o ∈ t.trace.drop s.trace.length, o.offers = false

instance (s t : Session) : Decidable (Refused s t) :=
  inferInstanceAs (Decidable (∀ o ∈ t.trace.drop s.trace.length, o.offers = false))

/-! ### Moves that leave the bond alone -/

/-- The bond is the same, and the record only grew. -/
structure Bound (s t : Session) : Prop where
  bond : t.bond = s.bond
  grows : s.trace <+: t.trace

theorem Bound.refl (s : Session) : Bound s s := ⟨rfl, List.prefix_rfl⟩

theorem Bound.trans {s t u : Session} (first : Bound s t) (second : Bound t u) : Bound s u :=
  ⟨second.bond.trans first.bond, first.grows.trans second.grows⟩

theorem bound_of_moves {α : Type} {m : M α} (made : Keeps (Moves fun _ => False) m) : Keeps Bound m := by
  intro s
  have chain := made s
  generalize after m s = last at chain ⊢
  induction chain with
  | refl => exact Bound.refl s
  | tail _ move ih =>
    obtain ⟨k, quiet | impossible, move⟩ := move
    · apply ih.trans
      cases move with
      | note o => exact ⟨rfl, List.prefix_append _ _⟩
      | peer u => cases quiet
      | rekey sendKey recvKey => cases quiet
      | reserve => cases quiet
      | receive seq => cases quiet
      | _ => exact ⟨rfl, List.prefix_rfl⟩
    · exact impossible.elim

theorem bound_emitting (s : Session) (event : Event) : Bound s (s.emitting event) := by
  unfold Session.emitting
  split
  · exact Bound.refl s
  · exact ⟨rfl, List.prefix_append _ _⟩

theorem not_refused_of_pending {s u t : Session} {key : Bytes} (before : s.trace <+: u.trace)
    (offered : u.trace ++ [.joinPending key] <+: t.trace) : ¬ Refused s t :=
  fun refused => Bool.noConfusion (refused _ (Run.mem_drop_of_prefix before offered))

/-- An offer that reaches nobody: its first listener throws. -/
theorem offerWallet_bound {s : Session} {key : Bytes} {known : Bool} {capabilities walletMeta : Option Json}
    (refused : Refused s (after (offerWallet key known capabilities walletMeta) s)) :
    Bound s (after (offerWallet key known capabilities walletMeta) s) := by
  have emitted := bound_emitting s (.walletJoined capabilities walletMeta)
  by_cases hears : s.hears = true
  · have run : after (offerWallet key known capabilities walletMeta) s =
        after (setPhase .pendingAccept >>= fun _ => answerOffer known) (s.offering key capabilities walletMeta) := by
      unfold offerWallet
      rw [after_bind, emit_apply, if_pos hears]
      rfl
    have rest : Keeps (Moves fun _ => True) (setPhase .pendingAccept >>= fun _ => answerOffer known) :=
      .bind (setPhase_moves _ (Or.inr trivial)) fun _ => .bind .get fun _ =>
        .ite (doAccept_moves trivial trivial trivial) (moves_adjusting fun _ => rfl)
    have offered : (s.emitting (.walletJoined capabilities walletMeta)).trace ++ [.joinPending key] <+: _ :=
      grows_of_moves rest (s.offering key capabilities walletMeta)
    rw [run] at refused
    exact absurd refused (not_refused_of_pending emitted.grows offered)
  · have run : after (offerWallet key known capabilities walletMeta) s =
        s.emitting (.walletJoined capabilities walletMeta) := by
      unfold offerWallet
      rw [after_bind, emit_apply, if_neg hears]
    rw [run]
    exact emitted

/-! ### The join handler -/

section
variable (C : Crypto)

/-- The offer of a join once it has passed the checks made before it is assigned, with the
root key it was read under. -/
def readOffer (s : Session) (sender : String) (key : Bytes) (sealedJoin : SealedJoin) :
    Option (Bytes × Option Json × Option Json) :=
  match joinRootKey C s.privKey key s.channelId with
  | .error _ => none
  | .ok rootKey =>
    match readJoin C s rootKey sealedJoin with
    | .refused _ _ => none
    | .offered capabilities walletMeta =>
      if malformed capabilities then none
      else
        match isSameApprovedWallet C s sender capabilities walletMeta with
        | .error _ => none
        | .ok _ => some (rootKey, capabilities, walletMeta)

theorem readOffer_some {s : Session} {sender : String} {key rootKey : Bytes} {sealedJoin : SealedJoin}
    {capabilities walletMeta : Option Json}
    (read : readOffer C s sender key sealedJoin = some (rootKey, capabilities, walletMeta)) :
    joinRootKey C s.privKey key s.channelId = .ok rootKey ∧
      readJoin C s rootKey sealedJoin = .offered capabilities walletMeta ∧ malformed capabilities = false ∧
      ∃ known, isSameApprovedWallet C s sender capabilities walletMeta = .ok known := by
  unfold readOffer at read
  cases root : joinRootKey C s.privKey key s.channelId with
  | error e => simp [root] at read
  | ok rootKey' =>
  cases offer : readJoin C s rootKey' sealedJoin with
  | refused reason error => simp [root, offer] at read
  | offered capabilities' walletMeta' =>
  cases bad : malformed capabilities' with
  | true => simp [root, offer, bad] at read
  | false =>
  cases same : isSameApprovedWallet C s sender capabilities' walletMeta' with
  | error e => simp [root, offer, bad, same] at read
  | ok known =>
    simp only [root, offer, bad, same, Bool.false_eq_true, if_false, Option.some.injEq, Prod.mk.injEq] at read
    obtain ⟨rfl, rfl, rfl⟩ := read
    exact ⟨rfl, offer, bad, known, same⟩

/-- The session already holds the key of the sender, and what the join offers, with the
keys that follow from it, wherever the handler gets that far. -/
structure InPlace (s : Session) (sender : String) (key : Bytes) (sealedJoin : SealedJoin) : Prop where
  remote : s.remotePubKey = some key
  offer : ∀ rootKey capabilities walletMeta,
    readOffer C s sender key sealedJoin = some (rootKey, capabilities, walletMeta) →
      s.walletCapabilities = capabilities ∧ s.walletMeta = walletMeta
  keys : ∀ rootKey capabilities walletMeta keys,
    readOffer C s sender key sealedJoin = some (rootKey, capabilities, walletMeta) →
    deriveDirectionalSessionKeys C rootKey s.channelId (sessionContext s sender capabilities walletMeta) = .ok keys →
      s.sendKey = some keys.dappToWalletKey ∧ s.recvKey = some keys.walletToDappKey

/-- A join refused before its offer is assigned has changed the remote key only. -/
theorem bond_iff_of_unread {s t : Session} {sender : String} {key : Bytes} {sealedJoin : SealedJoin}
    (unread : readOffer C s sender key sealedJoin = none) (bound : Bound { s with remotePubKey := some key } t) :
    t.bond = s.bond ↔ InPlace C s sender key sealedJoin := by
  rw [bound.bond]
  constructor
  · intro same
    have remote : some key = s.remotePubKey := congrArg Bond.remotePubKey same
    refine ⟨remote.symm, fun rootKey capabilities walletMeta read => ?_, fun rootKey capabilities walletMeta keys read => ?_⟩
    · rw [unread] at read
      cases read
    · rw [unread] at read
      cases read
  · intro inPlace
    rw [← inPlace.remote]

/-- A join refused after its offer was assigned, with or without the keys. -/
theorem bond_iff_of_read {s t : Session} {sender : String} {key rootKey : Bytes} {sealedJoin : SealedJoin}
    {capabilities walletMeta : Option Json} {sendKey recvKey : Option Bytes}
    (read : readOffer C s sender key sealedJoin = some (rootKey, capabilities, walletMeta))
    (bound : Bound { s with remotePubKey := some key, walletCapabilities := capabilities, walletMeta := walletMeta,
                            sendKey := sendKey, recvKey := recvKey } t)
    (keys : s.sendKey = sendKey ∧ s.recvKey = recvKey ↔ ∀ keys, deriveDirectionalSessionKeys C rootKey s.channelId
      (sessionContext s sender capabilities walletMeta) = .ok keys →
        s.sendKey = some keys.dappToWalletKey ∧ s.recvKey = some keys.walletToDappKey) :
    t.bond = s.bond ↔ InPlace C s sender key sealedJoin := by
  rw [bound.bond]
  constructor
  · intro same
    have remote : some key = s.remotePubKey := congrArg Bond.remotePubKey same
    have offered : capabilities = s.walletCapabilities := congrArg Bond.walletCapabilities same
    have described : walletMeta = s.walletMeta := congrArg Bond.walletMeta same
    have send : sendKey = s.sendKey := congrArg Bond.sendKey same
    have recv : recvKey = s.recvKey := congrArg Bond.recvKey same
    refine ⟨remote.symm, fun root cap info again => ?_, fun root cap info made again derived => ?_⟩
    · rw [read] at again
      cases again
      exact ⟨offered.symm, described.symm⟩
    · rw [read] at again
      cases again
      exact keys.mp ⟨send.symm, recv.symm⟩ made derived
  · intro inPlace
    obtain ⟨offered, described⟩ := inPlace.offer _ _ _ read
    obtain ⟨send, recv⟩ := keys.mpr fun made derived => inPlace.keys _ _ _ made read derived
    rw [← inPlace.remote, ← offered, ← described, ← send, ← recv]

/-- A join whose offer does not pass the first checks is refused or throws. -/
theorem processJoin_unread {s : Session} {sender : String} {key rootKey : Bytes} {sealedJoin : SealedJoin}
    (root : joinRootKey C s.privKey key s.channelId = .ok rootKey)
    (unread : readOffer C s sender key sealedJoin = none) :
    Bound { s with remotePubKey := some key }
      (after (processJoin C sender key rootKey sealedJoin) { s with remotePubKey := some key }) := by
  have reads : readJoin C { s with remotePubKey := some key } rootKey sealedJoin = readJoin C s rootKey sealedJoin := rfl
  unfold processJoin
  rw [after_get_bind, reads]
  cases offer : readJoin C s rootKey sealedJoin with
  | refused reason error => exact bound_of_moves (refuseJoin_moves _ _) _
  | offered capabilities walletMeta =>
    have known : isSameApprovedWallet C { s with remotePubKey := some key } sender capabilities walletMeta =
      isSameApprovedWallet C s sender capabilities walletMeta := rfl
    dsimp only
    cases bad : malformed capabilities with
    | true => exact bound_of_moves (refuseJoin_moves _ _) _
    | false =>
      simp only [Bool.false_eq_true, if_false, known]
      cases same : isSameApprovedWallet C s sender capabilities walletMeta with
      | error e => exact Bound.refl _
      | ok known => simp [readOffer, root, offer, bad, same] at unread

/-- A join whose offer passes them: the offer is assigned, the keys are derived and
assigned, and the scope is checked. -/
theorem processJoin_read {s : Session} {sender : String} {key rootKey : Bytes} {sealedJoin : SealedJoin}
    {capabilities walletMeta : Option Json}
    (read : readOffer C s sender key sealedJoin = some (rootKey, capabilities, walletMeta)) :
    ∃ known, after (processJoin C sender key rootKey sealedJoin) { s with remotePubKey := some key } =
      match deriveDirectionalSessionKeys C rootKey s.channelId (sessionContext s sender capabilities walletMeta) with
      | .error _ => { s with
          remotePubKey := some key, walletCapabilities := capabilities, walletMeta := walletMeta }
      | .ok keys =>
        after (match scopeError s capabilities with
          | some error => refuseJoin "unsupported_capability" error
          | none => offerWallet key known capabilities walletMeta) { s with
          remotePubKey := some key, walletCapabilities := capabilities, walletMeta := walletMeta
          sendKey := some keys.dappToWalletKey, recvKey := some keys.walletToDappKey } := by
  obtain ⟨-, offer, bad, known, same⟩ := readOffer_some C read
  have reads : readJoin C { s with remotePubKey := some key } rootKey sealedJoin = .offered capabilities walletMeta :=
    offer
  have knows : isSameApprovedWallet C { s with remotePubKey := some key } sender capabilities walletMeta = .ok known :=
    same
  refine ⟨known, ?_⟩
  unfold processJoin
  rw [after_get_bind, reads]
  simp only [bad, Bool.false_eq_true, if_false, knows, runExcept, after_pure_bind, after_modify_bind]
  change after (runExcept (deriveDirectionalSessionKeys C rootKey s.channelId
    (sessionContext s sender capabilities walletMeta)) >>= _) _ = _
  cases deriveDirectionalSessionKeys C rootKey s.channelId (sessionContext s sender capabilities walletMeta) with
  | error e => rfl
  | ok keys => rfl

/-- From the derived root key on. `s` is the session before the join assigned the key. -/
theorem processJoin_bond_iff {s : Session} {sender : String} {key rootKey : Bytes} {sealedJoin : SealedJoin}
    (root : joinRootKey C s.privKey key s.channelId = .ok rootKey)
    (refused : Refused s (after (processJoin C sender key rootKey sealedJoin) { s with remotePubKey := some key })) :
    (after (processJoin C sender key rootKey sealedJoin) { s with remotePubKey := some key }).bond = s.bond ↔
      InPlace C s sender key sealedJoin := by
  cases read : readOffer C s sender key sealedJoin with
  | none => exact bond_iff_of_unread C read (processJoin_unread C root read)
  | some offer =>
    obtain ⟨rootKey', capabilities, walletMeta⟩ := offer
    have same : rootKey' = rootKey := Except.ok.inj ((readOffer_some C read).1.symm.trans root)
    subst same
    obtain ⟨known, run⟩ := processJoin_read C read
    rw [run] at refused ⊢
    cases derived : deriveDirectionalSessionKeys C rootKey' s.channelId
        (sessionContext s sender capabilities walletMeta) with
    | error e =>
      apply bond_iff_of_read C read (Bound.refl _)
      simp [derived]
    | ok keys =>
      rw [derived] at refused
      cases scope : scopeError s capabilities with
      | some error =>
        apply bond_iff_of_read C read (bound_of_moves (refuseJoin_moves "unsupported_capability" error) _)
        simp [derived]
      | none =>
        rw [scope] at refused
        apply bond_iff_of_read C read (offerWallet_bound refused)
        simp [derived]

theorem handleJoin_bond_iff {s : Session} {sender : String} {sealedJoin : SealedJoin}
    (refused : Refused s (after (handleJoin C sender sealedJoin) s)) :
    (after (handleJoin C sender sealedJoin) s).bond = s.bond ↔
      ∀ key, decodePublicKey sender = some key → InPlace C s sender key sealedJoin := by
  unfold handleJoin at refused ⊢
  by_cases empty : sender = ""
  · have unknown : decodePublicKey sender = none := by
      rw [empty]
      decide
    rw [if_pos empty]
    simp only [unknown, reduceCtorEq, false_implies, implies_true, iff_true]
    exact (bound_of_moves (report_moves _) s).bond
  · rw [if_neg empty] at refused ⊢
    cases decodes : decodePublicKey sender with
    | none =>
      simp only [reduceCtorEq, false_implies, implies_true, iff_true]
      exact (bound_of_moves (refuseJoin_moves "protocol_error" "Malformed wallet public key") s).bond
    | some key =>
      rw [decodes] at refused
      simp only [after_modify_bind, after_get_bind, Option.some.injEq, forall_eq'] at refused ⊢
      cases root : joinRootKey C s.privKey key s.channelId with
      | error e =>
        have unread : readOffer C s sender key sealedJoin = none := by simp [readOffer, root]
        exact bond_iff_of_unread C unread (Bound.refl _)
      | ok rootKey =>
        rw [root] at refused
        exact processJoin_bond_iff C root refused

/-- A join that is refused leaves the session as it was exactly when it is refused before the
first assignment, or when everything it assigned was in place. -/
theorem refused_join_intact_iff (s : Session) (inputs : Inputs) (msg : ProtocolMessage) (sealedJoin : SealedJoin)
    (join : msg.body = .join sealedJoin) (refused : Refused s (step C s (inputs, .message msg))) :
    (step C s (inputs, .message msg)).bond = s.bond ↔
      msg.v ≠ 1 ∨ msg.sender = "_adapter" ∨
        ∀ key, decodePublicKey msg.sender = some key → InPlace C s msg.sender key sealedJoin := by
  let u : Session := { s with inputs := inputs }
  change Refused u (after (handleMessage C msg) u) at refused
  change (after (handleMessage C msg) u).bond = u.bond ↔ _
  unfold handleMessage at refused ⊢
  rw [join] at refused ⊢
  by_cases spoofed : msg.sender = "_adapter"
  · rw [if_pos ⟨rfl, spoofed⟩]
    exact iff_of_true (bound_of_moves (report_moves _) u).bond (Or.inr (Or.inl spoofed))
  · rw [if_neg (fun both => spoofed both.2)] at refused ⊢
    by_cases version : msg.v ≠ 1
    · rw [if_pos version]
      exact iff_of_true (bound_of_moves (close_moves _) u).bond (Or.inl version)
    · rw [if_neg version] at refused ⊢
      dsimp only at refused ⊢
      rw [handleJoin_bond_iff C refused]
      simp only [version, spoofed, false_or]
      -- the choices of the environment do not enter what the join offers
      have same (key : Bytes) : InPlace C u msg.sender key sealedJoin ↔ InPlace C s msg.sender key sealedJoin :=
        ⟨fun h => ⟨h.remote, h.offer, h.keys⟩, fun h => ⟨h.remote, h.offer, h.keys⟩⟩
      simp only [same]

end

/-! ### A join nobody can open -/

namespace Sample

/-- The relay joins under a key of its own, with an envelope that does not open. -/
def forgedJoin : ProtocolMessage := ⟨1, "ab", 0, b64urlEncode (List.replicate 32 3), .join (.text "AA")⟩

end Sample

/-- The facts about the sample that the kernel evaluates. -/
theorem forgedJoin_facts :
    Sample.paired.phase = .connected ∧ Sample.paired.remotePubKey = some Sample.walletKey ∧
    Refused Sample.paired (step .transparent Sample.paired ({}, .message Sample.forgedJoin)) ∧
    (step .transparent Sample.paired ({}, .message Sample.forgedJoin)).remotePubKey = some (List.replicate 32 3) := by
  decide +kernel

theorem refused_join_intact_iff_sample :
    Refused Sample.paired (step .transparent Sample.paired ({}, .message Sample.forgedJoin)) ∧
    ((step .transparent Sample.paired ({}, .message Sample.forgedJoin)).bond = Sample.paired.bond ↔
      Sample.forgedJoin.v ≠ 1 ∨ Sample.forgedJoin.sender = "_adapter" ∨
        ∀ key, decodePublicKey Sample.forgedJoin.sender = some key →
          InPlace .transparent Sample.paired Sample.forgedJoin.sender key (.text "AA")) := by
  obtain ⟨-, -, refused, -⟩ := forgedJoin_facts
  exact ⟨refused, refused_join_intact_iff .transparent Sample.paired {} Sample.forgedJoin (.text "AA") rfl refused⟩

/-- The session drops the approved wallet's key for the one of a join it refuses. -/
theorem refused_join_replaces_key :
    Sample.paired.phase = .connected ∧ Sample.paired.remotePubKey = some Sample.walletKey ∧
    Refused Sample.paired (step .transparent Sample.paired ({}, .message Sample.forgedJoin)) ∧
    (step .transparent Sample.paired ({}, .message Sample.forgedJoin)).remotePubKey = some (List.replicate 32 3) ∧
    (step .transparent Sample.paired ({}, .message Sample.forgedJoin)).bond ≠ Sample.paired.bond := by
  obtain ⟨connected, before, refused, moved⟩ := forgedJoin_facts
  refine ⟨connected, before, refused, moved, fun same => ?_⟩
  have kept := remotePubKey_of_bond same
  rw [moved, before] at kept
  exact absurd kept (by decide +kernel)

end WalletPair.Sdk.DApp
