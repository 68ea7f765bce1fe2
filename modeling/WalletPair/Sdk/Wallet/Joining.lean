import WalletPair.Sdk.Handshake
import WalletPair.Sdk.Wallet.Moves

/-! The joins of one pairing, from the scanned URI on. The key that seals the wallet's offer
serves one join; a session that has to join again before the dApp accepted it has no
offer left to send. -/

namespace WalletPair.Sdk.Wallet
open WalletPair.Lib WalletPair.Lib.Program

/-! ### Joins of a proposal -/

/-- What a scanned URI and the wallet's own choices fix for the joins that follow. -/
structure Proposal where
  channelId : String
  sender : String
  joinKey : Bytes
  capabilities : Json
  walletMeta : Option Json

/-- The offer of the proposal, sealed with its key. -/
def Proposal.Offers (C : Crypto) (p : Proposal) (sealedJoin : SealedJoin) : Prop :=
  ∃ nonce envelope, nonce.length = 12 ∧ sealedJoin = .text envelope ∧
    sealJoin C p.joinKey p.channelId p.capabilities p.walletMeta nonce = .ok envelope

section
variable (p : Proposal) (good : SealedJoin → Prop)

/-- A queued continuation sends no join but those of the proposal. -/
def Task.Offers : Task → Prop
  | .join channelId sender _ sealedJoin _ => channelId = p.channelId ∧ sender = p.sender ∧ good sealedJoin
  | _ => True

/-- A message that is a join is one of the proposal. -/
def MessageOffers (message : ProtocolMessage) : Prop :=
  ∀ sealedJoin, message.body = .join sealedJoin →
    message.ch = p.channelId ∧ message.sender = p.sender ∧ good sealedJoin

/-- Joins are sent as they are, without a sealed frame. -/
def Obs.Offers : Obs → Prop
  | .sent message none _ => MessageOffers p good message
  | _ => True

/-- The session is about the proposal: its key is unspent or gone, and every join it sent
since `start` or is about to send is one of the proposal and carries what `good` admits. -/
structure Joining (start : List Obs) (s : Session) : Prop where
  channelId : s.channelId = p.channelId
  sender : s.pubKeyB64 = p.sender
  capabilities : s.effectiveCapabilities = p.capabilities
  walletMeta : s.options.walletMeta = p.walletMeta
  key : s.sessionKey = none ∨ s.sessionKey = some p.joinKey
  waiting : ∀ call ∈ s.journal.calls, call.task.Offers p good
  sent : Run.Adds (Obs.Offers p good) start s.trace

end

variable {C : Crypto} {p : Proposal} {good : SealedJoin → Prop} {start : List Obs} {s : Session}

theorem Obs.offers_of_kind {o : Obs} (other : o.kind ≠ .offer) : o.Offers p good := by
  cases o with
  | sent message frame disk =>
    cases frame with
    | some frame => trivial
    | none =>
      intro sealedJoin shape
      exact absurd (by simp only [Obs.kind, shape, bodyKind]) other
  | _ => trivial

theorem Task.offers_of_kind {task : Task} (other : task.kind ≠ .offer) : task.Offers p good := by
  cases task with
  | join channelId sender ts sealedJoin reconnecting => exact absurd rfl other
  | _ => trivial

theorem Joining.note {o : Obs} (joining : Joining p good start s) (fits : o.Offers p good) :
    Joining p good start { s with trace := s.trace ++ [o] } :=
  { joining with sent := joining.sent.trans (.single fits) }

/-- Calls other than joins, or joins of the proposal, may be added to the queue. -/
theorem Joining.enqueue {ticket number : Nat} {write : Option Snapshot} {task : Task} (joining : Joining p good start s)
    (fits : task.Offers p good) :
    Joining p good start { s with ticket := number, journal := s.journal.enqueue ticket write task } := by
  refine { joining with waiting := fun call member => ?_ }
  rcases List.mem_append.mp member with old | new
  · exact joining.waiting call old
  · rw [List.mem_singleton.mp new]
    exact fits

theorem Joining.remove {ticket : Nat} (joining : Joining p good start s) :
    Joining p good start { s with journal := s.journal.remove ticket } :=
  { joining with waiting := fun call member => joining.waiting call (List.mem_of_mem_filter member) }

theorem Joining.flush {ticket : Nat} (joining : Joining p good start s) :
    Joining p good start { s with journal := s.journal.flush ticket } := by
  refine { joining with waiting := fun call member => ?_ }
  obtain ⟨old, waits, same, -⟩ := Journal.mem_flush member
  rw [same]
  exact joining.waiting old waits

/-- Moves that neither spend the key nor make a join keep the session at its proposal. -/
theorem joining_of_moves {α : Type} {m : M α} {ok : Kind → Prop} (none : ¬ ok .offer) (made : Keeps (Moves ok) m) :
    Keeps (Preserve (Joining p good start)) m := by
  refine preserve_of_moves made fun s t k allowed move joining => ?_
  have other : k ≠ .offer := by
    rintro rfl
    rcases allowed with quiet | allowed
    · cases quiet
    · exact none allowed
  cases move with
  | note o => exact joining.note (Obs.offers_of_kind other)
  | save task snapshot adapter configured async current => exact joining.enqueue (Task.offers_of_kind other)
  | clear adapter configured async => exact joining.enqueue trivial
  | joinKey key => exact absurd rfl other
  | _ => exact { joining with }

theorem persistSnapshot_joining {task : Task} (fits : task.Offers p good) :
    Keeps (Preserve (Joining p good start)) (persistSnapshot task) := by
  intro s joining
  rcases persistSnapshot_cases task s with ⟨-, run⟩ | ⟨adapter, -, -, run⟩ | ⟨adapter, snapshot, -, -, -, run⟩ |
    ⟨adapter, snapshot, -, -, -, run⟩
  · rw [after_of_ok run]
    exact joining
  · rw [after_of_error run]
    exact joining
  · rw [after_of_ok run]
    exact joining.enqueue fits
  · rw [after_of_ok run]
    exact { joining with }

theorem sendMessage_joining {message : ProtocolMessage} (fits : MessageOffers p good message) :
    Keeps (Preserve (Joining p good start)) (sendMessage message none) := by
  have sends (disk : Disk Snapshot) : Keeps (Preserve (Joining p good start)) (record (.sent message none disk)) :=
    .modify fun s joining => joining.note fits
  have report : Keeps (Moves fun _ => False) (emit (.error "Message exceeds 64 KB limit")) := report_moves _
  exact .bind .get fun s => .ite (joining_of_moves id report) (sends _)

/-! ### One join -/

/-- The key is unspent unless a join may go without an offer, and the random source yields
twelve bytes. -/
structure Ready (good : SealedJoin → Prop) (s : Session) : Prop where
  key : s.sessionKey = none → good .null
  random : s.inputs.nonce.length = 12

theorem ready_of_moves {α : Type} {m : M α} {ok : Kind → Prop} (none : ¬ ok .offer) (made : Keeps (Moves ok) m) :
    Keeps (Preserve (Ready good)) m := by
  refine preserve_of_moves made fun s t k allowed move ready => ?_
  cases move with
  | joinKey key =>
    rcases allowed with quiet | allowed
    · cases quiet
    · exact absurd allowed none
  | _ => exact ⟨ready.key, ready.random⟩

section
variable (offers : ∀ sealedJoin, p.Offers C sealedJoin → good sealedJoin)
include offers

theorem takeSealedJoin_joining : Triple (fun s => Joining p good start s ∧ Ready good s) (takeSealedJoin C)
    (fun sealedJoin s => Joining p good start s ∧ good sealedJoin) (Joining p good start) := by
  refine .read fun s ⟨joining, ready⟩ => ?_
  obtain gone | held := joining.key
  · rw [gone]
    exact .pure fun t same => same ▸ ⟨joining, ready.key gone⟩
  · rw [held]
    have offered : Triple (fun t => t = s) (runExcept (sealJoin C p.joinKey s.channelId s.effectiveCapabilities
        s.options.walletMeta s.inputs.nonce)) (fun envelope t => t = s ∧ good (.text envelope))
        (Joining p good start) := by
      refine .runExcept (fun envelope made t same => ⟨same, ?_⟩) fun t same => same ▸ joining
      rw [joining.channelId, joining.capabilities, joining.walletMeta] at made
      exact offers _ ⟨s.inputs.nonce, envelope, ready.random, rfl, made⟩
    refine .bind offered fun envelope => .bind (Q := fun _ t => Joining p good start t ∧ good (.text envelope))
      (.modify fun t ⟨same, fits⟩ => ⟨?_, fits⟩) fun _ => .pure fun t held => held
    rw [same]
    exact { joining with key := Or.inl rfl }

theorem sendJoin_joining (reconnecting : Bool) :
    Triple (fun s => Joining p good start s ∧ Ready good s) (sendJoin C reconnecting) (fun _ => Joining p good start)
      (Joining p good start) := by
  refine .bind (takeSealedJoin_joining offers) fun sealedJoin => .read fun s ⟨joining, fits⟩ => ?_
  have saved : Keeps (Preserve (Joining p good start))
      (persistSnapshot (.join s.channelId s.pubKeyB64 s.inputs.now sealedJoin reconnecting)) :=
    persistSnapshot_joining ⟨joining.channelId, joining.sender, fits⟩
  have sends : Keeps (Preserve (Joining p good start))
      (sendMessage ⟨1, s.channelId, s.inputs.now, s.pubKeyB64, .join sealedJoin⟩ none) :=
    sendMessage_joining fun other same => by
      cases same
      exact ⟨joining.channelId, joining.sender, fits⟩
  exact (Triple.preserve (.bind saved fun _ => .ite (.pure _) sends)).start joining

theorem connected_joining (next : Await) (opened : Bool) :
    Triple (fun s => Joining p good start s ∧ (opened = true → Ready good s)) (connected C next opened)
      (fun _ => Joining p good start) (Joining p good start) := by
  have moved : Keeps (Moves fun _ => False) scheduleReconnect := scheduleReconnect_moves
  have scheduled : Keeps (Preserve (Joining p good start)) scheduleReconnect := joining_of_moves id moved
  have phased : Keeps (Moves fun k => k = .phase .waitingAccept) (setPhase .waitingAccept) :=
    setPhase_moves _ (Or.inr rfl)
  have joined (reconnecting : Bool) : Triple (fun s => Joining p good start s ∧ Ready good s)
      (do setPhase .waitingAccept; sendJoin C reconnecting) (fun _ => Joining p good start) (Joining p good start) := by
    refine .bind (Q := fun _ s => Joining p good start s ∧ Ready good s) ?_ fun _ => sendJoin_joining offers reconnecting
    exact ((Triple.preserve (joining_of_moves nofun phased)).and_keeps (ready_of_moves nofun phased)).mono
      (fun _ held => held) (fun _ _ held => held) fun _ held => held.1
  match next, opened with
  | .confirm, true => exact (joined false).mono (fun _ held => ⟨held.1, held.2 rfl⟩) (fun _ _ held => held) fun _ held => held
  | .confirm, false => exact .pure fun _ held => held.1
  | .reconnect, true =>
    exact (Triple.tryCatch (joined true) fun _ => Triple.preserve scheduled).mono (fun _ held => ⟨held.1, held.2 rfl⟩)
      (fun _ _ held => held) fun _ held => held
  | .reconnect, false => exact (Triple.preserve scheduled).mono (fun _ held => held.1) (fun _ _ held => held) fun _ held => held

theorem settleConnect_joining (ticket : Nat) (opened : Bool) :
    Triple (fun s => Joining p good start s ∧
      (opened = true → s.connects.any (fun c => c.1 == ticket) = true → Ready good s)) (settleConnect C ticket opened)
      (fun _ => Joining p good start) (Joining p good start) := by
  refine .read fun s ⟨joining, ready⟩ => ?_
  cases found : s.connects.find? (fun c => c.1 == ticket) with
  | none => exact .pure fun _ same => same ▸ joining
  | some c =>
    have matched := List.find?_some found
    have known : s.connects.any (fun c => c.1 == ticket) = true :=
      List.any_eq_true.mpr ⟨c, List.mem_of_find?_eq_some found, matched⟩
    refine .bind (Q := fun _ t => Joining p good start t ∧ (opened = true → Ready good t)) (.modify fun t same => ?_)
      fun _ => connected_joining offers c.2 opened
    rw [same]
    exact ⟨{ joining with }, fun done => ⟨(ready done known).key, (ready done known).random⟩⟩

end

/-! ### Every step -/

theorem resume_joining {task : Task} (fits : task.Offers p good) : Keeps (Preserve (Joining p good start)) (resume C task) := by
  cases task with
  | join channelId sender ts sealedJoin reconnecting =>
    have failed (e : String) : Keeps (Moves fun _ => False) (joinFailed reconnecting e) := joinFailed_moves _ _
    have sends : Keeps (Preserve (Joining p good start)) (sendMessage ⟨1, channelId, ts, sender, .join sealedJoin⟩ none) :=
      sendMessage_joining fun other same => by
        cases same
        exact fits
    exact .tryCatch sends fun e => joining_of_moves id (failed e)
  | respond id answer data caches observed seq =>
    have made : Keeps (Moves (· ≠ .offer)) (resume C (.respond id answer data caches observed seq)) :=
      resume_moves C _ nofun (fun _ => nofun) nofun
    exact joining_of_moves (fun h => h rfl) made
  | event name data evtId seq =>
    have made : Keeps (Moves (· ≠ .offer)) (resume C (.event name data evtId seq)) :=
      resume_moves C _ nofun (fun _ => nofun) nofun
    exact joining_of_moves (fun h => h rfl) made
  | request frame data prevRecvSeq =>
    have made : Keeps (Moves (· ≠ .offer)) (resume C (.request frame data prevRecvSeq)) :=
      resume_moves C _ nofun nofun fun _ => ⟨nofun, nofun, nofun⟩
    exact joining_of_moves (fun h => h rfl) made
  | snapshot => exact .pure _
  | cleared => exact .pure _

theorem settleCall_joining (ticket : Nat) (resolves : Bool) :
    Triple (Joining p good start) (settleCall C ticket resolves) (fun _ => Joining p good start) (Joining p good start) := by
  refine settleCall_rule C (fun _ held => held) (fun _ s call joining found _ => ?_) fun _ s call joining _ => ?_
  · have fits := joining.waiting call (Journal.mem_of_find found).1
    exact (Triple.preserve (resume_joining fits)).start joining.remove
  · have made : Keeps (Moves (· ≠ .offer)) (fail "save" call.task) := fail_task_moves "save" call.task fun _ => nofun
    exact (Triple.preserve (joining_of_moves (fun h => h rfl) made)).start joining.remove

theorem destroy_joining : Keeps (Preserve (Joining p good start)) destroy := by
  have closed : Keeps (Moves fun _ => False) (close "normal") := close_moves _
  have forgotten : Keeps (Moves fun _ => False) forgetRequests := forgetRequests_moves
  exact .bind (joining_of_moves id closed) fun _ => .bind (.modify fun s joining => { joining with }) fun _ =>
    .bind (joining_of_moves id forgotten) fun _ => .modify fun s joining => { joining with key := Or.inl rfl }

/-- The labels of one session object and one pairing, under a random source that yields
the twelve bytes it is asked for. -/
def WithinPairing (l : Inputs × Label) : Prop :=
  l.1.nonce.length = 12 ∧
    match l.2 with
    | .prepareJoin _ _ => False
    | .restore _ => False
    | .crash => False
    | _ => True

instance (l : Inputs × Label) : Decidable (WithinPairing l) := by
  obtain ⟨inputs, label⟩ := l
  unfold WithinPairing
  apply @Label.casesOn _ label <;> intros <;> infer_instance

/-- A connection that opens for a join finds the key of the offer unspent. -/
def OfferLeft (s : Session) : Label → Prop
  | .connect ticket true => s.connects.any (fun c => c.1 == ticket) = true → s.sessionKey ≠ none
  | _ => True

instance (s : Session) (label : Label) : Decidable (OfferLeft s label) := by
  unfold OfferLeft
  split <;> infer_instance

theorem step_joining (offers : ∀ sealedJoin, p.Offers C sealedJoin → good sealedJoin) {l : Inputs × Label}
    (within : WithinPairing l) (left : good .null ∨ OfferLeft s l.2)
    (joining : Joining p good start s) : Joining p good start (step C s l) := by
  obtain ⟨inputs, label⟩ := l
  obtain ⟨random, same⟩ := within
  have begun : Joining p good start { s with inputs := inputs } := { joining with }
  have moved (moving : label.moving = true) (other : Kind.offer ∉ label.kinds) :
      Joining p good start (step C s (inputs, label)) :=
    joining_of_moves other (act_moves C label moving) _ begun
  cases label with
  | prepareJoin parsed privateKey => exact same.elim
  | restore snapshot => exact same.elim
  | crash => exact same.elim
  | destroy => exact destroy_joining _ begun
  | flush ticket => exact begun.flush
  | settle ticket resolves => exact (settleCall_joining ticket resolves).final begun
  | connect ticket opened =>
    refine (settleConnect_joining offers ticket opened).final (s := { s with inputs := inputs }) ⟨begun, ?_⟩
    rintro rfl known
    refine ⟨fun gone => ?_, random⟩
    rcases left with allowed | left
    · exact allowed
    · exact absurd gone (left known)
  | message msg =>
    obtain ⟨v, ch, ts, sender, body⟩ := msg
    exact moved rfl (by cases body <;> simp [Label.kinds, messageKinds])
  | confirmJoin => exact moved rfl (by simp [Label.kinds])
  | approve id result => exact moved rfl (by simp [Label.kinds])
  | reject id code message => exact moved rfl (by simp [Label.kinds])
  | pushEvent name data => exact moved rfl (by simp [Label.kinds])
  | ping => exact moved rfl (by simp [Label.kinds])
  | close reason => exact moved rfl (by simp [Label.kinds])
  | reconnect => exact moved rfl (by simp [Label.kinds])
  | transportClose => exact moved rfl (by simp [Label.kinds])
  | fire name => exact moved rfl (by simp [Label.kinds])

/-! ### The start of a pairing -/

section
variable (C)

/-- What `prepareJoin` leaves behind when it returns: the keys it derived for the dApp of
the URI, and the key that seals the join. -/
structure Prepared (parsed : PairingParams) (privateKey : Bytes) (s t : Session) where
  remote : Bytes
  shared : Bytes
  rootKey : Bytes
  keys : DirectionalSessionKeys
  joinKey : Bytes
  decoded : b64urlDecode parsed.pubkey = some remote
  agreed : computeSharedSecret C privateKey remote = .ok shared
  rooted : deriveSessionKey C shared parsed.ch = .ok rootKey
  derived : deriveDirectionalSessionKeys C rootKey parsed.ch (sessionContext t) = .ok keys
  shown : computeSessionFingerprint C parsed.ch (b64urlEncode remote) = .ok t.sessionFingerprint
  sealing : deriveJoinEncryptionKey C rootKey parsed.ch = .ok joinKey
  sessionKey : t.sessionKey = some joinKey
  sendKey : t.sendKey = some keys.walletToDappKey
  recvKey : t.recvKey = some keys.dappToWalletKey
  channelId : t.channelId = parsed.ch
  pubKeyB64 : t.pubKeyB64 = b64urlEncode (C.getPublicKey privateKey)
  effectiveCapabilities : t.effectiveCapabilities = computeScopeIntersection s.options.capabilities
  remotePubKey : t.remotePubKey = some remote
  dappName : t.dappName = some parsed.name
  options : t.options = s.options
  journal : t.journal = s.journal

/-- The joins that may follow. -/
def Prepared.proposal {parsed : PairingParams} {privateKey : Bytes} {s t : Session}
    (prepared : Prepared C parsed privateKey s t) : Proposal :=
  ⟨parsed.ch, b64urlEncode (C.getPublicKey privateKey), prepared.joinKey,
    computeScopeIntersection s.options.capabilities, s.options.walletMeta⟩

end

theorem prepared_of_ok {parsed : PairingParams} {privateKey : Bytes} {t : Session}
    (returned : prepareJoin C parsed privateKey s = .ok () t) : Nonempty (Prepared C parsed privateKey s t) := by
  unfold prepareJoin at returned
  rw [modify_bind_apply] at returned
  obtain ⟨remote, decoded, returned⟩ := ok_of_runExcept_bind returned
  have bytes : b64urlDecode parsed.pubkey = some remote := by
    cases text : b64urlDecode parsed.pubkey with
    | none => simp [text, orThrow] at decoded
    | some other => simpa [text, orThrow] using decoded
  unfold resetJoin establishKeys at returned
  rw [modify_bind_apply, get_bind_apply] at returned
  obtain ⟨shared, agreed, returned⟩ := ok_of_runExcept_bind returned
  obtain ⟨rootKey, rooted, returned⟩ := ok_of_runExcept_bind returned
  obtain ⟨keys, derived, returned⟩ := ok_of_runExcept_bind returned
  rw [modify_bind_apply] at returned
  obtain ⟨code, shown, returned⟩ := ok_of_runExcept_bind returned
  rw [modify_bind_apply] at returned
  obtain ⟨_, u, emitted, returned⟩ := ok_of_bind returned
  obtain ⟨joinKey, sealing, returned⟩ := ok_of_runExcept_bind returned
  rw [emit_apply] at emitted
  split_ifs at emitted
  cases emitted
  cases returned
  unfold Session.emitting
  split <;> exact ⟨⟨remote, shared, rootKey, keys, joinKey, bytes, agreed, rooted, derived, shown, sealing,
    rfl, rfl, rfl, rfl, rfl, rfl, rfl, rfl, rfl, rfl⟩⟩

/-- No join of an earlier pairing still waits for its save. -/
def NoJoinWaits (s : Session) : Prop := ∀ call ∈ s.journal.calls, call.task.kind ≠ .offer

instance (s : Session) : Decidable (NoJoinWaits s) :=
  inferInstanceAs (Decidable (∀ call ∈ s.journal.calls, call.task.kind ≠ .offer))

theorem Prepared.joining {parsed : PairingParams} {privateKey : Bytes} {t : Session}
    (prepared : Prepared C parsed privateKey s t) (idle : NoJoinWaits s) :
    Joining prepared.proposal good t.trace t where
  channelId := prepared.channelId
  sender := prepared.pubKeyB64
  capabilities := prepared.effectiveCapabilities
  walletMeta := by rw [prepared.options]; rfl
  key := Or.inr prepared.sessionKey
  waiting call member := by
    rw [prepared.journal] at member
    exact Task.offers_of_kind (idle call member)
  sent := Run.Adds.refl _

/-- The joins among what was recorded. -/
def joinsIn (trace : List Obs) : List ProtocolMessage :=
  trace.filterMap fun o =>
    match o with
    | .sent message none _ =>
      match message.body with
      | .join _ => some message
      | _ => none
    | _ => none

theorem mem_joinsIn {trace : List Obs} {message : ProtocolMessage} (member : message ∈ joinsIn trace) :
    ∃ disk sealedJoin, Obs.sent message none disk ∈ trace ∧ message.body = .join sealedJoin := by
  obtain ⟨o, recorded, read⟩ := List.mem_filterMap.mp member
  split at read
  · split at read
    · cases read
      exact ⟨_, _, recorded, ‹_›⟩
    · cases read
  · cases read

/-- The session after `prepareJoin` and the labels that follow it. -/
def preparedRun (C : Crypto) (s : Session) (parsed : PairingParams) (privateKey : Bytes)
    (labels : List (Inputs × Label)) : Session :=
  Run.run (step C) (after (prepareJoin C parsed privateKey) s) labels

/-- The joins sent since `prepareJoin` returned. -/
def joinsSent (C : Crypto) (s : Session) (parsed : PairingParams) (privateKey : Bytes)
    (labels : List (Inputs × Label)) : List ProtocolMessage :=
  joinsIn ((preparedRun C s parsed privateKey labels).trace.drop (after (prepareJoin C parsed privateKey) s).trace.length)

/-- Every join of the run is one of the proposal. -/
theorem joinsSent_offer {parsed : PairingParams} {privateKey : Bytes} {labels : List (Inputs × Label)}
    (prepared : Prepared C parsed privateKey s (after (prepareJoin C parsed privateKey) s)) (idle : NoJoinWaits s)
    (offers : ∀ sealedJoin, prepared.proposal.Offers C sealedJoin → good sealedJoin)
    (within : ∀ l ∈ labels, WithinPairing l)
    (left : Run.Along (step C) (fun s l => good .null ∨ OfferLeft s l.2) (after (prepareJoin C parsed privateKey) s) labels)
    {message : ProtocolMessage} (sent : message ∈ joinsSent C s parsed privateKey labels) :
    MessageOffers prepared.proposal good message ∧ ∃ sealedJoin, message.body = .join sealedJoin := by
  have joining : Joining prepared.proposal good _ (preparedRun C s parsed privateKey labels) :=
    Run.invariant (fun _ _ admitted held => step_joining offers admitted.1 admitted.2 held) (left.and_all within)
      (prepared.joining idle)
  obtain ⟨disk, sealedJoin, recorded, shape⟩ := mem_joinsIn sent
  obtain ⟨new, grown, fits⟩ := joining.sent
  rw [grown, List.drop_left] at recorded
  exact ⟨fits _ recorded, sealedJoin, shape⟩

/-! ### The dApp of the URI -/

/-- The dApp session that showed the pairing URI: its channel, and the private key of the
public key the URI names. -/
structure Shows (C : Crypto) (d : DApp.Session) (parsed : PairingParams) (dappKey : Bytes) : Prop where
  channelId : d.channelId = parsed.ch
  privKey : d.privKey = some dappKey
  random : dappKey.length = 32
  pubkey : parsed.pubkey = b64urlEncode (C.getPublicKey dappKey)

/-- The dApp opens the sealed offer of this join. -/
def Deciphers (C : Crypto) (d : DApp.Session) (message : ProtocolMessage) : Prop :=
  ∃ envelope key rootKey capabilities walletMeta,
    message.body = .join (.text envelope) ∧ DApp.decodePublicKey message.sender = some key ∧
      DApp.joinRootKey C d.privKey key d.channelId = .ok rootKey ∧
      DApp.readJoin C d rootKey (.text envelope) = .offered capabilities walletMeta

section Deciphering
variable {d : DApp.Session} {parsed : PairingParams} {privateKey dappKey : Bytes} {t : Session}

theorem Prepared.remote_eq (prepared : Prepared C parsed privateKey s t) (shows : Shows C d parsed dappKey) :
    prepared.remote = C.getPublicKey dappKey := by
  have decoded := prepared.decoded
  rw [shows.pubkey, b64urlDecode_encode] at decoded
  exact (Option.some.inj decoded).symm

/-- The dApp comes to the wallet's root key from the other private key. -/
theorem Prepared.joinRootKey (prepared : Prepared C parsed privateKey s t) (handshake : C.Handshake)
    (random : privateKey.length = 32) (shows : Shows C d parsed dappKey) :
    DApp.joinRootKey C d.privKey (C.getPublicKey privateKey) d.channelId = .ok prepared.rootKey := by
  have agreed := prepared.agreed
  rw [prepared.remote_eq shows, computeSharedSecret_comm handshake random shows.random] at agreed
  simp only [DApp.joinRootKey, shows.privKey, shows.channelId, orThrow, agreed, prepared.rooted, bind, Except.bind]

theorem decodePublicKey_encode (handshake : C.Handshake) (random : privateKey.length = 32) :
    DApp.decodePublicKey (b64urlEncode (C.getPublicKey privateKey)) = some (C.getPublicKey privateKey) := by
  rw [DApp.decodePublicKey, b64urlDecode_encode]
  simp only [handshake.publicKey privateKey random, ↓reduceIte]

theorem Prepared.deciphers (prepared : Prepared C parsed privateKey s t) (handshake : C.Handshake)
    (canonical : C.Canonical) (random : privateKey.length = 32) (shows : Shows C d parsed dappKey)
    {message : ProtocolMessage} {sealedJoin : SealedJoin} (shape : message.body = .join sealedJoin)
    (offers : MessageOffers prepared.proposal (prepared.proposal.Offers C) message) : message.ch = parsed.ch ∧ Deciphers C d message := by
  obtain ⟨channel, sender, nonce, envelope, length, rfl, made⟩ := offers sealedJoin shape
  have derived : deriveJoinEncryptionKey C prepared.rootKey d.channelId = .ok prepared.joinKey :=
    shows.channelId ▸ prepared.sealing
  change sealJoin C prepared.joinKey parsed.ch _ _ nonce = _ at made
  rw [← shows.channelId] at made
  obtain ⟨text, printed, reads⟩ := DApp.readJoin_sealed handshake length derived made
  obtain ⟨back, parsedBack, -⟩ := canonical.object _ _ printed
  refine ⟨channel, envelope, C.getPublicKey privateKey, prepared.rootKey, _, _, shape, ?_,
    prepared.joinRootKey handshake random shows, reads back parsedBack⟩
  rw [sender]
  exact decodePublicKey_encode handshake random

/-- Before the dApp has accepted it, a wallet whose every connection finds the offer's key
unspent sends only joins that the dApp of the URI can decrypt. -/
theorem first_joins_decipherable (handshake : C.Handshake) (canonical : C.Canonical) (random : privateKey.length = 32)
    (returned : value (prepareJoin C parsed privateKey) s = some ()) (idle : NoJoinWaits s)
    (shows : Shows C d parsed dappKey) {labels : List (Inputs × Label)} (within : ∀ l ∈ labels, WithinPairing l)
    (left : Run.Along (step C) (fun s l => OfferLeft s l.2) (after (prepareJoin C parsed privateKey) s) labels) :
    ∀ message ∈ joinsSent C s parsed privateKey labels, message.ch = parsed.ch ∧ Deciphers C d message := by
  intro message sent
  obtain ⟨t, run⟩ := ok_of_value returned
  obtain ⟨prepared⟩ := prepared_of_ok run
  rw [← after_of_ok run] at prepared
  obtain ⟨offers, sealedJoin, shape⟩ := joinsSent_offer prepared idle (fun _ offer => offer) within
    (left.mono fun _ _ fits => Or.inr fits) sent
  exact prepared.deciphers handshake canonical random shows shape offers

end Deciphering

namespace Sample

/-- A wallet that has done nothing yet. -/
def fresh : Session := Session.new (options false)

/-- The dApp whose URI the sample invitation is. -/
def host : DApp.Session :=
  { DApp.Session.new { dappMeta := ⟨"d", "", "https://d", "https://d/icon"⟩, url := some "wss://relay" } with
    channelId := Sdk.Sample.channel
    privKey := some Sdk.Sample.dappKey
    pubKeyB64 := b64urlEncode Sdk.Sample.dappKey }

theorem host_shows : Shows .transparent host Sdk.Sample.invitation Sdk.Sample.dappKey :=
  ⟨rfl, rfl, by decide, rfl⟩

def random : Inputs := { nonce := List.replicate 12 0 }

/-- The join goes out, and nothing comes back before the transport drops. -/
def firstTry : List (Inputs × Label) :=
  [(random, .confirmJoin), (random, .connect 0 true), (random, .transportClose)]

/-- The reconnect timer fires and the transport opens again. -/
def retry : List (Inputs × Label) :=
  [({ random with now := 5000 }, .fire .reconnect), ({ random with now := 5000 }, .connect 1 true)]

theorem firstTry_runs : value (prepareJoin .transparent Sdk.Sample.invitation Sdk.Sample.walletKey) fresh = some () ∧
    (joinsSent .transparent fresh Sdk.Sample.invitation Sdk.Sample.walletKey firstTry).length = 1 ∧
    Run.Along (step .transparent) (fun s l => OfferLeft s l.2)
      (after (prepareJoin .transparent Sdk.Sample.invitation Sdk.Sample.walletKey) fresh) firstTry := by
  decide +kernel

end Sample

theorem first_joins_decipherable_once :
    (joinsSent .transparent Sample.fresh Sdk.Sample.invitation Sdk.Sample.walletKey Sample.firstTry).length = 1 ∧
      ∀ message ∈ joinsSent .transparent Sample.fresh Sdk.Sample.invitation Sdk.Sample.walletKey Sample.firstTry,
        message.ch = Sdk.Sample.channel ∧ Deciphers .transparent Sample.host message :=
  ⟨Sample.firstTry_runs.2.1, first_joins_decipherable Crypto.transparent_handshake Crypto.transparent_canonical (by decide)
    Sample.firstTry_runs.1 (by decide) Sample.host_shows (by decide) Sample.firstTry_runs.2.2⟩

/-- The first join is lost; the second one, sent by the reconnect loop while the dApp still
waits for a wallet, carries no offer at all. -/
theorem lost_join_retried_without_offer :
    value (prepareJoin .transparent Sdk.Sample.invitation Sdk.Sample.walletKey) Sample.fresh = some () ∧
      (∀ l ∈ Sample.firstTry ++ Sample.retry, WithinPairing l) ∧
      ∃ message ∈ joinsSent .transparent Sample.fresh Sdk.Sample.invitation Sdk.Sample.walletKey (Sample.firstTry ++ Sample.retry),
        message.body = .join .null ∧ ¬ Deciphers .transparent Sample.host message := by
  have run : value (prepareJoin .transparent Sdk.Sample.invitation Sdk.Sample.walletKey) Sample.fresh = some () ∧
      ∃ message ∈ joinsSent .transparent Sample.fresh Sdk.Sample.invitation Sdk.Sample.walletKey (Sample.firstTry ++ Sample.retry),
        message.body = .join .null := by decide +kernel
  obtain ⟨returned, message, sent, shape⟩ := run
  refine ⟨returned, by decide, message, sent, shape, ?_⟩
  rintro ⟨envelope, key, rootKey, capabilities, walletMeta, other, -⟩
  rw [shape] at other
  cases other

end WalletPair.Sdk.Wallet
