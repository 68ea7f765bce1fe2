import WalletPair.Sdk.DApp.State

/-! What the dApp session does: requests, reconnects, pairing, joins, and the handler
of inbound messages. -/

namespace WalletPair.Sdk.DApp
open WalletPair.Lib WalletPair.Lib.Program

/-! ### Sealed requests -/

/-- Reserves the next sequence number. `none` means that `task` waits for the save. -/
def nextSendSeq (task : Nat → Task) : M (Option Nat) := do
  let s ← get
  if s.sendSeq ≥ maxSendSeq then
    let error := "Send sequence overflow/limit reached — session invalidated"
    emit (.error error)
    close "normal"
    throw error
  else
    modify fun s => { s with sendSeq := s.sendSeq + 1 }
    if ← persistSnapshot (task s.sendSeq) then return none else return some s.sendSeq

/-- The sealed inner payload of a request; the same for the first send and a re-send. -/
def buildSealedParams (method : String) (params : Option Json) : Json :=
  match params with
  | some (.obj fields) => .obj (Json.spread [("_method", .str method)] fields)
  | some .null => .obj [("_method", .str method), ("_params", .obj [])]
  | some value => .obj [("_method", .str method), ("_params", value)]
  | none => .obj [("_method", .str method), ("_params", .obj [])]

section
variable (C : Crypto)

/-- Seals the request under the current send key. -/
def buildRequestMessage (call : Nat) (id method : String) (params : Option Json) (seq : Nat) :
    M (Body × Sealed) := do
  let s ← get
  match s.sendKey with
  | none => throw "Not connected"
  | some sendKey =>
    let header : AadHeader := ⟨.req, s.pubKeyB64, id⟩
    match sealPayload C sendKey s.channelId seq (buildSealedParams method params) header with
    | .error e => throw e
    | .ok (envelope, plaintext) =>
      let frame : Sealed := ⟨sendKey, seq, s.channelId, header, plaintext, some call⟩
      record (.sealing frame)
      return (.req (some id) (some envelope), frame)

/-- The `send` closure of `request`. The promise's executor turns an exception of the
transport into a rejection, with the entry left in place. -/
def sendRequest (promise : Nat) (id method : String) (params : Option Json) (seq : Nat) : M Unit := do
  let (body, frame) ← buildRequestMessage C promise id method params seq
  modify fun s => { s with
    requestTimers := s.requestTimers ++ [⟨promise, id, method, s.inputs.now + s.options.requestTimeout⟩]
    pendingRequests := s.pendingRequests.set id ⟨id, method, params, promise⟩ }
  tryCatch (sendRaw body (some frame)) fun e => settle promise (.failed e)

def sendResend (call : Nat) (id method : String) (params : Option Json) (seq : Nat) : M Unit := do
  let (body, frame) ← buildRequestMessage C call id method params seq
  sendRaw body (some frame)

/-- Send an encrypted request to the wallet. -/
def request (method : String) (params : Option Json) : M Unit := do
  let promise ← freshTicket
  let s ← get
  if s.phase ≠ .connected ∨ s.sendKey = none then settle promise (.failed "Not connected")
  else if s.pendingRequests.size ≥ maxPendingRequests then
    settle promise (.failed "Too many pending requests")
  else
    modify fun s => { s with reqCounter := s.reqCounter + 1 }
    let id := "req-" ++ toString (s.reqCounter + 1)
    tryCatch
      (do
        match ← nextSendSeq (.request promise id method params) with
        | none => return
        | some seq => sendRequest C promise id method params seq)
      fun e => settle promise (.failed e)

/-- Re-send every still-pending request after a reconnect. -/
def resendPending : M Unit := do
  let s ← get
  if s.phase ≠ .connected ∨ s.sendKey = none then return
  s.pendingRequests.values.forM fun req => do
    match ← nextSendSeq (.resend req.promise req.id req.method req.params) with
    | none => return
    | some seq => sendResend C req.promise req.id req.method req.params seq

end

/-! ### Reconnect -/

def Session.canReconnect (s : Session) : Bool := !s.intentionalClose && s.phase != .closed

/-- Append `?ch=` to the transport URL, once. -/
def setTransportChannelHint : M Unit :=
  modify fun s =>
    match s.url with
    | none => s
    | some base =>
      if s.options.canSetUrl ∧ base ≠ "" ∧ !includes base "?ch=" then
        { s with url := some (withChannelHint base s.channelId) }
      else s

/-- Calls `transport.connect()` and leaves the rest to a continuation. -/
def awaitConnect (next : Await) : M Unit :=
  modify fun s => { s with ticket := s.ticket + 1, connects := s.connects ++ [(s.ticket, next)] }

def doReconnectAttempt : M Unit := do
  let s ← get
  if s.intentionalClose ∨ s.phase = .closed then return
  setTransportChannelHint
  awaitConnect .reconnect

def giveUpReconnect : M Unit := do
  stopReconnect
  modify fun s => { s with reconnecting := false }
  let s ← get
  rejectAllPending "Reconnect failed: exhausted reconnect attempts"
  clearPersistence
  modify fun s => { s with intentionalClose := true }
  emit (.reconnectExhausted s.reconnectAttempt)
  setPhase .closed

def scheduleReconnect : M Unit := do
  let s ← get
  if s.intentionalClose ∨ s.phase = .closed then return
  modify fun s => if s.reconnectStartedAt = 0 then { s with reconnectStartedAt := s.inputs.now } else s
  let s ← get
  if reconnectExhausted s.options.toLinkOptions s.reconnectAttempt s.reconnectStartedAt s.inputs.now then
    giveUpReconnect
  else
    modify fun s => { s with timers := { s.timers with
      reconnect := some (s.inputs.now + reconnectDelay s.reconnectAttempt s.inputs.jitter) } }

/-- Preserves the growing backoff when a reconnect cycle is already under way. -/
def startReconnect : M Unit := do
  let s ← get
  modify fun s => { s with reconnecting := true }
  clearPendingAcceptTimer
  setPhase .disconnected
  if !s.reconnecting then modify fun s => { s with reconnectAttempt := 0, reconnectStartedAt := 0 }
  scheduleReconnect

def handleTransportClose : M Unit := do
  let s ← get
  if s.canReconnect then startReconnect

/-! ### Pairing -/

def doAccept : M Unit := do
  modify fun s => { s with
    paired := true
    approvedCapabilities := s.walletCapabilities
    approvedWalletMeta := s.walletMeta
    approvedWalletPubKeyB64 := s.remotePubKey.map b64urlEncode
    approvedScopeRecorded := true }
  let s ← get
  let target := b64urlEncode (s.remotePubKey.getD [])
  if ← persistSnapshot (.accept target) then return else sendRaw (.accept target) none

def ping : M Unit := do
  let s ← get
  if s.phase = .connected then sendRaw .ping none

/-- Accept the wallet whose join is pending. -/
def acceptWallet : M Unit := do
  let s ← get
  if s.phase ≠ .pendingAccept ∨ s.remotePubKey = none then return
  record (.accepted s.remotePubKey)
  clearPendingAcceptTimer
  doAccept

def rejectWallet : M Unit := do
  let s ← get
  if s.remotePubKey = none then return
  sendRaw (.close "user_rejected") none
  close "normal"

def connectTransport : M Unit := do
  setTransportChannelHint
  awaitConnect .pairing

section
variable (C : Crypto)

/-- The fields of a new pairing: fresh keys, counters from the start, no wallet. -/
def resetPairing (kp : X25519KeyPair) (channelId : String) : M Unit :=
  modify fun s => { s with
    intentionalClose := false
    staleBelow := s.ticket
    privKey := some kp.privateKey
    pubKeyB64 := kp.publicKeyB64
    channelId
    sendSeq := 0
    recvSeq := -1
    remotePubKey := none
    sendKey := none
    recvKey := none
    sessionStartTime := none
    timers := s.timers.clearSessionTtl
    approvedCapabilities := none
    approvedWalletMeta := none
    approvedWalletPubKeyB64 := none
    approvedScopeRecorded := false
    reqCounter := 0
    paired := false }

/-- Build the pairing URI first, so that the QR code can be shown before connecting. -/
def announcePairing (kp : X25519KeyPair) (channelId : String) (deferTransport : Bool) : M Unit := do
  let s ← get
  match nonEmpty s.url with
  | none => throw "DAppSession requires a relay-backed transport (e.g. WebSocketTransport) exposing a \"url\""
  | some relayUrl =>
    let uri := buildPairingUri ⟨channelId, kp.publicKeyB64, relayUrl, s.dappMeta.name, s.dappMeta.url,
      s.dappMeta.icon, s.options.methods, s.options.chains⟩
    modify fun s => { s with pairingUri := uri }
    let code ← runExcept (computeSessionFingerprint C channelId kp.publicKeyB64)
    modify fun s => { s with sessionFingerprint := code }
    emit (.pairingUri uri)
    emit (.sessionFingerprint code)
    if deferTransport then setPhase .waiting else connectTransport

/-- Create a new pairing channel. The random key and channel id are inputs. -/
def createPairing (privateKey : Bytes) (channelId : String) (deferTransport : Bool) : M Unit := do
  let kp := generateX25519KeyPair C privateKey
  resetPairing kp channelId
  announcePairing C kp channelId deferTransport

end

/-! ### Joins -/

def validateCapabilities (cap : Json) : Bool :=
  ((cap.field "methods").any Json.isArray) && ((cap.field "events").any Json.isArray) &&
    ((cap.field "chains").any Json.isArray)

/-- Declared names that the granted list does not hold. -/
def missingFrom (declared : Option (List String)) (capabilities : Json) (key : String) : List String :=
  match declared with
  | none => []
  | some names => names.filter (fun name => !((capabilities.field key).getD .null).hasString name)

section
variable (C : Crypto)

def sessionContext (s : Session) (walletPubKeyB64 : String) (capabilities walletMeta : Option Json) :
    SessionCryptoContext :=
  ⟨s.pubKeyB64, walletPubKeyB64, capabilities, walletMeta, some s.dappMeta.name⟩

def isSameApprovedWallet (s : Session) (walletPubKeyB64 : String) (capabilities walletMeta : Option Json) :
    Except String Bool := do
  if !s.paired ∨ s.approvedWalletPubKeyB64 ≠ some walletPubKeyB64 ∨ !s.approvedScopeRecorded then return false
  if (← canonicalJson C s.approvedCapabilities) ≠ (← canonicalJson C capabilities) then return false
  return (← canonicalJson C s.approvedWalletMeta) = (← canonicalJson C walletMeta)

/-- What a join offers, or the reason it is refused with. -/
inductive JoinOffer where
  | offered (capabilities walletMeta : Option Json)
  | refused (reason error : String)

/-- The scope of a join: the approved one on a reconnect, else the decrypted one. -/
def readJoin (s : Session) (rootKey : Bytes) (sealedJoin : SealedJoin) : JoinOffer :=
  if sealedJoin = .null ∧ s.paired then .offered s.approvedCapabilities s.approvedWalletMeta
  else
    match sealedJoin with
    | .text envelope =>
      if envelope = "" then .refused "protocol_error" "Initial wallet join missing sealed_join"
      else
        let decrypted : Except String (Option Json × Option Json) := do
          let joinKey ← deriveJoinEncryptionKey C rootKey s.channelId
          let decrypted ← unsealJoin C joinKey s.channelId envelope
          return (← decrypted.member "capabilities", ← decrypted.member "meta")
        match decrypted with
        | .ok (capabilities, walletMeta) => .offered capabilities walletMeta
        | .error _ => .refused "decryption_failed" "Failed to decrypt sealed_join"
    | _ => .refused "protocol_error" "Initial wallet join missing sealed_join"

/-- The granted capabilities, when there are any to check. -/
def granted : Option Json → Option Json
  | some .null => none
  | capabilities => capabilities

def malformed (capabilities : Option Json) : Bool :=
  match granted capabilities with
  | none => false
  | some cap => !validateCapabilities cap

/-- The scope check of the dApp: the error to report, if something it declared is missing. -/
def scopeError (s : Session) (capabilities : Option Json) : Option String :=
  match granted capabilities with
  | none => none
  | some cap =>
    match missingFrom s.options.methods cap "methods" with
    | first :: rest => some ("Wallet missing required methods: " ++ String.intercalate ", " (first :: rest))
    | [] =>
      match missingFrom s.options.chains cap "chains" with
      | first :: rest => some ("Wallet missing required chains: " ++ String.intercalate ", " (first :: rest))
      | [] => none

def refuseJoin (reason error : String) : M Unit := do
  sendRaw (.close reason) none
  emit (.error error)

/-- Accept at once, or give the application some time to decide. A timer that is already
armed stays armed, and nothing refers to it any more. -/
def answerOffer (knownWallet : Bool) : M Unit := do
  let s ← get
  if s.options.autoAccept ∨ knownWallet then doAccept
  else modify fun s => { s with
    pendingAcceptTimer := some (s.inputs.now + pendingAcceptTimeout)
    orphanedAcceptTimers := s.orphanedAcceptTimers ++ s.pendingAcceptTimer.toList }

/-- The last part of the join handler: announce the wallet and accept or wait. -/
def offerWallet (key : Bytes) (knownWallet : Bool) (capabilities walletMeta : Option Json) : M Unit := do
  emit (.walletJoined capabilities walletMeta)
  record (.joinPending key)
  setPhase .pendingAccept
  answerOffer knownWallet

/-- From the derived root key on: read the offer, derive the traffic keys, check the scope. -/
def processJoin (joinPubKey : String) (remoteBytes rootKey : Bytes) (sealedJoin : SealedJoin) : M Unit := do
  let s ← get
  match readJoin C s rootKey sealedJoin with
  | .refused reason error => refuseJoin reason error
  | .offered capabilities walletMeta =>
    if malformed capabilities then refuseJoin "protocol_error" "Malformed wallet capabilities"
    else
      let knownWallet ← runExcept (isSameApprovedWallet C s joinPubKey capabilities walletMeta)
      modify fun s => { s with walletCapabilities := capabilities, walletMeta }
      let keys ← runExcept (deriveDirectionalSessionKeys C rootKey s.channelId
        (sessionContext s joinPubKey capabilities walletMeta))
      modify fun s => { s with sendKey := some keys.dappToWalletKey, recvKey := some keys.walletToDappKey }
      match scopeError s capabilities with
      | some error => refuseJoin "unsupported_capability" error
      | none => offerWallet remoteBytes knownWallet capabilities walletMeta

def joinRootKey (privKey : Option Bytes) (remoteBytes : Bytes) (channelId : String) : Except String Bytes := do
  let privKey ← orThrow "private key missing" privKey
  let shared ← computeSharedSecret C privKey remoteBytes
  deriveSessionKey C shared channelId

/-- A public key that is exactly 32 bytes. -/
def decodePublicKey (text : String) : Option Bytes :=
  match b64urlDecode text with
  | some bytes => if bytes.length = 32 then some bytes else none
  | none => none

def handleJoin (joinPubKey : String) (sealedJoin : SealedJoin) : M Unit := do
  if joinPubKey = "" then emit (.error "Malformed wallet join: missing from")
  else
    match decodePublicKey joinPubKey with
    | none => refuseJoin "protocol_error" "Malformed wallet public key"
    | some remoteBytes =>
      modify fun s => { s with remotePubKey := some remoteBytes }
      let s ← get
      let rootKey ← runExcept (joinRootKey C s.privKey remoteBytes s.channelId)
      processJoin C joinPubKey remoteBytes rootKey sealedJoin

end

/-! ### Messages -/

section
variable (C : Crypto)

def handleReady (state remote : Option String) : M Unit := do
  stopReconnect
  let s ← get
  if state = some "connected" then
    if s.remotePubKey = none ∨ remote ≠ s.remotePubKey.map b64urlEncode then
      emit (.error "Connected remote does not match paired wallet")
      close "normal"
    else
      modify fun s => { s with reconnecting := false, reconnectAttempt := 0, reconnectStartedAt := 0 }
      setPhase .connected
      startSessionTtl
      startHeartbeat
      persistSnapshotAsync
      if s.reconnecting ∧ s.options.resendOnReconnect then resendPending C
  else if state = some "waiting" then setPhase .waiting

def refusalMessage (data : Json) : Json := (nullish (data.field "message")).getD (.str "Request rejected")

/-- `new Error(message)`: a message that has no text throws. -/
def errorOf (message : Json) : Except String Json :=
  if message.printable then .ok message else .error "Cannot convert object to primitive value"

/-- Per protocol §5.3 the outcome is inside the decrypted payload. -/
def deliverResponse (promise : Nat) (frame : Delivery) (data : Json) : M Unit := do
  record (.delivered frame)
  match ← runExcept (data.member "_ok") with
  | some (.bool true) =>
    settle promise (.resolved (data.field "_result"))
    emit (.response frame.id true (data.field "_result"))
  | some (.bool false) =>
    let message ← runExcept (errorOf (refusalMessage data))
    settle promise (.refused message (data.field "code"))
    emit (.response frame.id false (some (.obj (
      (data.field "code").toList.map (fun v => ("code", v)) ++
      (data.field "message").toList.map (fun v => ("message", v))))))
  | _ => settle promise (.failed "Response missing _ok field")

/-- The real event name is inside the encrypted payload; a falsy or absent one is an error. -/
def eventOf (data : Json) : Option (Json × Json) :=
  match data with
  | .obj fields =>
    match data.field "_event" with
    | some name =>
      let rest := Json.without fields ["_event"]
      let payload := if rest.length = 1 then ((Json.obj rest).field "_data").getD (.obj rest) else .obj rest
      if name.truthy then some (name, payload) else none
    | none => none
  | _ => none

def deliverEvent (frame : Delivery) (data : Json) : M Unit := do
  record (.delivered frame)
  match eventOf data with
  | some (name, payload) => emit (.event name payload)
  | none => emit (.error "Event payload missing _event")

/-- Whether a peer's frame names the wallet whose key the session holds. -/
def Session.fromRemote (s : Session) (sender : String) : Bool :=
  match s.remotePubKey with
  | none => true
  | some key => sender = b64urlEncode key

def forgetRequest (id : String) (pending : PendingRequest) : M Unit :=
  modify fun s => { s with
    pendingRequests := s.pendingRequests.delete id
    requestTimers := s.requestTimers.filter (fun t => t.promise != pending.promise) }

/-- The `try` block of a response: open, check the counter, persist, deliver. -/
def openResponse (promise : Nat) (recvKey : Bytes) (sender id envelope : String) : M Unit := do
  let s ← get
  let opened ← runExcept (unsealPayload C recvKey s.channelId envelope ⟨.res, sender, id⟩)
  if (opened.seq : Int) ≤ s.recvSeq then settle promise (.failed "Replay detected")
  else
    let frame : Delivery := ⟨recvKey, opened.seq, .res, id, opened.plaintext⟩
    modify fun s => { s with recvSeq := opened.seq }
    if ← persistSnapshot (.response promise frame opened.data s.recvSeq) then return
    else deliverResponse promise frame opened.data

def handleResponse (sender : String) (id envelope : Option String) : M Unit := do
  let s ← get
  if s.phase ≠ .connected ∨ !s.fromRemote sender then return
  match nonEmpty id with
  | none => return
  | some id =>
    match s.pendingRequests.get id with
    | none => return
    | some pending =>
      forgetRequest id pending
      match nonEmpty envelope, s.recvKey with
      | some envelope, some recvKey =>
        tryCatch (openResponse C pending.promise recvKey sender id envelope)
          fun _ => settle pending.promise (.failed "Decryption failed")
      | _, _ => settle pending.promise (.failed "Response must be encrypted")

def openEvent (recvKey : Bytes) (sender id envelope : String) : M Unit := do
  let s ← get
  let opened ← runExcept (unsealPayload C recvKey s.channelId envelope ⟨.evt, sender, id⟩)
  if (opened.seq : Int) ≤ s.recvSeq then return
  else
    let frame : Delivery := ⟨recvKey, opened.seq, .evt, id, opened.plaintext⟩
    modify fun s => { s with recvSeq := opened.seq }
    if ← persistSnapshot (.event frame opened.data s.recvSeq) then return
    else deliverEvent frame opened.data

def handleEvent (sender : String) (id envelope : Option String) : M Unit := do
  let s ← get
  if s.phase ≠ .connected ∨ !s.fromRemote sender then return
  match nonEmpty envelope, nonEmpty id, s.recvKey with
  | some envelope, some id, some recvKey =>
    tryCatch (openEvent C recvKey sender id envelope) fun _ => return
  | _, _, _ => return

def handleClose : M Unit := do
  let s ← get
  if s.phase ≠ .disconnected then
    rejectAllPending "Session closed by peer"
    clearPersistence
    setPhase .closed
    modify fun s => { s with intentionalClose := true }

def handleTerminate (reason : Option String) : M Unit := do
  let s ← get
  if s.intentionalClose ∨ s.phase = .closed then return
  if isRecoverableCloseReason reason then startReconnect
  else
    rejectAllPending ("Session terminated: " ++ reason.getD "unknown")
    clearPersistence
    setPhase .closed
    modify fun s => { s with intentionalClose := true }

def handleMessage (msg : ProtocolMessage) : M Unit := do
  if !msg.body.fromRelay ∧ msg.sender = "_adapter" then
    emit (.error "Rejected message with spoofed _adapter from")
  else if msg.v ≠ 1 then close "unsupported_version"
  else
    match msg.body with
    | .ready state remote => handleReady C state remote
    | .join sealedJoin => handleJoin C msg.sender sealedJoin
    | .res id envelope => handleResponse C msg.sender id envelope
    | .evt id envelope => handleEvent C msg.sender id envelope
    | .ping => sendRaw .pong none
    | .pong => modify fun s => { s with timers := s.timers.clearLiveness }
    | .close _ => handleClose
    | .terminate reason => handleTerminate reason
    | .create _ => return
    | .accept _ => return
    | .req _ _ => return

end

end WalletPair.Sdk.DApp
