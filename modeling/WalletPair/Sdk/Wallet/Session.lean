import WalletPair.Sdk.Wallet.State

/-! What the wallet session does: joining, answering requests with the idempotency
caches, pushing events, reconnecting, and the handler of inbound messages. -/

namespace WalletPair.Sdk.Wallet
open WalletPair.Lib WalletPair.Lib.Program

/-! ### Sequence numbers and caches -/

/-- The result of `nextSendSeq`: no number left, a number, or a save to wait for. -/
inductive Reservation where
  | exhausted
  | reserved (seq : Nat)
  | waits

def nextSendSeq (task : Nat → Task) : M Reservation := do
  let s ← get
  if s.sendSeq ≥ maxSendSeq then
    emit (.error "Send sequence overflow/limit reached — session invalidated")
    close "normal"
    return .exhausted
  else
    modify fun s => { s with sendSeq := s.sendSeq + 1 }
    if ← persistSnapshot (task s.sendSeq) then return .waits else return .reserved s.sendSeq

/-- Delete the oldest entries while there are more than `limit`; each turn of the loop
removes one, so `fuel` turns are enough for a map of that size. -/
def evict {α : Type} (limit : Nat) : Nat → OrderedMap α → OrderedMap α
  | 0, m => m
  | fuel + 1, m =>
    if m.size > limit then
      match m.oldest with
      | none => m
      | some oldest => if oldest = "" then m else evict limit fuel (m.delete oldest)
    else m

def evictIdempotencyCache (m : OrderedMap CachedRequestResponse) : OrderedMap CachedRequestResponse :=
  evict idempotencyCacheLimit m.size m

def evictBroadcastCache (m : OrderedMap CachedRequestResponse) : OrderedMap CachedRequestResponse :=
  evict broadcastCacheLimit m.size m

def responseTooLarge (data : Option Json) : Bool :=
  (data.getD .null).stringify.length > idempotencyResponseLimitBytes

/-- Record the answer of a pending request. -/
def cacheProcessedResponse (id : String) (ok : Bool) (data : Option Json) : M Unit := do
  let s ← get
  match s.pendingRequestRecords.get id with
  | none => return
  | some pending =>
    let tooLarge := responseTooLarge data
    let entry : CachedRequestResponse :=
      { toPendingRequestRecord := pending, ok := ok, data := if tooLarge then some .null else data,
        tooLarge := tooLarge }
    let broadcast : CachedRequestResponse :=
      { toPendingRequestRecord := pending, ok := ok, data := data, tooLarge := false }
    modify fun s => { s with
      pendingRequestRecords := s.pendingRequestRecords.delete id
      idempotencyCache := evictIdempotencyCache (s.idempotencyCache.set id entry) }
    record (.recorded id entry)
    if pending.method = "wallet_sendTransaction" ∧ ok then
      modify fun s => { s with
        broadcastResponseCache := evictBroadcastCache (s.broadcastResponseCache.set id broadcast) }
      record (.broadcast id)

def touchIdempotencyEntry (id : String) (entry : CachedRequestResponse) : M Unit := do
  modify fun s => { s with idempotencyCache := (s.idempotencyCache.delete id).set id entry }
  record (.reused id)

/-! ### Answers and events -/

/-- `{ _ok: true, _result }` or `{ _ok: false, code, message }`. -/
def responsePayload (ok : Bool) (data : Option Json) : Json :=
  if ok then .obj (("_ok", .bool true) :: data.toList.map (fun v => ("_result", v)))
  else .obj (Json.spread [("_ok", .bool false)] ((data.getD .null).ownFields))

def eventPayload (name : String) (data : Option Json) : Json :=
  match data with
  | none => .obj [("_event", .str name)]
  | some value =>
    if value.isObject then .obj (Json.spread [("_event", .str name)] value.ownFields)
    else .obj [("_event", .str name), ("_data", value)]

section
variable (C : Crypto)

/-- Seals under the current send key and hands the frame to the transport. -/
def sendSealed (type : AadType) (id : String) (seq : Nat) (payload : Json)
    (body : Option String → Body) : M Bool := do
  let s ← get
  match s.sendKey with
  | none => return false
  | some sendKey =>
    let header : AadHeader := ⟨type, s.pubKeyB64, id⟩
    match sealPayload C sendKey s.channelId seq payload header with
    | .error e => throw e
    | .ok (envelope, plaintext) =>
      let frame : Sealed := ⟨sendKey, seq, s.channelId, header, plaintext, none⟩
      record (.sealing frame)
      sendRaw (body (some envelope)) (some frame)
      return true

/-- The `send` closure of `sendResponse`, followed by what `approve` and `reject` do. -/
def sendAnswer (id : String) (ok : Bool) (data : Option Json) (caches : Bool) (seq : Nat) : M Bool := do
  let sent ← sendSealed C .res id seq (responsePayload ok data) (.res (some id))
  if sent ∧ caches then cacheProcessedResponse id ok data
  return sent

def sendResponse (id : String) (ok : Bool) (data : Option Json) (caches observed : Bool) : M Unit := do
  let s ← get
  if s.sendKey = none then return
  match ← nextSendSeq (.respond id ok data caches observed) with
  | .reserved seq => let _ ← sendAnswer C id ok data caches seq
  | _ => return

/-- Respond to a request with success. -/
def approve (id : String) (result : Option Json) : M Unit := do
  record (.approving id result)
  sendResponse C id true result true false

def errorData (code message : String) : Json := .obj [("code", .str code), ("message", .str message)]

/-- Respond to a request with rejection. -/
def reject (id code message : String) (observed : Bool) : M Unit :=
  sendResponse C id false (some (errorData code message)) true observed

def sendEvent (name : String) (data : Option Json) (evtId : String) (seq : Nat) : M Unit := do
  let _ ← sendSealed C .evt evtId seq (eventPayload name data) (.evt (some evtId))

/-- Push an event to the dApp. -/
def pushEvent (name : String) (data : Option Json) : M Unit := do
  let s ← get
  if s.phase ≠ .connected ∨ s.sendKey = none then return
  let evtId := "evt-" ++ toString (s.evtCounter + 1)
  let reservation ← nextSendSeq (.event name data evtId)
  modify fun s => { s with evtCounter := s.evtCounter + 1 }
  match reservation with
  | .reserved seq => sendEvent C name data evtId seq
  | _ => return

/-! ### Requests -/

/-- The answer to a duplicate: nothing when the payload differs from the recorded one. -/
def duplicateMismatch (id : String) : M Unit :=
  reject C id "invalid_params" "Duplicate request ID with different params" true

/-- An answer taken out of a cache. -/
def replay (id : String) (entry : CachedRequestResponse) : M Unit := do
  record (.answering id entry.ok entry.data)
  sendResponse C id entry.ok entry.data false true

/-- The request is neither recorded nor answered yet: prompt, unless it is pending. -/
def promptRequest (id method : String) (params : Json) (paramsHash : String) (plaintext : Bytes) :
    M Unit := do
  let s ← get
  match s.pendingRequestRecords.get id with
  | some pending =>
    if constantTimeEqual pending.paramsHash paramsHash then return else duplicateMismatch C id
  | none =>
    if s.pendingRequestRecords.size ≥ maxPendingRequests then
      reject C id "rate_limited" "Too many pending requests" true
    else
      modify fun s => { s with pendingRequestRecords := s.pendingRequestRecords.set id ⟨paramsHash, method⟩ }
      record (.prompting id plaintext)
      emit (.request id method params)

/-- Look the request up in the caches. -/
def dispatchRequest (id method : String) (params : Json) (paramsHash : String) (plaintext : Bytes) :
    M Unit := do
  let s ← get
  match s.broadcastResponseCache.get id with
  | some cachedBroadcast =>
    if constantTimeEqual cachedBroadcast.paramsHash paramsHash then replay C id cachedBroadcast
    else duplicateMismatch C id
  | none =>
    match s.idempotencyCache.get id with
    | none => promptRequest C id method params paramsHash plaintext
    | some cached =>
      if constantTimeEqual cached.paramsHash paramsHash then
        touchIdempotencyEntry id cached
        if cached.tooLarge then promptRequest C id method params paramsHash plaintext
        else replay C id cached
      else duplicateMismatch C id

/-- The method of a decrypted request: a non-empty string. -/
def methodOf (data : Json) : Option String :=
  match data.field "_method" with
  | some (.str method) => if method = "" then none else some method
  | _ => none

/-- `_params` when present, else the other fields. -/
def paramsOf (data : Json) : Json :=
  (data.field "_params").getD (.obj (Json.without data.ownFields ["_method", "_params"]))

def processRequest (id : String) (data : Json) (plaintext : Bytes) : M Unit := do
  let s ← get
  match methodOf data with
  | none => reject C id "invalid_params" "Request payload missing _method" true
  | some method =>
    if ((s.effectiveCapabilities.field "methods").getD .null).hasString method then
      dispatchRequest C id method (paramsOf data) (sha256Hex C plaintext) plaintext
    else
      reject C id "unsupported_method" ("Method \"" ++ method ++ "\" not in granted capabilities") true

end

/-! ### Transport and reconnect -/

def Session.canReconnect (s : Session) : Bool := !s.intentionalClose && s.phase != .closed

/-- Point the transport at the relay, with the channel as routing hint. -/
def setTransportUrl : M Unit :=
  modify fun s =>
    if s.options.canSetUrl then
      { s with url := if includes s.relayUrl "?ch=" then s.relayUrl else withChannelHint s.relayUrl s.channelId }
    else s

def awaitConnect (next : Await) : M Unit :=
  modify fun s => { s with ticket := s.ticket + 1, connects := s.connects ++ [(s.ticket, next)] }

def doReconnectAttempt : M Unit := do
  let s ← get
  if s.intentionalClose ∨ s.phase = .closed then return
  if s.channelId ≠ "" then setTransportUrl
  awaitConnect .reconnect

def giveUpReconnect : M Unit := do
  stopReconnect
  modify fun s => { s with reconnecting := false }
  let s ← get
  forgetRequests
  clearPersistence
  modify fun s => { s with intentionalClose := true }
  emit (.reconnectExhausted s.reconnectAttempt)
  setPhase .closed

def scheduleReconnect : M Unit := do
  let s ← get
  if s.intentionalClose ∨ s.phase = .closed then return
  modify fun s => if s.reconnectStartedAt = 0 then { s with reconnectStartedAt := s.inputs.now } else s
  let s ← get
  if reconnectExhausted s.options.toLinkOptions s.reconnectAttempt s.reconnectStartedAt s.inputs.now then
    giveUpReconnect
  else
    modify fun s => { s with timers := { s.timers with
      reconnect := some (s.inputs.now + reconnectDelay s.reconnectAttempt s.inputs.jitter) } }

def startReconnect : M Unit := do
  let s ← get
  modify fun s => { s with reconnecting := true }
  setPhase .disconnected
  if !s.reconnecting then modify fun s => { s with reconnectAttempt := 0, reconnectStartedAt := 0 }
  scheduleReconnect

def handleTransportClose : M Unit := do
  let s ← get
  if s.canReconnect then startReconnect

def ping : M Unit := do
  let s ← get
  if s.phase = .connected then sendRaw .ping none

/-! ### Joining -/

/-- The wallet grants all of its capabilities; only the fields the dApp reads are passed on. -/
def computeScopeIntersection (capabilities : Json) : Json :=
  let pick (key : String) := (capabilities.field key).toList.map (fun v => (key, v))
  let pickSet (key : String) :=
    (capabilities.field key).toList.filterMap (fun v => match v with | .null => none | v => some (key, v))
  .obj (pick "methods" ++ pick "events" ++ pick "chains" ++ pickSet "version" ++ pickSet "rpcUrls" ++
    pickSet "walletCapabilities" ++ pickSet "contractBytecode")

section
variable (C : Crypto)

def sessionContext (s : Session) : SessionCryptoContext :=
  ⟨(s.remotePubKey.map b64urlEncode).getD "", s.pubKeyB64, some s.effectiveCapabilities,
    s.options.walletMeta, s.dappName⟩

/-- The fields of a new pairing: the dApp of the URI, fresh keys, counters from the start. -/
def resetJoin (parsed : PairingParams) (remote privateKey : Bytes) : M Unit :=
  modify fun s => { s with
    remotePubKey := some remote
    relayUrl := parsed.relay
    dappName := some parsed.name
    dappDeclaredMethods := parsed.methods
    dappDeclaredChains := parsed.chains
    sendSeq := 0
    recvSeq := -1
    sendKey := none
    recvKey := none
    pendingRequestRecords := .empty
    idempotencyCache := .empty
    broadcastResponseCache := .empty
    effectiveCapabilities := computeScopeIntersection s.options.capabilities
    privKey := some privateKey
    pubKeyB64 := (generateX25519KeyPair C privateKey).publicKeyB64 }

/-- Derive the traffic keys, show the fingerprint, and keep the key that seals the join. -/
def establishKeys (remote privateKey : Bytes) : M Unit := do
  let s ← get
  let shared ← runExcept (computeSharedSecret C privateKey remote)
  let rootKey ← runExcept (deriveSessionKey C shared s.channelId)
  let keys ← runExcept (deriveDirectionalSessionKeys C rootKey s.channelId (sessionContext s))
  modify fun s => { s with sendKey := some keys.walletToDappKey, recvKey := some keys.dappToWalletKey }
  let code ← runExcept (computeSessionFingerprint C s.channelId (b64urlEncode remote))
  modify fun s => { s with sessionFingerprint := code }
  emit (.sessionFingerprint code)
  let joinKey ← runExcept (deriveJoinEncryptionKey C rootKey s.channelId)
  modify fun s => { s with sessionKey := some joinKey }

/-- From the parsed pairing URI on. The random private key is an input. -/
def prepareJoin (parsed : PairingParams) (privateKey : Bytes) : M Unit := do
  modify fun s => { s with intentionalClose := false, staleBelow := s.ticket, channelId := parsed.ch }
  let remote ← runExcept (orThrow "invalid base64" (b64urlDecode parsed.pubkey))
  resetJoin C parsed remote privateKey
  establishKeys C remote privateKey

/-- Connect, to send the join message after the user has verified the fingerprint. -/
def confirmJoin : M Unit := do
  let s ← get
  if s.channelId = "" ∨ s.sendKey = none ∨ s.recvKey = none then throw "Must call prepareJoin() first"
  setTransportUrl
  awaitConnect .confirm

/-- The sealed offer of the first join; later joins carry null. -/
def takeSealedJoin : M SealedJoin := do
  let s ← get
  match s.sessionKey with
  | none => return .null
  | some sessionKey =>
    let envelope ← runExcept (sealJoin C sessionKey s.channelId s.effectiveCapabilities
      s.options.walletMeta s.inputs.nonce)
    modify fun s => { s with sessionKey := none }
    return .text envelope

/-- The message is built before the save. -/
def sendJoin (reconnecting : Bool) : M Unit := do
  let sealedJoin ← takeSealedJoin C
  let s ← get
  if ← persistSnapshot (.join s.channelId s.pubKeyB64 s.inputs.now sealedJoin reconnecting) then return
  else sendMessage ⟨1, s.channelId, s.inputs.now, s.pubKeyB64, .join sealedJoin⟩ none

/-! ### Messages -/

def handleReady (state remote : Option String) : M Unit := do
  stopReconnect
  let s ← get
  if state = some "connected" then
    if s.remotePubKey = none ∨ remote ≠ s.remotePubKey.map b64urlEncode then
      emit (.error "Connected remote does not match paired dApp")
      close "normal"
    else
      modify fun s => { s with reconnecting := false, reconnectAttempt := 0, reconnectStartedAt := 0 }
      setPhase .connected
      startSessionTtl
      startHeartbeat
      persistSnapshotAsync
  else if state = some "waiting" then setPhase .waitingAccept

def Session.fromRemote (s : Session) (sender : String) : Bool :=
  match s.remotePubKey with
  | none => true
  | some key => sender = b64urlEncode key

/-- The post-persistence continuation of a request. -/
def deliverRequest (frame : Delivery) (data : Json) : M Unit := do
  record (.delivered frame)
  processRequest C frame.id data frame.plaintext

/-- The `try` block of a request: open, check the counter, persist, deliver. -/
def openRequest (recvKey : Bytes) (sender id envelope : String) : M Unit := do
  let s ← get
  let opened ← runExcept (unsealPayload C recvKey s.channelId envelope ⟨.req, sender, id⟩)
  if (opened.seq : Int) ≤ s.recvSeq then return
  else
    let frame : Delivery := ⟨recvKey, opened.seq, .req, id, opened.plaintext⟩
    modify fun s => { s with recvSeq := opened.seq }
    if ← persistSnapshot (.request frame opened.data s.recvSeq) then return
    else deliverRequest C frame opened.data

def handleRequest (sender : String) (id envelope : Option String) : M Unit := do
  let s ← get
  if s.phase ≠ .connected ∨ !s.fromRemote sender then return
  match nonEmpty id with
  | none => return
  | some id =>
    match nonEmpty envelope, s.recvKey with
    | some envelope, some recvKey =>
      tryCatch (openRequest C recvKey sender id envelope)
        fun _ => reject C id "decryption_failed" "Failed to decrypt request" true
    | _, _ => reject C id "protocol_error" "Request must be encrypted" true

def handleClose : M Unit := do
  let s ← get
  if s.phase ≠ .disconnected then
    forgetRequests
    clearPersistence
    setPhase .closed
    modify fun s => { s with intentionalClose := true }

def handleTerminate (reason : Option String) : M Unit := do
  let s ← get
  if s.intentionalClose ∨ s.phase = .closed then return
  if isRecoverableCloseReason reason then startReconnect
  else
    forgetRequests
    clearPersistence
    setPhase .closed
    modify fun s => { s with intentionalClose := true }

def handleMessage (msg : ProtocolMessage) : M Unit := do
  if !msg.body.fromRelay ∧ msg.sender = "_adapter" then
    emit (.error "Rejected message with spoofed _adapter from")
  else if msg.v ≠ 1 then close "unsupported_version"
  else
    match msg.body with
    | .ready state remote => handleReady state remote
    | .req id envelope => handleRequest C msg.sender id envelope
    | .ping => sendRaw .pong none
    | .pong => modify fun s => { s with timers := s.timers.clearLiveness }
    | .close _ => handleClose
    | .terminate reason => handleTerminate reason
    | .create _ => return
    | .join _ => return
    | .accept _ => return
    | .res _ _ => return
    | .evt _ _ => return

end

end WalletPair.Sdk.Wallet
