import WalletPair.Lib.Run
import WalletPair.Relay.Worker.State

/-! The handlers of the channel object, and one step for every event the platform can
deliver to it. Attempts to send are guarded where the source guards them; the answers to
a create and to a join are not, and a throw there leaves the rest of the handler undone. -/

namespace WalletPair.Relay.Worker
open WalletPair.Lib.Program WalletPair.Sdk

variable {τ : Type}

/-- Whether a message type is valid in the given state for the given role. -/
def stateAllowsMessage (state : ChannelState) (type : MessageType) (role : Role) : Bool :=
  match state, type with
  | .closed, _ => false
  | .none, _ => false
  | _, .close => true
  | _, .ping => true
  | _, .pong => true
  | .pendingAccept, .accept => role = .dapp
  | .connected, .req => role = .dapp
  | .connected, .res => role = .wallet
  | .connected, .evt => role = .wallet
  | _, _ => false

/-! ### Effects -/

def setAttachment (id : Nat) (attachment : WsAttachment) : M τ Unit := do
  updateSocket id fun socket => { socket with attachment := some attachment }
  record (.assigned attachment.role id)

/-- A send whose failure the handler goes on from. -/
def trySend (id : Option Nat) (frame : Frame τ) : M τ Bool :=
  match id with
  | none => return false
  | some id => tryCatch (do
      send id frame
      return true)
    fun _ => return false

/-- Tell a peer, if there is one, and close it. -/
def dismiss (id : Option Nat) (frame : Frame τ) : M τ Unit :=
  match id with
  | none => return
  | some id => sendAndClose id frame

def closeChannel : M τ Unit := do
  modify fun s => { s with channelState := .closed }
  persistState

/-! ### Create -/

/-- Everything that follows once the create is allowed. -/
def createChannel (id : Nat) (ch sender : String) : M τ Unit := do
  modify fun s => { s with
    channelState := .waiting
    dappPeerId := some sender
    walletPeerId := none
    isReconnect := false
    pendingRequests := ∅ }
  setAttachment id ⟨.dapp, sender, ch⟩
  let s ← get
  send id (.notice ch s.inputs.now (.readyWaiting .dapp sender false))
  setAlarm unpairedTtlMs
  persistState

def handleCreate (id : Nat) (ch sender : String) : M τ Unit := do
  let s ← get
  match s.channelState with
  | .waiting =>
    dismiss (s.findPeerWs .dapp) (terminate ch .normal s.inputs.now)
    createChannel id ch sender
  | .connected =>
    match s.findPeerWs .dapp with
    | some _ => reject id ch .channelExists
    | none =>
      dismiss (s.findPeerWs .wallet) (terminate ch .normal s.inputs.now)
      createChannel id ch sender
  | .pendingAccept => reject id ch .channelExists
  | .closed => createChannel id ch sender
  | .none => createChannel id ch sender

/-! ### Join -/

/-- The dApp cannot be reached: back to waiting, so that the wallet can retry. -/
def revertJoin (id : Nat) (ch : String) : M τ Unit := do
  modify fun s => { s with walletPeerId := none, isReconnect := false, channelState := .waiting }
  record (.revoked id)
  reject id ch .channelNotFound
  persistState

def handleJoin (id : Nat) (ch sender : String) (sealedJoinNull : Bool) (raw : τ) : M τ Unit := do
  let s ← get
  if s.channelState ≠ .waiting then
    reject id ch (if s.channelState = .closed ∨ s.channelState = .none then .channelNotFound else .alreadyConnected)
  else
    modify fun s => { s with
      walletPeerId := some sender
      isReconnect := sealedJoinNull
      channelState := .pendingAccept }
    setAttachment id ⟨.wallet, sender, ch⟩
    let s ← get
    if ← trySend (s.findPeerWs .dapp) (.forwarded raw) then
      send id (.notice ch s.inputs.now (.readyWaiting .wallet sender sealedJoinNull))
      persistState
    else revertJoin id ch

/-! ### Accept -/

def handleAccept (id : Nat) (ch sender target : String) (senderRole : Role) : M τ Unit := do
  let s ← get
  if senderRole ≠ .dapp ∨ some sender ≠ s.dappPeerId then reject id ch .invalidRole
  else if s.channelState ≠ .pendingAccept then reject id ch .invalidState
  else if some target ≠ s.walletPeerId then
    sendAndClose id (.notice ch s.inputs.now (.terminate .protocolError (some target)))
  else
    let dappOk ← trySend (s.findPeerWs .dapp)
      (.notice ch s.inputs.now (.readyConnected .dapp sender target s.isReconnect))
    let walletOk ← trySend (s.findPeerWs .wallet)
      (.notice ch s.inputs.now (.readyConnected .wallet target sender s.isReconnect))
    if !dappOk ∧ !walletOk then
      closeChannel
      deleteAlarm
    else
      modify fun s => { s with channelState := .connected }
      setAlarm connectedTtlMs
      persistState

/-! ### Data and close -/

def Memory.peerId (m : Memory) : Role → Option String
  | .dapp => m.dappPeerId
  | .wallet => m.walletPeerId

/-- The set of unanswered requests after a message. -/
def track (pending : Finset String) (type : MessageType) (reqId : Option String) : Finset String :=
  match type, reqId with
  | .req, some id => insert id pending
  | .res, some id => pending.erase id
  | _, _ => pending

def handleData (id : Nat) (raw : τ) (ch sender : String) (type : MessageType) (reqId : Option String)
    (senderRole : Role) : M τ Unit := do
  let s ← get
  if some sender ≠ s.peerId senderRole then reject id ch .invalidRole
  else if !stateAllowsMessage s.channelState type senderRole then
    reject id ch (if (type = .req ∨ type = .res ∨ type = .evt) ∧ s.channelState ≠ .connected then .invalidState
      else .invalidRole)
  else if type = .req ∧ reqId ≠ none ∧ pendingRequestLimit ≤ s.pendingRequests.card then
    reject id ch .rateLimited
  else
    modify fun s => { s with pendingRequests := track s.pendingRequests type reqId }
    -- a peer that is absent or cannot be reached loses the frame, and nothing else
    let _ ← trySend (s.findPeerWs senderRole.other) (.forwarded raw)
    if type = .req ∨ type = .res then persistState

def handleClose (id : Nat) (raw : τ) (ch sender : String) (senderRole : Role) : M τ Unit := do
  let s ← get
  if some sender ≠ s.peerId senderRole then reject id ch .invalidRole
  else
    dismiss (s.findPeerWs senderRole.other) (.forwarded raw)
    closeSocket id
    closeChannel
    deleteAlarm

/-! ### Dispatch -/

/-- The first message on a socket must be create or join. -/
def handleFirstMessage (id : Nat) (msg : ClientMessage) (raw : τ) : M τ Unit :=
  match msg with
  | .create ch sender => handleCreate id ch sender
  | .join ch sender sealedJoinNull => handleJoin id ch sender sealedJoinNull raw
  | _ => reject id msg.channelId .invalidState

def handleMessage (id : Nat) (attachment : WsAttachment) (msg : ClientMessage) (raw : τ) : M τ Unit :=
  match msg with
  | .create ch sender => do
    let s ← get
    if nonEmpty s.dappPeerId ≠ none ∧ some sender ≠ s.dappPeerId then reject id ch .invalidRole
    else handleCreate id ch sender
  | .join ch _ _ => reject id ch .invalidState
  | .accept ch sender target => handleAccept id ch sender target attachment.role
  | .req ch sender reqId => handleData id raw ch sender .req (some reqId) attachment.role
  | .res ch sender reqId => handleData id raw ch sender .res (some reqId) attachment.role
  | .evt ch sender reqId => handleData id raw ch sender .evt (some reqId) attachment.role
  | .ping ch sender => handleData id raw ch sender .ping none attachment.role
  | .pong ch sender => handleData id raw ch sender .pong none attachment.role
  | .close ch sender _ => handleClose id raw ch sender attachment.role

/-- What a client sends: only text frames are read. -/
inductive Incoming (τ : Type) where
  | binary
  | text (raw : τ)

/-- A text frame past the size limit and the parser, or the reason to refuse it. -/
def readText [Wire τ] (raw : τ) : Except CloseReason ClientMessage :=
  if maxMessageBytes < Wire.units raw then .error .payloadTooLarge
  else match parseMessage dialect (Wire.json raw) with
    | .error e => .error e.toCloseReason
    | .ok msg => .ok msg

/-- What follows for a message the parser let through: it must name this channel. -/
def routeMessage (id : Nat) (msg : ClientMessage) (raw : τ) : M τ Unit := do
  let s ← get
  if some msg.channelId ≠ s.channelId then reject id msg.channelId .protocolError
  else match s.attachment id with
    | none => handleFirstMessage id msg raw
    | some attachment => handleMessage id attachment msg raw

def webSocketMessage [Wire τ] (id : Nat) (message : Incoming τ) : M τ Unit := do
  ensureInitialized
  let s ← get
  match message with
  | .binary => reject id (s.channelId.getD "unknown") .protocolError
  | .text raw =>
    match readText raw with
    | .error reason => reject id (s.channelId.getD "unknown") reason
    | .ok msg => routeMessage id msg raw

/-! ### Disconnects and the alarm -/

def handleDisconnect (id : Nat) : M τ Unit := do
  let s ← get
  match s.attachment id, nonEmpty s.channelId with
  | some attachment, some ch =>
    match s.channelState, attachment.role with
    | .waiting, .dapp => abandon s ch
    | .pendingAccept, .dapp => abandon s ch
    | .pendingAccept, .wallet =>
      modify fun s => { s with walletPeerId := none, isReconnect := false, channelState := .waiting }
      setAlarm unpairedTtlMs
      persistState
    | _, _ => return
  | _, _ => return
where
  /-- Without its dApp the channel is unusable before it is connected. -/
  abandon (s : ChannelDO τ) (ch : String) : M τ Unit := do
    dismiss (s.findPeerWs .wallet) (terminate ch .channelNotFound s.inputs.now)
    closeChannel
    deleteAlarm

/-- Close and error events are handled alike. -/
def webSocketClose (id : Nat) : M τ Unit := do
  ensureInitialized
  handleDisconnect id

def ChannelDO.getWebSockets (s : ChannelDO τ) : List Nat :=
  (List.range s.sockets.length).filter fun id => (s.sockets[id]?).any Socket.listed

def alarm : M τ Unit := do
  ensureInitialized
  let s ← get
  match nonEmpty s.channelId with
  | none => return
  | some ch =>
    s.getWebSockets.forM fun id => sendAndClose id (terminate ch .timeout s.inputs.now)
    closeChannel

/-! ### Upgrades -/

/-- The worker sends a valid upgrade request to the object of its channel. -/
def handleWebSocket (websocket : Bool) (ch : Option String) : Option String :=
  if websocket then (nonEmpty ch).filter validateChannelId else none

/-- The object's answer to an upgrade request: the status of its response. -/
def fetch (websocket : Bool) (ch : Option String) : M τ Nat :=
  if !websocket then return 426
  else match (nonEmpty ch).filter validateChannelId with
    | none => return 400
    | some ch => do
      modify fun s => { s with sockets := s.sockets ++ [{}] }
      ensureInitialized
      modify fun s => if s.channelId = none then { s with channelId := some ch } else s
      return 101

/-! ### Steps -/

/-- What the platform delivers. When a close event is handled the socket may still be
listed; a client can hang up some time before its close event. -/
inductive Event (τ : Type) where
  | upgrade (websocket : Bool) (ch : Option String)
  | message (id : Nat) (message : Incoming τ)
  | hangUp (id : Nat)
  | close (id : Nat) (listed : Bool)
  | error (id : Nat) (listed : Bool)
  | alarm
  | evict

def Socket.gone (listed : Bool) (socket : Socket) : Socket := { socket with readyState := .closed, listed }

/-- A socket that is gone sends nothing more. -/
def ChannelDO.canSend (s : ChannelDO τ) (id : Nat) : Bool :=
  (s.sockets[id]?).any fun socket => socket.readyState ≠ .closed

def disconnect (id : Nat) (listed : Bool) : M τ Unit := do
  updateSocket id (Socket.gone listed)
  webSocketClose id
  updateSocket id (Socket.gone false)

def ChannelDO.alarmDue (s : ChannelDO τ) : Bool := s.alarm.any fun time => time ≤ s.inputs.now

def act [Wire τ] : Event τ → M τ Unit
  | .upgrade websocket ch => do
    let s ← get
    if handleWebSocket websocket ch = some s.name then let _ ← fetch websocket ch
  | .message id message => do
    let s ← get
    if s.canSend id then webSocketMessage id message
  | .hangUp id => closeSocket id
  | .close id listed => disconnect id listed
  | .error id listed => disconnect id listed
  | .alarm => do
    let s ← get
    if s.alarmDue then
      deleteAlarm
      alarm
  | .evict => modify fun s => { s with toMemory := {} }

/-- One event under the given choices of the environment. -/
def step [Wire τ] (s : ChannelDO τ) (e : Inputs × Event τ) : ChannelDO τ := after (act e.2) { s with inputs := e.1 }

/-! ### A sample channel -/

namespace Sample

def channel : String := "aaaaaaaaaaaaaaaaaaaaaaaaaaaaaaaaaaaaaaaaaaaaaaaaaaaaaaaaaaaaaaaa"

/-- The create of a dApp whose key is 32 bytes of 1. -/
def create : String := "\x7b\"v\":1,\"t\":\"create\",\"ch\":\"aaaaaaaaaaaaaaaaaaaaaaaaaaaaaaaaaaaaaaaaaaaaaaaaaaaaaaaaaaaaaaaa\",\"ts\":1,\"from\":\"AQEBAQEBAQEBAQEBAQEBAQEBAQEBAQEBAQEBAQEBAQE\",\"body\":\x7b\"meta\":\x7b\x7d\x7d\x7d"

/-- The join of a wallet whose key is 32 bytes of 2. -/
def join : String := "\x7b\"v\":1,\"t\":\"join\",\"ch\":\"aaaaaaaaaaaaaaaaaaaaaaaaaaaaaaaaaaaaaaaaaaaaaaaaaaaaaaaaaaaaaaaa\",\"ts\":1,\"from\":\"AgICAgICAgICAgICAgICAgICAgICAgICAgICAgICAgI\",\"body\":\x7b\"sealed_join\":null\x7d\x7d"

/-- The dApp accepts that wallet. -/
def accept : String := "\x7b\"v\":1,\"t\":\"accept\",\"ch\":\"aaaaaaaaaaaaaaaaaaaaaaaaaaaaaaaaaaaaaaaaaaaaaaaaaaaaaaaaaaaaaaaa\",\"ts\":1,\"from\":\"AQEBAQEBAQEBAQEBAQEBAQEBAQEBAQEBAQEBAQEBAQE\",\"body\":\x7b\"target\":\"AgICAgICAgICAgICAgICAgICAgICAgICAgICAgICAgI\"\x7d\x7d"

def upgrade : Event String := .upgrade true (some channel)

def text (id : Nat) (raw : String) : Event String := .message id (.text raw)

end Sample

end WalletPair.Relay.Worker
