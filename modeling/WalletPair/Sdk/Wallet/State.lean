import WalletPair.Lib.Program
import WalletPair.Lib.OrderedMap
import WalletPair.Sdk.Protocol

/-! The wallet-side session: its fields, its snapshot, and the effects every method is
built from. Modelled as the dApp session is: methods are programs over the fields,
and continuations of saves and connects are queued as data. -/

namespace WalletPair.Sdk.Wallet
open WalletPair.Lib WalletPair.Lib.Program

/-! ### Data -/

inductive Phase where
  | idle
  | waiting
  | waitingAccept
  | connected
  | disconnected
  | closed
  deriving DecidableEq

structure Options extends LinkOptions where
  capabilities : Json
  walletMeta : Option Json

/-- The object `serialize` writes. For `capabilities` and `walletMeta` a missing field
(`none`) is told from `null`, as `restore` does. -/
structure Snapshot where
  channelId : String
  privKey : Bytes
  pubKeyB64 : String
  remotePubKeyB64 : Option String
  sendKey : Option Bytes
  recvKey : Option Bytes
  sendSeq : Option Nat
  recvSeq : Option Int
  relayUrl : String
  capabilities : Option Json
  walletMeta : Option Json
  dappName : Option String
  sessionStartTime : Option Nat

structure PendingRequestRecord where
  paramsHash : String
  method : String
  deriving DecidableEq

structure CachedRequestResponse extends PendingRequestRecord where
  ok : Bool
  data : Option Json
  tooLarge : Bool

inductive Event where
  | phase (phase : Phase)
  | sessionFingerprint (code : String)
  | request (id method : String) (params : Json)
  | reconnectExhausted (attempts : Nat)
  | error (message : String)

/-- What the world sees of the session, in order, and the moves of its caches. -/
inductive Obs where
  | emitted (event : Event)
  | prompting (id : String) (plaintext : Bytes)
  | sealing (frame : Sealed)
  | sent (message : ProtocolMessage) (frame : Option Sealed) (disk : Disk Snapshot)
  | delivered (d : Delivery)
  | approving (id : String) (result : Option Json)
  | answering (id : String) (ok : Bool) (data : Option Json)
  | recorded (id : String) (entry : CachedRequestResponse)
  | broadcast (id : String)
  | reused (id : String)

/-- Continuations waiting for a save or a clear. `caches` tells the answers of `approve`
and `reject`, which are recorded, from those taken out of a cache; `observed` tells the
session's own answers from the application's. -/
inductive Task where
  | respond (id : String) (ok : Bool) (data : Option Json) (caches observed : Bool) (seq : Nat)
  | event (name : String) (data : Option Json) (evtId : String) (seq : Nat)
  | request (frame : Delivery) (data : Json) (prevRecvSeq : Int)
  | join (channelId sender : String) (ts : Nat) (sealedJoin : SealedJoin) (reconnecting : Bool)
  | snapshot
  | cleared

inductive Await where
  | confirm
  | reconnect
  deriving DecidableEq

/-- The session object, what is queued in the event loop, and the record of what happened:
`staleBelow` are the tickets handed out before the last call that closed the session or
started a pairing. -/
structure Session where
  options : Options
  url : String := ""
  phase : Phase := .idle
  channelId : String := ""
  sessionFingerprint : String := ""
  effectiveCapabilities : Json
  timers : Timers := {}
  reconnecting : Bool := false
  reconnectAttempt : Nat := 0
  reconnectStartedAt : Nat := 0
  sessionStartTime : Option Nat := none
  privKey : Option Bytes := none
  pubKeyB64 : String := ""
  remotePubKey : Option Bytes := none
  sessionKey : Option Bytes := none
  sendKey : Option Bytes := none
  recvKey : Option Bytes := none
  sendSeq : Nat := 0
  recvSeq : Int := -1
  relayUrl : String := ""
  dappName : Option String := none
  dappDeclaredMethods : Option (List String) := none
  dappDeclaredChains : Option (List String) := none
  intentionalClose : Bool := false
  evtCounter : Nat := 0
  pendingRequestRecords : OrderedMap PendingRequestRecord := .empty
  idempotencyCache : OrderedMap CachedRequestResponse := .empty
  broadcastResponseCache : OrderedMap CachedRequestResponse := .empty
  muted : Bool := false
  journal : Journal Snapshot Task := .fresh
  connects : List (Nat × Await) := []
  ticket : Nat := 0
  staleBelow : Nat := 0
  trace : List Obs := []
  inputs : Inputs := {}

/-- `new WalletSession(options)`. -/
def Session.new (options : Options) : Session :=
  { options, effectiveCapabilities := options.capabilities }

abbrev M := Prog Session

def idempotencyCacheLimit : Nat := 1024
def idempotencyResponseLimitBytes : Nat := 16 * 1024
def broadcastCacheLimit : Nat := 256

/-! ### Effects -/

def record (o : Obs) : M Unit := modify fun s => { s with trace := s.trace ++ [o] }

/-- Calls the listeners; one that throws ends the emission. -/
def emit (event : Event) : M Unit := do
  let s ← get
  if s.muted then return
  record (.emitted event)
  match s.inputs.throws with
  | [] => return
  | throws :: rest =>
    modify fun s => { s with inputs := { s.inputs with throws := rest } }
    if throws then throw "listener"

/-- Whether the next emission returns: nobody listens, or no listener throws. -/
def Session.hears (s : Session) : Bool := s.muted || s.inputs.throws.head? != some true

/-- The session after an emission, returned or thrown. -/
def Session.emitting (s : Session) (event : Event) : Session :=
  if s.muted then s
  else { s with trace := s.trace ++ [.emitted event], inputs := { s.inputs with throws := s.inputs.throws.tail } }

theorem emit_apply (event : Event) (s : Session) :
    emit event s = if s.hears then .ok () (s.emitting event) else .error "listener" (s.emitting event) := by
  unfold emit
  rw [get_bind_apply]
  by_cases muted : s.muted = true
  · simp [Session.hears, Session.emitting, muted]
  · rcases heard : s.inputs with ⟨now, throws, jitter, nonce⟩
    rcases throws with _ | ⟨_ | _, rest⟩ <;> simp [Session.hears, Session.emitting, muted, heard, record]

theorem after_emit (event : Event) (s : Session) : after (emit event) s = s.emitting event := by
  unfold after
  rw [emit_apply]
  split_ifs <;> rfl

def sendMessage (message : ProtocolMessage) (frame : Option Sealed) : M Unit := do
  let s ← get
  if message.wireBytes > maxMessageBytes then emit (.error "Message exceeds 64 KB limit")
  else record (.sent message frame s.journal.disk)

/-- A message that is built as it is sent. -/
def sendRaw (body : Body) (frame : Option Sealed) : M Unit := do
  let s ← get
  sendMessage ⟨1, s.channelId, s.inputs.now, s.pubKeyB64, body⟩ frame

/-! ### Snapshots -/

/-- The snapshot, or nothing where `serialize()` throws for want of a key pair. -/
def Session.serialize (s : Session) : Option Snapshot :=
  s.privKey.map fun privKey => {
    channelId := s.channelId
    privKey
    pubKeyB64 := s.pubKeyB64
    remotePubKeyB64 := s.remotePubKey.map b64urlEncode
    sendKey := s.sendKey
    recvKey := s.recvKey
    sendSeq := some s.sendSeq
    recvSeq := some s.recvSeq
    relayUrl := s.relayUrl
    capabilities := some s.options.capabilities
    walletMeta := some (s.options.walletMeta.getD .null)
    dappName := s.dappName
    sessionStartTime := s.sessionStartTime }

/-- Hands the snapshot to the adapter. The result says whether `task` now waits for a
promise; otherwise the caller goes on at once. -/
def persistSnapshot (task : Task) : M Bool := do
  let s ← get
  match s.options.persistence with
  | none => return false
  | some adapter =>
    match s.serialize with
    | none => throw "serialize"
    | some snapshot =>
      if adapter.async then
        modify fun s => { s with ticket := s.ticket + 1, journal := s.journal.enqueue s.ticket (some snapshot) task }
        return true
      else
        modify fun s => { s with journal := s.journal.put (some snapshot) }
        return false

def persistSnapshotAsync : M Unit := do
  let _ ← persistSnapshot .snapshot

def clearPersistence : M Unit :=
  modify fun s =>
    match s.options.persistence with
    | none => s
    | some adapter =>
      if adapter.clears then
        if adapter.async then
          { s with ticket := s.ticket + 1, journal := s.journal.enqueue s.ticket none .cleared }
        else { s with journal := s.journal.put none }
      else s

/-! ### Phases and timers -/

def setPhase (phase : Phase) : M Unit := do
  let s ← get
  if s.phase = phase then return
  modify fun s => { s with
    phase
    timers := if phase = .connected then s.timers else s.timers.stopHeartbeat }
  emit (.phase phase)

def stopReconnect : M Unit := modify fun s => { s with timers := s.timers.stopReconnect }

def clearSessionTtl : M Unit := modify fun s => { s with timers := s.timers.clearSessionTtl }

def startSessionTtl : M Unit :=
  modify fun s =>
    let start := s.sessionStartTime.getD s.inputs.now
    { s with
      sessionStartTime := some start
      timers := s.timers.startSessionTtl s.options.sessionTtl start s.inputs.now }

def startHeartbeat : M Unit :=
  modify fun s => { s with timers := s.timers.startHeartbeat s.options.heartbeatInterval s.inputs.now }

def forgetRequests : M Unit :=
  modify fun s => { s with
    pendingRequestRecords := .empty
    idempotencyCache := .empty
    broadcastResponseCache := .empty }

/-- Gracefully close. -/
def close (reason : String) : M Unit := do
  modify fun s => { s with intentionalClose := true, staleBelow := s.ticket }
  stopReconnect
  clearSessionTtl
  forgetRequests
  let s ← get
  if s.channelId ≠ "" then sendRaw (.close reason) none
  clearPersistence
  setPhase .closed

def persistenceError (error : String) : M String := do
  let wrapped := "Session persistence failed: " ++ error
  emit (.error wrapped)
  close "protocol_error"
  return wrapped

end WalletPair.Sdk.Wallet
