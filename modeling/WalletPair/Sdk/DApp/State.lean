import WalletPair.Lib.Program
import WalletPair.Lib.OrderedMap
import WalletPair.Sdk.Protocol

/-! The dApp-side session. Methods are programs over the object's fields; what a
method leaves to a later turn of the event loop (the continuation of a save or of
`connect`) is queued as data and run by a later label. Listeners may throw but do
not call back into the session while it is handling something. -/

namespace WalletPair.Sdk.DApp
open WalletPair.Lib WalletPair.Lib.Program

/-! ### Data -/

inductive Phase where
  | idle
  | waiting
  | pendingAccept
  | connected
  | disconnected
  | closed
  deriving DecidableEq

structure Options extends LinkOptions where
  dappMeta : DAppMeta
  url : Option String
  methods : Option (List String) := none
  chains : Option (List String) := none
  requestTimeout : Nat := 300000
  autoAccept : Bool := true
  resendOnReconnect : Bool := true
  deriving DecidableEq

/-- The object `serialize` writes. Fields that `restore` gives a default are optional;
`null` and a missing field read alike. -/
structure Snapshot where
  channelId : String
  privKey : Bytes
  pubKeyB64 : String
  remotePubKeyB64 : Option String
  sendKey : Option Bytes
  recvKey : Option Bytes
  sendSeq : Option Nat
  recvSeq : Option Int
  reqCounter : Option Nat
  paired : Option Bool
  dappMeta : Option DAppMeta
  dappName : Option String := none
  approvedScopeRecorded : Option Bool
  approvedCapabilities : Option Json
  approvedWalletMeta : Option Json
  approvedWalletPubKeyB64 : Option String
  sessionStartTime : Option Nat

/-- A phase change also shows what `serialize()` returns to a listener at that moment. -/
inductive Event where
  | phase (phase : Phase) (seen : Option Snapshot)
  | pairingUri (uri : String)
  | sessionFingerprint (code : String)
  | walletJoined (capabilities walletMeta : Option Json)
  | response (id : String) (ok : Bool) (result : Option Json)
  | event (name data : Json)
  | reconnectExhausted (attempts : Nat)
  | error (message : String)

/-- How a promise returned by `request` ends. -/
inductive Outcome where
  | resolved (value : Option Json)
  | failed (error : String)
  | refused (message : Json) (code : Option Json)

/-- What the world sees of the session, in order. -/
inductive Obs where
  | emitted (event : Event)
  | sealing (frame : Sealed)
  | sent (message : ProtocolMessage) (frame : Option Sealed) (disk : Disk Snapshot)
  | delivered (d : Delivery)
  | settled (promise : Nat) (outcome : Outcome)
  | joinPending (key : Bytes)
  | accepted (key : Option Bytes)

structure PendingRequest where
  id : String
  method : String
  params : Option Json
  promise : Nat

/-- The timer a request armed; it outlives a map entry that was replaced. -/
structure RequestTimer where
  promise : Nat
  id : String
  method : String
  due : Nat
  deriving DecidableEq

/-- Continuations waiting for a save or a clear. -/
inductive Task where
  | request (promise : Nat) (id method : String) (params : Option Json) (seq : Nat)
  | resend (promise : Nat) (id method : String) (params : Option Json) (seq : Nat)
  | response (promise : Nat) (frame : Delivery) (data : Json) (prevRecvSeq : Int)
  | event (frame : Delivery) (data : Json) (prevRecvSeq : Int)
  | accept (target : String)
  | snapshot
  | cleared

/-- Continuations waiting for `transport.connect()`. -/
inductive Await where
  | pairing
  | reconnect
  deriving DecidableEq

/-- The session object, the transport's URL, what is queued in the event loop, and the
record of what happened: `staleBelow` are the tickets handed out before the last call that
closed the session or started a pairing. -/
structure Session where
  options : Options
  url : Option String
  phase : Phase := .idle
  channelId : String := ""
  pairingUri : String := ""
  sessionFingerprint : String := ""
  dappMeta : DAppMeta
  walletCapabilities : Option Json := none
  walletMeta : Option Json := none
  approvedCapabilities : Option Json := none
  approvedWalletMeta : Option Json := none
  approvedWalletPubKeyB64 : Option String := none
  approvedScopeRecorded : Bool := false
  timers : Timers := {}
  pendingAcceptTimer : Option Nat := none
  orphanedAcceptTimers : List Nat := []
  requestTimers : List RequestTimer := []
  reconnecting : Bool := false
  reconnectAttempt : Nat := 0
  reconnectStartedAt : Nat := 0
  sessionStartTime : Option Nat := none
  privKey : Option Bytes := none
  pubKeyB64 : String := ""
  remotePubKey : Option Bytes := none
  sendKey : Option Bytes := none
  recvKey : Option Bytes := none
  sendSeq : Nat := 0
  recvSeq : Int := -1
  paired : Bool := false
  intentionalClose : Bool := false
  reqCounter : Nat := 0
  pendingRequests : OrderedMap PendingRequest := .empty
  muted : Bool := false
  journal : Journal Snapshot Task := .fresh
  connects : List (Nat × Await) := []
  ticket : Nat := 0
  staleBelow : Nat := 0
  trace : List Obs := []
  inputs : Inputs := {}

/-- `new DAppSession(options)`. -/
def Session.new (options : Options) : Session :=
  { options, url := options.url, dappMeta := options.dappMeta }

abbrev M := Prog Session

/-! ### Effects -/

def record (o : Obs) : M Unit := modify fun s => { s with trace := s.trace ++ [o] }

def freshTicket : M Nat := do
  let s ← get
  modify fun s => { s with ticket := s.ticket + 1 }
  return s.ticket

/-- Calls the listeners; one that throws ends the emission. -/
def emit (event : Event) : M Unit := do
  let s ← get
  if s.muted then return
  record (.emitted event)
  match s.inputs.throws with
  | [] => return
  | throws :: rest =>
    modify fun s => { s with inputs := { s.inputs with throws := rest } }
    if throws then throw "listener"

/-- Whether the next emission returns: nobody listens, or no listener throws. -/
def Session.hears (s : Session) : Bool := s.muted || s.inputs.throws.head? != some true

/-- The session after an emission, returned or thrown. -/
def Session.emitting (s : Session) (event : Event) : Session :=
  if s.muted then s
  else { s with trace := s.trace ++ [.emitted event], inputs := { s.inputs with throws := s.inputs.throws.tail } }

theorem emit_apply (event : Event) (s : Session) :
    emit event s = if s.hears then .ok () (s.emitting event) else .error "listener" (s.emitting event) := by
  unfold emit
  rw [get_bind_apply]
  by_cases muted : s.muted = true
  · simp [Session.hears, Session.emitting, muted]
  · rcases heard : s.inputs with ⟨now, throws, jitter, nonce⟩
    rcases throws with _ | ⟨_ | _, rest⟩ <;> simp [Session.hears, Session.emitting, muted, heard, record]

theorem after_emit (event : Event) (s : Session) : after (emit event) s = s.emitting event := by
  unfold after
  rw [emit_apply]
  split_ifs <;> rfl

/-- A promise keeps its first outcome. -/
def settle (promise : Nat) (outcome : Outcome) : M Unit :=
  modify fun s =>
    if s.trace.any (fun o => match o with | .settled p _ => p == promise | _ => false) then s
    else { s with trace := s.trace ++ [.settled promise outcome] }

def sendRaw (body : Body) (frame : Option Sealed) : M Unit := do
  let s ← get
  let message : ProtocolMessage := ⟨1, s.channelId, s.inputs.now, s.pubKeyB64, body⟩
  if message.wireBytes > maxMessageBytes then emit (.error "Message exceeds 64 KB limit")
  else record (.sent message frame s.journal.disk)

/-! ### Snapshots -/

/-- `value ?? null` as it reads back: a JSON null is an absent value. -/
def nullish : Option Json → Option Json
  | some .null => none
  | value => value

/-- The snapshot, or nothing where `serialize()` throws for want of a key pair. -/
def Session.serialize (s : Session) : Option Snapshot :=
  s.privKey.map fun privKey => {
    channelId := s.channelId
    privKey
    pubKeyB64 := s.pubKeyB64
    remotePubKeyB64 := s.remotePubKey.map b64urlEncode
    sendKey := s.sendKey
    recvKey := s.recvKey
    sendSeq := some s.sendSeq
    recvSeq := some s.recvSeq
    reqCounter := some s.reqCounter
    paired := some s.paired
    dappMeta := some s.dappMeta
    approvedScopeRecorded := some s.approvedScopeRecorded
    approvedCapabilities := nullish s.approvedCapabilities
    approvedWalletMeta := nullish s.approvedWalletMeta
    approvedWalletPubKeyB64 := s.approvedWalletPubKeyB64
    sessionStartTime := s.sessionStartTime }

/-- Hands the snapshot to the adapter. The result says whether `task` now waits for a
promise; otherwise the caller goes on at once. -/
def persistSnapshot (task : Task) : M Bool := do
  let s ← get
  match s.options.persistence with
  | none => return false
  | some adapter =>
    match s.serialize with
    | none => throw "serialize"
    | some snapshot =>
      if adapter.async then
        modify fun s => { s with ticket := s.ticket + 1, journal := s.journal.enqueue s.ticket (some snapshot) task }
        return true
      else
        modify fun s => { s with journal := s.journal.put (some snapshot) }
        return false

def persistSnapshotAsync : M Unit := do
  let _ ← persistSnapshot .snapshot

def clearPersistence : M Unit :=
  modify fun s =>
    match s.options.persistence with
    | none => s
    | some adapter =>
      if adapter.clears then
        if adapter.async then
          { s with ticket := s.ticket + 1, journal := s.journal.enqueue s.ticket none .cleared }
        else { s with journal := s.journal.put none }
      else s

/-! ### Phases and timers -/

def setPhase (phase : Phase) : M Unit := do
  let s ← get
  if s.phase = phase then return
  modify fun s => { s with
    phase
    timers := if phase = .connected then s.timers else s.timers.stopHeartbeat }
  emit (.phase phase s.serialize)

def stopReconnect : M Unit := modify fun s => { s with timers := s.timers.stopReconnect }

def clearPendingAcceptTimer : M Unit := modify fun s => { s with pendingAcceptTimer := none }

def clearSessionTtl : M Unit := modify fun s => { s with timers := s.timers.clearSessionTtl }

def startSessionTtl : M Unit :=
  modify fun s =>
    let start := s.sessionStartTime.getD s.inputs.now
    { s with
      sessionStartTime := some start
      timers := s.timers.startSessionTtl s.options.sessionTtl start s.inputs.now }

def startHeartbeat : M Unit :=
  modify fun s => { s with timers := s.timers.startHeartbeat s.options.heartbeatInterval s.inputs.now }

/-- Reject and clear every pending request and its timeout. -/
def rejectAllPending (error : String) : M Unit := do
  let s ← get
  s.pendingRequests.values.forM fun req => do
    modify fun s => { s with requestTimers := s.requestTimers.filter (fun t => t.promise != req.promise) }
    settle req.promise (.failed error)
  modify fun s => { s with pendingRequests := .empty }

/-- Gracefully close the session. -/
def close (reason : String) : M Unit := do
  modify fun s => { s with intentionalClose := true, staleBelow := s.ticket }
  clearPendingAcceptTimer
  clearSessionTtl
  stopReconnect
  rejectAllPending "Session closed"
  let s ← get
  if s.channelId ≠ "" then sendRaw (.close reason) none
  clearPersistence
  setPhase .closed

def persistenceError (error : String) : M String := do
  let wrapped := "Session persistence failed: " ++ error
  emit (.error wrapped)
  close "protocol_error"
  return wrapped

end WalletPair.Sdk.DApp
