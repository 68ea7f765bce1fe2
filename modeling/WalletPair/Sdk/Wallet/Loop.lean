import WalletPair.Lib.Run
import WalletPair.Sdk.Wallet.Session

/-! The event loop around a wallet session: restoring a snapshot, the continuations of
saves and connects, timers, crashes, and one step for each way the outside can act. -/

namespace WalletPair.Sdk.Wallet
open WalletPair.Lib WalletPair.Lib.Program

section
variable (C : Crypto)

/-! ### Restore and destroy -/

def restoreRemote (remotePubKeyB64 : Option String) : M Unit :=
  match nonEmpty remotePubKeyB64 with
  | none => modify fun s => { s with remotePubKey := none }
  | some text =>
    match b64urlDecode text with
    | none => throw "invalid base64"
    | some bytes => modify fun s => { s with remotePubKey := some bytes }

/-- A snapshot taken under other capabilities or another identity is refused. -/
def sameOffer (d : Snapshot) (options : Options) : Except String Bool := do
  if d.capabilities ≠ none ∧
      (← canonicalJson C d.capabilities) ≠ (← canonicalJson C (some options.capabilities)) then return false
  if d.walletMeta ≠ none ∧
      (← canonicalJson C d.walletMeta) ≠ (← canonicalJson C options.walletMeta) then return false
  return true

/-- From the parsed snapshot on. `false` leaves the fields assigned so far. -/
def restore (d : Snapshot) : M Bool := do
  if d.channelId = "" ∨ d.privKey = [] then return false
  modify fun s => { s with channelId := d.channelId, privKey := some d.privKey, pubKeyB64 := d.pubKeyB64 }
  restoreRemote d.remotePubKeyB64
  modify fun s => { s with sendKey := d.sendKey, recvKey := d.recvKey }
  if d.sendKey = none ∨ d.recvKey = none then return false
  modify fun s => { s with
    sendSeq := d.sendSeq.getD 0
    recvSeq := d.recvSeq.getD (-1)
    relayUrl := d.relayUrl }
  let s ← get
  if ← runExcept (sameOffer C d s.options) then
    modify fun s => { s with dappName := d.dappName, sessionStartTime := d.sessionStartTime }
    setPhase .connected
    return true
  else return false

/-- `restore` answers `false` instead of throwing. -/
def restoreSafely (d : Snapshot) : M Bool := tryCatch (restore C d) fun _ => return false

def reconnect : M Unit := do
  modify fun s => { s with intentionalClose := false }
  stopReconnect
  setPhase .disconnected
  modify fun s => { s with reconnectAttempt := 0 }
  doReconnectAttempt

/-- Close, drop the listeners and wipe the keys and caches. -/
def destroy : M Unit := do
  close "normal"
  modify fun s => { s with
    muted := true
    privKey := s.privKey.map (fun key => key.map (fun _ => 0)) }
  forgetRequests
  modify fun s => { s with sessionKey := none, sendKey := none, recvKey := none }

/-! ### Continuations -/

/-- The session's own answers report a failure; the application's hand it to the caller. -/
def observeSend (observed : Bool) (error : String) : M Unit :=
  if observed then emit (.error error) else return

/-- A rejected `sendJoin` ends a reconnect attempt; after `confirmJoin` the caller gets it. -/
def joinFailed (reconnecting : Bool) (error : String) : M Unit :=
  tryCatch (do
      let _ ← persistenceError error
      if reconnecting then scheduleReconnect)
    fun _ => if reconnecting then scheduleReconnect else return

/-- What follows a save that succeeded. -/
def resume : Task → M Unit
  | .respond id ok data caches observed seq =>
    tryCatch (do let _ ← sendAnswer C id ok data caches seq) fun e => observeSend observed e
  | .event name data evtId seq => tryCatch (sendEvent C name data evtId seq) fun _ => return
  | .request frame data prevRecvSeq =>
    tryCatch (deliverRequest C frame data) fun e => do
      modify fun s => { s with recvSeq := prevRecvSeq }
      let wrapped ← persistenceError e
      emit (.error wrapped)
  | .join channelId sender ts sealedJoin reconnecting =>
    tryCatch (sendMessage ⟨1, channelId, ts, sender, .join sealedJoin⟩ none) fun e => joinFailed reconnecting e
  | .snapshot => return
  | .cleared => return

/-- What follows a save that was rejected. -/
def fail (error : String) : Task → M Unit
  | .respond _ _ _ _ observed _ =>
    tryCatch (do
        let wrapped ← persistenceError error
        throw wrapped)
      fun e => observeSend observed e
  | .event _ _ _ _ => do
    let _ ← persistenceError error
  | .request _ _ prevRecvSeq => do
    modify fun s => { s with recvSeq := prevRecvSeq }
    let wrapped ← persistenceError error
    emit (.error wrapped)
  | .join _ _ _ _ reconnecting => joinFailed reconnecting error
  | .snapshot => do
    let _ ← persistenceError error
  | .cleared => emit (.error error)

/-! ### Timers and connects -/

inductive TimerName where
  | reconnect
  | heartbeat
  | liveness
  | sessionTtl
  deriving DecidableEq

def fire (name : TimerName) : M Unit := do
  let s ← get
  match name with
  | .reconnect =>
    if due s.inputs.now s.timers.reconnect then
      modify fun s => { s with timers := s.timers.stopReconnect }
      doReconnectAttempt
      modify fun s => { s with reconnectAttempt := s.reconnectAttempt + 1 }
  | .heartbeat =>
    if due s.inputs.now s.timers.heartbeat then
      modify fun s => { s with timers := { s.timers with
        heartbeat := some (s.inputs.now + s.options.heartbeatInterval) } }
      if s.phase = .connected then
        ping
        modify fun s =>
          if s.timers.liveness = none then
            { s with timers := { s.timers with liveness := some (s.inputs.now + s.options.heartbeatTimeout) } }
          else s
  | .liveness =>
    if due s.inputs.now s.timers.liveness then
      modify fun s => { s with timers := s.timers.clearLiveness }
      handleTransportClose
  | .sessionTtl =>
    if due s.inputs.now s.timers.sessionTtl then
      modify fun s => { s with timers := s.timers.clearSessionTtl }
      emit (.error "Session lifetime expired")
      close "timeout"

/-- What follows `transport.connect()`. -/
def connected (next : Await) (ok : Bool) : M Unit :=
  match next, ok with
  | .confirm, true => do
    setPhase .waitingAccept
    sendJoin C false
  | .confirm, false => return
  | .reconnect, true => tryCatch
      (do
        setPhase .waitingAccept
        sendJoin C true)
      fun _ => scheduleReconnect
  | .reconnect, false => scheduleReconnect

/-! ### Steps -/

/-- Every way the outside can act on the session. -/
inductive Label where
  | prepareJoin (parsed : PairingParams) (privateKey : Bytes)
  | confirmJoin
  | approve (id : String) (result : Option Json)
  | reject (id code message : String)
  | pushEvent (name : String) (data : Option Json)
  | ping
  | close (reason : String)
  | destroy
  | restore (snapshot : Snapshot)
  | reconnect
  | message (msg : ProtocolMessage)
  | transportClose
  | fire (name : TimerName)
  | flush (ticket : Nat)
  | settle (ticket : Nat) (ok : Bool)
  | connect (ticket : Nat) (ok : Bool)
  | crash

/-- The continuation of one call is taken out of the queue and run. A promise resolves
only after its write is durable. -/
def settleCall (ticket : Nat) (ok : Bool) : M Unit := do
  let s ← get
  match s.journal.find ticket with
  | none => return
  | some call =>
    if ok then
      if call.durable then
        modify fun s => { s with journal := s.journal.remove ticket }
        resume C call.task
    else
      modify fun s => { s with journal := s.journal.remove ticket }
      fail "save" call.task

def settleConnect (ticket : Nat) (ok : Bool) : M Unit := do
  let s ← get
  match s.connects.find? (fun c => c.1 == ticket) with
  | none => return
  | some (_, next) =>
    modify fun s => { s with connects := s.connects.filter (fun c => c.1 != ticket) }
    connected C next ok

/-- The session that a new process constructs with the same options, over the same storage:
the journal keeps what is durable, and the record goes on. -/
def Session.renewed (s : Session) : Session :=
  { Session.new s.options with
    journal := s.journal.crash
    ticket := s.ticket
    staleBelow := s.staleBelow
    trace := s.trace
    inputs := s.inputs }

/-- The process dies, and the new object restores what storage holds. -/
def restart : M Unit := do
  modify Session.renewed
  let s ← get
  match s.journal.disk.contents with
  | none => return
  | some snapshot => let _ ← restoreSafely C snapshot

theorem restart_of_empty {s : Session} (empty : s.journal.disk.contents = none) : after (restart C) s = s.renewed := by
  have loaded : s.renewed.journal.disk.contents = none := empty
  unfold restart
  rw [after_modify_bind, after_get_bind, loaded]
  rfl

theorem restart_of_stored {s : Session} {snapshot : Snapshot} (stored : s.journal.disk.contents = some snapshot) :
    after (restart C) s = after (restoreSafely C snapshot) s.renewed := by
  have loaded : s.renewed.journal.disk.contents = some snapshot := stored
  unfold restart
  rw [after_modify_bind, after_get_bind, loaded]
  exact after_bind_pure (restoreSafely C snapshot) _ _

def act : Label → M Unit
  | .prepareJoin parsed privateKey => prepareJoin C parsed privateKey
  | .confirmJoin => confirmJoin
  | .approve id result => approve C id result
  | .reject id code message => reject C id code message false
  | .pushEvent name data => pushEvent C name data
  | .ping => ping
  | .close reason => close reason
  | .destroy => destroy
  | .restore snapshot => do
    let _ ← restoreSafely C snapshot
  | .reconnect => reconnect
  | .message msg => handleMessage C msg
  | .transportClose => handleTransportClose
  | .fire name => fire name
  | .flush ticket => modify fun s => { s with journal := s.journal.flush ticket }
  | .settle ticket ok => settleCall C ticket ok
  | .connect ticket ok => settleConnect C ticket ok
  | .crash => restart C

/-- One turn of the event loop under the given choices of the environment. -/
def step (s : Session) (l : Inputs × Label) : Session := after (act C l.2) { s with inputs := l.1 }

end

namespace Sample

/-- A wallet that grants one method, with synchronous or asynchronous storage. -/
def options (async : Bool) : Options :=
  { capabilities := .obj [("methods", .arr [.str "m"]), ("events", .arr []), ("chains", .arr [])]
    walletMeta := none, canSetUrl := false, persistence := some ⟨async, true⟩ }

/-- The labels that complete the sample pairing with asynchronous storage. -/
def pairing : List (Inputs × Label) :=
  [({}, .confirmJoin), ({ nonce := List.replicate 12 0 }, .connect 0 true), ({}, .flush 1), ({}, .settle 1 true),
    ({}, .message (Sdk.Sample.ready Sdk.Sample.dappKey)), ({}, .flush 2), ({}, .settle 2 true)]

end Sample

end WalletPair.Sdk.Wallet
