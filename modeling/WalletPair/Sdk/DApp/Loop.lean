import WalletPair.Lib.Run
import WalletPair.Sdk.DApp.Session

/-! The event loop around a dApp session: restoring a snapshot, the continuations of
saves and connects, timers, crashes, and one step for each way the outside can act. -/

namespace WalletPair.Sdk.DApp
open WalletPair.Lib WalletPair.Lib.Program

/-! ### Restore and destroy -/

def restoreRemote (remotePubKeyB64 : Option String) : M Unit :=
  match nonEmpty remotePubKeyB64 with
  | none => modify fun s => { s with remotePubKey := none }
  | some text =>
    match b64urlDecode text with
    | none => throw "invalid base64"
    | some bytes => modify fun s => { s with remotePubKey := some bytes }

/-- The counters and the approved scope. -/
def restoreScope (d : Snapshot) : M Unit :=
  modify fun s => { s with
    sendSeq := d.sendSeq.getD 0
    recvSeq := d.recvSeq.getD (-1)
    reqCounter := d.reqCounter.getD 0
    paired := d.paired.getD false
    approvedScopeRecorded := d.approvedScopeRecorded = some true
    approvedCapabilities := d.approvedCapabilities
    approvedWalletMeta := d.approvedWalletMeta
    approvedWalletPubKeyB64 := d.approvedWalletPubKeyB64 <|> d.remotePubKeyB64
    walletCapabilities := d.approvedCapabilities
    walletMeta := d.approvedWalletMeta
    dappMeta := (d.dappMeta <|> (nonEmpty d.dappName).map (fun name => DAppMeta.mk name "" "" "")).getD s.dappMeta
    sessionStartTime := d.sessionStartTime }

/-- From the parsed snapshot on. `false` leaves the fields assigned so far. -/
def restore (d : Snapshot) : M Bool := do
  if d.channelId = "" ∨ d.privKey = [] then return false
  modify fun s => { s with channelId := d.channelId, privKey := some d.privKey, pubKeyB64 := d.pubKeyB64 }
  restoreRemote d.remotePubKeyB64
  modify fun s => { s with sendKey := d.sendKey, recvKey := d.recvKey }
  if d.sendKey = none ∨ d.recvKey = none then return false
  restoreScope d
  setPhase .connected
  return true

/-- `restore` answers `false` instead of throwing. -/
def restoreSafely (d : Snapshot) : M Bool := tryCatch (restore d) fun _ => return false

def reconnect : M Unit := do
  modify fun s => { s with intentionalClose := false }
  stopReconnect
  setPhase .disconnected
  modify fun s => { s with reconnectAttempt := 0 }
  doReconnectAttempt

/-- Close, drop the listeners and wipe the keys. -/
def destroy : M Unit := do
  close "normal"
  modify fun s => { s with
    muted := true
    privKey := s.privKey.map (fun key => key.map (fun _ => 0))
    sendKey := none
    recvKey := none }

/-! ### The event loop -/

section
variable (C : Crypto)

/-- What follows a save that succeeded. -/
def resume : Task → M Unit
  | .request promise id method params seq =>
    tryCatch (sendRequest C promise id method params seq) fun e => settle promise (.failed e)
  | .resend promise id method params seq =>
    tryCatch (sendResend C promise id method params seq) fun _ => return
  | .response promise frame data prevRecvSeq =>
    tryCatch (deliverResponse promise frame data) fun e => do
      modify fun s => { s with recvSeq := prevRecvSeq }
      let wrapped ← persistenceError e
      settle promise (.failed wrapped)
  | .event frame data prevRecvSeq =>
    tryCatch (deliverEvent frame data) fun e => do
      modify fun s => { s with recvSeq := prevRecvSeq }
      let wrapped ← persistenceError e
      emit (.error wrapped)
  | .accept target => tryCatch (sendRaw (.accept target) none) fun e => do
      let _ ← persistenceError e
  | .snapshot => return
  | .cleared => return

/-- What follows a save that was rejected. -/
def fail (error : String) : Task → M Unit
  | .request promise _ _ _ _ => tryCatch
      (do
        let wrapped ← persistenceError error
        settle promise (.failed wrapped))
      fun e => settle promise (.failed e)
  | .resend _ _ _ _ _ => do
    let _ ← persistenceError error
  | .response promise _ _ prevRecvSeq => do
    modify fun s => { s with recvSeq := prevRecvSeq }
    let wrapped ← persistenceError error
    settle promise (.failed wrapped)
  | .event _ _ prevRecvSeq => do
    modify fun s => { s with recvSeq := prevRecvSeq }
    let wrapped ← persistenceError error
    emit (.error wrapped)
  | .accept _ => do
    let _ ← persistenceError error
  | .snapshot => do
    let _ ← persistenceError error
  | .cleared => emit (.error error)

inductive TimerName where
  | pendingAccept
  | orphanedAccept (index : Nat)
  | reconnect
  | heartbeat
  | liveness
  | sessionTtl
  | request (promise : Nat)
  deriving DecidableEq

def fire (name : TimerName) : M Unit := do
  let s ← get
  match name with
  | .pendingAccept =>
    if due s.inputs.now s.pendingAcceptTimer then
      modify fun s => { s with pendingAcceptTimer := none }
      emit (.error "Pending accept timed out")
      close "timeout"
  | .orphanedAccept index =>
    if due s.inputs.now s.orphanedAcceptTimers[index]? then
      modify fun s => { s with orphanedAcceptTimers := s.orphanedAcceptTimers.eraseIdx index }
      emit (.error "Pending accept timed out")
      close "timeout"
  | .reconnect =>
    if due s.inputs.now s.timers.reconnect then
      modify fun s => { s with timers := s.timers.stopReconnect }
      doReconnectAttempt
      modify fun s => { s with reconnectAttempt := s.reconnectAttempt + 1 }
  | .heartbeat =>
    if due s.inputs.now s.timers.heartbeat then
      modify fun s => { s with timers := { s.timers with
        heartbeat := some (s.inputs.now + s.options.heartbeatInterval) } }
      if s.phase = .connected then
        ping
        modify fun s =>
          if s.timers.liveness = none then
            { s with timers := { s.timers with liveness := some (s.inputs.now + s.options.heartbeatTimeout) } }
          else s
  | .liveness =>
    if due s.inputs.now s.timers.liveness then
      modify fun s => { s with timers := s.timers.clearLiveness }
      handleTransportClose
  | .sessionTtl =>
    if due s.inputs.now s.timers.sessionTtl then
      modify fun s => { s with timers := s.timers.clearSessionTtl }
      emit (.error "Session lifetime expired")
      close "timeout"
  | .request promise =>
    match s.requestTimers.find? (fun t => t.promise == promise) with
    | none => return
    | some timer =>
      if timer.due ≤ s.inputs.now then
        modify fun s => { s with
          requestTimers := s.requestTimers.filter (fun t => t.promise != promise)
          pendingRequests := s.pendingRequests.delete timer.id }
        settle promise (.failed ("Request " ++ timer.method ++ " timed out"))

/-- What follows `transport.connect()`. -/
def connected (next : Await) (ok : Bool) : M Unit :=
  match next, ok with
  | .pairing, true => do
    setPhase .waiting
    let s ← get
    sendRaw (.create s.dappMeta) none
  | .pairing, false => return
  | .reconnect, true => tryCatch
      (do
        let s ← get
        sendRaw (.create s.dappMeta) none)
      fun _ => scheduleReconnect
  | .reconnect, false => scheduleReconnect

/-- Every way the outside can act on the session. -/
inductive Label where
  | createPairing (privateKey : Bytes) (channelId : String) (deferTransport : Bool)
  | connectTransport
  | acceptWallet
  | rejectWallet
  | request (method : String) (params : Option Json)
  | ping
  | close (reason : String)
  | destroy
  | restore (snapshot : Snapshot)
  | reconnect
  | message (msg : ProtocolMessage)
  | transportClose
  | fire (name : TimerName)
  | flush (ticket : Nat)
  | settle (ticket : Nat) (ok : Bool)
  | connect (ticket : Nat) (ok : Bool)
  | crash

/-- The continuation of one call is taken out of the queue and run. A promise resolves
only after its write is durable. -/
def settleCall (ticket : Nat) (ok : Bool) : M Unit := do
  let s ← get
  match s.journal.find ticket with
  | none => return
  | some call =>
    if ok then
      if call.durable then
        modify fun s => { s with journal := s.journal.remove ticket }
        resume C call.task
    else
      modify fun s => { s with journal := s.journal.remove ticket }
      fail "save" call.task

def settleConnect (ticket : Nat) (ok : Bool) : M Unit := do
  let s ← get
  match s.connects.find? (fun c => c.1 == ticket) with
  | none => return
  | some (_, next) =>
    modify fun s => { s with connects := s.connects.filter (fun c => c.1 != ticket) }
    connected next ok

/-- The session that a new process constructs with the same options, over the same storage:
the journal keeps what is durable, and the record goes on. -/
def Session.renewed (s : Session) : Session :=
  { Session.new s.options with
    journal := s.journal.crash
    ticket := s.ticket
    staleBelow := s.staleBelow
    trace := s.trace
    inputs := s.inputs }

/-- The process dies, and the new object restores what storage holds. -/
def restart : M Unit := do
  modify Session.renewed
  let s ← get
  match s.journal.disk.contents with
  | none => return
  | some snapshot => let _ ← restoreSafely snapshot

theorem restart_of_empty {s : Session} (empty : s.journal.disk.contents = none) : after restart s = s.renewed := by
  have loaded : s.renewed.journal.disk.contents = none := empty
  unfold restart
  rw [after_modify_bind, after_get_bind, loaded]
  rfl

theorem restart_of_stored {s : Session} {snapshot : Snapshot} (stored : s.journal.disk.contents = some snapshot) :
    after restart s = after (restoreSafely snapshot) s.renewed := by
  have loaded : s.renewed.journal.disk.contents = some snapshot := stored
  unfold restart
  rw [after_modify_bind, after_get_bind, loaded]
  exact after_bind_pure (restoreSafely snapshot) _ _

def act : Label → M Unit
  | .createPairing privateKey channelId deferTransport => createPairing C privateKey channelId deferTransport
  | .connectTransport => connectTransport
  | .acceptWallet => acceptWallet
  | .rejectWallet => rejectWallet
  | .request method params => request C method params
  | .ping => ping
  | .close reason => close reason
  | .destroy => destroy
  | .restore snapshot => do
    let _ ← restoreSafely snapshot
  | .reconnect => reconnect
  | .message msg => handleMessage C msg
  | .transportClose => handleTransportClose
  | .fire name => fire name
  | .flush ticket => modify fun s => { s with journal := s.journal.flush ticket }
  | .settle ticket ok => settleCall C ticket ok
  | .connect ticket ok => settleConnect ticket ok
  | .crash => restart

/-- One turn of the event loop under the given choices of the environment. -/
def step (s : Session) (l : Inputs × Label) : Session := after (act C l.2) { s with inputs := l.1 }

end

namespace Sample

/-- A dApp with asynchronous storage. -/
def options : Options :=
  { dappMeta := ⟨"d", "", "", ""⟩, url := some "u", canSetUrl := false, persistence := some ⟨true, true⟩ }

/-- The labels that complete the sample pairing. -/
def pairing : List (Inputs × Label) :=
  Sdk.Sample.calmly [.connect 0 true, .message Sdk.Sample.join, .flush 1, .settle 1 true,
    .message (Sdk.Sample.ready Sdk.Sample.walletKey), .flush 2, .settle 2 true]

end Sample

end WalletPair.Sdk.DApp
