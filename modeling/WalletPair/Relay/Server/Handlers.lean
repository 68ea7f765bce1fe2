import WalletPair.Relay.Server.State

/-! Processing one message. The handlers decide by the peer id that the message itself
names; the connection it came on only matters for what a create and a join register.
`Handled` says once what a message can do to the world, and every property of the server
is a case analysis over it. -/

namespace WalletPair.Relay.Server
open WalletPair.Lib WalletPair.Lib.Program

variable {τ : Type}

/-! ### Handlers -/

/-- The dApp's connection is gone, or nobody reads its queue any more. -/
def World.dappDead (s : World τ) (c : Channel) : Bool := c.dappConn.all fun conn => (s.queues conn.sender).isClosed

/-- What becomes of a channel that exists already: a refusal, or room for a new one. The
gauge is raised to make up for the removal. -/
def replaceExisting (ch : String) : M τ (Option (ProcessResult τ)) := do
  let s ← get
  match s.channels.get ch with
  | none => return none
  | some existing =>
    match existing.state with
    | .waitingForWallet => do
      removeChannel ch
      incActive
      return none
    | .connected =>
      if s.dappDead existing then do
        removeChannel ch
        incActive
        return none
      else return some (.reject (buildTerminate ch .channelExists s.clock))
    | .pendingAccept => return some (.reject (buildTerminate ch .channelExists s.clock))
    | .closed => do
      removeChannel ch
      incActive
      return none

def handleCreate (connId sender : Nat) (ch peer : String) (atCapacity : Bool) : M τ (ProcessResult τ) := do
  match ← replaceExisting ch with
  | some refusal => return refusal
  | none =>
    let s ← get
    if atCapacity then return .reject (buildTerminate ch .rateLimited s.clock)
    else
      insert (Channel.new ch peer ⟨sender, connId⟩ s.clock.instant)
      incActive
      let _ ← trySend sender ch (.notice ch s.clock.ms (.readyWaiting .dapp peer false))
      return .okCreated

def handleJoin (connId sender : Nat) (raw : τ) (ch peer : String) (sealedJoinNull : Bool) : M τ (ProcessResult τ) := do
  let s ← get
  match s.channels.get ch with
  | none => return .reject (buildTerminate ch .channelNotFound s.clock)
  | some channel =>
    if channel.state ≠ .waitingForWallet then
      return .reject (buildTerminate ch (if channel.state = .closed then .channelNotFound else .alreadyConnected) s.clock)
    else
      updateChannel ch fun c => { c with
        walletPeerId := some peer
        walletConn := some ⟨sender, connId⟩
        state := .pendingAccept
        isReconnect := sealedJoinNull }
      modify fun s => { s with trace := s.trace ++ [.joined ch peer raw] }
      -- a join that finds the dApp gone, or its queue full, is not kept for later
      let _ ← trySendTo (channel.dappConn.map PeerConn.sender) ch (.forwarded raw)
      let _ ← trySend sender ch (.notice ch s.clock.ms (.readyWaiting .wallet peer sealedJoinNull))
      return .ok

def handleAccept (ch peer target : String) : M τ (ProcessResult τ) := do
  let s ← get
  match s.channels.get ch with
  | none => return .reject (buildTerminate ch .channelNotFound s.clock)
  | some channel =>
    if !channel.isDapp peer then return .reject (buildTerminate ch .invalidRole s.clock)
    else if channel.state ≠ .pendingAccept then return .reject (buildTerminate ch .invalidState s.clock)
    else if channel.walletPeerId ≠ some target then
      return .reject (.notice ch s.clock.ms (.terminate .protocolError (some target)))
    else
      updateChannel ch fun c => { c with state := .connected, connectedAt := some s.clock.instant }
      match channel.walletPeerId with
      | none => throw "unwrap"
      | some walletId =>
        let _ ← trySendTo (channel.dappConn.map PeerConn.sender) ch
          (.notice ch s.clock.ms (.readyConnected .dapp peer walletId channel.isReconnect))
        let _ ← trySendTo (channel.walletConn.map PeerConn.sender) ch
          (.notice ch s.clock.ms (.readyConnected .wallet walletId peer channel.isReconnect))
        return .ok

/-- The set of unanswered requests after a message. -/
def track (pending : Finset String) (type : MessageType) (reqId : Option String) : Finset String :=
  match type, reqId with
  | .req, some id => Insert.insert id pending
  | .res, some id => pending.erase id
  | _, _ => pending

/-- A peer that does not keep up loses its connection, and is told when its queue has room. -/
def forward (ch : String) (role : Role) (other : Option Nat) (raw : τ) : M τ Unit := do
  match other with
  | none => return
  | some id =>
    if !(← trySend id ch (.forwarded raw)) then
      let s ← get
      spawnSend id (buildTerminate ch .slowConsumer s.clock)
      updateChannel ch fun c => c.dropConn role.other

def handleData (raw : τ) (ch peer : String) (type : MessageType) (reqId : Option String) : M τ (ProcessResult τ) := do
  let s ← get
  match s.channels.get ch with
  | none => return .reject (buildTerminate ch .channelNotFound s.clock)
  | some channel =>
    match channel.roleOf peer with
    | none => return .reject (buildTerminate ch .invalidRole s.clock)
    | some role =>
      if !channel.state.allowsMessage type role then
        return .reject (buildTerminate ch
          (if (type = .req ∨ type = .res ∨ type = .evt) ∧ channel.state ≠ .connected then .invalidState
            else .invalidRole) s.clock)
      else if type = .req ∧ reqId ≠ none ∧ s.pendingRequestLimit ≤ channel.pendingRequests.card then
        return .reject (buildTerminate ch .rateLimited s.clock)
      else
        updateChannel ch fun c => { c with pendingRequests := track c.pendingRequests type reqId }
        forward ch role (channel.otherSender role) raw
        return .ok

def handleClose (raw : τ) (ch peer : String) : M τ (ProcessResult τ) := do
  let s ← get
  match s.channels.get ch with
  | none => return .ok
  | some channel =>
    match channel.roleOf peer with
    | none => return .reject (buildTerminate ch .invalidRole s.clock)
    | some role =>
      let _ ← trySendTo (channel.otherSender role) ch (.forwarded raw)
      removeChannel ch
      return .okRemoved

/-- `sender` is the queue of the connection `connId` on which `raw` was received. -/
def processMessage (connId sender : Nat) (raw : τ) (msg : ClientMessage) (atCapacity : Bool) : M τ (ProcessResult τ) :=
  match msg with
  | .create ch peer => handleCreate connId sender ch peer atCapacity
  | .join ch peer sealedJoinNull => handleJoin connId sender raw ch peer sealedJoinNull
  | .accept ch peer target => handleAccept ch peer target
  | .req ch peer id => handleData raw ch peer .req (some id)
  | .res ch peer id => handleData raw ch peer .res (some id)
  | .evt ch peer id => handleData raw ch peer .evt (some id)
  | .ping ch peer => handleData raw ch peer .ping none
  | .pong ch peer => handleData raw ch peer .pong none
  | .close ch peer _ => handleClose raw ch peer

/-! ### What a message does -/

/-- An attempt to send to a connection that may be absent. -/
def World.sendingTo (s : World τ) (id : Option Nat) (ch : String) (frame : Frame τ) : World τ :=
  match id with
  | none => s
  | some id => s.sending id ch frame

/-- Whether a create takes the place of the channel that exists. -/
def World.replaceable (s : World τ) (c : Channel) : Bool :=
  match c.state with
  | .waitingForWallet => true
  | .pendingAccept => false
  | .connected => s.dappDead c
  | .closed => true

/-- The old channel is gone, and the gauge was raised again. -/
def World.vacating (s : World τ) (ch : String) : World τ :=
  { s.removing ch with activeChannels := (s.removing ch).activeChannels + 1 }

/-- A new channel, and the attempt to tell its dApp. -/
def World.creating (s : World τ) (connId sender : Nat) (ch peer : String) : World τ :=
  ({ s with
    channels := s.channels.set ch (Channel.new ch peer ⟨sender, connId⟩ s.clock.instant)
    activeChannels := s.activeChannels + 1 } : World τ).sending sender ch
      (.notice ch s.clock.ms (.readyWaiting .dapp peer false))

def Channel.joinedBy (c : Channel) (connId sender : Nat) (peer : String) (sealedJoinNull : Bool) : Channel :=
  { c with
    walletPeerId := some peer
    walletConn := some ⟨sender, connId⟩
    state := .pendingAccept
    isReconnect := sealedJoinNull }

def World.joining (s : World τ) (c : Channel) (connId sender : Nat) (raw : τ) (ch peer : String)
    (sealedJoinNull : Bool) : World τ :=
  (({ s with
    channels := s.channels.set ch (c.joinedBy connId sender peer sealedJoinNull)
    trace := s.trace ++ [.joined ch peer raw] } : World τ).sendingTo (c.dappConn.map PeerConn.sender) ch
      (.forwarded raw)).sending sender ch (.notice ch s.clock.ms (.readyWaiting .wallet peer sealedJoinNull))

def Channel.connectedFrom (c : Channel) (now : Nat) : Channel := { c with state := .connected, connectedAt := some now }

def World.connecting (s : World τ) (c : Channel) (ch : String) : World τ :=
  { s with channels := s.channels.set ch (c.connectedFrom s.clock.instant) }

def World.accepting (s : World τ) (c : Channel) (ch peer target : String) : World τ :=
  ((s.connecting c ch).sendingTo (c.dappConn.map PeerConn.sender) ch
    (.notice ch s.clock.ms (.readyConnected .dapp peer target c.isReconnect))).sendingTo
      (c.walletConn.map PeerConn.sender) ch
      (.notice ch s.clock.ms (.readyConnected .wallet target peer c.isReconnect))

/-- A peer that does not keep up is cut off. -/
def World.cutting (s : World τ) (c : Channel) (ch : String) (role : Role) (id : Nat) : World τ :=
  { s with
    channels := s.channels.set ch (c.dropConn role)
    queues := Function.update s.queues id
      { s.queues id with waiting := (s.queues id).waiting ++ [buildTerminate ch .slowConsumer s.clock] } }

def Channel.tracking (c : Channel) (type : MessageType) (reqId : Option String) : Channel :=
  { c with pendingRequests := track c.pendingRequests type reqId }

def World.tracking (s : World τ) (c : Channel) (ch : String) (type : MessageType) (reqId : Option String) : World τ :=
  { s with channels := s.channels.set ch (c.tracking type reqId) }

/-- The message is passed on to the other peer. -/
def World.forwarding (s : World τ) (c : Channel) (raw : τ) (ch : String) (type : MessageType) (reqId : Option String)
    (role : Role) : World τ :=
  let tracked := s.tracking c ch type reqId
  match c.otherSender role with
  | none => tracked
  | some id =>
    let told := tracked.sending id ch (.forwarded raw)
    if tracked.sends id then told else told.cutting (c.tracking type reqId) ch role.other id

def World.ending (s : World τ) (c : Channel) (raw : τ) (ch : String) (role : Role) : World τ :=
  (s.sendingTo (c.otherSender role) ch (.forwarded raw)).removing ch

/-- The messages that are passed on as they are, with the request they answer or make. -/
def dataOf : ClientMessage → Option (MessageType × Option String)
  | .req _ _ id => some (.req, some id)
  | .res _ _ id => some (.res, some id)
  | .evt _ _ id => some (.evt, some id)
  | .ping _ _ => some (.ping, none)
  | .pong _ _ => some (.pong, none)
  | _ => none

/-- What a message can do: the result the caller sees, and the world left behind. -/
inductive Handled (s : World τ) (connId sender : Nat) (raw : τ) (atCapacity : Bool) :
    ClientMessage → ProcessResult τ → World τ → Prop where
  | refused {msg : ClientMessage} (reason : CloseReason) (target : Option String) :
    Handled s connId sender raw atCapacity msg
      (.reject (.notice msg.channelId s.clock.ms (.terminate reason target))) s
  | evicted {ch peer : String} {c : Channel} (found : s.channels.get ch = some c)
    (replaceable : s.replaceable c = true) (full : atCapacity = true) :
    Handled s connId sender raw atCapacity (.create ch peer) (.reject (buildTerminate ch .rateLimited s.clock))
      (s.vacating ch)
  | created {ch peer : String} (absent : s.channels.get ch = none) (free : atCapacity = false) :
    Handled s connId sender raw atCapacity (.create ch peer) .okCreated (s.creating connId sender ch peer)
  | replaced {ch peer : String} {c : Channel} (found : s.channels.get ch = some c)
    (replaceable : s.replaceable c = true) (free : atCapacity = false) :
    Handled s connId sender raw atCapacity (.create ch peer) .okCreated
      ((s.vacating ch).creating connId sender ch peer)
  | joined {ch peer : String} {sealedJoinNull : Bool} {c : Channel} (found : s.channels.get ch = some c)
    (waiting : c.state = .waitingForWallet) :
    Handled s connId sender raw atCapacity (.join ch peer sealedJoinNull) .ok
      (s.joining c connId sender raw ch peer sealedJoinNull)
  | accepted {ch peer target : String} {c : Channel} (found : s.channels.get ch = some c)
    (dapp : c.isDapp peer = true) (pending : c.state = .pendingAccept) (wallet : c.walletPeerId = some target) :
    Handled s connId sender raw atCapacity (.accept ch peer target) .ok (s.accepting c ch peer target)
  | forwarded {msg : ClientMessage} {type : MessageType} {reqId : Option String} {c : Channel} {role : Role}
    (data : dataOf msg = some (type, reqId)) (found : s.channels.get msg.channelId = some c)
    (sent : c.roleOf msg.fromPeer = some role) (allowed : c.state.allowsMessage type role = true)
    (limit : type = .req → reqId ≠ none → c.pendingRequests.card < s.pendingRequestLimit) :
    Handled s connId sender raw atCapacity msg .ok (s.forwarding c raw msg.channelId type reqId role)
  | ended {ch peer reason : String} {c : Channel} {role : Role} (found : s.channels.get ch = some c)
    (sent : c.roleOf peer = some role) :
    Handled s connId sender raw atCapacity (.close ch peer reason) .okRemoved (s.ending c raw ch role)
  | gone {ch peer reason : String} (absent : s.channels.get ch = none) :
    Handled s connId sender raw atCapacity (.close ch peer reason) .ok s

section Apply
variable (s : World τ)

theorem trySend_apply (id : Nat) (ch : String) (frame : Frame τ) :
    trySend id ch frame s = .ok (s.sends id) (s.sending id ch frame) := rfl

theorem trySendTo_apply (id : Option Nat) (ch : String) (frame : Frame τ) :
    trySendTo id ch frame s = .ok (id.all s.sends) (s.sendingTo id ch frame) := by
  cases id with
  | none => rfl
  | some id => rfl

theorem updateChannel_apply {ch : String} {c : Channel} (f : Channel → Channel) (found : s.channels.get ch = some c) :
    updateChannel ch f s = .ok () ({ s with channels := s.channels.set ch (f c) } : World τ) := by
  unfold updateChannel
  rw [get_bind_apply]
  simp only [found]
  rfl

end Apply

theorem sending_toChannelStore (s : World τ) (id : Nat) (ch : String) (frame : Frame τ) :
    (s.sending id ch frame).toChannelStore = s.toChannelStore := by
  unfold World.sending
  dsimp only
  split_ifs <;> rfl

theorem sendingTo_toChannelStore (s : World τ) (id : Option Nat) (ch : String) (frame : Frame τ) :
    (s.sendingTo id ch frame).toChannelStore = s.toChannelStore := by
  cases id with
  | none => rfl
  | some id => exact sending_toChannelStore s id ch frame

section Process
variable {s : World τ} {connId sender : Nat} {raw : τ} {atCapacity : Bool}

theorem replaceExisting_apply (ch : String) (s : World τ) :
    replaceExisting ch s =
      match s.channels.get ch with
      | none => .ok none s
      | some c =>
        if s.replaceable c then .ok none (s.vacating ch)
        else .ok (some (.reject (buildTerminate ch .channelExists s.clock))) s := by
  unfold replaceExisting
  rw [get_bind_apply]
  cases s.channels.get ch with
  | none => rfl
  | some c =>
    dsimp only
    unfold World.replaceable
    cases c.state with
    | waitingForWallet => rfl
    | pendingAccept => rfl
    | connected =>
      dsimp only
      split <;> rfl
    | closed => rfl

theorem create_apply (ch peer : String) (s : World τ) :
    ∃ r t, handleCreate connId sender ch peer atCapacity s = .ok r t ∧
      Handled s connId sender raw atCapacity (.create ch peer) r t := by
  have existing := replaceExisting_apply ch s
  unfold handleCreate
  cases found : s.channels.get ch with
  | none =>
    rw [found] at existing
    rw [bind_of_ok existing]
    cases atCapacity with
    | true => exact ⟨_, _, rfl, .refused .rateLimited none⟩
    | false => exact ⟨_, _, rfl, .created found rfl⟩
  | some c =>
    rw [found] at existing
    dsimp only at existing
    by_cases replaceable : s.replaceable c = true
    · rw [if_pos replaceable] at existing
      have clock : (s.vacating ch).clock = s.clock := by
        unfold World.vacating World.removing
        split <;> rfl
      rw [bind_of_ok existing]
      cases atCapacity with
      | true =>
        refine ⟨_, _, rfl, ?_⟩
        rw [clock]
        exact .evicted found replaceable rfl
      | false => exact ⟨_, _, rfl, .replaced found replaceable rfl⟩
    · rw [if_neg replaceable] at existing
      rw [bind_of_ok existing]
      exact ⟨_, _, rfl, .refused .channelExists none⟩

theorem join_granted {ch peer : String} {sealedJoinNull : Bool} {c : Channel} (found : s.channels.get ch = some c)
    (waiting : c.state = .waitingForWallet) :
    handleJoin connId sender raw ch peer sealedJoinNull s =
      .ok .ok (s.joining c connId sender raw ch peer sealedJoinNull) := by
  unfold handleJoin
  rw [get_bind_apply]
  simp only [found]
  rw [if_neg (by simp [waiting]), bind_of_ok (updateChannel_apply s _ found), modify_bind_apply,
    bind_of_ok (trySendTo_apply _ _ _ _), bind_of_ok (trySend_apply _ _ _ _)]
  rfl

theorem join_apply (ch peer : String) (sealedJoinNull : Bool) (s : World τ) :
    ∃ r t, handleJoin connId sender raw ch peer sealedJoinNull s = .ok r t ∧
      Handled s connId sender raw atCapacity (.join ch peer sealedJoinNull) r t := by
  by_cases granted : ∃ c, s.channels.get ch = some c ∧ c.state = .waitingForWallet
  · obtain ⟨c, found, waiting⟩ := granted
    exact ⟨_, _, join_granted found waiting, .joined found waiting⟩
  · unfold handleJoin
    rw [get_bind_apply]
    cases found : s.channels.get ch with
    | none => exact ⟨_, _, rfl, .refused .channelNotFound none⟩
    | some c =>
      have waiting : c.state ≠ .waitingForWallet := fun same => granted ⟨c, found, same⟩
      dsimp only
      rw [if_pos waiting]
      exact ⟨_, _, rfl, .refused _ none⟩

theorem accept_granted {ch peer target : String} {c : Channel} (found : s.channels.get ch = some c)
    (dapp : c.isDapp peer = true) (pending : c.state = .pendingAccept) (wallet : c.walletPeerId = some target) :
    handleAccept ch peer target s = .ok .ok (s.accepting c ch peer target) := by
  have updated : updateChannel ch (fun c => { c with state := .connected, connectedAt := some s.clock.instant }) s =
      .ok () (s.connecting c ch) := updateChannel_apply s _ found
  unfold handleAccept
  rw [get_bind_apply]
  simp only [found]
  rw [if_neg (by simp [dapp]), if_neg (by simp [pending]), if_neg (by simp [wallet]), bind_of_ok updated]
  simp only [wallet]
  rw [bind_of_ok (trySendTo_apply _ _ _ _), bind_of_ok (trySendTo_apply _ _ _ _)]
  rfl

theorem accept_apply (ch peer target : String) (s : World τ) :
    ∃ r t, handleAccept ch peer target s = .ok r t ∧
      Handled s connId sender raw atCapacity (.accept ch peer target) r t := by
  by_cases granted : ∃ c, s.channels.get ch = some c ∧ c.isDapp peer = true ∧ c.state = .pendingAccept ∧
      c.walletPeerId = some target
  · obtain ⟨c, found, dapp, pending, wallet⟩ := granted
    exact ⟨_, _, accept_granted found dapp pending wallet, .accepted found dapp pending wallet⟩
  · unfold handleAccept
    rw [get_bind_apply]
    cases found : s.channels.get ch with
    | none => exact ⟨_, _, rfl, .refused .channelNotFound none⟩
    | some c =>
      dsimp only
      by_cases dapp : c.isDapp peer = true
      · rw [if_neg (by simp [dapp])]
        by_cases pending : c.state = .pendingAccept
        · have wallet : c.walletPeerId ≠ some target := fun same => granted ⟨c, found, dapp, pending, same⟩
          rw [if_neg (by simp [pending]), if_pos wallet]
          exact ⟨_, _, rfl, .refused .protocolError (some target)⟩
        · rw [if_pos pending]
          exact ⟨_, _, rfl, .refused .invalidState none⟩
      · rw [if_pos (by simpa using dapp)]
        exact ⟨_, _, rfl, .refused .invalidRole none⟩

/-- Passing a message on, in a world whose channel is `c`. -/
theorem forward_apply {ch : String} {role : Role} {other : Option Nat} {raw : τ} {c : Channel}
    (found : s.channels.get ch = some c) :
    forward ch role other raw s = .ok ()
      (match other with
      | none => s
      | some id =>
        if s.sends id then s.sending id ch (.forwarded raw)
        else (s.sending id ch (.forwarded raw)).cutting c ch role.other id) := by
  cases other with
  | none => rfl
  | some id =>
    have still : (s.sending id ch (.forwarded raw)).channels.get ch = some c := by
      rw [sending_toChannelStore]
      exact found
    unfold forward
    dsimp only
    rw [bind_of_ok (trySend_apply s id ch (.forwarded raw))]
    by_cases reached : s.sends id = true
    · rw [reached]
      rfl
    · have lost : s.sends id = false := by simpa using reached
      rw [lost]
      rw [if_pos (by rfl), if_neg (by simp), get_bind_apply]
      rw [bind_of_ok (show spawnSend id _ _ = .ok () _ from rfl)]
      exact updateChannel_apply _ _ still

theorem data_granted {ch peer : String} {type : MessageType} {reqId : Option String} {c : Channel} {role : Role}
    (found : s.channels.get ch = some c) (sent : c.roleOf peer = some role)
    (allowed : c.state.allowsMessage type role = true)
    (limit : type = .req → reqId ≠ none → c.pendingRequests.card < s.pendingRequestLimit) :
    handleData raw ch peer type reqId s = .ok .ok (s.forwarding c raw ch type reqId role) := by
  have limited : ¬ (type = .req ∧ reqId ≠ none ∧ s.pendingRequestLimit ≤ c.pendingRequests.card) := by
    rintro ⟨req, present, full⟩
    exact absurd full (Nat.not_le_of_lt (limit req present))
  have tracked : (s.tracking c ch type reqId).channels.get ch = some (c.tracking type reqId) :=
    OrderedMap.get_set_self _ _ _
  have updated : updateChannel ch (fun c => { c with pendingRequests := track c.pendingRequests type reqId }) s =
      .ok () (s.tracking c ch type reqId) := updateChannel_apply s _ found
  unfold handleData
  rw [get_bind_apply]
  simp only [found, sent]
  rw [if_neg (by simp [allowed]), if_neg limited, bind_of_ok updated, bind_of_ok (forward_apply tracked)]
  rfl

theorem data_apply {msg : ClientMessage} {type : MessageType} {reqId : Option String}
    (data : dataOf msg = some (type, reqId)) (s : World τ) :
    ∃ r t, handleData raw msg.channelId msg.fromPeer type reqId s = .ok r t ∧
      Handled s connId sender raw atCapacity msg r t := by
  by_cases granted : ∃ c role, s.channels.get msg.channelId = some c ∧ c.roleOf msg.fromPeer = some role ∧
      c.state.allowsMessage type role = true ∧
      (type = .req → reqId ≠ none → c.pendingRequests.card < s.pendingRequestLimit)
  · obtain ⟨c, role, found, sent, allowed, limit⟩ := granted
    exact ⟨_, _, data_granted found sent allowed limit, .forwarded data found sent allowed limit⟩
  · unfold handleData
    rw [get_bind_apply]
    cases found : s.channels.get msg.channelId with
    | none => exact ⟨_, _, rfl, .refused .channelNotFound none⟩
    | some c =>
      dsimp only
      cases sent : c.roleOf msg.fromPeer with
      | none => exact ⟨_, _, rfl, .refused .invalidRole none⟩
      | some role =>
        dsimp only
        by_cases allowed : c.state.allowsMessage type role = true
        · have limited : type = .req ∧ reqId ≠ none ∧ s.pendingRequestLimit ≤ c.pendingRequests.card := by
            by_contra free
            apply granted ⟨c, role, found, sent, allowed, fun req present => ?_⟩
            exact lt_of_not_ge fun full => free ⟨req, present, full⟩
          rw [if_neg (by simp [allowed]), if_pos limited]
          exact ⟨_, _, rfl, .refused .rateLimited none⟩
        · rw [if_pos (by simpa using allowed)]
          exact ⟨_, _, rfl, .refused _ none⟩

theorem close_granted {ch peer : String} {c : Channel} {role : Role} (found : s.channels.get ch = some c)
    (sent : c.roleOf peer = some role) : handleClose raw ch peer s = .ok .okRemoved (s.ending c raw ch role) := by
  unfold handleClose
  rw [get_bind_apply]
  simp only [found, sent]
  rw [bind_of_ok (trySendTo_apply _ _ _ _)]
  rfl

theorem close_apply (ch peer reason : String) (s : World τ) :
    ∃ r t, handleClose raw ch peer s = .ok r t ∧
      Handled s connId sender raw atCapacity (.close ch peer reason) r t := by
  cases found : s.channels.get ch with
  | none =>
    unfold handleClose
    rw [get_bind_apply]
    simp only [found]
    exact ⟨_, _, rfl, .gone found⟩
  | some c =>
    cases sent : c.roleOf peer with
    | none =>
      unfold handleClose
      rw [get_bind_apply]
      simp only [found, sent]
      exact ⟨_, _, rfl, .refused .invalidRole none⟩
    | some role => exact ⟨_, _, close_granted found sent, .ended found sent⟩

/-- Every message is handled: no `unwrap` fails, from any state. -/
theorem processMessage_handled (connId sender : Nat) (raw : τ) (msg : ClientMessage) (atCapacity : Bool) (s : World τ) :
    ∃ r t, processMessage connId sender raw msg atCapacity s = .ok r t ∧
      Handled s connId sender raw atCapacity msg r t := by
  cases msg with
  | create ch peer => exact create_apply ch peer s
  | join ch peer sealedJoinNull => exact join_apply ch peer sealedJoinNull s
  | accept ch peer target => exact accept_apply ch peer target s
  | req ch peer id => exact data_apply (show dataOf (.req ch peer id) = some (.req, some id) from rfl) s
  | res ch peer id => exact data_apply (show dataOf (.res ch peer id) = some (.res, some id) from rfl) s
  | evt ch peer id => exact data_apply (show dataOf (.evt ch peer id) = some (.evt, some id) from rfl) s
  | ping ch peer => exact data_apply (show dataOf (.ping ch peer) = some (.ping, none) from rfl) s
  | pong ch peer => exact data_apply (show dataOf (.pong ch peer) = some (.pong, none) from rfl) s
  | close ch peer reason => exact close_apply ch peer reason s

end Process

end WalletPair.Relay.Server
