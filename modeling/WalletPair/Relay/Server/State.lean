import Mathlib.Data.Finset.Card
import Mathlib.Data.Finset.Erase
import Mathlib.Logic.Function.Basic
import WalletPair.Lib.OrderedMap
import WalletPair.Lib.Program
import WalletPair.Relay.Protocol

/-! The channels of the server and what its handlers reach: one shard of the store, the
bounded outbound queues of the connections, and the gauge of active channels. A queue is
known by the number of its connection. Instants are in nanoseconds. -/

namespace WalletPair.Relay.Server
open WalletPair.Lib WalletPair.Lib.Program

/-! ### Channels -/

/-- The relay's view of a channel, not a peer's. -/
inductive ChannelState where
  | waitingForWallet
  | pendingAccept
  | connected
  | closed
  deriving DecidableEq

def ChannelState.asStr : ChannelState → String
  | .waitingForWallet => "waiting_for_wallet"
  | .pendingAccept => "pending_accept"
  | .connected => "connected"
  | .closed => "closed"

/-- Whether a message type is valid in this state for the given role. -/
def ChannelState.allowsMessage (state : ChannelState) (type : MessageType) (role : Role) : Bool :=
  match state, type, role with
  | .pendingAccept, .accept, .dapp => true
  | .connected, .req, .dapp => true
  | .connected, .res, .wallet => true
  | .connected, .evt, .wallet => true
  | .connected, .ping, _ => true
  | .connected, .pong, _ => true
  | .closed, _, _ => false
  | _, .close, _ => true
  | .pendingAccept, .ping, _ => true
  | .pendingAccept, .pong, _ => true
  | .waitingForWallet, .ping, _ => true
  | .waitingForWallet, .pong, _ => true
  | _, _, _ => false

/-- A live connection to a peer: the queue to write to, and the connection's number. -/
structure PeerConn where
  sender : Nat
  connId : Nat
  deriving DecidableEq

structure Channel where
  id : String
  state : ChannelState
  createdAt : Nat
  connectedAt : Option Nat
  dappPeerId : String
  dappConn : Option PeerConn
  walletPeerId : Option String
  walletConn : Option PeerConn
  isReconnect : Bool
  pendingRequests : Finset String
  deriving DecidableEq

namespace Channel

def new (id dappPeerId : String) (dappConn : PeerConn) (now : Nat) : Channel :=
  { id
    state := .waitingForWallet
    createdAt := now
    connectedAt := none
    dappPeerId
    dappConn := some dappConn
    walletPeerId := none
    walletConn := none
    isReconnect := false
    pendingRequests := ∅ }

def isDapp (c : Channel) (peerId : String) : Bool := c.dappPeerId = peerId

def isWallet (c : Channel) (peerId : String) : Bool := c.walletPeerId = some peerId

def roleOf (c : Channel) (peerId : String) : Option Role :=
  if c.isDapp peerId then some .dapp else if c.isWallet peerId then some .wallet else none

/-- The connection that is registered for a role. -/
def conn (c : Channel) : Role → Option PeerConn
  | .dapp => c.dappConn
  | .wallet => c.walletConn

/-- The queue of the other peer, if it is connected. -/
def otherSender (c : Channel) (role : Role) : Option Nat := (c.conn role.other).map PeerConn.sender

def dropConn (c : Channel) : Role → Channel
  | .dapp => { c with dappConn := none }
  | .wallet => { c with walletConn := none }

/-- The dApp's connection is looked at first, and a connection leaves one role only. -/
def disconnectByConnId (c : Channel) (connId : Nat) : Channel × Option Role :=
  if c.dappConn.any fun conn => conn.connId = connId then (c.dropConn .dapp, some .dapp)
  else if c.walletConn.any fun conn => conn.connId = connId then (c.dropConn .wallet, some .wallet)
  else (c, none)

end Channel

/-! ### What the handlers reach -/

/-- A bounded outbound queue. `waiting` holds the notices that wait for a free place. -/
structure Queue (τ : Type) where
  capacity : Nat := 64
  frames : List (Frame τ) := []
  waiting : List (Frame τ) := []
  isClosed : Bool := false

/-- Whether the queue takes one more frame. -/
def Queue.hasRoom {τ : Type} (q : Queue τ) : Bool := q.frames.length < q.capacity

/-- What happened to the frames of a channel, and who joined it with which text. -/
inductive Obs (τ : Type) where
  | enqueued (queue : Nat) (ch : String) (frame : Frame τ)
  | dropped (queue : Nat) (ch : String) (frame : Frame τ)
  | joined (ch peer : String) (raw : τ)

/-- The monotonic clock, and the wall clock of the notices. -/
structure Clock where
  instant : Nat := 0
  ms : Nat := 0
  deriving DecidableEq

/-- One shard of the store. -/
structure ChannelStore where
  channels : OrderedMap Channel
  pendingRequestLimit : Nat
  unpairedTtlSecs : Nat
  connectedTtlSecs : Nat

/-- A shard with the queues of all connections and the gauge of all shards. -/
structure World (τ : Type) extends ChannelStore where
  queues : Nat → Queue τ
  activeChannels : Int
  clock : Clock
  trace : List (Obs τ)

abbrev M (τ : Type) := Prog (World τ)

/-- What becomes of the message: the caller counts what was created and removed, and sends
a refusal before it hangs up. -/
inductive ProcessResult (τ : Type) where
  | ok
  | okCreated
  | okRemoved
  | reject (frame : Frame τ)

variable {τ : Type}

def buildTerminate (ch : String) (reason : CloseReason) (now : Clock) : Frame τ :=
  .notice ch now.ms (.terminate reason none)

/-- The world after an attempt to send. -/
def World.sending (s : World τ) (id : Nat) (ch : String) (frame : Frame τ) : World τ :=
  let q := s.queues id
  if q.isClosed then s
  else if q.hasRoom then
    { s with
      queues := Function.update s.queues id { q with frames := q.frames ++ [frame] }
      trace := s.trace ++ [.enqueued id ch frame] }
  else { s with trace := s.trace ++ [.dropped id ch frame] }

/-- Whether an attempt to send succeeds. -/
def World.sends (s : World τ) (id : Nat) : Bool := !(s.queues id).isClosed && (s.queues id).hasRoom

/-- A frame of channel `ch` for the queue, unless it is full or closed. -/
def trySend (id : Nat) (ch : String) (frame : Frame τ) : M τ Bool := do
  let s ← get
  set (s.sending id ch frame)
  return s.sends id

/-- The same for a connection that may be absent. -/
def trySendTo (id : Option Nat) (ch : String) (frame : Frame τ) : M τ Bool :=
  match id with
  | none => return true
  | some id => trySend id ch frame

/-- A task that waits for a free place in the queue. -/
def spawnSend (id : Nat) (frame : Frame τ) : M τ Unit :=
  modify fun s => { s with
    queues := Function.update s.queues id
      { s.queues id with waiting := (s.queues id).waiting ++ [frame] } }

def incActive : M τ Unit := modify fun s => { s with activeChannels := s.activeChannels + 1 }

/-- `store.get_mut(ch).unwrap()`, and a change of what it finds. -/
def updateChannel (ch : String) (f : Channel → Channel) : M τ Unit := do
  let s ← get
  match s.channels.get ch with
  | none => throw "unwrap"
  | some c => set { s with channels := s.channels.set ch (f c) }

def insert (c : Channel) : M τ Unit := modify fun s => { s with channels := s.channels.set c.id c }

def World.removing (s : World τ) (ch : String) : World τ :=
  if (s.channels.get ch).isSome then
    { s with channels := s.channels.delete ch, activeChannels := s.activeChannels - 1 }
  else s

def removeChannel (ch : String) : M τ Unit := modify fun s => s.removing ch

/-! ### Expiry and disconnects -/

def nanosPerSec : Nat := 1000000000

/-- Whole seconds since an earlier instant. -/
def secsSince (now earlier : Nat) : Nat := (now - earlier) / nanosPerSec

def World.expired (s : World τ) (c : Channel) : Bool :=
  let ttlSecs := if c.state = .connected then s.connectedTtlSecs else s.unpairedTtlSecs
  ttlSecs < secsSince s.clock.instant (c.connectedAt.getD c.createdAt)

def World.toRemove (s : World τ) : List (String × Channel) :=
  s.channels.entries.filter fun entry => entry.2.state = .closed || s.expired entry.2

/-- Both peers hear of the expiry; a closed channel goes without a word. -/
def notifyExpired (c : Channel) : M τ Unit := do
  let s ← get
  if c.state ≠ .closed then
    let _ ← trySendTo (c.dappConn.map PeerConn.sender) c.id (buildTerminate c.id .timeout s.clock)
    let _ ← trySendTo (c.walletConn.map PeerConn.sender) c.id (buildTerminate c.id .timeout s.clock)

/-- Remove expired channels; the result is their number. -/
def cleanupExpired : M τ Nat := do
  let s ← get
  s.toRemove.forM fun entry => notifyExpired entry.2
  s.toRemove.forM fun entry => removeChannel entry.1
  return s.toRemove.length

def disconnectPeer (channelId : String) (connId : Nat) : M τ (Option (String × Role)) := do
  let s ← get
  match s.channels.get channelId with
  | none => return none
  | some c =>
    let (left, role) := c.disconnectByConnId connId
    set { s with channels := s.channels.set channelId left }
    return role.map fun role => (channelId, role)

end WalletPair.Relay.Server
