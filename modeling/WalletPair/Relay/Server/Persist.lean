import WalletPair.Relay.Server.State

/-! The state of the server across a restart. Connections are not saved, and neither is
the flag that a wallet came back; ages are saved in whole seconds and re-anchored. The
text of the file is left to its library: a snapshot is what that library reads back. -/

namespace WalletPair.Relay.Server
open WalletPair.Lib

/-- The requests are a set on both sides; the file lists them in any order. -/
structure ChannelSnapshot where
  id : String
  state : String
  ageSecs : Nat
  connectedAgeSecs : Option Nat
  dappPeerId : String
  walletPeerId : Option String
  pendingRequests : Finset String
  deriving DecidableEq

structure Snapshot where
  version : Nat
  channels : List ChannelSnapshot
  deriving DecidableEq

def Channel.snapshot (c : Channel) (now : Nat) : ChannelSnapshot :=
  { id := c.id
    state := c.state.asStr
    ageSecs := secsSince now c.createdAt
    connectedAgeSecs := c.connectedAt.map fun time => secsSince now time
    dappPeerId := c.dappPeerId
    walletPeerId := c.walletPeerId
    pendingRequests := c.pendingRequests }

def saveState (store : ChannelStore) (now : Nat) : Snapshot :=
  { version := 1
    channels := (store.channels.values.filter fun c => c.state ≠ .closed).map fun c => c.snapshot now }

/-- Only the states that `saveState` writes are read back. -/
def ChannelSnapshot.readState (cs : ChannelSnapshot) : Option ChannelState :=
  match cs.state with
  | "waiting_for_wallet" => some .waitingForWallet
  | "pending_accept" => some .pendingAccept
  | "connected" => some .connected
  | _ => none

/-- An instant that many seconds ago; instants count from the first that the platform can
represent, and there is none before it. -/
def instantBefore (now secs : Nat) : Except String Nat :=
  if secs * nanosPerSec ≤ now then .ok (now - secs * nanosPerSec)
  else .error "overflow when subtracting duration from instant"

def restoreAge (now : Nat) : Option Nat → Except String (Option Nat)
  | none => .ok none
  | some secs => some <$> instantBefore now secs

def ChannelSnapshot.restore (cs : ChannelSnapshot) (state : ChannelState) (now : Nat) : Except String Channel := do
  let createdAt ← instantBefore now cs.ageSecs
  let connectedAt ← restoreAge now cs.connectedAgeSecs
  return {
    id := cs.id
    state
    createdAt
    connectedAt
    dappPeerId := cs.dappPeerId
    dappConn := none
    walletPeerId := cs.walletPeerId
    walletConn := none
    isReconnect := false
    pendingRequests := cs.pendingRequests }

/-- The channels read so far, and how often the gauge was raised. -/
def loadChannels (now : Nat) : List ChannelSnapshot → OrderedMap Channel → Nat → Except String (OrderedMap Channel × Nat)
  | [], channels, count => .ok (channels, count)
  | cs :: rest, channels, count =>
    match cs.readState with
    | none => loadChannels now rest channels count
    | some state => do
      let c ← cs.restore state now
      loadChannels now rest (channels.set cs.id c) (count + 1)

def loadState (now : Nat) (snapshot : Snapshot) : Except String (OrderedMap Channel × Nat) :=
  if snapshot.version ≠ 1 then .error s!"unsupported snapshot version: {snapshot.version}"
  else loadChannels now snapshot.channels OrderedMap.empty 0

end WalletPair.Relay.Server
