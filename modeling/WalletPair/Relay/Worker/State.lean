import Mathlib.Data.Finset.Card
import Mathlib.Data.Finset.Erase
import WalletPair.Lib.Program
import WalletPair.Relay.Protocol

/-! The Durable Object of one channel: the fields it holds in memory, what the platform
keeps for it (storage, the alarm, the sockets with their attachments), and the effects
its handlers are built from. Evicting the object drops the fields and nothing else. -/

namespace WalletPair.Relay.Worker
open WalletPair.Lib.Program WalletPair.Sdk

/-! ### Reading messages -/

/-- The integer that the double nearest to `mantissa / 10 ^ exponent` stands for, or
nothing when it is infinite or has a fraction. Ties go to the even significand. -/
def numberInteger (mantissa : Int) (exponent : Nat) : Option Int :=
  let n := mantissa.natAbs
  let d := 10 ^ exponent
  if n = 0 then some 0
  else
    -- the double is `significand * 2 ^ (-scale)`, subnormal from a scale of 1074 on
    let scale : Int := if d ≤ n then 52 - Nat.log2 (n / d) else min 1074 (53 + Nat.log2 ((d - 1) / n))
    let top := n * 2 ^ scale.toNat
    let bottom := d * 2 ^ (-scale).toNat
    let floor := top / bottom
    let twice := 2 * (top % bottom)
    let significand := if bottom < twice ∨ (bottom = twice ∧ floor % 2 = 1) then floor + 1 else floor
    if 0 ≤ scale ∧ significand % 2 ^ scale.toNat ≠ 0 then none
    else
      let magnitude := significand * 2 ^ (-scale).toNat / 2 ^ scale.toNat
      if 2 ^ 1024 ≤ magnitude then none else some (if mantissa < 0 then -(magnitude : Int) else magnitude)

/-- `typeof v === "number" && Number.isInteger(v)`. -/
def version : Json → Option Int
  | .num mantissa exponent => numberInteger mantissa exponent
  | _ => none

/-- A base64url character. -/
def isPeerIdChar (c : Char) : Bool := c.isAlphanum || c = '_' || c = '-'

/-- Base64url without padding of exactly 32 bytes; `atob` drops the bits left over. -/
def validatePeerId (peerId : String) : Bool :=
  peerId ≠ "" && peerId.toList.all isPeerIdChar &&
    match b64urlDecode peerId with
    | some binary => binary.length = 32
    | none => false

def dialect : Dialect := ⟨version, validatePeerId⟩

/-! ### Data -/

inductive ChannelState where
  | none
  | waiting
  | pendingAccept
  | connected
  | closed
  deriving DecidableEq

/-- Whether the channel counts as alive. -/
def ChannelState.live : ChannelState → Bool
  | .waiting => true
  | .pendingAccept => true
  | .connected => true
  | _ => false

/-- Stored in the socket's attachment; survives hibernation. -/
structure WsAttachment where
  role : Role
  peerId : String
  channelId : String
  deriving DecidableEq

inductive ReadyState where
  | opened
  | closing
  | closed
  deriving DecidableEq

/-- An accepted socket. `listed` says whether `getWebSockets()` still returns it. -/
structure Socket where
  attachment : Option WsAttachment := none
  readyState : ReadyState := .opened
  listed : Bool := true
  deriving DecidableEq

structure PersistedChannelState where
  state : ChannelState
  dappPeerId : String
  walletPeerId : Option String
  isReconnect : Bool
  pendingRequests : Finset String
  deriving DecidableEq

/-- What an event reads from outside: the clock, and the sockets whose `send` throws. -/
structure Inputs where
  now : Nat := 1
  throws : List Nat := []
  deriving DecidableEq

/-- What leaves the object, and who holds a role. Taking a join back is `revoked`. -/
inductive Obs (τ : Type) where
  | sent (id : Nat) (frame : Frame τ)
  | assigned (role : Role) (id : Nat)
  | revoked (id : Nat)
  deriving DecidableEq

/-- The fields of the object itself, gone after an eviction. -/
structure Memory where
  channelState : ChannelState := .none
  channelId : Option String := none
  dappPeerId : Option String := none
  walletPeerId : Option String := none
  isReconnect : Bool := false
  pendingRequests : Finset String := ∅
  initialized : Bool := false
  deriving DecidableEq

/-- The object under the name `name`, with its platform. A socket is known by its place. -/
structure ChannelDO (τ : Type) extends Memory where
  name : String
  sockets : List Socket := []
  stored : Option PersistedChannelState := none
  alarm : Option Nat := none
  trace : List (Obs τ) := []
  inputs : Inputs := {}

/-- The object before its first event. -/
def ChannelDO.fresh (τ : Type) (name : String) : ChannelDO τ := { name }

variable {τ : Type}

abbrev M (τ : Type) := Prog (ChannelDO τ)

def maxMessageBytes : Nat := 65536
def pendingRequestLimit : Nat := 256
def unpairedTtlMs : Nat := 5 * 60 * 1000
def connectedTtlMs : Nat := 24 * 60 * 60 * 1000

/-! ### Sockets -/

def ChannelDO.attachment (s : ChannelDO τ) (id : Nat) : Option WsAttachment :=
  (s.sockets[id]?).bind Socket.attachment

def ChannelDO.isOpen (s : ChannelDO τ) (id : Nat) : Bool :=
  (s.sockets[id]?).any fun socket => socket.readyState = .opened

/-- Whether a socket can be found as the peer of a role. -/
def Socket.serves (socket : Socket) (role : Role) : Bool :=
  socket.listed && socket.attachment.any (fun a => a.role = role) && socket.readyState = .opened

/-- The first socket of the role that is open. -/
def ChannelDO.findPeerWs (s : ChannelDO τ) (role : Role) : Option Nat :=
  s.sockets.findIdx? fun socket => socket.serves role

/-- The channel of the first listed socket that carries an attachment. -/
def ChannelDO.attachedChannel (s : ChannelDO τ) : Option String :=
  s.sockets.findSome? fun socket =>
    if socket.listed then nonEmpty (socket.attachment.map WsAttachment.channelId) else none

def record (o : Obs τ) : M τ Unit := modify fun s => { s with trace := s.trace ++ [o] }

/-- `ws.send`: a frame leaves only on an open socket; whether the call throws is a choice
of the environment. -/
def send (id : Nat) (frame : Frame τ) : M τ Unit := do
  let s ← get
  if id ∈ s.inputs.throws then throw "send"
  else if s.isOpen id then record (.sent id frame)

def updateSocket (id : Nat) (f : Socket → Socket) : M τ Unit :=
  modify fun s => { s with sockets := s.sockets.modify id f }

/-- `ws.close`: the client has yet to answer. -/
def Socket.close (socket : Socket) : Socket :=
  if socket.readyState = .opened then { socket with readyState := .closing } else socket

def closeSocket (id : Nat) : M τ Unit := updateSocket id Socket.close

/-- The attempt every handler makes to tell a socket something and then to close it. -/
def sendAndClose (id : Nat) (frame : Frame τ) : M τ Unit :=
  tryCatch (do
      send id frame
      closeSocket id)
    fun _ => return

def terminate (ch : String) (reason : CloseReason) (now : Nat) : Frame τ := .notice ch now (.terminate reason none)

/-- Refuse the sender of a message. -/
def reject (id : Nat) (ch : String) (reason : CloseReason) : M τ Unit := do
  let s ← get
  sendAndClose id (terminate ch reason s.inputs.now)

/-! ### Storage -/

def Memory.toPersisted (m : Memory) : PersistedChannelState :=
  ⟨m.channelState, m.dappPeerId.getD "", m.walletPeerId, m.isReconnect, m.pendingRequests⟩

/-- The fields that storage brings back. -/
def Memory.load (m : Memory) (stored : PersistedChannelState) : Memory :=
  { m with
    channelState := stored.state
    dappPeerId := nonEmpty (some stored.dappPeerId)
    walletPeerId := stored.walletPeerId
    isReconnect := stored.isReconnect
    pendingRequests := stored.pendingRequests }

def persistState : M τ Unit :=
  modify fun s => if nonEmpty s.channelId = none then s else { s with stored := some s.toMemory.toPersisted }

/-- The object after `ensureInitialized`. -/
def ChannelDO.woken (s : ChannelDO τ) : ChannelDO τ :=
  if s.initialized then s
  else
    let memory := match s.stored with
      | some stored => s.toMemory.load stored
      | none => s.toMemory
    { s with
      toMemory := { memory with
        initialized := true
        channelId := if nonEmpty s.channelId = none then s.attachedChannel <|> s.channelId else s.channelId } }

def ensureInitialized : M τ Unit := modify ChannelDO.woken

def setAlarm (delay : Nat) : M τ Unit := modify fun s => { s with alarm := some (s.inputs.now + delay) }

def deleteAlarm : M τ Unit := modify fun s => { s with alarm := none }

end WalletPair.Relay.Worker
