import Mathlib.Algebra.GroupWithZero.Nat
import WalletPair.Lib.Run
import WalletPair.Sdk.Json

/-! The WebSocket transport: one state and one current socket, shared by the handlers of
every socket that `connect()` ever made. Events of the sockets come in any order. -/

namespace WalletPair.Sdk.Transport
open WalletPair.Lib

inductive TransportState where
  | disconnected
  | connecting
  | connected
  deriving DecidableEq

/-- Max frames buffered while a connect is in flight before dropping the oldest. -/
def maxOutboundQueue : Nat := 64

/-- Inbound frames larger than this are dropped before `JSON.parse`. -/
def maxInboundBytes : Nat := 128 * 1024

/-- What the closure of one `connect()` holds: whether its promise is settled, whether its
timer runs, and the handlers still attached to its socket. -/
structure Socket where
  settled : Bool
  timer : Bool
  onopen : Bool
  onmessage : Bool
  onclose : Bool
  onerror : Bool
  deriving DecidableEq

/-- A socket in its handshake. -/
def Socket.opening : Socket := ⟨false, true, true, true, true, true⟩

/-- The constructor threw, so there is no socket and no timer. -/
def Socket.failed : Socket := ⟨true, false, false, false, false, false⟩

/-- What can be seen from outside. A frame is given with the number of `connect()` calls
so far, and written to the socket of one of them. -/
inductive Obs (Frame : Type) where
  | given (window : Nat) (frame : Frame)
  | written (socket : Nat) (frame : Frame)
  | delivered (socket : Nat) (message : Json)
  | openHandler
  | closeHandler (wasError : Bool)
  | resolved (socket : Nat)
  | rejected (socket : Nat)
  | closing (socket : Nat)

/-- `latest` is the socket of the last `connect()`, until `disconnect()`. -/
structure State (Frame : Type) where
  state : TransportState
  ws : Option Nat
  outbound : List Frame
  hasMessageHandler : Bool
  hasCloseHandler : Bool
  hasOpenHandler : Bool
  lastErrored : Bool
  sockets : List Socket
  latest : Option Nat
  trace : List (Obs Frame)

variable {Frame : Type}

def State.new : State Frame := ⟨.disconnected, none, [], false, false, false, false, [], none, []⟩

def State.record (s : State Frame) (more : List (Obs Frame)) : State Frame := { s with trace := s.trace ++ more }

def State.socket (s : State Frame) (k : Nat) : Socket := s.sockets[k]?.getD .failed

def State.adjust (s : State Frame) (k : Nat) (f : Socket → Socket) : State Frame :=
  { s with sockets := s.sockets.modify k f }

/-! ### Frames from the wire -/

/-- The length of a text in UTF-16 code units. -/
def textLength (s : String) : Nat := (s.toList.map fun c => if c.toNat < 0x10000 then 1 else 2).sum

/-- The data of a message event. -/
inductive Data where
  | text (s : String)
  | binary

def isString (value : Option Json) : Bool :=
  match value with
  | some (.str _) => true
  | _ => false

def isNumber (value : Option Json) : Bool :=
  match value with
  | some (.num _ _) => true
  | _ => false

/-- Minimal structural validation of an inbound frame. -/
def isWireMessage (value : Json) : Bool :=
  value.isObject && isString (value.field "t") && isNumber (value.field "v") && isString (value.field "ch") &&
    isString (value.field "from") && (value.field "body").any Json.isObject

/-- The message of an event, unless it is oversized, binary, malformed or of the wrong shape. -/
def wireMessage : Data → Option Json
  | .text s => if textLength s > maxInboundBytes then none else (Json.parse s.toList).filter isWireMessage
  | .binary => none

/-! ### Methods and handlers -/

/-- `connect()`; `throws` is a constructor that throws. -/
def connect (throws : Bool) (s : State Frame) : State Frame :=
  let fresh := { s with outbound := [], state := .connecting, latest := some s.sockets.length }
  if throws then { fresh with sockets := s.sockets ++ [Socket.failed] }.record [.rejected s.sockets.length]
  else { fresh with sockets := s.sockets ++ [Socket.opening] }

/-- Buffer a frame; a full queue drops its oldest. -/
def buffer (frame : Frame) (s : State Frame) : State Frame :=
  { s with outbound := (if s.outbound.length ≥ maxOutboundQueue then s.outbound.drop 1 else s.outbound) ++ [frame] }

def send (frame : Frame) (s : State Frame) : State Frame :=
  let given := s.record [.given s.sockets.length frame]
  match s.ws with
  | some k => if s.state = .connected then given.record [.written k frame] else buffer frame given
  | none => buffer frame given

def disconnect (s : State Frame) : State Frame :=
  let s := match s.ws with
    | some k => { s.adjust k (fun c => { c with onclose := false }) with ws := none }.record [.closing k]
    | none => s
  { s with outbound := [], state := .disconnected, latest := none }

/-- The frames of the queue, in order. -/
def flushOutbound (s : State Frame) : State Frame :=
  match s.ws with
  | some k => { s with outbound := [] }.record (s.outbound.map fun frame => .written k frame)
  | none => s

def onopen (k : Nat) (s : State Frame) : State Frame :=
  if !(s.socket k).onopen || (s.socket k).settled then s
  else
    let s := s.adjust k fun c => { c with settled := true, timer := false }
    let s := flushOutbound { s with state := .connected, ws := some k, lastErrored := false }
    s.record ((if s.hasOpenHandler then [.openHandler] else []) ++ [.resolved k])

def onmessage (k : Nat) (data : Data) (s : State Frame) : State Frame :=
  if !(s.socket k).onmessage || !s.hasMessageHandler then s
  else
    match wireMessage data with
    | some message => s.record [.delivered k message]
    | none => s

def onclose (k : Nat) (s : State Frame) : State Frame :=
  if !(s.socket k).onclose || ((s.socket k).settled && s.state ≠ .connected) then s
  else
    let wasConnected := s.state = .connected
    let after := { s.adjust k (fun c => { c with timer := false }) with
      lastErrored := false, state := .disconnected, ws := none }
    if wasConnected then after.record (if s.hasCloseHandler then [.closeHandler s.lastErrored] else [])
    else (after.adjust k fun c => { c with settled := true }).record [.rejected k]

def onerror (k : Nat) (s : State Frame) : State Frame :=
  if (s.socket k).onerror then { s with lastErrored := true } else s

/-- The connect timer: tear down a stalled handshake. -/
def timedOut (k : Nat) (s : State Frame) : State Frame :=
  if !(s.socket k).timer then s
  else if (s.socket k).settled then s.adjust k fun c => { c with timer := false }
  else
    let s := s.adjust k fun c =>
      { c with settled := true, timer := false, onopen := false, onclose := false, onerror := false }
    { s with state := .disconnected }.record [.closing k, .rejected k]

/-- Every way the outside can act on the transport. What a handler of the application
calls in turn comes as labels of its own: no handler is followed by more than the
settling of a promise. -/
inductive Label (Frame : Type) where
  | onMessage
  | onClose
  | onOpen
  | connect (throws : Bool)
  | send (frame : Frame)
  | disconnect
  | opened (socket : Nat)
  | message (socket : Nat) (data : Data)
  | closed (socket : Nat)
  | errored (socket : Nat)
  | timeout (socket : Nat)

def step (s : State Frame) : Label Frame → State Frame
  | .onMessage => { s with hasMessageHandler := true }
  | .onClose => { s with hasCloseHandler := true }
  | .onOpen => { s with hasOpenHandler := true }
  | .connect throws => connect throws s
  | .send frame => send frame s
  | .disconnect => disconnect s
  | .opened k => onopen k s
  | .message k data => onmessage k data s
  | .closed k => onclose k s
  | .errored k => onerror k s
  | .timeout k => timedOut k s

end WalletPair.Sdk.Transport
