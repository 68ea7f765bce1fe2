import WalletPair.Sdk.Crypto
import WalletPair.Lib.Journal

/-! Wire messages, session options and the bookkeeping both sessions share: timers,
persistence modes, and the record kept of every sealed frame. -/

namespace WalletPair.Sdk
open WalletPair.Lib

/-! ### Messages -/

structure DAppMeta where
  name : String
  description : String
  url : String
  icon : String
  deriving DecidableEq

def DAppMeta.toJson (m : DAppMeta) : Json :=
  .obj [("name", .str m.name), ("description", .str m.description), ("url", .str m.url), ("icon", .str m.icon)]

/-- The `sealed_join` property of a join body: missing, null, or a string. -/
inductive SealedJoin where
  | absent
  | null
  | text (envelope : String)
  deriving DecidableEq

/-- Message bodies by type. Fields a peer may leave out are optional. -/
inductive Body where
  | create (dappMeta : DAppMeta)
  | join (sealedJoin : SealedJoin)
  | accept (target : String)
  | ready (state remote : Option String)
  | req (id envelope : Option String)
  | res (id envelope : Option String)
  | evt (id envelope : Option String)
  | ping
  | pong
  | close (reason : String)
  | terminate (reason : Option String)
  deriving DecidableEq

structure ProtocolMessage where
  v : Nat
  ch : String
  ts : Nat
  sender : String
  body : Body
  deriving DecidableEq

def optField (key : String) : Option String → List (String × Json)
  | some s => [(key, .str s)]
  | none => []

def Body.toJson : Body → String × Json
  | .create m => ("create", .obj [("meta", m.toJson)])
  | .join .absent => ("join", .obj [])
  | .join .null => ("join", .obj [("sealed_join", .null)])
  | .join (.text s) => ("join", .obj [("sealed_join", .str s)])
  | .accept target => ("accept", .obj [("target", .str target)])
  | .ready state remote => ("ready", .obj (optField "state" state ++ optField "remote" remote))
  | .req id envelope => ("req", .obj (optField "id" id ++ optField "sealed" envelope))
  | .res id envelope => ("res", .obj (optField "id" id ++ optField "sealed" envelope))
  | .evt id envelope => ("evt", .obj (optField "id" id ++ optField "sealed" envelope))
  | .ping => ("ping", .obj [])
  | .pong => ("pong", .obj [])
  | .close reason => ("close", .obj [("reason", .str reason)])
  | .terminate reason => ("terminate", .obj (optField "reason" reason))

/-- Size of the message as sent: the UTF-8 length of its JSON text. -/
def ProtocolMessage.wireBytes (m : ProtocolMessage) : Nat :=
  (Json.obj [("v", .num m.v 0), ("t", .str m.body.toJson.1), ("ch", .str m.ch),
    ("ts", .num m.ts 0), ("from", .str m.sender), ("body", m.body.toJson.2)]).stringify.length

def permanentCloseReasons : List String :=
  ["normal", "user_rejected", "unsupported_capability", "unsupported_version", "already_connected",
    "decryption_failed"]

/-- Unknown and missing reasons are recoverable, so that new relay reasons fail safe. -/
def isRecoverableCloseReason : Option String → Bool
  | none => true
  | some reason => if reason = "" then true else !permanentCloseReasons.contains reason

/-- A missing field and an empty string are both falsy. -/
def nonEmpty : Option String → Option String
  | some text => if text = "" then none else some text
  | none => none

theorem nonEmpty_some {field : Option String} {text : String} (h : nonEmpty field = some text) :
    field = some text := by
  unfold nonEmpty at h
  split at h
  · split_ifs at h
    exact h
  · cases h

/-- Only the relay's own messages may carry its name. -/
def Body.fromRelay : Body → Bool
  | .ready _ _ => true
  | .terminate _ => true
  | _ => false

/-! ### Limits -/

def backoff : List Nat := [1000, 2000, 5000, 10000, 30000]
def maxSendSeq : Nat := 2 ^ 31
def maxPendingRequests : Nat := 32
def maxMessageBytes : Nat := 65536
def pendingAcceptTimeout : Nat := 60000

/-! ### Options -/

/-- A persistence adapter: whether its calls return promises, and whether it has `clear`. -/
structure Persistence where
  async : Bool
  clears : Bool
  deriving DecidableEq

/-- Times in ms. A limit of 0 stands for no limit, as `Infinity` does. -/
structure LinkOptions where
  sessionTtl : Nat := 86400000
  heartbeatInterval : Nat := 20000
  heartbeatTimeout : Nat := 10000
  maxReconnectAttempts : Nat := 10
  maxReconnectDurationMs : Nat := 300000
  persistence : Option Persistence := none
  canSetUrl : Bool := true
  deriving DecidableEq

/-! ### Timers -/

/-- Due times of the timers that are armed. -/
structure Timers where
  reconnect : Option Nat := none
  heartbeat : Option Nat := none
  liveness : Option Nat := none
  sessionTtl : Option Nat := none
  deriving DecidableEq

namespace Timers

def stopReconnect (t : Timers) : Timers := { t with reconnect := none }

def clearSessionTtl (t : Timers) : Timers := { t with sessionTtl := none }

def clearLiveness (t : Timers) : Timers := { t with liveness := none }

def stopHeartbeat (t : Timers) : Timers := { t with heartbeat := none, liveness := none }

def startHeartbeat (t : Timers) (interval now : Nat) : Timers :=
  if interval = 0 then t.stopHeartbeat else { t.stopHeartbeat with heartbeat := some (now + interval) }

/-- The lifetime counts from the first connection of the session. -/
def startSessionTtl (t : Timers) (ttl start now : Nat) : Timers :=
  { t with sessionTtl := some (now + (ttl - (now - start))) }

end Timers

/-- Whether a timer is armed and its time has come. -/
def due (now : Nat) : Option Nat → Bool
  | some time => time ≤ now
  | none => false

/-- Delay before the next attempt; `jitter` is the random part. -/
def reconnectDelay (attempt jitter : Nat) : Nat :=
  let base := backoff.getD (min attempt (backoff.length - 1)) 1000
  base + jitter % (base * 3 / 10 + 1)

/-- Whether a reconnect streak has hit its attempt or duration cap. -/
def reconnectExhausted (options : LinkOptions) (attempt startedAt now : Nat) : Bool :=
  (0 < options.maxReconnectAttempts && options.maxReconnectAttempts ≤ attempt) ||
    (0 < options.maxReconnectDurationMs && 0 < startedAt && options.maxReconnectDurationMs ≤ now - startedAt)

def hasPart (part : List Char) : List Char → Bool
  | [] => part.isEmpty
  | c :: rest => part.isPrefixOf (c :: rest) || hasPart part rest

/-- `text.includes(part)`. -/
def includes (text part : String) : Bool := hasPart part.toList text.toList

def withChannelHint (url channelId : String) : String :=
  url ++ (if includes url "?" then "&" else "?") ++ "ch=" ++ channelId

/-! ### Choices of the environment -/

/-- What a step reads from outside: the clock, whether each listener called in turn
throws, the random part of a delay, and random bytes. -/
structure Inputs where
  now : Nat := 1
  throws : List Bool := []
  jitter : Nat := 0
  nonce : Bytes := []
  deriving DecidableEq

/-! ### Records -/

/-- How a frame was sealed. `call` is the promise of the request it belongs to. -/
structure Sealed where
  key : Bytes
  seq : Nat
  channelId : String
  header : AadHeader
  plaintext : Bytes
  call : Option Nat
  deriving DecidableEq

/-- A frame that passed decryption and the replay check, and the key it opened under. -/
structure Delivery where
  key : Bytes
  seq : Nat
  type : AadType
  id : String
  plaintext : Bytes
  deriving DecidableEq

/-! ### A sample pairing -/

namespace Sample

/-- Labels taken while nothing throws. -/
def calmly {Label : Type} (labels : List Label) : List (Inputs × Label) := labels.map fun l => ({}, l)

def dappKey : Bytes := List.replicate 32 1

def walletKey : Bytes := List.replicate 32 2

def pairing : PairingParams := ⟨"ab", b64urlEncode dappKey, "u", "d", "", "", none, none⟩

/-- A channel id of 32 bytes. -/
def channel : String := String.ofList (List.replicate 64 'a')

/-- What a wallet reads out of a pairing URI for this channel. -/
def invitation : PairingParams :=
  ⟨channel, b64urlEncode dappKey, "wss://relay", "d", "https://d", "https://d/icon", none, none⟩

/-- The first join of a wallet that grants the method "m" and nothing else, under the
transparent primitives. -/
def join : ProtocolMessage := ⟨1, "ab", 0, b64urlEncode walletKey, .join (.text
  "AAAAAAAAAAAAAAAAeyJjYXBhYmlsaXRpZXMiOnsiY2hhaW5zIjpbXSwiZXZlbnRzIjpbXSwibWV0aG9kcyI6WyJtIl19LCJtZXRhIjpudWxsfWpyAwMAAAAABKsAAAAAAAA")⟩

/-- The key of the dApp in a second pairing. -/
def secondKey : Bytes := List.replicate 32 5

/-- The first join that the sample wallet sends to the second key pair. -/
def secondJoin : ProtocolMessage := ⟨1, "ab", 0, b64urlEncode walletKey, .join (.text
  "AAAAAAAAAAAAAAAAeyJjYXBhYmlsaXRpZXMiOnsiY2hhaW5zIjpbXSwiZXZlbnRzIjpbXSwibWV0aG9kcyI6WyJtIl19LCJtZXRhIjpudWxsfWpyBwcAAAAABKsAAAAAAAA")⟩

/-- The relay reports that the side with this key is connected. -/
def ready (remote : Bytes) : ProtocolMessage :=
  ⟨1, "ab", 0, "_adapter", .ready (some "connected") (some (b64urlEncode remote))⟩

/-- The keys the two sides derive from this pairing. -/
def dappToWalletKey : Bytes := [100, 114, 3, 3]

def walletToDappKey : Bytes := [119, 114, 3, 3]

/-- The envelope of a frame of this pairing. -/
def envelope (key sender : Bytes) (type : AadType) (id : String) (seq : Nat) (data : Json) : Option String :=
  match sealPayload .transparent key "ab" seq data ⟨type, b64urlEncode sender, id⟩ with
  | .ok (text, _) => some text
  | .error _ => none

/-- An event of the wallet with this number. -/
def event (seq : Nat) : ProtocolMessage := ⟨1, "ab", 0, b64urlEncode walletKey,
  .evt (some "e") (envelope walletToDappKey walletKey .evt "e" seq (.obj [("_event", .str "x")]))⟩

/-- A request of the dApp with this id, method and number. -/
def request (id method : String) (seq : Nat) : ProtocolMessage := ⟨1, "ab", 0, b64urlEncode dappKey,
  .req (some id) (envelope dappToWalletKey dappKey .req id seq
    (.obj [("_method", .str method), ("_params", .obj [])]))⟩

end Sample

end WalletPair.Sdk
