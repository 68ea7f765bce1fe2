import Mathlib.Algebra.GroupWithZero.Nat
import WalletPair.Sdk.Protocol

/-! The protocol as the two relays read and write it: the messages of the peers, the
checks a text frame has to pass, and the relay's own notices. The relays agree on the
order of the checks and differ in how they read the version and a peer id, so the
parser takes these as a `Dialect`. -/

namespace WalletPair.Relay
open WalletPair.Sdk

inductive Role where
  | dapp
  | wallet
  deriving DecidableEq

def Role.other : Role → Role
  | .dapp => .wallet
  | .wallet => .dapp

/-- The last two are internal to the server and share the wire name of another reason. -/
inductive CloseReason where
  | normal
  | userRejected
  | unsupportedCapability
  | channelNotFound
  | channelExists
  | alreadyConnected
  | invalidState
  | invalidRole
  | timeout
  | rateLimited
  | payloadTooLarge
  | protocolError
  | unsupportedVersion
  | decryptionFailed
  | slowConsumer
  | serverShutdown
  deriving DecidableEq

/-! ### Messages of the peers -/

inductive ClientMessage where
  | create (ch sender : String)
  | join (ch sender : String) (sealedJoinNull : Bool)
  | accept (ch sender target : String)
  | req (ch sender id : String)
  | res (ch sender id : String)
  | evt (ch sender id : String)
  | ping (ch sender : String)
  | pong (ch sender : String)
  | close (ch sender reason : String)
  deriving DecidableEq

def ClientMessage.channelId : ClientMessage → String
  | .create ch _ => ch
  | .join ch _ _ => ch
  | .accept ch _ _ => ch
  | .req ch _ _ => ch
  | .res ch _ _ => ch
  | .evt ch _ _ => ch
  | .ping ch _ => ch
  | .pong ch _ => ch
  | .close ch _ _ => ch

def ClientMessage.fromPeer : ClientMessage → String
  | .create _ sender => sender
  | .join _ sender _ => sender
  | .accept _ sender _ => sender
  | .req _ sender _ => sender
  | .res _ sender _ => sender
  | .evt _ sender _ => sender
  | .ping _ sender => sender
  | .pong _ sender => sender
  | .close _ sender _ => sender

inductive MessageType where
  | create
  | join
  | accept
  | req
  | res
  | evt
  | ping
  | pong
  | close
  deriving DecidableEq

def ClientMessage.messageType : ClientMessage → MessageType
  | .create _ _ => .create
  | .join _ _ _ => .join
  | .accept _ _ _ => .accept
  | .req _ _ _ => .req
  | .res _ _ _ => .res
  | .evt _ _ _ => .evt
  | .ping _ _ => .ping
  | .pong _ _ => .pong
  | .close _ _ _ => .close

inductive ParseError where
  | invalidJson
  | notAnObject
  | missingField (field : String)
  | unsupportedVersion (version : Int)
  | unknownType (type : String)
  | invalidChannelId
  | invalidPeerId
  deriving DecidableEq

def ParseError.toCloseReason : ParseError → CloseReason
  | .unsupportedVersion _ => .unsupportedVersion
  | _ => .protocolError

/-! ### Parsing -/

/-- 64 lowercase hexadecimal digits. -/
def validateChannelId (ch : String) : Bool :=
  ch.toList.length = 64 && ch.toList.all fun c => ('0' ≤ c && c ≤ '9') || ('a' ≤ c && c ≤ 'f')

/-- How a relay reads the two fields on which the implementations differ. -/
structure Dialect where
  version : Json → Option Int
  validatePeerId : String → Bool

def getStr (obj : Json) (key field : String) : Except ParseError String :=
  match obj.field key with
  | some (.str text) => .ok text
  | _ => .error (.missingField field)

/-- The property is there, with any value. -/
def getAny (obj : Json) (key field : String) : Except ParseError Json :=
  match obj.field key with
  | some value => .ok value
  | none => .error (.missingField field)

/-- The property is an object, and no array. -/
def getObject (obj : Json) (key field : String) : Except ParseError Json :=
  match obj.field key with
  | some (.obj fields) => .ok (.obj fields)
  | _ => .error (.missingField field)

def getNumber (obj : Json) (key field : String) : Except ParseError Unit :=
  match obj.field key with
  | some (.num _ _) => .ok ()
  | _ => .error (.missingField field)

section
variable (d : Dialect)

def getVersion (obj : Json) : Except ParseError Int :=
  match (obj.field "v").bind d.version with
  | some version => .ok version
  | none => .error (.missingField "v")

def checkPeerId (peerId : String) : Except ParseError Unit :=
  if d.validatePeerId peerId then .ok () else .error .invalidPeerId

/-- The identifier of a sealed message, whose payload must be there too. -/
def sealedId (body : Json) : Except ParseError String := do
  let id ← getStr body "id" "body.id"
  let _ ← getAny body "sealed" "body.sealed"
  return id

def parseBody (t ch sender : String) (body : Json) : Except ParseError ClientMessage :=
  match t with
  | "create" => do
    checkPeerId d sender
    let _ ← getObject body "meta" "body.meta"
    return .create ch sender
  | "join" => do
    checkPeerId d sender
    let sealedJoin ← getAny body "sealed_join" "body.sealed_join"
    return .join ch sender (match sealedJoin with
      | .null => true
      | _ => false)
  | "accept" => do
    checkPeerId d sender
    let target ← getStr body "target" "body.target"
    checkPeerId d target
    return .accept ch sender target
  | "req" => do
    checkPeerId d sender
    let id ← sealedId body
    return .req ch sender id
  | "res" => do
    checkPeerId d sender
    let id ← sealedId body
    return .res ch sender id
  | "evt" => do
    checkPeerId d sender
    let id ← sealedId body
    return .evt ch sender id
  | "ping" => do
    checkPeerId d sender
    return .ping ch sender
  | "pong" => do
    checkPeerId d sender
    return .pong ch sender
  | "close" => do
    checkPeerId d sender
    let reason ← getStr body "reason" "body.reason"
    return .close ch sender reason
  | "ready" => throw (.unknownType "ready (peers must not send ready)")
  | "terminate" => throw (.unknownType "terminate (peers must not send terminate)")
  | other => throw (.unknownType other)

/-- The common envelope, field by field in the order of the source, then the body. -/
def parseEnvelope (obj : Json) : Except ParseError ClientMessage := do
  let v ← getVersion d obj
  if v ≠ 1 then throw (.unsupportedVersion v)
  let t ← getStr obj "t" "t"
  let ch ← getStr obj "ch" "ch"
  if !validateChannelId ch then throw .invalidChannelId
  getNumber obj "ts" "ts"
  let sender ← getStr obj "from" "from"
  let body ← getObject obj "body" "body"
  parseBody d t ch sender body

def parseMessage : Option Json → Except ParseError ClientMessage
  | none => .error .invalidJson
  | some (.obj fields) => parseEnvelope d (.obj fields)
  | some _ => .error .notAnObject

end

/-! ### What is accepted -/

theorem ok_of_bind {ε α β : Type} {x : Except ε α} {f : α → Except ε β} {b : β} (h : (x >>= f) = .ok b) :
    ∃ a, x = .ok a ∧ f a = .ok b := by
  cases x with
  | error e => cases h
  | ok a => exact ⟨a, rfl, h⟩

section Accepted
variable {d : Dialect} {msg : ClientMessage}

/-- A body that starts with the check of its sender, and names channel and sender as given. -/
private theorem sender_of_checked {ch sender : String} {rest : Unit → Except ParseError ClientMessage}
    (kept : ∀ out, rest () = .ok out → out.channelId = ch ∧ out.fromPeer = sender)
    (h : (checkPeerId d sender >>= rest) = .ok msg) :
    msg.channelId = ch ∧ msg.fromPeer = sender ∧ d.validatePeerId sender = true := by
  obtain ⟨_, checked, body⟩ := ok_of_bind h
  unfold checkPeerId at checked
  split_ifs at checked with valid
  exact ⟨(kept msg body).1, (kept msg body).2, valid⟩

theorem parseBody_ok {t ch sender : String} {body : Json} (h : parseBody d t ch sender body = .ok msg) :
    msg.channelId = ch ∧ msg.fromPeer = sender ∧ d.validatePeerId sender = true := by
  have named : ∀ {α : Type} (x : Except ParseError α) (f : α → ClientMessage),
      (∀ a, (f a).channelId = ch ∧ (f a).fromPeer = sender) →
      ∀ out, (x >>= fun a => pure (f a)) = .ok out → out.channelId = ch ∧ out.fromPeer = sender := by
    intro α x f kept out built
    obtain ⟨a, -, same⟩ := ok_of_bind built
    cases same
    exact kept a
  unfold parseBody at h
  split at h
  · exact sender_of_checked (named _ _ fun _ => ⟨rfl, rfl⟩) h
  · exact sender_of_checked (named _ _ fun _ => ⟨rfl, rfl⟩) h
  · refine sender_of_checked (fun out built => ?_) h
    obtain ⟨target, -, rest⟩ := ok_of_bind built
    exact named _ (fun _ => .accept ch sender target) (fun _ => ⟨rfl, rfl⟩) out rest
  · exact sender_of_checked (named _ _ fun _ => ⟨rfl, rfl⟩) h
  · exact sender_of_checked (named _ _ fun _ => ⟨rfl, rfl⟩) h
  · exact sender_of_checked (named _ _ fun _ => ⟨rfl, rfl⟩) h
  · refine sender_of_checked (fun out built => ?_) h
    cases built
    exact ⟨rfl, rfl⟩
  · refine sender_of_checked (fun out built => ?_) h
    cases built
    exact ⟨rfl, rfl⟩
  · exact sender_of_checked (named _ _ fun _ => ⟨rfl, rfl⟩) h
  · cases h
  · cases h
  · cases h

/-- An accepted message names a valid channel and a valid sender. -/
theorem parseMessage_ok {json : Option Json} (h : parseMessage d json = .ok msg) :
    validateChannelId msg.channelId = true ∧ d.validatePeerId msg.fromPeer = true := by
  unfold parseMessage at h
  split at h
  · cases h
  · unfold parseEnvelope at h
    obtain ⟨v, -, h⟩ := ok_of_bind h
    split_ifs at h
    · obtain ⟨_, thrown, -⟩ := ok_of_bind h
      cases thrown
    · obtain ⟨t, -, h⟩ := ok_of_bind h
      obtain ⟨ch, -, h⟩ := ok_of_bind h
      split_ifs at h with refused
      · obtain ⟨_, thrown, -⟩ := ok_of_bind h
        cases thrown
      · obtain ⟨_, -, h⟩ := ok_of_bind h
        obtain ⟨sender, -, h⟩ := ok_of_bind h
        obtain ⟨body, -, h⟩ := ok_of_bind h
        obtain ⟨sameCh, sameSender, valid⟩ := parseBody_ok h
        rw [sameCh, sameSender]
        exact ⟨by simpa using refused, valid⟩
  · cases h

theorem channelId_ne_empty {ch : String} (valid : validateChannelId ch = true) : ch ≠ "" := by
  rintro rfl
  revert valid
  decide

end Accepted

/-! ### Texts -/

/-- A text frame as a relay sees it: its lengths, and the value `JSON.parse` finds in it. -/
class Wire (τ : Type) where
  /-- The length in UTF-16 code units, as JavaScript counts. -/
  units : τ → Nat
  /-- The length in bytes of UTF-8. -/
  bytes : τ → Nat
  json : τ → Option Json

instance : Wire String where
  units text := (text.toList.map fun c => if c.toNat < 0x10000 then 1 else 2).sum
  bytes text := (utf8ToBytes text).length
  json text := Json.parse text.toList

/-! ### Notices of the relay -/

inductive Notice where
  | readyWaiting (role : Role) (self : String) (reconnect : Bool)
  | readyConnected (role : Role) (self remote : String) (reconnect : Bool)
  | terminate (reason : CloseReason) (target : Option String)
  deriving DecidableEq

/-- What a relay puts on a connection: a notice under its own name, or a text passed on. -/
inductive Frame (τ : Type) where
  | notice (ch : String) (ts : Nat) (notice : Notice)
  | forwarded (text : τ)
  deriving DecidableEq

end WalletPair.Relay
