import WalletPair.Relay.JsonText
import WalletPair.Relay.Worker.State

/-! The frames that each relay accepts. Both make the same checks in the same order and
part where they count the length, in what their JSON library refuses, in the version they
read from a number, and in the bits that base64 may leave over. -/

namespace WalletPair.Relay.Language
open WalletPair.Sdk

def maxMessageBytes : Nat := 65536

/-! ### The two readings -/

/-- What a relay makes of the text and of the two fields that both read on their own terms. -/
structure Dialect where
  length : List Char → Nat
  /-- What the JSON library refuses although it is grammatical. -/
  reads : JsonText → Bool
  version : NumberLiteral → Option Int
  validatePeerId : Units → Bool

/-- A string without characters beyond ASCII. -/
def asciiText (s : Units) : Option String :=
  if s.all (· < 128) then some (String.ofList (s.map fun u => Char.ofNat u.toNat)) else none

namespace Worker

/-- `message.length`, `JSON.parse`, `Number.isInteger` and `atob`. -/
def dialect : Dialect where
  length text := (units text).length
  reads _ := true
  version literal := Relay.Worker.numberInteger literal.decimal.1 literal.decimal.2
  validatePeerId s := match asciiText s with
    | some text => Relay.Worker.validatePeerId text
    | none => false

end Worker

namespace Server

/-- The digits of an unsigned 64-bit number and nothing else. -/
def asU64 (literal : NumberLiteral) : Option Int :=
  if literal.negative = false ∧ literal.fraction = none ∧ literal.exponent = none ∧
      Json.digitsValue literal.whole < 2 ^ 64 then some (Json.digitsValue literal.whole)
  else none

/-- `URL_SAFE_NO_PAD.decode`: the alphabet only, and no bits set that are left over. -/
def decode (text : String) : Option Bytes :=
  if text.toList.all Relay.Worker.isPeerIdChar then
    match b64urlDecode text with
    | some bytes => if b64urlEncode bytes = text then some bytes else none
    | none => none
  else none

def validatePeerId (s : Units) : Bool :=
  match (asciiText s).bind decode with
  | some bytes => bytes.length = 32
  | none => false

/-- `serde_json` refuses a surrogate without its partner, a number that is not `inRange` of
its doubles, and the 128th level of nesting. -/
def dialect (inRange : NumberLiteral → Bool) : Dialect where
  length := utf8Length
  reads text := decide (text.depth < 128) && text.literals inRange wellFormed
  version := asU64
  validatePeerId := validatePeerId

end Server

/-! ### Parsing -/

inductive ParseError where
  | invalidJson
  | notAnObject
  | missingField (field : String)
  | unsupportedVersion (version : Int)
  | unknownType (type : Units)
  | invalidChannelId
  | invalidPeerId

def ParseError.toCloseReason : ParseError → CloseReason
  | .unsupportedVersion _ => .unsupportedVersion
  | _ => .protocolError

/-- What a message says beside its envelope. -/
structure Content where
  id : Option Units := none
  target : Option Units := none
  reason : Option Units := none
  sealedJoinNull : Option Bool := none
  deriving DecidableEq

structure Message extends Content where
  type : MessageType
  ch : Units
  sender : Units
  deriving DecidableEq

def validateChannelId (ch : Units) : Bool :=
  ch.length = 64 && ch.all fun u => (48 ≤ u && u ≤ 57) || (97 ≤ u && u ≤ 102)

def getStr (obj : JsonText) (key field : String) : Except ParseError Units :=
  match obj.field key with
  | some (.str text) => .ok text
  | _ => .error (.missingField field)

def getAny (obj : JsonText) (key field : String) : Except ParseError JsonText :=
  match obj.field key with
  | some value => .ok value
  | none => .error (.missingField field)

def getObject (obj : JsonText) (key field : String) : Except ParseError JsonText :=
  match obj.field key with
  | some (.obj members) => .ok (.obj members)
  | _ => .error (.missingField field)

def getNumber (obj : JsonText) (key field : String) : Except ParseError NumberLiteral :=
  match obj.field key with
  | some (.num literal) => .ok literal
  | _ => .error (.missingField field)

/-- The wire names, in the order of the switch. -/
def typeNames : List (String × MessageType) :=
  [("create", .create), ("join", .join), ("accept", .accept), ("req", .req), ("res", .res), ("evt", .evt),
    ("ping", .ping), ("pong", .pong), ("close", .close)]

/-- A relay's own types are refused like unknown ones. -/
def messageType (t : Units) : Except ParseError MessageType :=
  match typeNames.find? fun name => units name.1.toList == t with
  | some name => .ok name.2
  | none => .error (.unknownType t)

/-- The fields of the body that the type asks for. -/
def content (type : MessageType) (body : JsonText) : Except ParseError Content :=
  match type with
  | .create => do
    let _ ← getObject body "meta" "body.meta"
    return {}
  | .join => do
    let sealedJoin ← getAny body "sealed_join" "body.sealed_join"
    return { sealedJoinNull := some (match sealedJoin with
      | .null => true
      | _ => false) }
  | .accept => do
    let target ← getStr body "target" "body.target"
    return { target := some target }
  | .req | .res | .evt => do
    let id ← getStr body "id" "body.id"
    let _ ← getAny body "sealed" "body.sealed"
    return { id := some id }
  | .ping | .pong => return {}
  | .close => do
    let reason ← getStr body "reason" "body.reason"
    return { reason := some reason }

structure Envelope where
  t : Units
  ch : Units
  sender : Units
  body : JsonText

/-- The fields after the version. -/
def readEnvelope (obj : JsonText) : Except ParseError Envelope := do
  let t ← getStr obj "t" "t"
  let ch ← getStr obj "ch" "ch"
  if !validateChannelId ch then throw .invalidChannelId
  let _ ← getNumber obj "ts" "ts"
  let sender ← getStr obj "from" "from"
  let body ← getObject obj "body" "body"
  return ⟨t, ch, sender, body⟩

section
variable (d : Dialect)

def getVersion (obj : JsonText) : Except ParseError Int := do
  let literal ← getNumber obj "v" "v"
  match d.version literal with
  | some version => return version
  | none => throw (.missingField "v")

def checkPeerId (peerId : Units) : Except ParseError Unit :=
  if d.validatePeerId peerId then .ok () else .error .invalidPeerId

def parseBody (e : Envelope) : Except ParseError Message := do
  let type ← messageType e.t
  checkPeerId d e.sender
  let content ← content type e.body
  match content.target with
  | some target => checkPeerId d target
  | none => pure ()
  return { content with type := type, ch := e.ch, sender := e.sender }

def parseObject (obj : JsonText) : Except ParseError Message := do
  let v ← getVersion d obj
  if v ≠ 1 then throw (.unsupportedVersion v)
  let e ← readEnvelope obj
  parseBody d e

def parseMessage (text : List Char) : Except ParseError Message :=
  match JsonText.read text with
  | none => .error .invalidJson
  | some value =>
    if d.reads value then
      match value with
      | .obj members => parseObject d (.obj members)
      | _ => .error .notAnObject
    else .error .invalidJson

/-- What becomes of a text frame: the message, or the reason of the terminate. -/
def receive (text : List Char) : Except CloseReason Message :=
  if maxMessageBytes < d.length text then .error .payloadTooLarge
  else (parseMessage d text).mapError ParseError.toCloseReason

end

/-! ### What the parser accepts -/

/-- The body has what its type asks for. -/
def BodyShaped (valid : Units → Bool) (body : JsonText) : MessageType → Prop
  | .create => ∃ members, body.field "meta" = some (.obj members)
  | .join => ∃ value, body.field "sealed_join" = some value
  | .accept => ∃ target, body.field "target" = some (.str target) ∧ valid target = true
  | .req | .res | .evt => (∃ id, body.field "id" = some (.str id)) ∧ ∃ value, body.field "sealed" = some value
  | .ping | .pong => True
  | .close => ∃ reason, body.field "reason" = some (.str reason)

/-- The fields after the version are those of a message, its peers being `valid`. -/
structure Shaped (valid : Units → Bool) (obj : JsonText) (type : MessageType) (sender : Units) (body : JsonText) :
    Prop where
  typed : ∃ name, (name, type) ∈ typeNames ∧ obj.field "t" = some (.str (units name.toList))
  channel : ∃ ch, obj.field "ch" = some (.str ch) ∧ validateChannelId ch = true
  stamped : ∃ literal, obj.field "ts" = some (.num literal)
  sent : obj.field "from" = some (.str sender)
  bodied : obj.field "body" = some body ∧ ∃ members, body = .obj members
  peer : valid sender = true
  shaped : BodyShaped valid body type

section Accepted
variable {d : Dialect} {obj : JsonText} {m : Message}

theorem getStr_ok {key field : String} {text : Units} :
    getStr obj key field = .ok text ↔ obj.field key = some (.str text) := by
  unfold getStr
  split
  · next found => simp [found]
  · next missing =>
    constructor
    · intro ok
      cases ok
    · intro found
      exact (missing text found).elim

theorem getAny_ok {key field : String} {value : JsonText} :
    getAny obj key field = .ok value ↔ obj.field key = some value := by
  unfold getAny
  cases obj.field key <;> simp

theorem getObject_ok {key field : String} {value : JsonText} :
    getObject obj key field = .ok value ↔ obj.field key = some value ∧ ∃ members, value = .obj members := by
  unfold getObject
  split
  · next members found =>
    rw [found, Except.ok.injEq, Option.some.injEq]
    constructor
    · rintro rfl
      exact ⟨rfl, members, rfl⟩
    · exact fun same => same.1
  · next missing =>
    constructor
    · intro ok
      cases ok
    · rintro ⟨found, members, rfl⟩
      exact (missing members found).elim

theorem getNumber_ok {key field : String} {literal : NumberLiteral} :
    getNumber obj key field = .ok literal ↔ obj.field key = some (.num literal) := by
  unfold getNumber
  split
  · next found => simp [found]
  · next missing =>
    constructor
    · intro ok
      cases ok
    · intro found
      exact (missing literal found).elim

theorem checkPeerId_ok {peerId : Units} : checkPeerId d peerId = .ok () ↔ d.validatePeerId peerId = true := by
  unfold checkPeerId
  split <;> simp_all

theorem bind_ok {ε α β : Type} {x : Except ε α} {f : α → Except ε β} {b : β} :
    (x >>= f) = .ok b ↔ ∃ a, x = .ok a ∧ f a = .ok b := by
  constructor
  · exact ok_of_bind
  · rintro ⟨a, rfl, done⟩
    exact done

theorem readEnvelope_ok {e : Envelope} :
    readEnvelope obj = .ok e ↔ obj.field "t" = some (.str e.t) ∧ obj.field "ch" = some (.str e.ch) ∧
      validateChannelId e.ch = true ∧ (∃ literal, obj.field "ts" = some (.num literal)) ∧
      obj.field "from" = some (.str e.sender) ∧ obj.field "body" = some e.body ∧ ∃ members, e.body = .obj members := by
  unfold readEnvelope
  constructor
  · intro h
    obtain ⟨t, typed, h⟩ := bind_ok.mp h
    obtain ⟨ch, channel, h⟩ := bind_ok.mp h
    split_ifs at h with refused
    · cases h
    · obtain ⟨literal, stamped, h⟩ := bind_ok.mp h
      obtain ⟨sender, sent, h⟩ := bind_ok.mp h
      obtain ⟨body, bodied, h⟩ := bind_ok.mp h
      cases h
      obtain ⟨there, object⟩ := getObject_ok.mp bodied
      exact ⟨getStr_ok.mp typed, getStr_ok.mp channel, by simpa using refused, ⟨literal, getNumber_ok.mp stamped⟩,
        getStr_ok.mp sent, there, object⟩
  · rintro ⟨typed, channel, valid, ⟨literal, stamped⟩, sent, bodied, object⟩
    refine bind_ok.mpr ⟨e.t, getStr_ok.mpr typed, bind_ok.mpr ⟨e.ch, getStr_ok.mpr channel, ?_⟩⟩
    rw [if_neg (by simp [valid])]
    refine bind_ok.mpr ⟨literal, getNumber_ok.mpr stamped, ?_⟩
    exact bind_ok.mpr ⟨e.sender, getStr_ok.mpr sent, bind_ok.mpr ⟨e.body, getObject_ok.mpr ⟨bodied, object⟩, rfl⟩⟩

theorem messageType_ok {t : Units} {type : MessageType} :
    messageType t = .ok type ↔ ∃ name, (name, type) ∈ typeNames ∧ t = units name.toList := by
  unfold messageType
  constructor
  · intro h
    split at h
    · next name found =>
      cases h
      have same := List.find?_some found
      exact ⟨name.1, List.mem_of_find?_eq_some found, (beq_iff_eq.mp same).symm⟩
    · cases h
  · rintro ⟨name, mem, rfl⟩
    simp only [typeNames, List.mem_cons, Prod.mk.injEq, List.not_mem_nil, or_false] at mem
    rcases mem with ⟨rfl, rfl⟩ | ⟨rfl, rfl⟩ | ⟨rfl, rfl⟩ | ⟨rfl, rfl⟩ | ⟨rfl, rfl⟩ | ⟨rfl, rfl⟩ | ⟨rfl, rfl⟩ | ⟨rfl, rfl⟩ |
      ⟨rfl, rfl⟩ <;> rfl

theorem content_ok (valid : Units → Bool) (type : MessageType) (body : JsonText) :
    (∃ c, content type body = .ok c ∧ ∀ target, c.target = some target → valid target = true) ↔
      BodyShaped valid body type := by
  have plain : ∀ {α : Type} (x : Except ParseError α) (f : α → Content), (∀ a, (f a).target = none) →
      ((∃ c, (x >>= fun a => pure (f a)) = .ok c ∧ ∀ target, c.target = some target → valid target = true) ↔
        ∃ a, x = .ok a) := by
    intro α x f none_
    constructor
    · rintro ⟨c, read, -⟩
      obtain ⟨a, done, -⟩ := bind_ok.mp read
      exact ⟨a, done⟩
    · rintro ⟨a, done⟩
      refine ⟨f a, bind_ok.mpr ⟨a, done, rfl⟩, fun target named => ?_⟩
      rw [none_ a] at named
      cases named
  have sealed_ : ∀ type, type = .req ∨ type = .res ∨ type = .evt →
      ((∃ c, content type body = .ok c ∧ ∀ target, c.target = some target → valid target = true) ↔
        (∃ id, body.field "id" = some (.str id)) ∧ ∃ value, body.field "sealed" = some value) := by
    intro type kind
    have same : content type body = (getStr body "id" "body.id" >>= fun id =>
        getAny body "sealed" "body.sealed" >>= fun _ => pure { id := some id }) := by
      rcases kind with rfl | rfl | rfl <;> rfl
    rw [same]
    constructor
    · rintro ⟨c, read, -⟩
      obtain ⟨id, named, read⟩ := bind_ok.mp read
      obtain ⟨value, there, -⟩ := bind_ok.mp read
      exact ⟨⟨id, getStr_ok.mp named⟩, value, getAny_ok.mp there⟩
    · rintro ⟨⟨id, named⟩, value, there⟩
      refine ⟨_, bind_ok.mpr ⟨id, getStr_ok.mpr named, bind_ok.mpr ⟨value, getAny_ok.mpr there, rfl⟩⟩, ?_⟩
      intro target named
      cases named
  cases type with
  | create =>
    refine (plain _ (fun _ => {}) fun _ => rfl).trans ?_
    simp only [getObject_ok, BodyShaped]
    constructor
    · rintro ⟨_, there, members, rfl⟩
      exact ⟨members, there⟩
    · rintro ⟨members, there⟩
      exact ⟨_, there, members, rfl⟩
  | join =>
    refine (plain _ (fun sealedJoin : JsonText => { sealedJoinNull := some (match sealedJoin with
      | .null => true
      | _ => false) }) fun _ => rfl).trans ?_
    simp only [getAny_ok, BodyShaped]
  | accept =>
    constructor
    · rintro ⟨c, read, allowed⟩
      obtain ⟨target, named, same⟩ := bind_ok.mp read
      cases same
      exact ⟨target, getStr_ok.mp named, allowed target rfl⟩
    · rintro ⟨target, named, allowed⟩
      refine ⟨_, bind_ok.mpr ⟨target, getStr_ok.mpr named, rfl⟩, fun other same => ?_⟩
      cases same
      exact allowed
  | req => exact sealed_ .req (.inl rfl)
  | res => exact sealed_ .res (.inr (.inl rfl))
  | evt => exact sealed_ .evt (.inr (.inr rfl))
  | ping =>
    refine ⟨fun _ => trivial, fun _ => ⟨{}, rfl, fun target named => ?_⟩⟩
    cases named
  | pong =>
    refine ⟨fun _ => trivial, fun _ => ⟨{}, rfl, fun target named => ?_⟩⟩
    cases named
  | close =>
    refine (plain _ (fun reason => { reason := some reason }) fun _ => rfl).trans ?_
    simp only [getStr_ok, BodyShaped]

theorem parseBody_ok_iff {e : Envelope} :
    parseBody d e = .ok m ↔ ∃ type c, messageType e.t = .ok type ∧ d.validatePeerId e.sender = true ∧
      content type e.body = .ok c ∧ (∀ target, c.target = some target → d.validatePeerId target = true) ∧
      m = { c with type := type, ch := e.ch, sender := e.sender } := by
  unfold parseBody
  constructor
  · intro h
    obtain ⟨type, known, h⟩ := bind_ok.mp h
    obtain ⟨_, peer, h⟩ := bind_ok.mp h
    obtain ⟨c, read, h⟩ := bind_ok.mp h
    refine ⟨type, c, known, checkPeerId_ok.mp peer, read, ?_⟩
    cases target : c.target with
    | none =>
      simp only [target] at h
      cases h
      exact ⟨fun _ named => (by cases named), rfl⟩
    | some peer =>
      simp only [target] at h
      obtain ⟨_, checked, h⟩ := bind_ok.mp h
      cases h
      refine ⟨fun other named => ?_, rfl⟩
      cases named
      exact checkPeerId_ok.mp checked
  · rintro ⟨type, c, known, peer, read, valid, rfl⟩
    refine bind_ok.mpr ⟨type, known, bind_ok.mpr ⟨(), checkPeerId_ok.mpr peer, bind_ok.mpr ⟨c, read, ?_⟩⟩⟩
    cases target : c.target with
    | none => rfl
    | some other => exact bind_ok.mpr ⟨(), checkPeerId_ok.mpr (valid other target), rfl⟩

/-- What comes after the version. -/
def parseRest (d : Dialect) (obj : JsonText) : Except ParseError Message := readEnvelope obj >>= parseBody d

theorem parseRest_ok_iff :
    (∃ m, parseRest d obj = .ok m) ↔ ∃ type sender body, Shaped d.validatePeerId obj type sender body := by
  unfold parseRest
  constructor
  · rintro ⟨m, h⟩
    obtain ⟨e, envelope, h⟩ := bind_ok.mp h
    obtain ⟨type, c, known, peer, read, valid, -⟩ := parseBody_ok_iff.mp h
    obtain ⟨typed, channel, validCh, stamped, sent, bodied, object⟩ := readEnvelope_ok.mp envelope
    obtain ⟨name, mem, same⟩ := messageType_ok.mp known
    refine ⟨type, e.sender, e.body, ⟨name, mem, same ▸ typed⟩, ⟨e.ch, channel, validCh⟩, stamped, sent,
      ⟨bodied, object⟩, peer, ?_⟩
    exact (content_ok d.validatePeerId type e.body).mp ⟨c, read, valid⟩
  · rintro ⟨type, sender, body, ⟨name, mem, typed⟩, ⟨ch, channel, validCh⟩, stamped, sent, ⟨bodied, object⟩, peer, shaped⟩
    obtain ⟨c, read, valid⟩ := (content_ok d.validatePeerId type body).mpr shaped
    refine ⟨{ c with type := type, ch := ch, sender := sender }, bind_ok.mpr ⟨⟨units name.toList, ch, sender, body⟩, ?_, ?_⟩⟩
    · exact readEnvelope_ok.mpr ⟨typed, channel, validCh, stamped, sent, bodied, object⟩
    · exact parseBody_ok_iff.mpr ⟨type, c, messageType_ok.mpr ⟨name, mem, rfl⟩, peer, read, valid, rfl⟩

/-- Two dialects that accept the same object read the same message in it. -/
theorem parseRest_unique {d' : Dialect} {m' : Message} (ok : parseRest d obj = .ok m) (ok' : parseRest d' obj = .ok m') :
    m = m' := by
  obtain ⟨e, envelope, h⟩ := bind_ok.mp ok
  obtain ⟨e', envelope', h'⟩ := bind_ok.mp ok'
  rw [envelope, Except.ok.injEq] at envelope'
  subst envelope'
  obtain ⟨type, c, known, -, read, -, rfl⟩ := parseBody_ok_iff.mp h
  obtain ⟨type', c', known', -, read', -, rfl⟩ := parseBody_ok_iff.mp h'
  rw [known, Except.ok.injEq] at known'
  subst known'
  rw [read, Except.ok.injEq] at read'
  subst read'
  rfl

/-- Fails for no version. -/
def Ordinary {α : Type} (x : Except ParseError α) : Prop := ∀ e, x = .error e → e.toCloseReason = .protocolError

theorem Ordinary.bind {α β : Type} {x : Except ParseError α} {f : α → Except ParseError β} (first : Ordinary x)
    (second : ∀ a, Ordinary (f a)) : Ordinary (x >>= f) := by
  intro e failed
  cases x with
  | error e' =>
    cases failed
    exact first _ rfl
  | ok a => exact second a e failed

theorem Ordinary.pure {α : Type} (a : α) : Ordinary (pure a) := by
  intro e failed
  cases failed

theorem getStr_ordinary (obj : JsonText) (key field : String) : Ordinary (getStr obj key field) := by
  unfold getStr
  split
  · exact .pure _
  · rintro e ⟨⟩
    rfl

theorem getAny_ordinary (obj : JsonText) (key field : String) : Ordinary (getAny obj key field) := by
  unfold getAny
  split
  · exact .pure _
  · rintro e ⟨⟩
    rfl

theorem getObject_ordinary (obj : JsonText) (key field : String) : Ordinary (getObject obj key field) := by
  unfold getObject
  split
  · exact .pure _
  · rintro e ⟨⟩
    rfl

theorem getNumber_ordinary (obj : JsonText) (key field : String) : Ordinary (getNumber obj key field) := by
  unfold getNumber
  split
  · exact .pure _
  · rintro e ⟨⟩
    rfl

theorem checkPeerId_ordinary (d : Dialect) (peerId : Units) : Ordinary (checkPeerId d peerId) := by
  unfold checkPeerId
  split
  · exact .pure _
  · rintro e ⟨⟩
    rfl

theorem messageType_ordinary (t : Units) : Ordinary (messageType t) := by
  unfold messageType
  split
  · exact .pure _
  · rintro e ⟨⟩
    rfl

theorem content_ordinary (type : MessageType) (body : JsonText) : Ordinary (content type body) := by
  have sealed_ : Ordinary (getStr body "id" "body.id" >>= fun id =>
      getAny body "sealed" "body.sealed" >>= fun _ => pure ({ id := some id } : Content)) :=
    (getStr_ordinary _ _ _).bind fun _ => (getAny_ordinary _ _ _).bind fun _ => .pure _
  cases type with
  | create => exact (getObject_ordinary _ _ _).bind fun _ => .pure _
  | join => exact (getAny_ordinary _ _ _).bind fun _ => .pure _
  | accept => exact (getStr_ordinary _ _ _).bind fun _ => .pure _
  | req => exact sealed_
  | res => exact sealed_
  | evt => exact sealed_
  | ping => exact .pure _
  | pong => exact .pure _
  | close => exact (getStr_ordinary _ _ _).bind fun _ => .pure _

theorem readEnvelope_ordinary (obj : JsonText) : Ordinary (readEnvelope obj) := by
  refine (getStr_ordinary _ _ _).bind fun t => (getStr_ordinary _ _ _).bind fun ch => ?_
  dsimp only
  split_ifs
  · rintro e ⟨⟩
    rfl
  · exact (getNumber_ordinary _ _ _).bind fun _ => (getStr_ordinary _ _ _).bind fun _ =>
      (getObject_ordinary _ _ _).bind fun _ => .pure _

theorem parseBody_ordinary (d : Dialect) (e : Envelope) : Ordinary (parseBody d e) := by
  refine (messageType_ordinary _).bind fun type => (checkPeerId_ordinary _ _).bind fun _ =>
    (content_ordinary _ _).bind fun c => ?_
  cases target : c.target with
  | none => exact .pure _
  | some peer => exact (checkPeerId_ordinary _ _).bind fun _ => .pure _

theorem parseRest_ordinary (d : Dialect) (obj : JsonText) : Ordinary (parseRest d obj) :=
  (readEnvelope_ordinary obj).bind fun e => parseBody_ordinary d e

end Accepted

end WalletPair.Relay.Language
