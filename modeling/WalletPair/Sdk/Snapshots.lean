import WalletPair.Sdk.DApp.Loop
import WalletPair.Sdk.Wallet.Loop

/-! Snapshots as the text that is stored, and how `restore` reads them. The text may be
any: what it holds need not have the types that `serialize` writes, so the fields that
`restore` assigns are kept here as JavaScript keeps them. The key of the signature is
taken from the text itself, and a text without a signature is read as well. -/

namespace WalletPair.Sdk

/-! ### The envelope -/

section
variable (C : Crypto)

def deriveSnapshotHmacKey (sendKey : Bytes) : Bytes := C.hmac sendKey (utf8ToBytes "walletpair-v1-snapshot-hmac")

def snapshotMac (sendKey : Bytes) (json : String) : String :=
  bytesToHex (C.hmac (deriveSnapshotHmacKey C sendKey) (utf8ToBytes json))

def signSnapshot (sendKey : Bytes) (json : String) : String := snapshotMac C sendKey json ++ "." ++ json

/-- A signed snapshot is not the text of an object. -/
theorem signSnapshot_head (sendKey : Bytes) (json : String) :
    (signSnapshot C sendKey json).toList.head? ≠ some '\x7b' := by
  have digits : ∀ n < 16, hexChar n ≠ '\x7b' := by decide
  unfold signSnapshot snapshotMac bytesToHex
  rw [String.toList_append, String.toList_append, String.toList_ofList]
  cases C.hmac (deriveSnapshotHmacKey C sendKey) (utf8ToBytes json) with
  | nil =>
    intro same
    cases same
  | cons b rest =>
    intro same
    exact digits (b.toNat / 16) (by have := b.toNat_lt; omega) (Option.some.inj same)

/-- The first code units of a text and the rest; nothing if they end within a character. -/
def takeUnits : Nat → List Char → Option (List Char × List Char)
  | 0, text => some ([], text)
  | _ + 1, [] => none
  | n + 1, c :: rest =>
    if c.toNat < 0x10000 then (takeUnits n rest).map fun cut => (c :: cut.1, cut.2)
    else
      match n with
      | 0 => none
      | n + 1 => (takeUnits n rest).map fun cut => (c :: cut.1, cut.2)

/-- `<mac>.<json>`: 64 code units, a dot, and something after it. -/
def splitSigned (signed : String) : Option (List Char × List Char) :=
  match takeUnits 64 signed.toList with
  | some (mac, '.' :: c :: body) => some (mac, c :: body)
  | _ => none

theorem takeUnits_append {text : List Char} (narrow : ∀ c ∈ text, c.toNat < 0x10000) (rest : List Char) :
    takeUnits text.length (text ++ rest) = some (text, rest) := by
  induction text with
  | nil => rfl
  | cons c text ih =>
    have first : c.toNat < 0x10000 := narrow c (by simp)
    change takeUnits (text.length + 1) (c :: (text ++ rest)) = _
    unfold takeUnits
    rw [if_pos first, ih fun c mem => narrow c (by simp [mem])]
    rfl

theorem takeUnits_spelled {n : Nat} {text taken rest : List Char} (cut : takeUnits n text = some (taken, rest)) :
    text = taken ++ rest := by
  induction n, text using takeUnits.induct generalizing taken rest with
  | case1 text =>
    unfold takeUnits at cut
    cases cut
    rfl
  | case2 n =>
    unfold takeUnits at cut
    cases cut
  | case3 n c text narrow ih =>
    unfold takeUnits at cut
    rw [if_pos narrow] at cut
    obtain ⟨⟨taken', rest'⟩, more, same⟩ := Option.map_eq_some_iff.mp cut
    cases same
    rw [ih more, List.cons_append]
  | case4 c text wide =>
    unfold takeUnits at cut
    rw [if_neg wide] at cut
    cases cut
  | case5 c text wide n ih =>
    unfold takeUnits at cut
    rw [if_neg wide] at cut
    obtain ⟨⟨taken', rest'⟩, more, same⟩ := Option.map_eq_some_iff.mp cut
    cases same
    rw [ih more, List.cons_append]

theorem splitSigned_spelled {signed : String} {mac body : List Char} (split : splitSigned signed = some (mac, body)) :
    signed.toList = mac ++ '.' :: body := by
  unfold splitSigned at split
  split at split
  · rename_i mac' c body' cut
    cases split
    exact takeUnits_spelled cut
  · cases split

/-- A text is split where its signature ends, which is 64 code units for 32 bytes. -/
theorem splitSigned_append {mac : Bytes} (length : mac.length = 32) {c : Char} {body : List Char} {signed : String}
    (spelled : signed.toList = (bytesToHex mac).toList ++ '.' :: c :: body) :
    splitSigned signed = some ((bytesToHex mac).toList, c :: body) := by
  have digits : ∀ n < 16, (hexChar n).toNat < 0x10000 := by decide
  have narrow : ∀ c ∈ (bytesToHex mac).toList, c.toNat < 0x10000 := by
    intro c mem
    rw [bytesToHex, String.toList_ofList, List.mem_flatMap] at mem
    obtain ⟨b, -, digit⟩ := mem
    have small := b.toNat_lt
    rcases List.mem_pair.mp digit with rfl | rfl
    · exact digits _ (by omega)
    · exact digits _ (by omega)
  have units : (bytesToHex mac).toList.length = 64 := by
    rw [bytesToHex, String.toList_ofList, List.length_flatMap]
    simp [length]
  have cut : takeUnits 64 signed.toList = some ((bytesToHex mac).toList, '.' :: c :: body) := by
    rw [spelled, ← units]
    exact takeUnits_append narrow _
  unfold splitSigned
  rw [cut]
  rfl

/-- The first dot is the one after the signature, and the signature is the right one. -/
def verifySnapshot (sendKey : Bytes) (mac body : List Char) : Bool :=
  !mac.contains '.' && String.ofList mac == snapshotMac C sendKey (String.ofList body)

/-- Whether a condition takes the field for true. -/
def Json.isSet (d : Json) (key : String) : Bool := (d.field key).any Json.truthy

/-- `hexToBytes` of a field; it throws on what is no text. -/
def Json.hexField (d : Json) (key : String) : Option Bytes :=
  match d.field key with
  | some (.str text) => hexToBytes text
  | _ => none

/-- The object that is read out of the text, if it is not refused before. -/
def readSigned (signed : String) : Option Json :=
  match splitSigned signed with
  | none => Json.parse signed.toList
  | some (mac, body) => do
    let d ← Json.parse body
    if !d.isSet "sendKey" then none
    else
      let sendKey ← d.hexField "sendKey"
      if verifySnapshot C sendKey mac body then some d else none

end

/-! ### The fields of both sessions -/

/-- `value ?? null`. -/
def orNull (value : Option Json) : Json := value.getD .null

/-- `value ?? undefined`. -/
def orUndefined : Option Json → Option Json
  | some .null => none
  | value => value

/-- `value ?? other`. -/
def orElseNull (value : Option Json) (other : Json) : Json := (orUndefined value).getD other

/-- `value || other`. -/
def orElseFalse (value : Option Json) (other : Json) : Json :=
  match value with
  | none => other
  | some v => if v.truthy then v else other

/-- What both sessions assign first. `none` stands for `undefined` and, of bytes, for `null`. -/
structure Identity where
  channelId : Option Json
  privKey : Option Bytes
  pubKeyB64 : Option Json
  remotePubKey : Option Bytes
  sendKey : Option Bytes
  recvKey : Option Bytes

namespace Identity

/-- `d.remotePubKeyB64 ? b64urlDecode(d.remotePubKeyB64) : null`, if it does not throw. -/
def readRemote (d : Json) : Option (Option Bytes) :=
  if d.isSet "remotePubKeyB64" then
    match d.field "remotePubKeyB64" with
    | some (.str text) => (b64urlDecode text).map some
    | _ => none
  else some none

/-- `d[key] ? hexToBytes(d[key]) : null`, if it does not throw. -/
def readKey (d : Json) (key : String) : Option (Option Bytes) :=
  if d.isSet key then (d.hexField key).map some else some none

/-- What `restore` does in both sessions first: it asks for an id and a key, and assigns
one field after the other up to the check of the traffic keys. -/
def restore (d : Json) (i : Identity) : Bool × Identity :=
  if !d.isSet "channelId" || !d.isSet "privKey" then (false, i)
  else
    let i := { i with channelId := d.field "channelId" }
    match d.hexField "privKey" with
    | none => (false, i)
    | some privKey =>
      let i := { i with privKey := some privKey, pubKeyB64 := d.field "pubKeyB64" }
      match readRemote d with
      | none => (false, i)
      | some remotePubKey =>
        let i := { i with remotePubKey }
        match readKey d "sendKey" with
        | none => (false, i)
        | some sendKey =>
          let i := { i with sendKey }
          match readKey d "recvKey" with
          | none => (false, i)
          | some recvKey => (sendKey.isSome && recvKey.isSome, { i with recvKey })

/-- The members that a snapshot begins with. -/
def members (i : Identity) (privKey : Bytes) : List (String × Json) :=
  (i.channelId.toList.map fun v => ("channelId", v)) ++ [("privKey", .str (bytesToHex privKey))] ++
    (i.pubKeyB64.toList.map fun v => ("pubKeyB64", v)) ++
    [("remotePubKeyB64", orNull (i.remotePubKey.map fun key => .str (b64urlEncode key))),
      ("sendKey", orNull (i.sendKey.map fun key => .str (bytesToHex key))),
      ("recvKey", orNull (i.recvKey.map fun key => .str (bytesToHex key)))]

/-- The text of a snapshot with these further members; there is none without a key pair. -/
def serialize (C : Crypto) (i : Identity) (more : List (String × Json)) : Option String :=
  i.privKey.map fun privKey =>
    let json := String.ofList (textDecode (Json.obj (i.members privKey ++ more)).stringify)
    match i.sendKey with
    | some sendKey => signSnapshot C sendKey json
    | none => json

/-- With the traffic keys the text is signed. -/
theorem serialize_head {C : Crypto} {i : Identity} {more : List (String × Json)} {text : String}
    (keyed : i.sendKey ≠ none) (wrote : i.serialize C more = some text) : text.toList.head? ≠ some '\x7b' := by
  obtain ⟨privKey, -, rfl⟩ := Option.map_eq_some_iff.mp wrote
  dsimp only
  cases send : i.sendKey with
  | none => exact absurd send keyed
  | some sendKey => exact signSnapshot_head C sendKey _

end Identity

/-! ### The dApp session -/

namespace DApp

structure Fields extends Identity where
  phase : Phase
  sendSeq : Json
  recvSeq : Json
  reqCounter : Json
  paired : Json
  approvedScopeRecorded : Bool
  approvedCapabilities : Option Json
  approvedWalletMeta : Option Json
  approvedWalletPubKeyB64 : Option Json
  walletCapabilities : Option Json
  walletMeta : Option Json
  dappMeta : Json
  sessionStartTime : Json

namespace Fields

def serialize (C : Crypto) (f : Fields) : Option String :=
  f.toIdentity.serialize C
    [("sendSeq", f.sendSeq), ("recvSeq", f.recvSeq), ("reqCounter", f.reqCounter), ("paired", f.paired),
      ("dappMeta", f.dappMeta), ("approvedScopeRecorded", .bool f.approvedScopeRecorded),
      ("approvedCapabilities", orNull f.approvedCapabilities), ("approvedWalletMeta", orNull f.approvedWalletMeta),
      ("approvedWalletPubKeyB64", orNull f.approvedWalletPubKeyB64), ("sessionStartTime", f.sessionStartTime)]

/-- The counters and the approved scope. -/
def restoreScope (d : Json) (f : Fields) : Fields :=
  { f with
    sendSeq := orElseNull (d.field "sendSeq") (.num 0 0)
    recvSeq := orElseNull (d.field "recvSeq") (.num (-1) 0)
    reqCounter := orElseFalse (d.field "reqCounter") (.num 0 0)
    paired := orElseFalse (d.field "paired") (.bool false)
    approvedScopeRecorded := d.flag "approvedScopeRecorded" = some true
    approvedCapabilities := orUndefined (d.field "approvedCapabilities")
    approvedWalletMeta := orUndefined (d.field "approvedWalletMeta")
    approvedWalletPubKeyB64 :=
      orUndefined (d.field "approvedWalletPubKeyB64") <|> orUndefined (d.field "remotePubKeyB64")
    walletCapabilities := orUndefined (d.field "approvedCapabilities")
    walletMeta := orUndefined (d.field "approvedWalletMeta")
    dappMeta := orElseNull (d.field "dappMeta")
      (match d.field "dappName" with
      | some name =>
        if name.truthy then .obj [("name", name), ("description", .str ""), ("url", .str ""), ("icon", .str "")]
        else f.dappMeta
      | none => f.dappMeta)
    sessionStartTime := orNull (d.field "sessionStartTime") }

/-- `restore` of an object that was read. `throws` says whether a listener of the phase
throws; `restore` answers `false` then, as for everything else that throws. -/
def restore (d : Json) (throws : Bool) (f : Fields) : Bool × Fields :=
  match f.toIdentity.restore d with
  | (false, i) => (false, { f with toIdentity := i })
  | (true, i) =>
    let f := restoreScope d { f with toIdentity := i }
    if f.phase = .connected then (true, f) else (!throws, { f with phase := .connected })

/-- `restore` of a text. -/
def restoreText (C : Crypto) (signed : String) (throws : Bool) (f : Fields) : Bool × Fields :=
  match readSigned C signed with
  | none => (false, f)
  | some d => f.restore d throws

end Fields

end DApp

/-! ### The wallet session -/

namespace Wallet

/-- The capabilities and the meta are those of the options; `restore` does not assign them. -/
structure Fields extends Identity where
  phase : Phase
  capabilities : Option Json
  walletMeta : Option Json
  sendSeq : Json
  recvSeq : Json
  relayUrl : Option Json
  dappName : Option Json
  sessionStartTime : Json

namespace Fields
variable (C : Crypto)

def serialize (f : Fields) : Option String :=
  f.toIdentity.serialize C
    ([("sendSeq", f.sendSeq), ("recvSeq", f.recvSeq)] ++ (f.relayUrl.toList.map fun v => ("relayUrl", v)) ++
      (f.capabilities.toList.map fun v => ("capabilities", v)) ++
      [("meta", orNull f.walletMeta), ("dappName", orNull f.dappName), ("sessionStartTime", f.sessionStartTime)])

/-- `!(key in d) || canonicalJson(d[key] ?? null) === canonicalJson(own ?? null)`, and
nothing is thrown on the way. -/
def sameMember (d : Json) (key : String) (own : Option Json) : Bool :=
  match d.field key with
  | none => true
  | some value =>
    match canonicalJson C (some value), canonicalJson C (some (orNull own)) with
    | .ok theirs, .ok ours => theirs = ours
    | _, _ => false

/-- A snapshot taken under other capabilities or another identity is refused. -/
def sameOffer (f : Fields) (d : Json) : Bool :=
  sameMember C d "capabilities" f.capabilities && sameMember C d "meta" f.walletMeta

def restoreCounters (d : Json) (f : Fields) : Fields :=
  { f with
    sendSeq := orElseNull (d.field "sendSeq") (.num 0 0)
    recvSeq := orElseNull (d.field "recvSeq") (.num (-1) 0)
    relayUrl := d.field "relayUrl" }

def restore (d : Json) (throws : Bool) (f : Fields) : Bool × Fields :=
  match f.toIdentity.restore d with
  | (false, i) => (false, { f with toIdentity := i })
  | (true, i) =>
    let f := restoreCounters d { f with toIdentity := i }
    if !f.sameOffer C d then (false, f)
    else
      let f := { f with
        dappName := orUndefined (d.field "dappName")
        sessionStartTime := orNull (d.field "sessionStartTime") }
      if f.phase = .connected then (true, f) else (!throws, { f with phase := .connected })

/-- `restore` of a text. -/
def restoreText (signed : String) (throws : Bool) (f : Fields) : Bool × Fields :=
  match readSigned C signed with
  | none => (false, f)
  | some d => f.restore C d throws

end Fields

end Wallet

/-! ### What is accepted -/

/-- The snapshot names a channel, its keys can be read, and both traffic keys are there. -/
structure Identity.Complete (d : Json) : Prop where
  channelId : d.isSet "channelId" = true
  privKey : d.isSet "privKey" = true
  privKeyRead : (d.hexField "privKey").isSome
  remotePubKey : (Identity.readRemote d).isSome
  sendKey : ∃ key, Identity.readKey d "sendKey" = some (some key)
  recvKey : ∃ key, Identity.readKey d "recvKey" = some (some key)

theorem Identity.restore_complete (d : Json) (i : Identity) : (i.restore d).1 = true ↔ Identity.Complete d := by
  unfold Identity.restore
  dsimp only
  split
  · rename_i lacking
    rw [Bool.or_eq_true, Bool.not_eq_true', Bool.not_eq_true'] at lacking
    refine ⟨nofun, fun complete => ?_⟩
    rcases lacking with none | none
    · exact absurd (none.symm.trans complete.channelId) (by decide)
    · exact absurd (none.symm.trans complete.privKey) (by decide)
  · rename_i named
    rw [Bool.or_eq_true, Bool.not_eq_true', Bool.not_eq_true', not_or, Bool.not_eq_false, Bool.not_eq_false] at named
    cases priv : d.hexField "privKey" with
    | none => exact ⟨nofun, fun complete => absurd complete.privKeyRead (by simp [priv])⟩
    | some privKey =>
      dsimp only
      cases remote : Identity.readRemote d with
      | none => exact ⟨nofun, fun complete => absurd complete.remotePubKey (by simp [remote])⟩
      | some remotePubKey =>
        dsimp only
        cases send : Identity.readKey d "sendKey" with
        | none => exact ⟨nofun, fun complete => absurd complete.sendKey (by simp [send])⟩
        | some sendKey =>
          dsimp only
          cases recv : Identity.readKey d "recvKey" with
          | none => exact ⟨nofun, fun complete => absurd complete.recvKey (by simp [recv])⟩
          | some recvKey =>
            dsimp only
            rw [Bool.and_eq_true, Option.isSome_iff_exists, Option.isSome_iff_exists]
            constructor
            · rintro ⟨⟨sent, rfl⟩, ⟨received, rfl⟩⟩
              exact ⟨named.1, named.2, by simp [priv], by simp [remote], ⟨sent, send⟩, ⟨received, recv⟩⟩
            · intro complete
              obtain ⟨sent, sendSome⟩ := complete.sendKey
              obtain ⟨received, recvSome⟩ := complete.recvKey
              rw [send] at sendSome
              rw [recv] at recvSome
              exact ⟨⟨sent, Option.some.inj sendSome⟩, ⟨received, Option.some.inj recvSome⟩⟩

/-- A text that holds what a snapshot needs: it is signed under the key that it carries
itself, or not signed at all. -/
def WellFormed (C : Crypto) (signed : String) (fits : Json → Prop) : Prop :=
  ∃ d, readSigned C signed = some d ∧ Identity.Complete d ∧ fits d

namespace DApp.Fields

theorem restore_true (d : Json) (throws : Bool) (f : Fields) :
    (f.restore d throws).1 = true ↔ Identity.Complete d ∧ (f.phase = .connected ∨ throws = false) := by
  have complete := Identity.restore_complete d f.toIdentity
  unfold restore
  generalize f.toIdentity.restore d = result at complete ⊢
  obtain ⟨ok, i⟩ := result
  cases ok with
  | false => exact ⟨nofun, fun all => complete.mpr all.1⟩
  | true =>
    have whole := complete.mp rfl
    have phase : (restoreScope d { f with toIdentity := i }).phase = f.phase := rfl
    dsimp only
    rw [phase]
    by_cases connected : f.phase = .connected
    · rw [if_pos connected]
      exact ⟨fun _ => ⟨whole, Or.inl connected⟩, fun _ => rfl⟩
    · rw [if_neg connected]
      cases throws with
      | false => exact ⟨fun _ => ⟨whole, Or.inr rfl⟩, fun _ => rfl⟩
      | true =>
        refine ⟨nofun, ?_⟩
        rintro ⟨-, same | quiet⟩
        · exact absurd same connected
        · cases quiet

theorem restoreText_true (C : Crypto) (signed : String) (throws : Bool) (f : Fields) :
    (f.restoreText C signed throws).1 = true ↔
      WellFormed C signed fun _ => f.phase = .connected ∨ throws = false := by
  unfold restoreText WellFormed
  cases readSigned C signed with
  | none => exact ⟨nofun, fun ⟨_, read, _⟩ => by cases read⟩
  | some d =>
    dsimp only
    rw [restore_true]
    constructor
    · exact fun all => ⟨d, rfl, all⟩
    · rintro ⟨_, ⟨⟩, all⟩
      exact all

/-- One of the sessions wrote the text while it held its traffic keys, to send under this one. -/
def Wrote (C : Crypto) (sessions : List Fields) (sendKey : Bytes) (signed : String) : Prop :=
  ∃ f ∈ sessions, f.sendKey = some sendKey ∧ f.recvKey ≠ none ∧ f.serialize C = some signed

/-- One of the sessions wrote the text while it held its traffic keys. -/
def Produced (C : Crypto) (sessions : List Fields) (signed : String) : Prop :=
  ∃ f ∈ sessions, f.sendKey ≠ none ∧ f.recvKey ≠ none ∧ f.serialize C = some signed

end DApp.Fields

namespace Wallet.Fields

theorem restore_true (C : Crypto) (d : Json) (throws : Bool) (f : Fields) :
    (f.restore C d throws).1 = true ↔
      Identity.Complete d ∧ f.sameOffer C d = true ∧ (f.phase = .connected ∨ throws = false) := by
  have complete := Identity.restore_complete d f.toIdentity
  unfold restore
  generalize f.toIdentity.restore d = result at complete ⊢
  obtain ⟨ok, i⟩ := result
  cases ok with
  | false => exact ⟨nofun, fun all => complete.mpr all.1⟩
  | true =>
    have whole := complete.mp rfl
    have offer : (restoreCounters d { f with toIdentity := i }).sameOffer C d = f.sameOffer C d := rfl
    have phase : (restoreCounters d { f with toIdentity := i }).phase = f.phase := rfl
    dsimp only
    rw [offer, phase]
    cases offered : f.sameOffer C d with
    | false => exact ⟨nofun, fun all => absurd all.2.1 (by simp)⟩
    | true =>
      rw [if_neg (by simp)]
      by_cases connected : f.phase = .connected
      · rw [if_pos connected]
        exact ⟨fun _ => ⟨whole, rfl, Or.inl connected⟩, fun _ => rfl⟩
      · rw [if_neg connected]
        cases throws with
        | false => exact ⟨fun _ => ⟨whole, rfl, Or.inr rfl⟩, fun _ => rfl⟩
        | true =>
          refine ⟨nofun, ?_⟩
          rintro ⟨-, -, same | quiet⟩
          · exact absurd same connected
          · cases quiet

theorem restoreText_true (C : Crypto) (signed : String) (throws : Bool) (f : Fields) :
    (f.restoreText C signed throws).1 = true ↔
      WellFormed C signed fun d => f.sameOffer C d = true ∧ (f.phase = .connected ∨ throws = false) := by
  unfold restoreText WellFormed
  cases readSigned C signed with
  | none => exact ⟨nofun, fun ⟨_, read, _⟩ => by cases read⟩
  | some d =>
    dsimp only
    rw [restore_true]
    constructor
    · exact fun all => ⟨d, rfl, all⟩
    · rintro ⟨_, ⟨⟩, all⟩
      exact all

/-- One of the sessions wrote the text while it held its traffic keys, to send under this one. -/
def Wrote (C : Crypto) (sessions : List Fields) (sendKey : Bytes) (signed : String) : Prop :=
  ∃ f ∈ sessions, f.sendKey = some sendKey ∧ f.recvKey ≠ none ∧ f.serialize C = some signed

/-- One of the sessions wrote the text while it held its traffic keys. -/
def Produced (C : Crypto) (sessions : List Fields) (signed : String) : Prop :=
  ∃ f ∈ sessions, f.sendKey ≠ none ∧ f.recvKey ≠ none ∧ f.serialize C = some signed

end Wallet.Fields

/-! ### Tampering -/

section
variable (C : Crypto) (secret : Bytes → Prop) (wrote : Bytes → String → Prop) (signed : String) (fits : Json → Prop)

/-- Only the sessions have the `secret` send keys: the right signature of a text under one of them
was computed by a session, which wrote what is signed. -/
def Unforgeable : Prop :=
  ∀ mac body sendKey, splitSigned signed = some (mac, body) → secret sendKey →
    String.ofList mac = snapshotMac C sendKey (String.ofList body) →
    ∃ own, deriveSnapshotHmacKey C own = deriveSnapshotHmacKey C sendKey ∧
      wrote own (signSnapshot C own (String.ofList body))

/-- A whole snapshot without a signature. -/
def Stripped : Prop :=
  splitSigned signed = none ∧ ∃ d, Json.parse signed.toList = some d ∧ Identity.Complete d ∧ fits d

/-- A whole snapshot that no session wrote, with the right signature under the key that it carries,
which somebody else has. -/
def Recomputed : Prop :=
  (¬ ∃ sendKey, wrote sendKey signed) ∧
    ∃ mac body d sendKey, splitSigned signed = some (mac, body) ∧ Json.parse body = some d ∧
      d.hexField "sendKey" = some sendKey ∧ ¬ secret sendKey ∧ verifySnapshot C sendKey mac body = true ∧
      Identity.Complete d ∧ fits d

end

section
variable {C : Crypto} {secret : Bytes → Prop} {wrote : Bytes → String → Prop} {signed : String} {fits : Json → Prop}

theorem Identity.Complete.key {d : Json} (complete : Identity.Complete d) :
    d.isSet "sendKey" = true ∧ ∃ sendKey, d.hexField "sendKey" = some sendKey := by
  obtain ⟨sendKey, read⟩ := complete.sendKey
  unfold Identity.readKey at read
  split_ifs at read with set
  · obtain ⟨key, hex, -⟩ := Option.map_eq_some_iff.mp read
    exact ⟨set, key, hex⟩
  · cases read

/-- With a signature the text is read if that is the right one under the key that it carries. -/
theorem readSigned_split {mac body : List Char} {d : Json} (split : splitSigned signed = some (mac, body))
    (complete : Identity.Complete d) :
    readSigned C signed = some d ↔
      Json.parse body = some d ∧ ∃ sendKey, d.hexField "sendKey" = some sendKey ∧ verifySnapshot C sendKey mac body = true := by
  unfold readSigned
  rw [split]
  dsimp only
  cases parsed : Json.parse body with
  | none => simp
  | some other =>
    constructor
    · intro read
      have same : other = d := by
        by_cases set : other.isSet "sendKey" = true
        · cases hex : other.hexField "sendKey" with
          | none => simp [set, hex] at read
          | some sendKey =>
            by_cases verified : verifySnapshot C sendKey mac body = true
            · simpa [set, hex, verified] using read
            · simp [set, hex, verified] at read
        · simp [set] at read
      subst same
      obtain ⟨set, sendKey, hex⟩ := complete.key
      refine ⟨rfl, sendKey, hex, ?_⟩
      by_contra unverified
      simp [set, hex, unverified] at read
    · rintro ⟨same, sendKey, hex, verified⟩
      cases same
      simp [complete.key.1, hex, verified]

/-- Under unforgeable signatures the texts that are accepted though no session wrote them are those
without a signature and those whose signature somebody else computed with the key in the text. -/
theorem detected_iff (signs : ∀ sendKey text, wrote sendKey text → splitSigned text ≠ none)
    (unforgeable : Unforgeable C secret wrote signed) :
    (WellFormed C signed fits → ∃ sendKey, wrote sendKey signed) ↔
      ¬ (Stripped signed fits ∨ Recomputed C secret wrote signed fits) := by
  constructor
  · rintro detected (⟨unsigned, d, parsed, complete, fit⟩ | ⟨unwritten, mac, body, d, sendKey, split, parsed, hex, -, verified, complete, fit⟩)
    · have read : readSigned C signed = some d := by
        unfold readSigned
        rw [unsigned]
        exact parsed
      obtain ⟨sendKey, written⟩ := detected ⟨d, read, complete, fit⟩
      exact signs sendKey signed written unsigned
    · exact unwritten (detected ⟨d, (readSigned_split split complete).mpr ⟨parsed, sendKey, hex, verified⟩, complete, fit⟩)
  · rintro intact ⟨d, read, complete, fit⟩
    cases split : splitSigned signed with
    | none =>
      have parsed : Json.parse signed.toList = some d := by
        unfold readSigned at read
        rw [split] at read
        exact read
      exact absurd (Or.inl ⟨split, d, parsed, complete, fit⟩) intact
    | some parts =>
      obtain ⟨mac, body⟩ := parts
      obtain ⟨parsed, sendKey, hex, verified⟩ := (readSigned_split split complete).mp read
      by_contra unwritten
      have known : secret sendKey := by
        by_contra known
        exact intact (Or.inr ⟨unwritten, mac, body, d, sendKey, split, parsed, hex, known, verified, complete, fit⟩)
      have right : String.ofList mac = snapshotMac C sendKey (String.ofList body) := by
        unfold verifySnapshot at verified
        rw [Bool.and_eq_true] at verified
        exact eq_of_beq verified.2
      obtain ⟨own, derived, written⟩ := unforgeable mac body sendKey split known right
      have same : signed = signSnapshot C own (String.ofList body) := by
        apply String.toList_injective
        rw [splitSigned_spelled split]
        have mac' : snapshotMac C own (String.ofList body) = String.ofList mac := by
          rw [right]
          unfold snapshotMac
          rw [derived]
        unfold signSnapshot
        rw [mac']
        simp
      rw [same] at unwritten
      exact unwritten ⟨own, written⟩

end

/-- What a session with its send key writes is split where its signature ends. -/
theorem Identity.serialize_split {C : Crypto} (macs : ∀ key bytes, (C.hmac key bytes).length = 32) {i : Identity}
    {more : List (String × Json)} {text : String} (keyed : i.sendKey ≠ none) (wrote : i.serialize C more = some text) :
    splitSigned text ≠ none := by
  obtain ⟨privKey, -, rfl⟩ := Option.map_eq_some_iff.mp wrote
  dsimp only
  cases send : i.sendKey with
  | none => exact absurd send keyed
  | some sendKey =>
    have object : ∃ rest, textDecode (Json.obj (i.members privKey ++ more)).stringify = '\x7b' :: rest := ⟨_, rfl⟩
    obtain ⟨rest, spelled⟩ := object
    rw [spelled]
    have spelling : (signSnapshot C sendKey (String.ofList ('\x7b' :: rest))).toList =
        (bytesToHex (C.hmac (deriveSnapshotHmacKey C sendKey) (utf8ToBytes (String.ofList ('\x7b' :: rest))))).toList ++
          '.' :: '\x7b' :: rest := by
      unfold signSnapshot snapshotMac
      simp
    have split := splitSigned_append (macs _ _) spelling
    dsimp only
    rw [split]
    simp

theorem DApp.Fields.produced_iff {C : Crypto} {sessions : List DApp.Fields} {signed : String} :
    DApp.Fields.Produced C sessions signed ↔ ∃ sendKey, DApp.Fields.Wrote C sessions sendKey signed := by
  constructor
  · rintro ⟨f, mem, sends, receives, wrote⟩
    obtain ⟨sendKey, send⟩ := Option.ne_none_iff_exists'.mp sends
    exact ⟨sendKey, f, mem, send, receives, wrote⟩
  · rintro ⟨sendKey, f, mem, send, receives, wrote⟩
    exact ⟨f, mem, by simp [send], receives, wrote⟩

theorem Wallet.Fields.produced_iff {C : Crypto} {sessions : List Wallet.Fields} {signed : String} :
    Wallet.Fields.Produced C sessions signed ↔ ∃ sendKey, Wallet.Fields.Wrote C sessions sendKey signed := by
  constructor
  · rintro ⟨f, mem, sends, receives, wrote⟩
    obtain ⟨sendKey, send⟩ := Option.ne_none_iff_exists'.mp sends
    exact ⟨sendKey, f, mem, send, receives, wrote⟩
  · rintro ⟨sendKey, f, mem, send, receives, wrote⟩
    exact ⟨f, mem, by simp [send], receives, wrote⟩

/-- Of the texts that no session wrote, both sessions accept exactly the whole snapshots without a
signature and those signed anew under a key that somebody else has; everything else is detected,
whatever was changed in a text that a session signed under a key of its own. -/
theorem tampering_detected_iff (C : Crypto) (macs : ∀ key bytes, (C.hmac key bytes).length = 32)
    (secret : Bytes → Prop) :
    (∀ (sessions : List DApp.Fields) (f : DApp.Fields) (signed : String) (throws : Bool),
      Unforgeable C secret (DApp.Fields.Wrote C sessions) signed →
      (((f.restoreText C signed throws).1 = true → DApp.Fields.Produced C sessions signed) ↔
        ¬ (Stripped signed (fun _ => f.phase = .connected ∨ throws = false) ∨
          Recomputed C secret (DApp.Fields.Wrote C sessions) signed fun _ => f.phase = .connected ∨ throws = false))) ∧
    ∀ (sessions : List Wallet.Fields) (f : Wallet.Fields) (signed : String) (throws : Bool),
      Unforgeable C secret (Wallet.Fields.Wrote C sessions) signed →
      (((f.restoreText C signed throws).1 = true → Wallet.Fields.Produced C sessions signed) ↔
        ¬ (Stripped signed (fun d => f.sameOffer C d = true ∧ (f.phase = .connected ∨ throws = false)) ∨
          Recomputed C secret (Wallet.Fields.Wrote C sessions) signed
            fun d => f.sameOffer C d = true ∧ (f.phase = .connected ∨ throws = false))) := by
  constructor
  · intro sessions f signed throws unforgeable
    rw [DApp.Fields.restoreText_true, DApp.Fields.produced_iff]
    refine detected_iff ?_ unforgeable
    rintro sendKey text ⟨g, -, send, -, wrote⟩
    exact Identity.serialize_split macs (by simp [send]) wrote
  · intro sessions f signed throws unforgeable
    rw [Wallet.Fields.restoreText_true, Wallet.Fields.produced_iff]
    refine detected_iff ?_ unforgeable
    rintro sendKey text ⟨g, -, send, -, wrote⟩
    exact Identity.serialize_split macs (by simp [send]) wrote

namespace Sample

/-- A session that has its traffic keys and has sent two frames. -/
def keyed : DApp.Fields :=
  { channelId := some (.str "ab")
    privKey := some dappKey
    pubKeyB64 := some (.str (b64urlEncode dappKey))
    remotePubKey := some walletKey
    sendKey := some dappToWalletKey
    recvKey := some walletToDappKey
    phase := .connected
    sendSeq := .num 2 0
    recvSeq := .num (-1) 0
    reqCounter := .num 2 0
    paired := .bool true
    approvedScopeRecorded := true
    approvedCapabilities := none
    approvedWalletMeta := none
    approvedWalletPubKeyB64 := some (.str (b64urlEncode walletKey))
    walletCapabilities := none
    walletMeta := none
    dappMeta := .null
    sessionStartTime := .num 5 0 }

/-- A wallet that has its traffic keys and has sent two frames. -/
def holding : Wallet.Fields :=
  { channelId := some (.str "ab")
    privKey := some [1]
    pubKeyB64 := some (.str "AQ")
    remotePubKey := some [2]
    sendKey := some [3]
    recvKey := some [4]
    phase := .connected
    capabilities := none
    walletMeta := none
    sendSeq := .num 2 0
    recvSeq := .num (-1) 0
    relayUrl := none
    dappName := none
    sessionStartTime := .num 5 0 }

/-- 32 bytes that depend on every byte of the key and of the message. -/
def digest (key bytes : Bytes) : Bytes :=
  let number := (key ++ bytes).foldl (fun acc b => acc * 257 + b.toNat + 1) 0
  (List.range 32).map fun i => UInt8.ofNat (number / 256 ^ i)

def hashing : Crypto := { Crypto.transparent with hmac := digest }

/-- The object that `holding` writes, with this counter. -/
def held (sendSeq : Int) : List Char :=
  textDecode (Json.obj (holding.members [1] ++ [("sendSeq", .num sendSeq 0), ("recvSeq", .num (-1) 0), ("meta", .null),
    ("dappName", .null), ("sessionStartTime", .num 5 0)])).stringify

/-- The signature of `held` under the key that it carries. -/
def tag (sendSeq : Int) : Bytes :=
  digest (deriveSnapshotHmacKey hashing [3]) (utf8ToBytes (String.ofList (held sendSeq)))

/-- An object with one counter behind the signature of the object with another. -/
def behind (signedSeq sendSeq : Int) : String :=
  String.ofList ((bytesToHex (tag signedSeq)).toList ++ '.' :: held sendSeq)

theorem length_digest (key bytes : Bytes) : (digest key bytes).length = 32 := by
  unfold digest
  rw [List.length_map, List.length_range]

theorem split_behind (signedSeq sendSeq : Int) :
    splitSigned (behind signedSeq sendSeq) = some ((bytesToHex (tag signedSeq)).toList, held sendSeq) :=
  splitSigned_append (length_digest _ _) (by rw [behind, String.toList_ofList]; rfl)

theorem serialize_holding : holding.serialize hashing = some (behind 2 2) := by
  have spelled : signSnapshot hashing [3] (String.ofList (held 2)) = behind 2 2 := by
    apply String.toList_injective
    rw [behind, String.toList_ofList]
    unfold signSnapshot snapshotMac
    simp [tag, hashing]
  rw [← spelled]
  rfl

/-- Keys of somebody's choice with the counter set back, and no signature. -/
def rolledBack : String :=
  "\x7b\"channelId\":\"ab\",\"privKey\":\"01\",\"sendKey\":\"03\",\"recvKey\":\"04\",\"sendSeq\":0\x7d"

theorem rolledBack_accepted : (keyed.restoreText .transparent rolledBack false).1 = true := by decide +kernel

theorem rolledBack_forged : ¬ DApp.Fields.Produced .transparent [keyed] rolledBack := by
  rintro ⟨f, -, sends, -, wrote⟩
  exact Identity.serialize_head sends wrote (by decide +kernel)

end Sample

/-- Of a snapshot that a wallet wrote under a key of its own, a counter that is set back is
detected, and a missing signature is not; where somebody else has the key, neither is a counter
that is set back and signed anew. -/
theorem tampering_detected_sample :
    ((Sample.holding.restoreText Sample.hashing (Sample.behind 2 0) false).1 = true →
      Wallet.Fields.Produced Sample.hashing [Sample.holding] (Sample.behind 2 0)) ∧
    ¬ ((Sample.holding.restoreText Sample.hashing (String.ofList (Sample.held 2)) false).1 = true →
      Wallet.Fields.Produced Sample.hashing [Sample.holding] (String.ofList (Sample.held 2))) ∧
    ¬ ((Sample.holding.restoreText Sample.hashing (Sample.behind 0 0) false).1 = true →
      Wallet.Fields.Produced Sample.hashing [Sample.holding] (Sample.behind 0 0)) := by
  have detected (secret : Bytes → Prop) :=
    (tampering_detected_iff Sample.hashing Sample.length_digest secret).2 [Sample.holding] Sample.holding
  have differ : Sample.held 2 ≠ Sample.held 0 ∧ bytesToHex (Sample.tag 2) ≠ bytesToHex (Sample.tag 0) := by decide +kernel
  have unsigned : splitSigned (String.ofList (Sample.held 2)) = none := by
    unfold splitSigned
    rw [String.toList_ofList]
    decide +kernel
  -- Each of the two objects is a whole snapshot and carries the key.
  have whole (sendSeq : Int) (either : sendSeq = 2 ∨ sendSeq = 0) : ∃ d, Json.parse (Sample.held sendSeq) = some d ∧
      d.hexField "sendKey" = some [3] ∧ Identity.Complete d ∧
      Sample.holding.sameOffer Sample.hashing d = true ∧ (Sample.holding.phase = .connected ∨ false = false) := by
    have reads : ∀ sendSeq ∈ [(2 : Int), 0], (Json.parse (Sample.held sendSeq)).any fun d =>
        d.hexField "sendKey" == some [3] && (Sample.holding.restore Sample.hashing d false).1 := by
      decide +kernel
    obtain ⟨d, parsed, both⟩ := (Option.any_eq_true _ _).mp (reads sendSeq (by simpa using either))
    rw [Bool.and_eq_true] at both
    obtain ⟨hex, restored⟩ := both
    exact ⟨d, parsed, eq_of_beq hex, (Wallet.Fields.restore_true _ d false Sample.holding).mp restored⟩
  have only {text : String} {sendKey : Bytes} (wrote : Wallet.Fields.Wrote Sample.hashing [Sample.holding] sendKey text) :
      text = Sample.behind 2 2 := by
    obtain ⟨f, mem, -, -, written⟩ := wrote
    rw [List.mem_singleton.mp mem, Sample.serialize_holding] at written
    exact (Option.some.inj written).symm
  refine ⟨(detected (fun key => key = [3]) _ false ?_).mpr ?_, fun all => (detected (fun _ => False) _ false ?_).mp all ?_,
    fun all => (detected (fun _ => False) _ false ?_).mp all ?_⟩
  · intro mac body sendKey split known right
    rw [Sample.split_behind] at split
    obtain ⟨rfl, rfl⟩ := Prod.mk.inj (Option.some.inj split)
    subst known
    rw [String.ofList_toList] at right
    exact absurd right differ.2
  · rintro (⟨split, -⟩ | ⟨-, mac, body, d, sendKey, split, parsed, hex, unknown, -⟩)
    · rw [Sample.split_behind] at split
      exact absurd split (Option.some_ne_none _)
    · rw [Sample.split_behind] at split
      obtain ⟨rfl, rfl⟩ := Prod.mk.inj (Option.some.inj split)
      obtain ⟨d', parsed', hex', -⟩ := whole 0 (Or.inr rfl)
      obtain rfl : d' = d := Option.some.inj (parsed'.symm.trans parsed)
      exact unknown (Option.some.inj (hex.symm.trans hex'))
  · intro mac body sendKey split known
    exact known.elim
  · obtain ⟨d, parsed, -, fits⟩ := whole 2 (Or.inl rfl)
    refine Or.inl ⟨unsigned, d, ?_, fits⟩
    rw [String.toList_ofList]
    exact parsed
  · intro mac body sendKey split known
    exact known.elim
  · obtain ⟨d, parsed, hex, fits⟩ := whole 0 (Or.inr rfl)
    refine Or.inr ⟨?_, _, _, d, [3], Sample.split_behind 0 0, parsed, hex, id, ?_, fits⟩
    · rintro ⟨sendKey, wrote⟩
      have same := congrArg splitSigned (only wrote)
      rw [Sample.split_behind, Sample.split_behind] at same
      exact differ.1 (congrArg Prod.snd (Option.some.inj same)).symm
    · have plain : (bytesToHex (Sample.tag 0)).toList.contains '.' = false := by decide +kernel
      unfold verifySnapshot
      rw [plain, String.ofList_toList]
      exact beq_self_eq_true _

/-- A text of somebody's choice without a signature is accepted. -/
theorem unsigned_snapshot_accepted :
    ¬ ∀ (C : Crypto) (sessions : List DApp.Fields) (f : DApp.Fields) (signed : String) (throws : Bool),
      (f.restoreText C signed throws).1 = true → DApp.Fields.Produced C sessions signed := by
  intro all
  exact Sample.rolledBack_forged (all .transparent [Sample.keyed] Sample.keyed Sample.rolledBack false
    Sample.rolledBack_accepted)

end WalletPair.Sdk
