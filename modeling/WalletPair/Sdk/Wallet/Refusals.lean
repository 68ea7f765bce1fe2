import WalletPair.Sdk.Wallet.Moves

/-! The requests a wallet refuses on its own. A refusal takes the path of the user's
rejection, which records the outcome under the request's id, whoever sent the frame. -/

namespace WalletPair.Sdk.Wallet
open WalletPair.Lib WalletPair.Lib.Program

/-- What the session remembers of requests. -/
structure RequestBooks where
  pending : OrderedMap PendingRequestRecord
  idempotency : OrderedMap CachedRequestResponse
  broadcast : OrderedMap CachedRequestResponse

def Session.requestBooks (s : Session) : RequestBooks :=
  ⟨s.pendingRequestRecords, s.idempotencyCache, s.broadcastResponseCache⟩

theorem pending_of_books {s t : Session} (same : t.requestBooks = s.requestBooks) :
    t.pendingRequestRecords = s.pendingRequestRecords := congrArg RequestBooks.pending same

/-! ### Why a request is refused -/

/-- The error of a refusal, and whether the cached answer under the id was moved to the
end of its cache before the request was refused. -/
structure Refusal where
  code : String
  message : String
  reused : Bool
  deriving DecidableEq

section
variable (C : Crypto)

/-- The session with the cached answer under `id` moved to the end. -/
def Session.touched (s : Session) (id : String) (cached : CachedRequestResponse) : Session :=
  { s with
    idempotencyCache := (s.idempotencyCache.delete id).set id cached
    trace := s.trace ++ [.reused id] }

/-- The frame of an answer can be sealed under this number and fits on the wire. -/
def Session.canSend (s : Session) (id : String) (ok : Bool) (data : Option Json) (seq : Nat) : Bool :=
  match s.sendKey with
  | none => false
  | some sendKey =>
    match sealPayload C sendKey s.channelId seq (responsePayload ok data) ⟨.res, s.pubKeyB64, id⟩ with
    | .error _ => false
    | .ok (envelope, _) =>
      (ProtocolMessage.mk 1 s.channelId s.inputs.now s.pubKeyB64 (.res (some id) (some envelope))).wireBytes ≤
        maxMessageBytes

theorem sendRaw_fits {s : Session} {body : Body} (frame : Option Sealed)
    (fits : (ProtocolMessage.mk 1 s.channelId s.inputs.now s.pubKeyB64 body).wireBytes ≤ maxMessageBytes) :
    sendRaw body frame s = .ok () { s with
      trace := s.trace ++ [.sent ⟨1, s.channelId, s.inputs.now, s.pubKeyB64, body⟩ frame s.journal.disk] } := by
  unfold sendRaw sendMessage
  rw [get_bind_apply, get_bind_apply, if_neg (Nat.not_lt_of_le fits)]
  rfl

/-- Whether a call of the adapter has to be waited for. -/
def Session.savesLater (s : Session) : Bool := s.options.persistence.any Persistence.async

/-- With a key pair to save, the task waits or the session goes on at once. -/
theorem persistSnapshot_paired {s : Session} (paired : s.options.persistence ≠ none → s.privKey ≠ none) (task : Task) :
    ∃ journal ticket, persistSnapshot task s = .ok s.savesLater { s with journal := journal, ticket := ticket } := by
  unfold Session.savesLater
  rcases persistSnapshot_cases task s with ⟨configured, run⟩ | ⟨adapter, configured, missing, run⟩ |
    ⟨adapter, snapshot, configured, async, current, run⟩ | ⟨adapter, snapshot, configured, sync, current, run⟩
  · rw [run, configured]
    exact ⟨_, _, rfl⟩
  · have missing : s.privKey = none := by simpa [Session.serialize] using missing
    exact absurd missing (paired (by simp [configured]))
  · rw [run, configured, Option.any_some, async]
    exact ⟨_, _, rfl⟩
  · rw [run, configured, Option.any_some, sync]
    exact ⟨_, _, rfl⟩

/-- A number is reserved: the session waits for the save, or goes on at once. -/
theorem nextSendSeq_room {s : Session} (room : s.sendSeq < maxSendSeq)
    (paired : s.options.persistence ≠ none → s.privKey ≠ none) (task : Nat → Task) :
    ∃ journal ticket, nextSendSeq task s = .ok (if s.savesLater then .waits else .reserved s.sendSeq)
      { s with sendSeq := s.sendSeq + 1, journal := journal, ticket := ticket } := by
  obtain ⟨journal, ticket, saved⟩ := persistSnapshot_paired (s := { s with sendSeq := s.sendSeq + 1 }) paired
    (task s.sendSeq)
  refine ⟨journal, ticket, ?_⟩
  have reserves : nextSendSeq task s = (persistSnapshot (task s.sendSeq) >>= fun waits =>
      if waits then pure .waits else pure (.reserved s.sendSeq)) { s with sendSeq := s.sendSeq + 1 } := by
    unfold nextSendSeq
    rw [get_bind_apply, if_neg (Nat.not_le_of_lt room)]
    rfl
  have later : Session.savesLater { s with sendSeq := s.sendSeq + 1 } = s.savesLater := rfl
  rw [reserves, bind_of_ok saved, later]
  cases s.savesLater with
  | true => rfl
  | false => rfl

/-- A rejection the session makes on its own. `reserves` tells a new answer, which takes a
number first, from the continuation that sends one after its save. -/
structure Rejection where
  id : String
  data : Option Json
  seq : Nat
  reserves : Bool
  reused : Bool

def Session.refuse (s : Session) (id : String) (r : Refusal) : Rejection :=
  ⟨id, some (errorData r.code r.message), s.sendSeq, true, r.reused⟩

/-- No pending request is held under the id when the answer goes out, and no cached answer
changes its place. -/
structure Rejection.Harmless (s : Session) (r : Rejection) : Prop where
  waits : (r.reserves = true ∧ s.savesLater = true) ∨ s.pendingRequestRecords.get r.id = none
  place : r.reused = true → s.idempotencyCache.keys.getLast? = some r.id

end

/-! ### A relay that forges an unsealed request -/

namespace Sample

/-- The request "req-1" of the dApp. -/
def genuine : ProtocolMessage :=
  ⟨1, Sdk.Sample.channel, 0, b64urlEncode Sdk.Sample.dappKey, .req (some "req-1")
    (match sealPayload .transparent Sdk.Sample.dappToWalletKey Sdk.Sample.channel 0 (.obj [("_method", .str "m")])
        ⟨.req, b64urlEncode Sdk.Sample.dappKey, "req-1"⟩ with
      | .ok (envelope, _) => some envelope
      | .error _ => none)⟩

/-- A wallet without storage that is connected, and shows the request to its user. -/
def prompted : Session :=
  Run.run (step .transparent) (Session.new { Sample.options false with persistence := none })
    [({}, .prepareJoin Sdk.Sample.invitation Sdk.Sample.walletKey), ({}, .confirmJoin),
      ({ nonce := List.replicate 12 0 }, .connect 0 true),
      ({}, .message ⟨1, Sdk.Sample.channel, 0, "_adapter",
        .ready (some "connected") (some (b64urlEncode Sdk.Sample.dappKey))⟩),
      ({}, .message genuine)]

/-- The same id, without an envelope. -/
def forged : ProtocolMessage :=
  ⟨1, Sdk.Sample.channel, 0, b64urlEncode Sdk.Sample.dappKey, .req (some "req-1") none⟩

end Sample

namespace Sample

end Sample

end WalletPair.Sdk.Wallet
