import WalletPair.Sdk.DApp.Moves

/-! Responses that are not authentic. The handler takes the pending request out of the map
before it opens the response, so a forged response that names a pending request cancels
it; one that does not is dropped without a trace. -/

namespace WalletPair.Sdk

/-- Whether the envelope decodes and passes the authenticated decryption. -/
def authenticates (C : Crypto) (key : Bytes) (channelIdHex envelope : String) (header : AadHeader) : Bool :=
  match b64urlDecode envelope, buildAad channelIdHex header with
  | some bytes, .ok aad => (C.decrypt key (payloadNonce C key (bytes.take 4)) aad (bytes.drop 4)).isSome
  | _, _ => false

theorem unsealPayload_unauthentic {C : Crypto} {key : Bytes} {channelIdHex envelope : String} {header : AadHeader}
    (forged : authenticates C key channelIdHex envelope header = false) :
    ∃ e, unsealPayload C key channelIdHex envelope header = .error e := by
  unfold authenticates at forged
  unfold unsealPayload
  cases decoded : b64urlDecode envelope with
  | none => exact ⟨_, rfl⟩
  | some bytes =>
    cases built : buildAad channelIdHex header with
    | error e => exact ⟨e, rfl⟩
    | ok aad =>
      have refused : C.decrypt key (payloadNonce C key (bytes.take 4)) aad (bytes.drop 4) = none := by
        simpa [decoded, built] using forged
      refine ⟨"invalid tag", ?_⟩
      simp [orThrow, bind, Except.bind, refused]

namespace DApp
open WalletPair.Lib WalletPair.Lib.Program

/-- Whether the response is sealed and opens under the key of the session. -/
def Session.opensResponse (C : Crypto) (s : Session) (sender : String) (id envelope : Option String) : Bool :=
  match nonEmpty envelope, s.recvKey with
  | some envelope, some recvKey => authenticates C recvKey s.channelId envelope ⟨.res, sender, id.getD ""⟩
  | _, _ => false

/-- How the promises of the session's requests have ended. -/
def Session.outcomes (s : Session) : List (Nat × Outcome) :=
  s.trace.filterMap fun o => match o with
    | .settled promise outcome => some (promise, outcome)
    | _ => none

/-- The pending requests, their timers and promises, and the receive counter are as before. -/
structure Untouched (s t : Session) : Prop where
  entries : t.pendingRequests = s.pendingRequests
  timers : t.requestTimers = s.requestTimers
  promises : t.outcomes = s.outcomes
  counter : t.recvSeq = s.recvSeq

/-- The response is dropped before the pending requests are looked at, or names none of
them; a frame of another version finds nothing pending. -/
def Overlooked (s : Session) (msg : ProtocolMessage) (id : Option String) : Prop :=
  msg.sender = "_adapter" ∨
    if msg.v = 1 then s.fromRemote msg.sender = false ∨ ∀ key ∈ nonEmpty id, s.pendingRequests.get key = none
    else s.pendingRequests.size = 0

instance (s : Session) (msg : ProtocolMessage) (id : Option String) : Decidable (Overlooked s msg id) := by
  unfold Overlooked
  infer_instance

variable {C : Crypto} {s : Session} {sender : String} {id envelope : Option String}

/-- A response of a stranger, or to nothing that is pending, is dropped. -/
theorem handleResponse_dropped
    (dropped : s.fromRemote sender = false ∨ ∀ key ∈ nonEmpty id, s.pendingRequests.get key = none) :
    after (handleResponse C sender id envelope) s = s := by
  unfold handleResponse
  rw [after_get_bind]
  rcases dropped with stranger | absent
  · rw [if_pos (Or.inr (by simp [stranger]))]
    rfl
  · split_ifs
    · rfl
    · cases named : nonEmpty id with
      | none => rfl
      | some key =>
        dsimp only
        rw [absent key named]
        rfl

/-- A forged response to a pending request takes it out of the map. -/
theorem handleResponse_forged (connected : s.phase = .connected) (remote : s.fromRemote sender = true) {key : String}
    {pending : PendingRequest} (named : nonEmpty id = some key) (found : s.pendingRequests.get key = some pending)
    (forged : s.opensResponse C sender id envelope = false) :
    (after (handleResponse C sender id envelope) s).pendingRequests = s.pendingRequests.delete key := by
  have same : id = some key := nonEmpty_some named
  have settles (u : Session) (error : String) :
      (after (settle pending.promise (.failed error)) u).pendingRequests = u.pendingRequests := by
    unfold settle
    rw [after_modify]
    split <;> rfl
  unfold handleResponse forgetRequest
  rw [after_get_bind, if_neg (by simp [connected, remote]), named]
  dsimp only
  rw [found]
  dsimp only
  rw [after_modify_bind]
  cases sealedText : nonEmpty envelope with
  | none => exact settles _ _
  | some text =>
    cases keyed : s.recvKey with
    | none => exact settles _ _
    | some recvKey =>
      have refused : authenticates C recvKey s.channelId text ⟨.res, sender, key⟩ = false := by
        simpa [Session.opensResponse, sealedText, keyed, same] using forged
      obtain ⟨e, failed⟩ := unsealPayload_unauthentic refused
      dsimp only
      rw [after_tryCatch]
      unfold openResponse
      rw [get_bind_apply]
      dsimp only
      rw [runExcept_bind_of_error failed]
      exact settles _ _

/-! ### Frames of another version -/

instance : Std.Refl Untouched := ⟨fun _ => ⟨rfl, rfl, rfl, rfl⟩⟩

instance : IsTrans Session Untouched := ⟨fun _ _ _ first second =>
  ⟨second.entries.trans first.entries, second.timers.trans first.timers, second.promises.trans first.promises,
    second.counter.trans first.counter⟩⟩

theorem emit_untouched (event : Event) : Keeps Untouched (emit event) := by
  intro s
  rw [after_emit]
  unfold Session.emitting
  split
  · exact ⟨rfl, rfl, rfl, rfl⟩
  · exact ⟨rfl, rfl, by simp [Session.outcomes], rfl⟩

theorem sendRaw_untouched (body : Body) : Keeps Untouched (sendRaw body none) :=
  .bind .get fun _ => .ite (emit_untouched _) (.modify fun _ => ⟨rfl, rfl, by simp [Session.outcomes], rfl⟩)

theorem clearPersistence_untouched : Keeps Untouched clearPersistence := by
  refine .modify fun s => ?_
  split
  · exact ⟨rfl, rfl, rfl, rfl⟩
  · split_ifs <;> exact ⟨rfl, rfl, rfl, rfl⟩

/-- What closing does after the pending requests are rejected. -/
theorem closing_untouched (reason : String) : Keeps Untouched (do
    let s ← get
    if s.channelId ≠ "" then sendRaw (.close reason) none
    clearPersistence
    setPhase .closed : M Unit) := by
  have rest : Keeps Untouched (do clearPersistence; setPhase .closed : M Unit) :=
    .bind clearPersistence_untouched fun _ => .bind .get fun _ => .ite (.pure _)
      (.bind (.modify fun _ => ⟨rfl, rfl, rfl, rfl⟩) fun _ => emit_untouched _)
  exact .bind .get fun _ => .ite (.bind (sendRaw_untouched _) fun _ => rest) rest

theorem rejectAllPending_empties (error : String) :
    Triple (fun _ => True) (rejectAllPending error) (fun _ t => t.pendingRequests = .empty) (fun _ => False) := by
  have kept {f : Session → Session} : Triple (fun _ => True) (modify f : M PUnit) (fun _ _ => True) (fun _ => False) :=
    .modify fun _ _ => trivial
  exact .read fun s _ => .start (.bind (.forM _ _ fun req _ => .bind kept fun _ => kept) fun _ => .modify fun _ _ => rfl)
    trivial

theorem rejectAllPending_idle {error : String} (idle : s.pendingRequests = .empty) :
    rejectAllPending error s = .ok ⟨⟩ s := by
  unfold rejectAllPending
  rw [get_bind_apply, idle]
  change EStateM.Result.ok _ { s with pendingRequests := .empty } = _
  rw [← idle]

/-- Closing empties the map, and leaves the rest alone where it was empty. -/
theorem close_pending (s : Session) (reason : String) :
    (after (close reason) s).pendingRequests = .empty ∧
      (s.pendingRequests = .empty → Untouched s (after (close reason) s)) := by
  let v : Session := { s with
    intentionalClose := true, staleBelow := s.ticket, pendingAcceptTimer := none
    timers := (s.timers.clearSessionTtl).stopReconnect }
  have start : Untouched s v := ⟨rfl, rfl, rfl, rfl⟩
  have body : after (close reason) s = after (rejectAllPending "Session closed" >>= fun _ => (do
    let s ← get
    if s.channelId ≠ "" then sendRaw (.close reason) none
    clearPersistence
    setPhase .closed : M Unit)) v := rfl
  rw [body]
  constructor
  · obtain ⟨_, u, run, empty⟩ := (rejectAllPending_empties "Session closed").returns (s := v) trivial
    rw [Program.after_bind, run]
    exact (closing_untouched reason u).entries.trans empty
  · intro idle
    rw [Program.after_bind, rejectAllPending_idle (s := v) idle]
    exact IsTrans.trans _ _ _ start (closing_untouched reason v)

/-! ### Forged responses -/

/-- For every response that is unsealed or does not pass the decryption: the pending requests
and the receive counter stay as they are exactly when the response was overlooked, and then
the session goes on as if it had not come. -/
theorem forged_response_iff (C : Crypto) (s : Session) (inputs : Inputs) (msg : ProtocolMessage)
    (id envelope : Option String) (connected : s.phase = .connected) (body : msg.body = .res id envelope)
    (forged : s.opensResponse C msg.sender id envelope = false) :
    (Untouched s (step C s (inputs, .message msg)) ↔ Overlooked s msg id) ∧
      (Overlooked s msg id → msg.v = 1 → msg.sender ≠ "_adapter" →
        ∀ later, step C (step C s (inputs, .message msg)) later = step C s later) := by
  obtain ⟨v, ch, ts, sender, frame⟩ := msg
  subst body
  let u : Session := { s with inputs := inputs }
  have run : step C s (inputs, .message ⟨v, ch, ts, sender, .res id envelope⟩) =
      if sender = "_adapter" then after (emit (.error "Rejected message with spoofed _adapter from")) u
      else if v ≠ 1 then after (close "unsupported_version") u
      else after (handleResponse C sender id envelope) u := by
    change after (handleMessage C ⟨v, ch, ts, sender, .res id envelope⟩) u = _
    unfold handleMessage
    rw [after_ite, after_ite]
    simp only [Body.fromRelay, Bool.not_false, true_and]
  by_cases spoofed : sender = "_adapter"
  · rw [run, if_pos spoofed]
    have untouched := emit_untouched (.error "Rejected message with spoofed _adapter from") u
    refine ⟨iff_of_true ⟨untouched.entries, untouched.timers, untouched.promises, untouched.counter⟩ (Or.inl spoofed), ?_⟩
    exact fun _ _ honest => absurd spoofed honest
  rw [run, if_neg spoofed]
  by_cases version : v = 1
  · rw [if_neg (not_not.mpr version)]
    have meaning : Overlooked s ⟨v, ch, ts, sender, .res id envelope⟩ id ↔
        s.fromRemote sender = false ∨ ∀ key ∈ nonEmpty id, s.pendingRequests.get key = none := by
      simp [Overlooked, spoofed, version]
    rw [meaning]
    by_cases dropped : s.fromRemote sender = false ∨ ∀ key ∈ nonEmpty id, s.pendingRequests.get key = none
    · have same : after (handleResponse C sender id envelope) u = u := handleResponse_dropped (s := u) dropped
      rw [same]
      exact ⟨iff_of_true ⟨rfl, rfl, rfl, rfl⟩ dropped, fun _ _ _ later => rfl⟩
    · refine ⟨iff_of_false (fun untouched => ?_) dropped, fun overlooked => absurd overlooked dropped⟩
      push Not at dropped
      obtain ⟨remote, key, named, found⟩ := dropped
      obtain ⟨pending, found⟩ := Option.ne_none_iff_exists'.mp found
      have trusted : s.fromRemote sender = true := Bool.of_not_eq_false remote
      have taken := handleResponse_forged (C := C) (s := u) connected trusted named found forged
      have gone : s.pendingRequests.get key = none := by
        rw [← untouched.entries, taken]
        exact OrderedMap.get_delete_self _ _
      rw [found] at gone
      cases gone
  · rw [if_pos version]
    have meaning : Overlooked s ⟨v, ch, ts, sender, .res id envelope⟩ id ↔ s.pendingRequests = .empty := by
      simp [Overlooked, spoofed, version, OrderedMap.size_eq_zero]
    rw [meaning]
    refine ⟨⟨fun untouched => ?_, fun idle => ?_⟩, fun _ same => absurd same version⟩
    · rw [← untouched.entries]
      exact (close_pending u "unsupported_version").1
    · have untouched := (close_pending u "unsupported_version").2 idle
      exact ⟨untouched.entries, untouched.timers, untouched.promises, untouched.counter⟩

namespace Sample

/-- A session with one request on its way. -/
def asking : Session :=
  Run.run (step .transparent) (step .transparent (.new options) ({}, .createPairing Sdk.Sample.dappKey "ab" false))
    (pairing ++ (Sdk.Sample.calmly [.request "m" none, .flush 4, .settle 4 true] : List (Inputs × Label)))

/-- A response without a seal, from the wallet's name. -/
def unsealed (id : String) : ProtocolMessage :=
  ⟨1, "ab", 0, b64urlEncode Sdk.Sample.walletKey, .res (some id) none⟩

end Sample

theorem forged_response_iff_sample :
    Untouched Sample.asking (step .transparent Sample.asking ({}, .message (Sample.unsealed "req-2"))) := by
  have iff := forged_response_iff .transparent Sample.asking {} (Sample.unsealed "req-2") (some "req-2") none
    (by decide +kernel) rfl rfl
  exact iff.1.mpr (by decide +kernel)

/-- An unsealed response that names the pending request cancels it. -/
theorem forged_response_cancels :
    Sample.asking.phase = .connected ∧
    Sample.asking.opensResponse .transparent (Sample.unsealed "req-1").sender (some "req-1") none = false ∧
    (Sample.asking.pendingRequests.keys = ["req-1"] ∧
      (step .transparent Sample.asking ({}, .message (Sample.unsealed "req-1"))).pendingRequests.keys = []) := by
  decide +kernel

end DApp

end WalletPair.Sdk
