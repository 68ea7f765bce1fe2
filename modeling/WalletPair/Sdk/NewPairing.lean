import WalletPair.Sdk.DApp.Loop
import WalletPair.Sdk.Wallet.Loop

/-! A second pairing on the same object. `createPairing` and `prepareJoin` set some fields to
their first values and leave the others alone; a pairing starts clean exactly as far as the
fields left alone still have those values. -/

namespace WalletPair.Sdk
open WalletPair.Lib WalletPair.Lib.Program

/-! ### The dApp -/

namespace DApp

/-- What `createPairing` leaves alone has the values of a new session. A deferred pairing
changes the phase itself, and with it stops the heartbeat. -/
structure Session.LikeNew (s : Session) (deferTransport : Bool) : Prop where
  phase : if deferTransport then s.phase ≠ .waiting else s.phase = .idle
  url : s.url = s.options.url
  dappMeta : s.dappMeta = s.options.dappMeta
  walletCapabilities : s.walletCapabilities = none
  walletMeta : s.walletMeta = none
  reconnectTimer : s.timers.reconnect = none
  heartbeat : deferTransport = false → s.timers.heartbeat = none ∧ s.timers.liveness = none
  pendingAcceptTimer : s.pendingAcceptTimer = none
  orphanedAcceptTimers : s.orphanedAcceptTimers = []
  requestTimers : s.requestTimers = []
  reconnecting : s.reconnecting = false
  reconnectAttempt : s.reconnectAttempt = 0
  reconnectStartedAt : s.reconnectStartedAt = 0
  pendingRequests : s.pendingRequests = .empty
  muted : s.muted = false
  calls : s.journal.calls = []
  connects : s.connects = []

/-- The session as it differs from another one in what a new pairing overwrites. -/
def Session.shown (s : Session) (phase : Phase) (heartbeat liveness : Option Nat) (pairingUri sessionFingerprint : String) :
    Session :=
  { s with phase, timers := { s.timers with heartbeat, liveness }, pairingUri, sessionFingerprint }

section
variable {C : Crypto} {s : Session} {phase : Phase} {heartbeat liveness : Option Nat} {uri code : String}

theorem emit_shown (event : Event) : emit event (s.shown phase heartbeat liveness uri code) =
    match emit event s with
    | .ok _ t => .ok () (t.shown phase heartbeat liveness uri code)
    | .error e t => .error e (t.shown phase heartbeat liveness uri code) := by
  have hears : (s.shown phase heartbeat liveness uri code).hears = s.hears := rfl
  have state : (s.shown phase heartbeat liveness uri code).emitting event =
      (s.emitting event).shown phase heartbeat liveness uri code := by
    unfold Session.emitting
    have muted : (s.shown phase heartbeat liveness uri code).muted = s.muted := rfl
    rw [muted]
    split_ifs <;> rfl
  rw [emit_apply, emit_apply, hears, state]
  split_ifs <;> rfl

/-- The last step of a deferred pairing hides what differs. -/
theorem setPhase_shown (this : s.phase ≠ .waiting) (other : phase ≠ .waiting) (pairing : s.pairingUri = uri)
    (print : s.sessionFingerprint = code) :
    setPhase .waiting (s.shown phase heartbeat liveness uri code) = setPhase .waiting s := by
  have opens : (s.shown phase heartbeat liveness uri code).phase ≠ .waiting := other
  unfold setPhase
  rw [get_bind_apply, get_bind_apply, if_neg this, if_neg opens, modify_bind_apply, modify_bind_apply, ← pairing, ← print]
  rfl

theorem emitting_shows (event : Event) : (s.emitting event).phase = s.phase ∧
    (s.emitting event).pairingUri = s.pairingUri ∧ (s.emitting event).sessionFingerprint = s.sessionFingerprint := by
  unfold Session.emitting
  split_ifs <;> exact ⟨rfl, rfl, rfl⟩

/-- The events of a deferred pairing, and its phase. -/
theorem announced_shown (this : s.phase ≠ .waiting) (other : phase ≠ .waiting) (pairing : s.pairingUri = uri)
    (print : s.sessionFingerprint = code) (first second : Event) {t : Session}
    (returns : (emit first >>= fun _ => emit second >>= fun _ => setPhase .waiting)
      (s.shown phase heartbeat liveness uri code) = .ok () t) :
    (emit first >>= fun _ => emit second >>= fun _ => setPhase .waiting) s = .ok () t := by
  obtain ⟨_, u, run, rest⟩ := ok_of_bind returns
  obtain ⟨_, v, next, last⟩ := ok_of_bind rest
  rw [emit_shown, emit_apply] at run
  split_ifs at run with hears
  cases run
  rw [emit_shown, emit_apply] at next
  split_ifs at next with again
  cases next
  obtain ⟨phase₁, uri₁, code₁⟩ := emitting_shows (s := s) first
  obtain ⟨phase₂, uri₂, code₂⟩ := emitting_shows (s := s.emitting first) second
  rw [setPhase_shown (by rwa [phase₂, phase₁]) other (by rw [uri₂, uri₁, pairing]) (by rw [code₂, code₁, print])] at last
  have one : emit first s = .ok () (s.emitting first) := by rw [emit_apply, if_pos hears]
  have two : emit second (s.emitting first) = .ok () ((s.emitting first).emitting second) := by
    rw [emit_apply, if_pos again]
  rw [bind_of_ok one, bind_of_ok two]
  exact last

/-- What a new pairing overwrites makes no difference to it. -/
theorem announcePairing_shown {kp : X25519KeyPair} {channelId : String} {deferTransport : Bool}
    (hidden : deferTransport = true ∧ s.phase ≠ .waiting ∧ phase ≠ .waiting ∨
      deferTransport = false ∧ phase = s.phase ∧ heartbeat = s.timers.heartbeat ∧ liveness = s.timers.liveness) {t : Session}
    (returns : announcePairing C kp channelId deferTransport (s.shown phase heartbeat liveness uri code) = .ok () t) :
    announcePairing C kp channelId deferTransport s = .ok () t := by
  unfold announcePairing at returns ⊢
  rw [get_bind_apply] at returns ⊢
  have relay : (s.shown phase heartbeat liveness uri code).url = s.url := rfl
  rw [relay] at returns
  cases configured : nonEmpty s.url with
  | none =>
    rw [configured] at returns
    cases returns
  | some relayUrl =>
    rw [configured] at returns
    dsimp only at returns ⊢
    rw [modify_bind_apply] at returns ⊢
    obtain ⟨print, computed, returns⟩ := ok_of_runExcept_bind returns
    rw [runExcept_bind_of_ok computed]
    rcases hidden with ⟨rfl, this, other⟩ | ⟨rfl, rfl, rfl, rfl⟩
    · exact announced_shown (s := { s with pairingUri := _, sessionFingerprint := print }) this other rfl rfl _ _ returns
    · exact returns

end

/-- Both sessions have the same fields once the pairing has overwritten its own. -/
theorem resetPairing_likeNew {s : Session} {deferTransport : Bool} (clean : s.LikeNew deferTransport) (inputs : Inputs)
    (kp : X25519KeyPair) (channelId : String) :
    after (resetPairing kp channelId) { s with inputs := inputs } =
      (after (resetPairing kp channelId) { s.renewed with inputs := inputs }).shown s.phase s.timers.heartbeat
        s.timers.liveness s.pairingUri s.sessionFingerprint := by
  obtain ⟨phase, url, dappMeta, walletCapabilities, walletMeta, reconnectTimer, -, pendingAcceptTimer,
    orphanedAcceptTimers, requestTimers, reconnecting, reconnectAttempt, reconnectStartedAt, pendingRequests, muted, calls,
    connects⟩ := clean
  simp only [after_modify, resetPairing, Session.shown, Session.renewed, Session.new, Session.mk.injEq, true_and, and_true]
  have timers : s.timers.clearSessionTtl = ⟨none, s.timers.heartbeat, s.timers.liveness, none⟩ := by
    simp [Timers.clearSessionTtl, reconnectTimer]
  have journal : s.journal = s.journal.crash := by
    unfold Journal.crash
    rw [← calls]
  exact ⟨url, dappMeta, walletCapabilities, walletMeta, timers, pendingAcceptTimer, orphanedAcceptTimers,
    requestTimers, reconnecting, reconnectAttempt, reconnectStartedAt, pendingRequests, muted, journal, connects⟩

/-- A pairing that could be the first one is the same as the first one. -/
theorem createPairing_likeNew {C : Crypto} {s t : Session} {inputs : Inputs} {privateKey : Bytes} {channelId : String}
    {deferTransport : Bool} (clean : s.LikeNew deferTransport)
    (returns : createPairing C privateKey channelId deferTransport { s with inputs := inputs } = .ok () t) :
    createPairing C privateKey channelId deferTransport { s.renewed with inputs := inputs } = .ok () t := by
  let kp := generateX25519KeyPair C privateKey
  have own : announcePairing C kp channelId deferTransport
      (after (resetPairing kp channelId) { s with inputs := inputs }) = .ok () t := returns
  rw [resetPairing_likeNew clean] at own
  refine announcePairing_shown ?_ own
  cases deferTransport with
  | true => exact Or.inl ⟨rfl, nofun, clean.phase⟩
  | false =>
    obtain ⟨heartbeat, liveness⟩ := clean.heartbeat rfl
    exact Or.inr ⟨rfl, clean.phase, heartbeat, liveness⟩

end DApp

/-! ### The wallet -/

namespace Wallet

/-- What `prepareJoin` leaves alone has the values of a new session. -/
structure Session.LikeNew (s : Session) : Prop where
  url : s.url = ""
  phase : s.phase = .idle
  timers : s.timers = {}
  reconnecting : s.reconnecting = false
  reconnectAttempt : s.reconnectAttempt = 0
  reconnectStartedAt : s.reconnectStartedAt = 0
  sessionStartTime : s.sessionStartTime = none
  evtCounter : s.evtCounter = 0
  muted : s.muted = false
  calls : s.journal.calls = []
  connects : s.connects = []

/-- The session as it differs from another one in what a new join overwrites. -/
def Session.shown (s : Session) (sessionFingerprint : String) (sessionKey : Option Bytes) : Session :=
  { s with sessionFingerprint, sessionKey }

section
variable {C : Crypto} {s : Session} {code : String} {key : Option Bytes}

theorem emit_shown (event : Event) : emit event (s.shown code key) =
    match emit event s with
    | .ok _ t => .ok () (t.shown code key)
    | .error e t => .error e (t.shown code key) := by
  have hears : (s.shown code key).hears = s.hears := rfl
  have state : (s.shown code key).emitting event = (s.emitting event).shown code key := by
    unfold Session.emitting
    have muted : (s.shown code key).muted = s.muted := rfl
    rw [muted]
    split_ifs <;> rfl
  rw [emit_apply, emit_apply, hears, state]
  split_ifs <;> rfl

/-- What a new join overwrites makes no difference to it. -/
theorem establishKeys_shown {remote privateKey : Bytes} {t : Session}
    (returns : establishKeys C remote privateKey (s.shown code key) = .ok () t) :
    establishKeys C remote privateKey s = .ok () t := by
  unfold establishKeys at returns ⊢
  rw [get_bind_apply] at returns ⊢
  have channel : (s.shown code key).channelId = s.channelId := rfl
  have context : sessionContext (s.shown code key) = sessionContext s := rfl
  rw [channel, context] at returns
  obtain ⟨shared, agreed, returns⟩ := ok_of_runExcept_bind returns
  obtain ⟨rootKey, derived, returns⟩ := ok_of_runExcept_bind returns
  obtain ⟨keys, directed, returns⟩ := ok_of_runExcept_bind returns
  rw [modify_bind_apply] at returns
  obtain ⟨print, computed, returns⟩ := ok_of_runExcept_bind returns
  rw [modify_bind_apply] at returns
  obtain ⟨_, u, emitted, returns⟩ := ok_of_bind returns
  obtain ⟨joinKey, sealing, returns⟩ := ok_of_runExcept_bind returns
  let keyed : Session := { s with
    sendKey := some keys.walletToDappKey, recvKey := some keys.dappToWalletKey, sessionFingerprint := print }
  change emit (.sessionFingerprint print) (keyed.shown print key) = .ok _ u at emitted
  rw [emit_shown, emit_apply] at emitted
  split_ifs at emitted with hears
  cases emitted
  have shows : emit (.sessionFingerprint print) keyed = .ok () (keyed.emitting (.sessionFingerprint print)) := by
    rw [emit_apply, if_pos hears]
  have print' : (keyed.emitting (.sessionFingerprint print)).sessionFingerprint = print := by
    unfold Session.emitting
    split_ifs <;> rfl
  rw [runExcept_bind_of_ok agreed, runExcept_bind_of_ok derived, runExcept_bind_of_ok directed, modify_bind_apply,
    runExcept_bind_of_ok computed, modify_bind_apply]
  change (emit (.sessionFingerprint print) >>= _) keyed = _
  rw [bind_of_ok shows, runExcept_bind_of_ok sealing, ← returns]
  simp [Session.shown, print']

end

/-- A join that could be the first one is the same as the first one. -/
theorem prepareJoin_likeNew {C : Crypto} {s t : Session} {inputs : Inputs} {parsed : PairingParams} {privateKey : Bytes}
    (clean : s.LikeNew) (returns : prepareJoin C parsed privateKey { s with inputs := inputs } = .ok () t) :
    prepareJoin C parsed privateKey { s.renewed with inputs := inputs } = .ok () t := by
  unfold prepareJoin at returns ⊢
  rw [modify_bind_apply] at returns ⊢
  obtain ⟨remote, decoded, returns⟩ := ok_of_runExcept_bind returns
  rw [runExcept_bind_of_ok decoded]
  let start (u : Session) : Session :=
    after (resetJoin C parsed remote privateKey)
      { u with intentionalClose := false, staleBelow := u.ticket, channelId := parsed.ch }
  have shown : start { s with inputs := inputs } =
      (start { s.renewed with inputs := inputs }).shown s.sessionFingerprint s.sessionKey := by
    obtain ⟨url, phase, timers, reconnecting, reconnectAttempt, reconnectStartedAt, sessionStartTime, evtCounter, muted, calls,
      connects⟩ := clean
    have journal : s.journal = s.journal.crash := by
      unfold Journal.crash
      rw [← calls]
    simp only [start, after_modify, resetJoin, Session.shown, Session.renewed, Session.new, Session.mk.injEq, true_and,
      and_true]
    exact ⟨url, phase, timers, reconnecting, reconnectAttempt, reconnectStartedAt, sessionStartTime, evtCounter, muted,
      journal, connects⟩
  have own : establishKeys C remote privateKey (start { s with inputs := inputs }) = .ok () t := returns
  rw [shown] at own
  exact establishKeys_shown own

end Wallet

/-! ### Both sides -/

/-- A call that finds the fields it leaves alone as a new session has them is followed, for
all later inputs, by the same run as on a session that was just constructed. -/
theorem new_pairing_clean (C : Crypto) :
    (∀ (s t : DApp.Session) (inputs : Inputs) (privateKey : Bytes) (channelId : String) (deferTransport : Bool)
      (labels : List (Inputs × DApp.Label)), s.LikeNew deferTransport →
      DApp.createPairing C privateKey channelId deferTransport { s with inputs := inputs } = .ok () t →
      Run.run (DApp.step C) s ((inputs, .createPairing privateKey channelId deferTransport) :: labels) =
        Run.run (DApp.step C) s.renewed ((inputs, .createPairing privateKey channelId deferTransport) :: labels)) ∧
    (∀ (s t : Wallet.Session) (inputs : Inputs) (parsed : PairingParams) (privateKey : Bytes)
      (labels : List (Inputs × Wallet.Label)), s.LikeNew →
      Wallet.prepareJoin C parsed privateKey { s with inputs := inputs } = .ok () t →
      Run.run (Wallet.step C) s ((inputs, .prepareJoin parsed privateKey) :: labels) =
        Run.run (Wallet.step C) s.renewed ((inputs, .prepareJoin parsed privateKey) :: labels)) := by
  constructor
  · intro s t inputs privateKey channelId deferTransport labels clean returns
    have first : DApp.step C s (inputs, .createPairing privateKey channelId deferTransport) = t := after_of_ok returns
    have fresh : DApp.step C s.renewed (inputs, .createPairing privateKey channelId deferTransport) = t :=
      after_of_ok (DApp.createPairing_likeNew clean returns)
    rw [Run.run_cons, Run.run_cons, first, fresh]
  · intro s t inputs parsed privateKey labels clean returns
    have first : Wallet.step C s (inputs, .prepareJoin parsed privateKey) = t := after_of_ok returns
    have fresh : Wallet.step C s.renewed (inputs, .prepareJoin parsed privateKey) = t :=
      after_of_ok (Wallet.prepareJoin_likeNew clean returns)
    rw [Run.run_cons, Run.run_cons, first, fresh]

namespace Sample

/-- The wallet pairs, and the channel of its transport opens. -/
def walletJoins (now ticket : Nat) : List (Inputs × Wallet.Label) :=
  [({ now }, .prepareJoin pairing walletKey), ({ now }, .confirmJoin),
    ({ now, nonce := List.replicate 12 0 }, .connect ticket true), ({ now }, .message (ready dappKey))]

/-- A wallet that was connected once and closed. -/
def usedWallet : Wallet.Session :=
  Run.run (Wallet.step .transparent) (Wallet.Session.new (Wallet.Sample.options false)) (walletJoins 0 0 ++ calmly [.close "normal"])

/-- The dApp pairs with the sample wallet. -/
def dappPairs (ticket : Nat) : List (Inputs × DApp.Label) :=
  calmly [.createPairing dappKey "ab" false, .connect ticket true, .message join, .message (ready walletKey)]

/-- The transport drops, and the session is connected again. -/
def dappReconnects (ticket : Nat) : List (Inputs × DApp.Label) :=
  [({}, .transportClose), ({ now := 100000 }, .fire .reconnect), ({}, .connect ticket true),
    ({}, .message (ready walletKey))]

def syncDApp : DApp.Session := DApp.Session.new { DApp.Sample.options with persistence := some ⟨false, true⟩ }

/-- A dApp that was connected once, with a request that nobody answered. -/
def usedDApp : DApp.Session :=
  Run.run (DApp.step .transparent) syncDApp (dappPairs 0 ++ calmly [.request "m" none])

/-- Whether the request was sealed again. -/
def sealings (s : DApp.Session) : Nat := (s.trace.filter fun o => match o with | .sealing _ => true | _ => false).length

/-- The timer of the session's lifetime is looked at. -/
def atLast (now : Nat) : List (Inputs × Wallet.Label) := [({ now }, .fire .sessionTtl)]

/-- A dApp whose first connection failed. -/
def triedDApp : DApp.Session :=
  Run.run (DApp.step .transparent) syncDApp (calmly [.createPairing dappKey "ab" false, .connect 0 false])

theorem triedDApp_likeNew : triedDApp.LikeNew false where
  phase := by decide +kernel
  url := by decide +kernel
  dappMeta := by decide +kernel
  walletCapabilities := Option.isNone_iff_eq_none.mp (by decide +kernel)
  walletMeta := Option.isNone_iff_eq_none.mp (by decide +kernel)
  reconnectTimer := by decide +kernel
  heartbeat := by decide +kernel
  pendingAcceptTimer := by decide +kernel
  orphanedAcceptTimers := by decide +kernel
  requestTimers := by decide +kernel
  reconnecting := by decide +kernel
  reconnectAttempt := by decide +kernel
  reconnectStartedAt := by decide +kernel
  pendingRequests := OrderedMap.size_eq_zero.mp (by decide +kernel)
  muted := by decide +kernel
  calls := List.isEmpty_iff.mp (by decide +kernel)
  connects := by decide +kernel

/-- A wallet before its first pairing. -/
def unusedWallet : Wallet.Session := Wallet.Session.new (Wallet.Sample.options false)

theorem unusedWallet_likeNew : unusedWallet.LikeNew := ⟨rfl, rfl, rfl, rfl, rfl, rfl, rfl, rfl, rfl, rfl, rfl⟩

end Sample

theorem new_pairing_clean_sample :
    Run.run (DApp.step .transparent) Sample.triedDApp (Sample.dappPairs 1) =
        Run.run (DApp.step .transparent) Sample.triedDApp.renewed (Sample.dappPairs 1) ∧
      Run.run (Wallet.step .transparent) Sample.unusedWallet (Sample.walletJoins 0 0) =
        Run.run (Wallet.step .transparent) Sample.unusedWallet.renewed (Sample.walletJoins 0 0) := by
  obtain ⟨dapp, wallet⟩ := new_pairing_clean .transparent
  obtain ⟨t, creates⟩ := ok_of_value (show value (DApp.createPairing .transparent Sample.dappKey "ab" false)
    { Sample.triedDApp with inputs := {} } = some () by decide +kernel)
  obtain ⟨u, joins⟩ := ok_of_value (show value (Wallet.prepareJoin .transparent Sample.pairing Sample.walletKey)
    { Sample.unusedWallet with inputs := { now := 0 } } = some () by decide +kernel)
  exact ⟨dapp _ t {} _ _ _ _ Sample.triedDApp_likeNew creates, wallet _ u _ _ _ _ Sample.unusedWallet_likeNew joins⟩

/-- The wallet's second session ends with the lifetime of its first one, and the dApp sends
a request of its first pairing again under the keys of its second one. -/
theorem new_pairing_leaks :
    (Run.run (Wallet.step .transparent) Sample.usedWallet
        (Sample.walletJoins 86400002 Sample.usedWallet.ticket ++ Sample.atLast 86400002)).phase = .closed ∧
    (Run.run (Wallet.step .transparent) Sample.usedWallet.renewed
        (Sample.walletJoins 86400002 Sample.usedWallet.ticket ++ Sample.atLast 86400002)).phase = .connected ∧
    Sample.sealings (Run.run (DApp.step .transparent) Sample.usedDApp
        (Sample.dappPairs Sample.usedDApp.ticket ++ Sample.dappReconnects (Sample.usedDApp.ticket + 1))) = 2 ∧
    Sample.sealings (Run.run (DApp.step .transparent) Sample.usedDApp.renewed
        (Sample.dappPairs Sample.usedDApp.ticket ++ Sample.dappReconnects (Sample.usedDApp.ticket + 1))) = 1 := by
  decide +kernel

end WalletPair.Sdk
