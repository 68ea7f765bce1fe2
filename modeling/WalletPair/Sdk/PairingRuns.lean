import WalletPair.Sdk.DApp.Replay
import WalletPair.Sdk.DApp.Sending
import WalletPair.Sdk.DApp.Lifetime
import WalletPair.Sdk.Wallet.Replay
import WalletPair.Sdk.Wallet.Sending
import WalletPair.Sdk.Wallet.Lifetime

/-! What holds over the runs of one session, for both sides: the nonces of one pairing, the
reservations that a closed session leaves behind, replay protection under failures, and the
lifetime. -/

namespace WalletPair.Sdk
open WalletPair.Lib

/-! ## Nonces

The nonce of a sealed frame is a function of the key and the sequence number, so it is enough
that no pair of these is used twice; the write-ahead rule is what makes that true across
crashes. -/

/-- No two of these frames use the same key and number, and when a frame was handed over
storage already held a snapshot that counted past it. -/
structure WriteAhead {Snap : Type} (mark : Snap → Nat) (handed : List (Sealed × Disk Snap)) : Prop where
  unique : (handed.map (fun h => (h.1.key, h.1.seq))).Nodup
  below : ∀ h ∈ handed, h.1.seq < 2 ^ 31
  durable : ∀ h ∈ handed, ∃ snap, h.2.contents = some snap ∧ h.1.seq < mark snap

theorem Numbered.writeAhead {Snap Task : Type} {σ : Scheme Snap Task} {b : Books Snap Task}
    {frames : List (Sealed × Disk Snap)} (h : Numbered σ b) (saved : b.adapter ≠ none) (cap : σ.cap = maxSendSeq)
    (handed : b.handed = frames.map (fun f => (f.1.seq, f.2))) (stored : ∀ f ∈ frames, f.2.contents ≠ none) :
    WriteAhead σ.mark frames := by
  have pair (f : Sealed × Disk Snap) (mem : f ∈ frames) : (f.1.seq, f.2) ∈ b.handed := by
    rw [handed]
    exact List.mem_map_of_mem mem
  refine ⟨?_, ?_, fun f mem => ?_⟩
  · apply List.Nodup.of_map Prod.snd
    simpa [handed, Function.comp_def] using h.handedOnce
  · intro f mem
    have below := h.below _ (h.handedUsed _ (pair f mem))
    rwa [cap] at below
  · obtain ⟨snap, latest, above⟩ := h.handedDurable saved _ (pair f mem)
    obtain ⟨loaded, contents⟩ := Option.ne_none_iff_exists'.mp (stored f mem)
    have same : loaded = snap := Option.some.inj ((Disk.latest_of_contents contents).symm.trans latest)
    exact ⟨snap, same ▸ contents, above⟩

/-- Inside one pairing of any object, whatever is interleaved and wherever the process dies,
sealed frames never repeat a nonce and storage is always ahead of the transport: as long as
no number of an earlier pairing waited when it began, and no number is used after closing
has emptied storage. -/
theorem sealed_frames_write_ahead (C : Crypto) :
    (∀ (options : DApp.Options) (history : List (Inputs × DApp.Label)) (inputs : Inputs) (privateKey : Bytes)
      (channelId : String) (deferTransport : Bool) (labels : List (Inputs × DApp.Label)), options.persistence ≠ none →
      let s := Run.run (DApp.step C) (.new options) history
      s.Vacant privateKey →
      Run.Along (DApp.step C) (DApp.Guarded C privateKey)
        (DApp.step C s (inputs, .createPairing privateKey channelId deferTransport)) labels →
      WriteAhead DApp.Snapshot.sendMark
        ((DApp.pairingRun C s inputs privateKey channelId deferTransport labels).handedFrames s.trace.length)) ∧
    (∀ (options : Wallet.Options) (history : List (Inputs × Wallet.Label)) (inputs : Inputs) (parsed : PairingParams)
      (privateKey : Bytes) (labels : List (Inputs × Wallet.Label)), options.persistence ≠ none →
      b64urlDecode parsed.pubkey ≠ none →
      let s := Run.run (Wallet.step C) (.new options) history
      s.Vacant privateKey →
      Run.Along (Wallet.step C) (Wallet.Guarded C privateKey)
        (Wallet.step C s (inputs, .prepareJoin parsed privateKey)) labels →
      WriteAhead Wallet.Snapshot.sendMark
        ((Wallet.joinRun C s inputs parsed privateKey labels).handedFrames s.trace.length)) := by
  constructor
  · intro options history inputs privateKey channelId deferTransport labels saved s vacant guarded
    have configured : s.options.persistence ≠ none := by
      rw [DApp.run_options]
      exact saved
    obtain ⟨numbered, backed⟩ :=
      DApp.pairingRun_numbered configured (DApp.run_queued C options history) vacant guarded
    exact numbered.writeAhead backed.saved rfl rfl backed.stored
  · intro options history inputs parsed privateKey labels saved decodes s vacant guarded
    have configured : s.options.persistence ≠ none := by
      rw [Wallet.run_options]
      exact saved
    obtain ⟨numbered, backed⟩ :=
      Wallet.joinRun_numbered configured (Wallet.run_queued C options history) vacant decodes guarded
    exact numbered.writeAhead backed.saved rfl rfl backed.stored

/-! ### Objects that are used again, with a crash on each side -/

namespace Sample

/-- A dApp sends a request in its first pairing, and closes it. -/
def dappHistory : List (Inputs × DApp.Label) :=
  ({}, .createPairing dappKey "ab" false) :: DApp.Sample.pairing ++
    (calmly [.request "m" none, .flush 4, .settle 4 true, .close "normal", .flush 5, .settle 5 true] :
      List (Inputs × DApp.Label))

def reusedDApp : DApp.Session := Run.run (DApp.step .transparent) (.new DApp.Sample.options) dappHistory

/-- A request is sent in the second pairing, the process dies, and the restored session sends
another one. -/
def dappLabels : List (Inputs × DApp.Label) :=
  calmly [.connect 6 true, .message secondJoin, .flush 7, .settle 7 true, .message (ready walletKey), .flush 8,
    .settle 8 true, .request "m" none, .flush 10, .settle 10 true, .crash, .request "m" none, .flush 12, .settle 12 true]

def dappRun : DApp.Session := DApp.pairingRun .transparent reusedDApp {} secondKey "ab" false dappLabels

/-- A wallet pushes an event in its first pairing, whose save takes its time. -/
def waitingHistory : List (Inputs × Wallet.Label) :=
  ({}, .prepareJoin pairing walletKey) :: Wallet.Sample.pairing ++
    (calmly [.pushEvent "e" none] : List (Inputs × Wallet.Label))

def waitingWallet : Wallet.Session :=
  Run.run (Wallet.step .transparent) (.new (Wallet.Sample.options true)) waitingHistory

/-- The save settles after all. -/
def walletHistory : List (Inputs × Wallet.Label) := waitingHistory ++ (calmly [.flush 3, .settle 3 true] : List (Inputs × Wallet.Label))

def reusedWallet : Wallet.Session := Run.run (Wallet.step .transparent) (.new (Wallet.Sample.options true)) walletHistory

/-- The wallet joins, pushes an event, dies, and pushes another one once it is restored. -/
def walletLabels : List (Inputs × Wallet.Label) :=
  ({}, .confirmJoin) :: ({ nonce := List.replicate 12 0 }, .connect 4 true) ::
    (calmly [.flush 5, .settle 5 true, .message (ready dappKey), .flush 6, .settle 6 true, .pushEvent "e" none, .flush 7,
      .settle 7 true, .crash, .pushEvent "e" none, .flush 8, .settle 8 true] : List (Inputs × Wallet.Label))

def walletRun : Wallet.Session := Wallet.joinRun .transparent reusedWallet {} pairing secondKey walletLabels

end Sample

theorem dappRun_facts :
    (Sample.reusedDApp.journal.held DApp.Task.reserves = [] ∧
      (∀ snap ∈ Sample.reusedDApp.journal.disk.latest, snap.privKey ≠ Sample.secondKey) ∧
      ∀ c ∈ Sample.reusedDApp.journal.calls, ∀ snap ∈ c.write, snap.privKey ≠ Sample.secondKey) ∧
    Run.Along (DApp.step .transparent) (DApp.Guarded .transparent Sample.secondKey)
      (DApp.step .transparent Sample.reusedDApp ({}, .createPairing Sample.secondKey "ab" false)) Sample.dappLabels ∧
    (Sample.dappRun.handedFrames Sample.reusedDApp.trace.length).map (fun h => h.1.seq) = [0, 1] := by
  decide +kernel

theorem walletRun_facts :
    (Sample.reusedWallet.journal.held Wallet.Task.reserves = [] ∧
      (∀ snap ∈ Sample.reusedWallet.journal.disk.latest, snap.privKey ≠ Sample.secondKey) ∧
      ∀ c ∈ Sample.reusedWallet.journal.calls, ∀ snap ∈ c.write, snap.privKey ≠ Sample.secondKey) ∧
    Run.Along (Wallet.step .transparent) (Wallet.Guarded .transparent Sample.secondKey)
      (Wallet.step .transparent Sample.reusedWallet ({}, .prepareJoin Sample.pairing Sample.secondKey)) Sample.walletLabels ∧
    (Sample.walletRun.handedFrames Sample.reusedWallet.trace.length).map (fun h => h.1.seq) = [0, 1] := by
  decide +kernel

theorem sealed_frames_write_ahead_sample :
    (Sample.dappRun.handedFrames Sample.reusedDApp.trace.length).map (fun h => h.1.seq) = [0, 1] ∧
    WriteAhead DApp.Snapshot.sendMark (Sample.dappRun.handedFrames Sample.reusedDApp.trace.length) ∧
    (Sample.walletRun.handedFrames Sample.reusedWallet.trace.length).map (fun h => h.1.seq) = [0, 1] ∧
    WriteAhead Wallet.Snapshot.sendMark (Sample.walletRun.handedFrames Sample.reusedWallet.trace.length) := by
  obtain ⟨dapp, wallet⟩ := sealed_frames_write_ahead .transparent
  obtain ⟨⟨dappHeld, dappLatest, dappWaiting⟩, dappGuarded, dappFrames⟩ := dappRun_facts
  obtain ⟨⟨walletHeld, walletLatest, walletWaiting⟩, walletGuarded, walletFrames⟩ := walletRun_facts
  have dappVacant : Sample.reusedDApp.Vacant Sample.secondKey :=
    ⟨dappHeld, fun snap shape => dappLatest snap shape, fun c mem snap shape => dappWaiting c mem snap shape⟩
  have walletVacant : Sample.reusedWallet.Vacant Sample.secondKey :=
    ⟨walletHeld, fun snap shape => walletLatest snap shape, fun c mem snap shape => walletWaiting c mem snap shape⟩
  exact ⟨dappFrames, dapp _ Sample.dappHistory _ _ _ _ _ (by decide) dappVacant dappGuarded, walletFrames,
    wallet _ Sample.walletHistory _ _ _ _ (by decide) (by decide +kernel) walletVacant walletGuarded⟩

/-! ### What goes wrong otherwise -/

namespace Sample

/-- A second pairing, in which an event is pushed as well. -/
def rejoining : List (Inputs × Wallet.Label) :=
  ({}, .confirmJoin) :: ({ nonce := List.replicate 12 0 }, .connect 4 true) ::
    (calmly [.flush 3, .settle 3 true, .flush 5, .settle 5 true, .message (ready dappKey), .flush 6, .settle 6 true,
      .pushEvent "e" none, .flush 7, .settle 7 true] : List (Inputs × Wallet.Label))

/-- The wallet is closed while the save of an event waits. -/
def leaving : List (Inputs × Wallet.Label) :=
  Wallet.Sample.pairing ++
    (calmly [.pushEvent "e" none, .close "normal", .flush 3, .flush 4, .settle 3 true] : List (Inputs × Wallet.Label))

end Sample

/-- The number that waited is used under the keys of the second pairing, which uses it again;
and the event of a closed session goes out with nothing in storage. -/
theorem late_reservation_repeats_nonce :
    (Run.Along (Wallet.step .transparent) Wallet.InPairing
        (Wallet.step .transparent Sample.waitingWallet ({}, .prepareJoin Sample.pairing Sample.secondKey)) Sample.rejoining ∧
      (((Wallet.joinRun .transparent Sample.waitingWallet {} Sample.pairing Sample.secondKey
        Sample.rejoining).handedFrames Sample.waitingWallet.trace.length).map fun h => (h.1.key, h.1.seq)) =
        [([119, 114, 6, 6], 0), ([119, 114, 6, 6], 0)]) ∧
    (Run.Along (Wallet.step .transparent) Wallet.InPairing
        (Wallet.step .transparent (.new (Wallet.Sample.options true)) ({}, .prepareJoin Sample.pairing Sample.walletKey))
        Sample.leaving ∧
      ((Wallet.joinRun .transparent (.new (Wallet.Sample.options true)) {} Sample.pairing Sample.walletKey
        Sample.leaving).handedFrames.map fun h => (h.1.seq, h.2.contents.isSome)) = [(0, false)]) := by
  decide +kernel

/-! ## Reservations made before a session was closed, destroyed or paired anew -/

/-- In every run of either session, no reservation made before the session was last closed or
paired anew is used exactly when each of them finds nothing to use as its save settles. A
session closes itself, too: at the end of its lifetime, when a save fails, and so on. -/
theorem stale_reservations_unused_iff (C : Crypto) (dappOptions : DApp.Options) (walletOptions : Wallet.Options)
    (dappLabels : List (Inputs × DApp.Label)) (walletLabels : List (Inputs × Wallet.Label)) :
    (Run.Along (DApp.step C) (DApp.StaleUnused C) (DApp.Session.new dappOptions) dappLabels ↔
      Run.Along (DApp.step C) (DApp.StaleUnusable C) (DApp.Session.new dappOptions) dappLabels) ∧
    (Run.Along (Wallet.step C) (Wallet.StaleUnused C) (Wallet.Session.new walletOptions) walletLabels ↔
      Run.Along (Wallet.step C) (Wallet.StaleUnusable C) (Wallet.Session.new walletOptions) walletLabels) :=
  ⟨DApp.stale_unused_iff C _ dappLabels, Wallet.stale_unused_iff C _ walletLabels⟩

namespace DApp.Sample

/-- A paired dApp with asynchronous storage makes a request and closes; then the save of
the request's number becomes durable. -/
def closing : List (Inputs × Label) :=
  ({}, .createPairing Sdk.Sample.dappKey "ab" false) :: pairing ++
    (Sdk.Sample.calmly [.request "m" none, .close "normal", .flush 4] : List (Inputs × Label))

def closed : Session := Run.run (step .transparent) (Session.new options) closing

end DApp.Sample

theorem closed_facts :
    DApp.Sample.closed.phase = .closed ∧ 4 < DApp.Sample.closed.staleBelow ∧
    (DApp.Sample.closed.journal.find 4).map (fun call => call.task.reserves) = some (some 0) ∧
    ((DApp.step .transparent DApp.Sample.closed ({}, .settle 4 true)).trace.drop
      DApp.Sample.closed.trace.length).any DApp.Obs.sends = true := by
  decide +kernel

/-- The continuation of the request seals and sends it after the session was closed. -/
theorem closed_session_seals_request :
    DApp.Sample.closed.phase = .closed ∧
    ¬ Run.Along (DApp.step .transparent) (DApp.StaleUnused .transparent)
      (DApp.Session.new DApp.Sample.options) (DApp.Sample.closing ++ Sample.calmly [.settle 4 true]) := by
  obtain ⟨phase, older, task, sends⟩ := closed_facts
  refine ⟨phase, fun unused => ?_⟩
  have last : DApp.StaleUnused .transparent DApp.Sample.closed ({}, .settle 4 true) := (Run.along_append.mp unused).2.1
  exact DApp.not_unused_of_sends .transparent older task sends last

/-! ## Replay protection

The continuation of a receive whose save is rejected, or in which something throws, sets the
counter back to where it stood before the frame, however many frames were received since.
Without such a continuation the counter never falls and no frame is delivered twice. -/

/-- One object, whatever it was used for before, inside one pairing that is taken up by
`createPairing`, `prepareJoin` or `restore` while no received frame waits, with saves that
settle in any order: as long as no receive is taken back, the receive counter never falls and
no sealed frame is delivered twice. -/
theorem replay_protection_of_unfailing (C : Crypto) :
    (∀ (options : DApp.Options) (history : List (Inputs × DApp.Label)) (inputs : Inputs) (start : DApp.Label)
      (first second : List (Inputs × DApp.Label)), (∃ adapter, options.persistence = some adapter ∧ adapter.async = true) →
      start.starts = true →
      let before := Run.run (DApp.step C) (.new options) history
      let s := DApp.step C before (inputs, start)
      before.awaited = [] →
      Run.Along (DApp.step C) (fun s l => l.2.sameObject = true ∧ DApp.Unfailing s l) s (first ++ second) →
      (Run.run (DApp.step C) s first).recvSeq ≤ (Run.run (DApp.step C) s (first ++ second)).recvSeq ∧
        (((Run.run (DApp.step C) s (first ++ second)).deliveries before.trace.length).map (fun d => (d.key, d.seq))).Nodup) ∧
    (∀ (options : Wallet.Options) (history : List (Inputs × Wallet.Label)) (inputs : Inputs) (start : Wallet.Label)
      (first second : List (Inputs × Wallet.Label)),
      (∃ adapter, options.persistence = some adapter ∧ adapter.async = true) →
      start.starts = true →
      let before := Run.run (Wallet.step C) (.new options) history
      let s := Wallet.step C before (inputs, start)
      before.awaited = [] →
      Run.Along (Wallet.step C) (fun s l => l.2.sameObject = true ∧ Wallet.Unfailing s l) s (first ++ second) →
      (Run.run (Wallet.step C) s first).recvSeq ≤ (Run.run (Wallet.step C) s (first ++ second)).recvSeq ∧
        (((Run.run (Wallet.step C) s (first ++ second)).deliveries before.trace.length).map
          (fun d => (d.key, d.seq))).Nodup) := by
  constructor
  · intro options history inputs start first second _ starts before s waits unfailing
    exact DApp.run_once C (DApp.starts_untouched C .inbound waits inputs starts) unfailing
  · intro options history inputs start first second async starts before s waits unfailing
    refine Wallet.run_once C (Wallet.starts_untouched C .inbound waits inputs starts) ?_ unfailing
    rw [Wallet.step_options, Wallet.run_options]
    exact async

/-! ### Runs with and without a failure -/

namespace Sample

def dappStart : DApp.Session :=
  DApp.step .transparent (.new DApp.Sample.options) ({}, .createPairing dappKey "ab" false)

/-- Two events arrive; the save of the second one settles first. -/
def received : List (Inputs × DApp.Label) :=
  DApp.Sample.pairing ++
    (calmly [.message (event 0), .message (event 1), .flush 4, .settle 4 true] : List (Inputs × DApp.Label))

/-- The save of the first event is rejected, which closes the session; the application
reconnects, and the relay replays the second event. -/
def rejected : List (Inputs × DApp.Label) :=
  calmly [.settle 3 false, .reconnect, .connect 6 true, .message (ready walletKey), .message (event 1), .flush 8,
    .settle 8 true]

def walletStart : Wallet.Session :=
  Wallet.step .transparent (.new (Wallet.Sample.options true)) ({}, .prepareJoin pairing walletKey)

/-- A request arrives at the wallet and is shown once its save is durable. -/
def requested : List (Inputs × Wallet.Label) :=
  calmly [.message (request "req-1" "m" 0), .flush 3, .settle 3 true]

end Sample

namespace Sample

/-- A dApp takes an event in its first pairing. -/
def receivedBefore : List (Inputs × DApp.Label) :=
  ({}, .createPairing dappKey "ab" false) :: DApp.Sample.pairing ++
    (calmly [.message (event 0), .flush 3, .settle 3 true] : List (Inputs × DApp.Label))

def receivingDApp : DApp.Session := Run.run (DApp.step .transparent) (.new DApp.Sample.options) receivedBefore

/-- An event of the second pairing. -/
def secondEvent (seq : Nat) : ProtocolMessage := ⟨1, "ab", 0, b64urlEncode walletKey,
  .evt (some "e") (envelope [119, 114, 7, 7] walletKey .evt "e" seq (.obj [("_event", .str "x")]))⟩

/-- Two events arrive in the second pairing; the save of the second one settles first. -/
def receivedAgain : List (Inputs × DApp.Label) :=
  calmly [.connect 4 true, .message secondJoin, .flush 5, .settle 5 true, .message (ready walletKey), .flush 6,
    .settle 6 true, .message (secondEvent 0), .message (secondEvent 1), .flush 8, .settle 8 true]

def resolvedAgain : List (Inputs × DApp.Label) := calmly [.flush 7, .settle 7 true]

def secondDApp : DApp.Session := DApp.step .transparent receivingDApp ({}, .createPairing secondKey "ab" false)

end Sample

theorem secondDApp_facts :
    Sample.receivingDApp.awaited = [] ∧
    Run.Along (DApp.step .transparent) (fun s l => l.2.sameObject = true ∧ DApp.Unfailing s l) Sample.secondDApp
      (Sample.receivedAgain ++ Sample.resolvedAgain) ∧
    ((Run.run (DApp.step .transparent) Sample.secondDApp (Sample.receivedAgain ++ Sample.resolvedAgain)).deliveries
      Sample.receivingDApp.trace.length).map (fun d => (d.key, d.seq)) = [([119, 114, 7, 7], 1), ([119, 114, 7, 7], 0)] := by
  decide +kernel

theorem replay_protection_of_unfailing_sample :
    ((Run.run (DApp.step .transparent) Sample.secondDApp Sample.receivedAgain).recvSeq ≤
        (Run.run (DApp.step .transparent) Sample.secondDApp (Sample.receivedAgain ++ Sample.resolvedAgain)).recvSeq ∧
      (((Run.run (DApp.step .transparent) Sample.secondDApp (Sample.receivedAgain ++ Sample.resolvedAgain)).deliveries
        Sample.receivingDApp.trace.length).map (fun d => (d.key, d.seq))).Nodup) ∧
    ((Run.run (Wallet.step .transparent) Sample.walletStart Wallet.Sample.pairing).recvSeq ≤
        (Run.run (Wallet.step .transparent) Sample.walletStart (Wallet.Sample.pairing ++ Sample.requested)).recvSeq ∧
      ((Run.run (Wallet.step .transparent) Sample.walletStart (Wallet.Sample.pairing ++ Sample.requested)).deliveries.map
        (fun d => (d.key, d.seq))).Nodup) := by
  obtain ⟨dapp, wallet⟩ := replay_protection_of_unfailing .transparent
  obtain ⟨waits, unfailing, -⟩ := secondDApp_facts
  refine ⟨dapp DApp.Sample.options Sample.receivedBefore {} _ _ _ ⟨_, rfl, rfl⟩ rfl waits unfailing,
    wallet (Wallet.Sample.options true) [] {} _ _ _ ⟨_, rfl, rfl⟩ rfl rfl ?_⟩
  decide +kernel

/-- The counter falls from 1 to -1 when the earlier save is rejected, and the event that
was delivered already is delivered again. -/
theorem rejected_save_replays_event :
    Run.Along (DApp.step .transparent) (fun _ l => l.2.sameObject = true) Sample.dappStart
      (Sample.received ++ Sample.rejected) ∧
    (Run.run (DApp.step .transparent) Sample.dappStart Sample.received).recvSeq = 1 ∧
    (Run.run (DApp.step .transparent) Sample.dappStart (Sample.received ++ Sample.rejected.take 1)).recvSeq = -1 ∧
    (Run.run (DApp.step .transparent) Sample.dappStart (Sample.received ++ Sample.rejected)).deliveries.map
      (fun d => (d.key, d.seq)) = [(Sample.walletToDappKey, 1), (Sample.walletToDappKey, 1)] := by
  decide +kernel

/-! ## The lifetime

The timer holds as long as one object lives and the relay stays quiet about a session that has
ended. A snapshot is taken up whatever its age, and a `ready.connected` opens a session again
after its time. -/

/-- Inside one pairing of any object that remembers nothing from a later moment, with a timer that
fires when it is due, and over any number of reconnects and crashes: as long as no step overruns
the lifetime in one of the ways that the code leaves open, no request, response or event is handed
to the transport after it, and the session does not become connected again. -/
theorem sessions_within_lifetime (C : Crypto) :
    (∀ (s : DApp.Session) (inputs : Inputs) (privateKey : Bytes) (channelId : String) (deferTransport : Bool)
      (labels : List (Inputs × DApp.Label)), (∀ l ∈ labels, s.Dated (some l.1.now)) →
      Run.Along (DApp.timedStep C) (fun t l => DApp.Timely t l ∧ DApp.Lives t l)
        (DApp.created C s inputs privateKey channelId deferTransport) labels →
      Run.Along (DApp.timedStep C) (DApp.WithinLifetime C)
        (DApp.created C s inputs privateKey channelId deferTransport) labels) ∧
    (∀ (s : Wallet.Session) (inputs : Inputs) (parsed : PairingParams) (privateKey : Bytes)
      (labels : List (Inputs × Wallet.Label)), (∀ l ∈ labels, s.Dated (some l.1.now)) →
      Run.Along (Wallet.timedStep C) (fun t l => Wallet.Timely t l ∧ Wallet.Lives t l)
        (Wallet.prepared C s inputs parsed privateKey) labels →
      Run.Along (Wallet.timedStep C) (Wallet.WithinLifetime C)
        (Wallet.prepared C s inputs parsed privateKey) labels) := by
  constructor
  · intro s inputs privateKey channelId deferTransport labels earlier admitted
    exact DApp.run_within_lifetime
      (fun l mem => DApp.created_dated (earlier l mem) inputs privateKey channelId deferTransport) admitted
  · intro s inputs parsed privateKey labels earlier admitted
    exact Wallet.run_within_lifetime (fun l mem => Wallet.prepared_dated (earlier l mem) inputs parsed privateKey) admitted

/-! ### Runs within and beyond the lifetime -/

namespace Sample

/-- Labels taken at one moment. -/
def atTime {Label : Type} (now : Nat) (labels : List Label) : List (Inputs × Label) := labels.map fun l => ({ now }, l)

def dappPaired : Timed DApp.Session := DApp.created .transparent (.new DApp.Sample.options) {} dappKey "ab" false

def walletPaired : Timed Wallet.Session :=
  Wallet.prepared .transparent (.new (Wallet.Sample.options true)) {} pairing walletKey

/-- The process dies and reconnects within the day; the timer ends the session. -/
def dappDay : List (Inputs × DApp.Label) :=
  DApp.Sample.pairing ++
    (atTime 2 [.crash, .reconnect, .connect 3 true, .message (ready walletKey), .flush 4] : List (Inputs × DApp.Label)) ++
    (atTime 86400001 [.fire .sessionTtl] : List (Inputs × DApp.Label)) ++
    (atTime 86400002 [.request "m" none] : List (Inputs × DApp.Label))

/-- The process is down when the lifetime ends, is restored, and reconnects. -/
def dappNextDay : List (Inputs × DApp.Label) :=
  DApp.Sample.pairing ++ (atTime 86400002 [.crash, .reconnect, .connect 3 true, .message (ready walletKey),
    .request "m" none, .flush 6, .settle 6 true] : List (Inputs × DApp.Label))

def walletDay : List (Inputs × Wallet.Label) :=
  Wallet.Sample.pairing ++ (atTime 2 [.pushEvent "e" none, .flush 3, .settle 3 true] : List (Inputs × Wallet.Label)) ++
    (atTime 86400001 [.fire .sessionTtl] : List (Inputs × Wallet.Label)) ++
    (atTime 86400002 [.pushEvent "e" none] : List (Inputs × Wallet.Label))

/-- The timer closes the session, and the application answers a request afterwards. -/
def walletNextDay : List (Inputs × Wallet.Label) :=
  Wallet.Sample.pairing ++ (atTime 86400001 [.fire .sessionTtl] : List (Inputs × Wallet.Label)) ++
    (atTime 86400002 [.approve "req-1" none, .flush 4, .settle 4 true] : List (Inputs × Wallet.Label))

end Sample

theorem lifetime_facts :
    (Run.Along (DApp.timedStep .transparent) (fun t l => DApp.Timely t l ∧ DApp.Lives t l) Sample.dappPaired Sample.dappDay ∧
      Run.Along (DApp.timedStep .transparent) DApp.Timely Sample.dappPaired Sample.dappNextDay ∧
      ¬ Run.Along (DApp.timedStep .transparent) (DApp.WithinLifetime .transparent) Sample.dappPaired
        Sample.dappNextDay) ∧
    (Run.Along (Wallet.timedStep .transparent) (fun t l => Wallet.Timely t l ∧ Wallet.Lives t l) Sample.walletPaired
        Sample.walletDay ∧
      Run.Along (Wallet.timedStep .transparent) Wallet.Timely Sample.walletPaired Sample.walletNextDay ∧
      ¬ Run.Along (Wallet.timedStep .transparent) (Wallet.WithinLifetime .transparent) Sample.walletPaired
        Sample.walletNextDay) := by
  decide +kernel

theorem sessions_within_lifetime_sample :
    Run.Along (DApp.timedStep .transparent) (DApp.WithinLifetime .transparent) Sample.dappPaired Sample.dappDay ∧
    Run.Along (Wallet.timedStep .transparent) (Wallet.WithinLifetime .transparent) Sample.walletPaired
      Sample.walletDay := by
  obtain ⟨dapp, wallet⟩ := sessions_within_lifetime .transparent
  obtain ⟨⟨dappLives, -⟩, ⟨walletLives, -⟩⟩ := lifetime_facts
  exact ⟨dapp (.new DApp.Sample.options) {} Sample.dappKey "ab" false Sample.dappDay (fun l _ => DApp.new_dated _ l.1.now)
      dappLives,
    wallet (.new (Wallet.Sample.options true)) {} Sample.pairing Sample.walletKey Sample.walletDay
      (fun l _ => Wallet.new_dated _ l.1.now) walletLives⟩

/-- A restored dApp session is connected again and sends a request after its lifetime, and
a wallet session that its timer has closed sends an answer. -/
theorem sessions_outlive :
    (Run.Along (DApp.timedStep .transparent) DApp.Timely Sample.dappPaired Sample.dappNextDay ∧
      ¬ Run.Along (DApp.timedStep .transparent) (DApp.WithinLifetime .transparent) Sample.dappPaired
        Sample.dappNextDay) ∧
    (Run.Along (Wallet.timedStep .transparent) Wallet.Timely Sample.walletPaired Sample.walletNextDay ∧
      ¬ Run.Along (Wallet.timedStep .transparent) (Wallet.WithinLifetime .transparent) Sample.walletPaired
        Sample.walletNextDay) :=
  ⟨lifetime_facts.1.2, lifetime_facts.2.2⟩

end WalletPair.Sdk
