import WalletPair.Sdk.DApp.Link
import WalletPair.Sdk.Wallet.Link

/-! The routing hint in the transport's URL. The dApp writes the hint back into the URL that
it reads the next time, so the hint is right as long as the URL is hinted once for one
channel; the wallet starts from the relay's URL every time. -/

namespace WalletPair.Sdk
open WalletPair.Lib WalletPair.Lib.Program WalletPair.Lib.Run

theorem hasPart_append (before part after : List Char) (full : part ≠ []) :
    hasPart part (before ++ (part ++ after)) = true := by
  induction before with
  | nil =>
    obtain ⟨c, rest, rfl⟩ := List.exists_cons_of_ne_nil full
    have leads : (c :: rest).isPrefixOf (c :: rest ++ after) = true := by
      rw [List.isPrefixOf_iff_prefix]
      exact List.prefix_append _ _
    rw [List.nil_append, List.cons_append, hasPart, ← List.cons_append, leads, Bool.true_or]
  | cons c rest ih => rw [List.cons_append, hasPart, ih, Bool.or_true]

/-- A URL without a query is recognised once it carries the hint. -/
theorem includes_withChannelHint {base : String} (bare : includes base "?" = false) (channelId : String) :
    includes (withChannelHint base channelId) "?ch=" = true := by
  have spelled : (withChannelHint base channelId).toList =
      base.toList ++ ("?ch=".toList ++ channelId.toList) := by
    simp [withChannelHint, bare]
  rw [includes, spelled]
  exact hasPart_append _ _ _ (by decide)

namespace DApp

/-- The step calls `transport.connect()`. -/
def Connects (s t : Session) : Prop := s.connects.length < t.connects.length

/-- When the transport is told to connect its URL is the base with the channel as the one
added parameter, and a pairing URI that is announced names the base itself. -/
structure Hints (base : String) (s t : Session) : Prop where
  url : Connects s t → t.url = some (withChannelHint base t.channelId)
  uri : t.pairingUri = s.pairingUri ∨ t.pairingUri = "" ∨ t.pairingUri = buildPairingUri ⟨t.channelId, t.pubKeyB64, base,
    t.dappMeta.name, t.dappMeta.url, t.dappMeta.icon, t.options.methods, t.options.chains⟩

/-- The step neither pairs under a URL that is hinted already, nor hints a base with its own
query twice, nor takes a snapshot of another channel under a hinted URL. -/
def Fresh (base : String) (s : Session) (l : Inputs × Label) : Prop :=
  match l.2 with
  | .createPairing _ _ _ => s.url = some base
  | .connectTransport => s.url = some base ∨ includes base "?" = false
  | .reconnect => s.url = some base ∨ includes base "?" = false
  | .fire .reconnect => s.url = some base ∨ includes base "?" = false ∨
      due l.1.now s.timers.reconnect = false ∨ s.intentionalClose = true ∨ s.phase = .closed
  | .restore d => s.url = some base ∨ d.channelId = s.channelId ∨ d.channelId = "" ∨ d.privKey = []
  | _ => True

/-- The URL is the base, or carries the hint of the current channel. -/
structure Routed (base : String) (s : Session) : Prop where
  configured : s.options.url = some base
  settable : s.options.canSetUrl = true
  url : s.url = some base ∨ s.url = some (withChannelHint base s.channelId)

/-! ### Steps that leave the route alone -/

structure SameRoute (s t : Session) : Prop where
  options : t.options = s.options
  url : t.url = s.url
  channelId : t.channelId = s.channelId
  pairingUri : t.pairingUri = s.pairingUri
  connects : t.connects.length ≤ s.connects.length

instance : Std.Refl SameRoute := ⟨fun _ => ⟨rfl, rfl, rfl, rfl, le_rfl⟩⟩

instance : IsTrans Session SameRoute := ⟨fun _ _ _ first second =>
  ⟨second.options.trans first.options, second.url.trans first.url, second.channelId.trans first.channelId,
    second.pairingUri.trans first.pairingUri, second.connects.trans first.connects⟩⟩

theorem sameRoute_of_drifts (s t : Session) (drifts : Drifts s t) : SameRoute s t := by
  rcases drifts.link with same | ⟨ended, closed⟩
  · exact ⟨congrArg Link.options same, congrArg Link.url same, congrArg Link.channelId same,
      congrArg Link.pairingUri same, (congrArg (fun l => l.connects.length) same).le⟩
  · exact ⟨congrArg Link.options closed, congrArg Link.url closed, congrArg Link.channelId closed,
      congrArg Link.pairingUri closed, (congrArg (fun l => l.connects.length) closed).le⟩

section Route

theorem route_modify {f : Session → Session} (same : ∀ s, SameRoute s (f s)) : Keeps SameRoute (modify f) := same

theorem route_of_drifts {α : Type} {m : M α} (drifts : Keeps Drifts m) : Keeps SameRoute m :=
  drifts.mono sameRoute_of_drifts

theorem setPhase_route (phase : Phase) : Keeps SameRoute (setPhase phase) := by
  intro s
  have linked := setPhase_link phase s
  split_ifs at linked
  · exact sameRoute_of_drifts _ _ ⟨.inl linked, setPhase_throws phase s⟩
  all_goals
    exact ⟨congrArg Link.options linked, congrArg Link.url linked, congrArg Link.channelId linked,
      congrArg Link.pairingUri linked, (congrArg (fun l => l.connects.length) linked).le⟩

theorem emit_route (event : Event) : Keeps SameRoute (emit event) := by
  intro s
  rw [after_emit]
  unfold Session.emitting
  split <;> exact ⟨rfl, rfl, rfl, rfl, le_rfl⟩

theorem giveUpReconnect_route : Keeps SameRoute giveUpReconnect :=
  .bind (route_modify fun _ => ⟨rfl, rfl, rfl, rfl, le_rfl⟩) fun _ =>
    .bind (route_modify fun _ => ⟨rfl, rfl, rfl, rfl, le_rfl⟩) fun _ => .bind .get fun _ =>
    .bind (route_of_drifts (rejectAllPending_drifts _)) fun _ => .bind (route_of_drifts clearPersistence_drifts) fun _ =>
    .bind (route_modify fun _ => ⟨rfl, rfl, rfl, rfl, le_rfl⟩) fun _ => .bind (emit_route _) fun _ => setPhase_route _

theorem scheduleReconnect_route : Keeps SameRoute scheduleReconnect := by
  refine .bind .get fun _ => .ite (.pure _) (.bind (route_modify fun s => ?_) fun _ => .bind .get fun _ =>
    .ite giveUpReconnect_route (route_modify fun _ => ⟨rfl, rfl, rfl, rfl, le_rfl⟩))
  split <;> exact ⟨rfl, rfl, rfl, rfl, le_rfl⟩

theorem startReconnect_route : Keeps SameRoute startReconnect :=
  .bind .get fun _ => .bind (route_modify fun _ => ⟨rfl, rfl, rfl, rfl, le_rfl⟩) fun _ =>
    .bind (route_modify fun _ => ⟨rfl, rfl, rfl, rfl, le_rfl⟩) fun _ => .bind (setPhase_route _) fun _ =>
    .ite (.bind (route_modify fun _ => ⟨rfl, rfl, rfl, rfl, le_rfl⟩) fun _ => scheduleReconnect_route)
      scheduleReconnect_route

theorem handleTransportClose_route : Keeps SameRoute handleTransportClose :=
  .bind .get fun _ => .ite startReconnect_route (.pure _)

theorem offerWallet_route (key : Bytes) (known : Bool) (capabilities walletMeta : Option Json) :
    Keeps SameRoute (offerWallet key known capabilities walletMeta) :=
  .bind (emit_route _) fun _ => .bind (route_of_drifts (record_drifts rfl)) fun _ => .bind (setPhase_route _) fun _ =>
    .bind .get fun _ => .ite (route_of_drifts doAccept_drifts) (route_modify fun _ => ⟨rfl, rfl, rfl, rfl, le_rfl⟩)

theorem handleReady_route (C : Crypto) (state remote : Option String) : Keeps SameRoute (handleReady C state remote) :=
  .bind (route_modify fun _ => ⟨rfl, rfl, rfl, rfl, le_rfl⟩) fun _ => .bind .get fun _ => .ite
    (.ite (.bind (emit_route _) fun _ => route_of_drifts (close_drifts _))
      (.bind (route_modify fun _ => ⟨rfl, rfl, rfl, rfl, le_rfl⟩) fun _ => .bind (setPhase_route _) fun _ =>
        .bind (route_modify fun _ => ⟨rfl, rfl, rfl, rfl, le_rfl⟩) fun _ =>
        .bind (route_modify fun _ => ⟨rfl, rfl, rfl, rfl, le_rfl⟩) fun _ =>
        .bind (route_of_drifts persistSnapshotAsync_drifts) fun _ =>
        .ite (route_of_drifts (resendPending_drifts C)) (.pure _)))
    (.ite (setPhase_route _) (.pure _))

/-- What ends the session because the peer or the relay did. -/
theorem ending_route (error : String) : Keeps SameRoute (do
    rejectAllPending error
    clearPersistence
    setPhase .closed
    modify fun s => { s with intentionalClose := true } : M Unit) :=
  .bind (route_of_drifts (rejectAllPending_drifts _)) fun _ => .bind (route_of_drifts clearPersistence_drifts) fun _ =>
    .bind (setPhase_route _) fun _ => route_modify fun _ => ⟨rfl, rfl, rfl, rfl, le_rfl⟩

theorem handleMessage_route (C : Crypto) (msg : ProtocolMessage) : Keeps SameRoute (handleMessage C msg) := by
  obtain ⟨v, ch, ts, sender, body⟩ := msg
  refine .ite (emit_route _) (.ite (route_of_drifts (close_drifts _)) ?_)
  cases body with
  | ready state remote => exact handleReady_route C state remote
  | join sealedJoin => exact handleJoin_rule C sameRoute_of_drifts offerWallet_route _ _
  | res id envelope => exact route_of_drifts (handleResponse_drifts C _ _ _)
  | evt id envelope => exact route_of_drifts (handleEvent_drifts C _ _ _)
  | ping => exact route_of_drifts (sendRaw_drifts _ _)
  | pong => exact route_modify fun _ => ⟨rfl, rfl, rfl, rfl, le_rfl⟩
  | close reason => exact .bind .get fun _ => .ite (ending_route _) (.pure _)
  | terminate reason => exact .bind .get fun _ => .ite (.pure _) (.ite startReconnect_route (ending_route _))
  | create dappMeta => exact .pure _
  | accept target => exact .pure _
  | req id envelope => exact .pure _

theorem settleConnect_route (ticket : Nat) (opened : Bool) : Keeps SameRoute (settleConnect ticket opened) := by
  have create : Keeps SameRoute (do let s ← get; sendRaw (.create s.dappMeta) none : M Unit) :=
    .bind .get fun _ => route_of_drifts (sendRaw_drifts _ _)
  refine .bind .get fun s => ?_
  cases s.connects.find? (fun c => c.1 == ticket) with
  | none => exact .pure _
  | some c =>
    refine .bind (route_modify fun s => ⟨rfl, rfl, rfl, rfl, List.length_filter_le _ _⟩) fun _ => ?_
    match c.2, opened with
    | .pairing, true => exact .bind (setPhase_route _) fun _ => create
    | .pairing, false => exact .pure _
    | .reconnect, true => exact .tryCatch create fun _ => scheduleReconnect_route
    | .reconnect, false => exact scheduleReconnect_route

theorem fire_route {name : TimerName} (other : name ≠ .reconnect) : Keeps SameRoute (fire name) := by
  refine .bind .get fun s => ?_
  cases name with
  | reconnect => exact absurd rfl other
  | pendingAccept =>
    exact .ite (.bind (route_modify fun _ => ⟨rfl, rfl, rfl, rfl, le_rfl⟩) fun _ => .bind (emit_route _) fun _ =>
      route_of_drifts (close_drifts _)) (.pure _)
  | orphanedAccept index =>
    exact .ite (.bind (route_modify fun _ => ⟨rfl, rfl, rfl, rfl, le_rfl⟩) fun _ => .bind (emit_route _) fun _ =>
      route_of_drifts (close_drifts _)) (.pure _)
  | heartbeat =>
    refine .ite (.bind (route_modify fun _ => ⟨rfl, rfl, rfl, rfl, le_rfl⟩) fun _ =>
      .ite (.bind (route_of_drifts ping_drifts) fun _ => route_modify fun s => ?_) (.pure _)) (.pure _)
    split <;> exact ⟨rfl, rfl, rfl, rfl, le_rfl⟩
  | liveness =>
    exact .ite (.bind (route_modify fun _ => ⟨rfl, rfl, rfl, rfl, le_rfl⟩) fun _ => handleTransportClose_route) (.pure _)
  | sessionTtl =>
    exact .ite (.bind (route_modify fun _ => ⟨rfl, rfl, rfl, rfl, le_rfl⟩) fun _ => .bind (emit_route _) fun _ =>
      route_of_drifts (close_drifts _)) (.pure _)
  | request promise =>
    dsimp only
    cases s.requestTimers.find? (fun t => t.promise == promise) with
    | none => exact .pure _
    | some timer =>
      exact .ite (.bind (route_modify fun _ => ⟨rfl, rfl, rfl, rfl, le_rfl⟩) fun _ =>
        route_of_drifts (settle_drifts _ _)) (.pure _)

end Route

/-! ### Steps that connect -/

section Connecting
variable {base : String} {s : Session}

theorem Routed.same {t : Session} (routed : Routed base s) (same : SameRoute s t) : Routed base t where
  configured := same.options ▸ routed.configured
  settable := same.options ▸ routed.settable
  url := by
    rw [same.url, same.channelId]
    exact routed.url

theorem SameRoute.hints {t : Session} (same : SameRoute s t) : Hints base s t where
  url := fun connects => absurd connects (not_lt.mpr same.connects)
  uri := .inl same.pairingUri

/-- A URL that may still be hinted gets the hint of the current channel. -/
theorem after_setTransportChannelHint (routed : Routed base s) (plain : base ≠ "" ∧ includes base "?ch=" = false)
    (once : s.url = some base ∨ includes base "?" = false) :
    after setTransportChannelHint s = { s with url := some (withChannelHint base s.channelId) } := by
  unfold setTransportChannelHint
  rw [after_modify]
  rcases routed.url with bare | hinted
  · have writes : s.options.canSetUrl = true ∧ base ≠ "" ∧ (!includes base "?ch=") = true :=
      ⟨routed.settable, plain.1, by rw [plain.2]; rfl⟩
    rw [bare]
    dsimp only
    rw [if_pos writes]
  · rcases once with bare | noQuery
    · rw [hinted] at bare
      have same : withChannelHint base s.channelId = base := Option.some.inj bare
      have longer : (withChannelHint base s.channelId).toList.length = base.toList.length := by rw [same]
      simp only [withChannelHint, String.toList_append, List.length_append] at longer
      have three : "ch=".toList.length = 3 := by decide
      omega
    · have kept : ¬(s.options.canSetUrl = true ∧ withChannelHint base s.channelId ≠ "" ∧
          (!includes (withChannelHint base s.channelId) "?ch=") = true) := by
        rw [includes_withChannelHint noQuery]
        simp
      rw [hinted]
      dsimp only
      rw [if_neg kept, ← hinted]

/-- What `connectTransport` and a reconnect attempt do. -/
theorem after_hint_connect (routed : Routed base s) (plain : base ≠ "" ∧ includes base "?ch=" = false)
    (once : s.url = some base ∨ includes base "?" = false) (next : Await) :
    (do setTransportChannelHint; awaitConnect next : M Unit) s = .ok () { s with
      url := some (withChannelHint base s.channelId), ticket := s.ticket + 1
      connects := s.connects ++ [(s.ticket, next)] } := by
  have hinted := after_setTransportChannelHint routed plain once
  have returned : setTransportChannelHint s = .ok () (after setTransportChannelHint s) := rfl
  rw [hinted] at returned
  rw [bind_of_ok returned]
  rfl

/-- The route after a step: still sound, and honest about what the step did. -/
def Sound (base : String) (s t : Session) : Prop := Routed base t ∧ Hints base s t

theorem sound_of_same {t : Session} (routed : Routed base s) (same : SameRoute s t) : Sound base s t :=
  ⟨routed.same same, same.hints⟩

/-- A session whose URL carries the hint of its channel and whose pairing URI is the old one. -/
theorem sound_of_hinted {t : Session} (routed : Routed base s) (options : t.options = s.options)
    (url : t.url = some (withChannelHint base t.channelId)) (uri : t.pairingUri = s.pairingUri) : Sound base s t :=
  ⟨⟨options ▸ routed.configured, options ▸ routed.settable, .inr url⟩, fun _ => url, .inl uri⟩

theorem connectTransport_sound (routed : Routed base s) (plain : base ≠ "" ∧ includes base "?ch=" = false)
    (once : s.url = some base ∨ includes base "?" = false) : Sound base s (after connectTransport s) := by
  have run := after_hint_connect routed plain once .pairing
  rw [show connectTransport = (do setTransportChannelHint; awaitConnect .pairing) from rfl, after_of_ok run]
  exact sound_of_hinted routed rfl rfl rfl

/-- A reconnect attempt does nothing, or connects. -/
theorem doReconnectAttempt_sound (routed : Routed base s) (plain : base ≠ "" ∧ includes base "?ch=" = false)
    (once : s.url = some base ∨ includes base "?" = false ∨ s.intentionalClose = true ∨ s.phase = .closed) :
    ∃ t, doReconnectAttempt s = .ok () t ∧ Sound base s t ∧ t.channelId = s.channelId := by
  unfold doReconnectAttempt
  rw [get_bind_apply]
  by_cases finished : s.intentionalClose = true ∨ s.phase = .closed
  · rw [if_pos finished]
    exact ⟨s, rfl, sound_of_same routed (Std.Refl.refl s), rfl⟩
  · rw [if_neg finished]
    have open_ : s.url = some base ∨ includes base "?" = false := by
      rcases once with bare | bare | closed
      · exact .inl bare
      · exact .inr bare
      · exact absurd closed finished
    rw [after_hint_connect routed plain open_]
    exact ⟨_, rfl, sound_of_hinted routed rfl rfl rfl, rfl⟩

theorem Sound.from_same {t u : Session} (same : SameRoute s t) (sound : Sound base t u) : Sound base s u := by
  refine ⟨sound.1, fun connects => sound.2.url (lt_of_le_of_lt same.connects connects), ?_⟩
  rcases sound.2.uri with kept | announced
  · exact .inl (kept.trans same.pairingUri)
  · exact .inr announced

theorem fire_reconnect_sound (routed : Routed base s) (plain : base ≠ "" ∧ includes base "?ch=" = false)
    (once : s.url = some base ∨ includes base "?" = false ∨ due s.inputs.now s.timers.reconnect = false ∨
      s.intentionalClose = true ∨ s.phase = .closed) : Sound base s (after (fire .reconnect) s) := by
  unfold fire
  rw [after_get_bind]
  dsimp only
  by_cases now : due s.inputs.now s.timers.reconnect = true
  · rw [if_pos now, after_modify_bind]
    have same : SameRoute s { s with timers := s.timers.stopReconnect } := ⟨rfl, rfl, rfl, rfl, le_rfl⟩
    obtain ⟨t, run, sound, -⟩ := doReconnectAttempt_sound (routed.same same) plain (by
      rcases once with bare | bare | idle | finished
      · exact .inl bare
      · exact .inr (.inl bare)
      · rw [now] at idle
        cases idle
      · exact .inr (.inr finished))
    rw [after_bind_of_ok run, after_modify]
    have counted : Sound base { s with timers := s.timers.stopReconnect }
        { t with reconnectAttempt := t.reconnectAttempt + 1 } :=
      ⟨⟨sound.1.configured, sound.1.settable, sound.1.url⟩, sound.2.url, sound.2.uri⟩
    exact counted.from_same same
  · rw [if_neg now, after_pure]
    exact sound_of_same routed (Std.Refl.refl s)

theorem reconnect_sound (routed : Routed base s) (plain : base ≠ "" ∧ includes base "?ch=" = false)
    (once : s.url = some base ∨ includes base "?" = false) : Sound base s (after reconnect s) := by
  unfold reconnect stopReconnect
  rw [after_modify_bind, after_modify_bind]
  have first : SameRoute s { s with intentionalClose := false, timers := s.timers.stopReconnect } :=
    ⟨rfl, rfl, rfl, rfl, le_rfl⟩
  generalize { s with intentionalClose := false, timers := s.timers.stopReconnect } = u at first
  have moved := setPhase_route .disconnected u
  rw [after_bind]
  cases run : setPhase .disconnected u with
  | error e t =>
    rw [after_of_error run] at moved
    exact sound_of_same routed (IsTrans.trans _ _ _ first moved)
  | ok a t =>
    rw [after_of_ok run] at moved
    have same : SameRoute s t := IsTrans.trans _ _ _ first moved
    have reset : SameRoute s { t with reconnectAttempt := 0 } :=
      ⟨same.options, same.url, same.channelId, same.pairingUri, same.connects⟩
    dsimp only
    rw [after_modify_bind]
    obtain ⟨v, run', sound, -⟩ := doReconnectAttempt_sound (routed.same reset) plain (by
      rcases once with bare | bare
      · exact .inl (reset.url.trans bare)
      · exact .inr (.inl bare))
    rw [after_of_ok run']
    exact sound.from_same reset

end Connecting

/-! ### Pairing and restoring -/

/-- A new pairing that has been announced and not yet connected. -/
structure Announced (base : String) (s t : Session) : Prop where
  options : t.options = s.options
  url : t.url = some base
  connects : t.connects = s.connects
  uri : t.pairingUri = buildPairingUri ⟨t.channelId, t.pubKeyB64, base, t.dappMeta.name, t.dappMeta.url, t.dappMeta.icon,
    t.options.methods, t.options.chains⟩

section Pairing
variable {base : String} {s : Session}

theorem Announced.sound {t : Session} (routed : Routed base s) (announced : Announced base s t) : Sound base s t := by
  refine ⟨⟨announced.options ▸ routed.configured, announced.options ▸ routed.settable, .inl announced.url⟩, ?_,
    .inr (.inr announced.uri)⟩
  intro connects
  rw [Connects, announced.connects] at connects
  exact absurd connects (lt_irrefl _)

theorem emit_announced (event : Event) : Keeps (Preserve (Announced base s)) (emit event) := by
  intro t announced
  rw [after_emit]
  unfold Session.emitting
  split <;> exact ⟨announced.options, announced.url, announced.connects, announced.uri⟩

theorem setPhase_announced (phase : Phase) : Keeps (Preserve (Announced base s)) (setPhase phase) :=
  .bind .get fun _ => .ite (.pure _) (.bind (fun _ announced =>
    ⟨announced.options, announced.url, announced.connects, announced.uri⟩) fun _ => emit_announced _)

/-- The connection that ends a pairing. -/
theorem connect_announced (routed : Routed base s) (plain : base ≠ "" ∧ includes base "?ch=" = false) {t : Session}
    (announced : Announced base s t) : Sound base s (after connectTransport t) := by
  have start := announced.sound routed
  have run := after_hint_connect start.1 plain (.inl announced.url) .pairing
  rw [show connectTransport = (do setTransportChannelHint; awaitConnect .pairing) from rfl, after_of_ok run]
  exact ⟨⟨start.1.configured, start.1.settable, .inr rfl⟩, fun _ => rfl, .inr (.inr announced.uri)⟩

theorem createPairing_sound (C : Crypto) (routed : Routed base s) (plain : base ≠ "" ∧ includes base "?ch=" = false)
    (bare : s.url = some base) (privateKey : Bytes) (channelId : String) (deferTransport : Bool) :
    Sound base s (after (createPairing C privateKey channelId deferTransport) s) := by
  unfold createPairing resetPairing
  rw [after_modify_bind]
  unfold announcePairing
  rw [after_get_bind]
  have read : nonEmpty s.url = some base := by
    rw [bare, nonEmpty, if_neg plain.1]
  dsimp only
  rw [read]
  dsimp only
  rw [after_modify_bind]
  -- from here on the pairing is announced, whatever throws
  have rest : Triple (Announced base s) (do
      let code ← runExcept (computeSessionFingerprint C channelId (generateX25519KeyPair C privateKey).publicKeyB64)
      modify fun s => { s with sessionFingerprint := code }
      emit (.pairingUri (buildPairingUri ⟨channelId, (generateX25519KeyPair C privateKey).publicKeyB64, base,
        s.dappMeta.name, s.dappMeta.url, s.dappMeta.icon, s.options.methods, s.options.chains⟩))
      emit (.sessionFingerprint code)
      if deferTransport then setPhase .waiting else connectTransport : M Unit) (fun _ => Sound base s) (Sound base s) := by
    have ended {α : Type} {m : M α} (kept : Keeps (Preserve (Announced base s)) m) :
        Triple (Announced base s) m (fun _ => Announced base s) (Sound base s) :=
      (Triple.preserve kept).mono (fun _ h => h) (fun _ _ h => h) fun _ h => h.sound routed
    refine .bind (ended (.runExcept _)) fun code => .bind (ended fun _ announced =>
      ⟨announced.options, announced.url, announced.connects, announced.uri⟩) fun _ =>
      .bind (ended (emit_announced _)) fun _ => .bind (ended (emit_announced _)) fun _ => .ite (fun _ => ?_) fun _ => ?_
    · exact (ended (setPhase_announced _)).mono (fun _ h => h) (fun _ _ h => h.sound routed) fun _ h => h
    · exact .of_keeps (R := fun t u => Announced base s t → Sound base s u)
        (fun _ announced => connect_announced routed plain announced) fun _ _ kept announced => kept announced
  exact rest.final ⟨rfl, bare, rfl, rfl⟩

/-- A snapshot is restored: nothing of the route but the channel changes. -/
structure Reopens (d : Snapshot) (s t : Session) : Prop where
  options : t.options = s.options
  url : t.url = s.url
  pairingUri : t.pairingUri = s.pairingUri
  connects : t.connects = s.connects
  channelId : t.channelId = s.channelId ∨ t.channelId = d.channelId

theorem Reopens.trans {d : Snapshot} {t u : Session} (first : Reopens d s t) (second : Reopens d t u) : Reopens d s u where
  options := second.options.trans first.options
  url := second.url.trans first.url
  pairingUri := second.pairingUri.trans first.pairingUri
  connects := second.connects.trans first.connects
  channelId := by
    rcases second.channelId with same | named
    · rw [same]
      exact first.channelId
    · exact .inr named

instance (d : Snapshot) : Std.Refl (Reopens d) := ⟨fun _ => ⟨rfl, rfl, rfl, rfl, .inl rfl⟩⟩

instance (d : Snapshot) : IsTrans Session (Reopens d) := ⟨fun _ _ _ first second => first.trans second⟩

theorem restoreSafely_reopens (d : Snapshot) : Keeps (Reopens d) (restoreSafely d) := by
  have field {f : Session → Session} (same : ∀ s, Reopens d s (f s)) : Keeps (Reopens d) (modify f : M Unit) := same
  have remote : Keeps (Reopens d) (restoreRemote d.remotePubKeyB64) := by
    unfold restoreRemote
    split
    · exact field fun _ => ⟨rfl, rfl, rfl, rfl, .inl rfl⟩
    · split
      · exact .throw _
      · exact field fun _ => ⟨rfl, rfl, rfl, rfl, .inl rfl⟩
  have opens : Keeps (Reopens d) (setPhase .connected) := by
    intro s
    have linked := setPhase_link .connected s
    have same := setPhase_route .connected s
    refine ⟨same.options, same.url, same.pairingUri, ?_, .inl same.channelId⟩
    split_ifs at linked <;> exact congrArg Link.connects linked
  exact .tryCatch (.ite (.pure _) (.bind (field fun _ => ⟨rfl, rfl, rfl, rfl, .inr rfl⟩) fun _ => .bind remote fun _ =>
    .bind (field fun _ => ⟨rfl, rfl, rfl, rfl, .inl rfl⟩) fun _ => .ite (.pure _)
    (.bind (field fun _ => ⟨rfl, rfl, rfl, rfl, .inl rfl⟩) fun _ => .bind opens fun _ => .pure _))) fun _ => .pure _

theorem Reopens.sound {d : Snapshot} {t : Session} (routed : Routed base s) (reopens : Reopens d s t)
    (safe : s.url = some base ∨ t.channelId = s.channelId) : Sound base s t := by
  refine ⟨⟨reopens.options ▸ routed.configured, reopens.options ▸ routed.settable, ?_⟩, fun connects => ?_,
    .inl reopens.pairingUri⟩
  · rw [reopens.url]
    rcases safe with bare | same
    · exact .inl bare
    · rw [same]
      exact routed.url
  · rw [Connects, reopens.connects] at connects
    exact absurd connects (lt_irrefl _)

theorem restore_sound (routed : Routed base s) {d : Snapshot}
    (safe : s.url = some base ∨ d.channelId = s.channelId ∨ d.channelId = "" ∨ d.privKey = []) :
    Sound base s (after (restoreSafely d) s) := by
  have reopens := restoreSafely_reopens d s
  rcases safe with bare | named | refused
  · exact reopens.sound routed (.inl bare)
  · refine reopens.sound routed (.inr ?_)
    rcases reopens.channelId with same | other
    · exact same
    · rw [other, named]
  · have unchanged : after (restoreSafely d) s = s := by
      unfold restoreSafely restore
      rw [if_pos refused]
      rfl
    rw [unchanged]
    exact sound_of_same routed (Std.Refl.refl s)

theorem restart_sound (routed : Routed base s) : Sound base s (after restart s) := by
  -- the new object, whatever it restores
  have blank {t : Session} (options : t.options = s.options) (url : t.url = some base) (connects : t.connects = [])
      (uri : t.pairingUri = "") : Sound base s t := by
    refine ⟨⟨options ▸ routed.configured, options ▸ routed.settable, .inl url⟩, fun more => ?_, .inr (.inl uri)⟩
    rw [Connects, connects] at more
    cases more
  cases contents : s.journal.disk.contents with
  | none =>
    rw [restart_of_empty contents]
    exact blank rfl routed.configured rfl rfl
  | some d =>
    rw [restart_of_stored contents]
    have reopens := restoreSafely_reopens d s.renewed
    exact blank reopens.options (reopens.url.trans routed.configured) reopens.connects reopens.pairingUri

end Pairing

/-- A step that keeps to one channel leaves the route sound. -/
theorem step_sound (C : Crypto) {base : String} (plain : base ≠ "" ∧ includes base "?ch=" = false) {s : Session}
    {l : Inputs × Label} (routed : Routed base s) (fresh : Fresh base s l) : Sound base s (step C s l) := by
  obtain ⟨inputs, label⟩ := l
  have same : SameRoute s { s with inputs := inputs } := ⟨rfl, rfl, rfl, rfl, le_rfl⟩
  have start := routed.same same
  have route {m : M Unit} (kept : Keeps SameRoute m) : Sound base s (after m { s with inputs := inputs }) :=
    (sound_of_same start (kept _)).from_same same
  unfold step
  cases label with
  | createPairing privateKey channelId deferTransport =>
    exact (createPairing_sound C start plain fresh privateKey channelId deferTransport).from_same same
  | connectTransport => exact (connectTransport_sound start plain fresh).from_same same
  | reconnect => exact (reconnect_sound start plain fresh).from_same same
  | restore d =>
    have restored := restore_sound (d := d) start fresh
    rw [act, after_bind_pure]
    exact restored.from_same same
  | crash => exact (restart_sound start).from_same same
  | fire name =>
    by_cases reconnects : name = .reconnect
    · subst reconnects
      exact (fire_reconnect_sound start plain fresh).from_same same
    · exact route (fire_route reconnects)
  | acceptWallet =>
    exact route (.bind .get fun _ => .ite (.pure _) (.bind (route_of_drifts (record_drifts rfl)) fun _ =>
      .bind (route_modify fun _ => ⟨rfl, rfl, rfl, rfl, le_rfl⟩) fun _ => route_of_drifts doAccept_drifts))
  | rejectWallet => exact route (route_of_drifts rejectWallet_drifts)
  | request method params => exact route (route_of_drifts (request_drifts C method params))
  | ping => exact route (route_of_drifts ping_drifts)
  | close reason => exact route (route_of_drifts (close_drifts reason))
  | destroy =>
    exact route (.bind (route_of_drifts (close_drifts _)) fun _ => route_modify fun _ => ⟨rfl, rfl, rfl, rfl, le_rfl⟩)
  | message msg => exact route (handleMessage_route C msg)
  | transportClose => exact route handleTransportClose_route
  | flush ticket => exact route (route_modify fun _ => ⟨rfl, rfl, rfl, rfl, le_rfl⟩)
  | settle ticket resolves => exact route (route_of_drifts (settleCall_drifts C ticket resolves))
  | connect ticket opened => exact route (settleConnect_route ticket opened)

/-- Every step of a run that keeps to one channel is honest. -/
theorem along_hints (C : Crypto) {base : String} (plain : base ≠ "" ∧ includes base "?ch=" = false) {s : Session}
    {labels : List (Inputs × Label)} (routed : Routed base s) (fresh : Along (step C) (Fresh base) s labels) :
    Along (step C) (fun s l => Hints base s (step C s l)) s labels := by
  induction labels generalizing s with
  | nil => trivial
  | cons l rest ih =>
    have sound := step_sound C plain routed fresh.1
    exact ⟨sound.2, ih sound.1 fresh.2⟩

end DApp

namespace Wallet

/-- The step calls `transport.connect()`. -/
def Connects (s t : Session) : Prop := s.connects.length < t.connects.length

/-- When the transport is told to connect its URL is that of the relay with the channel as
the one added parameter. -/
def Hints (s t : Session) : Prop := Connects s t → t.url = withChannelHint t.relayUrl t.channelId

/-- The session has a channel, and the relay's URL carries no hint of its own. -/
def Session.Plain (s : Session) : Prop := s.channelId ≠ "" ∧ includes s.relayUrl "?ch=" = false

/-- The step connects only from a plain session. -/
def Fresh (s : Session) (l : Inputs × Label) : Prop :=
  match l.2 with
  | .confirmJoin => s.Plain ∨ s.channelId = ""
  | .reconnect => s.Plain
  | .fire .reconnect => s.Plain ∨ due l.1.now s.timers.reconnect = false ∨ s.intentionalClose = true ∨ s.phase = .closed
  | _ => True

/-! ### Steps that do not connect -/

/-- No call of `transport.connect()`. -/
def Rests (s t : Session) : Prop := t.connects.length ≤ s.connects.length

instance : Std.Refl Rests := ⟨fun _ => le_refl _⟩

instance : IsTrans Session Rests := ⟨fun _ _ _ first second => le_trans second first⟩

theorem Rests.hints {s t : Session} (rests : Rests s t) : Hints s t := fun connects => absurd connects (not_lt.mpr rests)

theorem rests_of_drifts (s t : Session) (drifts : Drifts s t) : Rests s t := by
  rcases drifts.link with same | ⟨ended, closed⟩
  · exact (congrArg (fun l => l.connects.length) same).le
  · exact (congrArg (fun l => l.connects.length) closed).le

theorem rests_modify {f : Session → Session} (same : ∀ s, Rests s (f s)) : Keeps Rests (modify f) := same

theorem drifts_rests {α : Type} {m : M α} (drifts : Keeps Drifts m) : Keeps Rests m := drifts.mono rests_of_drifts

theorem setPhase_rests (phase : Phase) : Keeps Rests (setPhase phase) := by
  intro s
  have linked := setPhase_link phase s
  split_ifs at linked <;> exact (congrArg (fun l => l.connects.length) linked).le

theorem emit_rests (event : Event) : Keeps Rests (emit event) := by
  intro s
  rw [after_emit]
  unfold Session.emitting
  split <;> exact le_refl _

theorem giveUpReconnect_rests : Keeps Rests giveUpReconnect :=
  .bind (rests_modify fun _ => le_refl _) fun _ => .bind (rests_modify fun _ => le_refl _) fun _ => .bind .get fun _ =>
    .bind (rests_modify fun _ => le_refl _) fun _ => .bind (drifts_rests clearPersistence_drifts) fun _ =>
    .bind (rests_modify fun _ => le_refl _) fun _ => .bind (emit_rests _) fun _ => setPhase_rests _

theorem scheduleReconnect_rests : Keeps Rests scheduleReconnect := by
  refine .bind .get fun _ => .ite (.pure _) (.bind (rests_modify fun s => ?_) fun _ => .bind .get fun _ =>
    .ite giveUpReconnect_rests (rests_modify fun _ => le_refl _))
  split <;> exact le_refl _

theorem startReconnect_rests : Keeps Rests startReconnect :=
  .bind .get fun _ => .bind (rests_modify fun _ => le_refl _) fun _ => .bind (setPhase_rests _) fun _ =>
    .ite (.bind (rests_modify fun _ => le_refl _) fun _ => scheduleReconnect_rests) scheduleReconnect_rests

theorem handleTransportClose_rests : Keeps Rests handleTransportClose :=
  .bind .get fun _ => .ite startReconnect_rests (.pure _)

theorem handleReady_rests (state remote : Option String) : Keeps Rests (handleReady state remote) :=
  .bind (rests_modify fun _ => le_refl _) fun _ => .bind .get fun _ => .ite
    (.ite (.bind (emit_rests _) fun _ => drifts_rests (close_drifts _))
      (.bind (rests_modify fun _ => le_refl _) fun _ => .bind (setPhase_rests _) fun _ =>
        .bind (rests_modify fun _ => le_refl _) fun _ => .bind (rests_modify fun _ => le_refl _) fun _ =>
        drifts_rests persistSnapshotAsync_drifts))
    (.ite (setPhase_rests _) (.pure _))

theorem ending_rests : Keeps Rests (do
    forgetRequests
    clearPersistence
    setPhase .closed
    modify fun s => { s with intentionalClose := true } : M Unit) :=
  .bind (rests_modify fun _ => le_refl _) fun _ => .bind (drifts_rests clearPersistence_drifts) fun _ =>
    .bind (setPhase_rests _) fun _ => rests_modify fun _ => le_refl _

theorem handleMessage_rests (C : Crypto) (msg : ProtocolMessage) : Keeps Rests (handleMessage C msg) := by
  obtain ⟨v, ch, ts, sender, body⟩ := msg
  refine .ite (emit_rests _) (.ite (drifts_rests (close_drifts _)) ?_)
  cases body with
  | ready state remote => exact handleReady_rests state remote
  | req id envelope => exact drifts_rests (handleRequest_drifts C _ _ _)
  | ping => exact drifts_rests (sendRaw_drifts _ _)
  | pong => exact rests_modify fun _ => le_refl _
  | close reason => exact .bind .get fun _ => .ite ending_rests (.pure _)
  | terminate reason => exact .bind .get fun _ => .ite (.pure _) (.ite startReconnect_rests ending_rests)
  | create dappMeta => exact .pure _
  | join sealedJoin => exact .pure _
  | accept target => exact .pure _
  | res id envelope => exact .pure _
  | evt id envelope => exact .pure _

theorem settleConnect_rests (C : Crypto) (ticket : Nat) (opened : Bool) : Keeps Rests (settleConnect C ticket opened) := by
  have join (reconnecting : Bool) : Keeps Rests (do setPhase .waitingAccept; sendJoin C reconnecting : M Unit) :=
    .bind (setPhase_rests _) fun _ => drifts_rests (sendJoin_drifts C _)
  refine .bind .get fun s => ?_
  cases s.connects.find? (fun c => c.1 == ticket) with
  | none => exact .pure _
  | some c =>
    refine .bind (rests_modify fun s => List.length_filter_le _ _) fun _ => ?_
    match c.2, opened with
    | .confirm, true => exact join false
    | .confirm, false => exact .pure _
    | .reconnect, true => exact .tryCatch (join true) fun _ => scheduleReconnect_rests
    | .reconnect, false => exact scheduleReconnect_rests

theorem fire_rests {name : TimerName} (other : name ≠ .reconnect) : Keeps Rests (fire name) := by
  refine .bind .get fun s => ?_
  cases name with
  | reconnect => exact absurd rfl other
  | heartbeat =>
    refine .ite (.bind (rests_modify fun _ => le_refl _) fun _ =>
      .ite (.bind (drifts_rests ping_drifts) fun _ => rests_modify fun s => ?_) (.pure _)) (.pure _)
    split <;> exact le_refl _
  | liveness => exact .ite (.bind (rests_modify fun _ => le_refl _) fun _ => handleTransportClose_rests) (.pure _)
  | sessionTtl =>
    exact .ite (.bind (rests_modify fun _ => le_refl _) fun _ => .bind (emit_rests _) fun _ =>
      drifts_rests (close_drifts _)) (.pure _)

theorem restoreSafely_rests (C : Crypto) (d : Snapshot) : Keeps Rests (restoreSafely C d) := by
  have remote : Keeps Rests (restoreRemote d.remotePubKeyB64) := by
    unfold restoreRemote
    split
    · exact rests_modify fun _ => le_refl _
    · split
      · exact .throw _
      · exact rests_modify fun _ => le_refl _
  exact .tryCatch (.ite (.pure _) (.bind (rests_modify fun _ => le_refl _) fun _ => .bind remote fun _ =>
    .bind (rests_modify fun _ => le_refl _) fun _ => .ite (.pure _) (.bind (rests_modify fun _ => le_refl _) fun _ =>
    .bind .get fun _ => .bind (.runExcept _) fun _ => .ite (.bind (rests_modify fun _ => le_refl _) fun _ =>
    .bind (setPhase_rests _) fun _ => .pure _) (.pure _)))) fun _ => .pure _

theorem prepareJoin_rests (C : Crypto) (parsed : PairingParams) (privateKey : Bytes) :
    Keeps Rests (prepareJoin C parsed privateKey) :=
  .bind (rests_modify fun _ => le_refl _) fun _ => .bind (.runExcept _) fun _ =>
    .bind (rests_modify fun _ => le_refl _) fun _ => .bind .get fun _ => .bind (.runExcept _) fun _ =>
    .bind (.runExcept _) fun _ => .bind (.runExcept _) fun _ => .bind (rests_modify fun _ => le_refl _) fun _ =>
    .bind (.runExcept _) fun _ => .bind (rests_modify fun _ => le_refl _) fun _ => .bind (emit_rests _) fun _ =>
    .bind (.runExcept _) fun _ => rests_modify fun _ => le_refl _

theorem restart_rests (C : Crypto) : Keeps Rests (restart C) := by
  refine .bind (rests_modify fun _ => Nat.zero_le _) fun _ => .bind .get fun s => ?_
  cases s.journal.disk.contents with
  | none => exact .pure _
  | some snapshot => exact .bind (restoreSafely_rests C snapshot) fun _ => .pure _

/-! ### Steps that connect -/

section Connecting
variable {s : Session}

/-- Pointing the transport at the relay and connecting. -/
theorem after_url_connect (settable : s.options.canSetUrl = true) (plain : s.Plain) (next : Await) :
    (do setTransportUrl; awaitConnect next : M Unit) s = .ok () { s with
      url := withChannelHint s.relayUrl s.channelId, ticket := s.ticket + 1
      connects := s.connects ++ [(s.ticket, next)] } := by
  have written : setTransportUrl s = .ok () { s with url := withChannelHint s.relayUrl s.channelId } := by
    unfold setTransportUrl
    rw [modify_apply, if_pos settable, plain.2]
    rfl
  rw [bind_of_ok written]
  rfl

theorem confirmJoin_hints (settable : s.options.canSetUrl = true) (plain : s.Plain ∨ s.channelId = "") :
    Hints s (after confirmJoin s) := by
  unfold confirmJoin
  rw [after_get_bind]
  by_cases unprepared : s.channelId = "" ∨ s.sendKey = none ∨ s.recvKey = none
  · rw [if_pos unprepared]
    exact Rests.hints (Std.Refl.refl s)
  · rw [if_neg unprepared]
    have named : s.Plain := by
      rcases plain with plain | empty
      · exact plain
      · exact absurd (.inl empty) unprepared
    rw [after_of_ok (after_url_connect settable named .confirm)]
    exact fun _ => rfl

theorem doReconnectAttempt_hints (settable : s.options.canSetUrl = true)
    (plain : s.Plain ∨ s.intentionalClose = true ∨ s.phase = .closed) :
    ∃ t, doReconnectAttempt s = .ok () t ∧ Hints s t := by
  unfold doReconnectAttempt
  rw [get_bind_apply]
  by_cases finished : s.intentionalClose = true ∨ s.phase = .closed
  · rw [if_pos finished]
    exact ⟨s, rfl, Rests.hints (Std.Refl.refl s)⟩
  · rw [if_neg finished]
    have named : s.Plain := by
      rcases plain with plain | closed
      · exact plain
      · exact absurd closed finished
    rw [if_pos named.1, after_url_connect settable named .reconnect]
    exact ⟨_, rfl, fun _ => rfl⟩

theorem fire_reconnect_hints (settable : s.options.canSetUrl = true)
    (plain : s.Plain ∨ due s.inputs.now s.timers.reconnect = false ∨ s.intentionalClose = true ∨ s.phase = .closed) :
    Hints s (after (fire .reconnect) s) := by
  unfold fire
  rw [after_get_bind]
  dsimp only
  by_cases now : due s.inputs.now s.timers.reconnect = true
  · rw [if_pos now, after_modify_bind]
    have stopped : { s with timers := s.timers.stopReconnect }.Plain ∨ s.intentionalClose = true ∨ s.phase = .closed := by
      rcases plain with plain | idle | finished
      · exact .inl plain
      · rw [now] at idle
        cases idle
      · exact .inr finished
    obtain ⟨t, run, hints⟩ := doReconnectAttempt_hints (s := { s with timers := s.timers.stopReconnect }) settable stopped
    rw [after_bind_of_ok run]
    exact hints
  · rw [if_neg now]
    exact Rests.hints (Std.Refl.refl s)

theorem reconnect_hints (settable : s.options.canSetUrl = true) (plain : s.Plain) : Hints s (after reconnect s) := by
  unfold reconnect stopReconnect
  rw [after_modify_bind, after_modify_bind]
  have linked := setPhase_link .disconnected { s with intentionalClose := false, timers := s.timers.stopReconnect }
  rw [after_bind]
  cases run : setPhase .disconnected { s with intentionalClose := false, timers := s.timers.stopReconnect } with
  | error e t =>
    have rests := setPhase_rests .disconnected { s with intentionalClose := false, timers := s.timers.stopReconnect }
    rw [after_of_error run] at rests
    exact Rests.hints rests
  | ok a t =>
    rw [after_of_ok run] at linked
    have kept : t.options = s.options ∧ t.channelId = s.channelId ∧ t.relayUrl = s.relayUrl ∧
        t.connects = s.connects := by
      split_ifs at linked <;> exact ⟨congrArg Link.options linked, congrArg Link.channelId linked,
        congrArg Link.relayUrl linked, congrArg Link.connects linked⟩
    obtain ⟨options, channelId, relayUrl, connects⟩ := kept
    dsimp only
    rw [after_modify_bind]
    have named : { t with reconnectAttempt := 0 }.Plain := by
      unfold Session.Plain
      rw [channelId, relayUrl]
      exact plain
    obtain ⟨u, run', hints⟩ := doReconnectAttempt_hints (s := { t with reconnectAttempt := 0 }) (options ▸ settable)
      (.inl named)
    rw [after_of_ok run']
    intro more
    apply hints
    unfold Connects at more ⊢
    rw [connects]
    exact more

end Connecting

theorem step_hints (C : Crypto) {s : Session} {l : Inputs × Label} (settable : s.options.canSetUrl = true)
    (fresh : Fresh s l) : Hints s (step C s l) := by
  obtain ⟨inputs, label⟩ := l
  have rest {m : M Unit} (kept : Keeps Rests m) : Hints s (after m { s with inputs := inputs }) :=
    Rests.hints (kept { s with inputs := inputs })
  unfold step
  cases label with
  | confirmJoin => exact confirmJoin_hints (s := { s with inputs := inputs }) settable fresh
  | reconnect => exact reconnect_hints (s := { s with inputs := inputs }) settable fresh
  | fire name =>
    by_cases reconnects : name = .reconnect
    · subst reconnects
      exact fire_reconnect_hints (s := { s with inputs := inputs }) settable fresh
    · exact rest (fire_rests reconnects)
  | prepareJoin parsed privateKey => exact rest (prepareJoin_rests C parsed privateKey)
  | approve id result => exact rest (drifts_rests (approve_drifts C id result))
  | reject id code message => exact rest (drifts_rests (reject_drifts C id code message false))
  | pushEvent name data => exact rest (drifts_rests (pushEvent_drifts C name data))
  | ping => exact rest (drifts_rests ping_drifts)
  | close reason => exact rest (drifts_rests (close_drifts reason))
  | destroy =>
    exact rest (.bind (drifts_rests (close_drifts _)) fun _ => .bind (rests_modify fun _ => le_refl _) fun _ =>
      .bind (rests_modify fun _ => le_refl _) fun _ => rests_modify fun _ => le_refl _)
  | restore snapshot => exact rest (.bind (restoreSafely_rests C snapshot) fun _ => .pure _)
  | message msg => exact rest (handleMessage_rests C msg)
  | transportClose => exact rest handleTransportClose_rests
  | flush ticket => exact rest (rests_modify fun _ => le_refl _)
  | settle ticket resolves => exact rest (settleCall_keeps rests_of_drifts (joinFailed_rule rests_of_drifts scheduleReconnect_rests) C ticket resolves)
  | connect ticket opened => exact rest (settleConnect_rests C ticket opened)
  | crash => exact rest (restart_rests C)

theorem along_hints (C : Crypto) {s : Session} {labels : List (Inputs × Label)} (settable : s.options.canSetUrl = true)
    (fresh : Along (step C) Fresh s labels) : Along (step C) (fun s l => Hints s (step C s l)) s labels := by
  induction labels generalizing s with
  | nil => trivial
  | cons l rest ih =>
    have next : (step C s l).options.canSetUrl = true := by
      rw [step_options]
      exact settable
    exact ⟨step_hints C settable fresh.1, ih next fresh.2⟩

end Wallet

/-! ### Both sessions -/

/-- In every run in which a URL is hinted once and for one channel, every connection is made
under the base URL with the current channel as its only added parameter, and every pairing
URI names the base URL. -/
theorem channel_hints_while_fresh (C : Crypto) :
    (∀ (base : String) (options : DApp.Options) (labels : List (Inputs × DApp.Label)),
      base ≠ "" ∧ includes base "?ch=" = false → options.url = some base → options.canSetUrl = true →
      Along (DApp.step C) (DApp.Fresh base) (DApp.Session.new options) labels →
      Along (DApp.step C) (fun s l => DApp.Hints base s (DApp.step C s l)) (DApp.Session.new options) labels) ∧
    (∀ (options : Wallet.Options) (labels : List (Inputs × Wallet.Label)), options.canSetUrl = true →
      Along (Wallet.step C) Wallet.Fresh (Wallet.Session.new options) labels →
      Along (Wallet.step C) (fun s l => Wallet.Hints s (Wallet.step C s l)) (Wallet.Session.new options) labels) := by
  constructor
  · intro base options labels plain url settable fresh
    have routed : DApp.Routed base (DApp.Session.new options) := ⟨url, settable, .inl url⟩
    exact DApp.along_hints C plain routed fresh
  · intro options labels settable fresh
    exact Wallet.along_hints C settable fresh

namespace Sample

/-- A relay without a query of its own. -/
def relay : String := "wss://relay"

def hinting : DApp.Options := { DApp.Sample.options with url := some relay, canSetUrl := true, persistence := none }

/-- A pairing that drops and connects again. -/
def reconnecting : List (Inputs × DApp.Label) :=
  (calmly [.createPairing dappKey "ab" false, .connect 0 true, .transportClose] : List (Inputs × DApp.Label)) ++
    [({ now := 9000 }, .fire .reconnect)]

/-- A second pairing on the same session. -/
def pairingAgain : List (Inputs × DApp.Label) :=
  calmly [.createPairing dappKey "ab" false, .createPairing walletKey "cd" false]

def joining : List (Inputs × Wallet.Label) := calmly [.prepareJoin pairing walletKey, .confirmJoin]

def following : Wallet.Options := { Wallet.Sample.options false with canSetUrl := true }

end Sample

theorem channel_hints_while_fresh_sample :
    (Along (DApp.step .transparent) (fun s l => DApp.Hints Sample.relay s (DApp.step .transparent s l))
        (DApp.Session.new Sample.hinting) Sample.reconnecting ∧
      (Run.run (DApp.step .transparent) (DApp.Session.new Sample.hinting) Sample.reconnecting).url =
        some "wss://relay?ch=ab") ∧
    Along (Wallet.step .transparent) (fun s l => Wallet.Hints s (Wallet.step .transparent s l))
        (Wallet.Session.new Sample.following) Sample.joining ∧
      (Run.run (Wallet.step .transparent) (Wallet.Session.new Sample.following) Sample.joining).url = "u?ch=ab" := by
  have dapp := (channel_hints_while_fresh .transparent).1 Sample.relay Sample.hinting Sample.reconnecting
    ⟨by decide, by decide⟩ rfl rfl ⟨rfl, trivial, trivial, .inr (.inl (by decide)), trivial⟩
  have named : (Run.run (Wallet.step .transparent) (Wallet.Session.new Sample.following)
      (Sample.joining.take 1)).Plain := by
    constructor <;> decide +kernel
  have wallet := (channel_hints_while_fresh .transparent).2 Sample.following Sample.joining rfl
    ⟨trivial, .inl named, trivial⟩
  exact ⟨⟨dapp, by decide +kernel⟩, wallet, by decide +kernel⟩

/-- The second pairing connects under the channel of the first one, and its URI carries the
hinted URL as the relay's. -/
theorem second_pairing_keeps_first_hint :
    let t := Run.run (DApp.step .transparent) (DApp.Session.new Sample.hinting) Sample.pairingAgain
    t.channelId = "cd" ∧ t.url = some "wss://relay?ch=ab" ∧
      t.pairingUri = buildPairingUri ⟨"cd", t.pubKeyB64, "wss://relay?ch=ab", "d", "", "", none, none⟩ ∧
      ¬ Along (DApp.step .transparent) (fun s l => DApp.Hints Sample.relay s (DApp.step .transparent s l))
        (DApp.Session.new Sample.hinting) Sample.pairingAgain := by
  refine ⟨by decide +kernel, by decide +kernel, by decide +kernel, fun honest => ?_⟩
  have wrong := honest.2.1.url (by unfold DApp.Connects; decide +kernel)
  revert wrong
  decide +kernel

end WalletPair.Sdk
