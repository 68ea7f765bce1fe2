import WalletPair.Lib.Channel
import WalletPair.Sdk.DApp.Deliveries
import WalletPair.Sdk.Wallet.Deliveries

/-! Both sessions of one pairing over a relay that may drop, delay, repeat, reorder, change
and invent frames. Under an ideal AEAD each direction of the pairing is a channel that keeps
the order and may lose frames, whatever the relay does and wherever either process dies. -/

namespace WalletPair.Sdk
open WalletPair.Lib

/-- What the peer delivers when it takes this frame. -/
def Sealed.delivery (frame : Sealed) : Delivery :=
  ⟨frame.key, frame.seq, frame.header.type, frame.header.id, frame.plaintext⟩

/-- The two sessions of a pairing. -/
structure Peers where
  dapp : DApp.Session
  wallet : Wallet.Session

namespace Peers

inductive Label where
  | dapp (l : Inputs × DApp.Label)
  | wallet (l : Inputs × Wallet.Label)

/-- How the two sides set a pairing up. -/
structure Setup where
  dapp : DApp.Options
  wallet : Wallet.Options
  inputs : Inputs
  dappKey : Bytes
  walletKey : Bytes
  channelId : String
  deferTransport : Bool
  parsed : PairingParams
  -- `parsePairingUri` refuses other keys
  decodes : b64urlDecode parsed.pubkey ≠ none

/-- Both sides save their counters. -/
def Setup.Saved (u : Setup) : Prop := u.dapp.persistence ≠ none ∧ u.wallet.persistence ≠ none

/-- Both sessions after `createPairing` and `prepareJoin`. -/
def start (C : Crypto) (u : Setup) : Peers :=
  ⟨DApp.step C (.new u.dapp) (u.inputs, .createPairing u.dappKey u.channelId u.deferTransport),
    Wallet.step C (.new u.wallet) (u.inputs, .prepareJoin u.parsed u.walletKey)⟩

def step (C : Crypto) (p : Peers) : Label → Peers
  | .dapp l => { p with dapp := DApp.step C p.dapp l }
  | .wallet l => { p with wallet := Wallet.step C p.wallet l }

/-- Everything that was sealed, on either side. -/
def sealedFrames (p : Peers) : List Sealed := p.dapp.sealedFrames ++ p.wallet.sealedFrames

/-- The direction from the dApp to the wallet. -/
def requests (p : Peers) : Channel Delivery := ⟨p.dapp.sealedFrames.map Sealed.delivery, p.wallet.deliveries⟩

/-- The direction from the wallet to the dApp. -/
def answers (p : Peers) : Channel Delivery := ⟨p.wallet.sealedFrames.map Sealed.delivery, p.dapp.deliveries⟩

end Peers

/-- What this envelope opens to under this key and header, if it opens, was sealed with the
same key, number and header. -/
def Genuine (C : Crypto) (frames : List Sealed) (key : Option Bytes) (channelId envelope : String)
    (header : AadHeader) : Prop :=
  match key with
  | none => True
  | some key =>
    match unsealPayload C key channelId envelope header with
    | .error _ => True
    | .ok opened => ∃ frame ∈ frames, frame.key = key ∧ frame.seq = opened.seq ∧ frame.channelId = channelId ∧
        frame.header = header ∧ frame.plaintext = opened.plaintext

instance (C : Crypto) (frames : List Sealed) (key : Option Bytes) (channelId envelope : String) (header : AadHeader) :
    Decidable (Genuine C frames key channelId envelope header) := by
  unfold Genuine
  split
  · infer_instance
  · split <;> infer_instance

/-- An ideal AEAD for the frame that arrives: it opens only to what one of the two sessions
sealed. -/
def Peers.Authentic (C : Crypto) (p : Peers) : Peers.Label → Prop
  | .dapp (_, .message ⟨_, _, _, sender, .res (some id) (some envelope)⟩) =>
    Genuine C p.sealedFrames p.dapp.recvKey p.dapp.channelId envelope ⟨.res, sender, id⟩
  | .dapp (_, .message ⟨_, _, _, sender, .evt (some id) (some envelope)⟩) =>
    Genuine C p.sealedFrames p.dapp.recvKey p.dapp.channelId envelope ⟨.evt, sender, id⟩
  | .wallet (_, .message ⟨_, _, _, sender, .req (some id) (some envelope)⟩) =>
    Genuine C p.sealedFrames p.wallet.recvKey p.wallet.channelId envelope ⟨.req, sender, id⟩
  | _ => True

/-- The step stays inside the pairing, and no receive is taken back in it. -/
def Peers.Regular (p : Peers) : Peers.Label → Prop
  | .dapp l => DApp.InPairing p.dapp l ∧ DApp.Unfailing p.dapp l
  | .wallet l => Wallet.InPairing p.wallet l ∧ Wallet.Unfailing p.wallet l

instance (C : Crypto) (p : Peers) (l : Peers.Label) : Decidable (p.Authentic C l) := by
  unfold Peers.Authentic
  split <;> infer_instance

instance (p : Peers) (l : Peers.Label) : Decidable (p.Regular l) := by
  unfold Peers.Regular
  split <;> infer_instance

/-! ### The invariant -/

namespace Peers
variable {C : Crypto} {p : Peers}

/-- The delivery is of a frame that is among these. -/
def SealedIn (frames : List Sealed) (d : Delivery) : Prop := ∃ frame ∈ frames, frame.delivery = d

/-- Each side numbers what it seals, seals only its own types, and delivers in order what the
other side sealed. -/
structure Linked (p : Peers) : Prop where
  dappSaved : p.dapp.options.persistence ≠ none
  walletSaved : p.wallet.options.persistence ≠ none
  dappNumbered : p.dapp.Numbered .new .outbound
  walletNumbered : p.wallet.Numbered .new .outbound
  dappSeals : p.dapp.SealsRequests
  walletSeals : p.wallet.SealsAnswers
  dappOrdered : p.dapp.Ordered (SealedIn p.wallet.sealedFrames)
  walletOrdered : p.wallet.Ordered (SealedIn p.dapp.sealedFrames)

theorem sealedIn_later {frames more : List Sealed} (grown : ∀ frame ∈ frames, frame ∈ more) {d : Delivery}
    (known : SealedIn frames d) : SealedIn more d :=
  ⟨known.choose, grown _ known.choose_spec.1, known.choose_spec.2⟩

/-- What a genuine frame opens to was sealed by the side that seals frames of its type. -/
theorem sealedIn_of_genuine {frames side : List Sealed} {key : Bytes} {channelId envelope : String}
    {header : AadHeader} {opened : Unsealed} (genuine : Genuine C frames (some key) channelId envelope header)
    (read : unsealPayload C key channelId envelope header = .ok opened)
    (typed : ∀ frame ∈ frames, frame.header.type = header.type → frame ∈ side) :
    SealedIn side ⟨key, opened.seq, header.type, header.id, opened.plaintext⟩ := by
  simp only [Genuine, read] at genuine
  obtain ⟨frame, mem, sameKey, sameSeq, -, sameHeader, sameText⟩ := genuine
  have here : frame ∈ side := typed frame mem (congrArg AadHeader.type sameHeader)
  exact ⟨frame, here, by rw [Sealed.delivery, sameKey, sameSeq, sameHeader, sameText]⟩

/-- A response or an event that opens was sealed by the wallet. -/
theorem dapp_opens (linked : Linked p) (inputs : Inputs) {msg : ProtocolMessage}
    (authentic : p.Authentic C (.dapp (inputs, .message msg))) :
    DApp.Receives.OpensAt C (DApp.Task.Knows (SealedIn p.wallet.sealedFrames)) p.dapp msg := by
  have answers (type : AadType) (other : type ≠ .req) :
      ∀ frame ∈ p.sealedFrames, frame.header.type = type → frame ∈ p.wallet.sealedFrames := by
    intro frame mem same
    rcases List.mem_append.mp mem with mine | theirs
    · exact absurd (same.symm.trans (linked.dappSeals frame mine)) other
    · exact theirs
  obtain ⟨v, ch, ts, sender, body⟩ := msg
  constructor
  · intro id envelope pending recvKey opened shape _ keyed read _ d receipt
    cases shape
    cases receipt
    have genuine : Genuine C p.sealedFrames (some recvKey) p.dapp.channelId envelope ⟨.res, sender, id⟩ :=
      keyed ▸ authentic
    exact sealedIn_of_genuine genuine read (answers .res nofun)
  · intro id envelope recvKey opened shape keyed read _ d receipt
    cases shape
    cases receipt
    have genuine : Genuine C p.sealedFrames (some recvKey) p.dapp.channelId envelope ⟨.evt, sender, id⟩ :=
      keyed ▸ authentic
    exact sealedIn_of_genuine genuine read (answers .evt nofun)

/-- A request that opens was sealed by the dApp. -/
theorem wallet_opens (linked : Linked p) (inputs : Inputs) {msg : ProtocolMessage}
    (authentic : p.Authentic C (.wallet (inputs, .message msg))) :
    Wallet.Receives.OpensAt C (Wallet.Task.Knows (SealedIn p.dapp.sealedFrames)) p.wallet msg := by
  have asks : ∀ frame ∈ p.sealedFrames, frame.header.type = .req → frame ∈ p.dapp.sealedFrames := by
    intro frame mem same
    rcases List.mem_append.mp mem with theirs | mine
    · exact theirs
    · exact absurd same (linked.walletSeals frame mine)
  obtain ⟨v, ch, ts, sender, body⟩ := msg
  intro id envelope recvKey opened shape keyed read _ d receipt
  cases shape
  cases receipt
  have genuine : Genuine C p.sealedFrames (some recvKey) p.wallet.channelId envelope ⟨.req, sender, id⟩ :=
    keyed ▸ authentic
  exact sealedIn_of_genuine genuine read asks

theorem Linked.next (linked : Linked p) {l : Label} (authentic : p.Authentic C l) (regular : p.Regular l) :
    Linked (p.step C l) := by
  cases l with
  | dapp l =>
    have ordered := DApp.step_ordered C regular.1 regular.2 linked.dappSaved (fun msg shape =>
      dapp_opens linked l.1 (by rw [← shape]; exact authentic)) linked.dappOrdered
    exact { linked with
      dappSaved := by
        change (DApp.step C p.dapp l).options.persistence ≠ none
        rw [DApp.step_options]
        exact linked.dappSaved
      dappNumbered := DApp.step_numbered C regular.1 (fun _ _ _ => Origin.new_owns _) linked.dappSaved linked.dappNumbered
      dappSeals := DApp.step_requests C regular.1 linked.dappSeals
      dappOrdered := ordered
      walletOrdered := linked.walletOrdered.mono fun d known => sealedIn_later (fun _ => DApp.sealed_later C) known }
  | wallet l =>
    have ordered := Wallet.step_ordered C regular.1 regular.2 linked.walletSaved (fun msg shape =>
      wallet_opens linked l.1 (by rw [← shape]; exact authentic)) linked.walletOrdered
    exact { linked with
      walletSaved := by
        change (Wallet.step C p.wallet l).options.persistence ≠ none
        rw [Wallet.step_options]
        exact linked.walletSaved
      walletNumbered := Wallet.step_numbered C regular.1 (fun _ _ _ => Origin.new_owns _) linked.walletSaved linked.walletNumbered
      walletSeals := Wallet.step_answers C regular.1 linked.walletSeals
      walletOrdered := ordered
      dappOrdered := linked.dappOrdered.mono fun d known => sealedIn_later (fun _ => Wallet.sealed_later C) known }

theorem linked_start (C : Crypto) {u : Setup} (saved : u.Saved) : Linked (start C u) where
  dappSaved := by
    simp only [start, DApp.step_options]
    exact saved.1
  walletSaved := by
    simp only [start, Wallet.step_options]
    exact saved.2
  dappNumbered := DApp.createPairing_numbered C rfl rfl (DApp.run_queued C _ []) rfl Journal.Every.fresh _ _ _ _
  walletNumbered := Wallet.prepareJoin_numbered C rfl rfl (Wallet.run_queued C _ []) rfl Journal.Every.fresh _ u.decodes _
  dappSeals := DApp.createPairing_requests C _ _ _ _ _
  walletSeals := Wallet.prepareJoin_answers C _ _ _ _
  dappOrdered := DApp.createPairing_ordered C _ _ _ _ _
  walletOrdered := Wallet.prepareJoin_ordered C _ _ u.decodes _

/-- The steps of both sides inside one pairing, with an ideal AEAD. -/
def Admits (C : Crypto) (p : Peers) (l : Label) : Prop := p.Authentic C l ∧ p.Regular l

instance (C : Crypto) (p : Peers) (l : Label) : Decidable (p.Admits C l) := instDecidableAnd

theorem linked_run (linked : Linked p) {labels : List Label} (admitted : Run.Along (step C) (Admits C) p labels) :
    Linked (Run.run (step C) p labels) :=
  Run.invariant (fun _ _ ok held => held.next ok.1 ok.2) admitted linked

/-! ### Two channels -/

theorem ascending_deliveries {numbers : List Nat} {items : List Delivery} (ascends : numbers.Pairwise (· < ·))
    (same : items.map Delivery.seq = numbers) : Channel.Ascending Delivery.seq items := by
  rw [← same, List.pairwise_map] at ascends
  exact ascends

theorem Linked.requests_sound (linked : Linked p) : Channel.Sound Delivery.seq p.requests where
  sent := by
    have ascends := linked.dappNumbered.inTurn.sublist (List.sublist_append_left _ _)
    exact ascending_deliveries ascends (by simp [requests, Function.comp_def, Sealed.delivery, DApp.Session.books, DApp.Session.used, Origin.new])
  received := by
    have ascends := linked.walletOrdered.numbered.inTurn.sublist (List.sublist_append_left _ _)
    exact ascending_deliveries ascends rfl
  known := fun d mem => by
    obtain ⟨frame, here, rfl⟩ := linked.walletOrdered.knows.delivered d mem
    exact List.mem_map_of_mem here

theorem Linked.answers_sound (linked : Linked p) : Channel.Sound Delivery.seq p.answers where
  sent := by
    have ascends := linked.walletNumbered.inTurn.sublist (List.sublist_append_left _ _)
    exact ascending_deliveries ascends (by simp [answers, Function.comp_def, Sealed.delivery, Wallet.Session.books, Wallet.Session.used, Origin.new])
  received := by
    have ascends := linked.dappOrdered.numbered.inTurn.sublist (List.sublist_append_left _ _)
    exact ascending_deliveries ascends rfl
  known := fun d mem => by
    obtain ⟨frame, here, rfl⟩ := linked.dappOrdered.knows.delivered d mem
    exact List.mem_map_of_mem here

/-- What was sealed and what was delivered stays. -/
theorem grew_step (C : Crypto) (p : Peers) (l : Label) :
    Channel.Grew p.requests (p.step C l).requests ∧ Channel.Grew p.answers (p.step C l).answers := by
  cases l with
  | dapp l =>
    have grown := (DApp.grows_rules p.dapp.trace).step C (s := p.dapp) (l := l) List.prefix_rfl
    exact ⟨⟨(grown.filterMap _).map _, List.prefix_rfl⟩, ⟨List.prefix_rfl, grown.filterMap _⟩⟩
  | wallet l =>
    have grown := (Wallet.grows_rules p.wallet.trace).step C (s := p.wallet) (l := l) List.prefix_rfl
    exact ⟨⟨List.prefix_rfl, grown.filterMap _⟩, ⟨(grown.filterMap _).map _, List.prefix_rfl⟩⟩

theorem grew_run (C : Crypto) (p : Peers) (labels : List Label) :
    Channel.Grew p.requests (Run.run (step C) p labels).requests ∧
      Channel.Grew p.answers (Run.run (step C) p labels).answers := by
  induction labels generalizing p with
  | nil => exact ⟨.refl _, .refl _⟩
  | cons l rest ih =>
    obtain ⟨requests, answers⟩ := grew_step C p l
    exact ⟨requests.trans (ih _).1, answers.trans (ih _).2⟩

end Peers

/-- Over every run of a pairing, crashes on both sides included, each direction goes through
the states of an ordered lossy channel: what a side delivers is what the other side sealed,
in order, each frame at most once. -/
theorem pairing_refines_channels (C : Crypto) (u : Peers.Setup) (saved : u.Saved) (first second : List Peers.Label)
    (admitted : Run.Along (Peers.step C) (Peers.Admits C) (Peers.start C u) (first ++ second)) (p q : Peers)
    (here : p = Run.run (Peers.step C) (Peers.start C u) first) (later : q = Run.run (Peers.step C) p second) :
    (Channel.Reaches Delivery.seq ⟨[], []⟩ p.requests ∧ Channel.Reaches Delivery.seq p.requests q.requests ∧
      p.wallet.deliveries.Sublist (p.dapp.sealedFrames.map Sealed.delivery)) ∧
    (Channel.Reaches Delivery.seq ⟨[], []⟩ p.answers ∧ Channel.Reaches Delivery.seq p.answers q.answers ∧
      p.dapp.deliveries.Sublist (p.wallet.sealedFrames.map Sealed.delivery)) := by
  obtain ⟨before, after⟩ := Run.along_append.mp admitted
  have linked : Peers.Linked p := here ▸ Peers.linked_run (Peers.linked_start C saved) before
  have linkedLater : Peers.Linked q := later ▸ Peers.linked_run linked (here ▸ after)
  have grew := Peers.grew_run C p second
  rw [← later] at grew
  exact ⟨⟨Channel.reaches_iff.mpr linked.requests_sound, linkedLater.requests_sound.reached grew.1,
      linked.requests_sound.sublist⟩,
    Channel.reaches_iff.mpr linked.answers_sound, linkedLater.answers_sound.reached grew.2, linked.answers_sound.sublist⟩

/-! ### A request, its replay, and its response after a crash -/

namespace Sample

def setup : Peers.Setup :=
  ⟨DApp.Sample.options, Wallet.Sample.options true, {}, dappKey, walletKey, "ab", false, pairing, by decide +kernel⟩

def dappSteps (labels : List (Inputs × DApp.Label)) : List Peers.Label := labels.map .dapp

def walletSteps (labels : List (Inputs × Wallet.Label)) : List Peers.Label := labels.map .wallet

/-- A response of the wallet with this id, result and number. -/
def response (id : String) (result : Json) (seq : Nat) : ProtocolMessage := ⟨1, "ab", 0, b64urlEncode walletKey,
  .res (some id) (envelope walletToDappKey walletKey .res id seq (.obj [("_ok", .bool true), ("_result", result)]))⟩

/-- Both sides pair, the dApp makes a request, and the wallet takes it once although the
relay repeats it. -/
def asked : List Peers.Label :=
  dappSteps (DApp.Sample.pairing ++
    (calmly [.request "m" none, .flush 4, .settle 4 true] : List (Inputs × DApp.Label))) ++
  walletSteps (Wallet.Sample.pairing ++ (calmly [.message (request "req-1" "m" 0), .flush 3, .settle 3 true,
    .message (request "req-1" "m" 0)] : List (Inputs × Wallet.Label)))

/-- The wallet approves the request and dies; the dApp takes the response. -/
def answered : List Peers.Label :=
  walletSteps (calmly [.approve "req-1" (some (.str "ok")), .flush 4, .settle 4 true, .crash]) ++
  dappSteps (calmly [.message (response "req-1" (.str "ok") 0), .flush 5, .settle 5 true])

def whenAsked : Peers := Run.run (Peers.step .transparent) (Peers.start .transparent setup) asked

def whenAnswered : Peers := Run.run (Peers.step .transparent) whenAsked answered

end Sample

theorem exchange_facts :
    Run.Along (Peers.step .transparent) (Peers.Admits .transparent) (Peers.start .transparent Sample.setup)
      (Sample.asked ++ Sample.answered) ∧
    Sample.whenAsked.wallet.deliveries.map Delivery.seq = [0] ∧
    Sample.whenAnswered.dapp.deliveries.map Delivery.seq = [0] := by
  decide +kernel

theorem pairing_refines_channels_sample :
    Sample.whenAsked.wallet.deliveries.map Delivery.seq = [0] ∧
    Sample.whenAnswered.dapp.deliveries.map Delivery.seq = [0] ∧
    Channel.Reaches Delivery.seq Sample.whenAsked.requests Sample.whenAnswered.requests ∧
    Channel.Reaches Delivery.seq Sample.whenAsked.answers Sample.whenAnswered.answers := by
  obtain ⟨admitted, taken, resolved⟩ := exchange_facts
  obtain ⟨requests, answers⟩ := pairing_refines_channels .transparent Sample.setup ⟨by decide, by decide⟩ Sample.asked
    Sample.answered admitted Sample.whenAsked Sample.whenAnswered rfl rfl
  exact ⟨taken, resolved, requests.2.1, answers.2.1⟩

end WalletPair.Sdk
