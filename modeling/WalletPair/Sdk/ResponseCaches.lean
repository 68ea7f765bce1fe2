import WalletPair.Sdk.NewPairing
import WalletPair.Sdk.Wallet.Caches

/-! The response caches of the wallet over whole runs: their limits always hold, and they hold
the most recently used ids of the pairing as long as every duplicate that is answered moves
its entry to the end. -/

namespace WalletPair.Sdk.Wallet
open WalletPair.Lib WalletPair.Lib.Program

section Runs
variable (C : Crypto)

/-- The session takes up another pairing in this step, or is another object. -/
def Label.begins (s : Session) : Label → Bool
  | .prepareJoin parsed _ => (b64urlDecode parsed.pubkey).isSome
  | .restore d => d.channelId ≠ "" && d.privKey ≠ [] && d.channelId ≠ s.channelId
  | .crash => true
  | _ => false

/-- The session ended and kept nothing. -/
def Session.forgotten (s : Session) : Bool :=
  (s.intentionalClose || s.phase = .closed) && s.pendingRequestRecords.keys.isEmpty && s.idempotencyCache.keys.isEmpty &&
    s.broadcastResponseCache.keys.isEmpty

/-- The uses of the pairing after a step from `s` to `t`. -/
def Uses.next (uses : Uses) (s : Session) (label : Label) (t : Session) : Uses :=
  if label.begins s || t.forgotten then .none else uses.also s.holds (t.trace.drop s.trace.length)

/-- A session with the uses of its caches since the pairing began. -/
structure Remembering where
  session : Session
  uses : Uses

def Remembering.step (x : Remembering) (l : Inputs × Label) : Remembering :=
  let t := Wallet.step C x.session l
  ⟨t, x.uses.next x.session l.2 t⟩

/-- The request that the step hands to the caches passes, and no other pairing is restored into
a session whose caches hold something. -/
def Smoothly (x : Remembering) (l : Inputs × Label) : Prop :=
  let s : Session := { x.session with inputs := l.1 }
  match l.2 with
  | .message msg => ∀ id envelope, msg.body = .req id envelope → msg.sender ≠ "_adapter" → msg.v = 1 →
    s.phase = .connected → s.fromRemote msg.sender = true → s.AdmitsFrame C msg.sender id envelope
  | .settle ticket ok => ok = true → ∀ call ∈ s.journal.find ticket, call.durable = true → ∀ frame data prevRecvSeq,
    call.task = .request frame data prevRecvSeq → s.Admits C frame.id data frame.plaintext
  | .restore d => Label.begins s (.restore d) = true → s.idempotencyCache.keys = [] ∧ s.broadcastResponseCache.keys = []
  | _ => True

variable {smooth : Prop} {uses : Uses} {origin s : Session}

/-- Restoring writes neither the books nor the record nor the queue. -/
theorem restoreSafely_keeps {I : Session → Prop} (field : ∀ f : Session → Session,
      (∀ s, (f s).requestBooks = s.requestBooks ∧ (f s).trace = s.trace ∧ (f s).journal = s.journal) →
      Keeps (Preserve I) (modify f : M Unit))
    (opens : Keeps (Preserve I) (setPhase .connected)) (d : Snapshot) : Keeps (Preserve I) (restoreSafely C d) := by
  have remote : Keeps (Preserve I) (restoreRemote d.remotePubKeyB64) := by
    unfold restoreRemote
    split
    · exact field _ fun _ => ⟨rfl, rfl, rfl⟩
    · split
      · exact .throw _
      · exact field _ fun _ => ⟨rfl, rfl, rfl⟩
  exact .tryCatch (.ite (.pure _) (.bind (field _ fun _ => ⟨rfl, rfl, rfl⟩) fun _ => .bind remote fun _ =>
    .bind (field _ fun _ => ⟨rfl, rfl, rfl⟩) fun _ => .ite (.pure _) (.bind (field _ fun _ => ⟨rfl, rfl, rfl⟩)
    fun _ => .bind .get fun _ => .bind (.runExcept _) fun _ => .ite (.bind (field _ fun _ => ⟨rfl, rfl, rfl⟩) fun _ =>
    .bind opens fun _ => .pure _) (.pure _)))) fun _ => .pure _

theorem restoreSafely_tracks (d : Snapshot) :
    Keeps (Preserve (Tracks False smooth uses origin)) (restoreSafely C d) :=
  restoreSafely_keeps C (fun _ same => modify_tracks (fun s => (same s).1) (fun s => (same s).2.1) (fun s => (same s).2.2)
    fun _ no => no.elim) (setPhase_tracks fun no => no.elim) d

/-- The limits hold in a session, and its caches hold what their uses make them hold. -/
structure Sound (smooth : Prop) (uses : Uses) (s : Session) : Prop where
  bounded : Bounded s
  exact : smooth → Exact uses s

theorem Sound.tracks (h : Sound smooth uses s) (inputs : Inputs) :
    Tracks False smooth uses s { s with inputs := inputs } := by
  refine ⟨h.bounded.besides rfl fun _ member => member, fun fine => ⟨[], by simp, .inl ?_⟩⟩
  rw [also_nil]
  exact (h.exact fine).besides rfl

/-- Nothing was used yet. -/
theorem exact_none {t : Session} (idempotency : t.idempotencyCache.keys = []) (broadcast : t.broadcastResponseCache.keys = []) :
    Exact .none t := by
  refine ⟨?_, ?_, fun id _ => ?_⟩
  · rw [idempotency]
    rfl
  · rw [broadcast]
    rfl
  · rw [idempotency, broadcast]
    exact ⟨List.not_mem_nil, List.not_mem_nil⟩

/-- A step inside a pairing. -/
theorem step_tracks {x : Remembering} {l : Inputs × Label} (h : Sound smooth x.uses x.session) (fine : smooth → Smoothly C x l)
    (stays : l.2.begins x.session = false) : Tracks True smooth x.uses x.session (Wallet.step C x.session l) := by
  obtain ⟨inputs, label⟩ := l
  have start := h.tracks inputs
  have kept := start.may fun _ => trivial
  have quiet {m : M Unit} (rest : Keeps (Preserve (Tracks False smooth x.uses x.session)) m) :
      Tracks True smooth x.uses x.session (after m { x.session with inputs := inputs }) :=
    (rest _ start).may fun _ => trivial
  unfold Wallet.step
  cases label with
  | prepareJoin parsed privateKey =>
    have fails : b64urlDecode parsed.pubkey = none := by simpa [Label.begins] using stays
    have stopped : after (prepareJoin C parsed privateKey) { x.session with inputs := inputs } =
        { x.session with
          inputs := inputs, intentionalClose := false, staleBelow := x.session.ticket, channelId := parsed.ch } := by
      unfold prepareJoin
      rw [after_modify_bind, fails]
      rfl
    change Tracks True smooth x.uses x.session (after (prepareJoin C parsed privateKey) { x.session with inputs := inputs })
    rw [stopped]
    have failed : Tracks False smooth x.uses x.session
        { x.session with
          inputs := inputs, intentionalClose := false, staleBelow := x.session.ticket, channelId := parsed.ch } :=
      start.besides rfl rfl (fun _ member => member) fun no => no.elim
    exact failed.may fun _ => trivial
  | confirmJoin => exact quiet confirmJoin_tracks
  | approve id result => exact approve_tracks C id result _ kept
  | reject id code message => exact reject_tracks C id code message false _ kept
  | pushEvent name data => exact pushEvent_tracks C name data _ kept
  | ping => exact quiet (.bind .get fun _ => .ite (sendRaw_tracks _ _) (.pure _))
  | close reason => exact close_tracks reason start
  | destroy => exact destroy_tracks start
  | restore d => exact quiet (.bind (restoreSafely_tracks C d) fun _ => .pure _)
  | reconnect => exact quiet reconnect_tracks
  | message msg => exact handleMessage_tracks C start (fun _ => rfl) fun run => fine run
  | transportClose => exact handleTransportClose_tracks start
  | fire name => exact fire_tracks name start
  | flush ticket =>
    have flushed : Tracks False smooth x.uses x.session
        { x.session with inputs := inputs, journal := x.session.journal.flush ticket } :=
      start.besides rfl rfl (deferred_flush x.session ticket) fun no => no.elim
    exact flushed.may fun _ => trivial
  | settle ticket resolves => exact settleCall_tracks C start (fun _ => rfl) fun run => fine run
  | connect ticket opened => exact settleConnect_tracks C ticket opened start
  | crash => cases stays

/-- The limits hold, and the books are these. -/
structure Booked (books : RequestBooks) (s : Session) : Prop where
  bounded : Bounded s
  books : s.requestBooks = books

theorem Booked.besides {books : RequestBooks} {t : Session} (h : Booked books s) (same : t.requestBooks = s.requestBooks)
    (queued : t.journal = s.journal) : Booked books t := by
  refine ⟨h.bounded.besides same fun d member => ?_, same.trans h.books⟩
  unfold Session.deferred at member ⊢
  rw [queued] at member
  exact member

theorem emit_booked (event : Event) (books : RequestBooks) : Keeps (Preserve (Booked books)) (emit event) := by
  intro s h
  rw [after_emit]
  unfold Session.emitting
  split
  · exact h
  · exact h.besides rfl rfl

theorem restoreSafely_booked (d : Snapshot) (books : RequestBooks) : Keeps (Preserve (Booked books)) (restoreSafely C d) :=
  restoreSafely_keeps C (fun _ same s h => h.besides (same s).1 (same s).2.2)
    (.bind .get fun _ => .ite (.pure _) (.bind (.modify fun _ h => h.besides rfl rfl) fun _ => emit_booked _ _)) d

theorem establishKeys_booked (remote privateKey : Bytes) (books : RequestBooks) :
    Keeps (Preserve (Booked books)) (establishKeys C remote privateKey) :=
  .bind .get fun _ => .bind (.runExcept _) fun _ => .bind (.runExcept _) fun _ => .bind (.runExcept _) fun _ =>
    .bind (.modify fun _ h => h.besides rfl rfl) fun _ => .bind (.runExcept _) fun _ =>
    .bind (.modify fun _ h => h.besides rfl rfl) fun _ => .bind (emit_booked _ _) fun _ => .bind (.runExcept _) fun _ =>
    .modify fun _ h => h.besides rfl rfl

/-- A step that begins a pairing leaves caches that nothing was used in. -/
theorem step_begins {x : Remembering} {l : Inputs × Label} (h : Sound smooth x.uses x.session) (fine : smooth → Smoothly C x l)
    (begins : l.2.begins x.session = true) : Sound smooth .none (Wallet.step C x.session l) := by
  obtain ⟨inputs, label⟩ := l
  have start : Bounded { x.session with inputs := inputs } := (h.tracks inputs).bounded
  have blank {t : Session} (booked : Booked ⟨.empty, .empty, .empty⟩ t) : Sound smooth .none t := by
    have idempotency : t.idempotencyCache = .empty := congrArg RequestBooks.idempotency booked.books
    have broadcast : t.broadcastResponseCache = .empty := congrArg RequestBooks.broadcast booked.books
    exact ⟨booked.bounded, fun _ => exact_none (idempotency ▸ rfl) (broadcast ▸ rfl)⟩
  unfold Wallet.step
  cases label with
  | prepareJoin parsed privateKey =>
    obtain ⟨remote, known⟩ : ∃ remote, b64urlDecode parsed.pubkey = some remote := Option.isSome_iff_exists.mp begins
    have prepared : after (prepareJoin C parsed privateKey) { x.session with inputs := inputs } = after (do
        resetJoin C parsed remote privateKey
        establishKeys C remote privateKey : M Unit)
          { x.session with
          inputs := inputs, intentionalClose := false, staleBelow := x.session.ticket, channelId := parsed.ch } := by
      unfold prepareJoin
      rw [after_modify_bind, known]
      rfl
    change Sound smooth .none (after (prepareJoin C parsed privateKey) { x.session with inputs := inputs })
    rw [prepared]
    unfold resetJoin
    rw [after_modify_bind]
    refine blank (establishKeys_booked C remote privateKey _ _ ⟨?_, rfl⟩)
    exact ⟨Nat.zero_le _, Nat.zero_le _, Nat.zero_le _, List.not_mem_nil, List.not_mem_nil, List.not_mem_nil, start.queued⟩
  | restore d =>
    have restored : Keeps (Preserve (Booked x.session.requestBooks)) (act C (.restore d)) :=
      .bind (restoreSafely_booked C d _) fun _ => .pure _
    have booked := restored { x.session with inputs := inputs } ⟨start, rfl⟩
    refine ⟨booked.bounded, fun run => ?_⟩
    obtain ⟨idempotency, broadcast⟩ := fine run begins
    exact exact_none ((congrArg (fun b => b.idempotency.keys) booked.books).trans idempotency)
      ((congrArg (fun b => b.broadcast.keys) booked.books).trans broadcast)
  | crash =>
    change Sound smooth .none (after (restart C) { x.session with inputs := inputs })
    have reborn : Booked ⟨.empty, .empty, .empty⟩ (Session.renewed { x.session with inputs := inputs }) := by
      refine ⟨⟨Nat.zero_le _, Nat.zero_le _, Nat.zero_le _, List.not_mem_nil, List.not_mem_nil, List.not_mem_nil, ?_⟩, rfl⟩
      intro d member
      cases member
    apply blank
    cases contents : x.session.journal.disk.contents with
    | none =>
      rw [restart_of_empty C (s := { x.session with inputs := inputs }) contents]
      exact reborn
    | some snapshot =>
      rw [restart_of_stored C (s := { x.session with inputs := inputs }) contents]
      exact restoreSafely_booked C snapshot _ _ reborn
  | _ => cases begins

/-- Every step keeps the limits, and every smooth one keeps what the caches hold. -/
theorem step_sound {x : Remembering} {l : Inputs × Label} (h : Sound smooth x.uses x.session) (fine : smooth → Smoothly C x l) :
    Sound smooth (x.step C l).uses (x.step C l).session := by
  unfold Remembering.step Uses.next
  dsimp only
  cases begins : l.2.begins x.session with
  | true =>
    rw [Bool.true_or, if_pos rfl]
    exact step_begins C h fine begins
  | false =>
    have tracked := step_tracks C h fine begins
    rw [Bool.false_or]
    refine ⟨tracked.bounded, fun run => ?_⟩
    obtain ⟨new, grown, exact | ⟨-, forgotten⟩⟩ := tracked.exact run
    · by_cases empty : (Wallet.step C x.session l).forgotten = true
      · rw [if_pos empty]
        simp only [Session.forgotten, Bool.and_eq_true, List.isEmpty_iff] at empty
        exact exact_none empty.1.2 empty.2
      · rw [if_neg empty, grown, List.drop_left]
        exact exact
    · have empty : (Wallet.step C x.session l).forgotten = true := by
        have ended := forgotten.finished
        unfold Session.Over at ended
        simp [Session.forgotten, forgotten.pending, forgotten.idempotency, forgotten.broadcast, ended]
      rw [if_pos empty]
      exact exact_none forgotten.idempotency forgotten.broadcast

theorem run_sound {x : Remembering} (labels : List (Inputs × Label)) (h : Sound smooth x.uses x.session)
    (fine : smooth → Run.Along (Remembering.step C) (Smoothly C) x labels) :
    Sound smooth (Run.run (Remembering.step C) x labels).uses (Run.run (Remembering.step C) x labels).session := by
  induction labels generalizing x with
  | nil => exact h
  | cons l rest ih => exact ih (step_sound C h fun run => (fine run).1) fun run => (fine run).2

/-- The sessions of a run that remembers its uses are those of the run. -/
theorem run_session (x : Remembering) (labels : List (Inputs × Label)) :
    (Run.run (Remembering.step C) x labels).session = Run.run (Wallet.step C) x.session labels := by
  induction labels generalizing x with
  | nil => rfl
  | cons l rest ih => exact ih (x.step C l)

theorem sound_new (options : Options) : Sound smooth .none (Session.new options) := by
  refine ⟨⟨Nat.zero_le _, Nat.zero_le _, Nat.zero_le _, List.not_mem_nil, List.not_mem_nil, List.not_mem_nil, ?_⟩,
    fun _ => exact_none rfl rfl⟩
  intro d member
  cases member

/-! ### The caches of the wallet -/

/-- In every run the caches and the pending requests stay within their limits, and the eviction
loops end. As long as every step is a smooth one, the caches hold exactly the most recently
used of the ids of the pairing, in the order of their last use. -/
theorem response_caches_bounded (C : Crypto) :
    (∀ (limit fuel : Nat) (m : OrderedMap CachedRequestResponse), m.size ≤ fuel → evict limit fuel m = evict limit m.size m) ∧
    (∀ (options : Options) (labels : List (Inputs × Label)),
      (Run.run (Wallet.step C) (Session.new options) labels).idempotencyCache.size ≤ idempotencyCacheLimit ∧
      (Run.run (Wallet.step C) (Session.new options) labels).broadcastResponseCache.size ≤ broadcastCacheLimit ∧
      (Run.run (Wallet.step C) (Session.new options) labels).pendingRequestRecords.size ≤ maxPendingRequests) ∧
    (∀ (options : Options) (labels : List (Inputs × Label)),
      Run.Along (Remembering.step C) (Smoothly C) ⟨Session.new options, .none⟩ labels →
      (Run.run (Wallet.step C) (Session.new options) labels).idempotencyCache.keys = mostRecent idempotencyCacheLimit
        (Run.run (Remembering.step C) ⟨Session.new options, .none⟩ labels).uses.responses ∧
      (Run.run (Wallet.step C) (Session.new options) labels).broadcastResponseCache.keys = mostRecent broadcastCacheLimit
        (Run.run (Remembering.step C) ⟨Session.new options, .none⟩ labels).uses.broadcasts) := by
  refine ⟨fun limit fuel m enough => evict_ends limit fuel m enough, fun options labels => ?_, fun options labels along => ?_⟩
  · have sound := run_sound C (x := ⟨Session.new options, .none⟩) labels (sound_new options) fun no : False => no.elim
    rw [run_session] at sound
    exact ⟨sound.bounded.idempotency, sound.bounded.broadcast, sound.bounded.pending⟩
  · have sound := run_sound C (x := ⟨Session.new options, .none⟩) labels (sound_new options) fun _ : True => along
    have exact := sound.exact trivial
    rw [run_session] at exact
    exact ⟨exact.responses, exact.broadcasts⟩

end Runs

/-! ### Runs that can be tried -/

/-- Whether a duplicate with this id and hash is smooth. -/
def Session.smoothNow (s : Session) (id paramsHash : String) : Bool :=
  match s.broadcastResponseCache.get id with
  | some cached => !constantTimeEqual cached.paramsHash paramsHash || decide (s.broadcastResponseCache.keys.getLast? = some id)
  | none =>
    match s.idempotencyCache.get id with
    | some cached => !constantTimeEqual cached.paramsHash paramsHash || !cached.tooLarge
    | none => true

theorem Session.smoothNow_smooth {s : Session} {id paramsHash : String} (now : s.smoothNow id paramsHash = true) :
    s.Smooth id paramsHash := by
  unfold Session.smoothNow at now
  constructor
  · intro cached found equal
    simpa [found, equal] using now
  · intro missed cached found equal
    simpa [missed, found, equal] using now

/-- A condition on a step that can be evaluated, and makes it smooth. -/
def Remembering.smoothNow (C : Crypto) (x : Remembering) (l : Inputs × Label) : Bool :=
  match l.2 with
  | .message msg =>
    match msg.body with
    | .req id envelope =>
      match nonEmpty id, nonEmpty envelope, x.session.recvKey with
      | some name, some text, some recvKey =>
        match unsealPayload C recvKey x.session.channelId text ⟨.req, msg.sender, name⟩ with
        | .ok opened => x.session.smoothNow name (sha256Hex C opened.plaintext)
        | .error _ => true
      | _, _, _ => true
    | _ => true
  | .settle _ ok => !ok
  | .restore d => !Label.begins x.session (.restore d)
  | _ => true

theorem Remembering.smoothNow_smoothly {C : Crypto} {x : Remembering} {l : Inputs × Label}
    (now : x.smoothNow C l = true) : Smoothly C x l := by
  obtain ⟨inputs, label⟩ := l
  unfold Remembering.smoothNow at now
  cases label with
  | message msg =>
    intro id envelope body _ _ _ _ name text recvKey opened named shown keyed opens _ _ method _ _
    have keyed' : x.session.recvKey = some recvKey := keyed
    have opens' : unsealPayload C recvKey x.session.channelId text ⟨.req, msg.sender, name⟩ = .ok opened := opens
    dsimp only at now
    rw [body] at now
    dsimp only at now
    rw [named, shown, keyed'] at now
    dsimp only at now
    rw [opens'] at now
    exact Session.smoothNow_smooth (s := { x.session with inputs := inputs }) now
  | settle ticket ok =>
    intro resolves
    rw [resolves] at now
    cases now
  | restore d =>
    intro begins
    have begins' : Label.begins x.session (.restore d) = true := begins
    dsimp only at now
    rw [begins'] at now
    cases now
  | _ => trivial

namespace Sample

/-- A wallet that grants signatures and transactions, and keeps no storage. -/
def sendingOptions : Options :=
  { capabilities := .obj [("methods", .arr [.str "wallet_signMessage", .str "wallet_sendTransaction"]), ("events", .arr []),
      ("chains", .arr [])]
    walletMeta := none, canSetUrl := false, persistence := none }

/-- A request as the dApp of the sample pairing seals it. -/
def asking (method id : String) (seq : Nat) : Inputs × Label :=
  ({}, .message ⟨1, Sdk.Sample.pairing.ch, 0, b64urlEncode Sdk.Sample.dappKey, .req (some id)
    (match sealPayload .transparent Sdk.Sample.dappToWalletKey Sdk.Sample.pairing.ch seq
        (.obj [("_method", .str method), ("id", .str id)]) ⟨.req, b64urlEncode Sdk.Sample.dappKey, id⟩ with
      | .ok (envelope, _) => some envelope
      | .error _ => none)⟩)

def joining : List (Inputs × Label) := [({}, .prepareJoin Sdk.Sample.pairing Sdk.Sample.walletKey), ({}, .confirmJoin),
  ({ nonce := List.replicate 12 0 }, .connect 0 true), ({}, .message (Sdk.Sample.ready Sdk.Sample.dappKey))]

/-- The wallet joins, and its user approves two signatures and a transaction. -/
def approving : List (Inputs × Label) :=
  joining ++ [asking "wallet_signMessage" "a" 0, ({}, .approve "a" none), asking "wallet_signMessage" "b" 1,
    ({}, .approve "b" none), asking "wallet_sendTransaction" "c" 2, ({}, .approve "c" none)]

/-- The dApp asks once more for the first signature, and for the transaction. -/
def repeating : List (Inputs × Label) := [asking "wallet_signMessage" "a" 3, asking "wallet_sendTransaction" "c" 4]

/-- The snapshot of another pairing, without keys. -/
def another : Snapshot := ⟨"cd", [1], "", none, none, none, none, none, "u", none, none, none, none⟩

end Sample

theorem approving_facts :
    ((Run.run (Wallet.step .transparent) (Session.new Sample.sendingOptions) Sample.approving).idempotencyCache.keys =
        ["a", "b", "c"] ∧
      (Run.run (Wallet.step .transparent) (Session.new Sample.sendingOptions)
        (Sample.approving ++ Sample.repeating)).idempotencyCache.keys = ["b", "c", "a"] ∧
      Run.Along (Remembering.step .transparent) (fun x l => x.smoothNow .transparent l = true)
        ⟨Session.new Sample.sendingOptions, .none⟩ (Sample.approving ++ Sample.repeating)) ∧
    "a" ∈ (Run.run (Wallet.step .transparent) (Session.new Sample.sendingOptions)
      (Sample.approving ++ [(({} : Inputs), .restore Sample.another)])).idempotencyCache.keys ∧
    (Run.run (Remembering.step .transparent) ⟨Session.new Sample.sendingOptions, .none⟩
      (Sample.approving ++ [(({} : Inputs), .restore Sample.another)])).uses.responses = [] := by
  decide +kernel

theorem response_caches_bounded_sample :
    (Run.run (Wallet.step .transparent) (Session.new Sample.sendingOptions) Sample.approving).idempotencyCache.keys =
        ["a", "b", "c"] ∧
      (Run.run (Wallet.step .transparent) (Session.new Sample.sendingOptions)
        (Sample.approving ++ Sample.repeating)).idempotencyCache.keys = ["b", "c", "a"] ∧
      (Run.run (Wallet.step .transparent) (Session.new Sample.sendingOptions)
        (Sample.approving ++ Sample.repeating)).idempotencyCache.keys = mostRecent idempotencyCacheLimit
          (Run.run (Remembering.step .transparent) ⟨Session.new Sample.sendingOptions, .none⟩
            (Sample.approving ++ Sample.repeating)).uses.responses := by
  obtain ⟨⟨approved, repeated, smooth⟩, -⟩ := approving_facts
  have smoothly := smooth.mono fun _ _ => Remembering.smoothNow_smoothly
  exact ⟨approved, repeated, ((response_caches_bounded .transparent).2.2 Sample.sendingOptions _ smoothly).1⟩

/-- A wallet that restores another pairing keeps the responses of the earlier one. -/
theorem restored_pairing_keeps_responses :
    "a" ∈ (Run.run (Wallet.step .transparent) (Session.new Sample.sendingOptions)
      (Sample.approving ++ [(({} : Inputs), .restore Sample.another)])).idempotencyCache.keys ∧
    (Run.run (Remembering.step .transparent) ⟨Session.new Sample.sendingOptions, .none⟩
      (Sample.approving ++ [(({} : Inputs), .restore Sample.another)])).uses.responses = [] :=
  approving_facts.2

end WalletPair.Sdk.Wallet
