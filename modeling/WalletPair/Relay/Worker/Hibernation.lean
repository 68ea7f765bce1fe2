import WalletPair.Relay.Worker.Lifetime

/-! A run with evictions next to the run without them. Storage brings back every field but
the channel id, which only a listed socket with a role or the next upgrade can tell. The
two objects therefore stay the same up to that field, and up to fields that are still to
be loaded, as long as no handler stops before it saves and no event needs the id while it
is missing. -/

namespace WalletPair.Relay.Worker
open WalletPair.Lib.Program WalletPair.Lib.Run WalletPair.Sdk

variable {τ : Type} {name : String}

/-! ### The two objects -/

/-- The fields of an object that may have been evicted, next to those of one that was
not: nothing is lost, everything is still to be loaded, or only the channel is unknown. -/
def Kin (m own : Memory) : Prop := m = own ∨ m = {} ∨ m = { own with channelId := none }

/-- The second object is the first but for its fields. -/
def Resembles (a b : ChannelDO τ) : Prop := ∃ m inputs, b = { a with toMemory := m, inputs } ∧ Kin m a.toMemory

/-- Nothing has happened to the object yet. -/
structure Untouched (s : ChannelDO τ) : Prop where
  sockets : s.sockets = []
  stored : s.stored = none
  alarm : s.alarm = none
  memory : s.toMemory = {} ∨ s.toMemory = { initialized := true }

/-- Storage and the name of the object tell its fields. -/
structure Restorable (name : String) (s : ChannelDO τ) : Prop where
  memory : s.toMemory = { s.recovered with initialized := true, channelId := some name }
  dapp : s.dappPeerId ≠ some ""

theorem Restorable.awake {s : ChannelDO τ} (restorable : Restorable name s) : s.initialized = true :=
  congrArg Memory.initialized restorable.memory

theorem Restorable.channel {s : ChannelDO τ} (restorable : Restorable name s) : s.channelId = some name :=
  congrArg Memory.channelId restorable.memory

theorem Restorable.same {s t : ChannelDO τ} (restorable : Restorable name s) (memory : t.toMemory = s.toMemory)
    (stored : t.stored = s.stored) : Restorable name t := by
  have recovered : t.recovered = s.recovered := by
    unfold ChannelDO.recovered
    rw [stored]
  refine ⟨?_, ?_⟩
  · rw [memory, recovered]
    exact restorable.memory
  · rw [congrArg Memory.dappPeerId memory]
    exact restorable.dapp

theorem Restorable.woken {s : ChannelDO τ} (restorable : Restorable name s) : s.woken = s := by
  unfold ChannelDO.woken
  rw [if_pos restorable.awake]

/-- Storage has the fields as soon as they are saved. -/
theorem recovered_of_stored {s : ChannelDO τ} (stored : s.stored = some s.toMemory.toPersisted)
    (dapp : s.dappPeerId ≠ some "") :
    s.recovered = { s.toMemory with initialized := false, channelId := none } := by
  unfold ChannelDO.recovered
  rw [stored]
  have back : nonEmpty (some (s.dappPeerId.getD "")) = s.dappPeerId := by
    cases present : s.dappPeerId with
    | none => rfl
    | some peer =>
      rw [present] at dapp
      simp only [Option.getD_some, nonEmpty]
      rw [if_neg fun empty => dapp (congrArg some empty)]
  simp only [Memory.load, Memory.toPersisted, back]

/-- What a handler settles for can be restored, unless the answer to a join threw. -/
theorem Restorable.settles {threw : Prop} {s t : ChannelDO τ} (restorable : Restorable name s)
    (settles : Settles threw s t) (answered : ¬ threw) : Restorable name t := by
  cases settles with
  | kept memory stored alarm => exact restorable.same memory stored
  | saved stored channelId initialized dapp alarm =>
    have valid : t.dappPeerId ≠ some "" := by
      rcases dapp with same | ⟨sender, valid, same⟩
      · rw [same]
        exact restorable.dapp
      · rw [same]
        simpa using valid
    refine ⟨?_, valid⟩
    have awake := initialized.trans restorable.awake
    have channel := channelId.trans restorable.channel
    rw [recovered_of_stored stored valid]
    rw [← awake, ← channel]
  | halted stopped => exact absurd stopped answered

theorem woken_of_empty (s : ChannelDO τ) :
    ({ s with toMemory := {} } : ChannelDO τ).woken =
      { s with toMemory := { s.recovered with initialized := true, channelId := s.attachedChannel } } := by
  unfold ChannelDO.woken ChannelDO.recovered
  cases s.stored with
  | none =>
    simp only [nonEmpty, Bool.false_eq_true, if_false, if_true, Option.or_none, Option.orElse_eq_orElse,
      Option.orElse_eq_or]
    rfl
  | some stored =>
    simp only [nonEmpty, Bool.false_eq_true, if_false, if_true, Option.or_none, Option.orElse_eq_orElse,
      Option.orElse_eq_or]
    rfl

/-- Waking up makes the two objects the same, unless the channel stays unknown. -/
theorem woken_of_restorable {s : ChannelDO τ} {m : Memory} (sound : Sound name s) (restorable : Restorable name s)
    (kin : Kin m s.toMemory) :
    ({ s with toMemory := m } : ChannelDO τ).woken = s ∨
      ({ s with toMemory := m } : ChannelDO τ).knowsChannel = false ∧
        ({ s with toMemory := m } : ChannelDO τ).woken = { s with channelId := none } := by
  rcases kin with rfl | rfl | rfl
  · exact Or.inl restorable.woken
  · rw [woken_of_empty]
    cases found : s.attachedChannel with
    | none =>
      right
      refine ⟨?_, ?_⟩
      · have attached : ({ s with toMemory := {} } : ChannelDO τ).attachedChannel = none := found
        simp [ChannelDO.knowsChannel, attached, nonEmpty]
      · rw [restorable.memory]
    | some ch =>
      left
      rw [attachedChannel_of_sound sound found, ← restorable.memory]
  · right
    have awake : ({ s with channelId := none } : ChannelDO τ).initialized = true := restorable.awake
    refine ⟨?_, ?_⟩
    · simp [ChannelDO.knowsChannel, nonEmpty, restorable.awake]
    · unfold ChannelDO.woken
      exact if_pos awake

theorem kin_of_untouched {s : ChannelDO τ} {m : Memory} (memory : s.toMemory = {} ∨ s.toMemory = { initialized := true })
    (kin : Kin m s.toMemory) : m = {} ∨ m = { initialized := true } := by
  rcases kin with rfl | rfl | rfl
  · exact memory
  · exact Or.inl rfl
  · rcases memory with empty | awake
    · rw [empty]
      exact Or.inl rfl
    · rw [awake]
      exact Or.inr rfl

/-- Waking up before anything is stored or attached. -/
theorem woken_of_blank {s : ChannelDO τ} {m : Memory} (stored : s.stored = none) (attached : s.attachedChannel = none)
    (blank : m = {} ∨ m = { initialized := true }) :
    ({ s with toMemory := m } : ChannelDO τ).woken = { s with toMemory := { initialized := true } } := by
  rcases blank with rfl | rfl
  · rw [woken_of_empty]
    simp [ChannelDO.recovered, stored, attached]
  · rfl

/-! ### Events -/

/-- The channel cares for the role that the lost socket carries. -/
def ChannelDO.Heeds (s : ChannelDO τ) (id : Nat) : Prop :=
  ∃ attachment, s.attachment id = some attachment ∧
    (s.channelState = .pendingAccept ∨ s.channelState = .waiting ∧ attachment.role = .dapp)

/-- The object without a socket whose close event is about to be handled. -/
def ChannelDO.parting (s : ChannelDO τ) (id : Nat) (listed : Bool) : ChannelDO τ :=
  { s with sockets := s.sockets.modify id (Socket.gone listed) }

theorem parting_sound {s : ChannelDO τ} (sound : Sound name s) (id : Nat) (listed : Bool) :
    Sound name (s.parting id listed) :=
  updateSocket_sound id (fun _ sound => sound.gone listed) s sound

theorem Resembles.refl (s : ChannelDO τ) : Resembles s s := ⟨s.toMemory, s.inputs, rfl, Or.inl rfl⟩

/-- Two objects of which the second only lacks the channel. -/
theorem Resembles.unknown (s : ChannelDO τ) : Resembles s { s with channelId := none } :=
  ⟨_, s.inputs, rfl, Or.inr (Or.inr rfl)⟩

/-- What holds between the two runs, and of the one without evictions. -/
structure Mirrors (name : String) (a b : ChannelDO τ) : Prop where
  resembles : Resembles a b
  plain : Untouched a ∨ Restorable name a ∧ name ≠ ""

theorem disconnect_mirrors {s : ChannelDO τ} {m : Memory} {id : Nat} {listed : Bool} (sound : Sound name s)
    (plain : Untouched s ∨ Restorable name s ∧ name ≠ "") (kin : Kin m s.toMemory)
    (recoverable : (({ s with toMemory := m } : ChannelDO τ).noticing id listed).Heeds id →
      (({ s with toMemory := m } : ChannelDO τ).parting id listed).knowsChannel = true) :
    Mirrors name (after (disconnect id listed) s)
      (after (disconnect id listed) ({ s with toMemory := m } : ChannelDO τ)) := by
  rw [after_disconnect, after_disconnect]
  rcases plain with untouched | ⟨restorable, valid⟩
  · -- there is no socket to lose
    have blank := kin_of_untouched untouched.memory kin
    have gone : (s.parting id listed).attachedChannel = none := by
      simp [ChannelDO.parting, ChannelDO.attachedChannel, untouched.sockets]
    have first : s.noticing id listed = { s.parting id listed with toMemory := { initialized := true } } :=
      woken_of_blank (s := s.parting id listed) untouched.stored gone untouched.memory
    have second : ({ s with toMemory := m } : ChannelDO τ).noticing id listed =
        { s.parting id listed with toMemory := { initialized := true } } :=
      woken_of_blank (s := s.parting id listed) untouched.stored gone blank
    rw [first, second]
    have none : ({ s.parting id listed with toMemory := { initialized := true } } : ChannelDO τ).attachment id = none := by
      simp [ChannelDO.parting, ChannelDO.attachment, untouched.sockets]
    have kept : ({ s.parting id listed with toMemory := { initialized := true } } : ChannelDO τ).losing id =
        { s.parting id listed with toMemory := { initialized := true } } := by
      unfold ChannelDO.losing
      rw [none]
    rw [kept]
    refine ⟨.refl _, Or.inl ⟨?_, untouched.stored, untouched.alarm, Or.inr rfl⟩⟩
    simp [ChannelDO.parting, untouched.sockets]
  · have parted : Restorable name (s.parting id listed) := restorable.same rfl rfl
    have first : s.noticing id listed = s.parting id listed := parted.woken
    have settles : Settles False (s.parting id listed) ((s.parting id listed).losing id) := losing_settles _ id
    have kept : Restorable name ((s.parting id listed).losing id) := parted.settles settles not_false
    rcases woken_of_restorable (m := m) (parting_sound sound id listed) parted kin with same | ⟨unknown, same⟩
    · have second : ({ s with toMemory := m } : ChannelDO τ).noticing id listed = s.parting id listed := same
      rw [first, second]
      exact ⟨.refl _, Or.inr ⟨kept.same rfl rfl, valid⟩⟩
    · have second : ({ s with toMemory := m } : ChannelDO τ).noticing id listed =
          { s.parting id listed with channelId := none } := same
      rw [second] at recoverable
      have careless : ¬ (s.parting id listed).Misses id := by
        rintro ⟨-, missed⟩
        have knows := recoverable missed
        cases knows.symm.trans unknown
      have lost : ({ s.parting id listed with channelId := none } : ChannelDO τ).losing id =
          { s.parting id listed with channelId := none } := by
        apply losing_of_not_misses
        rintro ⟨known, -⟩
        exact known rfl
      rw [first, second, losing_of_not_misses careless, lost]
      exact ⟨.unknown _, Or.inr ⟨parted.same rfl rfl, valid⟩⟩

/-- An upgrade that reaches the object, once it is awake. -/
def ChannelDO.welcoming (s : ChannelDO τ) (ch : String) : ChannelDO τ :=
  if s.channelId = none then { s with channelId := some ch } else s

theorem after_fetch {websocket : Bool} {ch : Option String} {s : ChannelDO τ}
    (routed : handleWebSocket websocket ch = some name) :
    after (fetch websocket ch) s =
      ({ s with sockets := s.sockets ++ [{}] } : ChannelDO τ).woken.welcoming name := by
  unfold handleWebSocket at routed
  split_ifs at routed with upgrade
  unfold fetch
  rw [if_neg (by simp [upgrade]), routed]
  dsimp only
  simp only [after_modify_bind, ensureInitialized, after_pure]
  rfl

theorem name_ne_empty {websocket : Bool} {ch : Option String} (routed : handleWebSocket websocket ch = some name) :
    name ≠ "" := by
  unfold handleWebSocket at routed
  split_ifs at routed
  obtain ⟨present, -⟩ := Option.filter_eq_some_iff.mp routed
  intro empty
  rw [empty] at present
  exact nonEmpty_ne_empty ch present

/-- An upgrade tells the object its channel. -/
theorem fetch_mirrors {websocket : Bool} {ch : Option String} {s : ChannelDO τ} {m : Memory} (sound : Sound name s)
    (plain : Untouched s ∨ Restorable name s ∧ name ≠ "") (kin : Kin m s.toMemory)
    (routed : handleWebSocket websocket ch = some name) :
    Mirrors name (after (fetch websocket ch) s) (after (fetch websocket ch) ({ s with toMemory := m } : ChannelDO τ)) := by
  rw [after_fetch routed, after_fetch routed]
  have valid := name_ne_empty routed
  rcases plain with untouched | ⟨restorable, -⟩
  · have blank := kin_of_untouched untouched.memory kin
    have bare : ({ s with sockets := s.sockets ++ [{}] } : ChannelDO τ).attachedChannel = none := by
      simp [ChannelDO.attachedChannel, untouched.sockets, nonEmpty]
    have first : ({ s with sockets := s.sockets ++ [{}] } : ChannelDO τ).woken =
        { s with sockets := s.sockets ++ [{}], toMemory := { initialized := true } } :=
      woken_of_blank (s := { s with sockets := s.sockets ++ [{}] }) untouched.stored bare untouched.memory
    have second : ({ s with sockets := s.sockets ++ [{}], toMemory := m } : ChannelDO τ).woken =
        { s with sockets := s.sockets ++ [{}], toMemory := { initialized := true } } :=
      woken_of_blank (s := { s with sockets := s.sockets ++ [{}] }) untouched.stored bare blank
    rw [first, second]
    refine ⟨.refl _, Or.inr ⟨⟨?_, by rintro ⟨⟩⟩, valid⟩⟩
    simp [ChannelDO.welcoming, ChannelDO.recovered, untouched.stored]
  · have accepted : Restorable name ({ s with sockets := s.sockets ++ [{}] } : ChannelDO τ) := restorable.same rfl rfl
    have soundAccepted : Sound name ({ s with sockets := s.sockets ++ [{}] } : ChannelDO τ) := by
      refine ⟨sound.own, sound.channel, fun socket mem => ?_⟩
      rcases List.mem_append.mp mem with old | new
      · exact sound.sockets socket old
      · rw [List.mem_singleton.mp new]
        exact ⟨fun _ => rfl, by rintro a ⟨⟩⟩
    have welcome : ({ s with sockets := s.sockets ++ [{}] } : ChannelDO τ).welcoming name =
        { s with sockets := s.sockets ++ [{}] } := by
      unfold ChannelDO.welcoming
      exact if_neg (by simp [restorable.channel])
    rw [accepted.woken, welcome]
    have second : (({ s with sockets := s.sockets ++ [{}], toMemory := m } : ChannelDO τ).woken).welcoming name =
        { s with sockets := s.sockets ++ [{}] } := by
      rcases woken_of_restorable (m := m) soundAccepted accepted kin with same | ⟨-, same⟩
      · exact (congrArg (ChannelDO.welcoming · name) same).trans welcome
      · refine (congrArg (ChannelDO.welcoming · name) same).trans ?_
        unfold ChannelDO.welcoming
        rw [if_pos rfl]
        have channel := restorable.channel
        change ({ s with sockets := s.sockets ++ [{}], channelId := some name } : ChannelDO τ) = _
        rw [← channel]
    rw [second]
    exact ⟨.refl _, Or.inr ⟨accepted, valid⟩⟩

theorem alarm_mirrors {s : ChannelDO τ} {m : Memory} (sound : Sound name s) (restorable : Restorable name s)
    (valid : name ≠ "") (kin : Kin m s.toMemory)
    (knows : ({ s with toMemory := m } : ChannelDO τ).knowsChannel = true) :
    Mirrors name (after alarm s) (after alarm ({ s with toMemory := m } : ChannelDO τ)) := by
  have same : ({ s with toMemory := m } : ChannelDO τ).woken = s := by
    rcases woken_of_restorable sound restorable kin with same | ⟨unknown, -⟩
    · exact same
    · cases knows.symm.trans unknown
  have known : nonEmpty s.channelId = some name := by
    rw [restorable.channel]
    simp [nonEmpty, valid]
  rw [after_alarm, after_alarm, restorable.woken, same, known]
  dsimp only
  obtain ⟨memory, stored, alarm⟩ := tellingAll_fields s.getWebSockets (terminate name .timeout s.inputs.now) s
  have told : Restorable name (s.tellingAll s.getWebSockets (terminate name .timeout s.inputs.now)) :=
    restorable.same memory stored
  have settles : Settles False (s.tellingAll s.getWebSockets (terminate name .timeout s.inputs.now))
      (s.tellingAll s.getWebSockets (terminate name .timeout s.inputs.now)).closing.saving :=
    .saving (by rw [congrArg Memory.channelId memory, known]; simp) rfl rfl (Or.inl rfl) (by rintro ⟨⟩)
  exact ⟨.refl _, Or.inr ⟨told.settles settles not_false, valid⟩⟩

variable [Wire τ]

/-- What the object does with a message once it is awake. -/
def heedMessage (id : Nat) (message : Incoming τ) : M τ Unit := do
  let s ← get
  match message with
  | .binary => reject id (s.channelId.getD "unknown") .protocolError
  | .text raw =>
    match readText raw with
    | .error reason => reject id (s.channelId.getD "unknown") reason
    | .ok msg => routeMessage id msg raw

theorem after_webSocketMessage (id : Nat) (message : Incoming τ) (s : ChannelDO τ) :
    after (webSocketMessage id message) s = after (heedMessage id message) s.woken := rfl

theorem heedMessage_restorable {s : ChannelDO τ} {id : Nat} {message : Incoming τ} (restorable : Restorable name s)
    (answered : ∀ raw msg, message = .text raw → readText raw = .ok msg →
      s.answersCreate id msg ∧ s.answersJoin id msg) :
    Restorable name (after (heedMessage id message) s) := by
  unfold heedMessage
  rw [after_get_bind]
  cases message with
  | binary =>
    dsimp only
    rw [after_reject]
    exact restorable.same rfl rfl
  | text raw =>
    dsimp only
    cases read : readText raw with
    | error reason =>
      dsimp only
      rw [after_reject]
      exact restorable.same rfl rfl
    | ok msg =>
      obtain ⟨named, valid⟩ := readText_ok read
      obtain ⟨create, join⟩ := answered raw msg rfl read
      exact restorable.settles (routeMessage_settles named valid create) (not_not.mpr join)

/-- A message for another channel is refused, whether or not the object knows its own. -/
theorem heedMessage_of_other {s : ChannelDO τ} {id : Nat} {raw : τ} {msg : ClientMessage}
    (read : readText raw = .ok msg) (other : some msg.channelId ≠ s.channelId) :
    after (heedMessage id (.text raw)) s = s.telling id (terminate msg.channelId .protocolError s.inputs.now) := by
  unfold heedMessage
  rw [after_get_bind]
  simp only [read]
  unfold routeMessage
  rw [after_get_bind, if_pos other, after_reject]

theorem webSocketMessage_mirrors {s : ChannelDO τ} {m : Memory} {id : Nat} {message : Incoming τ} (sound : Sound name s)
    (restorable : Restorable name s) (valid : name ≠ "") (kin : Kin m s.toMemory)
    (recoverable : ({ s with toMemory := m } : ChannelDO τ).knowsChannel = true ∨
      ∃ raw msg, message = .text raw ∧ readText raw = .ok msg ∧ msg.channelId ≠ name)
    (answered : ∀ raw msg, message = .text raw → readText raw = .ok msg →
      ({ s with toMemory := m } : ChannelDO τ).woken.answersCreate id msg ∧
        ({ s with toMemory := m } : ChannelDO τ).woken.answersJoin id msg) :
    Mirrors name (after (webSocketMessage id message) s)
      (after (webSocketMessage id message) ({ s with toMemory := m } : ChannelDO τ)) := by
  rw [after_webSocketMessage, after_webSocketMessage, restorable.woken]
  rcases woken_of_restorable sound restorable kin with same | ⟨unknown, same⟩
  · rw [same] at answered ⊢
    exact ⟨.refl _, Or.inr ⟨heedMessage_restorable restorable answered, valid⟩⟩
  · rcases recoverable with knows | ⟨raw, msg, rfl, read, other⟩
    · cases knows.symm.trans unknown
    · rw [same, heedMessage_of_other read (by simpa [restorable.channel] using other),
        heedMessage_of_other read (Option.some_ne_none _)]
      exact ⟨.unknown _, Or.inr ⟨restorable.same rfl rfl, valid⟩⟩

/-! ### Runs -/

/-- What the event needs is there or can be brought back: the answers to a create and to a
join do not throw, and the object knows its channel when it handles a message (unless that
names another channel), loses a socket that matters, or is woken by its alarm. -/
structure Recoverable (s : ChannelDO τ) (e : Inputs × Event τ) : Prop where
  answered : ∀ id msg, e.2.accepted = some (id, msg) →
    ({ s with inputs := e.1 } : ChannelDO τ).woken.answersCreate id msg ∧
      ({ s with inputs := e.1 } : ChannelDO τ).woken.answersJoin id msg
  message : ∀ id message, e.2 = .message id message → s.canSend id = true →
    s.knowsChannel = true ∨ ∃ raw msg, message = .text raw ∧ readText raw = .ok msg ∧ msg.channelId ≠ s.name
  ended : ∀ id listed, e.2.ended = some (id, listed) → (s.noticing id listed).Heeds id →
    (s.parting id listed).knowsChannel = true
  alarm : e.2 = .alarm → ({ s with inputs := e.1 } : ChannelDO τ).alarmDue = true → s.knowsChannel = true

omit [Wire τ] in
theorem heeds_inputs (s : ChannelDO τ) (inputs : Inputs) {id : Nat} {listed : Bool} :
    (({ s with inputs } : ChannelDO τ).noticing id listed).Heeds id ↔ (s.noticing id listed).Heeds id := by
  have same : ({ s with inputs } : ChannelDO τ).noticing id listed = { s.noticing id listed with inputs } := by
    unfold ChannelDO.noticing ChannelDO.woken
    dsimp only
    split <;> rfl
  rw [same]
  exact Iff.rfl

omit [Wire τ] in
theorem Untouched.inputs {s : ChannelDO τ} (untouched : Untouched s) (inputs : Inputs) :
    Untouched ({ s with inputs } : ChannelDO τ) :=
  ⟨untouched.sockets, untouched.stored, untouched.alarm, untouched.memory⟩

omit [Wire τ] in
/-- Nothing can come from a socket that does not exist. -/
theorem canSend_of_untouched {s : ChannelDO τ} (untouched : Untouched s) (id : Nat) : s.canSend id = false := by
  simp [ChannelDO.canSend, untouched.sockets]

omit [Wire τ] in
theorem Resembles.kept {s : ChannelDO τ} {m : Memory} (kin : Kin m s.toMemory) :
    Resembles s ({ s with toMemory := m } : ChannelDO τ) := ⟨m, s.inputs, rfl, kin⟩

/-- One event in both runs. -/
theorem step_mirrors {s : ChannelDO τ} {m : Memory} {before inputs : Inputs} {event : Event τ} (sound : Sound name s)
    (plain : Untouched s ∨ Restorable name s ∧ name ≠ "") (kin : Kin m s.toMemory) (remains : event ≠ .evict)
    (recoverable : Recoverable ({ s with toMemory := m, inputs := before } : ChannelDO τ) (inputs, event)) :
    Mirrors name (step s (inputs, event))
      (step ({ s with toMemory := m, inputs := before } : ChannelDO τ) (inputs, event)) := by
  have start : Sound name ({ s with inputs } : ChannelDO τ) := ⟨sound.own, sound.channel, sound.sockets⟩
  have plain : Untouched ({ s with inputs } : ChannelDO τ) ∨
      Restorable name ({ s with inputs } : ChannelDO τ) ∧ name ≠ "" := by
    rcases plain with untouched | ⟨restorable, valid⟩
    · exact Or.inl (untouched.inputs inputs)
    · exact Or.inr ⟨restorable.same rfl rfl, valid⟩
  have idle : Mirrors name ({ s with inputs } : ChannelDO τ) ({ s with inputs, toMemory := m } : ChannelDO τ) :=
    ⟨.kept (s := { s with inputs }) kin, plain⟩
  have ended : ∀ id listed, event.ended = some (id, listed) →
      Mirrors name (after (disconnect id listed) ({ s with inputs } : ChannelDO τ))
        (after (disconnect id listed) ({ s with inputs, toMemory := m } : ChannelDO τ)) := by
    intro id listed ends
    apply disconnect_mirrors start plain kin
    intro heeds
    exact recoverable.ended id listed ends ((heeds_inputs { s with toMemory := m, inputs := before } inputs).mp heeds)
  unfold step
  cases event with
  | upgrade websocket ch =>
    change Mirrors name (after (act (.upgrade websocket ch)) ({ s with inputs } : ChannelDO τ))
      (after (act (.upgrade websocket ch)) ({ s with inputs, toMemory := m } : ChannelDO τ))
    unfold act
    rw [after_get_bind, after_get_bind]
    dsimp only
    split
    · rename_i routed
      rw [after_bind_pure, after_bind_pure]
      exact fetch_mirrors start plain kin (routed.trans (congrArg some sound.own))
    · exact idle
  | message id message =>
    change Mirrors name (after (act (.message id message)) ({ s with inputs } : ChannelDO τ))
      (after (act (.message id message)) ({ s with inputs, toMemory := m } : ChannelDO τ))
    unfold act
    rw [after_get_bind, after_get_bind]
    have same : ({ s with inputs, toMemory := m } : ChannelDO τ).canSend id =
        ({ s with inputs } : ChannelDO τ).canSend id := rfl
    rw [same]
    split
    · rename_i sends
      rcases plain with untouched | ⟨restorable, valid⟩
      · rw [canSend_of_untouched untouched] at sends
        cases sends
      · apply webSocketMessage_mirrors start restorable valid kin
        · have known := recoverable.message id message rfl sends
          rw [show ({ s with toMemory := m, inputs := before } : ChannelDO τ).name = name from sound.own] at known
          exact known
        · rintro raw msg rfl read
          exact recoverable.answered id msg (by simp [Event.accepted, read, Except.toOption])
    · exact idle
  | hangUp id =>
    rcases plain with untouched | ⟨restorable, valid⟩
    · refine ⟨⟨m, inputs, rfl, kin⟩, Or.inl ⟨?_, untouched.stored, untouched.alarm, untouched.memory⟩⟩
      have none : s.sockets = [] := untouched.sockets
      change s.sockets.modify id Socket.close = []
      simp [none]
    · exact ⟨⟨m, inputs, rfl, kin⟩, Or.inr ⟨restorable.same rfl rfl, valid⟩⟩
  | close id listed => exact ended id listed rfl
  | error id listed => exact ended id listed rfl
  | alarm =>
    change Mirrors name (after (act .alarm) ({ s with inputs } : ChannelDO τ))
      (after (act .alarm) ({ s with inputs, toMemory := m } : ChannelDO τ))
    unfold act
    rw [after_get_bind, after_get_bind]
    have same : ({ s with inputs, toMemory := m } : ChannelDO τ).alarmDue =
        ({ s with inputs } : ChannelDO τ).alarmDue := rfl
    rw [same]
    split
    · rename_i due
      rcases plain with untouched | ⟨restorable, valid⟩
      · have none : ({ s with inputs } : ChannelDO τ).alarm = none := untouched.alarm
        rw [ChannelDO.alarmDue, none] at due
        cases due
      · have quiet : Restorable name ({ s with inputs, alarm := none } : ChannelDO τ) := restorable.same rfl rfl
        exact alarm_mirrors (s := { s with inputs, alarm := none }) ⟨sound.own, sound.channel, sound.sockets⟩ quiet
          valid kin (recoverable.alarm rfl due)
    · exact idle
  | evict => exact absurd rfl remains

/-- Whether the event is there in the run without evictions. -/
def Event.remains : Event τ → Bool
  | .evict => false
  | _ => true

/-- The same frames were sent to the same sockets, and the same state is stored. -/
structure Agrees (a b : ChannelDO τ) : Prop where
  sent : (a.trace.filterMap fun o => match o with | .sent id frame => some (id, frame) | _ => none) =
    b.trace.filterMap fun o => match o with | .sent id frame => some (id, frame) | _ => none
  stored : a.stored = b.stored

/-- The run with evictions next to the one without. -/
def Transparent (s : ChannelDO τ) (events : List (Inputs × Event τ)) : Prop :=
  Agrees (run step s (events.filter fun e => e.2.remains)) (run step s events)

omit [Wire τ] in
theorem Resembles.agrees {a b : ChannelDO τ} (resembles : Resembles a b) : Agrees a b := by
  obtain ⟨m, inputs, rfl, -⟩ := resembles
  exact ⟨rfl, rfl⟩

theorem run_mirrors {a b : ChannelDO τ} {events : List (Inputs × Event τ)} (sound : Sound name a)
    (mirrors : Mirrors name a b) (recoverable : Along step Recoverable b events) :
    Resembles (run step a (events.filter fun e => e.2.remains)) (run step b events) := by
  induction events generalizing a b with
  | nil => exact mirrors.resembles
  | cons e rest ih =>
    obtain ⟨inputs, event⟩ := e
    obtain ⟨now, later⟩ := recoverable
    obtain ⟨m, before, rfl, kin⟩ := mirrors.resembles
    cases remains : event.remains with
    | false =>
      rw [List.filter_cons_of_neg (by simp [remains])]
      apply ih sound _ later
      obtain rfl : event = .evict := by
        cases event with
        | evict => rfl
        | _ => cases remains
      exact ⟨⟨{}, inputs, rfl, Or.inr (Or.inl rfl)⟩, mirrors.plain⟩
    | true =>
      rw [List.filter_cons_of_pos (by simp [remains])]
      have remained : event ≠ .evict := by
        rintro rfl
        cases remains
      exact ih (step_sound (inputs, event) sound) (step_mirrors sound mirrors.plain kin remained now) later

/-- Along a run in which everything needed can be brought back, evictions make no
difference to what is sent and stored. -/
theorem transparent_of_recoverable (name : String) (events : List (Inputs × Event τ))
    (recoverable : Along step Recoverable (.fresh τ name) events) : Transparent (.fresh τ name) events := by
  have start : Mirrors name (ChannelDO.fresh τ name) (.fresh τ name) :=
    ⟨.refl _, Or.inl ⟨rfl, rfl, rfl, Or.inl rfl⟩⟩
  exact (run_mirrors (fresh_sound name) start recoverable).agrees

theorem recoverable_of_quiet {s : ChannelDO τ} {now : Nat} {event : Event τ} (running : event.ended = none)
    (silent : event ≠ .alarm) (knows : ∀ id message, event = .message id message → s.knowsChannel = true) :
    Recoverable s (⟨now, []⟩, event) := by
  have calm : ({ s with inputs := ⟨now, []⟩ } : ChannelDO τ).woken.inputs.throws = [] := by
    rw [woken_inputs]
  refine ⟨fun id msg _ => ⟨?_, ?_⟩, fun id message same _ => Or.inl (knows id message same), ?_,
    fun alarm => absurd alarm silent⟩
  · cases msg with
    | create ch sender =>
      intro _ _ thrown
      rw [calm] at thrown
      cases thrown
    | _ => trivial
  · cases msg with
    | join ch sender sealedJoinNull =>
      intro _ thrown
      rw [calm] at thrown
      cases thrown
    | _ => trivial
  · intro id listed ended
    rw [running] at ended
    cases ended

namespace Sample

/-- The object is evicted while the dApp waits for a wallet. -/
def napping : List (Inputs × Event String) :=
  [(⟨1, []⟩, upgrade), (⟨1, []⟩, text 0 create), (⟨1, []⟩, .evict), (⟨1, []⟩, upgrade), (⟨1, []⟩, text 1 join)]

def created : ChannelDO String := step (.fresh String channel) (⟨1, []⟩, upgrade)

def rejoined : ChannelDO String :=
  step (step (step created (⟨1, []⟩, text 0 create)) (⟨1, []⟩, .evict)) (⟨1, []⟩, upgrade)

theorem napping_knows : created.knowsChannel = true ∧ rejoined.knowsChannel = true := by
  simp only [created, rejoined, text, step_text read_create]
  decide +kernel

end Sample

theorem napping_transparent : Transparent (.fresh String Sample.channel) Sample.napping :=
  transparent_of_recoverable Sample.channel Sample.napping (by
    obtain ⟨first, second⟩ := Sample.napping_knows
    unfold Sample.created at first
    unfold Sample.rejoined Sample.created at second
    refine ⟨recoverable_of_quiet rfl nofun nofun, recoverable_of_quiet rfl nofun fun _ _ _ => ?_,
      recoverable_of_quiet rfl nofun nofun, recoverable_of_quiet rfl nofun nofun,
      recoverable_of_quiet rfl nofun fun _ _ _ => ?_, trivial⟩
    · with_reducible exact first
    · with_reducible exact second)

namespace Sample

/-- The object is evicted between the upgrade and the first message. -/
def oversleeping : List (Inputs × Event String) := [(⟨1, []⟩, upgrade), (⟨1, []⟩, .evict), (⟨1, []⟩, text 0 create)]

theorem oversleeping_facts :
    (run step (.fresh String channel) (oversleeping.filter fun e => e.2.remains)).stored ≠ none ∧
      (run step (.fresh String channel) oversleeping).stored = none := by
  simp only [oversleeping, text, List.filter, Event.remains, run_cons, run_nil, step_text read_create]
  decide +kernel

end Sample

/-- A create that arrives after an eviction is refused, for want of a socket with a role
that could tell the channel. -/
theorem evicted_channel_refuses_create :
    ¬ ∀ (name : String) (events : List (Inputs × Event String)), Transparent (.fresh String name) events := by
  intro all
  have same := (all Sample.channel Sample.oversleeping).stored
  obtain ⟨kept, lost⟩ := Sample.oversleeping_facts
  exact kept (same.trans lost)

end WalletPair.Relay.Worker
