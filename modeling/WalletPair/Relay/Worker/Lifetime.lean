import WalletPair.Relay.Worker.Routing

/-! The lifetime of a channel. Every handler that leaves the channel alive leaves an alarm
behind, and the alarm closes it, provided that the object can still tell which channel it
serves: `alarm` does nothing for an object that was evicted while no socket was left. -/

namespace WalletPair.Relay.Worker
open WalletPair.Lib.Program WalletPair.Lib.Run WalletPair.Sdk

variable {τ : Type} {name : String}

/-! ### A live channel has an alarm -/

/-- Whether storage holds a live channel. -/
def ChannelDO.storesLive (s : ChannelDO τ) : Bool := s.stored.any fun stored => stored.state.live

/-- What is alive in storage is going to be closed. -/
def Scheduled (s : ChannelDO τ) : Prop := s.storesLive = true → s.alarm ≠ none

/-- The same for the fields in memory. -/
structure Guarded (s : ChannelDO τ) : Prop where
  memory : s.channelState.live = true → s.alarm ≠ none
  stored : Scheduled s

theorem Guarded.same {s t : ChannelDO τ} (guarded : Guarded s) (state : t.channelState = s.channelState)
    (stored : t.stored = s.stored) (alarm : t.alarm = s.alarm) : Guarded t := by
  constructor
  · rw [state, alarm]
    exact guarded.memory
  · unfold Scheduled ChannelDO.storesLive
    rw [stored, alarm]
    exact guarded.stored

theorem Guarded.woken {s : ChannelDO τ} (guarded : Guarded s) : Guarded s.woken := by
  unfold ChannelDO.woken
  split
  · exact guarded
  · refine ⟨?_, guarded.stored⟩
    cases present : s.stored with
    | none => exact guarded.memory
    | some stored =>
      intro live
      apply guarded.stored
      rw [ChannelDO.storesLive, present]
      exact live

/-- What a handler settles for keeps the alarm. -/
theorem Guarded.settles {threw : Prop} {s t : ChannelDO τ} (guarded : Guarded s) (settles : Settles threw s t) :
    Guarded t := by
  cases settles with
  | kept memory stored alarm => exact guarded.same (congrArg Memory.channelState memory) stored alarm
  | saved stored channelId initialized dapp alarm =>
    have live : t.channelState.live = true → t.alarm ≠ none := by
      intro alive
      rcases alarm alive with scheduled | ⟨before, same⟩
      · exact scheduled
      · rw [same]
        exact guarded.memory before
    refine ⟨live, ?_⟩
    unfold Scheduled ChannelDO.storesLive
    rw [stored]
    exact live
  | halted stopped alive stored alarm =>
    have scheduled : t.alarm ≠ none := by
      rw [alarm]
      exact guarded.memory alive
    exact ⟨fun _ => scheduled, fun _ => scheduled⟩

/-! ### The alarm -/

/-- The object remembers its channel, or finds it on a listed socket when it wakes up. -/
def ChannelDO.knowsChannel (s : ChannelDO τ) : Bool :=
  nonEmpty s.channelId ≠ none || (!s.initialized && s.attachedChannel ≠ none)

theorem woken_channelId {s : ChannelDO τ} (knows : s.knowsChannel = true) :
    ∃ ch, nonEmpty s.woken.channelId = some ch := by
  apply Option.ne_none_iff_exists'.mp
  simp only [ChannelDO.knowsChannel, Bool.or_eq_true, Bool.and_eq_true, decide_eq_true_eq, Bool.not_eq_true'] at knows
  unfold ChannelDO.woken
  rcases knows with own | ⟨asleep, attached⟩
  · split
    · exact own
    · simp [own]
  · rw [if_neg (by simp [asleep])]
    dsimp only
    split
    · obtain ⟨ch, found⟩ := Option.ne_none_iff_exists'.mp attached
      obtain ⟨socket, -, carried⟩ := List.exists_of_findSome?_eq_some found
      rw [found]
      split at carried
      · have same := nonEmpty_some carried
        rw [same] at carried
        change nonEmpty (some ch) ≠ none
        rw [carried]
        simp
      · cases carried
    · assumption

/-- The alarm closed the channel, and every socket with it. -/
structure Closed (s : ChannelDO τ) : Prop where
  stored : s.stored.map PersistedChannelState.state = some .closed
  sockets : ∀ id, s.isOpen id = false

theorem saving_closing {s : ChannelDO τ} (known : nonEmpty s.channelId ≠ none) :
    s.closing.saving = { s.closing with stored := some s.closing.toMemory.toPersisted } := by
  unfold ChannelDO.saving
  exact if_neg known

theorem after_alarm_closed {s : ChannelDO τ} (sound : Sound name s) (knows : s.knowsChannel = true) (calm : s.Calm) :
    Closed (after alarm s) ∧ (after alarm s).channelState = .closed := by
  obtain ⟨ch, known⟩ := woken_channelId knows
  rw [after_alarm, known]
  dsimp only
  obtain ⟨memory, -, -⟩ := tellingAll_fields s.woken.getWebSockets (terminate ch .timeout s.woken.inputs.now) s.woken
  have still : nonEmpty (s.woken.tellingAll s.woken.getWebSockets
      (terminate ch .timeout s.woken.inputs.now)).channelId ≠ none := by
    rw [congrArg Memory.channelId memory, known]
    simp
  rw [saving_closing still]
  refine ⟨⟨rfl, fun id => ?_⟩, rfl⟩
  apply Bool.eq_false_iff.mpr
  intro opened
  obtain ⟨before, thrown⟩ := isOpen_of_tellingAll opened
  have throws := thrown (mem_getWebSockets_of_isOpen (woken_sound sound) before)
  rw [calm_woken calm id throws] at before
  cases before

/-! ### Runs -/

variable [Wire τ]

/-- If this is the alarm, and it is due, it closes everything. -/
def AlarmCloses (s : ChannelDO τ) (e : Inputs × Event τ) : Prop :=
  e.2 = .alarm → ({ s with inputs := e.1 } : ChannelDO τ).alarmDue = true → Closed (step s e)

/-- The answer to a create does not throw, and a due alarm finds an object that knows its
channel and no open socket that throws. -/
structure Effective (s : ChannelDO τ) (e : Inputs × Event τ) : Prop where
  answered : ∀ id msg, e.2.accepted = some (id, msg) →
    ({ s with inputs := e.1 } : ChannelDO τ).woken.answersCreate id msg
  alarm : e.2 = .alarm → ({ s with inputs := e.1 } : ChannelDO τ).alarmDue = true →
    s.knowsChannel = true ∧ ({ s with inputs := e.1 } : ChannelDO τ).Calm

theorem webSocketMessage_guarded {s : ChannelDO τ} {id : Nat} {message : Incoming τ} (guarded : Guarded s)
    (answered : ∀ raw msg, message = .text raw → readText raw = .ok msg → s.woken.answersCreate id msg) :
    Guarded (after (webSocketMessage id message) s) := by
  have awake := guarded.woken
  unfold webSocketMessage
  simp only [ensureInitialized, after_modify_bind, after_get_bind]
  cases message with
  | binary =>
    dsimp only
    rw [after_reject]
    exact awake.same rfl rfl rfl
  | text raw =>
    dsimp only
    cases read : readText raw with
    | error reason =>
      dsimp only
      rw [after_reject]
      exact awake.same rfl rfl rfl
    | ok msg =>
      obtain ⟨named, valid⟩ := readText_ok read
      exact awake.settles (routeMessage_settles named valid (answered raw msg rfl read))

omit [Wire τ] in
theorem disconnect_guarded {s : ChannelDO τ} {id : Nat} {listed : Bool} (guarded : Guarded s) :
    Guarded (after (disconnect id listed) s) := by
  rw [after_disconnect]
  have gone : Guarded ({ s with sockets := s.sockets.modify id (Socket.gone listed) } : ChannelDO τ) :=
    guarded.same rfl rfl rfl
  have settles : Settles False (s.noticing id listed) ((s.noticing id listed).losing id) := losing_settles _ id
  exact (gone.woken.settles settles).same rfl rfl rfl

omit [Wire τ] in
theorem fetch_guarded {websocket : Bool} {ch : Option String} {s : ChannelDO τ} (guarded : Guarded s) :
    Guarded (after (fetch websocket ch) s) := by
  unfold fetch
  split
  · exact guarded
  · split
    · exact guarded
    · have accepted : Guarded ({ s with sockets := s.sockets ++ [{}] } : ChannelDO τ) := guarded.same rfl rfl rfl
      have awake := accepted.woken
      simp only [after_modify_bind, ensureInitialized, after_pure]
      split
      · exact awake.same rfl rfl rfl
      · exact awake

/-- A due alarm in a step. -/
theorem step_alarm {s : ChannelDO τ} {inputs : Inputs} (due : ({ s with inputs } : ChannelDO τ).alarmDue = true) :
    step s (inputs, .alarm) = after alarm ({ s with inputs, alarm := none } : ChannelDO τ) := by
  change after (act .alarm) _ = _
  unfold act
  rw [after_get_bind, if_pos due]
  rfl

theorem step_alarm_closed {s : ChannelDO τ} {inputs : Inputs} (sound : Sound name s)
    (effective : Effective s (inputs, .alarm)) (due : ({ s with inputs } : ChannelDO τ).alarmDue = true) :
    Closed (step s (inputs, .alarm)) ∧ (step s (inputs, .alarm)).channelState = .closed := by
  obtain ⟨knows, calm⟩ := effective.alarm rfl due
  rw [step_alarm due]
  exact after_alarm_closed ⟨sound.own, sound.channel, sound.sockets⟩ knows calm

theorem step_alarmCloses {s : ChannelDO τ} {e : Inputs × Event τ} (sound : Sound name s) (effective : Effective s e) :
    AlarmCloses s e := by
  obtain ⟨inputs, event⟩ := e
  rintro rfl due
  exact (step_alarm_closed sound effective due).1

theorem step_guarded {s : ChannelDO τ} {e : Inputs × Event τ} (sound : Sound name s) (guarded : Guarded s)
    (effective : Effective s e) : Guarded (step s e) := by
  obtain ⟨inputs, event⟩ := e
  have start : Guarded ({ s with inputs } : ChannelDO τ) := guarded.same rfl rfl rfl
  cases event with
  | upgrade websocket ch =>
    change Guarded (after (act (.upgrade websocket ch)) _)
    unfold act
    rw [after_get_bind]
    split
    · rw [after_bind_pure]
      exact fetch_guarded start
    · exact start
  | message id message =>
    change Guarded (after (act (.message id message)) _)
    unfold act
    rw [after_get_bind]
    split
    · apply webSocketMessage_guarded start
      rintro raw msg rfl read
      exact effective.answered id msg (by simp [Event.accepted, read, Except.toOption])
    · exact start
  | hangUp id => exact start.same rfl rfl rfl
  | close id listed => exact disconnect_guarded start
  | error id listed => exact disconnect_guarded start
  | alarm =>
    by_cases due : ({ s with inputs } : ChannelDO τ).alarmDue = true
    · obtain ⟨closed, state⟩ := step_alarm_closed sound effective due
      constructor
      · rw [state]
        rintro ⟨⟩
      · intro live
        obtain ⟨stored, present, shut⟩ := Option.map_eq_some_iff.mp closed.stored
        rw [ChannelDO.storesLive, present, Option.any_some, shut] at live
        cases live
    · change Guarded (after (act .alarm) _)
      unfold act
      rw [after_get_bind, if_neg due]
      exact start
  | evict => exact ⟨by rintro ⟨⟩, guarded.stored⟩

/-- The lifetime of the channel along a run. -/
structure Enforced (s : ChannelDO τ) (events : List (Inputs × Event τ)) : Prop where
  scheduled : Scheduled (run step s events)
  closes : Along step AlarmCloses s events

theorem enforced_of_guarded {s : ChannelDO τ} {events : List (Inputs × Event τ)} (sound : Sound name s)
    (guarded : Guarded s) (effective : Along step Effective s events) : Enforced s events := by
  induction events generalizing s with
  | nil => exact ⟨guarded.stored, trivial⟩
  | cons event rest ih =>
    have later := ih (step_sound event sound) (step_guarded sound guarded effective.1) effective.2
    exact ⟨later.scheduled, step_alarmCloses sound effective.1, later.closes⟩

/-- Along a run of effective steps a live channel always has an alarm, and every alarm
that goes off closes the channel and its sockets. -/
theorem enforced_of_effective (name : String) (events : List (Inputs × Event τ))
    (effective : Along step Effective (.fresh τ name) events) : Enforced (.fresh τ name) events :=
  enforced_of_guarded (fresh_sound name) ⟨nofun, nofun⟩ effective

theorem effective_of_quiet {s : ChannelDO τ} {now : Nat} {event : Event τ}
    (knows : event = .alarm → s.knowsChannel = true) : Effective s (⟨now, []⟩, event) := by
  refine ⟨fun id msg _ => ?_, fun alarm _ => ⟨knows alarm, nofun⟩⟩
  have silent : ({ s with inputs := ⟨now, []⟩ } : ChannelDO τ).woken.inputs.throws = [] := by
    rw [woken_inputs]
  cases msg with
  | create ch sender =>
    intro _ _ thrown
    rw [silent] at thrown
    cases thrown
  | _ => trivial

namespace Sample

/-- Nobody joins for five minutes. -/
def waitingInVain : List (Inputs × Event String) :=
  [(⟨1, []⟩, upgrade), (⟨1, []⟩, text 0 create), (⟨300001, []⟩, .alarm)]

theorem waitingInVain_knows :
    (step (step (.fresh String channel) (⟨1, []⟩, upgrade)) (⟨1, []⟩, text 0 create)).knowsChannel = true := by
  simp only [text, step_text read_create]
  decide +kernel

end Sample

theorem waiting_channel_enforced : Enforced (.fresh String Sample.channel) Sample.waitingInVain :=
  enforced_of_effective Sample.channel Sample.waitingInVain (by
    refine ⟨effective_of_quiet nofun, effective_of_quiet nofun, effective_of_quiet fun _ => ?_, trivial⟩
    with_reducible exact Sample.waitingInVain_knows)

namespace Sample

/-- Both peers of a connected channel go away, and the object is evicted. -/
def deserting : List (Inputs × Event String) :=
  pairing ++ ([(⟨1, []⟩, .close 0 false), (⟨1, []⟩, .close 1 false), (⟨1, []⟩, .evict)] : List (Inputs × Event String))

def deserted : ChannelDO String := run step (.fresh String channel) deserting

def dayLater : Inputs := ⟨86400001, []⟩

theorem deserted_facts :
    ({ deserted with inputs := dayLater } : ChannelDO String).alarmDue = true ∧
      (step deserted (dayLater, .alarm)).stored.map PersistedChannelState.state = some .connected := by
  simp only [deserted, deserting, pairing, text, List.cons_append, List.nil_append, run_cons, run_nil,
    step_text read_create, step_text read_join, step_text read_accept]
  decide +kernel

theorem not_alarmCloses {s : ChannelDO String} {inputs : Inputs}
    (due : ({ s with inputs } : ChannelDO String).alarmDue = true)
    (connected : (step s (inputs, .alarm)).stored.map PersistedChannelState.state = some .connected) :
    ¬ AlarmCloses s (inputs, .alarm) := by
  intro closes
  have closed := (closes rfl due).stored
  rw [connected] at closed
  cases closed

end Sample

/-- The alarm of a channel whose object was evicted after both sockets had gone leaves
it connected. -/
theorem deserted_channel_stays_connected :
    ¬ ∀ (name : String) (events : List (Inputs × Event String)), Enforced (.fresh String name) events := by
  intro all
  have closes := along_last (all Sample.channel (Sample.deserting ++ [(Sample.dayLater, .alarm)])).closes
  obtain ⟨due, connected⟩ := Sample.deserted_facts
  refine @Sample.not_alarmCloses Sample.deserted Sample.dayLater ?_ ?_ closes
  · with_reducible exact due
  · with_reducible exact connected

end WalletPair.Relay.Worker
