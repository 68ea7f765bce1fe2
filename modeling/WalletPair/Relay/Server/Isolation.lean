import WalletPair.Relay.Server.Boot

/-! Channels do not see each other. A message touches the channel it names and writes to
the queues of its own connection and of that channel's peers; a connection keeps to the
channel it was bound to by its first message. -/

namespace WalletPair.Relay.Server
open WalletPair.Lib WalletPair.Lib.Program WalletPair.Lib.Run

variable {τ : Type}

/-! ### Messages -/

/-- The queue belongs to a connection of the channel. -/
def Channel.Registers (c : Channel) (id : Nat) : Prop := ∃ role conn, c.conn role = some conn ∧ conn.sender = id

section Sending
variable {s : World τ} {ch : String} {frame : Frame τ}

theorem sending_queues {id other : Nat} (different : other ≠ id) :
    (s.sending id ch frame).queues other = s.queues other := by
  unfold World.sending
  dsimp only
  split_ifs
  · rfl
  · exact Function.update_of_ne different _ _
  · rfl

theorem sendingTo_queues {id : Option Nat} {other : Nat} (different : id ≠ some other) :
    (s.sendingTo id ch frame).queues other = s.queues other := by
  cases id with
  | none => rfl
  | some id => exact sending_queues fun same => different (congrArg some same.symm)

theorem removing_queues : (s.removing ch).queues = s.queues := by
  unfold World.removing
  split <;> rfl

/-- What an attempt to send leaves on record. -/
theorem sending_adds {ok : Obs τ → Prop} {id : Nat} (enqueued : ok (.enqueued id ch frame))
    (dropped : ok (.dropped id ch frame)) : Adds ok s.trace (s.sending id ch frame).trace := by
  unfold World.sending
  dsimp only
  split_ifs
  · exact .refl _
  · exact .single enqueued
  · exact .single dropped

/-- What is sent is on record. -/
theorem sending_trace {id : Nat} {ch : String} {frame : Frame τ} (reached : s.sends id = true) :
    (s.sending id ch frame).trace = s.trace ++ [.enqueued id ch frame] := by
  unfold World.sends at reached
  rw [Bool.and_eq_true, Bool.not_eq_true'] at reached
  unfold World.sending
  dsimp only
  rw [if_neg (by simp [reached.1]), if_pos reached.2]

theorem sendingTo_adds {ok : Obs τ → Prop} {id : Option Nat}
    (enqueued : ∀ q, id = some q → ok (.enqueued q ch frame)) (dropped : ∀ q, id = some q → ok (.dropped q ch frame)) :
    Adds ok s.trace (s.sendingTo id ch frame).trace := by
  cases id with
  | none => exact .refl _
  | some id => exact sending_adds (enqueued id rfl) (dropped id rfl)

theorem removing_trace : (s.removing ch).trace = s.trace := by
  unfold World.removing
  split <;> rfl

theorem get_removing {other : String} (different : other ≠ ch) :
    (s.removing ch).channels.get other = s.channels.get other := by
  unfold World.removing
  split
  · exact OrderedMap.get_delete_of_ne different
  · rfl

end Sending

section Message
variable {s t : World τ} {connId sender : Nat} {raw : τ} {atCapacity : Bool} {msg : ClientMessage} {r : ProcessResult τ}

theorem creating_get {ch peer other : String} (different : other ≠ ch) :
    (s.creating connId sender ch peer).channels.get other = s.channels.get other := by
  unfold World.creating
  rw [sending_toChannelStore]
  exact OrderedMap.get_set_of_ne different

theorem forwarding_get {c : Channel} {ch other : String} {type : MessageType} {reqId : Option String} {role : Role}
    (different : other ≠ ch) : (s.forwarding c raw ch type reqId role).channels.get other = s.channels.get other := by
  have tracked : (s.tracking c ch type reqId).channels.get other = s.channels.get other :=
    OrderedMap.get_set_of_ne different
  unfold World.forwarding
  dsimp only
  split
  · exact tracked
  · split
    · rw [sending_toChannelStore]
      exact tracked
    · rename_i id _ _
      change ((((s.tracking c ch type reqId).sending id ch (.forwarded raw)).channels).set ch _).get other = _
      rw [OrderedMap.get_set_of_ne different, sending_toChannelStore]
      exact tracked

/-- A message touches no channel but the one it names. -/
theorem Handled.others (handled : Handled s connId sender raw atCapacity msg r t) {other : String}
    (different : other ≠ msg.channelId) : t.channels.get other = s.channels.get other := by
  cases handled with
  | refused reason target => rfl
  | evicted found replaceable full => exact get_removing different
  | created absent free => exact creating_get different
  | replaced found replaceable free => exact (creating_get different).trans (get_removing different)
  | joined found waiting =>
    unfold World.joining
    rw [sending_toChannelStore, sendingTo_toChannelStore]
    exact OrderedMap.get_set_of_ne different
  | accepted found dapp pending wallet =>
    unfold World.accepting
    rw [sendingTo_toChannelStore, sendingTo_toChannelStore]
    exact OrderedMap.get_set_of_ne different
  | forwarded data found sent allowed limit => exact forwarding_get different
  | ended found sent =>
    refine (get_removing different).trans ?_
    rw [sendingTo_toChannelStore]
  | gone absent => rfl

theorem registers_of_conn {c : Channel} {role : Role} {id : Nat} (conn : (c.conn role).map PeerConn.sender = some id) :
    c.Registers id := by
  obtain ⟨peer, found, rfl⟩ := Option.map_eq_some_iff.mp conn
  exact ⟨role, peer, found, rfl⟩

theorem creating_queues {ch peer : String} {id : Nat} (different : id ≠ sender) :
    (s.creating connId sender ch peer).queues id = s.queues id := sending_queues different

theorem forwarding_queues {c : Channel} {ch : String} {type : MessageType} {reqId : Option String} {role : Role}
    {id : Nat} (stranger : c.otherSender role ≠ some id) :
    (s.forwarding c raw ch type reqId role).queues id = s.queues id := by
  unfold World.forwarding
  dsimp only
  split
  · rfl
  · rename_i other found
    have different : id ≠ other := fun same => stranger (same ▸ found)
    split
    · exact sending_queues different
    · exact (Function.update_of_ne different _ _).trans (sending_queues different)

/-- A message changes no queue but its own connection's and those of the channel it names. -/
theorem Handled.strangers (handled : Handled s connId sender raw atCapacity msg r t) {id : Nat} (other : id ≠ sender)
    (stranger : ∀ c, s.channels.get msg.channelId = some c → ¬ c.Registers id) : t.queues id = s.queues id := by
  have absent : ∀ (c : Channel) (role : Role), s.channels.get msg.channelId = some c →
      (c.conn role).map PeerConn.sender ≠ some id :=
    fun _ _ found conn => stranger _ found (registers_of_conn conn)
  cases handled with
  | refused reason target => rfl
  | evicted found replaceable full => exact congrFun removing_queues id
  | created absent free => exact creating_queues other
  | replaced found replaceable free => exact (creating_queues other).trans (congrFun removing_queues id)
  | joined found waiting =>
    unfold World.joining
    rw [sending_queues other]
    exact sendingTo_queues (absent _ .dapp found)
  | accepted found dapp pending wallet =>
    exact (sendingTo_queues (absent _ .wallet found)).trans (sendingTo_queues (absent _ .dapp found))
  | forwarded data found sent allowed limit => exact forwarding_queues (absent _ _ found)
  | ended found sent =>
    unfold World.ending
    rw [removing_queues]
    exact sendingTo_queues (absent _ _ found)
  | gone absent => rfl

/-- A text that is passed on is the text that was received. -/
def PassesOn (raw : τ) : Obs τ → Prop
  | .enqueued _ _ (.forwarded text) => text = raw
  | _ => True

theorem forwarding_adds {ok : Obs τ → Prop} {c : Channel} {ch : String} {type : MessageType} {reqId : Option String}
    {role : Role} (enqueued : ∀ id, c.otherSender role = some id → ok (.enqueued id ch (.forwarded raw)))
    (dropped : ∀ id, c.otherSender role = some id → ok (.dropped id ch (.forwarded raw))) :
    Adds ok s.trace (s.forwarding c raw ch type reqId role).trace := by
  unfold World.forwarding
  dsimp only
  split
  · exact .refl _
  · rename_i id found
    have told : Adds ok s.trace ((s.tracking c ch type reqId).sending id ch (.forwarded raw)).trace :=
      sending_adds (enqueued id found) (dropped id found)
    split
    · exact told
    · exact told

theorem Handled.passesOn (handled : Handled s connId sender raw atCapacity msg r t) :
    Adds (PassesOn raw) s.trace t.trace := by
  cases handled with
  | refused reason target => exact .refl _
  | evicted found replaceable full =>
    rw [show (s.vacating _).trace = s.trace from removing_trace]
    exact .refl _
  | created absent free => exact sending_adds trivial trivial
  | replaced found replaceable free =>
    have vacated : ∀ ch, (s.vacating ch).trace = s.trace := fun _ => removing_trace
    rw [← vacated]
    exact sending_adds trivial trivial
  | joined found waiting =>
    have noted : ∀ o : Obs τ, PassesOn raw o → Adds (PassesOn raw) s.trace (s.trace ++ [o]) := fun _ => Adds.single
    exact ((noted (.joined _ _ raw) trivial).trans (sendingTo_adds (fun _ _ => rfl) fun _ _ => trivial)).trans
      (sending_adds trivial trivial)
  | accepted found dapp pending wallet =>
    unfold World.accepting
    refine Adds.trans (sendingTo_adds (s := s.connecting _ _) ?_ ?_) (sendingTo_adds ?_ ?_) <;>
      exact fun _ _ => trivial
  | forwarded data found sent allowed limit => exact forwarding_adds (fun _ _ => rfl) fun _ _ => trivial
  | ended found sent =>
    unfold World.ending
    rw [removing_trace]
    exact sendingTo_adds (fun _ _ => rfl) fun _ _ => trivial
  | gone absent => exact .refl _

end Message

/-! ### Connections -/

/-- Tasks that are not there yet have done nothing, and a message that is on its way to a
shard is for the channel its connection is bound to. -/
structure Bound (s : AppState τ) : Prop where
  unborn : ∀ k, s.nextConn ≤ k → s.tasks k = {}
  checked : ∀ k raw msg atCapacity, (s.tasks k).stage = .checked raw msg atCapacity →
    (s.tasks k).binding = some msg.channelId

section Steps
variable {read : τ → Except CloseReason ClientMessage} {s : AppState τ} {k : Nat}

theorem Task.Advances.binding {old new : Task τ} (advances : old.Advances new) {ch : String}
    (bound : old.binding = some ch) : new.binding = some ch := by
  cases advances with
  | stayed => exact bound
  | moved unchecked => exact bound
  | checked own =>
    rcases own with unbound | same
    · rw [unbound] at bound
      cases bound
    · exact same.symm.trans bound

/-- A task only moves after its connection was made. -/
theorem live_of_stage (bound : Bound s) (moving : (s.tasks k).stage ≠ .done) : k < s.nextConn := by
  by_contra late
  rw [bound.unborn k (Nat.le_of_not_lt late)] at moving
  exact moving rfl

theorem nextConn_le (s : AppState τ) (event : Event τ) : s.nextConn ≤ (step read s event).nextConn := by
  have takes := step_takes read s event
  generalize step read s event = t at takes ⊢
  cases takes with
  | connect => exact Nat.le_succ _
  | receive reading => exact le_of_eq receive_rest.2.2.2.1.symm
  | count processed =>
    rename_i result
    cases result <;> exact le_refl _
  | leave leaving =>
    unfold AppState.leave
    split <;> exact le_refl _
  | sweep =>
    unfold AppState.sweep
    split
    · exact le_refl _
    · split
      · split <;> exact le_refl _
      · exact le_refl _
  | enter =>
    unfold AppState.enter
    dsimp only
    split
    · exact le_refl _
    · split_ifs <;> exact le_refl _
  | _ => exact le_refl _

theorem step_bound (bound : Bound s) (event : Event τ) : Bound (step read s event) := by
  constructor
  · intro k late
    have before := bound.unborn k ((nextConn_le s event).trans late)
    have takes := step_takes read s event
    generalize step read s event = t at takes late ⊢
    have idle : ∀ {j : Nat}, (s.tasks j).stage ≠ .done → k ≠ j := by
      rintro j moving rfl
      rw [before] at moving
      exact moving rfl
    cases takes with
    | connect =>
      have new : k ≠ s.nextConn := by
        intro same
        rw [same] at late
        exact absurd late (Nat.not_succ_le_self _)
      exact (Function.update_of_ne new _ _).trans before
    | receive reading => exact (receive_tasks (idle (by rw [reading]; exact nofun))).trans before
    | process checked handled processed => exact (Function.update_of_ne (idle (by rw [checked]; exact nofun)) _ _).trans before
    | count processed => exact (count_tasks (idle (by rw [processed]; exact nofun))).trans before
    | leave leaving => exact (leave_tasks (idle (by rw [leaving]; exact nofun))).trans before
    | sweep => exact (congrFun (sweep_tasks s) k).trans before
    | enter => exact (congrFun (enter_tasks s _) k).trans before
    | _ => exact before
  · intro k raw msg atCapacity stage
    rcases step_task read s event k with advances | ⟨-, -, new⟩
    · generalize (step read s event).tasks k = task at advances stage ⊢
      cases advances with
      | stayed => exact bound.checked k raw msg atCapacity stage
      | moved unchecked => exact absurd stage (unchecked raw msg atCapacity)
      | checked own =>
        cases stage
        rfl
    · rw [new] at stage
      cases stage

theorem run_bound (bound : Bound s) (events : List (Event τ)) : Bound (run (step read) s events) := by
  induction events generalizing s with
  | nil => exact bound
  | cons event rest ih => exact ih (step_bound bound event)

theorem Booted.bound {config : Config} (booted : Booted config s) : Bound s := by
  constructor
  · exact fun k _ => booted.tasks k
  · intro k raw msg atCapacity stage
    rw [booted.tasks k] at stage
    cases stage

/-- A connection stays bound to its channel. -/
theorem step_binding (bound : Bound s) (event : Event τ) {ch : String} (own : (s.tasks k).binding = some ch) :
    ((step read s event).tasks k).binding = some ch := by
  rcases step_task read s event k with advances | ⟨-, new, -⟩
  · exact advances.binding own
  · rw [new, bound.unborn s.nextConn (le_refl _)] at own
    cases own

theorem run_binding (events : List (Event τ)) (bound : Bound s) {ch : String} (own : (s.tasks k).binding = some ch) :
    ((run (step read) s events).tasks k).binding = some ch := by
  induction events generalizing s with
  | nil => exact own
  | cons event rest ih => exact ih (step_bound bound event) (step_binding bound event own)

/-- The step changes no channel but `ch`, and no queue but the connection's own and those
of the peers of `ch`. -/
structure Confined (ch : String) (k : Nat) (s t : AppState τ) : Prop where
  channels : ∀ i key, key ≠ ch → (t.shards i).get key = (s.shards i).get key
  queues : ∀ id, id ≠ k → (∀ c, s.channel ch = some c → ¬ c.Registers id) → t.queues id = s.queues id

theorem Confined.own {ch : String} {t : AppState τ} (shards : t.shards = s.shards)
    (queues : ∀ id, id ≠ k → t.queues id = s.queues id) : Confined ch k s t :=
  ⟨fun i key _ => by rw [shards], fun id other _ => queues id other⟩

theorem telling_queues {ch : String} {frame : Frame τ} {id : Nat} (other : id ≠ k) :
    (s.telling k ch frame).queues id = s.queues id := sending_queues (s := s.world 0) other

/-- Reading a frame changes at most the connection's own queue. -/
theorem receive_queues {incoming : Incoming τ} {limited : Bool} {id : Nat} (other : id ≠ k) :
    (s.receive read k incoming limited).queues id = s.queues id := by
  rcases receive_cases read s k incoming limited with same | ⟨ch, reason, same⟩ | ⟨raw, msg, -, -, same, -⟩
  · rw [same]
    rfl
  · rw [same]
    exact telling_queues other
  · rw [same]
    rfl

theorem absorb_get {i : Fin 64} {w : World τ} {ch : String}
    (kept : ∀ key, key ≠ ch → w.channels.get key = (s.shards i).get key) (j : Fin 64) (key : String) (other : key ≠ ch) :
    ((s.absorb i w).shards j).get key = (s.shards j).get key := by
  by_cases same : j = i
  · rw [same]
    have placed : (s.absorb i w).shards i = w.channels := Function.update_self _ _ _
    rw [placed]
    exact kept key other
  · have placed : (s.absorb i w).shards j = s.shards j := Function.update_of_ne same _ _
    rw [placed]

theorem parting_get {w : World τ} {ch key : String} {connId : Nat} (other : key ≠ ch) :
    (w.parting ch connId).channels.get key = w.channels.get key := by
  unfold World.parting
  split
  · rfl
  · exact OrderedMap.get_set_of_ne other

theorem leave_confined {ch : String} (own : ∀ b, (s.tasks k).binding = some b → b = ch) : Confined ch k s (s.leave k) := by
  unfold AppState.leave
  split
  · exact .own rfl fun _ _ => rfl
  · rename_i b bound
    obtain rfl := own b bound
    rw [after_disconnectPeer]
    refine ⟨fun i key other => absorb_get (fun key other => parting_get other) i key other, fun id _ _ => ?_⟩
    have same : ((s.world (shardIndex b)).parting b k).queues = s.queues := by
      unfold World.parting
      split <;> rfl
    exact congrFun same id

/-- What a connection does is confined to the channel it is bound to. -/
theorem step_confined (bound : Bound s) {event : Event τ} (acts : event.actor = some k) {ch : String}
    (own : ∀ b, (s.tasks k).binding = some b → b = ch) : Confined ch k s (step read s event) := by
  have takes := step_takes read s event
  generalize step read s event = t at takes ⊢
  cases takes with
  | idle => exact .own rfl fun _ _ => rfl
  | receive reading =>
    cases acts
    exact .own receive_rest.1 fun _ other => receive_queues other
  | process checked handled processed =>
    cases acts
    rename_i raw msg atCapacity r w
    obtain rfl := own _ (bound.checked k raw msg atCapacity checked)
    refine ⟨fun i key other => absorb_get (fun key other => handled.others other) i key other, ?_⟩
    intro id other stranger
    exact handled.strangers other stranger
  | count processed =>
    cases acts
    rename_i result
    cases result with
    | reject frame => exact .own rfl fun _ other => telling_queues other
    | _ => exact .own rfl fun _ _ => rfl
  | leave leaving =>
    cases acts
    exact leave_confined own
  | connect => cases acts
  | sweep => cases acts
  | enter => cases acts
  | drain => cases acts
  | giveUp => cases acts
  | shut => cases acts
  | tick => cases acts

end Steps

/-- If this is a step of the connection, it is confined to the channel. -/
def KeepsTo (read : τ → Except CloseReason ClientMessage) (k : Nat) (ch : String) (s : AppState τ) (event : Event τ) :
    Prop := event.actor = some k → Confined ch k s (step read s event)

theorem along_keepsTo {read : τ → Except CloseReason ClientMessage} {s : AppState τ} {k : Nat} {ch : String}
    {events : List (Event τ)} (bound : Bound s)
    (own : ∀ b, ((run (step read) s events).tasks k).binding = some b → b = ch) :
    Along (step read) (KeepsTo read k ch) s events := by
  induction events generalizing s with
  | nil => trivial
  | cons event rest ih =>
    refine ⟨fun acts => ?_, ih (step_bound bound event) own⟩
    apply step_confined bound acts
    intro b binding
    exact own b (run_binding (event :: rest) bound binding)

/-- A message is confined to its channel and passes on the text it came as, and for every
connection of a run there is one channel that all its steps are confined to. -/
theorem channels_isolated :
    (∀ (s t : World τ) (connId sender : Nat) (raw : τ) (msg : ClientMessage) (atCapacity : Bool) (r : ProcessResult τ),
      processMessage connId sender raw msg atCapacity s = .ok r t →
        (∀ other, other ≠ msg.channelId → t.channels.get other = s.channels.get other) ∧
        (∀ id, id ≠ sender → (∀ c, s.channels.get msg.channelId = some c → ¬ c.Registers id) →
          t.queues id = s.queues id) ∧
        Adds (PassesOn raw) s.trace t.trace) ∧
      ∀ (read : τ → Except CloseReason ClientMessage) (config : Config) (clock : Clock) (saved : Option Saved)
        (events : List (Event τ)) (k : Nat),
        ∃ ch, Along (step read) (KeepsTo read k ch) (.boot τ config clock saved) events := by
  constructor
  · intro s t connId sender raw msg atCapacity r processed
    have handled := handled_of_ok processed
    exact ⟨fun _ different => handled.others different, fun _ other stranger => handled.strangers other stranger,
      handled.passesOn⟩
  · intro read config clock saved events k
    refine ⟨((run (step read) (.boot τ config clock saved) events).tasks k).binding.getD "", ?_⟩
    apply along_keepsTo (boot_booted τ config clock saved).bound
    intro b binding
    rw [binding]
    rfl

end WalletPair.Relay.Server
