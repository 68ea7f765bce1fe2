import WalletPair.Lib.Run
import WalletPair.Relay.Server.Messages

/-! The server as a whole: 64 shards, the counter of all channels, one task for every
connection and one for the clean-up. A task takes its steps one at a time: it reads a
frame and looks at the counter, processes the message under the lock of one shard, and
counts what became of it; other tasks may run in between. How a text is read (its size
and `parse_message`) is a parameter, since nothing here depends on it. -/

namespace WalletPair.Relay.Server
open WalletPair.Lib WalletPair.Lib.Program WalletPair.Lib.Run

/-! ### Shards -/

/-- A hash of the first eight bytes of the channel id, as machine arithmetic has it. -/
def shardIndex (ch : String) : Fin 64 :=
  let h : BitVec 64 := ((Sdk.utf8ToBytes ch).take 8).foldl (fun h b => h * 31 + BitVec.ofNat 64 b.toNat) 0
  Fin.ofNat 64 (h &&& 63).toNat

structure Config where
  maxChannels : BitVec 64
  outboundQueueSize : Nat
  pendingRequestLimit : Nat
  unpairedTtlSecs : Nat
  connectedTtlSecs : Nat

/-! ### Tasks -/

/-- Where the task of a connection stands. -/
inductive Stage (τ : Type) where
  | reading
  | checked (raw : τ) (msg : ClientMessage) (atCapacity : Bool)
  | processed (result : ProcessResult τ)
  | leaving
  | done

structure Task (τ : Type) where
  binding : Option String := none
  stage : Stage τ := .done

/-- What a connection delivers. A stream that ends or fails hangs up. -/
inductive Incoming (τ : Type) where
  | text (raw : τ)
  | binary
  | hangUp
  | shutdown

/-- The server. The clean-up knows its next shard and how many channels it removed. -/
structure AppState (τ : Type) where
  config : Config
  shards : Fin 64 → OrderedMap Channel
  totalChannels : BitVec 64
  activeChannels : Int
  queues : Nat → Queue τ
  clock : Clock
  trace : List (Obs τ)
  tasks : Nat → Task τ
  nextConn : Nat
  cleaner : Option (Nat × Nat)

def AppState.fresh (τ : Type) (config : Config) : AppState τ :=
  { config
    shards := fun _ => OrderedMap.empty
    totalChannels := 0
    activeChannels := 0
    queues := fun _ => {}
    clock := {}
    trace := []
    tasks := fun _ => {}
    nextConn := 1
    cleaner := none }

variable {τ : Type}

/-- A shard under its lock, with everything a handler reaches. -/
def AppState.world (s : AppState τ) (i : Fin 64) : World τ :=
  { channels := s.shards i
    pendingRequestLimit := s.config.pendingRequestLimit
    unpairedTtlSecs := s.config.unpairedTtlSecs
    connectedTtlSecs := s.config.connectedTtlSecs
    queues := s.queues
    activeChannels := s.activeChannels
    clock := s.clock
    trace := s.trace }

/-- The server after a handler has left its shard. -/
def AppState.absorb (s : AppState τ) (i : Fin 64) (w : World τ) : AppState τ :=
  { s with
    shards := Function.update s.shards i w.channels
    queues := w.queues
    activeChannels := w.activeChannels
    trace := w.trace }

def AppState.setTask (s : AppState τ) (k : Nat) (task : Task τ) : AppState τ :=
  { s with tasks := Function.update s.tasks k task }

/-- The channel under its id, where `lock_shard` looks for it. -/
def AppState.channel (s : AppState τ) (ch : String) : Option Channel := (s.shards (shardIndex ch)).get ch

/-- Another stage of the same task. -/
def AppState.moveTo (s : AppState τ) (k : Nat) (stage : Stage τ) : AppState τ :=
  s.setTask k { s.tasks k with stage }

/-- A frame for the connection's own queue. -/
def AppState.telling (s : AppState τ) (k : Nat) (ch : String) (frame : Frame τ) : AppState τ :=
  { s with
    queues := ((s.world 0).sending k ch frame).queues
    trace := ((s.world 0).sending k ch frame).trace }

/-- The connection is told why, and the read loop ends. -/
def AppState.dismiss (s : AppState τ) (k : Nat) (ch : String) (reason : CloseReason) : AppState τ :=
  (s.telling k ch (buildTerminate ch reason s.clock)).moveTo k .leaving

def AppState.atCapacity (s : AppState τ) : Bool := s.config.maxChannels ≤ s.totalChannels

def AppState.setQueue (s : AppState τ) (id : Nat) (q : Queue τ) : AppState τ :=
  { s with queues := Function.update s.queues id q }

/-! ### Steps of a connection -/

/-- A new connection, under the next number, with a queue of its own. -/
def AppState.connect (s : AppState τ) : AppState τ :=
  { (s.setTask s.nextConn ⟨none, .reading⟩).setQueue s.nextConn { capacity := s.config.outboundQueueSize } with
    nextConn := s.nextConn + 1 }

/-- The message goes to the shard of its channel, with the counter as it is now. -/
def AppState.check (s : AppState τ) (k : Nat) (raw : τ) (msg : ClientMessage) : AppState τ :=
  s.setTask k ⟨some msg.channelId, .checked raw msg s.atCapacity⟩

/-- A message that was read: it must be for the channel the connection is bound to, and
the first one binds it. `limited` is the answer of the rate limiter to a first create. -/
def AppState.allow (s : AppState τ) (k : Nat) (raw : τ) (msg : ClientMessage) (limited : Bool) : AppState τ :=
  match (s.tasks k).binding with
  | some bound =>
    if msg.channelId ≠ bound then s.dismiss k msg.channelId .protocolError else s.check k raw msg
  | none =>
    match msg with
    | .create ch _ => if limited then s.dismiss k ch .rateLimited else s.check k raw msg
    | .join _ _ _ => s.check k raw msg
    | _ => s.dismiss k msg.channelId .invalidState

/-- The name of the channel in a notice about a frame that could not be read. -/
def AppState.boundOr (s : AppState τ) (k : Nat) : String := (s.tasks k).binding.getD "unknown"

section
variable (read : τ → Except CloseReason ClientMessage)

def AppState.receive (s : AppState τ) (k : Nat) (incoming : Incoming τ) (limited : Bool) : AppState τ :=
  match incoming with
  | .hangUp => s.moveTo k .leaving
  | .shutdown =>
    match (s.tasks k).binding with
    | some bound => s.dismiss k bound .timeout
    | none => s.moveTo k .leaving
  | .binary => s.dismiss k (s.boundOr k) .protocolError
  | .text raw =>
    match read raw with
    | .error reason => s.dismiss k (s.boundOr k) reason
    | .ok msg => s.allow k raw msg limited

end

/-- `process_message` under the lock of the message's shard. -/
def AppState.process (s : AppState τ) (k : Nat) (raw : τ) (msg : ClientMessage) (atCapacity : Bool) : AppState τ :=
  let i := shardIndex msg.channelId
  match processMessage k k raw msg atCapacity (s.world i) with
  | .ok result w => (s.absorb i w).moveTo k (.processed result)
  | .error _ w => (s.absorb i w).moveTo k .leaving

/-- What the result of a message does to the counter and to the connection. -/
def AppState.count (s : AppState τ) (k : Nat) (result : ProcessResult τ) : AppState τ :=
  match result with
  | .ok => s.moveTo k .reading
  | .okCreated => ({ s with totalChannels := s.totalChannels + 1 } : AppState τ).moveTo k .reading
  | .okRemoved => ({ s with totalChannels := s.totalChannels - 1 } : AppState τ).moveTo k .reading
  | .reject frame => (s.telling k (s.boundOr k) frame).moveTo k .leaving

/-- The connection leaves the channel it is bound to. -/
def AppState.leave (s : AppState τ) (k : Nat) : AppState τ :=
  match (s.tasks k).binding with
  | none => s.moveTo k .done
  | some ch => (s.absorb (shardIndex ch) (after (disconnectPeer ch k) (s.world (shardIndex ch)))).moveTo k .done

/-! ### Clean-up and queues -/

/-- One shard after the other, then the counter. -/
def AppState.sweep (s : AppState τ) : AppState τ :=
  match s.cleaner with
  | none => { s with cleaner := some (0, 0) }
  | some (i, removed) =>
    if i < 64 then
      match cleanupExpired (s.world (Fin.ofNat 64 i)) with
      | .ok count w => { s.absorb (Fin.ofNat 64 i) w with cleaner := some (i + 1, removed + count) }
      | .error _ _ => s
    else { s with
      totalChannels := if 0 < removed then s.totalChannels - BitVec.ofNat 64 removed else s.totalChannels
      cleaner := none }

/-- A notice that waited takes a free place. -/
def AppState.enter (s : AppState τ) (id : Nat) : AppState τ :=
  let q := s.queues id
  match q.waiting with
  | [] => s
  | frame :: rest =>
    if q.isClosed then s.setQueue id { q with waiting := rest }
    else if q.hasRoom then
      { s.setQueue id { q with frames := q.frames ++ [frame], waiting := rest } with
        trace := s.trace ++ [.enqueued id (match frame with
          | .notice ch _ _ => ch
          | .forwarded _ => "") frame] }
    else s

/-! ### Runs -/

/-- What can happen next. The write task of a connection drains its queue, or stops and
so closes it; a notice that waits for a place enters or gives up. -/
inductive Event (τ : Type) where
  | connect
  | receive (k : Nat) (incoming : Incoming τ) (limited : Bool)
  | process (k : Nat)
  | count (k : Nat)
  | leave (k : Nat)
  | sweep
  | drain (id : Nat)
  | enter (id : Nat)
  | giveUp (id : Nat)
  | shut (id : Nat)
  | tick (clock : Clock)

variable (read : τ → Except CloseReason ClientMessage)

/-- One step; it does nothing where the task is not at the stage for it. -/
def step (s : AppState τ) : Event τ → AppState τ
  | .connect => s.connect
  | .receive k incoming limited =>
    match (s.tasks k).stage with
    | .reading => s.receive read k incoming limited
    | _ => s
  | .process k =>
    match (s.tasks k).stage with
    | .checked raw msg atCapacity => s.process k raw msg atCapacity
    | _ => s
  | .count k =>
    match (s.tasks k).stage with
    | .processed result => s.count k result
    | _ => s
  | .leave k =>
    match (s.tasks k).stage with
    | .leaving => s.leave k
    | _ => s
  | .sweep => s.sweep
  | .drain id => s.setQueue id { s.queues id with frames := (s.queues id).frames.tail }
  | .enter id => s.enter id
  | .giveUp id => s.setQueue id { s.queues id with waiting := (s.queues id).waiting.tail }
  | .shut id => s.setQueue id { s.queues id with isClosed := true, frames := [] }
  | .tick clock => { s with clock }

/-- What can come of an event: nothing, if the task is not at the stage for it. -/
inductive Takes (s : AppState τ) : Event τ → AppState τ → Prop where
  | idle {event : Event τ}
    (unready : ∀ k raw msg atCapacity, event = .process k → (s.tasks k).stage ≠ .checked raw msg atCapacity) :
    Takes s event s
  | connect : Takes s .connect s.connect
  | receive {k : Nat} {incoming : Incoming τ} {limited : Bool} (reading : (s.tasks k).stage = .reading) :
    Takes s (.receive k incoming limited) (s.receive read k incoming limited)
  | process {k : Nat} {raw : τ} {msg : ClientMessage} {atCapacity : Bool} {r : ProcessResult τ} {w : World τ}
    (checked : (s.tasks k).stage = .checked raw msg atCapacity)
    (handled : Handled (s.world (shardIndex msg.channelId)) k k raw atCapacity msg r w)
    (processed : processMessage k k raw msg atCapacity (s.world (shardIndex msg.channelId)) = .ok r w) :
    Takes s (.process k) ((s.absorb (shardIndex msg.channelId) w).moveTo k (.processed r))
  | count {k : Nat} {result : ProcessResult τ} (processed : (s.tasks k).stage = .processed result) :
    Takes s (.count k) (s.count k result)
  | leave {k : Nat} (leaving : (s.tasks k).stage = .leaving) : Takes s (.leave k) (s.leave k)
  | sweep : Takes s .sweep s.sweep
  | enter {id : Nat} : Takes s (.enter id) (s.enter id)
  | drain {id : Nat} : Takes s (.drain id) (s.setQueue id { s.queues id with frames := (s.queues id).frames.tail })
  | giveUp {id : Nat} : Takes s (.giveUp id) (s.setQueue id { s.queues id with waiting := (s.queues id).waiting.tail })
  | shut {id : Nat} : Takes s (.shut id) (s.setQueue id { s.queues id with isClosed := true, frames := [] })
  | tick {clock : Clock} : Takes s (.tick clock) { s with clock }

theorem step_takes (s : AppState τ) (event : Event τ) : Takes read s event (step read s event) := by
  cases event with
  | connect => exact .connect
  | receive k incoming limited =>
    simp only [step]
    cases stage : (s.tasks k).stage with
    | reading => exact .receive stage
    | _ => exact .idle nofun
  | process k =>
    simp only [step]
    cases stage : (s.tasks k).stage with
    | checked raw msg atCapacity =>
      obtain ⟨r, w, processed, handled⟩ :=
        processMessage_handled k k raw msg atCapacity (s.world (shardIndex msg.channelId))
      dsimp only
      unfold AppState.process
      dsimp only
      rw [processed]
      exact .process stage handled processed
    | _ =>
      apply Takes.idle
      rintro _ raw msg atCapacity ⟨⟩ checked
      rw [stage] at checked
      cases checked
  | count k =>
    simp only [step]
    cases stage : (s.tasks k).stage with
    | processed result => exact .count stage
    | _ => exact .idle nofun
  | leave k =>
    simp only [step]
    cases stage : (s.tasks k).stage with
    | leaving => exact .leave stage
    | _ => exact .idle nofun
  | sweep => exact .sweep
  | drain id => exact .drain
  | enter id => exact .enter
  | giveUp id => exact .giveUp
  | shut id => exact .shut
  | tick clock => exact .tick

/-! ### What a step does to the tasks -/

/-- The connection whose task takes the step. -/
def Event.actor : Event τ → Option Nat
  | .receive k _ _ => some k
  | .process k => some k
  | .count k => some k
  | .leave k => some k
  | _ => none

/-- A task stays where it is, moves on under the same binding, or has read a message for
the channel it is bound to, if it is bound to one. -/
inductive Task.Advances (old : Task τ) : Task τ → Prop where
  | stayed : Task.Advances old old
  | moved {stage : Stage τ} (unchecked : ∀ raw msg atCapacity, stage ≠ .checked raw msg atCapacity) :
    Task.Advances old { old with stage }
  | checked {raw : τ} {msg : ClientMessage} {atCapacity : Bool}
    (own : old.binding = none ∨ old.binding = some msg.channelId) :
    Task.Advances old ⟨some msg.channelId, .checked raw msg atCapacity⟩

section Tasks
variable {read : τ → Except CloseReason ClientMessage} {s : AppState τ} {k : Nat}

theorem moveTo_tasks (s : AppState τ) (k : Nat) (stage : Stage τ) :
    (s.moveTo k stage).tasks = Function.update s.tasks k { s.tasks k with stage } := rfl

theorem moveTo_advances {stage : Stage τ} (unchecked : ∀ raw msg atCapacity, stage ≠ .checked raw msg atCapacity) :
    (s.tasks k).Advances ((s.moveTo k stage).tasks k) := by
  rw [moveTo_tasks, Function.update_self]
  exact .moved unchecked

theorem dismiss_advances (ch : String) (reason : CloseReason) : (s.tasks k).Advances ((s.dismiss k ch reason).tasks k) :=
  moveTo_advances (s := s.telling k ch (buildTerminate ch reason s.clock)) nofun

theorem check_task (s : AppState τ) (k : Nat) (raw : τ) (msg : ClientMessage) :
    (s.check k raw msg).tasks k = ⟨some msg.channelId, .checked raw msg s.atCapacity⟩ := Function.update_self _ _ _

theorem check_advances {raw : τ} {msg : ClientMessage}
    (own : (s.tasks k).binding = none ∨ (s.tasks k).binding = some msg.channelId) :
    (s.tasks k).Advances ((s.check k raw msg).tasks k) := by
  rw [check_task]
  exact .checked own

/-- What reading a frame comes to: the end, with or without a word, or a message for the
channel that the connection is bound to. -/
theorem receive_cases (read : τ → Except CloseReason ClientMessage) (s : AppState τ) (k : Nat) (incoming : Incoming τ)
    (limited : Bool) :
    s.receive read k incoming limited = s.moveTo k .leaving ∨
      (∃ ch reason, s.receive read k incoming limited = s.dismiss k ch reason) ∨
      ∃ raw msg, incoming = .text raw ∧ read raw = .ok msg ∧ s.receive read k incoming limited = s.check k raw msg ∧
        ((s.tasks k).binding = none ∨ (s.tasks k).binding = some msg.channelId) := by
  have allowed : ∀ raw msg, (∃ ch reason, s.allow k raw msg limited = s.dismiss k ch reason) ∨
      s.allow k raw msg limited = s.check k raw msg ∧
        ((s.tasks k).binding = none ∨ (s.tasks k).binding = some msg.channelId) := by
    intro raw msg
    unfold AppState.allow
    cases binding : (s.tasks k).binding with
    | some bound =>
      dsimp only
      split
      · exact Or.inl ⟨_, _, rfl⟩
      · rename_i same
        exact Or.inr ⟨rfl, Or.inr (congrArg some (not_not.mp same).symm)⟩
    | none =>
      dsimp only
      split
      · split
        · exact Or.inl ⟨_, _, rfl⟩
        · exact Or.inr ⟨rfl, Or.inl rfl⟩
      · exact Or.inr ⟨rfl, Or.inl rfl⟩
      · exact Or.inl ⟨_, _, rfl⟩
  unfold AppState.receive
  cases incoming with
  | hangUp => exact Or.inl rfl
  | shutdown =>
    dsimp only
    split
    · exact Or.inr (Or.inl ⟨_, _, rfl⟩)
    · exact Or.inl rfl
  | binary => exact Or.inr (Or.inl ⟨_, _, rfl⟩)
  | text raw =>
    dsimp only
    cases message : read raw with
    | error reason => exact Or.inr (Or.inl ⟨_, _, rfl⟩)
    | ok msg =>
      rcases allowed raw msg with dismissed | ⟨checked, own⟩
      · exact Or.inr (Or.inl dismissed)
      · exact Or.inr (Or.inr ⟨raw, msg, rfl, message, checked, own⟩)

theorem receive_advances {incoming : Incoming τ} {limited : Bool} :
    (s.tasks k).Advances ((s.receive read k incoming limited).tasks k) := by
  rcases receive_cases read s k incoming limited with same | ⟨ch, reason, same⟩ | ⟨raw, msg, -, -, same, own⟩
  · rw [same]
    exact moveTo_advances nofun
  · rw [same]
    exact dismiss_advances ch reason
  · rw [same]
    exact check_advances own

theorem count_advances {result : ProcessResult τ} : (s.tasks k).Advances ((s.count k result).tasks k) := by
  cases result with
  | ok => exact moveTo_advances nofun
  | okCreated => exact moveTo_advances (s := { s with totalChannels := s.totalChannels + 1 }) nofun
  | okRemoved => exact moveTo_advances (s := { s with totalChannels := s.totalChannels - 1 }) nofun
  | reject frame => exact moveTo_advances (s := s.telling k (s.boundOr k) frame) nofun

theorem leave_advances : (s.tasks k).Advances ((s.leave k).tasks k) := by
  unfold AppState.leave
  split
  · exact moveTo_advances nofun
  · exact moveTo_advances (s := s.absorb _ _) nofun

/-- Only the task of the connection itself moves. -/
theorem dismiss_tasks {j : Nat} (ch : String) (reason : CloseReason) (different : j ≠ k) :
    (s.dismiss k ch reason).tasks j = s.tasks j := Function.update_of_ne different _ _

theorem receive_tasks {incoming : Incoming τ} {limited : Bool} {j : Nat} (different : j ≠ k) :
    (s.receive read k incoming limited).tasks j = s.tasks j := by
  rcases receive_cases read s k incoming limited with same | ⟨ch, reason, same⟩ | ⟨raw, msg, -, -, same, -⟩
  · rw [same]
    exact Function.update_of_ne different _ _
  · rw [same]
    exact dismiss_tasks ch reason different
  · rw [same]
    exact Function.update_of_ne different _ _

/-- Everything but the task, its queue and the record stays. -/
theorem receive_rest {incoming : Incoming τ} {limited : Bool} :
    (s.receive read k incoming limited).shards = s.shards ∧
      (s.receive read k incoming limited).totalChannels = s.totalChannels ∧
      (s.receive read k incoming limited).activeChannels = s.activeChannels ∧
      (s.receive read k incoming limited).nextConn = s.nextConn ∧
      (s.receive read k incoming limited).cleaner = s.cleaner ∧
      (s.receive read k incoming limited).config = s.config := by
  rcases receive_cases read s k incoming limited with same | ⟨ch, reason, same⟩ | ⟨raw, msg, -, -, same, -⟩ <;>
    rw [same] <;> exact ⟨rfl, rfl, rfl, rfl, rfl, rfl⟩

theorem count_tasks {result : ProcessResult τ} {j : Nat} (different : j ≠ k) : (s.count k result).tasks j = s.tasks j := by
  cases result <;> exact Function.update_of_ne different _ _

theorem leave_tasks {j : Nat} (different : j ≠ k) : (s.leave k).tasks j = s.tasks j := by
  unfold AppState.leave
  split <;> exact Function.update_of_ne different _ _

theorem sweep_tasks (s : AppState τ) : s.sweep.tasks = s.tasks := by
  unfold AppState.sweep
  split
  · rfl
  · split
    · split <;> rfl
    · rfl

theorem enter_tasks (s : AppState τ) (id : Nat) : (s.enter id).tasks = s.tasks := by
  unfold AppState.enter
  dsimp only
  split
  · rfl
  · split_ifs <;> rfl

/-- What one step does to one task. -/
theorem step_task (read : τ → Except CloseReason ClientMessage) (s : AppState τ) (event : Event τ) (k : Nat) :
    (s.tasks k).Advances ((step read s event).tasks k) ∨
      event = .connect ∧ k = s.nextConn ∧ (step read s event).tasks k = ⟨none, .reading⟩ := by
  have other : ∀ {j : Nat} {t : AppState τ}, (s.tasks j).Advances (t.tasks j) → (∀ i, i ≠ j → t.tasks i = s.tasks i) →
      (s.tasks k).Advances (t.tasks k) := by
    intro j t own rest
    by_cases same : k = j
    · rw [same]
      exact own
    · rw [rest k same]
      exact .stayed
  have still : ∀ {t : AppState τ}, t.tasks = s.tasks → (s.tasks k).Advances (t.tasks k) := by
    intro t same
    rw [same]
    exact .stayed
  have takes := step_takes read s event
  generalize step read s event = t at takes ⊢
  cases takes with
  | idle => exact Or.inl .stayed
  | connect =>
    by_cases new : k = s.nextConn
    · right
      rw [new]
      exact ⟨rfl, rfl, Function.update_self _ _ _⟩
    · left
      have same : s.connect.tasks k = s.tasks k := Function.update_of_ne new _ _
      rw [same]
      exact .stayed
  | receive reading => exact Or.inl (other receive_advances fun _ different => receive_tasks different)
  | process checked handled processed =>
    exact Or.inl (other (moveTo_advances (s := s.absorb _ _) nofun) fun _ different => Function.update_of_ne different _ _)
  | count processed => exact Or.inl (other count_advances fun _ different => count_tasks different)
  | leave leaving => exact Or.inl (other leave_advances fun _ different => leave_tasks different)
  | sweep => exact Or.inl (still (sweep_tasks s))
  | enter => exact Or.inl (still (enter_tasks s _))
  | drain => exact Or.inl .stayed
  | giveUp => exact Or.inl .stayed
  | shut => exact Or.inl .stayed
  | tick => exact Or.inl .stayed

/-- No step changes the configuration, and only a tick the clock. -/
theorem step_settings (read : τ → Except CloseReason ClientMessage) (s : AppState τ) (event : Event τ) :
    (step read s event).config = s.config ∧
      ((∀ clock, event ≠ .tick clock) → (step read s event).clock = s.clock) := by
  have takes := step_takes read s event
  generalize step read s event = t at takes ⊢
  cases takes with
  | receive reading =>
    rename_i k incoming limited
    rcases receive_cases read s k incoming limited with same | ⟨ch, reason, same⟩ | ⟨raw, msg, -, -, same, -⟩ <;>
      rw [same] <;> exact ⟨rfl, fun _ => rfl⟩
  | count processed =>
    rename_i k result
    cases result <;> exact ⟨rfl, fun _ => rfl⟩
  | leave leaving =>
    unfold AppState.leave
    split <;> exact ⟨rfl, fun _ => rfl⟩
  | sweep =>
    unfold AppState.sweep
    split
    · exact ⟨rfl, fun _ => rfl⟩
    · split
      · split <;> exact ⟨rfl, fun _ => rfl⟩
      · exact ⟨rfl, fun _ => rfl⟩
  | enter =>
    unfold AppState.enter
    dsimp only
    split
    · exact ⟨rfl, fun _ => rfl⟩
    · split_ifs <;> exact ⟨rfl, fun _ => rfl⟩
  | tick => exact ⟨rfl, fun still => absurd rfl (still _)⟩
  | _ => exact ⟨rfl, fun _ => rfl⟩

end Tasks

end WalletPair.Relay.Server
