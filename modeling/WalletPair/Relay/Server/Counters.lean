import WalletPair.Relay.Server.Registration

/-! The two counters of the channels. The gauge follows the shards inside the handlers;
the atomic total follows one step behind, in the task of the connection or of the clean-up.
Between them stands what is owed: messages that were processed and not yet counted, and
channels that the clean-up has removed and not yet taken off. -/

namespace WalletPair.Relay.Server
open WalletPair.Lib WalletPair.Lib.Program WalletPair.Lib.Run

variable {τ : Type}

/-! ### What is owed -/

/-- What a result does to the number of channels, as its task counts it. -/
def ProcessResult.gain : ProcessResult τ → Int
  | .okCreated => 1
  | .okRemoved => -1
  | _ => 0

/-- What a task has still to count. -/
def Stage.gain : Stage τ → Int
  | .processed result => result.gain
  | _ => 0

/-- A weight of the stages, summed over all connections. -/
def AppState.tally (s : AppState τ) (weight : Stage τ → Int) : Int :=
  ∑ k ∈ Finset.range s.nextConn, weight (s.tasks k).stage

/-- Channels that the clean-up has removed and not yet taken off the total. -/
def AppState.swept (s : AppState τ) : Int :=
  match s.cleaner with
  | some (_, removed) => removed
  | none => 0

section Tally
variable {s t : AppState τ} {k : Nat}

theorem tally_congr (weight : Stage τ → Int) (tasks : t.tasks = s.tasks) (conns : t.nextConn = s.nextConn) :
    t.tally weight = s.tally weight := by
  unfold AppState.tally
  rw [conns, tasks]

/-- One task moves. -/
theorem tally_of_moved (weight : Stage τ → Int) (live : k < s.nextConn) (others : ∀ j, j ≠ k → t.tasks j = s.tasks j)
    (conns : t.nextConn = s.nextConn) :
    t.tally weight + weight (s.tasks k).stage = s.tally weight + weight (t.tasks k).stage := by
  have member : k ∈ Finset.range s.nextConn := Finset.mem_range.mpr live
  unfold AppState.tally
  rw [conns, ← Finset.add_sum_erase _ _ member, ← Finset.add_sum_erase (Finset.range s.nextConn)
    (fun k => weight (s.tasks k).stage) member]
  have rest : ∑ j ∈ (Finset.range s.nextConn).erase k, weight (t.tasks j).stage =
      ∑ j ∈ (Finset.range s.nextConn).erase k, weight (s.tasks j).stage := by
    apply Finset.sum_congr rfl
    intro j mem
    rw [others j (Finset.ne_of_mem_erase mem)]
  rw [rest]
  omega

theorem connect_tally {weight : Stage τ → Int} (free : weight .reading = 0) (s : AppState τ) :
    s.connect.tally weight = s.tally weight := by
  unfold AppState.tally
  change ∑ k ∈ Finset.range (s.nextConn + 1), weight (s.connect.tasks k).stage = _
  have new : s.connect.tasks s.nextConn = ⟨none, .reading⟩ := Function.update_self _ _ _
  rw [Finset.sum_range_succ, new, free, add_zero]
  apply Finset.sum_congr rfl
  intro j mem
  have other : j ≠ s.nextConn := (Finset.mem_range.mp mem).ne
  rw [show s.connect.tasks j = s.tasks j from Function.update_of_ne other _ _]

end Tally

/-! ### What a message does to the counters -/

section Message
variable {s t : World τ} {connId sender : Nat} {raw : τ} {atCapacity : Bool} {msg : ClientMessage} {r : ProcessResult τ}

theorem sending_active (s : World τ) (id : Nat) (ch : String) (frame : Frame τ) :
    (s.sending id ch frame).activeChannels = s.activeChannels := by
  unfold World.sending
  dsimp only
  split_ifs <;> rfl

theorem sendingTo_active (s : World τ) (id : Option Nat) (ch : String) (frame : Frame τ) :
    (s.sendingTo id ch frame).activeChannels = s.activeChannels := by
  cases id with
  | none => rfl
  | some id => exact sending_active s id ch frame

theorem removing_counts {ch : String} {c : Channel} (found : s.channels.get ch = some c) :
    ((s.removing ch).channels.size : Int) = s.channels.size - 1 ∧ (s.removing ch).activeChannels = s.activeChannels - 1 := by
  have smaller := OrderedMap.size_delete (OrderedMap.mem_keys_of_get found)
  unfold World.removing
  rw [if_pos (by simp [found])]
  refine ⟨?_, rfl⟩
  change ((s.channels.delete ch).size : Int) = _
  omega

theorem creating_counts (connId sender : Nat) {ch : String} (peer : String) (absent : s.channels.get ch = none) :
    ((s.creating connId sender ch peer).channels.size : Int) = s.channels.size + 1 ∧
      (s.creating connId sender ch peer).activeChannels = s.activeChannels + 1 := by
  unfold World.creating
  rw [sending_toChannelStore, sending_active]
  refine ⟨?_, rfl⟩
  change ((s.channels.set ch _).size : Int) = _
  rw [OrderedMap.size_set_new (OrderedMap.get_eq_none.mp absent)]
  omega

theorem size_set_of_get {m : OrderedMap Channel} {ch : String} {c d : Channel} (found : m.get ch = some c) :
    (m.set ch d).size = m.size := OrderedMap.size_set_known (OrderedMap.mem_keys_of_get found)

theorem forwarding_counts (raw : τ) {ch : String} {c : Channel} {type : MessageType} {reqId : Option String} {role : Role}
    (found : s.channels.get ch = some c) :
    (s.forwarding c raw ch type reqId role).channels.size = s.channels.size ∧
      (s.forwarding c raw ch type reqId role).activeChannels = s.activeChannels := by
  have tracked : (s.tracking c ch type reqId).channels.size = s.channels.size := size_set_of_get found
  unfold World.forwarding
  dsimp only
  split
  · exact ⟨tracked, rfl⟩
  · rename_i id other
    have told : ((s.tracking c ch type reqId).sending id ch (.forwarded raw)).channels =
        (s.tracking c ch type reqId).channels := congrArg ChannelStore.channels (sending_toChannelStore _ _ _ _)
    have still : ((s.tracking c ch type reqId).sending id ch (.forwarded raw)).channels.get ch =
        some (c.tracking type reqId) := by
      rw [told]
      exact OrderedMap.get_set_self _ _ _
    split
    · exact ⟨(congrArg OrderedMap.size told).trans tracked, sending_active _ _ _ _⟩
    · refine ⟨?_, sending_active _ _ _ _⟩
      change (((s.tracking c ch type reqId).sending id ch (.forwarded raw)).channels.set ch _).size = _
      rw [size_set_of_get still, told]
      exact tracked

/-- A message that replaces no channel changes the shard and the gauge by what its task
will count. -/
theorem Handled.counts (handled : Handled s connId sender raw atCapacity msg r t) (keeps : ¬ s.Replaces msg) :
    (t.channels.size : Int) = s.channels.size + r.gain ∧ t.activeChannels = s.activeChannels + r.gain := by
  cases handled with
  | refused reason target => exact ⟨(add_zero _).symm, (add_zero _).symm⟩
  | evicted found replaceable full => exact absurd ⟨_, found, replaceable⟩ keeps
  | created absent free => exact creating_counts _ _ _ absent
  | replaced found replaceable free => exact absurd ⟨_, found, replaceable⟩ keeps
  | joined found waiting =>
    unfold World.joining
    rw [sending_toChannelStore, sendingTo_toChannelStore, sending_active, sendingTo_active]
    exact ⟨(congrArg Nat.cast (size_set_of_get found)).trans (add_zero _).symm, (add_zero _).symm⟩
  | accepted found dapp pending wallet =>
    unfold World.accepting
    rw [sendingTo_toChannelStore, sendingTo_toChannelStore, sendingTo_active, sendingTo_active]
    exact ⟨(congrArg Nat.cast (size_set_of_get found)).trans (add_zero _).symm, (add_zero _).symm⟩
  | forwarded data found sent allowed limit =>
    obtain ⟨size, active⟩ := forwarding_counts raw found
    rw [size, active]
    exact ⟨(add_zero _).symm, (add_zero _).symm⟩
  | ended found sent =>
    rename_i ch peer reason c role
    have still : (s.sendingTo (c.otherSender role) ch (.forwarded raw)).channels.get ch = some c := by
      rw [sendingTo_toChannelStore]
      exact found
    obtain ⟨size, active⟩ := removing_counts still
    rw [sendingTo_toChannelStore] at size
    rw [sendingTo_active] at active
    exact ⟨size, active⟩
  | gone absent => exact ⟨(add_zero _).symm, (add_zero _).symm⟩

/-- A message that replaces a channel is counted once too often. -/
theorem processed_replacing (replaces : s.Replaces msg)
    (processed : processMessage connId sender raw msg atCapacity s = .ok r t) :
    (t.channels.size : Int) + 1 = s.channels.size + r.gain ∧ t.activeChannels = s.activeChannels + r.gain := by
  cases msg with
  | create ch peer =>
    obtain ⟨c, found, replaceable⟩ := replaces
    rw [processMessage_of_replaces found replaceable] at processed
    obtain ⟨size, active⟩ := removing_counts found
    have vacated : (s.vacating ch).activeChannels = s.activeChannels := by
      change (s.removing ch).activeChannels + 1 = _
      omega
    have room : (s.vacating ch).channels.get ch = none := by
      rw [vacating_channels found]
      exact OrderedMap.get_delete_self _ _
    cases atCapacity with
    | true =>
      cases processed
      refine ⟨?_, ?_⟩
      · change ((s.removing ch).channels.size : Int) + 1 = _ + 0
        omega
      · rw [vacated]
        exact (add_zero _).symm
    | false =>
      cases processed
      obtain ⟨size', active'⟩ := creating_counts connId sender peer room
      refine ⟨?_, ?_⟩
      · rw [size']
        change ((s.removing ch).channels.size : Int) + 1 + 1 = _ + 1
        omega
      · rw [active', vacated]
        rfl
  | _ => exact replaces.elim

theorem notifying_active (s : World τ) (c : Channel) : (s.notifying c).activeChannels = s.activeChannels := by
  unfold World.notifying
  split
  · rfl
  · rw [sendingTo_active, sendingTo_active]

theorem foldl_notifying_active (entries : List (String × Channel)) (s : World τ) :
    (entries.foldl (fun s entry => s.notifying entry.2) s).activeChannels = s.activeChannels := by
  induction entries generalizing s with
  | nil => rfl
  | cons entry rest ih => exact (ih _).trans (notifying_active s entry.2)

/-- Every channel of the list goes once. -/
theorem foldl_removing_counts {entries : List (String × Channel)} (nodup : (entries.map Prod.fst).Nodup)
    (present : ∀ entry ∈ entries, s.channels.get entry.1 = some entry.2) :
    ((entries.foldl (fun s entry => s.removing entry.1) s).channels.size : Int) = s.channels.size - entries.length ∧
      (entries.foldl (fun s entry => s.removing entry.1) s).activeChannels = s.activeChannels - entries.length := by
  induction entries generalizing s with
  | nil => exact ⟨(sub_zero _).symm, (sub_zero _).symm⟩
  | cons entry rest ih =>
    rw [List.map_cons, List.nodup_cons] at nodup
    obtain ⟨size, active⟩ := removing_counts (present entry List.mem_cons_self)
    have later : ∀ other ∈ rest, (s.removing entry.1).channels.get other.1 = some other.2 := by
      intro other mem
      have different : other.1 ≠ entry.1 := fun same => nodup.1 (same ▸ List.mem_map_of_mem mem)
      rw [get_removing different]
      exact present other (List.mem_cons_of_mem _ mem)
    obtain ⟨sizes, actives⟩ := ih nodup.2 later
    rw [List.foldl_cons, List.length_cons, sizes, actives, size, active]
    omega

theorem cleaning_counts (s : World τ) :
    (s.cleaning.channels.size : Int) = s.channels.size - s.toRemove.length ∧
      s.cleaning.activeChannels = s.activeChannels - s.toRemove.length := by
  have same := foldl_notifying_toChannelStore s.toRemove s
  have nodup : (s.toRemove.map Prod.fst).Nodup := s.channels.nodup.sublist (List.filter_sublist.map _)
  have present : ∀ entry ∈ s.toRemove,
      (s.toRemove.foldl (fun s entry => s.notifying entry.2) s).channels.get entry.1 = some entry.2 := by
    intro entry mem
    rw [same]
    exact OrderedMap.get_eq_some.mpr (List.mem_of_mem_filter mem)
  have counts := foldl_removing_counts nodup present
  rwa [same, foldl_notifying_active] at counts

end Message

/-! ### Balance -/

/-- The gauge and the total are `drift` too high, when everything that is owed is counted. -/
structure Balanced (s : AppState τ) (drift : Nat) : Prop where
  total : s.totalChannels = BitVec.ofInt 64 (channelCount s.shards + drift + s.swept - s.tally Stage.gain)
  active : s.activeChannels = channelCount s.shards + drift

/-- The step processes a create that takes the place of a channel that exists. -/
def Replacing (s : AppState τ) (event : Event τ) : Prop :=
  ∃ k raw msg atCapacity, event = .process k ∧ (s.tasks k).stage = .checked raw msg atCapacity ∧
    (s.world (shardIndex msg.channelId)).Replaces msg

section Steps
variable {read : τ → Except CloseReason ClientMessage} {s : AppState τ} {k : Nat} {drift : Nat}

theorem absorb_count (s : AppState τ) (i : Fin 64) (w : World τ) :
    (channelCount (s.absorb i w).shards : Int) = channelCount s.shards + (w.channels.size - (s.shards i).size) := by
  have placed := channelCount_update s.shards i w.channels
  change (channelCount (Function.update s.shards i w.channels) : Int) = _
  omega

/-- A step that leaves shards, counters and clean-up alone and counts nothing. -/
theorem Balanced.keep {t : AppState τ} (balanced : Balanced s drift) (shards : t.shards = s.shards)
    (total : t.totalChannels = s.totalChannels) (active : t.activeChannels = s.activeChannels)
    (cleaner : t.cleaner = s.cleaner) (tally : t.tally Stage.gain = s.tally Stage.gain) :
    Balanced t drift := by
  have swept : t.swept = s.swept := by
    unfold AppState.swept
    rw [cleaner]
  constructor
  · rw [total, shards, swept, tally]
    exact balanced.total
  · rw [active, shards]
    exact balanced.active

/-- The total as a machine word, one step up or some steps down. -/
theorem ofInt_add_gain (n : Int) (result : ProcessResult τ) :
    BitVec.ofInt 64 (n + result.gain) = BitVec.ofInt 64 n + BitVec.ofInt 64 result.gain := BitVec.ofInt_add _ _

theorem ofInt_sub_natCast (n : Int) (m : Nat) :
    BitVec.ofInt 64 n - BitVec.ofNat 64 m = BitVec.ofInt 64 (n - m) := by
  rw [Int.sub_eq_add_neg, BitVec.ofInt_add, BitVec.ofInt_neg, BitVec.ofInt_natCast]
  exact BitVec.sub_eq_add_neg _ _

/-- A task that moves between stages of the same weight. -/
theorem tally_of_same {t : AppState τ} (weight : Stage τ → Int) (live : k < s.nextConn)
    (others : ∀ j, j ≠ k → t.tasks j = s.tasks j) (conns : t.nextConn = s.nextConn)
    (same : weight (t.tasks k).stage = weight (s.tasks k).stage) : t.tally weight = s.tally weight := by
  have moved := tally_of_moved weight live others conns
  rw [same] at moved
  omega

theorem receive_gain {incoming : Incoming τ} {limited : Bool} :
    ((s.receive read k incoming limited).tasks k).stage.gain = 0 := by
  rcases receive_cases read s k incoming limited with same | ⟨ch, reason, same⟩ | ⟨raw, msg, -, -, same, -⟩
  · rw [same]
    exact congrArg Stage.gain (moveTo_stage _ _ _)
  · rw [same]
    exact congrArg Stage.gain (moveTo_stage _ _ _)
  · rw [same, check_task]
    rfl

theorem receive_balanced (bound : Bound s) (balanced : Balanced s drift) {incoming : Incoming τ} {limited : Bool}
    (reading : (s.tasks k).stage = .reading) : Balanced (s.receive read k incoming limited) drift := by
  obtain ⟨shards, total, active, conns, cleaner, -⟩ := @receive_rest τ read s k incoming limited
  apply balanced.keep shards total active cleaner
  apply tally_of_same _ (live_of_stage bound (by rw [reading]; exact nofun)) (fun _ other => receive_tasks other) conns
  rw [receive_gain, reading]
  rfl

/-- What was processed is owed, and on top of it the drift of a replacement. -/
theorem process_balanced (bound : Bound s) (balanced : Balanced s drift) {raw : τ} {msg : ClientMessage}
    {atCapacity : Bool} {r : ProcessResult τ} {w : World τ} (checked : (s.tasks k).stage = .checked raw msg atCapacity)
    (extra : Nat) (size : (w.channels.size : Int) + extra = (s.shards (shardIndex msg.channelId)).size + r.gain)
    (active : w.activeChannels = s.activeChannels + r.gain) :
    Balanced ((s.absorb (shardIndex msg.channelId) w).moveTo k (.processed r)) (drift + extra) := by
  have count := absorb_count s (shardIndex msg.channelId) w
  have tally := tally_of_moved (s := s) (t := (s.absorb (shardIndex msg.channelId) w).moveTo k (.processed r))
    Stage.gain (live_of_stage bound (by rw [checked]; exact nofun))
    (fun _ other => Function.update_of_ne other _ _) rfl
  rw [checked, moveTo_stage] at tally
  change _ + 0 = _ + r.gain at tally
  have before := balanced.active
  constructor
  · change s.totalChannels = BitVec.ofInt 64 (channelCount (s.absorb (shardIndex msg.channelId) w).shards +
      (drift + extra : Nat) + s.swept - AppState.tally _ Stage.gain)
    rw [balanced.total]
    apply congrArg (BitVec.ofInt 64)
    omega
  · change w.activeChannels = (channelCount (s.absorb (shardIndex msg.channelId) w).shards : Int) + (drift + extra : Nat)
    omega

theorem count_balanced (bound : Bound s) (balanced : Balanced s drift) {r : ProcessResult τ}
    (processed : (s.tasks k).stage = .processed r) : Balanced (s.count k r) drift := by
  have live : k < s.nextConn := live_of_stage bound (by rw [processed]; exact nofun)
  have conns : (s.count k r).nextConn = s.nextConn := by cases r <;> rfl
  have stage : ((s.count k r).tasks k).stage.gain = 0 := by
    cases r <;> exact congrArg Stage.gain (moveTo_stage _ _ _)
  have tally := tally_of_moved (t := s.count k r) Stage.gain live
    (fun _ other => count_tasks other) conns
  rw [processed, stage] at tally
  change _ + r.gain = _ + 0 at tally
  have total : (s.count k r).totalChannels = s.totalChannels + BitVec.ofInt 64 r.gain := by
    cases r with
    | ok => exact (BitVec.add_zero _).symm
    | okCreated => rfl
    | okRemoved => exact BitVec.sub_eq_add_neg _ _
    | reject frame => exact (BitVec.add_zero _).symm
  have shards : (s.count k r).shards = s.shards := by cases r <;> rfl
  have swept : (s.count k r).swept = s.swept := by cases r <;> rfl
  have active : (s.count k r).activeChannels = s.activeChannels := by cases r <;> rfl
  constructor
  · rw [total, shards, swept, balanced.total, ← ofInt_add_gain]
    apply congrArg (BitVec.ofInt 64)
    omega
  · rw [active, shards]
    exact balanced.active

theorem leave_count (s : AppState τ) (k : Nat) : channelCount (s.leave k).shards = channelCount s.shards := by
  unfold AppState.leave
  split
  · rfl
  · rename_i ch binding
    rw [after_disconnectPeer]
    have size : ((s.world (shardIndex ch)).parting ch k).channels.size = (s.shards (shardIndex ch)).size := by
      unfold World.parting
      cases found : (s.world (shardIndex ch)).channels.get ch with
      | none => rfl
      | some c => exact size_set_of_get found
    have count := absorb_count s (shardIndex ch) ((s.world (shardIndex ch)).parting ch k)
    rw [size] at count
    change channelCount (s.absorb (shardIndex ch) ((s.world (shardIndex ch)).parting ch k)).shards = _
    omega

theorem leave_balanced (bound : Bound s) (balanced : Balanced s drift) (leaving : (s.tasks k).stage = .leaving) :
    Balanced (s.leave k) drift := by
  have live : k < s.nextConn := live_of_stage bound (by rw [leaving]; exact nofun)
  have conns : (s.leave k).nextConn = s.nextConn := by
    unfold AppState.leave
    split <;> rfl
  have tally : (s.leave k).tally Stage.gain = s.tally Stage.gain := by
    apply tally_of_same _ live (fun _ other => leave_tasks other) conns
    rw [leave_stage, leaving]
    rfl
  have rest : (s.leave k).totalChannels = s.totalChannels ∧ (s.leave k).activeChannels = s.activeChannels ∧
      (s.leave k).swept = s.swept := by
    unfold AppState.leave
    split
    · exact ⟨rfl, rfl, rfl⟩
    · rename_i ch binding
      rw [after_disconnectPeer]
      refine ⟨rfl, ?_, rfl⟩
      change ((s.world (shardIndex ch)).parting ch k).activeChannels = _
      unfold World.parting
      split <;> rfl
  obtain ⟨total, active, swept⟩ := rest
  constructor
  · rw [total, leave_count, swept, tally]
    exact balanced.total
  · rw [active, leave_count]
    exact balanced.active

theorem sweep_nextConn (s : AppState τ) : s.sweep.nextConn = s.nextConn := by
  unfold AppState.sweep
  split
  · rfl
  · split
    · split <;> rfl
    · rfl

theorem sweep_balanced (balanced : Balanced s drift) : Balanced s.sweep drift := by
  have tally : s.sweep.tally Stage.gain = s.tally Stage.gain := tally_congr _ (sweep_tasks s) (sweep_nextConn s)
  have before := balanced.active
  have total := balanced.total
  unfold AppState.swept at total
  constructor
  · rw [tally]
    unfold AppState.sweep
    cases running : s.cleaner with
    | none =>
      rw [running] at total
      exact total
    | some work =>
      obtain ⟨next, removed⟩ := work
      rw [running] at total
      dsimp only at total ⊢
      split
      · rw [cleanupExpired_apply]
        have count := absorb_count s (Fin.ofNat 64 next) (s.world (Fin.ofNat 64 next)).cleaning
        have size := (cleaning_counts (s.world (Fin.ofNat 64 next))).1
        change s.totalChannels = BitVec.ofInt 64 (channelCount (s.absorb (Fin.ofNat 64 next) _).shards + drift +
          ((removed + (s.world (Fin.ofNat 64 next)).toRemove.length : Nat) : Int) - _)
        change (_ : Int) = ((s.shards (Fin.ofNat 64 next)).size : Int) - _ at size
        rw [total]
        apply congrArg (BitVec.ofInt 64)
        omega
      · change (if 0 < removed then s.totalChannels - BitVec.ofNat 64 removed else s.totalChannels) =
          BitVec.ofInt 64 (channelCount s.shards + drift + 0 - _)
        split
        · rw [total, ofInt_sub_natCast]
          apply congrArg (BitVec.ofInt 64)
          omega
        · rw [total]
          apply congrArg (BitVec.ofInt 64)
          omega
  · unfold AppState.sweep
    cases running : s.cleaner with
    | none => exact before
    | some work =>
      obtain ⟨next, removed⟩ := work
      dsimp only
      split
      · rw [cleanupExpired_apply]
        have count := absorb_count s (Fin.ofNat 64 next) (s.world (Fin.ofNat 64 next)).cleaning
        obtain ⟨size, active⟩ := cleaning_counts (s.world (Fin.ofNat 64 next))
        change (s.world (Fin.ofNat 64 next)).cleaning.activeChannels =
          (channelCount (s.absorb (Fin.ofNat 64 next) _).shards : Int) + drift
        change (_ : Int) = ((s.shards (Fin.ofNat 64 next)).size : Int) - _ at size
        change _ = s.activeChannels - _ at active
        omega
      · exact before

/-- A replacing create adds one to the drift, and nothing else does. -/
theorem step_balanced (read : τ → Except CloseReason ClientMessage) (bound : Bound s) (balanced : Balanced s drift) (event : Event τ) :
    (Replacing s event → Balanced (step read s event) (drift + 1)) ∧
      (¬ Replacing s event → Balanced (step read s event) drift) := by
  have other : (∀ k, event ≠ .process k) → Balanced (step read s event) drift →
      (Replacing s event → Balanced (step read s event) (drift + 1)) ∧
        (¬ Replacing s event → Balanced (step read s event) drift) := by
    intro elsewhere kept
    refine ⟨?_, fun _ => kept⟩
    rintro ⟨k, -, -, -, same, -⟩
    exact absurd same (elsewhere k)
  have takes := step_takes read s event
  generalize step read s event = t at takes other ⊢
  cases takes with
  | idle unready =>
    refine ⟨?_, fun _ => balanced⟩
    rintro ⟨k, raw, msg, atCapacity, process, checked, -⟩
    exact absurd checked (unready k raw msg atCapacity process)
  | connect =>
    apply other nofun
    exact balanced.keep rfl rfl rfl rfl (connect_tally rfl s)
  | receive reading => exact other nofun (receive_balanced bound balanced reading)
  | process checked handled processed =>
    rename_i k raw msg atCapacity r w
    constructor
    · rintro ⟨j, raw', msg', atCapacity', same, checked', replaces⟩
      cases same
      rw [checked] at checked'
      cases checked'
      obtain ⟨size, active⟩ := processed_replacing replaces processed
      exact process_balanced bound balanced checked 1 size active
    · intro keeps
      obtain ⟨size, active⟩ := handled.counts fun replaces => keeps ⟨k, raw, msg, atCapacity, rfl, checked, replaces⟩
      exact process_balanced bound balanced checked 0 size active
  | count processed => exact other nofun (count_balanced bound balanced processed)
  | leave leaving => exact other nofun (leave_balanced bound balanced leaving)
  | sweep => exact other nofun (sweep_balanced balanced)
  | enter =>
    apply other nofun
    unfold AppState.enter
    dsimp only
    split
    · exact balanced
    · split_ifs <;> exact ⟨balanced.total, balanced.active⟩
  | drain => exact other nofun ⟨balanced.total, balanced.active⟩
  | giveUp => exact other nofun ⟨balanced.total, balanced.active⟩
  | shut => exact other nofun ⟨balanced.total, balanced.active⟩
  | tick => exact other nofun ⟨balanced.total, balanced.active⟩

/-- The drift after a run is the one before it exactly if nothing was replaced. -/
theorem run_balanced (read : τ → Except CloseReason ClientMessage) (bound : Bound s) (balanced : Balanced s drift) (events : List (Event τ)) :
    ∃ final, Balanced (run (step read) s events) final ∧ drift ≤ final ∧
      (final = drift ↔ Along (step read) (fun s event => ¬ Replacing s event) s events) := by
  induction events generalizing s drift with
  | nil => exact ⟨drift, balanced, le_refl _, by simp [Along]⟩
  | cons event rest ih =>
    obtain ⟨drifts, keeps⟩ := step_balanced read bound balanced event
    by_cases replacing : Replacing s event
    · obtain ⟨final, after, le, -⟩ := ih (step_bound bound event) (drifts replacing)
      refine ⟨final, after, by omega, ?_⟩
      constructor
      · intro same
        omega
      · rintro ⟨kept, -⟩
        exact absurd replacing kept
    · obtain ⟨final, after, le, same⟩ := ih (step_bound bound event) (keeps replacing)
      refine ⟨final, after, le, ?_⟩
      rw [same]
      constructor
      · exact fun later => ⟨replacing, later⟩
      · exact fun all => all.2

theorem Booted.balanced {config : Config} (booted : Booted config s) : Balanced s 0 := by
  have swept : s.swept = 0 := by
    unfold AppState.swept
    rw [booted.cleaner]
  have tally : s.tally Stage.gain = 0 := by
    apply Finset.sum_eq_zero
    intro k _
    rw [booted.tasks k]
    rfl
  constructor
  · rw [swept, tally, booted.totalChannels]
    change BitVec.ofNat 64 (channelCount s.shards) = BitVec.ofInt 64 ((channelCount s.shards : Int) + 0 + 0 - 0)
    rw [add_zero, add_zero, sub_zero, BitVec.ofInt_natCast]
  · rw [booted.activeChannels]
    exact (add_zero _).symm

end Steps

/-! ### Exact counters -/

/-- The answer of the readiness probe. -/
def AppState.readyz (s : AppState τ) : Bool := s.totalChannels < s.config.maxChannels

/-- No message is between its check and its count, and no clean-up is under way. -/
structure Quiet (s : AppState τ) : Prop where
  unchecked : ∀ k raw msg atCapacity, (s.tasks k).stage ≠ .checked raw msg atCapacity
  unprocessed : ∀ k r, (s.tasks k).stage ≠ .processed r
  unswept : s.cleaner = none

/-- Both counters show the number of channels, and the server is full only if it is. -/
structure CountersExact (s : AppState τ) : Prop where
  total : s.totalChannels = BitVec.ofNat 64 (channelCount s.shards)
  active : s.activeChannels = channelCount s.shards
  full : s.atCapacity = true ∨ s.readyz = false → s.config.maxChannels.toNat ≤ channelCount s.shards

theorem exact_of_total {s : AppState τ} (total : s.totalChannels = BitVec.ofNat 64 (channelCount s.shards))
    (active : s.activeChannels = channelCount s.shards) : CountersExact s := by
  refine ⟨total, active, fun full => ?_⟩
  have reached : s.config.maxChannels ≤ s.totalChannels := by
    rcases full with capacity | unready
    · exact of_decide_eq_true capacity
    · exact BitVec.not_lt.mp (of_decide_eq_false unready)
  calc s.config.maxChannels.toNat
      ≤ s.totalChannels.toNat := BitVec.le_def.mp reached
    _ = channelCount s.shards % 2 ^ 64 := by rw [total, BitVec.toNat_ofNat]
    _ ≤ channelCount s.shards := Nat.mod_le _ _

/-- When everything is counted, what is left is the drift. -/
theorem exact_iff_of_quiet {s : AppState τ} {drift : Nat} (balanced : Balanced s drift) (quiet : Quiet s) :
    CountersExact s ↔ drift = 0 := by
  have swept : s.swept = 0 := by
    unfold AppState.swept
    rw [quiet.unswept]
  have tally : s.tally Stage.gain = 0 := by
    apply Finset.sum_eq_zero
    intro k _
    cases stage : (s.tasks k).stage with
    | processed r => exact absurd stage (quiet.unprocessed k r)
    | _ => rfl
  have active := balanced.active
  constructor
  · intro exact_
    have same := exact_.active
    omega
  · rintro rfl
    have total := balanced.total
    rw [swept, tally] at total
    apply exact_of_total
    · rw [total]
      change BitVec.ofInt 64 ((channelCount s.shards : Int) + 0 + 0 - 0) = _
      rw [add_zero, add_zero, sub_zero, BitVec.ofInt_natCast]
    · omega

/-- Whenever nothing is being processed, the counters are exact if and only if no create
has taken the place of a channel that existed. -/
theorem counters_exact_iff (read : τ → Except CloseReason ClientMessage) (config : Config) (clock : Clock)
    (saved : Option Saved) (events : List (Event τ)) (quiet : Quiet (run (step read) (.boot τ config clock saved) events)) :
    CountersExact (run (step read) (.boot τ config clock saved) events) ↔
      Along (step read) (fun s event => ¬ Replacing s event) (.boot τ config clock saved) events := by
  have booted := boot_booted τ config clock saved
  obtain ⟨final, balanced, -, same⟩ := run_balanced read booted.bound booted.balanced events
  exact (exact_iff_of_quiet balanced quiet).trans same

namespace Sample

/-- The dApp creates its channel, and creates it again on a second connection. -/
def twice : List (Event ClientMessage) :=
  ([.connect, .connect] : List (Event ClientMessage)) ++ speaks 1 (.create channel dapp) ++
    speaks 2 (.create channel dapp)

theorem quiet_of_few {s : AppState ClientMessage} (bound : Bound s) (few : s.nextConn = 3)
    (first : (s.tasks 1).stage = .reading) (second : (s.tasks 2).stage = .reading) (zeroth : (s.tasks 0).stage = .done)
    (unswept : s.cleaner = none) : Quiet s := by
  have idle : ∀ k, (s.tasks k).stage = .reading ∨ (s.tasks k).stage = .done := by
    intro k
    by_cases unborn : 3 ≤ k
    · rw [bound.unborn k (by rw [few]; exact unborn)]
      exact Or.inr rfl
    · have known : k = 0 ∨ k = 1 ∨ k = 2 := by omega
      rcases known with rfl | rfl | rfl
      · exact Or.inr zeroth
      · exact Or.inl first
      · exact Or.inl second
  refine ⟨fun k raw msg atCapacity stage => ?_, fun k r stage => ?_, unswept⟩
  · rcases idle k with same | same <;> exact nomatch same.symm.trans stage
  · rcases idle k with same | same <;> exact nomatch same.symm.trans stage

set_option maxRecDepth 4000 in
theorem twice_quiet : Quiet (run (step read) start twice) :=
  quiet_of_few (run_bound (boot_booted ClientMessage config {} none).bound twice) rfl rfl rfl rfl rfl

set_option maxRecDepth 4000 in
theorem twice_counts : (run (step read) start twice).activeChannels = 2 ∧
    channelCount (run (step read) start twice).shards = 1 := by
  decide +kernel

/-- The dApp creates its channel, and its wallet joins it. -/
def once : List (Event ClientMessage) :=
  ([.connect, .connect] : List (Event ClientMessage)) ++ speaks 1 (.create channel dapp) ++
    speaks 2 (.join channel wallet true)

set_option maxRecDepth 4000 in
theorem once_quiet : Quiet (run (step read) start once) :=
  quiet_of_few (run_bound (boot_booted ClientMessage config {} none).bound once) rfl rfl rfl rfl rfl

end Sample

theorem counters_exact_once : Quiet (run (step Sample.read) Sample.start Sample.once) ∧
    (CountersExact (run (step Sample.read) Sample.start Sample.once) ↔
      Along (step Sample.read) (fun s event => ¬ Replacing s event) Sample.start Sample.once) :=
  ⟨Sample.once_quiet, counters_exact_iff Sample.read Sample.config {} none Sample.once Sample.once_quiet⟩

/-- One channel that was created again counts as two. -/
theorem recreated_counted_twice :
    ¬ ∀ (τ : Type) (read : τ → Except CloseReason ClientMessage) (config : Config) (clock : Clock) (saved : Option Saved)
      (events : List (Event τ)), Quiet (run (step read) (.boot τ config clock saved) events) →
        CountersExact (run (step read) (.boot τ config clock saved) events) := by
  intro all
  have exact_ := all ClientMessage Sample.read Sample.config {} none Sample.twice Sample.twice_quiet
  obtain ⟨active, count⟩ := Sample.twice_counts
  have same : (2 : Int) = (1 : Nat) := by
    rw [← active, ← count]
    exact exact_.active
  omega

end WalletPair.Relay.Server
