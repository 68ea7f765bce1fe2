import Mathlib.Algebra.Order.BigOperators.Group.Finset
import WalletPair.Relay.Server.Counters

/-! The limit on the number of channels. A create reads the counter, stores its channel and
counts it in three steps, and a removal is counted after the fact, so the limit and the
counter are only safe under schedules that keep these steps apart. -/

namespace WalletPair.Relay.Server
open WalletPair.Lib WalletPair.Lib.Program WalletPair.Lib.Run

variable {τ : Type}

/-! ### Schedules -/

/-- A create that has found room. -/
def Stage.passed : Stage τ → Int
  | .checked _ (.create _ _) false => 1
  | _ => 0

/-- A create that is stored and not counted. -/
def Stage.created : Stage τ → Int
  | .processed .okCreated => 1
  | _ => 0

/-- A removal that is not counted. -/
def Stage.removed : Stage τ → Int
  | .processed .okRemoved => 1
  | _ => 0

/-- The creates between their look at the counter and their count. -/
def AppState.underway (s : AppState τ) : Int := s.tally Stage.passed + s.tally Stage.created

/-- Never more channels than the limit, and nothing is taken off the counter that is not
there. -/
structure CapacitySafe (read : τ → Except CloseReason ClientMessage) (s : AppState τ) (event : Event τ) : Prop where
  stored : channelCount (step read s event).shards ≤ s.config.maxChannels.toNat
  counted : ∀ k, event = .count k → (s.tasks k).stage = .processed .okRemoved → 1 ≤ s.totalChannels.toNat
  cleaned : ∀ i removed, event = .sweep → s.cleaner = some (i, removed) → 64 ≤ i → removed ≤ s.totalChannels.toNat

/-- A create finds room only where those under way leave some, and no removal is counted
before a create that is stored. -/
structure InTurn (read : τ → Except CloseReason ClientMessage) (s : AppState τ) (event : Event τ) : Prop where
  creates : ∀ k raw limited ch peer, event = .receive k (.text raw) limited → (s.tasks k).stage = .reading →
    read raw = .ok (.create ch peer) → s.atCapacity = false →
    (s.totalChannels.toNat : Int) + s.underway < s.config.maxChannels.toNat
  counts : ∀ k, event = .count k → (s.tasks k).stage = .processed .okRemoved →
    ∀ j, (s.tasks j).stage ≠ .processed .okCreated
  sweeps : ∀ i removed, event = .sweep → s.cleaner = some (i, removed) → 64 ≤ i → 0 < removed →
    ∀ j, (s.tasks j).stage ≠ .processed .okCreated

/-! ### The invariant -/

/-- The channels that were stored and not taken off the counter. -/
def AppState.load (s : AppState τ) : Int := channelCount s.shards + s.swept + s.tally Stage.removed

structure Roomy (s : AppState τ) : Prop where
  balanced : Balanced s 0
  covers : s.tally Stage.created ≤ s.load
  room : s.load + s.tally Stage.passed ≤ s.config.maxChannels.toNat

section Invariant
variable {s t : AppState τ} {k : Nat}

theorem gain_eq (stage : Stage τ) : stage.gain = stage.created - stage.removed := by
  cases stage with
  | processed r => cases r <;> rfl
  | _ => rfl

theorem tally_gain (s : AppState τ) : s.tally Stage.gain = s.tally Stage.created - s.tally Stage.removed := by
  unfold AppState.tally
  rw [← Finset.sum_sub_distrib]
  exact Finset.sum_congr rfl fun k _ => gain_eq (s.tasks k).stage

theorem tally_nonneg {weight : Stage τ → Int} (nonneg : ∀ stage, 0 ≤ weight stage) (s : AppState τ) : 0 ≤ s.tally weight :=
  Finset.sum_nonneg fun k _ => nonneg (s.tasks k).stage

theorem passed_nonneg (stage : Stage τ) : 0 ≤ stage.passed := by
  unfold Stage.passed
  split <;> omega

theorem created_nonneg (stage : Stage τ) : 0 ≤ stage.created := by
  unfold Stage.created
  split <;> omega

theorem removed_nonneg (stage : Stage τ) : 0 ≤ stage.removed := by
  unfold Stage.removed
  split <;> omega

theorem swept_nonneg (s : AppState τ) : 0 ≤ s.swept := by
  unfold AppState.swept
  split <;> omega

/-- Where no create is stored and not counted, there is nothing to make up for. -/
theorem created_eq_zero (none : ∀ j, (s.tasks j).stage ≠ .processed .okCreated) : s.tally Stage.created = 0 := by
  apply Finset.sum_eq_zero
  intro j _
  have other := none j
  cases stage : (s.tasks j).stage with
  | processed r =>
    cases r with
    | okCreated => exact absurd stage other
    | _ => rfl
  | _ => rfl

theorem one_le_removed (live : k < s.nextConn) (removes : (s.tasks k).stage = .processed .okRemoved) :
    1 ≤ s.tally Stage.removed := by
  have own : (s.tasks k).stage.removed = 1 := by
    rw [removes]
    rfl
  rw [← own]
  exact Finset.single_le_sum (fun j _ => removed_nonneg (s.tasks j).stage) (Finset.mem_range.mpr live)

/-- The counter shows the load less what is stored and not counted. -/
theorem Roomy.total (roomy : Roomy s) : (s.totalChannels.toNat : Int) = s.load - s.tally Stage.created := by
  have total := roomy.balanced.total
  have gain := tally_gain s
  have word : (s.config.maxChannels.toNat : Int) < 2 ^ 64 := by
    have := s.config.maxChannels.isLt
    omega
  have passed : 0 ≤ s.tally Stage.passed := tally_nonneg passed_nonneg s
  have created : 0 ≤ s.tally Stage.created := tally_nonneg created_nonneg s
  have room := roomy.room
  have covers := roomy.covers
  have due : (channelCount s.shards : Int) + (0 : Nat) + s.swept - s.tally Stage.gain = s.load - s.tally Stage.created := by
    unfold AppState.load
    omega
  rw [due] at total
  rw [total, BitVec.toNat_ofInt, Int.toNat_of_nonneg (Int.emod_nonneg _ (by decide))]
  apply Int.emod_eq_of_lt
  · omega
  · have small : s.load - s.tally Stage.created < 2 ^ 64 := by omega
    exact small

/-- What the move of one task does to the three sums. -/
theorem tallies_of_moved (live : k < s.nextConn) (others : ∀ j, j ≠ k → t.tasks j = s.tasks j)
    (conns : t.nextConn = s.nextConn) :
    t.tally Stage.created + (s.tasks k).stage.created = s.tally Stage.created + (t.tasks k).stage.created ∧
      t.tally Stage.removed + (s.tasks k).stage.removed = s.tally Stage.removed + (t.tasks k).stage.removed ∧
      t.tally Stage.passed + (s.tasks k).stage.passed = s.tally Stage.passed + (t.tasks k).stage.passed :=
  ⟨tally_of_moved _ live others conns, tally_of_moved _ live others conns, tally_of_moved _ live others conns⟩

end Invariant

/-! ### Steps -/

section Steps
variable {read : τ → Except CloseReason ClientMessage} {s : AppState τ} {k : Nat}

/-- A message that was read: a create that found room leaves one place less. -/
theorem receive_roomy (bound : Bound s) (roomy : Roomy s) {incoming : Incoming τ} {limited : Bool}
    (reading : (s.tasks k).stage = .reading) (turn : InTurn read s (.receive k incoming limited)) :
    Roomy (s.receive read k incoming limited) := by
  have balanced : Balanced (s.receive read k incoming limited) 0 := receive_balanced bound roomy.balanced reading
  obtain ⟨shards, total, -, conns, cleaner, config⟩ := @receive_rest τ read s k incoming limited
  have live : k < s.nextConn := live_of_stage bound (by rw [reading]; exact nofun)
  obtain ⟨created, removed, passed⟩ :=
    tallies_of_moved (t := s.receive read k incoming limited) live (fun _ other => receive_tasks other) conns
  have covers := roomy.covers
  have room := roomy.room
  have swept : (s.receive read k incoming limited).swept = s.swept := by
    unfold AppState.swept
    rw [cleaner]
  have stage : ((s.receive read k incoming limited).tasks k).stage.created = 0 ∧
      ((s.receive read k incoming limited).tasks k).stage.removed = 0 ∧
      (((s.receive read k incoming limited).tasks k).stage.passed = 0 ∨
        ((s.receive read k incoming limited).tasks k).stage.passed = 1 ∧
          (s.totalChannels.toNat : Int) + s.underway < s.config.maxChannels.toNat) := by
    rcases receive_cases read s k incoming limited with same | ⟨ch, reason, same⟩ | ⟨raw, msg, text, message, same, -⟩
    · have at_ : ((s.receive read k incoming limited).tasks k).stage = .leaving := by
        rw [same, moveTo_stage]
      rw [at_]
      exact ⟨rfl, rfl, Or.inl rfl⟩
    · have at_ : ((s.receive read k incoming limited).tasks k).stage = .leaving := by
        rw [same]
        exact moveTo_stage _ _ _
      rw [at_]
      exact ⟨rfl, rfl, Or.inl rfl⟩
    · have at_ : ((s.receive read k incoming limited).tasks k).stage = .checked raw msg s.atCapacity := by
        rw [same, check_task]
      rw [at_]
      refine ⟨rfl, rfl, ?_⟩
      cases full : s.atCapacity with
      | true =>
        left
        cases msg <;> rfl
      | false =>
        cases msg with
        | create ch peer =>
          right
          subst text
          exact ⟨rfl, turn.creates k raw limited ch peer rfl reading message full⟩
        | _ => exact Or.inl rfl
  have counter := roomy.total
  unfold AppState.underway at stage
  rw [reading] at created removed passed
  change _ + 0 = _ at created removed passed
  unfold AppState.load at covers room counter
  refine ⟨balanced, ?_, ?_⟩
  · unfold AppState.load
    rw [shards, swept]
    omega
  · unfold AppState.load
    rw [shards, swept, config]
    omega

theorem process_roomy (bound : Bound s) (roomy : Roomy s) {raw : τ} {msg : ClientMessage} {atCapacity : Bool}
    {r : ProcessResult τ} {w : World τ} (checked : (s.tasks k).stage = .checked raw msg atCapacity)
    (handled : Handled (s.world (shardIndex msg.channelId)) k k raw atCapacity msg r w)
    (keeps : ¬ (s.world (shardIndex msg.channelId)).Replaces msg) :
    Roomy ((s.absorb (shardIndex msg.channelId) w).moveTo k (.processed r)) := by
  obtain ⟨size, active⟩ := handled.counts keeps
  have balanced := process_balanced bound roomy.balanced checked 0 size active
  have count := absorb_count s (shardIndex msg.channelId) w
  have live : k < s.nextConn := live_of_stage bound (by rw [checked]; exact nofun)
  have sums := tallies_of_moved (s := s) (t := (s.absorb (shardIndex msg.channelId) w).moveTo k (.processed r)) live
    (fun _ other => Function.update_of_ne other _ _) rfl
  rw [moveTo_stage, checked] at sums
  obtain ⟨created, removed, passed⟩ := sums
  change _ + 0 = _ + (Stage.processed r).created at created
  change _ + 0 = _ + (Stage.processed r).removed at removed
  change _ = _ + 0 at passed
  -- only a create that found room is stored
  have found : (Stage.processed r).created ≤ (Stage.checked raw msg atCapacity).passed := by
    cases handled with
    | created absent free =>
      rw [free]
      exact le_refl 1
    | replaced found replaceable free =>
      rw [free]
      exact le_refl 1
    | _ => exact passed_nonneg _
  have gain : r.gain = (Stage.processed r).created - (Stage.processed r).removed := gain_eq (.processed r)
  have covers := roomy.covers
  have room := roomy.room
  unfold AppState.load at covers room
  change (w.channels.size : Int) = (s.shards (shardIndex msg.channelId)).size + r.gain at size
  refine ⟨balanced, ?_, ?_⟩
  · unfold AppState.load
    change _ ≤ (channelCount (s.absorb (shardIndex msg.channelId) w).shards : Int) + s.swept + _
    omega
  · unfold AppState.load
    change (channelCount (s.absorb (shardIndex msg.channelId) w).shards : Int) + s.swept + _ + _ ≤
      s.config.maxChannels.toNat
    omega

theorem count_roomy (bound : Bound s) (roomy : Roomy s) {r : ProcessResult τ}
    (processed : (s.tasks k).stage = .processed r) (turn : InTurn read s (.count k)) : Roomy (s.count k r) := by
  have balanced := count_balanced bound roomy.balanced processed
  have live : k < s.nextConn := live_of_stage bound (by rw [processed]; exact nofun)
  have conns : (s.count k r).nextConn = s.nextConn := by cases r <;> rfl
  have shards : (s.count k r).shards = s.shards := by cases r <;> rfl
  have swept : (s.count k r).swept = s.swept := by cases r <;> rfl
  have config : (s.count k r).config = s.config := by cases r <;> rfl
  have stage : ((s.count k r).tasks k).stage = .reading ∨ ((s.count k r).tasks k).stage = .leaving := by
    cases r with
    | reject frame => exact Or.inr (moveTo_stage _ _ _)
    | _ => exact Or.inl (moveTo_stage _ _ _)
  have after : ((s.count k r).tasks k).stage.created = 0 ∧ ((s.count k r).tasks k).stage.removed = 0 ∧
      ((s.count k r).tasks k).stage.passed = 0 := by
    rcases stage with same | same <;> rw [same] <;> exact ⟨rfl, rfl, rfl⟩
  obtain ⟨created, removed, passed⟩ :=
    tallies_of_moved (t := s.count k r) live (fun _ other => count_tasks other) conns
  rw [after.1] at created
  rw [after.2.1] at removed
  rw [after.2.2] at passed
  have covers := roomy.covers
  have room := roomy.room
  have nonneg := removed_nonneg (s.tasks k).stage
  have unpassed : (s.tasks k).stage.passed = 0 := by
    rw [processed]
    rfl
  unfold AppState.load at covers room
  refine ⟨balanced, ?_, ?_⟩
  · unfold AppState.load
    rw [shards, swept]
    by_cases removes : r = .okRemoved
    · rw [removes] at processed
      have none := created_eq_zero (turn.counts k rfl processed)
      have some_ := one_le_removed live processed
      have positive := swept_nonneg s
      have one : (s.tasks k).stage.removed = 1 := by
        rw [processed]
        rfl
      have zero : (s.tasks k).stage.created = 0 := by
        rw [processed]
        rfl
      omega
    · have zero : (s.tasks k).stage.removed = 0 := by
        rw [processed]
        cases r with
        | okRemoved => exact absurd rfl removes
        | _ => rfl
      have own := created_nonneg (s.tasks k).stage
      omega
  · unfold AppState.load
    rw [shards, swept, config]
    omega

/-- A step that leaves the tasks and the number of channels alone. -/
theorem Roomy.keep {t : AppState τ} (roomy : Roomy s) (balanced : Balanced t 0)
    (created : t.tally Stage.created = s.tally Stage.created) (removed : t.tally Stage.removed = s.tally Stage.removed)
    (passed : t.tally Stage.passed = s.tally Stage.passed)
    (load : (channelCount t.shards : Int) + t.swept = channelCount s.shards + s.swept) (config : t.config = s.config) :
    Roomy t := by
  have covers := roomy.covers
  have room := roomy.room
  unfold AppState.load at covers room
  refine ⟨balanced, ?_, ?_⟩
  · unfold AppState.load
    rw [created, removed, load]
    exact covers
  · unfold AppState.load
    rw [passed, removed, load, config]
    exact room

theorem leave_roomy (bound : Bound s) (roomy : Roomy s) (leaving : (s.tasks k).stage = .leaving) : Roomy (s.leave k) := by
  have live : k < s.nextConn := live_of_stage bound (by rw [leaving]; exact nofun)
  have conns : (s.leave k).nextConn = s.nextConn := by
    unfold AppState.leave
    split <;> rfl
  have config : (s.leave k).config = s.config := by
    unfold AppState.leave
    split <;> rfl
  have swept : (s.leave k).swept = s.swept := by
    unfold AppState.leave
    split <;> rfl
  have same : ∀ weight : Stage τ → Int, weight .done = weight .leaving → (s.leave k).tally weight = s.tally weight := by
    intro weight free
    apply tally_of_same _ live (fun _ other => leave_tasks other) conns
    rw [leave_stage, leaving, free]
  apply roomy.keep (leave_balanced bound roomy.balanced leaving) (same _ rfl) (same _ rfl) (same _ rfl) _ config
  rw [leave_count, swept]

theorem sweep_roomy (roomy : Roomy s) (turn : InTurn read s .sweep) : Roomy s.sweep := by
  have balanced := sweep_balanced roomy.balanced
  have conns := sweep_nextConn s
  have config : s.sweep.config = s.config := by
    unfold AppState.sweep
    split
    · rfl
    · split
      · split <;> rfl
      · rfl
  have created : s.sweep.tally Stage.created = s.tally Stage.created := tally_congr _ (sweep_tasks s) conns
  have removed : s.sweep.tally Stage.removed = s.tally Stage.removed := tally_congr _ (sweep_tasks s) conns
  have passed : s.sweep.tally Stage.passed = s.tally Stage.passed := tally_congr _ (sweep_tasks s) conns
  by_cases last : ∃ next gone, s.cleaner = some (next, gone) ∧ 64 ≤ next
  · obtain ⟨next, gone, running, done⟩ := last
    have shards : s.sweep.shards = s.shards := by
      unfold AppState.sweep
      rw [running]
      dsimp only
      rw [if_neg (Nat.not_lt.mpr done)]
    have swept : s.sweep.swept = 0 := by
      unfold AppState.sweep
      rw [running]
      dsimp only
      rw [if_neg (Nat.not_lt.mpr done)]
      rfl
    have before : s.swept = gone := by
      unfold AppState.swept
      rw [running]
    have covers := roomy.covers
    have room := roomy.room
    have positive : 0 ≤ s.tally Stage.removed := tally_nonneg removed_nonneg s
    unfold AppState.load at covers room
    refine ⟨balanced, ?_, ?_⟩
    · unfold AppState.load
      rw [created, removed, shards, swept]
      by_cases some_ : 0 < gone
      · have none := created_eq_zero (turn.sweeps next gone rfl running done some_)
        omega
      · omega
    · unfold AppState.load
      rw [passed, removed, shards, swept, config]
      omega
  · apply roomy.keep balanced created removed passed _ config
    have total := roomy.balanced.active
    have after := balanced.active
    unfold AppState.sweep AppState.swept
    cases running : s.cleaner with
    | none => rfl
    | some work =>
      obtain ⟨next, gone⟩ := work
      have more : next < 64 := by
        by_contra done
        exact last ⟨next, gone, running, Nat.not_lt.mp done⟩
      dsimp only
      rw [if_pos more, cleanupExpired_apply]
      have count := absorb_count s (Fin.ofNat 64 next) (s.world (Fin.ofNat 64 next)).cleaning
      have size := (cleaning_counts (s.world (Fin.ofNat 64 next))).1
      change (_ : Int) = ((s.shards (Fin.ofNat 64 next)).size : Int) - _ at size
      change (channelCount (s.absorb (Fin.ofNat 64 next) _).shards : Int) +
        ((gone + (s.world (Fin.ofNat 64 next)).toRemove.length : Nat) : Int) = channelCount s.shards + gone
      omega

theorem step_roomy (bound : Bound s) (roomy : Roomy s) {event : Event τ} (keeps : ¬ Replacing s event)
    (turn : InTurn read s event) : Roomy (step read s event) := by
  have takes := step_takes read s event
  generalize step read s event = t at takes ⊢
  cases takes with
  | idle unready => exact roomy
  | connect =>
    have balanced : Balanced s.connect 0 := roomy.balanced.keep rfl rfl rfl rfl (connect_tally rfl s)
    exact roomy.keep balanced (connect_tally rfl s) (connect_tally rfl s) (connect_tally rfl s) rfl rfl
  | receive reading => exact receive_roomy bound roomy reading turn
  | process checked handled processed =>
    rename_i k raw msg atCapacity r w
    exact process_roomy bound roomy checked handled fun replaces =>
      keeps ⟨k, raw, msg, atCapacity, rfl, checked, replaces⟩
  | count processed => exact count_roomy bound roomy processed turn
  | leave leaving => exact leave_roomy bound roomy leaving
  | sweep => exact sweep_roomy roomy turn
  | enter =>
    unfold AppState.enter
    dsimp only
    split
    · exact roomy
    · split_ifs <;> exact ⟨⟨roomy.balanced.total, roomy.balanced.active⟩, roomy.covers, roomy.room⟩
  | drain => exact ⟨⟨roomy.balanced.total, roomy.balanced.active⟩, roomy.covers, roomy.room⟩
  | giveUp => exact ⟨⟨roomy.balanced.total, roomy.balanced.active⟩, roomy.covers, roomy.room⟩
  | shut => exact ⟨⟨roomy.balanced.total, roomy.balanced.active⟩, roomy.covers, roomy.room⟩
  | tick => exact ⟨⟨roomy.balanced.total, roomy.balanced.active⟩, roomy.covers, roomy.room⟩

/-- No more channels are stored than the limit allows. -/
theorem Roomy.stored (roomy : Roomy s) : channelCount s.shards ≤ s.config.maxChannels.toNat := by
  have room := roomy.room
  have swept := swept_nonneg s
  have removed : 0 ≤ s.tally Stage.removed := tally_nonneg removed_nonneg s
  have passed : 0 ≤ s.tally Stage.passed := tally_nonneg passed_nonneg s
  unfold AppState.load at room
  omega

theorem step_capacitySafe (bound : Bound s) (roomy : Roomy s) {event : Event τ} (keeps : ¬ Replacing s event)
    (turn : InTurn read s event) : CapacitySafe read s event := by
  have counter := roomy.total
  have swept := swept_nonneg s
  unfold AppState.load at counter
  refine ⟨?_, ?_, ?_⟩
  · have after := (step_roomy bound roomy keeps turn).stored
    rwa [(step_settings read s _).1] at after
  · intro k counts removes
    have none := created_eq_zero (turn.counts k counts removes)
    have live : k < s.nextConn := live_of_stage bound (by rw [removes]; exact nofun)
    have own := one_le_removed live removes
    omega
  · intro next gone sweeps running done
    have before : s.swept = gone := by
      unfold AppState.swept
      rw [running]
    have removed : 0 ≤ s.tally Stage.removed := tally_nonneg removed_nonneg s
    by_cases some_ : 0 < gone
    · have none := created_eq_zero (turn.sweeps next gone sweeps running done some_)
      omega
    · omega

theorem along_capacitySafe (bound : Bound s) (roomy : Roomy s) {events : List (Event τ)}
    (turns : Along (step read) (fun s event => ¬ Replacing s event ∧ InTurn read s event) s events) :
    Along (step read) (CapacitySafe read) s events := by
  induction events generalizing s with
  | nil => trivial
  | cons event rest ih =>
    obtain ⟨⟨keeps, turn⟩, later⟩ := turns
    exact ⟨step_capacitySafe bound roomy keeps turn, ih (step_bound bound event) (step_roomy bound roomy keeps turn) later⟩

theorem Booted.roomy {config : Config} (booted : Booted config s)
    (fits : channelCount s.shards ≤ config.maxChannels.toNat) : Roomy s := by
  have empty : ∀ weight : Stage τ → Int, weight .done = 0 → s.tally weight = 0 := by
    intro weight free
    apply Finset.sum_eq_zero
    intro k _
    rw [booted.tasks k]
    exact free
  have swept : s.swept = 0 := by
    unfold AppState.swept
    rw [booted.cleaner]
  refine ⟨booted.balanced, ?_, ?_⟩
  · unfold AppState.load
    rw [empty Stage.created rfl, empty Stage.removed rfl, swept]
    omega
  · unfold AppState.load
    rw [empty Stage.passed rfl, empty Stage.removed rfl, swept, booted.config]
    omega

end Steps

/-- A server that starts within its limit stays within it, and its counter does not wrap,
if no create replaces a channel, every create that finds room does so with those under way
counted in, and removals are counted after the creates before them. -/
theorem capacity_safe_in_turn (read : τ → Except CloseReason ClientMessage) (config : Config) (clock : Clock)
    (saved : Option Saved) (events : List (Event τ))
    (fits : channelCount (AppState.boot τ config clock saved).shards ≤ config.maxChannels.toNat)
    (turns : Along (step read) (fun s event => ¬ Replacing s event ∧ InTurn read s event)
      (.boot τ config clock saved) events) :
    Along (step read) (CapacitySafe read) (.boot τ config clock saved) events := by
  have booted := boot_booted τ config clock saved
  exact along_capacitySafe booted.bound (booted.roomy fits) turns

theorem not_replacing_of_ne {s : AppState τ} {event : Event τ} (other : ∀ k, event ≠ .process k) : ¬ Replacing s event := by
  rintro ⟨k, -, -, -, process, -⟩
  exact other k process

/-- A message for a channel that does not exist replaces none. -/
theorem not_replacing_of_absent {s : AppState τ} {k : Nat} {raw : τ} {msg : ClientMessage} {atCapacity : Bool}
    (checked : (s.tasks k).stage = .checked raw msg atCapacity) (absent : s.channel msg.channelId = none) :
    ¬ Replacing s (.process k) := by
  rintro ⟨j, raw', msg', atCapacity', same, checked', replaces⟩
  cases same
  rw [checked] at checked'
  cases checked'
  cases msg with
  | create ch peer =>
    obtain ⟨c, found, -⟩ := replaces
    have absent : (s.world (shardIndex ch)).channels.get ch = none := absent
    change (s.world (shardIndex ch)).channels.get ch = some c at found
    rw [absent] at found
    cases found
  | _ => exact replaces

/-! ### Schedules that can be tried -/

/-- No create of the connections there are is stored and not counted. -/
def AppState.counted (s : AppState τ) : Bool := (List.range s.nextConn).all fun j => (s.tasks j).stage.created = 0

theorem AppState.counted_tasks {s : AppState τ} (bound : Bound s) (counted : s.counted = true) (j : Nat) :
    (s.tasks j).stage ≠ .processed .okCreated := by
  intro stage
  have live : j < s.nextConn := live_of_stage bound (by rw [stage]; exact nofun)
  have none := List.all_eq_true.mp counted j (List.mem_range.mpr live)
  rw [stage] at none
  cases none

/-- A condition on a step that can be evaluated, and allows it as a replacement-free step of a
schedule in turn. -/
def AppState.allows (read : τ → Except CloseReason ClientMessage) (s : AppState τ) : Event τ → Bool
  | .receive _ (.text raw) _ =>
    match read raw with
    | .ok (.create _ _) => s.atCapacity || decide ((s.totalChannels.toNat : Int) + s.underway < s.config.maxChannels.toNat)
    | _ => true
  | .process k =>
    match (s.tasks k).stage with
    | .checked _ (.create ch _) _ => (s.channel ch).isNone
    | _ => true
  | .count k =>
    match (s.tasks k).stage with
    | .processed .okRemoved => s.counted
    | _ => true
  | .sweep =>
    match s.cleaner with
    | some (i, removed) => decide (i < 64 ∨ removed = 0) || s.counted
    | none => true
  | _ => true

theorem AppState.allows_turn {read : τ → Except CloseReason ClientMessage} {s : AppState τ} {event : Event τ}
    (bound : Bound s) (allows : s.allows read event = true) : ¬ Replacing s event ∧ InTurn read s event := by
  refine ⟨?_, ?_, ?_, ?_⟩
  · rintro ⟨k, raw, msg, atCapacity, rfl, checked, replaces⟩
    refine not_replacing_of_absent checked ?_ ⟨k, raw, msg, atCapacity, rfl, checked, replaces⟩
    cases msg with
    | create ch peer =>
      simp only [AppState.allows, checked] at allows
      exact Option.isNone_iff_eq_none.mp allows
    | _ => exact replaces.elim
  · rintro k raw limited ch peer rfl - message room
    simp only [AppState.allows, message, room] at allows
    simpa using allows
  · rintro k rfl removes
    simp only [AppState.allows, removes] at allows
    exact AppState.counted_tasks bound allows
  · rintro i removed rfl running last some_
    simp only [AppState.allows, running] at allows
    have unfinished : ¬ (i < 64 ∨ removed = 0) := by omega
    exact AppState.counted_tasks bound (by simpa [unfinished] using allows)

theorem along_of_allows {read : τ → Except CloseReason ClientMessage} {s : AppState τ} (bound : Bound s)
    {events : List (Event τ)} (allows : Along (step read) (fun s event => s.allows read event = true) s events) :
    Along (step read) (fun s event => ¬ Replacing s event ∧ InTurn read s event) s events := by
  induction events generalizing s with
  | nil => trivial
  | cons event rest ih => exact ⟨AppState.allows_turn bound allows.1, ih (step_bound bound event) allows.2⟩

namespace Sample

def otherChannel : String := "bbbbbbbbbbbbbbbbbbbbbbbbbbbbbbbbbbbbbbbbbbbbbbbbbbbbbbbbbbbbbbbb"

/-- A server for one channel. -/
def small : Config := { config with maxChannels := 1 }

def smallStart : AppState ClientMessage := .boot ClientMessage small {} none

/-- A server for two channels. -/
def roomy : Config := { config with maxChannels := 2 }

def roomyStart : AppState ClientMessage := .boot ClientMessage roomy {} none

/-- Two dApps create their channels at the same time, and a third one is refused. -/
def filling : List (Event ClientMessage) :=
  ([.connect, .connect, .receive 1 (.text (.create channel dapp)) false, .receive 2 (.text (.create otherChannel dapp)) false,
    .process 2, .process 1, .count 1, .count 2, .connect] : List (Event ClientMessage)) ++ speaks 3 (.create "cc" dapp)

/-- The first dApp closes its channel, and a clean-up takes the other one before the close is counted. -/
def emptying : List (Event ClientMessage) :=
  ([.receive 1 (.text (.close channel dapp "normal")) false, .process 1, .tick ⟨400 * nanosPerSec, 400000⟩, .sweep] :
      List (Event ClientMessage)) ++
    (List.replicate 64 .sweep : List (Event ClientMessage)) ++ ([.count 1, .sweep] : List (Event ClientMessage))

/-- Two dApps look at the counter before either of them has a channel. -/
def abreast : List (Event ClientMessage) :=
  [.connect, .connect, .receive 1 (.text (.create channel dapp)) false, .receive 2 (.text (.create otherChannel dapp)) false,
    .process 1]

set_option maxRecDepth 4000 in
theorem abreast_keeps : Along (step read) (fun s event => ¬ Replacing s event) smallStart (abreast ++ [.process 2]) := by
  have first : (run (step read) smallStart (abreast.take 4)).channel channel = none := by decide +kernel
  have second : (run (step read) smallStart abreast).channel otherChannel = none := by decide +kernel
  exact ⟨not_replacing_of_ne nofun, not_replacing_of_ne nofun, not_replacing_of_ne nofun, not_replacing_of_ne nofun,
    not_replacing_of_absent rfl first, not_replacing_of_absent rfl second, trivial⟩

set_option maxRecDepth 4000 in
theorem abreast_count : channelCount (run (step read) smallStart (abreast ++ [.process 2])).shards = 2 := by
  decide +kernel

end Sample

theorem capacity_safe_sample :
    Along (step Sample.read) (CapacitySafe Sample.read) Sample.roomyStart (Sample.filling ++ Sample.emptying) ∧
      (run (step Sample.read) Sample.roomyStart Sample.filling).totalChannels = 2 ∧
      (run (step Sample.read) Sample.roomyStart (Sample.filling ++ Sample.emptying)).totalChannels = 0 := by
  have allows : (Along (step Sample.read) (fun s event => s.allows Sample.read event = true) Sample.roomyStart
        (Sample.filling ++ Sample.emptying)) ∧
      (run (step Sample.read) Sample.roomyStart Sample.filling).totalChannels = 2 ∧
      (run (step Sample.read) Sample.roomyStart (Sample.filling ++ Sample.emptying)).totalChannels = 0 := by
    decide +kernel
  have booted := boot_booted ClientMessage Sample.roomy {} none
  exact ⟨capacity_safe_in_turn Sample.read Sample.roomy {} none _ (by decide +kernel) (along_of_allows booted.bound allows.1),
    allows.2⟩

/-- Both get a channel, where there was room for one. -/
theorem creates_abreast_exceed :
    ¬ ∀ (τ : Type) (read : τ → Except CloseReason ClientMessage) (config : Config) (clock : Clock)
      (events : List (Event τ)), Along (step read) (fun s event => ¬ Replacing s event) (.boot τ config clock none) events →
        Along (step read) (CapacitySafe read) (.boot τ config clock none) events := by
  intro all
  have safe := all ClientMessage Sample.read Sample.small {} (Sample.abreast ++ [Event.process 2]) Sample.abreast_keeps
  have stored := (along_last safe).stored
  have count := Sample.abreast_count
  rw [run_append] at count
  have two : (2 : Nat) ≤ (1 : BitVec 64).toNat := count ▸ stored
  exact absurd two (by decide)

end WalletPair.Relay.Server
