import WalletPair.Relay.Server.Boot

/-! What a restart keeps of the channels. All that is saved comes back, in the shard where
it is looked for; the flag that the wallet came back is not saved. -/

namespace WalletPair.Relay.Server
open WalletPair.Lib WalletPair.Lib.Program WalletPair.Lib.Run

/-- An age survives up to the rounding to whole seconds. -/
structure SameAge (saved now before after : Nat) : Prop where
  past : after ≤ now
  rounded : now - after ≤ saved - before
  close : saved - before < now - after + nanosPerSec

/-- What a channel is after the restart. -/
structure Channel.Survives (saved now : Nat) (c d : Channel) : Prop where
  id : d.id = c.id
  state : d.state = c.state
  dappPeerId : d.dappPeerId = c.dappPeerId
  walletPeerId : d.walletPeerId = c.walletPeerId
  pendingRequests : d.pendingRequests = c.pendingRequests
  isReconnect : d.isReconnect = c.isReconnect
  unconnected : ∀ role, d.conn role = none
  created : SameAge saved now c.createdAt d.createdAt
  connected : Option.Rel (SameAge saved now) c.connectedAt d.connectedAt

/-- The channels that come back are those that were not closed, each as it was, and the
shards hold each of them once, where it is looked for. -/
def RestartPreserves (s : ChannelStore) (saved now : Nat) : Prop :=
  ∃ channels count, loadState now (saveState s saved) = .ok (channels, count) ∧
    (∀ key c, s.channels.get key = some c → c.state ≠ .closed →
      ∃ d, channels.get key = some d ∧ c.Survives saved now d) ∧
    (∀ key d, channels.get key = some d → ∃ c, s.channels.get key = some c ∧ c.state ≠ .closed) ∧
    (∀ key, (fromSingle channels (shardIndex key)).get key = channels.get key) ∧
    (∀ i key d, (fromSingle channels i).get key = some d → i = shardIndex key) ∧
    channelCount (fromSingle channels) = channels.size

/-- The instants to which the ages of the channel lead back can be represented. -/
structure Channel.Datable (saved now : Nat) (c : Channel) : Prop where
  created : secsSince saved c.createdAt * nanosPerSec ≤ now
  connected : ∀ time, c.connectedAt = some time → secsSince saved time * nanosPerSec ≤ now

/-! ### One channel -/

section Channel
variable {saved now : Nat} {c : Channel}

theorem sameAge_of_instantBefore {before after : Nat} (dated : instantBefore now (secsSince saved before) = .ok after) :
    SameAge saved now before after := by
  unfold instantBefore at dated
  unfold secsSince at dated
  split at dated
  · rename_i possible
    cases dated
    have rounding := Nat.div_add_mod (saved - before) nanosPerSec
    have remainder : (saved - before) % nanosPerSec < nanosPerSec := Nat.mod_lt _ (by decide)
    rw [Nat.mul_comm] at rounding
    constructor <;> omega
  · cases dated

theorem instantBefore_ok {secs : Nat} : (∃ time, instantBefore now secs = .ok time) ↔ secs * nanosPerSec ≤ now := by
  unfold instantBefore
  split
  · rename_i possible
    exact ⟨fun _ => possible, fun _ => ⟨_, rfl⟩⟩
  · rename_i impossible
    exact ⟨fun ⟨_, dated⟩ => (by cases dated), fun possible => absurd possible impossible⟩

theorem restoreAge_ok {age : Option Nat} :
    (∃ time, restoreAge now age = .ok time) ↔ ∀ secs, age = some secs → secs * nanosPerSec ≤ now := by
  cases age with
  | none => exact ⟨fun _ _ none => (by cases none), fun _ => ⟨none, rfl⟩⟩
  | some secs =>
    constructor
    · rintro ⟨time, restored⟩ _ ⟨⟩
      apply instantBefore_ok.mp
      cases dated : instantBefore now secs with
      | error e =>
        rw [restoreAge, dated] at restored
        cases restored
      | ok time => exact ⟨time, rfl⟩
    · intro possible
      obtain ⟨time, dated⟩ := instantBefore_ok.mpr (possible secs rfl)
      refine ⟨some time, ?_⟩
      rw [restoreAge, dated]
      rfl

/-- A channel that can be dated comes back. -/
theorem restore_ok (state : ChannelState) : (∃ d, (c.snapshot saved).restore state now = .ok d) ↔ c.Datable saved now := by
  constructor
  · rintro ⟨d, restored⟩
    unfold ChannelSnapshot.restore at restored
    obtain ⟨createdAt, created, restored⟩ := Relay.ok_of_bind restored
    obtain ⟨connectedAt, connected, -⟩ := Relay.ok_of_bind restored
    refine ⟨instantBefore_ok.mp ⟨_, created⟩, fun time same => ?_⟩
    apply restoreAge_ok.mp ⟨_, connected⟩
    unfold Channel.snapshot
    dsimp only
    rw [same]
    rfl
  · intro datable
    obtain ⟨createdAt, created⟩ := instantBefore_ok.mpr datable.created
    have ages : ∀ secs, (c.snapshot saved).connectedAgeSecs = some secs → secs * nanosPerSec ≤ now := by
      intro secs age
      obtain ⟨time, same, rfl⟩ := Option.map_eq_some_iff.mp age
      exact datable.connected time same
    obtain ⟨connectedAt, connected⟩ := restoreAge_ok.mpr ages
    have first : instantBefore now (c.snapshot saved).ageSecs = .ok createdAt := created
    unfold ChannelSnapshot.restore
    rw [first, connected]
    exact ⟨_, rfl⟩

/-- Everything but the flag comes back. -/
theorem survives_iff {d : Channel} (restored : (c.snapshot saved).restore c.state now = .ok d) :
    c.Survives saved now d ↔ c.isReconnect = false := by
  unfold ChannelSnapshot.restore at restored
  obtain ⟨createdAt, created, restored⟩ := Relay.ok_of_bind restored
  obtain ⟨connectedAt, connected, restored⟩ := Relay.ok_of_bind restored
  cases restored
  constructor
  · exact fun survives => survives.isReconnect.symm
  · intro unflagged
    refine ⟨rfl, rfl, rfl, rfl, rfl, unflagged.symm, fun role => ?_, sameAge_of_instantBefore created, ?_⟩
    · cases role <;> rfl
    · unfold Channel.snapshot at connected
      dsimp only at connected ⊢
      cases before : c.connectedAt with
      | none =>
        rw [before] at connected
        cases connected
        exact .none
      | some time =>
        rw [before, Option.map_some, restoreAge] at connected
        cases dated : instantBefore now (secsSince saved time) with
        | error e =>
          rw [dated] at connected
          cases connected
        | ok after =>
          rw [dated] at connected
          cases connected
          exact .some (sameAge_of_instantBefore dated)

theorem restore_pendingRequests {state : ChannelState} {d : Channel} (restored : (c.snapshot saved).restore state now = .ok d) :
    d.pendingRequests = c.pendingRequests := by
  unfold ChannelSnapshot.restore at restored
  obtain ⟨createdAt, -, restored⟩ := Relay.ok_of_bind restored
  obtain ⟨connectedAt, -, restored⟩ := Relay.ok_of_bind restored
  cases restored
  rfl

theorem readState_of_open (opened : c.state ≠ .closed) : (c.snapshot saved).readState = some c.state := by
  unfold ChannelSnapshot.readState Channel.snapshot
  cases state : c.state with
  | closed => exact absurd state opened
  | _ => rfl

end Channel

/-! ### All channels -/

section Channels
variable {saved now : Nat} {channels : List Channel} {start : OrderedMap Channel} {count : Nat}

theorem loadChannels_cons {c : Channel} {rest : List ChannelSnapshot} (opened : c.state ≠ .closed) :
    loadChannels now (c.snapshot saved :: rest) start count =
      (c.snapshot saved).restore c.state now >>= fun d => loadChannels now rest (start.set c.id d) (count + 1) := by
  rw [loadChannels, readState_of_open opened]
  rfl

theorem loadChannels_ok (opened : ∀ c ∈ channels, c.state ≠ .closed) :
    (∃ loaded, loadChannels now (channels.map fun c => c.snapshot saved) start count = .ok loaded) ↔
      ∀ c ∈ channels, c.Datable saved now := by
  induction channels generalizing start count with
  | nil => simp [loadChannels]
  | cons c rest ih =>
    have later : ∀ c ∈ rest, c.state ≠ .closed := fun c mem => opened c (List.mem_cons_of_mem _ mem)
    rw [List.map_cons, loadChannels_cons (opened c List.mem_cons_self), List.forall_mem_cons]
    constructor
    · rintro ⟨loaded, load⟩
      obtain ⟨d, restored, load⟩ := Relay.ok_of_bind load
      exact ⟨(restore_ok c.state).mp ⟨d, restored⟩, (ih later).mp ⟨loaded, load⟩⟩
    · rintro ⟨datable, others⟩
      obtain ⟨d, restored⟩ := (restore_ok c.state).mpr datable
      rw [restored]
      exact (ih later).mpr others

/-- What is loaded is what was there, and what comes back of each channel. -/
theorem loadChannels_get {loaded : OrderedMap Channel × Nat} (opened : ∀ c ∈ channels, c.state ≠ .closed)
    (nodup : (channels.map Channel.id).Nodup) (new : ∀ c ∈ channels, start.get c.id = none)
    (load : loadChannels now (channels.map fun c => c.snapshot saved) start count = .ok loaded) {key : String}
    {d : Channel} :
    loaded.1.get key = some d ↔ start.get key = some d ∨
      ∃ c ∈ channels, c.id = key ∧ (c.snapshot saved).restore c.state now = .ok d := by
  induction channels generalizing start count with
  | nil =>
    cases load
    simp
  | cons c rest ih =>
    have later : ∀ c ∈ rest, c.state ≠ .closed := fun c mem => opened c (List.mem_cons_of_mem _ mem)
    rw [List.map_cons, loadChannels_cons (opened c List.mem_cons_self)] at load
    obtain ⟨e, restored, load⟩ := Relay.ok_of_bind load
    rw [List.map_cons, List.nodup_cons] at nodup
    have others : ∀ d ∈ rest, (start.set c.id e).get d.id = none := by
      intro d mem
      have different : d.id ≠ c.id := fun same => nodup.1 (List.mem_map.mpr ⟨d, mem, same⟩)
      rw [OrderedMap.get_set_of_ne different]
      exact new d (List.mem_cons_of_mem _ mem)
    rw [ih later nodup.2 others load]
    by_cases same : key = c.id
    · have absent : ∀ d ∈ rest, d.id ≠ key := by
        intro d mem own
        exact nodup.1 (List.mem_map.mpr ⟨d, mem, own.trans same⟩)
      rw [same, OrderedMap.get_set_self, new c List.mem_cons_self, ← same]
      constructor
      · rintro (own | ⟨d, mem, own, -⟩)
        · cases own
          exact Or.inr ⟨c, List.mem_cons_self, same.symm, restored⟩
        · exact absurd own (absent d mem)
      · rintro (none | ⟨f, mem, own, back⟩)
        · cases none
        · rcases List.mem_cons.mp mem with rfl | mem
          · rw [restored] at back
            cases back
            exact Or.inl rfl
          · exact absurd own (absent f mem)
    · rw [OrderedMap.get_set_of_ne same]
      constructor
      · rintro (before | ⟨d, mem, own, back⟩)
        · exact Or.inl before
        · exact Or.inr ⟨d, List.mem_cons_of_mem _ mem, own, back⟩
      · rintro (before | ⟨d, mem, own, back⟩)
        · exact Or.inl before
        · rcases List.mem_cons.mp mem with rfl | mem
          · exact absurd own.symm same
          · exact Or.inr ⟨d, mem, own, back⟩

end Channels

/-! ### The shards -/

/-- Nothing of the single store is lost on the way to its shard. -/
theorem foldl_place_keeps {entries : List (String × Channel)} {shards : Fin 64 → OrderedMap Channel} {key : String}
    {c : Channel} (other : key ∉ entries.map Prod.fst) (found : (shards (shardIndex key)).get key = some c) :
    (entries.foldl place shards (shardIndex key)).get key = some c := by
  induction entries generalizing shards with
  | nil => exact found
  | cons entry rest ih =>
    rw [List.map_cons, List.mem_cons, not_or] at other
    apply ih other.2
    by_cases placed : shardIndex key = shardIndex entry.1
    · rw [placed, place_self, OrderedMap.get_set_of_ne other.1, ← placed]
      exact found
    · rw [place_of_ne placed]
      exact found

theorem foldl_place_mem {entries : List (String × Channel)} {shards : Fin 64 → OrderedMap Channel} {key : String}
    {c : Channel} (nodup : (entries.map Prod.fst).Nodup) (mem : (key, c) ∈ entries) :
    (entries.foldl place shards (shardIndex key)).get key = some c := by
  induction entries generalizing shards with
  | nil => cases mem
  | cons entry rest ih =>
    rw [List.map_cons, List.nodup_cons] at nodup
    rcases List.mem_cons.mp mem with rfl | later
    · apply foldl_place_keeps nodup.1
      rw [place_self, OrderedMap.get_set_self]
    · exact ih nodup.2 later

/-- Where a channel is looked for, there it is. -/
theorem fromSingle_get_eq (m : OrderedMap Channel) (key : String) :
    (fromSingle m (shardIndex key)).get key = m.get key := by
  apply Option.ext
  intro c
  constructor
  · exact fun found => (fromSingle_get found).2
  · exact fun found => foldl_place_mem m.nodup (OrderedMap.get_eq_some.mp found)

/-! ### The store -/

section Store
variable {s : ChannelStore} {saved now : Nat}

/-- The channels that are saved. -/
def ChannelStore.opened (s : ChannelStore) : List Channel := s.channels.values.filter fun c => c.state ≠ .closed

theorem loadState_saveState (s : ChannelStore) (saved now : Nat) :
    loadState now (saveState s saved) = loadChannels now (s.opened.map fun c => c.snapshot saved) OrderedMap.empty 0 :=
  rfl

theorem mem_opened (valid : s.Valid) {c : Channel} :
    c ∈ s.opened ↔ s.channels.get c.id = some c ∧ c.state ≠ .closed := by
  unfold ChannelStore.opened
  rw [List.mem_filter, decide_eq_true_eq]
  constructor
  · rintro ⟨mem, opened⟩
    obtain ⟨⟨key, d⟩, entry, rfl⟩ := List.mem_map.mp mem
    have found := OrderedMap.get_eq_some.mpr entry
    rw [(valid key d found).1]
    exact ⟨found, opened⟩
  · rintro ⟨found, opened⟩
    exact ⟨List.mem_map.mpr ⟨_, OrderedMap.get_eq_some.mp found, rfl⟩, opened⟩

theorem opened_nodup (valid : s.Valid) : (s.opened.map Channel.id).Nodup := by
  have nodup := saveState_nodup valid 0
  unfold saveState at nodup
  dsimp only at nodup
  rw [List.map_map] at nodup
  exact nodup

/-- What is loaded is what comes back of each channel that was not closed. -/
theorem loadState_get (valid : s.Valid) {loaded : OrderedMap Channel × Nat}
    (load : loadState now (saveState s saved) = .ok loaded) {key : String} {d : Channel} :
    loaded.1.get key = some d ↔ ∃ c ∈ s.opened, c.id = key ∧ (c.snapshot saved).restore c.state now = .ok d := by
  have opened : ∀ c ∈ s.opened, c.state ≠ .closed := fun c mem => ((mem_opened valid).mp mem).2
  have new : ∀ c ∈ s.opened, (OrderedMap.empty : OrderedMap Channel).get c.id = none := fun _ _ => rfl
  rw [loadState_saveState] at load
  rw [loadChannels_get opened (opened_nodup valid) new load]
  simp

/-- The restart keeps the channels exactly if none of them is flagged and all can be
dated. -/
theorem restartPreserves_iff (valid : s.Valid) :
    RestartPreserves s saved now ↔ ∀ key c, s.channels.get key = some c → c.state ≠ .closed →
      c.isReconnect = false ∧ c.Datable saved now := by
  have opened : ∀ c ∈ s.opened, c.state ≠ .closed := fun c mem => ((mem_opened valid).mp mem).2
  constructor
  · rintro ⟨channels, count, load, kept, -⟩ key c found isOpen
    have own := (valid key c found).1
    have mem : c ∈ s.opened := by
      apply (mem_opened valid).mpr
      rw [own]
      exact ⟨found, isOpen⟩
    refine ⟨?_, ?_⟩
    · obtain ⟨d, back, survives⟩ := kept key c found isOpen
      obtain ⟨e, other, same, restored⟩ := (loadState_get valid load).mp back
      have again := ((mem_opened valid).mp other).1
      rw [same, found] at again
      cases again
      exact (survives_iff restored).mp survives
    · rw [loadState_saveState] at load
      exact (loadChannels_ok opened).mp ⟨_, load⟩ c mem
  · intro fit
    have datable : ∀ c ∈ s.opened, c.Datable saved now := by
      intro c mem
      obtain ⟨found, isOpen⟩ := (mem_opened valid).mp mem
      exact (fit c.id c found isOpen).2
    obtain ⟨⟨channels, count⟩, load⟩ := (loadChannels_ok opened).mpr datable
    rw [← loadState_saveState] at load
    refine ⟨channels, count, load, fun key c found isOpen => ?_, fun key d back => ?_, fromSingle_get_eq channels,
      fun i key d placed => (fromSingle_get placed).1, fromSingle_count channels⟩
    · have own := (valid key c found).1
      have mem : c ∈ s.opened := by
        apply (mem_opened valid).mpr
        rw [own]
        exact ⟨found, isOpen⟩
      obtain ⟨d, restored⟩ := (restore_ok c.state).mpr (datable c mem)
      exact ⟨d, (loadState_get valid load).mpr ⟨c, mem, own, restored⟩, (survives_iff restored).mpr (fit key c found isOpen).1⟩
    · obtain ⟨c, mem, rfl, -⟩ := (loadState_get valid load).mp back
      exact ⟨c, (mem_opened valid).mp mem⟩

end Store

/-! ### The fields of a channel across restarts -/

section Limit
variable {τ : Type}

/-- A restart that loads the channels finds no more pending requests on any of them than the
limit it starts under. -/
def LoadsWithin (s : World τ) (event : StoreEvent τ) : Prop :=
  ∀ config now, event = .restart config now →
    (loadState now.instant (saveState s.toChannelStore s.clock.instant)).isOk = true →
    ∀ key c, s.channels.get key = some c → c.pendingRequests.card ≤ config.pendingRequestLimit

/-- Where the sets are within the limit, a step leaves them within it exactly if it loads no larger ones. -/
theorem storeStep_limited_iff {s : World τ} (event : StoreEvent τ) (valid : s.toChannelStore.Valid)
    (limited : s.toChannelStore.Limited s.pendingRequestLimit) :
    (storeStep s event).toChannelStore.Limited (storeStep s event).pendingRequestLimit ↔ LoadsWithin s event := by
  by_cases running : ∀ config now, event ≠ .restart config now
  · refine iff_of_true ?_ fun config now same => absurd same (running config now)
    rw [storeStep_limit running]
    exact storeStep_every event (limited_rules le_rfl) (limited_restores _) limited
  · simp only [not_forall, not_not] at running
    obtain ⟨config, now, rfl⟩ := running
    change (s.restarting config now).toChannelStore.Limited (s.restarting config now).pendingRequestLimit ↔ _
    unfold World.restarting
    cases load : loadState now.instant (saveState s.toChannelStore s.clock.instant) with
    | error e =>
      refine iff_of_true limited fun other later same loads => ?_
      cases same
      rw [load] at loads
      cases loads
    | ok loaded =>
      constructor
      · intro below other later same _ key c found
        cases same
        obtain ⟨own, fits⟩ := valid key c found
        have mem : c ∈ s.toChannelStore.opened := by
          apply (mem_opened valid).mpr
          rw [own]
          exact ⟨found, fits.open_⟩
        have datable : c.Datable s.clock.instant now.instant := by
          rw [loadState_saveState] at load
          exact (loadChannels_ok fun d here => ((mem_opened valid).mp here).2).mp ⟨_, load⟩ c mem
        obtain ⟨d, restored⟩ := (restore_ok c.state).mpr datable
        have back : d.pendingRequests.card ≤ config.pendingRequestLimit :=
          (below key d ((loadState_get valid load).mpr ⟨c, mem, own, restored⟩)).2
        have same : d.pendingRequests = c.pendingRequests := restore_pendingRequests restored
        rwa [same] at back
      · intro loads
        have below : s.toChannelStore.Limited config.pendingRequestLimit := fun key c found =>
          ⟨(valid key c found).1, loads config now rfl (by rw [load]; rfl) key c found⟩
        exact load_save_every (limited_restores _) below load

end Limit

/-- In every shard that can be reached the fields of each channel fit together; the pending
requests stay within the limit exactly as long as no restart finds more of them than its own
limit; and whatever message comes next is processed without a failing `unwrap`. -/
theorem reachable_store_valid {τ : Type} (pendingRequestLimit unpairedTtlSecs connectedTtlSecs : Nat)
    (events : List (StoreEvent τ)) :
    (run storeStep (World.fresh τ pendingRequestLimit unpairedTtlSecs connectedTtlSecs) events).toChannelStore.Valid ∧
    (Along storeStep LoadsWithin (World.fresh τ pendingRequestLimit unpairedTtlSecs connectedTtlSecs) events ↔
      ∀ first, first <+: events →
        (run storeStep (World.fresh τ pendingRequestLimit unpairedTtlSecs connectedTtlSecs) first).toChannelStore.Limited
          (run storeStep (World.fresh τ pendingRequestLimit unpairedTtlSecs connectedTtlSecs) first).pendingRequestLimit) ∧
    ∀ connId sender raw msg atCapacity, ∃ r t, processMessage connId sender raw msg atCapacity
      (run storeStep (World.fresh τ pendingRequestLimit unpairedTtlSecs connectedTtlSecs) events) = .ok r t := by
  refine ⟨run_valid pendingRequestLimit unpairedTtlSecs connectedTtlSecs events, ?_, ?_⟩
  · exact along_iff_throughout (J := fun s : World τ => s.toChannelStore.Valid)
      (I := fun s : World τ => s.toChannelStore.Limited s.pendingRequestLimit)
      (fun s event valid => storeStep_every event (valid_rules _) valid_restores valid)
      (fun s event valid limited => storeStep_limited_iff event valid limited) (fresh_every _ _ _ _) (fresh_every _ _ _ _)
  · intro connId sender raw msg atCapacity
    obtain ⟨r, t, processed, -⟩ := processMessage_handled connId sender raw msg atCapacity
      (run storeStep (World.fresh τ pendingRequestLimit unpairedTtlSecs connectedTtlSecs) events)
    exact ⟨r, t, processed⟩

namespace Sample

/-- A channel with two pending requests is saved, and loaded under another limit. -/
def reloading (limit : Nat) : List (StoreEvent String) :=
  [.message 1 1 "" (.create channel dapp) false, .message 2 2 "" (.join channel wallet false) false,
    .message 1 1 "" (.accept channel dapp wallet) false, .message 1 1 "" (.req channel dapp "req-1") false,
    .message 1 1 "" (.req channel dapp "req-2") false, .restart ⟨limit, 300, 86400⟩ {}]

def reloaded (limit : Nat) : World String := run storeStep (World.fresh String 32 300 86400) (reloading limit)

end Sample

set_option maxRecDepth 4000 in
theorem reloaded_pending :
    (((Sample.reloaded 1).channels.get Sample.channel).map fun c => c.pendingRequests.card) = some 2 ∧
      (Sample.reloaded 1).pendingRequestLimit = 1 := by
  decide +kernel

/-- A server that starts again under a lower limit has more pending requests than it allows. -/
theorem lower_limit_exceeded :
    ¬ ∀ (events : List (StoreEvent String)),
      (run storeStep (World.fresh String 32 300 86400) events).toChannelStore.Limited
        (run storeStep (World.fresh String 32 300 86400) events).pendingRequestLimit := by
  intro all
  have limited : (Sample.reloaded 1).toChannelStore.Limited (Sample.reloaded 1).pendingRequestLimit := all (Sample.reloading 1)
  obtain ⟨pending, limit⟩ := reloaded_pending
  obtain ⟨c, found, two⟩ := Option.map_eq_some_iff.mp pending
  have below := (limited Sample.channel c found).2
  rw [limit] at below
  omega

/-- A store that can be reached is kept by a restart, whenever it is saved and loaded,
exactly if no channel of it carries the flag that its wallet came back, and the instants
to which the ages lead back can be represented. -/
theorem restart_preserves_iff {τ : Type} (pendingRequestLimit unpairedTtlSecs connectedTtlSecs : Nat)
    (events : List (StoreEvent τ)) (saved now : Nat) :
    RestartPreserves
        (run storeStep (World.fresh τ pendingRequestLimit unpairedTtlSecs connectedTtlSecs) events).toChannelStore saved now ↔
      ∀ key c, (run storeStep (World.fresh τ pendingRequestLimit unpairedTtlSecs connectedTtlSecs) events).channels.get key =
        some c → c.state ≠ .closed → c.isReconnect = false ∧ c.Datable saved now := by
  exact restartPreserves_iff (run_valid pendingRequestLimit unpairedTtlSecs connectedTtlSecs events)

namespace Sample

/-- A wallet that was paired before joins a new channel. -/
def rejoining : List (StoreEvent String) :=
  [.message 1 1 "" (.create channel dapp) false, .message 2 2 "" (.join channel wallet true) false]

set_option maxRecDepth 4000 in
theorem rejoining_channel : (run storeStep (World.fresh String 32 300 86400) rejoining).channels.get channel =
    some ⟨channel, .pendingAccept, 0, none, dapp, some ⟨1, 1⟩, some wallet, some ⟨2, 2⟩, true, ∅⟩ := by
  decide +kernel

end Sample

/-- The flag of a wallet that came back is lost. -/
theorem reconnect_flag_lost :
    ¬ ∀ (events : List (StoreEvent String)) (saved now : Nat),
      RestartPreserves (run storeStep (World.fresh String 32 300 86400) events).toChannelStore saved now := by
  intro all
  have valid := run_valid 32 300 86400 Sample.rejoining
  have fit := (restartPreserves_iff valid).mp (all Sample.rejoining 0 0)
  have unflagged := (fit Sample.channel _ Sample.rejoining_channel nofun).1
  cases unflagged

end WalletPair.Relay.Server
