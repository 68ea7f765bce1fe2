import Mathlib.Algebra.BigOperators.Fin
import WalletPair.Relay.Server.Session

/-! How the server starts: with nothing, or with the channels that an earlier run saved.
No channel has a connection then, and both counters agree with the shards. -/

namespace WalletPair.Relay.Server
open WalletPair.Lib WalletPair.Lib.Program

/-! ### Starting -/

/-- A channel goes to the shard of its id. -/
def place (shards : Fin 64 → OrderedMap Channel) (entry : String × Channel) : Fin 64 → OrderedMap Channel :=
  Function.update shards (shardIndex entry.1) ((shards (shardIndex entry.1)).set entry.1 entry.2)

def fromSingle (channels : OrderedMap Channel) : Fin 64 → OrderedMap Channel :=
  channels.entries.foldl place fun _ => OrderedMap.empty

/-- The channels of all shards. -/
def channelCount (shards : Fin 64 → OrderedMap Channel) : Nat := ∑ i, (shards i).size

/-- The store that an earlier run saved, and when. -/
structure Saved where
  store : ChannelStore
  valid : store.Valid
  time : Nat

/-- The server as it starts. A file that cannot be read counts as none. -/
def AppState.boot (τ : Type) (config : Config) (clock : Clock) (saved : Option Saved) : AppState τ :=
  match saved.map fun file => loadState clock.instant (saveState file.store file.time) with
  | some (.ok (channels, count)) =>
    { AppState.fresh τ config with
      shards := fromSingle channels
      totalChannels := BitVec.ofNat 64 (channelCount (fromSingle channels))
      activeChannels := count
      clock }
  | _ => { AppState.fresh τ config with clock }

/-! ### Shards of a single store -/

theorem channelCount_update (shards : Fin 64 → OrderedMap Channel) (i : Fin 64) (m : OrderedMap Channel) :
    channelCount (Function.update shards i m) + (shards i).size = channelCount shards + m.size := by
  unfold channelCount
  have placed : (∑ j, (Function.update shards i m j).size) = m.size + ∑ j ∈ Finset.univ.erase i, (shards j).size := by
    rw [← Finset.add_sum_erase _ _ (Finset.mem_univ i), Function.update_self]
    congr 1
    apply Finset.sum_congr rfl
    intro j mem
    rw [Function.update_of_ne (Finset.ne_of_mem_erase mem)]
  have before : (∑ j, (shards j).size) = (shards i).size + ∑ j ∈ Finset.univ.erase i, (shards j).size :=
    (Finset.add_sum_erase _ _ (Finset.mem_univ i)).symm
  rw [placed, before]
  omega

theorem place_self (shards : Fin 64 → OrderedMap Channel) (entry : String × Channel) :
    place shards entry (shardIndex entry.1) = (shards (shardIndex entry.1)).set entry.1 entry.2 :=
  Function.update_self _ _ _

theorem place_of_ne {shards : Fin 64 → OrderedMap Channel} {entry : String × Channel} {i : Fin 64}
    (other : i ≠ shardIndex entry.1) : place shards entry i = shards i := Function.update_of_ne other _ _

theorem foldl_place_get {entries : List (String × Channel)} {shards : Fin 64 → OrderedMap Channel} {i : Fin 64}
    {key : String} {c : Channel} (found : (entries.foldl place shards i).get key = some c) :
    (shards i).get key = some c ∨ i = shardIndex key ∧ (key, c) ∈ entries := by
  induction entries generalizing shards with
  | nil => exact Or.inl found
  | cons entry rest ih =>
    rcases ih found with before | ⟨own, mem⟩
    · by_cases placed : i = shardIndex entry.1
      · rw [placed, place_self] at before
        rcases OrderedMap.mem_entries_set.mp (OrderedMap.get_eq_some.mp before) with ⟨rfl, rfl⟩ | ⟨-, old⟩
        · exact Or.inr ⟨placed, List.mem_cons_self⟩
        · rw [placed]
          exact Or.inl (OrderedMap.get_eq_some.mpr old)
      · rw [place_of_ne placed] at before
        exact Or.inl before
    · exact Or.inr ⟨own, List.mem_cons_of_mem _ mem⟩

/-- A channel of a shard is one of the single store, in its place. -/
theorem fromSingle_get {m : OrderedMap Channel} {i : Fin 64} {key : String} {c : Channel}
    (found : (fromSingle m i).get key = some c) : i = shardIndex key ∧ m.get key = some c := by
  rcases foldl_place_get found with none | ⟨own, mem⟩
  · cases none
  · exact ⟨own, OrderedMap.get_eq_some.mpr mem⟩

theorem place_count {shards : Fin 64 → OrderedMap Channel} {entry : String × Channel}
    (new : entry.1 ∉ (shards (shardIndex entry.1)).keys) :
    channelCount (place shards entry) = channelCount shards + 1 := by
  have placed := channelCount_update shards (shardIndex entry.1) ((shards (shardIndex entry.1)).set entry.1 entry.2)
  have grown : ((shards (shardIndex entry.1)).set entry.1 entry.2).size = (shards (shardIndex entry.1)).size + 1 :=
    OrderedMap.size_set_new new
  unfold place
  omega

theorem place_keys {shards : Fin 64 → OrderedMap Channel} {entry : String × Channel} {i : Fin 64} {key : String}
    (known : key ∈ (place shards entry i).keys) : key ∈ (shards i).keys ∨ key = entry.1 := by
  by_cases placed : i = shardIndex entry.1
  · rw [placed, place_self] at known
    rw [placed]
    exact OrderedMap.mem_keys_set.mp known
  · rw [place_of_ne placed] at known
    exact Or.inl known

theorem foldl_place_count {entries : List (String × Channel)} {shards : Fin 64 → OrderedMap Channel}
    (nodup : (entries.map Prod.fst).Nodup) (new : ∀ key ∈ entries.map Prod.fst, ∀ i, key ∉ (shards i).keys) :
    channelCount (entries.foldl place shards) = channelCount shards + entries.length := by
  induction entries generalizing shards with
  | nil => rw [List.foldl_nil, List.length_nil, Nat.add_zero]
  | cons entry rest ih =>
    rw [List.map_cons, List.nodup_cons] at nodup
    have later : ∀ key ∈ rest.map Prod.fst, ∀ i, key ∉ (place shards entry i).keys := by
      intro key mem i known
      rcases place_keys known with old | rfl
      · exact new key (List.mem_cons_of_mem _ mem) i old
      · exact nodup.1 mem
    rw [List.foldl_cons, ih nodup.2 later, place_count (new entry.1 (by simp) _), List.length_cons]
    omega

/-- The shards hold as many channels as the single store. -/
theorem fromSingle_count (m : OrderedMap Channel) : channelCount (fromSingle m) = m.size := by
  have empty : channelCount (fun _ => OrderedMap.empty) = 0 := by
    unfold channelCount
    simp
  have counted : channelCount (fromSingle m) = channelCount (fun _ => OrderedMap.empty) + m.size :=
    foldl_place_count m.nodup (by simp)
  rw [counted, empty, Nat.zero_add]

/-! ### Channels that were loaded -/

theorem loadChannels_unconnected {now : Nat} {snapshots : List ChannelSnapshot} {start : OrderedMap Channel}
    {count : Nat} {loaded : OrderedMap Channel × Nat}
    (unconnected : ∀ key c, start.get key = some c → ∀ role, c.conn role = none)
    (load : loadChannels now snapshots start count = .ok loaded) :
    ∀ key c, loaded.1.get key = some c → ∀ role, c.conn role = none := by
  induction snapshots generalizing start count with
  | nil =>
    cases load
    exact unconnected
  | cons cs rest ih =>
    unfold loadChannels at load
    cases read : cs.readState with
    | none =>
      rw [read] at load
      exact ih unconnected load
    | some state =>
      rw [read] at load
      obtain ⟨d, restored, load⟩ := ok_of_bind load
      apply ih _ load
      intro key c found role
      by_cases same : key = cs.id
      · rw [same, OrderedMap.get_set_self] at found
        cases found
        unfold ChannelSnapshot.restore at restored
        obtain ⟨createdAt, -, restored⟩ := ok_of_bind restored
        obtain ⟨connectedAt, -, restored⟩ := ok_of_bind restored
        cases restored
        cases role <;> rfl
      · rw [OrderedMap.get_set_of_ne same] at found
        exact unconnected key c found role

/-- Distinct channels raise the gauge once each. -/
theorem loadChannels_count {now : Nat} {snapshots : List ChannelSnapshot} {start : OrderedMap Channel} {count : Nat}
    {loaded : OrderedMap Channel × Nat} (nodup : (snapshots.map ChannelSnapshot.id).Nodup)
    (new : ∀ cs ∈ snapshots, cs.id ∉ start.keys) (agrees : start.size = count)
    (load : loadChannels now snapshots start count = .ok loaded) : loaded.1.size = loaded.2 := by
  induction snapshots generalizing start count with
  | nil =>
    cases load
    exact agrees
  | cons cs rest ih =>
    rw [List.map_cons, List.nodup_cons] at nodup
    unfold loadChannels at load
    cases read : cs.readState with
    | none =>
      rw [read] at load
      exact ih nodup.2 (fun cs mem => new cs (List.mem_cons_of_mem _ mem)) agrees load
    | some state =>
      rw [read] at load
      obtain ⟨d, restored, load⟩ := ok_of_bind load
      have absent := new cs List.mem_cons_self
      apply ih nodup.2 _ _ load
      · intro other mem known
        rcases OrderedMap.mem_keys_set.mp known with old | same
        · exact new other (List.mem_cons_of_mem _ mem) old
        · exact nodup.1 (List.mem_map.mpr ⟨other, mem, same⟩)
      · rw [OrderedMap.size_set_new absent, agrees]

/-- A saved store lists every channel once. -/
theorem saveState_nodup {s : ChannelStore} (valid : s.Valid) (saved : Nat) :
    ((saveState s saved).channels.map ChannelSnapshot.id).Nodup := by
  have ids : s.channels.values.map Channel.id = s.channels.keys := by
    unfold OrderedMap.values OrderedMap.keys
    rw [List.map_map]
    apply List.map_congr_left
    rintro ⟨key, c⟩ mem
    exact (valid key c (OrderedMap.get_eq_some.mpr mem)).1
  have same : (saveState s saved).channels.map ChannelSnapshot.id =
      (s.channels.values.filter fun c => c.state ≠ .closed).map Channel.id := by
    unfold saveState
    rw [List.map_map]
    rfl
  rw [same]
  apply List.Nodup.sublist (List.filter_sublist.map _)
  rw [ids]
  exact s.channels.nodup

/-! ### The first state -/

/-- What the server knows when it starts. -/
structure Booted {τ : Type} (config : Config) (s : AppState τ) : Prop where
  config : s.config = config
  channels : ∀ i key c, (s.shards i).get key = some c → i = shardIndex key ∧ ∀ role, c.conn role = none
  totalChannels : s.totalChannels = BitVec.ofNat 64 (channelCount s.shards)
  activeChannels : s.activeChannels = channelCount s.shards
  waiting : ∀ id, (s.queues id).waiting = []
  trace : s.trace = []
  tasks : ∀ k, s.tasks k = {}
  nextConn : s.nextConn = 1
  cleaner : s.cleaner = none

theorem boot_booted (τ : Type) (config : Config) (clock : Clock) (saved : Option Saved) :
    Booted config (AppState.boot τ config clock saved) := by
  have empty : Booted config { AppState.fresh τ config with clock } := by
    refine ⟨rfl, ?_, ?_, ?_, fun _ => rfl, rfl, fun _ => rfl, rfl, rfl⟩
    · intro i key c found
      cases found
    · unfold channelCount AppState.fresh
      simp
    · unfold channelCount AppState.fresh
      simp
  cases saved with
  | none => exact empty
  | some file =>
    unfold AppState.boot
    rw [Option.map_some]
    cases load : loadState clock.instant (saveState file.store file.time) with
    | error e => exact empty
    | ok loaded =>
      obtain ⟨channels, count⟩ := loaded
      have version : (saveState file.store file.time).version = 1 := rfl
      unfold loadState at load
      rw [if_neg (not_not.mpr version)] at load
      refine ⟨rfl, ?_, rfl, ?_, fun _ => rfl, rfl, fun _ => rfl, rfl, rfl⟩
      · intro i key c found
        obtain ⟨own, single⟩ := fromSingle_get found
        refine ⟨own, loadChannels_unconnected ?_ load key c single⟩
        intro key c found
        cases found
      · have sizes := loadChannels_count (saveState_nodup file.valid file.time) (by simp) rfl load
        change (count : Int) = (channelCount (fromSingle channels) : Int)
        rw [fromSingle_count]
        exact congrArg Nat.cast sizes.symm

end WalletPair.Relay.Server
