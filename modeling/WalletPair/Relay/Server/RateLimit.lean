import WalletPair.Lib.Window
import WalletPair.Relay.Server.Registration

/-! The limit on the channels that one address may create. The limiter is asked when the
first message of a connection is a create, and keeps the instants of the last minute; what
a connection that is bound already creates it never hears of. -/

namespace WalletPair.Relay.Server
open WalletPair.Lib WalletPair.Lib.Program WalletPair.Lib.Run WalletPair.Lib.Window

/-! ### The limiter -/

structure IpState where
  createTimes : List Nat := []
  activeConnections : Nat := 0

/-- The limiter, over the addresses `ι`. -/
structure IpRateLimiter (ι : Type) where
  maxCreatesPerWindow : Nat
  maxConnectionsPerIp : Nat
  windowSecs : Nat
  state : ι → Option IpState

variable {τ ι : Type} [DecidableEq ι]

namespace IpRateLimiter

def new (maxCreatesPerWindow maxConnectionsPerIp windowSecs : Nat) : IpRateLimiter ι :=
  ⟨maxCreatesPerWindow, maxConnectionsPerIp, windowSecs, fun _ => none⟩

/-- The entry of an address, new if there was none. -/
def entry (l : IpRateLimiter ι) (ip : ι) : IpState := (l.state ip).getD {}

def setEntry (l : IpRateLimiter ι) (ip : ι) (state : Option IpState) : IpRateLimiter ι :=
  { l with state := Function.update l.state ip state }

/-- The window in the unit of the clock. -/
def width (l : IpRateLimiter ι) : Nat := l.windowSecs * nanosPerSec

/-- Whether a new connection is allowed; if so it is counted. -/
def trackConnection (l : IpRateLimiter ι) (ip : ι) : Bool × IpRateLimiter ι :=
  let entry := l.entry ip
  if l.maxConnectionsPerIp ≤ entry.activeConnections then (false, l.setEntry ip (some entry))
  else (true, l.setEntry ip (some { entry with activeConnections := entry.activeConnections + 1 }))

def releaseConnection (l : IpRateLimiter ι) (ip : ι) : IpRateLimiter ι :=
  match l.state ip with
  | none => l
  | some entry =>
    let left := { entry with activeConnections := entry.activeConnections - 1 }
    if left.activeConnections = 0 ∧ left.createTimes = [] then l.setEntry ip none
    else l.setEntry ip (some left)

/-- Whether a create is allowed; if so its instant is kept. -/
def checkCreate (l : IpRateLimiter ι) (ip : ι) (now : Nat) : Bool × IpRateLimiter ι :=
  let entry := l.entry ip
  let kept := recent l.width now entry.createTimes
  if l.maxCreatesPerWindow ≤ kept.length then (false, l.setEntry ip (some { entry with createTimes := kept }))
  else (true, l.setEntry ip (some { entry with createTimes := kept ++ [now] }))

def cleanup (l : IpRateLimiter ι) (now : Nat) : IpRateLimiter ι :=
  { l with state := fun ip => (l.state ip).bind fun entry =>
      let kept := recent l.width now entry.createTimes
      if 0 < entry.activeConnections ∨ kept ≠ [] then some { entry with createTimes := kept } else none }

/-- The instants that are kept for an address. -/
def times (l : IpRateLimiter ι) (ip : ι) : List Nat := (l.entry ip).createTimes

theorem times_setEntry_self (l : IpRateLimiter ι) (ip : ι) (state : Option IpState) :
    (l.setEntry ip state).times ip = (state.getD {}).createTimes := by
  unfold times entry setEntry
  dsimp only
  rw [Function.update_self]

theorem times_setEntry_of_ne {l : IpRateLimiter ι} {ip other : ι} {state : Option IpState} (different : other ≠ ip) :
    (l.setEntry ip state).times other = l.times other := by
  unfold times entry setEntry
  dsimp only
  rw [Function.update_of_ne different]

/-- An entry with the same instants changes none of them. -/
theorem times_setEntry_same {l : IpRateLimiter ι} {ip : ι} {state : Option IpState}
    (same : (state.getD {}).createTimes = l.times ip) (other : ι) : (l.setEntry ip state).times other = l.times other := by
  by_cases own : other = ip
  · rw [own, times_setEntry_self, same]
  · exact times_setEntry_of_ne own

theorem times_trackConnection (l : IpRateLimiter ι) (ip other : ι) : (l.trackConnection ip).2.times other = l.times other := by
  unfold trackConnection
  dsimp only
  split
  · apply times_setEntry_same
    rfl
  · apply times_setEntry_same
    rfl

theorem times_releaseConnection (l : IpRateLimiter ι) (ip other : ι) :
    (l.releaseConnection ip).times other = l.times other := by
  unfold releaseConnection
  cases found : l.state ip with
  | none => rfl
  | some entry =>
    have kept : l.times ip = entry.createTimes := by
      unfold times IpRateLimiter.entry
      rw [found]
      rfl
    dsimp only
    split
    · rename_i idle
      apply times_setEntry_same
      rw [kept, idle.2]
      rfl
    · apply times_setEntry_same
      exact kept.symm

omit [DecidableEq ι] in
theorem times_cleanup (l : IpRateLimiter ι) (now : Nat) (ip : ι) : (l.cleanup now).times ip = recent l.width now (l.times ip) := by
  unfold times entry cleanup
  dsimp only
  cases l.state ip with
  | none => rfl
  | some entry =>
    dsimp only [Option.bind_some, Option.getD_some]
    split
    · rfl
    · rename_i stale
      have none : recent l.width now entry.createTimes = [] := not_not.mp fun kept => stale (Or.inr kept)
      exact none.symm

theorem times_checkCreate_of_ne {l : IpRateLimiter ι} {ip other : ι} {now : Nat} (different : other ≠ ip) :
    (l.checkCreate ip now).2.times other = l.times other := by
  unfold checkCreate
  dsimp only
  split <;> exact times_setEntry_of_ne different

theorem times_checkCreate (l : IpRateLimiter ι) (ip : ι) (now : Nat) :
    (l.checkCreate ip now).2.times ip =
      recent l.width now (l.times ip) ++ if (l.checkCreate ip now).1 then [now] else [] := by
  unfold checkCreate
  dsimp only
  split
  · rw [times_setEntry_self]
    exact (List.append_nil _).symm
  · rw [times_setEntry_self]
    rfl

/-- A create is allowed only if fewer than the limit are recent. -/
theorem room_of_checkCreate {l : IpRateLimiter ι} {ip : ι} {now : Nat} (allowed : (l.checkCreate ip now).1 = true) :
    (recent l.width now (l.times ip)).length < l.maxCreatesPerWindow := by
  unfold checkCreate at allowed
  dsimp only at allowed
  split at allowed
  · cases allowed
  · rename_i room
    exact Nat.lt_of_not_le room

end IpRateLimiter

/-! ### The server behind its limiter -/

/-- The server with its limiter. `passed` records which connections the limiter let create
a channel, and when; `created` which connections created one. -/
structure Gate (τ ι : Type) where
  app : AppState τ
  limiter : IpRateLimiter ι
  passed : List (Nat × Nat) := []
  created : List (Nat × Nat) := []

/-- What happens to it. What happens inside is an event of the server; its connects and
frames come through the limiter. -/
inductive GateEvent (τ : Type) where
  | connect
  | receive (k : Nat) (incoming : Incoming τ)
  | inside (event : Event τ)
  | release (k : Nat)
  | cleanup

/-- The connection whose message is processed. -/
def GateEvent.processed : GateEvent τ → Option Nat
  | .inside (.process k) => some k
  | _ => none

/-- The frame is a create, and the first message of its connection. -/
def AppState.asks (s : AppState τ) (read : τ → Except CloseReason ClientMessage) (k : Nat) : Incoming τ → Bool
  | .text raw =>
    match (s.tasks k).stage, (s.tasks k).binding, read raw with
    | .reading, none, .ok (.create _ _) => true
    | _, _, _ => false
  | _ => false

/-- Processing the message of the connection creates a channel. -/
def AppState.creates (s : AppState τ) (k : Nat) : Bool :=
  match (s.tasks k).stage with
  | .checked raw msg atCapacity =>
    match processMessage k k raw msg atCapacity (s.world (shardIndex msg.channelId)) with
    | .ok .okCreated _ => true
    | _ => false
  | _ => false

/-- The message of the connection is a create that found room, of a channel that is free. -/
def AppState.finds (s : AppState τ) (k : Nat) : Bool :=
  match (s.tasks k).stage with
  | .checked _ (.create ch _) false =>
    match s.channel ch with
    | none => true
    | some c => (s.world (shardIndex ch)).replaceable c
  | _ => false

namespace Gate

section
variable (read : τ → Except CloseReason ClientMessage) (address : Nat → ι)

/-- A connection is counted against its address, if there is a limit. -/
def connect (g : Gate τ ι) : Gate τ ι :=
  if 0 < g.limiter.maxConnectionsPerIp then
    match g.limiter.trackConnection (address g.app.nextConn) with
    | (true, limiter) => { g with app := Server.step read g.app .connect, limiter }
    | (false, limiter) => { g with limiter }
  else { g with app := Server.step read g.app .connect }

/-- A first create is checked, if there is a limit. -/
def receive (g : Gate τ ι) (k : Nat) (incoming : Incoming τ) : Gate τ ι :=
  if g.app.asks read k incoming ∧ 0 < g.limiter.maxCreatesPerWindow then
    match g.limiter.checkCreate (address k) g.app.clock.instant with
    | (true, limiter) =>
      { g with
        app := Server.step read g.app (.receive k incoming false)
        limiter
        passed := g.passed ++ [(k, g.app.clock.instant)] }
    | (false, limiter) => { g with app := Server.step read g.app (.receive k incoming true), limiter }
  else { g with app := Server.step read g.app (.receive k incoming false) }

/-- One step. The clock of the server never goes back. -/
def step (g : Gate τ ι) : GateEvent τ → Gate τ ι
  | .connect => g.connect read address
  | .receive k incoming => g.receive read address k incoming
  | .release k =>
    if 0 < g.limiter.maxConnectionsPerIp then { g with limiter := g.limiter.releaseConnection (address k) } else g
  | .cleanup => { g with limiter := g.limiter.cleanup g.app.clock.instant }
  | .inside .connect => g
  | .inside (.receive _ _ _) => g
  | .inside (.tick clock) =>
    if g.app.clock.instant ≤ clock.instant then { g with app := Server.step read g.app (.tick clock) } else g
  | .inside (.process k) =>
    { g with
      app := Server.step read g.app (.process k)
      created := if g.app.creates k then g.created ++ [(k, g.app.clock.instant)] else g.created }
  | .inside event => { g with app := Server.step read g.app event }

end

/-- The server as it starts, with the limiter that `main` gives it. -/
def boot (τ ι : Type) (config : Config) (clock : Clock) (saved : Option Saved)
    (maxCreatesPerIpPerMin maxConnectionsPerIp : Nat) : Gate τ ι :=
  { app := .boot τ config clock saved
    limiter := .new maxCreatesPerIpPerMin maxConnectionsPerIp 60 }

/-- The instants of a record that concern one address. -/
def timesOf (address : Nat → ι) (ip : ι) (record : List (Nat × Nat)) : List Nat :=
  (record.filter fun e => address e.1 = ip).map Prod.snd

/-- In no window of a minute has one address created more channels than the limit. -/
def CreatesLimited (address : Nat → ι) (maxCreatesPerIpPerMin : Nat) (g : Gate τ ι) : Prop :=
  ∀ ip, Sparse (60 * nanosPerSec) maxCreatesPerIpPerMin (timesOf address ip g.created)

/-- When the limiter let a create of this connection pass. -/
def checkedAt (g : Gate τ ι) (k : Nat) : Option Nat := (g.passed.find? fun e => e.1 == k).map Prod.snd

/-- The limiter heard of the next create of this connection: it let one pass, and the connection
has created nothing yet. -/
def Heard (g : Gate τ ι) (k : Nat) : Prop := (g.checkedAt k).isSome ∧ ∀ e ∈ g.created, e.1 ≠ k

/-- The delay since its check does not bring the next create of this connection into one minute
with an earlier one of its address, where their checks lie a minute or more apart. -/
def Timely (address : Nat → ι) (g : Gate τ ι) (k : Nat) : Prop :=
  ∀ e ∈ g.created, address e.1 = address k → g.app.clock.instant < e.2 + 60 * nanosPerSec →
    ∀ mine ∈ g.checkedAt k, ∀ other ∈ g.checkedAt e.1,
      mine < other + 60 * nanosPerSec ∧ other < mine + 60 * nanosPerSec

/-- A create that finds room and a free channel is the first message of its connection, which the
limiter let pass, and comes with no other one into a minute that their checks do not share. -/
def Metered (address : Nat → ι) (g : Gate τ ι) (event : GateEvent τ) : Prop :=
  ∀ k ∈ event.processed, g.app.finds k = true → g.Heard k ∧ g.Timely address k

instance (g : Gate τ ι) (k : Nat) : Decidable (g.Heard k) :=
  inferInstanceAs (Decidable ((g.checkedAt k).isSome ∧ ∀ e ∈ g.created, e.1 ≠ k))

instance (address : Nat → ι) (g : Gate τ ι) (k : Nat) : Decidable (g.Timely address k) :=
  inferInstanceAs (Decidable (∀ e ∈ g.created, address e.1 = address k → g.app.clock.instant < e.2 + 60 * nanosPerSec →
    ∀ mine ∈ g.checkedAt k, ∀ other ∈ g.checkedAt e.1,
      mine < other + 60 * nanosPerSec ∧ other < mine + 60 * nanosPerSec))

instance (address : Nat → ι) (g : Gate τ ι) (event : GateEvent τ) : Decidable (g.Metered address event) :=
  inferInstanceAs (Decidable (∀ k ∈ event.processed, g.app.finds k = true → g.Heard k ∧ g.Timely address k))

/-! ### What the limiter keeps -/

section
variable {read : τ → Except CloseReason ClientMessage} {address : Nat → ι} {g : Gate τ ι} {limit : Nat}

/-- The limiter has kept what is recent of the creates it let pass. Nothing was created that it
did not let pass, and what was created within a minute was checked within one. -/
structure Sound (address : Nat → ι) (limit : Nat) (g : Gate τ ι) : Prop where
  window : g.limiter.windowSecs = 60
  most : g.limiter.maxCreatesPerWindow = limit
  kept : ∀ ip, recent (60 * nanosPerSec) g.app.clock.instant (g.limiter.times ip) =
    recent (60 * nanosPerSec) g.app.clock.instant (timesOf address ip g.passed)
  sparse : ∀ ip, Sparse (60 * nanosPerSec) limit (timesOf address ip g.passed)
  heard : ∀ e ∈ g.created, (g.checkedAt e.1).isSome
  once : (g.created.map Prod.fst).Nodup
  past : ∀ e ∈ g.created, e.2 ≤ g.app.clock.instant
  close : ∀ e ∈ g.created, ∀ f ∈ g.created, address e.1 = address f.1 →
    e.2 < f.2 + 60 * nanosPerSec → f.2 < e.2 + 60 * nanosPerSec →
    ∀ mine ∈ g.checkedAt e.1, ∀ other ∈ g.checkedAt f.1, mine < other + 60 * nanosPerSec

theorem Sound.width (sound : Sound address limit g) : g.limiter.width = 60 * nanosPerSec := by
  unfold IpRateLimiter.width
  rw [sound.window]

/-- A later state of the server, and a limiter that has forgotten nothing recent. -/
theorem Sound.keep (sound : Sound address limit g) (app : AppState τ) (limiter : IpRateLimiter ι)
    (order : g.app.clock.instant ≤ app.clock.instant) (window : limiter.windowSecs = g.limiter.windowSecs)
    (same : limiter.maxCreatesPerWindow = g.limiter.maxCreatesPerWindow)
    (times : ∀ ip, recent (60 * nanosPerSec) app.clock.instant (limiter.times ip) =
      recent (60 * nanosPerSec) app.clock.instant (g.limiter.times ip)) :
    Sound address limit { g with app, limiter } := by
  refine ⟨window.trans sound.window, same.trans sound.most, fun ip => ?_, sound.sparse, sound.heard, sound.once,
    fun e mem => (sound.past e mem).trans order, sound.close⟩
  exact (times ip).trans (recent_congr order (sound.kept ip))

theorem connect_sound (sound : Sound address limit g) : Sound address limit (g.connect read address) := by
  have clock : (Server.step read g.app .connect).clock = g.app.clock :=
    (step_settings read g.app .connect).2 nofun
  have order : g.app.clock.instant ≤ (Server.step read g.app .connect).clock.instant := by rw [clock]
  unfold connect
  split
  · have times := g.limiter.times_trackConnection (address g.app.nextConn)
    have window : (g.limiter.trackConnection (address g.app.nextConn)).2.windowSecs = g.limiter.windowSecs := by
      unfold IpRateLimiter.trackConnection
      dsimp only
      split <;> rfl
    have same : (g.limiter.trackConnection (address g.app.nextConn)).2.maxCreatesPerWindow =
        g.limiter.maxCreatesPerWindow := by
      unfold IpRateLimiter.trackConnection
      dsimp only
      split <;> rfl
    generalize g.limiter.trackConnection (address g.app.nextConn) = answer at times window same ⊢
    obtain ⟨allowed, limiter⟩ := answer
    cases allowed with
    | true => exact sound.keep _ limiter order window same fun ip => congrArg _ (times ip)
    | false => exact sound.keep g.app limiter le_rfl window same fun ip => congrArg _ (times ip)
  · exact sound.keep _ g.limiter order rfl rfl fun _ => rfl

theorem timesOf_append (ip : ι) (record : List (Nat × Nat)) (k t : Nat) :
    timesOf address ip (record ++ [(k, t)]) = timesOf address ip record ++ if address k = ip then [t] else [] := by
  unfold timesOf
  rw [List.filter_append, List.map_append]
  by_cases own : address k = ip
  · rw [if_pos own, List.filter_cons_of_pos (by simpa using own)]
    rfl
  · rw [if_neg own, List.filter_cons_of_neg (by simpa using own)]
    rfl

omit [DecidableEq ι] in
/-- A connection that the limiter has let pass keeps its instant. -/
theorem checkedAt_append {later : Gate τ ι} {e : Nat × Nat} {k : Nat} (grown : later.passed = g.passed ++ [e])
    (heard : (g.checkedAt k).isSome) : later.checkedAt k = g.checkedAt k := by
  unfold checkedAt at *
  rw [Option.isSome_map] at heard
  rw [grown, List.find?_append, Option.or_of_isSome heard]

/-- A create that passes: the limiter has room for it, and keeps its instant. -/
theorem pass_sound (sound : Sound address limit g) {k : Nat} {app : AppState τ} (clock : app.clock = g.app.clock)
    (allowed : (g.limiter.checkCreate (address k) g.app.clock.instant).1 = true) :
    Sound address limit
      { g with
        app
        limiter := (g.limiter.checkCreate (address k) g.app.clock.instant).2
        passed := g.passed ++ [(k, g.app.clock.instant)] } := by
  have room := IpRateLimiter.room_of_checkCreate allowed
  rw [sound.width, sound.kept (address k), sound.most] at room
  refine ⟨?_, ?_, fun ip => ?_, fun ip => ?_, fun e mem => ?_, sound.once, fun e mem => ?_,
    fun e mem f mem' same before after => ?_⟩
  · rw [← sound.window]
    unfold IpRateLimiter.checkCreate
    dsimp only
    split <;> rfl
  · rw [← sound.most]
    unfold IpRateLimiter.checkCreate
    dsimp only
    split <;> rfl
  · dsimp only
    rw [clock, timesOf_append]
    by_cases own : ip = address k
    · rw [own, IpRateLimiter.times_checkCreate, if_pos allowed, if_pos rfl, sound.width, recent_append, recent_append,
        recent_recent le_rfl, sound.kept]
    · rw [IpRateLimiter.times_checkCreate_of_ne own, if_neg (Ne.symm own), List.append_nil, sound.kept]
  · dsimp only
    rw [timesOf_append]
    by_cases own : address k = ip
    · rw [if_pos own]
      rw [own] at room
      exact (sound.sparse ip).push room
    · rw [if_neg own, List.append_nil]
      exact sound.sparse ip
  · rw [checkedAt_append rfl (sound.heard e mem)]
    exact sound.heard e mem
  · dsimp only
    rw [clock]
    exact sound.past e mem
  · rw [checkedAt_append rfl (sound.heard e mem), checkedAt_append rfl (sound.heard f mem')]
    exact sound.close e mem f mem' same before after

theorem receive_sound (sound : Sound address limit g) {k : Nat} {incoming : Incoming τ} :
    Sound address limit (g.receive read address k incoming) := by
  have clock : ∀ limited, (Server.step read g.app (.receive k incoming limited)).clock = g.app.clock :=
    fun limited => (step_settings read g.app (.receive k incoming limited)).2 nofun
  have order : ∀ limited, g.app.clock.instant ≤ (Server.step read g.app (.receive k incoming limited)).clock.instant := by
    intro limited
    rw [clock]
  unfold receive
  split
  · cases answer : g.limiter.checkCreate (address k) g.app.clock.instant with
    | mk allowed limiter =>
      have own : (g.limiter.checkCreate (address k) g.app.clock.instant).2 = limiter := by rw [answer]
      cases allowed with
      | true =>
        dsimp only
        rw [← own]
        apply pass_sound sound (clock false)
        rw [answer]
      | false =>
        dsimp only
        rw [← own]
        apply sound.keep _ _ (order true)
        · unfold IpRateLimiter.checkCreate
          dsimp only
          split <;> rfl
        · unfold IpRateLimiter.checkCreate
          dsimp only
          split <;> rfl
        · intro ip
          rw [clock]
          by_cases asked : ip = address k
          · rw [asked, IpRateLimiter.times_checkCreate, answer, sound.width, if_neg (by simp), List.append_nil,
              recent_recent le_rfl]
          · rw [IpRateLimiter.times_checkCreate_of_ne asked]
  · exact sound.keep _ _ (order false) rfl rfl fun _ => rfl

/-- What creates a channel is a create that finds room, and no channel that must stay. -/
theorem finds_of_creates {s : AppState τ} {k : Nat} (creates : s.creates k = true) : s.finds k = true := by
  unfold AppState.creates at creates
  cases stage : (s.tasks k).stage with
  | checked raw msg atCapacity =>
    rw [stage] at creates
    obtain ⟨r, w, processed, handled⟩ :=
      processMessage_handled k k raw msg atCapacity (s.world (shardIndex msg.channelId))
    dsimp only at creates
    rw [processed] at creates
    cases handled with
    | created absent free =>
      rename_i ch peer
      have absent' : s.channel ch = none := absent
      unfold AppState.finds
      rw [stage, free]
      dsimp only
      rw [absent']
    | replaced found replaceable free =>
      rename_i ch peer c
      have found' : s.channel ch = some c := found
      unfold AppState.finds
      rw [stage, free]
      dsimp only
      rw [found']
      exact replaceable
    | _ => cases creates
  | _ =>
    rw [stage] at creates
    cases creates

theorem process_sound (sound : Sound address limit g) {k : Nat} (metered : Metered address g (.inside (.process k))) :
    Sound address limit (step read address g (.inside (.process k))) := by
  have clock : (Server.step read g.app (.process k)).clock = g.app.clock :=
    (step_settings read g.app (.process k)).2 nofun
  have later : Sound address limit { g with app := Server.step read g.app (.process k) } := by
    apply sound.keep _ g.limiter _ rfl rfl fun _ => rfl
    rw [clock]
  simp only [step]
  by_cases creates : g.app.creates k = true
  · rw [if_pos creates]
    obtain ⟨⟨heard, first⟩, timely⟩ := metered k rfl (finds_of_creates creates)
    have now : (Server.step read g.app (.process k)).clock.instant = g.app.clock.instant := by rw [clock]
    refine ⟨later.window, later.most, later.kept, later.sparse, ?_, ?_, ?_, ?_⟩
    · intro e mem
      rcases List.mem_append.mp mem with before | own
      · exact sound.heard e before
      · rw [List.mem_singleton.mp own]
        exact heard
    · rw [List.map_append, List.nodup_append]
      refine ⟨sound.once, List.nodup_singleton _, ?_⟩
      intro j before other own same
      obtain ⟨e, mem, rfl⟩ := List.mem_map.mp before
      have mine : other = k := by simpa using own
      exact first e mem (same.trans mine)
    · intro e mem
      dsimp only
      rw [now]
      rcases List.mem_append.mp mem with before | own
      · exact sound.past e before
      · rw [List.mem_singleton.mp own]
    · intro e mem f mem' same after before mine checked other checked'
      rcases List.mem_append.mp mem with old | own <;> rcases List.mem_append.mp mem' with old' | own'
      · exact sound.close e old f old' same after before mine checked other checked'
      · rw [List.mem_singleton.mp own'] at same before checked'
        exact (timely e old same before other checked' mine checked).2
      · rw [List.mem_singleton.mp own] at same after checked
        exact (timely f old' same.symm after mine checked other checked').1
      · rw [List.mem_singleton.mp own] at checked
        rw [List.mem_singleton.mp own'] at checked'
        have instants : mine = other := Option.some.inj (checked.symm.trans checked')
        rw [instants]
        exact Nat.lt_add_of_pos_right (by decide)
  · rw [if_neg creates]
    exact later

theorem step_sound (sound : Sound address limit g) {event : GateEvent τ} (metered : Metered address g event) :
    Sound address limit (step read address g event) := by
  cases event with
  | connect => exact connect_sound sound
  | receive k incoming => exact receive_sound sound
  | release k =>
    simp only [step]
    split
    · apply sound.keep g.app _ le_rfl
      · unfold IpRateLimiter.releaseConnection
        dsimp only
        split
        · rfl
        · split <;> rfl
      · unfold IpRateLimiter.releaseConnection
        dsimp only
        split
        · rfl
        · split <;> rfl
      · exact fun ip => congrArg _ (g.limiter.times_releaseConnection (address k) ip)
    · exact sound
  | cleanup =>
    apply sound.keep g.app (g.limiter.cleanup g.app.clock.instant) le_rfl rfl rfl
    intro ip
    rw [IpRateLimiter.times_cleanup, sound.width, recent_recent le_rfl]
  | inside event =>
    have clock := (step_settings read g.app event).2
    cases event with
    | connect => exact sound
    | receive k incoming limited => exact sound
    | process k => exact process_sound sound metered
    | tick clock =>
      simp only [step]
      split
      · rename_i order
        exact sound.keep _ g.limiter order rfl rfl fun _ => rfl
      · exact sound
    | _ =>
      apply sound.keep _ g.limiter _ rfl rfl fun _ => rfl
      rw [clock nofun]

/-- What a sound server has created keeps to the limit. -/
theorem Sound.limited (sound : Sound address limit g) : CreatesLimited address limit g := by
  intro ip
  have own : ∀ {e : Nat × Nat} {record : List (Nat × Nat)}, (e ∈ record.filter fun e => address e.1 = ip) ↔
      e ∈ record ∧ address e.1 = ip := by
    intro e record
    rw [List.mem_filter, decide_eq_true_eq]
  have checked : ∀ e ∈ g.created, g.checkedAt e.1 = some ((g.checkedAt e.1).getD 0) := by
    intro e mem
    obtain ⟨t, found⟩ := Option.isSome_iff_exists.mp (sound.heard e mem)
    rw [found]
    rfl
  refine @Sparse.delayed _ _ _ _ _ (fun k => (g.checkedAt k).getD 0) (sound.sparse ip) ?_ ?_ ?_
  · exact sound.once.sublist (List.filter_sublist.map _)
  · intro e mem
    have checked' := checked e (own.mp mem).1
    obtain ⟨entry, found, instant⟩ := Option.map_eq_some_iff.mp checked'
    have key : entry.1 = e.1 := by simpa using List.find?_some found
    rw [own, ← instant, ← key]
    exact ⟨List.mem_of_find?_eq_some found, by rw [key]; exact (own.mp mem).2⟩
  · intro e mem f mem' after before
    have same : address e.1 = address f.1 := (own.mp mem).2.trans (own.mp mem').2.symm
    exact sound.close e (own.mp mem).1 f (own.mp mem').1 same after before _ (checked e (own.mp mem).1) _
      (checked f (own.mp mem').1)

theorem boot_sound (address : Nat → ι) (config : Config) (clock : Clock) (saved : Option Saved) (creates connections : Nat) :
    Sound address creates (boot τ ι config clock saved creates connections) :=
  ⟨rfl, rfl, fun _ => rfl, fun _ => sparse_nil, nofun, List.nodup_nil, nofun, nofun⟩

end

end Gate

/-- In a run in which every channel is created by the first message of its connection, and the
delay since its check brings no two creations together, no address creates more channels in a
minute than the limit. -/
theorem creates_limited_while_metered (read : τ → Except CloseReason ClientMessage) (address : Nat → ι) (config : Config)
    (clock : Clock) (saved : Option Saved) (maxCreatesPerIpPerMin maxConnectionsPerIp : Nat)
    (events : List (GateEvent τ))
    (metered : Along (Gate.step read address) (Gate.Metered address)
      (.boot τ ι config clock saved maxCreatesPerIpPerMin maxConnectionsPerIp) events) :
    Gate.CreatesLimited address maxCreatesPerIpPerMin
      (run (Gate.step read address) (.boot τ ι config clock saved maxCreatesPerIpPerMin maxConnectionsPerIp) events) := by
  have start : Gate.Sound address maxCreatesPerIpPerMin
      (.boot τ ι config clock saved maxCreatesPerIpPerMin maxConnectionsPerIp) :=
    Gate.boot_sound address config clock saved maxCreatesPerIpPerMin maxConnectionsPerIp
  exact (invariant (fun _ _ metered sound => Gate.step_sound sound metered) metered start).limited

namespace Sample

/-- A server that lets every address create one channel a minute. -/
def gate : Gate ClientMessage Nat := .boot ClientMessage Nat config {} none 1 50

def sending (k : Nat) (msg : ClientMessage) : List (GateEvent ClientMessage) :=
  [.receive k (.text msg), .inside (.process k), .inside (.count k)]

/-- A connection creates a channel, closes it and creates it again. -/
def recreating : List (GateEvent ClientMessage) :=
  .connect :: sending 1 (.create channel dapp) ++ sending 1 (.close channel dapp "normal") ++ sending 1 (.create channel dapp)

set_option maxRecDepth 8000 in
theorem recreating_created : (run (Gate.step read fun k => k) gate recreating).created = [(1, 0), (1, 0)] := by
  rfl

/-- Of four connections the third has an address of its own. -/
def behind (k : Nat) : Nat := if k = 3 then 8 else 7

/-- Three connections create at once, the first of them slowly, and the second is refused; a minute
later a fourth one creates what the second could not. -/
def creating : List (GateEvent ClientMessage) :=
  ([.connect, .connect, .connect, .receive 1 (.text (.create channel dapp)), .inside (.tick ⟨5, 0⟩)] :
      List (GateEvent ClientMessage)) ++
    sending 2 (.create "bb" dapp) ++ ([.inside (.process 1)] : List (GateEvent ClientMessage)) ++
    sending 3 (.create "cc" dapp) ++
    ([.inside (.count 1), .inside (.leave 2), .release 2, .cleanup, .inside (.tick ⟨61 * nanosPerSec, 61⟩), .connect] :
      List (GateEvent ClientMessage)) ++
    sending 4 (.create "bb" dapp)

end Sample

theorem creates_limited_sample :
    Gate.CreatesLimited Sample.behind 1 (run (Gate.step Sample.read Sample.behind) Sample.gate Sample.creating) ∧
      (run (Gate.step Sample.read Sample.behind) Sample.gate Sample.creating).created =
        [(1, 5), (3, 5), (4, 61 * nanosPerSec)] :=
  ⟨creates_limited_while_metered Sample.read Sample.behind Sample.config {} none 1 50 Sample.creating (by decide +kernel),
    by decide +kernel⟩

/-- A connection that closes its channel may create it again, unheard by the limiter. -/
theorem recreates_unlimited :
    ¬ ∀ (τ ι : Type) (_ : DecidableEq ι) (read : τ → Except CloseReason ClientMessage) (address : Nat → ι) (config : Config)
      (clock : Clock) (saved : Option Saved) (maxCreatesPerIpPerMin maxConnectionsPerIp : Nat) (events : List (GateEvent τ)),
      0 < maxCreatesPerIpPerMin → Gate.CreatesLimited address maxCreatesPerIpPerMin
        (run (Gate.step read address) (.boot τ ι config clock saved maxCreatesPerIpPerMin maxConnectionsPerIp) events) := by
  intro all
  have limited : Gate.CreatesLimited (fun k => k) 1
      (run (Gate.step Sample.read fun k => k) Sample.gate Sample.recreating) :=
    all ClientMessage Nat inferInstance Sample.read (fun k => k) Sample.config {} none 1 50 Sample.recreating Nat.one_pos
  have most := limited 1 0
  rw [Sample.recreating_created] at most
  exact absurd most (by decide)

end WalletPair.Relay.Server
