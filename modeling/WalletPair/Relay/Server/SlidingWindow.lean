import WalletPair.Relay.Server.RateLimit

/-! The limiter by itself, called in any order at instants that never go back. The record of
its answers says what it has let pass; what it keeps is the recent part of that record. -/

namespace WalletPair.Relay.Server
open WalletPair.Lib WalletPair.Lib.Run WalletPair.Lib.Window

/-- The calls of the limiter. -/
inductive LimiterCall (ι : Type) where
  | checkCreate (ip : ι)
  | trackConnection (ip : ι)
  | releaseConnection (ip : ι)
  | cleanup
  deriving DecidableEq

/-- A call, the instant it was made at, and what it returned; a call without a result
counts as `true`. -/
structure LimiterAnswer (ι : Type) where
  now : Nat
  call : LimiterCall ι
  answer : Bool

variable {ι : Type} [DecidableEq ι]

def IpRateLimiter.perform (l : IpRateLimiter ι) (now : Nat) : LimiterCall ι → Bool × IpRateLimiter ι
  | .checkCreate ip => l.checkCreate ip now
  | .trackConnection ip => l.trackConnection ip
  | .releaseConnection ip => (true, l.releaseConnection ip)
  | .cleanup => (true, l.cleanup now)

/-- The limiter with the record of its answers. -/
structure Limiting (ι : Type) where
  limiter : IpRateLimiter ι
  history : List (LimiterAnswer ι)

namespace Limiting

def boot (maxCreatesPerWindow maxConnectionsPerIp windowSecs : Nat) : Limiting ι :=
  ⟨.new maxCreatesPerWindow maxConnectionsPerIp windowSecs, []⟩

def step (x : Limiting ι) (c : Nat × LimiterCall ι) : Limiting ι :=
  ⟨(x.limiter.perform c.1 c.2).2, x.history ++ [⟨c.1, c.2, (x.limiter.perform c.1 c.2).1⟩]⟩

/-- The instants of the creates of an address that were allowed. -/
def creates (x : Limiting ι) (ip : ι) : List Nat :=
  x.history.filterMap fun a => if a.call = .checkCreate ip ∧ a.answer then some a.now else none

/-- How many connections of an address were allowed. -/
def tracked (x : Limiting ι) (ip : ι) : Nat := x.history.countP fun a => a.call = .trackConnection ip ∧ a.answer

def released (x : Limiting ι) (ip : ι) : Nat := x.history.countP fun a => a.call = .releaseConnection ip

/-- The connections that the limiter counts for an address. -/
def active (x : Limiting ι) (ip : ι) : Nat := (x.limiter.entry ip).activeConnections

/-- Only a connection that was tracked, and is not released yet, is released. -/
def Paired (x : Limiting ι) (c : Nat × LimiterCall ι) : Prop :=
  ∀ ip, c.2 = .releaseConnection ip → x.released ip < x.tracked ip

/-! ### Creates -/

section Creates
variable {x : Limiting ι} {width limit : Nat}

/-- What the limiter keeps is what is recent of the creates it allowed. -/
structure Sound (width limit : Nat) (x : Limiting ι) : Prop where
  window : x.limiter.width = width
  most : x.limiter.maxCreatesPerWindow = limit
  kept : ∀ ip now, (∀ a ∈ x.history, a.now ≤ now) → recent width now (x.limiter.times ip) = recent width now (x.creates ip)
  sparse : ∀ ip, Sparse width limit (x.creates ip)

theorem creates_step (x : Limiting ι) (c : Nat × LimiterCall ι) (ip : ι) :
    (x.step c).creates ip =
      x.creates ip ++ if c.2 = .checkCreate ip ∧ (x.limiter.perform c.1 c.2).1 = true then [c.1] else [] := by
  unfold creates step
  rw [List.filterMap_append]
  by_cases allowed : c.2 = .checkCreate ip ∧ (x.limiter.perform c.1 c.2).1 = true
  · rw [if_pos allowed, List.filterMap_cons_some (b := c.1) (by rw [if_pos allowed])]
    rfl
  · rw [if_neg allowed, List.filterMap_cons_none (by rw [if_neg allowed])]
    rfl

theorem perform_settings (l : IpRateLimiter ι) (now : Nat) (call : LimiterCall ι) :
    (l.perform now call).2.windowSecs = l.windowSecs ∧
    (l.perform now call).2.maxCreatesPerWindow = l.maxCreatesPerWindow ∧
    (l.perform now call).2.maxConnectionsPerIp = l.maxConnectionsPerIp := by
  cases call with
  | checkCreate ip =>
    simp only [IpRateLimiter.perform, IpRateLimiter.checkCreate]
    split <;> exact ⟨rfl, rfl, rfl⟩
  | trackConnection ip =>
    simp only [IpRateLimiter.perform, IpRateLimiter.trackConnection]
    split <;> exact ⟨rfl, rfl, rfl⟩
  | releaseConnection ip =>
    simp only [IpRateLimiter.perform, IpRateLimiter.releaseConnection]
    split
    · exact ⟨rfl, rfl, rfl⟩
    · split <;> exact ⟨rfl, rfl, rfl⟩
  | cleanup => exact ⟨rfl, rfl, rfl⟩

/-- No call but a create adds an instant, and none forgets a recent one. -/
theorem recent_perform (l : IpRateLimiter ι) {now later : Nat} (order : now ≤ later) (call : LimiterCall ι) (ip : ι) :
    recent l.width later ((l.perform now call).2.times ip) = recent l.width later (l.times ip) ++
      if call = .checkCreate ip ∧ (l.perform now call).1 = true then recent l.width later [now] else [] := by
  cases call with
  | checkCreate asked =>
    by_cases own : ip = asked
    · subst own
      have kept := l.times_checkCreate ip now
      simp only [IpRateLimiter.perform, true_and]
      rw [kept, recent_append, recent_recent order]
      split <;> rfl
    · have other : ¬(LimiterCall.checkCreate asked = .checkCreate ip ∧ (l.perform now (.checkCreate asked)).1 = true) :=
        fun both => own (by injection both.1 with same; exact same.symm)
      rw [if_neg other, List.append_nil]
      exact congrArg _ (IpRateLimiter.times_checkCreate_of_ne own)
  | trackConnection asked =>
    rw [if_neg (by simp), List.append_nil]
    exact congrArg _ (l.times_trackConnection asked ip)
  | releaseConnection asked =>
    rw [if_neg (by simp), List.append_nil]
    exact congrArg _ (l.times_releaseConnection asked ip)
  | cleanup =>
    rw [if_neg (by simp), List.append_nil]
    change recent l.width later ((l.cleanup now).times ip) = _
    rw [l.times_cleanup now ip, recent_recent order]

theorem step_sound (sound : Sound width limit x) {c : Nat × LimiterCall ι} (order : ∀ a ∈ x.history, a.now ≤ c.1) :
    Sound width limit (x.step c) := by
  obtain ⟨window, most, -⟩ := perform_settings x.limiter c.1 c.2
  refine ⟨?_, most.trans sound.most, fun ip now past => ?_, fun ip => ?_⟩
  · rw [← sound.window]
    exact congrArg (· * nanosPerSec) window
  · have after : c.1 ≤ now := past _ (List.mem_append_right _ List.mem_cons_self)
    have before : ∀ a ∈ x.history, a.now ≤ now := fun a member => past a (List.mem_append_left _ member)
    rw [creates_step, recent_append, ← sound.kept ip now before]
    have kept := recent_perform x.limiter after c.2 ip
    rw [sound.window] at kept
    change recent width now ((x.limiter.perform c.1 c.2).2.times ip) = _
    rw [kept]
    split <;> rfl
  · rw [creates_step]
    split
    · rename_i allowed
      have passed : (x.limiter.checkCreate ip c.1).1 = true := by
        have answer := allowed.2
        rw [allowed.1] at answer
        exact answer
      have room := IpRateLimiter.room_of_checkCreate passed
      rw [sound.window, sound.most, sound.kept ip c.1 order] at room
      exact (sound.sparse ip).push room
    · rw [List.append_nil]
      exact sound.sparse ip

theorem run_sound {x : Limiting ι} {calls : List (Nat × LimiterCall ι)} (ordered : (calls.map Prod.fst).Pairwise (· ≤ ·))
    (later : ∀ c ∈ calls, ∀ a ∈ x.history, a.now ≤ c.1) (sound : Sound width limit x) :
    Sound width limit (run step x calls) := by
  induction calls generalizing x with
  | nil => exact sound
  | cons c rest ih =>
    rw [List.map_cons, List.pairwise_cons] at ordered
    refine ih ordered.2 (fun d member a past => ?_) (step_sound sound (later c List.mem_cons_self))
    rcases List.mem_append.mp past with before | now
    · exact later d (List.mem_cons_of_mem _ member) a before
    · rw [List.mem_singleton.mp now]
      exact ordered.1 d.1 (List.mem_map_of_mem member)

theorem history_run (x : Limiting ι) (calls : List (Nat × LimiterCall ι)) :
    (run step x calls).history.map (fun a => (a.now, a.call)) = x.history.map (fun a => (a.now, a.call)) ++ calls := by
  induction calls generalizing x with
  | nil => exact (List.append_nil _).symm
  | cons c rest ih =>
    rw [run_cons, ih]
    simp [step]

theorem mem_creates {ip : ι} {t : Nat} (member : t ∈ x.creates ip) : ∃ a ∈ x.history, a.now = t := by
  obtain ⟨a, recorded, passed⟩ := List.mem_filterMap.mp member
  split at passed
  · exact ⟨a, recorded, Option.some.inj passed⟩
  · cases passed

/-- A create is refused only when the limit is reached. -/
theorem full_of_refused {l : IpRateLimiter ι} {ip : ι} {now : Nat} (refused : (l.checkCreate ip now).1 = false) :
    l.maxCreatesPerWindow ≤ (recent l.width now (l.times ip)).length := by
  unfold IpRateLimiter.checkCreate at refused
  dsimp only at refused
  split at refused
  · rename_i full
    exact full
  · cases refused

end Creates

/-! ### Connections -/

section Connections
variable {x : Limiting ι} {limit : Nat}

/-- The connections counted for each address are those tracked and not released. -/
structure Counted (limit : Nat) (x : Limiting ι) : Prop where
  most : x.limiter.maxConnectionsPerIp = limit
  active : ∀ ip, x.active ip + x.released ip = x.tracked ip
  bounded : ∀ ip, x.active ip ≤ limit

theorem entry_setEntry (l : IpRateLimiter ι) (ip other : ι) (state : Option IpState) :
    (l.setEntry ip state).entry other = if other = ip then state.getD {} else l.entry other := by
  unfold IpRateLimiter.entry IpRateLimiter.setEntry
  dsimp only
  split
  · rename_i own
    rw [own, Function.update_self]
  · rename_i different
    rw [Function.update_of_ne different]

/-- What a call makes of the number of connections. -/
def moved (l : IpRateLimiter ι) (ip : ι) (now : Nat) (call : LimiterCall ι) (before : Nat) : Nat :=
  if call = .trackConnection ip ∧ (l.perform now call).1 = true then before + 1
  else if call = .releaseConnection ip then before - 1
  else before

theorem active_perform (l : IpRateLimiter ι) (now : Nat) (call : LimiterCall ι) (ip : ι) :
    ((l.perform now call).2.entry ip).activeConnections = moved l ip now call (l.entry ip).activeConnections := by
  unfold moved
  cases call with
  | checkCreate asked =>
    rw [if_neg (by simp), if_neg (by simp)]
    simp only [IpRateLimiter.perform, IpRateLimiter.checkCreate]
    split <;>
    · rw [entry_setEntry]
      split
      · rename_i own
        rw [own]
        rfl
      · rfl
  | trackConnection asked =>
    by_cases full : l.maxConnectionsPerIp ≤ (l.entry asked).activeConnections
    · have answer : l.perform now (.trackConnection asked) = (false, l.setEntry asked (some (l.entry asked))) := if_pos full
      simp only [answer]
      rw [if_neg (by simp), if_neg (by simp), entry_setEntry]
      split
      · rename_i own
        rw [own]
        rfl
      · rfl
    · have answer : l.perform now (.trackConnection asked) = (true, l.setEntry asked (some { l.entry asked with
          activeConnections := (l.entry asked).activeConnections + 1 })) := if_neg full
      simp only [answer]
      rw [entry_setEntry]
      by_cases own : ip = asked
      · rw [if_pos own, if_pos ⟨by rw [own], trivial⟩, own]
        rfl
      · have other : ¬(LimiterCall.trackConnection asked = .trackConnection ip ∧ True) :=
          fun both => own (by injection both.1 with same; exact same.symm)
        rw [if_neg own, if_neg other, if_neg (by simp)]
  | releaseConnection asked =>
    rw [if_neg (by simp)]
    simp only [IpRateLimiter.perform, IpRateLimiter.releaseConnection, LimiterCall.releaseConnection.injEq]
    cases found : l.state asked with
    | none =>
      dsimp only
      split
      · rename_i own
        have empty : (l.entry ip).activeConnections = 0 := by
          rw [← own, IpRateLimiter.entry, found]
          rfl
        rw [empty]
      · rfl
    | some entry =>
      have known : l.entry asked = entry := by
        rw [IpRateLimiter.entry, found]
        rfl
      dsimp only
      by_cases own : ip = asked
      · rw [if_pos own.symm, own, known]
        split
        · rename_i idle
          rw [entry_setEntry, if_pos rfl]
          exact idle.1.symm
        · rw [entry_setEntry, if_pos rfl]
          rfl
      · rw [if_neg (Ne.symm own)]
        split
        · rw [entry_setEntry, if_neg own]
        · rw [entry_setEntry, if_neg own]
  | cleanup =>
    rw [if_neg (by simp), if_neg (by simp)]
    simp only [IpRateLimiter.perform, IpRateLimiter.cleanup, IpRateLimiter.entry]
    cases l.state ip with
    | none => rfl
    | some entry =>
      dsimp only [Option.bind_some, Option.getD_some]
      split
      · rfl
      · rename_i stale
        have idle : entry.activeConnections = 0 := by omega
        exact idle.symm

theorem tracked_step (x : Limiting ι) (c : Nat × LimiterCall ι) (ip : ι) : (x.step c).tracked ip =
    x.tracked ip + if c.2 = .trackConnection ip ∧ (x.limiter.perform c.1 c.2).1 = true then 1 else 0 := by
  unfold tracked step
  rw [List.countP_append]
  simp [List.countP_cons]

theorem released_step (x : Limiting ι) (c : Nat × LimiterCall ι) (ip : ι) : (x.step c).released ip =
    x.released ip + if c.2 = .releaseConnection ip then 1 else 0 := by
  unfold released step
  rw [List.countP_append]
  simp [List.countP_cons]

/-- A connection is tracked only below the limit. -/
theorem room_of_tracked {l : IpRateLimiter ι} {ip : ι} (allowed : (l.trackConnection ip).1 = true) :
    (l.entry ip).activeConnections < l.maxConnectionsPerIp := by
  unfold IpRateLimiter.trackConnection at allowed
  dsimp only at allowed
  split at allowed
  · cases allowed
  · rename_i room
    exact Nat.lt_of_not_le room

theorem step_counted (counted : Counted limit x) {c : Nat × LimiterCall ι} (paired : x.Paired c) : Counted limit (x.step c) := by
  obtain ⟨-, -, most⟩ := perform_settings x.limiter c.1 c.2
  have next (ip : ι) : (x.step c).active ip = moved x.limiter ip c.1 c.2 (x.active ip) := active_perform x.limiter c.1 c.2 ip
  refine ⟨most.trans counted.most, fun ip => ?_, fun ip => ?_⟩
  · have balance := counted.active ip
    rw [next, tracked_step, released_step]
    unfold moved
    split
    · rename_i joined
      rw [if_neg (by simp [joined.1])]
      omega
    · split
      · rename_i left
        have open_ := paired ip left
        omega
      · omega
  · have bound := counted.bounded ip
    rw [next]
    unfold moved
    split
    · rename_i joined
      have allowed : (x.limiter.trackConnection ip).1 = true := by
        have answer := joined.2
        rw [joined.1] at answer
        exact answer
      have room := room_of_tracked allowed
      rw [counted.most] at room
      exact room
    · split <;> omega

end Connections

end Limiting

/-- Called at instants that never go back, the limiter allows no more creates in any window
than its limit, refuses one only when the window that ends then holds that many, and keeps
every create that is still inside the window. When only tracked connections are released it
counts those that are open, and never more than the limit. -/
theorem sliding_window_limiter (maxCreatesPerWindow maxConnectionsPerIp windowSecs : Nat)
    (calls : List (Nat × LimiterCall ι)) (ordered : (calls.map Prod.fst).Pairwise (· ≤ ·)) :
    let x := run Limiting.step (.boot maxCreatesPerWindow maxConnectionsPerIp windowSecs) calls
    (∀ ip t, (upTo (windowSecs * nanosPerSec) t (x.creates ip)).length ≤ maxCreatesPerWindow) ∧
    (∀ ip now, (∀ c ∈ calls, c.1 ≤ now) → (x.limiter.checkCreate ip now).1 = false →
      (upTo (windowSecs * nanosPerSec) now (x.creates ip)).length = maxCreatesPerWindow) ∧
    (∀ ip now, (∀ c ∈ calls, c.1 ≤ now) →
      recent (windowSecs * nanosPerSec) now (x.limiter.times ip) = upTo (windowSecs * nanosPerSec) now (x.creates ip)) ∧
    (Along Limiting.step Limiting.Paired (.boot maxCreatesPerWindow maxConnectionsPerIp windowSecs) calls →
      ∀ ip, x.active ip + x.released ip = x.tracked ip ∧ x.active ip ≤ maxConnectionsPerIp) := by
  intro x
  have sound : Limiting.Sound (windowSecs * nanosPerSec) maxCreatesPerWindow x :=
    Limiting.run_sound ordered (fun c _ a past => by cases past)
      ⟨rfl, rfl, fun _ _ _ => rfl, fun _ => sparse_nil⟩
  have past {now : Nat} (later : ∀ c ∈ calls, c.1 ≤ now) : ∀ a ∈ x.history, a.now ≤ now := by
    intro a member
    have made : (a.now, a.call) ∈ x.history.map (fun a => (a.now, a.call)) := List.mem_map_of_mem member
    rw [Limiting.history_run] at made
    exact later _ made
  have kept (ip : ι) {now : Nat} (later : ∀ c ∈ calls, c.1 ≤ now) :
      recent (windowSecs * nanosPerSec) now (x.limiter.times ip) = upTo (windowSecs * nanosPerSec) now (x.creates ip) := by
    rw [sound.kept ip now (past later), upTo_eq_recent]
    intro t member
    obtain ⟨a, recorded, made⟩ := Limiting.mem_creates member
    exact made ▸ past later a recorded
  refine ⟨fun ip t => (sound.sparse ip).upTo_le t, fun ip now later refused => ?_, fun ip now later => kept ip later,
    fun paired ip => ?_⟩
  · have full := Limiting.full_of_refused refused
    rw [sound.window, sound.most, kept ip later] at full
    exact le_antisymm ((sound.sparse ip).upTo_le now) full
  · have start : Limiting.Counted maxConnectionsPerIp
        (Limiting.boot maxCreatesPerWindow maxConnectionsPerIp windowSecs : Limiting ι) :=
      ⟨rfl, fun _ => rfl, fun _ => Nat.zero_le _⟩
    have counted := invariant (fun _ _ allowed before => Limiting.step_counted before allowed) paired start
    exact ⟨counted.active ip, counted.bounded ip⟩

namespace Sample

/-- Two creates, one refused, and one more when the first has left the window. -/
def limiterCalls : List (Nat × LimiterCall Nat) :=
  [(0, .trackConnection 7), (0, .checkCreate 7), (1, .checkCreate 7), (2, .checkCreate 7), (2, .releaseConnection 7),
    (2, .cleanup), (60 * nanosPerSec, .checkCreate 7)]

end Sample

theorem sliding_window_limiter_sample :
    (run Limiting.step (.boot 2 50 60) Sample.limiterCalls).creates 7 = [0, 1, 60 * nanosPerSec] ∧
    (upTo (60 * nanosPerSec) 5 ((run Limiting.step (.boot 2 50 60) Sample.limiterCalls).creates 7)).length ≤ 2 :=
  ⟨by decide +kernel, (sliding_window_limiter 2 50 60 Sample.limiterCalls (by decide +kernel)).1 7 5⟩

end WalletPair.Relay.Server
