import Mathlib.Data.List.MinMax
import Mathlib.Data.List.Nodup
import Mathlib.Data.List.Perm.Subperm

/-! A log of instants in which no window of a given width holds more than a given number.
A new instant may be added if few enough of the logged ones are recent. -/

namespace WalletPair.Lib.Window

variable {width limit now later : Nat} {times : List Nat}

/-- What of the log lies in the window that opens at `start`. -/
def within (width start : Nat) (times : List Nat) : List Nat :=
  times.filter fun t => start ≤ t ∧ t < start + width

/-- What of the log is less than a width ago. -/
def recent (width now : Nat) (times : List Nat) : List Nat :=
  times.filter fun t => now - t < width

/-- What of the log lies in the window that ends at `now`, which belongs to it. -/
def upTo (width now : Nat) (times : List Nat) : List Nat :=
  times.filter fun t => t ≤ now ∧ now < t + width

/-- No window holds more than the limit. -/
def Sparse (width limit : Nat) (times : List Nat) : Prop := ∀ start, (within width start times).length ≤ limit

theorem sparse_nil : Sparse width limit [] := fun _ => Nat.zero_le _

/-- A window that is not closed yet holds only what is recent. -/
theorem within_le_recent {start : Nat} (unclosed : now < start + width) :
    (within width start times).length ≤ (recent width now times).length := by
  apply List.Sublist.length_le
  apply List.monotone_filter_right
  intro t inside
  simp only [decide_eq_true_eq] at inside ⊢
  omega

/-- Windows that end at an instant are windows, too. -/
theorem Sparse.upTo_le (sparse : Sparse width limit times) (now : Nat) : (upTo width now times).length ≤ limit := by
  refine Nat.le_trans (List.Sublist.length_le ?_) (sparse (now + 1 - width))
  apply List.monotone_filter_right
  intro t inside
  simp only [decide_eq_true_eq] at inside ⊢
  omega

/-- The recent part of a log of past instants. -/
theorem upTo_eq_recent (past : ∀ t ∈ times, t ≤ now) : upTo width now times = recent width now times := by
  apply List.filter_congr
  intro t member
  have earlier := past t member
  apply Bool.eq_iff_iff.mpr
  simp only [decide_eq_true_eq]
  omega

theorem within_append (start : Nat) (first second : List Nat) :
    within width start (first ++ second) = within width start first ++ within width start second :=
  List.filter_append _ _

theorem Sparse.push (sparse : Sparse width limit times) (room : (recent width now times).length < limit) :
    Sparse width limit (times ++ [now]) := by
  intro start
  rw [within_append, List.length_append]
  by_cases inside : start ≤ now ∧ now < start + width
  · have single : within width start [now] = [now] := List.filter_cons_of_pos (by simpa using inside)
    have fewer : (within width start times).length ≤ (recent width now times).length := within_le_recent inside.2
    rw [single, List.length_singleton]
    omega
  · have nothing : within width start [now] = [] := List.filter_cons_of_neg (by simpa using inside)
    have before := sparse start
    rw [nothing, List.length_nil]
    omega

theorem recent_append (first second : List Nat) :
    recent width now (first ++ second) = recent width now first ++ recent width now second :=
  List.filter_append _ _

/-- What is recent later was recent before. -/
theorem recent_recent (order : now ≤ later) : recent width later (recent width now times) = recent width later times := by
  unfold recent
  rw [List.filter_filter]
  apply List.filter_congr
  intro t _
  apply Bool.eq_iff_iff.mpr
  simp only [Bool.and_eq_true, decide_eq_true_eq]
  omega

/-- Two logs with the same recent past keep it. -/
theorem recent_congr {other : List Nat} (order : now ≤ later) (same : recent width now times = recent width now other) :
    recent width later times = recent width later other := by
  calc recent width later times = recent width later (recent width now times) := (recent_recent order).symm
    _ = recent width later (recent width now other) := by rw [same]
    _ = recent width later other := recent_recent order

/-- Events that follow, each at its own delay, the instants of a sparse log: no window holds too
many of them either, if those that come within a window follow instants within one. -/
theorem Sparse.delayed {κ : Type} {log events : List (κ × Nat)} {source : κ → Nat}
    (sparse : Sparse width limit (log.map Prod.snd)) (once : (events.map Prod.fst).Nodup)
    (logged : ∀ e ∈ events, (e.1, source e.1) ∈ log)
    (close : ∀ e ∈ events, ∀ f ∈ events, e.2 < f.2 + width → f.2 < e.2 + width → source e.1 < source f.1 + width) :
    Sparse width limit (events.map Prod.snd) := by
  intro start
  -- The events of the window, and the first instant that one of them follows.
  have inside_map : ∀ (record : List (κ × Nat)) (first : Nat), (within width first (record.map Prod.snd)).length =
      (record.filter fun e => first ≤ e.2 ∧ e.2 < first + width).length := by
    intro record first
    unfold within
    rw [List.filter_map, List.length_map]
    rfl
  rw [inside_map]
  let inside := events.filter fun e => start ≤ e.2 ∧ e.2 < start + width
  have mem_inside : ∀ e ∈ inside, e ∈ events ∧ start ≤ e.2 ∧ e.2 < start + width := fun e mem => by
    simpa using List.mem_filter.mp mem
  change inside.length ≤ limit
  cases earliest : inside.argmin fun e => source e.1 with
  | none =>
    rw [List.argmin_eq_none.mp earliest]
    exact Nat.zero_le _
  | some first =>
    have mem : first ∈ inside := List.argmin_mem earliest
    have least : ∀ e ∈ inside, source first.1 ≤ source e.1 := fun e mem =>
      List.le_of_mem_argmin (f := fun e => source e.1) mem earliest
    have moved : (inside.map fun e => (e.1, source e.1)) ⊆
        log.filter fun e => source first.1 ≤ e.2 ∧ e.2 < source first.1 + width := by
      intro f mapped
      obtain ⟨e, mem', rfl⟩ := List.mem_map.mp mapped
      have own := mem_inside e mem'
      have other := mem_inside first mem
      have near := close e own.1 first other.1 (by omega) (by omega)
      have later := least e mem'
      rw [List.mem_filter]
      exact ⟨logged e own.1, by simpa using ⟨later, near⟩⟩
    have distinct : (inside.map fun e => (e.1, source e.1)).Nodup := by
      apply List.Nodup.of_map Prod.fst
      rw [List.map_map]
      exact once.sublist (List.filter_sublist.map _)
    calc inside.length
        = (inside.map fun e => (e.1, source e.1)).length := (List.length_map _).symm
      _ ≤ _ := (distinct.subperm moved).length_le
      _ = _ := (inside_map log (source first.1)).symm
      _ ≤ limit := sparse _

end WalletPair.Lib.Window
