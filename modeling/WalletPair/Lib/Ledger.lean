import WalletPair.Lib.Journal
import Mathlib.Data.List.Nodup
import Mathlib.Order.Nat

/-! Numbers handed out in growing order. A number may wait in the journal until the
save that announced it is durable, and is then used once. `Counted` is what one
process keeps; `Ledger` adds what must be in storage for the numbering to go on
after a crash. -/

namespace WalletPair.Lib

variable {Snap Task : Type}

/-- The numbers held by the continuations that still wait. -/
def Journal.held (reserves : Task → Option Nat) (j : Journal Snap Task) : List Nat :=
  j.calls.filterMap (fun c => reserves c.task)

/-- Every number handed out lies below `next`, and none was handed out twice. -/
structure Counted (held : List Nat) (next : Nat) (used : List Nat) : Prop where
  nodup : (held ++ used).Nodup
  lt : ∀ n ∈ held ++ used, n < next

/-- A number that was handed out, does not wait, and is not used. -/
structure Free (held : List Nat) (next : Nat) (used : List Nat) (n : Nat) : Prop where
  lt : n < next
  notHeld : n ∉ held
  unused : n ∉ used

namespace Counted
variable {held used : List Nat} {next n : Nat}

theorem start (next : Nat) : Counted [] next [] := ⟨by simp, by simp⟩

theorem used_nodup (h : Counted held next used) : used.Nodup := (List.nodup_append.mp h.nodup).2.1

theorem used_lt (h : Counted held next used) {n : Nat} (mem : n ∈ used) : n < next :=
  h.lt n (List.mem_append_right _ mem)

theorem fresh (h : Counted held next used) (above : next ≤ n) : n ∉ held ∧ n ∉ used := by
  constructor
  · intro mem
    have := h.lt n (List.mem_append_left _ mem)
    omega
  · intro mem
    have := h.used_lt mem
    omega

/-- Handing out a number that waits. -/
theorem hold (h : Counted held next used) (above : next ≤ n) : Counted (held ++ [n]) (n + 1) used := by
  obtain ⟨notHeld, unused⟩ := h.fresh above
  have order : (held ++ [n] ++ used).Perm (n :: (held ++ used)) := by
    rw [List.append_assoc]
    exact List.perm_middle
  constructor
  · rw [order.nodup_iff]
    exact List.nodup_cons.mpr ⟨by simp [notHeld, unused], h.nodup⟩
  · intro m mem
    rcases List.mem_cons.mp (order.mem_iff.mp mem) with rfl | old
    · omega
    · have := h.lt m old
      omega

/-- Handing out a number that is used at once. -/
theorem skip (h : Counted held next used) (above : next ≤ n) :
    Counted held (n + 1) used ∧ Free held (n + 1) used n := by
  obtain ⟨notHeld, unused⟩ := h.fresh above
  refine ⟨⟨h.nodup, ?_⟩, by omega, notHeld, unused⟩
  intro m mem
  have := h.lt m mem
  omega

theorem sublist {fewer : List Nat} (h : Counted held next used) (part : fewer.Sublist held) :
    Counted fewer next used := by
  have both : (fewer ++ used).Sublist (held ++ used) := part.append (List.Sublist.refl used)
  exact ⟨h.nodup.sublist both, fun n mem => h.lt n (both.subset mem)⟩

theorem use (h : Counted held next used) (free : Free held next used n) : Counted held next (used ++ [n]) := by
  have order : (held ++ (used ++ [n])).Perm (n :: (held ++ used)) := by
    rw [← List.append_assoc]
    exact List.perm_append_singleton n _
  constructor
  · rw [order.nodup_iff]
    exact List.nodup_cons.mpr ⟨by simp [free.notHeld, free.unused], h.nodup⟩
  · intro m mem
    rcases List.mem_cons.mp (order.mem_iff.mp mem) with rfl | old
    · exact free.lt
    · exact h.lt m old

end Counted

namespace Journal
variable {reserves : Task → Option Nat} {j : Journal Snap Task} {ticket n : Nat}

@[simp] theorem held_put (write : Option Snap) : (j.put write).held reserves = j.held reserves := rfl

theorem held_enqueue (write : Option Snap) (task : Task) :
    (j.enqueue ticket write task).held reserves = j.held reserves ++ (reserves task).toList := by
  simp only [held, enqueue, List.filterMap_append, List.append_cancel_left_eq]
  cases holds : reserves task <;> simp [holds]

theorem held_remove (ticket : Nat) : ((j.remove ticket).held reserves).Sublist (j.held reserves) :=
  List.filter_sublist.filterMap _

@[simp] theorem held_flush (ticket : Nat) : (j.flush ticket).held reserves = j.held reserves := by
  unfold flush
  cases j.find ticket with
  | none => rfl
  | some c =>
    by_cases done : c.durable = true
    · simp [done]
    · simp [done, held, List.filterMap_map]

theorem mem_held {c : Call Snap Task} (mem : c ∈ j.calls) (holds : reserves c.task = some n) :
    n ∈ j.held reserves := List.mem_filterMap.mpr ⟨c, mem, holds⟩

/-- A continuation taken out of the journal takes its number with it. -/
theorem not_held_remove {c : Call Snap Task} (found : j.find ticket = some c)
    (holds : reserves c.task = some n) (nodup : (j.held reserves).Nodup) :
    n ∉ (j.remove ticket).held reserves := by
  intro mem
  obtain ⟨d, member, again⟩ := List.mem_filterMap.mp mem
  obtain ⟨old, other⟩ := List.mem_filter.mp member
  obtain ⟨here, same⟩ := mem_of_find found
  have distinct : d ≠ c := by
    rintro rfl
    simp [same] at other
  have pairs := List.pairwise_filterMap.mp nodup
  have symm : Std.Symm (fun c d : Call Snap Task =>
      ∀ x, reserves c.task = some x → ∀ y, reserves d.task = some y → x ≠ y) :=
    ⟨fun _ _ differ x hx y hy => (differ y hy x hx).symm⟩
  exact pairs.forall old here distinct n again n holds rfl

/-- The call that is next to settle holds the first of the numbers that wait. -/
theorem held_remove_next {c : Call Snap Task} (found : j.find ticket = some c) (next : j.NextToSettle ticket)
    (holds : reserves c.task = some n) : (n :: (j.remove ticket).held reserves).Sublist (j.held reserves) := by
  obtain ⟨calls, disk⟩ := j
  cases calls with
  | nil => simp [find] at found
  | cons first rest =>
    have same : first.ticket = ticket := next first rfl
    obtain rfl : first = c := by simpa [find, same] using found
    have kept : ((remove ⟨first :: rest, disk⟩ ticket).held reserves).Sublist (rest.filterMap (fun c => reserves c.task)) := by
      have dropped : (remove ⟨first :: rest, disk⟩ ticket).calls = rest.filter (fun c => c.ticket != ticket) := by
        simp [remove, same]
      simp only [held, dropped]
      exact List.filter_sublist.filterMap _
    have whole : held reserves (⟨first :: rest, disk⟩ : Journal Snap Task) =
        n :: rest.filterMap (fun c => reserves c.task) := by simp [held, holds]
    rw [whole]
    exact kept.cons_cons n

end Journal

/-- The numbering survives a crash: from the ticket `floor` on saves carry growing marks, a
waiting number is below the mark of the save it waits for, and a used one is below all that
storage can hold. -/
structure Ledger (mark : Snap → Nat) (reserves : Task → Option Nat) (floor : Nat) (j : Journal Snap Task)
    (next : Nat) (used : List Nat) : Prop extends Counted (j.held reserves) next used where
  inOrder : j.InOrder mark floor next
  announced : ∀ c ∈ j.calls, ∀ n, reserves c.task = some n →
    floor ≤ c.ticket ∧ ∃ snap, c.write = some snap ∧ n < mark snap
  covered : ∀ n ∈ used, j.Covered mark n

/-- A number that may be used now. -/
structure Ready (mark : Snap → Nat) (reserves : Task → Option Nat) (j : Journal Snap Task)
    (next : Nat) (used : List Nat) (n : Nat) : Prop extends Free (j.held reserves) next used n where
  covered : j.Covered mark n

namespace Ledger
variable {mark : Snap → Nat} {reserves : Task → Option Nat} {floor : Nat} {j : Journal Snap Task} {next : Nat}
variable {used : List Nat} {snap : Snap} {task : Task} {ticket n : Nat}

/-- From this ticket on nothing was called, and no number waits. -/
theorem opened (tickets : j.Ticketed floor) (waits : j.held reserves = []) (next : Nat) :
    Ledger mark reserves floor j next [] := by
  refine ⟨waits ▸ Counted.start next, Journal.InOrder.opened tickets next, fun c mem n holds => ?_, by simp⟩
  have here := Journal.mem_held mem holds
  rw [waits] at here
  cases here

theorem put_clear (h : Ledger mark reserves floor j next used) : Ledger mark reserves floor (j.put none) next used :=
  ⟨h.toCounted, h.inOrder.put_clear, h.announced, fun n mem => (h.covered n mem).put_clear⟩

/-- A save that announces nothing, with a synchronous adapter. -/
theorem put_save (h : Ledger mark reserves floor j next used) (idle : j.calls = []) (at_top : mark snap = next) :
    Ledger mark reserves floor (j.put (some snap)) next used := by
  refine ⟨h.toCounted, Journal.InOrder.put_save idle snap, h.announced, ?_⟩
  intro n mem
  exact (h.covered n mem).put_save (by rw [at_top]; exact h.used_lt mem)

/-- A save or a clear whose continuation holds no number, with an asynchronous adapter. -/
theorem enqueue {write : Option Snap} (h : Ledger mark reserves floor j next used)
    (at_top : ∀ snap, write = some snap → mark snap = next) (passive : reserves task = none)
    (last : ∀ c ∈ j.calls, c.ticket < ticket) :
    Ledger mark reserves floor (j.enqueue ticket write task) next used := by
  refine ⟨?_, h.inOrder.enqueue ?_ last, ?_, ?_⟩
  · rw [Journal.held_enqueue, passive]
    simpa using h.toCounted
  · intro snap shape
    rw [at_top snap shape]
    exact ⟨le_rfl, le_rfl⟩
  · intro c mem n holds
    rcases List.mem_append.mp mem with old | new
    · exact h.announced c old n holds
    · rw [List.mem_singleton.mp new] at holds
      exact absurd holds (by simp [passive])
  · intro n mem
    refine (h.covered n mem).enqueue ?_
    intro snap shape
    rw [at_top snap shape]
    exact h.used_lt mem

/-- Handing out a number and saving the new mark, with a synchronous adapter. -/
theorem reserve_put (h : Ledger mark reserves floor j next used) (idle : j.calls = []) (above : next ≤ n)
    (at_top : mark snap = n + 1) :
    Ledger mark reserves floor (j.put (some snap)) (n + 1) used ∧
      Ready mark reserves (j.put (some snap)) (n + 1) used n := by
  obtain ⟨counted, free⟩ := h.toCounted.skip above
  have inFlight : ∀ c ∈ (j.put (some snap)).calls, c.durable = false → ∀ other, c.write = some other →
      n < mark other := by simp [Journal.put, idle]
  refine ⟨⟨counted, Journal.InOrder.put_save idle snap, h.announced, ?_⟩, free, ?_⟩
  · intro m mem
    have below := h.used_lt mem
    exact (h.covered m mem).put_save (by omega)
  · exact ⟨⟨snap, rfl, by omega⟩, inFlight⟩

/-- Handing out a number whose continuation waits for the save. -/
theorem reserve_enqueue (h : Ledger mark reserves floor j next used) (above : next ≤ n) (at_top : mark snap = n + 1)
    (holds : reserves task = some n) (late : floor ≤ ticket) (last : ∀ c ∈ j.calls, c.ticket < ticket) :
    Ledger mark reserves floor (j.enqueue ticket (some snap) task) (n + 1) used := by
  refine ⟨?_, (h.inOrder.mono (by omega)).enqueue ?_ last, ?_, ?_⟩
  · rw [Journal.held_enqueue, holds]
    exact h.toCounted.hold above
  · intro other shape
    rw [← Option.some.inj shape, at_top]
    exact ⟨le_rfl, le_rfl⟩
  · intro c mem m holdsM
    rcases List.mem_append.mp mem with old | new
    · exact h.announced c old m holdsM
    · rw [List.mem_singleton.mp new] at holdsM ⊢
      rw [holds, Option.some.injEq] at holdsM
      exact ⟨late, snap, rfl, by omega⟩
  · intro m mem
    refine (h.covered m mem).enqueue ?_
    intro other shape
    have below := h.used_lt mem
    rw [← Option.some.inj shape]
    omega

theorem remove (h : Ledger mark reserves floor j next used) (ticket : Nat) :
    Ledger mark reserves floor (j.remove ticket) next used :=
  ⟨h.toCounted.sublist (Journal.held_remove ticket), h.inOrder.remove ticket,
    fun c mem => h.announced c (List.mem_filter.mp mem).1, fun n mem => (h.covered n mem).remove ticket⟩

/-- A continuation whose save is durable may use the number it held. -/
theorem ready_remove (h : Ledger mark reserves floor j next used) {c : Call Snap Task}
    (found : j.find ticket = some c) (durable : c.durable = true) (holds : reserves c.task = some n) :
    Ready mark reserves (j.remove ticket) next used n := by
  obtain ⟨member, -⟩ := Journal.mem_of_find found
  have here := Journal.mem_held member holds
  obtain ⟨late, snap, write, above⟩ := h.announced c member n holds
  obtain ⟨heldNodup, -, apart⟩ := List.nodup_append.mp h.nodup
  refine ⟨⟨h.lt n (List.mem_append_left _ here), Journal.not_held_remove found holds heldNodup, ?_⟩, ?_⟩
  · intro mem
    exact apart n here n mem rfl
  · exact (h.inOrder.covered member late durable write above).remove ticket

theorem use (h : Ledger mark reserves floor j next used) (ready : Ready mark reserves j next used n) :
    Ledger mark reserves floor j next (used ++ [n]) := by
  refine ⟨h.toCounted.use ready.toFree, h.inOrder, h.announced, ?_⟩
  intro m mem
  rcases List.mem_append.mp mem with old | new
  · exact h.covered m old
  · rw [List.mem_singleton.mp new]
    exact ready.covered

theorem flush (h : Ledger mark reserves floor j next used) (inTurn : j.NextToFlush ticket) :
    Ledger mark reserves floor (j.flush ticket) next used := by
  refine ⟨?_, h.inOrder.flush inTurn, ?_, fun n mem => (h.covered n mem).flush ticket⟩
  · rw [Journal.held_flush]
    exact h.toCounted
  · intro c mem n holds
    obtain ⟨e, old, task, write, ticket⟩ := Journal.mem_flush mem
    rw [task] at holds
    rw [write, ticket]
    exact h.announced e old n holds

/-- After a crash the numbering goes on from the latest durable snapshot. -/
theorem restored (nodup : used.Nodup) (covered : ∀ n ∈ used, j.Covered mark n)
    (latest : j.disk.latest = some snap) : Ledger mark reserves floor j.crash (mark snap) used := by
  refine ⟨⟨by simpa [Journal.held, Journal.crash] using nodup, ?_⟩, Journal.InOrder.crash _,
    by simp [Journal.crash], fun n mem => (covered n mem).crash⟩
  intro n mem
  have mem : n ∈ used := by simpa [Journal.held, Journal.crash] using mem
  obtain ⟨last, shape, below⟩ := (covered n mem).latest
  rw [latest, Option.some.injEq] at shape
  rw [shape]
  exact below

end Ledger

end WalletPair.Lib
