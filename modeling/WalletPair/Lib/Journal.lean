import Mathlib.Data.List.Pairwise
import Mathlib.Order.Basic

/-! Storage behind an asynchronous adapter. A call hands over one write and the
continuation that waits for it; the write becomes durable later, and later still
the continuation is taken out and run. `Covered` is what write-ahead counting
needs: the value is below everything that storage can hold from now on. -/

namespace WalletPair.Lib

/-- A call of the adapter whose promise has not been consumed yet. `write` is the
snapshot of a save, or nothing for a clear. -/
structure Call (Snap Task : Type) where
  ticket : Nat
  write : Option Snap
  task : Task
  durable : Bool
  deriving DecidableEq

/-- The call whose write reached storage is durable from then on. -/
def Call.mature {Snap Task : Type} (ticket : Nat) (c : Call Snap Task) : Call Snap Task :=
  if c.ticket = ticket then { c with durable := true } else c

/-- The last snapshot that became durable, and whether a clear removed it since. -/
structure Disk (Snap : Type) where
  latest : Option Snap
  cleared : Bool
  deriving DecidableEq

structure Journal (Snap Task : Type) where
  calls : List (Call Snap Task)
  disk : Disk Snap
  deriving DecidableEq

variable {Snap Task : Type}

namespace Call
variable {ticket : Nat} {c : Call Snap Task}

@[simp] theorem mature_write : (c.mature ticket).write = c.write := by
  unfold mature
  split_ifs <;> rfl

@[simp] theorem mature_task : (c.mature ticket).task = c.task := by
  unfold mature
  split_ifs <;> rfl

@[simp] theorem mature_ticket : (c.mature ticket).ticket = c.ticket := by
  unfold mature
  split_ifs <;> rfl

theorem mature_durable : (c.mature ticket).durable = true ↔ c.ticket = ticket ∨ c.durable = true := by
  unfold mature
  split_ifs with h <;> simp [h]

end Call

namespace Disk

def fresh : Disk Snap := ⟨none, false⟩

/-- What a load returns. -/
def contents (d : Disk Snap) : Option Snap := if d.cleared then none else d.latest

def put (d : Disk Snap) : Option Snap → Disk Snap
  | some snap => ⟨some snap, false⟩
  | none => { d with cleared := true }

theorem latest_of_contents {d : Disk Snap} {snap : Snap} (loaded : d.contents = some snap) : d.latest = some snap := by
  unfold contents at loaded
  split_ifs at loaded
  exact loaded

end Disk

namespace Journal

def fresh : Journal Snap Task := ⟨[], Disk.fresh⟩

/-- A synchronous write. -/
def put (j : Journal Snap Task) (write : Option Snap) : Journal Snap Task :=
  { j with disk := j.disk.put write }

/-- An asynchronous call: nothing is durable yet. -/
def enqueue (j : Journal Snap Task) (ticket : Nat) (write : Option Snap) (task : Task) :
    Journal Snap Task :=
  { j with calls := j.calls ++ [⟨ticket, write, task, false⟩] }

def find (j : Journal Snap Task) (ticket : Nat) : Option (Call Snap Task) :=
  j.calls.find? (fun c => c.ticket == ticket)

def remove (j : Journal Snap Task) (ticket : Nat) : Journal Snap Task :=
  { j with calls := j.calls.filter (fun c => c.ticket != ticket) }

/-- The write of one call reaches storage. -/
def flush (j : Journal Snap Task) (ticket : Nat) : Journal Snap Task :=
  match j.find ticket with
  | none => j
  | some c =>
    if c.durable then j
    else ⟨j.calls.map (Call.mature ticket), j.disk.put c.write⟩

/-- Every call made before this one is durable, so flushing it keeps call order. -/
def NextToFlush (j : Journal Snap Task) (ticket : Nat) : Prop :=
  j.calls.Pairwise (fun c d => d.ticket = ticket → c.durable = true)

instance (j : Journal Snap Task) (ticket : Nat) : Decidable (j.NextToFlush ticket) :=
  inferInstanceAs (Decidable (j.calls.Pairwise _))

/-- No other call was made before this one, so settling it keeps call order. -/
def NextToSettle (j : Journal Snap Task) (ticket : Nat) : Prop := ∀ c ∈ j.calls.head?, c.ticket = ticket

instance (j : Journal Snap Task) (ticket : Nat) : Decidable (j.NextToSettle ticket) :=
  inferInstanceAs (Decidable (∀ c ∈ j.calls.head?, c.ticket = ticket))

/-- A crash loses the calls; only what became durable remains. -/
def crash (j : Journal Snap Task) : Journal Snap Task := { j with calls := [] }

theorem mem_of_find {j : Journal Snap Task} {ticket : Nat} {c : Call Snap Task}
    (h : j.find ticket = some c) : c ∈ j.calls ∧ c.ticket = ticket :=
  ⟨List.mem_of_find?_eq_some h, by simpa using List.find?_some h⟩

/-- Where the call stands in the queue, when tickets are distinct. -/
theorem split_at {j : Journal Snap Task} {ticket : Nat} {c : Call Snap Task} (found : j.find ticket = some c)
    (unique : j.calls.Pairwise (fun c d => c.ticket ≠ d.ticket)) :
    ∃ before after, j.calls = before ++ c :: after ∧ (j.remove ticket).calls = before ++ after ∧
      (∀ d ∈ before, d.ticket ≠ ticket) ∧ ∀ d ∈ after, d.ticket ≠ ticket := by
  obtain ⟨member, same⟩ := mem_of_find found
  obtain ⟨before, after, calls⟩ := List.append_of_mem member
  rw [calls] at unique
  obtain ⟨-, later, apart⟩ := List.pairwise_append.mp unique
  have first : ∀ d ∈ before, d.ticket ≠ ticket := fun d mem => same ▸ apart d mem c (by simp)
  have rest : ∀ d ∈ after, d.ticket ≠ ticket := fun d mem => same ▸ ((List.pairwise_cons.mp later).1 d mem).symm
  have kept {items : List (Call Snap Task)} (other : ∀ d ∈ items, d.ticket ≠ ticket) :
      items.filter (fun c => c.ticket != ticket) = items := by
    rw [List.filter_eq_self]
    intro d mem
    simpa using other d mem
  refine ⟨before, after, calls, ?_, first, rest⟩
  simp [remove, calls, kept first, kept rest, same]

/-- Tickets grow in the order of the calls, and lie below the next one. -/
structure Ticketed (j : Journal Snap Task) (next : Nat) : Prop where
  ascending : j.calls.Pairwise (fun c d => c.ticket < d.ticket)
  below : ∀ c ∈ j.calls, c.ticket < next

theorem flush_of_absent {j : Journal Snap Task} {ticket : Nat} (absent : j.find ticket = none) : j.flush ticket = j := by
  unfold flush
  rw [absent]

/-- A new call whose write has reached storage. -/
theorem find_flush_enqueue {j : Journal Snap Task} {ticket : Nat} (absent : j.find ticket = none) (write : Option Snap)
    (task : Task) : ((j.enqueue ticket write task).flush ticket).find ticket = some ⟨ticket, write, task, true⟩ := by
  have older : ∀ c ∈ j.calls, c.ticket ≠ ticket := by
    simpa [find, List.find?_eq_none] using absent
  have new : (j.enqueue ticket write task).find ticket = some ⟨ticket, write, task, false⟩ := by
    unfold find at absent ⊢
    simp [enqueue, List.find?_append, absent]
  have skipped : (j.calls.map (Call.mature ticket)).find? (fun c => c.ticket == ticket) = none := by
    rw [List.find?_eq_none]
    intro c member
    obtain ⟨e, old, rfl⟩ := List.mem_map.mp member
    simpa using older e old
  unfold flush
  rw [new]
  simp [find, enqueue, List.find?_append, skipped, Call.mature]

/-- A flush changes no task and no write. -/
theorem mem_flush {j : Journal Snap Task} {ticket : Nat} {c : Call Snap Task}
    (member : c ∈ (j.flush ticket).calls) :
    ∃ e ∈ j.calls, c.task = e.task ∧ c.write = e.write ∧ c.ticket = e.ticket := by
  unfold flush at member
  cases found : j.find ticket with
  | none =>
    rw [found] at member
    exact ⟨c, member, rfl, rfl, rfl⟩
  | some d =>
    simp only [found] at member
    split_ifs at member
    · exact ⟨c, member, rfl, rfl, rfl⟩
    · obtain ⟨e, old, rfl⟩ := List.mem_map.mp member
      exact ⟨e, old, Call.mature_task, Call.mature_write, Call.mature_ticket⟩

theorem tickets_flush {j : Journal Snap Task} (ticket : Nat) :
    (j.flush ticket).calls.map Call.ticket = j.calls.map Call.ticket := by
  unfold flush
  cases j.find ticket with
  | none => rfl
  | some c =>
    dsimp only
    split_ifs
    · rfl
    · simp [Function.comp_def]

namespace Ticketed
variable {j : Journal Snap Task} {next : Nat}

theorem idle (none : j.calls = []) (next : Nat) : j.Ticketed next := by
  constructor <;> simp [none]

theorem tick (h : j.Ticketed next) : j.Ticketed (next + 1) :=
  ⟨h.ascending, fun c mem => Nat.lt_succ_of_lt (h.below c mem)⟩

theorem enqueue (h : j.Ticketed next) (write : Option Snap) (task : Task) :
    (j.enqueue next write task).Ticketed (next + 1) := by
  constructor
  · refine List.pairwise_append.mpr ⟨h.ascending, List.pairwise_singleton _ _, fun c old d new => ?_⟩
    rw [List.mem_singleton.mp new]
    exact h.below c old
  · intro c mem
    rcases List.mem_append.mp mem with old | new
    · exact Nat.lt_succ_of_lt (h.below c old)
    · rw [List.mem_singleton.mp new]
      exact Nat.lt_succ_self next

theorem remove (h : j.Ticketed next) (ticket : Nat) : (j.remove ticket).Ticketed next := by
  have fewer : (j.remove ticket).calls.Sublist j.calls := List.filter_sublist
  exact ⟨h.ascending.sublist fewer, fun c mem => h.below c (fewer.subset mem)⟩

theorem flush (h : j.Ticketed next) (ticket : Nat) : (j.flush ticket).Ticketed next := by
  constructor
  · have ordered := List.pairwise_map.mpr h.ascending
    rw [← tickets_flush ticket] at ordered
    exact List.pairwise_map.mp ordered
  · intro c mem
    obtain ⟨e, old, -, -, same⟩ := mem_flush mem
    exact same ▸ h.below e old

end Ticketed

/-- After a flush storage holds what it held, or the write of a waiting call. -/
theorem latest_flush {j : Journal Snap Task} {ticket : Nat} {snap : Snap}
    (latest : (j.flush ticket).disk.latest = some snap) :
    j.disk.latest = some snap ∨ ∃ c ∈ j.calls, c.write = some snap := by
  unfold flush at latest
  cases found : j.find ticket with
  | none =>
    rw [found] at latest
    exact Or.inl latest
  | some c =>
    simp only [found] at latest
    split_ifs at latest
    · exact Or.inl latest
    · cases write : c.write with
      | none =>
        rw [write] at latest
        exact Or.inl latest
      | some new =>
        rw [write] at latest
        exact Or.inr ⟨c, (mem_of_find found).1, write.trans latest⟩

section Stored
variable {P : Snap → Prop}

/-- Every snapshot that storage holds, or can still come to hold, is as `P` says. -/
structure Every (P : Snap → Prop) (j : Journal Snap Task) : Prop where
  latest : ∀ snap, j.disk.latest = some snap → P snap
  waiting : ∀ c ∈ j.calls, ∀ snap, c.write = some snap → P snap

theorem Every.fresh : Every P (Journal.fresh : Journal Snap Task) := by
  constructor <;> simp [Journal.fresh, Disk.fresh]

theorem Every.imp {Q : Snap → Prop} {j : Journal Snap Task} (h : Every P j) (weaker : ∀ snap, P snap → Q snap) :
    Every Q j :=
  ⟨fun snap shape => weaker snap (h.latest snap shape), fun c mem snap shape => weaker snap (h.waiting c mem snap shape)⟩

theorem Every.put {j : Journal Snap Task} {write : Option Snap} (h : Every P j)
    (good : ∀ snap, write = some snap → P snap) : Every P (j.put write) := by
  refine ⟨fun snap shape => ?_, h.waiting⟩
  cases write with
  | none => exact h.latest snap shape
  | some new => exact good snap shape

theorem Every.enqueue {j : Journal Snap Task} {ticket : Nat} {write : Option Snap} {task : Task} (h : Every P j)
    (good : ∀ snap, write = some snap → P snap) : Every P (j.enqueue ticket write task) := by
  refine ⟨h.latest, fun c mem snap shape => ?_⟩
  rcases List.mem_append.mp mem with old | new
  · exact h.waiting c old snap shape
  · rw [List.mem_singleton.mp new] at shape
    exact good snap shape

theorem Every.remove {j : Journal Snap Task} (h : Every P j) (ticket : Nat) : Every P (j.remove ticket) :=
  ⟨h.latest, fun c mem => h.waiting c (List.mem_filter.mp mem).1⟩

theorem Every.flush {j : Journal Snap Task} (h : Every P j) (ticket : Nat) : Every P (j.flush ticket) := by
  constructor
  · intro snap shape
    rcases latest_flush shape with old | ⟨c, mem, write⟩
    · exact h.latest snap old
    · exact h.waiting c mem snap write
  · intro c mem snap shape
    obtain ⟨e, old, -, same, -⟩ := mem_flush mem
    exact h.waiting e old snap (same ▸ shape)

theorem Every.crash {j : Journal Snap Task} (h : Every P j) : Every P j.crash := ⟨h.latest, by simp [Journal.crash]⟩

/-- What a load returns is the latest snapshot. -/
theorem Every.contents {j : Journal Snap Task} (h : Every P j) {snap : Snap} (loaded : j.disk.contents = some snap) :
    P snap := h.latest snap (Disk.latest_of_contents loaded)

end Stored

section Marks
variable {ι : Type} [Preorder ι] (mark : Snap → ι)

/-- Above every snapshot that storage holds or can still come to hold lies no value
at or below `n`: the latest durable mark and every mark in flight exceed it. -/
structure Covered (j : Journal Snap Task) (n : ι) : Prop where
  latest : ∃ snap, j.disk.latest = some snap ∧ n < mark snap
  inFlight : ∀ c ∈ j.calls, c.durable = false → ∀ snap, c.write = some snap → n < mark snap

/-- From the ticket `floor` on saves carry growing marks and become durable in call order,
and the latest durable snapshot is at least as far as every durable one of them that still
waits to be consumed. Calls made before only have to be durable first. -/
structure InOrder (floor : Nat) (j : Journal Snap Task) (top : ι) : Prop where
  durable : j.calls.Pairwise (fun c d => floor ≤ d.ticket → d.durable = true → c.durable = true)
  ascending : j.calls.Pairwise
    (fun c d => floor ≤ c.ticket → ∀ x, c.write = some x → ∀ y, d.write = some y → mark x ≤ mark y)
  bounded : ∀ c ∈ j.calls, floor ≤ c.ticket → ∀ snap, c.write = some snap → mark snap ≤ top
  reached : ∀ c ∈ j.calls, floor ≤ c.ticket → c.durable = true → ∀ snap, c.write = some snap →
    ∃ last, j.disk.latest = some last ∧ mark snap ≤ mark last
  tickets : j.calls.Pairwise (fun c d => c.ticket < d.ticket)

variable {mark} {floor : Nat}

theorem Covered.put_save {j : Journal Snap Task} {n : ι} (h : Covered mark j n) {snap : Snap}
    (above : n < mark snap) : Covered mark (j.put (some snap)) n :=
  ⟨⟨snap, rfl, above⟩, h.inFlight⟩

theorem Covered.put_clear {j : Journal Snap Task} {n : ι} (h : Covered mark j n) :
    Covered mark (j.put none) n := ⟨h.latest, h.inFlight⟩

theorem Covered.enqueue {j : Journal Snap Task} {n : ι} (h : Covered mark j n) {ticket : Nat}
    {write : Option Snap} {task : Task} (above : ∀ snap, write = some snap → n < mark snap) :
    Covered mark (j.enqueue ticket write task) n := by
  refine ⟨h.latest, ?_⟩
  intro c member pending snap shape
  rcases List.mem_append.mp member with old | new
  · exact h.inFlight c old pending snap shape
  · rw [List.mem_singleton.mp new] at shape
    exact above snap shape

theorem Covered.remove {j : Journal Snap Task} {n : ι} (h : Covered mark j n) (ticket : Nat) :
    Covered mark (j.remove ticket) n :=
  ⟨h.latest, fun c member => h.inFlight c (List.mem_filter.mp member).1⟩

theorem Covered.crash {j : Journal Snap Task} {n : ι} (h : Covered mark j n) :
    Covered mark j.crash n := ⟨h.latest, by simp [Journal.crash]⟩

theorem Covered.flush {j : Journal Snap Task} {n : ι} (h : Covered mark j n) (ticket : Nat) :
    Covered mark (j.flush ticket) n := by
  unfold Journal.flush
  cases found : j.find ticket with
  | none => exact h
  | some c =>
    obtain ⟨member, -⟩ := mem_of_find found
    by_cases done : c.durable = true
    · simpa only [done, if_true] using h
    · have pending : c.durable = false := by simpa using done
      simp only [pending, Bool.false_eq_true, if_false]
      constructor
      · cases write : c.write with
        | none => exact h.latest
        | some snap => exact ⟨snap, rfl, h.inFlight c member pending snap write⟩
      · intro d mem notDone snap shape
        obtain ⟨e, old, rfl⟩ := List.mem_map.mp mem
        have before : e.durable = false := by
          cases was : e.durable with
          | false => rfl
          | true => simp [Call.mature_durable.mpr (Or.inr was)] at notDone
        exact h.inFlight e old before snap (by simpa using shape)

/-- Nothing was called from this ticket on. -/
theorem InOrder.opened {j : Journal Snap Task} (tickets : j.Ticketed floor) (top : ι) : InOrder mark floor j top := by
  have early {c : Call Snap Task} (mem : c ∈ j.calls) {P : Prop} (late : floor ≤ c.ticket) : P :=
    absurd (tickets.below c mem) (Nat.not_lt_of_le late)
  exact ⟨tickets.ascending.imp_of_mem fun _ mem _ late => early mem late,
    tickets.ascending.imp_of_mem fun mem _ _ late => early mem late, fun c mem late => early mem late,
    fun c mem late => early mem late, tickets.ascending⟩

theorem InOrder.crash {j : Journal Snap Task} (top : ι) : InOrder mark floor j.crash top := by
  constructor <;> simp [Journal.crash]

theorem InOrder.mono {j : Journal Snap Task} {top higher : ι} (h : InOrder mark floor j top)
    (up : top ≤ higher) : InOrder mark floor j higher :=
  { h with bounded := fun c mem late snap shape => (h.bounded c mem late snap shape).trans up }

theorem InOrder.put_clear {j : Journal Snap Task} {top : ι} (h : InOrder mark floor j top) :
    InOrder mark floor (j.put none) top :=
  ⟨h.durable, h.ascending, h.bounded, h.reached, h.tickets⟩

/-- With a synchronous adapter no call is ever waiting. -/
theorem InOrder.put_save {j : Journal Snap Task} {top : ι} (idle : j.calls = []) (snap : Snap) :
    InOrder mark floor (j.put (some snap)) top := by
  constructor <;> simp [Journal.put, idle]

theorem InOrder.enqueue {j : Journal Snap Task} {top : ι} (h : InOrder mark floor j top) {ticket : Nat}
    {write : Option Snap} {task : Task} (at_top : ∀ snap, write = some snap → mark snap ≤ top ∧ top ≤ mark snap)
    (last : ∀ c ∈ j.calls, c.ticket < ticket) :
    InOrder mark floor (j.enqueue ticket write task) top := by
  constructor
  · refine List.pairwise_append.mpr ⟨h.durable, List.pairwise_singleton _ _, ?_⟩
    intro c _ d new _ done
    rw [List.mem_singleton.mp new] at done
    cases done
  · refine List.pairwise_append.mpr ⟨h.ascending, List.pairwise_singleton _ _, ?_⟩
    intro c mem d new late x shapeX y shapeY
    rw [List.mem_singleton.mp new] at shapeY
    exact (h.bounded c mem late x shapeX).trans (at_top y shapeY).2
  · intro c mem late snap shape
    rcases List.mem_append.mp mem with old | new
    · exact h.bounded c old late snap shape
    · rw [List.mem_singleton.mp new] at shape
      exact (at_top snap shape).1
  · intro c mem late done snap shape
    rcases List.mem_append.mp mem with old | new
    · exact h.reached c old late done snap shape
    · rw [List.mem_singleton.mp new] at done
      cases done
  · refine List.pairwise_append.mpr ⟨h.tickets, List.pairwise_singleton _ _, ?_⟩
    intro c mem d new
    rw [List.mem_singleton.mp new]
    exact last c mem

theorem InOrder.remove {j : Journal Snap Task} {top : ι} (h : InOrder mark floor j top) (ticket : Nat) :
    InOrder mark floor (j.remove ticket) top := by
  have kept : (j.remove ticket).calls.Sublist j.calls := List.filter_sublist
  exact ⟨h.durable.sublist kept, h.ascending.sublist kept,
    fun c mem => h.bounded c (kept.subset mem), fun c mem => h.reached c (kept.subset mem),
    h.tickets.sublist kept⟩

/-- Two members of a list whose pairs are related stand in one order or the other. -/
private theorem related_of_mem {α : Type} {R : α → α → Prop} {items : List α} (h : items.Pairwise R)
    {a b : α} (ha : a ∈ items) (hb : b ∈ items) : a = b ∨ R a b ∨ R b a := by
  induction items with
  | nil => simp at ha
  | cons x rest ih =>
    rw [List.pairwise_cons] at h
    rcases List.mem_cons.mp ha with rfl | restA
    · rcases List.mem_cons.mp hb with rfl | restB
      · exact Or.inl rfl
      · exact Or.inr (Or.inl (h.1 b restB))
    · rcases List.mem_cons.mp hb with rfl | restB
      · exact Or.inr (Or.inr (h.1 a restA))
      · exact ih h.2 restA restB

theorem InOrder.flush {j : Journal Snap Task} {top : ι} (h : InOrder mark floor j top) {ticket : Nat}
    (next : j.NextToFlush ticket) : InOrder mark floor (j.flush ticket) top := by
  unfold Journal.flush
  cases found : j.find ticket with
  | none => exact h
  | some c =>
    obtain ⟨member, same⟩ := mem_of_find found
    by_cases done : c.durable = true
    · simpa only [done, if_true] using h
    · simp only [done]
      change InOrder mark floor ⟨j.calls.map (Call.mature ticket), j.disk.put c.write⟩ top
      refine ⟨?_, ?_, ?_, ?_, ?_⟩
      · rw [List.pairwise_map]
        refine (h.durable.and next).imp fun both late reached => ?_
        obtain ⟨order, flushed⟩ := both
        rw [Call.mature_ticket] at late
        rcases Call.mature_durable.mp reached with now | before
        · exact Call.mature_durable.mpr (Or.inr (flushed now))
        · exact Call.mature_durable.mpr (Or.inr (order late before))
      · rw [List.pairwise_map]
        simpa only [Call.mature_write, Call.mature_ticket] using h.ascending
      · intro d mem late snap write
        obtain ⟨e, old, rfl⟩ := List.mem_map.mp mem
        exact h.bounded e old (by simpa using late) snap (by simpa using write)
      · intro d mem late reached snap write
        obtain ⟨e, old, rfl⟩ := List.mem_map.mp mem
        rw [Call.mature_write] at write
        rw [Call.mature_ticket] at late
        have order := related_of_mem ((h.durable.and h.ascending).and h.tickets) old member
        cases put : c.write with
        | none =>
          -- the flushed call is a clear, so `e` was durable before
          rcases Call.mature_durable.mp reached with now | before
          · rcases order with rfl | ⟨-, earlier⟩ | ⟨-, later⟩
            · rw [put] at write
              cases write
            · exact absurd (now.trans same.symm) (Nat.ne_of_lt earlier)
            · exact absurd (same.trans now.symm) (Nat.ne_of_lt later)
          · exact h.reached e old late before snap write
        | some new =>
          refine ⟨new, rfl, ?_⟩
          rcases order with rfl | ⟨⟨-, up⟩, -⟩ | ⟨⟨back, -⟩, later⟩
          · rw [put, Option.some.injEq] at write
            exact write ▸ le_rfl
          · exact up late snap write new put
          · rcases Call.mature_durable.mp reached with now | before
            · exact absurd (same.trans now.symm) (Nat.ne_of_lt later)
            · exact absurd (back late before) done
      · rw [List.pairwise_map]
        simpa only [Call.mature_ticket] using h.tickets

/-- The write-ahead rule: once the save that announced `n` is durable, `n` is covered. -/
theorem InOrder.covered {j : Journal Snap Task} {top n : ι} (h : InOrder mark floor j top)
    {c : Call Snap Task} (member : c ∈ j.calls) (late : floor ≤ c.ticket) (done : c.durable = true) {snap : Snap}
    (write : c.write = some snap) (above : n < mark snap) : Covered mark j n := by
  obtain ⟨last, latest, reached⟩ := h.reached c member late done snap write
  refine ⟨⟨last, latest, above.trans_le reached⟩, ?_⟩
  intro d mem pending other shape
  obtain ⟨before, after, split⟩ := List.append_of_mem member
  have durable := h.durable
  have ascending := h.ascending
  rw [split] at durable ascending mem
  rcases List.mem_append.mp mem with old | rest
  · have reachedToo := (List.pairwise_append.mp durable).2.2 d old c (by simp) late done
    rw [pending] at reachedToo
    cases reachedToo
  · rcases List.mem_cons.mp rest with rfl | later
    · rw [pending] at done
      cases done
    · exact above.trans_le ((List.pairwise_cons.mp (List.pairwise_append.mp ascending).2.1).1 d later
        late snap write other shape)

end Marks

end Journal

end WalletPair.Lib
