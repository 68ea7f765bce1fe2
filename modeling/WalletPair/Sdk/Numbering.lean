import WalletPair.Lib.Ledger
import WalletPair.Sdk.Protocol

/-! The numbering of sealed frames, the same for both sides and both directions. A
sequence number is reserved for a frame that goes out, or taken from one that came in;
it is announced to storage, and used by a continuation that may run much later. The
invariant says which numbers may still be used and what a crash can bring back. -/

namespace WalletPair.Sdk
open WalletPair.Lib

/-- A session counts the frames it seals and the frames it opens. -/
inductive Direction where
  | outbound
  | inbound
  deriving DecidableEq

namespace Direction

def flip : Direction → Direction
  | .outbound => .inbound
  | .inbound => .outbound

/-- The numbers a frame can carry lie below this one. -/
def cap : Direction → Nat
  | .outbound => maxSendSeq
  | .inbound => maxSeq + 1

end Direction

/-- Where a pairing began: how much was recorded, and the next ticket. Storage may hold
snapshots of earlier pairings when a private key is given, which then tells them apart. -/
structure Origin where
  record : Nat
  ticket : Nat
  privateKey : Option Bytes

/-- The first pairing of a new object over empty storage. -/
def Origin.new : Origin := ⟨0, 0, none⟩

/-- Whether a snapshot with this private key belongs to the pairing. -/
def Origin.owns (o : Origin) (privKey : Bytes) : Prop := ∀ key ∈ o.privateKey, privKey = key

theorem Origin.new_owns (privKey : Bytes) : Origin.new.owns privKey := by
  rintro key ⟨⟩

/-- How a session's snapshots and continuations carry sequence numbers, and the ticket from
which on the calls belong to the pairing. -/
structure Scheme (Snap Task : Type) where
  mark : Snap → Nat
  restorable : Snap → Prop
  reserves : Task → Option Nat
  cap : Nat
  floor : Nat

/-- The part of a session that numbering is about: `own` and `other` say whether it has
the key of this direction and of the other one. -/
structure Books (Snap Task : Type) where
  adapter : Option Persistence
  keyPair : Bool
  own : Bool
  other : Bool
  next : Nat
  ticket : Nat
  journal : Journal Snap Task
  used : List Nat
  handed : List (Nat × Disk Snap)

variable {Snap Task : Type}

structure Numbered (σ : Scheme Snap Task) (b : Books Snap Task) : Prop where
  tickets : ∀ c ∈ b.journal.calls, c.ticket < b.ticket
  begun : σ.floor ≤ b.ticket
  idle : (∀ adapter, b.adapter = some adapter → adapter.async = false) → b.journal.calls = []
  limit : b.next ≤ σ.cap
  paired : b.own = true → b.other = true
  keyed : 0 < b.next → b.own = true
  counted : b.adapter = none → Counted (b.journal.held σ.reserves) b.next b.used
  -- without a key pair nothing can be saved, so nothing is reserved
  ledger : b.adapter ≠ none → b.keyPair = true → Ledger σ.mark σ.reserves σ.floor b.journal b.next b.used
  dormant : b.adapter ≠ none → b.keyPair = false →
    b.journal.held σ.reserves = [] ∧ ∀ n ∈ b.used, b.journal.Covered σ.mark n
  -- numbers are used in the order they were handed out
  inTurn : (b.used ++ b.journal.held σ.reserves).Pairwise (· < ·)
  below : ∀ n ∈ b.used, n < σ.cap
  latest : ∀ snap, b.journal.disk.latest = some snap → σ.restorable snap
  inFlight : ∀ c ∈ b.journal.calls, ∀ snap, c.write = some snap → σ.restorable snap
  handedUsed : ∀ h ∈ b.handed, h.1 ∈ b.used
  handedOnce : (b.handed.map Prod.fst).Nodup
  handedDurable : b.adapter ≠ none → ∀ h ∈ b.handed, ∃ snap, h.2.latest = some snap ∧ h.1 < σ.mark snap

/-- The number may be used next: by a seal, or by a delivery. -/
structure MayUse (σ : Scheme Snap Task) (b : Books Snap Task) (n : Nat) : Prop
    extends Free (b.journal.held σ.reserves) b.next b.used n where
  covered : b.adapter ≠ none → b.keyPair = true ∧ b.journal.Covered σ.mark n
  after : ∀ m ∈ b.used, m < n
  before : ∀ m ∈ b.journal.held σ.reserves, n < m

/-- The frame with this number is sealed and not yet given to the transport. -/
structure MayHand (σ : Scheme Snap Task) (b : Books Snap Task) (n : Nat) : Prop where
  used : n ∈ b.used
  fresh : ∀ h ∈ b.handed, h.1 ≠ n
  covered : b.adapter ≠ none → b.journal.Covered σ.mark n

namespace Numbered
variable {σ : Scheme Snap Task} {b : Books Snap Task} {snap : Snap} {task : Task} {adapter : Persistence}

/-- A pairing begins: nothing is used or counted yet, and no number waits. -/
theorem opened (tickets : b.journal.Ticketed b.ticket) (begins : σ.floor = b.ticket)
    (idle : (∀ adapter, b.adapter = some adapter → adapter.async = false) → b.journal.calls = [])
    (stored : b.journal.Every σ.restorable) (waits : b.journal.held σ.reserves = []) (used : b.used = [])
    (handedNone : b.handed = []) (zero : b.next = 0) (unkeyed : b.own = false) : Numbered σ b :=
  { tickets := tickets.below
    begun := begins.le
    idle := idle
    limit := by simp [zero]
    paired := fun on => absurd (unkeyed.symm.trans on) (by simp)
    keyed := fun above => absurd above (by simp [zero])
    counted := fun _ => by rw [waits, used]; exact Counted.start _
    ledger := fun _ _ => used ▸ Ledger.opened (begins ▸ tickets) waits _
    dormant := fun _ _ => ⟨waits, by simp [used]⟩
    inTurn := by simp [used, waits]
    below := by simp [used]
    latest := stored.latest
    inFlight := stored.waiting
    handedUsed := by simp [handedNone]
    handedOnce := by simp [handedNone]
    handedDurable := by simp [handedNone] }

theorem tick (h : Numbered σ b) : Numbered σ { b with ticket := b.ticket + 1 } :=
  { h with
    tickets := fun c mem => (h.tickets c mem).trans (Nat.lt_succ_self _)
    begun := h.begun.trans (Nat.le_succ _) }

theorem rekey (h : Numbered σ b) : Numbered σ { b with own := true, other := true } :=
  { h with paired := fun _ => rfl, keyed := fun _ => rfl }

/-- A waiting call is added: tickets stay apart and the adapter is asynchronous. -/
theorem tickets_enqueue (h : Numbered σ b) (write : Option Snap) (task : Task) :
    ∀ c ∈ (b.journal.enqueue b.ticket write task).calls, c.ticket < b.ticket + 1 := by
  intro c mem
  rcases List.mem_append.mp mem with old | new
  · exact (h.tickets c old).trans (Nat.lt_succ_self _)
  · rw [List.mem_singleton.mp new]
    exact Nat.lt_succ_self _

theorem restorable_enqueue (h : Numbered σ b) {write : Option Snap} (good : ∀ snap, write = some snap → σ.restorable snap)
    (ticket : Nat) (task : Task) :
    ∀ c ∈ (b.journal.enqueue ticket write task).calls, ∀ snap, c.write = some snap → σ.restorable snap := by
  intro c mem snap shape
  rcases List.mem_append.mp mem with old | new
  · exact h.inFlight c old snap shape
  · rw [List.mem_singleton.mp new] at shape
    exact good snap shape

theorem not_idle (configured : b.adapter = some adapter) (async : adapter.async = true) {P : Prop}
    (sync : ∀ other, b.adapter = some other → other.async = false) : P :=
  absurd (async.symm.trans (sync adapter configured)) (by simp)

theorem idle_of (h : Numbered σ b) (configured : b.adapter = some adapter) (sync : adapter.async = false) :
    b.journal.calls = [] := by
  refine h.idle fun other same => ?_
  rw [configured, Option.some.injEq] at same
  rwa [← same]

theorem configured_ne (configured : b.adapter = some adapter) : b.adapter ≠ none := by simp [configured]

/-- Every number used so far is below all that storage can hold. -/
theorem covered (h : Numbered σ b) (saved : b.adapter ≠ none) : ∀ n ∈ b.used, b.journal.Covered σ.mark n := by
  cases pair : b.keyPair with
  | true => exact (h.ledger saved pair).covered
  | false => exact (h.dormant saved pair).2

/-- A save or a clear whose continuation holds no number. -/
theorem enqueue {write : Option Snap} (h : Numbered σ b) (configured : b.adapter = some adapter)
    (async : adapter.async = true) (passive : σ.reserves task = none)
    (good : ∀ snap, write = some snap → σ.mark snap = b.next ∧ σ.restorable snap ∧ b.keyPair = true) :
    Numbered σ { b with ticket := b.ticket + 1, journal := b.journal.enqueue b.ticket write task } :=
  { h with
    tickets := h.tickets_enqueue write task
    begun := h.begun.trans (Nat.le_succ _)
    idle := not_idle configured async
    counted := fun none => absurd none (configured_ne configured)
    ledger := fun saved live => (h.ledger saved live).enqueue (fun snap shape => (good snap shape).1) passive h.tickets
    dormant := fun saved dead => by
      obtain ⟨none, covered⟩ := h.dormant saved dead
      refine ⟨by rw [Journal.held_enqueue, passive, none]; rfl, fun n mem => (covered n mem).enqueue ?_⟩
      exact fun snap shape => absurd (dead.symm.trans (good snap shape).2.2) (by simp)
    inTurn := by
      rw [Journal.held_enqueue, passive]
      simpa using h.inTurn
    inFlight := h.restorable_enqueue (fun snap shape => (good snap shape).2.1) _ _ }

theorem put (h : Numbered σ b) (configured : b.adapter = some adapter) (sync : adapter.async = false)
    (at_top : σ.mark snap = b.next) (good : σ.restorable snap) (live : b.keyPair = true) :
    Numbered σ { b with journal := b.journal.put (some snap) } :=
  { h with
    counted := fun none => absurd none (configured_ne configured)
    ledger := fun saved _ => (h.ledger saved live).put_save (h.idle_of configured sync) at_top
    dormant := fun _ dead => absurd (live.symm.trans dead) (by simp)
    latest := fun _ shape => Option.some.inj shape ▸ good }

theorem wipe (h : Numbered σ b) : Numbered σ { b with journal := b.journal.put none } :=
  { h with
    ledger := fun saved live => (h.ledger saved live).put_clear
    dormant := fun saved dead => ⟨(h.dormant saved dead).1, fun n mem => ((h.dormant saved dead).2 n mem).put_clear⟩ }

theorem flush {ticket : Nat} (h : Numbered σ b) (inTurn : b.journal.NextToFlush ticket) :
    Numbered σ { b with journal := b.journal.flush ticket } := by
  have calls : b.journal.calls = [] → (b.journal.flush ticket).calls = [] := by
    intro empty
    simp [Journal.flush, Journal.find, empty]
  refine { h with
    tickets := fun c mem => ?_
    idle := fun sync => calls (h.idle sync)
    counted := fun none => by rw [Journal.held_flush]; exact h.counted none
    ledger := fun saved live => (h.ledger saved live).flush inTurn
    dormant := fun saved dead => by
      rw [Journal.held_flush]
      exact ⟨(h.dormant saved dead).1, fun n mem => ((h.dormant saved dead).2 n mem).flush ticket⟩
    inTurn := by rw [Journal.held_flush]; exact h.inTurn
    latest := fun snap shape => ?_
    inFlight := fun c mem snap shape => ?_ }
  · obtain ⟨e, old, -, -, same⟩ := Journal.mem_flush mem
    rw [same]
    exact h.tickets e old
  · rcases Journal.latest_flush shape with old | ⟨c, mem, write⟩
    · exact h.latest snap old
    · exact h.inFlight c mem snap write
  · obtain ⟨e, old, -, same, -⟩ := Journal.mem_flush mem
    rw [same] at shape
    exact h.inFlight e old snap shape

theorem remove (h : Numbered σ b) (ticket : Nat) : Numbered σ { b with journal := b.journal.remove ticket } :=
  { h with
    tickets := fun c mem => h.tickets c (List.mem_filter.mp mem).1
    idle := fun sync => by simp [Journal.remove, h.idle sync]
    counted := fun none => (h.counted none).sublist (Journal.held_remove ticket)
    ledger := fun saved live => (h.ledger saved live).remove ticket
    dormant := fun saved dead =>
      ⟨List.sublist_nil.mp ((h.dormant saved dead).1 ▸ Journal.held_remove ticket),
        fun n mem => ((h.dormant saved dead).2 n mem).remove ticket⟩
    inTurn := h.inTurn.sublist ((List.Sublist.refl _).append (Journal.held_remove ticket))
    inFlight := fun c mem => h.inFlight c (List.mem_filter.mp mem).1 }

/-- The next continuation to settle may use the number it holds once its save is durable. -/
theorem mayUse_remove {ticket n : Nat} (h : Numbered σ b) {c : Call Snap Task}
    (found : b.journal.find ticket = some c) (next : b.journal.NextToSettle ticket) (durable : c.durable = true)
    (holds : σ.reserves c.task = some n) : MayUse σ { b with journal := b.journal.remove ticket } n := by
  have saved : b.adapter ≠ none := by
    intro none
    have here := (Journal.mem_of_find found).1
    rw [h.idle (by simp [none])] at here
    cases here
  have live : b.keyPair = true := by
    cases dead : b.keyPair with
    | true => rfl
    | false =>
      have here := Journal.mem_held (Journal.mem_of_find found).1 holds
      rw [(h.dormant saved dead).1] at here
      cases here
  have ready := (h.ledger saved live).ready_remove found durable holds
  have order := h.inTurn.sublist ((List.Sublist.refl _).append (Journal.held_remove_next found next holds))
  obtain ⟨-, waiting, apart⟩ := List.pairwise_append.mp order
  exact ⟨ready.toFree, fun _ => ⟨live, ready.covered⟩, fun m mem => apart m mem n (by simp),
    (List.pairwise_cons.mp waiting).1⟩

/-! ### Handing out numbers -/

/-- Without an adapter, or with a synchronous one, nothing waits. -/
theorem held_idle (idle : b.journal.calls = []) : b.journal.held σ.reserves = [] := by
  simp [Journal.held, idle]

theorem used_next (counted : Counted (b.journal.held σ.reserves) b.next b.used) {n : Nat} (above : b.next ≤ n) :
    ∀ m ∈ b.used, m < n := by
  intro m mem
  have := counted.used_lt mem
  omega

theorem counted_next {n : Nat} (h : Numbered σ b) (none : b.adapter = none) (keyed : b.own = true)
    (above : b.next ≤ n) (room : n < σ.cap) :
    Numbered σ { b with next := n + 1 } ∧ MayUse σ { b with next := n + 1 } n := by
  obtain ⟨counted, free⟩ := (h.counted none).skip above
  have waits := held_idle (σ := σ) (h.idle (by simp [none]))
  exact ⟨{ h with
    limit := room
    keyed := fun _ => keyed
    counted := fun _ => counted
    ledger := fun saved => absurd none saved }, free, fun saved => absurd none saved,
    used_next (h.counted none) above, by simp [waits]⟩

theorem reserve_put {n : Nat} (h : Numbered σ b) (configured : b.adapter = some adapter) (sync : adapter.async = false)
    (live : b.keyPair = true) (keyed : b.own = true) (above : b.next ≤ n) (room : n < σ.cap)
    (at_top : σ.mark snap = n + 1) (good : σ.restorable snap) :
    Numbered σ { b with next := n + 1, journal := b.journal.put (some snap) } ∧
      MayUse σ { b with next := n + 1, journal := b.journal.put (some snap) } n := by
  have configuredNe := configured_ne configured
  have idle := h.idle_of configured sync
  obtain ⟨ledger, ready⟩ := (h.ledger configuredNe live).reserve_put idle above at_top
  exact ⟨{ h with
    limit := room
    keyed := fun _ => keyed
    counted := fun none => absurd none configuredNe
    ledger := fun _ _ => ledger
    dormant := fun _ dead => absurd (live.symm.trans dead) (by simp)
    latest := fun _ shape => Option.some.inj shape ▸ good }, ready.toFree, fun _ => ⟨live, ready.covered⟩,
    used_next (h.ledger configuredNe live).toCounted above, by simp [held_idle idle]⟩

theorem reserve_enqueue {n : Nat} (h : Numbered σ b) (configured : b.adapter = some adapter)
    (async : adapter.async = true) (live : b.keyPair = true) (keyed : b.own = true) (above : b.next ≤ n)
    (room : n < σ.cap) (at_top : σ.mark snap = n + 1) (good : σ.restorable snap) (holds : σ.reserves task = some n) :
    Numbered σ { b with
      next := n + 1
      ticket := b.ticket + 1
      journal := b.journal.enqueue b.ticket (some snap) task } := by
  have ledger := h.ledger (configured_ne configured) live
  have last : ∀ m ∈ b.used ++ b.journal.held σ.reserves, m < n := by
    intro m mem
    have := ledger.lt m (by simpa [or_comm] using mem)
    omega
  refine { h with
    tickets := h.tickets_enqueue (some snap) task
    begun := h.begun.trans (Nat.le_succ _)
    idle := not_idle configured async
    limit := room
    keyed := fun _ => keyed
    counted := fun none => absurd none (configured_ne configured)
    ledger := fun _ _ => ledger.reserve_enqueue above at_top holds h.begun h.tickets
    dormant := fun _ dead => absurd (live.symm.trans dead) (by simp)
    inTurn := ?_
    inFlight := h.restorable_enqueue (fun _ shape => Option.some.inj shape ▸ good) _ _ }
  rw [Journal.held_enqueue, holds, Option.toList_some, ← List.append_assoc]
  exact List.pairwise_append.mpr ⟨h.inTurn, List.pairwise_singleton _ _, fun m mem k new => by
    rw [List.mem_singleton.mp new]
    exact last m mem⟩

/-- Counting up without a key pair: the save throws, and the number is never used. -/
theorem reserve_dormant {n : Nat} (h : Numbered σ b) (saved : b.adapter ≠ none) (dead : b.keyPair = false)
    (keyed : b.own = true) (room : n < σ.cap) : Numbered σ { b with next := n + 1 } :=
  { h with
    limit := room
    keyed := fun _ => keyed
    counted := fun none => absurd none saved
    ledger := fun _ live => absurd (dead.symm.trans live) (by simp) }

/-! ### Using and handing over -/

theorem usedOnce (h : Numbered σ b) : b.used.Nodup :=
  (List.pairwise_append.mp h.inTurn).1.imp fun less => less.ne

theorem use {n : Nat} (h : Numbered σ b) (may : MayUse σ b n) :
    Numbered σ { b with used := b.used ++ [n] } ∧ MayHand σ { b with used := b.used ++ [n] } n := by
  refine ⟨{ h with
    counted := fun none => (h.counted none).use may.toFree
    ledger := fun saved live => (h.ledger saved live).use ⟨may.toFree, (may.covered saved).2⟩
    dormant := fun saved dead => absurd ((may.covered saved).1.symm.trans dead) (by simp)
    inTurn := ?_
    below := fun m mem => ?_
    handedUsed := fun pair mem => List.mem_append_left _ (h.handedUsed pair mem) }, by simp, ?_, ?_⟩
  · obtain ⟨earlier, later, apart⟩ := List.pairwise_append.mp h.inTurn
    rw [List.append_assoc]
    refine List.pairwise_append.mpr ⟨earlier, List.pairwise_cons.mpr ⟨may.before, later⟩, fun m old k new => ?_⟩
    rcases List.mem_cons.mp new with rfl | waits
    · exact may.after m old
    · exact apart m old k waits
  · rcases List.mem_append.mp mem with old | new
    · exact h.below m old
    · rw [List.mem_singleton.mp new]
      exact may.lt.trans_le h.limit
  · intro pair mem same
    exact may.unused (same ▸ h.handedUsed pair mem)
  · exact fun saved => (may.covered saved).2

theorem hand {n : Nat} (h : Numbered σ b) (may : MayHand σ b n) :
    Numbered σ { b with handed := b.handed ++ [(n, b.journal.disk)] } := by
  refine { h with
    handedUsed := fun pair mem => ?_
    handedOnce := ?_
    handedDurable := fun saved pair mem => ?_ }
  · rcases List.mem_append.mp mem with old | new
    · exact h.handedUsed pair old
    · rw [List.mem_singleton.mp new]
      exact may.used
  · rw [List.map_append]
    refine List.nodup_append.mpr ⟨h.handedOnce, by simp, ?_⟩
    intro m old k new
    obtain ⟨pair, mem, rfl⟩ := List.mem_map.mp old
    have last : k = n := by simpa using new
    rw [last]
    exact may.fresh pair mem
  · rcases List.mem_append.mp mem with old | new
    · exact h.handedDurable saved pair old
    · rw [List.mem_singleton.mp new]
      exact (may.covered saved).latest

/-! ### Crashes -/

/-- The new process has restored nothing. -/
theorem crashed (h : Numbered σ b) (saved : b.adapter ≠ none) :
    Numbered σ { b with keyPair := false, own := false, other := false, next := 0, journal := b.journal.crash } :=
  { h with
    tickets := by simp [Journal.crash]
    idle := fun _ => rfl
    limit := Nat.zero_le _
    paired := fun on => absurd on (by simp)
    keyed := fun above => absurd above (by simp)
    counted := fun none => absurd none saved
    ledger := fun _ live => absurd live (by simp)
    dormant := fun saved _ => ⟨rfl, fun n mem => (h.covered saved n mem).crash⟩
    inTurn := h.inTurn.sublist ((List.Sublist.refl _).append (List.nil_sublist _))
    inFlight := by simp [Journal.crash] }

/-- The new process goes on from the latest durable snapshot, keys and counter. -/
theorem restored (h : Numbered σ b) {own other : Bool} (saved : b.adapter ≠ none)
    (latest : b.journal.disk.latest = some snap) (limit : σ.mark snap ≤ σ.cap)
    (paired : own = true → other = true) (keyed : 0 < σ.mark snap → own = true) :
    Numbered σ { b with
      keyPair := true, own := own, other := other, next := σ.mark snap, journal := b.journal.crash } :=
  { h with
    tickets := by simp [Journal.crash]
    idle := fun _ => rfl
    limit := limit
    paired := paired
    keyed := keyed
    counted := fun none => absurd none saved
    ledger := fun _ _ => .restored h.usedOnce (h.covered saved) latest
    dormant := fun _ dead => absurd dead (by simp)
    inTurn := h.inTurn.sublist ((List.Sublist.refl _).append (List.nil_sublist _))
    inFlight := by simp [Journal.crash] }

end Numbered

end WalletPair.Sdk
