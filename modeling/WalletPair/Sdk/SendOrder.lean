import WalletPair.Lib.Turns
import WalletPair.Sdk.DApp.Sending
import WalletPair.Sdk.DApp.Replay
import WalletPair.Sdk.Wallet.Sending
import WalletPair.Sdk.Wallet.Replay

/-! The order in which sealed frames reach the transport. Each frame is sealed and sent by
the continuation of its own save, so frames go out in the order the saves settle; they
ascend when the save of the least waiting number is always the next one to settle. -/

namespace WalletPair.Sdk
open WalletPair.Lib

/-- Saves through this adapter settle later. -/
def Asynchronous (adapter : Option Persistence) : Prop := ∃ p, adapter = some p ∧ p.async = true

/-- The books of a session with asynchronous storage whose frames go out in order. -/
structure Orderly {Snap Task : Type} (reserves : Task → Option Nat) (b : Books Snap Task) : Prop where
  later : Asynchronous b.adapter
  ordered : Ordered b.next (b.journal.held reserves) b.used (b.handed.map Prod.fst)

namespace Orderly
variable {Snap Task : Type} {reserves : Task → Option Nat} {b : Books Snap Task}

theorem enqueue (h : Orderly reserves b) {write : Option Snap} {task : Task} (passive : reserves task = none) :
    Orderly reserves { b with ticket := b.ticket + 1, journal := b.journal.enqueue b.ticket write task } := by
  refine ⟨h.later, ?_⟩
  have same : (b.journal.enqueue b.ticket write task).held reserves = b.journal.held reserves := by
    rw [Journal.held_enqueue, passive]
    exact List.append_nil _
  exact same.symm ▸ h.ordered

theorem reserve (h : Orderly reserves b) {write : Option Snap} {task : Task} (holds : reserves task = some b.next) :
    Orderly reserves { b with
      next := b.next + 1, ticket := b.ticket + 1, journal := b.journal.enqueue b.ticket write task } := by
  refine ⟨h.later, ?_⟩
  have held : (b.journal.enqueue b.ticket write task).held reserves = b.journal.held reserves ++ [b.next] := by
    rw [Journal.held_enqueue, holds]
    rfl
  exact held.symm ▸ h.ordered.hold

theorem remove (h : Orderly reserves b) (ticket : Nat) :
    Orderly reserves { b with journal := b.journal.remove ticket } :=
  ⟨h.later, h.ordered.sublist (Journal.held_remove ticket)⟩

theorem flush (h : Orderly reserves b) (ticket : Nat) :
    Orderly reserves { b with journal := b.journal.flush ticket } := by
  refine ⟨h.later, ?_⟩
  have same : (b.journal.flush ticket).held reserves = b.journal.held reserves := Journal.held_flush ticket
  exact same.symm ▸ h.ordered

theorem use (h : Orderly reserves b) {n : Nat} (turn : Turn b.next (b.journal.held reserves) b.used n) :
    Orderly reserves { b with used := b.used ++ [n] } ∧ Last (b.used ++ [n]) (b.handed.map Prod.fst) n :=
  ⟨⟨h.later, (h.ordered.use turn).1⟩, (h.ordered.use turn).2⟩

theorem hand (h : Orderly reserves b) {n : Nat} (disk : Disk Snap) (last : Last b.used (b.handed.map Prod.fst) n) :
    Orderly reserves { b with handed := b.handed ++ [(n, disk)] } := by
  refine ⟨h.later, ?_⟩
  have passed : (b.handed ++ [(n, disk)]).map Prod.fst = b.handed.map Prod.fst ++ [n] := by simp
  exact passed.symm ▸ h.ordered.pass last

end Orderly

/-- The call holds the least of the numbers that wait, or none. -/
def LeastFirst {Snap Task : Type} (reserves : Task → Option Nat) (j : Journal Snap Task) (ticket : Nat) : Prop :=
  ∀ call ∈ j.find ticket, ∀ n ∈ reserves call.task, ∀ m ∈ j.held reserves, n ≤ m

instance {Snap Task : Type} (reserves : Task → Option Nat) (j : Journal Snap Task) (ticket : Nat) :
    Decidable (LeastFirst reserves j ticket) :=
  inferInstanceAs (Decidable (∀ call ∈ j.find ticket, ∀ n ∈ reserves call.task, ∀ m ∈ j.held reserves, n ≤ m))

/-! ### The dApp -/

namespace DApp
open WalletPair.Lib.Program

/-- The frames handed over since the record had this length went out in order. -/
structure Session.Orderly (since : Nat) (s : Session) : Prop extends Sdk.Orderly Task.reserves (s.books .outbound since) where
  began : since ≤ s.trace.length

variable {since : Nat}

theorem orderly_of_move {s t : Session} {k : Kind} (other : k ≠ .sending) (move : Move s k t) (h : s.Orderly since) :
    t.Orderly since := by
  refine ⟨?_, h.began.trans move.length_le⟩
  cases move with
  | note o =>
    have other : o.kind ≠ counting .outbound := other
    rw [books_note h.began other]
    exact h.toOrderly
  | save task snapshot adapter configured async current =>
    have passive : task.number .outbound = none := Task.number_eq_none other
    exact h.enqueue passive
  | clear adapter configured async =>
    have passive : Task.reserves .cleared = none := rfl
    exact h.enqueue passive
  | count => exact absurd rfl other
  | reserve => exact absurd rfl other
  | _ => exact ⟨h.later, h.ordered⟩

/-- The reserved number waits for its save. -/
theorem persistSnapshot_orderly {s : Session} {task : Task} (h : s.Orderly since) (holds : task.reserves = some s.sendSeq) :
    Triple (fun t => t = { s with sendSeq := s.sendSeq + 1 }) (persistSnapshot task)
      (fun waits t => t.Orderly since ∧ waits = true) (Session.Orderly since) := by
  refine .at_state ?_
  obtain ⟨p, saved, later⟩ := h.later
  rcases persistSnapshot_cases task { s with sendSeq := s.sendSeq + 1 } with
    ⟨none, -⟩ | ⟨adapter, -, -, run⟩ | ⟨adapter, snapshot, -, -, -, run⟩ | ⟨adapter, snapshot, configured, sync, -, -⟩
  · cases saved.symm.trans none
  · rw [run]
    exact ⟨⟨h.later, h.ordered.raise⟩, h.began⟩
  · rw [run]
    exact ⟨⟨h.reserve holds, h.began⟩, rfl⟩
  · cases saved.symm.trans configured
    cases later.symm.trans sync

theorem orderly_rules (C : Crypto) (since : Nat) : SendRules C (Session.Orderly since) (fun _ _ => True) (fun _ _ => True)
    (fun s _ n => Turn s.sendSeq (s.journal.held Task.reserves) (s.used .outbound since) n)
    (fun s frame => Last (s.used .outbound since) ((s.handed .outbound since).map Prod.fst) frame.seq)
    (fun s ticket => LeastFirst Task.reserves s.journal ticket) where
  other := orderly_of_move
  counts := fun h => ⟨⟨h.toOrderly, h.began⟩, trivial⟩
  later := fun _ _ => trivial
  pends := fun _ _ _ => trivial
  reserves := fun h _ _ asks _ => (persistSnapshot_orderly h (Task.reserves_of_asking asks)).mono (fun _ same => same)
    (fun waits _ held => ⟨held.1, fun now => by simp [held.2] at now⟩) (fun _ held => held)
  seals := fun {s a frame} h turn _ _ => by
    obtain ⟨kept, last⟩ := h.use turn
    rw [← books_sealing h.began] at kept
    refine ⟨⟨kept, h.began.trans (by simp)⟩, ?_, trivial⟩
    have used := congrArg Books.used (books_sealing h.began frame)
    have handed := congrArg Books.handed (books_sealing h.began frame)
    dsimp only [Session.books] at used handed
    rw [used, handed]
    exact last
  registers := fun _ h last _ => ⟨⟨h.toOrderly, h.began⟩, last⟩
  hands := fun {s message frame} h last => by
    have handed := h.hand (s.books .outbound since).journal.disk last
    rw [← books_handing h.began] at handed
    exact ⟨handed, h.began.trans (by simp)⟩
  removes := fun ticket h => ⟨h.remove ticket, h.began⟩
  resumes := fun h least found _ asks => by
    have holds := Task.reserves_of_asking asks
    exact h.ordered.turn_remove found holds (least _ found _ holds)

/-- A save that resolves holds the least of the numbers that wait. -/
def SettlesInTurn (s : Session) (l : Inputs × Label) : Prop :=
  match l.2 with
  | .settle ticket ok => ok = true → LeastFirst Task.reserves s.journal ticket
  | _ => True

instance (s : Session) (l : Inputs × Label) : Decidable (SettlesInTurn s l) := by
  obtain ⟨inputs, label⟩ := l
  unfold SettlesInTurn
  apply @Label.casesOn _ label <;> intros <;> infer_instance

variable (C : Crypto)

theorem step_orderly {s : Session} {l : Inputs × Label} (same : l.2.sameObject = true) (inTurn : SettlesInTurn s l)
    (h : s.Orderly since) : (step C s l).Orderly since := by
  obtain ⟨inputs, label⟩ := l
  have start : Session.Orderly since { s with inputs := inputs } := ⟨h.toOrderly, h.began⟩
  by_cases moving : label.moving = true
  · exact (orderly_rules C since).act label moving _ start
  · cases label with
    | createPairing privateKey channelId deferTransport => cases same
    | restore snapshot => cases same
    | crash => cases same
    | destroy =>
      have closed : Keeps (Moves fun _ => False) (close "normal") := close_moves _
      have destroyed : Keeps (Preserve (Session.Orderly since)) destroy :=
        .bind ((orderly_rules C since).kept nofun closed) fun _ => .modify fun _ held => ⟨⟨held.later, held.ordered⟩, held.began⟩
      exact destroyed _ start
    | flush ticket => exact ⟨h.flush ticket, h.began⟩
    | settle ticket ok => exact ((orderly_rules C since).settleCall ticket ok).final ⟨start, inTurn⟩
    | _ => simp [Label.moving] at moving

theorem run_orderly {s : Session} (later : Asynchronous s.options.persistence) (waits : s.journal.held Task.reserves = [])
    (inputs : Inputs) {start : Label} (starts : start.starts = true) {labels : List (Inputs × Label)}
    (inTurn : Run.Along (step C) (fun s l => l.2.sameObject = true ∧ SettlesInTurn s l) (step C s (inputs, start)) labels) :
    (Run.run (step C) (step C s (inputs, start)) labels).Orderly s.trace.length := by
  refine Run.invariant (fun _ _ ok h => step_orderly C ok.1 ok.2 h) inTurn ?_
  have untouched := starts_untouched C .outbound waits inputs starts
  have saved : Asynchronous (step C s (inputs, start)).options.persistence := by
    rw [step_options]
    exact later
  refine ⟨⟨saved, ?_⟩, untouched.began⟩
  change Ordered (step C s (inputs, start)).sendSeq ((step C s (inputs, start)).journal.held (Task.number · .outbound))
    ((step C s (inputs, start)).used .outbound s.trace.length)
    (((step C s (inputs, start)).handed .outbound s.trace.length).map Prod.fst)
  rw [untouched.waits, untouched.used, untouched.handed]
  exact Ordered.start _

end DApp

/-! ### The wallet -/

namespace Wallet
open WalletPair.Lib.Program

/-- The frames handed over since the record had this length went out in order. -/
structure Session.Orderly (since : Nat) (s : Session) : Prop extends Sdk.Orderly Task.reserves (s.books .outbound since) where
  began : since ≤ s.trace.length

variable {since : Nat}

theorem orderly_of_move {s t : Session} {k : Kind} (other : k ≠ .sending) (move : Move s k t) (h : s.Orderly since) :
    t.Orderly since := by
  refine ⟨?_, h.began.trans move.length_le⟩
  cases move with
  | note o =>
    have other : o.kind ≠ counting .outbound := other
    rw [books_note h.began other]
    exact h.toOrderly
  | save task snapshot adapter configured async current =>
    have passive : task.number .outbound = none := Task.number_eq_none other
    exact h.enqueue passive
  | clear adapter configured async =>
    have passive : Task.reserves .cleared = none := rfl
    exact h.enqueue passive
  | reserve => exact absurd rfl other
  | _ => exact ⟨h.later, h.ordered⟩

/-- The reserved number waits for its save. -/
theorem persistSnapshot_orderly {s : Session} {task : Task} (h : s.Orderly since) (holds : task.reserves = some s.sendSeq) :
    Triple (fun t => t = { s with sendSeq := s.sendSeq + 1 }) (persistSnapshot task)
      (fun waits t => t.Orderly since ∧ waits = true) (Session.Orderly since) := by
  refine .at_state ?_
  obtain ⟨p, saved, later⟩ := h.later
  rcases persistSnapshot_cases task { s with sendSeq := s.sendSeq + 1 } with
    ⟨none, -⟩ | ⟨adapter, -, -, run⟩ | ⟨adapter, snapshot, -, -, -, run⟩ | ⟨adapter, snapshot, configured, sync, -, -⟩
  · cases saved.symm.trans none
  · rw [run]
    exact ⟨⟨h.later, h.ordered.raise⟩, h.began⟩
  · rw [run]
    exact ⟨⟨h.reserve holds, h.began⟩, rfl⟩
  · cases saved.symm.trans configured
    cases later.symm.trans sync

theorem orderly_rules (since : Nat) : SendRules (Session.Orderly since)
    (fun s n => Turn s.sendSeq (s.journal.held Task.reserves) (s.used .outbound since) n)
    (fun s n => Last (s.used .outbound since) ((s.handed .outbound since).map Prod.fst) n)
    (fun s ticket => LeastFirst Task.reserves s.journal ticket) where
  other := orderly_of_move
  counts := fun h => ⟨h.toOrderly, h.began⟩
  countsUse := fun turn => turn
  reserves := fun h _ _ holds => (persistSnapshot_orderly h holds).mono (fun _ same => same)
    (fun waits _ held => ⟨held.1, fun now => by simp [held.2] at now⟩) (fun _ held => held)
  seals := fun {s frame} h turn _ => by
    obtain ⟨kept, last⟩ := h.use turn
    rw [← books_sealing h.began] at kept
    refine ⟨⟨kept, h.began.trans (by simp)⟩, ?_⟩
    have used := congrArg Books.used (books_sealing h.began frame)
    have handed := congrArg Books.handed (books_sealing h.began frame)
    dsimp only [Session.books] at used handed
    rw [used, handed]
    exact last
  hands := fun {s message frame} h last => by
    have handed := h.hand (s.books .outbound since).journal.disk last
    rw [← books_handing h.began] at handed
    exact ⟨handed, h.began.trans (by simp)⟩
  removes := fun ticket h => ⟨h.remove ticket, h.began⟩
  resumes := fun h least found _ holds => h.ordered.turn_remove found holds (least _ found _ holds)

/-- A save that resolves holds the least of the numbers that wait. -/
def SettlesInTurn (s : Session) (l : Inputs × Label) : Prop :=
  match l.2 with
  | .settle ticket ok => ok = true → LeastFirst Task.reserves s.journal ticket
  | _ => True

instance (s : Session) (l : Inputs × Label) : Decidable (SettlesInTurn s l) := by
  obtain ⟨inputs, label⟩ := l
  unfold SettlesInTurn
  apply @Label.casesOn _ label <;> intros <;> infer_instance

variable (C : Crypto)

theorem step_orderly {s : Session} {l : Inputs × Label} (same : l.2.sameObject = true) (inTurn : SettlesInTurn s l)
    (h : s.Orderly since) : (step C s l).Orderly since := by
  obtain ⟨inputs, label⟩ := l
  have start : Session.Orderly since { s with inputs := inputs } := ⟨h.toOrderly, h.began⟩
  by_cases moving : label.moving = true
  · exact (orderly_rules since).act C label moving _ start
  · cases label with
    | prepareJoin parsed privateKey => cases same
    | restore snapshot => cases same
    | crash => cases same
    | destroy =>
      have closed : Keeps (Moves fun _ => False) (close "normal") := close_moves _
      have destroyed : Keeps (Preserve (Session.Orderly since)) destroy :=
        .bind ((orderly_rules since).kept nofun closed) fun _ => .modify fun _ held => ⟨⟨held.later, held.ordered⟩, held.began⟩
      exact destroyed _ start
    | flush ticket => exact ⟨h.flush ticket, h.began⟩
    | settle ticket ok => exact ((orderly_rules since).settleCall C ticket ok).final ⟨start, inTurn⟩
    | _ => simp [Label.moving] at moving

theorem run_orderly {s : Session} (later : Asynchronous s.options.persistence) (waits : s.journal.held Task.reserves = [])
    (inputs : Inputs) {start : Label} (starts : start.starts = true) {labels : List (Inputs × Label)}
    (inTurn : Run.Along (step C) (fun s l => l.2.sameObject = true ∧ SettlesInTurn s l) (step C s (inputs, start)) labels) :
    (Run.run (step C) (step C s (inputs, start)) labels).Orderly s.trace.length := by
  refine Run.invariant (fun _ _ ok h => step_orderly C ok.1 ok.2 h) inTurn ?_
  have untouched := starts_untouched C .outbound waits inputs starts
  have saved : Asynchronous (step C s (inputs, start)).options.persistence := by
    rw [step_options]
    exact later
  refine ⟨⟨saved, ?_⟩, untouched.began⟩
  change Ordered (step C s (inputs, start)).sendSeq ((step C s (inputs, start)).journal.held (Task.number · .outbound))
    ((step C s (inputs, start)).used .outbound s.trace.length)
    (((step C s (inputs, start)).handed .outbound s.trace.length).map Prod.fst)
  rw [untouched.waits, untouched.used, untouched.handed]
  exact Ordered.start _

end Wallet

/-! ### Both sides -/

/-- One object, whatever it was used for before, inside one pairing that is taken up while no
reserved number waits, with asynchronous saves that become durable and settle in any order: as
long as each save that resolves holds the least of the waiting numbers, the sealed frames are
handed over in ascending order, and a receiver that only goes forward takes all of them. -/
theorem sealed_frames_in_order (C : Crypto) :
    (∀ (options : DApp.Options) (history : List (Inputs × DApp.Label)) (inputs : Inputs) (start : DApp.Label)
      (labels : List (Inputs × DApp.Label)) (sent : List Nat), Asynchronous options.persistence → start.starts = true →
      let before := Run.run (DApp.step C) (.new options) history
      before.journal.held DApp.Task.reserves = [] →
      Run.Along (DApp.step C) (fun s l => l.2.sameObject = true ∧ DApp.SettlesInTurn s l)
        (DApp.step C before (inputs, start)) labels →
      sent = ((Run.run (DApp.step C) (DApp.step C before (inputs, start)) labels).handedFrames before.trace.length).map
        (fun h => h.1.seq) →
      sent.Pairwise (· < ·) ∧ takeAbove (-1) sent = sent) ∧
    (∀ (options : Wallet.Options) (history : List (Inputs × Wallet.Label)) (inputs : Inputs) (start : Wallet.Label)
      (labels : List (Inputs × Wallet.Label)) (sent : List Nat), Asynchronous options.persistence → start.starts = true →
      let before := Run.run (Wallet.step C) (.new options) history
      before.journal.held Wallet.Task.reserves = [] →
      Run.Along (Wallet.step C) (fun s l => l.2.sameObject = true ∧ Wallet.SettlesInTurn s l)
        (Wallet.step C before (inputs, start)) labels →
      sent = ((Run.run (Wallet.step C) (Wallet.step C before (inputs, start)) labels).handedFrames before.trace.length).map
        (fun h => h.1.seq) →
      sent.Pairwise (· < ·) ∧ takeAbove (-1) sent = sent) := by
  have taken {sent : List Nat} (ascending : sent.Pairwise (· < ·)) :
      sent.Pairwise (· < ·) ∧ takeAbove (-1) sent = sent :=
    ⟨ascending, takeAbove_ascending ascending fun n _ => by omega⟩
  constructor
  · intro options history inputs start labels sent later starts before waits inTurn same
    have configured : Asynchronous before.options.persistence := by
      rw [DApp.run_options]
      exact later
    have ascending := (DApp.run_orderly C configured waits inputs starts inTurn).ordered.passed_ascending
    subst same
    apply taken
    simpa [DApp.Session.books, DApp.Session.handed, Function.comp_def] using ascending
  · intro options history inputs start labels sent later starts before waits inTurn same
    have configured : Asynchronous before.options.persistence := by
      rw [Wallet.run_options]
      exact later
    have ascending := (Wallet.run_orderly C configured waits inputs starts inTurn).ordered.passed_ascending
    subst same
    apply taken
    simpa [Wallet.Session.books, Wallet.Session.handed, Function.comp_def] using ascending

/-! ### Two frames whose saves settle in either order -/

namespace Sample

/-- A paired dApp makes two requests; then their saves resolve. -/
def twoRequests (first second : Nat) : List (Inputs × DApp.Label) :=
  DApp.Sample.pairing ++ (calmly [.request "m" none, .request "m" none, .flush 4, .flush 6, .settle first true,
    .settle second true] : List (Inputs × DApp.Label))

/-- A paired wallet pushes two events; then their saves resolve. -/
def twoEvents (first second : Nat) : List (Inputs × Wallet.Label) :=
  Wallet.Sample.pairing ++ (calmly [.pushEvent "e" none, .pushEvent "e" none, .flush 3, .flush 4, .settle first true,
    .settle second true] : List (Inputs × Wallet.Label))

def dappOpened : DApp.Session :=
  DApp.step .transparent (.new DApp.Sample.options) ({}, .createPairing dappKey "ab" false)

def walletOpened : Wallet.Session :=
  Wallet.step .transparent (.new (Wallet.Sample.options true)) ({}, .prepareJoin pairing walletKey)

/-- The numbers of the two requests in the order they were sent. -/
def requestsSent (first second : Nat) : List Nat :=
  (Run.run (DApp.step .transparent) dappOpened (twoRequests first second)).handedFrames.map (fun h => h.1.seq)

def eventsSent (first second : Nat) : List Nat :=
  (Run.run (Wallet.step .transparent) walletOpened (twoEvents first second)).handedFrames.map (fun h => h.1.seq)

end Sample

namespace Sample

/-- A wallet pushes an event in its first pairing. -/
def pushedBefore : List (Inputs × Wallet.Label) :=
  ({}, .prepareJoin pairing walletKey) :: Wallet.Sample.pairing ++
    (calmly [.pushEvent "e" none, .flush 3, .settle 3 true] : List (Inputs × Wallet.Label))

def repeatingWallet : Wallet.Session := Run.run (Wallet.step .transparent) (.new (Wallet.Sample.options true)) pushedBefore

/-- It pushes two events in its second pairing. -/
def pushedAgain : List (Inputs × Wallet.Label) :=
  ({}, .confirmJoin) :: ({ nonce := List.replicate 12 0 }, .connect 4 true) ::
    (calmly [.flush 5, .settle 5 true, .message (ready dappKey), .flush 6, .settle 6 true, .pushEvent "e" none,
      .pushEvent "e" none, .flush 8, .flush 7, .settle 7 true, .settle 8 true] : List (Inputs × Wallet.Label))

def eventsAgain : List Nat :=
  ((Run.run (Wallet.step .transparent) (Wallet.step .transparent repeatingWallet ({}, .prepareJoin pairing secondKey))
    pushedAgain).handedFrames repeatingWallet.trace.length).map (fun h => h.1.seq)

end Sample

theorem repeatingWallet_facts :
    Sample.repeatingWallet.journal.held Wallet.Task.reserves = [] ∧
    Run.Along (Wallet.step .transparent) (fun s l => l.2.sameObject = true ∧ Wallet.SettlesInTurn s l)
      (Wallet.step .transparent Sample.repeatingWallet ({}, .prepareJoin Sample.pairing Sample.secondKey)) Sample.pushedAgain ∧
    Sample.eventsAgain = [0, 1] := by
  decide +kernel

theorem twoRequests_facts :
    Run.Along (DApp.step .transparent) (fun s l => l.2.sameObject = true ∧ DApp.SettlesInTurn s l) Sample.dappOpened
      (Sample.twoRequests 4 6) ∧
    Sample.requestsSent 4 6 = [0, 1] ∧ Sample.requestsSent 6 4 = [1, 0] ∧ Sample.eventsSent 4 3 = [1, 0] := by
  decide +kernel

theorem sealed_frames_in_order_sample :
    Sample.requestsSent 4 6 = [0, 1] ∧ (Sample.requestsSent 4 6).Pairwise (· < ·) ∧
    Sample.eventsAgain = [0, 1] ∧ Sample.eventsAgain.Pairwise (· < ·) := by
  obtain ⟨dapp, wallet⟩ := sealed_frames_in_order .transparent
  obtain ⟨waits, inTurn, events⟩ := repeatingWallet_facts
  obtain ⟨settled, requests, -⟩ := twoRequests_facts
  refine ⟨requests, ?_, events, ?_⟩
  · have inOrder := dapp DApp.Sample.options [] {} (.createPairing Sample.dappKey "ab" false) (Sample.twoRequests 4 6)
      (Sample.requestsSent 4 6) ⟨⟨true, true⟩, rfl, rfl⟩ rfl rfl settled rfl
    exact inOrder.1
  · have inOrder := wallet (Wallet.Sample.options true) Sample.pushedBefore {} (.prepareJoin Sample.pairing Sample.secondKey)
      Sample.pushedAgain Sample.eventsAgain ⟨⟨true, true⟩, rfl, rfl⟩ rfl waits inTurn rfl
    exact inOrder.1

/-- When the second save resolves first, the second frame goes out first, and the receiver
drops the other one. -/
theorem late_save_reorders_frames :
    (Sample.twoRequests 6 4).all (fun l => l.2.sameObject) = true ∧
    Sample.requestsSent 6 4 = [1, 0] ∧ takeAbove (-1) (Sample.requestsSent 6 4) = [1] ∧
    (Sample.twoEvents 4 3).all (fun l => l.2.sameObject) = true ∧
    Sample.eventsSent 4 3 = [1, 0] ∧ takeAbove (-1) (Sample.eventsSent 4 3) = [1] ∧
    ¬ (Sample.requestsSent 6 4).Pairwise (· < ·) ∧ ¬ (Sample.eventsSent 4 3).Pairwise (· < ·) := by
  obtain ⟨-, -, requests, events⟩ := twoRequests_facts
  rw [requests, events]
  exact ⟨by decide +kernel, rfl, by decide, by decide +kernel, rfl, by decide, by decide, by decide⟩

end WalletPair.Sdk
