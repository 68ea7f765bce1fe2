import WalletPair.Relay.Server.Traffic

/-! Whether the dApp hears of the wallet. A join that is granted is passed on once, to the
connection the dApp has at that moment; what is lost then, or goes to a connection that
is lost later, is not sent again, and a create on the pending channel is refused. -/

namespace WalletPair.Relay.Server
open WalletPair.Lib WalletPair.Lib.Program WalletPair.Lib.Run

variable {τ : Type}

/-! ### Joins on record -/

/-- A message puts frames on record, and a join if it is granted. -/
theorem Handled.adds {s t : World τ} {ok : Obs τ → Prop} {connId sender : Nat} {raw : τ} {atCapacity : Bool}
    {msg : ClientMessage} {r : ProcessResult τ} (handled : Handled s connId sender raw atCapacity msg r t)
    (frames : ∀ q ch f, ok (.enqueued q ch f) ∧ ok (.dropped q ch f))
    (joins : ∀ ch peer flag c, msg = .join ch peer flag → s.channels.get ch = some c → c.state = .waitingForWallet →
      ok (.joined ch peer raw)) : Adds ok s.trace t.trace := by
  have vacated : ∀ ch, (s.vacating ch).trace = s.trace := fun _ => removing_trace
  cases handled with
  | refused reason target => exact .refl _
  | evicted found replaceable full =>
    rw [vacated]
    exact .refl _
  | created absent free => exact sending_adds (frames _ _ _).1 (frames _ _ _).2
  | replaced found replaceable free =>
    rw [← vacated]
    exact sending_adds (frames _ _ _).1 (frames _ _ _).2
  | joined found waiting =>
    rename_i ch peer flag c
    have noted : Adds ok s.trace (s.trace ++ [.joined ch peer raw]) := .single (joins _ _ _ _ rfl found waiting)
    exact (noted.trans (sendingTo_adds (fun _ _ => (frames _ _ _).1) fun _ _ => (frames _ _ _).2)).trans
      (sending_adds (frames _ _ _).1 (frames _ _ _).2)
  | accepted found dapp pending wallet =>
    unfold World.accepting
    exact Adds.trans (sendingTo_adds (s := s.connecting _ _) (fun _ _ => (frames _ _ _).1) fun _ _ => (frames _ _ _).2)
      (sendingTo_adds (fun _ _ => (frames _ _ _).1) fun _ _ => (frames _ _ _).2)
  | forwarded data found sent allowed limit =>
    exact forwarding_adds (fun _ _ => (frames _ _ _).1) fun _ _ => (frames _ _ _).2
  | ended found sent =>
    unfold World.ending
    rw [removing_trace]
    exact sendingTo_adds (fun _ _ => (frames _ _ _).1) fun _ _ => (frames _ _ _).2
  | gone absent => exact .refl _

/-! ### Delivery -/

/-- The last join of the channel on record is that of `peer`, with the text `raw`, and
`later` is what is on record since. -/
def LastJoin (trace : List (Obs τ)) (ch peer : String) (raw : τ) (later : List (Obs τ)) : Prop :=
  (∃ earlier, trace = earlier ++ .joined ch peer raw :: later) ∧ ∀ p r, Obs.joined ch p r ∉ later

/-- A create of the dApp on a connection with room gets the join. -/
def Redelivers (s : AppState τ) (ch dapp : String) (raw : τ) : Prop :=
  ∀ k text atCapacity r w, (s.queues k).isClosed = false → (s.queues k).hasRoom = true →
    processMessage k k text (.create ch dapp) atCapacity (s.world (shardIndex ch)) = .ok r w →
    .enqueued k ch (.forwarded raw) ∈ w.trace.drop s.trace.length

/-- The dApp of a pending channel has the join of its wallet in its queue, or is not there
and gets it when it comes back. -/
def JoinsDelivered (s : AppState τ) : Prop :=
  ∀ ch c, s.channel ch = some c → c.state = .pendingAccept →
    ∃ peer raw later, c.walletPeerId = some peer ∧ LastJoin s.trace ch peer raw later ∧
      ((∃ conn, c.dappConn = some conn ∧ .enqueued conn.sender ch (.forwarded raw) ∈ later) ∨
        c.dappConn = none ∧ Redelivers s ch c.dappPeerId raw)

/-- A join that is granted finds the dApp with room in its queue, and the dApp of a pending
channel neither leaves nor is cut off. -/
structure DAppStays (s : AppState τ) (event : Event τ) : Prop where
  granted : ∀ k raw ch peer flag atCapacity c, event = .process k →
    (s.tasks k).stage = .checked raw (.join ch peer flag) atCapacity → s.channel ch = some c →
    c.state = .waitingForWallet → ∃ conn, c.dappConn = some conn ∧ (s.world (shardIndex ch)).sends conn.sender = true
  leaves : ∀ k ch c, event = .leave k → (s.tasks k).stage = .leaving → (s.tasks k).binding = some ch →
    s.channel ch = some c → c.state = .pendingAccept → ¬ c.Holds .dapp k
  reads : ∀ k raw msg atCapacity c conn, event = .process k → (s.tasks k).stage = .checked raw msg atCapacity →
    s.channel msg.channelId = some c → c.state = .pendingAccept → dataOf msg ≠ none →
    c.roleOf msg.fromPeer = some .wallet → c.dappConn = some conn →
    (s.world (shardIndex msg.channelId)).sends conn.sender = true

/-- What the condition keeps: the dApp has the join in its queue. -/
def InQueue (s : AppState τ) : Prop :=
  ∀ ch c, s.channel ch = some c → c.state = .pendingAccept →
    ∃ peer raw later conn, c.walletPeerId = some peer ∧ LastJoin s.trace ch peer raw later ∧ c.dappConn = some conn ∧
      .enqueued conn.sender ch (.forwarded raw) ∈ later

section Delivery
variable {read : τ → Except CloseReason ClientMessage} {s t : AppState τ} {event : Event τ}

theorem InQueue.delivered (queued : InQueue s) : JoinsDelivered s := by
  intro ch c found pending
  obtain ⟨peer, raw, later, conn, wallet, last, dapp, mem⟩ := queued ch c found pending
  exact ⟨peer, raw, later, wallet, last, Or.inl ⟨conn, dapp, mem⟩⟩

/-- A channel that was pending before the step, with the same peers. -/
theorem queued_of_before (queued : InQueue s) {ch : String} {c d : Channel} (before : s.channel ch = some c)
    (pending : c.state = .pendingAccept) (wallet : d.walletPeerId = c.walletPeerId) (dapp : d.dappConn = c.dappConn) :
    ∃ peer raw later conn, d.walletPeerId = some peer ∧ LastJoin (step read s event).trace ch peer raw later ∧
      d.dappConn = some conn ∧ .enqueued conn.sender ch (.forwarded raw) ∈ later := by
  obtain ⟨peer, raw, later, conn, peerId, ⟨⟨earlier, split⟩, none⟩, registered, mem⟩ := queued ch c before pending
  -- a join on this channel would have found it waiting
  have added : Adds (fun o => ∀ p r, o ≠ .joined ch p r) s.trace (step read s event).trace := by
    apply step_adds read s event
    · exact fun _ _ _ _ => ⟨nofun, nofun⟩
    · intro k raw' msg atCapacity r w _ _ handled
      apply handled.adds fun _ _ _ => ⟨nofun, nofun⟩
      rintro ch' peer' flag c' rfl found waiting p r ⟨⟩
      change s.channel ch = some c' at found
      rw [before] at found
      cases found
      rw [pending] at waiting
      cases waiting
  obtain ⟨new, grown, others⟩ := added
  refine ⟨peer, raw, later ++ new, conn, wallet.trans peerId, ⟨⟨earlier, ?_⟩, ?_⟩, dapp.trans registered,
    List.mem_append_left _ mem⟩
  · rw [grown, split, List.append_assoc, List.cons_append]
  · intro p r inside
    rcases List.mem_append.mp inside with old | recent
    · exact none p r old
    · exact others _ recent p r rfl

/-- A join that is granted is in the dApp's queue. -/
theorem queued_of_join (read : τ → Except CloseReason ClientMessage) (stays : DAppStays s event) {k : Nat} {raw : τ} {ch peer : String} {flag atCapacity : Bool}
    {c : Channel} (process : event = .process k) (checked : (s.tasks k).stage = .checked raw (.join ch peer flag) atCapacity)
    (found : s.channel ch = some c) (waiting : c.state = .waitingForWallet) :
    ∃ later conn, LastJoin (step read s event).trace ch peer raw later ∧ c.dappConn = some conn ∧
      .enqueued conn.sender ch (.forwarded raw) ∈ later := by
  obtain ⟨conn, dapp, reached⟩ := stays.granted k raw ch peer flag atCapacity c process checked found waiting
  have granted : processMessage k k raw (.join ch peer flag) atCapacity (s.world (shardIndex ch)) =
      .ok .ok ((s.world (shardIndex ch)).joining c k k raw ch peer flag) := join_granted found waiting
  subst process
  rw [step_process checked granted]
  change ∃ later conn, LastJoin ((s.world (shardIndex ch)).joining c k k raw ch peer flag).trace ch peer raw later ∧ _
  have told : Adds (fun o => ∀ p r, o ≠ .joined ch p r) (s.trace ++ [.joined ch peer raw] ++
      [.enqueued conn.sender ch (.forwarded raw)]) ((s.world (shardIndex ch)).joining c k k raw ch peer flag).trace := by
    unfold World.joining
    rw [dapp, Option.map_some]
    unfold World.sendingTo
    dsimp only
    rw [← sending_trace (s := { s.world (shardIndex ch) with
      channels := (s.world (shardIndex ch)).channels.set ch (c.joinedBy k k peer flag)
      trace := s.trace ++ [.joined ch peer raw] }) reached]
    exact sending_adds nofun nofun
  obtain ⟨new, grown, others⟩ := told
  refine ⟨.enqueued conn.sender ch (.forwarded raw) :: new, conn, ⟨⟨s.trace, ?_⟩, ?_⟩, dapp, List.mem_cons_self⟩
  · rw [grown, List.append_assoc, List.append_assoc]
    rfl
  · intro p r inside
    rcases List.mem_cons.mp inside with same | recent
    · cases same
    · exact others _ recent p r rfl

/-- The dApp of a pending channel keeps its connection. -/
theorem step_inQueue (queued : InQueue s) (stays : DAppStays s event) : InQueue (step read s event) := by
  intro ch d after pending
  have moves := step_moves read s event (shardIndex ch) ch
  change Moves s event (shardIndex ch) ch (s.channel ch) ((step read s event).channel ch) at moves
  rw [after] at moves
  generalize found : s.channel ch = old at moves
  generalize placed : shardIndex ch = i at moves
  cases moves with
  | still => exact queued_of_before queued found pending rfl rfl
  | processed checked evolves =>
    rename_i k raw msg atCapacity
    cases evolves with
    | kept => exact queued_of_before queued found pending rfl rfl
    | opened free => cases pending
    | joined waiting =>
      rename_i ch peer flag c
      obtain ⟨later, conn, last, dapp, mem⟩ := queued_of_join read stays rfl checked found waiting
      exact ⟨peer, raw, later, conn, rfl, last, dapp, mem⟩
    | accepted dapp waiting wallet => cases pending
    | passed data sent allowed => exact queued_of_before queued found pending rfl rfl
    | cut data sent allowed other lost =>
      rename_i type reqId c role id
      cases role with
      | dapp => exact queued_of_before queued found pending rfl rfl
      | wallet =>
        -- the wallet speaks, and the dApp does not read
        obtain ⟨conn, registered, same⟩ := Option.map_eq_some_iff.mp other
        have data : dataOf msg ≠ none := by
          rw [data]
          exact nofun
        have reached := stays.reads k raw msg atCapacity c conn rfl checked found pending data sent registered
        rw [same] at reached
        rw [lost] at reached
        cases reached
  | parted leaving bound =>
    rename_i k c
    have before : c.state = .pendingAccept := by
      rw [← disconnectByConnId_state c k]
      exact pending
    have free := stays.leaves k ch c rfl leaving bound found before
    have kept : (c.disconnectByConnId k).1.dappConn = c.dappConn ∧
        (c.disconnectByConnId k).1.walletPeerId = c.walletPeerId := by
      by_cases wallet : c.Holds .wallet k
      · rw [disconnectByConnId_wallet free wallet]
        exact ⟨rfl, rfl⟩
      · rw [disconnectByConnId_free (by rintro ⟨⟩ <;> assumption)]
        exact ⟨rfl, rfl⟩
    exact queued_of_before queued found before kept.2 kept.1

theorem along_inQueue (queued : InQueue s) {events : List (Event τ)} (stays : Along (step read) DAppStays s events) :
    InQueue (run (step read) s events) :=
  invariant (fun _ _ stays queued => step_inQueue queued stays) stays queued

end Delivery

/-- In a run that starts without a pending channel, and in which the dApp has room for every
join that is granted and stays until it has answered, the dApp of every pending channel has
the join of its wallet. -/
theorem joins_delivered_while_dapp_stays (read : τ → Except CloseReason ClientMessage) (config : Config) (clock : Clock)
    (saved : Option Saved) (events : List (Event τ))
    (unpaired : ∀ ch c, (AppState.boot τ config clock saved).channel ch = some c → c.state ≠ .pendingAccept)
    (stays : Along (step read) DAppStays (.boot τ config clock saved) events) :
    JoinsDelivered (run (step read) (.boot τ config clock saved) events) := by
  have start : InQueue (AppState.boot τ config clock saved) :=
    fun ch c found pending => absurd pending (unpaired ch c found)
  exact (along_inQueue start stays).delivered

theorem dappStays_of_ne {s : AppState τ} {event : Event τ} (unprocessed : ∀ k, event ≠ .process k)
    (stays : ∀ k, event ≠ .leave k) : DAppStays s event :=
  ⟨fun k _ _ _ _ _ _ process => absurd process (unprocessed k), fun k _ _ leave => absurd leave (stays k),
    fun k _ _ _ _ _ process => absurd process (unprocessed k)⟩

namespace Sample

/-- The dApp waits on the first connection, and the wallet joins on the second. -/
def joining : List (Event ClientMessage) :=
  ([.connect, .connect] : List (Event ClientMessage)) ++ speaks 1 (.create channel dapp) ++
    ([.receive 2 (.text (.join channel wallet true)) false, .process 2] : List (Event ClientMessage))

set_option maxRecDepth 4000 in
theorem joining_stays : Along (step read) DAppStays start joining := by
  have before : (run (step read) start (joining.take 6)).channel channel =
      some ⟨channel, .waitingForWallet, 0, none, dapp, some ⟨1, 1⟩, none, none, false, ∅⟩ := by decide +kernel
  have room : ((run (step read) start (joining.take 6)).world (shardIndex channel)).sends 1 = true := by decide +kernel
  refine ⟨dappStays_of_ne nofun nofun, dappStays_of_ne nofun nofun, dappStays_of_ne nofun nofun, ⟨?_, nofun, ?_⟩,
    dappStays_of_ne nofun nofun, dappStays_of_ne nofun nofun, ⟨?_, nofun, ?_⟩, trivial⟩
  · rintro k raw ch peer flag atCapacity c ⟨⟩ checked
    cases checked
  · rintro k raw msg atCapacity c conn ⟨⟩ checked - - data
    cases checked
    exact absurd rfl data
  · rintro k raw ch peer flag atCapacity c ⟨⟩ checked found -
    cases checked
    have same := before.symm.trans found
    cases same
    exact ⟨_, rfl, room⟩
  · rintro k raw msg atCapacity c conn ⟨⟩ checked - - data
    cases checked
    exact absurd rfl data

/-- The dApp waits and hangs up, the wallet joins after that, and the dApp is back on the
third connection. -/
def deserted : List (Event ClientMessage) :=
  ([.connect, .connect] : List (Event ClientMessage)) ++ speaks 1 (.create channel dapp) ++
    ([.receive 1 .hangUp false, .leave 1] : List (Event ClientMessage)) ++
    speaks 2 (.join channel wallet true) ++ ([.connect] : List (Event ClientMessage))

set_option maxRecDepth 4000 in
theorem deserted_channel : (run (step read) start deserted).channel channel =
    some ⟨channel, .pendingAccept, 0, none, dapp, none, some wallet, some ⟨2, 2⟩, true, ∅⟩ := by
  decide +kernel

set_option maxRecDepth 4000 in
theorem deserted_room : ((run (step read) start deserted).queues 3).isClosed = false ∧
    ((run (step read) start deserted).queues 3).hasRoom = true := by
  decide +kernel

end Sample

theorem joins_delivered_sample :
    (∀ ch c, Sample.start.channel ch = some c → c.state ≠ .pendingAccept) ∧
      JoinsDelivered (run (step Sample.read) Sample.start Sample.joining) := by
  have unpaired : ∀ ch c, Sample.start.channel ch = some c → c.state ≠ .pendingAccept := by
    intro ch c found
    cases found
  exact ⟨unpaired, joins_delivered_while_dapp_stays Sample.read Sample.config {} none Sample.joining unpaired
    Sample.joining_stays⟩

/-- A wallet that joins while the dApp is away is held, and the dApp never hears of it. -/
theorem join_without_dapp_lost :
    ¬ ∀ (τ : Type) (read : τ → Except CloseReason ClientMessage) (config : Config) (clock : Clock) (saved : Option Saved)
      (events : List (Event τ)), JoinsDelivered (run (step read) (.boot τ config clock saved) events) := by
  intro all
  have delivered : JoinsDelivered (run (step Sample.read) Sample.start Sample.deserted) :=
    all ClientMessage Sample.read Sample.config {} none Sample.deserted
  have record : ∀ (s : AppState ClientMessage) (i : Fin 64), (s.world i).trace = s.trace := fun _ _ => rfl
  obtain ⟨peer, raw, later, -, -, there | ⟨-, redelivers⟩⟩ :=
    delivered Sample.channel _ Sample.deserted_channel rfl
  · obtain ⟨conn, registered, -⟩ := there
    cases registered
  · have refused := redelivers 3 (.create Sample.channel Sample.dapp) false _ _ Sample.deserted_room.1 Sample.deserted_room.2
      (processMessage_of_kept Sample.deserted_channel rfl)
    rw [record, List.drop_length] at refused
    cases refused

end WalletPair.Relay.Server
