import WalletPair.Relay.Server.Isolation

/-! What becomes of one channel. `Evolves` says what a message can do to the channel it
names and `Moves` what a step of the server can do to a channel of a shard; who is
registered where, and whether a connection that leaves is forgotten, follows from them. -/

namespace WalletPair.Relay.Server
open WalletPair.Lib WalletPair.Lib.Program WalletPair.Lib.Run

variable {τ : Type}

/-! ### One message -/

/-- The channel that a message names, before and after it. -/
inductive Evolves (s : World τ) (connId sender : Nat) : ClientMessage → Option Channel → Option Channel → Prop where
  | kept {msg : ClientMessage} {old : Option Channel} : Evolves s connId sender msg old old
  | vacated {ch peer : String} {c : Channel} (replaceable : s.replaceable c = true) :
    Evolves s connId sender (.create ch peer) (some c) none
  | opened {ch peer : String} {old : Option Channel} (free : ∀ c, old = some c → s.replaceable c = true) :
    Evolves s connId sender (.create ch peer) old (some (Channel.new ch peer ⟨sender, connId⟩ s.clock.instant))
  | joined {ch peer : String} {sealedJoinNull : Bool} {c : Channel} (waiting : c.state = .waitingForWallet) :
    Evolves s connId sender (.join ch peer sealedJoinNull) (some c) (some (c.joinedBy connId sender peer sealedJoinNull))
  | accepted {ch peer target : String} {c : Channel} (dapp : c.isDapp peer = true) (pending : c.state = .pendingAccept)
    (wallet : c.walletPeerId = some target) :
    Evolves s connId sender (.accept ch peer target) (some c) (some (c.connectedFrom s.clock.instant))
  | passed {msg : ClientMessage} {type : MessageType} {reqId : Option String} {c : Channel} {role : Role}
    (data : dataOf msg = some (type, reqId)) (sent : c.roleOf msg.fromPeer = some role)
    (allowed : c.state.allowsMessage type role = true) :
    Evolves s connId sender msg (some c) (some (c.tracking type reqId))
  | cut {msg : ClientMessage} {type : MessageType} {reqId : Option String} {c : Channel} {role : Role} {id : Nat}
    (data : dataOf msg = some (type, reqId)) (sent : c.roleOf msg.fromPeer = some role)
    (allowed : c.state.allowsMessage type role = true) (other : c.otherSender role = some id)
    (lost : s.sends id = false) :
    Evolves s connId sender msg (some c) (some ((c.tracking type reqId).dropConn role.other))
  | ended {ch peer reason : String} {c : Channel} {role : Role} (sent : c.roleOf peer = some role) :
    Evolves s connId sender (.close ch peer reason) (some c) none

section Message
variable {s t : World τ} {connId sender : Nat} {raw : τ} {atCapacity : Bool} {msg : ClientMessage} {r : ProcessResult τ}

theorem get_removing_self (s : World τ) (ch : String) : (s.removing ch).channels.get ch = none := by
  unfold World.removing
  split
  · exact OrderedMap.get_delete_self _ _
  · rename_i absent
    exact Option.not_isSome_iff_eq_none.mp absent

theorem creating_get_self (s : World τ) (connId sender : Nat) (ch peer : String) :
    (s.creating connId sender ch peer).channels.get ch = some (Channel.new ch peer ⟨sender, connId⟩ s.clock.instant) := by
  unfold World.creating
  rw [sending_toChannelStore]
  exact OrderedMap.get_set_self _ _ _

theorem vacating_clock (s : World τ) (ch : String) : (s.vacating ch).clock = s.clock := by
  unfold World.vacating World.removing
  split <;> rfl

theorem Handled.evolves (handled : Handled s connId sender raw atCapacity msg r t) :
    Evolves s connId sender msg (s.channels.get msg.channelId) (t.channels.get msg.channelId) := by
  cases handled with
  | refused reason target => exact .kept
  | evicted found replaceable full =>
    rename_i ch peer c
    have gone : (s.vacating ch).channels.get ch = none := get_removing_self s ch
    change Evolves s connId sender _ (s.channels.get ch) ((s.vacating ch).channels.get ch)
    rw [found, gone]
    exact .vacated replaceable
  | created absent free =>
    rename_i ch peer
    change Evolves s connId sender _ (s.channels.get ch) ((s.creating connId sender ch peer).channels.get ch)
    rw [creating_get_self]
    apply Evolves.opened
    intro c found
    rw [absent] at found
    cases found
  | replaced found replaceable free =>
    rename_i ch peer c
    change Evolves s connId sender _ (s.channels.get ch) (((s.vacating ch).creating connId sender ch peer).channels.get ch)
    rw [creating_get_self, vacating_clock, found]
    apply Evolves.opened
    rintro _ ⟨⟩
    exact replaceable
  | joined found waiting =>
    rename_i ch peer sealedJoinNull c
    change Evolves s connId sender _ (s.channels.get ch) ((s.joining c connId sender raw ch peer sealedJoinNull).channels.get ch)
    unfold World.joining
    rw [sending_toChannelStore, sendingTo_toChannelStore, OrderedMap.get_set_self, found]
    exact .joined waiting
  | accepted found dapp pending wallet =>
    rename_i ch peer target c
    change Evolves s connId sender _ (s.channels.get ch) ((s.accepting c ch peer target).channels.get ch)
    unfold World.accepting
    rw [sendingTo_toChannelStore, sendingTo_toChannelStore, found]
    change Evolves s connId sender _ (some c) ((s.channels.set ch (c.connectedFrom s.clock.instant)).get ch)
    rw [OrderedMap.get_set_self]
    exact .accepted dapp pending wallet
  | forwarded data found sent allowed limit =>
    rename_i type reqId c role
    have tracked : (s.tracking c msg.channelId type reqId).channels.get msg.channelId = some (c.tracking type reqId) :=
      OrderedMap.get_set_self _ _ _
    rw [found]
    unfold World.forwarding
    dsimp only
    split
    · rw [tracked]
      exact .passed data sent allowed
    · rename_i id other
      split
      · rw [sending_toChannelStore, tracked]
        exact .passed data sent allowed
      · rename_i lost
        have gone : s.sends id = false := (Bool.not_eq_true _).mp lost
        unfold World.cutting
        rw [OrderedMap.get_set_self]
        exact .cut data sent allowed other gone
  | ended found sent =>
    rename_i ch peer reason c role
    change Evolves s connId sender _ (s.channels.get ch) ((s.ending c raw ch role).channels.get ch)
    unfold World.ending
    rw [get_removing_self, found]
    exact .ended sent
  | gone absent => exact .kept

/-- The only new connection of a channel is the one that the message came on: as the dApp
of a create, or as the wallet of a join. -/
theorem Evolves.conn {old new : Option Channel} (evolves : Evolves s connId sender msg old new) {d : Channel} {role : Role}
    {peer : PeerConn} (after : new = some d) (registered : d.conn role = some peer) :
    (∃ c, old = some c ∧ c.conn role = some peer) ∨
      peer = ⟨sender, connId⟩ ∧
        ((∃ ch id, msg = .create ch id) ∧ role = .dapp ∨ (∃ ch id flag, msg = .join ch id flag) ∧ role = .wallet) := by
  cases evolves with
  | kept => exact Or.inl ⟨d, after, registered⟩
  | vacated replaceable => cases after
  | opened free =>
    cases after
    cases role with
    | dapp => exact Or.inr ⟨(Option.some.inj registered).symm, Or.inl ⟨⟨_, _, rfl⟩, rfl⟩⟩
    | wallet => cases registered
  | joined waiting =>
    cases after
    cases role with
    | dapp => exact Or.inl ⟨_, rfl, registered⟩
    | wallet => exact Or.inr ⟨(Option.some.inj registered).symm, Or.inr ⟨⟨_, _, _, rfl⟩, rfl⟩⟩
  | accepted dapp pending wallet =>
    cases after
    exact Or.inl ⟨_, rfl, by cases role <;> exact registered⟩
  | passed data sent allowed =>
    cases after
    exact Or.inl ⟨_, rfl, by cases role <;> exact registered⟩
  | cut data sent allowed other lost =>
    rename_i type reqId c sender id
    cases after
    refine Or.inl ⟨c, rfl, ?_⟩
    cases role <;> cases sender <;> first | exact registered | cases registered
  | ended sent => cases after

end Message

/-! ### One step -/

/-- A channel of a shard, before and after a step. -/
inductive Moves (s : AppState τ) : Event τ → Fin 64 → String → Option Channel → Option Channel → Prop where
  | still {event : Event τ} {i : Fin 64} {key : String} {old : Option Channel} : Moves s event i key old old
  | processed {k : Nat} {raw : τ} {msg : ClientMessage} {atCapacity : Bool} {old new : Option Channel}
    (checked : (s.tasks k).stage = .checked raw msg atCapacity)
    (evolves : Evolves (s.world (shardIndex msg.channelId)) k k msg old new) :
    Moves s (.process k) (shardIndex msg.channelId) msg.channelId old new
  | parted {k : Nat} {ch : String} {c : Channel} (leaving : (s.tasks k).stage = .leaving)
    (bound : (s.tasks k).binding = some ch) :
    Moves s (.leave k) (shardIndex ch) ch (some c) (some (c.disconnectByConnId k).1)
  | expired {i : Fin 64} {key : String} {c : Channel} : Moves s .sweep i key (some c) none

section Steps
variable {read : τ → Except CloseReason ClientMessage} {s : AppState τ} {k : Nat}

theorem absorb_shard_self (s : AppState τ) (i : Fin 64) (w : World τ) : (s.absorb i w).shards i = w.channels :=
  Function.update_self _ _ _

theorem absorb_shard_of_ne {i j : Fin 64} {w : World τ} (other : j ≠ i) : (s.absorb i w).shards j = s.shards j :=
  Function.update_of_ne other _ _

theorem foldl_removing_get (entries : List (String × Channel)) (w : World τ) (key : String) :
    (entries.foldl (fun s entry => s.removing entry.1) w).channels.get key = w.channels.get key ∨
      (entries.foldl (fun s entry => s.removing entry.1) w).channels.get key = none := by
  induction entries generalizing w with
  | nil => exact Or.inl rfl
  | cons entry rest ih =>
    rw [List.foldl_cons]
    by_cases same : key = entry.1
    · rw [same] at ih ⊢
      have gone := ih (w.removing entry.1)
      rw [get_removing_self] at gone
      exact Or.inr (gone.elim id id)
    · have kept := ih (w.removing entry.1)
      rwa [get_removing same] at kept

theorem cleaning_get (w : World τ) (key : String) :
    w.cleaning.channels.get key = w.channels.get key ∨ w.cleaning.channels.get key = none := by
  have removed := foldl_removing_get w.toRemove (w.toRemove.foldl (fun s entry => s.notifying entry.2) w) key
  rwa [foldl_notifying_toChannelStore] at removed

theorem sweep_moves (s : AppState τ) (i : Fin 64) (key : String) :
    Moves s .sweep i key ((s.shards i).get key) ((s.sweep.shards i).get key) := by
  unfold AppState.sweep
  split
  · exact .still
  · rename_i next removed running
    split
    · rw [cleanupExpired_apply]
      dsimp only
      by_cases same : i = Fin.ofNat 64 next
      · rw [same, absorb_shard_self]
        rcases cleaning_get (s.world (Fin.ofNat 64 next)) key with kept | gone
        · rw [kept]
          exact .still
        · rw [gone]
          cases (s.shards (Fin.ofNat 64 next)).get key with
          | none => exact .still
          | some c => exact .expired
      · rw [absorb_shard_of_ne same]
        exact .still
    · exact .still

theorem leave_moves (leaving : (s.tasks k).stage = .leaving) (i : Fin 64) (key : String) :
    Moves s (.leave k) i key ((s.shards i).get key) (((s.leave k).shards i).get key) := by
  unfold AppState.leave
  split
  · exact .still
  · rename_i ch bound
    rw [after_disconnectPeer]
    change Moves s _ i key _ (((s.absorb (shardIndex ch) _).shards i).get key)
    by_cases same : i = shardIndex ch
    · rw [same, absorb_shard_self]
      by_cases own : key = ch
      · rw [own]
        unfold World.parting
        cases found : (s.world (shardIndex ch)).channels.get ch with
        | none => exact .still
        | some c =>
          have before : (s.shards (shardIndex ch)).get ch = some c := found
          dsimp only
          rw [before, OrderedMap.get_set_self]
          exact .parted leaving bound
      · rw [parting_get own]
        exact .still
    · rw [absorb_shard_of_ne same]
      exact .still

theorem process_moves {raw : τ} {msg : ClientMessage} {atCapacity : Bool} {r : ProcessResult τ} {w : World τ}
    (checked : (s.tasks k).stage = .checked raw msg atCapacity)
    (handled : Handled (s.world (shardIndex msg.channelId)) k k raw atCapacity msg r w) (i : Fin 64) (key : String) :
    Moves s (.process k) i key ((s.shards i).get key) (((s.absorb (shardIndex msg.channelId) w).shards i).get key) := by
  by_cases same : i = shardIndex msg.channelId
  · rw [same, absorb_shard_self]
    by_cases own : key = msg.channelId
    · rw [own]
      exact .processed checked handled.evolves
    · rw [handled.others own]
      exact .still
  · rw [absorb_shard_of_ne same]
    exact .still

theorem step_moves (read : τ → Except CloseReason ClientMessage) (s : AppState τ) (event : Event τ) (i : Fin 64) (key : String) :
    Moves s event i key ((s.shards i).get key) (((step read s event).shards i).get key) := by
  have takes := step_takes read s event
  generalize step read s event = t at takes ⊢
  cases takes with
  | receive reading =>
    rw [receive_rest.1]
    exact .still
  | process checked handled processed => exact process_moves checked handled i key
  | count processed =>
    rename_i result
    cases result <;> exact .still
  | leave leaving => exact leave_moves leaving i key
  | sweep => exact sweep_moves s i key
  | enter =>
    unfold AppState.enter
    dsimp only
    split
    · exact .still
    · split_ifs <;> exact .still
  | _ => exact .still

/-! ### Who is registered -/

/-- Channels are in the shard of their id, and a connection is registered only with the
channel that it is bound to, under its own queue. -/
structure Registered (s : AppState τ) : Prop where
  placed : ∀ i key c, (s.shards i).get key = some c → i = shardIndex key
  conns : ∀ i key c role conn, (s.shards i).get key = some c → c.conn role = some conn →
    conn.sender = conn.connId ∧ (s.tasks conn.connId).binding = some key

theorem disconnectByConnId_conn {c : Channel} {connId : Nat} {role : Role} {conn : PeerConn}
    (kept : (c.disconnectByConnId connId).1.conn role = some conn) : c.conn role = some conn := by
  rcases disconnectByConnId_cases c connId with same | ⟨left, same⟩
  · rwa [same] at kept
  · rw [same] at kept
    cases left <;> cases role <;> first | exact kept | cases kept

theorem Moves.placed {event : Event τ} {i : Fin 64} {key : String} {old new : Option Channel}
    (moves : Moves s event i key old new) {d : Channel} (after : new = some d) :
    i = shardIndex key ∨ ∃ c, old = some c := by
  cases moves with
  | still => exact Or.inr ⟨d, after⟩
  | processed checked evolves => exact Or.inl rfl
  | parted leaving bound => exact Or.inl rfl
  | expired => cases after

/-- A connection of a channel was there before the step, or the step registered it. -/
theorem Moves.conn {event : Event τ} {i : Fin 64} {key : String} {old new : Option Channel}
    (moves : Moves s event i key old new) {d : Channel} {role : Role} {peer : PeerConn} (after : new = some d)
    (registered : d.conn role = some peer) :
    (∃ c, old = some c ∧ c.conn role = some peer) ∨
      ∃ k raw msg atCapacity, event = .process k ∧ (s.tasks k).stage = .checked raw msg atCapacity ∧
        key = msg.channelId ∧ peer = ⟨k, k⟩ := by
  cases moves with
  | still => exact Or.inl ⟨d, after, registered⟩
  | processed checked evolves =>
    rcases evolves.conn after registered with before | ⟨new, -⟩
    · exact Or.inl before
    · exact Or.inr ⟨_, _, _, _, rfl, checked, rfl, new⟩
  | parted leaving bound =>
    cases after
    exact Or.inl ⟨_, rfl, disconnectByConnId_conn registered⟩
  | expired => cases after

theorem step_registered (bound : Bound s) (registered : Registered s) (event : Event τ) :
    Registered (step read s event) := by
  constructor
  · intro i key d found
    have moves := step_moves read s event i key
    rcases moves.placed found with own | ⟨c, before⟩
    · exact own
    · exact registered.placed i key c before
  · intro i key d role peer found conn
    have moves := step_moves read s event i key
    rcases moves.conn found conn with ⟨c, before, old⟩ | ⟨k, raw, msg, atCapacity, rfl, checked, rfl, rfl⟩
    · obtain ⟨queue, own⟩ := registered.conns i key c role peer before old
      exact ⟨queue, step_binding bound event own⟩
    · exact ⟨rfl, step_binding bound _ (bound.checked k raw msg atCapacity checked)⟩

theorem Booted.registered {config : Config} (booted : Booted config s) : Registered s := by
  constructor
  · exact fun i key c found => (booted.channels i key c found).1
  · intro i key c role conn found registered
    rw [(booted.channels i key c found).2 role] at registered
    cases registered

/-! ### Leaving -/

/-- A connection that is done is registered nowhere. -/
def Forgotten (s : AppState τ) : Prop :=
  ∀ i key c role conn, (s.shards i).get key = some c → c.conn role = some conn → (s.tasks conn.connId).stage ≠ .done

/-- Every connection but `k` is registered where it was. -/
def OthersKept (k : Nat) (s t : AppState τ) : Prop :=
  ∀ i key c role conn, (s.shards i).get key = some c → c.conn role = some conn → conn.connId ≠ k →
    ∃ d, (t.shards i).get key = some d ∧ d.conn role = some conn

/-- If the step is the end of a connection, it takes away no other one, and whoever is
done is registered nowhere after it. -/
def ForgetsExactly (read : τ → Except CloseReason ClientMessage) (s : AppState τ) (event : Event τ) : Prop :=
  (∀ k, event = .leave k → (s.tasks k).stage = .leaving → OthersKept k s (step read s event)) ∧
    Forgotten (step read s event)

def Channel.Holds (c : Channel) (role : Role) (k : Nat) : Prop := ∃ conn, c.conn role = some conn ∧ conn.connId = k

/-- A connection that leaves is not both peers of its channel. -/
def LeavesOneRole (s : AppState τ) (event : Event τ) : Prop :=
  ∀ k ch c, event = .leave k → (s.tasks k).stage = .leaving → (s.tasks k).binding = some ch → s.channel ch = some c →
    ¬ (c.Holds .dapp k ∧ c.Holds .wallet k)

theorem holds_iff {c : Channel} {role : Role} : c.Holds role k ↔ (c.conn role).any (fun conn => conn.connId = k) = true := by
  unfold Channel.Holds
  cases c.conn role with
  | none => simp
  | some conn => simp

theorem holds_dapp_iff {c : Channel} : c.Holds .dapp k ↔ c.dappConn.any (fun conn => conn.connId = k) = true := holds_iff

theorem holds_wallet_iff {c : Channel} : c.Holds .wallet k ↔ c.walletConn.any (fun conn => conn.connId = k) = true :=
  holds_iff

theorem disconnectByConnId_dapp {c : Channel} (held : c.Holds .dapp k) : (c.disconnectByConnId k).1 = c.dropConn .dapp := by
  unfold Channel.disconnectByConnId
  rw [if_pos (holds_dapp_iff.mp held)]

theorem disconnectByConnId_wallet {c : Channel} (free : ¬ c.Holds .dapp k) (held : c.Holds .wallet k) :
    (c.disconnectByConnId k).1 = c.dropConn .wallet := by
  unfold Channel.disconnectByConnId
  rw [if_neg (fun found => free (holds_dapp_iff.mpr found)), if_pos (holds_wallet_iff.mp held)]

theorem disconnectByConnId_free {c : Channel} (free : ∀ role, ¬ c.Holds role k) : (c.disconnectByConnId k).1 = c := by
  unfold Channel.disconnectByConnId
  rw [if_neg (fun found => free .dapp (holds_dapp_iff.mpr found)),
    if_neg (fun found => free .wallet (holds_wallet_iff.mpr found))]

/-- A connection that is left in the channel was both of its peers. -/
theorem holds_of_disconnected {c : Channel} {role : Role} (left : (c.disconnectByConnId k).1.Holds role k) :
    c.Holds .dapp k ∧ c.Holds .wallet k := by
  by_cases dapp : c.Holds .dapp k
  · rw [disconnectByConnId_dapp dapp] at left
    refine ⟨dapp, ?_⟩
    cases role with
    | dapp =>
      obtain ⟨conn, found, -⟩ := left
      cases found
    | wallet => exact left
  · by_cases wallet : c.Holds .wallet k
    · rw [disconnectByConnId_wallet dapp wallet] at left
      cases role with
      | dapp => exact absurd left dapp
      | wallet =>
        obtain ⟨conn, found, -⟩ := left
        cases found
    · rw [disconnectByConnId_free (by rintro ⟨⟩ <;> assumption)] at left
      cases role with
      | dapp => exact absurd left dapp
      | wallet => exact absurd left wallet

/-- The other connections stay. -/
theorem disconnectByConnId_keeps {c : Channel} {role : Role} {conn : PeerConn} (registered : c.conn role = some conn)
    (other : conn.connId ≠ k) : (c.disconnectByConnId k).1.conn role = some conn := by
  have free : ¬ c.Holds role k := by
    rintro ⟨held, found, same⟩
    rw [registered] at found
    cases found
    exact other same
  by_cases dapp : c.Holds .dapp k
  · rw [disconnectByConnId_dapp dapp]
    cases role with
    | dapp => exact absurd dapp free
    | wallet => exact registered
  · by_cases wallet : c.Holds .wallet k
    · rw [disconnectByConnId_wallet dapp wallet]
      cases role with
      | dapp => exact registered
      | wallet => exact absurd wallet free
    · rw [disconnectByConnId_free (by rintro ⟨⟩ <;> assumption)]
      exact registered

theorem moveTo_stage (s : AppState τ) (k : Nat) (stage : Stage τ) : ((s.moveTo k stage).tasks k).stage = stage := by
  rw [moveTo_tasks, Function.update_self]

theorem receive_stage {incoming : Incoming τ} {limited : Bool} :
    ((s.receive read k incoming limited).tasks k).stage ≠ .done := by
  rcases receive_cases read s k incoming limited with same | ⟨ch, reason, same⟩ | ⟨raw, msg, -, -, same, -⟩
  · rw [same, moveTo_stage]
    exact nofun
  · rw [same]
    unfold AppState.dismiss
    rw [moveTo_stage]
    exact nofun
  · rw [same, check_task]
    exact nofun

/-- Only the end of its own task ends a connection. -/
theorem step_done (read : τ → Except CloseReason ClientMessage) (s : AppState τ) (event : Event τ) {j : Nat}
    (done : ((step read s event).tasks j).stage = .done) :
    (s.tasks j).stage = .done ∨ event = .leave j ∧ (s.tasks j).stage = .leaving := by
  have takes := step_takes read s event
  generalize step read s event = t at takes done
  have own : ∀ {k : Nat} {u : AppState τ}, (u.tasks k).stage ≠ .done → (∀ i, i ≠ k → u.tasks i = s.tasks i) →
      (u.tasks j).stage = .done → (s.tasks j).stage = .done := by
    intro k u alive rest ended
    by_cases same : j = k
    · rw [same] at ended
      exact absurd ended alive
    · rwa [rest j same] at ended
  cases takes with
  | connect =>
    by_cases same : j = s.nextConn
    · have new : s.connect.tasks j = ⟨none, .reading⟩ := by
        rw [same]
        exact Function.update_self _ _ _
      rw [new] at done
      cases done
    · have old : s.connect.tasks j = s.tasks j := Function.update_of_ne same _ _
      rw [old] at done
      exact Or.inl done
  | receive reading => exact Or.inl (own receive_stage (fun _ different => receive_tasks different) done)
  | process checked handled processed =>
    rename_i k raw msg atCapacity r w
    have alive : (((s.absorb (shardIndex msg.channelId) w).moveTo k (.processed r)).tasks k).stage ≠ .done := by
      rw [moveTo_stage]
      exact nofun
    exact Or.inl (own alive (fun _ different => Function.update_of_ne different _ _) done)
  | count processed =>
    rename_i k result
    have alive : ((s.count k result).tasks k).stage ≠ .done := by
      cases result <;> exact (moveTo_stage _ _ _).trans_ne nofun
    exact Or.inl (own alive (fun _ different => count_tasks different) done)
  | leave leaving =>
    rename_i k
    by_cases same : j = k
    · rw [same]
      exact Or.inr ⟨rfl, leaving⟩
    · rw [leave_tasks same] at done
      exact Or.inl done
  | sweep =>
    rw [sweep_tasks] at done
    exact Or.inl done
  | enter =>
    rw [enter_tasks] at done
    exact Or.inl done
  | _ => exact Or.inl done

theorem leave_stage (s : AppState τ) (k : Nat) : ((s.leave k).tasks k).stage = .done := by
  unfold AppState.leave
  split <;> exact moveTo_stage _ _ _

/-- What a connection that leaves makes of its channel. -/
theorem leave_channel (leaving : (s.tasks k).stage = .leaving) {ch : String} (bound : (s.tasks k).binding = some ch)
    {c : Channel} (found : s.channel ch = some c) :
    (step read s (.leave k)).channel ch = some (c.disconnectByConnId k).1 := by
  have left : step read s (.leave k) = s.leave k := by
    simp only [step, leaving]
  have found : (s.world (shardIndex ch)).channels.get ch = some c := found
  rw [left]
  unfold AppState.leave
  rw [bound]
  change ((s.absorb (shardIndex ch) (after (disconnectPeer ch k) (s.world (shardIndex ch)))).shards (shardIndex ch)).get ch = _
  rw [absorb_shard_self, after_disconnectPeer]
  unfold World.parting
  simp only [found]
  exact OrderedMap.get_set_self _ _ _

/-- A connection that leaves takes away no other. -/
theorem leave_othersKept : OthersKept k s (step read s (.leave k)) := by
  intro i key c role conn found registered other
  have moves := step_moves read s (.leave k) i key
  rw [found] at moves
  generalize after : ((step read s (.leave k)).shards i).get key = new at moves
  cases moves with
  | still => exact ⟨c, rfl, registered⟩
  | parted left bound => exact ⟨_, rfl, disconnectByConnId_keeps registered other⟩

theorem step_forgotten (registered : Registered s) (forgotten : Forgotten s) {event : Event τ}
    (one : LeavesOneRole s event) : Forgotten (step read s event) := by
  intro i key d role conn found held done
  have moves := step_moves read s event i key
  rcases moves.conn found held with ⟨c, before, old⟩ | ⟨k, raw, msg, atCapacity, rfl, checked, rfl, rfl⟩
  · rcases step_done read s event done with already | ⟨rfl, leaving⟩
    · exact forgotten i key c role conn before old already
    · obtain ⟨-, own⟩ := registered.conns i key c role conn before old
      obtain rfl := registered.placed i key c before
      have left : s.channel key = some c := before
      have sure : (step read s (.leave conn.connId)).channel key = some d := found
      rw [leave_channel leaving own left] at sure
      cases sure
      exact one conn.connId key c rfl leaving own before (holds_of_disconnected ⟨conn, held, rfl⟩)
  · rcases step_done read s _ done with already | ⟨same, -⟩
    · change (s.tasks k).stage = .done at already
      rw [checked] at already
      cases already
    · cases same

/-- A connection that was both peers of its channel stays there as the wallet. -/
theorem not_forgotten {event : Event τ} (both : ¬ LeavesOneRole s event) : ¬ Forgotten (step read s event) := by
  unfold LeavesOneRole at both
  push Not at both
  obtain ⟨k, ch, c, rfl, leaving, own, found, dapp, conn, wallet, same⟩ := both
  intro forgotten
  have after : (step read s (.leave k)).channel ch = some (c.disconnectByConnId k).1 := leave_channel leaving own found
  have kept : (c.disconnectByConnId k).1.conn .wallet = some conn := by
    rw [disconnectByConnId_dapp dapp]
    exact wallet
  have alive := forgotten _ ch _ .wallet conn after kept
  rw [same] at alive
  apply alive
  simp only [step, leaving]
  exact leave_stage s k

theorem Booted.forgotten {config : Config} (booted : Booted config s) : Forgotten s := by
  intro i key c role conn found registered
  rw [(booted.channels i key c found).2 role] at registered
  cases registered

theorem along_forgets_iff (bound : Bound s) (registered : Registered s) (forgotten : Forgotten s)
    {events : List (Event τ)} :
    Along (step read) (ForgetsExactly read) s events ↔ Along (step read) LeavesOneRole s events := by
  induction events generalizing s with
  | nil => exact Iff.rfl
  | cons event rest ih =>
    have keeps : LeavesOneRole s event → ForgetsExactly read s event := by
      intro one
      refine ⟨?_, step_forgotten registered forgotten one⟩
      rintro k rfl -
      exact leave_othersKept
    constructor
    · rintro ⟨⟨others, gone⟩, later⟩
      exact ⟨not_not.mp fun both => not_forgotten both gone,
        (ih (step_bound bound event) (step_registered bound registered event) gone).mp later⟩
    · rintro ⟨one, later⟩
      have gone : Forgotten (step read s event) := step_forgotten registered forgotten one
      exact ⟨keeps one, (ih (step_bound bound event) (step_registered bound registered event) gone).mpr later⟩

end Steps

/-- A connection that ends is forgotten, and no other is, along exactly the runs in which
no connection ends as both peers of its channel. -/
theorem connections_forgotten_iff (read : τ → Except CloseReason ClientMessage) (config : Config) (clock : Clock)
    (saved : Option Saved) (events : List (Event τ)) :
    Along (step read) (ForgetsExactly read) (.boot τ config clock saved) events ↔
      Along (step read) LeavesOneRole (.boot τ config clock saved) events := by
  have booted := boot_booted τ config clock saved
  exact along_forgets_iff booted.bound booted.registered booted.forgotten

namespace Sample

/-- Here a text is the message that it says. -/
def read : ClientMessage → Except CloseReason ClientMessage := .ok

def config : Config := ⟨1000, 64, 32, 300, 86400⟩

def start : AppState ClientMessage := .boot ClientMessage config {} none

/-- A message is received, processed and counted. -/
def speaks (k : Nat) (msg : ClientMessage) : List (Event ClientMessage) :=
  [.receive k (.text msg) false, .process k, .count k]

/-- A dApp joins its own channel on the connection it waits on, and hangs up. -/
def bothRoles : List (Event ClientMessage) :=
  .connect :: speaks 1 (.create channel dapp) ++ speaks 1 (.join channel wallet true) ++ [.receive 1 .hangUp false]

set_option maxRecDepth 4000 in
theorem bothRoles_channel : (run (step read) start bothRoles).channel channel =
    some ⟨channel, .pendingAccept, 0, none, dapp, some ⟨1, 1⟩, some wallet, some ⟨1, 1⟩, true, ∅⟩ := by
  decide +kernel

set_option maxRecDepth 4000 in
theorem bothRoles_task : (run (step read) start bothRoles).tasks 1 = ⟨some channel, .leaving⟩ := by
  rfl

end Sample

/-- Such a connection is taken out as the dApp only. -/
theorem both_roles_not_forgotten :
    ¬ ∀ (τ : Type) (read : τ → Except CloseReason ClientMessage) (config : Config) (clock : Clock) (saved : Option Saved)
      (events : List (Event τ)), Along (step read) (ForgetsExactly read) (.boot τ config clock saved) events := by
  intro all
  have booted := boot_booted ClientMessage Sample.config {} none
  have forgets := all ClientMessage Sample.read Sample.config {} none (Sample.bothRoles ++ [.leave 1])
  have one := (along_forgets_iff booted.bound booted.registered booted.forgotten).mp forgets
  have last := along_last one
  have task := Sample.bothRoles_task
  apply last 1 Sample.channel _ rfl (congrArg Task.stage task) (congrArg Task.binding task) Sample.bothRoles_channel
  exact ⟨⟨_, rfl, rfl⟩, ⟨_, rfl, rfl⟩⟩

end WalletPair.Relay.Server
