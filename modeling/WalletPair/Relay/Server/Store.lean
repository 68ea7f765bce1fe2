import WalletPair.Lib.Run
import WalletPair.Relay.Server.Handlers
import WalletPair.Relay.Server.Persist

/-! One shard of the store on its own, under any sequence of messages, disconnects,
clean-ups and restarts, with the queues in any condition: what the fields of a channel
have to do with each other. -/

namespace WalletPair.Relay.Server
open WalletPair.Lib WalletPair.Lib.Program WalletPair.Lib.Run

variable {τ : Type}

/-! ### Properties of all channels -/

/-- Every channel is stored under its id and has the property. -/
def ChannelStore.Every (P : Channel → Prop) (s : ChannelStore) : Prop :=
  ∀ key c, s.channels.get key = some c → c.id = key ∧ P c

/-- What the handlers do to one channel keeps the property, under this limit of pending
requests. -/
structure ChannelRules (limit : Nat) (P : Channel → Prop) : Prop where
  new : ∀ id peer conn now, P (Channel.new id peer conn now)
  joined : ∀ {c : Channel} connId sender peer sealedJoinNull, P c → c.state = .waitingForWallet →
    P (c.joinedBy connId sender peer sealedJoinNull)
  connected : ∀ {c : Channel} now, P c → c.state = .pendingAccept → P (c.connectedFrom now)
  dropped : ∀ {c : Channel} role, P c → P (c.dropConn role)
  tracked : ∀ {c : Channel} {type : MessageType} {role : Role} {reqId : Option String}, P c →
    c.state.allowsMessage type role = true → (type = .req → reqId ≠ none → c.pendingRequests.card < limit) →
    P (c.tracking type reqId)

section Every
variable {P : Channel → Prop} {s t : ChannelStore} {ch : String}

theorem every_of_set {c : Channel} (held : s.Every P) (channels : t.channels = s.channels.set ch c) (own : c.id = ch)
    (new : P c) : t.Every P := by
  intro key d found
  rw [channels] at found
  by_cases same : key = ch
  · rw [same, OrderedMap.get_set_self] at found
    cases found
    exact ⟨own.trans same.symm, new⟩
  · rw [OrderedMap.get_set_of_ne same] at found
    exact held key d found

theorem every_of_delete (held : s.Every P) (channels : t.channels = s.channels.delete ch) : t.Every P := by
  intro key c found
  rw [channels] at found
  exact held key c (OrderedMap.get_of_delete found)

end Every

section Handlers
variable {P : Channel → Prop} {s : World τ}

theorem removing_every (held : s.toChannelStore.Every P) (ch : String) : (s.removing ch).toChannelStore.Every P := by
  unfold World.removing
  split
  · exact every_of_delete held rfl
  · exact held

theorem creating_every {limit : Nat} (rules : ChannelRules limit P) (held : s.toChannelStore.Every P)
    (connId sender : Nat) (ch peer : String) : (s.creating connId sender ch peer).toChannelStore.Every P := by
  unfold World.creating
  rw [sending_toChannelStore]
  exact every_of_set held rfl rfl (rules.new _ _ _ _)

theorem forwarding_every {limit : Nat} (rules : ChannelRules limit P) {c : Channel} {raw : τ} {ch : String}
    {type : MessageType} {reqId : Option String} {role : Role} (held : s.toChannelStore.Every P) (own : c.id = ch)
    (tracked : P (c.tracking type reqId)) : (s.forwarding c raw ch type reqId role).toChannelStore.Every P := by
  have base : (s.tracking c ch type reqId).toChannelStore.Every P := every_of_set held rfl own tracked
  unfold World.forwarding
  dsimp only
  split
  · exact base
  · rename_i id other
    have told : ((s.tracking c ch type reqId).sending id ch (.forwarded raw)).toChannelStore.Every P := by
      rw [sending_toChannelStore]
      exact base
    split
    · exact told
    · refine every_of_set told rfl ?_ (rules.dropped _ tracked)
      cases role <;> exact own

/-- A message that is processed keeps what its handlers keep. -/
theorem Handled.every {t : World τ} {connId sender : Nat} {raw : τ} {atCapacity : Bool} {msg : ClientMessage}
    {r : ProcessResult τ} (handled : Handled s connId sender raw atCapacity msg r t)
    (rules : ChannelRules s.pendingRequestLimit P) (held : s.toChannelStore.Every P) : t.toChannelStore.Every P := by
  cases handled with
  | refused reason target => exact held
  | evicted found replaceable full => exact removing_every held _
  | created absent free => exact creating_every rules held _ _ _ _
  | replaced found replaceable free => exact creating_every (s := s.vacating _) rules (removing_every held _) _ _ _ _
  | joined found waiting =>
    obtain ⟨own, c⟩ := held _ _ found
    unfold World.joining
    rw [sending_toChannelStore, sendingTo_toChannelStore]
    exact every_of_set held rfl own (rules.joined _ _ _ _ c waiting)
  | accepted found dapp pending wallet =>
    obtain ⟨own, c⟩ := held _ _ found
    unfold World.accepting
    rw [sendingTo_toChannelStore, sendingTo_toChannelStore]
    exact every_of_set held rfl own (rules.connected _ c pending)
  | forwarded data found sent allowed limit =>
    obtain ⟨own, c⟩ := held _ _ found
    exact forwarding_every rules held own (rules.tracked c allowed limit)
  | ended found sent =>
    unfold World.ending
    apply removing_every
    rw [sendingTo_toChannelStore]
    exact held
  | gone absent => exact held

/-! ### Disconnects and expiry -/

theorem disconnectByConnId_cases (c : Channel) (connId : Nat) :
    (c.disconnectByConnId connId).1 = c ∨ ∃ role, (c.disconnectByConnId connId).1 = c.dropConn role := by
  unfold Channel.disconnectByConnId
  split
  · exact Or.inr ⟨.dapp, rfl⟩
  · split
    · exact Or.inr ⟨.wallet, rfl⟩
    · exact Or.inl rfl

theorem disconnectByConnId_every {limit : Nat} (rules : ChannelRules limit P) {c : Channel} (held : P c) (connId : Nat) :
    (c.disconnectByConnId connId).1.id = c.id ∧ P (c.disconnectByConnId connId).1 := by
  rcases disconnectByConnId_cases c connId with same | ⟨role, same⟩
  · rw [same]
    exact ⟨rfl, held⟩
  · rw [same]
    exact ⟨by cases role <;> rfl, rules.dropped role held⟩

/-- The world after a connection of the channel is gone. -/
def World.parting (s : World τ) (ch : String) (connId : Nat) : World τ :=
  match s.channels.get ch with
  | none => s
  | some c => { s with channels := s.channels.set ch (c.disconnectByConnId connId).1 }

theorem after_disconnectPeer (ch : String) (connId : Nat) (s : World τ) :
    after (disconnectPeer ch connId) s = s.parting ch connId := by
  unfold disconnectPeer World.parting
  rw [after_get_bind]
  cases s.channels.get ch with
  | none => rfl
  | some c => rfl

theorem parting_every {limit : Nat} (rules : ChannelRules limit P) (held : s.toChannelStore.Every P) (ch : String)
    (connId : Nat) : (s.parting ch connId).toChannelStore.Every P := by
  unfold World.parting
  cases found : s.channels.get ch with
  | none => exact held
  | some c =>
    obtain ⟨own, channel⟩ := held ch c found
    obtain ⟨same, left⟩ := disconnectByConnId_every rules channel connId
    exact every_of_set held rfl (same.trans own) left

/-- Both peers of an expired channel are told. -/
def World.notifying (s : World τ) (c : Channel) : World τ :=
  if c.state = .closed then s
  else (s.sendingTo (c.dappConn.map PeerConn.sender) c.id (buildTerminate c.id .timeout s.clock)).sendingTo
    (c.walletConn.map PeerConn.sender) c.id (buildTerminate c.id .timeout s.clock)

theorem notifyExpired_apply (c : Channel) (s : World τ) : notifyExpired c s = .ok () (s.notifying c) := by
  unfold notifyExpired World.notifying
  rw [get_bind_apply]
  by_cases closed : c.state = .closed
  · rw [if_neg (not_not.mpr closed), if_pos closed]
    rfl
  · rw [if_pos closed, if_neg closed, bind_of_ok (trySendTo_apply _ _ _ _), bind_of_ok (trySendTo_apply _ _ _ _)]
    rfl

/-- The world after a clean-up: everybody concerned is told, then the channels go. -/
def World.cleaning (s : World τ) : World τ :=
  s.toRemove.foldl (fun s entry => s.removing entry.1) (s.toRemove.foldl (fun s entry => s.notifying entry.2) s)

theorem forM_apply {α : Type} {f : α → M τ Unit} {g : World τ → α → World τ} (each : ∀ a s, f a s = .ok () (g s a))
    (items : List α) (s : World τ) : items.forM f s = .ok () (items.foldl g s) := by
  induction items generalizing s with
  | nil => rfl
  | cons a rest ih =>
    have first : (a :: rest).forM f s = (f a >>= fun _ => rest.forM f) s := rfl
    rw [first, bind_of_ok (each a s), ih]
    rfl

theorem cleanupExpired_apply (s : World τ) : cleanupExpired s = .ok s.toRemove.length s.cleaning := by
  have told : ∀ s t : World τ, (s.toRemove.forM fun entry => notifyExpired entry.2) t =
      .ok () (s.toRemove.foldl (fun s entry => s.notifying entry.2) t) :=
    fun s t => forM_apply (fun (entry : String × Channel) s => notifyExpired_apply entry.2 s) _ _
  have removed : ∀ s t : World τ, (s.toRemove.forM fun entry => removeChannel entry.1) t =
      .ok () (s.toRemove.foldl (fun s entry => s.removing entry.1) t) :=
    fun s t => forM_apply (fun _ _ => rfl) _ _
  unfold cleanupExpired
  rw [get_bind_apply, bind_of_ok (told s s), bind_of_ok (removed s _)]
  rfl

theorem notifying_toChannelStore (s : World τ) (c : Channel) : (s.notifying c).toChannelStore = s.toChannelStore := by
  unfold World.notifying
  split
  · rfl
  · rw [sendingTo_toChannelStore, sendingTo_toChannelStore]

theorem foldl_notifying_toChannelStore (entries : List (String × Channel)) (s : World τ) :
    (entries.foldl (fun s entry => s.notifying entry.2) s).toChannelStore = s.toChannelStore := by
  induction entries generalizing s with
  | nil => rfl
  | cons entry rest ih => exact (ih _).trans (notifying_toChannelStore s entry.2)

theorem foldl_removing_every (held : s.toChannelStore.Every P) (entries : List (String × Channel)) :
    (entries.foldl (fun s entry => s.removing entry.1) s).toChannelStore.Every P := by
  induction entries generalizing s with
  | nil => exact held
  | cons entry rest ih => exact ih (removing_every held entry.1)

theorem cleaning_every (held : s.toChannelStore.Every P) : s.cleaning.toChannelStore.Every P := by
  apply foldl_removing_every
  rw [foldl_notifying_toChannelStore]
  exact held

end Handlers

/-! ### Restarts -/

theorem readState_snapshot {c : Channel} {now : Nat} {state : ChannelState}
    (read : (c.snapshot now).readState = some state) : state = c.state := by
  unfold ChannelSnapshot.readState Channel.snapshot at read
  cases same : c.state with
  | closed =>
    rw [same] at read
    cases read
  | _ =>
    rw [same] at read
    exact (Option.some.inj read).symm

/-- What comes back of a channel has the property again. -/
def Restores (P : Channel → Prop) : Prop := ∀ (c d : Channel) (saved now : Nat), P c →
  (c.snapshot saved).restore c.state now = .ok d → P d

/-- Every snapshot of the list comes from a channel with the property. -/
theorem loadChannels_every {P : Channel → Prop} (restores : Restores P) {saved now : Nat} {snapshots : List ChannelSnapshot}
    {start : OrderedMap Channel} {count : Nat} {loaded : OrderedMap Channel × Nat}
    (from_ : ∀ cs ∈ snapshots, ∃ c : Channel, P c ∧ cs = c.snapshot saved)
    (held : ∀ key c, start.get key = some c → c.id = key ∧ P c)
    (load : loadChannels now snapshots start count = .ok loaded) :
    ∀ key c, loaded.1.get key = some c → c.id = key ∧ P c := by
  induction snapshots generalizing start count with
  | nil =>
    cases load
    exact held
  | cons cs rest ih =>
    unfold loadChannels at load
    have later : ∀ cs ∈ rest, ∃ c : Channel, P c ∧ cs = c.snapshot saved :=
      fun cs mem => from_ cs (List.mem_cons_of_mem _ mem)
    cases read : cs.readState with
    | none =>
      rw [read] at load
      exact ih later held load
    | some state =>
      rw [read] at load
      obtain ⟨d, restored, load⟩ := ok_of_bind load
      obtain ⟨c, channel, rfl⟩ := from_ cs List.mem_cons_self
      rw [readState_snapshot read] at restored
      have new := restores c d saved now channel restored
      have own : d.id = c.id := by
        unfold ChannelSnapshot.restore at restored
        obtain ⟨createdAt, -, restored⟩ := ok_of_bind restored
        obtain ⟨connectedAt, -, restored⟩ := ok_of_bind restored
        cases restored
        rfl
      refine ih later ?_ load
      intro key e found
      by_cases same : key = (c.snapshot saved).id
      · rw [same, OrderedMap.get_set_self] at found
        cases found
        exact ⟨own.trans same.symm, new⟩
      · rw [OrderedMap.get_set_of_ne same] at found
        exact held key e found

theorem load_save_every {P : Channel → Prop} (restores : Restores P) {s : ChannelStore} {saved now : Nat}
    {loaded : OrderedMap Channel × Nat} (held : s.Every P) (load : loadState now (saveState s saved) = .ok loaded) :
    ∀ key c, loaded.1.get key = some c → c.id = key ∧ P c := by
  have version : (saveState s saved).version = 1 := rfl
  unfold loadState at load
  rw [if_neg (not_not.mpr version)] at load
  have taken : ∀ cs ∈ (saveState s saved).channels, ∃ c : Channel, P c ∧ cs = c.snapshot saved := by
    intro cs mem
    obtain ⟨c, kept, rfl⟩ := List.mem_map.mp mem
    obtain ⟨⟨key, d⟩, entry, rfl⟩ := List.mem_map.mp (List.mem_of_mem_filter kept)
    exact ⟨d, (held key d (OrderedMap.get_eq_some.mpr entry)).2, rfl⟩
  apply loadChannels_every restores taken _ load
  intro key c found
  rw [OrderedMap.get_empty] at found
  cases found

/-! ### Runs -/

/-- What of the configuration a shard depends on. -/
structure ShardConfig where
  pendingRequestLimit : Nat
  unpairedTtlSecs : Nat
  connectedTtlSecs : Nat

/-- What happens to a shard. Between two calls the queues may be filled, drained and
closed, and time passes. A restart loads the channels under a configuration of its own. -/
inductive StoreEvent (τ : Type) where
  | message (connId sender : Nat) (raw : τ) (msg : ClientMessage) (atCapacity : Bool)
  | disconnect (ch : String) (connId : Nat)
  | cleanup
  | restart (config : ShardConfig) (now : Clock)
  | environment (queues : Nat → Queue τ) (clock : Clock)

/-- The shard of a new process; where loading stops it, there is none to speak of. -/
def World.restarting (s : World τ) (config : ShardConfig) (now : Clock) : World τ :=
  match loadState now.instant (saveState s.toChannelStore s.clock.instant) with
  | .ok (channels, count) =>
    { channels
      pendingRequestLimit := config.pendingRequestLimit
      unpairedTtlSecs := config.unpairedTtlSecs
      connectedTtlSecs := config.connectedTtlSecs
      queues := fun _ => {}
      activeChannels := count
      clock := now
      trace := [] }
  | .error _ => s

def storeStep (s : World τ) : StoreEvent τ → World τ
  | .message connId sender raw msg atCapacity => after (processMessage connId sender raw msg atCapacity) s
  | .disconnect ch connId => after (disconnectPeer ch connId) s
  | .cleanup => after cleanupExpired s
  | .restart config now => s.restarting config now
  | .environment queues clock => { s with queues, clock }

/-- An empty shard. -/
def World.fresh (τ : Type) (pendingRequestLimit unpairedTtlSecs connectedTtlSecs : Nat) : World τ :=
  { channels := OrderedMap.empty
    pendingRequestLimit
    unpairedTtlSecs
    connectedTtlSecs
    queues := fun _ => {}
    activeChannels := 0
    clock := {}
    trace := [] }

/-- A step keeps what the handlers and a restart keep of every channel. -/
theorem storeStep_every {P : Channel → Prop} {s : World τ} (event : StoreEvent τ)
    (rules : ChannelRules s.pendingRequestLimit P) (restores : Restores P) (held : s.toChannelStore.Every P) :
    (storeStep s event).toChannelStore.Every P := by
  cases event with
  | message connId sender raw msg atCapacity =>
    obtain ⟨r, t, run, handled⟩ := processMessage_handled connId sender raw msg atCapacity s
    rw [storeStep, after_of_ok run]
    exact handled.every rules held
  | disconnect ch connId =>
    rw [storeStep, after_disconnectPeer]
    exact parting_every rules held ch connId
  | cleanup =>
    rw [storeStep, after_of_ok (cleanupExpired_apply s)]
    exact cleaning_every held
  | restart config now =>
    change (s.restarting config now).toChannelStore.Every P
    unfold World.restarting
    split
    · rename_i channels count load
      exact load_save_every restores held load
    · exact held
  | environment queues clock => exact held

/-! ### What the fields of a channel have to do with each other -/

/-- What the state of a channel says about its other fields. -/
structure Channel.Valid (c : Channel) : Prop where
  open_ : c.state ≠ .closed
  waiting : c.state = .waitingForWallet →
    c.walletPeerId = none ∧ c.walletConn = none ∧ c.connectedAt = none ∧ c.pendingRequests = ∅
  pending : c.state = .pendingAccept → c.walletPeerId ≠ none ∧ c.connectedAt = none ∧ c.pendingRequests = ∅
  connected : c.state = .connected → c.walletPeerId ≠ none ∧ c.connectedAt ≠ none

/-- Every channel is stored under its id, and is valid. -/
def ChannelStore.Valid (s : ChannelStore) : Prop := s.Every Channel.Valid

/-- Only requests and responses touch the set, and both need a connected channel. -/
theorem track_of_not_connected {state : ChannelState} {type : MessageType} {role : Role} (pending : Finset String)
    (reqId : Option String) (allowed : state.allowsMessage type role = true) (unconnected : state ≠ .connected) :
    track pending type reqId = pending := by
  cases type with
  | req => cases state <;> cases role <;> first | exact absurd rfl unconnected | cases allowed
  | res => cases state <;> cases role <;> first | exact absurd rfl unconnected | cases allowed
  | _ => rfl

/-- The handlers keep channels valid. -/
theorem valid_rules (limit : Nat) : ChannelRules limit Channel.Valid where
  new _ _ _ _ := ⟨nofun, fun _ => ⟨rfl, rfl, rfl, rfl⟩, nofun, nofun⟩
  joined _ _ _ _ valid waiting := by
    obtain ⟨-, -, connectedAt, pending⟩ := valid.waiting waiting
    exact ⟨nofun, nofun, fun _ => ⟨nofun, connectedAt, pending⟩, nofun⟩
  connected _ valid pending := ⟨nofun, nofun, nofun, fun _ => ⟨(valid.pending pending).1, nofun⟩⟩
  dropped role valid := by
    cases role with
    | dapp => exact ⟨valid.open_, valid.waiting, valid.pending, valid.connected⟩
    | wallet =>
      refine ⟨valid.open_, fun waiting => ?_, valid.pending, valid.connected⟩
      obtain ⟨peer, -, connectedAt, pending⟩ := valid.waiting waiting
      exact ⟨peer, rfl, connectedAt, pending⟩
  tracked {c type role reqId} valid allowed _ := by
    have unchanged : c.state ≠ .connected → track c.pendingRequests type reqId = c.pendingRequests :=
      track_of_not_connected c.pendingRequests reqId allowed
    refine ⟨valid.open_, fun waiting => ?_, fun pending => ?_, valid.connected⟩
    · obtain ⟨peer, conn, connectedAt, pending⟩ := valid.waiting waiting
      refine ⟨peer, conn, connectedAt, ?_⟩
      change track c.pendingRequests type reqId = ∅
      rw [unchanged (by rw [show c.state = _ from waiting]; decide), pending]
    · obtain ⟨peer, connectedAt, none⟩ := valid.pending pending
      refine ⟨peer, connectedAt, ?_⟩
      change track c.pendingRequests type reqId = ∅
      rw [unchanged (by rw [show c.state = _ from pending]; decide), none]

theorem valid_restores : Restores Channel.Valid := by
  intro c d saved now valid restored
  unfold ChannelSnapshot.restore at restored
  obtain ⟨createdAt, -, restored⟩ := ok_of_bind restored
  obtain ⟨connectedAt, ages, restored⟩ := ok_of_bind restored
  cases restored
  have connected : connectedAt = none ↔ c.connectedAt = none := by
    unfold Channel.snapshot at ages
    cases before : c.connectedAt with
    | none =>
      rw [before] at ages
      cases ages
      simp
    | some time =>
      rw [before] at ages
      dsimp only [Option.map_some, restoreAge] at ages
      unfold instantBefore at ages
      split at ages
      · cases ages
        simp
      · cases ages
  refine ⟨valid.open_, fun waiting => ?_, fun pending => ?_, fun state => ?_⟩
  · obtain ⟨peer, -, before, none⟩ := valid.waiting waiting
    exact ⟨peer, rfl, connected.mpr before, none⟩
  · obtain ⟨peer, before, none⟩ := valid.pending pending
    exact ⟨peer, connected.mpr before, none⟩
  · obtain ⟨peer, before⟩ := valid.connected state
    exact ⟨peer, fun absent => before (connected.mp absent)⟩

theorem fresh_every (P : Channel → Prop) (pendingRequestLimit unpairedTtlSecs connectedTtlSecs : Nat) :
    (World.fresh τ pendingRequestLimit unpairedTtlSecs connectedTtlSecs).toChannelStore.Every P := by
  intro key c found
  cases found

/-- In every shard that can be reached the fields of each channel fit together. -/
theorem run_valid (pendingRequestLimit unpairedTtlSecs connectedTtlSecs : Nat) (events : List (StoreEvent τ)) :
    (run storeStep (World.fresh τ pendingRequestLimit unpairedTtlSecs connectedTtlSecs) events).toChannelStore.Valid := by
  have admitted : Along storeStep (fun (_ : World τ) (_ : StoreEvent τ) => True)
      (World.fresh τ pendingRequestLimit unpairedTtlSecs connectedTtlSecs) events :=
    along_of_forall fun _ _ _ => trivial
  exact invariant (I := fun s => s.toChannelStore.Valid)
    (fun _ event _ valid => storeStep_every event (valid_rules _) valid_restores valid) admitted (fresh_every _ _ _ _)

/-! ### The limit of pending requests -/

/-- No channel has more pending requests than this. -/
def ChannelStore.Limited (limit : Nat) (s : ChannelStore) : Prop := s.Every fun c => c.pendingRequests.card ≤ limit

theorem track_card_le {pending : Finset String} {type : MessageType} {reqId : Option String} {limit : Nat}
    (limited : pending.card ≤ limit) (below : type = .req → reqId ≠ none → pending.card < limit) :
    (track pending type reqId).card ≤ limit := by
  unfold track
  split
  · exact (Finset.card_insert_le _ _).trans (below rfl nofun)
  · exact (Finset.card_erase_le).trans limited
  · exact limited

theorem limited_rules {limit bound : Nat} (below : limit ≤ bound) :
    ChannelRules limit fun c => c.pendingRequests.card ≤ bound where
  new _ _ _ _ := Nat.zero_le _
  joined _ _ _ _ limited _ := limited
  connected _ limited _ := limited
  dropped role limited := by cases role <;> exact limited
  tracked limited _ room := track_card_le limited fun req id => (room req id).trans_le below

theorem limited_restores (bound : Nat) : Restores fun c => c.pendingRequests.card ≤ bound := by
  intro c d saved now limited restored
  unfold ChannelSnapshot.restore at restored
  obtain ⟨createdAt, -, restored⟩ := ok_of_bind restored
  obtain ⟨connectedAt, -, restored⟩ := ok_of_bind restored
  cases restored
  exact limited

theorem removing_limit (s : World τ) (ch : String) : (s.removing ch).pendingRequestLimit = s.pendingRequestLimit := by
  unfold World.removing
  split <;> rfl

theorem sending_limit (s : World τ) (id : Nat) (ch : String) (f : Frame τ) :
    (s.sending id ch f).pendingRequestLimit = s.pendingRequestLimit :=
  congrArg ChannelStore.pendingRequestLimit (sending_toChannelStore s id ch f)

theorem sendingTo_limit (s : World τ) (id : Option Nat) (ch : String) (f : Frame τ) :
    (s.sendingTo id ch f).pendingRequestLimit = s.pendingRequestLimit :=
  congrArg ChannelStore.pendingRequestLimit (sendingTo_toChannelStore s id ch f)

/-- Messages leave the limit alone. -/
theorem Handled.limit {s t : World τ} {connId sender : Nat} {raw : τ} {atCapacity : Bool} {msg : ClientMessage}
    {r : ProcessResult τ} (handled : Handled s connId sender raw atCapacity msg r t) :
    t.pendingRequestLimit = s.pendingRequestLimit := by
  cases handled with
  | refused reason target => rfl
  | evicted found replaceable full => exact removing_limit s _
  | created absent free => exact sending_limit _ _ _ _
  | replaced found replaceable free => exact (sending_limit _ _ _ _).trans (removing_limit s _)
  | joined found waiting => exact (sending_limit _ _ _ _).trans (sendingTo_limit _ _ _ _)
  | accepted found dapp pending wallet => exact (sendingTo_limit _ _ _ _).trans (sendingTo_limit _ _ _ _)
  | forwarded data found sent allowed limit =>
    unfold World.forwarding
    dsimp only
    split
    · rfl
    · split
      · exact sending_limit _ _ _ _
      · exact sending_limit _ _ _ _
  | ended found sent => exact (removing_limit _ _).trans (sendingTo_limit _ _ _ _)
  | gone absent => rfl

theorem foldl_notifying_limit (entries : List (String × Channel)) (s : World τ) :
    (entries.foldl (fun s entry => s.notifying entry.2) s).pendingRequestLimit = s.pendingRequestLimit :=
  congrArg ChannelStore.pendingRequestLimit (foldl_notifying_toChannelStore entries s)

theorem foldl_removing_limit (entries : List (String × Channel)) (s : World τ) :
    (entries.foldl (fun s entry => s.removing entry.1) s).pendingRequestLimit = s.pendingRequestLimit := by
  induction entries generalizing s with
  | nil => rfl
  | cons entry rest ih => exact (ih _).trans (removing_limit s entry.1)

/-- Only a restart changes the limit. -/
theorem storeStep_limit {s : World τ} {event : StoreEvent τ} (running : ∀ config now, event ≠ .restart config now) :
    (storeStep s event).pendingRequestLimit = s.pendingRequestLimit := by
  cases event with
  | message connId sender raw msg atCapacity =>
    obtain ⟨r, t, run, handled⟩ := processMessage_handled connId sender raw msg atCapacity s
    rw [storeStep, after_of_ok run]
    exact handled.limit
  | disconnect ch connId =>
    rw [storeStep, after_disconnectPeer]
    unfold World.parting
    split <;> rfl
  | cleanup =>
    rw [storeStep, after_of_ok (cleanupExpired_apply s)]
    exact (foldl_removing_limit _ _).trans (foldl_notifying_limit _ _)
  | restart config now => exact absurd rfl (running config now)
  | environment queues clock => rfl

end WalletPair.Relay.Server
