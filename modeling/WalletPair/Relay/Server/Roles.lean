import WalletPair.Relay.Server.Registration

/-! Who may speak for a role. The handlers go by the peer id in a message and never ask on
which connection it came, so a peer that knows the other's id can speak in its name. -/

namespace WalletPair.Relay.Server
open WalletPair.Lib WalletPair.Lib.Program WalletPair.Lib.Run

variable {τ : Type}

/-- The messages that are ascribed to a role. -/
def SpeaksForRole : ClientMessage → Prop
  | .req _ _ _ => True
  | .res _ _ _ => True
  | .evt _ _ _ => True
  | .close _ _ _ => True
  | _ => False

/-- A channel becomes connected only by an accept on the dApp's connection, and a request,
response, event or close has an effect only on the connection of the role it names. -/
structure RolesSeparated (read : τ → Except CloseReason ClientMessage) (s : AppState τ) (event : Event τ) : Prop where
  connects : ∀ ch d, (step read s event).channel ch = some d → d.state = .connected →
    (∀ c, s.channel ch = some c → c.state ≠ .connected) →
    ∃ k raw peer target atCapacity c, event = .process k ∧
      (s.tasks k).stage = .checked raw (.accept ch peer target) atCapacity ∧ s.channel ch = some c ∧ c.Holds .dapp k
  ascribed : ∀ k raw msg atCapacity, event = .process k → (s.tasks k).stage = .checked raw msg atCapacity →
    SpeaksForRole msg →
    (step read s event).shards ≠ s.shards ∨ (step read s event).queues ≠ s.queues ∨ (step read s event).trace ≠ s.trace →
    ∃ c role, s.channel msg.channelId = some c ∧ c.roleOf msg.fromPeer = some role ∧ c.Holds role k

/-- The channel lets a message of the role pass, and it leaves a trace: the other peer is
there, or the set of requests changes. -/
def Channel.Relays (c : Channel) (limit : Nat) (role : Role) (type : MessageType) (reqId : Option String) : Prop :=
  c.state.allowsMessage type role = true ∧ (type = .req → reqId ≠ none → c.pendingRequests.card < limit) ∧
    (c.otherSender role ≠ none ∨ track c.pendingRequests type reqId ≠ c.pendingRequests)

/-- The state of the channel asks for what the message does. -/
def Channel.ActsOn (c : Channel) (limit : Nat) (role : Role) : ClientMessage → Prop
  | .accept _ _ target => role = .dapp ∧ c.state = .pendingAccept ∧ c.walletPeerId = some target
  | .req _ _ id => c.Relays limit role .req (some id)
  | .res _ _ id => c.Relays limit role .res (some id)
  | .evt _ _ id => c.Relays limit role .evt (some id)
  | .close _ _ _ => True
  | _ => False

/-- A message that the channel acts on names one of its peers and comes on a connection
that is not registered for that peer. -/
def Imposture (s : AppState τ) (event : Event τ) : Prop :=
  ∃ k raw msg atCapacity c role, event = .process k ∧ (s.tasks k).stage = .checked raw msg atCapacity ∧
    s.channel msg.channelId = some c ∧ c.roleOf msg.fromPeer = some role ∧
    c.ActsOn s.config.pendingRequestLimit role msg ∧ ¬ c.Holds role k

section Steps
variable {read : τ → Except CloseReason ClientMessage} {s : AppState τ}

theorem roleOf_dapp {c : Channel} {peer : String} (dapp : c.isDapp peer = true) : c.roleOf peer = some .dapp := by
  unfold Channel.roleOf
  rw [if_pos dapp]

theorem disconnectByConnId_state (c : Channel) (connId : Nat) : (c.disconnectByConnId connId).1.state = c.state := by
  rcases disconnectByConnId_cases c connId with same | ⟨role, same⟩
  · rw [same]
  · rw [same]
    cases role <;> rfl

/-- Only an accept connects a channel. -/
theorem Evolves.connects {w : World τ} {connId sender : Nat} {msg : ClientMessage} {old new : Option Channel}
    (evolves : Evolves w connId sender msg old new) {d : Channel} (after : new = some d) (connected : d.state = .connected)
    (before : ∀ c, old = some c → c.state ≠ .connected) :
    ∃ ch peer target c, msg = .accept ch peer target ∧ old = some c ∧ c.isDapp peer = true ∧ c.state = .pendingAccept ∧
      c.walletPeerId = some target := by
  cases evolves with
  | kept => exact absurd connected (before d after)
  | vacated replaceable => cases after
  | opened free =>
    cases after
    cases connected
  | joined waiting =>
    cases after
    cases connected
  | accepted dapp pending wallet => exact ⟨_, _, _, _, rfl, rfl, dapp, pending, wallet⟩
  | passed data sent allowed =>
    rename_i type reqId c role
    cases after
    have same : (c.tracking type reqId).state = c.state := rfl
    rw [same] at connected
    exact absurd connected (before _ rfl)
  | cut data sent allowed other lost =>
    rename_i type reqId c role id
    cases after
    have same : ((c.tracking type reqId).dropConn role.other).state = c.state := by cases role <;> rfl
    rw [same] at connected
    exact absurd connected (before _ rfl)
  | ended sent => cases after

theorem step_connects {event : Event τ} (honest : ¬ Imposture s event) {ch : String} {d : Channel}
    (after : (step read s event).channel ch = some d) (connected : d.state = .connected)
    (before : ∀ c, s.channel ch = some c → c.state ≠ .connected) :
    ∃ k raw peer target atCapacity c, event = .process k ∧
      (s.tasks k).stage = .checked raw (.accept ch peer target) atCapacity ∧ s.channel ch = some c ∧ c.Holds .dapp k := by
  have moves := step_moves read s event (shardIndex ch) ch
  change Moves s event (shardIndex ch) ch (s.channel ch) ((step read s event).channel ch) at moves
  rw [after] at moves
  generalize found : s.channel ch = old at moves before
  generalize placed : shardIndex ch = i at moves
  cases moves with
  | still => exact absurd connected (before d rfl)
  | processed checked evolves =>
    rename_i k raw msg atCapacity
    obtain ⟨ch, peer, target, c, rfl, rfl, dapp, pending, wallet⟩ := evolves.connects rfl connected before
    refine ⟨k, raw, peer, target, atCapacity, c, rfl, checked, rfl, ?_⟩
    by_contra other
    exact honest ⟨k, raw, _, atCapacity, c, .dapp, rfl, checked, found, roleOf_dapp dapp, ⟨rfl, pending, wallet⟩, other⟩
  | parted leaving bound =>
    rw [disconnectByConnId_state] at connected
    exact absurd connected (before _ rfl)

/-- The state after a message, from what processing it gives. -/
theorem step_process {k : Nat} {raw : τ} {msg : ClientMessage} {atCapacity : Bool} {r : ProcessResult τ} {w : World τ}
    (checked : (s.tasks k).stage = .checked raw msg atCapacity)
    (processed : processMessage k k raw msg atCapacity (s.world (shardIndex msg.channelId)) = .ok r w) :
    step read s (.process k) = (s.absorb (shardIndex msg.channelId) w).moveTo k (.processed r) := by
  simp only [step, checked]
  unfold AppState.process
  dsimp only
  rw [processed]

/-- A message that finds nobody on the other side and changes no set does nothing. -/
theorem forwarding_idle {w : World τ} {c : Channel} {raw : τ} {ch : String} {type : MessageType} {reqId : Option String}
    {role : Role} (found : w.channels.get ch = some c) (alone : c.otherSender role = none)
    (same : track c.pendingRequests type reqId = c.pendingRequests) : w.forwarding c raw ch type reqId role = w := by
  have tracked : c.tracking type reqId = c := by
    unfold Channel.tracking
    rw [same]
  unfold World.forwarding World.tracking
  rw [alone, tracked]
  dsimp only
  rw [OrderedMap.set_same found]

theorem dataOf_actsOn {msg : ClientMessage} {type : MessageType} {reqId : Option String} {c : Channel} {limit : Nat}
    {role : Role} (speaks : SpeaksForRole msg) (data : dataOf msg = some (type, reqId)) :
    c.ActsOn limit role msg ↔ c.Relays limit role type reqId := by
  cases msg with
  | req ch peer id =>
    cases data
    exact Iff.rfl
  | res ch peer id =>
    cases data
    exact Iff.rfl
  | evt ch peer id =>
    cases data
    exact Iff.rfl
  | close ch peer reason => cases data
  | _ => exact speaks.elim

theorem step_ascribed {event : Event τ} (honest : ¬ Imposture s event) {k : Nat} {raw : τ} {msg : ClientMessage}
    {atCapacity : Bool} (processes : event = .process k) (checked : (s.tasks k).stage = .checked raw msg atCapacity)
    (speaks : SpeaksForRole msg)
    (effect : (step read s event).shards ≠ s.shards ∨ (step read s event).queues ≠ s.queues ∨
      (step read s event).trace ≠ s.trace) :
    ∃ c role, s.channel msg.channelId = some c ∧ c.roleOf msg.fromPeer = some role ∧ c.Holds role k := by
  subst processes
  obtain ⟨r, w, processed, handled⟩ :=
    processMessage_handled k k raw msg atCapacity (s.world (shardIndex msg.channelId))
  rw [step_process checked processed] at effect
  have changed : w ≠ s.world (shardIndex msg.channelId) := by
    rintro rfl
    rcases effect with shards | queues | trace
    · exact shards (Function.update_eq_self _ _)
    · exact queues rfl
    · exact trace rfl
  cases handled with
  | refused reason target => exact absurd rfl changed
  | gone absent => exact absurd rfl changed
  | forwarded data found sent allowed limit =>
    rename_i type reqId c role
    refine ⟨c, role, found, sent, ?_⟩
    have noticed : c.otherSender role ≠ none ∨ track c.pendingRequests type reqId ≠ c.pendingRequests := by
      by_contra unnoticed
      push Not at unnoticed
      exact changed (forwarding_idle found unnoticed.1 unnoticed.2)
    by_contra other
    exact honest ⟨k, raw, msg, atCapacity, c, role, rfl, checked, found, sent,
      (dataOf_actsOn speaks data).mpr ⟨allowed, limit, noticed⟩, other⟩
  | ended found sent =>
    rename_i c role
    refine ⟨c, role, found, sent, ?_⟩
    by_contra other
    exact honest ⟨k, raw, _, atCapacity, c, role, rfl, checked, found, sent, trivial, other⟩
  | evicted found replaceable full => exact speaks.elim
  | created absent free => exact speaks.elim
  | replaced found replaceable free => exact speaks.elim
  | joined found waiting => exact speaks.elim
  | accepted found dapp pending wallet => exact speaks.elim

/-! ### An imposture has its effect -/

/-- A message that passes changes the channel or is on record. -/
theorem forwarding_noticed {w : World τ} {c : Channel} {raw : τ} {ch : String} {type : MessageType}
    {reqId : Option String} {role : Role}
    (noticed : c.otherSender role ≠ none ∨ track c.pendingRequests type reqId ≠ c.pendingRequests) :
    (w.forwarding c raw ch type reqId role).channels.get ch ≠ some c ∨
      (w.forwarding c raw ch type reqId role).trace ≠ w.trace := by
  unfold World.forwarding
  dsimp only
  cases other : c.otherSender role with
  | none =>
    left
    rw [other] at noticed
    have differs := noticed.resolve_left (fun contradiction => contradiction rfl)
    change (w.channels.set ch (c.tracking type reqId)).get ch ≠ some c
    rw [OrderedMap.get_set_self]
    exact fun same => differs (congrArg Channel.pendingRequests (Option.some.inj same))
  | some id =>
    dsimp only
    by_cases reached : (w.tracking c ch type reqId).sends id = true
    · right
      rw [if_pos reached, sending_trace reached]
      exact fun same => List.cons_ne_nil _ _ (List.append_right_eq_self.mp same)
    · left
      rw [if_neg reached]
      unfold World.cutting
      rw [OrderedMap.get_set_self]
      intro same
      have gone : ((c.tracking type reqId).dropConn role.other).conn role.other = none := by cases role <;> rfl
      rw [Option.some.inj same] at gone
      unfold Channel.otherSender at other
      rw [gone] at other
      cases other

theorem not_separated_of_imposture {event : Event τ} (imposture : Imposture s event) : ¬ RolesSeparated read s event := by
  obtain ⟨k, raw, msg, atCapacity, c, role, rfl, checked, found, sent, acts, other⟩ := imposture
  intro separated
  have ascribed : SpeaksForRole msg →
      (step read s (.process k)).shards ≠ s.shards ∨ (step read s (.process k)).queues ≠ s.queues ∨
        (step read s (.process k)).trace ≠ s.trace → False := by
    intro speaks effect
    obtain ⟨c', role', found', sent', holds⟩ := separated.ascribed k raw msg atCapacity rfl checked speaks effect
    rw [found] at found'
    cases found'
    rw [sent] at sent'
    cases sent'
    exact other holds
  have differs : ∀ {r w}, processMessage k k raw msg atCapacity (s.world (shardIndex msg.channelId)) = .ok r w →
      SpeaksForRole msg → w.channels.get msg.channelId ≠ some c ∨ w.trace ≠ s.trace → False := by
    intro r w processed speaks effect
    apply ascribed speaks
    rw [step_process checked processed]
    rcases effect with channel | trace
    · left
      intro same
      apply channel
      have shard := congrFun same (shardIndex msg.channelId)
      change (s.absorb (shardIndex msg.channelId) w).shards (shardIndex msg.channelId) = _ at shard
      rw [absorb_shard_self] at shard
      rw [shard]
      exact found
    · exact Or.inr (Or.inr trace)
  have passes : ∀ {type reqId}, SpeaksForRole msg → dataOf msg = some (type, reqId) →
      processMessage k k raw msg atCapacity (s.world (shardIndex msg.channelId)) =
        handleData raw msg.channelId msg.fromPeer type reqId (s.world (shardIndex msg.channelId)) → False := by
    intro type reqId speaks data handles
    obtain ⟨allowed, limit, noticed⟩ := (dataOf_actsOn speaks data).mp acts
    have granted : handleData raw msg.channelId msg.fromPeer type reqId (s.world (shardIndex msg.channelId)) =
        .ok .ok ((s.world (shardIndex msg.channelId)).forwarding c raw msg.channelId type reqId role) :=
      data_granted found sent allowed limit
    exact differs (handles.trans granted) speaks (forwarding_noticed noticed)
  cases msg with
  | accept ch peer target =>
    obtain ⟨rfl, pending, wallet⟩ := acts
    have dapp : c.isDapp peer = true := by
      by_contra stranger
      unfold Channel.roleOf at sent
      rw [if_neg (show ¬ c.isDapp (ClientMessage.accept ch peer target).fromPeer = true from stranger)] at sent
      split at sent <;> cases sent
    have processed : processMessage k k raw (.accept ch peer target) atCapacity (s.world (shardIndex ch)) =
        .ok .ok ((s.world (shardIndex ch)).accepting c ch peer target) := accept_granted found dapp pending wallet
    have after : (step read s (.process k)).channel ch = some (c.connectedFrom s.clock.instant) := by
      rw [step_process checked processed]
      change ((s.absorb (shardIndex ch) _).shards (shardIndex ch)).get ch = _
      rw [absorb_shard_self]
      unfold World.accepting
      rw [sendingTo_toChannelStore, sendingTo_toChannelStore]
      exact OrderedMap.get_set_self _ _ _
    have before : ∀ c', s.channel ch = some c' → c'.state ≠ .connected := by
      intro c' found'
      have same : some c = some c' := found.symm.trans found'
      cases same
      rw [pending]
      exact nofun
    obtain ⟨k', -, -, -, -, c', same, -, found', holds⟩ := separated.connects ch _ after rfl before
    cases same
    have same : some c = some c' := found.symm.trans found'
    cases same
    exact other holds
  | close ch peer reason =>
    have processed : processMessage k k raw (.close ch peer reason) atCapacity (s.world (shardIndex ch)) =
        .ok .okRemoved ((s.world (shardIndex ch)).ending c raw ch role) := close_granted found sent
    apply differs processed trivial
    left
    unfold World.ending
    rw [show (ClientMessage.close ch peer reason).channelId = ch from rfl, get_removing_self]
    exact nofun
  | req ch peer id => exact passes trivial rfl rfl
  | res ch peer id => exact passes trivial rfl rfl
  | evt ch peer id => exact passes trivial rfl rfl
  | _ => exact acts

theorem step_rolesSeparated_iff {event : Event τ} : RolesSeparated read s event ↔ ¬ Imposture s event := by
  constructor
  · exact fun separated imposture => not_separated_of_imposture imposture separated
  · intro honest
    exact ⟨fun _ _ after connected before => step_connects honest after connected before,
      fun _ _ _ _ processes checked speaks effect => step_ascribed honest processes checked speaks effect⟩

end Steps

/-- The roles are kept apart along exactly the runs in which no message that a channel
acts on comes on a connection that is not registered for the peer it names. -/
theorem roles_separated_iff (read : τ → Except CloseReason ClientMessage) (config : Config) (clock : Clock)
    (saved : Option Saved) (events : List (Event τ)) :
    Along (step read) (RolesSeparated read) (.boot τ config clock saved) events ↔
      Along (step read) (fun s event => ¬ Imposture s event) (.boot τ config clock saved) events :=
  along_congr fun _ _ => step_rolesSeparated_iff

namespace Sample

/-- The wallet has joined on the second connection and sends the accept itself. -/
def selfAccept : List (Event ClientMessage) :=
  ([.connect, .connect] : List (Event ClientMessage)) ++ speaks 1 (.create channel dapp) ++
    speaks 2 (.join channel wallet true) ++
    ([.receive 2 (.text (.accept channel dapp wallet)) false] : List (Event ClientMessage))

set_option maxRecDepth 4000 in
theorem selfAccept_channel : (run (step read) start selfAccept).channel channel =
    some ⟨channel, .pendingAccept, 0, none, dapp, some ⟨1, 1⟩, some wallet, some ⟨2, 2⟩, true, ∅⟩ := by
  decide +kernel

set_option maxRecDepth 4000 in
theorem selfAccept_task : (run (step read) start selfAccept).tasks 2 =
    ⟨some channel, .checked (.accept channel dapp wallet) (.accept channel dapp wallet) false⟩ := by
  rfl

end Sample

/-- A wallet that names the dApp in its accept connects the channel. -/
theorem wallet_accepts_itself :
    ¬ ∀ (τ : Type) (read : τ → Except CloseReason ClientMessage) (config : Config) (clock : Clock) (saved : Option Saved)
      (events : List (Event τ)), Along (step read) (RolesSeparated read) (.boot τ config clock saved) events := by
  intro all
  have separated := along_last (all ClientMessage Sample.read Sample.config {} none (Sample.selfAccept ++ [.process 2]))
  apply step_rolesSeparated_iff.mp separated
  refine ⟨2, _, _, false, _, .dapp, rfl, congrArg Task.stage Sample.selfAccept_task, Sample.selfAccept_channel, ?_,
    ⟨rfl, rfl, rfl⟩, ?_⟩
  · exact roleOf_dapp rfl
  · rintro ⟨conn, found, same⟩
    cases found
    cases same

end WalletPair.Relay.Server
