import WalletPair.Relay.Server.Traffic

/-! Frames that are lost. Only a data frame that meets a full queue costs its peer the
connection; a ready, a join or a close that is lost leaves the peer registered, or free
to register again, and what comes later is put behind the gap. -/

namespace WalletPair.Relay.Server
open WalletPair.Lib WalletPair.Lib.Program WalletPair.Lib.Run

variable {τ : Type}

/-- After a frame of a channel was lost on a queue, only terminates of that channel follow. -/
def NoGap (trace : List (Obs τ)) : Prop :=
  ∀ earlier later q ch f, trace = earlier ++ .dropped q ch f :: later → Frame.isTerminate f = false →
    ∀ g, .enqueued q ch g ∈ later → Frame.isTerminate g = true

/-- No frame of the channel was lost on the queue. -/
def Whole (trace : List (Obs τ)) (q : Nat) (ch : String) : Prop :=
  ∀ f, .dropped q ch f ∈ trace → Frame.isTerminate f = true

/-- What is sent goes to whole queues, and what is lost is lost alone. -/
theorem NoGap.append {trace added : List (Obs τ)} (sound : NoGap trace)
    (whole : ∀ q ch g, .enqueued q ch g ∈ added → Frame.isTerminate g = true ∨ Whole trace q ch)
    (alone : (∀ q ch f, .dropped q ch f ∈ added → Frame.isTerminate f = true) ∨ ∃ o, added = [o]) :
    NoGap (trace ++ added) := by
  intro earlier later q ch f split real g sent
  rcases List.append_eq_append_iff.mp split with ⟨between, front, back⟩ | ⟨between, front, back⟩
  · -- the frame was lost in what was added
    have lost : .dropped q ch f ∈ added := by
      rw [back]
      simp
    rcases alone with none | ⟨o, single⟩
    · rw [none q ch f lost] at real
      cases real
    · rw [single] at back
      cases between with
      | nil =>
        rw [List.nil_append, List.cons.injEq] at back
        rw [← back.2] at sent
        cases sent
      | cons x rest =>
        have lengths := congrArg List.length back
        simp only [List.length_cons, List.length_append, List.length_nil] at lengths
        omega
  · cases between with
    | nil =>
      rw [List.nil_append] at back
      have lost : .dropped q ch f ∈ added := by
        rw [← back]
        exact List.mem_cons_self
      rcases alone with none | ⟨o, single⟩
      · rw [none q ch f lost] at real
        cases real
      · rw [single, List.cons.injEq] at back
        rw [back.2] at sent
        cases sent
    | cons x rest =>
      -- the frame was lost before
      rw [List.cons_append, List.cons.injEq] at back
      obtain ⟨rfl, back⟩ := back
      rw [back] at sent
      rcases List.mem_append.mp sent with before | now
      · exact sound earlier rest q ch f front real g before
      · rcases whole q ch g now with terminate | whole
        · exact terminate
        · have lost : .dropped q ch f ∈ trace := by
            rw [front]
            simp
          rw [whole f lost] at real
          cases real

/-! ### One message -/

/-- The queue is not full: it takes a frame, or nobody reads it any more. -/
def World.unfull (s : World τ) (id : Nat) : Prop := (s.queues id).isClosed = true ∨ (s.queues id).hasRoom = true

/-- The message registers the connection it comes on. -/
def Registering : ClientMessage → Prop
  | .create _ _ => True
  | .join _ _ _ => True
  | _ => False

/-- The ready and join frames that a message causes find room. -/
structure Accommodates (s : World τ) (sender : Nat) (msg : ClientMessage) (atCapacity : Bool) : Prop where
  create : ∀ ch peer, msg = .create ch peer → atCapacity = false → s.unfull sender
  join : ∀ ch peer flag c, msg = .join ch peer flag → s.channels.get ch = some c → c.state = .waitingForWallet →
    s.unfull sender ∧ ∀ conn, c.dappConn = some conn → s.unfull conn.sender ∧ conn.sender ≠ sender
  accept : ∀ ch peer target c, msg = .accept ch peer target → s.channels.get ch = some c → c.isDapp peer = true →
    c.state = .pendingAccept → c.walletPeerId = some target →
    ∀ role conn, c.conn role = some conn → s.unfull conn.sender

/-- A frame goes to the connection that the message registers, or to a peer of the channel. -/
def Entitled (s : World τ) (sender : Nat) (msg : ClientMessage) : Obs τ → Prop
  | .joined _ _ _ => True
  | .enqueued q ch _ => ch = msg.channelId ∧
    (q = sender ∧ Registering msg ∨ ∃ c, s.channels.get msg.channelId = some c ∧ c.Registers q)
  | .dropped _ _ _ => False

/-- What a message adds to the record: frames for those who are entitled to them, or one
that is lost on a queue that is then not registered. -/
inductive Sends (s t : World τ) (sender : Nat) (msg : ClientMessage) : Prop where
  | delivered (added : Adds (Entitled s sender msg) s.trace t.trace)
  | lost {q : Nat} {f : Frame τ} (grown : t.trace = s.trace ++ [.dropped q msg.channelId f])
    (gone : ∀ c, t.channels.get msg.channelId = some c → ¬ c.Registers q)

section Message
variable {s t : World τ} {connId sender : Nat} {raw : τ} {atCapacity : Bool} {msg : ClientMessage} {r : ProcessResult τ}

theorem sending_unfull {id : Nat} {ch : String} {frame : Frame τ} (room : s.unfull id) :
    Adds (fun o => o = .enqueued id ch frame) s.trace (s.sending id ch frame).trace := by
  unfold World.sending
  dsimp only
  rcases room with closed | room
  · rw [if_pos closed]
    exact .refl _
  · split
    · exact .refl _
    · exact .single rfl

theorem sendingTo_unfull {id : Option Nat} {ch : String} {frame : Frame τ} (room : ∀ q, id = some q → s.unfull q) :
    Adds (fun o => ∃ q, id = some q ∧ o = .enqueued q ch frame) s.trace (s.sendingTo id ch frame).trace := by
  cases id with
  | none => exact .refl _
  | some q =>
    exact (sending_unfull (room q rfl)).imp fun o same => ⟨q, rfl, same⟩

theorem Sends.nothing (same : t.trace = s.trace) : Sends s t sender msg := by
  apply Sends.delivered
  rw [same]
  exact .refl _

theorem unfull_congr {id : Nat} (same : t.queues id = s.queues id) (room : s.unfull id) : t.unfull id := by
  unfold World.unfull
  rw [same]
  exact room

/-- A frame that is sent to the other peer, and what becomes of the channel if it is lost. -/
theorem sending_lost {id : Nat} (ch : String) (frame : Frame τ) (lost : s.sends id = false) :
    (s.sending id ch frame).trace = s.trace ∨ (s.sending id ch frame).trace = s.trace ++ [.dropped id ch frame] := by
  unfold World.sends at lost
  unfold World.sending
  dsimp only
  split
  · exact Or.inl rfl
  · rename_i open_
    rw [(Bool.not_eq_true _).mp open_] at lost
    rw [if_neg (by rw [show (s.queues id).hasRoom = false from lost]; decide)]
    exact Or.inr rfl

theorem forwarding_sends {c : Channel} {ch : String} {type : MessageType} {reqId : Option String} {role : Role}
    (own : msg.channelId = ch) (found : s.channels.get ch = some c)
    (apart : ∀ a b, c.dappConn = some a → c.walletConn = some b → a.sender ≠ b.sender) :
    Sends s (s.forwarding c raw ch type reqId role) sender msg := by
  subst own
  unfold World.forwarding
  dsimp only
  cases other : c.otherSender role with
  | none => exact .nothing rfl
  | some id =>
    have registered : c.Registers id := registers_of_conn other
    dsimp only
    split
    · rename_i reached
      apply Sends.delivered
      rw [sending_trace reached]
      exact .single ⟨rfl, Or.inr ⟨c, found, registered⟩⟩
    · rename_i lost
      rcases sending_lost msg.channelId (.forwarded raw) ((Bool.not_eq_true _).mp lost) with same | same
      · exact .nothing same
      · refine .lost (s := s) same ?_
        -- the queue belongs to one peer, and that peer is cut off
        intro d after
        unfold World.cutting at after
        rw [OrderedMap.get_set_self] at after
        cases after
        obtain ⟨conn, peer, same⟩ := Option.map_eq_some_iff.mp other
        rintro ⟨side, left, still, queue⟩
        cases role with
        | dapp =>
          cases side with
          | dapp => exact apart left conn still peer (queue.trans same.symm)
          | wallet => cases still
        | wallet =>
          cases side with
          | dapp => cases still
          | wallet => exact apart conn left peer still (same.trans queue.symm)

theorem ending_sends {c : Channel} {ch : String} {role : Role} (own : msg.channelId = ch)
    (found : s.channels.get ch = some c) : Sends s (s.ending c raw ch role) sender msg := by
  subst own
  have trace : (s.ending c raw msg.channelId role).trace =
      (s.sendingTo (c.otherSender role) msg.channelId (.forwarded raw)).trace := removing_trace
  have gone : (s.ending c raw msg.channelId role).channels.get msg.channelId = none := get_removing_self _ _
  cases other : c.otherSender role with
  | none =>
    rw [other] at trace
    exact .nothing trace
  | some id =>
    rw [other] at trace
    change _ = (s.sending id msg.channelId (.forwarded raw)).trace at trace
    by_cases reached : s.sends id = true
    · apply Sends.delivered
      rw [trace, sending_trace reached]
      exact .single ⟨rfl, Or.inr ⟨c, found, registers_of_conn other⟩⟩
    · rcases sending_lost msg.channelId (.forwarded raw) ((Bool.not_eq_true _).mp reached) with same | same
      · exact .nothing (trace.trans same)
      · apply Sends.lost (trace.trans same)
        intro d after
        rw [gone] at after
        cases after

theorem creating_sends {ch peer : String} (own : msg.channelId = ch) (registers : Registering msg) {w : World τ}
    (trace : w.trace = s.trace) (room : w.unfull sender) : Sends s (w.creating connId sender ch peer) sender msg := by
  have told : Adds (fun o => ∃ frame, o = .enqueued sender ch frame) w.trace (w.creating connId sender ch peer).trace :=
    (sending_unfull (s := { w with
      channels := w.channels.set ch (Channel.new ch peer ⟨sender, connId⟩ w.clock.instant)
      activeChannels := w.activeChannels + 1 }) room).imp fun o same => ⟨_, same⟩
  rw [trace] at told
  apply Sends.delivered
  apply told.imp
  rintro o ⟨frame, rfl⟩
  exact ⟨own.symm, Or.inl ⟨rfl, registers⟩⟩

theorem joining_sends {c : Channel} {ch peer : String} {flag : Bool} (own : msg.channelId = ch)
    (registers : Registering msg) (found : s.channels.get ch = some c) (mine : s.unfull sender)
    (dapp : ∀ conn, c.dappConn = some conn → s.unfull conn.sender ∧ conn.sender ≠ sender) :
    Sends s (s.joining c connId sender raw ch peer flag) sender msg := by
  subst own
  apply Sends.delivered
  have noted : Adds (Entitled s sender msg) s.trace (s.trace ++ [.joined msg.channelId peer raw]) := .single trivial
  have reached : ∀ q, c.dappConn.map PeerConn.sender = some q → s.unfull q ∧ q ≠ sender ∧ c.Registers q := by
    intro q registered
    obtain ⟨conn, known, rfl⟩ := Option.map_eq_some_iff.mp registered
    exact ⟨(dapp conn known).1, (dapp conn known).2, ⟨.dapp, conn, known, rfl⟩⟩
  generalize placed : ({ s with
    channels := s.channels.set msg.channelId (c.joinedBy connId sender peer flag)
    trace := s.trace ++ [.joined msg.channelId peer raw] } : World τ) = w
  have queues : w.queues = s.queues := by rw [← placed]
  have trace : w.trace = s.trace ++ [.joined msg.channelId peer raw] := by rw [← placed]
  have forwarded : Adds (Entitled s sender msg) w.trace
      (w.sendingTo (c.dappConn.map PeerConn.sender) msg.channelId (.forwarded raw)).trace := by
    apply (sendingTo_unfull fun q known => unfull_congr (congrFun queues q) (reached q known).1).imp
    rintro o ⟨q, known, rfl⟩
    exact ⟨rfl, Or.inr ⟨c, found, (reached q known).2.2⟩⟩
  have still : (w.sendingTo (c.dappConn.map PeerConn.sender) msg.channelId (.forwarded raw)).queues sender =
      s.queues sender := by
    rw [sendingTo_queues fun known => (reached sender known).2.1 rfl, queues]
  have told : Adds (Entitled s sender msg) (w.sendingTo (c.dappConn.map PeerConn.sender) msg.channelId (.forwarded raw)).trace
      (s.joining c connId sender raw msg.channelId peer flag).trace := by
    unfold World.joining
    rw [placed]
    apply (sending_unfull (unfull_congr still mine)).imp
    rintro o rfl
    exact ⟨rfl, Or.inl ⟨rfl, registers⟩⟩
  rw [← trace] at noted
  exact noted.trans (forwarded.trans told)

theorem accepting_sends {c : Channel} {ch peer target : String} (own : msg.channelId = ch)
    (found : s.channels.get ch = some c) (room : ∀ role conn, c.conn role = some conn → s.unfull conn.sender)
    (apart : ∀ a b, c.dappConn = some a → c.walletConn = some b → a.sender ≠ b.sender) :
    Sends s (s.accepting c ch peer target) sender msg := by
  subst own
  apply Sends.delivered
  have reached : ∀ role q, (c.conn role).map PeerConn.sender = some q → s.unfull q ∧ c.Registers q := by
    intro role q registered
    obtain ⟨conn, known, rfl⟩ := Option.map_eq_some_iff.mp registered
    exact ⟨room role conn known, ⟨role, conn, known, rfl⟩⟩
  have first : Adds (Entitled s sender msg) s.trace ((s.connecting c msg.channelId).sendingTo
      (c.dappConn.map PeerConn.sender) msg.channelId
      (.notice msg.channelId s.clock.ms (.readyConnected .dapp peer target c.isReconnect))).trace := by
    apply (sendingTo_unfull (s := s.connecting c msg.channelId) fun q known => (reached .dapp q known).1).imp
    rintro o ⟨q, known, rfl⟩
    exact ⟨rfl, Or.inr ⟨c, found, (reached .dapp q known).2⟩⟩
  unfold World.accepting
  apply first.trans
  have second : ∀ q, c.walletConn.map PeerConn.sender = some q → ((s.connecting c msg.channelId).sendingTo
      (c.dappConn.map PeerConn.sender) msg.channelId
      (.notice msg.channelId s.clock.ms (.readyConnected .dapp peer target c.isReconnect))).unfull q := by
    intro q known
    apply unfull_congr _ (reached .wallet q known).1
    apply sendingTo_queues
    intro same
    obtain ⟨a, dapp, queue⟩ := Option.map_eq_some_iff.mp same
    obtain ⟨b, wallet, other⟩ := Option.map_eq_some_iff.mp known
    exact apart a b dapp wallet (queue.trans other.symm)
  apply (sendingTo_unfull second).imp
  rintro o ⟨q, known, rfl⟩
  exact ⟨rfl, Or.inr ⟨c, found, (reached .wallet q known).2⟩⟩

theorem Handled.sends (handled : Handled s connId sender raw atCapacity msg r t)
    (room : Accommodates s sender msg atCapacity)
    (apart : ∀ c a b, s.channels.get msg.channelId = some c → c.dappConn = some a → c.walletConn = some b →
      a.sender ≠ b.sender) : Sends s t sender msg := by
  cases handled with
  | refused reason target => exact .nothing rfl
  | evicted found replaceable full => exact .nothing removing_trace
  | created absent free =>
    rename_i ch peer
    have registers : Registering (.create ch peer) := trivial
    exact creating_sends rfl registers rfl (room.create ch peer rfl free)
  | replaced found replaceable free =>
    rename_i ch peer c
    have registers : Registering (.create ch peer) := trivial
    exact creating_sends rfl registers removing_trace
      (unfull_congr (congrFun removing_queues sender) (room.create ch peer rfl free))
  | joined found waiting =>
    obtain ⟨mine, dapp⟩ := room.join _ _ _ _ rfl found waiting
    rename_i ch peer flag c
    have registers : Registering (.join ch peer flag) := trivial
    exact joining_sends rfl registers found mine dapp
  | accepted found dapp pending wallet =>
    exact accepting_sends rfl found (room.accept _ _ _ _ rfl found dapp pending wallet) fun a b => apart _ a b found
  | forwarded data found sent allowed limit => exact forwarding_sends rfl found fun a b => apart _ a b found
  | ended found sent => exact ending_sends rfl found
  | gone absent => exact .nothing rfl

end Message

/-! ### Runs -/

/-- The ready and join frames of the step find room, and a connection on which a frame of
a channel was lost does not register with it again. -/
structure KeepsUp (s : AppState τ) (event : Event τ) : Prop where
  room : ∀ k raw msg atCapacity, event = .process k → (s.tasks k).stage = .checked raw msg atCapacity →
    Accommodates (s.world (shardIndex msg.channelId)) k msg atCapacity
  fresh : ∀ k raw msg atCapacity, event = .process k → (s.tasks k).stage = .checked raw msg atCapacity →
    Registering msg → Whole s.trace k msg.channelId

/-- Where a frame of a channel was lost, the queue is not registered with it. -/
structure Tight (s : AppState τ) : Prop where
  noGap : NoGap s.trace
  gone : ∀ q ch f c, .dropped q ch f ∈ s.trace → Frame.isTerminate f = false → s.channel ch = some c → ¬ c.Registers q
  apart : ∀ ch c a b, s.channel ch = some c → c.dappConn = some a → c.walletConn = some b → a.sender ≠ b.sender
  refusals : ∀ k frame, (s.tasks k).stage = .processed (.reject frame) → Frame.isTerminate frame = true
  waits : ∀ id frame, frame ∈ (s.queues id).waiting → Frame.isTerminate frame = true

/-- A record of a terminate, or of no frame at all. -/
def Harmless : Obs τ → Prop
  | .enqueued _ _ f => Frame.isTerminate f = true
  | .dropped _ _ f => Frame.isTerminate f = true
  | .joined _ _ _ => True

section Steps
variable {read : τ → Except CloseReason ClientMessage} {s : AppState τ} {event : Event τ}

/-- What a step adds to the record, and where. -/
theorem step_sends (read : τ → Except CloseReason ClientMessage) (tight : Tight s) (keeps : KeepsUp s event) :
    Adds Harmless s.trace (step read s event).trace ∨
      ∃ k raw msg atCapacity w, event = .process k ∧ (s.tasks k).stage = .checked raw msg atCapacity ∧
        (step read s event).trace = w.trace ∧ (step read s event).channel msg.channelId = w.channels.get msg.channelId ∧
        Sends (s.world (shardIndex msg.channelId)) w k msg := by
  by_cases processes : ∃ k raw msg atCapacity, event = .process k ∧ (s.tasks k).stage = .checked raw msg atCapacity
  · right
    obtain ⟨k, raw, msg, atCapacity, rfl, checked⟩ := processes
    obtain ⟨r, w, processed, handled⟩ :=
      processMessage_handled k k raw msg atCapacity (s.world (shardIndex msg.channelId))
    refine ⟨k, raw, msg, atCapacity, w, rfl, checked, ?_, ?_, ?_⟩
    · rw [step_process checked processed]
      rfl
    · rw [step_process checked processed]
      exact congrArg (fun m => OrderedMap.get m msg.channelId) (absorb_shard_self s _ w)
    · exact handled.sends (keeps.room k raw msg atCapacity rfl checked) fun c a b => tight.apart msg.channelId c a b
  · left
    apply step_adds read s event
    · intro q ch f pending
      have terminate : Frame.isTerminate f = true := by
        rcases pending with own | ⟨k, refuses⟩ | ⟨id, waits⟩
        · exact own
        · exact tight.refusals k f refuses
        · exact tight.waits id f waits
      exact ⟨terminate, terminate⟩
    · intro k raw msg atCapacity r w process checked
      exact absurd ⟨k, raw, msg, atCapacity, process, checked⟩ processes

/-- A queue that a frame may be sent to has lost none. -/
theorem whole_of_entitled (tight : Tight s) (keeps : KeepsUp s event) {k q : Nat} {raw : τ} {msg : ClientMessage}
    {atCapacity : Bool} (process : event = .process k) (checked : (s.tasks k).stage = .checked raw msg atCapacity)
    (entitled : q = k ∧ Registering msg ∨ ∃ c, s.channel msg.channelId = some c ∧ c.Registers q) :
    Whole s.trace q msg.channelId := by
  rcases entitled with ⟨rfl, registers⟩ | ⟨c, found, registered⟩
  · exact keeps.fresh q raw msg atCapacity process checked registers
  · intro f lost
    by_contra real
    exact tight.gone q msg.channelId f c lost ((Bool.not_eq_true _).mp real) found registered

theorem step_noGap (tight : Tight s) (keeps : KeepsUp s event) : NoGap (step read s event).trace := by
  rcases step_sends read tight keeps with ⟨new, grown, harmless⟩ | ⟨k, raw, msg, atCapacity, w, process, checked, trace, -, sends⟩
  · rw [grown]
    apply tight.noGap.append
    · exact fun q ch g mem => Or.inl (harmless _ mem)
    · exact Or.inl fun q ch f mem => harmless _ mem
  · rw [trace]
    cases sends with
    | delivered added =>
      obtain ⟨new, grown, entitled⟩ := added
      rw [grown]
      apply tight.noGap.append
      · intro q ch g mem
        obtain ⟨rfl, who⟩ := entitled _ mem
        exact Or.inr (whole_of_entitled tight keeps process checked who)
      · exact Or.inl fun q ch f mem => (entitled _ mem).elim
    | lost grown gone =>
      rw [grown]
      apply tight.noGap.append
      · intro q ch g mem
        cases List.mem_singleton.mp mem
      · exact Or.inr ⟨_, rfl⟩

/-- Who is registered after a step was so before, or has registered by it. -/
theorem step_registers {ch : String} {d : Channel} {q : Nat}
    (after : (step read s event).channel ch = some d) (registers : d.Registers q) :
    (∃ c, s.channel ch = some c ∧ c.Registers q) ∨
      ∃ raw msg atCapacity, event = .process q ∧ (s.tasks q).stage = .checked raw msg atCapacity ∧ ch = msg.channelId ∧
        Registering msg := by
  obtain ⟨role, conn, own, rfl⟩ := registers
  have moves := step_moves read s event (shardIndex ch) ch
  change Moves s event (shardIndex ch) ch (s.channel ch) ((step read s event).channel ch) at moves
  rw [after] at moves
  generalize found : s.channel ch = old at moves
  generalize placed : shardIndex ch = i at moves
  cases moves with
  | still => exact Or.inl ⟨d, rfl, role, conn, own, rfl⟩
  | processed checked evolves =>
    rename_i k raw msg atCapacity
    rcases evolves.conn rfl own with ⟨c, same, before⟩ | ⟨rfl, kind⟩
    · exact Or.inl ⟨c, same, role, conn, before, rfl⟩
    · refine Or.inr ⟨raw, msg, atCapacity, rfl, checked, rfl, ?_⟩
      rcases kind with ⟨⟨ch, id, rfl⟩, -⟩ | ⟨⟨ch, id, flag, rfl⟩, -⟩
      · trivial
      · trivial
  | parted leaving bound => exact Or.inl ⟨_, rfl, role, conn, disconnectByConnId_conn own, rfl⟩

theorem step_gone (tight : Tight s) (keeps : KeepsUp s event) {q : Nat} {ch : String}
    {f : Frame τ} {d : Channel} (lost : .dropped q ch f ∈ (step read s event).trace) (real : Frame.isTerminate f = false)
    (after : (step read s event).channel ch = some d) : ¬ d.Registers q := by
  intro registers
  -- what was lost before the step
  have old : .dropped q ch f ∈ s.trace → False := by
    intro before
    rcases step_registers after registers with ⟨c, found, known⟩ | ⟨raw, msg, atCapacity, process, checked, rfl, kind⟩
    · exact tight.gone q ch f c before real found known
    · rw [keeps.fresh q raw msg atCapacity process checked kind f before] at real
      cases real
  rcases step_sends read tight keeps with ⟨new, grown, harmless⟩ | ⟨k, raw, msg, atCapacity, w, process, checked, trace, channel, sends⟩
  · rw [grown] at lost
    rcases List.mem_append.mp lost with before | now
    · exact old before
    · rw [show Frame.isTerminate f = true from harmless _ now] at real
      cases real
  · rw [trace] at lost
    cases sends with
    | delivered added =>
      obtain ⟨new, grown, entitled⟩ := added
      rw [grown] at lost
      rcases List.mem_append.mp lost with before | now
      · exact old before
      · exact entitled _ now
    | lost grown gone =>
      rw [grown] at lost
      rcases List.mem_append.mp lost with before | now
      · exact old before
      · cases List.mem_singleton.mp now
        rw [channel] at after
        exact gone d after registers

theorem step_apart (tight : Tight s) (keeps : KeepsUp s event) {ch : String} {d : Channel} {a b : PeerConn}
    (after : (step read s event).channel ch = some d) (dapp : d.dappConn = some a) (wallet : d.walletConn = some b) :
    a.sender ≠ b.sender := by
  have moves := step_moves read s event (shardIndex ch) ch
  change Moves s event (shardIndex ch) ch (s.channel ch) ((step read s event).channel ch) at moves
  rw [after] at moves
  generalize found : s.channel ch = old at moves
  generalize placed : shardIndex ch = i at moves
  cases moves with
  | still => exact tight.apart ch d a b found dapp wallet
  | processed checked evolves =>
    rename_i k raw msg atCapacity
    cases evolves with
    | kept => exact tight.apart _ d a b found dapp wallet
    | opened free => cases wallet
    | joined waiting =>
      rename_i ch peer flag c
      cases wallet
      exact (((keeps.room k raw _ atCapacity rfl checked).join ch peer flag c rfl found waiting).2 a dapp).2
    | accepted isDapp pending peer => exact tight.apart _ _ a b found dapp wallet
    | passed data sent allowed => exact tight.apart _ _ a b found dapp wallet
    | cut data sent allowed other lost =>
      rename_i type reqId c role id
      cases role with
      | dapp => cases wallet
      | wallet => cases dapp
  | parted leaving bound =>
    rename_i k c
    have dappBefore : c.conn .dapp = some a := disconnectByConnId_conn dapp
    have walletBefore : c.conn .wallet = some b := disconnectByConnId_conn wallet
    exact tight.apart ch c a b found dappBefore walletBefore

theorem step_tight (tight : Tight s) (keeps : KeepsUp s event) : Tight (step read s event) := by
  refine ⟨step_noGap tight keeps, ?_, ?_, ?_, ?_⟩
  · exact fun q ch f c lost real after => step_gone tight keeps lost real after
  · exact fun ch c a b after dapp wallet => step_apart tight keeps after dapp wallet
  · intro k frame refuses
    rcases step_refusal read s event refuses with before | own
    · exact tight.refusals k frame before
    · exact own
  · intro id frame waits
    rcases step_waiting read s event waits with before | own
    · exact tight.waits id frame before
    · exact own

theorem Booted.tight {config : Config} (booted : Booted config s) : Tight s := by
  refine ⟨?_, ?_, ?_, ?_, ?_⟩
  · intro earlier later q ch f split
    rw [booted.trace] at split
    exact absurd split (by simp)
  · intro q ch f c lost
    rw [booted.trace] at lost
    cases lost
  · intro ch c a b found dapp
    have none : c.dappConn = none := (booted.channels _ ch c found).2 .dapp
    rw [none] at dapp
    cases dapp
  · intro k frame refuses
    rw [booted.tasks k] at refuses
    cases refuses
  · intro id frame waits
    rw [booted.waiting id] at waits
    cases waits

end Steps

/-- In a run in which every ready and join frame finds room, and nobody registers again with
a channel after losing a frame of it, no frame is delivered past a gap. -/
theorem no_gap_while_kept_up (read : τ → Except CloseReason ClientMessage) (config : Config) (clock : Clock)
    (saved : Option Saved) (events : List (Event τ))
    (keeps : Along (step read) KeepsUp (.boot τ config clock saved) events) :
    NoGap (run (step read) (.boot τ config clock saved) events).trace := by
  have tight : Tight (run (step read) (.boot τ config clock saved) events) :=
    invariant (fun _ _ keeps tight => step_tight tight keeps) keeps (boot_booted τ config clock saved).tight
  exact tight.noGap

/-! ### Runs that can be tried -/

instance (s : World τ) (id : Nat) : Decidable (s.unfull id) :=
  inferInstanceAs (Decidable ((s.queues id).isClosed = true ∨ (s.queues id).hasRoom = true))

/-- Whether the ready and join frames of a message find room. -/
def World.accommodates (s : World τ) (sender : Nat) (msg : ClientMessage) (atCapacity : Bool) : Bool :=
  match msg with
  | .create _ _ => atCapacity || decide (s.unfull sender)
  | .join ch _ _ => (s.channels.get ch).all fun c => decide (c.state ≠ .waitingForWallet) ||
    (decide (s.unfull sender) && c.dappConn.all fun conn => decide (s.unfull conn.sender ∧ conn.sender ≠ sender))
  | .accept ch _ _ => (s.channels.get ch).all fun c =>
    [Role.dapp, Role.wallet].all fun role => (c.conn role).all fun conn => decide (s.unfull conn.sender)
  | _ => true

theorem World.accommodates_spec {s : World τ} {sender : Nat} {msg : ClientMessage} {atCapacity : Bool}
    (room : s.accommodates sender msg atCapacity = true) : Accommodates s sender msg atCapacity := by
  refine ⟨?_, ?_, ?_⟩
  · rintro ch peer rfl free
    simpa [World.accommodates, free] using room
  · rintro ch peer flag c rfl found waiting
    simp only [World.accommodates, found, Option.all_some, waiting, Bool.or_eq_true, Bool.and_eq_true,
      decide_eq_true_eq, ne_eq, not_true_eq_false, false_or] at room
    refine ⟨room.1, fun conn own => ?_⟩
    have other := room.2
    rw [own] at other
    exact of_decide_eq_true other
  · rintro ch peer target c rfl found - - - role conn own
    simp only [World.accommodates, found, Option.all_some, List.all_cons, List.all_nil, Bool.and_true,
      Bool.and_eq_true] at room
    cases role with
    | dapp =>
      have free := room.1
      rw [own] at free
      exact of_decide_eq_true free
    | wallet =>
      have free := room.2
      rw [own] at free
      exact of_decide_eq_true free

/-- Whether no frame of the channel was lost on the queue. -/
def wholeOn (trace : List (Obs τ)) (q : Nat) (ch : String) : Bool :=
  trace.all fun o => match o with
    | .dropped q' ch' f => decide (q' ≠ q ∨ ch' ≠ ch) || Frame.isTerminate f
    | _ => true

theorem whole_of_wholeOn {trace : List (Obs τ)} {q : Nat} {ch : String} (whole : wholeOn trace q ch = true) :
    Whole trace q ch := by
  intro f lost
  simpa using List.all_eq_true.mp whole _ lost

/-- A condition on a step that can be evaluated, and implies that it keeps up. -/
def AppState.keepsUp (s : AppState τ) : Event τ → Bool
  | .process k =>
    match (s.tasks k).stage with
    | .checked _ msg atCapacity =>
      (s.world (shardIndex msg.channelId)).accommodates k msg atCapacity && wholeOn s.trace k msg.channelId
    | _ => true
  | _ => true

theorem AppState.keepsUp_spec {s : AppState τ} {event : Event τ} (keeps : s.keepsUp event = true) : KeepsUp s event := by
  refine ⟨?_, ?_⟩
  · rintro k raw msg atCapacity rfl checked
    simp only [AppState.keepsUp, checked, Bool.and_eq_true] at keeps
    exact World.accommodates_spec keeps.1
  · rintro k raw msg atCapacity rfl checked -
    simp only [AppState.keepsUp, checked, Bool.and_eq_true] at keeps
    exact whole_of_wholeOn keeps.2

namespace Sample

/-- A server whose queues hold one frame. -/
def narrow : AppState ClientMessage := .boot ClientMessage { config with outboundQueueSize := 1 } {} none

/-- The wallet does not read its first frame until the channel is connected, and then gets
a request. -/
def overtaken : List (Event ClientMessage) :=
  ([.connect, .connect] : List (Event ClientMessage)) ++ speaks 1 (.create channel dapp) ++
    ([.drain 1] : List (Event ClientMessage)) ++ speaks 2 (.join channel wallet true) ++
    ([.drain 1] : List (Event ClientMessage)) ++ speaks 1 (.accept channel dapp wallet) ++
    ([.drain 2] : List (Event ClientMessage)) ++ speaks 1 (.req channel dapp "1")

set_option maxRecDepth 8000 in
theorem overtaken_trace : (run (step read) narrow overtaken).trace.drop 5 =
    [.dropped 2 channel (.notice channel 0 (.readyConnected .wallet wallet dapp true)),
      .enqueued 2 channel (.forwarded (.req channel dapp "1"))] := by
  rfl

/-- Both peers read what they get until the channel is connected. -/
def pairing (d w : Nat) : List (Event ClientMessage) :=
  speaks d (.create channel dapp) ++ ([.drain d] : List (Event ClientMessage)) ++ speaks w (.join channel wallet true) ++
    ([.drain d, .drain w] : List (Event ClientMessage)) ++ speaks d (.accept channel dapp wallet) ++
    ([.drain d, .drain w] : List (Event ClientMessage))

/-- The wallet stops reading and loses the second of two requests; the third goes nowhere. Both
peers pair again on new connections. -/
def congested : List (Event ClientMessage) :=
  ([.connect, .connect] : List (Event ClientMessage)) ++ pairing 1 2 ++ speaks 1 (.req channel dapp "1") ++
    speaks 1 (.req channel dapp "2") ++ ([.drain 1, .drain 2] : List (Event ClientMessage)) ++
    speaks 1 (.req channel dapp "3") ++
    ([.receive 1 .hangUp false, .leave 1, .connect, .connect] : List (Event ClientMessage)) ++ pairing 3 4 ++
    speaks 3 (.req channel dapp "4")

end Sample

set_option maxRecDepth 8000 in
theorem no_gap_sample :
    NoGap (run (step Sample.read) Sample.narrow Sample.congested).trace ∧
      ((run (step Sample.read) Sample.narrow Sample.congested).trace.drop 6).take 2 =
        [.enqueued 2 Sample.channel (.forwarded (.req Sample.channel Sample.dapp "1")),
          .dropped 2 Sample.channel (.forwarded (.req Sample.channel Sample.dapp "2"))] := by
  have keeps : Along (step Sample.read) (fun s event => s.keepsUp event = true) Sample.narrow Sample.congested := by
    decide +kernel
  exact ⟨no_gap_while_kept_up Sample.read _ {} none Sample.congested (keeps.mono fun s event => AppState.keepsUp_spec), rfl⟩

/-- A ready frame that is lost leaves the wallet registered, and a request follows it. -/
theorem request_past_lost_ready :
    ¬ ∀ (τ : Type) (read : τ → Except CloseReason ClientMessage) (config : Config) (clock : Clock) (saved : Option Saved)
      (events : List (Event τ)), NoGap (run (step read) (.boot τ config clock saved) events).trace := by
  intro all
  have sound : NoGap (run (step Sample.read) Sample.narrow Sample.overtaken).trace :=
    all ClientMessage Sample.read _ {} none Sample.overtaken
  have split := (List.take_append_drop 5 (run (step Sample.read) Sample.narrow Sample.overtaken).trace).symm
  rw [Sample.overtaken_trace] at split
  have terminate := sound _ _ _ _ _ split rfl _ (List.mem_singleton.mpr rfl)
  cases terminate

end WalletPair.Relay.Server
