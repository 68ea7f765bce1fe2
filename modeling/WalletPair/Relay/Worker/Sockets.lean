import WalletPair.Relay.Worker.Handlers

/-! What the handlers do to the sockets: an open socket is listed, and attachments name
the channel of the object. Both hold in every state that can be reached. -/

namespace WalletPair.Relay.Worker
open WalletPair.Lib.Program WalletPair.Lib.Run WalletPair.Sdk

variable {τ : Type} {name : String}

/-- An open socket is listed, and an attachment names the channel. -/
structure Socket.Sound (name : String) (socket : Socket) : Prop where
  listed : socket.readyState = .opened → socket.listed = true
  attached : ∀ attachment, socket.attachment = some attachment → attachment.channelId = name

/-- The object knows no channel but its own, and neither do its sockets. -/
structure Sound (name : String) (s : ChannelDO τ) : Prop where
  own : s.name = name
  channel : ∀ ch, s.channelId = some ch → ch = name
  sockets : ∀ socket ∈ s.sockets, socket.Sound name

theorem Socket.Sound.close {socket : Socket} (sound : socket.Sound name) : socket.close.Sound name := by
  unfold Socket.close
  split
  · exact ⟨nofun, sound.attached⟩
  · exact sound

theorem Socket.Sound.attach {socket : Socket} (sound : socket.Sound name) (role : Role) (peerId : String) :
    Socket.Sound name { socket with attachment := some ⟨role, peerId, name⟩ } := by
  refine ⟨sound.listed, ?_⟩
  rintro attachment ⟨⟩
  rfl

theorem Socket.Sound.gone {socket : Socket} (sound : socket.Sound name) (listed : Bool) :
    (socket.gone listed).Sound name := ⟨nofun, sound.attached⟩

theorem mem_modify {α : Type} {f : α → α} {items : List α} {i : Nat} {x : α} (mem : x ∈ items.modify i f) :
    x ∈ items ∨ ∃ y ∈ items, x = f y := by
  obtain ⟨j, bound, rfl⟩ := List.mem_iff_getElem.mp mem
  have inside : j < items.length := by simpa using bound
  rw [List.getElem_modify]
  split
  · exact Or.inr ⟨_, List.getElem_mem inside, rfl⟩
  · exact Or.inl (List.getElem_mem inside)

/-! ### Handlers -/

theorem updateSocket_sound (id : Nat) {f : Socket → Socket}
    (kept : ∀ socket, socket.Sound name → (f socket).Sound name) :
    Keeps (Preserve (Sound name)) (updateSocket id f : M τ Unit) := by
  intro s sound
  refine ⟨sound.own, sound.channel, fun socket mem => ?_⟩
  rcases mem_modify mem with old | ⟨before, old, rfl⟩
  · exact sound.sockets socket old
  · exact kept before (sound.sockets before old)

/-- A change that touches neither the sockets nor the names. -/
theorem modify_sound {f : ChannelDO τ → ChannelDO τ}
    (same : ∀ s, (f s).name = s.name ∧ (f s).channelId = s.channelId ∧ (f s).sockets = s.sockets) :
    Keeps (Preserve (Sound name)) (modify f : M τ Unit) := by
  intro s sound
  obtain ⟨sameName, sameChannel, sameSockets⟩ := same s
  rw [after_modify]
  exact ⟨sameName.trans sound.own, sameChannel ▸ sound.channel, sameSockets ▸ sound.sockets⟩

theorem persistState_sound : Keeps (Preserve (Sound name)) (persistState : M τ Unit) := by
  apply modify_sound
  intro s
  split <;> exact ⟨rfl, rfl, rfl⟩

theorem send_sound (id : Nat) (frame : Frame τ) : Keeps (Preserve (Sound name)) (send id frame) :=
  .bind .get fun _ => .ite (.throw _) (.ite (modify_sound fun _ => ⟨rfl, rfl, rfl⟩) (.pure _))

theorem trySend_sound (id : Option Nat) (frame : Frame τ) : Keeps (Preserve (Sound name)) (trySend id frame) := by
  cases id with
  | none => exact .pure _
  | some id => exact .tryCatch (.bind (send_sound id frame) fun _ => .pure _) fun _ => .pure _

theorem sendAndClose_sound (id : Nat) (frame : Frame τ) : Keeps (Preserve (Sound name)) (sendAndClose id frame) :=
  .tryCatch (.bind (send_sound id frame) fun _ => updateSocket_sound id fun _ sound => sound.close) fun _ => .pure _

theorem reject_sound (id : Nat) (ch : String) (reason : CloseReason) :
    Keeps (Preserve (Sound name)) (reject id ch reason : M τ Unit) :=
  .bind .get fun _ => sendAndClose_sound id _

theorem dismiss_sound (id : Option Nat) (frame : Frame τ) : Keeps (Preserve (Sound name)) (dismiss id frame) := by
  cases id with
  | none => exact .pure _
  | some id => exact sendAndClose_sound id frame

theorem closeChannel_sound : Keeps (Preserve (Sound name)) (closeChannel : M τ Unit) :=
  .bind (modify_sound fun _ => ⟨rfl, rfl, rfl⟩) fun _ => persistState_sound

theorem setAlarm_sound (delay : Nat) : Keeps (Preserve (Sound name)) (setAlarm delay : M τ Unit) :=
  modify_sound fun _ => ⟨rfl, rfl, rfl⟩

theorem deleteAlarm_sound : Keeps (Preserve (Sound name)) (deleteAlarm : M τ Unit) :=
  modify_sound fun _ => ⟨rfl, rfl, rfl⟩

theorem setAttachment_sound (id : Nat) (role : Role) (peerId : String) :
    Keeps (Preserve (Sound name)) (setAttachment id ⟨role, peerId, name⟩ : M τ Unit) :=
  .bind (updateSocket_sound id fun _ sound => sound.attach role peerId) fun _ => modify_sound fun _ => ⟨rfl, rfl, rfl⟩

theorem createChannel_sound (id : Nat) (sender : String) :
    Keeps (Preserve (Sound name)) (createChannel id name sender : M τ Unit) :=
  .bind (modify_sound fun _ => ⟨rfl, rfl, rfl⟩) fun _ => .bind (setAttachment_sound id _ _) fun _ => .bind .get fun _ =>
    .bind (send_sound _ _) fun _ => .bind (setAlarm_sound _) fun _ => persistState_sound

theorem handleCreate_sound (id : Nat) (sender : String) :
    Keeps (Preserve (Sound name)) (handleCreate id name sender : M τ Unit) := by
  have created : Keeps (Preserve (Sound name)) (createChannel id name sender : M τ Unit) := createChannel_sound id sender
  refine .bind .get fun s => ?_
  cases s.channelState with
  | waiting => exact .bind (dismiss_sound _ _) fun _ => created
  | connected =>
    dsimp only
    cases s.findPeerWs .dapp with
    | some dapp => exact reject_sound _ _ _
    | none => exact .bind (dismiss_sound _ _) fun _ => created
  | pendingAccept => exact reject_sound _ _ _
  | closed => exact created
  | none => exact created

theorem handleJoin_sound (id : Nat) (sender : String) (sealedJoinNull : Bool) (raw : τ) :
    Keeps (Preserve (Sound name)) (handleJoin id name sender sealedJoinNull raw) := by
  have reverted : Keeps (Preserve (Sound name)) (revertJoin id name : M τ Unit) :=
    .bind (modify_sound fun _ => ⟨rfl, rfl, rfl⟩) fun _ => .bind (modify_sound fun _ => ⟨rfl, rfl, rfl⟩) fun _ =>
      .bind (reject_sound _ _ _) fun _ => persistState_sound
  exact .bind .get fun _ => .ite (reject_sound _ _ _) (.bind (modify_sound fun _ => ⟨rfl, rfl, rfl⟩) fun _ =>
    .bind (setAttachment_sound id _ _) fun _ => .bind .get fun _ => .bind (trySend_sound _ _) fun _ =>
    .ite (.bind (send_sound _ _) fun _ => persistState_sound) reverted)

theorem handleAccept_sound (id : Nat) (ch sender target : String) (role : Role) :
    Keeps (Preserve (Sound name)) (handleAccept id ch sender target role : M τ Unit) :=
  .bind .get fun _ => .ite (reject_sound _ _ _) (.ite (reject_sound _ _ _) (.ite (sendAndClose_sound _ _)
    (.bind (trySend_sound _ _) fun _ => .bind (trySend_sound _ _) fun _ =>
      .ite (.bind closeChannel_sound fun _ => deleteAlarm_sound)
        (.bind (modify_sound fun _ => ⟨rfl, rfl, rfl⟩) fun _ => .bind (setAlarm_sound _) fun _ => persistState_sound))))

theorem handleData_sound (id : Nat) (raw : τ) (ch sender : String) (type : MessageType) (reqId : Option String)
    (role : Role) : Keeps (Preserve (Sound name)) (handleData id raw ch sender type reqId role) :=
  .bind .get fun _ => .ite (reject_sound _ _ _) (.ite (reject_sound _ _ _) (.ite (reject_sound _ _ _)
    (.bind (modify_sound fun _ => ⟨rfl, rfl, rfl⟩) fun _ => .bind (trySend_sound _ _) fun _ =>
      .ite persistState_sound (.pure _))))

theorem handleClose_sound (id : Nat) (raw : τ) (ch sender : String) (role : Role) :
    Keeps (Preserve (Sound name)) (handleClose id raw ch sender role) :=
  .bind .get fun _ => .ite (reject_sound _ _ _) (.bind (dismiss_sound _ _) fun _ =>
    .bind (updateSocket_sound id fun _ sound => sound.close) fun _ => .bind closeChannel_sound fun _ => deleteAlarm_sound)

theorem routeMessage_sound (id : Nat) (msg : ClientMessage) (raw : τ) :
    Keeps (Preserve (Sound name)) (routeMessage id msg raw) := by
  intro s sound
  unfold routeMessage
  rw [after_get_bind]
  split
  · exact reject_sound _ _ _ s sound
  · rename_i same
    have ours : msg.channelId = name := sound.channel _ (not_not.mp same).symm
    split
    · cases msg with
      | create ch sender =>
        change ch = name at ours
        subst ours
        exact handleCreate_sound id sender s sound
      | join ch sender sealedJoinNull =>
        change ch = name at ours
        subst ours
        exact handleJoin_sound id sender sealedJoinNull raw s sound
      | _ => exact reject_sound _ _ _ s sound
    · cases msg with
      | create ch sender =>
        change ch = name at ours
        subst ours
        exact Keeps.bind .get (fun _ => .ite (reject_sound _ _ _) (handleCreate_sound id sender)) s sound
      | join ch sender sealedJoinNull => exact reject_sound _ _ _ s sound
      | accept ch sender target => exact handleAccept_sound _ _ _ _ _ s sound
      | close ch sender reason => exact handleClose_sound _ _ _ _ _ s sound
      | _ => exact handleData_sound _ _ _ _ _ _ _ s sound

/-! ### Events -/

theorem attachedChannel_of_sound {s : ChannelDO τ} (sound : Sound name s) {ch : String}
    (found : s.attachedChannel = some ch) : ch = name := by
  obtain ⟨socket, mem, carries⟩ := List.exists_of_findSome?_eq_some found
  split_ifs at carries
  have attached := nonEmpty_some carries
  obtain ⟨attachment, carried, rfl⟩ := Option.map_eq_some_iff.mp attached
  exact (sound.sockets socket mem).attached attachment carried

theorem woken_sockets (s : ChannelDO τ) : s.woken.sockets = s.sockets := by
  unfold ChannelDO.woken
  split <;> rfl

theorem woken_sound {s : ChannelDO τ} (sound : Sound name s) : Sound name s.woken := by
  refine ⟨?_, ?_, fun socket mem => sound.sockets socket (woken_sockets s ▸ mem)⟩
  · unfold ChannelDO.woken
    split <;> exact sound.own
  · unfold ChannelDO.woken
    split
    · exact sound.channel
    · intro ch named
      dsimp only at named
      split at named
      · rcases found : s.attachedChannel with _ | other
        · rw [found] at named
          exact sound.channel ch named
        · rw [found] at named
          cases named
          exact attachedChannel_of_sound sound found
      · exact sound.channel ch named

theorem ensureInitialized_sound : Keeps (Preserve (Sound name)) (ensureInitialized : M τ Unit) :=
  fun _ sound => woken_sound sound

theorem webSocketMessage_sound [Wire τ] (id : Nat) (message : Incoming τ) :
    Keeps (Preserve (Sound name)) (webSocketMessage id message) := by
  refine .bind ensureInitialized_sound fun _ => .bind .get fun s => ?_
  cases message with
  | binary => exact reject_sound _ _ _
  | text raw =>
    dsimp only
    cases readText raw with
    | error reason => exact reject_sound _ _ _
    | ok msg => exact routeMessage_sound id msg raw

theorem abandon_sound (s : ChannelDO τ) (ch : String) : Keeps (Preserve (Sound name)) (handleDisconnect.abandon s ch) :=
  .bind (dismiss_sound _ _) fun _ => .bind closeChannel_sound fun _ => deleteAlarm_sound

theorem handleDisconnect_sound (id : Nat) : Keeps (Preserve (Sound name)) (handleDisconnect id : M τ Unit) := by
  refine .bind .get fun s => ?_
  split
  · split
    · exact abandon_sound _ _
    · exact abandon_sound _ _
    · exact .bind (modify_sound fun _ => ⟨rfl, rfl, rfl⟩) fun _ => .bind (setAlarm_sound _) fun _ => persistState_sound
    · exact .pure _
  · exact .pure _

theorem disconnect_sound (id : Nat) (listed : Bool) : Keeps (Preserve (Sound name)) (disconnect id listed : M τ Unit) :=
  .bind (updateSocket_sound id fun _ sound => sound.gone listed) fun _ =>
    .bind (.bind ensureInitialized_sound fun _ => handleDisconnect_sound id) fun _ =>
    updateSocket_sound id fun _ sound => sound.gone false

theorem alarm_sound : Keeps (Preserve (Sound name)) (alarm : M τ Unit) := by
  refine .bind ensureInitialized_sound fun _ => .bind .get fun s => ?_
  split
  · exact .pure _
  · exact .bind (.forM _ _ fun _ _ => sendAndClose_sound _ _) fun _ => closeChannel_sound

theorem fetch_sound {websocket : Bool} {ch : Option String} {s : ChannelDO τ}
    (routed : handleWebSocket websocket ch = some name) (sound : Sound name s) :
    Sound name (after (fetch websocket ch) s) := by
  unfold handleWebSocket at routed
  split_ifs at routed with upgrade
  unfold fetch
  rw [if_neg (by simp [upgrade]), routed]
  have accepted : Sound name ({ s with sockets := s.sockets ++ [{}] } : ChannelDO τ) := by
    refine ⟨sound.own, sound.channel, fun socket mem => ?_⟩
    rcases List.mem_append.mp mem with old | new
    · exact sound.sockets socket old
    · rw [List.mem_singleton.mp new]
      exact ⟨fun _ => rfl, nofun⟩
  have awake := woken_sound accepted
  dsimp only
  simp only [after_modify_bind, ensureInitialized, after_pure]
  split
  · exact ⟨awake.own, fun other named => Option.some.inj named.symm, awake.sockets⟩
  · exact awake

theorem step_sound [Wire τ] {s : ChannelDO τ} (e : Inputs × Event τ) (sound : Sound name s) : Sound name (step s e) := by
  obtain ⟨inputs, event⟩ := e
  have start : Sound name ({ s with inputs } : ChannelDO τ) := ⟨sound.own, sound.channel, sound.sockets⟩
  unfold step
  cases event with
  | upgrade websocket ch =>
    change Sound name (after (act (.upgrade websocket ch)) _)
    unfold act
    rw [after_get_bind]
    split
    · rename_i routed
      rw [after_bind_pure]
      exact fetch_sound (routed.trans (congrArg some sound.own)) start
    · exact start
  | message id message =>
    exact Keeps.bind .get (fun _ => .ite (webSocketMessage_sound id message) (.pure _)) _ start
  | hangUp id => exact updateSocket_sound id (fun _ sound => sound.close) _ start
  | close id listed => exact disconnect_sound id listed _ start
  | error id listed => exact disconnect_sound id listed _ start
  | alarm => exact Keeps.bind .get (fun _ => .ite (.bind deleteAlarm_sound fun _ => alarm_sound) (.pure _)) _ start
  | evict => exact ⟨sound.own, nofun, sound.sockets⟩

theorem fresh_sound (name : String) : Sound name (.fresh τ name) := ⟨rfl, nofun, nofun⟩

/-! ### Open sockets with a role -/

/-- The socket is open and carries the attachment. -/
def ChannelDO.Serves (s : ChannelDO τ) (id : Nat) (attachment : WsAttachment) : Prop :=
  ∃ socket, s.sockets[id]? = some socket ∧ socket.readyState = .opened ∧ socket.attachment = some attachment

section Serving
variable {s : ChannelDO τ} {id other : Nat} {attachment : WsAttachment}

theorem isOpen_of_serves (serves : s.Serves id attachment) : s.isOpen id = true := by
  obtain ⟨socket, found, opened, -⟩ := serves
  simp [ChannelDO.isOpen, found, opened]

theorem attachment_of_serves (serves : s.Serves id attachment) : s.attachment id = some attachment := by
  obtain ⟨socket, found, -, attached⟩ := serves
  simp [ChannelDO.attachment, found, attached]

/-- A change after which the socket is not open any more. -/
theorem serves_of_modify {f : Socket → Socket} (shut : ∀ socket, (f socket).readyState ≠ .opened)
    (serves : ({ s with sockets := s.sockets.modify id f } : ChannelDO τ).Serves other attachment) :
    other ≠ id ∧ s.Serves other attachment := by
  obtain ⟨socket, found, opened, attached⟩ := serves
  rw [List.getElem?_modify] at found
  split at found
  · rcases before : s.sockets[other]? with _ | socket'
    · rw [before] at found
      cases found
    · rw [before] at found
      cases found
      exact absurd opened (shut socket')
  · rename_i different
    exact ⟨fun same => different same.symm, socket, by simpa using found, opened, attached⟩

theorem close_shut (socket : Socket) : socket.close.readyState ≠ .opened := by
  unfold Socket.close
  split
  · nofun
  · assumption

theorem isOpen_of_close (opened : ({ s with sockets := s.sockets.modify id Socket.close } : ChannelDO τ).isOpen other = true) :
    s.isOpen other = true ∧ other ≠ id := by
  unfold ChannelDO.isOpen at opened ⊢
  rw [List.getElem?_modify] at opened
  cases found : s.sockets[other]? with
  | none => simp [found] at opened
  | some socket =>
    rw [found] at opened
    split at opened
    · have shut := close_shut socket
      simp [shut] at opened
    · rename_i different
      exact ⟨by simpa using opened, fun same => different same.symm⟩

theorem isOpen_of_telling {frame : Frame τ} (opened : (s.telling id frame).isOpen other = true) :
    s.isOpen other = true ∧ (other = id → id ∈ s.inputs.throws) := by
  unfold ChannelDO.telling at opened
  by_cases throws : id ∈ s.inputs.throws
  · simp only [if_pos throws] at opened
    exact ⟨opened, fun _ => throws⟩
  · simp only [if_neg throws] at opened
    obtain ⟨before, different⟩ := isOpen_of_close opened
    exact ⟨before, fun same => absurd same different⟩

/-- Of the sockets that were all told, only those that throw are still open. -/
theorem isOpen_of_tellingAll {ids : List Nat} {frame : Frame τ} (opened : (s.tellingAll ids frame).isOpen other = true) :
    s.isOpen other = true ∧ (other ∈ ids → other ∈ s.inputs.throws) := by
  induction ids generalizing s with
  | nil => exact ⟨opened, nofun⟩
  | cons id rest ih =>
    obtain ⟨later, thrown⟩ := ih opened
    obtain ⟨before, first⟩ := isOpen_of_telling later
    refine ⟨before, fun mem => ?_⟩
    rcases List.mem_cons.mp mem with rfl | mem
    · exact first rfl
    · exact thrown mem

theorem mem_getWebSockets {socket : Socket} (found : s.sockets[id]? = some socket) (listed : socket.listed = true) :
    id ∈ s.getWebSockets := by
  obtain ⟨bound, rfl⟩ := List.getElem?_eq_some_iff.mp found
  simp [ChannelDO.getWebSockets, bound, listed]

/-- An open socket is listed. -/
theorem mem_getWebSockets_of_isOpen (sound : Sound name s) (opened : s.isOpen id = true) : id ∈ s.getWebSockets := by
  unfold ChannelDO.isOpen at opened
  cases found : s.sockets[id]? with
  | none => simp [found] at opened
  | some socket =>
    have state : socket.readyState = .opened := by simpa [found] using opened
    exact mem_getWebSockets found ((sound.sockets socket (List.mem_of_getElem? found)).listed state)

theorem serves_of_telling {frame : Frame τ} (serves : (s.telling id frame).Serves other attachment) :
    s.Serves other attachment ∧ (other = id → id ∈ s.inputs.throws) := by
  unfold ChannelDO.telling at serves
  by_cases throws : id ∈ s.inputs.throws
  · simp only [if_pos throws] at serves
    exact ⟨serves, fun _ => throws⟩
  · simp only [if_neg throws] at serves
    obtain ⟨different, still⟩ := serves_of_modify close_shut serves
    exact ⟨still, fun same => absurd same different⟩

theorem serves_of_dismissing {peer : Option Nat} {frame : Frame τ}
    (serves : (s.dismissing peer frame).Serves other attachment) :
    s.Serves other attachment ∧ ∀ id, peer = some id → other = id → id ∈ s.inputs.throws := by
  cases peer with
  | none => exact ⟨serves, nofun⟩
  | some id =>
    have told : (s.telling id frame).Serves other attachment := serves
    obtain ⟨still, thrown⟩ := serves_of_telling told
    refine ⟨still, ?_⟩
    rintro id ⟨⟩ same
    exact thrown same

theorem serves_of_assigning {new : WsAttachment} (serves : (s.assigning id new).Serves other attachment) :
    (other = id ∧ attachment = new ∧ s.isOpen id = true) ∨ (other ≠ id ∧ s.Serves other attachment) := by
  obtain ⟨socket, found, opened, attached⟩ := serves
  unfold ChannelDO.assigning at found
  rw [List.getElem?_modify] at found
  split at found
  · rename_i same
    rcases before : s.sockets[other]? with _ | socket'
    · rw [before] at found
      cases found
    · rw [before] at found
      cases found
      cases attached
      exact Or.inl ⟨same.symm, rfl, by simpa [ChannelDO.isOpen, same, before] using opened⟩
  · rename_i different
    exact Or.inr ⟨fun same => different same.symm, socket, by simpa using found, opened, attached⟩

theorem serves_of_findPeerWs {role : Role} (found : s.findPeerWs role = some id) :
    ∃ attachment, s.Serves id attachment ∧ attachment.role = role := by
  unfold ChannelDO.findPeerWs at found
  obtain ⟨bound, serves, -⟩ := List.findIdx?_eq_some_iff_getElem.mp found
  simp only [Socket.serves, Bool.and_eq_true, decide_eq_true_eq] at serves
  obtain ⟨⟨-, carries⟩, opened⟩ := serves
  obtain ⟨attachment, attached, role⟩ := (Option.any_eq_true _ _).mp carries
  exact ⟨attachment, ⟨_, List.getElem?_eq_getElem bound, opened, attached⟩, by simpa using role⟩

/-- Whoever serves a role can be found. -/
theorem role_ne_of_findPeerWs {role : Role} (sound : Sound name s) (absent : s.findPeerWs role = none)
    (serves : s.Serves other attachment) : attachment.role ≠ role := by
  obtain ⟨socket, found, opened, attached⟩ := serves
  intro same
  have missing := List.findIdx?_eq_none_iff.mp absent socket (List.mem_of_getElem? found)
  have listed := (sound.sockets socket (List.mem_of_getElem? found)).listed opened
  simp [Socket.serves, listed, attached, opened, same] at missing

end Serving

end WalletPair.Relay.Worker
