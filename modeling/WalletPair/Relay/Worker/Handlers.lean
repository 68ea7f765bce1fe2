import Mathlib.Tactic.Simps.Basic
import WalletPair.Relay.Worker.Channel

/-! What the handlers do to the fields, to storage and to the alarm. Guarded sends are
total functions of the state; a handler then either leaves all three alone or ends with
its fields saved. -/

namespace WalletPair.Relay.Worker
open WalletPair.Lib.Program WalletPair.Sdk

variable {τ : Type}

/-! ### Guarded sends -/

/-- What is on record after an attempt to send. -/
def ChannelDO.traceSending (s : ChannelDO τ) (id : Nat) (frame : Frame τ) : List (Obs τ) :=
  if id ∉ s.inputs.throws ∧ s.isOpen id then s.trace ++ [.sent id frame] else s.trace

/-- The object after an attempt to send and close. -/
@[simps toMemory name stored alarm inputs] def ChannelDO.telling (s : ChannelDO τ) (id : Nat) (frame : Frame τ) : ChannelDO τ :=
  { s with
    trace := s.traceSending id frame
    sockets := if id ∈ s.inputs.throws then s.sockets else s.sockets.modify id Socket.close }

/-- The object after an attempt to send to a peer that may be absent. -/
@[simps toMemory name stored alarm inputs] def ChannelDO.trying (s : ChannelDO τ) (id : Option Nat) (frame : Frame τ) : ChannelDO τ :=
  { s with
    trace := match id with
      | none => s.trace
      | some id => s.traceSending id frame }

/-- The object after an attempt to tell a peer that may be absent, and to close it. -/
@[simps toMemory name stored alarm inputs] def ChannelDO.dismissing (s : ChannelDO τ) (id : Option Nat) (frame : Frame τ) : ChannelDO τ :=
  { s with
    trace := match id with
      | none => s.trace
      | some id => s.traceSending id frame
    sockets := match id with
      | none => s.sockets
      | some id => if id ∈ s.inputs.throws then s.sockets else s.sockets.modify id Socket.close }

/-- Whether a guarded send goes through. -/
def ChannelDO.reaches (s : ChannelDO τ) (id : Option Nat) : Bool := id.any fun id => id ∉ s.inputs.throws

theorem send_apply (id : Nat) (frame : Frame τ) (s : ChannelDO τ) :
    send id frame s = if id ∈ s.inputs.throws then .error "send" s else .ok () (s.trying (some id) frame) := by
  unfold send
  rw [get_bind_apply]
  by_cases throws : id ∈ s.inputs.throws
  · simp [throws]
  · by_cases opened : s.isOpen id = true
    · simp [throws, opened, record, ChannelDO.trying, ChannelDO.traceSending]
    · simp [throws, opened, ChannelDO.trying, ChannelDO.traceSending]

theorem sendAndClose_apply (id : Nat) (frame : Frame τ) (s : ChannelDO τ) :
    sendAndClose id frame s = .ok () (s.telling id frame) := by
  have sent := send_apply id frame s
  unfold sendAndClose
  by_cases throws : id ∈ s.inputs.throws
  · rw [if_pos throws] at sent
    rw [tryCatch_of_error (bind_of_error sent)]
    simp [ChannelDO.telling, ChannelDO.traceSending, throws]
  · rw [if_neg throws] at sent
    have closed : (do send id frame; closeSocket id) s = .ok () (s.telling id frame) := by
      rw [bind_of_ok sent]
      simp [ChannelDO.telling, ChannelDO.trying, throws, closeSocket, updateSocket]
    rw [tryCatch_of_ok closed]

theorem reject_apply (id : Nat) (ch : String) (reason : CloseReason) (s : ChannelDO τ) :
    reject id ch reason s = .ok () (s.telling id (terminate ch reason s.inputs.now)) := by
  unfold reject
  rw [get_bind_apply, sendAndClose_apply]

theorem trySend_apply (id : Option Nat) (frame : Frame τ) (s : ChannelDO τ) :
    trySend id frame s = .ok (s.reaches id) (s.trying id frame) := by
  cases id with
  | none => rfl
  | some id =>
    have sent := send_apply id frame s
    by_cases throws : id ∈ s.inputs.throws
    · rw [if_pos throws] at sent
      have caught : trySend (some id) frame s = _ := tryCatch_of_error (bind_of_error sent)
      rw [caught]
      simp [ChannelDO.reaches, ChannelDO.trying, ChannelDO.traceSending, throws]
    · rw [if_neg throws] at sent
      have returned : trySend (some id) frame s = .ok true _ := tryCatch_of_ok (bind_of_ok sent)
      rw [returned]
      simp [ChannelDO.reaches, throws]

theorem dismiss_apply (id : Option Nat) (frame : Frame τ) (s : ChannelDO τ) :
    dismiss id frame s = .ok () (s.dismissing id frame) := by
  cases id with
  | none => rfl
  | some id => exact sendAndClose_apply id frame s

section After
variable (id : Nat) (peer : Option Nat) (ch : String) (reason : CloseReason) (frame : Frame τ) (s : ChannelDO τ)
  {α : Type}

@[simp] theorem after_send_bind (k : Unit → M τ α) :
    after (send id frame >>= k) s =
      if id ∈ s.inputs.throws then s else after (k ()) (s.trying (some id) frame) := by
  have run := send_apply id frame s
  by_cases throws : id ∈ s.inputs.throws
  · rw [if_pos throws] at run ⊢
    rw [after_bind, run]
  · rw [if_neg throws] at run ⊢
    exact after_bind_of_ok run

@[simp] theorem after_sendAndClose : after (sendAndClose id frame) s = s.telling id frame :=
  after_of_ok (sendAndClose_apply id frame s)

@[simp] theorem after_reject : after (reject id ch reason) s = s.telling id (terminate ch reason s.inputs.now) :=
  after_of_ok (reject_apply id ch reason s)

@[simp] theorem after_reject_bind (k : Unit → M τ α) :
    after (reject id ch reason >>= k) s = after (k ()) (s.telling id (terminate ch reason s.inputs.now)) :=
  after_bind_of_ok (reject_apply id ch reason s)

@[simp] theorem after_trySend_bind (k : Bool → M τ α) :
    after (trySend peer frame >>= k) s = after (k (s.reaches peer)) (s.trying peer frame) :=
  after_bind_of_ok (trySend_apply peer frame s)

@[simp] theorem after_dismiss_bind (k : Unit → M τ α) :
    after (dismiss peer frame >>= k) s = after (k ()) (s.dismissing peer frame) :=
  after_bind_of_ok (dismiss_apply peer frame s)

end After

/-! ### Results -/

/-- An accepted text names a channel and a sender. -/
theorem readText_ok [Wire τ] {raw : τ} {msg : ClientMessage} (read : readText raw = .ok msg) :
    msg.channelId ≠ "" ∧ msg.fromPeer ≠ "" := by
  unfold readText at read
  split_ifs at read
  split at read
  · cases read
  · rename_i parsed
    cases read
    obtain ⟨named, valid⟩ := parseMessage_ok parsed
    refine ⟨channelId_ne_empty named, fun empty => ?_⟩
    rw [empty] at valid
    simp [dialect, validatePeerId] at valid

/-- The object after it told every socket of a list. -/
def ChannelDO.tellingAll (s : ChannelDO τ) (ids : List Nat) (frame : Frame τ) : ChannelDO τ :=
  ids.foldl (fun s id => s.telling id frame) s

theorem tellingAll_fields (ids : List Nat) (frame : Frame τ) (s : ChannelDO τ) :
    (s.tellingAll ids frame).toMemory = s.toMemory ∧ (s.tellingAll ids frame).stored = s.stored ∧
      (s.tellingAll ids frame).alarm = s.alarm := by
  induction ids generalizing s with
  | nil => exact ⟨rfl, rfl, rfl⟩
  | cons id rest ih =>
    obtain ⟨memory, stored, alarm⟩ := ih (s.telling id frame)
    exact ⟨memory, stored, alarm⟩

theorem forM_sendAndClose_apply (ids : List Nat) (frame : Frame τ) (s : ChannelDO τ) :
    ids.forM (fun id => sendAndClose id frame) s = .ok () (s.tellingAll ids frame) := by
  induction ids generalizing s with
  | nil => rfl
  | cons id rest ih =>
    have first : (id :: rest).forM (fun id => sendAndClose id frame) s =
        (sendAndClose id frame >>= fun _ => rest.forM fun id => sendAndClose id frame) s := rfl
    rw [first, bind_of_ok (sendAndClose_apply id frame s), ih]
    rfl

/-- The object with its fields saved, if it knows its channel. -/
def ChannelDO.saving (s : ChannelDO τ) : ChannelDO τ :=
  if nonEmpty s.channelId = none then s else { s with stored := some s.toMemory.toPersisted }

@[simp] theorem saving_toMemory (s : ChannelDO τ) : s.saving.toMemory = s.toMemory := by
  unfold ChannelDO.saving
  split <;> rfl

def ChannelDO.closing (s : ChannelDO τ) : ChannelDO τ := { s with channelState := .closed }

theorem after_alarm (s : ChannelDO τ) : after alarm s =
    match nonEmpty s.woken.channelId with
    | none => s.woken
    | some ch =>
      (s.woken.tellingAll s.woken.getWebSockets (terminate ch .timeout s.woken.inputs.now)).closing.saving := by
  unfold alarm
  simp only [ensureInitialized, after_modify_bind, after_get_bind]
  cases nonEmpty s.woken.channelId with
  | none => rfl
  | some ch =>
    dsimp only
    rw [after_bind_of_ok (forM_sendAndClose_apply _ _ _)]
    rfl

/-- The socket takes its role. -/
def ChannelDO.assigning (s : ChannelDO τ) (id : Nat) (attachment : WsAttachment) : ChannelDO τ :=
  { s with
    sockets := s.sockets.modify id fun socket => { socket with attachment := some attachment }
    trace := s.trace ++ [.assigned attachment.role id] }

/-- A new incarnation of the channel, before its answer. -/
def ChannelDO.creating (s : ChannelDO τ) (id : Nat) (ch sender : String) : ChannelDO τ :=
  ({ s with
    channelState := .waiting
    dappPeerId := some sender
    walletPeerId := none
    isReconnect := false
    pendingRequests := ∅ } : ChannelDO τ).assigning id ⟨.dapp, sender, ch⟩

theorem after_createChannel (id : Nat) (ch sender : String) (s : ChannelDO τ) :
    after (createChannel id ch sender) s =
      if id ∈ s.inputs.throws then s.creating id ch sender
      else ({ (s.creating id ch sender).trying (some id)
          (.notice ch s.inputs.now (.readyWaiting .dapp sender false)) with
        alarm := some (s.inputs.now + unpairedTtlMs) } : ChannelDO τ).saving := by
  simp [createChannel, setAttachment, updateSocket, record, setAlarm, persistState, ChannelDO.creating,
    ChannelDO.assigning, ChannelDO.saving]

/-- The wallet takes its role, before the dApp hears of it. -/
def ChannelDO.joining (s : ChannelDO τ) (id : Nat) (ch sender : String) (sealedJoinNull : Bool) : ChannelDO τ :=
  ({ s with
    walletPeerId := some sender
    isReconnect := sealedJoinNull
    channelState := .pendingAccept } : ChannelDO τ).assigning id ⟨.wallet, sender, ch⟩

/-- The join is taken back. -/
def ChannelDO.reverting (s : ChannelDO τ) (id : Nat) : ChannelDO τ :=
  { s with
    walletPeerId := none
    isReconnect := false
    channelState := .waiting
    trace := s.trace ++ [.revoked id] }

theorem after_handleJoin (id : Nat) (ch sender : String) (sealedJoinNull : Bool) (raw : τ) (s : ChannelDO τ)
    (waiting : s.channelState = .waiting) :
    after (handleJoin id ch sender sealedJoinNull raw) s =
      let joined := s.joining id ch sender sealedJoinNull
      let told := joined.trying (joined.findPeerWs .dapp) (.forwarded raw)
      if joined.reaches (joined.findPeerWs .dapp) then
        if id ∈ s.inputs.throws then told
        else (told.trying (some id) (.notice ch s.inputs.now (.readyWaiting .wallet sender sealedJoinNull))).saving
      else ((told.reverting id).telling id (terminate ch .channelNotFound s.inputs.now)).saving := by
  simp [handleJoin, waiting, setAttachment, updateSocket, record, persistState, revertJoin, after_ite,
    ChannelDO.joining, ChannelDO.assigning, ChannelDO.saving, ChannelDO.reverting]

theorem after_closeChannel_deleteAlarm (s : ChannelDO τ) :
    after (do closeChannel; deleteAlarm) s = ({ s.closing.saving with alarm := none } : ChannelDO τ) := rfl

theorem after_handleAccept (id : Nat) (ch sender target : String) (s : ChannelDO τ)
    (dapp : some sender = s.dappPeerId) (pending : s.channelState = .pendingAccept)
    (wallet : some target = s.walletPeerId) :
    after (handleAccept id ch sender target .dapp) s =
      let told := (s.trying (s.findPeerWs .dapp)
          (.notice ch s.inputs.now (.readyConnected .dapp sender target s.isReconnect))).trying (s.findPeerWs .wallet)
          (.notice ch s.inputs.now (.readyConnected .wallet target sender s.isReconnect))
      if s.reaches (s.findPeerWs .dapp) ∨ s.reaches (s.findPeerWs .wallet) then
        ({ told with
          channelState := .connected
          alarm := some (s.inputs.now + connectedTtlMs) } : ChannelDO τ).saving
      else { told.closing.saving with alarm := none } := by
  have same : ∀ frame, (s.trying (s.findPeerWs .dapp) frame).reaches (s.findPeerWs .wallet) =
      s.reaches (s.findPeerWs .wallet) := fun _ => rfl
  unfold handleAccept
  rw [after_get_bind, if_neg (by simp [dapp]), if_neg (by simp [pending]), if_neg (by simp [wallet])]
  simp only [after_trySend_bind, after_ite, same, after_closeChannel_deleteAlarm]
  by_cases first : s.reaches (s.findPeerWs .dapp) = true
  · simp [first, setAlarm, persistState, ChannelDO.saving]
  · by_cases second : s.reaches (s.findPeerWs .wallet) = true
    · simp [first, second, setAlarm, persistState, ChannelDO.saving]
    · simp [first, second]

theorem after_handleAccept_of_not (id : Nat) (ch sender target : String) {role : Role} {s : ChannelDO τ}
    (refused : ¬ ((role = .dapp ∧ some sender = s.dappPeerId) ∧ s.channelState = .pendingAccept ∧
      some target = s.walletPeerId)) :
    ∃ reason named, after (handleAccept id ch sender target role) s =
      s.telling id (.notice ch s.inputs.now (.terminate reason named)) := by
  unfold handleAccept
  rw [after_get_bind]
  split
  · exact ⟨_, _, after_reject _ _ _ _⟩
  · split
    · exact ⟨_, _, after_reject _ _ _ _⟩
    · split
      · exact ⟨_, _, after_sendAndClose _ _ _⟩
      · tauto

theorem after_handleClose (id : Nat) (raw : τ) (ch sender : String) (role : Role) (s : ChannelDO τ)
    (registered : some sender = s.peerId role) :
    after (handleClose id raw ch sender role) s =
      let told := s.dismissing (s.findPeerWs role.other) (.forwarded raw)
      { ({ told with sockets := told.sockets.modify id Socket.close } : ChannelDO τ).closing.saving with
        alarm := none } := by
  unfold handleClose
  rw [after_get_bind, if_neg (by simp [registered]), after_dismiss_bind]
  simp only [closeSocket, updateSocket, after_modify_bind]
  exact after_closeChannel_deleteAlarm _

/-- A message that is refused only reaches its sender. -/
theorem after_handleData (id : Nat) (raw : τ) (ch sender : String) (type : MessageType) (reqId : Option String)
    (role : Role) (s : ChannelDO τ) :
    (∃ reason, after (handleData id raw ch sender type reqId role) s =
      s.telling id (terminate ch reason s.inputs.now)) ∨
    (let tracked : ChannelDO τ := { s with pendingRequests := track s.pendingRequests type reqId }
      let told := tracked.trying (s.findPeerWs role.other) (.forwarded raw)
      after (handleData id raw ch sender type reqId role) s =
        if type = .req ∨ type = .res then told.saving else told) := by
  unfold handleData
  rw [after_get_bind]
  by_cases registered : some sender = s.peerId role
  · rw [if_neg (by simp [registered])]
    by_cases allowed : stateAllowsMessage s.channelState type role = true
    · rw [if_neg (by simp [allowed])]
      by_cases limited : type = .req ∧ reqId ≠ none ∧ pendingRequestLimit ≤ s.pendingRequests.card
      · rw [if_pos limited]
        exact Or.inl ⟨_, after_reject _ _ _ _⟩
      · rw [if_neg limited]
        right
        simp only [after_modify_bind, after_trySend_bind, after_ite]
        rfl
    · rw [if_pos (by simpa using allowed)]
      exact Or.inl ⟨_, after_reject _ _ _ _⟩
  · rw [if_pos registered]
    exact Or.inl ⟨_, after_reject _ _ _ _⟩

/-- The channel is closed for want of its dApp. -/
def ChannelDO.abandoning (s : ChannelDO τ) (ch : String) : ChannelDO τ :=
  { (s.dismissing (s.findPeerWs .wallet) (terminate ch .channelNotFound s.inputs.now)).closing.saving with
    alarm := none }

/-- The channel waits for another wallet. -/
def ChannelDO.releasing (s : ChannelDO τ) : ChannelDO τ :=
  ({ s with
    walletPeerId := none
    isReconnect := false
    channelState := .waiting
    alarm := some (s.inputs.now + unpairedTtlMs) } : ChannelDO τ).saving

/-- The object after one of its sockets was lost. -/
def ChannelDO.losing (s : ChannelDO τ) (id : Nat) : ChannelDO τ :=
  match s.attachment id, nonEmpty s.channelId with
  | some attachment, some ch =>
    match s.channelState, attachment.role with
    | .waiting, .dapp => s.abandoning ch
    | .pendingAccept, .dapp => s.abandoning ch
    | .pendingAccept, .wallet => s.releasing
    | _, _ => s
  | _, _ => s

theorem abandon_apply (ch : String) (s : ChannelDO τ) :
    handleDisconnect.abandon s ch s = .ok () (s.abandoning ch) := by
  unfold handleDisconnect.abandon
  rw [bind_of_ok (dismiss_apply _ _ _)]
  rfl

theorem handleDisconnect_apply (id : Nat) (s : ChannelDO τ) : handleDisconnect id s = .ok () (s.losing id) := by
  unfold handleDisconnect ChannelDO.losing
  rw [get_bind_apply]
  rcases s.attachment id with _ | attachment
  · rfl
  · rcases nonEmpty s.channelId with _ | ch
    · rfl
    · dsimp only
      rcases s.channelState with _ | _ | _ | _ | _ <;> rcases attachment.role with _ | _ <;>
        first | rfl | exact abandon_apply ch s

/-! ### Saving -/

/-- A handler leaves fields, storage and alarm alone, or ends with the fields saved. What
is alive then has an alarm, or was alive and kept the alarm it had. Where `threw` holds,
a join may also have stopped at its answer, before it was saved. -/
inductive Settles (threw : Prop) (s t : ChannelDO τ) : Prop where
  | kept (memory : t.toMemory = s.toMemory) (stored : t.stored = s.stored) (alarm : t.alarm = s.alarm)
  | saved (stored : t.stored = some t.toMemory.toPersisted) (channelId : t.channelId = s.channelId)
    (initialized : t.initialized = s.initialized)
    (dapp : t.dappPeerId = s.dappPeerId ∨ ∃ sender, sender ≠ "" ∧ t.dappPeerId = some sender)
    (alarm : t.channelState.live = true → t.alarm ≠ none ∨ s.channelState.live = true ∧ t.alarm = s.alarm)
  | halted (stopped : threw) (alive : s.channelState.live = true) (stored : t.stored = s.stored)
    (alarm : t.alarm = s.alarm)

variable {threw : Prop}

theorem Settles.telling (s : ChannelDO τ) (id : Nat) (frame : Frame τ) : Settles threw s (s.telling id frame) :=
  .kept rfl rfl rfl

/-- A change of the fields that is saved. -/
theorem Settles.saving {s t : ChannelDO τ} (known : nonEmpty s.channelId ≠ none) (channelId : t.channelId = s.channelId)
    (initialized : t.initialized = s.initialized)
    (dapp : t.dappPeerId = s.dappPeerId ∨ ∃ sender, sender ≠ "" ∧ t.dappPeerId = some sender)
    (alarm : t.channelState.live = true → t.alarm ≠ none ∨ s.channelState.live = true ∧ t.alarm = s.alarm) :
    Settles threw s t.saving := by
  have saved : t.saving = { t with stored := some t.toMemory.toPersisted } := by
    unfold ChannelDO.saving
    rw [if_neg (by rwa [channelId])]
  rw [saved]
  exact .saved rfl channelId initialized dapp alarm

/-- Closing the channel is saved and takes the alarm away. -/
theorem Settles.ending {s t : ChannelDO τ} (known : nonEmpty s.channelId ≠ none) (memory : t.toMemory = s.toMemory) :
    Settles threw s ({ t.closing.saving with alarm := none } : ChannelDO τ) := by
  have channelId : t.channelId = s.channelId := congrArg Memory.channelId memory
  have initialized : t.initialized = s.initialized := congrArg Memory.initialized memory
  have dapp : t.dappPeerId = s.dappPeerId := congrArg Memory.dappPeerId memory
  have saved : t.closing.saving = { t.closing with stored := some t.closing.toMemory.toPersisted } := by
    unfold ChannelDO.saving
    exact if_neg (show nonEmpty t.channelId ≠ none by rwa [channelId])
  rw [saved]
  exact .saved rfl channelId initialized (Or.inl dapp) (fun live => nomatch live)

/-- Whether a create finds the channel free, or its dApp gone. -/
def ChannelDO.allowsCreate (s : ChannelDO τ) : Bool :=
  match s.channelState with
  | .waiting => true
  | .connected => s.findPeerWs .dapp = none
  | .pendingAccept => false
  | .closed => true
  | .none => true

/-- A socket that has a role may only create again as the dApp it was. -/
def ChannelDO.mayCreate (s : ChannelDO τ) (id : Nat) (sender : String) : Bool :=
  s.attachment id = none || nonEmpty s.dappPeerId = none || some sender = s.dappPeerId

/-- Whether a join gets as far as its answer. -/
def ChannelDO.grantsJoin (s : ChannelDO τ) (id : Nat) : Bool :=
  s.attachment id = none && s.channelState = .waiting && s.reaches (s.findPeerWs .dapp)

/-- The answer to a create, if it is granted, does not throw. -/
def ChannelDO.answersCreate (s : ChannelDO τ) (id : Nat) : ClientMessage → Prop
  | .create _ sender => s.mayCreate id sender = true → s.allowsCreate = true → id ∉ s.inputs.throws
  | _ => True

/-- The answer to a join, if it is granted, does not throw. -/
def ChannelDO.answersJoin (s : ChannelDO τ) (id : Nat) : ClientMessage → Prop
  | .join _ _ _ => s.grantsJoin id = true → id ∉ s.inputs.throws
  | _ => True

/-- Changing an entry in a way that a test does not see. -/
private theorem findIdx?_modify {α : Type} {p : α → Bool} {f : α → α} (items : List α) (i : Nat)
    (same : ∀ x, items[i]? = some x → p (f x) = p x) : (items.modify i f).findIdx? p = items.findIdx? p := by
  induction items generalizing i with
  | nil => simp
  | cons x rest ih =>
    cases i with
    | zero =>
      have first : p (f x) = p x := same x rfl
      simp [List.findIdx?_cons, first]
    | succ i =>
      have later := ih i same
      simp [List.findIdx?_cons, later]

/-- Giving a socket without a role the wallet's does not change who is found as dApp. -/
theorem findPeerWs_assigning {s : ChannelDO τ} {id : Nat} (unassigned : s.attachment id = none)
    (attachment : WsAttachment) (wallet : attachment.role = .wallet) :
    (s.assigning id attachment).findPeerWs .dapp = s.findPeerWs .dapp := by
  apply findIdx?_modify
  intro socket found
  have bare : socket.attachment = none := by simpa [ChannelDO.attachment, found] using unassigned
  simp [Socket.serves, bare, wallet]

section Handlers
variable {s : ChannelDO τ} {id : Nat} (known : nonEmpty s.channelId ≠ none)
include known

theorem createChannel_settles {t : ChannelDO τ} {ch sender : String} (memory : t.toMemory = s.toMemory)
    (inputs : t.inputs = s.inputs) (valid : sender ≠ "") (answered : id ∉ s.inputs.throws) :
    Settles threw s (after (createChannel id ch sender) t) := by
  have channelId : t.channelId = s.channelId := congrArg Memory.channelId memory
  have initialized : t.initialized = s.initialized := congrArg Memory.initialized memory
  rw [after_createChannel, if_neg (by rwa [inputs])]
  exact .saving known channelId initialized (Or.inr ⟨sender, valid, rfl⟩) fun _ => Or.inl (by simp)

theorem handleCreate_settles {ch sender : String} (valid : sender ≠ "")
    (answered : s.allowsCreate = true → id ∉ s.inputs.throws) :
    Settles threw s (after (handleCreate id ch sender) s) := by
  unfold handleCreate
  rw [after_get_bind]
  unfold ChannelDO.allowsCreate at answered
  cases state : s.channelState with
  | waiting =>
    rw [state] at answered
    dsimp only
    rw [after_dismiss_bind]
    exact createChannel_settles known rfl rfl valid (answered rfl)
  | connected =>
    rw [state] at answered
    cases found : s.findPeerWs .dapp with
    | some dapp =>
      dsimp only
      rw [after_reject]
      exact .telling _ _ _
    | none =>
      dsimp only
      rw [after_dismiss_bind]
      exact createChannel_settles known rfl rfl valid (answered (by simp [found]))
  | pendingAccept =>
    dsimp only
    rw [after_reject]
    exact .telling _ _ _
  | closed =>
    rw [state] at answered
    exact createChannel_settles known rfl rfl valid (answered rfl)
  | none =>
    rw [state] at answered
    exact createChannel_settles known rfl rfl valid (answered rfl)

theorem handleJoin_settles {ch sender : String} {sealedJoinNull : Bool} {raw : τ}
    (unassigned : s.attachment id = none) :
    Settles (¬ s.answersJoin id (.join ch sender sealedJoinNull)) s
      (after (handleJoin id ch sender sealedJoinNull raw) s) := by
  by_cases waiting : s.channelState = .waiting
  · have live : s.channelState.live = true := by
      rw [waiting]
      rfl
    have sameDapp : (s.joining id ch sender sealedJoinNull).findPeerWs .dapp = s.findPeerWs .dapp :=
      findPeerWs_assigning unassigned _ rfl
    rw [after_handleJoin _ _ _ _ _ _ waiting]
    dsimp only
    split
    · rename_i reached
      rw [sameDapp] at reached
      split
      · rename_i thrown
        have granted : s.grantsJoin id = true := by
          simp only [ChannelDO.grantsJoin, unassigned, waiting, decide_true, Bool.true_and]
          exact reached
        exact .halted (fun answered => answered granted thrown) live rfl rfl
      · exact .saving known rfl rfl (Or.inl rfl) fun _ => Or.inr ⟨live, rfl⟩
    · exact .saving known rfl rfl (Or.inl rfl) fun _ => Or.inr ⟨live, rfl⟩
  · unfold handleJoin
    rw [after_get_bind, if_pos waiting, after_reject]
    exact .telling _ _ _

theorem handleAccept_settles {ch sender target : String} {role : Role} :
    Settles threw s (after (handleAccept id ch sender target role) s) := by
  by_cases accepted : (role = .dapp ∧ some sender = s.dappPeerId) ∧ s.channelState = .pendingAccept ∧
      some target = s.walletPeerId
  · obtain ⟨⟨rfl, dapp⟩, pending, wallet⟩ := accepted
    rw [after_handleAccept _ _ _ _ _ dapp pending wallet]
    dsimp only
    split
    · exact .saving known rfl rfl (Or.inl rfl) fun _ => Or.inl (by simp)
    · exact .ending known rfl
  · obtain ⟨reason, named, same⟩ := after_handleAccept_of_not id ch sender target accepted
    rw [same]
    exact .telling _ _ _

theorem handleData_settles {raw : τ} {ch sender : String} {type : MessageType} {reqId : Option String} {role : Role} :
    Settles threw s (after (handleData id raw ch sender type reqId role) s) := by
  rcases after_handleData id raw ch sender type reqId role s with ⟨reason, same⟩ | same
  · rw [same]
    exact .telling _ _ _
  · rw [same]
    split
    · refine .saving known rfl rfl (Or.inl rfl) fun live => Or.inr ⟨live, rfl⟩
    · rename_i other
      -- only requests and responses touch the set of unanswered requests
      have unchanged : track s.pendingRequests type reqId = s.pendingRequests := by
        unfold track
        split <;> simp_all
      refine .kept ?_ rfl rfl
      simp [unchanged]

theorem handleClose_settles {raw : τ} {ch sender : String} {role : Role} :
    Settles threw s (after (handleClose id raw ch sender role) s) := by
  by_cases registered : some sender = s.peerId role
  · rw [after_handleClose _ _ _ _ _ _ registered]
    exact .ending known rfl
  · unfold handleClose
    rw [after_get_bind, if_pos registered, after_reject]
    exact .telling _ _ _

end Handlers

/-- What a message does to fields, storage and alarm. -/
theorem routeMessage_settles {s : ChannelDO τ} {id : Nat} {msg : ClientMessage} {raw : τ}
    (named : msg.channelId ≠ "") (valid : msg.fromPeer ≠ "") (answered : s.answersCreate id msg) :
    Settles (¬ s.answersJoin id msg) s (after (routeMessage id msg raw) s) := by
  unfold routeMessage
  rw [after_get_bind]
  split
  · rw [after_reject]
    exact .telling _ _ _
  · rename_i same
    have known : nonEmpty s.channelId ≠ none := by
      rw [← not_not.mp same]
      simp [nonEmpty, named]
    cases attached : s.attachment id with
    | none =>
      dsimp only
      cases msg with
      | create ch sender =>
        exact handleCreate_settles known valid (answered (by simp [ChannelDO.mayCreate, attached]))
      | join ch sender sealedJoinNull => exact handleJoin_settles known attached
      | _ =>
        unfold handleFirstMessage
        rw [after_reject]
        exact .telling _ _ _
    | some attachment =>
      dsimp only
      cases msg with
      | create ch sender =>
        unfold handleMessage
        rw [after_get_bind]
        split
        · rw [after_reject]
          exact .telling _ _ _
        · rename_i allowed
          exact handleCreate_settles known valid (answered (by
            simp only [ChannelDO.mayCreate, Bool.or_eq_true, decide_eq_true_eq]
            tauto))
      | join ch sender sealedJoinNull =>
        unfold handleMessage
        rw [after_reject]
        exact .telling _ _ _
      | accept ch sender target => exact handleAccept_settles known
      | req ch sender reqId => exact handleData_settles known
      | res ch sender reqId => exact handleData_settles known
      | evt ch sender reqId => exact handleData_settles known
      | ping ch sender => exact handleData_settles known
      | pong ch sender => exact handleData_settles known
      | close ch sender reason => exact handleClose_settles known

/-- A text whose message is known, without reading it again. -/
def ChannelDO.hearing (s : ChannelDO τ) (inputs : Inputs) (id : Nat) (msg : ClientMessage) (raw : τ) : ChannelDO τ :=
  if s.canSend id then after (routeMessage id msg raw) ({ s with inputs } : ChannelDO τ).woken else { s with inputs }

theorem step_text [Wire τ] {s : ChannelDO τ} {inputs : Inputs} {id : Nat} {raw : τ} {msg : ClientMessage}
    (read : readText raw = .ok msg) :
    step s (inputs, .message id (.text raw)) = s.hearing inputs id msg raw := by
  change after (act (.message id (.text raw))) { s with inputs } = _
  unfold act ChannelDO.hearing
  rw [after_get_bind]
  have same : ({ s with inputs } : ChannelDO τ).canSend id = s.canSend id := rfl
  rw [same]
  split
  · unfold webSocketMessage
    simp only [ensureInitialized, after_modify_bind, after_get_bind, read]
  · rfl

theorem losing_settles (s : ChannelDO τ) (id : Nat) : Settles threw s (s.losing id) := by
  unfold ChannelDO.losing
  rcases s.attachment id with _ | attachment
  · exact .kept rfl rfl rfl
  · rcases known : nonEmpty s.channelId with _ | ch
    · exact .kept rfl rfl rfl
    · have known : nonEmpty s.channelId ≠ none := by simp [known]
      dsimp only
      split
      · exact .ending known rfl
      · exact .ending known rfl
      · exact .saving known rfl rfl (Or.inl rfl) fun _ => Or.inl (by simp)
      · exact .kept rfl rfl rfl

/-! ### Reading the sample texts -/

namespace Sample

def dapp : String := "AQEBAQEBAQEBAQEBAQEBAQEBAQEBAQEBAQEBAQEBAQE"
def wallet : String := "AgICAgICAgICAgICAgICAgICAgICAgICAgICAgICAgI"

/-- `readText` on the characters of a text, which the kernel does not have to decode. -/
def readChars (text : List Char) : Except CloseReason ClientMessage :=
  if maxMessageBytes < (text.map fun c => if c.toNat < 0x10000 then 1 else 2).sum then .error .payloadTooLarge
  else match parseMessage dialect (Json.parse text) with
    | .error e => .error e.toCloseReason
    | .ok msg => .ok msg

theorem readText_ofList (raw : String) {text : List Char} (same : raw = String.ofList text) :
    readText raw = readChars text := by
  have chars : raw.toList = text := by rw [same, String.toList_ofList]
  rw [← chars]
  rfl

set_option maxRecDepth 4000 in
theorem read_create : readText create = .ok (.create channel dapp) := by
  rw [readText_ofList create rfl]
  decide +kernel

set_option maxRecDepth 4000 in
theorem read_join : readText join = .ok (.join channel wallet true) := by
  rw [readText_ofList join rfl]
  decide +kernel

set_option maxRecDepth 4000 in
theorem read_accept : readText accept = .ok (.accept channel dapp wallet) := by
  rw [readText_ofList accept rfl]
  decide +kernel

end Sample

end WalletPair.Relay.Worker
