import WalletPair.Relay.Worker.Sockets
import WalletPair.Relay.Worker.StaleSockets

/-! Routing goes by the first open socket of a role. It reaches the registered peer as
long as every open socket with a role is the one that holds it, and the channel's state
and ids fit what its attachment says. The invariant is stated for the fields in memory
and for those in storage, since an eviction puts the second in place of the first. -/

namespace WalletPair.Relay.Worker
open WalletPair.Lib.Program WalletPair.Lib.Run WalletPair.Sdk

variable {τ : Type} {name : String}

/-! ### The invariant -/

/-- The fields agree with a socket that serves a role. -/
def Memory.Expects (m : Memory) (attachment : WsAttachment) : Prop :=
  match attachment.role with
  | .dapp => m.channelState.live = true ∧ m.dappPeerId = some attachment.peerId
  | .wallet => (m.channelState = .pendingAccept ∨ m.channelState = .connected) ∧
      m.walletPeerId = some attachment.peerId

/-- The fields that an eviction leaves to find. -/
def ChannelDO.recovered (s : ChannelDO τ) : Memory :=
  match s.stored with
  | some stored => ({} : Memory).load stored
  | none => {}

/-- The fields agree with every socket that serves a role. -/
def Fits (m : Memory) (s : ChannelDO τ) : Prop := ∀ id attachment, s.Serves id attachment → m.Expects attachment

/-- Every open socket with a role holds it, and fits the fields of the object. -/
structure Routed (s : ChannelDO τ) : Prop where
  holds : ∀ id attachment, s.Serves id attachment → s.holder attachment.role = some id
  memory : s.initialized = true → Fits s.toMemory s
  stored : Fits s.recovered s
  asleep : s.initialized = false → s.toMemory = {}
  dapp : s.dappPeerId ≠ some ""

/-- At most one open socket carries each role. -/
def OneOpenPerRole (s : ChannelDO τ) : Prop :=
  ∀ id other a b, s.Serves id a → s.Serves other b → a.role = b.role → id = other

theorem Routed.oneOpenPerRole {s : ChannelDO τ} (routed : Routed s) : OneOpenPerRole s := by
  intro id other a b first second same
  have left := routed.holds id a first
  have right := routed.holds other b second
  rw [same, right] at left
  exact (Option.some.inj left).symm

theorem expects_congr {m n : Memory} {attachment : WsAttachment} (state : n.channelState = m.channelState)
    (dapp : n.dappPeerId = m.dappPeerId) (wallet : n.walletPeerId = m.walletPeerId) (fits : m.Expects attachment) :
    n.Expects attachment := by
  unfold Memory.Expects at fits ⊢
  cases role : attachment.role with
  | dapp =>
    rw [role] at fits
    exact ⟨state ▸ fits.1, dapp ▸ fits.2⟩
  | wallet =>
    rw [role] at fits
    exact ⟨state ▸ fits.1, wallet ▸ fits.2⟩

theorem nonEmpty_ne_empty (field : Option String) : nonEmpty field ≠ some "" := by
  intro empty
  have same := nonEmpty_some empty
  rw [same] at empty
  simp [nonEmpty] at empty

/-- Saving the fields makes them those an eviction leaves to find. -/
theorem recovered_saving_expects {s : ChannelDO τ} {attachment : WsAttachment} (known : nonEmpty s.channelId ≠ none)
    (memory : s.toMemory.Expects attachment) (dapp : s.dappPeerId ≠ some "") :
    s.saving.recovered.Expects attachment := by
  unfold ChannelDO.saving
  rw [if_neg known]
  refine expects_congr (m := s.toMemory) rfl ?_ rfl memory
  change nonEmpty (some (s.dappPeerId.getD "")) = s.dappPeerId
  cases present : s.dappPeerId with
  | none => rfl
  | some peer =>
    rw [present] at dapp
    simp only [Option.getD_some, nonEmpty]
    rw [if_neg fun empty => dapp (congrArg some empty)]

/-! ### Holders -/

section Holding
variable {s : ChannelDO τ} {id : Nat} {role : Role}

theorem holder_append (o : Obs τ) {t : ChannelDO τ} (same : t.trace = s.trace ++ [o]) :
    t.holder role = ((s.trace.foldl Holders.note {}).note o).of role := by
  unfold ChannelDO.holder
  rw [same, List.foldl_append]
  rfl

theorem holder_of_trace {t : ChannelDO τ} (same : t.trace = s.trace) : t.holder role = s.holder role := by
  unfold ChannelDO.holder
  rw [same]

theorem holder_traceSending {frame : Frame τ} {t : ChannelDO τ} (same : t.trace = s.traceSending id frame) :
    t.holder role = s.holder role := by
  unfold ChannelDO.traceSending at same
  split at same
  · rw [holder_append _ same]
    rfl
  · exact holder_of_trace same

theorem holder_telling (frame : Frame τ) : (s.telling id frame).holder role = s.holder role :=
  holder_traceSending (show (s.telling id frame).trace = s.traceSending id frame from rfl)

theorem holder_trying (peer : Option Nat) (frame : Frame τ) : (s.trying peer frame).holder role = s.holder role := by
  cases peer with
  | none => exact holder_of_trace rfl
  | some id => exact holder_traceSending (show (s.trying (some id) frame).trace = s.traceSending id frame from rfl)

theorem holder_saving : s.saving.holder role = s.holder role := by
  apply holder_of_trace
  unfold ChannelDO.saving
  split <;> rfl

end Holding

/-! ### Handlers -/

/-- The invariant in an object that is awake. -/
structure Tidy (s : ChannelDO τ) : Prop where
  awake : s.initialized = true
  holds : ∀ id attachment, s.Serves id attachment → s.holder attachment.role = some id
  memory : Fits s.toMemory s
  stored : Fits s.recovered s
  dapp : s.dappPeerId ≠ some ""

/-- Only sockets that are not open throw. -/
def ChannelDO.Calm (s : ChannelDO τ) : Prop := ∀ id ∈ s.inputs.throws, s.isOpen id = false

def ChannelDO.Vacant (s : ChannelDO τ) : Prop := ∀ id attachment, ¬ s.Serves id attachment

theorem serves_saving {s : ChannelDO τ} {id : Nat} {attachment : WsAttachment} :
    s.saving.Serves id attachment ↔ s.Serves id attachment := by
  unfold ChannelDO.saving
  split <;> exact Iff.rfl

theorem Tidy.vacant {s : ChannelDO τ} (awake : s.initialized = true) (dapp : s.dappPeerId ≠ some "")
    (vacant : s.Vacant) : Tidy s :=
  ⟨awake, fun id a serves => absurd serves (vacant id a), fun id a serves => absurd serves (vacant id a),
    fun id a serves => absurd serves (vacant id a), dapp⟩

/-- An object with other sockets and other words on record, but the same fields. -/
theorem Tidy.fewer {s t : ChannelDO τ} (tidy : Tidy s) (memory : t.toMemory = s.toMemory) (stored : t.stored = s.stored)
    (serves : ∀ id attachment, t.Serves id attachment → s.Serves id attachment)
    (holder : ∀ role, t.holder role = s.holder role) : Tidy t := by
  have recovered : t.recovered = s.recovered := by
    unfold ChannelDO.recovered
    rw [stored]
  refine ⟨?_, ?_, ?_, ?_, ?_⟩
  · exact (congrArg Memory.initialized memory).trans tidy.awake
  · intro id a serving
    rw [holder]
    exact tidy.holds id a (serves id a serving)
  · intro id a serving
    rw [memory]
    exact tidy.memory id a (serves id a serving)
  · intro id a serving
    rw [recovered]
    exact tidy.stored id a (serves id a serving)
  · exact fun empty => tidy.dapp ((congrArg Memory.dappPeerId memory).symm.trans empty)

theorem Tidy.saved {s : ChannelDO τ} (known : nonEmpty s.channelId ≠ none) (awake : s.initialized = true)
    (holds : ∀ id attachment, s.Serves id attachment → s.holder attachment.role = some id)
    (memory : Fits s.toMemory s) (dapp : s.dappPeerId ≠ some "") : Tidy s.saving := by
  refine ⟨?_, ?_, ?_, ?_, ?_⟩
  · exact (congrArg Memory.initialized (saving_toMemory s)).trans awake
  · intro id a serving
    rw [holder_saving]
    exact holds id a (serves_saving.mp serving)
  · intro id a serving
    rw [saving_toMemory]
    exact memory id a (serves_saving.mp serving)
  · intro id a serving
    exact recovered_saving_expects known (memory id a (serves_saving.mp serving)) dapp
  · exact fun empty => dapp ((congrArg Memory.dappPeerId (saving_toMemory s)).symm.trans empty)

theorem Tidy.telling {s : ChannelDO τ} (tidy : Tidy s) (id : Nat) (frame : Frame τ) : Tidy (s.telling id frame) :=
  tidy.fewer rfl rfl (fun _ _ serves => (serves_of_telling serves).1) fun _ => holder_telling frame

theorem Tidy.reject {s : ChannelDO τ} (tidy : Tidy s) (id : Nat) (ch : String) (reason : CloseReason) :
    Tidy (after (reject id ch reason) s) := by
  rw [after_reject]
  exact tidy.telling id _

/-- Telling and closing whoever is found under a role leaves nobody under that role. -/
theorem role_ne_of_dismissing {s : ChannelDO τ} (sound : Sound name s) (tidy : Tidy s) (calm : s.Calm) {role : Role}
    {frame : Frame τ} {id : Nat} {a : WsAttachment} (serves : (s.dismissing (s.findPeerWs role) frame).Serves id a) :
    s.Serves id a ∧ a.role ≠ role := by
  obtain ⟨before, gone⟩ := serves_of_dismissing serves
  refine ⟨before, ?_⟩
  cases found : s.findPeerWs role with
  | none => exact role_ne_of_findPeerWs sound found before
  | some other =>
    intro same
    obtain ⟨b, found', role'⟩ := serves_of_findPeerWs found
    have one := tidy.holds id a before
    have two := tidy.holds other b found'
    rw [same, ← role', two] at one
    have equal : id = other := (Option.some.inj one).symm
    have throws := gone other found equal
    have opened := isOpen_of_serves found'
    rw [calm other throws] at opened
    cases opened

section Handlers
variable {s : ChannelDO τ} {id : Nat}

theorem not_throws_of_serves (calm : s.Calm) {a : WsAttachment} (serves : s.Serves id a) : id ∉ s.inputs.throws := by
  intro throws
  have opened := isOpen_of_serves serves
  rw [calm id throws] at opened
  cases opened

variable (known : nonEmpty s.channelId ≠ none)
include known

/-- With nobody under either role, the creator becomes the only one. -/
theorem createChannel_tidy {ch sender : String} (vacant : s.Vacant) (calm : s.Calm) (awake : s.initialized = true)
    (valid : sender ≠ "") : Tidy (after (createChannel id ch sender) s) := by
  have named : (some sender : Option String) ≠ some "" := fun empty => valid (Option.some.inj empty)
  have alone : ∀ other a, (s.creating id ch sender).Serves other a →
      other = id ∧ a = ⟨.dapp, sender, ch⟩ ∧ s.isOpen id = true := by
    intro other a serves
    rcases serves_of_assigning serves with ⟨rfl, rfl, opened⟩ | ⟨-, before⟩
    · exact ⟨rfl, rfl, opened⟩
    · exact absurd before (vacant other a)
  have held : (s.creating id ch sender).holder .dapp = some id := by
    rw [holder_append (.assigned .dapp id) (show (s.creating id ch sender).trace = s.trace ++ _ from rfl)]
    rfl
  rw [after_createChannel]
  split
  · rename_i throws
    refine .vacant awake named fun other a serves => ?_
    have opened := (alone other a serves).2.2
    rw [calm id throws] at opened
    cases opened
  · refine .saved known awake ?_ ?_ named
    · intro other a serves
      obtain ⟨rfl, rfl, -⟩ := alone other a serves
      change ((s.creating other ch sender).trying (some other) _).holder .dapp = some other
      rw [holder_trying]
      exact held
    · intro other a serves
      obtain ⟨-, rfl, -⟩ := alone other a serves
      exact ⟨rfl, rfl⟩

omit known in
theorem Tidy.live {a : WsAttachment} (tidy : Tidy s) (serves : s.Serves id a) :
    s.channelState.live = true ∧ (s.channelState = .waiting → a.role = .dapp) := by
  have fits := tidy.memory id a serves
  unfold Memory.Expects at fits
  cases role : a.role with
  | dapp =>
    rw [role] at fits
    exact ⟨fits.1, fun _ => rfl⟩
  | wallet =>
    rw [role] at fits
    rcases fits.1 with state | state
    · rw [state]
      exact ⟨rfl, nofun⟩
    · rw [state]
      exact ⟨rfl, nofun⟩

omit known in
theorem Tidy.vacant_of_not_live (tidy : Tidy s) (dead : s.channelState.live = false) : s.Vacant := by
  intro other a serves
  have alive := (tidy.live serves).1
  rw [dead] at alive
  cases alive

omit known in
theorem calm_dismissing (calm : s.Calm) (peer : Option Nat) (frame : Frame τ) : (s.dismissing peer frame).Calm := by
  intro other throws
  cases peer with
  | none => exact calm other throws
  | some peer =>
    apply Bool.eq_false_iff.mpr
    intro opened
    have told : (s.telling peer frame).isOpen other = true := opened
    have before := (isOpen_of_telling told).1
    rw [calm other throws] at before
    cases before

theorem handleCreate_tidy {ch sender : String} (sound : Sound name s) (tidy : Tidy s) (calm : s.Calm)
    (valid : sender ≠ "") : Tidy (after (handleCreate id ch sender) s) := by
  unfold handleCreate
  rw [after_get_bind]
  cases state : s.channelState with
  | waiting =>
    dsimp only
    rw [after_dismiss_bind]
    refine createChannel_tidy (s := s.dismissing _ _) known (fun other a serves => ?_) (calm_dismissing calm _ _)
      tidy.awake valid
    obtain ⟨before, role⟩ := role_ne_of_dismissing sound tidy calm serves
    exact role ((tidy.live before).2 state)
  | connected =>
    dsimp only
    cases found : s.findPeerWs .dapp with
    | some dapp => exact tidy.reject _ _ _
    | none =>
      dsimp only
      rw [after_dismiss_bind]
      refine createChannel_tidy (s := s.dismissing _ _) known (fun other a serves => ?_) (calm_dismissing calm _ _)
        tidy.awake valid
      obtain ⟨before, role⟩ := role_ne_of_dismissing sound tidy calm serves
      cases same : a.role with
      | dapp => exact role_ne_of_findPeerWs sound found before same
      | wallet => exact role same
  | pendingAccept => exact tidy.reject _ _ _
  | closed => exact createChannel_tidy known (tidy.vacant_of_not_live (by rw [state]; rfl)) calm tidy.awake valid
  | none => exact createChannel_tidy known (tidy.vacant_of_not_live (by rw [state]; rfl)) calm tidy.awake valid

omit known in
/-- Once the wallet has its role, the dApp serves as before and no other wallet does. -/
theorem serves_of_joining {ch sender : String} {sealedJoinNull : Bool} {other : Nat} {a : WsAttachment}
    (tidy : Tidy s) (waiting : s.channelState = .waiting)
    (serves : (s.joining id ch sender sealedJoinNull).Serves other a) :
    (other = id ∧ a = ⟨.wallet, sender, ch⟩ ∧ s.isOpen id = true) ∨ (s.Serves other a ∧ a.role = .dapp) := by
  rcases serves_of_assigning serves with new | ⟨-, before⟩
  · exact Or.inl new
  · exact Or.inr ⟨before, (tidy.live before).2 waiting⟩

theorem handleJoin_tidy {ch sender : String} {sealedJoinNull : Bool} {raw : τ} (tidy : Tidy s) (calm : s.Calm) :
    Tidy (after (handleJoin id ch sender sealedJoinNull raw) s) := by
  by_cases waiting : s.channelState = .waiting
  · have joined : ∀ role, (s.joining id ch sender sealedJoinNull).holder role =
        (match role with
        | .dapp => s.holder .dapp
        | .wallet => some id) := by
      intro role
      rw [holder_append (.assigned .wallet id) (show (s.joining id ch sender sealedJoinNull).trace = s.trace ++ _ from rfl)]
      cases role <;> rfl
    have dappFits : ∀ other a, s.Serves other a → a.role = .dapp → ∀ m : Memory, m.channelState.live = true →
        m.dappPeerId = s.dappPeerId → m.Expects a := by
      intro other a before role m live dapp
      have fits := tidy.memory other a before
      unfold Memory.Expects at fits ⊢
      rw [role] at fits ⊢
      exact ⟨live, dapp.trans fits.2⟩
    rw [after_handleJoin _ _ _ _ _ _ waiting]
    dsimp only
    split
    · have holds : ∀ other a, (s.joining id ch sender sealedJoinNull).Serves other a →
          (s.joining id ch sender sealedJoinNull).holder a.role = some other := by
        intro other a serves
        rw [joined]
        rcases serves_of_joining tidy waiting serves with ⟨rfl, rfl, -⟩ | ⟨before, role⟩
        · rfl
        · have held := tidy.holds other a before
          rw [role] at held ⊢
          exact held
      have memory : Fits (s.joining id ch sender sealedJoinNull).toMemory (s.joining id ch sender sealedJoinNull) := by
        intro other a serves
        rcases serves_of_joining tidy waiting serves with ⟨rfl, rfl, -⟩ | ⟨before, role⟩
        · exact ⟨Or.inl rfl, rfl⟩
        · exact dappFits other a before role _ rfl rfl
      split
      · rename_i throws
        -- the wallet cannot be sent to, so it does not serve; storage still has the state before
        refine ⟨tidy.awake, ?_, memory, ?_, tidy.dapp⟩
        · intro other a serves
          rw [holder_trying]
          exact holds other a serves
        · intro other a serves
          rcases serves_of_joining tidy waiting serves with ⟨rfl, rfl, opened⟩ | ⟨before, -⟩
          · rw [calm other throws] at opened
            cases opened
          · exact tidy.stored other a before
      · refine .saved known tidy.awake ?_ memory tidy.dapp
        intro other a serves
        rw [holder_trying, holder_trying]
        exact holds other a serves
    · have left : ∀ other a, ((((s.joining id ch sender sealedJoinNull).trying
          ((s.joining id ch sender sealedJoinNull).findPeerWs .dapp) (.forwarded raw)).reverting id).telling id
            (terminate ch .channelNotFound s.inputs.now)).Serves other a → s.Serves other a ∧ a.role = .dapp := by
        intro other a serves
        obtain ⟨still, thrown⟩ := serves_of_telling serves
        rcases serves_of_joining tidy waiting still with ⟨rfl, -, opened⟩ | before
        · rw [calm other (thrown rfl)] at opened
          cases opened
        · exact before
      refine .saved known tidy.awake ?_ ?_ tidy.dapp
      · intro other a serves
        obtain ⟨before, role⟩ := left other a serves
        rw [holder_telling, holder_append (.revoked id) rfl]
        have held := tidy.holds other a before
        rw [role] at held ⊢
        have forwarded : ((s.joining id ch sender sealedJoinNull).trying
            ((s.joining id ch sender sealedJoinNull).findPeerWs .dapp) (.forwarded raw)).holder .dapp = s.holder .dapp :=
          (holder_trying _ _).trans (joined .dapp)
        exact forwarded.trans held
      · intro other a serves
        obtain ⟨before, role⟩ := left other a serves
        exact dappFits other a before role _ rfl rfl
  · unfold handleJoin
    rw [after_get_bind, if_pos waiting]
    exact tidy.reject _ _ _

omit known in
/-- With both roles vacant, the channel can be closed. -/
theorem closing_tidy {t : ChannelDO τ} (tidy : Tidy s) (memory : t.toMemory = s.toMemory) (vacant : t.Vacant) :
    Tidy ({ t.closing.saving with alarm := none } : ChannelDO τ) := by
  have awake : t.initialized = true := (congrArg Memory.initialized memory).trans tidy.awake
  have dapp : t.dappPeerId ≠ some "" :=
    fun empty => tidy.dapp ((congrArg Memory.dappPeerId memory).symm.trans empty)
  refine .vacant ?_ ?_ ?_
  · exact (congrArg Memory.initialized (saving_toMemory t.closing)).trans awake
  · exact fun empty => dapp ((congrArg Memory.dappPeerId (saving_toMemory t.closing)).symm.trans empty)
  · intro other a serves
    have before : t.closing.Serves other a := serves_saving.mp serves
    exact vacant other a before

omit known in
/-- An open socket that is found can be reached. -/
theorem findPeerWs_of_not_reaches (calm : s.Calm) {role : Role} (lost : s.reaches (s.findPeerWs role) = false) :
    s.findPeerWs role = none := by
  cases found : s.findPeerWs role with
  | none => rfl
  | some other =>
    obtain ⟨a, serves, -⟩ := serves_of_findPeerWs found
    have heard := not_throws_of_serves calm serves
    simp [ChannelDO.reaches, found, heard] at lost

theorem handleAccept_tidy {ch sender target : String} {role : Role} (sound : Sound name s) (tidy : Tidy s)
    (calm : s.Calm) : Tidy (after (handleAccept id ch sender target role) s) := by
  by_cases accepted : (role = .dapp ∧ some sender = s.dappPeerId) ∧ s.channelState = .pendingAccept ∧
      some target = s.walletPeerId
  · obtain ⟨⟨rfl, dapp⟩, pending, wallet⟩ := accepted
    rw [after_handleAccept _ _ _ _ _ dapp pending wallet]
    dsimp only
    split
    · refine .saved known tidy.awake ?_ ?_ tidy.dapp
      · intro other a serves
        change ((s.trying _ _).trying _ _).holder a.role = some other
        rw [holder_trying, holder_trying]
        exact tidy.holds other a serves
      · intro other a serves
        have fits := tidy.memory other a serves
        unfold Memory.Expects at fits ⊢
        cases same : a.role with
        | dapp =>
          rw [same] at fits
          exact ⟨rfl, fits.2⟩
        | wallet =>
          rw [same] at fits
          exact ⟨Or.inr rfl, fits.2⟩
    · rename_i lost
      refine closing_tidy tidy rfl fun other a serves => ?_
      have nobody : ∀ role, s.findPeerWs role = none := by
        intro role
        apply findPeerWs_of_not_reaches calm
        cases role with
        | dapp => simpa using fun reached => lost (Or.inl reached)
        | wallet => simpa using fun reached => lost (Or.inr reached)
      exact role_ne_of_findPeerWs sound (nobody a.role) serves rfl
  · obtain ⟨reason, named, same⟩ := after_handleAccept_of_not id ch sender target accepted
    rw [same]
    exact tidy.telling id _

theorem handleData_tidy {raw : τ} {ch sender : String} {type : MessageType} {reqId : Option String} {role : Role}
    (tidy : Tidy s) : Tidy (after (handleData id raw ch sender type reqId role) s) := by
  rcases after_handleData id raw ch sender type reqId role s with ⟨reason, same⟩ | same
  · rw [same]
    exact tidy.telling id _
  · rw [same]
    have fits : ∀ other a, s.Serves other a → ({ s.toMemory with
        pendingRequests := track s.pendingRequests type reqId } : Memory).Expects a :=
      fun other a serves => expects_congr (m := s.toMemory) rfl rfl rfl (tidy.memory other a serves)
    split
    · refine .saved known tidy.awake ?_ fits tidy.dapp
      intro other a serves
      rw [holder_trying]
      exact tidy.holds other a serves
    · refine ⟨tidy.awake, ?_, fits, tidy.stored, tidy.dapp⟩
      intro other a serves
      rw [holder_trying]
      exact tidy.holds other a serves

omit known in
/-- The close frame of the socket that holds its role ends the channel for both. -/
theorem handleClose_tidy {raw : τ} {ch sender : String} {attachment : WsAttachment} (sound : Sound name s)
    (tidy : Tidy s) (calm : s.Calm)
    (current : some sender = s.peerId attachment.role → s.holder attachment.role = some id) :
    Tidy (after (handleClose id raw ch sender attachment.role) s) := by
  by_cases registered : some sender = s.peerId attachment.role
  · rw [after_handleClose _ _ _ _ _ _ registered]
    refine closing_tidy tidy rfl fun other a serves => ?_
    obtain ⟨different, still⟩ := serves_of_modify close_shut serves
    obtain ⟨before, role⟩ := role_ne_of_dismissing sound tidy calm still
    have own : a.role = attachment.role := by
      cases one : a.role <;> cases two : attachment.role <;> rw [one, two] at role <;> first | rfl | exact absurd rfl role
    have held := tidy.holds other a before
    rw [own, current registered] at held
    exact different (Option.some.inj held).symm
  · unfold handleClose
    rw [after_get_bind, if_pos registered]
    exact tidy.reject _ _ _

end Handlers

/-! ### Events -/

/-- The sender of a close frame that is accepted holds its role. -/
def ChannelDO.ClosesAsHolder (s : ChannelDO τ) (id : Nat) : ClientMessage → Prop
  | .close _ sender _ => ∀ attachment, s.attachment id = some attachment →
      some sender = s.peerId attachment.role → s.holder attachment.role = some id
  | _ => True

theorem routeMessage_tidy {s : ChannelDO τ} {id : Nat} {msg : ClientMessage} {raw : τ} (sound : Sound name s)
    (tidy : Tidy s) (calm : s.Calm) (named : msg.channelId ≠ "") (valid : msg.fromPeer ≠ "")
    (holder : s.ClosesAsHolder id msg) : Tidy (after (routeMessage id msg raw) s) := by
  unfold routeMessage
  rw [after_get_bind]
  split
  · exact tidy.reject _ _ _
  · rename_i same
    have known : nonEmpty s.channelId ≠ none := by
      rw [← not_not.mp same]
      simp [nonEmpty, named]
    cases attached : s.attachment id with
    | none =>
      dsimp only
      cases msg with
      | create ch sender => exact handleCreate_tidy known sound tidy calm valid
      | join ch sender sealedJoinNull => exact handleJoin_tidy known tidy calm
      | _ => exact tidy.reject _ _ _
    | some attachment =>
      dsimp only
      cases msg with
      | create ch sender =>
        unfold handleMessage
        rw [after_get_bind]
        split
        · exact tidy.reject _ _ _
        · exact handleCreate_tidy known sound tidy calm valid
      | join ch sender sealedJoinNull => exact tidy.reject _ _ _
      | accept ch sender target => exact handleAccept_tidy known sound tidy calm
      | close ch sender reason => exact handleClose_tidy sound tidy calm (holder attachment attached)
      | _ => exact handleData_tidy known tidy

theorem Tidy.routed {s : ChannelDO τ} (tidy : Tidy s) : Routed s :=
  ⟨tidy.holds, fun _ => tidy.memory, tidy.stored, fun asleep => absurd (tidy.awake.symm.trans asleep) nofun, tidy.dapp⟩

/-- Waking up puts the fields in place that storage has. -/
theorem Routed.woken {s : ChannelDO τ} (routed : Routed s) : Tidy s.woken := by
  unfold ChannelDO.woken
  split
  · rename_i awake
    exact ⟨awake, routed.holds, routed.memory awake, routed.stored, routed.dapp⟩
  · rename_i asleep
    have empty : s.toMemory = {} := routed.asleep (by simpa using asleep)
    refine ⟨rfl, routed.holds, ?_, routed.stored, ?_⟩
    · intro id a serves
      have fits := routed.stored id a serves
      unfold ChannelDO.recovered at fits
      cases stored : s.stored with
      | none =>
        rw [stored] at fits
        dsimp only
        rw [empty]
        exact expects_congr (m := {}) rfl rfl rfl fits
      | some p =>
        rw [stored] at fits
        exact expects_congr (m := ({} : Memory).load p) rfl rfl rfl fits
    · cases stored : s.stored with
      | none =>
        dsimp only
        rw [empty]
        nofun
      | some p =>
        exact nonEmpty_ne_empty (some p.dappPeerId)

/-- A change of the sockets after which fewer of them serve. -/
theorem Routed.fewer {s t : ChannelDO τ} (routed : Routed s) (memory : t.toMemory = s.toMemory)
    (stored : t.stored = s.stored) (trace : t.trace = s.trace)
    (serves : ∀ id attachment, t.Serves id attachment → s.Serves id attachment) : Routed t := by
  have recovered : t.recovered = s.recovered := by
    unfold ChannelDO.recovered
    rw [stored]
  have initialized : t.initialized = s.initialized := congrArg Memory.initialized memory
  refine ⟨?_, ?_, ?_, ?_, ?_⟩
  · intro id a serving
    rw [holder_of_trace trace]
    exact routed.holds id a (serves id a serving)
  · intro awake id a serving
    rw [memory]
    exact routed.memory (initialized.symm.trans awake) id a (serves id a serving)
  · intro id a serving
    rw [recovered]
    exact routed.stored id a (serves id a serving)
  · intro asleep
    rw [memory]
    exact routed.asleep (initialized.symm.trans asleep)
  · exact fun empty => routed.dapp ((congrArg Memory.dappPeerId memory).symm.trans empty)

theorem gone_shut (listed : Bool) (socket : Socket) : (socket.gone listed).readyState ≠ .opened := nofun

/-- A socket that holds its role, or that the channel does not miss, can be lost. -/
theorem losing_tidy {s : ChannelDO τ} {id : Nat} (sound : Sound name s) (tidy : Tidy s) (calm : s.Calm)
    (shut : s.isOpen id = false)
    (current : s.Misses id → ∀ attachment, s.attachment id = some attachment → s.holder attachment.role = some id) :
    Tidy (s.losing id) := by
  by_cases missed : s.Misses id
  · obtain ⟨known, attachment, attached, state⟩ := missed
    have held := current ⟨known, attachment, attached, state⟩ attachment attached
    obtain ⟨ch, named⟩ := Option.ne_none_iff_exists'.mp known
    -- nobody serves the role that the lost socket holds
    have lost : ∀ other a, s.Serves other a → a.role ≠ attachment.role := by
      intro other a serves same
      have mine := tidy.holds other a serves
      rw [same, held] at mine
      cases mine
      have opened := isOpen_of_serves serves
      rw [shut] at opened
      cases opened
    have abandoned : attachment.role = .dapp → Tidy (s.abandoning ch) := by
      intro dapp
      refine closing_tidy tidy rfl fun other a serves => ?_
      obtain ⟨before, role⟩ := role_ne_of_dismissing sound tidy calm serves
      have other_role := lost other a before
      rw [dapp] at other_role
      cases same : a.role with
      | dapp => exact other_role same
      | wallet => exact role same
    unfold ChannelDO.losing
    simp only [attached, named]
    cases role : attachment.role with
    | dapp =>
      rcases state with state | ⟨state, -⟩ <;> rw [state] <;> exact abandoned role
    | wallet =>
      rcases state with state | ⟨-, dapp⟩
      · rw [state]
        refine .saved known tidy.awake tidy.holds ?_ tidy.dapp
        intro other a serves
        have fits := tidy.memory other a serves
        have other_role := lost other a serves
        rw [role] at other_role
        unfold Memory.Expects at fits ⊢
        cases same : a.role with
        | dapp =>
          rw [same] at fits
          exact ⟨rfl, fits.2⟩
        | wallet => exact absurd same other_role
      · rw [role] at dapp
        cases dapp
  · rw [losing_of_not_misses missed]
    exact tidy

variable [Wire τ]

/-- The message a text event carries past the parser. -/
def Event.accepted : Event τ → Option (Nat × ClientMessage)
  | .message id (.text raw) => (readText raw).toOption.map fun msg => (id, msg)
  | _ => none

/-- No send to an open socket throws, the channel does not miss the role of a stale socket
whose close event this is, and a close frame comes from the socket that holds its role. -/
structure Orderly (s : ChannelDO τ) (e : Inputs × Event τ) : Prop where
  calm : ({ s with inputs := e.1 } : ChannelDO τ).Calm
  unmissed : StaleUnmissed s e
  holder : ∀ id msg, e.2.accepted = some (id, msg) → s.woken.ClosesAsHolder id msg

omit [Wire τ] in
theorem woken_inputs (s : ChannelDO τ) (inputs : Inputs) :
    ({ s with inputs } : ChannelDO τ).woken = { s.woken with inputs } := by
  unfold ChannelDO.woken
  dsimp only
  split <;> rfl

omit [Wire τ] in
theorem Routed.inputs {s : ChannelDO τ} (routed : Routed s) (inputs : Inputs) : Routed ({ s with inputs } : ChannelDO τ) :=
  routed.fewer rfl rfl rfl fun _ _ serves => serves

omit [Wire τ] in
theorem isOpen_of_gone {s : ChannelDO τ} {id other : Nat} {listed : Bool}
    (opened : ({ s with sockets := s.sockets.modify id (Socket.gone listed) } : ChannelDO τ).isOpen other = true) :
    s.isOpen other = true ∧ other ≠ id := by
  unfold ChannelDO.isOpen at opened ⊢
  rw [List.getElem?_modify] at opened
  cases found : s.sockets[other]? with
  | none => simp [found] at opened
  | some socket =>
    rw [found] at opened
    split at opened
    · simp [Socket.gone] at opened
    · rename_i different
      exact ⟨by simpa using opened, fun same => different same.symm⟩

omit [Wire τ] in
theorem attachment_gone (s : ChannelDO τ) (id : Nat) (listed : Bool) (other : Nat) :
    ({ s with sockets := s.sockets.modify id (Socket.gone listed) } : ChannelDO τ).attachment other =
      s.attachment other := by
  unfold ChannelDO.attachment
  rw [List.getElem?_modify]
  cases s.sockets[other]? with
  | none => rfl
  | some socket => split <;> rfl

omit [Wire τ] in
theorem isOpen_woken (s : ChannelDO τ) (id : Nat) : s.woken.isOpen id = s.isOpen id := by
  unfold ChannelDO.isOpen
  rw [woken_sockets]

omit [Wire τ] in
theorem attachment_woken (s : ChannelDO τ) (id : Nat) : s.woken.attachment id = s.attachment id := by
  unfold ChannelDO.attachment
  rw [woken_sockets]

omit [Wire τ] in
theorem holder_woken (s : ChannelDO τ) (role : Role) : s.woken.holder role = s.holder role := by
  apply holder_of_trace
  unfold ChannelDO.woken
  split <;> rfl

omit [Wire τ] in
theorem calm_woken {s : ChannelDO τ} (calm : s.Calm) : s.woken.Calm := by
  have inputs : s.woken.inputs = s.inputs := by
    unfold ChannelDO.woken
    split <;> rfl
  intro id throws
  rw [isOpen_woken]
  exact calm id (inputs ▸ throws)

omit [Wire τ] in
theorem disconnect_routed {s : ChannelDO τ} {id : Nat} {listed : Bool} (sound : Sound name s) (routed : Routed s)
    (calm : s.Calm) (current : (s.noticing id listed).Misses id → ∀ attachment,
      s.attachment id = some attachment → s.holder attachment.role = some id) :
    Routed (after (disconnect id listed) s) := by
  rw [after_disconnect]
  have gone : Routed ({ s with sockets := s.sockets.modify id (Socket.gone listed) } : ChannelDO τ) :=
    routed.fewer rfl rfl rfl fun _ _ serves => (serves_of_modify (gone_shut listed) serves).2
  have soundGone : Sound name ({ s with sockets := s.sockets.modify id (Socket.gone listed) } : ChannelDO τ) :=
    updateSocket_sound id (fun _ sound => sound.gone listed) s sound
  have calmGone : ({ s with sockets := s.sockets.modify id (Socket.gone listed) } : ChannelDO τ).Calm := by
    intro other throws
    apply Bool.eq_false_iff.mpr
    intro opened
    have before := (isOpen_of_gone opened).1
    rw [calm other throws] at before
    cases before
  have lost : Tidy ((s.noticing id listed).losing id) := by
    apply losing_tidy (woken_sound soundGone) gone.woken (calm_woken calmGone)
    · rw [isOpen_woken]
      apply Bool.eq_false_iff.mpr
      intro opened
      exact (isOpen_of_gone opened).2 rfl
    · intro missed attachment attached
      rw [attachment_woken, attachment_gone] at attached
      rw [holder_woken]
      exact current missed attachment attached
  exact lost.routed.fewer rfl rfl rfl fun _ _ serves => (serves_of_modify (gone_shut false) serves).2

theorem webSocketMessage_routed {s : ChannelDO τ} {id : Nat} {message : Incoming τ} (sound : Sound name s)
    (routed : Routed s) (calm : s.Calm)
    (holder : ∀ raw msg, message = .text raw → readText raw = .ok msg → s.woken.ClosesAsHolder id msg) :
    Routed (after (webSocketMessage id message) s) := by
  have awake := routed.woken
  unfold webSocketMessage
  simp only [ensureInitialized, after_modify_bind, after_get_bind]
  cases message with
  | binary => exact (awake.reject _ _ _).routed
  | text raw =>
    dsimp only
    cases read : readText raw with
    | error reason => exact (awake.reject _ _ _).routed
    | ok msg =>
      obtain ⟨named, valid⟩ := readText_ok read
      exact (routeMessage_tidy (woken_sound sound) awake (calm_woken calm) named valid
        (holder raw msg rfl read)).routed

omit [Wire τ] in
theorem alarm_routed {s : ChannelDO τ} (sound : Sound name s) (routed : Routed s) (calm : s.Calm) :
    Routed (after alarm s) := by
  have awake := routed.woken
  rw [after_alarm]
  cases known : nonEmpty s.woken.channelId with
  | none => exact awake.routed
  | some ch =>
    obtain ⟨memory, -, -⟩ := tellingAll_fields s.woken.getWebSockets (terminate ch .timeout s.woken.inputs.now) s.woken
    have vacant : (s.woken.tellingAll s.woken.getWebSockets (terminate ch .timeout s.woken.inputs.now)).Vacant := by
      intro other a serves
      obtain ⟨before, thrown⟩ := isOpen_of_tellingAll (isOpen_of_serves serves)
      have throws := thrown (mem_getWebSockets_of_isOpen (woken_sound sound) before)
      rw [calm_woken calm other throws] at before
      cases before
    exact (closing_tidy awake memory vacant).routed.fewer rfl rfl rfl fun _ _ serves => serves

omit [Wire τ] in
theorem Tidy.renamed {s : ChannelDO τ} (tidy : Tidy s) (channelId : Option String) :
    Tidy ({ s with channelId } : ChannelDO τ) :=
  ⟨tidy.awake, tidy.holds, fun id a serves => expects_congr (m := s.toMemory) rfl rfl rfl (tidy.memory id a serves),
    tidy.stored, tidy.dapp⟩

omit [Wire τ] in
theorem fetch_routed {websocket : Bool} {ch : Option String} {s : ChannelDO τ} (routed : Routed s) :
    Routed (after (fetch websocket ch) s) := by
  unfold fetch
  split
  · exact routed
  · split
    · exact routed
    · have accepted : Routed ({ s with sockets := s.sockets ++ [{}] } : ChannelDO τ) := by
        refine routed.fewer rfl rfl rfl ?_
        rintro id a ⟨socket, found, opened, attached⟩
        refine ⟨socket, ?_, opened, attached⟩
        rw [List.getElem?_append] at found
        split at found
        · exact found
        · rcases List.mem_singleton.mp (List.mem_of_getElem? found) with rfl
          cases attached
      have awake := accepted.woken
      simp only [after_modify_bind, ensureInitialized, after_pure]
      split
      · exact (awake.renamed _).routed
      · exact awake.routed

theorem step_routed {s : ChannelDO τ} {e : Inputs × Event τ} (sound : Sound name s) (routed : Routed s)
    (orderly : Orderly s e) : Routed (step s e) := by
  obtain ⟨inputs, event⟩ := e
  have start := routed.inputs inputs
  have soundStart : Sound name ({ s with inputs } : ChannelDO τ) := ⟨sound.own, sound.channel, sound.sockets⟩
  have calm := orderly.calm
  have ended : ∀ id listed, event.ended = some (id, listed) →
      Routed (after (disconnect id listed) ({ s with inputs } : ChannelDO τ)) := by
    intro id listed ends
    apply disconnect_routed soundStart start calm
    intro missed attachment attached
    by_contra replaced
    have stale : s.Stale id := by
      intro other carried
      have same : attachment = other := Option.some.inj (attached.symm.trans carried)
      rw [← same]
      exact replaced
    exact orderly.unmissed id listed ends stale ((misses_noticing_inputs s inputs).mp missed)
  unfold step
  cases event with
  | upgrade websocket ch =>
    change Routed (after (act (.upgrade websocket ch)) _)
    unfold act
    rw [after_get_bind]
    split
    · rw [after_bind_pure]
      exact fetch_routed start
    · exact start
  | message id message =>
    change Routed (after (act (.message id message)) _)
    unfold act
    rw [after_get_bind]
    split
    · apply webSocketMessage_routed soundStart start calm
      rintro raw msg rfl read
      have holder := orderly.holder id msg (by simp [Event.accepted, read, Except.toOption])
      rw [woken_inputs]
      exact holder
    · exact start
  | hangUp id => exact start.fewer rfl rfl rfl fun _ _ serves => (serves_of_modify close_shut serves).2
  | close id listed => exact ended id listed rfl
  | error id listed => exact ended id listed rfl
  | alarm =>
    change Routed (after (act .alarm) _)
    unfold act
    rw [after_get_bind]
    split
    · have quiet : Routed ({ s with inputs, alarm := none } : ChannelDO τ) :=
        start.fewer rfl rfl rfl fun _ _ serves => serves
      exact alarm_routed ⟨sound.own, sound.channel, sound.sockets⟩ quiet calm
    · exact start
  | evict => exact ⟨routed.holds, nofun, routed.stored, fun _ => rfl, nofun⟩

/-! ### Who is reached -/

/-- The socket's attachment carries the peer id that is registered for its role. -/
def ChannelDO.Registered (s : ChannelDO τ) (id : Nat) : Prop :=
  ∃ attachment, s.attachment id = some attachment ∧ s.peerId attachment.role = some attachment.peerId

/-- What is forwarded or announced goes to a registered peer. -/
def ChannelDO.Rightly (s : ChannelDO τ) : Obs τ → Prop
  | .sent id (.forwarded _) => s.Registered id
  | .sent id (.notice _ _ (.readyConnected _ _ _ _)) => s.Registered id
  | _ => True

/-- What this event forwards or announces goes to the peers registered before it. -/
def RoutesRightly (s : ChannelDO τ) (e : Inputs × Event τ) : Prop := Adds s.woken.Rightly s.trace (step s e).trace

section Recording
omit [Wire τ]
variable {ok : Obs τ → Prop} {s : ChannelDO τ}

theorem adds_traceSending {id : Nat} {frame : Frame τ} (allowed : s.isOpen id = true → ok (.sent id frame)) :
    Adds ok s.trace (s.traceSending id frame) := by
  unfold ChannelDO.traceSending
  split
  · rename_i reached
    exact .single (allowed reached.2)
  · exact .refl _

theorem adds_telling {id : Nat} {frame : Frame τ} (allowed : ok (.sent id frame)) :
    Adds ok s.trace (s.telling id frame).trace := adds_traceSending fun _ => allowed

theorem adds_trying {peer : Option Nat} {frame : Frame τ} (allowed : ∀ id, peer = some id → ok (.sent id frame)) :
    Adds ok s.trace (s.trying peer frame).trace := by
  cases peer with
  | none => exact .refl _
  | some id => exact adds_traceSending fun _ => allowed id rfl

theorem adds_dismissing {peer : Option Nat} {frame : Frame τ} (allowed : ∀ id, peer = some id → ok (.sent id frame)) :
    Adds ok s.trace (s.dismissing peer frame).trace := by
  cases peer with
  | none => exact .refl _
  | some id => exact adds_traceSending fun _ => allowed id rfl

theorem adds_saving {t : ChannelDO τ} (added : Adds ok s.trace t.trace) : Adds ok s.trace t.saving.trace := by
  unfold ChannelDO.saving
  split <;> exact added

theorem adds_tellingAll {ids : List Nat} {frame : Frame τ} (allowed : ∀ id, ok (.sent id frame)) :
    Adds ok s.trace (s.tellingAll ids frame).trace := by
  induction ids generalizing s with
  | nil => exact .refl _
  | cons id rest ih =>
    have first : Adds ok s.trace (s.telling id frame).trace := adds_telling (allowed id)
    exact first.trans ih

end Recording

section Reaching
omit [Wire τ]
variable {s : ChannelDO τ} {id : Nat}

theorem registered_of_serves (tidy : Tidy s) {a : WsAttachment} (serves : s.Serves id a) : s.Registered id := by
  refine ⟨a, attachment_of_serves serves, ?_⟩
  have fits := tidy.memory id a serves
  unfold Memory.Expects at fits
  cases role : a.role with
  | dapp =>
    rw [role] at fits
    exact fits.2
  | wallet =>
    rw [role] at fits
    exact fits.2

theorem registered_of_findPeerWs (tidy : Tidy s) {role : Role} (found : s.findPeerWs role = some id) :
    s.Registered id := by
  obtain ⟨a, serves, -⟩ := serves_of_findPeerWs found
  exact registered_of_serves tidy serves

theorem reject_rightly {w : ChannelDO τ} (ch : String) (reason : CloseReason) :
    Adds w.Rightly s.trace (after (reject id ch reason) s).trace := by
  rw [after_reject]
  exact adds_telling trivial

theorem createChannel_rightly {w : ChannelDO τ} (ch sender : String) :
    Adds w.Rightly s.trace (after (createChannel id ch sender) s).trace := by
  have assigned : Adds w.Rightly s.trace (s.creating id ch sender).trace := .single trivial
  rw [after_createChannel]
  split
  · exact assigned
  · have told : Adds w.Rightly s.trace ((s.creating id ch sender).trying (some id)
        (.notice ch s.inputs.now (.readyWaiting .dapp sender false))).trace :=
      assigned.trans (adds_trying fun _ _ => trivial)
    exact adds_saving told

theorem handleCreate_rightly {w : ChannelDO τ} (ch sender : String) :
    Adds w.Rightly s.trace (after (handleCreate id ch sender) s).trace := by
  have told : ∀ peer, Adds w.Rightly s.trace (s.dismissing peer (terminate ch .normal s.inputs.now)).trace :=
    fun _ => adds_dismissing fun _ _ => trivial
  unfold handleCreate
  rw [after_get_bind]
  cases s.channelState with
  | waiting =>
    dsimp only
    rw [after_dismiss_bind]
    exact (told _).trans (createChannel_rightly ch sender)
  | connected =>
    dsimp only
    cases s.findPeerWs .dapp with
    | some dapp => exact reject_rightly _ _
    | none =>
      dsimp only
      rw [after_dismiss_bind]
      exact (told _).trans (createChannel_rightly ch sender)
  | pendingAccept => exact reject_rightly _ _
  | closed => exact createChannel_rightly ch sender
  | none => exact createChannel_rightly ch sender

theorem handleJoin_rightly {ch sender : String} {sealedJoinNull : Bool} {raw : τ} (tidy : Tidy s) :
    Adds s.Rightly s.trace (after (handleJoin id ch sender sealedJoinNull raw) s).trace := by
  by_cases waiting : s.channelState = .waiting
  · have assigned : Adds s.Rightly s.trace (s.joining id ch sender sealedJoinNull).trace := .single trivial
    have told : Adds s.Rightly s.trace ((s.joining id ch sender sealedJoinNull).trying
        ((s.joining id ch sender sealedJoinNull).findPeerWs .dapp) (.forwarded raw)).trace := by
      refine assigned.trans (adds_trying fun dapp found => ?_)
      obtain ⟨a, serves, role⟩ := serves_of_findPeerWs found
      rcases serves_of_joining tidy waiting serves with ⟨-, rfl, -⟩ | ⟨before, -⟩
      · cases role
      · exact registered_of_serves tidy before
    rw [after_handleJoin _ _ _ _ _ _ waiting]
    dsimp only
    split
    · split
      · exact told
      · exact adds_saving (told.trans (adds_trying fun _ _ => trivial))
    · have reverted : Adds s.Rightly s.trace (((s.joining id ch sender sealedJoinNull).trying
          ((s.joining id ch sender sealedJoinNull).findPeerWs .dapp) (.forwarded raw)).reverting id).trace :=
        told.trans (.single trivial)
      exact adds_saving (reverted.trans (adds_telling trivial))
  · unfold handleJoin
    rw [after_get_bind, if_pos waiting]
    exact reject_rightly _ _

theorem handleAccept_rightly {ch sender target : String} {role : Role} (tidy : Tidy s) :
    Adds s.Rightly s.trace (after (handleAccept id ch sender target role) s).trace := by
  by_cases accepted : (role = .dapp ∧ some sender = s.dappPeerId) ∧ s.channelState = .pendingAccept ∧
      some target = s.walletPeerId
  · obtain ⟨⟨rfl, dapp⟩, pending, wallet⟩ := accepted
    have told : Adds s.Rightly s.trace ((s.trying (s.findPeerWs .dapp)
        (.notice ch s.inputs.now (.readyConnected .dapp sender target s.isReconnect))).trying (s.findPeerWs .wallet)
        (.notice ch s.inputs.now (.readyConnected .wallet target sender s.isReconnect))).trace := by
      have first : Adds s.Rightly s.trace (s.trying (s.findPeerWs .dapp)
          (.notice ch s.inputs.now (.readyConnected .dapp sender target s.isReconnect))).trace :=
        adds_trying fun _ found => registered_of_findPeerWs tidy found
      exact first.trans (adds_trying fun _ found => registered_of_findPeerWs tidy found)
    rw [after_handleAccept _ _ _ _ _ dapp pending wallet]
    dsimp only
    split
    · exact adds_saving told
    · exact adds_saving told
  · obtain ⟨reason, named, same⟩ := after_handleAccept_of_not id ch sender target accepted
    rw [same]
    exact adds_telling trivial

theorem handleData_rightly {raw : τ} {ch sender : String} {type : MessageType} {reqId : Option String} {role : Role}
    (tidy : Tidy s) : Adds s.Rightly s.trace (after (handleData id raw ch sender type reqId role) s).trace := by
  rcases after_handleData id raw ch sender type reqId role s with ⟨reason, same⟩ | same
  · rw [same]
    exact adds_telling trivial
  · have told : Adds s.Rightly s.trace (({ s with pendingRequests := track s.pendingRequests type reqId } : ChannelDO τ).trying
        (s.findPeerWs role.other) (.forwarded raw)).trace :=
      adds_trying (s := { s with pendingRequests := track s.pendingRequests type reqId }) fun _ found =>
        registered_of_findPeerWs tidy found
    rw [same]
    split
    · exact adds_saving told
    · exact told

theorem handleClose_rightly {raw : τ} {ch sender : String} {role : Role} (tidy : Tidy s) :
    Adds s.Rightly s.trace (after (handleClose id raw ch sender role) s).trace := by
  by_cases registered : some sender = s.peerId role
  · have told : Adds s.Rightly s.trace (s.dismissing (s.findPeerWs role.other) (.forwarded raw)).trace :=
      adds_dismissing fun _ found => registered_of_findPeerWs tidy found
    rw [after_handleClose _ _ _ _ _ _ registered]
    exact adds_saving told
  · unfold handleClose
    rw [after_get_bind, if_pos registered]
    exact reject_rightly _ _

theorem routeMessage_rightly {msg : ClientMessage} {raw : τ} (tidy : Tidy s) :
    Adds s.Rightly s.trace (after (routeMessage id msg raw) s).trace := by
  unfold routeMessage
  rw [after_get_bind]
  split
  · exact reject_rightly _ _
  · cases s.attachment id with
    | none =>
      dsimp only
      cases msg with
      | create ch sender => exact handleCreate_rightly ch sender
      | join ch sender sealedJoinNull => exact handleJoin_rightly tidy
      | _ => exact reject_rightly _ _
    | some attachment =>
      dsimp only
      cases msg with
      | create ch sender =>
        unfold handleMessage
        rw [after_get_bind]
        split
        · exact reject_rightly _ _
        · exact handleCreate_rightly ch sender
      | join ch sender sealedJoinNull => exact reject_rightly _ _
      | accept ch sender target => exact handleAccept_rightly tidy
      | close ch sender reason => exact handleClose_rightly tidy
      | _ => exact handleData_rightly tidy

theorem trace_woken (s : ChannelDO τ) : s.woken.trace = s.trace := by
  unfold ChannelDO.woken
  split <;> rfl

/-- The loss of a socket is announced, never forwarded. -/
theorem losing_rightly {w : ChannelDO τ} : Adds w.Rightly s.trace (s.losing id).trace := by
  have abandoned : ∀ ch, Adds w.Rightly s.trace (s.abandoning ch).trace := by
    intro ch
    have told : Adds w.Rightly s.trace
        (s.dismissing (s.findPeerWs .wallet) (terminate ch .channelNotFound s.inputs.now)).trace :=
      adds_dismissing fun _ _ => trivial
    exact adds_saving told
  unfold ChannelDO.losing
  split
  · split
    · exact abandoned _
    · exact abandoned _
    · exact adds_saving (.refl _)
    · exact .refl _
  · exact .refl _

theorem disconnect_rightly {w : ChannelDO τ} {listed : Bool} :
    Adds w.Rightly s.trace (after (disconnect id listed) s).trace := by
  rw [after_disconnect]
  have noticed : (s.noticing id listed).trace = s.trace := trace_woken _
  have lost : Adds w.Rightly (s.noticing id listed).trace ((s.noticing id listed).losing id).trace := losing_rightly
  rw [noticed] at lost
  exact lost

theorem alarm_rightly {w : ChannelDO τ} : Adds w.Rightly s.trace (after alarm s).trace := by
  rw [after_alarm]
  split
  · rw [trace_woken]
    exact .refl _
  · rename_i ch _
    have told : Adds w.Rightly s.woken.trace
        (s.woken.tellingAll s.woken.getWebSockets (terminate ch .timeout s.woken.inputs.now)).trace :=
      adds_tellingAll fun _ => trivial
    rw [trace_woken] at told
    exact adds_saving told

theorem trace_fetch (websocket : Bool) (ch : Option String) : (after (fetch websocket ch) s).trace = s.trace := by
  unfold fetch
  split
  · rfl
  · split
    · rfl
    · simp only [after_modify_bind, ensureInitialized, after_pure]
      split <;> exact trace_woken _

end Reaching

theorem webSocketMessage_rightly {s : ChannelDO τ} {id : Nat} {message : Incoming τ} (awake : Tidy s.woken) :
    Adds s.woken.Rightly s.trace (after (webSocketMessage id message) s).trace := by
  rw [← trace_woken s]
  unfold webSocketMessage
  simp only [ensureInitialized, after_modify_bind, after_get_bind]
  cases message with
  | binary => exact reject_rightly _ _
  | text raw =>
    dsimp only
    cases readText raw with
    | error reason => exact reject_rightly _ _
    | ok msg => exact routeMessage_rightly awake

omit [Wire τ] in
theorem rightly_inputs (s : ChannelDO τ) (inputs : Inputs) :
    ({ s with inputs } : ChannelDO τ).woken.Rightly = s.woken.Rightly := by
  rw [woken_inputs]
  rfl

theorem step_rightly {s : ChannelDO τ} {e : Inputs × Event τ} (routed : Routed s) : RoutesRightly s e := by
  obtain ⟨inputs, event⟩ := e
  have start := (routed.inputs inputs).woken
  unfold RoutesRightly step
  cases event with
  | upgrade websocket ch =>
    change Adds s.woken.Rightly s.trace (after (act (.upgrade websocket ch)) _).trace
    unfold act
    rw [after_get_bind]
    split
    · rw [after_bind_pure, trace_fetch]
      exact .refl _
    · exact .refl _
  | message id message =>
    change Adds s.woken.Rightly s.trace (after (act (.message id message)) _).trace
    unfold act
    rw [after_get_bind]
    split
    · rw [← rightly_inputs s inputs]
      exact webSocketMessage_rightly start
    · exact .refl _
  | hangUp id => exact .refl _
  | close id listed => exact disconnect_rightly
  | error id listed => exact disconnect_rightly
  | alarm =>
    change Adds s.woken.Rightly s.trace (after (act .alarm) _).trace
    unfold act
    rw [after_get_bind]
    split
    · exact alarm_rightly
    · exact .refl _
  | evict => exact .refl _

/-- The states reached by a run, with what its events forward and announce. -/
structure Routes (s : ChannelDO τ) (events : List (Inputs × Event τ)) : Prop where
  one : OneOpenPerRole (run step s events)
  rightly : Along step RoutesRightly s events

theorem routes_of_routed {s : ChannelDO τ} {events : List (Inputs × Event τ)} (sound : Sound name s) (routed : Routed s)
    (orderly : Along step Orderly s events) : Routes s events := by
  induction events generalizing s with
  | nil => exact ⟨routed.oneOpenPerRole, trivial⟩
  | cons event rest ih =>
    have later := ih (step_sound event sound) (step_routed sound routed orderly.1) orderly.2
    exact ⟨later.one, step_rightly routed, later.rightly⟩

omit [Wire τ] in
theorem fresh_routed (name : String) : Routed (ChannelDO.fresh τ name) :=
  ⟨nofun, nofun, nofun, fun _ => rfl, nofun⟩

/-- Along an orderly run every role has at most one open socket, and what is forwarded
or announced reaches the registered peers. -/
theorem routes_of_orderly (name : String) (events : List (Inputs × Event τ))
    (orderly : Along step Orderly (.fresh τ name) events) : Routes (.fresh τ name) events :=
  routes_of_routed (fresh_sound name) (fresh_routed name) orderly

/-- An event that ends no socket and closes no channel is orderly if nothing throws. -/
theorem orderly_of_quiet {s : ChannelDO τ} {now : Nat} {event : Event τ} (running : event.ended = none)
    (keeps : (event.accepted.map fun message => message.2.messageType) ≠ some .close) :
    Orderly s (⟨now, []⟩, event) := by
  refine ⟨nofun, fun id listed ended => ?_, fun id msg accepted => ?_⟩
  · rw [running] at ended
    cases ended
  · rw [accepted] at keeps
    cases msg with
    | close ch sender reason => exact absurd rfl keeps
    | _ => trivial

/-- So is the end of a socket of a channel that is connected or closed. -/
theorem orderly_of_settled {s : ChannelDO τ} {now id : Nat} {listed : Bool}
    (settled : (s.noticing id listed).channelState = .connected ∨ (s.noticing id listed).channelState = .closed) :
    Orderly s (⟨now, []⟩, .close id listed) := by
  refine ⟨nofun, ?_, nofun⟩
  rintro id' listed' ⟨⟩ - ⟨-, attachment, -, missed⟩
  rcases settled with connected | closed
  · rw [connected] at missed
    rcases missed with ⟨⟨⟩⟩ | ⟨⟨⟩, -⟩
  · rw [closed] at missed
    rcases missed with ⟨⟨⟩⟩ | ⟨⟨⟩, -⟩

namespace Sample

/-- The wallet joins on its own socket and is accepted. -/
def pairing : List (Inputs × Event String) :=
  [(⟨1, []⟩, upgrade), (⟨1, []⟩, text 0 create), (⟨1, []⟩, upgrade), (⟨1, []⟩, text 1 join), (⟨1, []⟩, text 0 accept)]

/-- The dApp is replaced before its channel is joined and accepted. -/
def replacedPairing : List (Inputs × Event String) :=
  [(⟨1, []⟩, upgrade), (⟨1, []⟩, text 0 create), (⟨1, []⟩, upgrade), (⟨1, []⟩, text 1 create), (⟨1, []⟩, upgrade),
    (⟨1, []⟩, text 2 join), (⟨1, []⟩, text 1 accept)]

theorem replacedPairing_quiet : ∀ e ∈ replacedPairing, e.1.throws = [] ∧ e.2.ended = none ∧
    (e.2.accepted.map fun message => message.2.messageType) ≠ some .close := by
  simp [replacedPairing, upgrade, text, Event.accepted, Event.ended, read_create, read_join, read_accept, Except.toOption,
    ClientMessage.messageType]

/-- The wallet closes the channel. -/
def closing : String := "\x7b\"v\":1,\"t\":\"close\",\"ch\":\"aaaaaaaaaaaaaaaaaaaaaaaaaaaaaaaaaaaaaaaaaaaaaaaaaaaaaaaaaaaaaaaa\",\"ts\":1,\"from\":\"AgICAgICAgICAgICAgICAgICAgICAgICAgICAgICAgI\",\"body\":\x7b\"reason\":\"normal\"\x7d\x7d"

set_option maxRecDepth 4000 in
theorem read_closing : readText closing = .ok (.close channel wallet "normal") := by
  rw [readText_ofList closing rfl]
  decide +kernel

/-- The replaced socket ends, the wallet closes the channel, and its socket ends. -/
def leaving : List (Inputs × Event String) := [(⟨1, []⟩, .close 0 false), (⟨1, []⟩, text 2 closing), (⟨1, []⟩, .close 2 false)]

def connected : ChannelDO String := run step (.fresh String channel) replacedPairing

theorem leaving_facts :
    (connected.noticing 0 false).channelState = .connected ∧
      ((step connected (⟨1, []⟩, .close 0 false)).woken.attachment 2).map WsAttachment.role = some .wallet ∧
      (step connected (⟨1, []⟩, .close 0 false)).woken.holder .wallet = some 2 ∧
      ((step (step connected (⟨1, []⟩, .close 0 false)) (⟨1, []⟩, text 2 closing)).noticing 2 false).channelState = .closed := by
  simp only [connected, replacedPairing, text, run_cons, run_nil, step_text read_create, step_text read_join,
    step_text read_accept, step_text read_closing]
  decide +kernel

theorem leaving_orderly : Along step Orderly connected leaving := by
  obtain ⟨ended, carries, holds, closed⟩ := leaving_facts
  refine ⟨orderly_of_settled (Or.inl ended), ⟨nofun, nofun, ?_⟩, orderly_of_settled (Or.inr closed), trivial⟩
  intro id msg accepted
  have message : (2, ClientMessage.close channel wallet "normal") = (id, msg) := by
    simpa [text, Event.accepted, read_closing, Except.toOption] using accepted
  cases message
  intro attachment attached _
  rw [attached] at carries
  rw [Option.some.inj carries]
  exact holds

end Sample

theorem pairing_routes : Routes (.fresh String Sample.channel) (Sample.replacedPairing ++ Sample.leaving) := by
  apply routes_of_orderly Sample.channel
  rw [along_append]
  refine ⟨along_of_forall fun e mem s => ?_, Sample.leaving_orderly⟩
  obtain ⟨⟨now, throws⟩, event⟩ := e
  obtain ⟨silent, running, keeps⟩ := Sample.replacedPairing_quiet _ mem
  obtain rfl : throws = [] := silent
  exact orderly_of_quiet running keeps

namespace Sample

/-- The close event of the replaced socket closes the channel, and the dApp creates it
anew on a third socket. -/
def recreating : List (Inputs × Event String) :=
  replacing ++ [(⟨1, []⟩, .close 0 false), (⟨1, []⟩, upgrade), (⟨1, []⟩, text 2 create)]

def serving (s : ChannelDO String) (id : Nat) : Option Role :=
  (s.sockets[id]?).bind fun socket => if socket.readyState = .opened then socket.attachment.map WsAttachment.role else none

theorem serves_of_serving {s : ChannelDO String} {id : Nat} {role : Role} (found : serving s id = some role) :
    ∃ a, s.Serves id a ∧ a.role = role := by
  unfold serving at found
  obtain ⟨socket, present, carried⟩ := Option.bind_eq_some_iff.mp found
  split at carried
  · rename_i opened
    obtain ⟨a, attached, rfl⟩ := Option.map_eq_some_iff.mp carried
    exact ⟨a, ⟨socket, present, opened, attached⟩, rfl⟩
  · cases carried

theorem recreating_facts :
    serving (run step (.fresh String channel) recreating) 1 = some .dapp ∧
      serving (run step (.fresh String channel) recreating) 2 = some .dapp := by
  simp only [recreating, replacing, text, List.cons_append, List.nil_append, run_cons, run_nil, step_text read_create]
  decide +kernel

theorem not_one_of_serving {s : ChannelDO String} {id other : Nat} {role : Role} (first : serving s id = some role)
    (second : serving s other = some role) (different : id ≠ other) : ¬ OneOpenPerRole s := by
  intro one
  obtain ⟨a, left, leftRole⟩ := serves_of_serving first
  obtain ⟨b, right, rightRole⟩ := serves_of_serving second
  exact different (one id other a b left right (leftRole.trans rightRole.symm))

end Sample

/-- After that two open sockets carry the dApp's role. -/
theorem recreated_channel_has_two_dapps :
    ¬ ∀ (name : String) (events : List (Inputs × Event String)), Routes (.fresh String name) events := by
  intro all
  have one := (all Sample.channel Sample.recreating).one
  obtain ⟨first, second⟩ := Sample.recreating_facts
  refine @Sample.not_one_of_serving _ 1 2 .dapp ?_ ?_ (by decide) one
  · with_reducible exact first
  · with_reducible exact second

end WalletPair.Relay.Worker
