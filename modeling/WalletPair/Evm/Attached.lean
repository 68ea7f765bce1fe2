import WalletPair.Evm.ChainConsistency
import WalletPair.Evm.ProviderEvents
import WalletPair.Sdk.DApp.Steps

/-! A provider on its session. The provider hears what the session emits, asks the wallet
for accounts, and keeps a flag and a cache of its own over any number of pairings. The inputs
of a turn say which emissions throw, the handlers of the provider included. -/

namespace WalletPair.Evm
open WalletPair.Sdk WalletPair.Sdk.DApp WalletPair.Lib

/-! ### Both objects -/

/-- `origin` is the channel under which the cached accounts were obtained, and `queued` the one
under which a frame came whose snapshot is being saved. -/
structure Attached where
  session : Session
  provider : Provider
  asked : List (Nat × RequestArgs) := []
  origin : String := ""
  queued : Nat → Option String := fun _ => none

/-- Turns of the session, and requests of the page that the provider relays with parameters
that were written to JSON. `h` is the page's heap at that time. -/
inductive AttachedLabel where
  | session (inputs : Inputs) (h : Heap) (l : DApp.Label)
  | request (inputs : Inputs) (h : Heap) (args : RequestArgs) (params : Option Json)

def RequestArgs.asksAccounts (args : RequestArgs) : Bool :=
  args.method = "eth_requestAccounts" ∨ args.method = "eth_accounts"

namespace Attached

def hearEvent (a : Attached) (channel : String) (name data : Json) : Attached :=
  let r := onEvent a.provider name data
  let fills := match name with
    | .str "accountsChanged" => !r.emitted.isEmpty
    | _ => false
  { a with provider := r.provider, origin := if fills then channel else a.origin }

def hearAnswer (a : Attached) (channel : String) (h : Heap) (args : RequestArgs) (result : Option Json) : Attached :=
  let fills := args.asksAccounts && match accountsOf result with
    | .ok (some _) => true
    | _ => false
  { a with provider := (onAnswer a.provider h args result).provider, origin := if fills then channel else a.origin }

/-- The provider hears of one observation, made under `channel`. -/
def hear (channel : String) (h : Heap) (a : Attached) (o : Obs) : Attached :=
  match o with
  | .emitted (.phase phase _) => { a with provider := (onPhase a.provider phase).provider }
  | .emitted (.event name data) => a.hearEvent channel name data
  | .settled promise outcome =>
    match a.asked.find? (fun q => q.1 == promise) with
    | none => a
    | some (_, args) =>
      let a := { a with asked := a.asked.filter (fun q => q.1 != promise) }
      match outcome with
      | .resolved result => a.hearAnswer channel h args result
      | _ => a
  | _ => a

/-- Whether the handler of this event closes the session. -/
def closesOn (p : Provider) : Obs → Bool
  | .emitted (.event name data) => (onEvent p name data).closes
  | _ => false

section
variable (C : Crypto)

/-- What the session does in a turn, as far as it is recorded. -/
def made (a : Attached) (s : Session) : List Obs := s.trace.drop a.session.trace.length

/-- The provider hears of what the session did on the way to `s`. -/
def hearAll (a : Attached) (channel : String) (h : Heap) (s : Session) : Attached :=
  { (a.made s).foldl (hear channel h) a with
    session := s
    queued := fun ticket => if a.session.ticket ≤ ticket ∧ ticket < s.ticket then some s.channelId else a.queued ticket }

/-- The session moves to `s`, and is closed if a handler says so. The handler runs last in its turn. -/
def moveTo (a : Attached) (channel : String) (inputs : Inputs) (h : Heap) (s : Session) : Attached :=
  if (a.made s).any (closesOn a.provider) then
    (a.hearAll channel h s).hearAll channel h (DApp.step C s (inputs, .close "normal"))
  else a.hearAll channel h s

/-- The channel under which what a turn delivers was received. -/
def channelOf (a : Attached) (s : Session) : DApp.Label → String
  | .settle ticket _ => (a.queued ticket).getD s.channelId
  | _ => s.channelId

/-- One turn. A crash ends both objects and is none. -/
def step (a : Attached) : AttachedLabel → Attached
  | .session _ _ .crash => a
  | .session inputs h l =>
    let s := DApp.step C a.session (inputs, l)
    a.moveTo C (a.channelOf s l) inputs h s
  | .request inputs h args params =>
    match dispatch a.provider h args with
    | (.relayed method _, h) =>
      let s := DApp.step C a.session (inputs, .request method params)
      { a with asked := (a.session.ticket, args) :: a.asked }.moveTo C s.channelId inputs h s
    | _ => a

end

/-- A new provider on a session. -/
def new (session : Session) (chainId : Sdk.Num) (rpcProvider : Bool) : Attached where
  session
  provider := ⟨chainId, [], false, false, rpcProvider⟩
  queued := fun _ => some session.channelId

end Attached

/-! ### What the claim is about -/

/-- A connected session's provider refuses nothing as disconnected, and the accounts it answers
from its cache were obtained under the session's channel. -/
structure Attached.Follows (a : Attached) : Prop where
  serves : a.session.phase = .connected → ∀ h args, (dispatch a.provider h args).1 ≠ .refused disconnectedError
  current : ∀ h args addresses, args.method = "eth_accounts" → (dispatch a.provider h args).1 = .accounts addresses →
    a.origin = a.session.channelId

/-- The same of the provider's own fields. -/
structure Attached.InStep (a : Attached) : Prop where
  serves : a.session.phase = .connected → a.provider.disconnected = false
  current : a.provider.disconnected = false → a.provider.accounts ≠ [] → a.origin = a.session.channelId

theorem mapTransaction_error {h : Heap} {method : String} {tx : Value} {e : ProviderRpcError}
    (failed : mapTransaction h method tx = .error e) : e.code ≠ 4900 := by
  cases tx with
  | ref t => cases failed
  | _ =>
    cases failed
    decide

theorem mapRequest_error {h : Heap} {method : String} {params : Option Nat} {e : ProviderRpcError}
    (failed : mapRequest h method params = .error e) : e.code ≠ 4900 := by
  unfold mapRequest at failed
  split at failed
  · cases failed
  · cases failed
  · cases message : messageText (h.item params 0) with
    | error e' =>
      rw [message] at failed
      cases failed
      unfold messageText at message
      split at message
      · cases message
      · cases message
      · split at message <;> cases message
      · cases message
        decide
    | ok text =>
      rw [message] at failed
      cases failed
  · cases failed
  · cases failed
  · exact mapTransaction_error failed
  · exact mapTransaction_error failed
  · cases failed
  · split at failed <;> cases failed
  · cases failed
  · cases failed

theorem fst_ite {c : Prop} [Decidable c] {x y : Outcome × Heap} {outcome : Outcome} :
    (if c then x else y).1 = outcome ↔ c ∧ x.1 = outcome ∨ ¬ c ∧ y.1 = outcome := by
  by_cases c <;> simp [*]

/-- Only a provider that was told to disconnect refuses a request as disconnected. -/
theorem dispatch_refused {p : Provider} {h : Heap} {args : RequestArgs}
    (refused : (dispatch p h args).1 = .refused disconnectedError) : p.disconnected = true := by
  unfold dispatch at refused
  rcases fst_ite.mp refused with ⟨closed, -⟩ | ⟨-, refused⟩
  · exact closed
  iterate 6
    rcases fst_ite.mp refused with ⟨-, other⟩ | ⟨-, refused⟩
    · cases other
  rcases fst_ite.mp refused with ⟨-, other⟩ | ⟨-, refused⟩
  · rcases fst_ite.mp other with ⟨-, other⟩ | ⟨-, other⟩ <;> cases other
  · unfold relay at refused
    cases mapped : mapRequest h args.method args.params with
    | error e =>
      rw [mapped] at refused
      cases refused
      exact absurd rfl (mapRequest_error mapped)
    | ok found =>
      rw [mapped] at refused
      obtain ⟨⟨_ | _⟩, _⟩ := found
      · cases refused
      · cases refused

theorem dispatch_accounts {p : Provider} {h : Heap} {args : RequestArgs} {addresses : List (Option Json)}
    (answered : (dispatch p h args).1 = .accounts addresses) : p.disconnected = false ∧ p.accounts ≠ [] := by
  unfold dispatch at answered
  rcases fst_ite.mp answered with ⟨-, other⟩ | ⟨closed, answered⟩
  · cases other
  iterate 4
    rcases fst_ite.mp answered with ⟨-, other⟩ | ⟨-, answered⟩
    · cases other
  rcases fst_ite.mp answered with ⟨cached, -⟩ | ⟨-, answered⟩
  · exact ⟨Bool.eq_false_iff.mpr closed, cached.2⟩
  rcases fst_ite.mp answered with ⟨-, other⟩ | ⟨-, answered⟩
  · cases other
  rcases fst_ite.mp answered with ⟨-, other⟩ | ⟨-, answered⟩
  · rcases fst_ite.mp other with ⟨-, other⟩ | ⟨-, other⟩ <;> cases other
  · unfold relay at answered
    cases mapped : mapRequest h args.method args.params with
    | error e =>
      rw [mapped] at answered
      cases answered
    | ok found =>
      rw [mapped] at answered
      obtain ⟨⟨_ | _⟩, _⟩ := found <;> cases answered

theorem dispatch_disconnected {p : Provider} {h : Heap} {args : RequestArgs} (disconnected : p.disconnected = true) :
    (dispatch p h args).1 = .refused disconnectedError := by
  unfold dispatch
  rw [if_pos disconnected]

/-- A filled cache answers. -/
theorem dispatch_cached {p : Provider} (h : Heap) {args : RequestArgs} (asks : args.method = "eth_accounts")
    (open_ : p.disconnected = false) (cached : p.accounts ≠ []) : (dispatch p h args).1 = .accounts p.accounts := by
  unfold dispatch
  rw [if_neg (by simp [open_]), if_neg (by simp [asks]), if_neg (by simp [asks]), if_neg (by simp [asks]),
    if_neg (by simp [asks]), if_pos ⟨asks, cached⟩]

theorem Attached.InStep.follows {a : Attached} (h : a.InStep) : a.Follows where
  serves := fun connected heap args refused => by
    have closed := dispatch_refused refused
    rw [h.serves connected] at closed
    cases closed
  current := fun heap args addresses _ answered => h.current (dispatch_accounts answered).1 (dispatch_accounts answered).2

/-! ### What the provider hears -/

namespace Attached
variable {a : Attached} {channel : String} {h : Heap} {o : Obs}

/-- The wallet tells that it disconnects. -/
def disconnects : Obs → Bool
  | .emitted (.event (.str "disconnect") _) => true
  | _ => false

/-- The reason of a disconnect event has a text. -/
def readsReason : Obs → Bool
  | .emitted (.event (.str "disconnect") data) => (disconnectReason data).printable
  | _ => true

theorem onDisconnect_disconnected (p : Provider) (data : Json) : (onDisconnect p data).provider.disconnected = true := by
  unfold onDisconnect
  dsimp only
  cases reasonText (disconnectReason data) <;> rfl

theorem onDisconnect_closes (p : Provider) (data : Json) :
    (onDisconnect p data).closes = (disconnectReason data).printable := by
  unfold onDisconnect reasonText
  cases (disconnectReason data).printable <;> rfl

/-- The handlers of the accounts and of the chain leave the flag alone and close nothing. -/
theorem onAccountsChanged_open (p : Provider) (data : Json) :
    (onAccountsChanged p data).provider.disconnected = p.disconnected ∧ (onAccountsChanged p data).closes = false := by
  unfold onAccountsChanged
  dsimp only
  split
  · cases List.mapM accountOf _ <;> exact ⟨rfl, rfl⟩
  · exact ⟨rfl, rfl⟩

theorem onChainChanged_open (p : Provider) (data : Json) :
    (onChainChanged p data).provider.disconnected = p.disconnected ∧ (onChainChanged p data).closes = false := by
  unfold onChainChanged
  split
  · exact ⟨rfl, rfl⟩
  · exact ⟨rfl, rfl⟩
  · split_ifs <;> exact ⟨rfl, rfl⟩

/-- A handler of an event: only that of a disconnect sets the flag, and it closes the session if
the reason has a text. -/
theorem onEvent_disconnect (p : Provider) (name data : Json) :
    (onEvent p name data).provider.disconnected = (p.disconnected || disconnects (.emitted (.event name data))) ∧
      (onEvent p name data).closes =
        (disconnects (.emitted (.event name data)) && readsReason (.emitted (.event name data))) := by
  unfold onEvent
  split
  · exact ⟨(onDisconnect_disconnected p data).trans (Bool.or_true _).symm, onDisconnect_closes p data⟩
  · exact ⟨(onAccountsChanged_open p data).1.trans (Bool.or_false _).symm, (onAccountsChanged_open p data).2⟩
  · exact ⟨(onChainChanged_open p data).1.trans (Bool.or_false _).symm, (onChainChanged_open p data).2⟩
  · rename_i other _ _
    have quiet : disconnects (.emitted (.event name data)) = false := by
      unfold disconnects
      split
      · rename_i told
        cases told
        exact absurd rfl other
      · rfl
    rw [quiet]
    exact ⟨(Bool.or_false _).symm, rfl⟩

theorem closesOn_eq (p : Provider) : closesOn p o = (disconnects o && readsReason o) := by
  cases o with
  | emitted e =>
    cases e with
    | event name data => exact (onEvent_disconnect p name data).2
    | _ => rfl
  | _ => rfl

theorem answer_disconnected {p : Provider} {args : RequestArgs} {result : Option Json} :
    (onAnswer p h args result).provider.disconnected = p.disconnected := by
  unfold onAnswer
  dsimp only
  split_ifs
  · cases accountsOf result with
    | error thrown => rfl
    | ok accounts => cases accounts <;> rfl
  · rfl
  · rfl
  · rfl

theorem phase_provider {p : Provider} {phase : DApp.Phase} :
    (onPhase p phase).provider.disconnected = p.disconnected ∧ (onPhase p phase).provider.accounts = p.accounts := by
  unfold onPhase
  split_ifs <;> exact ⟨rfl, rfl⟩

theorem hear_disconnected :
    (hear channel h a o).provider.disconnected = (a.provider.disconnected || disconnects o) := by
  unfold hear
  split
  · exact phase_provider.1.trans (Bool.or_false _).symm
  · exact (onEvent_disconnect _ _ _).1
  · have quiet (promise : Nat) (outcome : DApp.Outcome) : disconnects (.settled promise outcome) = false := rfl
    rw [quiet, Bool.or_false]
    cases a.asked.find? _ with
    | none => rfl
    | some q =>
      dsimp only
      split
      · exact answer_disconnected
      · rfl
  · rename_i event _
    have quiet : disconnects o = false := by
      unfold disconnects
      split
      · exact absurd rfl (event _ _)
      · rfl
    rw [quiet, Bool.or_false]

/-- What is in the cache was put there now, or the cache is as it was. -/
def Cached (channel : String) (a b : Attached) : Prop :=
  b.origin = channel ∨ (b.origin = a.origin ∧ b.provider.accounts = a.provider.accounts)

theorem Cached.trans {b c : Attached} (first : Cached channel a b) (second : Cached channel b c) : Cached channel a c := by
  rcases second with now | ⟨origin, accounts⟩
  · exact Or.inl now
  · rcases first with earlier | ⟨older, same⟩
    · exact Or.inl (origin.trans earlier)
    · exact Or.inr ⟨origin.trans older, accounts.trans same⟩

theorem event_accounts {p : Provider} {name data : Json} (other : name ≠ .str "accountsChanged") :
    (onEvent p name data).provider.accounts = p.accounts := by
  unfold onEvent
  split
  · unfold onDisconnect
    dsimp only
    cases reasonText (disconnectReason data) <;> rfl
  · exact absurd rfl other
  · unfold onChainChanged
    split
    · rfl
    · rfl
    · split_ifs <;> rfl
  · rfl

/-- The handler takes the accounts and tells them, or does neither. -/
theorem accountsChanged_cases (p : Provider) (data : Json) : (onAccountsChanged p data).emitted.isEmpty = false ∨
    ((onAccountsChanged p data).emitted = [] ∧ (onAccountsChanged p data).provider = p) := by
  unfold onAccountsChanged
  dsimp only
  split
  · rename_i raw items found
    cases items.mapM accountOf with
    | ok accounts => exact Or.inl rfl
    | error thrown => exact Or.inr ⟨rfl, rfl⟩
  · exact Or.inr ⟨rfl, rfl⟩

theorem hearEvent_cached {name data : Json} : Cached channel a (a.hearEvent channel name data) := by
  by_cases accounts : name = .str "accountsChanged"
  · subst accounts
    have shape : a.hearEvent channel (.str "accountsChanged") data =
        { a with
          provider := (onAccountsChanged a.provider data).provider
          origin := if !(onAccountsChanged a.provider data).emitted.isEmpty then channel else a.origin } := rfl
    rw [shape]
    rcases accountsChanged_cases a.provider data with told | ⟨quiet, same⟩
    · rw [told]
      exact Or.inl rfl
    · rw [quiet, same]
      exact Or.inr ⟨rfl, rfl⟩
  · have other : (a.hearEvent channel name data).origin = a.origin := by
      unfold hearEvent
      dsimp only
      split
      · exact absurd rfl accounts
      · rfl
    exact Or.inr ⟨other, event_accounts accounts⟩

theorem answer_other {args : RequestArgs} {result : Option Json} (other : args.asksAccounts = false) :
    (a.hearAnswer channel h args result).origin = a.origin ∧
      (a.hearAnswer channel h args result).provider.accounts = a.provider.accounts := by
  have neither : ¬ (args.method = "eth_requestAccounts" ∨ args.method = "eth_accounts") := by
    simpa [RequestArgs.asksAccounts] using other
  unfold hearAnswer onAnswer
  rw [if_neg neither, other]
  refine ⟨rfl, ?_⟩
  dsimp only
  split_ifs <;> rfl

theorem hearAnswer_cached {args : RequestArgs} {result : Option Json} :
    Cached channel a (a.hearAnswer channel h args result) := by
  cases asks : args.asksAccounts with
  | false => exact Or.inr (answer_other asks)
  | true =>
    have either : args.method = "eth_requestAccounts" ∨ args.method = "eth_accounts" := by
      simpa [RequestArgs.asksAccounts] using asks
    unfold Cached hearAnswer onAnswer
    rw [if_pos either, asks]
    cases accountsOf result with
    | error thrown => exact Or.inr ⟨rfl, rfl⟩
    | ok found =>
      cases found with
      | none => exact Or.inr ⟨rfl, rfl⟩
      | some accounts => exact Or.inl rfl

theorem hear_cached : Cached channel a (hear channel h a o) := by
  unfold hear
  split
  · exact Or.inr ⟨rfl, phase_provider.2⟩
  · exact hearEvent_cached
  · cases a.asked.find? _ with
    | none => exact Or.inr ⟨rfl, rfl⟩
    | some q =>
      dsimp only
      split
      · exact hearAnswer_cached (a := { a with asked := _ })
      · exact Or.inr ⟨rfl, rfl⟩
  · exact Or.inr ⟨rfl, rfl⟩

/-- Observations that can change the accounts of the provider. -/
def bringsAccounts (a : Attached) : Obs → Bool
  | .emitted (.event (.str "accountsChanged") _) => true
  | .settled promise (.resolved _) => a.asked.any fun q => q.1 == promise && q.2.asksAccounts
  | _ => false

theorem hear_asked : (hear channel h a o).asked ⊆ a.asked := by
  unfold hear
  split
  · exact fun _ mem => mem
  · exact fun _ mem => mem
  · cases a.asked.find? _ with
    | none => exact fun _ mem => mem
    | some q =>
      dsimp only
      split <;> exact fun _ mem => List.mem_of_mem_filter mem
  · exact fun _ mem => mem

theorem bringsAccounts_mono {b : Attached} (fewer : b.asked ⊆ a.asked) (brings : b.bringsAccounts o = true) :
    a.bringsAccounts o = true := by
  unfold bringsAccounts at *
  split at brings
  · rfl
  · obtain ⟨q, mem, asks⟩ := List.any_eq_true.mp brings
    exact List.any_eq_true.mpr ⟨q, fewer mem, asks⟩
  · cases brings

/-- Other observations leave the cache as it is. -/
theorem hear_other (other : a.bringsAccounts o = false) :
    (hear channel h a o).origin = a.origin ∧ (hear channel h a o).provider.accounts = a.provider.accounts := by
  unfold hear
  split
  · exact ⟨rfl, phase_provider.2⟩
  · rename_i name data
    have differs : name ≠ .str "accountsChanged" := by
      rintro rfl
      cases other
    refine ⟨?_, event_accounts differs⟩
    unfold hearEvent
    dsimp only
    split
    · exact absurd rfl differs
    · rfl
  · rename_i promise outcome
    cases found : a.asked.find? _ with
    | none => exact ⟨rfl, rfl⟩
    | some q =>
      obtain ⟨asked, args⟩ := q
      dsimp only
      split
      · rename_i result
        have mem : (asked, args) ∈ a.asked := List.mem_of_find?_eq_some found
        have same : asked == promise := List.find?_some (p := fun q : Nat × RequestArgs => q.1 == promise) found
        have unasked : args.asksAccounts = false := by
          have none := List.any_eq_false.mp other (asked, args) mem
          simpa [same] using none
        exact answer_other unasked
      · exact ⟨rfl, rfl⟩
  · exact ⟨rfl, rfl⟩

section All
variable {obs : List Obs}

theorem foldl_disconnected :
    (obs.foldl (hear channel h) a).provider.disconnected = (a.provider.disconnected || obs.any disconnects) := by
  induction obs generalizing a with
  | nil => simp
  | cons o rest ih => rw [List.foldl_cons, ih, hear_disconnected, List.any_cons, Bool.or_assoc]

theorem foldl_cached : Cached channel a (obs.foldl (hear channel h) a) := by
  induction obs generalizing a with
  | nil => exact Or.inr ⟨rfl, rfl⟩
  | cons o rest ih => exact hear_cached.trans ih

theorem foldl_other (other : ∀ o ∈ obs, a.bringsAccounts o = false) :
    (obs.foldl (hear channel h) a).origin = a.origin ∧
      (obs.foldl (hear channel h) a).provider.accounts = a.provider.accounts := by
  induction obs generalizing a with
  | nil => exact ⟨rfl, rfl⟩
  | cons o rest ih =>
    have first : (hear channel h a o).origin = a.origin ∧ (hear channel h a o).provider.accounts = a.provider.accounts :=
      hear_other (other o (by simp))
    have later := ih (a := hear channel h a o) fun o' mem => by
      by_contra brings
      have before := bringsAccounts_mono hear_asked (Bool.eq_true_of_not_eq_false brings)
      rw [other o' (by simp [mem])] at before
      cases before
    exact ⟨later.1.trans first.1, later.2.trans first.2⟩

end All

end Attached

/-! ### One turn -/

namespace Attached

/-- The channel that a new or a restored pairing is on. -/
def pairsOn : DApp.Label → Option String
  | .createPairing _ channelId _ => some channelId
  | .restore d => if d.identifies then some d.channelId else none
  | _ => none

def restoresKeyed : DApp.Label → Bool
  | .restore d => d.keyed
  | _ => false

/-- The turn delivers a frame that came under another channel. -/
def isLate (a : Attached) : DApp.Label → Bool
  | .settle ticket _ => match a.queued ticket with
    | some channel => channel ≠ a.session.channelId
    | none => false
  | _ => false

section
variable (C : Crypto)

/-- What a turn may be so that the provider follows. A disconnect event has a reason with a text
and finds a session that can close; a provider that the wallet disconnected is not connected
again; one with cached accounts stays on its channel, and hears of no accounts that
were received under another. -/
structure Steady (a : Attached) (inputs : Inputs) (l : DApp.Label) : Prop where
  closes : (a.made (DApp.step C a.session (inputs, l))).any disconnects = true →
    { a.session with inputs := inputs }.canClose
  readable : (a.made (DApp.step C a.session (inputs, l))).all readsReason = true
  opens : a.provider.disconnected = true → a.session.opens l = false ∧ restoresKeyed l = false
  pairs : a.provider.disconnected = false → a.provider.accounts ≠ [] → ∀ channel ∈ pairsOn l, channel = a.session.channelId
  late : a.provider.disconnected = false → a.isLate l = true →
    ∀ o ∈ a.made (DApp.step C a.session (inputs, l)), a.bringsAccounts o = false

instance (a : Attached) (inputs : Inputs) (l : DApp.Label) : Decidable (Steady C a inputs l) :=
  decidable_of_iff
    (((a.made (DApp.step C a.session (inputs, l))).any disconnects = true →
        { a.session with inputs := inputs }.canClose) ∧
      (a.made (DApp.step C a.session (inputs, l))).all readsReason = true ∧
      (a.provider.disconnected = true → a.session.opens l = false ∧ restoresKeyed l = false) ∧
      (a.provider.disconnected = false → a.provider.accounts ≠ [] → ∀ channel ∈ pairsOn l, channel = a.session.channelId) ∧
      (a.provider.disconnected = false → a.isLate l = true →
        ∀ o ∈ a.made (DApp.step C a.session (inputs, l)), a.bringsAccounts o = false))
    ⟨fun ⟨closes, readable, opens, pairs, late⟩ => ⟨closes, readable, opens, pairs, late⟩,
      fun ⟨closes, readable, opens, pairs, late⟩ => ⟨closes, readable, opens, pairs, late⟩⟩

/-- Requests are free. -/
def SteadyLabel (a : Attached) : AttachedLabel → Prop
  | .session inputs _ l => Steady C a inputs l
  | .request _ _ _ _ => True

instance (a : Attached) : (label : AttachedLabel) → Decidable (SteadyLabel C a label)
  | .session inputs _ l => inferInstanceAs (Decidable (Steady C a inputs l))
  | .request _ _ _ _ => instDecidableTrue

variable {C} {a : Attached} {channel : String} {inputs : Inputs} {h : Heap} {s : Session}

theorem hearAll_disconnected : (a.hearAll channel h s).provider.disconnected =
    (a.provider.disconnected || (a.made s).any disconnects) :=
  foldl_disconnected

/-- Where every reason has a text, the provider closes the session when it is told to disconnect. -/
theorem any_closesOn (readable : (a.made s).all readsReason = true) (p : Provider) :
    (a.made s).any (closesOn p) = (a.made s).any disconnects := by
  have each : ∀ o ∈ a.made s, closesOn p o = disconnects o := by
    intro o mem
    rw [closesOn_eq, List.all_eq_true.mp readable o mem, Bool.and_true]
  rw [Bool.eq_iff_iff, List.any_eq_true, List.any_eq_true]
  exact exists_congr fun o => and_congr_right fun mem => by rw [each o mem]

/-- A turn in which the session may be closed by the provider. -/
theorem moveTo_inStep (readable : (a.made s).all readsReason = true)
    (closes : (a.made s).any disconnects = true → { s with inputs := inputs }.canClose)
    (serves : s.phase = .connected → a.provider.disconnected = false)
    (current : a.provider.disconnected = false → (a.hearAll channel h s).provider.accounts ≠ [] →
      (a.hearAll channel h s).origin = s.channelId) :
    (a.moveTo C channel inputs h s).InStep := by
  unfold moveTo
  rw [any_closesOn readable]
  by_cases told : (a.made s).any disconnects = true
  · rw [if_pos told]
    have disconnected : ((a.hearAll channel h s).hearAll channel h
        (DApp.step C s (inputs, .close "normal"))).provider.disconnected = true := by
      rw [hearAll_disconnected, hearAll_disconnected, told]
      simp
    have closed : (DApp.step C s (inputs, .close "normal")).phase = .closed :=
      close_closed (s := { s with inputs := inputs }) (closes told)
    constructor
    · intro connected
      have phase : (DApp.step C s (inputs, .close "normal")).phase = .connected := connected
      rw [closed] at phase
      cases phase
    · intro open_
      rw [disconnected] at open_
      cases open_
  · have same : (a.hearAll channel h s).provider.disconnected = a.provider.disconnected := by
      rw [hearAll_disconnected, Bool.eq_false_iff.mpr told, Bool.or_false]
    rw [if_neg told]
    constructor
    · intro connected
      rw [same]
      exact serves connected
    · intro open_ cached
      rw [same] at open_
      exact current open_ cached

/-- Without a delivery the wallet tells nothing. -/
theorem silent_told (silent : Run.Adds Obs.silent a.session.trace s.trace) :
    (a.made s).any disconnects = false ∧ (a.made s).all readsReason = true := by
  obtain ⟨new, grown, all⟩ := silent
  have made : a.made s = new := by
    unfold Attached.made
    rw [grown, List.drop_left]
  rw [made, List.any_eq_false, List.all_eq_true]
  constructor
  · intro o mem told
    unfold disconnects at told
    split at told
    · exact (all _ mem).1 rfl
    · cases told
  · intro o mem
    unfold readsReason
    split
    · exact absurd rfl (all _ mem).1
    · rfl

theorem Steady.canClose {l : DApp.Label} (alive : l ≠ .crash) (steady : Steady C a inputs l)
    (told : (a.made (DApp.step C a.session (inputs, l))).any disconnects = true) :
    { DApp.step C a.session (inputs, l) with inputs := inputs }.canClose := by
  have continues : l.continues = true := by
    by_contra starts
    have silent : Run.Adds Obs.silent a.session.trace (DApp.step C a.session (inputs, l)).trace := by
      refine step_silent ?_ alive
      cases l with
      | message msg => exact absurd rfl starts
      | settle ticket resolves => exact absurd rfl starts
      | _ => rfl
    rw [(silent_told silent).1] at told
    cases told
  have names : (DApp.step C a.session (inputs, l)).names = a.session.names := step_names continues
  have channelId : (DApp.step C a.session (inputs, l)).channelId = a.session.channelId := congrArg Prod.fst names
  have pubKeyB64 : (DApp.step C a.session (inputs, l)).pubKeyB64 = a.session.pubKeyB64 := congrArg Prod.snd names
  have before := steady.closes told
  unfold Session.canClose at *
  dsimp only at *
  rw [channelId, pubKeyB64]
  exact before

theorem Steady.stays {l : DApp.Label} (alive : l ≠ .crash) (steady : Steady C a inputs l)
    (open_ : a.provider.disconnected = false) (cached : a.provider.accounts ≠ []) :
    (DApp.step C a.session (inputs, l)).channelId = a.session.channelId := by
  have pairs := steady.pairs open_ cached
  by_cases continues : l.continues = true
  · exact step_channel continues
  cases l with
  | createPairing privateKey channelId deferTransport =>
    have same : channelId = a.session.channelId := pairs channelId rfl
    exact createPairing_channel.trans same
  | restore d =>
    by_cases named : d.identifies = true
    · have same : d.channelId = a.session.channelId := pairs d.channelId (if_pos named)
      have which : (DApp.step C a.session (inputs, .restore d)).channelId = a.session.channelId ∨
          (DApp.step C a.session (inputs, .restore d)).channelId = d.channelId := restore_channel
      exact which.elim id fun taken => taken.trans same
    · rw [restore_unidentified (Bool.eq_false_iff.mpr named)]
  | crash => exact absurd rfl alive
  | _ => exact absurd rfl continues

/-- A frame that is not late was received under the channel that the session is on. -/
theorem channelOf_current {l : DApp.Label} (onTime : a.isLate l = false) :
    a.channelOf (DApp.step C a.session (inputs, l)) l = (DApp.step C a.session (inputs, l)).channelId := by
  cases l with
  | settle ticket resolves =>
    have same : (DApp.step C a.session (inputs, .settle ticket resolves)).channelId = a.session.channelId := step_channel rfl
    change (a.queued ticket).getD _ = _
    cases queued : a.queued ticket with
    | none => rfl
    | some channel =>
      have current : channel = a.session.channelId := by
        by_contra other
        simp [isLate, queued, other] at onTime
      rw [same]
      exact current
  | _ => rfl

theorem session_inStep {l : DApp.Label} (alive : l ≠ .crash) (steady : Steady C a inputs l) (held : a.InStep) :
    (a.moveTo C (a.channelOf (DApp.step C a.session (inputs, l)) l) inputs h (DApp.step C a.session (inputs, l))).InStep := by
  refine moveTo_inStep steady.readable (steady.canClose alive) ?_ ?_
  · intro connected
    by_contra disconnected
    obtain ⟨closed, unkeyed⟩ := steady.opens (Bool.eq_true_of_not_eq_false disconnected)
    have before : a.session.phase ≠ .connected := fun before => disconnected (held.serves before)
    rcases step_connected alive connected with was | opens | ⟨d, rfl⟩
    · exact before was
    · rw [closed] at opens
      cases opens
    · rw [restore_unkeyed unkeyed] at connected
      exact before connected
  · intro open_ cached
    -- The cache is as it was, and the session on the channel it was on.
    have older (origin : (a.hearAll (a.channelOf (DApp.step C a.session (inputs, l)) l) h
          (DApp.step C a.session (inputs, l))).origin = a.origin)
        (accounts : (a.hearAll (a.channelOf (DApp.step C a.session (inputs, l)) l) h
          (DApp.step C a.session (inputs, l))).provider.accounts = a.provider.accounts) :
        (a.hearAll (a.channelOf (DApp.step C a.session (inputs, l)) l) h (DApp.step C a.session (inputs, l))).origin =
          (DApp.step C a.session (inputs, l)).channelId := by
      have earlier : a.provider.accounts ≠ [] := by
        rw [← accounts]
        exact cached
      calc (a.hearAll _ h _).origin
        _ = a.origin := origin
        _ = a.session.channelId := held.current open_ earlier
        _ = _ := (steady.stays alive open_ earlier).symm
    by_cases late : a.isLate l = true
    · have kept := @foldl_other a (a.channelOf (DApp.step C a.session (inputs, l)) l) h _ (steady.late open_ late)
      exact older kept.1 kept.2
    · have current : a.channelOf (DApp.step C a.session (inputs, l)) l = (DApp.step C a.session (inputs, l)).channelId :=
        channelOf_current (Bool.eq_false_iff.mpr late)
      rcases @foldl_cached a (a.channelOf (DApp.step C a.session (inputs, l)) l) h
          (a.made (DApp.step C a.session (inputs, l))) with now | ⟨origin, accounts⟩
      · exact Eq.trans now current
      · exact older origin accounts

/-- A relayed request changes neither the flag nor the cache. -/
theorem request_inStep {method : String} {params : Option Json} {asked : List (Nat × RequestArgs)} (held : a.InStep) :
    ({ a with asked := asked }.moveTo C (DApp.step C a.session (inputs, .request method params)).channelId inputs h
      (DApp.step C a.session (inputs, .request method params))).InStep := by
  have silent : Run.Adds Obs.silent a.session.trace (DApp.step C a.session (inputs, .request method params)).trace :=
    step_silent rfl nofun
  have channel : (DApp.step C a.session (inputs, .request method params)).channelId = a.session.channelId := step_channel rfl
  have quiet := @silent_told { a with asked := asked } _ silent
  refine moveTo_inStep (a := { a with asked := asked }) quiet.2 ?_ ?_ ?_
  · intro told
    rw [quiet.1] at told
    cases told
  · intro connected
    rcases step_connected (l := .request method params) nofun connected with was | opens | ⟨d, same⟩
    · exact held.serves was
    · cases opens
    · cases same
  · intro open_ cached
    rcases @foldl_cached { a with asked := asked } (DApp.step C a.session (inputs, .request method params)).channelId h
        (a.made (DApp.step C a.session (inputs, .request method params))) with now | ⟨origin, accounts⟩
    · exact now
    · have earlier : a.provider.accounts ≠ [] := by
        rw [← accounts]
        exact cached
      exact origin.trans ((held.current open_ earlier).trans channel.symm)

/-- What one turn keeps. -/
theorem step_inStep (label : AttachedLabel) (steady : SteadyLabel C a label) (held : a.InStep) :
    (Attached.step C a label).InStep := by
  cases label with
  | session inputs h l =>
    by_cases crash : l = .crash
    · subst crash
      exact held
    · have stepped : Attached.step C a (.session inputs h l) =
          a.moveTo C (a.channelOf (DApp.step C a.session (inputs, l)) l) inputs h (DApp.step C a.session (inputs, l)) := by
        cases l with
        | crash => exact absurd rfl crash
        | _ => rfl
      rw [stepped]
      exact session_inStep crash steady held
  | request inputs h args params =>
    change InStep (match dispatch a.provider h args with
      | (.relayed method _, h) =>
        ({ a with asked := (a.session.ticket, args) :: a.asked }.moveTo C
          (DApp.step C a.session (inputs, .request method params)).channelId inputs h
          (DApp.step C a.session (inputs, .request method params)))
      | _ => a)
    split
    · exact request_inStep held
    · exact held

end

end Attached

/-! ### Runs -/

/-- In a run whose turns are all steady the provider follows the session in every state. -/
theorem provider_follows_session (C : Crypto) (session : Session) (chainId : Sdk.Num) (rpcProvider : Bool)
    (labels : List AttachedLabel)
    (steady : Run.Along (Attached.step C) (Attached.SteadyLabel C) (.new session chainId rpcProvider) labels) :
    ∀ first, first <+: labels → (Run.run (Attached.step C) (.new session chainId rpcProvider) first).Follows := by
  rintro first ⟨rest, rfl⟩
  have start : (Attached.new session chainId rpcProvider).InStep := ⟨fun _ => rfl, fun _ cached => absurd rfl cached⟩
  have kept : (Run.run (Attached.step C) (.new session chainId rpcProvider) first).InStep :=
    Run.invariant (fun _ label steady held => Attached.step_inStep label steady held) (Run.along_append.mp steady).1 start
  exact kept.follows

namespace Sample

/-- A dApp without storage. -/
def unsaved : Options := { DApp.Sample.options with persistence := none }

def attached : Attached := .new (.new unsaved) (.finite 1) false

/-- Calm turns. -/
def turns (labels : List DApp.Label) : List AttachedLabel := labels.map fun l => .session {} [] l

/-- The wallet tells an event. -/
def tells (event : String) (members : List (String × Json)) : DApp.Label :=
  .message ⟨1, "ab", 0, b64urlEncode Sdk.Sample.walletKey, .evt (some event)
    (Sdk.Sample.envelope Sdk.Sample.walletToDappKey Sdk.Sample.walletKey .evt event 0 (.obj (("_event", .str event) :: members)))⟩

/-- A pairing that gets connected. -/
def paired : List DApp.Label := [.createPairing Sdk.Sample.dappKey "ab" false, .connect 0 true, .message Sdk.Sample.join,
  .message (Sdk.Sample.ready Sdk.Sample.walletKey)]

/-- The wallet tells of an account, the transport breaks, and the dApp closes. -/
def leaving : List AttachedLabel := turns (paired ++ [tells "accountsChanged" [("accounts", .arr [.str "0x1"])], .ping,
  .transportClose, .close "normal"])

/-- Connected again after the wallet disconnected. -/
def rejoined : Attached := Run.run (Attached.step .transparent) attached (turns (paired ++ [tells "disconnect" [],
  .reconnect, .connect 1 true, .message (Sdk.Sample.ready Sdk.Sample.walletKey)]))

/-- The wallet disconnects with a reason that has no text, at which the provider's handler throws. -/
def unclosed : Attached := Run.run (Attached.step .transparent) attached (turns paired ++
  [.session { throws := [true] } [] (tells "disconnect" [("reason", .obj [("toString", .num 1 0)])])])

/-- A second pairing after the wallet told of an account. -/
def repaired : Attached := Run.run (Attached.step .transparent) attached (turns (paired ++ [
  tells "accountsChanged" [("accounts", .arr [.str "0x1"])], .close "normal", .createPairing Sdk.Sample.dappKey "cd" false]))

end Sample

theorem provider_follows_session_sample :
    (Run.run (Attached.step .transparent) Sample.attached Sample.leaving).Follows :=
  provider_follows_session .transparent (.new Sample.unsaved) (.finite 1) false Sample.leaving (by decide +kernel) _
    List.prefix_rfl

theorem left_behind_facts :
    (Sample.rejoined.session.phase = .connected ∧ Sample.rejoined.provider.disconnected = true) ∧
    (Sample.unclosed.session.phase = .connected ∧ Sample.unclosed.provider.disconnected = true) ∧
    Sample.repaired.provider.disconnected = false ∧ Sample.repaired.provider.accounts ≠ [] ∧
    ¬ Sample.repaired.origin = Sample.repaired.session.channelId := by
  decide +kernel

/-- After a disconnect event the provider refuses for ever, also on a session that is connected
again, or still connected since the reason had no text; and a new pairing leaves it the accounts
of the one before. -/
theorem provider_left_behind :
    ¬ Sample.rejoined.Follows ∧ ¬ Sample.unclosed.Follows ∧ ¬ Sample.repaired.Follows := by
  have refuses {a : Attached} (connected : a.session.phase = .connected) (closed : a.provider.disconnected = true) :
      ¬ a.Follows := by
    intro follows
    have refused : (dispatch a.provider [] ⟨"eth_accounts", none⟩).1 = .refused disconnectedError :=
      dispatch_disconnected closed
    exact follows.serves connected [] ⟨"eth_accounts", none⟩ refused
  obtain ⟨⟨rejoined, left⟩, ⟨unclosed, heard⟩, opened, cached, differs⟩ := left_behind_facts
  refine ⟨refuses rejoined left, refuses unclosed heard, ?_⟩
  intro follows
  have answered : (dispatch Sample.repaired.provider [] ⟨"eth_accounts", none⟩).1 = .accounts Sample.repaired.provider.accounts :=
    dispatch_cached [] rfl opened cached
  exact differs (follows.current [] _ _ rfl answered)

end WalletPair.Evm
