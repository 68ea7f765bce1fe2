import WalletPair.Extension.RequestRuns

/-! The pairing flag of the background worker: it is up while a pairing is being made or shown. -/

namespace WalletPair.Extension.Rpc
open WalletPair.Lib WalletPair.Lib.Run WalletPair.Sdk.DApp

/-! ### What the flag stands for -/

/-- The call is in a `createSession` that concerns this session. -/
def Stage.makes (session : Option (Nat × Phase)) : Stage → Bool
  | .settings => true
  | .connecting object => session.any (·.1 = object)
  | _ => false

def Stage.creating : Stage → Bool
  | .settings | .connecting _ => true
  | _ => false

def makes (calls : List Call) (session : Option (Nat × Phase)) : Bool := calls.any fun c => c.stage.makes session

/-- A wallet can join, or waits for approval. -/
def invites (session : Option (Nat × Phase)) : Bool := session.any fun o => o.2 = .waiting ∨ o.2 = .pendingAccept

namespace Desk

/-- No handler is in `createSession`. -/
def quiet (s : Desk) : Bool := s.calls.all fun c => !c.stage.creating

/-- The flag is down, or a pairing is made or shown. -/
def Unstuck (s : Desk) : Prop := s.pairingInProgress = true → makes s.calls s.session = true ∨ invites s.session = true

/-- What a turn may be so that the flag does not stick: while it is up a `createSession` fails, the
session loses its transport, or a session without a snapshot takes its place only if another
pairing goes on. -/
def Proceeds (s : Desk) (turn : Nat × Label) : Prop :=
  match turn.2 with
  | .settings n .refused => s.stageOf n = some .settings → s.pairingInProgress = true →
      makes (s.calls.eraseIdx n) s.session = true ∨ invites s.session = true
  | .settings n .broken => s.stageOf n = some .settings → s.pairingInProgress = true →
      (∃ o ∈ s.session, o.2 ≠ .closed) ∨ makes (s.calls.eraseIdx n) none = true
  | .connect n .refused => (∃ object, s.stageOf n = some (.connecting object)) → s.pairingInProgress = true →
      makes (s.calls.eraseIdx n) s.session = true ∨ invites s.session = true
  | .phase .disconnected => s.pairingInProgress = true → makes s.calls s.session = true
  | .rebuild false => s.pairingInProgress = true → makes s.calls none = true
  | _ => True

end Desk

/-! ### One turn -/

section Lists
variable {α : Type} {p : α → Bool} {f : α → α} {l : List α} {n : Nat}

theorem any_modify : (l.modify n f).any p = ((l.eraseIdx n).any p || (l[n]?).any fun x => p (f x)) := by
  induction l generalizing n with
  | nil => cases n <;> rfl
  | cons x rest ih =>
    cases n with
    | zero => simp [Bool.or_comm]
    | succ n => simp [List.modify_succ_cons, ih, Bool.or_assoc]

theorem any_eraseIdx : l.any p = ((l.eraseIdx n).any p || (l[n]?).any p) := by
  have same : l.modify n id = l := List.modify_id n l
  have split := any_modify (l := l) (p := p) (f := id) (n := n)
  rw [same] at split
  exact split

end Lists

/-- What `Unstuck` rests on is the same. -/
structure SamePairing (s t : Desk) : Prop where
  flag : t.pairingInProgress = s.pairingInProgress
  session : t.session = s.session
  objects : t.objects = s.objects
  calls : ∀ session, makes t.calls session = makes s.calls session

namespace SamePairing
variable {s t u : Desk}

theorem refl (s : Desk) : SamePairing s s := ⟨rfl, rfl, rfl, fun _ => rfl⟩

theorem trans (first : SamePairing s t) (second : SamePairing t u) : SamePairing s u where
  flag := second.flag.trans first.flag
  session := second.session.trans first.session
  objects := second.objects.trans first.objects
  calls := fun session => (second.calls session).trans (first.calls session)

theorem iterate {f : Desk → Desk} (same : ∀ s, SamePairing s (f s)) (k : Nat) (s : Desk) : SamePairing s (f^[k] s) := by
  induction k generalizing s with
  | zero => exact refl s
  | succ k ih => exact (same s).trans (ih (f s))

theorem unstuck (same : SamePairing s t) (unstuck : s.Unstuck) : t.Unstuck := by
  intro up
  rw [same.session, same.calls]
  rw [same.flag] at up
  exact unstuck up

end SamePairing

namespace Desk
variable {s : Desk} {now n : Nat}

theorem resolve_samePairing {t : Desk} {call : Nat} {origin : Option String} {response : RpcResponse} (same : SamePairing s t) :
    SamePairing s (t.resolve now call origin response) := by
  refine same.trans ⟨rfl, rfl, rfl, fun session => ?_⟩
  unfold makes resolve
  dsimp only
  rw [any_modify, any_eraseIdx (n := call) (l := t.calls)]
  congr 1
  cases t.calls[call]? with
  | none => rfl
  | some c =>
    obtain ⟨caller, id, payload, origin, stage⟩ := c
    cases stage <;> rfl

theorem rejectAllDeferred_samePairing (s : Desk) (now : Nat) (code : Int) (message : String) :
    SamePairing s (s.rejectAllDeferred now code message) := by
  refine SamePairing.iterate (fun s => ?_) _ s
  unfold rejectFirst
  split
  · exact .refl s
  · exact resolve_samePairing ⟨rfl, rfl, rfl, fun _ => rfl⟩

theorem flushDeferredRequests_samePairing (s : Desk) : SamePairing s s.flushDeferredRequests := by
  refine SamePairing.iterate (fun s => ?_) _ s
  unfold flushFirst
  split
  · exact .refl s
  · refine ⟨rfl, rfl, rfl, fun session => ?_⟩
    simp [makes, shift, Stage.makes]

theorem timeout_samePairing (s : Desk) (now : Nat) (timer : Nat × String) : SamePairing s (s.timeout now timer) := by
  unfold timeout
  split_ifs
  · dsimp only
    split
    · exact ⟨rfl, rfl, rfl, fun _ => rfl⟩
    · exact resolve_samePairing ⟨rfl, rfl, rfl, fun _ => rfl⟩
  · exact .refl s

/-! The session -/

theorem makes_phase (calls : List Call) (object : Nat) (phase other : Phase) :
    makes calls (some (object, phase)) = makes calls (some (object, other)) := by
  unfold makes
  congr 1

theorem makes_mono {calls : List Call} {session : Option (Nat × Phase)} (made : makes calls none = true) :
    makes calls session = true := by
  obtain ⟨c, mem, stage⟩ := List.any_eq_true.mp made
  refine List.any_eq_true.mpr ⟨c, mem, ?_⟩
  cases at_ : c.stage with
  | settings => rfl
  | _ =>
    rw [at_] at stage
    cases stage

theorem setStage_makes (s : Desk) (n : Nat) (stage : Stage) (session : Option (Nat × Phase)) :
    makes (s.setStage n stage).calls session =
      (makes (s.calls.eraseIdx n) session || (s.stageOf n).any fun _ => stage.makes session) := by
  unfold makes setStage stageOf
  rw [any_modify, Option.any_map]

/-- A phase change, apart from what it does to the requests. -/
theorem setPhase_cases (s : Desk) (now : Nat) (phase : Phase) :
    ((∀ o ∈ s.session, o.2 = phase) ∧ s.setPhase now phase = s) ∨
    ∃ object before, s.session = some (object, before) ∧ before ≠ phase ∧
      SamePairing { s with
        session := some (object, phase)
        pairingInProgress := s.pairingInProgress && !(phase = .connected || phase = .closed) } (s.setPhase now phase) := by
  unfold setPhase
  cases session : s.session with
  | none => exact Or.inl ⟨nofun, rfl⟩
  | some o =>
    obtain ⟨object, before⟩ := o
    dsimp only
    by_cases same : before = phase
    · rw [if_pos same]
      refine Or.inl ⟨?_, rfl⟩
      rintro o ⟨⟩
      exact same
    · rw [if_neg same]
      refine Or.inr ⟨object, before, rfl, same, ?_⟩
      cases phase with
      | connected =>
        have kept := flushDeferredRequests_samePairing { s with session := some (object, .connected), pairingInProgress := false }
        have lowered : (s.pairingInProgress && !(Phase.connected = Phase.connected || Phase.connected = Phase.closed)) = false := by simp
        rw [lowered]
        exact kept
      | closed =>
        have kept := rejectAllDeferred_samePairing { s with session := some (object, .closed), pairingInProgress := false, known := {} }
          now 4001 "Session closed"
        have lowered : (s.pairingInProgress && !(Phase.closed = Phase.connected || Phase.closed = Phase.closed)) = false := by simp
        rw [lowered]
        exact ⟨kept.flag, kept.session, kept.objects, kept.calls⟩
      | _ => exact ⟨by simp [onPhase], rfl, rfl, fun _ => rfl⟩

/-! ### Turns of the calls -/

/-- A call that makes nothing may go on to anything. -/
theorem setStage_unstuck {stage : Stage} (idle : ∀ before, s.stageOf n = some before → before.makes s.session = false)
    (unstuck : s.Unstuck) : (s.setStage n stage).Unstuck := by
  intro up
  rcases unstuck up with making | inviting
  · have others : makes (s.calls.eraseIdx n) s.session = true := by
      have split : makes s.calls s.session =
          (makes (s.calls.eraseIdx n) s.session || (s.stageOf n).any fun before => before.makes s.session) := by
        unfold makes stageOf
        rw [any_eraseIdx, Option.any_map]
      rw [split, Bool.or_eq_true] at making
      refine making.resolve_right fun own => ?_
      cases at_ : s.stageOf n with
      | none =>
        rw [at_] at own
        cases own
      | some before =>
        rw [at_, Option.any_some, idle before at_] at own
        cases own
    refine Or.inl ?_
    change makes (s.setStage n stage).calls s.session = true
    rw [setStage_makes, others, Bool.true_or]
  · exact Or.inr inviting

/-- A call that fails leaves the flag right where another pairing goes on. -/
theorem setStage_others {stage : Stage} (others : s.pairingInProgress = true →
    makes (s.calls.eraseIdx n) s.session = true ∨ invites s.session = true) : (s.setStage n stage).Unstuck := by
  intro up
  refine (others up).imp_left fun making => ?_
  change makes (s.setStage n stage).calls s.session = true
  rw [setStage_makes, making, Bool.true_or]

theorem invites_unstuck (inviting : invites s.session = true) : s.Unstuck := fun _ => Or.inr inviting

theorem addDeferredRequest_unstuck {c : Call} (idle : ∀ before, s.stageOf n = some before → before.makes s.session = false)
    (unstuck : s.Unstuck) : (s.addDeferredRequest n c).Unstuck :=
  setStage_unstuck (s := { s with
    deferredRequests := s.deferredRequests ++ [⟨c.id, c.payload, c.origin, n⟩]
    timers := s.timers ++ [(n, c.id)]
    deferrals := s.deferrals ++ [n] }) idle unstuck

theorem handle_unstuck (toLowerCase : String → String) {c : Call} (at_ : s.stageOf n = some .permission) (unstuck : s.Unstuck) :
    (s.handle toLowerCase n c).Unstuck := by
  have idle : ∀ before, s.stageOf n = some before → before.makes s.session = false := by
    intro before same
    rw [at_] at same
    cases same
    rfl
  unfold handle
  split
  · exact setStage_unstuck idle unstuck
  · exact setStage_unstuck idle unstuck
  · intro _
    refine Or.inl ?_
    change makes ({ s with pairingInProgress := true }.setStage n .settings).calls s.session = true
    rw [setStage_makes]
    change (_ || (s.stageOf n).any fun _ => true) = true
    rw [at_]
    exact Bool.or_true _
  · exact addDeferredRequest_unstuck idle unstuck
  · exact setStage_unstuck idle unstuck
  · exact setStage_unstuck idle unstuck

theorem setPhase_unstuck {phase : Phase} (unstuck : s.Unstuck)
    (kept : s.pairingInProgress = true → phase = .disconnected → makes s.calls s.session = true) (started : phase ≠ .idle) :
    (s.setPhase now phase).Unstuck := by
  rcases setPhase_cases s now phase with ⟨-, same⟩ | ⟨object, before, session, -, pairing⟩
  · rw [same]
    exact unstuck
  · refine pairing.unstuck fun up => ?_
    obtain ⟨high, moving⟩ := Bool.and_eq_true _ _ |>.mp up
    cases phase with
    | idle => exact absurd rfl started
    | waiting => exact Or.inr rfl
    | pendingAccept => exact Or.inr rfl
    | connected => cases moving
    | closed => cases moving
    | disconnected =>
      have making := kept high rfl
      rw [session] at making
      exact Or.inl ((makes_phase s.calls object _ _).trans making)

/-- The session that is shown to the wallet. -/
theorem setPhase_waiting_invites (here : s.session.isSome = true) : invites (s.setPhase now .waiting).session = true := by
  rcases setPhase_cases s now .waiting with ⟨already, same⟩ | ⟨object, before, session, -, pairing⟩
  · rw [same]
    obtain ⟨o, at_⟩ := Option.isSome_iff_exists.mp here
    rw [at_]
    simp [invites, already o at_]
  · rw [pairing.session]
    rfl

theorem createSession_unstuck {outcome : Outcome} (at_ : s.stageOf n = some .settings)
    (proceeds : s.Proceeds (now, .settings n outcome)) : (s.createSession now n outcome).Unstuck := by
  cases outcome with
  | refused => exact setStage_others (proceeds at_)
  | broken =>
    intro up
    rcases setPhase_cases (s.setStage n .ended) now .closed with ⟨closed, same⟩ | ⟨object, before, session, -, pairing⟩
    · have flag : s.pairingInProgress = true := by
        have kept : ((s.setStage n .ended).setPhase now .closed).pairingInProgress = s.pairingInProgress := by
          rw [same]
          rfl
        rw [← kept]
        exact up
      refine Or.inl ?_
      rcases proceeds at_ flag with ⟨o, here, open_⟩ | making
      · exact absurd (closed o here) open_
      · change makes ((s.setStage n .ended).setPhase now .closed).calls _ = true
        rw [same, setStage_makes, makes_mono making, Bool.true_or]
    · have lowered := pairing.flag
      rw [show (((s.setStage n .ended).setPhase now .closed)).pairingInProgress = true from up] at lowered
      simp at lowered
  | done =>
    intro _
    refine Or.inl ?_
    have shown : makes (s.setStage n (.connecting s.objects)).calls (some (s.objects, .idle)) = true := by
      rw [setStage_makes, at_]
      simp [Stage.makes]
    rcases setPhase_cases (s.setStage n (.connecting s.objects)) now .closed with ⟨-, same⟩ | ⟨_, _, -, -, pairing⟩
    · change makes ((s.setStage n (.connecting s.objects)).setPhase now .closed).calls
        (some (((s.setStage n (.connecting s.objects)).setPhase now .closed).objects, .idle)) = true
      rw [same]
      exact shown
    · change makes ((s.setStage n (.connecting s.objects)).setPhase now .closed).calls
        (some (((s.setStage n (.connecting s.objects)).setPhase now .closed).objects, .idle)) = true
      rw [pairing.objects, pairing.calls]
      exact shown

theorem connectTransport_unstuck {object : Nat} {c : Call} {outcome : Outcome} (at_ : s.stageOf n = some (.connecting object))
    (unstuck : s.Unstuck) (proceeds : s.Proceeds (now, .connect n outcome)) :
    (s.connectTransport now n object c outcome).Unstuck := by
  have after (t : Desk) (fine : (t.setStage n .ended).Unstuck ∧ (t.addDeferredRequest n c).Unstuck) : (t.created n c).Unstuck := by
    unfold created
    split
    · exact fine.1
    · exact fine.2
  by_cases current : s.session.any (·.1 = object) = true
  · have here : s.session.isSome = true := by
      cases session : s.session with
      | none =>
        rw [session] at current
        cases current
      | some o => rfl
    have inviting : invites (s.setPhase now .waiting).session = true := setPhase_waiting_invites here
    unfold connectTransport
    rw [if_pos current]
    cases outcome with
    | refused => exact setStage_others (proceeds ⟨object, at_⟩)
    | broken => exact invites_unstuck inviting
    | done => exact after _ ⟨invites_unstuck inviting, invites_unstuck inviting⟩
  · have idle : ∀ before, s.stageOf n = some before → before.makes s.session = false := by
      intro before same
      rw [at_] at same
      cases same
      exact Bool.eq_false_iff.mpr current
    unfold connectTransport
    rw [if_neg current]
    cases outcome with
    | refused => exact setStage_unstuck idle unstuck
    | broken => exact setStage_unstuck idle unstuck
    | done => exact after _ ⟨setStage_unstuck idle unstuck, addDeferredRequest_unstuck idle unstuck⟩

end Desk

/-- One turn keeps the flag right. -/
theorem step_unstuck (toLowerCase : String → String) (s : Desk) (turn : Nat × Label) (proceeds : s.Proceeds turn)
    (unstuck : s.Unstuck) : (step toLowerCase s turn).Unstuck := by
  obtain ⟨now, label⟩ := turn
  have more (c : Call) : ({ s with calls := s.calls ++ [c] } : Desk).Unstuck := fun up =>
    (unstuck up).imp_left fun making => by
      change (s.calls ++ [c]).any _ = true
      rw [List.any_append]
      exact Bool.or_eq_true_iff.mpr (Or.inl making)
  have stageAt {n : Nat} {c : Call} {stage : Stage} (found : s.calls[n]? = some c) (at_ : c.stage = stage) :
      s.stageOf n = some stage := by
    unfold Desk.stageOf
    rw [found, ← at_]
    rfl
  have idle {n : Nat} {c : Call} {stage : Stage} (found : s.calls[n]? = some c) (at_ : c.stage = stage)
      (makes : stage.makes s.session = false) : ∀ before, s.stageOf n = some before → before.makes s.session = false := by
    intro before same
    rw [stageAt found at_] at same
    cases same
    exact makes
  generalize after : step toLowerCase s (now, label) = t
  have stepped : Stepped toLowerCase s now label t := after ▸ step_stepped toLowerCase s now label
  clear after
  cases stepped with
  | stays => exact unstuck
  | request id payload origin => exact more _
  | startPairing => exact more _
  | handles found at_ => exact Desk.handle_unstuck toLowerCase (stageAt found at_) unstuck
  | unread found at_ => exact Desk.setStage_unstuck (idle found at_ rfl) unstuck
  | creates outcome found at_ => exact Desk.createSession_unstuck (stageAt found at_) proceeds
  | connects outcome found at_ => exact Desk.connectTransport_unstuck (stageAt found at_) unstuck proceeds
  | proxied answer found at_ => exact Desk.setStage_unstuck (idle found at_ rfl) unstuck
  | relayed answer found at_ => exact Desk.setStage_unstuck (s := { s with permissions := _ }) (idle found at_ rfl) unstuck
  | replies found at_ caller => exact Desk.setStage_unstuck (s := { s with replies := _ }) (idle found at_ rfl) unstuck
  | hands found at_ caller =>
    exact (Desk.resolve_samePairing (.refl _)).unstuck (Desk.setStage_unstuck (idle found at_ rfl) unstuck)
  | drops found at_ caller => exact Desk.setStage_unstuck (idle found at_ rfl) unstuck
  | timeout timer => exact (Desk.timeout_samePairing s now timer).unstuck unstuck
  | phase started =>
    refine Desk.setPhase_unstuck unstuck (fun up away => ?_) started
    subst away
    exact proceeds up
  | rejectWallet => exact (Desk.rejectAllDeferred_samePairing s now 4001 _).unstuck unstuck
  | disconnect =>
    refine (Desk.rejectAllDeferred_samePairing { s with session := none, pairingInProgress := false, known := {} } now 4001 _).unstuck ?_
    exact nofun
  | restored =>
    rcases Desk.setPhase_cases s.newSession now .connected with ⟨already, -⟩ | ⟨_, _, -, -, pairing⟩
    · cases already (s.objects, .idle) rfl
    · refine pairing.unstuck fun up => ?_
      simp at up
  | unrestored => exact fun up => Or.inl (Desk.makes_mono (proceeds up))
  | learn known => exact unstuck
  | revoke origin => exact unstuck

/-! ### Runs -/

theorem not_makes_of_quiet {s : Desk} (quiet : s.quiet = true) : makes s.calls s.session = false := by
  refine List.any_eq_false.mpr fun c mem making => ?_
  have idle := List.all_eq_true.mp quiet c mem
  cases at_ : c.stage with
  | settings =>
    rw [at_] at idle
    cases idle
  | connecting object =>
    rw [at_] at idle
    cases idle
  | _ =>
    rw [at_] at making
    cases making

/-- The flag means that a wallet can join or waits for approval, whenever no handler is in
`createSession`; and with no session, or one that never got or no longer has a pairing, the next
request for permission starts one. -/
structure Desk.FlagRight (toLowerCase : String → String) (s : Desk) : Prop where
  shown : s.quiet = true → s.pairingInProgress = true → invites s.session = true
  starts : s.quiet = true → (∀ o ∈ s.session, o.2 = .idle ∨ o.2 = .closed) → ∀ permitted payload,
    asksPermission payload.method = true →
      handleRpcRequest toLowerCase s.known (s.session.map (·.2)) s.pairingInProgress permitted payload = .pairs

theorem Desk.Unstuck.right {toLowerCase : String → String} {s : Desk} (unstuck : s.Unstuck) : s.FlagRight toLowerCase := by
  have shown (quiet : s.quiet = true) (up : s.pairingInProgress = true) : invites s.session = true := by
    rcases unstuck up with making | inviting
    · rw [not_makes_of_quiet quiet] at making
      cases making
    · exact inviting
  refine ⟨shown, fun quiet finished permitted payload asks => ?_⟩
  cases session : s.session with
  | none =>
    have down : s.pairingInProgress = false := by
      refine Bool.eq_false_iff.mpr fun up => ?_
      have inviting := shown quiet up
      rw [session] at inviting
      cases inviting
    rw [handleRpcRequest_asks asks (by simp), down]
    exact if_pos ⟨rfl, Or.inl rfl⟩
  | some o =>
    obtain ⟨object, phase⟩ := o
    have ended : phase = .idle ∨ phase = .closed := finished (object, phase) session
    have down : s.pairingInProgress = false := by
      refine Bool.eq_false_iff.mpr fun up => ?_
      have inviting := shown quiet up
      rw [session] at inviting
      rcases ended with rfl | rfl <;> cases inviting
    rw [handleRpcRequest_asks asks (by rcases ended with rfl | rfl <;> simp), down]
    refine if_pos ⟨rfl, Or.inr ?_⟩
    rcases ended with rfl | rfl
    · exact Or.inl rfl
    · exact Or.inr rfl

/-- In a run whose turns all proceed the flag is right in every state. -/
theorem pairing_flag_never_sticks (toLowerCase : String → String) (permissions : Permissions) (labels : List (Nat × Label))
    (proceeds : Along (step toLowerCase) Desk.Proceeds { permissions } labels) :
    ∀ first, first <+: labels → (run (step toLowerCase) { permissions } first).FlagRight toLowerCase := by
  rintro first ⟨rest, rfl⟩
  have start : ({ permissions } : Desk).Unstuck := nofun
  have kept : (run (step toLowerCase) { permissions } first).Unstuck :=
    invariant (fun s turn proceeds unstuck => step_unstuck toLowerCase s turn proceeds unstuck) (along_append.mp proceeds).1 start
  exact kept.right

namespace Sample

def connecting : EIP1193Request := ⟨"eth_requestAccounts", none⟩

/-- A site asks for accounts, and the pairing goes as `first` and `second` tell. -/
def pairing (first second : Outcome) : List (Nat × Label) :=
  [(0, .request "1" connecting (some "https://dapp")), (0, .permission 0 true), (0, .settings 0 first), (0, .connect 0 second)]

def desk (labels : List (Nat × Label)) : Desk := run (step id) {} labels

end Sample

theorem pairing_flag_never_sticks_sample :
    (Sample.desk (Sample.pairing .done .done ++ [(1, .phase .pendingAccept), (2, .phase .closed)])).FlagRight id := by
  have proceeds : Along (step id) Desk.Proceeds {}
      (Sample.pairing .done .done ++ [(1, .phase .pendingAccept), (2, .phase .closed)]) :=
    ⟨trivial, trivial, trivial, trivial, trivial, trivial, trivial⟩
  exact pairing_flag_never_sticks id .empty _ proceeds _ List.prefix_rfl

/-- After a pairing that failed in the settings, at the transport or after it, the flag stays up, and
the next request waits for a pairing that nobody makes. -/
theorem pairing_flag_sticks :
    ¬ (Sample.desk (Sample.pairing .refused .done)).FlagRight id ∧
    ¬ (Sample.desk (Sample.pairing .done .refused)).FlagRight id ∧
    ¬ (Sample.desk (Sample.pairing .done .done ++ [(1, .phase .disconnected)])).FlagRight id ∧
    handleRpcRequest id {} ((Sample.desk (Sample.pairing .done .refused)).session.map (·.2))
      (Sample.desk (Sample.pairing .done .refused)).pairingInProgress false Sample.connecting = .defers := by
  refine ⟨fun right => ?_, fun right => ?_, fun right => ?_, rfl⟩
  · cases right.shown (by decide +kernel) (by decide +kernel)
  · cases right.shown (by decide +kernel) (by decide +kernel)
  · cases right.shown (by decide +kernel) (by decide +kernel)

end WalletPair.Extension.Rpc
