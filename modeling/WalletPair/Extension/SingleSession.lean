import WalletPair.Extension.Background

/-! How many sessions of the extension are live at once. The worker lets go of a session in
four places: a rebuild overwrites the module variable, and a new pairing, the user's
disconnect and the age limit close it first. Each of them keeps the worker at one live
session exactly when what it lets go of is dead afterwards. -/

namespace WalletPair.Extension
open WalletPair.Lib.Run WalletPair.Sdk.DApp

/-- An object that is not dead is the one in the module variable. -/
def SingleLive (w : Worker) : Prop :=
  ∀ id o, w.objects id = some o → ¬ o.Dead → w.session = some id

/-- Every object is dead. -/
def Silent (objects : Nat → Option DAppSession) : Prop := ∀ id o, objects id = some o → o.Dead

/-- The numbers of the objects are fresh, and the variable holds an object that exists and
is listened to. -/
structure WellFormed (w : Worker) : Prop where
  fresh : ∀ id o, w.objects id = some o → id < w.nextObject
  held : ∀ id, w.session = some id → ∃ o, w.objects id = some o
  heard : ∀ id, w.session = some id → w.listening = some id

/-- The next turn of `doTryReconnect` constructs a session. -/
def Worker.restoring (w : Worker) : Prop := ∃ caller saved, w.rebuild = some (caller, .readingSettings saved)

/-- The next turn of this call of the keepalive handler finds the session too old. -/
def Worker.aging (w : Worker) (i : Nat) : Prop :=
  ∃ connectedAt, w.alarms[i]? = some (.gotAge connectedAt) ∧ expired w.now connectedAt = true

/-- A session is overwritten only when it is dead, and closed only when none of its sockets
is out of the reach of its transport. -/
def LetsGo (w : Worker) : Label → Prop
  | .advance _ => w.restoring → ∀ o, w.current = some o → o.Dead
  | .settings => w.creating ≠ 0 → ∀ o, w.current = some o → o.strays = 0
  | .disconnect => ∀ o, w.current = some o → o.strays = 0
  | .resumeAlarm i => w.aging i → ∀ o, w.current = some o → o.strays = 0
  | _ => True

variable {w t : Worker} {id : Nat} {o next : DAppSession}

theorem SingleLive.congr (objects : t.objects = w.objects) (session : t.session = w.session) :
    SingleLive t ↔ SingleLive w := by
  unfold SingleLive
  rw [objects, session]

theorem WellFormed.congr (objects : t.objects = w.objects) (session : t.session = w.session)
    (listening : t.listening = w.listening) (nextObject : t.nextObject = w.nextObject) (wf : WellFormed w) :
    WellFormed t := by
  constructor
  · rw [objects, nextObject]
    exact wf.fresh
  · rw [session, objects]
    exact wf.held
  · rw [session, listening]
    exact wf.heard

/-- With one live session, all are dead if the one in the variable is. -/
theorem SingleLive.silent_iff (single : SingleLive w) :
    Silent w.objects ↔ ∀ o, w.current = some o → o.Dead := by
  constructor
  · intro silent o current
    obtain ⟨id, -, held⟩ := Option.bind_eq_some_iff.mp current
    exact silent id o held
  · intro dead id o held
    by_contra live
    have session := single id o held live
    exact live (dead o (by simp [Worker.current, Worker.object, session, held]))

/-- The session in the variable is changed, and is all that can be live. -/
theorem SingleLive.silent_update_iff (single : SingleLive w) (session : w.session = some id) :
    Silent (Function.update w.objects id (some next)) ↔ next.Dead := by
  constructor
  · intro silent
    exact silent id next (by simp)
  · intro dead other o held
    by_cases same : other = id
    · subst same
      rw [Function.update_self, Option.some.injEq] at held
      exact held ▸ dead
    · rw [Function.update_of_ne same] at held
      by_contra live
      have here := single other o held live
      rw [session, Option.some.injEq] at here
      exact same here.symm

theorem singleLive_of_none_iff (session : t.session = none) : SingleLive t ↔ Silent t.objects := by
  unfold SingleLive Silent
  rw [session]
  constructor
  · intro single id o held
    by_contra live
    cases single id o held live
  · intro silent id o held live
    exact (live (silent id o held)).elim

/-- A fresh object is put into the variable. -/
theorem singleLive_install_iff {base : Nat → Option DAppSession} (fresh : base id = none)
    (objects : t.objects = Function.update base id (some o)) (session : t.session = some id) :
    SingleLive t ↔ Silent base := by
  unfold SingleLive Silent
  rw [objects, session]
  constructor
  · intro single other held there
    by_contra live
    have different : other ≠ id := by
      rintro rfl
      rw [fresh] at there
      cases there
    have here := single other held (by rwa [Function.update_of_ne different]) live
    rw [Option.some.injEq] at here
    exact different here.symm
  · intro silent other held there live
    by_cases same : other = id
    · rw [same]
    · rw [Function.update_of_ne same] at there
      exact (live (silent other held there)).elim

/-! ### What becomes of the objects -/

/-- The objects when the one in the variable, if any, is replaced by its image. -/
def Worker.left (w : Worker) (f : DAppSession → DAppSession) : Nat → Option DAppSession :=
  match w.session with
  | none => w.objects
  | some id =>
    match w.objects id with
    | none => w.objects
    | some o => Function.update w.objects id (some (f o))

theorem silent_left_iff (wf : WellFormed w) (single : SingleLive w) (f : DAppSession → DAppSession) :
    Silent (w.left f) ↔ ∀ o, w.current = some o → (f o).Dead := by
  cases session : w.session with
  | none =>
    have none_live : ∀ o, w.current ≠ some o := by simp [Worker.current, Worker.object, session]
    have objects : w.left f = w.objects := by simp [Worker.left, session]
    rw [objects, single.silent_iff]
    exact ⟨fun _ o current => (none_live o current).elim, fun _ o current => (none_live o current).elim⟩
  | some id =>
    obtain ⟨o, held⟩ := wf.held id session
    have current : w.current = some o := by simp [Worker.current, Worker.object, session, held]
    have objects : w.left f = Function.update w.objects id (some (f o)) := by
      simp [Worker.left, session, held]
    rw [objects, single.silent_update_iff session, current]
    constructor
    · rintro dead _ ⟨⟩
      exact dead
    · intro dead
      exact dead o rfl

theorem fresh_left (wf : WellFormed w) {f : DAppSession → DAppSession} (held : w.left f id = some o) :
    id < w.nextObject := by
  cases session : w.session with
  | none =>
    simp only [Worker.left, session] at held
    exact wf.fresh id o held
  | some current =>
    obtain ⟨former, there⟩ := wf.held current session
    simp only [Worker.left, session, there] at held
    by_cases same : id = current
    · rw [same]
      exact wf.fresh current former there
    · rw [Function.update_of_ne same] at held
      exact wf.fresh id o held

theorem left_nextObject (wf : WellFormed w) (f : DAppSession → DAppSession) : w.left f w.nextObject = none := by
  rw [Option.eq_none_iff_forall_ne_some]
  intro o held
  exact lt_irrefl _ (fresh_left wf held)

@[simp] theorem disconnect_frame (w : Worker) :
    w.disconnect.objects = w.left .close ∧ w.disconnect.session = none ∧ w.disconnect.listening = none ∧
    w.disconnect.nextObject = w.nextObject := by
  unfold Worker.disconnect Worker.left Worker.finishObject
  cases session : w.session with
  | none => simp
  | some id => cases held : w.objects id <;> simp [held]

theorem createSession_frame (w : Worker) :
    w.createSession.objects = Function.update (w.left .destroy) w.nextObject (some (.ofPairing w.nextKeys)) ∧
    w.createSession.session = some w.nextObject ∧ w.createSession.listening = some w.nextObject ∧
    w.createSession.nextObject = w.nextObject + 1 := by
  unfold Worker.createSession Worker.left Worker.finishObject Worker.install
  cases session : w.session with
  | none => simp [Worker.put]
  | some id => cases held : w.objects id <;> simp [Worker.put, held]

theorem expire_frame (w : Worker) (session : w.session = some id) :
    (w.expire id).objects = w.left .close ∧ (w.expire id).session = none ∧
    (w.expire id).listening = w.listening ∧ (w.expire id).nextObject = w.nextObject := by
  unfold Worker.expire Worker.left Worker.finishObject
  cases held : w.objects id <;> simp [session, held]

/-- The object that `doTryReconnect` leaves in the variable. -/
def DAppSession.rebuilt (saved : Snapshot) : Restore → DAppSession
  | .restored => (ofSnapshot saved).reconnect
  | .refused => {}
  | .halfRead => { keys := saved.keys }

theorem restoreSession_frame (w : Worker) (caller : Caller) (saved : Snapshot) (outcome : Restore) :
    (w.restoreSession caller saved outcome).objects =
      Function.update w.objects w.nextObject (some (.rebuilt saved outcome)) ∧
    (w.restoreSession caller saved outcome).session = some w.nextObject ∧
    (w.restoreSession caller saved outcome).listening = some w.nextObject ∧
    (w.restoreSession caller saved outcome).nextObject = w.nextObject + 1 := by
  cases outcome <;> simp [Worker.restoreSession, Worker.install, Worker.put, DAppSession.rebuilt]

/-- Whatever else `doTryReconnect` does, it leaves the objects alone. -/
theorem advance_frame (w : Worker) (outcome : Restore) (idle : ¬ w.restoring) :
    (w.advance outcome).objects = w.objects ∧ (w.advance outcome).session = w.session ∧
    (w.advance outcome).listening = w.listening ∧ (w.advance outcome).nextObject = w.nextObject := by
  unfold Worker.advance
  cases call : w.rebuild with
  | none => simp
  | some held =>
    obtain ⟨caller, stage⟩ := held
    cases stage with
    | readingSettings saved => exact (idle ⟨caller, saved, call⟩).elim
    | gotState saved => cases saved <;> simp
    | gotAge saved connectedAt =>
      dsimp only
      split <;> simp
    | _ => simp

theorem resumeAlarm_frame (w : Worker) (i : Nat) (young : ¬ w.aging i) :
    (w.resumeAlarm i).objects = w.objects ∧ (w.resumeAlarm i).session = w.session ∧
    (w.resumeAlarm i).listening = w.listening ∧ (w.resumeAlarm i).nextObject = w.nextObject := by
  unfold Worker.resumeAlarm
  cases waiting : w.alarms[i]? with
  | none => simp
  | some call =>
    cases call with
    | gotAge connectedAt =>
      have notOld : expired w.now connectedAt ≠ true := fun old => young ⟨connectedAt, waiting, old⟩
      dsimp only
      split
      · exact ⟨rfl, rfl, rfl, rfl⟩
      · rw [if_neg notOld]
        exact ⟨rfl, rfl, rfl, rfl⟩
    | gotState saved =>
      dsimp only
      split <;> simp
    | _ => simp

/-! ### One turn -/

/-- What a turn does to the objects and the module variable, and what `LetsGo` asks of it. -/
inductive Turn (w : Worker) (label : Label) (t : Worker) : Prop where
  | kept (free : LetsGo w label) (objects : t.objects = w.objects) (session : t.session = w.session)
      (listening : t.listening = w.listening) (nextObject : t.nextObject = w.nextObject)
  | moved (id : Nat) (o next : DAppSession) (free : LetsGo w label) (held : w.objects id = some o)
      (live : ¬ o.Dead) (objects : t.objects = Function.update w.objects id (some next))
      (session : t.session = w.session) (listening : t.listening = w.listening)
      (nextObject : t.nextObject = w.nextObject)
  | dropped (asked : LetsGo w label ↔ ∀ o, w.current = some o → o.strays = 0)
      (objects : t.objects = w.left .close) (session : t.session = none) (nextObject : t.nextObject = w.nextObject)
  | paired (asked : LetsGo w label ↔ ∀ o, w.current = some o → o.strays = 0) (o : DAppSession)
      (objects : t.objects = Function.update (w.left .destroy) w.nextObject (some o))
      (session : t.session = some w.nextObject) (listening : t.listening = some w.nextObject)
      (nextObject : t.nextObject = w.nextObject + 1)
  | rebuilt (asked : LetsGo w label ↔ ∀ o, w.current = some o → o.Dead) (o : DAppSession)
      (objects : t.objects = Function.update w.objects w.nextObject (some o))
      (session : t.session = some w.nextObject) (listening : t.listening = some w.nextObject)
      (nextObject : t.nextObject = w.nextObject + 1)
  | cleared (free : LetsGo w label) (objects : t.objects = fun _ => none) (session : t.session = none)

theorem advance_turn (w : Worker) (outcome : Restore) : Turn w (.advance outcome) (w.advance outcome) := by
  by_cases restoring : w.restoring
  · obtain ⟨caller, saved, call⟩ := restoring
    have runs : w.advance outcome = w.restoreSession caller saved outcome := by
      simp [Worker.advance, call]
    obtain ⟨objects, session, listening, nextObject⟩ := restoreSession_frame w caller saved outcome
    rw [runs]
    refine .rebuilt ?_ _ objects session listening nextObject
    exact ⟨fun asked => asked ⟨caller, saved, call⟩, fun dead _ => dead⟩
  · obtain ⟨objects, session, listening, nextObject⟩ := advance_frame w outcome restoring
    exact .kept (fun running => (restoring running).elim) objects session listening nextObject

theorem resumeAlarm_turn (w : Worker) (i : Nat) : Turn w (.resumeAlarm i) (w.resumeAlarm i) := by
  by_cases aging : w.aging i
  · obtain ⟨connectedAt, waiting, old⟩ := id aging
    cases session : w.session with
    | none =>
      have runs : w.resumeAlarm i = { w with alarms := w.alarms.eraseIdx i } := by
        simp [Worker.resumeAlarm, waiting, session]
      have nothing : ∀ o, w.current ≠ some o := by simp [Worker.current, Worker.object, session]
      rw [runs]
      exact .kept (fun _ o current => (nothing o current).elim) rfl rfl rfl rfl
    | some id =>
      have runs : w.resumeAlarm i = { w with alarms := w.alarms.eraseIdx i }.expire id := by
        simp [Worker.resumeAlarm, waiting, session, old]
      obtain ⟨objects, gone, -, nextObject⟩ :=
        expire_frame { w with alarms := w.alarms.eraseIdx i } session
      rw [runs]
      exact .dropped ⟨fun asked => asked aging, fun clean _ => clean⟩ objects gone nextObject
  · obtain ⟨objects, session, listening, nextObject⟩ := resumeAlarm_frame w i aging
    exact .kept (fun old => (aging old).elim) objects session listening nextObject

theorem sdk_turn (w : Worker) (id : Nat) (phase : Phase) (socket : Bool) (strays : Nat) (reconnectTimer : Bool) :
    Turn w (.sdk id phase socket strays reconnectTimer) (w.sdk id phase socket strays reconnectTimer) := by
  unfold Worker.sdk
  split
  · exact .kept trivial rfl rfl rfl rfl
  · next o held =>
    split
    · exact .kept trivial rfl rfl rfl rfl
    · next live =>
      dsimp only
      split
      · exact .moved id o _ trivial held live (by simp [Worker.put]; rfl) (by simp [Worker.put])
          (by simp [Worker.put]) (by simp [Worker.put])
      · exact .moved id o _ trivial held live (by simp; rfl) (by simp) (by simp) (by simp)

theorem step_turn (w : Worker) (label : Label) : Turn w label (step w label) := by
  cases label with
  | fireTimer =>
    simp only [step]
    split
    · exact .kept trivial (by simp) (by simp) (by simp) (by simp)
    · exact .kept trivial rfl rfl rfl rfl
  | alarm =>
    simp only [step, Worker.alarm]
    split <;> exact .kept trivial rfl rfl rfl rfl
  | resumeAlarm i => exact resumeAlarm_turn w i
  | settings =>
    simp only [step]
    split
    · next none_waiting => exact .kept (fun waiting => (waiting none_waiting).elim) rfl rfl rfl rfl
    · next waiting =>
      obtain ⟨objects, session, listening, nextObject⟩ := createSession_frame w
      exact .paired ⟨fun asked => asked waiting, fun clean _ => clean⟩ _ objects session listening nextObject
  | disconnect =>
    obtain ⟨objects, session, -, nextObject⟩ := disconnect_frame w
    exact .dropped Iff.rfl objects session nextObject
  | advance outcome => exact advance_turn w outcome
  | sdk id phase socket strays reconnectTimer => exact sdk_turn w id phase socket strays reconnectTimer
  | request =>
    simp only [step, Worker.request]
    split
    · exact .kept trivial rfl rfl rfl rfl
    · split
      · exact .kept trivial (by simp) (by simp) (by simp) (by simp)
      · exact .kept trivial rfl rfl rfl rfl
  | restart => exact .cleared trivial rfl rfl
  | _ => exact .kept trivial rfl rfl rfl rfl

/-- A fresh object in the variable, listened to. -/
theorem WellFormed.placed {base : Nat → Option DAppSession} (below : ∀ id o, base id = some o → id < w.nextObject)
    (objects : t.objects = Function.update base w.nextObject (some o)) (session : t.session = some w.nextObject)
    (listening : t.listening = some w.nextObject) (nextObject : t.nextObject = w.nextObject + 1) : WellFormed t := by
  constructor
  · intro id held there
    rw [objects] at there
    rw [nextObject]
    by_cases same : id = w.nextObject
    · omega
    · rw [Function.update_of_ne same] at there
      exact Nat.lt_succ_of_lt (below id held there)
  · intro id here
    rw [session, Option.some.injEq] at here
    exact ⟨o, by rw [objects, ← here, Function.update_self]⟩
  · intro id here
    rw [listening, ← session, here]

theorem step_wellFormed (wf : WellFormed w) (label : Label) : WellFormed (step w label) := by
  cases step_turn w label with
  | kept _ objects session listening nextObject => exact wf.congr objects session listening nextObject
  | moved id o next _ held _ objects session listening nextObject =>
    constructor
    · intro other former there
      rw [objects] at there
      rw [nextObject]
      by_cases same : other = id
      · rw [same]
        exact wf.fresh id o held
      · rw [Function.update_of_ne same] at there
        exact wf.fresh other former there
    · intro other here
      rw [objects]
      by_cases same : other = id
      · exact ⟨next, by rw [same, Function.update_self]⟩
      · rw [Function.update_of_ne same]
        exact wf.held other (session ▸ here)
    · intro other here
      rw [listening]
      exact wf.heard other (session ▸ here)
  | dropped _ objects session nextObject =>
    constructor
    · intro id o held
      rw [objects] at held
      rw [nextObject]
      exact fresh_left wf held
    · intro id here
      cases session ▸ here
    · intro id here
      cases session ▸ here
  | paired _ o objects session listening nextObject =>
    exact .placed (fun id o held => fresh_left wf held) objects session listening nextObject
  | rebuilt _ o objects session listening nextObject => exact .placed wf.fresh objects session listening nextObject
  | cleared _ objects session =>
    constructor
    · intro id o held
      rw [objects] at held
      cases held
    · intro id here
      cases session ▸ here
    · intro id here
      cases session ▸ here

/-- A turn keeps the worker at one live session exactly if it lets go of nothing live. -/
theorem step_singleLive_iff (wf : WellFormed w) (single : SingleLive w) (label : Label) :
    SingleLive (step w label) ↔ LetsGo w label := by
  have absent : w.objects w.nextObject = none := by
    rw [Option.eq_none_iff_forall_ne_some]
    intro o held
    exact lt_irrefl _ (wf.fresh _ o held)
  cases step_turn w label with
  | kept free objects session =>
    rw [SingleLive.congr objects session]
    exact ⟨fun _ => free, fun _ => single⟩
  | moved id o next free held live objects session =>
    refine ⟨fun _ => free, fun _ other former there alive => ?_⟩
    rw [objects] at there
    rw [session]
    by_cases same : other = id
    · rw [same]
      exact single id o held live
    · rw [Function.update_of_ne same] at there
      exact single other former there alive
  | dropped asked objects session =>
    rw [singleLive_of_none_iff session, objects, silent_left_iff wf single, asked]
    simp only [DAppSession.close_dead_iff]
  | paired asked o objects session =>
    rw [singleLive_install_iff (left_nextObject wf _) objects session, silent_left_iff wf single, asked]
    simp only [DAppSession.destroy_dead_iff]
  | rebuilt asked o objects session =>
    rw [singleLive_install_iff absent objects session, single.silent_iff, asked]
  | cleared free objects session =>
    refine ⟨fun _ => free, fun _ id o held => ?_⟩
    rw [objects] at held
    cases held

/-! ### Every run -/

theorem installed_wellFormed (now : Nat) : WellFormed (installed now) := by
  constructor <;> simp [installed]

/-- A run of the worker has one live session throughout, the one in the module variable,
exactly if no rebuild overwrites a session that is not dead and no session is closed while a
socket of it is out of the reach of its transport. -/
theorem single_session_iff (now : Nat) (labels : List Label) :
    (∀ first, first <+: labels → SingleLive (run step (installed now) first)) ↔
      Along step LetsGo (installed now) labels := by
  have none_yet : SingleLive (installed now) := by simp [SingleLive, installed]
  have keep : ∀ (w : Worker) (label : Label), WellFormed w → WellFormed (step w label) :=
    fun w label wf => step_wellFormed wf label
  have exactly : ∀ (w : Worker) (label : Label), WellFormed w → SingleLive w →
      (SingleLive (step w label) ↔ LetsGo w label) := fun w label wf single => step_singleLive_iff wf single label
  exact (along_iff_throughout keep exactly (installed_wellFormed now) none_yet).symm

/-- A pairing is made and stored. -/
def pairedAndStored : List Label :=
  [.advance .restored, .advance .restored, .startPairing, .settings, .sdk 0 .waiting true 0 false,
    .sdk 0 .pendingAccept true 0 false, .sdk 0 .connected true 0 false, .writeState, .writeConnectedAt]

/-- Its socket drops, and the worker's own timer rebuilds the session beside the one that
the SDK is reconnecting. -/
def droppedAndRebuilt : List Label :=
  pairedAndStored ++ ([.sdk 0 .disconnected false 0 true, .fireTimer, .advance .restored, .advance .restored,
    .advance .restored, .advance .restored, .advance .restored] : List Label)

theorem rebuild_leaves_two_sessions :
    (∃ o, (run step (installed 1) droppedAndRebuilt).objects 0 = some o ∧ o.phase = .disconnected ∧
      o.reconnectTimer = true) ∧
    (∃ o, (run step (installed 1) droppedAndRebuilt).objects 1 = some o ∧ o.phase = .disconnected ∧ o.strays = 1) ∧
    ¬ SingleLive (run step (installed 1) droppedAndRebuilt) := by
  refine ⟨⟨_, rfl, rfl, rfl⟩, ⟨_, rfl, rfl, rfl⟩, fun single => ?_⟩
  have held := single 0 _ rfl (by decide)
  exact absurd held (by decide)

end WalletPair.Extension
