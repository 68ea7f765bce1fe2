import WalletPair.Extension.SingleSession

/-! How long a restored session is used. The worker compares the clock with the stored
`connectedAt`, which the phase handler writes anew on every restore and reconnect, and it
compares only before a rebuild and on the keepalive alarm. -/

namespace WalletPair.Extension
open WalletPair.Lib.Run WalletPair.Sdk.DApp

/-- No restored session was reconnected or used more than the limit after its pairing was
first connected. -/
def WithinAge (w : Worker) : Prop :=
  ∀ keys time, (keys, time) ∈ w.uses → ∀ first, w.firstConnected keys = some first → time ≤ first + sessionMaxAgeMs

/-- The pairing was first connected more than the limit ago. -/
def Worker.Aged (w : Worker) (keys : Nat) : Prop :=
  ∃ first, w.firstConnected keys = some first ∧ first + sessionMaxAgeMs < w.now

/-- A restored session of the pairing is not dead, or a rebuild is about to construct one. -/
def Worker.InUse (w : Worker) (keys : Nat) : Prop :=
  (∃ id o, w.objects id = some o ∧ o.restored = true ∧ o.keys = some keys ∧ ¬ o.Dead) ∨
    ∃ caller saved, w.rebuild = some (caller, .readingSettings saved) ∧ saved.keys = some keys

/-- The time that the rebuild is about to compare with is that of the first connection. -/
def Worker.ageIsFirst (w : Worker) : Prop :=
  match w.rebuild with
  | some (_, .gotAge saved connectedAt) => connectedAt.isSome ∧ connectedAt = saved.keys.bind w.firstConnected
  | _ => True

/-- A rebuild compares the clock with the first connection, and the limit does not pass
while the restored session is in use. -/
def Timely (w : Worker) : Label → Prop
  | .advance _ => w.ageIsFirst
  | .tick ms => ∀ keys first, w.firstConnected keys = some first → first + sessionMaxAgeMs < w.now + ms →
      ¬ w.InUse keys
  | _ => True

variable {w t : Worker} {id : Nat} {o next : DAppSession}

/-- What is in use is not too old, and no use was too late. -/
structure Young (w : Worker) : Prop where
  inUse : ∀ keys, w.InUse keys → ¬ w.Aged keys
  past : ∀ keys time, (keys, time) ∈ w.uses → time ≤ w.now
  within : WithinAge w

/-- What a turn at one instant may add. -/
structure Kept (w t : Worker) : Prop where
  now : t.now = w.now
  first : ∀ keys first, t.firstConnected keys = some first → w.firstConnected keys = some first ∨ first = w.now
  uses : Adds (fun use => use.2 = w.now ∧ ¬ w.Aged use.1) w.uses t.uses
  inUse : ∀ keys, t.InUse keys → ¬ w.Aged keys

theorem Kept.aged (kept : Kept w t) {keys : Nat} (aged : t.Aged keys) : w.Aged keys := by
  obtain ⟨first, connected, late⟩ := aged
  rw [kept.now] at late
  rcases kept.first keys first connected with before | rfl
  · exact ⟨first, before, late⟩
  · omega

theorem Kept.young (kept : Kept w t) (young : Young w) : Young t := by
  obtain ⟨new, uses, added⟩ := kept.uses
  have past : ∀ keys time, (keys, time) ∈ t.uses → time ≤ t.now := by
    intro keys time mem
    rw [kept.now]
    rw [uses] at mem
    rcases List.mem_append.mp mem with old | fresh
    · exact young.past keys time old
    · exact (added _ fresh).1.le
  refine ⟨fun keys inUse aged => kept.inUse keys inUse (kept.aged aged), past, ?_⟩
  intro keys time mem first connected
  rcases kept.first keys first connected with before | rfl
  · rw [uses] at mem
    rcases List.mem_append.mp mem with old | fresh
    · exact young.within keys time old first before
    · obtain ⟨here, notAged⟩ := added _ fresh
      by_contra late
      exact notAged ⟨first, before, by simp only at here; omega⟩
  · have early := past keys time mem
    rw [kept.now] at early
    omega

/-- No object is a restored session of a pairing that is too old, unless it is dead. -/
def NoneAged (w : Worker) (objects : Nat → Option DAppSession) : Prop :=
  ∀ id o, objects id = some o → o.restored = true → ¬ o.Dead → ∀ keys, o.keys = some keys → ¬ w.Aged keys

theorem Young.noneAged (young : Young w) : NoneAged w w.objects :=
  fun id o held restored live keys named => young.inUse keys (.inl ⟨id, o, held, restored, named, live⟩)

theorem Young.restoring (young : Young w) {caller : Caller} {saved : Snapshot} {keys : Nat}
    (call : w.rebuild = some (caller, .readingSettings saved)) (named : saved.keys = some keys) : ¬ w.Aged keys :=
  young.inUse keys (.inr ⟨caller, saved, call, named⟩)

theorem NoneAged.update {base : Nat → Option DAppSession} (none_ : NoneAged w base)
    (last : next.restored = true → ¬ next.Dead → ∀ keys, next.keys = some keys → ¬ w.Aged keys) :
    NoneAged w (Function.update base id (some next)) := by
  intro other o held restored live keys named
  by_cases same : other = id
  · subst same
    rw [Function.update_self, Option.some.injEq] at held
    subst held
    exact last restored live keys named
  · rw [Function.update_of_ne same] at held
    exact none_ other o held restored live keys named

theorem NoneAged.left {f : DAppSession → DAppSession} (none_ : NoneAged w w.objects)
    (same : ∀ o : DAppSession, (f o).restored = true → ¬ (f o).Dead → (f o).keys = none ∨
      (o.restored = true ∧ ¬ o.Dead ∧ (f o).keys = o.keys)) : NoneAged w (w.left f) := by
  unfold Worker.left
  split
  · exact none_
  · next id session =>
    split
    · exact none_
    · next o held =>
      refine none_.update fun restored live keys named => ?_
      rcases same o restored live with empty | ⟨before, alive, kept⟩
      · rw [empty] at named
        cases named
      · exact none_ id o held before alive keys (kept ▸ named)

theorem NoneAged.left_close (none_ : NoneAged w w.objects) : NoneAged w (w.left .close) := by
  refine none_.left fun o restored live => .inr ⟨restored, fun dead => live ?_, rfl⟩
  exact (DAppSession.close_dead_iff o).mpr dead.2.2.1

theorem NoneAged.left_destroy (none_ : NoneAged w w.objects) : NoneAged w (w.left .destroy) :=
  none_.left fun _ _ _ => .inl rfl

/-- A turn that does not reach the point where a session is constructed. -/
theorem Kept.mk' (young : Young w) (now : t.now = w.now)
    (first : ∀ keys first, t.firstConnected keys = some first → w.firstConnected keys = some first ∨ first = w.now)
    (uses : Adds (fun use => use.2 = w.now ∧ ¬ w.Aged use.1) w.uses t.uses) (objects : NoneAged w t.objects)
    (rebuild : ∀ caller saved, t.rebuild = some (caller, .readingSettings saved) → w.rebuild = t.rebuild) :
    Kept w t := by
  refine ⟨now, first, uses, fun keys inUse => ?_⟩
  rcases inUse with ⟨id, o, held, restored, named, live⟩ | ⟨caller, saved, call, named⟩
  · exact objects id o held restored live keys named
  · exact young.restoring ((rebuild caller saved call).trans call) named

/-- A turn that leaves alone what the limit is about. -/
theorem Kept.congr (young : Young w) (now : t.now = w.now) (first : t.firstConnected = w.firstConnected)
    (uses : t.uses = w.uses) (objects : t.objects = w.objects)
    (rebuild : ∀ caller saved, t.rebuild = some (caller, .readingSettings saved) → w.rebuild = t.rebuild) :
    Kept w t :=
  .mk' young now (fun _ _ connected => .inl (first ▸ connected)) (uses ▸ .refl _) (objects ▸ young.noneAged) rebuild

/-! ### One turn -/

theorem recordConnected_first {keys first : Nat}
    (connected : (w.recordConnected next).firstConnected keys = some first) :
    w.firstConnected keys = some first ∨ first = w.now := by
  unfold Worker.recordConnected at connected
  split at connected
  · exact .inl connected
  · next named _ =>
    by_cases same : keys = named
    · subst same
      simp only [Function.update_self, Option.some.injEq] at connected
      cases before : w.firstConnected keys with
      | none =>
        rw [before] at connected
        exact .inr connected.symm
      | some known =>
        rw [before] at connected
        exact .inl (congrArg some connected)
    · simp only [Function.update_of_ne same] at connected
      exact .inl connected

theorem change_first {keys first : Nat} (connected : (w.change id o next).firstConnected keys = some first) :
    w.firstConnected keys = some first ∨ first = w.now := by
  unfold Worker.change at connected
  dsimp only at connected
  split at connected
  · exact .inl connected
  · by_cases reached : next.phase = .connected
    · rw [if_pos reached] at connected
      split at connected <;> exact recordConnected_first (w := w.put id next) connected
    · rw [if_neg reached] at connected
      split at connected <;> exact .inl connected

theorem recordUse_adds {ok : Nat × Nat → Prop} {uses : List (Nat × Nat)} (before : w.uses = uses)
    (allowed : o.restored = true → ∀ keys, o.keys = some keys → ok (keys, w.now)) :
    Adds ok uses (w.recordUse o).uses := by
  rw [← before]
  unfold Worker.recordUse
  split
  · next restored =>
    cases named : o.keys with
    | none => simpa using Adds.refl w.uses
    | some keys => exact .single (allowed restored keys named)
  · exact .refl _

theorem sdk_kept {phase : Phase} {socket : Bool} {strays : Nat} {reconnectTimer : Bool} (young : Young w) :
    Kept w (w.sdk id phase socket strays reconnectTimer) := by
  unfold Worker.sdk
  split
  · exact .congr young rfl rfl rfl rfl (fun _ _ _ => rfl)
  · next o held =>
    split
    · exact .congr young rfl rfl rfl rfl (fun _ _ _ => rfl)
    · next live =>
      -- the object keeps its keys, and was not dead before
      have notAged : o.restored = true → ∀ keys, o.keys = some keys → ¬ w.Aged keys :=
        fun restored => young.noneAged id o held restored live
      dsimp only
      split
      · refine .mk' young (by simp [Worker.put]) (fun keys first connected => ?_) ?_ ?_ (by simp [Worker.put])
        · simp only [Worker.recordUse_frame] at connected
          exact change_first connected
        · refine recordUse_adds (by simp [Worker.put]) fun restored keys named => ?_
          exact ⟨by simp [Worker.put], notAged restored keys named⟩
        · simp only [Worker.recordUse_frame, Worker.put, Worker.change_frame, Function.update_idem]
          exact young.noneAged.update fun restored _ => notAged restored
      · refine .mk' young (by simp) (fun keys first connected => change_first connected) (by simpa using .refl _) ?_
          (by simp)
        simp only [Worker.change_frame]
        exact young.noneAged.update fun restored _ => notAged restored

theorem restoreSession_kept {caller : Caller} {saved : Snapshot} {outcome : Restore} (young : Young w)
    (call : w.rebuild = some (caller, .readingSettings saved)) :
    Kept w (w.restoreSession caller saved outcome) := by
  have objects : NoneAged w (w.restoreSession caller saved outcome).objects := by
    rw [(restoreSession_frame w caller saved outcome).1]
    refine young.noneAged.update fun restored _ keys named => young.restoring call ?_
    cases outcome with
    | restored => exact named
    | refused => cases restored
    | halfRead => cases restored
  unfold Worker.restoreSession at objects ⊢
  cases outcome with
  | restored =>
    refine .mk' young (by simp [Worker.install, Worker.put]) (fun keys first connected => ?_) ?_ objects
      (fun _ _ other => by cases other)
    · simp only [Worker.recordUse_frame] at connected
      rcases change_first connected with before | here
      · exact change_first (w := w.install {}) before
      · exact .inr (by simpa [Worker.install, Worker.put] using here)
    · refine recordUse_adds (by simp [Worker.install, Worker.put]) fun _ keys named => ?_
      exact ⟨by simp [Worker.install, Worker.put], young.restoring call named⟩
  | refused =>
    refine .mk' young (by simp [Worker.install, Worker.put]) (fun keys first connected => .inl ?_) ?_ objects (by simp)
    · simpa [Worker.install, Worker.put] using connected
    · simpa [Worker.install, Worker.put] using Adds.refl _
  | halfRead =>
    refine .mk' young (by simp [Worker.install, Worker.put]) (fun keys first connected => .inl ?_) ?_ objects (by simp)
    · simpa [Worker.install, Worker.put] using connected
    · simpa [Worker.install, Worker.put] using Adds.refl _

theorem advance_kept {outcome : Restore} (young : Young w) (timely : Timely w (.advance outcome)) :
    Kept w (w.advance outcome) := by
  have stopped : ∀ (caller : Caller) (ok : Bool), Kept w (w.finishRebuild caller ok) := fun caller ok =>
    .congr young (by simp) (by simp) (by simp) (by simp) (by simp)
  unfold Worker.advance
  cases call : w.rebuild with
  | none => exact .congr young rfl rfl rfl rfl (fun _ _ _ => rfl)
  | some held =>
    obtain ⟨caller, stage⟩ := held
    cases stage with
    | gotState saved =>
      cases saved with
      | none => exact stopped caller false
      | some saved => exact .congr young rfl rfl rfl rfl (fun _ _ other => by cases other)
    | gotAge saved connectedAt =>
      dsimp only
      split
      · exact .congr young (by simp) (by simp) (by simp) (by simp) (by simp)
      · next fresh =>
        refine ⟨rfl, fun _ _ connected => .inl connected, .refl _, fun keys inUse aged => ?_⟩
        rcases inUse with ⟨id, o, held, restored, named, live⟩ | ⟨_, _, reached, named⟩
        · exact young.noneAged id o held restored live keys named aged
        · cases reached
          obtain ⟨first, connected, late⟩ := aged
          have compared : connectedAt.isSome ∧ connectedAt = saved.keys.bind w.firstConnected := by
            simpa [Timely, Worker.ageIsFirst, call] using timely
          have same : connectedAt = some first := by
            rw [compared.2, named]
            exact connected
          have old : expired w.now connectedAt = true := by
            simp only [same, expired, decide_eq_true_eq]
            omega
          exact fresh old
    | readingSettings saved => exact restoreSession_kept young call
    | readingWallet => exact stopped caller true
    | _ => exact .congr young rfl rfl rfl rfl (fun _ _ other => by cases other)

/-- Closing an object makes no use of it and reads no clock. -/
theorem change_closed (w : Worker) (id : Nat) (o : DAppSession) (closed : next.phase = .closed) :
    (w.change id o next).firstConnected = w.firstConnected := by
  unfold Worker.change
  dsimp only
  have reached : next.phase ≠ .connected := by
    rw [closed]
    decide
  rw [if_neg reached]
  split
  · rfl
  · split <;> rfl

theorem finishObject_rest (w : Worker) (id : Nat) {f : DAppSession → DAppSession} (closes : ∀ o, (f o).phase = .closed) :
    (w.finishObject id f).now = w.now ∧ (w.finishObject id f).firstConnected = w.firstConnected ∧
    (w.finishObject id f).uses = w.uses ∧ (w.finishObject id f).rebuild = w.rebuild := by
  unfold Worker.finishObject
  split
  · exact ⟨rfl, rfl, rfl, rfl⟩
  · next o held => exact ⟨by simp, change_closed w id o (closes o), by simp, by simp⟩

theorem Kept.ended (young : Young w) (rest : t.now = w.now ∧ t.firstConnected = w.firstConnected ∧
    t.uses = w.uses ∧ t.rebuild = w.rebuild) (objects : NoneAged w t.objects) : Kept w t := by
  obtain ⟨now, first, uses, rebuild⟩ := rest
  exact .mk' young now (fun _ _ connected => .inl (first ▸ connected)) (uses ▸ .refl _) objects
    (fun _ _ _ => rebuild.symm)

theorem disconnect_kept (young : Young w) : Kept w w.disconnect := by
  have objects : NoneAged w w.disconnect.objects := by
    rw [(disconnect_frame w).1]
    exact young.noneAged.left_close
  refine .ended young ?_ objects
  unfold Worker.disconnect
  dsimp only
  split
  · exact ⟨rfl, rfl, rfl, rfl⟩
  · next id _ =>
    exact finishObject_rest { w with listening := none, shared := w.shared.resetReconnectBackoff } id fun _ => rfl

theorem expire_kept (young : Young w) (session : w.session = some id) : Kept w (w.expire id) := by
  have objects : NoneAged w (w.expire id).objects := by
    rw [(expire_frame w session).1]
    exact young.noneAged.left_close
  exact .ended young (finishObject_rest w id fun _ => rfl) objects

theorem createSession_kept (young : Young w) : Kept w w.createSession := by
  have objects : NoneAged w w.createSession.objects := by
    rw [(createSession_frame w).1]
    exact young.noneAged.left_destroy.update fun restored => by cases restored
  refine .ended young ?_ objects
  unfold Worker.createSession
  dsimp only
  split
  · exact ⟨rfl, rfl, rfl, rfl⟩
  · next id _ => exact finishObject_rest w id fun _ => rfl

theorem tryReconnect_kept {caller : Caller} (young : Young w) : Kept w (w.tryReconnect caller) := by
  refine .congr young (by simp) (by simp) (by simp) (by simp) fun _ saved call => ?_
  unfold Worker.tryReconnect at call ⊢
  cases running : w.rebuild with
  | none =>
    rw [running] at call
    cases call
  | some held => cases caller <;> simp [running]

/-- The rest of the worker may change before and after. -/
theorem Kept.after {s : Worker} (kept : Kept s t) (now : s.now = w.now) (first : s.firstConnected = w.firstConnected)
    (uses : s.uses = w.uses) : Kept w t := by
  have aged : ∀ keys, w.Aged keys → s.Aged keys := by
    rintro keys ⟨when_, connected, late⟩
    exact ⟨when_, first ▸ connected, now ▸ late⟩
  refine ⟨kept.now.trans now, fun keys at_ connected => ?_, ?_, fun keys inUse => ?_⟩
  · rw [← first, ← now]
    exact kept.first keys at_ connected
  · rw [← uses, ← now]
    exact kept.uses.imp fun use ok => ⟨ok.1, fun old => ok.2 (aged _ old)⟩
  · exact fun old => kept.inUse keys inUse (aged keys old)

theorem resumeAlarm_kept {i : Nat} (young : Young w) : Kept w (w.resumeAlarm i) := by
  have same : ∀ alarms, Kept w { w with alarms := alarms } := fun alarms =>
    .congr young rfl rfl rfl rfl (fun _ _ _ => rfl)
  have dropped : Young { w with alarms := w.alarms.eraseIdx i } := (same _).young young
  unfold Worker.resumeAlarm
  split
  · exact same _
  · exact same _
  · dsimp only
    split
    · exact same _
    · next id session =>
      split
      · exact (expire_kept dropped session).after rfl rfl rfl
      · exact same _
  · exact same _
  · dsimp only
    split
    · exact (tryReconnect_kept dropped).after rfl rfl rfl
    · exact same _

theorem request_kept (young : Young w) : Kept w w.request := by
  unfold Worker.request
  split
  · exact .congr young rfl rfl rfl rfl (fun _ _ _ => rfl)
  · next o current =>
    split
    · next connected =>
      obtain ⟨id, -, held⟩ := Option.bind_eq_some_iff.mp current
      have live : ¬ o.Dead := by
        intro dead
        rw [dead.1] at connected
        cases connected
      refine .mk' young (by simp) (fun _ _ first => .inl (by simpa using first)) ?_ (by simpa using young.noneAged)
        (by simp)
      refine recordUse_adds rfl fun restored keys named => ⟨rfl, ?_⟩
      exact young.noneAged id o held restored live keys named
    · exact .congr young rfl rfl rfl rfl (fun _ _ _ => rfl)

theorem step_kept (young : Young w) {label : Label} (timely : Timely w label) (still : ∀ ms, label ≠ .tick ms) :
    Kept w (step w label) := by
  cases label with
  | tick ms => exact (still ms rfl).elim
  | fireTimer =>
    simp only [step]
    split
    · have stopped : Kept w { w with shared := { w.shared with backoff := { w.shared.backoff with
          reconnectTimer := none } } } := .congr young rfl rfl rfl rfl (fun _ _ _ => rfl)
      exact (tryReconnect_kept (stopped.young young)).after rfl rfl rfl
    · exact .congr young rfl rfl rfl rfl (fun _ _ _ => rfl)
  | alarm =>
    simp only [step, Worker.alarm]
    split <;> exact .congr young rfl rfl rfl rfl (fun _ _ _ => rfl)
  | resumeAlarm i => exact resumeAlarm_kept young
  | settings =>
    simp only [step]
    split
    · exact .congr young rfl rfl rfl rfl (fun _ _ _ => rfl)
    · have kept := createSession_kept young
      exact ⟨kept.now, kept.first, kept.uses, kept.inUse⟩
  | disconnect => exact disconnect_kept young
  | advance outcome => exact advance_kept young timely
  | sdk id phase socket strays reconnectTimer => exact sdk_kept young
  | request => exact request_kept young
  | restart =>
    exact .mk' young rfl (fun _ _ connected => .inl connected) (.refl _) (fun _ _ held => by cases held)
      (fun _ _ other => by cases other)
  | _ => exact .congr young rfl rfl rfl rfl (fun _ _ _ => rfl)

/-- The clock moves while nothing that passes the limit is in use. -/
theorem tick_young {ms : Nat} (young : Young w) (timely : Timely w (.tick ms)) : Young (step w (.tick ms)) := by
  refine ⟨?_, ?_, young.within⟩
  · rintro keys inUse ⟨first, connected, late⟩
    exact timely keys first connected late inUse
  · intro keys time mem
    exact (young.past keys time mem).trans (Nat.le_add_right _ _)

theorem step_young (young : Young w) {label : Label} (timely : Timely w label) : Young (step w label) := by
  by_cases clock : ∃ ms, label = .tick ms
  · obtain ⟨ms, rfl⟩ := clock
    exact tick_young young timely
  · exact (step_kept young timely fun ms same => clock ⟨ms, same⟩).young young

/-! ### Every run -/

/-- In a run where each rebuild compares the clock with the first connection of its pairing
and the limit does not pass while the restored session is in use, no restored session is
reconnected or used past the limit. -/
theorem lifetime_within_age (now : Nat) (labels : List Label) (timely : Along step Timely (installed now) labels) :
    WithinAge (run step (installed now) labels) := by
  have start : Young (installed now) := by
    refine ⟨?_, by simp [installed], by simp [WithinAge, installed]⟩
    rintro keys - ⟨first, connected, -⟩
    cases connected
  exact (invariant (fun w label timely young => step_young young timely) timely start).within

/-- The worker is restarted an hour after the pairing and restores it. -/
def restoredOnce : List Label :=
  pairedAndStored ++ ([.tick 3600000, .restart, .advance .restored, .advance .restored, .advance .restored,
    .advance .restored, .advance .restored] : List Label)

theorem lifetime_within_age_restored :
    (run step (installed 1) restoredOnce).uses = [(0, 3600001)] ∧ WithinAge (run step (installed 1) restoredOnce) := by
  refine ⟨rfl, lifetime_within_age 1 restoredOnce ?_⟩
  have early : Timely (run step (installed 1) pairedAndStored) (.tick 3600000) := by
    intro keys first connected late
    change Function.update (fun _ => none) 0 (some 1) keys = some first at connected
    by_cases same : keys = 0
    · rw [same, Function.update_self, Option.some.injEq] at connected
      subst connected
      exact absurd late (by decide)
    · rw [Function.update_of_ne same] at connected
      cases connected
  exact ⟨trivial, trivial, trivial, trivial, trivial, trivial, trivial, trivial, trivial, early, trivial, trivial,
    trivial, trivial, ⟨rfl, rfl⟩, trivial, trivial⟩

/-- It is restarted twenty hours after the pairing and restores it, and again twenty hours later. -/
def restoredTwice : List Label :=
  pairedAndStored ++ ([.tick 72000000, .restart, .advance .restored, .advance .restored, .advance .restored,
    .advance .restored, .advance .restored, .sdk 1 .connected true 0 false, .writeState, .writeState,
    .writeConnectedAt, .writeConnectedAt, .tick 72000000, .restart, .advance .restored, .advance .restored,
    .advance .restored, .advance .restored, .advance .restored, .sdk 2 .connected true 0 false, .request] : List Label)

theorem restores_prolong_session :
    (run step (installed 1) restoredTwice).firstConnected 0 = some 1 ∧
      (0, 144000001) ∈ (run step (installed 1) restoredTwice).uses ∧
      ¬ WithinAge (run step (installed 1) restoredTwice) := by
  have used : (0, 144000001) ∈ (run step (installed 1) restoredTwice).uses := by decide
  refine ⟨rfl, used, fun within => ?_⟩
  have early := within 0 144000001 used 1 rfl
  exact absurd early (by decide)

end WalletPair.Extension
