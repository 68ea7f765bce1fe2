import WalletPair.Extension.SingleSession

/-! What is left of a session that has ended. A rebuild that has read the snapshot before
the end still installs it afterwards, and one that reads the storage before the removal is
applied reads it back; where neither happens, the end is final. -/

namespace WalletPair.Extension
open WalletPair.Lib.Run WalletPair.Sdk.DApp

/-- Whether a call of `doTryReconnect` that waits here has a snapshot and may install it. -/
def Stage.holds : Stage → Bool
  | .gotState saved => saved.isSome
  | .readingAge _ => true
  | .gotAge _ _ => true
  | .readingSettings _ => true
  | _ => false

namespace Worker

def holding (w : Worker) : Bool := w.rebuild.any (·.2.holds)

/-- The snapshot is about to be read. -/
def reads (w : Worker) : Bool := w.rebuild.any (·.2 = .readingState)

/-- No socket of the current session is out of the reach of its transport. -/
def clean (w : Worker) : Bool := w.current.all (·.strays = 0)

/-- No write to the storage is pending. -/
def settled (w : Worker) : Prop :=
  w.shared.sessionState.writes = [] ∧ w.shared.connectedAt.writes = []

/-- The snapshot of no ended pairing is stored. -/
def forgotten (w : Worker) : Prop :=
  ∀ keys ∈ w.shared.ended, ∀ saved, w.shared.sessionState.value = some saved → saved.keys ≠ some keys

end Worker

/-- Once the storage has settled no snapshot of an ended pairing is stored, and the current
session holds the keys of none. -/
def Final (w : Worker) : Prop :=
  (w.settled → w.forgotten) ∧ ∀ keys ∈ w.shared.ended, ∀ o, w.current = some o → o.keys ≠ some keys

/-- No session ends while a rebuild has its snapshot in hand, and none is read back before
its removal is applied. A session that closes under the handlers leaves no socket behind. -/
def Orderly (w : Worker) : Label → Prop
  | .disconnect => w.holding = false
  | .resumeAlarm i => w.aging i → w.holding = false ∧ w.clean
  | .advance _ => w.reads → w.shared.ended ≠ [] → w.shared.sessionState.value = none
  | .sdk id phase socket strays reconnectTimer => phase = .closed → w.listening = some id →
      w.holding = false ∧ socket = false ∧ strays = 0 ∧ reconnectTimer = false
  | _ => True

/-- The current session does not close of itself: the variable would keep it. -/
def StaysOpen (w : Worker) : Label → Prop
  | .sdk id phase _ _ _ => phase = .closed → w.session ≠ some id
  | _ => True

/-- The keepalive handler's answer from the storage, when it has one. -/
def Alarm.isOld (now : Nat) : Alarm → Bool
  | .gotAge connectedAt => expired now connectedAt
  | _ => false

theorem aging_iff (w : Worker) (i : Nat) : w.aging i ↔ ∃ call ∈ w.alarms[i]?, call.isOld w.now = true := by
  unfold Worker.aging
  constructor
  · rintro ⟨connectedAt, waiting, old⟩
    exact ⟨.gotAge connectedAt, waiting, old⟩
  · rintro ⟨call, waiting, old⟩
    cases call with
    | gotAge connectedAt => exact ⟨connectedAt, waiting, old⟩
    | _ => cases old

instance (w : Worker) (i : Nat) : Decidable (w.aging i) := decidable_of_iff _ (aging_iff w i).symm

instance (w : Worker) (label : Label) : Decidable (Orderly w label) :=
  match label with
  | .disconnect => inferInstanceAs (Decidable (w.holding = false))
  | .resumeAlarm i => inferInstanceAs (Decidable (w.aging i → w.holding = false ∧ w.clean))
  | .advance _ => inferInstanceAs (Decidable (w.reads → w.shared.ended ≠ [] → w.shared.sessionState.value = none))
  | .sdk id phase socket strays reconnectTimer => inferInstanceAs (Decidable (phase = .closed → w.listening = some id →
      w.holding = false ∧ socket = false ∧ strays = 0 ∧ reconnectTimer = false))
  | .tick _ | .writeState | .writeConnectedAt | .fireTimer | .alarm | .startPairing | .settings | .request
  | .restart => instDecidableTrue

instance (w : Worker) (label : Label) : Decidable (StaysOpen w label) :=
  match label with
  | .sdk id phase _ _ _ => inferInstanceAs (Decidable (phase = .closed → w.session ≠ some id))
  | .disconnect | .resumeAlarm _ | .advance _ | .tick _ | .writeState | .writeConnectedAt | .fireTimer | .alarm
  | .startPairing | .settings | .request | .restart => instDecidableTrue

variable {w : Worker} {id : Nat} {o next : DAppSession}

/-! ### What happens to the stored snapshot -/

theorem change_shared (w : Worker) (id : Nat) (o next : DAppSession) :
    (w.change id o next).shared =
      if o.phase ≠ next.phase ∧ w.listening = some id then w.shared.onPhase w.now next else w.shared := by
  unfold Worker.change
  dsimp only
  by_cases same : o.phase = next.phase
  · simp [same, Worker.put]
  · rw [if_neg same]
    by_cases connected : next.phase = .connected
    · rw [if_pos connected]
      by_cases heard : w.listening = some id <;> simp [same, heard, Worker.put]
    · rw [if_neg connected]
      by_cases heard : w.listening = some id <;> simp [same, heard, Worker.put]

theorem scheduleReconnect_frame (s : Shared) :
    s.scheduleReconnect.sessionState = s.sessionState ∧ s.scheduleReconnect.connectedAt = s.connectedAt ∧
    s.scheduleReconnect.ended = s.ended := by
  unfold Shared.scheduleReconnect
  split <;> simp

/-- Only a close ends a pairing. -/
theorem onPhase_ended {s : Shared} {now : Nat} (open_ : o.phase ≠ .closed) : (s.onPhase now o).ended = s.ended := by
  unfold Shared.onPhase
  split
  · rfl
  · exact (scheduleReconnect_frame s).2.2
  · next closed => exact (open_ closed).elim
  · rfl

theorem change_ended {w : Worker} (open_ : next.phase ≠ .closed) :
    (w.change id o next).shared.ended = w.shared.ended := by
  rw [change_shared]
  split
  · exact onPhase_ended open_
  · rfl

theorem finishRebuild_ended (w : Worker) (caller : Caller) (ok : Bool) :
    (w.finishRebuild caller ok).shared.ended = w.shared.ended := by
  unfold Worker.finishRebuild
  dsimp only
  split
  · rfl
  · rfl
  · exact (scheduleReconnect_frame w.shared).2.2

theorem restoreSession_ended (w : Worker) (caller : Caller) (saved : Snapshot) (outcome : Restore) :
    (w.restoreSession caller saved outcome).shared.ended = w.shared.ended := by
  unfold Worker.restoreSession
  cases outcome with
  | restored =>
    simp only [Worker.recordUse_frame]
    rw [change_ended (by simp [DAppSession.reconnect]), change_ended (by simp [DAppSession.ofSnapshot])]
    rfl
  | refused => exact finishRebuild_ended _ _ _
  | halfRead => exact finishRebuild_ended _ _ _

theorem handleSessionClosed_settled (s : Shared) (gone : Option Nat) :
    (s.handleSessionClosed gone).sessionState.settled = none := by
  simp [Shared.handleSessionClosed, Shared.saveSessionState, Shared.saveConnectedAt]

/-! ### What holds after an end -/

/-- After an end nothing can bring the session back: its snapshot is gone or going, no
rebuild has it, and the object that is listened to is dead. -/
def Over (w : Worker) : Prop :=
  w.shared.ended ≠ [] →
    w.shared.sessionState.settled = none ∧ w.holding = false ∧
      ∀ id o, w.listening = some id → w.objects id = some o → o.Dead

/-- A turn that ends nothing and changes nothing of what matters after an end. -/
theorem Over.congr {t : Worker} (finished : Over w) (ended : t.shared.ended = w.shared.ended)
    (stored : t.shared.sessionState.settled = w.shared.sessionState.settled)
    (rebuild : w.holding = false → t.holding = false) (listening : t.listening = w.listening)
    (objects : t.objects = w.objects) : Over t := by
  intro some_ended
  rw [ended] at some_ended
  obtain ⟨gone, idle, dead⟩ := finished some_ended
  refine ⟨stored.trans gone, rebuild idle, ?_⟩
  rw [listening, objects]
  exact dead

theorem tryReconnect_over {caller : Caller} (finished : Over w) : Over (w.tryReconnect caller) := by
  obtain ⟨-, objects, -, -, listening, -⟩ := Worker.tryReconnect_frame w caller
  unfold Worker.tryReconnect at objects listening ⊢
  split
  · exact finished.congr rfl rfl (fun _ => rfl) rfl rfl
  · obtain ⟨stored, -, ended⟩ := scheduleReconnect_frame w.shared
    exact finished.congr ended (by rw [stored]) (fun idle => idle) rfl rfl
  · exact finished

theorem finishRebuild_over {caller : Caller} {ok : Bool} (finished : Over w) : Over (w.finishRebuild caller ok) := by
  unfold Worker.finishRebuild
  dsimp only
  split
  · exact finished.congr rfl rfl (fun _ => rfl) rfl rfl
  · exact finished.congr rfl rfl (fun _ => rfl) rfl rfl
  · obtain ⟨stored, -, ended⟩ := scheduleReconnect_frame w.shared
    exact finished.congr ended (by rw [stored]) (fun _ => rfl) rfl rfl

theorem not_ended_of_holding (finished : Over w) (holding : w.holding = true) : w.shared.ended = [] := by
  by_contra some_ended
  have idle := (finished some_ended).2.1
  rw [holding] at idle
  cases idle

theorem over_of_none_ended (none_ended : w.shared.ended = []) : Over w :=
  fun some_ended => (some_ended none_ended).elim

theorem advance_over {outcome : Restore} (finished : Over w) (orderly : Orderly w (.advance outcome)) :
    Over (w.advance outcome) := by
  unfold Worker.advance
  cases call : w.rebuild with
  | none => exact finished
  | some held =>
    obtain ⟨caller, stage⟩ := held
    have quiet : stage.holds = true → w.shared.ended = [] := by
      intro holds
      exact not_ended_of_holding finished (by simp [Worker.holding, call, holds])
    cases stage with
    | readingState =>
      intro some_ended
      obtain ⟨gone, -, dead⟩ := finished some_ended
      have read : w.shared.sessionState.value = none := orderly (by simp [Worker.reads, call]) some_ended
      exact ⟨gone, by simp [Worker.holding, Stage.holds, read], dead⟩
    | gotState saved =>
      cases saved with
      | none => exact finishRebuild_over finished
      | some saved =>
        have none_ended := quiet rfl
        exact over_of_none_ended none_ended
    | readingAge saved =>
      have none_ended := quiet rfl
      exact over_of_none_ended none_ended
    | gotAge saved connectedAt =>
      have none_ended := quiet rfl
      dsimp only
      split
      · exact finishRebuild_over (over_of_none_ended none_ended)
      · exact over_of_none_ended none_ended
    | readingSettings saved =>
      refine over_of_none_ended ?_
      rw [restoreSession_ended]
      exact quiet rfl
    | reconnecting => exact finished.congr rfl rfl (fun _ => rfl) rfl rfl
    | readingWallet => exact finishRebuild_over finished

theorem disconnect_rebuild (w : Worker) : w.disconnect.rebuild = w.rebuild := by
  unfold Worker.disconnect Worker.finishObject
  cases session : w.session with
  | none => rfl
  | some id => cases held : w.objects id <;> simp [held]

theorem disconnect_over (idle : w.holding = false) : Over w.disconnect := by
  intro _
  refine ⟨handleSessionClosed_settled _ _, ?_, ?_⟩
  · unfold Worker.holding
    rw [disconnect_rebuild]
    exact idle
  · intro id o listening
    simp at listening

/-- The session that is given up for its age was listened to, and stays so. -/
theorem expire_over (wf : WellFormed w) (session : w.session = some id) (idle : w.holding = false)
    (clean : w.clean = true) : Over (w.expire id) := by
  intro _
  obtain ⟨o, held⟩ := wf.held id session
  have strays : o.strays = 0 := by
    simpa [Worker.clean, Worker.current, Worker.object, session, held] using clean
  obtain ⟨objects, -, listening, -⟩ := expire_frame w session
  refine ⟨handleSessionClosed_settled _ _, ?_, ?_⟩
  · have rebuild : (w.expire id).rebuild = w.rebuild := by
      simp [Worker.expire, Worker.finishObject, held]
    unfold Worker.holding
    rw [rebuild]
    exact idle
  · intro other former heard there
    rw [listening, wf.heard id session, Option.some.injEq] at heard
    subst heard
    have closed : w.left .close id = some o.close := by simp [Worker.left, session, held]
    rw [objects, closed, Option.some.injEq] at there
    exact there ▸ (DAppSession.close_dead_iff o).mpr strays

theorem resumeAlarm_over {i : Nat} (wf : WellFormed w) (finished : Over w) (orderly : Orderly w (.resumeAlarm i)) :
    Over (w.resumeAlarm i) := by
  unfold Worker.resumeAlarm
  cases waiting : w.alarms[i]? with
  | none => exact finished
  | some call =>
    cases call with
    | readingAge => exact finished.congr rfl rfl (fun idle => idle) rfl rfl
    | readingState => exact finished.congr rfl rfl (fun idle => idle) rfl rfl
    | gotState saved =>
      dsimp only
      split
      · exact tryReconnect_over (finished.congr rfl rfl (fun idle => idle) rfl rfl)
      · exact finished.congr rfl rfl (fun idle => idle) rfl rfl
    | gotAge connectedAt =>
      dsimp only
      split
      · exact finished.congr rfl rfl (fun idle => idle) rfl rfl
      · next id session =>
        split
        · next old =>
          obtain ⟨idle, clean⟩ := orderly ⟨connectedAt, waiting, old⟩
          have well : WellFormed { w with alarms := w.alarms.eraseIdx i } :=
            WellFormed.congr (w := w) rfl rfl rfl rfl wf
          exact expire_over well session idle clean
        · exact finished.congr rfl rfl (fun idle => idle) rfl rfl

/-- An object that is listened to is dead after an end, and the SDK does not move it. -/
theorem not_ended_of_live (finished : Over w) (held : w.objects id = some o) (live : ¬ o.Dead)
    (heard : w.listening = some id) : w.shared.ended = [] := by
  by_contra some_ended
  exact live ((finished some_ended).2.2 id o heard held)

/-- The SDK moves an object that is not dead to `next`; `last` is what it is when the handler is done. -/
theorem change_over {last : DAppSession} {t : Worker} (finished : Over w) (held : w.objects id = some o) (live : ¬ o.Dead)
    (orderly : next.phase = .closed → w.listening = some id → w.holding = false ∧ last.Dead)
    (shared : t.shared = (w.change id o next).shared) (rebuild : t.rebuild = w.rebuild)
    (listening : t.listening = w.listening) (objects : t.objects = Function.update w.objects id (some last)) :
    Over t := by
  have same : t.holding = w.holding := by rw [Worker.holding, rebuild, Worker.holding]
  by_cases heard : w.listening = some id
  · have none_ended := not_ended_of_live finished held live heard
    by_cases closed : next.phase = .closed
    · obtain ⟨idle, dead⟩ := orderly closed heard
      intro some_ended
      have stored : t.shared.sessionState.settled = none := by
        rw [shared, change_shared] at some_ended ⊢
        split at some_ended
        · next reported =>
          rw [if_pos reported]
          simp only [Shared.onPhase, closed]
          exact handleSessionClosed_settled _ _
        · exact (some_ended none_ended).elim
      refine ⟨stored, same.trans idle, fun other former there kept => ?_⟩
      rw [listening, heard, Option.some.injEq] at there
      subst there
      rw [objects, Function.update_self, Option.some.injEq] at kept
      exact kept ▸ dead
    · refine over_of_none_ended ?_
      rw [shared, change_ended closed]
      exact none_ended
  · intro some_ended
    have quiet : t.shared = w.shared := by rw [shared, change_shared, if_neg (fun both => heard both.2)]
    rw [quiet] at some_ended ⊢
    obtain ⟨gone, idle, dead⟩ := finished some_ended
    refine ⟨gone, same.trans idle, fun other former there kept => ?_⟩
    rw [listening] at there
    have different : other ≠ id := by
      rintro rfl
      exact heard there
    rw [objects, Function.update_of_ne different] at kept
    exact dead other former there kept

theorem sdk_over {phase : Phase} {socket : Bool} {strays : Nat} {reconnectTimer : Bool} (finished : Over w)
    (orderly : Orderly w (.sdk id phase socket strays reconnectTimer)) :
    Over (w.sdk id phase socket strays reconnectTimer) := by
  unfold Worker.sdk
  split
  · exact finished
  · next o held =>
    split
    · exact finished
    · next live =>
      dsimp only
      split
      · next connected =>
        refine change_over finished held live (fun closed => ?_) (by simp [Worker.put]; rfl) (by simp [Worker.put])
          (by simp [Worker.put]) (by simp [Worker.put]; rfl)
        exact absurd (connected.1.symm.trans closed) (by decide)
      · refine change_over finished held live (fun closed heard => ?_) rfl (by simp) (by simp) (by simp; rfl)
        obtain ⟨idle, noSocket, noStrays, noTimer⟩ := orderly closed heard
        exact ⟨idle, closed, noSocket, noStrays, noTimer⟩

theorem step_over (wf : WellFormed w) (finished : Over w) {label : Label} (orderly : Orderly w label) :
    Over (step w label) := by
  cases label with
  | tick => exact finished.congr rfl rfl (fun idle => idle) rfl rfl
  | writeState => exact finished.congr rfl (Cell.apply_settled _) (fun idle => idle) rfl rfl
  | writeConnectedAt => exact finished.congr rfl rfl (fun idle => idle) rfl rfl
  | fireTimer =>
    simp only [step]
    split
    · exact tryReconnect_over (finished.congr rfl rfl (fun idle => idle) rfl rfl)
    · exact finished
  | alarm =>
    simp only [step, Worker.alarm]
    split <;> exact finished.congr rfl rfl (fun idle => idle) rfl rfl
  | resumeAlarm i => exact resumeAlarm_over wf finished orderly
  | startPairing => exact finished.congr rfl rfl (fun idle => idle) rfl rfl
  | settings =>
    simp only [step]
    split
    · exact finished
    · exact over_of_none_ended rfl
  | disconnect => exact disconnect_over orderly
  | advance outcome => exact advance_over finished orderly
  | sdk id phase socket strays reconnectTimer => exact sdk_over finished orderly
  | request =>
    simp only [step, Worker.request]
    split
    · exact finished
    · split
      · exact finished.congr (by simp) (by simp) (fun idle => by simpa [Worker.holding] using idle) (by simp) (by simp)
      · exact finished
  | restart =>
    intro some_ended
    exact ⟨(finished some_ended).1, rfl, fun id o listening => by cases listening⟩

/-! ### Every run -/

/-- After an end the variable is empty. -/
def Vacant (w : Worker) : Prop := w.shared.ended ≠ [] → w.session = none

theorem Vacant.congr {t : Worker} (vacant : Vacant w) (ended : t.shared.ended = w.shared.ended)
    (session : t.session = w.session) : Vacant t := by
  intro some_ended
  rw [session]
  exact vacant (ended ▸ some_ended)

theorem tryReconnect_ended (w : Worker) (caller : Caller) :
    (w.tryReconnect caller).shared.ended = w.shared.ended := by
  unfold Worker.tryReconnect
  split
  · rfl
  · exact (scheduleReconnect_frame w.shared).2.2
  · rfl

/-- `doTryReconnect` ends no pairing, not even one that it finds too old. -/
theorem advance_ended (w : Worker) (outcome : Restore) : (w.advance outcome).shared.ended = w.shared.ended := by
  unfold Worker.advance
  split
  · rfl
  · split
    · rfl
    · exact finishRebuild_ended _ _ _
    · rfl
    · rfl
    · split
      · exact finishRebuild_ended _ _ _
      · rfl
    · exact restoreSession_ended _ _ _ _
    · rfl
    · exact finishRebuild_ended _ _ _

theorem advance_vacant {outcome : Restore} (finished : Over w) (vacant : Vacant w) : Vacant (w.advance outcome) := by
  intro some_ended
  rw [advance_ended] at some_ended
  have idle : ¬ w.restoring := by
    rintro ⟨caller, saved, call⟩
    have free := (finished some_ended).2.1
    simp [Worker.holding, call, Stage.holds] at free
  rw [(advance_frame w outcome idle).2.1]
  exact vacant some_ended

theorem change_vacant {t : Worker} (wf : WellFormed w) (vacant : Vacant w)
    (stays : next.phase = .closed → w.session ≠ some id) (shared : t.shared = (w.change id o next).shared)
    (session : t.session = w.session) : Vacant t := by
  by_cases closed : next.phase = .closed
  · intro some_ended
    rw [session]
    rw [shared, change_shared] at some_ended
    split at some_ended
    · next reported =>
      rw [Option.eq_none_iff_forall_ne_some]
      intro other here
      have heard := wf.heard other here
      rw [reported.2, Option.some.injEq] at heard
      exact stays closed (heard ▸ here)
    · exact vacant some_ended
  · refine vacant.congr ?_ session
    rw [shared]
    exact change_ended closed

theorem sdk_vacant {phase : Phase} {socket : Bool} {strays : Nat} {reconnectTimer : Bool} (wf : WellFormed w)
    (vacant : Vacant w) (stays : StaysOpen w (.sdk id phase socket strays reconnectTimer)) :
    Vacant (w.sdk id phase socket strays reconnectTimer) := by
  unfold Worker.sdk
  split
  · exact vacant
  · next o held =>
    split
    · exact vacant
    · dsimp only
      split
      · refine change_vacant wf vacant ?_ (by simp [Worker.put]; rfl) (by simp [Worker.put])
        exact stays
      · refine change_vacant wf vacant ?_ rfl (by simp)
        exact stays

theorem resumeAlarm_vacant {i : Nat} (vacant : Vacant w) : Vacant (w.resumeAlarm i) := by
  unfold Worker.resumeAlarm
  split
  · exact vacant
  · exact vacant
  · dsimp only
    split
    · exact vacant
    · next id session =>
      split
      · intro _
        exact (expire_frame { w with alarms := w.alarms.eraseIdx i } session).2.1
      · exact vacant
  · exact vacant
  · dsimp only
    split
    · exact vacant.congr (tryReconnect_ended _ _) (by simp)
    · exact vacant

theorem step_vacant (wf : WellFormed w) (finished : Over w) (vacant : Vacant w) {label : Label}
    (stays : StaysOpen w label) : Vacant (step w label) := by
  cases label with
  | fireTimer =>
    simp only [step]
    split
    · exact vacant.congr (tryReconnect_ended _ _) (by simp)
    · exact vacant
  | alarm =>
    simp only [step, Worker.alarm]
    split <;> exact vacant
  | resumeAlarm i => exact resumeAlarm_vacant vacant
  | settings =>
    simp only [step]
    split
    · exact vacant
    · intro some_ended
      exact (some_ended rfl).elim
  | disconnect =>
    intro _
    exact (disconnect_frame w).2.1
  | advance outcome => exact advance_vacant finished vacant
  | sdk id phase socket strays reconnectTimer => exact sdk_vacant wf vacant stays
  | request =>
    simp only [step, Worker.request]
    split
    · exact vacant
    · split
      · exact vacant.congr (by simp) (by simp)
      · exact vacant
  | restart =>
    intro _
    rfl
  | _ => exact vacant

/-- What holds after every turn of an orderly run. -/
theorem orderly_reach {now : Nat} {labels : List Label} (orderly : Along step Orderly (installed now) labels) :
    WellFormed (run step (installed now) labels) ∧ Over (run step (installed now) labels) := by
  have keep : ∀ (w : Worker) (label : Label), Orderly w label → WellFormed w ∧ Over w →
      WellFormed (step w label) ∧ Over (step w label) := fun w label orderly both =>
    ⟨step_wellFormed both.1 label, step_over both.1 both.2 orderly⟩
  exact @invariant _ _ step Orderly (fun w => WellFormed w ∧ Over w) keep _ labels orderly
    ⟨installed_wellFormed now, over_of_none_ended rfl⟩

theorem vacant_reach {now : Nat} {labels : List Label} (orderly : Along step Orderly (installed now) labels)
    (stays : Along step StaysOpen (installed now) labels) : Vacant (run step (installed now) labels) := by
  have keep : ∀ (w : Worker) (label : Label), Orderly w label ∧ StaysOpen w label → (WellFormed w ∧ Over w) ∧ Vacant w →
      (WellFormed (step w label) ∧ Over (step w label)) ∧ Vacant (step w label) := fun w label ok all =>
    ⟨⟨step_wellFormed all.1.1 label, step_over all.1.1 all.1.2 ok.1⟩, step_vacant all.1.1 all.1.2 all.2 ok.2⟩
  have vacant : Vacant (installed now) := fun some_ended => (some_ended rfl).elim
  exact (@invariant _ _ step (fun w label => Orderly w label ∧ StaysOpen w label)
    (fun w => (WellFormed w ∧ Over w) ∧ Vacant w) keep _ labels (orderly.and stays)
    ⟨⟨installed_wellFormed now, over_of_none_ended rfl⟩, vacant⟩).2

/-- After an end that finds no snapshot in the hand of a rebuild and is not read back, the
snapshot is gone once the storage has settled, and a current session that still holds the
keys is dead; and it holds none of them if the session did not close of itself. -/
theorem disconnect_final (now : Nat) (labels : List Label) (orderly : Along step Orderly (installed now) labels) :
    ((run step (installed now) labels).settled → (run step (installed now) labels).forgotten) ∧
    (∀ keys ∈ (run step (installed now) labels).shared.ended,
      ∀ o, (run step (installed now) labels).current = some o → o.keys = some keys → o.Dead) ∧
    (Along step StaysOpen (installed now) labels → Final (run step (installed now) labels)) := by
  obtain ⟨wf, finished⟩ := orderly_reach orderly
  have vacant := vacant_reach orderly
  generalize run step (installed now) labels = w at wf finished vacant ⊢
  have forgotten : w.settled → w.forgotten := by
    intro settled keys mem saved stored
    have gone := (finished (List.ne_nil_of_mem mem)).1
    rw [Cell.settled_of_no_writes settled.1, stored] at gone
    cases gone
  refine ⟨forgotten, fun keys mem o current _ => ?_, fun stays => ⟨forgotten, fun keys mem o current => ?_⟩⟩
  · obtain ⟨id, session, held⟩ := Option.bind_eq_some_iff.mp current
    exact (finished (List.ne_nil_of_mem mem)).2.2 id o (wf.heard id session) held
  · have empty := vacant stays (List.ne_nil_of_mem mem)
    simp [Worker.current, Worker.object, empty] at current

/-- A pairing is ended by the user. -/
def pairedAndEnded : List Label := pairedAndStored ++ ([.disconnect, .writeState, .writeConnectedAt] : List Label)

theorem disconnect_final_ended :
    (run step (installed 1) pairedAndEnded).shared.ended = [0] ∧
      (run step (installed 1) pairedAndEnded).settled ∧ Final (run step (installed 1) pairedAndEnded) :=
  ⟨rfl, ⟨rfl, rfl⟩, (disconnect_final 1 pairedAndEnded (by decide)).2.2 (by decide)⟩

/-- The worker is restarted, and the user disconnects after the rebuild has read the
snapshot and before it constructs the session. -/
def endedDuringRebuild : List Label :=
  pairedAndStored ++ ([.restart, .advance .restored, .advance .restored, .advance .restored, .advance .restored,
    .disconnect, .advance .restored, .writeState, .writeState, .writeConnectedAt, .writeConnectedAt] : List Label)

theorem rebuild_installs_ended_session :
    (run step (installed 1) endedDuringRebuild).shared.ended = [0] ∧
      (run step (installed 1) endedDuringRebuild).settled ∧
      (run step (installed 1) endedDuringRebuild).shared.sessionState.value = some ⟨some 0, none⟩ ∧
      (run step (installed 1) endedDuringRebuild).current.bind (·.keys) = some 0 ∧
      ¬ Final (run step (installed 1) endedDuringRebuild) := by
  refine ⟨rfl, ⟨rfl, rfl⟩, rfl, rfl, fun final => ?_⟩
  exact final.2 0 (by decide) _ rfl rfl

end WalletPair.Extension
