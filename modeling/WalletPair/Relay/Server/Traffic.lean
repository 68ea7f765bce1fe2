import WalletPair.Relay.Server.Roles

/-! What a step puts on record. Outside of the handlers the server sends nothing but
terminates: to a connection it dismisses or refuses, to the peers of an expired channel,
and to a peer that was cut off. -/

namespace WalletPair.Relay.Server
open WalletPair.Lib WalletPair.Lib.Program WalletPair.Lib.Run

variable {τ : Type}

def Frame.isTerminate : Frame τ → Bool
  | .notice _ _ (.terminate _ _) => true
  | _ => false

section Records
variable {s t : World τ} {ok : Obs τ → Prop}

theorem notifying_adds (terminates : ∀ q ch f, Frame.isTerminate f = true → ok (.enqueued q ch f) ∧ ok (.dropped q ch f))
    (s : World τ) (c : Channel) : Adds ok s.trace (s.notifying c).trace := by
  unfold World.notifying
  split
  · exact .refl _
  · exact (sendingTo_adds (fun _ _ => (terminates _ _ _ rfl).1) fun _ _ => (terminates _ _ _ rfl).2).trans
      (sendingTo_adds (fun _ _ => (terminates _ _ _ rfl).1) fun _ _ => (terminates _ _ _ rfl).2)

theorem foldl_notifying_adds
    (terminates : ∀ q ch f, Frame.isTerminate f = true → ok (.enqueued q ch f) ∧ ok (.dropped q ch f))
    (entries : List (String × Channel)) (s : World τ) :
    Adds ok s.trace (entries.foldl (fun s entry => s.notifying entry.2) s).trace := by
  induction entries generalizing s with
  | nil => exact .refl _
  | cons entry rest ih => exact (notifying_adds terminates s entry.2).trans (ih _)

theorem foldl_removing_trace (entries : List (String × Channel)) (s : World τ) :
    (entries.foldl (fun s entry => s.removing entry.1) s).trace = s.trace := by
  induction entries generalizing s with
  | nil => rfl
  | cons entry rest ih => exact (ih _).trans removing_trace

theorem cleaning_adds (terminates : ∀ q ch f, Frame.isTerminate f = true → ok (.enqueued q ch f) ∧ ok (.dropped q ch f))
    (s : World τ) : Adds ok s.trace s.cleaning.trace := by
  unfold World.cleaning
  rw [foldl_removing_trace]
  exact foldl_notifying_adds terminates _ _

/-! Nothing but terminates waits for a place. -/

theorem sending_waiting (s : World τ) (q : Nat) (ch : String) (frame : Frame τ) (id : Nat) :
    ((s.sending q ch frame).queues id).waiting = (s.queues id).waiting := by
  unfold World.sending
  dsimp only
  split_ifs
  · rfl
  · dsimp only
    by_cases same : id = q
    · rw [same, Function.update_self]
    · rw [Function.update_of_ne same]
  · rfl

theorem sendingTo_waiting (s : World τ) (q : Option Nat) (ch : String) (frame : Frame τ) (id : Nat) :
    ((s.sendingTo q ch frame).queues id).waiting = (s.queues id).waiting := by
  cases q with
  | none => rfl
  | some q => exact sending_waiting s q ch frame id

theorem notifying_waiting (s : World τ) (c : Channel) (id : Nat) :
    ((s.notifying c).queues id).waiting = (s.queues id).waiting := by
  unfold World.notifying
  split
  · rfl
  · rw [sendingTo_waiting, sendingTo_waiting]

theorem cleaning_waiting (s : World τ) (id : Nat) : (s.cleaning.queues id).waiting = (s.queues id).waiting := by
  have removed : ∀ (entries : List (String × Channel)) (w : World τ),
      (entries.foldl (fun s entry => s.removing entry.1) w).queues = w.queues := by
    intro entries
    induction entries with
    | nil => exact fun _ => rfl
    | cons entry rest ih => exact fun w => (ih _).trans removing_queues
  have told : ∀ (entries : List (String × Channel)) (w : World τ),
      ((entries.foldl (fun s entry => s.notifying entry.2) w).queues id).waiting = (w.queues id).waiting := by
    intro entries
    induction entries with
    | nil => exact fun _ => rfl
    | cons entry rest ih => exact fun w => (ih _).trans (notifying_waiting w entry.2 id)
  unfold World.cleaning
  rw [removed, told]

theorem Handled.waiting {connId sender : Nat} {raw : τ} {atCapacity : Bool} {msg : ClientMessage} {r : ProcessResult τ}
    (handled : Handled s connId sender raw atCapacity msg r t) {id : Nat} {frame : Frame τ}
    (waits : frame ∈ (t.queues id).waiting) : frame ∈ (s.queues id).waiting ∨ Frame.isTerminate frame = true := by
  cases handled with
  | refused reason target => exact Or.inl waits
  | evicted found replaceable full =>
    rw [show (s.vacating _).queues = s.queues from removing_queues] at waits
    exact Or.inl waits
  | created absent free =>
    unfold World.creating at waits
    rw [sending_waiting] at waits
    exact Or.inl waits
  | replaced found replaceable free =>
    unfold World.creating at waits
    rw [sending_waiting] at waits
    change frame ∈ ((s.removing _).queues id).waiting at waits
    rw [removing_queues] at waits
    exact Or.inl waits
  | joined found waiting =>
    unfold World.joining at waits
    rw [sending_waiting, sendingTo_waiting] at waits
    exact Or.inl waits
  | accepted found dapp pending wallet =>
    unfold World.accepting at waits
    rw [sendingTo_waiting, sendingTo_waiting] at waits
    exact Or.inl waits
  | forwarded data found sent allowed limit =>
    unfold World.forwarding at waits
    dsimp only at waits
    split at waits
    · exact Or.inl waits
    · rename_i q other
      split at waits
      · rw [sending_waiting] at waits
        exact Or.inl waits
      · unfold World.cutting at waits
        dsimp only at waits
        by_cases same : id = q
        · rw [same, Function.update_self] at waits
          rcases List.mem_append.mp waits with before | new
          · rw [sending_waiting] at before
            rw [same]
            exact Or.inl before
          · rw [List.mem_singleton.mp new]
            exact Or.inr rfl
        · rw [Function.update_of_ne same, sending_waiting] at waits
          exact Or.inl waits
  | ended found sent =>
    unfold World.ending at waits
    rw [removing_queues, sendingTo_waiting] at waits
    exact Or.inl waits
  | gone absent => exact Or.inl waits

/-- A refusal is a terminate. -/
theorem Handled.refusal {connId sender : Nat} {raw : τ} {atCapacity : Bool} {msg : ClientMessage} {frame : Frame τ}
    (handled : Handled s connId sender raw atCapacity msg (.reject frame) t) : Frame.isTerminate frame = true := by
  cases handled with
  | refused reason target => rfl
  | evicted found replaceable full => rfl

end Records

section Steps
variable {read : τ → Except CloseReason ClientMessage} {s : AppState τ} {ok : Obs τ → Prop}

/-- A frame that the server may send outside of a handler. -/
def Pending (s : AppState τ) (frame : Frame τ) : Prop :=
  Frame.isTerminate frame = true ∨ (∃ k, (s.tasks k).stage = .processed (.reject frame)) ∨
    ∃ id, frame ∈ (s.queues id).waiting

theorem leave_trace (s : AppState τ) (k : Nat) : (s.leave k).trace = s.trace := by
  unfold AppState.leave
  split
  · rfl
  · rename_i ch bound
    rw [after_disconnectPeer]
    change ((s.world (shardIndex ch)).parting ch k).trace = _
    unfold World.parting
    split <;> rfl

/-- What a step adds to the record: frames that were pending, and what a handler adds. -/
theorem step_adds (read : τ → Except CloseReason ClientMessage) (s : AppState τ) (event : Event τ)
    (pending : ∀ q ch f, Pending s f → ok (.enqueued q ch f) ∧ ok (.dropped q ch f))
    (handles : ∀ k raw msg atCapacity r w, event = .process k → (s.tasks k).stage = .checked raw msg atCapacity →
      Handled (s.world (shardIndex msg.channelId)) k k raw atCapacity msg r w → Adds ok s.trace w.trace) :
    Adds ok s.trace (step read s event).trace := by
  have terminates : ∀ q ch f, Frame.isTerminate f = true → ok (.enqueued q ch f) ∧ ok (.dropped q ch f) :=
    fun q ch f sent => pending q ch f (Or.inl sent)
  have tells : ∀ k ch frame, Pending s frame → Adds ok s.trace (s.telling k ch frame).trace :=
    fun k ch frame sent => sending_adds (s := s.world 0) (pending k ch frame sent).1 (pending k ch frame sent).2
  have takes := step_takes read s event
  generalize step read s event = t at takes ⊢
  cases takes with
  | receive reading =>
    rename_i k incoming limited
    rcases receive_cases read s k incoming limited with same | ⟨ch, reason, same⟩ | ⟨raw, msg, -, -, same, -⟩
    · rw [same]
      exact .refl _
    · rw [same]
      exact tells k ch _ (Or.inl rfl)
    · rw [same]
      exact .refl _
  | process checked handled processed => exact handles _ _ _ _ _ _ rfl checked handled
  | count processed =>
    rename_i k result
    cases result with
    | reject frame => exact tells k _ frame (Or.inr (Or.inl ⟨k, processed⟩))
    | _ => exact .refl _
  | leave leaving =>
    rw [leave_trace]
    exact .refl _
  | sweep =>
    unfold AppState.sweep
    split
    · exact .refl _
    · rename_i next removed running
      split
      · rw [cleanupExpired_apply]
        exact cleaning_adds terminates (s.world (Fin.ofNat 64 next))
      · exact .refl _
  | enter =>
    rename_i id
    unfold AppState.enter
    dsimp only
    cases waits : (s.queues id).waiting with
    | nil => exact .refl _
    | cons frame rest =>
      have mem : frame ∈ (s.queues id).waiting := by
        rw [waits]
        exact List.mem_cons_self
      dsimp only
      split_ifs
      · exact .refl _
      · exact .single (pending _ _ _ (Or.inr (Or.inr ⟨id, mem⟩))).1
      · exact .refl _
  | _ => exact .refl _

theorem leave_queues (s : AppState τ) (k : Nat) : (s.leave k).queues = s.queues := by
  unfold AppState.leave
  split
  · rfl
  · rename_i ch bound
    rw [after_disconnectPeer]
    change ((s.world (shardIndex ch)).parting ch k).queues = _
    unfold World.parting
    split <;> rfl

theorem setQueue_waiting {id q : Nat} {queue : Queue τ} {frame : Frame τ}
    (kept : ∀ f ∈ queue.waiting, f ∈ (s.queues q).waiting) (waits : frame ∈ (Function.update s.queues q queue id).waiting) :
    frame ∈ (s.queues id).waiting := by
  by_cases same : id = q
  · rw [same, Function.update_self] at waits
    rw [same]
    exact kept frame waits
  · rwa [Function.update_of_ne same] at waits

theorem step_waiting (read : τ → Except CloseReason ClientMessage) (s : AppState τ) (event : Event τ) {id : Nat}
    {frame : Frame τ} (waits : frame ∈ ((step read s event).queues id).waiting) :
    frame ∈ (s.queues id).waiting ∨ Frame.isTerminate frame = true := by
  have told : ∀ {k ch f}, frame ∈ ((s.telling k ch f).queues id).waiting → frame ∈ (s.queues id).waiting := by
    intro k ch f waits
    change frame ∈ (((s.world 0).sending k ch f).queues id).waiting at waits
    rwa [sending_waiting] at waits
  have takes := step_takes read s event
  generalize step read s event = t at takes waits
  cases takes with
  | idle unready => exact Or.inl waits
  | connect =>
    have none : ∀ f ∈ ({ capacity := s.config.outboundQueueSize } : Queue τ).waiting,
        f ∈ (s.queues s.nextConn).waiting := fun _ mem => nomatch mem
    exact Or.inl (setQueue_waiting none waits)
  | receive reading =>
    rename_i k incoming limited
    rcases receive_cases read s k incoming limited with same | ⟨ch, reason, same⟩ | ⟨raw, msg, -, -, same, -⟩
    · rw [same] at waits
      exact Or.inl waits
    · rw [same] at waits
      exact Or.inl (told waits)
    · rw [same] at waits
      exact Or.inl waits
  | process checked handled processed => exact handled.waiting waits
  | count processed =>
    rename_i k result
    cases result with
    | reject refusal => exact Or.inl (told waits)
    | _ => exact Or.inl waits
  | leave leaving =>
    rw [leave_queues] at waits
    exact Or.inl waits
  | sweep =>
    unfold AppState.sweep at waits
    split at waits
    · exact Or.inl waits
    · rename_i next removed running
      split at waits
      · rw [cleanupExpired_apply] at waits
        change frame ∈ ((s.world (Fin.ofNat 64 next)).cleaning.queues id).waiting at waits
        rw [cleaning_waiting] at waits
        exact Or.inl waits
      · exact Or.inl waits
  | enter =>
    rename_i q
    unfold AppState.enter at waits
    dsimp only at waits
    split at waits
    · exact Or.inl waits
    · rename_i first rest queued
      have kept : ∀ f ∈ rest, f ∈ (s.queues q).waiting := by
        intro f mem
        rw [queued]
        exact List.mem_cons_of_mem _ mem
      split_ifs at waits
      · exact Or.inl (setQueue_waiting kept waits)
      · exact Or.inl (setQueue_waiting kept waits)
      · exact Or.inl waits
  | drain =>
    left
    apply setQueue_waiting _ waits
    exact fun _ mem => mem
  | giveUp =>
    left
    apply setQueue_waiting _ waits
    exact fun _ mem => List.mem_of_mem_tail mem
  | shut =>
    left
    apply setQueue_waiting _ waits
    exact fun _ mem => mem
  | tick => exact Or.inl waits

/-- Only processing a message leaves a refusal to be sent. -/
theorem step_refusal (read : τ → Except CloseReason ClientMessage) (s : AppState τ) (event : Event τ) {k : Nat}
    {frame : Frame τ} (refuses : ((step read s event).tasks k).stage = .processed (.reject frame)) :
    (s.tasks k).stage = .processed (.reject frame) ∨ Frame.isTerminate frame = true := by
  have takes := step_takes read s event
  generalize step read s event = t at takes refuses
  have other : ∀ {j : Nat} {u : AppState τ}, ((u.tasks j).stage ≠ .processed (.reject frame)) →
      (∀ i, i ≠ j → u.tasks i = s.tasks i) → (u.tasks k).stage = .processed (.reject frame) →
      (s.tasks k).stage = .processed (.reject frame) := by
    intro j u moved rest stage
    by_cases same : k = j
    · rw [same] at stage
      exact absurd stage moved
    · rwa [rest k same] at stage
  cases takes with
  | connect =>
    have moved : (s.connect.tasks s.nextConn).stage ≠ .processed (.reject frame) := by
      rw [show s.connect.tasks s.nextConn = ⟨none, .reading⟩ from Function.update_self _ _ _]
      exact nofun
    exact Or.inl (other moved (fun _ different => Function.update_of_ne different _ _) refuses)
  | receive reading =>
    rename_i j incoming limited
    have moved : ((s.receive read j incoming limited).tasks j).stage ≠ .processed (.reject frame) := by
      rcases receive_cases read s j incoming limited with same | ⟨ch, reason, same⟩ | ⟨raw, msg, -, -, same, -⟩
      · rw [same]
        exact (moveTo_stage _ _ _).trans_ne nofun
      · rw [same]
        exact (moveTo_stage _ _ _).trans_ne nofun
      · rw [same, check_task]
        exact nofun
    exact Or.inl (other moved (fun _ different => receive_tasks different) refuses)
  | process checked handled processed =>
    rename_i j raw msg atCapacity r w
    by_cases same : k = j
    · rw [same, moveTo_stage] at refuses
      cases refuses
      exact Or.inr handled.refusal
    · rw [moveTo_tasks, Function.update_of_ne same] at refuses
      exact Or.inl refuses
  | count processed =>
    rename_i j result
    have moved : ((s.count j result).tasks j).stage ≠ .processed (.reject frame) := by
      cases result <;> exact (moveTo_stage _ _ _).trans_ne nofun
    exact Or.inl (other moved (fun _ different => count_tasks different) refuses)
  | leave leaving =>
    rename_i j
    have moved : ((s.leave j).tasks j).stage ≠ .processed (.reject frame) := (leave_stage s j).trans_ne nofun
    exact Or.inl (other moved (fun _ different => leave_tasks different) refuses)
  | sweep =>
    rw [sweep_tasks] at refuses
    exact Or.inl refuses
  | enter =>
    rw [enter_tasks] at refuses
    exact Or.inl refuses
  | _ => exact Or.inl refuses

end Steps

end WalletPair.Relay.Server
