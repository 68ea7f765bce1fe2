import WalletPair.Sdk.Expiry
import WalletPair.Sdk.DApp.Moves

/-! The lifetime of a dApp session over whole runs. Only an accepted `ready.connected`
sets the start and arms the timer; `restore` takes the start from the snapshot and arms
nothing, and a continuation does not look at the clock. -/

namespace WalletPair.Sdk.DApp
open WalletPair.Lib WalletPair.Lib.Program

/-! ### What a run is watched for -/

/-- Whether the relay's message reports the paired wallet as connected. -/
def Session.acceptsReady (s : Session) (msg : ProtocolMessage) : Bool :=
  match msg.body with
  | .ready state remote =>
    msg.v = 1 ∧ state = some "connected" ∧ s.remotePubKey ≠ none ∧ remote = s.remotePubKey.map b64urlEncode
  | _ => false

def Session.opens (s : Session) : Label → Bool
  | .message msg => s.acceptsReady msg
  | _ => false

def Obs.traffic : Obs → Bool
  | .sent message _ _ => message.body.traffic
  | _ => false

section
variable (C : Crypto)

/-- One turn of the event loop, with the time of the first `ready.connected` noted. -/
def timedStep (t : Timed Session) (l : Inputs × Label) : Timed Session where
  session := step C t.session l
  first := t.first <|> if t.session.opens l.2 then some l.1.now else none

/-- Inside one pairing, with a lifetime timer that fires when it is due. A process that
was down takes up the stored snapshot at any later time. -/
def Timely (t : Timed Session) (l : Inputs × Label) : Prop :=
  match l.2 with
  | .createPairing _ _ _ => False
  | .restore _ => False
  | .crash => True
  | _ => ∀ due ∈ t.session.timers.sessionTtl, l.1.now ≤ due

instance (t : Timed Session) (l : Inputs × Label) : Decidable (Timely t l) := by
  obtain ⟨inputs, label⟩ := l
  unfold Timely
  apply @Label.casesOn _ label <;> intros <;> infer_instance

/-- Continuations that put a request on the wire. -/
def Task.requests : Task → Bool
  | .request _ _ _ _ _ => true
  | .resend _ _ _ _ _ => true
  | _ => false

abbrev Timed.over (t : Timed Session) (now : Nat) : Prop := Over t.first t.session.options.sessionTtl now

abbrev Timed.past (t : Timed Session) (now : Nat) : Prop := Past t.first t.session.options.sessionTtl now

/-- Whether a step may be taken without the lifetime being overrun. -/
def Lives (t : Timed Session) (l : Inputs × Label) : Prop :=
  match l.2 with
  | .message msg => t.session.acceptsReady msg = true →
    ¬ Timed.over t l.1.now ∧ (t.first ≠ none → t.session.sessionStartTime ≠ none)
  | .crash => Timed.over t l.1.now → t.session.journal.disk.contents.isNone
  | .request _ _ => Timed.past t l.1.now → t.session.phase = .connected → t.session.timers.sessionTtl ≠ none
  | .settle ticket ok => Timed.past t l.1.now → ok = true → ∀ call ∈ t.session.journal.find ticket,
    call.durable = true → call.task.requests = false
  | _ => True

instance (t : Timed Session) (l : Inputs × Label) : Decidable (Lives t l) := by
  obtain ⟨inputs, label⟩ := l
  unfold Lives
  apply @Label.casesOn _ label <;> intros <;> infer_instance

end

/-! ### Starts and timers -/

/-- Nothing of the session counts from a later moment than its first connection. -/
def Session.Dated (first : Option Nat) (s : Session) : Prop :=
  Sdk.Dated Snapshot.sessionStartTime first s.options.sessionTtl s.sessionStartTime s.timers.sessionTtl s.journal

variable {first : Option Nat} {s t : Session} {k : Kind}

theorem serialize_start {snapshot : Snapshot} (current : s.serialize = some snapshot) :
    snapshot.sessionStartTime = s.sessionStartTime := by
  unfold Session.serialize at current
  obtain ⟨key, -, rfl⟩ := Option.map_eq_some_iff.mp current
  rfl

theorem dated_of_move (other : k ≠ .lifetime) (move : Move s k t) (dated : s.Dated first) : t.Dated first := by
  have stores {snapshot : Snapshot} (current : s.serialize = some snapshot) (new : Snapshot)
      (same : some snapshot = some new) (start : Nat) (shape : new.sessionStartTime = some start) :
      ∃ begun ∈ first, start ≤ begun := by
    rw [← Option.some.inj same, serialize_start current] at shape
    exact dated.started start shape
  cases move with
  | lapse => exact ⟨dated.started, nofun, dated.stored⟩
  | live start known => exact absurd rfl other
  | save task snapshot adapter configured async current =>
    exact ⟨dated.started, dated.deadline, dated.stored.enqueue (stores current)⟩
  | put task snapshot adapter configured sync current =>
    exact ⟨dated.started, dated.deadline, dated.stored.put (stores current)⟩
  | clear adapter configured async =>
    exact ⟨dated.started, dated.deadline, dated.stored.enqueue fun snap shape => by cases shape⟩
  | wipe adapter configured sync =>
    exact ⟨dated.started, dated.deadline, dated.stored.put fun snap shape => by cases shape⟩
  | _ => exact ⟨dated.started, dated.deadline, dated.stored⟩

theorem dated_of_moves {α : Type} {m : M α} (made : Keeps (Moves (· ≠ .lifetime)) m) :
    Keeps (Preserve (Session.Dated first)) m := by
  refine preserve_of_moves made fun s t k allowed move => dated_of_move ?_ move
  rcases allowed with quiet | other
  · rintro rfl
    cases quiet
  · exact other

/-- While an accepted `ready.connected` is handled in time. -/
structure Opening (begun now : Nat) (s : Session) : Prop where
  dated : s.Dated (some begun)
  clock : s.inputs.now = now
  opening : s.sessionStartTime = none → now ≤ begun
  inTime : now ≤ begun + s.options.sessionTtl

theorem opening_of_move {begun now : Nat} (move : Move s k t) (h : Opening begun now s) : Opening begun now t := by
  obtain ⟨dated, clock, opening, inTime⟩ := h
  by_cases lives : k ≠ .lifetime
  · refine ⟨dated_of_move lives move dated, ?_, ?_, ?_⟩
    · cases move <;> exact clock
    · cases move with
      | live start known => exact absurd rfl lives
      | _ => exact opening
    · cases move <;> exact inTime
  · cases move with
    | live start known =>
      subst known clock
      exact ⟨dated.live opening inTime, rfl, nofun, inTime⟩
    | note o => exact ⟨⟨dated.started, dated.deadline, dated.stored⟩, clock, opening, inTime⟩
    | save task snapshot adapter configured async current =>
      cases task <;> exact absurd nofun lives
    | put task snapshot adapter configured sync current =>
      cases task <;> exact absurd nofun lives
    | _ => exact absurd nofun lives

/-! ### Messages that are not a `ready.connected` -/

section
variable {C : Crypto}

/-- Moves that neither send, nor connect, nor count the lifetime. -/
def Kind.aside (k : Kind) : Prop := k ≠ .lifetime ∧ k ≠ .sending ∧ k ≠ .phase .connected

theorem handleReady_aside {state remote : Option String}
    (refused : state = some "connected" → s.remotePubKey = none ∨ remote ≠ s.remotePubKey.map b64urlEncode) :
    Moves Kind.aside s (after (handleReady C state remote) s) := by
  unfold handleReady stopReconnect
  rw [after_modify_bind, after_get_bind]
  refine Relation.ReflTransGen.head
    ⟨.plain, Or.inl rfl, Move.adjust { s with timers := s.timers.stopReconnect }⟩ ?_
  have closing : Keeps (Moves Kind.aside) (do
      emit (.error "Connected remote does not match paired wallet")
      close "normal") := .bind (report_moves _) fun _ => close_moves _
  have waiting : Keeps (Moves Kind.aside) (if state = some "waiting" then setPhase .waiting else return) :=
    .ite (setPhase_moves _ (Or.inr ⟨nofun, nofun, nofun⟩)) (.pure _)
  by_cases connected : state = some "connected"
  · rw [if_pos connected, if_pos (refused connected)]
    exact closing _
  · rw [if_neg connected]
    exact waiting _

theorem handleMessage_aside {msg : ProtocolMessage} (refused : s.acceptsReady msg = false) :
    Moves Kind.aside s (after (handleMessage C msg) s) := by
  have kinds (other : ∀ k ∈ messageKinds msg.body, k.aside) :
      Moves Kind.aside s (after (handleMessage C msg) s) :=
    moves_mono other (handleMessage_moves C msg s)
  obtain ⟨v, ch, ts, sender, body⟩ := msg
  cases body with
  | ready state remote =>
    by_cases version : v = 1
    · have refused : state = some "connected" → s.remotePubKey = none ∨ remote ≠ s.remotePubKey.map b64urlEncode := by
        intro connected
        simpa [Session.acceptsReady, version, connected, imp_iff_not_or] using refused
      simpa [handleMessage, Body.fromRelay, version] using handleReady_aside (C := C) refused
    · have closes : Keeps (Moves Kind.aside) (close "unsupported_version") := close_moves _
      simpa [handleMessage, Body.fromRelay, version] using closes s
  | _ => exact kinds (by simp [messageKinds, Kind.aside])

/-! ### Steps keep the dates -/

theorem restoreSafely_dated {d : Snapshot} (early : ∀ start, d.sessionStartTime = some start → ∃ begun ∈ first, start ≤ begun) :
    Keeps (Preserve (Session.Dated first)) (restoreSafely d) := by
  have same {f : Session → Session} (options : ∀ s, (f s).options = s.options) (timers : ∀ s, (f s).timers = s.timers)
      (journal : ∀ s, (f s).journal = s.journal) (start : ∀ s, (f s).sessionStartTime = s.sessionStartTime ∨
        (f s).sessionStartTime = d.sessionStartTime) : Keeps (Preserve (Session.Dated first)) (modify f : M Unit) := by
    intro s dated
    unfold Session.Dated
    rw [after_modify, options, timers, journal]
    rcases start s with kept | read
    · rw [kept]
      exact dated
    · rw [read]
      exact ⟨early, dated.deadline, dated.stored⟩
  have remote : Keeps (Preserve (Session.Dated first)) (restoreRemote d.remotePubKeyB64) := by
    unfold restoreRemote
    split
    · exact same (fun _ => rfl) (fun _ => rfl) (fun _ => rfl) fun _ => Or.inl rfl
    · split
      · exact .throw _
      · exact same (fun _ => rfl) (fun _ => rfl) (fun _ => rfl) fun _ => Or.inl rfl
  have scope : Keeps (Preserve (Session.Dated first)) (restoreScope d) :=
    same (fun _ => rfl) (fun _ => rfl) (fun _ => rfl) fun _ => Or.inr rfl
  exact .tryCatch (.ite (.pure _) (.bind (same (fun _ => rfl) (fun _ => rfl) (fun _ => rfl) fun _ => Or.inl rfl) fun _ =>
    .bind remote fun _ => .bind (same (fun _ => rfl) (fun _ => rfl) (fun _ => rfl) fun _ => Or.inl rfl) fun _ =>
    .ite (.pure _) (.bind scope fun _ =>
    .bind (dated_of_moves (setPhase_moves _ (Or.inr nofun))) fun _ => .pure _))) fun _ => .pure _

theorem restart_dated : Keeps (Preserve (Session.Dated first)) restart := by
  intro s dated
  have blank : Session.Dated first s.renewed := ⟨nofun, nofun, dated.stored.crash⟩
  cases loaded : s.journal.disk.contents with
  | none =>
    rw [restart_of_empty loaded]
    exact blank
  | some snapshot =>
    rw [restart_of_stored loaded]
    exact restoreSafely_dated (dated.stored.contents loaded) _ blank

theorem settleCall_dated {ticket : Nat} {resolves : Bool} (dated : s.Dated first) :
    (after (settleCall C ticket resolves) s).Dated first := by
  have removed : Session.Dated first { s with journal := s.journal.remove ticket } :=
    ⟨dated.started, dated.deadline, dated.stored.remove ticket⟩
  rcases settleCall_cases C ticket resolves s with idle | ⟨call, -, ⟨-, -, run⟩ | ⟨-, run⟩⟩
  · rw [idle]
    exact dated
  · rw [run]
    refine dated_of_moves (resume_moves C call.task ?_ (fun _ => ⟨nofun, nofun⟩) fun _ _ => nofun) _ removed
    cases call.task <;> exact nofun
  · rw [run]
    exact dated_of_moves (fail_task_moves "save" call.task fun _ => nofun) _ removed

/-- A step that is not an accepted `ready.connected` keeps the dates. -/
theorem step_dated {l : Inputs × Label} (timely : Timely ⟨s, first⟩ l) (closed : s.opens l.2 = false)
    (dated : s.Dated first) : (step C s l).Dated first := by
  obtain ⟨inputs, label⟩ := l
  have begun : Session.Dated first { s with inputs := inputs } := ⟨dated.started, dated.deadline, dated.stored⟩
  cases label with
  | createPairing privateKey channelId deferTransport => exact timely.elim
  | restore snapshot => exact timely.elim
  | destroy =>
    refine Keeps.bind (dated_of_moves (close_moves _)) (fun _ => ?_) _ begun
    exact fun s dated => ⟨dated.started, dated.deadline, dated.stored⟩
  | flush ticket => exact ⟨dated.started, dated.deadline, dated.stored.flush ticket⟩
  | settle ticket ok => exact settleCall_dated begun
  | crash => exact restart_dated _ begun
  | message msg =>
    have made : Moves Kind.aside { s with inputs := inputs } (step C s (inputs, .message msg)) :=
      handleMessage_aside (s := { s with inputs := inputs }) closed
    generalize step C s (inputs, .message msg) = last at made ⊢
    induction made with
    | refl => exact begun
    | tail _ move ih =>
      obtain ⟨k, allowed, move⟩ := move
      exact dated_of_move (by rintro rfl; simp [Kind.quiet, Kind.aside] at allowed) move ih
  | _ => exact dated_of_moves (fun s => moves_mono (by simp [Label.kinds]) (act_moves C _ rfl s)) _ begun

/-- Nothing of the session counts from a later moment than its first connection, or than `now`
where it has not been connected. -/
def DatedAt (t : Timed Session) (now : Nat) : Prop := t.session.Dated (some (t.first.getD now))

/-- An accepted `ready.connected` in time starts the lifetime, or goes on counting it. -/
theorem ready_dated {l : Inputs × Label} (opens : s.opens l.2 = true)
    (inTime : ¬ Over first s.options.sessionTtl l.1.now) (counted : first ≠ none → s.sessionStartTime ≠ none)
    (dated : s.Dated (some (first.getD l.1.now))) : (step C s l).Dated (some (first.getD l.1.now)) := by
  obtain ⟨inputs, label⟩ := l
  cases label with
  | message msg =>
    have begun : Opening (first.getD inputs.now) inputs.now { s with inputs := inputs } := by
      refine ⟨⟨dated.started, dated.deadline, dated.stored⟩, rfl, fun blank => ?_, ?_⟩
      · cases first with
        | none => exact le_rfl
        | some start => exact absurd blank (counted nofun)
      · cases first with
        | none => exact Nat.le_add_right _ _
        | some start => exact (not_le.mp fun late => inTime ⟨start, rfl, late⟩).le
    have kept : Keeps (Preserve (Opening (first.getD inputs.now) inputs.now)) (handleMessage C msg) :=
      preserve_of_moves (handleMessage_moves C msg) fun _ _ _ _ => opening_of_move
    exact (kept _ begun).dated
  | _ => cases opens

theorem timedStep_dated {t : Timed Session} {l : Inputs × Label} (timely : Timely t l) (lives : Lives t l)
    (dated : DatedAt t l.1.now) {now : Nat} (later : DatedAt t now) : DatedAt (timedStep C t l) now := by
  obtain ⟨inputs, label⟩ := l
  unfold DatedAt
  cases opens : t.session.opens label with
  | false =>
    have same : (timedStep C t (inputs, label)).first = t.first := by simp [timedStep, opens]
    rw [same]
    exact @step_dated (some (t.first.getD now)) t.session C (inputs, label) timely opens later
  | true =>
    have same : (timedStep C t (inputs, label)).first = some (t.first.getD inputs.now) := by
      cases known : t.first <;> simp [timedStep, opens, known]
    rw [same]
    cases label with
    | message msg =>
      obtain ⟨inTime, counted⟩ := lives opens
      exact ready_dated opens inTime counted dated
    | _ => cases opens

/-! ### After the lifetime -/

theorem kind_of_traffic {o : Obs} (traffic : o.traffic = true) : o.kind = .sending := by
  cases o with
  | sent message frame disk =>
    obtain ⟨v, ch, ts, sender, body⟩ := message
    cases frame with
    | some sealedFrame => rfl
    | none => cases body <;> first | rfl | cases traffic
  | _ => cases traffic

theorem traffic_of_moves {ok : Kind → Prop} (sending : ¬ ok .sending) (made : Moves ok s t) :
    Run.Adds (fun o => o.traffic = false) s.trace t.trace := by
  induction made with
  | refl => exact Run.Adds.refl _
  | tail _ move ih =>
    obtain ⟨k, allowed, move⟩ := move
    refine ih.trans ?_
    cases move with
    | note o =>
      refine Run.Adds.single (Bool.eq_false_iff.mpr fun traffic => ?_)
      rw [kind_of_traffic traffic] at allowed
      exact allowed.elim nofun sending
    | _ => exact Run.Adds.refl _

theorem phase_of_moves {ok : Kind → Prop} (connects : ¬ ok (.phase .connected)) (made : Moves ok s t)
    (connected : t.phase = .connected) : s.phase = .connected := by
  induction made with
  | refl => exact connected
  | tail _ move ih =>
    obtain ⟨k, allowed, move⟩ := move
    cases move with
    | phase phase u =>
      subst connected
      exact allowed.elim nofun fun allowed => absurd allowed connects
    | _ => exact ih connected

/-- A request of a session that is not connected is refused. -/
theorem request_refused {method : String} {params : Option Json} (phase : s.phase ≠ .connected) :
    Moves Kind.aside s (after (request C method params) s) := by
  unfold request freshTicket
  rw [bind_assoc, after_get_bind, bind_assoc, after_modify_bind, after_pure_bind, after_get_bind, if_pos (Or.inl phase)]
  exact .head ⟨.plain, Or.inl rfl, Move.tick s⟩ (fail_moves _ _ _)

/-- The steps in which a session becomes connected: a new object counts as well. -/
def Becomes (s t : Session) (label : Label) : Bool :=
  t.phase = .connected ∧ (s.phase ≠ .connected ∨ label matches .crash)

variable {t : Timed Session} {l : Inputs × Label}

/-- After the lifetime no request is handed to the transport. -/
theorem timedStep_silent (timely : Timely t l) (lives : Lives t l) (dated : t.session.Dated t.first)
    (past : Timed.past t l.1.now) :
    Run.Adds (fun o => o.traffic = false) t.session.trace (timedStep C t l).session.trace := by
  obtain ⟨s, first⟩ := t
  obtain ⟨inputs, label⟩ := l
  have aside {last : Session} (made : Moves Kind.aside { s with inputs := inputs } last) :
      Run.Adds (fun o => o.traffic = false) s.trace last.trace :=
    traffic_of_moves (s := { s with inputs := inputs }) (fun h => h.2.1 rfl) made
  have quiet {m : M Unit} (start : Session) (made : Keeps (Moves (· ≠ .sending)) m) :
      Run.Adds (fun o => o.traffic = false) start.trace (after m start).trace :=
    traffic_of_moves (fun h => h rfl) (made start)
  cases label with
  | createPairing privateKey channelId deferTransport => exact timely.elim
  | restore snapshot => exact timely.elim
  | request method params =>
    have phase : s.phase ≠ .connected := fun connected => lives past connected (dated.disarmed past timely)
    exact aside (request_refused phase)
  | message msg =>
    have refused : s.acceptsReady msg = false := Bool.eq_false_iff.mpr fun accepts => (lives accepts).1 past.over
    exact aside (handleMessage_aside refused)
  | destroy =>
    have closed : Keeps (Preserve fun u => Run.Adds (fun o => o.traffic = false) s.trace u.trace) (close "normal") :=
      fun u before => before.trans (quiet u (close_moves _))
    have destroyed : Keeps (Preserve fun u => Run.Adds (fun o => o.traffic = false) s.trace u.trace) destroy :=
      .bind closed fun _ => .modify fun _ held => held
    exact destroyed { s with inputs := inputs } (Run.Adds.refl _)
  | flush ticket => exact Run.Adds.refl _
  | settle ticket ok =>
    change Run.Adds _ _ (after (settleCall C ticket ok) { s with inputs := inputs }).trace
    rcases settleCall_cases C ticket ok { s with inputs := inputs } with idle | ⟨call, found, ⟨goes, durable, run⟩ | ⟨-, run⟩⟩
    · rw [idle]
      exact Run.Adds.refl _
    · rw [run]
      have other := lives past goes call found durable
      refine quiet { s with inputs := inputs, journal := s.journal.remove ticket } (resume_moves C call.task ?_ (fun _ => ⟨nofun, nofun⟩) fun _ _ => nofun)
      cases task : call.task <;> simp [task, Task.requests, Task.kind] at other ⊢
    · rw [run]
      exact quiet { s with inputs := inputs, journal := s.journal.remove ticket } (fail_task_moves "save" call.task fun _ => nofun)
  | crash =>
    have empty : s.journal.disk.contents = none := Option.isNone_iff_eq_none.mp (lives past.over)
    have blank := restart_of_empty (s := { s with inputs := inputs }) empty
    change Run.Adds _ _ (after restart { s with inputs := inputs }).trace
    rw [blank]
    exact Run.Adds.refl _
  | _ => exact quiet { s with inputs := inputs } (fun s => moves_mono (by simp [Label.kinds]) (act_moves C _ rfl s))

/-- Once the lifetime is over the session does not become connected. -/
theorem timedStep_unconnected (timely : Timely t l) (lives : Lives t l) (ended : Timed.over t l.1.now) :
    Becomes t.session (timedStep C t l).session l.2 = false := by
  obtain ⟨s, first⟩ := t
  obtain ⟨inputs, label⟩ := l
  have still {last : Session} {label : Label} (old : (label matches .crash) = false)
      (kept : last.phase = .connected → s.phase = .connected) : Becomes s last label = false := by
    simpa [Becomes, old] using kept
  have moved {m : M Unit} (start : Session) (made : Keeps (Moves (· ≠ .phase .connected)) m)
      (connected : (after m start).phase = .connected) : start.phase = .connected :=
    phase_of_moves (fun h => h rfl) (made start) connected
  cases label with
  | createPairing privateKey channelId deferTransport => exact timely.elim
  | restore snapshot => exact timely.elim
  | message msg =>
    have refused : s.acceptsReady msg = false := Bool.eq_false_iff.mpr fun accepts => (lives accepts).1 ended
    have made : Moves Kind.aside { s with inputs := inputs } (after (handleMessage C msg) { s with inputs := inputs }) :=
      handleMessage_aside refused
    exact still rfl (phase_of_moves (s := { s with inputs := inputs }) (fun h => h.2.2 rfl) made)
  | destroy =>
    have closed : Keeps (Preserve fun u : Session => u.phase ≠ .connected) (close "normal") :=
      fun u before connected => before (moved u (close_moves _) connected)
    have destroyed : Keeps (Preserve fun u : Session => u.phase ≠ .connected) destroy :=
      .bind closed fun _ => .modify fun _ held => held
    exact still rfl fun connected => by_contra fun before => destroyed { s with inputs := inputs } before connected
  | flush ticket => exact still rfl id
  | settle ticket ok =>
    refine still rfl ?_
    change (after (settleCall C ticket ok) { s with inputs := inputs }).phase = .connected → _
    rcases settleCall_cases C ticket ok { s with inputs := inputs } with idle | ⟨call, -, ⟨-, -, run⟩ | ⟨-, run⟩⟩
    · rw [idle]
      exact id
    · rw [run]
      refine moved _ (resume_moves C call.task ?_ (fun _ => ⟨nofun, nofun⟩) fun _ _ => nofun)
      cases call.task <;> exact nofun
    · rw [run]
      exact moved _ (fail_task_moves "save" call.task fun _ => nofun)
  | crash =>
    have empty : s.journal.disk.contents = none := Option.isNone_iff_eq_none.mp (lives ended)
    have blank := restart_of_empty (s := { s with inputs := inputs }) empty
    change Becomes s (after restart { s with inputs := inputs }) .crash = false
    rw [blank]
    rfl
  | _ => exact still rfl (moved { s with inputs := inputs }
      (fun s => moves_mono (by simp [Label.kinds]) (act_moves C _ rfl s)))

/-- A step within the lifetime: after it no request is handed to the transport, and a
session whose lifetime is over does not become connected. -/
structure WithinLifetime (C : Crypto) (t : Timed Session) (l : Inputs × Label) : Prop where
  silent : Timed.past t l.1.now →
    ∀ o ∈ (timedStep C t l).session.trace.drop t.session.trace.length, o.traffic = false
  unconnected : Timed.over t l.1.now → Becomes t.session (timedStep C t l).session l.2 = false

instance (t : Timed Session) (l : Inputs × Label) : Decidable (WithinLifetime C t l) :=
  decidable_of_iff (_ ∧ _) ⟨fun both => ⟨both.1, both.2⟩, fun within => ⟨within.silent, within.unconnected⟩⟩

/-- A session that has just created a pairing; nobody has connected to that yet. -/
def created (C : Crypto) (s : Session) (inputs : Inputs) (privateKey : Bytes) (channelId : String)
    (deferTransport : Bool) : Timed Session :=
  ⟨step C s (inputs, .createPairing privateKey channelId deferTransport), none⟩

theorem created_dated {now : Nat} (earlier : s.Dated (some now)) (inputs : Inputs) (privateKey : Bytes) (channelId : String)
    (deferTransport : Bool) : DatedAt (created C s inputs privateKey channelId deferTransport) now := by
  have announced : Keeps (Preserve (Session.Dated (some now)))
      (announcePairing C (generateX25519KeyPair C privateKey) channelId deferTransport) :=
    dated_of_moves (announcePairing_moves nofun nofun C _ _ _)
  have made : Keeps (Preserve (Session.Dated (some now))) (createPairing C privateKey channelId deferTransport) :=
    .bind (.modify fun s dated => ⟨nofun, nofun, dated.stored⟩) fun _ => announced
  exact made { s with inputs := inputs } ⟨earlier.started, earlier.deadline, earlier.stored⟩

/-- A new object remembers nothing. -/
theorem new_dated (options : Options) (now : Nat) : (Session.new options).Dated (some now) := Dated.blank

theorem run_within_lifetime {start : Timed Session} {labels : List (Inputs × Label)}
    (dated : ∀ l ∈ labels, DatedAt start l.1.now)
    (admitted : Run.Along (timedStep C) (fun t l => Timely t l ∧ Lives t l) start labels) :
    Run.Along (timedStep C) (WithinLifetime C) start labels := by
  induction labels generalizing start with
  | nil => trivial
  | cons l rest ih =>
    obtain ⟨⟨timely, lives⟩, later⟩ := admitted
    have now : DatedAt start l.1.now := dated l (by simp)
    refine ⟨⟨fun past o new => ?_, timedStep_unconnected timely lives⟩,
      ih (fun l' mem => timedStep_dated timely lives now (dated l' (by simp [mem]))) later⟩
    have known : start.first = some (start.first.getD l.1.now) := by
      obtain ⟨begun, opened, -⟩ := past
      rw [Option.mem_def.mp opened]
      rfl
    obtain ⟨added, same, all⟩ := timedStep_silent (C := C) timely lives (known ▸ now) past
    rw [same, List.drop_left] at new
    exact all o new

end

end WalletPair.Sdk.DApp
