import WalletPair.Sdk.FrameSizes
import WalletPair.Sdk.Wallet.Refusals
import WalletPair.Sdk.Wallet.Stale

/-! What the wallet tells about its frames. The size check sits below every sender and
reports only through an event, so a frame that is too large counts as sent: the call
answers `true` and the response is recorded. -/

namespace WalletPair.Sdk
open WalletPair.Lib WalletPair.Lib.Program

namespace Wallet

/-! ### Results -/

section Results
variable (C : Crypto)

/-- The calls of the application that tell whether their frame was sent. -/
inductive Submission where
  | approve (id : String) (result : Option Json)
  | reject (id code message : String)
  | pushEvent (name : String) (data : Option Json)

def Submission.label : Submission → Label
  | .approve id result => .approve id result
  | .reject id code message => .reject id code message
  | .pushEvent name data => .pushEvent name data

/-- What `sendResponse` returns once the caller has recorded the response; nothing stands
for a promise, which the continuation of the save settles. -/
def respond (id : String) (ok : Bool) (data : Option Json) (caches observed : Bool) : M (Option Bool) := do
  let s ← get
  if s.sendKey = none then return some false
  match ← nextSendSeq (.respond id ok data caches observed) with
  | .reserved seq => some <$> sendAnswer C id ok data caches seq
  | .exhausted => return some false
  | .waits => return none

/-- What a call returns. -/
def Submission.perform : Submission → M (Option Bool)
  | .approve id result => do
    record (.approving id result)
    respond C id true result true false
  | .reject id code message => respond C id false (some (errorData code message)) true false
  | .pushEvent name data => do
    let s ← get
    if s.phase ≠ .connected ∨ s.sendKey = none then return some false
    let evtId := "evt-" ++ toString (s.evtCounter + 1)
    let reservation ← nextSendSeq (.event name data evtId)
    modify fun s => { s with evtCounter := s.evtCounter + 1 }
    match reservation with
    | .reserved seq => some <$> sendSealed C .evt evtId seq (eventPayload name data) (.evt (some evtId))
    | .exhausted => return some false
    | .waits => return none

/-- What the promise of a call resolves to after its save. -/
def Task.promised : Task → M (Option Bool)
  | .respond id ok data caches _ seq => some <$> sendAnswer C id ok data caches seq
  | .event name data evtId seq => some <$> sendSealed C .evt evtId seq (eventPayload name data) (.evt (some evtId))
  | _ => return none

theorem respond_discard (id : String) (ok : Bool) (data : Option Json) (caches observed : Bool) :
    (do let _ ← respond C id ok data caches observed) = sendResponse C id ok data caches observed := by
  unfold respond sendResponse
  rw [bind_assoc]
  congr 1
  funext s
  split
  · rfl
  · rw [bind_assoc]
    congr 1
    funext reservation
    cases reservation with
    | reserved seq => simp only [map_eq_pure_bind, bind_assoc, pure_bind]
    | exhausted => rfl
    | waits => rfl

/-- The continuations of these calls do what settles their promises. -/
theorem resume_promised (task : Task) (promises : task.kind = .sending) :
    ∃ handler, resume C task = tryCatch (do let _ ← task.promised C) handler := by
  cases task with
  | respond id ok data caches observed seq =>
    refine ⟨fun e => observeSend observed e, ?_⟩
    simp only [resume, Task.promised, map_eq_pure_bind, bind_assoc, pure_bind]
  | event name data evtId seq =>
    refine ⟨fun _ => return, ?_⟩
    simp only [resume, sendEvent, Task.promised, map_eq_pure_bind, bind_assoc, pure_bind]
  | request frame data prevRecvSeq => cases promises
  | join channelId sender ts sealedJoin reconnecting => cases promises
  | snapshot => cases promises
  | cleared => cases promises

/-- The calls do what the session's methods do. -/
theorem act_submission (submission : Submission) :
    act C submission.label = (do let _ ← submission.perform C) := by
  cases submission with
  | approve id result =>
    rw [Submission.label, act, approve, Submission.perform, bind_assoc]
    congr 1
    funext _
    exact (respond_discard C id true result true false).symm
  | reject id code message => exact (respond_discard C id false _ true false).symm
  | pushEvent name data =>
    rw [Submission.label, act, pushEvent, Submission.perform, bind_assoc]
    congr 1
    funext s
    split
    · rfl
    · dsimp only
      rw [bind_assoc]
      congr 1
      funext reservation
      rw [bind_assoc]
      congr 1
      funext _
      cases reservation with
      | reserved seq => simp only [sendEvent, map_eq_pure_bind, bind_assoc, pure_bind]
      | exhausted => rfl
      | waits => rfl

/-! ### Handing a frame over -/

/-- A sealed frame of this type and id went to the transport. -/
def HandedOver (type : AadType) (id : String) (s t : Session) : Prop :=
  ∃ message frame disk, Obs.sent message (some frame) disk ∈ t.trace.drop s.trace.length ∧
    frame.header.type = type ∧ frame.header.id = id

/-- The program answers `true`, and records a response, only when its frame was handed over. -/
structure Truthful (type : AadType) (id : String) (m : M (Option Bool)) (s : Session) : Prop where
  answer : ∀ t, m s = .ok (some true) t → HandedOver type id s t
  recorded : ∀ key entry, Obs.recorded key entry ∈ (after m s).trace.drop s.trace.length →
    HandedOver type id s (after m s)

/-- The frame seals and is larger than the transport takes, and no listener throws at that. -/
def Session.drops (s : Session) (type : AadType) (id : String) (seq : Nat) (payload : Json)
    (body : Option String → Body) : Bool :=
  match s.sendKey with
  | none => false
  | some sendKey =>
    match sealPayload C sendKey s.channelId seq payload ⟨type, s.pubKeyB64, id⟩ with
    | .error _ => false
    | .ok (envelope, _) =>
      maxMessageBytes < frameBytes s.channelId s.inputs.now s.pubKeyB64 (body (some envelope)) && s.hears

/-- What sealing and sending can do. -/
theorem sendSealed_outcomes (s : Session) (type : AadType) (id : String) (seq : Nat) (payload : Json)
    (body : Option String → Body) :
    (s.drops C type id seq payload body = false ∧
      (sendSealed C type id seq payload body s = .ok false s ∨
        (∃ e t, sendSealed C type id seq payload body s = .error e t ∧
          ∃ more, t.trace = s.trace ++ more ∧ ∀ o ∈ more, ∀ key entry, o ≠ .recorded key entry) ∨
        ∃ t, sendSealed C type id seq payload body s = .ok true t ∧ HandedOver type id s t ∧ s.trace <+: t.trace)) ∨
    (s.drops C type id seq payload body = true ∧
      ∃ t more, sendSealed C type id seq payload body s = .ok true t ∧ t.trace = s.trace ++ more ∧
        ∀ o ∈ more, ∀ message frame disk, o ≠ .sent message (some frame) disk) := by
  unfold Session.drops
  cases keyed : s.sendKey with
  | none =>
    left
    refine ⟨rfl, .inl ?_⟩
    unfold sendSealed
    rw [get_bind_apply, keyed]
    rfl
  | some sendKey =>
    dsimp only
    cases made : sealPayload C sendKey s.channelId seq payload ⟨type, s.pubKeyB64, id⟩ with
    | error e =>
      left
      refine ⟨rfl, .inr (.inl ⟨e, s, ?_, [], by simp, by simp⟩)⟩
      unfold sendSealed
      rw [get_bind_apply, keyed]
      dsimp only
      rw [made]
      rfl
    | ok pair =>
      obtain ⟨envelope, plaintext⟩ := pair
      let frame : Sealed := ⟨sendKey, seq, s.channelId, ⟨type, s.pubKeyB64, id⟩, plaintext, none⟩
      have run : sendSealed C type id seq payload body s =
          (sendRaw (body (some envelope)) (some frame) >>= fun _ => (pure true : M Bool))
            { s with trace := s.trace ++ [.sealing frame] } := by
        unfold sendSealed
        conv_lhs => rw [get_bind_apply, keyed]
        dsimp only
        rw [made]
        rfl
      by_cases fits : frameBytes s.channelId s.inputs.now s.pubKeyB64 (body (some envelope)) ≤ maxMessageBytes
      · left
        have handed := sendRaw_fits (s := { s with trace := s.trace ++ [.sealing frame] }) (some frame) fits
        rw [bind_of_ok handed] at run
        refine ⟨by simp [Nat.not_lt_of_le fits], .inr (.inr ⟨_, run, ?_, ?_⟩)⟩
        · exact ⟨⟨1, s.channelId, s.inputs.now, s.pubKeyB64, body (some envelope)⟩, frame, s.journal.disk, by simp, rfl, rfl⟩
        · simp
      · have lost := sendRaw_large (s := { s with trace := s.trace ++ [.sealing frame] }) (some frame) fits
        rw [emit_apply] at lost
        have same : Session.hears { s with trace := s.trace ++ [.sealing frame] } = s.hears := rfl
        rw [same] at lost
        cases heard : s.hears with
        | true =>
          right
          rw [heard, if_pos rfl] at lost
          rw [bind_of_ok lost] at run
          obtain ⟨more, grown, plain⟩ : ∃ more, (Session.emitting { s with trace := s.trace ++ [.sealing frame] }
              (.error "Message exceeds 64 KB limit")).trace = s.trace ++ more ∧
              ∀ o ∈ more, ∀ message frame disk, o ≠ .sent message (some frame) disk := by
            unfold Session.emitting
            split
            · exact ⟨[.sealing frame], rfl, by simp⟩
            · exact ⟨[.sealing frame, .emitted (.error "Message exceeds 64 KB limit")], by simp, by simp⟩
          exact ⟨by simpa using fits, _, more, run, grown, plain⟩
        | false =>
          left
          rw [heard, if_neg (by decide)] at lost
          rw [bind_of_error lost] at run
          obtain ⟨more, grown, plain⟩ : ∃ more, (Session.emitting { s with trace := s.trace ++ [.sealing frame] }
              (.error "Message exceeds 64 KB limit")).trace = s.trace ++ more ∧
              ∀ o ∈ more, ∀ key entry, o ≠ .recorded key entry := by
            unfold Session.emitting
            split
            · exact ⟨[.sealing frame], rfl, by simp⟩
            · exact ⟨[.sealing frame, .emitted (.error "Message exceeds 64 KB limit")], by simp, by simp⟩
          exact ⟨by simp, .inr (.inl ⟨_, _, run, more, grown, plain⟩)⟩

/-- Recording an answer sends nothing. -/
theorem cacheProcessedResponse_apply (id : String) (ok : Bool) (data : Option Json) (s : Session) :
    ∃ t more, cacheProcessedResponse id ok data s = .ok () t ∧ t.trace = s.trace ++ more ∧
      ∀ o ∈ more, ∀ message frame disk, o ≠ .sent message (some frame) disk := by
  unfold cacheProcessedResponse
  rw [get_bind_apply]
  cases s.pendingRequestRecords.get id with
  | none => exact ⟨s, [], rfl, by simp, by simp⟩
  | some pending =>
    dsimp only
    unfold record
    rw [modify_bind_apply, modify_bind_apply]
    split
    · rw [modify_bind_apply]
      exact ⟨_, _, rfl, List.append_assoc _ _ _, by simp⟩
    · exact ⟨_, _, rfl, rfl, by simp⟩

theorem handedOver_mono {type : AadType} {id : String} {s t u : Session} (handed : HandedOver type id s t)
    (start : s.trace <+: t.trace) (grown : t.trace <+: u.trace) : HandedOver type id s u := by
  obtain ⟨message, frame, disk, sent, named⟩ := handed
  obtain ⟨more, first⟩ := start
  obtain ⟨later, second⟩ := grown
  refine ⟨message, frame, disk, ?_, named⟩
  rw [← first, List.drop_left] at sent
  rw [← second, ← first, List.append_assoc, List.drop_left]
  exact List.mem_append_left _ sent

/-- Nothing in the new part of the record is a sealed frame. -/
theorem not_handedOver {type : AadType} {id : String} {s t : Session} {more : List Obs} (grown : t.trace = s.trace ++ more)
    (silent : ∀ o ∈ more, ∀ message frame disk, o ≠ .sent message (some frame) disk) : ¬ HandedOver type id s t := by
  rintro ⟨message, frame, disk, sent, -⟩
  rw [grown, List.drop_left] at sent
  exact silent _ sent message frame disk rfl

/-- A program that does not answer `true` and records nothing is truthful. -/
theorem truthful_of_quiet {type : AadType} {id : String} {m : M (Option Bool)} {s : Session}
    (answer : ∀ t, m s ≠ .ok (some true) t) (more : List Obs) (grown : (after m s).trace = s.trace ++ more)
    (plain : ∀ o ∈ more, ∀ key entry, o ≠ .recorded key entry) : Truthful type id m s where
  answer := fun t run => absurd run (answer t)
  recorded := fun key entry member => by
    rw [grown, List.drop_left] at member
    exact absurd rfl (plain _ member key entry)

theorem truthful_of_handed {type : AadType} {id : String} {m : M (Option Bool)} {s t : Session} {answer : Option Bool}
    (run : m s = .ok answer t) (handed : HandedOver type id s t) : Truthful type id m s where
  answer := fun u run' => by
    rw [run] at run'
    cases run'
    exact handed
  recorded := fun _ _ _ => by
    rw [after_of_ok run]
    exact handed

/-- An event is reported truthfully exactly when its frame is not dropped. -/
theorem sendSealed_truthful_iff (s : Session) (type : AadType) (id : String) (seq : Nat) (payload : Json)
    (body : Option String → Body) :
    Truthful type id (some <$> sendSealed C type id seq payload body) s ↔ s.drops C type id seq payload body = false := by
  rcases sendSealed_outcomes C s type id seq payload body with
    ⟨kept, run | ⟨e, t, run, more, grown, plain⟩ | ⟨t, run, handed, -⟩⟩ | ⟨dropped, t, more, run, grown, silent⟩
  · refine iff_of_true ?_ kept
    have mapped : (some <$> sendSealed C type id seq payload body) s = .ok (some false) s := by
      rw [map_eq_pure_bind, bind_of_ok run]
      rfl
    refine truthful_of_quiet (fun t run' => ?_) [] (by rw [after_of_ok mapped, List.append_nil]) (by simp)
    rw [mapped] at run'
    cases run'
  · refine iff_of_true ?_ kept
    have mapped : (some <$> sendSealed C type id seq payload body) s = .error e t := by
      rw [map_eq_pure_bind, bind_of_error run]
    refine truthful_of_quiet (fun u run' => ?_) more (by rw [after_of_error mapped]; exact grown) plain
    rw [mapped] at run'
    cases run'
  · refine iff_of_true ?_ kept
    have mapped : (some <$> sendSealed C type id seq payload body) s = .ok (some true) t := by
      rw [map_eq_pure_bind, bind_of_ok run]
      rfl
    exact truthful_of_handed mapped handed
  · refine iff_of_false (fun truthful => ?_) (by rw [dropped]; decide)
    have mapped : (some <$> sendSealed C type id seq payload body) s = .ok (some true) t := by
      rw [map_eq_pure_bind, bind_of_ok run]
      rfl
    exact not_handedOver grown silent (truthful.answer t mapped)

/-- An answer is reported and recorded truthfully exactly when its frame is not dropped. -/
theorem sendAnswer_truthful_iff (s : Session) (id : String) (ok : Bool) (data : Option Json) (caches : Bool) (seq : Nat) :
    Truthful .res id (some <$> sendAnswer C id ok data caches seq) s ↔
      s.drops C .res id seq (responsePayload ok data) (.res (some id)) = false := by
  have stopped {e : String} {t : Session}
      (run : sendSealed C .res id seq (responsePayload ok data) (.res (some id)) s = .error e t) :
      (some <$> sendAnswer C id ok data caches seq) s = .error e t := by
    rw [map_eq_pure_bind, bind_of_error]
    exact bind_of_error run
  have refused (run : sendSealed C .res id seq (responsePayload ok data) (.res (some id)) s = .ok false s) :
      (some <$> sendAnswer C id ok data caches seq) s = .ok (some false) s := by
    rw [map_eq_pure_bind]
    have answered : sendAnswer C id ok data caches seq s = .ok false s := by
      unfold sendAnswer
      rw [bind_of_ok run]
      rfl
    rw [bind_of_ok answered]
    rfl
  -- after the frame only the caches are written
  have answered {t : Session} (run : sendSealed C .res id seq (responsePayload ok data) (.res (some id)) s = .ok true t) :
      ∃ u more, (some <$> sendAnswer C id ok data caches seq) s = .ok (some true) u ∧ u.trace = t.trace ++ more ∧
        ∀ o ∈ more, ∀ message frame disk, o ≠ .sent message (some frame) disk := by
    rw [map_eq_pure_bind]
    cases caches with
    | false =>
      have answered : sendAnswer C id ok data false seq s = .ok true t := by
        unfold sendAnswer
        rw [bind_of_ok run]
        rfl
      rw [bind_of_ok answered]
      exact ⟨t, [], rfl, by simp, by simp⟩
    | true =>
      obtain ⟨u, more, cached, grown, silent⟩ := cacheProcessedResponse_apply id ok data t
      have answered : sendAnswer C id ok data true seq s = .ok true u := by
        unfold sendAnswer
        rw [bind_of_ok run]
        dsimp only
        rw [if_pos ⟨rfl, rfl⟩, bind_of_ok cached]
        rfl
      rw [bind_of_ok answered]
      exact ⟨u, more, rfl, grown, silent⟩
  rcases sendSealed_outcomes C s .res id seq (responsePayload ok data) (.res (some id)) with
    ⟨kept, run | ⟨e, t, run, more, grown, plain⟩ | ⟨t, run, handed, start⟩⟩ | ⟨dropped, t, more, run, grown, silent⟩
  · refine iff_of_true (truthful_of_quiet (fun t run' => ?_) [] ?_ (by simp)) kept
    · rw [refused run] at run'
      cases run'
    · rw [after_of_ok (refused run), List.append_nil]
  · refine iff_of_true (truthful_of_quiet (fun u run' => ?_) more ?_ plain) kept
    · rw [stopped run] at run'
      cases run'
    · rw [after_of_error (stopped run)]
      exact grown
  · obtain ⟨u, more, made, grown, -⟩ := answered run
    exact iff_of_true (truthful_of_handed made (handedOver_mono handed start ⟨more, grown.symm⟩)) kept
  · refine iff_of_false (fun truthful => ?_) (by rw [dropped]; decide)
    obtain ⟨u, later, made, grown', silent'⟩ := answered run
    have all : u.trace = s.trace ++ (more ++ later) := by rw [grown', grown, List.append_assoc]
    refine not_handedOver all (fun o member => ?_) (truthful.answer u made)
    rcases List.mem_append.mp member with first | second
    · exact silent o first
    · exact silent' o second

/-! ### Calls -/

/-- The session reserves a number and goes on at once. -/
def Session.sendsNow (s : Session) : Bool :=
  s.sendSeq < maxSendSeq && !s.savesLater && (s.options.persistence.isNone || s.privKey.isSome)

/-- A number is reserved at once, or no frame is sent before the call returns. -/
theorem nextSendSeq_outcomes (s : Session) (task : Nat → Task) :
    (s.sendsNow = true ∧ ∃ journal ticket, nextSendSeq task s = .ok (.reserved s.sendSeq)
      { s with sendSeq := s.sendSeq + 1, journal := journal, ticket := ticket }) ∨
    (s.sendsNow = false ∧ ((∃ t, nextSendSeq task s = .ok .exhausted t ∨ nextSendSeq task s = .ok .waits t) ∨
      ∃ e t, nextSendSeq task s = .error e t)) := by
  unfold Session.sendsNow
  by_cases room : s.sendSeq < maxSendSeq
  · by_cases paired : s.options.persistence ≠ none → s.privKey ≠ none
    · obtain ⟨journal, ticket, run⟩ := nextSendSeq_room room paired task
      have keyed : (s.options.persistence.isNone || s.privKey.isSome) = true := by
        cases configured : s.options.persistence with
        | none => rfl
        | some adapter =>
          have known := paired (by rw [configured]; exact Option.some_ne_none _)
          simpa [Option.isSome_iff_ne_none] using known
      cases later : s.savesLater with
      | true =>
        rw [later, if_pos rfl] at run
        exact .inr ⟨by simp, .inl ⟨_, .inr run⟩⟩
      | false =>
        rw [later, if_neg (by decide)] at run
        exact .inl ⟨by simp [room, keyed], journal, ticket, run⟩
    · have stuck : s.options.persistence ≠ none ∧ s.privKey = none := by simpa using paired
      right
      obtain ⟨adapter, configured⟩ := Option.ne_none_iff_exists'.mp stuck.1
      refine ⟨by simp [configured, stuck.2], .inr ?_⟩
      have missing : Session.serialize { s with sendSeq := s.sendSeq + 1 } = none := by
        simp [Session.serialize, stuck.2]
      have run : nextSendSeq task s = .error "serialize" { s with sendSeq := s.sendSeq + 1 } := by
        unfold nextSendSeq
        rw [get_bind_apply, if_neg (Nat.not_le_of_lt room), modify_bind_apply]
        exact bind_of_error (by simp [persistSnapshot, configured, missing])
      exact ⟨_, _, run⟩
  · right
    refine ⟨by simp [room], ?_⟩
    unfold nextSendSeq
    rw [get_bind_apply, if_pos (Nat.le_of_not_lt room)]
    cases report : emit (.error "Send sequence overflow/limit reached — session invalidated") s with
    | error e t => exact .inr ⟨e, t, bind_of_error report⟩
    | ok _ t =>
      rw [bind_of_ok report]
      cases shut : close "normal" t with
      | error e u => exact .inr ⟨e, u, bind_of_error shut⟩
      | ok _ u => exact .inl ⟨u, .inl (by rw [bind_of_ok shut]; rfl)⟩

/-- A program that goes on as another one, from a session whose record is only longer by what
neither sends nor records. -/
theorem truthful_congr {type : AadType} {id : String} {m n : M (Option Bool)} {s u : Session} (same : m s = n u)
    (more : List Obs) (grown : u.trace = s.trace ++ more) (later : u.trace <+: (after n u).trace)
    (silent : ∀ o ∈ more, ∀ message frame disk, o ≠ .sent message (some frame) disk)
    (plain : ∀ o ∈ more, ∀ key entry, o ≠ .recorded key entry) : Truthful type id m s ↔ Truthful type id n u := by
  have last : after m s = after n u := by
    unfold after
    rw [same]
  have split {o : Obs} (other : o ∉ more) : o ∈ (after n u).trace.drop s.trace.length ↔
      o ∈ (after n u).trace.drop u.trace.length := by
    obtain ⟨rest, spelled⟩ := later
    rw [← spelled, List.drop_left, grown, List.append_assoc, List.drop_left, List.mem_append]
    exact or_iff_right other
  have handed : HandedOver type id s (after n u) ↔ HandedOver type id u (after n u) := by
    unfold HandedOver
    refine exists_congr fun message => exists_congr fun frame => exists_congr fun disk => and_congr_left fun _ => ?_
    exact split fun member => silent _ member message frame disk rfl
  have ended {t : Session} (run : n u = .ok (some true) t) : t = after n u := (after_of_ok run).symm
  constructor
  · intro truthful
    refine ⟨fun t run => ?_, fun key entry member => ?_⟩
    · rw [ended run, ← handed, ← ended run]
      exact truthful.answer t (same.trans run)
    · rw [← handed, ← last]
      refine truthful.recorded key entry ?_
      rw [last, split fun other => plain _ other key entry rfl]
      exact member
  · intro truthful
    refine ⟨fun t run => ?_, fun key entry member => ?_⟩
    · have run' := same.symm.trans run
      rw [ended run', handed, ← ended run']
      exact truthful.answer t run'
    · rw [last, handed]
      refine truthful.recorded key entry ?_
      rw [last, split fun other => plain _ other key entry rfl] at member
      exact member

theorem truthful_of_eq {type : AadType} {id : String} {m n : M (Option Bool)} {s : Session} (same : m s = n s) :
    Truthful type id m s ↔ Truthful type id n s := by
  have last : after m s = after n s := by
    unfold after
    rw [same]
  constructor
  · rintro ⟨answer, recorded⟩
    refine ⟨fun t run => answer t (same.trans run), ?_⟩
    rw [← last]
    exact recorded
  · rintro ⟨answer, recorded⟩
    refine ⟨fun t run => answer t (same.symm.trans run), ?_⟩
    rw [last]
    exact recorded

/-- A call that reserves a number: it is truthful unless the frame it goes on to send is not. -/
theorem reserving_truthful_iff {type : AadType} {id : String} {task : Nat → Task} (held : ∀ n, (task n).kind = .sending)
    {next : Reservation → M (Option Bool)} {s : Session} {kept : Prop}
    (idle : ∀ r, r = .exhausted ∨ r = .waits → ∀ t, ∃ a u, next r t = .ok a u ∧ a ≠ some true ∧ u.trace = t.trace)
    (sends : ∀ journal ticket, Truthful type id (next (.reserved s.sendSeq))
      { s with sendSeq := s.sendSeq + 1, journal := journal, ticket := ticket } ↔ kept)
    (grows : Keeps Grows (next (.reserved s.sendSeq))) :
    Truthful type id (nextSendSeq task >>= next) s ↔ (s.sendsNow = true → kept) := by
  have moved : Moves (Eq Kind.sending) s (after (nextSendSeq task) s) := nextSendSeq_moves rfl task held s
  obtain ⟨more, grown, kinds⟩ := notes_of_moves moved
  have plain : ∀ o ∈ more, ∀ key entry, o ≠ .recorded key entry := by
    rintro o member key entry rfl
    rcases kinds _ member with quiet | sending
    · cases quiet
    · cases sending
  have waiting {r : Reservation} {t : Session} (idles : r = .exhausted ∨ r = .waits) (run : nextSendSeq task s = .ok r t) :
      Truthful type id (nextSendSeq task >>= next) s := by
    obtain ⟨a, u, run', other, same⟩ := idle r idles t
    have whole : (nextSendSeq task >>= next) s = .ok a u := by rw [bind_of_ok run, run']
    refine truthful_of_quiet (fun v again => ?_) more ?_ plain
    · rw [whole] at again
      cases again
      exact other rfl
    · rw [after_of_ok whole, same, ← after_of_ok run, grown]
  rcases nextSendSeq_outcomes s task with ⟨now, journal, ticket, run⟩ | ⟨later, ⟨t, run | run⟩ | ⟨e, t, run⟩⟩
  · have same : (nextSendSeq task >>= next) s =
        next (.reserved s.sendSeq) { s with sendSeq := s.sendSeq + 1, journal := journal, ticket := ticket } :=
      bind_of_ok run
    rw [truthful_congr same [] (by simp) (grows _) (by simp) (by simp), sends journal ticket]
    exact ⟨fun held _ => held, fun held => held now⟩
  · exact iff_of_true (waiting (.inl rfl) run) fun now => by rw [later] at now; cases now
  · exact iff_of_true (waiting (.inr rfl) run) fun now => by rw [later] at now; cases now
  · refine iff_of_true ?_ fun now => by rw [later] at now; cases now
    have whole : (nextSendSeq task >>= next) s = .error e t := bind_of_error run
    refine truthful_of_quiet (fun v again => ?_) more ?_ plain
    · rw [whole] at again
      cases again
    · rw [after_of_error whole, ← after_of_error run, grown]

/-- The frame of an answer is lost: it is sealed at once, too large, and nobody throws. -/
def Session.losesAnswer (s : Session) (id : String) (ok : Bool) (data : Option Json) : Bool :=
  s.sendsNow && s.drops C .res id s.sendSeq (responsePayload ok data) (.res (some id))

instance : IsTrans Session Grows := ⟨fun _ _ _ => List.IsPrefix.trans⟩

theorem sendAnswer_grows (id : String) (ok : Bool) (data : Option Json) (caches : Bool) (seq : Nat) :
    Keeps Grows (some <$> sendAnswer C id ok data caches seq) := by
  intro s
  have grown := grows_of_moves (sendAnswer_moves C trivial trivial id ok data caches seq) s
  rw [map_eq_pure_bind, after_bind_pure]
  exact grown

theorem sendSealed_grows (type : AadType) (id : String) (seq : Nat) (payload : Json) (body : Option String → Body) :
    Keeps Grows (some <$> sendSealed C type id seq payload body) := by
  intro s
  have grown := grows_of_moves (sendSealed_moves C trivial type id seq payload body) s
  rw [map_eq_pure_bind, after_bind_pure]
  exact grown

/-- What follows the reservation of an answer's number. -/
def answering (id : String) (ok : Bool) (data : Option Json) (caches : Bool) : Reservation → M (Option Bool)
  | .reserved seq => some <$> sendAnswer C id ok data caches seq
  | .exhausted => return some false
  | .waits => return none

theorem respond_truthful_iff (s : Session) (id : String) (ok : Bool) (data : Option Json)
    (caches observed : Bool) :
    Truthful .res id (respond C id ok data caches observed) s ↔ s.losesAnswer C id ok data = false := by
  cases keyed : s.sendKey with
  | none =>
    have run : respond C id ok data caches observed s = .ok (some false) s := by
      unfold respond
      rw [get_bind_apply, if_pos keyed]
      rfl
    refine iff_of_true (truthful_of_quiet (fun t again => ?_) [] ?_ (by simp)) ?_
    · rw [run] at again
      cases again
    · rw [after_of_ok run, List.append_nil]
    · simp [Session.losesAnswer, Session.drops, keyed]
  | some sendKey =>
    have same : respond C id ok data caches observed s = (nextSendSeq (.respond id ok data caches observed) >>= answering C id ok data caches) s := by
      unfold respond
      rw [get_bind_apply, if_neg (by rw [keyed]; exact Option.some_ne_none _)]
      rfl
    have reserving : Truthful .res id (nextSendSeq (.respond id ok data caches observed) >>= answering C id ok data caches) s ↔
        (s.sendsNow = true → s.drops C .res id s.sendSeq (responsePayload ok data) (.res (some id)) = false) := by
      refine reserving_truthful_iff (fun _ => rfl) ?_ ?_ (sendAnswer_grows C id ok data caches s.sendSeq)
      · rintro r (rfl | rfl) t
        · exact ⟨some false, t, rfl, by decide, rfl⟩
        · exact ⟨none, t, rfl, by decide, rfl⟩
      · intro journal ticket
        exact sendAnswer_truthful_iff C _ id ok data caches s.sendSeq
    rw [truthful_of_eq same, reserving]
    unfold Session.losesAnswer
    cases s.sendsNow <;> simp

theorem respond_grows (id : String) (ok : Bool) (data : Option Json)
    (caches observed : Bool) : Keeps Grows (respond C id ok data caches observed) := by
  refine .bind .get fun _ => .ite (.pure _) (.bind (grows_of_moves (nextSendSeq_moves trivial _ fun _ => rfl)) ?_)
  intro reservation
  cases reservation with
  | reserved seq => exact sendAnswer_grows C id ok data caches seq
  | exhausted => exact .pure _
  | waits => exact .pure _

def Submission.type : Submission → AadType
  | .approve _ _ => .res
  | .reject _ _ _ => .res
  | .pushEvent _ _ => .evt

/-- The id of the frame of a call. -/
def Submission.id (s : Session) : Submission → String
  | .approve id _ => id
  | .reject id _ _ => id
  | .pushEvent _ _ => "evt-" ++ toString (s.evtCounter + 1)

/-- The call goes on to a frame that is too large. -/
def Session.loses (s : Session) : Submission → Bool
  | .approve id result => s.losesAnswer C id true result
  | .reject id code message => s.losesAnswer C id false (some (errorData code message))
  | .pushEvent name data => s.phase = .connected && s.sendsNow &&
    s.drops C .evt (Submission.id s (.pushEvent name data)) s.sendSeq (eventPayload name data)
      (.evt (some (Submission.id s (.pushEvent name data))))

/-- What follows the reservation of an event's number. -/
def pushing (name : String) (data : Option Json) (evtId : String) (reservation : Reservation) : M (Option Bool) := do
  modify fun s => { s with evtCounter := s.evtCounter + 1 }
  match reservation with
  | .reserved seq => some <$> sendSealed C .evt evtId seq (eventPayload name data) (.evt (some evtId))
  | .exhausted => return some false
  | .waits => return none

theorem pushEvent_truthful_iff (s : Session) (name : String) (data : Option Json) :
    Truthful .evt (Submission.id s (.pushEvent name data)) (Submission.perform C (.pushEvent name data)) s ↔
      s.loses C (.pushEvent name data) = false := by
  by_cases idle : s.phase ≠ .connected ∨ s.sendKey = none
  · have run : Submission.perform C (.pushEvent name data) s = .ok (some false) s := by
      rw [Submission.perform, get_bind_apply, if_pos idle]
      rfl
    refine iff_of_true (truthful_of_quiet (fun t again => ?_) [] ?_ (by simp)) ?_
    · rw [run] at again
      cases again
    · rw [after_of_ok run, List.append_nil]
    · rcases idle with other | missing
      · simp [Session.loses, other]
      · simp [Session.loses, Session.drops, missing]
  · obtain ⟨live, keyed⟩ := not_or.mp idle
    set evtId := Submission.id s (.pushEvent name data) with named
    have same : Submission.perform C (.pushEvent name data) s =
        (nextSendSeq (.event name data evtId) >>= pushing C name data evtId) s := by
      rw [Submission.perform, get_bind_apply, if_neg idle]
      rfl
    have reserving : Truthful .evt evtId (nextSendSeq (.event name data evtId) >>= pushing C name data evtId) s ↔
        (s.sendsNow = true → s.drops C .evt evtId s.sendSeq (eventPayload name data) (.evt (some evtId)) = false) := by
      refine reserving_truthful_iff (fun _ => rfl) ?_ ?_ ?_
      · rintro r (rfl | rfl) t
        · exact ⟨some false, _, rfl, by decide, rfl⟩
        · exact ⟨none, _, rfl, by decide, rfl⟩
      · intro journal ticket
        have counted : pushing C name data evtId (.reserved s.sendSeq)
            { s with sendSeq := s.sendSeq + 1, journal := journal, ticket := ticket } =
            (some <$> sendSealed C .evt evtId s.sendSeq (eventPayload name data) (.evt (some evtId)))
              { s with sendSeq := s.sendSeq + 1, journal := journal, ticket := ticket, evtCounter := s.evtCounter + 1 } := rfl
        rw [truthful_congr counted [] (by simp) (sendSealed_grows C .evt evtId s.sendSeq _ _ _) (by simp) (by simp)]
        exact sendSealed_truthful_iff C _ .evt evtId s.sendSeq _ _
      · exact .bind (.modify fun _ => List.prefix_rfl) fun _ => sendSealed_grows C .evt evtId s.sendSeq _ _
    rw [truthful_of_eq same, reserving]
    have connected : s.phase = .connected := by simpa using live
    simp only [Session.loses, connected, ← named]
    cases s.sendsNow <;> simp

/-- A call is truthful unless its frame seals at once and is too large. -/
theorem perform_truthful_iff (s : Session) (submission : Submission) :
    Truthful submission.type (submission.id s) (submission.perform C) s ↔ s.loses C submission = false := by
  cases submission with
  | approve id result =>
    have same : Submission.perform C (.approve id result) s =
        respond C id true result true false { s with trace := s.trace ++ [.approving id result] } := rfl
    have noted : Truthful .res id (Submission.perform C (.approve id result)) s ↔
        Truthful .res id (respond C id true result true false) { s with trace := s.trace ++ [.approving id result] } :=
      truthful_congr same [.approving id result] rfl (respond_grows C id true result true false _) (by simp) (by simp)
    exact noted.trans (respond_truthful_iff C _ id true result true false)
  | reject id code message => exact respond_truthful_iff C s id false _ true false
  | pushEvent name data => exact pushEvent_truthful_iff C s name data

/-- What a continuation goes on to send is too large. -/
def Session.losesLater (s : Session) : Task → Bool
  | .respond id ok data _ _ seq => s.drops C .res id seq (responsePayload ok data) (.res (some id))
  | .event name data evtId seq => s.drops C .evt evtId seq (eventPayload name data) (.evt (some evtId))
  | _ => false

def Task.type : Task → AadType
  | .event _ _ _ _ => .evt
  | _ => .res

def Task.frameId : Task → String
  | .respond id _ _ _ _ _ => id
  | .event _ _ evtId _ => evtId
  | _ => ""

theorem promised_truthful_iff (s : Session) (task : Task) :
    Truthful task.type task.frameId (task.promised C) s ↔ s.losesLater C task = false := by
  have idle {type : AadType} {id : String} : Truthful type id (return none) s :=
    truthful_of_quiet (fun _ run => by cases run) [] (by simp) (by simp)
  cases task with
  | respond id ok data caches observed seq => exact sendAnswer_truthful_iff C s id ok data caches seq
  | event name data evtId seq => exact sendSealed_truthful_iff C s .evt evtId seq _ _
  | request frame data prevRecvSeq => exact iff_of_true idle rfl
  | join channelId sender ts sealedJoin reconnecting => exact iff_of_true idle rfl
  | snapshot => exact iff_of_true idle rfl
  | cleared => exact iff_of_true idle rfl

end Results

end Wallet

end WalletPair.Sdk
