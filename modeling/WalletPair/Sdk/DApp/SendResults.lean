import WalletPair.Sdk.DApp.Forgery
import WalletPair.Sdk.DApp.Stale
import WalletPair.Sdk.FrameSizes

/-! What becomes of the requests of the dApp. The entry of a request is made before its frame
meets the size check, so a frame that is too large leaves an entry that no answer can settle. -/

namespace WalletPair.Sdk
open WalletPair.Lib WalletPair.Lib.Program

namespace DApp

/-! ### Requests -/

section Requests
variable (C : Crypto)

/-- Every entry that was added waits for the answer to a frame that went to the transport. -/
def Answerable (s t : Session) : Prop :=
  ∀ id p, t.pendingRequests.get id = some p → s.pendingRequests.get id ≠ some p →
    ∃ message frame disk, Obs.sent message (some frame) disk ∈ t.trace.drop s.trace.length ∧
      frame.header.type = .req ∧ frame.header.id = id

def NoneAdded (s t : Session) : Prop := ∀ id p, t.pendingRequests.get id = some p → s.pendingRequests.get id = some p

theorem answerable_of_noneAdded {s t : Session} (none : NoneAdded s t) : Answerable s t :=
  fun id p found new => absurd (none id p found) new

theorem noneAdded_settle (promise : Nat) (outcome : Outcome) (s : Session) : NoneAdded s (after (settle promise outcome) s) :=
  (settle_silent promise outcome s).entries

/-- The map of pending requests is the same and nothing went out. -/
structure Reports (s t : Session) : Prop where
  entries : t.pendingRequests = s.pendingRequests
  trace : Run.Adds (fun o => o.sends = false) s.trace t.trace

theorem Reports.trans {s t u : Session} (first : Reports s t) (second : Reports t u) : Reports s u :=
  ⟨second.entries.trans first.entries, first.trace.trans second.trace⟩

instance : Std.Refl Reports := ⟨fun _ => ⟨rfl, Run.Adds.refl _⟩⟩

instance : IsTrans Session Reports := ⟨fun _ _ _ => Reports.trans⟩

theorem emit_reports (event : Event) : Keeps Reports (emit event) := by
  intro s
  refine ⟨?_, (emit_silent event s).trace⟩
  rw [after_emit]
  unfold Session.emitting
  split <;> rfl

theorem settle_reports (promise : Nat) (outcome : Outcome) : Keeps Reports (settle promise outcome) := by
  intro s
  refine ⟨?_, (settle_silent promise outcome s).trace⟩
  unfold settle
  rw [after_modify]
  split <;> rfl

/-- What becomes of a frame that is too large: a report of the error, and the rejection of the
promise if a listener throws. -/
theorem reports_of_large {s : Session} {body : Body} {frame : Option Sealed} {handler last : String → M Unit}
    (lost : sendRaw body frame s = emit (.error "Message exceeds 64 KB limit") s)
    (caught : ∀ e, Keeps Reports (handler e)) (ended : ∀ e, Keeps Reports (last e)) :
    Reports s (after (tryCatch (tryCatch (sendRaw body frame) handler) last) s) := by
  have same : after (tryCatch (tryCatch (sendRaw body frame) handler) last) s =
      after (tryCatch (tryCatch (emit (.error "Message exceeds 64 KB limit")) handler) last) s := by
    have inner : tryCatch (sendRaw body frame) handler s =
        tryCatch (emit (.error "Message exceeds 64 KB limit")) handler s := by
      change EStateM.tryCatch _ _ s = EStateM.tryCatch _ _ s
      unfold EStateM.tryCatch
      rw [lost]
    rw [after_tryCatch, inner, ← after_tryCatch]
  rw [same]
  exact Keeps.tryCatch (.tryCatch (emit_reports _) caught) ended s

/-- A frame that seals is too large, and its entry is a new one. -/
def Session.Strands (s : Session) (promise : Nat) (id method : String) (params : Option Json) (seq : Nat) : Prop :=
  ∃ sendKey envelope plaintext, s.sendKey = some sendKey ∧
    sealPayload C sendKey s.channelId seq (buildSealedParams method params) ⟨.req, s.pubKeyB64, id⟩ = .ok (envelope, plaintext) ∧
    maxMessageBytes < frameBytes s.channelId s.inputs.now s.pubKeyB64 (.req (some id) (some envelope)) ∧
    s.pendingRequests.get id ≠ some ⟨id, method, params, promise⟩

/-- Sealing, registering and sending a request. -/
theorem sendRequest_answerable_iff (s : Session) (promise : Nat) (id method : String) (params : Option Json) (seq : Nat) :
    Answerable s (after (tryCatch (sendRequest C promise id method params seq) fun e => settle promise (.failed e)) s) ↔
      ¬ s.Strands C promise id method params seq := by
  have stuck {e : String} (run : buildRequestMessage C promise id method params seq s = .error e s) :
      Answerable s (after (tryCatch (sendRequest C promise id method params seq) fun e => settle promise (.failed e)) s) := by
    have thrown : sendRequest C promise id method params seq s = .error e s := bind_of_error run
    rw [after_tryCatch, thrown]
    exact answerable_of_noneAdded (noneAdded_settle promise (.failed e) s)
  cases keyed : s.sendKey with
  | none =>
    have run : buildRequestMessage C promise id method params seq s = .error "Not connected" s := by
      unfold buildRequestMessage
      rw [get_bind_apply, keyed]
      rfl
    refine iff_of_true (stuck run) ?_
    rintro ⟨sendKey, envelope, plaintext, known, -⟩
    rw [keyed] at known
    cases known
  | some sendKey =>
    cases made : sealPayload C sendKey s.channelId seq (buildSealedParams method params) ⟨.req, s.pubKeyB64, id⟩ with
    | error e =>
      have run : buildRequestMessage C promise id method params seq s = .error e s := by
        unfold buildRequestMessage
        rw [get_bind_apply, keyed]
        dsimp only
        rw [made]
        rfl
      refine iff_of_true (stuck run) ?_
      rintro ⟨key, envelope, plaintext, known, sealed, -⟩
      rw [keyed] at known
      cases known
      rw [made] at sealed
      cases sealed
    | ok pair =>
      obtain ⟨envelope, plaintext⟩ := pair
      let frame : Sealed := ⟨sendKey, seq, s.channelId, ⟨.req, s.pubKeyB64, id⟩, plaintext, some promise⟩
      let u : Session := { s with
        trace := s.trace ++ [.sealing frame]
        requestTimers := s.requestTimers ++ [⟨promise, id, method, s.inputs.now + s.options.requestTimeout⟩]
        pendingRequests := s.pendingRequests.set id ⟨id, method, params, promise⟩ }
      have built : buildRequestMessage C promise id method params seq s =
          .ok (.req (some id) (some envelope), frame) { s with trace := s.trace ++ [.sealing frame] } := by
        unfold buildRequestMessage
        conv_lhs => rw [get_bind_apply, keyed]
        dsimp only
        rw [made]
        rfl
      have registered : sendRequest C promise id method params seq s =
          tryCatch (sendRaw (.req (some id) (some envelope)) (some frame)) (fun e => settle promise (.failed e)) u := by
        unfold sendRequest
        rw [bind_of_ok built]
        rfl
      have grown : u.trace = s.trace ++ [.sealing frame] := rfl
      by_cases fits : frameBytes s.channelId s.inputs.now s.pubKeyB64 (.req (some id) (some envelope)) ≤ maxMessageBytes
      · refine iff_of_true ?_ ?_
        · have handed := sendRaw_fits (s := u) (some frame) fits
          rw [after_tryCatch, registered, tryCatch_of_ok handed]
          intro key p found new
          have same : key = id := by
            by_contra different
            exact new ((OrderedMap.get_set_of_ne different).symm.trans found)
          refine ⟨⟨1, s.channelId, s.inputs.now, s.pubKeyB64, .req (some id) (some envelope)⟩, frame, s.journal.disk, ?_, rfl, same.symm⟩
          simp [u]
        · rintro ⟨key, other, text, known, sealed, large, -⟩
          rw [keyed] at known
          cases known
          rw [made] at sealed
          cases sealed
          exact Nat.not_lt_of_le fits large
      · have lost := sendRaw_large (s := u) (some frame) fits
        have reported := reports_of_large lost (fun e => settle_reports promise (.failed e))
          (fun e => settle_reports promise (.failed e))
        rw [after_tryCatch, registered, ← after_tryCatch]
        generalize after (tryCatch (tryCatch (sendRaw (.req (some id) (some envelope)) (some frame))
          fun e => settle promise (.failed e)) fun e => settle promise (.failed e)) u = t at reported ⊢
        have large : maxMessageBytes < frameBytes s.channelId s.inputs.now s.pubKeyB64 (.req (some id) (some envelope)) :=
          Nat.lt_of_not_le fits
        have entries : t.pendingRequests = s.pendingRequests.set id ⟨id, method, params, promise⟩ := reported.entries
        have unsent : ¬ ∃ message handed disk, Obs.sent message (some handed) disk ∈ t.trace.drop s.trace.length := by
          rintro ⟨message, handed, disk, sent⟩
          obtain ⟨more, longer, quiet⟩ := reported.trace
          rw [longer, grown, List.append_assoc, List.drop_left] at sent
          rcases List.mem_append.mp sent with first | later
          · simp at first
          · exact absurd (quiet _ later) (by simp [Obs.sends])
        have there : t.pendingRequests.get id = some ⟨id, method, params, promise⟩ := by
          rw [entries]
          exact OrderedMap.get_set_self _ _ _
        constructor
        · rintro answerable ⟨-, -, -, -, -, -, new⟩
          obtain ⟨message, handed, disk, sent, -⟩ := answerable id _ there new
          exact unsent ⟨message, handed, disk, sent⟩
        · intro kept key p found new
          have same : key = id := by
            by_contra different
            rw [entries] at found
            exact new ((OrderedMap.get_set_of_ne different).symm.trans found)
          subst same
          obtain rfl := Option.some.inj (there.symm.trans found)
          exact absurd ⟨sendKey, envelope, plaintext, keyed, made, large, new⟩ kept

/-! ### Requests of the application -/

/-- The session reserves a number and goes on at once. -/
def Session.sendsNow (s : Session) : Bool :=
  s.sendSeq < maxSendSeq &&
    match s.options.persistence with
    | none => true
    | some adapter => !adapter.async && s.privKey.isSome

/-- The call goes on at once to a frame that strands its entry. -/
def Session.StrandsRequest (s : Session) (method : String) (params : Option Json) : Prop :=
  s.phase = .connected ∧ s.pendingRequests.size < maxPendingRequests ∧ s.sendsNow = true ∧
    s.Strands C s.ticket ("req-" ++ toString (s.reqCounter + 1)) method params s.sendSeq

/-- A number is reserved at once, or the call adds no entry before it returns. -/
theorem nextSendSeq_outcomes (s : Session) (task : Nat → Task) :
    (s.sendsNow = true ∧ ∃ journal, nextSendSeq task s =
      .ok (some s.sendSeq) { s with sendSeq := s.sendSeq + 1, journal := journal }) ∨
    (s.sendsNow = false ∧ ((∃ t, nextSendSeq task s = .ok none t ∧ NoneAdded s t) ∨
      ∃ e t, nextSendSeq task s = .error e t ∧ NoneAdded s t)) := by
  unfold Session.sendsNow
  by_cases room : s.sendSeq < maxSendSeq
  · let u : Session := { s with sendSeq := s.sendSeq + 1 }
    have reserves : nextSendSeq task s = (persistSnapshot (task s.sendSeq) >>= fun waits =>
        if waits then pure none else pure (some s.sendSeq)) u := by
      unfold nextSendSeq
      rw [get_bind_apply, if_neg (Nat.not_le_of_lt room)]
      rfl
    have options : s.options.persistence = u.options.persistence := rfl
    rcases persistSnapshot_cases (task s.sendSeq) u with ⟨configured, run⟩ | ⟨adapter, configured, missing, run⟩ |
      ⟨adapter, snapshot, configured, async, current, run⟩ | ⟨adapter, snapshot, configured, sync, current, run⟩
    · rw [options, configured]
      left
      exact ⟨by simp [room], u.journal, by rw [reserves, bind_of_ok run]; rfl⟩
    · rw [options, configured]
      right
      have unpaired : s.privKey = none := by simpa [Session.serialize, u] using missing
      refine ⟨by simp [unpaired], .inr ⟨_, u, by rw [reserves, bind_of_error run], fun _ _ found => found⟩⟩
    · rw [options, configured]
      right
      have waits : nextSendSeq task s = .ok none { u with
          ticket := u.ticket + 1, journal := u.journal.enqueue u.ticket (some snapshot) (task s.sendSeq) } := by
        rw [reserves, bind_of_ok run]
        rfl
      exact ⟨by simp [async], .inl ⟨_, waits, fun _ _ found => found⟩⟩
    · rw [options, configured]
      left
      have paired : s.privKey.isSome = true := by
        cases known : s.privKey with
        | some privKey => rfl
        | none => simp [Session.serialize, u, known] at current
      exact ⟨by simp [room, sync, paired], _, by rw [reserves, bind_of_ok run]; rfl⟩
  · right
    refine ⟨by simp [room], .inr ?_⟩
    unfold nextSendSeq
    rw [get_bind_apply, if_pos (Nat.le_of_not_lt room)]
    cases report : emit (.error "Send sequence overflow/limit reached — session invalidated") s with
    | error e t =>
      refine ⟨e, t, bind_of_error report, ?_⟩
      have silent := emit_silent (.error "Send sequence overflow/limit reached — session invalidated") s
      rw [after_of_error report] at silent
      exact silent.entries
    | ok _ t =>
      rw [bind_of_ok report]
      have emptied := (close_pending t "normal").1
      cases shut : close "normal" t with
      | error e u =>
        rw [after_of_error shut] at emptied
        refine ⟨e, u, bind_of_error shut, fun id p found => ?_⟩
        rw [emptied] at found
        cases found
      | ok _ u =>
        rw [after_of_ok shut] at emptied
        refine ⟨_, u, by rw [bind_of_ok shut]; rfl, fun id p found => ?_⟩
        rw [emptied] at found
        cases found

/-- A request leaves an entry without a frame exactly when its frame seals at once and is too
large. -/
theorem request_answerable_iff (s : Session) (method : String) (params : Option Json) :
    Answerable s (after (request C method params) s) ↔ ¬ s.StrandsRequest C method params := by
  unfold Session.StrandsRequest
  let u : Session := { s with ticket := s.ticket + 1 }
  have refused (error : String) : Answerable s (after (settle s.ticket (.failed error)) u) :=
    answerable_of_noneAdded (noneAdded_settle s.ticket (.failed error) u)
  -- what follows the reservation
  obtain ⟨send, taken, unsent, sent⟩ : ∃ send : Option Nat → M Unit,
      after (request C method params) s = after (if u.phase ≠ .connected ∨ u.sendKey = none then
        settle s.ticket (.failed "Not connected")
      else if u.pendingRequests.size ≥ maxPendingRequests then settle s.ticket (.failed "Too many pending requests")
      else do
        modify fun s => { s with reqCounter := s.reqCounter + 1 }
        tryCatch
          (nextSendSeq (.request s.ticket ("req-" ++ toString (s.reqCounter + 1)) method params) >>= send)
          fun e => settle s.ticket (.failed e)) u ∧
      send none = pure () ∧
      ∀ seq, send (some seq) = sendRequest C s.ticket ("req-" ++ toString (s.reqCounter + 1)) method params seq :=
    ⟨_, rfl, rfl, fun _ => rfl⟩
  rw [taken]
  by_cases idle : u.phase ≠ .connected ∨ u.sendKey = none
  · rw [if_pos idle]
    refine iff_of_true (refused _) ?_
    rintro ⟨connected, -, -, sendKey, -, -, keyed, -⟩
    rcases idle with other | missing
    · exact other connected
    · exact absurd (keyed.symm.trans missing) (Option.some_ne_none sendKey)
  · rw [if_neg idle]
    by_cases full : u.pendingRequests.size ≥ maxPendingRequests
    · rw [if_pos full]
      refine iff_of_true (refused _) ?_
      rintro ⟨-, free, -⟩
      exact Nat.not_le_of_lt free full
    · rw [if_neg full, after_modify_bind]
      set id := "req-" ++ toString (s.reqCounter + 1)
      let v : Session := { s with ticket := s.ticket + 1, reqCounter := s.reqCounter + 1 }
      change Answerable s (after (tryCatch (nextSendSeq (.request s.ticket id method params) >>= send) fun e =>
        settle s.ticket (.failed e)) v) ↔ _
      rw [after_tryCatch]
      have connected : s.phase = .connected := by simpa using (not_or.mp idle).1
      have free : s.pendingRequests.size < maxPendingRequests := Nat.lt_of_not_le full
      have now : v.sendsNow = s.sendsNow := rfl
      rcases nextSendSeq_outcomes v (.request s.ticket id method params) with
        ⟨sends, journal, run⟩ | ⟨waits, ⟨t, run, none⟩ | ⟨e, t, run, none⟩⟩
      · let w : Session := { v with sendSeq := s.sendSeq + 1, journal := journal }
        rw [bind_of_ok run, sent]
        have answerable := sendRequest_answerable_iff C w s.ticket id method params s.sendSeq
        rw [after_tryCatch] at answerable
        exact answerable.trans (not_congr ⟨fun stranded => ⟨connected, free, now.symm.trans sends, stranded⟩,
          fun stranded => stranded.2.2.2⟩)
      · rw [bind_of_ok run, unsent]
        refine iff_of_true (answerable_of_noneAdded none) ?_
        rintro ⟨-, -, sends, -⟩
        rw [← now, waits] at sends
        cases sends
      · rw [bind_of_error run]
        refine iff_of_true (answerable_of_noneAdded fun key p found => ?_) ?_
        · exact none key p (noneAdded_settle s.ticket (.failed e) t key p found)
        · rintro ⟨-, -, sends, -⟩
          rw [← now, waits] at sends
          cases sends

/-- The continuation of a request's save. -/
theorem resume_answerable_iff (s : Session) (promise : Nat) (id method : String) (params : Option Json) (seq : Nat) :
    Answerable s (after (resume C (.request promise id method params seq)) s) ↔ ¬ s.Strands C promise id method params seq :=
  sendRequest_answerable_iff C s promise id method params seq

end Requests

end DApp

end WalletPair.Sdk
