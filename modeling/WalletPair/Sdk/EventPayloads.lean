import WalletPair.Sdk.Payloads
import WalletPair.Sdk.DApp.Moves

/-! What arrives of an event. Its data is laid out in the envelope beside its name, and the
dApp guesses the shape from what remains: arrays, a member named `_event` and an object
whose only member is `_data` do not survive. -/

namespace WalletPair.Sdk
open WalletPair.Lib WalletPair.Lib.Program

/-! ### Name and data -/

/-- Data that the dApp can tell from the rest of the envelope. -/
def Kept : Json → Prop
  | .arr _ => False
  | .obj fields => "_event" ∉ fields.map Prod.fst ∧ fields.map Prod.fst ≠ ["_data"]
  | _ => True

theorem mem_keys_spread {fields more : List (String × Json)} {key : String} :
    key ∈ (Json.spread fields more).map Prod.fst ↔ key ∈ fields.map Prod.fst ∨ key ∈ more.map Prod.fst := by
  induction more generalizing fields with
  | nil => simp [Json.spread]
  | cons first rest ih =>
    have unfolded : Json.spread fields (first :: rest) = Json.spread (Json.define fields first.1 first.2) rest := rfl
    rw [unfolded, ih, Json.keys_define, List.map_cons, List.mem_cons]
    split_ifs with known
    · constructor
      · rintro (old | later)
        · exact Or.inl old
        · exact Or.inr (Or.inr later)
      · rintro (old | rfl | later)
        · exact Or.inl old
        · exact Or.inl known
        · exact Or.inr later
    · rw [List.mem_append, List.mem_singleton, or_assoc]

/-- The members of an array are named by numbers. -/
theorem data_not_index (items : List Json) : "_data" ∉ (Json.arr items).ownFields.map Prod.fst := by
  intro member
  simp only [Json.ownFields, List.map_map, List.mem_map, Function.comp_apply] at member
  obtain ⟨item, -, name⟩ := member
  have digits : ('_' : Char) ∈ Nat.toDigits 10 item.2 := by
    have texts : (toString item.2).toList = "_data".toList := by rw [name]
    have printed : (toString item.2).toList = Nat.toDigits 10 item.2 := by simp [toString, Nat.repr]
    rw [← printed, texts]
    decide
  exact absurd (Nat.isDigit_of_mem_toDigits (by decide) (by decide) digits) (by decide)

section
variable {name : String} {back : Json} {own : List (String × Json)}

/-- The data of an envelope: its single `_data` member, or all members but the name. -/
theorem eventOf_obj {value : Json} (held : (Json.obj own).field "_event" = some value) (filled : value.truthy = true) :
    DApp.eventOf (.obj own) = some (value,
      if (Json.without own ["_event"]).length = 1 then
        ((Json.obj (Json.without own ["_event"])).field "_data").getD (.obj (Json.without own ["_event"]))
      else .obj (Json.without own ["_event"])) := by
  simp [DApp.eventOf, held, filled]

theorem truthy_name (filled : name ≠ "") : (Json.str name).truthy = true := by
  simpa [Json.truthy] using filled

/-- A value in an envelope of its own. -/
theorem wrapped_event {value : Json} (filled : name ≠ "")
    (same : back.normal = (Json.obj [("_event", .str name), ("_data", value)]).normal) :
    ∃ shown, DApp.eventOf back = some (.str name, shown) ∧ shown.normal = value.normal := by
  obtain ⟨own, rfl, -⟩ := Json.obj_of_normal same
  have rest : (Json.obj (Json.without own ["_event"])).normal = (Json.obj [("_data", value)]).normal :=
    Json.normal_without ["_event"] (by simp) same
  have named : (Json.obj own).field "_event" = some (.str name) := by
    obtain ⟨v, found, text⟩ := Option.map_eq_some_iff.mp (Json.fields_of_normal same "_event")
    rw [found, Json.normal_eq_str text]
  have single : (Json.without own ["_event"]).length = 1 := by
    simpa using (Json.keys_of_normal rest).length_eq
  obtain ⟨v, found, kept⟩ := Option.map_eq_some_iff.mp (Json.fields_of_normal rest "_data")
  refine ⟨v, ?_, kept⟩
  rw [eventOf_obj named (truthy_name filled), if_pos single, found]
  rfl

/-- Data laid out in the envelope itself. -/
theorem flattened_event {fields : List (String × Json)} (distinct : (fields.map Prod.fst).Nodup) (filled : name ≠ "")
    (same : back.normal = (Json.obj (Json.spread [("_event", .str name)] fields)).normal) :
    (∃ shown, DApp.eventOf back = some (.str name, shown) ∧ shown.normal = (Json.obj fields).normal) ↔
      "_event" ∉ fields.map Prod.fst ∧ fields.map Prod.fst ≠ ["_data"] := by
  obtain ⟨own, rfl, -⟩ := Json.obj_of_normal same
  have rest : (Json.obj (Json.without own ["_event"])).normal = (Json.obj (Json.without fields ["_event"])).normal := by
    rw [Json.normal_without ["_event"] (nodup_enveloped _ _ _) same]
    refine Json.normal_obj_ext (Json.nodup_without _ (nodup_enveloped _ _ _)) (Json.nodup_without _ distinct) fun key => ?_
    rw [Json.field_without, Json.field_without, field_enveloped distinct]
    split_ifs with reserved other
    · rfl
    · exact absurd (List.mem_singleton.mpr other) reserved
    · rw [Option.or_none]
  have sizes : (Json.without own ["_event"]).length = (Json.without fields ["_event"]).length := by
    simpa using (Json.keys_of_normal rest).length_eq
  have datas := Json.fields_of_normal rest "_data"
  rw [Json.field_without _ _ "_data", Json.field_without _ _ "_data", if_neg (by decide), if_neg (by decide)] at datas
  have outside : (Json.obj (Json.without own ["_event"])).field "_data" = (Json.obj own).field "_data" := by
    rw [Json.field_without, if_neg (by decide)]
  constructor
  · rintro ⟨shown, read, kept⟩
    have held : ∃ value, (Json.obj own).field "_event" = some value ∧ value.truthy = true := by
      cases found : (Json.obj own).field "_event" with
      | none => simp [DApp.eventOf, found] at read
      | some value =>
        refine ⟨value, rfl, ?_⟩
        by_contra empty
        simp [DApp.eventOf, found, empty] at read
    obtain ⟨value, found, truthy⟩ := held
    rw [eventOf_obj found truthy, outside] at read
    obtain ⟨-, payload⟩ := Prod.ext_iff.mp (Option.some.inj read)
    dsimp only at payload
    -- a single member named `_data` would be the whole object
    have unpacked : ¬ ((Json.without own ["_event"]).length = 1 ∧ (Json.obj own).field "_data" ≠ none) := by
      rintro ⟨single, some⟩
      obtain ⟨v, inside⟩ := Option.ne_none_iff_exists'.mp some
      rw [if_pos single, inside] at payload
      rw [inside] at datas
      obtain ⟨u, member, equal⟩ := Option.map_eq_some_iff.mp datas.symm
      have whole : u.normal = (Json.obj fields).normal := by
        rw [equal, show v = shown from payload, kept]
      exact Json.normal_ne_member distinct member whole
    have plain : shown = .obj (Json.without own ["_event"]) := by
      rw [← payload]
      split_ifs with single
      · have absent : (Json.obj own).field "_data" = none := by
          by_contra some
          exact unpacked ⟨single, some⟩
        rw [absent]
        rfl
      · rfl
    rw [plain, rest] at kept
    have unnamed : "_event" ∉ fields.map Prod.fst := by
      intro reserved
      obtain ⟨f, member, name⟩ := List.mem_map.mp ((Json.keys_of_normal kept).mem_iff.mpr reserved)
      have dropped := (List.mem_filter.mp member).2
      simp [name] at dropped
    refine ⟨unnamed, fun only => unpacked ⟨?_, fun absent => ?_⟩⟩
    · rw [sizes, Json.without_of_absent unnamed, ← List.length_map Prod.fst, only]
      rfl
    · rw [absent] at datas
      have missing := Json.field_eq_none.mp (Option.map_eq_none_iff.mp datas.symm)
      exact missing (by simp [only])
  · rintro ⟨unnamed, other⟩
    rw [Json.without_of_absent unnamed] at rest sizes
    have named : (Json.obj own).field "_event" = some (.str name) := by
      have there := Json.fields_of_normal same "_event"
      rw [field_enveloped distinct, Json.field_eq_none.mpr unnamed] at there
      obtain ⟨v, found, text⟩ := Option.map_eq_some_iff.mp there
      rw [found, Json.normal_eq_str text]
    refine ⟨.obj (Json.without own ["_event"]), ?_, rest⟩
    rw [eventOf_obj named (truthy_name filled), outside]
    split_ifs with single
    · have absent : (Json.obj own).field "_data" = none := by
        by_contra some
        obtain ⟨v, inside⟩ := Option.ne_none_iff_exists'.mp some
        rw [inside] at datas
        obtain ⟨u, member, -⟩ := Option.map_eq_some_iff.mp datas.symm
        have key : "_data" ∈ fields.map Prod.fst := by
          by_contra missing
          rw [Json.field_eq_none.mpr missing] at member
          cases member
        have length : (fields.map Prod.fst).length = 1 := by rw [List.length_map, ← sizes, single]
        obtain ⟨k, only⟩ := List.length_eq_one_iff.mp length
        rw [only, List.mem_singleton] at key
        exact other (only.trans (by rw [key]))
      rw [absent]
      rfl
    · rfl

/-- An array arrives as an object. -/
theorem array_event {items : List Json}
    (same : back.normal = (Json.obj (Json.spread [("_event", .str name)] (Json.arr items).ownFields)).normal) :
    ¬ ∃ shown, DApp.eventOf back = some (.str name, shown) ∧ shown.normal = (Json.arr items).normal := by
  rintro ⟨shown, read, kept⟩
  obtain ⟨own, rfl, -⟩ := Json.obj_of_normal same
  have absent : (Json.obj (Json.without own ["_event"])).field "_data" = none := by
    rw [Json.field_without, if_neg (by decide), Json.field_eq_none]
    intro member
    rcases mem_keys_spread.mp ((Json.keys_of_normal same).mem_iff.mp member) with first | index
    · simp at first
    · exact data_not_index items index
  have object : ∃ rest, shown = .obj rest := by
    cases found : (Json.obj own).field "_event" with
    | none => simp [DApp.eventOf, found] at read
    | some value =>
      simp only [DApp.eventOf, found, absent, Option.getD_none, ite_self] at read
      split_ifs at read
      cases read
      exact ⟨_, rfl⟩
  obtain ⟨rest, rfl⟩ := object
  simp [Json.normal] at kept

theorem eventPayload_read {data : Json} (filled : name ≠ "") (whole : data.proper = true)
    (same : back.normal = (Wallet.eventPayload name (some data)).normal) :
    (∃ shown, DApp.eventOf back = some (.str name, shown) ∧ shown.normal = data.normal) ↔ Kept data := by
  cases data with
  | obj fields => exact flattened_event (Json.nodup_of_proper whole) filled same
  | arr items => exact iff_of_false (array_event same) id
  | null => exact iff_of_true (wrapped_event filled same) trivial
  | bool b => exact iff_of_true (wrapped_event filled same) trivial
  | num mantissa exponent => exact iff_of_true (wrapped_event filled same) trivial
  | str text => exact iff_of_true (wrapped_event filled same) trivial

end

/-! ### Delivery of an event -/

namespace Wallet

/-- A push, and its save where storage is asynchronous. -/
def Session.pushing (s : Session) (name : String) (data : Option Json) (called stored resumed : Inputs) :
    List (Inputs × Label) :=
  (called, .pushEvent name data) ::
    if s.options.persistence.any Persistence.async then
      [(stored, .flush s.ticket), (resumed, .settle s.ticket true)]
    else []

/-- The only frame that sending an event can hand to the transport. -/
theorem sendEvent_hands {C : Crypto} {s : Session} {key : Bytes} {name evtId : String} {data : Option Json} {seq : Nat}
    {message : ProtocolMessage} {frame : Sealed} {disk : Disk Snapshot} {more : List Obs} (keyed : s.sendKey = some key)
    (grown : (after (sendEvent C name data evtId seq) s).trace = s.trace ++ more)
    (handed : .sent message (some frame) disk ∈ more) :
    ∃ envelope plaintext, sealPayload C key s.channelId seq (eventPayload name data) ⟨.evt, s.pubKeyB64, evtId⟩ =
        .ok (envelope, plaintext) ∧
      message = ⟨1, s.channelId, s.inputs.now, s.pubKeyB64, .evt (some evtId) (some envelope)⟩ := by
  unfold sendEvent sendSealed at grown
  rw [after_bind_pure, after_get_bind, keyed] at grown
  dsimp only at grown
  cases made : sealPayload C key s.channelId seq (eventPayload name data) ⟨.evt, s.pubKeyB64, evtId⟩ with
  | error e =>
    rw [made, after_throw] at grown
    rw [List.self_eq_append_right.mp grown] at handed
    cases handed
  | ok result =>
    obtain ⟨envelope, plaintext⟩ := result
    refine ⟨envelope, plaintext, rfl, ?_⟩
    rw [made] at grown
    dsimp only [record] at grown
    rw [after_modify_bind, after_bind_pure] at grown
    unfold sendRaw sendMessage at grown
    rw [after_get_bind, after_get_bind, after_ite] at grown
    split_ifs at grown
    · rw [after_emit, Session.emitting] at grown
      split_ifs at grown
      · rw [← List.append_cancel_left grown] at handed
        simp at handed
      · dsimp only at grown
        rw [List.append_assoc] at grown
        rw [← List.append_cancel_left grown] at handed
        simp at handed
    · rw [record, after_modify] at grown
      dsimp only at grown
      rw [List.append_assoc] at grown
      rw [← List.append_cancel_left grown] at handed
      simp only [List.cons_append, List.nil_append, List.mem_cons, reduceCtorEq, Obs.sent.injEq, false_or,
        List.not_mem_nil, or_false] at handed
      exact handed.1

/-- A push goes on to send at once, or leaves that to the continuation of its save. -/
theorem pushEvent_cases {C : Crypto} {s : Session} {name : String} {data : Option Json} (called stored resumed : Inputs)
    (opened : s.phase = .connected) (keyed : s.sendKey ≠ none) (left : s.sendSeq < maxSendSeq)
    (fresh : s.journal.find s.ticket = none) :
    (Run.run (step C) s (s.pushing name data called stored resumed)).trace = s.trace ∨
    ∃ u : Session, u.sendKey = s.sendKey ∧ u.channelId = s.channelId ∧ u.pubKeyB64 = s.pubKeyB64 ∧ u.trace = s.trace ∧
      (Run.run (step C) s (s.pushing name data called stored resumed)).trace =
        (after (sendEvent C name data ("evt-" ++ toString (s.evtCounter + 1)) s.sendSeq) u).trace := by
  let evtId := "evt-" ++ toString (s.evtCounter + 1)
  let task : Task := .event name data evtId s.sendSeq
  let reserved : Session := { s with inputs := called, sendSeq := s.sendSeq + 1 }
  have ready : ¬ (s.phase ≠ .connected ∨ s.sendKey = none) := by simp [opened, keyed]
  have reserves : nextSendSeq (.event name data evtId) { s with inputs := called } = (persistSnapshot task >>=
      fun waits => if waits then pure .waits else pure (.reserved s.sendSeq) : M Reservation) reserved := by
    unfold nextSendSeq
    rw [get_bind_apply, if_neg (Nat.not_le_of_lt left)]
    rfl
  -- what follows the reservation: one more event counted, and the frame if the number is free at once
  obtain ⟨sent, starts, sends, waits⟩ : ∃ sent : Reservation → M Unit,
      step C s (called, .pushEvent name data) =
        after (nextSendSeq (.event name data evtId) >>= sent) { s with inputs := called } ∧
      (∀ seq u, after (sent (.reserved seq)) u =
        after (sendEvent C name data evtId seq) { u with evtCounter := u.evtCounter + 1 }) ∧
      ∀ u, after (sent .waits) u = { u with evtCounter := u.evtCounter + 1 } := by
    refine ⟨?sent, ?_, ?_, ?_⟩
    rotate_left
    · change after (pushEvent C name data) { s with inputs := called } = _
      unfold pushEvent
      rw [after_get_bind, if_neg ready]
    · exact fun _ _ => rfl
    · exact fun _ => rfl
  rw [after_bind, reserves] at starts
  rcases persistSnapshot_cases task reserved with ⟨configured, run⟩ | ⟨adapter, configured, -, run⟩ |
    ⟨adapter, snapshot, configured, async, -, run⟩ | ⟨adapter, snapshot, configured, sync, -, run⟩
  · right
    have plain : s.options.persistence = none := configured
    refine ⟨{ reserved with evtCounter := s.evtCounter + 1 }, rfl, rfl, rfl, rfl, ?_⟩
    rw [Session.pushing, plain, Option.any_none, if_neg Bool.false_ne_true, Run.run_cons, Run.run_nil, starts,
      bind_of_ok run]
    exact congrArg Session.trace (sends _ _)
  · left
    have thrown : step C s (called, .pushEvent name data) = reserved := by
      rw [starts, bind_of_error run]
    rw [Session.pushing, Run.run_cons, thrown]
    split_ifs
    · have stays : reserved.journal.flush s.ticket = s.journal := Journal.flush_of_absent fresh
      rw [Run.run_cons, Run.run_cons, Run.run_nil]
      change (after (settleCall C s.ticket true)
        { reserved with inputs := resumed, journal := reserved.journal.flush s.ticket }).trace = _
      unfold settleCall
      rw [stays, after_get_bind, fresh]
      rfl
    · rfl
  · right
    have plain : s.options.persistence = some adapter := configured
    let waiting : Session := { reserved with
      ticket := s.ticket + 1, journal := s.journal.enqueue s.ticket (some snapshot) task, evtCounter := s.evtCounter + 1 }
    have queued : step C s (called, .pushEvent name data) = waiting := by
      rw [starts, bind_of_ok run]
      exact waits _
    have found := Journal.find_flush_enqueue fresh (some snapshot) task
    refine ⟨{ waiting with
      inputs := resumed
      journal := ((s.journal.enqueue s.ticket (some snapshot) task).flush s.ticket).remove s.ticket }, rfl, rfl, rfl, rfl, ?_⟩
    rw [Session.pushing, plain, Option.any_some, async, if_pos rfl, Run.run_cons, Run.run_cons, Run.run_cons, Run.run_nil,
      queued]
    change (after (settleCall C s.ticket true) { waiting with
      inputs := resumed, journal := (s.journal.enqueue s.ticket (some snapshot) task).flush s.ticket }).trace = _
    rw [settleCall_durable C found rfl]
    change (after (tryCatch (sendEvent C name data evtId s.sendSeq) fun _ => return) _).trace = _
    rw [after_tryCatch_pure]
  · right
    have plain : s.options.persistence = some adapter := configured
    refine ⟨{ reserved with evtCounter := s.evtCounter + 1, journal := reserved.journal.put (some snapshot) }, rfl, rfl,
      rfl, rfl, ?_⟩
    rw [Session.pushing, plain, Option.any_some, sync, if_neg Bool.false_ne_true, Run.run_cons, Run.run_nil, starts,
      bind_of_ok run]
    exact congrArg Session.trace (sends _ _)

/-- The frame of a push is its event, sealed under the number the push reserved. -/
theorem pushEvent_hands {C : Crypto} {s : Session} {key : Bytes} {name : String} {data : Option Json}
    {called stored resumed : Inputs} {message : ProtocolMessage} {frame : Sealed} {disk : Disk Snapshot} {more : List Obs}
    (opened : s.phase = .connected) (keyed : s.sendKey = some key) (left : s.sendSeq < maxSendSeq)
    (fresh : s.journal.find s.ticket = none)
    (grown : (Run.run (step C) s (s.pushing name data called stored resumed)).trace = s.trace ++ more)
    (handed : .sent message (some frame) disk ∈ more) :
    ∃ envelope plaintext, sealPayload C key s.channelId s.sendSeq (eventPayload name data)
        ⟨.evt, s.pubKeyB64, "evt-" ++ toString (s.evtCounter + 1)⟩ = .ok (envelope, plaintext) ∧ message.v = 1 ∧
      message.sender = s.pubKeyB64 ∧
      message.body = .evt (some ("evt-" ++ toString (s.evtCounter + 1))) (some envelope) := by
  rcases pushEvent_cases called stored resumed opened (by simp [keyed]) left fresh with
    quiet | ⟨u, sends, channel, own, old, last⟩
  · rw [quiet] at grown
    rw [List.self_eq_append_right.mp grown] at handed
    cases handed
  · rw [last, ← old] at grown
    obtain ⟨envelope, plaintext, made, rfl⟩ := sendEvent_hands (sends.trans keyed) grown handed
    rw [channel, own] at made
    exact ⟨envelope, plaintext, made, rfl, own, rfl⟩

end Wallet

namespace DApp

/-- The session has shown the event since `s`. -/
def Session.Emits (s t : Session) (event : Event) : Prop :=
  ∃ more, t.trace = s.trace ++ more ∧ .emitted event ∈ more

/-- The arrival of a message, and the save it makes where storage is asynchronous. -/
def Session.receiving (s : Session) (message : ProtocolMessage) (received stored resumed : Inputs) :
    List (Inputs × Label) :=
  (received, .message message) ::
    if s.options.persistence.any Persistence.async then
      [(stored, .flush s.ticket), (resumed, .settle s.ticket true)]
    else []

/-- What an event's continuation shows: the event, or that it has no name. -/
def shownEvent (data : Json) : Event :=
  match eventOf data with
  | some (name, payload) => .event name payload
  | none => .error "Event payload missing _event"

theorem deliverEvent_apply (frame : Delivery) (data : Json) (s : Session) : deliverEvent frame data s =
    emit (shownEvent data) { s with trace := s.trace ++ [.delivered frame] } := by
  unfold deliverEvent shownEvent
  cases eventOf data with
  | none => rfl
  | some pair => rfl

/-- The continuation of an event shows it, and a listener that throws closes the session. -/
theorem resume_event_trace {C : Crypto} {s : Session} (frame : Delivery) (data : Json) (prev : Int)
    (listening : s.muted = false) : ∃ later, (after (resume C (.event frame data prev)) s).trace =
      s.trace ++ [.delivered frame, .emitted (shownEvent data)] ++ later ∧
      ∀ name payload, .emitted (.event name payload) ∉ later := by
  let shown : Session := Session.emitting { s with trace := s.trace ++ [.delivered frame] } (shownEvent data)
  have trace : shown.trace = s.trace ++ [.delivered frame, .emitted (shownEvent data)] := by
    simp [shown, Session.emitting, listening]
  have run := deliverEvent_apply frame data s
  rw [emit_apply] at run
  split_ifs at run with hears
  · refine ⟨[], ?_, by simp⟩
    have done : after (resume C (.event frame data prev)) s = shown := after_of_ok (tryCatch_of_ok run)
    rw [done, trace, List.append_nil]
  · have closes : Keeps (Moves (· ∈ [Kind.receiving])) (do
        modify fun s => { s with recvSeq := prev }
        let wrapped ← persistenceError "listener"
        emit (.error wrapped) : M Unit) :=
      rollback_moves (by simp) prev "listener" report_moves
    obtain ⟨later, grown, kinds⟩ := notes_of_moves (closes shown)
    refine ⟨later, ?_, fun name payload member => ?_⟩
    · have done : after (resume C (.event frame data prev)) s = after (do
          modify fun s => { s with recvSeq := prev }
          let wrapped ← persistenceError "listener"
          emit (.error wrapped) : M Unit) shown := by
        change after (tryCatch (deliverEvent frame data) _) s = _
        rw [after_tryCatch, run]
      rw [done, grown, trace]
    · have kind := kinds _ member
      simp [Obs.kind, Kind.quiet] at kind

/-- An event frame that opens is counted, and delivered once its counter is saved. -/
theorem handleMessage_evt {C : Crypto} {s : Session} {key : Bytes} {message : ProtocolMessage} {id envelope : String}
    {opened : Unsealed} (connected : s.phase = .connected) (keyed : s.recvKey = some key)
    (peer : s.fromRemote message.sender = true) (version : message.v = 1) (own : message.sender ≠ "_adapter")
    (body : message.body = .evt (some id) (some envelope)) (named : id ≠ "") (filled : envelope ≠ "")
    (opens : unsealPayload C key s.channelId envelope ⟨.evt, message.sender, id⟩ = .ok opened)
    (new : s.recvSeq < (opened.seq : Int)) :
    after (handleMessage C message) s =
      after (persistSnapshot (.event ⟨key, opened.seq, .evt, id, opened.plaintext⟩ opened.data s.recvSeq) >>= fun waits =>
        if waits then pure () else deliverEvent ⟨key, opened.seq, .evt, id, opened.plaintext⟩ opened.data)
        { s with recvSeq := opened.seq } := by
  have ready : ¬ (s.phase ≠ .connected ∨ (!s.fromRemote message.sender) = true) := by simp [connected, peer]
  generalize reached : ({ s with recvSeq := opened.seq } : Session) = counted
  unfold handleMessage
  rw [body, if_neg (by simp [own]), if_neg (by simp [version])]
  dsimp only
  unfold handleEvent
  rw [after_get_bind, if_neg ready]
  simp only [nonEmpty, named, filled, keyed, if_false]
  rw [after_tryCatch_pure]
  unfold openEvent
  rw [after_get_bind, after_bind, opens]
  dsimp only [runExcept]
  rw [pure_apply]
  dsimp only
  rw [if_neg (not_le.mpr new), ← reached]
  rfl

/-- A session that takes the frames of this wallet. -/
structure Session.Hears (s : Session) (key : Bytes) (sender : String) : Prop where
  opened : s.phase = .connected
  keyed : s.recvKey = some key
  peer : s.fromRemote sender = true
  paired : s.privKey ≠ none
  listening : s.muted = false
  fresh : s.journal.find s.ticket = none

/-- The session shows the event of a frame that it can open and has not seen. -/
theorem receiving_emits {C : Crypto} {s : Session} {key : Bytes} {message : ProtocolMessage} {id envelope : String}
    {opened : Unsealed} {name payload : Json} (received stored resumed : Inputs) (hears : s.Hears key message.sender)
    (version : message.v = 1) (own : message.sender ≠ "_adapter") (body : message.body = .evt (some id) (some envelope))
    (named : id ≠ "") (filled : envelope ≠ "")
    (opens : unsealPayload C key s.channelId envelope ⟨.evt, message.sender, id⟩ = .ok opened)
    (new : s.recvSeq < (opened.seq : Int)) :
    s.Emits (Run.run (step C) s (s.receiving message received stored resumed)) (.event name payload) ↔
      eventOf opened.data = some (name, payload) := by
  have shown (t : Session) (later : List Obs) (frame : Delivery) (quiet : ∀ name payload, .emitted (.event name payload) ∉ later)
      (trace : t.trace = s.trace ++ [.delivered frame, .emitted (shownEvent opened.data)] ++ later) :
      s.Emits t (.event name payload) ↔ eventOf opened.data = some (name, payload) := by
    rw [List.append_assoc] at trace
    constructor
    · rintro ⟨more, grown, member⟩
      rw [trace] at grown
      rw [← List.append_cancel_left grown] at member
      simp only [List.cons_append, List.nil_append, List.mem_cons, reduceCtorEq, Obs.emitted.injEq, false_or] at member
      rcases member with same | last
      · unfold shownEvent at same
        split at same
        · rename_i n p read
          cases same
          exact read
        · cases same
      · exact absurd last (quiet _ _)
    · intro read
      exact ⟨_, trace, by simp [shownEvent, read]⟩
  let frame : Delivery := ⟨key, opened.seq, .evt, id, opened.plaintext⟩
  let task : Task := .event frame opened.data s.recvSeq
  let counted : Session := { s with inputs := received, recvSeq := opened.seq }
  have starts : step C s (received, .message message) = after (persistSnapshot task >>= fun waits =>
      if waits then pure () else deliverEvent frame opened.data) counted :=
    handleMessage_evt (s := { s with inputs := received }) hears.opened hears.keyed hears.peer version own body named filled
      opens new
  have delivers (u : Session) (old : u.trace = s.trace) (listening : u.muted = false) :
      (after (deliverEvent frame opened.data) u).trace =
        s.trace ++ [.delivered frame, .emitted (shownEvent opened.data)] ++ [] := by
    unfold after
    rw [deliverEvent_apply]
    change (after (emit (shownEvent opened.data)) _).trace = _
    rw [after_emit]
    simp [Session.emitting, listening, old]
  rcases persistSnapshot_cases task counted with ⟨configured, run⟩ | ⟨adapter, configured, missing, run⟩ |
    ⟨adapter, snapshot, configured, async, -, run⟩ | ⟨adapter, snapshot, configured, sync, -, run⟩
  · have plain : s.options.persistence = none := configured
    refine shown _ [] frame (by simp) ?_
    rw [Session.receiving, plain, Option.any_none, if_neg Bool.false_ne_true, Run.run_cons, Run.run_nil, starts,
      after_bind_of_ok run]
    exact delivers counted rfl hears.listening
  · have missing : s.privKey = none := by simpa [Session.serialize, counted] using missing
    exact absurd missing hears.paired
  · have plain : s.options.persistence = some adapter := configured
    let waiting : Session := { counted with
      ticket := s.ticket + 1, journal := s.journal.enqueue s.ticket (some snapshot) task }
    have queued : step C s (received, .message message) = waiting := by
      rw [starts, after_bind_of_ok run]
      rfl
    have found := Journal.find_flush_enqueue hears.fresh (some snapshot) task
    obtain ⟨later, trace, quiet⟩ := resume_event_trace (C := C) (s := { waiting with
      inputs := resumed
      journal := ((s.journal.enqueue s.ticket (some snapshot) task).flush s.ticket).remove s.ticket })
      frame opened.data s.recvSeq hears.listening
    refine shown _ later frame quiet ?_
    rw [Session.receiving, plain, Option.any_some, async, if_pos rfl, Run.run_cons, Run.run_cons, Run.run_cons, Run.run_nil,
      queued]
    change (after (settleCall C s.ticket true) { waiting with
      inputs := resumed, journal := (s.journal.enqueue s.ticket (some snapshot) task).flush s.ticket }).trace = _
    rw [settleCall_durable C found rfl]
    exact trace
  · have plain : s.options.persistence = some adapter := configured
    refine shown _ [] frame (by simp) ?_
    rw [Session.receiving, plain, Option.any_some, sync, if_neg Bool.false_ne_true, Run.run_cons, Run.run_nil, starts,
      after_bind_of_ok run]
    exact delivers { counted with journal := counted.journal.put (some snapshot) } rfl hears.listening

end DApp

theorem b64urlEncode_ne_empty {bytes : Bytes} (some : bytes ≠ []) : b64urlEncode bytes ≠ "" := by
  intro empty
  have back := b64urlDecode_encode bytes
  rw [empty] at back
  exact some (Option.some.inj back).symm

/-- What was sealed opens again in its own context. -/
theorem opens_of_sealPayload {C : Crypto} (aead : C.Aead) {key plaintext : Bytes} {channel text envelope : String} {seq : Nat}
    {data back : Json} {header : AadHeader} (prints : C.Prints data text back)
    (made : sealPayload C key channel seq data header = .ok (envelope, plaintext)) :
    envelope ≠ "" ∧ unsealPayload C key channel envelope header = .ok ⟨seq, back, utf8ToBytes text⟩ := by
  have small : seq ≤ maxSeq := by
    by_contra large
    unfold sealPayload at made
    rw [if_pos (Nat.lt_of_not_le large)] at made
    cases made
  have built : ∃ aad, buildAad channel header = .ok aad := by
    unfold sealPayload at made
    rw [if_neg (Nat.not_lt.mpr small)] at made
    obtain ⟨_, _, rest⟩ := ok_of_except_bind made
    obtain ⟨aad, built, -⟩ := ok_of_except_bind rest
    exact ⟨aad, built⟩
  obtain ⟨aad, built⟩ := built
  rw [sealPayload_ok small prints.1 built] at made
  cases made
  exact ⟨b64urlEncode_ne_empty (by simp [payloadEnvelope, uint32Bytes]), unsealPayload_sealed aead small prints built⟩

/-- A wallet that can push. -/
structure Wallet.Session.Pushes (s : Wallet.Session) (key : Bytes) : Prop where
  opened : s.phase = .connected
  keyed : s.sendKey = some key
  left : s.sendSeq < maxSendSeq
  fresh : s.journal.find s.ticket = none
  named : s.pubKeyB64 ≠ "_adapter"

section
variable {C : Crypto} {w : Wallet.Session} {d : DApp.Session} {key : Bytes} {name text : String} {data back : Json}
  {called stored resumed received later last : Inputs} {message : ProtocolMessage} {frame : Sealed}
  {disk : Disk Wallet.Snapshot} {more : List Wallet.Obs}

/-- The dApp of the pairing reads the frame of a push as its payload printed and read back. -/
theorem pushed_event_shown (aead : C.Aead) (prints : C.Prints (Wallet.eventPayload name (some data)) text back)
    (pushes : w.Pushes key) (hears : d.Hears key w.pubKeyB64) (channel : d.channelId = w.channelId)
    (new : d.recvSeq < (w.sendSeq : Int))
    (grown : (Run.run (Wallet.step C) w (w.pushing name (some data) called stored resumed)).trace = w.trace ++ more)
    (handed : .sent message (some frame) disk ∈ more) (shown : Json) :
    d.Emits (Run.run (DApp.step C) d (d.receiving message received later last)) (.event (.str name) shown) ↔
      DApp.eventOf back = some (.str name, shown) := by
  obtain ⟨envelope, plaintext, made, version, sender, body⟩ :=
    Wallet.pushEvent_hands pushes.opened pushes.keyed pushes.left pushes.fresh grown handed
  obtain ⟨filled, opens⟩ := opens_of_sealPayload aead prints made
  rw [← channel, ← sender] at opens
  rw [← sender] at hears
  have named : message.sender ≠ "_adapter" := by
    rw [sender]
    exact pushes.named
  have numbered : "evt-" ++ toString (w.evtCounter + 1) ≠ "" := by
    intro empty
    have texts := congrArg String.toList empty
    simp at texts
  exact DApp.receiving_emits received later last hears version named body numbered filled opens new

/-- The frame that a push hands to the transport makes the dApp of the pairing show the name
and the data of the push, exactly when the data can be told from the envelope. -/
theorem event_round_trip_iff (aead : C.Aead) (filled : name ≠ "") (whole : data.proper = true)
    (prints : C.Prints (Wallet.eventPayload name (some data)) text back) (pushes : w.Pushes key)
    (hears : d.Hears key w.pubKeyB64) (channel : d.channelId = w.channelId) (new : d.recvSeq < (w.sendSeq : Int))
    (grown : (Run.run (Wallet.step C) w (w.pushing name (some data) called stored resumed)).trace = w.trace ++ more)
    (handed : .sent message (some frame) disk ∈ more) :
    (∃ shown, d.Emits (Run.run (DApp.step C) d (d.receiving message received later last)) (.event (.str name) shown) ∧
      shown.normal = data.normal) ↔ Kept data := by
  rw [← eventPayload_read filled whole prints.2.2]
  exact exists_congr fun shown => and_congr_left fun _ =>
    pushed_event_shown aead prints pushes hears channel new grown handed shown

end

namespace Sample

/-- The two ends of an open pairing. -/
def pushingWallet : Wallet.Session :=
  { newWallet with
    phase := .connected, channelId := someChannel, pubKeyB64 := b64urlEncode [7], privKey := some [2], sendKey := some [1] }

def hearingDApp : DApp.Session :=
  { DApp.Session.new DApp.Sample.options with
    phase := .connected, channelId := someChannel, remotePubKey := some [7], privKey := some [3], recvKey := some [1] }

theorem pushingWallet_pushes : pushingWallet.Pushes [1] := ⟨rfl, rfl, by decide, rfl, by decide +kernel⟩

theorem hearingDApp_hears : hearingDApp.Hears [1] pushingWallet.pubKeyB64 :=
  ⟨rfl, rfl, by decide +kernel, by simp [hearingDApp], rfl, rfl⟩

/-- Whether the transport was handed a sealed frame. -/
def handedOver : Wallet.Obs → Bool
  | .sent _ (some _) _ => true
  | _ => false

theorem handed_of_any {more : List Wallet.Obs} (some : more.any handedOver = true) :
    ∃ message frame disk, .sent message (.some frame) disk ∈ more := by
  obtain ⟨o, member, sent⟩ := List.any_eq_true.mp some
  unfold handedOver at sent
  split at sent
  · exact ⟨_, _, _, member⟩
  · cases sent

/-- The record of a push. -/
def pushed (data : Json) : List Wallet.Obs :=
  (Run.run (Wallet.step .ideal) pushingWallet (pushingWallet.pushing "e" (some data) {} {} {})).trace

def chainText : String := "\x7b\"_event\":\"e\",\"chain\":1\x7d"

def chainBack : Json := .obj [("_event", .str "e"), ("chain", .num 1 0)]

def arrayText : String := "\x7b\"0\":1,\"_event\":\"e\"\x7d"

def arrayBack : Json := .obj [("0", .num 1 0), ("_event", .str "e")]

end Sample

theorem event_round_trip_iff_sample :
    Kept Sample.plainParams ∧ ∃ message frame disk, .sent message (some frame) disk ∈ Sample.pushed Sample.plainParams ∧
      ∃ shown, Sample.hearingDApp.Emits (Run.run (DApp.step .ideal) Sample.hearingDApp
        (Sample.hearingDApp.receiving message {} {} {})) (.event (.str "e") shown) ∧
        shown.normal = Sample.plainParams.normal := by
  have kept : Kept Sample.plainParams := by simp [Kept, Sample.plainParams]
  have prints : Crypto.ideal.Prints (Wallet.eventPayload "e" (some Sample.plainParams)) Sample.chainText
      Sample.chainBack := ⟨by decide +kernel, rfl, rfl⟩
  have sends : (Sample.pushed Sample.plainParams).any Sample.handedOver = true := by decide +kernel
  obtain ⟨message, frame, disk, handed⟩ := Sample.handed_of_any sends
  have grown : Sample.pushed Sample.plainParams = Sample.pushingWallet.trace ++ Sample.pushed Sample.plainParams :=
    (List.nil_append _).symm
  exact ⟨kept, message, frame, disk, handed, (event_round_trip_iff Crypto.ideal_aead (by decide) (by decide +kernel) prints
    Sample.pushingWallet_pushes Sample.hearingDApp_hears rfl (by decide) grown handed).mpr kept⟩

/-- The frame of an array never makes the dApp show that array. -/
theorem array_event_lost :
    ∃ message frame disk, .sent message (some frame) disk ∈ Sample.pushed (.arr [.num 1 0]) ∧
      ¬ ∃ shown, Sample.hearingDApp.Emits (Run.run (DApp.step .ideal) Sample.hearingDApp
        (Sample.hearingDApp.receiving message {} {} {})) (.event (.str "e") shown) ∧
        shown.normal = (Json.arr [.num 1 0]).normal := by
  have prints : Crypto.ideal.Prints (Wallet.eventPayload "e" (some (.arr [.num 1 0]))) Sample.arrayText
      Sample.arrayBack := ⟨by decide +kernel, rfl, rfl⟩
  have sends : (Sample.pushed (.arr [.num 1 0])).any Sample.handedOver = true := by decide +kernel
  obtain ⟨message, frame, disk, handed⟩ := Sample.handed_of_any sends
  have grown : Sample.pushed (.arr [.num 1 0]) = Sample.pushingWallet.trace ++ Sample.pushed (.arr [.num 1 0]) :=
    (List.nil_append _).symm
  refine ⟨message, frame, disk, handed, ?_⟩
  rintro ⟨shown, emitted, same⟩
  have read := (pushed_event_shown Crypto.ideal_aead prints Sample.pushingWallet_pushes Sample.hearingDApp_hears rfl
    (by decide) grown handed shown).mp emitted
  exact array_event prints.2.2 ⟨shown, read, same⟩

end WalletPair.Sdk
