import WalletPair.Sdk.DApp.RequestIds

/-! What a promise of the dApp resolves with. Its value is read out of a response that was
delivered, and the response carries the id that the promise's own call sealed. -/

namespace WalletPair.Sdk.DApp
open WalletPair.Lib WalletPair.Lib.Program

/-- The call sealed a request under this id. -/
def Session.AskedFor (s : Session) (promise : Nat) (id : String) : Prop :=
  ∃ frame ∈ s.sealedFrames, frame.call = some promise ∧ frame.header.id = id

/-- The response is for this call, and reads as this value. -/
structure Answers (asked : Nat → String → Prop) (promise : Nat) (d : Delivery) (data : Json) : Prop where
  type : d.type = .res
  asked : asked promise d.id
  read : Json.parse (textDecode d.plaintext) = some data

/-- A response that waits for its save is for the call it will settle. -/
def Task.Answers (asked : Nat → String → Prop) : Task → Prop
  | .response promise d data _ => DApp.Answers asked promise d data
  | _ => True

/-- Responses that wait, and values that promises resolved with, are those of delivered
responses to the calls. -/
structure Session.Settles (asked : Nat → String → Prop) (s : Session) : Prop where
  awaited : ∀ c ∈ s.journal.calls, c.task.Answers asked
  outcomes : ∀ promise value, .settled promise (.resolved value) ∈ s.trace →
    ∃ d ∈ s.deliveries, ∃ data, Answers asked promise d data ∧ data.field "_ok" = some (.bool true) ∧
      value = data.field "_result"

section Settles
variable {asked also : Nat → String → Prop} {s t : Session}

theorem Answers.mono {promise : Nat} {d : Delivery} {data : Json} (h : Answers asked promise d data)
    (imp : ∀ promise id, asked promise id → also promise id) : Answers also promise d data :=
  ⟨h.type, imp _ _ h.asked, h.read⟩

theorem Session.Settles.mono (h : s.Settles asked) (imp : ∀ promise id, asked promise id → also promise id) :
    s.Settles also := by
  refine ⟨fun c mem => ?_, fun promise value settled => ?_⟩
  · have known := h.awaited c mem
    cases shape : c.task with
    | response promise d data prev =>
      rw [shape] at known
      exact Answers.mono known imp
    | _ => trivial
  · obtain ⟨d, mem, data, answers, rest⟩ := h.outcomes promise value settled
    exact ⟨d, mem, data, answers.mono imp, rest⟩

/-- Nothing new waits and nothing was recorded. -/
theorem Session.Settles.fewer (h : s.Settles asked) (calls : ∀ c ∈ t.journal.calls, ∃ b ∈ s.journal.calls, b.task = c.task)
    (trace : t.trace = s.trace) : t.Settles asked := by
  refine ⟨fun c mem => ?_, fun promise value settled => ?_⟩
  · obtain ⟨b, old, same⟩ := calls c mem
    exact same ▸ h.awaited b old
  · rw [trace] at settled
    obtain ⟨d, mem, rest⟩ := h.outcomes promise value settled
    exact ⟨d, by rwa [Session.deliveries, trace], rest⟩

theorem Session.Settles.enqueue (h : s.Settles asked) {write : Option Snapshot} {task : Task}
    (known : task.Answers asked) : Session.Settles asked { s with
      ticket := s.ticket + 1, journal := s.journal.enqueue s.ticket write task } := by
  refine ⟨fun c mem => ?_, h.outcomes⟩
  rcases List.mem_append.mp mem with old | new
  · exact h.awaited c old
  · rw [List.mem_singleton.mp new]
    exact known

/-- Something is recorded; if a promise resolves, it is by a delivered response. -/
theorem Session.Settles.note (h : s.Settles asked) {o : Obs} (known : ∀ promise value,
      o = .settled promise (.resolved value) → ∃ d ∈ s.deliveries, ∃ data, Answers asked promise d data ∧
        data.field "_ok" = some (.bool true) ∧ value = data.field "_result") :
    Session.Settles asked { s with trace := s.trace ++ [o] } := by
  refine ⟨h.awaited, fun promise value settled => ?_⟩
  have found : ∃ d ∈ s.deliveries, ∃ data, Answers asked promise d data ∧
      data.field "_ok" = some (.bool true) ∧ value = data.field "_result" := by
    rcases List.mem_append.mp settled with old | new
    · exact h.outcomes promise value old
    · exact known promise value (List.mem_singleton.mp new).symm
  obtain ⟨d, mem, rest⟩ := found
  exact ⟨d, (List.sublist_append_left s.trace [o]).filterMap _ |>.subset mem, rest⟩

theorem settles_of_move {k : Kind} (receives : k ≠ .receiving) (resolves : k ≠ .resolving) (move : Move s k t)
    (h : s.Settles asked) : t.Settles asked := by
  cases move with
  | note o =>
    refine h.note fun promise value same => ?_
    subst same
    exact absurd rfl resolves
  | save task snapshot adapter configured async current =>
    refine h.enqueue ?_
    cases task with
    | response promise d data prev => exact absurd rfl receives
    | _ => trivial
  | clear adapter configured async => exact h.enqueue trivial
  | _ => exact ⟨h.awaited, h.outcomes⟩

theorem persistSnapshot_settles {task : Task} (known : task.Answers asked) :
    Triple (Session.Settles asked) (persistSnapshot task) (fun _ => Session.Settles asked) (Session.Settles asked) := by
  intro s h
  rcases persistSnapshot_cases task s with
    ⟨-, run⟩ | ⟨adapter, -, -, run⟩ | ⟨adapter, snap, -, -, -, run⟩ | ⟨adapter, snap, -, -, -, run⟩
  · rw [run]
    exact h
  · rw [run]
    exact h
  · rw [run]
    exact h.enqueue known
  · rw [run]
    exact ⟨h.awaited, h.outcomes⟩

theorem receives_settles (asked : Nat → String → Prop) :
    Receives (Task.Answers asked) (Session.Settles asked) fun _ _ => True where
  moves _ _ _ receives resolves move h := settles_of_move receives resolves move h
  accept d task _ known := by
    refine ((persistSnapshot_settles known).mono (fun t held => ?_) (fun _ _ held => ⟨held, fun _ => trivial⟩)
      fun _ held => held)
    obtain ⟨⟨s, h, -, -, rfl⟩, -⟩ := held
    exact ⟨h.awaited, h.outcomes⟩
  deliver _ _ h _ := h.note fun _ _ same => nomatch same
  resolve s promise d data prev known mem approved h := h.note fun other value same => by
    cases same
    exact ⟨d, mem, data, known, approved, rfl⟩

/-! ### Steps -/

variable (C : Crypto)

/-- A response that arrives is for the call whose request is pending under its id. -/
theorem Session.Distinct.opens (h : s.Distinct C) (msg : ProtocolMessage) :
    Receives.OpensAt C (Task.Answers s.AskedFor) s msg where
  response := by
    intro id envelope pending recvKey opened _ found _ read _
    obtain ⟨named, frame, mem, shown⟩ := h.pending id pending found
    have call : frame.call = some pending.promise := congrArg Claim.call shown
    have same : frame.header.id = id := (congrArg Claim.id shown).trans named
    exact ⟨rfl, ⟨frame, mem, call, same⟩, (unsealPayload_ok C read).2.1⟩
  event := by
    intros
    trivial

theorem askedFor_later {l : Inputs × Label} {promise : Nat} {id : String} (asked : s.AskedFor promise id) :
    (step C s l).AskedFor promise id :=
  ⟨asked.choose, sealed_later C asked.choose_spec.1, asked.choose_spec.2⟩

theorem step_settles {l : Inputs × Label} (inPairing : InPairing s l) (unfailing : Unfailing s l) (distinct : s.Distinct C)
    (h : s.Settles s.AskedFor) : (step C s l).Settles (step C s l).AskedFor := by
  have start : Session.Settles s.AskedFor { s with inputs := l.1 } := ⟨h.awaited, h.outcomes⟩
  have removed (ticket : Nat) : ∀ c ∈ (s.journal.remove ticket).calls, ∃ b ∈ s.journal.calls, b.task = c.task :=
    fun c mem => ⟨c, (List.mem_filter.mp mem).1, rfl⟩
  have stepped : (step C s l).Settles s.AskedFor := by
    refine (receives_settles s.AskedFor).step_rule C inPairing unfailing start (fun msg _ => distinct.opens C msg)
      (fun ticket call _ found _ => ⟨start.fewer (removed ticket) rfl, h.awaited call (Journal.mem_of_find found).1,
        fun _ _ => trivial⟩) (fun ticket _ => ?_) fun _ => ?_
    · refine start.fewer (fun c mem => ?_) rfl
      obtain ⟨b, old, same, -⟩ := Journal.mem_flush mem
      exact ⟨b, old, same.symm⟩
    · have opens : Keeps (Preserve (Session.Settles s.AskedFor)) (setPhase .connected) :=
        ((receives_settles s.AskedFor).plain (setPhase_moves _ (Or.inr ⟨nofun, nofun⟩))).keeps
      exact restart_keeps opens (fun calls trace held => held.fewer calls trace) _ start
  exact stepped.mono fun _ _ => askedFor_later C

end Settles

end WalletPair.Sdk.DApp
