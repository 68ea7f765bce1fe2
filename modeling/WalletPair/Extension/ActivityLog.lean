import WalletPair.Lib.PromiseRecord
import Mathlib.Data.List.Permutation
import WalletPair.Sdk.Json

/-! The activity log of the extension's storage. Entries are added and updated under a
promise lock; `clearActivityLog` removes the stored log without it. -/

namespace WalletPair.Extension
open WalletPair.Lib WalletPair.Lib.PromiseLock WalletPair.Sdk

inductive ActivityCategory where
  | read
  | sign
  | tx
  | auth
  | local
  deriving DecidableEq

inductive ActivityStatus where
  | pending
  | success
  | rejected
  | error
  deriving DecidableEq

structure RpcError where
  code : Int
  message : String
  deriving DecidableEq

/-- What `addActivityEntry` is given of an entry and no later call changes. -/
structure ActivityRequest where
  id : String
  timestamp : Nat
  origin : String
  method : String
  category : ActivityCategory
  params : Option Json

structure ActivityEntry extends ActivityRequest where
  status : ActivityStatus
  result : Option Json
  error : Option RpcError

structure ActivityResponse where
  result : Option Json := none
  error : Option RpcError := none

def maxActivity : Nat := 50

/-- The changes of `updateActivityStatus` to the entry it found. -/
def ActivityEntry.settle (entry : ActivityEntry) (status : ActivityStatus) (response : Option ActivityResponse) :
    ActivityEntry :=
  { entry with
    status
    result := (response.bind (·.result)).or entry.result
    error := (response.bind (·.error)).or entry.error }

/-- The log with its first entry of that id settled, if there is one. -/
def settleFirst (id : String) (status : ActivityStatus) (response : Option ActivityResponse) :
    List ActivityEntry → Option (List ActivityEntry)
  | [] => none
  | entry :: rest =>
    if entry.id = id then some (entry.settle status response :: rest)
    else (settleFirst id status response rest).map (entry :: ·)

inductive ActivityCall where
  | addActivityEntry (entry : ActivityEntry)
  | updateActivityStatus (id : String) (status : ActivityStatus) (response : Option ActivityResponse)
  | clearActivityLog

/-- A log that was removed reads as the empty one. -/
def activityOperations : Operations ActivityCall (List ActivityEntry) where
  blind
    | .clearActivityLog => some []
    | _ => none
  update
    | .addActivityEntry entry, log => some ((entry :: log).take maxActivity)
    | .updateActivityStatus id status response, log => settleFirst id status response log
    | .clearActivityLog, _ => none

/-- The storage module after the calls and answers of the labels. -/
def activityRun (stored : List ActivityEntry) (labels : List (Label ActivityCall)) : State ActivityCall (List ActivityEntry) :=
  Run.run (step activityOperations) { store := stored } labels

/-! ### Size and order -/

/-- The entry a call adds, as far as it stays the same. -/
def ActivityCall.added : ActivityCall → Option ActivityRequest
  | .addActivityEntry entry => some entry.toActivityRequest
  | _ => none

theorem settleFirst_requests {id : String} {status : ActivityStatus} {response : Option ActivityResponse}
    {log settled : List ActivityEntry} (found : settleFirst id status response log = some settled) :
    settled.map ActivityEntry.toActivityRequest = log.map ActivityEntry.toActivityRequest := by
  induction log generalizing settled with
  | nil => cases found
  | cons entry rest ih =>
    unfold settleFirst at found
    by_cases here : entry.id = id
    · rw [if_pos here] at found
      cases found
      rfl
    · rw [if_neg here] at found
      obtain ⟨tail, later, rfl⟩ := Option.map_eq_some_iff.mp found
      rw [List.map_cons, List.map_cons, ih later]

/-- The entries stand in the order in which they were added, the newest first. -/
def NewestFirst (stored : List ActivityEntry) (done : List ActivityCall) (log : List ActivityEntry) : Prop :=
  (log.map ActivityEntry.toActivityRequest).Sublist
    ((done.filterMap ActivityCall.added).reverse ++ stored.map ActivityEntry.toActivityRequest)

theorem newestFirst_traces (stored : List ActivityEntry) : Traces activityOperations (NewestFirst stored) := by
  unfold NewestFirst
  have grow : ∀ (done : List ActivityCall) (op : ActivityCall) (log : List ActivityRequest),
      log.Sublist ((done.filterMap ActivityCall.added).reverse ++ stored.map ActivityEntry.toActivityRequest) →
      log.Sublist (((done ++ [op]).filterMap ActivityCall.added).reverse ++ stored.map ActivityEntry.toActivityRequest) := by
    intro done op log part
    rw [List.filterMap_append, List.reverse_append, List.append_assoc]
    exact part.trans (List.sublist_append_right _ _)
  refine ⟨fun done op log => grow done op _, ?_, ?_⟩
  · intro done op seen value part made
    cases op with
    | addActivityEntry entry =>
      cases made
      have whole : (entry :: seen).map ActivityEntry.toActivityRequest |>.Sublist
          (((done ++ [ActivityCall.addActivityEntry entry]).filterMap ActivityCall.added).reverse ++
            stored.map ActivityEntry.toActivityRequest) := by
        rw [List.filterMap_append, List.reverse_append]
        exact part.cons_cons entry.toActivityRequest
      exact ((List.take_sublist maxActivity _).map _).trans whole
    | updateActivityStatus id status response =>
      rw [settleFirst_requests made]
      exact grow done _ _ part
    | clearActivityLog => cases made
  · intro done op value made
    cases op with
    | clearActivityLog =>
      cases made
      exact List.nil_sublist _
    | _ => cases made

theorem maxActivity_traces : Traces activityOperations (fun _ log => log.length ≤ maxActivity) := by
  refine ⟨fun _ _ _ short => short, ?_, ?_⟩
  · intro done op seen value short made
    cases op with
    | addActivityEntry entry =>
      cases made
      exact List.length_take_le _ _
    | updateActivityStatus id status response =>
      have same := congrArg List.length (settleFirst_requests made)
      rw [List.length_map, List.length_map] at same
      rwa [same]
    | clearActivityLog => cases made
  · intro done op value made
    cases op with
    | clearActivityLog =>
      cases made
      exact Nat.zero_le _
    | _ => cases made

/-! ### Linearisation -/

/-- The log is what the calls make of it one at a time, as long as every write that is carried
out replaces the log its call read. Only a clear can come between: while a call is between its
read and its write, the log changes by its own write or by a clear. In every run the log holds at
most fifty entries, the newest first. -/
theorem activity_log_linearisable (stored : List ActivityEntry) (short : stored.length ≤ maxActivity)
    (labels : List (Label ActivityCall)) :
    let s := activityRun stored labels
    (Run.Along (step activityOperations) Fresh { store := stored } labels → Linearised activityOperations stored s) ∧
    (∀ (i : Nat) (call : PromiseLock.Call ActivityCall (List ActivityEntry)) (seen : List ActivityEntry) (l : Label ActivityCall),
      s.calls[i]? = some call → call.between = some seen → (step activityOperations s l).store ≠ s.store →
      l = .advance i true ∨
        ∃ j other, l = .advance j true ∧ s.calls[j]? = some other ∧ other.op = .clearActivityLog) ∧
    s.store.length ≤ maxActivity ∧ NewestFirst stored (s.calls.map PromiseLock.Call.op) s.store := by
  intro s
  have sound : Sound activityOperations s := sound_run stored labels
  refine ⟨linearised_run, ?_, ?_, ?_⟩
  · intro i call seen l known inside changed
    rcases disturbed sound.chained sound.recorded known inside changed with own | ⟨j, other, rfl, found, unguarded⟩
    · exact Or.inl own
    · refine Or.inr ⟨j, other, rfl, found, ?_⟩
      cases named : other.op with
      | clearActivityLog => rfl
      | _ =>
        rw [named] at unguarded
        exact absurd rfl unguarded
  · exact traced_run maxActivity_traces short labels
  · have traced : NewestFirst stored s.history s.store :=
      traced_run (newestFirst_traces stored) (List.Sublist.refl _) labels
    have locked : ∀ op : ActivityCall, op.added.isSome → activityOperations.blind op = none := by
      intro op some
      cases op with
      | addActivityEntry entry => rfl
      | _ => cases some
    have part := history_sublist ActivityCall.added locked sound
    exact traced.trans (part.reverse.append (List.Sublist.refl _))

def siteEntry (id : String) : ActivityEntry where
  id := id
  timestamp := 1700000000000
  origin := "https://app.example"
  method := "personal_sign"
  category := .sign
  params := none
  status := .pending
  result := none
  error := none

/-- An entry is added; a second call reads the log, and before it writes the log is cleared. -/
def clearedBetween : List (Label ActivityCall) :=
  (.issue (.addActivityEntry (siteEntry "1")) :: List.replicate 6 (.advance 0 true) : List (Label ActivityCall)) ++
    (.issue (.addActivityEntry (siteEntry "2")) :: List.replicate 2 (.advance 1 true) : List (Label ActivityCall)) ++
      (.issue .clearActivityLog :: List.replicate 3 (.advance 2 true) : List (Label ActivityCall)) ++
        (List.replicate 4 (.advance 1 true) : List (Label ActivityCall))

/-- The same calls, where the log is cleared before the second one reads it. -/
def clearedBefore : List (Label ActivityCall) :=
  (.issue (.addActivityEntry (siteEntry "1")) :: List.replicate 6 (.advance 0 true) : List (Label ActivityCall)) ++
    (.issue (.addActivityEntry (siteEntry "2")) :: List.replicate 1 (.advance 1 true) : List (Label ActivityCall)) ++
      (.issue .clearActivityLog :: List.replicate 3 (.advance 2 true) : List (Label ActivityCall)) ++
        (List.replicate 5 (.advance 1 true) : List (Label ActivityCall))

theorem activity_log_linearisable_sample :
    Linearised activityOperations [] (activityRun [] clearedBefore) ∧
      (activityRun [] clearedBefore).store.map (·.id) = ["2"] := by
  refine ⟨(activity_log_linearisable [] (Nat.zero_le _) clearedBefore).1 ?_, rfl⟩
  simp only [clearedBefore, List.replicate, List.cons_append, List.nil_append]
  repeat first | exact trivial | refine ⟨trivial, ?_⟩ | refine ⟨fun _ => rfl, ?_⟩

/-- A clear between the read and the write of an add is lost: the entry that was there before
it is there again, and no order of the three calls explains it. -/
theorem cleared_entry_reappears :
    let s := activityRun [] clearedBetween
    s.Done ∧ s.precedes 0 2 = true ∧ s.store.map (·.id) = ["2", "1"] ∧ ¬ Linearised activityOperations [] s := by
  intro s
  refine ⟨?_, rfl, rfl, ?_⟩
  · have all : s.calls.all (·.stage.isReleased) = true := rfl
    exact fun call mem => List.all_eq_true.mp all call mem
  · rintro ⟨order, nodup, members, realTime, result⟩
    have same : ∀ i, i ∈ order ↔ i ∈ [0, 1, 2] := by
      intro i
      rw [members i]
      match i with
      | 0 | 1 | 2 => exact iff_of_true rfl (by decide)
      | i + 3 => exact iff_of_false Bool.false_ne_true (by simp)
    have perm : order.Perm [0, 1, 2] := (List.perm_ext_iff_of_nodup nodup (by decide)).mpr same
    have ids := congrArg (List.map (·.id)) result
    have all : ∀ order ∈ [0, 1, 2].permutations', (order.Pairwise fun i j => s.precedes j i = false) →
        ((order.filterMap fun i => (s.calls[i]?).map PromiseLock.Call.op).foldl activityOperations.perform []).map (·.id) ≠ ["2", "1"] := by
      decide +kernel
    exact all order (List.mem_permutations'.mpr perm) realTime ids.symm

end WalletPair.Extension
