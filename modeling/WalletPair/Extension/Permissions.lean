import WalletPair.Lib.OrderedMap
import WalletPair.Lib.PromiseRecord

/-! The permissions of the extension's storage: `grantPermission` and `revokePermission`
read the stored map, change it and write it back under one promise lock. -/

namespace WalletPair.Extension
open WalletPair.Lib WalletPair.Lib.PromiseLock

structure OriginPermission where
  origin : String
  granted : Bool
  grantedAt : Nat
  deriving DecidableEq

abbrev Permissions := OrderedMap OriginPermission

namespace Permissions

def grant (perms : Permissions) (origin : String) (now : Nat) : Permissions := perms.set origin ⟨origin, true, now⟩

def revoke (perms : Permissions) (origin : String) : Permissions := perms.delete origin

def isPermitted (perms : Permissions) (origin : String) : Bool := (perms.get origin).any (·.granted)

end Permissions

/-- A call of the storage module; `now` is what `Date.now()` returns when the call has read the map. -/
inductive PermissionCall where
  | grantPermission (origin : String) (now : Nat)
  | revokePermission (origin : String)
  deriving DecidableEq

/-- Both take the lock, and both write what they make of the map. -/
def permissionOperations : Operations PermissionCall Permissions where
  blind _ := none
  update
    | .grantPermission origin now, perms => some (perms.grant origin now)
    | .revokePermission origin, perms => some (perms.revoke origin)

/-- The storage module after the calls and answers of the labels. -/
def permissionRun (stored : Permissions) (labels : List (Label PermissionCall)) : State PermissionCall Permissions :=
  Run.run (step permissionOperations) { store := stored } labels

/-- The call returned without an error. -/
def resolved (call : PromiseLock.Call PermissionCall Permissions) : Bool := call.stage = .released true

/-- Once all calls have returned, those that took effect are those that returned without an error. -/
theorem succeeded_of_done {s : State PermissionCall Permissions} (done : s.Done) :
    s.succeeded permissionOperations = (s.calls.filter resolved).map PromiseLock.Call.op := by
  unfold State.succeeded
  congr 1
  apply List.filter_congr
  intro call mem
  have ended := done call mem
  unfold effective resolved
  cases stage : call.stage with
  | released ok => cases ok <;> simp
  | _ =>
    rw [stage] at ended
    cases ended

/-- Permission updates take effect one after the other, in the order of the calls. The map is
at any time the fold of the calls carried out so far, and in the end of those that returned
without an error; whoever left the queue finds every earlier call over; and whatever the
storage answers, each step brings the calls closer to their end and one of them can take it. -/
theorem permission_updates_serialised (stored : Permissions) (labels : List (Label PermissionCall)) :
    let s := permissionRun stored labels
    (s.order.Pairwise (· < ·) ∧
      s.store = (s.succeeded permissionOperations).foldl permissionOperations.perform stored) ∧
    (s.Done → s.store = ((s.calls.filter resolved).map PromiseLock.Call.op).foldl permissionOperations.perform stored) ∧
    (∀ (i j : Nat) (earlier later : PromiseLock.Call PermissionCall Permissions), i < j → s.calls[i]? = some earlier →
      s.calls[j]? = some later → later.stage ≠ .queued → earlier.stage.isReleased = true) ∧
    (s.Done ∨ ∃ i, ∀ ok, (advance permissionOperations s i ok).work < s.work) ∧
    ∀ answers : Nat → Bool, ∃ turns : List Nat,
      (Run.run (step permissionOperations) s (turns.mapIdx fun k i => .advance i (answers k))).Done := by
  intro s
  have all : ∀ op, permissionOperations.blind op = none := fun _ => rfl
  have sound : Sound permissionOperations s := sound_run stored labels
  obtain ⟨ascending, history⟩ := history_eq_succeeded all sound
  have fold : s.store = (s.succeeded permissionOperations).foldl permissionOperations.perform stored := by
    rw [← history]
    exact sequential_run (fresh_run all stored labels)
  refine ⟨⟨ascending, fold⟩, fun done => ?_, ?_, progress sound.chained, drains sound.chained⟩
  · rw [fold, succeeded_of_done done]
  · intro i j earlier later before first second left
    exact sound.chained.exclusive first second (all _) (all _) before left

end WalletPair.Extension
