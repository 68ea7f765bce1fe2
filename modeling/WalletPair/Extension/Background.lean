import WalletPair.Lib.Run
import WalletPair.Sdk.DApp.State

/-! The background worker of the extension: its session objects, the two stored keys that
outlive it, and the calls of `tryReconnect`, `createSession` and the keepalive alarm that
are waiting for storage. A label of `step` is one turn of the event loop. -/

namespace WalletPair.Extension
open WalletPair.Lib.Run WalletPair.Sdk.DApp

def sessionMaxAgeMs : Nat := 24 * 60 * 60 * 1000

/-- Whether the stored time is there and more than the limit ago. -/
def expired (now : Nat) (connectedAt : Option Nat) : Bool :=
  match connectedAt with
  | none => false
  | some since => decide (sessionMaxAgeMs < now - since)

def reconnectBaseMs : Nat := 1000

def reconnectMaxMs : Nat := 30000

/-! ### The objects of the SDK -/

/-- What the worker can tell of a `DAppSession` and its transport. The pairing is named by
the number of its `createPairing`; whoever holds that number holds its keys. -/
structure DAppSession where
  phase : Phase := .idle
  keys : Option Nat := none
  sessionStartTime : Option Nat := none
  /-- The open socket that `disconnect` of the transport closes. -/
  socket : Bool := false
  /-- Sockets that `disconnect` does not reach: still opening, or replaced by a later one. -/
  strays : Nat := 0
  reconnectTimer : Bool := false
  /-- Whether its state came from a stored snapshot. -/
  restored : Bool := false
  deriving DecidableEq

structure Snapshot where
  keys : Option Nat
  sessionStartTime : Option Nat
  deriving DecidableEq

namespace DAppSession

/-- Closed, with no reconnect timer and no socket open or opening. -/
def Dead (o : DAppSession) : Prop :=
  o.phase = .closed ∧ o.socket = false ∧ o.strays = 0 ∧ o.reconnectTimer = false

instance (o : DAppSession) : Decidable o.Dead := inferInstanceAs (Decidable (_ ∧ _ ∧ _ ∧ _))

def serialize (o : DAppSession) : Snapshot := ⟨o.keys, o.sessionStartTime⟩

/-- A socket that is still opening is not in `transport.ws`, so it is left to open. -/
def close (o : DAppSession) : DAppSession :=
  { o with phase := .closed, socket := false, reconnectTimer := false }

def destroy (o : DAppSession) : DAppSession := { o.close with keys := none }

/-- After a `restore` that reports success. -/
def ofSnapshot (saved : Snapshot) : DAppSession :=
  { phase := .connected, keys := saved.keys, sessionStartTime := saved.sessionStartTime, restored := true }

/-- After `reconnect` has asked the transport for a socket. -/
def reconnect (o : DAppSession) : DAppSession :=
  { o with phase := .disconnected, strays := o.strays + 1, reconnectTimer := false }

/-- After `createPairing` has asked the transport for a socket. -/
def ofPairing (keys : Nat) : DAppSession := { keys := some keys, strays := 1 }

theorem close_dead_iff (o : DAppSession) : o.close.Dead ↔ o.strays = 0 := by
  simp [Dead, close]

theorem destroy_dead_iff (o : DAppSession) : o.destroy.Dead ↔ o.strays = 0 := by
  simp [Dead, destroy, close]

end DAppSession

/-! ### What the phase handler reads and writes -/

/-- A key of `chrome.storage.local` with the writes that were issued and are not applied yet. -/
structure Cell (α : Type) where
  value : Option α := none
  writes : List (Option α) := []

namespace Cell
variable {α : Type}

def save (c : Cell α) (value : Option α) : Cell α := { c with writes := c.writes ++ [value] }

/-- The storage applies the oldest write. -/
def apply (c : Cell α) : Cell α :=
  match c.writes with
  | [] => c
  | value :: rest => ⟨value, rest⟩

/-- What the key holds once every issued write is applied. -/
def settled (c : Cell α) : Option α := c.writes.getLast?.getD c.value

@[simp] theorem save_settled (c : Cell α) (value : Option α) : (c.save value).settled = value := by
  simp [save, settled]

@[simp] theorem apply_settled (c : Cell α) : c.apply.settled = c.settled := by
  obtain ⟨value, writes⟩ := c
  cases writes with
  | nil => rfl
  | cons first rest => cases rest <;> simp [apply, settled, List.getLast?_cons]

theorem settled_of_no_writes {c : Cell α} (quiet : c.writes = []) : c.settled = c.value := by
  simp [settled, quiet]

end Cell

structure Backoff where
  reconnectAttempt : Nat := 0
  /-- The delay of the timer, if one is set. -/
  reconnectTimer : Option Nat := none

/-- What the phase handler may change. `ended` records the pairings that ended since the
last one was started. -/
structure Shared where
  sessionState : Cell Snapshot := {}
  connectedAt : Cell Nat := {}
  backoff : Backoff := {}
  ended : List Nat := []

namespace Shared

def scheduleReconnect (s : Shared) : Shared :=
  if s.backoff.reconnectTimer.isSome then s
  else
    let delay := min (reconnectBaseMs * 2 ^ s.backoff.reconnectAttempt) reconnectMaxMs
    { s with backoff := ⟨s.backoff.reconnectAttempt + 1, some delay⟩ }

def resetReconnectBackoff (s : Shared) : Shared := { s with backoff := {} }

def saveSessionState (s : Shared) (state : Option Snapshot) : Shared :=
  { s with sessionState := s.sessionState.save state }

/-- Zero is falsy, and then the key is removed. -/
def saveConnectedAt (s : Shared) (ts : Option Nat) : Shared :=
  { s with connectedAt := s.connectedAt.save (ts.filter (· ≠ 0)) }

/-- `gone` is the pairing that ends here. -/
def handleSessionClosed (s : Shared) (gone : Option Nat) : Shared :=
  let s := (s.saveSessionState none).saveConnectedAt none
  { s with ended := gone.toList ++ s.ended }

/-- The phase handler of `attachSessionListeners`. -/
def onPhase (s : Shared) (now : Nat) (o : DAppSession) : Shared :=
  match o.phase with
  | .connected => (s.resetReconnectBackoff.saveSessionState (some o.serialize)).saveConnectedAt (some now)
  | .disconnected => s.scheduleReconnect
  | .closed => s.handleSessionClosed o.keys
  | _ => s

end Shared

/-! ### The worker -/

/-- Who called `tryReconnect`. Only the timer looks at the result. -/
inductive Caller where
  | timer
  | other
  deriving DecidableEq

/-- Where a call of `doTryReconnect` waits, with what it has read so far. A read of the
storage is answered (`reading` to `got`) before the call resumes. -/
inductive Stage where
  | readingState
  | gotState (saved : Option Snapshot)
  | readingAge (saved : Snapshot)
  | gotAge (saved : Snapshot) (connectedAt : Option Nat)
  | readingSettings (saved : Snapshot)
  | reconnecting
  | readingWallet
  deriving DecidableEq

/-- Where a call of the keepalive handler waits. -/
inductive Alarm where
  | readingAge
  | gotAge (connectedAt : Option Nat)
  | readingState
  | gotState (saved : Option Snapshot)
  deriving DecidableEq

/-- How `restore` ends: it may refuse the text, also after it has taken the keys from it. -/
inductive Restore where
  | restored
  | refused
  | halfRead
  deriving DecidableEq

structure Worker where
  now : Nat
  shared : Shared := {}
  objects : Nat → Option DAppSession := fun _ => none
  nextObject : Nat := 0
  nextKeys : Nat := 0
  session : Option Nat := none
  /-- The object that the handlers of `attachSessionListeners` are on. -/
  listening : Option Nat := none
  /-- The call of `doTryReconnect` in flight: there is at most one, the flag `reconnecting`. -/
  rebuild : Option (Caller × Stage) := none
  /-- Calls of `createSession` that wait for the settings. -/
  creating : Nat := 0
  alarms : List Alarm := []
  /-- When each pairing was first seen connected. -/
  firstConnected : Nat → Option Nat := fun _ => none
  /-- Each reconnection of a restored session and each request on one, with its instant. -/
  uses : List (Nat × Nat) := []

namespace Worker

def object (w : Worker) (id : Option Nat) : Option DAppSession := id.bind w.objects

/-- The object in the module variable. -/
def current (w : Worker) : Option DAppSession := w.object w.session

def put (w : Worker) (id : Nat) (o : DAppSession) : Worker :=
  { w with objects := Function.update w.objects id (some o) }

def recordUse (w : Worker) (o : DAppSession) : Worker :=
  if o.restored then { w with uses := w.uses ++ o.keys.toList.map (·, w.now) } else w

/-- The first time a pairing is connected is kept. -/
def recordConnected (w : Worker) (o : DAppSession) : Worker :=
  match o.keys with
  | none => w
  | some keys =>
    let first := (w.firstConnected keys).getD w.now
    { w with firstConnected := Function.update w.firstConnected keys (some first) }

/-- An object becomes `next`; a new phase is reported to the handler, if it listens. -/
def change (w : Worker) (id : Nat) (o next : DAppSession) : Worker :=
  let w := w.put id next
  if o.phase = next.phase then w
  else
    let w := if next.phase = .connected then w.recordConnected next else w
    if w.listening = some id then { w with shared := w.shared.onPhase w.now next } else w

/-- `close` or `destroy` on an object. -/
def finishObject (w : Worker) (id : Nat) (f : DAppSession → DAppSession) : Worker :=
  match w.objects id with
  | none => w
  | some o => w.change id o (f o)

def install (w : Worker) (o : DAppSession) : Worker :=
  { w.put w.nextObject o with
    session := some w.nextObject, listening := some w.nextObject, nextObject := w.nextObject + 1 }

/-- The part of `createSession` after the settings are there. -/
def createSession (w : Worker) : Worker :=
  let w := match w.session with
    | none => w
    | some id => w.finishObject id .destroy
  let w := w.install (.ofPairing w.nextKeys)
  { w with nextKeys := w.nextKeys + 1, shared := { w.shared with ended := [] } }

/-- `tryReconnect`: a call while one is in flight fails at once. -/
def tryReconnect (w : Worker) (caller : Caller) : Worker :=
  match w.rebuild, caller with
  | none, _ => { w with rebuild := some (caller, .readingState) }
  | some _, .timer => { w with shared := w.shared.scheduleReconnect }
  | some _, .other => w

/-- `doTryReconnect` returns. -/
def finishRebuild (w : Worker) (caller : Caller) (ok : Bool) : Worker :=
  let w := { w with rebuild := none }
  match caller, ok with
  | .other, _ => w
  | .timer, true =>
    { w with shared := { w.shared with backoff := { w.shared.backoff with reconnectAttempt := 0 } } }
  | .timer, false => { w with shared := w.shared.scheduleReconnect }

/-- The rest of `doTryReconnect` once the settings are there, up to the await of `reconnect`. -/
def restoreSession (w : Worker) (caller : Caller) (saved : Snapshot) (outcome : Restore) : Worker :=
  let id := w.nextObject
  let w := w.install {}
  match outcome with
  | .refused => w.finishRebuild caller false
  | .halfRead => (w.put id { keys := saved.keys }).finishRebuild caller false
  | .restored =>
    let o := DAppSession.ofSnapshot saved
    let w := (w.change id {} o).change id o o.reconnect
    { w.recordUse o with rebuild := some (caller, .reconnecting) }

/-- The call of `doTryReconnect` in flight takes its next step. -/
def advance (w : Worker) (outcome : Restore) : Worker :=
  match w.rebuild with
  | none => w
  | some (caller, stage) =>
    match stage with
    | .readingState => { w with rebuild := some (caller, .gotState w.shared.sessionState.value) }
    | .gotState none => w.finishRebuild caller false
    | .gotState (some saved) => { w with rebuild := some (caller, .readingAge saved) }
    | .readingAge saved => { w with rebuild := some (caller, .gotAge saved w.shared.connectedAt.value) }
    | .gotAge saved connectedAt =>
      if expired w.now connectedAt then
        { w with shared := (w.shared.saveSessionState none).saveConnectedAt none }.finishRebuild caller false
      else { w with rebuild := some (caller, .readingSettings saved) }
    | .readingSettings saved => w.restoreSession caller saved outcome
    | .reconnecting => { w with rebuild := some (caller, .readingWallet) }
    | .readingWallet => w.finishRebuild caller true

/-- The keepalive handler up to its first await. -/
def alarm (w : Worker) : Worker :=
  if w.current.map (·.phase) = some .connected then { w with alarms := w.alarms ++ [.readingAge] }
  else { w with alarms := w.alarms ++ [.readingState] }

/-- The session is closed and given up because of its age. -/
def expire (w : Worker) (id : Nat) : Worker :=
  let gone := (w.objects id).bind (·.keys)
  let w := { w.finishObject id .close with session := none }
  { w with shared := w.shared.handleSessionClosed gone }

/-- A waiting call of the keepalive handler takes its next step. -/
def resumeAlarm (w : Worker) (i : Nat) : Worker :=
  match w.alarms[i]? with
  | none => w
  | some .readingAge => { w with alarms := w.alarms.set i (.gotAge w.shared.connectedAt.value) }
  | some (.gotAge connectedAt) =>
    let w := { w with alarms := w.alarms.eraseIdx i }
    -- the variable is read again: it may be empty by now, or hold another session
    match w.session with
    | none => w
    | some id => if expired w.now connectedAt then w.expire id else w
  | some .readingState => { w with alarms := w.alarms.set i (.gotState w.shared.sessionState.value) }
  | some (.gotState saved) =>
    let w := { w with alarms := w.alarms.eraseIdx i }
    if saved.isSome then w.tryReconnect .other else w

/-- The pairing a user ends: that of the session, or, when the worker has none yet, the
stored one. -/
def ending (w : Worker) : Option Nat :=
  match w.current with
  | some o => o.keys
  | none => w.shared.sessionState.settled.bind (·.keys)

/-- The user's disconnect. -/
def disconnect (w : Worker) : Worker :=
  let gone := w.ending
  let w := { w with listening := none, shared := w.shared.resetReconnectBackoff }
  let w := match w.session with
    | none => w
    | some id => { w.finishObject id .close with session := none }
  { w with shared := w.shared.handleSessionClosed gone }

/-- The SDK moves an object on its own: a socket opens, drops or brings a message, a timer
fires, the user accepts or rejects the wallet. Nothing of this can reach a dead object. -/
def sdk (w : Worker) (id : Nat) (phase : Phase) (socket : Bool) (strays : Nat) (reconnectTimer : Bool) : Worker :=
  match w.objects id with
  | none => w
  | some o =>
    if o.Dead then w
    else
      let next := { o with phase := phase, socket := socket, strays := strays, reconnectTimer := reconnectTimer }
      let w := w.change id o next
      if phase = .connected ∧ o.phase ≠ .connected then
        -- the lifetime starts after the handler has stored the snapshot
        (w.put id { next with sessionStartTime := some (o.sessionStartTime.getD w.now) }).recordUse next
      else w

/-- A request is forwarded to the wallet. -/
def request (w : Worker) : Worker :=
  match w.current with
  | none => w
  | some o => if o.phase = .connected then w.recordUse o else w

/-- The browser stops the worker and starts it again. Its memory is lost; what the storage
holds and the writes it was given are not. -/
def restart (w : Worker) : Worker :=
  { w with
    shared := { w.shared with backoff := {} }
    objects := fun _ => none, session := none, listening := none
    rebuild := some (.other, .readingState), creating := 0, alarms := [] }

end Worker

inductive Label where
  | tick (ms : Nat)
  | writeState
  | writeConnectedAt
  | fireTimer
  | alarm
  | resumeAlarm (i : Nat)
  | startPairing
  | settings
  | disconnect
  | advance (outcome : Restore)
  | sdk (id : Nat) (phase : Phase) (socket : Bool) (strays : Nat) (reconnectTimer : Bool)
  | request
  | restart

def step (w : Worker) : Label → Worker
  | .tick ms => { w with now := w.now + ms }
  | .writeState => { w with shared := { w.shared with sessionState := w.shared.sessionState.apply } }
  | .writeConnectedAt => { w with shared := { w.shared with connectedAt := w.shared.connectedAt.apply } }
  | .fireTimer =>
    if w.shared.backoff.reconnectTimer.isSome then
      { w with shared := { w.shared with backoff := { w.shared.backoff with reconnectTimer := none } } }.tryReconnect
        .timer
    else w
  | .alarm => w.alarm
  | .resumeAlarm i => w.resumeAlarm i
  | .startPairing => { w with creating := w.creating + 1 }
  | .settings => if w.creating = 0 then w else { w.createSession with creating := w.creating - 1 }
  | .disconnect => w.disconnect
  | .advance outcome => w.advance outcome
  | .sdk id phase socket strays reconnectTimer => w.sdk id phase socket strays reconnectTimer
  | .request => w.request
  | .restart => w.restart

/-- A worker that starts for the first time, which tries to reconnect. -/
def installed (now : Nat) : Worker := { now := now, rebuild := some (.other, .readingState) }

/-! ### What each part leaves alone -/

namespace Worker
variable (w : Worker) (id : Nat) (o next : DAppSession) (caller : Caller)

@[simp] theorem recordUse_frame :
    (w.recordUse o).now = w.now ∧ (w.recordUse o).shared = w.shared ∧ (w.recordUse o).objects = w.objects ∧
    (w.recordUse o).nextObject = w.nextObject ∧ (w.recordUse o).session = w.session ∧
    (w.recordUse o).listening = w.listening ∧ (w.recordUse o).rebuild = w.rebuild ∧
    (w.recordUse o).firstConnected = w.firstConnected := by
  unfold recordUse
  split <;> simp

@[simp] theorem recordConnected_frame :
    (w.recordConnected o).now = w.now ∧ (w.recordConnected o).shared = w.shared ∧
    (w.recordConnected o).objects = w.objects ∧ (w.recordConnected o).nextObject = w.nextObject ∧
    (w.recordConnected o).session = w.session ∧ (w.recordConnected o).listening = w.listening ∧
    (w.recordConnected o).rebuild = w.rebuild ∧ (w.recordConnected o).nextKeys = w.nextKeys ∧
    (w.recordConnected o).uses = w.uses := by
  unfold recordConnected
  split <;> simp

@[simp] theorem change_frame :
    (w.change id o next).now = w.now ∧
    (w.change id o next).objects = Function.update w.objects id (some next) ∧
    (w.change id o next).nextObject = w.nextObject ∧ (w.change id o next).session = w.session ∧
    (w.change id o next).listening = w.listening ∧ (w.change id o next).rebuild = w.rebuild ∧
    (w.change id o next).nextKeys = w.nextKeys ∧ (w.change id o next).uses = w.uses := by
  unfold change
  split
  · simp [put]
  · dsimp only
    split <;> split <;> simp [put]

@[simp] theorem tryReconnect_frame :
    (w.tryReconnect caller).now = w.now ∧ (w.tryReconnect caller).objects = w.objects ∧
    (w.tryReconnect caller).nextObject = w.nextObject ∧ (w.tryReconnect caller).session = w.session ∧
    (w.tryReconnect caller).listening = w.listening ∧
    (w.tryReconnect caller).firstConnected = w.firstConnected ∧ (w.tryReconnect caller).uses = w.uses := by
  unfold tryReconnect
  split <;> simp

@[simp] theorem finishRebuild_frame (ok : Bool) :
    (w.finishRebuild caller ok).now = w.now ∧ (w.finishRebuild caller ok).objects = w.objects ∧
    (w.finishRebuild caller ok).nextObject = w.nextObject ∧ (w.finishRebuild caller ok).session = w.session ∧
    (w.finishRebuild caller ok).listening = w.listening ∧ (w.finishRebuild caller ok).rebuild = none ∧
    (w.finishRebuild caller ok).firstConnected = w.firstConnected ∧
    (w.finishRebuild caller ok).uses = w.uses := by
  unfold finishRebuild
  split <;> simp

end Worker

end WalletPair.Extension
