import WalletPair.Extension.Requests
import WalletPair.Lib.Run

/-! The calls of `handleRpcRequest` that are under way in the background worker, with the
deferred requests, their timers and the pairing flag. A label is one turn of the event loop. -/

namespace WalletPair.Extension.Rpc
open WalletPair.Lib.Run WalletPair.Sdk WalletPair.Sdk.DApp

/-! ### Calls -/

/-- Who awaits the response: the page, the flush on behalf of a deferred call, or the popup, which
awaits `createSession` alone. -/
inductive Caller where
  | page
  | flush (call : Nat)
  | popup
  deriving DecidableEq

/-- What a call awaits. -/
inductive Stage where
  /-- `isPermitted`. -/
  | permission
  /-- `getSettings` in `createSession`. -/
  | settings
  /-- The transport of that session object, in `createPairing`. -/
  | connecting (object : Nat)
  | proxying (override : Bool)
  | relaying
  | deferred
  /-- Nothing: its caller is about to go on with the response. -/
  | returned (response : RpcResponse)
  | ended

structure Call where
  caller : Caller
  id : String
  payload : EIP1193Request
  origin : Option String
  stage : Stage

/-- An entry of `deferredRequests`. Its resolver and its timer are those of the call. -/
structure Deferred where
  id : String
  payload : EIP1193Request
  origin : Option String
  call : Nat

/-- `deferrals`, `answers` and `replies` record which calls were deferred, what their resolvers
were called with, and what the page was sent. -/
structure Desk where
  known : Knowledge := {}
  session : Option (Nat × Phase) := none
  objects : Nat := 0
  pairingInProgress : Bool := false
  permissions : Permissions := .empty
  deferredRequests : List Deferred := []
  timers : List (Nat × String) := []
  calls : List Call := []
  deferrals : List Nat := []
  answers : List (Nat × RpcResponse) := []
  replies : List (Nat × RpcResponse) := []

namespace Desk

def setStage (s : Desk) (n : Nat) (stage : Stage) : Desk :=
  { s with calls := s.calls.modify n fun c => { c with stage } }

def stageOf (s : Desk) (n : Nat) : Option Stage := (s.calls[n]?).map (·.stage)

/-! ### Deferred requests -/

/-- The resolver of a deferred call. -/
def resolve (s : Desk) (now : Nat) (call : Nat) (origin : Option String) (response : RpcResponse) : Desk :=
  { s with
    permissions := onDeferred s.permissions origin response now
    answers := s.answers ++ [(call, response)]
    calls := s.calls.modify call fun c => match c.stage with
      | .deferred => { c with stage := .returned response }
      | _ => c }

def addDeferredRequest (s : Desk) (n : Nat) (c : Call) : Desk :=
  let req : Deferred := ⟨c.id, c.payload, c.origin, n⟩
  { s with
    deferredRequests := s.deferredRequests ++ [req]
    timers := s.timers ++ [(n, c.id)]
    deferrals := s.deferrals ++ [n] }.setStage n .deferred

/-- `shift` and `clearTimeout`. -/
def shift (s : Desk) (req : Deferred) (rest : List Deferred) : Desk :=
  { s with deferredRequests := rest, timers := s.timers.erase (req.call, req.id) }

def rejectFirst (now : Nat) (response : RpcResponse) (s : Desk) : Desk :=
  match s.deferredRequests with
  | [] => s
  | req :: rest => (s.shift req rest).resolve now req.call req.origin response

def rejectAllDeferred (s : Desk) (now : Nat) (code : Int) (message : String) : Desk :=
  (rejectFirst now (.ofError code message))^[s.deferredRequests.length] s

def flushFirst (s : Desk) : Desk :=
  match s.deferredRequests with
  | [] => s
  | req :: rest =>
    let s := s.shift req rest
    { s with calls := s.calls ++ [⟨.flush req.call, req.id, req.payload, req.origin, .permission⟩] }

def flushDeferredRequests (s : Desk) : Desk := flushFirst^[s.deferredRequests.length] s

/-- The timeout of a deferred request answers the first one with its id. -/
def timeout (s : Desk) (now : Nat) (timer : Nat × String) : Desk :=
  if timer ∈ s.timers then
    let s := { s with timers := s.timers.erase timer }
    match s.deferredRequests.find? (·.id == timer.2) with
    | none => s
    | some req =>
      { s with deferredRequests := s.deferredRequests.eraseP (·.id == timer.2) }.resolve now req.call req.origin
        (.ofError 4001 "Request timed out waiting for wallet pairing")
  else s

/-! ### The session -/

def handleSessionClosed (s : Desk) (now : Nat) : Desk :=
  { s with pairingInProgress := false, known := {} }.rejectAllDeferred now 4001 "Session closed"

def onPhase (s : Desk) (now : Nat) : Phase → Desk
  | .connected => { s with pairingInProgress := false }.flushDeferredRequests
  | .closed => s.handleSessionClosed now
  | _ => s

/-- The current session changes its phase. -/
def setPhase (s : Desk) (now : Nat) (phase : Phase) : Desk :=
  match s.session with
  | none => s
  | some (object, before) => if before = phase then s else { s with session := some (object, phase) }.onPhase now phase

/-- `session.destroy()`, where there is one. -/
def destroySession (s : Desk) (now : Nat) : Desk := s.setPhase now .closed

def newSession (s : Desk) : Desk := { s with session := some (s.objects, .idle), objects := s.objects + 1 }

end Desk

/-- How an awaited part of `createSession` ends: it fails, what follows it throws, or neither. -/
inductive Outcome where
  | refused
  | broken
  | done
  deriving DecidableEq

/-! ### Labels -/

inductive Label where
  | request (id : String) (payload : EIP1193Request) (origin : Option String)
  | startPairing
  /-- The storage answers `isPermitted`. -/
  | permission (call : Nat) (ok : Bool)
  /-- The storage answers `getSettings`; `createPairing` runs up to its await. -/
  | settings (call : Nat) (outcome : Outcome)
  /-- The transport answers; what is left of `createPairing` runs. -/
  | connect (call : Nat) (outcome : Outcome)
  | proxied (call : Nat) (answer : Except Failure (Option Json))
  | relayed (call : Nat) (answer : Except Failure (Option Json))
  /-- The caller goes on with the response. -/
  | deliver (call : Nat)
  | timeout (timer : Nat × String)
  /-- The current session changes its phase by itself. -/
  | phase (phase : Phase)
  | rejectWallet
  /-- Disconnected by the user, or too old. -/
  | disconnect
  /-- `tryReconnect` installs a session, and its snapshot is restored or not. -/
  | rebuild (restored : Bool)
  /-- The wallet tells, or the storage told, something. -/
  | learn (known : Knowledge)
  | revoke (origin : String)

/-- The response and the permissions of a request that the wallet answers at once. -/
def answerDirectly (session : Bool) (payload : EIP1193Request) (origin : Option String)
    (answer : Except Failure (Option Json)) (perms : Permissions) (now : Nat) : RpcResponse × Permissions :=
  let (response, grants) := afterWallet session payload.method answer
  (response, if grants then grantTo perms origin now else perms)

section
variable (toLowerCase : String → String)

namespace Desk

/-- A call goes on once its permission is read. -/
def handle (s : Desk) (n : Nat) (c : Call) : Desk :=
  match handleRpcRequest toLowerCase s.known (s.session.map (·.2)) s.pairingInProgress (permits s.permissions c.origin) c.payload with
  | .answered response => s.setStage n (.returned response)
  | .threw _ => s.setStage n .ended
  | .pairs => { s with pairingInProgress := true }.setStage n .settings
  | .defers => s.addDeferredRequest n c
  | .proxies _ _ _ _ override => s.setStage n (.proxying override)
  | .relays _ _ => s.setStage n .relaying

/-- `createSession` after the settings were read. -/
def createSession (s : Desk) (now n : Nat) (outcome : Outcome) : Desk :=
  match outcome with
  | .refused => s.setStage n .ended
  | .broken => ((s.setStage n .ended).destroySession now).newSession
  | .done => ((s.setStage n (.connecting s.objects)).destroySession now).newSession

/-- After `createSession`. -/
def created (s : Desk) (n : Nat) (c : Call) : Desk :=
  match c.caller with
  | .popup => s.setStage n .ended
  | _ => s.addDeferredRequest n c

/-- `connectTransport` after the transport's answer. -/
def connectTransport (s : Desk) (now n object : Nat) (c : Call) (outcome : Outcome) : Desk :=
  let waits := if s.session.any (·.1 = object) then s.setPhase now .waiting else s
  match outcome with
  | .refused => s.setStage n .ended
  | .broken => waits.setStage n .ended
  | .done => waits.created n c

end Desk

/-- One turn, at a time. -/
def step (s : Desk) (turn : Nat × Label) : Desk :=
  let now := turn.1
  match turn.2 with
  | .request id payload origin => { s with calls := s.calls ++ [⟨.page, id, payload, origin, .permission⟩] }
  | .startPairing => { s with calls := s.calls ++ [⟨.popup, "", ⟨"", none⟩, none, .settings⟩] }
  | .permission n ok =>
    match s.calls[n]? with
    | some c => match c.stage with
      | .permission => if ok then s.handle toLowerCase n c else s.setStage n .ended
      | _ => s
    | none => s
  | .settings n outcome =>
    match s.stageOf n with
    | some .settings => s.createSession now n outcome
    | _ => s
  | .connect n outcome =>
    match s.calls[n]? with
    | some c => match c.stage with
      | .connecting object => s.connectTransport now n object c outcome
      | _ => s
    | none => s
  | .proxied n answer =>
    match s.stageOf n with
    | some (.proxying override) => s.setStage n (.returned (afterProxy s.known override answer))
    | _ => s
  | .relayed n answer =>
    match s.calls[n]? with
    | some c => match c.stage with
      | .relaying =>
        let (response, permissions) := answerDirectly s.session.isSome c.payload c.origin answer s.permissions now
        { s with permissions }.setStage n (.returned response)
      | _ => s
    | none => s
  | .deliver n =>
    match s.calls[n]? with
    | some c => match c.stage, c.caller with
      | .returned response, .page => { s with replies := s.replies ++ [(n, response)] }.setStage n .ended
      | .returned response, .flush call => (s.setStage n .ended).resolve now call c.origin response
      | .returned _, .popup => s.setStage n .ended
      | _, _ => s
    | none => s
  | .timeout timer => s.timeout now timer
  | .phase .idle => s
  | .phase phase => s.setPhase now phase
  | .rejectWallet => s.rejectAllDeferred now 4001 "User rejected wallet"
  | .disconnect => { s with session := none }.handleSessionClosed now
  | .rebuild restored => if restored then s.newSession.setPhase now .connected else s.newSession
  | .learn known => { s with known }
  | .revoke origin => { s with permissions := s.permissions.revoke origin }

/-- What one turn can do, with the call it concerns. -/
inductive Stepped (s : Desk) (now : Nat) : Label → Desk → Prop where
  | stays (label : Label) : Stepped s now label s
  | request (id : String) (payload : EIP1193Request) (origin : Option String) :
    Stepped s now (.request id payload origin) { s with calls := s.calls ++ [⟨.page, id, payload, origin, .permission⟩] }
  | startPairing :
    Stepped s now .startPairing { s with calls := s.calls ++ [⟨.popup, "", ⟨"", none⟩, none, .settings⟩] }
  | handles {n : Nat} {c : Call} (found : s.calls[n]? = some c) (at_ : c.stage = .permission) :
    Stepped s now (.permission n true) (s.handle toLowerCase n c)
  | unread {n : Nat} {c : Call} (found : s.calls[n]? = some c) (at_ : c.stage = .permission) :
    Stepped s now (.permission n false) (s.setStage n .ended)
  | creates {n : Nat} {c : Call} (outcome : Outcome) (found : s.calls[n]? = some c) (at_ : c.stage = .settings) :
    Stepped s now (.settings n outcome) (s.createSession now n outcome)
  | connects {n object : Nat} {c : Call} (outcome : Outcome) (found : s.calls[n]? = some c) (at_ : c.stage = .connecting object) :
    Stepped s now (.connect n outcome) (s.connectTransport now n object c outcome)
  | proxied {n : Nat} {c : Call} {override : Bool} (answer : Except Failure (Option Json)) (found : s.calls[n]? = some c)
    (at_ : c.stage = .proxying override) :
    Stepped s now (.proxied n answer) (s.setStage n (.returned (afterProxy s.known override answer)))
  | relayed {n : Nat} {c : Call} (answer : Except Failure (Option Json)) (found : s.calls[n]? = some c) (at_ : c.stage = .relaying) :
    Stepped s now (.relayed n answer)
      ({ s with permissions := (answerDirectly s.session.isSome c.payload c.origin answer s.permissions now).2 }.setStage n
        (.returned (answerDirectly s.session.isSome c.payload c.origin answer s.permissions now).1))
  | replies {n : Nat} {c : Call} {response : RpcResponse} (found : s.calls[n]? = some c) (at_ : c.stage = .returned response)
    (caller : c.caller = .page) :
    Stepped s now (.deliver n) ({ s with replies := s.replies ++ [(n, response)] }.setStage n .ended)
  | hands {n call : Nat} {c : Call} {response : RpcResponse} (found : s.calls[n]? = some c) (at_ : c.stage = .returned response)
    (caller : c.caller = .flush call) :
    Stepped s now (.deliver n) ((s.setStage n .ended).resolve now call c.origin response)
  | drops {n : Nat} {c : Call} {response : RpcResponse} (found : s.calls[n]? = some c) (at_ : c.stage = .returned response)
    (caller : c.caller = .popup) :
    Stepped s now (.deliver n) (s.setStage n .ended)
  | timeout (timer : Nat × String) : Stepped s now (.timeout timer) (s.timeout now timer)
  | phase {phase : Phase} (started : phase ≠ .idle) : Stepped s now (.phase phase) (s.setPhase now phase)
  | rejectWallet : Stepped s now .rejectWallet (s.rejectAllDeferred now 4001 "User rejected wallet")
  | disconnect : Stepped s now .disconnect ({ s with session := none }.handleSessionClosed now)
  | restored : Stepped s now (.rebuild true) (s.newSession.setPhase now .connected)
  | unrestored : Stepped s now (.rebuild false) s.newSession
  | learn (known : Knowledge) : Stepped s now (.learn known) { s with known }
  | revoke (origin : String) : Stepped s now (.revoke origin) { s with permissions := s.permissions.revoke origin }

theorem stageOf_eq {s : Desk} {n : Nat} {stage : Stage} (at_ : s.stageOf n = some stage) :
    ∃ c, s.calls[n]? = some c ∧ c.stage = stage := by
  unfold Desk.stageOf at at_
  exact Option.map_eq_some_iff.mp at_

theorem step_stepped (s : Desk) (now : Nat) (label : Label) : Stepped toLowerCase s now label (step toLowerCase s (now, label)) := by
  unfold step
  cases label with
  | request id payload origin => exact .request id payload origin
  | startPairing => exact .startPairing
  | permission n ok =>
    dsimp only
    split
    · rename_i c found
      split
      · rename_i at_
        cases ok with
        | true => exact .handles found at_
        | false => exact .unread found at_
      · exact .stays _
    · exact .stays _
  | settings n outcome =>
    dsimp only
    split
    · rename_i at_
      obtain ⟨c, found, stage⟩ := stageOf_eq at_
      exact .creates outcome found stage
    · exact .stays _
  | connect n outcome =>
    dsimp only
    split
    · rename_i c found
      split
      · rename_i object at_
        exact .connects outcome found at_
      · exact .stays _
    · exact .stays _
  | proxied n answer =>
    dsimp only
    split
    · rename_i override at_
      obtain ⟨c, found, stage⟩ := stageOf_eq at_
      exact .proxied answer found stage
    · exact .stays _
  | relayed n answer =>
    dsimp only
    split
    · rename_i c found
      split
      · rename_i at_
        exact .relayed answer found at_
      · exact .stays _
    · exact .stays _
  | deliver n =>
    dsimp only
    split
    · rename_i c found
      split
      · rename_i response at_ caller
        exact .replies found at_ caller
      · rename_i response call at_ caller
        exact .hands found at_ caller
      · rename_i response at_ caller
        exact .drops found at_ caller
      · exact .stays _
    · exact .stays _
  | timeout timer => exact .timeout timer
  | phase phase =>
    cases phase with
    | idle => exact .stays _
    | _ => exact .phase nofun
  | rejectWallet => exact .rejectWallet
  | disconnect => exact .disconnect
  | rebuild restored =>
    cases restored with
    | true => exact .restored
    | false => exact .unrestored
  | learn known => exact .learn known
  | revoke origin => exact .revoke origin

end

end WalletPair.Extension.Rpc
