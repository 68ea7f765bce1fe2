import WalletPair.Extension.RequestAccounts

/-! Deferred requests beside requests that are handled while the session is connected: what the
page is answered, and which permissions are granted. -/

namespace WalletPair.Extension.Rpc
open WalletPair.Lib WalletPair.Lib.Run WalletPair.Sdk WalletPair.Sdk.DApp

/-! ### Two ways to answer -/

section Steps
variable {toLowerCase : String → String} {s : Desk} {now n : Nat} {c : Call}

theorem step_permission (found : s.calls[n]? = some c) (at_ : c.stage = .permission) :
    step toLowerCase s (now, .permission n true) = s.handle toLowerCase n c := by
  unfold step
  dsimp only
  rw [found]
  dsimp only
  rw [at_]
  rfl

theorem step_relayed (answer : Except Failure (Option Json)) (found : s.calls[n]? = some c) (at_ : c.stage = .relaying) :
    step toLowerCase s (now, .relayed n answer) =
      { s with permissions := (answerDirectly s.session.isSome c.payload c.origin answer s.permissions now).2 }.setStage n
        (.returned (answerDirectly s.session.isSome c.payload c.origin answer s.permissions now).1) := by
  unfold step
  dsimp only
  rw [found]
  dsimp only
  rw [at_]

theorem step_replies {response : RpcResponse} (found : s.calls[n]? = some c) (at_ : c.stage = .returned response)
    (caller : c.caller = .page) :
    step toLowerCase s (now, .deliver n) = { s with replies := s.replies ++ [(n, response)] }.setStage n .ended := by
  unfold step
  dsimp only
  rw [found]
  dsimp only
  rw [at_, caller]

theorem step_hands {response : RpcResponse} {call : Nat} (found : s.calls[n]? = some c) (at_ : c.stage = .returned response)
    (caller : c.caller = .flush call) :
    step toLowerCase s (now, .deliver n) = (s.setStage n .ended).resolve now call c.origin response := by
  unfold step
  dsimp only
  rw [found]
  dsimp only
  rw [at_, caller]

/-- A request for permission goes to the wallet where a session is connected. -/
theorem handle_connected {object : Nat} (connected : s.session = some (object, .connected))
    (asks : asksPermission c.payload.method = true) : s.handle toLowerCase n c = s.setStage n .relaying := by
  have phase : s.session.map (·.2) = some .connected := by
    rw [connected]
    rfl
  obtain ⟨params, turn⟩ := @handleRpcRequest_connected toLowerCase s.known s.pairingInProgress (permits s.permissions c.origin)
    c.payload asks
  unfold Desk.handle
  rw [phase, turn]

/-- The turns of a request that is handled at once. -/
def handled (now n : Nat) (id : String) (payload : EIP1193Request) (origin : Option String)
    (answer : Except Failure (Option Json)) : List (Nat × Label) :=
  [(now, .request id payload origin), (now, .permission n true), (now, .relayed n answer), (now, .deliver n)]

theorem run_handled {object : Nat} {payload : EIP1193Request} (toLowerCase : String → String) (now : Nat) (id : String)
    (origin : Option String) (answer : Except Failure (Option Json)) (connected : s.session = some (object, .connected))
    (asks : asksPermission payload.method = true) (last : n = s.calls.length) :
    (run (step toLowerCase) s (handled now n id payload origin answer)).replies =
        s.replies ++ [(n, (answerDirectly true payload origin answer s.permissions now).1)] ∧
      (run (step toLowerCase) s (handled now n id payload origin answer)).permissions =
        (answerDirectly true payload origin answer s.permissions now).2 := by
  let c : Call := ⟨.page, id, payload, origin, .permission⟩
  let entered : Desk := { s with calls := s.calls ++ [c] }
  have first : entered.calls[n]? = some c := by
    rw [last]
    exact List.getElem?_concat_length
  let relaying := entered.setStage n .relaying
  have second : relaying.calls[n]? = some { c with stage := .relaying } := by
    rw [Desk.getElem?_setStage, first]
    simp
  let result := answerDirectly true payload origin answer s.permissions now
  let returned : Desk := { relaying with permissions := result.2 }.setStage n (.returned result.1)
  have third : returned.calls[n]? = some { c with stage := .returned result.1 } := by
    rw [Desk.getElem?_setStage]
    change (relaying.calls[n]?).map _ = _
    rw [second]
    simp
  have path : run (step toLowerCase) s (handled now n id payload origin answer) =
      { returned with replies := returned.replies ++ [(n, result.1)] }.setStage n .ended := by
    change step toLowerCase (step toLowerCase (step toLowerCase entered (now, .permission n true)) (now, .relayed n answer))
      (now, .deliver n) = _
    have moves : entered.handle toLowerCase n c = relaying := handle_connected connected asks
    have here : relaying.session.isSome = true := by
      change s.session.isSome = true
      rw [connected]
      rfl
    rw [step_permission first rfl, moves, step_relayed answer second rfl, here]
    exact step_replies third rfl rfl
  rw [path]
  exact ⟨rfl, rfl⟩

/-- The flush calls the handler again for each entry, in the order of the queue. -/
theorem flushDeferredRequests_calls (s : Desk) : s.flushDeferredRequests.calls =
      s.calls ++ s.deferredRequests.map (fun req => ⟨.flush req.call, req.id, req.payload, req.origin, .permission⟩) ∧
    s.flushDeferredRequests.permissions = s.permissions ∧ s.flushDeferredRequests.replies = s.replies ∧
    s.flushDeferredRequests.session = s.session := by
  unfold Desk.flushDeferredRequests
  generalize length : s.deferredRequests.length = k
  induction k generalizing s with
  | zero =>
    have empty := List.eq_nil_of_length_eq_zero length
    rw [empty]
    simp
  | succ k ih =>
    obtain ⟨req, rest, queue⟩ := List.exists_cons_of_length_eq_add_one length
    let next : Desk := { s.shift req rest with calls := s.calls ++ [⟨.flush req.call, req.id, req.payload, req.origin, .permission⟩] }
    have moved : s.flushFirst = next := by
      unfold Desk.flushFirst
      rw [queue]
      rfl
    have shorter : next.deferredRequests.length = k := by
      rw [queue] at length
      exact Nat.succ.inj length
    rw [Function.iterate_succ_apply, moved, queue]
    obtain ⟨calls, permissions, replies, session⟩ := ih next shorter
    refine ⟨?_, permissions, replies, session⟩
    rw [calls]
    simp [next, Desk.shift]

/-- The turns of a deferred request from the connection on; `h` is its flushed call. -/
def flushed (now n h : Nat) (answer : Except Failure (Option Json)) : List (Nat × Label) :=
  [(now, .phase .connected), (now, .permission h true), (now, .relayed h answer), (now, .deliver h), (now, .deliver n)]

theorem run_flushed {object i : Nat} {phase : Phase} {id : String} {payload : EIP1193Request} {origin : Option String}
    (toLowerCase : String → String) (now : Nat) (answer : Except Failure (Option Json))
    (session : s.session = some (object, phase)) (unconnected : phase ≠ .connected)
    (asks : asksPermission payload.method = true) (entry : s.deferredRequests[i]? = some ⟨id, payload, origin, n⟩)
    (call : s.calls[n]? = some ⟨.page, id, payload, origin, .deferred⟩) :
    (run (step toLowerCase) s (flushed now n (s.calls.length + i) answer)).replies =
        s.replies ++ [(n, (answerDirectly true payload origin answer s.permissions now).1)] ∧
      (run (step toLowerCase) s (flushed now n (s.calls.length + i) answer)).permissions =
        onDeferred (answerDirectly true payload origin answer s.permissions now).2 origin
          (answerDirectly true payload origin answer s.permissions now).1 now := by
  have below : n < s.calls.length := (List.getElem?_eq_some_iff.mp call).1
  let h := s.calls.length + i
  have apart : h ≠ n := by omega
  let c : Call := ⟨.flush n, id, payload, origin, .permission⟩
  let flushing := ({ s with session := some (object, .connected), pairingInProgress := false } : Desk).flushDeferredRequests
  obtain ⟨calls, permissions, replies, connected⟩ : flushing.calls = s.calls ++ _ ∧ flushing.permissions = s.permissions ∧
      flushing.replies = s.replies ∧ flushing.session = some (object, .connected) := flushDeferredRequests_calls _
  have opened : step toLowerCase s (now, .phase .connected) = flushing := by
    change s.setPhase now .connected = _
    unfold Desk.setPhase
    rw [session]
    exact if_neg unconnected
  have first : flushing.calls[h]? = some c := by
    rw [calls, List.getElem?_append_right (Nat.le_add_right _ _), Nat.add_sub_cancel_left, List.getElem?_map, entry]
    rfl
  have mine : flushing.calls[n]? = some ⟨.page, id, payload, origin, .deferred⟩ := by
    rw [calls, List.getElem?_append_left below, call]
  let relaying := flushing.setStage h .relaying
  have second : relaying.calls[h]? = some { c with stage := .relaying } := by
    rw [Desk.getElem?_setStage, first]
    simp
  let result := answerDirectly true payload origin answer s.permissions now
  let returned : Desk := { relaying with permissions := result.2 }.setStage h (.returned result.1)
  have third : returned.calls[h]? = some { c with stage := .returned result.1 } := by
    rw [Desk.getElem?_setStage]
    change (relaying.calls[h]?).map _ = _
    rw [second]
    simp
  let answered := (returned.setStage h .ended).resolve now n origin result.1
  have last : answered.calls[n]? = some ⟨.page, id, payload, origin, .returned result.1⟩ := by
    have kept : (returned.setStage h .ended).calls[n]? = some ⟨.page, id, payload, origin, .deferred⟩ := by
      rw [Desk.getElem?_setStage, Desk.getElem?_setStage]
      change (((relaying.calls[n]?).map _).map _) = _
      rw [Desk.getElem?_setStage, mine]
      simp [apart]
    change (List.modify _ n _)[n]? = _
    rw [List.getElem?_modify_eq, kept]
    rfl
  have path : run (step toLowerCase) s (flushed now n h answer) =
      { answered with replies := answered.replies ++ [(n, result.1)] }.setStage n .ended := by
    change step toLowerCase (step toLowerCase (step toLowerCase (step toLowerCase (step toLowerCase s (now, .phase .connected))
      (now, .permission h true)) (now, .relayed h answer)) (now, .deliver h)) (now, .deliver n) = _
    have moves : flushing.handle toLowerCase h c = relaying := handle_connected connected asks
    have here : relaying.session.isSome = true := by
      change flushing.session.isSome = true
      rw [connected]
      rfl
    have same : relaying.permissions = s.permissions := permissions
    rw [opened, step_permission first rfl, moves, step_relayed answer second rfl, here, same, step_hands third rfl rfl]
    exact step_replies last rfl rfl
  rw [path]
  refine ⟨?_, rfl⟩
  change flushing.replies ++ [(n, result.1)] = _
  rw [replies]

end Steps

/-! ### Permissions -/

/-- The resolver of a deferred request grants a permission that the handler does not. -/
def grantsAlone (payload : EIP1193Request) : Except Failure (Option Json) → Bool
  | .error _ => false
  | .ok result => payload.method = "wallet_requestPermissions" ||
    (result.any Json.truthy && match lengthPositive result with
      | .ok positive => !positive
      | .error _ => false)

/-- The origin does not have the permission that would be granted now. -/
def lacks (perms : Permissions) (now : Nat) : Option String → Bool
  | none => false
  | some origin => origin ≠ "" && perms.get origin ≠ some ⟨origin, true, now⟩

section
variable {perms : Permissions} {origin : Option String} {now : Nat} {payload : EIP1193Request}

theorem grantTo_eq_iff : grantTo perms origin now = perms ↔ lacks perms now origin = false := by
  cases origin with
  | none => exact iff_of_true rfl rfl
  | some origin =>
    by_cases empty : origin = ""
    · subst empty
      exact iff_of_true rfl rfl
    · have lacking : lacks perms now (some origin) = false ↔ perms.get origin = some ⟨origin, true, now⟩ := by
        simp [lacks, empty]
      rw [lacking]
      unfold grantTo
      dsimp only
      rw [if_neg empty]
      constructor
      · intro same
        rw [← same]
        exact OrderedMap.get_set_self _ _ _
      · exact fun has => OrderedMap.set_same has

theorem grantTo_twice : grantTo (grantTo perms origin now) origin now = grantTo perms origin now := by
  rw [grantTo_eq_iff]
  cases origin with
  | none => rfl
  | some origin =>
    by_cases empty : origin = ""
    · simp [lacks, empty]
    · have granted : (grantTo perms (some origin) now).get origin = some ⟨origin, true, now⟩ := by
        unfold grantTo
        dsimp only
        rw [if_neg empty]
        exact OrderedMap.get_set_self _ _ _
      simp [lacks, granted]

/-- Both ways leave the same permissions, unless the resolver alone grants one that is lacking. -/
theorem onDeferred_eq_iff {answer : Except Failure (Option Json)} (asks : asksPermission payload.method = true) :
    onDeferred (answerDirectly true payload origin answer perms now).2 origin
        (answerDirectly true payload origin answer perms now).1 now = (answerDirectly true payload origin answer perms now).2 ↔
      ¬ (grantsAlone payload answer = true ∧ lacks perms now origin = true) := by
  have resolver (granting : Bool) : (if granting = true then grantTo perms origin now else perms) = perms ↔
      ¬ (granting = true ∧ lacks perms now origin = true) := by
    cases granting with
    | false => simp
    | true => simp [grantTo_eq_iff]
  cases answer with
  | error err => simp [answerDirectly, afterWallet, onDeferred, RpcResponse.succeeded, Failure.respond, RpcResponse.ofError, grantsAlone]
  | ok result =>
    obtain ⟨method, params⟩ := payload
    have either : method = "eth_requestAccounts" ∨ method = "wallet_requestPermissions" := of_decide_eq_true asks
    rcases either with rfl | rfl
    · rcases positive : lengthPositive result with err | _ | _
      · simp [answerDirectly, afterWallet, positive, onDeferred, RpcResponse.succeeded, Failure.respond, RpcResponse.ofError,
          grantsAlone]
      · have plain : answerDirectly true ⟨"eth_requestAccounts", params⟩ origin (.ok result) perms now = (.ofResult result, perms) := by
          simp [answerDirectly, afterWallet, positive]
        rw [plain]
        have alone : grantsAlone ⟨"eth_requestAccounts", params⟩ (.ok result) = result.any Json.truthy := by
          simp [grantsAlone, positive]
        rw [alone]
        have succeeded : (RpcResponse.ofResult result).succeeded = result.any Json.truthy := by
          simp [RpcResponse.succeeded, RpcResponse.ofResult]
        unfold onDeferred
        rw [succeeded]
        exact resolver _
      · simp [answerDirectly, afterWallet, positive, onDeferred, grantTo_twice, grantsAlone]
    · exact resolver true

end

/-! ### The law -/

/-- A deferred request that is flushed once the session is connected gets the response of one that
is handled while a session is connected, and the permissions come out the same unless the resolver
of the deferred one grants what the handler does not. -/
def PathsAgree (toLowerCase : String → String) : Prop :=
  ∀ (waiting connected : Desk) (object other i n now : Nat) (phase : Phase) (id : String) (payload : EIP1193Request)
    (origin : Option String) (answer : Except Failure (Option Json)),
    waiting.session = some (object, phase) → phase ≠ .connected → connected.session = some (other, .connected) →
    connected.permissions = waiting.permissions → asksPermission payload.method = true →
    waiting.deferredRequests[i]? = some ⟨id, payload, origin, n⟩ →
    waiting.calls[n]? = some ⟨.page, id, payload, origin, .deferred⟩ →
    let deferred := run (step toLowerCase) waiting (flushed now n (waiting.calls.length + i) answer)
    let direct := run (step toLowerCase) connected (handled now connected.calls.length id payload origin answer)
    (∃ response, deferred.replies = waiting.replies ++ [(n, response)] ∧
      direct.replies = connected.replies ++ [(connected.calls.length, response)]) ∧
    (deferred.permissions = direct.permissions ↔
      ¬ (grantsAlone payload answer = true ∧ lacks waiting.permissions now origin = true))

/-- Each deferred request is answered once, or is in one place from where it will be; none of the
queue is without a timer, and once nothing goes on any more all were answered. -/
structure Desk.AnswersOnce (s : Desk) : Prop where
  one : ∀ n ∈ s.deferrals, s.answersTo n + s.waiting n + s.pursued n = 1
  none_ : ∀ n, n ∉ s.deferrals → s.answersTo n = 0
  armed : ∀ req ∈ s.deferredRequests, ∃ timer ∈ s.timers, timer.2 = req.id
  final : s.Drained → ∀ n ∈ s.deferrals, s.answersTo n = 1

theorem Desk.Accounts.answersOnce {s : Desk} (accounts : s.Accounts none) : s.AnswersOnce where
  one := fun n mem => by
    have balance := accounts.balance n
    rw [List.count_eq_one_of_mem accounts.once mem] at balance
    exact balance
  none_ := fun n absent => by
    have balance := accounts.balance n
    rw [List.count_eq_zero.mpr absent] at balance
    omega
  armed := fun _ mem => accounts.armed mem
  final := fun drained _ mem => accounts.answered drained mem

/-- Deferred requests are answered like direct ones, apart from the permissions that their resolvers
grant, and each once in every state of a run in which no flushed call ends with an exception. -/
theorem deferred_requests_answered (toLowerCase : String → String) (permissions : Permissions) (labels : List (Nat × Label))
    (answers : Along (step toLowerCase) (Desk.Answers toLowerCase) { permissions } labels) :
    PathsAgree toLowerCase ∧
      ∀ first, first <+: labels → (run (step toLowerCase) { permissions } first).AnswersOnce := by
  constructor
  · intro waiting connected object other i n now phase id payload origin answer session unconnected connection same asks entry call
    obtain ⟨deferredReplies, deferredPermissions⟩ := run_flushed toLowerCase now answer session unconnected asks entry call
    obtain ⟨directReplies, directPermissions⟩ := run_handled toLowerCase now id origin answer connection asks rfl
    refine ⟨⟨_, deferredReplies, by rw [directReplies, same]⟩, ?_⟩
    rw [deferredPermissions, directPermissions, same]
    exact onDeferred_eq_iff asks
  · rintro first ⟨rest, rfl⟩
    have start : ({ permissions } : Desk).Accounts none :=
      ⟨fun _ => rfl, List.nodup_nil, nofun, nofun, fun _ => Nat.le_refl _, nofun⟩
    have kept : (run (step toLowerCase) { permissions } first).Accounts none :=
      invariant (fun s turn answers accounts => step_accounts toLowerCase s turn answers accounts) (along_append.mp answers).1 start
    exact kept.answersOnce

namespace Sample

def asking (method : String) : EIP1193Request := ⟨method, none⟩

/-- A site's request is deferred while the pairing is made. -/
def deferring (method : String) : List (Nat × Label) :=
  [(0, .request "1" (asking method) (some "https://dapp")), (0, .permission 0 true), (0, .settings 0 .done), (0, .connect 0 .done)]

def account : Except Failure (Option Json) := .ok (some (.arr [.str "0x1"]))

/-- A flushed call starts a pairing that fails. -/
def losing : List (Nat × Label) := deferring "eth_requestAccounts" ++
  ([(1, .phase .connected), (1, .phase .closed), (1, .permission 1 true), (1, .settings 1 .refused)] : List (Nat × Label))

end Sample

theorem deferred_requests_answered_sample :
    (run (step id) {} (Sample.deferring "eth_requestAccounts" ++ flushed 1 0 1 Sample.account)).AnswersOnce :=
  (deferred_requests_answered id .empty _ (by decide +kernel)).2 _ List.prefix_rfl

/-- A deferred wallet_requestPermissions grants the permission that a direct one does not, and so does
an empty list of accounts; and a flushed call that fails leaves its request without an answer. -/
theorem deferred_paths_differ :
    ((run (step id) {} (Sample.deferring "wallet_requestPermissions" ++ flushed 1 0 1 Sample.account)).permissions.isPermitted
        "https://dapp" = true ∧
      (run (step id) { session := some (0, .connected) }
        (handled 1 0 "1" (Sample.asking "wallet_requestPermissions") (some "https://dapp") Sample.account)).permissions.isPermitted
        "https://dapp" = false) ∧
    ((run (step id) {} (Sample.deferring "eth_requestAccounts" ++ flushed 1 0 1 (.ok (some (.arr []))))).permissions.isPermitted
        "https://dapp" = true ∧
      (run (step id) { session := some (0, .connected) }
        (handled 1 0 "1" (Sample.asking "eth_requestAccounts") (some "https://dapp") (.ok (some (.arr []))))).permissions.isPermitted
        "https://dapp" = false) ∧
    ¬ (run (step id) {} Sample.losing).AnswersOnce := by
  refine ⟨by decide +kernel, by decide +kernel, fun once => ?_⟩
  have lost : ¬ (run (step id) {} Sample.losing).answersTo 0 + (run (step id) {} Sample.losing).waiting 0 +
      (run (step id) {} Sample.losing).pursued 0 = 1 := by decide +kernel
  exact lost (once.one 0 (by decide +kernel))

end WalletPair.Extension.Rpc
