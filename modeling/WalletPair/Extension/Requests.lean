import WalletPair.Evm.Provider
import WalletPair.Extension.ActivityLog
import WalletPair.Extension.Permissions
import WalletPair.Sdk.DApp.State

/-! `handleRpcRequest` of the background worker, from one await to the next. The activity log
and the broadcasts of the worker's state are left out. -/

namespace WalletPair.Extension.Rpc
open WalletPair.Sdk WalletPair.Sdk.DApp WalletPair.Evm

structure EIP1193Request where
  method : String
  params : Option Json

structure ConnectedWallet where
  address : String
  chainId : Sdk.Num

/-- What the worker keeps of the wallet. -/
structure Knowledge where
  connectedWallet : Option ConnectedWallet := none
  walletRpcUrls : List (String × String) := []
  walletEip5792Capabilities : Json := .obj []
  walletContractBytecode : Option String := none

abbrev RpcResponse := ActivityResponse

namespace RpcResponse

/-- `{ result }`. -/
def ofResult (result : Option Json) : RpcResponse := { result }

/-- `{ error: { code, message } }`. -/
def ofError (code : Int) (message : String) : RpcResponse := { error := some ⟨code, message⟩ }

/-- `response.result && !response.error`. -/
def succeeded (response : RpcResponse) : Bool := response.result.any Json.truthy && response.error.isNone

end RpcResponse

/-- What a rejected promise carries of a code and a message. -/
structure Failure where
  code : Option Int := none
  message : Option String := none

def Failure.respond (err : Failure) (message : String) : RpcResponse :=
  .ofError (err.code.getD (-32603)) (err.message.getD message)

def readOnlyMethods : List String :=
  ["eth_blockNumber", "eth_call", "eth_estimateGas", "eth_feeHistory",
    "eth_gasPrice", "eth_maxPriorityFeePerGas",
    "eth_getBalance", "eth_getCode", "eth_getStorageAt", "eth_getTransactionCount",
    "eth_getTransactionByHash", "eth_getTransactionReceipt", "eth_getLogs",
    "eth_getBlockByNumber", "eth_getBlockByHash",
    "eth_newFilter", "eth_newBlockFilter", "eth_getFilterChanges", "eth_uninstallFilter",
    "eth_sendRawTransaction", "eth_syncing"]

/-- A request without an origin is the extension's own. -/
def permits (perms : Permissions) : Option String → Bool
  | none => true
  | some origin => origin = "" || perms.isPermitted origin

/-- `connectedWallet?.chainId ?? 1`. -/
def Knowledge.chainId (w : Knowledge) : Sdk.Num := (w.connectedWallet.map (·.chainId)).getD (.finite 1)

/-- `params?.[0]`. -/
def firstParam : Option Json → Option Json
  | some (.arr items) => items.head?
  | some (.str s) => s.toList.head?.map fun c => .str (String.ofList [c])
  | some params => params.field "0"
  | none => none

/-- `queryAddress?.toLowerCase()`; the text is absent for a missing parameter. -/
def lowerParam (toLowerCase : String → String) : Option Json → Except String (Option String)
  | none | some .null => .ok none
  | some (.str s) => .ok (some (toLowerCase s))
  | some _ => .error "toLowerCase is not a function"

/-- Whether `eth_getCode` asks for the connected address of a wallet that told its bytecode. -/
def overridesCode (toLowerCase : String → String) (w : Knowledge) (method : String) (params : Option Json) :
    Except String Bool :=
  match w.connectedWallet, w.walletContractBytecode with
  | some wallet, some bytecode =>
    if method = "eth_getCode" ∧ bytecode ≠ "" then do
      let queryAddress ← lowerParam toLowerCase (firstParam params)
      return queryAddress = some (toLowerCase wallet.address)
    else .ok false
  | _, _ => .ok false

/-- The methods that ask for permission. -/
def asksPermission (method : String) : Bool := method = "eth_requestAccounts" ∨ method = "wallet_requestPermissions"

/-- How a handler leaves a turn: with its response, with an exception, or at an await. -/
inductive Turn where
  | answered (response : RpcResponse)
  | threw (message : String)
  /-- `createSession`, after `pairingInProgress` was set. -/
  | pairs
  | defers
  /-- `proxyRpcCall`; `override` if the wallet's bytecode stands in for a missing code. -/
  | proxies (chainId : Sdk.Num) (method : String) (params : Option Json) (urls : List (String × String)) (override : Bool)
  /-- `evmProvider.request`. -/
  | relays (method : String) (params : Option Json)

def accountsPermission : Option Json := some (.arr [.obj [("parentCapability", .str "eth_accounts")]])

/-- `eth_signTypedData_v4` is a superset of `eth_signTypedData_v3`. -/
def normalised (method : String) : String := if method = "eth_signTypedData_v3" then "eth_signTypedData_v4" else method

/-- `handleRpcRequest` from the normalised method on. `phase` is the one of the current session,
if there is one. -/
def handleMethod (toLowerCase : String → String) (w : Knowledge) (phase : Option Phase)
    (pairingInProgress permitted : Bool) (method : String) (params : Option Json) : Turn :=
  if method = "eth_chainId" then .answered (.ofResult (some (.str ("0x" ++ w.chainId.hexText))))
  else if method = "net_version" then .answered (.ofResult (some (.str w.chainId.text)))
  else if method = "eth_accounts" then
    if permitted = false then .answered (.ofResult (some (.arr [])))
    else .answered (.ofResult (some (.arr (w.connectedWallet.toList.map fun wallet => .str wallet.address))))
  else if method = "wallet_getPermissions" then
    if permitted = true ∧ w.connectedWallet.isSome = true ∧ phase = some .connected then .answered (.ofResult accountsPermission)
    else .answered (.ofResult (some (.arr [])))
  else if method = "wallet_getCapabilities" then .answered (.ofResult (some w.walletEip5792Capabilities))
  else match overridesCode toLowerCase w method params with
  | .error message => .threw message
  | .ok true => .proxies w.chainId method params w.walletRpcUrls true
  | .ok false =>
    if method ∈ readOnlyMethods then .proxies w.chainId method params w.walletRpcUrls false
    else if phase ≠ some .connected then
      if method = "eth_requestAccounts" ∨ method = "wallet_requestPermissions" then
        if pairingInProgress = false ∧ (phase = none ∨ phase = some .idle ∨ phase = some .closed) then .pairs
        else .defers
      else .answered (.ofError 4100 "Not connected. Call eth_requestAccounts first.")
    else if method = "wallet_requestPermissions" then .relays "eth_requestAccounts" (some (.arr []))
    else if permitted = false ∧ method ≠ "eth_requestAccounts" then
      .answered (.ofError 4100 "Not permitted. Call eth_requestAccounts first.")
    else .relays method params

def handleRpcRequest (toLowerCase : String → String) (w : Knowledge) (phase : Option Phase)
    (pairingInProgress permitted : Bool) (payload : EIP1193Request) : Turn :=
  handleMethod toLowerCase w phase pairingInProgress permitted (normalised payload.method) payload.params

theorem overridesCode_other {toLowerCase : String → String} {w : Knowledge} {method : String} (other : method ≠ "eth_getCode")
    (params : Option Json) : overridesCode toLowerCase w method params = .ok false := by
  unfold overridesCode
  split
  · exact if_neg fun asks => other asks.1
  · rfl

/-- A request for permission, where no session is connected. -/
theorem handleRpcRequest_asks {toLowerCase : String → String} {w : Knowledge} {phase : Option Phase}
    {pairingInProgress permitted : Bool} {payload : EIP1193Request} (asks : asksPermission payload.method = true)
    (unconnected : phase ≠ some .connected) :
    handleRpcRequest toLowerCase w phase pairingInProgress permitted payload =
      if pairingInProgress = false ∧ (phase = none ∨ phase = some .idle ∨ phase = some .closed) then .pairs else .defers := by
  obtain ⟨method, params⟩ := payload
  have either : method = "eth_requestAccounts" ∨ method = "wallet_requestPermissions" := of_decide_eq_true asks
  unfold handleRpcRequest handleMethod
  rcases either with rfl | rfl
  · rw [show normalised "eth_requestAccounts" = "eth_requestAccounts" from rfl, overridesCode_other (by decide)]
    exact if_pos unconnected
  · rw [show normalised "wallet_requestPermissions" = "wallet_requestPermissions" from rfl, overridesCode_other (by decide)]
    exact if_pos unconnected

/-- A request for permission, where a session is connected. -/
theorem handleRpcRequest_connected {toLowerCase : String → String} {w : Knowledge} {pairingInProgress permitted : Bool}
    {payload : EIP1193Request} (asks : asksPermission payload.method = true) :
    ∃ params, handleRpcRequest toLowerCase w (some .connected) pairingInProgress permitted payload =
      .relays "eth_requestAccounts" params := by
  obtain ⟨method, params⟩ := payload
  have either : method = "eth_requestAccounts" ∨ method = "wallet_requestPermissions" := of_decide_eq_true asks
  unfold handleRpcRequest handleMethod
  rcases either with rfl | rfl
  · rw [show normalised "eth_requestAccounts" = "eth_requestAccounts" from rfl, overridesCode_other (by decide)]
    exact ⟨params, if_neg fun refused : permitted = false ∧ "eth_requestAccounts" ≠ "eth_requestAccounts" => refused.2 rfl⟩
  · rw [show normalised "wallet_requestPermissions" = "wallet_requestPermissions" from rfl, overridesCode_other (by decide)]
    exact ⟨some (.arr []), rfl⟩

/-- `realCode && realCode !== '0x'`. -/
def deployed : Option Json → Bool
  | none => false
  | some (.str code) => code ≠ "" && code ≠ "0x"
  | some code => code.truthy

/-- The response with the wallet's bytecode. -/
def Knowledge.counterfactual (w : Knowledge) : RpcResponse :=
  .ofResult (some (match w.walletContractBytecode with
    | some code => .str code
    | none => .null))

/-- After `proxyRpcCall`; `w` is what the worker keeps at that time. -/
def afterProxy (w : Knowledge) (override : Bool) (answer : Except Failure (Option Json)) : RpcResponse :=
  match override, answer with
  | true, .ok code => if deployed code then .ofResult code else w.counterfactual
  | true, .error _ => w.counterfactual
  | false, .ok result => .ofResult result
  | false, .error err => err.respond "RPC proxy error"

/-- The exception of a value that has no text and is no number. -/
def unconverted : Failure := ⟨none, some "Cannot convert object to primitive value"⟩

/-- `length > 0`. -/
def exceedsZero (length : Json) : Except Failure Bool :=
  let (value, h) := Heap.load [] length
  if length.printable then
    match h.toNumber value with
    | .finite q => .ok (0 < q)
    | .infinity negative => .ok !negative
    | .nan => .ok false
  else .error unconverted

/-- `accounts?.length > 0`. -/
def lengthPositive : Option Json → Except Failure Bool
  | some (.arr items) => .ok (items ≠ [])
  | some (.str s) => .ok (s ≠ "")
  | some accounts =>
    match accounts.field "length" with
    | some length => exceedsZero length
    | none => .ok false
  | none => .ok false

/-- After `evmProvider.request`: the response, and whether the origin is granted its permission.
Without a session its wallet's name cannot be read. -/
def afterWallet (session : Bool) (method : String) (answer : Except Failure (Option Json)) : RpcResponse × Bool :=
  match answer with
  | .error err => (err.respond "Request failed", false)
  | .ok result =>
    if method = "wallet_requestPermissions" then (.ofResult accountsPermission, false)
    else if method = "eth_requestAccounts" then
      match lengthPositive result with
      | .error err => (err.respond "Request failed", false)
      | .ok false => (.ofResult result, false)
      | .ok true =>
        if session then (.ofResult result, true)
        else ((Failure.mk none (some "Cannot read properties of null (reading 'walletMeta')")).respond "Request failed", false)
    else (.ofResult result, false)

/-- `if (origin) grantPermission(origin)`. -/
def grantTo (perms : Permissions) (origin : Option String) (now : Nat) : Permissions :=
  match origin with
  | none => perms
  | some origin => if origin = "" then perms else perms.grant origin now

/-- The resolver of a deferred request. -/
def onDeferred (perms : Permissions) (origin : Option String) (response : RpcResponse) (now : Nat) : Permissions :=
  if response.succeeded then grantTo perms origin now else perms

end WalletPair.Extension.Rpc
