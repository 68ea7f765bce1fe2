import WalletPair.Evm.Provider
import WalletPair.Sdk.DApp.State

/-! What the provider does outside `dispatch`: its handlers for the session's phases and
events, and what it keeps of an answer of the wallet. Its own listeners return. -/

namespace WalletPair.Evm
open WalletPair.Sdk

/-! ### Chain ids in texts -/

/-- The namespace and the reference of a CAIP-2 chain id. -/
def parseChainId (caip2 : String) : Except String (List Char × List Char) :=
  let namespace_ := caip2.toList.takeWhile (· ≠ ':')
  let reference := ((caip2.toList.dropWhile (· ≠ ':')).drop 1).takeWhile (· ≠ ':')
  if namespace_ = [] ∨ reference = [] then .error ("Invalid CAIP-2 chain ID: " ++ caip2)
  else .ok (namespace_, reference)

/-- The EVM chain number of a CAIP-2 chain id, or nothing in another namespace. -/
def evmNumericChainId (caip2 : String) : Except String (Option Sdk.Num) := do
  let (namespace_, reference) ← parseChainId caip2
  if namespace_ ≠ "eip155".toList then return none
  return some (Sdk.Num.parseInt reference 10)

/-- The member of a `chainChanged` payload that the handler reads. -/
def chainField (data : Json) : Option Json :=
  if data.isObject then
    match data.field "chainId" with
    | none | some .null => data.field "chain"
    | chainId => chainId
  else some data

/-- The chain number that the handler reads, if any. -/
def readChainId : Option Json → Except String (Option Sdk.Num)
  | some (.str raw) =>
    if "eip155:".toList.isPrefixOf raw.toList then evmNumericChainId raw
    else if "0x".toList.isPrefixOf raw.toList then .ok (some (Sdk.Num.parseInt raw.toList 16))
    else .ok (some (Sdk.Num.parseInt raw.toList 10) |>.filter Sdk.Num.truthy)
  | some (.num mantissa exponent) => .ok (some (.ofDecimal mantissa exponent))
  | _ => .ok none

/-- `a !== b`; `NaN` differs from itself. -/
def differs (a b : Sdk.Num) : Bool := a = .nan ∨ a ≠ b

/-! ### Reactions -/

inductive Emitted where
  | connect (chainId : String)
  | disconnect (code : Int) (message : String)
  | accountsChanged (accounts : List (Option Json))
  | chainChanged (chainId : String)

/-- The provider after a handler or a continuation, what it told its listeners, whether it
called `session.close("normal")`, and the exception that left it. -/
structure Reaction where
  provider : Provider
  emitted : List Emitted := []
  closes : Bool := false
  thrown : Option String := none

/-- Move to another chain and tell the listeners. -/
def Provider.setChainId (p : Provider) (chainId : Sdk.Num) : Reaction where
  provider := { p with chainId }
  emitted := [.chainChanged ("0x" ++ chainId.hexText)]

def onPhase (p : Provider) (phase : DApp.Phase) : Reaction :=
  if phase = .connected ∧ ¬ p.connected then
    { provider := { p with connected := true }, emitted := [.connect ("0x" ++ p.chainId.hexText)] }
  else if (phase = .closed ∨ phase = .disconnected) ∧ p.connected then
    { provider := { p with connected := false }, emitted := [.disconnect 4900 "Disconnected"] }
  else { provider := p }

/-- `data?.reason ?? "unknown"`. -/
def disconnectReason (data : Json) : Json :=
  match data.field "reason" with
  | none | some .null => .str "unknown"
  | some reason => reason

/-- `String(reason)`. -/
def reasonText (reason : Json) : Except String String :=
  if reason.printable then
    let (value, h) := Heap.load [] reason
    .ok (h.toText value)
  else .error "Cannot convert object to primitive value"

/-- The flags are set first: a reason without a text leaves the session open. -/
def onDisconnect (p : Provider) (data : Json) : Reaction :=
  let p := { p with connected := false, disconnected := true }
  match reasonText (disconnectReason data) with
  | .error thrown => { provider := p, thrown }
  | .ok reason =>
    let msg := match data.field "message" with
      | some (.str message) => message
      | _ => "Disconnected by wallet (" ++ reason ++ ")"
    { provider := p, emitted := [.disconnect 4900 msg], closes := true }

/-- An account is a text or has an `address`. -/
def accountOf : Json → Except String (Option Json)
  | .str address => .ok (some (.str address))
  | account => account.member "address"

def onAccountsChanged (p : Provider) (data : Json) : Reaction :=
  let rawAccounts := match data with
    | .arr items => some (Json.arr items)
    | payload => payload.field "accounts"
  match rawAccounts with
  | some (.arr items) =>
    match items.mapM accountOf with
    | .ok accounts => { provider := { p with accounts }, emitted := [.accountsChanged accounts] }
    | .error thrown => { provider := p, thrown }
  | _ => { provider := p }

def onChainChanged (p : Provider) (data : Json) : Reaction :=
  match readChainId (chainField data) with
  | .error thrown => { provider := p, thrown }
  | .ok none => { provider := p }
  | .ok (some newChainId) => if differs newChainId p.chainId then p.setChainId newChainId else { provider := p }

def onEvent (p : Provider) (event data : Json) : Reaction :=
  match event with
  | .str "disconnect" => onDisconnect p data
  | .str "accountsChanged" => onAccountsChanged p data
  | .str "chainChanged" => onChainChanged p data
  | _ => { provider := p }

/-! ### Answers of the wallet -/

/-- `result` where it is an array. -/
def listOf : Option Json → Option (List (Option Json))
  | some (.arr items) => some (items.map some)
  | _ => none

/-- `mapResponse` of the two account methods, where it is an array. -/
def accountsOf (result : Option Json) : Except String (Option (List (Option Json))) :=
  match result.bind (·.field "accounts") with
  | some (.arr accounts) => do
    let addresses ← accounts.mapM (·.member "address")
    return some addresses
  | some accounts => if accounts.truthy then .error "r.accounts.map is not a function" else .ok (listOf result)
  | none => .ok (listOf result)

/-- The chain number of a switch request that the wallet approved. -/
def switchTarget (h : Heap) (params : Option Nat) : Sdk.Num :=
  let chainId := h.field (h.item params 0) "chainId"
  if chainId.truthy then Sdk.Num.parseInt (h.toText chainId).toList 16 else .nan

/-- The rest of `dispatch` after the wallet's answer to a relayed request. -/
def onAnswer (p : Provider) (h : Heap) (args : RequestArgs) (result : Option Json) : Reaction :=
  if args.method = "eth_requestAccounts" ∨ args.method = "eth_accounts" then
    match accountsOf result with
    | .ok (some accounts) => { provider := { p with accounts } }
    | .ok none => { provider := p }
    | .error thrown => { provider := p, thrown }
  else if args.method = "wallet_switchEthereumChain" then
    let target := switchTarget h args.params
    if target ≠ .nan ∧ target ≠ p.chainId then p.setChainId target else { provider := p }
  else { provider := p }

end WalletPair.Evm
