import WalletPair.Sdk.Codec
import WalletPair.Sdk.Number

/-! The EIP-1193 provider of the dApp: how a JSON-RPC request is mapped to a request to
the wallet. The caller's arguments are objects that the provider shares with its caller,
so requests are made in a heap. -/

namespace WalletPair.Evm
open WalletPair.Sdk

/-! ### Values and objects -/

/-- A JavaScript value; an object is given by its place in the heap. -/
inductive Value where
  | undefined
  | null
  | bool (b : Bool)
  | num (n : Sdk.Num)
  | str (s : String)
  | ref (address : Nat)
  deriving DecidableEq

/-- The elements of an array, and the named properties. -/
structure Obj where
  items : Option (List Value)
  fields : List (String × Value)
  deriving DecidableEq

abbrev Heap := List Obj

def Value.truthy : Value → Bool
  | .undefined => false
  | .null => false
  | .bool b => b
  | .num n => n.truthy
  | .str s => s ≠ ""
  | .ref _ => true

/-- Define a property: an existing key keeps its place. -/
def assign (fields : List (String × Value)) (key : String) (value : Value) : List (String × Value) :=
  if fields.any (fun f => f.1 == key) then
    fields.map (fun f => if f.1 == key then (key, value) else f)
  else fields ++ [(key, value)]

def Obj.field (o : Obj) (key : String) : Value :=
  ((o.fields.find? (fun f => f.1 == key)).map Prod.snd).getD .undefined

/-- `o[i]`: an element, or the property of that name. -/
def Obj.item (o : Obj) (i : Nat) : Value :=
  match o.items with
  | some items => items[i]?.getD .undefined
  | none => o.field (toString i)

/-- Every value that a property of the object holds. -/
def Obj.values (o : Obj) : List Value := o.items.getD [] ++ o.fields.map Prod.snd

def Value.within (size : Nat) : Value → Bool
  | .ref a => a < size
  | _ => true

namespace Heap

/-- References are to objects of the heap. -/
def Closed (h : Heap) : Prop := ∀ o ∈ h, ∀ v ∈ o.values, v.within h.length = true

instance (h : Heap) : Decidable h.Closed := inferInstanceAs (Decidable (∀ o ∈ h, ∀ v ∈ o.values, _))

/-- `value?.[key]`. -/
def field (h : Heap) (value : Value) (key : String) : Value :=
  match value with
  | .ref a => (h[a]?.map fun o => o.field key).getD .undefined
  | _ => .undefined

/-- `params?.[i]`. -/
def item (h : Heap) (params : Option Nat) (i : Nat) : Value :=
  ((params.bind fun a => h[a]?).map fun o => o.item i).getD .undefined

/-- `object[key] = value`. -/
def write (h : Heap) (a : Nat) (key : String) (value : Value) : Heap :=
  h.modify a fun o => { o with fields := assign o.fields key value }

/-- An object literal. -/
def create (h : Heap) (fields : List (String × Value)) : Value × Heap := (.ref h.length, h ++ [⟨none, fields⟩])

mutual
/-- The objects that `JSON.parse` makes. -/
def load (h : Heap) : Json → Value × Heap
  | .null => (.null, h)
  | .bool b => (.bool b, h)
  | .num mantissa exponent => (.num (.ofDecimal mantissa exponent), h)
  | .str s => (.str s, h)
  | .arr items =>
    let (values, h) := loadItems h items
    (.ref h.length, h ++ [⟨some values, []⟩])
  | .obj fields =>
    let (values, h) := loadFields h fields
    (.ref h.length, h ++ [⟨none, values⟩])

def loadItems (h : Heap) : List Json → List Value × Heap
  | [] => ([], h)
  | item :: rest =>
    let (value, h) := load h item
    let (values, h) := loadItems h rest
    (value :: values, h)

def loadFields (h : Heap) : List (String × Json) → List (String × Value) × Heap
  | [] => ([], h)
  | (key, item) :: rest =>
    let (value, h) := load h item
    let (values, h) := loadFields h rest
    ((key, value) :: values, h)
end

/-- `String(value)`. An array inside itself is empty. -/
def text (h : Heap) : Nat → List Nat → Value → String
  | _, _, .undefined => "undefined"
  | _, _, .null => "null"
  | _, _, .bool b => if b then "true" else "false"
  | _, _, .num n => n.text
  | _, _, .str s => s
  | 0, _, .ref _ => ""
  | fuel + 1, inside, .ref a =>
    match h[a]? with
    | some ⟨some items, _⟩ =>
      if inside.contains a then ""
      else ",".intercalate (items.map fun item =>
        if item = .undefined ∨ item = .null then "" else text h fuel (a :: inside) item)
    | _ => "[object Object]"

/-- `String(value)`; arrays nest at most as deep as there are objects. -/
def toText (h : Heap) (value : Value) : String := h.text (h.length + 1) [] value

/-- `Number(value)`. -/
def toNumber (h : Heap) : Value → Sdk.Num
  | .undefined => .nan
  | .null => .finite 0
  | .bool b => .finite (if b then 1 else 0)
  | .num n => n
  | .str s => .ofText s
  | .ref a => .ofText (h.toText (.ref a))

end Heap

/-! ### Reading after writing -/

private theorem find_replace (fields : List (String × Value)) (key other : String) (value : Value) :
    (fields.map (fun f => if f.1 == key then (key, value) else f)).find? (fun f => f.1 == other) =
      if key = other then (fields.find? (fun f => f.1 == other)).map (fun _ => (key, value))
      else fields.find? (fun f => f.1 == other) := by
  induction fields with
  | nil => simp
  | cons f rest ih =>
    obtain ⟨name, old⟩ := f
    rw [List.map_cons, List.find?_cons, List.find?_cons, ih]
    by_cases own : name = key
    · subst own
      by_cases asked : name = other
      · simp [asked]
      · have skip : (name == other) = false := by simpa using asked
        simp [asked, skip]
    · have kept : (name == key) = false := by simpa using own
      by_cases here : name = other
      · subst here
        have different : key ≠ name := fun same => own same.symm
        simp [kept, different]
      · have skip : (name == other) = false := by simpa using here
        simp [kept, skip]

theorem field_assign (o : Obj) (key other : String) (value : Value) :
    Obj.field { o with fields := assign o.fields key value } other = if key = other then value else o.field other := by
  unfold Obj.field assign
  dsimp only
  split
  · rename_i known
    rw [find_replace]
    by_cases asked : key = other
    · subst asked
      obtain ⟨f, member, own⟩ := List.any_eq_true.mp known
      cases found : o.fields.find? (fun f => f.1 == key) with
      | none => exact absurd own (by simpa using List.find?_eq_none.mp found f member)
      | some g => simp
    · simp [asked]
  · rename_i fresh
    rw [List.find?_append]
    by_cases asked : key = other
    · subst asked
      have absent : o.fields.find? (fun f => f.1 == key) = none := by
        rw [List.find?_eq_none]
        intro f member
        simpa using fun own => fresh (List.any_eq_true.mpr ⟨f, member, own⟩)
      simp [absent]
    · simp [asked]

namespace Heap
variable {h : Heap} {a b : Nat} {key other : String} {value : Value}

@[simp] theorem length_write : (h.write a key value).length = h.length := List.length_modify ..

theorem getElem?_write : (h.write a key value)[b]? =
    if a = b then h[b]?.map fun o => { o with fields := assign o.fields key value } else h[b]? := by
  rw [write, List.getElem?_modify]
  split <;> simp

theorem field_write_self (known : a < h.length) :
    (h.write a key value).field (.ref a) other = if key = other then value else h.field (.ref a) other := by
  simp only [field, getElem?_write, if_true, List.getElem?_eq_getElem known, Option.map_some, Option.getD_some,
    field_assign]

theorem field_write_other (different : a ≠ b) : (h.write a key value).field (.ref b) other = h.field (.ref b) other := by
  simp only [field, getElem?_write, if_neg different]

/-- Older objects read the same after a new one is made. -/
theorem field_append (o : Obj) (known : a < h.length) : field (h ++ [o]) (.ref a) key = h.field (.ref a) key := by
  simp only [field, List.getElem?_append_left known]

theorem field_new (o : Obj) : field (h ++ [o]) (.ref h.length) key = o.field key := by simp [field]

theorem within_field (closed : h.Closed) (v : Value) : (h.field v key).within h.length = true := by
  cases v with
  | ref a =>
    rw [field]
    cases found : h[a]? with
    | none => rfl
    | some o =>
      simp only [Option.map_some, Option.getD_some, Obj.field]
      cases hit : o.fields.find? (fun f => f.1 == key) with
      | none => rfl
      | some f =>
        have member : f.2 ∈ o.values := List.mem_append_right _ (List.mem_map_of_mem (List.mem_of_find?_eq_some hit))
        exact closed o (List.mem_of_getElem? found) _ member
  | _ => rfl

theorem within_item (closed : h.Closed) (params : Option Nat) (i : Nat) : (h.item params i).within h.length = true := by
  unfold item
  cases params with
  | none => rfl
  | some a =>
    cases found : h[a]? with
    | none => simp [found, Value.within]
    | some o =>
      simp only [Option.bind_some, found, Option.map_some, Option.getD_some]
      cases array : o.items with
      | none =>
        have read := @within_field h (toString i) closed (.ref a)
        rw [field, found] at read
        simpa [Obj.item, array] using read
      | some items =>
        cases element : items[i]? with
        | none => simp [Obj.item, array, element, Value.within]
        | some v =>
          have member : v ∈ o.values := by
            rw [Obj.values, array]
            exact List.mem_append_left _ (List.mem_of_getElem? element)
          simpa [Obj.item, array, element] using closed o (List.mem_of_getElem? found) v member

end Heap

/-! ### Errors -/

/-- An `Error` with a numeric code, as the provider hands it to its caller. -/
structure ProviderRpcError where
  code : Int
  message : String
  deriving DecidableEq

def disconnectedError : ProviderRpcError := ⟨4900, "Provider is disconnected"⟩

def ethSignError : ProviderRpcError :=
  ⟨4200, "eth_sign is unsupported (deprecated/unsafe); use personal_sign or eth_signTypedData_v4"⟩

def unsupportedMethod (method : String) : ProviderRpcError := ⟨4200, "Unsupported method: " ++ method⟩

def invalidParams : ProviderRpcError := ⟨-32602, "Missing required transaction object"⟩

/-- Any other exception. -/
def internalError (message : String) : ProviderRpcError := ⟨-32603, message⟩

/-! ### Method mapping -/

structure Mapped where
  method : String
  params : Value
  deriving DecidableEq

/-- Convert a hex chainId to CAIP-2. -/
def hexChainToCaip2 (hex : String) : String := "eip155:" ++ (Sdk.Num.parseInt hex.toList 16).text

/-- The UTF-16 code units of a text. Half of a surrogate pair is neither a digit nor a
space, and neither is the character that stands for it here. -/
def codeUnits (s : String) : List Char :=
  s.toList.flatMap fun c => if c.toNat < 0x10000 then [c] else [replacement, replacement]

/-- Two code units make a byte; a last single one is dropped. -/
def hexBytes : List Char → Bytes
  | a :: b :: rest => (Sdk.Num.parseInt [a, b] 16).toUint8 :: hexBytes rest
  | _ => []

/-- The message of `personal_sign`: hex-encoded bytes decoded to UTF-8 text. -/
def messageText : Value → Except ProviderRpcError Value
  | .undefined => .ok (.str "")
  | .null => .ok (.str "")
  | .str msg =>
    if "0x".toList.isPrefixOf msg.toList then
      .ok (.str (String.ofList (textDecode (hexBytes ((codeUnits msg).drop 2)))))
    else .ok (.str msg)
  | _ => .error (internalError "msg?.startsWith is not a function")

/-- A transaction object is required; its `chainId` is not. -/
def validateTxObject : Value → Except ProviderRpcError Unit
  | .ref _ => .ok ()
  | _ => .error invalidParams

/-- The typed data of a request, parsed when it is a text of JSON. -/
def typedDataOf (h : Heap) : Value → Value × Heap
  | .str s =>
    match Json.parse s.toList with
    | some value => h.load value
    | none => (.str s, h)
  | value => (value, h)

/-- Map a transaction request; the caller's object is passed on. -/
def mapTransaction (h : Heap) (method : String) (tx : Value) : Except ProviderRpcError (Option Mapped × Heap) := do
  validateTxObject tx
  let (params, h) := h.create [("address", h.field tx "from"), ("tx", tx)]
  return (some ⟨method, params⟩, h)

def mapRequest (h : Heap) (method : String) (params : Option Nat) : Except ProviderRpcError (Option Mapped × Heap) :=
  match method with
  | "eth_requestAccounts" | "eth_accounts" => return (some ⟨"wallet_getAccounts", .undefined⟩, h)
  | "personal_sign" => do
    let text ← messageText (h.item params 0)
    let (mapped, h) := h.create [("message", text), ("address", h.item params 1)]
    return (some ⟨"wallet_signMessage", mapped⟩, h)
  | "eth_signTypedData_v3" | "eth_signTypedData_v4" =>
    let (typedData, after) := typedDataOf h (h.item params 1)
    let (mapped, after) := after.create [("address", h.item params 0), ("typedData", typedData)]
    return (some ⟨"wallet_signTypedData", mapped⟩, after)
  | "eth_sendTransaction" => mapTransaction h "wallet_sendTransaction" (h.item params 0)
  | "eth_signTransaction" => mapTransaction h "wallet_signTransaction" (h.item params 0)
  | "wallet_switchEthereumChain" =>
    let hexId := h.field (h.item params 0) "chainId"
    let chain := if hexId.truthy then .str (hexChainToCaip2 (h.toText hexId)) else .undefined
    let (mapped, h) := h.create [("chain", chain)]
    return (some ⟨"wallet_switchChain", mapped⟩, h)
  | "wallet_sendCalls" =>
    match h.item params 0 with
    | .undefined | .null =>
      let (mapped, h) := h.create []
      return (some ⟨"wallet_sendCalls", mapped⟩, h)
    | calls => return (some ⟨"wallet_sendCalls", calls⟩, h)
  | "wallet_getCallsStatus" => return (some ⟨"wallet_getCallsStatus", h.item params 0⟩, h)
  | _ => return (none, h)

/-- Methods that must go through the wallet. -/
def walletMethods : List String :=
  ["eth_requestAccounts", "eth_accounts", "personal_sign", "eth_signTypedData_v4", "eth_signTypedData_v3",
    "eth_sendTransaction", "eth_signTransaction", "wallet_switchEthereumChain", "wallet_addEthereumChain",
    "wallet_sendCalls", "wallet_getCallsStatus"]

/-- Methods answered by the provider itself. -/
def localMethods : List String := ["eth_chainId", "net_version", "wallet_getCapabilities"]

/-- Chain state that is the same from any endpoint. -/
def readOnlyMethods : List String :=
  ["eth_call", "eth_getBalance", "eth_getCode", "eth_getStorageAt", "eth_getProof", "eth_getTransactionCount",
    "eth_blockNumber", "eth_getBlockByNumber", "eth_getBlockByHash", "eth_getBlockTransactionCountByNumber",
    "eth_getBlockTransactionCountByHash", "eth_getBlockReceipts", "eth_getTransactionByHash",
    "eth_getTransactionByBlockHashAndIndex", "eth_getTransactionByBlockNumberAndIndex", "eth_getTransactionReceipt",
    "eth_getLogs", "eth_estimateGas", "eth_createAccessList", "eth_gasPrice", "eth_maxPriorityFeePerGas",
    "eth_feeHistory"]

/-- Methods whose parameters name a chain. -/
def chainRequiredMethods : List String :=
  ["wallet_signMessage", "wallet_signTypedData", "wallet_signTransaction", "wallet_sendTransaction",
    "wallet_getAccounts"]

/-! ### Dispatch -/

/-- The provider's own fields; `accounts` are as the wallet sent them. -/
structure Provider where
  chainId : Sdk.Num
  accounts : List (Option Json)
  connected : Bool
  disconnected : Bool
  rpcProvider : Bool

structure RequestArgs where
  method : String
  params : Option Nat

/-- How far `dispatch` gets on its own. `relayed` is `session.request(method, params)`. -/
inductive Outcome where
  | refused (error : ProviderRpcError)
  | answered (value : String)
  | accounts (addresses : List (Option Json))
  | capabilities (filter : Value)
  | readOnly (args : RequestArgs)
  | rpc (args : RequestArgs)
  | relayed (method : String) (params : Value)

/-- The chain number that a transaction's `chainId` stands for, or else the session's. -/
def chosenChain (h : Heap) (session : Sdk.Num) (raw : Value) : Sdk.Num :=
  let parsed := match raw with
    | .str s => Sdk.Num.parseInt s.toList (if "0x".toList.isPrefixOf s.toList then 16 else 10)
    | raw => h.toNumber raw
  if parsed.isPositive then parsed else session

/-- A missing `chainId` is filled in from the session. -/
def fillChain (h : Heap) (session : Sdk.Num) (tx : Value) : Sdk.Num × Heap :=
  match tx with
  | .ref t =>
    match h.field tx "chainId" with
    | .undefined | .null | .str "" => (session, h.write t "chainId" (.str ("0x" ++ session.hexText)))
    | raw => (chosenChain h session raw, h)
  | _ => (session, h)

/-- Inject the chain into the parameters of methods that require it. -/
def injectChain (p : Provider) (mapped : Mapped) (h : Heap) : Heap :=
  match mapped.params with
  | .ref a =>
    if chainRequiredMethods.contains mapped.method then
      let transacts := mapped.method = "wallet_sendTransaction" ∨ mapped.method = "wallet_signTransaction"
      let (chainNum, h) := fillChain h p.chainId (if transacts then h.field mapped.params "tx" else .undefined)
      if (h.field mapped.params "chain").truthy then h
      else h.write a "chain" (.str ("eip155:" ++ chainNum.text))
    else h
  | _ => h

/-- What goes to the wallet's request channel. -/
def relay (p : Provider) (h : Heap) (args : RequestArgs) : Outcome × Heap :=
  match mapRequest h args.method args.params with
  | .error e => (.refused e, h)
  | .ok (none, h) => (.refused (unsupportedMethod args.method), h)
  | .ok (some mapped, h) => (.relayed mapped.method mapped.params, injectChain p mapped h)

/-- `params ?? []`. -/
def paramsOrEmpty (h : Heap) : Option Nat → Value × Heap
  | some a => (.ref a, h)
  | none => (.ref h.length, h ++ [⟨some [], []⟩])

/-- `dispatch`, up to the first wait. -/
def dispatch (p : Provider) (h : Heap) (args : RequestArgs) : Outcome × Heap :=
  if p.disconnected then (.refused disconnectedError, h)
  else if args.method = "eth_sign" then (.refused ethSignError, h)
  else if args.method = "eth_chainId" then (.answered ("0x" ++ p.chainId.hexText), h)
  else if args.method = "net_version" then (.answered p.chainId.text, h)
  else if args.method = "wallet_getCapabilities" then (.capabilities (h.item args.params 1), h)
  else if args.method = "eth_accounts" ∧ p.accounts ≠ [] then (.accounts p.accounts, h)
  else if readOnlyMethods.contains args.method then (.readOnly args, h)
  else if !walletMethods.contains args.method && !localMethods.contains args.method then
    if p.rpcProvider then (.rpc args, h)
    else
      let (params, h) := paramsOrEmpty h args.params
      (.relayed args.method params, h)
  else relay p h args

end WalletPair.Evm
