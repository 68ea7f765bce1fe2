import WalletPair.Extension.Requests

/-! What an origin without permission can learn of the connected address from the responses
to its requests. -/

namespace WalletPair.Extension.Rpc
open WalletPair.Sdk WalletPair.Sdk.DApp

/-- The same knowledge with another address. -/
def Knowledge.withAddress (w : Knowledge) (address : String) : Knowledge :=
  { w with connectedWallet := w.connectedWallet.map fun wallet => { wallet with address } }

/-- The response of a request that no wallet is asked for, or the exception that leaves the
handler. `later` is what the worker keeps when the endpoints have answered. -/
def respond (toLowerCase : String → String)
    (proxyRpcCall : Sdk.Num → String → Option Json → List (String × String) → Except Failure (Option Json))
    (w later : Knowledge) (phase : Option Phase) (pairingInProgress permitted : Bool) (payload : EIP1193Request) :
    Option (Except String RpcResponse) :=
  match handleRpcRequest toLowerCase w phase pairingInProgress permitted payload with
  | .answered response => some (.ok response)
  | .threw message => some (.error message)
  | .proxies chainId method params urls override =>
    some (.ok (afterProxy later override (proxyRpcCall chainId method params urls)))
  | .pairs | .defers | .relays _ _ => none

/-- Neither the wallet nor a pairing is waited for. -/
def Turn.alone : Turn → Bool
  | .answered _ | .threw _ | .proxies _ _ _ _ _ => true
  | .pairs | .defers | .relays _ _ => false

/-- The address whose code is asked for, where the wallet told its bytecode. -/
def probed (toLowerCase : String → String) (w : Knowledge) (payload : EIP1193Request) : Option String :=
  if payload.method = "eth_getCode" ∧ w.connectedWallet.isSome = true ∧ w.walletContractBytecode.any (· ≠ "") = true then
    match lowerParam toLowerCase (firstParam payload.params) with
    | .ok address => address
    | .error _ => none
  else none

/-- The request asks for the code of exactly one of the two addresses. -/
def Distinguishes (toLowerCase : String → String) (w : Knowledge) (payload : EIP1193Request) (first second : String) : Prop :=
  ∃ address, probed toLowerCase w payload = some address ∧
    ¬ (address = toLowerCase first ↔ address = toLowerCase second)

/-- The endpoints report a deployed contract, or what the worker would answer instead. -/
def Uninformative (later : Knowledge) : Except Failure (Option Json) → Prop
  | .ok code => deployed code = true ∨ code = later.counterfactual.result
  | .error _ => False

section
variable {toLowerCase : String → String} {w later : Knowledge} {payload : EIP1193Request}

theorem afterProxy_override_iff (answer : Except Failure (Option Json)) :
    afterProxy later true answer = afterProxy later false answer ↔ Uninformative later answer := by
  cases answer with
  | ok code =>
    change (if deployed code = true then RpcResponse.ofResult code else later.counterfactual) = .ofResult code ↔
      deployed code = true ∨ code = later.counterfactual.result
    by_cases real : deployed code = true
    · simp [real]
    · rw [if_neg real]
      constructor
      · intro same
        exact Or.inr (congrArg ActivityResponse.result same).symm
      · intro covered
        rw [covered.resolve_left real]
        rfl
  | error err =>
    refine iff_of_false (fun same => ?_) id
    have result : later.counterfactual.result = none := congrArg ActivityResponse.result same
    cases result

/-- Without a probed address the answer is the same for every connected one. -/
theorem overridesCode_unprobed (unasked : probed toLowerCase w payload = none) (address : String) :
    overridesCode toLowerCase (w.withAddress address) payload.method payload.params =
      overridesCode toLowerCase w payload.method payload.params := by
  obtain ⟨wallet, urls, capabilities, bytecode⟩ := w
  cases wallet with
  | none => rfl
  | some wallet =>
    cases bytecode with
    | none => rfl
    | some bytecode =>
      by_cases asks : payload.method = "eth_getCode" ∧ bytecode ≠ ""
      · cases lower : lowerParam toLowerCase (firstParam payload.params) with
        | error message => simp only [overridesCode, Knowledge.withAddress, Option.map_some, if_pos asks, lower, bind, Except.bind]
        | ok queried =>
          have absent : queried = none := by simpa [probed, asks, lower] using unasked
          simp [overridesCode, Knowledge.withAddress, asks, lower, absent, bind, Except.bind]
      · simp only [overridesCode, Knowledge.withAddress, Option.map_some, if_neg asks]

theorem probed_method {address : String} (asked : probed toLowerCase w payload = some address) : payload.method = "eth_getCode" := by
  unfold probed at asked
  split_ifs at asked with known
  exact known.1

theorem overridesCode_probed {address : String} (asked : probed toLowerCase w payload = some address) (own : String) :
    overridesCode toLowerCase (w.withAddress own) payload.method payload.params = .ok (decide (address = toLowerCase own)) := by
  unfold probed at asked
  split_ifs at asked with known
  obtain ⟨method, connected, told⟩ := known
  obtain ⟨wallet, urls, capabilities, bytecode⟩ := w
  cases wallet with
  | none => cases connected
  | some wallet =>
    cases bytecode with
    | none => cases told
    | some bytecode =>
      have present : bytecode ≠ "" := by simpa using told
      cases lower : lowerParam toLowerCase (firstParam payload.params) with
      | error message =>
        rw [lower] at asked
        cases asked
      | ok queried =>
        rw [lower] at asked
        have found : queried = some address := asked
        simp [overridesCode, Knowledge.withAddress, method, present, lower, found, bind, Except.bind, pure, Except.pure]

@[simp] theorem chainId_withAddress (w : Knowledge) (address : String) : (w.withAddress address).chainId = w.chainId := by
  unfold Knowledge.chainId Knowledge.withAddress
  rw [Option.map_map]
  rfl

theorem handleMethod_congr {first second method : String} {phase : Option Phase} {pairingInProgress : Bool} {params : Option Json}
    (same : overridesCode toLowerCase (w.withAddress first) method params =
      overridesCode toLowerCase (w.withAddress second) method params) :
    handleMethod toLowerCase (w.withAddress first) phase pairingInProgress false method params =
      handleMethod toLowerCase (w.withAddress second) phase pairingInProgress false method params := by
  unfold handleMethod
  rw [same, chainId_withAddress, chainId_withAddress]
  rfl

theorem normalised_eq_code {method : String} : normalised method = "eth_getCode" ↔ method = "eth_getCode" := by
  unfold normalised
  by_cases typed : method = "eth_signTypedData_v3"
  · rw [if_pos typed, typed]
    decide
  · rw [if_neg typed]

theorem overridesCode_normalised (w : Knowledge) :
    overridesCode toLowerCase w (normalised payload.method) payload.params =
      overridesCode toLowerCase w payload.method payload.params := by
  by_cases code : payload.method = "eth_getCode"
  · rw [code]
    rfl
  · rw [overridesCode_other code, overridesCode_other (fun same => code (normalised_eq_code.mp same))]

/-- Without permission the address matters for the code of an account only. -/
theorem handleRpcRequest_unpermitted {first second : String} {phase : Option Phase} {pairingInProgress : Bool}
    (unasked : probed toLowerCase w payload = none) :
    handleRpcRequest toLowerCase (w.withAddress first) phase pairingInProgress false payload =
      handleRpcRequest toLowerCase (w.withAddress second) phase pairingInProgress false payload := by
  apply handleMethod_congr
  rw [overridesCode_normalised, overridesCode_normalised, overridesCode_unprobed unasked, overridesCode_unprobed unasked]

/-- A request for code goes to the endpoints. -/
theorem handleRpcRequest_code {phase : Option Phase} {pairingInProgress permitted override : Bool} (asks : payload.method = "eth_getCode")
    (overrides : overridesCode toLowerCase w payload.method payload.params = .ok override) :
    handleRpcRequest toLowerCase w phase pairingInProgress permitted payload =
      .proxies w.chainId payload.method payload.params w.walletRpcUrls override := by
  have normal : normalised payload.method = payload.method := by
    rw [asks]
    rfl
  unfold handleRpcRequest handleMethod
  rw [normal, overrides, asks]
  cases override <;> rfl

theorem alone_ite {c : Prop} [Decidable c] {x y : Turn} (left : x.alone = true) (right : y.alone = true) :
    (if c then x else y).alone = true := by
  split
  · exact left
  · exact right

/-- Without permission only the two methods that ask for it involve the wallet. -/
theorem handleMethod_alone {method : String} {phase : Option Phase} {pairingInProgress : Bool} {params : Option Json}
    (other : ¬ (method = "eth_requestAccounts" ∨ method = "wallet_requestPermissions")) :
    (handleMethod toLowerCase w phase pairingInProgress false method params).alone = true := by
  have neither := not_or.mp other
  unfold handleMethod
  rw [if_neg other, if_neg neither.2, if_pos (⟨rfl, neither.1⟩ : false = false ∧ method ≠ "eth_requestAccounts")]
  refine alone_ite rfl (alone_ite rfl (alone_ite (alone_ite rfl rfl) (alone_ite (alone_ite rfl rfl) (alone_ite rfl ?_))))
  cases overridesCode toLowerCase w method params with
  | error message => rfl
  | ok override =>
    cases override with
    | true => rfl
    | false => exact alone_ite rfl (alone_ite rfl rfl)

/-- Requests of other methods are answered. -/
theorem respond_isSome {proxyRpcCall : Sdk.Num → String → Option Json → List (String × String) → Except Failure (Option Json)}
    {phase : Option Phase} {pairingInProgress : Bool} (other : asksPermission payload.method = false) :
    (respond toLowerCase proxyRpcCall w later phase pairingInProgress false payload).isSome = true := by
  have asks : ¬ (normalised payload.method = "eth_requestAccounts" ∨ normalised payload.method = "wallet_requestPermissions") := by
    have neither : ¬ (payload.method = "eth_requestAccounts" ∨ payload.method = "wallet_requestPermissions") := by
      simpa [asksPermission] using other
    unfold normalised
    by_cases typed : payload.method = "eth_signTypedData_v3"
    · rw [if_pos typed]
      decide
    · rw [if_neg typed]
      exact neither
  have alone : (handleRpcRequest toLowerCase w phase pairingInProgress false payload).alone = true := handleMethod_alone asks
  unfold respond
  cases turn : handleRpcRequest toLowerCase w phase pairingInProgress false payload with
  | answered response => rfl
  | threw message => rfl
  | proxies chainId method params urls override => rfl
  | _ =>
    rw [turn] at alone
    cases alone

end

/-- In two states that differ in the connected address an origin without permission gets the same
response, except where it asks for the code of one of the two addresses, the wallet told its
bytecode, and the endpoints know of no contract there. -/
theorem unpermitted_learns_nothing_iff (toLowerCase : String → String)
    (proxyRpcCall : Sdk.Num → String → Option Json → List (String × String) → Except Failure (Option Json))
    (w later : Knowledge) (first second laterFirst laterSecond : String) (phase : Option Phase) (pairingInProgress : Bool)
    (perms : Permissions) (origin : Option String) (payload : EIP1193Request) (unpermitted : permits perms origin = false)
    (other : asksPermission payload.method = false) :
    (respond toLowerCase proxyRpcCall (w.withAddress first) (later.withAddress laterFirst) phase pairingInProgress
        (permits perms origin) payload).isSome = true ∧
    (respond toLowerCase proxyRpcCall (w.withAddress first) (later.withAddress laterFirst) phase pairingInProgress
        (permits perms origin) payload =
      respond toLowerCase proxyRpcCall (w.withAddress second) (later.withAddress laterSecond) phase pairingInProgress
        (permits perms origin) payload ↔
    ¬ (Distinguishes toLowerCase w payload first second ∧
      ¬ Uninformative later (proxyRpcCall w.chainId payload.method payload.params w.walletRpcUrls))) := by
  rw [unpermitted]
  refine ⟨respond_isSome other, ?_⟩
  cases asked : probed toLowerCase w payload with
  | none =>
    refine iff_of_true ?_ fun ⟨⟨address, some_, _⟩, _⟩ => ?_
    · unfold respond
      rw [handleRpcRequest_unpermitted asked]
      rfl
    · rw [asked] at some_
      cases some_
  | some address =>
    have code := probed_method asked
    have response (own last : String) : respond toLowerCase proxyRpcCall (w.withAddress own) (later.withAddress last) phase
        pairingInProgress false payload = some (.ok (afterProxy later (decide (address = toLowerCase own))
          (proxyRpcCall w.chainId payload.method payload.params w.walletRpcUrls))) := by
      unfold respond
      rw [handleRpcRequest_code code (overridesCode_probed asked own), chainId_withAddress]
      rfl
    have distinguishes : Distinguishes toLowerCase w payload first second ↔
        ¬ (address = toLowerCase first ↔ address = toLowerCase second) := by
      constructor
      · rintro ⟨found, some_, differs⟩
        rw [asked] at some_
        cases some_
        exact differs
      · exact fun differs => ⟨address, asked, differs⟩
    rw [response, response, distinguishes]
    rw [Option.some_inj, Except.ok.injEq]
    by_cases one : address = toLowerCase first
    · by_cases two : address = toLowerCase second
      · rw [decide_eq_true one, decide_eq_true two]
        exact iff_of_true rfl fun probing => probing.1 (iff_of_true one two)
      · rw [decide_eq_true one, decide_eq_false two, afterProxy_override_iff]
        have differs : ¬ (address = toLowerCase first ↔ address = toLowerCase second) := fun same => two (same.mp one)
        exact ⟨fun covered probing => probing.2 covered, fun free => by_contra fun bare => free ⟨differs, bare⟩⟩
    · by_cases two : address = toLowerCase second
      · rw [decide_eq_false one, decide_eq_true two, eq_comm, afterProxy_override_iff]
        have differs : ¬ (address = toLowerCase first ↔ address = toLowerCase second) := fun same => one (same.mpr two)
        exact ⟨fun covered probing => probing.2 covered, fun free => by_contra fun bare => free ⟨differs, bare⟩⟩
      · rw [decide_eq_false one, decide_eq_false two]
        exact iff_of_true rfl fun probing => probing.1 (iff_of_false one two)

namespace Sample

/-- `toLowerCase` of an ASCII text. -/
def lower (s : String) : String := String.ofList (s.toList.map Char.toLower)

/-- A connected smart account that is not deployed yet. -/
def counterfactual : Knowledge :=
  { connectedWallet := some ⟨"0xAB", .finite 1⟩, walletContractBytecode := some "0x60" }

def codeAt (address : String) : EIP1193Request := ⟨"eth_getCode", some (.arr [.str address, .str "latest"])⟩

/-- No contract anywhere. -/
def nothing (_ : Sdk.Num) (_ : String) (_ : Option Json) (_ : List (String × String)) : Except Failure (Option Json) :=
  .ok (some (.str "0x"))

/-- The response to a site without permission. -/
def told (address : String) (payload : EIP1193Request) : Option (Except String RpcResponse) :=
  respond lower nothing (counterfactual.withAddress address) (counterfactual.withAddress address) (some .connected) false
    (permits .empty (some "https://dapp")) payload

end Sample

theorem unpermitted_learns_nothing_iff_sample :
    Sample.told "0xAB" (Sample.codeAt "0xEF") = Sample.told "0xCD" (Sample.codeAt "0xEF") := by
  have iff := unpermitted_learns_nothing_iff Sample.lower Sample.nothing Sample.counterfactual Sample.counterfactual
    "0xAB" "0xCD" "0xAB" "0xCD" (some .connected) false .empty (some "https://dapp") (Sample.codeAt "0xEF") rfl rfl
  apply iff.2.mpr
  rintro ⟨⟨address, asked, differs⟩, -⟩
  have same : address = "0xef" := Option.some_inj.mp (asked.symm.trans rfl)
  subst same
  exact differs (iff_of_false (by decide) (by decide))

/-- A site without permission reads from the answers which address is connected. -/
theorem code_probe_reveals_address :
    permits .empty (some "https://dapp") = false ∧ asksPermission "eth_getCode" = false ∧
      Sample.told "0xAB" (Sample.codeAt "0xab") = some (.ok (.ofResult (some (.str "0x60")))) ∧
      Sample.told "0xCD" (Sample.codeAt "0xab") = some (.ok (.ofResult (some (.str "0x")))) ∧
      Sample.told "0xAB" (Sample.codeAt "0xab") ≠ Sample.told "0xCD" (Sample.codeAt "0xab") := by
  have first : Sample.told "0xAB" (Sample.codeAt "0xab") = some (.ok (.ofResult (some (.str "0x60")))) := rfl
  have second : Sample.told "0xCD" (Sample.codeAt "0xab") = some (.ok (.ofResult (some (.str "0x")))) := rfl
  refine ⟨rfl, rfl, first, second, ?_⟩
  rw [first, second]
  intro same
  simp [RpcResponse.ofResult] at same

end WalletPair.Extension.Rpc
