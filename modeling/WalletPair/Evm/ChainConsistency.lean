import WalletPair.Evm.Provider

/-! The two chain fields of a relayed transaction. `dispatch` derives `chain` from the
`chainId` of the transaction, but a `chainId` that it cannot read is relayed beside the
session's chain. -/

namespace WalletPair.Evm
open WalletPair.Sdk

/-! ### What a chain id denotes -/

/-- Digits only, and at least one. -/
def numeral (radix : Nat) (cs : List Char) : Option Nat :=
  if cs = [] then none else cs.foldlM (fun acc c => (Sdk.Num.digitValue radix c).map (acc * radix + ·)) 0

/-- A hexadecimal or decimal quantity. -/
def quantity (s : String) : Option Nat :=
  match s.toList with
  | '0' :: 'x' :: digits => numeral 16 digits
  | digits => numeral 10 digits

/-- The reference of a CAIP-2 chain id. -/
def caipNumber (s : String) : Option Nat :=
  if "eip155:".toList.isPrefixOf s.toList then numeral 10 (s.toList.drop 7) else none

/-- The number that a `chainId` stands for. -/
def chainIdValue : Value → Option Nat
  | .str s => quantity s <|> caipNumber s
  | .num (.finite q) => if q.den = 1 then some q.num.toNat else none
  | _ => none

/-- A `chainId` that is absent, null or empty. -/
def missing : Value → Bool
  | .undefined => true
  | .null => true
  | .str s => s = ""
  | _ => false

/-! ### Reading numerals -/

theorem leadingDigits_numeral {radix : Nat} {cs : List Char} {acc n : Nat}
    (read : cs.foldlM (fun acc c => (Sdk.Num.digitValue radix c).map (acc * radix + ·)) acc = some n) :
    Sdk.Num.leadingDigits radix acc cs = (n, cs.length) := by
  induction cs generalizing acc with
  | nil => simpa [Sdk.Num.leadingDigits] using read
  | cons c rest ih =>
    rw [List.foldlM_cons] at read
    cases digit : Sdk.Num.digitValue radix c with
    | none => simp [digit] at read
    | some d =>
      rw [digit] at read
      simp [Sdk.Num.leadingDigits, digit, ih read]

theorem numeral_cons {radix : Nat} {cs : List Char} {n : Nat} (read : numeral radix cs = some n) :
    ∃ c rest d, cs = c :: rest ∧ Sdk.Num.digitValue radix c = some d := by
  unfold numeral at read
  cases cs with
  | nil => simp at read
  | cons c rest =>
    rw [if_neg (by simp), List.foldlM_cons] at read
    cases digit : Sdk.Num.digitValue radix c with
    | none => simp [digit] at read
    | some d => exact ⟨c, rest, d, rfl, digit⟩

theorem leadingDigits_of_numeral {radix : Nat} {cs : List Char} {n : Nat} (read : numeral radix cs = some n) :
    Sdk.Num.leadingDigits radix 0 cs = (n, cs.length) ∧ cs.length ≠ 0 := by
  obtain ⟨c, rest, -, rfl, -⟩ := numeral_cons read
  rw [numeral, if_neg (by simp)] at read
  exact ⟨leadingDigits_numeral read, by simp⟩

theorem parseInt_decimal {cs : List Char} {n : Nat} (read : numeral 10 cs = some n) :
    Sdk.Num.parseInt cs 10 = Sdk.Num.nearest n := by
  obtain ⟨c, rest, d, rfl, digit⟩ := numeral_cons read
  obtain ⟨whole, some⟩ := leadingDigits_of_numeral read
  have kept : (c :: rest).dropWhile Sdk.Num.isWhite = c :: rest := by simp [(Sdk.Num.digit_plain digit).1]
  simp [Sdk.Num.parseInt, kept, Sdk.Num.splitSign_digit digit, whole]

theorem parseInt_hex {cs : List Char} {n : Nat} (read : numeral 16 cs = some n) :
    Sdk.Num.parseInt ('0' :: 'x' :: cs) 16 = Sdk.Num.nearest n := by
  obtain ⟨whole, some⟩ := leadingDigits_of_numeral read
  simp [Sdk.Num.parseInt, Sdk.Num.isWhite, Sdk.Num.splitSign, Sdk.Num.stripHex, whole, some]

/-- The number that `dispatch` reads from a text. -/
theorem parsed_quantity {s : String} {n : Nat} (read : quantity s = some n) :
    Sdk.Num.parseInt s.toList (if "0x".toList.isPrefixOf s.toList then 16 else 10) = Sdk.Num.nearest n := by
  unfold quantity at read
  split at read
  · rename_i digits spelled
    rw [spelled, if_pos (by rfl)]
    exact parseInt_hex read
  · rename_i other
    have decimal : "0x".toList.isPrefixOf s.toList = false := by
      cases hex : "0x".toList.isPrefixOf s.toList with
      | false => rfl
      | true =>
        obtain ⟨rest, spelled⟩ := List.isPrefixOf_iff_prefix.mp hex
        exact absurd spelled.symm (other rest)
    rw [decimal]
    exact parseInt_decimal read

/-- `parseInt` reads no number from a CAIP-2 chain id. -/
theorem parsed_caip {s : String} {n : Nat} (read : caipNumber s = some n) :
    Sdk.Num.parseInt s.toList (if "0x".toList.isPrefixOf s.toList then 16 else 10) = .nan := by
  unfold caipNumber at read
  split_ifs at read with caip
  obtain ⟨rest, spelled⟩ := List.isPrefixOf_iff_prefix.mp caip
  rw [← spelled]
  rfl

theorem quantity_of_caip {s : String} {n : Nat} (read : caipNumber s = some n) : quantity s = none := by
  unfold caipNumber at read
  split_ifs at read with caip
  obtain ⟨rest, spelled⟩ := List.isPrefixOf_iff_prefix.mp caip
  unfold quantity
  rw [← spelled]
  rfl

theorem foldlM_append_digit {radix : Nat} {cs : List Char} {n d : Nat} {c : Char} {acc : Nat}
    (read : cs.foldlM (fun acc c => (Sdk.Num.digitValue radix c).map (acc * radix + ·)) acc = some n)
    (digit : Sdk.Num.digitValue radix c = some d) :
    (cs ++ [c]).foldlM (fun acc c => (Sdk.Num.digitValue radix c).map (acc * radix + ·)) acc = some (n * radix + d) := by
  rw [List.foldlM_append, read]
  simp [digit]

theorem numeral_toDigits (n : Nat) : numeral 16 (Nat.toDigits 16 n) = some n := by
  have digit : ∀ d < 16, Sdk.Num.digitValue 16 (Nat.digitChar d) = some d := by decide +kernel
  induction n using Nat.strongRecOn with
  | _ n ih =>
    rw [Nat.toDigits_eq_if (by decide)]
    split
    · rename_i small
      simp [numeral, digit n small]
    · rename_i large
      have shorter := ih (n / 16) (by omega)
      unfold numeral at shorter ⊢
      rw [if_neg (by simp)]
      rw [if_neg Nat.toDigits_ne_nil] at shorter
      rw [foldlM_append_digit shorter (digit (n % 16) (Nat.mod_lt _ (by decide)))]
      congr 1
      omega

theorem hexText_nat (n : Nat) : (Sdk.Num.finite n).hexText = String.ofList (Nat.toDigits 16 n) := by
  have same : Sdk.Num.size (n : ℚ) = n := if_neg (not_lt.mpr (Nat.cast_nonneg n))
  have whole : (n : ℚ).floor = n := by simp [Rat.floor]
  have positive : ¬ (n : ℚ) < 0 := not_lt.mpr (Nat.cast_nonneg n)
  have none : Sdk.Num.hexFraction 270 0 = [] := by simp [Sdk.Num.hexFraction]
  simp [Sdk.Num.hexText, same, whole, positive, none]

/-- The filled-in `chainId` denotes the session's chain. -/
theorem quantity_hexText (n : Nat) : quantity ("0x" ++ (Sdk.Num.finite n).hexText) = some n := by
  have spelled : ("0x" ++ (Sdk.Num.finite n).hexText).toList = '0' :: 'x' :: Nat.toDigits 16 n := by
    have digits : (String.ofList (Nat.toDigits 16 n)).toList = Nat.toDigits 16 n := String.toList_ofList
    rw [hexText_nat, String.toList_append, digits]
    rfl
  rw [quantity, spelled]
  exact numeral_toDigits n

/-! ### A transaction request -/

/-- What the mapper hands on for a transaction. -/
def transactionParams (h : Heap) (tx : Value) : Obj := ⟨none, [("address", h.field tx "from"), ("tx", tx)]⟩

/-- The chain named beside a transaction whose `chainId` is `raw`. -/
def namedChain (h : Heap) (session : Sdk.Num) (raw : Value) : Sdk.Num :=
  if missing raw then session else chosenChain h session raw

/-- The heap with the `chainId` filled in where it is missing. -/
def filled (h : Heap) (session : Sdk.Num) (t : Nat) : Heap :=
  if missing (h.field (.ref t) "chainId") then h.write t "chainId" (.str ("0x" ++ session.hexText)) else h

theorem fillChain_eq (h : Heap) (session : Sdk.Num) (t : Nat) :
    fillChain h session (.ref t) = (namedChain h session (h.field (.ref t) "chainId"), filled h session t) := by
  unfold fillChain namedChain filled
  dsimp only
  generalize h.field (.ref t) "chainId" = raw
  split
  · rfl
  · rfl
  · rfl
  · rename_i notUndefined notNull notEmpty
    have present : missing raw = false := by
      cases raw with
      | undefined => exact absurd rfl notUndefined
      | null => exact absurd rfl notNull
      | str s => simpa [missing] using fun empty => notEmpty (congrArg Value.str empty)
      | _ => rfl
    simp [present]

section Transaction
variable {p : Provider} {h : Heap} {args : RequestArgs} {t : Nat}

/-- The methods that carry a transaction. -/
def RequestArgs.transacts (args : RequestArgs) : Prop :=
  args.method = "eth_sendTransaction" ∨ args.method = "eth_signTransaction"

theorem dispatch_transaction (transacts : args.transacts) (p : Provider) (h : Heap) :
    dispatch p h args = if p.disconnected then (.refused disconnectedError, h) else relay p h args := by
  obtain ⟨method, params⟩ := args
  rcases transacts with same | same
  · obtain rfl : method = "eth_sendTransaction" := same
    simp [dispatch, readOnlyMethods, walletMethods]
  · obtain rfl : method = "eth_signTransaction" := same
    simp [dispatch, readOnlyMethods, walletMethods]

theorem mapRequest_send (h : Heap) (params : Option Nat) :
    mapRequest h "eth_sendTransaction" params = mapTransaction h "wallet_sendTransaction" (h.item params 0) := rfl

theorem mapRequest_signTransaction (h : Heap) (params : Option Nat) :
    mapRequest h "eth_signTransaction" params = mapTransaction h "wallet_signTransaction" (h.item params 0) := rfl

theorem relay_refused (transacts : args.transacts) (none : ∀ t, h.item args.params 0 ≠ .ref t) :
    relay p h args = (.refused invalidParams, h) := by
  have refused : validateTxObject (h.item args.params 0) = .error invalidParams := by
    unfold validateTxObject
    split
    · rename_i a found
      exact absurd found (none a)
    · rfl
  obtain ⟨method, params⟩ := args
  rcases transacts with same | same
  · obtain rfl : method = "eth_sendTransaction" := same
    rw [relay, mapRequest_send, mapTransaction, refused]
    rfl
  · obtain rfl : method = "eth_signTransaction" := same
    rw [relay, mapRequest_signTransaction, mapTransaction, refused]
    rfl

/-- A relayed transaction: the object for the wallet is new, the transaction is the caller's. -/
theorem relay_transaction (transacts : args.transacts) (closed : h.Closed) (found : h.item args.params 0 = .ref t) :
    ∃ method, relay p h args = (.relayed method (.ref h.length),
      (filled (h ++ [transactionParams h (.ref t)]) p.chainId t).write h.length "chain"
        (.str ("eip155:" ++ (namedChain (h ++ [transactionParams h (.ref t)]) p.chainId
          (h.field (.ref t) "chainId")).text))) := by
  have small : t < h.length := by
    have inside := Heap.within_item closed args.params 0
    rwa [found, Value.within, decide_eq_true_eq] at inside
  have grown : t < (h ++ [transactionParams h (.ref t)]).length := by simp; omega
  have older (key : String) : Heap.field (h ++ [transactionParams h (.ref t)]) (.ref t) key = h.field (.ref t) key :=
    Heap.field_append _ small
  have tx : Heap.field (h ++ [transactionParams h (.ref t)]) (.ref h.length) "tx" = .ref t := Heap.field_new _
  have unnamed : Heap.field (filled (h ++ [transactionParams h (.ref t)]) p.chainId t) (.ref h.length) "chain" =
      .undefined := by
    have new : Heap.field (h ++ [transactionParams h (.ref t)]) (.ref h.length) "chain" = .undefined := Heap.field_new _
    unfold filled
    split
    · rw [Heap.field_write_other (Nat.ne_of_lt small), new]
    · exact new
  have inject (method : String) (known : method = "wallet_sendTransaction" ∨ method = "wallet_signTransaction") :
      injectChain p ⟨method, .ref h.length⟩ (h ++ [transactionParams h (.ref t)]) =
        (filled (h ++ [transactionParams h (.ref t)]) p.chainId t).write h.length "chain"
        (.str ("eip155:" ++ (namedChain (h ++ [transactionParams h (.ref t)]) p.chainId
          (h.field (.ref t) "chainId")).text)) := by
    have required : chainRequiredMethods.contains method = true := by
      rcases known with rfl | rfl <;> rfl
    unfold injectChain
    dsimp only
    rw [if_pos required, if_pos known, tx, fillChain_eq, older]
    dsimp only
    rw [unnamed]
    rfl
  obtain ⟨method, params⟩ := args
  rcases transacts with same | same
  · obtain rfl : method = "eth_sendTransaction" := same
    refine ⟨"wallet_sendTransaction", ?_⟩
    rw [← inject _ (Or.inl rfl), relay, mapRequest_send, found]
    rfl
  · obtain rfl : method = "eth_signTransaction" := same
    refine ⟨"wallet_signTransaction", ?_⟩
    rw [← inject _ (Or.inr rfl), relay, mapRequest_signTransaction, found]
    rfl

/-! ### Consistency -/

/-- A relayed transaction names one chain: `chain` is that of its `chainId`, and of the
session where the caller gave none. -/
def Consistent (p : Provider) (h : Heap) (args : RequestArgs) : Prop :=
  ∀ method params after, dispatch p h args = (.relayed method params, after) →
    ∃ n : Nat, 0 < n ∧ after.field params "chain" = .str ("eip155:" ++ toString n) ∧
      chainIdValue (after.field (after.field params "tx") "chainId") = some n ∧
      (missing (h.field (h.item args.params 0) "chainId") = true → p.chainId = .finite n)

/-- The positive number that JavaScript writes as it is. -/
def WritesAs (m : Sdk.Num) (n : Nat) : Prop := 0 < n ∧ m.text = toString n

/-- When the two chain fields agree, by what the caller gave as `chainId`. -/
def Agrees (session : Sdk.Num) : Value → Prop
  | .undefined | .null | .str "" => ∃ n : Nat, session = .finite n ∧ WritesAs session n
  | .str s => ∃ n, (quantity s = some n ∧ WritesAs (.nearest n) n) ∨ (caipNumber s = some n ∧ WritesAs session n)
  | .num m => ∃ n : Nat, m = .finite n ∧ WritesAs m n
  | _ => False

/-- The `chainId` that is relayed. -/
def relayedChainId (session : Sdk.Num) (raw : Value) : Value :=
  if missing raw then .str ("0x" ++ session.hexText) else raw

theorem lt_of_found (closed : h.Closed) (found : h.item args.params 0 = .ref t) : t < h.length := by
  have inside := Heap.within_item closed args.params 0
  rwa [found, Value.within, decide_eq_true_eq] at inside

/-- What is read from the filled-in heap. -/
theorem field_filled (made : Obj) (session : Sdk.Num) (small : t < h.length) (key : String) :
    (filled (h ++ [made]) session t).field (.ref h.length) key = made.field key ∧
      (filled (h ++ [made]) session t).field (.ref t) "chainId" =
        relayedChainId session (h.field (.ref t) "chainId") := by
  have grown : t < (h ++ [made]).length := by
    rw [List.length_append]
    omega
  unfold filled relayedChainId
  rw [Heap.field_append made small]
  split
  · exact ⟨by rw [Heap.field_write_other (Nat.ne_of_lt small), Heap.field_new], by
      rw [Heap.field_write_self grown, if_pos rfl]⟩
  · exact ⟨Heap.field_new made, Heap.field_append made small⟩

/-- Consistency of a request that is relayed, in terms of the caller's `chainId`. -/
theorem consistent_iff (transacts : args.transacts) (closed : h.Closed) (found : h.item args.params 0 = .ref t)
    (connected : p.disconnected = false) :
    Consistent p h args ↔ ∃ n : Nat, 0 < n ∧
      (namedChain (h ++ [transactionParams h (.ref t)]) p.chainId (h.field (.ref t) "chainId")).text = toString n ∧
      chainIdValue (relayedChainId p.chainId (h.field (.ref t) "chainId")) = some n ∧
      (missing (h.field (.ref t) "chainId") = true → p.chainId = .finite n) := by
  have small := lt_of_found closed found
  obtain ⟨method, ran⟩ := relay_transaction (p := p) transacts closed found
  have run := dispatch_transaction transacts p h
  rw [connected, if_neg Bool.false_ne_true, ran] at run
  -- what the relayed parameters and the transaction hold
  let named := namedChain (h ++ [transactionParams h (.ref t)]) p.chainId (h.field (.ref t) "chainId")
  let before := filled (h ++ [transactionParams h (.ref t)]) p.chainId t
  have size : h.length < before.length := by
    change h.length < (filled _ _ _).length
    unfold filled
    split <;> simp
  have chain : (before.write h.length "chain" (.str ("eip155:" ++ named.text))).field (.ref h.length) "chain" =
      .str ("eip155:" ++ named.text) := by rw [Heap.field_write_self size, if_pos rfl]
  have tx : (before.write h.length "chain" (.str ("eip155:" ++ named.text))).field (.ref h.length) "tx" = .ref t := by
    rw [Heap.field_write_self size, if_neg (by decide)]
    exact (field_filled _ _ small "tx").1
  have chainId : (before.write h.length "chain" (.str ("eip155:" ++ named.text))).field (.ref t) "chainId" =
      relayedChainId p.chainId (h.field (.ref t) "chainId") := by
    rw [Heap.field_write_other (Nat.ne_of_gt small)]
    exact (field_filled _ _ small "tx").2
  constructor
  · intro consistent
    obtain ⟨n, pos, name, value, session⟩ := consistent _ _ _ run
    rw [tx, chainId] at value
    rw [found] at session
    rw [chain, Value.str.injEq, String.append_right_inj] at name
    exact ⟨n, pos, name, value, session⟩
  · rintro ⟨n, pos, name, value, session⟩ method' params after same
    rw [run] at same
    cases same
    refine ⟨n, pos, ?_, ?_, ?_⟩
    · rw [chain, ← name]
    · rw [tx, chainId]
      exact value
    · rw [found]
      exact session

theorem agrees_text {session : Sdk.Num} {s : String} (present : s ≠ "") :
    Agrees session (.str s) ↔
      ∃ n, (quantity s = some n ∧ WritesAs (.nearest n) n) ∨ (caipNumber s = some n ∧ WritesAs session n) := by
  unfold Agrees
  split
  · rename_i h
    cases h
  · rename_i h
    cases h
  · rename_i h
    exact absurd (Value.str.inj h) present
  · rename_i h
    rw [Value.str.inj h]
  · rename_i h
    cases h
  · rename_i notText _
    exact absurd rfl (notText s)

/-- The two fields agree for a text that is not empty. -/
theorem named_text {session : Sdk.Num} {s : String} {n : Nat} (present : s ≠ "") (pos : 0 < n) :
    ((namedChain h session (.str s)).text = toString n ∧ chainIdValue (.str s) = some n) ↔
      (quantity s = some n ∧ WritesAs (.nearest n) n) ∨ (caipNumber s = some n ∧ WritesAs session n) := by
  have chosen : namedChain h session (.str s) = chosenChain h session (.str s) := if_neg (by simpa [missing] using present)
  rw [chosen]
  cases read : quantity s with
  | some m =>
    have parsed := parsed_quantity read
    have other : caipNumber s = none := by
      cases caip : caipNumber s with
      | none => rfl
      | some k => exact absurd (quantity_of_caip caip) (by simp [read])
    simp only [chosenChain, parsed, chainIdValue, read, other, reduceCtorEq, false_and, or_false]
    constructor
    · rintro ⟨name, same⟩
      obtain rfl : m = n := by simpa using same
      have positive : (Sdk.Num.nearest m).isPositive = true := by
        by_contra zero
        rw [if_neg zero] at name
        exact zero (Sdk.Num.nearest_positive pos (Sdk.Num.lt_of_text name))
      rw [if_pos positive] at name
      exact ⟨rfl, pos, name⟩
    · rintro ⟨same, -, name⟩
      obtain rfl : m = n := by simpa using same
      have positive := Sdk.Num.nearest_positive pos (Sdk.Num.lt_of_text name)
      rw [if_pos positive]
      exact ⟨name, rfl⟩
  | none =>
    have value : chainIdValue (.str s) = caipNumber s := by rw [chainIdValue, read]; rfl
    have session_of (caip : caipNumber s = some n) : chosenChain h session (.str s) = session := by
      simp only [chosenChain, parsed_caip caip]
      rfl
    rw [value]
    constructor
    · rintro ⟨name, caip⟩
      rw [session_of caip] at name
      exact Or.inr ⟨caip, pos, name⟩
    · rintro (⟨none, -⟩ | ⟨caip, -, name⟩)
      · cases none
      · rw [session_of caip]
        exact ⟨name, caip⟩

theorem named_number {session m : Sdk.Num} {n : Nat} (pos : 0 < n) :
    ((namedChain h session (.num m)).text = toString n ∧ chainIdValue (.num m) = some n) ↔
      m = .finite n ∧ WritesAs m n := by
  have chosen : namedChain h session (.num m) = if m.isPositive then m else session := rfl
  have positive : (Sdk.Num.finite n).isPositive = true := by simpa [Sdk.Num.isPositive] using pos
  rw [chosen]
  constructor
  · rintro ⟨name, value⟩
    cases m with
    | finite q =>
      simp only [chainIdValue, Option.ite_none_right_eq_some, Option.some.injEq] at value
      have same : q = n := by
        have whole : (q.num : ℚ) = q := Rat.coe_int_num_of_den_eq_one value.1
        have positive : q.num = (n : Int) := by omega
        rw [← whole, positive]
        rfl
      subst same
      rw [if_pos positive] at name
      exact ⟨rfl, pos, name⟩
    | _ => cases value
  · rintro ⟨rfl, -, name⟩
    rw [if_pos positive]
    exact ⟨name, by simp [chainIdValue]⟩

/-- Relayed consistently, by what the caller gave as `chainId`. -/
theorem agrees_iff {session : Sdk.Num} {raw : Value} {after : Heap}
    (plain : (∃ s, raw = .str s) ∨ (∃ m, raw = .num m) ∨ raw = .undefined ∨ raw = .null) :
    (∃ n : Nat, 0 < n ∧ (namedChain after session raw).text = toString n ∧
      chainIdValue (relayedChainId session raw) = some n ∧ (missing raw = true → session = .finite n)) ↔
    Agrees session raw := by
  have absent (empty : missing raw = true) (shape : Agrees session raw ↔ ∃ n : Nat, session = .finite n ∧ WritesAs session n) :
      (∃ n : Nat, 0 < n ∧ (namedChain after session raw).text = toString n ∧
      chainIdValue (relayedChainId session raw) = some n ∧ (missing raw = true → session = .finite n)) ↔
      Agrees session raw := by
    rw [shape]
    simp only [namedChain, relayedChainId, if_pos empty]
    constructor
    · rintro ⟨n, pos, name, -, same⟩
      exact ⟨n, same empty, pos, name⟩
    · rintro ⟨n, rfl, pos, name⟩
      exact ⟨n, pos, name, by rw [chainIdValue, quantity_hexText]; rfl, fun _ => rfl⟩
  rcases plain with ⟨s, rfl⟩ | ⟨m, rfl⟩ | rfl | rfl
  · by_cases empty : s = ""
    · subst empty
      exact absent rfl Iff.rfl
    · have given : missing (.str s) = false := by simpa [missing] using empty
      rw [agrees_text empty]
      simp only [relayedChainId, given, if_false, false_implies, and_true, Bool.false_eq_true]
      constructor
      · rintro ⟨n, pos, both⟩
        exact ⟨n, (named_text empty pos).mp both⟩
      · rintro ⟨n, spelled⟩
        have pos : 0 < n := spelled.elim (fun known => known.2.1) fun known => known.2.1
        exact ⟨n, pos, (named_text empty pos).mpr spelled⟩
  · have given : missing (.num m) = false := rfl
    simp only [relayedChainId, given, if_false, false_implies, and_true, Bool.false_eq_true]
    constructor
    · rintro ⟨n, pos, both⟩
      exact ⟨n, (named_number pos).mp both⟩
    · rintro ⟨n, same⟩
      exact ⟨n, same.2.1, (named_number same.2.1).mpr same⟩
  · exact absent rfl Iff.rfl
  · exact absent rfl Iff.rfl

/-- A relayed transaction is consistent exactly when its `chainId` is a number that the
provider reads and writes exactly, or is a CAIP-2 id of the session's own chain, or is
missing while the session's chain is a positive number. -/
theorem transaction_chains_agree (p : Provider) (h : Heap) (args : RequestArgs) (transacts : args.transacts)
    (closed : h.Closed)
    (plain : (∃ s, h.field (h.item args.params 0) "chainId" = .str s) ∨
      (∃ m, h.field (h.item args.params 0) "chainId" = .num m) ∨
      h.field (h.item args.params 0) "chainId" = .undefined ∨ h.field (h.item args.params 0) "chainId" = .null) :
    Consistent p h args ↔ p.disconnected = true ∨ (∀ t, h.item args.params 0 ≠ .ref t) ∨
      Agrees p.chainId (h.field (h.item args.params 0) "chainId") := by
  have refused {error : ProviderRpcError} (run : dispatch p h args = (.refused error, h)) : Consistent p h args := by
    intro method params after relayed
    rw [run] at relayed
    cases relayed
  have run := dispatch_transaction transacts p h
  cases connected : p.disconnected with
  | true =>
    rw [connected, if_pos rfl] at run
    simp [refused run]
  | false =>
    rw [connected, if_neg Bool.false_ne_true] at run
    by_cases object : ∃ t, h.item args.params 0 = .ref t
    · obtain ⟨t, found⟩ := object
      rw [found] at plain ⊢
      rw [consistent_iff transacts closed found connected, agrees_iff plain]
      simp
    · have none : ∀ t, h.item args.params 0 ≠ .ref t := fun t found => object ⟨t, found⟩
      rw [relay_refused transacts none] at run
      exact ⟨fun _ => Or.inr (Or.inl none), fun _ => refused run⟩

end Transaction

theorem writes_nearest {n : Nat} (pos : 0 < n) (small : n < 2 ^ 53) : WritesAs (.nearest n) n := by
  refine ⟨pos, ?_⟩
  rw [Sdk.Num.nearest_nat small]
  exact Sdk.Num.text_nat small.le

namespace Sample

/-- A provider on mainnet. -/
def provider : Provider := ⟨.finite 1, [], true, false, false⟩

/-- A caller's parameters: one transaction with this `chainId`. -/
def heap (chainId : String) : Heap := [⟨some [.ref 1], []⟩, ⟨none, [("to", .str "0x123"), ("chainId", .str chainId)]⟩]

def args : RequestArgs := ⟨"eth_sendTransaction", some 0⟩

end Sample

theorem transaction_chains_agree_sample :
    Consistent Sample.provider (Sample.heap "0x89") Sample.args :=
  (transaction_chains_agree Sample.provider (Sample.heap "0x89") Sample.args (Or.inl rfl) (by decide)
    (Or.inl ⟨"0x89", rfl⟩)).mpr (Or.inr (Or.inr ⟨137, Or.inl ⟨by decide, writes_nearest (by decide) (by decide)⟩⟩))

/-- A transaction for another chain, named in CAIP-2, is relayed for the session's chain. -/
theorem foreign_chain_relayed : ¬ Consistent Sample.provider (Sample.heap "eip155:137") Sample.args := by
  intro consistent
  obtain ⟨n, -, name, value, -⟩ :=
    (consistent_iff (t := 1) (Or.inl rfl) (by decide) (by rfl) (by rfl)).mp consistent
  have known : n = 137 := Option.some.inj (value.symm.trans (by decide +kernel))
  have session : (namedChain (Sample.heap "eip155:137" ++ [transactionParams (Sample.heap "eip155:137") (.ref 1)])
      Sample.provider.chainId (.str "eip155:137")).text = "1" := by decide +kernel
  rw [known] at name
  exact absurd (session.symm.trans name) (by decide)

end WalletPair.Evm
