import WalletPair.Evm.ChainConsistency
import WalletPair.Evm.ProviderEvents
import WalletPair.Lib.Run
import Mathlib.Data.List.TakeWhile

/-! The provider's chain id over its runs. `chainChanged` payloads and approved switch
requests set it through three readers of numbers, and each of them lets something through
that is no chain id. -/

namespace WalletPair.Evm
open WalletPair.Sdk WalletPair.Lib

/-! ### Chain ids -/

/-- A positive integer. -/
def ValidId (chainId : Sdk.Num) : Prop := ∃ n : Nat, 0 < n ∧ chainId = .finite n

/-- `0x` and the hexadecimal digits of a positive integer. -/
def ValidHex (text : String) : Prop := ∃ n : Nat, 0 < n ∧ text = "0x" ++ String.ofList (Nat.toDigits 16 n)

theorem validHex_of_validId {chainId : Sdk.Num} (valid : ValidId chainId) : ValidHex ("0x" ++ chainId.hexText) := by
  obtain ⟨n, pos, rfl⟩ := valid
  exact ⟨n, pos, by rw [hexText_nat]⟩

/-- The chain id that a payload names: a positive integer as a number, in decimal or
hexadecimal digits, or as the reference of a CAIP-2 chain id. -/
def announced (raw : Option Json) : Option Nat :=
  (match raw with
    | some (.str s) => chainIdValue (.str s)
    | some (.num mantissa exponent) => chainIdValue (.num (.ofDecimal mantissa exponent))
    | _ => none).filter (0 < ·)

/-- The double of a positive integer is one, or infinite. -/
theorem nearest_cases {n : Nat} (pos : 0 < n) : ValidId (.nearest n) ∨ Sdk.Num.nearest n = .infinity false := by
  by_cases small : n < 2 ^ 53
  · exact Or.inl ⟨n, pos, Sdk.Num.nearest_nat small⟩
  obtain ⟨k, digits, split, some, -⟩ := Sdk.Num.significand_large (Nat.le_of_not_lt small)
  have nonzero : (n : ℚ) ≠ 0 := by exact_mod_cast pos.ne'
  have positive : ¬ (n : ℚ) < 0 := not_lt.mpr (by positivity)
  have value : (digits : ℚ) * 2 ^ (-(-(k : Int))).toNat / 2 ^ (-(k : Int)).toNat = ((digits * 2 ^ k : Nat) : ℚ) := by
    rw [neg_neg, Int.toNat_neg_natCast, Int.toNat_natCast, pow_zero, div_one]
    push_cast
    rfl
  by_cases fits : (2 : ℚ) ^ 1024 ≤ ((digits * 2 ^ k : Nat) : ℚ)
  · right
    simp only [Sdk.Num.nearest, if_neg nonzero, Rat.num_natCast, Int.natAbs_natCast, Rat.den_natCast, split, value, if_pos fits,
      positive, decide_false]
  · left
    refine ⟨digits * 2 ^ k, by positivity, ?_⟩
    simp only [Sdk.Num.nearest, if_neg nonzero, Rat.num_natCast, Int.natAbs_natCast, Rat.den_natCast, split, value, if_neg fits,
      if_neg positive]

/-! ### Runs -/

/-- The provider and what it told its listeners. -/
structure Told where
  provider : Provider
  emitted : List Emitted := []

/-- The session's events and phases, and the wallet's answers with the heap at that time. -/
inductive ProviderLabel where
  | phase (phase : DApp.Phase)
  | event (name data : Json)
  | answer (h : Heap) (args : RequestArgs) (result : Option Json)

def reaction (p : Provider) : ProviderLabel → Reaction
  | .phase phase => onPhase p phase
  | .event name data => onEvent p name data
  | .answer h args result => onAnswer p h args result

def react (s : Told) (l : ProviderLabel) : Told where
  provider := (reaction s.provider l).provider
  emitted := s.emitted ++ (reaction s.provider l).emitted

/-- The provider's chain id, every `chainChanged` it emitted and its answers to `eth_chainId` are valid. -/
structure ChainValid (s : Told) : Prop where
  chainId : ValidId s.provider.chainId
  emitted : ∀ text, .chainChanged text ∈ s.emitted → ValidHex text
  answers : s.provider.disconnected = false → ∀ h params, ∃ text,
    dispatch s.provider h ⟨"eth_chainId", params⟩ = (.answered text, h) ∧ ValidHex text

/-- A malformed `chainChanged` payload leaves the provider as it is, tells nothing and throws nothing. -/
def Unmoved (s : Told) : ProviderLabel → Prop
  | .event name data =>
    name = .str "chainChanged" → announced (chainField data) = none →
      react s (.event name data) = s ∧ (onEvent s.provider name data).thrown = none
  | _ => True

/-- A payload that is none, and that the handler does not take for one either. -/
def Ignored (current : Sdk.Num) (s : String) : Prop :=
  if "eip155:".toList.isPrefixOf s.toList then
    let reference := (s.toList.drop 7).takeWhile (· ≠ ':')
    reference ≠ [] ∧ Sdk.Num.parseInt reference 10 = current
  else if "0x".toList.isPrefixOf s.toList then Sdk.Num.parseInt s.toList 16 = current
  else Sdk.Num.parseInt s.toList 10 = .nan ∨ Sdk.Num.parseInt s.toList 10 = .finite 0 ∨ Sdk.Num.parseInt s.toList 10 = current

/-- What the chain id survives. A payload names a chain id below infinity; or it is a text
that reads as the current chain id, or, without a prefix, as zero or no number; or it is
neither text nor number. The number of an approved switch is a chain id, or none. -/
def Readable (s : Told) : ProviderLabel → Prop
  | .phase _ => True
  | .event name data =>
    name = .str "chainChanged" →
      match chainField data with
      | some (.str raw) =>
        match announced (some (.str raw)) with
        | some n => Sdk.Num.nearest n ≠ .infinity false
        | none => Ignored s.provider.chainId raw
      | some (.num mantissa exponent) => announced (some (.num mantissa exponent)) ≠ none
      | _ => True
  | .answer h args _ =>
    args.method = "wallet_switchEthereumChain" →
      switchTarget h args.params = .nan ∨ ValidId (switchTarget h args.params)

/-! ### What the handler reads -/

theorem chainChanged_reaction (p : Provider) (data : Json) : onEvent p (.str "chainChanged") data = onChainChanged p data := rfl

theorem readChainId_caip {s : String} (caip : "eip155:".toList.isPrefixOf s.toList = true) :
    readChainId (some (.str s)) =
      let reference := (s.toList.drop 7).takeWhile (· ≠ ':')
      if reference = [] then .error ("Invalid CAIP-2 chain ID: " ++ s) else .ok (some (Sdk.Num.parseInt reference 10)) := by
  obtain ⟨rest, spelled⟩ := List.isPrefixOf_iff_prefix.mp caip
  have head : s.toList.takeWhile (· ≠ ':') = "eip155".toList := by
    rw [← spelled]
    rfl
  have tail : (s.toList.dropWhile (· ≠ ':')).drop 1 = s.toList.drop 7 := by
    rw [← spelled]
    rfl
  simp only [readChainId, caip, if_true, evmNumericChainId, parseChainId, head, tail]
  generalize (s.toList.drop 7).takeWhile (· ≠ ':') = reference
  cases reference <;> rfl

theorem readChainId_hex {s : String} (hex : "0x".toList.isPrefixOf s.toList = true) :
    readChainId (some (.str s)) = .ok (some (Sdk.Num.parseInt s.toList 16)) := by
  have other : "eip155:".toList.isPrefixOf s.toList = false := by
    obtain ⟨rest, spelled⟩ := List.isPrefixOf_iff_prefix.mp hex
    rw [← spelled]
    rfl
  simp only [readChainId, other, hex]
  rfl

theorem readChainId_plain {s : String} (caip : "eip155:".toList.isPrefixOf s.toList = false)
    (hex : "0x".toList.isPrefixOf s.toList = false) :
    readChainId (some (.str s)) = .ok (some (Sdk.Num.parseInt s.toList 10) |>.filter Sdk.Num.truthy) := by
  simp only [readChainId, caip, hex]
  rfl

theorem digits_of_foldlM {radix : Nat} {cs : List Char} {acc n : Nat}
    (read : cs.foldlM (fun acc c => (Sdk.Num.digitValue radix c).map (acc * radix + ·)) acc = some n) :
    ∀ c ∈ cs, (Sdk.Num.digitValue radix c).isSome = true := by
  induction cs generalizing acc with
  | nil => simp
  | cons first rest ih =>
    rw [List.foldlM_cons] at read
    cases digit : Sdk.Num.digitValue radix first with
    | none => simp [digit] at read
    | some d =>
      rw [digit] at read
      intro c member
      rcases List.mem_cons.mp member with rfl | later
      · rw [digit]
        rfl
      · exact ih read c later

theorem numeral_no_colon {cs : List Char} {n : Nat} (read : numeral 10 cs = some n) : ∀ c ∈ cs, c ≠ ':' := by
  unfold numeral at read
  split_ifs at read
  rintro c member rfl
  have digit := digits_of_foldlM read ':' member
  exact absurd digit (by decide)

/-- A text that names a chain id is read as it. -/
theorem readChainId_announced {s : String} {n : Nat} (named : announced (some (.str s)) = some n) :
    0 < n ∧ readChainId (some (.str s)) = .ok (some (.nearest n)) := by
  obtain ⟨value, pos⟩ := Option.filter_eq_some_iff.mp named
  have positive : 0 < n := by simpa using pos
  refine ⟨positive, ?_⟩
  have spelled : quantity s = some n ∨ (quantity s = none ∧ caipNumber s = some n) := by
    have either : (quantity s <|> caipNumber s) = some n := value
    cases read : quantity s with
    | some m =>
      rw [read] at either
      exact Or.inl (by simpa using either)
    | none =>
      rw [read] at either
      exact Or.inr ⟨rfl, by simpa using either⟩
  rcases spelled with read | ⟨-, read⟩
  · have parsed := parsed_quantity read
    by_cases hex : "0x".toList.isPrefixOf s.toList = true
    · rw [readChainId_hex hex]
      rw [if_pos hex] at parsed
      rw [parsed]
    · have plain : "0x".toList.isPrefixOf s.toList = false := Bool.eq_false_iff.mpr hex
      have caip : "eip155:".toList.isPrefixOf s.toList = false := by
        cases prefixed : "eip155:".toList.isPrefixOf s.toList with
        | false => rfl
        | true =>
          obtain ⟨rest, whole⟩ := List.isPrefixOf_iff_prefix.mp prefixed
          unfold quantity at read
          rw [← whole] at read
          cases read
      rw [if_neg hex] at parsed
      rw [readChainId_plain caip plain, parsed]
      have truthy : (Sdk.Num.nearest n).truthy = true := by
        rcases nearest_cases positive with ⟨m, large, same⟩ | same
        · rw [same]
          simpa [Sdk.Num.truthy] using large.ne'
        · rw [same]
          rfl
      simp [truthy]
  · unfold caipNumber at read
    split_ifs at read with caip
    rw [readChainId_caip caip]
    have digits : (s.toList.drop 7).takeWhile (· ≠ ':') = s.toList.drop 7 := by
      apply List.takeWhile_eq_self_iff.mpr
      intro c member
      simpa using numeral_no_colon read c member
    obtain ⟨c, rest, d, whole, -⟩ := numeral_cons read
    have present : s.toList.drop 7 ≠ [] := by
      rw [whole]
      exact List.cons_ne_nil c rest
    simp only [digits, if_neg present, parseInt_decimal read]

/-! ### One step -/

section Step
variable {s : Told} {data : Json} {c : Sdk.Num}

theorem chainValid_of (chainId : ValidId s.provider.chainId) (emitted : ∀ text, .chainChanged text ∈ s.emitted → ValidHex text) :
    ChainValid s := by
  refine ⟨chainId, emitted, fun open_ h params => ?_⟩
  refine ⟨"0x" ++ s.provider.chainId.hexText, ?_, validHex_of_validId chainId⟩
  simp [dispatch, open_]

theorem differs_iff (valid : ValidId s.provider.chainId) : differs c s.provider.chainId = true ↔ c ≠ s.provider.chainId := by
  obtain ⟨n, -, same⟩ := valid
  simp only [differs, same, decide_eq_true_eq, or_iff_right_iff_imp]
  rintro rfl
  exact nofun

/-- A step that tells nothing about the chain and leaves it keeps it valid. -/
theorem chainValid_quiet {r : Reaction} (valid : ChainValid s) (same : r.provider.chainId = s.provider.chainId)
    (silent : ∀ text, .chainChanged text ∉ r.emitted) : ChainValid ⟨r.provider, s.emitted ++ r.emitted⟩ := by
  refine chainValid_of (same ▸ valid.chainId) fun text member => ?_
  rcases List.mem_append.mp member with old | new
  · exact valid.emitted text old
  · exact absurd new (silent text)

theorem chainValid_moved (valid : ChainValid s) :
    ChainValid ⟨(s.provider.setChainId c).provider, s.emitted ++ (s.provider.setChainId c).emitted⟩ ↔ ValidId c := by
  constructor
  · exact fun after => after.chainId
  · intro chainId
    refine chainValid_of chainId fun text member => ?_
    rcases List.mem_append.mp member with old | new
    · exact valid.emitted text old
    · obtain rfl : text = "0x" ++ c.hexText := by simpa [Provider.setChainId] using new
      exact validHex_of_validId chainId

theorem react_same : Told.mk s.provider (s.emitted ++ []) = s := by rw [List.append_nil]

/-- What may come of reading a payload that names `named`. -/
def Taken (current : Sdk.Num) (named : Option Nat) : Except String (Option Sdk.Num) → Prop
  | .error _ => named ≠ none
  | .ok none => True
  | .ok (some c) => c = current ∨ (named ≠ none ∧ ValidId c)

/-- What a payload does, by what the handler reads from it. -/
theorem chainChanged_good (valid : ChainValid s) :
    (Unmoved s (.event (.str "chainChanged") data) ∧ ChainValid (react s (.event (.str "chainChanged") data))) ↔
      Taken s.provider.chainId (announced (chainField data)) (readChainId (chainField data)) := by
  have shape : react s (.event (.str "chainChanged") data) =
      ⟨(onChainChanged s.provider data).provider, s.emitted ++ (onChainChanged s.provider data).emitted⟩ := rfl
  simp only [Unmoved, chainChanged_reaction, forall_const, shape]
  unfold onChainChanged
  cases read : readChainId (chainField data) with
  | error thrown =>
    simp only [react_same, valid, and_true, Taken]
    constructor
    · intro unmoved malformed
      have none : some thrown = none := (unmoved malformed).2
      cases none
    · exact fun named malformed => absurd malformed named
  | ok found =>
    cases found with
    | none => simp [valid, Taken]
    | some c =>
      have iff := differs_iff valid.chainId (c := c)
      dsimp only [Taken]
      cases moves : differs c s.provider.chainId with
      | false =>
        have same : c = s.provider.chainId := by
          by_contra other
          rw [iff.mpr other] at moves
          cases moves
        simp [valid, same]
      | true =>
        have other : c ≠ s.provider.chainId := iff.mp moves
        simp only [if_true, chainValid_moved valid, other, false_or]
        constructor
        · rintro ⟨unmoved, chainId⟩
          refine ⟨fun malformed => other ?_, chainId⟩
          exact congrArg (fun t : Told => t.provider.chainId) (unmoved malformed).1
        · rintro ⟨named, chainId⟩
          exact ⟨fun malformed => absurd malformed named, chainId⟩

theorem taken_malformed {current : Sdk.Num} : Taken current none (.ok (some c)) ↔ c = current := by simp [Taken]

/-- A malformed text is survived exactly if the handler ignores it. -/
theorem ignored_iff {current : Sdk.Num} {raw : String} :
    Taken current none (readChainId (some (.str raw))) ↔ Ignored current raw := by
  unfold Ignored
  by_cases caip : "eip155:".toList.isPrefixOf raw.toList = true
  · rw [readChainId_caip caip, if_pos caip]
    generalize (raw.toList.drop 7).takeWhile (· ≠ ':') = reference
    dsimp only
    by_cases empty : reference = []
    · simp [empty, Taken]
    · simp [empty, taken_malformed]
  · rw [if_neg caip]
    by_cases hex : "0x".toList.isPrefixOf raw.toList = true
    · rw [readChainId_hex hex, if_pos hex, taken_malformed]
    · rw [readChainId_plain (Bool.eq_false_iff.mpr caip) (Bool.eq_false_iff.mpr hex), if_neg hex]
      generalize Sdk.Num.parseInt raw.toList 10 = parsed
      by_cases falsy : parsed.truthy = true
      · have known : parsed ≠ .nan ∧ parsed ≠ .finite 0 := by
          constructor <;> (rintro rfl; exact absurd falsy (by decide))
        rw [Option.filter_some, if_pos falsy, taken_malformed]
        simp [known]
      · have none : parsed = .nan ∨ parsed = .finite 0 := by
          cases parsed with
          | nan => exact Or.inl rfl
          | infinity negative => exact absurd rfl falsy
          | finite q =>
            have zero : q = 0 := by simpa [Sdk.Num.truthy] using falsy
            exact Or.inr (by rw [zero])
        rw [Option.filter_some, if_neg falsy]
        exact iff_of_true trivial (none.imp_right Or.inl)

/-- A payload is survived exactly if it is readable. -/
theorem event_good (valid : ChainValid s) (data : Json) :
    Readable s (.event (.str "chainChanged") data) ↔
      Unmoved s (.event (.str "chainChanged") data) ∧ ChainValid (react s (.event (.str "chainChanged") data)) := by
  rw [chainChanged_good valid]
  simp only [Readable, forall_const]
  cases field : chainField data with
  | none => simp [readChainId, Taken]
  | some raw =>
    cases raw with
    | str raw =>
      dsimp only
      cases named : announced (some (.str raw)) with
      | none => exact ignored_iff.symm
      | some n =>
        obtain ⟨pos, read⟩ := readChainId_announced named
        rw [read]
        simp only [Taken]
        obtain ⟨m, -, current⟩ := valid.chainId
        constructor
        · intro fits
          rcases nearest_cases pos with chainId | same
          · exact Or.inr ⟨by rintro ⟨⟩, chainId⟩
          · exact absurd same fits
        · rintro (same | ⟨-, k, -, same⟩) infinite
          · rw [current, infinite] at same
            cases same
          · rw [infinite] at same
            cases same
    | num mantissa exponent =>
      simp only [readChainId, Taken]
      constructor
      · intro named
        refine Or.inr ⟨named, ?_⟩
        obtain ⟨n, known⟩ := Option.ne_none_iff_exists'.mp named
        obtain ⟨value, pos⟩ := Option.filter_eq_some_iff.mp known
        have positive : 0 < n := by simpa using pos
        refine ⟨n, positive, ?_⟩
        have read : chainIdValue (.num (.ofDecimal mantissa exponent)) = some n := value
        cases double : Sdk.Num.ofDecimal mantissa exponent with
        | finite q =>
          rw [double] at read
          change (if q.den = 1 then some q.num.toNat else none) = some n at read
          split_ifs at read with whole
          have size : q.num.toNat = n := by simpa using read
          have num : q.num = (n : Int) := by omega
          rw [← Rat.num_div_den q, whole, num]
          norm_num
        | _ =>
          rw [double] at read
          cases read
      · rintro (same | ⟨named, -⟩)
        · obtain ⟨n, pos, current⟩ := valid.chainId
          have read : announced (some (.num mantissa exponent)) = some n := by
            simp [announced, same, current, chainIdValue, pos]
          rw [read]
          rintro ⟨⟩
        · exact named
    | _ => simp [readChainId, Taken]

theorem switch_not_account : ¬ ("wallet_switchEthereumChain" = "eth_requestAccounts" ∨ "wallet_switchEthereumChain" = "eth_accounts") := by
  decide

/-- An answer is survived exactly if the chain it switches to is one. -/
theorem answer_good (valid : ChainValid s) (h : Heap) (args : RequestArgs) (result : Option Json) :
    Readable s (.answer h args result) ↔ ChainValid (react s (.answer h args result)) := by
  have shape : react s (.answer h args result) =
      ⟨(onAnswer s.provider h args result).provider, s.emitted ++ (onAnswer s.provider h args result).emitted⟩ := rfl
  simp only [Readable, shape]
  by_cases switches : args.method = "wallet_switchEthereumChain"
  · simp only [switches, forall_const, onAnswer, if_neg switch_not_account, if_true]
    generalize switchTarget h args.params = target
    by_cases moves : target ≠ .nan ∧ target ≠ s.provider.chainId
    · rw [if_pos moves, chainValid_moved valid]
      simp [moves.1]
    · rw [if_neg moves]
      have known : target = .nan ∨ target = s.provider.chainId := by
        by_contra other
        exact moves (not_or.mp other)
      have fine : target = .nan ∨ ValidId target := by
        rcases known with nan | same
        · exact Or.inl nan
        · exact Or.inr (by rw [same]; exact valid.chainId)
      refine iff_of_true fine ?_
      exact chainValid_quiet valid rfl (by simp)
  · refine iff_of_true (fun same => absurd same switches) ?_
    apply chainValid_quiet valid
    · unfold onAnswer
      rw [if_neg switches]
      split_ifs
      · cases accountsOf result with
        | error thrown => rfl
        | ok accounts => cases accounts <;> rfl
      · rfl
    · unfold onAnswer
      rw [if_neg switches]
      split_ifs
      · cases accountsOf result with
        | error thrown => simp
        | ok accounts => cases accounts <;> simp
      · simp

/-- The other events and the phases leave the chain alone. -/
theorem phase_good (valid : ChainValid s) (phase : DApp.Phase) : ChainValid (react s (.phase phase)) := by
  apply chainValid_quiet valid
  · simp only [reaction, onPhase]
    split_ifs <;> rfl
  · intro text
    simp only [reaction, onPhase]
    split_ifs <;> simp

theorem other_good (valid : ChainValid s) {name : Json} (other : name ≠ .str "chainChanged") (data : Json) :
    ChainValid (react s (.event name data)) := by
  have accounts : (onAccountsChanged s.provider data).provider.chainId = s.provider.chainId ∧
      ∀ text, .chainChanged text ∉ (onAccountsChanged s.provider data).emitted := by
    unfold onAccountsChanged
    dsimp only
    split
    · cases List.mapM accountOf _ <;> simp
    · simp
  have quiet : (onEvent s.provider name data).provider.chainId = s.provider.chainId ∧
      ∀ text, .chainChanged text ∉ (onEvent s.provider name data).emitted := by
    unfold onEvent
    split
    · unfold onDisconnect
      dsimp only
      cases reasonText (disconnectReason data) <;> simp
    · exact accounts
    · exact absurd rfl other
    · simp
  exact chainValid_quiet valid quiet.1 quiet.2

/-- A step is survived exactly if its input is readable. -/
theorem react_good (valid : ChainValid s) (l : ProviderLabel) :
    Readable s l ↔ Unmoved s l ∧ ChainValid (react s l) := by
  cases l with
  | phase phase => exact iff_of_true trivial ⟨trivial, phase_good valid phase⟩
  | answer h args result =>
    rw [answer_good valid]
    exact (and_iff_right trivial).symm
  | event name data =>
    by_cases same : name = .str "chainChanged"
    · subst same
      exact event_good valid data
    · refine iff_of_true (fun is => absurd is same) ⟨fun is => absurd is same, other_good valid same data⟩

end Step

/-! ### Runs -/

/-- The provider's chain id survives exactly the runs whose payloads and approved switches
are readable: the chain id, the emitted and the answered texts stay valid, and malformed
payloads leave the provider alone. -/
theorem provider_chain_id_valid (p : Provider) (chainId : ValidId p.chainId) (labels : List ProviderLabel) :
    Run.Along react Readable ⟨p, []⟩ labels ↔
      Run.Along react Unmoved ⟨p, []⟩ labels ∧
        ∀ first, first <+: labels → ChainValid (Run.run react ⟨p, []⟩ first) := by
  have start : ChainValid ⟨p, []⟩ := chainValid_of chainId (by simp)
  generalize (⟨p, []⟩ : Told) = s at start
  induction labels generalizing s with
  | nil =>
    refine iff_of_true trivial ⟨trivial, fun first before => ?_⟩
    rw [List.prefix_nil.mp before]
    exact start
  | cons l rest ih =>
    constructor
    · rintro ⟨readable, later⟩
      obtain ⟨unmoved, valid⟩ := (react_good start l).mp readable
      obtain ⟨rests, runs⟩ := (ih (react s l) valid).mp later
      refine ⟨⟨unmoved, rests⟩, fun first before => ?_⟩
      cases first with
      | nil => exact start
      | cons head tail =>
        obtain ⟨rfl, shorter⟩ := List.cons_prefix_cons.mp before
        exact runs tail shorter
    · rintro ⟨⟨unmoved, rests⟩, runs⟩
      have valid : ChainValid (react s l) := runs [l] (by simp)
      refine ⟨(react_good start l).mpr ⟨unmoved, valid⟩, (ih (react s l) valid).mpr ⟨rests, fun first before => ?_⟩⟩
      exact runs (l :: first) (List.cons_prefix_cons.mpr ⟨rfl, before⟩)

/-- A payload in hexadecimal, one that is no number, and an approved switch. -/
def switching : List ProviderLabel :=
  [.event (.str "chainChanged") (.obj [("chainId", .str "0x89")]), .event (.str "chainChanged") (.str "mainnet"),
    .answer [⟨some [.ref 1], []⟩, ⟨none, [("chainId", .str "0xa")]⟩] ⟨"wallet_switchEthereumChain", some 0⟩ none]

theorem provider_chain_id_valid_sample :
    Run.Along react Readable ⟨Sample.provider, []⟩ switching ∧ ChainValid (Run.run react ⟨Sample.provider, []⟩ switching) := by
  have readable : Run.Along react Readable ⟨Sample.provider, []⟩ switching := by
    refine ⟨fun _ => ?_, fun _ => ?_, fun _ => ?_, trivial⟩
    · change Sdk.Num.nearest ((137 : Nat) : ℚ) ≠ .infinity false
      rw [Sdk.Num.nearest_nat (by decide)]
      exact nofun
    · exact Or.inl rfl
    · refine Or.inr ⟨10, by decide, ?_⟩
      change Sdk.Num.nearest ((10 : Nat) : ℚ) = .finite ((10 : Nat) : ℚ)
      exact Sdk.Num.nearest_nat (by decide)
  exact ⟨readable, ((provider_chain_id_valid Sample.provider ⟨1, by decide, rfl⟩ switching).mp readable).2 switching (List.prefix_refl _)⟩

/-- Malformed payloads that reach the chain id, or throw out of the handler. -/
theorem malformed_chain_accepted :
    (¬ ChainValid (react ⟨Sample.provider, []⟩ (.event (.str "chainChanged") (.str "0xzz"))) ∧
      (onEvent Sample.provider (.str "chainChanged") (.str "0xzz")).emitted = [.chainChanged "0xNaN"]) ∧
    ¬ Unmoved ⟨Sample.provider, []⟩ (.event (.str "chainChanged") (.str "eip155:")) ∧
    ¬ ChainValid (react ⟨Sample.provider, []⟩ (.event (.str "chainChanged") (.obj [("chainId", .num (-5) 0)]))) ∧
    ¬ ChainValid (react ⟨Sample.provider, []⟩
      (.answer [⟨some [.ref 1], []⟩, ⟨none, [("chainId", .str "0x0")]⟩] ⟨"wallet_switchEthereumChain", some 0⟩ none)) := by
  have invalid : ∀ {s : Told} {c : Sdk.Num}, s.provider.chainId = c → c.isPositive = false → ¬ ChainValid s := by
    intro s c same negative valid
    obtain ⟨n, pos, current⟩ := valid.chainId
    rw [← same, current] at negative
    simp [Sdk.Num.isPositive, pos] at negative
  refine ⟨⟨invalid rfl rfl, rfl⟩, ?_, invalid rfl (by decide +kernel), invalid rfl (by decide +kernel)⟩
  intro unmoved
  have none : some "Invalid CAIP-2 chain ID: eip155:" = (none : Option String) := (unmoved rfl rfl).2
  cases none

end WalletPair.Evm
