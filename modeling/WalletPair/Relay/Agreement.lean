import WalletPair.Relay.Language

/-! Where the two relays part: a frame that the worker takes for a message or for one of
another version is taken the same way by the server exactly if it is strict. -/

namespace WalletPair.Relay.Language
open WalletPair.Sdk

/-! ### The versions -/

/-- The double nearest to a small whole number is whole, and is one only for one. -/
theorem numberInteger_natural {n : Nat} (small : n < 2 ^ 64) :
    ∃ m : Int, Relay.Worker.numberInteger n 0 = some m ∧ (m = 1 ↔ n = 1) := by
  unfold Relay.Worker.numberInteger
  by_cases zero : n = 0
  · exact ⟨0, by simp [zero], by simp [zero]⟩
  · have positive : 1 ≤ n := Nat.one_le_iff_ne_zero.mpr zero
    have low : 2 ^ n.log2 ≤ n := Nat.log2_self_le zero
    have wide : n.log2 < 64 := (Nat.log2_lt zero).mpr small
    have finite : ∀ m : Nat, m ≤ 2 ^ 65 → ¬ 2 ^ 1024 ≤ m := by
      intro m bound large
      have apart : ∀ k, 65 < k → 2 ^ 65 < 2 ^ k := fun k above => Nat.pow_lt_pow_right Nat.one_lt_two above
      exact absurd (lt_of_le_of_lt bound (apart 1024 (by decide))) (not_lt_of_ge large)
    have sign : ¬ (n : Int) < 0 := by omega
    simp only [Int.natAbs_natCast, zero, if_false, pow_zero, Nat.div_one, positive, if_true, Nat.one_mul]
    by_cases narrow : n.log2 ≤ 52
    · -- a double holds the number itself
      obtain ⟨k, shift⟩ : ∃ k : Nat, (52 : Int) - (n.log2 : Int) = k := ⟨52 - n.log2, by omega⟩
      have even : n * 2 ^ k % 2 ^ k = 0 := Nat.mul_mod_left n (2 ^ k)
      have back : n * 2 ^ k / 2 ^ k = n := Nat.mul_div_cancel n (Nat.two_pow_pos k)
      refine ⟨n, ?_, by omega⟩
      simp [shift, even, back, finite n (small.le.trans (by decide)), Nat.mod_one, sign, -Nat.reducePow]
    · -- the low bits are rounded away, and what is left is large
      obtain ⟨k, shift, k_pos⟩ : ∃ k : Nat, (52 : Int) - (n.log2 : Int) = -(k : Int) ∧ 0 < k :=
        ⟨n.log2 - 52, by omega, by omega⟩
      have k_small : 2 ^ k ≤ 2 ^ 12 := Nat.pow_le_pow_right (by decide) (by omega)
      have k_even : 2 ≤ 2 ^ k := by
        calc 2 = 2 ^ 1 := rfl
          _ ≤ 2 ^ k := Nat.pow_le_pow_right (by decide) k_pos
      have above : 2 ^ k ≤ n := le_trans (Nat.pow_le_pow_right (by decide) (by omega)) low
      have floor_pos : 1 ≤ n / 2 ^ k := (Nat.one_le_div_iff (Nat.two_pow_pos k)).mpr above
      have floor_le : n / 2 ^ k * 2 ^ k ≤ n := Nat.div_mul_le_self n (2 ^ k)
      have down : ¬ (0 : Int) ≤ -(k : Int) := by omega
      simp only [shift, down, false_and, if_false, Int.neg_neg, Int.toNat_natCast, Int.toNat_neg_natCast, pow_zero,
        Nat.mul_one, Nat.div_one, sign]
      obtain ⟨s, rounded, s_low, s_high⟩ : ∃ s, (if 2 ^ k < 2 * (n % 2 ^ k) ∨ 2 ^ k = 2 * (n % 2 ^ k) ∧ n / 2 ^ k % 2 = 1
          then n / 2 ^ k + 1 else n / 2 ^ k) = s ∧ n / 2 ^ k ≤ s ∧ s ≤ n / 2 ^ k + 1 :=
        ⟨_, rfl, by split <;> omega, by split <;> omega⟩
      have bound : s * 2 ^ k ≤ 2 ^ 65 := by
        calc s * 2 ^ k ≤ (n / 2 ^ k + 1) * 2 ^ k := Nat.mul_le_mul_right _ s_high
          _ = n / 2 ^ k * 2 ^ k + 2 ^ k := Nat.succ_mul _ _
          _ ≤ 2 ^ 65 := by omega
      have large : 2 ≤ s * 2 ^ k := le_trans k_even (Nat.le_mul_of_pos_left _ (by omega))
      rw [rounded, if_neg (finite _ bound)]
      exact ⟨_, rfl, by omega⟩

/-- A version that the server reads is read by the worker, and is one for both or for neither. -/
theorem version_of_asU64 {literal : NumberLiteral} {n : Int} (read : Server.asU64 literal = some n) :
    ∃ m, Worker.dialect.version literal = some m ∧ (m = 1 ↔ n = 1) := by
  unfold Server.asU64 at read
  split at read
  · next plain =>
    obtain ⟨positive, noFraction, noExponent, small⟩ := plain
    cases read
    obtain ⟨m, same, one⟩ := numberInteger_natural small
    refine ⟨m, ?_, by omega⟩
    simpa [Worker.dialect, NumberLiteral.decimal, positive, noFraction, noExponent] using same
  · cases read

/-! ### Where the relays part -/

theorem valid_of_server {s : Units} (valid : Server.validatePeerId s = true) :
    Worker.dialect.validatePeerId s = true := by
  unfold Server.validatePeerId at valid
  simp only [Worker.dialect]
  cases ascii : asciiText s with
  | none => simp [ascii] at valid
  | some text =>
    rw [ascii, Option.bind_some] at valid
    unfold Server.decode at valid
    split_ifs at valid with alphabet
    cases decoded : b64urlDecode text with
    | none => simp [decoded] at valid
    | some bytes =>
      have size : bytes.length = 32 := by
        simp only [decoded] at valid
        split_ifs at valid
        simpa using valid
      have some_ : text ≠ "" := by
        rintro rfl
        have empty : b64urlDecode "" = some [] := by decide +kernel
        rw [empty, Option.some.injEq] at decoded
        rw [← decoded] at size
        cases size
      simp [Relay.Worker.validatePeerId, some_, alphabet, decoded, size]

/-- The object has an integral version and, if that is one, the shape of a message, as the
worker reads it. -/
def Speaks (obj : JsonText) : Prop :=
  ∃ literal n, obj.field "v" = some (.num literal) ∧ Worker.dialect.version literal = some n ∧
    (n = 1 → ∃ type sender body, Shaped Worker.dialect.validatePeerId obj type sender body)

/-- The peers that the object names leave no bits over. -/
def CanonicalPeers (obj : JsonText) : Prop :=
  (∀ sender, obj.field "from" = some (.str sender) → Server.validatePeerId sender = true) ∧
  (obj.field "t" = some (.str (units "accept".toList)) → ∀ body target, obj.field "body" = some body →
    body.field "target" = some (.str target) → Server.validatePeerId target = true)

/-- The server's JSON library takes the object, its version is written as the digits of a
64-bit number, and if that is one its peers are canonical. -/
structure Strict (inRange : NumberLiteral → Bool) (obj : JsonText) : Prop where
  reads : (Server.dialect inRange).reads obj = true
  version : ∀ literal, obj.field "v" = some (.num literal) →
    ∃ n, Server.asU64 literal = some n ∧ (n = 1 → CanonicalPeers obj)

variable {obj body : JsonText} {type : MessageType} {sender : Units} {d : Dialect}

theorem BodyShaped.of_targets {valid stricter : Units → Bool} (shaped : BodyShaped valid body type)
    (targets : type = .accept → ∀ target, body.field "target" = some (.str target) → stricter target = true) :
    BodyShaped stricter body type := by
  cases type with
  | accept =>
    obtain ⟨target, named, -⟩ := shaped
    exact ⟨target, named, targets rfl target named⟩
  | _ => exact shaped

theorem accept_name {name : String} (mem : (name, MessageType.accept) ∈ typeNames) : name = "accept" := by
  simpa [typeNames] using mem

theorem shaped_server_iff (shaped : Shaped Worker.dialect.validatePeerId obj type sender body) :
    (∃ type sender body, Shaped Server.validatePeerId obj type sender body) ↔ CanonicalPeers obj := by
  constructor
  · rintro ⟨type', sender', body', strict⟩
    constructor
    · intro other named
      rw [strict.sent, Option.some.injEq, JsonText.str.injEq] at named
      exact named ▸ strict.peer
    · intro accepts other target there named
      obtain ⟨name, mem, typed⟩ := strict.typed
      rw [accepts, Option.some.injEq, JsonText.str.injEq] at typed
      have known : messageType (units "accept".toList) = .ok type' := messageType_ok.mpr ⟨name, mem, typed⟩
      have accept : messageType (units "accept".toList) = .ok .accept := rfl
      rw [accept, Except.ok.injEq] at known
      subst known
      rw [strict.bodied.1, Option.some.injEq] at there
      subst there
      obtain ⟨peer, found, valid⟩ := strict.shaped
      rw [found, Option.some.injEq, JsonText.str.injEq] at named
      exact named ▸ valid
  · intro canonical
    refine ⟨type, sender, body, shaped.typed, shaped.channel, shaped.stamped, shaped.sent, shaped.bodied,
      canonical.1 sender shaped.sent, shaped.shaped.of_targets fun accept target named => ?_⟩
    subst accept
    obtain ⟨name, mem, typed⟩ := shaped.typed
    rw [accept_name mem] at typed
    exact canonical.2 typed body target shaped.bodied.1 named

/-- The version field as a dialect reads it. -/
def versionOf (d : Dialect) (obj : JsonText) : Option Int :=
  match obj.field "v" with
  | some (.num literal) => d.version literal
  | _ => none

theorem parseObject_eq (d : Dialect) (obj : JsonText) :
    parseObject d obj = match versionOf d obj with
      | none => .error (.missingField "v")
      | some v => if v = 1 then parseRest d obj else .error (.unsupportedVersion v) := by
  have read : getVersion d obj = (versionOf d obj).elim (.error (.missingField "v")) .ok := by
    unfold getVersion getNumber versionOf
    cases obj.field "v" with
    | none => rfl
    | some value =>
      cases value with
      | num literal =>
        dsimp only [bind, Except.bind]
        cases d.version literal <;> rfl
      | _ => rfl
  unfold parseObject
  rw [read]
  cases versionOf d obj with
  | none => rfl
  | some v =>
    change (if v ≠ 1 then _ else _) = if v = 1 then _ else _
    by_cases one : v = 1
    · rw [if_neg (not_not.mpr one), if_pos one]
      rfl
    · rw [if_pos one, if_neg one]
      rfl

/-- What the relay answers to an object. -/
def answer (d : Dialect) (obj : JsonText) : Except CloseReason Message :=
  (parseObject d obj).mapError ParseError.toCloseReason

theorem answer_unversioned (none_ : versionOf d obj = none) : answer d obj = .error .protocolError := by
  rw [answer, parseObject_eq, none_]
  rfl

theorem answer_otherVersion {v : Int} (read : versionOf d obj = some v) (other : v ≠ 1) :
    answer d obj = .error .unsupportedVersion := by
  rw [answer, parseObject_eq, read]
  simp only [if_neg other]
  rfl

theorem answer_shaped {m : Message} (read : versionOf d obj = some 1) (ok : parseRest d obj = .ok m) :
    answer d obj = .ok m := by
  rw [answer, parseObject_eq, read]
  simp only [if_true, ok]
  rfl

theorem answer_unshaped (read : versionOf d obj = some 1) (failed : ¬ ∃ m, parseRest d obj = .ok m) :
    answer d obj = .error .protocolError := by
  rw [answer, parseObject_eq, read]
  simp only [if_true]
  cases result : parseRest d obj with
  | ok m => exact (failed ⟨m, result⟩).elim
  | error e => exact congrArg Except.error (parseRest_ordinary d obj e result)

theorem answer_silent (silent : ¬ Speaks obj) : answer Worker.dialect obj = .error .protocolError := by
  cases read : versionOf Worker.dialect obj with
  | none => exact answer_unversioned read
  | some v =>
    have field : ∃ literal, obj.field "v" = some (.num literal) ∧ Worker.dialect.version literal = some v := by
      unfold versionOf at read
      split at read
      · next literal found => exact ⟨literal, found, read⟩
      · cases read
    obtain ⟨literal, found, version⟩ := field
    by_cases one : v = 1
    · subst one
      refine answer_unshaped read fun ok => silent ⟨literal, 1, found, version, fun _ => ?_⟩
      exact parseRest_ok_iff.mp ok
    · exact (silent ⟨literal, v, found, version, fun same => (one same).elim⟩).elim

theorem server_shaped_worker (strict : ∃ type sender body, Shaped Server.validatePeerId obj type sender body) :
    ∃ type sender body, Shaped Worker.dialect.validatePeerId obj type sender body := by
  obtain ⟨type, sender, body, shaped⟩ := strict
  refine ⟨type, sender, body, shaped.typed, shaped.channel, shaped.stamped, shaped.sent, shaped.bodied,
    valid_of_server shaped.peer, ?_⟩
  have weaker : BodyShaped Worker.dialect.validatePeerId body type := by
    have given := shaped.shaped
    cases type with
    | accept =>
      obtain ⟨target, named, valid⟩ := given
      exact ⟨target, named, valid_of_server valid⟩
    | _ => exact given
  exact weaker

/-- What the server answers to a value of its JSON library, or to a text it refuses. -/
def serverAnswer (inRange : NumberLiteral → Bool) (obj : JsonText) : Except CloseReason Message :=
  if (Server.dialect inRange).reads obj then answer (Server.dialect inRange) obj else .error .protocolError

theorem server_silent {inRange : NumberLiteral → Bool} (silent : ¬ Speaks obj) :
    answer (Server.dialect inRange) obj = .error .protocolError := by
  cases read : versionOf (Server.dialect inRange) obj with
  | none => exact answer_unversioned read
  | some v =>
    have field : ∃ literal, obj.field "v" = some (.num literal) ∧ Server.asU64 literal = some v := by
      unfold versionOf at read
      split at read
      · next literal found => exact ⟨literal, found, read⟩
      · cases read
    obtain ⟨literal, found, plain⟩ := field
    obtain ⟨n, version, one⟩ := version_of_asU64 plain
    by_cases first : v = 1
    · subst first
      refine answer_unshaped read fun accepted => silent ⟨literal, n, found, version, fun _ => ?_⟩
      exact server_shaped_worker (parseRest_ok_iff.mp accepted)
    · exact (silent ⟨literal, n, found, version, fun same => (first (one.mp same)).elim⟩).elim

theorem answers_agree_iff (inRange : NumberLiteral → Bool) (obj : JsonText) :
    serverAnswer inRange obj = answer Worker.dialect obj ↔ (Speaks obj → Strict inRange obj) := by
  by_cases speaks : Speaks obj
  · obtain ⟨literal, n, found, version, message⟩ := id speaks
    have read : versionOf Worker.dialect obj = some n := by simp [versionOf, found, version]
    have serverRead : versionOf (Server.dialect inRange) obj = Server.asU64 literal := by
      simp [versionOf, found, Server.dialect]
    -- the worker does not answer with a protocol error, so the server must get past its reading
    have heard : answer Worker.dialect obj ≠ .error .protocolError := by
      by_cases one : n = 1
      · subst one
        obtain ⟨m, ok⟩ := parseRest_ok_iff.mpr (message rfl)
        rw [answer_shaped read ok]
        simp
      · rw [answer_otherVersion read one]
        simp
    unfold serverAnswer
    by_cases reads : (Server.dialect inRange).reads obj = true
    · rw [if_pos reads]
      cases plain : Server.asU64 literal with
      | none =>
        rw [answer_unversioned (serverRead.trans plain)]
        refine ⟨fun same => (heard same.symm).elim, fun strict => ?_⟩
        obtain ⟨v, digits, -⟩ := (strict speaks).version literal found
        rw [plain] at digits
        cases digits
      | some v =>
        obtain ⟨m, same, one⟩ := version_of_asU64 plain
        rw [version, Option.some.injEq] at same
        subst same
        have digits : ∀ other, obj.field "v" = some (.num other) → other = literal := by
          intro other there
          rw [found, Option.some.injEq, JsonText.num.injEq] at there
          exact there.symm
        by_cases first : v = 1
        · subst first
          have oneToo := one.mpr rfl
          subst oneToo
          obtain ⟨type, sender, body, shaped⟩ := message rfl
          obtain ⟨m, ok⟩ := parseRest_ok_iff.mpr (message rfl)
          constructor
          · intro same _
            refine ⟨reads, fun other there => ⟨1, digits other there ▸ plain, fun _ => ?_⟩⟩
            rw [← shaped_server_iff shaped]
            by_contra unshaped
            refine heard (same.symm.trans (answer_unshaped (serverRead.trans plain) fun accepted => unshaped ?_))
            exact parseRest_ok_iff.mp accepted
          · intro strict
            obtain ⟨v, again, canonical⟩ := (strict speaks).version literal found
            rw [plain, Option.some.injEq] at again
            have accepted : ∃ m, parseRest (Server.dialect inRange) obj = .ok m :=
              parseRest_ok_iff.mpr ((shaped_server_iff shaped).mpr (canonical again.symm))
            obtain ⟨m', ok'⟩ := accepted
            rw [answer_shaped (serverRead.trans plain) ok', answer_shaped read ok, parseRest_unique ok' ok]
        · have other : n ≠ 1 := fun same => first (one.mp same)
          rw [answer_otherVersion (serverRead.trans plain) first, answer_otherVersion read other]
          refine ⟨fun _ _ => ⟨reads, fun other there => ⟨v, digits other there ▸ plain, fun same => ?_⟩⟩, fun _ => rfl⟩
          exact (first same).elim
    · rw [if_neg reads]
      refine ⟨fun same => (heard same.symm).elim, fun strict => ?_⟩
      exact (reads (strict speaks).reads).elim
  · refine ⟨fun _ spoken => (speaks spoken).elim, fun _ => ?_⟩
    rw [answer_silent speaks]
    unfold serverAnswer
    split
    · exact server_silent speaks
    · rfl

/-! ### Every frame -/

theorem receive_within {d : Dialect} {text : List Char} (small : d.length text ≤ maxMessageBytes) :
    receive d text = (parseMessage d text).mapError ParseError.toCloseReason := by
  unfold receive
  rw [if_neg (Nat.not_lt.mpr small)]

theorem receive_beyond {d : Dialect} {text : List Char} (large : maxMessageBytes < d.length text) :
    receive d text = .error .payloadTooLarge := by
  unfold receive
  rw [if_pos large]

theorem parse_ne_tooLarge (x : Except ParseError Message) :
    x.mapError ParseError.toCloseReason ≠ .error .payloadTooLarge := by
  cases x with
  | ok m => simp [Except.mapError]
  | error e => cases e <;> simp [Except.mapError, ParseError.toCloseReason]

theorem server_parse_obj {inRange : NumberLiteral → Bool} {text : List Char} {members : List (Units × JsonText)}
    (read : JsonText.read text = some (.obj members)) :
    (parseMessage (Server.dialect inRange) text).mapError ParseError.toCloseReason =
      serverAnswer inRange (.obj members) := by
  unfold parseMessage serverAnswer
  rw [read]
  dsimp only
  split <;> rfl

theorem worker_parse_obj {text : List Char} {members : List (Units × JsonText)}
    (read : JsonText.read text = some (.obj members)) :
    (parseMessage Worker.dialect text).mapError ParseError.toCloseReason = answer Worker.dialect (.obj members) := by
  unfold parseMessage
  rw [read]
  rfl

/-- A text that is no JSON object is refused by each relay with the same reason. -/
theorem parse_not_obj (d : Dialect) {text : List Char} (other : ∀ members, JsonText.read text ≠ some (.obj members)) :
    (parseMessage d text).mapError ParseError.toCloseReason = .error .protocolError := by
  unfold parseMessage
  split
  · rfl
  · next value read =>
    split
    · cases value with
      | obj members => exact (other members read).elim
      | _ => rfl
    · rfl

/-- The relays agree on a text frame exactly if it is within or beyond the limit for both
and, within it, is strict wherever the worker hears a message or another version. -/
theorem frames_agree_iff (inRange : NumberLiteral → Bool) (text : List Char) :
    receive (Server.dialect inRange) text = receive Worker.dialect text ↔
      (utf8Length text ≤ maxMessageBytes ∨ maxMessageBytes < (units text).length) ∧
      (utf8Length text ≤ maxMessageBytes → ∀ members, JsonText.read text = some (.obj members) →
        Speaks (.obj members) → Strict inRange (.obj members)) := by
  have shorter := units_length_le text
  by_cases small : utf8Length text ≤ maxMessageBytes
  · rw [receive_within (d := Server.dialect inRange) small, receive_within (d := Worker.dialect) (shorter.trans small)]
    by_cases object : ∃ members, JsonText.read text = some (.obj members)
    · obtain ⟨members, read⟩ := object
      rw [server_parse_obj read, worker_parse_obj read, answers_agree_iff]
      constructor
      · intro strict
        refine ⟨.inl small, fun _ other again => ?_⟩
        rw [read, Option.some.injEq] at again
        exact again ▸ strict
      · intro both
        exact both.2 small members read
    · have other : ∀ members, JsonText.read text ≠ some (.obj members) := fun members read => object ⟨members, read⟩
      rw [parse_not_obj _ other, parse_not_obj _ other]
      exact ⟨fun _ => ⟨.inl small, fun _ members read => (other members read).elim⟩, fun _ => rfl⟩
  · rw [receive_beyond (d := Server.dialect inRange) (Nat.lt_of_not_le small)]
    by_cases large : maxMessageBytes < (units text).length
    · rw [receive_beyond (d := Worker.dialect) large]
      exact ⟨fun _ => ⟨.inr large, fun within => (small within).elim⟩, fun _ => rfl⟩
    · rw [receive_within (d := Worker.dialect) (Nat.le_of_not_lt large)]
      constructor
      · intro same
        exact (parse_ne_tooLarge _ same.symm).elim
      · rintro ⟨within | beyond, -⟩
        · exact (small within).elim
        · exact (large beyond).elim

/-- A ping whose version has a fraction. -/
def fractionalVersion : List Char :=
  "\x7b\"v\":1.0,\"t\":\"ping\",\"ch\":\"".toList ++ List.replicate 64 'a' ++
    "\",\"ts\":0,\"from\":\"".toList ++ List.replicate 43 'A' ++ "\",\"body\":\x7b\x7d\x7d".toList

/-- More bytes than the limit, in fewer code units. -/
def wideText : List Char := List.replicate 30000 '€'

set_option maxRecDepth 4000 in
theorem relays_part :
    receive (Server.dialect fun _ => true) fractionalVersion = .error .protocolError ∧
      (∃ m, receive Worker.dialect fractionalVersion = .ok m) ∧
      receive (Server.dialect fun _ => true) wideText = .error .payloadTooLarge ∧
      receive Worker.dialect wideText ≠ .error .payloadTooLarge := by
  have bytes : utf8Length wideText = 90000 := by
    rw [utf8Length, wideText, List.map_replicate, List.sum_replicate_nat]
    rfl
  have codeUnits : (units wideText).length = 30000 := by
    rw [units, wideText, List.flatMap_replicate, List.length_flatten, List.map_replicate, List.sum_replicate_nat]
    rfl
  have accepted : (receive Worker.dialect fractionalVersion).toBool = true := by decide +kernel
  refine ⟨by decide +kernel, ?_, ?_, ?_⟩
  · cases result : receive Worker.dialect fractionalVersion with
    | ok m => exact ⟨m, rfl⟩
    | error e =>
      rw [result] at accepted
      cases accepted
  · refine receive_beyond ?_
    change maxMessageBytes < utf8Length wideText
    rw [bytes]
    decide
  · rw [receive_within (d := Worker.dialect) (by change (units wideText).length ≤ maxMessageBytes; rw [codeUnits]; decide)]
    exact parse_ne_tooLarge _

end WalletPair.Relay.Language
