import WalletPair.Sdk.Sealing
import WalletPair.Sdk.DApp.Loop
import WalletPair.Sdk.Wallet.Moves

/-! What arrives of a request. Its method and parameters are flattened into one object, and
the wallet takes them apart again; parameters under a name of the envelope do not survive. -/

namespace WalletPair.Sdk
open WalletPair.Lib WalletPair.Lib.Program

/-! ### Method and parameters -/

/-- The parameters a call asks for: absent and null ones are an empty object. -/
def givenParams : Option Json → Json
  | none => .obj []
  | some .null => .obj []
  | some value => value

/-- The method is named, and no parameter has a name of the envelope. -/
def Carried (method : String) : Option Json → Prop
  | some (.obj fields) => method ≠ "" ∧ "_method" ∉ fields.map Prod.fst ∧ "_params" ∉ fields.map Prod.fst
  | _ => method ≠ ""

/-- What the envelope holds under each name. -/
theorem field_enveloped {name : String} {value : Json} {fields : List (String × Json)}
    (distinct : (fields.map Prod.fst).Nodup) (key : String) :
    (Json.obj (Json.spread [(name, value)] fields)).field key =
      ((Json.obj fields).field key).or (if key = name then some value else none) := by
  rw [Json.field_spread distinct]
  by_cases own : key = name
  · simp [Json.field, own]
  · simp [Json.field, own, Ne.symm own]

theorem nodup_enveloped (name : String) (value : Json) (fields : List (String × Json)) :
    ((Json.spread [(name, value)] fields).map Prod.fst).Nodup :=
  Json.nodup_spread fields (List.nodup_singleton name)

section
variable {method : String} {back : Json}

theorem methodOf_eq_some : Wallet.methodOf back = some method ↔
    method ≠ "" ∧ back.field "_method" = some (.str method) := by
  unfold Wallet.methodOf
  constructor
  · intro read
    split at read
    · rename_i text held
      split_ifs at read with empty
      cases read
      exact ⟨empty, held⟩
    · cases read
  · rintro ⟨named, held⟩
    rw [held]
    exact if_neg named

/-- A value in an envelope of its own. -/
theorem wrapped_read {value : Json}
    (same : back.normal = (Json.obj [("_method", .str method), ("_params", value)]).normal) :
    (Wallet.methodOf back = some method ∧ (Wallet.paramsOf back).normal = value.normal) ↔ method ≠ "" := by
  obtain ⟨own, rfl, -⟩ := Json.obj_of_normal same
  have held (key : String) := Json.fields_of_normal same key
  have named : (Json.obj own).field "_method" = some (.str method) := by
    obtain ⟨v, found, text⟩ := Option.map_eq_some_iff.mp (held "_method")
    rw [found, Json.normal_eq_str text]
  obtain ⟨v, found, kept⟩ := Option.map_eq_some_iff.mp (held "_params")
  rw [methodOf_eq_some, Wallet.paramsOf, found]
  exact ⟨fun read => read.1.1, fun filled => ⟨⟨filled, named⟩, kept⟩⟩

/-- Parameters that are laid out in the envelope itself. -/
theorem flattened_read {fields : List (String × Json)} (distinct : (fields.map Prod.fst).Nodup)
    (same : back.normal = (Json.obj (Json.spread [("_method", .str method)] fields)).normal) :
    (Wallet.methodOf back = some method ∧ (Wallet.paramsOf back).normal = (Json.obj fields).normal) ↔
      method ≠ "" ∧ "_method" ∉ fields.map Prod.fst ∧ "_params" ∉ fields.map Prod.fst := by
  obtain ⟨own, rfl, -⟩ := Json.obj_of_normal same
  have held (key : String) := Json.fields_of_normal same key
  have ownDistinct : (own.map Prod.fst).Nodup := (Json.keys_of_normal same).nodup_iff.mpr (nodup_enveloped _ _ _)
  rw [methodOf_eq_some]
  constructor
  · rintro ⟨⟨filled, -⟩, kept⟩
    have noParams : "_params" ∉ fields.map Prod.fst := by
      intro reserved
      obtain ⟨value, inside⟩ := Option.ne_none_iff_exists'.mp (mt Json.field_eq_none.mp (not_not.mpr reserved))
      have there := held "_params"
      rw [field_enveloped distinct, inside] at there
      obtain ⟨v, found, equal⟩ := Option.map_eq_some_iff.mp there
      rw [Wallet.paramsOf, found] at kept
      exact Json.normal_ne_member distinct inside (equal.symm.trans kept)
    have absent : (Json.obj own).field "_params" = none := by
      have there := held "_params"
      rw [field_enveloped distinct, Json.field_eq_none.mpr noParams] at there
      exact Option.map_eq_none_iff.mp there
    rw [Wallet.paramsOf, absent] at kept
    refine ⟨filled, fun reserved => ?_, noParams⟩
    have left := (Json.keys_of_normal kept).mem_iff.mpr reserved
    obtain ⟨f, member, name⟩ := List.mem_map.mp left
    have outside := (List.mem_filter.mp member).2
    simp [name] at outside
  · rintro ⟨filled, noMethod, noParams⟩
    have named : (Json.obj own).field "_method" = some (.str method) := by
      have there := held "_method"
      rw [field_enveloped distinct, Json.field_eq_none.mpr noMethod] at there
      obtain ⟨v, found, text⟩ := Option.map_eq_some_iff.mp there
      rw [found, Json.normal_eq_str text]
    have absent : (Json.obj own).field "_params" = none := by
      have there := held "_params"
      rw [field_enveloped distinct, Json.field_eq_none.mpr noParams] at there
      exact Option.map_eq_none_iff.mp there
    refine ⟨⟨filled, named⟩, ?_⟩
    rw [Wallet.paramsOf, absent]
    refine Json.normal_obj_ext (Json.nodup_without _ ownDistinct) distinct fun key => ?_
    rw [Json.field_without]
    by_cases reserved : key ∈ ["_method", "_params"]
    · have missing : key ∉ fields.map Prod.fst := by
        rcases List.mem_pair.mp reserved with rfl | rfl
        · exact noMethod
        · exact noParams
      rw [if_pos reserved, Json.field_eq_none.mpr missing]
    · have other : key ≠ "_method" := fun same => reserved (by simp [same])
      rw [if_neg reserved, Json.ownFields, held, field_enveloped distinct, if_neg other, Option.or_none]

/-- What the wallet reads is what was asked for exactly when it can be carried. -/
theorem sealedParams_read {params : Option Json} (whole : ∀ value ∈ params, value.proper = true)
    (same : back.normal = (DApp.buildSealedParams method params).normal) :
    (Wallet.methodOf back = some method ∧ (Wallet.paramsOf back).normal = (givenParams params).normal) ↔
      Carried method params := by
  rcases params with _ | value
  · exact wrapped_read same
  · cases value with
    | obj fields => exact flattened_read (Json.nodup_of_proper (whole _ rfl)) same
    | null => exact wrapped_read same
    | bool b => exact wrapped_read same
    | num mantissa exponent => exact wrapped_read same
    | str text => exact wrapped_read same
    | arr items => exact wrapped_read same

end

/-! ### Prompts -/

namespace Wallet

/-- The session has shown the event since `s`. -/
def Session.Emits (s t : Session) (event : Event) : Prop :=
  ∃ more, t.trace = s.trace ++ more ∧ .emitted event ∈ more

/-- No request was shown to the application. -/
def Unasked (s t : Session) : Prop :=
  ∃ more, t.trace = s.trace ++ more ∧ ∀ id method params, .emitted (.request id method params) ∉ more

theorem Unasked.of_trace {s t : Session} (same : t.trace = s.trace) : Unasked s t :=
  ⟨[], by simp [same], by simp⟩

instance : Std.Refl Unasked := ⟨fun _ => .of_trace rfl⟩

instance : IsTrans Session Unasked := by
  refine ⟨fun s t u first second => ?_⟩
  obtain ⟨more, grown, quiet⟩ := first
  obtain ⟨later, onward, silent⟩ := second
  refine ⟨more ++ later, by rw [onward, grown, List.append_assoc], fun id method params shown => ?_⟩
  rcases List.mem_append.mp shown with early | late
  · exact quiet id method params early
  · exact silent id method params late

theorem Unasked.emits {s t : Session} (h : Unasked s t) {id method : String} {params : Json} :
    ¬ s.Emits t (.request id method params) := by
  rintro ⟨more, grown, shown⟩
  obtain ⟨same, apart, quiet⟩ := h
  rw [grown] at apart
  exact quiet id method params (List.append_cancel_left apart ▸ shown)

theorem unasked_of_moves {α : Type} {m : M α} (made : Keeps (Moves (· ∈ [Kind.sending])) m) : Keeps Unasked m := by
  intro s
  obtain ⟨more, grown, kinds⟩ := notes_of_moves (made s)
  refine ⟨more, grown, fun id method params shown => ?_⟩
  have kind := kinds _ shown
  simp [Obs.kind, Kind.quiet] at kind

theorem record_unasked {o : Obs} (other : ∀ id method params, .emitted (.request id method params) ≠ o) :
    Keeps Unasked (record o) :=
  fun _ => ⟨[o], rfl, fun id method params shown => other id method params (List.mem_singleton.mp shown)⟩

theorem cacheProcessedResponse_unasked (id : String) (ok : Bool) (data : Option Json) :
    Keeps Unasked (cacheProcessedResponse id ok data) := by
  refine .bind .get fun s => ?_
  cases s.pendingRequestRecords.get id with
  | none => exact .pure _
  | some pending =>
    exact .bind (fun _ => .of_trace rfl) fun _ => .bind (record_unasked fun _ _ _ same => by cases same) fun _ =>
      .ite (.bind (fun _ => .of_trace rfl) fun _ => record_unasked fun _ _ _ same => by cases same) (.pure _)

theorem reject_unasked (C : Crypto) (id code message : String) (observed : Bool) :
    Keeps Unasked (reject C id code message observed) := by
  have reserves : Keeps (Moves (· ∈ [Kind.sending]))
      (nextSendSeq (.respond id false (some (errorData code message)) true observed)) :=
    nextSendSeq_moves (by simp) _ fun _ => rfl
  have seals (seq : Nat) : Keeps (Moves (· ∈ [Kind.sending])) (sendSealed C .res id seq
      (responsePayload false (some (errorData code message))) (.res (some id))) :=
    sendSealed_moves C (by simp) _ _ _ _ _
  refine .bind .get fun _ => .ite (.pure _) (.bind (unasked_of_moves reserves) fun reservation => ?_)
  cases reservation with
  | exhausted => exact .pure _
  | waits => exact .pure _
  | reserved seq =>
    exact .bind (.bind (unasked_of_moves (seals seq)) fun _ =>
      .ite (.bind (cacheProcessedResponse_unasked _ _ _) fun _ => .pure _) (.pure _)) fun _ => .pure _

/-- A wallet that will show the next request of this number: it has not seen it, and has room. -/
structure Session.Awaits (s : Session) (id : String) : Prop where
  listening : s.muted = false
  notBroadcast : s.broadcastResponseCache.get id = none
  notAnswered : s.idempotencyCache.get id = none
  notPending : s.pendingRequestRecords.get id = none
  room : s.pendingRequestRecords.size < maxPendingRequests

/-- Whether the wallet granted the method. -/
def Session.grants (s : Session) (method : String) : Bool :=
  ((s.effectiveCapabilities.field "methods").getD .null).hasString method

/-- A new request is shown exactly when it names a granted method, with the parameters read. -/
theorem processRequest_emits {C : Crypto} {s : Session} {id method : String} {data params : Json} {plaintext : Bytes}
    (awaits : s.Awaits id) :
    s.Emits (after (processRequest C id data plaintext) s) (.request id method params) ↔
      methodOf data = some method ∧ s.grants method = true ∧ params = paramsOf data := by
  obtain ⟨listening, notBroadcast, notAnswered, notPending, room⟩ := awaits
  unfold processRequest
  rw [after_get_bind]
  cases named : methodOf data with
  | none =>
    simp only [reduceCtorEq, false_and, iff_false]
    exact (reject_unasked C _ _ _ _ s).emits
  | some name =>
    dsimp only
    by_cases granted : ((s.effectiveCapabilities.field "methods").getD .null).hasString name = true
    · have shown : (after (dispatchRequest C id name (paramsOf data) (sha256Hex C plaintext) plaintext) s).trace =
          s.trace ++ [.prompting id plaintext, .emitted (.request id name (paramsOf data))] := by
        simp [dispatchRequest, promptRequest, notBroadcast, notAnswered, notPending, Nat.not_le.mpr room, after_emit,
          Session.emitting, listening, record]
      rw [if_pos granted]
      constructor
      · rintro ⟨more, grown, member⟩
        rw [shown] at grown
        rw [← List.append_cancel_left grown] at member
        simp only [List.mem_cons, reduceCtorEq, Obs.emitted.injEq, Event.request.injEq, false_or, List.not_mem_nil,
          or_false] at member
        obtain ⟨-, rfl, rfl⟩ := member
        exact ⟨rfl, granted, rfl⟩
      · rintro ⟨same, -, rfl⟩
        cases same
        exact ⟨_, shown, by simp⟩
    · rw [if_neg granted]
      refine iff_of_false (reject_unasked C _ _ _ _ s).emits ?_
      rintro ⟨same, allowed, -⟩
      cases same
      exact granted allowed

end Wallet

/-- A payload sealed and opened in one context. -/
theorem sealPayload_opens {C : Crypto} (aead : C.Aead) (key : Bytes) {channel text : String} {seq : Nat} {data back : Json}
    {header : AadHeader} (id : IsChannelId channel) (small : seq ≤ maxSeq) (fits : header.Fits)
    (prints : C.Prints data text back) :
    ∃ envelope, sealPayload C key channel seq data header = .ok (envelope, utf8ToBytes text) ∧
      unsealPayload C key channel envelope header = .ok ⟨seq, back, utf8ToBytes text⟩ := by
  obtain ⟨bytes, read, -, -⟩ := channelBytes_of_id id
  have built := buildAad_of_fits read fits
  exact ⟨_, sealPayload_ok small prints.1 built, unsealPayload_sealed aead small prints built⟩

/-- The wallet shows a new request of a granted method with the method and the parameters of
the call, exactly when the call can be carried. -/
theorem request_round_trip_iff {C : Crypto} (aead : C.Aead) {key : Bytes} {channel method text : String} {seq : Nat}
    {header : AadHeader} {params : Option Json} {back : Json} {s : Wallet.Session} (id : IsChannelId channel)
    (small : seq ≤ maxSeq) (fits : header.Fits) (whole : ∀ value ∈ params, value.proper = true)
    (prints : C.Prints (DApp.buildSealedParams method params) text back) (granted : s.grants method = true)
    (awaits : s.Awaits header.id) :
    (∃ envelope opened, sealPayload C key channel seq (DApp.buildSealedParams method params) header =
        .ok (envelope, utf8ToBytes text) ∧ unsealPayload C key channel envelope header = .ok opened ∧
      ∃ shown, s.Emits (after (Wallet.processRequest C header.id opened.data opened.plaintext) s)
        (.request header.id method shown) ∧ shown.normal = (givenParams params).normal) ↔ Carried method params := by
  obtain ⟨envelope, seals, opens⟩ := sealPayload_opens aead key id small fits prints
  rw [← sealedParams_read whole prints.2.2]
  constructor
  · rintro ⟨other, opened, made, read, shown, emitted, kept⟩
    rw [seals] at made
    cases made
    rw [opens] at read
    cases read
    obtain ⟨named, -, rfl⟩ := (Wallet.processRequest_emits awaits).mp emitted
    exact ⟨named, kept⟩
  · rintro ⟨named, kept⟩
    refine ⟨envelope, _, seals, opens, _, ?_, kept⟩
    exact (Wallet.processRequest_emits awaits).mpr ⟨named, granted, rfl⟩

namespace Sample

/-- Parameters under plain names, and one under a name of the envelope. -/
def plainParams : Json := .obj [("chain", .num 1 0)]

def plainText : String := "\x7b\"_method\":\"m\",\"chain\":1\x7d"

def plainBack : Json := .obj [("_method", .str "m"), ("chain", .num 1 0)]

def takenParams : Json := .obj [("_method", .str "n")]

def takenText : String := "\x7b\"_method\":\"n\"\x7d"

/-- A wallet before its first request. -/
def newWallet : Wallet.Session := Wallet.Session.new (Wallet.Sample.options false)

theorem newWallet_awaits (id : String) : newWallet.Awaits id := ⟨rfl, rfl, rfl, rfl, by decide⟩

theorem reqHeader_fits : AadHeader.Fits ⟨.req, "d", "req-1"⟩ := by
  constructor <;> decide +kernel

end Sample

theorem request_round_trip_iff_sample :
    Carried "m" (some Sample.plainParams) ∧
      ∃ envelope opened, sealPayload .ideal [1] Sample.someChannel 7 (DApp.buildSealedParams "m" (some Sample.plainParams))
          ⟨.req, "d", "req-1"⟩ = .ok (envelope, utf8ToBytes Sample.plainText) ∧
        unsealPayload .ideal [1] Sample.someChannel envelope ⟨.req, "d", "req-1"⟩ = .ok opened ∧
        ∃ shown, Sample.newWallet.Emits
          (after (Wallet.processRequest .ideal "req-1" opened.data opened.plaintext) Sample.newWallet)
          (.request "req-1" "m" shown) ∧ shown.normal = Sample.plainParams.normal := by
  have carried : Carried "m" (some Sample.plainParams) := by simp [Carried, Sample.plainParams]
  have prints : Crypto.ideal.Prints (DApp.buildSealedParams "m" (some Sample.plainParams)) Sample.plainText
      Sample.plainBack := ⟨by decide +kernel, rfl, rfl⟩
  have whole : ∀ value ∈ some Sample.plainParams, value.proper = true := by
    rintro value ⟨⟩
    decide +kernel
  exact ⟨carried, (request_round_trip_iff Crypto.ideal_aead (by decide +kernel)
    (by decide) Sample.reqHeader_fits whole prints (by decide +kernel) (Sample.newWallet_awaits _)).mpr carried⟩

/-- A call of a granted method with a parameter named `_method` reaches the application
under neither: the wallet takes the parameter for the method. -/
theorem reserved_parameter_lost :
    Sample.newWallet.grants "m" = true ∧ Sample.newWallet.Awaits "req-1" ∧
      ∃ envelope opened, sealPayload .ideal [1] Sample.someChannel 7 (DApp.buildSealedParams "m" (some Sample.takenParams))
          ⟨.req, "d", "req-1"⟩ = .ok (envelope, utf8ToBytes Sample.takenText) ∧
        unsealPayload .ideal [1] Sample.someChannel envelope ⟨.req, "d", "req-1"⟩ = .ok opened ∧
        ∀ shown, ¬ Sample.newWallet.Emits
          (after (Wallet.processRequest .ideal "req-1" opened.data opened.plaintext) Sample.newWallet)
          (.request "req-1" "m" shown) := by
  have prints : Crypto.ideal.Prints (DApp.buildSealedParams "m" (some Sample.takenParams)) Sample.takenText
      Sample.takenParams := ⟨by decide +kernel, rfl, rfl⟩
  obtain ⟨envelope, seals, opens⟩ := sealPayload_opens Crypto.ideal_aead [1]
    (by decide +kernel : IsChannelId Sample.someChannel) (by decide : 7 ≤ maxSeq) Sample.reqHeader_fits prints
  refine ⟨by decide +kernel, Sample.newWallet_awaits _, envelope, _, seals, opens, fun shown emitted => ?_⟩
  obtain ⟨named, -, -⟩ := (Wallet.processRequest_emits (Sample.newWallet_awaits _)).mp emitted
  exact absurd named (by decide +kernel)

end WalletPair.Sdk
