import WalletPair.Sdk.DApp.SendResults
import WalletPair.Sdk.Wallet.SendResults

/-! What callers are told about their frames: when the results of the calls are truthful. -/

namespace WalletPair.Sdk
open WalletPair.Lib WalletPair.Lib.Program

/-! ### Truthful results -/

/-- The calls of a wallet and its answers are reported and recorded truthfully, and a request
keeps an entry only for a frame that was handed over, exactly when the frame is not one that
seals but is too large. -/
theorem send_results_truthful_iff (C : Crypto) :
    (∀ (s : Wallet.Session) (submission : Wallet.Submission),
      Wallet.Truthful submission.type (submission.id s) (submission.perform C) s ↔ s.loses C submission = false) ∧
    (∀ (s : Wallet.Session) (id : String) (ok : Bool) (data : Option Json) (caches observed : Bool),
      Wallet.Truthful .res id (Wallet.respond C id ok data caches observed) s ↔ s.losesAnswer C id ok data = false) ∧
    (∀ (s : Wallet.Session) (task : Wallet.Task),
      Wallet.Truthful task.type task.frameId (task.promised C) s ↔ s.losesLater C task = false) ∧
    (∀ (s : DApp.Session) (method : String) (params : Option Json),
      DApp.Answerable s (after (DApp.request C method params) s) ↔ ¬ s.StrandsRequest C method params) ∧
    (∀ (s : DApp.Session) (promise : Nat) (id method : String) (params : Option Json) (seq : Nat),
      DApp.Answerable s (after (DApp.resume C (.request promise id method params seq)) s) ↔
        ¬ s.Strands C promise id method params seq) :=
  ⟨Wallet.perform_truthful_iff C, Wallet.respond_truthful_iff C, Wallet.promised_truthful_iff C,
    DApp.request_answerable_iff C, DApp.resume_answerable_iff C⟩

namespace Sample

/-- A wallet without delays in its storage that was connected. -/
def connectedWallet : Wallet.Session :=
  Run.run (Wallet.step .printing) (.new (Wallet.Sample.options false)) [({}, .prepareJoin pairing walletKey),
    ({}, .confirmJoin), ({ nonce := List.replicate 12 0 }, .connect 0 true), ({}, .message (ready dappKey))]

/-- A dApp without persistence that was connected. -/
def connectedDApp : DApp.Session :=
  Run.run (DApp.step .printing) (.new { DApp.Sample.options with persistence := none })
    (calmly [.createPairing dappKey "ab" false, .connect 0 true, .message join, .message (ready walletKey)])

/-- A text of three quarters of the limit, which base64 takes over it. -/
def largeText : String := String.ofList (List.replicate 49152 'a')

theorem connectedWallet_ready : connectedWallet.phase = .connected ∧ connectedWallet.sendKey.isSome = true ∧
    connectedWallet.sendSeq = 0 ∧ connectedWallet.sendsNow = true ∧ connectedWallet.hears = true ∧
    (buildAad connectedWallet.channelId ⟨.res, connectedWallet.pubKeyB64, "x"⟩).isOk = true := by
  decide +kernel

theorem connectedDApp_ready : connectedDApp.phase = .connected ∧ connectedDApp.sendKey.isSome = true ∧
    connectedDApp.sendSeq = 0 ∧ connectedDApp.sendsNow = true ∧ connectedDApp.reqCounter = 0 ∧
    connectedDApp.pendingRequests.keys = [] ∧
    (buildAad connectedDApp.channelId ⟨.req, connectedDApp.pubKeyB64, "req-1"⟩).isOk = true := by
  decide +kernel

theorem largeText_length : 49152 ≤ (utf8ToBytes largeText).length := by
  have spelled := length_utf8ToBytes_ofList (List.replicate 49152 'a')
  rwa [List.length_replicate] at spelled

/-- A sealed value that contains such a text is too large for a frame. -/
theorem large_frame {text : String} (size : 49152 ≤ (utf8ToBytes text).length) {fields members : List (String × Json)}
    {envelope key : String} {body : Body} (sorted : Json.sortKeys (.obj fields) = .obj members)
    (member : (key, Json.str text) ∈ members)
    (long : 4 * (Json.sortKeys (.obj fields)).stringify.length ≤ 3 * (utf8ToBytes envelope).length)
    {shown : List (String × Json)} (spelled : body.toJson.2 = .obj shown) (named : ("sealed", Json.str envelope) ∈ shown)
    (channelId : String) (ts : Nat) (sender : String) : maxMessageBytes < frameBytes channelId ts sender body := by
  have quoted := length_quote text
  have inner := length_stringify_member member
  have framed := length_frame spelled named channelId ts sender
  rw [sorted, stringify_obj] at long
  change (Json.quote text).length ≤ _ at inner
  change 65536 < _
  omega

theorem ok_of_isOk {value : Except String Bytes} (made : value.isOk = true) : ∃ bytes, value = .ok bytes := by
  cases value with
  | ok bytes => exact ⟨bytes, rfl⟩
  | error e => cases made

/-- The answer of the sample wallet is reported as sent. -/
theorem connectedWallet_loses {text : String} (size : 49152 ≤ (utf8ToBytes text).length) :
    connectedWallet.loses .printing (.approve "x" (some (.str text))) = true := by
  obtain ⟨-, keyed, zero, now, hears, bound⟩ := connectedWallet_ready
  generalize connectedWallet = s at *
  obtain ⟨sendKey, known⟩ := Option.isSome_iff_exists.mp keyed
  obtain ⟨aad, made⟩ := ok_of_isOk bound
  obtain ⟨envelope, plaintext, sealed, long⟩ := sealPayload_printing made sendKey (Nat.zero_le maxSeq)
    (Wallet.responsePayload true (some (.str text)))
  have sorted : Json.sortKeys (Wallet.responsePayload true (some (.str text))) =
      .obj [("_ok", .bool true), ("_result", .str text)] := by
    have order : ¬ "_result" < "_ok" := by decide
    simp [Wallet.responsePayload, Json.sortKeys, Json.sortFields, Json.insertMember, order]
  have member : ("_result", Json.str text) ∈ [("_ok", Json.bool true), ("_result", .str text)] := by simp
  have large : maxMessageBytes < frameBytes s.channelId s.inputs.now s.pubKeyB64 (.res (some "x") (some envelope)) :=
    large_frame size sorted member long rfl (by simp [optField]) _ _ _
  simp only [Wallet.Session.loses, Wallet.Session.losesAnswer, Wallet.Session.drops]
  rw [known, zero, now]
  dsimp only
  rw [sealed]
  simp [large, hears]

/-- The entry of the sample dApp's request waits for no frame. -/
theorem connectedDApp_strands {text : String} (size : 49152 ≤ (utf8ToBytes text).length) :
    connectedDApp.StrandsRequest .printing "m" (some (.str text)) := by
  obtain ⟨connected, keyed, zero, now, first, empty, bound⟩ := connectedDApp_ready
  generalize connectedDApp = s at *
  obtain ⟨sendKey, known⟩ := Option.isSome_iff_exists.mp keyed
  obtain ⟨aad, made⟩ := ok_of_isOk bound
  obtain ⟨envelope, plaintext, sealed, long⟩ := sealPayload_printing made sendKey (Nat.zero_le maxSeq)
    (DApp.buildSealedParams "m" (some (.str text)))
  have sorted : Json.sortKeys (DApp.buildSealedParams "m" (some (.str text))) =
      .obj [("_method", .str "m"), ("_params", .str text)] := by
    have order : ¬ "_params" < "_method" := by decide
    simp [DApp.buildSealedParams, Json.sortKeys, Json.sortFields, Json.insertMember, order]
  have member : ("_params", Json.str text) ∈ [("_method", Json.str "m"), ("_params", .str text)] := by simp
  have large : maxMessageBytes < frameBytes s.channelId s.inputs.now s.pubKeyB64 (.req (some "req-1") (some envelope)) :=
    large_frame size sorted member long rfl (by simp [optField]) _ _ _
  have named : "req-" ++ toString (s.reqCounter + 1) = "req-1" := by
    rw [first]
    rfl
  have unknown : s.pendingRequests.get "req-1" = none := by
    rw [OrderedMap.get_eq_none, empty]
    exact List.not_mem_nil
  have free : s.pendingRequests.size < maxPendingRequests := by
    rw [OrderedMap.size_eq_keys, empty]
    decide
  refine ⟨connected, free, now, sendKey, envelope, plaintext, known, ?_, ?_, ?_⟩
  · rw [named, zero]
    exact sealed
  · rw [named]
    exact large
  · rw [named, unknown]
    exact (Option.some_ne_none _).symm

end Sample

/-- An answer of forty-eight kilobytes is reported as sent though no frame left the wallet, and
a request with such parameters waits for an answer to a frame that never left the dApp. -/
theorem large_frames_reported_sent :
    (Sample.connectedWallet.phase = .connected ∧ ¬ Wallet.Truthful .res "x"
      (Wallet.Submission.perform .printing (.approve "x" (some (.str Sample.largeText)))) Sample.connectedWallet) ∧
    (Sample.connectedDApp.phase = .connected ∧ ¬ DApp.Answerable Sample.connectedDApp
      (after (DApp.request .printing "m" (some (.str Sample.largeText))) Sample.connectedDApp)) := by
  refine ⟨⟨Sample.connectedWallet_ready.1, fun truthful => ?_⟩, Sample.connectedDApp_ready.1, fun answerable => ?_⟩
  · have kept := (Wallet.perform_truthful_iff .printing Sample.connectedWallet (.approve "x" (some (.str Sample.largeText)))).mp
      truthful
    rw [Sample.connectedWallet_loses Sample.largeText_length] at kept
    cases kept
  · exact (DApp.request_answerable_iff .printing Sample.connectedDApp "m" (some (.str Sample.largeText))).mp answerable
      (Sample.connectedDApp_strands Sample.largeText_length)

end WalletPair.Sdk
