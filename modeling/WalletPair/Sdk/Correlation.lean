import WalletPair.Sdk.Delivery
import WalletPair.Sdk.DApp.Outcomes
import WalletPair.Sdk.Wallet.Approvals

/-! Requests and responses of one pairing over the adversarial relay. A promise of the dApp
resolves only with what the wallet's application approved for that very call, crashes, resends
and answers out of the caches included. -/

namespace WalletPair.Sdk
open WalletPair.Lib

/-- The application was shown this text under the id, and then approved it with this result. -/
def Wallet.Session.Approves (s : Wallet.Session) (id : String) (plaintext : Bytes) (result : Option Json) : Prop :=
  ∃ before after, s.trace = before ++ .approving id result :: after ∧ .prompting id plaintext ∈ before

/-- What the dApp reads out of the canonical text of this result. -/
def CarriedAs (C : Crypto) (result value : Option Json) : Prop :=
  ∃ text back, canonicalJson C (some (Wallet.responsePayload true result)) = .ok text ∧
    Json.parse (textDecode (utf8ToBytes text)) = some back ∧ value = back.field "_result"

/-- Each id of the dApp belongs to one call, each value that settles a call answers its id,
and each answer rests on an approval. -/
structure Peers.Correlated (C : Crypto) (p : Peers) : Prop extends Peers.Linked p where
  distinct : p.dapp.Distinct C
  settles : p.dapp.Settles p.dapp.AskedFor
  vouches : p.wallet.Vouches C

/-- The wallet's application answers only what it was asked. -/
def Peers.AnswersAsked (p : Peers) : Peers.Label → Prop
  | .dapp _ => True
  | .wallet l => Wallet.OnlyAsked p.wallet l

/-- The steps of both sides inside one pairing, with an ideal AEAD, where the wallet's
application answers only what it was asked. -/
def Peers.AdmitsAnswers (C : Crypto) (p : Peers) (l : Peers.Label) : Prop := p.Admits C l ∧ p.AnswersAsked l

instance (p : Peers) : (l : Peers.Label) → Decidable (p.AnswersAsked l)
  | .dapp _ => instDecidableTrue
  | .wallet l => inferInstanceAs (Decidable (Wallet.OnlyAsked p.wallet l))

instance (C : Crypto) (p : Peers) (l : Peers.Label) : Decidable (p.AdmitsAnswers C l) := instDecidableAnd

namespace Peers
variable {C : Crypto} {p : Peers}

theorem Correlated.next (h : Correlated C p) {l : Label} (admitted : p.AdmitsAnswers C l) : Correlated C (p.step C l) := by
  obtain ⟨⟨authentic, regular⟩, asked⟩ := admitted
  have linked := h.toLinked.next authentic regular
  cases l with
  | dapp l =>
    exact { linked with
      distinct := DApp.step_distinct regular.1 h.dappNumbered h.distinct
      settles := DApp.step_settles C regular.1 regular.2 h.distinct h.settles
      vouches := h.vouches }
  | wallet l =>
    exact { linked with
      distinct := h.distinct
      settles := h.settles
      vouches := Wallet.step_vouches C regular.1 asked h.vouches }

/-- Frames of one id are of one call and carry one text. -/
theorem Correlated.same_request (h : Correlated C p) {frame other : Sealed} (mem : frame ∈ p.dapp.sealedFrames)
    (here : other ∈ p.dapp.sealedFrames) (same : other.header.id = frame.header.id) :
    other.call = frame.call ∧ other.plaintext = frame.plaintext := by
  have claims : DApp.claimOf other = DApp.claimOf frame :=
    h.distinct.unique _ _ (Or.inl ⟨other, here, rfl⟩) (Or.inl ⟨frame, mem, rfl⟩) same
  exact ⟨congrArg DApp.Claim.call claims, Except.ok.inj (congrArg DApp.Claim.text claims)⟩

/-- The wallet's application is shown what the dApp sealed under the id. -/
theorem Correlated.shown (h : Correlated C p) {frame : Sealed} (mem : frame ∈ p.dapp.sealedFrames) {plaintext : Bytes}
    (prompted : .prompting frame.header.id plaintext ∈ p.wallet.trace) : plaintext = frame.plaintext := by
  obtain ⟨d, delivered, named, text⟩ := h.vouches.prompted _ _ prompted
  obtain ⟨other, here, rfl⟩ := h.walletOrdered.knows.delivered d delivered
  exact text.symm.trans (h.same_request mem here named).2

/-- An answer that reads as a yes was sealed as one. -/
theorem yes_of_read (canonical : C.Canonical) {s : Wallet.Session} {id : String} {ok : Bool} {data : Option Json}
    {text : String} {back : Json} (vouched : s.Vouched id ok data)
    (printed : canonicalJson C (some (Wallet.responsePayload ok data)) = .ok text)
    (read : Json.parse (textDecode (utf8ToBytes text)) = some back) (yes : back.field "_ok" = some (.bool true)) :
    ok = true ∧ .approving id data ∈ s.trace := by
  cases ok with
  | true => exact ⟨rfl, vouched⟩
  | false =>
    obtain ⟨code, message, rfl⟩ := vouched
    obtain ⟨fields, parsed, flags⟩ := canonical.object _ _ (orThrow_ok printed)
    rw [read, Option.some.injEq] at parsed
    subst parsed
    have allowed : (Json.obj fields).flag "_ok" = some true := by rw [Json.flag, yes]
    have denied : (Wallet.responsePayload false (some (Wallet.errorData code message))).flag "_ok" = some false := by
      simp [Wallet.responsePayload, Wallet.errorData, Json.spread, Json.define, Json.ownFields, Json.flag, Json.field]
    have same := (flags "_ok").symm.trans allowed
    exact absurd (denied.symm.trans same) (by decide)

/-- The response that resolved a promise answers the promise's own call. -/
theorem Correlated.resolved (h : Correlated C p) (canonical : C.Canonical) {promise : Nat} {value : Option Json}
    (settled : .settled promise (.resolved value) ∈ p.dapp.trace) :
    ∃ frame ∈ p.dapp.sealedFrames, frame.call = some promise ∧ ∃ result,
      .approving frame.header.id result ∈ p.wallet.trace ∧ CarriedAs C result value := by
  obtain ⟨d, delivered, data, answers, yes, rfl⟩ := h.settles.outcomes promise value settled
  obtain ⟨frame, mem, call, named⟩ := answers.asked
  obtain ⟨answer, here, rfl⟩ := h.dappOrdered.knows.delivered d delivered
  obtain ⟨ok, result, text, printed, shown, vouched⟩ := h.vouches.sealed answer here answers.type
  have read : Json.parse (textDecode (utf8ToBytes text)) = some data := shown ▸ answers.read
  obtain ⟨rfl, approved⟩ := yes_of_read canonical vouched printed read yes
  exact ⟨frame, mem, call, result, by rw [named]; exact approved, text, data, printed, read, rfl⟩

/-- What was approved had been shown, as the dApp sealed it. -/
theorem Correlated.approved (h : Correlated C p) {frame : Sealed} (mem : frame ∈ p.dapp.sealedFrames) {result : Option Json}
    (approving : .approving frame.header.id result ∈ p.wallet.trace) :
    p.wallet.Approves frame.header.id frame.plaintext result := by
  obtain ⟨before, after, split⟩ := List.append_of_mem approving
  have first : before ++ [.approving frame.header.id result] <+: p.wallet.trace := ⟨after, by simp [split]⟩
  obtain ⟨plaintext, prompted⟩ := h.vouches.ordered before _ _ first
  have same := h.shown mem (split ▸ List.mem_append_left _ prompted)
  exact ⟨before, after, split, same ▸ prompted⟩

end Peers

namespace Sample

end Sample

end WalletPair.Sdk
