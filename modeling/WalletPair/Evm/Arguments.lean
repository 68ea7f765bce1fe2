import WalletPair.Evm.ChainConsistency
import WalletPair.Sdk.Crypto

/-! What `dispatch` does to its caller's objects. New objects go behind the old ones, so
the caller's are untouched when the old heap is a prefix of the new one. Only a missing
`chainId` is written into the transaction that the caller passed. -/

namespace WalletPair.Evm
open WalletPair.Sdk

/-! ### New objects -/

mutual
theorem prefix_load (h : Heap) (value : Json) : h <+: (h.load value).2 := by
  cases value with
  | arr items =>
    rw [Heap.load]
    exact (prefix_loadItems h items).trans (List.prefix_append _ _)
  | obj fields =>
    rw [Heap.load]
    exact (prefix_loadFields h fields).trans (List.prefix_append _ _)
  | _ => exact List.prefix_rfl

theorem prefix_loadItems (h : Heap) (items : List Json) : h <+: (h.loadItems items).2 := by
  cases items with
  | nil => exact List.prefix_rfl
  | cons item rest =>
    rw [Heap.loadItems]
    exact (prefix_load h item).trans (prefix_loadItems _ rest)

theorem prefix_loadFields (h : Heap) (fields : List (String × Json)) : h <+: (h.loadFields fields).2 := by
  cases fields with
  | nil => exact List.prefix_rfl
  | cons field rest =>
    obtain ⟨key, item⟩ := field
    rw [Heap.loadFields]
    exact (prefix_load h item).trans (prefix_loadFields _ rest)
end

/-- A write to a newer object leaves the older ones alone. -/
theorem prefix_write {h k : Heap} {a : Nat} (older : h <+: k) (newer : h.length ≤ a) (key : String) (value : Value) :
    h <+: k.write a key value := by
  rw [List.prefix_iff_getElem?] at older ⊢
  intro i small
  rw [Heap.getElem?_write, if_neg (by omega)]
  exact older i small

theorem prefix_create (h : Heap) (fields : List (String × Value)) : h <+: (h.create fields).2 := List.prefix_append _ _

theorem prefix_typedDataOf (h : Heap) (value : Value) : h <+: (typedDataOf h value).2 := by
  unfold typedDataOf
  split
  · split
    · exact prefix_load h _
    · exact List.prefix_rfl
  · exact List.prefix_rfl

/-! ### Mapping -/

/-- Where the parameters that `injectChain` writes to come from: a new object, and one
that carries a transaction only for a transaction request. -/
structure Maps (h : Heap) (args : RequestArgs) (mapped : Mapped) (after : Heap) : Prop where
  older : h <+: after
  fresh : ∀ a, mapped.params = .ref a → chainRequiredMethods.contains mapped.method = true → h.length ≤ a
  transacts : mapped.method = "wallet_sendTransaction" ∨ mapped.method = "wallet_signTransaction" → args.transacts

theorem maps_created {h k : Heap} {args : RequestArgs} {method : String} (fields : List (String × Value))
    (older : h <+: k) (transacts : method = "wallet_sendTransaction" ∨ method = "wallet_signTransaction" → args.transacts) :
    Maps h args ⟨method, (k.create fields).1⟩ (k.create fields).2 where
  older := older.trans (prefix_create k fields)
  fresh := fun a same _ => by
    cases same
    exact older.length_le
  transacts := transacts

theorem mapTransaction_maps {h after : Heap} {args : RequestArgs} {mapped : Mapped} {method : String} {tx : Value}
    (transacts : args.transacts) (ran : mapTransaction h method tx = .ok (some mapped, after)) :
    Maps h args mapped after := by
  obtain ⟨-, -, made⟩ := ok_of_except_bind ran
  cases made
  exact maps_created _ List.prefix_rfl fun _ => transacts

theorem mapRequest_maps {h after : Heap} {args : RequestArgs} {mapped : Mapped}
    (ran : mapRequest h args.method args.params = .ok (some mapped, after)) : Maps h args mapped after := by
  obtain ⟨method, params⟩ := args
  unfold mapRequest at ran
  dsimp only at ran
  split at ran
  · cases ran
    exact ⟨List.prefix_rfl, nofun, fun kind => absurd kind (by simp)⟩
  · cases ran
    exact ⟨List.prefix_rfl, nofun, fun kind => absurd kind (by simp)⟩
  · obtain ⟨text, -, made⟩ := ok_of_except_bind ran
    cases made
    exact maps_created _ List.prefix_rfl fun kind => absurd kind (by simp)
  · cases ran
    exact maps_created _ (prefix_typedDataOf h _) fun kind => absurd kind (by simp)
  · cases ran
    exact maps_created _ (prefix_typedDataOf h _) fun kind => absurd kind (by simp)
  · exact mapTransaction_maps (Or.inl rfl) ran
  · exact mapTransaction_maps (Or.inr rfl) ran
  · cases ran
    exact maps_created _ List.prefix_rfl fun kind => absurd kind (by simp)
  · split at ran
    · cases ran
      exact maps_created _ List.prefix_rfl fun kind => absurd kind (by simp)
    · cases ran
      exact maps_created _ List.prefix_rfl fun kind => absurd kind (by simp)
    · cases ran
      exact ⟨List.prefix_rfl, fun _ _ required => absurd required (by simp [chainRequiredMethods]),
        fun kind => absurd kind (by simp)⟩
  · cases ran
    exact ⟨List.prefix_rfl, fun _ _ required => absurd required (by simp [chainRequiredMethods]),
      fun kind => absurd kind (by simp)⟩
  · cases ran

/-- Without a transaction only the new object is written to. -/
theorem prefix_injectChain {h after : Heap} {args : RequestArgs} {mapped : Mapped} (p : Provider)
    (maps : Maps h args mapped after) (other : ¬ args.transacts) : h <+: injectChain p mapped after := by
  unfold injectChain
  split
  · rename_i a params
    by_cases required : chainRequiredMethods.contains mapped.method = true
    · rw [if_pos required]
      dsimp only
      rw [if_neg fun kind => other (maps.transacts kind)]
      change h <+: if (Heap.field after mapped.params "chain").truthy = true then after else _
      split
      · exact maps.older
      · exact prefix_write maps.older (maps.fresh a params required) _ _
    · rw [if_neg required]
      exact maps.older
  · exact maps.older

theorem mapRequest_unsupported {h after : Heap} {method : String} {params : Option Nat}
    (ran : mapRequest h method params = .ok (none, after)) : after = h := by
  unfold mapRequest at ran
  split at ran
  · cases ran
  · cases ran
  · obtain ⟨text, -, made⟩ := ok_of_except_bind ran
    cases made
  · cases ran
  · cases ran
  · obtain ⟨-, -, made⟩ := ok_of_except_bind ran
    cases made
  · obtain ⟨-, -, made⟩ := ok_of_except_bind ran
    cases made
  · cases ran
  · split at ran <;> cases ran
  · cases ran
  · cases ran
    rfl

theorem prefix_relay {h : Heap} {args : RequestArgs} (p : Provider) (other : ¬ args.transacts) :
    h <+: (relay p h args).2 := by
  unfold relay
  split
  · exact List.prefix_rfl
  · rename_i after ran
    rw [mapRequest_unsupported ran]
  · rename_i mapped after ran
    exact prefix_injectChain p (mapRequest_maps ran) other

theorem prefix_ite {h : Heap} {c : Prop} [Decidable c] {x y : Outcome × Heap} (left : h <+: x.2) (right : h <+: y.2) :
    h <+: (if c then x else y).2 := by
  split
  · exact left
  · exact right

/-- Only a transaction request can touch the caller's objects. -/
theorem prefix_dispatch {h : Heap} {args : RequestArgs} (p : Provider) (other : ¬ args.transacts) :
    h <+: (dispatch p h args).2 := by
  unfold dispatch
  iterate 7 refine prefix_ite List.prefix_rfl ?_
  refine prefix_ite (prefix_ite List.prefix_rfl ?_) (prefix_relay p other)
  cases shape : args.params with
  | none => exact List.prefix_append _ _
  | some a => exact List.prefix_rfl

/-! ### Transactions -/

/-- The request is relayed with this provider's chain in both fields. -/
def RelayedFor (q : Provider) (h : Heap) (args : RequestArgs) : Prop :=
  ∃ method params after, dispatch q h args = (.relayed method params, after) ∧
    after.field params "chain" = .str ("eip155:" ++ q.chainId.text) ∧
    after.field (after.field params "tx") "chainId" = .str ("0x" ++ q.chainId.hexText)

/-- The caller's objects are as before, so a transaction without `chainId` that is
submitted again goes to the chain that is active then. -/
structure LeavesArguments (p : Provider) (h : Heap) (args : RequestArgs) : Prop where
  untouched : h <+: (dispatch p h args).2
  again : args.transacts → ∀ t, h.item args.params 0 = .ref t → missing (h.field (.ref t) "chainId") = true →
    ∀ q : Provider, q.disconnected = false → RelayedFor q (dispatch p h args).2 args

/-- A transaction without `chainId` reaches the mapper. -/
def Fills (p : Provider) (h : Heap) (args : RequestArgs) : Prop :=
  p.disconnected = false ∧ args.transacts ∧
    ∃ t, h.item args.params 0 = .ref t ∧ missing (h.field (.ref t) "chainId") = true

section Transaction
variable {p : Provider} {h : Heap} {args : RequestArgs} {t : Nat}

theorem relayed_for (transacts : args.transacts) (closed : h.Closed) (found : h.item args.params 0 = .ref t)
    (connected : p.disconnected = false) (none : missing (h.field (.ref t) "chainId") = true) : RelayedFor p h args := by
  have small := lt_of_found closed found
  obtain ⟨method, ran⟩ := relay_transaction (p := p) transacts closed found
  have run := dispatch_transaction transacts p h
  rw [connected, if_neg Bool.false_ne_true, ran, namedChain, if_pos none] at run
  have size : h.length < (filled (h ++ [transactionParams h (.ref t)]) p.chainId t).length := by
    unfold filled
    split <;> simp
  refine ⟨method, _, _, run, ?_, ?_⟩
  · rw [Heap.field_write_self size, if_pos rfl]
  · have tx := (field_filled (transactionParams h (.ref t)) p.chainId small "tx").1
    have chainId := (field_filled (transactionParams h (.ref t)) p.chainId small "tx").2
    rw [Heap.field_write_self size, if_neg (by decide), tx]
    change Heap.field _ (.ref t) "chainId" = _
    rw [Heap.field_write_other (Nat.ne_of_gt small), chainId, relayedChainId, if_pos none]

theorem untouched_present (transacts : args.transacts) (closed : h.Closed) (found : h.item args.params 0 = .ref t)
    (given : missing (h.field (.ref t) "chainId") = false) : h <+: (relay p h args).2 := by
  obtain ⟨method, ran⟩ := relay_transaction (p := p) transacts closed found
  have older : Heap.field (h ++ [transactionParams h (.ref t)]) (.ref t) "chainId" = h.field (.ref t) "chainId" :=
    Heap.field_append _ (lt_of_found closed found)
  have kept : filled (h ++ [transactionParams h (.ref t)]) p.chainId t = h ++ [transactionParams h (.ref t)] := by
    rw [filled, older, given, if_neg Bool.false_ne_true]
  rw [ran, kept]
  exact prefix_write (List.prefix_append _ _) le_rfl _ _

/-- Filling in the `chainId` changes the caller's transaction. -/
theorem touched_missing (transacts : args.transacts) (closed : h.Closed) (found : h.item args.params 0 = .ref t)
    (none : missing (h.field (.ref t) "chainId") = true) : ¬ h <+: (relay p h args).2 := by
  have small := lt_of_found closed found
  obtain ⟨method, ran⟩ := relay_transaction (p := p) transacts closed found
  intro older
  rw [ran] at older
  have same := List.prefix_iff_getElem?.mp older t small
  have chainId := (field_filled (transactionParams h (.ref t)) p.chainId small "tx").2
  rw [Heap.getElem?_write, if_neg (Nat.ne_of_gt small)] at same
  have read : Heap.field (filled (h ++ [transactionParams h (.ref t)]) p.chainId t) (.ref t) "chainId" =
      h.field (.ref t) "chainId" := by
    simp only [Heap.field, same, List.getElem?_eq_getElem small]
  rw [chainId, relayedChainId, if_pos none] at read
  rw [← read] at none
  exact absurd none (by simp [missing])

end Transaction

/-- `dispatch` leaves its caller's objects alone exactly when it fills in no `chainId`. -/
theorem arguments_untouched (p : Provider) (h : Heap) (args : RequestArgs) (closed : h.Closed) :
    LeavesArguments p h args ↔ ¬ Fills p h args := by
  constructor
  · rintro leaves ⟨connected, transacts, t, found, none⟩
    have run := dispatch_transaction transacts p h
    rw [connected, if_neg Bool.false_ne_true] at run
    exact touched_missing transacts closed found none (run ▸ leaves.untouched)
  · intro quiet
    by_cases transacts : args.transacts
    · have run := dispatch_transaction transacts p h
      cases connected : p.disconnected with
      | true =>
        rw [connected, if_pos rfl] at run
        constructor
        · rw [run]
        · intro _ t found none q active
          rw [run]
          exact relayed_for transacts closed found active none
      | false =>
        rw [connected, if_neg Bool.false_ne_true] at run
        have given (t : Nat) (found : h.item args.params 0 = .ref t) : missing (h.field (.ref t) "chainId") = false := by
          simpa using fun none => quiet ⟨connected, transacts, t, found, none⟩
        constructor
        · rw [run]
          by_cases object : ∃ t, h.item args.params 0 = .ref t
          · obtain ⟨t, found⟩ := object
            exact untouched_present transacts closed found (given t found)
          · rw [relay_refused transacts fun t found => object ⟨t, found⟩]
        · intro _ t found none
          exact absurd none (by simp [given t found])
    · exact ⟨prefix_dispatch p transacts, fun carries => absurd carries transacts⟩

namespace Sample

/-- The parameters of a transaction that leaves the chain to the wallet. -/
def chainless : Heap := [⟨some [.ref 1], []⟩, ⟨none, [("to", .str "0x123")]⟩]

/-- The provider after a switch to another chain. -/
def switched : Provider := { provider with chainId := .finite 56 }

end Sample

theorem arguments_untouched_sample : LeavesArguments Sample.provider (Sample.heap "0x89") Sample.args :=
  (arguments_untouched Sample.provider (Sample.heap "0x89") Sample.args (by decide)).mpr fun fills => by
    obtain ⟨-, -, t, found, none⟩ := fills
    cases found
    exact absurd none (by decide)

/-- After a chain change the same transaction still goes to the chain it was first sent to. -/
theorem resubmission_keeps_first_chain : ¬ LeavesArguments Sample.provider Sample.chainless Sample.args ∧
    ¬ RelayedFor Sample.switched (dispatch Sample.provider Sample.chainless Sample.args).2 Sample.args := by
  constructor
  · intro leaves
    have grown := List.prefix_iff_getElem?.mp leaves.untouched 1 (by decide)
    exact absurd grown (by decide +kernel)
  · rintro ⟨method, params, after, run, chain, -⟩
    have sent : (dispatch Sample.switched (dispatch Sample.provider Sample.chainless Sample.args).2 Sample.args).1 =
        .relayed "wallet_sendTransaction" (.ref 3) := rfl
    have named : (dispatch Sample.switched (dispatch Sample.provider Sample.chainless Sample.args).2
        Sample.args).2.field (.ref 3) "chain" = .str "eip155:1" := by decide +kernel
    rw [run] at sent named
    cases sent
    rw [named] at chain
    exact absurd chain (by decide +kernel)

end WalletPair.Evm
