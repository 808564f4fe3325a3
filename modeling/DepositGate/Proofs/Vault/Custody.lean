import DepositGate.Proofs.Outcome
import DepositGate.Proofs.SortedMap
import DepositGate.Vault
import Mathlib.Algebra.GroupWithZero.Nat

/-!
# What the vault holds

A batch of legs raises the custody of each asset by the sum of its own legs, taken among the natural
numbers, and touches no other asset; two legs of one asset are both counted. A release lowers the
custody of one asset by exactly the amount released, which was there. Failures put on the vault from
outside move nothing. A batch that is not taken is refused as a failed transfer, and an empty batch
is always taken.
-/

namespace DepositGate

namespace Refusal

variable {why : Refusal}

theorem kind_eq_transferFailed_iff :
    why.kind = .transferFailed ↔ ∃ flaw, why = .transferFailed flaw := by
  cases why <;> simp [kind]

end Refusal

namespace Vault

variable {vault next : Vault} {asset : Asset} {amount : Amount} {sender destination : Address}
  {index : Nat} {legs : List (Asset × Amount)} {staged total : SortedMap Asset Amount}
  {why : Refusal}

/-- What a batch of legs moves of an asset. -/
def moved (legs : List (Asset × Amount)) (asset : Asset) : Nat :=
  (legs.map fun leg => if leg.1 = asset then leg.2.val else 0).sum

@[simp] theorem moved_nil (asset : Asset) : moved [] asset = 0 := rfl

@[simp] theorem moved_cons (deposited : Asset) (amount : Amount) (legs : List (Asset × Amount))
    (asset : Asset) : moved ((deposited, amount) :: legs) asset
      = (if deposited = asset then amount.val else 0) + moved legs asset :=
  List.sum_cons

@[simp] theorem moved_append (first rest : List (Asset × Amount)) (asset : Asset) :
    moved (first ++ rest) asset = moved first asset + moved rest asset := by
  rw [moved, List.map_append, List.sum_append]
  rfl

/-! ### Staging the legs of a batch -/

/-- The custody of an asset once what is staged for it is in force. -/
def heldWith (vault : Vault) (staged : SortedMap Asset Amount) (asset : Asset) : Amount :=
  (staged.find? asset).getD (vault.custodyOf asset)

theorem heldWith_insert (vault : Vault) (staged : SortedMap Asset Amount) (asset : Asset)
    (amount : Amount) (other : Asset) :
    vault.heldWith (staged.insert asset amount) other
      = if asset = other then amount else vault.heldWith staged other := by
  rw [heldWith, SortedMap.find?_insert]
  by_cases hasset : asset = other
  · rw [if_pos (congrArg rank hasset), if_pos hasset]
    rfl
  · rw [if_neg fun hrank => hasset (rank_injective hrank), if_neg hasset]
    rfl

theorem custodyOf_override (vault : Vault) (staged : SortedMap Asset Amount) (asset : Asset) :
    ((vault.custody.override staged).find? asset).getD .zero = vault.heldWith staged asset := by
  rw [SortedMap.find?_override, heldWith, custodyOf]
  cases staged.find? asset <;> rfl

/-- A leg moves the same whether it is staged already or still to come. -/
theorem heldWith_insert_add_moved {sum : Amount}
    (hsum : (vault.heldWith staged asset).add? amount = some sum) (other : Asset) :
    (vault.heldWith (staged.insert asset sum) other).val + moved legs other
      = (vault.heldWith staged other).val + moved ((asset, amount) :: legs) other := by
  rw [heldWith_insert, moved_cons]
  by_cases hother : asset = other
  · subst hother
    rw [if_pos rfl, if_pos rfl, Amount.ofNat?_eq_some_iff.1 hsum, Nat.add_assoc]
  · rw [if_neg hother, if_neg hother, Nat.zero_add]

theorem stageLegs_cons_eq_ok_iff :
    vault.stageLegs sender index staged ((asset, amount) :: legs) = .ok total
      ↔ vault.refusesLeg asset index = false
        ∧ ∃ sum, (vault.heldWith staged asset).add? amount = some sum
          ∧ vault.stageLegs sender (index + 1) (staged.insert asset sum) legs = .ok total := by
  rw [stageLegs, ← heldWith]
  dsimp only
  cases vault.refusesLeg asset index with
  | true => simp
  | false => cases (vault.heldWith staged asset).add? amount <;> simp

theorem heldWith_of_stageLegs (h : vault.stageLegs sender index staged legs = .ok total)
    (asset : Asset) :
    (vault.heldWith total asset).val = (vault.heldWith staged asset).val + moved legs asset := by
  induction legs generalizing index staged with
  | nil =>
    cases h
    rfl
  | cons leg rest ih =>
    obtain ⟨-, sum, hsum, hrest⟩ := stageLegs_cons_eq_ok_iff.1 h
    rw [ih hrest]
    exact heldWith_insert_add_moved hsum asset

theorem kind_of_stageLegs (h : vault.stageLegs sender index staged legs = .error why) :
    why.kind = .transferFailed := by
  induction legs generalizing index staged with
  | nil => cases h
  | cons leg rest ih =>
    obtain ⟨deposited, amount⟩ := leg
    rw [stageLegs] at h
    split at h
    · cases h
      rfl
    · dsimp only at h
      split at h
      · cases h
        rfl
      · exact ih h

/-! ### Batches -/

theorem custodyOf_depositBatch (h : vault.depositBatch legs sender = .ok next) (asset : Asset) :
    (next.custodyOf asset).val = (vault.custodyOf asset).val + moved legs asset := by
  obtain ⟨total, hstage, hnext⟩ := bind_eq_ok_iff.1 h
  cases hnext
  have hheld := heldWith_of_stageLegs hstage asset
  rw [← custodyOf_override] at hheld
  exact hheld

theorem kind_of_depositBatch (h : vault.depositBatch legs sender = .error why) :
    why.kind = .transferFailed := by
  rcases bind_eq_error_iff.1 h with hstage | ⟨total, -, hrest⟩
  · exact kind_of_stageLegs hstage
  · cases hrest

theorem depositBatch_nil (vault : Vault) (sender : Address) :
    ∃ next, vault.depositBatch [] sender = .ok next :=
  ⟨_, rfl⟩

/-! ### Releases and failures from outside -/

theorem custodyOf_release (h : vault.release asset amount destination = .ok next) (other : Asset) :
    (next.custodyOf other).val + (if asset = other then amount.val else 0)
      = (vault.custodyOf other).val := by
  rw [release] at h
  by_cases hfailing : vault.failing = true
  · rw [if_pos hfailing] at h
    cases h
  · rw [if_neg hfailing] at h
    by_cases hshort : vault.custodyOf asset < amount
    · simp only [if_pos hshort] at h
      cases h
    · simp only [if_neg hshort] at h
      have hcovered : amount ≤ vault.custodyOf asset := Nat.le_of_not_lt hshort
      rw [Amount.sub_eq_ok hcovered] at h
      cases h
      by_cases hasset : asset = other
      · subst hasset
        have hrest : (vault.custodyOf asset).val - amount.val + amount.val
            = (vault.custodyOf asset).val := Nat.sub_add_cancel hcovered
        simpa [custodyOf] using hrest
      · rw [if_neg hasset]
        simp [custodyOf, SortedMap.find?_insert_of_ne _ _ hasset]

/-- A release changes what is held and what was released, and nothing else. -/
theorem of_release (h : vault.release asset amount destination = .ok next) :
    next = { vault with custody := next.custody, released := next.released } := by
  rw [release] at h
  split at h
  · cases h
  · dsimp only at h
    split at h
    · cases h
    · obtain ⟨rest, -, hnext⟩ := bind_eq_ok_iff.1 h
      cases hnext
      rfl

/-- A release is carried out or refused: what is taken from custody is there. -/
theorem faultless_release (vault : Vault) (asset : Asset) (amount : Amount)
    (destination : Address) : Faultless (vault.release asset amount destination) := by
  rw [release]
  split
  · exact faultless_refused _
  · dsimp only
    split
    · exact faultless_refused _
    · rename_i hshort
      rw [Amount.sub_eq_ok (Nat.le_of_not_lt hshort)]
      exact faultless_ok _

@[simp] theorem custodyOf_change (vault : Vault) (change : VaultChange) (asset : Asset) :
    (vault.change change).custodyOf asset = vault.custodyOf asset := by
  cases change <;> rfl

end Vault

end DepositGate
