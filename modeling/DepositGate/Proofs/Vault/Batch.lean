import DepositGate.Proofs.Vault.Custody
import Mathlib.Algebra.Order.BigOperators.Group.List
import Mathlib.Algebra.Order.Group.Nat

/-!
# Batches on two vaults and two batches on one

What a vault answers to a batch depends on what it holds, on how many legs it has taken, and on the
failures put on it, and never on what it has released. Two vaults that agree on the former take or
refuse the same batches, and go on agreeing.

Without a limit on the number of legs, and as long as all that is held fits its bounds, the only
question left is whether a leg is refused. Batches then do not get in each other's way: two of them
are answered alike in either order and leave the same vault.
-/

namespace DepositGate

namespace Vault

variable {vault first second next other : Vault} {asset : Asset} {amount : Amount}
  {sender another : Address} {index : Nat} {legs rest : List (Asset × Amount)}
  {staged total : SortedMap Asset Amount} {why : Refusal}

/-! ### What a batch changes -/

/-- A batch changes what is held and how many legs were taken, and nothing else. -/
theorem of_depositBatch (h : vault.depositBatch legs sender = .ok next) :
    next = { vault with
      custody := next.custody
      deposits := vault.deposits + UInt64.ofNat legs.length } := by
  obtain ⟨total, -, hnext⟩ := bind_eq_ok_iff.1 h
  cases hnext
  rfl

theorem contains_of_stageLegs (h : vault.stageLegs sender index staged legs = .ok total)
    (asset : Asset) :
    total.contains asset = (staged.contains asset || legs.any fun leg => leg.1 = asset) := by
  induction legs generalizing index staged with
  | nil =>
    cases h
    simp
  | cons leg rest ih =>
    obtain ⟨-, sum, -, hrest⟩ := stageLegs_cons_eq_ok_iff.1 h
    rw [ih hrest, SortedMap.contains, SortedMap.find?_insert, List.any_cons, ← Bool.or_assoc]
    by_cases hasset : leg.1 = asset
    · simp [hasset]
    · rw [if_neg fun hrank => hasset (rank_injective hrank), SortedMap.contains]
      simp [hasset]

/-- The assets with an entry in custody after a batch. -/
theorem contains_custody_of_depositBatch (h : vault.depositBatch legs sender = .ok next)
    (asset : Asset) : next.custody.contains asset
      = (vault.custody.contains asset || legs.any fun leg => leg.1 = asset) := by
  obtain ⟨total, hstage, hnext⟩ := bind_eq_ok_iff.1 h
  have hentries := contains_of_stageLegs hstage asset
  cases hnext
  rw [SortedMap.contains, SortedMap.find?_override, SortedMap.contains]
  rw [SortedMap.contains, SortedMap.contains] at hentries
  simp only [Option.isSome_or, hentries, SortedMap.find?_empty, Option.isSome_none, Bool.false_or]
  exact Bool.or_comm _ _

theorem find?_custody (vault : Vault) (asset : Asset) :
    vault.custody.find? asset
      = if vault.custody.contains asset then some (vault.custodyOf asset) else none := by
  rw [SortedMap.contains, custodyOf]
  cases vault.custody.find? asset <;> rfl

theorem custody_ext (hheld : ∀ asset, first.custodyOf asset = second.custodyOf asset)
    (hentry : ∀ asset, first.custody.contains asset = second.custody.contains asset) :
    first.custody = second.custody := by
  apply SortedMap.ext_find?
  intro asset
  rw [find?_custody, find?_custody, hheld, hentry]

/-! ### Vaults that agree -/

/-- The vaults hold the same, have taken equally many legs and fail alike. What they have released
may differ. -/
structure Alike (first second : Vault) : Prop where
  custody : ∀ asset, first.custodyOf asset = second.custodyOf asset
  deposits : first.deposits = second.deposits
  limit : first.limit = second.limit
  failing : first.failing = second.failing
  refused : ∀ asset, first.refused.contains asset = second.refused.contains asset

theorem Alike.refl (vault : Vault) : vault.Alike vault :=
  ⟨fun _ => rfl, rfl, rfl, rfl, fun _ => rfl⟩

theorem Alike.refusesLeg (h : first.Alike second) (asset : Asset) (index : Nat) :
    first.refusesLeg asset index = second.refusesLeg asset index := by
  rw [Vault.refusesLeg, Vault.refusesLeg, h.failing, h.limit, h.deposits, h.refused]

theorem Alike.stageLegs (h : first.Alike second) (sender : Address) (index : Nat)
    (staged : SortedMap Asset Amount) (legs : List (Asset × Amount)) :
    first.stageLegs sender index staged legs = second.stageLegs sender index staged legs := by
  induction legs generalizing index staged with
  | nil => rfl
  | cons leg rest ih =>
    obtain ⟨asset, amount⟩ := leg
    rw [Vault.stageLegs, Vault.stageLegs, h.refusesLeg, h.custody]
    simp only [ih]

theorem Alike.depositBatch_error (h : first.Alike second)
    (hfirst : first.depositBatch legs sender = .error why) :
    second.depositBatch legs sender = .error why := by
  rw [depositBatch, bind_eq_error_iff] at hfirst ⊢
  rcases hfirst with hstage | ⟨_, -, hrest⟩
  · exact .inl (h.stageLegs .. ▸ hstage)
  · cases hrest

theorem Alike.depositBatch_ok (h : first.Alike second)
    (hfirst : first.depositBatch legs sender = .ok next) :
    ∃ other, second.depositBatch legs sender = .ok other ∧ next.Alike other := by
  obtain ⟨total, hstage, hnext⟩ := bind_eq_ok_iff.1 hfirst
  rw [h.stageLegs] at hstage
  obtain ⟨other, hsecond⟩ : ∃ other, second.depositBatch legs sender = .ok other :=
    ⟨_, bind_eq_ok_iff.2 ⟨total, hstage, rfl⟩⟩
  refine ⟨other, hsecond, ?_⟩
  have hcustody : ∀ asset, next.custodyOf asset = other.custodyOf asset := by
    intro asset
    apply Amount.ext
    rw [custodyOf_depositBatch hfirst, h.custody, custodyOf_depositBatch hsecond]
  have hdeposits := congrArg (· + UInt64.ofNat legs.length) h.deposits
  rw [of_depositBatch hfirst, of_depositBatch hsecond]
  exact ⟨hcustody, hdeposits, h.limit, h.failing, h.refused⟩

/-! ### Batches that have room -/

/-- A batch can be added to what is held without passing the largest amount. -/
def HasRoom (vault : Vault) (legs : List (Asset × Amount)) : Prop :=
  ∀ asset, (vault.custodyOf asset).val + moved legs asset < 2 ^ 256

/-- What a batch is told of the first leg that the vault refuses, the limit on legs apart. -/
def refusal? (vault : Vault) (legs : List (Asset × Amount)) (sender : Address) : Option Refusal :=
  (legs.find? fun leg => vault.failing || vault.refused.contains leg.1).map fun leg =>
    .transferFailed (.depositRefused leg.2 leg.1 sender)

/-- The totals of a batch fit if the first leg can be added and those of the rest fit then. -/
theorem fits_cons_iff :
    (∀ other, (vault.heldWith staged other).val + moved ((asset, amount) :: legs) other < 2 ^ 256)
      ↔ ∃ sum, (vault.heldWith staged asset).add? amount = some sum
        ∧ ∀ other, (vault.heldWith (staged.insert asset sum) other).val + moved legs other
          < 2 ^ 256 := by
  constructor
  · intro hfits
    have hasset := hfits asset
    rw [moved_cons, if_pos rfl] at hasset
    obtain ⟨sum, hsum⟩ : ∃ sum, (vault.heldWith staged asset).add? amount = some sum :=
      ⟨⟨(vault.heldWith staged asset).val + amount.val, by omega⟩,
        Amount.ofNat?_eq_some_iff.2 rfl⟩
    refine ⟨sum, hsum, ?_⟩
    intro other
    rw [heldWith_insert_add_moved hsum]
    exact hfits other
  · intro ⟨sum, hsum, hfits⟩ other
    rw [← heldWith_insert_add_moved hsum]
    exact hfits other

theorem stageLegs_eq_error_iff (hlimit : vault.limit = none)
    (hroom : ∀ asset, (vault.heldWith staged asset).val + moved legs asset < 2 ^ 256) :
    vault.stageLegs sender index staged legs = .error why
      ↔ vault.refusal? legs sender = some why := by
  induction legs generalizing index staged with
  | nil => simp [stageLegs, refusal?]
  | cons leg rest ih =>
    obtain ⟨asset, amount⟩ := leg
    rw [stageLegs, refusal?, List.find?_cons, refusesLeg, hlimit, Bool.or_false]
    cases hrefused : vault.failing || vault.refused.contains asset with
    | true => simp
    | false =>
      obtain ⟨sum, hsum, hrest⟩ := fits_cons_iff.1 hroom
      rw [heldWith] at hsum
      simp only [Bool.false_eq_true, if_false, hsum]
      exact ih hrest

/-- With room and without a limit a batch fails exactly if a leg of it is refused. -/
theorem depositBatch_eq_error_iff (hlimit : vault.limit = none) (hroom : vault.HasRoom legs) :
    vault.depositBatch legs sender = .error why ↔ vault.refusal? legs sender = some why := by
  have hstage : vault.stageLegs sender 0 .empty legs = .error why
      ↔ vault.refusal? legs sender = some why := stageLegs_eq_error_iff hlimit hroom
  rw [depositBatch, bind_eq_error_iff, hstage]
  constructor
  · intro h
    rcases h with hrefusal | ⟨_, -, hrest⟩
    · exact hrefusal
    · cases hrest
  · exact .inl

theorem HasRoom.sublist (h : vault.HasRoom legs) (hsub : rest.Sublist legs) :
    vault.HasRoom rest := by
  intro asset
  have hmoved : moved rest asset ≤ moved legs asset :=
    (hsub.map _).sum_le_sum fun _ _ => Nat.zero_le _
  have hfits := h asset
  omega

theorem moved_perm (h : legs.Perm rest) (asset : Asset) : moved legs asset = moved rest asset :=
  (h.map _).sum_nat

theorem HasRoom.perm (h : vault.HasRoom legs) (hperm : legs.Perm rest) : vault.HasRoom rest := by
  intro asset
  rw [← moved_perm hperm]
  exact h asset

/-- What is left of some legs still has room once the first of them are taken. -/
theorem HasRoom.after (h : vault.HasRoom (legs ++ rest))
    (hnext : vault.depositBatch legs sender = .ok next) : next.HasRoom rest := by
  intro asset
  have hfits := h asset
  rw [moved_append] at hfits
  rw [custodyOf_depositBatch hnext]
  omega

/-! ### Two batches on one vault -/

theorem refusal?_of_depositBatch (h : vault.depositBatch rest another = .ok next) :
    next.refusal? legs sender = vault.refusal? legs sender := by
  rw [of_depositBatch h]
  rfl

/-- Two batches taken in either order leave the same vault. -/
theorem depositBatch_comm {legs' : List (Asset × Amount)} {sender' : Address}
    {first' second' : Vault}
    (hfirst : vault.depositBatch legs sender = .ok first)
    (hsecond : first.depositBatch legs' sender' = .ok second)
    (hfirst' : vault.depositBatch legs' sender' = .ok first')
    (hsecond' : first'.depositBatch legs sender = .ok second') : second = second' := by
  have hheld : ∀ asset, second.custodyOf asset = second'.custodyOf asset := by
    intro asset
    apply Amount.ext
    rw [custodyOf_depositBatch hsecond, custodyOf_depositBatch hfirst,
      custodyOf_depositBatch hsecond', custodyOf_depositBatch hfirst']
    omega
  have hentry : ∀ asset, second.custody.contains asset = second'.custody.contains asset := by
    intro asset
    rw [contains_custody_of_depositBatch hsecond, contains_custody_of_depositBatch hfirst,
      contains_custody_of_depositBatch hsecond', contains_custody_of_depositBatch hfirst']
    exact Bool.or_right_comm _ _ _
  have hdeposits : vault.deposits + UInt64.ofNat legs.length + UInt64.ofNat legs'.length
      = vault.deposits + UInt64.ofNat legs'.length + UInt64.ofNat legs.length := by
    rw [UInt64.add_assoc, UInt64.add_assoc, UInt64.add_comm (UInt64.ofNat legs.length)]
  rw [of_depositBatch hsecond, of_depositBatch hsecond', custody_ext hheld hentry,
    of_depositBatch hfirst, of_depositBatch hfirst']
  simp only [hdeposits]

end Vault

end DepositGate
