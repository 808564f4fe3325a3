import DepositGate.Budget.Block
import DepositGate.Proofs.Budget.Charge

/-!
# What the block budget allows

A budget that is off plans nothing and refuses nothing. One that is on plans the record with the sum
of what counts in the block and what is asked for, exactly if that sum stays within the cap; the sum
is taken among the natural numbers, so a sum too large for an amount is one that exceeds the cap.
-/

namespace DepositGate

theorem apply_countedAt {α β : Type} (f : α → β) (zero stored : α) (storedKey key : UInt64) :
    f (countedAt zero storedKey stored key) = countedAt (f zero) storedKey (f stored) key :=
  apply_ite f _ _ _

theorem Usd.add?_eq_some_iff {a b sum : Usd} :
    a.add? b = some sum ↔ sum.raw.val = a.raw.val + b.raw.val := by
  rw [Usd.add?, Option.map_eq_some_iff]
  constructor
  · intro ⟨raw, hraw, hsum⟩
    subst hsum
    exact Amount.ofNat?_eq_some_iff.1 hraw
  · intro hsum
    exact ⟨sum.raw, Amount.ofNat?_eq_some_iff.2 hsum, rfl⟩

namespace BlockBudget

variable {budget next : BlockBudget} {usd : Usd} {key : UInt64} {why : Refusal}

theorem consumedAt_val (budget : BlockBudget) (key : UInt64) :
    (budget.consumedAt key).raw.val = countedAt 0 budget.key budget.consumed.raw.val key :=
  apply_countedAt (fun usd : Usd => usd.raw.val) .zero budget.consumed budget.key key

/-- The budget is off, or what counts in the block and the value asked for stay within the cap. -/
def HasRoom (budget : BlockBudget) (usd : Usd) (key : UInt64) : Prop :=
  budget.cap.isZero = true ∨ (budget.consumedAt key).raw.val + usd.raw.val ≤ budget.cap.raw.val

theorem total_eq_some_iff {total : Usd} :
    ((budget.consumedAt key).add? usd).filter (· ≤ budget.cap) = some total
      ↔ total.raw.val = (budget.consumedAt key).raw.val + usd.raw.val
        ∧ (budget.consumedAt key).raw.val + usd.raw.val ≤ budget.cap.raw.val := by
  rw [Option.filter_eq_some_iff, Usd.add?_eq_some_iff, decide_eq_true_eq, Usd.le_iff]
  constructor
  · intro ⟨hsum, hle⟩
    exact ⟨hsum, hsum ▸ hle⟩
  · intro ⟨hsum, hle⟩
    exact ⟨hsum, hsum ▸ hle⟩

theorem total_eq_none_iff :
    ((budget.consumedAt key).add? usd).filter (· ≤ budget.cap) = none
      ↔ budget.cap.raw.val < (budget.consumedAt key).raw.val + usd.raw.val := by
  constructor
  · intro hnone
    by_contra hle
    have hcap := budget.cap.raw.val_lt
    have hsome := total_eq_some_iff.2
      (show (⟨⟨_, by omega⟩⟩ : Usd).raw.val = (budget.consumedAt key).raw.val + usd.raw.val ∧ _
        from ⟨rfl, Nat.le_of_not_lt hle⟩)
    rw [hnone] at hsome
    exact absurd hsome (by simp)
  · intro hlt
    by_contra hsome
    obtain ⟨total, htotal⟩ := Option.ne_none_iff_exists'.1 hsome
    have := (total_eq_some_iff.1 htotal).2
    omega

theorem plan_of_on (hon : budget.cap.isZero = false) : budget.plan usd key
    = match ((budget.consumedAt key).add? usd).filter (· ≤ budget.cap) with
      | some total => .ok (some ⟨key, total, budget.cap⟩)
      | none => .error (.blockCapExceeded usd (budget.consumedAt key) budget.cap) := by
  rw [plan, hon]
  rfl

theorem plan_of_off (hoff : budget.cap.isZero = true) : budget.plan usd key = .ok none :=
  if_pos hoff

theorem plan_eq_none_iff : budget.plan usd key = .ok none ↔ budget.cap.isZero = true := by
  cases hcap : budget.cap.isZero with
  | true => rw [plan_of_off hcap]; simp
  | false =>
    rw [plan_of_on hcap]
    cases ((budget.consumedAt key).add? usd).filter (· ≤ budget.cap) <;> simp

theorem plan_eq_some_iff : budget.plan usd key = .ok (some next)
    ↔ budget.cap.isZero = false ∧ next.key = key ∧ next.cap = budget.cap
      ∧ next.consumed.raw.val = (budget.consumedAt key).raw.val + usd.raw.val
      ∧ (budget.consumedAt key).raw.val + usd.raw.val ≤ budget.cap.raw.val := by
  cases hcap : budget.cap.isZero with
  | true => rw [plan_of_off hcap]; simp
  | false =>
    rw [plan_of_on hcap]
    cases hsum : ((budget.consumedAt key).add? usd).filter (· ≤ budget.cap) with
    | none =>
      have hlt := total_eq_none_iff.1 hsum
      simp only [reduceCtorEq, false_iff]
      intro ⟨_, _, _, _, hle⟩
      omega
    | some total =>
      obtain ⟨htotal, hle⟩ := total_eq_some_iff.1 hsum
      simp only [Except.ok.injEq, Option.some.injEq]
      constructor
      · intro hnext
        subst hnext
        exact ⟨trivial, rfl, rfl, htotal, hle⟩
      · intro ⟨_, hkey, hnextCap, hconsumed, _⟩
        have hsame : total = next.consumed := Usd.ext (htotal.trans hconsumed.symm)
        rw [← hkey, ← hnextCap, hsame]

theorem plan_eq_error_iff : budget.plan usd key = .error why
    ↔ ¬budget.HasRoom usd key
      ∧ why = .blockCapExceeded usd (budget.consumedAt key) budget.cap := by
  rw [HasRoom]
  cases hcap : budget.cap.isZero with
  | true => rw [plan_of_off hcap]; simp
  | false =>
    rw [plan_of_on hcap]
    cases hsum : ((budget.consumedAt key).add? usd).filter (· ≤ budget.cap) with
    | none =>
      have hlt := total_eq_none_iff.1 hsum
      simp only [Bool.false_eq_true, false_or, Nat.not_le, hlt, true_and, Except.error.injEq]
      exact eq_comm
    | some total =>
      have hle := (total_eq_some_iff.1 hsum).2
      simp [hle]

/-- Consuming is refused exactly if there is no room. -/
theorem consume_eq_error_iff : budget.consume usd key = .error why
    ↔ ¬budget.HasRoom usd key
      ∧ why = .blockCapExceeded usd (budget.consumedAt key) budget.cap := by
  rw [← plan_eq_error_iff, consume]
  rcases budget.plan usd key with _ | _ | _ <;> simp

/-- The record after a value is consumed: the old one if the budget is off, and else the current
block with the value added to what was consumed there. -/
theorem of_consume_eq_ok (h : budget.consume usd key = .ok next) :
    (budget.cap.isZero = true ∧ next = budget)
      ∨ (budget.cap.isZero = false ∧ next.key = key ∧ next.cap = budget.cap
        ∧ next.consumed.raw.val = (budget.consumedAt key).raw.val + usd.raw.val
        ∧ (budget.consumedAt key).raw.val + usd.raw.val ≤ budget.cap.raw.val) := by
  rw [consume] at h
  rcases hplan : budget.plan usd key with _ | _ | planned
  · rw [hplan] at h
    cases h
  · rw [hplan] at h
    cases h
    exact .inl ⟨plan_eq_none_iff.1 hplan, rfl⟩
  · rw [hplan] at h
    cases h
    obtain ⟨hon, hkey, -, hconsumed, hle⟩ := plan_eq_some_iff.1 hplan
    exact .inr ⟨hon, hkey, rfl, hconsumed, hle⟩

end BlockBudget

end DepositGate
