import DepositGate.Amount

/-!
# Lazily reset counters

Both budgets count consumption within a period: a block, or an epoch of fixed length. A counter is
stored with the key of the period of its last write and is worth nothing in any other period, be it
later or earlier, so that no work is due when a period ends.
-/

namespace DepositGate

/-- What a counter stored under one key is worth under another. -/
def countedAt {α : Type} (zero : α) (storedKey : UInt64) (stored : α) (key : UInt64) : α :=
  if storedKey = key then stored else zero

@[simp] theorem countedAt_self {α : Type} (zero stored : α) (key : UInt64) :
    countedAt zero key stored key = stored :=
  if_pos rfl

theorem countedAt_of_ne {α : Type} {storedKey key : UInt64} (zero stored : α)
    (h : storedKey ≠ key) : countedAt zero storedKey stored key = zero :=
  if_neg h

/-- The number of the epoch that a time lies in. -/
def epochOf (now duration : UInt64) : Except Fault UInt64 :=
  if duration = 0 then .error .zeroDivisor else .ok (now / duration)

/-- What is used once `amount` is added, if that stays within the threshold. -/
def fitting? (used amount threshold : Amount) : Option Amount :=
  (used.add? amount).filter (· ≤ threshold)

theorem fitting?_eq_some_iff {used amount threshold total : Amount} :
    fitting? used amount threshold = some total
      ↔ total.val = used.val + amount.val ∧ used.val + amount.val ≤ threshold.val := by
  simp only [fitting?, Amount.add?, Option.filter_eq_some_iff, Amount.ofNat?_eq_some_iff,
    decide_eq_true_eq, Amount.le_iff]
  constructor
  · rintro ⟨h, hle⟩; omega
  · rintro ⟨h, hle⟩; omega

end DepositGate
