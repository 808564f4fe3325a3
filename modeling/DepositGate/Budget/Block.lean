import DepositGate.Budget.Counter
import DepositGate.Refusal

/-!
# The block budget

The gas legs admitted within one block share a budget in dollars. A cap of zero turns the budget
off: nothing is refused and nothing is recorded. Changing the cap leaves what was recorded.
-/

namespace DepositGate

structure BlockBudget where
  /-- The block of the last write. -/
  key : UInt64
  consumed : Usd
  cap : Usd
deriving DecidableEq, Repr

namespace BlockBudget

def fresh (cap : Usd) : BlockBudget := ⟨0, .zero, cap⟩

instance : Inhabited BlockBudget := ⟨fresh .zero⟩

/-- A cap that is on has not been exceeded. -/
def Within (budget : BlockBudget) : Prop :=
  budget.cap.isZero = true ∨ budget.consumed ≤ budget.cap

instance (budget : BlockBudget) : Decidable budget.Within := inferInstanceAs (Decidable (_ ∨ _))

/-- What has been consumed in a block, as far as the record tells. -/
def consumedAt (budget : BlockBudget) (key : UInt64) : Usd :=
  countedAt .zero budget.key budget.consumed key

/-- The record after `usd` is consumed in a block, if it fits; no record if the budget is off. -/
def plan (budget : BlockBudget) (usd : Usd) (key : UInt64) : Except Refusal (Option BlockBudget) :=
  if budget.cap.isZero then .ok none
  else
    let consumed := budget.consumedAt key
    match (consumed.add? usd).filter (· ≤ budget.cap) with
    | some total => .ok (some ⟨key, total, budget.cap⟩)
    | none => .error (.blockCapExceeded usd consumed budget.cap)

/-- Takes over a planned record. The cap stays the budget's own. -/
def apply (budget next : BlockBudget) : BlockBudget :=
  { budget with key := next.key, consumed := next.consumed }

def consume (budget : BlockBudget) (usd : Usd) (key : UInt64) : Except Refusal BlockBudget :=
  match budget.plan usd key with
  | .error why => .error why
  | .ok none => .ok budget
  | .ok (some next) => .ok (budget.apply next)

def setCap (budget : BlockBudget) (cap : Usd) : BlockBudget :=
  { budget with cap := cap }

end BlockBudget

end DepositGate
