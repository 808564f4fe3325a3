import DepositGate.Power

/-!
# Amounts

Every quantity of an asset, and every US dollar value on its fixed scale, is a natural number below
2^256. Sums and products that could leave this range are taken in the natural numbers and brought
back by one of three rules, named at each place of use: the result is missing when it does not fit,
it is cut at the largest amount, or the computation stops with a `Fault`.
-/

namespace DepositGate

/-- Why a computation on bounded numbers stops without a result. -/
inductive Fault where
  /-- Ten to this power does not fit the width it is computed in. -/
  | powerTooLarge (exponent : Nat)
  /-- A number does not fit the width it is computed in. -/
  | tooLarge
  /-- A difference would be negative. -/
  | belowZero
  | zeroDivisor
deriving DecidableEq, Repr

structure Amount where
  val : Nat
  val_lt : val < 2 ^ 256
deriving DecidableEq

namespace Amount

@[ext] theorem ext {a b : Amount} (h : a.val = b.val) : a = b := by
  cases a; cases b; cases h; rfl

instance : Repr Amount := ⟨fun a _ => repr a.val⟩

instance : LE Amount := ⟨fun a b => a.val ≤ b.val⟩

instance : LT Amount := ⟨fun a b => a.val < b.val⟩

instance (a b : Amount) : Decidable (a ≤ b) := inferInstanceAs (Decidable (a.val ≤ b.val))

instance (a b : Amount) : Decidable (a < b) := inferInstanceAs (Decidable (a.val < b.val))

theorem le_iff {a b : Amount} : a ≤ b ↔ a.val ≤ b.val := Iff.rfl

theorem lt_iff {a b : Amount} : a < b ↔ a.val < b.val := Iff.rfl

def zero : Amount := ⟨0, by decide⟩

instance : Inhabited Amount := ⟨zero⟩

@[simp] theorem val_zero : zero.val = 0 := rfl

/-- The largest amount. -/
def top : Amount := ⟨2 ^ 256 - 1, by decide⟩

@[simp] theorem val_top : top.val = 2 ^ 256 - 1 := rfl

def isZero (a : Amount) : Bool := a.val == 0

@[simp] theorem isZero_iff {a : Amount} : a.isZero = true ↔ a.val = 0 := by
  simp [isZero]

theorem isZero_eq_false_iff {a : Amount} : a.isZero = false ↔ a.val ≠ 0 := by
  simp [isZero]

/-- The amount equal to `n`, if `n` is small enough. -/
def ofNat? (n : Nat) : Option Amount :=
  if h : n < 2 ^ 256 then some ⟨n, h⟩ else none

theorem ofNat?_eq_some_iff {n : Nat} {a : Amount} : ofNat? n = some a ↔ a.val = n := by
  unfold ofNat?
  split
  · rw [Option.some.injEq]
    constructor
    · rintro rfl; rfl
    · intro h; exact ext h.symm
  · have := a.val_lt
    constructor
    · intro h; cases h
    · intro h; omega

theorem ofNat?_eq_none_iff {n : Nat} : ofNat? n = none ↔ 2 ^ 256 ≤ n := by
  unfold ofNat?
  split
  · simp only [reduceCtorEq, false_iff]; omega
  · simp only [true_iff]; omega

@[simp] theorem ofNat?_val (a : Amount) : ofNat? a.val = some a :=
  ofNat?_eq_some_iff.2 rfl

/-- The amount nearest to `n`: `n` itself, or the largest amount. -/
def saturate (n : Nat) : Amount :=
  (ofNat? n).getD top

theorem val_saturate (n : Nat) : (saturate n).val = min n (2 ^ 256 - 1) := by
  unfold saturate ofNat?
  split
  · simp only [Option.getD_some]; omega
  · simp only [Option.getD_none, val_top]; omega

def ofUInt64 (n : UInt64) : Amount :=
  ⟨n.toNat, Nat.lt_trans n.toNat_lt (by decide)⟩

@[simp] theorem val_ofUInt64 (n : UInt64) : (ofUInt64 n).val = n.toNat := rfl

def add? (a b : Amount) : Option Amount :=
  ofNat? (a.val + b.val)

def saturatingAdd (a b : Amount) : Amount :=
  saturate (a.val + b.val)

/-- The difference, or zero where it would be negative. -/
def saturatingSub (a b : Amount) : Amount :=
  ⟨a.val - b.val, Nat.lt_of_le_of_lt (Nat.sub_le _ _) a.val_lt⟩

@[simp] theorem val_saturatingSub (a b : Amount) : (saturatingSub a b).val = a.val - b.val := rfl

/-- The difference of two amounts that the caller knows to be in order. -/
def sub (a b : Amount) : Except Fault Amount :=
  if b ≤ a then .ok (a.saturatingSub b) else .error .belowZero

theorem sub_eq_ok {a b : Amount} (h : b ≤ a) : a.sub b = .ok (a.saturatingSub b) :=
  if_pos h

def toText (a : Amount) : String :=
  toString a.val

end Amount

/-- Ten to a power, computed among the numbers below `2 ^ bits`. -/
def powerOfTen (bits exponent : Nat) : Except Fault Nat :=
  if 10 ^ exponent < 2 ^ bits then .ok (10 ^ exponent) else .error (.powerTooLarge exponent)

end DepositGate
