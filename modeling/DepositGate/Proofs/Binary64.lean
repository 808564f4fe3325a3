import DepositGate.Proofs.Binary64.Rounding

/-!
# Counting in floating point

Every natural number below 2^53 is a binary floating-point number, so a sum with such a value is not
rounded. A count that is taken in floating point is therefore exact as long as it stays below 2^53:
from there on adding one may leave a number as it is.
-/

namespace DepositGate.Binary64

variable {x : Binary64} {n : Nat}

/-- The number is the natural number `n`. -/
def Equals (x : Binary64) (n : Nat) : Prop := x.numerator = n * x.denominator

instance (x : Binary64) (n : Nat) : Decidable (x.Equals n) :=
  inferInstanceAs (Decidable (_ = _))

theorem equals_iff : x.Equals n ↔ x.value = n := by
  have hden : (x.denominator : ℚ) ≠ 0 := Nat.cast_ne_zero.2 (Nat.ne_of_gt x.denominator_pos)
  rw [Equals, value, div_eq_iff hden]
  exact_mod_cast Iff.rfl

theorem equals_zero : zero.Equals 0 := by
  rw [Equals, Nat.zero_mul]
  exact Nat.zero_mul _

/-- The number `n` with its leading bit where that of a significand is. -/
def ofSmall (n : Nat) : Binary64 := ⟨n * 2 ^ (52 - n.log2), n.log2 - 52⟩

theorem log2_le_of_lt (hpos : 0 < n) (hlt : n < 2 ^ 53) : n.log2 ≤ 52 :=
  Nat.lt_succ_iff.1 ((Nat.log2_lt (Nat.ne_of_gt hpos)).2 hlt)

theorem value_ofSmall (hpos : 0 < n) (hlt : n < 2 ^ 53) : (ofSmall n).value = n := by
  have hlog := log2_le_of_lt hpos hlt
  have hexponent : ((n.log2 : Int) - 52).toNat = 0 := by omega
  have hplaces : (-((n.log2 : Int) - 52)).toNat = 52 - n.log2 := by omega
  rw [← equals_iff, Equals, numerator, denominator, ofSmall, hexponent, hplaces, Nat.pow_zero,
    Nat.mul_one]

theorem proper_ofSmall (hpos : 0 < n) (hlt : n < 2 ^ 53) : (ofSmall n).Proper := by
  have hlog := log2_le_of_lt hpos hlt
  have hexponent : (ofSmall n).exponent = n.log2 - 52 := rfl
  refine ⟨?_, .inl ?_, by omega, by omega⟩
  · calc n * 2 ^ (52 - n.log2)
        < 2 ^ (n.log2 + 1) * 2 ^ (52 - n.log2) :=
          Nat.mul_lt_mul_of_pos_right Nat.lt_log2_self (Nat.two_pow_pos _)
      _ = 2 ^ 53 := by
          rw [← Nat.pow_add]
          congr 1
          omega
  · calc 2 ^ 52
        = 2 ^ n.log2 * 2 ^ (52 - n.log2) := by rw [← Nat.pow_add, Nat.add_sub_cancel' hlog]
      _ ≤ n * 2 ^ (52 - n.log2) :=
          Nat.mul_le_mul_right _ (Nat.log2_self_le (Nat.ne_of_gt hpos))

/-- Counting one up is exact below 2^53. -/
theorem Equals.succ (h : x.Equals n) (hlt : n + 1 < 2 ^ 53) : x.succ.Equals (n + 1) := by
  have hone : one.value = 1 := by exact_mod_cast equals_iff.1 (show one.Equals 1 by decide)
  have hsum : x.value + one.value = (n + 1 : Nat) := by
    rw [equals_iff.1 h, hone]
    push_cast
    rfl
  have hexact := value_ofSmall (Nat.succ_pos n) hlt
  have hproper := proper_ofSmall (Nat.succ_pos n) hlt
  obtain ⟨next, hnext, hnearest⟩ := add?_nearest x one (hsum ▸ natCast_lt hlt (by decide))
  rw [equals_iff, Binary64.succ, hnext, Option.getD_some, ← hsum]
  exact hnearest.value_eq_of_proper hproper (hexact.trans hsum.symm)

end DepositGate.Binary64
