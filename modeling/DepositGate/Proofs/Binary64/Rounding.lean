import DepositGate.Binary64
import Mathlib.Algebra.Order.Field.Power
import Mathlib.Algebra.Order.Field.Rat
import Mathlib.Tactic.FieldSimp
import Mathlib.Tactic.Linarith
import Mathlib.Tactic.Positivity
import Mathlib.Tactic.Ring

/-!
# Rounding in floating point

A quotient is rounded to the number of the format that is nearest to it, and of two equally near
ones to that with an even significand. There is only one such number for each quotient, so this says
which number is computed. Unless the quotient is too small for a full significand, rounding changes
it by no more than one part in 2^53.
-/

namespace DepositGate.Binary64

variable {x y : Binary64} {q : ℚ} {num den : Nat} {e : Int}

/-! ### Values -/

theorem denominator_pos (x : Binary64) : 0 < x.denominator := Nat.pow_pos (by decide)

/-- The number that is meant. -/
def value (x : Binary64) : ℚ := x.numerator / x.denominator

theorem two_zpow_pos (e : Int) : (0 : ℚ) < 2 ^ e := zpow_pos two_pos e

theorem two_zpow_eq (e : Int) : (2 : ℚ) ^ e = 2 ^ e.toNat / 2 ^ (-e).toNat := by
  have hsplit : (e.toNat : Int) - (-e).toNat = e := by omega
  rw [← zpow_natCast, ← zpow_natCast, ← zpow_sub₀ two_ne_zero, hsplit]

/-- Natural numbers of less than 1024 bits are in the range of the format. -/
theorem natCast_lt {n bits : Nat} (h : n < 2 ^ bits) (hbits : bits ≤ 1023) :
    (n : ℚ) < 2 ^ (1023 : Int) := by
  calc (n : ℚ)
      < (2 ^ bits : Nat) := Nat.cast_lt.2 h
    _ = 2 ^ (bits : Int) := by
        push_cast
        exact (zpow_natCast _ _).symm
    _ ≤ 2 ^ (1023 : Int) := zpow_le_zpow_right₀ one_le_two (Int.ofNat_le.2 hbits)

theorem value_eq (x : Binary64) : x.value = x.significand * 2 ^ x.exponent := by
  rw [value, numerator, denominator, two_zpow_eq, mul_div_assoc']
  push_cast
  rfl

theorem value_nonneg (x : Binary64) : 0 ≤ x.value := by
  rw [value]
  positivity

theorem value_zero : zero.value = 0 := by
  rw [value_eq]
  exact zero_mul _

/-- One of the numbers of the format. -/
structure Proper (x : Binary64) : Prop where
  significand_lt : x.significand < 2 ^ 53
  leading : 2 ^ 52 ≤ x.significand ∨ x.exponent = -1074
  le_exponent : -1074 ≤ x.exponent
  exponent_le : x.exponent ≤ 971

theorem proper_zero : zero.Proper :=
  ⟨by decide, .inr rfl, by decide, by decide⟩

/-- A number with a larger exponent is a multiple of the unit. -/
theorem exists_multiple (h : e ≤ y.exponent) : ∃ k : Nat, y.value = k * 2 ^ e := by
  obtain ⟨k, hk⟩ := Int.eq_ofNat_of_zero_le (Int.sub_nonneg.2 h)
  refine ⟨y.significand * 2 ^ k, ?_⟩
  have hexponent : y.exponent = k + e := by omega
  rw [value_eq, hexponent, zpow_add₀ two_ne_zero, zpow_natCast]
  push_cast
  ring

/-- A number with a smaller exponent is less than full significands of the unit are. -/
theorem Proper.lt_full (h : y.Proper) (hlt : y.exponent < e) : y.value < 2 ^ 52 * 2 ^ e := by
  have hsignificand : (y.significand : ℚ) < 2 ^ 53 := by exact_mod_cast h.significand_lt
  calc y.value
      = y.significand * 2 ^ y.exponent := y.value_eq
    _ < 2 ^ 53 * 2 ^ y.exponent := mul_lt_mul_of_pos_right hsignificand (two_zpow_pos _)
    _ ≤ 2 ^ 53 * 2 ^ (e - 1) :=
        mul_le_mul_of_nonneg_left (zpow_le_zpow_right₀ one_le_two (by omega)) (by positivity)
    _ = 2 ^ 52 * 2 ^ e := by
        rw [zpow_sub_one₀ two_ne_zero]
        ring

theorem Proper.lt_of_exponent_lt (hx : x.Proper) (hy : y.Proper) (h : x.exponent < y.exponent) :
    x.value < y.value := by
  have hleading : 2 ^ 52 ≤ y.significand := by
    have hle := hx.le_exponent
    exact hy.leading.resolve_right (by omega)
  have hfull : (2 : ℚ) ^ 52 ≤ y.significand := by exact_mod_cast hleading
  rw [y.value_eq]
  exact (hx.lt_full h).trans_le (mul_le_mul_of_nonneg_right hfull (two_zpow_pos _).le)

/-- Two numbers of the format with one value are the same. -/
theorem Proper.eq_of_value_eq (hx : x.Proper) (hy : y.Proper) (h : x.value = y.value) : x = y := by
  rcases lt_trichotomy x.exponent y.exponent with hlt | hexponent | hlt
  · exact absurd h (hx.lt_of_exponent_lt hy hlt).ne
  · rw [value_eq, value_eq, hexponent] at h
    have hsignificand := mul_right_cancel₀ (two_zpow_pos _).ne' h
    cases x
    cases y
    simp_all
  · exact absurd h.symm (hy.lt_of_exponent_lt hx hlt).ne

/-- Between two numbers with even significands there is another one, the next after the first. -/
theorem Proper.exists_between (hx : x.Proper) (hy : y.Proper) (hxeven : x.significand % 2 = 0)
    (hyeven : y.significand % 2 = 0) (hlt : x.value < y.value) :
    ∃ z : Binary64, z.Proper ∧ x.value < z.value ∧ z.value < y.value := by
  let next : Binary64 := ⟨x.significand + 1, x.exponent⟩
  have hsignificand := hx.significand_lt
  have hproper : next.Proper := by
    refine ⟨?_, hx.leading.imp_left Nat.le_succ_of_le, hx.le_exponent, hx.exponent_le⟩
    show x.significand + 1 < 2 ^ 53
    omega
  have hnext : next.value = x.value + 2 ^ x.exponent := by
    rw [next.value_eq, x.value_eq]
    push_cast [next]
    ring
  have hexponent : x.exponent ≤ y.exponent := by
    by_contra hsmaller
    exact absurd (hy.lt_of_exponent_lt hx (not_le.1 hsmaller)) hlt.not_gt
  obtain ⟨k, hk⟩ := exists_multiple hexponent
  have hle : next.value ≤ y.value := by
    rw [x.value_eq, hk] at hlt
    have hlarger : x.significand + 1 ≤ k :=
      Nat.cast_lt.1 ((mul_lt_mul_iff_left₀ (two_zpow_pos _)).1 hlt)
    rw [next.value_eq, hk]
    exact mul_le_mul_of_nonneg_right (Nat.cast_le.2 hlarger) (two_zpow_pos _).le
  refine ⟨next, hproper, hnext ▸ lt_add_of_pos_right _ (two_zpow_pos _), lt_of_le_of_ne hle ?_⟩
  intro hsame
  have hodd : next.significand % 2 = 0 := hproper.eq_of_value_eq hy hsame ▸ hyeven
  have hsucc : next.significand = x.significand + 1 := rfl
  omega

/-! ### The nearest number -/

/-- No number of the format is nearer, and if another one is as near, the significand is even. -/
structure IsNearest (x : Binary64) (q : ℚ) : Prop where
  proper : x.Proper
  le_dist : ∀ y : Binary64, y.Proper → |x.value - q| ≤ |y.value - q|
  even_of_tie : ∀ y : Binary64, y.Proper → y.value ≠ x.value →
    |y.value - q| = |x.value - q| → x.significand % 2 = 0

/-- The number is within half a unit of `q`, with an even significand if it is exactly half a unit
away, and `q` has a full significand in this unit if the unit is not the least one. -/
structure RoundsAt (x : Binary64) (q : ℚ) (e : Int) : Prop where
  proper : x.Proper
  multiple : ∃ m : Nat, x.value = m * 2 ^ e
  near : |x.value - q| ≤ 2 ^ e / 2
  even_of_half : |x.value - q| = 2 ^ e / 2 → x.significand % 2 = 0
  full : e = -1074 ∨ 2 ^ 52 * 2 ^ e ≤ q

namespace RoundsAt

/-- Multiples of the unit that differ are at least a unit apart. -/
theorem unit_le (h : x.RoundsAt q e) {k : Nat} (hne : (k : ℚ) * 2 ^ e ≠ x.value) :
    2 ^ e ≤ |(k : ℚ) * 2 ^ e - q| + |x.value - q| := by
  obtain ⟨m, hm⟩ := h.multiple
  have hkm : (k : Int) - m ≠ 0 := by
    intro hsame
    apply hne
    rw [hm, Int.ofNat_inj.1 (Int.sub_eq_zero.1 hsame)]
  have hone : (1 : ℚ) ≤ |(k : ℚ) - m| := by exact_mod_cast Int.one_le_abs hkm
  calc (2 : ℚ) ^ e
      ≤ |(k : ℚ) - m| * 2 ^ e := le_mul_of_one_le_left (two_zpow_pos e).le hone
    _ = |((k : ℚ) * 2 ^ e - q) - (x.value - q)| := by
        rw [← abs_of_pos (two_zpow_pos e), ← abs_mul, abs_of_pos (two_zpow_pos e), hm]
        congr 1
        ring
    _ ≤ |(k : ℚ) * 2 ^ e - q| + |x.value - q| := abs_sub _ _

theorem le_dist_multiple (h : x.RoundsAt q e) (k : Nat) :
    |x.value - q| ≤ |(k : ℚ) * 2 ^ e - q| := by
  by_cases hsame : (k : ℚ) * 2 ^ e = x.value
  · rw [hsame]
  · linarith [h.unit_le hsame, h.near]

/-- Numbers with a smaller exponent are further away than the least full significand. -/
theorem lt_dist_of_lt (h : x.RoundsAt q e) (hy : y.Proper) (hlt : y.exponent < e) :
    |x.value - q| < |y.value - q| := by
  have hle := hy.le_exponent
  have hbelow := hy.lt_full hlt
  have hfull := h.full.resolve_left (by omega)
  have hleast := h.le_dist_multiple (2 ^ 52)
  push_cast at hleast
  refine lt_of_le_of_lt hleast ?_
  rw [abs_of_nonpos (by linarith), abs_of_nonpos (by linarith)]
  linarith

theorem isNearest (h : x.RoundsAt q e) : x.IsNearest q where
  proper := h.proper
  le_dist := by
    intro y hy
    rcases le_or_gt e y.exponent with hle | hlt
    · obtain ⟨k, hk⟩ := exists_multiple hle
      exact hk ▸ h.le_dist_multiple k
    · exact (h.lt_dist_of_lt hy hlt).le
  even_of_tie := by
    intro y hy hne htie
    rcases le_or_gt e y.exponent with hle | hlt
    · obtain ⟨k, hk⟩ := exists_multiple hle
      have hunit := h.unit_le (hk ▸ hne)
      rw [← hk, htie] at hunit
      exact h.even_of_half (le_antisymm h.near (by linarith))
    · exact absurd htie.symm (h.lt_dist_of_lt hy hlt).ne

/-- Rounding errs by at most one part in 2^53. -/
theorem error_le (h : x.RoundsAt q e) (hq : 2 ^ (-1022 : Int) ≤ q) :
    |x.value - q| ≤ q / 2 ^ 53 := by
  have hfull : 2 ^ 52 * 2 ^ e ≤ q := by
    rcases h.full with rfl | hfull
    · have hleast : (2 : ℚ) ^ 52 * 2 ^ (-1074 : Int) = 2 ^ (-1022 : Int) := by
        rw [← zpow_natCast, ← zpow_add₀ two_ne_zero]
        rfl
      rwa [hleast]
    · exact hfull
  linarith [h.near]

end RoundsAt

namespace IsNearest

/-- A nearest number is not less than another: the quotient would be in the middle of the two, and
what lies between them is nearer to it. -/
theorem value_le (hx : x.IsNearest q) (hy : y.IsNearest q) : y.value ≤ x.value := by
  by_contra hmore
  have hlt := not_le.1 hmore
  have htie : |x.value - q| = |y.value - q| :=
    le_antisymm (hx.le_dist y hy.proper) (hy.le_dist x hx.proper)
  have hmiddle : x.value - q = -(y.value - q) := by
    rcases abs_eq_abs.1 htie with hsame | hmiddle
    · exact absurd (sub_left_inj.1 hsame) hlt.ne
    · exact hmiddle
  have hxeven := hx.even_of_tie y hy.proper hlt.ne' htie.symm
  have hyeven := hy.even_of_tie x hx.proper hlt.ne htie
  obtain ⟨z, hz, hxz, hzy⟩ := hx.proper.exists_between hy.proper hxeven hyeven hlt
  have hnearer : |z.value - q| < |x.value - q| := by
    rw [htie, abs_of_pos (by linarith : 0 < y.value - q), abs_lt]
    constructor <;> linarith
  exact absurd (hx.le_dist z hz) hnearer.not_ge

/-- A number of the format is the nearest one to its own value. -/
theorem value_eq_of_proper (hx : x.IsNearest q) (hy : y.Proper) (hq : y.value = q) :
    x.value = q := by
  have hdist := hx.le_dist y hy
  rw [hq, sub_self, abs_zero] at hdist
  exact sub_eq_zero.1 (abs_nonpos_iff.1 hdist)

theorem unique (hx : x.IsNearest q) (hy : y.IsNearest q) : x = y :=
  hx.proper.eq_of_value_eq hy.proper (le_antisymm (hy.value_le hx) (hx.value_le hy))

end IsNearest

/-! ### Quotients -/

theorem roundedQuotient_near (num : Nat) (hden : 0 < den) :
    |(roundedQuotient num den : ℚ) - num / den| ≤ 1 / 2
      ∧ (|(roundedQuotient num den : ℚ) - num / den| = 1 / 2
        → roundedQuotient num den % 2 = 0) := by
  have hpos : (0 : ℚ) < den := Nat.cast_pos.2 hden
  have hquotient : (num : ℚ) / den = (num / den : Nat) + (num % den : Nat) / den := by
    rw [div_eq_iff hpos.ne', add_mul, div_mul_cancel₀ _ hpos.ne']
    exact_mod_cast (Nat.div_add_mod' num den).symm
  have hrest : (0 : ℚ) ≤ (num % den : Nat) / den := by positivity
  have hbelow : ((num % den : Nat) : ℚ) / den < 1 :=
    (div_lt_one hpos).2 (Nat.cast_lt.2 (Nat.mod_lt num hden))
  have hhalf : 2 * (num % den) < den ↔ ((num % den : Nat) : ℚ) / den < 1 / 2 := by
    rw [div_lt_div_iff₀ hpos two_pos, one_mul, mul_comm]
    exact_mod_cast Iff.rfl
  have htie : 2 * (num % den) = den ↔ ((num % den : Nat) : ℚ) / den = 1 / 2 := by
    rw [div_eq_div_iff hpos.ne' two_ne_zero, one_mul, mul_comm]
    exact_mod_cast Iff.rfl
  rw [hquotient, roundedQuotient]
  simp only [hhalf, htie]
  generalize ((num % den : Nat) : ℚ) / den = rest at *
  split
  · rename_i hdown
    have hdist : |((num / den : Nat) : ℚ) - ((num / den : Nat) + rest)| = rest := by
      rw [sub_add_cancel_left, abs_neg, abs_of_nonneg hrest]
    rw [hdist]
    rcases hdown with hlt | ⟨heq, heven⟩
    · exact ⟨hlt.le, fun hhalf => absurd hhalf hlt.ne⟩
    · exact ⟨heq.le, fun _ => heven⟩
  · rename_i hup
    have hdist : |((num / den + 1 : Nat) : ℚ) - ((num / den : Nat) + rest)| = 1 - rest := by
      push_cast
      rw [add_sub_add_left_eq_sub, abs_of_pos (by linarith)]
    rw [hdist]
    rw [not_or, not_lt, not_and] at hup
    refine ⟨by linarith [hup.1], ?_⟩
    intro heq
    have hodd := hup.2 (by linarith)
    omega

theorem log2_bounds {n : Nat} (h : 0 < n) :
    (2 : ℚ) ^ (n.log2 : Int) ≤ n ∧ (n : ℚ) < 2 ^ ((n.log2 : Int) + 1) := by
  have hle : ((2 ^ n.log2 : Nat) : ℚ) ≤ n := Nat.cast_le.2 (Nat.log2_self_le (Nat.ne_of_gt h))
  have hlt : (n : ℚ) < (2 ^ (n.log2 + 1) : Nat) := Nat.cast_lt.2 Nat.lt_log2_self
  push_cast at hle hlt
  exact ⟨by exact_mod_cast hle, by exact_mod_cast hlt⟩

/-- A quotient in units of `2^e`, as it is computed with natural numbers. -/
theorem scaled_div (num den : Nat) (e : Int) :
    ((num * 2 ^ (-e).toNat : Nat) : ℚ) / (den * 2 ^ e.toNat : Nat) = num / den / 2 ^ e := by
  rw [two_zpow_eq e]
  push_cast
  field_simp

theorem leadingExponent_spec (hnum : 0 < num) (hden : 0 < den) :
    (2 : ℚ) ^ leadingExponent num den ≤ num / den
      ∧ (num : ℚ) / den < 2 ^ (leadingExponent num den + 1) := by
  have hpos : (0 : ℚ) < den := Nat.cast_pos.2 hden
  obtain ⟨hnumle, hnumlt⟩ := log2_bounds hnum
  obtain ⟨hdenle, hdenlt⟩ := log2_bounds hden
  have hguess : num * 2 ^ (-((num.log2 : Int) - den.log2)).toNat
        < den * 2 ^ ((num.log2 : Int) - den.log2).toNat
      ↔ (num : ℚ) / den < 2 ^ ((num.log2 : Int) - den.log2) := by
    rw [two_zpow_eq, div_lt_div_iff₀ hpos (by positivity), mul_comm (2 ^ _) (den : ℚ)]
    exact_mod_cast Iff.rfl
  have hlow : (2 : ℚ) ^ ((num.log2 : Int) - den.log2 - 1) ≤ num / den := by
    rw [le_div_iff₀ hpos]
    calc (2 : ℚ) ^ ((num.log2 : Int) - den.log2 - 1) * den
        ≤ 2 ^ ((num.log2 : Int) - den.log2 - 1) * 2 ^ ((den.log2 : Int) + 1) :=
          mul_le_mul_of_nonneg_left hdenlt.le (two_zpow_pos _).le
      _ = 2 ^ (num.log2 : Int) := by
          rw [← zpow_add₀ two_ne_zero]
          congr 1
          ring
      _ ≤ num := hnumle
  have hhigh : (num : ℚ) / den < 2 ^ ((num.log2 : Int) - den.log2 + 1) := by
    rw [div_lt_iff₀ hpos]
    calc (num : ℚ)
        < 2 ^ ((num.log2 : Int) + 1) := hnumlt
      _ = 2 ^ ((num.log2 : Int) - den.log2 + 1) * 2 ^ (den.log2 : Int) := by
          rw [← zpow_add₀ two_ne_zero]
          congr 1
          ring
      _ ≤ 2 ^ ((num.log2 : Int) - den.log2 + 1) * den :=
          mul_le_mul_of_nonneg_left hdenle (two_zpow_pos _).le
  rw [leadingExponent]
  simp only [hguess]
  split
  · rename_i hless
    rw [sub_add_cancel]
    exact ⟨hlow, hless⟩
  · rename_i hmore
    exact ⟨not_lt.1 hmore, hhigh⟩

/-- The exponent of the unit that a quotient is rounded to a multiple of. -/
def unitExponent (num den : Nat) : Int := max (leadingExponent num den - 52) (-1074)

/-- The number of units that a quotient is rounded to. -/
def unitCount (num den : Nat) : Nat :=
  let e := unitExponent num den
  roundedQuotient (num * 2 ^ (-e).toNat) (den * 2 ^ e.toNat)

/-- A number of units, with a significand that has grown too long carried over. -/
def ofUnits (count : Nat) (e : Int) : Binary64 :=
  if count = 2 ^ 53 then ⟨2 ^ 52, e + 1⟩ else ⟨count, e⟩

theorem ofQuotient?_eq (hnum : 0 < num) :
    ofQuotient? num den = if (ofUnits (unitCount num den) (unitExponent num den)).exponent > 971
      then none else some (ofUnits (unitCount num den) (unitExponent num den)) :=
  if_neg (Nat.ne_of_gt hnum)

/-- In its unit a quotient has a full significand, or the unit is the least one. -/
theorem unitExponent_spec (hnum : 0 < num) (hden : 0 < den) :
    (num : ℚ) / den < 2 ^ 53 * 2 ^ unitExponent num den
      ∧ (unitExponent num den = -1074 ∨ 2 ^ 52 * 2 ^ unitExponent num den ≤ (num : ℚ) / den) := by
  obtain ⟨hle, hlt⟩ := leadingExponent_spec hnum hden
  have hexponent : unitExponent num den = max (leadingExponent num den - 52) (-1074) := rfl
  constructor
  · refine hlt.trans_le ?_
    rw [← zpow_natCast, ← zpow_add₀ two_ne_zero]
    refine zpow_le_zpow_right₀ one_le_two ?_
    rw [hexponent]
    push_cast
    omega
  · rw [or_iff_not_imp_left]
    intro hleast
    refine le_trans (le_of_eq ?_) hle
    rw [← zpow_natCast, ← zpow_add₀ two_ne_zero]
    congr 1
    push_cast
    omega

theorem unitCount_near (num : Nat) (hden : 0 < den) :
    |(unitCount num den : ℚ) - num / den / 2 ^ unitExponent num den| ≤ 1 / 2
      ∧ (|(unitCount num den : ℚ) - num / den / 2 ^ unitExponent num den| = 1 / 2
        → unitCount num den % 2 = 0) := by
  rw [← scaled_div]
  exact roundedQuotient_near _ (Nat.mul_pos hden (Nat.two_pow_pos _))

theorem unitCount_le (hnum : 0 < num) (hden : 0 < den) : unitCount num den ≤ 2 ^ 53 := by
  have hnear := (abs_le.1 (unitCount_near num hden).1).2
  have hbelow := (div_lt_iff₀ (two_zpow_pos _)).2 (unitExponent_spec hnum hden).1
  have hlt : (unitCount num den : ℚ) < (2 ^ 53 + 1 : Nat) := by
    push_cast
    linarith
  exact Nat.lt_succ_iff.1 (Nat.cast_lt.1 hlt)

theorem le_unitCount (hnum : 0 < num) (hden : 0 < den) :
    unitExponent num den = -1074 ∨ 2 ^ 52 ≤ unitCount num den := by
  refine (unitExponent_spec hnum hden).2.imp_right ?_
  intro hfull
  have hnear := (abs_le.1 (unitCount_near num hden).1).1
  have habove := (le_div_iff₀ (two_zpow_pos _)).2 hfull
  have hlt : ((2 ^ 52 : Nat) : ℚ) < (unitCount num den + 1 : Nat) := by
    push_cast
    linarith
  exact Nat.lt_succ_iff.1 (Nat.cast_lt.1 hlt)

theorem value_ofUnits (count : Nat) (e : Int) : (ofUnits count e).value = count * 2 ^ e := by
  rw [ofUnits]
  split
  · rename_i hlong
    rw [value_eq, hlong, zpow_add_one₀ two_ne_zero]
    push_cast
    ring
  · exact value_eq _

theorem ofUnits_even {count : Nat} (h : count % 2 = 0) :
    (ofUnits count e).significand % 2 = 0 := by
  rw [ofUnits]
  split
  · show 2 ^ 52 % 2 = 0
    decide
  · exact h

theorem proper_ofUnits {count : Nat} (hle : count ≤ 2 ^ 53) (hleast : -1074 ≤ e)
    (hfull : e = -1074 ∨ 2 ^ 52 ≤ count) (hlargest : (ofUnits count e).exponent ≤ 971) :
    (ofUnits count e).Proper := by
  rw [ofUnits] at hlargest ⊢
  split
  · rename_i hlong
    rw [if_pos hlong] at hlargest
    have hcarried : 2 ^ 52 < 2 ^ 53 := by decide
    exact ⟨hcarried, .inl (le_refl _), Int.le_add_one hleast, hlargest⟩
  · rename_i hshort
    rw [if_neg hshort] at hlargest
    exact ⟨lt_of_le_of_ne hle hshort, hfull.symm, hleast, hlargest⟩

theorem roundsAt_of_ofQuotient? (hnum : 0 < num) (hden : 0 < den)
    (h : ofQuotient? num den = some x) : x.RoundsAt (num / den) (unitExponent num den) := by
  have hunit := two_zpow_pos (unitExponent num den)
  rw [ofQuotient?_eq hnum] at h
  split at h
  · cases h
  · rename_i hlargest
    cases h
    obtain ⟨hnear, heven⟩ := unitCount_near num hden
    have hdist : |(ofUnits (unitCount num den) (unitExponent num den)).value - num / den|
        = |(unitCount num den : ℚ) - num / den / 2 ^ unitExponent num den|
          * 2 ^ unitExponent num den := by
      rw [value_ofUnits, ← abs_of_pos hunit, ← abs_mul, abs_of_pos hunit, sub_mul,
        div_mul_cancel₀ _ hunit.ne']
    exact {
      proper := proper_ofUnits (unitCount_le hnum hden) (le_max_right _ _)
        (le_unitCount hnum hden) (not_lt.1 hlargest)
      multiple := ⟨_, value_ofUnits _ _⟩
      near := by
        rw [hdist]
        linarith [mul_le_mul_of_nonneg_right hnear hunit.le]
      even_of_half := by
        intro hhalf
        rw [hdist] at hhalf
        exact ofUnits_even
          (heven (mul_right_cancel₀ hunit.ne' (hhalf.trans (one_div_mul_eq_div _ _).symm)))
      full := (unitExponent_spec hnum hden).2 }

/-- A quotient below 2^1023 is within the range of the format. -/
theorem exists_ofQuotient? (hnum : 0 < num) (hden : 0 < den)
    (hsmall : (num : ℚ) / den < 2 ^ (1023 : Int)) : ∃ x, ofQuotient? num den = some x := by
  have hleading : leadingExponent num den < 1023 :=
    (zpow_lt_zpow_iff_right₀ one_lt_two).1 ((leadingExponent_spec hnum hden).1.trans_lt hsmall)
  have hexponent : unitExponent num den = max (leadingExponent num den - 52) (-1074) := rfl
  refine ⟨_, (ofQuotient?_eq hnum).trans (if_neg ?_)⟩
  rw [ofUnits]
  split
  · show ¬unitExponent num den + 1 > 971
    omega
  · show ¬unitExponent num den > 971
    omega

theorem isNearest_zero : zero.IsNearest 0 where
  proper := proper_zero
  le_dist := by
    intro y _
    rw [value_zero, sub_zero, abs_zero]
    exact abs_nonneg _
  even_of_tie _ _ _ _ := rfl

/-- A quotient is rounded to the nearest number. -/
theorem ofQuotient?_nearest (num : Nat) (hden : 0 < den)
    (hsmall : (num : ℚ) / den < 2 ^ (1023 : Int)) :
    ∃ x, ofQuotient? num den = some x ∧ x.IsNearest (num / den) := by
  rcases Nat.eq_zero_or_pos num with rfl | hnum
  · refine ⟨zero, rfl, ?_⟩
    rw [Nat.cast_zero, zero_div]
    exact isNearest_zero
  · obtain ⟨x, hx⟩ := exists_ofQuotient? hnum hden hsmall
    exact ⟨x, hx, (roundsAt_of_ofQuotient? hnum hden hx).isNearest⟩

namespace IsNearest

theorem value_eq_zero (h : x.IsNearest 0) : x.value = 0 :=
  h.unique isNearest_zero ▸ value_zero

/-- The nearest number is off by at most one part in 2^53, unless the number meant is so small that
the significand is not a full one. -/
theorem error_le (h : x.IsNearest q) (hleast : q = 0 ∨ 2 ^ (-1022 : Int) ≤ q)
    (hsmall : q < 2 ^ (1023 : Int)) : |x.value - q| ≤ q / 2 ^ 53 := by
  rcases hleast with rfl | hleast
  · rw [h.value_eq_zero, sub_self, abs_zero, zero_div]
  have hnum : 0 < q.num := Rat.num_pos.2 ((two_zpow_pos _).trans_le hleast)
  have hq : (q.num.toNat : ℚ) / q.den = q := by
    have hcast : ((q.num.toNat : Int) : ℚ) = q.num := by rw [Int.toNat_of_nonneg hnum.le]
    rw [Int.cast_natCast] at hcast
    rw [hcast, Rat.num_div_den]
  obtain ⟨z, hz⟩ :=
    exists_ofQuotient? (Int.pos_iff_toNat_pos.1 hnum) q.den_pos (hq.trans_lt hsmall)
  have hrounds := roundsAt_of_ofQuotient? (Int.pos_iff_toNat_pos.1 hnum) q.den_pos hz
  rw [hq] at hrounds
  rw [h.unique hrounds.isNearest]
  exact hrounds.error_le hleast

/-- Zero is a number of the format, so the nearest one is not more than twice what is meant. -/
theorem value_le_two_mul (h : x.IsNearest q) (hq : 0 ≤ q) : x.value ≤ 2 * q := by
  have hdist := h.le_dist zero proper_zero
  rw [value_zero, zero_sub, abs_neg, abs_of_nonneg hq] at hdist
  linarith [(abs_le.1 hdist).2]

end IsNearest

/-! ### Sums and quotients of numbers -/

theorem add?_nearest (x y : Binary64) (hsmall : x.value + y.value < 2 ^ (1023 : Int)) :
    ∃ z, x.add? y = some z ∧ z.IsNearest (x.value + y.value) := by
  have hx : (x.denominator : ℚ) ≠ 0 := Nat.cast_ne_zero.2 (Nat.ne_of_gt x.denominator_pos)
  have hy : (y.denominator : ℚ) ≠ 0 := Nat.cast_ne_zero.2 (Nat.ne_of_gt y.denominator_pos)
  have hsum : ((x.numerator * y.denominator + y.numerator * x.denominator : Nat) : ℚ)
      / (x.denominator * y.denominator : Nat) = x.value + y.value := by
    rw [value, value, div_add_div _ _ hx hy]
    push_cast
    ring
  rw [← hsum] at hsmall ⊢
  exact ofQuotient?_nearest _ (Nat.mul_pos x.denominator_pos y.denominator_pos) hsmall

theorem div?_nearest (x : Binary64) (hy : 0 < y.numerator)
    (hsmall : x.value / y.value < 2 ^ (1023 : Int)) :
    ∃ z, x.div? y = some z ∧ z.IsNearest (x.value / y.value) := by
  have hquotient : ((x.numerator * y.denominator : Nat) : ℚ)
      / (x.denominator * y.numerator : Nat) = x.value / y.value := by
    rw [value, value, div_div_div_eq]
    push_cast
    rfl
  rw [← hquotient] at hsmall ⊢
  exact ofQuotient?_nearest _ (Nat.mul_pos x.denominator_pos hy) hsmall

end DepositGate.Binary64
