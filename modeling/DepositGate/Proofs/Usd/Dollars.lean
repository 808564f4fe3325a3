import DepositGate.Proofs.Binary64.Rounding
import DepositGate.Usd

/-!
# Dollar values in floating point

A value below 2^128 dollars is shown in floating point as the sum of its whole dollars and of the
rest, each rounded; all roundings together change it by no more than one part in 2^51. Of larger
values the whole dollars are taken modulo 2^128 first, so what is shown of these is far too small.
-/

namespace DepositGate.Usd

open Binary64

variable {a : Usd} {shown : Binary64}

/-- The number of dollars. -/
def dollars (a : Usd) : ℚ := a.raw.val / 10 ^ 18

/-- The number is what the value is shown as: whole dollars and the rest are rounded, the rest is
divided and rounded again, and so is the sum. -/
def ShownAs (a : Usd) (shown : Binary64) : Prop :=
  ∃ whole units rest : Binary64,
    whole.IsNearest (a.raw.val / 10 ^ 18 : Nat)
      ∧ units.IsNearest (a.raw.val % 10 ^ 18 : Nat)
      ∧ rest.IsNearest (units.value / 10 ^ 18)
      ∧ shown.IsNearest (whole.value + rest.value)

/-- The value with its whole dollars taken modulo 2^128. -/
def wrapped (a : Usd) : Usd :=
  ⟨a.raw.val % (2 ^ 128 * 10 ^ 18), Nat.lt_of_le_of_lt (Nat.mod_le _ _) a.raw.val_lt⟩

theorem wrapped_of_lt (h : a.raw.val < 2 ^ 128 * 10 ^ 18) : a.wrapped = a :=
  Usd.ext (Nat.mod_eq_of_lt h)

theorem ShownAs.unique {other : Binary64} (h : a.ShownAs shown) (hother : a.ShownAs other) :
    shown = other := by
  obtain ⟨whole, units, rest, hwhole, hunits, hrest, hsum⟩ := h
  obtain ⟨_, _, _, hwhole', hunits', hrest', hsum'⟩ := hother
  obtain rfl := hwhole.unique hwhole'
  obtain rfl := hunits.unique hunits'
  obtain rfl := hrest.unique hrest'
  exact hsum.unique hsum'

/-! ### What is computed -/

/-- A bound that what is computed on the way stays far below. -/
theorem two_pow_lt_range : (2 ^ 131 : ℚ) < 2 ^ (1023 : Int) := by
  exact_mod_cast natCast_lt (show 2 ^ 131 < 2 ^ 132 by decide) (by decide)

theorem nearest_natCast {n : Nat} (h : n < 2 ^ 128) : ((ofQuotient? n 1).getD .zero).IsNearest n
    ∧ ((ofQuotient? n 1).getD .zero).value < 2 ^ 129 := by
  have hone : (n : ℚ) / (1 : Nat) = n := by rw [Nat.cast_one, div_one]
  have hcast : (n : ℚ) < 2 ^ 128 := by exact_mod_cast h
  obtain ⟨x, hx, hnearest⟩ :=
    ofQuotient?_nearest n Nat.one_pos (hone.trans_lt (natCast_lt h (by decide)))
  rw [hone] at hnearest
  rw [hx, Option.getD_some]
  exact ⟨hnearest, by linarith [hnearest.value_le_two_mul (Nat.cast_nonneg n)]⟩

/-- The number 10^18. -/
def unitsPerDollar : Binary64 := ⟨7812500000000000, 7⟩

theorem nearest_unitsPerDollar : (ofQuotient? (10 ^ 18) 1).getD .zero = unitsPerDollar := by decide

theorem value_unitsPerDollar : unitsPerDollar.value = 10 ^ 18 := by
  rw [value_eq, unitsPerDollar]
  norm_num

theorem exists_rest {units : Binary64} (h : units.value < 2 ^ 129) :
    ∃ rest, units.div? unitsPerDollar = some rest
      ∧ rest.IsNearest (units.value / 10 ^ 18) ∧ rest.value < 2 ^ 130 := by
  have hnonneg : 0 ≤ units.value / 10 ^ 18 :=
    div_nonneg units.value_nonneg (pow_nonneg (by norm_num) _)
  have hle : units.value / 10 ^ 18 ≤ units.value :=
    div_le_self units.value_nonneg (one_le_pow₀ (by norm_num))
  have hsmall : units.value / unitsPerDollar.value < 2 ^ 131 := by
    rw [value_unitsPerDollar]
    linarith
  obtain ⟨rest, hrest, hnearest⟩ := div?_nearest units (by decide) (hsmall.trans two_pow_lt_range)
  rw [value_unitsPerDollar] at hnearest
  exact ⟨rest, hrest, hnearest, by linarith [hnearest.value_le_two_mul hnonneg]⟩

/-- The value is shown as what it is with its whole dollars taken modulo 2^128. -/
theorem shownAs_toDollars (a : Usd) : a.wrapped.ShownAs a.toDollars := by
  have hwhole : a.wrapped.raw.val / 10 ^ 18 = a.raw.val / 10 ^ 18 % 2 ^ 128 :=
    Nat.mod_mul_left_div_self _ _ _
  have hunits : a.wrapped.raw.val % 10 ^ 18 = a.raw.val % 10 ^ 18 := Nat.mod_mul_left_mod _ _ _
  obtain ⟨hwholeNearest, hwholeLt⟩ :=
    nearest_natCast (Nat.mod_lt (a.raw.val / 10 ^ 18) (Nat.two_pow_pos 128))
  obtain ⟨hunitsNearest, hunitsLt⟩ := nearest_natCast
    (Nat.lt_trans (Nat.mod_lt a.raw.val (by decide)) (show 10 ^ 18 < 2 ^ 128 by decide))
  obtain ⟨rest, hrest, hrestNearest, hrestLt⟩ := exists_rest hunitsLt
  obtain ⟨sum, hsum, hsumNearest⟩ := add?_nearest _ rest
    ((add_lt_add hwholeLt hrestLt).trans (lt_trans (by norm_num) two_pow_lt_range))
  have htoDollars : a.toDollars = sum := by
    rw [toDollars]
    dsimp only
    rw [nearest_unitsPerDollar, hrest, Option.getD_some, hsum, Option.getD_some]
  rw [ShownAs, hwhole, hunits, htoDollars]
  exact ⟨_, _, rest, hwholeNearest, hunitsNearest, hrestNearest, hsumNearest⟩

/-- The number shown is determined by the roundings. -/
theorem shownAs_iff : a.wrapped.ShownAs shown ↔ shown = a.toDollars := by
  constructor
  · exact fun h => h.unique a.shownAs_toDollars
  · rintro rfl
    exact a.shownAs_toDollars

/-! ### How far off it is -/

/-- The value in dollars is its whole dollars and the rest. -/
theorem dollars_eq (a : Usd) : a.dollars
    = (a.raw.val / 10 ^ 18 : Nat) + (a.raw.val % 10 ^ 18 : Nat) / 10 ^ 18 := by
  have hscale : (10 : ℚ) ^ 18 ≠ 0 := pow_ne_zero _ (by norm_num)
  rw [dollars, div_eq_iff hscale, add_mul, div_mul_cancel₀ _ hscale]
  exact_mod_cast (Nat.div_add_mod' a.raw.val (10 ^ 18)).symm

theorem range_le_two_pow : (2 : ℚ) ^ (-1022 : Int) ≤ 1 / 2 ^ 64 := by
  rw [one_div, ← zpow_natCast, ← zpow_neg]
  exact zpow_le_zpow_right₀ one_le_two (by decide)

section Error

variable {x : Binary64} {q c : ℚ}

/-- How far off a number is that is the nearest one to zero, or to something between 2^-64 and
2^131. -/
theorem nearest_error (h : x.IsNearest q) (hleast : q = 0 ∨ 1 / 2 ^ 64 ≤ q) (hlt : q < 2 ^ 131) :
    |x.value - q| ≤ q / 2 ^ 53 :=
  h.error_le (hleast.imp_right range_le_two_pow.trans) (hlt.trans two_pow_lt_range)

theorem zero_or_half_le (herror : |x.value - q| ≤ q / 2 ^ 53) (hc : 0 ≤ c) (h : q = 0 ∨ c ≤ q) :
    x.value = 0 ∨ c / 2 ≤ x.value := by
  rcases h with rfl | hle
  · left
    rw [sub_zero, zero_div] at herror
    exact abs_nonpos_iff.1 herror
  · right
    linarith [(abs_le.1 herror).1]

theorem nearest_natCast_error {n : Nat} (h : x.IsNearest n) (hlt : n < 2 ^ 128) :
    |x.value - n| ≤ n / 2 ^ 53 ∧ (x.value = 0 ∨ 1 / 2 ≤ x.value) := by
  have hcast : (n : ℚ) < 2 ^ 128 := by exact_mod_cast hlt
  have hleast : (n : ℚ) = 0 ∨ 1 ≤ (n : ℚ) :=
    (Nat.eq_zero_or_pos n).imp Nat.cast_eq_zero.2 Nat.one_le_cast.2
  have herror := nearest_error h (hleast.imp_right (le_trans (by norm_num))) (by linarith)
  exact ⟨herror, zero_or_half_le herror one_pos.le hleast⟩

end Error

/-- Four roundings change a value below 2^128 dollars by at most one part in 2^51. -/
theorem ShownAs.error_le (h : a.ShownAs shown) (hlt : a.raw.val / 10 ^ 18 < 2 ^ 128) :
    |shown.value - a.dollars| ≤ a.dollars / 2 ^ 51 := by
  obtain ⟨whole, units, rest, hwhole, hunits, hrest, hsum⟩ := h
  have hmod : a.raw.val % 10 ^ 18 < 10 ^ 18 := Nat.mod_lt _ (by decide)
  have hwholeLt : ((a.raw.val / 10 ^ 18 : Nat) : ℚ) < 2 ^ 128 := by exact_mod_cast hlt
  have hunitsLt : ((a.raw.val % 10 ^ 18 : Nat) : ℚ) < 10 ^ 18 := by exact_mod_cast hmod
  obtain ⟨hwholeError, hwholeLow⟩ := nearest_natCast_error hwhole hlt
  obtain ⟨hunitsError, hunitsLow⟩ :=
    nearest_natCast_error hunits (Nat.lt_trans hmod (show 10 ^ 18 < 2 ^ 128 by decide))
  have hquotientLow : units.value / 10 ^ 18 = 0 ∨ 1 / 2 ^ 62 ≤ units.value / 10 ^ 18 := by
    rcases hunitsLow with hzero | hle
    · exact .inl (by rw [hzero, zero_div])
    · exact .inr (by linarith)
  have hrestError := nearest_error hrest (hquotientLow.imp_right (le_trans (by norm_num)))
    (by linarith [(abs_le.1 hunitsError).2])
  have hrestLow := zero_or_half_le hrestError (by norm_num) hquotientLow
  have hsumLow : whole.value + rest.value = 0 ∨ 1 / 2 ^ 64 ≤ whole.value + rest.value := by
    rcases hwholeLow with hzero | hle
    · rw [hzero, zero_add]
      exact hrestLow.imp_right (le_trans (by norm_num))
    · exact .inr (by linarith [rest.value_nonneg])
  rw [dollars_eq]
  rw [abs_le] at hwholeError hunitsError hrestError
  have hsumError := abs_le.1 (nearest_error hsum hsumLow (by linarith))
  -- Every bound is linear in the whole dollars and the rest, so they add up.
  rw [abs_le]
  constructor <;> linarith

theorem wrapped_lt (a : Usd) : a.wrapped.raw.val < 2 ^ 128 * 10 ^ 18 := Nat.mod_lt _ (by decide)

/-- A value of 2^128 dollars and more is larger by that than what it is shown as. -/
theorem dollars_wrapped_add_le (h : 2 ^ 128 * 10 ^ 18 ≤ a.raw.val) :
    a.wrapped.dollars + 2 ^ 128 ≤ a.dollars := by
  have hle : a.wrapped.raw.val + 2 ^ 128 * 10 ^ 18 ≤ a.raw.val := by
    show a.raw.val % (2 ^ 128 * 10 ^ 18) + 2 ^ 128 * 10 ^ 18 ≤ a.raw.val
    omega
  have hcast : (a.wrapped.raw.val : ℚ) + 2 ^ 128 * 10 ^ 18 ≤ a.raw.val := by exact_mod_cast hle
  rw [dollars, dollars]
  linarith

/-- What is shown is within one part in 2^51 of the value exactly for values below 2^128 dollars. -/
theorem toDollars_error_le_iff (a : Usd) :
    |a.toDollars.value - a.dollars| ≤ a.dollars / 2 ^ 51 ↔ a.raw.val < 2 ^ 128 * 10 ^ 18 := by
  have hlt := a.wrapped_lt
  have herror := a.shownAs_toDollars.error_le (Nat.div_lt_of_lt_mul (Nat.mul_comm _ _ ▸ hlt))
  constructor
  · intro hnear
    by_contra hlarge
    have hmore := dollars_wrapped_add_le (not_lt.1 hlarge)
    have hcast : a.wrapped.dollars < 2 ^ 128 := by
      rw [dollars, div_lt_iff₀ (by norm_num)]
      exact_mod_cast hlt
    linarith [(abs_le.1 hnear).1, (abs_le.1 herror).2]
  · intro hsmall
    rwa [wrapped_of_lt hsmall] at herror

end DepositGate.Usd
