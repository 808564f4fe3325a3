import DepositGate.Proofs.Caps
import Mathlib.Algebra.Order.Floor.Div

/-!
# The caps in native currency

The bounds in native currency divide where the check of a deposit multiplies, and round the other
way. The lower bound is exact all the same: what is below it is refused, and it is the least deposit
that passes if any does. The upper bound is only safe: no deposit up to it is above the upper cap,
but some deposits above it are worth a fraction of a unit more than the cap and pass as the cap.
-/

namespace DepositGate.CapPolicy

variable {policy : CapPolicy} {price amount : Amount}

/-! ### The bounds -/

/-- The lower cap at a price, rounded up. -/
def minNative (policy : CapPolicy) (price : Amount) : Nat :=
  policy.caps.min.raw.val * policy.unit ⌈/⌉ price.val

/-- The upper cap at a price, rounded down. -/
def maxNative (policy : CapPolicy) (price : Amount) : Nat :=
  policy.caps.max.raw.val * policy.unit / price.val

theorem ceilDiv_eq_ite (n : Nat) {d : Nat} (hd : 0 < d) :
    n ⌈/⌉ d = if n % d = 0 then n / d else n / d + 1 := by
  have hdiv := Nat.div_add_mod n d
  have hmod := Nat.mod_lt n hd
  rw [Nat.ceilDiv_eq_add_pred_div]
  split
  · have hround : n + d - 1 = d - 1 + d * (n / d) := by omega
    rw [hround, Nat.add_mul_div_left _ _ hd, Nat.div_eq_of_lt (by omega), Nat.zero_add]
  · have hround : n + d - 1 = n % d - 1 + d * (n / d + 1) := by
      rw [Nat.mul_succ]
      omega
    rw [hround, Nat.add_mul_div_left _ _ hd, Nat.div_eq_of_lt (by omega), Nat.zero_add]

theorem nativeBounds_eq_ok (hdecimals : policy.nativeDecimals.toNat ≤ 77) (hprice : 0 < price.val)
    (hlow : policy.minNative price < 2 ^ 256) (hhigh : policy.maxNative price < 2 ^ 256) :
    policy.nativeBounds price
      = .ok (⟨policy.minNative price, hlow⟩, ⟨policy.maxNative price, hhigh⟩) := by
  have hsome : price.isZero = false := Amount.isZero_eq_false_iff.2 hprice.ne'
  have hfit : ∀ n (h : n < 2 ^ 256), Amount.saturate n = ⟨n, h⟩ := by
    intro n h
    apply Amount.ext
    rw [Amount.val_saturate]
    exact min_eq_left (Nat.le_pred_of_lt h)
  rw [policy.nativeBounds_eq price hdecimals, hsome, ← ceilDiv_eq_ite _ hprice]
  exact congrArg Except.ok (Prod.ext (hfit _ hlow) (hfit _ hhigh))

theorem minNative_le_iff (hprice : 0 < price.val) :
    policy.minNative price ≤ amount.val
      ↔ policy.caps.min.raw.val * policy.unit ≤ worth price amount := by
  rw [minNative, ceilDiv_le_iff_le_mul hprice, worth, Nat.mul_comm amount.val]

theorem le_maxNative_iff (hprice : 0 < price.val) :
    amount.val ≤ policy.maxNative price
      ↔ worth price amount ≤ policy.caps.max.raw.val * policy.unit :=
  Nat.le_div_iff_mul_le hprice

/-- The greatest deposit that is not above the upper cap, if that is a cap at all. -/
def last (policy : CapPolicy) (price : Amount) : Amount :=
  if policy.caps.max.raw.val = 2 ^ 256 - 1 then .top
  else .saturate (((policy.caps.max.raw.val + 1) * policy.unit - 1) / price.val)

theorem le_last_iff (hprice : 0 < price.val) :
    amount ≤ policy.last price
      ↔ worth price amount < (policy.caps.max.raw.val + 1) * policy.unit
        ∨ policy.caps.max.raw.val = 2 ^ 256 - 1 := by
  have hamount := amount.val_lt
  rw [last, Amount.le_iff]
  split
  · rename_i hwidest
    exact ⟨fun _ => .inr hwidest, fun _ => Nat.le_pred_of_lt hamount⟩
  · rename_i hcap
    have hunit : 0 < (policy.caps.max.raw.val + 1) * policy.unit :=
      Nat.mul_pos (Nat.succ_pos _) policy.unit_pos
    rw [or_iff_left hcap, Amount.val_saturate, Nat.lt_iff_le_pred hunit, worth,
      ← Nat.le_div_iff_mul_le hprice]
    exact ⟨fun h => h.trans (min_le_left ..), fun h => le_min h (Nat.le_pred_of_lt hamount)⟩

/-! ### What the bounds bound -/

theorem check_of_lt_minNative (hdecimals : policy.nativeDecimals.toNat ≤ 154)
    (hprice : 0 < price.val) (h : amount.val < policy.minNative price) :
    policy.check price amount = .error (.refused
      (.outOfRange (policy.value price amount) policy.caps.min policy.caps.max)) := by
  have hbelow : policy.value price amount < policy.caps.min :=
    (policy.value_below_min_iff price amount).2
      (Nat.lt_of_not_le (mt (minNative_le_iff hprice).2 (Nat.not_le_of_lt h)))
  rw [policy.check_eq_value price amount hdecimals, if_pos (.inl hbelow)]

theorem check_of_le_maxNative (hdecimals : policy.nativeDecimals.toNat ≤ 154)
    (hprice : 0 < price.val)
    (hlow : policy.minNative price ≤ amount.val) (hhigh : amount.val ≤ policy.maxNative price) :
    ∃ usd, policy.check price amount = .ok usd := by
  refine (exists_check_iff hdecimals).2 ⟨(minNative_le_iff hprice).1 hlow, .inl ?_⟩
  have hcap := (le_maxNative_iff hprice).1 hhigh
  have hunit := policy.unit_pos
  rw [Nat.succ_mul]
  omega

/-- A deposit above the upper bound that passes is worth more than the upper cap, and is rounded
down to it. -/
theorem check_of_maxNative_lt (hdecimals : policy.nativeDecimals.toNat ≤ 154)
    (hprice : 0 < price.val) {usd : Usd} (hhigh : policy.maxNative price < amount.val)
    (h : policy.check price amount = .ok usd) : usd = policy.caps.max := by
  obtain ⟨rfl, -, hcap⟩ := (check_eq_ok_iff hdecimals).1 h
  have hmax := policy.caps.max.raw.val_lt
  have hworth : policy.caps.max.raw.val ≤ worth price amount / policy.unit :=
    (Nat.le_div_iff_mul_le policy.unit_pos).2
      (Nat.le_of_not_le (mt (le_maxNative_iff hprice).2 (Nat.not_le_of_lt hhigh)))
  rw [← Nat.div_lt_iff_lt_mul policy.unit_pos] at hcap
  apply Usd.ext
  rw [val_value]
  omega

/-- The deposits that pass are all from the lower bound to the last one. -/
theorem exists_check_iff_between (hdecimals : policy.nativeDecimals.toNat ≤ 154)
    (hprice : 0 < price.val) :
    (∃ usd, policy.check price amount = .ok usd)
      ↔ policy.minNative price ≤ amount.val ∧ amount ≤ policy.last price := by
  rw [exists_check_iff hdecimals, minNative_le_iff hprice, le_last_iff hprice]

/-- At a positive price at which both bounds are amounts, a deposit below the lower one is refused,
one between them passes, and one above the upper one passes only if it is charged as the upper cap
itself. So what passes, if anything does, is an interval that starts at the lower bound. -/
theorem native_bounds_bracket_check (policy : CapPolicy) (price : Amount)
    (hdecimals : policy.nativeDecimals.toNat ≤ 77) (hprice : 0 < price.val)
    (hlow : policy.minNative price < 2 ^ 256) (hhigh : policy.maxNative price < 2 ^ 256) :
    ∃ low high, policy.nativeBounds price = .ok (low, high)
      ∧ low.val = policy.minNative price ∧ high.val = policy.maxNative price
      ∧ (∀ amount, amount < low → policy.check price amount = .error (.refused
        (.outOfRange (policy.value price amount) policy.caps.min policy.caps.max)))
      ∧ (∀ amount, low ≤ amount → amount ≤ high →
        ∃ usd, policy.check price amount = .ok usd)
      ∧ (∀ amount usd, high < amount → policy.check price amount = .ok usd →
        usd = policy.caps.max)
      ∧ ((∃ amount usd, policy.check price amount = .ok usd) →
        ∃ last, low ≤ last ∧ ∀ amount,
          (∃ usd, policy.check price amount = .ok usd) ↔ low ≤ amount ∧ amount ≤ last) := by
  have hvalue : policy.nativeDecimals.toNat ≤ 154 := Nat.le_trans hdecimals (by decide)
  refine ⟨_, _, nativeBounds_eq_ok hdecimals hprice hlow hhigh, rfl, rfl,
    fun _ => check_of_lt_minNative hvalue hprice, fun _ => check_of_le_maxNative hvalue hprice,
    fun _ _ => check_of_maxNative_lt hvalue hprice, ?_⟩
  intro ⟨amount, haccepted⟩
  obtain ⟨habove, hbelow⟩ := (exists_check_iff_between hvalue hprice).1 haccepted
  exact ⟨policy.last price, habove.trans hbelow, fun _ => exists_check_iff_between hvalue hprice⟩

/-- At three units of a dollar value for the whole native coin, neither cap is a whole number of
native units. The first deposit above the upper bound is worth two thirds of the last place more
than the cap, and passes as the cap. -/
theorem samplePolicy_bracketed :
    let price : Amount := ⟨3, by decide⟩
    samplePolicy.nativeDecimals.toNat ≤ 77 ∧ 0 < price.val
      ∧ samplePolicy.minNative price < 2 ^ 256 ∧ samplePolicy.maxNative price < 2 ^ 256
      ∧ ∃ low high above, samplePolicy.nativeBounds price = .ok (low, high)
        ∧ (∃ usd, samplePolicy.check price low = .ok usd)
        ∧ high < above ∧ samplePolicy.check price above = .ok (.ofDollars 10) := by
  intro price
  have hlow : samplePolicy.minNative price = (10 ^ 36 + 2) / 3 := by decide +kernel
  have hhigh : samplePolicy.maxNative price = 10 ^ 37 / 3 := by decide +kernel
  have hlowfits : samplePolicy.minNative price < 2 ^ 256 := hlow ▸ by decide
  have hhighfits : samplePolicy.maxNative price < 2 ^ 256 := hhigh ▸ by decide
  obtain ⟨low, high, hbounds, hlowval, hhighval, -, hbetween, habove, -⟩ :=
    native_bounds_bracket_check samplePolicy price (by decide) (by decide) hlowfits hhighfits
  have hordered : low ≤ high := by
    rw [Amount.le_iff, hlowval, hhighval, hlow, hhigh]
    decide
  obtain ⟨above, hnext⟩ : ∃ above : Amount, above.val = 10 ^ 37 / 3 + 1 := ⟨⟨_, by decide⟩, rfl⟩
  have hhighlt : high < above := by
    rw [Amount.lt_iff, hhighval, hhigh, hnext]
    exact Nat.lt_succ_self _
  have hpasses : samplePolicy.minNative price ≤ above.val ∧ above ≤ samplePolicy.last price := by
    rw [Amount.le_iff, hlow, hnext]
    exact ⟨by decide, by decide +kernel⟩
  obtain ⟨usd, husd⟩ := (exists_check_iff_between (by decide) (by decide)).2 hpasses
  refine ⟨by decide, by decide, hlowfits, hhighfits, low, high, above, hbounds,
    hbetween low (Nat.le_refl _) hordered, hhighlt, ?_⟩
  rw [husd, habove _ _ hhighlt husd]
  rfl

end DepositGate.CapPolicy
