import DepositGate.Caps
import DepositGate.Proofs.Outcome

/-!
# Prices without faults

A quote is given or refused, whatever is read from a feed. The powers of ten on the way fit the
widths they are computed in: a feed that passes has at most 18 decimal places, and a configured
native currency at most 36. Dollar values could be had for up to 154, and bounds in native currency
for up to 77. Products of two amounts fit twice the width of an amount, and so do the bounds in
native currency before they are cut, at any price.
-/

namespace DepositGate

theorem powerOfTen_eq_ok {bits exponent limit : Nat} (hle : exponent ≤ limit)
    (hfits : 10 ^ limit < 2 ^ bits) : powerOfTen bits exponent = .ok (10 ^ exponent) :=
  if_pos (Nat.lt_of_le_of_lt (Nat.pow_le_pow_right (by decide) hle) hfits)

theorem usdValue_eq (amount price : Amount) {nativeDecimals : UInt8}
    (hdecimals : nativeDecimals.toNat ≤ 154) : usdValue amount price nativeDecimals
      = .ok ⟨.saturate (amount.val * price.val / 10 ^ nativeDecimals.toNat)⟩ := by
  rw [usdValue, powerOfTen_eq_ok hdecimals (by decide +kernel)]
  rfl

/-- Whatever a feed and a sequencer tell, the price is accepted or refused. -/
theorem Oracle.faultless_accept (gate : Option SequencerGate) (reading : Reading)
    (window now : UInt64) : Faultless (Oracle.accept gate reading window now) := by
  apply (faultless_refusing _).bind
  intro _ _
  apply (faultless_refusing _).bind
  intro round _
  apply (faultless_refusing _).bind
  intro _ _
  apply (faultless_refusing _).bind
  intro decimals _
  have hfactor := powerOfTen_eq_ok (Nat.sub_le 18 decimals.toNat) (show 10 ^ 18 < 2 ^ 256 by decide)
  apply (faultless_computing ⟨_, hfactor⟩).bind
  intro factor _
  exact faultless_ok _

theorem Oracle.faultless_quote (oracle : Oracle) (now : UInt64) : Faultless (oracle.quote now) :=
  faultless_accept _ _ _ _

/-- The check of a policy is the check of the dollar value, which there always is. -/
theorem CapPolicy.check_eq (policy : CapPolicy) (price amount : Amount)
    (hdecimals : policy.nativeDecimals.toNat ≤ 154) {usd : Usd}
    (husd : usd = ⟨.saturate (amount.val * price.val / 10 ^ policy.nativeDecimals.toNat)⟩) :
    policy.check price amount
      = if usd < policy.caps.min ∨ policy.caps.max < usd then
          .error (.refused (.outOfRange usd policy.caps.min policy.caps.max))
        else .ok usd := by
  rw [check, usdValue_eq amount price hdecimals, ← husd]
  show (refusing (policy.checkUsd usd) >>= fun _ => Except.ok usd) = _
  rw [checkUsd]
  split <;> rfl

theorem CapPolicy.faultless_check (policy : CapPolicy) (price amount : Amount)
    (hdecimals : policy.nativeDecimals.toNat ≤ 36) : Faultless (policy.check price amount) := by
  rw [policy.check_eq price amount (Nat.le_trans hdecimals (by decide)) rfl]
  split
  · exact faultless_refused _
  · exact faultless_ok _

theorem CapPolicy.wide_eq_ok {n : Nat} (h : n < 2 ^ 256 * 2 ^ 256) : wide n = .ok n := if_pos h

theorem CapPolicy.wide_product (a b : Amount) : wide (a.val * b.val) = .ok (a.val * b.val) :=
  wide_eq_ok (Nat.mul_lt_mul'' a.val_lt b.val_lt)

/-- The bounds in native currency: there always are some, the lower one rounded up. -/
theorem CapPolicy.nativeBounds_eq (policy : CapPolicy) (price : Amount)
    (hdecimals : policy.nativeDecimals.toNat ≤ 77) :
    let least := policy.caps.min.raw.val * 10 ^ policy.nativeDecimals.toNat
    let most := policy.caps.max.raw.val * 10 ^ policy.nativeDecimals.toNat
    policy.nativeBounds price
      = .ok (if price.isZero then (.top, .top) else
          (.saturate (if least % price.val = 0 then least / price.val else least / price.val + 1),
            .saturate (most / price.val))) := by
  intro least most
  have hunit : powerOfTen 256 policy.nativeDecimals.toNat = .ok _ :=
    powerOfTen_eq_ok hdecimals (by decide +kernel)
  have hscaled : ∀ cap : Usd,
      cap.raw.val * 10 ^ policy.nativeDecimals.toNat + 1 < 2 ^ 256 * 2 ^ 256 := by
    intro cap
    calc cap.raw.val * 10 ^ policy.nativeDecimals.toNat + 1
        ≤ 2 ^ 256 * 10 ^ 77 + 1 := Nat.add_le_add_right
          (Nat.mul_le_mul (Nat.le_of_lt cap.raw.val_lt)
            (Nat.pow_le_pow_right (by decide) hdecimals)) 1
      _ < 2 ^ 256 * 2 ^ 256 := by decide +kernel
  have hleast : wide least = .ok least := wide_eq_ok (Nat.lt_of_succ_lt (hscaled _))
  have hmost : wide most = .ok most := wide_eq_ok (Nat.lt_of_succ_lt (hscaled _))
  have hround : wide (least / price.val + 1) = .ok (least / price.val + 1) :=
    wide_eq_ok (Nat.lt_of_le_of_lt (Nat.succ_le_succ (Nat.div_le_self _ _)) (hscaled _))
  rw [nativeBounds, hunit]
  change (if price.isZero then Except.ok (Amount.top, Amount.top) else
    wide least >>= fun least => wide most >>= fun most =>
      if least % price.val = 0 then _ else wide (least / price.val + 1) >>= _) = _
  rw [hleast, hmost]
  change (if price.isZero then Except.ok (Amount.top, Amount.top) else
    if least % price.val = 0 then _ else wide (least / price.val + 1) >>= _) = _
  rw [hround]
  cases price.isZero with
  | true => rfl
  | false =>
    by_cases hexact : least % price.val = 0
    · simp only [if_pos hexact]
      rfl
    · simp only [if_neg hexact]
      rfl

end DepositGate
