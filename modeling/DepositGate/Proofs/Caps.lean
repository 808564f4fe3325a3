import DepositGate.Proofs.Price

/-!
# Which deposits the caps admit

The dollar value of a deposit is rounded down before it is compared with the caps, and the caps are
whole numbers of the last unit of a dollar value. So the rounding decides nothing: a deposit passes
exactly if its unrounded value is at least the lower cap and less than one unit above the upper one.

Values from 2^256 up are cut at the largest dollar value, and what is cut compares as that. Every
upper cap below the largest value refuses it. With the largest value itself as the upper cap there
is no upper bound at all, and what the check then returns may be less than the value of the deposit.
-/

namespace DepositGate.CapPolicy

/-- A deposit in units of 10^-decimals of the last unit of a dollar value, without any rounding. -/
def worth (price amount : Amount) : Nat := amount.val * price.val

def unit (policy : CapPolicy) : Nat := 10 ^ policy.nativeDecimals.toNat

theorem unit_pos (policy : CapPolicy) : 0 < policy.unit := Nat.pow_pos (by decide)

/-- The dollar value of a deposit, rounded down and cut at the largest one. -/
def value (policy : CapPolicy) (price amount : Amount) : Usd :=
  ⟨.saturate (worth price amount / policy.unit)⟩

theorem val_value (policy : CapPolicy) (price amount : Amount) :
    (policy.value price amount).raw.val = min (worth price amount / policy.unit) (2 ^ 256 - 1) :=
  Amount.val_saturate _

theorem value_below_min_iff (policy : CapPolicy) (price amount : Amount) :
    policy.value price amount < policy.caps.min
      ↔ worth price amount < policy.caps.min.raw.val * policy.unit := by
  have hmin := policy.caps.min.raw.val_lt
  rw [← Nat.div_lt_iff_lt_mul policy.unit_pos, Usd.lt_iff, val_value]
  omega

theorem value_above_max_iff (policy : CapPolicy) (price amount : Amount) :
    policy.caps.max < policy.value price amount
      ↔ (policy.caps.max.raw.val + 1) * policy.unit ≤ worth price amount
        ∧ policy.caps.max.raw.val ≠ 2 ^ 256 - 1 := by
  have hmax := policy.caps.max.raw.val_lt
  -- What is cut is above every cap but the largest value, as it was before the cut.
  rw [← Nat.le_div_iff_mul_le policy.unit_pos, Usd.lt_iff, val_value]
  omega

theorem check_eq_value (policy : CapPolicy) (price amount : Amount)
    (hdecimals : policy.nativeDecimals.toNat ≤ 154) :
    policy.check price amount
      = if policy.value price amount < policy.caps.min
          ∨ policy.caps.max < policy.value price amount then
          .error (.refused
            (.outOfRange (policy.value price amount) policy.caps.min policy.caps.max))
        else .ok (policy.value price amount) :=
  policy.check_eq price amount hdecimals rfl

/-- A dollar value lies within the caps exactly if the unrounded value does, where the upper cap is
one. -/
theorem within_iff (policy : CapPolicy) (price amount : Amount) :
    ¬(policy.value price amount < policy.caps.min ∨ policy.caps.max < policy.value price amount)
      ↔ policy.caps.min.raw.val * policy.unit ≤ worth price amount
        ∧ (worth price amount < (policy.caps.max.raw.val + 1) * policy.unit
          ∨ policy.caps.max.raw.val = 2 ^ 256 - 1) := by
  rw [value_below_min_iff, value_above_max_iff]
  omega

theorem check_eq_ok_iff {policy : CapPolicy} {price amount : Amount} {usd : Usd}
    (hdecimals : policy.nativeDecimals.toNat ≤ 154) :
    policy.check price amount = .ok usd
      ↔ policy.value price amount = usd
        ∧ policy.caps.min.raw.val * policy.unit ≤ worth price amount
        ∧ (worth price amount < (policy.caps.max.raw.val + 1) * policy.unit
          ∨ policy.caps.max.raw.val = 2 ^ 256 - 1) := by
  rw [← within_iff, policy.check_eq_value price amount hdecimals]
  split
  · rename_i hout
    exact ⟨nofun, fun hwithin => absurd hout hwithin.2⟩
  · rename_i hwithin
    exact ⟨fun husd => ⟨Except.ok.inj husd, hwithin⟩, fun husd => congrArg _ husd.1⟩

theorem exists_check_iff {policy : CapPolicy} {price amount : Amount}
    (hdecimals : policy.nativeDecimals.toNat ≤ 154) :
    (∃ usd, policy.check price amount = .ok usd)
      ↔ policy.caps.min.raw.val * policy.unit ≤ worth price amount
        ∧ (worth price amount < (policy.caps.max.raw.val + 1) * policy.unit
          ∨ policy.caps.max.raw.val = 2 ^ 256 - 1) := by
  constructor
  · intro ⟨_, husd⟩
    exact ((check_eq_ok_iff hdecimals).1 husd).2
  · intro hwithin
    exact ⟨_, (check_eq_ok_iff hdecimals).2 ⟨rfl, hwithin⟩⟩

/-- The check passes exactly the deposits whose unrounded value is within the caps, and all from the
lower cap up if the upper one is the largest dollar value. It returns the value rounded down, cut at
the largest one. Any other deposit is refused as out of range, with the value and the caps. -/
theorem check_exact (policy : CapPolicy) (price amount : Amount)
    (hdecimals : policy.nativeDecimals.toNat ≤ 36) :
    ((∃ usd, policy.check price amount = .ok usd)
      ↔ policy.caps.min.raw.val * policy.unit ≤ worth price amount
        ∧ (worth price amount < (policy.caps.max.raw.val + 1) * policy.unit
          ∨ policy.caps.max.raw.val = 2 ^ 256 - 1))
    ∧ (∀ usd, policy.check price amount = .ok usd →
      usd.raw.val = min (worth price amount / policy.unit) (2 ^ 256 - 1)
        ∧ (worth price amount < (policy.caps.max.raw.val + 1) * policy.unit →
          usd.raw.val = worth price amount / policy.unit))
    ∧ ∀ failure, policy.check price amount = .error failure →
      failure = .refused
        (.outOfRange (policy.value price amount) policy.caps.min policy.caps.max) := by
  have hvalue : policy.nativeDecimals.toNat ≤ 154 := Nat.le_trans hdecimals (by decide)
  refine ⟨exists_check_iff hvalue, ?_, ?_⟩
  · intro usd husd
    obtain ⟨rfl, -⟩ := (check_eq_ok_iff hvalue).1 husd
    refine ⟨policy.val_value price amount, ?_⟩
    intro hbelow
    have hfloor := (Nat.div_lt_iff_lt_mul policy.unit_pos).2 hbelow
    have hmax := policy.caps.max.raw.val_lt
    rw [val_value]
    omega
  · intro failure hfailure
    rw [policy.check_eq_value price amount hvalue] at hfailure
    split at hfailure
    · exact (Except.error.inj hfailure).symm
    · cases hfailure

/-- Caps of one and ten dollars for a native currency of 18 decimal places. -/
def samplePolicy : CapPolicy := ⟨⟨.ofDollars 1, .ofDollars 10⟩, 18⟩

/-- At 2000 dollars, five thousandths are the upper cap. -/
theorem samplePolicy_check : samplePolicy.nativeDecimals.toNat ≤ 36
    ∧ ∃ usd, samplePolicy.check ⟨2000 * 10 ^ 18, by decide⟩ ⟨5 * 10 ^ 15, by decide⟩ = .ok usd
      ∧ usd.raw.val = 10 ^ 19 := by
  obtain ⟨haccepted, hvalue, _⟩ :=
    check_exact samplePolicy ⟨2000 * 10 ^ 18, by decide⟩ ⟨5 * 10 ^ 15, by decide⟩ (by decide)
  obtain ⟨usd, husd⟩ := haccepted.2 (by decide)
  exact ⟨by decide, usd, husd, (hvalue usd husd).2 (by decide)⟩

/-- The widest caps there are. -/
def widestPolicy : CapPolicy := ⟨⟨⟨⟨1, by decide⟩⟩, ⟨.top⟩⟩, 18⟩

/-- A deposit of far more than the largest dollar value passes the widest caps. -/
theorem widestPolicy_passes_cut_value : widestPolicy.caps.Valid
    ∧ widestPolicy.check .top .top = .ok ⟨.top⟩
    ∧ ¬((∃ usd, widestPolicy.check .top .top = .ok usd)
      ↔ widestPolicy.caps.min.raw.val * widestPolicy.unit ≤ worth .top .top
        ∧ worth .top .top < (widestPolicy.caps.max.raw.val + 1) * widestPolicy.unit) := by
  have hpasses : widestPolicy.check .top .top = .ok ⟨.top⟩ := by
    rw [widestPolicy.check_eq .top .top (by decide) rfl]
    rfl
  refine ⟨by decide, hpasses, ?_⟩
  intro hclaim
  exact absurd (hclaim.1 ⟨_, hpasses⟩).2 (by decide +kernel)

end DepositGate.CapPolicy
