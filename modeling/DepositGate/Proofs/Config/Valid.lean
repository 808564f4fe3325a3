import DepositGate.Config.Load
import DepositGate.Proofs.Outcome
import DepositGate.Proofs.Usd.Scales

/-!
# Valid configurations

The amounts of a configuration are numbers on its scale, and a number that the common scale can hold
is taken to it exactly. Of a valid configuration both bounds are such numbers, since the greater one
is checked, and they are bounds of a deposit there as well.
-/

namespace DepositGate

namespace Config

theorem usd_eq_ok_iff {config : Config} {units : Amount} {usd : Usd} :
    config.usd units = .ok usd ↔ Usd.ofScaled units config.usdDecimals = .ok usd := by
  unfold Config.usd
  cases Usd.ofScaled units config.usdDecimals <;> simp

theorem validated_eq_ok_iff {config other : Config} :
    config.validated = .ok other ↔ config.validate = .ok () ∧ config = other := by
  unfold validated
  cases config.validate <;> simp

theorem validate_of_scale {config : Config} (h : config.usdDecimals ≠ 8 ∧ config.usdDecimals ≠ 18) :
    config.validate = .error (.usdDecimals config.usdDecimals) := by
  rw [validate, if_pos h]

/-- What a valid configuration fulfils. -/
structure Valid (config : Config) : Prop where
  scale : config.usdDecimals = 8 ∨ config.usdDecimals = 18
  nativeDecimals : config.nativeDecimals ≤ maxNativeDecimals
  minCap : config.minCap.isZero = false
  order : config.minCap ≤ config.maxCap
  maxCap : ∃ usd, config.usd config.maxCap = .ok usd
  blockCap : ∃ usd, config.usd config.blockCap = .ok usd

theorem valid_of_validate {config : Config} (h : config.validate = .ok ()) : config.Valid := by
  rw [validate] at h
  split at h
  · cases h
  rename_i hscale
  split at h
  · cases h
  rename_i hnative
  split at h
  · cases h
  rename_i hcaps
  obtain ⟨max, hmax, h⟩ := bind_eq_ok_iff.1 h
  obtain ⟨block, hblock, -⟩ := bind_eq_ok_iff.1 h
  simp only [not_or, Bool.not_eq_true] at hcaps
  exact {
    scale := Decidable.or_iff_not_not_and_not.2 hscale
    nativeDecimals := UInt8.not_lt.1 hnative
    minCap := hcaps.1
    order := Nat.le_of_not_lt hcaps.2
    maxCap := ⟨max, hmax⟩
    blockCap := ⟨block, hblock⟩ }

theorem Valid.validate_eq_ok {config : Config} (h : config.Valid) : config.validate = .ok () := by
  obtain ⟨max, hmax⟩ := h.maxCap
  obtain ⟨block, hblock⟩ := h.blockCap
  have hscale : ¬(config.usdDecimals ≠ 8 ∧ config.usdDecimals ≠ 18) :=
    Decidable.or_iff_not_not_and_not.1 h.scale
  have hnative : ¬maxNativeDecimals < config.nativeDecimals := UInt8.not_lt.2 h.nativeDecimals
  have hcaps : ¬(config.minCap.isZero ∨ config.maxCap < config.minCap) := by
    rintro (hzero | hless)
    · rw [h.minCap] at hzero
      cases hzero
    · exact Nat.not_le_of_lt hless h.order
  rw [validate, if_neg hscale, if_neg hnative, if_neg hcaps, hmax, hblock]
  rfl

theorem validate_eq_ok_iff {config : Config} : config.validate = .ok () ↔ config.Valid :=
  ⟨valid_of_validate, Valid.validate_eq_ok⟩

/-- A valid configuration has bounds of a deposit, which are its own on the common scale. -/
theorem Valid.caps_eq {config : Config} (h : config.Valid) : ∃ caps, config.caps = .ok caps
    ∧ config.usd config.minCap = .ok caps.min ∧ config.usd config.maxCap = .ok caps.max := by
  obtain ⟨max, hmax⟩ := h.maxCap
  obtain ⟨min, hscaled, hle⟩ := Usd.exists_ofScaled_of_le (usd_eq_ok_iff.1 hmax) h.order
  have hmin : config.usd config.minCap = .ok min := usd_eq_ok_iff.2 hscaled
  have hpositive : min.raw.val ≠ 0 := by
    rw [(Usd.ofScaled_eq_ok_iff.1 hscaled).2]
    have hunits := Amount.isZero_eq_false_iff.1 h.minCap
    have hpower : 10 ^ (Usd.places - config.usdDecimals.toNat) ≠ 0 := by simp
    exact Nat.mul_ne_zero hunits hpower
  have hbounds : Caps.ofBounds min max = .ok ⟨min, max⟩ :=
    if_pos ⟨Amount.isZero_eq_false_iff.2 hpositive, hle⟩
  refine ⟨⟨min, max⟩, ?_, hmin, hmax⟩
  refine bind_eq_ok_iff.2 ⟨min, hmin, bind_eq_ok_iff.2 ⟨max, hmax, ?_⟩⟩
  rw [hbounds]
  rfl

end Config

end DepositGate
