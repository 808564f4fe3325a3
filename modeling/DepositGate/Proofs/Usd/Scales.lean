import DepositGate.Usd

/-!
# Dollar values on coarser scales

Units of a coarser scale are taken to the common one exactly, if their value fits, and a value is
taken to the coarser scale by rounding down. The two maps are adjoint: there are as many units in a
value as it can hold, so units come back unchanged, a value loses less than one unit, and order is
kept both ways. No scale is finer than the common one.
-/

namespace DepositGate.Usd

variable {units small large : Amount} {decimals : UInt8} {usd less more value : Usd}

/-! ### Onto the common scale -/

theorem ofScaled_eq_ok_iff {units : Amount} {decimals : UInt8} {usd : Usd} :
    ofScaled units decimals = .ok usd
      ↔ decimals.toNat ≤ places ∧ usd.raw.val = units.val * 10 ^ (places - decimals.toNat) := by
  unfold ofScaled
  by_cases hfine : places < decimals.toNat
  · simp [if_pos hfine, Nat.not_le_of_lt hfine]
  · rw [if_neg hfine]
    cases hraw : Amount.ofNat? (units.val * 10 ^ (places - decimals.toNat)) with
    | some raw =>
      have hval : raw.val = units.val * 10 ^ (places - decimals.toNat) :=
        Amount.ofNat?_eq_some_iff.1 hraw
      simp [Nat.le_of_not_lt hfine, ← hval, Usd.ext_iff, eq_comm]
    | none =>
      have hlarge := Amount.ofNat?_eq_none_iff.1 hraw
      have hsmall := usd.raw.val_lt
      simp only [reduceCtorEq, false_iff, not_and]
      omega

theorem exists_ofScaled_iff (hplaces : decimals.toNat ≤ places) :
    (∃ usd, ofScaled units decimals = .ok usd)
      ↔ units.val * 10 ^ (places - decimals.toNat) < 2 ^ 256 := by
  constructor
  · rintro ⟨usd, h⟩
    rw [← (ofScaled_eq_ok_iff.1 h).2]
    exact usd.raw.val_lt
  · intro h
    exact ⟨⟨⟨_, h⟩⟩, ofScaled_eq_ok_iff.2 ⟨hplaces, rfl⟩⟩

theorem ofScaled_mono (hsmall : ofScaled small decimals = .ok less)
    (hlarge : ofScaled large decimals = .ok more) (hle : small ≤ large) : less ≤ more := by
  rw [le_iff, (ofScaled_eq_ok_iff.1 hsmall).2, (ofScaled_eq_ok_iff.1 hlarge).2]
  exact Nat.mul_le_mul_right _ hle

/-- Fewer units than those of a value are units of a lesser value. -/
theorem exists_ofScaled_of_le (hlarge : ofScaled large decimals = .ok more) (hle : small ≤ large) :
    ∃ less, ofScaled small decimals = .ok less ∧ less ≤ more := by
  have hplaces := (ofScaled_eq_ok_iff.1 hlarge).1
  have hfits := (exists_ofScaled_iff hplaces).1 ⟨more, hlarge⟩
  obtain ⟨less, hsmall⟩ := (exists_ofScaled_iff hplaces).2
    (Nat.lt_of_le_of_lt (Nat.mul_le_mul_right _ hle) hfits)
  exact ⟨less, hsmall, ofScaled_mono hsmall hlarge hle⟩

theorem ofScaled_of_finer (h : places < decimals.toNat) :
    ofScaled units decimals = .error (.tooFine decimals) :=
  if_pos h

/-! ### Onto a coarser scale -/

@[simp] theorem val_toScaled (value : Usd) (decimals : UInt8) :
    (value.toScaled decimals).val = value.raw.val / 10 ^ (places - decimals.toNat) := rfl

/-- The units that a value rounded down has are all those whose value does not exceed it. -/
theorem le_toScaled_iff : units ≤ value.toScaled decimals
    ↔ units.val * 10 ^ (places - decimals.toNat) ≤ value.raw.val :=
  Nat.le_div_iff_mul_le (Nat.pow_pos (by decide))

theorem toScaled_mono (hle : less ≤ more) (decimals : UInt8) :
    less.toScaled decimals ≤ more.toScaled decimals :=
  Nat.div_le_div_right hle

theorem toScaled_of_finer (h : places < decimals.toNat) : value.toScaled decimals = value.raw := by
  apply Amount.ext
  rw [val_toScaled, Nat.sub_eq_zero_of_le (Nat.le_of_lt h), Nat.pow_zero, Nat.div_one]

/-! ### There and back -/

theorem toScaled_ofScaled (h : ofScaled units decimals = .ok usd) :
    usd.toScaled decimals = units := by
  apply Amount.ext
  rw [val_toScaled, (ofScaled_eq_ok_iff.1 h).2]
  exact Nat.mul_div_cancel _ (Nat.pow_pos (by decide))

theorem le_toScaled_iff_ofScaled_le (h : ofScaled units decimals = .ok usd) :
    units ≤ value.toScaled decimals ↔ usd ≤ value := by
  rw [le_toScaled_iff, ← (ofScaled_eq_ok_iff.1 h).2, le_iff]

/-- Rounded down to a coarser scale, a value loses less than one unit of it. -/
theorem ofScaled_toScaled (hplaces : decimals.toNat ≤ places) (value : Usd) :
    ∃ below, ofScaled (value.toScaled decimals) decimals = .ok below ∧ below ≤ value
      ∧ value.raw.val - below.raw.val < 10 ^ (places - decimals.toNat) := by
  have hunits : (value.toScaled decimals).val * 10 ^ (places - decimals.toNat) ≤ value.raw.val :=
    le_toScaled_iff.1 (Nat.le_refl _)
  obtain ⟨below, hbelow⟩ := (exists_ofScaled_iff hplaces).2
    (Nat.lt_of_le_of_lt hunits value.raw.val_lt)
  have hval := (ofScaled_eq_ok_iff.1 hbelow).2
  have hlost : value.raw.val - below.raw.val
      = value.raw.val % 10 ^ (places - decimals.toNat) := by
    rw [hval, val_toScaled, Nat.mod_eq_sub_div_mul]
  refine ⟨below, hbelow, (le_toScaled_iff_ofScaled_le hbelow).1 (Nat.le_refl _), ?_⟩
  rw [hlost]
  exact Nat.mod_lt _ (Nat.pow_pos (by decide))

/-- Up to the common scale, taking units there and rounding values down are adjoint: the first is
defined wherever the value fits, the second undoes it, and neither turns an order round. -/
theorem scales_are_adjoint (decimals : UInt8) :
    (decimals.toNat ≤ places →
      (∀ units, (∃ usd, ofScaled units decimals = .ok usd)
          ↔ units.val * 10 ^ (places - decimals.toNat) < 2 ^ 256)
        ∧ (∀ units usd, ofScaled units decimals = .ok usd →
          usd.toScaled decimals = units
            ∧ ∀ value : Usd, units ≤ value.toScaled decimals ↔ usd ≤ value)
        ∧ (∀ value : Usd, ∃ below, ofScaled (value.toScaled decimals) decimals = .ok below
          ∧ below ≤ value
          ∧ value.raw.val - below.raw.val < 10 ^ (places - decimals.toNat)))
      ∧ (∀ small large less more, ofScaled small decimals = .ok less →
        ofScaled large decimals = .ok more → small ≤ large → less ≤ more)
      ∧ (∀ less more : Usd, less ≤ more → less.toScaled decimals ≤ more.toScaled decimals)
      ∧ (places < decimals.toNat →
        (∀ units, ofScaled units decimals = .error (.tooFine decimals))
          ∧ ∀ value : Usd, value.toScaled decimals = value.raw) := by
  refine ⟨?_, ?_, ?_, ?_⟩
  · intro hplaces
    refine ⟨fun units => exists_ofScaled_iff hplaces, ?_, ofScaled_toScaled hplaces⟩
    intro units usd h
    exact ⟨toScaled_ofScaled h, fun value => le_toScaled_iff_ofScaled_le h⟩
  · intro small large less more
    exact ofScaled_mono
  · intro less more hle
    exact toScaled_mono hle decimals
  · intro hfiner
    exact ⟨fun units => ofScaled_of_finer hfiner, fun value => toScaled_of_finer hfiner⟩

/-- With eight places the largest amount has units for all but its last ten digits, and of more
units none has a value. With nineteen places none has at all. -/
theorem largest_rescaled :
    let largest : Usd := ⟨.top⟩
    let units := largest.toScaled 8
    (8 : UInt8).toNat ≤ places ∧ places < (19 : UInt8).toNat
      ∧ (∃ below, ofScaled units 8 = .ok below ∧ below < largest ∧ below.toScaled 8 = units)
      ∧ (∀ above, units < above → ¬∃ usd, ofScaled above 8 = .ok usd)
      ∧ ofScaled units 19 = .error (.tooFine 19) := by
  intro largest units
  obtain ⟨hcoarser, -, -, -⟩ := scales_are_adjoint 8
  obtain ⟨-, -, -, hfiner⟩ := scales_are_adjoint 19
  obtain ⟨hexists, hback, hbelow⟩ := hcoarser (by decide)
  obtain ⟨below, hread, -, -⟩ := hbelow largest
  have hunits : units.val = (2 ^ 256 - 1) / 10 ^ 10 := rfl
  have hless : below < largest := by
    rw [lt_iff, (ofScaled_eq_ok_iff.1 hread).2]
    decide
  refine ⟨by decide, by decide, ⟨below, hread, hless, (hback _ _ hread).1⟩, ?_,
    (hfiner (by decide)).1 units⟩
  intro above habove
  rw [hexists]
  show ¬above.val * 10 ^ 10 < 2 ^ 256
  rw [Amount.lt_iff, hunits] at habove
  omega

end DepositGate.Usd
