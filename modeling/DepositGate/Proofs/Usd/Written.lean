import DepositGate.Proofs.Text.Digits
import DepositGate.Proofs.Text.Pieces
import DepositGate.Usd
import Mathlib.Algebra.Order.Field.Rat
import Mathlib.Data.List.DropRight
import Mathlib.Tactic.FieldSimp

/-!
# Dollar values as text

A dollar value is written as a sign, the whole dollars in decimal, a point and from two to eighteen
further digits, which do not end in a zero unless there are two of them. The number of dollars that
such a text states is the value itself, so no two values are written alike.
-/

namespace DepositGate.Usd

open DepositGate.Text

/-- The number that digits before a point and after it denote. -/
def decimal (whole fraction : List Char) : ℚ :=
  (digitsValue whole : ℚ) + (digitsValue fraction : ℚ) / 10 ^ fraction.length

/-- The number of dollars that a text states: a sign, and digits before and after a point. -/
def statedDollars? : List Char → Option ℚ
  | '$' :: number =>
    match cut? '.' number with
    | some (whole, fraction) =>
      if whole.all isDigit = true ∧ fraction.all isDigit = true then some (decimal whole fraction)
      else none
    | none => none
  | _ => none

/-- The digits before the point have no zero in front of them, and of those after it there are from
two to eighteen, which do not end in a zero beyond the second. -/
structure Proper (whole fraction : List Char) : Prop where
  whole_ne_nil : whole ≠ []
  whole_isDigit : whole.all isDigit = true
  no_leading_zero : whole.head? = some '0' → whole = ['0']
  fraction_isDigit : fraction.all isDigit = true
  two_le_length : 2 ≤ fraction.length
  length_le : fraction.length ≤ places
  no_trailing_zero : 2 < fraction.length → fraction.getLast? ≠ some '0'

/-! ### The digits after the point -/

/-- Either no zeros are left at the end, or only the first two places are. -/
theorem fractionDigits_cases (a : Usd) :
    let all := paddedDigits places (a.raw.val % 10 ^ places)
    let kept := all.rdropWhile (· == '0')
    kept.length < 2 ∧ a.fractionDigits = all.take 2
      ∨ 2 ≤ kept.length ∧ a.fractionDigits = kept := by
  intro all kept
  by_cases hshort : kept.length < 2
  · exact .inl ⟨hshort, if_pos hshort⟩
  · exact .inr ⟨Nat.le_of_not_lt hshort, if_neg hshort⟩

theorem eq_zero_of_mem_rtakeWhile {all : List Char} {c : Char}
    (h : c ∈ all.rtakeWhile (· == '0')) : c = '0' :=
  beq_iff_eq.1 (List.mem_rtakeWhile_imp (p := (· == '0')) h)

/-- Only zeros are left out of the digits after the point. -/
theorem exists_fractionDigits_append (a : Usd) : ∃ count, a.fractionDigits
    ++ List.replicate count '0' = paddedDigits places (a.raw.val % 10 ^ places) := by
  have hcases := a.fractionDigits_cases
  revert hcases
  generalize paddedDigits places (a.raw.val % 10 ^ places) = all
  have hsplit := List.rdropWhile_append_rtakeWhile (p := (· == '0')) (l := all)
  rintro (⟨hshort, hdigits⟩ | ⟨-, hdigits⟩)
  · have hrest : ∀ c ∈ all.drop 2, c = '0' := by
      intro c hc
      rw [← hsplit, List.drop_append, List.drop_eq_nil_of_le (Nat.le_of_lt hshort),
        List.nil_append] at hc
      exact eq_zero_of_mem_rtakeWhile (List.mem_of_mem_drop hc)
    refine ⟨(all.drop 2).length, ?_⟩
    rw [hdigits, ← List.eq_replicate_of_mem hrest, List.take_append_drop]
  · refine ⟨(all.rtakeWhile (· == '0')).length, ?_⟩
    rw [hdigits, ← List.eq_replicate_of_mem fun c => eq_zero_of_mem_rtakeWhile, hsplit]

theorem getLast?_fractionDigits (a : Usd) (h : 2 < a.fractionDigits.length) :
    a.fractionDigits.getLast? ≠ some '0' := by
  rcases a.fractionDigits_cases with ⟨-, hdigits⟩ | ⟨hlong, hdigits⟩
  · rw [hdigits, List.length_take] at h
    omega
  · have hne := List.ne_nil_of_length_pos (Nat.lt_of_lt_of_le Nat.zero_lt_two hlong)
    rw [hdigits, List.getLast?_eq_some_getLast hne]
    intro hlast
    exact List.rdropWhile_last_not _ _ hne (beq_iff_eq.2 (Option.some.inj hlast))

theorem length_padded (a : Usd) :
    (paddedDigits places (a.raw.val % 10 ^ places)).length = places :=
  length_paddedDigits (by decide) (Nat.mod_lt _ (Nat.pow_pos (by decide)))

theorem two_le_length_fractionDigits (a : Usd) : 2 ≤ a.fractionDigits.length := by
  rcases a.fractionDigits_cases with ⟨-, hdigits⟩ | ⟨hlong, hdigits⟩
  · rw [hdigits, List.length_take, length_padded]
    decide
  · rw [hdigits]
    exact hlong

/-- The digits after the point, brought to eighteen places, are the part of the value below a
dollar. -/
theorem fractionDigits_exact (a : Usd) : a.fractionDigits.all isDigit = true
    ∧ a.fractionDigits.length ≤ places
    ∧ digitsValue a.fractionDigits * 10 ^ (places - a.fractionDigits.length)
      = a.raw.val % 10 ^ places := by
  obtain ⟨count, hpadded⟩ := a.exists_fractionDigits_append
  have hdigits := paddedDigits_all_isDigit places (a.raw.val % 10 ^ places)
  have hlength := a.length_padded
  have hvalue := digitsValue_paddedDigits places (a.raw.val % 10 ^ places)
  rw [← hpadded] at hdigits hlength hvalue
  rw [List.all_append, Bool.and_eq_true] at hdigits
  rw [List.length_append, List.length_replicate] at hlength
  rw [digitsValue_append_zeros] at hvalue
  have hcount : count = places - a.fractionDigits.length := by omega
  exact ⟨hdigits.1, by omega, hcount ▸ hvalue⟩

/-! ### The text -/

theorem toList_toText (a : Usd) :
    a.toText.toList = '$' :: digits (a.raw.val / 10 ^ places) ++ '.' :: a.fractionDigits :=
  String.toList_ofList

theorem proper_digits (a : Usd) : Proper (digits (a.raw.val / 10 ^ places)) a.fractionDigits := by
  obtain ⟨hdigits, hlength, -⟩ := a.fractionDigits_exact
  exact {
    whole_ne_nil := Nat.toDigits_ne_nil
    whole_isDigit := digits_all_isDigit _
    no_leading_zero := by
      intro hzero
      have hnone : a.raw.val / 10 ^ places = 0 := by
        by_contra hsome
        exact head?_digits_ne hsome hzero
      rw [hnone]
      rfl
    fraction_isDigit := hdigits
    two_le_length := a.two_le_length_fractionDigits
    length_le := hlength
    no_trailing_zero := a.getLast?_fractionDigits }

theorem statedDollars?_of_proper {whole fraction : List Char} (h : Proper whole fraction) :
    statedDollars? ('$' :: whole ++ '.' :: fraction) = some (decimal whole fraction) := by
  have hpoint : '.' ∉ whole := not_mem_of_all_isDigit h.whole_isDigit rfl
  rw [List.cons_append, statedDollars?, cut?_of_not_mem _ hpoint]
  simp only [h.whole_isDigit, h.fraction_isDigit, and_self, if_true]

/-- The text states the value: its dollars, brought to eighteen places, are what it counts. -/
theorem statedDollars?_toText (a : Usd) :
    ∃ dollars, statedDollars? a.toText.toList = some dollars
      ∧ dollars * 10 ^ places = a.raw.val := by
  refine ⟨_, a.toList_toText ▸ statedDollars?_of_proper a.proper_digits, ?_⟩
  obtain ⟨-, hlength, hvalue⟩ := a.fractionDigits_exact
  have hplaces : (10 : ℚ) ^ places
      = 10 ^ (places - a.fractionDigits.length) * 10 ^ a.fractionDigits.length := by
    rw [← pow_add, Nat.sub_add_cancel hlength]
  have hfraction : (digitsValue a.fractionDigits : ℚ) / 10 ^ a.fractionDigits.length * 10 ^ places
      = (a.raw.val % 10 ^ places : ℕ) := by
    rw [hplaces, ← hvalue]
    push_cast
    field_simp
  rw [decimal, digitsValue_digits, add_mul, hfraction]
  exact_mod_cast Nat.div_add_mod' a.raw.val (10 ^ places)

example : (Usd.ofCents 1205).toText = "$12.05"
    ∧ statedDollars? ['$', '1', '2', '.', '0', '5'] = some (241 / 20) := by decide +kernel

theorem toText_injective : Function.Injective toText := by
  intro a b h
  obtain ⟨dollars, hdollars, ha⟩ := a.statedDollars?_toText
  obtain ⟨same, hsame, hb⟩ := b.statedDollars?_toText
  rw [← h, hdollars, Option.some.injEq] at hsame
  subst hsame
  exact Usd.ext (Nat.cast_injective (ha.symm.trans hb))

/-- A value is written as a sign, its whole dollars, a point and from two to eighteen digits,
without zeros that say nothing. The text states the value exactly, so no two values share one. -/
theorem written_exactly :
    (∀ a : Usd, (∃ whole fraction, a.toText.toList = '$' :: whole ++ '.' :: fraction
        ∧ Proper whole fraction ∧ digitsValue whole = a.raw.val / 10 ^ places)
      ∧ ∃ dollars, statedDollars? a.toText.toList = some dollars
        ∧ dollars * 10 ^ places = a.raw.val)
      ∧ Function.Injective toText := by
  refine ⟨?_, toText_injective⟩
  intro a
  exact ⟨⟨_, _, a.toList_toText, a.proper_digits, digitsValue_digits _⟩, a.statedDollars?_toText⟩

end DepositGate.Usd
