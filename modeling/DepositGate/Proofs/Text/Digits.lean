import DepositGate.Text.Decimal

/-!
# Rows of digits

The digits of a number do not start with a zero, unless the number is zero. Zeros in front of a row
of digits leave its number, and each zero at its end makes the number ten times as large.
-/

namespace DepositGate.Text

theorem digits_eq_cons (n : Nat) : ∃ d ds, digits n = d :: ds ∧ isDigit d = true := by
  obtain ⟨d, ds, hds⟩ := List.exists_cons_of_ne_nil (l := digits n) Nat.toDigits_ne_nil
  exact ⟨d, ds, hds, isDigit_of_mem_digits (n := n) (by simp [hds])⟩

theorem ne_of_isDigit {d : Char} (hd : isDigit d = true) (c : Char) (hc : isDigit c = false) :
    d ≠ c := by
  rintro rfl
  rw [hd] at hc
  cases hc

theorem head?_digits_ne {n : Nat} (h : n ≠ 0) : (digits n).head? ≠ some '0' := by
  induction n using Nat.strongRecOn with
  | ind n ih =>
    by_cases hsmall : n < 10
    · rw [digits, Nat.toDigits_of_lt_base hsmall]
      simpa [Nat.digitChar_eq_zero] using h
    · have hfront := ih (n / 10) (by omega) (by omega)
      rw [digits, Nat.toDigits_of_base_le (by decide) (by omega)]
      intro hhead
      rw [List.head?_append, Option.or_eq_some_iff] at hhead
      rcases hhead with hzero | ⟨hnil, -⟩
      · exact hfront hzero
      · exact Nat.toDigits_ne_nil (List.head?_eq_none_iff.1 hnil)

theorem not_mem_of_all_isDigit {text : List Char} (h : text.all isDigit = true) {c : Char}
    (hc : isDigit c = false) : c ∉ text := by
  intro hmem
  rw [List.all_eq_true.1 h c hmem] at hc
  cases hc

theorem digitsValue_append_zeros (text : List Char) (count : Nat) :
    digitsValue (text ++ List.replicate count '0') = digitsValue text * 10 ^ count := by
  rw [digitsValue, Nat.ofDigitChars_append, Nat.ofDigitChars_replicate_zero, Nat.mul_comm,
    digitsValue]

theorem paddedDigits_all_isDigit (width n : Nat) : (paddedDigits width n).all isDigit = true := by
  rw [paddedDigits, List.all_append, digits_all_isDigit, Bool.and_true, List.all_eq_true]
  intro c hc
  rw [List.eq_of_mem_replicate hc]
  rfl

/-- A number that has no more digits than there are places fills all of them. -/
theorem length_paddedDigits {width n : Nat} (hwidth : 0 < width) (h : n < 10 ^ width) :
    (paddedDigits width n).length = width := by
  have hle : (digits n).length ≤ width := (Nat.length_toDigits_le_iff (by decide) hwidth).2 h
  rw [paddedDigits, List.length_append, List.length_replicate]
  omega

end DepositGate.Text
