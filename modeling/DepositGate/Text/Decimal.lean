/-!
# Decimal digits

Natural numbers are written in decimal without leading zeros. Reading is split in two: whether every
character of a text is one of the ten ASCII digits, and which number such digits denote. No digit of
another script counts, and no digits at all denote zero.
-/

namespace DepositGate.Text

def isDigit (c : Char) : Bool :=
  48 ≤ c.toNat && c.toNat ≤ 57

def digits (n : Nat) : List Char :=
  Nat.toDigits 10 n

/-- The number denoted by a row of digits. -/
def digitsValue (text : List Char) : Nat :=
  Nat.ofDigitChars 10 text 0

/-- The digits of `n`, with zeros in front up to `width` of them. -/
def paddedDigits (width n : Nat) : List Char :=
  List.replicate (width - (digits n).length) '0' ++ digits n

@[simp] theorem digitsValue_digits (n : Nat) : digitsValue (digits n) = n :=
  Nat.ofDigitChars_ten_toDigits

theorem isDigit_of_mem_digits {n : Nat} {c : Char} (h : c ∈ digits n) : isDigit c = true := by
  have hc := Nat.isDigit_of_mem_toDigits (by decide) (by decide) h
  simp only [Char.isDigit, Bool.and_eq_true, decide_eq_true_eq, ge_iff_le, UInt32.le_iff_toNat_le]
    at hc
  simp only [isDigit, Bool.and_eq_true, decide_eq_true_eq]
  exact hc

theorem digits_all_isDigit (n : Nat) : (digits n).all isDigit = true :=
  List.all_eq_true.2 fun _ h => isDigit_of_mem_digits h

@[simp] theorem digitsValue_paddedDigits (width n : Nat) :
    digitsValue (paddedDigits width n) = n := by
  simp [digitsValue, paddedDigits, Nat.ofDigitChars_append, Nat.ofDigitChars_replicate_zero,
    digits, Nat.ofDigitChars_ten_toDigits]

end DepositGate.Text
