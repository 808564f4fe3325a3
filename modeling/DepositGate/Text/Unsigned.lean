import DepositGate.Text.Decimal

/-!
# Numbers in settings

A setting that is a number is written in decimal, with or without a plus sign, and has to lie below
a limit. Digits are read from the left: the first character that is no digit, or the first digit
that takes the number to the limit, decides what is wrong.
-/

namespace DepositGate.Text

namespace Unsigned

inductive Error where
  | empty
  | badDigit
  | tooLarge
deriving DecidableEq, Repr

def Error.message : Error → String
  | .empty => "cannot parse integer from empty string"
  | .badDigit => "invalid digit found in string"
  | .tooLarge => "number too large to fit in target type"

/-- Reads on with `n` for the number read so far. -/
def ofDigits (limit n : Nat) : List Char → Except Error Nat
  | [] => .ok n
  | c :: rest =>
    if isDigit c then
      let next := Nat.ofDigitChars 10 [c] n
      if next < limit then ofDigits limit next rest else .error .tooLarge
    else .error .badDigit

def ofText (limit : Nat) : List Char → Except Error Nat
  | [] => .error .empty
  | ['+'] => .error .badDigit
  | '+' :: rest => ofDigits limit 0 rest
  | text => ofDigits limit 0 text

/-- Further digits do not make a number smaller. -/
theorem ofDigitChars_ge (text : List Char) (n : Nat) : n ≤ Nat.ofDigitChars 10 text n := by
  induction text generalizing n with
  | nil => exact Nat.le_refl n
  | cons c rest ih =>
    have h := ih (10 * n + (c.toNat - '0'.toNat))
    rw [Nat.ofDigitChars_cons]
    omega

/-- Digits are accepted exactly when the number they denote is below the limit; no digits denote
the number read so far. -/
theorem ofDigits_eq_ok_iff {limit n m : Nat} {text : List Char} (hn : n < limit) :
    ofDigits limit n text = .ok m ↔
      text.all isDigit = true ∧ Nat.ofDigitChars 10 text n = m ∧ m < limit := by
  induction text generalizing n with
  | nil =>
    simp only [ofDigits, Except.ok.injEq, List.all_nil, Nat.ofDigitChars_nil, true_and]
    constructor
    · rintro rfl; exact ⟨rfl, hn⟩
    · exact fun h => h.1
  | cons c rest ih =>
    rw [ofDigits, List.all_cons, Bool.and_eq_true, Nat.ofDigitChars_cons]
    simp only [Nat.ofDigitChars_cons, Nat.ofDigitChars_nil]
    by_cases hc : isDigit c = true
    · rw [if_pos hc, and_iff_right hc]
      by_cases hlt : 10 * n + (c.toNat - '0'.toNat) < limit
      · rw [if_pos hlt, ih hlt]
      · rw [if_neg hlt]
        have hge := ofDigitChars_ge rest (10 * n + (c.toNat - '0'.toNat))
        constructor
        · intro h; cases h
        · rintro ⟨_, h, hm⟩; omega
    · rw [if_neg hc]
      simp [hc]

end Unsigned

end DepositGate.Text
