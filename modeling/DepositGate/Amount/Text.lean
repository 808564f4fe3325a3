import DepositGate.Amount
import DepositGate.Text.Blank
import DepositGate.Text.Unsigned

/-!
# Amounts as text

An amount is written in decimal. In a text that a person wrote, blanks at the ends and underscores
anywhere are passed over; the rest has to be digits. They are read from the left: the first
character that is no digit, or the first digit that takes the number out of range, decides what is
wrong. When nothing remains the amount is zero.
-/

namespace DepositGate.Amount

open DepositGate.Text

inductive TextError where
  | badCharacter
  | tooLong
deriving DecidableEq, Repr

def TextError.label : TextError → String
  | .badCharacter => "InvalidCharacter"
  | .tooLong => "InvalidLength"

/-- What is left of an amount's text once blanks and underscores are passed over. -/
def bareDigits (text : List Char) : List Char :=
  (trim text).filter (· != '_')

def ofDigits (text : List Char) : Except TextError Amount :=
  match Unsigned.ofDigits (2 ^ 256) 0 text with
  | .ok n =>
    match ofNat? n with
    | some a => .ok a
    | none => .error .tooLong
  | .error .tooLarge => .error .tooLong
  | .error _ => .error .badCharacter

def ofText (text : String) : Except TextError Amount :=
  ofDigits (bareDigits text.toList)

theorem toList_toText (a : Amount) : a.toText.toList = digits a.val := by
  simp [toText, digits]

/-- What is accepted is a row of digits of an amount, or nothing at all for zero. -/
theorem ofDigits_eq_ok_iff {text : List Char} {a : Amount} :
    ofDigits text = .ok a ↔ text.all isDigit = true ∧ digitsValue text = a.val := by
  have hread := @Unsigned.ofDigits_eq_ok_iff (2 ^ 256) 0 a.val text (by decide)
  have ha := a.val_lt
  unfold ofDigits
  split
  · rename_i n hn
    obtain ⟨hdigits, hvalue, hlt⟩ := (Unsigned.ofDigits_eq_ok_iff (by decide)).1 hn
    have hsome : ofNat? n = some ⟨n, hlt⟩ := dif_pos hlt
    rw [hsome]
    simp [hdigits, digitsValue, hvalue, Amount.ext_iff]
  all_goals
    rename_i herror
    rw [herror] at hread
    simp only [reduceCtorEq, false_iff, not_and] at hread ⊢
    intro hdigits hvalue
    exact hread hdigits hvalue ha

theorem ofDigits_digits (a : Amount) : ofDigits (digits a.val) = .ok a := by
  simp [ofDigits_eq_ok_iff, digits_all_isDigit]

end DepositGate.Amount
