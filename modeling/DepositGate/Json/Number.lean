import DepositGate.Binary64
import DepositGate.Text.Decimal

/-!
# Numbers in JSON

The text of a number is kept as it was written and given a meaning only where a value is wanted. A
whole number below 2^64 is unsigned; a negative one down to -2^63 is signed; all others, and minus
zero, are floating-point numbers. Those are computed from the first digits that fit 64 bits and a
power of ten, so the result may differ from the nearest one in its last place. A number too large
for the floating-point format has no meaning.
-/

namespace DepositGate.Json

open DepositGate.Text

/-- A number as written: a sign, digits, digits after a point, and an exponent. -/
structure NumberText where
  negative : Bool
  whole : List Char
  /-- The digits after the point; a point is always followed by one. -/
  fraction : List Char
  /-- Whether the exponent is negative, and its digits. -/
  exponent : Option (Bool × List Char)
deriving DecidableEq, Repr

namespace NumberText

def ofNat (n : Nat) : NumberText := ⟨false, digits n, [], none⟩

def ofInt (n : Int) : NumberText := ⟨decide (n < 0), digits n.natAbs, [], none⟩

def isWhole (text : NumberText) : Bool := text.fraction.isEmpty && text.exponent.isNone

def toChars (text : NumberText) : List Char :=
  (if text.negative then ['-'] else []) ++ text.whole ++
    (if text.fraction.isEmpty then [] else '.' :: text.fraction) ++
    (match text.exponent with
      | none => []
      | some (negative, power) => 'e' :: (if negative then ['-'] else []) ++ power)

/-- The integer written, for a text with neither point nor exponent. -/
def toInt (text : NumberText) : Int :=
  if text.negative then -(digitsValue text.whole : Int) else (digitsValue text.whole : Int)

end NumberText

/-- What a number stands for. -/
inductive Number where
  | unsigned (n : UInt64)
  /-- The negative number with this absolute value, between 1 and 2^63. -/
  | negative (magnitude : Nat)
  | float (negative : Bool) (x : Binary64)
deriving DecidableEq, Repr

namespace Number

/-- The number that leading digits denote as long as it is below 2^64, and the digits left over. -/
def takeDigits (n : Nat) : List Char → Nat × List Char
  | [] => (n, [])
  | c :: rest =>
    let next := Nat.ofDigitChars 10 [c] n
    if next < 2 ^ 64 then takeDigits next rest else (n, c :: rest)

/-- `significand * 10^exponent`, or nothing if that is too large. Ten to the power and the product
or quotient are each rounded; powers beyond 10^-308 are applied in several steps. -/
def scaled? : Nat → Binary64 → Int → Option Binary64
  | 0, _, _ => some .zero
  | fuel + 1, x, exponent =>
    if exponent.natAbs ≤ 308 then
      match Binary64.ofNat? (10 ^ exponent.natAbs) with
      | none => none
      | some power => if 0 ≤ exponent then x.mul? power else x.div? power
    else if x.isZero then some x
    else if 0 ≤ exponent then none
    else
      match (Binary64.ofNat? (10 ^ 308)).bind x.div? with
      | none => none
      | some y => scaled? fuel y (exponent + 308)

/-- The floating-point number that a text stands for, its sign apart. -/
def magnitude? (text : NumberText) : Option Binary64 :=
  let whole := takeDigits 0 text.whole
  let all := takeDigits whole.1 text.fraction
  let shift : Int := whole.2.length - (text.fraction.length - all.2.length : Nat)
  match Binary64.ofNat? all.1, text.exponent with
  | none, _ => none
  | some x, none => scaled? 5 x shift
  | some x, some (down, power) =>
    if digitsValue power ≤ 2 ^ 31 - 1 then
      scaled? 5 x (if down then shift - digitsValue power else shift + digitsValue power)
    else if down ∨ x.isZero then some .zero
    else none

/-- The meaning of a number, if it has one. -/
def ofText? (text : NumberText) : Option Number :=
  let n := digitsValue text.whole
  if text.isWhole && !text.negative && decide (n < 2 ^ 64) then some (unsigned (UInt64.ofNat n))
  else if text.isWhole && text.negative && decide (0 < n ∧ n ≤ 2 ^ 63) then some (negative n)
  else (magnitude? text).map (float text.negative)

end Number

end DepositGate.Json
