import DepositGate.Binary64
import DepositGate.Text.Decimal

/-!
# Shortest decimal text of a floating-point number

A binary number is shown with the fewest decimal digits that read back as the same number, and of
all such decimals the nearest to it; where two are equally near, a rule for ties decides. Each grid
of decimals with one, two, … seventeen digits is tried in turn: the number's two neighbours on the
grid are compared with the interval of reals that round to it, whose ends belong to it exactly when
its significand is even.
-/

namespace DepositGate.Binary64

open DepositGate.Text

/-- The number of digits before the decimal point; for numbers below one, minus the zeros after it.
The number lies in `[10^(p-1), 10^p)`. -/
def decimalPoint (x : Binary64) : Int :=
  let num := x.numerator
  let den := x.denominator
  if den ≤ num then (digits (num / den)).length
  else
    let places := (digits (den / num)).length
    if num * 10 ^ (places - 1) = den then 2 - (places : Int) else 1 - (places : Int)

/-- Compares `decimal * 10^scale` with `quarters * 2^(x.exponent - 2)`, quarter units of `x`. -/
def compareToQuarters (x : Binary64) (decimal : Nat) (scale : Int) (quarters : Nat) : Ordering :=
  let exponent := x.exponent - 2
  compare (decimal * 10 ^ scale.toNat * 2 ^ (-exponent).toNat)
    (quarters * 2 ^ exponent.toNat * 10 ^ (-scale).toNat)

/-- Whether `decimal * 10^scale` is among the reals that round to `x`. -/
def roundsTo (x : Binary64) (decimal : Nat) (scale : Int) : Bool :=
  let below := if x.significand = 2 ^ 52 ∧ x.exponent > -1074 then 1 else 2
  let low := x.compareToQuarters decimal scale (4 * x.significand - below)
  let high := x.compareToQuarters decimal scale (4 * x.significand + 2)
  if x.significand % 2 = 0 then low != .lt && high != .gt else low == .gt && high == .lt

/-- Which of two equally near decimals is taken. -/
inductive Tie where
  /-- The one whose last digit is even. -/
  | even
  /-- The larger one. -/
  | up
deriving DecidableEq, Repr

def Tie.takesLower (tie : Tie) (lower : Nat) : Bool :=
  match tie with
  | even => lower % 2 == 0
  | up => false

/-- The better of the two decimals next to `x` with `count` digits, if one of them rounds to it. -/
def onGrid? (tie : Tie) (x : Binary64) (count : Nat) : Option (Nat × Int) :=
  let scale := x.decimalPoint - count
  let num := x.numerator * 10 ^ (-scale).toNat
  let den := x.denominator * 10 ^ scale.toNat
  let floor := num / den
  let twice := 2 * (num % den)
  let floorFirst := twice < den ∨ (twice = den ∧ tie.takesLower floor)
  let candidates := if floorFirst then [floor, floor + 1] else [floor + 1, floor]
  (candidates.find? fun decimal => x.roundsTo decimal scale).map fun decimal => (decimal, scale)

/-- Moves zeros at the end of the digits into the scale. -/
def withoutTrailingZeros : Nat → Nat × Int → Nat × Int
  | 0, decimal => decimal
  | fuel + 1, (decimal, scale) =>
    if decimal % 10 = 0 ∧ decimal ≠ 0 then withoutTrailingZeros fuel (decimal / 10, scale + 1)
    else (decimal, scale)

/-- Digits and scale `(d, k)` of the decimal `d * 10^k` that `x` is shown as. -/
def shortest (tie : Tie) (x : Binary64) : Nat × Int :=
  if x.isZero then (0, 0)
  else
    match (List.range 17).findSome? fun count => x.onGrid? tie (count + 1) with
    | some decimal => withoutTrailingZeros 20 decimal
    | none => (x.numerator / x.denominator, 0)

/-- A decimal written without an exponent; a whole number has no point. -/
def positional (decimal : Nat) (scale : Int) : List Char :=
  let ds := digits decimal
  if 0 ≤ scale then
    if decimal = 0 then ds else ds ++ List.replicate scale.toNat '0'
  else
    let places := (-scale).toNat
    if places < ds.length then
      ds.take (ds.length - places) ++ '.' :: ds.drop (ds.length - places)
    else '0' :: '.' :: (List.replicate (places - ds.length) '0' ++ ds)

/-- The text without an exponent, however many zeros that takes. Ties go up. -/
def plainText (x : Binary64) : String :=
  let (decimal, scale) := x.shortest .up
  String.ofList (positional decimal scale)

/-- The text that always shows a point or an exponent. Numbers from 10^-5 up to 10^16 have a point;
others have one digit before the point, and an exponent with a sign. Ties go to the even digit. -/
def pointedText (x : Binary64) : String :=
  let (decimal, scale) := x.shortest .even
  let ds := digits decimal
  let leading : Int := ds.length + scale - 1
  if -5 ≤ leading ∧ leading ≤ 15 then
    let text := positional decimal scale
    String.ofList (if text.contains '.' then text else text ++ ['.', '0'])
  else
    let fraction := ds.drop 1
    let mantissa := ds.take 1 ++ (if fraction.isEmpty then [] else '.' :: fraction)
    let sign := if leading < 0 then '-' else '+'
    String.ofList (mantissa ++ 'e' :: sign :: digits leading.natAbs)

end DepositGate.Binary64
