import DepositGate.Power

/-!
# Binary floating point

Some outputs carry a number in the 64-bit binary format of IEEE 754. Such a number is a significand
below 2^53 times a power of two whose exponent lies between -1074 and 971, and the significand is at
least 2^52 unless the exponent is the least one. Every operation here takes the exact quotient of
two natural numbers and rounds it once, to the nearest such number, a tie going to the even
significand. Signs are kept by the callers: all numbers here are zero or positive.
-/

namespace DepositGate

structure Binary64 where
  significand : Nat
  exponent : Int
deriving DecidableEq, Repr

namespace Binary64

def zero : Binary64 := ⟨0, -1074⟩

instance : Inhabited Binary64 := ⟨zero⟩

def one : Binary64 := ⟨2 ^ 52, -52⟩

def isZero (x : Binary64) : Bool := x.significand == 0

/-- The value is `numerator / denominator`. -/
def numerator (x : Binary64) : Nat := x.significand * 2 ^ x.exponent.toNat

def denominator (x : Binary64) : Nat := 2 ^ (-x.exponent).toNat

/-- The quotient rounded to the nearest natural number, a tie to the even one. -/
def roundedQuotient (num den : Nat) : Nat :=
  let floor := num / den
  let twice := 2 * (num % den)
  if twice < den ∨ (twice = den ∧ floor % 2 = 0) then floor else floor + 1

/-- The exponent `e` with `2^e ≤ num / den < 2^(e+1)`, for a quotient that is not zero. -/
def leadingExponent (num den : Nat) : Int :=
  let guess : Int := (num.log2 : Int) - (den.log2 : Int)
  if num * 2 ^ (-guess).toNat < den * 2 ^ guess.toNat then guess - 1 else guess

/-- The number nearest to `num / den`, or nothing when that is beyond the largest finite one. -/
def ofQuotient? (num den : Nat) : Option Binary64 :=
  if num = 0 then some zero
  else
    let exponent := max (leadingExponent num den - 52) (-1074)
    let significand :=
      roundedQuotient (num * 2 ^ (-exponent).toNat) (den * 2 ^ exponent.toNat)
    let rounded : Binary64 :=
      if significand = 2 ^ 53 then ⟨2 ^ 52, exponent + 1⟩ else ⟨significand, exponent⟩
    if rounded.exponent > 971 then none else some rounded

def ofNat? (n : Nat) : Option Binary64 := ofQuotient? n 1

def add? (x y : Binary64) : Option Binary64 :=
  ofQuotient? (x.numerator * y.denominator + y.numerator * x.denominator)
    (x.denominator * y.denominator)

/-- The number counted up by one. Numbers that are too large for a difference of one stay. -/
def succ (x : Binary64) : Binary64 := (x.add? one).getD x

def mul? (x y : Binary64) : Option Binary64 :=
  ofQuotient? (x.numerator * y.numerator) (x.denominator * y.denominator)

/-- The quotient by a number that is not zero. -/
def div? (x y : Binary64) : Option Binary64 :=
  ofQuotient? (x.numerator * y.denominator) (x.denominator * y.numerator)

/-- The 64 bits of the number: sign, biased exponent, and the significand below its leading bit. -/
def bits (x : Binary64) : Nat :=
  if x.significand < 2 ^ 52 then x.significand
  else (x.exponent + 1075).toNat * 2 ^ 52 + (x.significand - 2 ^ 52)

end Binary64

end DepositGate
