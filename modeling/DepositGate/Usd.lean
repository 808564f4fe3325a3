import DepositGate.Amount
import DepositGate.Asset
import DepositGate.Binary64
import DepositGate.Text.Decimal

/-!
# US dollar values

A dollar value is an amount on a fixed scale of 18 decimal places: 10^18 is one dollar. Values on a
coarser scale enter by `ofScaled`, which is exact or refused, and leave by `toScaled`, which drops
what the coarser scale cannot hold.
-/

namespace DepositGate

open DepositGate.Text

structure Usd where
  raw : Amount
deriving DecidableEq, Repr

namespace Usd

/-- Decimal places of a dollar value. -/
def places : Nat := 18

@[ext] theorem ext {a b : Usd} (h : a.raw.val = b.raw.val) : a = b := by
  cases a; cases b; exact congrArg Usd.mk (Amount.ext h)

instance : LE Usd := ⟨fun a b => a.raw ≤ b.raw⟩

instance : LT Usd := ⟨fun a b => a.raw < b.raw⟩

instance (a b : Usd) : Decidable (a ≤ b) := inferInstanceAs (Decidable (a.raw ≤ b.raw))

instance (a b : Usd) : Decidable (a < b) := inferInstanceAs (Decidable (a.raw < b.raw))

theorem le_iff {a b : Usd} : a ≤ b ↔ a.raw.val ≤ b.raw.val := Iff.rfl

theorem lt_iff {a b : Usd} : a < b ↔ a.raw.val < b.raw.val := Iff.rfl

def zero : Usd := ⟨.zero⟩

instance : Inhabited Usd := ⟨zero⟩

def isZero (a : Usd) : Bool := a.raw.isZero

@[simp] theorem isZero_iff {a : Usd} : a.isZero = true ↔ a.raw.val = 0 := Amount.isZero_iff

def add? (a b : Usd) : Option Usd :=
  (a.raw.add? b.raw).map Usd.mk

def ofDollars (dollars : UInt64) : Usd :=
  ⟨dollars.toNat * 10 ^ 18,
    Nat.lt_trans (Nat.mul_lt_mul_of_pos_right dollars.toNat_lt (by decide)) (by decide)⟩

def ofCents (cents : UInt64) : Usd :=
  ⟨cents.toNat * 10 ^ 16,
    Nat.lt_trans (Nat.mul_lt_mul_of_pos_right cents.toNat_lt (by decide)) (by decide)⟩

inductive ScaleError where
  | tooFine (decimals : UInt8)
  | tooLarge
deriving DecidableEq, Repr

def ScaleError.message : ScaleError → String
  | .tooFine decimals => "USD scale of " ++ toString decimals.toNat ++ " decimals exceeds 18"
  | .tooLarge => "USD value overflows"

/-- The value whose last unit is 10^-decimals dollars. -/
def ofScaled (units : Amount) (decimals : UInt8) : Except ScaleError Usd :=
  if places < decimals.toNat then .error (.tooFine decimals)
  else
    match Amount.ofNat? (units.val * 10 ^ (places - decimals.toNat)) with
    | some raw => .ok ⟨raw⟩
    | none => .error .tooLarge

/-- The value in units of 10^-decimals dollars, rounded down. Units finer than a value's own are
taken for its own. -/
def toScaled (a : Usd) (decimals : UInt8) : Amount :=
  ⟨a.raw.val / 10 ^ (places - decimals.toNat),
    Nat.lt_of_le_of_lt (Nat.div_le_self _ _) a.raw.val_lt⟩

/-- The digits after the point: all 18 without the zeros at their end, yet never fewer than two. -/
def fractionDigits (a : Usd) : List Char :=
  let all := paddedDigits 18 (a.raw.val % 10 ^ 18)
  let kept := (all.reverse.dropWhile (· == '0')).reverse
  if kept.length < 2 then all.take 2 else kept

def toText (a : Usd) : String :=
  String.ofList ('$' :: digits (a.raw.val / 10 ^ 18) ++ '.' :: a.fractionDigits)

/-- The value in dollars as a floating-point number, for display. Whole dollars are taken modulo
2^128 and rounded, the rest is rounded and divided, and the two are added. -/
def toDollars (a : Usd) : Binary64 :=
  let nearest (num den : Nat) := (Binary64.ofQuotient? num den).getD .zero
  let whole := nearest (a.raw.val / 10 ^ 18 % 2 ^ 128) 1
  let units := nearest (a.raw.val % 10 ^ 18) 1
  let rest := (units.div? (nearest (10 ^ 18) 1)).getD .zero
  (whole.add? rest).getD .zero

end Usd

end DepositGate
