import DepositGate.Price.Oracle

/-!
# Caps on a single deposit

On the instant route a deposit is worth at least one dollar value and at most another, both bounds
included. The value is taken at the quoted price, and the same bounds can be expressed in native
currency for information.
-/

namespace DepositGate

structure Caps where
  min : Usd
  max : Usd
deriving DecidableEq, Repr

namespace Caps

/-- The bounds are positive and in order. -/
def Valid (caps : Caps) : Prop := caps.min.isZero = false ∧ caps.min ≤ caps.max

instance (caps : Caps) : Decidable caps.Valid := inferInstanceAs (Decidable (_ ∧ _))

def ofBounds (min max : Usd) : Except Refusal Caps :=
  if Valid ⟨min, max⟩ then .ok ⟨min, max⟩ else .error (.invalidCapRange min max)

end Caps

structure CapPolicy where
  caps : Caps
  nativeDecimals : UInt8
deriving DecidableEq, Repr

namespace CapPolicy

def checkUsd (policy : CapPolicy) (usd : Usd) : Except Refusal Unit :=
  if usd < policy.caps.min ∨ policy.caps.max < usd then
    .error (.outOfRange usd policy.caps.min policy.caps.max)
  else .ok ()

/-- The dollar value of a native amount, if it lies within the bounds. -/
def check (policy : CapPolicy) (price amount : Amount) : Except Failure Usd := do
  let usd ← computing (usdValue amount price policy.nativeDecimals)
  refusing (policy.checkUsd usd)
  return usd

/-- A number that has to fit 512 bits. -/
def wide (n : Nat) : Except Fault Nat :=
  if n < 2 ^ 256 * 2 ^ 256 then .ok n else .error .tooLarge

/-- The bounds in native currency at a price, the lower one rounded up and the upper one down. At a
price of zero both are the largest amount. -/
def nativeBounds (policy : CapPolicy) (price : Amount) : Except Fault (Amount × Amount) := do
  let unit ← powerOfTen 256 policy.nativeDecimals.toNat
  if price.isZero then return (.top, .top)
  let least ← wide (policy.caps.min.raw.val * unit)
  let most ← wide (policy.caps.max.raw.val * unit)
  let low ← if least % price.val = 0 then pure (least / price.val)
    else wide (least / price.val + 1)
  return (.saturate low, .saturate (most / price.val))

end CapPolicy

end DepositGate
