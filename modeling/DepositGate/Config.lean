import DepositGate.Caps
import DepositGate.SortedMap

/-!
# Configuration

A configuration holds the limits that a gateway starts with. Its dollar amounts are on a scale of
their own, of 18 or of 8 decimal places, and are brought to the common scale where they are used. A
configuration is valid if both scales are supported, the bounds of a deposit are positive and in
order, and the amounts fit the common scale.
-/

namespace DepositGate

structure Config where
  minCap : Amount
  maxCap : Amount
  /-- The budget of a block; zero turns it off. -/
  blockCap : Amount
  /-- The decimal places of the three amounts above. -/
  usdDecimals : UInt8
  nativeDecimals : UInt8
  /-- The length of an epoch in seconds; zero turns epoch limits off. -/
  epochDuration : UInt64
  thresholds : SortedMap Asset Amount
  /-- The greatest age of a price in seconds; zero is no limit. -/
  stalePeriod : UInt64
  /-- How long a sequencer has to be up before prices count. -/
  gracePeriod : UInt64
deriving DecidableEq, Repr

namespace Config

/-- From one dollar to ten for a deposit, no block budget, no epoch limits. -/
def standard : Config where
  minCap := (Usd.ofDollars 1).raw
  maxCap := (Usd.ofDollars 10).raw
  blockCap := .zero
  usdDecimals := 18
  nativeDecimals := 18
  epochDuration := 0
  thresholds := .empty
  stalePeriod := 3600
  gracePeriod := 3600

instance : Inhabited Config := ⟨standard⟩

/-- The greatest number of decimal places of the native currency. -/
def maxNativeDecimals : UInt8 := 36

/-- Why a configuration is not valid. -/
inductive Flaw where
  | usdDecimals (decimals : UInt8)
  | nativeDecimals (decimals : UInt8)
  | capRange (min max : Amount)
  | badScale (why : Usd.ScaleError)
deriving DecidableEq, Repr

def Flaw.message : Flaw → String
  | .usdDecimals decimals =>
    "Unsupported USD scale: " ++ toString decimals.toNat ++ " decimals (expected 8 or 18)"
  | .nativeDecimals decimals =>
    "Unsupported native decimals: " ++ toString decimals.toNat ++ " (max " ++
      toString maxNativeDecimals.toNat ++ ")"
  | .capRange min max =>
    "Invalid cap range: min " ++ min.toText ++ " max " ++ max.toText ++ " (need 0 < min <= max)"
  | .badScale why =>
    "Invalid value for usd amount: " ++ (Refusal.invalidInput (.badScale why)).message

/-- A dollar amount of the configuration on the common scale. -/
def usd (config : Config) (units : Amount) : Except Flaw Usd :=
  match Usd.ofScaled units config.usdDecimals with
  | .ok usd => .ok usd
  | .error why => .error (.badScale why)

def validate (config : Config) : Except Flaw Unit :=
  if config.usdDecimals ≠ 8 ∧ config.usdDecimals ≠ 18 then
    .error (.usdDecimals config.usdDecimals)
  else if maxNativeDecimals < config.nativeDecimals then
    .error (.nativeDecimals config.nativeDecimals)
  else if config.minCap.isZero ∨ config.maxCap < config.minCap then
    .error (.capRange config.minCap config.maxCap)
  else do
    let _ ← config.usd config.maxCap
    let _ ← config.usd config.blockCap
    return ()

/-- The bounds of a deposit on the common scale. -/
def caps (config : Config) : Except Flaw Caps := do
  let min ← config.usd config.minCap
  let max ← config.usd config.maxCap
  match Caps.ofBounds min max with
  | .ok caps => return caps
  | .error _ => .error (.capRange config.minCap config.maxCap)

/-- The budget of a block on the common scale. -/
def blockBudget (config : Config) : Except Flaw Usd := config.usd config.blockCap

end Config

end DepositGate
