import DepositGate.Config
import DepositGate.Config.Thresholds
import DepositGate.Text.Unsigned

/-!
# Configuration from the environment

Each setting may be given by a variable of the environment; a setting whose variable is absent keeps
its standard value. The scale of the dollar amounts is read first, and the standard bounds of a
deposit are carried over to it before the variables for the bounds are read. The first variable
without a meaning ends the reading, and what was read is validated at the end.
-/

namespace DepositGate

open DepositGate.Text

inductive Setting where
  | usdDecimals
  | minCap
  | maxCap
  | blockCap
  | nativeDecimals
  | epochDuration
  | stalePeriod
  | gracePeriod
  | thresholds
deriving DecidableEq, Repr

namespace Setting

/-- The variable that gives a setting. -/
def name : Setting → String
  | usdDecimals => "PG_USD_DECIMALS"
  | minCap => "PG_MIN_CAP_USD"
  | maxCap => "PG_MAX_CAP_USD"
  | blockCap => "PG_BLOCK_CAP_USD"
  | nativeDecimals => "PG_NATIVE_DECIMALS"
  | epochDuration => "PG_EPOCH_DURATION_SECS"
  | stalePeriod => "PG_ORACLE_STALE_PERIOD_SECS"
  | gracePeriod => "PG_SEQUENCER_GRACE_PERIOD_SECS"
  | thresholds => "PG_TOKEN_THRESHOLDS"

def all : List Setting :=
  [usdDecimals, minCap, maxCap, blockCap, nativeDecimals, epochDuration, stalePeriod, gracePeriod,
    thresholds]

/-- Why the text of a setting has no meaning. -/
inductive Error where
  | number (why : Unsigned.Error)
  | amount (why : Amount.TextError)
  | thresholds (why : Thresholds.Error)
deriving DecidableEq, Repr

def Error.message : Error → String
  | .number why => why.message
  | .amount why => why.label
  | .thresholds why => why.message

end Setting

/-- The text of each setting that is given. -/
abbrev Environment := Setting → Option String

namespace Environment

/-- Reads one setting by `read`, if it is given. -/
def setting {α : Type} (environment : Environment) (setting : Setting)
    (read : String → Except Setting.Error α) : Except (Setting × Setting.Error) (Option α) :=
  match environment setting with
  | none => .ok none
  | some text =>
    match read text with
    | .ok value => .ok (some value)
    | .error why => .error (setting, why)

def numberOfText (limit : Nat) (text : String) : Except Setting.Error Nat :=
  match Unsigned.ofText limit (trim text.toList) with
  | .ok n => .ok n
  | .error why => .error (.number why)

def byteOfText (text : String) : Except Setting.Error UInt8 :=
  (numberOfText 256 text).map UInt8.ofNat

def secondsOfText (text : String) : Except Setting.Error UInt64 :=
  (numberOfText (2 ^ 64) text).map UInt64.ofNat

def amountOfText (text : String) : Except Setting.Error Amount :=
  match Amount.ofText text with
  | .ok amount => .ok amount
  | .error why => .error (.amount why)

def thresholdsOfText (text : String) : Except Setting.Error (SortedMap Asset Amount) :=
  match Thresholds.ofText text with
  | .ok thresholds => .ok thresholds
  | .error why => .error (.thresholds why)

/-- The standard configuration with the bounds of a deposit on a given scale. -/
def standardOn (decimals : UInt8) : Config :=
  { Config.standard with
    minCap := (Usd.mk Config.standard.minCap).toScaled decimals
    maxCap := (Usd.mk Config.standard.maxCap).toScaled decimals
    usdDecimals := decimals }

/-- The configuration that an environment describes, valid or not. -/
def config (environment : Environment) : Except (Setting × Setting.Error) Config := do
  let decimals ← environment.setting .usdDecimals byteOfText
  let base := match decimals with
    | some decimals => standardOn decimals
    | none => Config.standard
  let minCap ← environment.setting .minCap amountOfText
  let maxCap ← environment.setting .maxCap amountOfText
  let blockCap ← environment.setting .blockCap amountOfText
  let nativeDecimals ← environment.setting .nativeDecimals byteOfText
  let epochDuration ← environment.setting .epochDuration secondsOfText
  let stalePeriod ← environment.setting .stalePeriod secondsOfText
  let gracePeriod ← environment.setting .gracePeriod secondsOfText
  let thresholds ← environment.setting .thresholds thresholdsOfText
  return {
    minCap := minCap.getD base.minCap
    maxCap := maxCap.getD base.maxCap
    blockCap := blockCap.getD base.blockCap
    usdDecimals := base.usdDecimals
    nativeDecimals := nativeDecimals.getD base.nativeDecimals
    epochDuration := epochDuration.getD base.epochDuration
    thresholds := thresholds.getD base.thresholds
    stalePeriod := stalePeriod.getD base.stalePeriod
    gracePeriod := gracePeriod.getD base.gracePeriod }

end Environment

end DepositGate
