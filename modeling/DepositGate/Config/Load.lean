import DepositGate.Config.Environment
import DepositGate.Json.Values

/-!
# Loading a configuration

A configuration comes from the environment, from a JSON text or from a file with such a text, and is
validated before it is handed out. In JSON all settings may be left out and then have their standard
values as they are, whatever the scale.
-/

namespace DepositGate

open DepositGate.Json

namespace Config

def write (config : Config) : Node := .record [
  ("min_cap_usd", writeAmount config.minCap),
  ("max_cap_usd", writeAmount config.maxCap),
  ("block_cap_usd", writeAmount config.blockCap),
  ("usd_decimals", writeUInt8 config.usdDecimals),
  ("native_decimals", writeUInt8 config.nativeDecimals),
  ("epoch_duration_seconds", writeUInt64 config.epochDuration),
  ("token_thresholds", writeAssetMap writeAmount config.thresholds),
  ("oracle_stale_period_seconds", writeUInt64 config.stalePeriod),
  ("sequencer_grace_period_seconds", writeUInt64 config.gracePeriod)]

def read : Reader Config := Record.reader "GatewayConfig" (Config.mk
  <$> .defaulted "min_cap_usd" readAmount standard.minCap
  <*> .defaulted "max_cap_usd" readAmount standard.maxCap
  <*> .defaulted "block_cap_usd" readAmount standard.blockCap
  <*> .defaulted "usd_decimals" readUInt8 standard.usdDecimals
  <*> .defaulted "native_decimals" readUInt8 standard.nativeDecimals
  <*> .defaulted "epoch_duration_seconds" readUInt64 standard.epochDuration
  <*> .defaulted "token_thresholds" (readAssetMap readAmount) standard.thresholds
  <*> .defaulted "oracle_stale_period_seconds" readUInt64 standard.stalePeriod
  <*> .defaulted "sequencer_grace_period_seconds" readUInt64 standard.gracePeriod)

/-- Why a file has no text. -/
inductive FileError where
  | absent
  | notText
deriving DecidableEq, Repr

def FileError.message : FileError → String
  | .absent => "No such file or directory (os error 2)"
  | .notText => "stream did not contain valid UTF-8"

/-- Why no configuration could be loaded. -/
inductive LoadError where
  | badSetting (which : Setting) (why : Setting.Error)
  | document (problem : Problem)
  | file (why : FileError)
  | invalid (why : Flaw)
deriving Repr

def LoadError.message : LoadError → String
  | .badSetting which why => "Invalid value for " ++ which.name ++ ": " ++ why.message
  | .document problem => "Invalid config JSON: " ++ problem.message
  | .file why => "Cannot read config file: " ++ why.message
  | .invalid why => why.message

def validated (config : Config) : Except LoadError Config :=
  match config.validate with
  | .ok _ => .ok config
  | .error why => .error (.invalid why)

def ofEnvironment (environment : Environment) : Except LoadError Config :=
  match environment.config with
  | .ok config => config.validated
  | .error (which, why) => .error (.badSetting which why)

def ofText (text : String) : Except LoadError Config :=
  match readText Config.read text with
  | .ok config => config.validated
  | .error problem => .error (.document problem)

/-- The text that a file holds, if the file is there and its bytes are UTF-8. -/
def textOfFile (content : Option ByteArray) : Except FileError String :=
  match content with
  | none => .error .absent
  | some bytes =>
    match String.fromUTF8? bytes with
    | some text => .ok text
    | none => .error .notText

def ofFile (content : Option ByteArray) : Except LoadError Config :=
  match textOfFile content with
  | .ok text => ofText text
  | .error why => .error (.file why)

end Config

end DepositGate
