import DepositGate.Config.Load
import DepositGate.Gateway.Metrics
import DepositGate.Scenario
import DepositGate.Simulator.Arguments
import DepositGate.Simulator.LogFilter

/-!
# The simulator

The simulator replays a scenario and prints one line of JSON for each deposit, and after them the
metrics if they are asked for. It stops with the code 2 on arguments that it cannot use and with the
code 1 on a log filter, a configuration or a scenario that it cannot use, looked at in this order;
it breaks off with the code 101 on a log filter whose parts it cannot even cut out. Messages on
arguments and the help have emphasis in them, which is left out unless it is asked for.
-/

namespace DepositGate.Simulator

open DepositGate.Text.Terminal

/-- What the simulator has printed when it ends. -/
structure Report where
  code : UInt8
  output : List String
  errors : List String
deriving DecidableEq, Repr

/-- What the simulator finds around it. -/
structure Surroundings where
  environment : String → Option String
  /-- The bytes of a file, if it can be read. -/
  files : String → Option ByteArray

/-! ## Arguments that are not carried out -/

def usageHeading : String := emphasized .heading "Usage:"

def programName : String := emphasized .literal "pg-sim"

def helpLines : List String := [
  "Replay a deposit scenario through the Push Gateway admission core",
  "",
  usageHeading ++ " " ++ programName ++ " [OPTIONS] " ++ emphasized .literal "--scenario" ++
    " <SCENARIO>",
  "",
  emphasized .heading "Options:",
  "  " ++ emphasized .literal "-c" ++ ", " ++ emphasized .literal "--config" ++
    " <CONFIG>      Gateway configuration JSON (default: PG_* environment variables)",
  "  " ++ emphasized .literal "-s" ++ ", " ++ emphasized .literal "--scenario" ++
    " <SCENARIO>  Scenario JSON",
  "      " ++ emphasized .literal "--metrics" ++
    "              Print Prometheus metrics after the run",
  "  " ++ emphasized .literal "-h" ++ ", " ++ emphasized .literal "--help" ++
    "                 Print help"]

/-- The options that a message lists after saying that they are missing. -/
def Misuse.missing : Misuse → List Switch
  | .missingScenario => [.scenario]
  | _ => []

def Misuse.usage (how : Misuse) : String :=
  let options := if how = .missingScenario then " " else " [OPTIONS] "
  usageHeading ++ " " ++ programName ++ options ++ emphasized .literal "--scenario" ++
    " <SCENARIO>"

def Misuse.lines (how : Misuse) : List String :=
  let missing := how.missing.map fun switch => "  " ++ emphasized .right switch.shown
  [emphasized .alarm "error:" ++ " " ++ how.message] ++ missing ++
    ["", how.usage, "", "For more information, try '" ++ emphasized .literal "--help" ++ "'."]

/-- The variable that forbids emphasis. -/
def plainVariable : String := "NO_COLOR"

/-- The variable that asks for emphasis where no terminal is. -/
def emphasisVariable : String := "CLICOLOR_FORCE"

def wantsEmphasis (around : Surroundings) : Bool :=
  ((around.environment plainVariable).getD "").isEmpty &&
    (around.environment emphasisVariable).getD "0" != "0"

/-- The report on arguments that cannot be used, or on a wish for help. -/
def Stop.report (stop : Stop) (emphasis : Bool) : Report :=
  let shown (lines : List String) := if emphasis then lines else lines.map plain
  match stop with
  | .helpWanted => ⟨0, shown helpLines, []⟩
  | .misused how => ⟨2, [], shown how.lines⟩

/-! ## Runs -/

/-- A run that ends early. -/
inductive Failed where
  /-- What the simulator was doing, and why it could not go on. -/
  | gaveUp (doing : String) (cause : Option String)
  | brokeOff
deriving DecidableEq, Repr

/-- The report on a run that ended early. One that broke off says so after an empty line. -/
def Failed.report : Failed → Report
  | .gaveUp doing cause =>
    let because := match cause with
      | some text => ["", "Caused by:", "    " ++ text]
      | none => []
    ⟨1, [], ("Error: " ++ doing) :: because⟩
  | .brokeOff => ⟨101, [], ["", "the simulator broke off"]⟩

/-- The variable that holds the log filter. -/
def logFilterVariable : String := "PG_LOG_LEVEL"

def checkLogFilter (around : Surroundings) : Except Failed Unit :=
  let filter := (around.environment logFilterVariable).getD "info"
  match LogFilter.check filter with
  | .ok () => .ok ()
  | .error .malformed => .error (.gaveUp "invalid log filter" none)
  | .error .torn => .error .brokeOff

def loadConfig (around : Surroundings) (arguments : Arguments) : Except Failed Config :=
  let loaded := match arguments.config with
    | some path => (Config.ofFile (around.files path), "loading config " ++ path)
    | none =>
      (Config.ofEnvironment fun setting => around.environment setting.name,
        "loading config from environment")
  match loaded with
  | (.ok config, _) => .ok config
  | (.error why, doing) => .error (.gaveUp doing (some why.message))

def loadScenario (around : Surroundings) (path : String) : Except Failed Scenario :=
  match Config.textOfFile (around.files path) with
  | .error why => .error (.gaveUp ("reading scenario " ++ path) (some why.message))
  | .ok text =>
    match Json.readText Scenario.read text with
    | .ok scenario => .ok scenario
    | .error problem => .error (.gaveUp "parsing scenario JSON" (some problem.message))

/-- The metrics of a replay by a simulator that ran nothing before. -/
def metricsOf (replay : Scenario.Replay) : Metrics :=
  Metrics.untouched.take (replay.signals.filterMap Signal.tally?)

/-- The lines printed for a replay. -/
def outputOf (replay : Scenario.Replay) (metrics : Bool) : List String :=
  replay.outcomes.map (fun outcome => outcome.write.toText) ++
    if metrics then (metricsOf replay).lines else []

/-- Carries out usable arguments. Receipts are named by `names`. -/
def simulate (around : Surroundings) (arguments : Arguments) (names : Nat → String) :
    Except Failed (List String) := do
  checkLogFilter around
  let config ← loadConfig around arguments
  let scenario ← loadScenario around arguments.scenario
  match scenario.replay config names with
  | .ok replay => return outputOf replay arguments.metrics
  | .error why => .error (.gaveUp why.message none)

def run (around : Surroundings) (arguments : List String) (names : Nat → String) : Report :=
  match Arguments.ofList arguments with
  | .error stop => stop.report (wantsEmphasis around)
  | .ok arguments =>
    match simulate around arguments names with
    | .ok output => ⟨0, output, []⟩
    | .error failed => failed.report

end DepositGate.Simulator
