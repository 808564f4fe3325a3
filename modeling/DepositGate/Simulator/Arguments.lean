import DepositGate.Text.Pieces
import DepositGate.Text.Terminal

/-!
# Arguments of the simulator

The command line names a scenario and may name a configuration; one flag asks for metrics and one
for help. An option is given as `--name value`, `--name=value`, `-n value`, `-n=value` or `-nvalue`.
Arguments are taken from the left. A value stays pending until the next option or the end of the
line, and only then is it found that it is missing or that its option was given before; an argument
with no place at all is found at once.
-/

namespace DepositGate.Simulator

open DepositGate.Text DepositGate.Text.Terminal

inductive Switch where
  | config
  | scenario
  | metrics
  | help
deriving DecidableEq, Repr

namespace Switch

/-- A switch as messages show it, with the name of its value if it takes one. -/
def shown : Switch → String
  | config => "--config <CONFIG>"
  | scenario => "--scenario <SCENARIO>"
  | metrics => "--metrics"
  | help => "--help"

def takesValue : Switch → Bool
  | config | scenario => true
  | metrics | help => false

def ofName? (name : String) : Option Switch :=
  if name = "config" then some config
  else if name = "scenario" then some scenario
  else if name = "metrics" then some metrics
  else if name = "help" then some help
  else none

def ofLetter? (letter : Char) : Option Switch :=
  if letter = 'c' then some config
  else if letter = 's' then some scenario
  else if letter = 'h' then some help
  else none

end Switch

/-- What is wrong with a command line. -/
inductive Misuse where
  | unexpected (argument : String)
  | noValue (switch : Switch)
  | surplusValue (value : String) (switch : Switch)
  | repeated (switch : Switch)
  | missingScenario
deriving DecidableEq, Repr

/-- The message on a misuse, with emphasis on what is wrong. -/
def Misuse.message : Misuse → String
  | .unexpected argument => "unexpected argument '" ++ emphasized .wrong argument ++ "' found"
  | .noValue switch =>
    "a value is required for '" ++ emphasized .wrong switch.shown ++ "' but none was supplied"
  | .surplusValue value switch =>
    "unexpected value '" ++ emphasized .wrong value ++ "' for '" ++
      emphasized .literal switch.shown ++ "' found; no more were expected"
  | .repeated switch =>
    "the argument '" ++ emphasized .wrong switch.shown ++ "' cannot be used multiple times"
  | .missingScenario => "the following required arguments were not provided:"

/-- Why a command line is not carried out. -/
inductive Stop where
  | helpWanted
  | misused (how : Misuse)
deriving DecidableEq, Repr

structure Arguments where
  config : Option String
  scenario : String
  metrics : Bool
deriving DecidableEq, Repr

/-- What was found in the arguments read so far. -/
structure Found where
  config : Option String
  scenario : Option String
  metrics : Bool
  /-- An option that was given last, and its value once that came. -/
  pending : Option (Switch × Option String)
  /-- Everything after `--` is no option. -/
  optionsEnded : Bool
deriving DecidableEq, Repr

namespace Found

def nothing : Found := ⟨none, none, false, none, false⟩

/-- Files the value of an option, which may come once only and is not empty. -/
def store (found : Found) (switch : Switch) (value : String) : Except Stop Found :=
  let before := match switch with
    | .config => found.config
    | .scenario => found.scenario
    | .metrics | .help => none
  if before.isSome then .error (.misused (.repeated switch))
  else if value.isEmpty then .error (.misused (.noValue switch))
  else
    match switch with
    | .config => .ok { found with config := some value }
    | .scenario => .ok { found with scenario := some value }
    | .metrics | .help => .ok found

/-- Settles what is pending. -/
def settle (found : Found) : Except Stop Found :=
  match found.pending with
  | none => .ok found
  | some (switch, none) => .error (.misused (.noValue switch))
  | some (switch, some value) => { found with pending := none }.store switch value

/-- Takes a switch, with the value attached to it if there is one. -/
def take (found : Found) (switch : Switch) (attached : Option String) : Except Stop Found := do
  let found ← found.settle
  match switch, attached with
  | .help, _ => .error .helpWanted
  | .metrics, _ =>
    if found.metrics then .error (.misused (.repeated .metrics))
    else return { found with metrics := true }
  | switch, some value => found.store switch value
  | switch, none => return { found with pending := some (switch, none) }

/-- Takes an argument that starts with two hyphens, given without them. -/
def takeLong (found : Found) (text : List Char) : Except Stop Found :=
  let (name, attached) := match cut? '=' text with
    | some (name, value) => (String.ofList name, some (String.ofList value))
    | none => (String.ofList text, none)
  match Switch.ofName? name, attached with
  | none, _ => .error (.misused (.unexpected ("--" ++ name)))
  | some switch, some value =>
    if switch.takesValue then found.take switch (some value)
    else .error (.misused (.surplusValue value switch))
  | some switch, none => found.take switch none

/-- Takes an argument that starts with one hyphen and then `letter`. -/
def takeShort (found : Found) (letter : Char) (rest : List Char) : Except Stop Found :=
  match Switch.ofLetter? letter with
  | none => .error (.misused (.unexpected (String.ofList ['-', letter])))
  | some switch =>
    match rest with
    | [] => found.take switch none
    | '=' :: value => found.take switch (some (String.ofList value))
    | value => found.take switch (some (String.ofList value))

/-- Takes an argument that is no option: the value that is wanted, or nothing that is. -/
def takeBare (found : Found) (text : String) : Except Stop Found :=
  match found.optionsEnded, found.pending with
  | false, some (switch, none) => .ok { found with pending := some (switch, some text) }
  | _, _ => .error (.misused (.unexpected text))

def takeArgument (found : Found) (argument : String) : Except Stop Found :=
  if found.optionsEnded then found.takeBare argument
  else
    match argument.toList with
    | ['-', '-'] => .ok { found with optionsEnded := true }
    | '-' :: '-' :: text => found.takeLong text
    | '-' :: letter :: rest => found.takeShort letter rest
    | _ => found.takeBare argument

def takeAll (found : Found) : List String → Except Stop Found
  | [] => found.settle
  | argument :: rest => do
    let found ← found.takeArgument argument
    found.takeAll rest

end Found

def Arguments.ofList (arguments : List String) : Except Stop Arguments := do
  let found ← Found.nothing.takeAll arguments
  match found.scenario with
  | some scenario => return ⟨found.config, scenario, found.metrics⟩
  | none => .error (.misused .missingScenario)

end DepositGate.Simulator
