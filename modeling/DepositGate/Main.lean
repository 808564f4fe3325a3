import DepositGate.Simulator.Report
import DepositGate.Text.Uuid

/-!
# The command line

Reads the arguments, the environment and the files that the arguments name, and prints what the
simulator reports. A receipt takes sixteen random bytes for its name; a deposit takes more bytes of
the scenario's file than that, so as many random bytes as the file has are enough.
-/

namespace DepositGate.Simulator

/-- The bytes of a file, or nothing if it cannot be read. -/
def readFile (path : String) : IO (Option ByteArray) :=
  try
    return some (← IO.FS.readBinFile path)
  catch _ => return none

def variableNames : List String :=
  [logFilterVariable, plainVariable, emphasisVariable] ++ Setting.all.map Setting.name

end DepositGate.Simulator

open DepositGate DepositGate.Simulator in
def main (arguments : List String) : IO UInt32 := do
  let environment ← variableNames.filterMapM fun name => do
    return (← IO.getEnv name).map fun text => (name, text)
  let paths := match Arguments.ofList arguments with
    | .ok arguments => arguments.config.toList ++ [arguments.scenario]
    | .error _ => []
  let files ← paths.filterMapM fun path => do
    return (← readFile path).map fun bytes => (path, bytes)
  let size := files.foldl (fun size file => size + file.2.size) 0
  let random ← IO.getRandomBytes (USize.ofNat size)
  let name (i : Nat) : String := Text.Uuid.text (random.extract (16 * i) (16 * i + 16)).toList
  let around : Surroundings := ⟨fun name => environment.lookup name, fun path => files.lookup path⟩
  let report := run around arguments name
  for line in report.output do IO.println line
  for line in report.errors do IO.eprintln line
  return report.code.toUInt32
