import DepositGate.Binary64.Shortest
import DepositGate.Refusal
import DepositGate.Request

/-!
# Metrics

The gateway counts admitted deposits by their kind, rejected ones by the reason, and transfers that
failed, and it shows what the current block has consumed. A count by kind or reason appears once it
is above zero; the other two appear once they have been touched.

Counts by kind or reason and the consumption of the block are floating-point numbers. Failed
transfers are counted in 64 bits and wrap around.
-/

namespace DepositGate

/-- Something that the metrics take note of. -/
inductive Tally where
  | admission (kind : DepositKind)
  | rejection (reason : RefusalKind)
  | transferFailure
  | blockConsumed (usd : Usd)
deriving DecidableEq, Repr

structure Metrics where
  admissions : DepositKind → Binary64
  rejections : RefusalKind → Binary64
  transferFailures : Option UInt64
  /-- In dollars. -/
  blockConsumed : Option Binary64

namespace Metrics

def untouched : Metrics := ⟨fun _ => .zero, fun _ => .zero, none, none⟩

/-- No counts yet, but all metrics shown that have a value without any. -/
def zeroed : Metrics := ⟨fun _ => .zero, fun _ => .zero, some 0, some .zero⟩

instance : Inhabited Metrics := ⟨untouched⟩

/-- Counts up what is counted under a key. -/
def countUp {α : Type} [DecidableEq α] (counts : α → Binary64) (key other : α) : Binary64 :=
  if other = key then (counts other).succ else counts other

def record (metrics : Metrics) : Tally → Metrics
  | .admission kind => { metrics with admissions := countUp metrics.admissions kind }
  | .rejection reason => { metrics with rejections := countUp metrics.rejections reason }
  | .transferFailure => { metrics with
    transferFailures := some (metrics.transferFailures.getD 0 + 1) }
  | .blockConsumed usd => { metrics with blockConsumed := some usd.toDollars }

/-- The metrics once all of some tallies have been taken. -/
def take (metrics : Metrics) (tallies : List Tally) : Metrics := tallies.foldl record metrics

/-! ## The text format -/

/-- A metric with its values, each with the label it goes by, if it has one. -/
structure Family where
  name : String
  help : String
  sort : String
  /-- The name of the label. -/
  label : String
  samples : List (Option String × String)

/-- The samples of a counter for every label that was counted. -/
def countSamples {α : Type} (keys : List α) (label : α → String) (count : α → Binary64) :
    List (Option String × String) :=
  (keys.filter fun key => !(count key).isZero).map fun key =>
    (some (label key), (count key).plainText)

def valueSample : Option Binary64 → List (Option String × String)
  | none => []
  | some value => [(none, value.plainText)]

/-- All kinds of deposits, in the order of their labels. -/
def kindsByLabel : List DepositKind := [.funds, .fundsAndPayload, .gas, .gasAndPayload]

/-- The metrics in the order of their names. -/
def families (metrics : Metrics) : List Family := [
  { name := "pg_admissions_total"
    help := "Total number of admitted gateway requests"
    sort := "counter"
    label := "tx_type"
    samples := countSamples kindsByLabel DepositKind.label metrics.admissions },
  { name := "pg_block_consumed_usd"
    help := "USD consumed from the per-block budget in the current block"
    sort := "gauge"
    label := ""
    samples := valueSample metrics.blockConsumed },
  { name := "pg_rejections_total"
    help := "Total number of rejected gateway requests"
    sort := "counter"
    label := "reason"
    samples := countSamples RefusalKind.all RefusalKind.label metrics.rejections },
  { name := "pg_transfer_failures_total"
    help := "Total number of vault transfers that failed and rolled back"
    sort := "counter"
    label := ""
    samples := valueSample
      (metrics.transferFailures.bind fun count => Binary64.ofNat? count.toNat) }]

def sampleLine (family : Family) (sample : Option String × String) : String :=
  let label := match sample.1 with
    | some value => "\x7b" ++ family.label ++ "=\"" ++ value ++ "\"\x7d"
    | none => ""
  family.name ++ label ++ " " ++ sample.2

def Family.lines (family : Family) : List String :=
  if family.samples.isEmpty then []
  else
    ["# HELP " ++ family.name ++ " " ++ family.help,
      "# TYPE " ++ family.name ++ " " ++ family.sort] ++ family.samples.map (sampleLine family)

def lines (metrics : Metrics) : List String := metrics.families.flatMap Family.lines

/-- The metrics as text, each line ended by a line break. -/
def text (metrics : Metrics) : String :=
  String.join (metrics.lines.map (· ++ "\n"))

end Metrics

end DepositGate
