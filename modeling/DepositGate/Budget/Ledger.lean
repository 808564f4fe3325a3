import DepositGate.Budget.Block
import DepositGate.Budget.Epoch

/-!
# The ledger of both budgets

A deposit may draw on the block budget and on an epoch limit, and does so either in full or not at
all. It opens a transaction over the ledger and stages what it draws; later steps of the transaction
see what earlier ones staged. Committing stores the staged records, and dropping the transaction
leaves the ledger as it was.
-/

namespace DepositGate

structure Ledger where
  block : BlockBudget
  epochs : EpochLimits
deriving DecidableEq, Repr

namespace Ledger

def start (blockCap : Usd) (duration : UInt64) : Ledger := ⟨.fresh blockCap, .start duration⟩

instance : Inhabited Ledger := ⟨start .zero 0⟩

def consumedAt (ledger : Ledger) (key : UInt64) : Usd := ledger.block.consumedAt key

def usage (ledger : Ledger) (asset : Asset) (now : UInt64) : Except Failure (Amount × Amount) :=
  ledger.epochs.usage asset now

def setBlockCap (ledger : Ledger) (cap : Usd) : Ledger :=
  { ledger with block := ledger.block.setCap cap }

def setThreshold (ledger : Ledger) (asset : Asset) (threshold : Amount) : Ledger :=
  { ledger with epochs := ledger.epochs.setThreshold asset threshold }

def setDuration (ledger : Ledger) (duration : UInt64) : Ledger :=
  { ledger with epochs := ledger.epochs.setDuration duration }

/-- A ledger with the records staged on top of it. -/
structure Transaction where
  base : Ledger
  block : Option BlockBudget
  records : SortedMap Asset TokenUsage
deriving DecidableEq, Repr

def begin (ledger : Ledger) : Transaction := ⟨ledger, none, .empty⟩

namespace Transaction

/-- The block record that the next step starts from. -/
def currentBlock (txn : Transaction) : BlockBudget := txn.block.getD txn.base.block

/-- The record of an asset that the next step starts from. -/
def currentRecord (txn : Transaction) (asset : Asset) : Option TokenUsage :=
  (txn.records.find? asset).or (txn.base.epochs.record asset)

def stageBlock (txn : Transaction) (usd : Usd) (key : UInt64) : Except Refusal Transaction :=
  match txn.currentBlock.plan usd key with
  | .error why => .error why
  | .ok none => .ok txn
  | .ok (some next) => .ok { txn with block := some next }

/-- Stages an amount of an asset, and tells the epoch it is charged to if limiting is on. -/
def stageEpoch (txn : Transaction) (asset : Asset) (amount : Amount) (now : UInt64) :
    Except Failure (Transaction × Option UInt64) := do
  match ← planEpoch asset (txn.currentRecord asset) amount now txn.base.epochs.duration with
  | none => return (txn, none)
  | some next =>
    return ({ txn with records := txn.records.insert asset next }, some next.epoch)

def isDirty (txn : Transaction) : Bool := txn.block.isSome || !txn.records.isEmpty

def commit (txn : Transaction) : Ledger where
  block := match txn.block with
    | some next => txn.base.block.apply next
    | none => txn.base.block
  epochs := txn.records.entries.foldl (fun limits entry => limits.apply entry.2) txn.base.epochs

def rollback (txn : Transaction) : Ledger := txn.base

end Transaction

end Ledger

end DepositGate
