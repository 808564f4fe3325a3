import DepositGate.Json.Values

/-!
# Plans and receipts

A plan says what admitting a request moves and what it is charged for. A receipt is a plan that was
carried out, with the block and the epoch that it was charged to.
-/

namespace DepositGate

open DepositGate.Json

structure Plan where
  kind : DepositKind
  gas : Amount
  gasUsd : Usd
  funds : Option FundsLeg
deriving DecidableEq, Repr

namespace Plan

def hasGas (plan : Plan) : Bool := !plan.gas.isZero

/-- What the vault takes into custody, gas first. -/
def deposits (plan : Plan) : List (Asset × Amount) :=
  (if plan.hasGas then [(.native, plan.gas)] else []) ++
    (match plan.funds with
      | some leg => [(leg.asset, leg.amount)]
      | none => [])

def write (plan : Plan) : Node := .record [
  ("tx_type", plan.kind.write),
  ("gas_amount", writeAmount plan.gas),
  ("gas_usd", writeUsd plan.gasUsd),
  ("funds", .optional FundsLeg.write plan.funds)]

end Plan

structure Receipt where
  /-- A name that tells this receipt from all others. -/
  id : String
  plan : Plan
  block : UInt64
  /-- The epoch that the funds were charged to, if epoch limits are on. -/
  epoch : Option UInt64
deriving DecidableEq, Repr

def Receipt.write (receipt : Receipt) : Node := .record [
  ("id", .text receipt.id),
  ("plan", receipt.plan.write),
  ("block_key", writeUInt64 receipt.block),
  ("epoch_index", .optional writeUInt64 receipt.epoch)]

end DepositGate
