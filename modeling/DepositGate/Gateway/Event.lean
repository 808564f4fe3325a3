import DepositGate.Json.Values

/-!
# Events

The gateway publishes an event for every leg that it moves and for every setting that it changes.
Folding the events of a run over the settings it started with gives the settings it ended with.
-/

namespace DepositGate

open DepositGate.Json

/-- A leg of a deposit as it is announced to the destination chain. -/
structure Announcement where
  sender : Address
  /-- Zero for gas, which goes to the sender's own account there. -/
  recipient : DestinationAddress
  asset : Asset
  amount : Amount
  payload : List UInt8
  refund : Refund
  kind : DepositKind
  signature : List UInt8
deriving DecidableEq, Repr

inductive Event where
  | deposited (leg : Announcement)
  | withdrawn (recipient : Address) (asset : Asset) (amount : Amount)
  | reverted (recipient : Address) (asset : Asset) (amount : Amount) (message : List UInt8)
  | capsSet (min max : Usd)
  | blockCapSet (cap : Usd)
  | thresholdSet (asset : Asset) (threshold : Amount)
  | epochDurationSet (seconds : UInt64)
  | feedReplaced
  | stalePeriodSet (seconds : UInt64)
  | sequencerSet (enabled : Bool) (grace : UInt64)
  | paused (caller : Address)
  | unpaused (caller : Address)
deriving DecidableEq, Repr

namespace Event

def name : Event → String
  | deposited _ => "UniversalTx"
  | withdrawn .. => "FundsWithdrawn"
  | reverted .. => "DepositReverted"
  | capsSet .. => "CapsUpdated"
  | blockCapSet _ => "BlockCapUpdated"
  | thresholdSet .. => "TokenThresholdUpdated"
  | epochDurationSet _ => "EpochDurationUpdated"
  | feedReplaced => "OracleSourceUpdated"
  | stalePeriodSet _ => "OracleStalePeriodUpdated"
  | sequencerSet .. => "SequencerFeedUpdated"
  | paused _ => "Paused"
  | unpaused _ => "Unpaused"

def fields : Event → List (String × Node)
  | deposited leg => [
    ("sender", writeIdentity leg.sender),
    ("recipient", writeIdentity leg.recipient),
    ("asset", writeAsset leg.asset),
    ("amount", writeAmount leg.amount),
    ("payload", writeBytes leg.payload),
    ("revert_instruction", leg.refund.write),
    ("tx_type", leg.kind.write),
    ("signature_data", writeBytes leg.signature)]
  | withdrawn recipient asset amount => [
    ("recipient", writeIdentity recipient),
    ("asset", writeAsset asset),
    ("amount", writeAmount amount)]
  | reverted recipient asset amount message => [
    ("recipient", writeIdentity recipient),
    ("asset", writeAsset asset),
    ("amount", writeAmount amount),
    ("revert_msg", writeBytes message)]
  | capsSet min max => [("min_usd", writeUsd min), ("max_usd", writeUsd max)]
  | blockCapSet cap => [("cap_usd", writeUsd cap)]
  | thresholdSet asset threshold => [
    ("asset", writeAsset asset),
    ("threshold", writeAmount threshold)]
  | epochDurationSet seconds => [("seconds", writeUInt64 seconds)]
  | feedReplaced => []
  | stalePeriodSet seconds => [("seconds", writeUInt64 seconds)]
  | sequencerSet enabled grace => [
    ("enabled", .bool enabled),
    ("grace_period_secs", writeUInt64 grace)]
  | paused caller => [("by", writeIdentity caller)]
  | unpaused caller => [("by", writeIdentity caller)]

/-- The event as a record whose first field names its sort. -/
def write (event : Event) : Node := .record (("event", .text event.name) :: event.fields)

end Event

end DepositGate
