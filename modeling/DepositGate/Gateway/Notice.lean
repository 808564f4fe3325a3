import DepositGate.Gateway.Event
import DepositGate.Json.Writer
import DepositGate.Price.Oracle

/-!
# Notices

A notice tells the operator what the gateway did. It has a level, a message that is the same for all
notices of its sort, and named fields with what differs.
-/

namespace DepositGate

inductive Level where
  | debug
  | info
  | warn
deriving DecidableEq, Repr

def Level.name : Level → String
  | .debug => "DEBUG"
  | .info => "INFO"
  | .warn => "WARN"

inductive Notice where
  | configured (caps : Caps) (blockCap : Usd) (epochDuration : UInt64)
  | quoted (quote : Quote) (age : UInt64)
  /-- So many legs were taken into custody. -/
  | tookIn (legs : Nat) (sender : Address)
  | released (asset : Asset) (amount : Amount)
  /-- A transfer failed, and what the deposit had staged is dropped. -/
  | discarded (sender : Address) (why : Refusal)
  | admitted (id : String) (kind : DepositKind) (gasUsd : Usd) (block : UInt64)
  | rejected (why : Refusal)
  | withdrawn (asset : Asset) (amount : Amount)
  | reverted (asset : Asset) (amount : Amount)
  | capsSet (min max : Usd)
  | blockCapSet (cap : Usd)
  | thresholdSet (asset : Asset) (threshold : Amount)
  | epochDurationSet (seconds : UInt64)
  | feedReplaced
  | stalePeriodSet (seconds : UInt64)
  | sequencerSet (enabled : Bool) (grace : UInt64)
  | paused
  | unpaused
  /-- An event, for a log that keeps events too. -/
  | published (event : Event)
deriving DecidableEq, Repr

namespace Notice

def level : Notice → Level
  | quoted .. | tookIn .. | released .. | rejected _ => .debug
  | discarded .. | paused => .warn
  | _ => .info

/-- What the notice says, without the name of the component in front. -/
def text : Notice → String
  | configured .. => "controller configured"
  | quoted .. => "oracle quote accepted"
  | tookIn .. => "vault deposit"
  | released .. => "vault release"
  | discarded .. => "transfer failed, staged consumption discarded"
  | admitted .. => "request admitted"
  | rejected _ => "request rejected"
  | withdrawn .. => "funds withdrawn"
  | reverted .. => "deposit reverted"
  | capsSet .. => "caps updated"
  | blockCapSet _ => "block cap updated"
  | thresholdSet .. => "token threshold updated"
  | epochDurationSet _ => "epoch duration updated"
  | feedReplaced => "oracle source updated"
  | stalePeriodSet _ => "oracle stale period updated"
  | sequencerSet .. => "sequencer feed updated"
  | paused => "gateway paused"
  | unpaused => "gateway unpaused"
  | published _ => "gateway event"

def message (notice : Notice) : String := "[pg-admission] " ++ notice.text

def secondsText (seconds : UInt64) : String := toString seconds.toNat

def flagText (flag : Bool) : String := if flag then "true" else "false"

def fields : Notice → List (String × String)
  | configured caps blockCap epochDuration => [
    ("min", caps.min.toText),
    ("max", caps.max.toText),
    ("block_cap", blockCap.toText),
    ("epoch_secs", secondsText epochDuration)]
  | quoted quote age => [
    ("round_id", toString quote.round.toNat),
    ("decimals", toString quote.decimals.toNat),
    ("age_secs", secondsText age)]
  | tookIn legs sender => [
    ("legs", toString legs),
    ("from", String.ofList sender.toHex)]
  | released asset amount => [("asset", asset.toText), ("amount", amount.toText)]
  | discarded sender why => [
    ("sender", String.ofList sender.toHex),
    ("error", why.message)]
  | admitted id kind gasUsd block => [
    ("id", id),
    ("tx_type", kind.label),
    ("gas_usd", gasUsd.toText),
    ("block_key", toString block.toNat)]
  | rejected why => [("reason", why.kind.label), ("error", why.message)]
  | withdrawn asset amount => [("asset", asset.toText), ("amount", amount.toText)]
  | reverted asset amount => [("asset", asset.toText), ("amount", amount.toText)]
  | capsSet min max => [("min", min.toText), ("max", max.toText)]
  | blockCapSet cap => [("cap", cap.toText)]
  | thresholdSet asset threshold => [
    ("asset", asset.toText),
    ("threshold", threshold.toText)]
  | epochDurationSet seconds => [("seconds", secondsText seconds)]
  | feedReplaced => []
  | stalePeriodSet seconds => [("seconds", secondsText seconds)]
  | sequencerSet enabled grace => [
    ("enabled", flagText enabled),
    ("grace_period_secs", secondsText grace)]
  | paused => []
  | unpaused => []
  | published event => [("event", event.write.toText)]

end Notice

end DepositGate
