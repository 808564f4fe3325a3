import DepositGate.Gateway.Run
import DepositGate.Json.Held
import DepositGate.Json.Values

/-!
# Scenarios

A scenario is a starting price and a list of deposits. Before each deposit the clock may be set, a
new price published, and the vault made to fail for this deposit. Replaying a scenario gives one
outcome per deposit, along with the signals that the gateway gave off.
-/

namespace DepositGate

open DepositGate.Json

/-- One deposit of a scenario. What is not given stays as it was. -/
structure Scenario.Entry where
  time : Option UInt64
  block : Option UInt64
  price : Option Answer
  failsTransfer : Bool
  sender : Option Address
  request : Request
  value : Amount
deriving DecidableEq, Repr

structure Scenario where
  price : Answer
  priceDecimals : UInt8
  startTime : UInt64
  startBlock : UInt64
  entries : List Scenario.Entry
deriving DecidableEq, Repr

namespace Scenario

def Entry.read : Reader Entry := Record.reader "Step" (Entry.mk
  <$> .nullable "time" readUInt64
  <*> .nullable "block" readUInt64
  <*> .nullable "price" readAnswer
  <*> .defaulted "fail_transfer" readBool false
  <*> .defaulted "sender" (readOptional (readIdentity 32 fun _ => .badSender)) none
  <*> .required "request" Request.read
  <*> .defaulted "native_amount" readAmount .zero)

def read : Reader Scenario := Record.reader "Scenario" (Scenario.mk
  <$> .required "price" readAnswer
  <*> .defaulted "price_decimals" readUInt8 8
  <*> .required "start_time" readUInt64
  <*> .defaulted "start_block" readUInt64 0
  <*> .required "steps" (readList Entry.read))

/-- The account of 32 bytes of 0x11, which sends what no one else sends and holds all roles. -/
def defaultSender : Address := .ofBytes (List.replicate 32 0x11) (by decide)

/-- What became of one deposit. -/
structure Outcome where
  index : Nat
  time : UInt64
  block : UInt64
  result : Except Failure Receipt
  /-- What the block has consumed after the deposit. -/
  consumed : Usd

namespace Outcome

def isAdmitted (outcome : Outcome) : Bool :=
  match outcome.result with
  | .ok _ => true
  | .error _ => false

def write (outcome : Outcome) : Node := .record (
  [("step", .nat outcome.index),
    ("time", writeUInt64 outcome.time),
    ("block", writeUInt64 outcome.block),
    ("admitted", .bool outcome.isAdmitted)] ++
  (match outcome.result with
    | .ok receipt => [("receipt", receipt.write.held)]
    | .error (.refused why) => [("reason", .text why.kind.label), ("error", .text why.message)]
    | .error (.fault _) => []) ++
  [("block_consumed_usd", .text outcome.consumed.toText)])

end Outcome

/-- The gateway as the deposit of an entry finds it. A new price is published at the time then. -/
def Entry.prepare (entry : Entry) (gateway : Gateway) : Gateway :=
  let gateway := match entry.time with
    | some time => gateway.change (.clock (.setTime time))
    | none => gateway
  let gateway := match entry.block with
    | some block => gateway.change (.clock (.setBlock block))
    | none => gateway
  let gateway := match entry.price with
    | some price => gateway.change (.feed (.answer price gateway.clock.now))
    | none => gateway
  gateway.change (.vault (.failing entry.failsTransfer))

/-- The outcomes of a replay and the signals given off, both in their order. -/
structure Replay where
  outcomes : List Outcome
  signals : List Signal

/-- Replays entries, the first of which is number `index`. Receipts are named by `names`. -/
def replayFrom (names : Nat → String) (index : Nat) (gateway : Gateway) : List Entry → Replay
  | [] => ⟨[], []⟩
  | entry :: rest =>
    let before := entry.prepare gateway
    let reply := before.send (names index) (entry.sender.getD defaultSender) entry.request
      entry.value
    let after := reply.gateway
    let outcome : Outcome :=
      ⟨index, after.clock.now, after.clock.block, reply.result, after.blockConsumed⟩
    let others := replayFrom names (index + 1) after rest
    ⟨outcome :: others.outcomes, reply.signals ++ others.signals⟩

/-- The gateway that a scenario starts with. -/
def start (scenario : Scenario) (config : Config) : Except Config.Flaw Gateway :=
  Gateway.configure config
    (.rounds (.start scenario.price (some scenario.priceDecimals) scenario.startTime)) none
    (.ofMembers defaultSender defaultSender defaultSender)
    ⟨scenario.startTime, scenario.startBlock⟩

def replay (scenario : Scenario) (config : Config) (names : Nat → String) :
    Except Config.Flaw Replay := do
  let gateway ← scenario.start config
  let replay := replayFrom names 0 gateway scenario.entries
  return { replay with signals := .notice gateway.configuredNotice :: replay.signals }

end Scenario

end DepositGate
