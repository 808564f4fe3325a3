import DepositGate.Gateway

/-!
# Governance

The administrator changes the gateway's settings, paused or not. The pauser, or the administrator,
stops and restarts the gateway. Each change that succeeds is told of by one event, and a call that
is refused changes nothing.
-/

namespace DepositGate.Gateway

/-- Carries out a change that the administrator asks for. -/
def administer (gateway : Gateway) (caller : Address) (next : Except Refusal Gateway)
    (notice : Notice) (event : Event) : Reply Unit :=
  match gateway.requireRole caller .admin [], next with
  | .error why, _ => gateway.refuse why
  | .ok _, .error why => gateway.refuse why
  | .ok _, .ok next => next.changed notice event

def withLedger (gateway : Gateway) (ledger : Ledger) : Gateway :=
  { gateway with ledger := ledger }

def withOracle (gateway : Gateway) (oracle : Oracle) : Gateway :=
  { gateway with oracle := oracle }

def setCaps (gateway : Gateway) (caller : Address) (min max : Usd) : Reply Unit :=
  gateway.administer caller
    ((Caps.ofBounds min max).map fun caps =>
      { gateway with policy := { gateway.policy with caps := caps } })
    (.capsSet min max) (.capsSet min max)

def setBlockCap (gateway : Gateway) (caller : Address) (cap : Usd) : Reply Unit :=
  gateway.administer caller (.ok (gateway.withLedger (gateway.ledger.setBlockCap cap)))
    (.blockCapSet cap) (.blockCapSet cap)

def setThreshold (gateway : Gateway) (caller : Address) (asset : Asset) (threshold : Amount) :
    Reply Unit :=
  gateway.administer caller (.ok (gateway.withLedger (gateway.ledger.setThreshold asset threshold)))
    (.thresholdSet asset threshold) (.thresholdSet asset threshold)

def setEpochDuration (gateway : Gateway) (caller : Address) (seconds : UInt64) : Reply Unit :=
  gateway.administer caller (.ok (gateway.withLedger (gateway.ledger.setDuration seconds)))
    (.epochDurationSet seconds) (.epochDurationSet seconds)

def setFeed (gateway : Gateway) (caller : Address) (feed : Feed) : Reply Unit :=
  gateway.administer caller (.ok (gateway.withOracle { gateway.oracle with feed := feed }))
    .feedReplaced .feedReplaced

def setStalePeriod (gateway : Gateway) (caller : Address) (seconds : UInt64) : Reply Unit :=
  gateway.administer caller (.ok (gateway.withOracle { gateway.oracle with window := seconds }))
    (.stalePeriodSet seconds) (.stalePeriodSet seconds)

/-- Watches a sequencer, or none. -/
def setSequencer (gateway : Gateway) (caller : Address) (sequencer : Option SequencerStatus)
    (grace : UInt64) : Reply Unit :=
  let watched := sequencer.map fun status => (status, grace)
  gateway.administer caller
    (.ok (gateway.withOracle { gateway.oracle with sequencer := watched }))
    (.sequencerSet sequencer.isSome grace) (.sequencerSet sequencer.isSome grace)

def setPaused (gateway : Gateway) (caller : Address) (paused : Bool) (notice : Notice)
    (event : Event) : Reply Unit :=
  match gateway.requireRole caller .pauser [.admin] with
  | .error why => gateway.refuse why
  | .ok _ => { gateway with isPaused := paused }.changed notice event

def pause (gateway : Gateway) (caller : Address) : Reply Unit :=
  gateway.setPaused caller true .paused (.paused caller)

def unpause (gateway : Gateway) (caller : Address) : Reply Unit :=
  gateway.setPaused caller false .unpaused (.unpaused caller)

end DepositGate.Gateway
