import DepositGate.Gateway.Deposit
import DepositGate.Gateway.Governance
import DepositGate.Gateway.Release

/-!
# Runs of the gateway

A gateway is driven by calls and by changes from outside: time passes, prices are published, the
vault is made to fail, and members of roles come and go. A run is a finite row of such steps, and
each call of it has a reply.
-/

namespace DepositGate

inductive Call where
  | send (id : String) (sender : Address) (request : Request) (value : Amount)
  | preview (request : Request) (value : Amount)
  | withdraw (caller : Address) (asset : Asset) (amount : Amount) (recipient : Address)
  | revert (caller : Address) (asset : Asset) (amount : Amount) (refund : Refund)
  | setCaps (caller : Address) (min max : Usd)
  | setBlockCap (caller : Address) (cap : Usd)
  | setThreshold (caller : Address) (asset : Asset) (threshold : Amount)
  | setEpochDuration (caller : Address) (seconds : UInt64)
  | setFeed (caller : Address) (feed : Feed)
  | setStalePeriod (caller : Address) (seconds : UInt64)
  | setSequencer (caller : Address) (sequencer : Option SequencerStatus) (grace : UInt64)
  | pause (caller : Address)
  | unpause (caller : Address)
  | blockConsumed
  | usage (asset : Asset)
  | nativeBounds
  | ledger
deriving DecidableEq, Repr

/-- What a call is answered with if it succeeds. -/
inductive Response where
  | done
  | receipt (receipt : Receipt)
  | plan (plan : Plan)
  | usd (usd : Usd)
  | amounts (first second : Amount)
  | ledger (ledger : Ledger)
deriving DecidableEq, Repr

inductive Change where
  | clock (change : ClockChange)
  | feed (change : FeedChange)
  | vault (change : VaultChange)
  | sequencer (status : SequencerStatus)
  | grant (role : Role) (account : Address)
  | revoke (role : Role) (account : Address)
deriving DecidableEq, Repr

inductive Step where
  | call (call : Call)
  | change (change : Change)
deriving DecidableEq, Repr

namespace Gateway

def perform (gateway : Gateway) : Call → Reply Response
  | .send id sender request value => (gateway.send id sender request value).map .receipt
  | .preview request value => (gateway.preview request value).map .plan
  | .withdraw caller asset amount recipient =>
    (gateway.withdraw caller asset amount recipient).map fun _ => .done
  | .revert caller asset amount refund =>
    (gateway.revert caller asset amount refund).map fun _ => .done
  | .setCaps caller min max => (gateway.setCaps caller min max).map fun _ => .done
  | .setBlockCap caller cap => (gateway.setBlockCap caller cap).map fun _ => .done
  | .setThreshold caller asset threshold =>
    (gateway.setThreshold caller asset threshold).map fun _ => .done
  | .setEpochDuration caller seconds => (gateway.setEpochDuration caller seconds).map fun _ => .done
  | .setFeed caller feed => (gateway.setFeed caller feed).map fun _ => .done
  | .setStalePeriod caller seconds => (gateway.setStalePeriod caller seconds).map fun _ => .done
  | .setSequencer caller sequencer grace =>
    (gateway.setSequencer caller sequencer grace).map fun _ => .done
  | .pause caller => (gateway.pause caller).map fun _ => .done
  | .unpause caller => (gateway.unpause caller).map fun _ => .done
  | .blockConsumed => gateway.answer (.ok (.usd gateway.blockConsumed))
  | .usage asset => gateway.answer ((gateway.usage asset).map fun (a, b) => .amounts a b)
  | .nativeBounds => gateway.nativeBounds.map fun (a, b) => .amounts a b
  | .ledger => gateway.answer (.ok (.ledger gateway.ledger))

def change (gateway : Gateway) : Change → Gateway
  | .clock change => { gateway with clock := gateway.clock.change change }
  | .feed change =>
    gateway.withOracle { gateway.oracle with feed := gateway.oracle.feed.change change }
  | .vault change => { gateway with vault := gateway.vault.change change }
  | .sequencer status => gateway.withOracle (gateway.oracle.reportSequencer status)
  | .grant role account => { gateway with roles := gateway.roles.grant role account }
  | .revoke role account => { gateway with roles := gateway.roles.revoke role account }

/-- The gateway after a run, and the replies to the calls of the run in their order. -/
def run (gateway : Gateway) : List Step → Gateway × List (Reply Response)
  | [] => (gateway, [])
  | .change change :: rest => (gateway.change change).run rest
  | .call call :: rest =>
    let reply := gateway.perform call
    let (final, replies) := reply.gateway.run rest
    (final, reply :: replies)

end Gateway

end DepositGate
