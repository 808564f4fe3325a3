import DepositGate.Gateway.Run

/-!
# Gateways side by side

All gateways of a process count into the same metrics. A gateway may share its vault, its roles, its
clock, its feeds and its ledger with others, and the world around it changes too, so that between
two of its calls it may come to stand in any other way. A run of a fleet is a finite row of calls on
its gateways, with such shifts between them and with gateways that join on the way.
-/

namespace DepositGate

structure Fleet where
  gateways : List Gateway
  /-- What all gateways count into. -/
  metrics : Metrics

namespace Fleet

inductive Step where
  | join (gateway : Gateway)
  /-- The gateway of this number has come to stand as given. -/
  | shift (index : Nat) (gateway : Gateway)
  | call (index : Nat) (call : Call)
deriving DecidableEq

/-- The fleet after a step. A call on a number that no gateway has does nothing. -/
def step (fleet : Fleet) : Step → Fleet
  | .join gateway => { fleet with gateways := fleet.gateways ++ [gateway] }
  | .shift index gateway => { fleet with gateways := fleet.gateways.set index gateway }
  | .call index call =>
    match fleet.gateways[index]? with
    | none => fleet
    | some gateway =>
      let reply := gateway.perform call
      ⟨fleet.gateways.set index reply.gateway, fleet.metrics.take reply.tallies⟩

def run (fleet : Fleet) (steps : List Step) : Fleet := steps.foldl step fleet

end Fleet

end DepositGate
