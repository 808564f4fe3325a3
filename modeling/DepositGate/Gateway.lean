import DepositGate.Budget.Ledger
import DepositGate.Caps
import DepositGate.Clock
import DepositGate.Config
import DepositGate.Gateway.Metrics
import DepositGate.Gateway.Notice
import DepositGate.Vault

/-!
# The gateway

The gateway's state joins the price oracle, the caps on single deposits, the ledger of both budgets,
the vault, the members of the roles, the pause switch and the clock. A call on it is answered by a
reply: a result or the reason for having none, the state after the call, and the signals that the
call gave off, in their order.
-/

namespace DepositGate

structure Gateway where
  policy : CapPolicy
  oracle : Oracle
  ledger : Ledger
  vault : Vault
  roles : Roles
  isPaused : Bool
  clock : Clock
deriving DecidableEq

/-- What a call lets others know. -/
inductive Signal where
  | notice (notice : Notice)
  | event (event : Event)
  | tally (tally : Tally)
deriving DecidableEq, Repr

namespace Signal

def event? : Signal → Option Event
  | .event told => some told
  | _ => none

def tally? : Signal → Option Tally
  | .tally counted => some counted
  | _ => none

/-- The signal in a log that keeps notices. -/
def notice? : Signal → Option Notice
  | .notice told => some told
  | _ => none

/-- The signal in a log that keeps notices and events. -/
def logged? : Signal → Option Notice
  | .notice told => some told
  | .event told => some (.published told)
  | .tally _ => none

end Signal

structure Reply (α : Type) where
  result : Except Failure α
  gateway : Gateway
  signals : List Signal

namespace Reply

variable {α β : Type}

def map (f : α → β) (reply : Reply α) : Reply β := { reply with result := reply.result.map f }

def events (reply : Reply α) : List Event := reply.signals.filterMap Signal.event?

def tallies (reply : Reply α) : List Tally := reply.signals.filterMap Signal.tally?

end Reply

namespace Gateway

/-- The gateway that a configuration describes, with an empty vault. It is not paused, and nothing
has been drawn on its budgets. -/
def configure (config : Config) (feed : Feed) (sequencer : Option SequencerStatus) (roles : Roles)
    (clock : Clock) : Except Config.Flaw Gateway := do
  config.validate
  let caps ← config.caps
  let blockCap ← config.blockBudget
  return {
    policy := ⟨caps, config.nativeDecimals⟩
    oracle := {
      feed := feed
      sequencer := sequencer.map fun status => (status, config.gracePeriod)
      window := config.stalePeriod
      nativeDecimals := config.nativeDecimals }
    ledger := config.thresholds.entries.foldl
      (fun ledger entry => ledger.setThreshold entry.1 entry.2)
      (.start blockCap config.epochDuration)
    vault := .empty
    roles := roles
    isPaused := false
    clock := clock }

/-- What is told of a gateway when it is configured. -/
def configuredNotice (gateway : Gateway) : Notice :=
  .configured gateway.policy.caps gateway.ledger.block.cap gateway.ledger.epochs.duration

/-! ## Replies -/

/-- A call that changes nothing and only answers. -/
def answer {α : Type} (gateway : Gateway) (result : Except Failure α) : Reply α :=
  ⟨result, gateway, []⟩

def refuse {α : Type} (gateway : Gateway) (why : Refusal) : Reply α :=
  gateway.answer (.error (.refused why))

/-- The reply that tells of a change by one notice and one event. -/
def changed (gateway : Gateway) (notice : Notice) (event : Event) : Reply Unit :=
  ⟨.ok (), gateway, [.notice notice, .event event]⟩

/-! ## Guards and queries -/

def requireRunning (gateway : Gateway) : Except Refusal Unit :=
  if gateway.isPaused then .error .paused else .ok ()

/-- Passes a caller that has the role or one of the `others`. -/
def requireRole (gateway : Gateway) (caller : Address) (role : Role) (others : List Role) :
    Except Refusal Unit :=
  if (role :: others).any fun role => gateway.roles.holds role caller then .ok ()
  else .error (.unauthorized caller role)

def quote (gateway : Gateway) : Except Failure Quote := gateway.oracle.quote gateway.clock.now

/-- What is told of the price when it is asked for. -/
def quoteSignals (gateway : Gateway) : List Signal :=
  match gateway.quote with
  | .ok quote => [.notice (.quoted quote (elapsed quote.observedAt gateway.clock.now))]
  | .error _ => []

/-- What has been consumed in the current block. -/
def blockConsumed (gateway : Gateway) : Usd := gateway.ledger.consumedAt gateway.clock.block

/-- What is used of an asset's threshold in the current epoch, and what remains. -/
def usage (gateway : Gateway) (asset : Asset) : Except Failure (Amount × Amount) :=
  gateway.ledger.usage asset gateway.clock.now

/-- The bounds of a deposit in native currency at the current price. -/
def nativeBounds (gateway : Gateway) : Reply (Amount × Amount) where
  result := do
    let quote ← gateway.quote
    computing (gateway.policy.nativeBounds quote.price)
  gateway := gateway
  signals := gateway.quoteSignals

end Gateway

end DepositGate
