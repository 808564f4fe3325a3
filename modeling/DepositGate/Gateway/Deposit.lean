import DepositGate.Gateway
import DepositGate.Gateway.Receipt

/-!
# Deposits

A request to deposit is judged by eight rules in a fixed order, and the first that fails is the
reason for its rejection: the gateway is not paused; the request is of some kind; its refund has a
recipient; the gas has a price; the gas is worth an amount within the caps; the block budget has
room for it; the epoch limit has room for the funds; and the vault takes both. The fourth to sixth
rules are for gas only and the seventh is for funds only. Drawing on the budgets is staged until the
vault has taken the deposit, so that a rejected request leaves nothing behind.
-/

namespace DepositGate.Gateway

/-- The legs of a request, after the rules that need neither price nor budgets. -/
def examine (gateway : Gateway) (request : Request) (value : Amount) : Except Failure Legs := do
  refusing gateway.requireRunning
  let legs ← request.plan value
  if request.refund.recipient.isZero then .error (.refused .invalidRecipient)
  else return legs

/-- The dollar value of gas within the caps; no gas is worth nothing and needs no price. -/
def price (gateway : Gateway) (gas : Amount) : Except Failure Usd :=
  if gas.isZero then .ok .zero
  else do
    let quote ← gateway.quote
    gateway.policy.check quote.price gas

def check (gateway : Gateway) (request : Request) (value : Amount) : Except Failure Plan := do
  let legs ← gateway.examine request value
  let gasUsd ← gateway.price legs.gas
  return ⟨legs.kind, legs.gas, gasUsd, legs.funds⟩

/-- Stages what a plan draws on both budgets, and tells the epoch it is charged to. -/
def draw (gateway : Gateway) (plan : Plan) :
    Except Failure (Ledger.Transaction × Option UInt64) := do
  let txn ← if plan.hasGas then
      refusing (gateway.ledger.begin.stageBlock plan.gasUsd gateway.clock.block)
    else pure gateway.ledger.begin
  match plan.funds with
  | none => return (txn, none)
  | some leg => txn.stageEpoch leg.asset leg.amount gateway.clock.now

/-- A plan with what it draws on the budgets. -/
structure Staged where
  plan : Plan
  txn : Ledger.Transaction
  epoch : Option UInt64

/-- All rules but the vault's. -/
def assess (gateway : Gateway) (request : Request) (value : Amount) : Except Failure Staged := do
  let plan ← gateway.check request value
  let (txn, epoch) ← gateway.draw plan
  return ⟨plan, txn, epoch⟩

/-- What is told while a request is judged: the price, if it is asked for. -/
def assessSignals (gateway : Gateway) (request : Request) (value : Amount) : List Signal :=
  match gateway.examine request value with
  | .ok legs => if legs.gas.isZero then [] else gateway.quoteSignals
  | .error _ => []

/-- The legs of an admitted request as they are announced. On the instant route there is one leg;
gas that comes with bridged funds is announced before them, as gas alone. -/
def announcements (sender : Address) (request : Request) (plan : Plan) : List Announcement :=
  let leg : Announcement := {
    sender := sender
    recipient := request.recipient
    asset := request.asset
    amount := request.amount
    payload := request.payload
    refund := request.refund
    kind := plan.kind
    signature := request.signature }
  let gas : Announcement :=
    { leg with recipient := .zero, asset := .native, amount := plan.gas }
  if plan.kind.isInstant then [gas]
  else if plan.kind = .fundsAndPayload ∧ plan.hasGas = true then
    [{ gas with payload := [], kind := .gas }, leg]
  else [leg]

/-- What is told of deposits that the vault took. -/
def tookInSignals (plan : Plan) (sender : Address) : List Signal :=
  if plan.deposits.isEmpty then [] else [.notice (.tookIn plan.deposits.length sender)]

def rejectionSignals (why : Refusal) : List Signal :=
  [.notice (.rejected why), .tally (.rejection why.kind)]

/-- Rejects a request before anything was moved. -/
def reject (gateway : Gateway) (failure : Failure) : Reply Receipt where
  result := .error failure
  gateway := gateway
  signals := match failure with
    | .refused why => rejectionSignals why
    | .fault _ => []

/-- Rejects a request that the vault does not take. -/
def discard (gateway : Gateway) (sender : Address) (why : Refusal) : Reply Receipt where
  result := .error (.refused why)
  gateway := gateway
  signals := [.notice (.discarded sender why), .tally .transferFailure] ++ rejectionSignals why

/-- The gateway after the vault took a deposit and its draw on the budgets is committed. -/
def settled (gateway : Gateway) (staged : Staged) (vault : Vault) : Gateway :=
  { gateway with ledger := staged.txn.commit, vault := vault }

/-- Admits a request whose legs the vault has taken. -/
def carryOut (gateway : Gateway) (id : String) (sender : Address) (request : Request)
    (staged : Staged) (vault : Vault) : Reply Receipt :=
  let plan := staged.plan
  let after := gateway.settled staged vault
  { result := .ok ⟨id, plan, gateway.clock.block, staged.epoch⟩
    gateway := after
    signals :=
      tookInSignals plan sender ++
      [.tally (.blockConsumed after.blockConsumed)] ++
      (announcements sender request plan).map (fun leg => .event (.deposited leg)) ++
      [.notice (.admitted id plan.kind plan.gasUsd gateway.clock.block),
        .tally (.admission plan.kind)] }

/-- Judges a request to deposit, and carries it out under the name `id` if no rule fails. -/
def send (gateway : Gateway) (id : String) (sender : Address) (request : Request)
    (value : Amount) : Reply Receipt :=
  let reply := match gateway.assess request value with
    | .error failure => gateway.reject failure
    | .ok staged =>
      match gateway.vault.depositBatch staged.plan.deposits sender with
      | .error why => gateway.discard sender why
      | .ok vault => gateway.carryOut id sender request staged vault
  { reply with signals := gateway.assessSignals request value ++ reply.signals }

/-- Judges a request by all rules but the vault's, and carries nothing out: what was staged for it
is rolled back. -/
def preview (gateway : Gateway) (request : Request) (value : Amount) : Reply Plan where
  result := (gateway.assess request value).map Staged.plan
  gateway := match gateway.assess request value with
    | .ok staged => { gateway with ledger := staged.txn.rollback }
    | .error _ => gateway
  signals := gateway.assessSignals request value

end DepositGate.Gateway
