import DepositGate.Refusal

/-!
# Deposit requests

A request names an asset and an amount to bridge, data to run with it on the destination chain, and
where a refund goes. The native value sent along is not part of the request. What the request holds
decides its kind, and the kind splits it into at most two legs: native currency that pays for gas,
priced in dollars at once, and bridged funds, limited per asset over time.
-/

namespace DepositGate

/-- Where a deposit goes back to when it cannot be carried out. -/
structure Refund where
  recipient : Address
  message : List UInt8
deriving DecidableEq, Repr

structure Request where
  recipient : DestinationAddress
  asset : Asset
  amount : Amount
  payload : List UInt8
  refund : Refund
  signature : List UInt8
deriving DecidableEq, Repr

inductive DepositKind where
  | gas
  | gasAndPayload
  | funds
  | fundsAndPayload
deriving DecidableEq, Repr

namespace DepositKind

def name : DepositKind → String
  | gas => "Gas"
  | gasAndPayload => "GasAndPayload"
  | funds => "Funds"
  | fundsAndPayload => "FundsAndPayload"

def label : DepositKind → String
  | gas => "gas"
  | gasAndPayload => "gas_and_payload"
  | funds => "funds"
  | fundsAndPayload => "funds_and_payload"

def all : List DepositKind := [gas, gasAndPayload, funds, fundsAndPayload]

/-- Whether the deposit takes the instant route, on which it is capped in dollars. -/
def isInstant : DepositKind → Bool
  | gas | gasAndPayload => true
  | funds | fundsAndPayload => false

end DepositKind

structure FundsLeg where
  asset : Asset
  amount : Amount
deriving DecidableEq, Repr

/-- What a request moves: native currency for gas, zero when there is none, and bridged funds. -/
structure Legs where
  kind : DepositKind
  gas : Amount
  funds : Option FundsLeg
deriving DecidableEq, Repr

namespace Request

/-- The kind of a request sent with native `value`, if the two fit together. Without bridged funds
anything is accepted but the empty request. Funds without a payload have to be covered exactly by
the value sent, funds with a payload at least covered. -/
def classify (request : Request) (value : Amount) : Except Refusal DepositKind :=
  if request.amount.isZero then
    if !request.payload.isEmpty then .ok .gasAndPayload
    else if value.isZero then .error (.invalidInput .emptyRequest)
    else .ok .gas
  else if !request.payload.isEmpty then
    if request.asset.isNative && decide (value < request.amount) then
      .error (.invalidAmount (.valueBelowBridged value request.amount))
    else .ok .fundsAndPayload
  else
    match request.asset with
    | .native =>
      if value = request.amount then .ok .funds
      else .error (.invalidAmount (.valueNotBridged value request.amount))
    | .token _ =>
      if value.isZero then .ok .funds else .error (.invalidAmount (.valueWithToken value))

/-- The legs of a request of a given kind. Native value beyond bridged native funds is gas. -/
def split (request : Request) (value : Amount) (kind : DepositKind) : Except Fault Legs :=
  let funds := some ⟨request.asset, request.amount⟩
  match kind with
  | .gas | .gasAndPayload => .ok ⟨kind, value, none⟩
  | .funds => .ok ⟨kind, .zero, funds⟩
  | .fundsAndPayload =>
    if request.asset.isNative then do
      let gas ← value.sub request.amount
      return ⟨kind, gas, funds⟩
    else .ok ⟨kind, value, funds⟩

def plan (request : Request) (value : Amount) : Except Failure Legs := do
  let kind ← refusing (request.classify value)
  computing (request.split value kind)

end Request

end DepositGate
