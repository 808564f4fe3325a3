import DepositGate.Asset
import DepositGate.Roles
import DepositGate.Usd

/-!
# Refusals

The gateway answers a call that it will not carry out with a refusal that says which rule failed and
on which values. Every refusal belongs to one of fourteen kinds, whose labels are used for counting,
and has one message for people. A computation may also stop on a `Fault`, which no rule foresees;
`Failure` is either of the two.
-/

namespace DepositGate

/-- What is wrong with a price, or with what a price depends on. -/
inductive OracleFlaw where
  | sequencerDown
  | gracePeriod (uptime grace : UInt64)
  | notPositive (answer : Int)
  | incompleteRound (round : UInt64)
  | tooManyDecimals (decimals : UInt8)
  | feedUnavailable
  | nothingPublished
  | badExponent (exponent : Int32)
  | wideConfidence (confidence : UInt64) (price : Int64)
deriving DecidableEq, Repr

def OracleFlaw.message : OracleFlaw → String
  | .sequencerDown => "sequencer is down"
  | .gracePeriod uptime grace =>
    "sequencer grace period not over (" ++ toString uptime.toNat ++ "s of " ++
      toString grace.toNat ++ "s)"
  | .notPositive answer => "non-positive answer " ++ toString answer
  | .incompleteRound round => "round " ++ toString round.toNat ++ " incomplete"
  | .tooManyDecimals decimals => "feed decimals " ++ toString decimals.toNat ++ " exceed 18"
  | .feedUnavailable => "feed unavailable"
  | .nothingPublished => "no price published"
  | .badExponent exponent => "unsupported exponent " ++ toString exponent.toInt
  | .wideConfidence confidence price =>
    "confidence " ++ toString confidence.toNat ++ " too wide for price " ++ toString price.toInt

/-- Why assets could not be moved into or out of custody. -/
inductive TransferFlaw where
  | depositRefused (amount : Amount) (asset : Asset) (sender : Address)
  | custodyTooLarge (asset : Asset)
  | releaseRefused (amount : Amount) (asset : Asset)
  | shortOfCustody (asset : Asset) (held amount : Amount)
deriving DecidableEq, Repr

def TransferFlaw.message : TransferFlaw → String
  | .depositRefused amount asset sender =>
    "deposit of " ++ amount.toText ++ " " ++ asset.toText ++ " from " ++ sender.toText ++ " refused"
  | .custodyTooLarge asset => "custody of " ++ asset.toText ++ " overflows"
  | .releaseRefused amount asset =>
    "release of " ++ amount.toText ++ " " ++ asset.toText ++ " refused"
  | .shortOfCustody asset held amount =>
    "insufficient custody of " ++ asset.toText ++ ": " ++ held.toText ++ " < " ++ amount.toText

/-- Why an input has no meaning to the gateway. -/
inductive InputFlaw where
  | emptyRequest
  | badScale (why : Usd.ScaleError)
  | badAsset (why : Asset.TextError)
deriving DecidableEq, Repr

def InputFlaw.message : InputFlaw → String
  | .emptyRequest => "request carries no gas, funds or payload"
  | .badScale why => why.message
  | .badAsset why => why.message

/-- Why the amounts of a call do not fit together. -/
inductive AmountFlaw where
  | valueBelowBridged (value bridged : Amount)
  | valueNotBridged (value bridged : Amount)
  | valueWithToken (value : Amount)
  | zeroRelease
deriving DecidableEq, Repr

def AmountFlaw.message : AmountFlaw → String
  | .valueBelowBridged value bridged =>
    "native value " ++ value.toText ++ " below bridged amount " ++ bridged.toText
  | .valueNotBridged value bridged =>
    "native value " ++ value.toText ++ " must equal bridged amount " ++ bridged.toText
  | .valueWithToken value =>
    "native value " ++ value.toText ++ " sent with a token-only bridge"
  | .zeroRelease => "zero release amount"

inductive Refusal where
  | paused
  | unauthorized (caller : Address) (role : Role)
  | oracleInvalid (why : OracleFlaw)
  | oracleStale (age window : UInt64)
  | roundInconsistent (round answeredIn : UInt64)
  | outOfRange (usd min max : Usd)
  | blockCapExceeded (requested consumed cap : Usd)
  | tokenUnsupported (asset : Asset)
  | rateLimitExceeded (asset : Asset) (requested used threshold : Amount)
  | transferFailed (why : TransferFlaw)
  | invalidInput (why : InputFlaw)
  | invalidAmount (why : AmountFlaw)
  | invalidRecipient
  | invalidCapRange (min max : Usd)
deriving DecidableEq, Repr

/-- The rule that a refusal names, without the values it failed on. -/
inductive RefusalKind where
  | paused
  | unauthorized
  | oracleInvalid
  | oracleStale
  | roundInconsistent
  | outOfRange
  | blockCapExceeded
  | tokenUnsupported
  | rateLimitExceeded
  | transferFailed
  | invalidInput
  | invalidAmount
  | invalidRecipient
  | invalidCapRange
deriving DecidableEq, Repr

namespace RefusalKind

def label : RefusalKind → String
  | paused => "paused"
  | unauthorized => "unauthorized"
  | oracleInvalid => "oracle_invalid"
  | oracleStale => "oracle_stale"
  | roundInconsistent => "oracle_round_inconsistent"
  | outOfRange => "amount_out_of_range"
  | blockCapExceeded => "block_cap_exceeded"
  | tokenUnsupported => "token_unsupported"
  | rateLimitExceeded => "rate_limit_exceeded"
  | transferFailed => "transfer_failed"
  | invalidInput => "invalid_input"
  | invalidAmount => "invalid_amount"
  | invalidRecipient => "invalid_recipient"
  | invalidCapRange => "invalid_cap_range"

/-- All kinds, in the order of their labels. -/
def all : List RefusalKind :=
  [outOfRange, blockCapExceeded, invalidAmount, invalidCapRange, invalidInput, invalidRecipient,
    oracleInvalid, roundInconsistent, oracleStale, paused, rateLimitExceeded, tokenUnsupported,
    transferFailed, unauthorized]

end RefusalKind

namespace Refusal

def kind : Refusal → RefusalKind
  | paused => .paused
  | unauthorized .. => .unauthorized
  | oracleInvalid _ => .oracleInvalid
  | oracleStale .. => .oracleStale
  | roundInconsistent .. => .roundInconsistent
  | outOfRange .. => .outOfRange
  | blockCapExceeded .. => .blockCapExceeded
  | tokenUnsupported _ => .tokenUnsupported
  | rateLimitExceeded .. => .rateLimitExceeded
  | transferFailed _ => .transferFailed
  | invalidInput _ => .invalidInput
  | invalidAmount _ => .invalidAmount
  | invalidRecipient => .invalidRecipient
  | invalidCapRange .. => .invalidCapRange

def message : Refusal → String
  | paused => "Gateway is paused"
  | unauthorized caller role =>
    "Unauthorized: caller " ++ caller.toText ++ " lacks role " ++ role.name
  | oracleInvalid why => "Invalid oracle price: " ++ why.message
  | oracleStale age window =>
    "Stale oracle price: observed " ++ toString age.toNat ++ "s ago, window is " ++
      toString window.toNat ++ "s"
  | roundInconsistent round answeredIn =>
    "Inconsistent oracle round: answered in " ++ toString answeredIn.toNat ++ " < round " ++
      toString round.toNat
  | outOfRange usd min max =>
    "Amount out of range: " ++ usd.toText ++ " not within [" ++ min.toText ++ ", " ++
      max.toText ++ "]"
  | blockCapExceeded requested consumed cap =>
    "Block USD cap exceeded: " ++ consumed.toText ++ " consumed + " ++ requested.toText ++
      " requested > " ++ cap.toText
  | tokenUnsupported asset => "Token not supported: " ++ asset.toText
  | rateLimitExceeded asset requested used threshold =>
    "Rate limit exceeded for " ++ asset.toText ++ ": " ++ used.toText ++ " used + " ++
      requested.toText ++ " requested > " ++ threshold.toText
  | transferFailed why => "Transfer failed: " ++ why.message
  | invalidInput why => "Invalid input: " ++ why.message
  | invalidAmount why => "Invalid amount: " ++ why.message
  | invalidRecipient => "Invalid recipient"
  | invalidCapRange min max => "Invalid cap range: min " ++ min.toText ++ ", max " ++ max.toText

end Refusal

/-- Why a call gives no result: a rule refuses it, or a computation has none. -/
inductive Failure where
  | refused (why : Refusal)
  | fault (what : Fault)
deriving DecidableEq, Repr

/-- Takes a result that can only be refused for one that can also fail otherwise. -/
def refusing {α : Type} : Except Refusal α → Except Failure α
  | .ok a => .ok a
  | .error why => .error (.refused why)

/-- Takes a computation on bounded numbers for one step of a call. -/
def computing {α : Type} : Except Fault α → Except Failure α
  | .ok a => .ok a
  | .error what => .error (.fault what)

@[simp] theorem refusing_ok {α : Type} (a : α) : refusing (.ok a) = .ok a := rfl

@[simp] theorem refusing_error {α : Type} (why : Refusal) :
    refusing (.error why : Except Refusal α) = .error (.refused why) := rfl

@[simp] theorem computing_ok {α : Type} (a : α) : computing (.ok a) = .ok a := rfl

@[simp] theorem computing_error {α : Type} (what : Fault) :
    computing (.error what : Except Fault α) = .error (.fault what) := rfl

end DepositGate
