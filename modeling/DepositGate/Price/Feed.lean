import DepositGate.Price.Round
import DepositGate.Refusal

/-!
# Price feeds

A feed is read for its latest round and for the number of decimal places of its answers, which it
may be unable to tell. One sort of feed holds a round and replaces it. The other takes updates that
give a price, a power of ten to scale it by and a width of confidence; it answers only for a
negative exponent and refuses a positive price whose confidence is too wide for it.
-/

namespace DepositGate

/-- What can be read from a feed at one moment. -/
structure Reading where
  round : Except Refusal Round
  decimals : Option UInt8

structure RoundFeed where
  round : Round
  decimals : Option UInt8
  available : Bool
deriving DecidableEq, Repr

namespace RoundFeed

/-- A feed whose first round gives `answer`. -/
def start (answer : Answer) (decimals : Option UInt8) (updatedAt : UInt64) : RoundFeed where
  round := ⟨1, answer, updatedAt, updatedAt, 1⟩
  decimals := decimals
  available := true

/-- Answers in a new round. Round numbers wrap around at 2^64. -/
def publish (feed : RoundFeed) (answer : Answer) (updatedAt : UInt64) : RoundFeed :=
  let id := feed.round.id + 1
  { feed with round := ⟨id, answer, updatedAt, updatedAt, id⟩ }

def reading (feed : RoundFeed) : Reading where
  round := if feed.available then .ok feed.round else .error (.oracleInvalid .feedUnavailable)
  decimals := feed.decimals

end RoundFeed

/-- A price of `price * 10^exponent`, give or take `confidence` units of the price. -/
structure ExponentUpdate where
  price : Int64
  confidence : UInt64
  exponent : Int32
  publishedAt : UInt64
deriving DecidableEq, Repr

structure ExponentFeed where
  /-- The last update and its number in the row of updates. -/
  latest : Option (ExponentUpdate × UInt64)
  /-- The widest confidence accepted, in ten-thousandths of the price. -/
  maxConfidence : UInt64
deriving DecidableEq, Repr

namespace ExponentFeed

def publish (feed : ExponentFeed) (update : ExponentUpdate) : ExponentFeed :=
  let number := match feed.latest with
    | some (_, number) => number + 1
    | none => 1
  { feed with latest := some (update, number) }

def isTooWide (feed : ExponentFeed) (update : ExponentUpdate) : Bool :=
  decide (0 < update.price.toInt) &&
    decide (update.price.toInt * feed.maxConfidence.toNat < update.confidence.toNat * 10000)

def round (feed : ExponentFeed) : Except Refusal Round :=
  match feed.latest with
  | none => .error (.oracleInvalid .nothingPublished)
  | some (update, number) =>
    if 0 ≤ update.exponent.toInt then .error (.oracleInvalid (.badExponent update.exponent))
    else if feed.isTooWide update then
      .error (.oracleInvalid (.wideConfidence update.confidence update.price))
    else
      .ok ⟨number, .ofInt64 update.price, update.publishedAt, update.publishedAt, number⟩

/-- The size of the exponent, where it fits a byte. -/
def decimals (feed : ExponentFeed) : Option UInt8 :=
  match feed.latest with
  | none => none
  | some (update, _) =>
    let size := update.exponent.toInt.natAbs
    if size < 256 then some (UInt8.ofNat size) else none

def reading (feed : ExponentFeed) : Reading := ⟨feed.round, feed.decimals⟩

end ExponentFeed

inductive Feed where
  | rounds (feed : RoundFeed)
  | exponents (feed : ExponentFeed)
deriving DecidableEq, Repr

namespace Feed

def reading : Feed → Reading
  | rounds feed => feed.reading
  | exponents feed => feed.reading

end Feed

/-- What happens at a feed from outside. A change meant for the other sort of feed does nothing. -/
inductive FeedChange where
  | answer (answer : Answer) (updatedAt : UInt64)
  | round (round : Round)
  | availability (available : Bool)
  | update (update : ExponentUpdate)
deriving DecidableEq, Repr

namespace Feed

def change : Feed → FeedChange → Feed
  | rounds feed, .answer answer updatedAt => rounds (feed.publish answer updatedAt)
  | rounds feed, .round round => rounds { feed with round := round }
  | rounds feed, .availability available => rounds { feed with available := available }
  | exponents feed, .update update => exponents (feed.publish update)
  | feed, _ => feed

end Feed

end DepositGate
