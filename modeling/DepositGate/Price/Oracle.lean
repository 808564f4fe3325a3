import DepositGate.Price.Feed

/-!
# The price oracle

Before a feed's answer is used as a price it passes five checks, in this order: the sequencer, if
one is watched, is up and has been for its grace period; the answer is positive and its round
complete; the round that answered is not older than the round asked for; the answer is fresh; and
the feed's decimal places are few enough. The price is then put on the scale of 18 decimal places.
The feed is read anew for every quote.
-/

namespace DepositGate

/-- A price that passed the checks, in dollars per whole native unit on the 18-decimal scale. -/
structure Quote where
  price : Amount
  /-- The decimal places the feed answered in. -/
  decimals : UInt8
  observedAt : UInt64
  round : UInt64
deriving DecidableEq, Repr

/-- A sequencer's report, which may fail to be had, and how long the sequencer has to be up before
prices count. -/
structure SequencerGate where
  status : Except Refusal SequencerStatus
  grace : UInt64

/-- The difference, or zero where it would be negative. -/
def elapsed (since now : UInt64) : UInt64 :=
  if since ≤ now then now - since else 0

namespace Oracle

/-- The decimal places taken for those of a feed that tells none. -/
def fallbackDecimals : UInt8 := 8

def checkSequencer (gate : Option SequencerGate) (now : UInt64) : Except Refusal Unit :=
  match gate with
  | none => .ok ()
  | some gate => do
    let status ← gate.status
    if !status.isUp then .error (.oracleInvalid .sequencerDown)
    else
      let uptime := elapsed status.startedAt now
      if uptime < gate.grace then .error (.oracleInvalid (.gracePeriod uptime gate.grace))
      else .ok ()

def checkRound (round : Round) (window now : UInt64) : Except Refusal Unit :=
  let age := elapsed round.updatedAt now
  if round.answer.val ≤ 0 then .error (.oracleInvalid (.notPositive round.answer.val))
  else if round.updatedAt = 0 then .error (.oracleInvalid (.incompleteRound round.id))
  else if round.answeredIn < round.id then .error (.roundInconsistent round.id round.answeredIn)
  else if 0 < window ∧ window < age then .error (.oracleStale age window)
  else .ok ()

/-- The decimal places of a feed's answers: what it reports, or the fallback for nothing or zero. -/
def scaleOf (reported : Option UInt8) : Except Refusal UInt8 :=
  match reported with
  | none => .ok fallbackDecimals
  | some decimals =>
    if decimals = 0 then .ok fallbackDecimals
    else if 18 < decimals then .error (.oracleInvalid (.tooManyDecimals decimals))
    else .ok decimals

/-- The quote that a reading gives at a moment, if it passes every check. -/
def accept (gate : Option SequencerGate) (reading : Reading) (window now : UInt64) :
    Except Failure Quote := do
  refusing (checkSequencer gate now)
  let round ← refusing reading.round
  refusing (checkRound round window now)
  let decimals ← refusing (scaleOf reading.decimals)
  let factor ← computing (powerOfTen 256 (18 - decimals.toNat))
  return {
    price := .saturate (round.answer.val.toNat * factor)
    decimals := decimals
    observedAt := round.updatedAt
    round := round.id }

end Oracle

/-- The dollar value of a native amount at a price, rounded down and cut at the largest value. -/
def usdValue (amount price : Amount) (nativeDecimals : UInt8) : Except Fault Usd := do
  let unit ← powerOfTen 512 nativeDecimals.toNat
  return ⟨.saturate (amount.val * price.val / unit)⟩

structure Oracle where
  feed : Feed
  /-- The watched sequencer and the time it has to be up before prices count. -/
  sequencer : Option (SequencerStatus × UInt64)
  /-- The greatest age of an answer in seconds; zero is no limit. -/
  window : UInt64
  nativeDecimals : UInt8
deriving DecidableEq, Repr

namespace Oracle

def gate (oracle : Oracle) : Option SequencerGate :=
  oracle.sequencer.map fun watched => ⟨.ok watched.1, watched.2⟩

def quote (oracle : Oracle) (now : UInt64) : Except Failure Quote :=
  accept oracle.gate oracle.feed.reading oracle.window now

def quoteAsUsd (oracle : Oracle) (amount : Amount) (now : UInt64) : Except Failure Usd := do
  let quote ← oracle.quote now
  computing (usdValue amount quote.price oracle.nativeDecimals)

/-- Reports a new status of the watched sequencer; without one nothing changes. -/
def reportSequencer (oracle : Oracle) (status : SequencerStatus) : Oracle :=
  { oracle with sequencer := oracle.sequencer.map fun watched => (status, watched.2) }

end Oracle

end DepositGate
