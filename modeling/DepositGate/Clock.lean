/-!
# The clock

The gateway reads the time in seconds and the number of the current block. Both can be set to any
value; moving either forward wraps around at 2^64.
-/

namespace DepositGate

structure Clock where
  now : UInt64
  block : UInt64
deriving DecidableEq, Repr, Inhabited

inductive ClockChange where
  | setTime (now : UInt64)
  | advance (seconds : UInt64)
  | setBlock (block : UInt64)
  | nextBlock
deriving DecidableEq, Repr

namespace Clock

def change (clock : Clock) : ClockChange → Clock
  | .setTime now => { clock with now := now }
  | .advance seconds => { clock with now := clock.now + seconds }
  | .setBlock block => { clock with block := block }
  | .nextBlock => { clock with block := clock.block + 1 }

/-- The clock at a time in seconds when blocks come at a fixed pace, at most one a second. -/
def paced (blockTime now : UInt64) : Clock :=
  ⟨now, now / (if blockTime = 0 then 1 else blockTime)⟩

end Clock

end DepositGate
