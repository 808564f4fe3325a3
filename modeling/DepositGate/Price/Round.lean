import DepositGate.Amount

/-!
# Rounds of a price feed

A feed publishes its price in numbered rounds. The answer of a round is a signed number of 128 bits
on the feed's own decimal scale. A sequencer, where a chain has one, reports whether it is producing
blocks and since when.
-/

namespace DepositGate

/-- A signed number of 128 bits. -/
structure Answer where
  val : Int
  le_val : -2 ^ 127 ≤ val
  val_lt : val < 2 ^ 127
deriving DecidableEq

namespace Answer

@[ext] theorem ext {a b : Answer} (h : a.val = b.val) : a = b := by
  cases a; cases b; cases h; rfl

instance : Repr Answer := ⟨fun a _ => repr a.val⟩

def zero : Answer := ⟨0, by decide, by decide⟩

instance : Inhabited Answer := ⟨zero⟩

def ofInt? (n : Int) : Option Answer :=
  if h : -2 ^ 127 ≤ n ∧ n < 2 ^ 127 then some ⟨n, h.1, h.2⟩ else none

@[simp] theorem ofInt?_val (a : Answer) : ofInt? a.val = some a :=
  dif_pos ⟨a.le_val, a.val_lt⟩

def ofInt64 (n : Int64) : Answer :=
  ⟨n.toInt, Int.le_trans (by decide) n.le_toInt, Int.lt_trans n.toInt_lt (by decide)⟩

end Answer

/-- One published price. An update time of zero marks a round that never completed. -/
structure Round where
  id : UInt64
  answer : Answer
  startedAt : UInt64
  updatedAt : UInt64
  answeredIn : UInt64
deriving DecidableEq, Repr

structure SequencerStatus where
  isUp : Bool
  startedAt : UInt64
deriving DecidableEq, Repr

end DepositGate
