/-!
# Ranges of characters

A property of characters is given by the closed ranges of numbers that have it, in rising order.
-/

namespace DepositGate.Text

/-- The first and the last number of each range. -/
abbrev Ranges := Array (Nat × Nat)

def Ranges.has (ranges : Ranges) (c : Char) : Bool :=
  ranges.any fun range => range.1 ≤ c.toNat && c.toNat ≤ range.2

end DepositGate.Text
