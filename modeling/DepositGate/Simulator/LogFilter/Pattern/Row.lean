/-!
# How deep the parts of a pattern are nested

Parts of a pattern that stand side by side are one level deeper together than the deepest of them
is, while a part that stands alone is no deeper for it. A pattern with too many levels cannot be
used.
-/

namespace DepositGate.Simulator.Pattern

/-- The greatest number of levels in a pattern. -/
def maxDepth : Nat := 250

/-- Parts side by side: how many they are, and how deep the deepest of them is. -/
structure Row where
  count : Nat
  deepest : Nat
deriving DecidableEq, Repr

namespace Row

def empty : Row := ⟨0, 0⟩

/-- The row with one more part of a given depth. -/
def add (row : Row) (depth : Nat) : Row := ⟨row.count + 1, max row.deepest depth⟩

/-- The row when one of its parts has become as deep as `depth`. -/
def deepen (row : Row) (depth : Nat) : Row := { row with deepest := max row.deepest depth }

/-- How deep the parts are together. -/
def depth (row : Row) : Nat :=
  if row.count < 2 then row.deepest else row.deepest + 1

end Row

end DepositGate.Simulator.Pattern
