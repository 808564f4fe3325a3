import DepositGate.Text.Hex

/-!
# Universally unique identifiers

Sixteen random bytes are shown as an identifier of version 4: four bits tell the version and two the
variant, and the rest are kept. The digits stand in five groups with hyphens between them.
-/

namespace DepositGate.Text.Uuid

/-- A byte with the bits that version 4 fixes at its place. -/
def marked (place : Nat) (byte : UInt8) : UInt8 :=
  if place = 6 then (byte &&& 0x0f) ||| 0x40
  else if place = 8 then (byte &&& 0x3f) ||| 0x80
  else byte

def markedBytes (bytes : List UInt8) : List UInt8 :=
  (List.range bytes.length).zipWith marked bytes

/-- The first and last places of the groups, the last place not included. -/
def groups : List (Nat × Nat) := [(0, 4), (4, 6), (6, 8), (8, 10), (10, 16)]

def text (bytes : List UInt8) : String :=
  String.intercalate "-" (groups.map fun (start, stop) =>
    String.ofList (Hex.encode (((markedBytes bytes).take stop).drop start)))

end DepositGate.Text.Uuid
