import DepositGate.Json.Node

/-!
# Writing JSON text

A tree is written without any white space, members in the order they have in the tree. In strings
only the quotation mark, the backslash and the control characters below the space are escaped.
Damage has no text.
-/

namespace DepositGate.Json

def hexDigits4 (n : Nat) : List Char :=
  [Nat.digitChar (n / 4096 % 16), Nat.digitChar (n / 256 % 16), Nat.digitChar (n / 16 % 16),
    Nat.digitChar (n % 16)]

def writeChar (c : Char) : List Char :=
  if c = '"' then ['\\', '"']
  else if c = '\\' then ['\\', '\\']
  else if c = '\x08' then ['\\', 'b']
  else if c = '\x0c' then ['\\', 'f']
  else if c = '\n' then ['\\', 'n']
  else if c = '\r' then ['\\', 'r']
  else if c = '\t' then ['\\', 't']
  else if c.toNat < 0x20 then '\\' :: 'u' :: hexDigits4 c.toNat
  else [c]

def writeString (text : List Char) : List Char :=
  '"' :: text.flatMap writeChar ++ ['"']

mutual

def Node.write : Node → List Char
  | .damaged => []
  | .null => ['n', 'u', 'l', 'l']
  | .bool true => ['t', 'r', 'u', 'e']
  | .bool false => ['f', 'a', 'l', 's', 'e']
  | .number text => text.toChars
  | .string text => writeString (text.getD "").toList
  | .array items => '[' :: items.write true
  | .object members => '\x7b' :: members.write true

/-- The items from one on, with the closing bracket. -/
def Items.write (first : Bool) : Items → List Char
  | .close => [']']
  | .damaged => []
  | .item head rest => (if first then [] else [',']) ++ head.write ++ rest.write false

def Members.write (first : Bool) : Members → List Char
  | .close => ['\x7d']
  | .stray _ => []
  | .member name value rest =>
    (if first then [] else [',']) ++ writeString (name.getD "").toList ++ ':' :: value.write ++
      rest.write false

end

def Node.toText (node : Node) : String := String.ofList node.write

end DepositGate.Json
