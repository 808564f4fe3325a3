import DepositGate.Text.Unprintable

/-!
# Texts shown inside messages

A message that repeats a text or a character of its input shows it between quotation marks, with
what a reader could not see written as an escape. The quotation mark in use and the backslash are
escaped; so are the tab, the two line ends and the null; other unprintable characters are shown by
their number in hexadecimal.
-/

namespace DepositGate.Text

/-- A character as it stands between quotation marks `mark`. -/
def shownChar (mark c : Char) : List Char :=
  if c = '\x00' then ['\\', '0']
  else if c = '\t' then ['\\', 't']
  else if c = '\n' then ['\\', 'n']
  else if c = '\r' then ['\\', 'r']
  else if c = '\\' ∨ c = mark then ['\\', c]
  else if isUnprintable c then
    ['\\', 'u', '\x7b'] ++ Nat.toDigits 16 c.toNat ++ ['\x7d']
  else [c]

/-- A text between double quotation marks. -/
def quoted (text : String) : String :=
  String.ofList ('"' :: text.toList.flatMap (shownChar '"') ++ ['"'])

/-- A single character between single quotation marks. -/
def quotedChar (c : Char) : String :=
  String.ofList ('\'' :: shownChar '\'' c ++ ['\''])

end DepositGate.Text
