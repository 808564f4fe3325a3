import DepositGate.Text.Blank

/-!
# Single characters and escapes of a pattern

What stands for itself in a pattern is a character, or an escape for a character, a class of them or
a place between them. Flags decide which of these can be used. No tables of letters are at hand:
while the flag `u` is on, as it is at the start, classes by escape such as that of the digits, word
boundaries and, under the flag `i`, all characters are refused. While `u` is off, whatever could
match half of a character is refused.
-/

namespace DepositGate.Simulator.Pattern

open DepositGate.Text

/-- The flags that decide what may stand in a pattern. -/
structure Mode where
  /-- The flag `i`: upper and lower case are one. -/
  foldsCase : Bool
  /-- The flag `u`: a character is one of Unicode and not a byte. -/
  unicode : Bool
  /-- The flag `x`: blanks and comments are passed over. -/
  spaced : Bool
deriving DecidableEq, Repr

namespace Mode

def initial : Mode := ⟨false, true, false⟩

def set (mode : Mode) (flag : Char) (value : Bool) : Mode :=
  if flag = 'i' then { mode with foldsCase := value }
  else if flag = 'u' then { mode with unicode := value }
  else if flag = 'x' then { mode with spaced := value }
  else mode

/-- Passes over blanks, and comments from a number sign to the end of the line. -/
def skipFrom (inComment : Bool) : List Char → List Char
  | [] => []
  | c :: rest =>
    if inComment then skipFrom (c != '\n') rest
    else if isBlank c then skipFrom false rest
    else if c = '#' then skipFrom true rest
    else c :: rest

def skip (mode : Mode) (text : List Char) : List Char :=
  if mode.spaced then skipFrom false text else text

/-- The first character that is no blank, and is not the number sign of a comment. -/
def peekFrom (inComment : Bool) : List Char → Option Char
  | [] => none
  | c :: rest =>
    if isBlank c then peekFrom inComment rest
    else if c = '#' ∧ inComment = false then peekFrom true rest
    else some c

/-- The next character that counts. Of a comment only the number sign is passed over. -/
def peek? (mode : Mode) (text : List Char) : Option Char :=
  if mode.spaced then peekFrom false text else text.head?

end Mode

/-- What a single character or an escape stands for. -/
inductive Atom where
  /-- A character; `isByte` if it is given as a byte. -/
  | literal (c : Char) (isByte : Bool)
  /-- A class with a letter for its name, or all that is not in it. -/
  | namedClass (negated : Bool)
  | anchor
  | wordBoundary
deriving DecidableEq, Repr

def Atom.isUsable (atom : Atom) (mode : Mode) : Bool :=
  match atom with
  | .literal c isByte =>
    if mode.unicode then !mode.foldsCase else !isByte || decide (c.toNat < 128)
  | .namedClass negated => !mode.unicode && !negated
  | .anchor => true
  | .wordBoundary => !mode.unicode

def isHexDigit (c : Char) : Bool :=
  ('0' ≤ c && c ≤ '9') || ('a' ≤ c && c ≤ 'f') || ('A' ≤ c && c ≤ 'F')

def hexValue (c : Char) : Nat :=
  if c ≤ '9' then c.toNat - 48 else if c ≤ 'F' then c.toNat - 55 else c.toNat - 87

/-- The number given by `count` hexadecimal digits, and what follows them. -/
def hexDigits (mode : Mode) : Nat → Nat → List Char → Option (Nat × List Char)
  | 0, n, text => some (n, text)
  | count + 1, n, text =>
    match mode.skip text with
    | c :: rest => if isHexDigit c then hexDigits mode count (16 * n + hexValue c) rest else none
    | [] => none

def hexLiteral (mode : Mode) (count : Nat) (text : List Char) : Option (Atom × List Char) := do
  let (n, rest) ← hexDigits mode count 0 text
  if n.isValidChar then some (.literal (Char.ofNat n) (count == 2), mode.skip rest) else none

/-- What stands after a backslash. -/
def escape (mode : Mode) : List Char → Option (Atom × List Char)
  | [] => none
  | c :: rest =>
    if c = 'x' then hexLiteral mode 2 rest
    else if c = 'u' then hexLiteral mode 4 rest
    else if c = 'U' then hexLiteral mode 8 rest
    else if ['d', 's', 'w'].contains c then some (.namedClass false, rest)
    else if ['D', 'S', 'W'].contains c then some (.namedClass true, rest)
    else if ['a', 'f', 't', 'n', 'r', 'v'].contains c then
      let named : Char :=
        if c = 'a' then '\x07' else if c = 'f' then '\x0c' else if c = 't' then '\t'
        else if c = 'n' then '\n' else if c = 'r' then '\r' else '\x0b'
      some (.literal named false, rest)
    else if c = 'A' ∨ c = 'z' then some (.anchor, rest)
    else if ['b', 'B', '<', '>'].contains c then some (.wordBoundary, rest)
    else if c.isAlphanum ∨ 128 ≤ c.toNat then none
    else some (.literal c false, rest)

end DepositGate.Simulator.Pattern
