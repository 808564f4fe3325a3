import DepositGate.Simulator.LogFilter.Pattern.Class
import DepositGate.Text.Letter

/-!
# Patterns for the values of fields

A log filter may compare the value of a field with a pattern, which is a regular expression. Only
whether a pattern can be used is decided here.

A pattern is a row of characters, classes in brackets, groups in parentheses, alternatives between
bars, repetitions, anchors and escapes. Flags hold from where they are set to the end of the group.
Counted repetitions are refused always, since the brace at their end would end the field before
them. Groups, repetitions, rows and alternatives each add a level, and the levels are limited.
-/

namespace DepositGate.Simulator

open DepositGate.Text

namespace Pattern

/-- What stood around a group before it was opened. -/
structure Around where
  mode : Mode
  branches : Row
  parts : Row
deriving DecidableEq, Repr

/-- What has been read of a pattern. -/
structure Reading where
  mode : Mode
  /-- The alternatives before the last bar. -/
  branches : Row
  /-- The parts since the last bar. -/
  parts : Row
  /-- How deep the last part is, if it can be repeated. -/
  last : Option Nat
  /-- What stands around the open groups, the innermost first. -/
  outer : List Around
  names : List (List Char)
deriving Repr

/-- Reads flags: those then in force, whether they open a group, and what follows. `seen` holds what
was read of the flags so far, the last first. -/
def flags (mode : Mode) (value : Bool) (seen : List Char) :
    List Char → Option (Mode × Bool × List Char)
  | [] => none
  | c :: rest =>
    if c = ':' then if seen.head? = some '-' then none else some (mode, true, rest)
    else if c = ')' then
      if seen.isEmpty ∨ seen.head? = some '-' then none else some (mode, false, rest)
    else if seen.contains c then none
    else if c = '-' then flags mode false (c :: seen) rest
    else if ['i', 'm', 's', 'U', 'u', 'R', 'x'].contains c then
      flags (mode.set c value) value (c :: seen) rest
    else none

def isNamePart (c : Char) : Bool :=
  isLetter c || isNumeral c || c == '_' || c == '.' || c == '[' || c == ']'

/-- The name of a group, and what follows the sign after it. -/
def groupName? (text : List Char) : Option (List Char × List Char) :=
  match text.takeWhile (· != '>'), text.dropWhile (· != '>') with
  | c :: name, _ :: rest =>
    if (isLetter c || c == '_') && name.all isNamePart then some (c :: name, rest) else none
  | _, _ => none

namespace Reading

def start : Reading := ⟨.initial, .empty, .empty, none, [], []⟩

/-- How deep the group being read is inside. -/
def depth (reading : Reading) : Nat := (reading.branches.add reading.parts.depth).depth

/-- Takes a part of a given depth. -/
def take (reading : Reading) (depth : Nat) : Reading :=
  { reading with parts := reading.parts.add depth, last := some depth }

/-- Takes flags, which are a part that cannot be repeated. -/
def setMode (reading : Reading) (mode : Mode) : Reading :=
  { reading with mode := mode, parts := reading.parts.add 0, last := none }

def openGroup (reading : Reading) (mode : Mode) : Reading :=
  { reading with
    mode := mode
    branches := .empty
    parts := .empty
    last := none
    outer := ⟨reading.mode, reading.branches, reading.parts⟩ :: reading.outer }

def closeGroup (reading : Reading) : Option Reading :=
  match reading.outer with
  | [] => none
  | around :: outer =>
    let before := { reading with
      mode := around.mode
      branches := around.branches
      parts := around.parts
      outer := outer }
    some (before.take (reading.depth + 1))

/-- Ends an alternative. -/
def bar (reading : Reading) : Reading :=
  { reading with
    branches := reading.branches.add reading.parts.depth
    parts := .empty
    last := none }

/-- Repeats the last part. -/
def repeatLast (reading : Reading) : Option Reading :=
  reading.last.map fun depth =>
    { reading with parts := reading.parts.deepen (depth + 1), last := some (depth + 1) }

def openNamed (reading : Reading) (text : List Char) : Option (Reading × List Char) := do
  let (name, rest) ← groupName? text
  if reading.names.contains name then none
  else some ({ reading with names := name :: reading.names }.openGroup reading.mode, rest)

/-- Reads the start of a group, or flags in parentheses, after the parenthesis. -/
def parenthesis (reading : Reading) (text : List Char) : Option (Reading × List Char) :=
  match reading.mode.skip text with
  | '?' :: '<' :: '=' :: _ => none
  | '?' :: '<' :: '!' :: _ => none
  | '?' :: '<' :: rest => reading.openNamed rest
  | '?' :: 'P' :: '<' :: rest => reading.openNamed rest
  | '?' :: rest =>
    match flags reading.mode true [] rest with
    | some (mode, true, rest) => some (reading.openGroup mode, rest)
    | some (mode, false, rest) => some (reading.setMode mode, rest)
    | none => none
  | rest => some (reading.openGroup reading.mode, rest)

/-- Takes what stands for itself. -/
def atom (reading : Reading) (found : Option (Atom × List Char)) :
    Option (Reading × List Char) := do
  let (atom, rest) ← found
  if atom.isUsable reading.mode then some (reading.take 0, rest) else none

/-- Reads the next part of a pattern, which starts with `c`. -/
def next (reading : Reading) (c : Char) (rest : List Char) : Option (Reading × List Char) :=
  if c = '(' then reading.parenthesis rest
  else if c = ')' then reading.closeGroup.map fun reading => (reading, rest)
  else if c = '|' then some (reading.bar, rest)
  else if c = '[' then
    (bracketed reading.mode rest).map fun (depth, rest) => (reading.take depth, rest)
  else if c = '?' ∨ c = '*' ∨ c = '+' then
    let rest := if rest.head? = some '?' then rest.tail else rest
    reading.repeatLast.map fun reading => (reading, rest)
  else if c = '\x7b' then none
  else if c = '\\' then reading.atom (escape reading.mode rest)
  else if c = '.' then if reading.mode.unicode then some (reading.take 0, rest) else none
  else if c = '^' ∨ c = '$' then some (reading.take 0, rest)
  else reading.atom (some (.literal c false, rest))

/-- Whether what follows completes the pattern. -/
def isCompletedBy (reading : Reading) : Nat → List Char → Bool
  | 0, _ => false
  | fuel + 1, text =>
    match reading.mode.skip text with
    | [] => reading.outer.isEmpty && decide (reading.depth ≤ maxDepth)
    | c :: rest =>
      match reading.next c rest with
      | some (reading, rest) => reading.isCompletedBy fuel rest
      | none => false

end Reading

def isUsable (pattern : List Char) : Bool :=
  Reading.start.isCompletedBy (pattern.length + 1) pattern

end Pattern

end DepositGate.Simulator
