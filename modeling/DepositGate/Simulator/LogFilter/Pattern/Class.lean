import DepositGate.Simulator.LogFilter.Pattern.Atom
import DepositGate.Simulator.LogFilter.Pattern.Row

/-!
# Classes of a pattern

A class is a row of items in brackets: characters, ranges of them, escapes, names and classes within
it. Two ampersands, hyphens or tildes join rows to an operation; operations group to the left.

A class is one level deeper than what it holds, and so is an operation. Where letter case is folded
under the flag `u` a class may hold nothing but classes, since folding needs tables. Without that
flag no class is negated, since it would match half of a character.
-/

namespace DepositGate.Simulator.Pattern

def classNames : List String := [
  "alnum", "alpha", "ascii", "blank", "cntrl", "digit", "graph", "lower", "print", "punct",
  "space", "upper", "word", "xdigit"]

/-- A class by name, such as `[:digit:]`, read after its first bracket: whether it is negated, and
what follows. -/
def classByName? : List Char → Option (Bool × List Char)
  | ':' :: text =>
    let (negated, text) := match text with
      | '^' :: text => (true, text)
      | text => (false, text)
    match text.dropWhile (· != ':') with
    | ':' :: ']' :: rest =>
      if classNames.contains (String.ofList (text.takeWhile (· != ':'))) then some (negated, rest)
      else none
    | _ => none
  | _ => none

/-- Whether a class may hold characters. -/
def Mode.allowsItems (mode : Mode) : Bool := !(mode.unicode && mode.foldsCase)

/-- Whether a class may be negated. -/
def Mode.allowsNegation (mode : Mode) : Bool := mode.unicode

/-- The hyphens at the start of a class, which stand for themselves, and what follows. -/
def leadingHyphens (mode : Mode) (items : Row) : Nat → List Char → Row × List Char
  | fuel + 1, '-' :: rest => leadingHyphens mode (items.add 0) fuel (mode.skip rest)
  | _, text => (items, text)

/-- Reads the start of a class after its bracket. A closing bracket that comes first stands for
itself. -/
def openClass (mode : Mode) (text : List Char) : Option (Row × List Char) :=
  let (negated, text) := match mode.skip text with
    | '^' :: rest => (true, mode.skip rest)
    | text => (false, text)
  let (items, text) := match leadingHyphens mode .empty text.length text with
    | (⟨0, _⟩, ']' :: rest) => (Row.empty.add 0, mode.skip rest)
    | opened => opened
  if (negated && !mode.allowsNegation) || (items.count != 0 && !mode.allowsItems) then none
  else some (items, text)

/-- One end of a range in a class, or an item of its own. -/
def classItem (mode : Mode) : List Char → Option (Atom × List Char)
  | [] => none
  | '\\' :: rest => escape mode rest
  | c :: rest => some (.literal c false, rest)

/-- Whether an atom may be an item of a class. -/
def Atom.isItem (atom : Atom) (mode : Mode) : Bool :=
  match atom with
  | .literal c _ => if mode.unicode then mode.allowsItems else decide (c.toNat < 128)
  | .namedClass _ => atom.isUsable mode
  | .anchor | .wordBoundary => false

/-- Reads an item or a range of a class. -/
def classRange (mode : Mode) (text : List Char) : Option (List Char) := do
  let (first, rest) ← classItem mode text
  let single := if first.isItem mode then some (mode.skip rest) else none
  match mode.skip rest with
  | [] => none
  | '-' :: rest =>
    if mode.peek? rest = some ']' ∨ mode.peek? rest = some '-' then single
    else
      let (last, rest) ← classItem mode (mode.skip rest)
      match first, last with
      | .literal a _, .literal b _ =>
        if a ≤ b ∧ first.isItem mode ∧ last.isItem mode then some rest else none
      | _, _ => none
  | _ => single

/-- A row of items being read, and how deep the operation is whose right side it will be. -/
structure Operand where
  left : Option Nat
  items : Row
deriving DecidableEq, Repr

namespace Operand

def start (items : Row) : Operand := ⟨none, items⟩

def add (operand : Operand) (depth : Nat) : Operand :=
  { operand with items := operand.items.add depth }

/-- How deep the operation is once the row ends. -/
def depth (operand : Operand) : Nat :=
  match operand.left with
  | none => operand.items.depth
  | some left => max left operand.items.depth + 1

/-- The right side of an operation on what was read. -/
def operate (operand : Operand) : Operand := ⟨some operand.depth, .empty⟩

end Operand

/-- Reads a class from inside it: how deep it is, and what follows. The classes around the one being
read are in `outer`, the innermost first. -/
def readClass (mode : Mode) (outer : List Operand) (operand : Operand) :
    Nat → List Char → Option (Nat × List Char)
  | 0, _ => none
  | fuel + 1, text =>
    match mode.skip text with
    | [] => none
    | '[' :: rest =>
      match classByName? rest with
      | some (negated, rest) =>
        if mode.allowsItems && (!negated || mode.allowsNegation) then
          readClass mode outer (operand.add 0) fuel rest
        else none
      | none => do
        let (items, rest) ← openClass mode rest
        readClass mode (operand :: outer) (.start items) fuel rest
    | ']' :: rest =>
      let depth := operand.depth + 1
      match outer with
      | [] => some (depth, rest)
      | around :: outer => readClass mode outer (around.add depth) fuel rest
    | '&' :: '&' :: rest => readClass mode outer operand.operate fuel rest
    | '-' :: '-' :: rest => readClass mode outer operand.operate fuel rest
    | '~' :: '~' :: rest => readClass mode outer operand.operate fuel rest
    | text => (classRange mode text).bind (readClass mode outer (operand.add 0) fuel)

/-- Reads a class after its first bracket. -/
def bracketed (mode : Mode) (text : List Char) : Option (Nat × List Char) := do
  let (items, rest) ← openClass mode text
  readClass mode [] (.start items) (rest.length + 1) rest

end DepositGate.Simulator.Pattern
