import DepositGate.Json.Node

/-!
# Reading JSON text

The text is read once from left to right. Every function takes the text from some place on and
gives back what it read with the text after it; after damage nothing more is read. Nesting is
bounded by the length of the text, which serves as the measure of the recursion.
-/

namespace DepositGate.Json

namespace Parser

open DepositGate.Text

def isSpace (c : Char) : Bool := c == ' ' || c == '\n' || c == '\t' || c == '\r'

def skipSpace (text : List Char) : List Char := text.dropWhile isSpace

/-! ## Strings -/

/-- A character of a string, or half of a pair that an escape names. -/
inductive Piece where
  | char (c : Char)
  | half (code : Nat)

def hexDigit? (c : Char) : Option Nat :=
  let n := c.toNat
  if 48 ≤ n ∧ n ≤ 57 then some (n - 48)
  else if 97 ≤ n ∧ n ≤ 102 then some (n - 87)
  else if 65 ≤ n ∧ n ≤ 70 then some (n - 55)
  else none

def hexCode? (a b c d : Char) : Option Nat := do
  let w ← hexDigit? a
  let x ← hexDigit? b
  let y ← hexDigit? c
  let z ← hexDigit? d
  return ((w * 16 + x) * 16 + y) * 16 + z

def pieceOfCode (code : Nat) : Piece :=
  if 0xD800 ≤ code ∧ code ≤ 0xDFFF then .half code else .char (Char.ofNat code)

def simpleEscape? (c : Char) : Option Char :=
  if c = '"' ∨ c = '\\' ∨ c = '/' then some c
  else if c = 'b' then some '\x08'
  else if c = 'f' then some '\x0c'
  else if c = 'n' then some '\n'
  else if c = 'r' then some '\r'
  else if c = 't' then some '\t'
  else none

/-- The pieces of a string up to its closing mark, and the text after that; nothing if the string is
damaged. `pieces` holds what was read so far, the last first. -/
def stringPieces (pieces : List Piece) : List Char → Option (List Piece × List Char)
  | '"' :: rest => some (pieces.reverse, rest)
  | '\\' :: 'u' :: a :: b :: c :: d :: rest =>
    match hexCode? a b c d with
    | some code => stringPieces (pieceOfCode code :: pieces) rest
    | none => none
  | '\\' :: c :: rest =>
    match simpleEscape? c with
    | some e => stringPieces (.char e :: pieces) rest
    | none => none
  | c :: rest => if c.toNat < 0x20 ∨ c = '\\' then none else stringPieces (.char c :: pieces) rest
  | [] => none

/-- The text of a string, unless a half pair stands alone. -/
def joinPieces : List Piece → Option (List Char)
  | [] => some []
  | .char c :: rest => (joinPieces rest).map (c :: ·)
  | .half high :: .half low :: rest =>
    if high < 0xDC00 ∧ 0xDC00 ≤ low then
      (joinPieces rest).map (Char.ofNat ((high - 0xD800) * 0x400 + (low - 0xDC00) + 0x10000) :: ·)
    else none
  | .half _ :: _ => none

def string (text : List Char) : Option (Option String × List Char) :=
  (stringPieces [] text).map fun (pieces, rest) => ((joinPieces pieces).map String.ofList, rest)

/-! ## Numbers -/

def fraction (text : List Char) : Option (List Char × List Char) :=
  match text with
  | '.' :: rest =>
    if (rest.takeWhile isDigit).isEmpty then none
    else some (rest.takeWhile isDigit, rest.dropWhile isDigit)
  | _ => some ([], text)

def exponent (text : List Char) : Option (Option (Bool × List Char) × List Char) :=
  let power (negative : Bool) (rest : List Char) :=
    if (rest.takeWhile isDigit).isEmpty then none
    else some (some (negative, rest.takeWhile isDigit), rest.dropWhile isDigit)
  match text with
  | c :: rest =>
    if c = 'e' ∨ c = 'E' then
      match rest with
      | '+' :: rest => power false rest
      | '-' :: rest => power true rest
      | rest => power false rest
    else some (none, text)
  | [] => some (none, text)

/-- A number whose sign has been read. Only a lone zero may start with zero. -/
def number (negative : Bool) (text : List Char) : Option (NumberText × List Char) := do
  let whole := text.takeWhile isDigit
  if whole.isEmpty || (whole.head? == some '0' && whole.length != 1) then none
  else
    let (fraction, rest) ← fraction (text.dropWhile isDigit)
    let (exponent, rest) ← exponent rest
    return (⟨negative, whole, fraction, exponent⟩, rest)

/-! ## Values -/

/-- The value of a word of letters, of which the first has been read. -/
def word (letters : List Char) (node : Node) (text : List Char) : Node × List Char :=
  if letters.isPrefixOf text then (node, text.drop letters.length) else (.damaged, [])

def numberNode (negative : Bool) (text : List Char) : Node × List Char :=
  match number negative text with
  | some (written, rest) => (.number written, rest)
  | none => (.damaged, [])

mutual

def value : Nat → List Char → Node × List Char
  | 0, _ => (.damaged, [])
  | fuel + 1, text =>
    match skipSpace text with
    | [] => (.damaged, [])
    | c :: rest =>
      if c = 'n' then word ['u', 'l', 'l'] .null rest
      else if c = 't' then word ['r', 'u', 'e'] (.bool true) rest
      else if c = 'f' then word ['a', 'l', 's', 'e'] (.bool false) rest
      else if c = '"' then
        match string rest with
        | some (s, rest) => (.string s, rest)
        | none => (.damaged, [])
      else if c = '-' then numberNode true rest
      else if isDigit c then numberNode false (c :: rest)
      else if c = '[' then
        match skipSpace rest with
        | ']' :: rest => (.array .close, rest)
        | rest => let (items, rest) := items fuel rest; (.array items, rest)
      else if c = '\x7b' then
        match skipSpace rest with
        | '\x7d' :: rest => (.object .close, rest)
        | rest => let (members, rest) := members fuel rest; (.object members, rest)
      else (.damaged, [])

/-- The items of an array from the next one on. -/
def items : Nat → List Char → Items × List Char
  | 0, _ => (.damaged, [])
  | fuel + 1, text =>
    let (head, rest) := value fuel text
    match skipSpace rest with
    | ',' :: rest => let (tail, rest) := items fuel rest; (.item head tail, rest)
    | ']' :: rest => (.item head .close, rest)
    | _ => (.item head .damaged, [])

/-- The members of an object from the next one on. -/
def members : Nat → List Char → Members × List Char
  | 0, _ => (.stray .damaged, [])
  | fuel + 1, text =>
    match skipSpace text with
    | '"' :: rest =>
      match string rest with
      | none => (.stray .damaged, [])
      | some (name, rest) =>
        match skipSpace rest with
        | ':' :: rest =>
          let (head, rest) := value fuel rest
          match skipSpace rest with
          | ',' :: rest => let (tail, rest) := members fuel rest; (.member name head tail, rest)
          | '\x7d' :: rest => (.member name head .close, rest)
          | _ => (.member name head (.stray .damaged), [])
        | _ => (.member name .damaged (.stray .damaged), [])
    | text => (.stray (value fuel text).1, [])

end

end Parser

def Document.ofChars (text : List Char) : Document :=
  let (root, rest) := Parser.value (2 * text.length + 2) text
  ⟨root, !(Parser.skipSpace rest).isEmpty⟩

def Document.ofText (text : String) : Document := ofChars text.toList

end DepositGate.Json
