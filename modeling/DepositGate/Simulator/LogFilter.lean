import DepositGate.Power
import DepositGate.Simulator.LogFilter.Pattern
import DepositGate.Text.Bytes
import DepositGate.Text.Pieces
import DepositGate.Text.Unsigned

/-!
# Log filters

A log filter is a row of directives with commas between them. A directive is a level alone, or a
target, a span in brackets or both, with a level after an equals sign or without one. A span may
hold a field in braces, and the field may be compared with a value, which is a number or a pattern.
Only whether a filter is well formed is decided here.

A directive is gone through without the blanks around it, and the places of its parts are counted
in bytes from there; the parts are then cut out of the directive with its blanks. So blanks in front
move every part to the left: a level has the equals sign in it and is refused, and a part may be cut
within a character. Blanks at the end belong to a level.
-/

namespace DepositGate.Simulator

open DepositGate.Text

namespace LogFilter

inductive Flaw where
  | malformed
  /-- A part would have to be cut within a character. -/
  | torn
deriving DecidableEq, Repr

def levelNames : List String := ["off", "error", "warn", "info", "debug", "trace"]

/-- A level is a name in any letter case, or a number up to five. -/
def isLevel (text : List Char) : Bool :=
  levelNames.contains (String.ofList (text.map Char.toLower)) ||
    (match Unsigned.ofText (2 ^ 64) text with
      | .ok n => decide (n ≤ 5)
      | .error _ => false)

/-! ## Values of fields -/

def isExponent : List Char → Bool
  | [] => true
  | c :: rest =>
    let power := match rest with
      | '+' :: rest => rest
      | '-' :: rest => rest
      | rest => rest
    (c == 'e' || c == 'E') && !power.isEmpty && power.all isDigit

/-- A number with digits before the point, after it or both. -/
def isDecimal (text : List Char) : Bool :=
  let rest := text.dropWhile isDigit
  match rest with
  | '.' :: rest =>
    (text.head?.any isDigit || rest.head?.any isDigit) && isExponent (rest.dropWhile isDigit)
  | rest => text.head?.any isDigit && isExponent rest

/-- A number with or without a sign, or a name of a number that is none of the ordinary ones. -/
def isNumber (text : List Char) : Bool :=
  let size := match text with
    | '+' :: rest => rest
    | '-' :: rest => rest
    | rest => rest
  isDecimal size ||
    ["inf", "infinity", "nan"].contains (String.ofList (size.map Char.toLower))

/-- A field is a name with or without a value; a value ends at the next equals sign. -/
def isField (text : List Char) : Bool :=
  !text.isEmpty &&
    (match pieces '=' text with
      | _ :: value :: _ => isNumber value || Pattern.isUsable value
      | _ => true)

/-! ## Directives -/

/-- Where in a directive a character stands. Parts that are not over have the place of their start
with them. -/
inductive Place where
  | start
  /-- In a target, or in a level that stands alone. -/
  | target
  | span (first : Nat)
  | field (first : Nat)
  | fieldEnded
  | spanEnded
  | level (first : Nat)
deriving DecidableEq, Repr

def cut (directive : List Char) (first last : Nat) : Except Flaw (List Char) :=
  match between? first last directive with
  | some part => .ok part
  | none => .error .torn

def startsTarget (c : Char) : Bool :=
  c == '-' || c == ':' || c == '_' || isLetter c || isNumeral c

/-- The place after the character `c` at the position `here`. -/
def Place.after (directive : List Char) (place : Place) (here : Nat) (c : Char) :
    Except Flaw Place :=
  match place with
  | .start =>
    if c = '[' then .ok (.span (here + 1))
    else if startsTarget c then .ok .target
    else .error .malformed
  | .target =>
    if c = '=' then (cut directive 0 here).map fun _ => .level (here + 1)
    else if c = '[' then (cut directive 0 here).map fun _ => .span (here + 1)
    else .ok .target
  | .span first =>
    if c = ']' then (cut directive first here).map fun _ => .spanEnded
    else if c = '\x7b' then (cut directive first here).map fun _ => .field (here + 1)
    else .ok place
  | .field first =>
    if c = '\x7d' then do
      let part ← cut directive first here
      if isField part then return .fieldEnded else .error .malformed
    else .ok place
  | .fieldEnded => if c = ']' then .ok .spanEnded else .error .malformed
  | .spanEnded => if c = '=' then .ok (.level (here + 1)) else .error .malformed
  | .level _ => .ok place

def Place.afterAll (directive : List Char) (place : Place) (here : Nat) :
    List Char → Except Flaw Place
  | [] => .ok place
  | c :: rest => do
    let next ← place.after directive here c
    next.afterAll directive (here + c.utf8Size) rest

/-- Looks at a directive as it stands between commas. -/
def checkDirective (directive : List Char) : Except Flaw Unit := do
  match ← Place.start.afterAll directive 0 (trim directive) with
  | .target | .spanEnded => return ()
  | .level first =>
    let level ← cut directive first (byteLength directive)
    if level.isEmpty ∨ isLevel level then return () else .error .malformed
  | .start | .span _ | .field _ | .fieldEnded => .error .malformed

/-- Looks at every directive. Empty ones do not count. -/
def check (filter : String) : Except Flaw Unit :=
  ((pieces ',' filter.toList).filter fun piece => !piece.isEmpty).forM checkDirective

end LogFilter

end DepositGate.Simulator
