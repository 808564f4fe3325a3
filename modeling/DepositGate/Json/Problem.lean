import DepositGate.Asset
import DepositGate.Amount.Text
import DepositGate.Binary64.Shortest
import DepositGate.Json.Node

/-!
# Problems met when reading a document

A document is either malformed at the place where reading got to, or well formed up to there and
unfit for what is wanted. A misfit says what was found and what was expected.
-/

namespace DepositGate.Json

/-- What is found at a place of a document. -/
inductive Kind where
  | null
  | bool (value : Bool)
  | number (value : Number)
  | string (text : String)
  | sequence
  | map
deriving Repr

def Kind.text : Kind → String
  | .null => "null"
  | .bool true => "boolean `true`"
  | .bool false => "boolean `false`"
  | .number (.unsigned n) => "integer `" ++ toString n.toNat ++ "`"
  | .number (.negative n) => "integer `-" ++ toString n ++ "`"
  | .number (.float negative x) =>
    "floating point `" ++ (if negative then "-" else "") ++ x.pointedText ++ "`"
  | .string text => "string " ++ DepositGate.Text.quoted text
  | .sequence => "sequence"
  | .map => "map"

/-- What is wanted at a place of a document. -/
inductive Wanted where
  | amount
  | string
  | u64
  | u8
  | boolean
  | map
  | sequence
  | unit
  | record (name : String)
  | variant
  | variantMember
  | noMoreItems
  /-- All fields of a record, as a sequence. -/
  | fields (name : String) (count : Nat)
deriving DecidableEq, Repr

def Wanted.text : Wanted → String
  | .amount => "a decimal string or unsigned integer"
  | .string => "a string"
  | .u64 => "u64"
  | .u8 => "u8"
  | .boolean => "a boolean"
  | .map => "a map"
  | .sequence => "a sequence"
  | .unit => "unit"
  | .record name => "struct " ++ name
  | .variant => "string or map"
  | .variantMember => "map with a single key"
  | .noMoreItems => "fewer elements in array"
  | .fields name count =>
    "struct " ++ name ++ " with " ++ toString count ++
      (if count = 1 then " element" else " elements")

inductive Misfit where
  | wrongType (found : Kind) (wanted : Wanted)
  | wrongValue (found : Kind) (wanted : Wanted)
  | wrongLength (length : Nat) (wanted : Wanted)
  | missingField (name : String)
  | duplicateField (name : String)
  | unknownVariant (name : String) (known : List String)
  | badAmount (text : String) (why : Amount.TextError)
  | badHex (why : DepositGate.Text.Hex.Error)
  | wrongSize (expected found : Nat)
  | badAsset (why : Asset.TextError)
  | badSender
deriving Repr

/-- Names between grave accents, as a choice of one. -/
def oneOf : List String → String
  | [] => "there are no variants"
  | [a] => "`" ++ a ++ "`"
  | [a, b] => "`" ++ a ++ "` or `" ++ b ++ "`"
  | names => "one of " ++ String.intercalate ", " (names.map fun name => "`" ++ name ++ "`")

def Misfit.message : Misfit → String
  | .wrongType found wanted => "invalid type: " ++ found.text ++ ", expected " ++ wanted.text
  | .wrongValue found wanted => "invalid value: " ++ found.text ++ ", expected " ++ wanted.text
  | .wrongLength length wanted =>
    "invalid length " ++ toString length ++ ", expected " ++ wanted.text
  | .missingField name => "missing field `" ++ name ++ "`"
  | .duplicateField name => "duplicate field `" ++ name ++ "`"
  | .unknownVariant name known =>
    "unknown variant `" ++ name ++ "`, expected " ++ oneOf known
  | .badAmount text why => "invalid decimal " ++ text ++ ": " ++ why.label
  | .badHex why => why.message
  | .wrongSize expected found =>
    "expected " ++ toString expected ++ " bytes, got " ++ toString found
  | .badAsset why => "Invalid input: " ++ why.message
  | .badSender => "sender must be 32 bytes"

inductive Problem where
  | malformed
  | unfit (why : Misfit)
deriving Repr

def Problem.message : Problem → String
  | .malformed => "malformed JSON"
  | .unfit why => why.message

/-- What stands at a node, if the text up to its end tells. Sequences and maps are known by their
first character. -/
def Node.kind : Node → Except Problem Kind
  | .damaged => .error .malformed
  | .null => .ok .null
  | .bool value => .ok (.bool value)
  | .number text =>
    match Number.ofText? text with
    | some value => .ok (.number value)
    | none => .error .malformed
  | .string (some text) => .ok (.string text)
  | .string none => .error .malformed
  | .array _ => .ok .sequence
  | .object _ => .ok .map

/-- The problem with a node where something else is wanted. -/
def Node.wrongType (node : Node) (wanted : Wanted) : Problem :=
  match node.kind with
  | .ok found => .unfit (.wrongType found wanted)
  | .error problem => problem

end DepositGate.Json
