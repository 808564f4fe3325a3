import DepositGate.Json.Number

/-!
# JSON documents as trees

A document is kept as a tree of what could be read of it. Where the text stops being JSON the tree
has a mark of damage, and what comes before stays usable: a reader that goes through the tree in the
order of the document meets the first problem of the document first, whether that is damage or a
value of the wrong sort. A string is missing its text when an escape in it names half of a character
pair without the other half; such a string can be passed over but not used.
-/

namespace DepositGate.Json

mutual

inductive Node where
  | damaged
  | null
  | bool (value : Bool)
  | number (text : NumberText)
  | string (text : Option String)
  | array (items : Items)
  | object (members : Members)

inductive Items where
  | close
  | damaged
  | item (head : Node) (rest : Items)

inductive Members where
  | close
  /-- Something other than a string, or damage, where the name of a member has to be. -/
  | stray (name : Node)
  | member (name : Option String) (value : Node) (rest : Members)

end

instance : Inhabited Node := ⟨.null⟩

def Items.ofList : List Node → Items
  | [] => .close
  | node :: rest => .item node (ofList rest)

def Members.ofList : List (String × Node) → Members
  | [] => .close
  | (name, value) :: rest => .member (some name) value (ofList rest)

namespace Node

def nat (n : Nat) : Node := .number (.ofNat n)

def int (n : Int) : Node := .number (.ofInt n)

def text (s : String) : Node := .string (some s)

def list (nodes : List Node) : Node := .array (.ofList nodes)

def record (members : List (String × Node)) : Node := .object (.ofList members)

/-- The node for a value that may be missing. -/
def optional {α : Type} (write : α → Node) : Option α → Node
  | none => .null
  | some a => write a

end Node

mutual

/-- Whether a part of a document can be passed over: it has no damage. -/
def Node.isSound : Node → Bool
  | .damaged => false
  | .array items => items.isSound
  | .object members => members.isSound
  | _ => true

def Items.isSound : Items → Bool
  | .close => true
  | .damaged => false
  | .item head rest => head.isSound && rest.isSound

def Members.isSound : Members → Bool
  | .close => true
  | .stray _ => false
  | .member _ value rest => value.isSound && rest.isSound

end

def Items.length : Items → Nat
  | .item _ rest => rest.length + 1
  | _ => 0

/-- A text and what stands after its value. -/
structure Document where
  root : Node
  /-- Something other than white space follows the value. -/
  hasTail : Bool

end DepositGate.Json
