import DepositGate.Json.Parser
import DepositGate.Json.Problem

/-!
# Readers

A reader takes a value out of a node or tells the first problem with it. A document that is being
read and a value that is held whole differ in two places only, what a choice may be written as and
how surplus items are reported, so a reader is told which of them it reads.

A record is read from an object or from an array. Members of an object come in any order: each is
judged when it comes up, unknown ones are passed over, a name that comes twice is a misfit at once,
and missing fields are looked for at the end in the order of the record. Items of an array are the
fields in the order of the record, and fields at the end may be left out if the record allows it.
-/

namespace DepositGate.Json

inductive Origin where
  /-- Text that is read as it comes. -/
  | document
  /-- A value that is held whole. -/
  | held
deriving DecidableEq, Repr

abbrev Reader (α : Type) := Origin → Node → Except Problem α

/-! ## Plain values -/

def readString : Reader String := fun _ node =>
  match node with
  | .string (some text) => .ok text
  | node => .error (node.wrongType .string)

def readBool : Reader Bool := fun _ node =>
  match node with
  | .bool value => .ok value
  | node => .error (node.wrongType .boolean)

def readUInt64 : Reader UInt64 := fun _ node =>
  match node with
  | .number text =>
    match Number.ofText? text with
    | some (.unsigned n) => .ok n
    | some (.negative n) => .error (.unfit (.wrongValue (.number (.negative n)) .u64))
    | some value => .error (.unfit (.wrongType (.number value) .u64))
    | none => .error .malformed
  | node => .error (node.wrongType .u64)

def readUInt8 : Reader UInt8 := fun _ node =>
  match node with
  | .number text =>
    match Number.ofText? text with
    | some (.unsigned n) =>
      if n < 256 then .ok n.toUInt8
      else .error (.unfit (.wrongValue (.number (.unsigned n)) .u8))
    | some (.negative n) => .error (.unfit (.wrongValue (.number (.negative n)) .u8))
    | some value => .error (.unfit (.wrongType (.number value) .u8))
    | none => .error .malformed
  | node => .error (node.wrongType .u8)

def readUnit : Reader Unit := fun _ node =>
  match node with
  | .null => .ok ()
  | node => .error (node.wrongType .unit)

/-- Reads a value that may be `null`. -/
def readOptional {α : Type} (read : Reader α) : Reader (Option α) := fun origin node =>
  match node with
  | .null => .ok none
  | node => (read origin node).map some

def readItems {α : Type} (read : Node → Except Problem α) : Items → Except Problem (List α)
  | .close => .ok []
  | .damaged => .error .malformed
  | .item head rest => do
    let first ← read head
    let others ← readItems read rest
    return first :: others

def readList {α : Type} (read : Reader α) : Reader (List α) := fun origin node =>
  match node with
  | .array items => readItems (read origin) items
  | node => .error (node.wrongType .sequence)

/-- Reads the entries of a map in the order they come in. -/
def readEntries {κ α : Type} (readKey : String → Except Problem κ)
    (read : Node → Except Problem α) : Members → Except Problem (List (κ × α))
  | .close => .ok []
  | .stray _ => .error .malformed
  | .member none _ _ => .error .malformed
  | .member (some name) value rest => do
    let key ← readKey name
    let value ← read value
    let others ← readEntries readKey read rest
    return (key, value) :: others

def readMap {κ α : Type} (readKey : String → Except Problem κ) (read : Reader α) :
    Reader (List (κ × α)) := fun origin node =>
  match node with
  | .object members => readEntries readKey (read origin) members
  | node => .error (node.wrongType .map)

/-! ## Choices -/

def choose {α : Type} (options : List (String × α)) (name : String) : Except Problem α :=
  match options.lookup name with
  | some value => .ok value
  | none => .error (.unfit (.unknownVariant name (options.map (·.1))))

/-- Reads one of several names: the name itself, or an object whose only member has that name and
the value `null`. -/
def readChoice {α : Type} (options : List (String × α)) : Reader α := fun origin node =>
  match node with
  | .string (some name) => choose options name
  | .object (.member (some name) value rest) =>
    match origin, rest with
    | .held, .member .. => .error (.unfit (.wrongValue .map .variantMember))
    | _, rest => do
      let chosen ← choose options name
      readUnit origin value
      match rest with
      | .close => return chosen
      | _ => .error .malformed
  | .object (.stray _) => .error .malformed
  | node =>
    match origin, node with
    | .document, _ => .error .malformed
    | .held, .object .close => .error (.unfit (.wrongValue .map .variantMember))
    | .held, node => .error (node.wrongType .variant)

/-! ## Records -/

/-- What is known of a field before its value is wanted. -/
structure FieldRule where
  name : String
  /-- Finds the first problem of the field's value. -/
  check : Origin → Node → Except Problem Unit
  /-- Whether the field may be left out at the end of an array. -/
  omissible : Bool

/-- A way to read a record: rules for its fields in order, and how the record is made of the nodes
found for them. -/
structure Record (α : Type) where
  rules : List FieldRule
  build : Origin → (String → Option Node) → Except Problem α

namespace Record

instance : Functor Record where
  map f record := ⟨record.rules, fun origin find => (record.build origin find).map f⟩

instance : Seq Record where
  seq f x :=
    let x := x ()
    ⟨f.rules ++ x.rules, fun origin find => do
      let g ← f.build origin find
      let a ← x.build origin find
      return g a⟩

def checking {α : Type} (read : Reader α) : Origin → Node → Except Problem Unit :=
  fun origin node => (read origin node).map fun _ => ()

/-- A field that has to be there. -/
def required {α : Type} (name : String) (read : Reader α) : Record α where
  rules := [⟨name, checking read, false⟩]
  build origin find :=
    match find name with
    | some node => read origin node
    | none => .error (.unfit (.missingField name))

/-- A field that has a value when it is left out. -/
def defaulted {α : Type} (name : String) (read : Reader α) (default : α) : Record α where
  rules := [⟨name, checking read, true⟩]
  build origin find :=
    match find name with
    | some node => read origin node
    | none => .ok default

/-- A field whose value may be `null`, and which an object may leave out with the same meaning. -/
def nullable {α : Type} (name : String) (read : Reader α) : Record (Option α) where
  rules := [⟨name, checking (readOptional read), false⟩]
  build origin find :=
    match find name with
    | some node => readOptional read origin node
    | none => .ok none

/-- Judges the members of an object as they come; gives the nodes of the known fields. -/
def gatherMembers (origin : Origin) (rules : List FieldRule) (found : List (String × Node)) :
    Members → Except Problem (List (String × Node))
  | .close => .ok found
  | .stray _ => .error .malformed
  | .member none _ _ => .error .malformed
  | .member (some name) value rest =>
    match rules.find? (·.name == name) with
    | none =>
      if value.isSound then gatherMembers origin rules found rest else .error .malformed
    | some rule =>
      if (found.lookup name).isSome then .error (.unfit (.duplicateField name))
      else do
        rule.check origin value
        gatherMembers origin rules ((name, value) :: found) rest

/-- Judges the items of an array, the first of which is field number `index` of `record`. -/
def gatherItems (record : String) (origin : Origin) (count index : Nat) :
    List FieldRule → Items → Except Problem (List (String × Node))
  | [], .close => .ok []
  | [], items =>
    match origin with
    | .document => .error .malformed
    | .held => .error (.unfit (.wrongLength (index + items.length) .noMoreItems))
  | rule :: rules, .close =>
    if rule.omissible then gatherItems record origin count (index + 1) rules .close
    else .error (.unfit (.wrongLength index (.fields record count)))
  | _ :: _, .damaged => .error .malformed
  | rule :: rules, .item head rest => do
    rule.check origin head
    let others ← gatherItems record origin count (index + 1) rules rest
    return (rule.name, head) :: others

/-- The reader of a record called `name`. -/
def reader {α : Type} (name : String) (record : Record α) : Reader α := fun origin node =>
  match node with
  | .object members => do
    let found ← gatherMembers origin record.rules [] members
    record.build origin fun field => found.lookup field
  | .array items => do
    let found ← gatherItems name origin record.rules.length 0 record.rules items
    record.build origin fun field => found.lookup field
  | node => .error (node.wrongType (.record name))

end Record

/-! ## Documents -/

/-- Reads a whole text. Nothing but white space may follow the value. -/
def readDocument {α : Type} (read : Reader α) (document : Document) : Except Problem α := do
  let value ← read .document document.root
  if document.hasTail then .error .malformed else return value

def readText {α : Type} (read : Reader α) (text : String) : Except Problem α :=
  readDocument read (.ofText text)

end DepositGate.Json
