import DepositGate.Amount.Text
import DepositGate.Asset
import DepositGate.Text.Pieces

/-!
# Lists of thresholds

A list of thresholds is a row of entries `asset=amount` with commas between them. Blanks around an
entry and around its two parts do not count, and neither do empty entries. Of several entries for
one asset the last one counts.
-/

namespace DepositGate

open DepositGate.Text

namespace Thresholds

inductive Error where
  | noAmount (entry : String)
  | badAsset (why : Asset.TextError)
  | badAmount (why : Amount.TextError)
deriving DecidableEq, Repr

def Error.message : Error → String
  | .noAmount entry => "expected asset=amount, got " ++ entry
  | .badAsset why => "Invalid input: " ++ why.message
  | .badAmount why => why.label

/-- An entry without the blanks around it. -/
def entryOfText (entry : List Char) : Except Error (Asset × Amount) :=
  match cut? '=' entry with
  | none => .error (.noAmount (String.ofList entry))
  | some (name, number) =>
    match Asset.ofText (String.ofList name) with
    | .error why => .error (.badAsset why)
    | .ok asset =>
      match Amount.ofText (String.ofList number) with
      | .error why => .error (.badAmount why)
      | .ok amount => .ok (asset, amount)

/-- Files the entries over a map, one after the other. -/
def fileEntries (map : SortedMap Asset Amount) :
    List (List Char) → Except Error (SortedMap Asset Amount)
  | [] => .ok map
  | entry :: rest => do
    let (asset, amount) ← entryOfText entry
    fileEntries (map.insert asset amount) rest

/-- The entries of a list that are not empty, without the blanks around them. -/
def entriesOf (text : List Char) : List (List Char) :=
  ((pieces ',' text).map trim).filter fun entry => !entry.isEmpty

def ofText (text : String) : Except Error (SortedMap Asset Amount) :=
  fileEntries .empty (entriesOf text.toList)

end Thresholds

end DepositGate
