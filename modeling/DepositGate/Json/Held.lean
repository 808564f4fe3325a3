import DepositGate.Json.Node

/-!
# Values held whole

A value that is held whole keeps the members of an object in the order of their names, whatever
order they were written in. Of several members with one name the last one is kept.
-/

namespace DepositGate.Json

/-- Files a member among members that are in order. -/
def Members.file (name : String) (value : Node) : Members → Members
  | .member (some other) node rest =>
    if name = other then .member (some name) value rest
    else if name < other then .member (some name) value (.member (some other) node rest)
    else .member (some other) node (rest.file name value)
  | members => .member (some name) value members

mutual

def Node.held : Node → Node
  | .array items => .array items.held
  | .object members => .object (Members.held .close members)
  | node => node

def Items.held : Items → Items
  | .item head rest => .item head.held rest.held
  | items => items

/-- Files all members among those in order. -/
def Members.held (filed : Members) : Members → Members
  | .member (some name) value rest => Members.held (filed.file name value.held) rest
  | _ => filed

end

end DepositGate.Json
