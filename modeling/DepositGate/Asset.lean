import DepositGate.Identity
import DepositGate.SortedMap
import DepositGate.Text.Blank

/-!
# Assets

A deposit moves the chain's own currency or a token. A token is named by 32 bytes; a text may give
it by the 20 bytes of an account too, which stand for the 32 with zeros in front. The identity that
is all zeros names no token. Among assets the native one comes first and tokens follow by identity.
-/

namespace DepositGate

open DepositGate.Text

inductive Asset where
  | native
  | token (id : Identity 32)
deriving DecidableEq, Repr

namespace Asset

instance : Inhabited Asset := ⟨native⟩

instance : Ranked Asset where
  rank
    | native => 0
    | token id => id.val + 1
  rank_injective := by
    intro a b h
    cases a with
    | native => cases b with
      | native => rfl
      | token id => exact absurd h (Nat.succ_ne_zero id.val).symm
    | token id => cases b with
      | native => exact absurd h (Nat.succ_ne_zero id.val)
      | token other => exact congrArg token (Identity.ext (Nat.succ.inj h))

def isNative : Asset → Bool
  | native => true
  | token _ => false

def toText : Asset → String
  | native => "native"
  | token id => id.toText

inductive TextError where
  | badHex (text : String) (why : Hex.Error)
  | badLength (text : String) (bytes : Nat)
  | zeroToken
deriving DecidableEq, Repr

def TextError.message : TextError → String
  | .badHex text why => "asset " ++ text ++ ": " ++ why.message
  | .badLength text bytes => "asset " ++ text ++ ": expected 20 or 32 bytes, got " ++ toString bytes
  | .zeroToken => "zero token id is not an asset; use \"native\""

/-- The token identity that bytes of either accepted length give. -/
def identityOfBytes? (bytes : List UInt8) : Option (Identity 32) :=
  if h : bytes.length = 20 then some ((Identity.ofBytes bytes h).widen (by decide))
  else if h : bytes.length = 32 then some (Identity.ofBytes bytes h)
  else none

def ofTrimmed (text : List Char) : Except TextError Asset :=
  if text.map Char.toLower = ['n', 'a', 't', 'i', 'v', 'e'] then .ok native
  else
    match Hex.decode (Hex.dropMark text) with
    | .error why => .error (.badHex (String.ofList text) why)
    | .ok bytes =>
      match identityOfBytes? bytes with
      | none => .error (.badLength (String.ofList text) bytes.length)
      | some id => if id.isZero then .error .zeroToken else .ok (token id)

/-- Reads `native` in any letter case, or an identity in hexadecimal with or without a `0x`. -/
def ofText (text : String) : Except TextError Asset :=
  ofTrimmed (trim text.toList)

end Asset

end DepositGate
