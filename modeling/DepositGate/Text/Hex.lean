import DepositGate.Text.Quoted

/-!
# Hexadecimal

Bytes are written as two lower-case hexadecimal digits each and read in either case. A text is
judged by its UTF-8 bytes: an odd number of them is refused before any digit is looked at, and the
first byte that is no digit is reported with its place, shown as the character of the same number.
-/

namespace DepositGate.Text

namespace Hex

inductive Error where
  | oddLength
  | badDigit (byte : UInt8) (position : Nat)
deriving DecidableEq, Repr

def Error.message : Error → String
  | .oddLength => "Odd number of digits"
  | .badDigit byte position =>
    "Invalid character " ++ quotedChar (Char.ofNat byte.toNat) ++ " at position " ++
      toString position

def encodeByte (byte : UInt8) : List Char :=
  [Nat.digitChar (byte.toNat / 16), Nat.digitChar (byte.toNat % 16)]

def encode (bytes : List UInt8) : List Char :=
  bytes.flatMap encodeByte

/-- The number a hexadecimal digit stands for, the digit given by its code. -/
def digit? (code : UInt8) : Option Nat :=
  let n := code.toNat
  if 48 ≤ n ∧ n ≤ 57 then some (n - 48)
  else if 97 ≤ n ∧ n ≤ 102 then some (n - 87)
  else if 65 ≤ n ∧ n ≤ 70 then some (n - 55)
  else none

theorem digit?_lt {code : UInt8} {n : Nat} (h : digit? code = some n) : n < 16 := by
  simp only [digit?] at h
  split at h
  · simp only [Option.some.injEq] at h; omega
  · split at h
    · simp only [Option.some.injEq] at h; omega
    · split at h
      · simp only [Option.some.injEq] at h; omega
      · simp at h

def digitAt (position : Nat) (code : UInt8) : Except Error Nat :=
  match digit? code with
  | some n => .ok n
  | none => .error (.badDigit code position)

/-- Reads pairs of digits, the first of them standing at `position`. -/
def decodePairs (position : Nat) : List UInt8 → Except Error (List UInt8)
  | high :: low :: rest => do
    let h ← digitAt position high
    let l ← digitAt (position + 1) low
    let bytes ← decodePairs (position + 2) rest
    return UInt8.ofNat (16 * h + l) :: bytes
  | _ => .ok []

/-- The codes a text is judged by. -/
def codes (text : List Char) : List UInt8 :=
  text.flatMap String.utf8EncodeChar

def decode (text : List Char) : Except Error (List UInt8) :=
  if (codes text).length % 2 = 1 then .error .oddLength else decodePairs 0 (codes text)

/-- The text after one leading `0x`, if it has one. -/
def dropMark : List Char → List Char
  | '0' :: 'x' :: rest => rest
  | text => text

@[simp] theorem encode_nil : encode [] = [] := rfl

@[simp] theorem encode_cons (byte : UInt8) (bytes : List UInt8) :
    encode (byte :: bytes) = encodeByte byte ++ encode bytes := rfl

@[simp] theorem length_encode (bytes : List UInt8) : (encode bytes).length = 2 * bytes.length := by
  induction bytes with
  | nil => rfl
  | cons byte bytes ih => simp only [encode_cons, List.length_append, ih, encodeByte,
      List.length_cons, List.length_nil]; omega

end Hex

end DepositGate.Text
