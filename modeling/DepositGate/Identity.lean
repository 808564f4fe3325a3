import DepositGate.Power
import DepositGate.Text.Hex

/-!
# Identities

Accounts and tokens are named by a fixed number of bytes. An identity is kept as the number that its
bytes denote with the most significant byte first, so that order among identities of one length is
order among numbers, and a shorter identity padded with zeros on the left stays the same number.
-/

namespace DepositGate

/-- The number denoted by bytes, the most significant first. -/
def bytesValue (bytes : List UInt8) : Nat :=
  bytes.foldl (fun value byte => 256 * value + byte.toNat) 0

/-- The `width` lowest bytes of a number, the most significant first. -/
def bytesOf : Nat → Nat → List UInt8
  | 0, _ => []
  | width + 1, n => bytesOf width (n / 256) ++ [UInt8.ofNat (n % 256)]

theorem bytesValue_concat (bytes : List UInt8) (byte : UInt8) :
    bytesValue (bytes ++ [byte]) = 256 * bytesValue bytes + byte.toNat := by
  simp [bytesValue]

theorem bytesValue_bytesOf (width n : Nat) (h : n < 256 ^ width) :
    bytesValue (bytesOf width n) = n := by
  induction width generalizing n with
  | zero => simp at h; simp [bytesOf, bytesValue, h]
  | succ width ih =>
    have hdiv : n / 256 < 256 ^ width := by
      rw [Nat.div_lt_iff_lt_mul (by decide)]
      rwa [Nat.pow_succ] at h
    rw [bytesOf, bytesValue_concat, ih _ hdiv, UInt8.toNat_ofNat']
    omega

@[simp] theorem length_bytesOf (width n : Nat) : (bytesOf width n).length = width := by
  induction width generalizing n with
  | zero => rfl
  | succ width ih => simp [bytesOf, ih]

theorem bytesValue_lt (bytes : List UInt8) : bytesValue bytes < 256 ^ bytes.length := by
  induction h : bytes.length generalizing bytes with
  | zero =>
    rw [List.length_eq_zero_iff] at h
    subst h
    decide
  | succ width ih =>
    obtain ⟨front, last, rfl⟩ := List.eq_nil_or_concat bytes |>.resolve_left
      (by rintro rfl; simp at h)
    rw [List.concat_eq_append] at h ⊢
    have hfront : front.length = width := by simpa using h
    have := ih front hfront
    have hlast := last.toNat_lt
    rw [bytesValue_concat, Nat.pow_succ]
    omega

/-- `size` bytes that name an account or a token. -/
structure Identity (size : Nat) where
  val : Nat
  val_lt : val < 256 ^ size
deriving DecidableEq

namespace Identity

variable {size : Nat}

@[ext] theorem ext {a b : Identity size} (h : a.val = b.val) : a = b := by
  cases a; cases b; cases h; rfl

instance : Repr (Identity size) := ⟨fun a _ => repr a.val⟩

def zero : Identity size := ⟨0, Nat.pos_of_ne_zero (by simp)⟩

instance : Inhabited (Identity size) := ⟨zero⟩

def isZero (a : Identity size) : Bool := a.val == 0

def toBytes (a : Identity size) : List UInt8 := bytesOf size a.val

def ofBytes (bytes : List UInt8) (h : bytes.length = size) : Identity size :=
  ⟨bytesValue bytes, h ▸ bytesValue_lt bytes⟩

@[simp] theorem length_toBytes (a : Identity size) : a.toBytes.length = size :=
  length_bytesOf _ _

@[simp] theorem ofBytes_toBytes (a : Identity size) (h : a.toBytes.length = size) :
    ofBytes a.toBytes h = a :=
  ext (bytesValue_bytesOf size a.val a.val_lt)

/-- The bytes in hexadecimal, without a mark in front. -/
def toHex (a : Identity size) : List Char := Text.Hex.encode a.toBytes

def toText (a : Identity size) : String := String.ofList ('0' :: 'x' :: a.toHex)

/-- The same identity among longer ones, with zero bytes on its left. -/
def widen {wide : Nat} (a : Identity size) (h : size ≤ wide) : Identity wide :=
  ⟨a.val, Nat.lt_of_lt_of_le a.val_lt (Nat.pow_le_pow_right (by decide) h)⟩

end Identity

/-- An account on the chain that the gateway stands on. -/
abbrev Address := Identity 32

/-- An account on the chain that deposits are bridged to. -/
abbrev DestinationAddress := Identity 20

end DepositGate
