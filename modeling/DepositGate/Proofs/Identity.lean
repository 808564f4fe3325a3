import DepositGate.Identity
import DepositGate.Proofs.Text.HexDigits
import Mathlib.Data.List.Induction

/-!
# Bytes and digits of identities

Bytes are those of the one identity that they make, and an identity has other digits than any other.
Padded with zero bytes on the left it is the same number, and its digits have zeros in front.
-/

namespace DepositGate

open DepositGate.Text

theorem bytesOf_bytesValue (bytes : List UInt8) :
    bytesOf bytes.length (bytesValue bytes) = bytes := by
  induction bytes using List.reverseRecOn with
  | nil => rfl
  | append_singleton front last ih =>
    have hlast := last.toNat_lt
    have hfront : (256 * bytesValue front + last.toNat) / 256 = bytesValue front := by omega
    have hbyte : (256 * bytesValue front + last.toNat) % 256 = last.toNat := by omega
    rw [List.length_append, List.length_singleton, bytesOf, bytesValue_concat, hfront, hbyte, ih,
      UInt8.ofNat_toNat]

theorem bytesOf_zero (width : Nat) : bytesOf width 0 = List.replicate width 0 := by
  induction width with
  | zero => rfl
  | succ width ih =>
    rw [bytesOf, Nat.zero_div, ih, List.replicate_succ']
    rfl

/-- More bytes than a number needs start with zeros. -/
theorem bytesOf_add (extra : Nat) {width n : Nat} (h : n < 256 ^ width) :
    bytesOf (extra + width) n = List.replicate extra 0 ++ bytesOf width n := by
  induction width generalizing n with
  | zero =>
    rw [Nat.pow_zero, Nat.lt_one_iff] at h
    rw [h, Nat.add_zero, bytesOf_zero, bytesOf, List.append_nil]
  | succ width ih =>
    have hdiv : n / 256 < 256 ^ width := by
      rw [Nat.div_lt_iff_lt_mul (by decide), ← Nat.pow_succ]
      exact h
    rw [← Nat.add_assoc, bytesOf, bytesOf, ih hdiv, List.append_assoc]

namespace Identity

variable {size : Nat}

theorem toBytes_ofBytes (bytes : List UInt8) (h : bytes.length = size) :
    (ofBytes bytes h).toBytes = bytes := by
  subst h
  exact bytesOf_bytesValue bytes

theorem toBytes_injective : Function.Injective (@toBytes size) := by
  intro a b h
  apply ext
  rw [← bytesValue_bytesOf size a.val a.val_lt, ← bytesValue_bytesOf size b.val b.val_lt]
  exact congrArg bytesValue h

theorem toHex_injective {a b : Identity size} (h : a.toHex = b.toHex) : a = b :=
  toBytes_injective (Hex.encode_injective h)

@[simp] theorem length_toHex (a : Identity size) : a.toHex.length = 2 * size := by
  rw [toHex, Hex.length_encode, length_toBytes]

theorem toHex_ofBytes (bytes : List UInt8) (h : bytes.length = size) :
    (ofBytes bytes h).toHex = Hex.encode bytes := by
  rw [toHex, toBytes_ofBytes]

theorem toHex_widen (a : Identity size) (extra : Nat) :
    (a.widen (Nat.le_add_left size extra)).toHex = List.replicate (2 * extra) '0' ++ a.toHex := by
  rw [toHex, toBytes, widen, bytesOf_add extra a.val_lt, Hex.encode_append, Hex.encode_zeros, toHex,
    toBytes]

/-- Of an identity without a value, and of no other, all digits are zeros. -/
theorem isZero_iff_toHex (a : Identity size) : a.isZero = true ↔ ∀ c ∈ a.toHex, c = '0' := by
  have hzero : (zero : Identity size).toHex = List.replicate (2 * size) '0' := by
    rw [toHex, toBytes, zero, bytesOf_zero, Hex.encode_zeros]
  constructor
  · intro h
    have hsame : a = zero := ext (beq_iff_eq.1 h)
    rw [hsame, hzero]
    intro c
    exact List.eq_of_mem_replicate
  · intro h
    have hsame : a = zero := by
      apply toHex_injective
      rw [hzero, ← length_toHex a]
      exact List.eq_replicate_of_mem h
    rw [hsame]
    rfl

end Identity

end DepositGate
