import DepositGate.Proofs.Text.Spellings

/-!
# Written values are read back

The text that a number, an amount or an asset is written as is a spelling of it, and so is read as
that value. The one asset whose text is refused is the token without an identity.
-/

namespace DepositGate

namespace Text

theorem trim_digits (n : Nat) : trim (digits n) = digits n :=
  trim_of_no_blank fun _ hc => isBlank_of_isDigit (isDigit_of_mem_digits hc)

theorem Unsigned.ofText_digits {limit n : Nat} (h : n < limit) :
    Unsigned.ofText limit (digits n) = .ok n := by
  have hread : Unsigned.ofDigits limit 0 (digits n) = .ok n :=
    (Unsigned.ofDigits_eq_ok_iff (Nat.zero_lt_of_lt h)).2
      ⟨digits_all_isDigit n, digitsValue_digits n, h⟩
  have hplus : '+' ∉ digits n := by
    intro hmem
    have hdigit := isDigit_of_mem_digits hmem
    cases hdigit
  unfold Unsigned.ofText
  split
  · rename_i hnil
    exact absurd hnil Nat.toDigits_ne_nil
  · rename_i heq
    rw [heq] at hplus
    simp at hplus
  · rename_i heq
    rw [heq] at hplus
    simp at hplus
  · exact hread

end Text

open DepositGate.Text

namespace Amount

theorem spells_digits (a : Amount) : Spells (digits a.val) a := by
  refine List.filter_eq_self.2 fun c hc => bne_iff_ne.2 ?_
  rintro rfl
  cases isDigit_of_mem_digits hc

theorem ofText_toText (a : Amount) : ofText a.toText = .ok a := by
  have hread := a.spells_digits.ofText (trim_digits a.val)
  rwa [← toList_toText, String.ofList_toList] at hread

end Amount

namespace Asset

theorem toList_toText_token (id : Identity 32) :
    (token id).toText.toList = '0' :: 'x' :: id.toHex :=
  String.toList_ofList

theorem spells_toText (asset : Asset) : Spells asset.toText.toList asset := by
  cases asset with
  | native => exact .native (by decide)
  | token id =>
    rw [toList_toText_token]
    exact .marked (Hex.lower_encode id.toBytes)

theorem ofText_toText_eq (asset : Asset) :
    ofText asset.toText = if asset.Named then .ok asset else .error .zeroToken := by
  have hread := asset.spells_toText.ofText (trim_of_no_blank asset.spells_toText.not_blank)
  rwa [String.ofList_toList] at hread

theorem ofText_toText {asset : Asset} (h : asset.Named) : ofText asset.toText = .ok asset :=
  asset.ofText_toText_eq.trans (if_pos h)

theorem ofText_toText_of_not_named {asset : Asset} (h : ¬asset.Named) :
    ofText asset.toText = .error .zeroToken :=
  asset.ofText_toText_eq.trans (if_neg h)

theorem named_of_ofText {text : String} {asset : Asset} (h : ofText text = .ok asset) :
    asset.Named := by
  rw [ofText, ofTrimmed] at h
  split at h
  · cases h
    trivial
  · split at h
    · cases h
    · split at h
      · cases h
      · split at h
        · cases h
        · rename_i hzero
          cases h
          exact Bool.eq_false_iff.2 hzero

end Asset

end DepositGate
