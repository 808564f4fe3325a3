import DepositGate.Amount.Text
import DepositGate.Asset
import DepositGate.Proofs.Text.HexDigits

/-!
# Spellings of amounts and assets

A person may write an amount with underscores between its digits, an asset in any letter case and an
identity without its mark, and put blanks around any of them. Whatever the spelling, the value is
read that it stands for. The one asset that no spelling names is the token without an identity.
-/

namespace DepositGate

open DepositGate.Text

/-! ### Amounts -/

namespace Amount

variable {number : List Char} {amount : Amount}

/-- The digits of an amount, with underscores anywhere. -/
def Spells (number : List Char) (amount : Amount) : Prop :=
  number.filter (· != '_') = digits amount.val

instance (number : List Char) (amount : Amount) : Decidable (Spells number amount) :=
  inferInstanceAs (Decidable (_ = _))

theorem Spells.isDigit_of_mem (h : Spells number amount) {c : Char} (hc : c ∈ number)
    (hother : c ≠ '_') : isDigit c = true := by
  have hmem : c ∈ number.filter (· != '_') := List.mem_filter.2 ⟨hc, bne_iff_ne.2 hother⟩
  rw [h] at hmem
  exact isDigit_of_mem_digits hmem

theorem Spells.not_blank (h : Spells number amount) : ∀ c ∈ number, isBlank c = false := by
  intro c hc
  by_cases hscore : c = '_'
  · subst hscore
    rfl
  · exact isBlank_of_isDigit (h.isDigit_of_mem hc hscore)

theorem Spells.ofText (h : Spells number amount) {text : List Char} (htrim : trim text = number) :
    Amount.ofText (String.ofList text) = .ok amount := by
  rw [Amount.ofText, String.toList_ofList, bareDigits, htrim, h, ofDigits_digits]

end Amount

/-! ### Assets -/

namespace Asset

variable {name : List Char} {asset : Asset}

/-- The asset is not the token without an identity, which no text names. -/
def Named : Asset → Prop
  | native => True
  | token id => id.isZero = false

instance : DecidablePred Named
  | native => .isTrue trivial
  | token id => inferInstanceAs (Decidable (id.isZero = false))

/-- The word for the native asset in any letter case, or the digits of an identity in any letter
case with or without a mark in front. -/
inductive Spells : List Char → Asset → Prop
  | native {name : List Char} (h : name.map Char.toLower = ['n', 'a', 't', 'i', 'v', 'e']) :
    Spells name .native
  | bare {hex : List Char} {id : Identity 32} (h : hex.map Char.toLower = id.toHex) :
    Spells hex (.token id)
  | marked {hex : List Char} {id : Identity 32} (h : hex.map Char.toLower = id.toHex) :
    Spells ('0' :: 'x' :: hex) (.token id)

theorem Spells.isAlphanum_of_mem (h : Spells name asset) {c : Char} (hc : c ∈ name) :
    c.toLower.isAlphanum = true := by
  have hhex : ∀ {hex : List Char} {id : Identity 32}, hex.map Char.toLower = id.toHex →
      c ∈ hex → c.toLower.isAlphanum = true := by
    intro hex id hlower hmem
    have hdigit : c.toLower ∈ id.toHex := hlower ▸ List.mem_map_of_mem hmem
    exact Hex.isAlphanum_of_mem_encode hdigit
  cases h with
  | native hlower =>
    have hletter : c.toLower ∈ ['n', 'a', 't', 'i', 'v', 'e'] :=
      hlower ▸ List.mem_map_of_mem hc
    revert hletter
    generalize c.toLower = letter
    simp only [List.mem_cons, List.not_mem_nil, or_false]
    rintro (rfl | rfl | rfl | rfl | rfl | rfl) <;> rfl
  | bare hlower => exact hhex hlower hc
  | marked hlower =>
    simp only [List.mem_cons] at hc
    rcases hc with rfl | rfl | hc
    · rfl
    · rfl
    · exact hhex hlower hc

theorem Spells.not_blank (h : Spells name asset) : ∀ c ∈ name, isBlank c = false := by
  intro c hc
  exact isBlank_of_lower (h.isAlphanum_of_mem hc)

theorem identityOfBytes?_toBytes (id : Identity 32) : identityOfBytes? id.toBytes = some id := by
  rw [identityOfBytes?, dif_neg (by simp), dif_pos (by simp), Identity.ofBytes_toBytes]

/-- A spelling of an identity is read as its token, unless the identity is all zeros. -/
theorem ofTrimmed_token {hex : List Char} {id : Identity 32} (hhex : Hex.dropMark name = hex)
    (hlower : hex.map Char.toLower = id.toHex)
    (hword : name.map Char.toLower ≠ ['n', 'a', 't', 'i', 'v', 'e']) :
    ofTrimmed name = if (token id).Named then .ok (token id) else .error .zeroToken := by
  rw [ofTrimmed, if_neg hword, hhex, Hex.decode_of_lower hlower]
  simp only [identityOfBytes?_toBytes]
  by_cases hzero : id.isZero = true
  · have hunnamed : ¬(token id).Named := fun hnamed => Bool.false_ne_true (hnamed.symm.trans hzero)
    rw [if_pos hzero, if_neg hunnamed]
  · have hnamed : (token id).Named := Bool.eq_false_iff.2 hzero
    rw [if_neg hzero, if_pos hnamed]

theorem Spells.ofTrimmed (h : Spells name asset) :
    ofTrimmed name = if asset.Named then .ok asset else .error .zeroToken := by
  cases h with
  | native hlower =>
    rw [Asset.ofTrimmed, if_pos hlower]
    rfl
  | @bare _ id hlower =>
    obtain ⟨hdigits, -⟩ := (Hex.exists_encode_iff 32).1 ⟨id.toBytes, hlower, id.length_toBytes⟩
    refine ofTrimmed_token (Hex.dropMark_of_isDigit hdigits) hlower ?_
    intro hword
    have hlength := congrArg List.length (hlower.symm.trans hword)
    rw [Identity.toHex, Hex.length_encode, Identity.length_toBytes] at hlength
    cases hlength
  | marked hlower =>
    refine ofTrimmed_token rfl hlower ?_
    intro hword
    have hfirst := (List.cons.inj hword).1
    revert hfirst
    decide

/-- Whatever is trimmed to a spelling of an asset is read as the asset, if the asset has a name. -/
theorem Spells.ofText (h : Spells name asset) {text : List Char} (htrim : trim text = name) :
    Asset.ofText (String.ofList text)
      = if asset.Named then .ok asset else .error .zeroToken := by
  rw [Asset.ofText, String.toList_ofList, htrim, h.ofTrimmed]

end Asset

end DepositGate
