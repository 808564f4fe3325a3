import DepositGate.Proofs.Identity
import DepositGate.Proofs.Text.WrittenValues

/-!
# Texts of assets

An asset is read from the word for the native one, or from 40 or 64 hexadecimal digits that are not
all zero, with a mark in front or without, in any letter case and with blanks around. In place of 64
digits that start with 24 zeros the other 40 may stand; apart from that, two texts of one asset
differ in blanks, the mark and letter case only. An asset is written in one of these ways, and no
two alike.
-/

namespace DepositGate.Asset

open DepositGate.Text

variable {name other hex digits : List Char} {text : String} {asset : Asset} {id : Identity 32}

/-! ### Names -/

/-- The word for the native asset in any letter case. -/
def IsWord (name : List Char) : Prop :=
  name.map Char.toLower = ['n', 'a', 't', 'i', 'v', 'e']

instance (name : List Char) : Decidable (IsWord name) :=
  inferInstanceAs (Decidable (_ = _))

/-- Digits for the bytes of an account or of a token, in either letter case and not all zero. -/
def IsIdentity (hex : List Char) : Prop :=
  hex.all Hex.isDigit = true ∧ (hex.length = 40 ∨ hex.length = 64) ∧ hex.all (· == '0') = false

instance (hex : List Char) : Decidable (IsIdentity hex) :=
  inferInstanceAs (Decidable (_ ∧ (_ ∨ _) ∧ _))

/-- The word for the native asset, or digits of an identity with or without one mark in front. -/
inductive IsName : List Char → Prop
  | native {name : List Char} (h : IsWord name) : IsName name
  | bare {hex : List Char} (h : IsIdentity hex) : IsName hex
  | marked {hex : List Char} (h : IsIdentity hex) : IsName ('0' :: 'x' :: hex)

/-- What is left of a name without a mark in front and capital letters. -/
def bare (name : List Char) : List Char :=
  (Hex.dropMark name).map Char.toLower

/-- The longer digits are the shorter ones, those of an account, with zeros in front up to the
length of those of a token. -/
def Widens (short long : List Char) : Prop :=
  short.length = 40 ∧ long = List.replicate 24 '0' ++ short

/-- Digits of an identity, all of them or without the zeros in front of an account's. -/
def Denotes (digits : List Char) (id : Identity 32) : Prop :=
  digits = id.toHex ∨ Widens digits id.toHex

theorem Denotes.length_eq (h : Denotes digits id) : digits.length = 40 ∨ digits.length = 64 := by
  cases h with
  | inl hfull =>
    right
    rw [hfull, Identity.length_toHex]
  | inr hshort => exact .inl hshort.1

theorem denotes_of_account_iff {bytes : List UInt8} (hshort : bytes.length = 20) :
    Denotes (Hex.encode bytes) id
      ↔ ((Identity.ofBytes bytes hshort).widen (by decide) : Identity 32) = id := by
  have hhex : ((Identity.ofBytes bytes hshort).widen (by decide) : Identity 32).toHex
      = List.replicate 24 '0' ++ Hex.encode bytes := by
    rw [← Identity.toHex_ofBytes bytes hshort]
    exact Identity.toHex_widen (Identity.ofBytes bytes hshort) 12
  have hlength : (Hex.encode bytes).length = 40 := by
    rw [Hex.length_encode, hshort]
  constructor
  · rintro (hsame | ⟨-, hwide⟩)
    · rw [hsame, Identity.length_toHex] at hlength
      cases hlength
    · exact Identity.toHex_injective (hhex.trans hwide.symm)
  · rintro rfl
    exact .inr ⟨hlength, hhex⟩

theorem denotes_of_token_iff {bytes : List UInt8} (hlong : bytes.length = 32) :
    Denotes (Hex.encode bytes) id ↔ Identity.ofBytes bytes hlong = id := by
  have hhex := Identity.toHex_ofBytes bytes hlong
  constructor
  · rintro (hsame | ⟨hlength, -⟩)
    · exact Identity.toHex_injective (hhex.trans hsame)
    · rw [Hex.length_encode, hlong] at hlength
      cases hlength
  · rintro rfl
    exact .inl hhex.symm

theorem identityOfBytes?_eq_some_iff {bytes : List UInt8} :
    identityOfBytes? bytes = some id ↔ Denotes (Hex.encode bytes) id := by
  rw [identityOfBytes?]
  split
  · rename_i hshort
    rw [Option.some.injEq, denotes_of_account_iff hshort]
  · rename_i hother
    split
    · rename_i hlong
      rw [Option.some.injEq, denotes_of_token_iff hlong]
    · rename_i hlong
      constructor
      · intro h
        cases h
      · intro h
        have hlength := h.length_eq
        rw [Hex.length_encode] at hlength
        omega

/-- The digits stand for an identity that is not all zeros exactly if they are not. -/
theorem Denotes.isZero_iff (h : Denotes digits id) : id.isZero = true ↔ ∀ c ∈ digits, c = '0' := by
  rw [Identity.isZero_iff_toHex]
  cases h with
  | inl hfull => rw [hfull]
  | inr hshort =>
    rw [hshort.2]
    simp only [List.mem_append, List.mem_replicate]
    constructor
    · intro hall c hc
      exact hall c (.inr hc)
    · rintro hall c (⟨-, hzero⟩ | hc)
      · exact hzero
      · exact hall c hc

theorem lower_eq_zero_iff {c : Char} : c.toLower = '0' ↔ c = '0' := by
  constructor
  · intro h
    have hcode : c.toNat < 128 := Hex.toNat_lt_of_lower (n := 0) (by decide) h
    revert h
    refine of_one_byte c hcode ?_
    decide +kernel
  · rintro rfl
    rfl

theorem Denotes.all_isDigit (h : Denotes (hex.map Char.toLower) id) :
    hex.all Hex.isDigit = true := by
  -- Behind zeros or alone, the digits are among those of the identity.
  have hmem : ∀ digit ∈ hex.map Char.toLower, digit ∈ id.toHex := by
    intro digit hdigit
    cases h with
    | inl hfull => rwa [← hfull]
    | inr hshort =>
      rw [hshort.2]
      exact List.mem_append_right _ hdigit
  rw [List.all_eq_true]
  intro c hc
  exact Hex.isDigit_of_lower_mem (hmem _ (List.mem_map_of_mem hc))

theorem exists_bytes (hdigits : hex.all Hex.isDigit = true)
    (hlength : hex.length = 40 ∨ hex.length = 64) :
    ∃ bytes, hex.map Char.toLower = Hex.encode bytes ∧ (bytes.length = 20 ∨ bytes.length = 32) := by
  rcases hlength with hlength | hlength
  · obtain ⟨bytes, hlower, hbytes⟩ := (Hex.exists_encode_iff 20).2 ⟨hdigits, hlength⟩
    exact ⟨bytes, hlower, .inl hbytes⟩
  · obtain ⟨bytes, hlower, hbytes⟩ := (Hex.exists_encode_iff 32).2 ⟨hdigits, hlength⟩
    exact ⟨bytes, hlower, .inr hbytes⟩

theorem Denotes.exists_bytes (h : Denotes (hex.map Char.toLower) id) :
    ∃ bytes, hex.map Char.toLower = Hex.encode bytes ∧ (bytes.length = 20 ∨ bytes.length = 32) := by
  have hlength := h.length_eq
  rw [List.length_map] at hlength
  exact Asset.exists_bytes h.all_isDigit hlength

/-- Digits in any letter case stand for an identity with a value exactly if there are 40 or 64 of
them, not all zero. -/
theorem exists_denotes_iff (hex : List Char) :
    (∃ id, id.isZero = false ∧ Denotes (hex.map Char.toLower) id) ↔ IsIdentity hex := by
  have hzeros : (∀ c ∈ hex.map Char.toLower, c = '0') ↔ hex.all (· == '0') = true := by
    simp only [List.forall_mem_map, lower_eq_zero_iff, List.all_eq_true, beq_iff_eq]
  constructor
  · rintro ⟨id, hvalue, h⟩
    have hlength := h.length_eq
    rw [List.length_map] at hlength
    refine ⟨h.all_isDigit, hlength, ?_⟩
    rw [← Bool.not_eq_true, ← hzeros, ← h.isZero_iff, hvalue]
    exact Bool.false_ne_true
  · rintro ⟨hdigits, hlength, hvalue⟩
    obtain ⟨bytes, hlower, hbytes⟩ := exists_bytes hdigits hlength
    obtain ⟨id, hid⟩ : ∃ id, identityOfBytes? bytes = some id := by
      rw [identityOfBytes?]
      rcases hbytes with hbytes | hbytes
      · exact ⟨_, dif_pos hbytes⟩
      · exact ⟨_, (dif_neg (by omega)).trans (dif_pos hbytes)⟩
    have hdenotes : Denotes (hex.map Char.toLower) id := by
      rw [hlower]
      exact identityOfBytes?_eq_some_iff.1 hid
    refine ⟨id, ?_, hdenotes⟩
    rw [← Bool.not_eq_true, hdenotes.isZero_iff, hzeros, hvalue]
    exact Bool.false_ne_true

/-! ### What a name is read as -/

theorem IsWord.bare_eq (h : IsWord name) : bare name = ['n', 'a', 't', 'i', 'v', 'e'] := by
  rcases Hex.dropMark_cases name with hmark | hsame
  · rw [IsWord, hmark] at h
    cases (List.cons.inj h).1
  · rw [bare, hsame]
    exact h

theorem IsWord.not_denotes (h : IsWord name) : ¬Denotes (bare name) id := by
  intro hdenotes
  have hlength := hdenotes.length_eq
  rw [h.bare_eq] at hlength
  simp at hlength

theorem ofTrimmed_of_not_word (h : ¬IsWord name) : ofTrimmed name
    = match Hex.decode (Hex.dropMark name) with
      | .error why => .error (.badHex (String.ofList name) why)
      | .ok bytes =>
        match identityOfBytes? bytes with
        | none => .error (.badLength (String.ofList name) bytes.length)
        | some id => if id.isZero then .error .zeroToken else .ok (token id) :=
  if_neg h

theorem ofTrimmed_eq_native_iff : ofTrimmed name = .ok native ↔ IsWord name := by
  constructor
  · intro h
    by_contra hword
    rw [ofTrimmed_of_not_word hword] at h
    split at h
    · cases h
    · split at h
      · cases h
      · split at h <;> cases h
  · exact fun h => if_pos h

theorem ofTrimmed_eq_token_iff : ofTrimmed name = .ok (token id)
    ↔ id.isZero = false ∧ Denotes (bare name) id := by
  by_cases hword : IsWord name
  · rw [ofTrimmed_eq_native_iff.2 hword]
    simp [hword.not_denotes]
  · rw [ofTrimmed_of_not_word hword]
    cases hread : Hex.decode (Hex.dropMark name) with
    | error why =>
      constructor
      · intro h
        cases h
      · rintro ⟨-, h⟩
        obtain ⟨bytes, hlower, -⟩ := h.exists_bytes
        rw [Hex.decode_of_lower hlower] at hread
        cases hread
    | ok bytes =>
      rw [bare, Hex.decode_eq_ok_iff.1 hread, ← identityOfBytes?_eq_some_iff]
      dsimp only
      cases identityOfBytes? bytes with
      | none => simp
      | some found =>
        dsimp only
        rw [Option.some.injEq]
        split
        · rename_i hzero
          constructor
          · intro h
            cases h
          · rintro ⟨hvalue, rfl⟩
            rw [hzero] at hvalue
            cases hvalue
        · rename_i hvalue
          constructor
          · intro h
            cases h
            exact ⟨Bool.eq_false_iff.2 hvalue, rfl⟩
          · rintro ⟨-, rfl⟩
            rfl

theorem isName_iff : IsName name ↔ IsWord name ∨ IsIdentity (Hex.dropMark name) := by
  constructor
  · rintro (hword | hbare | hmarked)
    · exact .inl hword
    · right
      rw [Hex.dropMark_of_isDigit hbare.1]
      exact hbare
    · exact .inr hmarked
  · rintro (hword | hidentity)
    · exact .native hword
    · rcases Hex.dropMark_cases name with hmark | hsame
      · rw [hmark]
        exact .marked hidentity
      · rw [← hsame]
        exact .bare hidentity

/-- What is read at all are the names. -/
theorem exists_ofTrimmed_iff : (∃ asset, ofTrimmed name = .ok asset) ↔ IsName name := by
  rw [isName_iff, ← exists_denotes_iff]
  constructor
  · rintro ⟨asset, h⟩
    cases asset with
    | native => exact .inl (ofTrimmed_eq_native_iff.1 h)
    | token id => exact .inr ⟨id, ofTrimmed_eq_token_iff.1 h⟩
  · rintro (hword | ⟨id, h⟩)
    · exact ⟨native, ofTrimmed_eq_native_iff.2 hword⟩
    · exact ⟨token id, ofTrimmed_eq_token_iff.2 h⟩

/-! ### Names of one asset -/

/-- Equal, or the same but for the zeros in front of an account's digits. -/
def Alike (digits others : List Char) : Prop :=
  digits = others ∨ Widens digits others ∨ Widens others digits

theorem Widens.length_eq {long : List Char} (h : Widens digits long) : long.length = 64 := by
  rw [h.2, List.length_append, List.length_replicate, h.1]

theorem Widens.unique {others long : List Char} (h : Widens digits long) :
    Widens others long ↔ digits = others := by
  constructor
  · intro hother
    exact List.append_cancel_left (h.2.symm.trans hother.2)
  · rintro rfl
    exact h

/-- Of the digits of an identity all others are digits that are alike. -/
theorem Denotes.iff_alike (h : Denotes digits id) (others : List Char) :
    Denotes others id ↔ Alike digits others := by
  cases h with
  | inl hfull =>
    have hnarrow : ¬Widens digits others := by
      intro hwide
      have hlength := hwide.1
      rw [hfull, Identity.length_toHex] at hlength
      cases hlength
    rw [Denotes, Alike, ← hfull, eq_comm (a := others)]
    simp only [hnarrow, false_or]
  | inr hshort =>
    have hnarrow : ¬Widens others digits := by
      intro hwide
      have hlength := hwide.length_eq
      rw [hshort.1] at hlength
      cases hlength
    have hwide : others = id.toHex ↔ Widens digits others := by
      rw [Widens, hshort.2, and_iff_right hshort.1]
    rw [Denotes, Alike, hshort.unique, hwide]
    simp only [hnarrow, or_false]
    exact or_comm

/-- Of the names of an asset all others are names that are alike but for a mark and letter case. -/
theorem ofTrimmed_iff_alike (h : ofTrimmed name = .ok asset) (hother : IsName other) :
    ofTrimmed other = .ok asset ↔ Alike (bare name) (bare other) := by
  cases asset with
  | token id =>
    obtain ⟨hvalue, hdenotes⟩ := ofTrimmed_eq_token_iff.1 h
    rw [ofTrimmed_eq_token_iff, and_iff_right hvalue]
    exact hdenotes.iff_alike (bare other)
  | native =>
    rw [ofTrimmed_eq_native_iff, (ofTrimmed_eq_native_iff.1 h).bare_eq]
    rcases isName_iff.1 hother with hword | ⟨-, hlength, -⟩
    · rw [hword.bare_eq]
      exact iff_of_true hword (.inl rfl)
    · -- Digits are too many to be the word, or to be alike with it.
      rw [← List.length_map (f := Char.toLower)] at hlength
      constructor
      · intro hword
        rw [← bare, hword.bare_eq] at hlength
        simp at hlength
      · rintro (hsame | hwide | hwide)
        · rw [← bare, ← hsame] at hlength
          simp at hlength
        · cases hwide.1
        · cases hwide.length_eq

/-! ### Written texts -/

/-- The text with capital digits, its mark left as it is. -/
def capitals : List Char → List Char
  | '0' :: 'x' :: digits => '0' :: 'x' :: digits.map Char.toUpper
  | name => name.map Char.toUpper

/-- The text that the asset is written as, and the same with capital digits, without the mark and
with both changes. -/
def spellings (asset : Asset) : List (List Char) :=
  let name := asset.toText.toList
  [name, capitals name, Hex.dropMark name, Hex.dropMark (capitals name)]

theorem lower_upper_toHex (id : Identity 32) :
    (id.toHex.map Char.toUpper).map Char.toLower = id.toHex := by
  have hall : ∀ n < 16, (Nat.digitChar n).toUpper.toLower = Nat.digitChar n := by
    decide
  rw [List.map_map]
  refine (List.map_congr_left ?_).trans (List.map_id _)
  intro c hc
  obtain ⟨n, hn, rfl⟩ := Hex.exists_of_mem_encode hc
  exact hall n hn

theorem spells_of_mem_spellings (h : name ∈ asset.spellings) : Spells name asset := by
  cases asset with
  | native =>
    have hall : ∀ name ∈ native.spellings, IsWord name := by decide
    exact .native (hall name h)
  | token id =>
    have hlower : id.toHex.map Char.toLower = id.toHex := Hex.lower_encode id.toBytes
    have hupper := lower_upper_toHex id
    simp only [spellings, toList_toText_token, capitals, Hex.dropMark, List.mem_cons,
      List.not_mem_nil, or_false] at h
    generalize id.toHex.map Char.toUpper = upper at h hupper
    rcases h with h | h | h | h
    · exact h ▸ .marked hlower
    · exact h ▸ .marked hupper
    · exact h ▸ .bare hlower
    · exact h ▸ .bare hupper

theorem ofText_of_mem_spellings (hnamed : asset.Named) (h : name ∈ asset.spellings)
    (htext : Padded name text.toList) : ofText text = .ok asset := by
  have hspells := spells_of_mem_spellings h
  have hread := hspells.ofText (htext.trim_eq hspells.not_blank)
  rwa [String.ofList_toList, if_pos hnamed] at hread

theorem toText_native_ne (id : Identity 32) : native.toText ≠ (token id).toText := by
  intro h
  have hfirst : native.toText.toList.head? = some 'n' := by decide
  rw [h, toList_toText_token] at hfirst
  simp at hfirst

theorem toText_injective : Function.Injective toText := by
  intro a b h
  cases a with
  | native => cases b with
    | native => rfl
    | token other => exact absurd h (toText_native_ne other)
  | token id => cases b with
    | native => exact absurd h.symm (toText_native_ne id)
    | token other =>
      have hlist := congrArg String.toList h
      rw [toList_toText_token, toList_toText_token] at hlist
      have hhex := (List.cons.inj (List.cons.inj hlist).2).2
      exact congrArg token (Identity.toHex_injective hhex)

/-- A text is read as an asset exactly if it has a name with blanks around it, and texts of one
asset have names that are alike but for the mark and letter case. An asset with a name is read from
the text that it is written as, also with capital digits, without the mark and with blanks around,
and no two assets are written alike. -/
theorem read_exactly_from_names :
    (∀ text, (∃ asset, ofText text = .ok asset) ↔ IsName (trim text.toList))
      ∧ (∀ text other asset, ofText text = .ok asset → IsName (trim other.toList) →
        (ofText other = .ok asset
          ↔ Alike (bare (trim text.toList)) (bare (trim other.toList))))
      ∧ (∀ asset : Asset, asset.Named → ∀ name ∈ asset.spellings, ∀ text,
        Padded name text.toList → ofText text = .ok asset)
      ∧ Function.Injective toText := by
  refine ⟨?_, ?_, ?_, toText_injective⟩
  · intro text
    exact exists_ofTrimmed_iff
  · intro text other asset h hother
    exact ofTrimmed_iff_alike h hother
  · intro asset hnamed name hname text htext
    exact ofText_of_mem_spellings hnamed hname htext

/-- The digits of an account and those of a token with zeros in front name one token, and so does
its text in capital digits with an ideographic space after it. -/
theorem sampleAccount_names_token :
    let id : Identity 32 := ⟨0xaa, by decide⟩
    let short := "\t0x00000000000000000000000000000000000000Aa\n"
    let long := "00000000000000000000000000000000000000000000000000000000000000aA"
    let written := " 0x00000000000000000000000000000000000000000000000000000000000000AA\u3000"
    IsName (trim long.toList) ∧ (token id).Named ∧ capitals (token id).toText.toList
        ∈ (token id).spellings ∧ Padded (capitals (token id).toText.toList) written.toList
      ∧ ofText short = .ok (token id) ∧ ofText long = .ok (token id)
      ∧ ofText written = .ok (token id) := by
  intro id short long written
  obtain ⟨-, hsame, hwritten, -⟩ := read_exactly_from_names
  have hlong : IsName (trim long.toList) := .bare (by decide +kernel)
  have hnamed : (token id).Named := by decide
  have hmem : capitals (token id).toText.toList ∈ (token id).spellings :=
    List.mem_cons_of_mem _ List.mem_cons_self
  have hpadded : Padded (capitals (token id).toText.toList) written.toList :=
    ⟨[' '], ['\u3000'], rfl, rfl, by decide +kernel⟩
  have hshort : ofText short = .ok (token id) := by decide +kernel
  have halike : Alike (bare (trim short.toList)) (bare (trim long.toList)) :=
    .inr (.inl ⟨by decide +kernel, by decide +kernel⟩)
  exact ⟨hlong, hnamed, hmem, hpadded, hshort, (hsame short long _ hshort hlong).2 halike,
    hwritten _ hnamed _ hmem _ hpadded⟩

end DepositGate.Asset
