import DepositGate.Config.Load
import DepositGate.Proofs.Config.Thresholds

/-!
# Texts of amounts

An amount is given as text in three places: by a string of a document, by a variable of the
environment and in an entry of a list of thresholds. All three accept the same texts for the same
amounts. Such a text is a decimal number once blanks and underscores are passed over, or it has
nothing but those, and then it is taken for zero.
-/

namespace DepositGate

open DepositGate.Json DepositGate.Text

namespace Amount

variable {text : String} {amount : Amount}

/-- Without blanks around it and underscores the text is a row of digits, at least one, of a number
that an amount can be. -/
def IsDecimal (text : String) : Prop :=
  let bare := bareDigits text.toList
  bare ≠ [] ∧ bare.all isDigit = true ∧ digitsValue bare < 2 ^ 256

instance (text : String) : Decidable (IsDecimal text) := inferInstanceAs (Decidable (_ ∧ _ ∧ _))

/-- The text has blanks around underscores and nothing else. -/
def IsVoid (text : String) : Prop := ∃ count, Padded (List.replicate count '_') text.toList

theorem isVoid_iff : IsVoid text ↔ bareDigits text.toList = [] := by
  constructor
  · rintro ⟨count, hpadded⟩
    have hblank : ∀ c ∈ List.replicate count '_', isBlank c = false := by
      intro c hc
      rw [List.eq_of_mem_replicate hc]
      rfl
    rw [bareDigits, hpadded.trim_eq hblank]
    simp
  · intro hbare
    have hscores : ∀ c ∈ trim text.toList, c = '_' := by
      intro c hc
      by_contra hother
      exact List.filter_eq_nil_iff.1 hbare c hc (bne_iff_ne.2 hother)
    refine ⟨(trim text.toList).length, ?_⟩
    rw [← List.eq_replicate_of_mem hscores]
    exact padded_trim text.toList

theorem ofText_eq_ok_iff : ofText text = .ok amount
    ↔ (bareDigits text.toList).all isDigit = true
      ∧ digitsValue (bareDigits text.toList) = amount.val :=
  ofDigits_eq_ok_iff

theorem ofText_of_isDecimal (h : IsDecimal text) :
    ∃ amount, ofText text = .ok amount ∧ amount.val = digitsValue (bareDigits text.toList) := by
  obtain ⟨-, hdigits, hfits⟩ := h
  exact ⟨⟨_, hfits⟩, ofText_eq_ok_iff.2 ⟨hdigits, rfl⟩, rfl⟩

theorem ofText_of_isVoid (h : IsVoid text) : ofText text = .ok .zero := by
  rw [ofText_eq_ok_iff, isVoid_iff.1 h]
  exact ⟨rfl, rfl⟩

theorem exists_error_of_ofText (hdecimal : ¬IsDecimal text) (hvoid : ¬IsVoid text) :
    ∃ why, ofText text = .error why := by
  cases hread : ofText text with
  | error why => exact ⟨why, rfl⟩
  | ok amount =>
    obtain ⟨hdigits, hvalue⟩ := ofText_eq_ok_iff.1 hread
    have hfits : digitsValue (bareDigits text.toList) < 2 ^ 256 := hvalue ▸ amount.val_lt
    exact absurd ⟨fun hbare => hvoid (isVoid_iff.2 hbare), hdigits, hfits⟩ hdecimal

/-! ### The three readers -/

theorem readAmount_string (origin : Origin) (text : String) :
    readAmount origin (.string (some text))
      = (ofText text).mapError fun why => .unfit (.badAmount text why) := by
  rw [readAmount]
  cases ofText text <;> rfl

theorem amountOfText_eq (text : String) :
    Environment.amountOfText text = (ofText text).mapError Setting.Error.amount := by
  rw [Environment.amountOfText]
  cases ofText text <;> rfl

theorem entryOfText_amount {name : List Char} {asset : Asset} (hname : '=' ∉ name)
    (hasset : Asset.ofText (String.ofList name) = .ok asset) :
    Thresholds.entryOfText (name ++ '=' :: text.toList)
      = match ofText text with
        | .ok amount => .ok (asset, amount)
        | .error why => .error (.badAmount why) := by
  rw [Thresholds.entryOfText, cut?_of_not_mem _ hname]
  simp only [hasset, String.ofList_toList]
  cases ofText text <;> rfl

/-- A string of a document, a variable and an entry for an asset accept a text for the same amount,
and refuse it for the same reason. They take it for the number that it denotes if it is decimal, and
for zero if there is nothing in it; every other text they refuse. -/
theorem texts_read_alike (text : String) :
    (∀ origin amount, readAmount origin (.string (some text)) = .ok amount
        ↔ Environment.amountOfText text = .ok amount)
      ∧ (∀ origin why,
        readAmount origin (.string (some text)) = .error (.unfit (.badAmount text why))
          ↔ Environment.amountOfText text = .error (.amount why))
      ∧ (∀ name asset, '=' ∉ name → Asset.ofText (String.ofList name) = .ok asset →
        let entry := name ++ '=' :: text.toList
        (∀ amount, Thresholds.entryOfText entry = .ok (asset, amount)
            ↔ Environment.amountOfText text = .ok amount)
          ∧ ∀ why, Thresholds.entryOfText entry = .error (.badAmount why)
            ↔ Environment.amountOfText text = .error (.amount why))
      ∧ (IsDecimal text → ∃ amount, Environment.amountOfText text = .ok amount
        ∧ amount.val = digitsValue (bareDigits text.toList))
      ∧ (IsVoid text → ¬IsDecimal text ∧ Environment.amountOfText text = .ok .zero)
      ∧ (¬IsDecimal text → ¬IsVoid text → ∃ why, Environment.amountOfText text = .error why) := by
  simp only [readAmount_string, amountOfText_eq]
  refine ⟨?_, ?_, ?_, ?_, ?_, ?_⟩
  · intro origin amount
    cases ofText text <;> simp [Except.mapError]
  · intro origin why
    cases ofText text <;> simp [Except.mapError]
  · intro name asset hname hasset
    rw [entryOfText_amount hname hasset]
    cases ofText text <;> simp [Except.mapError]
  · intro hdecimal
    obtain ⟨amount, hread, hvalue⟩ := ofText_of_isDecimal hdecimal
    rw [hread]
    exact ⟨amount, rfl, hvalue⟩
  · intro hvoid
    rw [ofText_of_isVoid hvoid]
    exact ⟨fun hdecimal => hdecimal.1 (isVoid_iff.1 hvoid), rfl⟩
  · intro hdecimal hvoid
    obtain ⟨why, hread⟩ := exists_error_of_ofText hdecimal hvoid
    rw [hread]
    exact ⟨.amount why, rfl⟩

/-- Blanks and an underscore make no difference, and a point does. -/
theorem sampleNumber_read :
    IsDecimal " 1_000\n" ∧ Environment.amountOfText " 1_000\n" = .ok (.ofUInt64 1000)
      ∧ readAmount .held (.string (some " 1_000\n")) = .ok (.ofUInt64 1000)
      ∧ ∃ why, Environment.amountOfText "1.5" = .error why := by
  obtain ⟨hstring, -, -, hnumber, -, -⟩ := texts_read_alike " 1_000\n"
  obtain ⟨-, -, -, -, -, hother⟩ := texts_read_alike "1.5"
  have hdecimal : IsDecimal " 1_000\n" := by decide +kernel
  obtain ⟨amount, hread, hvalue⟩ := hnumber hdecimal
  have hthousand : amount = .ofUInt64 1000 := Amount.ext (hvalue.trans (by decide +kernel))
  subst hthousand
  have hvoid : ¬IsVoid "1.5" := by
    rw [isVoid_iff]
    decide +kernel
  exact ⟨hdecimal, hread, (hstring _ _).2 hread, hother (by decide +kernel) hvoid⟩

/-- A single blank is no number, and yet it is taken for zero in a string and in a variable, where
it turns the block budget off; and so is an underscore in an entry, where it makes the asset
unsupported. A variable for decimal places is refused if it is blank. -/
theorem blank_read_as_zero :
    (¬∀ text, (∃ amount, Environment.amountOfText text = .ok amount) ↔ IsDecimal text)
      ∧ ¬IsDecimal " "
      ∧ readAmount .document (.string (some " ")) = .ok .zero
      ∧ Environment.amountOfText " " = .ok .zero
      ∧ (∃ config, Config.ofEnvironment
          (fun setting => if setting = .blockCap then some " " else none) = .ok config
        ∧ config.blockCap = .zero)
      ∧ Thresholds.ofText "native=_" = .ok (.ofList [(.native, .zero)])
      ∧ Environment.byteOfText " " = .error (.number .empty) := by
  have hblank : ¬IsDecimal " " := by decide +kernel
  have hread : Environment.amountOfText " " = .ok .zero := by decide +kernel
  refine ⟨?_, hblank, rfl, hread, ⟨Config.standard, rfl, rfl⟩, by decide +kernel, by decide +kernel⟩
  intro hexact
  exact hblank ((hexact " ").1 ⟨.zero, hread⟩)

end Amount

end DepositGate
