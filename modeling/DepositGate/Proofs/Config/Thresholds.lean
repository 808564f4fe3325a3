import DepositGate.Config.Thresholds
import DepositGate.Proofs.Outcome
import DepositGate.Proofs.SortedMap
import DepositGate.Proofs.Text.Pieces
import DepositGate.Proofs.Text.WrittenValues

/-!
# Spelled and written lists of thresholds

A list of thresholds is spelled by pieces with commas between them: some are blank, and the others
spell an entry each, with blanks around its parts. It is read as the map of its entries, the last
one for an asset counting, or refused if one of them is for the token without an identity. A map is
written as its entries in their order, which is one of its spellings.
-/

namespace DepositGate

namespace Thresholds

open DepositGate.Text

variable {entry : Asset × Amount} {entries : List (Asset × Amount)} {piece : List Char}
  {texts : List (List Char)}

/-! ### Entries -/

/-- The text of an entry: a spelling of its asset and one of its amount on either side of the sign,
each with blanks around it. -/
def SpellsEntry (piece : List Char) (entry : Asset × Amount) : Prop :=
  ∃ left right name number, piece = left ++ '=' :: right
    ∧ Padded name left ∧ Asset.Spells name entry.1
    ∧ Padded number right ∧ Amount.Spells number entry.2

theorem SpellsEntry.not_mem_comma (h : SpellsEntry piece entry) : ',' ∉ piece := by
  obtain ⟨left, right, name, number, rfl, hleft, hname, hright, hnumber⟩ := h
  have hcomma : ',' ∉ name := by
    intro hmem
    cases hname.isAlphanum_of_mem hmem
  have hdigits : ',' ∉ number := by
    intro hmem
    cases hnumber.isDigit_of_mem hmem (by decide)
  rw [List.mem_append, List.mem_cons, not_or, not_or]
  exact ⟨hleft.not_mem rfl hcomma, by decide, hright.not_mem rfl hdigits⟩

theorem SpellsEntry.not_isEmpty_trim (h : SpellsEntry piece entry) :
    (!(trim piece).isEmpty) = true := by
  obtain ⟨left, right, _, _, rfl, -⟩ := h
  rw [trim_append_cons rfl]
  simp

theorem SpellsEntry.entryOfText (h : SpellsEntry piece entry) : entryOfText (trim piece)
    = if entry.1.Named then .ok entry else .error (.badAsset .zeroToken) := by
  obtain ⟨left, right, name, number, rfl, hleft, hname, hright, hnumber⟩ := h
  have hsign : '=' ∉ left.dropWhile isBlank := by
    intro hmem
    have hnone : '=' ∉ name := by
      intro hmem
      cases hname.isAlphanum_of_mem hmem
    exact hleft.not_mem rfl hnone ((List.dropWhile_sublist isBlank).mem hmem)
  have hasset := hname.ofText ((trim_dropWhile left).trans (hleft.trim_eq hname.not_blank))
  have hamount := hnumber.ofText ((trim_dropBlanksEnd right).trans
    (hright.trim_eq hnumber.not_blank))
  rw [trim_append_cons rfl, Thresholds.entryOfText, cut?_of_not_mem _ hsign]
  by_cases hnamed : entry.1.Named
  · simp only [hasset, hamount, if_pos hnamed]
  · simp only [hasset, if_neg hnamed]

/-! ### Lists -/

/-- The pieces of a list: spellings of its entries in their order, with blank pieces among them. -/
inductive Spells : List (List Char) → List (Asset × Amount) → Prop
  | nil : Spells [] []
  | blank {pieces entries piece} (h : piece.all isBlank = true) :
    Spells pieces entries → Spells (piece :: pieces) entries
  | entry {pieces entries piece entry} (h : SpellsEntry piece entry) :
    Spells pieces entries → Spells (piece :: pieces) (entry :: entries)

theorem Spells.not_mem_comma (h : Spells texts entries) : ∀ piece ∈ texts, ',' ∉ piece := by
  induction h with
  | nil => exact List.forall_mem_nil _
  | blank hblank _ ih =>
    refine List.forall_mem_cons.2 ⟨?_, ih⟩
    intro hmem
    cases List.all_eq_true.1 hblank ',' hmem
  | entry hentry _ ih => exact List.forall_mem_cons.2 ⟨hentry.not_mem_comma, ih⟩

/-- The entries of a list that is spelled by pieces are what the pieces spell. -/
theorem Spells.fileEntries (h : Spells texts entries) (hnamed : ∀ entry ∈ entries, entry.1.Named)
    (map : SortedMap Asset Amount) :
    fileEntries map ((texts.map trim).filter fun entry => !entry.isEmpty)
      = .ok (entries.foldl (fun map entry => map.insert entry.1 entry.2) map) := by
  -- A blank piece is dropped before anything is read, and any other piece files its entry.
  induction h generalizing map with
  | nil => rfl
  | blank hblank _ ih =>
    rw [List.map_cons, trim_of_blanks hblank]
    exact ih hnamed map
  | @entry _ _ piece entry hentry _ ih =>
    obtain ⟨hfirst, hrest⟩ := List.forall_mem_cons.1 hnamed
    rw [List.map_cons, List.filter_cons, if_pos hentry.not_isEmpty_trim, Thresholds.fileEntries,
      hentry.entryOfText, if_pos hfirst]
    exact ih hrest (map.insert entry.1 entry.2)

theorem Spells.fileEntries_of_not_named (h : Spells texts entries)
    (hunnamed : ∃ entry ∈ entries, ¬entry.1.Named) (map : SortedMap Asset Amount) :
    ∃ why, Thresholds.fileEntries map ((texts.map trim).filter fun entry => !entry.isEmpty)
      = .error why := by
  induction h generalizing map with
  | nil => simp at hunnamed
  | blank hblank _ ih =>
    rw [List.map_cons, trim_of_blanks hblank]
    exact ih hunnamed map
  | @entry _ rest piece entry hentry _ ih =>
    rw [List.map_cons, List.filter_cons, if_pos hentry.not_isEmpty_trim, Thresholds.fileEntries,
      hentry.entryOfText]
    by_cases hnamed : entry.1.Named
    · obtain ⟨other, hmem, hother⟩ := hunnamed
      have hrest : other ∈ rest := by
        rcases List.mem_cons.1 hmem with rfl | hrest
        · exact absurd hnamed hother
        · exact hrest
      rw [if_pos hnamed]
      exact ih ⟨other, hrest, hother⟩ (map.insert entry.1 entry.2)
    · rw [if_neg hnamed]
      exact ⟨_, rfl⟩

/-- The list that pieces make with commas between them. -/
def join (texts : List (List Char)) : String := String.ofList ([','].intercalate texts)

theorem Spells.ofText_join_eq (h : Spells texts entries) : ofText (join texts)
    = Thresholds.fileEntries .empty ((texts.map trim).filter fun entry => !entry.isEmpty) := by
  rw [ofText, join, String.toList_ofList, entriesOf]
  cases texts with
  | nil => rfl
  | cons first rest => rw [pieces_intercalate (by simp) h.not_mem_comma]

theorem Spells.ofText_join (h : Spells texts entries)
    (hnamed : ∀ entry ∈ entries, entry.1.Named) : ofText (join texts) = .ok (.ofList entries) :=
  h.ofText_join_eq.trans (h.fileEntries hnamed .empty)

/-! ### Written maps -/

def writeEntry (entry : Asset × Amount) : List Char :=
  entry.1.toText.toList ++ '=' :: digits entry.2.val

def write (thresholds : SortedMap Asset Amount) : String :=
  String.ofList ([','].intercalate (thresholds.entries.map writeEntry))

theorem write_eq_join (thresholds : SortedMap Asset Amount) :
    write thresholds = join (thresholds.entries.map writeEntry) :=
  rfl

theorem spellsEntry_writeEntry (entry : Asset × Amount) : SpellsEntry (writeEntry entry) entry :=
  ⟨entry.1.toText.toList, digits entry.2.val, _, _, rfl, .self _, entry.1.spells_toText, .self _,
    entry.2.spells_digits⟩

theorem spells_map_writeEntry (entries : List (Asset × Amount)) :
    Spells (entries.map writeEntry) entries := by
  induction entries with
  | nil => exact .nil
  | cons entry rest ih => exact .entry (spellsEntry_writeEntry entry) ih

/-- All thresholds are for assets that a text can name. -/
def Named (thresholds : SortedMap Asset Amount) : Prop :=
  ∀ entry ∈ thresholds.entries, entry.1.Named

instance (thresholds : SortedMap Asset Amount) : Decidable (Named thresholds) :=
  inferInstanceAs (Decidable (∀ entry ∈ thresholds.entries, entry.1.Named))

theorem ofText_write {thresholds : SortedMap Asset Amount} (h : Named thresholds) :
    ofText (write thresholds) = .ok thresholds := by
  rw [write_eq_join, (spells_map_writeEntry thresholds.entries).ofText_join h,
    thresholds.ofList_entries]

theorem ofText_write_of_not_named {thresholds : SortedMap Asset Amount} (h : ¬Named thresholds) :
    ∃ why, ofText (write thresholds) = .error why := by
  have hspells := spells_map_writeEntry thresholds.entries
  have hunnamed : ∃ entry ∈ thresholds.entries, ¬entry.1.Named := by
    simpa [Named] using h
  rw [write_eq_join, hspells.ofText_join_eq]
  exact hspells.fileEntries_of_not_named hunnamed .empty

end Thresholds

end DepositGate
