import DepositGate.Proofs.Config.Thresholds

/-!
# Lists of thresholds in parts and in other spellings

Two lists with a comma between them are read one after the other: the first error decides, and else
what the second says overrides what the first says. A map is read from any list of its entries,
whatever their order, their spelling, the blanks around their parts and the empty entries among
them.
-/

namespace DepositGate.Thresholds

open DepositGate.Text

theorem entriesOf_append (first second : List Char) :
    entriesOf (first ++ ',' :: second) = entriesOf first ++ entriesOf second := by
  rw [entriesOf, pieces_append, List.map_append, List.filter_append, entriesOf, entriesOf]

theorem fileEntries_append (map : SortedMap Asset Amount) (first second : List (List Char)) :
    fileEntries map (first ++ second)
      = fileEntries map first >>= fun map => fileEntries map second := by
  induction first generalizing map with
  | nil => rfl
  | cons entry rest ih =>
    rw [List.cons_append, fileEntries, fileEntries, bind_assoc]
    exact bind_congr fun _ => ih _

/-- Entries that are filed over a map override it, if they can be read. -/
theorem fileEntries_override (map later : SortedMap Asset Amount) (texts : List (List Char)) :
    fileEntries (map.override later) texts = (fileEntries later texts).map map.override := by
  -- `later` stands for the entries read so far, so the induction is for any such map.
  induction texts generalizing later with
  | nil => rfl
  | cons text rest ih =>
    rw [fileEntries, fileEntries]
    cases entryOfText text with
    | error why => rfl
    | ok entry =>
      show fileEntries ((map.override later).insert entry.1 entry.2) rest = _
      rw [SortedMap.insert_override]
      exact ih (later.insert entry.1 entry.2)

theorem ofText_append (first second : String) :
    ofText (first ++ "," ++ second)
      = match ofText first with
        | .error why => .error why
        | .ok before => (ofText second).map before.override := by
  have htext : (first ++ "," ++ second).toList = first.toList ++ ',' :: second.toList := by
    rw [String.toList_append, String.toList_append]
    simp
  rw [ofText, htext, entriesOf_append, fileEntries_append, ofText, ofText]
  cases fileEntries .empty (entriesOf first.toList) with
  | error why => rfl
  | ok before => exact fileEntries_override before .empty (entriesOf second.toList)

/-- A list in two parts is read part by part: an error of the first part, else one of the second,
else what the second says over what the first says. And a map without a threshold for the token that
has no identity is read from its written form, and from any list of its entries in any order and
spelling. -/
theorem lists_are_read_in_parts_and_back :
    (∀ first second : String, ofText (first ++ "," ++ second)
        = match ofText first, ofText second with
          | .error why, _ => .error why
          | .ok _, .error why => .error why
          | .ok before, .ok later => .ok (before.override later))
      ∧ ∀ thresholds : SortedMap Asset Amount, Named thresholds →
        ofText (write thresholds) = .ok thresholds
          ∧ ∀ entries texts, entries.Perm thresholds.entries → Spells texts entries →
            ofText (join texts) = .ok thresholds := by
  constructor
  · intro first second
    rw [ofText_append]
    cases ofText first with
    | error why => rfl
    | ok before => cases ofText second <;> rfl
  · intro thresholds hnamed
    refine ⟨ofText_write hnamed, ?_⟩
    intro entries texts hperm hspells
    have hentries : ∀ entry ∈ entries, entry.1.Named := by
      intro entry hentry
      exact hnamed entry (hperm.mem_iff.1 hentry)
    rw [hspells.ofText_join hentries, SortedMap.ofList_of_perm hperm]

/-- The digits of a token in both letter cases and without a mark, the word for the native asset in
capitals, an empty piece and one with a no-break space. -/
def sampleTexts : List (List Char) := [
  List.replicate 62 '0' ++ "aB=5".toList, [], "\tNATIVE = 1_000\n".toList, "\u00a0".toList]

def sampleThresholds (native : UInt64) : SortedMap Asset Amount :=
  .ofList [(.native, .ofUInt64 native), (.token ⟨0xab, by decide⟩, .ofUInt64 5)]

/-- What a second part says of the native asset overrides what the first one says. -/
theorem sampleTexts_are_read :
    ofText (join sampleTexts) = .ok (sampleThresholds 1000)
      ∧ ofText (join sampleTexts ++ "," ++ write (sampleThresholds 7)) = .ok (sampleThresholds 7)
      ∧ ofText (join sampleTexts ++ "," ++ "native") = .error (.noAmount "native") := by
  obtain ⟨hparts, hback⟩ := lists_are_read_in_parts_and_back
  have hfirst : ofText (join sampleTexts) = .ok (sampleThresholds 1000) := by
    have htoken : SpellsEntry (List.replicate 62 '0' ++ "aB=5".toList)
        (.token ⟨0xab, by decide⟩, .ofUInt64 5) :=
      ⟨List.replicate 62 '0' ++ ['a', 'B'], ['5'], _, _, by decide +kernel, .self _,
        .bare (by decide +kernel), .self _, by decide +kernel⟩
    have hnative : SpellsEntry "\tNATIVE = 1_000\n".toList (.native, .ofUInt64 1000) :=
      ⟨"\tNATIVE ".toList, " 1_000\n".toList, "NATIVE".toList, "1_000".toList, by decide +kernel,
        ⟨['\t'], [' '], by decide +kernel⟩, .native (by decide +kernel),
        ⟨[' '], ['\n'], by decide +kernel⟩, by decide +kernel⟩
    have hblank : ("\u00a0".toList).all isBlank = true := by decide +kernel
    exact (hback (sampleThresholds 1000) (by decide)).2 _ sampleTexts (List.Perm.swap ..)
      (.entry htoken (.blank rfl (.entry hnative (.blank hblank .nil))))
  have hsecond := (hback (sampleThresholds 7) (by decide)).1
  have herror : ofText "native" = .error (.noAmount "native") := by decide +kernel
  refine ⟨hfirst, ?_, ?_⟩
  · rw [hparts, hfirst, hsecond]
    rfl
  · rw [hparts, hfirst, herror]

end DepositGate.Thresholds
