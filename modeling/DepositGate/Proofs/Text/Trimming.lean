import DepositGate.Text.Blank
import DepositGate.Text.Decimal

/-!
# Blanks around a text

A text with blanks in front of it and after it is trimmed like the text alone. Letters and digits
are not blank, so a word or a number with blanks around it is trimmed to the word or the number.
-/

namespace DepositGate.Text

variable {before after text core : List Char}

theorem trim_of_no_blank {text : List Char} (h : ∀ c ∈ text, isBlank c = false) :
    trim text = text := by
  apply trim_eq_self
  · intro c hc
    exact h c (List.mem_of_mem_head? hc)
  · intro c hc
    exact h c (List.mem_of_mem_getLast? hc)

theorem dropWhile_blanks (h : before.all isBlank = true) (text : List Char) :
    (before ++ text).dropWhile isBlank = text.dropWhile isBlank :=
  List.dropWhile_append_of_pos (List.all_eq_true.1 h)

theorem dropBlanksEnd_blanks (h : after.all isBlank = true) (text : List Char) :
    dropBlanksEnd (text ++ after) = dropBlanksEnd text := by
  have hreverse : after.reverse.all isBlank = true := by
    rw [List.all_reverse]
    exact h
  rw [dropBlanksEnd, List.reverse_append, dropWhile_blanks hreverse, dropBlanksEnd]

theorem trim_of_blanks (h : text.all isBlank = true) : trim text = [] := by
  have hdrop : text.dropWhile isBlank = [] := by
    have hblanks := dropWhile_blanks h []
    rwa [List.append_nil] at hblanks
  rw [trim, hdrop]
  rfl

/-- Blanks in front of a text and after it are dropped with its own. -/
theorem trim_padded (hbefore : before.all isBlank = true) (hafter : after.all isBlank = true)
    (text : List Char) : trim (before ++ text ++ after) = trim text := by
  rw [trim, List.append_assoc, dropWhile_blanks hbefore, List.dropWhile_append]
  split
  · rename_i hempty
    have hnone : text.dropWhile isBlank = [] := List.isEmpty_iff.1 hempty
    have hend := dropWhile_blanks hafter []
    rw [List.append_nil] at hend
    rw [hend, trim, hnone]
    rfl
  · rw [dropBlanksEnd_blanks hafter, trim]

theorem trim_dropWhile (text : List Char) : trim (text.dropWhile isBlank) = trim text := by
  have hbefore : (text.takeWhile isBlank).all isBlank = true := List.all_takeWhile
  have hafter : ([] : List Char).all isBlank = true := rfl
  have hsplit := trim_padded hbefore hafter (text.dropWhile isBlank)
  rw [List.append_nil, List.takeWhile_append_dropWhile] at hsplit
  exact hsplit.symm

theorem exists_dropBlanksEnd_append (text : List Char) :
    ∃ after, after.all isBlank = true ∧ dropBlanksEnd text ++ after = text := by
  refine ⟨(text.reverse.takeWhile isBlank).reverse, ?_, ?_⟩
  · rw [List.all_reverse]
    exact List.all_takeWhile
  · rw [dropBlanksEnd, ← List.reverse_append, List.takeWhile_append_dropWhile, List.reverse_reverse]

theorem trim_dropBlanksEnd (text : List Char) : trim (dropBlanksEnd text) = trim text := by
  obtain ⟨after, hafter, htext⟩ := exists_dropBlanksEnd_append text
  have hbefore : ([] : List Char).all isBlank = true := rfl
  have hpadded := trim_padded hbefore hafter (dropBlanksEnd text)
  rw [List.nil_append, htext] at hpadded
  exact hpadded.symm

/-- Around a character that is not blank a text is trimmed on either side. -/
theorem trim_append_cons {c : Char} (hc : isBlank c = false) (left right : List Char) :
    trim (left ++ c :: right) = left.dropWhile isBlank ++ c :: dropBlanksEnd right := by
  -- Dropping stops at the character at the latest, from whichever end it starts.
  have hdrop : ∀ front back : List Char,
      (front ++ c :: back).dropWhile isBlank = front.dropWhile isBlank ++ c :: back := by
    intro front back
    rw [List.dropWhile_append]
    split
    · rename_i hempty
      rw [List.isEmpty_iff.1 hempty, List.dropWhile_cons_of_neg (by simp [hc])]
      rfl
    · rfl
  rw [trim, hdrop, dropBlanksEnd, List.reverse_append, List.reverse_cons, List.append_assoc,
    List.singleton_append, hdrop, List.reverse_append, List.reverse_cons, List.reverse_reverse,
    List.append_assoc, List.singleton_append, dropBlanksEnd]

/-- The text is another one with blanks in front of it and after it. -/
def Padded (core text : List Char) : Prop :=
  ∃ before after, before.all isBlank = true ∧ after.all isBlank = true
    ∧ text = before ++ core ++ after

theorem Padded.self (core : List Char) : Padded core core :=
  ⟨[], [], rfl, rfl, (List.append_nil core).symm⟩

/-- A text is what trimming leaves of it, with blanks around that. -/
theorem padded_trim (text : List Char) : Padded (trim text) text := by
  obtain ⟨after, hafter, htext⟩ := exists_dropBlanksEnd_append (text.dropWhile isBlank)
  refine ⟨text.takeWhile isBlank, after, List.all_takeWhile, hafter, ?_⟩
  rw [trim, List.append_assoc, htext, List.takeWhile_append_dropWhile]

theorem Padded.trim_eq (h : Padded core text) (hcore : ∀ c ∈ core, isBlank c = false) :
    trim text = core := by
  obtain ⟨_, _, hbefore, hafter, rfl⟩ := h
  rw [trim_padded hbefore hafter, trim_of_no_blank hcore]

theorem Padded.not_mem (h : Padded core text) {c : Char} (hc : isBlank c = false)
    (hcore : c ∉ core) : c ∉ text := by
  obtain ⟨_, _, hbefore, hafter, rfl⟩ := h
  intro hmem
  rw [List.mem_append, List.mem_append] at hmem
  rcases hmem with (hmem | hmem) | hmem
  · rw [List.all_eq_true.1 hbefore c hmem] at hc
    cases hc
  · exact hcore hmem
  · rw [List.all_eq_true.1 hafter c hmem] at hc
    cases hc

/-! ### Characters -/

theorem isBlank_of_isDigit {c : Char} (h : isDigit c = true) : isBlank c = false := by
  simp only [isDigit, Bool.and_eq_true, decide_eq_true_eq] at h
  simp [isBlank]
  omega

theorem isBlank_of_isAlphanum {c : Char} (h : c.isAlphanum = true) : isBlank c = false := by
  have hcases : ((decide (65 ≤ c.val ∧ c.val ≤ 90) || (decide (97 ≤ c.val) && decide (c.val ≤ 122)))
      || (decide (48 ≤ c.val) && decide (c.val ≤ 57))) = true := h
  have hrange : (65 ≤ c.toNat ∧ c.toNat ≤ 90) ∨ (97 ≤ c.toNat ∧ c.toNat ≤ 122)
      ∨ (48 ≤ c.toNat ∧ c.toNat ≤ 57) := by
    simpa [UInt32.le_iff_toNat_le, or_assoc] using hcases
  simp [isBlank]
  omega

/-- Only the capital letters change when the case is lowered. -/
theorem toLower_eq_or (c : Char) : c.toLower = c ∨ 65 ≤ c.toNat ∧ c.toNat ≤ 90 := by
  by_cases hupper : c.val ≥ 65 ∧ c.val ≤ 90
  · exact .inr ⟨UInt32.le_iff_toNat_le.1 hupper.1, UInt32.le_iff_toNat_le.1 hupper.2⟩
  · exact .inl (dif_neg hupper)

theorem isBlank_of_lower {c : Char} (h : c.toLower.isAlphanum = true) : isBlank c = false := by
  rcases toLower_eq_or c with hsame | hupper
  · rw [hsame] at h
    exact isBlank_of_isAlphanum h
  · simp [isBlank]
    omega

end DepositGate.Text
