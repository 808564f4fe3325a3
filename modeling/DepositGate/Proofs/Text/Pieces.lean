import DepositGate.Text.Pieces

/-!
# Texts put together with separators

Texts that are joined by a separator are cut apart again, and a text is cut at the first separator
in it, as long as the separator stands in none of the texts themselves.
-/

namespace DepositGate.Text

theorem pieces_of_not_mem {separator : Char} {text : List Char} (h : separator ∉ text) :
    pieces separator text = [text] := by
  induction text with
  | nil => rfl
  | cons c text ih =>
    rw [List.mem_cons, not_or] at h
    rw [pieces, if_neg (Ne.symm h.1), ih h.2]

/-- Pieces joined by a separator that stands in none of them are cut apart again. -/
theorem pieces_intercalate {separator : Char} {texts : List (List Char)} (hne : texts ≠ [])
    (h : ∀ text ∈ texts, separator ∉ text) :
    pieces separator ([separator].intercalate texts) = texts := by
  induction texts with
  | nil => exact absurd rfl hne
  | cons text texts ih =>
    have htext := pieces_of_not_mem (h text (by simp))
    cases texts with
    | nil => rw [List.intercalate_singleton, htext]
    | cons next others =>
      have hothers := ih (by simp) fun later hlater => h later (List.mem_cons_of_mem _ hlater)
      rw [List.intercalate_cons_cons, List.append_assoc, List.singleton_append, pieces_append,
        htext, hothers]
      rfl

theorem cut?_of_not_mem {separator : Char} {front : List Char} (back : List Char)
    (h : separator ∉ front) : cut? separator (front ++ separator :: back) = some (front, back) := by
  have hfront : ∀ c ∈ front, (c != separator) = true := by
    intro c hc
    rw [bne_iff_ne]
    rintro rfl
    exact h hc
  simp [cut?, List.takeWhile_append_of_pos hfront, List.dropWhile_append_of_pos hfront]

end DepositGate.Text
