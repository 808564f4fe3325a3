/-!
# Blanks

A text taken from a person or a file is read without the white space around it. White space is the
Unicode property of that name, so a no-break space at either end is dropped like an ordinary one,
while a zero-width space or a byte-order mark is a character of the text.
-/

namespace DepositGate.Text

def isBlank (c : Char) : Bool :=
  let n := c.toNat
  (9 ≤ n && n ≤ 13) || n == 0x20 || n == 0x85 || n == 0xa0 || n == 0x1680 ||
    (0x2000 ≤ n && n ≤ 0x200a) || n == 0x2028 || n == 0x2029 || n == 0x202f || n == 0x205f ||
    n == 0x3000

def dropBlanksEnd (text : List Char) : List Char :=
  (text.reverse.dropWhile isBlank).reverse

/-- The text without the blanks at its two ends. -/
def trim (text : List Char) : List Char :=
  dropBlanksEnd (text.dropWhile isBlank)

/-- A text whose first and last characters are not blank is left alone. -/
theorem trim_eq_self {text : List Char} (hfirst : ∀ c ∈ text.head?, isBlank c = false)
    (hlast : ∀ c ∈ text.getLast?, isBlank c = false) : trim text = text := by
  have hstart : text.dropWhile isBlank = text := by
    cases text with
    | nil => rfl
    | cons c rest => simp [hfirst c (by simp)]
  have hend : text.reverse.dropWhile isBlank = text.reverse := by
    cases h : text.reverse with
    | nil => rfl
    | cons c rest =>
      have hc : c ∈ text.getLast? := by
        rw [List.getLast?_eq_head?_reverse, h]
        simp
      simp [hlast c hc]
  rw [trim, hstart, dropBlanksEnd, hend, List.reverse_reverse]

end DepositGate.Text
