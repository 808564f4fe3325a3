import DepositGate.Json.Parser
import DepositGate.Json.Writer
import DepositGate.Proofs.Text.Digits
import Mathlib.Tactic.Common

/-!
# Written JSON text is read back

A tree without damage whose numbers are whole and whose strings all have their text is the document
that its own text is read as. Each character of a string is one or more characters of the text that
the parser takes together. A number ends where no digit, point or exponent follows, as is so
wherever the writer goes on, and the text of a tree is longer than its nesting is deep.
-/

namespace DepositGate.Json

open DepositGate.Text

mutual

/-- The tree has no damage, its numbers are whole and its strings have their text. -/
def Node.Plain : Node → Prop
  | .damaged => False
  | .null | .bool _ => True
  | .number text => ∃ i : Int, text = .ofInt i
  | .string text => text.isSome = true
  | .array items => items.Plain
  | .object members => members.Plain

def Items.Plain : Items → Prop
  | .close => True
  | .damaged => False
  | .item head rest => head.Plain ∧ rest.Plain

def Members.Plain : Members → Prop
  | .close => True
  | .stray _ => False
  | .member name value rest => name.isSome = true ∧ value.Plain ∧ rest.Plain

end

namespace Parser

/-! ### Strings -/

theorem hexDigit?_digitChar : ∀ n < 16, hexDigit? (Nat.digitChar n) = some n := by
  decide

theorem hexCode?_hexDigits4 {n : Nat} (h : n < 0x10000) :
    hexCode? (Nat.digitChar (n / 4096 % 16)) (Nat.digitChar (n / 256 % 16))
      (Nat.digitChar (n / 16 % 16)) (Nat.digitChar (n % 16)) = some n := by
  have hdigit : ∀ m, hexDigit? (Nat.digitChar (m % 16)) = some (m % 16) := by
    intro m
    exact hexDigit?_digitChar _ (Nat.mod_lt m (by decide))
  rw [hexCode?, hdigit, hdigit, hdigit, hdigit]
  have hsum : ((n / 4096 % 16 * 16 + n / 256 % 16) * 16 + n / 16 % 16) * 16 + n % 16 = n := by
    omega
  exact congrArg some hsum

/-- What a character is written as is read as that character. -/
theorem stringPieces_writeChar (c : Char) (pieces : List Piece) (rest : List Char) :
    stringPieces pieces (writeChar c ++ rest) = stringPieces (.char c :: pieces) rest := by
  by_cases hescaped : c ∈ ['"', '\\', '\x08', '\x0c', '\n', '\r', '\t']
  · simp only [List.mem_cons, List.not_mem_nil, or_false] at hescaped
    rcases hescaped with rfl | rfl | rfl | rfl | rfl | rfl | rfl <;> rfl
  · have hplain : writeChar c
        = if c.toNat < 0x20 then '\\' :: 'u' :: hexDigits4 c.toNat else [c] := by
      simp only [List.mem_cons, List.not_mem_nil, or_false, not_or] at hescaped
      simp [writeChar, hescaped]
    rw [hplain]
    split
    · rename_i hcontrol
      have hcode := hexCode?_hexDigits4 (n := c.toNat) (by omega)
      have hpiece : pieceOfCode c.toNat = .char c := by
        rw [pieceOfCode, if_neg (by omega), Char.ofNat_toNat]
      simp only [hexDigits4, List.cons_append, List.nil_append, stringPieces, hcode, hpiece]
    · rename_i hprinted
      have hquote : c ≠ '"' := fun h => hescaped (by simp [h])
      have hslash : c ≠ '\\' := fun h => hescaped (by simp [h])
      have hkept : ¬(c.toNat < 0x20 ∨ c = '\\') := not_or.2 ⟨hprinted, hslash⟩
      rw [List.cons_append, List.nil_append, stringPieces, if_neg hkept]
      · exact hquote
      · exact fun _ _ _ _ _ hsame _ => hslash hsame
      · exact fun _ _ hsame _ => hslash hsame

theorem stringPieces_flatMap (text : List Char) (pieces : List Piece) (rest : List Char) :
    stringPieces pieces (text.flatMap writeChar ++ '"' :: rest)
      = some (pieces.reverse ++ text.map .char, rest) := by
  induction text generalizing pieces with
  | nil => simp [stringPieces]
  | cons c text ih =>
    rw [List.flatMap_cons, List.append_assoc, stringPieces_writeChar, ih]
    simp

theorem joinPieces_map_char (text : List Char) : joinPieces (text.map .char) = some text := by
  induction text with
  | nil => rfl
  | cons c text ih => rw [List.map_cons, joinPieces, ih, Option.map_some]

/-- A written string, from its opening mark on, is read up to its closing mark. -/
theorem string_writeString (text rest : List Char) :
    string (text.flatMap writeChar ++ '"' :: rest) = some (some (String.ofList text), rest) := by
  rw [string, stringPieces_flatMap, List.reverse_nil, List.nil_append, Option.map_some]
  simp only [joinPieces_map_char, Option.map_some]

/-! ### Numbers -/

/-- What follows a number and does not go on with it. -/
def EndsNumber (rest : List Char) : Prop :=
  ∀ c ∈ rest.head?, isDigit c = false ∧ c ≠ '.' ∧ c ≠ 'e' ∧ c ≠ 'E'

theorem endsNumber_nil : EndsNumber [] := nofun

theorem endsNumber_cons {c : Char} {rest : List Char} (hdigit : isDigit c = false)
    (hpoint : c ≠ '.') (he : c ≠ 'e') (hE : c ≠ 'E') : EndsNumber (c :: rest) := by
  intro other hother
  cases hother
  exact ⟨hdigit, hpoint, he, hE⟩

theorem takeWhile_digits {text rest : List Char} (hdigits : text.all isDigit = true)
    (hrest : EndsNumber rest) : (text ++ rest).takeWhile isDigit = text := by
  rw [List.takeWhile_append_of_pos (List.all_eq_true.1 hdigits)]
  cases rest with
  | nil => simp
  | cons c rest => simp [(hrest c rfl).1]

theorem dropWhile_digits {text rest : List Char} (hdigits : text.all isDigit = true)
    (hrest : EndsNumber rest) : (text ++ rest).dropWhile isDigit = rest := by
  rw [List.dropWhile_append_of_pos (List.all_eq_true.1 hdigits)]
  cases rest with
  | nil => simp
  | cons c rest => simp [(hrest c rfl).1]

theorem fraction_of_endsNumber {rest : List Char} (h : EndsNumber rest) :
    fraction rest = some ([], rest) := by
  unfold fraction
  split
  · exact absurd rfl (h '.' rfl).2.1
  · rfl

theorem exponent_of_endsNumber {rest : List Char} (h : EndsNumber rest) :
    exponent rest = some (none, rest) := by
  cases rest with
  | nil => rfl
  | cons c rest =>
    obtain ⟨-, -, he, hE⟩ := h c rfl
    simp [exponent, he, hE]

theorem number_digits (negative : Bool) (n : Nat) {rest : List Char} (h : EndsNumber rest) :
    number negative (digits n ++ rest) = some (⟨negative, digits n, [], none⟩, rest) := by
  have hwhole : ¬((digits n).isEmpty || ((digits n).head? == some '0' && (digits n).length != 1))
      = true := by
    have hnil : (digits n).isEmpty = false := by
      rw [List.isEmpty_eq_false_iff]
      exact Nat.toDigits_ne_nil
    rw [hnil, Bool.false_or]
    by_cases hzero : n = 0
    · subst hzero
      decide
    · simp [head?_digits_ne hzero]
  unfold number
  rw [takeWhile_digits (digits_all_isDigit n) h, dropWhile_digits (digits_all_isDigit n) h]
  simp only [if_neg hwhole, fraction_of_endsNumber h, Option.bind_eq_bind, Option.bind_some,
    exponent_of_endsNumber h]
  rfl

/-! ### Values by their first character -/

theorem skipSpace_cons {c : Char} (rest : List Char) (h : isSpace c = false) :
    skipSpace (c :: rest) = c :: rest := by
  rw [skipSpace, List.dropWhile_cons, h]
  rfl

theorem isSpace_of_isDigit {d : Char} (hd : isDigit d = true) : isSpace d = false := by
  have hother := ne_of_isDigit hd
  simp [isSpace, hother ' ' rfl, hother '\n' rfl, hother '\t' rfl, hother '\r' rfl]

theorem value_digits (fuel n : Nat) {rest : List Char} (h : EndsNumber rest) :
    value (fuel + 1) (digits n ++ rest) = (.number ⟨false, digits n, [], none⟩, rest) := by
  obtain ⟨d, ds, hds, hd⟩ := digits_eq_cons n
  have hother := ne_of_isDigit hd
  have hnumber := number_digits false n h
  rw [hds, List.cons_append] at hnumber ⊢
  rw [value, skipSpace_cons _ (isSpace_of_isDigit hd)]
  simp [hother 'n' rfl, hother 't' rfl, hother 'f' rfl, hother '"' rfl, hother '-' rfl, hd,
    numberNode, hnumber]

theorem value_quote (fuel : Nat) (text rest : List Char) :
    value (fuel + 1) (writeString text ++ rest) = (.string (some (String.ofList text)), rest) := by
  have hstring := string_writeString text rest
  simp only [writeString, List.cons_append, List.append_assoc, List.nil_append]
  rw [value, skipSpace_cons _ rfl]
  simp [hstring]

theorem value_bracket {fuel : Nat} {text rest : List Char} {read : Items}
    (hspace : skipSpace text = text) (hopen : ∀ tail, text ≠ ']' :: tail)
    (h : items fuel text = (read, rest)) :
    value (fuel + 1) ('[' :: text) = (.array read, rest) := by
  have hdigit : isDigit '[' = false := rfl
  rw [value, skipSpace_cons _ rfl]
  simp only [hdigit, Char.reduceEq, if_false, if_true, Bool.false_eq_true, hspace, h]

theorem value_brace {fuel : Nat} {text rest : List Char} {read : Members}
    (hspace : skipSpace text = text) (hopen : ∀ tail, text ≠ '\x7d' :: tail)
    (h : members fuel text = (read, rest)) :
    value (fuel + 1) ('\x7b' :: text) = (.object read, rest) := by
  have hdigit : isDigit '\x7b' = false := rfl
  rw [value, skipSpace_cons _ rfl]
  simp only [hdigit, Char.reduceEq, if_false, if_true, Bool.false_eq_true, hspace, h]

theorem members_last {fuel : Nat} {name : String} {text rest : List Char} {node : Node}
    (h : value fuel text = (node, '\x7d' :: rest)) :
    members (fuel + 1) (writeString name.toList ++ ':' :: text)
      = (.member (some name) node .close, rest) := by
  have hname := string_writeString name.toList (':' :: text)
  simp only [writeString, List.cons_append, List.append_assoc, List.nil_append]
  rw [members, skipSpace_cons _ rfl]
  simp only [hname, String.ofList_toList, skipSpace_cons _ (show isSpace ':' = false from rfl), h,
    skipSpace_cons _ (show isSpace '\x7d' = false from rfl)]

theorem members_next {fuel : Nat} {name : String} {text later rest : List Char} {node : Node}
    {others : Members} (h : value fuel text = (node, ',' :: later))
    (hothers : members fuel later = (others, rest)) :
    members (fuel + 1) (writeString name.toList ++ ':' :: text)
      = (.member (some name) node others, rest) := by
  have hname := string_writeString name.toList (':' :: text)
  simp only [writeString, List.cons_append, List.append_assoc, List.nil_append]
  rw [members, skipSpace_cons _ rfl]
  simp only [hname, String.ofList_toList, skipSpace_cons _ (show isSpace ':' = false from rfl), h,
    skipSpace_cons _ (show isSpace ',' = false from rfl), hothers]

/-! ### Trees -/

theorem write_ofInt (i : Int) : Node.write (.number (.ofInt i))
    = (if i < 0 then ['-'] else []) ++ digits i.natAbs := by
  simp [Node.write, NumberText.ofInt, NumberText.toChars]

/-- The text of a plain tree starts with a character that starts a value. -/
theorem write_eq_cons {node : Node} (h : node.Plain) :
    ∃ c tail, node.write = c :: tail ∧ isSpace c = false ∧ c ≠ ']' := by
  cases node with
  | damaged => exact h.elim
  | null => exact ⟨_, _, rfl, rfl, by decide⟩
  | bool value => cases value <;> exact ⟨_, _, rfl, rfl, by decide⟩
  | number text =>
    obtain ⟨i, rfl⟩ := h
    rw [write_ofInt]
    by_cases hneg : i < 0
    · exact ⟨'-', _, by rw [if_pos hneg]; rfl, rfl, by decide⟩
    · obtain ⟨d, ds, hds, hd⟩ := digits_eq_cons i.natAbs
      refine ⟨d, ds, by rw [if_neg hneg, hds]; rfl, ?_, ?_⟩
      · exact isSpace_of_isDigit hd
      · exact ne_of_isDigit hd ']' rfl
  | string text => exact ⟨_, _, rfl, rfl, by decide⟩
  | array items => exact ⟨_, _, rfl, rfl, by decide⟩
  | object members => exact ⟨_, _, rfl, rfl, by decide⟩

theorem exists_fuel {node : Node} {fuel : Nat} (h : node.Plain) (hfuel : node.write.length ≤ fuel) :
    ∃ less, fuel = less + 1 := by
  obtain ⟨c, tail, hwrite, -⟩ := write_eq_cons h
  rw [hwrite, List.length_cons] at hfuel
  exact Nat.exists_eq_add_one.2 (by omega)

theorem value_number (fuel : Nat) (i : Int) {rest : List Char} (h : EndsNumber rest) :
    value (fuel + 1) (Node.write (.number (.ofInt i)) ++ rest) = (.number (.ofInt i), rest) := by
  rw [write_ofInt, NumberText.ofInt]
  by_cases hneg : i < 0
  · have hnumber := number_digits true i.natAbs h
    rw [if_pos hneg, decide_eq_true hneg, List.append_assoc, List.cons_append, value,
      skipSpace_cons _ rfl]
    simp [numberNode, hnumber]
  · rw [if_neg hneg, decide_eq_false hneg]
    exact value_digits fuel i.natAbs h

mutual

/-- The text of a plain tree is read as the tree, up to its end. -/
theorem value_write : ∀ (node : Node) (fuel : Nat) (rest : List Char), node.Plain →
    node.write.length ≤ fuel → EndsNumber rest → value fuel (node.write ++ rest) = (node, rest)
  | .damaged, _, _, h, _, _ => h.elim
  | .null, fuel, rest, h, hfuel, _ => by
    obtain ⟨fuel, rfl⟩ := exists_fuel h hfuel
    rfl
  | .bool value, fuel, rest, h, hfuel, _ => by
    obtain ⟨fuel, rfl⟩ := exists_fuel h hfuel
    cases value <;> rfl
  | .number text, fuel, rest, h, hfuel, hrest => by
    obtain ⟨fuel, rfl⟩ := exists_fuel h hfuel
    obtain ⟨i, rfl⟩ := h
    exact value_number fuel i hrest
  | .string text, fuel, rest, h, hfuel, _ => by
    obtain ⟨fuel, rfl⟩ := exists_fuel h hfuel
    obtain ⟨text, rfl⟩ := Option.isSome_iff_exists.1 h
    rw [Node.write, value_quote, Option.getD_some, String.ofList_toList]
  | .array .close, fuel, rest, h, hfuel, _ => by
    obtain ⟨fuel, rfl⟩ := exists_fuel h hfuel
    rfl
  | .array .damaged, _, _, h, _, _ => h.elim
  | .array (.item head others), fuel, rest, h, hfuel, _ => by
    obtain ⟨fuel, rfl⟩ := exists_fuel h hfuel
    obtain ⟨c, tail, hhead, hspace, hclose⟩ := write_eq_cons h.1
    have hitems := items_write (.item head others) fuel rest h nofun (by
      rw [Node.write, List.length_cons] at hfuel
      omega)
    have hstart : Items.write true (.item head others) ++ rest
        = c :: (tail ++ others.write false ++ rest) := by
      simp [Items.write, hhead]
    rw [Node.write, List.cons_append]
    rw [hstart] at hitems ⊢
    exact value_bracket (skipSpace_cons _ hspace) (fun _ hsame => hclose (List.cons.inj hsame).1)
      hitems
  | .object .close, fuel, rest, h, hfuel, _ => by
    obtain ⟨fuel, rfl⟩ := exists_fuel h hfuel
    rfl
  | .object (.stray _), _, _, h, _, _ => h.elim
  | .object (.member name node others), fuel, rest, h, hfuel, _ => by
    obtain ⟨fuel, rfl⟩ := exists_fuel h hfuel
    have hmembers := members_write (.member name node others) fuel rest h nofun (by
      rw [Node.write, List.length_cons] at hfuel
      omega)
    have hstart : Members.write true (.member name node others) ++ rest
        = '"' :: ((name.getD "").toList.flatMap writeChar ++
          '"' :: ':' :: (node.write ++ (others.write false ++ rest))) := by
      simp [Members.write, writeString]
    rw [Node.write, List.cons_append]
    rw [hstart] at hmembers ⊢
    exact value_brace rfl nofun hmembers

theorem items_write : ∀ (items : Items) (fuel : Nat) (rest : List Char), items.Plain →
    items ≠ .close → (items.write true).length ≤ fuel →
    Parser.items fuel (items.write true ++ rest) = (items, rest)
  | .close, _, _, _, hne, _ => absurd rfl hne
  | .damaged, _, _, h, _, _ => h.elim
  | .item head .close, fuel, rest, h, _, hfuel => by
    have hlength : head.write.length + 1 ≤ fuel := by simpa [Items.write] using hfuel
    obtain ⟨fuel, rfl⟩ := Nat.exists_eq_add_one.2 (Nat.lt_of_lt_of_le (Nat.succ_pos _) hlength)
    have hvalue := value_write head fuel (']' :: rest) h.1 (by omega) (endsNumber_cons rfl
      (by decide) (by decide) (by decide))
    have htext : Items.write true (.item head .close) ++ rest = head.write ++ ']' :: rest := by
      simp [Items.write]
    rw [htext, Parser.items, hvalue]
    rfl
  | .item head .damaged, fuel, rest, h, _, hfuel => h.2.elim
  | .item head (.item next others), fuel, rest, h, _, hfuel => by
    have htext : Items.write true (.item head (.item next others))
        = head.write ++ ',' :: Items.write true (.item next others) := by
      simp [Items.write]
    rw [htext, List.length_append, List.length_cons] at hfuel
    obtain ⟨fuel, rfl⟩ := Nat.exists_eq_add_one.2 (show 0 < fuel by omega)
    have hvalue := value_write head fuel (',' :: (Items.write true (.item next others) ++ rest)) h.1
      (by omega) (endsNumber_cons rfl (by decide) (by decide) (by decide))
    have hothers := items_write (.item next others) fuel rest h.2 nofun (by omega)
    rw [htext, List.append_assoc, List.cons_append, Parser.items, hvalue]
    simp only [skipSpace_cons _ (show isSpace ',' = false from rfl), hothers]

theorem members_write : ∀ (members : Members) (fuel : Nat) (rest : List Char), members.Plain →
    members ≠ .close → (members.write true).length ≤ fuel →
    Parser.members fuel (members.write true ++ rest) = (members, rest)
  | .close, _, _, _, hne, _ => absurd rfl hne
  | .stray _, _, _, h, _, _ => h.elim
  | .member name node .close, fuel, rest, h, _, hfuel => by
    obtain ⟨name, rfl⟩ := Option.isSome_iff_exists.1 h.1
    have htext : Members.write true (.member (some name) node .close) ++ rest
        = writeString name.toList ++ ':' :: (node.write ++ '\x7d' :: rest) := by
      simp [Members.write]
    have hlength : node.write.length + 1 ≤ fuel := by
      simp only [Members.write, List.length_append, List.length_cons] at hfuel
      omega
    obtain ⟨fuel, rfl⟩ := Nat.exists_eq_add_one.2 (Nat.lt_of_lt_of_le (Nat.succ_pos _) hlength)
    have hvalue := value_write node fuel ('\x7d' :: rest) h.2.1 (by omega) (endsNumber_cons rfl
      (by decide) (by decide) (by decide))
    rw [htext]
    exact members_last hvalue
  | .member _ _ (.stray _), _, _, h, _, _ => h.2.2.elim
  | .member name node (.member other next others), fuel, rest, h, _, hfuel => by
    obtain ⟨name, rfl⟩ := Option.isSome_iff_exists.1 h.1
    have htext : Members.write true (.member (some name) node (.member other next others))
        = writeString name.toList ++ ':' :: (node.write ++
          ',' :: Members.write true (.member other next others)) := by
      simp [Members.write]
    rw [htext, List.length_append, List.length_cons, List.length_append, List.length_cons] at hfuel
    obtain ⟨fuel, rfl⟩ := Nat.exists_eq_add_one.2 (show 0 < fuel by omega)
    have hvalue := value_write node fuel (',' :: (Members.write true (.member other next others)
      ++ rest)) h.2.1 (by omega) (endsNumber_cons rfl (by decide) (by decide) (by decide))
    have hothers := members_write (.member other next others) fuel rest h.2.2 nofun (by omega)
    rw [htext, List.append_assoc, List.cons_append, List.append_assoc, List.cons_append]
    exact members_next hvalue hothers

end

end Parser

/-- A plain tree is the document that its text is read as, with nothing after it. -/
theorem Document.ofText_toText {node : Node} (h : node.Plain) :
    Document.ofText node.toText = ⟨node, false⟩ := by
  have hvalue := Parser.value_write node (2 * node.write.length + 2) [] h (by omega)
    Parser.endsNumber_nil
  rw [List.append_nil] at hvalue
  rw [Document.ofText, Node.toText, String.toList_ofList, Document.ofChars, hvalue]
  rfl

end DepositGate.Json
