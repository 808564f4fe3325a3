import DepositGate.Proofs.Outcome
import DepositGate.Proofs.Text.Trimming
import DepositGate.Text.Hex

/-!
# Texts that are hexadecimal

Bytes are read from a text exactly if it is their digits in some letter case, and every row of
digits that is even in number is the digits of some bytes. No other character passes for a digit:
one that takes several bytes starts with a byte that is the code of none.
-/

namespace DepositGate.Text

/-- What holds of all characters of one byte is found by going through them. -/
@[elab_as_elim]
theorem of_one_byte {P : Char → Prop} (c : Char) (hc : c.toNat < 128)
    (h : ∀ code < 128, P (Char.ofNat code)) : P c := by
  have hread := h c.toNat hc
  rwa [Char.ofNat_toNat] at hread

namespace Hex

variable {text : List Char} {bytes : List UInt8} {c : Char} {n : Nat}

/-! ### Digits -/

/-- A hexadecimal digit in either letter case. -/
def isDigit (c : Char) : Bool :=
  Text.isDigit c || (97 ≤ c.toNat && c.toNat ≤ 102) || (65 ≤ c.toNat && c.toNat ≤ 70)

theorem digit_of_digitChar : ∀ n < 16, (Nat.digitChar n).toNat < 128
      ∧ (Nat.digitChar n).toLower = Nat.digitChar n
      ∧ (Nat.digitChar n).isAlphanum = true := by
  decide

/-- Only characters of one byte become digits when the case is lowered. -/
theorem toNat_lt_of_lower (hn : n < 16) (h : c.toLower = Nat.digitChar n) : c.toNat < 128 := by
  rcases toLower_eq_or c with hsame | ⟨-, hle⟩
  · rw [← hsame, h]
    exact (digit_of_digitChar n hn).1
  · omega

theorem toNat_lt_of_isDigit (h : isDigit c = true) : c.toNat < 128 := by
  simp only [isDigit, Text.isDigit, Bool.or_eq_true, Bool.and_eq_true, decide_eq_true_eq] at h
  omega

theorem isDigit_iff : isDigit c = true ↔ ∃ n < 16, c.toLower = Nat.digitChar n := by
  by_cases hcode : c.toNat < 128
  · refine of_one_byte c hcode ?_
    decide +kernel
  · constructor
    · exact fun h => absurd (toNat_lt_of_isDigit h) hcode
    · rintro ⟨n, hn, hlower⟩
      exact absurd (toNat_lt_of_lower hn hlower) hcode

/-- Of the characters of one byte the digits in either letter case are read as digits. -/
theorem digit?_iff_lower (hcode : c.toNat < 128) :
    String.utf8EncodeChar c = [UInt8.ofNat c.toNat]
      ∧ ∀ n < 16, digit? (UInt8.ofNat c.toNat) = some n ↔ c.toLower = Nat.digitChar n := by
  refine of_one_byte c hcode ?_
  decide +kernel

/-- A digit in either letter case is one byte of the text, and is read as the number it stands
for. -/
theorem digit_of_toLower (hn : n < 16) (h : c.toLower = Nat.digitChar n) :
    String.utf8EncodeChar c = [UInt8.ofNat c.toNat] ∧ digit? (UInt8.ofNat c.toNat) = some n := by
  obtain ⟨hone, hread⟩ := digit?_iff_lower (toNat_lt_of_lower hn h)
  exact ⟨hone, (hread n hn).2 h⟩

/-- A character that takes several bytes starts with a byte that no digit has. -/
theorem utf8EncodeChar_of_le (h : 128 ≤ c.toNat) :
    ∃ code rest, String.utf8EncodeChar c = code :: rest ∧ digit? code = none := by
  have hhigh : ∀ m, m < 64 → digit? (UInt8.ofNat (m + 192)) = none := by
    decide
  have hwide : ¬c.val.toNat ≤ 127 := Nat.not_le_of_lt h
  rw [String.utf8EncodeChar]
  simp only [if_neg hwide]
  split
  · exact ⟨_, _, rfl, hhigh _ (by omega)⟩
  · split
    · refine ⟨_, _, rfl, hhigh (c.val.toNat / 4096 % 16 + 32) (by omega)⟩
    · exact ⟨_, _, rfl, hhigh (c.val.toNat / 262144 % 8 + 48) (by omega)⟩

/-- Where the bytes of a text go on with a digit, the text does. -/
theorem eq_cons_of_codes {code : UInt8} {rest : List UInt8} (h : codes text = code :: rest)
    (hdigit : digit? code = some n) :
    ∃ c more, text = c :: more ∧ c.toLower = Nat.digitChar n ∧ codes more = rest := by
  cases text with
  | nil => cases h
  | cons c more =>
    have hcodes : String.utf8EncodeChar c ++ codes more = code :: rest := h
    by_cases hcode : c.toNat < 128
    · obtain ⟨hone, hread⟩ := digit?_iff_lower hcode
      rw [hone, List.singleton_append, List.cons.injEq] at hcodes
      obtain ⟨rfl, hmore⟩ := hcodes
      exact ⟨c, more, rfl, (hread n (digit?_lt hdigit)).1 hdigit, hmore⟩
    · obtain ⟨first, others, hfirst, hnone⟩ := utf8EncodeChar_of_le (Nat.le_of_not_lt hcode)
      rw [hfirst, List.cons_append, List.cons.injEq] at hcodes
      rw [hcodes.1, hdigit] at hnone
      cases hnone

/-! ### Digits of bytes -/

theorem exists_of_mem_encode (h : c ∈ encode bytes) : ∃ n < 16, c = Nat.digitChar n := by
  obtain ⟨byte, -, hc⟩ := List.mem_flatMap.1 h
  have hbyte := byte.toNat_lt
  simp only [encodeByte, List.mem_cons, List.not_mem_nil, or_false] at hc
  rcases hc with hc | hc
  · exact ⟨byte.toNat / 16, by omega, hc⟩
  · exact ⟨byte.toNat % 16, by omega, hc⟩

theorem lower_encode (bytes : List UInt8) : (encode bytes).map Char.toLower = encode bytes := by
  have hlower : ∀ c ∈ encode bytes, c.toLower = id c := by
    intro c hc
    obtain ⟨n, hn, rfl⟩ := exists_of_mem_encode hc
    exact (digit_of_digitChar n hn).2.1
  rw [List.map_congr_left hlower, List.map_id]

theorem isAlphanum_of_mem_encode (h : c ∈ encode bytes) : c.isAlphanum = true := by
  obtain ⟨n, hn, rfl⟩ := exists_of_mem_encode h
  exact (digit_of_digitChar n hn).2.2

theorem isDigit_of_lower_mem (h : c.toLower ∈ encode bytes) : isDigit c = true :=
  isDigit_iff.2 (exists_of_mem_encode h)

theorem encode_append (bytes others : List UInt8) :
    encode (bytes ++ others) = encode bytes ++ encode others :=
  List.flatMap_append

theorem encode_zeros (count : Nat) :
    encode (List.replicate count 0) = List.replicate (2 * count) '0' := by
  induction count with
  | zero => rfl
  | succ count ih =>
    rw [List.replicate_succ, encode_cons, ih]
    rfl

theorem encodeByte_ofNat {high low : Nat} (hhigh : high < 16) (hlow : low < 16) :
    encodeByte (UInt8.ofNat (16 * high + low)) = [Nat.digitChar high, Nat.digitChar low] := by
  have hbyte : (UInt8.ofNat (16 * high + low)).toNat = 16 * high + low := by
    rw [UInt8.toNat_ofNat']
    omega
  rw [encodeByte, hbyte]
  congr 3 <;> omega

/-- A text is the digits of some bytes exactly if it has two digits for each. -/
theorem exists_encode_iff (count : Nat) :
    (∃ bytes, text.map Char.toLower = encode bytes ∧ bytes.length = count)
      ↔ text.all isDigit = true ∧ text.length = 2 * count := by
  constructor
  · rintro ⟨bytes, hlower, rfl⟩
    have hlength := congrArg List.length hlower
    rw [List.length_map, length_encode] at hlength
    refine ⟨List.all_eq_true.2 ?_, hlength⟩
    intro c hc
    exact isDigit_of_lower_mem (hlower ▸ List.mem_map_of_mem hc)
  · rintro ⟨hdigits, hlength⟩
    induction count generalizing text with
    | zero => exact ⟨[], by rw [List.length_eq_zero_iff.1 hlength]; rfl, rfl⟩
    | succ count ih =>
      rw [Nat.mul_succ] at hlength
      obtain ⟨c, more, rfl⟩ := List.exists_cons_of_length_eq_add_one hlength
      obtain ⟨d, last, rfl⟩ := List.exists_cons_of_length_eq_add_one (Nat.succ.inj hlength)
      simp only [List.all_cons, Bool.and_eq_true] at hdigits
      obtain ⟨hc, hd, hlast⟩ := hdigits
      obtain ⟨high, hhigh, hc⟩ := isDigit_iff.1 hc
      obtain ⟨low, hlow, hd⟩ := isDigit_iff.1 hd
      obtain ⟨bytes, hbytes, rfl⟩ := ih hlast (Nat.succ.inj (Nat.succ.inj hlength))
      refine ⟨UInt8.ofNat (16 * high + low) :: bytes, ?_, rfl⟩
      rw [List.map_cons, List.map_cons, hc, hd, hbytes, encode_cons, encodeByte_ofNat hhigh hlow]
      rfl

/-! ### Reading -/

theorem codes_of_lower (h : text.map Char.toLower = encode bytes) (position : Nat) :
    (codes text).length = 2 * bytes.length ∧ decodePairs position (codes text) = .ok bytes := by
  induction bytes generalizing text position with
  | nil =>
    rw [encode_nil, List.map_eq_nil_iff] at h
    subst h
    exact ⟨rfl, rfl⟩
  | cons byte bytes ih =>
    obtain ⟨high, _, rfl, hhigh, h⟩ := List.map_eq_cons_iff.1 h
    obtain ⟨low, rest, rfl, hlow, h⟩ := List.map_eq_cons_iff.1 h
    have hbyte := byte.toNat_lt
    obtain ⟨hcode, hread⟩ := digit_of_toLower (n := byte.toNat / 16) (by omega) hhigh
    obtain ⟨hcode', hread'⟩ := digit_of_toLower (n := byte.toNat % 16) (by omega) hlow
    have hcodes : codes (high :: low :: rest)
        = UInt8.ofNat high.toNat :: UInt8.ofNat low.toNat :: codes rest := by
      simp only [codes, List.flatMap_cons, hcode, hcode']
      rfl
    obtain ⟨hlength, hpairs⟩ := ih h (position + 2)
    have hsum : 16 * (byte.toNat / 16) + byte.toNat % 16 = byte.toNat := by omega
    constructor
    · rw [hcodes, List.length_cons, List.length_cons, hlength, List.length_cons]
      omega
    · rw [hcodes, decodePairs, digitAt, digitAt, hread, hread', hpairs]
      show Except.ok (UInt8.ofNat (16 * (byte.toNat / 16) + byte.toNat % 16) :: bytes) = _
      rw [hsum, UInt8.ofNat_toNat]

/-- Bytes are read back from their digits in either letter case. -/
theorem decode_of_lower (h : text.map Char.toLower = encode bytes) : decode text = .ok bytes := by
  obtain ⟨hlength, hpairs⟩ := codes_of_lower h 0
  rw [decode, hlength, if_neg (by omega), hpairs]

theorem digitAt_eq_ok_iff {position : Nat} {code : UInt8} :
    digitAt position code = .ok n ↔ digit? code = some n := by
  rw [digitAt]
  cases digit? code <;> simp

theorem eq_nil_of_codes (h : codes text = []) : text = [] := by
  cases text with
  | nil => rfl
  | cons c more => exact absurd (List.append_eq_nil_iff.1 h).1 String.utf8EncodeChar_ne_nil

theorem lower_of_decodePairs {position : Nat} {list : List UInt8}
    (h : decodePairs position list = .ok bytes) (heven : list.length % 2 = 0)
    (hcodes : codes text = list) : text.map Char.toLower = encode bytes := by
  fun_induction decodePairs position list generalizing text bytes with
  | case1 position high low rest ih =>
    obtain ⟨h, hhigh, hrest⟩ := bind_eq_ok_iff.1 h
    obtain ⟨l, hlow, hrest⟩ := bind_eq_ok_iff.1 hrest
    obtain ⟨others, hothers, hbytes⟩ := bind_eq_ok_iff.1 hrest
    cases hbytes
    rw [digitAt_eq_ok_iff] at hhigh hlow
    obtain ⟨c, more, rfl, hc, hmore⟩ := eq_cons_of_codes hcodes hhigh
    obtain ⟨d, last, rfl, hd, hlast⟩ := eq_cons_of_codes hmore hlow
    have hrest : rest.length % 2 = 0 := by
      simp only [List.length_cons] at heven
      omega
    rw [List.map_cons, List.map_cons, hc, hd, ih hothers hrest hlast, encode_cons,
      encodeByte_ofNat (digit?_lt hhigh) (digit?_lt hlow)]
    rfl
  | case2 list _ hshort =>
    cases h
    have hnil : list = [] := by
      rcases list with - | ⟨high, - | ⟨low, rest⟩⟩
      · rfl
      · cases heven
      · exact absurd rfl (hshort high low rest)
    rw [eq_nil_of_codes (hcodes.trans hnil)]
    rfl

/-- Bytes are read from their digits in any letter case, and from nothing else. -/
theorem decode_eq_ok_iff : decode text = .ok bytes ↔ text.map Char.toLower = encode bytes := by
  constructor
  · intro h
    rw [decode] at h
    split at h
    · cases h
    · rename_i heven
      exact lower_of_decodePairs h (Nat.mod_two_ne_one.1 heven) rfl
  · exact decode_of_lower

theorem decode_encode (bytes : List UInt8) : decode (encode bytes) = .ok bytes :=
  decode_of_lower (lower_encode bytes)

theorem encode_injective : Function.Injective encode := by
  intro bytes others h
  have hread := decode_encode bytes
  rw [h, decode_encode] at hread
  exact (Except.ok.inj hread).symm

/-! ### The mark -/

theorem dropMark_cases (text : List Char) :
    text = '0' :: 'x' :: dropMark text ∨ dropMark text = text := by
  unfold dropMark
  split
  · exact .inl rfl
  · exact .inr rfl

/-- Digits have no mark in front, since the mark has a letter that is none. -/
theorem dropMark_of_isDigit (h : text.all isDigit = true) : dropMark text = text := by
  rcases dropMark_cases text with hmark | hsame
  · have hx : 'x' ∈ text := by
      rw [hmark]
      simp
    cases List.all_eq_true.1 h 'x' hx
  · exact hsame

end Hex

end DepositGate.Text
