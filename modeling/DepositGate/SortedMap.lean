/-!
# Maps in key order

A finite map is a list of entries whose keys rise strictly. Keys are compared by a natural number
that tells them apart, their rank. Because the order is part of the type, two maps that answer every
look-up alike are the same map, whatever the history that built them.
-/

namespace DepositGate

class Ranked (κ : Type) where
  rank : κ → Nat
  rank_injective : ∀ {a b : κ}, rank a = rank b → a = b

export Ranked (rank rank_injective)

/-- Each key comes before all later ones. -/
abbrev Rising {κ α : Type} [Ranked κ] (entries : List (κ × α)) : Prop :=
  entries.Pairwise fun a b => rank a.1 < rank b.1

structure SortedMap (κ α : Type) [Ranked κ] where
  entries : List (κ × α)
  rising : Rising entries

namespace SortedMap

variable {κ α : Type} [Ranked κ]

instance [DecidableEq κ] [DecidableEq α] : DecidableEq (SortedMap κ α) := fun a b =>
  if h : a.entries = b.entries then
    .isTrue (by cases a; cases b; cases h; rfl)
  else .isFalse (by rintro rfl; exact h rfl)

instance [Repr κ] [Repr α] : Repr (SortedMap κ α) := ⟨fun m _ => repr m.entries⟩

def empty : SortedMap κ α := ⟨[], List.Pairwise.nil⟩

instance : Inhabited (SortedMap κ α) := ⟨empty⟩

def isEmpty (m : SortedMap κ α) : Bool := m.entries.isEmpty

def keys (m : SortedMap κ α) : List κ := m.entries.map (·.1)

def findIn (key : κ) : List (κ × α) → Option α
  | [] => none
  | (k, v) :: rest => if rank k = rank key then some v else findIn key rest

def find? (m : SortedMap κ α) (key : κ) : Option α := findIn key m.entries

def contains (m : SortedMap κ α) (key : κ) : Bool := (m.find? key).isSome

def insertIn (key : κ) (value : α) : List (κ × α) → List (κ × α)
  | [] => [(key, value)]
  | (k, v) :: rest =>
    if rank key < rank k then (key, value) :: (k, v) :: rest
    else if rank key = rank k then (key, value) :: rest
    else (k, v) :: insertIn key value rest

theorem mem_insertIn {key : κ} {value : α} {entries : List (κ × α)} {e : κ × α}
    (h : e ∈ insertIn key value entries) : e = (key, value) ∨ e ∈ entries := by
  induction entries with
  | nil => simpa [insertIn] using h
  | cons first rest ih =>
    obtain ⟨k, v⟩ := first
    simp only [insertIn] at h
    split at h
    · simpa using h
    · split at h
      · simp only [List.mem_cons] at h ⊢
        rcases h with h | h
        · exact .inl h
        · exact .inr (.inr h)
      · simp only [List.mem_cons] at h ⊢
        rcases h with h | h
        · exact .inr (.inl h)
        · exact (ih h).imp_right .inr

theorem rising_insertIn (key : κ) (value : α) {entries : List (κ × α)} (h : Rising entries) :
    Rising (insertIn key value entries) := by
  induction entries with
  | nil => simp [insertIn]
  | cons first rest ih =>
    obtain ⟨k, v⟩ := first
    rw [Rising, List.pairwise_cons] at h
    obtain ⟨hfirst, hrest⟩ := h
    simp only [insertIn]
    split
    · rename_i hlt
      refine List.pairwise_cons.2 ⟨?_, List.pairwise_cons.2 ⟨hfirst, hrest⟩⟩
      intro e he
      rcases List.mem_cons.1 he with rfl | he
      · exact hlt
      · exact Nat.lt_trans hlt (hfirst e he)
    · split
      · rename_i heq
        exact List.pairwise_cons.2 ⟨fun e he => heq ▸ hfirst e he, hrest⟩
      · refine List.pairwise_cons.2 ⟨?_, ih hrest⟩
        intro e he
        rcases mem_insertIn he with rfl | he
        · show rank k < rank key
          omega
        · exact hfirst e he

/-- Files `value` under `key`, in place of what was there. -/
def insert (m : SortedMap κ α) (key : κ) (value : α) : SortedMap κ α :=
  ⟨insertIn key value m.entries, rising_insertIn key value m.rising⟩

def erase (m : SortedMap κ α) (key : κ) : SortedMap κ α :=
  ⟨m.entries.filter fun e => rank e.1 != rank key, m.rising.filter _⟩

def ofList (entries : List (κ × α)) : SortedMap κ α :=
  entries.foldl (fun m e => m.insert e.1 e.2) empty

/-- Files every entry of `later` over those of `m`. -/
def override (m later : SortedMap κ α) : SortedMap κ α :=
  later.entries.foldl (fun m e => m.insert e.1 e.2) m

@[simp] theorem find?_empty (key : κ) : (empty : SortedMap κ α).find? key = none := rfl

theorem findIn_insertIn (key other : κ) (value : α) (entries : List (κ × α)) :
    findIn other (insertIn key value entries)
      = if rank key = rank other then some value else findIn other entries := by
  induction entries with
  | nil => simp [insertIn, findIn]
  | cons first rest ih =>
    obtain ⟨k, v⟩ := first
    simp only [insertIn]
    split
    · simp only [findIn]
    · split
      · rename_i heq
        simp only [findIn, heq]
        split <;> rfl
      · simp only [findIn, ih]
        split
        · rw [if_neg (by omega)]
        · rfl

theorem find?_insert (m : SortedMap κ α) (key other : κ) (value : α) :
    (m.insert key value).find? other
      = if rank key = rank other then some value else m.find? other :=
  findIn_insertIn key other value m.entries

@[simp] theorem find?_insert_self (m : SortedMap κ α) (key : κ) (value : α) :
    (m.insert key value).find? key = some value := by
  simp [find?_insert]

theorem find?_insert_of_ne (m : SortedMap κ α) {key other : κ} (value : α) (h : key ≠ other) :
    (m.insert key value).find? other = m.find? other := by
  rw [find?_insert, if_neg fun hrank => h (rank_injective hrank)]

end SortedMap

end DepositGate
