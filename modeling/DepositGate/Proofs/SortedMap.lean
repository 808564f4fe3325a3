import DepositGate.SortedMap
import Mathlib.Data.List.Sort

/-!
# Maps are their look-ups

A sorted map is determined by what it answers to each look-up, and each operation is described by
the look-ups of its result. No proof elsewhere reads the list of entries but through the statement
that an entry is filed exactly if its key finds it.
-/

namespace DepositGate.SortedMap

variable {κ α : Type} [Ranked κ]

private theorem findIn_eq_none_of_lt {key : κ} {entries : List (κ × α)}
    (h : ∀ e ∈ entries, rank key < rank e.1) : findIn key entries = none := by
  induction entries with
  | nil => rfl
  | cons first rest ih =>
    have hfirst := h first (List.mem_cons_self ..)
    rw [findIn, if_neg (by omega)]
    exact ih fun e he => h e (List.mem_cons_of_mem _ he)

private theorem mem_iff_findIn {entries : List (κ × α)} (hrising : Rising entries) (key : κ)
    (value : α) : (key, value) ∈ entries ↔ findIn key entries = some value := by
  induction entries with
  | nil => simp [findIn]
  | cons first rest ih =>
    obtain ⟨k, v⟩ := first
    rw [Rising, List.pairwise_cons] at hrising
    obtain ⟨hfirst, hrest⟩ := hrising
    rw [findIn, List.mem_cons, Prod.mk.injEq]
    by_cases hk : rank k = rank key
    · have hkey : k = key := rank_injective hk
      subst hkey
      rw [if_pos rfl, Option.some.injEq]
      constructor
      · intro hmem
        rcases hmem with ⟨-, hv⟩ | hmem
        · exact hv.symm
        · have := hfirst _ hmem
          exact absurd this (lt_irrefl _)
      · intro hv
        exact .inl ⟨rfl, hv.symm⟩
    · rw [if_neg hk, ← ih hrest]
      constructor
      · intro hmem
        rcases hmem with ⟨rfl, -⟩ | hmem
        · exact absurd rfl hk
        · exact hmem
      · exact .inr

theorem mem_entries_iff (m : SortedMap κ α) (key : κ) (value : α) :
    (key, value) ∈ m.entries ↔ m.find? key = some value :=
  mem_iff_findIn m.rising key value

/-- Two maps that answer every look-up alike are the same map. -/
theorem ext_find? {a b : SortedMap κ α} (h : ∀ key, a.find? key = b.find? key) : a = b := by
  have hmem : ∀ e, e ∈ a.entries ↔ e ∈ b.entries := by
    intro ⟨key, value⟩
    rw [mem_entries_iff, mem_entries_iff, h]
  have hirrefl : Std.Irrefl fun e f : κ × α => rank e.1 < rank f.1 := ⟨fun e => lt_irrefl _⟩
  have hentries := a.rising.eq_of_mem_iff b.rising hmem
  cases a; cases b; cases hentries; rfl

/-- Entries under different keys can be filed in either order. -/
theorem insert_comm (m : SortedMap κ α) {key other : κ} (h : key ≠ other) (value last : α) :
    (m.insert key value).insert other last = (m.insert other last).insert key value := by
  apply ext_find?
  intro sought
  have hrank : rank key ≠ rank other := fun heq => h (rank_injective heq)
  simp only [find?_insert]
  by_cases hother : rank other = rank sought
  · rw [if_pos hother, if_pos hother, if_neg (by omega)]
  · rw [if_neg hother, if_neg hother]

theorem isEmpty_insert (m : SortedMap κ α) (key : κ) (value : α) :
    (m.insert key value).isEmpty = false := by
  rw [isEmpty, List.isEmpty_eq_false_iff]
  intro hnil
  have hfound := find?_insert_self m key value
  rw [find?, hnil] at hfound
  cases hfound

/-- Filing entries one after the other leaves under a key the last one filed there. -/
private theorem find?_foldl_insert (entries : List (κ × α)) (hrising : Rising entries)
    (m : SortedMap κ α) (key : κ) :
    (entries.foldl (fun m e => m.insert e.1 e.2) m).find? key
      = (findIn key entries).or (m.find? key) := by
  induction entries generalizing m with
  | nil => simp [findIn]
  | cons first rest ih =>
    obtain ⟨k, v⟩ := first
    rw [Rising, List.pairwise_cons] at hrising
    rw [List.foldl_cons, ih hrising.2, find?_insert, findIn]
    by_cases hk : rank k = rank key
    · have hrest : findIn key rest = none :=
        findIn_eq_none_of_lt fun e he => hk ▸ hrising.1 e he
      rw [if_pos hk, if_pos hk, hrest]
      rfl
    · rw [if_neg hk, if_neg hk]

theorem find?_override (m later : SortedMap κ α) (key : κ) :
    (m.override later).find? key = (later.find? key).or (m.find? key) :=
  find?_foldl_insert later.entries later.rising m key

/-- A map is made of its entries. -/
theorem ofList_entries (m : SortedMap κ α) : ofList m.entries = m := by
  refine ext_find? fun key => ?_
  have hfound := find?_override empty m key
  rw [find?_empty, Option.or_none] at hfound
  exact hfound

/-- Filing an entry over what overrides a map files it over the whole. -/
theorem insert_override (m later : SortedMap κ α) (key : κ) (value : α) :
    (m.override later).insert key value = m.override (later.insert key value) := by
  apply ext_find?
  intro sought
  rw [find?_override, find?_insert, find?_insert, find?_override]
  by_cases hsought : rank key = rank sought
  · rw [if_pos hsought, if_pos hsought]
    rfl
  · rw [if_neg hsought, if_neg hsought]

/-- A map is made of its entries in whatever order they are filed. -/
theorem ofList_of_perm {m : SortedMap κ α} {entries : List (κ × α)} (h : entries.Perm m.entries) :
    ofList entries = m := by
  refine Eq.trans ?_ m.ofList_entries
  refine h.foldl_eq' ?_ empty
  intro first hfirst second hsecond map
  have hfirst' := (m.mem_entries_iff first.1 first.2).1 (h.mem_iff.1 hfirst)
  have hsecond' := (m.mem_entries_iff second.1 second.2).1 (h.mem_iff.1 hsecond)
  by_cases hkey : first.1 = second.1
  · -- Two entries under one key are the same entry.
    rw [hkey, hsecond', Option.some.injEq] at hfirst'
    rw [hkey, hfirst']
  · exact map.insert_comm hkey first.2 second.2

/-- The map with each value replaced by what `f` makes of its key and of it. -/
def mapValues {β : Type} (m : SortedMap κ α) (f : κ → α → β) : SortedMap κ β :=
  ⟨m.entries.map fun e => (e.1, f e.1 e.2), List.pairwise_map.2 m.rising⟩

theorem find?_mapValues {β : Type} (m : SortedMap κ α) (f : κ → α → β) (key : κ) :
    (m.mapValues f).find? key = (m.find? key).map (f key) := by
  have hentries : ∀ entries : List (κ × α), findIn key (entries.map fun e => (e.1, f e.1 e.2))
      = (findIn key entries).map (f key) := by
    intro entries
    induction entries with
    | nil => rfl
    | cons first rest ih =>
      rw [List.map_cons, findIn, findIn]
      by_cases hkey : rank first.1 = rank key
      · rw [if_pos hkey, if_pos hkey, rank_injective hkey]
        rfl
      · rw [if_neg hkey, if_neg hkey, ih]
  exact hentries m.entries

/-- The entries of a map that is made of entries are among them. -/
theorem mem_of_mem_ofList {entries : List (κ × α)} {e : κ × α} (h : e ∈ (ofList entries).entries) :
    e ∈ entries := by
  have hfold : ∀ (later : List (κ × α)) (m : SortedMap κ α),
      e ∈ (later.foldl (fun m e => m.insert e.1 e.2) m).entries → e ∈ m.entries ∨ e ∈ later := by
    intro later
    induction later with
    | nil => exact fun m hmem => .inl hmem
    | cons first rest ih =>
      intro m hmem
      rcases ih (m.insert first.1 first.2) hmem with hinsert | hrest
      · rcases mem_insertIn hinsert with rfl | hbefore
        · exact .inr (List.mem_cons_self ..)
        · exact .inl hbefore
      · exact .inr (List.mem_cons_of_mem _ hrest)
  rcases hfold entries empty h with hnone | hmem
  · cases hnone
  · exact hmem

end DepositGate.SortedMap
