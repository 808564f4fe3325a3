import DepositGate.Budget.Counter
import Mathlib.Algebra.GroupWithZero.Nat
import Mathlib.Algebra.Order.BigOperators.Group.List
import Mathlib.Algebra.Order.Group.Nat
import Mathlib.Data.List.DropRight

/-!
# Charges against a lazily reset counter

A counter that is reset lazily keeps one key and one total. What it stands for is a history: the
charges made against the budget, oldest first, each with the limit in force when it was made. The
counter tracks a history if it holds the last key charged and the sum of the charges since the last
one under another key. One more charge that fits keeps the counter in step, whatever the order of
the keys.

If keys never decrease, no period is ever resumed once another was charged, so the sum that a
counter holds is all that was ever charged to the period. If moreover the limit is the same for all
charges, no period takes more than the limit, and periods in a row take no more than one limit each.
-/

namespace DepositGate

/-- An amount charged to the period named by a key, and the limit in force at that moment. -/
structure Charge where
  key : UInt64
  amount : Nat
  limit : Nat
deriving DecidableEq, Repr

namespace Charge

def total (charges : List Charge) : Nat := (charges.map Charge.amount).sum

/-- What was charged under a key since the last charge under another one. -/
def standing (charges : List Charge) (key : UInt64) : Nat :=
  total (charges.rtakeWhile fun charge => charge.key = key)

/-- All that was ever charged under a key. -/
def totalUnder (charges : List Charge) (key : UInt64) : Nat :=
  total (charges.filter fun charge => charge.key = key)

/-- The key of the last charge; zero if there is none. -/
def lastKey (charges : List Charge) : UInt64 := (charges.getLast?.map Charge.key).getD 0

/-- Each charge, with all it stood beside when it was made, was within the limit of that moment. -/
def AllWithin (charges : List Charge) : Prop :=
  ∀ earlier charge, earlier ++ [charge] <+: charges →
    standing (earlier ++ [charge]) charge.key ≤ charge.limit

def InOrder (charges : List Charge) : Prop := charges.Pairwise fun a b => a.key ≤ b.key

instance (charges : List Charge) : Decidable (InOrder charges) :=
  inferInstanceAs (Decidable (charges.Pairwise _))

variable {charges : List Charge}

@[simp] theorem lastKey_concat (charges : List Charge) (charge : Charge) :
    lastKey (charges ++ [charge]) = charge.key := by
  simp [lastKey]

theorem standing_concat (charges : List Charge) (charge : Charge) (key : UInt64) :
    standing (charges ++ [charge]) key
      = if charge.key = key then standing charges key + charge.amount else 0 := by
  rw [standing, List.rtakeWhile_concat]
  by_cases hkey : charge.key = key
  · simp [hkey, standing, total]
  · simp [hkey, total]

/-- A period other than the last one charged has nothing standing. -/
theorem standing_of_ne_lastKey {key : UInt64} (h : lastKey charges ≠ key) :
    standing charges key = 0 := by
  induction charges using List.reverseRecOn with
  | nil => rfl
  | append_singleton earlier charge _ =>
    rw [lastKey_concat] at h
    rw [standing_concat, if_neg h]

theorem allWithin_nil : AllWithin [] := by
  intro earlier charge hinit
  simp at hinit

theorem AllWithin.concat (h : AllWithin charges) {charge : Charge}
    (hfits : standing charges charge.key + charge.amount ≤ charge.limit) :
    AllWithin (charges ++ [charge]) := by
  intro earlier other hinit
  rcases List.prefix_concat_iff.1 hinit with heq | hinit
  · obtain ⟨rfl, hother⟩ := List.append_inj' heq rfl
    obtain rfl : other = charge := by simpa using hother
    rw [standing_concat, if_pos rfl]
    exact hfits
  · exact h earlier other hinit

/-! ### The counter of a history -/

/-- A counter holds the last key charged and what stands under it, and no charge broke its limit. -/
structure Tracks (charges : List Charge) (key : UInt64) (stored : Nat) : Prop where
  key_eq : key = lastKey charges
  stored_eq : stored = standing charges key
  within : AllWithin charges

theorem tracks_nil : Tracks [] 0 0 := ⟨rfl, rfl, allWithin_nil⟩

/-- What a counter is worth under any key is what stands under it. -/
theorem Tracks.countedAt_eq {key : UInt64} {stored : Nat} (h : Tracks charges key stored)
    (other : UInt64) : countedAt 0 key stored other = standing charges other := by
  by_cases hkey : key = other
  · subst hkey
    rw [countedAt_self, h.stored_eq]
  · rw [countedAt_of_ne 0 stored hkey, standing_of_ne_lastKey (h.key_eq ▸ hkey)]

theorem Tracks.concat {key : UInt64} {stored : Nat} (h : Tracks charges key stored)
    (charge : Charge) (hfits : countedAt 0 key stored charge.key + charge.amount ≤ charge.limit) :
    Tracks (charges ++ [charge]) charge.key
      (countedAt 0 key stored charge.key + charge.amount) := by
  rw [h.countedAt_eq] at hfits ⊢
  refine ⟨(lastKey_concat charges charge).symm, ?_, h.within.concat hfits⟩
  rw [standing_concat, if_pos rfl]

/-! ### Keys that never decrease -/

theorem standing_eq_totalUnder (horder : InOrder charges) {key : UInt64}
    (hkey : ∀ charge ∈ charges, charge.key ≤ key) :
    standing charges key = totalUnder charges key := by
  induction charges using List.reverseRecOn with
  | nil => rfl
  | append_singleton earlier charge ih =>
    obtain ⟨hearlier, -, hlast⟩ := List.pairwise_append.1 horder
    have hbefore : ∀ other ∈ earlier, other.key ≤ charge.key :=
      fun other hother => hlast other hother charge (List.mem_singleton_self _)
    rw [standing_concat, totalUnder, List.filter_append]
    -- Under the last key all earlier charges to it still stand; under a later key there are none.
    by_cases hsame : charge.key = key
    · rw [if_pos hsame, ih hearlier fun other hother => hsame ▸ hbefore other hother]
      simp [hsame, totalUnder, total]
    · have hlt : charge.key < key :=
        UInt64.lt_of_le_of_ne
          (hkey charge (List.mem_append_right _ (List.mem_singleton_self _))) hsame
      have hnone : earlier.filter (fun other => other.key = key) = [] := by
        rw [List.filter_eq_nil_iff]
        intro other hother heq
        rw [decide_eq_true_eq] at heq
        exact UInt64.not_le.2 hlt (heq ▸ hbefore other hother)
      rw [if_neg hsame, hnone]
      simp [hsame, total]

theorem InOrder.le_lastKey (horder : InOrder charges) {charge : Charge} (h : charge ∈ charges) :
    charge.key ≤ lastKey charges := by
  induction charges using List.reverseRecOn with
  | nil => cases h
  | append_singleton earlier last _ =>
    obtain ⟨-, -, hlast⟩ := List.pairwise_append.1 horder
    rw [lastKey_concat]
    rcases List.mem_append.1 h with hearlier | hsame
    · exact hlast charge hearlier last (List.mem_singleton_self _)
    · rw [List.mem_singleton.1 hsame]
      exact UInt64.le_refl _

/-- In order, what was ever charged to a period stayed within the limit of each of its charges. -/
theorem AllWithin.totalUnder_le (h : AllWithin charges) (horder : InOrder charges)
    {earlier : List Charge} {charge : Charge} (hinit : earlier ++ [charge] <+: charges) :
    totalUnder (earlier ++ [charge]) charge.key ≤ charge.limit := by
  have hsub : InOrder (earlier ++ [charge]) := horder.sublist hinit.sublist
  rw [← standing_eq_totalUnder hsub]
  · exact h earlier charge hinit
  · intro other hother
    rw [← lastKey_concat earlier charge]
    exact hsub.le_lastKey hother

/-- In order and under one limit, what was ever charged to a period stayed within it. -/
theorem AllWithin.totalUnder_le_limit (h : AllWithin charges) (horder : InOrder charges)
    {limit : Nat} (hlimit : ∀ charge ∈ charges, charge.limit = limit) (key : UInt64) :
    totalUnder charges key ≤ limit := by
  induction charges using List.reverseRecOn with
  | nil => exact Nat.zero_le limit
  | append_singleton earlier charge ih =>
    have hinit : earlier <+: earlier ++ [charge] := List.prefix_append earlier [charge]
    by_cases hkey : charge.key = key
    · subst hkey
      have hlast := h.totalUnder_le horder (List.prefix_refl _)
      rwa [hlimit charge (List.mem_append_right _ (List.mem_singleton_self _))] at hlast
    · have hearlier : totalUnder (earlier ++ [charge]) key = totalUnder earlier key := by
        simp [totalUnder, List.filter_append, hkey]
      rw [hearlier]
      apply ih
      · intro before other hbefore
        exact h before other (hbefore.trans hinit)
      · exact horder.sublist hinit.sublist
      · intro other hother
        exact hlimit other (List.mem_append_left _ hother)

theorem total_filter (charges : List Charge) (p : Charge → Bool) : total (charges.filter p)
    = (charges.map fun charge => if p charge then charge.amount else 0).sum := by
  induction charges with
  | nil => rfl
  | cons charge rest ih =>
    rw [total] at ih
    rw [List.map_cons, List.sum_cons, List.filter_cons, total, ← ih]
    split
    · rw [List.map_cons, List.sum_cons]
    · rw [Nat.zero_add]

theorem total_filter_cons_le (charges : List Charge) (charge : Charge) (p : Charge → Bool) :
    total (charges.filter p) ≤ total ((charge :: charges).filter p) := by
  rw [total_filter, total_filter, List.map_cons, List.sum_cons]
  exact Nat.le_add_left _ _

theorem total_filter_le {p q r : Charge → Bool}
    (h : ∀ charge ∈ charges, p charge = true → q charge = true ∨ r charge = true) :
    total (charges.filter p) ≤ total (charges.filter q) + total (charges.filter r) := by
  rw [total_filter, total_filter, total_filter, ← List.sum_map_add]
  apply List.sum_le_sum
  intro charge hcharge
  by_cases hp : p charge = true
  · rw [if_pos hp]
    rcases h charge hcharge hp with hq | hr
    · rw [if_pos hq]
      exact Nat.le_add_right _ _
    · rw [if_pos hr]
      exact Nat.le_add_left _ _
  · rw [if_neg hp]
    exact Nat.zero_le _

/-- In order and under one limit, what was ever charged to `count` periods in a row stayed within as
many limits. -/
theorem AllWithin.total_span_le (h : AllWithin charges) (horder : InOrder charges) {limit : Nat}
    (hlimit : ∀ charge ∈ charges, charge.limit = limit) (first count : Nat) :
    total (charges.filter fun charge =>
      first ≤ charge.key.toNat ∧ charge.key.toNat < first + count) ≤ count * limit := by
  induction count with
  | zero =>
    have hnone : charges.filter (fun charge =>
        first ≤ charge.key.toNat ∧ charge.key.toNat < first + 0) = [] := by
      rw [List.filter_eq_nil_iff]
      intro charge _
      simp
    rw [hnone]
    exact Nat.zero_le _
  | succ count ih =>
    have hlast := h.totalUnder_le_limit horder hlimit (UInt64.ofNat (first + count))
    have hsplit : total (charges.filter fun charge =>
        first ≤ charge.key.toNat ∧ charge.key.toNat < first + (count + 1))
        ≤ total (charges.filter fun charge =>
            first ≤ charge.key.toNat ∧ charge.key.toNat < first + count)
          + totalUnder charges (UInt64.ofNat (first + count)) := by
      apply total_filter_le
      intro charge _ hcharge
      simp only [decide_eq_true_eq] at hcharge ⊢
      by_cases hkey : charge.key.toNat = first + count
      · right
        rw [← hkey, UInt64.ofNat_toNat]
      · left
        omega
    rw [Nat.add_one_mul]
    exact hsplit.trans (Nat.add_le_add ih hlast)

/-- In order, a counter holds all that was ever charged under its key. -/
theorem Tracks.eq_totalUnder {key : UInt64} {stored : Nat} (h : Tracks charges key stored)
    (horder : InOrder charges) : stored = totalUnder charges key := by
  rw [h.stored_eq, standing_eq_totalUnder horder]
  intro charge hcharge
  rw [h.key_eq]
  exact horder.le_lastKey hcharge

end Charge

end DepositGate
