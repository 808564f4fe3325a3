import DepositGate.Proofs.Budget.Epoch

/-!
# What the usage foretells

The usage of an asset is a query, and consuming is a write. Both start from the same record, but by
different sums: the query takes what remains by a difference that stops at zero, and the write adds
first and compares then. They agree nevertheless. What remains is the most that can be consumed, and
what is consumed moves from what remains to what is used.

This holds whatever the limits went through: a threshold may have been lowered below what is used,
and under a new duration an old record may count in another epoch than the one it was written for.
Of this history only one thing is needed, that each record stands under the asset that it names. Of
a block budget nothing is needed.
-/

namespace DepositGate

namespace EpochLimits

variable {limits next : EpochLimits} {asset other : Asset} {amount : Amount} {now : UInt64}

/-! ### Limits that can be reached -/

inductive Operation where
  | consume (asset : Asset) (amount : Amount) (now : UInt64)
  | setThreshold (asset : Asset) (threshold : Amount)
  | setDuration (duration : UInt64)
deriving DecidableEq, Repr

/-- The limits after an operation. Consuming that fails leaves them as they were. -/
def perform (limits : EpochLimits) : Operation → EpochLimits
  | .consume asset amount now => (limits.consume asset amount now).toOption.getD limits
  | .setThreshold asset threshold => limits.setThreshold asset threshold
  | .setDuration duration => limits.setDuration duration

def after (limits : EpochLimits) (operations : List Operation) : EpochLimits :=
  operations.foldl perform limits

/-- Operations lead to the limits from some without a threshold. -/
def Reached (limits : EpochLimits) : Prop :=
  ∃ duration operations, (start duration).after operations = limits

theorem perform_consume_of_ok (h : limits.consume asset amount now = .ok next) :
    limits.perform (.consume asset amount now) = next := by
  rw [perform, h]
  rfl

theorem perform_consume_of_error {failure : Failure}
    (h : limits.consume asset amount now = .error failure) :
    limits.perform (.consume asset amount now) = limits := by
  rw [perform, h]
  rfl

theorem filed_start (duration : UInt64) : (start duration).Filed := by
  intro asset usage hrecord
  cases hrecord

theorem Filed.perform (h : limits.Filed) (operation : Operation) :
    (limits.perform operation).Filed := by
  cases operation with
  | consume asset amount now =>
    cases hconsume : limits.consume asset amount now with
    | ok next =>
      rw [perform_consume_of_ok hconsume]
      exact h.consume hconsume
    | error failure =>
      rw [perform_consume_of_error hconsume]
      exact h
  | setThreshold asset threshold => exact h.setThreshold asset threshold
  | setDuration duration => exact h

theorem Filed.after (h : limits.Filed) (operations : List Operation) :
    (limits.after operations).Filed := by
  induction operations generalizing limits with
  | nil => exact h
  | cons operation rest ih => exact ih (h.perform operation)

theorem Reached.filed (h : limits.Reached) : limits.Filed := by
  obtain ⟨duration, operations, rfl⟩ := h
  exact (filed_start duration).after operations

/-! ### What remains -/

/-- What remains of an asset's threshold in an epoch; nothing if more than that is used. -/
def remainingIn (limits : EpochLimits) (asset : Asset) (epoch : UInt64) : Amount :=
  (limits.threshold asset).saturatingSub (limits.usedIn asset epoch)

theorem usedIn_add_remainingIn (limits : EpochLimits) (asset : Asset) (epoch : UInt64) :
    (limits.usedIn asset epoch).val + (limits.remainingIn asset epoch).val
      = max (limits.usedIn asset epoch).val (limits.threshold asset).val := by
  rw [remainingIn, Amount.val_saturatingSub]
  omega

theorem usage_eq (hon : limits.duration ≠ 0) (hzero : (limits.threshold asset).isZero = false)
    (now : UInt64) : limits.usage asset now
      = .ok (limits.usedIn asset (now / limits.duration),
          limits.remainingIn asset (now / limits.duration)) := by
  cases hrecord : limits.record asset with
  | none => simp [threshold, hrecord, Amount.isZero] at hzero
  | some usage =>
    rw [EpochLimits.usage, supported_eq_some_iff.2 ⟨hrecord, hzero⟩, remainingIn,
      usedIn_of_record hrecord, threshold_of_record hrecord]
    simp only [if_neg hon, epochOf_eq_ok hon, computing_ok]
    rfl

/-- Anything at all has room exactly if it is no more than what remains. -/
theorem hasRoom_iff_le_remainingIn (hon : limits.duration ≠ 0) (hamount : 1 ≤ amount.val) :
    limits.HasRoom asset amount now
      ↔ amount ≤ limits.remainingIn asset (now / limits.duration) := by
  rw [HasRoom, or_iff_right hon, Amount.le_iff, remainingIn, Amount.val_saturatingSub]
  omega

theorem Filed.exists_consume_iff (h : limits.Filed)
    (hzero : (limits.threshold asset).isZero = false) :
    (∃ next, limits.consume asset amount now = .ok next) ↔ limits.HasRoom asset amount now := by
  constructor
  · intro ⟨next, hnext⟩
    obtain ⟨_, -, -, hroom, -⟩ := of_consume_eq_ok hnext
    exact hroom
  · intro hroom
    cases hconsume : limits.consume asset amount now with
    | ok next => exact ⟨next, rfl⟩
    | error failure =>
      rcases h.consume_eq_error_iff.1 hconsume with ⟨hunsupported, -⟩ | ⟨-, hfull, -⟩
      · rw [hzero] at hunsupported
        cases hunsupported
      · exact absurd hroom hfull

/-! ### After consuming -/

/-- What is used in the current epoch grows by the amount, and in no other epoch is anything
used. -/
theorem Filed.usedIn_of_consume (h : limits.Filed)
    (hnext : limits.consume asset amount now = .ok next) (hon : limits.duration ≠ 0)
    (epoch : UInt64) : (next.usedIn asset epoch).val
      = if now / limits.duration = epoch then
          (limits.usedIn asset (now / limits.duration)).val + amount.val
        else 0 := by
  obtain ⟨hepoch, hused, -⟩ := h.counter_of_consume hnext hon
  rw [usedIn_val, hepoch, hused]
  rfl

theorem Filed.usage_of_consume (h : limits.Filed)
    (hnext : limits.consume asset amount now = .ok next) (hon : limits.duration ≠ 0)
    (hzero : (limits.threshold asset).isZero = false) {total rest : Amount}
    (htotal : total.val = (limits.usedIn asset (now / limits.duration)).val + amount.val)
    (hrest : rest.val = (limits.remainingIn asset (now / limits.duration)).val - amount.val)
    (time : UInt64) : next.usage asset time
      = .ok (if time / limits.duration = now / limits.duration then (total, rest)
          else (.zero, limits.threshold asset)) := by
  obtain ⟨hduration, hthreshold⟩ := h.settings_of_consume hnext
  have hused := h.usedIn_of_consume hnext hon (time / limits.duration)
  rw [usage_eq (hduration ▸ hon) (hthreshold asset ▸ hzero), hduration]
  congr 1
  by_cases hsame : time / limits.duration = now / limits.duration
  · rw [if_pos hsame.symm] at hused
    rw [if_pos hsame]
    refine Prod.ext (Amount.ext (hused.trans htotal.symm)) (Amount.ext ?_)
    rw [remainingIn, Amount.val_saturatingSub, hthreshold, hused, hrest, remainingIn,
      Amount.val_saturatingSub, Nat.sub_add_eq]
  · rw [if_neg (Ne.symm hsame)] at hused
    rw [if_neg hsame]
    refine Prod.ext (Amount.ext hused) (Amount.ext ?_)
    rw [remainingIn, Amount.val_saturatingSub, hthreshold, hused, Nat.sub_zero]

end EpochLimits

namespace BlockBudget

variable {budget next : BlockBudget} {usd : Usd} {key : UInt64}

theorem exists_consume_iff (hon : budget.cap.isZero = false) :
    (∃ next, budget.consume usd key = .ok next)
      ↔ (budget.consumedAt key).raw.val + usd.raw.val ≤ budget.cap.raw.val := by
  constructor
  · intro ⟨next, hnext⟩
    rcases of_consume_eq_ok hnext with ⟨hoff, -⟩ | ⟨-, -, -, -, hle⟩
    · rw [hon] at hoff
      cases hoff
    · exact hle
  · intro hle
    cases hconsume : budget.consume usd key with
    | ok next => exact ⟨next, rfl⟩
    | error why => exact absurd (.inr hle) (consume_eq_error_iff.1 hconsume).1

/-- What is consumed in the block grows by the value, and in no other block is anything consumed. -/
theorem consumedAt_of_consume (hon : budget.cap.isZero = false)
    (hnext : budget.consume usd key = .ok next) (other : UInt64) :
    (next.consumedAt other).raw.val
      = if key = other then (budget.consumedAt key).raw.val + usd.raw.val else 0 := by
  rcases of_consume_eq_ok hnext with ⟨hoff, -⟩ | ⟨-, hkey, -, hconsumed, -⟩
  · rw [hon] at hoff
    cases hoff
  · rw [consumedAt_val, hkey, hconsumed]
    rfl

end BlockBudget

open EpochLimits in
/-- While limiting is on, the usage of a supported asset is told at any time, and what is used and
what remains add up to the threshold, or to what is used if that is more. Something is consumed
exactly if it is no more than what remains. Then it moves from what remains to what is used in that
epoch, and no other epoch has anything used; otherwise nothing changes. Other assets keep their
records. Likewise, while the block budget is on, a value is consumed in a block exactly if the cap
has room for it there, and then counts in that block alone. -/
theorem usage_foretells_consumption :
    (∀ limits : EpochLimits, limits.Reached → limits.duration ≠ 0 →
      ∀ asset, (limits.threshold asset).isZero = false →
      ∀ (now : UInt64) (amount : Amount), 1 ≤ amount.val →
        let after := limits.perform (.consume asset amount now)
        ∃ used remaining, limits.usage asset now = .ok (used, remaining)
          ∧ used.val + remaining.val = max used.val (limits.threshold asset).val
          ∧ ((∃ next, limits.consume asset amount now = .ok next) ↔ amount ≤ remaining)
          ∧ (amount ≤ remaining → ∃ total rest : Amount,
            total.val = used.val + amount.val ∧ rest.val = remaining.val - amount.val
              ∧ ∀ time, after.usage asset time
                = .ok (if time / limits.duration = now / limits.duration then (total, rest)
                    else (.zero, limits.threshold asset)))
          ∧ (remaining < amount → after = limits)
          ∧ ∀ other, asset ≠ other → after.record other = limits.record other)
      ∧ ∀ budget : BlockBudget, budget.cap.isZero = false → ∀ (usd : Usd) (key : UInt64),
        ((∃ next, budget.consume usd key = .ok next)
          ↔ (budget.consumedAt key).raw.val + usd.raw.val ≤ budget.cap.raw.val)
        ∧ ∀ next, budget.consume usd key = .ok next →
          (next.consumedAt key).raw.val = (budget.consumedAt key).raw.val + usd.raw.val
            ∧ ∀ other, key ≠ other → next.consumedAt other = .zero := by
  refine ⟨?_, ?_⟩
  · intro limits hreached hon asset hzero now amount hamount after
    have hfiled := hreached.filed
    have hexists : (∃ next, limits.consume asset amount now = .ok next)
        ↔ amount ≤ limits.remainingIn asset (now / limits.duration) :=
      (hfiled.exists_consume_iff hzero).trans (hasRoom_iff_le_remainingIn hon hamount)
    refine ⟨_, _, usage_eq hon hzero now, limits.usedIn_add_remainingIn asset _, hexists,
      ?_, ?_, ?_⟩
    · intro hle
      obtain ⟨next, hnext⟩ := hexists.2 hle
      have hafter : after = next := perform_consume_of_ok hnext
      obtain ⟨-, htotal, -⟩ := hfiled.counter_of_consume hnext hon
      let rest := (limits.remainingIn asset (now / limits.duration)).saturatingSub amount
      refine ⟨_, rest, htotal, rfl, ?_⟩
      rw [hafter]
      exact hfiled.usage_of_consume hnext hon hzero htotal rfl
    · intro hless
      cases hconsume : limits.consume asset amount now with
      | ok next => exact absurd (hexists.1 ⟨next, hconsume⟩) (Nat.not_le_of_lt hless)
      | error failure => exact perform_consume_of_error hconsume
    · intro other hother
      cases hconsume : limits.consume asset amount now with
      | ok next =>
        have hafter : after = next := perform_consume_of_ok hconsume
        rw [hafter]
        exact hfiled.record_of_consume_ne hconsume hother
      | error failure =>
        have hafter : after = limits := perform_consume_of_error hconsume
        rw [hafter]
  · intro budget hon usd key
    refine ⟨BlockBudget.exists_consume_iff hon, ?_⟩
    intro next hnext
    have hconsumed := BlockBudget.consumedAt_of_consume hon hnext
    refine ⟨(hconsumed key).trans (if_pos rfl), ?_⟩
    intro other hother
    exact Usd.ext ((hconsumed other).trans (if_neg hother))

namespace EpochLimits

/-- Eighty units of native currency are used in the second hour, and the threshold is lowered to
ninety then. Epochs of half an hour make the record count from second 1800 to second 3599. -/
def sampleOperations : List Operation := [
  .setThreshold .native (.ofUInt64 100),
  .consume .native (.ofUInt64 80) 5000,
  .consume .native (.ofUInt64 30) 7000,
  .setThreshold .native (.ofUInt64 90),
  .setDuration 1800]

def sampleReached : EpochLimits := (start 3600).after sampleOperations

end EpochLimits

/-- Ten units are all that remains, eleven are too many; and eight dollars in a block whose cap was
lowered to five since do not count in the next block. -/
theorem sampleReached_foretold :
    let limits := EpochLimits.sampleReached
    let asset : Asset := .native
    let budget : BlockBudget := ⟨7, .ofDollars 8, .ofDollars 5⟩
    limits.Reached ∧ limits.duration ≠ 0 ∧ (limits.threshold asset).isZero = false
      ∧ limits.usage asset 2000 = .ok (.ofUInt64 80, .ofUInt64 10)
      ∧ (limits.perform (.consume asset (.ofUInt64 10) 2000)).usage asset 3000
        = .ok (.ofUInt64 90, .zero)
      ∧ (limits.perform (.consume asset (.ofUInt64 10) 2000)).usage asset 4000
        = .ok (.zero, .ofUInt64 90)
      ∧ limits.perform (.consume asset (.ofUInt64 11) 2000) = limits
      ∧ (¬∃ next, budget.consume (.ofCents 1) 7 = .ok next)
      ∧ ∃ next, budget.consume (.ofDollars 5) 8 = .ok next ∧ next.consumedAt 7 = .zero := by
  intro limits asset budget
  have hreached : limits.Reached := ⟨3600, EpochLimits.sampleOperations, rfl⟩
  have hon : limits.duration ≠ 0 := by decide +kernel
  have hzero : (limits.threshold asset).isZero = false := by decide +kernel
  have hcap : budget.cap.isZero = false := by decide +kernel
  have hduration : limits.duration = 1800 := by decide +kernel
  have hthreshold : limits.threshold asset = .ofUInt64 90 := by decide +kernel
  have htold : limits.usage asset 2000 = .ok (.ofUInt64 80, .ofUInt64 10) := by decide +kernel
  obtain ⟨hepochs, hblock⟩ := usage_foretells_consumption
  obtain ⟨used, remaining, husage, -, -, hmoved, -⟩ :=
    hepochs limits hreached hon asset hzero 2000 (.ofUInt64 10) (by decide)
  obtain ⟨rfl, rfl⟩ : used = .ofUInt64 80 ∧ remaining = .ofUInt64 10 := by
    rw [htold] at husage
    simpa [eq_comm] using husage
  obtain ⟨total, rest, htotal, hrest, hafter⟩ := hmoved (by decide)
  obtain ⟨rfl, rfl⟩ : total = .ofUInt64 90 ∧ rest = .zero := ⟨Amount.ext htotal, Amount.ext hrest⟩
  obtain ⟨_, _, husage, -, -, -, hsame, -⟩ :=
    hepochs limits hreached hon asset hzero 2000 (.ofUInt64 11) (by decide)
  obtain ⟨rfl, rfl⟩ : _ = Amount.ofUInt64 80 ∧ _ = Amount.ofUInt64 10 := by
    rw [htold] at husage
    simpa [eq_comm] using husage
  rw [hduration, hthreshold] at hafter
  refine ⟨hreached, hon, hzero, htold, (hafter 3000).trans (congrArg _ (if_pos (by decide))),
    (hafter 4000).trans (congrArg _ (if_neg (by decide))), hsame (by decide), ?_, ?_⟩
  · rw [(hblock budget hcap (.ofCents 1) 7).1]
    decide
  · obtain ⟨hfits, hnext⟩ := hblock budget hcap (.ofDollars 5) 8
    obtain ⟨next, hconsume⟩ := hfits.2 (by decide)
    exact ⟨next, hconsume, (hnext next hconsume).2 7 (by decide)⟩

end DepositGate
