import DepositGate.Budget.Epoch
import DepositGate.Proofs.Budget.Block
import DepositGate.Proofs.Outcome
import DepositGate.Proofs.SortedMap

/-!
# What epoch limits allow

An amount of a supported asset is consumed exactly if limiting is off or the amount and what is used
in the epoch of that time stay within the threshold; the sum is taken among the natural numbers.
What is refused names the rule it broke and the values it broke it on. Consuming moves the counter
of one asset, and setting a threshold or the duration moves none.

Records are filed if each stands under the asset that it names. The operations of the limits keep
them so.
-/

namespace DepositGate

namespace TokenUsage

variable {usage next : TokenUsage} {amount : Amount} {epoch : UInt64} {why : Refusal}

theorem plan_eq_ok_iff : usage.plan amount epoch = .ok next
    ↔ usage.threshold.isZero = false
      ∧ (usage.usedAt epoch).val + amount.val ≤ usage.threshold.val
      ∧ ∃ total : Amount, total.val = (usage.usedAt epoch).val + amount.val
        ∧ next = { usage with epoch := epoch, used := total } := by
  rw [plan]
  cases hzero : usage.threshold.isZero with
  | true => simp
  | false =>
    cases hfit : fitting? (usage.usedAt epoch) amount usage.threshold with
    | none =>
      simp only [Bool.false_eq_true, if_false, hfit, reduceCtorEq, false_iff]
      intro ⟨_, hle, total, htotal, _⟩
      have hsome := fitting?_eq_some_iff.2 ⟨htotal, hle⟩
      rw [hfit] at hsome
      cases hsome
    | some sum =>
      obtain ⟨hsum, hle⟩ := fitting?_eq_some_iff.1 hfit
      simp only [Bool.false_eq_true, if_false, hfit, Except.ok.injEq]
      constructor
      · intro hnext
        subst hnext
        exact ⟨trivial, hle, sum, hsum, rfl⟩
      · intro ⟨_, _, total, htotal, hnext⟩
        rw [hnext, Amount.ext (hsum.trans htotal.symm)]

theorem plan_eq_error_iff (hzero : usage.threshold.isZero = false) :
    usage.plan amount epoch = .error why
      ↔ usage.threshold.val < (usage.usedAt epoch).val + amount.val
        ∧ why = .rateLimitExceeded usage.asset amount (usage.usedAt epoch) usage.threshold := by
  rw [plan, hzero]
  cases hfit : fitting? (usage.usedAt epoch) amount usage.threshold with
  | none =>
    have hlt : usage.threshold.val < (usage.usedAt epoch).val + amount.val := by
      by_contra hle
      have hthreshold := usage.threshold.val_lt
      have hsome := fitting?_eq_some_iff.2
        (show (⟨(usage.usedAt epoch).val + amount.val, by omega⟩ : Amount).val = _ ∧ _
          from ⟨rfl, Nat.le_of_not_lt hle⟩)
      rw [hfit] at hsome
      cases hsome
    simp only [Bool.false_eq_true, if_false, hfit, Except.error.injEq, hlt, true_and]
    exact eq_comm
  | some sum =>
    have hle := (fitting?_eq_some_iff.1 hfit).2
    simp only [Bool.false_eq_true, if_false, hfit, reduceCtorEq, false_iff]
    intro ⟨hlt, _⟩
    omega

end TokenUsage

theorem epochOf_eq_ok {duration : UInt64} (h : duration ≠ 0) (now : UInt64) :
    epochOf now duration = .ok (now / duration) :=
  if_neg h

namespace EpochLimits

variable {limits next : EpochLimits} {asset other : Asset} {amount : Amount} {now : UInt64}
  {usage : TokenUsage} {failure : Failure}

/-- The epoch of an asset's last write and what it used then; both zero without a record. -/
def counter (limits : EpochLimits) (asset : Asset) : UInt64 × Amount :=
  match limits.record asset with
  | some usage => (usage.epoch, usage.used)
  | none => (0, .zero)

/-- What is used of an asset in an epoch, as far as its record tells. -/
def usedIn (limits : EpochLimits) (asset : Asset) (epoch : UInt64) : Amount :=
  countedAt .zero (limits.counter asset).1 (limits.counter asset).2 epoch

/-- Each record stands under the asset that it names. -/
def Filed (limits : EpochLimits) : Prop :=
  ∀ asset usage, limits.record asset = some usage → usage.asset = asset

/-- Limiting is off, or the amount and what is used in the current epoch stay within the
threshold. -/
def HasRoom (limits : EpochLimits) (asset : Asset) (amount : Amount) (now : UInt64) : Prop :=
  limits.duration = 0
    ∨ (limits.usedIn asset (now / limits.duration)).val + amount.val ≤ (limits.threshold asset).val

theorem usedIn_val (limits : EpochLimits) (asset : Asset) (epoch : UInt64) :
    (limits.usedIn asset epoch).val
      = countedAt 0 (limits.counter asset).1 (limits.counter asset).2.val epoch :=
  apply_countedAt Amount.val .zero (limits.counter asset).2 (limits.counter asset).1 epoch

theorem counter_of_record (h : limits.record asset = some usage) :
    limits.counter asset = (usage.epoch, usage.used) := by
  simp only [counter, h]

theorem threshold_of_record (h : limits.record asset = some usage) :
    limits.threshold asset = usage.threshold := by
  simp only [threshold, h]

theorem usedIn_of_record (h : limits.record asset = some usage) (epoch : UInt64) :
    limits.usedIn asset epoch = usage.usedAt epoch := by
  rw [usedIn, counter_of_record h, TokenUsage.usedAt]

theorem supported_eq_none_iff :
    (limits.record asset).filter (fun usage => !usage.threshold.isZero) = none
      ↔ (limits.threshold asset).isZero = true := by
  cases h : limits.record asset with
  | none => simp [threshold, h]
  | some usage => simp [threshold_of_record h]

theorem supported_eq_some_iff :
    (limits.record asset).filter (fun usage => !usage.threshold.isZero) = some usage
      ↔ limits.record asset = some usage ∧ (limits.threshold asset).isZero = false := by
  rw [Option.filter_eq_some_iff, Bool.not_eq_true']
  constructor
  · intro ⟨hrecord, hzero⟩
    exact ⟨hrecord, threshold_of_record hrecord ▸ hzero⟩
  · intro ⟨hrecord, hzero⟩
    exact ⟨hrecord, threshold_of_record hrecord ▸ hzero⟩

/-! ### Consuming -/

theorem planEpoch_of_unsupported (hzero : (limits.threshold asset).isZero = true) :
    planEpoch asset (limits.record asset) amount now limits.duration
      = .error (.refused (.tokenUnsupported asset)) := by
  rw [planEpoch, supported_eq_none_iff.2 hzero]

theorem planEpoch_of_off (hzero : (limits.threshold asset).isZero = false)
    (hoff : limits.duration = 0) :
    planEpoch asset (limits.record asset) amount now limits.duration = .ok none := by
  cases hrecord : limits.record asset with
  | none => simp [threshold, hrecord, Amount.isZero] at hzero
  | some usage =>
    have hsupported := supported_eq_some_iff.2 ⟨hrecord, hzero⟩
    rw [hrecord] at hsupported
    rw [planEpoch, hsupported, hoff]
    rfl

theorem planEpoch_of_on (hrecord : limits.record asset = some usage)
    (hzero : (limits.threshold asset).isZero = false) (hon : limits.duration ≠ 0) :
    planEpoch asset (limits.record asset) amount now limits.duration
      = refusing ((usage.plan amount (now / limits.duration)).map some) := by
  rw [planEpoch, supported_eq_some_iff.2 ⟨hrecord, hzero⟩]
  simp only [if_neg hon, epochOf_eq_ok hon, computing_ok]
  cases hplan : usage.plan amount (now / limits.duration) with
  | ok next => exact congrArg (refusing · >>= fun next => Except.ok (some next)) hplan
  | error why => exact congrArg (refusing · >>= fun next => Except.ok (some next)) hplan

theorem consume_eq_error_iff_planEpoch :
    limits.consume asset amount now = .error failure
      ↔ planEpoch asset (limits.record asset) amount now limits.duration = .error failure := by
  rw [consume, bind_eq_error_iff]
  constructor
  · intro h
    rcases h with hplan | ⟨planned, -, hrest⟩
    · exact hplan
    · cases planned <;> cases hrest
  · exact .inl

/-- An asset without a positive threshold is refused as such; past that, what exceeds the threshold
is refused with what it broke. -/
theorem Filed.consume_eq_error_iff (hfiled : limits.Filed) :
    limits.consume asset amount now = .error failure
      ↔ ((limits.threshold asset).isZero = true ∧ failure = .refused (.tokenUnsupported asset))
        ∨ ((limits.threshold asset).isZero = false ∧ ¬limits.HasRoom asset amount now
          ∧ failure = .refused (.rateLimitExceeded asset amount
              (limits.usedIn asset (now / limits.duration)) (limits.threshold asset))) := by
  rw [consume_eq_error_iff_planEpoch]
  cases hzero : (limits.threshold asset).isZero with
  | true => simp [planEpoch_of_unsupported hzero, eq_comm]
  | false =>
    by_cases hduration : limits.duration = 0
    · rw [planEpoch_of_off hzero hduration]
      simp [HasRoom, hduration]
    · cases hrecord : limits.record asset with
      | none => simp [threshold, hrecord, Amount.isZero] at hzero
      | some usage =>
        have hthreshold := threshold_of_record hrecord
        rw [← hrecord, planEpoch_of_on hrecord hzero hduration, HasRoom,
          usedIn_of_record hrecord, hthreshold]
        cases hplan : usage.plan amount (now / limits.duration) with
        | ok next =>
          have hle := (TokenUsage.plan_eq_ok_iff.1 hplan).2.1
          simp [Except.map, hduration, hle]
        | error why =>
          obtain ⟨hlt, hwhy⟩ := (TokenUsage.plan_eq_error_iff (hthreshold ▸ hzero)).1 hplan
          rw [hfiled asset usage hrecord] at hwhy
          simp [Except.map, hduration, hlt, hwhy, eq_comm]

theorem consume_of_planEpoch {planned : Option TokenUsage}
    (h : planEpoch asset (limits.record asset) amount now limits.duration = .ok planned) :
    limits.consume asset amount now = .ok (planned.elim limits limits.apply) := by
  rw [consume, h]
  cases planned <;> rfl

/-- What is planned: nothing to store if limiting is off, and else the asset's record moved to the
current epoch with the amount added to what was used there. -/
theorem of_planEpoch_eq_ok {planned : Option TokenUsage}
    (h : planEpoch asset (limits.record asset) amount now limits.duration = .ok planned) :
    ∃ usage, limits.record asset = some usage ∧ (limits.threshold asset).isZero = false
      ∧ limits.HasRoom asset amount now
      ∧ ((limits.duration = 0 ∧ planned = none)
        ∨ (limits.duration ≠ 0 ∧ ∃ total : Amount,
          total.val = (limits.usedIn asset (now / limits.duration)).val + amount.val
          ∧ planned = some { usage with epoch := now / limits.duration, used := total })) := by
  cases hzero : (limits.threshold asset).isZero with
  | true =>
    rw [planEpoch_of_unsupported hzero] at h
    cases h
  | false =>
    cases hrecord : limits.record asset with
    | none => simp [threshold, hrecord, Amount.isZero] at hzero
    | some usage =>
      refine ⟨usage, rfl, rfl, ?_⟩
      by_cases hduration : limits.duration = 0
      · rw [planEpoch_of_off hzero hduration] at h
        cases h
        exact ⟨.inl hduration, .inl ⟨hduration, rfl⟩⟩
      · rw [planEpoch_of_on hrecord hzero hduration, refusing_eq_ok_iff] at h
        cases hplan : usage.plan amount (now / limits.duration) with
        | error why =>
          rw [hplan] at h
          cases h
        | ok next =>
          rw [hplan] at h
          cases h
          obtain ⟨-, hle, total, htotal, rfl⟩ := TokenUsage.plan_eq_ok_iff.1 hplan
          rw [HasRoom, usedIn_of_record hrecord, threshold_of_record hrecord]
          exact ⟨.inr hle, .inr ⟨hduration, total, htotal, rfl⟩⟩

/-- The limits after an amount of an asset is consumed. -/
theorem of_consume_eq_ok (h : limits.consume asset amount now = .ok next) :
    ∃ usage, limits.record asset = some usage ∧ (limits.threshold asset).isZero = false
      ∧ limits.HasRoom asset amount now
      ∧ ((limits.duration = 0 ∧ next = limits)
        ∨ (limits.duration ≠ 0 ∧ ∃ total : Amount,
          total.val = (limits.usedIn asset (now / limits.duration)).val + amount.val
          ∧ next = limits.apply
            { usage with epoch := now / limits.duration, used := total })) := by
  obtain ⟨planned, hplanned, -⟩ := bind_eq_ok_iff.1 h
  rw [consume_of_planEpoch hplanned, Except.ok.injEq] at h
  obtain ⟨usage, hrecord, hzero, hroom, hcase⟩ := of_planEpoch_eq_ok hplanned
  refine ⟨usage, hrecord, hzero, hroom, ?_⟩
  rcases hcase with ⟨hoff, rfl⟩ | ⟨hon, total, htotal, rfl⟩
  · exact .inl ⟨hoff, h.symm⟩
  · exact .inr ⟨hon, total, htotal, h.symm⟩

/-! ### Records after an operation -/

theorem record_apply (limits : EpochLimits) (usage : TokenUsage) (other : Asset) :
    (limits.apply usage).record other
      = if usage.asset = other then some usage else limits.record other := by
  rw [record, apply, SortedMap.find?_insert, record]
  exact if_congr ⟨rank_injective, congrArg rank⟩ rfl rfl

/-- Records of different assets can be stored in either order. -/
theorem apply_comm (limits : EpochLimits) {usage other : TokenUsage}
    (h : usage.asset ≠ other.asset) :
    (limits.apply usage).apply other = (limits.apply other).apply usage := by
  simp only [apply, SortedMap.insert_comm _ h]

theorem record_setThreshold (limits : EpochLimits) (asset : Asset) (threshold : Amount)
    (other : Asset) :
    (limits.setThreshold asset threshold).record other
      = if asset = other then
          some (match limits.record asset with
            | some usage => { usage with threshold := threshold }
            | none => .fresh asset threshold)
        else limits.record other := by
  rw [record, setThreshold, SortedMap.find?_insert]
  exact if_congr ⟨rank_injective, congrArg rank⟩ rfl rfl

theorem Filed.apply (h : limits.Filed) (usage : TokenUsage) : (limits.apply usage).Filed := by
  intro other found hfound
  rw [record_apply] at hfound
  split at hfound
  · rename_i hasset
    cases hfound
    exact hasset
  · exact h other found hfound

theorem Filed.setThreshold (h : limits.Filed) (asset : Asset) (threshold : Amount) :
    (limits.setThreshold asset threshold).Filed := by
  intro other found hfound
  rw [record_setThreshold] at hfound
  split at hfound
  · rename_i hother
    subst hother
    cases hrecord : limits.record asset with
    | some usage =>
      rw [hrecord] at hfound
      cases hfound
      exact h asset usage hrecord
    | none =>
      rw [hrecord] at hfound
      cases hfound
      rfl
  · exact h other found hfound

theorem Filed.consume (h : limits.Filed) (hnext : limits.consume asset amount now = .ok next) :
    next.Filed := by
  obtain ⟨_, -, -, -, ⟨-, rfl⟩ | ⟨-, _, -, rfl⟩⟩ := of_consume_eq_ok hnext
  · exact h
  · exact h.apply _

theorem counter_apply (limits : EpochLimits) (usage : TokenUsage) (other : Asset) :
    (limits.apply usage).counter other
      = if usage.asset = other then (usage.epoch, usage.used) else limits.counter other := by
  rw [counter, record_apply]
  by_cases hother : usage.asset = other
  · rw [if_pos hother, if_pos hother]
  · rw [if_neg hother, if_neg hother]
    rfl

theorem counter_setThreshold (limits : EpochLimits) (asset : Asset) (threshold : Amount)
    (other : Asset) :
    (limits.setThreshold asset threshold).counter other = limits.counter other := by
  rw [counter, counter, record_setThreshold]
  by_cases hother : asset = other
  · subst hother
    rw [if_pos rfl]
    cases limits.record asset <;> rfl
  · rw [if_neg hother]

/-! ### Thresholds and the duration after an operation -/

theorem threshold_setThreshold (limits : EpochLimits) (asset : Asset) (threshold : Amount)
    (other : Asset) : (limits.setThreshold asset threshold).threshold other
      = if asset = other then threshold else limits.threshold other := by
  rw [EpochLimits.threshold, record_setThreshold]
  by_cases hother : asset = other
  · rw [if_pos hother, if_pos hother]
    cases limits.record asset <;> rfl
  · rw [if_neg hother, if_neg hother]
    rfl

/-- Consuming leaves all thresholds and the duration as they are. -/
theorem Filed.settings_of_consume (h : limits.Filed)
    (hnext : limits.consume asset amount now = .ok next) :
    next.duration = limits.duration ∧ ∀ other, next.threshold other = limits.threshold other := by
  obtain ⟨usage, hrecord, -, -, ⟨-, rfl⟩ | ⟨-, total, -, rfl⟩⟩ := of_consume_eq_ok hnext
  · exact ⟨rfl, fun _ => rfl⟩
  · refine ⟨rfl, ?_⟩
    intro other
    rw [threshold, record_apply]
    by_cases hother : usage.asset = other
    · have hasset : asset = other := (h asset usage hrecord).symm.trans hother
      rw [if_pos hother, ← hasset, threshold_of_record hrecord]
    · rw [if_neg hother]
      rfl

/-! ### Counters after consuming -/

theorem eq_of_consume_off (hnext : limits.consume asset amount now = .ok next)
    (hoff : limits.duration = 0) : next = limits := by
  obtain ⟨_, -, -, -, ⟨-, hsame⟩ | ⟨hon, -⟩⟩ := of_consume_eq_ok hnext
  · exact hsame
  · exact absurd hoff hon

/-- Consuming moves the asset's counter to the current epoch, where the amount had room. -/
theorem Filed.counter_of_consume (h : limits.Filed)
    (hnext : limits.consume asset amount now = .ok next) (hon : limits.duration ≠ 0) :
    (next.counter asset).1 = now / limits.duration
      ∧ (next.counter asset).2.val
        = (limits.usedIn asset (now / limits.duration)).val + amount.val
      ∧ (limits.usedIn asset (now / limits.duration)).val + amount.val
        ≤ (limits.threshold asset).val := by
  obtain ⟨usage, hrecord, -, hroom, ⟨hoff, -⟩ | ⟨-, total, htotal, rfl⟩⟩ := of_consume_eq_ok hnext
  · exact absurd hoff hon
  · rw [counter_apply, if_pos (h asset usage hrecord)]
    exact ⟨rfl, htotal, hroom.resolve_left hon⟩

theorem Filed.record_of_consume_ne (h : limits.Filed)
    (hnext : limits.consume asset amount now = .ok next) (hother : asset ≠ other) :
    next.record other = limits.record other := by
  obtain ⟨usage, hrecord, -, -, ⟨-, rfl⟩ | ⟨-, total, -, rfl⟩⟩ := of_consume_eq_ok hnext
  · rfl
  · have hname : usage.asset = asset := h asset usage hrecord
    rw [record_apply]
    exact if_neg fun hsame => hother (hname.symm.trans hsame)

theorem Filed.counter_of_consume_ne (h : limits.Filed)
    (hnext : limits.consume asset amount now = .ok next) (hother : asset ≠ other) :
    next.counter other = limits.counter other := by
  rw [counter, counter, h.record_of_consume_ne hnext hother]

/-- Consuming drops no record. -/
theorem record_eq_none_of_consume (hnext : limits.consume asset amount now = .ok next)
    (hnone : next.record other = none) : limits.record other = none := by
  obtain ⟨usage, -, -, -, ⟨-, rfl⟩ | ⟨-, total, -, rfl⟩⟩ := of_consume_eq_ok hnext
  · exact hnone
  · rw [record_apply] at hnone
    split at hnone
    · cases hnone
    · exact hnone

/-! ### Usage -/

/-- The usage of an asset is told or refused: while limiting is off no epoch is asked for. -/
theorem faultless_usage (limits : EpochLimits) (asset : Asset) (now : UInt64) :
    Faultless (limits.usage asset now) := by
  rw [usage]
  split
  · exact faultless_refused _
  · by_cases hoff : limits.duration = 0
    · rw [if_pos hoff]
      exact faultless_ok _
    · rw [if_neg hoff, epochOf_eq_ok hoff]
      exact faultless_ok _

end EpochLimits

end DepositGate
