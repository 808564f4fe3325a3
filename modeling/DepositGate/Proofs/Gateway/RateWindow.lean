import DepositGate.Proofs.Gateway.EpochHistory
import DepositGate.Proofs.Gateway.Preview

/-!
# Limits over any stretch of time

Epochs begin at multiples of their length, whereas a stretch of time may begin anywhere. A stretch
as long as `k` epochs meets at most `k + 1` of them. As long as the length of an epoch and the
threshold of an asset stay as they are and the time never decreases, no epoch is left and entered
again, so each of them admits no more than the threshold, and the stretch no more than `k + 1`
thresholds.
-/

namespace DepositGate

namespace Turn

/-- The second at which the turn is taken. -/
def time (turn : Turn) : Nat := turn.gateway.clock.now.toNat

/-- How much of an asset the turn admits as bridged funds. -/
def admittedFunds (asset : Asset) (turn : Turn) : Nat :=
  match turn.receipt?.bind fun receipt => receipt.plan.funds with
  | some leg => if leg.asset = asset then leg.amount.val else 0
  | none => 0

end Turn

namespace Gateway

variable {gateway start : Gateway} {call : Call} {receipt : Receipt} {asset : Asset}
  {duration : UInt64} {threshold : Amount} {steps : List Step}

/-- How much of an asset a run admits as bridged funds from one second on and before another. -/
def admittedBetween (asset : Asset) (start : Gateway) (steps : List Step)
    (first last : Nat) : Nat :=
  (((start.turns steps).filter fun turn => first ≤ turn.time ∧ turn.time < last).map
    (Turn.admittedFunds asset)).sum

/-- Every call of the run finds the same length of an epoch and the same threshold of the asset, and
none is made at an earlier time than a call before it. -/
structure Steady (asset : Asset) (duration : UInt64) (threshold : Amount) (start : Gateway)
    (steps : List Step) : Prop where
  duration_eq : ∀ turn ∈ start.turns steps, turn.gateway.ledger.epochs.duration = duration
  threshold_eq : ∀ turn ∈ start.turns steps, turn.gateway.ledger.epochs.threshold asset = threshold
  inOrder : (start.turns steps).Pairwise fun a b => a.gateway.clock.now ≤ b.gateway.clock.now

/-! ### What a turn admits it charges to the current epoch -/

/-- While limiting is on, a turn that admits funds of an asset charges them to the epoch of its
time, and a turn that charges nothing admits nothing. -/
theorem fundsCharge?_eq_of_on (hfiled : gateway.ledger.epochs.Filed)
    (hon : gateway.ledger.epochs.duration ≠ 0) (asset : Asset) (call : Call) :
    (Turn.fundsCharge? asset ⟨gateway, call⟩ = none ∧ Turn.admittedFunds asset ⟨gateway, call⟩ = 0)
      ∨ Turn.fundsCharge? asset ⟨gateway, call⟩ = some {
        key := gateway.clock.now / gateway.ledger.epochs.duration
        amount := Turn.admittedFunds asset ⟨gateway, call⟩
        limit := (gateway.ledger.epochs.threshold asset).val } := by
  rcases gateway.counting_or_countsAlike call with ⟨receipt, hcounting⟩ | ⟨hnone, -⟩
  · have hadmitted : Turn.admittedFunds asset ⟨gateway, call⟩
        = match receipt.plan.funds with
          | some leg => if leg.asset = asset then leg.amount.val else 0
          | none => 0 := by
      rw [Turn.admittedFunds, hcounting.admitted]
      rfl
    rcases (hcounting.draws hfiled).funds with ⟨hfunds, -, -⟩ | ⟨leg, hleg, -, hepoch⟩
    · left
      rw [hadmitted, hfunds]
      exact ⟨hcounting.fundsCharge?_of_no_funds hfunds, rfl⟩
    · rw [if_neg hon] at hepoch
      rw [hcounting.fundsCharge?_eq hleg hepoch, hadmitted, hleg]
      by_cases hasset : leg.asset = asset
      · right
        simp [hasset]
      · left
        simp [hasset]
  · left
    refine ⟨fundsCharge?_of_no_receipt hnone, ?_⟩
    rw [Turn.admittedFunds, hnone]
    rfl

/-- What is admitted of an asset by some of the turns of a run was charged by them, and so is part
of all charges that have what theirs have. -/
theorem sum_admittedFunds_le {turns : List Turn}
    (hfiled : ∀ turn ∈ turns, turn.gateway.ledger.epochs.Filed)
    (hon : ∀ turn ∈ turns, turn.gateway.ledger.epochs.duration ≠ 0) (asset : Asset)
    {p : Turn → Bool} {q : Charge → Bool} (h : ∀ turn ∈ turns, p turn = true →
      ∀ charge, Turn.fundsCharge? asset turn = some charge → q charge = true) :
    ((turns.filter p).map (Turn.admittedFunds asset)).sum
      ≤ Charge.total ((turns.filterMap (Turn.fundsCharge? asset)).filter q) := by
  induction turns with
  | nil => exact Nat.zero_le _
  | cons turn rest ih =>
    obtain ⟨hfirst, hlater⟩ := List.forall_mem_cons.1 h
    have hrest := ih (List.forall_mem_cons.1 hfiled).2 (List.forall_mem_cons.1 hon).2 hlater
    have hcharge := fundsCharge?_eq_of_on (List.forall_mem_cons.1 hfiled).1
      (List.forall_mem_cons.1 hon).1 asset turn.call
    rcases hcharge with ⟨hnone, hzero⟩ | hsome
    · rw [List.filterMap_cons_none hnone, List.filter_cons]
      split
      · rw [List.map_cons, List.sum_cons, hzero, Nat.zero_add]
        exact hrest
      · exact hrest
    · rw [List.filterMap_cons_some hsome, List.filter_cons]
      split
      · rename_i hp
        rw [List.map_cons, List.sum_cons, List.filter_cons_of_pos (hfirst hp _ hsome)]
        exact Nat.add_le_add_left hrest _
      · exact hrest.trans (Charge.total_filter_cons_le _ _ _)

/-! ### Every run -/

/-- In a steady run each charge is made to the epoch of its turn, under the one threshold. -/
theorem Steady.fundsCharge?_eq (h : start.Steady asset duration threshold steps)
    (hfresh : start.Fresh) (hon : duration ≠ 0) {turn : Turn} (hturn : turn ∈ start.turns steps)
    {charge : Charge} (hcharge : turn.fundsCharge? asset = some charge) :
    charge.key = turn.gateway.clock.now / duration ∧ charge.limit = threshold.val := by
  obtain ⟨gateway, call⟩ := turn
  have hduration : gateway.ledger.epochs.duration = duration := h.duration_eq _ hturn
  have hthreshold : gateway.ledger.epochs.threshold asset = threshold := h.threshold_eq _ hturn
  have hfiled : gateway.ledger.epochs.Filed := (hfresh.wellFormed_turns steps _ hturn).filed
  rcases fundsCharge?_eq_of_on hfiled (hduration ▸ hon) asset call with ⟨hnone, -⟩ | hsome
  · rw [hnone] at hcharge
    cases hcharge
  · rw [hsome, hduration, hthreshold, Option.some.injEq] at hcharge
    subst hcharge
    exact ⟨rfl, rfl⟩

theorem Steady.inOrder_charges (h : start.Steady asset duration threshold steps)
    (hfresh : start.Fresh) (hon : duration ≠ 0) :
    Charge.InOrder (fundsCharges asset start steps) := by
  rw [Charge.InOrder, fundsCharges, List.pairwise_filterMap]
  apply List.Pairwise.imp_of_mem _ h.inOrder
  intro earlier later hearlier hlater hle before hbefore after hafter
  rw [(h.fundsCharge?_eq hfresh hon hearlier hbefore).1,
    (h.fundsCharge?_eq hfresh hon hlater hafter).1, UInt64.le_iff_toNat_le, UInt64.toNat_div,
    UInt64.toNat_div]
  exact Nat.div_le_div_right (UInt64.le_iff_toNat_le.1 hle)

theorem Steady.limit_of_mem (h : start.Steady asset duration threshold steps)
    (hfresh : start.Fresh) (hon : duration ≠ 0) {charge : Charge}
    (hcharge : charge ∈ fundsCharges asset start steps) : charge.limit = threshold.val := by
  obtain ⟨turn, hturn, hcharge⟩ := List.mem_filterMap.1 hcharge
  exact (h.fundsCharge?_eq hfresh hon hturn hcharge).2

/-- A second of a stretch as long as `k` epochs lies in one of the `k + 1` epochs from the one in
which the stretch begins. -/
theorem div_mem_span {length first k second : Nat} (hlength : 0 < length) (hfirst : first ≤ second)
    (hlast : second < first + k * length) :
    first / length ≤ second / length ∧ second / length < first / length + (k + 1) := by
  refine ⟨Nat.div_le_div_right hfirst, ?_⟩
  rw [Nat.div_lt_iff_lt_mul hlength]
  calc second < first + k * length := hlast
    _ < first / length * length + length + k * length :=
        Nat.add_lt_add_right (Nat.lt_div_mul_add hlength) _
    _ = (first / length + (k + 1)) * length := by
        rw [Nat.add_mul, Nat.add_one_mul, Nat.add_assoc, Nat.add_comm length]

/-- If limiting is on and neither the length of an epoch nor the threshold of an asset is changed,
and the time never decreases, then in any stretch of time as long as `k` epochs no more of the asset
is admitted as bridged funds than `k + 1` thresholds, whatever else is called and happens. -/
theorem admitted_between_le (hfresh : start.Fresh) (hon : duration ≠ 0)
    (hsteady : start.Steady asset duration threshold steps) (first k : Nat) :
    admittedBetween asset start steps first (first + k * duration.toNat)
      ≤ (k + 1) * threshold.val := by
  have hlength : 0 < duration.toNat := by
    rw [Nat.pos_iff_ne_zero]
    exact fun hzero => hon (UInt64.toNat_inj.1 hzero)
  have hwithin : Charge.AllWithin (fundsCharges asset start steps) :=
    ((hfresh.epochRecorded asset).after steps).tracks.within
  have hcharged : admittedBetween asset start steps first (first + k * duration.toNat)
      ≤ Charge.total ((fundsCharges asset start steps).filter fun charge =>
        first / duration.toNat ≤ charge.key.toNat
          ∧ charge.key.toNat < first / duration.toNat + (k + 1)) := by
    apply sum_admittedFunds_le
    · exact fun turn hturn => (hfresh.wellFormed_turns steps turn hturn).filed
    · exact fun turn hturn => hsteady.duration_eq turn hturn ▸ hon
    · intro turn hturn hbetween charge hcharge
      rw [decide_eq_true_eq] at hbetween ⊢
      rw [(hsteady.fundsCharge?_eq hfresh hon hturn hcharge).1, UInt64.toNat_div]
      exact div_mem_span hlength hbetween.1 hbetween.2
  exact hcharged.trans (hwithin.total_span_le (hsteady.inOrder_charges hfresh hon)
    (fun _ hcharge => hsteady.limit_of_mem hfresh hon hcharge) _ _)

/-- A token deposited up to its threshold in the last second of an epoch and again in the first
second of the next. -/
def sampleTurnOfEpoch : List Step := [
  .change (.clock (.setTime 7199)),
  .call (.send "last" sampleAccount (sampleRequest sampleToken 100 []) .zero),
  .change (.clock (.setTime 7200)),
  .call (.send "over" sampleAccount (sampleRequest .native 0 []) sampleGas),
  .call (.send "first" sampleAccount (sampleRequest sampleToken 100 []) .zero),
  .call (.send "refused" sampleAccount (sampleRequest sampleToken 1 []) .zero)]

/-- The hour that begins in that last second meets two epochs, and both thresholds are admitted in
it. -/
theorem sampleTurnOfEpoch_admitted_between :
    sample.Fresh ∧ sample.Steady sampleToken 3600 (.ofUInt64 100) sampleTurnOfEpoch
      ∧ admittedBetween sampleToken sample sampleTurnOfEpoch 7199 (7199 + 1 * 3600) = 200
      ∧ admittedBetween sampleToken sample sampleTurnOfEpoch 7199 (7199 + 1 * 3600)
        ≤ (1 + 1) * 100 := by
  have hsteady : sample.Steady sampleToken 3600 (.ofUInt64 100) sampleTurnOfEpoch :=
    ⟨by decide +kernel, by decide +kernel, by decide +kernel⟩
  refine ⟨sample_fresh, hsteady, by decide +kernel, ?_⟩
  exact admitted_between_le sample_fresh (by decide) hsteady 7199 1

end Gateway

end DepositGate
