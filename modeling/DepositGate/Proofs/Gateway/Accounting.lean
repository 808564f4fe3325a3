import DepositGate.Gateway.Fleet
import DepositGate.Proofs.Binary64
import DepositGate.Proofs.Gateway.Faultless
import DepositGate.Proofs.Gateway.Tallies
import DepositGate.Proofs.Usd.Dollars
import Mathlib.Algebra.BigOperators.Group.Finset.Basic

/-!
# The metrics account for every request

The metrics after a run of a fleet are those before it with the tallies of all turns taken in their
order. Each turn's tallies can be told from its answer, so every count has grown by the number of
turns that were answered accordingly, on whichever gateway. Counts by kind and by reason are kept in
floating point and are exact below 2^53. The consumption that is shown is in floating point as well,
and it is the recorded one up to rounding if that is below 2^128 dollars, but not from there on.

Every deposit that is handed in to a well-formed gateway is admitted or rejected, so the counts by
kind and those by reason together grow by the number of these calls.
-/

namespace DepositGate

/-! ### Labels -/

theorem DepositKind.label_injective {a b : DepositKind} (h : a.label = b.label) : a = b := by
  cases a <;> cases b <;> first | rfl | simp [label] at h

theorem RefusalKind.label_injective {a b : RefusalKind} (h : a.label = b.label) : a = b := by
  cases a <;> cases b <;> first | rfl | simp [label] at h

/-! ### Taking tallies -/

namespace Tally

def admission? : Tally → Option DepositKind
  | .admission kind => some kind
  | _ => none

def rejection? : Tally → Option RefusalKind
  | .rejection reason => some reason
  | _ => none

def consumed? : Tally → Option Usd
  | .blockConsumed usd => some usd
  | _ => none

end Tally

namespace Metrics

variable {α : Type} [DecidableEq α]

/-- What is counted up for some tallies is exact as long as it is small. -/
theorem equals_take {counts : Metrics → α → Binary64} {counted? : Tally → Option α}
    (hrecord : ∀ metrics tally key, counts (metrics.record tally) key
      = if counted? tally = some key then (counts metrics key).succ else counts metrics key)
    {metrics : Metrics} {key : α} {n : Nat} (h : (counts metrics key).Equals n)
    (tallies : List Tally) (hfew : n + (tallies.filterMap counted?).count key < 2 ^ 53) :
    (counts (metrics.take tallies) key).Equals (n + (tallies.filterMap counted?).count key) := by
  -- The rest is taken on top of the first tally, so the count to start from varies.
  induction tallies generalizing metrics n with
  | nil => exact h
  | cons tally rest ih =>
    have hcount : ((tally :: rest).filterMap counted?).count key
        = (if counted? tally = some key then 1 else 0) + (rest.filterMap counted?).count key := by
      cases hcounted : counted? tally with
      | none => simp [hcounted]
      | some other => simp [hcounted, List.count_cons, Nat.add_comm]
    rw [hcount, ← Nat.add_assoc] at hfew ⊢
    refine ih ?_ hfew
    rw [hrecord]
    by_cases hkey : counted? tally = some key
    · rw [if_pos hkey] at hfew ⊢
      rw [if_pos hkey]
      exact h.succ (by omega)
    · rw [if_neg hkey, if_neg hkey]
      exact h

theorem admissions_record (metrics : Metrics) (tally : Tally) (kind : DepositKind) :
    (metrics.record tally).admissions kind = if tally.admission? = some kind
      then (metrics.admissions kind).succ else metrics.admissions kind := by
  cases tally <;> simp [record, countUp, Tally.admission?, eq_comm]

theorem rejections_record (metrics : Metrics) (tally : Tally) (reason : RefusalKind) :
    (metrics.record tally).rejections reason = if tally.rejection? = some reason
      then (metrics.rejections reason).succ else metrics.rejections reason := by
  cases tally <;> simp [record, countUp, Tally.rejection?, eq_comm]

theorem take_concat (metrics : Metrics) (earlier : List Tally) (tally : Tally) :
    metrics.take (earlier ++ [tally]) = (metrics.take earlier).record tally :=
  List.foldl_concat ..

/-- Failed transfers are counted modulo 2^64. -/
theorem transferFailures_take (metrics : Metrics) (tallies : List Tally) :
    (metrics.take tallies).transferFailures.getD 0
      = metrics.transferFailures.getD 0 + UInt64.ofNat (tallies.count .transferFailure) := by
  induction tallies using List.reverseRecOn with
  | nil => exact (UInt64.add_zero _).symm
  | append_singleton earlier tally ih =>
    rw [take_concat, List.count_append, List.count_singleton]
    cases tally with
    | transferFailure =>
      rw [record, Option.getD_some, ih]
      simp [UInt64.add_assoc]
    | _ => simpa [record] using ih

/-- The consumption shown is the one noted last. -/
theorem blockConsumed_take (metrics : Metrics) (tallies : List Tally) :
    (metrics.take tallies).blockConsumed
      = ((tallies.filterMap Tally.consumed?).getLast?.map Usd.toDollars).or
        metrics.blockConsumed := by
  induction tallies using List.reverseRecOn with
  | nil => rfl
  | append_singleton earlier tally ih =>
    rw [take_concat, List.filterMap_append]
    cases tally <;> simp [record, Tally.consumed?, ih]

end Metrics

/-! ### The tallies of a row of turns -/

namespace Turn

theorem admission?_noted (turn : Turn) :
    turn.noted.filterMap Tally.admission? = turn.admitted?.toList := by
  rw [noted]
  cases turn.recorded? <;> cases turn.failsTransfer <;> cases turn.admitted? <;>
    cases turn.rejected? <;> rfl

theorem rejection?_noted (turn : Turn) :
    turn.noted.filterMap Tally.rejection? = turn.rejected?.toList := by
  rw [noted]
  cases turn.recorded? <;> cases turn.failsTransfer <;> cases turn.admitted? <;>
    cases turn.rejected? <;> rfl

theorem consumed?_noted (turn : Turn) :
    turn.noted.filterMap Tally.consumed? = turn.recorded?.toList := by
  rw [noted]
  cases turn.recorded? <;> cases turn.failsTransfer <;> cases turn.admitted? <;>
    cases turn.rejected? <;> rfl

theorem transferFailure_noted (turn : Turn) :
    turn.noted.count .transferFailure = if turn.failsTransfer then 1 else 0 := by
  rw [noted]
  cases turn.recorded? <;> cases turn.failsTransfer <;> cases turn.admitted? <;>
    cases turn.rejected? <;> rfl

/-- What each turn notes, a row of turns notes in its order. -/
theorem filterMap_noted {α : Type} {counted? : Tally → Option α} {answered? : Turn → Option α}
    (h : ∀ turn : Turn, turn.noted.filterMap counted? = (answered? turn).toList)
    (turns : List Turn) :
    (turns.flatMap noted).filterMap counted? = turns.filterMap answered? := by
  rw [List.filterMap_flatMap, List.filterMap_eq_flatMap_toList]
  exact congrArg (turns.flatMap ·) (funext h)

theorem count_transferFailure_noted (turns : List Turn) :
    (turns.flatMap noted).count .transferFailure = turns.countP failsTransfer := by
  induction turns with
  | nil => rfl
  | cons turn rest ih =>
    rw [List.flatMap_cons, List.count_append, List.countP_cons, ih, transferFailure_noted,
      Nat.add_comm]

/-! ### Deposits are admitted or rejected -/

/-- A deposit that is answered is admitted or rejected, and not both. -/
theorem admitted_or_rejected_of_send (gateway : Gateway) (id : String) (sender : Address)
    (request : Request) (value : Amount) :
    let turn : Turn := ⟨gateway, .send id sender request value⟩
    turn.admitted?.toList.length + turn.rejected?.toList.length
      = if turn.faults then 0 else 1 := by
  intro turn
  have hanswer : turn.reply.result = (gateway.send id sender request value).result.map .receipt :=
    rfl
  have hsend : turn.call.isSend = true := rfl
  cases hresult : (gateway.send id sender request value).result with
  | ok receipt =>
    rw [hresult] at hanswer
    have hreceipt : turn.receipt? = some receipt := receipt?_eq_some hanswer
    simp [admitted?, rejected?, refusedFor?, faults, hreceipt, hanswer, Except.map]
  | error failure =>
    rw [hresult] at hanswer
    have hreceipt : turn.receipt? = none := receipt?_eq_none (by simp [hanswer, Except.map])
    cases failure <;>
      simp [admitted?, rejected?, refusedFor?, faults, hreceipt, hanswer, hsend, Except.map]

theorem admitted_or_rejected (turn : Turn) :
    turn.admitted?.toList.length + turn.rejected?.toList.length
      = if turn.call.isSend && !turn.faults then 1 else 0 := by
  obtain ⟨gateway, call⟩ := turn
  cases hsend : call.isSend with
  | false => simp [admitted?, rejected?, gateway.receipt?_of_not_send hsend, hsend]
  | true =>
    cases call with
    | send id sender request value =>
      have hone := admitted_or_rejected_of_send gateway id sender request value
      simpa [hsend, apply_ite] using hone
    | _ => cases hsend

theorem length_admitted_rejected (turns : List Turn) :
    (turns.filterMap admitted?).length + (turns.filterMap rejected?).length
      = turns.countP fun turn => turn.call.isSend && !turn.faults := by
  induction turns with
  | nil => rfl
  | cons turn rest ih =>
    have hturn := turn.admitted_or_rejected
    rw [List.countP_cons, ← ih, ← hturn]
    cases hadmitted : turn.admitted? <;> cases hrejected : turn.rejected? <;>
      simp [hadmitted, hrejected]
    all_goals omega

theorem faults_eq_false {turn : Turn} (h : turn.gateway.WellFormed) : turn.faults = false := by
  rw [faults]
  split
  · rename_i what hfault
    exact absurd hfault (h.faultless_perform turn.call what)
  · rfl

end Turn

namespace Fleet

variable {fleet : Fleet} {steps : List Step}

/-- The turn that a step is, if it is a call on a gateway that there is. -/
def turn? (fleet : Fleet) : Step → Option Turn
  | .call index call => fleet.gateways[index]?.map fun gateway => ⟨gateway, call⟩
  | _ => none

/-- The turns of a run in their order, on whichever gateway. -/
def turns (fleet : Fleet) : List Step → List Turn
  | [] => []
  | step :: rest => (fleet.turn? step).toList ++ (fleet.step step).turns rest

/-- A step counts what the answer to its call tells. -/
theorem metrics_step (fleet : Fleet) (step : Step) : (fleet.step step).metrics
    = fleet.metrics.take ((fleet.turn? step).toList.flatMap Turn.noted) := by
  cases step with
  | join gateway => rfl
  | shift index gateway => rfl
  | call index call =>
    rw [Fleet.step, turn?]
    cases fleet.gateways[index]? with
    | none => rfl
    | some gateway =>
      simp [gateway.tallies_perform call]

theorem metrics_run (fleet : Fleet) (steps : List Step) : (fleet.run steps).metrics
    = fleet.metrics.take ((fleet.turns steps).flatMap Turn.noted) := by
  induction steps generalizing fleet with
  | nil => rfl
  | cons step rest ih =>
    have hrest := ih (fleet.step step)
    rw [metrics_step, Metrics.take, Metrics.take, ← List.foldl_append,
      ← List.flatMap_append] at hrest
    exact hrest

/-! ### Well-formed fleets -/

def WellFormed (fleet : Fleet) : Prop := ∀ gateway ∈ fleet.gateways, gateway.WellFormed

/-- What joins the fleet, or comes to stand in it, is well-formed. -/
def Step.WellFormed : Step → Prop
  | .join gateway | .shift _ gateway => gateway.WellFormed
  | .call .. => True

theorem WellFormed.step {step : Step} (h : fleet.WellFormed) (hstep : step.WellFormed) :
    (fleet.step step).WellFormed := by
  have hset : ∀ index gateway, gateway.WellFormed →
      ∀ other ∈ fleet.gateways.set index gateway, other.WellFormed := by
    intro index gateway hgateway other hother
    rcases List.mem_or_eq_of_mem_set hother with hmem | rfl
    · exact h other hmem
    · exact hgateway
  cases step with
  | join gateway =>
    intro other hother
    rcases List.mem_append.1 hother with hmem | hlast
    · exact h other hmem
    · exact List.mem_singleton.1 hlast ▸ hstep
  | shift index gateway => exact hset index gateway hstep
  | call index call =>
    rw [Fleet.step]
    cases hgateway : fleet.gateways[index]? with
    | none => exact h
    | some gateway =>
      exact hset index _ ((h gateway (List.mem_of_getElem? hgateway)).perform call)

theorem WellFormed.turns (h : fleet.WellFormed) (hsteps : ∀ step ∈ steps, step.WellFormed) :
    ∀ turn ∈ fleet.turns steps, turn.gateway.WellFormed := by
  induction steps generalizing fleet with
  | nil => exact List.forall_mem_nil _
  | cons step rest ih =>
    obtain ⟨hstep, hrest⟩ := List.forall_mem_cons.1 hsteps
    rw [Fleet.turns, List.forall_mem_append]
    refine ⟨?_, ih (h.step hstep) hrest⟩
    intro turn hturn
    cases step with
    | call index call =>
      rw [Option.mem_toList, turn?, Option.map_eq_some_iff] at hturn
      obtain ⟨gateway, hgateway, rfl⟩ := hturn
      exact h gateway (List.mem_of_getElem? hgateway)
    | _ => cases hturn

/-! ### What has been counted after a run -/

/-- The kinds of the deposits that were admitted in a run. -/
def admitted (fleet : Fleet) (steps : List Step) : List DepositKind :=
  (fleet.turns steps).filterMap Turn.admitted?

/-- The reasons that deposits were rejected for in a run. -/
def rejected (fleet : Fleet) (steps : List Step) : List RefusalKind :=
  (fleet.turns steps).filterMap Turn.rejected?

/-- The number of deposits and releases of a run that were answered with a failed transfer. -/
def failedTransfers (fleet : Fleet) (steps : List Step) : Nat :=
  (fleet.turns steps).countP Turn.failsTransfer

/-- What was consumed, after each deposit admitted in a run, in the block it was charged to. -/
def recorded (fleet : Fleet) (steps : List Step) : List Usd :=
  (fleet.turns steps).filterMap Turn.recorded?

/-- The number of deposits handed in during a run. -/
def sends (fleet : Fleet) (steps : List Step) : Nat :=
  (fleet.turns steps).countP fun turn => turn.call.isSend

/-- The number of deposits handed in that did not stop on a fault. -/
def answeredSends (fleet : Fleet) (steps : List Step) : Nat :=
  (fleet.turns steps).countP fun turn => turn.call.isSend && !turn.faults

theorem admissions_run {kind : DepositKind} {n : Nat}
    (h : (fleet.metrics.admissions kind).Equals n)
    (hfew : n + (fleet.admitted steps).count kind < 2 ^ 53) :
    ((fleet.run steps).metrics.admissions kind).Equals
      (n + (fleet.admitted steps).count kind) := by
  have hcount := Metrics.equals_take Metrics.admissions_record h
    ((fleet.turns steps).flatMap Turn.noted)
  rw [Turn.filterMap_noted Turn.admission?_noted] at hcount
  rw [metrics_run]
  exact hcount hfew

theorem rejections_run {reason : RefusalKind} {n : Nat}
    (h : (fleet.metrics.rejections reason).Equals n)
    (hfew : n + (fleet.rejected steps).count reason < 2 ^ 53) :
    ((fleet.run steps).metrics.rejections reason).Equals
      (n + (fleet.rejected steps).count reason) := by
  have hcount := Metrics.equals_take Metrics.rejections_record h
    ((fleet.turns steps).flatMap Turn.noted)
  rw [Turn.filterMap_noted Turn.rejection?_noted] at hcount
  rw [metrics_run]
  exact hcount hfew

theorem transferFailures_run
    (hfew : (fleet.metrics.transferFailures.getD 0).toNat + fleet.failedTransfers steps < 2 ^ 64) :
    ((fleet.run steps).metrics.transferFailures.getD 0).toNat
      = (fleet.metrics.transferFailures.getD 0).toNat + fleet.failedTransfers steps := by
  rw [metrics_run, Metrics.transferFailures_take, Turn.count_transferFailure_noted,
    UInt64.toNat_add, UInt64.toNat_ofNat']
  show (_ + fleet.failedTransfers steps % _) % _ = _
  omega

theorem blockConsumed_run (fleet : Fleet) (steps : List Step) :
    (fleet.run steps).metrics.blockConsumed
      = ((fleet.recorded steps).getLast?.map Usd.toDollars).or fleet.metrics.blockConsumed := by
  rw [metrics_run, Metrics.blockConsumed_take, Turn.filterMap_noted Turn.consumed?_noted]
  rfl

theorem metrics_of_still (fleet : Fleet) (index : Nat) {call : Call}
    (h : call.movesAssets = false) : (fleet.step (.call index call)).metrics = fleet.metrics := by
  rw [metrics_step, turn?]
  cases fleet.gateways[index]? with
  | none => rfl
  | some gateway =>
    rw [Option.map_some, Option.toList_some, List.flatMap_singleton, gateway.noted_of_still h]
    rfl

/-- The counts of some keys add up to the length, if there is nothing else. -/
theorem sum_counts {α : Type} [DecidableEq α] {keys : List α} (hnodup : keys.Nodup) {l : List α}
    (hall : ∀ a ∈ l, a ∈ keys) : (keys.map fun key => l.count key).sum = l.length := by
  rw [← List.sum_toFinset _ hnodup]
  have hsum := Multiset.sum_count_eq_card (m := (l : Multiset α)) (s := keys.toFinset)
    fun a ha => List.mem_toFinset.2 (hall a ha)
  simpa only [Multiset.coe_count, Multiset.coe_card] using hsum

theorem admitted_and_rejected (fleet : Fleet) (steps : List Step) :
    (Metrics.kindsByLabel.map fun kind => (fleet.admitted steps).count kind).sum
        + (RefusalKind.all.map fun reason => (fleet.rejected steps).count reason).sum
      = fleet.answeredSends steps := by
  have hkinds : ∀ kind ∈ fleet.admitted steps, kind ∈ Metrics.kindsByLabel := by
    intro kind _
    cases kind <;> decide
  have hreasons : ∀ reason ∈ fleet.rejected steps, reason ∈ RefusalKind.all := by
    intro reason _
    cases reason <;> decide
  rw [sum_counts (by decide) hkinds, sum_counts (by decide) hreasons]
  exact Turn.length_admitted_rejected _

/-- On well-formed gateways every deposit is answered. -/
theorem WellFormed.answeredSends_eq (h : fleet.WellFormed)
    (hsteps : ∀ step ∈ steps, step.WellFormed) : fleet.answeredSends steps = fleet.sends steps := by
  apply List.countP_congr
  intro turn hturn
  rw [Turn.faults_eq_false (h.turns hsteps turn hturn), Bool.not_false, Bool.and_true]

/-! ### The main result -/

/-- After any run of calls on any number of gateways, each count by kind has grown by the number of
deposits of this kind that were admitted, and each count by reason by the number of deposits that
were rejected for it; together they have grown by the number of deposits that were answered, which
on well-formed gateways are all that were handed in. The count of failed transfers has grown by the
number of deposits and releases answered with one. The consumption shown is what the last admitted
deposit left consumed in its own block, and no other call notes any. It is shown as the one number
that four roundings lead to, which is within one part in 2^51 of the consumption exactly if that is
below 2^128 dollars: multiples of 2^128 dollars are left out. Calls that move no assets change no
metric. Kinds and reasons are told apart by their labels. -/
theorem metrics_account_for_requests (fleet : Fleet) (steps : List Step) :
    let before := fleet.metrics
    let after := (fleet.run steps).metrics
    (∀ kind n, (before.admissions kind).Equals n →
      n + (fleet.admitted steps).count kind < 2 ^ 53 →
      (after.admissions kind).Equals (n + (fleet.admitted steps).count kind))
    ∧ (∀ reason n, (before.rejections reason).Equals n →
      n + (fleet.rejected steps).count reason < 2 ^ 53 →
      (after.rejections reason).Equals (n + (fleet.rejected steps).count reason))
    ∧ (Metrics.kindsByLabel.map fun kind => (fleet.admitted steps).count kind).sum
          + (RefusalKind.all.map fun reason => (fleet.rejected steps).count reason).sum
        = fleet.answeredSends steps
    ∧ (fleet.WellFormed → (∀ step ∈ steps, step.WellFormed) →
      fleet.answeredSends steps = fleet.sends steps)
    ∧ ((before.transferFailures.getD 0).toNat + fleet.failedTransfers steps < 2 ^ 64 →
      (after.transferFailures.getD 0).toNat
        = (before.transferFailures.getD 0).toNat + fleet.failedTransfers steps)
    ∧ (∀ turn : Turn, turn.reply.tallies.filterMap Tally.consumed? = turn.recorded?.toList)
    ∧ after.blockConsumed
        = ((fleet.recorded steps).getLast?.map Usd.toDollars).or before.blockConsumed
    ∧ (∀ usd : Usd, (∀ shown, usd.wrapped.ShownAs shown ↔ shown = usd.toDollars)
      ∧ (|usd.toDollars.value - usd.dollars| ≤ usd.dollars / 2 ^ 51
        ↔ usd.raw.val < 2 ^ 128 * 10 ^ 18))
    ∧ (∀ index call, call.movesAssets = false →
      ((fleet.run steps).step (.call index call)).metrics = after)
    ∧ (∀ a b : DepositKind, a.label = b.label → a = b)
    ∧ ∀ a b : RefusalKind, a.label = b.label → a = b := by
  refine ⟨fun _ _ => admissions_run, fun _ _ => rejections_run,
    fleet.admitted_and_rejected steps, fun hfleet => hfleet.answeredSends_eq,
    transferFailures_run, ?_, fleet.blockConsumed_run steps,
    fun usd => ⟨fun _ => Usd.shownAs_iff, usd.toDollars_error_le_iff⟩,
    fun index _ => (fleet.run steps).metrics_of_still index,
    fun _ _ => DepositKind.label_injective, fun _ _ => RefusalKind.label_injective⟩
  intro turn
  rw [Turn.reply, turn.gateway.tallies_perform turn.call]
  exact turn.consumed?_noted

/-! ### A fleet of two -/

def sampleFleet : Fleet := ⟨[.sample], .untouched⟩

/-- A deposit that is admitted, one that a failing vault does not take, a preview, one at a gateway
that has been paused meanwhile, and a release of more than is held. -/
def sampleSteps : List Step :=
  let deposit := Gateway.sampleRequest Gateway.sampleToken 60 [1]
  [.join { Gateway.sample with vault := Vault.empty.change (.failing true) },
    .call 0 (.send "first" Gateway.sampleAccount deposit Gateway.sampleGas),
    .call 1 (.send "second" Gateway.sampleAccount deposit Gateway.sampleGas),
    .call 0 (.preview deposit Gateway.sampleGas),
    .shift 1 { Gateway.sample with isPaused := true },
    .call 1 (.send "third" Gateway.sampleAccount deposit Gateway.sampleGas),
    .call 0 (.withdraw Gateway.sampleAccount Gateway.sampleToken (.ofUInt64 61)
      Gateway.sampleAccount)]

theorem sampleFleet_accounts :
    let after := (sampleFleet.run sampleSteps).metrics
    (after.admissions .fundsAndPayload).Equals 1 ∧ (after.rejections .transferFailed).Equals 1
      ∧ (after.rejections .paused).Equals 1 ∧ (after.transferFailures.getD 0).toNat = 2
      ∧ (∃ shown, after.blockConsumed = some shown ∧ shown.Equals 4)
      ∧ 1 + 2 = sampleFleet.sends sampleSteps := by
  have hsample := Gateway.sample_fresh.wellFormed
  have hfleet : sampleFleet.WellFormed := List.forall_mem_singleton.2 hsample
  have hsteps : ∀ step ∈ sampleSteps, step.WellFormed := by
    simp only [sampleSteps, List.forall_mem_cons, Step.WellFormed, true_and]
    exact ⟨⟨hsample.decimals, hsample.filed⟩, ⟨hsample.decimals, hsample.filed⟩,
      List.forall_mem_nil _⟩
  have hadmitted : sampleFleet.admitted sampleSteps = [.fundsAndPayload] := by decide +kernel
  have hrejected : sampleFleet.rejected sampleSteps = [.transferFailed, .paused] := by
    decide +kernel
  have hfailed : sampleFleet.failedTransfers sampleSteps = 2 := by decide +kernel
  have hrecorded : sampleFleet.recorded sampleSteps = [.ofDollars 4] := by decide +kernel
  have hfour : (Usd.ofDollars 4).toDollars.Equals 4 := by decide +kernel
  obtain ⟨hadmissions, hrejections, htogether, hanswered, hfailures, _, hconsumed, _⟩ :=
    metrics_account_for_requests sampleFleet sampleSteps
  rw [hadmitted] at hadmissions htogether
  rw [hrejected] at hrejections htogether
  rw [hfailed] at hfailures
  rw [hrecorded] at hconsumed
  exact ⟨hadmissions .fundsAndPayload 0 Binary64.equals_zero (by decide),
    hrejections .transferFailed 0 Binary64.equals_zero (by decide),
    hrejections .paused 0 Binary64.equals_zero (by decide), hfailures (by decide),
    ⟨_, hconsumed, hfour⟩, htogether.trans (hanswered hfleet hsteps)⟩

/-- All caps are lifted, and 2^128 dollars of native currency are deposited. -/
def hugeSteps : List Step := [
  .call 0 (.setCaps Gateway.sampleAccount (.ofDollars 1) ⟨.top⟩),
  .call 0 (.setBlockCap Gateway.sampleAccount ⟨.top⟩),
  .call 0 (.send "huge" Gateway.sampleAccount (Gateway.sampleRequest .native 0 [])
    ⟨2 ^ 128 * 5 * 10 ^ 14, by decide⟩)]

/-- The block has consumed what was deposited, and what is shown is nothing. -/
theorem hugeDeposit_shown_as_zero :
    sampleFleet.recorded hugeSteps = [⟨2 ^ 128 * 10 ^ 18, by decide⟩]
      ∧ (sampleFleet.run hugeSteps).metrics.blockConsumed = some .zero := by
  decide +kernel

end Fleet

end DepositGate
