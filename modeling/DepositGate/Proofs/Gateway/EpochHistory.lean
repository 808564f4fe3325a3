import DepositGate.Proofs.Gateway.Counts

/-!
# The epoch limits over a run

Whatever is called on a gateway and whatever happens around it, the record of an asset stands for
the deposits charged to it: the admitted ones with funds of that asset whose receipt names an epoch.
Turning limiting or the asset off and on again, and a new duration that brings old epoch numbers
back, leave the record as it is. Deposits of one asset never touch the record of another.
-/

namespace DepositGate

/-- What a turn charges to the epoch limit of an asset, if it admits funds of it while limiting is
on. -/
def Turn.fundsCharge? (asset : Asset) (turn : Turn) : Option Charge := do
  let receipt ← turn.receipt?
  let leg ← receipt.plan.funds
  let epoch ← receipt.epoch
  if leg.asset = asset then
    some ⟨epoch, leg.amount.val, (turn.gateway.ledger.epochs.threshold asset).val⟩
  else none

namespace Gateway

variable {gateway : Gateway} {call : Call} {receipt : Receipt} {charges : List Charge}
  {asset : Asset} {leg : FundsLeg} {epoch : UInt64} {request : Request} {value : Amount}
  {plan : Plan}

/-- All that a run charges to the epoch limit of an asset, oldest first. -/
def fundsCharges (asset : Asset) (start : Gateway) (steps : List Step) : List Charge :=
  (start.turns steps).filterMap (Turn.fundsCharge? asset)

theorem fundsCharge?_of_no_receipt (h : Turn.receipt? ⟨gateway, call⟩ = none) :
    Turn.fundsCharge? asset ⟨gateway, call⟩ = none := by
  rw [Turn.fundsCharge?, h]
  rfl

theorem Counting.fundsCharge?_of_no_funds (h : gateway.Counting call receipt)
    (hfunds : receipt.plan.funds = none) : Turn.fundsCharge? asset ⟨gateway, call⟩ = none := by
  rw [Turn.fundsCharge?, h.admitted]
  change (receipt.plan.funds >>= fun leg => _) = none
  rw [hfunds]
  rfl

theorem Counting.fundsCharge?_of_no_epoch (h : gateway.Counting call receipt)
    (hfunds : receipt.plan.funds = some leg) (hepoch : receipt.epoch = none) :
    Turn.fundsCharge? asset ⟨gateway, call⟩ = none := by
  rw [Turn.fundsCharge?, h.admitted]
  change (receipt.plan.funds >>= fun leg => receipt.epoch >>= fun epoch => _) = none
  rw [hfunds, hepoch]
  rfl

theorem Counting.fundsCharge?_eq (h : gateway.Counting call receipt)
    (hfunds : receipt.plan.funds = some leg) (hepoch : receipt.epoch = some epoch) :
    Turn.fundsCharge? asset ⟨gateway, call⟩
      = if leg.asset = asset then
          some ⟨epoch, leg.amount.val, (gateway.ledger.epochs.threshold asset).val⟩
        else none := by
  rw [Turn.fundsCharge?, h.admitted]
  change (receipt.plan.funds >>= fun leg => receipt.epoch >>= fun epoch => _) = _
  rw [hfunds, hepoch]
  rfl

/-! ### The record stands for the charges -/

/-- The counter of the asset stands for the charges, and an asset without a record has none. -/
structure EpochRecorded (asset : Asset) (gateway : Gateway) (charges : List Charge) : Prop where
  filed : gateway.ledger.epochs.Filed
  tracks : Charge.Tracks charges (gateway.ledger.epochs.counter asset).1
    (gateway.ledger.epochs.counter asset).2.val
  unknown : gateway.ledger.epochs.record asset = none → charges = []

theorem Fresh.epochRecorded (h : gateway.Fresh) (asset : Asset) :
    EpochRecorded asset gateway [] := by
  refine ⟨h.filed, ?_, fun _ => rfl⟩
  rw [h.counter_unused asset]
  exact Charge.tracks_nil

theorem EpochRecorded.change (h : EpochRecorded asset gateway charges) (change : Change) :
    EpochRecorded asset (gateway.change change) charges := by
  have hledger := gateway.ledger_change change
  exact ⟨hledger.symm ▸ h.filed, hledger.symm ▸ h.tracks, hledger.symm ▸ h.unknown⟩

/-- A turn that counts charges an asset nothing and leaves its counter alone, or charges it an
amount that has room and carries its counter on by it. Either way no record is dropped. -/
theorem Counting.charges_nothing_or_some (h : gateway.Counting call receipt)
    (hfiled : gateway.ledger.epochs.Filed) (asset : Asset) :
    let before := gateway.ledger.epochs
    let after := (gateway.perform call).gateway.ledger.epochs
    (Turn.fundsCharge? asset ⟨gateway, call⟩ = none ∧ after.counter asset = before.counter asset
        ∧ (after.record asset = none → before.record asset = none))
      ∨ ∃ charge, Turn.fundsCharge? asset ⟨gateway, call⟩ = some charge
        ∧ (after.counter asset).1 = charge.key
        ∧ (after.counter asset).2.val = (before.usedIn asset charge.key).val + charge.amount
        ∧ (before.usedIn asset charge.key).val + charge.amount ≤ charge.limit
        ∧ after.record asset ≠ none := by
  intro before after
  rcases (h.draws hfiled).funds with ⟨hfunds, -, hsame⟩ | ⟨leg, hleg, hconsume, hepoch⟩
  · refine .inl ⟨h.fundsCharge?_of_no_funds hfunds, congrArg (·.counter asset) hsame, ?_⟩
    intro hnone
    rwa [show after = before from hsame] at hnone
  have hkept : after.record asset = none → before.record asset = none :=
    EpochLimits.record_eq_none_of_consume hconsume
  by_cases hduration : before.duration = 0
  · rw [if_pos hduration] at hepoch
    have hsame : after = before := EpochLimits.eq_of_consume_off hconsume hduration
    exact .inl ⟨h.fundsCharge?_of_no_epoch hleg hepoch, congrArg (·.counter asset) hsame, hkept⟩
  rw [if_neg hduration] at hepoch
  rw [h.fundsCharge?_eq hleg hepoch]
  by_cases hasset : leg.asset = asset
  · subst hasset
    obtain ⟨hkey, hused, hfits⟩ := hfiled.counter_of_consume hconsume hduration
    refine .inr ⟨_, if_pos rfl, hkey, hused, hfits, ?_⟩
    intro hnone
    obtain ⟨usage, hrecord, -⟩ := EpochLimits.of_consume_eq_ok hconsume
    rw [hkept hnone] at hrecord
    cases hrecord
  · exact .inl ⟨if_neg hasset, hfiled.counter_of_consume_ne hconsume hasset, hkept⟩

theorem EpochRecorded.counting (h : EpochRecorded asset gateway charges)
    (hcounting : gateway.Counting call receipt) :
    EpochRecorded asset (gateway.perform call).gateway
      (charges ++ (Turn.fundsCharge? asset ⟨gateway, call⟩).toList) := by
  have hfiled := hcounting.filed h.filed
  rcases hcounting.charges_nothing_or_some h.filed asset with
    ⟨hnothing, hcounter, hkept⟩ | ⟨charge, hcharge, hkey, hused, hfits, hknown⟩
  · rw [hnothing, Option.toList_none, List.append_nil]
    refine ⟨hfiled, ?_, fun hnone => h.unknown (hkept hnone)⟩
    rw [hcounter]
    exact h.tracks
  · rw [hcharge, Option.toList_some]
    refine ⟨hfiled, ?_, fun hnone => absurd hnone hknown⟩
    rw [EpochLimits.usedIn_val] at hused hfits
    rw [hkey, hused]
    exact h.tracks.concat charge hfits

theorem EpochRecorded.perform (h : EpochRecorded asset gateway charges) (call : Call) :
    EpochRecorded asset (gateway.perform call).gateway
      (charges ++ (Turn.fundsCharge? asset ⟨gateway, call⟩).toList) := by
  rcases gateway.counting_or_countsAlike call with ⟨receipt, hcounting⟩ | ⟨hnone, halike⟩
  · exact h.counting hcounting
  · rw [fundsCharge?_of_no_receipt hnone]
    simp only [Option.toList_none, List.append_nil]
    refine ⟨halike.filed h.filed, ?_, fun hunknown => h.unknown (halike.known asset hunknown)⟩
    rw [halike.counter]
    exact h.tracks

theorem EpochRecorded.after (h : EpochRecorded asset gateway []) (steps : List Step) :
    EpochRecorded asset (gateway.after steps) (fundsCharges asset gateway steps) :=
  note?_invariant (Turn.fundsCharge? asset) (EpochRecorded asset)
    (fun _ call _ hbefore => hbefore.perform call)
    (fun _ change _ hbefore => hbefore.change change) h steps

/-! ### The rule of the epoch limits -/

/-- Funds that reach the epoch limits are refused for being unsupported or for lack of room. -/
theorem draw_eq_error_iff_of_room (hfiled : gateway.ledger.epochs.Filed)
    (hroom : gateway.BlockHasRoom plan) (hfunds : plan.funds = some leg) (why : Refusal) :
    gateway.draw plan = .error (.refused why)
      ↔ ((gateway.ledger.epochs.threshold leg.asset).isZero = true
          ∧ why = .tokenUnsupported leg.asset)
        ∨ ((gateway.ledger.epochs.threshold leg.asset).isZero = false
          ∧ ¬gateway.ledger.epochs.HasRoom leg.asset leg.amount gateway.clock.now
          ∧ why = .rateLimitExceeded leg.asset leg.amount
            (gateway.ledger.epochs.usedIn leg.asset
              (gateway.clock.now / gateway.ledger.epochs.duration))
            (gateway.ledger.epochs.threshold leg.asset)) := by
  rw [draw_eq_error_iff hfiled]
  simp only [hroom, not_true_eq_false, false_and, false_or, true_and, hfunds, Option.some.injEq,
    exists_eq_left', hfiled.consume_eq_error_iff, Failure.refused.injEq]

theorem refusedAs_tokenUnsupported_iff (id : String) (sender : Address)
    (hfiled : gateway.ledger.epochs.Filed) (hcheck : gateway.check request value = .ok plan)
    (hroom : gateway.BlockHasRoom plan) (hfunds : plan.funds = some leg) :
    (gateway.send id sender request value).RefusedAs .tokenUnsupported
      ↔ (gateway.ledger.epochs.threshold leg.asset).isZero = true := by
  rw [refusedAs_iff_draw (by decide) hcheck]
  constructor
  · intro ⟨why, hdraw, hwhy⟩
    rcases (draw_eq_error_iff_of_room hfiled hroom hfunds _).1 hdraw with ⟨hzero, -⟩ | ⟨-, -, rfl⟩
    · exact hzero
    · cases hwhy
  · intro hzero
    exact ⟨_, (draw_eq_error_iff_of_room hfiled hroom hfunds _).2 (.inl ⟨hzero, rfl⟩), rfl⟩

theorem refusedAs_rateLimitExceeded_iff (id : String) (sender : Address)
    (hfiled : gateway.ledger.epochs.Filed) (hcheck : gateway.check request value = .ok plan)
    (hroom : gateway.BlockHasRoom plan) (hfunds : plan.funds = some leg) :
    (gateway.send id sender request value).RefusedAs .rateLimitExceeded
      ↔ (gateway.ledger.epochs.threshold leg.asset).isZero = false
        ∧ ¬gateway.ledger.epochs.HasRoom leg.asset leg.amount gateway.clock.now := by
  rw [refusedAs_iff_draw (by decide) hcheck]
  constructor
  · intro ⟨why, hdraw, hwhy⟩
    rcases (draw_eq_error_iff_of_room hfiled hroom hfunds _).1 hdraw with ⟨-, rfl⟩ | ⟨hzero, hno, -⟩
    · cases hwhy
    · exact ⟨hzero, hno⟩
  · intro ⟨hzero, hno⟩
    exact ⟨_, (draw_eq_error_iff_of_room hfiled hroom hfunds _).2 (.inr ⟨hzero, hno, rfl⟩), rfl⟩

/-! ### Every run -/

theorem EpochRecorded.counter_perform (h : EpochRecorded asset gateway charges)
    (hnone : Turn.fundsCharge? asset ⟨gateway, call⟩ = none) :
    (gateway.perform call).gateway.ledger.epochs.counter asset
      = gateway.ledger.epochs.counter asset := by
  rcases gateway.counting_or_countsAlike call with ⟨receipt, hcounting⟩ | ⟨-, halike⟩
  · rcases hcounting.charges_nothing_or_some h.filed asset with
      ⟨-, hcounter, -⟩ | ⟨charge, hcharge, -⟩
    · exact hcounter
    · rw [hnone] at hcharge
      cases hcharge
  · exact halike.counter asset

/-- After any run the record of an asset is filed under it and holds the last epoch charged and the
sum of the charges to it, and each charge had room; a call that charges the asset nothing and a
change from outside leave its counter alone. Funds that reach the epoch limits are refused exactly
if the asset has no threshold above zero, or limiting is on and the sum of what is used in the
current epoch and the amount exceeds the threshold. If the charges are in order of their epochs,
what was ever charged to an epoch stayed within the threshold in force at each of its charges. -/
theorem epoch_record_stands_for_charges {start : Gateway} (hfresh : start.Fresh)
    (steps : List Step) (asset : Asset) :
    let gateway := start.after steps
    let charges := fundsCharges asset start steps
    let limits := gateway.ledger.epochs
    let threshold := limits.threshold asset
    let used := limits.usedIn asset (gateway.clock.now / limits.duration)
    (∀ usage, limits.record asset = some usage →
        usage.asset = asset ∧ Charge.Tracks charges usage.epoch usage.used.val)
      ∧ (limits.record asset = none → charges = [])
      ∧ (∀ epoch, (limits.usedIn asset epoch).val = Charge.standing charges epoch)
      ∧ (∀ call, Turn.fundsCharge? asset ⟨gateway, call⟩ = none →
        (gateway.perform call).gateway.ledger.epochs.counter asset = limits.counter asset)
      ∧ (∀ change, (gateway.change change).ledger.epochs.counter asset = limits.counter asset)
      ∧ (∀ id sender request value plan amount, gateway.check request value = .ok plan →
        plan.funds = some ⟨asset, amount⟩ → gateway.BlockHasRoom plan →
        ((gateway.send id sender request value).RefusedAs .tokenUnsupported
            ↔ threshold.isZero = true)
          ∧ ((gateway.send id sender request value).RefusedAs .rateLimitExceeded
            ↔ threshold.isZero = false ∧ limits.duration ≠ 0
              ∧ threshold.val < used.val + amount.val)
          ∧ ((gateway.send id sender request value).RefusedAs .tokenUnsupported →
            (gateway.send id sender request value).result
              = .error (.refused (.tokenUnsupported asset)))
          ∧ ((gateway.send id sender request value).RefusedAs .rateLimitExceeded →
            (gateway.send id sender request value).result
              = .error (.refused (.rateLimitExceeded asset amount used threshold))))
      ∧ (Charge.InOrder charges → ∀ earlier charge, earlier ++ [charge] <+: charges →
        Charge.totalUnder (earlier ++ [charge]) charge.key ≤ charge.limit) := by
  intro gateway charges limits threshold used
  have hrecorded := (hfresh.epochRecorded asset).after steps
  have hfiled := hrecorded.filed
  refine ⟨?_, hrecorded.unknown, ?_, ?_, ?_, ?_, ?_⟩
  · intro usage hrecord
    have htracks := hrecorded.tracks
    rw [EpochLimits.counter_of_record hrecord] at htracks
    exact ⟨hfiled asset usage hrecord, htracks⟩
  · intro epoch
    rw [EpochLimits.usedIn_val]
    exact hrecorded.tracks.countedAt_eq epoch
  · intro call hnone
    exact hrecorded.counter_perform hnone
  · intro change
    rw [ledger_change]
  · intro id sender request value plan amount hcheck hfunds hroom
    have hunsupported := refusedAs_tokenUnsupported_iff id sender hfiled hcheck hroom hfunds
    have hlimited := refusedAs_rateLimitExceeded_iff id sender hfiled hcheck hroom hfunds
    have hdraw := draw_eq_error_iff_of_room hfiled hroom hfunds
    refine ⟨hunsupported, ?_, ?_, ?_⟩
    · rw [hlimited, EpochLimits.HasRoom, not_or, Nat.not_le]
    · intro hrefused
      exact send_of_draw_error id sender hcheck
        ((hdraw _).2 (.inl ⟨hunsupported.1 hrefused, rfl⟩))
    · intro hrefused
      obtain ⟨hzero, hno⟩ := hlimited.1 hrefused
      exact send_of_draw_error id sender hcheck ((hdraw _).2 (.inr ⟨hzero, hno, rfl⟩))
  · intro horder earlier charge hinit
    exact hrecorded.tracks.within.totalUnder_le horder hinit

/-- Two deposits of a token in one epoch, and then its threshold lowered. -/
def sampleEpochs : List Step := [
  .call (.send "first" sampleAccount (sampleRequest sampleToken 60 []) .zero),
  .call (.send "second" sampleAccount (sampleRequest sampleToken 30 []) .zero),
  .call (.setThreshold sampleAccount sampleToken (.ofUInt64 95))]

/-- A third deposit in the epoch exceeds the lowered threshold, and turning limiting off leaves the
record as it is. -/
theorem sampleEpochs_stand_for_charges :
    sample.Fresh
      ∧ fundsCharges sampleToken sample sampleEpochs = [⟨1, 60, 100⟩, ⟨1, 30, 100⟩]
      ∧ Charge.Tracks (fundsCharges sampleToken sample sampleEpochs) 1 90
      ∧ ((sample.after sampleEpochs).send "third" sampleAccount (sampleRequest sampleToken 10 [])
          .zero).result
        = .error (.refused (.rateLimitExceeded sampleToken (.ofUInt64 10) (.ofUInt64 90)
          (.ofUInt64 95)))
      ∧ ((sample.after sampleEpochs).perform
          (.setEpochDuration sampleAccount 0)).gateway.ledger.epochs.counter sampleToken
        = (1, .ofUInt64 90)
      ∧ Charge.totalUnder (fundsCharges sampleToken sample sampleEpochs) 1 ≤ 100 := by
  have hcharges : fundsCharges sampleToken sample sampleEpochs = [⟨1, 60, 100⟩, ⟨1, 30, 100⟩] := by
    decide +kernel
  have hrecord : (sample.after sampleEpochs).ledger.epochs.record sampleToken
      = some ⟨sampleToken, 1, .ofUInt64 90, .ofUInt64 95⟩ := by decide +kernel
  have hcheck : (sample.after sampleEpochs).check (sampleRequest sampleToken 10 []) .zero
      = .ok ⟨.funds, .zero, .zero, some ⟨sampleToken, .ofUInt64 10⟩⟩ := by decide +kernel
  have hthreshold := EpochLimits.threshold_of_record hrecord
  have hused : (sample.after sampleEpochs).ledger.epochs.usedIn sampleToken
      ((sample.after sampleEpochs).clock.now / (sample.after sampleEpochs).ledger.epochs.duration)
        = .ofUInt64 90 := by decide +kernel
  obtain ⟨htracks, -, -, hkeep, -, hrule, horder⟩ :=
    epoch_record_stands_for_charges sample_fresh sampleEpochs sampleToken
  obtain ⟨-, hiff, -, hresult⟩ := hrule "third" sampleAccount _ _ _ _ hcheck rfl
    fun hgas => absurd hgas (by decide)
  rw [hthreshold, hused] at hiff hresult
  refine ⟨sample_fresh, hcharges, (htracks _ hrecord).2, ?_, ?_, ?_⟩
  · exact hresult (hiff.2 ⟨by decide, by decide +kernel, by decide⟩)
  · rw [hkeep _ (by decide +kernel), EpochLimits.counter_of_record hrecord]
  · rw [hcharges] at horder ⊢
    exact horder (by decide) [_] _ (List.prefix_refl _)

end Gateway

end DepositGate
