import DepositGate.Proofs.Gateway.Verdict
import DepositGate.Proofs.Vault.Batch

/-!
# Gas and funds are judged apart

A deposit without gas is judged by the pause switch, the clock, the length of an epoch, the record
of its asset and the vault. A deposit without funds is judged by the pause switch, the clock, the
price and what it depends on, the caps, the record of the block and the vault. Two gateways that
agree on the one list or the other may differ in all else: they answer such a deposit alike, and
afterwards they still agree on that list. So nothing that concerns gas alone can stop or let in
bridged funds, and nothing that concerns epochs can stop or let in gas.
-/

namespace DepositGate.Gateway

variable {first second : Gateway} {asset : Asset} {submission : Submission} {plan : Plan}
  {charges : Charges} {vault vault' : Vault} {failure : Failure}

/-- The gateways agree on what a deposit of the asset without gas is judged by. -/
structure AlikeForFunds (asset : Asset) (first second : Gateway) : Prop where
  paused : first.isPaused = second.isPaused
  clock : first.clock = second.clock
  duration : first.ledger.epochs.duration = second.ledger.epochs.duration
  record : first.ledger.epochs.record asset = second.ledger.epochs.record asset
  vault : first.vault.Alike second.vault

/-- The gateways agree on what a deposit without funds is judged by. -/
structure AlikeForGas (first second : Gateway) : Prop where
  paused : first.isPaused = second.isPaused
  clock : first.clock = second.clock
  oracle : first.oracle = second.oracle
  policy : first.policy = second.policy
  block : first.ledger.block = second.ledger.block
  vault : first.vault.Alike second.vault

/-! ### What a check depends on -/

theorem examine_congr (hpaused : first.isPaused = second.isPaused) (request : Request)
    (value : Amount) : first.examine request value = second.examine request value := by
  rw [examine, examine, requireRunning, requireRunning, hpaused]

/-- Without gas nothing has a price, and the pause switch alone is looked at. -/
theorem check_congr_of_no_gas (hgas : submission.gas.isZero = true)
    (hpaused : first.isPaused = second.isPaused) :
    first.check submission.request submission.value
      = second.check submission.request submission.value := by
  rw [check, check, examine_congr hpaused]
  cases hexamine : second.examine submission.request submission.value with
  | error failure => rfl
  | ok legs =>
    have hzero : legs.gas.isZero = true := by
      rw [Submission.gas, of_examine hexamine] at hgas
      exact hgas
    have hprice : first.price legs.gas = second.price legs.gas := by
      rw [price, price, if_pos hzero, if_pos hzero]
    show (first.price legs.gas >>= fun gasUsd => _) = (second.price legs.gas >>= fun gasUsd => _)
    rw [hprice]

theorem check_congr (hpaused : first.isPaused = second.isPaused)
    (hclock : first.clock = second.clock) (horacle : first.oracle = second.oracle)
    (hpolicy : first.policy = second.policy) (request : Request) (value : Amount) :
    first.check request value = second.check request value := by
  have hprice : ∀ gas, first.price gas = second.price gas := by
    intro gas
    rw [price, price, quote, quote, horacle, hclock, hpolicy]
  rw [check, check, examine_congr hpaused]
  simp only [hprice]

/-! ### What a judgement depends on -/

/-- Two gateways judge a deposit alike if they check it alike and plan both records alike. -/
theorem judge_congr (hcheck : first.check submission.request submission.value
      = second.check submission.request submission.value)
    (hgas : ∀ plan, plan.gas = submission.gas →
      first.ledger.planGas plan first.clock.block = second.ledger.planGas plan second.clock.block)
    (hfunds : ∀ plan, plan.funds = submission.funds? →
      first.ledger.planFunds plan first.clock.now = second.ledger.planFunds plan second.clock.now) :
    first.judge submission = second.judge submission := by
  rw [judge, judge, hcheck]
  cases hplan : second.check submission.request submission.value with
  | error failure => rfl
  | ok plan =>
    obtain ⟨hsame, hbridged⟩ := of_check hplan
    show (first.ledger.planGas plan first.clock.block >>= fun block =>
        first.ledger.planFunds plan first.clock.now >>= fun usage => _)
      = (second.ledger.planGas plan second.clock.block >>= fun block =>
        second.ledger.planFunds plan second.clock.now >>= fun usage => _)
    rw [hgas plan hsame, hfunds plan hbridged]

theorem planGas_of_no_gas (hgas : plan.gas.isZero = true) (ledger : Ledger) (key : UInt64) :
    ledger.planGas plan key = .ok none := by
  rw [Ledger.planGas, Plan.hasGas, hgas]
  rfl

theorem planFunds_of_no_funds (hfunds : plan.funds = none) (ledger : Ledger) (now : UInt64) :
    ledger.planFunds plan now = .ok none := by
  rw [Ledger.planFunds, hfunds]

theorem AlikeForFunds.judge (h : AlikeForFunds submission.request.asset first second)
    (hgas : submission.gas.isZero = true) : first.judge submission = second.judge submission := by
  apply judge_congr (check_congr_of_no_gas hgas h.paused)
  · intro plan hplan
    rw [← hplan] at hgas
    rw [planGas_of_no_gas hgas, planGas_of_no_gas hgas]
  · intro plan hplan
    rw [Ledger.planFunds, Ledger.planFunds, hplan]
    cases hleg : submission.funds? with
    | none => rfl
    | some leg =>
      have hasset := Submission.asset_of_funds? hleg
      simp only [hasset, h.record, h.clock, h.duration]

theorem AlikeForGas.judge (h : AlikeForGas first second) (hfunds : submission.funds? = none) :
    first.judge submission = second.judge submission := by
  apply judge_congr (check_congr h.paused h.clock h.oracle h.policy _ _)
  · intro plan _
    rw [Ledger.planGas, Ledger.planGas, h.block, h.clock]
  · intro plan hplan
    rw [← hplan] at hfunds
    rw [planFunds_of_no_funds hfunds, planFunds_of_no_funds hfunds]

/-! ### What is stored -/

theorem AlikeForFunds.charged (h : AlikeForFunds asset first second) (charges : Charges)
    (hvault : vault.Alike vault') :
    AlikeForFunds asset (first.charged charges vault) (second.charged charges vault') := by
  refine ⟨h.paused, h.clock, ?_, ?_, hvault⟩
  · simp only [ledger_charged, Ledger.duration_charge, h.duration]
  · rw [ledger_charged, ledger_charged, Ledger.charge, Ledger.charge]
    cases charges.usage with
    | none => exact h.record
    | some usage => simp only [Option.elim_some, EpochLimits.record_apply, h.record]

theorem AlikeForGas.charged (h : AlikeForGas first second) (charges : Charges)
    (hvault : vault.Alike vault') :
    AlikeForGas (first.charged charges vault) (second.charged charges vault') := by
  refine ⟨h.paused, h.clock, h.oracle, h.policy, ?_, hvault⟩
  rw [ledger_charged, ledger_charged, Ledger.charge, Ledger.charge, h.block]

/-! ### Two gateways that judge alike -/

theorem verdict_error_alike (hjudge : first.judge submission = second.judge submission)
    (hvault : first.vault.Alike second.vault) (h : first.verdict submission = .error failure) :
    second.verdict submission = .error failure := by
  rw [verdict_eq_error_iff] at h ⊢
  rw [← hjudge]
  apply h.imp_right
  intro ⟨charges, why, hcharges, hrefused, hfailure⟩
  exact ⟨charges, why, hcharges, hvault.depositBatch_error hrefused, hfailure⟩

theorem verdict_ok_alike (hjudge : first.judge submission = second.judge submission)
    (hvault : first.vault.Alike second.vault)
    (h : first.verdict submission = .ok (charges, vault)) :
    ∃ vault', second.verdict submission = .ok (charges, vault') ∧ vault.Alike vault' := by
  obtain ⟨hcharges, htaken⟩ := verdict_eq_ok_iff.1 h
  obtain ⟨vault', htaken', halike⟩ := hvault.depositBatch_ok htaken
  exact ⟨vault', verdict_eq_ok_iff.2 ⟨hjudge ▸ hcharges, htaken'⟩, halike⟩

/-- Two gateways that judge a deposit alike and whose vaults agree answer it alike, under whatever
names it is sent, and go on agreeing on whatever its charges keep them agreeing on. -/
theorem submit_alike {Agree : Gateway → Gateway → Prop} (h : Agree first second)
    (hjudge : first.judge submission = second.judge submission)
    (hclock : first.clock = second.clock) (hvault : first.vault.Alike second.vault)
    (hcharged : ∀ charges vault vault', vault.Alike vault' →
      Agree (first.charged charges vault) (second.charged charges vault')) (id other : String) :
    let reply := first.submit id submission
    let reply' := second.submit other submission
    reply.result.map Receipt.unnamed = reply'.result.map Receipt.unnamed
      ∧ reply.events = reply'.events ∧ Agree reply.gateway reply'.gateway := by
  intro reply reply'
  cases hverdict : first.verdict submission with
  | error failure =>
    have hverdict' := verdict_error_alike hjudge hvault hverdict
    obtain ⟨hresult, hgateway, hevents⟩ := submit_of_verdict_error id hverdict
    obtain ⟨hresult', hgateway', hevents'⟩ := submit_of_verdict_error other hverdict'
    rw [hresult, hresult', hgateway, hgateway', hevents, hevents']
    exact ⟨rfl, rfl, h⟩
  | ok passed =>
    obtain ⟨charges, vault⟩ := passed
    obtain ⟨vault', hverdict', halike⟩ := verdict_ok_alike hjudge hvault hverdict
    obtain ⟨hresult, hgateway, hevents⟩ := submit_of_verdict_ok id hverdict
    obtain ⟨hresult', hgateway', hevents'⟩ := submit_of_verdict_ok other hverdict'
    rw [hresult, hresult', hgateway, hgateway', hevents, hevents', hclock]
    exact ⟨rfl, rfl, hcharged charges vault vault' halike⟩

/-- On two gateways that agree on the pause switch, the clock, the length of an epoch, the record of
an asset and the vault, a deposit of that asset without gas has the same result up to the name of
its receipt and is announced alike, and the gateways still agree on all of these. On two that agree
on the pause switch, the clock, the price source with its settings, the caps, the decimal places,
the record of the block and the vault, so does a deposit without funds. -/
theorem gas_and_funds_are_isolated (first second : Gateway) (submission : Submission)
    (id other : String) :
    let reply := first.submit id submission
    let reply' := second.submit other submission
    let asset := submission.request.asset
    (submission.gas.isZero = true → AlikeForFunds asset first second →
        reply.result.map Receipt.unnamed = reply'.result.map Receipt.unnamed
          ∧ reply.events = reply'.events
          ∧ AlikeForFunds asset reply.gateway reply'.gateway)
      ∧ (submission.funds? = none → AlikeForGas first second →
        reply.result.map Receipt.unnamed = reply'.result.map Receipt.unnamed
          ∧ reply.events = reply'.events ∧ AlikeForGas reply.gateway reply'.gateway) := by
  intro reply reply' asset
  constructor
  · intro hgas halike
    have hcharged : ∀ charges vault vault', vault.Alike vault' → AlikeForFunds asset
        (first.charged charges vault) (second.charged charges vault') :=
      fun charges _ _ => halike.charged charges
    exact submit_alike halike (halike.judge hgas) halike.clock halike.vault hcharged id other
  · intro hfunds halike
    have hcharged : ∀ charges vault vault', vault.Alike vault' → AlikeForGas
        (first.charged charges vault) (second.charged charges vault') :=
      fun charges _ _ => halike.charged charges
    exact submit_alike halike (halike.judge hfunds) halike.clock halike.vault hcharged id other

/-- The sample without a price, with next to no room for gas and with native currency
unsupported. -/
def sampleWithoutPrice : Gateway := sample.after [
  .change (.feed (.availability false)),
  .call (.setBlockCap sampleAccount ⟨.ofUInt64 1⟩),
  .call (.setThreshold sampleAccount .native .zero)]

/-- The sample with another length of epochs and with its token unsupported. -/
def sampleWithoutToken : Gateway := sample.after [
  .call (.setEpochDuration sampleAccount 60),
  .call (.setThreshold sampleAccount sampleToken .zero)]

def sampleTokenDeposit : Submission := ⟨sampleAccount, sampleRequest sampleToken 60 [], .zero⟩

def sampleGasDeposit : Submission := ⟨sampleAccount, sampleRequest .native 0 [], sampleGas⟩

/-- Without a price a token is bridged as ever, and without the token gas is bought as ever. -/
theorem sample_gas_and_funds_are_isolated :
    (sampleTokenDeposit.gas.isZero = true ∧ AlikeForFunds sampleToken sample sampleWithoutPrice
        ∧ (sampleWithoutPrice.submit "token" sampleTokenDeposit).result.map Receipt.unnamed
          = .ok ⟨"", ⟨.funds, .zero, .zero, some ⟨sampleToken, .ofUInt64 60⟩⟩, 7, some 1⟩)
      ∧ (sampleGasDeposit.funds? = none ∧ AlikeForGas sample sampleWithoutToken
        ∧ (sampleWithoutToken.submit "gas" sampleGasDeposit).result.map Receipt.unnamed
          = .ok ⟨"", ⟨.gas, sampleGas, .ofDollars 4, none⟩, 7, none⟩) := by
  have hgas : sampleTokenDeposit.gas.isZero = true := by decide +kernel
  have hfunds : sampleGasDeposit.funds? = none := by decide +kernel
  have hwithoutPrice : AlikeForFunds sampleToken sample sampleWithoutPrice :=
    ⟨by decide +kernel, by decide +kernel, by decide +kernel, by decide +kernel, .refl _⟩
  have hwithoutToken : AlikeForGas sample sampleWithoutToken :=
    ⟨by decide +kernel, by decide +kernel, by decide +kernel, by decide +kernel, by decide +kernel,
      .refl _⟩
  have htoken := ((gas_and_funds_are_isolated sample sampleWithoutPrice sampleTokenDeposit "sample"
    "token").1 hgas hwithoutPrice).1
  have hinstant := ((gas_and_funds_are_isolated sample sampleWithoutToken sampleGasDeposit "sample"
    "gas").2 hfunds hwithoutToken).1
  refine ⟨⟨hgas, hwithoutPrice, ?_⟩, hfunds, hwithoutToken, ?_⟩
  · rw [← htoken]
    decide +kernel
  · rw [← hinstant]
    decide +kernel

end DepositGate.Gateway
