import DepositGate.Proofs.Gateway.Run
import DepositGate.Proofs.Request

/-!
# What judging a deposit comes to

A deposit is charged to at most two records: that of the block budget if it has gas, and that of the
asset bridged if it has funds. Each is planned from the record that stands there, and neither plan
sees the other. Judging a deposit makes a plan without a look at the ledger, plans both records, and
asks the vault to take the legs; sending it stores what was planned and keeps the vault. A deposit
that fails on the way is answered with the first failure and leaves the gateway as it was.
-/

namespace DepositGate

/-- A deposit as it is handed in. -/
structure Submission where
  sender : Address
  request : Request
  value : Amount
deriving DecidableEq, Repr

namespace Submission

/-- The legs that a deposit is split into, none if it is of no kind. -/
def split? (submission : Submission) : Option Legs :=
  (submission.request.plan submission.value).toOption

/-- The native value that pays for gas. -/
def gas (submission : Submission) : Amount := (submission.split?.map Legs.gas).getD .zero

def funds? (submission : Submission) : Option FundsLeg := submission.split?.bind Legs.funds

/-- What the vault is asked to take, gas first. -/
def legs (submission : Submission) : List (Asset × Amount) :=
  (if submission.gas.isZero then [] else [(.native, submission.gas)]) ++
    (submission.funds?.map fun leg => (leg.asset, leg.amount)).toList

/-- Funds that are bridged are of the asset that the request names. -/
theorem asset_of_funds? {submission : Submission} {leg : FundsLeg}
    (h : submission.funds? = some leg) : leg.asset = submission.request.asset := by
  obtain ⟨split, hsplit, hfunds⟩ := Option.bind_eq_some_iff.1 h
  rw [split?] at hsplit
  cases hplan : submission.request.plan submission.value with
  | error failure =>
    rw [hplan] at hsplit
    cases hsplit
  | ok legs =>
    rw [hplan] at hsplit
    cases hsplit
    cases Request.splitInto_of_plan hplan with
    | instant => cases hfunds
    | bridged =>
      cases hfunds
      rfl

end Submission

/-- A plan with the records to store once it is carried out, none for a leg that is missing or whose
budget is off. -/
structure Charges where
  plan : Plan
  block : Option BlockBudget
  usage : Option TokenUsage
deriving DecidableEq, Repr

namespace Charges

/-- The epoch that the funds are charged to, if limiting is on. -/
def epoch? (charges : Charges) : Option UInt64 := charges.usage.map TokenUsage.epoch

def receipt (charges : Charges) (id : String) (block : UInt64) : Receipt :=
  ⟨id, charges.plan, block, charges.epoch?⟩

end Charges

/-- The receipt without the name that tells it from all others. -/
def Receipt.unnamed (receipt : Receipt) : Receipt := { receipt with id := "" }

namespace Ledger

/-- The block record to store for the gas of a plan. -/
def planGas (ledger : Ledger) (plan : Plan) (key : UInt64) : Except Failure (Option BlockBudget) :=
  if plan.hasGas then refusing (ledger.block.plan plan.gasUsd key) else .ok none

/-- The epoch record to store for the funds of a plan. -/
def planFunds (ledger : Ledger) (plan : Plan) (now : UInt64) :
    Except Failure (Option TokenUsage) :=
  match plan.funds with
  | none => .ok none
  | some leg =>
    planEpoch leg.asset (ledger.epochs.record leg.asset) leg.amount now ledger.epochs.duration

/-- The ledger with both records stored. -/
def charge (ledger : Ledger) (charges : Charges) : Ledger where
  block := charges.block.elim ledger.block ledger.block.apply
  epochs := charges.usage.elim ledger.epochs ledger.epochs.apply

@[simp] theorem duration_charge (ledger : Ledger) (charges : Charges) :
    (ledger.charge charges).epochs.duration = ledger.epochs.duration := by
  rw [charge]
  cases charges.usage <;> rfl

end Ledger

namespace Gateway

variable {gateway : Gateway} {submission : Submission} {plan : Plan} {charges : Charges}
  {vault : Vault} {failure : Failure}

/-- Sends a deposit under the name `id`. -/
def submit (gateway : Gateway) (id : String) (submission : Submission) : Reply Receipt :=
  gateway.send id submission.sender submission.request submission.value

/-- What a deposit is charged, by all rules but the vault's. -/
def judge (gateway : Gateway) (submission : Submission) : Except Failure Charges := do
  let plan ← gateway.check submission.request submission.value
  let block ← gateway.ledger.planGas plan gateway.clock.block
  let usage ← gateway.ledger.planFunds plan gateway.clock.now
  return ⟨plan, block, usage⟩

/-- What a deposit is charged and the vault that has taken it, by all rules. -/
def verdict (gateway : Gateway) (submission : Submission) : Except Failure (Charges × Vault) := do
  let charges ← gateway.judge submission
  let vault ← refusing (gateway.vault.depositBatch charges.plan.deposits submission.sender)
  return (charges, vault)

/-- The gateway once charges are stored and the vault has taken their deposit. -/
def charged (gateway : Gateway) (charges : Charges) (vault : Vault) : Gateway :=
  { gateway with ledger := gateway.ledger.charge charges, vault := vault }

@[simp] theorem ledger_charged (gateway : Gateway) (charges : Charges) (vault : Vault) :
    (gateway.charged charges vault).ledger = gateway.ledger.charge charges := rfl

/-! ### What a check finds -/

theorem of_examine {legs : Legs}
    (h : gateway.examine submission.request submission.value = .ok legs) :
    submission.split? = some legs := by
  obtain ⟨_, -, hrest⟩ := bind_eq_ok_iff.1 h
  obtain ⟨split, hsplit, hlegs⟩ := bind_eq_ok_iff.1 hrest
  rw [Submission.split?, hsplit]
  split at hlegs
  · cases hlegs
  · cases hlegs
    rfl

theorem of_check (h : gateway.check submission.request submission.value = .ok plan) :
    plan.gas = submission.gas ∧ plan.funds = submission.funds? := by
  obtain ⟨legs, hexamine, hrest⟩ := bind_eq_ok_iff.1 h
  obtain ⟨gasUsd, -, hplan⟩ := bind_eq_ok_iff.1 hrest
  rw [Submission.gas, Submission.funds?, of_examine hexamine]
  cases hplan
  exact ⟨rfl, rfl⟩

theorem deposits_of_check (h : gateway.check submission.request submission.value = .ok plan) :
    plan.deposits = submission.legs := by
  obtain ⟨hgas, hfunds⟩ := of_check h
  rw [Plan.deposits, Submission.legs, Plan.hasGas, hgas, hfunds]
  congr 1
  · cases submission.gas.isZero <;> rfl
  · cases submission.funds? <;> rfl

/-! ### Staging is planning -/

theorem drawGas_eq (gateway : Gateway) (plan : Plan) :
    gateway.drawGas plan = (gateway.ledger.planGas plan gateway.clock.block).map
      fun block => ⟨gateway.ledger, block, .empty⟩ := by
  rw [drawGas, Ledger.planGas]
  split
  · have hcurrent : gateway.ledger.begin.currentBlock = gateway.ledger.block := rfl
    rw [Ledger.Transaction.stageBlock, hcurrent]
    rcases gateway.ledger.block.plan plan.gasUsd gateway.clock.block with _ | _ | _ <;> rfl
  · rfl

/-- Past the gas the funds are staged from the record in the ledger, and the commit stores both. -/
theorem drawFunds_eq (gateway : Gateway) (plan : Plan) (block : Option BlockBudget) :
    (gateway.drawFunds plan ⟨gateway.ledger, block, .empty⟩).map
        (fun drawn => (drawn.1.commit, drawn.2))
      = (gateway.ledger.planFunds plan gateway.clock.now).map fun usage =>
        (gateway.ledger.charge ⟨plan, block, usage⟩, usage.map TokenUsage.epoch) := by
  rw [drawFunds, Ledger.planFunds]
  cases plan.funds with
  | none => cases block <;> rfl
  | some leg =>
    simp only [Ledger.Transaction.stageEpoch, Ledger.Transaction.currentRecord,
      SortedMap.find?_empty, Option.none_or]
    cases planEpoch leg.asset (gateway.ledger.epochs.record leg.asset) leg.amount
      gateway.clock.now gateway.ledger.epochs.duration with
    | error failure => rfl
    | ok planned => cases planned <;> cases block <;> rfl

/-- Drawing on both budgets commits what planning both records charges. -/
theorem draw_eq_charge (gateway : Gateway) (plan : Plan) :
    (gateway.draw plan).map (fun drawn => (drawn.1.commit, drawn.2))
      = (gateway.ledger.planGas plan gateway.clock.block).bind fun block =>
        (gateway.ledger.planFunds plan gateway.clock.now).map fun usage =>
          (gateway.ledger.charge ⟨plan, block, usage⟩, usage.map TokenUsage.epoch) := by
  rw [draw_eq, drawGas_eq]
  cases gateway.ledger.planGas plan gateway.clock.block with
  | error failure => rfl
  | ok block => exact gateway.drawFunds_eq plan block

theorem assess_eq_judge (gateway : Gateway) (submission : Submission) :
    (gateway.assess submission.request submission.value).map
        (fun staged => (staged.plan, staged.txn.commit, staged.epoch))
      = (gateway.judge submission).map fun charges =>
        (charges.plan, gateway.ledger.charge charges, charges.epoch?) := by
  rw [assess, judge]
  cases gateway.check submission.request submission.value with
  | error failure => rfl
  | ok plan =>
    calc
      _ = ((gateway.draw plan).map fun drawn => (drawn.1.commit, drawn.2)).map fun committed =>
          (plan, committed.1, committed.2) := by
        show Except.map _ (gateway.draw plan >>= fun drawn => _) = _
        cases gateway.draw plan <;> rfl
      _ = ((gateway.ledger.planGas plan gateway.clock.block).bind fun block =>
          (gateway.ledger.planFunds plan gateway.clock.now).map fun usage =>
            (gateway.ledger.charge ⟨plan, block, usage⟩, usage.map TokenUsage.epoch)).map
              fun committed => (plan, committed.1, committed.2) := by
        rw [draw_eq_charge]
      _ = _ := by
        show _ = Except.map _ (gateway.ledger.planGas plan gateway.clock.block >>= fun block =>
          gateway.ledger.planFunds plan gateway.clock.now >>= fun usage => _)
        cases gateway.ledger.planGas plan gateway.clock.block with
        | error failure => rfl
        | ok block => cases gateway.ledger.planFunds plan gateway.clock.now <;> rfl

/-! ### What sending comes to -/

/-- What a deposit is charged, by all rules. -/
def ruling (gateway : Gateway) (submission : Submission) : Except Failure Charges :=
  (gateway.verdict submission).map Prod.fst

theorem judge_eq_ok_iff : gateway.judge submission = .ok charges
    ↔ gateway.check submission.request submission.value = .ok charges.plan
      ∧ gateway.ledger.planGas charges.plan gateway.clock.block = .ok charges.block
      ∧ gateway.ledger.planFunds charges.plan gateway.clock.now = .ok charges.usage := by
  constructor
  · intro h
    obtain ⟨plan, hcheck, hrest⟩ := bind_eq_ok_iff.1 h
    obtain ⟨block, hblock, hrest⟩ := bind_eq_ok_iff.1 hrest
    obtain ⟨usage, husage, hcharges⟩ := bind_eq_ok_iff.1 hrest
    cases hcharges
    exact ⟨hcheck, hblock, husage⟩
  · intro ⟨hcheck, hblock, husage⟩
    exact bind_eq_ok_iff.2 ⟨_, hcheck,
      bind_eq_ok_iff.2 ⟨_, hblock, bind_eq_ok_iff.2 ⟨_, husage, rfl⟩⟩⟩

theorem verdict_eq_ok_iff : gateway.verdict submission = .ok (charges, vault)
    ↔ gateway.judge submission = .ok charges
      ∧ gateway.vault.depositBatch charges.plan.deposits submission.sender = .ok vault := by
  rw [verdict, bind_eq_ok_iff]
  constructor
  · intro ⟨judged, hjudge, hrest⟩
    obtain ⟨taken, hvault, hpair⟩ := bind_eq_ok_iff.1 hrest
    cases hpair
    exact ⟨hjudge, refusing_eq_ok_iff.1 hvault⟩
  · intro ⟨hjudge, hvault⟩
    exact ⟨charges, hjudge, bind_eq_ok_iff.2 ⟨vault, refusing_eq_ok_iff.2 hvault, rfl⟩⟩

theorem verdict_eq_error_iff : gateway.verdict submission = .error failure
    ↔ gateway.judge submission = .error failure
      ∨ ∃ charges why, gateway.judge submission = .ok charges
        ∧ gateway.vault.depositBatch charges.plan.deposits submission.sender = .error why
        ∧ failure = .refused why := by
  rw [verdict, bind_eq_error_iff]
  apply or_congr Iff.rfl
  constructor
  · intro ⟨charges, hjudge, hrest⟩
    rcases bind_eq_error_iff.1 hrest with hrefused | ⟨_, -, hnone⟩
    · cases failure with
      | fault what => exact absurd hrefused refusing_ne_fault
      | refused why => exact ⟨charges, why, hjudge, refusing_eq_refused_iff.1 hrefused, rfl⟩
    · cases hnone
  · intro ⟨charges, why, hjudge, hvault, hfailure⟩
    subst hfailure
    exact ⟨charges, hjudge, bind_eq_error_iff.2 (.inl (refusing_eq_refused_iff.2 hvault))⟩

/-- A deposit that fails is answered with its failure and changes nothing. -/
theorem submit_of_verdict_error (id : String) (h : gateway.verdict submission = .error failure) :
    (gateway.submit id submission).result = .error failure
      ∧ (gateway.submit id submission).gateway = gateway
      ∧ (gateway.submit id submission).events = [] := by
  have hagree := gateway.assess_eq_judge submission
  rcases verdict_eq_error_iff.1 h with hjudge | ⟨charges, why, hjudge, hvault, rfl⟩
  · rw [hjudge] at hagree
    exact send_of_assess_error id submission.sender (map_eq_error_iff.1 hagree)
  · rw [hjudge] at hagree
    obtain ⟨staged, hassess, hstaged⟩ := map_eq_ok_iff.1 hagree
    obtain ⟨hplan, -⟩ := Prod.mk.inj hstaged
    rw [← hplan] at hvault
    exact send_of_vault_error id hassess hvault

/-- A deposit that passes is answered with its receipt, its charges are stored, and its legs are in
the vault and announced. -/
theorem submit_of_verdict_ok (id : String)
    (h : gateway.verdict submission = .ok (charges, vault)) :
    (gateway.submit id submission).result = .ok (charges.receipt id gateway.clock.block)
      ∧ (gateway.submit id submission).gateway = gateway.charged charges vault
      ∧ (gateway.submit id submission).events
        = (announcements submission.sender submission.request charges.plan).map
          Event.deposited := by
  obtain ⟨hjudge, hvault⟩ := verdict_eq_ok_iff.1 h
  have hagree := gateway.assess_eq_judge submission
  rw [hjudge] at hagree
  obtain ⟨staged, hassess, hstaged⟩ := map_eq_ok_iff.1 hagree
  obtain ⟨hplan, hcommit, hepoch⟩ := Prod.mk.inj hstaged |>.imp_right Prod.mk.inj
  rw [← hplan] at hvault
  obtain ⟨hresult, hgateway, hevents⟩ := send_of_taken id hassess hvault
  rw [hplan, hepoch] at hresult
  rw [hplan] at hevents
  rw [settled, hcommit] at hgateway
  exact ⟨hresult, hgateway, hevents⟩

theorem result_submit (gateway : Gateway) (id : String) (submission : Submission) :
    (gateway.submit id submission).result = (gateway.ruling submission).map fun charges =>
      charges.receipt id gateway.clock.block := by
  rw [ruling]
  cases hverdict : gateway.verdict submission with
  | error failure => exact (submit_of_verdict_error id hverdict).1
  | ok passed => exact (submit_of_verdict_ok id hverdict).1

theorem events_submit (gateway : Gateway) (id : String) (submission : Submission) :
    (gateway.submit id submission).events = match gateway.ruling submission with
      | .ok charges => (announcements submission.sender submission.request charges.plan).map
          Event.deposited
      | .error _ => [] := by
  rw [ruling]
  cases hverdict : gateway.verdict submission with
  | error failure => exact (submit_of_verdict_error id hverdict).2.2
  | ok passed => exact (submit_of_verdict_ok id hverdict).2.2

end Gateway

end DepositGate
