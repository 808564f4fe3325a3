import DepositGate.Gateway.Deposit
import DepositGate.Proofs.Budget.Transaction

/-!
# What a deposit draws on the budgets

Drawing on the budgets is two steps of one transaction, the gas leg on the block budget and then the
funds leg on the epoch limit of its asset, and a leg that is missing draws nothing. If both succeed,
committing leaves what consuming directly would; otherwise the first step that fails says why.
Rolling back leaves what there was before the draw, and a preview does so.
-/

namespace DepositGate

namespace Gateway

open Ledger

variable {gateway : Gateway} {request : Request} {value : Amount} {plan : Plan}
  {txn : Transaction} {epoch : Option UInt64} {failure : Failure}

/-! ### The two steps -/

def drawGas (gateway : Gateway) (plan : Plan) : Except Failure Transaction :=
  if plan.hasGas then
    refusing (gateway.ledger.begin.stageBlock plan.gasUsd gateway.clock.block)
  else .ok gateway.ledger.begin

def drawFunds (gateway : Gateway) (plan : Plan) (txn : Transaction) :
    Except Failure (Transaction × Option UInt64) :=
  match plan.funds with
  | none => .ok (txn, none)
  | some leg => txn.stageEpoch leg.asset leg.amount gateway.clock.now

theorem draw_eq (gateway : Gateway) (plan : Plan) :
    gateway.draw plan = gateway.drawGas plan >>= gateway.drawFunds plan := by
  rw [draw, drawGas]
  split <;> rfl

/-- The block budget has room for the gas of a plan, if there is any. -/
def BlockHasRoom (gateway : Gateway) (plan : Plan) : Prop :=
  plan.hasGas = true → gateway.ledger.block.HasRoom plan.gasUsd gateway.clock.block

theorem drawGas_eq_error_iff (hfiled : gateway.ledger.epochs.Filed) :
    gateway.drawGas plan = .error failure
      ↔ ¬gateway.BlockHasRoom plan ∧ failure = .refused (.blockCapExceeded plan.gasUsd
        (gateway.ledger.block.consumedAt gateway.clock.block) gateway.ledger.block.cap) := by
  rw [drawGas, BlockHasRoom]
  by_cases hgas : plan.hasGas = true
  · rw [if_pos hgas]
    simp only [hgas, true_imp_iff]
    cases failure with
    | fault what => simp
    | refused why =>
      rw [refusing_eq_refused_iff, (Transaction.sound_begin hfiled).stageBlock_error_iff,
        Transaction.commit_begin, BlockBudget.consume_eq_error_iff, Failure.refused.injEq]
  · simp [hgas]

/-- The gas step draws on the block budget alone. -/
theorem of_drawGas (hfiled : gateway.ledger.epochs.Filed)
    (h : gateway.drawGas plan = .ok txn) :
    txn.Sound ∧ txn.base = gateway.ledger ∧ txn.commit.epochs = gateway.ledger.epochs
      ∧ ((plan.hasGas = true ∧ gateway.ledger.block.consume plan.gasUsd gateway.clock.block
          = .ok txn.commit.block)
        ∨ (plan.hasGas = false ∧ txn.commit.block = gateway.ledger.block)) := by
  have hbegin := Transaction.sound_begin hfiled
  rw [drawGas] at h
  by_cases hgas : plan.hasGas = true
  · rw [if_pos hgas, refusing_eq_ok_iff] at h
    obtain ⟨hsound, hbase, hepochs, hblock⟩ := hbegin.of_stageBlock h
    exact ⟨hsound, hbase, hepochs, .inl ⟨hgas, hblock⟩⟩
  · rw [if_neg hgas] at h
    cases h
    exact ⟨hbegin, rfl, rfl, .inr ⟨Bool.eq_false_iff.2 hgas, rfl⟩⟩

/-! ### Both steps -/

/-- The ledger once a plan has drawn on it, as if each leg had consumed on its own budget, and the
epoch that the funds are charged to. -/
structure Draws (gateway : Gateway) (plan : Plan) (epoch : Option UInt64) (after : Ledger) :
    Prop where
  gas : (plan.hasGas = true
      ∧ gateway.ledger.block.consume plan.gasUsd gateway.clock.block = .ok after.block)
    ∨ (plan.hasGas = false ∧ after.block = gateway.ledger.block)
  funds : (plan.funds = none ∧ epoch = none ∧ after.epochs = gateway.ledger.epochs)
    ∨ ∃ leg, plan.funds = some leg
      ∧ gateway.ledger.epochs.consume leg.asset leg.amount gateway.clock.now = .ok after.epochs
      ∧ epoch = if gateway.ledger.epochs.duration = 0 then none
          else some (gateway.clock.now / gateway.ledger.epochs.duration)

theorem of_draw (hfiled : gateway.ledger.epochs.Filed)
    (h : gateway.draw plan = .ok (txn, epoch)) : gateway.Draws plan epoch txn.commit := by
  rw [draw_eq] at h
  obtain ⟨first, hgas, hfunds⟩ := bind_eq_ok_iff.1 h
  obtain ⟨hsound, hbase, hepochs, hblock⟩ := of_drawGas hfiled hgas
  rw [drawFunds] at hfunds
  cases hleg : plan.funds with
  | none =>
    rw [hleg] at hfunds
    cases hfunds
    exact ⟨hblock, .inl ⟨hleg, rfl, hepochs⟩⟩
  | some leg =>
    rw [hleg] at hfunds
    obtain ⟨-, -, hsame, hconsume, hepoch⟩ := hsound.of_stageEpoch hfunds
    rw [hepochs] at hconsume
    rw [hbase] at hepoch
    rw [← hsame] at hblock
    exact ⟨hblock, .inr ⟨leg, hleg, hconsume, hepoch⟩⟩

/-- A draw fails on the block budget, or past it on the epoch limit of the funds. -/
theorem draw_eq_error_iff (hfiled : gateway.ledger.epochs.Filed) :
    gateway.draw plan = .error failure
      ↔ (¬gateway.BlockHasRoom plan ∧ failure = .refused (.blockCapExceeded plan.gasUsd
          (gateway.ledger.block.consumedAt gateway.clock.block) gateway.ledger.block.cap))
        ∨ (gateway.BlockHasRoom plan ∧ ∃ leg, plan.funds = some leg
          ∧ gateway.ledger.epochs.consume leg.asset leg.amount gateway.clock.now
            = .error failure) := by
  rw [draw_eq, bind_eq_error_iff, drawGas_eq_error_iff hfiled]
  apply or_congr Iff.rfl
  cases hgas : gateway.drawGas plan with
  | error why =>
    have hroom := ((drawGas_eq_error_iff hfiled).1 hgas).1
    simp [hroom]
  | ok first =>
    have hroom : gateway.BlockHasRoom plan := by
      by_contra hno
      have herror := (drawGas_eq_error_iff hfiled).2 ⟨hno, rfl⟩
      rw [hgas] at herror
      cases herror
    obtain ⟨hsound, hbase, hepochs, -⟩ := of_drawGas hfiled hgas
    simp only [Except.ok.injEq, exists_eq_left', hroom, true_and]
    rw [drawFunds]
    cases hleg : plan.funds with
    | none => simp
    | some leg =>
      simp only [Option.some.injEq, exists_eq_left']
      rw [hsound.stageEpoch_error_iff, hepochs]

/-- A staged request passed every rule that needs no budget, and drew on both. -/
theorem assess_eq_ok_iff {staged : Staged} : gateway.assess request value = .ok staged
    ↔ gateway.check request value = .ok staged.plan
      ∧ gateway.draw staged.plan = .ok (staged.txn, staged.epoch) := by
  rw [assess, bind_eq_ok_iff]
  constructor
  · intro ⟨plan, hcheck, h⟩
    obtain ⟨⟨txn, epoch⟩, hdraw, h⟩ := bind_eq_ok_iff.1 h
    cases h
    exact ⟨hcheck, hdraw⟩
  · intro ⟨hcheck, hdraw⟩
    exact ⟨staged.plan, hcheck, bind_eq_ok_iff.2 ⟨_, hdraw, rfl⟩⟩

theorem assess_of_check (hcheck : gateway.check request value = .ok plan) :
    gateway.assess request value = .error failure ↔ gateway.draw plan = .error failure := by
  rw [assess, hcheck]
  change (gateway.draw plan >>= fun drawn => Except.ok (⟨plan, drawn.1, drawn.2⟩ : Staged))
    = .error failure ↔ _
  rw [bind_eq_error_iff]
  simp

/-! ### Rolling back -/

theorem rollback_of_draw (h : gateway.draw plan = .ok (txn, epoch)) :
    txn.rollback = gateway.ledger := by
  rw [draw_eq] at h
  obtain ⟨first, hgas, hfunds⟩ := bind_eq_ok_iff.1 h
  have hfirst : first.base = gateway.ledger := by
    rw [drawGas] at hgas
    split at hgas
    · exact Transaction.base_of_stageBlock (refusing_eq_ok_iff.1 hgas)
    · cases hgas
      rfl
  rw [drawFunds] at hfunds
  split at hfunds
  · cases hfunds
    exact hfirst
  · exact (Transaction.base_of_stageEpoch hfunds).trans hfirst

/-- What is staged for a preview is rolled back, so the gateway stays as it is. -/
theorem gateway_preview (gateway : Gateway) (request : Request) (value : Amount) :
    (gateway.preview request value).gateway = gateway := by
  rw [preview]
  cases hassess : gateway.assess request value with
  | error failure => rfl
  | ok staged =>
    have hledger := rollback_of_draw (assess_eq_ok_iff.1 hassess).2
    dsimp only
    rw [hledger]

end Gateway

end DepositGate
