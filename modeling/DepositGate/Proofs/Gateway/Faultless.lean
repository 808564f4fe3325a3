import DepositGate.Proofs.Budget.Staging
import DepositGate.Proofs.Gateway.Conservation
import DepositGate.Proofs.Gateway.Preview
import DepositGate.Proofs.Vault.Batch

/-!
# Runs without faults

Operations on bounded numbers that have no result stop on a fault, and what the budgets are given to
store is asserted to be within their limits. Behind a valid configuration neither ever goes wrong:
whatever is called and whatever happens around it, each call ends in a result or a refusal, each
record that is stored is within its limit, and as long as the number of deposited legs can be
counted it is counted.

Each operation is guarded elsewhere. The powers of ten fit since the configuration bounds the
decimal places of the native currency, which no setter changes, and the check of a feed bounds those
of its answers. Differences are taken only of amounts that were compared before. An epoch is asked
for only while limiting is on.
-/

namespace DepositGate

namespace Gateway

open Ledger

variable {gateway : Gateway} {plan : Plan} {txn : Transaction} {epoch : Option UInt64}

/-! ### Calls -/

theorem faultless_release (gateway : Gateway) (caller : Address) (asset : Asset) (amount : Amount)
    (recipient : Address) : Faultless (gateway.release caller asset amount recipient) := by
  apply (faultless_refusing _).bind
  intro _ _
  apply (faultless_refusing _).bind
  intro _ _
  split
  · exact faultless_refused _
  · split
    · exact faultless_refused _
    · exact gateway.vault.faultless_release asset amount recipient

theorem faultless_releaseReply {result : Except Failure Vault} (h : Faultless result)
    (asset : Asset) (amount : Amount) (notice : Notice) (event : Event) :
    Faultless (gateway.releaseReply result asset amount notice event).result := by
  unfold releaseReply
  split
  · exact faultless_ok _
  · exact faultless_refused _
  · exact h.error

theorem faultless_administer (gateway : Gateway) (caller : Address) (next : Except Refusal Gateway)
    (notice : Notice) (event : Event) :
    Faultless (gateway.administer caller next notice event).result := by
  unfold administer
  split
  · exact faultless_refused _
  · exact faultless_refused _
  · exact faultless_ok _

theorem faultless_setPaused (gateway : Gateway) (caller : Address) (paused : Bool)
    (notice : Notice) (event : Event) :
    Faultless (gateway.setPaused caller paused notice event).result := by
  unfold setPaused
  split
  · exact faultless_refused _
  · exact faultless_ok _

theorem WellFormed.faultless_nativeBounds (h : gateway.WellFormed) :
    Faultless gateway.nativeBounds.result := by
  apply (gateway.oracle.faultless_quote gateway.clock.now).bind
  intro quote _
  have hdecimals := UInt8.le_iff_toNat_le.1 h.decimals
  exact faultless_computing
    ⟨_, gateway.policy.nativeBounds_eq quote.price (Nat.le_trans hdecimals (by decide))⟩

theorem WellFormed.faultless_send (h : gateway.WellFormed) (id : String) (sender : Address)
    (request : Request) (value : Amount) :
    Faultless (gateway.send id sender request value).result := by
  cases hstaged : gateway.assess request value with
  | error failure =>
    have hassess := h.faultless_assess request value
    rw [hstaged] at hassess
    rw [(send_of_assess_error id sender hstaged).1]
    exact hassess.error
  | ok staged =>
    cases hvault : gateway.vault.depositBatch staged.plan.deposits sender with
    | error why =>
      rw [(send_of_vault_error id hstaged hvault).1]
      exact faultless_refused _
    | ok vault =>
      rw [(send_of_taken id hstaged hvault).1]
      exact faultless_ok _

/-- On a well-formed gateway each call ends in a result or a refusal. -/
theorem WellFormed.faultless_perform (h : gateway.WellFormed) (call : Call) :
    Faultless (gateway.perform call).result := by
  cases call with
  | send id sender request value => exact (h.faultless_send id sender request value).map _
  | preview request value => exact ((h.faultless_assess request value).map _).map _
  | withdraw caller asset amount recipient =>
    exact (faultless_releaseReply (gateway.faultless_release caller asset amount recipient)
      _ _ _ _).map _
  | revert caller asset amount refund =>
    exact (faultless_releaseReply (gateway.faultless_release caller asset amount refund.recipient)
      _ _ _ _).map _
  | setCaps => exact (gateway.faultless_administer _ _ _ _).map _
  | setBlockCap => exact (gateway.faultless_administer _ _ _ _).map _
  | setThreshold => exact (gateway.faultless_administer _ _ _ _).map _
  | setEpochDuration => exact (gateway.faultless_administer _ _ _ _).map _
  | setFeed => exact (gateway.faultless_administer _ _ _ _).map _
  | setStalePeriod => exact (gateway.faultless_administer _ _ _ _).map _
  | setSequencer => exact (gateway.faultless_administer _ _ _ _).map _
  | pause => exact (gateway.faultless_setPaused _ _ _ _).map _
  | unpause => exact (gateway.faultless_setPaused _ _ _ _).map _
  | blockConsumed => exact faultless_ok _
  | usage asset => exact (gateway.ledger.epochs.faultless_usage asset gateway.clock.now).map _
  | nativeBounds => exact h.faultless_nativeBounds.map _
  | ledger => exact faultless_ok _

/-! ### What a deposit stores -/

/-- What a deposit has staged on the ledger is within its limits. -/
theorem within_of_draw (hfiled : gateway.ledger.epochs.Filed)
    (h : gateway.draw plan = .ok (txn, epoch)) :
    txn.base = gateway.ledger ∧ ∀ record ∈ txn.kept, record.Within := by
  rw [draw_eq] at h
  obtain ⟨first, hgas, hfunds⟩ := bind_eq_ok_iff.1 h
  obtain ⟨hsound, hbase, -, -⟩ := of_drawGas hfiled hgas
  have hfirst : ∀ record ∈ first.kept, record.Within := by
    rw [drawGas] at hgas
    by_cases hpaid : plan.hasGas = true
    · rw [if_pos hpaid] at hgas
      have hstage : gateway.ledger.begin.stage (.block plan.gasUsd gateway.clock.block)
          = .ok (first, none) := by
        rw [Transaction.stage, hgas]
        rfl
      exact (Transaction.sound_begin hfiled).within_of_stage (List.forall_mem_nil _) hstage
    · rw [if_neg hpaid] at hgas
      cases hgas
      exact List.forall_mem_nil _
  rw [drawFunds] at hfunds
  cases hleg : plan.funds with
  | none =>
    rw [hleg] at hfunds
    cases hfunds
    exact ⟨hbase, hfirst⟩
  | some leg =>
    rw [hleg] at hfunds
    obtain ⟨-, hsame, -⟩ := hsound.of_stageEpoch hfunds
    have hstage : first.stage (.epoch leg.asset leg.amount gateway.clock.now)
        = .ok (txn, epoch) := hfunds
    exact ⟨hsame.trans hbase, hsound.within_of_stage hfirst hstage⟩

end Gateway

/-! ### Turns -/

namespace Turn

/-- How many legs the turn deposits. -/
def legs (turn : Turn) : Nat :=
  match turn.receipt? with
  | some receipt => receipt.plan.deposits.length
  | none => 0

/-- No operation of the turn goes wrong, nor would one with another feed, sequencer or price. -/
structure Safe (turn : Turn) : Prop where
  /-- The call ends in a result or a refusal. -/
  faultless : Faultless turn.reply.result
  /-- Whatever is read from a feed and a sequencer is taken for a price or refused. -/
  anyFeed : ∀ (gate : Option SequencerGate) (reading : Reading),
    Faultless (Oracle.accept gate reading turn.gateway.oracle.window turn.gateway.clock.now)
  /-- Gas is judged at any price. The product on the way fits twice the width of an amount. -/
  anyPrice : ∀ price amount : Amount, Faultless (turn.gateway.policy.check price amount)
    ∧ ∃ product, CapPolicy.wide (amount.val * price.val) = .ok product
  /-- There are bounds in native currency at any price. -/
  anyBounds : ∀ price, ∃ bounds, turn.gateway.policy.nativeBounds price = .ok bounds
  /-- What a deposit changes in the ledger are the records that it has staged, and each of them is
  within its limit. -/
  stored : ∀ receipt, turn.receipt? = some receipt → ∃ txn : Ledger.Transaction,
    turn.gateway.draw receipt.plan = .ok (txn, receipt.epoch)
      ∧ turn.reply.gateway.ledger = txn.kept.foldl Ledger.store turn.gateway.ledger
      ∧ ∀ record ∈ txn.kept, record.Within

end Turn

namespace Gateway

variable {gateway : Gateway} {call : Call} {receipt : Receipt}

theorem WellFormed.safe (h : gateway.WellFormed) (call : Call) : Turn.Safe ⟨gateway, call⟩ := by
  have hdecimals := UInt8.le_iff_toNat_le.1 h.decimals
  refine ⟨h.faultless_perform call, ?_, ?_, ?_, ?_⟩
  · intro gate reading
    exact Oracle.faultless_accept gate reading _ _
  · intro price amount
    exact ⟨gateway.policy.faultless_check price amount hdecimals,
      ⟨_, CapPolicy.wide_product amount price⟩⟩
  · intro price
    exact ⟨_, gateway.policy.nativeBounds_eq price (Nat.le_trans hdecimals (by decide))⟩
  · intro receipt hreceipt
    rcases gateway.counting_or_countsAlike call with ⟨other, hcounting⟩ | ⟨hnone, -⟩
    · rw [hcounting.admitted, Option.some.injEq] at hreceipt
      subst hreceipt
      obtain ⟨txn, hdraw, hledger⟩ := hcounting.drawn
      obtain ⟨hbase, hwithin⟩ := within_of_draw h.filed hdraw
      refine ⟨txn, hdraw, ?_, hwithin⟩
      show (gateway.perform call).gateway.ledger = _
      rw [hledger, txn.commit_eq_foldl, hbase]
    · rw [hnone] at hreceipt
      cases hreceipt

/-! ### How many legs are deposited -/

/-- How many legs a run deposits. -/
def legsDeposited (start : Gateway) (steps : List Step) : Nat :=
  ((start.turns steps).map Turn.legs).sum

/-- The counter of the vault takes the legs of a turn, modulo 2^64. -/
theorem deposits_perform (gateway : Gateway) (call : Call) :
    (gateway.perform call).gateway.vault.deposits
      = gateway.vault.deposits + UInt64.ofNat (Turn.legs ⟨gateway, call⟩) := by
  have hnone : ∀ {vault : Vault}, Turn.receipt? ⟨gateway, call⟩ = none →
      vault.deposits = gateway.vault.deposits →
      vault.deposits = gateway.vault.deposits + UInt64.ofNat (Turn.legs ⟨gateway, call⟩) := by
    intro vault hreceipt hsame
    rw [Turn.legs, hreceipt, hsame]
    exact (UInt64.add_zero _).symm
  cases gateway.perform_effect call with
  | quiet hgateway _ hresult =>
    exact hnone (Turn.receipt?_eq_none hresult) (congrArg (·.vault.deposits) hgateway)
  | deposit staged vault _ hvault hresult hgateway =>
    have hreceipt : Turn.receipt? ⟨gateway, .send _ _ _ _⟩ = some _ :=
      Turn.receipt?_eq_some hresult
    rw [hgateway, Turn.legs, hreceipt]
    exact congrArg Vault.deposits (Vault.of_depositBatch hvault)
  | release _ _ _ _ vault _ hrelease _ hresult hgateway =>
    apply hnone (Turn.receipt?_of_done hresult)
    rw [hgateway]
    show vault.deposits = gateway.vault.deposits
    rw [Vault.of_release (of_release hrelease)]
  | govern next _ hgoverned hresult hgateway =>
    apply hnone (Turn.receipt?_of_done hresult)
    rw [hgateway, (settings_move_nothing hgoverned).1]

@[simp] theorem deposits_change (gateway : Gateway) (change : Change) :
    (gateway.change change).vault.deposits = gateway.vault.deposits := by
  cases change with
  | vault change => cases change <;> rfl
  | _ => rfl

/-- As long as the number of deposited legs can be counted, the vault counts it. -/
theorem deposits_counted (start : Gateway) (steps : List Step)
    (hfew : start.vault.deposits.toNat + start.legsDeposited steps < 2 ^ 64) :
    (start.after steps).vault.deposits.toNat
      = start.vault.deposits.toNat + start.legsDeposited steps := by
  induction steps generalizing start with
  | nil => rfl
  | cons step rest ih =>
    cases step with
    | change change =>
      have hrest := ih (start.change change)
      rw [deposits_change] at hrest
      exact hrest hfew
    | call call =>
      have hlegs : start.legsDeposited (.call call :: rest)
          = Turn.legs ⟨start, call⟩ + (start.perform call).gateway.legsDeposited rest := by
        rw [legsDeposited, turns, List.map_cons, List.sum_cons, legsDeposited]
      rw [hlegs] at hfew ⊢
      have hnext : (start.perform call).gateway.vault.deposits.toNat
          = start.vault.deposits.toNat + Turn.legs ⟨start, call⟩ := by
        have hfits : Turn.legs ⟨start, call⟩ < 2 ^ 64 := by omega
        rw [deposits_perform, UInt64.toNat_add, UInt64.toNat_ofNat_of_lt' hfits]
        exact Nat.mod_eq_of_lt (by omega)
      have hrest := ih (start.perform call).gateway (by omega)
      rw [after_call, hrest]
      omega

/-! ### Every run behind a valid configuration -/

/-- A valid configuration describes a gateway, with any feed, sequencer, roles and clock. Whatever
is called on it and happens around it, from any state of its vault and its pause switch on, every
turn is safe, and the legs deposited are counted as long as there are fewer than 2^64. -/
theorem runs_are_safe {config : Config} (hvalid : config.validate = .ok ()) (feed : Feed)
    (sequencer : Option SequencerStatus) (roles : Roles) (clock : Clock) :
    ∃ built, configure config feed sequencer roles clock = .ok built
      ∧ ∀ (vault : Vault) (paused : Bool) (steps : List Step),
        let start := { built with vault := vault, isPaused := paused }
        (∀ turn ∈ start.turns steps, turn.Safe)
          ∧ (vault.deposits.toNat + start.legsDeposited steps < 2 ^ 64 →
            (start.after steps).vault.deposits.toNat
              = vault.deposits.toNat + start.legsDeposited steps) := by
  obtain ⟨built, hbuilt⟩ := exists_configure hvalid feed sequencer roles clock
  refine ⟨built, hbuilt, ?_⟩
  intro vault paused steps start
  have hfresh : start.Fresh :=
    ⟨config, feed, sequencer, roles, clock, built, hbuilt, vault, paused, rfl⟩
  refine ⟨?_, deposits_counted start steps⟩
  intro turn hturn
  exact (hfresh.wellFormed_turns steps turn hturn).safe turn.call

/-- Limits up to the largest amount, a deposit of gas and funds together, and limiting turned off
while there are records. -/
def sampleExtremes : List Step := [
  .call (.setThreshold sampleAccount .native .top),
  .call (.setCaps sampleAccount (.ofDollars 1) ⟨.top⟩),
  .call (.setBlockCap sampleAccount ⟨.top⟩),
  .call .nativeBounds,
  .call (.send "both" sampleAccount (sampleRequest .native 5 [1]) sampleGas),
  .call (.setEpochDuration sampleAccount 0),
  .call (.usage .native),
  .call (.withdraw sampleAccount .native .top sampleAccount)]

theorem sampleExtremes_are_safe :
    sampleConfig.validate = .ok ()
      ∧ ∃ built, configure sampleConfig sampleFeed none
          (.ofMembers sampleAccount sampleAccount sampleAccount) ⟨5000, 7⟩ = .ok built
        ∧ built = sample
        ∧ (built.turns sampleExtremes).length = 8
        ∧ (∀ turn ∈ built.turns sampleExtremes, turn.Safe)
        ∧ (built.after sampleExtremes).vault.deposits.toNat = 2 := by
  have hvalid : sampleConfig.validate = .ok () := by decide +kernel
  obtain ⟨built, hbuilt, hsafe⟩ := runs_are_safe hvalid sampleFeed none
    (.ofMembers sampleAccount sampleAccount sampleAccount) ⟨5000, 7⟩
  have hsample : built = sample := by
    have h := hbuilt
    cases h
    rfl
  subst hsample
  obtain ⟨hturns, hcounted⟩ := hsafe .empty false sampleExtremes
  have hstart : { sample with vault := .empty, isPaused := false } = sample := rfl
  have hlegs : sample.legsDeposited sampleExtremes = 2 := by decide +kernel
  rw [hstart] at hturns
  simp only [hstart, hlegs] at hcounted
  exact ⟨hvalid, sample, hbuilt, rfl, by decide +kernel, hturns, hcounted (by decide)⟩

end Gateway

end DepositGate
