import DepositGate.Proofs.Gateway.Counts

/-!
# The block budget over a run

Whatever is called on a gateway and whatever happens around it, the record of the block budget
stands for the deposits charged to it: the ones admitted with gas while the budget was on. Caps may
be lowered, raised, turned off and on again at any point of the run, and block numbers may go back
and forth; none of it breaks the step by which one more admitted deposit carries the record on.
-/

namespace DepositGate

/-- What a turn charges to the block budget, if it admits gas while the budget is on. -/
def Turn.blockCharge? (turn : Turn) : Option Charge := do
  let receipt ← turn.receipt?
  let cap := turn.gateway.ledger.block.cap
  if receipt.plan.hasGas = true ∧ cap.isZero = false then
    some ⟨receipt.block, receipt.plan.gasUsd.raw.val, cap.raw.val⟩
  else none

namespace Gateway

variable {gateway : Gateway} {call : Call} {receipt : Receipt} {charges : List Charge}
  {request : Request} {value : Amount} {plan : Plan}

/-- All that a run charges to the block budget, oldest first. -/
def blockCharges (start : Gateway) (steps : List Step) : List Charge :=
  (start.turns steps).filterMap Turn.blockCharge?

theorem blockCharge?_of_no_receipt (h : Turn.receipt? ⟨gateway, call⟩ = none) :
    Turn.blockCharge? ⟨gateway, call⟩ = none := by
  rw [Turn.blockCharge?, h]
  rfl

theorem Counting.blockCharge?_eq (h : gateway.Counting call receipt) :
    Turn.blockCharge? ⟨gateway, call⟩
      = if receipt.plan.hasGas = true ∧ gateway.ledger.block.cap.isZero = false then
          some ⟨gateway.clock.block, receipt.plan.gasUsd.raw.val, gateway.ledger.block.cap.raw.val⟩
        else none := by
  rw [Turn.blockCharge?, h.admitted, ← h.block]
  rfl

theorem key_of_blockCharge? {turn : Turn} {charge : Charge} (h : turn.blockCharge? = some charge) :
    charge.key = turn.gateway.clock.block := by
  obtain ⟨gateway, call⟩ := turn
  rcases gateway.counting_or_countsAlike call with ⟨receipt, hcounting⟩ | ⟨hnone, -⟩
  · rw [hcounting.blockCharge?_eq] at h
    split at h
    · cases h
      rfl
    · cases h
  · rw [blockCharge?_of_no_receipt hnone] at h
    cases h

/-! ### The record stands for the charges -/

/-- The block record of the gateway stands for the charges. Records of epochs have to be filed for
the transaction of a deposit to commit what it staged. -/
structure BlockRecorded (gateway : Gateway) (charges : List Charge) : Prop where
  filed : gateway.ledger.epochs.Filed
  tracks : Charge.Tracks charges gateway.ledger.block.key gateway.ledger.block.consumed.raw.val

theorem Fresh.blockRecorded (h : gateway.Fresh) : gateway.BlockRecorded [] := by
  obtain ⟨hkey, hconsumed⟩ := h.block_unused
  refine ⟨h.filed, ?_⟩
  rw [hkey, hconsumed]
  exact Charge.tracks_nil

theorem BlockRecorded.change (h : gateway.BlockRecorded charges) (change : Change) :
    (gateway.change change).BlockRecorded charges :=
  ⟨(gateway.ledger_change change).symm ▸ h.filed, (gateway.ledger_change change).symm ▸ h.tracks⟩

theorem BlockRecorded.counting (h : gateway.BlockRecorded charges)
    (hcounting : gateway.Counting call receipt) :
    (gateway.perform call).gateway.BlockRecorded
      (charges ++ (Turn.blockCharge? ⟨gateway, call⟩).toList) := by
  refine ⟨hcounting.filed h.filed, ?_⟩
  rw [hcounting.blockCharge?_eq]
  rcases (hcounting.draws h.filed).gas with ⟨hhas, hconsume⟩ | ⟨hnone, hsame⟩
  · rcases BlockBudget.of_consume_eq_ok hconsume with ⟨hoff, hsame⟩ | ⟨hon, hkey, -, hsum, hle⟩
    · simp only [hoff, hsame]
      simpa using h.tracks
    · rw [if_pos ⟨hhas, hon⟩, hkey, hsum, BlockBudget.consumedAt_val]
      rw [BlockBudget.consumedAt_val] at hle
      exact h.tracks.concat ⟨gateway.clock.block, receipt.plan.gasUsd.raw.val, _⟩ hle
  · simp only [hnone, hsame]
    simpa using h.tracks

theorem BlockRecorded.perform (h : gateway.BlockRecorded charges) (call : Call) :
    (gateway.perform call).gateway.BlockRecorded
      (charges ++ (Turn.blockCharge? ⟨gateway, call⟩).toList) := by
  rcases gateway.counting_or_countsAlike call with ⟨receipt, hcounting⟩ | ⟨hnone, halike⟩
  · exact h.counting hcounting
  · rw [blockCharge?_of_no_receipt hnone]
    refine ⟨halike.filed h.filed, ?_⟩
    rw [halike.key, halike.consumed]
    simpa using h.tracks

theorem BlockRecorded.after (h : gateway.BlockRecorded []) (steps : List Step) :
    (gateway.after steps).BlockRecorded (gateway.blockCharges steps) :=
  note?_invariant Turn.blockCharge? BlockRecorded
    (fun _ call _ hbefore => hbefore.perform call)
    (fun _ change _ hbefore => hbefore.change change) h steps

/-! ### The rule of the block budget -/

theorem refusedAs_blockCapExceeded_iff (id : String) (sender : Address)
    (hfiled : gateway.ledger.epochs.Filed) (hcheck : gateway.check request value = .ok plan)
    (hgas : plan.hasGas = true) :
    (gateway.send id sender request value).RefusedAs .blockCapExceeded
      ↔ ¬gateway.ledger.block.HasRoom plan.gasUsd gateway.clock.block := by
  rw [refusedAs_iff_draw (by decide) hcheck]
  constructor
  · intro ⟨why, hdraw, hwhy⟩ hroom
    rcases (draw_eq_error_iff hfiled).1 hdraw with ⟨hno, -⟩ | ⟨-, leg, -, hconsume⟩
    · exact hno fun _ => hroom
    · rcases hfiled.consume_eq_error_iff.1 hconsume with ⟨-, heq⟩ | ⟨-, -, heq⟩
      all_goals
        cases heq
        cases hwhy
  · intro hno
    exact ⟨_, (draw_eq_error_iff hfiled).2 (.inl ⟨fun hroom => hno (hroom hgas), rfl⟩), rfl⟩

/-! ### Every run -/

/-- The block number never decreases from one call of a run to a later one. -/
def BlocksInOrder (start : Gateway) (steps : List Step) : Prop :=
  (start.turns steps).Pairwise fun a b => a.gateway.clock.block ≤ b.gateway.clock.block

theorem BlocksInOrder.inOrder_charges {start : Gateway} {steps : List Step}
    (h : start.BlocksInOrder steps) : Charge.InOrder (start.blockCharges steps) := by
  rw [Charge.InOrder, blockCharges, List.pairwise_filterMap]
  apply h.imp
  intro first second hle a ha b hb
  rw [key_of_blockCharge? ha, key_of_blockCharge? hb]
  exact hle

/-- After any run the record of the block budget holds the last block charged and the sum of the
charges to it, and each charge had room. A deposit with gas that passes the rules before the budgets
is refused by the block budget exactly if the budget is on and the sum of what is consumed in the
block and the gas exceeds the cap. If the charges are in order of their blocks, as they are if the
block number never decreases, the record holds all that was ever charged to its block, and what was
ever charged to any block stayed within the cap in force at each of its charges. -/
theorem block_record_stands_for_charges {start : Gateway} (hfresh : start.Fresh)
    (steps : List Step) :
    let gateway := start.after steps
    let charges := start.blockCharges steps
    let budget := gateway.ledger.block
    let consumed := budget.consumedAt gateway.clock.block
    Charge.Tracks charges budget.key budget.consumed.raw.val
      ∧ (∀ key, (budget.consumedAt key).raw.val = Charge.standing charges key)
      ∧ (∀ id sender request value plan, gateway.check request value = .ok plan →
        plan.hasGas = true →
        ((gateway.send id sender request value).RefusedAs .blockCapExceeded
            ↔ budget.cap.isZero = false
              ∧ budget.cap.raw.val < consumed.raw.val + plan.gasUsd.raw.val)
          ∧ ((gateway.send id sender request value).RefusedAs .blockCapExceeded →
            (gateway.send id sender request value).result
              = .error (.refused (.blockCapExceeded plan.gasUsd consumed budget.cap))))
      ∧ (start.BlocksInOrder steps → Charge.InOrder charges)
      ∧ (Charge.InOrder charges →
        budget.consumed.raw.val = Charge.totalUnder charges budget.key
          ∧ ∀ earlier charge, earlier ++ [charge] <+: charges →
            Charge.totalUnder (earlier ++ [charge]) charge.key ≤ charge.limit) := by
  intro gateway charges budget consumed
  have hrecorded := hfresh.blockRecorded.after steps
  refine ⟨hrecorded.tracks, ?_, ?_, BlocksInOrder.inOrder_charges, ?_⟩
  · intro key
    rw [BlockBudget.consumedAt_val]
    exact hrecorded.tracks.countedAt_eq key
  · intro id sender request value plan hcheck hgas
    have hiff := refusedAs_blockCapExceeded_iff id sender hrecorded.filed hcheck hgas
    constructor
    · rw [hiff, BlockBudget.HasRoom, not_or, Bool.not_eq_true, Nat.not_le]
    · intro hrefused
      have hno : ¬gateway.BlockHasRoom plan := fun hroom => hiff.1 hrefused (hroom hgas)
      exact send_of_draw_error id sender hcheck
        ((draw_eq_error_iff hrecorded.filed).2 (.inl ⟨hno, rfl⟩))
  · intro horder
    refine ⟨hrecorded.tracks.eq_totalUnder horder, ?_⟩
    intro earlier charge hinit
    exact hrecorded.tracks.within.totalUnder_le horder hinit

/-- Two deposits of four dollars in two blocks, and then the cap lowered to six dollars. -/
def sampleBlocks : List Step := [
  .call (.send "first" sampleAccount (sampleRequest .native 0 []) sampleGas),
  .change (.clock .nextBlock),
  .call (.send "second" sampleAccount (sampleRequest .native 0 []) sampleGas),
  .call (.setBlockCap sampleAccount (.ofDollars 6))]

/-- A third deposit of four dollars in the second block is refused, with what it asked for. -/
theorem sampleBlocks_stand_for_charges :
    sample.Fresh
      ∧ sample.blockCharges sampleBlocks
        = [⟨7, 4 * 10 ^ 18, 10 * 10 ^ 18⟩, ⟨8, 4 * 10 ^ 18, 10 * 10 ^ 18⟩]
      ∧ Charge.Tracks (sample.blockCharges sampleBlocks) 8 (4 * 10 ^ 18)
      ∧ ((sample.after sampleBlocks).send "third" sampleAccount (sampleRequest .native 0 [])
          sampleGas).result
        = .error (.refused (.blockCapExceeded (.ofDollars 4) (.ofDollars 4) (.ofDollars 6)))
      ∧ Charge.totalUnder (sample.blockCharges sampleBlocks) 8 ≤ 10 * 10 ^ 18 := by
  have hcharges : sample.blockCharges sampleBlocks
      = [⟨7, 4 * 10 ^ 18, 10 * 10 ^ 18⟩, ⟨8, 4 * 10 ^ 18, 10 * 10 ^ 18⟩] := by decide +kernel
  have hblock : (sample.after sampleBlocks).ledger.block = ⟨8, .ofDollars 4, .ofDollars 6⟩ := by
    decide +kernel
  have hclock : (sample.after sampleBlocks).clock = ⟨5000, 8⟩ := by decide +kernel
  have hcheck : (sample.after sampleBlocks).check (sampleRequest .native 0 []) sampleGas
      = .ok ⟨.gas, sampleGas, .ofDollars 4, none⟩ := by decide +kernel
  obtain ⟨htracks, -, hrule, -, horder⟩ := block_record_stands_for_charges sample_fresh sampleBlocks
  obtain ⟨hiff, hresult⟩ := hrule "third" sampleAccount _ _ _ hcheck (by decide)
  rw [hblock, hclock] at hiff hresult
  rw [hblock] at htracks
  refine ⟨sample_fresh, hcharges, htracks, hresult (hiff.2 (by decide)), ?_⟩
  rw [hcharges] at horder ⊢
  exact (horder (by decide)).2 [_] _ (List.prefix_refl _)

end Gateway

end DepositGate
