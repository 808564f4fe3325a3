import DepositGate.Budget.Ledger
import DepositGate.Proofs.Budget.Epoch

/-!
# Staging is consuming later

A transaction that is sound shows the ledger that committing it would leave: its current records are
the records of that ledger. Staging a step therefore succeeds and fails as consuming directly from
that ledger does, and committing after the step leaves what consuming leaves.
-/

namespace DepositGate.Ledger.Transaction

variable {txn next : Transaction} {usd : Usd} {key : UInt64} {asset : Asset} {amount : Amount}
  {now : UInt64} {why : Refusal} {failure : Failure} {epoch : Option UInt64}

/-- Records stand under the assets that they name, and a staged block record has the cap in
force. -/
structure Sound (txn : Transaction) : Prop where
  base : txn.base.epochs.Filed
  cap : ∀ staged, txn.block = some staged → staged.cap = txn.base.block.cap
  filed : ∀ asset usage, txn.records.find? asset = some usage → usage.asset = asset

theorem sound_begin {ledger : Ledger} (h : ledger.epochs.Filed) : ledger.begin.Sound where
  base := h
  cap := by
    intro staged hstaged
    cases hstaged
  filed := by
    intro asset usage hfound
    cases hfound

theorem commit_begin (ledger : Ledger) : ledger.begin.commit = ledger := rfl

/-! ### What committing leaves -/

theorem Sound.currentBlock_cap (h : txn.Sound) : txn.currentBlock.cap = txn.base.block.cap := by
  cases hblock : txn.block with
  | none => simp [currentBlock, hblock]
  | some staged => simp [currentBlock, hblock, h.cap staged hblock]

theorem Sound.commit_block (h : txn.Sound) : txn.commit.block = txn.currentBlock := by
  cases hblock : txn.block with
  | none => simp [commit, currentBlock, hblock]
  | some staged => simp [commit, currentBlock, hblock, BlockBudget.apply, ← h.cap staged hblock]

private theorem foldl_apply (entries : List (Asset × TokenUsage))
    (hfiled : ∀ e ∈ entries, e.2.asset = e.1) (limits : EpochLimits) :
    entries.foldl (fun limits e => limits.apply e.2) limits
      = ⟨limits.duration, entries.foldl (fun m e => m.insert e.1 e.2) limits.records⟩ := by
  induction entries generalizing limits with
  | nil => rfl
  | cons first rest ih =>
    rw [List.foldl_cons, List.foldl_cons, ih fun e he => hfiled e (List.mem_cons_of_mem _ he),
      EpochLimits.apply, hfiled first (List.mem_cons_self ..)]

theorem Sound.commit_epochs (h : txn.Sound) : txn.commit.epochs
    = ⟨txn.base.epochs.duration, txn.base.epochs.records.override txn.records⟩ := by
  refine foldl_apply txn.records.entries ?_ txn.base.epochs
  intro ⟨asset, usage⟩ hmem
  exact h.filed asset usage ((SortedMap.mem_entries_iff _ _ _).1 hmem)

theorem Sound.commit_duration (h : txn.Sound) :
    txn.commit.epochs.duration = txn.base.epochs.duration := by
  rw [h.commit_epochs]

theorem Sound.commit_record (h : txn.Sound) (asset : Asset) :
    txn.commit.epochs.record asset = txn.currentRecord asset := by
  rw [h.commit_epochs, EpochLimits.record, SortedMap.find?_override]
  rfl

theorem Sound.commit_filed (h : txn.Sound) : txn.commit.epochs.Filed := by
  intro asset usage hrecord
  rw [h.commit_record, currentRecord, Option.or_eq_some_iff] at hrecord
  rcases hrecord with hstaged | ⟨-, hbase⟩
  · exact h.filed asset usage hstaged
  · exact h.base asset usage hbase

/-! ### Steps -/

/-- Whatever is staged, the ledger below stays as it is. -/
theorem base_of_stageBlock (h : txn.stageBlock usd key = .ok next) : next.base = txn.base := by
  rw [stageBlock] at h
  split at h <;> cases h <;> rfl

theorem base_of_stageEpoch (h : txn.stageEpoch asset amount now = .ok (next, epoch)) :
    next.base = txn.base := by
  obtain ⟨planned, -, hnext⟩ := bind_eq_ok_iff.1 h
  cases planned <;> cases hnext <;> rfl

theorem Sound.stageBlock_error_iff (h : txn.Sound) :
    txn.stageBlock usd key = .error why ↔ txn.commit.block.consume usd key = .error why := by
  rw [stageBlock, BlockBudget.consume, h.commit_block]
  rcases txn.currentBlock.plan usd key with _ | _ | _ <;> simp

/-- A staged step on the block budget leaves the epoch limits alone. -/
theorem Sound.of_stageBlock (h : txn.Sound) (hstage : txn.stageBlock usd key = .ok next) :
    next.Sound ∧ next.base = txn.base ∧ next.commit.epochs = txn.commit.epochs
      ∧ txn.commit.block.consume usd key = .ok next.commit.block := by
  rw [stageBlock] at hstage
  rw [BlockBudget.consume, h.commit_block]
  rcases hplan : txn.currentBlock.plan usd key with _ | _ | staged
  · rw [hplan] at hstage
    cases hstage
  · rw [hplan] at hstage
    cases hstage
    exact ⟨h, rfl, rfl, congrArg Except.ok h.commit_block.symm⟩
  · rw [hplan] at hstage
    cases hstage
    have hcap := (BlockBudget.plan_eq_some_iff.1 hplan).2.2.1
    refine ⟨⟨h.base, ?_, h.filed⟩, rfl, rfl, ?_⟩
    · intro other hother
      cases hother
      exact hcap.trans h.currentBlock_cap
    · simp [commit, BlockBudget.apply, h.currentBlock_cap]

theorem Sound.stageEpoch_error_iff (h : txn.Sound) :
    txn.stageEpoch asset amount now = .error failure
      ↔ txn.commit.epochs.consume asset amount now = .error failure := by
  rw [EpochLimits.consume_eq_error_iff_planEpoch, stageEpoch, h.commit_record, h.commit_duration,
    bind_eq_error_iff]
  constructor
  · intro h
    rcases h with hplan | ⟨planned, -, hrest⟩
    · exact hplan
    · cases planned <;> cases hrest
  · exact .inl

theorem Sound.stageRecord (h : txn.Sound) {usage : TokenUsage} (hasset : usage.asset = asset) :
    Sound { txn with records := txn.records.insert asset usage } := by
  refine ⟨h.base, h.cap, ?_⟩
  intro other found hfound
  rw [SortedMap.find?_insert] at hfound
  split at hfound
  · rename_i hrank
    cases hfound
    exact hasset.trans (rank_injective hrank)
  · exact h.filed other found hfound

theorem Sound.commit_stageRecord (h : txn.Sound) (usage : TokenUsage)
    (hasset : usage.asset = asset) :
    commit { txn with records := txn.records.insert asset usage }
      = ⟨txn.commit.block, txn.commit.epochs.apply usage⟩ := by
  have hepochs := (h.stageRecord hasset).commit_epochs
  have hrecords : txn.base.epochs.records.override (txn.records.insert asset usage)
      = (txn.base.epochs.records.override txn.records).insert asset usage := by
    refine SortedMap.ext_find? fun other => ?_
    simp only [SortedMap.find?_insert, SortedMap.find?_override]
    split <;> rfl
  rw [hrecords] at hepochs
  rw [h.commit_epochs, EpochLimits.apply, hasset, ← hepochs]
  rfl

/-- A staged step on the epoch limits leaves the block budget alone, and tells the epoch that it is
charged to if limiting is on. -/
theorem Sound.of_stageEpoch (h : txn.Sound)
    (hstage : txn.stageEpoch asset amount now = .ok (next, epoch)) :
    next.Sound ∧ next.base = txn.base ∧ next.commit.block = txn.commit.block
      ∧ txn.commit.epochs.consume asset amount now = .ok next.commit.epochs
      ∧ epoch = if txn.base.epochs.duration = 0 then none
          else some (now / txn.base.epochs.duration) := by
  obtain ⟨planned, hplan, hnext⟩ := bind_eq_ok_iff.1 hstage
  rw [← h.commit_record, ← h.commit_duration] at hplan
  have hconsume := EpochLimits.consume_of_planEpoch hplan
  obtain ⟨usage, hrecord, -, -, hcase⟩ := EpochLimits.of_planEpoch_eq_ok hplan
  rw [h.commit_duration] at hcase
  rcases hcase with ⟨hoff, rfl⟩ | ⟨hon, total, -, rfl⟩
  · cases hnext
    exact ⟨h, rfl, rfl, hconsume, (if_pos hoff).symm⟩
  · cases hnext
    have hasset : usage.asset = asset := h.commit_filed asset usage hrecord
    have hcommit := h.commit_stageRecord
      { usage with epoch := now / txn.base.epochs.duration, used := total } hasset
    refine ⟨h.stageRecord hasset, rfl, ?_, ?_, (if_neg hon).symm⟩
    · rw [hcommit]
    · rw [hcommit]
      exact hconsume

end DepositGate.Ledger.Transaction
