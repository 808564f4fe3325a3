import DepositGate.Proofs.Budget.Transaction

/-!
# A transaction does what consuming at once does

A use draws on one of the two budgets, and a ledger plans the record to store for it: none if the
budget is off. Consuming stores the planned record at once, and a transaction keeps it. Since a
sound transaction plans from the ledger that committing it would leave, a list of uses ends use by
use in the same way whether it is staged or consumed, and the commit leaves what consuming leaves.
Uses that fail stay without effect, and those after them go on from what there is.
-/

namespace DepositGate.Ledger

/-- A draw on one of the budgets. -/
inductive Use where
  | block (usd : Usd) (key : UInt64)
  | epoch (asset : Asset) (amount : Amount) (now : UInt64)
deriving DecidableEq, Repr

/-- What a budget is given to store. -/
inductive Record where
  | block (next : BlockBudget)
  | epoch (next : TokenUsage)
deriving DecidableEq, Repr

/-- What storing a record asserts of it. -/
def Record.Within : Record → Prop
  | .block next => next.Within
  | .epoch next => next.Within

variable {ledger next : Ledger} {use : Use} {record : Record}

def store (ledger : Ledger) : Record → Ledger
  | .block next => { ledger with block := ledger.block.apply next }
  | .epoch next => { ledger with epochs := ledger.epochs.apply next }

/-- The record to store for a use; none if its budget is off. -/
def plan (ledger : Ledger) : Use → Except Failure (Option Record)
  | .block usd key => (refusing (ledger.block.plan usd key)).map (Option.map Record.block)
  | .epoch asset amount now =>
    (planEpoch asset (ledger.epochs.record asset) amount now ledger.epochs.duration).map
      (Option.map Record.epoch)

def consume (ledger : Ledger) : Use → Except Failure Ledger
  | .block usd key =>
    (refusing (ledger.block.consume usd key)).map fun block => { ledger with block := block }
  | .epoch asset amount now =>
    (ledger.epochs.consume asset amount now).map fun epochs => { ledger with epochs := epochs }

/-- The budget that a use draws on is on. -/
def Enabled (ledger : Ledger) : Use → Prop
  | .block .. => ledger.block.cap.isZero = false
  | .epoch .. => ledger.epochs.duration ≠ 0

/-- The epoch that a use is charged to, if any. -/
def epochOf? (ledger : Ledger) : Use → Option UInt64
  | .block .. => none
  | .epoch _ _ now =>
    if ledger.epochs.duration = 0 then none else some (now / ledger.epochs.duration)

/-! ### Plans -/

theorem consume_eq (ledger : Ledger) (use : Use) :
    ledger.consume use = (ledger.plan use).map fun planned => planned.elim ledger ledger.store := by
  cases use with
  | block usd key =>
    rw [consume, plan, BlockBudget.consume]
    rcases ledger.block.plan usd key with _ | _ | next <;> rfl
  | epoch asset amount now =>
    rw [consume, plan]
    cases hplan : planEpoch asset (ledger.epochs.record asset) amount now
        ledger.epochs.duration with
    | error failure =>
      rw [EpochLimits.consume_eq_error_iff_planEpoch.2 hplan]
      rfl
    | ok planned =>
      rw [EpochLimits.consume_of_planEpoch hplan]
      cases planned <;> rfl

theorem of_plan_block {planned : Option Record} {usd : Usd} {key : UInt64}
    (h : ledger.plan (.block usd key) = .ok planned) :
    ∃ next, ledger.block.plan usd key = .ok next ∧ planned = next.map .block := by
  obtain ⟨next, hnext, rfl⟩ := map_eq_ok_iff.1 h
  exact ⟨next, refusing_eq_ok_iff.1 hnext, rfl⟩

theorem of_plan_epoch {planned : Option Record} {asset : Asset} {amount : Amount} {now : UInt64}
    (h : ledger.plan (.epoch asset amount now) = .ok planned) :
    ∃ next, planEpoch asset (ledger.epochs.record asset) amount now ledger.epochs.duration
        = .ok next
      ∧ planned = next.map .epoch := by
  obtain ⟨next, hnext, rfl⟩ := map_eq_ok_iff.1 h
  exact ⟨next, hnext, rfl⟩

/-- A record is planned exactly of a budget that is on. -/
theorem isSome_plan_iff {planned : Option Record} (h : ledger.plan use = .ok planned) :
    planned.isSome = true ↔ ledger.Enabled use := by
  cases use with
  | block usd key =>
    obtain ⟨next, hnext, rfl⟩ := of_plan_block h
    cases next with
    | none => simp [Enabled, BlockBudget.plan_eq_none_iff.1 hnext]
    | some next => simp [Enabled, (BlockBudget.plan_eq_some_iff.1 hnext).1]
  | epoch asset amount now =>
    obtain ⟨next, hnext, rfl⟩ := of_plan_epoch h
    obtain ⟨_, -, -, -, ⟨hoff, rfl⟩ | ⟨hon, _, -, rfl⟩⟩ := EpochLimits.of_planEpoch_eq_ok hnext
    · simp [Enabled, hoff]
    · simp [Enabled, hon]

theorem within_of_plan (h : ledger.plan use = .ok (some record)) : record.Within := by
  cases use with
  | block usd key =>
    obtain ⟨next, hnext, hrecord⟩ := of_plan_block h
    obtain ⟨planned, rfl, rfl⟩ := Option.map_eq_some_iff.1 hrecord.symm
    obtain ⟨-, -, hcap, hconsumed, hle⟩ := BlockBudget.plan_eq_some_iff.1 hnext
    refine .inr (Usd.le_iff.2 ?_)
    rw [hconsumed, hcap]
    exact hle
  | epoch asset amount now =>
    obtain ⟨next, hnext, hrecord⟩ := of_plan_epoch h
    obtain ⟨planned, rfl, rfl⟩ := Option.map_eq_some_iff.1 hrecord.symm
    obtain ⟨usage, hstored, -, hroom, ⟨-, hnone⟩ | ⟨hon, total, htotal, hsome⟩⟩ :=
      EpochLimits.of_planEpoch_eq_ok hnext
    · cases hnone
    · cases hsome
      refine .inr (Amount.le_iff.2 ?_)
      have hle := hroom.resolve_left hon
      rw [EpochLimits.threshold_of_record hstored] at hle
      exact htotal.trans_le hle

/-! ### Transactions plan from the ledger that they show -/

namespace Transaction

variable {txn : Transaction}

/-- Keeps a record for the commit. -/
def keep (txn : Transaction) : Record → Transaction
  | .block next => { txn with block := some next }
  | .epoch next => { txn with records := txn.records.insert next.asset next }

def stage (txn : Transaction) : Use → Except Failure (Transaction × Option UInt64)
  | .block usd key => (refusing (txn.stageBlock usd key)).map fun next => (next, none)
  | .epoch asset amount now => txn.stageEpoch asset amount now

theorem Sound.stage_eq (h : txn.Sound) (use : Use) :
    txn.stage use = (txn.commit.plan use).map fun planned =>
      (planned.elim txn txn.keep, txn.base.epochOf? use) := by
  cases use with
  | block usd key =>
    rw [stage, stageBlock, plan, h.commit_block]
    rcases txn.currentBlock.plan usd key with _ | _ | next <;> rfl
  | epoch asset amount now =>
    rw [stage, stageEpoch, plan, ← h.commit_record, ← h.commit_duration]
    cases hplan : planEpoch asset (txn.commit.epochs.record asset) amount now
        txn.commit.epochs.duration with
    | error failure => rfl
    | ok planned =>
      obtain ⟨usage, hrecord, -, -, ⟨hoff, rfl⟩ | ⟨hon, total, -, rfl⟩⟩ :=
        EpochLimits.of_planEpoch_eq_ok hplan
      · rw [h.commit_duration] at hoff
        simp [Except.map, bind, Except.bind, epochOf?, hoff]
        rfl
      · have hasset : usage.asset = asset := h.commit_filed asset usage hrecord
        rw [h.commit_duration] at hon
        simp [Except.map, bind, Except.bind, epochOf?, hon, keep, hasset, h.commit_duration]
        rfl

theorem Sound.commit_cap (h : txn.Sound) : txn.commit.block.cap = txn.base.block.cap := by
  rw [h.commit_block, h.currentBlock_cap]

/-- A planned record that is kept shows as if it were stored. -/
theorem Sound.keep (h : txn.Sound) (hplan : txn.commit.plan use = .ok (some record)) :
    (txn.keep record).Sound ∧ (txn.keep record).commit = txn.commit.store record := by
  cases use with
  | block usd key =>
    obtain ⟨next, hnext, hrecord⟩ := of_plan_block hplan
    obtain ⟨planned, rfl, rfl⟩ := Option.map_eq_some_iff.1 hrecord.symm
    obtain ⟨-, -, hcap, -⟩ := BlockBudget.plan_eq_some_iff.1 hnext
    rw [h.commit_cap] at hcap
    refine ⟨⟨h.base, ?_, h.filed⟩, ?_⟩
    · intro staged hstaged
      cases hstaged
      exact hcap
    · show Ledger.mk (txn.base.block.apply planned) txn.commit.epochs = _
      rw [store, BlockBudget.apply, BlockBudget.apply, h.commit_cap]
  | epoch asset amount now =>
    obtain ⟨next, -, hrecord⟩ := of_plan_epoch hplan
    obtain ⟨planned, -, rfl⟩ := Option.map_eq_some_iff.1 hrecord.symm
    exact ⟨h.stageRecord rfl, h.commit_stageRecord planned rfl⟩

@[simp] theorem base_keep (txn : Transaction) (record : Record) :
    (txn.keep record).base = txn.base := by
  cases record <;> rfl

theorem isDirty_keep (txn : Transaction) (record : Record) : (txn.keep record).isDirty = true := by
  cases record with
  | block next => rfl
  | epoch next => simp [keep, isDirty, SortedMap.isEmpty_insert]

/-- What a commit gives the budgets to store, in its order. -/
def kept (txn : Transaction) : List Record :=
  txn.block.toList.map .block ++ txn.records.entries.map fun entry => .epoch entry.2

theorem commit_eq_foldl (txn : Transaction) : txn.commit = txn.kept.foldl store txn.base := by
  have hepochs : ∀ (entries : List (Asset × TokenUsage)) (ledger : Ledger),
      (entries.map fun entry => Record.epoch entry.2).foldl store ledger
        = ⟨ledger.block,
          entries.foldl (fun limits entry => limits.apply entry.2) ledger.epochs⟩ := by
    intro entries
    induction entries with
    | nil => exact fun _ => rfl
    | cons entry rest ih => exact fun ledger => ih _
  rw [kept, List.foldl_append, hepochs, commit]
  cases txn.block <;> rfl

theorem mem_kept_keep {other : Record} (h : other ∈ (txn.keep record).kept) :
    other ∈ txn.kept ∨ other = record := by
  rw [kept, List.mem_append] at h ⊢
  cases record with
  | block next =>
    rcases h with hblock | hrecords
    · exact .inr (by simpa [keep, eq_comm] using hblock)
    · exact .inl (.inr hrecords)
  | epoch next =>
    rcases h with hblock | hrecords
    · exact .inl (.inl hblock)
    · obtain ⟨entry, hentry, rfl⟩ := List.mem_map.1 hrecords
      rcases SortedMap.mem_insertIn hentry with rfl | hbefore
      · exact .inr rfl
      · exact .inl (.inr (List.mem_map.2 ⟨entry, hbefore, rfl⟩))

end Transaction

/-! ### One use after the other -/

/-- The ledger after a use, which a failing one leaves as it was. -/
def attempt (ledger : Ledger) (use : Use) : Ledger :=
  (ledger.consume use).toOption.getD ledger

/-- The ledger after a list of uses, and how each of them ended. -/
def consumeAll (ledger : Ledger) : List Use → Ledger × List (Use × Except Failure Unit)
  | [] => (ledger, [])
  | use :: rest =>
    let (final, outcomes) := (ledger.attempt use).consumeAll rest
    (final, (use, (ledger.consume use).map fun _ => ()) :: outcomes)

/-- All that the budgets are given to store while a list of uses is consumed. -/
def stored (ledger : Ledger) : List Use → List Record
  | [] => []
  | use :: rest => (ledger.plan use).toOption.join.toList ++ (ledger.attempt use).stored rest

namespace Transaction

def attempt (txn : Transaction) (use : Use) : Transaction :=
  ((txn.stage use).map Prod.fst).toOption.getD txn

/-- The transaction after a list of uses, and how each of them ended: if it did not fail, with the
epoch that it is charged to. -/
def stageAll (txn : Transaction) :
    List Use → Transaction × List (Use × Except Failure (Option UInt64))
  | [] => (txn, [])
  | use :: rest =>
    let (final, outcomes) := (txn.attempt use).stageAll rest
    (final, (use, (txn.stage use).map Prod.snd) :: outcomes)

end Transaction

theorem attempt_of_plan {planned : Option Record} (h : ledger.plan use = .ok planned) :
    ledger.attempt use = planned.elim ledger ledger.store := by
  rw [attempt, consume_eq, h]
  rfl

theorem attempt_of_error {failure : Failure} (h : ledger.plan use = .error failure) :
    ledger.attempt use = ledger := by
  rw [attempt, consume_eq, h]
  rfl

theorem foldl_stored (ledger : Ledger) (uses : List Use) :
    (ledger.stored uses).foldl store ledger = (ledger.consumeAll uses).1 := by
  induction uses generalizing ledger with
  | nil => rfl
  | cons use rest ih =>
    rw [stored, consumeAll, List.foldl_append]
    cases hplan : ledger.plan use with
    | error failure =>
      have hsame := attempt_of_error hplan
      rw [hsame]
      exact ih ledger
    | ok planned =>
      have hnext := attempt_of_plan hplan
      rw [hnext]
      cases planned with
      | none => exact ih ledger
      | some record => exact ih (ledger.store record)

theorem within_of_stored (ledger : Ledger) (uses : List Use) :
    ∀ record ∈ ledger.stored uses, record.Within := by
  induction uses generalizing ledger with
  | nil => exact List.forall_mem_nil _
  | cons use rest ih =>
    intro record hrecord
    rcases List.mem_append.1 hrecord with hnow | hlater
    · cases hplan : ledger.plan use with
      | error failure => simp [hplan, Except.toOption] at hnow
      | ok planned =>
        cases planned with
        | none => simp [hplan, Except.toOption] at hnow
        | some next =>
          have hsame : record = next := by simpa [hplan, Except.toOption] using hnow
          exact hsame ▸ within_of_plan hplan
    · exact ih (ledger.attempt use) record hlater

namespace Transaction

variable {txn : Transaction}

/-! ### Staging one use after the other -/

theorem Sound.attempt_of_plan (h : txn.Sound) {planned : Option Record}
    (hplan : txn.commit.plan use = .ok planned) : txn.attempt use = planned.elim txn txn.keep := by
  rw [attempt, h.stage_eq, hplan]
  rfl

theorem Sound.attempt_of_error (h : txn.Sound) {failure : Failure}
    (hplan : txn.commit.plan use = .error failure) : txn.attempt use = txn := by
  rw [attempt, h.stage_eq, hplan]
  rfl

/-- A use moves a transaction as it moves the ledger that the transaction shows. -/
theorem Sound.attempt (h : txn.Sound) (use : Use) :
    (txn.attempt use).Sound ∧ (txn.attempt use).base = txn.base
      ∧ (txn.attempt use).commit = txn.commit.attempt use := by
  cases hplan : txn.commit.plan use with
  | error failure =>
    rw [h.attempt_of_error hplan, Ledger.attempt_of_error hplan]
    exact ⟨h, rfl, rfl⟩
  | ok planned =>
    rw [h.attempt_of_plan hplan, Ledger.attempt_of_plan hplan]
    cases planned with
    | none => exact ⟨h, rfl, rfl⟩
    | some record =>
      obtain ⟨hsound, hcommit⟩ := h.keep hplan
      exact ⟨hsound, txn.base_keep record, hcommit⟩

theorem Sound.enabled_iff (h : txn.Sound) : txn.commit.Enabled use ↔ txn.base.Enabled use := by
  cases use with
  | block usd key => rw [Enabled, Enabled, h.commit_cap]
  | epoch asset amount now => rw [Enabled, Enabled, h.commit_duration]

/-- What is kept after a use was kept before or is what the use asks to store. -/
theorem Sound.mem_kept_attempt (h : txn.Sound) (hmem : record ∈ (txn.attempt use).kept) :
    record ∈ txn.kept ∨ txn.commit.plan use = .ok (some record) := by
  cases hplan : txn.commit.plan use with
  | error failure =>
    rw [h.attempt_of_error hplan] at hmem
    exact .inl hmem
  | ok planned =>
    rw [h.attempt_of_plan hplan] at hmem
    cases planned with
    | none => exact .inl hmem
    | some next =>
      rcases mem_kept_keep hmem with hbefore | rfl
      · exact .inl hbefore
      · exact .inr rfl

/-- Staging a use keeps records within their limits. -/
theorem Sound.within_of_stage (h : txn.Sound) {next : Transaction} {epoch : Option UInt64}
    (hwithin : ∀ record ∈ txn.kept, record.Within) (hstage : txn.stage use = .ok (next, epoch)) :
    ∀ record ∈ next.kept, record.Within := by
  have hattempt : txn.attempt use = next := by rw [Transaction.attempt, hstage]; rfl
  intro record hrecord
  rw [← hattempt] at hrecord
  rcases h.mem_kept_attempt hrecord with hbefore | hplan
  · exact hwithin record hbefore
  · exact within_of_plan hplan

/-- Something is staged after a use if something was before, or if the use does not fail and its
budget is on. -/
theorem Sound.isDirty_attempt (h : txn.Sound) (use : Use) :
    (txn.attempt use).isDirty = true
      ↔ txn.isDirty = true
        ∨ ((txn.commit.consume use).map fun _ => ()) = .ok () ∧ txn.base.Enabled use := by
  rw [consume_eq]
  cases hplan : txn.commit.plan use with
  | error failure =>
    rw [h.attempt_of_error hplan]
    simp [Except.map]
  | ok planned =>
    have henabled := isSome_plan_iff hplan
    rw [h.enabled_iff] at henabled
    rw [h.attempt_of_plan hplan, ← henabled]
    cases planned with
    | none => simp [Except.map]
    | some record => simp [Except.map, isDirty_keep]

theorem Sound.stageAll (h : txn.Sound) (uses : List Use) :
    (txn.stageAll uses).1.Sound ∧ (txn.stageAll uses).1.base = txn.base
      ∧ (txn.stageAll uses).1.commit = (txn.commit.consumeAll uses).1
      ∧ (txn.stageAll uses).2 = (txn.commit.consumeAll uses).2.map fun (use, outcome) =>
        (use, outcome.map fun _ => txn.base.epochOf? use) := by
  induction uses generalizing txn with
  | nil => exact ⟨h, rfl, rfl, rfl⟩
  | cons use rest ih =>
    obtain ⟨hsound, hbase, hcommit⟩ := h.attempt use
    obtain ⟨hfinal, hfinalBase, hfinalCommit, houtcomes⟩ := ih hsound
    refine ⟨hfinal, hfinalBase.trans hbase, ?_, ?_⟩
    · rw [hcommit] at hfinalCommit
      exact hfinalCommit
    · have hfirst : (txn.stage use).map Prod.snd
          = ((txn.commit.consume use).map fun _ => ()).map fun _ => txn.base.epochOf? use := by
        rw [h.stage_eq, consume_eq]
        cases txn.commit.plan use <;> rfl
      rw [hbase, hcommit] at houtcomes
      exact congrArg₂ List.cons (Prod.ext rfl hfirst) houtcomes

theorem Sound.isDirty_stageAll (h : txn.Sound) (uses : List Use) :
    (txn.stageAll uses).1.isDirty = true ↔ txn.isDirty = true
      ∨ ∃ use, (use, .ok ()) ∈ (txn.commit.consumeAll uses).2 ∧ txn.base.Enabled use := by
  induction uses generalizing txn with
  | nil => simp [Transaction.stageAll, consumeAll]
  | cons use rest ih =>
    obtain ⟨hsound, hbase, hcommit⟩ := h.attempt use
    have hrest := ih hsound
    rw [hbase, hcommit, h.isDirty_attempt] at hrest
    rw [Transaction.stageAll, consumeAll]
    refine hrest.trans ?_
    simp only [List.mem_cons, Prod.mk.injEq, or_and_right, exists_or, or_assoc]
    refine or_congr_right (or_congr_left ?_)
    constructor
    · intro ⟨hok, hon⟩
      exact ⟨use, ⟨rfl, hok.symm⟩, hon⟩
    · rintro ⟨_, ⟨rfl, hok⟩, hon⟩
      exact ⟨hok.symm, hon⟩

/-- A transaction keeps only what consuming would have stored. -/
theorem Sound.mem_kept_stageAll (h : txn.Sound) {uses : List Use}
    (hmem : record ∈ (txn.stageAll uses).1.kept) :
    record ∈ txn.kept ∨ record ∈ txn.commit.stored uses := by
  induction uses generalizing txn with
  | nil => exact .inl hmem
  | cons use rest ih =>
    obtain ⟨hsound, -, hcommit⟩ := h.attempt use
    rw [stored, List.mem_append, ← hcommit]
    rcases ih hsound hmem with hbefore | hlater
    · rcases h.mem_kept_attempt hbefore with hkept | hplan
      · exact .inl hkept
      · exact .inr (.inl (by simp [hplan, Except.toOption]))
    · exact .inr (.inr hlater)

end Transaction

/-! ### Ledgers that can be reached -/

/-- Ledgers that their own operations lead to. -/
inductive Reachable : Ledger → Prop
  | start (cap : Usd) (duration : UInt64) : Reachable (.start cap duration)
  | setBlockCap {ledger : Ledger} (h : Reachable ledger) (cap : Usd) :
    Reachable (ledger.setBlockCap cap)
  | setThreshold {ledger : Ledger} (h : Reachable ledger) (asset : Asset) (threshold : Amount) :
    Reachable (ledger.setThreshold asset threshold)
  | setDuration {ledger : Ledger} (h : Reachable ledger) (duration : UInt64) :
    Reachable (ledger.setDuration duration)
  | attempt {ledger : Ledger} (h : Reachable ledger) (use : Use) :
    Reachable (ledger.attempt use)
  | commit {ledger : Ledger} (h : Reachable ledger) (uses : List Use) :
    Reachable (ledger.begin.stageAll uses).1.commit

theorem filed_attempt (h : ledger.epochs.Filed) (use : Use) :
    (ledger.attempt use).epochs.Filed := by
  have hcommit := ((Transaction.sound_begin h).attempt use).2.2
  rw [Transaction.commit_begin] at hcommit
  rw [← hcommit]
  exact ((Transaction.sound_begin h).attempt use).1.commit_filed

theorem Reachable.filed (h : ledger.Reachable) : ledger.epochs.Filed := by
  induction h with
  | start cap duration =>
    intro asset usage hrecord
    cases hrecord
  | setBlockCap _ cap ih => exact ih
  | setThreshold _ asset threshold ih => exact ih.setThreshold asset threshold
  | setDuration _ duration ih => exact ih
  | attempt _ use ih => exact filed_attempt ih use
  | commit _ uses ih => exact ((Transaction.sound_begin ih).stageAll uses).1.commit_filed

/-- Staged in one transaction, a list of uses ends use by use as it does when it is consumed at
once, with the same failures; a use of an asset that does not fail tells its epoch if limiting is
on. The commit leaves what consuming leaves, and dropping the transaction leaves the ledger.
Something is staged exactly if some use did not fail while its budget was on. All records that the
budgets are given to store, at once or by the commit, are within their bounds. -/
theorem staging_refines_consuming (hreachable : ledger.Reachable) (uses : List Use) :
    let staged := ledger.begin.stageAll uses
    let direct := ledger.consumeAll uses
    staged.2 = direct.2.map (fun (use, outcome) => (use, outcome.map fun _ => ledger.epochOf? use))
      ∧ staged.1.commit = direct.1 ∧ staged.1.rollback = ledger
      ∧ (staged.1.isDirty = true ↔ ∃ use, (use, .ok ()) ∈ direct.2 ∧ ledger.Enabled use)
      ∧ (direct.1 = (ledger.stored uses).foldl store ledger
        ∧ ∀ record ∈ ledger.stored uses, record.Within)
      ∧ (staged.1.commit = staged.1.kept.foldl store ledger
        ∧ ∀ record ∈ staged.1.kept, record.Within) := by
  intro staged direct
  have hbegin := Transaction.sound_begin hreachable.filed
  obtain ⟨-, hbase, hcommit, houtcomes⟩ := hbegin.stageAll uses
  have hstored := ledger.within_of_stored uses
  refine ⟨houtcomes, hcommit, hbase, ?_, ⟨(ledger.foldl_stored uses).symm, hstored⟩, ?_, ?_⟩
  · have hdirty := hbegin.isDirty_stageAll uses
    have hclean : ledger.begin.isDirty = false := rfl
    rw [hclean, Bool.false_eq_true, false_or] at hdirty
    exact hdirty
  · have hledger : staged.1.base = ledger := hbase
    rw [staged.1.commit_eq_foldl, hledger]
  · intro record hrecord
    rcases hbegin.mem_kept_stageAll hrecord with hnone | hsome
    · cases hnone
    · exact hstored record hsome

/-- Ten dollars a block, and a hundred units of one token in an hour. -/
def sample : Ledger :=
  (start (.ofDollars 10) 3600).setThreshold (.token ⟨5, by decide⟩) (.ofUInt64 100)

/-- Six dollars in a block leave too little for five more there, but not in another block. Sixty
units of the token leave too little for fifty more, and native currency has no threshold. -/
def sampleUses : List Use := [
  .block (.ofDollars 6) 7,
  .epoch (.token ⟨5, by decide⟩) (.ofUInt64 60) 5000,
  .block (.ofDollars 5) 7,
  .epoch (.token ⟨5, by decide⟩) (.ofUInt64 50) 7000,
  .block (.ofDollars 5) 8,
  .epoch .native (.ofUInt64 1) 5000]

theorem sampleUses_staged :
    let staged := sample.begin.stageAll sampleUses
    sample.Reachable
      ∧ staged.2.map Prod.snd = [
        .ok none,
        .ok (some 1),
        .error (.refused (.blockCapExceeded (.ofDollars 5) (.ofDollars 6) (.ofDollars 10))),
        .error (.refused (.rateLimitExceeded (.token ⟨5, by decide⟩) (.ofUInt64 50) (.ofUInt64 60)
          (.ofUInt64 100))),
        .ok none,
        .error (.refused (.tokenUnsupported .native))]
      ∧ staged.1.commit = (sample.consumeAll sampleUses).1 ∧ staged.1.isDirty = true := by
  have hreachable : sample.Reachable := .setThreshold (.start _ _) _ _
  obtain ⟨houtcomes, hcommit, -, hdirty, -⟩ := staging_refines_consuming hreachable sampleUses
  refine ⟨hreachable, ?_, hcommit, hdirty.2 ⟨.block (.ofDollars 6) 7, ?_, ?_⟩⟩
  · rw [houtcomes]
    decide +kernel
  · decide +kernel
  · show sample.block.cap.isZero = false
    decide +kernel

end DepositGate.Ledger
