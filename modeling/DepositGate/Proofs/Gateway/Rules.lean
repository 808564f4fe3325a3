import DepositGate.Proofs.Gateway.Preview

/-!
# The rules of a deposit

Each of the eight rules that judge a deposit is stated on its own: which requests break it, in which
state of the gateway, and what they are told. Values are computed from the request and the state
alone, in the natural numbers, and no rule asks what an earlier one found. A deposit is refused for
the first rule in their order that it breaks, and it is admitted exactly if it breaks none.

The rules for gas hold of requests that leave native value for gas, and the rule for funds of those
that bridge an amount. Where the price is refused there is no dollar value to be judged, so a
request breaks the rule of the price alone.
-/

namespace DepositGate

/-- The rules that a deposit is judged by. -/
inductive Rule where
  | running
  | shape
  | refund
  | price
  | range
  | blockBudget
  | epochLimit
  | custody
deriving DecidableEq, Repr

def Rule.inOrder : List Rule :=
  [running, shape, refund, price, range, blockBudget, epochLimit, custody]

theorem Rule.mem_inOrder (rule : Rule) : rule ∈ inOrder := by
  cases rule <;> decide

/-! ### What a request asks for -/

namespace Request

variable {request : Request} {value : Amount} {kind : DepositKind} {legs : Legs} {why : Refusal}

/-- The native value sent that is not bridged. -/
def gasOf (request : Request) (value : Amount) : Amount :=
  value.saturatingSub (if request.asset = .native then request.amount else .zero)

def fundsOf (request : Request) : Option FundsLeg :=
  if request.amount.val = 0 then none else some ⟨request.asset, request.amount⟩

/-- What the vault is asked to take, gas first. -/
def legsOf (request : Request) (value : Amount) : List (Asset × Amount) :=
  (if (request.gasOf value).val = 0 then [] else [(.native, request.gasOf value)]) ++
    (if request.amount.val = 0 then [] else [(request.asset, request.amount)])

/-- What is wrong with a request and the native value sent along. Bridged native currency has to be
covered by the value, exactly so without a payload, and a bridged token takes no value without a
payload. -/
def shapeFlaw? (request : Request) (value : Amount) : Option Refusal :=
  if request.amount.val = 0 then
    if request.payload = [] ∧ value.val = 0 then some (.invalidInput .emptyRequest) else none
  else
    match request.asset, request.payload with
    | .native, [] =>
      if value = request.amount then none
      else some (.invalidAmount (.valueNotBridged value request.amount))
    | .native, _ :: _ =>
      if value < request.amount then some (.invalidAmount (.valueBelowBridged value request.amount))
      else none
    | .token _, [] =>
      if value.val = 0 then none else some (.invalidAmount (.valueWithToken value))
    | .token _, _ :: _ => none

theorem classify_eq_error_iff :
    request.classify value = .error why ↔ request.shapeFlaw? value = some why := by
  rw [classify, shapeFlaw?]
  by_cases hamount : request.amount.val = 0
  · rw [if_pos (Amount.isZero_iff.2 hamount), if_pos hamount]
    cases hpayload : request.payload with
    | nil =>
      by_cases hvalue : value.val = 0
      · simp [hvalue]
      · simp [hvalue]
    | cons byte rest => simp
  · rw [if_neg (mt Amount.isZero_iff.1 hamount), if_neg hamount]
    cases hasset : request.asset with
    | native =>
      cases hpayload : request.payload with
      | nil =>
        by_cases hexact : value = request.amount
        · simp [hexact]
        · simp [hexact]
      | cons byte rest =>
        by_cases hshort : value < request.amount
        · simp [Asset.isNative, hshort]
        · simp [Asset.isNative, hshort]
    | token token =>
      cases hpayload : request.payload with
      | nil =>
        by_cases hvalue : value.val = 0
        · simp [hvalue]
        · simp [hvalue]
      | cons byte rest => simp [Asset.isNative]

theorem legs_of_plan (h : request.plan value = .ok legs) :
    legs.gas = request.gasOf value ∧ legs.funds = request.fundsOf := by
  obtain ⟨kind, hclassify, hsplit⟩ := bind_eq_ok_iff.1 h
  rw [refusing_eq_ok_iff] at hclassify
  rw [computing_eq_ok_iff] at hsplit
  rw [fundsOf]
  cases hamount : request.amount.isZero with
  | true =>
    have hzero := Amount.isZero_iff.1 hamount
    have hgas : value = request.gasOf value := by
      apply Amount.ext
      rw [gasOf, Amount.val_saturatingSub]
      split <;> simp [hzero]
    rw [if_pos hzero, ← hgas]
    rcases of_classify_of_no_funds hclassify hamount with rfl | rfl
    · cases hsplit
      exact ⟨rfl, rfl⟩
    · cases hsplit
      exact ⟨rfl, rfl⟩
  | false =>
    have hsome := Amount.isZero_eq_false_iff.1 hamount
    rw [if_neg hsome]
    cases splitInto_of_plan h with
    | instant hinstant hzero => exact absurd hzero hsome
    | bridged hbridged hgas hsum =>
      refine ⟨Amount.ext ?_, rfl⟩
      rw [gasOf, Amount.val_saturatingSub, ← hsum]
      split <;> simp

theorem plan_refused_iff :
    request.plan value = .error (.refused why) ↔ request.shapeFlaw? value = some why := by
  rw [← classify_eq_error_iff, plan, bind_eq_error_iff, refusing_eq_refused_iff]
  constructor
  · intro h
    rcases h with hclassify | ⟨kind, hclassify, hsplit⟩
    · exact hclassify
    · obtain ⟨legs, hlegs, -⟩ := split_of_classify (refusing_eq_ok_iff.1 hclassify)
      rw [hlegs] at hsplit
      cases hsplit
  · exact .inl

theorem decided_plan (request : Request) (value : Amount) :
    Decided (request.shapeFlaw? value)
      (fun legs => legs.gas = request.gasOf value ∧ legs.funds = request.fundsOf)
      (request.plan value) :=
  (request.faultless_plan value).decided (fun _ => plan_refused_iff) fun _ => legs_of_plan

end Request

namespace Gateway

variable {gateway : Gateway} {request : Request} {value : Amount} {plan : Plan} {sender : Address}
  {id : String} {why : Refusal}

/-- The dollar value of a request's gas, if it has gas and the gas has a price. -/
def gasUsd? (gateway : Gateway) (request : Request) (value : Amount) : Option Usd :=
  let gas := request.gasOf value
  if gas.val = 0 then none
  else
    match gateway.quote with
    | .ok quote =>
      some ⟨.saturate (gas.val * quote.price.val / 10 ^ gateway.policy.nativeDecimals.toNat)⟩
    | .error _ => none

/-- What a request is told of a rule that it breaks. -/
def breach? (gateway : Gateway) (sender : Address) (request : Request) (value : Amount) :
    Rule → Option Refusal
  | .running => if gateway.isPaused then some .paused else none
  | .shape => request.shapeFlaw? value
  | .refund => if request.refund.recipient.val = 0 then some .invalidRecipient else none
  | .price =>
    if (request.gasOf value).val = 0 then none
    else
      match gateway.quote with
      | .error (.refused why) => some why
      | _ => none
  | .range => (gateway.gasUsd? request value).bind fun usd =>
    let caps := gateway.policy.caps
    if usd < caps.min ∨ caps.max < usd then some (.outOfRange usd caps.min caps.max) else none
  | .blockBudget => (gateway.gasUsd? request value).bind fun usd =>
    let cap := gateway.ledger.block.cap
    let consumed := gateway.blockConsumed
    if cap.raw.val ≠ 0 ∧ cap.raw.val < consumed.raw.val + usd.raw.val then
      some (.blockCapExceeded usd consumed cap)
    else none
  | .epochLimit =>
    let limits := gateway.ledger.epochs
    let threshold := limits.threshold request.asset
    let used := limits.usedIn request.asset (gateway.clock.now / limits.duration)
    if request.amount.val = 0 then none
    else if threshold.val = 0 then some (.tokenUnsupported request.asset)
    else if limits.duration ≠ 0 ∧ threshold.val < used.val + request.amount.val then
      some (.rateLimitExceeded request.asset request.amount used threshold)
    else none
  | .custody =>
    match gateway.vault.depositBatch (request.legsOf value) sender with
    | .error why => some why
    | .ok _ => none

/-- What a request is told of the first of some rules that it breaks. -/
def firstBreach? (gateway : Gateway) (sender : Address) (request : Request) (value : Amount)
    (rules : List Rule) : Option Refusal :=
  rules.findSome? (gateway.breach? sender request value)

@[simp] theorem firstBreach?_nil (gateway : Gateway) (sender : Address) (request : Request)
    (value : Amount) : gateway.firstBreach? sender request value [] = none := rfl

theorem firstBreach?_cons (gateway : Gateway) (sender : Address) (request : Request)
    (value : Amount) (rule : Rule) (rules : List Rule) :
    gateway.firstBreach? sender request value (rule :: rules)
      = (gateway.breach? sender request value rule).or
        (gateway.firstBreach? sender request value rules) :=
  findSome?_cons_or _ _ _

theorem firstBreach?_append (gateway : Gateway) (sender : Address) (request : Request)
    (value : Amount) (first rest : List Rule) :
    gateway.firstBreach? sender request value (first ++ rest)
      = (gateway.firstBreach? sender request value first).or
        (gateway.firstBreach? sender request value rest) :=
  List.findSome?_append

/-! ### Each stage of a deposit is decided by its rules -/

theorem decided_requireRunning (gateway : Gateway) (sender : Address) (request : Request)
    (value : Amount) : Decided (gateway.breach? sender request value .running) (fun _ => True)
      (refusing gateway.requireRunning) := by
  rw [breach?, requireRunning]
  cases gateway.isPaused with
  | true => rfl
  | false => exact decided_ok trivial

theorem decided_examine (gateway : Gateway) (sender : Address) (request : Request)
    (value : Amount) :
    Decided (gateway.firstBreach? sender request value [.running, .shape, .refund])
      (fun legs => legs.gas = request.gasOf value ∧ legs.funds = request.fundsOf)
      (gateway.examine request value) := by
  rw [firstBreach?_cons]
  apply (gateway.decided_requireRunning sender request value).bind
  intro _ _
  rw [firstBreach?_cons]
  apply (request.decided_plan value).bind
  intro legs hlegs
  rw [firstBreach?_cons, breach?]
  by_cases hzero : request.refund.recipient.val = 0
  · rw [if_pos hzero, if_pos (by simp [Identity.isZero, hzero])]
    rfl
  · rw [if_neg hzero, if_neg (by simp [Identity.isZero, hzero])]
    exact decided_ok hlegs

/-- Gas that there is has the dollar value that the rules after its price judge it by. -/
theorem WellFormed.decided_price (h : gateway.WellFormed) (sender : Address) (request : Request)
    (value : Amount) : Decided (gateway.firstBreach? sender request value [.price, .range])
      (fun usd => (request.gasOf value).val ≠ 0 → gateway.gasUsd? request value = some usd)
      (gateway.price (request.gasOf value)) := by
  rw [firstBreach?_cons, firstBreach?_cons, breach?, breach?, gasUsd?, price]
  by_cases hgas : (request.gasOf value).val = 0
  · rw [if_pos (Amount.isZero_iff.2 hgas)]
    simp only [if_pos hgas]
    exact decided_ok fun hsome => absurd hgas hsome
  · rw [if_neg (mt Amount.isZero_iff.1 hgas)]
    simp only [if_neg hgas]
    have hquote : Faultless gateway.quote := gateway.oracle.faultless_quote gateway.clock.now
    rcases hquote.ok_or_refused with ⟨quote, hok⟩ | ⟨why, herror⟩
    · obtain ⟨usd, husd⟩ : ∃ usd : Usd, usd = ⟨.saturate
          ((request.gasOf value).val * quote.price.val
            / 10 ^ gateway.policy.nativeDecimals.toNat)⟩ :=
        ⟨_, rfl⟩
      have hcheck := gateway.policy.check_eq quote.price (request.gasOf value)
        (Nat.le_trans (UInt8.le_iff_toNat_le.1 h.decimals) (by decide)) husd
      simp only [hok, ← husd, bind, Except.bind, hcheck]
      by_cases hout : usd < gateway.policy.caps.min ∨ gateway.policy.caps.max < usd
      · simp only [Option.bind_some, if_pos hout]
        rfl
      · simp only [Option.bind_some, if_neg hout]
        exact decided_ok fun _ => rfl
    · simp only [herror]
      rfl

theorem breach?_blockBudget_eq_some_iff (hgas : plan.gas = request.gasOf value)
    (husd : plan.hasGas = true → gateway.gasUsd? request value = some plan.gasUsd) :
    gateway.breach? sender request value .blockBudget = some why
      ↔ ¬gateway.BlockHasRoom plan ∧ why = .blockCapExceeded plan.gasUsd
        (gateway.ledger.block.consumedAt gateway.clock.block) gateway.ledger.block.cap := by
  rw [breach?, BlockHasRoom, BlockBudget.HasRoom, blockConsumed, Ledger.consumedAt]
  cases hhas : plan.hasGas with
  | false =>
    have hnone : gateway.gasUsd? request value = none := by
      rw [gasUsd?, ← hgas]
      exact if_pos (by simpa [Plan.hasGas] using hhas)
    simp [hnone]
  | true =>
    simp only [husd hhas, Option.bind_some, true_imp_iff, not_or, Nat.not_le, ne_eq,
      ← Usd.isZero_iff, Option.ite_none_right_eq_some, Option.some.injEq]
    exact and_congr_right fun _ => eq_comm

theorem WellFormed.decided_drawGas (h : gateway.WellFormed) (sender : Address) (request : Request)
    (value : Amount) (hgas : plan.gas = request.gasOf value)
    (husd : plan.hasGas = true → gateway.gasUsd? request value = some plan.gasUsd) :
    Decided (gateway.breach? sender request value .blockBudget)
      (fun txn => gateway.drawGas plan = .ok txn) (gateway.drawGas plan) := by
  have hfaultless : Faultless (gateway.drawGas plan) := by
    intro what hfault
    obtain ⟨-, heq⟩ := (drawGas_eq_error_iff h.filed).1 hfault
    cases heq
  refine hfaultless.decided ?_ fun _ => id
  intro why
  rw [drawGas_eq_error_iff h.filed, breach?_blockBudget_eq_some_iff hgas husd,
    Failure.refused.injEq]

theorem breach?_epochLimit_eq_some_iff (hamount : request.amount.val ≠ 0)
    (hfiled : gateway.ledger.epochs.Filed) :
    gateway.breach? sender request value .epochLimit = some why
      ↔ gateway.ledger.epochs.consume request.asset request.amount gateway.clock.now
        = .error (.refused why) := by
  rw [hfiled.consume_eq_error_iff, breach?, EpochLimits.HasRoom]
  cases hzero : (gateway.ledger.epochs.threshold request.asset).isZero with
  | true => simp [hamount, Amount.isZero_iff.1 hzero, eq_comm]
  | false =>
    have hsome := Amount.isZero_eq_false_iff.1 hzero
    simp [hamount, hsome, eq_comm]

theorem WellFormed.decided_drawFunds (h : gateway.WellFormed) (sender : Address)
    (request : Request) (value : Amount) (hfunds : plan.funds = request.fundsOf)
    {txn : Ledger.Transaction} (hdraw : gateway.drawGas plan = .ok txn) :
    Decided (gateway.breach? sender request value .epochLimit) (fun _ => True)
      (gateway.drawFunds plan txn) := by
  rw [drawFunds, hfunds, Request.fundsOf]
  by_cases hamount : request.amount.val = 0
  · rw [if_pos hamount, breach?, if_pos hamount]
    exact decided_ok trivial
  · rw [if_neg hamount]
    obtain ⟨hsound, hbase, hepochs, -⟩ := of_drawGas h.filed hdraw
    have herror : ∀ failure, txn.stageEpoch request.asset request.amount gateway.clock.now
        = .error failure ↔ gateway.ledger.epochs.consume request.asset request.amount
          gateway.clock.now = .error failure := by
      intro failure
      rw [hsound.stageEpoch_error_iff, hepochs]
    have hfaultless :
        Faultless (txn.stageEpoch request.asset request.amount gateway.clock.now) := by
      intro what hfault
      rcases h.filed.consume_eq_error_iff.1 ((herror _).1 hfault) with ⟨-, heq⟩ | ⟨-, -, heq⟩
      · cases heq
      · cases heq
    refine hfaultless.decided ?_ fun _ _ => trivial
    intro why
    rw [herror, breach?_epochLimit_eq_some_iff hamount h.filed]

theorem WellFormed.decided_draw (h : gateway.WellFormed) (sender : Address) (request : Request)
    (value : Amount) (hgas : plan.gas = request.gasOf value) (hfunds : plan.funds = request.fundsOf)
    (husd : plan.hasGas = true → gateway.gasUsd? request value = some plan.gasUsd) :
    Decided (gateway.firstBreach? sender request value [.blockBudget, .epochLimit])
      (fun _ => True) (gateway.draw plan) := by
  rw [draw_eq, firstBreach?_cons, firstBreach?_cons]
  apply (h.decided_drawGas sender request value hgas husd).bind
  intro txn htxn
  rw [firstBreach?_nil, Option.or_none]
  exact h.decided_drawFunds sender request value hfunds htxn

/-! ### All rules -/

/-- A plan asks for what its request does, and its gas has the dollar value that it is judged by. -/
structure Plans (gateway : Gateway) (request : Request) (value : Amount) (plan : Plan) : Prop where
  gas : plan.gas = request.gasOf value
  funds : plan.funds = request.fundsOf
  usd : plan.hasGas = true → gateway.gasUsd? request value = some plan.gasUsd

theorem Plans.deposits_eq (h : gateway.Plans request value plan) :
    plan.deposits = request.legsOf value := by
  rw [Plan.deposits, Request.legsOf, h.funds, Request.fundsOf]
  have hgas : (if plan.hasGas then [(Asset.native, plan.gas)] else [])
      = if (request.gasOf value).val = 0 then [] else [(.native, request.gasOf value)] := by
    rw [Plan.hasGas, h.gas]
    by_cases hzero : (request.gasOf value).val = 0
    · simp [hzero]
    · rw [Amount.isZero_eq_false_iff.2 hzero, if_neg hzero]
      rfl
  rw [hgas]
  by_cases hamount : request.amount.val = 0
  · rw [if_pos hamount, if_pos hamount]
  · rw [if_neg hamount, if_neg hamount]

theorem WellFormed.decided_check (h : gateway.WellFormed) (sender : Address) (request : Request)
    (value : Amount) :
    Decided (gateway.firstBreach? sender request value
        ([.running, .shape, .refund] ++ [.price, .range]))
      (gateway.Plans request value) (gateway.check request value) := by
  rw [firstBreach?_append]
  apply (gateway.decided_examine sender request value).bind
  intro legs ⟨hgas, hfunds⟩
  rw [hgas]
  apply (h.decided_price sender request value).map
  intro usd husd
  refine ⟨rfl, hfunds, fun hhas => husd ?_⟩
  exact Amount.isZero_eq_false_iff.1 (Bool.not_eq_true' _ |>.mp hhas)

theorem WellFormed.decided_assess (h : gateway.WellFormed) (sender : Address) (request : Request)
    (value : Amount) :
    Decided (gateway.firstBreach? sender request value
        (([.running, .shape, .refund] ++ [.price, .range]) ++ [.blockBudget, .epochLimit]))
      (fun staged => staged.plan.deposits = request.legsOf value)
      (gateway.assess request value) := by
  rw [firstBreach?_append]
  apply (h.decided_check sender request value).bind
  intro plan hplan
  apply (h.decided_draw sender request value hplan.gas hplan.funds hplan.usd).map
  intro _ _
  exact hplan.deposits_eq

theorem WellFormed.decided_send (h : gateway.WellFormed) (id : String) (sender : Address)
    (request : Request) (value : Amount) :
    Decided (gateway.firstBreach? sender request value Rule.inOrder) (fun _ => True)
      (gateway.send id sender request value).result := by
  have hassess := h.decided_assess sender request value
  have hstages : Rule.inOrder = (([.running, .shape, .refund] ++ [.price, .range])
      ++ [.blockBudget, .epochLimit]) ++ [.custody] := rfl
  rw [hstages, firstBreach?_append]
  cases hflaw : gateway.firstBreach? sender request value
      (([.running, .shape, .refund] ++ [.price, .range]) ++ [.blockBudget, .epochLimit]) with
  | some why =>
    exact (send_of_assess_error id sender (hassess.eq_refused_iff.2 hflaw)).1
  | none =>
    rw [hflaw] at hassess
    obtain ⟨staged, hok, hdeposits⟩ := hassess
    rw [Option.none_or, firstBreach?_cons, firstBreach?_nil, Option.or_none, breach?, ← hdeposits]
    cases hvault : gateway.vault.depositBatch staged.plan.deposits sender with
    | error why => exact (send_of_vault_error id hok hvault).1
    | ok vault =>
      rw [(send_of_taken id hok hvault).1]
      exact decided_ok trivial

/-- A deposit is refused with what it is told of the first rule that it breaks, and it is admitted
exactly if it breaks none. -/
theorem send_decided_by_first_broken_rule (hreachable : gateway.Reachable) (id : String)
    (sender : Address) (request : Request) (value : Amount) :
    let result := (gateway.send id sender request value).result
    let breach? := gateway.breach? sender request value
    (∀ why, result = .error (.refused why)
        ↔ ∃ earlier rule later, Rule.inOrder = earlier ++ rule :: later
          ∧ breach? rule = some why ∧ ∀ kept ∈ earlier, breach? kept = none)
      ∧ ((∃ receipt, result = .ok receipt) ↔ ∀ rule, breach? rule = none) := by
  intro result breach?
  have hsend := hreachable.wellFormed.decided_send id sender request value
  constructor
  · intro why
    rw [hsend.eq_refused_iff, firstBreach?, List.findSome?_eq_some_iff]
  · rw [hsend.eq_ok_iff, firstBreach?, List.findSome?_eq_none_iff]
    constructor
    · intro h rule
      exact h rule rule.mem_inOrder
    · intro h rule _
      exact h rule

/-- On a vault that fails, too much gas with too many units of a token is told of the gas, enough
gas with too many units is told of the units, and what breaks no other rule is told of the vault.
The last is admitted while the vault takes deposits. -/
theorem sample_decided_by_first_broken_rule :
    let failing := sample.after [.change (.vault (.failing true))]
    let much := sampleRequest sampleToken 200 [1]
    let fitting := sampleRequest sampleToken 60 [1]
    failing.Reachable ∧ sample.Reachable
      ∧ (failing.send "gas" sampleAccount much (.ofUInt64 20000000000000000)).result
        = .error (.refused (.outOfRange (.ofDollars 40) (.ofDollars 1) (.ofDollars 10)))
      ∧ (failing.send "funds" sampleAccount much sampleGas).result
        = .error (.refused (.rateLimitExceeded sampleToken (.ofUInt64 200) .zero (.ofUInt64 100)))
      ∧ (failing.send "vault" sampleAccount fitting sampleGas).result
        = .error (.refused (.transferFailed (.depositRefused sampleGas .native sampleAccount)))
      ∧ ∃ receipt, (sample.send "none" sampleAccount fitting sampleGas).result = .ok receipt := by
  intro failing much fitting
  have hfailing : failing.Reachable := ⟨sample, sample_fresh, _, rfl⟩
  have hsample : sample.Reachable := ⟨sample, sample_fresh, [], rfl⟩
  have hgas := (send_decided_by_first_broken_rule hfailing "gas" sampleAccount much
    (.ofUInt64 20000000000000000)).1
  have hfunds := (send_decided_by_first_broken_rule hfailing "funds" sampleAccount much sampleGas).1
  have hvault := (send_decided_by_first_broken_rule hfailing "vault" sampleAccount fitting
    sampleGas).1
  have hnone := (send_decided_by_first_broken_rule hsample "none" sampleAccount fitting sampleGas).2
  refine ⟨hfailing, hsample, (hgas _).2 ?_, (hfunds _).2 ?_, (hvault _).2 ?_, hnone.2 ?_⟩
  · exact ⟨[.running, .shape, .refund, .price], .range, _, rfl, by decide +kernel,
      by decide +kernel⟩
  · exact ⟨[.running, .shape, .refund, .price, .range, .blockBudget], .epochLimit, _, rfl,
      by decide +kernel, by decide +kernel⟩
  · exact ⟨[.running, .shape, .refund, .price, .range, .blockBudget, .epochLimit], .custody, _, rfl,
      by decide +kernel, by decide +kernel⟩
  · intro rule
    cases rule <;> decide +kernel

end Gateway

end DepositGate
