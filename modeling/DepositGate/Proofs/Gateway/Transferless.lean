import DepositGate.Proofs.Gateway.Run

/-!
# Rules that name no failed transfer

A failed transfer is a reason that the vault alone gives. No rule before the vault's refuses a
deposit for it, whatever is read from the feed and whatever state the gateway is in: each
computation on the way is gone through step by step, and none of its refusals is of that kind.
-/

namespace DepositGate

variable {α β : Type}

/-- The outcome is not refused for a failed transfer. -/
def Transferless (outcome : Except Failure α) : Prop :=
  ∀ why, outcome = .error (.refused why) → why.kind ≠ .transferFailed

theorem transferless_ok (a : α) : Transferless (.ok a : Except Failure α) := by
  simp [Transferless]

theorem transferless_refused {why : Refusal} (h : why.kind ≠ .transferFailed) :
    Transferless (.error (.refused why) : Except Failure α) := by
  intro other hother
  cases hother
  exact h

theorem transferless_refusing {outcome : Except Refusal α}
    (h : ∀ why, outcome = .error why → why.kind ≠ .transferFailed) :
    Transferless (refusing outcome) :=
  fun why hwhy => h why (refusing_eq_refused_iff.1 hwhy)

theorem transferless_computing (outcome : Except Fault α) : Transferless (computing outcome) := by
  cases outcome <;> simp [Transferless]

theorem Transferless.bind {first : Except Failure α} {next : α → Except Failure β}
    (hfirst : Transferless first) (hnext : ∀ a, Transferless (next a)) :
    Transferless (first >>= next) := by
  intro why h
  rcases bind_eq_error_iff.1 h with herror | ⟨a, -, herror⟩
  · exact hfirst why herror
  · exact hnext a why herror

theorem Request.transferless_plan (request : Request) (value : Amount) :
    Transferless (request.plan value) := by
  refine (transferless_refusing ?_).bind fun kind => transferless_computing _
  intro why h
  rw [classify] at h
  repeat' split at h
  all_goals cases h <;> simp [Refusal.kind]

theorem Feed.transferless_reading (feed : Feed) : Transferless (refusing feed.reading.round) := by
  refine transferless_refusing fun why h => ?_
  cases feed with
  | rounds feed =>
    rw [reading, RoundFeed.reading] at h
    split at h <;> cases h
    simp [Refusal.kind]
  | exponents feed =>
    rw [reading, ExponentFeed.reading, ExponentFeed.round] at h
    repeat' split at h
    all_goals cases h <;> simp [Refusal.kind]

/-- A watched sequencer always reports, and what is found wrong with it is no failed transfer. -/
theorem Oracle.transferless_checkSequencer (oracle : Oracle) (now : UInt64) :
    Transferless (refusing (checkSequencer oracle.gate now)) := by
  refine transferless_refusing fun why h => ?_
  rw [gate] at h
  cases hsequencer : oracle.sequencer with
  | none =>
    rw [hsequencer] at h
    cases h
  | some watched =>
    rw [hsequencer] at h
    change (if !watched.1.isUp then _ else if elapsed watched.1.startedAt now < watched.2 then _
      else _) = _ at h
    repeat' split at h
    all_goals cases h <;> simp [Refusal.kind]

theorem Oracle.transferless_quote (oracle : Oracle) (now : UInt64) :
    Transferless (oracle.quote now) := by
  refine (oracle.transferless_checkSequencer now).bind fun _ => ?_
  refine oracle.feed.transferless_reading.bind fun round => ?_
  refine Transferless.bind (transferless_refusing fun why h => ?_) fun _ => ?_
  · rw [checkRound] at h
    repeat' split at h
    all_goals cases h <;> simp [Refusal.kind]
  · refine Transferless.bind (transferless_refusing fun why h => ?_) fun decimals => ?_
    · rw [scaleOf.eq_def] at h
      repeat' split at h
      all_goals cases h <;> simp [Refusal.kind]
    · exact (transferless_computing _).bind fun factor => transferless_ok _

theorem CapPolicy.transferless_check (policy : CapPolicy) (price amount : Amount) :
    Transferless (policy.check price amount) := by
  refine (transferless_computing _).bind fun usd => ?_
  refine Transferless.bind (transferless_refusing ?_) fun _ => transferless_ok _
  intro why h
  rw [checkUsd] at h
  split at h <;> cases h
  simp [Refusal.kind]

namespace Ledger.Transaction

theorem transferless_stageBlock (txn : Transaction) (usd : Usd) (key : UInt64) :
    Transferless (refusing (txn.stageBlock usd key)) := by
  refine transferless_refusing fun why h => ?_
  rw [stageBlock] at h
  cases hplan : txn.currentBlock.plan usd key with
  | error flaw =>
    simp only [hplan, Except.error.injEq] at h
    rw [BlockBudget.plan] at hplan
    dsimp only at hplan
    repeat' split at hplan
    all_goals cases hplan
    rw [← h]
    simp [Refusal.kind]
  | ok next => cases next <;> simp only [hplan] at h <;> cases h

theorem transferless_stageEpoch (txn : Transaction) (asset : Asset) (amount : Amount)
    (now : UInt64) : Transferless (txn.stageEpoch asset amount now) := by
  refine Transferless.bind ?_ fun next => ?_
  · rw [planEpoch]
    split
    · exact transferless_refused (by simp [Refusal.kind])
    · split
      · exact transferless_ok _
      · refine (transferless_computing _).bind fun epoch => ?_
        refine Transferless.bind (transferless_refusing fun why h => ?_) fun _ => transferless_ok _
        rw [TokenUsage.plan] at h
        dsimp only at h
        repeat' split at h
        all_goals cases h <;> simp [Refusal.kind]
  · cases next <;> exact transferless_ok _

end Ledger.Transaction

namespace Gateway

theorem transferless_examine (gateway : Gateway) (request : Request) (value : Amount) :
    Transferless (gateway.examine request value) := by
  refine Transferless.bind (transferless_refusing ?_) fun _ => ?_
  · intro why h
    rw [requireRunning] at h
    split at h <;> cases h
    decide
  · refine (request.transferless_plan value).bind fun legs => ?_
    split
    · exact transferless_refused (by decide)
    · exact transferless_ok _

theorem transferless_price (gateway : Gateway) (gas : Amount) :
    Transferless (gateway.price gas) := by
  rw [price]
  split
  · exact transferless_ok _
  · exact (gateway.oracle.transferless_quote gateway.clock.now).bind
      fun quote => gateway.policy.transferless_check quote.price gas

theorem transferless_draw (gateway : Gateway) (plan : Plan) : Transferless (gateway.draw plan) := by
  rw [draw_eq]
  refine Transferless.bind ?_ fun txn => ?_
  · rw [drawGas]
    split
    · exact Ledger.Transaction.transferless_stageBlock _ _ _
    · exact transferless_ok _
  · rw [drawFunds]
    split
    · exact transferless_ok _
    · exact txn.transferless_stageEpoch _ _ _

theorem transferless_assess (gateway : Gateway) (request : Request) (value : Amount) :
    Transferless (gateway.assess request value) := by
  have hcheck : Transferless (gateway.check request value) :=
    (gateway.transferless_examine request value).bind fun legs =>
      (gateway.transferless_price legs.gas).bind fun _ => transferless_ok _
  exact hcheck.bind fun plan => (gateway.transferless_draw plan).bind fun _ => transferless_ok _

end Gateway

end DepositGate
