import DepositGate.Proofs.Gateway.Conservation
import DepositGate.Proofs.Gateway.Isolation
import DepositGate.Proofs.Gateway.Preview
import Mathlib.Data.List.Flatten

/-!
# Deposits that share no budget commute

Two deposits are apart if they do not both pay for gas and do not bridge the same asset. They may
still meet in the vault, where gas and bridged native currency are held together, and in the ledger,
where one transaction stores the records of both kinds. Yet neither sees what the other has left
there: each is ruled on as if it came first, and both orders leave the same gateway.

So any number of deposits that are pairwise apart, sent at one time and in one block, are answered
alike in every order, as long as the vault has room for all of them and no limit on legs counts
them. Some may fail; those change nothing.
-/

namespace DepositGate

namespace Submission

variable {first second : Submission}

/-- The deposits draw on different budgets: not both pay for gas, and what they bridge is of
different assets. -/
def Apart (first second : Submission) : Prop :=
  (first.gas.isZero = true ∨ second.gas.isZero = true)
    ∧ ∀ leg ∈ first.funds?, ∀ other ∈ second.funds?, leg.asset ≠ other.asset

instance (first second : Submission) : Decidable (first.Apart second) :=
  inferInstanceAs (Decidable (_ ∧ _))

theorem Apart.symm (h : first.Apart second) : second.Apart first :=
  ⟨h.1.symm, fun leg hleg other hother => (h.2 other hother leg hleg).symm⟩

end Submission

/-- The response with no name for its receipt. -/
def Response.unnamed : Response → Response
  | .receipt named => .receipt named.unnamed
  | response => response

/-- The steps that send deposits, each under a name of its own. -/
def sends (named : List (String × Submission)) : List Step :=
  named.map fun send => .call (.send send.1 send.2.sender send.2.request send.2.value)

namespace Ledger

theorem record_charge_of_ne {charges : Charges} {asset : Asset}
    (h : ∀ usage ∈ charges.usage, usage.asset ≠ asset) (ledger : Ledger) :
    (ledger.charge charges).epochs.record asset = ledger.epochs.record asset := by
  rw [charge]
  cases husage : charges.usage with
  | none => rfl
  | some usage => exact (EpochLimits.record_apply ..).trans (if_neg (h usage husage))

theorem filed_charge {ledger : Ledger} (h : ledger.epochs.Filed) (charges : Charges) :
    (ledger.charge charges).epochs.Filed := by
  rw [charge]
  cases charges.usage with
  | none => exact h
  | some usage => exact h.apply usage

/-- Charges on different records can be stored in either order. -/
theorem charge_comm {charges other : Charges}
    (hblock : charges.block = none ∨ other.block = none)
    (husage : ∀ usage ∈ charges.usage, ∀ last ∈ other.usage, usage.asset ≠ last.asset)
    (ledger : Ledger) :
    (ledger.charge charges).charge other = (ledger.charge other).charge charges := by
  have hblocks : ((ledger.charge charges).charge other).block
      = ((ledger.charge other).charge charges).block := by
    rcases hblock with hnone | hnone
    · simp only [charge, hnone, Option.elim_none]
    · simp only [charge, hnone, Option.elim_none]
  have hepochs : ((ledger.charge charges).charge other).epochs
      = ((ledger.charge other).charge charges).epochs := by
    simp only [charge]
    cases hfirst : charges.usage with
    | none => rfl
    | some usage =>
      cases hlast : other.usage with
      | none => rfl
      | some last => exact ledger.epochs.apply_comm (husage usage hfirst last hlast)
  exact congrArg₂ Ledger.mk hblocks hepochs

end Ledger

namespace Gateway

variable {gateway first second : Gateway} {submission other : Submission}
  {submissions : List Submission} {charges : Charges} {vault : Vault} {failure : Failure}

/-! ### What a deposit is charged to -/

/-- A deposit without gas is not charged to the block. -/
theorem block_of_judge (h : gateway.judge submission = .ok charges)
    (hgas : submission.gas.isZero = true) : charges.block = none := by
  obtain ⟨hcheck, hblock, -⟩ := judge_eq_ok_iff.1 h
  rw [← (of_check hcheck).1] at hgas
  rw [planGas_of_no_gas hgas] at hblock
  exact (Except.ok.inj hblock).symm

/-- What a deposit is charged in an epoch is charged to the asset that it bridges. -/
theorem usage_of_judge (hfiled : gateway.ledger.epochs.Filed)
    (h : gateway.judge submission = .ok charges) :
    ∀ usage ∈ charges.usage, ∃ leg ∈ submission.funds?, usage.asset = leg.asset := by
  obtain ⟨hcheck, -, husage⟩ := judge_eq_ok_iff.1 h
  intro usage hsome
  rw [Ledger.planFunds, (of_check hcheck).2, hsome] at husage
  cases hleg : submission.funds? with
  | none =>
    rw [hleg] at husage
    cases husage
  | some leg =>
    rw [hleg] at husage
    refine ⟨leg, rfl, ?_⟩
    obtain ⟨record, hrecord, -, -, ⟨-, hnone⟩ | ⟨-, total, -, hplanned⟩⟩ :=
      EpochLimits.of_planEpoch_eq_ok husage
    · cases hnone
    · cases hplanned
      exact hfiled leg.asset record hrecord

theorem deposits_of_judge (h : gateway.judge submission = .ok charges) :
    charges.plan.deposits = submission.legs :=
  deposits_of_check (judge_eq_ok_iff.1 h).1

/-! ### A deposit does not see one that is apart from it -/

theorem judge_charged (hfiled : gateway.ledger.epochs.Filed) (hapart : other.Apart submission)
    (h : gateway.judge other = .ok charges) (vault : Vault) :
    (gateway.charged charges vault).judge submission = gateway.judge submission := by
  have hcheck : (gateway.charged charges vault).check submission.request submission.value
      = gateway.check submission.request submission.value := rfl
  apply judge_congr hcheck
  · intro plan hplan
    rcases hapart.1 with hnone | hnone
    · have hblock : (gateway.ledger.charge charges).block = gateway.ledger.block := by
        rw [Ledger.charge, block_of_judge h hnone]
        rfl
      rw [Ledger.planGas, Ledger.planGas, ledger_charged, hblock]
      rfl
    · rw [← hplan] at hnone
      rw [planGas_of_no_gas hnone, planGas_of_no_gas hnone]
  · intro plan hplan
    rw [Ledger.planFunds, Ledger.planFunds, hplan]
    cases hleg : submission.funds? with
    | none => rfl
    | some leg =>
      have hother : ∀ usage ∈ charges.usage, usage.asset ≠ leg.asset := by
        intro usage husage
        obtain ⟨drawn, hdrawn, hasset⟩ := usage_of_judge hfiled h usage husage
        rw [hasset]
        exact hapart.2 drawn hdrawn leg hleg
      simp only [ledger_charged, Ledger.record_charge_of_ne hother, Ledger.duration_charge]
      rfl

/-- Two deposits that are apart can be charged in either order. -/
theorem charged_comm {charges' : Charges} (hfiled : gateway.ledger.epochs.Filed)
    (hapart : other.Apart submission) (h : gateway.judge other = .ok charges)
    (h' : gateway.judge submission = .ok charges') (vault vault' both : Vault) :
    (gateway.charged charges vault).charged charges' both
      = (gateway.charged charges' vault').charged charges both := by
  have hblock : charges.block = none ∨ charges'.block = none :=
    hapart.1.imp (block_of_judge h) (block_of_judge h')
  have husage : ∀ usage ∈ charges.usage, ∀ last ∈ charges'.usage, usage.asset ≠ last.asset := by
    intro usage husage last hlast
    obtain ⟨leg, hleg, hasset⟩ := usage_of_judge hfiled h usage husage
    obtain ⟨leg', hleg', hasset'⟩ := usage_of_judge hfiled h' last hlast
    rw [hasset, hasset']
    exact hapart.2 leg hleg leg' hleg'
  exact congrArg (fun ledger => { gateway with ledger := ledger, vault := both })
    (Ledger.charge_comm hblock husage gateway.ledger)

/-- With room in the vault and no limit on legs, a deposit is ruled on by judgement and by whether
the vault refuses one of its legs. -/
theorem ruling_eq (hlimit : gateway.vault.limit = none)
    (hroom : gateway.vault.HasRoom submission.legs) :
    gateway.ruling submission = (gateway.judge submission).bind fun charges =>
      match gateway.vault.refusal? submission.legs submission.sender with
      | some why => .error (.refused why)
      | none => .ok charges := by
  rw [ruling]
  cases hjudge : gateway.judge submission with
  | error failure =>
    rw [verdict_eq_error_iff.2 (.inl hjudge)]
    rfl
  | ok charges =>
    have hlegs := deposits_of_judge hjudge
    cases hvault : gateway.vault.depositBatch charges.plan.deposits submission.sender with
    | error why =>
      rw [verdict_eq_error_iff.2 (.inr ⟨charges, why, hjudge, hvault, rfl⟩)]
      rw [hlegs, Vault.depositBatch_eq_error_iff hlimit hroom] at hvault
      rw [hvault]
      rfl
    | ok vault =>
      rw [verdict_eq_ok_iff.2 ⟨hjudge, hvault⟩]
      cases hrefusal : gateway.vault.refusal? submission.legs submission.sender with
      | none => rfl
      | some why =>
        rw [← Vault.depositBatch_eq_error_iff hlimit hroom, ← hlegs, hvault] at hrefusal
        cases hrefusal

/-- The gateway after a deposit, under whatever name it is sent. -/
def deposit (gateway : Gateway) (submission : Submission) : Gateway :=
  (gateway.submit "" submission).gateway

theorem deposit_of_verdict_error (h : gateway.verdict submission = .error failure) :
    gateway.deposit submission = gateway :=
  (submit_of_verdict_error "" h).2.1

theorem deposit_of_verdict_ok (h : gateway.verdict submission = .ok (charges, vault)) :
    gateway.deposit submission = gateway.charged charges vault :=
  (submit_of_verdict_ok "" h).2.1

theorem gateway_submit (gateway : Gateway) (id : String) (submission : Submission) :
    (gateway.submit id submission).gateway = gateway.deposit submission := by
  cases hverdict : gateway.verdict submission with
  | error failure =>
    rw [(submit_of_verdict_error id hverdict).2.1, deposit_of_verdict_error hverdict]
  | ok passed => rw [(submit_of_verdict_ok id hverdict).2.1, deposit_of_verdict_ok hverdict]

theorem clock_deposit (gateway : Gateway) (submission : Submission) :
    (gateway.deposit submission).clock = gateway.clock := by
  cases hverdict : gateway.verdict submission with
  | error failure => rw [deposit_of_verdict_error hverdict]
  | ok passed =>
    rw [deposit_of_verdict_ok hverdict]
    rfl

/-! ### Deposits that do not meet -/

/-- The deposits draw on different budgets, no limit on legs counts them, and the vault has room for
all that they would bring. -/
structure Independent (gateway : Gateway) (submissions : List Submission) : Prop where
  filed : gateway.ledger.epochs.Filed
  limit : gateway.vault.limit = none
  apart : submissions.Pairwise Submission.Apart
  room : gateway.vault.HasRoom (submissions.flatMap Submission.legs)

theorem Independent.sublist (h : gateway.Independent submissions) {few : List Submission}
    (hsub : few.Sublist submissions) : gateway.Independent few where
  filed := h.filed
  limit := h.limit
  apart := h.apart.sublist hsub
  room := h.room.sublist (hsub.flatMap Submission.legs)

theorem Independent.perm (h : gateway.Independent submissions) {others : List Submission}
    (hperm : submissions.Perm others) : gateway.Independent others where
  filed := h.filed
  limit := h.limit
  apart := (hperm.pairwise_iff Submission.Apart.symm).1 h.apart
  room := h.room.perm (hperm.flatMap_right Submission.legs)

theorem Independent.room_of_mem (h : gateway.Independent submissions)
    (hmem : submission ∈ submissions) : gateway.vault.HasRoom submission.legs := by
  have hone := h.sublist (List.singleton_sublist.2 hmem)
  simpa using hone.room

/-- What a deposit leaves behind does not concern those that come after it. -/
theorem Independent.deposit (h : gateway.Independent (other :: submissions)) :
    (gateway.deposit other).Independent submissions := by
  have hrest := h.sublist (List.sublist_cons_self other submissions)
  cases hverdict : gateway.verdict other with
  | error failure => rwa [deposit_of_verdict_error hverdict]
  | ok passed =>
    obtain ⟨charges, vault⟩ := passed
    obtain ⟨hjudge, htaken⟩ := verdict_eq_ok_iff.1 hverdict
    rw [deposits_of_judge hjudge] at htaken
    rw [deposit_of_verdict_ok hverdict]
    refine ⟨Ledger.filed_charge h.filed charges, ?_, hrest.apart, ?_⟩
    · show vault.limit = none
      rw [Vault.of_depositBatch htaken]
      exact h.limit
    · have hroom := h.room
      rw [List.flatMap_cons] at hroom
      exact hroom.after htaken

/-- A deposit is ruled on alike before and after one that it does not meet. -/
theorem Independent.ruling_deposit (h : gateway.Independent [other, submission]) :
    (gateway.deposit other).ruling submission = gateway.ruling submission := by
  have hafter := h.deposit
  cases hverdict : gateway.verdict other with
  | error failure => rw [deposit_of_verdict_error hverdict]
  | ok passed =>
    obtain ⟨charges, vault⟩ := passed
    obtain ⟨hjudge, htaken⟩ := verdict_eq_ok_iff.1 hverdict
    have hapart : other.Apart submission := by simpa using h.apart
    rw [ruling_eq hafter.limit (hafter.room_of_mem (by simp)),
      ruling_eq h.limit (h.room_of_mem (by simp)), deposit_of_verdict_ok hverdict,
      judge_charged h.filed hapart hjudge]
    show ((gateway.judge submission).bind fun charges =>
      match vault.refusal? submission.legs submission.sender with
      | some why => .error (.refused why)
      | none => .ok charges) = _
    rw [Vault.refusal?_of_depositBatch htaken]

theorem deposit_of_ruling_error (h : gateway.ruling submission = .error failure) :
    gateway.deposit submission = gateway :=
  deposit_of_verdict_error (map_eq_error_iff.1 h)

/-- A deposit that passes is charged as it is ruled, and the vault takes its legs. -/
theorem deposit_of_ruling_ok (h : gateway.ruling submission = .ok charges) :
    ∃ vault, gateway.vault.depositBatch submission.legs submission.sender = .ok vault
      ∧ gateway.judge submission = .ok charges
      ∧ gateway.deposit submission = gateway.charged charges vault := by
  obtain ⟨passed, hverdict, hcharges⟩ := map_eq_ok_iff.1 h
  obtain ⟨judged, vault⟩ := passed
  cases hcharges
  obtain ⟨hjudge, htaken⟩ := verdict_eq_ok_iff.1 hverdict
  rw [deposits_of_judge hjudge] at htaken
  exact ⟨vault, htaken, hjudge, deposit_of_verdict_ok hverdict⟩

/-- Two deposits that do not meet leave the same gateway in either order. -/
theorem Independent.deposit_comm (h : gateway.Independent [other, submission]) :
    (gateway.deposit other).deposit submission = (gateway.deposit submission).deposit other := by
  have hswap : gateway.Independent [submission, other] := h.perm (.swap ..)
  have hlast := h.ruling_deposit
  have hlast' := hswap.ruling_deposit
  cases hfirst : gateway.ruling other with
  | error failure =>
    rw [hfirst] at hlast'
    rw [deposit_of_ruling_error hfirst, deposit_of_ruling_error hlast']
  | ok charges =>
    cases hsecond : gateway.ruling submission with
    | error failure =>
      rw [hsecond] at hlast
      rw [deposit_of_ruling_error hsecond, deposit_of_ruling_error hlast]
    | ok charges' =>
      rw [hsecond] at hlast
      rw [hfirst] at hlast'
      obtain ⟨vault, htaken, hjudge, hdeposit⟩ := deposit_of_ruling_ok hfirst
      obtain ⟨vault', htaken', hjudge', hdeposit'⟩ := deposit_of_ruling_ok hsecond
      obtain ⟨both, htakenBoth, -, hboth⟩ := deposit_of_ruling_ok hlast
      obtain ⟨both', htakenBoth', -, hboth'⟩ := deposit_of_ruling_ok hlast'
      rw [hboth, hboth', hdeposit, hdeposit']
      rw [hdeposit] at htakenBoth
      rw [hdeposit'] at htakenBoth'
      have hapart : other.Apart submission := by simpa using h.apart
      have hvault : both = both' :=
        Vault.depositBatch_comm htaken htakenBoth htaken' htakenBoth'
      rw [hvault]
      exact charged_comm h.filed hapart hjudge hjudge' vault vault' both'

/-- Deposits that do not meet leave the same gateway in every order. -/
theorem Independent.foldl_perm {others : List Submission} (hperm : submissions.Perm others)
    (h : gateway.Independent submissions) :
    submissions.foldl Gateway.deposit gateway = others.foldl Gateway.deposit gateway := by
  induction hperm generalizing gateway with
  | nil => rfl
  | cons first _ ih => exact ih h.deposit
  | swap first second rest =>
    have hpair : gateway.Independent [second, first] := h.sublist (by simp)
    show rest.foldl Gateway.deposit ((gateway.deposit second).deposit first)
      = rest.foldl Gateway.deposit ((gateway.deposit first).deposit second)
    rw [hpair.deposit_comm]
  | trans hfirst _ ih ih' => exact (ih h).trans (ih' (h.perm hfirst))

/-! ### Runs of deposits -/

/-- Gateways that rule on a deposit alike at one time answer and announce it alike. -/
theorem submit_congr (hruling : first.ruling submission = second.ruling submission)
    (hclock : first.clock = second.clock) (id : String) :
    (first.submit id submission).result = (second.submit id submission).result
      ∧ (first.submit id submission).events = (second.submit id submission).events := by
  rw [result_submit, result_submit, events_submit, events_submit, hruling, hclock]
  exact ⟨rfl, rfl⟩

/-- The name of a deposit shows nowhere but in its receipt. -/
theorem perform_send (gateway : Gateway) (id : String) (submission : Submission) :
    let reply := gateway.perform (.send id submission.sender submission.request submission.value)
    reply.result.map Response.unnamed = (gateway.submit "" submission).result.map .receipt
      ∧ reply.events = (gateway.submit "" submission).events
      ∧ reply.gateway = gateway.deposit submission := by
  intro reply
  have hresult : reply.result = (gateway.submit id submission).result.map .receipt := rfl
  have hevents : reply.events = (gateway.submit id submission).events := rfl
  refine ⟨?_, ?_, gateway.gateway_submit id submission⟩
  · rw [hresult, result_submit, result_submit]
    cases gateway.ruling submission <;> rfl
  · rw [hevents, events_submit, events_submit]

theorem after_sends (gateway : Gateway) (named : List (String × Submission)) :
    gateway.after (sends named) = (named.map Prod.snd).foldl Gateway.deposit gateway := by
  induction named generalizing gateway with
  | nil => rfl
  | cons send rest ih =>
    rw [List.map_cons, List.foldl_cons, ← (gateway.perform_send send.1 send.2).2.2]
    exact ih _

/-- In a run of deposits that do not meet, each is answered and announced as it would be alone. -/
theorem Independent.run_sends {named : List (String × Submission)}
    (h : gateway.Independent (named.map Prod.snd)) :
    (gateway.run (sends named)).2.map (fun reply => reply.result.map Response.unnamed)
        = named.map (fun send => (gateway.submit "" send.2).result.map Response.receipt)
      ∧ gateway.eventsOf (sends named)
        = named.flatMap fun send => (gateway.submit "" send.2).events := by
  induction named generalizing gateway with
  | nil => exact ⟨rfl, rfl⟩
  | cons send rest ih =>
    obtain ⟨id, submission⟩ := send
    obtain ⟨hresult, hevents, hgateway⟩ := gateway.perform_send id submission
    obtain ⟨hresults, hlog⟩ := ih h.deposit
    -- What comes later is ruled on as if the first deposit had not been sent.
    have hrest : ∀ send ∈ rest,
        ((gateway.deposit submission).submit "" send.2).result
            = (gateway.submit "" send.2).result
          ∧ ((gateway.deposit submission).submit "" send.2).events
            = (gateway.submit "" send.2).events := by
      intro send hsend
      have hpair : [submission, send.2].Sublist (submission :: rest.map Prod.snd) :=
        (List.singleton_sublist.2 (List.mem_map_of_mem hsend)).cons_cons submission
      exact submit_congr (h.sublist hpair).ruling_deposit (gateway.clock_deposit submission) ""
    rw [← hgateway] at hresults hlog hrest
    constructor
    · refine List.cons_eq_cons.2 ⟨hresult, hresults.trans ?_⟩
      apply List.map_congr_left
      intro send hsend
      rw [(hrest send hsend).1]
    · refine congrArg₂ (· ++ ·) hevents (hlog.trans ?_)
      apply List.flatMap_congr
      intro send hsend
      exact (hrest send hsend).2

/-- On a gateway that can be reached and whose vault has no limit on legs armed, some deposits are
sent in two orders, at one time and in one block and each under any name. They are pairwise apart,
and the vault has room for all their legs. Then in either order each has the result that it would
have alone, up to the name of its receipt, and is announced as it would be alone, all its events
together; both orders end in the same gateway, with the same ledger, custody and count of legs, and
their events are the same up to their order. -/
theorem apart_deposits_commute (hreachable : gateway.Reachable)
    (hlimit : gateway.vault.limit = none) {named renamed : List (String × Submission)}
    (hperm : (named.map Prod.snd).Perm (renamed.map Prod.snd))
    (hapart : (named.map Prod.snd).Pairwise Submission.Apart)
    (hroom : gateway.vault.HasRoom ((named.map Prod.snd).flatMap Submission.legs)) :
    (∀ order ∈ [named, renamed],
      (gateway.run (sends order)).2.map (fun reply => reply.result.map Response.unnamed)
          = order.map (fun send => (gateway.submit "" send.2).result.map Response.receipt)
        ∧ gateway.eventsOf (sends order)
          = order.flatMap fun send => (gateway.submit "" send.2).events)
      ∧ gateway.after (sends named) = gateway.after (sends renamed)
      ∧ (gateway.eventsOf (sends named)).Perm (gateway.eventsOf (sends renamed)) := by
  have hnamed : gateway.Independent (named.map Prod.snd) :=
    ⟨hreachable.wellFormed.filed, hlimit, hapart, hroom⟩
  have hrenamed : gateway.Independent (renamed.map Prod.snd) := hnamed.perm hperm
  refine ⟨?_, ?_, ?_⟩
  · intro order horder
    rcases List.mem_pair.1 horder with rfl | rfl
    · exact hnamed.run_sends
    · exact hrenamed.run_sends
  · rw [after_sends, after_sends]
    exact hnamed.foldl_perm hperm
  · have hlog : ∀ order : List (String × Submission),
        order.flatMap (fun send => (gateway.submit "" send.2).events)
          = (order.map Prod.snd).flatMap
            fun submission => (gateway.submit "" submission).events := by
      intro order
      rw [List.flatMap_map]
    rw [hnamed.run_sends.2, hrenamed.run_sends.2, hlog, hlog]
    exact hperm.flatMap_right _

/-- Gas with bridged tokens, bridged native currency, and a token that is not supported. -/
def sampleApart : List (String × Submission) := [
  ("both", ⟨sampleAccount, sampleRequest sampleToken 60 [1], sampleGas⟩),
  ("native", ⟨sampleAccount, sampleRequest .native 500 [], .ofUInt64 500⟩),
  ("unknown", ⟨sampleAccount, sampleRequest (.token ⟨6, by decide⟩) 5 [], .zero⟩)]

/-- The first two deposits meet in the custody of native currency, and the last one fails. -/
theorem sampleApart_commute :
    sample.Reachable ∧ sample.vault.limit = none
      ∧ (sampleApart.map Prod.snd).Perm (sampleApart.reverse.map Prod.snd)
      ∧ (sampleApart.map Prod.snd).Pairwise Submission.Apart
      ∧ sample.vault.HasRoom ((sampleApart.map Prod.snd).flatMap Submission.legs)
      ∧ (sample.run (sends sampleApart.reverse)).2.map (fun reply =>
          reply.result.map Response.unnamed) = [
        .error (.refused (.tokenUnsupported (.token ⟨6, by decide⟩))),
        .ok (.receipt ⟨"", ⟨.funds, .zero, .zero, some ⟨.native, .ofUInt64 500⟩⟩, 7, some 1⟩),
        .ok (.receipt ⟨"", ⟨.fundsAndPayload, sampleGas, .ofDollars 4,
          some ⟨sampleToken, .ofUInt64 60⟩⟩, 7, some 1⟩)]
      ∧ sample.after (sends sampleApart) = sample.after (sends sampleApart.reverse) := by
  have hreachable : sample.Reachable := ⟨sample, sample_fresh, [], rfl⟩
  have hlimit : sample.vault.limit = none := rfl
  have hperm : (sampleApart.map Prod.snd).Perm (sampleApart.reverse.map Prod.snd) :=
    (List.reverse_perm sampleApart).symm.map Prod.snd
  have hapart : (sampleApart.map Prod.snd).Pairwise Submission.Apart := by decide +kernel
  have hlegs : (sampleApart.map Prod.snd).flatMap Submission.legs
      = [(.native, sampleGas), (sampleToken, .ofUInt64 60), (.native, .ofUInt64 500),
        (.token ⟨6, by decide⟩, .ofUInt64 5)] := by decide +kernel
  have hroom : sample.vault.HasRoom ((sampleApart.map Prod.snd).flatMap Submission.legs) := by
    intro asset
    have hempty : (sample.vault.custodyOf asset).val = 0 := rfl
    have hgas : sampleGas.val = 2000000000000000 := rfl
    rw [hlegs, hempty]
    simp only [Vault.moved_cons, Vault.moved_nil, hgas, Amount.val_ofUInt64]
    split_ifs <;> decide
  obtain ⟨hruns, hafter, -⟩ :=
    apart_deposits_commute hreachable hlimit hperm hapart hroom
  refine ⟨hreachable, hlimit, hperm, hapart, hroom, ?_, hafter⟩
  rw [(hruns sampleApart.reverse (by simp)).1]
  decide +kernel

end Gateway

end DepositGate
