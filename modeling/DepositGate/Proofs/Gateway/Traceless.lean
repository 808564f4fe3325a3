import DepositGate.Proofs.Gateway.Conservation
import DepositGate.Proofs.Gateway.Preview

/-!
# Calls that leave no trace

A call that fails, for whatever reason and however late, and a call that only asks leave the whole
gateway as it was and publish nothing. All that such a call may leave is a count of its failure. So
a run ends as it would have without these calls, with the same events on the way.
-/

namespace DepositGate

/-- The call asks for something and does nothing else. -/
def Call.isQuery : Call → Bool
  | .preview .. | .blockConsumed | .usage _ | .nativeBounds | .ledger => true
  | _ => false

/-- The call asks for assets to be moved, into custody or out of it. -/
def Call.movesAssets : Call → Bool
  | .send .. | .withdraw .. | .revert .. => true
  | _ => false

/-- Tells of something that failed. -/
def Tally.countsFailure : Tally → Bool
  | .transferFailure | .rejection _ => true
  | .admission _ | .blockConsumed _ => false

namespace Gateway

variable {gateway : Gateway} {call : Call} {failure : Failure}

/-! ### What is counted -/

theorem countsFailure_of_reject (gateway : Gateway) (failure : Failure) :
    ∀ tally ∈ (gateway.reject failure).tallies, tally.countsFailure = true := by
  cases failure with
  | refused why => exact List.forall_mem_singleton.2 rfl
  | fault what => exact List.forall_mem_nil _

theorem countsFailure_of_discard (gateway : Gateway) (sender : Address) (why : Refusal) :
    ∀ tally ∈ (gateway.discard sender why).tallies, tally.countsFailure = true :=
  List.forall_mem_cons.2 ⟨rfl, List.forall_mem_singleton.2 rfl⟩

theorem countsFailure_of_send_error {id : String} {sender : Address} {request : Request}
    {value : Amount} (h : (gateway.send id sender request value).result = .error failure) :
    ∀ tally ∈ (gateway.send id sender request value).tallies, tally.countsFailure = true := by
  have hjudging := gateway.filterMap_tally?_assessSignals request value
  cases hassess : gateway.assess request value with
  | error failure =>
    simp only [send, hassess, Reply.tallies, List.filterMap_append, hjudging, List.nil_append]
    exact gateway.countsFailure_of_reject failure
  | ok staged =>
    cases hvault : gateway.vault.depositBatch staged.plan.deposits sender with
    | error why =>
      simp only [send, hassess, hvault, Reply.tallies, List.filterMap_append, hjudging,
        List.nil_append]
      exact gateway.countsFailure_of_discard sender why
    | ok vault =>
      rw [(send_of_taken id hassess hvault).1] at h
      cases h

theorem countsFailure_of_releaseReply (gateway : Gateway) (result : Except Failure Vault)
    (asset : Asset) (amount : Amount) (notice : Notice) (event : Event) :
    ∀ tally ∈ (gateway.releaseReply result asset amount notice event).tallies,
      tally.countsFailure = true := by
  unfold releaseReply
  split
  · exact List.forall_mem_nil _
  · exact List.forall_mem_singleton.2 rfl
  · exact List.forall_mem_nil _

theorem tallies_administer (gateway : Gateway) (caller : Address) (next : Except Refusal Gateway)
    (notice : Notice) (event : Event) :
    (gateway.administer caller next notice event).tallies = [] := by
  unfold administer
  split <;> rfl

theorem tallies_setPaused (gateway : Gateway) (caller : Address) (paused : Bool) (notice : Notice)
    (event : Event) : (gateway.setPaused caller paused notice event).tallies = [] := by
  unfold setPaused
  split <;> rfl

theorem filterMap_tally?_quoteSignals (gateway : Gateway) :
    gateway.quoteSignals.filterMap Signal.tally? = [] := by
  rw [quoteSignals]
  split <;> rfl

/-- A query changes, publishes and counts nothing, whatever it is answered. -/
theorem perform_query (gateway : Gateway) (h : call.isQuery = true) :
    (gateway.perform call).gateway = gateway ∧ (gateway.perform call).events = []
      ∧ (gateway.perform call).tallies = [] := by
  cases call with
  | preview request value => exact gateway.preview_quiet request value
  | nativeBounds =>
    exact ⟨rfl, gateway.filterMap_event?_quoteSignals, gateway.filterMap_tally?_quoteSignals⟩
  | blockConsumed => exact ⟨rfl, rfl, rfl⟩
  | usage asset => exact ⟨rfl, rfl, rfl⟩
  | ledger => exact ⟨rfl, rfl, rfl⟩
  | _ => cases h

/-- A call that moves no assets counts nothing, whatever it is answered. -/
theorem tallies_of_still (gateway : Gateway) (h : call.movesAssets = false) :
    (gateway.perform call).tallies = [] := by
  cases call with
  | send id sender request value => cases h
  | withdraw caller asset amount recipient => cases h
  | revert caller asset amount refund => cases h
  | setCaps caller min max => exact gateway.tallies_administer _ _ _ _
  | setBlockCap caller cap => exact gateway.tallies_administer _ _ _ _
  | setThreshold caller asset threshold => exact gateway.tallies_administer _ _ _ _
  | setEpochDuration caller seconds => exact gateway.tallies_administer _ _ _ _
  | setFeed caller feed => exact gateway.tallies_administer _ _ _ _
  | setStalePeriod caller seconds => exact gateway.tallies_administer _ _ _ _
  | setSequencer caller sequencer grace => exact gateway.tallies_administer _ _ _ _
  | pause caller => exact gateway.tallies_setPaused _ _ _ _
  | unpause caller => exact gateway.tallies_setPaused _ _ _ _
  | _ => exact (gateway.perform_query rfl).2.2

/-- Any call counts failures alone if it is not carried out. -/
theorem countsFailure_of_error (h : (gateway.perform call).result = .error failure) :
    ∀ tally ∈ (gateway.perform call).tallies, tally.countsFailure = true := by
  cases call with
  | send id sender request value =>
    have hsend : (gateway.send id sender request value).result = .error failure :=
      map_eq_error_iff.1 h
    exact countsFailure_of_send_error hsend
  | withdraw caller asset amount recipient => exact gateway.countsFailure_of_releaseReply _ _ _ _ _
  | revert caller asset amount refund => exact gateway.countsFailure_of_releaseReply _ _ _ _ _
  | _ =>
    rw [gateway.tallies_of_still rfl]
    exact List.forall_mem_nil _

/-! ### Failures and queries change nothing -/

theorem perform_error (h : (gateway.perform call).result = .error failure) :
    (gateway.perform call).gateway = gateway ∧ (gateway.perform call).events = [] := by
  cases gateway.perform_effect call with
  | quiet hgateway hevents => exact ⟨hgateway, hevents⟩
  | deposit staged vault _ _ hresult =>
    rw [hresult] at h
    cases h
  | release _ _ _ _ _ _ _ _ hresult =>
    rw [hresult] at h
    cases h
  | govern _ _ _ hresult =>
    rw [hresult] at h
    cases h

/-- The call fails, or it only asks. -/
def Traceless (gateway : Gateway) (call : Call) : Prop :=
  (∃ failure, (gateway.perform call).result = .error failure) ∨ call.isQuery = true

instance (gateway : Gateway) (call : Call) : Decidable (gateway.Traceless call) :=
  match h : (gateway.perform call).result with
  | .error failure => .isTrue (.inl ⟨failure, h⟩)
  | .ok _ => decidable_of_iff (call.isQuery = true) (by simp [Traceless, h])

theorem Traceless.unchanged (h : gateway.Traceless call) :
    (gateway.perform call).gateway = gateway ∧ (gateway.perform call).events = [] := by
  rcases h with ⟨failure, herror⟩ | hquery
  · exact perform_error herror
  · obtain ⟨hgateway, hevents, -⟩ := gateway.perform_query hquery
    exact ⟨hgateway, hevents⟩

/-- What remains of a run without the calls that fail and those that only ask. -/
def effective (gateway : Gateway) : List Step → List Step
  | [] => []
  | .change change :: rest => .change change :: (gateway.change change).effective rest
  | .call call :: rest =>
    if gateway.Traceless call then gateway.effective rest
    else .call call :: (gateway.perform call).gateway.effective rest

theorem run_effective (gateway : Gateway) (steps : List Step) :
    gateway.after (gateway.effective steps) = gateway.after steps
      ∧ gateway.eventsOf (gateway.effective steps) = gateway.eventsOf steps := by
  induction steps generalizing gateway with
  | nil => exact ⟨rfl, rfl⟩
  | cons step rest ih =>
    cases step with
    | change change => exact ih (gateway.change change)
    | call call =>
      rw [effective, after_call, eventsOf_call]
      split
      · rename_i htraceless
        obtain ⟨hgateway, hevents⟩ := htraceless.unchanged
        rw [hgateway, hevents]
        exact ih gateway
      · obtain ⟨hafter, hevents⟩ := ih (gateway.perform call).gateway
        rw [after_call, eventsOf_call, hafter, hevents]
        exact ⟨rfl, rfl⟩

/-- A call that fails leaves the gateway as it was, with all that it holds, counts and is set to,
and publishes no event, and so does a call that only asks; the first may count its failure, and the
second counts nothing. A run without all such calls ends in the same state after the same events. -/
theorem failures_and_queries_leave_no_trace (gateway : Gateway) :
    (∀ call, gateway.Traceless call →
      let reply := gateway.perform call
      reply.gateway = gateway ∧ reply.events = []
        ∧ (∀ tally ∈ reply.tallies, tally.countsFailure = true)
        ∧ (call.isQuery = true → reply.tallies = []))
      ∧ ∀ steps, gateway.after (gateway.effective steps) = gateway.after steps
        ∧ gateway.eventsOf (gateway.effective steps) = gateway.eventsOf steps := by
  refine ⟨?_, gateway.run_effective⟩
  intro call htraceless reply
  obtain ⟨hgateway, hevents⟩ := htraceless.unchanged
  refine ⟨hgateway, hevents, ?_, fun hquery => (gateway.perform_query hquery).2.2⟩
  rcases htraceless with ⟨failure, herror⟩ | hquery
  · exact countsFailure_of_error herror
  · have hnone : reply.tallies = [] := (gateway.perform_query hquery).2.2
    rw [hnone]
    exact List.forall_mem_nil _

/-- On a vault that refuses the token: bounds in the wrong order, a pause by nobody, a preview, and
a deposit that has drawn on both budgets and had its gas let in before its token is refused. -/
def sampleTraceless : List Call := [
  .setCaps sampleAccount (.ofDollars 10) (.ofDollars 1),
  .pause .zero,
  .preview (sampleRequest sampleToken 60 [1]) sampleGas,
  .send "late" sampleAccount (sampleRequest sampleToken 60 [1]) sampleGas]

theorem sampleTraceless_leave_no_trace :
    let refusing := sample.after [.change (.vault (.refuse sampleToken))]
    (∀ call ∈ sampleTraceless, refusing.Traceless call
        ∧ (refusing.perform call).gateway = refusing ∧ (refusing.perform call).events = [])
      ∧ (refusing.perform (.send "late" sampleAccount (sampleRequest sampleToken 60 [1])
          sampleGas)).result = .error (.refused (.transferFailed
            (.depositRefused (.ofUInt64 60) sampleToken sampleAccount))) := by
  intro refusing
  have hall : ∀ call ∈ sampleTraceless, refusing.Traceless call := by decide +kernel
  refine ⟨?_, by decide +kernel⟩
  intro call hcall
  have htraceless := hall call hcall
  obtain ⟨hgateway, hevents, -⟩ :=
    (failures_and_queries_leave_no_trace refusing).1 call htraceless
  exact ⟨htraceless, hgateway, hevents⟩

end Gateway

end DepositGate
