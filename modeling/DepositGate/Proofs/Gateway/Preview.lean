import DepositGate.Proofs.Config.Valid
import DepositGate.Proofs.Gateway.Counts
import DepositGate.Proofs.Price
import DepositGate.Proofs.Request

/-!
# Previews tell what sending would do

On a gateway that can be reached every preview ends in a plan or a refusal: no computation on the
way stops on a fault, because the decimal places of the native currency stay what the configuration
was checked for. What a preview refuses is refused with the same reason when it is sent, and what it
admits fails only if the vault does not take the legs of the plan.
-/

namespace DepositGate.Gateway

variable {gateway next : Gateway} {call : Call} {event : Event} {request : Request}
  {value : Amount} {plan : Plan} {id : String} {sender : Address}

/-! ### Gateways that can be reached -/

/-- The native currency has no more decimal places than a configuration may ask for, and each epoch
record stands under its asset. -/
structure WellFormed (gateway : Gateway) : Prop where
  decimals : gateway.policy.nativeDecimals ≤ Config.maxNativeDecimals
  filed : gateway.ledger.epochs.Filed

theorem Fresh.wellFormed (h : gateway.Fresh) : gateway.WellFormed := by
  refine ⟨?_, h.filed⟩
  obtain ⟨config, _, _, _, _, start, hstart, vault, paused, rfl⟩ := h
  obtain ⟨hvalid, _, _, -, -, hpolicy, -⟩ := of_configure hstart
  show start.policy.nativeDecimals ≤ Config.maxNativeDecimals
  rw [hpolicy]
  exact (Config.valid_of_validate hvalid).nativeDecimals

theorem nativeDecimals_perform (gateway : Gateway) (call : Call) :
    (gateway.perform call).gateway.policy.nativeDecimals = gateway.policy.nativeDecimals := by
  cases gateway.perform_effect call with
  | quiet hgateway => rw [hgateway]
  | deposit staged vault _ _ _ hgateway =>
    rw [hgateway]
    rfl
  | release _ _ _ _ vault _ _ _ _ hgateway => rw [hgateway]
  | govern next event hgoverned _ hgateway =>
    rw [hgateway]
    cases call with
    | setCaps _ min max =>
      obtain ⟨caps, rfl, -⟩ := of_governed?_setCaps hgoverned
      rfl
    | _ => cases hgoverned <;> rfl

theorem WellFormed.perform (h : gateway.WellFormed) (call : Call) :
    (gateway.perform call).gateway.WellFormed := by
  refine ⟨gateway.nativeDecimals_perform call ▸ h.decimals, ?_⟩
  rcases gateway.counting_or_countsAlike call with ⟨receipt, hcounting⟩ | ⟨-, halike⟩
  · exact hcounting.filed h.filed
  · exact halike.filed h.filed

theorem WellFormed.change (h : gateway.WellFormed) (change : Change) :
    (gateway.change change).WellFormed := by
  refine ⟨?_, (gateway.ledger_change change).symm ▸ h.filed⟩
  have hsame : (gateway.change change).policy = gateway.policy := by
    cases change <;> rfl
  rw [hsame]
  exact h.decimals

theorem Reachable.wellFormed (h : gateway.Reachable) : gateway.WellFormed := by
  obtain ⟨start, hfresh, steps, rfl⟩ := h
  exact invariant WellFormed (fun _ call hbefore => hbefore.perform call)
    (fun _ change hbefore => hbefore.change change) hfresh.wellFormed steps

/-- Whatever is called in a run finds a well-formed gateway. -/
theorem Fresh.wellFormed_turns (h : gateway.Fresh) (steps : List Step) :
    ∀ turn ∈ gateway.turns steps, turn.gateway.WellFormed :=
  (invariant_of_turns WellFormed (fun _ => True) (fun _ call _ hbefore => hbefore.perform call)
    (fun _ change hbefore => hbefore.change change) h.wellFormed fun _ _ => trivial).1

/-! ### Judging a request never stops on a fault -/

theorem faultless_examine (gateway : Gateway) (request : Request) (value : Amount) :
    Faultless (gateway.examine request value) := by
  apply (faultless_refusing _).bind
  intro _ _
  apply (request.faultless_plan value).bind
  intro legs _
  split
  · exact faultless_refused _
  · exact faultless_ok _

theorem WellFormed.faultless_price (h : gateway.WellFormed) (gas : Amount) :
    Faultless (gateway.price gas) := by
  rw [price]
  split
  · exact faultless_ok _
  · apply (gateway.oracle.faultless_quote gateway.clock.now).bind
    intro quote _
    exact gateway.policy.faultless_check quote.price gas (UInt8.le_iff_toNat_le.1 h.decimals)

theorem WellFormed.faultless_draw (h : gateway.WellFormed) (plan : Plan) :
    Faultless (gateway.draw plan) := by
  intro what hdraw
  rcases (draw_eq_error_iff h.filed).1 hdraw with ⟨-, hblock⟩ | ⟨-, leg, -, hepoch⟩
  · cases hblock
  · rcases h.filed.consume_eq_error_iff.1 hepoch with ⟨-, heq⟩ | ⟨-, -, heq⟩
    · cases heq
    · cases heq

theorem WellFormed.faultless_assess (h : gateway.WellFormed) (request : Request) (value : Amount) :
    Faultless (gateway.assess request value) := by
  have hcheck : Faultless (gateway.check request value) := by
    apply (gateway.faultless_examine request value).bind
    intro legs _
    apply (h.faultless_price legs.gas).bind
    intro gasUsd _
    exact faultless_ok _
  apply hcheck.bind
  intro plan _
  apply (h.faultless_draw plan).bind
  intro drawn _
  exact faultless_ok _

/-! ### Previewing and sending -/

theorem preview_quiet (gateway : Gateway) (request : Request) (value : Amount) :
    (gateway.preview request value).gateway = gateway
      ∧ (gateway.preview request value).events = []
      ∧ (gateway.preview request value).tallies = [] :=
  ⟨gateway.gateway_preview request value, gateway.filterMap_event?_assessSignals request value,
    gateway.filterMap_tally?_assessSignals request value⟩

theorem preview_eq_ok_iff : (gateway.preview request value).result = .ok plan
    ↔ ∃ staged, gateway.assess request value = .ok staged ∧ staged.plan = plan := by
  rw [preview]
  cases gateway.assess request value <;> simp [Except.map]

theorem preview_eq_error_iff {failure : Failure} :
    (gateway.preview request value).result = .error failure
      ↔ gateway.assess request value = .error failure := by
  rw [preview]
  cases gateway.assess request value <;> simp [Except.map]

/-- What the rules before the vault admit is refused exactly if the vault refuses its legs, and for
the vault's reason. -/
theorem send_refused_iff_of_preview (id : String) (sender : Address) (why : Refusal)
    (h : (gateway.preview request value).result = .ok plan) :
    (gateway.send id sender request value).result = .error (.refused why)
      ↔ gateway.vault.depositBatch plan.deposits sender = .error why := by
  obtain ⟨staged, hassess, rfl⟩ := preview_eq_ok_iff.1 h
  cases hvault : gateway.vault.depositBatch staged.plan.deposits sender with
  | ok vault =>
    rw [(send_of_taken id hassess hvault).1]
    simp
  | error flaw =>
    rw [(send_of_vault_error id hassess hvault).1]
    simp

theorem send_admitted_of_preview (id : String) {vault : Vault}
    (h : (gateway.preview request value).result = .ok plan)
    (hvault : gateway.vault.depositBatch plan.deposits sender = .ok vault) :
    ∃ receipt, (gateway.send id sender request value).result = .ok receipt
      ∧ receipt.plan = plan := by
  obtain ⟨staged, hassess, rfl⟩ := preview_eq_ok_iff.1 h
  exact ⟨_, (send_of_taken id hassess hvault).1, rfl⟩

theorem deposits_eq_nil (hgas : plan.hasGas = false) (hfunds : plan.funds = none) :
    plan.deposits = [] := by
  rw [Plan.deposits, hgas, hfunds]
  rfl

/-- A preview changes nothing and ends in a plan or a refusal. A request that it refuses is refused
for the same reason when it is sent, which changes nothing either. A request that it admits is sent
with the plan it told of, or fails as a transfer; the latter exactly if the vault refuses the legs
of the plan, and never if the plan has no legs. -/
theorem preview_agrees_with_send (hreachable : gateway.Reachable) (id : String) (sender : Address)
    (request : Request) (value : Amount) :
    let preview := gateway.preview request value
    let send := gateway.send id sender request value
    (preview.gateway = gateway ∧ preview.events = [] ∧ preview.tallies = [])
      ∧ ((∃ plan, preview.result = .ok plan) ∨ ∃ why, preview.result = .error (.refused why))
      ∧ (∀ why, preview.result = .error (.refused why) →
        send.result = .error (.refused why) ∧ send.gateway = gateway ∧ send.events = [])
      ∧ ∀ plan, preview.result = .ok plan →
        ((∃ receipt, send.result = .ok receipt ∧ receipt.plan = plan)
            ∨ ∃ flaw, send.result = .error (.refused (.transferFailed flaw)))
          ∧ (∀ why, send.result = .error (.refused why)
            ↔ gateway.vault.depositBatch plan.deposits sender = .error why)
          ∧ (plan.hasGas = false → plan.funds = none →
            ∃ receipt, send.result = .ok receipt ∧ receipt.plan = plan) := by
  intro preview send
  refine ⟨gateway.preview_quiet request value, ?_, ?_, ?_⟩
  · rcases (hreachable.wellFormed.faultless_assess request value).ok_or_refused with
      ⟨staged, hassess⟩ | ⟨why, hassess⟩
    · exact .inl ⟨staged.plan, preview_eq_ok_iff.2 ⟨staged, hassess, rfl⟩⟩
    · exact .inr ⟨why, preview_eq_error_iff.2 hassess⟩
  · intro why hpreview
    exact send_of_assess_error id sender (preview_eq_error_iff.1 hpreview)
  · intro plan hpreview
    refine ⟨?_, fun why => send_refused_iff_of_preview id sender why hpreview, ?_⟩
    · -- Past the preview the vault alone decides.
      cases hvault : gateway.vault.depositBatch plan.deposits sender with
      | ok vault => exact .inl (send_admitted_of_preview id hpreview hvault)
      | error why =>
        obtain ⟨flaw, rfl⟩ :=
          Refusal.kind_eq_transferFailed_iff.1 (Vault.kind_of_depositBatch hvault)
        exact .inr ⟨flaw, (send_refused_iff_of_preview id sender _ hpreview).2 hvault⟩
    · intro hgas hfunds
      obtain ⟨vault, hvault⟩ := gateway.vault.depositBatch_nil sender
      rw [← deposits_eq_nil hgas hfunds] at hvault
      exact send_admitted_of_preview id hpreview hvault

/-- On a vault that fails, gas that is too little is refused by a preview, four dollars of gas are
admitted by one and then refused by the vault, and data alone is admitted by both. -/
theorem failing_sample_previews :
    let failing := sample.after [.change (.vault (.failing true))]
    failing.Reachable
      ∧ (failing.send "little" sampleAccount (sampleRequest .native 0 []) (.ofUInt64 1)).result
        = .error (.refused (.outOfRange ⟨.ofUInt64 2000⟩ (.ofDollars 1) (.ofDollars 10)))
      ∧ (failing.send "gas" sampleAccount (sampleRequest .native 0 []) sampleGas).result
        = .error (.refused (.transferFailed (.depositRefused sampleGas .native sampleAccount)))
      ∧ ∃ receipt, (failing.send "data" sampleAccount (sampleRequest .native 0 [1]) .zero).result
          = .ok receipt
        ∧ receipt.plan = ⟨.gasAndPayload, .zero, .zero, none⟩ := by
  intro failing
  have hreachable : failing.Reachable := ⟨sample, sample_fresh, _, rfl⟩
  have hlittle : (failing.preview (sampleRequest .native 0 []) (.ofUInt64 1)).result
      = .error (.refused (.outOfRange ⟨.ofUInt64 2000⟩ (.ofDollars 1) (.ofDollars 10))) := by
    decide +kernel
  have hgas : (failing.preview (sampleRequest .native 0 []) sampleGas).result
      = .ok ⟨.gas, sampleGas, .ofDollars 4, none⟩ := by decide +kernel
  have hdata : (failing.preview (sampleRequest .native 0 [1]) .zero).result
      = .ok ⟨.gasAndPayload, .zero, .zero, none⟩ := by decide +kernel
  obtain ⟨-, -, hrefused, -⟩ := preview_agrees_with_send hreachable "little" sampleAccount
    (sampleRequest .native 0 []) (.ofUInt64 1)
  obtain ⟨-, -, -, hadmitted⟩ := preview_agrees_with_send hreachable "gas" sampleAccount
    (sampleRequest .native 0 []) sampleGas
  obtain ⟨-, -, -, hwithout⟩ := preview_agrees_with_send hreachable "data" sampleAccount
    (sampleRequest .native 0 [1]) .zero
  refine ⟨hreachable, (hrefused _ hlittle).1, ?_, ?_⟩
  · exact ((hadmitted _ hgas).2.1 _).2 (by decide +kernel)
  · exact (hwithout _ hdata).2.2 (by decide) rfl

end DepositGate.Gateway
