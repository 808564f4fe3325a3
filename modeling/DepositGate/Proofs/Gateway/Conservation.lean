import DepositGate.Proofs.Gateway.Counts
import DepositGate.Proofs.Request

/-!
# Custody and events agree

What the gateway holds of an asset is what its events say came in less what they say went out. An
admitted deposit moves as much as it announces, leg by leg, whichever of the four kinds it is of:
its native value is split into gas and bridged currency and both are announced, and where there is
no gas beside the funds none is announced. A release moves what its event says, and settings move
nothing.
-/

namespace DepositGate

/-- What an event says came into custody of an asset. -/
def Event.incoming (asset : Asset) : Event → Nat
  | .deposited leg => if leg.asset = asset then leg.amount.val else 0
  | _ => 0

/-- What an event says left custody of an asset. -/
def Event.outgoing (asset : Asset) : Event → Nat
  | .withdrawn _ moved amount => if moved = asset then amount.val else 0
  | .reverted _ moved amount _ => if moved = asset then amount.val else 0
  | _ => 0

namespace Gateway

variable {gateway next : Gateway} {call : Call} {event : Event} {events : List Event}
  {request : Request} {value : Amount} {plan : Plan} {staged : Staged} {vault : Vault}
  {id : String} {sender : Address}

/-! ### What an admitted deposit moves -/

theorem splitInto_of_check (h : gateway.check request value = .ok plan) :
    request.SplitInto value ⟨plan.kind, plan.gas, plan.funds⟩ := by
  obtain ⟨legs, hexamine, hprice⟩ := bind_eq_ok_iff.1 h
  obtain ⟨gasUsd, -, hplan⟩ := bind_eq_ok_iff.1 hprice
  cases hplan
  obtain ⟨_, -, hrest⟩ := bind_eq_ok_iff.1 hexamine
  obtain ⟨split, hsplit, hlegs⟩ := bind_eq_ok_iff.1 hrest
  split at hlegs
  · cases hlegs
  · cases hlegs
    exact Request.splitInto_of_plan hsplit

theorem moved_deposits (plan : Plan) (asset : Asset) :
    Vault.moved plan.deposits asset = (if Asset.native = asset then plan.gas.val else 0)
      + (plan.funds.map fun leg => if leg.asset = asset then leg.amount.val else 0).getD 0 := by
  rw [Plan.deposits, Vault.moved_append]
  have hgas : Vault.moved (if plan.hasGas then [(Asset.native, plan.gas)] else []) asset
      = if Asset.native = asset then plan.gas.val else 0 := by
    by_cases hhas : plan.hasGas = true
    · rw [if_pos hhas]
      simp
    · have hzero : plan.gas.val = 0 := by simpa [Plan.hasGas] using hhas
      rw [if_neg hhas, hzero]
      simp
  rw [hgas]
  cases plan.funds <;> simp

/-- The legs of a plan move the native value sent and, of a token, the amount bridged. -/
theorem moved_of_splitInto (h : request.SplitInto value ⟨plan.kind, plan.gas, plan.funds⟩)
    (asset : Asset) : Vault.moved plan.deposits asset
      = if Asset.native = asset then value.val
        else if request.asset = asset then request.amount.val else 0 := by
  obtain ⟨kind, gas, gasUsd, funds⟩ := plan
  rw [moved_deposits]
  cases h with
  | instant hinstant hamount =>
    rw [hamount]
    simp
  | bridged hbridged hgas hsum =>
    by_cases hnative : Asset.native = asset
    · subst hnative
      simpa using hsum
    · simp [hnative]

/-- The legs of a plan are announced in full. -/
theorem incoming_announcements (h : request.SplitInto value ⟨plan.kind, plan.gas, plan.funds⟩)
    (sender : Address) (asset : Asset) :
    (((announcements sender request plan).map Event.deposited).map (Event.incoming asset)).sum
      = Vault.moved plan.deposits asset := by
  obtain ⟨kind, gas, gasUsd, funds⟩ := plan
  rw [moved_deposits, announcements]
  cases h with
  | instant hinstant hamount =>
    rw [if_pos hinstant]
    simp [Event.incoming]
  | bridged hbridged hgas hsum =>
    rw [if_neg (by simp [hbridged])]
    split
    · simp [Event.incoming]
    · rename_i hboth
      -- Gas that is not announced apart from the funds is no gas at all.
      have hzero : gas.val = 0 := by
        cases kind with
        | gas => cases hbridged
        | gasAndPayload => cases hbridged
        | funds => exact hgas rfl
        | fundsAndPayload => simpa [Plan.hasGas] using hboth
      simp [Event.incoming, hzero]

/-! ### The balance is kept -/

/-- The vault holds what the events say came in and did not go out. -/
def Balanced (gateway : Gateway) (events : List Event) : Prop :=
  ∀ asset, (gateway.vault.custodyOf asset).val + (events.map (Event.outgoing asset)).sum
    = (events.map (Event.incoming asset)).sum

theorem settings_move_nothing (h : gateway.governed? call = some (next, event)) :
    next.vault = gateway.vault
      ∧ ∀ asset, event.outgoing asset = 0 ∧ event.incoming asset = 0 := by
  cases call with
  | setCaps _ min max =>
    obtain ⟨caps, rfl, rfl⟩ := of_governed?_setCaps h
    exact ⟨rfl, fun _ => ⟨rfl, rfl⟩⟩
  | _ => cases h <;> exact ⟨rfl, fun _ => ⟨rfl, rfl⟩⟩

theorem Balanced.deposit (h : gateway.Balanced events)
    (hassess : gateway.assess request value = .ok staged)
    (hvault : gateway.vault.depositBatch staged.plan.deposits sender = .ok vault) :
    (gateway.settled staged vault).Balanced
      (events ++ (announcements sender request staged.plan).map Event.deposited) := by
  intro asset
  have hsplit := splitInto_of_check (assess_eq_ok_iff.1 hassess).1
  have hcustody := Vault.custodyOf_depositBatch hvault asset
  have hincoming := incoming_announcements hsplit sender asset
  have houtgoing : (((announcements sender request staged.plan).map Event.deposited).map
      (Event.outgoing asset)).sum = 0 := by
    simp [Event.outgoing, Function.comp_def]
  have hbefore := h asset
  show (vault.custodyOf asset).val + _ = _
  rw [List.map_append, List.sum_append, List.map_append, List.sum_append, hincoming, houtgoing,
    hcustody]
  omega

theorem Balanced.release {caller recipient : Address} {moved : Asset} {amount : Amount}
    (h : gateway.Balanced events)
    (hrelease : gateway.release caller moved amount recipient = .ok vault)
    (hevent : event = .withdrawn recipient moved amount
      ∨ ∃ message, event = .reverted recipient moved amount message) :
    Balanced { gateway with vault := vault } (events ++ [event]) := by
  intro asset
  have hcustody : (vault.custodyOf asset).val + (if moved = asset then amount.val else 0)
      = (gateway.vault.custodyOf asset).val :=
    Vault.custodyOf_release (of_release hrelease) asset
  have houtgoing : event.outgoing asset = if moved = asset then amount.val else 0 := by
    rcases hevent with rfl | ⟨message, rfl⟩
    · rfl
    · rfl
  have hincoming : event.incoming asset = 0 := by
    rcases hevent with rfl | ⟨message, rfl⟩
    · rfl
    · rfl
  have hbefore := h asset
  show (vault.custodyOf asset).val + _ = _
  simp only [List.map_append, List.map_cons, List.map_nil, List.sum_append, List.sum_singleton,
    houtgoing, hincoming]
  omega

theorem Balanced.perform (h : gateway.Balanced events) (call : Call) :
    (gateway.perform call).gateway.Balanced (events ++ (gateway.perform call).events) := by
  cases gateway.perform_effect call with
  | quiet hgateway hevents =>
    rw [hgateway, hevents, List.append_nil]
    exact h
  | deposit staged vault hassess hvault _ hgateway hevents =>
    rw [hgateway, hevents]
    exact h.deposit hassess hvault
  | release caller asset amount recipient vault event hrelease hevent _ hgateway hevents =>
    rw [hgateway, hevents]
    exact h.release hrelease hevent
  | govern next event hgoverned _ hgateway hevents =>
    obtain ⟨hvault, hnothing⟩ := settings_move_nothing hgoverned
    rw [hgateway, hevents]
    intro asset
    obtain ⟨houtgoing, hincoming⟩ := hnothing asset
    rw [hvault]
    simpa [houtgoing, hincoming] using h asset

theorem Balanced.change (h : gateway.Balanced events) (change : Change) :
    (gateway.change change).Balanced events := by
  intro asset
  have hsame : (gateway.change change).vault.custodyOf asset = gateway.vault.custodyOf asset := by
    cases change with
    | vault change => exact gateway.vault.custodyOf_change change asset
    | _ => rfl
  rw [hsame]
  exact h asset

/-! ### Every run -/

/-- All events of a run in their order. -/
def eventsOf (start : Gateway) (steps : List Step) : List Event :=
  (start.run steps).2.flatMap Reply.events

theorem eventsOf_call (gateway : Gateway) (call : Call) (rest : List Step) :
    gateway.eventsOf (.call call :: rest)
      = (gateway.perform call).events ++ (gateway.perform call).gateway.eventsOf rest := rfl

theorem mem_eventsOf_iff {start : Gateway} {steps : List Step} :
    event ∈ start.eventsOf steps ↔ ∃ turn ∈ start.turns steps, event ∈ turn.reply.events := by
  rw [eventsOf, replies_eq, List.flatMap_map, List.mem_flatMap]

theorem Balanced.after {start : Gateway} (h : start.Balanced []) (steps : List Step) :
    (start.after steps).Balanced (start.eventsOf steps) := by
  rw [eventsOf, replies_eq, List.flatMap_map]
  exact notes_invariant (fun turn => turn.reply.events) Balanced
    (fun _ call _ hbefore => hbefore.perform call)
    (fun _ change _ hbefore => hbefore.change change) h steps

theorem of_send_eq_ok {receipt : Receipt}
    (h : (gateway.send id sender request value).result = .ok receipt) :
    ∃ staged vault, gateway.assess request value = .ok staged
      ∧ gateway.vault.depositBatch staged.plan.deposits sender = .ok vault
      ∧ (gateway.send id sender request value).gateway = gateway.settled staged vault := by
  cases hassess : gateway.assess request value with
  | error failure =>
    rw [(send_of_assess_error id sender hassess).1] at h
    cases h
  | ok staged =>
    cases hvault : gateway.vault.depositBatch staged.plan.deposits sender with
    | error why =>
      rw [(send_of_vault_error id hassess hvault).1] at h
      cases h
    | ok vault => exact ⟨staged, vault, rfl, hvault, (send_of_taken id hassess hvault).2.1⟩

theorem custodyOf_send {receipt : Receipt}
    (h : (gateway.send id sender request value).result = .ok receipt) (asset : Asset) :
    ((gateway.send id sender request value).gateway.vault.custodyOf asset).val
      = (gateway.vault.custodyOf asset).val
        + if Asset.native = asset then value.val
          else if request.asset = asset then request.amount.val else 0 := by
  obtain ⟨staged, vault, hassess, hvault, hgateway⟩ := of_send_eq_ok h
  have hsplit := splitInto_of_check (assess_eq_ok_iff.1 hassess).1
  rw [hgateway, ← moved_of_splitInto hsplit]
  exact Vault.custodyOf_depositBatch hvault asset

/-- After any run of a gateway whose vault held nothing, what the vault holds of an asset and what
the events say was released of it sum up to what the events say was deposited. An admitted deposit
raises native custody by the native value sent, the custody of its token by the amount bridged, and
no other custody. -/
theorem custody_balances_events {start : Gateway} (hempty : start.vault.custody = .empty)
    (steps : List Step) :
    let gateway := start.after steps
    let events := start.eventsOf steps
    (∀ asset, (gateway.vault.custodyOf asset).val + (events.map (Event.outgoing asset)).sum
        = (events.map (Event.incoming asset)).sum)
      ∧ ∀ id sender request value receipt,
        (gateway.send id sender request value).result = .ok receipt →
        let vault := (gateway.send id sender request value).gateway.vault
        (vault.custodyOf .native).val = (gateway.vault.custodyOf .native).val + value.val
          ∧ (request.asset ≠ .native → (vault.custodyOf request.asset).val
            = (gateway.vault.custodyOf request.asset).val + request.amount.val)
          ∧ ∀ asset, asset ≠ .native → asset ≠ request.asset →
            vault.custodyOf asset = gateway.vault.custodyOf asset := by
  intro gateway events
  have hstart : start.Balanced [] := by
    intro asset
    rw [Vault.custodyOf, hempty]
    rfl
  refine ⟨hstart.after steps, ?_⟩
  intro id sender request value receipt hsend vault
  have hcustody := custodyOf_send hsend
  refine ⟨?_, ?_, ?_⟩
  · have hnative := hcustody .native
    rwa [if_pos rfl] at hnative
  · intro hfungible
    have htoken := hcustody request.asset
    rwa [if_neg (Ne.symm hfungible), if_pos rfl] at htoken
  · intro asset hnative hother
    have hsame := hcustody asset
    rw [if_neg (Ne.symm hnative), if_neg (Ne.symm hother), Nat.add_zero] at hsame
    exact Amount.ext hsame

/-- Native currency bridged with gas and data to run, a token bridged, and some of it withdrawn. -/
def sampleTransfers : List Step := [
  .call (.send "native" sampleAccount (sampleRequest .native 500 [1]) (.ofUInt64 2000000000000500)),
  .call (.send "token" sampleAccount (sampleRequest sampleToken 60 []) .zero),
  .call (.withdraw sampleAccount sampleToken (.ofUInt64 20) sampleAccount)]

/-- What is held of the token and what was withdrawn make up what was bridged, and 400 more units of
native currency are held once they are bridged. -/
theorem sampleTransfers_balance_events :
    sample.vault.custody = .empty
      ∧ ((sample.eventsOf sampleTransfers).map (Event.incoming sampleToken)).sum = 40 + 20
      ∧ (((sample.after sampleTransfers).send "last" sampleAccount (sampleRequest .native 400 [])
          (.ofUInt64 400)).gateway.vault.custodyOf .native).val = 2000000000000500 + 400 := by
  have htoken : ((sample.after sampleTransfers).vault.custodyOf sampleToken).val = 40 := by
    decide +kernel
  have hnative : ((sample.after sampleTransfers).vault.custodyOf .native).val
      = 2000000000000500 := by decide +kernel
  have hout : ((sample.eventsOf sampleTransfers).map (Event.outgoing sampleToken)).sum = 20 := by
    decide +kernel
  have hsend : ((sample.after sampleTransfers).send "last" sampleAccount
      (sampleRequest .native 400 []) (.ofUInt64 400)).result
        = .ok ⟨"last", ⟨.funds, .zero, .zero, some ⟨.native, .ofUInt64 400⟩⟩, 7, some 1⟩ := by
    decide +kernel
  have hempty : sample.vault.custody = .empty := rfl
  obtain ⟨hbalance, hdeposit⟩ := custody_balances_events hempty sampleTransfers
  refine ⟨hempty, ?_, ?_⟩
  · rw [← hbalance sampleToken, htoken, hout]
  · rw [(hdeposit _ _ _ _ _ hsend).1, hnative]
    rfl

end Gateway

end DepositGate
