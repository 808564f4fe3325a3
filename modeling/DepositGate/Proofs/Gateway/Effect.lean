import DepositGate.Gateway.Run
import DepositGate.Proofs.Gateway.Draw

/-!
# What a call does

A call of the gateway has one of four effects. It may change and publish nothing, as queries,
previews and all failures do. It may carry out a deposit that every rule admits and the vault took.
It may release what it was asked to. Or it may put a setting in force and publish the one event that
says so. All invariants are derived from this one case distinction, and none unfolds a call again.
-/

namespace DepositGate

namespace Reply

variable {α β : Type} (f : α → β) (reply : Reply α)

@[simp] theorem result_map : (reply.map f).result = reply.result.map f := rfl

end Reply

namespace Gateway

variable {gateway : Gateway} {id : String} {sender caller recipient : Address} {request : Request}
  {value amount : Amount} {asset : Asset} {staged : Staged} {vault : Vault} {failure : Failure}
  {why : Refusal}

/-! ### Signals without events -/

theorem filterMap_event?_quoteSignals (gateway : Gateway) :
    gateway.quoteSignals.filterMap Signal.event? = [] := by
  rw [quoteSignals]
  split <;> rfl

theorem filterMap_event?_assessSignals (gateway : Gateway) (request : Request) (value : Amount) :
    (gateway.assessSignals request value).filterMap Signal.event? = [] := by
  rw [assessSignals]
  split
  · split
    · rfl
    · exact gateway.filterMap_event?_quoteSignals
  · rfl

theorem filterMap_tally?_assessSignals (gateway : Gateway) (request : Request) (value : Amount) :
    (gateway.assessSignals request value).filterMap Signal.tally? = [] := by
  rw [assessSignals, quoteSignals]
  repeat' split
  all_goals rfl

/-! ### Deposits -/

/-- A request that a rule rejects changes nothing. -/
theorem send_of_assess_error (id : String) (sender : Address)
    (h : gateway.assess request value = .error failure) :
    (gateway.send id sender request value).result = .error failure
      ∧ (gateway.send id sender request value).gateway = gateway
      ∧ (gateway.send id sender request value).events = [] := by
  refine ⟨by rw [send, h]; rfl, by rw [send, h]; rfl, ?_⟩
  rw [send, h, Reply.events, List.filterMap_append, filterMap_event?_assessSignals]
  cases failure <;> rfl

/-- A request that the vault rejects changes nothing. -/
theorem send_of_vault_error (id : String) (h : gateway.assess request value = .ok staged)
    (hvault : gateway.vault.depositBatch staged.plan.deposits sender = .error why) :
    (gateway.send id sender request value).result = .error (.refused why)
      ∧ (gateway.send id sender request value).gateway = gateway
      ∧ (gateway.send id sender request value).events = [] := by
  refine ⟨by simp only [send, h, hvault]; rfl, by simp only [send, h, hvault]; rfl, ?_⟩
  simp only [send, h, hvault]
  rw [Reply.events, List.filterMap_append, filterMap_event?_assessSignals]
  rfl

theorem send_of_taken (id : String) (h : gateway.assess request value = .ok staged)
    (hvault : gateway.vault.depositBatch staged.plan.deposits sender = .ok vault) :
    (gateway.send id sender request value).result
        = .ok ⟨id, staged.plan, gateway.clock.block, staged.epoch⟩
      ∧ (gateway.send id sender request value).gateway = gateway.settled staged vault
      ∧ (gateway.send id sender request value).events
          = (announcements sender request staged.plan).map Event.deposited := by
  refine ⟨by simp only [send, h, hvault]; rfl, by simp only [send, h, hvault]; rfl, ?_⟩
  have htook : (tookInSignals staged.plan sender).filterMap Signal.event? = [] := by
    rw [tookInSignals]
    split <;> rfl
  have hmap : ∀ legs : List Announcement,
      (legs.map fun leg => Signal.event (.deposited leg)).filterMap Signal.event?
        = legs.map Event.deposited := by
    intro legs
    rw [List.filterMap_map]
    exact congrFun List.filterMap_eq_map legs
  simp only [send, h, hvault]
  simp only [Reply.events, List.filterMap_append, filterMap_event?_assessSignals, carryOut, htook,
    hmap]
  exact List.append_nil _

/-! ### Releases -/

/-- What the gateway releases the vault releases. -/
theorem of_release (h : gateway.release caller asset amount recipient = .ok vault) :
    gateway.vault.release asset amount recipient = .ok vault := by
  obtain ⟨_, -, hrest⟩ := bind_eq_ok_iff.1 h
  obtain ⟨_, -, hrest⟩ := bind_eq_ok_iff.1 hrest
  split at hrest
  · cases hrest
  · split at hrest
    · cases hrest
    · exact hrest

/-! ### Changes of settings -/

/-- The gateway that a call on its settings asks for and the event that tells of it, if the setting
may be had; none for other calls. -/
def governed? (gateway : Gateway) : Call → Option (Gateway × Event)
  | .setCaps _ min max => (Caps.ofBounds min max).toOption.map fun caps =>
    ({ gateway with policy := { gateway.policy with caps := caps } }, .capsSet min max)
  | .setBlockCap _ cap =>
    some (gateway.withLedger (gateway.ledger.setBlockCap cap), .blockCapSet cap)
  | .setThreshold _ asset threshold =>
    some (gateway.withLedger (gateway.ledger.setThreshold asset threshold),
      .thresholdSet asset threshold)
  | .setEpochDuration _ seconds =>
    some (gateway.withLedger (gateway.ledger.setDuration seconds), .epochDurationSet seconds)
  | .setFeed _ feed => some (gateway.withOracle { gateway.oracle with feed := feed }, .feedReplaced)
  | .setStalePeriod _ seconds =>
    some (gateway.withOracle { gateway.oracle with window := seconds }, .stalePeriodSet seconds)
  | .setSequencer _ sequencer grace =>
    some (gateway.withOracle
        { gateway.oracle with sequencer := sequencer.map fun status => (status, grace) },
      .sequencerSet sequencer.isSome grace)
  | .pause caller => some ({ gateway with isPaused := true }, .paused caller)
  | .unpause caller => some ({ gateway with isPaused := false }, .unpaused caller)
  | _ => none

theorem of_governed?_setCaps {min max : Usd} {next : Gateway} {event : Event}
    (h : gateway.governed? (.setCaps caller min max) = some (next, event)) :
    ∃ caps, next = { gateway with policy := { gateway.policy with caps := caps } }
      ∧ event = .capsSet min max := by
  obtain ⟨caps, -, hcaps⟩ := Option.map_eq_some_iff.1 h
  cases hcaps
  exact ⟨caps, rfl, rfl⟩

/-! ### The four effects -/

inductive Effect (gateway : Gateway) : Call → Reply Response → Prop where
  | quiet {call reply} (hgateway : reply.gateway = gateway) (hevents : reply.events = [])
      (hresult : ∀ receipt, reply.result ≠ .ok (.receipt receipt)) : Effect gateway call reply
  | deposit {id sender request value reply} (staged : Staged) (vault : Vault)
      (hassess : gateway.assess request value = .ok staged)
      (hvault : gateway.vault.depositBatch staged.plan.deposits sender = .ok vault)
      (hresult : reply.result
        = .ok (.receipt ⟨id, staged.plan, gateway.clock.block, staged.epoch⟩))
      (hgateway : reply.gateway = gateway.settled staged vault)
      (hevents : reply.events = (announcements sender request staged.plan).map Event.deposited) :
      Effect gateway (.send id sender request value) reply
  | release {call reply} (caller : Address) (asset : Asset) (amount : Amount) (recipient : Address)
      (vault : Vault) (event : Event)
      (hrelease : gateway.release caller asset amount recipient = .ok vault)
      (hevent : event = .withdrawn recipient asset amount
        ∨ ∃ message, event = .reverted recipient asset amount message)
      (hresult : reply.result = .ok .done)
      (hgateway : reply.gateway = { gateway with vault := vault })
      (hevents : reply.events = [event]) : Effect gateway call reply
  | govern {call reply} (next : Gateway) (event : Event)
      (hgoverned : gateway.governed? call = some (next, event)) (hresult : reply.result = .ok .done)
      (hgateway : reply.gateway = next) (hevents : reply.events = [event]) :
      Effect gateway call reply

theorem effect_send (gateway : Gateway) (id : String) (sender : Address) (request : Request)
    (value : Amount) : gateway.Effect (.send id sender request value)
      ((gateway.send id sender request value).map .receipt) := by
  cases hassess : gateway.assess request value with
  | error failure =>
    obtain ⟨hresult, hgateway, hevents⟩ := send_of_assess_error id sender hassess
    exact .quiet hgateway hevents (by simp [hresult, Except.map])
  | ok staged =>
    cases hvault : gateway.vault.depositBatch staged.plan.deposits sender with
    | error why =>
      obtain ⟨hresult, hgateway, hevents⟩ := send_of_vault_error id hassess hvault
      exact .quiet hgateway hevents (by simp [hresult, Except.map])
    | ok vault =>
      obtain ⟨hresult, hgateway, hevents⟩ := send_of_taken id hassess hvault
      exact .deposit staged vault hassess hvault (by simp [hresult, Except.map]) hgateway hevents

theorem effect_release {call : Call} {notice : Notice} {event : Event}
    (hevent : event = .withdrawn recipient asset amount
      ∨ ∃ message, event = .reverted recipient asset amount message) :
    gateway.Effect call ((gateway.releaseReply (gateway.release caller asset amount recipient) asset
      amount notice event).map fun _ => .done) := by
  cases hrelease : gateway.release caller asset amount recipient with
  | ok vault => exact .release caller asset amount recipient vault event hrelease hevent rfl rfl rfl
  | error failure =>
    unfold releaseReply
    split
    · contradiction
    · exact .quiet rfl rfl nofun
    · exact .quiet rfl rfl nofun

theorem effect_administer {call : Call} {next : Except Refusal Gateway} {notice : Notice}
    {event : Event} (hnext : ∀ after, next = .ok after →
      gateway.governed? call = some (after, event)) :
    gateway.Effect call ((gateway.administer caller next notice event).map fun _ => .done) := by
  unfold administer
  split
  · exact .quiet rfl rfl nofun
  · exact .quiet rfl rfl nofun
  · exact .govern _ event (hnext _ rfl) rfl rfl rfl

theorem effect_administer_ok {call : Call} {next : Gateway} {notice : Notice} {event : Event}
    (hgoverned : gateway.governed? call = some (next, event)) :
    gateway.Effect call
      ((gateway.administer caller (.ok next) notice event).map fun _ => .done) := by
  apply effect_administer
  intro after hafter
  cases hafter
  exact hgoverned

theorem effect_setPaused {call : Call} {paused : Bool} {notice : Notice} {event : Event}
    (hgoverned : gateway.governed? call = some ({ gateway with isPaused := paused }, event)) :
    gateway.Effect call
      ((gateway.setPaused caller paused notice event).map fun _ => .done) := by
  unfold setPaused
  split
  · exact .quiet rfl rfl nofun
  · exact .govern _ event hgoverned rfl rfl rfl

theorem effect_answer (gateway : Gateway) (call : Call) {result : Except Failure Response}
    (hresult : ∀ receipt, result ≠ .ok (.receipt receipt)) :
    gateway.Effect call (gateway.answer result) :=
  .quiet rfl rfl hresult

theorem perform_effect (gateway : Gateway) (call : Call) :
    gateway.Effect call (gateway.perform call) := by
  cases call with
  | send id sender request value => exact gateway.effect_send id sender request value
  | preview request value =>
    refine .quiet (gateway.gateway_preview request value)
      (gateway.filterMap_event?_assessSignals request value) ?_
    intro receipt
    simp only [perform, preview, Reply.result_map]
    cases gateway.assess request value <;> simp [Except.map]
  | withdraw caller asset amount recipient => exact effect_release (.inl rfl)
  | revert caller asset amount refund => exact effect_release (.inr ⟨refund.message, rfl⟩)
  | setCaps caller min max =>
    refine effect_administer fun after hafter => ?_
    cases hcaps : Caps.ofBounds min max with
    | error why =>
      rw [hcaps] at hafter
      cases hafter
    | ok caps =>
      rw [hcaps] at hafter
      cases hafter
      simp [governed?, hcaps, Except.toOption]
  | setBlockCap caller cap => exact effect_administer_ok rfl
  | setThreshold caller asset threshold => exact effect_administer_ok rfl
  | setEpochDuration caller seconds => exact effect_administer_ok rfl
  | setFeed caller feed => exact effect_administer_ok rfl
  | setStalePeriod caller seconds => exact effect_administer_ok rfl
  | setSequencer caller sequencer grace => exact effect_administer_ok rfl
  | pause caller => exact effect_setPaused rfl
  | unpause caller => exact effect_setPaused rfl
  | blockConsumed => exact gateway.effect_answer _ (by simp)
  | usage asset =>
    refine gateway.effect_answer _ fun receipt => ?_
    cases gateway.usage asset <;> simp [Except.map]
  | nativeBounds =>
    refine .quiet rfl gateway.filterMap_event?_quoteSignals fun receipt => ?_
    simp only [perform, Reply.result_map]
    cases gateway.nativeBounds.result <;> simp [Except.map]
  | ledger => exact gateway.effect_answer _ (by simp)

end Gateway

end DepositGate
