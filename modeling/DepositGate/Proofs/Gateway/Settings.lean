import DepositGate.Proofs.Gateway.Traceless
import DepositGate.Proofs.Gateway.Verdict

/-!
# Settings are what the events say

Eleven calls need a role: seven change a setting, two stop and restart the gateway, and two release
what it holds. Each such call publishes one event if it is carried out and none if it is not, and it
is carried out only for a caller with a role for it. All other calls, deposits among them, publish
nothing that needs a role.

The settings in force are those of the configuration, amended by the events in their order. Deposits
write into the records that also hold caps and thresholds, yet they leave these as they are, and so
does everything from outside. The bounds of a deposit stay positive and in order all the while.
-/

namespace DepositGate

/-- What the administrator and the pauser have put in force. -/
@[ext]
structure Settings where
  caps : Caps
  blockCap : Usd
  /-- The threshold of each asset; zero if it is not supported. -/
  threshold : Asset → Amount
  epochDuration : UInt64
  stalePeriod : UInt64
  watchesSequencer : Bool
  isPaused : Bool

/-- The settings after an event. -/
def Settings.amend (settings : Settings) : Event → Settings
  | .capsSet min max => { settings with caps := ⟨min, max⟩ }
  | .blockCapSet cap => { settings with blockCap := cap }
  | .thresholdSet asset threshold => { settings with
    threshold := fun other => if asset = other then threshold else settings.threshold other }
  | .epochDurationSet seconds => { settings with epochDuration := seconds }
  | .stalePeriodSet seconds => { settings with stalePeriod := seconds }
  | .sequencerSet enabled _ => { settings with watchesSequencer := enabled }
  | .paused _ => { settings with isPaused := true }
  | .unpaused _ => { settings with isPaused := false }
  | .deposited _ | .withdrawn .. | .reverted .. | .feedReplaced => settings

/-- The settings that a configuration asks for. -/
def Config.settings (config : Config) (watchesSequencer isPaused : Bool) :
    Except Flaw Settings := do
  let caps ← config.caps
  let blockCap ← config.blockBudget
  return {
    caps := caps
    blockCap := blockCap
    threshold := fun asset => (config.thresholds.find? asset).getD .zero
    epochDuration := config.epochDuration
    stalePeriod := config.stalePeriod
    watchesSequencer := watchesSequencer
    isPaused := isPaused }

/-- A call that needs a role: who makes it, which roles it may be made with, and the event that
tells of it. -/
structure Privilege where
  caller : Address
  roles : List Role
  event : Event

def Call.privilege? : Call → Option Privilege
  | .withdraw caller asset amount recipient =>
    some ⟨caller, [.tss], .withdrawn recipient asset amount⟩
  | .revert caller asset amount refund =>
    some ⟨caller, [.tss], .reverted refund.recipient asset amount refund.message⟩
  | .setCaps caller min max => some ⟨caller, [.admin], .capsSet min max⟩
  | .setBlockCap caller cap => some ⟨caller, [.admin], .blockCapSet cap⟩
  | .setThreshold caller asset threshold => some ⟨caller, [.admin], .thresholdSet asset threshold⟩
  | .setEpochDuration caller seconds => some ⟨caller, [.admin], .epochDurationSet seconds⟩
  | .setFeed caller _ => some ⟨caller, [.admin], .feedReplaced⟩
  | .setStalePeriod caller seconds => some ⟨caller, [.admin], .stalePeriodSet seconds⟩
  | .setSequencer caller sequencer grace =>
    some ⟨caller, [.admin], .sequencerSet sequencer.isSome grace⟩
  | .pause caller => some ⟨caller, [.pauser, .admin], .paused caller⟩
  | .unpause caller => some ⟨caller, [.pauser, .admin], .unpaused caller⟩
  | .send .. | .preview .. | .blockConsumed | .usage _ | .nativeBounds | .ledger => none

/-- The roles of which one is needed for an event to be published; none for a deposit, which is
open to all. -/
def Event.roles? : Event → Option (List Role)
  | .deposited _ => none
  | .withdrawn .. | .reverted .. => some [.tss]
  | .paused _ | .unpaused _ => some [.pauser, .admin]
  | .capsSet .. | .blockCapSet _ | .thresholdSet .. | .epochDurationSet _ | .feedReplaced
  | .stalePeriodSet _ | .sequencerSet .. => some [.admin]

namespace Gateway

variable {gateway next : Gateway} {call : Call} {event : Event} {caller : Address}
  {privilege : Privilege}

def settings (gateway : Gateway) : Settings where
  caps := gateway.policy.caps
  blockCap := gateway.ledger.block.cap
  threshold := gateway.ledger.epochs.threshold
  epochDuration := gateway.ledger.epochs.duration
  stalePeriod := gateway.oracle.window
  watchesSequencer := gateway.oracle.sequencer.isSome
  isPaused := gateway.isPaused

/-! ### Calls that need a role -/

theorem requireRole_eq_ok_iff {role : Role} {others : List Role} :
    gateway.requireRole caller role others = .ok ()
      ↔ ∃ held ∈ role :: others, gateway.roles.holds held caller = true := by
  rw [requireRole, ← List.any_eq_true]
  split
  · rename_i hany
    simp [hany]
  · rename_i hany
    simp [hany]

/-- How a call that needs a role ends: done for a caller who has one, and told of by its event, or
failed and told of by none. -/
inductive Outcome (gateway : Gateway) (privilege : Privilege) {α : Type} (reply : Reply α) : Prop
  | done (a : α) (hresult : reply.result = .ok a)
      (hrole : ∃ role ∈ privilege.roles, gateway.roles.holds role privilege.caller = true)
      (hevents : reply.events = [privilege.event])
  | failed (failure : Failure) (hresult : reply.result = .error failure)
      (hevents : reply.events = [])

theorem Outcome.map {α β : Type} {reply : Reply α} (h : gateway.Outcome privilege reply)
    (f : α → β) : gateway.Outcome privilege (reply.map f) := by
  cases h with
  | done a hresult hrole hevents =>
    exact .done (f a) (by rw [Reply.result_map, hresult]; rfl) hrole hevents
  | failed failure hresult hevents =>
    exact .failed failure (by rw [Reply.result_map, hresult]; rfl) hevents

theorem outcome_administer (gateway : Gateway) (caller : Address) (next : Except Refusal Gateway)
    (notice : Notice) (event : Event) : gateway.Outcome ⟨caller, [.admin], event⟩
      (gateway.administer caller next notice event) := by
  unfold administer
  cases hrole : gateway.requireRole caller .admin [] with
  | error why => exact .failed (.refused why) rfl rfl
  | ok passed =>
    cases next with
    | error why => exact .failed (.refused why) rfl rfl
    | ok after => exact .done () rfl (requireRole_eq_ok_iff.1 hrole) rfl

theorem outcome_setPaused (gateway : Gateway) (caller : Address) (paused : Bool) (notice : Notice)
    (event : Event) : gateway.Outcome ⟨caller, [.pauser, .admin], event⟩
      (gateway.setPaused caller paused notice event) := by
  unfold setPaused
  cases hrole : gateway.requireRole caller .pauser [.admin] with
  | error why => exact .failed (.refused why) rfl rfl
  | ok passed => exact .done () rfl (requireRole_eq_ok_iff.1 hrole) rfl

theorem outcome_release (gateway : Gateway) (caller : Address) (asset : Asset) (amount : Amount)
    (recipient : Address) (notice : Notice) (event : Event) :
    gateway.Outcome ⟨caller, [.tss], event⟩ (gateway.releaseReply
      (gateway.release caller asset amount recipient) asset amount notice event) := by
  cases hrelease : gateway.release caller asset amount recipient with
  | ok vault =>
    obtain ⟨_, hrole, -⟩ := bind_eq_ok_iff.1 hrelease
    exact .done () rfl (requireRole_eq_ok_iff.1 (refusing_eq_ok_iff.1 hrole)) rfl
  | error failure =>
    unfold releaseReply
    split
    · contradiction
    · exact .failed _ rfl rfl
    · exact .failed _ rfl rfl

theorem outcome_perform (gateway : Gateway) (h : call.privilege? = some privilege) :
    gateway.Outcome privilege (gateway.perform call) := by
  cases call with
  | withdraw | revert =>
    cases h
    exact (gateway.outcome_release ..).map _
  | setCaps | setBlockCap | setThreshold | setEpochDuration | setFeed | setStalePeriod
  | setSequencer =>
    cases h
    exact (gateway.outcome_administer ..).map _
  | pause | unpause =>
    cases h
    exact (gateway.outcome_setPaused ..).map _
  | _ => cases h

theorem roles?_of_privilege? (h : call.privilege? = some privilege) :
    privilege.event.roles? = some privilege.roles := by
  cases call <;> cases h <;> rfl

/-- What needs no role publishes nothing that does. -/
theorem roles?_of_unprivileged (h : call.privilege? = none)
    (hevent : event ∈ (gateway.perform call).events) : event.roles? = none := by
  cases call with
  | send id sender request value =>
    have hevents := gateway.events_submit id ⟨sender, request, value⟩
    change event ∈ (gateway.submit id ⟨sender, request, value⟩).events at hevent
    rw [hevents] at hevent
    split at hevent
    · obtain ⟨leg, -, rfl⟩ := List.mem_map.1 hevent
      rfl
    · cases hevent
  | preview | blockConsumed | usage | nativeBounds | ledger =>
    rw [(gateway.perform_query rfl).2.1] at hevent
    cases hevent
  | _ => cases h

/-- A call that needs a role publishes its event if it is carried out, and else none. -/
theorem events_of_privilege? (h : call.privilege? = some privilege) :
    (∀ response, (gateway.perform call).result = .ok response →
        (gateway.perform call).events = [privilege.event])
      ∧ ∀ failure, (gateway.perform call).result = .error failure →
        (gateway.perform call).events = [] := by
  cases gateway.outcome_perform h with
  | done a hresult _ hevents =>
    refine ⟨fun _ _ => hevents, ?_⟩
    intro failure herror
    rw [hresult] at herror
    cases herror
  | failed failure hresult hevents =>
    refine ⟨?_, fun _ _ => hevents⟩
    intro response hok
    rw [hresult] at hok
    cases hok

/-- An event that needs a role comes of a call by somebody who holds one. -/
theorem role_of_event {needed : List Role} (hevent : event ∈ (gateway.perform call).events)
    (hneeded : event.roles? = some needed) :
    ∃ privilege, call.privilege? = some privilege ∧ privilege.event = event
      ∧ ∃ role ∈ needed, gateway.roles.holds role privilege.caller = true := by
  cases hprivilege : call.privilege? with
  | none =>
    rw [roles?_of_unprivileged hprivilege hevent] at hneeded
    cases hneeded
  | some privilege =>
    cases gateway.outcome_perform hprivilege with
    | done a _ hrole hevents =>
      rw [hevents, List.mem_singleton] at hevent
      subst hevent
      rw [roles?_of_privilege? hprivilege] at hneeded
      cases hneeded
      exact ⟨privilege, rfl, rfl, hrole⟩
    | failed failure _ hevents =>
      rw [hevents] at hevent
      cases hevent

/-! ### What a step does to the settings -/

/-- Bounds that are put in force are the ones asked for, and valid. -/
theorem caps_governed? {min max : Usd}
    (h : gateway.governed? (.setCaps caller min max) = some (next, event)) :
    next = { gateway with policy := { gateway.policy with caps := ⟨min, max⟩ } }
      ∧ event = .capsSet min max ∧ Caps.Valid ⟨min, max⟩ := by
  obtain ⟨caps, hcaps, hpair⟩ := Option.map_eq_some_iff.1 h
  cases hpair
  cases hbounds : Caps.ofBounds min max with
  | error why =>
    rw [hbounds] at hcaps
    cases hcaps
  | ok bounds =>
    rw [hbounds] at hcaps
    cases hcaps
    obtain ⟨rfl, hvalid⟩ := Caps.ofBounds_eq_ok_iff.1 hbounds
    exact ⟨rfl, rfl, hvalid⟩

/-- A change of a setting amends the settings as its event says. -/
theorem settings_governed? (h : gateway.governed? call = some (next, event)) :
    next.settings = gateway.settings.amend event := by
  cases call with
  | setCaps caller min max =>
    obtain ⟨rfl, rfl, -⟩ := caps_governed? h
    rfl
  | setThreshold caller asset threshold =>
    cases h
    have hthreshold := gateway.ledger.epochs.threshold_setThreshold asset threshold
    exact Settings.ext rfl rfl (funext hthreshold) rfl rfl rfl rfl
  | setSequencer caller sequencer grace =>
    cases h
    exact Settings.ext rfl rfl rfl rfl rfl Option.isSome_map rfl
  | _ => cases h <;> rfl

/-- Deposits are charged to the records that hold caps and thresholds, and leave these alone. -/
theorem settings_settled {request : Request} {value : Amount} {staged : Staged}
    (hfiled : gateway.ledger.epochs.Filed)
    (hassess : gateway.assess request value = .ok staged) (vault : Vault) :
    (gateway.settled staged vault).settings = gateway.settings := by
  have hdraws := of_draw hfiled (assess_eq_ok_iff.1 hassess).2
  have hcap : staged.txn.commit.block.cap = gateway.ledger.block.cap := by
    rcases hdraws.gas with ⟨-, hconsume⟩ | ⟨-, hsame⟩
    · rcases BlockBudget.of_consume_eq_ok hconsume with ⟨-, hsame⟩ | ⟨-, -, hcap, -⟩
      · rw [hsame]
      · exact hcap
    · rw [hsame]
  have hepochs : staged.txn.commit.epochs.duration = gateway.ledger.epochs.duration
      ∧ ∀ asset, staged.txn.commit.epochs.threshold asset
        = gateway.ledger.epochs.threshold asset := by
    rcases hdraws.funds with ⟨-, -, hsame⟩ | ⟨leg, -, hconsume, -⟩
    · rw [hsame]
      exact ⟨rfl, fun _ => rfl⟩
    · exact hfiled.settings_of_consume hconsume
  exact Settings.ext rfl hcap (funext hepochs.2) hepochs.1 rfl rfl rfl

theorem foldl_amend_deposited (settings : Settings) (legs : List Announcement) :
    (legs.map Event.deposited).foldl Settings.amend settings = settings := by
  induction legs with
  | nil => rfl
  | cons leg rest ih => exact ih

theorem settings_perform (hfiled : gateway.ledger.epochs.Filed) (call : Call) :
    (gateway.perform call).gateway.settings
      = (gateway.perform call).events.foldl Settings.amend gateway.settings := by
  cases gateway.perform_effect call with
  | quiet hgateway hevents =>
    rw [hgateway, hevents]
    rfl
  | deposit staged vault hassess _ _ hgateway hevents =>
    rw [hgateway, hevents, foldl_amend_deposited]
    exact settings_settled hfiled hassess vault
  | release caller asset amount recipient vault event _ hevent _ hgateway hevents =>
    rw [hgateway, hevents]
    rcases hevent with rfl | ⟨message, rfl⟩
    · rfl
    · rfl
  | govern next event hgoverned _ hgateway hevents =>
    rw [hgateway, hevents]
    exact settings_governed? hgoverned

theorem settings_change (gateway : Gateway) (change : Change) :
    (gateway.change change).settings = gateway.settings := by
  cases change with
  | sequencer status => exact Settings.ext rfl rfl rfl rfl rfl Option.isSome_map rfl
  | _ => rfl

/-- What is in force after a run is what the events of the run make of what was in force before. -/
theorem WellFormed.settings_after (h : gateway.WellFormed) (steps : List Step) :
    (gateway.after steps).settings
      = (gateway.eventsOf steps).foldl Settings.amend gateway.settings := by
  induction steps generalizing gateway with
  | nil => rfl
  | cons step rest ih =>
    cases step with
    | change change =>
      rw [after_change, ih (h.change change), settings_change]
      rfl
    | call call =>
      rw [after_call, ih (h.perform call), settings_perform h.filed, eventsOf_call,
        List.foldl_append]

/-! ### The caps stay valid -/

theorem valid_caps_perform (h : gateway.policy.caps.Valid) (call : Call) :
    (gateway.perform call).gateway.policy.caps.Valid := by
  cases gateway.perform_effect call with
  | quiet hgateway => rwa [hgateway]
  | deposit staged vault _ _ _ hgateway =>
    rw [hgateway]
    exact h
  | release _ _ _ _ vault _ _ _ _ hgateway => rwa [hgateway]
  | govern next event hgoverned _ hgateway =>
    rw [hgateway]
    cases call with
    | setCaps caller min max =>
      obtain ⟨rfl, -, hvalid⟩ := caps_governed? hgoverned
      exact hvalid
    | _ => cases hgoverned <;> exact h

theorem valid_caps_change (h : gateway.policy.caps.Valid) (change : Change) :
    (gateway.change change).policy.caps.Valid := by
  cases change <;> exact h

/-! ### What a configuration puts in force -/

/-- A gateway starts out with the settings of its configuration, and they are valid. -/
theorem settings_configure {config : Config} {feed : Feed} {sequencer : Option SequencerStatus}
    {roles : Roles} {clock : Clock} {start : Gateway}
    (h : configure config feed sequencer roles clock = .ok start) (vault : Vault) (paused : Bool) :
    config.settings sequencer.isSome paused
        = .ok { start with vault := vault, isPaused := paused }.settings
      ∧ start.policy.caps.Valid := by
  obtain ⟨_, -, h⟩ := bind_eq_ok_iff.1 h
  obtain ⟨caps, hcaps, h⟩ := bind_eq_ok_iff.1 h
  obtain ⟨blockCap, hblock, h⟩ := bind_eq_ok_iff.1 h
  cases h
  refine ⟨?_, Config.valid_caps hcaps⟩
  rw [Config.settings, hcaps, hblock, Ledger.foldl_setThreshold_start]
  refine congrArg Except.ok (Settings.ext rfl rfl ?_ rfl rfl ?_ rfl)
  · funext asset
    exact (EpochLimits.threshold_unused config.epochDuration config.thresholds asset).symm
  · exact Option.isSome_map.symm

/-- A gateway is configured, with any vault, paused or not, and then goes through any run. What is
in force afterwards is what the events of the run, in their order, make of what the configuration
asks for, and throughout the bounds of a deposit are positive and in order. At each turn a call that
needs a role publishes exactly its event if it is carried out and none if it fails; and whatever is
published that needs a role comes of a call by somebody who holds one that suffices. -/
theorem settings_are_folded_events {config : Config} {feed : Feed}
    {sequencer : Option SequencerStatus} {roles : Roles} {clock : Clock} {configured : Gateway}
    (h : configure config feed sequencer roles clock = .ok configured) (vault : Vault)
    (paused : Bool) (steps : List Step) :
    let start := { configured with vault := vault, isPaused := paused }
    (∃ initial, config.settings sequencer.isSome paused = .ok initial
        ∧ (start.after steps).settings = (start.eventsOf steps).foldl Settings.amend initial)
      ∧ (start.after steps).policy.caps.Valid
      ∧ ∀ turn ∈ start.turns steps, turn.gateway.policy.caps.Valid
        ∧ (∀ privilege, turn.call.privilege? = some privilege →
          (∀ response, turn.reply.result = .ok response → turn.reply.events = [privilege.event])
            ∧ ∀ failure, turn.reply.result = .error failure → turn.reply.events = [])
        ∧ ∀ event ∈ turn.reply.events, ∀ needed, event.roles? = some needed →
          ∃ privilege, turn.call.privilege? = some privilege ∧ privilege.event = event
            ∧ ∃ role ∈ needed, turn.gateway.roles.holds role privilege.caller = true := by
  intro start
  obtain ⟨hinitial, hconfigured⟩ := settings_configure h vault paused
  have hvalid : start.policy.caps.Valid := hconfigured
  have hfresh : start.Fresh :=
    ⟨config, feed, sequencer, roles, clock, configured, h, vault, paused, rfl⟩
  have hany : ∀ turn ∈ start.turns steps, True := fun _ _ => trivial
  obtain ⟨hturns, hafter⟩ := invariant_of_turns (fun now : Gateway => now.policy.caps.Valid)
    (fun _ => True) (fun _ call _ hbefore => valid_caps_perform hbefore call)
    (fun _ change hbefore => valid_caps_change hbefore change) hvalid hany
  refine ⟨⟨_, hinitial, hfresh.wellFormed.settings_after steps⟩, hafter, ?_⟩
  intro turn hturn
  exact ⟨hturns turn hturn, fun _ => events_of_privilege?, fun _ hevent _ => role_of_event hevent⟩

/-- Bounds in the wrong order, a threshold that nobody may set, a deposit that is charged to the
token, a higher threshold for it, other bounds, a sequencer to watch, a withdrawal and a pause. -/
def sampleAmendments : List Step := [
  .call (.setCaps sampleAccount (.ofDollars 5) (.ofDollars 2)),
  .call (.setThreshold .zero .native .zero),
  .call (.send "token" sampleAccount (sampleRequest sampleToken 60 []) .zero),
  .call (.setThreshold sampleAccount sampleToken (.ofUInt64 70)),
  .call (.setCaps sampleAccount (.ofDollars 2) (.ofDollars 5)),
  .call (.setSequencer sampleAccount (some ⟨true, 4000⟩) 60),
  .call (.withdraw sampleAccount sampleToken (.ofUInt64 20) sampleAccount),
  .call (.pause sampleAccount)]

/-- What is not amended is as configured, and what is refused amends nothing. -/
theorem sampleAmendments_folded :
    configure sampleConfig sampleFeed none
        (.ofMembers sampleAccount sampleAccount sampleAccount) ⟨5000, 7⟩ = .ok sample
      ∧ (sample.after sampleAmendments).settings.caps = ⟨.ofDollars 2, .ofDollars 5⟩
      ∧ (sample.after sampleAmendments).settings.threshold sampleToken = .ofUInt64 70
      ∧ (sample.after sampleAmendments).settings.threshold .native = .ofUInt64 1000
      ∧ (sample.after sampleAmendments).settings.isPaused = true := by
  have hconfigured : configure sampleConfig sampleFeed none
      (.ofMembers sampleAccount sampleAccount sampleAccount) ⟨5000, 7⟩ = .ok sample := rfl
  obtain ⟨⟨initial, hinitial, hfold⟩, -, -⟩ :=
    settings_are_folded_events hconfigured .empty false sampleAmendments
  have hsample : sampleConfig.settings false false = .ok sample.settings :=
    (settings_configure hconfigured .empty false).1
  have hstart : initial = sample.settings := Except.ok.inj (hinitial.symm.trans hsample)
  have hsettings : (sample.after sampleAmendments).settings
      = (sample.eventsOf sampleAmendments).foldl Settings.amend sample.settings := hstart ▸ hfold
  rw [hsettings]
  exact ⟨hconfigured, by decide +kernel, by decide +kernel, by decide +kernel, by decide +kernel⟩

end Gateway

end DepositGate
