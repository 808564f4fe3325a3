import DepositGate.Proofs.Gateway.Conservation

/-!
# A pause freezes value

While the gateway is paused no deposit is let in and nothing is released, whoever asks. What the
budgets have counted and what the vault holds and has released stay as they were, through any calls
and any changes from outside, until somebody with the role for it restarts the gateway. Settings can
be changed all the while, and a change is carried out exactly as on a gateway that is running: it
writes into the records of both budgets without touching what they have counted.
-/

namespace DepositGate

/-- The call asks for a setting to be changed. Pausing and restarting are none. -/
def Call.isSetter : Call → Bool
  | .setCaps .. | .setBlockCap .. | .setThreshold .. | .setEpochDuration .. | .setFeed ..
  | .setStalePeriod .. | .setSequencer .. => true
  | _ => false

/-- The event tells of assets that come into custody or leave it. -/
def Event.movesValue : Event → Bool
  | .deposited _ | .withdrawn .. | .reverted .. => true
  | _ => false

/-- The turn restarts the gateway: somebody asks for it who may. -/
def Turn.restarts (turn : Turn) : Bool :=
  match turn.call, turn.reply.result with
  | .unpause _, .ok _ => true
  | _, _ => false

/-- The gateway with its pause switch set, and nothing else changed. -/
def Gateway.withPause (gateway : Gateway) (paused : Bool) : Gateway :=
  { gateway with isPaused := paused }

def Reply.withPause {α : Type} (reply : Reply α) (paused : Bool) : Reply α :=
  { reply with gateway := reply.gateway.withPause paused }

namespace Gateway

variable {gateway next : Gateway} {call : Call} {event : Event} {request : Request} {value : Amount}
  {asset : Asset} {amount : Amount} {caller recipient : Address}

/-! ### What is refused -/

/-- What a paused gateway tells a call that would move value: a deposit that it is paused, and a
release too unless the caller may not ask for one at all. -/
def pauseRefusal? (gateway : Gateway) : Call → Option Refusal
  | .send .. | .preview .. => some .paused
  | .withdraw caller .. | .revert caller .. =>
    some (if gateway.roles.holds .tss caller then .paused else .unauthorized caller .tss)
  | _ => none

theorem assess_of_paused (h : gateway.isPaused = true) (request : Request) (value : Amount) :
    gateway.assess request value = .error (.refused .paused) := by
  rw [assess, check, examine, requireRunning, if_pos h]
  rfl

/-- The role of the caller is asked for before the pause switch. -/
theorem release_of_paused (h : gateway.isPaused = true) (caller : Address) (asset : Asset)
    (amount : Amount) (recipient : Address) :
    gateway.release caller asset amount recipient = .error (.refused
      (if gateway.roles.holds .tss caller then .paused else .unauthorized caller .tss)) := by
  rw [release, requireRole, requireRunning, if_pos h]
  cases hholds : gateway.roles.holds .tss caller with
  | true => simp [hholds]; rfl
  | false => simp [hholds]; rfl

theorem result_releaseReply (gateway : Gateway) (result : Except Failure Vault) (asset : Asset)
    (amount : Amount) (notice : Notice) (event : Event) :
    (gateway.releaseReply result asset amount notice event).result = result.map fun _ => () := by
  unfold releaseReply
  split <;> rfl

theorem perform_of_pauseRefusal? {why : Refusal} (h : gateway.isPaused = true)
    (hwhy : gateway.pauseRefusal? call = some why) :
    (gateway.perform call).result = .error (.refused why) := by
  cases call with
  | send id sender request value =>
    cases hwhy
    have hsend := (send_of_assess_error id sender (gateway.assess_of_paused h request value)).1
    exact map_eq_error_iff.2 hsend
  | preview request value =>
    cases hwhy
    have hassess := gateway.assess_of_paused h request value
    exact map_eq_error_iff.2 (map_eq_error_iff.2 hassess)
  | withdraw caller asset amount recipient =>
    cases hwhy
    have hrelease := gateway.release_of_paused h caller asset amount recipient
    refine map_eq_error_iff.2 ?_
    rw [withdraw, result_releaseReply, hrelease]
    rfl
  | revert caller asset amount refund =>
    cases hwhy
    have hrelease := gateway.release_of_paused h caller asset amount refund.recipient
    refine map_eq_error_iff.2 ?_
    rw [revert, result_releaseReply, hrelease]
    rfl
  | _ => cases hwhy

/-! ### What stays as it was -/

/-- The second gateway is still paused, and it has counted, holds and has released what the first
did. -/
structure Frozen (before after : Gateway) : Prop where
  paused : after.isPaused = true
  key : after.ledger.block.key = before.ledger.block.key
  consumed : after.ledger.block.consumed = before.ledger.block.consumed
  counter : ∀ asset, after.ledger.epochs.counter asset = before.ledger.epochs.counter asset
  custody : after.vault.custody = before.vault.custody
  released : after.vault.released = before.vault.released

theorem Frozen.refl (h : gateway.isPaused = true) : gateway.Frozen gateway :=
  ⟨h, rfl, rfl, fun _ => rfl, rfl, rfl⟩

theorem Frozen.trans {before : Gateway} (h : before.Frozen gateway) (hnext : gateway.Frozen next) :
    before.Frozen next where
  paused := hnext.paused
  key := hnext.key.trans h.key
  consumed := hnext.consumed.trans h.consumed
  counter asset := (hnext.counter asset).trans (h.counter asset)
  custody := hnext.custody.trans h.custody
  released := hnext.released.trans h.released

/-- Only a call to restart the gateway lifts a pause. -/
theorem isPaused_of_governed? (h : gateway.isPaused = true)
    (hgoverned : gateway.governed? call = some (next, event))
    (hcall : ∀ caller, call ≠ .unpause caller) : next.isPaused = true := by
  cases call with
  | setCaps caller min max =>
    obtain ⟨caps, rfl, -⟩ := of_governed?_setCaps hgoverned
    exact h
  | unpause caller => exact absurd rfl (hcall caller)
  | pause caller =>
    cases hgoverned
    rfl
  | _ => cases hgoverned <;> exact h

theorem movesValue_of_governed? (hgoverned : gateway.governed? call = some (next, event)) :
    event.movesValue = false := by
  cases call with
  | setCaps caller min max =>
    obtain ⟨caps, -, rfl⟩ := of_governed?_setCaps hgoverned
    rfl
  | _ => cases hgoverned <;> rfl

/-- A turn that does not restart a paused gateway moves no value. -/
theorem frozen_perform (h : gateway.isPaused = true)
    (hcall : Turn.restarts ⟨gateway, call⟩ = false) :
    gateway.Frozen (gateway.perform call).gateway
      ∧ ∀ event ∈ (gateway.perform call).events, event.movesValue = false := by
  cases gateway.perform_effect call with
  | quiet hgateway hevents =>
    rw [hgateway, hevents]
    exact ⟨.refl h, List.forall_mem_nil _⟩
  | deposit staged vault hassess =>
    rw [gateway.assess_of_paused h] at hassess
    cases hassess
  | release caller asset amount recipient vault event hrelease =>
    rw [gateway.release_of_paused h] at hrelease
    cases hrelease
  | govern next event hgoverned hresult hgateway hevents =>
    have hkept : ∀ caller, call ≠ .unpause caller := by
      rintro caller rfl
      rw [Turn.restarts, Turn.reply, hresult] at hcall
      cases hcall
    have hcounts := countsAlike_governed? hgoverned
    have hvault := (settings_move_nothing hgoverned).1
    rw [hgateway, hevents]
    refine ⟨⟨isPaused_of_governed? h hgoverned hkept, hcounts.key, hcounts.consumed,
      hcounts.counter, congrArg Vault.custody hvault, congrArg Vault.released hvault⟩, ?_⟩
    exact List.forall_mem_singleton.2 (movesValue_of_governed? hgoverned)

theorem frozen_change (h : gateway.isPaused = true) (change : Change) :
    gateway.Frozen (gateway.change change) := by
  cases change with
  | vault change => cases change <;> exact ⟨h, rfl, rfl, fun _ => rfl, rfl, rfl⟩
  | _ => exact ⟨h, rfl, rfl, fun _ => rfl, rfl, rfl⟩

/-! ### Settings during a pause -/

/-- A change that the pause switch has no part in is made alike with the switch on and off. -/
theorem administer_withPause {paused : Bool} {caller : Address}
    {next other : Except Refusal Gateway} {notice : Notice} {event : Event}
    (hnext : other = next.map fun after => after.withPause paused) :
    (gateway.withPause paused).administer caller other notice event
      = (gateway.administer caller next notice event).withPause paused := by
  have hrole : (gateway.withPause paused).requireRole caller .admin []
      = gateway.requireRole caller .admin [] := rfl
  unfold administer
  rw [hrole, hnext]
  cases gateway.requireRole caller .admin [] with
  | error why => rfl
  | ok passed => cases next <;> rfl

/-- Settings are changed in the same way whether the gateway is paused or not. -/
theorem perform_withPause (gateway : Gateway) (paused : Bool) (h : call.isSetter = true) :
    (gateway.withPause paused).perform call = (gateway.perform call).withPause paused := by
  have hperform : ∀ {reply other : Reply Unit}, other = reply.withPause paused →
      (other.map fun _ => Response.done) = (reply.map fun _ => .done).withPause paused := by
    intro reply other hsame
    rw [hsame]
    rfl
  cases call with
  | setCaps caller min max =>
    apply hperform
    apply administer_withPause
    cases Caps.ofBounds min max <;> rfl
  | setBlockCap | setThreshold | setEpochDuration | setFeed | setStalePeriod | setSequencer =>
    apply hperform
    apply administer_withPause
    rfl
  | _ => cases h

/-- A gateway is paused and no turn of a run restarts it. After the run it has counted, holds and
has released what it did before, and no event on the way tells of value that was moved. At each turn
a deposit and its preview are refused because of the pause, and so is a release, unless its caller
has no right to it; and a setting is changed exactly as it would be without the pause, with the same
answer and the same values. -/
theorem pause_freezes_value {start : Gateway} (hpaused : start.isPaused = true)
    {steps : List Step} (hkept : ∀ turn ∈ start.turns steps, turn.restarts = false) :
    start.Frozen (start.after steps)
      ∧ (∀ event ∈ start.eventsOf steps, event.movesValue = false)
      ∧ ∀ turn ∈ start.turns steps,
        (∀ why, turn.gateway.pauseRefusal? turn.call = some why →
            turn.reply.result = .error (.refused why))
          ∧ (turn.call.isSetter = true →
            (turn.gateway.withPause false).perform turn.call = turn.reply.withPause false) := by
  have hcall : ∀ gateway call, Turn.restarts ⟨gateway, call⟩ = false → start.Frozen gateway →
      start.Frozen (gateway.perform call).gateway :=
    fun _ _ hturn hfrozen => hfrozen.trans (frozen_perform hfrozen.paused hturn).1
  have hchange : ∀ gateway change, start.Frozen gateway → start.Frozen (gateway.change change) :=
    fun _ change hfrozen => hfrozen.trans (frozen_change hfrozen.paused change)
  obtain ⟨hturns, hafter⟩ := invariant_of_turns start.Frozen (fun turn => turn.restarts = false)
    hcall hchange (.refl hpaused) hkept
  refine ⟨hafter, ?_, ?_⟩
  · intro event hevent
    obtain ⟨turn, hturn, htold⟩ := mem_eventsOf_iff.1 hevent
    exact (frozen_perform (hturns turn hturn).paused (hkept turn hturn)).2 event htold
  · intro turn hturn
    exact ⟨fun _ => perform_of_pauseRefusal? (hturns turn hturn).paused,
      turn.gateway.perform_withPause false⟩

/-- The sample with sixty of its token bridged, and then paused. -/
def samplePaused : Gateway := sample.after [
  .call (.send "first" sampleAccount (sampleRequest sampleToken 60 []) .zero),
  .call (.pause sampleAccount)]

/-- An hour later the token is bridged again, withdrawn by the signer and by nobody, and its
threshold is raised, and nobody asks for a restart. -/
def samplePauseSteps : List Step := [
  .change (.clock (.advance 3600)),
  .call (.send "second" sampleAccount (sampleRequest sampleToken 10 []) .zero),
  .call (.withdraw sampleAccount sampleToken (.ofUInt64 20) sampleAccount),
  .call (.withdraw .zero sampleToken (.ofUInt64 20) sampleAccount),
  .call (.setThreshold sampleAccount sampleToken (.ofUInt64 500)),
  .call (.unpause .zero)]

/-- What was used of the token's threshold stays used while the threshold is raised. -/
theorem samplePaused_frozen :
    samplePaused.isPaused = true
      ∧ (∀ turn ∈ samplePaused.turns samplePauseSteps, turn.restarts = false)
      ∧ (∀ event ∈ samplePaused.eventsOf samplePauseSteps, event.movesValue = false)
      ∧ ((samplePaused.after samplePauseSteps).vault.custodyOf sampleToken).val = 60
      ∧ (samplePaused.after samplePauseSteps).ledger.epochs.counter sampleToken
        = (1, .ofUInt64 60)
      ∧ (samplePaused.after samplePauseSteps).ledger.epochs.threshold sampleToken
        = .ofUInt64 500 := by
  have hpaused : samplePaused.isPaused = true := by decide +kernel
  have hkept : ∀ turn ∈ samplePaused.turns samplePauseSteps, turn.restarts = false := by
    decide +kernel
  obtain ⟨hfrozen, hevents, -⟩ := pause_freezes_value hpaused hkept
  refine ⟨hpaused, hkept, hevents, ?_, ?_, by decide +kernel⟩
  · rw [Vault.custodyOf, hfrozen.custody]
    decide +kernel
  · rw [hfrozen.counter]
    decide +kernel

end Gateway

end DepositGate
