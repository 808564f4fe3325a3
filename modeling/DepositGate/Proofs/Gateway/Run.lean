import DepositGate.Proofs.Gateway.Configured
import DepositGate.Proofs.Gateway.Effect

/-!
# Runs and what is noted of them

Each call of a run is a turn: the call with the gateway that it found. What is noted of a run is
noted turn by turn, and a statement about a gateway and the notes so far that every turn and every
change from outside keeps holds after the whole run.

A gateway is fresh when it has just been configured, whatever state its vault and its pause switch
are in, and reachable when some run of a fresh one leads to it.
-/

namespace DepositGate

/-- A call and the gateway that it is made on. -/
structure Turn where
  gateway : Gateway
  call : Call

def Turn.reply (turn : Turn) : Reply Response := turn.gateway.perform turn.call

namespace Gateway

/-- The gateway after a run. -/
def after (gateway : Gateway) (steps : List Step) : Gateway := (gateway.run steps).1

/-- The turns of a run in their order. -/
def turns (gateway : Gateway) : List Step → List Turn
  | [] => []
  | .change change :: rest => (gateway.change change).turns rest
  | .call call :: rest => ⟨gateway, call⟩ :: (gateway.perform call).gateway.turns rest

@[simp] theorem after_nil (gateway : Gateway) : gateway.after [] = gateway := rfl

@[simp] theorem after_change (gateway : Gateway) (change : Change) (rest : List Step) :
    gateway.after (.change change :: rest) = (gateway.change change).after rest := rfl

@[simp] theorem after_call (gateway : Gateway) (call : Call) (rest : List Step) :
    gateway.after (.call call :: rest) = (gateway.perform call).gateway.after rest := rfl

/-- The replies of a run are those of its turns. -/
theorem replies_eq (gateway : Gateway) (steps : List Step) :
    (gateway.run steps).2 = (gateway.turns steps).map Turn.reply := by
  induction steps generalizing gateway with
  | nil => rfl
  | cons step rest ih =>
    cases step with
    | change change => exact ih (gateway.change change)
    | call call => exact congrArg (gateway.perform call :: ·) (ih (gateway.perform call).gateway)

/-- What every turn and every change keeps, of the gateway and of the notes taken so far, holds
after a run of the notes of all its turns. -/
theorem notes_invariant {α : Type} (note : Turn → List α) (Holds : Gateway → List α → Prop)
    (hcall : ∀ gateway call notes, Holds gateway notes →
      Holds (gateway.perform call).gateway (notes ++ note ⟨gateway, call⟩))
    (hchange : ∀ gateway change notes, Holds gateway notes → Holds (gateway.change change) notes)
    {gateway : Gateway} {notes : List α} (h : Holds gateway notes) (steps : List Step) :
    Holds (gateway.after steps) (notes ++ (gateway.turns steps).flatMap note) := by
  induction steps generalizing gateway notes with
  | nil => simpa [turns] using h
  | cons step rest ih =>
    cases step with
    | change change => exact ih (hchange gateway change notes h)
    | call call =>
      have hrest := ih (hcall gateway call notes h)
      rw [List.append_assoc] at hrest
      exact hrest

/-- The same where a turn is noted at most once. -/
theorem note?_invariant {α : Type} (note? : Turn → Option α) (Holds : Gateway → List α → Prop)
    (hcall : ∀ gateway call notes, Holds gateway notes →
      Holds (gateway.perform call).gateway (notes ++ (note? ⟨gateway, call⟩).toList))
    (hchange : ∀ gateway change notes, Holds gateway notes → Holds (gateway.change change) notes)
    {gateway : Gateway} (h : Holds gateway []) (steps : List Step) :
    Holds (gateway.after steps) ((gateway.turns steps).filterMap note?) := by
  rw [List.filterMap_eq_flatMap_toList]
  exact notes_invariant (fun turn => (note? turn).toList) Holds hcall hchange h steps

theorem invariant (Holds : Gateway → Prop)
    (hcall : ∀ gateway call, Holds gateway → Holds (gateway.perform call).gateway)
    (hchange : ∀ gateway change, Holds gateway → Holds (gateway.change change))
    {gateway : Gateway} (h : Holds gateway) (steps : List Step) : Holds (gateway.after steps) := by
  induction steps generalizing gateway with
  | nil => exact h
  | cons step rest ih =>
    cases step with
    | change change => exact ih (hchange gateway change h)
    | call call => exact ih (hcall gateway call h)

/-- What every change keeps, and every turn that is allowed, holds at each turn and at the end of a
run in which all turns are. -/
theorem invariant_of_turns (Holds : Gateway → Prop) (Allowed : Turn → Prop)
    (hcall : ∀ gateway call, Allowed ⟨gateway, call⟩ → Holds gateway →
      Holds (gateway.perform call).gateway)
    (hchange : ∀ gateway change, Holds gateway → Holds (gateway.change change))
    {gateway : Gateway} (h : Holds gateway) {steps : List Step}
    (hallowed : ∀ turn ∈ gateway.turns steps, Allowed turn) :
    (∀ turn ∈ gateway.turns steps, Holds turn.gateway) ∧ Holds (gateway.after steps) := by
  induction steps generalizing gateway with
  | nil => exact ⟨List.forall_mem_nil _, h⟩
  | cons step rest ih =>
    cases step with
    | change change => exact ih (hchange gateway change h) hallowed
    | call call =>
      obtain ⟨hfirst, hrest⟩ := List.forall_mem_cons.1 hallowed
      obtain ⟨hturns, hafter⟩ := ih (hcall gateway call hfirst h) hrest
      exact ⟨List.forall_mem_cons.2 ⟨h, hturns⟩, hafter⟩

/-! ### Fresh and reachable gateways -/

def Fresh (gateway : Gateway) : Prop :=
  ∃ config feed sequencer roles clock start,
    configure config feed sequencer roles clock = .ok start
      ∧ ∃ vault paused, gateway = { start with vault := vault, isPaused := paused }

def Reachable (gateway : Gateway) : Prop :=
  ∃ start : Gateway, start.Fresh ∧ ∃ steps, start.after steps = gateway

theorem Fresh.ledger_eq {gateway : Gateway} (h : gateway.Fresh) :
    ∃ blockCap duration thresholds, gateway.ledger = .unused blockCap duration thresholds := by
  obtain ⟨config, _, _, _, _, start, hstart, vault, paused, rfl⟩ := h
  obtain ⟨-, _, blockCap, -, -, -, hledger⟩ := of_configure hstart
  exact ⟨blockCap, config.epochDuration, config.thresholds, hledger⟩

theorem Fresh.block_unused {gateway : Gateway} (h : gateway.Fresh) :
    gateway.ledger.block.key = 0 ∧ gateway.ledger.block.consumed = .zero := by
  obtain ⟨_, _, _, hledger⟩ := h.ledger_eq
  rw [hledger]
  exact ⟨rfl, rfl⟩

theorem Fresh.counter_unused {gateway : Gateway} (h : gateway.Fresh) (asset : Asset) :
    gateway.ledger.epochs.counter asset = (0, .zero) := by
  obtain ⟨_, duration, thresholds, hledger⟩ := h.ledger_eq
  rw [hledger]
  exact EpochLimits.counter_unused duration thresholds asset

theorem Fresh.filed {gateway : Gateway} (h : gateway.Fresh) : gateway.ledger.epochs.Filed := by
  obtain ⟨_, duration, thresholds, hledger⟩ := h.ledger_eq
  rw [hledger]
  exact EpochLimits.filed_unused duration thresholds

/-! ### A small gateway

One account holds all roles. The price is 2000 dollars, a block has ten dollars to give, and an
epoch of an hour has a thousand units of native currency and a hundred of one token. -/

def sampleAccount : Address := ⟨1, by decide⟩

/-- Four dollars of native currency. -/
def sampleGas : Amount := .ofUInt64 2000000000000000

def sampleConfig : Config :=
  { Config.standard with
    blockCap := (Usd.ofDollars 10).raw
    epochDuration := 3600
    thresholds := .ofList [(.native, .ofUInt64 1000), (sampleToken, .ofUInt64 100)] }

def sample : Gateway where
  policy := ⟨⟨.ofDollars 1, .ofDollars 10⟩, 18⟩
  oracle := ⟨sampleFeed, none, 3600, 18⟩
  ledger := ((Ledger.start (.ofDollars 10) 3600).setThreshold .native (.ofUInt64 1000)).setThreshold
    sampleToken (.ofUInt64 100)
  vault := .empty
  roles := .ofMembers sampleAccount sampleAccount sampleAccount
  isPaused := false
  clock := ⟨5000, 7⟩

theorem sample_fresh : sample.Fresh :=
  ⟨sampleConfig, sampleFeed, none, .ofMembers sampleAccount sampleAccount sampleAccount, ⟨5000, 7⟩,
    sample, rfl, .empty, false, rfl⟩

/-- A request with nothing but an amount of an asset and data to run. -/
def sampleRequest (asset : Asset) (amount : UInt64) (payload : List UInt8) : Request where
  recipient := .zero
  asset := asset
  amount := .ofUInt64 amount
  payload := payload
  refund := ⟨sampleAccount, []⟩
  signature := []

end Gateway

end DepositGate
