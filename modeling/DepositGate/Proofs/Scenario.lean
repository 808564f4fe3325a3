import DepositGate.Proofs.Gateway.Commutation
import DepositGate.Proofs.Gateway.Faultless
import DepositGate.Proofs.Gateway.Traceless
import DepositGate.Scenario

/-!
# Replays without a rejected deposit

A deposit that is rejected leaves the gateway as it found it. If its entry sets neither the clock
nor the price, then all that is left of the entry is what it told the vault, to fail or not to, and
the next entry tells the vault anew. So a replay without the entry has the other outcomes in their
order; only their numbers and the names of their receipts are others.
-/

namespace DepositGate.Scenario

variable {gateway : Gateway} {entry : Entry}

/-! ### One entry -/

/-- What is compared of an outcome: all but its number and the name of its receipt. -/
def Outcome.unnumbered (outcome : Outcome) : Outcome :=
  { outcome with index := 0, result := outcome.result.map Receipt.unnamed }

namespace Entry

/-- The entry sets neither the clock nor the price. -/
def Still (entry : Entry) : Prop := entry.time = none ∧ entry.block = none ∧ entry.price = none

instance (entry : Entry) : Decidable entry.Still := inferInstanceAs (Decidable (_ ∧ _))

def submission (entry : Entry) : Submission :=
  ⟨entry.sender.getD defaultSender, entry.request, entry.value⟩

/-- The gateway that an entry leaves behind. -/
def after (entry : Entry) (gateway : Gateway) : Gateway :=
  (entry.prepare gateway).deposit entry.submission

/-- What becomes of the deposit of an entry. -/
def outcome (entry : Entry) (name : String) (index : Nat) (gateway : Gateway) : Outcome where
  index := index
  time := (entry.after gateway).clock.now
  block := (entry.after gateway).clock.block
  result := ((entry.prepare gateway).submit name entry.submission).result
  consumed := (entry.after gateway).blockConsumed

/-- An entry undoes what the one before has told the vault. -/
theorem prepare_failing (entry : Entry) (gateway : Gateway) (failing : Bool) :
    entry.prepare (gateway.change (.vault (.failing failing))) = entry.prepare gateway := by
  rw [prepare, prepare]
  cases entry.time <;> cases entry.block <;> cases entry.price <;> rfl

theorem Still.prepare (h : entry.Still) (gateway : Gateway) :
    entry.prepare gateway = gateway.change (.vault (.failing entry.failsTransfer)) := by
  obtain ⟨htime, hblock, hprice⟩ := h
  rw [Entry.prepare, htime, hblock, hprice]

/-- A rejected deposit changes nothing of what its entry has prepared. -/
theorem after_of_rejected {name : String} {index : Nat}
    (h : (entry.outcome name index gateway).isAdmitted = false) :
    entry.after gateway = entry.prepare gateway := by
  have hrejected : ∃ failure,
      ((entry.prepare gateway).submit name entry.submission).result = .error failure := by
    cases hresult : ((entry.prepare gateway).submit name entry.submission).result with
    | error failure => exact ⟨failure, rfl⟩
    | ok receipt => simp [Outcome.isAdmitted, outcome, hresult] at h
  obtain ⟨failure, hfailure⟩ := hrejected
  rw [Gateway.result_submit] at hfailure
  have hverdict := map_eq_error_iff.1 (map_eq_error_iff.1 hfailure)
  exact Gateway.deposit_of_verdict_error hverdict

theorem unnumbered_outcome (entry : Entry) (name other : String) (index place : Nat)
    (gateway : Gateway) : (entry.outcome name index gateway).unnumbered
      = (entry.outcome other place gateway).unnumbered := by
  simp only [Outcome.unnumbered, outcome, Gateway.result_submit]
  cases (entry.prepare gateway).ruling entry.submission <;> rfl

theorem wellFormed_prepare (h : gateway.WellFormed) (entry : Entry) :
    (entry.prepare gateway).WellFormed := by
  have hkept : (entry.prepare gateway).policy = gateway.policy
      ∧ (entry.prepare gateway).ledger = gateway.ledger := by
    rw [prepare]
    cases entry.time <;> cases entry.block <;> cases entry.price <;> exact ⟨rfl, rfl⟩
  exact ⟨hkept.1.symm ▸ h.decimals, hkept.2.symm ▸ h.filed⟩

theorem wellFormed_after (h : gateway.WellFormed) (entry : Entry) :
    (entry.after gateway).WellFormed :=
  (wellFormed_prepare h entry).perform (.send "" entry.submission.sender entry.submission.request
    entry.submission.value)

theorem faultless_outcome (h : gateway.WellFormed) (entry : Entry) (name : String) (index : Nat) :
    Faultless (entry.outcome name index gateway).result :=
  (wellFormed_prepare h entry).faultless_send name _ _ _

end Entry

/-! ### Whole replays -/

section Replay

variable (names : Nat → String) (index : Nat) (gateway : Gateway)

theorem outcomes_cons (entry : Entry) (rest : List Entry) :
    (replayFrom names index gateway (entry :: rest)).outcomes
      = entry.outcome (names index) index gateway
        :: (replayFrom names (index + 1) (entry.after gateway) rest).outcomes := by
  have hafter : ((entry.prepare gateway).send (names index) (entry.sender.getD defaultSender)
      entry.request entry.value).gateway = entry.after gateway :=
    (entry.prepare gateway).gateway_submit (names index) entry.submission
  rw [replayFrom, hafter]
  rfl

/-- An entry that comes next undoes what the vault was told before a replay. -/
theorem replayFrom_failing (failing : Bool) (entries : List Entry) :
    replayFrom names index (gateway.change (.vault (.failing failing))) entries
      = replayFrom names index gateway entries := by
  cases entries with
  | nil => rfl
  | cons entry rest => rw [replayFrom, replayFrom, entry.prepare_failing]

theorem map_index_replayFrom (entries : List Entry) :
    (replayFrom names index gateway entries).outcomes.map Outcome.index
      = List.range' index entries.length := by
  induction entries generalizing index gateway with
  | nil => rfl
  | cons entry rest ih =>
    rw [outcomes_cons, List.map_cons, ih, List.length_cons, List.range'_succ]
    rfl

theorem faultless_replayFrom {gateway : Gateway} (h : gateway.WellFormed) (entries : List Entry) :
    ∀ outcome ∈ (replayFrom names index gateway entries).outcomes, Faultless outcome.result := by
  induction entries generalizing index gateway with
  | nil => exact List.forall_mem_nil _
  | cons entry rest ih =>
    rw [outcomes_cons, List.forall_mem_cons]
    exact ⟨Entry.faultless_outcome h entry (names index) index,
      ih (index + 1) (Entry.wellFormed_after h entry)⟩

theorem unnumbered_replayFrom (others : Nat → String) (place : Nat) (entries : List Entry) :
    (replayFrom names index gateway entries).outcomes.map Outcome.unnumbered
      = (replayFrom others place gateway entries).outcomes.map Outcome.unnumbered := by
  induction entries generalizing index place gateway with
  | nil => rfl
  | cons entry rest ih =>
    rw [outcomes_cons, outcomes_cons, List.map_cons, List.map_cons,
      entry.unnumbered_outcome (names index) (others place) index place gateway,
      ih (index + 1) (entry.after gateway) (place + 1)]

/-- Without a rejected entry that sets neither the clock nor the price, a replay has the outcomes of
all others. -/
theorem unnumbered_eraseIdx (others : Nat → String) (place : Nat) {entries : List Entry} {i : Nat}
    {entry : Entry} {outcome : Outcome} (hentry : entries[i]? = some entry)
    (houtcome : (replayFrom names index gateway entries).outcomes[i]? = some outcome)
    (hstill : entry.Still) (hrejected : outcome.isAdmitted = false) :
    (replayFrom others place gateway (entries.eraseIdx i)).outcomes.map Outcome.unnumbered
      = ((replayFrom names index gateway entries).outcomes.eraseIdx i).map Outcome.unnumbered := by
  induction entries generalizing index place gateway i with
  | nil => cases hentry
  | cons first rest ih =>
    rw [outcomes_cons] at houtcome ⊢
    cases i with
    | zero =>
      obtain rfl : first = entry := Option.some.inj hentry
      obtain rfl : first.outcome (names index) index gateway = outcome := Option.some.inj houtcome
      -- All that the entry leaves behind is what it told the vault.
      have hafter : first.after gateway
          = gateway.change (.vault (.failing first.failsTransfer)) := by
        rw [Entry.after_of_rejected hrejected, hstill.prepare]
      rw [List.eraseIdx_cons_zero, List.eraseIdx_cons_zero, hafter, replayFrom_failing]
      exact unnumbered_replayFrom others place gateway names (index + 1) rest
    | succ i =>
      have hrest := ih (index + 1) (first.after gateway) (place + 1) hentry houtcome
      rw [List.eraseIdx_cons_succ, List.eraseIdx_cons_succ, outcomes_cons, List.map_cons,
        List.map_cons, hrest,
        first.unnumbered_outcome (names index) (others place) index place gateway]

end Replay

/-- Every scenario can be replayed with a valid configuration, and each deposit of it is admitted or
refused. Without an entry that sets neither the clock nor the price and whose deposit was rejected,
for whatever reason, the replay has the other outcomes in their order, up to the numbers, which
follow one another again, and the names of receipts. -/
theorem rejected_entry_removable {config : Config} (hvalid : config.validate = .ok ())
    (scenario : Scenario) (names others : Nat → String) :
    ∃ whole, scenario.replay config names = .ok whole
      ∧ whole.outcomes.map Outcome.index = List.range scenario.entries.length
      ∧ (∀ outcome ∈ whole.outcomes, Faultless outcome.result)
      ∧ ∀ i entry outcome, scenario.entries[i]? = some entry →
        whole.outcomes[i]? = some outcome → entry.Still → outcome.isAdmitted = false →
          ∃ rest, { scenario with entries := scenario.entries.eraseIdx i }.replay config others
              = .ok rest
            ∧ rest.outcomes.map Outcome.unnumbered
              = (whole.outcomes.eraseIdx i).map Outcome.unnumbered
            ∧ rest.outcomes.map Outcome.index = List.range (scenario.entries.length - 1) := by
  obtain ⟨start, hstart⟩ := Gateway.exists_configure hvalid
    (.rounds (.start scenario.price (some scenario.priceDecimals) scenario.startTime)) none
    (.ofMembers defaultSender defaultSender defaultSender)
    ⟨scenario.startTime, scenario.startBlock⟩
  have hreplay : ∀ (entries : List Entry) (names : Nat → String),
      ∃ replay, { scenario with entries := entries }.replay config names = .ok replay
        ∧ replay.outcomes = (replayFrom names 0 start entries).outcomes := by
    intro entries names
    have hsame : { scenario with entries := entries }.start config = .ok start := hstart
    rw [replay, hsame]
    exact ⟨_, rfl, rfl⟩
  obtain ⟨whole, hwhole, houtcomes⟩ := hreplay scenario.entries names
  have hfresh : start.Fresh :=
    ⟨config, _, _, _, _, start, hstart, start.vault, start.isPaused, rfl⟩
  refine ⟨whole, hwhole, ?_, ?_, ?_⟩
  · rw [houtcomes, map_index_replayFrom, List.range_eq_range']
  · rw [houtcomes]
    exact faultless_replayFrom names 0 hfresh.wellFormed scenario.entries
  · intro i entry outcome hentry houtcome hstill hrejected
    obtain ⟨rest, hrest, hothers⟩ := hreplay (scenario.entries.eraseIdx i) others
    rw [houtcomes] at houtcome
    have hlength : (scenario.entries.eraseIdx i).length = scenario.entries.length - 1 :=
      List.length_eraseIdx_of_lt (List.getElem?_eq_some_iff.1 hentry).1
    refine ⟨rest, hrest, ?_, ?_⟩
    · rw [hothers, houtcomes]
      exact unnumbered_eraseIdx names 0 start others 0 hentry houtcome hstill hrejected
    · rw [hothers, map_index_replayFrom, hlength, List.range_eq_range']

/-- Four dollars of gas four times in a block that has ten: the second time the vault fails, the
third time is later, and the fourth time too little is left. -/
def sampleScenario : Scenario :=
  let entry : Entry :=
    ⟨none, none, none, false, none, Gateway.sampleRequest .native 0 [], Gateway.sampleGas⟩
  { price := .ofInt64 200000000000
    priceDecimals := 8
    startTime := 5000
    startBlock := 7
    entries := [entry, { entry with failsTransfer := true }, { entry with time := some 5600 },
      entry] }

theorem sampleScenario_removable :
    Gateway.sampleConfig.validate = .ok ()
      ∧ ∃ whole rest, sampleScenario.replay Gateway.sampleConfig Nat.repr = .ok whole
        ∧ whole.outcomes.map Outcome.isAdmitted = [true, false, true, false]
        ∧ { sampleScenario with entries := sampleScenario.entries.eraseIdx 1 }.replay
            Gateway.sampleConfig (fun _ => "again") = .ok rest
        ∧ rest.outcomes.map Outcome.unnumbered
          = (whole.outcomes.eraseIdx 1).map Outcome.unnumbered
        ∧ rest.outcomes.map Outcome.index = [0, 1, 2] := by
  have hvalid : Gateway.sampleConfig.validate = .ok () := by decide +kernel
  obtain ⟨whole, hwhole, -, -, hremovable⟩ :=
    rejected_entry_removable hvalid sampleScenario Nat.repr fun _ => "again"
  have hadmitted : whole.outcomes.map Outcome.isAdmitted = [true, false, true, false] := by
    have hall : (sampleScenario.replay Gateway.sampleConfig Nat.repr).toOption.map
        (fun replay => replay.outcomes.map Outcome.isAdmitted)
          = some [true, false, true, false] := by
      decide +kernel
    rw [hwhole] at hall
    exact Option.some.inj hall
  obtain ⟨outcome, houtcome, hrejected⟩ :
      ∃ outcome, whole.outcomes[1]? = some outcome ∧ outcome.isAdmitted = false := by
    have hsecond := congrArg (fun admitted => admitted[1]?) hadmitted
    rw [List.getElem?_map] at hsecond
    exact Option.map_eq_some_iff.1 hsecond
  obtain ⟨rest, hrest, hsame, hindices⟩ :=
    hremovable 1 _ outcome rfl houtcome (by decide) hrejected
  exact ⟨hvalid, whole, rest, hwhole, hadmitted, hrest, hsame, hindices⟩

end DepositGate.Scenario
