import DepositGate.Gateway.Run
import DepositGate.Proofs.Budget.Epoch
import DepositGate.Proofs.Config.Valid

/-!
# What a valid configuration describes

Validating a configuration checks amounts on its own scale and brings only the greater bound and the
budget of a block to the common one. That is enough: the smaller bound is below the greater one on
either scale, and thresholds are on no scale. So a gateway is configured from a configuration
exactly if it is valid, else refused for the flaw that validation found, and it starts out with the
amounts of its configuration and with nothing drawn on them.
-/

namespace DepositGate

/-! ### Configurations in numbers -/

theorem Caps.ofBounds_eq_ok_iff {min max : Usd} {caps : Caps} :
    Caps.ofBounds min max = .ok caps ↔ caps = ⟨min, max⟩ ∧ caps.Valid := by
  rw [ofBounds]
  by_cases hvalid : Valid ⟨min, max⟩
  · rw [if_pos hvalid, Except.ok.injEq]
    constructor
    · rintro rfl
      exact ⟨rfl, hvalid⟩
    · intro ⟨hcaps, _⟩
      exact hcaps.symm
  · rw [if_neg hvalid]
    constructor
    · intro h
      cases h
    · rintro ⟨rfl, h⟩
      exact absurd h hvalid

namespace Config

variable {config : Config} {units : Amount}

/-- An amount of the configuration in units of the common scale. -/
def scaled (config : Config) (units : Amount) : Nat :=
  units.val * 10 ^ (Usd.places - config.usdDecimals.toNat)

/-- The scales that are supported are not finer than the common one. -/
theorem places_of_scale (h : config.usdDecimals = 8 ∨ config.usdDecimals = 18) :
    config.usdDecimals.toNat ≤ Usd.places := by
  rcases h with h | h
  · rw [h]
    decide
  · rw [h]
    decide

theorem val_of_usd {usd : Usd} (h : config.usd units = .ok usd) :
    usd.raw.val = config.scaled units :=
  (Usd.ofScaled_eq_ok_iff.1 (usd_eq_ok_iff.1 h)).2

theorem exists_usd_iff (hplaces : config.usdDecimals.toNat ≤ Usd.places) :
    (∃ usd, config.usd units = .ok usd) ↔ config.scaled units < 2 ^ 256 := by
  simp only [usd_eq_ok_iff]
  exact Usd.exists_ofScaled_iff hplaces

theorem valid_iff : config.Valid ↔
    (config.usdDecimals = 8 ∨ config.usdDecimals = 18) ∧ config.nativeDecimals.toNat ≤ 36
      ∧ 0 < config.minCap.val ∧ config.minCap.val ≤ config.maxCap.val
      ∧ config.scaled config.maxCap < 2 ^ 256 ∧ config.scaled config.blockCap < 2 ^ 256 := by
  constructor
  · intro h
    have hplaces := places_of_scale h.scale
    exact ⟨h.scale, UInt8.le_iff_toNat_le.1 h.nativeDecimals,
      Nat.pos_of_ne_zero (Amount.isZero_eq_false_iff.1 h.minCap), h.order,
      (exists_usd_iff hplaces).1 h.maxCap, (exists_usd_iff hplaces).1 h.blockCap⟩
  · rintro ⟨hscale, hnative, hmin, horder, hmax, hblock⟩
    have hplaces := places_of_scale hscale
    exact {
      scale := hscale
      nativeDecimals := UInt8.le_iff_toNat_le.2 hnative
      minCap := Amount.isZero_eq_false_iff.2 (Nat.ne_of_gt hmin)
      order := horder
      maxCap := (exists_usd_iff hplaces).2 hmax
      blockCap := (exists_usd_iff hplaces).2 hblock }

theorem valid_caps {caps : Caps} (h : config.caps = .ok caps) : caps.Valid := by
  obtain ⟨min, -, hrest⟩ := bind_eq_ok_iff.1 h
  obtain ⟨max, -, hcaps⟩ := bind_eq_ok_iff.1 hrest
  split at hcaps
  · rename_i bounds hbounds
    cases hcaps
    exact (Caps.ofBounds_eq_ok_iff.1 hbounds).2
  · cases hcaps

end Config

/-! ### A ledger with nothing drawn -/

/-- The limits with these thresholds before anything is consumed. -/
def EpochLimits.unused (duration : UInt64) (thresholds : SortedMap Asset Amount) : EpochLimits :=
  ⟨duration, thresholds.mapValues TokenUsage.fresh⟩

namespace EpochLimits

variable (duration : UInt64) (thresholds : SortedMap Asset Amount) (asset : Asset)

theorem record_unused :
    (unused duration thresholds).record asset = (thresholds.find? asset).map (.fresh asset) :=
  thresholds.find?_mapValues TokenUsage.fresh asset

theorem counter_unused : (unused duration thresholds).counter asset = (0, .zero) := by
  rw [counter, record_unused]
  cases thresholds.find? asset <;> rfl

theorem threshold_unused :
    (unused duration thresholds).threshold asset = (thresholds.find? asset).getD .zero := by
  rw [EpochLimits.threshold, record_unused]
  cases thresholds.find? asset <;> rfl

theorem filed_unused : (unused duration thresholds).Filed := by
  intro asset usage hrecord
  rw [record_unused] at hrecord
  obtain ⟨_, -, rfl⟩ := Option.map_eq_some_iff.1 hrecord
  rfl

/-- Setting a threshold before anything is consumed is filing it among the thresholds. -/
theorem setThreshold_unused (threshold : Amount) :
    (unused duration thresholds).setThreshold asset threshold
      = unused duration (thresholds.insert asset threshold) := by
  refine congrArg (EpochLimits.mk duration) (SortedMap.ext_find? fun other => ?_)
  have hset := record_setThreshold (unused duration thresholds) asset threshold other
  have hfresh := record_unused duration (thresholds.insert asset threshold) other
  rw [SortedMap.find?_insert] at hfresh
  refine hset.trans (Eq.trans ?_ hfresh.symm)
  by_cases hother : asset = other
  · -- A record of the asset keeps all but its threshold, and it is unused.
    subst hother
    rw [if_pos rfl, if_pos rfl, record_unused]
    cases thresholds.find? asset <;> rfl
  · rw [if_neg hother, if_neg fun hrank => hother (rank_injective hrank), record_unused]

end EpochLimits

/-- The ledger with these limits before anything is drawn. -/
def Ledger.unused (blockCap : Usd) (duration : UInt64) (thresholds : SortedMap Asset Amount) :
    Ledger :=
  ⟨.fresh blockCap, .unused duration thresholds⟩

theorem Ledger.foldl_setThreshold_unused (blockCap : Usd) (duration : UInt64)
    (entries : List (Asset × Amount)) (thresholds : SortedMap Asset Amount) :
    entries.foldl (fun ledger entry => ledger.setThreshold entry.1 entry.2)
        (unused blockCap duration thresholds)
      = unused blockCap duration (entries.foldl (fun m e => m.insert e.1 e.2) thresholds) := by
  induction entries generalizing thresholds with
  | nil => rfl
  | cons entry rest ih =>
    have hentry : (unused blockCap duration thresholds).setThreshold entry.1 entry.2
        = unused blockCap duration (thresholds.insert entry.1 entry.2) :=
      congrArg (Ledger.mk _)
        (EpochLimits.setThreshold_unused duration thresholds entry.1 entry.2)
    rw [List.foldl_cons, hentry, ih, List.foldl_cons]

/-- Setting all thresholds of a map on an empty ledger leaves them and nothing else. -/
theorem Ledger.foldl_setThreshold_start (blockCap : Usd) (duration : UInt64)
    (thresholds : SortedMap Asset Amount) :
    thresholds.entries.foldl (fun ledger entry => ledger.setThreshold entry.1 entry.2)
        (start blockCap duration) = unused blockCap duration thresholds := by
  have hfold := foldl_setThreshold_unused blockCap duration thresholds.entries .empty
  have hall : thresholds.entries.foldl (fun m e => m.insert e.1 e.2) .empty = thresholds :=
    thresholds.ofList_entries
  rwa [hall] at hfold

/-! ### The configured gateway -/

namespace Gateway

variable {config : Config} {feed : Feed} {sequencer : Option SequencerStatus} {roles : Roles}
  {clock : Clock} {start : Gateway}

/-- A gateway is configured only from a valid configuration. -/
theorem of_configure (h : configure config feed sequencer roles clock = .ok start) :
    config.validate = .ok () ∧ ∃ caps blockCap, config.caps = .ok caps
      ∧ config.blockBudget = .ok blockCap ∧ start.policy = ⟨caps, config.nativeDecimals⟩
      ∧ start.ledger = .unused blockCap config.epochDuration config.thresholds := by
  obtain ⟨_, hvalid, h⟩ := bind_eq_ok_iff.1 h
  obtain ⟨caps, hcaps, h⟩ := bind_eq_ok_iff.1 h
  obtain ⟨blockCap, hblock, h⟩ := bind_eq_ok_iff.1 h
  cases h
  exact ⟨hvalid, caps, blockCap, hcaps, hblock, rfl, Ledger.foldl_setThreshold_start _ _ _⟩

theorem exists_configure (hvalid : config.validate = .ok ()) (feed : Feed)
    (sequencer : Option SequencerStatus) (roles : Roles) (clock : Clock) :
    ∃ built, configure config feed sequencer roles clock = .ok built := by
  have h := Config.valid_of_validate hvalid
  obtain ⟨caps, hcaps, -⟩ := h.caps_eq
  obtain ⟨blockCap, hblock⟩ := h.blockCap
  rw [configure, hvalid, hcaps, Config.blockBudget, hblock]
  exact ⟨_, rfl⟩

/-- The gateway has the limits of a configuration, on the common scale, and nothing is drawn on
them. -/
structure StartsAs (gateway : Gateway) (config : Config) : Prop where
  minCap : gateway.policy.caps.min.raw.val = config.scaled config.minCap
  maxCap : gateway.policy.caps.max.raw.val = config.scaled config.maxCap
  positive : 0 < gateway.policy.caps.min.raw.val
  order : gateway.policy.caps.min ≤ gateway.policy.caps.max
  /-- What the gateway tells of its ledger is what the following say of it. -/
  told : (gateway.perform .ledger).result = .ok (.ledger gateway.ledger)
  block : gateway.ledger.block.key = 0 ∧ gateway.ledger.block.consumed = .zero
  blockCap : gateway.ledger.block.cap.raw.val = config.scaled config.blockCap
  duration : gateway.ledger.epochs.duration = config.epochDuration
  /-- One record for each asset with a threshold, in the same order, in no epoch yet. -/
  records : gateway.ledger.epochs.records.entries
    = config.thresholds.entries.map fun entry => (entry.1, ⟨entry.1, 0, .zero, entry.2⟩)

theorem startsAs_of_configure (h : configure config feed sequencer roles clock = .ok start) :
    start.StartsAs config := by
  obtain ⟨hvalidate, caps, blockCap, hcaps, hblock, hpolicy, hledger⟩ := of_configure h
  obtain ⟨_, hsame, hmin, hmax⟩ := (Config.valid_of_validate hvalidate).caps_eq
  rw [hcaps] at hsame
  cases hsame
  obtain ⟨hpositive, horder⟩ := Config.valid_caps hcaps
  exact {
    minCap := by rw [hpolicy, Config.val_of_usd hmin]
    maxCap := by rw [hpolicy, Config.val_of_usd hmax]
    positive := by
      rw [hpolicy]
      exact Nat.pos_of_ne_zero (Amount.isZero_eq_false_iff.1 hpositive)
    order := by rwa [hpolicy]
    told := rfl
    block := by
      rw [hledger]
      exact ⟨rfl, rfl⟩
    blockCap := by
      rw [hledger]
      exact Config.val_of_usd hblock
    duration := by
      rw [hledger]
      rfl
    records := by
      rw [hledger]
      rfl }

/-- A configuration is valid exactly if its scales are supported, its bounds are positive and in
order, and its amounts fit the common scale. A valid one describes a gateway, with any feed,
sequencer, roles and clock, which has its limits and has drawn nothing; any other is refused for the
flaw that makes it so. -/
theorem validation_decides_configuration (config : Config) (feed : Feed)
    (sequencer : Option SequencerStatus) (roles : Roles) (clock : Clock) :
    (config.validate = .ok () ↔
        (config.usdDecimals = 8 ∨ config.usdDecimals = 18) ∧ config.nativeDecimals.toNat ≤ 36
          ∧ 0 < config.minCap.val ∧ config.minCap.val ≤ config.maxCap.val
          ∧ config.scaled config.maxCap < 2 ^ 256 ∧ config.scaled config.blockCap < 2 ^ 256)
      ∧ (config.validate = .ok () → ∃ gateway,
          configure config feed sequencer roles clock = .ok gateway ∧ gateway.StartsAs config)
      ∧ ∀ flaw, config.validate = .error flaw →
          configure config feed sequencer roles clock = .error flaw := by
  refine ⟨Config.validate_eq_ok_iff.trans Config.valid_iff, ?_, ?_⟩
  · intro hvalid
    obtain ⟨gateway, hgateway⟩ := exists_configure hvalid feed sequencer roles clock
    exact ⟨gateway, hgateway, startsAs_of_configure hgateway⟩
  · intro flaw hflaw
    rw [configure, hflaw]
    rfl

def sampleFeed : Feed := .rounds (.start (.ofInt64 200000000000) (some 8) 5000)

theorem sampleToken_lt : 5 < 256 ^ 32 := by decide

def sampleToken : Asset := .token ⟨5, sampleToken_lt⟩

/-- Amounts with eight decimal places: bounds of half a dollar and of two dollars, ten dollars for a
block, and a threshold of zero beside another. -/
def sampleCoarse : Config :=
  { Config.standard with
    minCap := .ofUInt64 50000000
    maxCap := .ofUInt64 200000000
    blockCap := .ofUInt64 1000000000
    usdDecimals := 8
    epochDuration := 60
    thresholds := .ofList [(sampleToken, .ofUInt64 100), (.native, .zero)] }

def sampleStart (config : Config) : Except Config.Flaw Gateway :=
  configure config sampleFeed none .nobody ⟨5000, 7⟩

/-- The same configuration with a block budget that does not fit the common scale is refused. -/
theorem sampleCoarse_decided :
    (∃ gateway, sampleStart sampleCoarse = .ok gateway
        ∧ gateway.policy.caps.min.raw.val = 5 * 10 ^ 17
        ∧ gateway.ledger.block.cap = .ofDollars 10
        ∧ gateway.ledger.epochs.records.entries.length = 2)
      ∧ sampleStart { sampleCoarse with blockCap := .top } = .error (.badScale .tooLarge) := by
  obtain ⟨hiff, hvalid, -⟩ :=
    validation_decides_configuration sampleCoarse sampleFeed none .nobody ⟨5000, 7⟩
  obtain ⟨-, -, hflaw⟩ := validation_decides_configuration { sampleCoarse with blockCap := .top }
    sampleFeed none .nobody ⟨5000, 7⟩
  have hnumbers : sampleCoarse.validate = .ok () := hiff.2 (by decide)
  obtain ⟨gateway, hgateway, hstarts⟩ := hvalid hnumbers
  have hrecords : gateway.ledger.epochs.records.entries.length = 2 := by
    rw [hstarts.records]
    decide
  have hcap : gateway.ledger.block.cap = .ofDollars 10 :=
    Usd.ext (hstarts.blockCap.trans (by decide))
  exact ⟨⟨gateway, hgateway, hstarts.minCap, hcap, hrecords⟩, hflaw _ (by decide +kernel)⟩

end Gateway

end DepositGate
