import DepositGate.Proofs.Config.Options
import DepositGate.Proofs.Config.Valid
import Mathlib.Data.UInt

/-!
# Where the two ways to load a configuration agree

Options that are given by variables and the same options in JSON are both refused, or set the same
limits, as long as no bound of a deposit is left out on the scale of 8 decimal places. There the
environment carries the standard bounds over to the scale and keeps one dollar and ten, while JSON
takes their numbers as they are, which makes them ten to the tenth times as large; so the two agree
only in refusing.
-/

namespace DepositGate

open DepositGate.Json

namespace Config

/-- Two configurations set the same limits, whatever the scales of their amounts. -/
structure SameLimits (first second : Config) : Prop where
  caps : first.caps = second.caps
  blockBudget : first.blockBudget = second.blockBudget
  nativeDecimals : first.nativeDecimals = second.nativeDecimals
  epochDuration : first.epochDuration = second.epochDuration
  thresholds : first.thresholds = second.thresholds
  stalePeriod : first.stalePeriod = second.stalePeriod
  gracePeriod : first.gracePeriod = second.gracePeriod

/-- Nothing was loaded. -/
def Refused (load : Except LoadError Config) : Prop := ∃ why, load = .error why

/-- Both loads are refused, or both give configurations that set the same limits. -/
def Agree (first second : Except LoadError Config) : Prop :=
  (Refused first ∧ Refused second)
    ∨ ∃ c d, first = .ok c ∧ second = .ok d ∧ c.SameLimits d

theorem agree_refl (load : Except LoadError Config) : Agree load load := by
  cases load with
  | error why => exact .inl ⟨⟨why, rfl⟩, why, rfl⟩
  | ok config => exact .inr ⟨config, config, rfl, rfl, ⟨rfl, rfl, rfl, rfl, rfl, rfl, rfl⟩⟩

theorem refused_of_scale {config : Config} (h : config.usdDecimals ≠ 8 ∧ config.usdDecimals ≠ 18) :
    Refused config.validated := by
  refine ⟨.invalid (.usdDecimals config.usdDecimals), ?_⟩
  rw [validated, validate_of_scale h]

end Config

namespace Environment

theorem standardOn_eighteen : standardOn 18 = Config.standard := by
  decide

/-- On both scales the standard bounds are one dollar and ten. -/
theorem standardOn_bounds {decimals : UInt8} (h : decimals = 8 ∨ decimals = 18) :
    Usd.ofScaled (standardOn decimals).minCap decimals = .ok (Usd.ofDollars 1)
      ∧ Usd.ofScaled (standardOn decimals).maxCap decimals = .ok (Usd.ofDollars 10) := by
  rcases h with rfl | rfl
  · exact ⟨rfl, rfl⟩
  · exact ⟨rfl, rfl⟩

end Environment

/-- Taken as they are, the standard bounds are one dollar and ten on the scale of 18 decimal places
and ten to the tenth times that on the scale of 8. -/
theorem Config.standard_bounds {decimals : UInt8} (h : decimals = 8 ∨ decimals = 18) :
    Usd.ofScaled standard.minCap decimals
        = .ok (Usd.ofDollars (if decimals = 8 then 10 ^ 10 else 1))
      ∧ Usd.ofScaled standard.maxCap decimals
        = .ok (Usd.ofDollars (if decimals = 8 then 10 ^ 11 else 10)) := by
  rcases h with rfl | rfl
  · exact ⟨rfl, rfl⟩
  · exact ⟨rfl, rfl⟩

namespace Options

variable {options : Options}

/-- The decimal places of dollar amounts. -/
def scale (options : Options) : UInt8 := options.usdDecimals.getD 18

theorem rescaled_eq (options : Options) :
    options.rescaled = Environment.standardOn options.scale := by
  rw [rescaled, scale]
  cases options.usdDecimals with
  | none => exact Environment.standardOn_eighteen.symm
  | some decimals => rfl

/-- A bound is left out on the scale of 8 decimal places. -/
def LacksBound (options : Options) : Prop :=
  options.scale = 8 ∧ (options.minCap = none ∨ options.maxCap = none)

theorem scale_overlay_rescaled (options : Options) :
    (options.overlay options.rescaled).usdDecimals = options.scale := by
  rw [rescaled_eq, overlay, scale]
  cases options.usdDecimals <;> rfl

theorem overlay_rescaled_of_eight (hscale : options.scale = 8) (hmin : options.minCap ≠ none)
    (hmax : options.maxCap ≠ none) :
    options.overlay options.rescaled = options.overlay .standard := by
  obtain ⟨min, hmin⟩ := Option.ne_none_iff_exists'.1 hmin
  obtain ⟨max, hmax⟩ := Option.ne_none_iff_exists'.1 hmax
  have hgiven : options.usdDecimals = some 8 := by
    rw [scale] at hscale
    cases hdecimals : options.usdDecimals with
    | none =>
      rw [hdecimals] at hscale
      cases hscale
    | some decimals =>
      rw [hdecimals] at hscale
      exact congrArg some hscale
  rw [rescaled_eq, hscale, overlay, overlay, hmin, hmax, hgiven]
  rfl

theorem agree_of_not_lacksBound (h : ¬options.LacksBound) :
    Config.Agree (options.overlay options.rescaled).validated
      (options.overlay .standard).validated := by
  by_cases height : options.scale = 8
  · have hgiven : options.minCap ≠ none ∧ options.maxCap ≠ none := by
      rw [← not_or]
      exact fun hnone => h ⟨height, hnone⟩
    rw [overlay_rescaled_of_eight height hgiven.1 hgiven.2]
    exact Config.agree_refl _
  · by_cases heighteen : options.scale = 18
    · rw [rescaled_eq, heighteen, Environment.standardOn_eighteen]
      exact Config.agree_refl _
    · -- No other scale is supported, whatever else is given.
      left
      constructor
      · apply Config.refused_of_scale
        rw [scale_overlay_rescaled]
        exact ⟨height, heighteen⟩
      · exact Config.refused_of_scale ⟨height, heighteen⟩

/-- The bounds of a deposit that the options leave out are these. -/
def LeftOut (options : Options) (min max : Usd) (config : Config) : Prop :=
  ∃ caps, config.caps = .ok caps ∧ (options.minCap = none → caps.min = min)
    ∧ (options.maxCap = none → caps.max = max)

/-- A bound that is left out is that of the configuration for the rest, on the scale in use. -/
theorem leftOut_of_validated {base config : Config} {min max : Usd}
    (h : (options.overlay base).validated = .ok config)
    (hmin : Usd.ofScaled base.minCap (options.overlay base).usdDecimals = .ok min)
    (hmax : Usd.ofScaled base.maxCap (options.overlay base).usdDecimals = .ok max) :
    options.LeftOut min max config := by
  obtain ⟨hvalid, rfl⟩ := Config.validated_eq_ok_iff.1 h
  obtain ⟨caps, hcaps, hleast, hmost⟩ := (Config.validate_eq_ok_iff.1 hvalid).caps_eq
  refine ⟨caps, hcaps, ?_, ?_⟩
  · intro hnone
    have hbase : (options.overlay base).minCap = base.minCap := by rw [overlay, hnone]; rfl
    rw [hbase, Config.usd_eq_ok_iff, hmin] at hleast
    exact (Except.ok.inj hleast).symm
  · intro hnone
    have hbase : (options.overlay base).maxCap = base.maxCap := by rw [overlay, hnone]; rfl
    rw [hbase, Config.usd_eq_ok_iff, hmax] at hmost
    exact (Except.ok.inj hmost).symm

theorem scale_of_validated {base config : Config}
    (h : (options.overlay base).validated = .ok config) :
    (options.overlay base).usdDecimals = 8 ∨ (options.overlay base).usdDecimals = 18 :=
  (Config.validate_eq_ok_iff.1 (Config.validated_eq_ok_iff.1 h).1).scale

/-- Under the environment a bound that is left out is one dollar or ten on either scale. -/
theorem leftOut_of_rescaled {config : Config}
    (h : (options.overlay options.rescaled).validated = .ok config) :
    options.LeftOut (.ofDollars 1) (.ofDollars 10) config := by
  have hscale := scale_of_validated h
  rw [scale_overlay_rescaled] at hscale
  obtain ⟨hmin, hmax⟩ := Environment.standardOn_bounds hscale
  apply leftOut_of_validated h
  · rw [scale_overlay_rescaled, rescaled_eq, hmin]
  · rw [scale_overlay_rescaled, rescaled_eq, hmax]

/-- In JSON a bound that is left out is one dollar or ten on the scale of 18 decimal places only. -/
theorem leftOut_of_standard {config : Config}
    (h : (options.overlay .standard).validated = .ok config) :
    options.LeftOut (.ofDollars (if options.scale = 8 then 10 ^ 10 else 1))
      (.ofDollars (if options.scale = 8 then 10 ^ 11 else 10)) config := by
  obtain ⟨hmin, hmax⟩ := Config.standard_bounds (scale_of_validated h)
  exact leftOut_of_validated h hmin hmax

theorem not_sameLimits_of_lacksBound {first second : Config} (h : options.LacksBound)
    (hfirst : (options.overlay options.rescaled).validated = .ok first)
    (hsecond : (options.overlay .standard).validated = .ok second) : ¬first.SameLimits second := by
  intro hsame
  obtain ⟨caps, hcaps, hmin, hmax⟩ := leftOut_of_rescaled hfirst
  obtain ⟨others, hothers, hothermin, hothermax⟩ := leftOut_of_standard hsecond
  obtain rfl : others = caps := by
    rw [hsame.caps, hothers] at hcaps
    exact Except.ok.inj hcaps
  rw [if_pos h.1] at hothermin hothermax
  rcases h.2 with hnone | hnone
  · have hbounds := (hmin hnone).symm.trans (hothermin hnone)
    revert hbounds
    decide
  · have hbounds := (hmax hnone).symm.trans (hothermax hnone)
    revert hbounds
    decide

theorem agree_iff (options : Options) :
    Config.Agree (options.overlay options.rescaled).validated (options.overlay .standard).validated
      ↔ ¬options.LacksBound ∨ (Config.Refused (options.overlay options.rescaled).validated
        ∧ Config.Refused (options.overlay .standard).validated) := by
  constructor
  · rintro (hrefused | ⟨first, second, hfirst, hsecond, hsame⟩)
    · exact .inr hrefused
    · exact .inl fun hlacks => not_sameLimits_of_lacksBound hlacks hfirst hsecond hsame
  · rintro (hgiven | hrefused)
    · exact agree_of_not_lacksBound hgiven
    · exact .inl hrefused

end Options

namespace Config

/-- All options that are written as variables and as members. -/
theorem written_agree_iff (options : Options) :
    Agree (ofEnvironment options.environment) (ofText options.text)
      ↔ ¬options.LacksBound ∨ (Refused (ofEnvironment options.environment)
        ∧ Refused (ofText options.text)) := by
  by_cases hnamed : options.Named
  · rw [ofEnvironment_eq (Environment.options_environment_of_named hnamed),
      ofText_eq (Options.readText_of_named hnamed)]
    exact options.agree_iff
  · obtain ⟨why, hwhy⟩ := Environment.options_environment_of_not_named hnamed
    obtain ⟨problem, hproblem⟩ := Options.readText_of_not_named hnamed
    have hrefused : Refused (ofEnvironment options.environment) ∧ Refused (ofText options.text) :=
      ⟨⟨_, ofEnvironment_error hwhy⟩, _, ofText_error hproblem⟩
    exact ⟨fun _ => .inr hrefused, fun _ => .inl hrefused⟩

/-- The two ways to load the same options, however these are written, agree unless a bound is left
out on the scale of 8 decimal places and one of them accepts. Under the environment a bound that is
left out is always one dollar or ten, and in JSON it is so on the scale of 18 only. -/
theorem loads_agree_unless_bound_left_out {environment : Environment} {text : String}
    {options : Options} (henvironment : environment.options = .ok options)
    (htext : readText Options.read text = .ok options) :
    (Agree (ofEnvironment environment) (ofText text)
        ↔ ¬options.LacksBound ∨ (Refused (ofEnvironment environment) ∧ Refused (ofText text)))
      ∧ (∀ config, ofEnvironment environment = .ok config →
        options.LeftOut (.ofDollars 1) (.ofDollars 10) config)
      ∧ ∀ config, ofText text = .ok config →
        options.LeftOut (.ofDollars (if options.scale = 8 then 10 ^ 10 else 1))
          (.ofDollars (if options.scale = 8 then 10 ^ 11 else 10)) config := by
  rw [ofEnvironment_eq henvironment, ofText_eq htext]
  exact ⟨options.agree_iff, fun _ => Options.leftOut_of_rescaled,
    fun _ => Options.leftOut_of_standard⟩

/-- Bounds of one dollar and two on the scale of 8 decimal places, and a threshold. -/
def sampleOptions : Options where
  minCap := some ⟨100000000, by decide⟩
  maxCap := some ⟨200000000, by decide⟩
  usdDecimals := some 8
  thresholds := some (SortedMap.empty.insert .native ⟨5, by decide⟩)

theorem named_sampleOptions : sampleOptions.Named := by
  intro thresholds hthresholds entry hentry
  cases hthresholds
  cases List.mem_singleton.1 hentry
  trivial

theorem sampleOptions_agree :
    sampleOptions.environment.options = .ok sampleOptions
      ∧ readText Options.read sampleOptions.text = .ok sampleOptions
      ∧ Agree (ofEnvironment sampleOptions.environment) (ofText sampleOptions.text) := by
  have henvironment := Environment.options_environment_of_named named_sampleOptions
  have htext := Options.readText_of_named named_sampleOptions
  have hgiven : ¬sampleOptions.LacksBound := by
    rintro ⟨-, hnone | hnone⟩
    · cases hnone
    · cases hnone
  exact ⟨henvironment, htext,
    (loads_agree_unless_bound_left_out henvironment htext).1.2 (.inl hgiven)⟩

/-- A scale of 8 decimal places and nothing else. -/
def scaleOnly : Options := { usdDecimals := some 8 }

example : scaleOnly.environment .usdDecimals = some "8" := by decide

example : scaleOnly.text = "\x7b\"usd_decimals\":8\x7d" := by decide

theorem named_scaleOnly : scaleOnly.Named := nofun

/-- With nothing but the scale both loads succeed, and their bounds of a deposit differ. -/
theorem scaleOnly_disagrees :
    scaleOnly.environment.options = .ok scaleOnly
      ∧ readText Options.read scaleOnly.text = .ok scaleOnly
      ∧ ¬Agree (ofEnvironment scaleOnly.environment) (ofText scaleOnly.text) := by
  have henvironment := Environment.options_environment_of_named named_scaleOnly
  refine ⟨henvironment, Options.readText_of_named named_scaleOnly, ?_⟩
  rw [written_agree_iff]
  rintro (hgiven | ⟨⟨why, hrefused⟩, -⟩)
  · exact hgiven ⟨rfl, .inl rfl⟩
  · have haccepted : (scaleOnly.overlay scaleOnly.rescaled).validated
        = .ok (scaleOnly.overlay scaleOnly.rescaled) := rfl
    rw [ofEnvironment_eq henvironment, haccepted] at hrefused
    cases hrefused

end Config

end DepositGate
