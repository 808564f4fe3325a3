import DepositGate.Config.Load
import DepositGate.Proofs.Config.Thresholds
import DepositGate.Proofs.Json.Reader

/-!
# Options of a configuration

Each of the nine settings of a configuration may be given or left out. An environment gives options
if all its variables have a meaning, and so does a JSON text if its members do. What is loaded are
the options over standard values for the rest: for an environment those on the scale that is given,
and for JSON the standard values as they are. All options can be written as variables and as
members. They are read back from both, unless a threshold is for the token without an identity,
which both refuse.
-/

namespace DepositGate

open DepositGate.Json DepositGate.Text

/-- The settings that are given, with their values. -/
structure Options where
  minCap : Option Amount := none
  maxCap : Option Amount := none
  blockCap : Option Amount := none
  usdDecimals : Option UInt8 := none
  nativeDecimals : Option UInt8 := none
  epochDuration : Option UInt64 := none
  thresholds : Option (SortedMap Asset Amount) := none
  stalePeriod : Option UInt64 := none
  gracePeriod : Option UInt64 := none

namespace Options

/-- The configuration with the values that are given, and those of `base` for the others. -/
def overlay (options : Options) (base : Config) : Config where
  minCap := options.minCap.getD base.minCap
  maxCap := options.maxCap.getD base.maxCap
  blockCap := options.blockCap.getD base.blockCap
  usdDecimals := options.usdDecimals.getD base.usdDecimals
  nativeDecimals := options.nativeDecimals.getD base.nativeDecimals
  epochDuration := options.epochDuration.getD base.epochDuration
  thresholds := options.thresholds.getD base.thresholds
  stalePeriod := options.stalePeriod.getD base.stalePeriod
  gracePeriod := options.gracePeriod.getD base.gracePeriod

/-- The standard configuration on the scale that is given. -/
def rescaled (options : Options) : Config :=
  match options.usdDecimals with
  | some decimals => Environment.standardOn decimals
  | none => Config.standard

end Options

/-! ### Reading options -/

/-- A field that may be left out. -/
def Json.Record.optional {α : Type} (name : String) (read : Reader α) : Record (Option α) where
  rules := [⟨name, checking read, true⟩]
  build origin find :=
    match find name with
    | some node => (read origin node).map some
    | none => .ok none

def Options.record : Record Options := Options.mk
  <$> .optional "min_cap_usd" readAmount
  <*> .optional "max_cap_usd" readAmount
  <*> .optional "block_cap_usd" readAmount
  <*> .optional "usd_decimals" readUInt8
  <*> .optional "native_decimals" readUInt8
  <*> .optional "epoch_duration_seconds" readUInt64
  <*> .optional "token_thresholds" (readAssetMap readAmount)
  <*> .optional "oracle_stale_period_seconds" readUInt64
  <*> .optional "sequencer_grace_period_seconds" readUInt64

def Options.read : Reader Options := Options.record.reader "GatewayConfig"

def Environment.options (environment : Environment) : Except (Setting × Setting.Error) Options := do
  let usdDecimals ← environment.setting .usdDecimals byteOfText
  let minCap ← environment.setting .minCap amountOfText
  let maxCap ← environment.setting .maxCap amountOfText
  let blockCap ← environment.setting .blockCap amountOfText
  let nativeDecimals ← environment.setting .nativeDecimals byteOfText
  let epochDuration ← environment.setting .epochDuration secondsOfText
  let stalePeriod ← environment.setting .stalePeriod secondsOfText
  let gracePeriod ← environment.setting .gracePeriod secondsOfText
  let thresholds ← environment.setting .thresholds thresholdsOfText
  return ⟨minCap, maxCap, blockCap, usdDecimals, nativeDecimals, epochDuration, thresholds,
    stalePeriod, gracePeriod⟩

theorem Environment.config_eq (environment : Environment) :
    environment.config
      = (fun options => options.overlay options.rescaled) <$> environment.options := by
  simp only [config, options, map_bind, map_pure]
  apply bind_congr
  intro decimals
  cases decimals <;> rfl

namespace Json.Record

variable {α : Type} {origin : Origin} {find : String → Option Node}

theorem build_defaulted (name : String) (read : Reader α) (default : α) :
    (defaulted name read default).build origin find
      = (fun value => value.getD default) <$> (optional name read).build origin find := by
  simp only [defaulted, optional]
  cases find name with
  | none => rfl
  | some node =>
    dsimp only
    cases read origin node <;> rfl

end Json.Record

theorem Config.read_eq (origin : Origin) (node : Node) :
    Config.read origin node
      = (Options.read origin node).map fun options => options.overlay .standard := by
  rw [Config.read, Options.read, ← Record.reader_map]
  refine congrArg (fun record : Record Config => record.reader "GatewayConfig" origin node) ?_
  -- The rules are the same, so that only what is built of the nodes found is left to compare.
  apply Record.eq_of_build
  · rfl
  intro origin find
  simp only [Options.record, Record.build_map, Record.build_seq, Record.build_defaulted,
    map_eq_pure_bind, bind_assoc, pure_bind]
  rfl

/-! ### Loading options -/

theorem Config.ofEnvironment_eq {environment : Environment} {options : Options}
    (h : environment.options = .ok options) :
    ofEnvironment environment = (options.overlay options.rescaled).validated := by
  rw [ofEnvironment, Environment.config_eq, h]
  rfl

theorem Config.ofEnvironment_error {environment : Environment} {why : Setting × Setting.Error}
    (h : environment.options = .error why) :
    ofEnvironment environment = .error (.badSetting why.1 why.2) := by
  rw [ofEnvironment, Environment.config_eq, h]
  rfl

theorem Config.readText_eq (text : String) : readText Config.read text
    = (readText Options.read text).map fun options => options.overlay .standard := by
  rw [readText, readText, readDocument, readDocument, Config.read_eq]
  cases Options.read .document (Document.ofText text).root with
  | error problem => rfl
  | ok options => cases (Document.ofText text).hasTail <;> rfl

theorem Config.ofText_eq {text : String} {options : Options}
    (h : readText Options.read text = .ok options) :
    ofText text = (options.overlay .standard).validated := by
  rw [ofText, Config.readText_eq, h]
  rfl

theorem Config.ofText_error {text : String} {problem : Problem}
    (h : readText Options.read text = .error problem) :
    ofText text = .error (.document problem) := by
  rw [ofText, Config.readText_eq, h]
  rfl

/-! ### Writing options -/

namespace Options

/-- All thresholds that are given are for assets that a text can name. -/
def Named (options : Options) : Prop :=
  ∀ thresholds ∈ options.thresholds, Thresholds.Named thresholds

theorem exists_of_not_named {options : Options} (h : ¬options.Named) :
    ∃ thresholds, options.thresholds = some thresholds ∧ ¬Thresholds.Named thresholds := by
  simpa [Named] using h

/-- The text of a number. -/
def numeral (n : Nat) : String := String.ofList (digits n)

def environment (options : Options) : Environment
  | .usdDecimals => options.usdDecimals.map fun n => numeral n.toNat
  | .minCap => options.minCap.map Amount.toText
  | .maxCap => options.maxCap.map Amount.toText
  | .blockCap => options.blockCap.map Amount.toText
  | .nativeDecimals => options.nativeDecimals.map fun n => numeral n.toNat
  | .epochDuration => options.epochDuration.map fun n => numeral n.toNat
  | .stalePeriod => options.stalePeriod.map fun n => numeral n.toNat
  | .gracePeriod => options.gracePeriod.map fun n => numeral n.toNat
  | .thresholds => options.thresholds.map Thresholds.write

def fields (options : Options) : List (String × Option Node) := [
  ("min_cap_usd", options.minCap.map writeAmount),
  ("max_cap_usd", options.maxCap.map writeAmount),
  ("block_cap_usd", options.blockCap.map writeAmount),
  ("usd_decimals", options.usdDecimals.map writeUInt8),
  ("native_decimals", options.nativeDecimals.map writeUInt8),
  ("epoch_duration_seconds", options.epochDuration.map writeUInt64),
  ("token_thresholds", options.thresholds.map (writeAssetMap writeAmount)),
  ("oracle_stale_period_seconds", options.stalePeriod.map writeUInt64),
  ("sequencer_grace_period_seconds", options.gracePeriod.map writeUInt64)]

def text (options : Options) : String := (Node.record (given options.fields)).toText

end Options

namespace Environment

theorem numberOfText_numeral {limit n : Nat} (h : n < limit) :
    numberOfText limit (Options.numeral n) = .ok n := by
  rw [numberOfText, Options.numeral, String.toList_ofList, trim_digits, Unsigned.ofText_digits h]

theorem byteOfText_numeral (n : UInt8) : byteOfText (Options.numeral n.toNat) = .ok n := by
  rw [byteOfText, numberOfText_numeral n.toNat_lt]
  exact congrArg Except.ok (UInt8.ofNat_toNat)

theorem secondsOfText_numeral (n : UInt64) : secondsOfText (Options.numeral n.toNat) = .ok n := by
  rw [secondsOfText, numberOfText_numeral n.toNat_lt]
  exact congrArg Except.ok (UInt64.ofNat_toNat)

theorem amountOfText_toText (a : Amount) : amountOfText a.toText = .ok a := by
  rw [amountOfText, Amount.ofText_toText]

theorem setting_written {α : Type} {environment : Environment} {which : Setting}
    {read : String → Except Setting.Error α} {write : α → String} {value : Option α}
    (hwritten : environment which = value.map write)
    (hread : ∀ a ∈ value, read (write a) = .ok a) :
    environment.setting which read = .ok value := by
  rw [setting, hwritten]
  cases value with
  | none => rfl
  | some a => simp [hread a rfl]

/-- All written options but the thresholds are read back, and the thresholds are read last. -/
theorem options_environment (options : Options) : options.environment.options
    = (options.environment.setting .thresholds thresholdsOfText).map fun thresholds =>
      { options with thresholds := thresholds } := by
  have usdDecimals : options.environment.setting .usdDecimals byteOfText
      = .ok options.usdDecimals := setting_written rfl fun n _ => byteOfText_numeral n
  have minCap : options.environment.setting .minCap amountOfText = .ok options.minCap :=
    setting_written rfl fun a _ => amountOfText_toText a
  have maxCap : options.environment.setting .maxCap amountOfText = .ok options.maxCap :=
    setting_written rfl fun a _ => amountOfText_toText a
  have blockCap : options.environment.setting .blockCap amountOfText = .ok options.blockCap :=
    setting_written rfl fun a _ => amountOfText_toText a
  have nativeDecimals : options.environment.setting .nativeDecimals byteOfText
      = .ok options.nativeDecimals := setting_written rfl fun n _ => byteOfText_numeral n
  have epochDuration : options.environment.setting .epochDuration secondsOfText
      = .ok options.epochDuration := setting_written rfl fun n _ => secondsOfText_numeral n
  have stalePeriod : options.environment.setting .stalePeriod secondsOfText
      = .ok options.stalePeriod := setting_written rfl fun n _ => secondsOfText_numeral n
  have gracePeriod : options.environment.setting .gracePeriod secondsOfText
      = .ok options.gracePeriod := setting_written rfl fun n _ => secondsOfText_numeral n
  rw [Environment.options, usdDecimals, minCap, maxCap, blockCap, nativeDecimals, epochDuration,
    stalePeriod, gracePeriod]
  cases options.environment.setting .thresholds thresholdsOfText <;> rfl

theorem options_environment_of_named {options : Options} (h : options.Named) :
    options.environment.options = .ok options := by
  have hthresholds : options.environment.setting .thresholds thresholdsOfText
      = .ok options.thresholds := by
    apply setting_written rfl
    intro thresholds hmem
    rw [thresholdsOfText, Thresholds.ofText_write (h thresholds hmem)]
  rw [options_environment, hthresholds]
  rfl

theorem options_environment_of_not_named {options : Options} (h : ¬options.Named) :
    ∃ why, options.environment.options = .error why := by
  obtain ⟨thresholds, hsome, hunnamed⟩ := Options.exists_of_not_named h
  obtain ⟨why, hwhy⟩ := Thresholds.ofText_write_of_not_named hunnamed
  have hgiven : options.environment .thresholds = some (Thresholds.write thresholds) :=
    congrArg (Option.map Thresholds.write) hsome
  have hthresholds : options.environment.setting .thresholds thresholdsOfText
      = .error (.thresholds, .thresholds why) := by
    rw [setting, hgiven]
    simp only [thresholdsOfText, hwhy]
  rw [options_environment, hthresholds]
  exact ⟨_, rfl⟩

end Environment

namespace Options

/-! ### Reading written members -/

theorem reads_optional {α : Type} {read : Reader α} {write : α → Node} {value : Option α}
    (name : String) (origin : Origin) (hread : ∀ a ∈ value, read origin (write a) = .ok a) :
    (Record.optional name read).Reads origin [(name, value.map write)] value where
  names := rfl
  checks other node hmem := by
    obtain ⟨rfl, hnode⟩ : other = name ∧ some node = value.map write := by simpa using hmem
    obtain ⟨a, ha, rfl⟩ := Option.map_eq_some_iff.1 hnode.symm
    refine ⟨_, List.mem_singleton_self _, rfl, ?_⟩
    simp only [Record.checking, hread a ha]
    rfl
  builds find hfind := by
    have hname : find name = value.map write := hfind _ (List.mem_singleton_self _)
    simp only [Record.optional, hname]
    cases value with
    | none => rfl
    | some a => simp [hread a rfl, Except.map]

theorem reads_fields {options : Options} (h : options.Named) (origin : Origin) :
    record.Reads origin options.fields options := by
  have hthresholds : ∀ thresholds ∈ options.thresholds,
      readAssetMap readAmount origin (writeAssetMap writeAmount thresholds) = .ok thresholds :=
    fun thresholds hmem => readAssetMap_write (h thresholds hmem) (readAmount_write origin)
  exact (reads_optional "min_cap_usd" origin fun a _ => readAmount_write origin a).map Options.mk
    |>.seq (reads_optional "max_cap_usd" origin fun a _ => readAmount_write origin a)
    |>.seq (reads_optional "block_cap_usd" origin fun a _ => readAmount_write origin a)
    |>.seq (reads_optional "usd_decimals" origin fun n _ => readUInt8_write origin n)
    |>.seq (reads_optional "native_decimals" origin fun n _ => readUInt8_write origin n)
    |>.seq (reads_optional "epoch_duration_seconds" origin fun n _ => readUInt64_write origin n)
    |>.seq (reads_optional "token_thresholds" origin hthresholds)
    |>.seq (reads_optional "oracle_stale_period_seconds" origin
      fun n _ => readUInt64_write origin n)
    |>.seq (reads_optional "sequencer_grace_period_seconds" origin
      fun n _ => readUInt64_write origin n)

theorem nodup_fields (options : Options) : (options.fields.map Prod.fst).Nodup := by
  simp [fields]

theorem plain_fields (options : Options) : (Node.record (given options.fields)).Plain := by
  have hthresholds : ∀ thresholds : SortedMap Asset Amount,
      (writeAssetMap writeAmount thresholds).Plain := plain_assetMap plain_amount
  apply plain_given
  simp [fields, plain_amount, plain_uInt8, plain_uInt64, hthresholds]

theorem readText_text {α : Type} (read : Reader α) (options : Options) :
    readText read options.text = read .document (Node.record (given options.fields)) :=
  readText_toText read (plain_fields options)

theorem readText_of_named {options : Options} (h : options.Named) :
    readText Options.read options.text = .ok options := by
  rw [readText_text]
  exact (reads_fields h .document).reader_given (nodup_fields options) _

theorem readText_of_not_named {options : Options} (h : ¬options.Named) :
    ∃ problem, readText Options.read options.text = .error problem := by
  obtain ⟨thresholds, hsome, hunnamed⟩ := Options.exists_of_not_named h
  have hentry : ∃ e ∈ thresholds.entries, ¬e.1.Named := by
    simpa [Thresholds.Named] using hunnamed
  have hgiven : ("token_thresholds", writeAssetMap writeAmount thresholds)
      ∈ given options.fields := by
    rw [mem_given_iff, fields, hsome]
    simp
  obtain ⟨problem, hproblem⟩ : ∃ problem, readAssetMap readAmount .document
      (writeAssetMap writeAmount thresholds) = .error problem := readAssetMap_write_error hentry
  rw [readText_text]
  apply Record.reader_record_error
  refine ⟨_, hgiven, _, rfl, ?_⟩
  simp [Record.checking, hproblem, Except.map]

end Options

end DepositGate
