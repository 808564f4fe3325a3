import DepositGate.Budget.Counter
import DepositGate.Refusal

/-!
# Epoch limits

For each asset, the bridged funds admitted within one epoch stay within a threshold. Epochs are
`duration` seconds long and numbered from time zero. An asset without a threshold, or with a
threshold of zero, is not supported. A duration of zero turns limiting off; unsupported assets are
still refused. Changing a threshold or the duration leaves what was recorded.
-/

namespace DepositGate

structure TokenUsage where
  asset : Asset
  /-- The epoch of the last write. -/
  epoch : UInt64
  used : Amount
  threshold : Amount
deriving DecidableEq, Repr

namespace TokenUsage

def fresh (asset : Asset) (threshold : Amount) : TokenUsage := ⟨asset, 0, .zero, threshold⟩

/-- A threshold that is set has not been exceeded. -/
def Within (usage : TokenUsage) : Prop :=
  usage.threshold.isZero = true ∨ usage.used ≤ usage.threshold

instance (usage : TokenUsage) : Decidable usage.Within := inferInstanceAs (Decidable (_ ∨ _))

def usedAt (usage : TokenUsage) (epoch : UInt64) : Amount :=
  countedAt .zero usage.epoch usage.used epoch

/-- The record after `amount` is consumed in an epoch, if it fits. -/
def plan (usage : TokenUsage) (amount : Amount) (epoch : UInt64) : Except Refusal TokenUsage :=
  if usage.threshold.isZero then .error (.tokenUnsupported usage.asset)
  else
    let used := usage.usedAt epoch
    match fitting? used amount usage.threshold with
    | some total => .ok { usage with epoch := epoch, used := total }
    | none => .error (.rateLimitExceeded usage.asset amount used usage.threshold)

end TokenUsage

/-- The record to store once `amount` of an asset is consumed at a time, given the record stored
now; none to store if limiting is off. -/
def planEpoch (asset : Asset) (record : Option TokenUsage) (amount : Amount)
    (now duration : UInt64) : Except Failure (Option TokenUsage) :=
  match record.filter (fun usage => !usage.threshold.isZero) with
  | none => .error (.refused (.tokenUnsupported asset))
  | some usage =>
    if duration = 0 then .ok none
    else do
      let epoch ← computing (epochOf now duration)
      let next ← refusing (usage.plan amount epoch)
      return some next

structure EpochLimits where
  duration : UInt64
  records : SortedMap Asset TokenUsage
deriving DecidableEq, Repr

namespace EpochLimits

def start (duration : UInt64) : EpochLimits := ⟨duration, .empty⟩

instance : Inhabited EpochLimits := ⟨start 0⟩

def record (limits : EpochLimits) (asset : Asset) : Option TokenUsage :=
  limits.records.find? asset

/-- Stores a planned record under the asset it is about. -/
def apply (limits : EpochLimits) (next : TokenUsage) : EpochLimits :=
  { limits with records := limits.records.insert next.asset next }

def consume (limits : EpochLimits) (asset : Asset) (amount : Amount) (now : UInt64) :
    Except Failure EpochLimits := do
  match ← planEpoch asset (limits.record asset) amount now limits.duration with
  | none => return limits
  | some next => return limits.apply next

/-- What is used of an asset's threshold in the epoch of a time, and what remains. -/
def usage (limits : EpochLimits) (asset : Asset) (now : UInt64) :
    Except Failure (Amount × Amount) :=
  match (limits.record asset).filter (fun usage => !usage.threshold.isZero) with
  | none => .error (.refused (.tokenUnsupported asset))
  | some usage => do
    let used ← if limits.duration = 0 then pure Amount.zero
      else do
        let epoch ← computing (epochOf now limits.duration)
        pure (usage.usedAt epoch)
    return (used, usage.threshold.saturatingSub used)

def setThreshold (limits : EpochLimits) (asset : Asset) (threshold : Amount) : EpochLimits :=
  let next := match limits.record asset with
    | some usage => { usage with threshold := threshold }
    | none => .fresh asset threshold
  { limits with records := limits.records.insert asset next }

/-- An asset's threshold; zero if none was ever set. -/
def threshold (limits : EpochLimits) (asset : Asset) : Amount :=
  match limits.record asset with
  | some usage => usage.threshold
  | none => .zero

def setDuration (limits : EpochLimits) (duration : UInt64) : EpochLimits :=
  { limits with duration := duration }

end EpochLimits

end DepositGate
