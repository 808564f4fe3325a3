import DepositGate.Budget.Ledger
import DepositGate.Caps
import DepositGate.Json.Reader
import DepositGate.Request

/-!
# JSON forms of values and records

Amounts and dollar values are written as decimal strings and read from decimal strings or unsigned
numbers. Identities and byte strings are hexadecimal with a leading `0x`, which may be missing in
what is read. Each record is given by the fields it is written with and, beside them, the fields it
is read from; the order of the two is the same.
-/

namespace DepositGate

open DepositGate.Json DepositGate.Text

/-! ## Writing -/

namespace Json

def writeAmount (a : Amount) : Node := .text a.toText

def writeUsd (usd : Usd) : Node := writeAmount usd.raw

def writeAsset (asset : Asset) : Node := .text asset.toText

def writeIdentity {size : Nat} (id : Identity size) : Node := .text id.toText

def writeBytes (bytes : List UInt8) : Node :=
  .text (String.ofList ('0' :: 'x' :: Hex.encode bytes))

def writeUInt64 (n : UInt64) : Node := .nat n.toNat

def writeUInt8 (n : UInt8) : Node := .nat n.toNat

def writeAssetMap {α : Type} (write : α → Node) (map : SortedMap Asset α) : Node :=
  .record (map.entries.map fun entry => (entry.1.toText, write entry.2))

/-! ## Reading -/

/-- An amount as a decimal string or an unsigned number. -/
def readAmount : Reader Amount := fun _ node =>
  match node with
  | .number text =>
    match Number.ofText? text with
    | some (.unsigned n) => .ok (.ofUInt64 n)
    | some value => .error (.unfit (.wrongType (.number value) .amount))
    | none => .error .malformed
  | .string (some text) =>
    match Amount.ofText text with
    | .ok a => .ok a
    | .error why => .error (.unfit (.badAmount text why))
  | node => .error (node.wrongType .amount)

def readUsd : Reader Usd := fun origin node => (readAmount origin node).map Usd.mk

/-- A signed number of 128 bits, written without point or exponent. Everything else counts as
malformed. -/
def readAnswer : Reader Answer := fun _ node =>
  match node with
  | .number text =>
    match (if text.isWhole then Answer.ofInt? text.toInt else none) with
    | some answer => .ok answer
    | none => .error .malformed
  | _ => .error .malformed

def assetOfName (name : String) : Except Problem Asset :=
  match Asset.ofText name with
  | .ok asset => .ok asset
  | .error why => .error (.unfit (.badAsset why))

def readAsset : Reader Asset := fun origin node => readString origin node >>= assetOfName

def bytesOfText (text : String) : Except Problem (List UInt8) :=
  match Hex.decode (Hex.dropMark text.toList) with
  | .ok bytes => .ok bytes
  | .error why => .error (.unfit (.badHex why))

def readBytes : Reader (List UInt8) := fun origin node => readString origin node >>= bytesOfText

/-- Bytes of a fixed number; `wrongSize` is the misfit for another number of them. -/
def readIdentity (size : Nat) (wrongSize : Nat → Misfit) : Reader (Identity size) :=
  fun origin node => do
    let bytes ← readBytes origin node
    if h : bytes.length = size then return .ofBytes bytes h
    else .error (.unfit (wrongSize bytes.length))

def readAddress : Reader Address := readIdentity 32 (.wrongSize 32)

def readDestination : Reader DestinationAddress := readIdentity 20 (.wrongSize 20)

/-- A map from assets; of entries for one asset the last one counts. -/
def readAssetMap {α : Type} (read : Reader α) : Reader (SortedMap Asset α) := fun origin node =>
  (readMap assetOfName read origin node).map .ofList

end Json

/-! ## Choices -/

def DepositKind.write (kind : DepositKind) : Node := .text kind.name

def DepositKind.read : Reader DepositKind :=
  readChoice (DepositKind.all.map fun kind => (kind.name, kind))

def Role.write (role : Role) : Node := .text role.name

def Role.read : Reader Role := readChoice (Role.all.map fun role => (role.name, role))

/-! ## Records -/

def Round.write (round : Round) : Node := .record [
  ("round_id", writeUInt64 round.id),
  ("answer", .int round.answer.val),
  ("started_at", writeUInt64 round.startedAt),
  ("updated_at", writeUInt64 round.updatedAt),
  ("answered_in_round", writeUInt64 round.answeredIn)]

def Round.read : Reader Round := Record.reader "RoundData" (Round.mk
  <$> .required "round_id" readUInt64
  <*> .required "answer" readAnswer
  <*> .required "started_at" readUInt64
  <*> .required "updated_at" readUInt64
  <*> .required "answered_in_round" readUInt64)

def SequencerStatus.write (status : SequencerStatus) : Node := .record [
  ("is_up", .bool status.isUp),
  ("started_at", writeUInt64 status.startedAt)]

def SequencerStatus.read : Reader SequencerStatus :=
  Record.reader "SequencerStatus" (SequencerStatus.mk
    <$> .required "is_up" readBool
    <*> .required "started_at" readUInt64)

def Caps.write (caps : Caps) : Node := .record [
  ("min_usd", writeUsd caps.min),
  ("max_usd", writeUsd caps.max)]

def Caps.read : Reader Caps := Record.reader "CapConfig" (Caps.mk
  <$> .required "min_usd" readUsd
  <*> .required "max_usd" readUsd)

def BlockBudget.write (budget : BlockBudget) : Node := .record [
  ("block_key", writeUInt64 budget.key),
  ("consumed_usd", writeUsd budget.consumed),
  ("cap_usd", writeUsd budget.cap)]

def BlockBudget.read : Reader BlockBudget := Record.reader "BlockBudget" (BlockBudget.mk
  <$> .required "block_key" readUInt64
  <*> .required "consumed_usd" readUsd
  <*> .required "cap_usd" readUsd)

def TokenUsage.write (usage : TokenUsage) : Node := .record [
  ("asset", writeAsset usage.asset),
  ("epoch_index", writeUInt64 usage.epoch),
  ("used", writeAmount usage.used),
  ("threshold", writeAmount usage.threshold)]

def TokenUsage.read : Reader TokenUsage := Record.reader "TokenEpochUsage" (TokenUsage.mk
  <$> .required "asset" readAsset
  <*> .required "epoch_index" readUInt64
  <*> .required "used" readAmount
  <*> .required "threshold" readAmount)

def Ledger.write (ledger : Ledger) : Node := .record [
  ("block_budget", ledger.block.write),
  ("epoch_duration", writeUInt64 ledger.epochs.duration),
  ("tokens", writeAssetMap TokenUsage.write ledger.epochs.records)]

def Refund.write (refund : Refund) : Node := .record [
  ("fund_recipient", writeIdentity refund.recipient),
  ("revert_msg", writeBytes refund.message)]

def Refund.read : Reader Refund := Record.reader "RevertInstructions" (Refund.mk
  <$> .required "fund_recipient" readAddress
  <*> .defaulted "revert_msg" readBytes [])

def Request.write (request : Request) : Node := .record [
  ("recipient", writeIdentity request.recipient),
  ("asset", writeAsset request.asset),
  ("amount", writeAmount request.amount),
  ("payload", writeBytes request.payload),
  ("revert_instruction", request.refund.write),
  ("signature_data", writeBytes request.signature)]

def Request.read : Reader Request := Record.reader "UniversalTxRequest" (Request.mk
  <$> .defaulted "recipient" readDestination .zero
  <*> .required "asset" readAsset
  <*> .defaulted "amount" readAmount .zero
  <*> .defaulted "payload" readBytes []
  <*> .required "revert_instruction" Refund.read
  <*> .defaulted "signature_data" readBytes [])

def FundsLeg.write (leg : FundsLeg) : Node := .record [
  ("asset", writeAsset leg.asset),
  ("amount", writeAmount leg.amount)]

end DepositGate
