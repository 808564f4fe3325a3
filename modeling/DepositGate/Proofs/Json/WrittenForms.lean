import DepositGate.Config.Load
import DepositGate.Proofs.Config.Thresholds
import DepositGate.Proofs.Json.Reader

/-!
# Written forms are read back

Each kind of value and record is read from the node that it is written as, as long as it has no
token without an identity: the text of such an asset is refused. Written nodes are plain, so what
holds of nodes holds of their texts.
-/

namespace DepositGate

open DepositGate.Json DepositGate.Text

namespace Json

variable {α : Type} {origin : Origin}

/-! ### Values -/

theorem plain_int (n : Int) : (Node.int n).Plain := ⟨n, rfl⟩

theorem plain_bool (value : Bool) : (Node.bool value).Plain := trivial

theorem plain_text (text : String) : (Node.text text).Plain := rfl

theorem plain_usd (usd : Usd) : (writeUsd usd).Plain := plain_amount usd.raw

theorem plain_asset (asset : Asset) : (writeAsset asset).Plain := plain_text asset.toText

theorem plain_identity {size : Nat} (id : Identity size) : (writeIdentity id).Plain :=
  plain_text id.toText

theorem plain_bytes (bytes : List UInt8) : (writeBytes bytes).Plain := plain_text _

theorem toInt_ofInt (n : Int) : (NumberText.ofInt n).toInt = n := by
  rw [NumberText.toInt, NumberText.ofInt, digitsValue_digits]
  by_cases hneg : n < 0
  · rw [if_pos (decide_eq_true hneg)]
    omega
  · rw [if_neg (by simpa using hneg)]
    omega

theorem readBool_write (origin : Origin) (value : Bool) :
    readBool origin (.bool value) = .ok value := rfl

theorem readAnswer_write (origin : Origin) (answer : Answer) :
    readAnswer origin (.int answer.val) = .ok answer := by
  have hwhole : (NumberText.ofInt answer.val).isWhole = true := rfl
  rw [Node.int, readAnswer]
  simp only [hwhole, toInt_ofInt, Answer.ofInt?_val]
  rfl

theorem readUsd_write (origin : Origin) (usd : Usd) : readUsd origin (writeUsd usd) = .ok usd := by
  rw [readUsd, writeUsd, readAmount_write]
  rfl

theorem readAsset_write (origin : Origin) {asset : Asset} (h : asset.Named) :
    readAsset origin (writeAsset asset) = .ok asset :=
  assetOfName_toText h

theorem bytesOfText_encode (bytes : List UInt8) :
    bytesOfText (String.ofList ('0' :: 'x' :: Hex.encode bytes)) = .ok bytes := by
  rw [bytesOfText, String.toList_ofList, Hex.dropMark, Hex.decode_encode]

theorem readBytes_write (origin : Origin) (bytes : List UInt8) :
    readBytes origin (writeBytes bytes) = .ok bytes :=
  bytesOfText_encode bytes

theorem readIdentity_write (origin : Origin) {size : Nat} (id : Identity size)
    (wrongSize : Nat → Misfit) :
    readIdentity size wrongSize origin (writeIdentity id) = .ok id := by
  have hbytes : readBytes origin (writeIdentity id) = .ok id.toBytes :=
    bytesOfText_encode id.toBytes
  rw [readIdentity, hbytes]
  show (if h : id.toBytes.length = size then Except.ok (Identity.ofBytes id.toBytes h) else _) = _
  rw [dif_pos id.length_toBytes, Identity.ofBytes_toBytes]

theorem readAddress_write (origin : Origin) (account : Address) :
    readAddress origin (writeIdentity account) = .ok account :=
  readIdentity_write origin account _

theorem readDestination_write (origin : Origin) (account : DestinationAddress) :
    readDestination origin (writeIdentity account) = .ok account :=
  readIdentity_write origin account _

/-- A choice is read from its name. -/
theorem readChoice_text {options : List (String × α)} {name : String} {a : α}
    (h : options.lookup name = some a) (origin : Origin) :
    readChoice options origin (.text name) = .ok a := by
  rw [Node.text, readChoice, choose, h]

/-! ### Fields -/

namespace Record

/-- A field that is there is read as its value. -/
theorem reads_field {record : Record α} {name : String} {read : Reader α} {omissible : Bool}
    {node : Node} {a : α} (hrules : record.rules = [⟨name, checking read, omissible⟩])
    (hbuild : ∀ find, find name = some node → record.build origin find = read origin node)
    (hread : read origin node = .ok a) : record.Reads origin [(name, some node)] a where
  names := by rw [hrules]; rfl
  checks other value hmem := by
    obtain ⟨rfl, rfl⟩ : other = name ∧ value = node := by simpa using hmem
    refine ⟨⟨other, checking read, omissible⟩, ?_, rfl, ?_⟩
    · rw [hrules]
      exact List.mem_singleton_self _
    · show (read origin value).map _ = _
      rw [hread]
      rfl
  builds find hfind := (hbuild find (hfind _ (List.mem_singleton_self _))).trans hread

theorem reads_required (name : String) {read : Reader α} {node : Node} {a : α}
    (hread : read origin node = .ok a) :
    (required name read).Reads origin [(name, some node)] a := by
  refine reads_field rfl (fun find hfind => ?_) hread
  simp only [required, hfind]

theorem reads_defaulted (name : String) {read : Reader α} {node : Node} {a : α} (default : α)
    (hread : read origin node = .ok a) :
    (defaulted name read default).Reads origin [(name, some node)] a := by
  refine reads_field rfl (fun find hfind => ?_) hread
  simp only [defaulted, hfind]

end Record

end Json

open Json.Record

variable {origin : Origin}

/-! ### Choices and records -/

theorem DepositKind.read_write (origin : Origin) (kind : DepositKind) :
    DepositKind.read origin kind.write = .ok kind := by
  apply readChoice_text
  cases kind <;> rfl

theorem Role.read_write (origin : Origin) (role : Role) :
    Role.read origin role.write = .ok role := by
  apply readChoice_text
  cases role <;> rfl

theorem Round.read_write (origin : Origin) (round : Round) :
    Round.read origin round.write = .ok round :=
  ((reads_required "round_id" (readUInt64_write origin round.id)).map Round.mk
    |>.seq (reads_required "answer" (readAnswer_write origin round.answer))
    |>.seq (reads_required "started_at" (readUInt64_write origin round.startedAt))
    |>.seq (reads_required "updated_at" (readUInt64_write origin round.updatedAt))
    |>.seq (reads_required "answered_in_round" (readUInt64_write origin round.answeredIn))
  ).reader_given (by simp) _

theorem SequencerStatus.read_write (origin : Origin) (status : SequencerStatus) :
    SequencerStatus.read origin status.write = .ok status :=
  ((reads_required "is_up" (readBool_write origin status.isUp)).map SequencerStatus.mk
    |>.seq (reads_required "started_at" (readUInt64_write origin status.startedAt))
  ).reader_given (by simp) _

theorem Caps.read_write (origin : Origin) (caps : Caps) : Caps.read origin caps.write = .ok caps :=
  ((reads_required "min_usd" (readUsd_write origin caps.min)).map Caps.mk
    |>.seq (reads_required "max_usd" (readUsd_write origin caps.max))
  ).reader_given (by simp) _

theorem BlockBudget.read_write (origin : Origin) (budget : BlockBudget) :
    BlockBudget.read origin budget.write = .ok budget :=
  ((reads_required "block_key" (readUInt64_write origin budget.key)).map BlockBudget.mk
    |>.seq (reads_required "consumed_usd" (readUsd_write origin budget.consumed))
    |>.seq (reads_required "cap_usd" (readUsd_write origin budget.cap))
  ).reader_given (by simp) _

theorem TokenUsage.read_write (origin : Origin) {usage : TokenUsage} (h : usage.asset.Named) :
    TokenUsage.read origin usage.write = .ok usage :=
  ((reads_required "asset" (readAsset_write origin h)).map TokenUsage.mk
    |>.seq (reads_required "epoch_index" (readUInt64_write origin usage.epoch))
    |>.seq (reads_required "used" (readAmount_write origin usage.used))
    |>.seq (reads_required "threshold" (readAmount_write origin usage.threshold))
  ).reader_given (by simp) _

theorem Refund.read_write (origin : Origin) (refund : Refund) :
    Refund.read origin refund.write = .ok refund :=
  ((reads_required "fund_recipient" (readAddress_write origin refund.recipient)).map Refund.mk
    |>.seq (reads_defaulted "revert_msg" [] (readBytes_write origin refund.message))
  ).reader_given (by simp) _

theorem Request.read_write (origin : Origin) {request : Request} (h : request.asset.Named) :
    Request.read origin request.write = .ok request := by
  have hreads := (reads_defaulted "recipient" .zero
        (readDestination_write origin request.recipient)).map Request.mk
    |>.seq (reads_required "asset" (readAsset_write origin h))
    |>.seq (reads_defaulted "amount" .zero (readAmount_write origin request.amount))
    |>.seq (reads_defaulted "payload" [] (readBytes_write origin request.payload))
    |>.seq (reads_required "revert_instruction" (request.refund.read_write origin))
    |>.seq (reads_defaulted "signature_data" [] (readBytes_write origin request.signature))
  exact hreads.reader_given (by simp) _

theorem Config.read_write (origin : Origin) {config : Config}
    (h : Thresholds.Named config.thresholds) : Config.read origin config.write = .ok config :=
  ((reads_defaulted "min_cap_usd" _ (readAmount_write origin config.minCap)).map Config.mk
    |>.seq (reads_defaulted "max_cap_usd" _ (readAmount_write origin config.maxCap))
    |>.seq (reads_defaulted "block_cap_usd" _ (readAmount_write origin config.blockCap))
    |>.seq (reads_defaulted "usd_decimals" _ (readUInt8_write origin config.usdDecimals))
    |>.seq (reads_defaulted "native_decimals" _ (readUInt8_write origin config.nativeDecimals))
    |>.seq (reads_defaulted "epoch_duration_seconds" _
      (readUInt64_write origin config.epochDuration))
    |>.seq (reads_defaulted "token_thresholds" _ (readAssetMap_write h (readAmount_write origin)))
    |>.seq (reads_defaulted "oracle_stale_period_seconds" _
      (readUInt64_write origin config.stalePeriod))
    |>.seq (reads_defaulted "sequencer_grace_period_seconds" _
      (readUInt64_write origin config.gracePeriod))
  ).reader_given (by simp) _

/-! ### Plain records -/

theorem Round.plain_write (round : Round) : round.write.Plain := by
  apply plain_ofList
  simp [plain_uInt64, plain_int]

theorem SequencerStatus.plain_write (status : SequencerStatus) : status.write.Plain := by
  apply plain_ofList
  simp [plain_uInt64, plain_bool]

theorem Caps.plain_write (caps : Caps) : caps.write.Plain := by
  apply plain_ofList
  simp [plain_usd]

theorem BlockBudget.plain_write (budget : BlockBudget) : budget.write.Plain := by
  apply plain_ofList
  simp [plain_uInt64, plain_usd]

theorem TokenUsage.plain_write (usage : TokenUsage) : usage.write.Plain := by
  apply plain_ofList
  simp [plain_asset, plain_uInt64, plain_amount]

theorem Refund.plain_write (refund : Refund) : refund.write.Plain := by
  apply plain_ofList
  simp [plain_identity, plain_bytes]

theorem Request.plain_write (request : Request) : request.write.Plain := by
  apply plain_ofList
  simp [plain_identity, plain_asset, plain_amount, plain_bytes, Refund.plain_write]

theorem Config.plain_write (config : Config) : config.write.Plain := by
  have hthresholds : (writeAssetMap writeAmount config.thresholds).Plain :=
    plain_assetMap plain_amount config.thresholds
  apply plain_ofList
  simp [plain_amount, plain_uInt8, plain_uInt64, hthresholds]

end DepositGate
