import DepositGate.Proofs.Json.WrittenForms

/-!
# Every text of a form has one that it is written as

Thirteen kinds of values and records have a form in JSON. A value is read back from the text that it
is written as. The same value has many other texts: members in any order or without names, members
that nothing asks for, members left out, numbers or strings with blanks and underscores, hexadecimal
in either case and with or without its mark, short identities of tokens, and assets named twice.
Whatever text a value was read from, it names no token without an identity, and so the text that it
is written as is read as the same value and written again as it stands.
-/

namespace DepositGate

open DepositGate.Json DepositGate.Text

/-! ### What readers give -/

namespace Json

variable {α β : Type} {origin : Origin} {node : Node}

theorem named_of_assetOfName {name : String} {asset : Asset} (h : assetOfName name = .ok asset) :
    asset.Named := by
  rw [assetOfName] at h
  split at h
  · rename_i hasset
    cases h
    exact Asset.named_of_ofText hasset
  · cases h

theorem named_of_readAsset {asset : Asset} (h : readAsset origin node = .ok asset) :
    asset.Named := by
  obtain ⟨name, -, hname⟩ := bind_eq_ok_iff.1 h
  exact named_of_assetOfName hname

theorem named_of_readEntries {read : Node → Except Problem α} :
    ∀ {members : Members} {entries : List (Asset × α)},
      readEntries assetOfName read members = .ok entries → ∀ e ∈ entries, e.1.Named
  | .close, entries, h => by
    cases h
    exact List.forall_mem_nil _
  | .stray _, entries, h => by cases h
  | .member none _ _, entries, h => by cases h
  | .member (some name) value rest, entries, h => by
    obtain ⟨key, hkey, h⟩ := bind_eq_ok_iff.1 h
    obtain ⟨a, -, h⟩ := bind_eq_ok_iff.1 h
    obtain ⟨others, hothers, h⟩ := bind_eq_ok_iff.1 h
    cases h
    exact List.forall_mem_cons.2 ⟨named_of_assetOfName hkey, named_of_readEntries hothers⟩

theorem named_of_readAssetMap {read : Reader α} {map : SortedMap Asset α}
    (h : readAssetMap read origin node = .ok map) : ∀ e ∈ map.entries, e.1.Named := by
  obtain ⟨entries, hentries, rfl⟩ := map_eq_ok_iff.1 h
  have hnamed : ∀ e ∈ entries, e.1.Named := by
    cases node with
    | object members => exact named_of_readEntries hentries
    | _ => cases hentries
  exact fun e he => hnamed e (SortedMap.mem_of_mem_ofList he)

namespace Record

/-- Whatever nodes a record is built of, the result has a property. -/
def Yields (record : Record α) (P : α → Prop) : Prop :=
  ∀ origin find a, record.build origin find = .ok a → P a

variable {P : β → Prop} {Q : α → Prop} {name : String} {read : Reader α}

theorem yields_true (record : Record α) : record.Yields fun _ => True :=
  fun _ _ _ _ => trivial

theorem Yields.map {record : Record α} {f : α → β} (h : record.Yields Q)
    (hf : ∀ a, Q a → P (f a)) : (f <$> record).Yields P := by
  intro origin find b hbuild
  rw [build_map] at hbuild
  obtain ⟨a, ha, rfl⟩ := map_eq_ok_iff.1 hbuild
  exact hf a (h origin find a ha)

theorem Yields.seq {f : Record (α → β)} {record : Record α}
    (hf : f.Yields fun g => ∀ a, Q a → P (g a)) (h : record.Yields Q) :
    (f <*> record).Yields P := by
  intro origin find b hbuild
  rw [build_seq] at hbuild
  obtain ⟨g, hg, hbuild⟩ := bind_eq_ok_iff.1 hbuild
  obtain ⟨a, ha, rfl⟩ := map_eq_ok_iff.1 hbuild
  exact hf origin find g hg a (h origin find a ha)

/-- A property that no value of a field can spoil. -/
theorem Yields.apply {f : Record (α → β)} {record : Record α}
    (hf : f.Yields fun g => ∀ a, P (g a)) : (f <*> record).Yields P := by
  have hany : f.Yields fun g => ∀ a, True → P (g a) :=
    fun origin find g hg a _ => hf origin find g hg a
  exact hany.seq (yields_true record)

theorem yields_required (h : ∀ origin node a, read origin node = .ok a → Q a) :
    (required name read).Yields Q := by
  intro origin find a hbuild
  simp only [required] at hbuild
  split at hbuild
  · exact h _ _ _ hbuild
  · cases hbuild

theorem yields_defaulted {default : α} (h : ∀ origin node a, read origin node = .ok a → Q a)
    (hdefault : Q default) : (defaulted name read default).Yields Q := by
  intro origin find a hbuild
  simp only [defaulted] at hbuild
  split at hbuild
  · exact h _ _ _ hbuild
  · cases hbuild
    exact hdefault

theorem Yields.reader {record : Record α} (h : record.Yields Q) {a : α}
    (hread : record.reader name origin node = .ok a) : Q a := by
  cases node with
  | object members =>
    obtain ⟨_, -, hbuild⟩ := bind_eq_ok_iff.1 hread
    exact h _ _ a hbuild
  | array items =>
    obtain ⟨_, -, hbuild⟩ := bind_eq_ok_iff.1 hread
    exact h _ _ a hbuild
  | _ => cases hread

end Record

end Json

open Json.Record

variable {origin : Origin} {node : Node}

theorem yields_asset : (required "asset" readAsset).Yields Asset.Named :=
  yields_required fun _ _ _ => named_of_readAsset

theorem TokenUsage.named_of_read {usage : TokenUsage} (h : read origin node = .ok usage) :
    usage.asset.Named := by
  refine Yields.reader (Q := fun usage => usage.asset.Named) ?_ h
  exact .apply (.apply (.apply (yields_asset.map fun _ hnamed _ _ _ => hnamed)))

theorem Request.named_of_read {request : Request} (h : read origin node = .ok request) :
    request.asset.Named := by
  refine Yields.reader (Q := fun request => request.asset.Named) ?_ h
  refine .apply (.apply (.apply (.apply (.seq (.map (yields_true _) ?_) yields_asset))))
  exact fun _ _ _ hnamed _ _ _ _ => hnamed

theorem Config.named_of_read {config : Config} (h : read origin node = .ok config) :
    Thresholds.Named config.thresholds := by
  have hthresholds : (defaulted "token_thresholds" (readAssetMap readAmount)
      standard.thresholds).Yields Thresholds.Named :=
    yields_defaulted (fun _ _ _ => named_of_readAssetMap) (List.forall_mem_nil _)
  refine Yields.reader (Q := fun config => Thresholds.Named config.thresholds) ?_ h
  refine .apply (.apply (.seq ?_ hthresholds))
  refine .apply (.apply (.apply (.apply (.apply (.map (yields_true _) ?_)))))
  exact fun _ _ _ _ _ _ _ _ hnamed _ _ => hnamed

/-! ### Forms -/

/-- The kinds of values and records that have a form in JSON. -/
inductive Form where
  | amount
  | usd
  | asset
  | kind
  | role
  | round
  | sequencer
  | caps
  | block
  | usage
  | refund
  | request
  | config
deriving DecidableEq, Repr

namespace Form

abbrev Value : Form → Type
  | amount => Amount
  | usd => Usd
  | asset => Asset
  | kind => DepositKind
  | role => Role
  | round => Round
  | sequencer => SequencerStatus
  | caps => Caps
  | block => BlockBudget
  | usage => TokenUsage
  | refund => Refund
  | request => Request
  | config => Config

def write : (form : Form) → form.Value → Node
  | amount => writeAmount
  | usd => writeUsd
  | asset => writeAsset
  | kind => DepositKind.write
  | role => Role.write
  | round => Round.write
  | sequencer => SequencerStatus.write
  | caps => Caps.write
  | block => BlockBudget.write
  | usage => TokenUsage.write
  | refund => Refund.write
  | request => Request.write
  | config => Config.write

def read : (form : Form) → Reader form.Value
  | amount => readAmount
  | usd => readUsd
  | asset => readAsset
  | kind => DepositKind.read
  | role => Role.read
  | round => Round.read
  | sequencer => SequencerStatus.read
  | caps => Caps.read
  | block => BlockBudget.read
  | usage => TokenUsage.read
  | refund => Refund.read
  | request => Request.read
  | config => Config.read

/-- No token of the value is without an identity. -/
def Named : (form : Form) → form.Value → Prop
  | asset => Asset.Named
  | usage => fun usage : TokenUsage => usage.asset.Named
  | request => fun request : Request => request.asset.Named
  | config => fun config : Config => Thresholds.Named config.thresholds
  | amount | usd | kind | role | round | sequencer | caps | block | refund => fun _ => True

def text (form : Form) (value : form.Value) : String := (form.write value).toText

def ofText (form : Form) (text : String) : Except Problem form.Value := readText form.read text

theorem plain_write (form : Form) (value : form.Value) : (form.write value).Plain := by
  cases form with
  | amount => exact plain_amount value
  | usd => exact plain_usd value
  | asset => exact plain_asset value
  | kind => exact plain_text (DepositKind.name value)
  | role => exact plain_text (Role.name value)
  | round => exact Round.plain_write value
  | sequencer => exact SequencerStatus.plain_write value
  | caps => exact Caps.plain_write value
  | block => exact BlockBudget.plain_write value
  | usage => exact TokenUsage.plain_write value
  | refund => exact Refund.plain_write value
  | request => exact Request.plain_write value
  | config => exact Config.plain_write value

theorem read_write (form : Form) (origin : Origin) {value : form.Value} (h : form.Named value) :
    form.read origin (form.write value) = .ok value := by
  cases form with
  | amount => exact readAmount_write origin value
  | usd => exact readUsd_write origin value
  | asset => exact readAsset_write origin h
  | kind => exact DepositKind.read_write origin value
  | role => exact Role.read_write origin value
  | round => exact Round.read_write origin value
  | sequencer => exact SequencerStatus.read_write origin value
  | caps => exact Caps.read_write origin value
  | block => exact BlockBudget.read_write origin value
  | usage => exact TokenUsage.read_write origin h
  | refund => exact Refund.read_write origin value
  | request => exact Request.read_write origin h
  | config => exact Config.read_write origin h

theorem named_of_read {form : Form} {value : form.Value}
    (h : form.read origin node = .ok value) : form.Named value := by
  cases form with
  | asset => exact named_of_readAsset h
  | usage => exact TokenUsage.named_of_read h
  | request => exact Request.named_of_read h
  | config => exact Config.named_of_read h
  | _ => trivial

theorem ofText_text {form : Form} {value : form.Value} (h : form.Named value) :
    form.ofText (form.text value) = .ok value :=
  (readText_toText form.read (form.plain_write value)).trans (form.read_write .document h)

theorem named_of_ofText {form : Form} {value : form.Value} {text : String}
    (h : form.ofText text = .ok value) : form.Named value := by
  obtain ⟨found, hread, hend⟩ := bind_eq_ok_iff.1 h
  split at hend
  · cases hend
  · cases hend
    exact named_of_read hread

/-- A value without an unnamed token is read back from its text. Whatever text a value is read from,
it has no unnamed token, and its own text is read as the same value and written again as it is. -/
theorem round_trip (form : Form) :
    (∀ value, form.Named value → form.ofText (form.text value) = .ok value)
      ∧ ∀ text value, form.ofText text = .ok value →
        form.Named value
          ∧ form.ofText (form.text value) = .ok value
          ∧ (form.ofText (form.text value)).map form.text = .ok (form.text value) := by
  refine ⟨fun value hnamed => ofText_text hnamed, ?_⟩
  intro text value hread
  have hnamed := named_of_ofText hread
  have hback := ofText_text hnamed
  refine ⟨hnamed, hback, ?_⟩
  rw [hback]
  rfl

/-- An unknown member, an amount with blanks and an underscore, settings left out, an asset under
two names, and a short identity in both cases without its mark. -/
def sampleSpelling : String :=
  "\x7b \"note\": [1], \"max_cap_usd\": \" 1_0 \", \"token_thresholds\": \x7b " ++
    "\"NATIVE\": 1, \"native\": \"2\", \"00000000000000000000000000000000000000aA\": 3 \x7d \x7d"

def sampleSpelled : Config :=
  { Config.standard with
    maxCap := .ofUInt64 10
    thresholds := .ofList [(.native, .ofUInt64 2), (.token ⟨0xaa, by decide⟩, .ofUInt64 3)] }

theorem sampleSpelling_round_trip :
    (config.ofText sampleSpelling).toOption = some sampleSpelled
      ∧ config.Named sampleSpelled
      ∧ config.ofText (config.text sampleSpelled) = .ok sampleSpelled
      ∧ (config.ofText (config.text sampleSpelled)).map config.text
        = .ok (config.text sampleSpelled) := by
  have hspelled : (config.ofText sampleSpelling).toOption = some sampleSpelled := by
    decide +kernel
  have hback := (round_trip config).2 sampleSpelling sampleSpelled (eq_ok_of_toOption hspelled)
  exact ⟨hspelled, hback⟩

end Form

end DepositGate
