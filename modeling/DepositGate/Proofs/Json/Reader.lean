import DepositGate.Json.Values
import DepositGate.Proofs.Json.WrittenText
import DepositGate.Proofs.Outcome
import DepositGate.Proofs.SortedMap
import DepositGate.Proofs.Text.WrittenValues

/-!
# Reading written values and records

The node that a value is written as is read as that value. A record with known members that fit and
that have different names is made of just these members, whatever their order, and one with a known
member that does not fit is refused.
-/

namespace DepositGate.Json

open DepositGate.Text

/-- What is read of the text of a plain node is what is read of the node. -/
theorem readText_toText {α : Type} (read : Reader α) {node : Node} (h : node.Plain) :
    readText read node.toText = read .document node := by
  rw [readText, Document.ofText_toText h, readDocument]
  exact bind_pure _

/-! ### Values -/

theorem ofNat_eq_ofInt (n : Nat) : NumberText.ofNat n = .ofInt n := by
  rw [NumberText.ofNat, NumberText.ofInt, Int.natAbs_natCast, decide_eq_false (by omega)]

theorem plain_nat (n : Nat) : (Node.nat n).Plain :=
  ⟨n, ofNat_eq_ofInt n⟩

theorem plain_uInt8 (n : UInt8) : (writeUInt8 n).Plain := plain_nat n.toNat

theorem plain_uInt64 (n : UInt64) : (writeUInt64 n).Plain := plain_nat n.toNat

theorem plain_amount (a : Amount) : (writeAmount a).Plain := rfl

theorem plain_ofList {members : List (String × Node)} (h : ∀ member ∈ members, member.2.Plain) :
    (Members.ofList members).Plain := by
  induction members with
  | nil => trivial
  | cons first rest ih =>
    have hrest := ih fun member hmember => h member (List.mem_cons_of_mem _ hmember)
    exact ⟨rfl, h first (by simp), hrest⟩

theorem ofText?_ofNat {n : Nat} (h : n < 2 ^ 64) :
    Number.ofText? (.ofNat n) = some (.unsigned (UInt64.ofNat n)) := by
  simp [Number.ofText?, NumberText.ofNat, NumberText.isWhole, h]

theorem readUInt64_write (origin : Origin) (n : UInt64) :
    readUInt64 origin (writeUInt64 n) = .ok n := by
  rw [writeUInt64, Node.nat, readUInt64, ofText?_ofNat n.toNat_lt]
  simp

theorem readUInt8_write (origin : Origin) (n : UInt8) :
    readUInt8 origin (writeUInt8 n) = .ok n := by
  have hn := n.toNat_lt
  have hsmall : UInt64.ofNat n.toNat < 256 := by
    have hlimit : (256 : UInt64).toNat = 256 := rfl
    rw [UInt64.lt_iff_toNat_lt, UInt64.toNat_ofNat', hlimit]
    omega
  have hback : (UInt64.ofNat n.toNat).toUInt8 = n := by
    apply UInt8.toNat_inj.1
    simp
  rw [writeUInt8, Node.nat, readUInt8, ofText?_ofNat (by omega)]
  simp only [if_pos hsmall, hback]

theorem readAmount_write (origin : Origin) (a : Amount) :
    readAmount origin (writeAmount a) = .ok a := by
  rw [writeAmount, Node.text, readAmount, Amount.ofText_toText]

/-! ### Maps from assets -/

section Entries

variable {κ α : Type} {readKey : String → Except Problem κ} {read : Node → Except Problem α}
  {key : κ → String} {node : α → Node} {entries : List (κ × α)}

theorem readEntries_map (hkey : ∀ e ∈ entries, readKey (key e.1) = .ok e.1)
    (hnode : ∀ e ∈ entries, read (node e.2) = .ok e.2) :
    readEntries readKey read (.ofList (entries.map fun e => (key e.1, node e.2)))
      = .ok entries := by
  induction entries with
  | nil => rfl
  | cons first rest ih =>
    have hrest := ih (fun e he => hkey e (List.mem_cons_of_mem _ he))
      fun e he => hnode e (List.mem_cons_of_mem _ he)
    rw [List.map_cons, Members.ofList, readEntries, hkey first (by simp), hnode first (by simp),
      hrest]
    rfl

theorem readEntries_error (h : ∃ e ∈ entries, ∀ found, readKey (key e.1) ≠ .ok found) :
    ∃ problem, readEntries readKey read (.ofList (entries.map fun e => (key e.1, node e.2)))
      = .error problem := by
  induction entries with
  | nil => simp at h
  | cons first rest ih =>
    rw [List.map_cons, Members.ofList, readEntries]
    cases hkey : readKey (key first.1) with
    | error problem => exact ⟨problem, rfl⟩
    | ok found =>
      obtain ⟨bad, hmem, hbad⟩ := h
      have hrest : bad ∈ rest := by
        rcases List.mem_cons.1 hmem with rfl | hrest
        · exact absurd hkey (hbad found)
        · exact hrest
      obtain ⟨problem, hproblem⟩ := ih ⟨bad, hrest, hbad⟩
      rw [hproblem]
      cases read (node first.2) with
      | error other => exact ⟨other, rfl⟩
      | ok value => exact ⟨problem, rfl⟩

end Entries

theorem assetOfName_toText {asset : Asset} (h : asset.Named) :
    assetOfName asset.toText = .ok asset := by
  rw [assetOfName, Asset.ofText_toText h]

theorem plain_assetMap {α : Type} {write : α → Node} (h : ∀ a, (write a).Plain)
    (map : SortedMap Asset α) : (writeAssetMap write map).Plain := by
  apply plain_ofList
  intro member hmember
  obtain ⟨entry, -, rfl⟩ := List.mem_map.1 hmember
  exact h entry.2

theorem readAssetMap_write {α : Type} {read : Reader α} {write : α → Node} {origin : Origin}
    {map : SortedMap Asset α} (hnamed : ∀ e ∈ map.entries, e.1.Named)
    (hread : ∀ a, read origin (write a) = .ok a) :
    readAssetMap read origin (writeAssetMap write map) = .ok map := by
  have hentries : readEntries assetOfName (read origin)
      (.ofList (map.entries.map fun e => (e.1.toText, write e.2))) = .ok map.entries :=
    readEntries_map (fun e he => assetOfName_toText (hnamed e he)) fun e _ => hread e.2
  rw [writeAssetMap, Node.record, readAssetMap, readMap, hentries]
  exact congrArg Except.ok map.ofList_entries

theorem readAssetMap_write_error {α : Type} {read : Reader α} {write : α → Node} {origin : Origin}
    {map : SortedMap Asset α} (h : ∃ e ∈ map.entries, ¬e.1.Named) :
    ∃ problem, readAssetMap read origin (writeAssetMap write map) = .error problem := by
  obtain ⟨e, he, hunnamed⟩ := h
  have hkey : ∀ found, assetOfName e.1.toText ≠ .ok found := by
    intro found
    rw [assetOfName, Asset.ofText_toText_of_not_named hunnamed]
    simp
  have hentries : ∃ problem, readEntries assetOfName (read origin)
      (.ofList (map.entries.map fun e => (e.1.toText, write e.2))) = .error problem :=
    readEntries_error ⟨e, he, hkey⟩
  obtain ⟨problem, hproblem⟩ := hentries
  refine ⟨problem, ?_⟩
  rw [writeAssetMap, Node.record, readAssetMap, readMap, hproblem]
  rfl

/-! ### Records -/

/-- The members that are there, of fields that each may be. -/
def given (fields : List (String × Option Node)) : List (String × Node) :=
  fields.filterMap fun field => field.2.map fun node => (field.1, node)

theorem mem_given_iff {fields : List (String × Option Node)} {name : String} {node : Node} :
    (name, node) ∈ given fields ↔ (name, some node) ∈ fields := by
  simp [given]

theorem plain_given {fields : List (String × Option Node)}
    (h : ∀ field ∈ fields, ∀ node ∈ field.2, node.Plain) : (Node.record (given fields)).Plain := by
  apply plain_ofList
  intro member hmember
  exact h (member.1, some member.2) (mem_given_iff.1 hmember) member.2 rfl

theorem nodup_given {fields : List (String × Option Node)} (h : (fields.map Prod.fst).Nodup) :
    ((given fields).map Prod.fst).Nodup := by
  have hsublist : ((given fields).map Prod.fst).Sublist (fields.map Prod.fst) := by
    clear h
    induction fields with
    | nil => exact .slnil
    | cons first rest ih =>
      obtain ⟨name, node?⟩ := first
      cases node? with
      | none => exact .cons name ih
      | some node => exact .cons_cons name ih
  exact h.sublist hsublist

theorem lookup_eq_some_iff_mem {members : List (String × Node)}
    (h : (members.map Prod.fst).Nodup) {name : String} {node : Node} :
    members.lookup name = some node ↔ (name, node) ∈ members := by
  induction members with
  | nil => simp
  | cons first rest ih =>
    obtain ⟨other, value⟩ := first
    rw [List.map_cons, List.nodup_cons] at h
    rw [List.lookup_cons, List.mem_cons, ← ih h.2]
    by_cases hname : name = other
    · subst hname
      have hrest : rest.lookup name ≠ some node := by
        intro hlookup
        exact h.1 (List.mem_map.2 ⟨_, (ih h.2).1 hlookup, rfl⟩)
      simp [hrest, eq_comm]
    · simp [beq_false_of_ne hname, hname]

theorem lookup_given {fields : List (String × Option Node)} (h : (fields.map Prod.fst).Nodup)
    {name : String} {node? : Option Node} (hmem : (name, node?) ∈ fields) :
    (given fields).lookup name = node? := by
  ext node
  rw [lookup_eq_some_iff_mem (nodup_given h), mem_given_iff]
  constructor
  · intro hother
    exact congrArg Prod.snd (List.inj_on_of_nodup_map h hmem hother rfl)
  · rintro rfl
    exact hmem

namespace Record

variable {α β : Type} {origin : Origin} {rules : List FieldRule}
  {members found : List (String × Node)} {find : String → Option Node}

theorem eq_of_build {first second : Record α} (hrules : first.rules = second.rules)
    (hbuild : ∀ origin find, first.build origin find = second.build origin find) :
    first = second := by
  obtain ⟨rules, build⟩ := first
  obtain rfl : rules = second.rules := hrules
  exact congrArg (Record.mk second.rules) (funext fun origin => funext (hbuild origin))

theorem build_map (f : α → β) (record : Record α) :
    (f <$> record).build origin find = f <$> record.build origin find := rfl

theorem build_seq (f : Record (α → β)) (record : Record α) : (f <*> record).build origin find
    = f.build origin find >>= fun g => g <$> record.build origin find := by
  show (f.build origin find >>= fun g => record.build origin find >>= fun a => pure (g a)) = _
  simp only [map_eq_pure_bind]

theorem gatherMembers_ofList (hnames : ((members.reverse ++ found).map Prod.fst).Nodup)
    (hfit : ∀ member ∈ members, ∃ rule, rules.find? (·.name == member.1) = some rule
      ∧ rule.check origin member.2 = .ok ()) :
    gatherMembers origin rules found (.ofList members) = .ok (members.reverse ++ found) := by
  induction members generalizing found with
  | nil => rfl
  | cons first rest ih =>
    obtain ⟨name, node⟩ := first
    obtain ⟨rule, hrule, hcheck⟩ := hfit (name, node) (by simp)
    rw [List.reverse_cons, List.append_assoc, List.singleton_append] at hnames ⊢
    have hnew : found.lookup name = none := by
      rw [List.lookup_eq_none_iff]
      intro member hmember
      rw [List.map_append, List.map_cons, List.nodup_append] at hnames
      have hdistinct := (List.nodup_cons.1 hnames.2.1).1
      rw [bne_iff_ne]
      rintro rfl
      exact hdistinct (List.mem_map.2 ⟨_, hmember, rfl⟩)
    have hrest := ih hnames fun member hmember => hfit member (List.mem_cons_of_mem _ hmember)
    simp only [Members.ofList, gatherMembers, hrule, hnew, hcheck]
    exact hrest

/-- Members that are known, fit and have different names are found by their names. -/
theorem reader_record {name : String} {record : Record α}
    (hnames : (members.map Prod.fst).Nodup)
    (hfit : ∀ member ∈ members, ∃ rule, record.rules.find? (·.name == member.1) = some rule
      ∧ rule.check origin member.2 = .ok ()) :
    record.reader name origin (.record members)
      = record.build origin fun field => members.lookup field := by
  have hreverse : (members.reverse.map Prod.fst).Nodup := by
    rwa [List.map_reverse, List.nodup_reverse]
  have hgather : gatherMembers origin record.rules [] (.ofList members) = .ok members.reverse := by
    rw [gatherMembers_ofList (by rwa [List.append_nil]) hfit, List.append_nil]
  have hlookup : (fun field => members.reverse.lookup field)
      = fun field => members.lookup field := by
    funext field
    ext node
    rw [lookup_eq_some_iff_mem hreverse, lookup_eq_some_iff_mem hnames, List.mem_reverse]
  rw [Node.record, reader, hgather, ← hlookup]
  rfl

theorem gatherMembers_error (h : ∃ member ∈ members, ∃ rule,
    rules.find? (·.name == member.1) = some rule ∧ rule.check origin member.2 ≠ .ok ()) :
    ∃ problem, gatherMembers origin rules found (.ofList members) = .error problem := by
  induction members generalizing found with
  | nil => simp at h
  | cons first rest ih =>
    obtain ⟨bad, hmem, rule, hrule, hcheck⟩ := h
    obtain ⟨name, node⟩ := first
    rw [Members.ofList, gatherMembers]
    rcases List.mem_cons.1 hmem with rfl | hrest
    · simp only [hrule]
      cases hfound : (found.lookup name).isSome with
      | true => exact ⟨_, rfl⟩
      | false =>
        cases hfirst : rule.check origin node with
        | ok u => exact absurd hfirst hcheck
        | error problem => exact ⟨problem, rfl⟩
    · -- The first member may be at fault itself; if not, the bad one comes up later.
      have hrest := fun found => @ih found ⟨bad, hrest, rule, hrule, hcheck⟩
      cases rules.find? (·.name == name) with
      | none =>
        dsimp only
        split
        · exact hrest found
        · exact ⟨_, rfl⟩
      | some first =>
        dsimp only
        split
        · exact ⟨_, rfl⟩
        · cases first.check origin node with
          | ok u => exact hrest _
          | error problem => exact ⟨problem, rfl⟩

theorem reader_record_error {name : String} {record : Record α}
    (h : ∃ member ∈ members, ∃ rule, record.rules.find? (·.name == member.1) = some rule
      ∧ rule.check origin member.2 ≠ .ok ()) :
    ∃ problem, record.reader name origin (.record members) = .error problem := by
  have hgather : ∃ problem, gatherMembers origin record.rules [] (.ofList members)
      = .error problem := gatherMembers_error h
  obtain ⟨problem, hproblem⟩ := hgather
  rw [Node.record, reader, hproblem]
  exact ⟨problem, rfl⟩

/-- A record reads fields as a value: the fields have the names of its rules in their order, those
that are there pass their checks, and the value is built of them wherever they are found. -/
structure Reads (record : Record α) (origin : Origin)
    (fields : List (String × Option Node)) (a : α) : Prop where
  names : record.rules.map (·.name) = fields.map Prod.fst
  checks : ∀ name node, (name, some node) ∈ fields →
    ∃ rule ∈ record.rules, rule.name = name ∧ rule.check origin node = .ok ()
  builds : ∀ find : String → Option Node, (∀ field ∈ fields, find field.1 = field.2) →
    record.build origin find = .ok a

section Reads

variable {fields others : List (String × Option Node)} {a : α}

theorem Reads.map {record : Record α} (h : Reads record origin fields a) (f : α → β) :
    Reads (f <$> record) origin fields (f a) where
  names := h.names
  checks := h.checks
  builds find hfind := by
    rw [build_map, h.builds find hfind]
    rfl

theorem Reads.seq {f : Record (α → β)} {record : Record α} {g : α → β}
    (hf : Reads f origin fields g) (h : Reads record origin others a) :
    Reads (f <*> record) origin (fields ++ others) (g a) where
  names := by
    show (f.rules ++ record.rules).map _ = _
    rw [List.map_append, List.map_append, hf.names, h.names]
  checks name node hmem := by
    show ∃ rule ∈ f.rules ++ record.rules, _
    rcases List.mem_append.1 hmem with hmem | hmem
    · obtain ⟨rule, hrule, hfit⟩ := hf.checks name node hmem
      exact ⟨rule, List.mem_append_left _ hrule, hfit⟩
    · obtain ⟨rule, hrule, hfit⟩ := h.checks name node hmem
      exact ⟨rule, List.mem_append_right _ hrule, hfit⟩
  builds find hfind := by
    have hleft := hf.builds find fun field hmem => hfind field (List.mem_append_left _ hmem)
    have hright := h.builds find fun field hmem => hfind field (List.mem_append_right _ hmem)
    rw [build_seq, hleft, hright]
    rfl

theorem find?_rule (hnames : (rules.map (·.name)).Nodup) {rule : FieldRule} (h : rule ∈ rules) :
    rules.find? (·.name == rule.name) = some rule := by
  induction rules with
  | nil => cases h
  | cons first rest ih =>
    rw [List.map_cons, List.nodup_cons] at hnames
    rcases List.mem_cons.1 h with rfl | hrest
    · simp
    · have hname : first.name ≠ rule.name := by
        intro hsame
        exact hnames.1 (List.mem_map.2 ⟨rule, hrest, hsame.symm⟩)
      rw [List.find?_cons_of_neg (by simpa using hname), ih hnames.2 hrest]

/-- The members that are there are read, in the order of the fields, as the value. -/
theorem Reads.reader_given {record : Record α} (h : Reads record origin fields a)
    (hnames : (fields.map Prod.fst).Nodup) (name : String) :
    record.reader name origin (.record (given fields)) = .ok a := by
  have hrules : (record.rules.map (·.name)).Nodup := h.names ▸ hnames
  rw [reader_record (nodup_given hnames)]
  · exact h.builds _ fun field hmem => lookup_given hnames hmem
  · intro member hmember
    obtain ⟨rule, hrule, hname, hcheck⟩ := h.checks member.1 member.2 (mem_given_iff.1 hmember)
    exact ⟨rule, hname ▸ find?_rule hrules hrule, hcheck⟩

end Reads

/-- A record made otherwise of the same fields is read as the other record is. -/
theorem reader_map (f : α → β) (name : String) (record : Record α) (origin : Origin)
    (node : Node) : (f <$> record).reader name origin node
      = (record.reader name origin node).map f := by
  have hbuild : ∀ fields : Except Problem (List (String × Node)),
      (fields >>= fun found => (f <$> record).build origin fun field => found.lookup field)
        = (fields >>= fun found => record.build origin fun field => found.lookup field).map f := by
    intro fields
    cases fields <;> rfl
  cases node with
  | object members => exact hbuild _
  | array items => exact hbuild _
  | _ => rfl

end Record

end DepositGate.Json
