import DepositGate.Proofs.Gateway.Effect
import DepositGate.Proofs.Gateway.Run
import DepositGate.Proofs.Vault.Batch

/-!
# All of a batch or nothing

Whether a vault takes a batch can be told without going through its legs in order: the vault must
not be failing, must refuse none of the assets, must not pass its limit with the last leg, and must
have room for what the legs of each asset add up to. An empty batch is taken in any case. So the
order of the legs decides neither whether they are taken nor what they leave.

A batch is answered as its legs are when they are deposited one at a time. The two differ in what a
refusal leaves behind: of a batch nothing, while single legs stay where they were taken.
-/

namespace DepositGate

namespace Vault

variable {vault next : Vault} {asset : Asset} {sender : Address} {index : Nat}
  {legs rest : List (Asset × Amount)} {staged : SortedMap Asset Amount}

/-! ### Legs deposited one at a time -/

/-- Deposits the legs one at a time, up to the first that is refused. -/
def depositEach (vault : Vault) (legs : List (Asset × Amount)) (sender : Address) :
    Except Refusal Vault :=
  legs.foldlM (fun vault leg => vault.deposit leg.1 leg.2 sender) vault

/-- The vault in which the totals staged for the first legs of a batch are in force. -/
def withStaged (vault : Vault) (staged : SortedMap Asset Amount) (index : Nat) : Vault :=
  { vault with
    custody := vault.custody.override staged
    deposits := vault.deposits + UInt64.ofNat index }

theorem withStaged_empty (vault : Vault) : vault.withStaged .empty 0 = vault := by
  have hdeposits : vault.deposits + UInt64.ofNat 0 = vault.deposits := UInt64.add_zero _
  rw [withStaged, hdeposits]
  rfl

theorem custodyOf_withStaged (vault : Vault) (staged : SortedMap Asset Amount) (index : Nat)
    (asset : Asset) :
    (vault.withStaged staged index).custodyOf asset = vault.heldWith staged asset :=
  custodyOf_override vault staged asset

theorem refusesLeg_withStaged (vault : Vault) (staged : SortedMap Asset Amount) (index : Nat)
    (asset : Asset) :
    (vault.withStaged staged index).refusesLeg asset 0 = vault.refusesLeg asset index := by
  have hdeposits : vault.deposits + UInt64.ofNat index + UInt64.ofNat 0
      = vault.deposits + UInt64.ofNat index := UInt64.add_zero _
  rw [refusesLeg, refusesLeg, withStaged, hdeposits]

theorem withStaged_withStaged (vault : Vault) (staged : SortedMap Asset Amount) (index : Nat)
    (asset : Asset) (amount : Amount) :
    (vault.withStaged staged index).withStaged (SortedMap.empty.insert asset amount) 1
      = vault.withStaged (staged.insert asset amount) (index + 1) := by
  have hcustody : (vault.custody.override staged).override (SortedMap.empty.insert asset amount)
      = vault.custody.override (staged.insert asset amount) := by
    apply SortedMap.ext_find?
    intro sought
    simp only [SortedMap.find?_override, SortedMap.find?_insert, SortedMap.find?_empty]
    split <;> rfl
  have hdeposits : vault.deposits + UInt64.ofNat index + UInt64.ofNat 1
      = vault.deposits + UInt64.ofNat (index + 1) := by
    rw [UInt64.add_assoc, UInt64.ofNat_add]
  rw [withStaged, withStaged, withStaged, hcustody, hdeposits]

theorem stageLegs_cons (vault : Vault) (sender : Address) (index : Nat)
    (staged : SortedMap Asset Amount) (leg : Asset × Amount) (rest : List (Asset × Amount)) :
    vault.stageLegs sender index staged (leg :: rest)
      = vault.stageLegs sender index staged [leg] >>= fun next =>
        vault.stageLegs sender (index + 1) next rest := by
  obtain ⟨asset, amount⟩ := leg
  rw [stageLegs, stageLegs]
  split
  · rfl
  · dsimp only
    split <;> rfl

/-- A leg that is deposited after others is judged as it is in one batch with them. -/
theorem deposit_withStaged (vault : Vault) (sender : Address) (index : Nat)
    (staged : SortedMap Asset Amount) (leg : Asset × Amount) :
    (vault.withStaged staged index).deposit leg.1 leg.2 sender
      = vault.stageLegs sender index staged [leg] >>= fun next =>
        .ok (vault.withStaged next (index + 1)) := by
  obtain ⟨asset, amount⟩ := leg
  rw [deposit, depositBatch, stageLegs, stageLegs, refusesLeg_withStaged, SortedMap.find?_empty,
    Option.getD_none, custodyOf_withStaged, heldWith]
  split
  · rfl
  · dsimp only
    split
    · rfl
    · exact congrArg Except.ok (withStaged_withStaged vault staged index asset _)

theorem depositEach_withStaged (vault : Vault) (sender : Address) (index : Nat)
    (staged : SortedMap Asset Amount) (legs : List (Asset × Amount)) :
    (vault.withStaged staged index).depositEach legs sender
      = vault.stageLegs sender index staged legs >>= fun total =>
        .ok (vault.withStaged total (index + legs.length)) := by
  induction legs generalizing index staged with
  | nil => rfl
  | cons leg rest ih =>
    rw [depositEach, List.foldlM_cons, deposit_withStaged,
      stageLegs_cons vault sender index staged leg rest, bind_assoc, bind_assoc]
    apply congrArg (vault.stageLegs sender index staged [leg] >>= ·)
    funext next
    have hrest := ih (index + 1) next
    rw [Nat.add_assoc, Nat.add_comm 1] at hrest
    exact hrest

/-- A batch is answered as its legs are when they are deposited one at a time. -/
theorem depositEach_eq (vault : Vault) (legs : List (Asset × Amount)) (sender : Address) :
    vault.depositEach legs sender = vault.depositBatch legs sender := by
  have heach := vault.depositEach_withStaged sender 0 .empty legs
  rw [withStaged_empty, Nat.zero_add] at heach
  exact heach

/-! ### Which batches a vault takes -/

/-- While the count of legs does not run over, a leg is refused for one of three reasons. -/
theorem refusesLeg_eq_false_iff (hcount : vault.deposits.toNat + index < 2 ^ 64) :
    vault.refusesLeg asset index = false
      ↔ vault.failing = false ∧ vault.refused.contains asset = false
        ∧ ∀ limit, vault.limit = some limit → vault.deposits.toNat + index < limit.toNat := by
  have hindex : (UInt64.ofNat index).toNat = index :=
    UInt64.toNat_ofNat_of_lt' (Nat.lt_of_le_of_lt (Nat.le_add_left ..) hcount)
  have htaken : (vault.deposits + UInt64.ofNat index).toNat = vault.deposits.toNat + index := by
    rw [UInt64.toNat_add, hindex, Nat.mod_eq_of_lt hcount]
  rw [refusesLeg, Bool.or_eq_false_iff, Bool.or_eq_false_iff, and_assoc]
  refine and_congr_right fun _ => ?_
  rw [and_comm]
  refine and_congr_right fun _ => ?_
  cases vault.limit with
  | none => simp
  | some limit => simp [UInt64.lt_iff_toNat_lt, htaken]

/-- A batch is staged exactly if no leg is refused at its place and the totals fit. -/
theorem stageLegs_eq_ok_iff :
    (∃ total, vault.stageLegs sender index staged legs = .ok total)
      ↔ (∀ leg ∈ legs.zipIdx index, vault.refusesLeg leg.1.1 leg.2 = false)
        ∧ ∀ asset, (vault.heldWith staged asset).val + moved legs asset < 2 ^ 256 := by
  induction legs generalizing index staged with
  | nil =>
    have hfits : ∀ asset, (vault.heldWith staged asset).val < 2 ^ 256 := fun _ => Amount.val_lt _
    simpa [stageLegs] using hfits
  | cons leg rest ih =>
    obtain ⟨deposited, amount⟩ := leg
    rw [List.zipIdx_cons, List.forall_mem_cons, fits_cons_iff]
    simp only [stageLegs_cons_eq_ok_iff]
    constructor
    · rintro ⟨total, hfirst, sum, hsum, hrest⟩
      obtain ⟨hlater, hfits⟩ := ih.1 ⟨total, hrest⟩
      exact ⟨⟨hfirst, hlater⟩, sum, hsum, hfits⟩
    · rintro ⟨⟨hfirst, hlater⟩, sum, hsum, hfits⟩
      obtain ⟨total, hrest⟩ := ih.2 ⟨hlater, hfits⟩
      exact ⟨total, hfirst, sum, hsum, hrest⟩

/-- Nothing stands against a batch: the vault does not fail, refuses no asset of it, does not pass
its limit, and has room. -/
structure Open (vault : Vault) (legs : List (Asset × Amount)) : Prop where
  running : vault.failing = false
  wanted : ∀ leg ∈ legs, vault.refused.contains leg.1 = false
  within : ∀ limit, vault.limit = some limit → vault.deposits.toNat + legs.length ≤ limit.toNat
  room : vault.HasRoom legs

theorem Open.perm (h : vault.Open legs) (hperm : legs.Perm rest) : vault.Open rest where
  running := h.running
  wanted leg hleg := h.wanted leg (hperm.mem_iff.2 hleg)
  within := hperm.length_eq ▸ h.within
  room := h.room.perm hperm

/-- Of the legs of a batch the last is the one closest to the limit. -/
theorem refusesNone_iff (hsome : legs ≠ [])
    (hcount : vault.deposits.toNat + legs.length < 2 ^ 64) :
    (∀ leg ∈ legs.zipIdx, vault.refusesLeg leg.1.1 leg.2 = false)
      ↔ vault.failing = false ∧ (∀ leg ∈ legs, vault.refused.contains leg.1 = false)
        ∧ ∀ limit, vault.limit = some limit →
          vault.deposits.toNat + legs.length ≤ limit.toNat := by
  have hnone : ∀ i (hi : i < legs.length), vault.refusesLeg legs[i].1 i = false
      ↔ vault.failing = false ∧ vault.refused.contains legs[i].1 = false
        ∧ ∀ limit, vault.limit = some limit → vault.deposits.toNat + i < limit.toNat :=
    fun i hi => refusesLeg_eq_false_iff (by omega)
  constructor
  · intro h
    have heach : ∀ i (hi : i < legs.length), vault.refusesLeg legs[i].1 i = false := by
      intro i hi
      exact h (legs[i], i) (List.mk_mem_zipIdx_iff_getElem?.2 (List.getElem?_eq_getElem hi))
    have hlast : legs.length - 1 < legs.length :=
      Nat.sub_one_lt (mt List.eq_nil_of_length_eq_zero hsome)
    obtain ⟨hrunning, -, hlimit⟩ := (hnone _ hlast).1 (heach _ hlast)
    refine ⟨hrunning, ?_, ?_⟩
    · intro leg hleg
      obtain ⟨i, hi, rfl⟩ := List.getElem_of_mem hleg
      exact ((hnone i hi).1 (heach i hi)).2.1
    · intro limit hsome
      have := hlimit limit hsome
      omega
  · intro ⟨hrunning, hwanted, hlimit⟩ ⟨leg, i⟩ hleg
    obtain ⟨hi, rfl⟩ := List.getElem?_eq_some_iff.1 (List.mk_mem_zipIdx_iff_getElem?.1 hleg)
    refine (hnone i hi).2 ⟨hrunning, hwanted _ (List.getElem_mem hi), ?_⟩
    intro limit hsome
    have := hlimit limit hsome
    omega

theorem takes_iff (hcount : vault.deposits.toNat + legs.length < 2 ^ 64) :
    (∃ next, vault.depositBatch legs sender = .ok next) ↔ legs = [] ∨ vault.Open legs := by
  have hstage : (∃ next, vault.depositBatch legs sender = .ok next)
      ↔ ∃ total, vault.stageLegs sender 0 .empty legs = .ok total := by
    constructor
    · intro ⟨next, hnext⟩
      obtain ⟨total, htotal, -⟩ := bind_eq_ok_iff.1 hnext
      exact ⟨total, htotal⟩
    · intro ⟨total, htotal⟩
      exact ⟨_, bind_eq_ok_iff.2 ⟨total, htotal, rfl⟩⟩
  rw [hstage]
  by_cases hsome : legs = []
  · subst hsome
    exact ⟨fun _ => .inl rfl, fun _ => ⟨_, rfl⟩⟩
  · rw [stageLegs_eq_ok_iff, refusesNone_iff hsome hcount]
    constructor
    · intro ⟨⟨hrunning, hwanted, hlimit⟩, hroom⟩
      exact .inr ⟨hrunning, hwanted, hlimit, hroom⟩
    · intro h
      have hopen := h.resolve_left hsome
      exact ⟨⟨hopen.running, hopen.wanted, hopen.within⟩, hopen.room⟩

/-! ### The order of the legs -/

/-- The vault that a batch leaves behind, which is the old one if the batch is refused. -/
def afterBatch (vault : Vault) (legs : List (Asset × Amount)) (sender : Address) : Vault :=
  match vault.depositBatch legs sender with
  | .ok next => next
  | .error _ => vault

theorem depositBatch_perm (hcount : vault.deposits.toNat + legs.length < 2 ^ 64)
    (hperm : legs.Perm rest) (h : vault.depositBatch legs sender = .ok next) :
    vault.depositBatch rest sender = .ok next := by
  have hlength : legs.length = rest.length := hperm.length_eq
  obtain ⟨other, hother⟩ : ∃ other, vault.depositBatch rest sender = .ok other := by
    refine (takes_iff (hlength ▸ hcount)).2 ?_
    rcases (takes_iff hcount).1 ⟨next, h⟩ with rfl | hopen
    · exact .inl hperm.nil_eq.symm
    · exact .inr (hopen.perm hperm)
  have hheld : ∀ asset, next.custodyOf asset = other.custodyOf asset := by
    intro asset
    apply Amount.ext
    rw [custodyOf_depositBatch h, custodyOf_depositBatch hother, moved_perm hperm]
  have hentry : ∀ asset, next.custody.contains asset = other.custody.contains asset := by
    intro asset
    rw [contains_custody_of_depositBatch h, contains_custody_of_depositBatch hother,
      hperm.any_eq]
  rw [hother, of_depositBatch h, of_depositBatch hother, custody_ext hheld hentry, hlength]

theorem afterBatch_eq_of_ok (h : vault.depositBatch legs sender = .ok next) :
    vault.afterBatch legs sender = next := by
  rw [afterBatch, h]

theorem afterBatch_perm (hcount : vault.deposits.toNat + legs.length < 2 ^ 64)
    (hperm : legs.Perm rest) :
    vault.afterBatch rest sender = vault.afterBatch legs sender := by
  have hcount' : vault.deposits.toNat + rest.length < 2 ^ 64 := hperm.length_eq ▸ hcount
  cases hrest : vault.depositBatch rest sender with
  | ok next =>
    have hlegs := depositBatch_perm hcount' hperm.symm hrest
    rw [afterBatch_eq_of_ok hrest, afterBatch_eq_of_ok hlegs]
  | error why =>
    cases hlegs : vault.depositBatch legs sender with
    | ok next =>
      have hok := depositBatch_perm hcount hperm hlegs
      rw [hrest] at hok
      cases hok
    | error _ => rw [afterBatch, afterBatch, hrest, hlegs]

/-- The vault of a gateway after a deposit that every rule but the vault's admits. -/
theorem vault_send {gateway : Gateway} {request : Request} {value : Amount}
    {staged : Gateway.Staged} (id : String) (h : gateway.assess request value = .ok staged) :
    (gateway.send id sender request value).gateway.vault
      = gateway.vault.afterBatch staged.plan.deposits sender := by
  cases hvault : gateway.vault.depositBatch staged.plan.deposits sender with
  | ok vault =>
    rw [(Gateway.send_of_taken id h hvault).2.1, afterBatch_eq_of_ok hvault]
    rfl
  | error why =>
    rw [(Gateway.send_of_vault_error id h hvault).2.1, afterBatch, hvault]

/-- What a batch leaves filed under assets that none of its legs moves. -/
theorem find?_custody_of_depositBatch (h : vault.depositBatch legs sender = .ok next)
    (hnone : ∀ leg ∈ legs, leg.1 ≠ asset) :
    next.custody.find? asset = vault.custody.find? asset := by
  have hmoved : moved legs asset = 0 := by
    rw [moved, List.sum_eq_zero_iff_forall_eq_nat]
    intro n hn
    obtain ⟨leg, hleg, rfl⟩ := List.mem_map.1 hn
    exact if_neg (hnone leg hleg)
  have hheld : next.custodyOf asset = vault.custodyOf asset := by
    apply Amount.ext
    rw [custodyOf_depositBatch h, hmoved, Nat.add_zero]
  have hentry : next.custody.contains asset = vault.custody.contains asset := by
    rw [contains_custody_of_depositBatch h, List.any_eq_false.2 (by simpa using hnone),
      Bool.or_false]
  rw [find?_custody, find?_custody, hheld, hentry]

/-- A batch is taken whole or not at all. It is taken exactly if it is empty or nothing stands
against it, and is answered as its legs are one at a time. What is taken raises the custody of each
asset by the sum of its legs and the count by their number; what is refused leaves the vault as it
was, and a gateway keeps that vault. In another order the legs are answered alike and leave the same
vault. -/
theorem batch_taken_whole_or_not_at_all (vault : Vault) (legs : List (Asset × Amount))
    (sender : Address) (hcount : vault.deposits.toNat + legs.length < 2 ^ 64) :
    ((∃ next, vault.depositBatch legs sender = .ok next) ↔ legs = [] ∨ vault.Open legs)
      ∧ vault.depositEach legs sender = vault.depositBatch legs sender
      ∧ (∀ next, vault.depositBatch legs sender = .ok next →
        vault.afterBatch legs sender = next
          ∧ (∀ asset, (next.custodyOf asset).val = (vault.custodyOf asset).val + moved legs asset)
          ∧ next.deposits.toNat = vault.deposits.toNat + legs.length
          ∧ next = { vault with custody := next.custody, deposits := next.deposits }
          ∧ ∀ asset, (∀ leg ∈ legs, leg.1 ≠ asset) →
            next.custody.find? asset = vault.custody.find? asset)
      ∧ (∀ why, vault.depositBatch legs sender = .error why →
        vault.afterBatch legs sender = vault)
      ∧ (∀ rest, legs.Perm rest →
        ((∃ next, vault.depositBatch rest sender = .ok next)
            ↔ ∃ next, vault.depositBatch legs sender = .ok next)
          ∧ vault.afterBatch rest sender = vault.afterBatch legs sender)
      ∧ ∀ gateway id request value staged, gateway.vault = vault →
        Gateway.assess gateway request value = .ok staged → staged.plan.deposits = legs →
        (gateway.send id sender request value).gateway.vault = vault.afterBatch legs sender := by
  refine ⟨takes_iff hcount, vault.depositEach_eq legs sender, ?_, ?_, ?_, ?_⟩
  · intro next h
    refine ⟨afterBatch_eq_of_ok h, custodyOf_depositBatch h, ?_, ?_,
      fun asset => find?_custody_of_depositBatch h⟩
    · have hlength : (UInt64.ofNat legs.length).toNat = legs.length :=
        UInt64.toNat_ofNat_of_lt' (Nat.lt_of_le_of_lt (Nat.le_add_left ..) hcount)
      rw [of_depositBatch h, UInt64.toNat_add, hlength, Nat.mod_eq_of_lt hcount]
    · rw [of_depositBatch h]
  · intro why h
    rw [afterBatch, h]
  · intro rest hperm
    refine ⟨⟨?_, ?_⟩, afterBatch_perm hcount hperm⟩
    · intro ⟨next, h⟩
      exact ⟨next, depositBatch_perm (hperm.length_eq ▸ hcount) hperm.symm h⟩
    · intro ⟨next, h⟩
      exact ⟨next, depositBatch_perm hcount hperm h⟩
  · intro gateway id request value staged hvault hassess hlegs
    rw [vault_send id hassess, hvault, hlegs]

/-- A vault that has taken two legs and takes three more. -/
def sampleVault : Vault := { empty with deposits := 2, limit := some 5 }

/-- Gas beside native funds, with a token between them. -/
def sampleBatch : List (Asset × Amount) :=
  [(.native, .ofUInt64 5), (Gateway.sampleToken, .ofUInt64 9), (.native, .ofUInt64 7)]

/-- The legs of one asset add up, in either order. A fourth leg passes the limit, and then none is
taken. -/
theorem sampleBatch_taken_whole :
    let more := (.native, .zero) :: sampleBatch
    sampleVault.deposits.toNat + sampleBatch.length < 2 ^ 64
      ∧ sampleVault.deposits.toNat + more.length < 2 ^ 64
      ∧ (∃ next, sampleVault.depositEach sampleBatch Gateway.sampleAccount = .ok next
        ∧ (next.custodyOf .native).val = 12 ∧ next.deposits.toNat = 5
        ∧ sampleVault.afterBatch sampleBatch.reverse Gateway.sampleAccount = next)
      ∧ sampleVault.afterBatch more Gateway.sampleAccount = sampleVault := by
  intro more
  have hcount : sampleVault.deposits.toNat + sampleBatch.length < 2 ^ 64 := by decide
  have hcount' : sampleVault.deposits.toNat + more.length < 2 ^ 64 := by decide
  obtain ⟨next, hnext⟩ : ∃ next,
    sampleVault.depositBatch sampleBatch Gateway.sampleAccount = .ok next := ⟨_, rfl⟩
  obtain ⟨why, hwhy⟩ : ∃ why,
    sampleVault.depositBatch more Gateway.sampleAccount = .error why := ⟨_, rfl⟩
  obtain ⟨-, heach, htaken, -, horder, -⟩ :=
    batch_taken_whole_or_not_at_all sampleVault sampleBatch Gateway.sampleAccount hcount
  obtain ⟨-, -, -, hrefused, -, -⟩ :=
    batch_taken_whole_or_not_at_all sampleVault more Gateway.sampleAccount hcount'
  obtain ⟨hafter, hcustody, hdeposits, -, -⟩ := htaken next hnext
  refine ⟨hcount, hcount', ⟨next, heach.trans hnext, ?_, ?_, ?_⟩, hrefused why hwhy⟩
  · rw [hcustody]
    decide
  · rw [hdeposits]
    decide
  · rw [(horder _ sampleBatch.reverse_perm.symm).2, hafter]

end Vault

end DepositGate
