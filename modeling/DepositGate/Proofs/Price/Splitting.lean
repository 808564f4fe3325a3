import DepositGate.Proofs.Caps
import DepositGate.Proofs.Gateway.BlockHistory
import Mathlib.Data.Nat.ModEq

/-!
# The value of a deposit in parts

A dollar value is a product of two amounts, divided and rounded down, and cut at the largest value.
None of the three steps turns an order around, so more native currency is never worth less, nor is
the same at a higher price.

Rounding down loses less than one unit of the last place each time. The parts of a deposit are
rounded one by one and the whole but once, so together they are worth at most what the whole is, and
less by fewer units than there are parts. A deposit that is sent in parts can lower what the block
budget is charged for its gas by no more than that.
-/

namespace DepositGate

theorem Amount.saturate_mono {m n : Nat} (h : m ≤ n) : Amount.saturate m ≤ Amount.saturate n := by
  rw [Amount.le_iff, Amount.val_saturate, Amount.val_saturate]
  omega

variable {amount price total : Amount} {nativeDecimals : UInt8} {usd : Usd}

theorem usdValue_mono (hdecimals : nativeDecimals.toNat ≤ 154) {amount' price' : Amount}
    (hamount : amount ≤ amount') (hprice : price ≤ price') :
    ∃ usd usd', usdValue amount price nativeDecimals = .ok usd
      ∧ usdValue amount' price' nativeDecimals = .ok usd' ∧ usd ≤ usd' := by
  refine ⟨_, _, usdValue_eq amount price hdecimals, usdValue_eq amount' price' hdecimals, ?_⟩
  exact Amount.saturate_mono (Nat.div_le_div_right (Nat.mul_le_mul hamount hprice))

/-- At one time an oracle that converts an amount converts any lesser one to no more. -/
theorem Oracle.quoteAsUsd_mono {oracle : Oracle} {now : UInt64} {amount' : Amount} {usd' : Usd}
    (hdecimals : oracle.nativeDecimals.toNat ≤ 154) (hamount : amount ≤ amount')
    (h : oracle.quoteAsUsd amount' now = .ok usd') :
    ∃ usd, oracle.quoteAsUsd amount now = .ok usd ∧ usd ≤ usd' := by
  obtain ⟨quote, hquote, hvalue'⟩ := bind_eq_ok_iff.1 h
  obtain ⟨usd, whole, hvalue, hwhole, hle⟩ :=
    usdValue_mono hdecimals hamount (Nat.le_refl quote.price.val)
  cases hwhole.symm.trans (computing_eq_ok_iff.1 hvalue')
  exact ⟨usd, bind_eq_ok_iff.2 ⟨quote, hquote, computing_eq_ok_iff.2 hvalue⟩, hle⟩

/-- A value that is not cut is the product rounded down. -/
theorem val_of_usdValue (hdecimals : nativeDecimals.toNat ≤ 154)
    (hfits : amount.val * price.val < 2 ^ 256 * 10 ^ nativeDecimals.toNat)
    (h : usdValue amount price nativeDecimals = .ok usd) :
    usd.raw.val = amount.val * price.val / 10 ^ nativeDecimals.toNat := by
  have hfloor : amount.val * price.val / 10 ^ nativeDecimals.toNat < 2 ^ 256 :=
    (Nat.div_lt_iff_lt_mul (Nat.pow_pos (by decide))).2 hfits
  rw [usdValue_eq amount price hdecimals] at h
  cases h
  rw [Amount.val_saturate]
  omega

/-! ### Sums of quotients -/

theorem sum_div_le (rate unit : Nat) (parts : List Nat) :
    (parts.map fun part => part * rate / unit).sum ≤ parts.sum * rate / unit := by
  induction parts with
  | nil => exact Nat.zero_le _
  | cons part rest ih =>
    rw [List.map_cons, List.sum_cons, List.sum_cons, Nat.add_mul]
    exact (Nat.add_le_add_left ih _).trans Nat.div_add_div_le_add_div

/-- One part alone loses nothing, and each further part loses at most one. -/
theorem div_sum_le (rate unit : Nat) (parts : List Nat) :
    parts.sum * rate / unit
      ≤ (parts.map fun part => part * rate / unit).sum + (parts.length - 1) := by
  induction parts with
  | nil => simp
  | cons part rest ih =>
    rw [List.map_cons, List.sum_cons, List.sum_cons, List.length_cons, Nat.add_sub_cancel,
      Nat.add_mul]
    cases rest with
    | nil => simp
    | cons next rest =>
      have hloss :=
        Nat.add_div_le_div_add_div_add_one (part * rate) ((next :: rest).sum * rate) unit
      rw [List.length_cons] at ih ⊢
      omega

/-! ### Deposits in parts -/

/-- What an amount is worth in units of the last place of dollars. -/
def Worth (price : Amount) (nativeDecimals : UInt8) (amount : Amount) (units : Nat) : Prop :=
  ∃ usd, usdValue amount price nativeDecimals = .ok usd ∧ usd.raw.val = units

theorem Worth.eq {units : Nat} (h : Worth price nativeDecimals amount units)
    (hdecimals : nativeDecimals.toNat ≤ 154)
    (hfits : amount.val * price.val < 2 ^ 256 * 10 ^ nativeDecimals.toNat) :
    units = amount.val * price.val / 10 ^ nativeDecimals.toNat := by
  obtain ⟨usd, husd, rfl⟩ := h
  exact val_of_usdValue hdecimals hfits husd

theorem Worth.parts_bound {parts : List (Amount × Nat)} {units : Nat}
    (hwhole : Worth price nativeDecimals total units)
    (hparts : ∀ part ∈ parts, Worth price nativeDecimals part.1 part.2)
    (hdecimals : nativeDecimals.toNat ≤ 154)
    (hsum : (parts.map fun part => part.1.val).sum = total.val)
    (hfits : total.val * price.val < 2 ^ 256 * 10 ^ nativeDecimals.toNat) :
    (parts.map Prod.snd).sum ≤ units
      ∧ units ≤ (parts.map Prod.snd).sum + (parts.length - 1) := by
  have hunits : parts.map Prod.snd
      = (parts.map fun part => part.1.val).map fun part =>
        part * price.val / 10 ^ nativeDecimals.toNat := by
    rw [List.map_map]
    apply List.map_congr_left
    intro part hpart
    have hle : part.1.val ≤ total.val :=
      hsum ▸ List.le_sum_of_mem (List.mem_map_of_mem hpart)
    exact (hparts part hpart).eq hdecimals
      (Nat.lt_of_le_of_lt (Nat.mul_le_mul_right _ hle) hfits)
  have hlength : (parts.map fun part => part.1.val).length = parts.length := List.length_map _
  rw [hwhole.eq hdecimals hfits, hunits, ← hsum, ← hlength]
  exact ⟨sum_div_le .., div_sum_le ..⟩

namespace Gateway

variable {gateway : Gateway} {gas : Amount} {receipt : Receipt} {quote : Quote}

/-- Some turn at this price admits a deposit that leaves this native value for gas, and charges the
block budget these units for it. -/
inductive ChargesGas (price : Amount) (nativeDecimals : UInt8) : Amount → Nat → Prop where
  | admitted {turn : Turn} {receipt : Receipt} {charge : Charge} {quote : Quote}
      (hquote : turn.gateway.quote = .ok quote) (hprice : quote.price = price)
      (hdecimals : turn.gateway.policy.nativeDecimals = nativeDecimals)
      (hadmitted : turn.receipt? = some receipt) (hcharge : turn.blockCharge? = some charge) :
      ChargesGas price nativeDecimals receipt.plan.gas charge.amount

theorem check_of_receipt? {call : Call} (h : Turn.receipt? ⟨gateway, call⟩ = some receipt) :
    ∃ request value, gateway.check request value = .ok receipt.plan := by
  have hsome : Turn.receipt? ⟨gateway, call⟩ ≠ none := h ▸ Option.some_ne_none receipt
  cases gateway.perform_effect call with
  | deposit staged vault hassess _ hresult =>
    cases h.symm.trans (Turn.receipt?_eq_some hresult)
    exact ⟨_, _, (assess_eq_ok_iff.1 hassess).1⟩
  | quiet _ _ hresult => exact (hsome (Turn.receipt?_eq_none hresult)).elim
  | release _ _ _ _ _ _ _ _ hresult => exact (hsome (Turn.receipt?_of_done hresult)).elim
  | govern _ _ _ hresult => exact (hsome (Turn.receipt?_of_done hresult)).elim

theorem amount_of_blockCharge? {turn : Turn} {charge : Charge}
    (hadmitted : turn.receipt? = some receipt) (hcharge : turn.blockCharge? = some charge) :
    charge.amount = receipt.plan.gasUsd.raw.val := by
  rw [Turn.blockCharge?, hadmitted] at hcharge
  obtain ⟨-, hcharge⟩ := Option.ite_none_right_eq_some.1 hcharge
  cases hcharge
  rfl

theorem usdValue_of_price (hquote : gateway.quote = .ok quote)
    (hdecimals : gateway.policy.nativeDecimals.toNat ≤ 154) (h : gateway.price gas = .ok usd) :
    usdValue gas quote.price gateway.policy.nativeDecimals = .ok usd := by
  rw [price] at h
  split at h
  · rename_i hnone
    cases h
    have hgas := Amount.isZero_iff.1 hnone
    rw [usdValue_eq gas quote.price hdecimals, hgas, Nat.zero_mul, Nat.zero_div]
    rfl
  · obtain ⟨quoted, hquoted, hcheck⟩ := bind_eq_ok_iff.1 h
    rw [hquote] at hquoted
    cases hquoted
    obtain ⟨rfl, -⟩ := (CapPolicy.check_eq_ok_iff hdecimals).1 hcheck
    exact usdValue_eq gas quote.price hdecimals

/-- The block budget is charged the dollar value of the gas at the price quoted. -/
theorem ChargesGas.worth {units : Nat} (h : ChargesGas price nativeDecimals gas units)
    (hdecimals : nativeDecimals.toNat ≤ 154) : Worth price nativeDecimals gas units := by
  obtain ⟨hquote, rfl, rfl, hadmitted, hcharge⟩ := h
  obtain ⟨request, value, hcheck⟩ := check_of_receipt? hadmitted
  obtain ⟨legs, -, hrest⟩ := bind_eq_ok_iff.1 hcheck
  obtain ⟨gasUsd, hgasUsd, hplan⟩ := bind_eq_ok_iff.1 hrest
  rw [amount_of_blockCharge? hadmitted hcharge, ← Except.ok.inj hplan]
  exact ⟨gasUsd, usdValue_of_price hquote hdecimals hgasUsd, rfl⟩

end Gateway

/-- With at most 154 decimal places a dollar value never falls when the amount or the price rises,
and neither does what an oracle converts a rising amount to. The values of the parts of an amount,
whose own value is not cut, sum up to at most the value of the amount, and to less by no more units
than there are parts after the first. So it is for what admitted deposits charge to the block
budget: one deposit in place of several charges at least as much as they do together, and no more
than a unit more for each of them but one. -/
theorem usd_values_of_parts (nativeDecimals : UInt8) (hdecimals : nativeDecimals.toNat ≤ 154) :
    (∀ amount amount' price price', amount ≤ amount' → price ≤ price' →
      ∃ usd usd', usdValue amount price nativeDecimals = .ok usd
        ∧ usdValue amount' price' nativeDecimals = .ok usd' ∧ usd ≤ usd')
      ∧ (∀ (oracle : Oracle) (now : UInt64) (amount amount' : Amount) (usd' : Usd),
        oracle.nativeDecimals = nativeDecimals → amount ≤ amount' →
        oracle.quoteAsUsd amount' now = .ok usd' →
        ∃ usd, oracle.quoteAsUsd amount now = .ok usd ∧ usd ≤ usd')
      ∧ (∀ (price : Amount) (pieces : List Amount) (total : Amount),
        (pieces.map Amount.val).sum = total.val →
        total.val * price.val < 2 ^ 256 * 10 ^ nativeDecimals.toNat →
        ∃ (values : List Usd) (whole : Usd),
          pieces.mapM (fun piece => usdValue piece price nativeDecimals) = .ok values
            ∧ usdValue total price nativeDecimals = .ok whole
            ∧ (values.map fun usd => usd.raw.val).sum ≤ whole.raw.val
            ∧ whole.raw.val ≤ (values.map fun usd => usd.raw.val).sum + (pieces.length - 1))
      ∧ ∀ (price : Amount) (parts : List (Amount × Nat)) (total : Amount) (charged : Nat),
        (∀ part ∈ parts, Gateway.ChargesGas price nativeDecimals part.1 part.2) →
        Gateway.ChargesGas price nativeDecimals total charged →
        (parts.map fun part => part.1.val).sum = total.val →
        total.val * price.val < 2 ^ 256 * 10 ^ nativeDecimals.toNat →
        (parts.map Prod.snd).sum ≤ charged
          ∧ charged ≤ (parts.map Prod.snd).sum + (parts.length - 1) := by
  refine ⟨fun _ _ _ _ => usdValue_mono hdecimals, ?_, ?_, ?_⟩
  · rintro oracle now amount amount' usd' rfl hamount hquoted
    exact Oracle.quoteAsUsd_mono hdecimals hamount hquoted
  · intro price pieces total hsum hfits
    have hwhole := usdValue_eq total price hdecimals
    obtain ⟨value, hvalue⟩ : ∃ value : Amount → Usd,
        ∀ piece, usdValue piece price nativeDecimals = .ok (value piece) :=
      ⟨_, fun piece => usdValue_eq piece price hdecimals⟩
    have hvalues : pieces.mapM (fun piece => usdValue piece price nativeDecimals)
        = .ok (pieces.map value) := by
      rw [funext hvalue]
      exact List.mapM_pure
    have hparts : ∀ part ∈ pieces.map fun piece => (piece, (value piece).raw.val),
        Worth price nativeDecimals part.1 part.2 :=
      List.forall_mem_map.2 fun piece _ => ⟨value piece, hvalue piece, rfl⟩
    have hpieces : ((pieces.map fun piece => (piece, (value piece).raw.val)).map
        fun part => part.1.val).sum = total.val := by
      rw [List.map_map]
      exact hsum
    have hbound := Worth.parts_bound ⟨_, hwhole, rfl⟩ hparts hdecimals hpieces hfits
    rw [List.map_map, List.length_map] at hbound
    refine ⟨_, _, hvalues, hwhole, ?_⟩
    rw [List.map_map]
    exact hbound
  · intro price parts total charged hparts hwhole hsum hfits
    exact (hwhole.worth hdecimals).parts_bound
      (fun part hpart => (hparts part hpart).worth hdecimals) hdecimals hsum hfits

/-- The sample gateway at a price of a little more than 2000 dollars. -/
def sampleOfParts : Gateway :=
  Gateway.sample.after [.change (.feed (.answer (.ofInt64 200000000001) 5000))]

/-- A deposit of gas alone on `sampleOfParts`. -/
def sampleGasTurn (gas : Amount) : Turn :=
  ⟨sampleOfParts, .send "" Gateway.sampleAccount (Gateway.sampleRequest .native 0 []) gas⟩

theorem sampleGasTurn_chargesGas (gas usd : Amount) (hgas : gas.isZero = false)
    (hreceipt : (sampleGasTurn gas).receipt? = some ⟨"", ⟨.gas, gas, ⟨usd⟩, none⟩, 7, none⟩) :
    Gateway.ChargesGas ⟨200000000001 * 10 ^ 10, by decide⟩ 18 gas usd.val := by
  have hquote : sampleOfParts.quote
      = .ok ⟨⟨200000000001 * 10 ^ 10, by decide⟩, 8, 5000, 2⟩ := rfl
  have hturn : (sampleGasTurn gas).gateway.quote = sampleOfParts.quote := rfl
  have hcharge : (sampleGasTurn gas).blockCharge?
      = some ⟨7, usd.val, (Usd.ofDollars 10).raw.val⟩ := by
    rw [Turn.blockCharge?, hreceipt]
    exact if_pos ⟨congrArg not hgas, rfl⟩
  exact .admitted (hturn.trans hquote) rfl rfl hreceipt hcharge

/-- Half the gas is worth half a unit more than a whole number of them, which is lost twice if the
gas is sent in two deposits. -/
theorem sample_values_of_parts :
    let price : Amount := ⟨200000000001 * 10 ^ 10, by decide⟩
    let part : Amount := .ofUInt64 1000000050000000
    let total : Amount := .ofUInt64 2000000100000000
    (18 : UInt8).toNat ≤ 154
      ∧ (∃ values whole, [part, part].mapM (fun piece => usdValue piece price 18) = .ok values
        ∧ usdValue total price 18 = .ok whole
        ∧ whole.raw.val ≤ (values.map fun usd => usd.raw.val).sum + 1)
      ∧ ∃ charge charged, Gateway.ChargesGas price 18 part charge
        ∧ Gateway.ChargesGas price 18 total charged
        ∧ charge + charge < charged ∧ charged ≤ charge + charge + 1 := by
  intro price part total
  have hpart : Gateway.ChargesGas price 18 part 2000000100010000000 :=
    sampleGasTurn_chargesGas part (.ofUInt64 2000000100010000000) (by decide +kernel)
      (by decide +kernel)
  have htotal : Gateway.ChargesGas price 18 total 4000000200020000001 :=
    sampleGasTurn_chargesGas total (.ofUInt64 4000000200020000001) (by decide +kernel)
      (by decide +kernel)
  obtain ⟨-, -, hpieces, hcharges⟩ := usd_values_of_parts 18 (by decide)
  obtain ⟨values, whole, hvalues, hwhole, -, hbound⟩ :=
    hpieces price [part, part] total (by decide) (by decide)
  have hparts : ∀ one ∈ [(part, 2000000100010000000), (part, 2000000100010000000)],
      Gateway.ChargesGas price 18 one.1 one.2 := by
    intro one hone
    rw [List.mem_pair, or_self] at hone
    rw [hone]
    exact hpart
  exact ⟨by decide, ⟨values, whole, hvalues, hwhole, hbound⟩, _, _, hpart, htotal, by decide,
    (hcharges price _ total _ hparts htotal (by decide) (by decide)).2⟩

end DepositGate
