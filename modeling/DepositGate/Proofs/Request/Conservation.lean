import DepositGate.Proofs.Gateway.Rules

/-!
# Where the value sent goes

A request and the native value sent with it determine the legs outright, if they fit together at
all: the kind is told by the request alone, the bridged funds are its own asset and amount, and the
gas is what is left of the value. Nothing of the value is lost or counted twice, and what is taken
off it was there.
-/

namespace DepositGate

namespace DepositKind

/-- Whether the deposit brings data to run. -/
def hasPayload : DepositKind → Bool
  | gas | funds => false
  | gasAndPayload | fundsAndPayload => true

end DepositKind

/-- What bridged funds take of the native value. -/
def Legs.bridgedNative (legs : Legs) : Nat :=
  match legs.funds with
  | some ⟨.native, amount⟩ => amount.val
  | _ => 0

namespace Request

variable {request : Request} {value : Amount} {kind : DepositKind} {legs : Legs}

/-- The kind of a request, if it has one. -/
def kindOf (request : Request) : DepositKind :=
  if request.amount.val = 0 then if request.payload = [] then .gas else .gasAndPayload
  else if request.payload = [] then .funds else .fundsAndPayload

/-- The value sent fits the request: something is asked for or paid, funds without a payload come
with their own native value and no other, and native funds with a payload are covered. -/
structure FitsValue (request : Request) (value : Amount) : Prop where
  notEmpty : value.val ≠ 0 ∨ request.amount.val ≠ 0 ∨ request.payload ≠ []
  exact : request.amount.val ≠ 0 → request.payload = [] →
    value.val = if request.asset = .native then request.amount.val else 0
  covered : request.amount.val ≠ 0 → request.payload ≠ [] → request.asset = .native →
    request.amount.val ≤ value.val

theorem shapeFlaw?_eq_none_iff : request.shapeFlaw? value = none ↔ request.FitsValue value := by
  rw [shapeFlaw?]
  by_cases hamount : request.amount.val = 0
  · rw [if_pos hamount, ite_eq_right_iff]
    constructor
    · intro hempty
      refine ⟨?_, fun hsome => absurd hamount hsome, fun hsome => absurd hamount hsome⟩
      by_contra hnone
      rw [not_or, not_or, not_not, not_not, not_not] at hnone
      cases hempty ⟨hnone.2.2, hnone.1⟩
    · rintro hfits ⟨hpayload, hvalue⟩
      rcases hfits.notEmpty with h | h | h
      · exact absurd hvalue h
      · exact absurd hamount h
      · exact absurd hpayload h
  · rw [if_neg hamount]
    have hiff : request.FitsValue value
        ↔ (request.payload = [] →
            value.val = if request.asset = .native then request.amount.val else 0)
          ∧ (request.payload ≠ [] → request.asset = .native →
            request.amount.val ≤ value.val) :=
      ⟨fun h => ⟨h.exact hamount, h.covered hamount⟩,
        fun h => ⟨.inr (.inl hamount), fun _ => h.1, fun _ => h.2⟩⟩
    rw [hiff]
    cases hasset : request.asset with
    | native =>
      cases hpayload : request.payload with
      | nil => simp [Amount.ext_iff]
      | cons byte rest => simp [Amount.lt_iff]
    | token id =>
      cases hpayload : request.payload with
      | nil => simp
      | cons byte rest => simp

theorem kind_of_classify (h : request.classify value = .ok kind) : kind = request.kindOf := by
  have hzero : request.amount.isZero = true ↔ request.amount.val = 0 := Amount.isZero_iff
  have hempty : (!request.payload.isEmpty) = true ↔ request.payload ≠ [] := by simp
  simp only [classify, hzero, hempty] at h
  rw [kindOf]
  split at h
  · rename_i hamount
    rw [if_pos hamount]
    split at h
    · rename_i hpayload
      rw [if_neg hpayload]
      cases h
      rfl
    · rename_i hpayload
      rw [if_pos (not_not.1 hpayload)]
      split at h
      · cases h
      · cases h
        rfl
  · rename_i hamount
    rw [if_neg hamount]
    split at h
    · rename_i hpayload
      rw [if_neg hpayload]
      split at h
      · cases h
      · cases h
        rfl
    · rename_i hpayload
      rw [if_pos (not_not.1 hpayload)]
      split at h <;> split at h <;> cases h <;> rfl

theorem kind_of_split (h : request.split value kind = .ok legs) : legs.kind = kind := by
  cases kind with
  | gas | gasAndPayload | funds =>
    cases h
    rfl
  | fundsAndPayload =>
    rw [split] at h
    split at h
    · obtain ⟨gas, -, hlegs⟩ := bind_eq_ok_iff.1 h
      cases hlegs
      rfl
    · cases h
      rfl

theorem eq_of_plan (h : request.plan value = .ok legs) :
    legs = ⟨request.kindOf, request.gasOf value, request.fundsOf⟩ := by
  obtain ⟨hgas, hfunds⟩ := legs_of_plan h
  obtain ⟨kind, hclassify, hsplit⟩ := bind_eq_ok_iff.1 h
  rw [refusing_eq_ok_iff] at hclassify
  rw [computing_eq_ok_iff] at hsplit
  rw [← hgas, ← hfunds, ← kind_of_classify hclassify, ← kind_of_split hsplit]

theorem isInstant_kindOf_iff : request.kindOf.isInstant = true ↔ request.amount.val = 0 := by
  rw [kindOf]
  split <;> split <;> simp_all [DepositKind.isInstant]

theorem hasPayload_kindOf_iff : request.kindOf.hasPayload = true ↔ request.payload ≠ [] := by
  rw [kindOf]
  split <;> split <;> simp_all [DepositKind.hasPayload]

/-- Native value that fits a request is gas or bridged. -/
theorem FitsValue.gas_add_bridged (h : request.FitsValue value) :
    (request.gasOf value).val + (if request.asset = .native then request.amount.val else 0)
      = value.val := by
  rw [gasOf, Amount.val_saturatingSub]
  by_cases hnative : request.asset = .native
  · rw [if_pos hnative, if_pos hnative]
    apply Nat.sub_add_cancel
    by_cases hamount : request.amount.val = 0
    · omega
    · by_cases hpayload : request.payload = []
      · have hexact := h.exact hamount hpayload
        rw [if_pos hnative] at hexact
        exact hexact.ge
      · exact h.covered hamount hpayload hnative
  · rw [if_neg hnative, if_neg hnative]
    rfl

theorem bridgedNative_fundsOf {gas : Amount} :
    Legs.bridgedNative ⟨kind, gas, request.fundsOf⟩
      = if request.asset = .native then request.amount.val else 0 := by
  rw [Legs.bridgedNative, fundsOf]
  by_cases hamount : request.amount.val = 0
  · rw [if_pos hamount, hamount, ite_self]
  · rw [if_neg hamount]
    cases request.asset <;> rfl

/-- A request with native value has legs exactly if the two fit, and finding them never stops on a
fault. The gas and the native currency bridged make up the value. There are bridged funds exactly if
the request has an amount, and they are its asset and amount. The instant route is for requests
without bridged funds, the kind names a payload exactly if there is one, and on the instant route
only a request with nothing but a payload has no gas. -/
theorem plan_conserves_value (request : Request) (value : Amount) :
    Faultless (request.plan value)
      ∧ ((∃ legs, request.plan value = .ok legs) ↔ request.FitsValue value)
      ∧ ∀ legs, request.plan value = .ok legs →
        legs.gas.val + legs.bridgedNative = value.val
          ∧ ((∃ leg, legs.funds = some leg) ↔ 0 < request.amount.val)
          ∧ (∀ leg, legs.funds = some leg → leg = ⟨request.asset, request.amount⟩)
          ∧ (legs.kind.isInstant = true ↔ legs.funds = none)
          ∧ (legs.kind.hasPayload = true ↔ request.payload ≠ [])
          ∧ (legs.kind.isInstant = true → legs.gas.val = 0 →
            value.val = 0 ∧ request.amount.val = 0 ∧ request.payload ≠ []) := by
  have hfits : (∃ legs, request.plan value = .ok legs) ↔ request.FitsValue value := by
    rw [(request.decided_plan value).eq_ok_iff, shapeFlaw?_eq_none_iff]
  have hnone : request.fundsOf = none ↔ request.amount.val = 0 := by
    rw [fundsOf]
    split <;> simp_all
  refine ⟨request.faultless_plan value, hfits, ?_⟩
  intro legs h
  have hvalue := hfits.1 ⟨legs, h⟩
  obtain rfl := eq_of_plan h
  refine ⟨?_, ?_, ?_, isInstant_kindOf_iff.trans hnone.symm, hasPayload_kindOf_iff, ?_⟩
  · rw [bridgedNative_fundsOf]
    exact hvalue.gas_add_bridged
  · rw [← Option.isSome_iff_exists, ← Option.ne_none_iff_isSome, Nat.pos_iff_ne_zero]
    exact not_congr hnone
  · intro leg hleg
    dsimp only [fundsOf] at hleg
    split at hleg
    · cases hleg
    · exact (Option.some.inj hleg).symm
  · intro hinstant hgas
    have hamount := isInstant_kindOf_iff.1 hinstant
    have hsum := hvalue.gas_add_bridged
    have hnovalue : value.val = 0 := by
      rw [← hsum, hgas, hamount, ite_self]
    refine ⟨hnovalue, hamount, ?_⟩
    rcases hvalue.notEmpty with hsome | hsome | hsome
    · exact absurd hnovalue hsome
    · exact absurd hamount hsome
    · exact hsome

/-- Of 130 native units sent with 100 to bridge and a payload, 30 are gas. -/
theorem surplus_is_gas :
    let request := Gateway.sampleRequest .native 100 [1]
    ∃ legs, request.plan (.ofUInt64 130) = .ok legs ∧ legs.gas.val = 30
      ∧ legs.kind.isInstant = false ∧ legs.kind.hasPayload = true := by
  intro request
  obtain ⟨-, hfits, hlegs⟩ := plan_conserves_value request (.ofUInt64 130)
  obtain ⟨legs, h⟩ := hfits.2 ⟨by decide, by decide, by decide⟩
  obtain ⟨hsum, hfunds, hleg, hinstant, hpayload, -⟩ := hlegs legs h
  obtain ⟨leg, hsome⟩ := hfunds.2 (by decide)
  have hbridged : legs.bridgedNative = 100 := by
    rw [Legs.bridgedNative, hsome, hleg leg hsome]
    rfl
  refine ⟨legs, h, ?_, ?_, hpayload.2 (by decide)⟩
  · rw [hbridged] at hsum
    exact Nat.add_right_cancel hsum
  · rw [Bool.eq_false_iff, ne_eq, hinstant, hsome]
    nofun

end Request

end DepositGate
