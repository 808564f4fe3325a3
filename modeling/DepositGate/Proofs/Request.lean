import DepositGate.Proofs.Outcome
import DepositGate.Request

/-!
# How a request is split

A request without bridged funds is all gas. Any other request has a funds leg of its own asset and
amount, and what is gas and what is bridged native currency make up the native value sent. Splitting
never stops on a fault: the only difference it takes is of amounts that the kind of the request puts
in order.
-/

namespace DepositGate.Request

variable {request : Request} {value : Amount} {kind : DepositKind} {legs : Legs}

/-! ### The kind of a request -/

theorem of_classify_of_no_funds (hclassify : request.classify value = .ok kind)
    (hamount : request.amount.isZero = true) : kind = .gas ∨ kind = .gasAndPayload := by
  rw [classify, if_pos hamount] at hclassify
  by_cases hpayload : (!request.payload.isEmpty) = true
  · rw [if_pos hpayload] at hclassify
    cases hclassify
    exact .inr rfl
  · rw [if_neg hpayload] at hclassify
    split at hclassify
    · cases hclassify
    · cases hclassify
      exact .inl rfl

/-- Bridged native funds are covered by the value sent, and exactly so without a payload. Nothing is
sent along with bridged tokens but gas for a payload. -/
theorem of_classify_of_funds (hclassify : request.classify value = .ok kind)
    (hamount : request.amount.isZero = false) :
    (kind = .fundsAndPayload ∧ (request.asset = .native → request.amount ≤ value))
      ∨ (kind = .funds
        ∧ value.val = if request.asset = .native then request.amount.val else 0) := by
  rw [classify, hamount] at hclassify
  by_cases hpayload : (!request.payload.isEmpty) = true
  · simp only [Bool.false_eq_true, if_false, if_pos hpayload] at hclassify
    by_cases hshort : (request.asset.isNative && decide (value < request.amount)) = true
    · rw [if_pos hshort] at hclassify
      cases hclassify
    · rw [if_neg hshort] at hclassify
      cases hclassify
      refine .inl ⟨rfl, ?_⟩
      intro hnative
      rw [hnative, Asset.isNative, Bool.true_and, decide_eq_true_eq] at hshort
      exact Nat.le_of_not_lt hshort
  · simp only [Bool.false_eq_true, if_false, if_neg hpayload] at hclassify
    cases hasset : request.asset with
    | native =>
      simp only [hasset] at hclassify
      by_cases hexact : value = request.amount
      · rw [if_pos hexact] at hclassify
        cases hclassify
        exact .inr ⟨rfl, congrArg Amount.val hexact⟩
      · rw [if_neg hexact] at hclassify
        cases hclassify
    | token id =>
      simp only [hasset] at hclassify
      by_cases hzero : value.isZero = true
      · rw [if_pos hzero] at hclassify
        cases hclassify
        exact .inr ⟨rfl, Amount.isZero_iff.1 hzero⟩
      · rw [if_neg hzero] at hclassify
        cases hclassify

/-! ### The legs of a request -/

/-- The legs that a request has with a native value: gas alone on the instant route, and elsewhere
its own asset and amount beside the gas that is left. -/
inductive SplitInto (request : Request) (value : Amount) : Legs → Prop where
  | instant {kind : DepositKind} (hinstant : kind.isInstant = true)
      (hamount : request.amount.val = 0) : SplitInto request value ⟨kind, value, none⟩
  | bridged {kind : DepositKind} {gas : Amount} (hbridged : kind.isInstant = false)
      (hgas : kind = .funds → gas.val = 0)
      (hsum : gas.val + (if request.asset = .native then request.amount.val else 0) = value.val) :
      SplitInto request value ⟨kind, gas, some ⟨request.asset, request.amount⟩⟩

theorem split_of_classify (hclassify : request.classify value = .ok kind) :
    ∃ legs, request.split value kind = .ok legs ∧ request.SplitInto value legs := by
  cases hamount : request.amount.isZero with
  | true =>
    have hzero := Amount.isZero_iff.1 hamount
    rcases of_classify_of_no_funds hclassify hamount with rfl | rfl
    · exact ⟨_, rfl, .instant rfl hzero⟩
    · exact ⟨_, rfl, .instant rfl hzero⟩
  | false =>
    rcases of_classify_of_funds hclassify hamount with ⟨rfl, hcovered⟩ | ⟨rfl, hvalue⟩
    · cases hasset : request.asset with
      | native =>
        have hle := hcovered hasset
        rw [split, hasset, Asset.isNative, if_pos rfl, Amount.sub_eq_ok hle, ← hasset]
        refine ⟨_, rfl, .bridged rfl nofun ?_⟩
        rw [if_pos hasset]
        exact Nat.sub_add_cancel hle
      | token id =>
        rw [split, hasset, Asset.isNative, if_neg (by decide), ← hasset]
        refine ⟨_, rfl, .bridged rfl nofun ?_⟩
        rw [hasset]
        rfl
    · refine ⟨_, rfl, .bridged rfl (fun _ => rfl) ?_⟩
      rw [hvalue]
      exact Nat.zero_add _

theorem splitInto_of_plan (h : request.plan value = .ok legs) : request.SplitInto value legs := by
  obtain ⟨kind, hclassify, hsplit⟩ := bind_eq_ok_iff.1 h
  rw [refusing_eq_ok_iff] at hclassify
  rw [computing_eq_ok_iff] at hsplit
  obtain ⟨other, hother, hinto⟩ := split_of_classify hclassify
  rw [hsplit] at hother
  cases hother
  exact hinto

theorem faultless_plan (request : Request) (value : Amount) : Faultless (request.plan value) := by
  apply (faultless_refusing _).bind
  intro kind hclassify
  obtain ⟨legs, hlegs, -⟩ := split_of_classify (refusing_eq_ok_iff.1 hclassify)
  exact faultless_computing ⟨legs, hlegs⟩

end DepositGate.Request
