import DepositGate.Proofs.Gateway.Run
import DepositGate.Proofs.Vault.Custody

/-!
# Which calls count

Only a deposit that is admitted moves what the budgets have counted, and its receipt says what it
moved. Every other call gives no receipt, and it leaves the ledger counting as before even where it
puts a new cap, threshold or duration in force; so does every change from outside.

A deposit that passes the rules before the budgets is refused with the reason of the budget that has
no room, and with no other reason than a failed transfer if both have.
-/

namespace DepositGate

/-- The second ledger has counted what the first has. Their settings may differ. -/
structure Ledger.CountsAlike (before after : Ledger) : Prop where
  key : after.block.key = before.block.key
  consumed : after.block.consumed = before.block.consumed
  counter : ∀ asset, after.epochs.counter asset = before.epochs.counter asset
  known : ∀ asset, after.epochs.record asset = none → before.epochs.record asset = none
  filed : before.epochs.Filed → after.epochs.Filed

theorem Ledger.CountsAlike.refl (ledger : Ledger) : ledger.CountsAlike ledger :=
  ⟨rfl, rfl, fun _ => rfl, fun _ => id, id⟩

theorem Ledger.countsAlike_setThreshold (ledger : Ledger) (asset : Asset) (threshold : Amount) :
    ledger.CountsAlike (ledger.setThreshold asset threshold) where
  key := rfl
  consumed := rfl
  counter := ledger.epochs.counter_setThreshold asset threshold
  known := by
    intro other hnone
    rw [Ledger.setThreshold, EpochLimits.record_setThreshold] at hnone
    by_cases hother : asset = other
    · rw [if_pos hother] at hnone
      cases hnone
    · rwa [if_neg hother] at hnone
  filed := fun hfiled => hfiled.setThreshold asset threshold

/-- Whether the reply refuses the call for a reason of this kind. -/
def Reply.RefusedAs {α : Type} (reply : Reply α) (kind : RefusalKind) : Prop :=
  ∃ why, reply.result = .error (.refused why) ∧ why.kind = kind

namespace Turn

/-- The receipt that the turn is answered with, if it is a deposit that is admitted. -/
def receipt? (turn : Turn) : Option Receipt :=
  match turn.reply.result with
  | .ok (.receipt receipt) => some receipt
  | _ => none

variable {turn : Turn} {receipt : Receipt}

theorem receipt?_eq_some (h : turn.reply.result = .ok (.receipt receipt)) :
    turn.receipt? = some receipt := by
  rw [receipt?, h]

theorem receipt?_eq_none (h : ∀ receipt, turn.reply.result ≠ .ok (.receipt receipt)) :
    turn.receipt? = none := by
  rw [receipt?]
  split
  · rename_i receipt hresult
    exact absurd hresult (h receipt)
  · rfl

theorem receipt?_of_done (h : turn.reply.result = .ok .done) : turn.receipt? = none := by
  rw [receipt?, h]

end Turn

namespace Gateway

variable {gateway next : Gateway} {call : Call} {event : Event} {receipt : Receipt} {id : String}
  {sender : Address} {request : Request} {value : Amount} {plan : Plan} {failure : Failure}

/-! ### Calls that count and calls that do not -/

theorem countsAlike_governed? (h : gateway.governed? call = some (next, event)) :
    gateway.ledger.CountsAlike next.ledger := by
  have hsame := Ledger.CountsAlike.refl gateway.ledger
  cases call with
  | setCaps _ min max =>
    obtain ⟨caps, rfl, -⟩ := of_governed?_setCaps h
    exact hsame
  | setThreshold _ asset threshold =>
    cases h
    exact gateway.ledger.countsAlike_setThreshold asset threshold
  | _ => cases h <;> exact ⟨rfl, rfl, fun _ => rfl, fun _ => id, id⟩

@[simp] theorem ledger_change (gateway : Gateway) (change : Change) :
    (gateway.change change).ledger = gateway.ledger := by
  cases change <;> rfl

/-- A turn that counts: a deposit that drew on the budgets and was admitted. -/
structure Counting (gateway : Gateway) (call : Call) (receipt : Receipt) : Prop where
  admitted : Turn.receipt? ⟨gateway, call⟩ = some receipt
  block : receipt.block = gateway.clock.block
  drawn : ∃ txn, gateway.draw receipt.plan = .ok (txn, receipt.epoch)
    ∧ (gateway.perform call).gateway.ledger = txn.commit

theorem Counting.draws (h : gateway.Counting call receipt) (hfiled : gateway.ledger.epochs.Filed) :
    gateway.Draws receipt.plan receipt.epoch (gateway.perform call).gateway.ledger := by
  obtain ⟨txn, hdraw, hledger⟩ := h.drawn
  rw [hledger]
  exact of_draw hfiled hdraw

theorem Counting.filed (h : gateway.Counting call receipt) (hfiled : gateway.ledger.epochs.Filed) :
    (gateway.perform call).gateway.ledger.epochs.Filed := by
  rcases (h.draws hfiled).funds with ⟨-, -, hsame⟩ | ⟨leg, -, hconsume, -⟩
  · exact hsame ▸ hfiled
  · exact hfiled.consume hconsume

/-- Any call counts or leaves all counts alone. -/
theorem counting_or_countsAlike (gateway : Gateway) (call : Call) :
    (∃ receipt, gateway.Counting call receipt)
      ∨ (Turn.receipt? ⟨gateway, call⟩ = none
        ∧ gateway.ledger.CountsAlike (gateway.perform call).gateway.ledger) := by
  have hsame := Ledger.CountsAlike.refl gateway.ledger
  cases gateway.perform_effect call with
  | quiet hgateway _ hresult =>
    right
    rw [hgateway]
    exact ⟨Turn.receipt?_eq_none hresult, hsame⟩
  | deposit staged vault hassess _ hresult hgateway =>
    left
    refine ⟨_, Turn.receipt?_eq_some hresult, rfl, staged.txn, (assess_eq_ok_iff.1 hassess).2, ?_⟩
    rw [hgateway]
    rfl
  | release _ _ _ _ vault _ _ _ hresult hgateway =>
    right
    rw [hgateway]
    exact ⟨Turn.receipt?_of_done hresult, hsame⟩
  | govern next event hgoverned hresult hgateway =>
    right
    rw [hgateway]
    exact ⟨Turn.receipt?_of_done hresult, countsAlike_governed? hgoverned⟩

/-! ### What a deposit is refused for -/

theorem send_of_draw_error (id : String) (sender : Address)
    (hcheck : gateway.check request value = .ok plan) (hdraw : gateway.draw plan = .error failure) :
    (gateway.send id sender request value).result = .error failure :=
  (send_of_assess_error id sender ((assess_of_check hcheck).2 hdraw)).1

/-- Past all rules but the vault's, only a failed transfer is left as a reason. -/
theorem kind_of_send {txn : Ledger.Transaction} {epoch : Option UInt64} {why : Refusal}
    (hcheck : gateway.check request value = .ok plan) (hdraw : gateway.draw plan = .ok (txn, epoch))
    (hsend : (gateway.send id sender request value).result = .error (.refused why)) :
    why.kind = .transferFailed := by
  have hassess : gateway.assess request value = .ok ⟨plan, txn, epoch⟩ :=
    assess_eq_ok_iff.2 ⟨hcheck, hdraw⟩
  cases hvault : gateway.vault.depositBatch plan.deposits sender with
  | ok vault =>
    rw [(send_of_taken id hassess hvault).1] at hsend
    cases hsend
  | error flaw =>
    rw [(send_of_vault_error id hassess hvault).1] at hsend
    cases hsend
    exact Vault.kind_of_depositBatch hvault

/-- A deposit is refused for a kind of reason other than a failed transfer exactly if its draw on
the budgets is. -/
theorem refusedAs_iff_draw {kind : RefusalKind} (hkind : kind ≠ .transferFailed)
    (hcheck : gateway.check request value = .ok plan) :
    (gateway.send id sender request value).RefusedAs kind
      ↔ ∃ why, gateway.draw plan = .error (.refused why) ∧ why.kind = kind := by
  constructor
  · intro ⟨why, hsend, hwhy⟩
    cases hdraw : gateway.draw plan with
    | ok drawn =>
      have htransfer := kind_of_send hcheck hdraw hsend
      exact absurd (hwhy.symm.trans htransfer) hkind
    | error failure =>
      rw [send_of_draw_error id sender hcheck hdraw] at hsend
      cases hsend
      exact ⟨why, rfl, hwhy⟩
  · intro ⟨why, hdraw, hwhy⟩
    exact ⟨why, send_of_draw_error id sender hcheck hdraw, hwhy⟩

end Gateway

end DepositGate
