import DepositGate.Proofs.Gateway.Traceless
import DepositGate.Proofs.Gateway.Transferless

/-!
# What a call counts

A deposit that is admitted is counted once under its kind, after what its block has consumed was
noted. One that is rejected is counted once under the reason, and once more as a failed transfer if
the vault did not take it. A release that fails at the vault is counted as a failed transfer alone,
and no other call counts anything. What is counted can thus be told from the answer: the call has
counted a failed transfer exactly if it was answered with one.
-/

namespace DepositGate

/-- The call hands in a deposit. -/
def Call.isSend : Call → Bool
  | .send .. => true
  | _ => false

theorem Call.isSend_of_still {call : Call} (h : call.movesAssets = false) :
    call.isSend = false := by
  cases call <;> first | rfl | cases h

namespace Turn

variable {turn : Turn} {receipt : Receipt} {why : Refusal}

/-- The kind of the deposit, if it is one that is admitted. -/
def admitted? (turn : Turn) : Option DepositKind :=
  turn.receipt?.map fun receipt => receipt.plan.kind

/-- What the call is refused for, if it is. -/
def refusedFor? (turn : Turn) : Option RefusalKind :=
  match turn.reply.result with
  | .error (.refused why) => some why.kind
  | _ => none

/-- The reason that the deposit is rejected for, if it is one that is rejected. -/
def rejected? (turn : Turn) : Option RefusalKind :=
  if turn.call.isSend then turn.refusedFor? else none

/-- Assets were to be moved, and the call is answered with a failed transfer. -/
def failsTransfer (turn : Turn) : Bool :=
  turn.call.movesAssets && turn.refusedFor? == some .transferFailed

/-- The call stopped on a fault and is not answered. -/
def faults (turn : Turn) : Bool :=
  match turn.reply.result with
  | .error (.fault _) => true
  | _ => false

/-- What is consumed, after an admitted deposit, in the block that it was charged to. -/
def recorded? (turn : Turn) : Option Usd :=
  turn.receipt?.map fun receipt => turn.reply.gateway.ledger.consumedAt receipt.block

/-- What a turn counts, told from its answer. -/
def noted (turn : Turn) : List Tally :=
  (turn.recorded?.map Tally.blockConsumed).toList
    ++ (if turn.failsTransfer then [.transferFailure] else [])
    ++ (turn.admitted?.map Tally.admission).toList
    ++ (turn.rejected?.map Tally.rejection).toList

theorem noted_of_receipt (h : turn.reply.result = .ok (.receipt receipt)) :
    turn.noted = [.blockConsumed (turn.reply.gateway.ledger.consumedAt receipt.block),
      .admission receipt.plan.kind] := by
  have hrefused : turn.refusedFor? = none := by rw [refusedFor?, h]
  simp [noted, recorded?, admitted?, rejected?, failsTransfer, receipt?_eq_some h, hrefused]

theorem noted_of_done (h : turn.reply.result = .ok .done) : turn.noted = [] := by
  have hrefused : turn.refusedFor? = none := by rw [refusedFor?, h]
  simp [noted, recorded?, admitted?, rejected?, failsTransfer, receipt?_of_done h, hrefused]

theorem noted_of_fault {what : Fault} (h : turn.reply.result = .error (.fault what)) :
    turn.noted = [] := by
  have hreceipt : turn.receipt? = none := receipt?_eq_none (by simp [h])
  have hrefused : turn.refusedFor? = none := by rw [refusedFor?, h]
  simp [noted, recorded?, admitted?, rejected?, failsTransfer, hreceipt, hrefused]

theorem noted_of_refused (h : turn.reply.result = .error (.refused why)) :
    turn.noted = (if turn.call.movesAssets ∧ why.kind = .transferFailed then [.transferFailure]
        else []) ++ (if turn.call.isSend then [.rejection why.kind] else []) := by
  have hreceipt : turn.receipt? = none := receipt?_eq_none (by simp [h])
  have hrefused : turn.refusedFor? = some why.kind := by rw [refusedFor?, h]
  cases hsend : turn.call.isSend <;>
    simp [noted, recorded?, admitted?, rejected?, failsTransfer, hreceipt, hrefused, hsend]

end Turn

namespace Gateway

variable {gateway : Gateway} {id : String} {sender caller recipient : Address} {request : Request}
  {value amount : Amount} {asset : Asset} {staged : Staged} {vault : Vault} {why : Refusal}
  {call : Call}

/-! ### The tallies of a deposit -/

theorem tallies_of_assess_refused (id : String) (sender : Address)
    (h : gateway.assess request value = .error (.refused why)) :
    (gateway.send id sender request value).tallies = [.rejection why.kind] := by
  simp only [send, h, Reply.tallies, List.filterMap_append, filterMap_tally?_assessSignals]
  rfl

theorem tallies_of_assess_fault {what : Fault} (id : String) (sender : Address)
    (h : gateway.assess request value = .error (.fault what)) :
    (gateway.send id sender request value).tallies = [] := by
  simp only [send, h, Reply.tallies, List.filterMap_append, filterMap_tally?_assessSignals]
  rfl

theorem tallies_of_vault_error (id : String) (h : gateway.assess request value = .ok staged)
    (hvault : gateway.vault.depositBatch staged.plan.deposits sender = .error why) :
    (gateway.send id sender request value).tallies
      = [.transferFailure, .rejection why.kind] := by
  simp only [send, h, hvault, Reply.tallies, List.filterMap_append, filterMap_tally?_assessSignals]
  rfl

theorem tallies_of_taken (id : String) (h : gateway.assess request value = .ok staged)
    (hvault : gateway.vault.depositBatch staged.plan.deposits sender = .ok vault) :
    (gateway.send id sender request value).tallies
      = [.blockConsumed (gateway.settled staged vault).blockConsumed,
        .admission staged.plan.kind] := by
  have htook : (tookInSignals staged.plan sender).filterMap Signal.tally? = [] := by
    rw [tookInSignals]
    split <;> rfl
  have hevents : ((announcements sender request staged.plan).map fun leg =>
      Signal.event (.deposited leg)).filterMap Signal.tally? = [] := by
    rw [List.filterMap_map]
    exact List.filterMap_eq_nil_iff.2 fun _ _ => rfl
  simp only [send, h, hvault, Reply.tallies, List.filterMap_append, filterMap_tally?_assessSignals,
    carryOut, htook, hevents]
  rfl

theorem tallies_send (gateway : Gateway) (id : String) (sender : Address) (request : Request)
    (value : Amount) : (gateway.send id sender request value).tallies
      = Turn.noted ⟨gateway, .send id sender request value⟩ := by
  have hanswer : (Turn.reply ⟨gateway, .send id sender request value⟩).result
      = (gateway.send id sender request value).result.map .receipt := rfl
  cases hassess : gateway.assess request value with
  | error failure =>
    rw [(send_of_assess_error id sender hassess).1] at hanswer
    cases failure with
    | fault what => rw [tallies_of_assess_fault id sender hassess, Turn.noted_of_fault hanswer]
    | refused why =>
      -- Only the vault's refusals count a failed transfer, and this one came before it was asked.
      have hkind := gateway.transferless_assess request value why hassess
      rw [tallies_of_assess_refused id sender hassess, Turn.noted_of_refused hanswer]
      simp [hkind, Call.isSend]
  | ok staged =>
    cases hvault : gateway.vault.depositBatch staged.plan.deposits sender with
    | error why =>
      have hkind := Vault.kind_of_depositBatch hvault
      rw [(send_of_vault_error id hassess hvault).1] at hanswer
      rw [tallies_of_vault_error id hassess hvault, Turn.noted_of_refused hanswer]
      simp [hkind, Call.isSend, Call.movesAssets]
    | ok vault =>
      obtain ⟨hok, hgateway, -⟩ := send_of_taken id hassess hvault
      rw [hok] at hanswer
      have hafter : (Turn.reply ⟨gateway, .send id sender request value⟩).gateway
          = gateway.settled staged vault := hgateway
      rw [tallies_of_taken id hassess hvault, Turn.noted_of_receipt hanswer, hafter]
      rfl

/-! ### The tallies of any call -/

/-- A release counts what its answer tells. -/
theorem tallies_releaseReply (result : Except Failure Vault) (asset : Asset) (amount : Amount)
    (notice : Notice) (event : Event) (hmoves : call.movesAssets = true)
    (hsend : call.isSend = false) (hreply : gateway.perform call
      = (gateway.releaseReply result asset amount notice event).map fun _ => .done) :
    (gateway.perform call).tallies = Turn.noted ⟨gateway, call⟩ := by
  have hanswer : (Turn.reply ⟨gateway, call⟩).result
      = (gateway.releaseReply result asset amount notice event).result.map fun _ => .done :=
    congrArg Reply.result hreply
  rw [hreply]
  cases result with
  | ok vault =>
    rw [Turn.noted_of_done hanswer]
    rfl
  | error failure =>
    cases failure with
    | fault what =>
      rw [Turn.noted_of_fault hanswer]
      rfl
    | refused why =>
      cases why with
      | transferFailed flaw =>
        rw [Turn.noted_of_refused hanswer, if_pos ⟨hmoves, rfl⟩, if_neg (ne_true_of_eq_false hsend)]
        rfl
      | _ =>
        rw [Turn.noted_of_refused hanswer, if_neg nofun, if_neg (ne_true_of_eq_false hsend)]
        rfl

/-- Only deposits are answered with receipts. -/
theorem receipt?_of_not_send (gateway : Gateway) (h : call.isSend = false) :
    Turn.receipt? ⟨gateway, call⟩ = none := by
  cases gateway.perform_effect call with
  | quiet _ _ hresult => exact Turn.receipt?_eq_none hresult
  | deposit => cases h
  | release _ _ _ _ _ _ _ _ hresult => exact Turn.receipt?_of_done hresult
  | govern _ _ _ hresult => exact Turn.receipt?_of_done hresult

theorem noted_of_still (gateway : Gateway) (h : call.movesAssets = false) :
    Turn.noted ⟨gateway, call⟩ = [] := by
  have hsend := Call.isSend_of_still h
  simp [Turn.noted, Turn.recorded?, Turn.admitted?, Turn.rejected?, Turn.failsTransfer,
    gateway.receipt?_of_not_send hsend, hsend, h]

/-- What any call counts can be told from its answer. -/
theorem tallies_perform (gateway : Gateway) (call : Call) :
    (gateway.perform call).tallies = Turn.noted ⟨gateway, call⟩ := by
  cases call with
  | send id sender request value => exact gateway.tallies_send id sender request value
  | withdraw caller asset amount recipient => exact tallies_releaseReply _ _ _ _ _ rfl rfl rfl
  | revert caller asset amount refund => exact tallies_releaseReply _ _ _ _ _ rfl rfl rfl
  | _ => rw [gateway.tallies_of_still rfl, gateway.noted_of_still rfl]

end Gateway

end DepositGate
