import DepositGate.Gateway

/-!
# Releases

Assets leave custody only on a call of the threshold signer, either to withdraw them or to refund a
deposit that could not be carried out. Both move a positive amount to an account, and differ only in
what is told of them.
-/

namespace DepositGate.Gateway

/-- The vault after a release that all rules allow. -/
def release (gateway : Gateway) (caller : Address) (asset : Asset) (amount : Amount)
    (recipient : Address) : Except Failure Vault := do
  refusing (gateway.requireRole caller .tss [])
  refusing gateway.requireRunning
  if amount.isZero then .error (.refused (.invalidAmount .zeroRelease))
  else if recipient.isZero then .error (.refused .invalidRecipient)
  else gateway.vault.release asset amount recipient

/-- A release told of by a notice and an event. A transfer that fails is counted. -/
def releaseReply (gateway : Gateway) (result : Except Failure Vault) (asset : Asset)
    (amount : Amount) (notice : Notice) (event : Event) : Reply Unit :=
  match result with
  | .ok vault =>
    ⟨.ok (), { gateway with vault := vault },
      [.notice (.released asset amount), .notice notice, .event event]⟩
  | .error (.refused (.transferFailed why)) =>
    ⟨.error (.refused (.transferFailed why)), gateway, [.tally .transferFailure]⟩
  | .error failure => gateway.answer (.error failure)

def withdraw (gateway : Gateway) (caller : Address) (asset : Asset) (amount : Amount)
    (recipient : Address) : Reply Unit :=
  gateway.releaseReply (gateway.release caller asset amount recipient) asset amount
    (.withdrawn asset amount) (.withdrawn recipient asset amount)

/-- Refunds a deposit as its sender asked for. -/
def revert (gateway : Gateway) (caller : Address) (asset : Asset) (amount : Amount)
    (refund : Refund) : Reply Unit :=
  gateway.releaseReply (gateway.release caller asset amount refund.recipient) asset amount
    (.reverted asset amount) (.reverted refund.recipient asset amount refund.message)

end DepositGate.Gateway
