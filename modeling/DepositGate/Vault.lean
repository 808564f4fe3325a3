import DepositGate.Refusal

/-!
# The vault

The vault holds deposited assets in custody and releases them to accounts. The legs of one deposit
are moved together: each is checked against what the earlier ones leave, and custody changes only
if all pass. Transfers can be made to fail from outside, all of them, all deposits after some
number, or the deposits of some assets.
-/

namespace DepositGate

structure Vault where
  custody : SortedMap Asset Amount
  released : SortedMap (Asset × Address) Amount
  /-- How many legs were ever deposited. -/
  deposits : UInt64
  /-- The number of deposited legs at which deposits start to fail. -/
  limit : Option UInt64
  failing : Bool
  refused : SortedMap Asset Unit
deriving DecidableEq

namespace Vault

def empty : Vault := ⟨.empty, .empty, 0, none, false, .empty⟩

instance : Inhabited Vault := ⟨empty⟩

def custodyOf (vault : Vault) (asset : Asset) : Amount :=
  (vault.custody.find? asset).getD .zero

def releasedTo (vault : Vault) (asset : Asset) (destination : Address) : Amount :=
  (vault.released.find? (asset, destination)).getD .zero

def refusesLeg (vault : Vault) (asset : Asset) (index : Nat) : Bool :=
  vault.failing ||
    (match vault.limit with
      | some limit => decide (limit ≤ vault.deposits + UInt64.ofNat index)
      | none => false) ||
    vault.refused.contains asset

/-- The new custody totals of the assets deposited, the first leg being number `index`. -/
def stageLegs (vault : Vault) (sender : Address) (index : Nat) (staged : SortedMap Asset Amount) :
    List (Asset × Amount) → Except Refusal (SortedMap Asset Amount)
  | [] => .ok staged
  | (asset, amount) :: rest =>
    if vault.refusesLeg asset index then
      .error (.transferFailed (.depositRefused amount asset sender))
    else
      let held := (staged.find? asset).getD (vault.custodyOf asset)
      match held.add? amount with
      | none => .error (.transferFailed (.custodyTooLarge asset))
      | some next => stageLegs vault sender (index + 1) (staged.insert asset next) rest

/-- Takes all legs into custody, or none. -/
def depositBatch (vault : Vault) (legs : List (Asset × Amount)) (sender : Address) :
    Except Refusal Vault := do
  let staged ← vault.stageLegs sender 0 .empty legs
  return { vault with
    custody := vault.custody.override staged
    deposits := vault.deposits + UInt64.ofNat legs.length }

def deposit (vault : Vault) (asset : Asset) (amount : Amount) (sender : Address) :
    Except Refusal Vault :=
  vault.depositBatch [(asset, amount)] sender

/-- Releases an amount from custody to an account. What was released in total is cut at the largest
amount. -/
def release (vault : Vault) (asset : Asset) (amount : Amount) (destination : Address) :
    Except Failure Vault :=
  if vault.failing then
    .error (.refused (.transferFailed (.releaseRefused amount asset)))
  else
    let held := vault.custodyOf asset
    if held < amount then
      .error (.refused (.transferFailed (.shortOfCustody asset held amount)))
    else do
      let rest ← computing (held.sub amount)
      let total := (vault.releasedTo asset destination).saturatingAdd amount
      return { vault with
        custody := vault.custody.insert asset rest
        released := vault.released.insert (asset, destination) total }

end Vault

/-- A failure put on the vault from outside, or all of them lifted. -/
inductive VaultChange where
  | failing (failing : Bool)
  /-- Lets this many more legs in. -/
  | failAfter (legs : UInt64)
  | refuse (asset : Asset)
  | clear
deriving DecidableEq, Repr

namespace Vault

def change (vault : Vault) : VaultChange → Vault
  | .failing failing => { vault with failing := failing }
  | .failAfter legs => { vault with limit := some (vault.deposits + legs) }
  | .refuse asset => { vault with refused := vault.refused.insert asset () }
  | .clear => { vault with limit := none, failing := false, refused := .empty }

end Vault

end DepositGate
