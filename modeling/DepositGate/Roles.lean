import DepositGate.Identity
import DepositGate.SortedMap

/-!
# Roles

Three roles guard the gateway: the administrator changes settings, the pauser stops and restarts it,
and the threshold signer releases what is held in custody. Membership is a set of pairs of a role
and an account.
-/

namespace DepositGate

inductive Role where
  | admin
  | pauser
  | tss
deriving DecidableEq, Repr

namespace Role

def name : Role → String
  | admin => "Admin"
  | pauser => "Pauser"
  | tss => "Tss"

def all : List Role := [admin, pauser, tss]

instance : Ranked Role where
  rank
    | admin => 0
    | pauser => 1
    | tss => 2
  rank_injective := by
    intro a b h
    cases a <;> cases b <;> simp at h ⊢

end Role

/-- Pairs are ordered by their first part, then by their identity. -/
instance {κ : Type} {size : Nat} [Ranked κ] : Ranked (κ × Identity size) where
  rank pair := rank pair.1 * 256 ^ size + pair.2.val
  rank_injective := by
    rintro ⟨k, i⟩ ⟨l, j⟩ h
    simp only at h
    have hpos : 0 < 256 ^ size := Nat.pos_of_ne_zero (by simp)
    have hdiv := congrArg (· / 256 ^ size) h
    have hmod := congrArg (· % 256 ^ size) h
    simp only [Nat.add_comm _ (Identity.val _), Nat.add_mul_div_right _ _ hpos,
      Nat.add_mul_mod_self_right, Nat.div_eq_of_lt i.val_lt, Nat.div_eq_of_lt j.val_lt,
      Nat.mod_eq_of_lt i.val_lt, Nat.mod_eq_of_lt j.val_lt, Nat.zero_add] at hdiv hmod
    rw [rank_injective hdiv, Identity.ext hmod]

structure Roles where
  members : SortedMap (Role × Address) Unit
deriving DecidableEq

namespace Roles

def nobody : Roles := ⟨.empty⟩

instance : Inhabited Roles := ⟨nobody⟩

def grant (roles : Roles) (role : Role) (account : Address) : Roles :=
  ⟨roles.members.insert (role, account) ()⟩

def revoke (roles : Roles) (role : Role) (account : Address) : Roles :=
  ⟨roles.members.erase (role, account)⟩

def holds (roles : Roles) (role : Role) (account : Address) : Bool :=
  roles.members.contains (role, account)

/-- One account in each role. -/
def ofMembers (admin pauser tss : Address) : Roles :=
  ((nobody.grant .admin admin).grant .pauser pauser).grant .tss tss

end Roles

end DepositGate
