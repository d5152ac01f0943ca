import CreatorFirst.Chain.Abi
import CreatorFirst.Chain.Mapping

/-!
# Role-based access control

The roles a contract inherits: every role is granted and revoked by holders of the default admin
role, and an account may renounce a role of its own.
-/

namespace CreatorFirst.Chain

abbrev Roles := Bytes32 → Address → Bool

inductive AccessError where
  | unauthorizedAccount (account : Address) (neededRole : Bytes32)
  | badConfirmation
  deriving DecidableEq

inductive RoleOp where
  | grantRole (role : Bytes32) (account : Address)
  | revokeRole (role : Bytes32) (account : Address)
  | renounceRole (role : Bytes32) (callerConfirmation : Address)

namespace Roles

def DEFAULT_ADMIN_ROLE : Bytes32 := 0

def empty : Roles := fun _ _ ↦ false

def grant (roles : Roles) (role : Bytes32) (account : Address) : Roles :=
  update₂ roles role account true

def checkRole (roles : Roles) (role : Bytes32) (account : Address) : Except AccessError Unit :=
  revertIf (roles role account = false) (.unauthorizedAccount account role)

/-- What a contract guards with a role succeeds for the holders of the role only. -/
theorem required_bind_eq_ok {ε β : Type} {roles : Roles} {role : Bytes32} {sender : Address} {e : ε}
    {f : Unit → Except ε β} {y : β} :
    (revertIf (roles role sender = false) e >>= f) = .ok y ↔
      roles role sender = true ∧ f () = .ok y := by
  rw [revertIf_bind_eq_ok, Bool.not_eq_false]

def apply (sender : Address) (roles : Roles) : RoleOp → Except AccessError Roles
  | .grantRole role account => do
    roles.checkRole DEFAULT_ADMIN_ROLE sender
    return roles.grant role account
  | .revokeRole role account => do
    roles.checkRole DEFAULT_ADMIN_ROLE sender
    return update₂ roles role account false
  | .renounceRole role callerConfirmation => do
    revertIf (callerConfirmation ≠ sender) .badConfirmation
    return update₂ roles role callerConfirmation false

end Roles

end CreatorFirst.Chain
