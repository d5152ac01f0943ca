import CreatorFirst.Chain.AccessControl
import CreatorFirst.Chain.Contract
import CreatorFirst.Token.Erc20

/-!
# Subscription and treasury

The contract that sells periods of access and the treasury that holds what is paid, both settling in
one token. The token calls nobody, so the reentrancy guard of the source never fires and is left
out. Events are left out as well.
-/

namespace CreatorFirst.Settlement

open Chain

structure Plan where
  price : Uint 128
  duration : Uint 64
  version : Uint 64
  enabled : Bool
  deriving DecidableEq

structure Subscription where
  roles : Roles
  paused : Bool
  plan : Plan
  subscriptionActiveUntil : Address → Uint 64
  usedPaymentReference : Bytes32 → Bool

structure Treasury where
  roles : Roles
  usedDisbursementReference : Bytes32 → Bool

/-- What a disbursement is made for. -/
inductive SpendCategory where
  | creator
  | operations
  | tax
  | promotion
  | community
  deriving DecidableEq

inductive Error where
  | access (e : AccessError)
  | arithmeticPanic
  | nonPayable
  | foreignSender
  | enforcedPause
  | expectedPause
  | safeERC20FailedOperation
  | invalidAddress
  | invalidPlan
  | stalePlanVersion (expected actual : Uint 64)
  | duplicatePaymentReference (paymentRef : Bytes32)
  | invalidAmount
  | duplicateReference (disbursementRef : Bytes32)
  deriving DecidableEq

/-- Both contracts as their constructors accepted them, each at its own address. -/
structure Deployment where
  asset : Address
  subscription : Address
  treasury : Address
  admin : Address
  planManager : Address
  treasuryAdmin : Address
  disburser : Address
  initialPrice : Uint 128
  initialDuration : Uint 64
  asset_ne : asset ≠ 0
  treasury_ne : treasury ≠ 0
  admin_ne : admin ≠ 0
  planManager_ne : planManager ≠ 0
  treasuryAdmin_ne : treasuryAdmin ≠ 0
  disburser_ne : disburser ≠ 0
  price_ne : initialPrice ≠ 0
  duration_ne : initialDuration ≠ 0
  distinct : subscription ≠ treasury

/-- The checks of the treasury's constructor. -/
def checkTreasury (asset admin disburser : Address) : Except Error Unit :=
  revertIf (asset = 0 ∨ admin = 0 ∨ disburser = 0) .invalidAddress

/-- The checks of the subscription's constructor. -/
def checkSubscription (asset treasury admin planManager : Address) (initialPrice : Uint 128)
    (initialDuration : Uint 64) : Except Error Unit := do
  revertIf (asset = 0 ∨ treasury = 0 ∨ admin = 0 ∨ planManager = 0) .invalidAddress
  revertIf (initialPrice = 0 ∨ initialDuration = 0) .invalidPlan

/-- The constructors accept what a deployment is made of. -/
theorem Deployment.accepted (d : Deployment) :
    checkTreasury d.asset d.treasuryAdmin d.disburser = .ok () ∧
      checkSubscription d.asset d.treasury d.admin d.planManager d.initialPrice
        d.initialDuration = .ok () := by
  simp [checkTreasury, checkSubscription, revertIf_bind, revertIf_eq_ok, d.asset_ne, d.treasury_ne,
    d.admin_ne, d.planManager_ne, d.treasuryAdmin_ne, d.disburser_ne, d.price_ne, d.duration_ne]

def PLAN_MANAGER_ROLE (P : Primitives) : Bytes32 := P.keccak256 (utf8 "PLAN_MANAGER_ROLE")
def PAUSER_ROLE (P : Primitives) : Bytes32 := P.keccak256 (utf8 "PAUSER_ROLE")
def DISBURSER_ROLE (P : Primitives) : Bytes32 := P.keccak256 (utf8 "DISBURSER_ROLE")

/-- Both contracts and the token they settle in. -/
structure System (T : Erc20 Address) where
  token : T.State
  subscription : Subscription
  treasury : Treasury

/-- The storage of the subscription right after construction. -/
def initialSubscription (P : Primitives) (d : Deployment) : Subscription where
  roles := ((Roles.empty.grant Roles.DEFAULT_ADMIN_ROLE d.admin).grant
    (PLAN_MANAGER_ROLE P) d.planManager).grant (PAUSER_ROLE P) d.admin
  paused := false
  plan := ⟨d.initialPrice, d.initialDuration, 1, true⟩
  subscriptionActiveUntil := fun _ ↦ 0
  usedPaymentReference := fun _ ↦ false

/-- The storage of the treasury right after construction. -/
def initialTreasury (P : Primitives) (d : Deployment) : Treasury where
  roles := (Roles.empty.grant Roles.DEFAULT_ADMIN_ROLE d.treasuryAdmin).grant
    (DISBURSER_ROLE P) d.disburser
  usedDisbursementReference := fun _ ↦ false

section

variable (P : Primitives) {T : Erc20 Address} (d : Deployment) (b : Block) (sender : Address)

def onlyRole (role : Bytes32) (roles : Roles) : Except Error Unit :=
  revertIf (roles role sender = false) (.access (.unauthorizedAccount sender role))

/-- A call of the token through the wrapper that turns every failure into a revert. -/
def safeCall (caller : Address) (op : T.Op) (token : T.State) : Except Error T.State :=
  (T.exec caller op token).elim (.error .safeERC20FailedOperation) .ok

/-! ## Subscription -/

def setPlan (price : Uint 128) (duration : Uint 64) (enabled : Bool) (s : Subscription) :
    Except Error Subscription := do
  onlyRole sender (PLAN_MANAGER_ROLE P) s.roles
  revertIf (price = 0 ∨ duration = 0) .invalidPlan
  let nextVersion ← Uint.increment .arithmeticPanic s.plan.version
  return { s with plan := ⟨price, duration, nextVersion, enabled⟩ }

def subscribe (paymentReference : Bytes32) (expectedPlanVersion : Uint 64) (s : System T) :
    Except Error (Uint 64 × System T) := do
  revertIf s.subscription.paused .enforcedPause
  let current := s.subscription.plan
  revertIf (current.enabled = false ∨ current.price = 0 ∨ current.duration = 0) .invalidPlan
  revertIf (expectedPlanVersion ≠ current.version)
    (.stalePlanVersion expectedPlanVersion current.version)
  revertIf (paymentReference = 0 ∨ s.subscription.usedPaymentReference paymentReference)
    (.duplicatePaymentReference paymentReference)
  let token ← safeCall d.subscription (T.transferFrom sender d.treasury current.price) s.token
  let previous := s.subscription.subscriptionActiveUntil sender
  let startsAt := if b.timestamp < (previous : ℕ) then previous else Uint.truncate 64 b.timestamp
  let activeUntil ← Uint.add .arithmeticPanic startsAt current.duration
  return (activeUntil,
    { s with
      token
      subscription :=
        { s.subscription with
          usedPaymentReference :=
            Function.update s.subscription.usedPaymentReference paymentReference true
          subscriptionActiveUntil :=
            Function.update s.subscription.subscriptionActiveUntil sender activeUntil } })

def isActive (subscriber : Address) (s : Subscription) : Bool :=
  b.timestamp ≤ (s.subscriptionActiveUntil subscriber : ℕ)

def pause (s : Subscription) : Except Error Subscription := do
  onlyRole sender (PAUSER_ROLE P) s.roles
  revertIf s.paused .enforcedPause
  return { s with paused := true }

def unpause (s : Subscription) : Except Error Subscription := do
  onlyRole sender (PAUSER_ROLE P) s.roles
  revertIf (s.paused = false) .expectedPause
  return { s with paused := false }

/-! ## Treasury -/

def disburse (disbursementRef : Bytes32) (_category : SpendCategory) (recipient : Address)
    (amount : Uint 256) (s : System T) : Except Error (System T) := do
  onlyRole sender (DISBURSER_ROLE P) s.treasury.roles
  revertIf (disbursementRef = 0) (.duplicateReference disbursementRef)
  revertIf (s.treasury.usedDisbursementReference disbursementRef)
    (.duplicateReference disbursementRef)
  revertIf (recipient = 0) .invalidAddress
  revertIf (amount = 0) .invalidAmount
  let token ← safeCall d.treasury (T.transfer recipient amount) s.token
  return { s with
    token
    treasury :=
      { s.treasury with
        usedDisbursementReference :=
          Function.update s.treasury.usedDisbursementReference disbursementRef true } }

def assetBalance (s : System T) : ℕ := T.balanceOf s.token d.treasury

end

end CreatorFirst.Settlement
