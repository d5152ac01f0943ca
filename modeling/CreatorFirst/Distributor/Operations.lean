import CreatorFirst.Chain.AccessControl
import CreatorFirst.Chain.Contract

/-!
# The distributor of test coins

The gas station that tops up the wallets of registered participants. Its storage is modelled with the
coin balances of all accounts, since top-ups read and move them. A payment hands control to the
recipient, who may call back anything; the reentrancy guard is set meanwhile. Events are left out.
-/

namespace CreatorFirst.Distributor

open Chain

structure Participant where
  wallet : Address
  cumulativeDistributed : Uint 128
  registeredAt : Uint 64
  lastDistributedAt : Uint 64
  active : Bool
  deriving DecidableEq

def Participant.blank : Participant := ⟨0, 0, 0, 0, false⟩

structure State where
  roles : Roles
  paused : Bool
  entered : Bool
  participants : Bytes32 → Participant
  participantIdByWallet : Address → Bytes32
  usedOperationIds : Bytes32 → Bool
  distributedByDay : Uint 256 → Uint 256
  balances : Address → ℕ

inductive Error where
  | access (e : AccessError)
  | arithmeticPanic
  | nonPayable
  | foreignSender
  | notCovered
  | reentrantCall
  | enforcedPause
  | expectedPause
  | invalidAddress
  | invalidIdentifier
  | participantAlreadyRegistered (participantId : Bytes32)
  | walletAlreadyRegistered (wallet : Address)
  | participantNotActive (participantId : Bytes32)
  | walletMismatch (expected actual : Address)
  | operationAlreadyUsed (operationId : Bytes32)
  | invalidTargetBalance (targetBalance maximum : ℕ)
  | noTopUpNeeded (currentBalance targetBalance : ℕ)
  | cooldownActive (availableAt : ℕ)
  | lifetimeCapReached (participantId : Bytes32)
  | dailyBudgetExceeded (requested remaining : ℕ)
  | insufficientDistributorBalance (requested available : ℕ)
  | nativeTransferFailed (recipient : Address) (amount : ℕ)
  | invalidWithdrawal (requested available : ℕ)
  deriving DecidableEq

/-- The distributor as its constructor accepted it. -/
structure Deployment where
  self : Address
  admin : Address
  registrar : Address
  distributor : Address
  admin_ne : admin ≠ 0
  registrar_ne : registrar ≠ 0
  distributor_ne : distributor ≠ 0

/-- The checks of the constructor. -/
def checkDeployment (admin registrar distributor : Address) : Except Error Unit :=
  revertIf (admin = 0 ∨ registrar = 0 ∨ distributor = 0) .invalidAddress

/-- The constructor accepts what a deployment is made of. -/
theorem Deployment.accepted (d : Deployment) :
    checkDeployment d.admin d.registrar d.distributor = .ok () := by
  simp [checkDeployment, revertIf_eq_ok, d.admin_ne, d.registrar_ne, d.distributor_ne]

def REGISTRAR_ROLE (P : Primitives) : Bytes32 := P.keccak256 (utf8 "REGISTRAR_ROLE")
def DISTRIBUTOR_ROLE (P : Primitives) : Bytes32 := P.keccak256 (utf8 "DISTRIBUTOR_ROLE")
def PAUSER_ROLE (P : Primitives) : Bytes32 := P.keccak256 (utf8 "PAUSER_ROLE")

def INITIAL_TARGET_BALANCE : ℕ := 2 * 10 ^ 16
def MAX_TARGET_BALANCE : ℕ := 5 * 10 ^ 16
def MAX_PER_DISTRIBUTION : ℕ := 5 * 10 ^ 16
def LIFETIME_CAP_PER_PARTICIPANT : ℕ := 5 * 10 ^ 17
def DAILY_GLOBAL_BUDGET : ℕ := 10 ^ 18
def TOP_UP_COOLDOWN : ℕ := 600

/-- The storage right after construction, over the balances that the chain has then. -/
def initialState (P : Primitives) (d : Deployment) (balances : Address → ℕ) : State where
  roles := (((Roles.empty.grant Roles.DEFAULT_ADMIN_ROLE d.admin).grant
    (REGISTRAR_ROLE P) d.registrar).grant (DISTRIBUTOR_ROLE P) d.distributor).grant
    (PAUSER_ROLE P) d.admin
  paused := false
  entered := false
  participants := fun _ ↦ .blank
  participantIdByWallet := fun _ ↦ 0
  usedOperationIds := fun _ ↦ false
  distributedByDay := fun _ ↦ 0
  balances := balances

/-- A payment on its way to the recipient. -/
structure Payout where
  recipient : Address
  amount : ℕ
  deriving DecidableEq

section

variable (P : Primitives) (d : Deployment) (b : Block) (sender : Address)

def onlyRole (role : Bytes32) (s : State) : Except Error Unit :=
  revertIf (s.roles role sender = false) (.access (.unauthorizedAccount sender role))

/-- Checked subtraction. -/
def sub (x y : ℕ) : Except Error ℕ := if y ≤ x then .ok (x - y) else .error .arithmeticPanic

/-- Coins go from one account to another. -/
def transfer (payer recipient : Address) (amount : ℕ) (balances : Address → ℕ) : Address → ℕ :=
  let lowered := Function.update balances payer (balances payer - amount)
  Function.update lowered recipient (lowered recipient + amount)

def day (timestamp : ℕ) : Uint 256 := Uint.truncate 256 (timestamp / 86400)

/-! ## Top-ups -/

/-- The source's `_topUp` up to its payment. -/
def topUpCore (participantId : Bytes32) (wallet : Address) (targetBalance : ℕ)
    (operationId : Bytes32) (enforceCooldown : Bool) (s : State) : Except Error (ℕ × State) := do
  revertIf (operationId = 0) .invalidIdentifier
  revertIf (s.usedOperationIds operationId) (.operationAlreadyUsed operationId)
  let participant := s.participants participantId
  revertIf (participant.active = false) (.participantNotActive participantId)
  revertIf (participant.wallet ≠ wallet) (.walletMismatch participant.wallet wallet)
  revertIf (targetBalance = 0 ∨ MAX_TARGET_BALANCE < targetBalance)
    (.invalidTargetBalance targetBalance MAX_TARGET_BALANCE)
  let currentBalance := s.balances wallet
  revertIf (targetBalance ≤ currentBalance) (.noTopUpNeeded currentBalance targetBalance)
  revertIf (enforceCooldown = true ∧ participant.lastDistributedAt ≠ 0 ∧
      b.timestamp < participant.lastDistributedAt + TOP_UP_COOLDOWN)
    (.cooldownActive (participant.lastDistributedAt + TOP_UP_COOLDOWN))
  let remainingLifetime ← sub LIFETIME_CAP_PER_PARTICIPANT participant.cumulativeDistributed
  revertIf (remainingLifetime = 0) (.lifetimeCapReached participantId)
  let desired ← sub targetBalance currentBalance
  let amount := min desired (min MAX_PER_DISTRIBUTION remainingLifetime)
  let dailyDistributed := s.distributedByDay (day b.timestamp)
  let remainingDaily ← sub DAILY_GLOBAL_BUDGET dailyDistributed
  revertIf (remainingDaily < amount) (.dailyBudgetExceeded amount remainingDaily)
  revertIf (s.balances d.self < amount)
    (.insufficientDistributorBalance amount (s.balances d.self))
  let cumulativeDistributed ←
    Uint.add .arithmeticPanic participant.cumulativeDistributed (Uint.truncate 128 amount)
  let distributed ← Uint.fit .arithmeticPanic (dailyDistributed + amount)
  return (amount,
    { s with
      usedOperationIds := Function.update s.usedOperationIds operationId true
      participants := Function.update s.participants participantId
        { participant with
          cumulativeDistributed, lastDistributedAt := Uint.truncate 64 b.timestamp }
      distributedByDay := Function.update s.distributedByDay (day b.timestamp) distributed
      balances := transfer d.self wallet amount s.balances })

def registerAndTopUp (participantId : Bytes32) (wallet : Address) (operationId : Bytes32)
    (s : State) : Except Error (Outcome State Payout) := do
  onlyRole sender (REGISTRAR_ROLE P) s
  revertIf s.paused .enforcedPause
  revertIf s.entered .reentrantCall
  revertIf (participantId = 0 ∨ operationId = 0) .invalidIdentifier
  revertIf (wallet = 0) .invalidAddress
  revertIf ((s.participants participantId).wallet ≠ 0)
    (.participantAlreadyRegistered participantId)
  revertIf (s.participantIdByWallet wallet ≠ 0) (.walletAlreadyRegistered wallet)
  let s :=
    { s with
      participants := Function.update s.participants participantId
        { wallet, cumulativeDistributed := 0, registeredAt := Uint.truncate 64 b.timestamp,
          lastDistributedAt := 0, active := true }
      participantIdByWallet := Function.update s.participantIdByWallet wallet participantId }
  if s.balances wallet < INITIAL_TARGET_BALANCE then do
    let (amount, s) ← topUpCore d b participantId wallet INITIAL_TARGET_BALANCE operationId false s
    return .callout { s with entered := true } ⟨wallet, amount⟩
  else
    return .done
      { s with usedOperationIds := Function.update s.usedOperationIds operationId true }

def topUp (participantId : Bytes32) (wallet : Address) (targetBalance : Uint 256)
    (operationId : Bytes32) (s : State) : Except Error (Outcome State Payout) := do
  onlyRole sender (DISTRIBUTOR_ROLE P) s
  revertIf s.paused .enforcedPause
  revertIf s.entered .reentrantCall
  let (amount, s) ← topUpCore d b participantId wallet targetBalance operationId true s
  return .callout { s with entered := true } ⟨wallet, amount⟩

/-- The rest of a function once its payment has returned. -/
def afterPayout (payout : Payout) (success : Bool) (s : State) : Except Error State := do
  revertIf (success = false) (.nativeTransferFailed payout.recipient payout.amount)
  return { s with entered := false }

def setParticipantActive (participantId : Bytes32) (active : Bool) (s : State) :
    Except Error State := do
  onlyRole sender (REGISTRAR_ROLE P) s
  let participant := s.participants participantId
  revertIf (participant.wallet = 0) (.participantNotActive participantId)
  return { s with
    participants := Function.update s.participants participantId { participant with active } }

def previewTopUp (participantId : Bytes32) (wallet : Address) (targetBalance : Uint 256)
    (s : State) : Except Error ℕ := do
  let participant := s.participants participantId
  if participant.active = false then return 0
  else if participant.wallet ≠ wallet ∨ targetBalance = 0 ∨ MAX_TARGET_BALANCE < targetBalance then
    return 0
  else if targetBalance ≤ s.balances wallet then return 0
  else do
    let remainingLifetime ← sub LIFETIME_CAP_PER_PARTICIPANT participant.cumulativeDistributed
    let desired ← sub targetBalance (s.balances wallet)
    let todayRemaining ← sub DAILY_GLOBAL_BUDGET (s.distributedByDay (day b.timestamp))
    return min (min (min desired (min MAX_PER_DISTRIBUTION remainingLifetime)) todayRemaining)
      (s.balances d.self)

/-! ## Pausing, withdrawals and deposits -/

def pause (s : State) : Except Error State := do
  onlyRole sender (PAUSER_ROLE P) s
  revertIf s.paused .enforcedPause
  return { s with paused := true }

def unpause (s : State) : Except Error State := do
  onlyRole sender (PAUSER_ROLE P) s
  revertIf (s.paused = false) .expectedPause
  return { s with paused := false }

def emergencyWithdraw (recipient : Address) (amount : Uint 256) (s : State) :
    Except Error (Outcome State Payout) := do
  onlyRole sender Roles.DEFAULT_ADMIN_ROLE s
  revertIf (s.paused = false) .expectedPause
  revertIf s.entered .reentrantCall
  revertIf (recipient = 0) .invalidAddress
  revertIf (amount = 0 ∨ s.balances d.self < amount)
    (.invalidWithdrawal amount (s.balances d.self))
  return .callout
    { s with entered := true, balances := transfer d.self recipient amount s.balances }
    ⟨recipient, amount⟩

/-- The source's `receive`: the sender pays the distributor. -/
def receive (amount : ℕ) (s : State) : Except Error State := do
  revertIf (s.balances sender < amount) .notCovered
  return { s with balances := transfer sender d.self amount s.balances }

end

end CreatorFirst.Distributor
