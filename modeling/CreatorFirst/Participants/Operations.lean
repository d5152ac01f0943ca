import CreatorFirst.Chain.AccessControl
import CreatorFirst.Chain.Contract

/-!
# The registry of participants

An approver records the claim of an invitation: an opaque participant id, a wallet and the roles it
may take. The wallet registers each role by a transaction of its own. The initial funding asks the
distributor of test coins, which may run the wallet's code; the registry notes that the funding is
completed once the distributor has returned, with its reentrancy guard set meanwhile. Events and the
texts of the notice are left out.
-/

namespace CreatorFirst.Participants

open Chain

structure Participant where
  wallet : Address
  approvedRoles : Uint 8
  registeredRoles : Uint 8
  approvedAt : Uint 64
  approvalExpiresAt : Uint 64
  active : Bool
  initialFundingCompleted : Bool
  deriving DecidableEq

def Participant.blank : Participant := ⟨0, 0, 0, 0, 0, false, false⟩

structure State where
  roles : Roles
  paused : Bool
  entered : Bool
  participants : Bytes32 → Participant
  participantIdByWallet : Address → Bytes32
  consentVersions : Bytes32 → Uint 8 → Bytes32

inductive Error where
  | access (e : AccessError)
  | foreignSender
  | nonPayable
  | enforcedPause
  | expectedPause
  | reentrantCall
  /-- The call of the distributor reverts. -/
  | registerAndTopUpFailed
  | invalidAddress
  | invalidIdentifier
  | invalidRoles (roles : Uint 8)
  | invalidExpiry (expiry : Uint 64)
  | participantAlreadyApproved (participantId : Bytes32)
  | walletAlreadyApproved (wallet : Address)
  | participantNotApproved (wallet : Address)
  | participantInactive (participantId : Bytes32)
  | approvalExpired (participantId : Bytes32) (expiredAt : Uint 64)
  | roleNotApproved (role : Uint 8)
  | roleAlreadyRegistered (role : Uint 8)
  | walletMismatch (expected actual : Address)
  | initialFundingAlreadyCompleted (participantId : Bytes32)
  deriving DecidableEq

/-- The registry as its constructor accepted it. -/
structure Deployment where
  self : Address
  admin : Address
  approver : Address
  distributor : Address
  admin_ne : admin ≠ 0
  approver_ne : approver ≠ 0
  distributor_ne : distributor ≠ 0

/-- The checks of the constructor. -/
def checkDeployment (admin approver distributorAddress : Address) : Except Error Unit :=
  revertIf (admin = 0 ∨ approver = 0 ∨ distributorAddress = 0) .invalidAddress

/-- The constructor accepts what a deployment is made of. -/
theorem Deployment.accepted (d : Deployment) :
    checkDeployment d.admin d.approver d.distributor = .ok () := by
  simp [checkDeployment, revertIf_eq_ok, d.admin_ne, d.approver_ne, d.distributor_ne]

def APPROVER_ROLE (P : Primitives) : Bytes32 := P.keccak256 (utf8 "APPROVER_ROLE")
def PAUSER_ROLE (P : Primitives) : Bytes32 := P.keccak256 (utf8 "PAUSER_ROLE")

def USER_ROLE : Uint 8 := 1
def CREATOR_ROLE : Uint 8 := 2
def ALL_ROLES : Uint 8 := USER_ROLE ||| CREATOR_ROLE

/-- The storage right after construction. -/
def initialState (P : Primitives) (d : Deployment) : State where
  roles := ((Roles.empty.grant Roles.DEFAULT_ADMIN_ROLE d.admin).grant
    (APPROVER_ROLE P) d.approver).grant (PAUSER_ROLE P) d.admin
  paused := false
  entered := false
  participants := fun _ ↦ .blank
  participantIdByWallet := fun _ ↦ 0
  consentVersions := fun _ _ ↦ 0

/-- An initial funding that the distributor has been asked for. -/
structure Funding where
  participantId : Bytes32
  wallet : Address
  operationId : Bytes32
  deriving DecidableEq

section

variable (P : Primitives) (b : Block) (sender : Address)

def onlyRole (role : Bytes32) (s : State) : Except Error Unit :=
  revertIf (s.roles role sender = false) (.access (.unauthorizedAccount sender role))

def isSingleRole (role : Uint 8) : Bool := role = USER_ROLE ∨ role = CREATOR_ROLE

def approveClaimedInvitation (participantId : Bytes32) (wallet : Address) (approvedRoles : Uint 8)
    (approvalExpiresAt : Uint 64) (s : State) : Except Error State := do
  onlyRole sender (APPROVER_ROLE P) s
  revertIf s.paused .enforcedPause
  revertIf (participantId = 0) .invalidIdentifier
  revertIf (wallet = 0) .invalidAddress
  revertIf (approvedRoles = 0 ∨ approvedRoles &&& Uint.complement ALL_ROLES ≠ 0)
    (.invalidRoles approvedRoles)
  revertIf ((approvalExpiresAt : ℕ) ≤ b.timestamp) (.invalidExpiry approvalExpiresAt)
  revertIf ((s.participants participantId).wallet ≠ 0) (.participantAlreadyApproved participantId)
  revertIf (s.participantIdByWallet wallet ≠ 0) (.walletAlreadyApproved wallet)
  let approvedAt := Uint.truncate 64 b.timestamp
  return { s with
    participants := Function.update s.participants participantId
      { wallet, approvedRoles, registeredRoles := 0, approvedAt, approvalExpiresAt, active := true,
        initialFundingCompleted := false }
    participantIdByWallet := Function.update s.participantIdByWallet wallet participantId }

/-- The source's `_activeApproval`. -/
def activeApproval (participantId : Bytes32) (s : State) : Except Error Participant := do
  let participant := s.participants participantId
  revertIf (participant.wallet = 0) (.participantNotApproved 0)
  revertIf (participant.active = false) (.participantInactive participantId)
  revertIf (participant.registeredRoles = 0 ∧ (participant.approvalExpiresAt : ℕ) < b.timestamp)
    (.approvalExpired participantId participant.approvalExpiresAt)
  return participant

/-- `fundInitial` up to its call of the distributor. -/
def fundInitial (participantId operationId : Bytes32) (s : State) :
    Except Error (Outcome State Funding) := do
  onlyRole sender (APPROVER_ROLE P) s
  revertIf s.paused .enforcedPause
  revertIf s.entered .reentrantCall
  revertIf (operationId = 0) .invalidIdentifier
  let participant ← activeApproval b participantId s
  revertIf participant.initialFundingCompleted (.initialFundingAlreadyCompleted participantId)
  return .callout { s with entered := true } ⟨participantId, participant.wallet, operationId⟩

/-- The rest of `fundInitial` once the distributor has returned. -/
def afterFunding (funding : Funding) (success : Bool) (s : State) : Except Error State := do
  revertIf (success = false) .registerAndTopUpFailed
  return { s with
    participants := Function.update s.participants funding.participantId
      { s.participants funding.participantId with initialFundingCompleted := true }
    entered := false }

def registerSelf (role : Uint 8) (consentVersion : Bytes32) (s : State) : Except Error State := do
  revertIf s.paused .enforcedPause
  revertIf (isSingleRole role = false ∨ consentVersion = 0) (.invalidRoles role)
  let participantId := s.participantIdByWallet sender
  revertIf (participantId = 0) (.participantNotApproved sender)
  let participant ← activeApproval b participantId s
  revertIf (participant.wallet ≠ sender) (.walletMismatch participant.wallet sender)
  revertIf (participant.approvedRoles &&& role = 0) (.roleNotApproved role)
  revertIf (participant.registeredRoles &&& role ≠ 0) (.roleAlreadyRegistered role)
  return { s with
    participants := Function.update s.participants participantId
      { participant with registeredRoles := participant.registeredRoles ||| role }
    consentVersions := update₂ s.consentVersions participantId role consentVersion }

def setParticipantActive (participantId : Bytes32) (active : Bool) (s : State) :
    Except Error State := do
  onlyRole sender (APPROVER_ROLE P) s
  let participant := s.participants participantId
  revertIf (participant.wallet = 0) (.participantNotApproved 0)
  return { s with
    participants := Function.update s.participants participantId { participant with active } }

def pause (s : State) : Except Error State := do
  onlyRole sender (PAUSER_ROLE P) s
  revertIf s.paused .enforcedPause
  return { s with paused := true }

def unpause (s : State) : Except Error State := do
  onlyRole sender (PAUSER_ROLE P) s
  revertIf (s.paused = false) .expectedPause
  return { s with paused := false }

/-! ## Views -/

def isClaimApproved (wallet : Address) (role : Uint 8) (s : State) : Bool :=
  if isSingleRole role = false then false
  else
    let participantId := s.participantIdByWallet wallet
    if participantId = 0 then false
    else
      let participant := s.participants participantId
      participant.active && b.timestamp ≤ participant.approvalExpiresAt &&
        participant.approvedRoles &&& role ≠ 0

def isRegistered (wallet : Address) (role : Uint 8) (s : State) : Bool :=
  if isSingleRole role = false then false
  else
    let participantId := s.participantIdByWallet wallet
    if participantId = 0 then false
    else
      let participant := s.participants participantId
      participant.active && participant.registeredRoles &&& role ≠ 0

end

end CreatorFirst.Participants
