import CreatorFirst.Chain.AccessControl
import CreatorFirst.Chain.Contract

/-!
# The registry of creators

Creators register themselves under the commitment to a profile, which no two of them may use at a
time, and declare releases that they may withdraw. Nothing in the registry calls another contract.
Events are left out.
-/

namespace CreatorFirst.Creators

open Chain

inductive ReleaseState where
  | none
  | declaredUnverified
  | withdrawn
  deriving DecidableEq

structure Creator where
  account : Address
  payoutAddress : Address
  profileCommitment : Bytes32
  registeredAt : Uint 64
  releaseCount : Uint 32
  active : Bool
  deriving DecidableEq

def Creator.blank : Creator := ⟨0, 0, 0, 0, 0, false⟩

structure Release where
  creatorId : Uint 256
  metadataCommitment : Bytes32
  rightsDeclarationCommitment : Bytes32
  declaredAt : Uint 64
  state : ReleaseState
  deriving DecidableEq

def Release.blank : Release := ⟨0, 0, 0, 0, .none⟩

structure State where
  roles : Roles
  paused : Bool
  creatorCount : Uint 256
  nextReleaseId : Uint 256
  creators : Uint 256 → Creator
  creatorIdByAccount : Address → Uint 256
  creatorIdByProfileCommitment : Bytes32 → Uint 256
  releases : Uint 256 → Release

inductive Error where
  | access (e : AccessError)
  | arithmeticPanic
  | nonPayable
  | enforcedPause
  | expectedPause
  | invalidAddress
  | invalidCommitment
  | creatorAlreadyRegistered (account : Address)
  | profileCommitmentAlreadyUsed (profileCommitment : Bytes32)
  | creatorNotRegistered (account : Address)
  | releaseNotActive (releaseId : Uint 256)
  | notReleaseCreator (releaseId creatorId : Uint 256)
  | nativeAssetRejected
  deriving DecidableEq

/-- The registry as its constructor accepted it. -/
structure Deployment where
  self : Address
  admin : Address
  admin_ne : admin ≠ 0

/-- The checks of the constructor. -/
def checkDeployment (admin : Address) : Except Error Unit := revertIf (admin = 0) .invalidAddress

/-- The constructor accepts what a deployment is made of. -/
theorem Deployment.accepted (d : Deployment) : checkDeployment d.admin = .ok () := by
  simp [checkDeployment, revertIf_eq_ok, d.admin_ne]

def PAUSER_ROLE (P : Primitives) : Bytes32 := P.keccak256 (utf8 "PAUSER_ROLE")

/-- The storage right after construction. -/
def initialState (P : Primitives) (d : Deployment) : State where
  roles := (Roles.empty.grant Roles.DEFAULT_ADMIN_ROLE d.admin).grant (PAUSER_ROLE P) d.admin
  paused := false
  creatorCount := 0
  nextReleaseId := 1
  creators := fun _ ↦ .blank
  creatorIdByAccount := fun _ ↦ 0
  creatorIdByProfileCommitment := fun _ ↦ 0
  releases := fun _ ↦ .blank

section

variable (P : Primitives) (b : Block) (sender : Address)

def onlyRole (role : Bytes32) (s : State) : Except Error Unit :=
  revertIf (s.roles role sender = false) (.access (.unauthorizedAccount sender role))

/-- The source's `_registeredCreatorId`. -/
def registeredCreatorId (account : Address) (s : State) : Except Error (Uint 256) := do
  let creatorId := s.creatorIdByAccount account
  revertIf (creatorId = 0) (.creatorNotRegistered account)
  return creatorId

def registerCreator (profileCommitment : Bytes32) (payoutAddress : Address) (s : State) :
    Except Error State := do
  revertIf s.paused .enforcedPause
  revertIf (profileCommitment = 0) .invalidCommitment
  revertIf (payoutAddress = 0) .invalidAddress
  revertIf (s.creatorIdByAccount sender ≠ 0) (.creatorAlreadyRegistered sender)
  revertIf (s.creatorIdByProfileCommitment profileCommitment ≠ 0)
    (.profileCommitmentAlreadyUsed profileCommitment)
  let creatorId ← Uint.increment .arithmeticPanic s.creatorCount
  return { s with
    creatorCount := creatorId
    creators := Function.update s.creators creatorId
      { account := sender, payoutAddress, profileCommitment,
        registeredAt := Uint.truncate 64 b.timestamp, releaseCount := 0, active := true }
    creatorIdByAccount := Function.update s.creatorIdByAccount sender creatorId
    creatorIdByProfileCommitment :=
      Function.update s.creatorIdByProfileCommitment profileCommitment creatorId }

def updateProfileCommitment (newCommitment : Bytes32) (s : State) : Except Error State := do
  revertIf s.paused .enforcedPause
  let creatorId ← registeredCreatorId sender s
  revertIf (newCommitment = 0) .invalidCommitment
  let existingCreatorId := s.creatorIdByProfileCommitment newCommitment
  revertIf (existingCreatorId ≠ 0 ∧ existingCreatorId ≠ creatorId)
    (.profileCommitmentAlreadyUsed newCommitment)
  let creator := s.creators creatorId
  let cleared :=
    Function.update s.creatorIdByProfileCommitment creator.profileCommitment 0
  return { s with
    creators := Function.update s.creators creatorId
      { creator with profileCommitment := newCommitment }
    creatorIdByProfileCommitment := Function.update cleared newCommitment creatorId }

def updatePayoutAddress (newAddress : Address) (s : State) : Except Error State := do
  revertIf s.paused .enforcedPause
  revertIf (newAddress = 0) .invalidAddress
  let creatorId ← registeredCreatorId sender s
  return { s with
    creators := Function.update s.creators creatorId
      { s.creators creatorId with payoutAddress := newAddress } }

def setActive (active : Bool) (s : State) : Except Error State := do
  revertIf s.paused .enforcedPause
  let creatorId ← registeredCreatorId sender s
  return { s with
    creators := Function.update s.creators creatorId { s.creators creatorId with active } }

def declareRelease (metadataCommitment rightsDeclarationCommitment : Bytes32) (s : State) :
    Except Error State := do
  revertIf s.paused .enforcedPause
  revertIf (metadataCommitment = 0 ∨ rightsDeclarationCommitment = 0) .invalidCommitment
  let creatorId ← registeredCreatorId sender s
  let creator := s.creators creatorId
  revertIf (creator.active = false) (.creatorNotRegistered sender)
  let releaseId := s.nextReleaseId
  let nextReleaseId ← Uint.increment .arithmeticPanic s.nextReleaseId
  let releaseCount ← Uint.increment .arithmeticPanic creator.releaseCount
  return { s with
    nextReleaseId
    releases := Function.update s.releases releaseId
      { creatorId, metadataCommitment, rightsDeclarationCommitment,
        declaredAt := Uint.truncate 64 b.timestamp, state := .declaredUnverified }
    creators := Function.update s.creators creatorId { creator with releaseCount } }

def withdrawRelease (releaseId : Uint 256) (s : State) : Except Error State := do
  revertIf s.paused .enforcedPause
  let creatorId ← registeredCreatorId sender s
  let release := s.releases releaseId
  revertIf (release.state ≠ .declaredUnverified) (.releaseNotActive releaseId)
  revertIf (release.creatorId ≠ creatorId) (.notReleaseCreator releaseId creatorId)
  return { s with
    releases := Function.update s.releases releaseId { release with state := .withdrawn } }

def isRegistered (account : Address) (s : State) : Bool := s.creatorIdByAccount account ≠ 0

def pause (s : State) : Except Error State := do
  onlyRole sender (PAUSER_ROLE P) s
  revertIf s.paused .enforcedPause
  return { s with paused := true }

def unpause (s : State) : Except Error State := do
  onlyRole sender (PAUSER_ROLE P) s
  revertIf (s.paused = false) .expectedPause
  return { s with paused := false }

end

end CreatorFirst.Creators
