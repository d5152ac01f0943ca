import CreatorFirst.Governor.Machine

/-!
# Storage of the sortition contract

The records, mappings, immutables and errors of the contract that draws the members of both Houses
and registers them with the governor.
-/

namespace CreatorFirst.Sortition

open Chain

structure Round where
  eligibilitySnapshotHash : Bytes32 := 0
  randomnessRequestId : Bytes32 := 0
  eligibilityClosesAt : Uint 64 := 0
  claimDeadline : Uint 64 := 0
  randomWord : Uint 256 := 0
  randomnessFulfilled : Bool := false
  doesExist : Bool := false
  deriving DecidableEq

structure HouseConfig where
  eligibilityRoot : Bytes32 := 0
  populationSize : Uint 32 := 0
  primarySeats : Uint 32 := 0
  alternateSeats : Uint 32 := 0
  selectedCount : Uint 32 := 0
  activeRankLimit : Uint 32 := 0
  deriving DecidableEq

structure State where
  roles : Roles
  rounds : Uint 256 → Round
  houseConfigs : Uint 256 → Uint 8 → HouseConfig
  requestSessionId : Bytes32 → Uint 256
  shuffleValues : Uint 256 → Uint 8 → Uint 32 → Uint 32
  selectedIndexPlusOne : Uint 256 → Uint 8 → Uint 32 → Uint 32
  rankClaimed : Uint 256 → Uint 8 → Uint 32 → Bool
  governanceIdentityUsed : Uint 256 → Bytes32 → Bool

/-- The sortition contract together with the governor it is connected to. -/
structure System where
  governor : Governor.State
  sortition : State

inductive Error where
  | access (e : AccessError)
  | governor (e : Governor.Error)
  | arithmeticPanic
  | divisionPanic
  | invalidEnum
  | nonPayable
  | foreignSender
  | invalidAddress
  | invalidHouse
  | invalidConfiguration
  | invalidTimeRange
  | invalidSession (sessionId : Uint 256)
  | roundAlreadyExists (sessionId : Uint 256)
  | randomnessRequestAlreadyUsed (requestId : Bytes32)
  | eligibilityStillOpen (closesAt : Uint 64)
  | randomnessAlreadyFulfilled (sessionId : Uint 256)
  | randomnessMissing (sessionId : Uint 256)
  | allSelectionsFinalized (sessionId : Uint 256) (house : Uint 8)
  | selectionMissing (sessionId : Uint 256) (house : Uint 8) (rank : Uint 32)
  | rankNotActive (rank activeRankLimit : Uint 32)
  | rankAlreadyClaimed (rank : Uint 32)
  | claimWindowClosed (deadline : Uint 64)
  | invalidEligibilityProof
  | governanceIdentityAlreadyUsed (commitment : Bytes32)
  | votingWalletMismatch (expected actual : Address)
  | alternateActivationUnavailable
  | invalidEvidence
  deriving DecidableEq

/-- A sortition contract the constructor accepted: its own address, first role holders and the
governor it registers members with. -/
structure Deployment where
  self : Address
  admin : Address
  roundManager : Address
  randomnessProvider : Address
  governor : Governor.Deployment
  admin_ne : admin ≠ 0
  roundManager_ne : roundManager ≠ 0
  randomnessProvider_ne : randomnessProvider ≠ 0
  governor_ne : governor.self ≠ 0

/-- The constructor's check. -/
def deploy (self admin roundManager randomnessProvider : Address)
    (governor : Governor.Deployment) : Except Error Deployment :=
  if h : admin = 0 ∨ roundManager = 0 ∨ randomnessProvider = 0 ∨ governor.self = 0 then
    .error .invalidAddress
  else
    .ok
      { self, admin, roundManager, randomnessProvider, governor
        admin_ne := fun h' ↦ h (.inl h')
        roundManager_ne := fun h' ↦ h (.inr (.inl h'))
        randomnessProvider_ne := fun h' ↦ h (.inr (.inr (.inl h')))
        governor_ne := fun h' ↦ h (.inr (.inr (.inr h'))) }

def ROUND_MANAGER_ROLE (P : Primitives) : Bytes32 := P.keccak256 (utf8 "ROUND_MANAGER_ROLE")

def RANDOMNESS_PROVIDER_ROLE (P : Primitives) : Bytes32 :=
  P.keccak256 (utf8 "RANDOMNESS_PROVIDER_ROLE")

def CREATOR_HOUSE : Uint 8 := 1
def USER_HOUSE : Uint 8 := 2

/-- The storage right after construction. -/
def initialState (P : Primitives) (d : Deployment) : State where
  roles := ((Roles.empty.grant Roles.DEFAULT_ADMIN_ROLE d.admin).grant
    (ROUND_MANAGER_ROLE P) d.roundManager).grant (RANDOMNESS_PROVIDER_ROLE P) d.randomnessProvider
  rounds := fun _ ↦ {}
  houseConfigs := fun _ _ ↦ {}
  requestSessionId := fun _ ↦ 0
  shuffleValues := fun _ _ _ ↦ 0
  selectedIndexPlusOne := fun _ _ _ ↦ 0
  rankClaimed := fun _ _ _ ↦ false
  governanceIdentityUsed := fun _ _ ↦ false

end CreatorFirst.Sortition
