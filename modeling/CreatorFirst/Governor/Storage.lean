import CreatorFirst.Chain.AccessControl
import CreatorFirst.Chain.Contract

/-!
# Storage of the bicameral governor

The enumerations, records, mappings, immutables and errors of the testnet governor.
-/

namespace CreatorFirst.Governor

open Chain

inductive House where
  | none
  | creator
  | user
  deriving DecidableEq, Repr

inductive ChangeClass where
  | none
  | p1Parameter
  | p2Upgrade
  | p3Constitutional
  deriving DecidableEq, Repr

inductive ProposalState where
  | none
  | pending
  | voting
  | awaitingFinalization
  | rejected
  | jointApproved
  | reviewed
  | timelocked
  | executed
  | cancelled
  | expired
  deriving DecidableEq, Repr

structure Session where
  ruleHash : Bytes32 := 0
  startsAt : Uint 64 := 0
  endsAt : Uint 64 := 0
  voiceCreditBudget : Uint 32 := 0
  creatorQuorum : Uint 32 := 0
  userQuorum : Uint 32 := 0
  doesExist : Bool := false
  deriving DecidableEq

structure Proposal where
  sessionId : Uint 256 := 0
  contentHash : Bytes32 := 0
  specificationHash : Bytes32 := 0
  manifestHash : Bytes32 := 0
  callDataHash : Bytes32 := 0
  target : Address := 0
  value : Uint 256 := 0
  votingStartsAt : Uint 64 := 0
  votingEndsAt : Uint 64 := 0
  executableAt : Uint 64 := 0
  expiresAt : Uint 64 := 0
  creatorScore : Sint 64 := 0
  userScore : Sint 64 := 0
  creatorParticipants : Uint 32 := 0
  userParticipants : Uint 32 := 0
  changeClass : ChangeClass := .none
  creatorApproved : Bool := false
  userApproved : Bool := false
  finalized : Bool := false
  reviewed : Bool := false
  queued : Bool := false
  executed : Bool := false
  cancelled : Bool := false
  deriving DecidableEq

structure Ballot where
  intensity : Sint 8 := 0
  cost : Uint 32 := 0
  cast : Bool := false
  deriving DecidableEq

structure PreVoteReview where
  charterEvidenceHash : Bytes32 := 0
  legalEvidenceHash : Bytes32 := 0
  assessmentHash : Bytes32 := 0
  recorded : Bool := false
  passed : Bool := false
  deriving DecidableEq

structure ContractTestEvidence where
  sourceHash : Bytes32 := 0
  artifactHash : Bytes32 := 0
  testSuiteHash : Bytes32 := 0
  testReportHash : Bytes32 := 0
  testedCallDataHash : Bytes32 := 0
  recorded : Bool := false
  passed : Bool := false
  deriving DecidableEq

/-- The arguments that both ways of registering a proposal share. -/
structure ProposalParams where
  sessionId : Uint 256
  contentHash : Bytes32
  specificationHash : Bytes32
  manifestHash : Bytes32
  changeClass : ChangeClass
  target : Address
  value : Uint 256
  callDataHash : Bytes32
  votingStartsAt : Uint 64
  votingEndsAt : Uint 64
  deriving DecidableEq

structure State where
  roles : Roles
  /-- Set while an execution is in progress. -/
  entered : Bool
  sessionCount : Uint 256
  proposalCount : Uint 256
  sessions : Uint 256 → Session
  memberHouse : Uint 256 → Address → House
  spentVoiceCredits : Uint 256 → Address → Uint 32
  proposals : Uint 256 → Proposal
  proposalCfpIdHash : Uint 256 → Bytes32
  proposalCfpRevision : Uint 256 → Uint 32
  cfpProposalId : Bytes32 → Uint 256
  ballots : Uint 256 → Address → Ballot
  votingNonces : Address → Uint 256
  constitutionalEvidenceHash : Uint 256 → Bytes32
  reviewEvidenceHash : Uint 256 → Bytes32
  preVoteReviews : Uint 256 → PreVoteReview
  contractTestEvidence : Uint 256 → ContractTestEvidence
  deliberationEvidenceHash : Uint 256 → House → Bytes32

inductive Error where
  | access (e : AccessError)
  | arithmeticPanic
  | nonPayable
  | reentrantCall
  | ecdsaInvalidSignature
  | invalidAddress
  | invalidConfiguration
  | invalidHash
  | invalidTimeRange
  | invalidSession (sessionId : Uint 256)
  | invalidProposal (proposalId : Uint 256)
  | invalidHouse
  | memberAlreadyRegistered (member : Address)
  | membershipClosed (sessionId : Uint 256)
  | votingClosed (proposalId : Uint 256)
  | invalidIntensity (intensity : Sint 8)
  | voiceCreditExceeded (budget attempted : Uint 32)
  | finalizationUnavailable (proposalId : Uint 256)
  | bicameralApprovalMissing (proposalId : Uint 256)
  | reviewMissing (proposalId : Uint 256)
  | constitutionalEvidenceMissing (proposalId : Uint 256)
  | proposalNotQueued (proposalId : Uint 256)
  | timelockNotMature (executableAt : Uint 64)
  | executionExpired (expiresAt : Uint 64)
  | manifestMismatch
  | wrongChain (expected : Uint 256) (actual : ℕ)
  | executionFailed
  | finalState (proposalId : Uint 256)
  | preVoteReviewMissing (proposalId : Uint 256)
  | preVoteReviewFailed (proposalId : Uint 256)
  | preVoteReviewAlreadyRecorded (proposalId : Uint 256)
  | deliberationEvidenceMissing (proposalId : Uint 256) (house : House)
  | deliberationAlreadyRecorded (proposalId : Uint 256) (house : House)
  | contractTestEvidenceMissing (proposalId : Uint 256)
  | contractTestFailed (proposalId : Uint 256)
  | contractTestEvidenceAlreadyRecorded (proposalId : Uint 256)
  | cfpBindingMissing (proposalId : Uint 256)
  | cfpRevisionAlreadyRegistered (cfpIdHash : Bytes32) (revision : Uint 32) (proposalId : Uint 256)
  | signatureExpired (deadline : Uint 256)
  | invalidVotingNonce (member : Address) (expected supplied : Uint 256)
  | invalidBallotContext
  | invalidBallotSigner (expected recovered : Address)
  deriving DecidableEq

/-- A governor the constructor accepted: its own address, first role holders and immutables. -/
structure Deployment where
  self : Address
  admin : Address
  registrar : Address
  reviewer : Address
  guardian : Address
  allowedChainId : Uint 256
  p1Delay : Uint 64
  p2Delay : Uint 64
  p3Delay : Uint 64
  executionWindow : Uint 64
  admin_ne : admin ≠ 0
  registrar_ne : registrar ≠ 0
  reviewer_ne : reviewer ≠ 0
  guardian_ne : guardian ≠ 0
  chain_ne : allowedChainId ≠ 0
  p1Delay_ne : p1Delay ≠ 0
  p1_le_p2 : p1Delay ≤ p2Delay
  p2_le_p3 : p2Delay ≤ p3Delay
  window_ne : executionWindow ≠ 0

/-- The constructor's checks. -/
def deploy (self admin registrar reviewer guardian : Address) (expectedChainId : Uint 256)
    (parameterDelay upgradeDelay constitutionalDelay operationWindow : Uint 64) :
    Except Error Deployment :=
  if ha : admin = 0 ∨ registrar = 0 ∨ reviewer = 0 ∨ guardian = 0 then .error .invalidAddress
  else if hc : expectedChainId = 0 ∨ parameterDelay = 0 ∨ upgradeDelay < parameterDelay ∨
      constitutionalDelay < upgradeDelay ∨ operationWindow = 0 then .error .invalidConfiguration
  else
    .ok
      { self, admin, registrar, reviewer, guardian
        allowedChainId := expectedChainId
        p1Delay := parameterDelay
        p2Delay := upgradeDelay
        p3Delay := constitutionalDelay
        executionWindow := operationWindow
        admin_ne := fun h ↦ ha (.inl h)
        registrar_ne := fun h ↦ ha (.inr (.inl h))
        reviewer_ne := fun h ↦ ha (.inr (.inr (.inl h)))
        guardian_ne := fun h ↦ ha (.inr (.inr (.inr h)))
        chain_ne := fun h ↦ hc (.inl h)
        p1Delay_ne := fun h ↦ hc (.inr (.inl h))
        p1_le_p2 := not_lt.mp fun h ↦ hc (.inr (.inr (.inl h)))
        p2_le_p3 := not_lt.mp fun h ↦ hc (.inr (.inr (.inr (.inl h))))
        window_ne := fun h ↦ hc (.inr (.inr (.inr (.inr h)))) }

/-! ## Role identifiers -/

def REGISTRAR_ROLE (P : Primitives) : Bytes32 := P.keccak256 (utf8 "REGISTRAR_ROLE")
def REVIEWER_ROLE (P : Primitives) : Bytes32 := P.keccak256 (utf8 "REVIEWER_ROLE")
def GUARDIAN_ROLE (P : Primitives) : Bytes32 := P.keccak256 (utf8 "GUARDIAN_ROLE")
def RELAYER_ROLE (P : Primitives) : Bytes32 := P.keccak256 (utf8 "RELAYER_ROLE")

def MAX_INTENSITY : ℕ := 9

/-- The storage right after construction. -/
def initialState (P : Primitives) (d : Deployment) : State where
  roles := (((Roles.empty.grant Roles.DEFAULT_ADMIN_ROLE d.admin).grant
    (REGISTRAR_ROLE P) d.registrar).grant (REVIEWER_ROLE P) d.reviewer).grant
    (GUARDIAN_ROLE P) d.guardian
  entered := false
  sessionCount := 0
  proposalCount := 0
  sessions := fun _ ↦ {}
  memberHouse := fun _ _ ↦ .none
  spentVoiceCredits := fun _ _ ↦ 0
  proposals := fun _ ↦ {}
  proposalCfpIdHash := fun _ ↦ 0
  proposalCfpRevision := fun _ ↦ 0
  cfpProposalId := fun _ ↦ 0
  ballots := fun _ _ ↦ {}
  votingNonces := fun _ ↦ 0
  constitutionalEvidenceHash := fun _ ↦ 0
  reviewEvidenceHash := fun _ ↦ 0
  preVoteReviews := fun _ ↦ {}
  contractTestEvidence := fun _ ↦ {}
  deliberationEvidenceHash := fun _ _ ↦ 0

end CreatorFirst.Governor
