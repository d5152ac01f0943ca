import CreatorFirst.Governor.Storage

/-!
# Operations of the bicameral governor

Each function follows the source: the same checks in the same order, then the same writes. Functions
that only read come last. `executeProposal` stops at its external call; what the target does and
the rest of the function are the business of the surrounding machine.
-/

namespace CreatorFirst.Governor

open Chain

/-! ## Shared checks -/

def onlyRole (role : Bytes32) (sender : Address) (s : State) : Except Error Unit :=
  revertIf (s.roles role sender = false) (.access (.unauthorizedAccount sender role))

def session (s : State) (sessionId : Uint 256) : Except Error Session := do
  revertIf ((s.sessions sessionId).doesExist = false) (.invalidSession sessionId)
  return s.sessions sessionId

def proposal (s : State) (proposalId : Uint 256) : Except Error Proposal := do
  revertIf ((s.proposals proposalId).sessionId = 0) (.invalidProposal proposalId)
  return s.proposals proposalId

def State.setProposal (s : State) (proposalId : Uint 256) (p : Proposal) : State :=
  { s with proposals := Function.update s.proposals proposalId p }

section

variable (P : Primitives) (d : Deployment) (b : Block) (sender : Address)

/-! ## Sessions, members and proposals -/

def createSession (ruleHash : Bytes32) (startsAt endsAt : Uint 64)
    (voiceCreditBudget creatorQuorum userQuorum : Uint 32) (s : State) :
    Except Error (Uint 256 × State) := do
  onlyRole (REGISTRAR_ROLE P) sender s
  revertIf (ruleHash = 0) .invalidHash
  revertIf ((startsAt : ℕ) ≤ b.timestamp ∨ endsAt ≤ startsAt) .invalidTimeRange
  revertIf (voiceCreditBudget = 0 ∨ creatorQuorum = 0 ∨ userQuorum = 0) .invalidConfiguration
  let sessionId ← Uint.increment .arithmeticPanic s.sessionCount
  return (sessionId,
    { s with
      sessionCount := sessionId
      sessions := Function.update s.sessions sessionId
        { ruleHash, startsAt, endsAt, voiceCreditBudget, creatorQuorum, userQuorum
          doesExist := true } })

def registerMember (sessionId : Uint 256) (member : Address) (house : House) (s : State) :
    Except Error State := do
  onlyRole (REGISTRAR_ROLE P) sender s
  let session ← session s sessionId
  revertIf ((session.startsAt : ℕ) ≤ b.timestamp) (.membershipClosed sessionId)
  revertIf (member = 0) .invalidAddress
  revertIf (house ≠ .creator ∧ house ≠ .user) .invalidHouse
  revertIf (s.memberHouse sessionId member ≠ .none) (.memberAlreadyRegistered member)
  return { s with memberHouse := update₂ s.memberHouse sessionId member house }

/-- `_registerProposal`. The record is written over the existing one field by field. -/
def registerProposalCore (params : ProposalParams) (s : State) :
    Except Error (Uint 256 × State) := do
  let session ← session s params.sessionId
  revertIf (params.contentHash = 0 ∨ params.specificationHash = 0 ∨ params.manifestHash = 0)
    .invalidHash
  revertIf (params.target = 0) .invalidAddress
  revertIf (params.callDataHash = 0) .invalidHash
  revertIf (params.changeClass = .none) .invalidConfiguration
  revertIf (params.votingStartsAt < session.startsAt ∨
    (params.votingStartsAt : ℕ) ≤ b.timestamp ∨ params.votingEndsAt ≤ params.votingStartsAt ∨
    session.endsAt < params.votingEndsAt) .invalidTimeRange
  let proposalId ← Uint.increment .arithmeticPanic s.proposalCount
  let proposal := s.proposals proposalId
  return (proposalId,
    { s with proposalCount := proposalId }.setProposal proposalId
      { proposal with
        sessionId := params.sessionId
        contentHash := params.contentHash
        specificationHash := params.specificationHash
        manifestHash := params.manifestHash
        callDataHash := params.callDataHash
        target := params.target
        value := params.value
        votingStartsAt := params.votingStartsAt
        votingEndsAt := params.votingEndsAt
        changeClass := params.changeClass })

def registerProposal (params : ProposalParams) (s : State) : Except Error (Uint 256 × State) := do
  onlyRole (REGISTRAR_ROLE P) sender s
  registerProposalCore b params s

def cfpRevisionKey (cfpIdHash : Bytes32) (revision : Uint 32) : Bytes32 :=
  P.keccak256 (abiEncode [cfpIdHash, revision])

def registerCfpProposal (cfpIdHash : Bytes32) (revision : Uint 32) (params : ProposalParams)
    (s : State) : Except Error (Uint 256 × State) := do
  onlyRole (REGISTRAR_ROLE P) sender s
  revertIf (cfpIdHash = 0 ∨ revision = 0) .invalidConfiguration
  let revisionKey := cfpRevisionKey P cfpIdHash revision
  let existingProposalId := s.cfpProposalId revisionKey
  revertIf (existingProposalId ≠ 0)
    (.cfpRevisionAlreadyRegistered cfpIdHash revision existingProposalId)
  let (proposalId, s) ← registerProposalCore b params s
  return (proposalId,
    { s with
      proposalCfpIdHash := Function.update s.proposalCfpIdHash proposalId cfpIdHash
      proposalCfpRevision := Function.update s.proposalCfpRevision proposalId revision
      cfpProposalId := Function.update s.cfpProposalId revisionKey proposalId })

/-! ## Voting -/

/-- The absolute intensity through the source's casts between `int8`, `uint8` and `uint32`. -/
def absoluteIntensity (intensity : Sint 8) : Except Error (Uint 32) :=
  if (intensity : ℤ) < 0 then do
    let negated ← Sint.neg .arithmeticPanic intensity
    return Uint.truncate 32 negated.toUint
  else return Uint.truncate 32 intensity.toUint

/-- Replace `old` by `new` in a running score. -/
def replaceScore (score : Sint 64) (old new : Sint 8) : Except Error (Sint 64) := do
  let reduced ← Sint.sub .arithmeticPanic score (old.widen (by decide))
  Sint.add .arithmeticPanic reduced (new.widen (by decide))

/-- The participant count after a ballot of a member who has, or has not, voted before. -/
def countParticipant (participants : Uint 32) (cast : Bool) : Except Error (Uint 32) :=
  if cast then return participants else Uint.increment .arithmeticPanic participants

/-- The tally of the member's House takes in the new intensity. -/
def tally (p : Proposal) (house : House) (ballot : Ballot) (intensity : Sint 8) :
    Except Error Proposal :=
  if house = .creator then do
    let participants ← countParticipant p.creatorParticipants ballot.cast
    let score ← replaceScore p.creatorScore ballot.intensity intensity
    return { p with creatorParticipants := participants, creatorScore := score }
  else do
    let participants ← countParticipant p.userParticipants ballot.cast
    let score ← replaceScore p.userScore ballot.intensity intensity
    return { p with userParticipants := participants, userScore := score }

/-- `_castVote`, which all three voting paths share. -/
def castVoteCore (proposalId : Uint 256) (intensity : Sint 8) (member : Address) (s : State) :
    Except Error State := do
  let p ← proposal s proposalId
  revertIf (p.finalized ∨ p.cancelled ∨ p.executed) (.finalState proposalId)
  revertIf (b.timestamp < p.votingStartsAt ∨ (p.votingEndsAt : ℕ) ≤ b.timestamp)
    (.votingClosed proposalId)
  let preVoteReview := s.preVoteReviews proposalId
  revertIf (preVoteReview.recorded = false) (.preVoteReviewMissing proposalId)
  revertIf (preVoteReview.passed = false) (.preVoteReviewFailed proposalId)
  revertIf (s.deliberationEvidenceHash proposalId .creator = 0)
    (.deliberationEvidenceMissing proposalId .creator)
  revertIf (s.deliberationEvidenceHash proposalId .user = 0)
    (.deliberationEvidenceMissing proposalId .user)
  revertIf ((intensity : ℤ) < -MAX_INTENSITY ∨ MAX_INTENSITY < (intensity : ℤ))
    (.invalidIntensity intensity)
  let house := s.memberHouse p.sessionId member
  revertIf (house ≠ .creator ∧ house ≠ .user) .invalidHouse
  let ballot := s.ballots proposalId member
  let absolute ← absoluteIntensity intensity
  let nextCost ← Uint.mul .arithmeticPanic absolute absolute
  let currentSpent := s.spentVoiceCredits p.sessionId member
  let refunded ← Uint.sub .arithmeticPanic currentSpent ballot.cost
  let nextSpent ← Uint.add .arithmeticPanic refunded nextCost
  let budget := (s.sessions p.sessionId).voiceCreditBudget
  revertIf (budget < nextSpent) (.voiceCreditExceeded budget nextSpent)
  let counted ← tally p house ballot intensity
  return { s.setProposal proposalId counted with
    ballots := update₂ s.ballots proposalId member { intensity, cost := nextCost, cast := true }
    spentVoiceCredits := update₂ s.spentVoiceCredits p.sessionId member nextSpent }

def castVote (proposalId : Uint 256) (intensity : Sint 8) (s : State) : Except Error State :=
  castVoteCore b proposalId intensity sender s

def castCfpApprovalVote (proposalId : Uint 256) (intensity : Sint 8) (s : State) :
    Except Error State := do
  revertIf (s.proposalCfpIdHash proposalId = 0) (.cfpBindingMissing proposalId)
  castVoteCore b proposalId intensity sender s

end

/-- The values a member signs for a relayed ballot. -/
structure CfpBallot where
  proposalId : Uint 256
  sessionId : Uint 256
  house : House
  member : Address
  intensity : Sint 8
  nonce : Uint 256
  deadline : Uint 256
  deriving DecidableEq

def House.toUint8 : House → ℕ
  | .none => 0
  | .creator => 1
  | .user => 2

section

variable (P : Primitives) (d : Deployment) (b : Block) (sender : Address)

def CFP_BALLOT_TYPEHASH : Bytes32 :=
  P.keccak256 (utf8 ("CfpBallot(uint256 proposalId,uint256 sessionId,uint8 house," ++
    "address member,int8 intensity,uint256 nonce,uint256 deadline)"))

/-- The typed-data domain of this governor on the chain of the current block. -/
def domainSeparator : Bytes32 :=
  P.keccak256 (abiEncode
    [P.keccak256 (utf8 ("EIP712Domain(string name,string version,uint256 chainId," ++
      "address verifyingContract)")),
     P.keccak256 (utf8 "Creator First Bicameral Governor"), P.keccak256 (utf8 "1"),
     b.chainId, d.self])

def hashTypedDataV4 (structHash : Bytes32) : Bytes32 :=
  P.keccak256 ([0x19, 0x01] ++ bigEndian 32 (domainSeparator P d b) ++ bigEndian 32 structHash)

def CfpBallot.digest (v : CfpBallot) : Bytes32 :=
  hashTypedDataV4 P d b (P.keccak256 (abiEncode
    [CFP_BALLOT_TYPEHASH P, v.proposalId, v.sessionId, v.house.toUint8, v.member,
     v.intensity.word, v.nonce, v.deadline]))

def castCfpApprovalVoteBySig (v : CfpBallot) (signature : Bytes) (s : State) :
    Except Error State := do
  onlyRole (RELAYER_ROLE P) sender s
  revertIf ((v.deadline : ℕ) < b.timestamp) (.signatureExpired v.deadline)
  let expectedNonce := s.votingNonces v.member
  revertIf (v.nonce ≠ expectedNonce) (.invalidVotingNonce v.member expectedNonce v.nonce)
  let p ← proposal s v.proposalId
  revertIf (p.sessionId ≠ v.sessionId ∨ s.memberHouse v.sessionId v.member ≠ v.house)
    .invalidBallotContext
  let recovered ← (P.recover (v.digest P d b) signature).elim (.error .ecdsaInvalidSignature) .ok
  revertIf (recovered ≠ v.member) (.invalidBallotSigner v.member recovered)
  let nextNonce ← Uint.increment .arithmeticPanic expectedNonce
  let s := { s with votingNonces := Function.update s.votingNonces v.member nextNonce }
  revertIf (s.proposalCfpIdHash v.proposalId = 0) (.cfpBindingMissing v.proposalId)
  castVoteCore b v.proposalId v.intensity v.member s

/-! ## Reviews and deliberation before the vote -/

def recordPreVoteReview (proposalId : Uint 256)
    (charterEvidenceHash legalEvidenceHash assessmentHash : Bytes32) (passed : Bool) (s : State) :
    Except Error State := do
  onlyRole (REVIEWER_ROLE P) sender s
  let p ← proposal s proposalId
  revertIf ((p.votingStartsAt : ℕ) ≤ b.timestamp) (.votingClosed proposalId)
  revertIf (charterEvidenceHash = 0 ∨ legalEvidenceHash = 0 ∨ assessmentHash = 0) .invalidHash
  revertIf ((s.preVoteReviews proposalId).recorded) (.preVoteReviewAlreadyRecorded proposalId)
  return { s with
    preVoteReviews := Function.update s.preVoteReviews proposalId
      { charterEvidenceHash, legalEvidenceHash, assessmentHash, recorded := true, passed } }

def recordHouseDeliberation (proposalId : Uint 256) (house : House) (evidenceHash : Bytes32)
    (s : State) : Except Error State := do
  onlyRole (REGISTRAR_ROLE P) sender s
  let p ← proposal s proposalId
  revertIf ((p.votingStartsAt : ℕ) ≤ b.timestamp) (.votingClosed proposalId)
  let review := s.preVoteReviews proposalId
  revertIf (review.recorded = false) (.preVoteReviewMissing proposalId)
  revertIf (review.passed = false) (.preVoteReviewFailed proposalId)
  revertIf (house ≠ .creator ∧ house ≠ .user) .invalidHouse
  revertIf (evidenceHash = 0) .invalidHash
  revertIf (s.deliberationEvidenceHash proposalId house ≠ 0)
    (.deliberationAlreadyRecorded proposalId house)
  return { s with
    deliberationEvidenceHash := update₂ s.deliberationEvidenceHash proposalId house evidenceHash }

/-! ## From the end of the vote to the queue -/

def finalizeProposal (proposalId : Uint 256) (s : State) : Except Error State := do
  let p ← proposal s proposalId
  revertIf (p.finalized ∨ p.cancelled ∨ p.executed) (.finalState proposalId)
  revertIf (b.timestamp < p.votingEndsAt) (.finalizationUnavailable proposalId)
  let session := s.sessions p.sessionId
  return s.setProposal proposalId { p with
    creatorApproved := session.creatorQuorum ≤ p.creatorParticipants ∧ 0 < (p.creatorScore : ℤ)
    userApproved := session.userQuorum ≤ p.userParticipants ∧ 0 < (p.userScore : ℤ)
    finalized := true }

def recordReview (proposalId : Uint 256) (evidenceHash : Bytes32) (s : State) :
    Except Error State := do
  onlyRole (REVIEWER_ROLE P) sender s
  let p ← proposal s proposalId
  revertIf (p.finalized = false ∨ p.creatorApproved = false ∨ p.userApproved = false)
    (.bicameralApprovalMissing proposalId)
  revertIf (p.cancelled ∨ p.executed ∨ p.queued) (.finalState proposalId)
  revertIf (evidenceHash = 0) .invalidHash
  let testEvidence := s.contractTestEvidence proposalId
  revertIf (testEvidence.recorded = false) (.contractTestEvidenceMissing proposalId)
  revertIf (testEvidence.passed = false) (.contractTestFailed proposalId)
  revertIf (p.changeClass = .p3Constitutional ∧ s.constitutionalEvidenceHash proposalId = 0)
    (.constitutionalEvidenceMissing proposalId)
  return { s.setProposal proposalId { p with reviewed := true } with
    reviewEvidenceHash := Function.update s.reviewEvidenceHash proposalId evidenceHash }

def recordContractTestEvidence (proposalId : Uint 256)
    (sourceHash artifactHash testSuiteHash testReportHash testedCallDataHash : Bytes32)
    (passed : Bool) (s : State) : Except Error State := do
  onlyRole (REVIEWER_ROLE P) sender s
  let p ← proposal s proposalId
  revertIf (p.finalized = false ∨ p.creatorApproved = false ∨ p.userApproved = false)
    (.bicameralApprovalMissing proposalId)
  revertIf (p.cancelled ∨ p.executed ∨ p.queued ∨ p.reviewed) (.finalState proposalId)
  revertIf (sourceHash = 0 ∨ artifactHash = 0 ∨ testSuiteHash = 0 ∨ testReportHash = 0 ∨
    testedCallDataHash = 0) .invalidHash
  revertIf (testedCallDataHash ≠ p.callDataHash) .manifestMismatch
  revertIf ((s.contractTestEvidence proposalId).recorded)
    (.contractTestEvidenceAlreadyRecorded proposalId)
  return { s with
    contractTestEvidence := Function.update s.contractTestEvidence proposalId
      { sourceHash, artifactHash, testSuiteHash, testReportHash, testedCallDataHash
        recorded := true
        passed } }

def recordConstitutionalEvidence (proposalId : Uint 256) (evidenceHash : Bytes32) (s : State) :
    Except Error State := do
  onlyRole (REVIEWER_ROLE P) sender s
  let p ← proposal s proposalId
  revertIf (p.finalized = false ∨ p.creatorApproved = false ∨ p.userApproved = false)
    (.bicameralApprovalMissing proposalId)
  revertIf (p.changeClass ≠ .p3Constitutional) .invalidConfiguration
  revertIf (p.reviewed ∨ p.queued ∨ p.cancelled ∨ p.executed) (.finalState proposalId)
  revertIf (evidenceHash = 0) .invalidHash
  return { s with
    constitutionalEvidenceHash :=
      Function.update s.constitutionalEvidenceHash proposalId evidenceHash }

def delayFor : ChangeClass → Except Error (Uint 64)
  | .p1Parameter => return d.p1Delay
  | .p2Upgrade => return d.p2Delay
  | .p3Constitutional => return d.p3Delay
  | .none => .error .invalidConfiguration

def queueProposal (proposalId : Uint 256) (s : State) : Except Error State := do
  let p ← proposal s proposalId
  revertIf (p.finalized = false ∨ p.creatorApproved = false ∨ p.userApproved = false)
    (.bicameralApprovalMissing proposalId)
  revertIf (p.reviewed = false) (.reviewMissing proposalId)
  revertIf (p.queued ∨ p.cancelled ∨ p.executed) (.finalState proposalId)
  let delay ← delayFor d p.changeClass
  let executableAt ← Uint.add .arithmeticPanic (Uint.truncate 64 b.timestamp) delay
  let expiresAt ← Uint.add .arithmeticPanic executableAt d.executionWindow
  return s.setProposal proposalId { p with executableAt, expiresAt, queued := true }

/-! ## Execution and cancellation -/

/-- The call an execution makes to the proposal's target. -/
structure TargetCall where
  proposalId : Uint 256
  target : Address
  value : Uint 256
  callData : Bytes
  deriving DecidableEq

/-- `executeProposal` up to its external call. -/
def executeProposal (value : Uint 256) (proposalId : Uint 256) (callData : Bytes) (s : State) :
    Except Error (Outcome State TargetCall) := do
  revertIf s.entered .reentrantCall
  let p ← proposal s proposalId
  revertIf (b.chainId ≠ d.allowedChainId) (.wrongChain d.allowedChainId b.chainId)
  revertIf (p.queued = false) (.proposalNotQueued proposalId)
  revertIf (p.cancelled ∨ p.executed) (.finalState proposalId)
  revertIf (b.timestamp < p.executableAt) (.timelockNotMature p.executableAt)
  revertIf ((p.expiresAt : ℕ) < b.timestamp) (.executionExpired p.expiresAt)
  revertIf (value ≠ p.value ∨ P.keccak256 callData ≠ p.callDataHash) .manifestMismatch
  return .callout ({ s with entered := true }.setProposal proposalId { p with executed := true })
    ⟨proposalId, p.target, p.value, callData⟩

/-- The rest of `executeProposal` once its target has returned. -/
def afterTargetCall (success : Bool) (s : State) : Except Error State := do
  revertIf (success = false) .executionFailed
  return { s with entered := false }

def cancelQueuedProposal (proposalId : Uint 256) (incidentHash : Bytes32) (s : State) :
    Except Error State := do
  onlyRole (GUARDIAN_ROLE P) sender s
  let p ← proposal s proposalId
  revertIf (p.queued = false) (.proposalNotQueued proposalId)
  revertIf (p.cancelled ∨ p.executed) (.finalState proposalId)
  revertIf (incidentHash = 0) .invalidHash
  return s.setProposal proposalId { p with cancelled := true }

/-! ## Views -/

def remainingVoiceCredits (sessionId : Uint 256) (member : Address) (s : State) :
    Except Error (Uint 32) := do
  let session ← session s sessionId
  Uint.sub .arithmeticPanic session.voiceCreditBudget (s.spentVoiceCredits sessionId member)

/-- Score, participants, quorum and approval of one House. -/
def houseResult (proposalId : Uint 256) (house : House) (s : State) :
    Except Error (Sint 64 × Uint 32 × Uint 32 × Bool) := do
  let p ← proposal s proposalId
  let session := s.sessions p.sessionId
  match house with
  | .creator =>
    return (p.creatorScore, p.creatorParticipants, session.creatorQuorum, p.creatorApproved)
  | .user => return (p.userScore, p.userParticipants, session.userQuorum, p.userApproved)
  | .none => .error .invalidHouse

def jointlyApproved (proposalId : Uint 256) (s : State) : Except Error Bool := do
  let p ← proposal s proposalId
  return p.finalized && p.creatorApproved && p.userApproved

/-- The state a proposal record shows at a block time. -/
def Proposal.stateAt (p : Proposal) (timestamp : ℕ) : ProposalState :=
  if p.executed then .executed
  else if p.cancelled then .cancelled
  else if p.queued ∧ (p.expiresAt : ℕ) < timestamp then .expired
  else if p.queued then .timelocked
  else if p.reviewed then .reviewed
  else if p.finalized ∧ p.creatorApproved ∧ p.userApproved then .jointApproved
  else if p.finalized then .rejected
  else if (p.votingEndsAt : ℕ) ≤ timestamp then .awaitingFinalization
  else if (p.votingStartsAt : ℕ) ≤ timestamp then .voting
  else .pending

def proposalState (proposalId : Uint 256) (s : State) : Except Error ProposalState := do
  let p ← proposal s proposalId
  return p.stateAt b.timestamp

end

end CreatorFirst.Governor
