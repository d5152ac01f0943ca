import CreatorFirst.Sortition.Storage

/-!
# Operations of the sortition contract

Each function follows the source: the same checks in the same order, then the same writes. Rounds
and claims read the session from the governor, and a claim ends with a call of the governor; what
the governor rejects undoes the whole claim.
-/

namespace CreatorFirst.Sortition

open Chain

/-! ## Shared checks -/

def onlyRole (role : Bytes32) (sender : Address) (s : State) : Except Error Unit :=
  revertIf (s.roles role sender = false) (.access (.unauthorizedAccount sender role))

def requireHouse (house : Uint 8) : Except Error Unit :=
  revertIf (house ≠ CREATOR_HOUSE ∧ house ≠ USER_HOUSE) .invalidHouse

def validateHouseConfiguration (population primarySeats alternateSeats : Uint 32) :
    Except Error Unit :=
  revertIf (population = 0 ∨ primarySeats = 0 ∨
    (population : ℕ) < (primarySeats : ℕ) + (alternateSeats : ℕ)) .invalidConfiguration

/-- The value at a position of the sparse array: stored plus one, or the position itself. -/
def shuffleValue (s : State) (sessionId : Uint 256) (house : Uint 8) (position : Uint 32) :
    Except Error (Uint 32) :=
  let encoded := s.shuffleValues sessionId house position
  if encoded = 0 then .ok position else Uint.sub .arithmeticPanic encoded 1

/-- The governor's House for the number of a House. -/
def houseOf (house : Uint 8) : Governor.House :=
  if house = CREATOR_HOUSE then .creator else if house = USER_HOUSE then .user else .none

/-- The governor's decoding of its `House` argument, an enumeration of three values. -/
def decodeHouse (house : Uint 8) : Except Error Governor.House := do
  revertIf (USER_HOUSE < house) .invalidEnum
  return houseOf house

/-- The arguments of `createRound`. -/
structure RoundParams where
  sessionId : Uint 256
  eligibilitySnapshotHash : Bytes32
  randomnessRequestId : Bytes32
  eligibilityClosesAt : Uint 64
  claimDeadline : Uint 64
  creatorRoot : Bytes32
  creatorPopulation : Uint 32
  creatorPrimarySeats : Uint 32
  creatorAlternateSeats : Uint 32
  userRoot : Bytes32
  userPopulation : Uint 32
  userPrimarySeats : Uint 32
  userAlternateSeats : Uint 32
  deriving DecidableEq

/-- The arguments of `claimSeat`. -/
structure SeatClaim where
  sessionId : Uint 256
  house : Uint 8
  rank : Uint 32
  governanceIdCommitment : Bytes32
  votingWallet : Address
  eligibilityProof : List Bytes32
  deriving DecidableEq

section

variable (P : Primitives) (d : Deployment) (b : Block) (sender : Address)

/-! ## Rounds and their randomness -/

def createRound (params : RoundParams) (governor : Governor.State) (s : State) :
    Except Error State := do
  onlyRole (ROUND_MANAGER_ROLE P) sender s
  revertIf ((s.rounds params.sessionId).doesExist) (.roundAlreadyExists params.sessionId)
  revertIf (params.eligibilitySnapshotHash = 0 ∨ params.randomnessRequestId = 0 ∨
    params.creatorRoot = 0 ∨ params.userRoot = 0) .invalidConfiguration
  revertIf (s.requestSessionId params.randomnessRequestId ≠ 0)
    (.randomnessRequestAlreadyUsed params.randomnessRequestId)
  let session := governor.sessions params.sessionId
  revertIf (session.doesExist = false) (.invalidSession params.sessionId)
  revertIf ((params.eligibilityClosesAt : ℕ) ≤ b.timestamp ∨
    params.claimDeadline ≤ params.eligibilityClosesAt ∨ session.startsAt ≤ params.claimDeadline)
    .invalidTimeRange
  validateHouseConfiguration params.creatorPopulation params.creatorPrimarySeats
    params.creatorAlternateSeats
  validateHouseConfiguration params.userPopulation params.userPrimarySeats
    params.userAlternateSeats
  return { s with
    rounds := Function.update s.rounds params.sessionId
      { eligibilitySnapshotHash := params.eligibilitySnapshotHash
        randomnessRequestId := params.randomnessRequestId
        eligibilityClosesAt := params.eligibilityClosesAt
        claimDeadline := params.claimDeadline
        randomWord := 0
        randomnessFulfilled := false
        doesExist := true }
    houseConfigs :=
      update₂
        (update₂ s.houseConfigs params.sessionId CREATOR_HOUSE
          { eligibilityRoot := params.creatorRoot
            populationSize := params.creatorPopulation
            primarySeats := params.creatorPrimarySeats
            alternateSeats := params.creatorAlternateSeats
            selectedCount := 0
            activeRankLimit := params.creatorPrimarySeats })
        params.sessionId USER_HOUSE
        { eligibilityRoot := params.userRoot
          populationSize := params.userPopulation
          primarySeats := params.userPrimarySeats
          alternateSeats := params.userAlternateSeats
          selectedCount := 0
          activeRankLimit := params.userPrimarySeats }
    requestSessionId :=
      Function.update s.requestSessionId params.randomnessRequestId params.sessionId }

def fulfillRandomness (requestId : Bytes32) (randomWord : Uint 256) (s : State) :
    Except Error State := do
  onlyRole (RANDOMNESS_PROVIDER_ROLE P) sender s
  let sessionId := s.requestSessionId requestId
  let round := s.rounds sessionId
  revertIf (round.doesExist = false ∨ round.randomnessRequestId ≠ requestId)
    (.invalidSession sessionId)
  revertIf (b.timestamp < (round.eligibilityClosesAt : ℕ))
    (.eligibilityStillOpen round.eligibilityClosesAt)
  revertIf ((round.claimDeadline : ℕ) ≤ b.timestamp) (.claimWindowClosed round.claimDeadline)
  revertIf (round.randomnessFulfilled) (.randomnessAlreadyFulfilled sessionId)
  revertIf (randomWord = 0) .invalidConfiguration
  return { s with
    rounds := Function.update s.rounds sessionId
      { round with randomWord, randomnessFulfilled := true } }

/-! ## Selection -/

/-- The hash that decides the draw of one rank. -/
def drawHash (randomWord sessionId : Uint 256) (house : Uint 8) (rank : ℕ) : Bytes32 :=
  P.keccak256 (abiEncode [randomWord, sessionId, house, rank])

def finalizeNextSelection (sessionId : Uint 256) (house : Uint 8) (s : State) :
    Except Error (Uint 32 × Uint 32 × State) := do
  requireHouse house
  let round := s.rounds sessionId
  revertIf (round.doesExist = false) (.invalidSession sessionId)
  revertIf (round.randomnessFulfilled = false) (.randomnessMissing sessionId)
  let config := s.houseConfigs sessionId house
  let rank := config.selectedCount
  let totalSelections ← Uint.add .arithmeticPanic config.primarySeats config.alternateSeats
  revertIf (totalSelections ≤ rank) (.allSelectionsFinalized sessionId house)
  let remaining ← Uint.sub .arithmeticPanic config.populationSize rank
  let draw ← Uint.mod .divisionPanic (drawHash P round.randomWord sessionId house rank) remaining
  let randomPosition ← Uint.add .arithmeticPanic rank (Uint.truncate 32 draw)
  let candidateIndex ← shuffleValue s sessionId house randomPosition
  let rankValue ← shuffleValue s sessionId house rank
  let encodedValue ← Uint.increment .arithmeticPanic rankValue
  let encodedIndex ← Uint.increment .arithmeticPanic candidateIndex
  let selectedCount ← Uint.increment .arithmeticPanic rank
  return (rank, candidateIndex,
    { s with
      shuffleValues := update₃ s.shuffleValues sessionId house randomPosition encodedValue
      selectedIndexPlusOne := update₃ s.selectedIndexPlusOne sessionId house rank encodedIndex
      houseConfigs := update₂ s.houseConfigs sessionId house { config with selectedCount } })

/-! ## Seats -/

def eligibilityLeaf (candidateIndex : Uint 32) (governanceIdCommitment : Bytes32)
    (votingWallet : Address) : Bytes32 :=
  P.keccak256 (bigEndian 32
    (P.keccak256 (abiEncode [candidateIndex, governanceIdCommitment, votingWallet])))

def claimSeat (c : SeatClaim) (s : System) : Except Error System := do
  requireHouse c.house
  let round := s.sortition.rounds c.sessionId
  revertIf (round.doesExist = false) (.invalidSession c.sessionId)
  revertIf (sender ≠ c.votingWallet) (.votingWalletMismatch c.votingWallet sender)
  revertIf (c.governanceIdCommitment = 0 ∨ c.votingWallet = 0) .invalidConfiguration
  let config := s.sortition.houseConfigs c.sessionId c.house
  let session := s.governor.sessions c.sessionId
  revertIf (session.doesExist = false ∨ (session.startsAt : ℕ) ≤ b.timestamp)
    (.claimWindowClosed session.startsAt)
  revertIf (c.rank < config.primarySeats ∧ (round.claimDeadline : ℕ) < b.timestamp)
    (.claimWindowClosed round.claimDeadline)
  revertIf (config.activeRankLimit ≤ c.rank) (.rankNotActive c.rank config.activeRankLimit)
  let encodedIndex := s.sortition.selectedIndexPlusOne c.sessionId c.house c.rank
  revertIf (encodedIndex = 0) (.selectionMissing c.sessionId c.house c.rank)
  revertIf (s.sortition.rankClaimed c.sessionId c.house c.rank) (.rankAlreadyClaimed c.rank)
  revertIf (s.sortition.governanceIdentityUsed c.sessionId c.governanceIdCommitment)
    (.governanceIdentityAlreadyUsed c.governanceIdCommitment)
  let candidateIndex ← Uint.sub .arithmeticPanic encodedIndex 1
  let leaf := eligibilityLeaf P candidateIndex c.governanceIdCommitment c.votingWallet
  revertIf (P.verifyProof c.eligibilityProof config.eligibilityRoot leaf = false)
    .invalidEligibilityProof
  let sortition :=
    { s.sortition with
      rankClaimed := update₃ s.sortition.rankClaimed c.sessionId c.house c.rank true
      governanceIdentityUsed :=
        update₂ s.sortition.governanceIdentityUsed c.sessionId c.governanceIdCommitment true }
  let house ← decodeHouse c.house
  let governor ← (Governor.registerMember P b d.self c.sessionId c.votingWallet house
    s.governor).mapError .governor
  return ⟨governor, sortition⟩

def activateNextAlternate (sessionId : Uint 256) (house : Uint 8) (vacancyEvidenceHash : Bytes32)
    (s : State) : Except Error (Uint 32 × State) := do
  onlyRole (ROUND_MANAGER_ROLE P) sender s
  requireHouse house
  let round := s.rounds sessionId
  revertIf (round.doesExist = false) (.invalidSession sessionId)
  revertIf (b.timestamp ≤ (round.claimDeadline : ℕ)) .alternateActivationUnavailable
  revertIf (vacancyEvidenceHash = 0) .invalidEvidence
  let config := s.houseConfigs sessionId house
  let totalSelections ← Uint.add .arithmeticPanic config.primarySeats config.alternateSeats
  let rank := config.activeRankLimit
  revertIf (totalSelections ≤ rank ∨ config.selectedCount ≤ rank) .alternateActivationUnavailable
  let activeRankLimit ← Uint.increment .arithmeticPanic rank
  return (rank,
    { s with houseConfigs := update₂ s.houseConfigs sessionId house { config with activeRankLimit } })

end

end CreatorFirst.Sortition
