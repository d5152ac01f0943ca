import CreatorFirst.Relay.Operations

/-!
# The relayer of ballots

It casts the ballot of a member of a house, which the member has signed. The signature is checked
before the call reaches the map.
-/

namespace CreatorFirst.Relay

open Script

structure GovernanceConfig where
  chainId : ℕ
  governorAddress : String

/-- A call with its input, whether the relayer is ready, and the time in seconds. -/
structure GovernanceCall where
  input : Value
  available : Bool
  now : ℕ

structure Ballot where
  proposalId : ℕ
  sessionId : ℕ
  house : ℕ
  member : String
  intensity : ℤ
  nonce : ℕ
  deadline : ℕ
  signature : String
  deriving DecidableEq

structure GovernanceStatus where
  nonce : ℕ
  house : ℕ
  deriving DecidableEq

/-- The state of the ballot that `chain.relay` has cast. -/
structure BallotCast where
  transactionHash : String
  house : ℕ
  intensity : ℤ
  cost : ℕ
  deriving DecidableEq

inductive GovernanceReply where
  | status (answer : Except ChainError GovernanceStatus)
  | relayed (answer : Except ChainError BallotCast)

/-- `VOTE_CONFIRMED` -/
structure VoteConfirmed where
  member : String
  proposalId : ℕ
  house : ℕ
  intensity : ℤ
  cost : ℕ
  transactionHash : String
  deriving DecidableEq

section

variable (lib : Library) (config : GovernanceConfig)

def governanceBallotTypedData (value : Ballot) : Gateway.TypedData where
  domainName := "Creator First Bicameral Governor"
  domainVersion := "1"
  chainId := config.chainId
  verifyingContract := some config.governorAddress
  primaryType := "CfpBallot"
  types := [("proposalId", "uint256"), ("sessionId", "uint256"), ("house", "uint8"),
    ("member", "address"), ("intensity", "int8"), ("nonce", "uint256"), ("deadline", "uint256")]
  message := [("proposalId", toString value.proposalId), ("sessionId", toString value.sessionId),
    ("house", toString value.house), ("member", value.member),
    ("intensity", toString value.intensity), ("nonce", toString value.nonce),
    ("deadline", toString value.deadline)]

/-- `Number(input.house)`, one of the two. -/
def ballotHouse (value : Value) : Option ℕ :=
  if value.toNumber = .finite 1 then some 1 else if value.toNumber = .finite 2 then some 2 else none

def ballotIntensity (value : Value) : Option ℤ :=
  match value.toNumber with
  | .finite q => if q.den = 1 ∧ -9 ≤ q.num ∧ q.num ≤ 9 then some q.num else none
  | _ => none

def Ballot.payload (value : Ballot) : List (String × Scalar) :=
  [("proposalId", .string (toString value.proposalId)),
    ("sessionId", .string (toString value.sessionId)), ("house", .int value.house),
    ("member", .string value.member), ("intensity", .int value.intensity),
    ("nonce", .string (toString value.nonce)), ("deadline", .string (toString value.deadline)),
    ("signature", .string value.signature)]

/-- The signer of the ballot is its member. -/
def ballotSigned (value : Ballot) : Except Thrown Unit := do
  let recovered ← requireSome
    (lib.recoverTypedDataAddress (governanceBallotTypedData config value) value.signature)
    401 "BALLOT_SIGNATURE_INVALID" "Ballot signature is invalid"
  match lib.getAddress (.string recovered) with
  | none => .error (.other [])
  | some signer =>
    requireValue (signer = value.member)
      401 "BALLOT_SIGNER_MISMATCH" "Ballot signer does not match the member"

def governanceRequest (c : GovernanceCall) : Except Thrown (Request Ballot) := do
  requireValue c.available 503 "GOVERNANCE_RELAYER_NOT_READY"
    "Sponsored governance voting is not ready"
  let member ← requireSome (lib.getAddress (c.input.property "member"))
    400 "INVALID_MEMBER" "Member wallet address is invalid"
  let proposalId ← unsignedInteger (c.input.property "proposalId") "PROPOSAL_ID"
  let sessionId ← unsignedInteger (c.input.property "sessionId") "SESSION_ID"
  let nonce ← unsignedInteger (c.input.property "nonce") "NONCE"
  let deadline ← unsignedInteger (c.input.property "deadline") "DEADLINE"
  let house ← requireSome (ballotHouse (c.input.property "house"))
    400 "INVALID_HOUSE" "House must be creator or user"
  let intensity ← requireSome (ballotIntensity (c.input.property "intensity"))
    400 "INVALID_INTENSITY" "Vote intensity must be an integer from -9 to 9"
  requireValue (c.now ≤ deadline && deadline ≤ c.now + MAX_INTENT_LIFETIME_SECONDS)
    400 "INVALID_DEADLINE" "Ballot deadline is expired or too far in the future"
  let signature ← requireSome (hexText 130 (c.input.property "signature"))
    400 "INVALID_SIGNATURE" "Ballot signature is invalid"
  let key ← idempotencyKey c.input
  let value : Ballot :=
    ⟨proposalId, sessionId, house, member, intensity, nonce, deadline, signature⟩
  ballotSigned lib config value
  return ⟨member ++ ":" ++ key, value.payload, value⟩

def governanceStatus (value : Ballot) (before : GovernanceStatus) : Progress VoteConfirmed :=
  if before.house ≠ value.house then
    .settled (.error (.relayError 403 "MEMBERSHIP_MISMATCH"
      "Wallet is not a member of the selected House"))
  else if before.nonce ≠ value.nonce then
    .settled (.error (.relayError 409 "BALLOT_NONCE_MISMATCH" "Ballot nonce is no longer current"))
  else .awaits .sending

def voteConfirmed (value : Ballot) (cast : BallotCast) : VoteConfirmed where
  member := value.member
  proposalId := value.proposalId
  house := cast.house
  intensity := cast.intensity
  cost := cast.cost
  transactionHash := cast.transactionHash

def governanceRelayFailed (error : ChainError) : Thrown :=
  .relayError 502 "GOVERNANCE_RELAY_FAILED"
    (safeChainMessage "Polygon Amoy governance relay failed" error)

def governanceResume (value : Ballot) : Phase → GovernanceReply → Option (Progress VoteConfirmed)
  | .reading, .status (.ok before) => some (governanceStatus value before)
  | .reading, .status (.error e) => some (.settled (.error (.other e)))
  | .sending, .relayed (.ok cast) => some (.settled (.ok (voteConfirmed value cast)))
  | .sending, .relayed (.error e) => some (.settled (.error (governanceRelayFailed e)))
  | _, _ => none

/-- `GovernanceVoteRelayer` -/
def governanceRelayer : Relayer GovernanceCall Ballot GovernanceReply VoteConfirmed where
  request := governanceRequest lib config
  conflict := .relayError 409 "IDEMPOTENCY_CONFLICT" "Idempotency key was reused for another ballot"
  start _ := .awaits .reading
  resume := governanceResume

end

end CreatorFirst.Relay
