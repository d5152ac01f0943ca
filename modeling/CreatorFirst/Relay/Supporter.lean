import CreatorFirst.Relay.Operations

/-!
# The relayer of support intents

It registers the holder of a wallet as a supporter of a creator, for a support intent that the holder
has signed.
-/

namespace CreatorFirst.Relay

open Script

structure SupporterConfig where
  chainId : ℕ
  supporterSbtAddress : String
  allowedCreatorIds : List String

/-- A call with its input and what it gets before it reaches the map: whether the relayer is ready, the
scope of the creator's record, if the chain has an active one, and the time in seconds. -/
structure SupporterCall where
  input : Value
  available : Bool
  registeredCreator : Except ChainError (Option String)
  now : ℕ

structure SupportIntent where
  holder : String
  creatorId : String
  nonce : ℕ
  deadline : ℕ
  consentVersion : String
  signature : String
  deriving DecidableEq

structure SupporterStatus where
  registered : Bool
  nonce : ℕ
  tokenId : ℕ
  tier : ℕ
  deriving DecidableEq

/-- What `chain.relay` gives: the transaction alone, or with the token that it made. -/
inductive SupporterRelayed where
  | submitted (transactionHash : String)
  | confirmed (transactionHash : String) (tokenId tier : ℕ)
  deriving DecidableEq

inductive SupporterReply where
  | recovered
  | status (answer : Except ChainError SupporterStatus)
  | relayed (answer : Except ChainError SupporterRelayed)

inductive SupporterResult where
  | sbtSubmitted (holder transactionHash : String)
  | sbtActive (holder : String) (tokenId tier : ℕ) (transactionHash : Option String)
      (alreadyActive : Bool)
  deriving DecidableEq

section

variable (lib : Library) (config : SupporterConfig)

def supportTypedData (value : SupportIntent) : Gateway.TypedData where
  domainName := "Creator First Supporter SBT"
  domainVersion := "1"
  chainId := config.chainId
  verifyingContract := some config.supporterSbtAddress
  primaryType := "SupportIntent"
  types := [("creatorId", "bytes32"), ("holder", "address"), ("nonce", "uint256"),
    ("deadline", "uint256"), ("consentVersion", "bytes32")]
  message := [("creatorId", value.creatorId), ("holder", value.holder),
    ("nonce", toString value.nonce), ("deadline", toString value.deadline),
    ("consentVersion", value.consentVersion)]

def bytes32 (value : Value) (name : String) : Except Thrown String :=
  requireSome (hexText 64 value) 400 ("INVALID_" ++ name) (name ++ " must be a bytes32 value")

/-- Whether the input names a registered creator, which then has to be the one of the intent. -/
def namesRegisteredCreator (c : SupporterCall) (creatorId : String) : Except Thrown Bool := do
  match c.input.property "registryCreatorId" with
  | .undefined | .null => return false
  | value =>
    let registryCreatorId ← unsignedInteger value "REGISTRY_CREATOR_ID"
    requireValue (registryCreatorId ≠ 0) 400 "INVALID_REGISTRY_CREATOR_ID"
      "REGISTRY_CREATOR_ID must be greater than zero"
    let registeredCreator ← c.registeredCreator.mapError .other
    requireValue (registeredCreator.any fun id ↦ id.toLower = creatorId.toLower)
      403 "CREATOR_NOT_REGISTERED" "The selected creator is not an active registered creator"
    return true

def SupportIntent.payload (value : SupportIntent) : List (String × Scalar) :=
  [("holder", .string value.holder), ("creatorId", .string value.creatorId.toLower),
    ("nonce", .string (toString value.nonce)), ("deadline", .string (toString value.deadline)),
    ("consentVersion", .string value.consentVersion.toLower),
    ("signature", .string value.signature.toLower)]

def supporterRequest (c : SupporterCall) : Except Thrown (Request SupportIntent) := do
  requireValue c.available 503 "SUPPORTER_RELAYER_NOT_READY"
    "Sponsored Supporter SBT registration is not ready"
  let holder ← requireSome (lib.getAddress (c.input.property "holder"))
    400 "INVALID_HOLDER" "Supporter wallet address is invalid"
  let creatorId ← bytes32 (c.input.property "creatorId") "CREATOR_ID"
  let consentVersion ← bytes32 (c.input.property "consentVersion") "CONSENT_VERSION"
  let registered ← namesRegisteredCreator c creatorId
  requireValue (config.allowedCreatorIds.any (·.toLower = creatorId.toLower) || registered)
    403 "CREATOR_NOT_SPONSORED" "This creator is not enabled for sponsored registration"
  let nonce ← unsignedInteger (c.input.property "nonce") "NONCE"
  let deadline ← unsignedInteger (c.input.property "deadline") "DEADLINE"
  requireValue (c.now ≤ deadline && deadline ≤ c.now + MAX_INTENT_LIFETIME_SECONDS)
    400 "INVALID_DEADLINE" "Support intent deadline is expired or too far in the future"
  let signature ← requireSome (hexText 130 (c.input.property "signature"))
    400 "INVALID_SIGNATURE" "Support intent signature is invalid"
  let key ← idempotencyKey c.input
  let value : SupportIntent := ⟨holder, creatorId, nonce, deadline, consentVersion, signature⟩
  return ⟨holder ++ ":" ++ key, value.payload, value⟩

/-- `#relay` behind the recovery of the signer. -/
def supporterRecovered (value : SupportIntent) : Progress SupporterResult :=
  match lib.recoverTypedDataAddress (supportTypedData config value) value.signature with
  | none => .settled (.error (.relayError 401 "SUPPORT_SIGNATURE_INVALID"
      "Support intent signature is invalid"))
  | some recovered =>
    match lib.getAddress (.string recovered) with
    | none => .settled (.error (.other []))
    | some signer =>
      if signer ≠ value.holder then
        .settled (.error (.relayError 401 "SUPPORT_SIGNER_MISMATCH"
          "Support intent signer does not match the holder"))
      else .awaits .reading

def supporterStatus (value : SupportIntent) (before : SupporterStatus) : Progress SupporterResult :=
  if before.registered = false then
    .settled (.error (.relayError 403 "PARTICIPANT_REGISTRATION_REQUIRED"
      "The wallet is not registered as a test listener"))
  else if 0 < before.tokenId then
    .settled (.ok (.sbtActive value.holder before.tokenId before.tier none true))
  else if before.nonce ≠ value.nonce then
    .settled (.error (.relayError 409 "SUPPORT_NONCE_MISMATCH"
      "Support intent nonce is no longer current"))
  else .awaits .sending

def supporterRelayFailed (error : ChainError) : Thrown :=
  .relayError 502 "SUPPORTER_RELAY_FAILED"
    (safeChainMessage "Polygon Amoy Supporter SBT relay failed" error)

def supporterRelayed (value : SupportIntent) : SupporterRelayed → Except Thrown SupporterResult
  | .submitted transactionHash => .ok (.sbtSubmitted value.holder transactionHash)
  | .confirmed transactionHash tokenId tier =>
    if tokenId = 0 then
      .error (supporterRelayFailed
        [{ message := some "Supporter SBT was not active after confirmation" }])
    else .ok (.sbtActive value.holder tokenId tier (some transactionHash) false)

def supporterResume (value : SupportIntent) :
    Phase → SupporterReply → Option (Progress SupporterResult)
  | .recovering, .recovered => some (supporterRecovered lib config value)
  | .reading, .status (.ok before) => some (supporterStatus value before)
  | .reading, .status (.error e) => some (.settled (.error (.other e)))
  | .sending, .relayed (.ok relayed) => some (.settled (supporterRelayed value relayed))
  | .sending, .relayed (.error e) => some (.settled (.error (supporterRelayFailed e)))
  | _, _ => none

/-- `SupporterSbtRelayer` -/
def supporterRelayer : Relayer SupporterCall SupportIntent SupporterReply SupporterResult where
  request := supporterRequest lib config
  conflict := .relayError 409 "IDEMPOTENCY_CONFLICT"
    "Idempotency key was reused for another support intent"
  start _ := .awaits .recovering
  resume := supporterResume lib config

end

end CreatorFirst.Relay
