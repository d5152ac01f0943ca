import CreatorFirst.Gateway.Accounts

/-!
# Support intents

An account with a verified wallet asks for a support intent for an artist, signs its typed data, and
polls until the registration is active. The account then holds the tier with the artist.
-/

namespace CreatorFirst.Gateway

open Database

inductive SupportStatus where
  | signatureRequired
  | confirming
  | sbtActive
  deriving DecidableEq, Repr

structure SupportIntent where
  requestId : String
  ownerId : AccountId
  address : String
  artistId : String
  typedData : TypedData
  deadline : ℕ
  status : SupportStatus := .signatureRequired
  tier : Tier := .none
  activateAt : ℕ := 0
  deriving DecidableEq

/-- `intent.status = 'CONFIRMING'`, with the tier and the time of the activation. -/
def SupportIntent.confirm (activateAt : ℕ) : Table.Rewrite SupportIntent.requestId where
  apply intent := { intent with status := .confirming, tier := .earlySupporter, activateAt }
  key_apply _ := rfl

/-- `intent.status = 'SBT_ACTIVE'` -/
def SupportIntent.activate : Table.Rewrite SupportIntent.requestId where
  apply intent := { intent with status := .sbtActive }
  key_apply _ := rfl

structure SupportIntentResult where
  requestId : String
  typedData : TypedData
  creatorName : String
  publicCredential : Bool := true
  nonTransferable : Bool := true
  gasSponsored : Bool := true
  paymentAuthorizationIncluded : Bool := false
  deriving DecidableEq

/-- The entry of a support request under its scope, which joins the account and the key. -/
structure SupportReply where
  scope : String
  hash : String
  response : SupportIntentResult
  deriving DecidableEq

/-- `artistName` of the tracks of the catalog. -/
def artistNames : List (String × String) := [("artist-ao", "AO"), ("artist-lumen", "Lumen")]

def verifyingContract : String := "0x0000000000000000000000000000000000005192"

/-- The body of `createSupportIntent`; the consent version is the text of its value, if it has one. -/
structure SupportBody where
  address : Option String
  idempotencyKey : Option String
  consentVersion : Option String

structure SupportDraws where
  requestId : String
  nonce : String

def supportTypedData (config : ServerConfig) (address artistId nonce : String) (deadline : ℕ) :
    TypedData where
  domainName := "Creator First Supporter Demo"
  domainVersion := "1"
  chainId := config.chainId
  verifyingContract := some verifyingContract
  primaryType := "SupportIntent"
  types := [("supporter", "address"), ("artistId", "string"), ("nonce", "bytes32"),
    ("deadline", "uint256"), ("consentVersion", "uint32")]
  message := [("supporter", address), ("artistId", artistId), ("nonce", "0x" ++ nonce),
    ("deadline", toString deadline), ("consentVersion", "1")]

/-- The key of `supportIdempotency` -/
def idempotencyScope (accountId : AccountId) (key : String) : String := accountId.text ++ ":" ++ key

section Handlers

variable (lib : Library) (config : ServerConfig) (now : Date) (profile : Profile)
  (accountId : AccountId)

/-- `createSupportIntent` before it reads the body. -/
def mayRequestSupport : Except Failure Unit := do
  let _ ← requireSome profile.walletAddress
    401 "WALLET_LINK_REQUIRED" "Connect and verify a Wallet first"

/-- The address, the name of the artist, and the scope and digest of the request. -/
structure SupportRequest where
  address : String
  artistName : String
  scope : String
  hash : String

/-- The checks on the body of `createSupportIntent`; `null` reads like a body without an address. -/
def supportRequest (artistId : String) (body : Except Failure SupportBody) :
    Except Failure SupportRequest := do
  let body ← body
  let address ← requireSome (body.address.bind lib.getAddress)
    400 "INVALID_WALLET_ADDRESS" "Wallet address is invalid"
  requireValue (profile.walletAddress = some address)
    403 "WALLET_LINK_MISMATCH" "Wallet does not match the Platform Session"
  let artistName ← requireSome (artistNames.lookup artistId)
    404 "ARTIST_NOT_FOUND" "Artist was not found"
  let key ← requireSome (body.idempotencyKey.filter fun key ↦ validKey key)
    400 "INVALID_IDEMPOTENCY_KEY" "A valid idempotencyKey is required"
  let consent := body.consentVersion.toList.map fun value ↦ ("consentVersion", value)
  return {
    address, artistName
    scope := idempotencyScope accountId key
    hash := lib.requestHash ([("artistId", artistId), ("address", address)] ++ consent) }

def newSupportIntent (artistId : String) (draws : SupportDraws) (request : SupportRequest) :
    SupportIntent :=
  let deadline := now.ms / 1000 + 300
  { requestId := draws.requestId
    ownerId := accountId
    address := request.address
    artistId
    typedData := supportTypedData config request.address artistId draws.nonce deadline
    deadline }

def supportResult (intent : SupportIntent) (request : SupportRequest) : SupportIntentResult where
  requestId := intent.requestId
  typedData := intent.typedData
  creatorName := request.artistName

/-- `submitSupport` before it reads the body: the intent it holds. -/
def maySubmitSupport (supportIntents : Table SupportIntent.requestId) (requestId : String) :
    Except Failure SupportIntent :=
  requireSome ((supportIntents.find? requestId).filter fun intent ↦
      intent.ownerId = accountId && now.ms < 1000 * intent.deadline)
    404 "SUPPORT_INTENT_NOT_FOUND" "Support intent was not found or expired"

/-- The signer of the typed data is the address of the intent. A body without a signature has none that
can be recovered. -/
def supportSigned (intent : SupportIntent) (body : Except Failure (Option String)) :
    Except Failure Unit := do
  let signature ← body
  let recovered ← requireSome (signature.bind (lib.recoverTypedDataAddress intent.typedData))
    401 "SUPPORT_SIGNATURE_INVALID" "Support signature is invalid"
  match lib.getAddress recovered with
  | none => .error .typeError
  | some signer =>
    requireValue (signer = intent.address)
      401 "SUPPORT_SIGNER_MISMATCH" "Support signer does not match"

def mayPollSupport (supportIntents : Table SupportIntent.requestId) (requestId : String) :
    Except Failure SupportIntent :=
  requireSome ((supportIntents.find? requestId).filter fun intent ↦ intent.ownerId = accountId)
    404 "SUPPORT_REGISTRATION_NOT_FOUND" "Support registration was not found"

/-- `account.tiers.set(intent.artistId, intent.tier)` -/
def Profile.setTier (profile : Profile) (artistId : String) (tier : Tier) : Profile :=
  { profile with tiers := (artistId, tier) :: profile.tiers }

end Handlers

end CreatorFirst.Gateway
