import CreatorFirst.Gateway.Invitations

/-!
# Signing in with a wallet

A challenge is a message that the wallet of an address has to sign. A challenge for an invitation names
the invitation, its roles and its consent in the message, and the verification leaves them on the
account.
-/

namespace CreatorFirst.Gateway

open Participation

structure Challenge where
  challengeId : String
  ownerId : AccountId
  address : String
  message : String
  participantInvitationProof : Option InvitationProof
  expiresAt : ℕ
  used : Bool := false
  deriving DecidableEq

/-- `challenge.used = true` -/
def Challenge.use : Database.Table.Rewrite Challenge.challengeId where
  apply challenge := { challenge with used := true }
  key_apply _ := rfl

/-- The body of `createChallenge`. The token is `none` when the field is missing, and `some none` when it
is not a string; `null` reads like a body without an address. -/
structure ChallengeBody where
  address : Option String
  chainId : Option ℕ
  invitationToken : Option (Option String) := none
  consent : Consent := {}

structure ChallengeDraws where
  challengeId : String
  nonce : String

def challengeTtlMs : ℕ := 5 * 60000

/-- The lines of a message that name an invitation. -/
def resources : Option InvitationProof → List String
  | none => []
  | some proof => [
    "Request ID: " ++ proof.invitationId,
    "Resources:",
    "- urn:cfp:participant-invitation:" ++ proof.invitationId,
    "- urn:cfp:participant-roles:" ++ toString proof.roles,
    "- urn:cfp:consent:" ++ proof.consentVersion]

def siweMessage (config : ServerConfig) (address nonce : String) (issuedAt expiresAt : Date)
    (proof : Option InvitationProof) : String :=
  "\n".intercalate ([
    config.publicDomain ++ " wants you to sign in with your Ethereum account:",
    address,
    "",
    if proof.isSome then
      "Authorize this Creator First public-experiment invitation, role set and consent."
    else "Creator First Gateway local demo sign-in.",
    "",
    "URI: " ++ config.publicUri,
    "Version: 1",
    "Chain ID: " ++ toString config.chainId,
    "Nonce: " ++ nonce,
    "Issued At: " ++ issuedAt.toText,
    "Expiration Time: " ++ expiresAt.toText] ++ resources proof)

section Handlers

variable (lib : Library) (config : ServerConfig) (now : Date)

/-- The invitation that a challenge is for, if its request has a token. -/
def challengeProof (p : Participation.State) (body : ChallengeBody) :
    Except Failure (Option InvitationProof) :=
  match body.invitationToken with
  | none => return none
  | some token => do
    let invitation ← p.inspect lib now token
    requireValue (invitation.expired = false ∧ invitation.invitation.state ≠ .revoked)
      409 "INVITATION_NOT_CLAIMABLE" "Invitation is expired or unavailable"
    requireValue (consentAccepted invitation.invitation.flowVersion body.consent = true)
      400 "INVITATION_CONSENT_REQUIRED"
      "The current participation acknowledgement is required before signing"
    return some {
      invitationId := invitation.invitation.invitationId
      roles := invitation.invitation.roleBits
      consentVersion := invitation.invitation.consentVersion }

def createChallenge (p : Participation.State) (accountId : AccountId) (draws : ChallengeDraws)
    (body : Except Failure ChallengeBody) : Except Failure Challenge := do
  let body ← body
  let address ← requireSome (body.address.bind lib.getAddress)
    400 "INVALID_WALLET_ADDRESS" "Wallet address is invalid"
  requireValue (body.chainId = some config.chainId) 400 "CHAIN_NOT_ALLOWED" "Chain is not allowed"
  let proof ← challengeProof lib now p body
  let expiresAt ← toISOString (now.ms + challengeTtlMs)
  return {
    challengeId := draws.challengeId
    ownerId := accountId
    address
    message := siweMessage config address draws.nonce now expiresAt proof
    participantInvitationProof := proof
    expiresAt := expiresAt.ms }

structure VerifyBody where
  challengeId : Option String
  message : Option String
  signature : Option String

/-- The checks of `verifyChallenge` before it waits for the signer; it holds the challenge. -/
def mayVerifyChallenge (challenges : Database.Table Challenge.challengeId) (accountId : AccountId)
    (body : Except Failure (Option VerifyBody)) : Except Failure (Challenge × String) := do
  match ← body with
  | none => .error .typeError
  | some body =>
    let challenge ← requireSome
      ((body.challengeId.bind challenges.find?).filter fun challenge ↦
        challenge.ownerId = accountId && !challenge.used && now.ms < challenge.expiresAt)
      401 "SIWE_CHALLENGE_INVALID" "Wallet challenge is invalid or expired"
    let signature ← requireSome
      (if body.message = some challenge.message then body.signature else none)
      401 "SIWE_MESSAGE_MISMATCH" "Signed message does not match the challenge"
    return (challenge, signature)

/-- The signer of the message is the address of the challenge. -/
def challengeSigned (challenge : Challenge) (signature : String) : Except Failure Unit := do
  let recovered ← requireSome (lib.recoverMessageAddress challenge.message signature)
    401 "SIWE_SIGNATURE_INVALID" "Wallet signature is invalid"
  match lib.getAddress recovered with
  | none => .error .typeError
  | some signer =>
    requireValue (signer = challenge.address)
      401 "SIWE_SIGNER_MISMATCH" "Wallet signer does not match the challenge"

/-- The account after the verification. -/
def Profile.signedIn (profile : Profile) (challenge : Challenge) : Profile :=
  { profile with
    walletAddress := some challenge.address
    participantInvitationProof := challenge.participantInvitationProof }

/-- `Demo 0x1234…abcd` -/
def accountLabel (address : String) : String :=
  "Demo " ++ String.ofList (address.toList.take 6) ++ "…" ++
    String.ofList (address.toList.drop (address.length - 4))

end Handlers

end CreatorFirst.Gateway
