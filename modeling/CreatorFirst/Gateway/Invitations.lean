import CreatorFirst.Gateway.Accounts

/-!
# Participant invitations

Invitations are created by an administrator or by the approval of an application. The token of an
invitation is known to the gateway as its hash only. It leaves the gateway in the answer to the
administrator and in the mails, which the transport delivers or loses, whatever it reports.
-/

namespace CreatorFirst.Gateway.Participation

open Database

def userRole : ℕ := 1

def creatorRole : ℕ := 2

def allRoles : ℕ := 3

inductive FlowVersion where
  | v1
  | v2
  deriving DecidableEq

def FlowVersion.consentVersion : FlowVersion → String
  | .v1 => "participant-experiment-v1"
  | .v2 => "participant-experiment-v2"

/-! ## The tables -/

inductive InvitationState where
  | created
  | sent
  | claimed
  | revoked
  deriving DecidableEq, Repr

structure Invitation where
  invitationId : String
  tokenHash : String
  email : String
  displayName : String
  roleBits : ℕ
  state : InvitationState := .created
  createdAt : Date
  expiresAt : Date
  sentAt : Option Date := none
  claimedAt : Option Date := none
  claimedWallet : Option String := none
  flowVersion : FlowVersion
  consentVersion : String
  resendCount : ℕ := 0
  resendWindowStartedAt : Option Date := none
  lastResendAt : Option Date := none
  deriving DecidableEq

inductive InvitationEventType where
  | created
  | emailSent
  | emailResent
  | emailResendFailed
  | claimed
  deriving DecidableEq

structure InvitationEvent where
  invitationId : String
  eventType : InvitationEventType
  occurredAt : Date
  deriving DecidableEq

inductive ApplicationState where
  | underReview
  | approvedInvitationSent
  | approvalDeliveryFailed
  | invitationClaimed
  | rejected
  deriving DecidableEq, Repr

inductive RejectionCode where
  | notInCurrentCohort
  | duplicateApplication
  | informationIncomplete
  deriving DecidableEq

structure Application where
  applicationId : String
  ownerId : AccountId
  email : String
  displayName : String
  roleBits : ℕ
  state : ApplicationState
  createdAt : Date
  verificationExpiresAt : Date
  verifiedAt : Option Date := none
  reviewedAt : Option Date := none
  invitationId : Option String := none
  rejectionCode : Option RejectionCode := none
  flowVersion : FlowVersion
  consentVersion : String
  deriving DecidableEq

inductive ApplicationEventType where
  | applicationCreated
  | approvalEmailFailed
  | applicationApproved
  | applicationRejected
  deriving DecidableEq

structure ApplicationEvent where
  applicationId : String
  eventType : ApplicationEventType
  occurredAt : Date
  invitationId : Option String := none
  rejectionCode : Option RejectionCode := none
  deriving DecidableEq

/-- What a request to send an invitation again is answered with. `delivery` is what the mailer returned,
as it is stored. -/
structure ResendResponse where
  invitationId : String
  state : InvitationState
  sentAt : Date
  delivery : String
  deriving DecidableEq

structure ResendRequest where
  invitationId : String
  idempotencyKey : String
  createdAt : Date
  response : ResendResponse
  deriving DecidableEq

def ResendRequest.key (r : ResendRequest) : String × String := (r.invitationId, r.idempotencyKey)

/-! ## Requests that wait for the mail transport -/

/-- An invitation mail that was handed to the transport. -/
structure Mail where
  invitationId : String
  token : String
  delivered : Bool := false
  deriving DecidableEq

/-- Where an approval stands: its mail is on the way, `send` has returned or thrown, or it has ended. -/
inductive Phase where
  | sending
  | sent
  | failed
  | ended
  deriving DecidableEq

structure Approval where
  applicationId : String
  invitationId : String
  reviewedAt : Date
  phase : Phase
  deriving DecidableEq

structure Rejection where
  applicationId : String
  rejectionCode : RejectionCode
  reviewedAt : Date
  ended : Bool := false
  deriving DecidableEq

structure Sending where
  invitationId : String
  ended : Bool := false
  deriving DecidableEq

structure Resending where
  invitationId : String
  idempotencyKey : String
  attemptedAt : Date
  ended : Bool := false
  deriving DecidableEq

/-- The tables, the requests that wait, the mails, and the tokens that an administrator was given. -/
structure State where
  invitations : Table Invitation.invitationId
  applications : Table Application.applicationId
  invitationEvents : List InvitationEvent
  applicationEvents : List ApplicationEvent
  resendRequests : Table ResendRequest.key
  approvals : List Approval
  rejections : List Rejection
  sendings : List Sending
  resendings : List Resending
  outbox : List Mail
  answered : List String

def State.empty : State := ⟨.empty, .empty, [], [], .empty, [], [], [], [], [], []⟩

/-- Somebody outside the gateway has the token. -/
def State.Known (p : State) (token : String) : Prop :=
  token ∈ p.answered ∨ ∃ mail ∈ p.outbox, mail.token = token ∧ mail.delivered = true

instance (p : State) (token : String) : Decidable (p.Known token) :=
  inferInstanceAs (Decidable (_ ∨ ∃ _ ∈ _, _))

section Statements

/-- `SET state = 'SENT', sent_at = ?` -/
def Invitation.markSent (sentAt : Date) : Table.Rewrite Invitation.invitationId where
  apply r := { r with state := .sent, sentAt := some sentAt }
  key_apply _ := rfl

/-- `SET token_hash = ?, expires_at = ?` -/
def Invitation.rotate (tokenHash : String) (expiresAt : Date) :
    Table.Rewrite Invitation.invitationId where
  apply r := { r with tokenHash, expiresAt }
  key_apply _ := rfl

def Invitation.markResent (sentAt windowStartedAt : Date) (resendCount : ℕ) :
    Table.Rewrite Invitation.invitationId where
  apply r :=
    { r with
      sentAt := some sentAt
      lastResendAt := some sentAt
      resendWindowStartedAt := some windowStartedAt
      resendCount }
  key_apply _ := rfl

/-- `SET state = 'CLAIMED', claimed_wallet = ?, claimed_at = ?` -/
def Invitation.claim (wallet : String) (claimedAt : Date) : Table.Rewrite Invitation.invitationId where
  apply r := { r with state := .claimed, claimedWallet := some wallet, claimedAt := some claimedAt }
  key_apply _ := rfl

/-- `SET state = 'INVITATION_CLAIMED'`, and the missing times. -/
def Application.claim (claimedAt : Date) : Table.Rewrite Application.applicationId where
  apply r :=
    { r with
      state := .invitationClaimed
      verifiedAt := r.verifiedAt <|> some claimedAt
      reviewedAt := r.reviewedAt <|> some claimedAt }
  key_apply _ := rfl

variable (p : State)

def State.invitation (invitationId : String) : Option Invitation := p.invitations.find? invitationId

def State.invitationByTokenHash (tokenHash : String) : Option Invitation :=
  p.invitations.rows.find? fun r ↦ r.tokenHash = tokenHash

/-- `token_hash` is unique too. -/
def State.createInvitationRow (row : Invitation) : Option (Table Invitation.invitationId) :=
  if (p.invitationByTokenHash row.tokenHash).isSome then none else p.invitations.insert row

def State.markInvitationSent (invitationId : String) (sentAt : Date) : Table Invitation.invitationId :=
  p.invitations.update invitationId (fun r ↦ r.state = .created ∨ r.state = .sent)
    (Invitation.markSent sentAt)

def State.recordInvitationEvent (invitationId : String) (eventType : InvitationEventType)
    (occurredAt : Date) : List InvitationEvent :=
  p.invitationEvents ++ [⟨invitationId, eventType, occurredAt⟩]

/-- Hand a mail to the transport. -/
def State.mail (invitationId token : String) : State :=
  { p with outbox := p.outbox ++ [{ invitationId, token }] }

end Statements

section Contact

/-- White space of the language, which `trim` removes and `\s` matches. -/
def isSpace (c : Char) : Bool :=
  c.toNat ∈ [9, 10, 11, 12, 13, 32, 0xa0, 0x1680, 0x2028, 0x2029, 0x202f, 0x205f, 0x3000, 0xfeff] ||
    (0x2000 ≤ c.toNat && c.toNat ≤ 0x200a)

def trim (text : String) : String :=
  String.ofList ((text.toList.dropWhile isSpace).reverse.dropWhile isSpace).reverse

/-- `/^[^\s@]+@[^\s@]+\.[^\s@]+$/`: one `@`, no white space, and a dot inside the domain. -/
def emailPattern (email : String) : Bool :=
  let localPart := email.toList.takeWhile (· ≠ '@')
  let domain := (email.toList.dropWhile (· ≠ '@')).drop 1
  email.toList.count '@' = 1 && email.toList.all (fun c ↦ !isSpace c) && localPart ≠ [] &&
    (domain.drop 1).dropLast.contains '.'

structure Contact where
  email : String
  displayName : String
  roles : ℕ

/-- The checks that an invitation and an application have in common. `roles` is the number that the field
stands for, if it is a natural number. -/
def contact (lib : Library) (kind rolesMessage : String) (email displayName : Option String)
    (roles : Option ℕ) : Except Failure Contact := do
  let email := (email.map fun text ↦ lib.toLowerCase (trim text)).getD ""
  let displayName := (displayName.map fun text ↦ lib.normalizeNFKC (trim text)).getD ""
  requireValue (emailPattern email = true ∧ utf16Length email ≤ 254)
    400 ("INVALID_" ++ kind ++ "_EMAIL") "A valid email address is required"
  requireValue (2 ≤ utf16Length displayName ∧ utf16Length displayName ≤ 80)
    400 ("INVALID_" ++ kind ++ "_NAME") "Display name must be 2–80 characters"
  let roles ← requireSome (roles.filter fun roles ↦ roles ∈ [userRole, creatorRole, allRoles])
    400 ("INVALID_" ++ kind ++ "_ROLES") rolesMessage
  return { email, displayName, roles }

end Contact

/-! ## The invitation service -/

/-- The body of a request to create an invitation. `expiresInHours` is the number that the field stands
for, if it is a natural number, and 72 when the field is missing. -/
structure InvitationBody where
  email : Option String
  displayName : Option String
  roles : Option ℕ
  expiresInHours : Option ℕ := some 72
  flowVersion : FlowVersion

structure InvitationDraws where
  invitationId : String
  token : String

section Service

variable (lib : Library) (now : Date) (p : State)

def newInvitation (draws : InvitationDraws) (contact : Contact) (flowVersion : FlowVersion)
    (expiresAt : Date) : Invitation where
  invitationId := draws.invitationId
  tokenHash := lib.tokenHash draws.token
  email := contact.email
  displayName := contact.displayName
  roleBits := contact.roles
  createdAt := now
  expiresAt := expiresAt
  flowVersion := flowVersion
  consentVersion := flowVersion.consentVersion

/-- `create` -/
def State.createInvitation (draws : InvitationDraws) (body : InvitationBody) : Except Failure State := do
  let contact ← contact lib "INVITATION" "User, creator or both roles are required" body.email
    body.displayName body.roles
  let hours ← requireSome (body.expiresInHours.filter fun hours ↦ 1 ≤ hours ∧ hours ≤ 24 * 30)
    400 "INVALID_INVITATION_EXPIRY" "Expiry must be between 1 and 720 hours"
  let expiresAt ← toISOString (now.ms + hours * 3600000)
  match p.createInvitationRow (newInvitation lib now draws contact body.flowVersion expiresAt) with
  | none => .error .constraint
  | some invitations =>
    return { p with
      invitations
      invitationEvents := p.recordInvitationEvent draws.invitationId .created now }

/-- The checks of `send` before the mail. -/
def State.maySend (invitationId token : String) : Except Failure Invitation := do
  let row ← requireSome (p.invitation invitationId)
    404 "INVITATION_NOT_FOUND" "Invitation was not found"
  requireValue (row.state ≠ .claimed ∧ row.state ≠ .revoked ∧ now.ms < row.expiresAt.ms)
    409 "INVITATION_NOT_SENDABLE" "Invitation is claimed, revoked or expired"
  requireValue (token ≠ "" ∧ lib.tokenHash token = row.tokenHash) 400 "INVITATION_TOKEN_REQUIRED"
    "The one-time token returned at creation is required to send this invitation"
  return row

/-- The rest of `send`, after the mail. -/
def State.invitationSent (invitationId : String) : State :=
  { p with
    invitations := p.markInvitationSent invitationId now
    invitationEvents := p.recordInvitationEvent invitationId .emailSent now }

def firstResendDelayMs : ℕ := 5 * 60000

def resendCooldownMs : ℕ := 10 * 60000

def resendWindowMs : ℕ := 24 * 60 * 60000

def maxResendsPerWindow : ℕ := 3

/-- The start of the window an invitation may be sent again in, and how often it was. -/
def resendWindow (row : Invitation) : Date × ℕ :=
  match row.resendWindowStartedAt with
  | some start => if start.ms + resendWindowMs ≤ now.ms then (now, 0) else (start, row.resendCount)
  | none => (now, 0)

/-- `resendAvailability`: the window and the count, if the invitation may be sent again now. -/
def resendAvailability (row : Invitation) : Except Failure (Option (Date × ℕ)) :=
  if row.state ≠ .sent ∨ row.expiresAt.ms ≤ now.ms then return none
  else
    let (windowStart, resendCount) := resendWindow now row
    if maxResendsPerWindow ≤ resendCount then do
      let _ ← toISOString (windowStart.ms + resendWindowMs)
      return none
    else do
      let lastSend := (row.lastResendAt <|> row.sentAt).getD row.createdAt
      let delay := if row.lastResendAt.isSome then resendCooldownMs else firstResendDelayMs
      let _ ← toISOString (lastSend.ms + delay)
      return if lastSend.ms + delay ≤ now.ms then some (windowStart, resendCount) else none

/-- What comes of `resend` up to the mail: the answer of an earlier request, or a request that waits. -/
inductive Resend where
  | replay (response : ResendResponse)
  | waiting (p : State)

def Resend.state (p : State) : Resend → State
  | .replay _ => p
  | .waiting p' => p'

/-- `resend` up to the mail -/
def State.resend (invitationId : String) (idempotencyKey : Option String) (token : String) :
    Except Failure Resend := do
  let key ← requireSome (idempotencyKey.filter fun key ↦ validKey key)
    400 "INVALID_IDEMPOTENCY_KEY" "A valid Idempotency-Key header is required"
  match p.resendRequests.find? (invitationId, key) with
  | some replay => return .replay replay.response
  | none =>
    let row ← requireSome (p.invitation invitationId)
      404 "INVITATION_NOT_FOUND" "Invitation was not found"
    let (windowStart, resendCount) ← requireSome (← resendAvailability now row)
      429 "INVITATION_RESEND_NOT_AVAILABLE" "Invitation email cannot be resent yet"
    if (p.invitationByTokenHash (lib.tokenHash token)).isSome then .error .constraint
    else
      let rotated := p.invitations.update invitationId (fun r ↦ r.state = .sent)
        (Invitation.rotate (lib.tokenHash token) row.expiresAt)
      requireValue (p.invitations.changes invitationId (fun r ↦ r.state = .sent) = 1)
        409 "INVITATION_NOT_SENDABLE" "Invitation is claimed, revoked or expired"
      let invitations := rotated.update invitationId (fun r ↦ r.state = .sent)
        (Invitation.markResent now windowStart (resendCount + 1))
      let waiting : Resending := { invitationId, idempotencyKey := key, attemptedAt := now }
      let p := { p with invitations, resendings := p.resendings ++ [waiting] }
      return .waiting (p.mail invitationId token)

/-- The rest of `resend`; a repeated key makes its record fail after the event was written. -/
def State.resent (r : Resending) (delivery : Option String) : State :=
  let event (p : State) (eventType : InvitationEventType) : State :=
    { p with invitationEvents := p.recordInvitationEvent r.invitationId eventType r.attemptedAt }
  match delivery with
  | some delivery =>
    let p := event p .emailResent
    let result : ResendResponse := ⟨r.invitationId, .sent, r.attemptedAt, delivery⟩
    match p.resendRequests.insert ⟨r.invitationId, r.idempotencyKey, r.attemptedAt, result⟩ with
    | some resendRequests => { p with resendRequests }
    | none => event p .emailResendFailed
  | none => event p .emailResendFailed

/-- What `inspect` shows of an invitation. -/
structure Inspection where
  invitation : Invitation
  expired : Bool

/-- `inspect`; the token is `none` unless it is a string. -/
def State.inspect (token : Option String) : Except Failure Inspection := do
  let token ← requireSome (token.filter fun token ↦ 32 ≤ utf16Length token ∧ utf16Length token ≤ 128)
    404 "INVITATION_NOT_FOUND" "Invitation was not found"
  let row ← requireSome (p.invitationByTokenHash (lib.tokenHash token))
    404 "INVITATION_NOT_FOUND" "Invitation was not found"
  return ⟨row, row.expiresAt.ms ≤ now.ms⟩

/-- The fields of a body that tell of consent. -/
structure Consent where
  acceptedParticipation : Bool := false
  acceptedTerms : Bool := false
  acknowledgedTestOnly : Bool := false

def consentAccepted (flowVersion : FlowVersion) (body : Consent) : Bool :=
  match flowVersion with
  | .v2 => body.acceptedParticipation
  | .v1 => body.acceptedParticipation || (body.acceptedTerms && body.acknowledgedTestOnly)

/-- The signed proof of the account is for this invitation, its roles and its consent. -/
def Names (proof : InvitationProof) (row : Invitation) : Prop :=
  proof.invitationId = row.invitationId ∧ proof.roles = row.roleBits ∧
    proof.consentVersion = row.consentVersion

instance (proof : InvitationProof) (row : Invitation) : Decidable (Names proof row) :=
  inferInstanceAs (Decidable (_ ∧ _))

/-- `claim` up to the statement that claims: the invitation and the wallet, or an invitation that the same
wallet has claimed before. -/
def State.mayClaim (profile : Profile) (token : String) (body : Option Consent) :
    Except Failure (Invitation × Option String) := do
  let walletAddress ← requireSome profile.walletAddress
    401 "WALLET_LINK_REQUIRED" "Connect and verify the invited wallet first"
  let row ← requireSome (p.invitationByTokenHash (lib.tokenHash token))
    404 "INVITATION_NOT_FOUND" "Invitation was not found"
  if row.state = .claimed then
    requireValue (row.claimedWallet = some walletAddress)
      409 "INVITATION_ALREADY_CLAIMED" "Invitation has already been claimed"
    return (row, none)
  else
    match body with
    | none => .error .typeError
    | some body =>
      requireValue (consentAccepted row.flowVersion body = true) 400 "INVITATION_CONSENT_REQUIRED"
        "The current participation acknowledgement is required"
      let _ ← requireSome (profile.participantInvitationProof.filter fun proof ↦ Names proof row)
        401 "INVITATION_SIGNATURE_REQUIRED"
        "Sign the exact invitation, role set and consent before claiming it"
      let wallet ← requireSome (lib.getAddress walletAddress)
        400 "INVALID_WALLET_ADDRESS" "Wallet address is invalid"
      requireValue ((row.state = .created ∨ row.state = .sent) ∧ now.ms < row.expiresAt.ms)
        409 "INVITATION_NOT_CLAIMABLE" "Invitation is expired or unavailable"
      return (row, some wallet)

/-- The writes of `claim`. -/
def State.claimed (invitationId wallet : String) : State :=
  { p with
    invitations := p.invitations.update invitationId
      (fun r ↦ (r.state = .created ∨ r.state = .sent) ∧ now.ms < r.expiresAt.ms)
      (Invitation.claim wallet now)
    invitationEvents := p.recordInvitationEvent invitationId .claimed now
    applications := p.applications.updateAll
      (fun r ↦ r.invitationId = some invitationId ∧ r.state = .approvedInvitationSent)
      (Application.claim now) }

end Service

end CreatorFirst.Gateway.Participation
