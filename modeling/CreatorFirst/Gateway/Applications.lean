import CreatorFirst.Gateway.Invitations

/-!
# Participant applications

Administrators approve and reject applications. An approval creates an invitation and waits while its
mail is sent; the application is written when `send` has returned or thrown. A rejection is written
first, and its event when the mail has been sent.
-/

namespace CreatorFirst.Gateway.Participation

open Database

section Statements

/-- `SET state = 'APPROVED_INVITATION_SENT', invitation_id = ?, …` -/
def Application.approve (invitationId : String) (reviewedAt : Date) :
    Table.Rewrite Application.applicationId where
  apply r :=
    { r with
      state := .approvedInvitationSent
      invitationId := some invitationId
      reviewedAt := some reviewedAt
      rejectionCode := none }
  key_apply _ := rfl

/-- `SET state = 'APPROVAL_DELIVERY_FAILED', invitation_id = ?, …` -/
def Application.failApproval (invitationId : String) (reviewedAt : Date) :
    Table.Rewrite Application.applicationId where
  apply r :=
    { r with
      state := .approvalDeliveryFailed
      invitationId := some invitationId
      reviewedAt := some reviewedAt }
  key_apply _ := rfl

/-- `SET state = 'REJECTED', rejection_code = ?, …` -/
def Application.reject (rejectionCode : RejectionCode) (reviewedAt : Date) :
    Table.Rewrite Application.applicationId where
  apply r :=
    { r with
      state := .rejected
      rejectionCode := some rejectionCode
      reviewedAt := some reviewedAt }
  key_apply _ := rfl

/-- `state IN ('UNDER_REVIEW', 'APPROVAL_DELIVERY_FAILED')` -/
def Application.Approvable (r : Application) : Prop :=
  r.state = .underReview ∨ r.state = .approvalDeliveryFailed

instance (r : Application) : Decidable r.Approvable := inferInstanceAs (Decidable (_ ∨ _))

variable (p : State)

def State.recordApplicationEvent (event : ApplicationEvent) : State :=
  { p with applicationEvents := p.applicationEvents ++ [event] }

def State.setPhase (i : ℕ) (phase : Phase) : State :=
  { p with approvals := p.approvals.modify i ({ · with phase }) }

end Statements

structure ApplicationBody where
  email : Option String
  displayName : Option String
  roles : Option ℕ
  acceptedParticipation : Bool

def verificationTtlMs : ℕ := 24 * 60 * 60 * 1000

section Service

variable (lib : Library) (now : Date) (p : State)

/-- `validateApplication` -/
def validateApplication (body : ApplicationBody) : Except Failure Contact := do
  let contact ← contact lib "APPLICATION" "Listener, creator or both roles are required" body.email
    body.displayName body.roles
  requireValue (body.acceptedParticipation = true)
    400 "APPLICATION_CONSENT_REQUIRED" "The participation acknowledgement is required"
  return contact

def newApplication (accountId : AccountId) (applicationId : String) (contact : Contact)
    (verificationExpiresAt : Date) : Application where
  applicationId := applicationId
  ownerId := accountId
  email := contact.email
  displayName := contact.displayName
  roleBits := contact.roles
  state := .underReview
  createdAt := now
  verificationExpiresAt := verificationExpiresAt
  flowVersion := .v2
  consentVersion := FlowVersion.v2.consentVersion

/-- `create`; a repetition gives the application that is there. -/
def State.createApplication (accountId : AccountId) (applicationId : String) (body : ApplicationBody) :
    Except Failure (Application × State) := do
  let contact ← validateApplication lib body
  match p.applications.rows.find? fun r ↦ r.ownerId = accountId with
  | some existing =>
    requireValue (existing.email = contact.email ∧ existing.displayName = contact.displayName ∧
        existing.roleBits = contact.roles)
      409 "APPLICATION_ALREADY_EXISTS" "This browser session already has an application"
    return (existing, p)
  | none =>
    let verificationExpiresAt ← toISOString (now.ms + verificationTtlMs)
    let row := newApplication now accountId applicationId contact verificationExpiresAt
    match p.applications.insert row with
    | none => .error .constraint
    | some applications =>
      return (row, { p with applications }.recordApplicationEvent
        { applicationId, eventType := .applicationCreated, occurredAt := now })

/-- `approve` until it waits for the mail. Should `send` throw before the mail, no mail is handed over. -/
def State.approve (applicationId : String) (draws : InvitationDraws) : Except Failure State := do
  let row ← requireSome (p.applications.find? applicationId)
    404 "APPLICATION_NOT_FOUND" "Application was not found"
  requireValue row.Approvable
    409 "APPLICATION_NOT_REVIEWABLE" "Application is not awaiting approval"
  let created ← p.createInvitation lib now draws
    { email := some row.email, displayName := some row.displayName, roles := some row.roleBits
      expiresInHours := some 72, flowVersion := .v2 }
  let approval (phase : Phase) : Approval :=
    { applicationId, invitationId := draws.invitationId, reviewedAt := now, phase }
  match created.maySend lib now draws.invitationId draws.token with
  | .error _ => return { created with approvals := created.approvals ++ [approval .failed] }
  | .ok _ =>
    let waiting := { created with approvals := created.approvals ++ [approval .sending] }
    return waiting.mail draws.invitationId draws.token

/-- The mail of an approval was sent, or the transport has thrown. -/
def State.approvalMail (i : ℕ) (ok : Bool) : State :=
  match p.approvals[i]? with
  | some ⟨_, invitationId, _, .sending⟩ =>
    if ok then (p.invitationSent now invitationId).setPhase i .sent else p.setPhase i .failed
  | _ => p

/-- The rest of `approve`. Whether the application was changed is not looked at. -/
def State.approvalReturned (i : ℕ) : State :=
  match p.approvals[i]? with
  | some ⟨applicationId, invitationId, reviewedAt, .sent⟩ =>
    { p.setPhase i .ended with
      applications := p.applications.update applicationId Application.Approvable
        (Application.approve invitationId reviewedAt) }.recordApplicationEvent
      { applicationId, eventType := .applicationApproved, occurredAt := reviewedAt
        invitationId := some invitationId }
  | some ⟨applicationId, invitationId, reviewedAt, .failed⟩ =>
    { p.setPhase i .ended with
      applications := p.applications.update applicationId Application.Approvable
        (Application.failApproval invitationId reviewedAt) }.recordApplicationEvent
      { applicationId, eventType := .approvalEmailFailed, occurredAt := reviewedAt
        invitationId := some invitationId }
  | _ => p

/-- `reject` until it waits for the mail. -/
def State.reject (applicationId : String) (rejectionCode : Option RejectionCode) :
    Except Failure State := do
  let rejectionCode ← requireSome rejectionCode
    400 "INVALID_REJECTION_CODE" "A supported rejection code is required"
  let _ ← requireSome (p.applications.find? applicationId)
    404 "APPLICATION_NOT_FOUND" "Application was not found"
  requireValue (p.applications.changes applicationId (fun r ↦ r.state = .underReview) = 1)
    409 "APPLICATION_NOT_REVIEWABLE" "Application is not awaiting review"
  return { p with
    applications := p.applications.update applicationId (fun r ↦ r.state = .underReview)
      (Application.reject rejectionCode now)
    rejections := p.rejections ++ [{ applicationId, rejectionCode, reviewedAt := now }] }

/-- The rest of `reject`: the event, unless the transport has thrown. -/
def State.rejectionMail (i : ℕ) (ok : Bool) : State :=
  match p.rejections[i]? with
  | some ⟨applicationId, rejectionCode, reviewedAt, false⟩ =>
    let returned := { p with rejections := p.rejections.modify i ({ · with ended := true }) }
    if ok then
      returned.recordApplicationEvent
        { applicationId, eventType := .applicationRejected, occurredAt := reviewedAt
          rejectionCode := some rejectionCode }
    else returned
  | _ => p

/-- `send` of an administrator until it waits for the mail. -/
def State.send (invitationId token : String) : Except Failure State := do
  let _ ← p.maySend lib now invitationId token
  let waiting : Sending := { invitationId }
  let p := { p with sendings := p.sendings ++ [waiting] }
  return p.mail invitationId token

def State.sendingMail (i : ℕ) (ok : Bool) : State :=
  match p.sendings[i]? with
  | some ⟨invitationId, false⟩ =>
    let returned := { p with sendings := p.sendings.modify i ({ · with ended := true }) }
    if ok then returned.invitationSent now invitationId else returned
  | _ => p

/-- `resend` of a participant until it waits for the mail. -/
def State.resendOwn (accountId : AccountId) (idempotencyKey : Option String) (token : String) :
    Except Failure Resend := do
  let row ← requireSome (p.applications.rows.find? fun r ↦ r.ownerId = accountId)
    404 "APPLICATION_NOT_FOUND" "Application was not found"
  let invitationId ← requireSome
    (if row.state = .approvedInvitationSent then row.invitationId else none)
    409 "INVITATION_RESEND_NOT_AVAILABLE" "Invitation resend is not available"
  p.resend lib now invitationId idempotencyKey token

def State.resendingMail (i : ℕ) (delivery : Option String) : State :=
  match p.resendings[i]? with
  | some ⟨invitationId, idempotencyKey, attemptedAt, false⟩ =>
    { p with resendings := p.resendings.modify i ({ · with ended := true }) }.resent
      ⟨invitationId, idempotencyKey, attemptedAt, false⟩ delivery
  | _ => p

/-- The transport delivers a mail it was handed. -/
def State.deliver (i : ℕ) : State :=
  { p with outbox := p.outbox.modify i ({ · with delivered := true }) }

end Service

/-- A request arrives (its body has been read), the mail transport answers or delivers, or an approval
goes on after its mail. -/
inductive Action where
  | createApplication (accountId : AccountId) (applicationId : String) (body : ApplicationBody)
  | approve (applicationId : String) (draws : InvitationDraws)
  | approvalMail (approval : ℕ) (ok : Bool)
  | approvalReturned (approval : ℕ)
  | reject (applicationId : String) (rejectionCode : Option RejectionCode)
  | rejectionMail (rejection : ℕ) (ok : Bool)
  | createInvitation (draws : InvitationDraws) (body : InvitationBody)
  | send (invitationId token : String)
  | sendingMail (sending : ℕ) (ok : Bool)
  | resend (accountId : AccountId) (idempotencyKey : Option String) (token : String)
  | resendingMail (resending : ℕ) (delivery : Option String)
  | deliver (mail : ℕ)
  | claim (accountId : AccountId) (token : String) (body : Option Consent)

section Machine

variable (lib : Library) (now : Date) (accounts : AccountId → Profile) (p : State)

/-- `claim`; the proof of the account is used up when it claims the invitation. -/
def claim (accountId : AccountId) (token : String) (body : Option Consent) :
    (AccountId → Profile) × State :=
  match p.mayClaim lib now (accounts accountId) token body with
  | .ok (row, some wallet) =>
    (Function.update accounts accountId
      { accounts accountId with participantInvitationProof := none },
      p.claimed now row.invitationId wallet)
  | _ => (accounts, p)

/-- A request that ends in an error leaves the service as it was. -/
def State.orElse (result : Except Failure State) : State :=
  match result with
  | .ok p' => p'
  | .error _ => p

def serve : Action → (AccountId → Profile) × State
  | .createApplication accountId applicationId body =>
    (accounts, p.orElse ((p.createApplication lib now accountId applicationId body).map (·.2)))
  | .approve applicationId draws => (accounts, p.orElse (p.approve lib now applicationId draws))
  | .approvalMail i ok => (accounts, p.approvalMail now i ok)
  | .approvalReturned i => (accounts, p.approvalReturned i)
  | .reject applicationId rejectionCode =>
    (accounts, p.orElse (p.reject now applicationId rejectionCode))
  | .rejectionMail i ok => (accounts, p.rejectionMail i ok)
  | .createInvitation draws body =>
    (accounts, p.orElse ((p.createInvitation lib now draws body).map fun created ↦
      { created with answered := created.answered ++ [draws.token] }))
  | .send invitationId token => (accounts, p.orElse (p.send lib now invitationId token))
  | .sendingMail i ok => (accounts, p.sendingMail now i ok)
  | .resend accountId idempotencyKey token =>
    (accounts, p.orElse ((p.resendOwn lib now accountId idempotencyKey token).map (·.state p)))
  | .resendingMail i delivery => (accounts, p.resendingMail i delivery)
  | .deliver i => (accounts, p.deliver i)
  | .claim accountId token body => claim lib now accounts p accountId token body

end Machine

end CreatorFirst.Gateway.Participation
