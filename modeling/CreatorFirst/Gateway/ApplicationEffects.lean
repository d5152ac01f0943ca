import CreatorFirst.Gateway.Applications

/-!
# What the participation services write

Every way a part of a handler can end. An approval creates its invitation at once and decides on the
application last; a rejection decides first and is recorded last.
-/

namespace CreatorFirst.Gateway.Participation

open Database

section Invitations

variable (lib : Library) (now : Date) (p : State)

/-- The service after a row was inserted into the invitations. -/
def State.invited (invitationId : String) (invitations : Table Invitation.invitationId) : State :=
  { p with
    invitations
    invitationEvents := p.recordInvitationEvent invitationId .created now }

variable {lib now p}

theorem createInvitation_eq_ok {draws : InvitationDraws} {body : InvitationBody} {created : State}
    (h : p.createInvitation lib now draws body = .ok created) :
    ∃ contact expiresAt invitations,
      p.createInvitationRow (newInvitation lib now draws contact body.flowVersion expiresAt) =
        some invitations ∧ created = p.invited now draws.invitationId invitations := by
  simp only [State.createInvitation, bind_eq_ok] at h
  obtain ⟨contact, -, hours, -, expiresAt, -, h⟩ := h
  split at h
  · cases h
  · next invitations hinsert =>
    refine ⟨contact, expiresAt, invitations, hinsert, ?_⟩
    rw [pure_eq_ok] at h
    exact h.symm

theorem createInvitationRow_eq_some {row : Invitation} {invitations : Table Invitation.invitationId}
    (h : p.createInvitationRow row = some invitations) :
    (∀ r ∈ p.invitations, r.tokenHash ≠ row.tokenHash) ∧ p.invitations.insert row = some invitations := by
  rw [State.createInvitationRow] at h
  split at h
  · cases h
  · next hfree =>
    refine ⟨fun r hr hhash ↦ hfree ?_, h⟩
    rw [State.invitationByTokenHash, List.find?_isSome]
    exact ⟨r, hr, by simpa using hhash⟩

end Invitations

variable (lib : Library) (now : Date) (accounts : AccountId → Profile) (p : State)

/-- The invitation of the account's application. -/
def State.ownInvitation (accountId : AccountId) : Option String :=
  (p.applications.rows.find? fun r ↦ r.ownerId = accountId).bind (·.invitationId)

def State.withApproval (approval : Approval) : State :=
  { p with approvals := p.approvals ++ [approval] }

def State.withSending (sending : Sending) : State := { p with sendings := p.sendings ++ [sending] }

/-- The invitations after a token was replaced. -/
def State.rotatedInvitations (row : Invitation) (window : Date × ℕ) (token : String) :
    Table Invitation.invitationId :=
  (p.invitations.update row.invitationId (fun r ↦ r.state = .sent)
    (Invitation.rotate (lib.tokenHash token) row.expiresAt)).update row.invitationId
      (fun r ↦ r.state = .sent) (Invitation.markResent now window.1 (window.2 + 1))

/-- The service after a token was replaced, when the mail waits for the transport. -/
def State.rotated (row : Invitation) (window : Date × ℕ) (token : String) (resending : Resending) :
    State :=
  { p with
    invitations := p.rotatedInvitations lib now row window token
    resendings := p.resendings ++ [resending] }

/-- The outcomes of a step: the accounts and the service. -/
inductive Effect : Action → (AccountId → Profile) → State → Prop
  | same (a : Action) : Effect a accounts p
  | applied (accountId : AccountId) (applicationId : String) (body : ApplicationBody) (r : Application)
      (applications : Table Application.applicationId) (hstate : r.state = .underReview)
      (hinvitation : r.invitationId = none) (hid : r.applicationId = applicationId)
      (hinsert : p.applications.insert r = some applications) :
      Effect (.createApplication accountId applicationId body) accounts
        ({ p with applications }.recordApplicationEvent
          { applicationId, eventType := .applicationCreated, occurredAt := now })
  | approving (applicationId : String) (draws : InvitationDraws) (r : Application) (contact : Contact)
      (expiresAt : Date) (invitations : Table Invitation.invitationId)
      (hfound : p.applications.find? applicationId = some r) (happrovable : r.Approvable)
      (hinsert : p.createInvitationRow (newInvitation lib now draws contact .v2 expiresAt) =
        some invitations) :
      Effect (.approve applicationId draws) accounts
        (((p.invited now draws.invitationId invitations).withApproval
          ⟨applicationId, draws.invitationId, now, .sending⟩).mail draws.invitationId draws.token)
  | unsent (applicationId : String) (draws : InvitationDraws) (r : Application) (contact : Contact)
      (expiresAt : Date) (invitations : Table Invitation.invitationId)
      (hfound : p.applications.find? applicationId = some r) (happrovable : r.Approvable)
      (hinsert : p.createInvitationRow (newInvitation lib now draws contact .v2 expiresAt) =
        some invitations) :
      Effect (.approve applicationId draws) accounts
        ((p.invited now draws.invitationId invitations).withApproval
          ⟨applicationId, draws.invitationId, now, .failed⟩)
  | mailed (i : ℕ) (approval : Approval) (hheld : p.approvals[i]? = some approval)
      (hphase : approval.phase = .sending) :
      Effect (.approvalMail i true) accounts
        ((p.invitationSent now approval.invitationId).setPhase i .sent)
  | unmailed (i : ℕ) (approval : Approval) (hheld : p.approvals[i]? = some approval)
      (hphase : approval.phase = .sending) :
      Effect (.approvalMail i false) accounts (p.setPhase i .failed)
  | approved (i : ℕ) (approval : Approval) (hheld : p.approvals[i]? = some approval)
      (hphase : approval.phase = .sent) :
      Effect (.approvalReturned i) accounts
        ({ p.setPhase i .ended with
          applications := p.applications.update approval.applicationId Application.Approvable
            (Application.approve approval.invitationId approval.reviewedAt) }.recordApplicationEvent
          { applicationId := approval.applicationId, eventType := .applicationApproved
            occurredAt := approval.reviewedAt, invitationId := some approval.invitationId })
  | abandoned (i : ℕ) (approval : Approval) (hheld : p.approvals[i]? = some approval)
      (hphase : approval.phase = .failed) :
      Effect (.approvalReturned i) accounts
        ({ p.setPhase i .ended with
          applications := p.applications.update approval.applicationId Application.Approvable
            (Application.failApproval approval.invitationId approval.reviewedAt)
          }.recordApplicationEvent
          { applicationId := approval.applicationId, eventType := .approvalEmailFailed
            occurredAt := approval.reviewedAt, invitationId := some approval.invitationId })
  | rejecting (applicationId : String) (rejectionCode : RejectionCode) (r : Application)
      (hfound : p.applications.find? applicationId = some r) (hstate : r.state = .underReview) :
      Effect (.reject applicationId (some rejectionCode)) accounts
        { p with
          applications := p.applications.update applicationId (fun r ↦ r.state = .underReview)
            (Application.reject rejectionCode now)
          rejections := p.rejections ++ [{ applicationId, rejectionCode, reviewedAt := now }] }
  | rejected (i : ℕ) (rejection : Rejection) (hheld : p.rejections[i]? = some rejection)
      (hwaits : rejection.ended = false) :
      Effect (.rejectionMail i true) accounts
        ({ p with rejections := p.rejections.modify i ({ · with ended := true })
          }.recordApplicationEvent
          { applicationId := rejection.applicationId, eventType := .applicationRejected
            occurredAt := rejection.reviewedAt, rejectionCode := some rejection.rejectionCode })
  | unrecorded (i : ℕ) (rejection : Rejection) (hheld : p.rejections[i]? = some rejection)
      (hwaits : rejection.ended = false) :
      Effect (.rejectionMail i false) accounts
        { p with rejections := p.rejections.modify i ({ · with ended := true }) }
  | invited (draws : InvitationDraws) (body : InvitationBody) (contact : Contact) (expiresAt : Date)
      (invitations : Table Invitation.invitationId)
      (hinsert : p.createInvitationRow (newInvitation lib now draws contact body.flowVersion expiresAt) =
        some invitations) :
      Effect (.createInvitation draws body) accounts
        { p.invited now draws.invitationId invitations with answered := p.answered ++ [draws.token] }
  | sending (invitationId token : String) (row : Invitation)
      (hmay : p.maySend lib now invitationId token = .ok row) :
      Effect (.send invitationId token) accounts
        ((p.withSending { invitationId }).mail invitationId token)
  | sent (i : ℕ) (invitationId : String) :
      Effect (.sendingMail i true) accounts
        ({ p with sendings := p.sendings.modify i ({ · with ended := true }) }.invitationSent now
          invitationId)
  | sendFailed (i : ℕ) :
      Effect (.sendingMail i false) accounts
        { p with sendings := p.sendings.modify i ({ · with ended := true }) }
  | resending (accountId : AccountId) (key token : String) (row : Invitation) (window : Date × ℕ)
      (hown : p.ownInvitation accountId = some row.invitationId)
      (hfound : p.invitation row.invitationId = some row) (hstate : row.state = .sent)
      (hfree : ∀ r ∈ p.invitations, r.tokenHash ≠ lib.tokenHash token) :
      Effect (.resend accountId (some key) token) accounts
        ((p.rotated lib now row window token
          { invitationId := row.invitationId, idempotencyKey := key, attemptedAt := now }).mail
            row.invitationId token)
  | resent (i : ℕ) (delivery : Option String) (resendings : List Resending)
      (invitationEvents : List InvitationEvent) (resendRequests : Table ResendRequest.key) :
      Effect (.resendingMail i delivery) accounts { p with resendings, invitationEvents, resendRequests }
  | delivered (i : ℕ) : Effect (.deliver i) accounts (p.deliver i)
  | claimed (accountId : AccountId) (token : String) (body : Option Consent) (row : Invitation)
      (wallet : String)
      (hmay : p.mayClaim lib now (accounts accountId) token body = .ok (row, some wallet)) :
      Effect (.claim accountId token body)
        (Function.update accounts accountId
          { accounts accountId with participantInvitationProof := none })
        (p.claimed now row.invitationId wallet)

variable {lib now accounts p}

section Cases

theorem createApplication_effect (accountId : AccountId) (applicationId : String)
    (body : ApplicationBody) :
    Effect lib now accounts p (.createApplication accountId applicationId body) accounts
      (p.orElse ((p.createApplication lib now accountId applicationId body).map (·.2))) := by
  cases h : p.createApplication lib now accountId applicationId body with
  | error e => exact .same _
  | ok result =>
    simp only [State.createApplication, bind_eq_ok] at h
    obtain ⟨contact, -, h⟩ := h
    split at h
    · simp only [bind_eq_ok, pure_eq_ok] at h
      obtain ⟨-, -, rfl⟩ := h
      exact .same _
    · simp only [bind_eq_ok] at h
      obtain ⟨verificationExpiresAt, -, h⟩ := h
      split at h
      · cases h
      · next applications hinsert =>
        rw [pure_eq_ok] at h
        subst h
        exact .applied accountId applicationId body _ applications rfl rfl rfl hinsert

theorem approve_effect (applicationId : String) (draws : InvitationDraws) :
    Effect lib now accounts p (.approve applicationId draws) accounts
      (p.orElse (p.approve lib now applicationId draws)) := by
  cases h : p.approve lib now applicationId draws with
  | error e => exact .same _
  | ok p' =>
    simp only [State.approve, bind_eq_ok, requireSome_eq_ok, requireValue_eq_ok] at h
    obtain ⟨r, hfound, -, happrovable, created, hcreated, h⟩ := h
    obtain ⟨contact, expiresAt, invitations, hinsert, rfl⟩ := createInvitation_eq_ok hcreated
    split at h
    · rw [pure_eq_ok] at h
      subst h
      exact .unsent applicationId draws r contact expiresAt invitations hfound happrovable hinsert
    · rw [pure_eq_ok] at h
      subst h
      exact .approving applicationId draws r contact expiresAt invitations hfound happrovable hinsert

theorem approvalMail_effect (i : ℕ) (ok : Bool) :
    Effect lib now accounts p (.approvalMail i ok) accounts (p.approvalMail now i ok) := by
  rw [State.approvalMail]
  split
  · next applicationId invitationId reviewedAt hheld =>
    cases ok with
    | true => exact .mailed i ⟨applicationId, invitationId, reviewedAt, .sending⟩ hheld rfl
    | false => exact .unmailed i ⟨applicationId, invitationId, reviewedAt, .sending⟩ hheld rfl
  · exact .same _

theorem approvalReturned_effect (i : ℕ) :
    Effect lib now accounts p (.approvalReturned i) accounts (p.approvalReturned i) := by
  rw [State.approvalReturned]
  split
  · next applicationId invitationId reviewedAt hheld =>
    exact .approved i ⟨applicationId, invitationId, reviewedAt, .sent⟩ hheld rfl
  · next applicationId invitationId reviewedAt hheld =>
    exact .abandoned i ⟨applicationId, invitationId, reviewedAt, .failed⟩ hheld rfl
  · exact .same _

theorem reject_effect (applicationId : String) (rejectionCode : Option RejectionCode) :
    Effect lib now accounts p (.reject applicationId rejectionCode) accounts
      (p.orElse (p.reject now applicationId rejectionCode)) := by
  cases h : p.reject now applicationId rejectionCode with
  | error e => exact .same _
  | ok p' =>
    simp only [State.reject, bind_eq_ok, requireSome_eq_ok, requireValue_eq_ok, pure_eq_ok] at h
    obtain ⟨code, rfl, -, -, -, hchanges, rfl⟩ := h
    have hpos : 0 < p.applications.changes applicationId fun r ↦ r.state = .underReview := by
      rw [hchanges]
      exact Nat.one_pos
    obtain ⟨r, hfound, hstate⟩ := Table.changes_pos.mp hpos
    exact .rejecting applicationId code r hfound hstate

theorem rejectionMail_effect (i : ℕ) (ok : Bool) :
    Effect lib now accounts p (.rejectionMail i ok) accounts (p.rejectionMail i ok) := by
  rw [State.rejectionMail]
  split
  · next applicationId rejectionCode reviewedAt hheld =>
    cases ok with
    | true => exact .rejected i ⟨applicationId, rejectionCode, reviewedAt, false⟩ hheld rfl
    | false => exact .unrecorded i ⟨applicationId, rejectionCode, reviewedAt, false⟩ hheld rfl
  · exact .same _

theorem createInvitation_effect (draws : InvitationDraws) (body : InvitationBody) :
    Effect lib now accounts p (.createInvitation draws body) accounts
      (p.orElse ((p.createInvitation lib now draws body).map fun created ↦
        { created with answered := created.answered ++ [draws.token] })) := by
  cases h : p.createInvitation lib now draws body with
  | error e => exact .same _
  | ok created =>
    obtain ⟨contact, expiresAt, invitations, hinsert, rfl⟩ := createInvitation_eq_ok h
    exact .invited draws body contact expiresAt invitations hinsert

theorem send_effect (invitationId token : String) :
    Effect lib now accounts p (.send invitationId token) accounts
      (p.orElse (p.send lib now invitationId token)) := by
  cases h : p.send lib now invitationId token with
  | error e => exact .same _
  | ok p' =>
    simp only [State.send, bind_eq_ok, pure_eq_ok] at h
    obtain ⟨row, hmay, rfl⟩ := h
    exact .sending invitationId token row hmay

theorem sendingMail_effect (i : ℕ) (ok : Bool) :
    Effect lib now accounts p (.sendingMail i ok) accounts (p.sendingMail now i ok) := by
  rw [State.sendingMail]
  split
  · next invitationId _ =>
    cases ok with
    | true => exact .sent i invitationId
    | false => exact .sendFailed i
  · exact .same _

/-- What a request to send an invitation again has checked. -/
structure Resends (lib : Library) (now : Date) (p : State) (invitationId key token : String)
    (row : Invitation) (window : Date × ℕ) : Prop where
  valid : validKey key
  unrecorded : p.resendRequests.find? (invitationId, key) = none
  id_eq : row.invitationId = invitationId
  found : p.invitation invitationId = some row
  available : resendAvailability now row = .ok (some window)
  free : ∀ r ∈ p.invitations, r.tokenHash ≠ lib.tokenHash token

theorem resend_eq_ok {invitationId token : String} {idempotencyKey : Option String} {p' : State}
    (h : p.resend lib now invitationId idempotencyKey token = .ok (.waiting p')) :
    ∃ key row window, idempotencyKey = some key ∧
      Resends lib now p invitationId key token row window ∧ row.state = .sent ∧
        p' = (p.rotated lib now row window token
          { invitationId := row.invitationId, idempotencyKey := key, attemptedAt := now }).mail
            row.invitationId token := by
  simp only [State.resend, bind_eq_ok, requireSome_eq_ok] at h
  obtain ⟨key, hkey, h⟩ := h
  split at h
  · rw [pure_eq_ok] at h
    cases h
  · next hunrecorded =>
    simp only [bind_eq_ok, requireSome_eq_ok] at h
    obtain ⟨row, hfound, window, havailable, window', rfl, h⟩ := h
    split at h
    · cases h
    · next hfree =>
      simp only [bind_eq_ok, requireValue_eq_ok, pure_eq_ok, Resend.waiting.injEq] at h
      obtain ⟨-, hchanges, rfl⟩ := h
      have hpos : 0 < p.invitations.changes invitationId fun r ↦ r.state = .sent := by
        rw [hchanges]
        exact Nat.one_pos
      obtain ⟨r, hr, hstate⟩ := Table.changes_pos.mp hpos
      obtain rfl : r = row := Option.some.inj (hr.symm.trans hfound)
      obtain rfl := (Table.find?_eq_some.mp hr).2
      obtain ⟨hsent, hvalid⟩ := Option.filter_eq_some_iff.mp hkey
      refine ⟨key, r, window', hsent, ⟨by simpa using hvalid, ?_, rfl, hr, havailable, ?_⟩, hstate, rfl⟩
      · exact hunrecorded
      · intro x hx hhash
        refine hfree ?_
        rw [State.invitationByTokenHash, List.find?_isSome]
        exact ⟨x, hx, by simpa using hhash⟩

theorem resendOwn_eq_ok {accountId : AccountId} {idempotencyKey : Option String} {token : String}
    {p' : State} (h : p.resendOwn lib now accountId idempotencyKey token = .ok (.waiting p')) :
    ∃ invitationId key row window, idempotencyKey = some key ∧
      p.ownInvitation accountId = some invitationId ∧
        Resends lib now p invitationId key token row window ∧ row.state = .sent ∧
          p' = (p.rotated lib now row window token
            { invitationId := row.invitationId, idempotencyKey := key, attemptedAt := now }).mail
              row.invitationId token := by
  simp only [State.resendOwn, bind_eq_ok, requireSome_eq_ok] at h
  obtain ⟨r, hr, invitationId, hinvitation, h⟩ := h
  obtain ⟨key, row, window, rfl, hresends, hstate, rfl⟩ := resend_eq_ok h
  refine ⟨invitationId, key, row, window, rfl, ?_, hresends, hstate, rfl⟩
  rw [State.ownInvitation, hr, Option.bind_some]
  split at hinvitation
  · exact hinvitation
  · cases hinvitation

theorem resend_effect (accountId : AccountId) (idempotencyKey : Option String) (token : String) :
    Effect lib now accounts p (.resend accountId idempotencyKey token) accounts
      (p.orElse ((p.resendOwn lib now accountId idempotencyKey token).map (·.state p))) := by
  cases h : p.resendOwn lib now accountId idempotencyKey token with
  | error e => exact .same _
  | ok result =>
    cases result with
    | replay response => exact .same _
    | waiting p' =>
      obtain ⟨invitationId, key, row, window, rfl, hown, hresends, hstate, rfl⟩ := resendOwn_eq_ok h
      obtain rfl := hresends.id_eq
      exact .resending accountId key token row window hown hresends.found hstate hresends.free

theorem resendingMail_effect (i : ℕ) (delivery : Option String) :
    Effect lib now accounts p (.resendingMail i delivery) accounts (p.resendingMail i delivery) := by
  rw [State.resendingMail]
  split
  · unfold State.resent
    dsimp only
    cases delivery with
    | none => exact .resent i none _ _ _
    | some delivery =>
      dsimp only
      split
      · exact .resent i (some delivery) _ _ _
      · exact .resent i (some delivery) _ _ _
  · exact .same _

theorem claim_effect (accountId : AccountId) (token : String) (body : Option Consent) :
    Effect lib now accounts p (.claim accountId token body)
      (claim lib now accounts p accountId token body).1
      (claim lib now accounts p accountId token body).2 := by
  rw [claim]
  split
  · next row wallet hmay => exact .claimed accountId token body row wallet hmay
  · exact .same _

end Cases

variable (lib now accounts p)

theorem serve_effect (a : Action) :
    Effect lib now accounts p a (serve lib now accounts p a).1 (serve lib now accounts p a).2 := by
  cases a with
  | createApplication accountId applicationId body =>
    exact createApplication_effect accountId applicationId body
  | approve applicationId draws => exact approve_effect applicationId draws
  | approvalMail i ok => exact approvalMail_effect i ok
  | approvalReturned i => exact approvalReturned_effect i
  | reject applicationId rejectionCode => exact reject_effect applicationId rejectionCode
  | rejectionMail i ok => exact rejectionMail_effect i ok
  | createInvitation draws body => exact createInvitation_effect draws body
  | send invitationId token => exact send_effect invitationId token
  | sendingMail i ok => exact sendingMail_effect i ok
  | resend accountId idempotencyKey token => exact resend_effect accountId idempotencyKey token
  | resendingMail i delivery => exact resendingMail_effect i delivery
  | deliver i => exact .delivered i
  | claim accountId token body => exact claim_effect accountId token body

end CreatorFirst.Gateway.Participation
