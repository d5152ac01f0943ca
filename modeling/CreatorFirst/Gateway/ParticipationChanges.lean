import CreatorFirst.Gateway.ApplicationEffects

/-!
# Changes of one invitation and of one application

What a step of the participation services can do to the row of an invitation, to the row of an
application, and to the invitations that were created for applications.
-/

namespace CreatorFirst.Gateway.Participation

open Database

section Claim

variable {lib : Library} {now : Date} {p : State} {profile : Profile} {token : String}
  {body : Option Consent} {row : Invitation} {wallet : String}

/-- What a claim has checked. -/
structure Claims (lib : Library) (now : Date) (p : State) (profile : Profile) (token : String)
    (row : Invitation) (wallet : String) : Prop where
  found : p.invitationByTokenHash (lib.tokenHash token) = some row
  unclaimed : row.state = .created ∨ row.state = .sent
  unexpired : now.ms < row.expiresAt.ms
  named : ∃ proof, profile.participantInvitationProof = some proof ∧ Names proof row
  address : ∃ walletAddress, profile.walletAddress = some walletAddress ∧
    lib.getAddress walletAddress = some wallet

theorem claims_of_mayClaim (h : p.mayClaim lib now profile token body = .ok (row, some wallet)) :
    Claims lib now p profile token row wallet := by
  simp only [State.mayClaim, bind_eq_ok, requireSome_eq_ok] at h
  obtain ⟨walletAddress, hwallet, found, hfound, h⟩ := h
  split at h
  · simp only [bind_eq_ok, pure_eq_ok, Prod.mk.injEq] at h
    obtain ⟨-, -, -, h⟩ := h
    cases h
  · cases body with
    | none => cases h
    | some body =>
      simp only [bind_eq_ok, requireSome_eq_ok, requireValue_eq_ok, pure_eq_ok, Prod.mk.injEq,
        Option.some.injEq] at h
      obtain ⟨-, -, proof, hproof, address, haddress, -, ⟨hstate, hunexpired⟩, rfl, rfl⟩ := h
      obtain ⟨hheld, hnames⟩ := Option.filter_eq_some_iff.mp hproof
      exact ⟨hfound, hstate, hunexpired, ⟨proof, hheld, by simpa using hnames⟩,
        ⟨walletAddress, hwallet, haddress⟩⟩

theorem Claims.mem (h : Claims lib now p profile token row wallet) : row ∈ p.invitations :=
  List.mem_of_find?_eq_some h.found

theorem Claims.tokenHash_eq (h : Claims lib now p profile token row wallet) :
    row.tokenHash = lib.tokenHash token := by
  simpa using List.find?_some h.found

end Claim

/-- The application of an approval, and the invitation that it creates. -/
def Approval.creation (approval : Approval) : String × String :=
  (approval.applicationId, approval.invitationId)

/-- The invitation was created for the application. -/
def State.CreatedFor (p : State) (applicationId invitationId : String) : Prop :=
  (applicationId, invitationId) ∈ p.approvals.map Approval.creation

instance (p : State) (applicationId invitationId : String) :
    Decidable (p.CreatedFor applicationId invitationId) :=
  inferInstanceAs (Decidable (_ ∈ _))

/-- What the request draws for a new invitation. -/
def Action.draws? : Action → Option InvitationDraws
  | .approve _ draws | .createInvitation draws _ => some draws
  | _ => none

variable (lib : Library) (now : Date) (accounts : AccountId → Profile) (p : State)

/-- The row of an invitation before and after a step. -/
inductive InvitationChange (a : Action) (invitationId : String) :
    Option Invitation → Option Invitation → Prop
  | same (row? : Option Invitation) : InvitationChange a invitationId row? row?
  | created (draws : InvitationDraws) (contact : Contact) (flowVersion : FlowVersion) (expiresAt : Date)
      (hdraws : a.draws? = some draws) (hid : draws.invitationId = invitationId)
      (hfree : ∀ r ∈ p.invitations, r.tokenHash ≠ lib.tokenHash draws.token) :
      InvitationChange a invitationId none
        (some (newInvitation lib now draws contact flowVersion expiresAt))
  | sent (row : Invitation) (hstate : row.state = .created ∨ row.state = .sent) :
      InvitationChange a invitationId (some row) (some ((Invitation.markSent now).apply row))
  | rotated (accountId : AccountId) (key token : String) (row : Invitation) (window : Date × ℕ)
      (ha : a = .resend accountId (some key) token)
      (hown : p.ownInvitation accountId = some invitationId) (hstate : row.state = .sent)
      (hfree : ∀ r ∈ p.invitations, r.tokenHash ≠ lib.tokenHash token) :
      InvitationChange a invitationId (some row)
        (some ((Invitation.markResent now window.1 (window.2 + 1)).apply
          ((Invitation.rotate (lib.tokenHash token) row.expiresAt).apply row)))
  | claimed (accountId : AccountId) (token : String) (body : Option Consent) (row : Invitation)
      (wallet : String) (ha : a = .claim accountId token body) (hid : row.invitationId = invitationId)
      (hclaims : Claims lib now p (accounts accountId) token row wallet)
      (hmay : p.mayClaim lib now (accounts accountId) token body = .ok (row, some wallet)) :
      InvitationChange a invitationId (some row) (some ((Invitation.claim wallet now).apply row))

/-- The row of an application before and after a step. -/
inductive ApplicationChange (a : Action) (applicationId : String) :
    Option Application → Option Application → Prop
  | same (r? : Option Application) : ApplicationChange a applicationId r? r?
  | applied (r : Application) (hstate : r.state = .underReview) :
      ApplicationChange a applicationId none (some r)
  | approved (approval : Approval) (r : Application) (hmem : approval ∈ p.approvals)
      (hid : approval.applicationId = applicationId) (happrovable : r.Approvable) :
      ApplicationChange a applicationId (some r)
        (some ((Application.approve approval.invitationId approval.reviewedAt).apply r))
  | failed (approval : Approval) (r : Application) (happrovable : r.Approvable) :
      ApplicationChange a applicationId (some r)
        (some ((Application.failApproval approval.invitationId approval.reviewedAt).apply r))
  | rejected (rejectionCode : RejectionCode) (r : Application)
      (ha : a = .reject applicationId (some rejectionCode)) (hstate : r.state = .underReview) :
      ApplicationChange a applicationId (some r) (some ((Application.reject rejectionCode now).apply r))
  | claimed (accountId : AccountId) (token : String) (body : Option Consent) (row : Invitation)
      (wallet : String) (r : Application) (ha : a = .claim accountId token body)
      (hclaims : Claims lib now p (accounts accountId) token row wallet)
      (hinvitation : r.invitationId = some row.invitationId)
      (hstate : r.state = .approvedInvitationSent) :
      ApplicationChange a applicationId (some r) (some ((Application.claim now).apply r))

variable {lib now accounts p} {a : Action} {accounts' : AccountId → Profile} {p' : State}

section Invitations

theorem change_of_created {draws : InvitationDraws} {contact : Contact} {flowVersion : FlowVersion}
    {expiresAt : Date} {invitations : Table Invitation.invitationId} (hdraws : a.draws? = some draws)
    (hinsert : p.createInvitationRow (newInvitation lib now draws contact flowVersion expiresAt) =
      some invitations) (invitationId : String) :
    InvitationChange lib now accounts p a invitationId (p.invitations.find? invitationId)
      (invitations.find? invitationId) := by
  obtain ⟨hfree, hinsert⟩ := createInvitationRow_eq_some hinsert
  rw [Table.find?_insert hinsert]
  split
  · next hid =>
    have hnone : p.invitations.find? invitationId = none := hid ▸ (Table.insert_eq_some.mp hinsert).1
    rw [hnone]
    exact .created draws contact flowVersion expiresAt hdraws hid hfree
  · exact .same _

theorem change_of_sent (sentId invitationId : String) :
    InvitationChange lib now accounts p a invitationId (p.invitations.find? invitationId)
      ((p.markInvitationSent sentId now).find? invitationId) := by
  rw [State.markInvitationSent, Table.find?_update]
  cases p.invitations.find? invitationId with
  | none => exact .same none
  | some row =>
    rw [Option.map_some]
    split
    · next hcase => exact .sent row hcase.2
    · exact .same _

theorem change_of_rotated {accountId : AccountId} {key token : String} {row : Invitation}
    {window : Date × ℕ} (ha : a = .resend accountId (some key) token)
    (hown : p.ownInvitation accountId = some row.invitationId)
    (hfound : p.invitation row.invitationId = some row)
    (hfree : ∀ r ∈ p.invitations, r.tokenHash ≠ lib.tokenHash token) (invitationId : String) :
    InvitationChange lib now accounts p a invitationId (p.invitations.find? invitationId)
      ((p.rotatedInvitations lib now row window token).find? invitationId) := by
  rw [State.rotatedInvitations, Table.find?_update, Table.find?_update, Option.map_map]
  cases hrow : p.invitations.find? invitationId with
  | none => exact .same none
  | some r =>
    rw [Option.map_some, Function.comp_apply]
    by_cases hcase : invitationId = row.invitationId ∧ r.state = .sent
    · obtain rfl : r = row := by
        rw [State.invitation, ← hcase.1, hrow] at hfound
        exact Option.some.inj hfound
      rw [if_pos hcase, if_pos ⟨hcase.1, hcase.2⟩]
      exact .rotated accountId key token r window ha (hcase.1 ▸ hown) hcase.2 hfree
    · rw [if_neg hcase, if_neg hcase]
      exact .same _

theorem change_of_claimed {accountId : AccountId} {token : String} {body : Option Consent}
    {row : Invitation} {wallet : String} (ha : a = .claim accountId token body)
    (hmay : p.mayClaim lib now (accounts accountId) token body = .ok (row, some wallet))
    (invitationId : String) :
    InvitationChange lib now accounts p a invitationId (p.invitations.find? invitationId)
      ((p.claimed now row.invitationId wallet).invitations.find? invitationId) := by
  have hclaims := claims_of_mayClaim hmay
  rw [State.claimed, Table.find?_update]
  cases hrow : p.invitations.find? invitationId with
  | none => exact .same none
  | some r =>
    rw [Option.map_some]
    split
    · next hcase =>
      obtain ⟨hr, hid⟩ := Table.find?_eq_some.mp hrow
      obtain rfl : r = row := Table.eq_of_key hr hclaims.mem (hid.trans hcase.1)
      exact .claimed accountId token body r wallet ha hid hclaims hmay
    · exact .same _

/-- What a step can do to an invitation. -/
theorem invitation_change (heffect : Effect lib now accounts p a accounts' p') (invitationId : String) :
    InvitationChange lib now accounts p a invitationId (p.invitations.find? invitationId)
      (p'.invitations.find? invitationId) := by
  cases heffect with
  | same | applied | unmailed | approved | abandoned | rejecting | rejected | unrecorded | sending
  | sendFailed | resent | delivered => exact .same _
  | approving applicationId draws r contact expiresAt invitations hfound happrovable hinsert =>
    exact change_of_created rfl hinsert invitationId
  | unsent applicationId draws r contact expiresAt invitations hfound happrovable hinsert =>
    exact change_of_created rfl hinsert invitationId
  | invited draws body contact expiresAt invitations hinsert =>
    exact change_of_created rfl hinsert invitationId
  | mailed i approval hheld hphase => exact change_of_sent approval.invitationId invitationId
  | sent i sentId => exact change_of_sent sentId invitationId
  | resending accountId key token row window hown hfound hstate hfree =>
    exact change_of_rotated rfl hown hfound hfree invitationId
  | claimed accountId token body row wallet hmay =>
    exact change_of_claimed rfl hmay invitationId

end Invitations

section Applications

/-- What a step can do to an application. -/
theorem application_change (heffect : Effect lib now accounts p a accounts' p')
    (applicationId : String) :
    ApplicationChange lib now accounts p a applicationId (p.applications.find? applicationId)
      (p'.applications.find? applicationId) := by
  cases heffect with
  | same | approving | unsent | mailed | unmailed | rejected | unrecorded | invited | sending | sent
  | sendFailed | resending | resent | delivered => exact .same _
  | applied accountId id body r applications hstate hinvitation hid hinsert =>
    change ApplicationChange lib now accounts p _ applicationId _ (applications.find? applicationId)
    rw [Table.find?_insert hinsert]
    split
    · next hkey =>
      rw [← hkey, (Table.insert_eq_some.mp hinsert).1]
      exact .applied r hstate
    · exact .same _
  | approved i approval hheld hphase =>
    change ApplicationChange lib now accounts p _ applicationId _ (Table.find? (Table.update _ _ _ _) _)
    rw [Table.find?_update]
    cases p.applications.find? applicationId with
    | none => exact .same none
    | some r =>
      rw [Option.map_some]
      split
      · next hcase => exact .approved approval r (List.mem_of_getElem? hheld) hcase.1.symm hcase.2
      · exact .same _
  | abandoned i approval hheld hphase =>
    change ApplicationChange lib now accounts p _ applicationId _ (Table.find? (Table.update _ _ _ _) _)
    rw [Table.find?_update]
    cases p.applications.find? applicationId with
    | none => exact .same none
    | some r =>
      rw [Option.map_some]
      split
      · next hcase => exact .failed approval r hcase.2
      · exact .same _
  | rejecting id rejectionCode r hfound hstate =>
    change ApplicationChange lib now accounts p _ applicationId _ (Table.find? (Table.update _ _ _ _) _)
    rw [Table.find?_update]
    cases p.applications.find? applicationId with
    | none => exact .same none
    | some r =>
      rw [Option.map_some]
      split
      · next hcase => exact .rejected rejectionCode r (by rw [hcase.1]) hcase.2
      · exact .same _
  | claimed accountId token body row wallet hmay =>
    change ApplicationChange lib now accounts p _ applicationId _ (Table.find? (Table.updateAll _ _ _) _)
    rw [Table.find?_updateAll]
    cases p.applications.find? applicationId with
    | none => exact .same none
    | some r =>
      rw [Option.map_some]
      split
      · next hcase =>
        exact .claimed accountId token body row wallet r rfl (claims_of_mayClaim hmay) hcase.1 hcase.2
      · exact .same _

end Applications

section Created

theorem creations_setPhase (i : ℕ) (phase : Phase) :
    (p.setPhase i phase).approvals.map Approval.creation = p.approvals.map Approval.creation := by
  rw [State.setPhase]
  dsimp only
  generalize p.approvals = approvals
  induction approvals generalizing i with
  | nil => cases i <;> rfl
  | cons approval approvals ih =>
    cases i with
    | zero => rfl
    | succ i => rw [List.modify_succ_cons, List.map_cons, List.map_cons, ih]

theorem createdFor_iff {applicationId invitationId : String} :
    p.CreatedFor applicationId invitationId ↔ ∃ approval ∈ p.approvals,
      approval.applicationId = applicationId ∧ approval.invitationId = invitationId := by
  simp [State.CreatedFor, Approval.creation]

theorem CreatedFor.of_same {applicationId invitationId : String}
    (h : p'.CreatedFor applicationId invitationId)
    (hsame : p'.approvals.map Approval.creation = p.approvals.map Approval.creation) :
    p.CreatedFor applicationId invitationId := by
  rwa [State.CreatedFor, hsame] at h

/-- The application is approved in this step, and the invitation is new. -/
structure Creates (p p' : State) (a : Action) (applicationId invitationId : String) : Prop where
  approves : ∃ draws, a = .approve applicationId draws ∧ draws.invitationId = invitationId
  free : p.invitation invitationId = none
  made : ∃ row, p'.invitation invitationId = some row
  approvable : ∃ r, p.applications.find? applicationId = some r ∧ r.Approvable

theorem creates_of_approved {draws : InvitationDraws} {r : Application} {contact : Contact}
    {expiresAt : Date} {invitations : Table Invitation.invitationId} {phase : Phase}
    {id applicationId invitationId : String} (hfound : p.applications.find? id = some r)
    (happrovable : r.Approvable)
    (hinsert : p.createInvitationRow (newInvitation lib now draws contact .v2 expiresAt) =
      some invitations) (hinvitations : p'.invitations = invitations)
    (happrovals : p'.approvals = p.approvals ++ [⟨id, draws.invitationId, now, phase⟩])
    (h : p'.CreatedFor applicationId invitationId) :
    p.CreatedFor applicationId invitationId ∨
      Creates p p' (.approve id draws) applicationId invitationId := by
  rw [State.CreatedFor, happrovals, List.map_append, List.mem_append] at h
  obtain hbefore | hnew := h
  · exact .inl hbefore
  · obtain ⟨rfl, rfl⟩ := Prod.mk.inj (List.mem_singleton.mp hnew)
    have hrow := (createInvitationRow_eq_some hinsert).2
    have hmade : p'.invitation draws.invitationId =
        some (newInvitation lib now draws contact .v2 expiresAt) := by
      rw [State.invitation, hinvitations]
      exact Table.find?_key ((Table.mem_insert hrow).mpr (.inr rfl))
    exact .inr ⟨⟨draws, rfl, rfl⟩, (Table.insert_eq_some.mp hrow).1, ⟨_, hmade⟩, ⟨r, hfound, happrovable⟩⟩

/-- An invitation is created for an application when the application is approved. -/
theorem createdFor_change (heffect : Effect lib now accounts p a accounts' p')
    {applicationId invitationId : String} (h : p'.CreatedFor applicationId invitationId) :
    p.CreatedFor applicationId invitationId ∨ Creates p p' a applicationId invitationId := by
  cases heffect with
  | same | applied | rejecting | rejected | unrecorded | invited | sending | sent | sendFailed
  | resending | resent | delivered | claimed => exact .inl h
  | approving id draws r contact expiresAt invitations hfound happrovable hinsert =>
    exact creates_of_approved hfound happrovable hinsert rfl rfl h
  | unsent id draws r contact expiresAt invitations hfound happrovable hinsert =>
    exact creates_of_approved hfound happrovable hinsert rfl rfl h
  | mailed i approval hheld hphase =>
    exact .inl (CreatedFor.of_same h
      (creations_setPhase (p := p.invitationSent now approval.invitationId) i .sent))
  | unmailed i approval hheld hphase =>
    exact .inl (CreatedFor.of_same h (creations_setPhase i .failed))
  | approved i approval hheld hphase | abandoned i approval hheld hphase =>
    exact .inl (CreatedFor.of_same h (creations_setPhase (p := p) i .ended))

/-- What was created stays. -/
theorem invitation_stays (heffect : Effect lib now accounts p a accounts' p') {invitationId : String}
    {row : Invitation} (h : p.invitation invitationId = some row) :
    ∃ row', p'.invitation invitationId = some row' := by
  have hchange := invitation_change heffect invitationId
  rw [State.invitation] at h ⊢
  rw [h] at hchange
  generalize p'.invitations.find? invitationId = row? at hchange ⊢
  cases hchange <;> exact ⟨_, rfl⟩

end Created

end CreatorFirst.Gateway.Participation
