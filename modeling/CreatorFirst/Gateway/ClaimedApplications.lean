import CreatorFirst.Gateway.ParticipationChanges
import CreatorFirst.Gateway.ApplicationAudit

/-!
# A claimed invitation claims its application

The claim of an invitation moves its application only while the application waits for this very
invitation. The approval that has created the invitation writes the application when its mail has come
back, so the mail may be read, and the invitation claimed, before that.
-/

namespace CreatorFirst.Gateway

open Database Process

namespace Participation

/-- The application is in this state and names this invitation. -/
def State.Stands (p : State) (applicationId invitationId : String) (state : ApplicationState) : Prop :=
  ∃ r ∈ p.applications.find? applicationId, r.state = state ∧ r.invitationId = some invitationId

instance (p : State) (applicationId invitationId : String) (state : ApplicationState) :
    Decidable (p.Stands applicationId invitationId state) :=
  inferInstanceAs (Decidable (∃ _ ∈ _, _))

/-- Unless an approval waits, every claimed invitation has claimed the application that it was created
for. -/
def State.ClaimsAgree (p : State) : Prop :=
  (∀ approval ∈ p.approvals, approval.phase = .ended) →
    ∀ applicationId invitationId row, p.CreatedFor applicationId invitationId →
      p.invitation invitationId = some row → row.state = .claimed →
        p.Stands applicationId invitationId .invitationClaimed

/-- The application of an invitation that is claimed waits for it. -/
def InTurn (lib : Library) (now : Date) (accounts : AccountId → Profile) (p : State) : Action → Prop
  | .claim accountId token body =>
    match p.mayClaim lib now (accounts accountId) token body with
    | .ok (row, some _) => ∀ approval ∈ p.approvals, approval.invitationId = row.invitationId →
        p.Stands approval.applicationId row.invitationId .approvedInvitationSent
    | _ => True
  | _ => True

instance (lib : Library) (now : Date) (accounts : AccountId → Profile) (p : State) (a : Action) :
    Decidable (InTurn lib now accounts p a) :=
  match a with
  | .claim accountId token body => by
    unfold InTurn
    dsimp only
    split <;> infer_instance
  | .createApplication .. | .approve .. | .approvalMail .. | .approvalReturned _ | .reject .. | .rejectionMail ..
  | .createInvitation .. | .send .. | .sendingMail .. | .resend .. | .resendingMail .. | .deliver _ =>
    .isTrue trivial

section Step

variable {lib : Library} {now : Date} {accounts accounts' : AccountId → Profile} {p p' : State} {a : Action}

/-- Nothing happens to an application that was claimed. -/
theorem stands_claimed_step (heffect : Effect lib now accounts p a accounts' p')
    {applicationId invitationId : String} (h : p.Stands applicationId invitationId .invitationClaimed) :
    p'.Stands applicationId invitationId .invitationClaimed := by
  obtain ⟨r, hr, hstate, hinvitation⟩ := h
  have hchange := application_change heffect applicationId
  rw [Option.mem_def.mp hr] at hchange
  rw [State.Stands]
  generalize p'.applications.find? applicationId = r' at hchange ⊢
  cases hchange with
  | same => exact ⟨r, rfl, hstate, hinvitation⟩
  | approved approval _ hmem hid happrovable =>
    obtain h | h := happrovable <;> rw [hstate] at h <;> cases h
  | failed approval _ happrovable =>
    obtain h | h := happrovable <;> rw [hstate] at h <;> cases h
  | rejected code _ ha hreview =>
    rw [hstate] at hreview
    cases hreview
  | claimed accountId token body row wallet _ ha hclaims hnamed hwaits =>
    rw [hstate] at hwaits
    cases hwaits

/-- The claim of an invitation moves the application that waits for it. -/
theorem stands_claimed {invitationId applicationId wallet : String}
    (h : p.Stands applicationId invitationId .approvedInvitationSent) :
    (p.claimed now invitationId wallet).Stands applicationId invitationId .invitationClaimed := by
  obtain ⟨r, hr, hstate, hinvitation⟩ := h
  refine ⟨(Application.claim now).apply r, ?_, rfl, hinvitation⟩
  have hafter := Table.find?_updateAll (t := p.applications) (k := applicationId)
    (p := fun r ↦ r.invitationId = some invitationId ∧ r.state = .approvedInvitationSent)
    (f := Application.claim now)
  rw [Option.mem_def.mp hr, Option.map_some, if_pos ⟨hinvitation, hstate⟩] at hafter
  exact hafter

/-- Every claimed invitation has claimed the application that it was created for. -/
def ClaimedTogether (p : State) : Prop :=
  ∀ applicationId invitationId row, p.CreatedFor applicationId invitationId →
    p.invitation invitationId = some row → row.state = .claimed →
      p.Stands applicationId invitationId .invitationClaimed

theorem claimedTogether_step (heffect : Effect lib now accounts p a accounts' p')
    (hturn : InTurn lib now accounts p a) (h : ClaimedTogether p) : ClaimedTogether p' := by
  intro applicationId invitationId row hcreated hrow hclaimed
  have hchange := invitation_change heffect invitationId
  rw [State.invitation] at hrow
  rw [hrow] at hchange
  obtain hbefore | hcreates := createdFor_change heffect hcreated
  · generalize hold : p.invitations.find? invitationId = row? at hchange
    cases hchange with
    | same => exact stands_claimed_step heffect (h applicationId invitationId row hbefore hold hclaimed)
    | created => cases hclaimed
    | sent => cases hclaimed
    | rotated accountId key token row window ha hown hstate hfree =>
      have hsent : row.state = .claimed := hclaimed
      rw [hstate] at hsent
      cases hsent
    | claimed accountId token body row wallet ha hid hclaims =>
      subst ha
      cases heffect with
      | same => exact h applicationId invitationId _ hbefore hrow hclaimed
      | claimed _ _ _ row' wallet' hmay =>
        obtain rfl : row' = row :=
          Option.some.inj ((claims_of_mayClaim hmay).found.symm.trans hclaims.found)
        obtain ⟨approval, hmem, rfl, rfl⟩ := createdFor_iff.mp hbefore
        rw [InTurn, hmay] at hturn
        have hstands := hturn approval hmem hid.symm
        rw [hid] at hstands ⊢
        exact stands_claimed hstands
  · -- the invitation is new
    have hfree := hcreates.free
    rw [State.invitation] at hfree
    rw [hfree] at hchange
    cases hchange with
    | created => cases hclaimed

end Step

end Participation

namespace Server

section Run

variable (lib : Library) (config : ServerConfig)

/-- An invitation is claimed while its application waits for it. -/
def InTurn (s : State) : Action → Prop
  | .participation action => Participation.InTurn lib s.clock s.accounts s.participation action
  | _ => True

instance (s : State) (a : Action) : Decidable (InTurn lib s a) :=
  match a with
  | .participation action =>
    inferInstanceAs (Decidable (Participation.InTurn lib s.clock s.accounts s.participation action))
  | .wait _ | .registerDemoUser .. | .createChallenge .. | .verifyChallenge .. | .messageRecovered ..
  | .createSupportIntent .. | .supportBody .. | .submitSupport .. | .supportSignature ..
  | .supportRegistration .. | .createPlayback .. | .deliverStream .. | .opened .. | .data .. | .record ..
  | .closeSession .. | .trust _ => .isTrue trivial

/-- In every run in which each invitation that is claimed is the one its application waits for, every
claimed invitation has claimed the application that it was created for, whenever no approval waits. -/
theorem claimed_applications (clock : Date) (actions : List Action)
    (hturn : EachStep (step lib config) (InTurn lib) (start clock) actions) :
    AtEachMoment (step lib config) (fun s ↦ s.participation.ClaimsAgree) (start clock) actions := by
  have htogether : AtEachMoment (step lib config)
      (fun s ↦ Participation.ClaimedTogether s.participation) (start clock) actions := by
    have hempty : Participation.ClaimedTogether .empty :=
      fun _ _ _ hcreated ↦ absurd hcreated List.not_mem_nil
    refine keeps_participation (P := fun _ p ↦ Participation.ClaimedTogether p)
      (fun s action hstep h ↦ ?_) (fun _ _ _ _ h ↦ h) hturn hempty
    exact Participation.claimedTogether_step
      (Participation.serve_effect lib s.clock s.accounts s.participation action) hstep h
  exact fun past hpast _ ↦ htogether past hpast

end Run

namespace Sample

def invitationChallenge : ChallengeBody where
  address := some firstWallet
  chainId := some 80002
  invitationToken := some (some firstToken)
  consent := { acceptedParticipation := true }

def challengeDraws : ChallengeDraws where
  challengeId := "e2b8d1c4-7a60-4f15-9c2d-3b7e5a1f0d44"
  nonce := "65746d38394735237728d200"

/-- The message of the challenge for the first invitation. -/
def invitationMessage : String :=
  siweMessage config firstWallet challengeDraws.nonce clock (clock.advance challengeTtlMs)
    (some ⟨firstInvitation.invitationId, 1, "participant-experiment-v2"⟩)

/-- The mail is read, and the wallet signs for the invitation and claims it. -/
def claim : List Action := [
  .participation (.deliver 0),
  .createChallenge listener challengeDraws (.ok invitationChallenge),
  .verifyChallenge listener (.ok (some
    ⟨some challengeDraws.challengeId, some invitationMessage, some invitationSignature⟩)),
  .messageRecovered listener 0,
  .participation (.claim listener firstToken (some { acceptedParticipation := true }))]

/-- The invitation is claimed before the transport has returned to the approval. -/
def claimedEarly : List Action :=
  approving ++ claim ++ [.participation (.approvalMail 0 true), .participation (.approvalReturned 0)]

end Sample

/-- A claim after the approval has returned. -/
theorem claimed_applications_in_turn :
    AtEachMoment (step Sample.library Sample.config) (fun s ↦ s.participation.ClaimsAgree)
      (start Sample.clock)
      (Sample.approval ++ [.participation (.approvalReturned 0)] ++ Sample.claim) :=
  claimed_applications Sample.library Sample.config Sample.clock _ (by decide +kernel)

/-- The invitation is claimed, and its application still waits for it. -/
theorem claimed_invitation_left :
    ¬AtEachMoment (step Sample.library Sample.config) (fun s ↦ s.participation.ClaimsAgree)
      (start Sample.clock) Sample.claimedEarly := by
  intro h
  have hleft : (fun p : Participation.State ↦
      (∀ approval ∈ p.approvals, approval.phase = .ended) ∧
      p.CreatedFor Sample.applicationId Sample.firstInvitation.invitationId ∧
      (∃ row ∈ p.invitation Sample.firstInvitation.invitationId, row.state = .claimed) ∧
      ¬p.Stands Sample.applicationId Sample.firstInvitation.invitationId .invitationClaimed)
      (run (step Sample.library Sample.config) (start Sample.clock) Sample.claimedEarly).participation := by
    decide +kernel
  obtain ⟨hsettled, hcreated, ⟨row, hrow, hclaimed⟩, hwaits⟩ := hleft
  exact hwaits (h.last hsettled Sample.applicationId Sample.firstInvitation.invitationId row hcreated hrow
    hclaimed)

end Server

end CreatorFirst.Gateway
