import Mathlib
import CreatorFirst.Gateway.ClaimedApplications

/-!
# Live invitations of an application

An invitation is live once it was claimed, and before that as long as somebody can claim it: it has not
expired, and a token that has left the gateway has its hash. An approval whose mail was delivered and
reported as failed can be repeated, and a rejection does not look for approvals that wait, so an
application can have several live invitations, or a live one after its rejection.
-/

namespace CreatorFirst.Gateway

open Database Process

namespace Participation

section Live

variable (lib : Library) (now : Date) (p : State)

/-- A token that has left the gateway has this hash. -/
def State.KnownHash (hash : String) : Prop :=
  (∃ token ∈ p.answered, lib.tokenHash token = hash) ∨
    ∃ mail ∈ p.outbox, mail.delivered = true ∧ lib.tokenHash mail.token = hash

/-- The invitation has not been claimed and has not expired. -/
def Invitation.Open (row : Invitation) : Prop :=
  (row.state = .created ∨ row.state = .sent) ∧ now.ms < row.expiresAt.ms

/-- The invitation was claimed, or somebody can claim it. -/
def State.Live (invitationId : String) : Prop :=
  ∃ row ∈ p.invitation invitationId,
    row.state = .claimed ∨ (row.Open now ∧ p.KnownHash lib row.tokenHash)

/-- At most one of the invitations that were created for an application is live, and none if the
application was rejected. -/
structure State.OneLive : Prop where
  atMostOne : ∀ applicationId first second, p.CreatedFor applicationId first →
    p.CreatedFor applicationId second → p.Live lib now first → p.Live lib now second → first = second
  rejected : ∀ r ∈ p.applications, r.state = .rejected → ∀ invitationId,
    p.CreatedFor r.applicationId invitationId → ¬p.Live lib now invitationId

instance (hash : String) : Decidable (p.KnownHash lib hash) := inferInstanceAs (Decidable (_ ∨ _))

instance (row : Invitation) : Decidable (row.Open now) := inferInstanceAs (Decidable (_ ∧ _))

instance (invitationId : String) : Decidable (p.Live lib now invitationId) :=
  inferInstanceAs (Decidable (∃ _ ∈ _, _))

/-- Tokens are drawn so that nobody has had them, and nobody guesses them. -/
def Unguessed : Action → Prop
  | .approve _ draws | .createInvitation draws _ => ¬p.KnownHash lib (lib.tokenHash draws.token)
  | .resend _ _ token => ¬p.KnownHash lib (lib.tokenHash token)
  | .claim _ token _ => p.KnownHash lib (lib.tokenHash token)
  | _ => True

/-- A mail that opens an invitation finds its application not rejected and without another live
invitation, and a rejection finds no live invitation of the application. -/
def OneAtATime : Action → Prop
  | .deliver i => ∀ mail ∈ p.outbox[i]?, ∀ row ∈ p.invitations.rows,
      row.tokenHash = lib.tokenHash mail.token → row.Open now →
        ∀ approval ∈ p.approvals, approval.invitationId = row.invitationId →
          (∀ r ∈ p.applications.find? approval.applicationId, r.state ≠ .rejected) ∧
            ∀ other ∈ p.approvals, other.applicationId = approval.applicationId →
              other.invitationId ≠ row.invitationId → ¬p.Live lib now other.invitationId
  | .reject applicationId (some _) => ∀ r ∈ p.applications.find? applicationId,
      r.state = .underReview → ∀ approval ∈ p.approvals, approval.applicationId = applicationId →
        ¬p.Live lib now approval.invitationId
  | _ => True

instance (a : Action) : Decidable (Unguessed lib p a) :=
  match a with
  | .approve _ draws | .createInvitation draws _ =>
    inferInstanceAs (Decidable ¬p.KnownHash lib (lib.tokenHash draws.token))
  | .resend _ _ token => inferInstanceAs (Decidable ¬p.KnownHash lib (lib.tokenHash token))
  | .claim _ token _ => inferInstanceAs (Decidable (p.KnownHash lib (lib.tokenHash token)))
  | .createApplication .. | .approvalMail .. | .approvalReturned _ | .reject .. | .rejectionMail .. | .send ..
  | .sendingMail .. | .resendingMail .. | .deliver _ => .isTrue trivial

instance (a : Action) : Decidable (OneAtATime lib now p a) :=
  match a with
  | .deliver _ | .reject _ (some _) => by
    unfold OneAtATime
    infer_instance
  | .createApplication .. | .approve .. | .approvalMail .. | .approvalReturned _ | .reject _ none
  | .rejectionMail .. | .createInvitation .. | .send .. | .sendingMail .. | .resend .. | .resendingMail ..
  | .claim .. => .isTrue trivial

end Live

section Step

variable {lib : Library} {now : Date} {accounts accounts' : AccountId → Profile} {p p' : State} {a : Action}

/-- A mail that is handed to the transport tells nobody its token. -/
theorem State.KnownHash.of_mail {invitationId token hash : String}
    (h : (p.mail invitationId token).KnownHash lib hash) : p.KnownHash lib hash := by
  obtain hanswered | ⟨mail, hmem, hdelivered, hhash⟩ := h
  · exact .inl hanswered
  · obtain hmem | hnew := List.mem_append.mp hmem
    · exact .inr ⟨mail, hmem, hdelivered, hhash⟩
    · rw [List.mem_singleton.mp hnew] at hdelivered
      cases hdelivered

theorem State.KnownHash.of_delivered {i : ℕ} {hash : String} (h : (p.deliver i).KnownHash lib hash) :
    p.KnownHash lib hash ∨ ∃ mail, p.outbox[i]? = some mail ∧ lib.tokenHash mail.token = hash := by
  obtain hanswered | ⟨mail, hmem, hdelivered, hhash⟩ := h
  · exact .inl (.inl hanswered)
  · obtain ⟨j, hj⟩ := List.mem_iff_getElem?.mp hmem
    rw [State.deliver, List.getElem?_modify] at hj
    obtain ⟨earlier, hearlier, rfl⟩ := Option.map_eq_some_iff.mp hj
    split at hdelivered
    · next hij =>
      subst hij
      rw [if_pos rfl] at hhash
      exact .inr ⟨earlier, hearlier, hhash⟩
    · next hij =>
      rw [if_neg hij] at hhash
      exact .inl (.inr ⟨earlier, List.mem_of_getElem? hearlier, hdelivered, hhash⟩)

/-- A hash becomes known by a mail that is delivered, or by the answer to an administrator. -/
theorem knownHash_step (heffect : Effect lib now accounts p a accounts' p') {hash : String}
    (h : p'.KnownHash lib hash) :
    p.KnownHash lib hash ∨
      (∃ i mail, a = .deliver i ∧ p.outbox[i]? = some mail ∧ lib.tokenHash mail.token = hash) ∨
      ∃ draws body, a = .createInvitation draws body ∧ lib.tokenHash draws.token = hash ∧
        ∀ r ∈ p.invitations, r.tokenHash ≠ hash := by
  cases heffect with
  | same | applied | unsent | mailed | unmailed | approved | abandoned | rejecting | rejected
  | unrecorded | sent | sendFailed | resent | claimed => exact .inl h
  | approving | sending | resending => exact .inl h.of_mail
  | invited draws body contact expiresAt invitations hinsert =>
    obtain ⟨token, htoken, hhash⟩ | hdelivered := h
    · obtain hmem | hnew := List.mem_append.mp htoken
      · exact .inl (.inl ⟨token, hmem, hhash⟩)
      · obtain rfl := List.mem_singleton.mp hnew
        refine .inr (.inr ⟨draws, body, rfl, hhash, ?_⟩)
        rw [← hhash]
        exact (createInvitationRow_eq_some hinsert).1
    · exact .inl (.inr hdelivered)
  | delivered i =>
    obtain hbefore | ⟨mail, hmail, hhash⟩ := h.of_delivered
    · exact .inl hbefore
    · exact .inr (.inl ⟨i, mail, rfl, hmail, hhash⟩)

/-- An invitation comes to life by a mail that is delivered. -/
theorem live_step (heffect : Effect lib now accounts p a accounts' p')
    (hunguessed : Unguessed lib p a) {invitationId : String} {row : Invitation}
    (hrow : p.invitation invitationId = some row) (h : p'.Live lib now invitationId) :
    p.Live lib now invitationId ∨
      ∃ i mail, a = .deliver i ∧ p.outbox[i]? = some mail ∧ row.tokenHash = lib.tokenHash mail.token ∧
        row.Open now := by
  obtain ⟨row', hrow', hlive⟩ := h
  have hknown : row.Open now → p'.KnownHash lib row.tokenHash → p.Live lib now invitationId ∨
      ∃ i mail, a = .deliver i ∧ p.outbox[i]? = some mail ∧
        row.tokenHash = lib.tokenHash mail.token ∧ row.Open now := by
    intro hopen hknown
    obtain hbefore | ⟨i, mail, ha, hmail, hhash⟩ | ⟨draws, body, -, -, hfree⟩ :=
      knownHash_step heffect hknown
    · exact .inl ⟨row, hrow, .inr ⟨hopen, hbefore⟩⟩
    · exact .inr ⟨i, mail, ha, hmail, hhash.symm, hopen⟩
    · exact absurd rfl (hfree row (Table.find?_eq_some.mp hrow).1)
  have hchange := invitation_change heffect invitationId
  rw [State.invitation] at hrow hrow'
  rw [hrow, Option.mem_def.mp hrow'] at hchange
  cases hchange with
  | same =>
    obtain hclaimed | ⟨hopen, hhash⟩ := hlive
    · exact .inl ⟨row, hrow, .inl hclaimed⟩
    · exact hknown hopen hhash
  | sent _ hstate =>
    obtain hclaimed | ⟨hopen, hhash⟩ := hlive
    · cases hclaimed
    · exact hknown ⟨hstate, hopen.2⟩ hhash
  | rotated accountId key token _ window ha hown hstate hfree =>
    obtain hclaimed | ⟨hopen, hhash⟩ := hlive
    · have hsent : row.state = .claimed := hclaimed
      rw [hstate] at hsent
      cases hsent
    · subst ha
      obtain hbefore | ⟨i, mail, ha, -⟩ | ⟨draws, body, ha, -⟩ := knownHash_step heffect hhash
      · exact absurd hbefore hunguessed
      · cases ha
      · cases ha
  | claimed accountId token body _ wallet ha hid hclaims =>
    subst ha
    refine .inl ⟨row, hrow, .inr ⟨⟨hclaims.unclaimed, hclaims.unexpired⟩, ?_⟩⟩
    rw [hclaims.tokenHash_eq]
    exact hunguessed

/-- An invitation that is new is not live. -/
theorem Creates.not_live (heffect : Effect lib now accounts p a accounts' p')
    (hunguessed : Unguessed lib p a) {applicationId invitationId : String}
    (h : Creates p p' a applicationId invitationId) : ¬p'.Live lib now invitationId := by
  rintro ⟨row', hrow', hlive⟩
  obtain ⟨draws, rfl, -⟩ := h.approves
  have hchange := invitation_change heffect invitationId
  have hnone := h.free
  rw [State.invitation] at hnone hrow'
  rw [hnone, Option.mem_def.mp hrow'] at hchange
  cases hchange with
  | created draws' contact flowVersion expiresAt hdraws hid hfree =>
    obtain rfl : draws = draws' := Option.some.inj hdraws
    obtain hclaimed | ⟨hopen, hhash⟩ := hlive
    · cases hclaimed
    · obtain hbefore | ⟨i, mail, ha, -⟩ | ⟨draws', body, ha, -⟩ := knownHash_step heffect hhash
      · exact hunguessed hbefore
      · cases ha
      · cases ha

/-- No two invitations have one hash, which is the constraint of the table. -/
def HashesDistinct (p : State) : Prop :=
  ∀ first second row row', p.invitation first = some row → p.invitation second = some row' →
    row.tokenHash = row'.tokenHash → first = second

/-- The hash of an invitation after a step is the one it had, or new. -/
theorem tokenHash_step (heffect : Effect lib now accounts p a accounts' p') {invitationId : String}
    {row : Invitation} (hrow : p'.invitation invitationId = some row) :
    (∃ before, p.invitation invitationId = some before ∧ before.tokenHash = row.tokenHash) ∨
      ((∀ r ∈ p.invitations, r.tokenHash ≠ row.tokenHash) ∧
        ((∃ draws, a.draws? = some draws ∧ draws.invitationId = invitationId) ∨
          ∃ accountId key token, a = .resend accountId key token ∧
            p.ownInvitation accountId = some invitationId)) := by
  have hchange := invitation_change heffect invitationId
  rw [State.invitation] at hrow ⊢
  rw [hrow] at hchange
  generalize p.invitations.find? invitationId = row? at hchange ⊢
  cases hchange with
  | same => exact .inl ⟨row, rfl, rfl⟩
  | created draws contact flowVersion expiresAt hdraws hid hfree =>
    exact .inr ⟨hfree, .inl ⟨draws, hdraws, hid⟩⟩
  | sent before hstate => exact .inl ⟨before, rfl, rfl⟩
  | rotated accountId key token before window ha hown hstate hfree =>
    exact .inr ⟨hfree, .inr ⟨accountId, some key, token, ha, hown⟩⟩
  | claimed accountId token body before wallet ha hid hclaims => exact .inl ⟨before, rfl, rfl⟩

theorem hashesDistinct_step (heffect : Effect lib now accounts p a accounts' p')
    (h : HashesDistinct p) : HashesDistinct p' := by
  intro first second row row' hrow hrow' hsame
  obtain ⟨before, hbefore, hhash⟩ | ⟨hfree, hnew⟩ := tokenHash_step heffect hrow
  · obtain ⟨before', hbefore', hhash'⟩ | ⟨hfree', -⟩ := tokenHash_step heffect hrow'
    · exact h first second before before' hbefore hbefore' (hhash.trans (hsame.trans hhash'.symm))
    · exact absurd (hhash.trans hsame) (hfree' before (Table.find?_eq_some.mp hbefore).1)
  · obtain ⟨before', hbefore', hhash'⟩ | ⟨-, hnew'⟩ := tokenHash_step heffect hrow'
    · exact absurd (hhash'.trans hsame.symm) (hfree before' (Table.find?_eq_some.mp hbefore').1)
    · obtain ⟨draws, hdraws, rfl⟩ | ⟨accountId, key, token, ha, hown⟩ := hnew
      · obtain ⟨draws', hdraws', rfl⟩ | ⟨accountId, key, token, ha, -⟩ := hnew'
        · rw [Option.some.inj (hdraws.symm.trans hdraws')]
        · rw [ha] at hdraws
          cases hdraws
      · obtain ⟨draws', hdraws', -⟩ | ⟨accountId', key', token', ha', hown'⟩ := hnew'
        · rw [ha] at hdraws'
          cases hdraws'
        · cases ha.symm.trans ha'
          exact Option.some.inj (hown.symm.trans hown')

/-- Every invitation that was created for an application is in the table. -/
def CreationsKept (p : State) : Prop :=
  ∀ applicationId invitationId, p.CreatedFor applicationId invitationId →
    ∃ row, p.invitation invitationId = some row

theorem creationsKept_step (heffect : Effect lib now accounts p a accounts' p')
    (h : CreationsKept p) : CreationsKept p' := by
  intro applicationId invitationId hcreated
  obtain hbefore | hcreates := createdFor_change heffect hcreated
  · obtain ⟨row, hrow⟩ := h applicationId invitationId hbefore
    exact invitation_stays heffect hrow
  · exact hcreates.made

/-- An invitation of an application that is live after a step was live, or is opened by a mail. -/
theorem live_cases (heffect : Effect lib now accounts p a accounts' p')
    (hunguessed : Unguessed lib p a) (hkept : CreationsKept p) {applicationId invitationId : String}
    (hcreated : p'.CreatedFor applicationId invitationId) (hlive : p'.Live lib now invitationId) :
    p.CreatedFor applicationId invitationId ∧
      (p.Live lib now invitationId ∨
        ∃ i mail row, a = .deliver i ∧ p.outbox[i]? = some mail ∧
          p.invitation invitationId = some row ∧ row.tokenHash = lib.tokenHash mail.token ∧
            row.Open now) := by
  obtain hbefore | hcreates := createdFor_change heffect hcreated
  · obtain ⟨row, hrow⟩ := hkept applicationId invitationId hbefore
    refine ⟨hbefore, ?_⟩
    obtain hlive | ⟨i, mail, ha, hmail, hhash, hopen⟩ := live_step heffect hunguessed hrow hlive
    · exact .inl hlive
    · exact .inr ⟨i, mail, row, ha, hmail, hrow, hhash, hopen⟩
  · exact absurd hlive (hcreates.not_live heffect hunguessed)

/-- What the condition says of a mail that opens an invitation. -/
theorem oneAtATime_deliver {i : ℕ} {mail : Mail} {row : Invitation}
    {applicationId invitationId : String} (hone : OneAtATime lib now p (.deliver i))
    (hmail : p.outbox[i]? = some mail) (hrow : p.invitation invitationId = some row)
    (hhash : row.tokenHash = lib.tokenHash mail.token) (hopen : row.Open now)
    (hcreated : p.CreatedFor applicationId invitationId) :
    (∀ r ∈ p.applications.find? applicationId, r.state ≠ .rejected) ∧
      ∀ other, p.CreatedFor applicationId other → other ≠ invitationId → ¬p.Live lib now other := by
  obtain ⟨hmem, rfl⟩ := Table.find?_eq_some.mp hrow
  obtain ⟨approval, happroval, rfl, hid⟩ := createdFor_iff.mp hcreated
  obtain ⟨hrejected, hothers⟩ := hone mail hmail row hmem hhash hopen approval happroval hid
  refine ⟨hrejected, fun other hother hne ↦ ?_⟩
  obtain ⟨approval', happroval', happlication, rfl⟩ := createdFor_iff.mp hother
  exact hothers approval' happroval' happlication hne

theorem oneLive_step (heffect : Effect lib now accounts p a accounts' p')
    (hunguessed : Unguessed lib p a) (hone : OneAtATime lib now p a) (hkept : CreationsKept p)
    (hdistinct : HashesDistinct p) (h : p.OneLive lib now) : p'.OneLive lib now := by
  constructor
  case atMostOne =>
    intro applicationId first second hfirst hsecond hlive hlive'
    obtain ⟨hfirst, hlive⟩ := live_cases heffect hunguessed hkept hfirst hlive
    obtain ⟨hsecond, hlive'⟩ := live_cases heffect hunguessed hkept hsecond hlive'
    by_contra hne
    obtain hlive | ⟨i, mail, row, rfl, hmail, hrow, hhash, hopen⟩ := hlive
    · obtain hlive' | ⟨i, mail, row, rfl, hmail, hrow, hhash, hopen⟩ := hlive'
      · exact hne (h.atMostOne applicationId first second hfirst hsecond hlive hlive')
      · have hothers := (oneAtATime_deliver hone hmail hrow hhash hopen hsecond).2
        exact hothers first hfirst hne hlive
    · obtain hlive' | ⟨j, mail', row', ha, hmail', hrow', hhash', hopen'⟩ := hlive'
      · have hothers := (oneAtATime_deliver hone hmail hrow hhash hopen hfirst).2
        exact hothers second hsecond (Ne.symm hne) hlive'
      · -- one mail opens one invitation
        cases ha
        obtain rfl : mail = mail' := Option.some.inj (hmail.symm.trans hmail')
        exact hne (hdistinct first second row row' hrow hrow' (hhash.trans hhash'.symm))
  case rejected =>
    intro r hr hstate invitationId hcreated hlive
    obtain ⟨hcreated, hlive⟩ := live_cases heffect hunguessed hkept hcreated hlive
    have hchange := application_change heffect r.applicationId
    rw [Table.find?_key hr] at hchange
    generalize hold : p.applications.find? r.applicationId = r? at hchange
    cases hchange with
    | same =>
      obtain hlive | ⟨i, mail, row, rfl, hmail, hrow, hhash, hopen⟩ := hlive
      · exact h.rejected r (Table.find?_eq_some.mp hold).1 hstate invitationId hcreated hlive
      · exact (oneAtATime_deliver hone hmail hrow hhash hopen hcreated).1 r hold hstate
    | applied _ hreview =>
      rw [hreview] at hstate
      cases hstate
    | approved => cases hstate
    | failed => cases hstate
    | claimed => cases hstate
    | rejected rejectionCode before ha hreview =>
      obtain hlive | ⟨i, mail, row, ha', -⟩ := hlive
      · obtain ⟨approval, happroval, hid, rfl⟩ := createdFor_iff.mp hcreated
        subst ha
        exact hone before hold hreview approval happroval hid hlive
      · cases ha.symm.trans ha'

/-- An invitation that is claimed in a step was live before it. -/
theorem live_of_claimed (heffect : Effect lib now accounts p a accounts' p')
    (hunguessed : Unguessed lib p a) {invitationId : String} {row : Invitation}
    (hrow : p'.invitation invitationId = some row) (hclaimed : row.state = .claimed) :
    p.Live lib now invitationId := by
  have hchange := invitation_change heffect invitationId
  rw [State.invitation] at hrow
  rw [hrow] at hchange
  generalize hold : p.invitations.find? invitationId = row? at hchange
  cases hchange with
  | same => exact ⟨row, hold, .inl hclaimed⟩
  | created => cases hclaimed
  | sent => cases hclaimed
  | rotated accountId key token before window ha hown hstate hfree =>
    have hsent : before.state = .claimed := hclaimed
    rw [hstate] at hsent
    cases hsent
  | claimed accountId token body before wallet ha hid hclaims =>
    subst ha
    refine ⟨before, hold, .inr ⟨⟨hclaims.unclaimed, hclaims.unexpired⟩, ?_⟩⟩
    rw [hclaims.tokenHash_eq]
    exact hunguessed

/-- Invitations do not come to life as time passes. -/
theorem State.Live.of_later {later : Date} {invitationId : String} (hle : now.ms ≤ later.ms)
    (h : p.Live lib later invitationId) : p.Live lib now invitationId := by
  obtain ⟨row, hrow, hclaimed | ⟨hopen, hhash⟩⟩ := h
  · exact ⟨row, hrow, .inl hclaimed⟩
  · exact ⟨row, hrow, .inr ⟨⟨hopen.1, hle.trans_lt hopen.2⟩, hhash⟩⟩

theorem State.OneLive.later {later : Date} (hle : now.ms ≤ later.ms) (h : p.OneLive lib now) :
    p.OneLive lib later where
  atMostOne applicationId first second hfirst hsecond hlive hlive' :=
    h.atMostOne applicationId first second hfirst hsecond (hlive.of_later hle) (hlive'.of_later hle)
  rejected r hr hstate invitationId hcreated hlive :=
    h.rejected r hr hstate invitationId hcreated (hlive.of_later hle)

/-- What carries the invariant through the steps. -/
structure Orderly (lib : Library) (now : Date) (p : State) : Prop where
  oneLive : p.OneLive lib now
  kept : CreationsKept p
  distinct : HashesDistinct p

theorem orderly_empty (lib : Library) (now : Date) : Orderly lib now .empty where
  oneLive :=
    { atMostOne := fun _ _ _ hcreated ↦ absurd hcreated List.not_mem_nil
      rejected := fun r hr ↦ absurd hr (Table.not_mem_empty r) }
  kept _ _ hcreated := absurd hcreated List.not_mem_nil
  distinct _ _ _ _ hrow := by cases hrow

end Step

end Participation

namespace Server

section Run

variable (lib : Library) (config : ServerConfig)

/-- Nobody guesses a token. -/
def Unguessed (s : State) : Action → Prop
  | .participation action => Participation.Unguessed lib s.participation action
  | _ => True

/-- The mails and rejections leave one live invitation of an application at most. -/
def OneAtATime (s : State) : Action → Prop
  | .participation action => Participation.OneAtATime lib s.clock s.participation action
  | _ => True

instance (s : State) (a : Action) : Decidable (Unguessed lib s a) :=
  match a with
  | .participation action => inferInstanceAs (Decidable (Participation.Unguessed lib s.participation action))
  | .wait _ | .registerDemoUser .. | .createChallenge .. | .verifyChallenge .. | .messageRecovered ..
  | .createSupportIntent .. | .supportBody .. | .submitSupport .. | .supportSignature ..
  | .supportRegistration .. | .createPlayback .. | .deliverStream .. | .opened .. | .data .. | .record ..
  | .closeSession .. | .trust _ => .isTrue trivial

instance (s : State) (a : Action) : Decidable (OneAtATime lib s a) :=
  match a with
  | .participation action =>
    inferInstanceAs (Decidable (Participation.OneAtATime lib s.clock s.participation action))
  | .wait _ | .registerDemoUser .. | .createChallenge .. | .verifyChallenge .. | .messageRecovered ..
  | .createSupportIntent .. | .supportBody .. | .submitSupport .. | .supportSignature ..
  | .supportRegistration .. | .createPlayback .. | .deliverStream .. | .opened .. | .data .. | .record ..
  | .closeSession .. | .trust _ => .isTrue trivial

/-- In every run in which each mail that opens an invitation finds its application not rejected and
without another live invitation, and each rejection finds no live invitation of the application, every
application has one live invitation at most, and none once it was rejected; and no invitation is claimed
that was not live. -/
theorem one_live_invitation (clock : Date) (actions : List Action)
    (hunguessed : EachStep (step lib config) (Unguessed lib) (start clock) actions)
    (hone : EachStep (step lib config) (OneAtATime lib) (start clock) actions) :
    AtEachMoment (step lib config) (fun s ↦ s.participation.OneLive lib s.clock) (start clock) actions ∧
      EachStep (step lib config) (fun s a ↦ ∀ invitationId,
          ∀ row ∈ (step lib config s a).participation.invitation invitationId, row.state = .claimed →
            s.participation.Live lib s.clock invitationId)
        (start clock) actions := by
  constructor
  · have horderly : AtEachMoment (step lib config)
        (fun s ↦ Participation.Orderly lib s.clock s.participation) (start clock) actions := by
      refine keeps_participation (P := fun now p ↦ Participation.Orderly lib now p)
        (fun s action hstep h ↦ ?_) (fun now later p hle h ↦ ⟨h.oneLive.later hle, h.kept, h.distinct⟩)
        (hunguessed.and hone) (Participation.orderly_empty lib clock)
      have heffect := Participation.serve_effect lib s.clock s.accounts s.participation action
      exact ⟨Participation.oneLive_step heffect hstep.1 hstep.2 h.kept h.distinct h.oneLive,
        Participation.creationsKept_step heffect h.kept,
        Participation.hashesDistinct_step heffect h.distinct⟩
    exact fun past hpast ↦ (horderly past hpast).oneLive
  · refine hunguessed.mono fun s a hstep invitationId row hrow hclaimed ↦ ?_
    by_cases hparticipation : ∃ action, a = .participation action
    · obtain ⟨action, rfl⟩ := hparticipation
      have heffect := Participation.serve_effect lib s.clock s.accounts s.participation action
      exact Participation.live_of_claimed heffect hstep hrow hclaimed
    · rw [step_participation_of_ne fun action ha ↦ hparticipation ⟨action, ha⟩] at hrow
      exact ⟨row, hrow, .inl hclaimed⟩

end Run

namespace Sample

/-- The first approval fails, and the approval is repeated. -/
def approvedAgain : List Action := [
  .participation (.approvalMail 0 false),
  .participation (.approvalReturned 0),
  .participation (.approve applicationId secondInvitation),
  .participation (.deliver 1)]

def applied : List Action := [
  .participation (.createApplication listener applicationId applicationBody),
  .participation (.approve applicationId firstInvitation)]

/-- The mail of the first approval was delivered all the same. -/
def mailedTwice : List Action := applied ++ [.participation (.deliver 0)] ++ approvedAgain

end Sample

/-- The mail of the first approval is lost. -/
theorem one_live_invitation_repeated :
    AtEachMoment (step Sample.library Sample.config)
        (fun s ↦ s.participation.OneLive Sample.library s.clock) (start Sample.clock)
        (Sample.applied ++ Sample.approvedAgain) ∧
      EachStep (step Sample.library Sample.config)
        (fun s a ↦ ∀ invitationId,
          ∀ row ∈ (step Sample.library Sample.config s a).participation.invitation invitationId,
            row.state = .claimed → s.participation.Live Sample.library s.clock invitationId)
        (start Sample.clock) (Sample.applied ++ Sample.approvedAgain) :=
  one_live_invitation Sample.library Sample.config Sample.clock _ (by decide +kernel) (by decide +kernel)

/-- Both invitations of the application can be claimed. -/
theorem two_live_invitations :
    ¬AtEachMoment (step Sample.library Sample.config)
      (fun s ↦ s.participation.OneLive Sample.library s.clock) (start Sample.clock)
      Sample.mailedTwice := by
  intro h
  have hlive : (fun s : State ↦
      s.participation.CreatedFor Sample.applicationId Sample.firstInvitation.invitationId ∧
      s.participation.CreatedFor Sample.applicationId Sample.secondInvitation.invitationId ∧
      s.participation.Live Sample.library s.clock Sample.firstInvitation.invitationId ∧
      s.participation.Live Sample.library s.clock Sample.secondInvitation.invitationId)
      (run (step Sample.library Sample.config) (start Sample.clock) Sample.mailedTwice) := by
    decide +kernel
  obtain ⟨hfirst, hsecond, hlive, hlive'⟩ := hlive
  have hsame := h.last.atMostOne Sample.applicationId _ _ hfirst hsecond hlive hlive'
  exact absurd hsame (by decide)

end Server

end CreatorFirst.Gateway
