import CreatorFirst.Gateway.ProfileChanges
import CreatorFirst.Gateway.ClaimedApplications
import CreatorFirst.Gateway.TierConfinement

/-!
# The wallet that claims an invitation

The signed proof of an invitation stays on the account until it is used up, and account trust can bind
another wallet in between. The claim writes the wallet that the account has then, which has signed for
the invitation as long as it is the one of the latest sign-in.
-/

namespace CreatorFirst.Gateway

open Database Process

namespace Participation

section Tokens

variable (lib : Library) (now : Date) (p : State)

/-- The token that the request generates for the invitation: it creates it or sends it again. -/
def Action.generates? (invitationId : String) : Action → Option String
  | .approve applicationId draws =>
    if draws.invitationId = invitationId ∧ (p.approve lib now applicationId draws).isOk then
      some draws.token
    else none
  | .createInvitation draws body =>
    if draws.invitationId = invitationId ∧ (p.createInvitation lib now draws body).isOk then
      some draws.token
    else none
  | .resend accountId idempotencyKey token =>
    match p.resendOwn lib now accountId idempotencyKey token with
    | .ok (.waiting _) => if p.ownInvitation accountId = some invitationId then some token else none
    | _ => none
  | _ => none

/-- The token that the request draws or brings along. -/
def Action.token? : Action → Option String
  | .approve _ draws | .createInvitation draws _ => some draws.token
  | .resend _ _ token | .claim _ token _ => some token
  | _ => none

variable {lib now p} {accounts : AccountId → Profile} {a : Action} {invitationId token : String}

theorem token?_of_generates (h : a.generates? lib now p invitationId = some token) :
    a.token? = some token := by
  cases a with
  | approve | createInvitation =>
    rw [Action.generates?, Option.ite_none_right_eq_some] at h
    exact h.2
  | resend =>
    rw [Action.generates?] at h
    split at h
    · rw [Option.ite_none_right_eq_some] at h
      exact h.2
    · cases h
  | _ => cases h

theorem tokenHash_of_created {p' : State} {draws : InvitationDraws} {contact : Contact}
    {flowVersion : FlowVersion} {expiresAt : Date}
    (h : p.createInvitationRow (newInvitation lib now draws contact flowVersion expiresAt) =
      some p'.invitations) :
    (p'.invitation invitationId).map (·.tokenHash) =
      if draws.invitationId = invitationId then some (lib.tokenHash draws.token)
      else (p.invitation invitationId).map (·.tokenHash) := by
  have hfound : p'.invitations.find? invitationId =
      if draws.invitationId = invitationId then
        some (newInvitation lib now draws contact flowVersion expiresAt)
      else p.invitations.find? invitationId :=
    Table.find?_insert (createInvitationRow_eq_some h).2 invitationId
  rw [State.invitation, hfound, apply_ite (Option.map _)]
  rfl

theorem tokenHash_approve (applicationId : String) (draws : InvitationDraws) :
    ((p.orElse (p.approve lib now applicationId draws)).invitation invitationId).map (·.tokenHash) =
      (((Action.approve applicationId draws).generates? lib now p invitationId).map lib.tokenHash).or
        ((p.invitation invitationId).map (·.tokenHash)) := by
  cases h : p.approve lib now applicationId draws with
  | error e => simp [Action.generates?, h, State.orElse, Except.isOk, Except.toBool]
  | ok p' =>
    have hinvitations : ∃ contact expiresAt,
        p.createInvitationRow (newInvitation lib now draws contact .v2 expiresAt) = some p'.invitations := by
      simp only [State.approve, bind_eq_ok, requireSome_eq_ok, requireValue_eq_ok] at h
      obtain ⟨r, hfound, -, happrovable, created, hcreated, h⟩ := h
      obtain ⟨contact, expiresAt, invitations, hinsert, rfl⟩ := createInvitation_eq_ok hcreated
      split at h
      · rw [pure_eq_ok] at h
        subst h
        exact ⟨contact, expiresAt, hinsert⟩
      · rw [pure_eq_ok] at h
        subst h
        exact ⟨contact, expiresAt, hinsert⟩
    obtain ⟨contact, expiresAt, hinsert⟩ := hinvitations
    rw [State.orElse, tokenHash_of_created hinsert]
    by_cases hid : draws.invitationId = invitationId
    · simp [Action.generates?, h, hid, Except.isOk, Except.toBool]
    · simp [Action.generates?, hid]

theorem tokenHash_createInvitation (draws : InvitationDraws) (body : InvitationBody) :
    ((p.orElse ((p.createInvitation lib now draws body).map fun created ↦
      { created with answered := created.answered ++ [draws.token] })).invitation invitationId).map
        (·.tokenHash) =
      (((Action.createInvitation draws body).generates? lib now p invitationId).map lib.tokenHash).or
        ((p.invitation invitationId).map (·.tokenHash)) := by
  cases h : p.createInvitation lib now draws body with
  | error e => simp [Action.generates?, h, State.orElse, Except.isOk, Except.toBool, Except.map]
  | ok created =>
    obtain ⟨contact, expiresAt, invitations, hinsert, rfl⟩ := createInvitation_eq_ok h
    have hhash : ((p.invited now draws.invitationId invitations).invitation invitationId).map
        (·.tokenHash) = _ := tokenHash_of_created hinsert
    refine hhash.trans ?_
    by_cases hid : draws.invitationId = invitationId
    · simp [Action.generates?, h, hid, Except.isOk, Except.toBool]
    · simp [Action.generates?, hid]

theorem tokenHash_resend (accountId : AccountId) (idempotencyKey : Option String) (drawn : String) :
    ((p.orElse ((p.resendOwn lib now accountId idempotencyKey drawn).map (·.state p))).invitation
      invitationId).map (·.tokenHash) =
      (((Action.resend accountId idempotencyKey drawn).generates? lib now p invitationId).map
        lib.tokenHash).or ((p.invitation invitationId).map (·.tokenHash)) := by
  cases h : p.resendOwn lib now accountId idempotencyKey drawn with
  | error e => simp [Action.generates?, h, State.orElse, Except.map]
  | ok result =>
    cases result with
    | replay response => simp [Action.generates?, h, State.orElse, Except.map, Resend.state]
    | waiting p' =>
      obtain ⟨id, key, row, window, rfl, hown, hresends, hstate, rfl⟩ := resendOwn_eq_ok h
      obtain rfl := hresends.id_eq
      have hfound := hresends.found
      simp only [Action.generates?, h, hown, Option.some.injEq]
      change ((p.rotatedInvitations lib now row window drawn).find? invitationId).map _ = _
      rw [State.rotatedInvitations, Table.find?_update, Table.find?_update, Option.map_map,
        Option.map_map]
      by_cases hid : row.invitationId = invitationId
      · rw [State.invitation] at hfound
        rw [if_pos hid, ← hid, hfound]
        simp [hstate, Invitation.rotate, Invitation.markResent]
      · have hne : invitationId ≠ row.invitationId := Ne.symm hid
        rw [if_neg hid]
        simp [hne, State.invitation, Function.comp_def]

/-- The hash of an invitation is the one of a token that is generated for it in this step, or the one it
had. -/
theorem tokenHash_change :
    ((serve lib now accounts p a).2.invitation invitationId).map (·.tokenHash) =
      ((a.generates? lib now p invitationId).map lib.tokenHash).or
        ((p.invitation invitationId).map (·.tokenHash)) := by
  have hchange := invitation_change (serve_effect lib now accounts p a) invitationId
  cases a with
  | approve applicationId draws => exact tokenHash_approve applicationId draws
  | createInvitation draws body => exact tokenHash_createInvitation draws body
  | resend accountId idempotencyKey drawn => exact tokenHash_resend accountId idempotencyKey drawn
  | _ =>
    change _ = Option.or none _
    rw [Option.none_or, State.invitation, State.invitation]
    generalize p.invitations.find? invitationId = before? at hchange ⊢
    generalize Table.find? (serve lib now accounts p _).2.invitations invitationId = after? at hchange ⊢
    cases hchange with
    | same | sent | claimed => rfl
    | created _ _ _ _ hdraws => cases hdraws
    | rotated _ _ _ _ _ ha => cases ha

end Tokens

section Claimed

variable {lib : Library} {now : Date} {accounts accounts' : AccountId → Profile} {p p' : State}
  {a : Action} {invitationId : String} {row : Invitation}

/-- A claimed invitation stays as it is. -/
theorem claimed_stays (heffect : Effect lib now accounts p a accounts' p')
    (h : p.invitation invitationId = some row) (hclaimed : row.state = .claimed) :
    p'.invitation invitationId = some row := by
  have hchange := invitation_change heffect invitationId
  rw [State.invitation] at h ⊢
  rw [h] at hchange
  generalize p'.invitations.find? invitationId = after? at hchange ⊢
  cases hchange with
  | same => rfl
  | sent row hstate => simp [hclaimed] at hstate
  | rotated _ _ _ _ _ _ _ hstate => simp [hclaimed] at hstate
  | claimed _ _ _ _ _ _ _ hclaims =>
    have hunclaimed := hclaims.unclaimed
    simp [hclaimed] at hunclaimed

/-- The invitation becomes claimed. -/
def BecomesClaimed (p p' : State) (row : Invitation) : Prop :=
  (∀ before, p.invitation row.invitationId = some before → before.state ≠ .claimed) ∧
    p'.invitation row.invitationId = some row ∧ row.state = .claimed

/-- An invitation becomes claimed by a claim that passes its checks. -/
theorem claim_of_becomesClaimed (heffect : Effect lib now accounts p a accounts' p')
    (h : BecomesClaimed p p' row) :
    ∃ accountId token body before wallet, a = .claim accountId token body ∧
      p.mayClaim lib now (accounts accountId) token body = .ok (before, some wallet) ∧
      row = (Invitation.claim wallet now).apply before := by
  obtain ⟨hbefore, hafter, hclaimed⟩ := h
  have hchange := invitation_change heffect row.invitationId
  rw [State.invitation] at hafter
  rw [hafter] at hchange
  generalize hfound : p.invitations.find? row.invitationId = before? at hchange
  cases hchange with
  | same => exact absurd hclaimed (hbefore row hfound)
  | created => cases hclaimed
  | sent => cases hclaimed
  | rotated accountId key token before window ha hown hstate =>
    exact absurd hclaimed (by simp [Invitation.markResent, Invitation.rotate, hstate])
  | claimed accountId token body before wallet ha hid hclaims hmay =>
    exact ⟨accountId, token, body, before, wallet, ha, hmay, rfl⟩

end Claimed

end Participation

/-- The message of the challenge names what its proof names. -/
def Challenge.Worded (config : ServerConfig) (challenge : Challenge) : Prop :=
  ∃ nonce issuedAt expiresAt, challenge.message =
    siweMessage config challenge.address nonce issuedAt expiresAt challenge.participantInvitationProof

theorem worded_of_createChallenge {lib : Library} {config : ServerConfig} {now : Date}
    {p : Participation.State} {accountId : AccountId} {draws : ChallengeDraws}
    {body : Except Failure ChallengeBody} {challenge : Challenge}
    (h : createChallenge lib config now p accountId draws body = .ok challenge) :
    challenge.Worded config := by
  simp only [createChallenge, bind_eq_ok, pure_eq_ok] at h
  obtain ⟨_, -, address, -, _, -, proof, -, expiresAt, -, hchallenge⟩ := h
  refine ⟨draws.nonce, now, expiresAt, ?_⟩
  rw [← hchallenge]

namespace Server

section SignIn

variable (lib : Library)

/-- The challenge of the account that is verified in this step. -/
def signIn? (accountId : AccountId) (s : State) : Action → Option Challenge
  | .messageRecovered other i =>
    if other = accountId then
      match s.request? accountId i with
      | some (.verifyChallenge challengeId signature) =>
        (s.challenges.find? challengeId).filter fun challenge ↦
          (challengeSigned lib challenge signature).isOk
      | _ => none
    else none
  | _ => none

/-- The token that is generated for the invitation in this step. -/
def generates? (invitationId : String) (s : State) : Action → Option String
  | .participation action => action.generates? lib s.clock s.participation invitationId
  | _ => none

variable {lib} {config : ServerConfig} {s : State} {a : Action} {accountId : AccountId}
  {challenge : Challenge}

theorem signIn?_eq_some :
    signIn? lib accountId s a = some challenge ↔
      ∃ i signature, a = .messageRecovered accountId i ∧
        s.request? accountId i = some (.verifyChallenge challenge.challengeId signature) ∧
        s.challenges.find? challenge.challengeId = some challenge ∧
        challengeSigned lib challenge signature = .ok () := by
  constructor
  · intro h
    cases a with
    | messageRecovered other i =>
      rw [signIn?] at h
      split at h
      · next hother =>
        subst hother
        split at h
        · next challengeId signature hrequest =>
          obtain ⟨hfound, hok⟩ := Option.filter_eq_some_iff.mp h
          obtain rfl := (Table.find?_eq_some.mp hfound).2
          refine ⟨i, signature, rfl, hrequest, hfound, ?_⟩
          cases hsigned : challengeSigned lib challenge signature with
          | error e => simp [hsigned, Except.isOk, Except.toBool] at hok
          | ok => rfl
        · cases h
      · cases h
    | _ => cases h
  · rintro ⟨i, signature, rfl, hrequest, hfound, hsigned⟩
    simp [signIn?, hrequest, hfound, hsigned, Except.isOk, Except.toBool]

/-- The account after a challenge was verified. -/
theorem accounts_of_signIn (h : signIn? lib accountId s a = some challenge) :
    (step lib config s a).accounts accountId = (s.accounts accountId).signedIn challenge := by
  obtain ⟨i, signature, rfl, hrequest, hfound, hsigned⟩ := signIn?_eq_some.mp h
  simp [step, serve, hrequest, hfound, messageRecovered, hsigned, State.setRequest, State.setAccount]

/-- The signed proof of an account was left by the challenge that is verified in this step, or it was
there before. -/
theorem proof_step {proof : InvitationProof}
    (h : ((step lib config s a).accounts accountId).participantInvitationProof = some proof) :
    (∃ challenge, signIn? lib accountId s a = some challenge ∧
        challenge.participantInvitationProof = some proof) ∨
      signIn? lib accountId s a = none ∧
        (s.accounts accountId).participantInvitationProof = some proof := by
  cases hsign : signIn? lib accountId s a with
  | some challenge =>
    rw [accounts_of_signIn hsign] at h
    exact .inl ⟨challenge, rfl, h⟩
  | none =>
    have hchange := profile_change lib config s a accountId
    generalize (step lib config s a).accounts accountId = profile at hchange h
    cases hchange with
    | same | registered | activated | passkey | bound => exact .inr ⟨rfl, h⟩
    | claimed => cases h
    | signedIn i challenge signature ha hrequest hfound hsigned =>
      rw [signIn?_eq_some.mpr ⟨i, signature, ha, hrequest, hfound, hsigned⟩] at hsign
      cases hsign

/-- Each challenge names what its proof names. -/
def State.Worded (config : ServerConfig) (s : State) : Prop :=
  ∀ k challenge, s.challenges.find? k = some challenge → challenge.Worded config

theorem worded_step (h : s.Worded config) : (step lib config s a).Worded config := by
  intro k challenge hfound
  have heffect := serve_effect lib config s a
  rw [step] at hfound
  generalize serve lib config s a = out at heffect hfound
  cases heffect with
  | challenged accountId draws body created reply hcreated =>
    replace hfound : (s.challenges.set created).find? k = some challenge := hfound
    rw [Table.find?_set] at hfound
    split at hfound
    · obtain rfl := Option.some.inj hfound
      exact worded_of_createChallenge hcreated
    · exact h k challenge hfound
  | signedIn accountId i verified signature reply hrequest hverified hsigned =>
    obtain hbefore | ⟨-, row, hrow, -, rfl⟩ := Table.find?_of_update hfound
    · exact h k challenge hbefore
    · exact h verified.challengeId row hrow
  | _ => exact h k challenge hfound

end SignIn

section Run

variable {lib : Library} {config : ServerConfig} {clock : Date} {actions past : List Action}
  {accountId : AccountId} {invitationId : String}

theorem worded_run : AtEachMoment (step lib config) (State.Worded config) (start clock) actions :=
  atEachMoment_of_kept (fun _ _ h ↦ worded_step h) fun _ _ hfound ↦ by
    simp [start, Table.find?, Table.empty] at hfound

/-- The signed proof of an account was left by its latest sign-in. -/
theorem proof_run {proof : InvitationProof}
    (h : ((run (step lib config) (start clock) actions).accounts accountId).participantInvitationProof =
      some proof) :
    ∃ challenge, latest (step lib config) (signIn? lib accountId) (start clock) actions = some challenge ∧
      challenge.participantInvitationProof = some proof := by
  induction actions using List.reverseRecOn with
  | nil => cases h
  | append_singleton past a ih =>
    rw [run_append] at h
    rw [latest_concat]
    obtain ⟨challenge, hsign, hproof⟩ | ⟨hsign, hbefore⟩ := proof_step h
    · rw [hsign]
      exact ⟨challenge, rfl, hproof⟩
    · rw [hsign, Option.none_or]
      exact ih hbefore

/-- The hash of an invitation is the one of the token that was generated last for it. -/
theorem tokenHash_run :
    ((run (step lib config) (start clock) actions).participation.invitation invitationId).map
        (·.tokenHash) =
      (latest (step lib config) (generates? lib invitationId) (start clock) actions).map
        lib.tokenHash := by
  induction actions using List.reverseRecOn with
  | nil => rfl
  | append_singleton past a ih =>
    rw [latest_concat, Option.map_or, ← ih, run_append]
    generalize run (step lib config) (start clock) past = s
    rw [run_cons, run_nil]
    cases a with
    | participation action => exact Participation.tokenHash_change
    | _ =>
      rw [step_participation_of_ne (by simp)]
      exact Option.none_or.symm

end Run

section Authentic

variable (lib : Library) (config : ServerConfig) (clock : Date)

/-- In this step the wallet signs, for the account, a message that names the invitation of the proof, its
roles and its consent. -/
def SignsInvitation (accountId : AccountId) (wallet : String) (proof : InvitationProof) (s : State)
    (a : Action) : Prop :=
  ∃ challenge, signIn? lib accountId s a = some challenge ∧ challenge.address = wallet ∧
    ∃ nonce issuedAt expiresAt,
      challenge.message = siweMessage config wallet nonce issuedAt expiresAt (some proof)

/-- The invitation is claimed by a wallet that has signed for it, before it expires, and with the token
that was generated last for it. -/
def ClaimedAuthentically (past : List Action) (a : Action) (row : Participation.Invitation) : Prop :=
  ∃ accountId token body wallet, a = .participation (.claim accountId token body) ∧
    row.claimedWallet = some wallet ∧
    Once (step lib config)
      (SignsInvitation lib config accountId wallet ⟨row.invitationId, row.roleBits, row.consentVersion⟩)
      (start clock) past ∧
    (run (step lib config) (start clock) past).clock.ms < row.expiresAt.ms ∧
    latest (step lib config) (generates? lib row.invitationId) (start clock) past = some token

/-- Every invitation that becomes claimed is claimed authentically, and then stays as it is. -/
structure InvitationsAuthentic (actions : List Action) : Prop where
  claimed : ∀ past a, past ++ [a] <+: actions → ∀ row,
    Participation.BecomesClaimed (run (step lib config) (start clock) past).participation
      (run (step lib config) (start clock) (past ++ [a])).participation row →
      ClaimedAuthentically lib config clock past a row
  stays : ∀ past later, past <+: later → later <+: actions → ∀ row,
    (run (step lib config) (start clock) past).participation.invitation row.invitationId = some row →
      row.state = .claimed →
        (run (step lib config) (start clock) later).participation.invitation row.invitationId = some row

/-- When a claim passes its checks, the wallet of the account is the address of its latest sign-in. -/
def ClaimsSignedWallet (past : List Action) : Action → Prop
  | .participation (.claim accountId token body) => ∀ row wallet,
    (run (step lib config) (start clock) past).participation.mayClaim lib
        (run (step lib config) (start clock) past).clock
        ((run (step lib config) (start clock) past).accounts accountId) token body =
          .ok (row, some wallet) →
      ∀ challenge, latest (step lib config) (signIn? lib accountId) (start clock) past = some challenge →
        ((run (step lib config) (start clock) past).accounts accountId).walletAddress =
          some challenge.address
  | _ => True

/-- The token of a request for the participation services. -/
def Action.token? : Action → Option String
  | .participation action => action.token?
  | _ => none

/-- Different tokens of the run have different hashes. -/
def TokensDistinct (actions : List Action) : Prop :=
  ∀ a ∈ actions, ∀ b ∈ actions, ∀ t ∈ a.token?, ∀ u ∈ b.token?,
    lib.tokenHash t = lib.tokenHash u → t = u

instance (actions : List Action) : Decidable (TokensDistinct lib actions) :=
  inferInstanceAs (Decidable (∀ _ ∈ _, _))

variable {lib config clock} {actions : List Action}

theorem token?_of_generates {invitationId token : String} {s : State} {a : Action}
    (h : generates? lib invitationId s a = some token) : a.token? = some token := by
  cases a with
  | participation action => exact Participation.token?_of_generates h
  | _ => cases h

/-- The claimed wallet has signed for the invitation. -/
theorem once_signsInvitation {past : List Action} {accountId : AccountId} {token : String}
    {row : Participation.Invitation} {wallet : String} {challenge : Challenge}
    (haddress : ∀ text address, lib.getAddress text = some address → lib.getAddress address = some address)
    (hclaims : Participation.Claims lib (run (step lib config) (start clock) past).clock
      (run (step lib config) (start clock) past).participation
      ((run (step lib config) (start clock) past).accounts accountId) token row wallet)
    (hlatest : latest (step lib config) (signIn? lib accountId) (start clock) past = some challenge)
    (hproof : challenge.participantInvitationProof =
      some ⟨row.invitationId, row.roleBits, row.consentVersion⟩)
    (hwallet : ((run (step lib config) (start clock) past).accounts accountId).walletAddress =
      some challenge.address) :
    Once (step lib config)
      (SignsInvitation lib config accountId wallet ⟨row.invitationId, row.roleBits, row.consentVersion⟩)
      (start clock) past := by
  obtain ⟨earlier, a, hearlier, hsign⟩ := once_of_latest hlatest
  obtain ⟨i, signature, -, -, hfound, hsigned⟩ := signIn?_eq_some.mp hsign
  obtain ⟨signer, -, hsigner⟩ := recovers_of_challengeSigned hsigned
  obtain ⟨walletAddress, hheld, hchecked⟩ := hclaims.address
  obtain rfl : walletAddress = challenge.address := Option.some.inj (hheld.symm.trans hwallet)
  have hsame : challenge.address = wallet :=
    Option.some.inj ((haddress signer _ hsigner).symm.trans hchecked)
  have hworded : (run (step lib config) (start clock) earlier).Worded config :=
    worded_run earlier ((List.prefix_append earlier [a]).trans hearlier)
  obtain ⟨nonce, issuedAt, expiresAt, hmessage⟩ := hworded _ challenge hfound
  rw [hproof, hsame] at hmessage
  exact ⟨earlier, a, hearlier, challenge, hsign, hsame, nonce, issuedAt, expiresAt, hmessage⟩

theorem claimedAuthentically_of_becomesClaimed
    (haddress : ∀ text address, lib.getAddress text = some address → lib.getAddress address = some address)
    (htokens : TokensDistinct lib actions)
    (hsigned : ∀ past a, past ++ [a] <+: actions → ClaimsSignedWallet lib config clock past a)
    {past : List Action} {a : Action} (hpast : past ++ [a] <+: actions) {row : Participation.Invitation}
    (h : Participation.BecomesClaimed (run (step lib config) (start clock) past).participation
      (step lib config (run (step lib config) (start clock) past) a).participation row) :
    ClaimedAuthentically lib config clock past a row := by
  cases a with
  | participation action =>
    obtain ⟨accountId, token, body, before, wallet, rfl, hmay, rfl⟩ :=
      Participation.claim_of_becomesClaimed (Participation.serve_effect lib
        (run (step lib config) (start clock) past).clock
        (run (step lib config) (start clock) past).accounts
        (run (step lib config) (start clock) past).participation action) h
    have hclaims := Participation.claims_of_mayClaim hmay
    obtain ⟨proof, hheld, hid, hroles, hconsent⟩ := hclaims.named
    obtain ⟨challenge, hlatest, hproof⟩ := proof_run hheld
    obtain rfl : proof = ⟨before.invitationId, before.roleBits, before.consentVersion⟩ := by
      rw [← hid, ← hroles, ← hconsent]
    have honce := once_signsInvitation haddress hclaims hlatest hproof
      (hsigned past _ hpast before wallet hmay challenge hlatest)
    refine ⟨accountId, token, body, wallet, rfl, rfl, honce, hclaims.unexpired, ?_⟩
    have hhash : ((run (step lib config) (start clock) past).participation.invitation
          before.invitationId).map (·.tokenHash) = _ := tokenHash_run
    have hfound := Table.find?_key hclaims.mem
    rw [Participation.State.invitation, hfound, Option.map_some, hclaims.tokenHash_eq] at hhash
    obtain ⟨generated, hgenerated, hsame⟩ := Option.map_eq_some_iff.mp hhash.symm
    obtain ⟨earlier, b, hearlier, hb⟩ := once_of_latest hgenerated
    have hbmem : b ∈ actions :=
      ((hearlier.trans (List.prefix_append past _)).trans hpast).subset (by simp)
    have hlast := hpast.subset (by simp : Action.participation (.claim accountId token body) ∈ _)
    obtain rfl : generated = token :=
      htokens b hbmem _ hlast generated (token?_of_generates hb) token rfl hsame
    exact hgenerated
  | _ =>
    rw [step_participation_of_ne (by simp)] at h
    exact absurd h.2.2 (h.1 row h.2.1)

theorem claimed_invitation_stays {s : State} {row : Participation.Invitation} (hclaimed : row.state = .claimed)
    (h : s.participation.invitation row.invitationId = some row) (later : List Action) :
    (run (step lib config) s later).participation.invitation row.invitationId = some row := by
  refine (atEachMoment_of_kept (P := fun s : State ↦ s.participation.invitation row.invitationId = some row)
    (fun s a hfound ↦ ?_) h).last
  cases a with
  | participation action =>
    exact Participation.claimed_stays
      (Participation.serve_effect lib s.clock s.accounts s.participation action) hfound hclaimed
  | _ =>
    rw [step_participation_of_ne (by simp)]
    exact hfound

/-- In every run in which each claim that passes its checks finds the wallet of the latest sign-in on its
account, every invitation that becomes claimed is claimed by a wallet that has signed for it, before it
expires and with its latest token, and stays as it is. -/
theorem invitations_authentic (lib : Library) (config : ServerConfig) (clock : Date) (actions : List Action)
    (haddress : ∀ text address, lib.getAddress text = some address → lib.getAddress address = some address)
    (htokens : TokensDistinct lib actions)
    (hsigned : ∀ past a, past ++ [a] <+: actions → ClaimsSignedWallet lib config clock past a) :
    InvitationsAuthentic lib config clock actions where
  claimed past a hpast row hbecomes := by
    rw [run_append] at hbecomes
    exact claimedAuthentically_of_becomesClaimed haddress htokens hsigned hpast hbecomes
  stays past later hpast _ row hfound hclaimed := by
    obtain ⟨rest, rfl⟩ := hpast
    rw [run_append]
    exact claimed_invitation_stays hclaimed hfound rest

end Authentic

namespace Sample

/-- The listener is approved, reads the mail and signs for the invitation with the first wallet. -/
def invitedAndSigned : List Action := approval ++ [
  .participation (.deliver 0),
  .createChallenge listener challengeDraws (.ok invitationChallenge),
  .verifyChallenge listener (.ok (some
    ⟨some challengeDraws.challengeId, some invitationMessage, some invitationSignature⟩)),
  .messageRecovered listener 0]

/-- Then it binds the second wallet to its account. -/
def reboundWallet : List Action := registration ++ [
  .trust (.registrationVerified listener 1 (.verified (passkey "AYbX0nE6p2q5"))),
  .trust (.walletOptions listener beginDraws.bindingId
    (some { walletBody with walletAddress := some secondWallet }) bindingNonce),
  .trust (.verifyWallet listener beginDraws.bindingId
    (some ⟨some beginDraws.csrfToken, some secondBindingSignature⟩)),
  .trust (.walletRecovered listener 2)]

def claimFirst : Action :=
  .participation (.claim listener firstToken (some { acceptedParticipation := true }))

theorem getAddress_getAddress (text address : String) (h : library.getAddress text = some address) :
    library.getAddress address = some address := by
  obtain ⟨hmem, htext⟩ := Option.ite_none_right_eq_some.mp h
  obtain rfl := Option.some.inj htext
  exact h

/-- The second wallet has signed no message. -/
theorem not_recovers_second (message signature : String) :
    ¬Recovers library (library.recoverMessageAddress message signature) secondWallet := by
  rintro ⟨signer, hsigner, haddress⟩
  have hfirst : signer = firstWallet := by
    have hlookup : [(siweSignature, firstWallet), (invitationSignature, firstWallet)].lookup signature =
        some signer := hsigner
    rw [List.lookup_cons] at hlookup
    split at hlookup
    · exact (Option.some.inj hlookup).symm
    · rw [List.lookup_cons] at hlookup
      split at hlookup
      · exact (Option.some.inj hlookup).symm
      · cases hlookup
  rw [hfirst] at haddress
  exact absurd haddress (by decide +kernel)

end Sample

/-- The first wallet claims the invitation that it has signed for. -/
theorem invitations_authentic_signed :
    InvitationsAuthentic Sample.library Sample.config Sample.clock
      (Sample.invitedAndSigned ++ [Sample.claimFirst]) := by
  refine invitations_authentic Sample.library Sample.config Sample.clock _ Sample.getAddress_getAddress
    (by decide +kernel) fun past a hpast ↦ ?_
  obtain hlast | hearlier := List.prefix_concat_iff.mp hpast
  · obtain ⟨rfl, hclaim⟩ := List.append_inj' hlast rfl
    obtain rfl : a = Sample.claimFirst := by simpa using hclaim
    intro row wallet _ challenge hchallenge
    have hwallet : (latest (step Sample.library Sample.config) (signIn? Sample.library Sample.listener)
        (start Sample.clock) Sample.invitedAndSigned).map (·.address) =
          ((run (step Sample.library Sample.config) (start Sample.clock)
            Sample.invitedAndSigned).accounts Sample.listener).walletAddress := by
      decide +kernel
    rw [hchallenge] at hwallet
    exact hwallet.symm
  · have hmem : a ∈ Sample.invitedAndSigned := hearlier.subset (by simp)
    cases a with
    | participation action =>
      cases action with
      | claim => simp [Sample.invitedAndSigned, Sample.approval, Sample.approving] at hmem
      | _ => trivial
    | _ => trivial

/-- The second wallet claims the invitation and has signed nothing. -/
theorem invitation_claimed_unsigned :
    ¬InvitationsAuthentic Sample.library Sample.config Sample.clock
      (Sample.invitedAndSigned ++ Sample.reboundWallet ++ [Sample.claimFirst]) := by
  intro h
  have hrun : (fun s : State ↦
      (∀ before ∈ s.participation.invitation Sample.firstInvitation.invitationId,
        before.state ≠ .claimed) ∧
      ∃ row ∈ (step Sample.library Sample.config s Sample.claimFirst).participation.invitation
        Sample.firstInvitation.invitationId,
        row.invitationId = Sample.firstInvitation.invitationId ∧ row.state = .claimed ∧
          row.claimedWallet = some Sample.secondWallet)
      (run (step Sample.library Sample.config) (start Sample.clock)
        (Sample.invitedAndSigned ++ Sample.reboundWallet)) := by
    decide +kernel
  obtain ⟨hbefore, row, hrow, hid, hclaimed, hsecond⟩ := hrun
  have hauthentic := h.claimed (Sample.invitedAndSigned ++ Sample.reboundWallet) Sample.claimFirst
    List.prefix_rfl row
    ⟨fun before hfound ↦ hbefore before (hid ▸ hfound), by rw [run_append, hid]; exact hrow, hclaimed⟩
  obtain ⟨accountId, token, body, wallet, -, hwallet, honce, -⟩ := hauthentic
  obtain rfl : wallet = Sample.secondWallet := Option.some.inj (hwallet.symm.trans hsecond)
  obtain ⟨earlier, b, -, challenge, hsign, haddress, -⟩ := honce
  obtain ⟨i, signature, -, -, -, hsigned⟩ := signIn?_eq_some.mp hsign
  have hrecovers := recovers_of_challengeSigned hsigned
  rw [haddress] at hrecovers
  exact Sample.not_recovers_second challenge.message signature hrecovers

end Server

end CreatorFirst.Gateway
