import CreatorFirst.Gateway.OwnRequests
import CreatorFirst.Gateway.OwnerStore

/-!
# Isolation of the accounts

The requests of sign-in, of support and of playback read and write what belongs to their account alone,
apart from the budget of the month. So an account cannot tell whether the requests of the others have
been made.
-/

namespace CreatorFirst.Gateway.Server

open Database Process

section Part

/-- The account that a scope begins with. -/
def scopeOwner (scope : String) : List Char := scope.toList.takeWhile (· ≠ ':')

theorem scopeOwner_idempotencyScope (accountId : AccountId) (key : String) :
    scopeOwner (idempotencyScope accountId key) = accountId.text.toList := by
  have htext : ∀ c ∈ accountId.text.toList, decide (c ≠ ':') = true := by
    intro c hc
    rw [decide_eq_true_eq]
    rintro rfl
    exact accountId.noColon hc
  rw [scopeOwner, idempotencyScope, String.toList_append, String.toList_append, List.append_assoc,
    List.takeWhile_append_of_pos htext]
  simp

/-- What belongs to the account. -/
def State.partOf (s : State) (accountId : AccountId) : State where
  clock := s.clock
  accounts := Function.update (fun _ ↦ {}) accountId (s.accounts accountId)
  challenges := s.challenges.restrict (·.ownerId = accountId)
  supportIntents := s.supportIntents.restrict (·.ownerId = accountId)
  supportIdempotency := s.supportIdempotency.restrict (scopeOwner ·.scope = accountId.text.toList)
  store := s.store.ofOwner accountId.text
  requests := Function.update (fun _ ↦ []) accountId (s.requests accountId)
  trust := s.trust
  participation := s.participation

/-- A request of sign-in without an invitation, of support or of playback, or the passing of time. -/
def Action.Listed : Action → Prop
  | .createChallenge _ _ (.ok body) => body.invitationToken = none
  | .registerDemoUser _ _ | .trust _ | .participation _ => False
  | _ => True

/-- The action is not a request of another account. -/
def Action.concerns (accountId : AccountId) (a : Action) : Bool := a.accountId?.all (· = accountId)

variable {s : State} {accountId other : AccountId} {profile : Profile} {request : Request} {i : ℕ}

@[simp]
theorem partOf_accounts : (s.partOf accountId).accounts accountId = s.accounts accountId := by
  simp only [State.partOf, Function.update_self]

@[simp]
theorem partOf_account : (s.partOf accountId).account accountId = s.account accountId := by
  rw [State.account, partOf_accounts, State.account]

@[simp]
theorem partOf_requests : (s.partOf accountId).requests accountId = s.requests accountId := by
  simp only [State.partOf, Function.update_self]

@[simp]
theorem partOf_request? : (s.partOf accountId).request? accountId i = s.request? accountId i := by
  rw [State.request?, partOf_requests, State.request?]

theorem partOf_start (clock : Date) : (start clock).partOf accountId = start clock := by
  have haccounts : Function.update (fun _ ↦ {}) accountId ((start clock).accounts accountId) =
      (start clock).accounts := Function.update_eq_self accountId _
  have hrequests : Function.update (fun _ ↦ []) accountId ((start clock).requests accountId) =
      (start clock).requests := Function.update_eq_self accountId _
  rw [State.partOf, haccounts, hrequests]
  rfl

theorem partOf_partOf : (s.partOf accountId).partOf accountId = s.partOf accountId := by
  rw [State.partOf, partOf_accounts, partOf_requests]
  simp only [State.partOf, Table.restrict_restrict, Store.ofOwner_ofOwner]

theorem setAccount_partOf :
    (s.setAccount accountId profile).partOf accountId =
      (s.partOf accountId).setAccount accountId profile := by
  simp [State.setAccount, State.partOf]

theorem setAccount_of_ne (h : other ≠ accountId) :
    (s.setAccount other profile).partOf accountId = s.partOf accountId := by
  simp [State.setAccount, State.partOf, Function.update_of_ne h.symm]

theorem setRequest_partOf :
    (s.setRequest accountId i request).partOf accountId =
      (s.partOf accountId).setRequest accountId i request := by
  simp [State.setRequest, State.partOf]

theorem setRequest_of_ne (h : other ≠ accountId) :
    (s.setRequest other i request).partOf accountId = s.partOf accountId := by
  simp [State.setRequest, State.partOf, Function.update_of_ne h.symm]

theorem suspend_partOf :
    (s.suspend accountId request).partOf accountId = (s.partOf accountId).suspend accountId request := by
  simp [State.suspend, State.partOf]

theorem suspend_of_ne (h : other ≠ accountId) :
    (s.suspend other request).partOf accountId = s.partOf accountId := by
  simp [State.suspend, State.partOf, Function.update_of_ne h.symm]

variable {challenges part : Table Challenge.challengeId}
  {supportIntents intentsPart : Table SupportIntent.requestId}
  {supportIdempotency repliesPart : Table SupportReply.scope} {store storePart : Store}

theorem withChallenges_partOf (h : challenges.restrict (·.ownerId = accountId) = part) :
    State.partOf { s with challenges } accountId = { s.partOf accountId with challenges := part } := by
  subst h
  rfl

theorem withSupportIntents_partOf (h : supportIntents.restrict (·.ownerId = accountId) = intentsPart) :
    State.partOf { s with supportIntents } accountId =
      { s.partOf accountId with supportIntents := intentsPart } := by
  subst h
  rfl

theorem withSupport_partOf (hintents : supportIntents.restrict (·.ownerId = accountId) = intentsPart)
    (hreplies : supportIdempotency.restrict (scopeOwner ·.scope = accountId.text.toList) = repliesPart) :
    State.partOf { s with supportIntents, supportIdempotency } accountId =
      { s.partOf accountId with
        supportIntents := intentsPart
        supportIdempotency := repliesPart } := by
  subst hintents hreplies
  rfl

theorem withStore_partOf (h : store.ofOwner accountId.text = storePart) :
    State.partOf { s with store } accountId = { s.partOf accountId with store := storePart } := by
  subst h
  rfl

end Part

section Own

/-! ### Requests of the account -/

variable {lib : Library} {config : ServerConfig} {s : State} {accountId : AccountId}

theorem mayVerifyChallenge_restrict {now : Date} {challenges : Table Challenge.challengeId}
    {body : Except Failure (Option VerifyBody)} :
    mayVerifyChallenge now (challenges.restrict (·.ownerId = accountId)) accountId body =
      mayVerifyChallenge now challenges accountId body := by
  have hfound : ∀ challengeId : Option String,
      ((challengeId.bind (challenges.restrict (·.ownerId = accountId)).find?).filter fun challenge ↦
        challenge.ownerId = accountId && !challenge.used && now.ms < challenge.expiresAt) =
      (challengeId.bind challenges.find?).filter fun challenge ↦
        challenge.ownerId = accountId && !challenge.used && now.ms < challenge.expiresAt := by
    intro challengeId
    cases challengeId with
    | none => rfl
    | some k =>
      rw [Option.bind_some, Table.find?_restrict, Option.filter_filter, Option.bind_some]
      congr 1
      funext challenge
      by_cases howner : challenge.ownerId = accountId <;> simp [howner]
  unfold mayVerifyChallenge
  simp only [hfound]

theorem maySubmitSupport_restrict {now : Date} {supportIntents : Table SupportIntent.requestId}
    {requestId : String} :
    maySubmitSupport now accountId (supportIntents.restrict (·.ownerId = accountId)) requestId =
      maySubmitSupport now accountId supportIntents requestId := by
  rw [maySubmitSupport, Table.find?_restrict, Option.filter_filter, maySubmitSupport]
  congr 2
  funext intent
  by_cases howner : intent.ownerId = accountId <;> simp [howner]

theorem mayPollSupport_restrict {supportIntents : Table SupportIntent.requestId} {requestId : String} :
    mayPollSupport accountId (supportIntents.restrict (·.ownerId = accountId)) requestId =
      mayPollSupport accountId supportIntents requestId := by
  rw [mayPollSupport, Table.find?_restrict, Option.filter_filter, mayPollSupport]
  simp

theorem scope_of_supportRequest {profile : Profile} {artistId : String}
    {body : Except Failure SupportBody} {request : SupportRequest}
    (h : supportRequest lib profile accountId artistId body = .ok request) :
    scopeOwner request.scope = accountId.text.toList := by
  simp only [supportRequest, bind_eq_ok, pure_eq_ok] at h
  obtain ⟨_, -, _, -, _, -, _, -, key, -, rfl⟩ := h
  exact scopeOwner_idempotencyScope accountId key

/-- The request does on what belongs to the account what it does on the whole state. -/
def Local (s : State) (accountId : AccountId) (serve : State → Served) : Prop :=
  serve (s.partOf accountId) = ((serve s).1.partOf accountId, (serve s).2)

variable (lib config s accountId)

theorem createChallenge_local (draws : ChallengeDraws) (body : Except Failure ChallengeBody)
    (hfresh : s.challenges.find? draws.challengeId = none) :
    Local s accountId (createChallenge lib config · accountId draws body) := by
  have hsame : Gateway.createChallenge lib config (s.partOf accountId).clock
      (s.partOf accountId).participation accountId draws body =
        Gateway.createChallenge lib config s.clock s.participation accountId draws body := rfl
  simp only [Local, createChallenge, hsame]
  cases hchallenge : Gateway.createChallenge lib config s.clock s.participation accountId draws body with
  | error e => rfl
  | ok challenge =>
    have hfree : s.challenges.find? challenge.challengeId = none := by
      rwa [createChallenge_challengeId hchallenge]
    have howner := createChallenge_ownerId hchallenge
    dsimp only
    rw [withChallenges_partOf (Table.restrict_set hfree howner)]
    rfl

theorem verifyChallenge_local (body : Except Failure (Option VerifyBody)) :
    Local s accountId (verifyChallenge · accountId body) := by
  have hsame : mayVerifyChallenge (s.partOf accountId).clock (s.partOf accountId).challenges accountId
      body = mayVerifyChallenge s.clock s.challenges accountId body := mayVerifyChallenge_restrict
  simp only [Local, verifyChallenge, hsame]
  cases mayVerifyChallenge s.clock s.challenges accountId body with
  | error e => rfl
  | ok held => simp only [suspend_partOf]

theorem messageRecovered_local (i : ℕ) (challenge : Challenge) (signature : String) :
    Local s accountId (messageRecovered lib · accountId i challenge signature) := by
  simp only [Local, messageRecovered]
  cases challengeSigned lib challenge signature with
  | error e => simp only [setRequest_partOf]
  | ok =>
    simp only [setRequest_partOf, setAccount_partOf, partOf_accounts]
    rw [withChallenges_partOf (Table.restrict_update fun _ ↦ Iff.rfl)]
    rfl

theorem createSupportIntent_local (artistId : String) :
    Local s accountId (createSupportIntent · accountId artistId) := by
  simp only [Local, createSupportIntent, partOf_accounts]
  cases mayRequestSupport (s.accounts accountId) with
  | error e => rfl
  | ok => simp only [suspend_partOf]

theorem supportBody_local (artistId : String) (draws : SupportDraws) (body : Except Failure SupportBody)
    (hfresh : s.supportIntents.find? draws.requestId = none) :
    Local s accountId (supportBody lib config · accountId artistId draws body) := by
  simp only [Local, supportBody, partOf_accounts]
  cases hrequest : supportRequest lib (s.accounts accountId) accountId artistId body with
  | error e => rfl
  | ok request =>
    have hscope := scope_of_supportRequest hrequest
    have hprior : (s.partOf accountId).supportIdempotency.find? request.scope =
        s.supportIdempotency.find? request.scope := by
      refine Table.find?_restrict_of_found fun prior hprior ↦ ?_
      rwa [(Table.find?_eq_some.mp hprior).2]
    simp only [hprior]
    cases hfound : s.supportIdempotency.find? request.scope with
    | some prior => rfl
    | none =>
      have hintents := Table.restrict_set (q := fun intent ↦ intent.ownerId = accountId)
        (r := newSupportIntent config s.clock accountId artistId draws request) hfresh rfl
      have hreplies := Table.restrict_set
        (q := fun reply : SupportReply ↦ scopeOwner reply.scope = accountId.text.toList)
        (r := ⟨request.scope, request.hash,
          supportResult (newSupportIntent config s.clock accountId artistId draws request) request⟩)
        hfound hscope
      dsimp only
      rw [withSupport_partOf hintents hreplies]
      rfl

theorem submitSupport_local (requestId : String) :
    Local s accountId (submitSupport · accountId requestId) := by
  have hsame : maySubmitSupport (s.partOf accountId).clock accountId (s.partOf accountId).supportIntents
      requestId = maySubmitSupport s.clock accountId s.supportIntents requestId := maySubmitSupport_restrict
  simp only [Local, submitSupport, hsame]
  cases maySubmitSupport s.clock accountId s.supportIntents requestId with
  | error e => rfl
  | ok intent =>
    dsimp only
    split
    · rfl
    · simp only [suspend_partOf]

theorem supportSignature_local (intent : SupportIntent) (body : Except Failure (Option String)) :
    Local s accountId (supportSignature lib · intent body) := by
  simp only [Local, supportSignature]
  cases supportSigned lib intent body with
  | error e => rfl
  | ok =>
    dsimp only
    rw [withSupportIntents_partOf (Table.restrict_update fun _ ↦ Iff.rfl)]
    rfl

theorem supportRegistration_local (requestId : String) :
    Local s accountId (supportRegistration · accountId requestId) := by
  have hsame : mayPollSupport accountId (s.partOf accountId).supportIntents requestId =
      mayPollSupport accountId s.supportIntents requestId := mayPollSupport_restrict
  simp only [Local, supportRegistration, hsame]
  cases mayPollSupport accountId s.supportIntents requestId with
  | error e => rfl
  | ok intent =>
    have hclock : (s.partOf accountId).clock = s.clock := rfl
    simp only [hclock]
    split
    · rw [setAccount_partOf, withSupportIntents_partOf (Table.restrict_update fun _ ↦ Iff.rfl),
        partOf_accounts]
      rfl
    · rfl

theorem createPlayback_local (draws : Draws) (body : Except Failure Body) (hattributed : s.store.Attributed)
    (hdecision : s.store.decisions.find? draws.decisionId = none)
    (hsession : s.store.session draws.playbackSessionId = none)
    (hbudget : ∀ request track, ReachesBudget (s.account accountId) body s.store request track →
      (BudgetSpent config.toConfig s.clock (s.partOf accountId).store ↔
        BudgetSpent config.toConfig s.clock s.store)) :
    Local s accountId (createPlayback lib config · accountId draws body) := by
  have hown : (Gateway.createPlayback config.toConfig (playbackHash lib) s.clock (s.account accountId) draws
      body).execute (s.store.ofOwner (s.account accountId).accountId) = _ :=
    createPlayback_ofOwner hattributed hdecision hsession hbudget
  have hstore : (s.partOf accountId).store = s.store.ofOwner (s.account accountId).accountId := rfl
  have hclock : (s.partOf accountId).clock = s.clock := rfl
  simp only [Local, createPlayback, partOf_account, hstore, hclock, hown]
  rw [withStore_partOf rfl]
  rfl

theorem deliverStream_local (sessionId : String) :
    Local s accountId (deliverStream · accountId sessionId) := by
  have hown : (Gateway.deliverStream s.clock (s.account accountId) sessionId).execute
      (s.store.ofOwner (s.account accountId).accountId) = _ := deliverStream_ofOwner
  have hstore : (s.partOf accountId).store = s.store.ofOwner (s.account accountId).accountId := rfl
  have hclock : (s.partOf accountId).clock = s.clock := rfl
  simp only [Local, deliverStream, partOf_account, hstore, hclock, hown]
  generalize (Gateway.deliverStream s.clock (s.account accountId) sessionId).execute s.store = out
  obtain ⟨result, store⟩ := out
  cases result with
  | error e =>
    dsimp only
    rw [withStore_partOf rfl]
    rfl
  | ok session =>
    dsimp only
    rw [suspend_partOf, withStore_partOf rfl]
    rfl

theorem opened_local (i : ℕ) (session : Session) (startedAt : Date) (answer : Except OpenError Delivery) :
    Local s accountId (opened · accountId i session startedAt answer) := by
  have hstart : (s.store.setSessionState session.sessionId .started).ofOwner accountId.text =
      (s.store.ofOwner accountId.text).setSessionState session.sessionId .started :=
    Store.updateSession_ofOwner fun _ ↦ rfl
  cases answer with
  | error e =>
    cases e with
    | range =>
      simp only [Local, opened, startDelivery, execute_pure]
      rw [setRequest_partOf]
    | other =>
      simp only [Local, opened, startDelivery, execute_throw]
      rw [setRequest_partOf]
  | ok delivery =>
    have hpart := withStore_partOf (s := s) hstart
    simp only [Local, opened, startDelivery, execute_bind, execute_modify, execute_pure]
    rw [setRequest_partOf, hpart]
    rfl

theorem closeSession_local (sessionId : String) :
    Local s accountId (fun s ↦
      ({ s with store := (s.store.closeSession sessionId accountId.text).1 }, some (.ok .closed))) := by
  rw [Local, withStore_partOf closeSession_ofOwner]
  rfl

/-- If the request gets as far as the check of the budget, the check has the same answer in both states. -/
def BudgetAgrees (s s' : State) : Action → Prop
  | .createPlayback other _ body => other = accountId → ∀ request track,
    ReachesBudget (s.account accountId) body s.store request track →
      (BudgetSpent config.toConfig s'.clock s'.store ↔ BudgetSpent config.toConfig s.clock s.store)
  | _ => True

variable {lib config s accountId} {a : Action}

/-- A request of the account does on what belongs to the account what it does on the whole state. -/
theorem serve_local (howned : s.Owned) (hattributed : s.store.Attributed) (hfresh : Fresh s a)
    (hlisted : a.Listed) (haccount : a.accountId? = some accountId)
    (hbudget : BudgetAgrees config accountId s (s.partOf accountId) a) :
    Local s accountId (serve lib config · a) := by
  cases a with
  | wait | participation => cases haccount
  | registerDemoUser | trust => exact hlisted.elim
  | createChallenge other draws body =>
    cases haccount
    exact createChallenge_local lib config s accountId draws body hfresh
  | verifyChallenge other body =>
    cases haccount
    exact verifyChallenge_local s accountId body
  | messageRecovered other i =>
    cases haccount
    simp only [Local, serve, partOf_request?]
    split
    · next challengeId signature hrequest =>
      obtain ⟨found, hfound, howner⟩ := howned.own hrequest
      have hsame : (s.partOf accountId).challenges.find? challengeId = s.challenges.find? challengeId := by
        refine Table.find?_restrict_of_found fun r hr ↦ ?_
        rwa [Option.some.inj (hr.symm.trans hfound)]
      simp only [hsame, hfound]
      exact messageRecovered_local lib s accountId i found signature
    · rfl
  | createSupportIntent other artistId =>
    cases haccount
    exact createSupportIntent_local s accountId artistId
  | supportBody other i draws body =>
    cases haccount
    simp only [Local, serve, partOf_request?]
    split
    · next artistId _ =>
      have hlocal := supportBody_local lib config (s.setRequest accountId i .ended) accountId artistId draws
        body hfresh
      rwa [Local, setRequest_partOf] at hlocal
    · rfl
  | submitSupport other requestId =>
    cases haccount
    exact submitSupport_local s accountId requestId
  | supportSignature other i body =>
    cases haccount
    simp only [Local, serve, partOf_request?]
    split
    · next requestId hrequest =>
      obtain ⟨found, hfound, howner⟩ := howned.own hrequest
      have hsame : (s.partOf accountId).supportIntents.find? requestId =
          s.supportIntents.find? requestId := by
        refine Table.find?_restrict_of_found fun r hr ↦ ?_
        rwa [Option.some.inj (hr.symm.trans hfound)]
      simp only [hsame, hfound]
      have hlocal := supportSignature_local lib (s.setRequest accountId i .ended) accountId found body
      rwa [Local, setRequest_partOf] at hlocal
    · rfl
  | supportRegistration other requestId =>
    cases haccount
    exact supportRegistration_local s accountId requestId
  | createPlayback other draws body =>
    cases haccount
    exact createPlayback_local lib config s accountId draws body hattributed hfresh.1 hfresh.2 (hbudget rfl)
  | deliverStream other sessionId =>
    cases haccount
    exact deliverStream_local s accountId sessionId
  | opened other i answer =>
    cases haccount
    simp only [Local, serve, partOf_request?]
    split
    · next session startedAt _ => exact opened_local s accountId i session startedAt answer
    · rfl
  | data other i length =>
    cases haccount
    simp only [Local, serve, partOf_request?]
    split
    · rw [setRequest_partOf]
    · rfl
  | record other i evidenceId =>
    cases haccount
    simp only [Local, serve, partOf_request?]
    split
    · next session startedAt delivery bytesDelivered hrequest =>
      obtain ⟨found, hfound, howner⟩ := howned.own hrequest
      have hdelivered : s.store.DeliveredTo accountId.text
          (deliveryEvidence s.clock session startedAt delivery bytesDelivered evidenceId) :=
        Option.map_eq_some_iff.mpr ⟨found, hfound, howner⟩
      have hfree : s.store.evidence.find?
          (deliveryEvidence s.clock session startedAt delivery bytesDelivered evidenceId).evidenceId =
            none := hfresh
      rw [setRequest_partOf, withStore_partOf (Store.recordEvidence_ofOwner hfree hdelivered)]
      rfl
    · rfl
  | closeSession other sessionId =>
    cases haccount
    exact closeSession_local s accountId sessionId

end Own

section Others

/-! ### Requests of the other accounts -/

variable {lib : Library} {config : ServerConfig} {s : State} {accountId other : AccountId} {a : Action}

theorem text_ne (h : other ≠ accountId) : other.text ≠ accountId.text := by
  intro htext
  cases other
  cases accountId
  exact h (by simpa using htext)

/-- A request of another account leaves what belongs to the account. -/
theorem step_of_ne (howned : s.Owned) (hattributed : s.store.Attributed) (hfresh : Fresh s a)
    (hlisted : a.Listed) (haccount : a.accountId? = some other) (h : other ≠ accountId) :
    (step lib config s a).partOf accountId = s.partOf accountId := by
  have heffect := serve_effect lib config s a
  rw [step]
  generalize serve lib config s a = out at heffect ⊢
  cases heffect with
  | same => rfl
  | waited | participation => cases haccount
  | registered | trust => exact hlisted.elim
  | ended _ requester i e hrequester =>
    obtain rfl := Option.some.inj (hrequester.symm.trans haccount)
    exact setRequest_of_ne h
  | challenged requester draws body challenge reply hchallenge =>
    cases haccount
    have hfree : s.challenges.find? challenge.challengeId = none := by
      rw [createChallenge_challengeId hchallenge]
      exact hfresh
    exact withChallenges_partOf
      (Table.restrict_set_of_not hfree (by rwa [createChallenge_ownerId hchallenge]))
  | verifying => cases haccount; exact suspend_of_ne h
  | requesting => cases haccount; exact suspend_of_ne h
  | submitting => cases haccount; exact suspend_of_ne h
  | streaming => cases haccount; exact suspend_of_ne h
  | repeated | refused | counted =>
    cases haccount
    exact setRequest_of_ne h
  | signedIn requester i challenge signature reply hrequest hfound hsigned =>
    cases haccount
    obtain ⟨found, hheld, howner⟩ := howned.own hrequest
    obtain rfl : challenge = found := Option.some.inj (hfound.symm.trans hheld)
    have hother : challenge.ownerId ≠ accountId := by rwa [howner]
    rw [setRequest_of_ne h, setAccount_of_ne h]
    exact withChallenges_partOf (Table.restrict_update_of_found (fun _ ↦ Iff.rfl) hfound hother)
  | intended requester i artistId draws body request reply hrequest hfree =>
    cases haccount
    have hscope : scopeOwner request.scope ≠ accountId.text.toList := by
      rw [scope_of_supportRequest hrequest]
      exact fun htext ↦ text_ne h (String.toList_inj.mp htext)
    have hnew : s.supportIntents.find?
        (newSupportIntent config s.clock other artistId draws request).requestId = none := hfresh
    refine (withSupport_partOf (Table.restrict_set_of_not hnew h)
      (Table.restrict_set_of_not hfree hscope)).trans ?_
    rw [setRequest_of_ne h]
    rfl
  | confirmed requester i intent body reply hrequest hfound hsigned =>
    cases haccount
    obtain ⟨found, hheld, howner⟩ := howned.own hrequest
    obtain rfl : intent = found := Option.some.inj (hfound.symm.trans hheld)
    have hother : intent.ownerId ≠ accountId := by rwa [howner]
    refine (withSupportIntents_partOf
      (Table.restrict_update_of_found (fun _ ↦ Iff.rfl) hfound hother)).trans ?_
    rw [setRequest_of_ne h]
    rfl
  | activated requester intent reply hfound howner hstatus =>
    cases haccount
    have hother : intent.ownerId ≠ accountId := by rwa [howner]
    rw [setAccount_of_ne h]
    exact withSupportIntents_partOf (Table.restrict_update_of_found (fun _ ↦ Iff.rfl) hfound hother)
  | playback requester draws body reply =>
    cases haccount
    exact withStore_partOf (createPlayback_of_ne hattributed (text_ne h))
  | expired requester sessionId r e hr howner =>
    cases haccount
    refine withStore_partOf (Store.updateSession_of_ne (fun _ ↦ rfl) fun row hrow _ ↦ ?_)
    rw [Option.some.inj (hrow.symm.trans hr), howner]
    exact text_ne h
  | opened requester i session startedAt delivery reply hrequest =>
    cases haccount
    obtain ⟨found, hheld, howner⟩ := howned.own hrequest
    rw [setRequest_of_ne h]
    refine withStore_partOf (Store.updateSession_of_ne (fun _ ↦ rfl) fun row hrow _ ↦ ?_)
    rw [Option.some.inj (hrow.symm.trans hheld), howner]
    exact text_ne h
  | recorded requester i evidenceId session startedAt delivery bytesDelivered hrequest =>
    cases haccount
    obtain ⟨found, hheld, howner⟩ := howned.own hrequest
    have hfree : s.store.evidence.find?
        (deliveryEvidence s.clock session startedAt delivery bytesDelivered evidenceId).evidenceId =
          none := hfresh
    rw [setRequest_of_ne h]
    refine withStore_partOf (Store.recordEvidence_of_ne hfree fun row hrow ↦ ?_)
    rw [Option.some.inj (hrow.symm.trans hheld), howner]
    exact text_ne h
  | closed requester sessionId reply =>
    cases haccount
    exact withStore_partOf (closeSession_of_ne (text_ne h))

end Others

section Run

variable (lib : Library) (config : ServerConfig)

/-- Evidence is recorded for sessions that exist. -/
theorem attributed_step {s : State} {a : Action} (howned : s.Owned) (hfresh : Fresh s a)
    (h : s.store.Attributed) : (step lib config s a).store.Attributed := by
  have heffect := serve_effect lib config s a
  rw [step]
  generalize serve lib config s a = out at heffect ⊢
  cases heffect with
  | playback => exact h.createPlayback
  | expired | opened | closed => exact h.updateSession
  | recorded requester i evidenceId session startedAt delivery bytesDelivered hrequest =>
    obtain ⟨found, hfound, -⟩ := howned.own hrequest
    refine h.recordEvidence hfresh fun hnone ↦ ?_
    rw [Store.session, deliveryEvidence, hfound] at hnone
    cases hnone
  | _ => exact h

theorem attributed_run {clock : Date} {actions : List Action}
    (hfresh : EachStep (step lib config) Fresh (start clock) actions) :
    AtEachMoment (step lib config) (fun s ↦ s.Owned ∧ s.store.Attributed) (start clock) actions := by
  refine hfresh.keeps (fun s a hstep h ↦ ?_) ⟨owned_start clock, fun _ h ↦ absurd h List.not_mem_nil⟩
  exact ⟨owned_step lib config hstep h.1, attributed_step lib config h.1 hstep h.2⟩

/-- In the run and in the run without the requests of the other accounts, the check of the budget gives
the requests of the account the same answers. -/
def BudgetsAgree (clock : Date) (accountId : AccountId) (actions : List Action) : Prop :=
  ∀ past a, past ++ [a] <+: actions →
    BudgetAgrees config accountId (run (step lib config) (start clock) past)
      (run (step lib config) (start clock) (past.filter (·.concerns accountId))) a

variable {lib config} {clock : Date} {accountId : AccountId} {actions : List Action}

/-- Without the requests of the other accounts the run ends in what belongs to the account. -/
theorem run_filter (hlisted : ∀ a ∈ actions, a.Listed)
    (hfresh : EachStep (step lib config) Fresh (start clock) actions)
    (hbudget : BudgetsAgree lib config clock accountId actions) :
    run (step lib config) (start clock) (actions.filter (·.concerns accountId)) =
      (run (step lib config) (start clock) actions).partOf accountId := by
  induction actions using List.reverseRecOn with
  | nil => exact (partOf_start clock).symm
  | append_singleton past a ih =>
    obtain ⟨hbefore, hlast⟩ := EachStep.concat.mp hfresh
    obtain ⟨howned, hattributed⟩ := (attributed_run lib config hbefore).last
    have hpast := ih (fun b hb ↦ hlisted b (List.mem_append_left _ hb)) hbefore
      fun earlier b hearlier ↦ hbudget earlier b (hearlier.trans (List.prefix_append past [a]))
    have hlistedLast : a.Listed := hlisted a (by simp)
    have hagrees := hbudget past a List.prefix_rfl
    rw [hpast] at hagrees
    rw [List.filter_append, run_append, run_append, hpast]
    cases haccount : a.accountId? with
    | none =>
      have hconcerns : a.concerns accountId = true := by simp [Action.concerns, haccount]
      rw [List.filter_singleton, hconcerns]
      cases a with
      | wait ms => rfl
      | participation => exact hlistedLast.elim
      | _ => cases haccount
    | some other =>
      by_cases hother : other = accountId
      · subst hother
        have hconcerns : a.concerns other = true := by simp [Action.concerns, haccount]
        rw [List.filter_singleton, hconcerns]
        exact congrArg Prod.fst (serve_local howned hattributed hlast hlistedLast haccount hagrees)
      · have hconcerns : a.concerns accountId = false := by simp [Action.concerns, haccount, hother]
        rw [List.filter_singleton, hconcerns]
        exact (step_of_ne howned hattributed hlast hlistedLast haccount hother).symm

/-- In every run of sign-in without invitations, support and playback whose identifiers are new, what
belongs to an account and what it is answered are the same as without the requests of the other
accounts, if the check of the budget gives its requests the same answers. -/
theorem account_isolation (lib : Library) (config : ServerConfig) (clock : Date) (accountId : AccountId)
    (actions : List Action) (hlisted : ∀ a ∈ actions, a.Listed)
    (hfresh : EachStep (step lib config) Fresh (start clock) actions)
    (hbudget : BudgetsAgree lib config clock accountId actions) (past : List Action)
    (hpast : past <+: actions) :
    (run (step lib config) (start clock) past).partOf accountId =
        (run (step lib config) (start clock) (past.filter (·.concerns accountId))).partOf accountId ∧
      ∀ a, past ++ [a] <+: actions → a.accountId? = some accountId →
        (serve lib config (run (step lib config) (start clock) past) a).2 =
          (serve lib config
            (run (step lib config) (start clock) (past.filter (·.concerns accountId))) a).2 := by
  have hrun : run (step lib config) (start clock) (past.filter (·.concerns accountId)) =
      (run (step lib config) (start clock) past).partOf accountId :=
    run_filter (fun a ha ↦ hlisted a (hpast.subset ha)) (hfresh.of_isPrefix hpast)
      fun earlier b hearlier ↦ hbudget earlier b (hearlier.trans hpast)
  refine ⟨by rw [hrun, partOf_partOf], fun a hnext haccount ↦ ?_⟩
  obtain ⟨hbefore, hlast⟩ := EachStep.concat.mp (hfresh.of_isPrefix hnext)
  obtain ⟨howned, hattributed⟩ := (attributed_run lib config hbefore).last
  have hagrees := hbudget past a hnext
  rw [hrun] at hagrees ⊢
  have hlocal : Local (run (step lib config) (start clock) past) accountId (serve lib config · a) :=
    serve_local howned hattributed hlast (hlisted a (hnext.subset (by simp))) haccount hagrees
  exact (congrArg Prod.snd hlocal).symm

end Run

namespace Sample

def stranger : AccountId where
  text := "demo-3c1d9f70-58be-4b27-a6e4-7f0a2d91c835"
  noColon := by decide +kernel

def play (accountId : AccountId) (draws : Draws) : Action :=
  .createPlayback accountId draws (.ok (.fields (some "track-mock-001") (some "play-key-1")))

/-- A stranger asks for the stream of the listener, closes its session and plays the same track. -/
def disturbed : List Action := [
  play listener Gateway.Sample.firstDraws,
  .deliverStream stranger Gateway.Sample.firstDraws.playbackSessionId,
  .closeSession stranger Gateway.Sample.firstDraws.playbackSessionId,
  play stranger Gateway.Sample.secondDraws,
  .deliverStream listener Gateway.Sample.firstDraws.playbackSessionId]

end Sample

/-- The listener does not notice the stranger. -/
theorem account_isolation_disturbed :
    (run (step Sample.library Sample.config) (start Sample.clock) Sample.disturbed).partOf
        Sample.listener =
      (run (step Sample.library Sample.config) (start Sample.clock)
        (Sample.disturbed.filter (·.concerns Sample.listener))).partOf Sample.listener := by
  have hlisted : ∀ a ∈ Sample.disturbed, a.Listed := by
    simp [Sample.disturbed, Sample.play, Action.Listed]
  have hfresh : EachStep (step Sample.library Sample.config) Fresh (start Sample.clock)
      Sample.disturbed := by
    decide +kernel
  have hspent : ∀ past ∈ Sample.disturbed.inits,
      ¬BudgetSpent Sample.config.toConfig
          (run (step Sample.library Sample.config) (start Sample.clock) past).clock
          (run (step Sample.library Sample.config) (start Sample.clock) past).store ∧
        ¬BudgetSpent Sample.config.toConfig
          (run (step Sample.library Sample.config) (start Sample.clock)
            (past.filter (·.concerns Sample.listener))).clock
          (run (step Sample.library Sample.config) (start Sample.clock)
            (past.filter (·.concerns Sample.listener))).store := by
    decide +kernel
  refine (account_isolation Sample.library Sample.config Sample.clock Sample.listener Sample.disturbed
    hlisted hfresh (fun past a hpast ↦ ?_) Sample.disturbed List.prefix_rfl).1
  obtain ⟨hrun, hfiltered⟩ :=
    hspent past ((List.mem_inits _ _).mpr ((List.prefix_append past [a]).trans hpast))
  cases a with
  | createPlayback => exact fun _ _ _ _ ↦ iff_of_false hfiltered hrun
  | _ => trivial

end CreatorFirst.Gateway.Server
