import CreatorFirst.Gateway.Machine

/-!
# What a playback handler writes

Every way `createPlayback` can end, with the statements that have taken effect by then, and the effect
of the other handlers on the tables.
-/

namespace CreatorFirst.Gateway

open Database Process

section Authorize

variable (config : Config) (now : Date) (account : Account) (track : Track) (draws : Draws)
  (idempotencyKey hash : String)

/-- The row of a new playback session. -/
def newSession (adapterRef : String) : Session where
  sessionId := draws.playbackSessionId
  decisionId := draws.decisionId
  ownerId := account.accountId
  trackId := track.trackId
  adapterRef := adapterRef
  issuedAt := now.ms
  expiresAt := now.ms + config.playbackTtlMs

/-- The statements of an authorized request that have taken effect when it ends: none, the decision,
the decision and the session, or all three. -/
inductive Authorization (s : Store) : Except Failure Response × Store → Prop
  | nothing (h : s.decisions.insert (allowedDecision now account track draws) = none) :
      Authorization s (.error .constraint, s)
  | decision (e : Failure) (decisions : Table Decision.decisionId)
      (hdecision : s.decisions.insert (allowedDecision now account track draws) = some decisions)
      (h : adapterReference config track = .error e ∨
        ∃ adapterRef, adapterReference config track = .ok adapterRef ∧
          s.sessions.insert (newSession config now account track draws adapterRef) = none) :
      Authorization s (.error e, { s with decisions })
  | session (e : Failure) (decisions : Table Decision.decisionId)
      (sessions : Table Session.sessionId) (adapterRef : String)
      (hdecision : s.decisions.insert (allowedDecision now account track draws) = some decisions)
      (hadapter : adapterReference config track = .ok adapterRef)
      (hsession : s.sessions.insert (newSession config now account track draws adapterRef) =
        some sessions)
      (h : maxTime < now.ms + config.playbackTtlMs ∨
        s.idempotentResponse account.accountId idempotencyKey ≠ none) :
      Authorization s (.error e, { s with decisions, sessions })
  | created (decisions : Table Decision.decisionId) (sessions : Table Session.sessionId)
      (idempotencyKeys : Table IdempotencyKey.key) (adapterRef : String) (expiresAt : Date)
      (hdecision : s.decisions.insert (allowedDecision now account track draws) = some decisions)
      (hadapter : adapterReference config track = .ok adapterRef)
      (hsession : s.sessions.insert (newSession config now account track draws adapterRef) =
        some sessions)
      (hexpires : Date.toISOString? (now.ms + config.playbackTtlMs) = some expiresAt)
      (hkey : s.idempotencyKeys.insert
        ⟨account.accountId, idempotencyKey, hash, playbackResult config draws expiresAt⟩ =
          some idempotencyKeys) :
      Authorization s (.ok ⟨201, playbackResult config draws expiresAt⟩,
        { s with decisions, sessions, idempotencyKeys })

theorem createSession_newSession (s : Store) (adapterRef : String) :
    s.createSession draws.playbackSessionId draws.decisionId account.accountId track.trackId adapterRef
        now.ms (now.ms + config.playbackTtlMs) =
      (s.sessions.insert (newSession config now account track draws adapterRef)).map
        fun sessions ↦ { s with sessions } := rfl

theorem authorizePlayback_effect (s : Store) :
    Authorization config now account track draws idempotencyKey hash s
      ((authorizePlayback config now account track draws idempotencyKey hash).execute s) := by
  unfold authorizePlayback
  simp only [execute_bind, execute_statement, execute_lift, createSession_newSession,
    Store.recordDecision]
  cases hdecision : s.decisions.insert (allowedDecision now account track draws) with
  | none => exact .nothing hdecision
  | some decisions =>
    cases hadapter : adapterReference config track with
    | error e => exact .decision e decisions hdecision (.inl hadapter)
    | ok adapterRef =>
      simp only [Option.map_some]
      cases hsession : s.sessions.insert (newSession config now account track draws adapterRef) with
      | none => exact .decision .constraint decisions hdecision (.inr ⟨adapterRef, hadapter, hsession⟩)
      | some sessions =>
        simp only [Option.map_some, toISOString]
        cases hexpires : Date.toISOString? (now.ms + config.playbackTtlMs) with
        | none =>
          have hlate := Date.toISOString?_eq_none.mp hexpires
          exact .session .rangeError decisions sessions adapterRef hdecision hadapter hsession (.inl hlate)
        | some expiresAt =>
          simp only [Store.saveIdempotentResponse]
          cases hkey : s.idempotencyKeys.insert ⟨account.accountId, idempotencyKey, hash,
              playbackResult config draws expiresAt⟩ with
          | none =>
            have htaken : s.idempotentResponse account.accountId idempotencyKey ≠ none :=
              Table.insert_eq_none.mp hkey
            exact .session .constraint decisions sessions adapterRef hdecision hadapter hsession
              (.inr htaken)
          | some idempotencyKeys =>
            exact .created decisions sessions idempotencyKeys adapterRef expiresAt hdecision hadapter
              hsession hexpires hkey

end Authorize

section Create

variable (config : Config) (requestHash : String → String) (now : Date) (account : Account)
  (draws : Draws) (body : Except Failure Body)

/-- The request passes every check of `createPlayback`. -/
structure Authorizes (s : Store) (request : PlaybackRequest) (track : Track) : Prop where
  request_eq : playbackRequest body = .ok request
  track_eq : (catalog.find? fun candidate ↦ candidate.trackId = request.trackId) = some track
  prior_eq : s.idempotentResponse account.accountId request.idempotencyKey = none
  denial_eq : denial? config now account track s = none

/-- A request that is not authorized writes at most a decision that denies it. -/
inductive Refusal (s : Store) : Except Failure Response × Store → Prop
  | failed (e : Failure) : Refusal s (.error e, s)
  | repeated (prior : IdempotencyKey) : Refusal s (.ok ⟨200, prior.response⟩, s)
  | denied (e : Failure) (d : Decision) (decisions : Table Decision.decisionId)
      (hallowed : d.allowed = false) (h : s.decisions.insert d = some decisions) :
      Refusal s (.error e, { s with decisions })

theorem recordDenied_refusal (s : Store) (track : Track) (denial : Denial) :
    Refusal s ((do
      recordDenied now account track draws.decisionId denial.reasonCode
      throw denial.failure : Handler Response).execute s) := by
  rw [execute_bind, recordDenied, execute_statement, Store.recordDecision]
  cases hinsert : s.decisions.insert
      (deniedDecision now account track draws.decisionId denial.reasonCode) with
  | none => exact .failed _
  | some decisions => exact .denied _ _ decisions rfl hinsert

variable {config requestHash now account draws body}

theorem createPlayback_of_authorizes {s : Store} {request : PlaybackRequest} {track : Track}
    (h : Authorizes config now account body s request track) :
    (createPlayback config requestHash now account draws body).execute s =
      (authorizePlayback config now account track draws request.idempotencyKey
        (requestHash request.trackId)).execute s := by
  simp only [createPlayback, execute_bind, execute_lift, h.request_eq, h.track_eq, execute_get,
    h.prior_eq, h.denial_eq]

variable (config requestHash now account draws body) in
theorem createPlayback_effect (s : Store) :
    (∃ request track, Authorizes config now account body s request track ∧
      Authorization config now account track draws request.idempotencyKey
        (requestHash request.trackId) s
        ((createPlayback config requestHash now account draws body).execute s)) ∨
    Refusal s ((createPlayback config requestHash now account draws body).execute s) := by
  simp only [createPlayback, execute_bind, execute_lift]
  cases hrequest : playbackRequest body with
  | error e => exact .inr (.failed e)
  | ok request =>
    dsimp only
    cases htrack : catalog.find? fun candidate ↦ candidate.trackId = request.trackId with
    | none => exact .inr (.failed _)
    | some track =>
      simp only [execute_bind, execute_get]
      cases hprior : s.idempotentResponse account.accountId request.idempotencyKey with
      | some prior =>
        dsimp only
        split
        · exact .inr (.failed _)
        · exact .inr (.repeated prior)
      | none =>
        simp only [execute_bind, execute_get]
        cases hdenial : denial? config now account track s with
        | some denial => exact .inr (recordDenied_refusal now account draws s track denial)
        | none =>
          exact .inl ⟨request, track, ⟨hrequest, htrack, hprior, hdenial⟩,
            authorizePlayback_effect config now account track draws _ _ s⟩

/-- The conditions under which no check of an authorization fails. -/
theorem denial?_eq_none {track : Track} {s : Store} :
    denial? config now account track s = none ↔
      account.active = true ∧ account.subscriptionActive = true ∧
        capabilityAllows track.requiredCapability
          ((account.tiers.lookup track.artistId).getD .none) = true ∧
        s.deliveredBytesSince now.monthStart < config.monthlyByteLimit ∧
        s.activeSessionForOwner account.accountId now.ms = none := by
  unfold denial?
  dsimp only
  split
  · next hinactive => simp_all
  split
  · next hsubscription => simp_all
  split
  · next htier => simp_all
  split
  · next hbudget => simp [not_lt.mpr hbudget]
  split
  · next hactive => simp [Option.isSome_iff_ne_none.mp hactive]
  · next hfree => simp_all

theorem Authorizes.activeSession_eq_none {s : Store} {request : PlaybackRequest} {track : Track}
    (h : Authorizes config now account body s request track) :
    s.activeSessionForOwner account.accountId now.ms = none :=
  (denial?_eq_none.mp h.denial_eq).2.2.2.2

/-- `createPlayback` inserts at most one session, for an authorized request. -/
theorem createPlayback_inserts {s s' : Store}
    (hs' : ((createPlayback config requestHash now account draws body).execute s).2 = s') :
    s'.sessions = s.sessions ∨
      ∃ request track adapterRef, Authorizes config now account body s request track ∧
        s.sessions.insert (newSession config now account track draws adapterRef) = some s'.sessions := by
  have heffect := createPlayback_effect config requestHash now account draws body s
  generalize (createPlayback config requestHash now account draws body).execute s = out at hs' heffect
  subst hs'
  obtain ⟨request, track, hauthorizes, heffect⟩ | heffect := heffect
  · cases heffect with
    | nothing | decision => exact .inl rfl
    | session _ _ sessions adapterRef _ _ hsession =>
      exact .inr ⟨request, track, adapterRef, hauthorizes, hsession⟩
    | created _ sessions _ adapterRef _ _ _ hsession =>
      exact .inr ⟨request, track, adapterRef, hauthorizes, hsession⟩
  · cases heffect <;> exact .inl rfl

/-- `createPlayback` inserts at most one session, for an owner without an active one. -/
theorem createPlayback_sessions {s s' : Store}
    (hs' : ((createPlayback config requestHash now account draws body).execute s).2 = s') :
    s'.sessions = s.sessions ∨
      ∃ track adapterRef,
        s.sessions.insert (newSession config now account track draws adapterRef) = some s'.sessions ∧
          s.activeSessionForOwner account.accountId now.ms = none := by
  obtain hsame | ⟨_, track, adapterRef, hauthorizes, hinsert⟩ := createPlayback_inserts hs'
  · exact .inl hsame
  · exact .inr ⟨track, adapterRef, hinsert, hauthorizes.activeSession_eq_none⟩

end Create

section Stream

variable {now : Date} {account : Account} {sessionId : String} {s : Store}

/-- The outcomes of the first part of `deliverStream`. -/
inductive StreamRequest (now : Date) (account : Account) (sessionId : String) (s : Store) :
    Except Failure Session × Store → Prop
  | refused (e : Failure) : StreamRequest now account sessionId s (.error e, s)
  | expired (e : Failure) (r : Session) (hr : s.session sessionId = some r)
      (howner : r.ownerId = account.accountId) (hexpired : r.expiresAt ≤ now.ms) :
      StreamRequest now account sessionId s (.error e, s.expireSession sessionId)
  | accepted (r : Session) (hr : s.session sessionId = some r)
      (howner : r.ownerId = account.accountId) (hstate : r.ActiveAt now.ms) :
      StreamRequest now account sessionId s (.ok r, s)

theorem deliverStream_effect (now : Date) (account : Account) (sessionId : String) (s : Store) :
    StreamRequest now account sessionId s ((deliverStream now account sessionId).execute s) := by
  simp only [deliverStream, execute_bind, execute_get]
  cases hr : s.session sessionId with
  | none => exact .refused _
  | some r =>
    dsimp only
    split
    · exact .refused _
    · next howner =>
      split
      · next hexpired =>
        simp only [execute_bind, execute_modify, execute_throw]
        exact .expired _ r hr (not_not.mp howner) hexpired
      · next hunexpired =>
        split
        · exact .refused _
        · next hplayable =>
          exact .accepted r hr (not_not.mp howner) ⟨not_not.mp hplayable, not_le.mp hunexpired⟩

theorem deliverStream_of_expired {r : Session} (hr : s.session sessionId = some r)
    (howner : r.ownerId = account.accountId) (hexpired : r.expiresAt ≤ now.ms) :
    (deliverStream now account sessionId).execute s =
      (.error (.http 410 "PLAYBACK_SESSION_EXPIRED" "Playback session has expired"),
        s.expireSession sessionId) := by
  simp [deliverStream, execute_bind, hr, howner, hexpired]

end Stream

section Step

variable (config : Config) (requestHash : String → String)

/-- How an action changes the tables. -/
inductive StoreChange (g : State) : Action → Store → Prop
  | same (a : Action) : StoreChange g a g.store
  | playback (account : Account) (draws : Draws) (body : Except Failure Body) :
      StoreChange g (.createPlayback account draws body)
        ((createPlayback config requestHash g.clock account draws body).execute g.store).2
  | expired (account : Account) (sessionId : String) (r : Session)
      (hr : g.store.session sessionId = some r) (howner : r.ownerId = account.accountId)
      (hexpired : r.expiresAt ≤ g.clock.ms) :
      StoreChange g (.deliverStream account sessionId) (g.store.expireSession sessionId)
  | started (i : ℕ) (session : Session) (startedAt : Date) (delivery : Delivery)
      (hstream : g.streams[i]? = some (.opening session startedAt)) :
      StoreChange g (.opened i (.ok delivery)) (g.store.setSessionState session.sessionId .started)
  | recorded (i : ℕ) (evidenceId : String) (value : DeliveryEvidence) :
      StoreChange g (.record i evidenceId) (g.store.recordEvidence value)
  | closed (account : Account) (sessionId : String) :
      StoreChange g (.closeSession account sessionId)
        (g.store.closeSession sessionId account.accountId).1

theorem step_store (g : State) (a : Action) :
    StoreChange config requestHash g a (step config requestHash g a).store := by
  cases a with
  | wait ms => exact .same _
  | createPlayback account draws body => exact .playback account draws body
  | deliverStream account sessionId =>
    have heffect := deliverStream_effect g.clock account sessionId g.store
    rw [step]
    generalize (deliverStream g.clock account sessionId).execute g.store = out at heffect ⊢
    cases heffect with
    | refused e => exact .same _
    | expired e r hr howner hexpired => exact .expired account sessionId r hr howner hexpired
    | accepted r hr howner hstate => exact .same _
  | opened i answer =>
    rw [step]
    split
    · next session startedAt hstream =>
      cases answer with
      | error e => cases e <;> exact .same _
      | ok delivery => exact .started i session startedAt delivery hstream
    · exact .same _
  | data i length =>
    rw [step]
    split <;> exact .same _
  | record i evidenceId =>
    rw [step]
    split
    · exact .recorded i evidenceId _
    · exact .same _
  | closeSession account sessionId => exact .closed account sessionId

variable {config requestHash}

theorem step_opened {g : State} {i : ℕ} {session : Session} {startedAt : Date} {delivery : Delivery}
    (hstream : g.streams[i]? = some (.opening session startedAt)) :
    (step config requestHash g (.opened i (.ok delivery))).store =
      g.store.setSessionState session.sessionId .started := by
  rw [step, hstream]
  rfl

theorem step_expired {g : State} {account : Account} {sessionId : String} {r : Session}
    (hr : g.store.session sessionId = some r) (howner : r.ownerId = account.accountId)
    (hexpired : r.expiresAt ≤ g.clock.ms) :
    (step config requestHash g (.deliverStream account sessionId)).store =
      g.store.expireSession sessionId := by
  rw [step, deliverStream_of_expired hr howner hexpired]
  rfl

end Step

section Calls

variable {s : Store}

theorem Store.call_recordDecision {d : Decision} {decisions : Table Decision.decisionId}
    (h : s.decisions.insert d = some decisions) :
    s.call (.recordDecision d) = { s with decisions } := by
  rw [call, recordDecision, h]
  rfl

/-- The statement that creates a session. -/
def Session.creation (r : Session) : StoreCall :=
  .createSession r.sessionId r.decisionId r.ownerId r.trackId r.adapterRef r.issuedAt r.expiresAt

theorem Store.call_creation {config : Config} {now : Date} {account : Account} {track : Track}
    {draws : Draws} {adapterRef : String} {sessions : Table Session.sessionId}
    (h : s.sessions.insert (newSession config now account track draws adapterRef) = some sessions) :
    s.call (newSession config now account track draws adapterRef).creation = { s with sessions } := by
  have hcall : s.call (newSession config now account track draws adapterRef).creation =
      ((s.sessions.insert (newSession config now account track draws adapterRef)).map
        fun sessions ↦ { s with sessions }).getD s := rfl
  rw [hcall, h]
  rfl

theorem Store.call_saveIdempotentResponse {ownerId key hash : String} {response : PlaybackResult}
    {idempotencyKeys : Table IdempotencyKey.key}
    (h : s.idempotencyKeys.insert ⟨ownerId, key, hash, response⟩ = some idempotencyKeys) :
    s.call (.saveIdempotentResponse ownerId key hash response) = { s with idempotencyKeys } := by
  rw [call, saveIdempotentResponse, h]
  rfl

theorem createPlayback_calls (config : Config) (requestHash : String → String) (now : Date)
    (account : Account) (draws : Draws) (body : Except Failure Body) (s : Store) :
    ∃ calls, ((createPlayback config requestHash now account draws body).execute s).2 =
      run Store.call s calls := by
  have heffect := createPlayback_effect config requestHash now account draws body s
  generalize (createPlayback config requestHash now account draws body).execute s = out at heffect ⊢
  obtain ⟨request, track, -, heffect⟩ | heffect := heffect
  · cases heffect with
    | nothing => exact ⟨[], rfl⟩
    | decision e decisions hdecision =>
      exact ⟨[.recordDecision _], (Store.call_recordDecision hdecision).symm⟩
    | session e decisions sessions adapterRef hdecision hadapter hsession =>
      refine ⟨[.recordDecision (allowedDecision now account track draws),
        (newSession config now account track draws adapterRef).creation], ?_⟩
      rw [run_cons, Store.call_recordDecision hdecision]
      exact (Store.call_creation (s := { s with decisions }) hsession).symm
    | created decisions sessions idempotencyKeys adapterRef expiresAt hdecision hadapter hsession
        hexpires hkey =>
      refine ⟨[.recordDecision (allowedDecision now account track draws),
        (newSession config now account track draws adapterRef).creation,
        .saveIdempotentResponse account.accountId request.idempotencyKey
          (requestHash request.trackId) (playbackResult config draws expiresAt)], ?_⟩
      rw [run_cons, Store.call_recordDecision hdecision, run_cons,
        Store.call_creation (s := { s with decisions }) hsession]
      exact (Store.call_saveIdempotentResponse (s := { s with decisions, sessions }) hkey).symm
  · cases heffect with
    | failed | repeated => exact ⟨[], rfl⟩
    | denied e d decisions hallowed hinsert =>
      exact ⟨[.recordDecision d], (Store.call_recordDecision hinsert).symm⟩

/-- Each step of the gateway runs statements of its tables. -/
theorem step_calls (config : Config) (requestHash : String → String) (g : State) (a : Action) :
    ∃ calls, (step config requestHash g a).store = run Store.call g.store calls := by
  have hchange := step_store config requestHash g a
  generalize (step config requestHash g a).store = s at hchange ⊢
  cases hchange with
  | same => exact ⟨[], rfl⟩
  | playback account draws body =>
    exact createPlayback_calls config requestHash g.clock account draws body g.store
  | expired account sessionId => exact ⟨[.expireSession sessionId], rfl⟩
  | started i session => exact ⟨[.setSessionState session.sessionId .started], rfl⟩
  | recorded i evidenceId value => exact ⟨[.recordEvidence value], rfl⟩
  | closed account sessionId => exact ⟨[.closeSession sessionId account.accountId], rfl⟩

end Calls

end CreatorFirst.Gateway
