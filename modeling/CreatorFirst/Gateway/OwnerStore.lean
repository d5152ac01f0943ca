import CreatorFirst.Gateway.Effects

/-!
# The tables of one owner

The rows of one owner, with the evidence of its sessions. What the owner's requests read and write is
among them, and the requests of the other owners do not touch them.
-/

namespace CreatorFirst.Gateway

open Database

namespace Store

/-- The evidence is of a session of the owner. -/
def DeliveredTo (s : Store) (ownerId : String) (e : DeliveryEvidence) : Prop :=
  (s.session e.sessionId).map (·.ownerId) = some ownerId

instance (s : Store) (ownerId : String) : DecidablePred (s.DeliveredTo ownerId) :=
  fun e ↦ inferInstanceAs (Decidable ((s.session e.sessionId).map (·.ownerId) = some ownerId))

def ofOwner (s : Store) (ownerId : String) : Store where
  decisions := s.decisions.restrict (·.ownerId = ownerId)
  sessions := s.sessions.restrict (·.ownerId = ownerId)
  idempotencyKeys := s.idempotencyKeys.restrict (·.ownerId = ownerId)
  evidence := s.evidence.restrict (s.DeliveredTo ownerId)

/-- Each row of evidence is of a session. -/
def Attributed (s : Store) : Prop := ∀ e ∈ s.evidence, s.session e.sessionId ≠ none

variable {s s' : Store} {ownerId : String}

section Rows

theorem session_ofOwner (sessionId : String) :
    (s.ofOwner ownerId).session sessionId = (s.session sessionId).filter fun r ↦ r.ownerId = ownerId :=
  Table.find?_restrict

theorem idempotentResponse_ofOwner (key : String) :
    (s.ofOwner ownerId).idempotentResponse ownerId key = s.idempotentResponse ownerId key := by
  refine Table.find?_restrict_of_found fun row hfound ↦ ?_
  exact congrArg Prod.fst (Table.find?_eq_some.mp hfound).2

theorem activeSessionForOwner_ofOwner (now : ℕ) :
    (s.ofOwner ownerId).activeSessionForOwner ownerId now = s.activeSessionForOwner ownerId now := by
  simp only [activeSessionForOwner, ofOwner, Table.restrict, List.find?_filter]
  congr 2
  funext r
  by_cases howner : r.ownerId = ownerId <;> simp [howner]

theorem deliveredTo_ofOwner (e : DeliveryEvidence) :
    (s.ofOwner ownerId).DeliveredTo ownerId e ↔ s.DeliveredTo ownerId e := by
  rw [DeliveredTo, session_ofOwner, DeliveredTo]
  cases s.session e.sessionId with
  | none => rfl
  | some r => by_cases howner : r.ownerId = ownerId <;> simp [howner]

theorem ofOwner_ofOwner : (s.ofOwner ownerId).ofOwner ownerId = s.ofOwner ownerId := by
  have hevidence : (s.ofOwner ownerId).evidence.restrict ((s.ofOwner ownerId).DeliveredTo ownerId) =
      (s.ofOwner ownerId).evidence := by
    rw [Table.restrict_congr fun e _ ↦ deliveredTo_ofOwner e, ofOwner, Table.restrict_restrict]
  rw [ofOwner, hevidence]
  simp only [ofOwner, Table.restrict_restrict]

end Rows

section Own

/-! ### Statements about the owner's rows -/

theorem recordDecision_ofOwner {d : Decision} (h : s.recordDecision d = some s')
    (howner : d.ownerId = ownerId) :
    (s.ofOwner ownerId).recordDecision d = some (s'.ofOwner ownerId) := by
  rw [recordDecision, Option.map_eq_some_iff] at h
  obtain ⟨decisions, hinsert, rfl⟩ := h
  rw [recordDecision, Option.map_eq_some_iff]
  exact ⟨_, Table.insert_restrict hinsert howner, rfl⟩

theorem saveIdempotentResponse_ofOwner {key requestHash : String} {response : PlaybackResult}
    (h : s.saveIdempotentResponse ownerId key requestHash response = some s') :
    (s.ofOwner ownerId).saveIdempotentResponse ownerId key requestHash response =
      some (s'.ofOwner ownerId) := by
  rw [saveIdempotentResponse, Option.map_eq_some_iff] at h
  obtain ⟨idempotencyKeys, hinsert, rfl⟩ := h
  rw [saveIdempotentResponse, Option.map_eq_some_iff]
  exact ⟨_, Table.insert_restrict hinsert rfl, rfl⟩

/-- A new session has no evidence. -/
theorem deliveredTo_insert {sessions : Table Session.sessionId} {r : Session} (hattributed : s.Attributed)
    (hinsert : s.sessions.insert r = some sessions) :
    ∀ e ∈ s.evidence, ({ s with sessions } : Store).DeliveredTo ownerId e ↔ s.DeliveredTo ownerId e := by
  intro e he
  have hne : r.sessionId ≠ e.sessionId := by
    intro hsame
    refine hattributed e he ?_
    rw [← hsame]
    exact (Table.insert_eq_some.mp hinsert).1
  rw [DeliveredTo, DeliveredTo, session, Table.find?_insert hinsert, if_neg hne]
  rfl

theorem createSession_ofOwner {sessionId decisionId trackId adapterRef : String} {issuedAt expiresAt : ℕ}
    (hattributed : s.Attributed)
    (h : s.createSession sessionId decisionId ownerId trackId adapterRef issuedAt expiresAt = some s') :
    (s.ofOwner ownerId).createSession sessionId decisionId ownerId trackId adapterRef issuedAt expiresAt =
      some (s'.ofOwner ownerId) := by
  rw [createSession, Option.map_eq_some_iff] at h
  obtain ⟨sessions, hinsert, rfl⟩ := h
  rw [createSession, Option.map_eq_some_iff]
  refine ⟨_, Table.insert_restrict hinsert rfl, ?_⟩
  simp only [ofOwner, mk.injEq, true_and]
  exact (Table.restrict_congr (deliveredTo_insert hattributed hinsert)).symm

end Own

section Others

/-! ### Statements about the rows of others -/

theorem recordDecision_of_ne {d : Decision} (h : s.recordDecision d = some s')
    (howner : d.ownerId ≠ ownerId) : s'.ofOwner ownerId = s.ofOwner ownerId := by
  rw [recordDecision, Option.map_eq_some_iff] at h
  obtain ⟨decisions, hinsert, rfl⟩ := h
  rw [ofOwner, Table.restrict_insert_of_not hinsert howner]
  rfl

theorem saveIdempotentResponse_of_ne {other key requestHash : String} {response : PlaybackResult}
    (h : s.saveIdempotentResponse other key requestHash response = some s') (hother : other ≠ ownerId) :
    s'.ofOwner ownerId = s.ofOwner ownerId := by
  rw [saveIdempotentResponse, Option.map_eq_some_iff] at h
  obtain ⟨idempotencyKeys, hinsert, rfl⟩ := h
  rw [ofOwner, Table.restrict_insert_of_not hinsert hother]
  rfl

theorem createSession_of_ne {sessionId decisionId other trackId adapterRef : String}
    {issuedAt expiresAt : ℕ} (hattributed : s.Attributed)
    (h : s.createSession sessionId decisionId other trackId adapterRef issuedAt expiresAt = some s')
    (hother : other ≠ ownerId) : s'.ofOwner ownerId = s.ofOwner ownerId := by
  rw [createSession, Option.map_eq_some_iff] at h
  obtain ⟨sessions, hinsert, rfl⟩ := h
  rw [ofOwner, Table.restrict_insert_of_not hinsert hother,
    Table.restrict_congr (deliveredTo_insert hattributed hinsert)]
  rfl

end Others

section Update

/-! ### Updates of one session -/

variable {p : Session → Prop} [DecidablePred p] {f : Table.Rewrite Session.sessionId} {sessionId : String}

def updateSession (s : Store) (sessionId : String) (p : Session → Prop) [DecidablePred p]
    (f : Table.Rewrite Session.sessionId) : Store :=
  { s with sessions := s.sessions.update sessionId p f }

theorem deliveredTo_update (hf : ∀ r, (f.apply r).ownerId = r.ownerId) (e : DeliveryEvidence) :
    (s.updateSession sessionId p f).DeliveredTo ownerId e ↔ s.DeliveredTo ownerId e := by
  have hsame : ∀ r, (if e.sessionId = sessionId ∧ p r then f.apply r else r).ownerId = r.ownerId := by
    intro r
    split
    · exact hf r
    · rfl
  simp only [DeliveredTo, session, updateSession, Table.find?_update, Option.map_map, Function.comp_def,
    hsame]

theorem updateSession_ofOwner (hf : ∀ r, (f.apply r).ownerId = r.ownerId) :
    (s.updateSession sessionId p f).ofOwner ownerId = (s.ofOwner ownerId).updateSession sessionId p f := by
  simp only [updateSession, ofOwner, mk.injEq, true_and]
  constructor
  · exact Table.restrict_update fun r ↦ by rw [hf]
  · exact Table.restrict_congr fun e _ ↦ deliveredTo_update hf e

theorem updateSession_of_ne (hf : ∀ r, (f.apply r).ownerId = r.ownerId)
    (hother : ∀ r, s.session sessionId = some r → p r → r.ownerId ≠ ownerId) :
    (s.updateSession sessionId p f).ofOwner ownerId = s.ofOwner ownerId := by
  simp only [updateSession, ofOwner, mk.injEq, true_and]
  constructor
  · refine Table.restrict_update_of_not (fun r ↦ by rw [hf]) fun r hr hkey hp ↦ ?_
    exact hother r (Table.find?_eq_some.mpr ⟨hr, hkey⟩) hp
  · exact Table.restrict_congr fun e _ ↦ deliveredTo_update hf e

end Update

section Evidence

variable {value : DeliveryEvidence}

/-- The rows after the evidence has been recorded. -/
theorem recordEvidence_of_free (hfree : s.evidence.find? value.evidenceId = none) :
    s.recordEvidence value =
      ({ s with
        evidence := s.evidence.set { value with evidenceVersion := "delivery-evidence-v1" } } :
          Store).updateSession value.sessionId (fun r ↦ ¬r.state.Terminal)
            (Session.deliver value.bytesDelivered) := by
  have hinsert := Table.insertOrIgnore_of_free
    (r := { value with evidenceVersion := "delivery-evidence-v1" }) hfree
  rw [recordEvidence, hinsert]
  rfl

theorem recordEvidence_ofOwner (hfree : s.evidence.find? value.evidenceId = none)
    (howner : s.DeliveredTo ownerId value) :
    (s.recordEvidence value).ofOwner ownerId = (s.ofOwner ownerId).recordEvidence value := by
  have hfree' : (s.ofOwner ownerId).evidence.find? value.evidenceId = none :=
    Table.find?_restrict_eq_none hfree
  rw [recordEvidence_of_free hfree, recordEvidence_of_free hfree', updateSession_ofOwner fun _ ↦ rfl]
  congr 1
  rw [ofOwner]
  congr 1
  exact Table.restrict_set hfree howner

theorem recordEvidence_of_ne (hfree : s.evidence.find? value.evidenceId = none)
    (hother : ∀ r, s.session value.sessionId = some r → r.ownerId ≠ ownerId) :
    (s.recordEvidence value).ofOwner ownerId = s.ofOwner ownerId := by
  have hupdate : ∀ t : Store, t.sessions = s.sessions →
      (t.updateSession value.sessionId (fun r ↦ ¬r.state.Terminal)
        (Session.deliver value.bytesDelivered)).ofOwner ownerId = t.ofOwner ownerId := by
    intro t ht
    refine updateSession_of_ne (fun _ ↦ rfl) fun r hr _ ↦ hother r ?_
    rwa [session, ht] at hr
  rw [recordEvidence_of_free hfree, hupdate]
  swap
  · rfl
  rw [ofOwner]
  congr 1
  refine Table.restrict_set_of_not hfree fun hdelivered ↦ ?_
  obtain ⟨r, hr, howner⟩ := Option.map_eq_some_iff.mp hdelivered
  exact hother r hr howner

end Evidence

end Store

section Playback

/-! ### Playback requests -/

variable {config : Config} {requestHash : String → String} {now : Date} {account : Account}
  {draws : Draws} {body : Except Failure Body} {s : Store} {track : Track} {key hash ownerId : String}

/-- The deliveries of the month have used up the budget. -/
def BudgetSpent (config : Config) (now : Date) (s : Store) : Prop :=
  config.monthlyByteLimit ≤ s.deliveredBytesSince now.monthStart

instance : Decidable (BudgetSpent config now s) := inferInstanceAs (Decidable (_ ≤ _))

/-- The request gets as far as the check of the budget. -/
structure ReachesBudget (account : Account) (body : Except Failure Body) (s : Store)
    (request : PlaybackRequest) (track : Track) : Prop where
  request_eq : playbackRequest body = .ok request
  track_eq : (catalog.find? fun candidate ↦ candidate.trackId = request.trackId) = some track
  prior_eq : s.idempotentResponse account.accountId request.idempotencyKey = none
  active : account.active = true
  subscriptionActive : account.subscriptionActive = true
  allowed : capabilityAllows track.requiredCapability
    ((account.tiers.lookup track.artistId).getD .none) = true

theorem denial?_ofOwner
    (hbudget : account.active = true → account.subscriptionActive = true →
      capabilityAllows track.requiredCapability
        ((account.tiers.lookup track.artistId).getD .none) = true →
          (BudgetSpent config now (s.ofOwner account.accountId) ↔ BudgetSpent config now s)) :
    denial? config now account track (s.ofOwner account.accountId) = denial? config now account track s := by
  unfold denial?
  rw [Store.activeSessionForOwner_ofOwner]
  refine ite_congr rfl (fun _ ↦ rfl) fun hactive ↦ ?_
  refine ite_congr rfl (fun _ ↦ rfl) fun hsubscription ↦ ?_
  refine ite_congr rfl (fun _ ↦ rfl) fun hallowed ↦ ?_
  have hsame := hbudget (by simpa using hactive) (by simpa using hsubscription) (by simpa using hallowed)
  exact ite_congr (propext hsame) (fun _ ↦ rfl) fun _ ↦ rfl

/-- An authorized request does on the rows of its owner what it does on all of them. -/
theorem authorizePlayback_ofOwner (hattributed : s.Attributed)
    (hdecision : s.decisions.find? draws.decisionId = none)
    (hsession : s.session draws.playbackSessionId = none)
    (hkey : s.idempotentResponse account.accountId key = none) :
    (authorizePlayback config now account track draws key hash).execute (s.ofOwner account.accountId) =
      (((authorizePlayback config now account track draws key hash).execute s).1,
        ((authorizePlayback config now account track draws key hash).execute s).2.ofOwner
          account.accountId) := by
  have hrecorded : s.recordDecision (allowedDecision now account track draws) =
      some { s with decisions := s.decisions.set (allowedDecision now account track draws) } := by
    rw [Store.recordDecision, Table.insert_set hdecision]
    rfl
  have hown : (s.ofOwner account.accountId).recordDecision (allowedDecision now account track draws) =
      some (_ : Store) := Store.recordDecision_ofOwner hrecorded rfl
  simp only [authorizePlayback, execute_bind, execute_statement, execute_lift, hrecorded, hown]
  cases adapterReference config track with
  | error e => rfl
  | ok adapterRef =>
    generalize hdecided : ({ s with
      decisions := s.decisions.set (allowedDecision now account track draws) } : Store) = decided
    have hcreated : decided.createSession draws.playbackSessionId draws.decisionId account.accountId
        track.trackId adapterRef now.ms (now.ms + config.playbackTtlMs) =
        some { decided with
          sessions := decided.sessions.set (newSession config now account track draws adapterRef) } := by
      have hfree : decided.sessions.find? (newSession config now account track draws adapterRef).sessionId =
          none := by
        rw [← hdecided]
        exact hsession
      rw [createSession_newSession, Table.insert_set hfree]
      rfl
    have hdecidedAttributed : decided.Attributed := hdecided ▸ hattributed
    simp only [hcreated, Store.createSession_ofOwner hdecidedAttributed hcreated]
    cases toISOString (now.ms + config.playbackTtlMs) with
    | error e => rfl
    | ok expiresAt =>
      generalize hopened : ({ decided with
        sessions := decided.sessions.set (newSession config now account track draws adapterRef) } :
          Store) = opened
      have hsaved : opened.saveIdempotentResponse account.accountId key hash
          (playbackResult config draws expiresAt) =
          some { opened with
            idempotencyKeys := opened.idempotencyKeys.set
              ⟨account.accountId, key, hash, playbackResult config draws expiresAt⟩ } := by
        have hfree : opened.idempotencyKeys.find? (account.accountId, key) = none := by
          rw [← hopened, ← hdecided]
          exact hkey
        rw [Store.saveIdempotentResponse, Table.insert_set hfree]
        rfl
      simp only [hsaved, Store.saveIdempotentResponse_ofOwner hsaved]
      rfl

theorem authorizePlayback_of_ne (hattributed : s.Attributed) (hother : account.accountId ≠ ownerId) :
    ((authorizePlayback config now account track draws key hash).execute s).2.ofOwner ownerId =
      s.ofOwner ownerId := by
  simp only [authorizePlayback, execute_bind, execute_statement, execute_lift]
  cases hrecorded : s.recordDecision (allowedDecision now account track draws) with
  | none => rfl
  | some decided =>
    have hdecided := Store.recordDecision_of_ne hrecorded hother
    have hdecidedAttributed : decided.Attributed := by
      rw [Store.recordDecision, Option.map_eq_some_iff] at hrecorded
      obtain ⟨decisions, -, rfl⟩ := hrecorded
      exact hattributed
    dsimp only
    cases adapterReference config track with
    | error e => exact hdecided
    | ok adapterRef =>
      dsimp only
      cases hcreated : decided.createSession draws.playbackSessionId draws.decisionId account.accountId
          track.trackId adapterRef now.ms (now.ms + config.playbackTtlMs) with
      | none => exact hdecided
      | some opened =>
        have hopened := (Store.createSession_of_ne hdecidedAttributed hcreated hother).trans hdecided
        dsimp only
        cases toISOString (now.ms + config.playbackTtlMs) with
        | error e => exact hopened
        | ok expiresAt =>
          dsimp only
          cases hsaved : opened.saveIdempotentResponse account.accountId key hash
              (playbackResult config draws expiresAt) with
          | none => exact hopened
          | some saved => exact (Store.saveIdempotentResponse_of_ne hsaved hother).trans hopened

theorem recordDenied_ofOwner {reasonCode : ReasonCode}
    (hdecision : s.decisions.find? draws.decisionId = none) :
    (recordDenied now account track draws.decisionId reasonCode).execute (s.ofOwner account.accountId) =
      (((recordDenied now account track draws.decisionId reasonCode).execute s).1,
        ((recordDenied now account track draws.decisionId reasonCode).execute s).2.ofOwner
          account.accountId) := by
  have hrecorded : s.recordDecision (deniedDecision now account track draws.decisionId reasonCode) =
      some { s with
        decisions := s.decisions.set
          (deniedDecision now account track draws.decisionId reasonCode) } := by
    rw [Store.recordDecision, Table.insert_set hdecision]
    rfl
  have hown : (s.ofOwner account.accountId).recordDecision
      (deniedDecision now account track draws.decisionId reasonCode) = some (_ : Store) :=
    Store.recordDecision_ofOwner hrecorded rfl
  simp only [recordDenied, execute_statement, hrecorded, hown]

/-- A playback request does on the rows of its owner what it does on all of them, if the check of the
budget has the same answer. -/
theorem createPlayback_ofOwner (hattributed : s.Attributed)
    (hdecision : s.decisions.find? draws.decisionId = none)
    (hsession : s.session draws.playbackSessionId = none)
    (hbudget : ∀ request track, ReachesBudget account body s request track →
      (BudgetSpent config now (s.ofOwner account.accountId) ↔ BudgetSpent config now s)) :
    (createPlayback config requestHash now account draws body).execute (s.ofOwner account.accountId) =
      (((createPlayback config requestHash now account draws body).execute s).1,
        ((createPlayback config requestHash now account draws body).execute s).2.ofOwner
          account.accountId) := by
  simp only [createPlayback, execute_bind, execute_lift]
  cases hrequest : playbackRequest body with
  | error e => rfl
  | ok request =>
    dsimp only
    cases htrack : catalog.find? fun candidate ↦ candidate.trackId = request.trackId with
    | none => rfl
    | some track =>
      simp only [execute_bind, execute_get, Store.idempotentResponse_ofOwner]
      cases hprior : s.idempotentResponse account.accountId request.idempotencyKey with
      | some prior =>
        dsimp only
        split <;> rfl
      | none =>
        have hdenial : denial? config now account track (s.ofOwner account.accountId) =
            denial? config now account track s :=
          denial?_ofOwner fun hactive hsubscription hallowed ↦
            hbudget request track ⟨hrequest, htrack, hprior, hactive, hsubscription, hallowed⟩
        simp only [execute_bind, execute_get, hdenial]
        cases denial? config now account track s with
        | none => exact authorizePlayback_ofOwner hattributed hdecision hsession hprior
        | some denial =>
          simp only [execute_bind, recordDenied_ofOwner hdecision]
          cases (recordDenied now account track draws.decisionId denial.reasonCode).execute s with
          | mk result store => cases result <;> rfl

/-- A playback request leaves the rows of the other owners. -/
theorem createPlayback_of_ne (hattributed : s.Attributed) (hother : account.accountId ≠ ownerId) :
    ((createPlayback config requestHash now account draws body).execute s).2.ofOwner ownerId =
      s.ofOwner ownerId := by
  simp only [createPlayback, execute_bind, execute_lift]
  cases playbackRequest body with
  | error e => rfl
  | ok request =>
    dsimp only
    cases catalog.find? fun candidate ↦ candidate.trackId = request.trackId with
    | none => rfl
    | some track =>
      simp only [execute_bind, execute_get]
      cases s.idempotentResponse account.accountId request.idempotencyKey with
      | some prior =>
        dsimp only
        split <;> rfl
      | none =>
        simp only [execute_bind, execute_get]
        cases denial? config now account track s with
        | some denial =>
          simp only [recordDenied, execute_bind, execute_statement]
          cases hrecorded : s.recordDecision
              (deniedDecision now account track draws.decisionId denial.reasonCode) with
          | none => rfl
          | some store => exact Store.recordDecision_of_ne hrecorded hother
        | none => exact authorizePlayback_of_ne hattributed hother

end Playback

section Stream

/-! ### Streams -/

variable {now : Date} {account : Account} {sessionId ownerId : String} {s : Store}

theorem deliverStream_ofOwner :
    (deliverStream now account sessionId).execute (s.ofOwner account.accountId) =
      (((deliverStream now account sessionId).execute s).1,
        ((deliverStream now account sessionId).execute s).2.ofOwner account.accountId) := by
  simp only [deliverStream, execute_bind, execute_get, Store.session_ofOwner]
  cases s.session sessionId with
  | none => rfl
  | some r =>
    by_cases howner : r.ownerId = account.accountId
    · rw [Option.filter_some, if_pos (by simpa using howner)]
      simp only [howner, ne_eq, not_true_eq_false, if_false]
      split
      · have hexpire : (s.expireSession sessionId).ofOwner account.accountId =
            (s.ofOwner account.accountId).expireSession sessionId :=
          Store.updateSession_ofOwner fun _ ↦ rfl
        simp only [execute_bind, execute_modify, execute_throw, hexpire]
      · split <;> rfl
    · rw [Option.filter_some, if_neg (by simpa using howner)]
      simp only [ne_eq, howner, not_false_eq_true, if_true, execute_throw]

theorem closeSession_ofOwner :
    (s.closeSession sessionId ownerId).1.ofOwner ownerId =
      ((s.ofOwner ownerId).closeSession sessionId ownerId).1 :=
  Store.updateSession_ofOwner fun _ ↦ rfl

theorem closeSession_of_ne {other : String} (hother : other ≠ ownerId) :
    (s.closeSession sessionId other).1.ofOwner ownerId = s.ofOwner ownerId := by
  refine Store.updateSession_of_ne (fun _ ↦ rfl) fun r _ hr ↦ ?_
  rwa [hr.1]

end Stream

section Attribution

variable {s s' : Store}

theorem Store.Attributed.of_sessions (h : s.Attributed) (hevidence : s'.evidence = s.evidence)
    (hsessions : ∀ k, s.session k ≠ none → s'.session k ≠ none) : s'.Attributed :=
  fun e he ↦ hsessions _ (h e (hevidence ▸ he))

theorem Store.Attributed.updateSession (h : s.Attributed) {sessionId : String} {p : Session → Prop}
    [DecidablePred p] {f : Table.Rewrite Session.sessionId} : (s.updateSession sessionId p f).Attributed := by
  refine h.of_sessions rfl fun k hk ↦ ?_
  rw [Store.session, Store.updateSession, Table.find?_update]
  exact fun hnone ↦ hk (Option.map_eq_none_iff.mp hnone)

theorem Store.Attributed.createPlayback (h : s.Attributed) {config : Config} {requestHash : String → String}
    {now : Date} {account : Account} {draws : Draws} {body : Except Failure Body} :
    ((Gateway.createPlayback config requestHash now account draws body).execute s).2.Attributed := by
  have hevidence : ((Gateway.createPlayback config requestHash now account draws body).execute
      s).2.evidence = s.evidence := by
    have heffect := createPlayback_effect config requestHash now account draws body s
    generalize (Gateway.createPlayback config requestHash now account draws body).execute s = out
      at heffect ⊢
    obtain ⟨request, track, -, heffect⟩ | heffect := heffect
    · cases heffect <;> rfl
    · cases heffect <;> rfl
  refine h.of_sessions hevidence fun k hk ↦ ?_
  generalize hout : ((Gateway.createPlayback config requestHash now account draws body).execute s).2 = t
  obtain hsame | ⟨_, _, _, -, hinsert⟩ := createPlayback_inserts hout
  · rwa [Store.session, hsame]
  · rw [Store.session, Table.find?_insert hinsert]
    split
    · simp
    · exact hk

theorem Store.Attributed.recordEvidence (h : s.Attributed) {value : DeliveryEvidence}
    (hfree : s.evidence.find? value.evidenceId = none) (hsession : s.session value.sessionId ≠ none) :
    (s.recordEvidence value).Attributed := by
  rw [Store.recordEvidence_of_free hfree]
  refine Store.Attributed.updateSession fun e he ↦ ?_
  obtain hbefore | rfl := (Table.mem_insert (Table.insert_set
    (r := { value with evidenceVersion := "delivery-evidence-v1" }) hfree)).mp he
  · exact h e hbefore
  · exact hsession

end Attribution

end CreatorFirst.Gateway
