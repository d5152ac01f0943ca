import CreatorFirst.Gateway.Effects

/-!
# Repeated creation of a playback session

An idempotency record, once written, answers every later request under its key, whatever has become of
the account, the session and the delivery budget. The record is the last of three writes. It is missing
exactly when the expiry of the new session cannot be formatted, and then the key can create again.
-/

namespace CreatorFirst.Gateway

open Database Process

section

variable (config : Config) (requestHash : String → String)

/-- The request of the owner creates a session under the key, and this is the outcome. -/
def CreatesSession (ownerId key trackId : String) (outcome : Except Failure Response) (g : State) :
    Action → Prop
  | .createPlayback account draws body =>
    account.accountId = ownerId ∧ playbackRequest body = .ok ⟨trackId, key⟩ ∧
      ((createPlayback config requestHash g.clock account draws body).execute g.store).1 = outcome ∧
      ((createPlayback config requestHash g.clock account draws body).execute g.store).2.sessions ≠
        g.store.sessions
  | _ => False

/-- How a request of the owner under the key ends once it has created a session for the track: neither
the repetition nor a request for another track writes anything. -/
structure AnswersKey (ownerId key trackId : String) (response : PlaybackResult) (g : State) : Prop where
  repeated : ∀ account draws body, account.accountId = ownerId →
    playbackRequest body = .ok ⟨trackId, key⟩ →
    (createPlayback config requestHash g.clock account draws body).execute g.store =
      (.ok ⟨200, response⟩, g.store)
  reused : ∀ account draws body other, account.accountId = ownerId →
    playbackRequest body = .ok ⟨other, key⟩ → other ≠ trackId →
    ∃ status code message, 400 ≤ status ∧
      (createPlayback config requestHash g.clock account draws body).execute g.store =
        (.error (.http status code message), g.store)

/-- Whenever a request creates a session, it is answered with a response that every later request under
its key receives again, and none of these creates another. -/
def IdempotentPlayback (g : State) (actions : List Action) : Prop :=
  ∀ past a rest, actions = past ++ a :: rest → ∀ ownerId key trackId outcome,
    CreatesSession config requestHash ownerId key trackId outcome
      (run (step config requestHash) g past) a →
    ∃ response, outcome = .ok ⟨201, response⟩ ∧
      AtEachMoment (step config requestHash) (AnswersKey config requestHash ownerId key trackId response)
        (run (step config requestHash) g (past ++ [a])) rest ∧
      EachStep (step config requestHash)
        (fun g b ↦ ∀ other outcome, ¬CreatesSession config requestHash ownerId key other outcome g b)
        (run (step config requestHash) g (past ++ [a])) rest

/-- When a request is authorized, its track has a media reference and both drawn identifiers are new, the
expiry of the session is a time that can be formatted. -/
def ExpiryInRange (g : State) : Action → Prop
  | .createPlayback account draws body =>
    ∀ request track adapterRef, Authorizes config g.clock account body g.store request track →
      adapterReference config track = .ok adapterRef →
      g.store.decisions.find? draws.decisionId = none →
      g.store.session draws.playbackSessionId = none →
      g.clock.ms + config.playbackTtlMs ≤ maxTime
  | _ => True

end

/-- The record of a session that was created. -/
def Store.Records (ownerId key hash : String) (response : PlaybackResult) (s : Store) : Prop :=
  s.idempotentResponse ownerId key = some ⟨ownerId, key, hash, response⟩

section Effects

variable {config : Config} {requestHash : String → String} {g : State}

section Creation

variable {ownerId key trackId : String} {outcome : Except Failure Response} {a : Action}

/-- A request creates a session with its record, or fails because the expiry is out of range. -/
theorem creation_cases (h : CreatesSession config requestHash ownerId key trackId outcome g a) :
    (∃ response, outcome = .ok ⟨201, response⟩ ∧
      (step config requestHash g a).store.Records ownerId key (requestHash trackId) response ∧
      ∃ track ∈ catalog, track.trackId = trackId) ∨
    ((∃ e, outcome = .error e) ∧ ¬ExpiryInRange config g a) := by
  cases a with
  | createPlayback account draws body =>
    obtain ⟨rfl, hrequest, houtcome, hsessions⟩ := h
    have heffect := createPlayback_effect config requestHash g.clock account draws body g.store
    rw [step]
    generalize (createPlayback config requestHash g.clock account draws body).execute g.store = out
      at heffect houtcome hsessions ⊢
    obtain ⟨request, track, hauthorizes, heffect⟩ | hrefusal := heffect
    · obtain rfl : request = ⟨trackId, key⟩ := by
        simpa [hrequest] using hauthorizes.request_eq.symm
      have htrack : track.trackId = trackId := by
        simpa using List.find?_some hauthorizes.track_eq
      cases heffect with
      | nothing | decision => exact absurd rfl hsessions
      | session e decisions sessions adapterRef hdecision hadapter hsession hfailed =>
        refine .inr ⟨⟨e, houtcome.symm⟩, fun hrange ↦ ?_⟩
        have htime := hrange _ track adapterRef hauthorizes hadapter
          (Table.insert_eq_some.mp hdecision).1 (Table.insert_eq_some.mp hsession).1
        obtain hlate | htaken := hfailed
        · exact absurd htime (not_le.mpr hlate)
        · exact htaken hauthorizes.prior_eq
      | created decisions sessions idempotencyKeys adapterRef expiresAt _ _ _ _ hkey =>
        have hfound := (Table.find?_insert hkey (account.accountId, key)).trans (if_pos rfl)
        have hmem : track ∈ catalog := List.mem_of_find?_eq_some hauthorizes.track_eq
        exact .inl ⟨_, houtcome.symm, hfound, track, hmem, htrack⟩
    · cases hrefusal <;> exact absurd rfl hsessions
  | _ => exact h.elim

end Creation

section Record

variable {ownerId key trackId : String} {response : PlaybackResult}

theorem Store.Records.step {hash : String} (h : g.store.Records ownerId key hash response)
    (a : Action) : (step config requestHash g a).store.Records ownerId key hash response := by
  have hchange := step_store config requestHash g a
  generalize (Gateway.step config requestHash g a).store = s at hchange ⊢
  cases hchange with
  | same | expired | started | recorded | closed => exact h
  | playback account draws body =>
    have heffect := createPlayback_effect config requestHash g.clock account draws body g.store
    generalize (createPlayback config requestHash g.clock account draws body).execute g.store = out
      at heffect ⊢
    obtain ⟨request, track, hauthorizes, heffect⟩ | hrefusal := heffect
    · cases heffect with
      | nothing | decision | session => exact h
      | created decisions sessions idempotencyKeys adapterRef expiresAt _ _ _ _ hkey =>
        have hold := Table.find?_insert hkey (ownerId, key)
        rw [Store.Records, Store.idempotentResponse, hold, if_neg]
        · exact h
        · -- the key of the new record was free, this one was taken
          intro hsame
          have hfree : g.store.idempotencyKeys.find? (ownerId, key) = none :=
            hsame ▸ (Table.insert_eq_some.mp hkey).1
          rw [Store.Records, Store.idempotentResponse, hfree] at h
          cases h
    · cases hrefusal <;> exact h

/-- The tracks of the catalog have distinct digests. -/
def DistinctHashes (requestHash : String → String) : Prop :=
  ∀ track ∈ catalog, ∀ other ∈ catalog,
    requestHash track.trackId = requestHash other.trackId → track.trackId = other.trackId

theorem createPlayback_of_records {account : Account} {draws : Draws} {body : Except Failure Body}
    {other hash : String} (howner : account.accountId = ownerId)
    (hrequest : playbackRequest body = .ok ⟨other, key⟩)
    (h : g.store.Records ownerId key hash response) :
    (createPlayback config requestHash g.clock account draws body).execute g.store =
      match catalog.find? fun candidate ↦ candidate.trackId = other with
      | none => (.error (.http 404 "TRACK_NOT_FOUND" "Track was not found"), g.store)
      | some _ =>
        if hash ≠ requestHash other then
          (.error (.http 409 "IDEMPOTENCY_CONFLICT" "Idempotency key was reused for another request"),
            g.store)
        else (.ok ⟨200, response⟩, g.store) := by
  have hprior : g.store.idempotentResponse account.accountId key = some ⟨ownerId, key, hash, response⟩ :=
    howner ▸ h
  simp only [createPlayback, execute_bind, execute_lift, hrequest]
  cases catalog.find? fun candidate ↦ candidate.trackId = other with
  | none => rfl
  | some track =>
    simp only [execute_bind, execute_get, hprior]
    split <;> rfl

theorem Store.Records.answersKey (hhash : DistinctHashes requestHash)
    (h : g.store.Records ownerId key (requestHash trackId) response) {track : Track}
    (hmem : track ∈ catalog) (htrack : track.trackId = trackId) :
    AnswersKey config requestHash ownerId key trackId response g where
  repeated account draws body howner hrequest := by
    rw [createPlayback_of_records howner hrequest h]
    cases hfound : catalog.find? fun candidate ↦ candidate.trackId = trackId with
    | none => exact absurd htrack (by simpa using List.find?_eq_none.mp hfound track hmem)
    | some found => simp
  reused account draws body other howner hrequest hne := by
    rw [createPlayback_of_records howner hrequest h]
    cases hfound : catalog.find? fun candidate ↦ candidate.trackId = other with
    | none => exact ⟨404, _, _, by decide, rfl⟩
    | some found =>
      have hother : found.trackId = other := by simpa using List.find?_some hfound
      have hdiffer : requestHash trackId ≠ requestHash other := by
        intro hsame
        rw [← htrack, ← hother] at hsame
        have htracks := hhash track hmem found (List.mem_of_find?_eq_some hfound) hsame
        exact hne (hother.symm.trans (htracks.symm.trans htrack))
      exact ⟨409, _, _, by decide, if_pos hdiffer⟩

theorem Store.Records.not_creates {hash other : String} {outcome : Except Failure Response} {b : Action}
    (h : g.store.Records ownerId key hash response) :
    ¬CreatesSession config requestHash ownerId key other outcome g b := by
  cases b with
  | createPlayback account draws body =>
    rintro ⟨howner, hrequest, -, hsessions⟩
    rw [createPlayback_of_records howner hrequest h] at hsessions
    refine hsessions ?_
    split
    · rfl
    · split <;> rfl
  | _ => exact id

end Record

end Effects

/-- In every run, from any tables on, creation is idempotent if and only if no request that is about to
create a session does so at a time from which the expiry is out of range. -/
theorem playback_idempotent_iff (config : Config) (requestHash : String → String)
    (hhash : DistinctHashes requestHash) (g : State) (actions : List Action) :
    IdempotentPlayback config requestHash g actions ↔
      EachStep (step config requestHash) (ExpiryInRange config) g actions := by
  constructor
  · intro h
    refine eachStep_iff.mpr fun past a hpast ↦ ?_
    obtain ⟨rest, hactions⟩ := hpast
    have hcreates := h past a rest (by simp [← hactions])
    cases a with
    | createPlayback account draws body =>
      intro request track adapterRef hauthorizes hadapter hdecisionFree hsessionFree
      have heffect := authorizePlayback_effect config (run (step config requestHash) g past).clock account
        track draws request.idempotencyKey (requestHash request.trackId)
        (run (step config requestHash) g past).store
      rw [← createPlayback_of_authorizes hauthorizes] at heffect
      have hcreates := hcreates account.accountId request.idempotencyKey request.trackId
      simp only [CreatesSession, hauthorizes.request_eq, true_and] at hcreates
      generalize (createPlayback config requestHash (run (step config requestHash) g past).clock account
        draws body).execute (run (step config requestHash) g past).store = out at heffect hcreates
      cases heffect with
      | nothing hdecision => exact absurd hdecisionFree (Table.insert_eq_none.mp hdecision)
      | decision e decisions hdecision hfailed =>
        obtain herror | ⟨_, -, htaken⟩ := hfailed
        · rw [hadapter] at herror
          cases herror
        · exact absurd hsessionFree (Table.insert_eq_none.mp htaken)
      | session e decisions sessions _ _ _ hsession =>
        obtain ⟨response, hok, -⟩ := hcreates _ ⟨rfl, Table.insert_ne hsession⟩
        cases hok
      | created decisions sessions idempotencyKeys _ expiresAt _ _ _ hexpires =>
        refine not_lt.mp fun hlate ↦ ?_
        rw [Date.toISOString?_eq_none.mpr hlate] at hexpires
        cases hexpires
    | _ => trivial
  · rintro hrange past a rest rfl ownerId key trackId outcome hcreates
    have hstep : ExpiryInRange config (run (step config requestHash) g past) a :=
      (EachStep.append.mp hrange).2.1
    obtain ⟨response, rfl, hrecord, track, hmem, htrack⟩ | ⟨-, hlate⟩ := creation_cases hcreates
    · have hrecords : AtEachMoment (step config requestHash)
          (fun g ↦ g.store.Records ownerId key (requestHash trackId) response)
          (run (step config requestHash) g (past ++ [a])) rest := by
        rw [run_append]
        exact atEachMoment_of_kept (fun g b h ↦ h.step b) hrecord
      exact ⟨response, rfl, fun later hlater ↦ (hrecords later hlater).answersKey hhash hmem htrack,
        eachStep_iff.mpr fun later b hlater other outcome ↦
          (hrecords later ((List.prefix_append later [b]).trans hlater)).not_creates⟩
    · exact absurd hstep hlate

namespace Sample

theorem distinctHashes : DistinctHashes requestHash := by
  unfold DistinctHashes
  decide

/-- The listener asks for a session, closes it and repeats the request. -/
def closedAndRepeated : List Action :=
  [play firstDraws "play-key-1", .closeSession listener firstDraws.playbackSessionId]

end Sample

/-- With the configured lifetime a closed session is answered from its record. -/
theorem playback_repeated_after_close :
    IdempotentPlayback Sample.config Sample.requestHash (start Sample.clock)
      (Sample.closedAndRepeated ++ [Sample.play Sample.secondDraws "play-key-1"]) := by
  refine (playback_idempotent_iff Sample.config Sample.requestHash Sample.distinctHashes
    (start Sample.clock) _).mpr ⟨?_, trivial, ?_, trivial⟩
  · exact fun _ _ _ _ _ _ _ ↦ by decide
  · exact fun _ _ _ _ _ _ _ ↦ by decide

/-- With the endless lifetime the repetition creates a second session. -/
theorem playback_created_twice :
    CreatesSession Sample.endless Sample.requestHash Sample.listener.accountId "play-key-1"
        "track-mock-001" (.error .rangeError) (start Sample.clock)
        (Sample.play Sample.firstDraws "play-key-1") ∧
      CreatesSession Sample.endless Sample.requestHash Sample.listener.accountId "play-key-1"
        "track-mock-001" (.error .rangeError)
        (run (step Sample.endless Sample.requestHash) (start Sample.clock) Sample.closedAndRepeated)
        (Sample.play Sample.secondDraws "play-key-1") ∧
      ¬IdempotentPlayback Sample.endless Sample.requestHash (start Sample.clock)
        (Sample.closedAndRepeated ++ [Sample.play Sample.secondDraws "play-key-1"]) := by
  have hfirst : CreatesSession Sample.endless Sample.requestHash Sample.listener.accountId "play-key-1"
      "track-mock-001" (.error .rangeError) (start Sample.clock)
      (Sample.play Sample.firstDraws "play-key-1") :=
    ⟨rfl, rfl, rfl, fun h ↦ absurd (congrArg (·.rows.length) h) (by decide +kernel)⟩
  refine ⟨hfirst, ⟨rfl, rfl, rfl, fun h ↦ absurd (congrArg (·.rows.length) h) (by decide +kernel)⟩, ?_⟩
  intro h
  obtain ⟨response, hok, -⟩ := h [] _ _ rfl _ _ _ _ hfirst
  cases hok

end CreatorFirst.Gateway
