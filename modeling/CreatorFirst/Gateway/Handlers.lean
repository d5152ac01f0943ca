import CreatorFirst.Gateway.Store

/-!
# Playback handlers

The request handlers of the gateway that create and stream playback sessions, cut at their awaits. The
part of a handler between two awaits runs without interruption and at one time of the clock; what it
wrote before it throws stays written.
-/

namespace CreatorFirst.Gateway

inductive Capability where
  | basePlan
  | supporter
  | earlySupporter
  deriving DecidableEq

/-- Tiers an account can hold with an artist; `none` is `'NONE'`. -/
inductive Tier where
  | none
  | supporter
  | earlySupporter
  deriving DecidableEq

structure Track where
  trackId : String
  artistId : String
  requiredCapability : Capability
  rightsVersion : String
  fileRef : String
  navidromeIdEnv : String

def catalog : List Track := [
  { trackId := "track-mock-001"
    artistId := "artist-ao"
    requiredCapability := .basePlan
    rightsVersion := "mock-rights-v1"
    fileRef := "local-test-tone.wav"
    navidromeIdEnv := "NAVIDROME_MEDIA_ID_TRACK_MOCK_001" },
  { trackId := "track-mock-002"
    artistId := "artist-ao"
    requiredCapability := .supporter
    rightsVersion := "mock-rights-v1"
    fileRef := "local-test-tone.wav"
    navidromeIdEnv := "NAVIDROME_MEDIA_ID_TRACK_MOCK_002" },
  { trackId := "track-mock-003"
    artistId := "artist-lumen"
    requiredCapability := .earlySupporter
    rightsVersion := "mock-rights-v1"
    fileRef := "local-test-tone.wav"
    navidromeIdEnv := "NAVIDROME_MEDIA_ID_TRACK_MOCK_003" }]

/-- A track of the catalog is determined by its identifier. -/
theorem eq_of_trackId {track track' : Track} (htrack : track ∈ catalog) (htrack' : track' ∈ catalog)
    (h : track.trackId = track'.trackId) : track = track' :=
  List.inj_on_of_nodup_map (by decide : (catalog.map Track.trackId).Nodup) htrack htrack' h

inductive Adapter where
  | file
  | navidrome
  deriving DecidableEq

structure Config where
  adapter : Adapter
  navidromeMediaIds : List (String × String)
  basePath : String
  monthlyByteLimit : ℕ
  playbackTtlMs : ℕ

structure Account where
  accountId : String
  active : Bool
  subscriptionActive : Bool
  tiers : List (String × Tier)

/-- What makes a handler end in an error: a `GatewayHttpError`, or an exception of the runtime, which
the server answers with status 500. -/
inductive Failure where
  | http (status : ℕ) (code message : String)
  | typeError
  | rangeError
  | constraint
  deriving DecidableEq

/-- A handler between two awaits. -/
abbrev Handler := ExceptT Failure (StateM Store)

def Handler.execute {α : Type} (h : Handler α) (s : Store) : Except Failure α × Store :=
  StateT.run (ExceptT.run h) s

/-- Run a statement that can violate a constraint. -/
def statement (f : Store → Option Store) : Handler Unit := do
  match f (← get) with
  | none => throw .constraint
  | some s => set s

section Effects

variable {α β : Type} (s : Store)

@[simp]
theorem execute_pure (a : α) : (pure a : Handler α).execute s = (.ok a, s) := rfl

@[simp]
theorem execute_throw (e : Failure) : (throw e : Handler α).execute s = (.error e, s) := rfl

@[simp]
theorem execute_get : (get : Handler Store).execute s = (.ok s, s) := rfl

@[simp]
theorem execute_modify (f : Store → Store) : (modify f : Handler Unit).execute s = (.ok (), f s) := rfl

@[simp]
theorem execute_lift (x : Except Failure α) : (liftM x : Handler α).execute s = (x, s) := by
  cases x <;> rfl

theorem execute_bind (x : Handler α) (f : α → Handler β) :
    (x >>= f).execute s =
      match x.execute s with
      | (.ok a, s') => (f a).execute s'
      | (.error e, s') => (.error e, s') := by
  change (match StateT.run (ExceptT.run x) s with
    | (a, s') => StateT.run (ExceptT.bindCont f a) s') = _
  rcases hx : StateT.run (ExceptT.run x) s with ⟨a | e, s'⟩ <;>
    simp only [Handler.execute, hx] <;> rfl

theorem execute_statement (f : Store → Option Store) :
    (statement f).execute s =
      match f s with
      | none => (.error .constraint, s)
      | some s' => (.ok (), s') := by
  simp only [statement, execute_bind, execute_get]
  cases f s <;> rfl

end Effects

/-- The number of UTF-16 code units, which is the `length` of a JavaScript string. -/
def utf16Length (text : String) : ℕ :=
  (text.toList.map fun c ↦ if c.toNat < 0x10000 then 1 else 2).sum

/-- What a handler reads off the parsed body of a request; a field is `none` unless it is a string. -/
inductive Body where
  | null
  | fields (trackId idempotencyKey : Option String)

structure PlaybackRequest where
  trackId : String
  idempotencyKey : String

def invalidPlaybackRequest : Failure :=
  .http 400 "INVALID_PLAYBACK_REQUEST" "trackId and idempotencyKey are required"

/-- The outcome of `readJson` and the checks on the body. -/
def playbackRequest (body : Except Failure Body) : Except Failure PlaybackRequest :=
  match body with
  | .error e => .error e
  | .ok .null => .error .typeError
  | .ok (.fields (some trackId) (some idempotencyKey)) =>
    if utf16Length idempotencyKey < 8 ∨ 160 < utf16Length idempotencyKey then
      .error invalidPlaybackRequest
    else .ok ⟨trackId, idempotencyKey⟩
  | .ok _ => .error invalidPlaybackRequest

/-- Identifiers drawn at random while the request runs. -/
structure Draws where
  decisionId : String
  playbackSessionId : String

structure Response where
  status : ℕ
  result : PlaybackResult

def ReasonCode.text : ReasonCode → String
  | .authorized => "AUTHORIZED"
  | .accountRestricted => "ACCOUNT_RESTRICTED"
  | .subscriptionInactive => "SUBSCRIPTION_INACTIVE"
  | .supporterRequired => "SUPPORTER_REQUIRED"
  | .earlySupporterRequired => "EARLY_SUPPORTER_REQUIRED"
  | .deliveryBudgetExhausted => "DELIVERY_BUDGET_EXHAUSTED"
  | .concurrencyLimit => "CONCURRENCY_LIMIT"

def policyVersion : String := "gateway-demo-policy-v1"

/-- `required.replace('_', ' ')` -/
def Capability.label : Capability → String
  | .basePlan => "BASE PLAN"
  | .supporter => "SUPPORTER"
  | .earlySupporter => "EARLY SUPPORTER"

def capabilityAllows (required : Capability) (tier : Tier) : Bool :=
  match required with
  | .basePlan => true
  | .supporter => tier = .supporter || tier = .earlySupporter
  | .earlySupporter => tier = .earlySupporter

/-- A refused authorization: the reason that is recorded, and the answer. -/
structure Denial where
  reasonCode : ReasonCode
  status : ℕ
  message : String

def Denial.failure (d : Denial) : Failure := .http d.status d.reasonCode.text d.message

section

variable (config : Config)

/-- The first check of an authorization that fails. -/
def denial? (now : Date) (account : Account) (track : Track) (s : Store) : Option Denial :=
  let tier := (account.tiers.lookup track.artistId).getD .none
  if !account.active then
    some ⟨.accountRestricted, 403, "Playback is unavailable"⟩
  else if !account.subscriptionActive then
    some ⟨.subscriptionInactive, 403, "An active demo subscription is required"⟩
  else if !capabilityAllows track.requiredCapability tier then
    some ⟨if track.requiredCapability = .earlySupporter then .earlySupporterRequired
      else .supporterRequired, 403, track.requiredCapability.label ++ " SBT is required"⟩
  else if config.monthlyByteLimit ≤ s.deliveredBytesSince now.monthStart then
    some ⟨.deliveryBudgetExhausted, 503, "Monthly demo delivery budget is exhausted"⟩
  else if (s.activeSessionForOwner account.accountId now.ms).isSome then
    some ⟨.concurrencyLimit, 409, "Close the current playback session first"⟩
  else none

def adapterReference (track : Track) : Except Failure String :=
  match config.adapter with
  | .file => .ok track.fileRef
  | .navidrome =>
    let reference := (config.navidromeMediaIds.lookup track.navidromeIdEnv).getD ""
    if reference = "" then
      .error (.http 503 "CATALOG_MAPPING_UNAVAILABLE" "Media mapping is unavailable")
    else .ok reference

def deniedDecision (now : Date) (account : Account) (track : Track) (decisionId : String)
    (reasonCode : ReasonCode) : Decision where
  decisionId := decisionId
  ownerId := account.accountId
  trackId := track.trackId
  allowed := false
  reasonCode := reasonCode
  policyVersion := policyVersion
  rightsVersion := track.rightsVersion
  decidedAt := now

def recordDenied (now : Date) (account : Account) (track : Track) (decisionId : String)
    (reasonCode : ReasonCode) : Handler Unit :=
  statement (·.recordDecision (deniedDecision now account track decisionId reasonCode))

/-- `new Date(ms).toISOString()` -/
def toISOString (ms : ℕ) : Except Failure Date :=
  match Date.toISOString? ms with
  | none => .error .rangeError
  | some date => .ok date

/-- The decision of an authorized request. -/
def allowedDecision (now : Date) (account : Account) (track : Track) (draws : Draws) : Decision where
  decisionId := draws.decisionId
  ownerId := account.accountId
  trackId := track.trackId
  allowed := true
  reasonCode := .authorized
  policyVersion := policyVersion
  rightsVersion := track.rightsVersion
  decidedAt := now

def playbackResult (draws : Draws) (expiresAt : Date) : PlaybackResult where
  playbackSessionId := draws.playbackSessionId
  streamUrl := config.basePath ++ "/v1/streams/" ++ draws.playbackSessionId
  expiresAt := expiresAt

/-- The rest of `createPlayback` once every check has passed. -/
def authorizePlayback (now : Date) (account : Account) (track : Track) (draws : Draws)
    (idempotencyKey hash : String) : Handler Response := do
  let expiresAt := now.ms + config.playbackTtlMs
  statement (·.recordDecision (allowedDecision now account track draws))
  let adapterRef ← adapterReference config track
  statement (·.createSession draws.playbackSessionId draws.decisionId account.accountId track.trackId
    adapterRef now.ms expiresAt)
  let result := playbackResult config draws (← toISOString expiresAt)
  statement (·.saveIdempotentResponse account.accountId idempotencyKey hash result)
  return ⟨201, result⟩

variable (requestHash : String → String)

/-- `requestHash` stands for the digest of the request, which depends on its track alone. -/
def createPlayback (now : Date) (account : Account) (draws : Draws) (body : Except Failure Body) :
    Handler Response := do
  let request ← playbackRequest body
  match catalog.find? fun candidate ↦ candidate.trackId = request.trackId with
  | none => throw (.http 404 "TRACK_NOT_FOUND" "Track was not found")
  | some track =>
    let hash := requestHash request.trackId
    match (← get).idempotentResponse account.accountId request.idempotencyKey with
    | some prior =>
      if prior.requestHash ≠ hash then
        throw (.http 409 "IDEMPOTENCY_CONFLICT" "Idempotency key was reused for another request")
      else
        return ⟨200, prior.response⟩
    | none =>
      match denial? config now account track (← get) with
      | some denial =>
        recordDenied now account track draws.decisionId denial.reasonCode
        throw denial.failure
      | none => authorizePlayback config now account track draws request.idempotencyKey hash

end

/-- What a media adapter returns; the body of the delivery arrives in chunks. -/
structure Delivery where
  status : ℕ
  rangeSummary : String
  deriving DecidableEq

inductive OpenError where
  | range
  | other

/-- `deliverStream` up to the call of the media adapter, for which it keeps the row it has read. -/
def deliverStream (now : Date) (account : Account) (sessionId : String) : Handler Session := do
  match (← get).session sessionId with
  | none => throw (.http 404 "PLAYBACK_SESSION_NOT_FOUND" "Playback session was not found")
  | some session =>
    if session.ownerId ≠ account.accountId then
      throw (.http 404 "PLAYBACK_SESSION_NOT_FOUND" "Playback session was not found")
    else if session.expiresAt ≤ now.ms then
      modify (·.expireSession sessionId)
      throw (.http 410 "PLAYBACK_SESSION_EXPIRED" "Playback session has expired")
    else if ¬session.state.Playable then
      throw (.http 410 "PLAYBACK_SESSION_INACTIVE" "Playback session is inactive")
    else return session

/-- `deliverStream` once the media adapter has answered; without a delivery the status is 416. -/
def startDelivery (session : Session) : Except OpenError Delivery → Handler (Option Delivery)
  | .error .range => return none
  | .error .other =>
    throw (.http 502 "MEDIA_ADAPTER_FAILURE" "Media delivery is temporarily unavailable")
  | .ok delivery => do
    modify (·.setSessionState session.sessionId .started)
    return some delivery

/-- The evidence of a delivery that has ended or broken off. -/
def deliveryEvidence (now : Date) (session : Session) (startedAt : Date) (delivery : Delivery)
    (bytesDelivered : ℕ) (evidenceId : String) : DeliveryEvidence where
  evidenceId := evidenceId
  sessionId := session.sessionId
  decisionId := session.decisionId
  trackId := session.trackId
  responseStatus := delivery.status
  rangeSummary := delivery.rangeSummary
  bytesDelivered := bytesDelivered
  startedAt := startedAt
  completedAt := now

end CreatorFirst.Gateway
