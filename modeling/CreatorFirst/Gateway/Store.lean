import Mathlib.Algebra.BigOperators.Group.List.Basic
import Mathlib.Algebra.Ring.Nat
import CreatorFirst.Database.Table
import CreatorFirst.Time.Date

/-!
# The gateway's tables

The four tables of playback: authorization decisions, playback sessions, idempotency keys and delivery
evidence, with the statements the gateway runs on them. Every statement takes effect at once. An
insertion under a primary key that is taken fails and leaves the tables as they were.
-/

namespace CreatorFirst.Gateway

open Database

/-- The state column of a playback session. -/
inductive SessionState where
  | authorized
  | started
  | active
  | closed
  | revoked
  | expired
  deriving DecidableEq, Repr

/-- `state IN ('CLOSED', 'REVOKED', 'EXPIRED')` -/
def SessionState.Terminal (state : SessionState) : Prop :=
  state = .closed ∨ state = .revoked ∨ state = .expired

instance (state : SessionState) : Decidable state.Terminal :=
  inferInstanceAs (Decidable (_ ∨ _))

/-- `state IN ('AUTHORIZED', 'STARTED', 'ACTIVE')` -/
def SessionState.Playable (state : SessionState) : Prop :=
  state = .authorized ∨ state = .started ∨ state = .active

instance (state : SessionState) : Decidable state.Playable :=
  inferInstanceAs (Decidable (_ ∨ _))

theorem SessionState.playable_iff {state : SessionState} : state.Playable ↔ ¬state.Terminal := by
  cases state <;> simp [Playable, Terminal]

inductive ReasonCode where
  | authorized
  | accountRestricted
  | subscriptionInactive
  | supporterRequired
  | earlySupporterRequired
  | deliveryBudgetExhausted
  | concurrencyLimit
  deriving DecidableEq, Repr

structure Decision where
  decisionId : String
  ownerId : String
  trackId : String
  allowed : Bool
  reasonCode : ReasonCode
  policyVersion : String
  rightsVersion : String
  decidedAt : Date
  deriving DecidableEq

structure Session where
  sessionId : String
  decisionId : String
  ownerId : String
  trackId : String
  adapterRef : String
  state : SessionState := .authorized
  issuedAt : ℕ
  expiresAt : ℕ
  leaseReleased : Bool := false
  bytesDelivered : ℕ := 0
  deriving DecidableEq

/-- What `createPlayback` answers, and stores for the repetition of the request. -/
structure PlaybackResult where
  playbackSessionId : String
  streamUrl : String
  expiresAt : Date
  deriving DecidableEq

structure IdempotencyKey where
  ownerId : String
  idempotencyKey : String
  requestHash : String
  response : PlaybackResult
  deriving DecidableEq

structure DeliveryEvidence where
  evidenceId : String
  sessionId : String
  decisionId : String
  trackId : String
  responseStatus : ℕ
  rangeSummary : String
  bytesDelivered : ℕ
  startedAt : Date
  completedAt : Date
  evidenceVersion : String := "delivery-evidence-v1"
  deriving DecidableEq

def IdempotencyKey.key (k : IdempotencyKey) : String × String := (k.ownerId, k.idempotencyKey)

structure Store where
  decisions : Table Decision.decisionId
  sessions : Table Session.sessionId
  idempotencyKeys : Table IdempotencyKey.key
  evidence : Table DeliveryEvidence.evidenceId

def Store.empty : Store := ⟨.empty, .empty, .empty, .empty⟩

namespace Session

/-- The session counts against its owner's limit. -/
def ActiveAt (now : ℕ) (r : Session) : Prop := r.state.Playable ∧ now < r.expiresAt

instance (now : ℕ) (r : Session) : Decidable (r.ActiveAt now) :=
  inferInstanceAs (Decidable (_ ∧ _))

/-- `SET state = ?` -/
def withState (state : SessionState) : Table.Rewrite sessionId where
  apply r := { r with state }
  key_apply _ := rfl

/-- `SET state = ?, lease_released = 1` -/
def release (state : SessionState) : Table.Rewrite sessionId where
  apply r := { r with state, leaseReleased := true }
  key_apply _ := rfl

/-- `SET bytes_delivered = bytes_delivered + ?, state = 'ACTIVE'` -/
def deliver (bytes : ℕ) : Table.Rewrite sessionId where
  apply r := { r with bytesDelivered := r.bytesDelivered + bytes, state := .active }
  key_apply _ := rfl

end Session

namespace Store

variable (s : Store)

def recordDecision (value : Decision) : Option Store :=
  (s.decisions.insert value).map fun decisions ↦ { s with decisions }

def activeSessionForOwner (ownerId : String) (now : ℕ) : Option String :=
  (s.sessions.rows.find? fun r ↦ r.ownerId = ownerId ∧ r.ActiveAt now).map (·.sessionId)

/-- The new row is in state `AUTHORIZED`, with its lease held and no bytes delivered. -/
def createSession (sessionId decisionId ownerId trackId adapterRef : String)
    (issuedAt expiresAt : ℕ) : Option Store :=
  (s.sessions.insert { sessionId, decisionId, ownerId, trackId, adapterRef, issuedAt, expiresAt }).map
    fun sessions ↦ { s with sessions }

def session (sessionId : String) : Option Session := s.sessions.find? sessionId

def setSessionState (sessionId : String) (state : SessionState) : Store :=
  { s with sessions := s.sessions.update sessionId (fun _ ↦ True) (Session.withState state) }

def closeSession (sessionId ownerId : String) : Store × ℕ :=
  ({ s with
      sessions := s.sessions.update sessionId (fun r ↦ r.ownerId = ownerId ∧ ¬r.state.Terminal)
        (Session.release .closed) },
    s.sessions.changes sessionId fun r ↦ r.ownerId = ownerId ∧ ¬r.state.Terminal)

def expireSession (sessionId : String) : Store :=
  { s with sessions := s.sessions.update sessionId (fun _ ↦ True) (Session.release .expired) }

def idempotentResponse (ownerId key : String) : Option IdempotencyKey :=
  s.idempotencyKeys.find? (ownerId, key)

def saveIdempotentResponse (ownerId key requestHash : String) (response : PlaybackResult) :
    Option Store :=
  (s.idempotencyKeys.insert ⟨ownerId, key, requestHash, response⟩).map
    fun idempotencyKeys ↦ { s with idempotencyKeys }

/-- One transaction of two statements; the second runs whether or not the first inserted a row. -/
def recordEvidence (value : DeliveryEvidence) : Store :=
  { s with
    evidence := s.evidence.insertOrIgnore { value with evidenceVersion := "delivery-evidence-v1" }
    sessions := s.sessions.update value.sessionId (fun r ↦ ¬r.state.Terminal)
      (Session.deliver value.bytesDelivered) }

def deliveredBytesSince (start : Date) : ℕ :=
  ((s.evidence.rows.filter fun e ↦ start.ms ≤ e.completedAt.ms).map (·.bytesDelivered)).sum

end Store

/-- A statement of the gateway, or the transaction that records evidence. -/
inductive StoreCall where
  | recordDecision (value : Decision)
  | createSession (sessionId decisionId ownerId trackId adapterRef : String) (issuedAt expiresAt : ℕ)
  | setSessionState (sessionId : String) (state : SessionState)
  | closeSession (sessionId ownerId : String)
  | expireSession (sessionId : String)
  | saveIdempotentResponse (ownerId key requestHash : String) (response : PlaybackResult)
  | recordEvidence (value : DeliveryEvidence)

namespace Store

/-- An insertion that violates a constraint leaves the tables as they were. -/
def call (s : Store) : StoreCall → Store
  | .recordDecision value => (s.recordDecision value).getD s
  | .createSession sessionId decisionId ownerId trackId adapterRef issuedAt expiresAt =>
    (s.createSession sessionId decisionId ownerId trackId adapterRef issuedAt expiresAt).getD s
  | .setSessionState sessionId state => s.setSessionState sessionId state
  | .closeSession sessionId ownerId => (s.closeSession sessionId ownerId).1
  | .expireSession sessionId => s.expireSession sessionId
  | .saveIdempotentResponse ownerId key requestHash response =>
    (s.saveIdempotentResponse ownerId key requestHash response).getD s
  | .recordEvidence value => s.recordEvidence value

end Store

end CreatorFirst.Gateway
