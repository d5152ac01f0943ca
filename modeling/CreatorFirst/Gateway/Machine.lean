import CreatorFirst.Gateway.Handlers
import CreatorFirst.Process.Run

/-!
# The gateway under concurrent requests

The gateway runs one part of a handler at a time. A stream waits for the media adapter with the row it
has read, then delivers chunks, and its evidence is recorded once, when the delivery ends, fails or is
broken off. Between any two such parts other requests may run, and time may pass.
-/

namespace CreatorFirst.Gateway

/-- A `deliverStream` request that has passed its checks. -/
inductive Stream where
  | opening (session : Session) (startedAt : Date)
  | delivering (session : Session) (startedAt : Date) (delivery : Delivery) (bytesDelivered : ℕ)
      (recorded : Bool)
  | ended

structure State where
  store : Store
  clock : Date
  streams : List Stream

/-- The clock moves, a request arrives (its body has been read), or a stream goes on: the media adapter
answers, a chunk is delivered, or one of the events occurs that record the evidence. -/
inductive Action where
  | wait (ms : ℕ)
  | createPlayback (account : Account) (draws : Draws) (body : Except Failure Body)
  | deliverStream (account : Account) (sessionId : String)
  | opened (stream : ℕ) (answer : Except OpenError Delivery)
  | data (stream : ℕ) (length : ℕ)
  | record (stream : ℕ) (evidenceId : String)
  | closeSession (account : Account) (sessionId : String)

namespace State

variable (g : State)

def setStream (i : ℕ) (stream : Stream) (store : Store) : State :=
  { g with store, streams := g.streams.set i stream }

/-- The handler waits for the media adapter, or has ended. -/
def enterStream : Except Failure Session × Store → State
  | (.ok session, store) => { g with store, streams := g.streams ++ [.opening session g.clock] }
  | (.error _, store) => { g with store }

def resumeStream (i : ℕ) (session : Session) (startedAt : Date) :
    Except Failure (Option Delivery) × Store → State
  | (.ok (some delivery), store) =>
    g.setStream i (.delivering session startedAt delivery 0 false) store
  | (_, store) => g.setStream i .ended store

end State

def start (clock : Date) : State := ⟨.empty, clock, []⟩

section

variable (config : Config) (requestHash : String → String)

def step (g : State) : Action → State
  | .wait ms => { g with clock := g.clock.advance ms }
  | .createPlayback account draws body =>
    { g with
      store := ((createPlayback config requestHash g.clock account draws body).execute g.store).2 }
  | .deliverStream account sessionId =>
    g.enterStream ((deliverStream g.clock account sessionId).execute g.store)
  | .opened i answer =>
    match g.streams[i]? with
    | some (.opening session startedAt) =>
      g.resumeStream i session startedAt ((startDelivery session answer).execute g.store)
    | _ => g
  | .data i length =>
    match g.streams[i]? with
    | some (.delivering session startedAt delivery bytesDelivered recorded) =>
      g.setStream i (.delivering session startedAt delivery (bytesDelivered + length) recorded) g.store
    | _ => g
  | .record i evidenceId =>
    match g.streams[i]? with
    | some (.delivering session startedAt delivery bytesDelivered false) =>
      g.setStream i (.delivering session startedAt delivery bytesDelivered true)
        (g.store.recordEvidence
          (deliveryEvidence g.clock session startedAt delivery bytesDelivered evidenceId))
    | _ => g
  | .closeSession account sessionId =>
    { g with store := (g.store.closeSession sessionId account.accountId).1 }

end

/-! ## A listener and the identifiers drawn for its requests -/

namespace Sample

def config : Config where
  adapter := .file
  navidromeMediaIds := []
  basePath := "/api"
  monthlyByteLimit := 838860800
  playbackTtlMs := 300000

/-- A lifetime of sessions that ends after the last date. -/
def endless : Config := { config with playbackTtlMs := maxTime }

/-- SHA-256 of the requests for the tracks of the catalog. -/
def requestHash (trackId : String) : String :=
  ([("track-mock-001", "cbf4e27ce6966f768ae9978ab71bc58102483b9b2bdf0a768bc7f580a0e75d6f"),
    ("track-mock-002", "d42294fcdcca9724f4af13bd0bb04632653c69d8a64a2b3a947ad28d47a98acf"),
    ("track-mock-003", "6822775ff6d959685a1a0be5711acef56e3c69fd75b255ca4824acf14f000729")].lookup
      trackId).getD ""

/-- 1 October 2026. -/
def clock : Date := ⟨1790812800000, by decide⟩

def listener : Account where
  accountId := "demo-94a06568-5d64-4498-8bb8-d4544a8721a9"
  active := true
  subscriptionActive := true
  tiers := []

def firstDraws : Draws where
  decisionId := "80ec37bc-9712-4d2e-aaae-b94bae8d2f9f"
  playbackSessionId := "grcO7n8aUDm-8H7CNH8GbtCPXcdRJEfjQEMAAmtuVFU"

def secondDraws : Draws where
  decisionId := "d79648e8-56e8-49a2-b58c-95f0ce4b39c1"
  playbackSessionId := "mgGtIZ61nPahXvbxWh2DC7fOCda7wATnF1xkPH3ssLU"

def play (draws : Draws) (idempotencyKey : String) : Action :=
  .createPlayback listener draws (.ok (.fields (some "track-mock-001") (some idempotencyKey)))

/-- The first bytes of the file of the catalog. -/
def delivery : Delivery := ⟨206, "0-99/441044"⟩

/-- The listener closes the session while its stream waits for the media adapter. -/
def closedWhileOpening : List Action :=
  [play firstDraws "play-key-1", .deliverStream listener firstDraws.playbackSessionId,
    .closeSession listener firstDraws.playbackSessionId]

end Sample

end CreatorFirst.Gateway
