import CreatorFirst.Gateway.Applications
import CreatorFirst.Gateway.AccountTrust
import CreatorFirst.Gateway.Siwe
import CreatorFirst.Gateway.Support
import CreatorFirst.Gateway.Machine

/-!
# The gateway server

One state for all requests: the account objects, the challenges and support intents in memory, the
tables of playback, and the services of account trust and of participation. A step is one part of a
handler between two awaits, or the passing of time. What an account's handlers hold while they wait is
kept in the order in which they began to wait.
-/

namespace CreatorFirst.Gateway.Server

open Database Process

/-- A handler that waits: for the signer of a message, for a body, or on a stream. -/
inductive Request where
  | verifyChallenge (challengeId signature : String)
  | createSupportIntent (artistId : String)
  | submitSupport (requestId : String)
  | stream (stream : Stream)
  | ended

structure State where
  clock : Date
  accounts : AccountId → Profile
  challenges : Table Challenge.challengeId
  supportIntents : Table SupportIntent.requestId
  supportIdempotency : Table SupportReply.scope
  store : Store
  requests : AccountId → List Request
  trust : AccountTrust.State
  participation : Participation.State

def start (clock : Date) : State where
  clock := clock
  accounts _ := {}
  challenges := .empty
  supportIntents := .empty
  supportIdempotency := .empty
  store := .empty
  requests _ := []
  trust := .empty
  participation := .empty

/-- A request arrives, or a handler that waits goes on. -/
inductive Action where
  | wait (ms : ℕ)
  | registerDemoUser (accountId : AccountId) (user : DemoUser)
  | createChallenge (accountId : AccountId) (draws : ChallengeDraws) (body : Except Failure ChallengeBody)
  | verifyChallenge (accountId : AccountId) (body : Except Failure (Option VerifyBody))
  | messageRecovered (accountId : AccountId) (request : ℕ)
  | createSupportIntent (accountId : AccountId) (artistId : String)
  | supportBody (accountId : AccountId) (request : ℕ) (draws : SupportDraws)
      (body : Except Failure SupportBody)
  | submitSupport (accountId : AccountId) (requestId : String)
  | supportSignature (accountId : AccountId) (request : ℕ) (body : Except Failure (Option String))
  | supportRegistration (accountId : AccountId) (requestId : String)
  | createPlayback (accountId : AccountId) (draws : Draws) (body : Except Failure Body)
  | deliverStream (accountId : AccountId) (sessionId : String)
  | opened (accountId : AccountId) (request : ℕ) (answer : Except OpenError Delivery)
  | data (accountId : AccountId) (request : ℕ) (length : ℕ)
  | record (accountId : AccountId) (request : ℕ) (evidenceId : String)
  | closeSession (accountId : AccountId) (sessionId : String)
  | trust (action : AccountTrust.Action)
  | participation (action : Participation.Action)

/-- The account that sends the request, for the requests other than those of participation. -/
def Action.accountId? : Action → Option AccountId
  | .wait _ | .participation _ => none
  | .registerDemoUser accountId _ | .createChallenge accountId _ _ | .verifyChallenge accountId _
  | .messageRecovered accountId _ | .createSupportIntent accountId _ | .supportBody accountId _ _ _
  | .submitSupport accountId _ | .supportSignature accountId _ _ | .supportRegistration accountId _
  | .createPlayback accountId _ _ | .deliverStream accountId _ | .opened accountId _ _
  | .data accountId _ _ | .record accountId _ _ | .closeSession accountId _ => some accountId
  | .trust action => some action.accountId

/-- What a request is answered, apart from the answers of the two services. -/
inductive Answer where
  | challenge (challengeId message : String) (expiresAt : ℕ)
  | authenticated (accountLabel : String)
  | supportIntent (status : ℕ) (result : SupportIntentResult)
  | support (status : ℕ) (requestId : String) (state : SupportStatus) (tier : Tier)
  | playback (response : Response)
  | delivery (delivery : Option Delivery)
  | closed

/-- The state after a step, and the answer that it sends. -/
abbrev Served := State × Option (Except Failure Answer)

namespace State

variable (s : State)

def account (accountId : AccountId) : Account := (s.accounts accountId).account accountId

def setAccount (accountId : AccountId) (profile : Profile) : State :=
  { s with accounts := Function.update s.accounts accountId profile }

def suspend (accountId : AccountId) (request : Request) : State :=
  { s with requests := Function.update s.requests accountId (s.requests accountId ++ [request]) }

def setRequest (accountId : AccountId) (i : ℕ) (request : Request) : State :=
  { s with requests := Function.update s.requests accountId ((s.requests accountId).set i request) }

/-- The request of the account that waits under this number. -/
def request? (accountId : AccountId) (i : ℕ) : Option Request := (s.requests accountId)[i]?

end State

section Handlers

variable (lib : Library) (config : ServerConfig) (s : State) (accountId : AccountId)

/-- The checks on the alias and the notices are left to the caller; a second registration changes
nothing. -/
def registerDemoUser (user : DemoUser) : State :=
  match (s.accounts accountId).demoUser with
  | some _ => s
  | none => s.setAccount accountId { s.accounts accountId with demoUser := some user }

def createChallenge (draws : ChallengeDraws) (body : Except Failure ChallengeBody) : Served :=
  match Gateway.createChallenge lib config s.clock s.participation accountId draws body with
  | .error e => (s, some (.error e))
  | .ok challenge =>
    ({ s with challenges := s.challenges.set challenge },
      some (.ok (.challenge challenge.challengeId challenge.message challenge.expiresAt)))

def verifyChallenge (body : Except Failure (Option VerifyBody)) : Served :=
  match mayVerifyChallenge s.clock s.challenges accountId body with
  | .error e => (s, some (.error e))
  | .ok (challenge, signature) =>
    (s.suspend accountId (.verifyChallenge challenge.challengeId signature), none)

/-- The rest of `verifyChallenge`. -/
def messageRecovered (i : ℕ) (challenge : Challenge) (signature : String) : Served :=
  match challengeSigned lib challenge signature with
  | .error e => (s.setRequest accountId i .ended, some (.error e))
  | .ok () =>
    (({ s with challenges := s.challenges.update challenge.challengeId (fun _ ↦ True) Challenge.use
      }.setAccount accountId ((s.accounts accountId).signedIn challenge)).setRequest accountId i .ended,
      some (.ok (.authenticated (accountLabel challenge.address))))

def createSupportIntent (artistId : String) : Served :=
  match mayRequestSupport (s.accounts accountId) with
  | .error e => (s, some (.error e))
  | .ok () => (s.suspend accountId (.createSupportIntent artistId), none)

/-- The answer to a support request whose scope is known. -/
def repeatedSupport (prior : SupportReply) (request : SupportRequest) : Except Failure Answer :=
  if prior.hash ≠ request.hash then
    .error (.http 409 "IDEMPOTENCY_CONFLICT" "Idempotency key was reused for another request")
  else .ok (.supportIntent 200 prior.response)

/-- The rest of `createSupportIntent`, once the body has been read. -/
def supportBody (artistId : String) (draws : SupportDraws) (body : Except Failure SupportBody) :
    Served :=
  match supportRequest lib (s.accounts accountId) accountId artistId body with
  | .error e => (s, some (.error e))
  | .ok request =>
    match s.supportIdempotency.find? request.scope with
    | some prior => (s, some (repeatedSupport prior request))
    | none =>
      let intent := newSupportIntent config s.clock accountId artistId draws request
      let result := supportResult intent request
      ({ s with
          supportIntents := s.supportIntents.set intent
          supportIdempotency := s.supportIdempotency.set ⟨request.scope, request.hash, result⟩ },
        some (.ok (.supportIntent 201 result)))

def submitSupport (requestId : String) : Served :=
  match maySubmitSupport s.clock accountId s.supportIntents requestId with
  | .error e => (s, some (.error e))
  | .ok intent =>
    if intent.status ≠ .signatureRequired then
      (s, some (.ok (.support 200 requestId intent.status intent.tier)))
    else (s.suspend accountId (.submitSupport requestId), none)

def supportDelayMs : ℕ := 600

/-- The rest of `submitSupport`. The status of the intent is not checked again. -/
def supportSignature (intent : SupportIntent) (body : Except Failure (Option String)) : Served :=
  match supportSigned lib intent body with
  | .error e => (s, some (.error e))
  | .ok () =>
    ({ s with
        supportIntents := s.supportIntents.update intent.requestId (fun _ ↦ True)
          (SupportIntent.confirm (s.clock.ms + supportDelayMs)) },
      some (.ok (.support 202 intent.requestId .confirming .earlySupporter)))

def supportRegistration (requestId : String) : Served :=
  match mayPollSupport accountId s.supportIntents requestId with
  | .error e => (s, some (.error e))
  | .ok intent =>
    if intent.status = .confirming ∧ intent.activateAt ≤ s.clock.ms then
      ({ s with
          supportIntents := s.supportIntents.update requestId (fun _ ↦ True) SupportIntent.activate
        }.setAccount accountId ((s.accounts accountId).setTier intent.artistId intent.tier),
        some (.ok (.support 200 requestId .sbtActive intent.tier)))
    else (s, some (.ok (.support 200 requestId intent.status intent.tier)))

/-- The digest of a playback request. -/
def playbackHash (trackId : String) : String := lib.requestHash [("trackId", trackId)]

def createPlayback (draws : Draws) (body : Except Failure Body) : Served :=
  let out := (Gateway.createPlayback config.toConfig (playbackHash lib) s.clock (s.account accountId)
    draws body).execute s.store
  ({ s with store := out.2 }, some (out.1.map .playback))

def deliverStream (sessionId : String) : Served :=
  match (Gateway.deliverStream s.clock (s.account accountId) sessionId).execute s.store with
  | (.error e, store) => ({ s with store }, some (.error e))
  | (.ok session, store) =>
    ({ s with store }.suspend accountId (.stream (.opening session s.clock)), none)

/-- The media adapter has answered. -/
def opened (i : ℕ) (session : Session) (startedAt : Date) (answer : Except OpenError Delivery) :
    Served :=
  match (startDelivery session answer).execute s.store with
  | (.error e, store) => ({ s with store }.setRequest accountId i .ended, some (.error e))
  | (.ok none, store) => ({ s with store }.setRequest accountId i .ended, some (.ok (.delivery none)))
  | (.ok (some delivery), store) =>
    ({ s with store }.setRequest accountId i
        (.stream (.delivering session startedAt delivery 0 false)),
      some (.ok (.delivery (some delivery))))

end Handlers

section

variable (lib : Library) (config : ServerConfig)

def serve (s : State) : Action → Served
  | .wait ms => ({ s with clock := s.clock.advance ms }, none)
  | .registerDemoUser accountId user => (registerDemoUser s accountId user, none)
  | .createChallenge accountId draws body => createChallenge lib config s accountId draws body
  | .verifyChallenge accountId body => verifyChallenge s accountId body
  | .messageRecovered accountId i =>
    match s.request? accountId i with
    | some (.verifyChallenge challengeId signature) =>
      match s.challenges.find? challengeId with
      | some challenge => messageRecovered lib s accountId i challenge signature
      | none => (s, none)
    | _ => (s, none)
  | .createSupportIntent accountId artistId => createSupportIntent s accountId artistId
  | .supportBody accountId i draws body =>
    match s.request? accountId i with
    | some (.createSupportIntent artistId) =>
      supportBody lib config (s.setRequest accountId i .ended) accountId artistId draws body
    | _ => (s, none)
  | .submitSupport accountId requestId => submitSupport s accountId requestId
  | .supportSignature accountId i body =>
    match s.request? accountId i with
    | some (.submitSupport requestId) =>
      match s.supportIntents.find? requestId with
      | some intent => supportSignature lib (s.setRequest accountId i .ended) intent body
      | none => (s, none)
    | _ => (s, none)
  | .supportRegistration accountId requestId => supportRegistration s accountId requestId
  | .createPlayback accountId draws body => createPlayback lib config s accountId draws body
  | .deliverStream accountId sessionId => deliverStream s accountId sessionId
  | .opened accountId i answer =>
    match s.request? accountId i with
    | some (.stream (.opening session startedAt)) => opened s accountId i session startedAt answer
    | _ => (s, none)
  | .data accountId i length =>
    match s.request? accountId i with
    | some (.stream (.delivering session startedAt delivery bytesDelivered recorded)) =>
      (s.setRequest accountId i
        (.stream (.delivering session startedAt delivery (bytesDelivered + length) recorded)), none)
    | _ => (s, none)
  | .record accountId i evidenceId =>
    match s.request? accountId i with
    | some (.stream (.delivering session startedAt delivery bytesDelivered false)) =>
      ({ s with
          store := s.store.recordEvidence
            (deliveryEvidence s.clock session startedAt delivery bytesDelivered evidenceId)
        }.setRequest accountId i
          (.stream (.delivering session startedAt delivery bytesDelivered true)), none)
    | _ => (s, none)
  | .closeSession accountId sessionId =>
    ({ s with store := (s.store.closeSession sessionId accountId.text).1 }, some (.ok .closed))
  | .trust action =>
    let outcome := AccountTrust.serve lib config s.clock (s.accounts action.accountId) s.trust action
    ({ s with trust := outcome.trust }.setAccount action.accountId outcome.profile, none)
  | .participation action =>
    let result := Participation.serve lib s.clock s.accounts s.participation action
    ({ s with accounts := result.1, participation := result.2 }, none)

def step (s : State) (a : Action) : State := (serve lib config s a).1

end

/-- The identifiers that a step draws at random have not been drawn before. -/
def Fresh (s : State) : Action → Prop
  | .createChallenge _ draws _ => s.challenges.find? draws.challengeId = none
  | .supportBody _ _ draws _ => s.supportIntents.find? draws.requestId = none
  | .createPlayback _ draws _ =>
    s.store.decisions.find? draws.decisionId = none ∧ s.store.session draws.playbackSessionId = none
  | .record _ _ evidenceId => s.store.evidence.find? evidenceId = none
  | .trust (.begin _ draws) =>
    s.trust.transactions.find? draws.bindingId = none ∧ s.trust.bindings.find? draws.bindingId = none
  | _ => True

instance (s : State) (a : Action) : Decidable (Fresh s a) := by
  cases a with
  | trust action => cases action <;> unfold Fresh <;> infer_instance
  | _ => unfold Fresh; infer_instance

/-! ## An account with two wallets -/

namespace Sample

def config : ServerConfig where
  toConfig := Gateway.Sample.config
  chainId := 80002
  publicDomain := "127.0.0.1:5173"
  publicUri := "http://127.0.0.1:5173"
  trustBindingTtlMs := 600000
  trustBindingTtl_pos := by decide

def clock : Date := Gateway.Sample.clock

def listener : AccountId where
  text := Gateway.Sample.listener.accountId
  noColon := by decide +kernel

def firstWallet : String := "0xf39Fd6e51aad88F6F4ce6aB8827279cffFb92266"

def secondWallet : String := "0x70997970C51812dc3A010C7d01b50e0d17dc79C8"

/-- The signature of the first wallet under `walletTypedData`. -/
def firstBindingSignature : String :=
  "0xafc9ce1680b98af71e7939ef0f2c79f2cdef32a912f2c0d07a74b37678059163" ++
    "737bb46a6ef0d5866cde8d204809a29f102776d7c842336f584b7981440b42a01b"

/-- The same for the second wallet. -/
def secondBindingSignature : String :=
  "0x8b583ee742bb5f1ded8155ced38702c4e051ee813182f379b43dff06fc4956b2" ++
    "6d2bad4abde69d8a50e39e1f80625efd9990c3819ee8675a9853a823895f87891c"

/-- The signature of the first wallet under the typed data of its support intent. -/
def supportSignature : String :=
  "0x72c0fb88589b465070f7121087edfb10170ff4413709626ee2536a292cdc6811" ++
    "1b7d44414e65decdbbb3fb2d26cb92a5ad997eec0344240494e9b1201b1ddc891b"

/-- The signature of the first wallet under its sign-in message. -/
def siweSignature : String :=
  "0x4d1367efa971e77b0aaa65754b810fa70206afeda176ceac4e22098e8da7bc1c" ++
    "2df13ecdd1231a9947883043c3f78e5bb25b9ff4ccabbfe899c6b98ac46032441b"

/-- The signature of the first wallet under the message for an invitation. -/
def invitationSignature : String :=
  "0x9e2bf44996f87b3c0272d924660d165c5e9f01c0f17793c99512f8d532bbe245" ++
    "31ce63e961c9fb16876614e0280648ab11b607f3f9f5e37ac057ca8166042ffc1c"

def firstToken : String := "Zk9fT2xQd1hYc2VjcmV0LXRva2VuLWZvci10ZXN0czE"

def secondToken : String := "UXVpY2tCcm93bkZveEp1bXBzT3ZlckxhenlEb2cxMjM"

/-- The functions of the libraries on the inputs of the examples. -/
def library : Library where
  getAddress text := if text ∈ [firstWallet, secondWallet] then some text else none
  recoverMessageAddress _ signature :=
    [(siweSignature, firstWallet), (invitationSignature, firstWallet)].lookup signature
  recoverTypedDataAddress _ signature :=
    [(firstBindingSignature, firstWallet), (secondBindingSignature, secondWallet),
      (supportSignature, firstWallet)].lookup signature
  tokenHash token :=
    ([(firstToken, "4fb5035ff5ab91ab27d776f614dbb984f15f47a0d576e64f40c148d6f5334805"),
      (secondToken, "1bfb22c8b262d70c1c9421f7106bda77c91e880d323ab1ef4e761cc481c84754")].lookup
        token).getD ""
  requestHash fields :=
    match fields with
    | [("trackId", trackId)] => Gateway.Sample.requestHash trackId
    | _ => "c45f5f4196ab348d8b81ae992587ac6a56ef43e7ef555019d27d2757f61d83cc"
  toLowerCase text := text
  normalizeNFKC text := text

end Sample

end CreatorFirst.Gateway.Server
