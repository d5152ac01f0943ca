import CreatorFirst.Gateway.Accounts
import CreatorFirst.Gateway.Machine
import CreatorFirst.Text.Template

/-!
# The routes of the server

A request goes through the checks on its origin and its URL to the first route that matches, and past the
administrator's token if the route asks for it. No request is for two routes, so that an endpoint is
reached by exactly the paths that are written for it.
-/

namespace CreatorFirst.Gateway

open Text

/-- What a request gets to. -/
inductive Endpoint where
  | health
  | catalogHome
  | supportTargets
  | demoUser
  | registerDemoUser
  | currentApplication
  | newSession
  | createAndSend
  | resend
  | verifyApplication
  | listApplications
  | approve
  | reject
  | listInvitations
  | createInvitation
  | send
  | inspect
  | claim
  | trustStatus
  | begin
  | assertMockJpki
  | registrationOptions
  | verifyRegistration
  | authenticationOptions
  | verifyAuthentication
  | walletOptions
  | verifyWallet
  | createPlayback
  | deliverStream
  | closeSession
  | createChallenge
  | verifyChallenge
  | createSupportIntent
  | submitSupport
  | relaySupport
  | relayVote
  | supportRegistration
  | communityCapability
  deriving DecidableEq

/-- Whether the endpoint begins with `requireAdministrator`. -/
def Endpoint.guarded : Endpoint → Bool
  | .listApplications | .approve | .reject | .listInvitations | .createInvitation | .send => true
  | _ => false

section Table

def names (ws : List String) : Template := ws.map fun w ↦ .name w.toList

/-- `[A-Za-z0-9-]` -/
def isIdChar (c : Char) : Bool := c.isAlphanum || c = '-'

/-- `[A-Za-z0-9_-]` -/
def isTokenChar (c : Char) : Bool := c.isAlphanum || c = '_' || c = '-'

def identifier : Template := [.parameter isIdChar 1 none]

def artistIdentifier : Template := [.parameter isTokenChar 1 none]

/-- A token of 32 to 128 characters. -/
def token : Template := [.parameter isTokenChar 32 (some 128)]

/-- The identifier of a playback session, 20 characters at least. -/
def playbackIdentifier : Template := [.parameter isTokenChar 20 none]

def bindings : List String := ["v1", "account-trust", "bindings"]

/-- The routes in the order in which they are tried. -/
def routes : List (Route String Endpoint) :=
  [⟨"GET", names ["v1", "health"], .health⟩,
   ⟨"GET", names ["v1", "catalog", "home"], .catalogHome⟩,
   ⟨"GET", names ["v1", "testnet", "support-targets"], .supportTargets⟩,
   ⟨"GET", names ["v1", "demo", "user"], .demoUser⟩,
   ⟨"POST", names ["v1", "demo", "users"], .registerDemoUser⟩,
   ⟨"GET", names ["v1", "participant-applications", "current"], .currentApplication⟩,
   ⟨"POST", names ["v1", "participant-applications", "new-session"], .newSession⟩,
   ⟨"POST", names ["v1", "participant-applications"], .createAndSend⟩,
   ⟨"POST", names ["v1", "participant-applications", "current", "resend"], .resend⟩,
   ⟨"POST", names ["v1", "participant-applications", "verify"] ++ token, .verifyApplication⟩,
   ⟨"GET", names ["v1", "admin", "participant-applications"], .listApplications⟩,
   ⟨"POST", names ["v1", "admin", "participant-applications"] ++ identifier ++ names ["approve"], .approve⟩,
   ⟨"POST", names ["v1", "admin", "participant-applications"] ++ identifier ++ names ["reject"], .reject⟩,
   ⟨"GET", names ["v1", "admin", "participant-invitations"], .listInvitations⟩,
   ⟨"POST", names ["v1", "admin", "participant-invitations"], .createInvitation⟩,
   ⟨"POST", names ["v1", "admin", "participant-invitations"] ++ identifier ++ names ["send"], .send⟩,
   ⟨"GET", names ["v1", "participant-invitations"] ++ token, .inspect⟩,
   ⟨"POST", names ["v1", "participant-invitations"] ++ token ++ names ["claim"], .claim⟩,
   ⟨"GET", names ["v1", "account-trust", "status"], .trustStatus⟩,
   ⟨"POST", names bindings, .begin⟩,
   ⟨"POST", names bindings ++ identifier ++ names ["mock-jpki"], .assertMockJpki⟩,
   ⟨"POST", names bindings ++ identifier ++ names ["passkeys", "registration", "options"],
    .registrationOptions⟩,
   ⟨"POST", names bindings ++ identifier ++ names ["passkeys", "registration", "verify"],
    .verifyRegistration⟩,
   ⟨"POST", names ["v1", "account-trust", "passkeys", "authentication", "options"], .authenticationOptions⟩,
   ⟨"POST", names ["v1", "account-trust", "passkeys", "authentication", "verify"], .verifyAuthentication⟩,
   ⟨"POST", names bindings ++ identifier ++ names ["wallet", "options"], .walletOptions⟩,
   ⟨"POST", names bindings ++ identifier ++ names ["wallet", "verify"], .verifyWallet⟩,
   ⟨"POST", names ["v1", "playback-sessions"], .createPlayback⟩,
   ⟨"GET", names ["v1", "streams"] ++ playbackIdentifier, .deliverStream⟩,
   ⟨"DELETE", names ["v1", "playback-sessions"] ++ playbackIdentifier, .closeSession⟩,
   ⟨"POST", names ["v1", "auth", "siwe", "nonce"], .createChallenge⟩,
   ⟨"POST", names ["v1", "auth", "siwe", "verify"], .verifyChallenge⟩,
   ⟨"POST", names ["v1", "artists"] ++ artistIdentifier ++ names ["support"], .createSupportIntent⟩,
   ⟨"POST", names ["v1", "support-intents"] ++ identifier ++ names ["submit"], .submitSupport⟩,
   ⟨"POST", names ["v1", "testnet", "supporter-registrations"], .relaySupport⟩,
   ⟨"POST", names ["v1", "testnet", "governance-votes"], .relayVote⟩,
   ⟨"GET", names ["v1", "support-registrations"] ++ identifier, .supportRegistration⟩,
   ⟨"GET", names ["v1", "artists"] ++ artistIdentifier ++ names ["community-capability"],
    .communityCapability⟩]

end Table

/-- What is read of a request on the way. -/
structure Incoming where
  method : String
  url : String
  origin : Option String := none
  authorization : Option String := none

structure HttpConfig where
  basePath : String
  allowedOrigin : String
  adminToken : Option String

/-- The path and the query of a URL, if it is one, and the digest of a text. -/
structure Runtime where
  parseUrl : String → Option (String × String)
  sha256 : String → String

section

variable (runtime : Runtime) (config : HttpConfig)

def routePath (url : String) : Except Failure (List Char) :=
  match runtime.parseUrl url with
  | none => .error .typeError
  | some (pathname, search) => do
    requireValue (search = "") 400 "QUERY_NOT_ALLOWED" "Query parameters are not allowed"
    requireValue (config.basePath = "" ∨ config.basePath.toList ++ ['/'] <+: pathname.toList)
      404 "NOT_FOUND" "Route not found"
    return pathname.toList.drop config.basePath.toList.length

/-- The token of the header, empty if it has none. -/
def suppliedToken (authorization : Option String) : String :=
  let text := (authorization.getD "").toList
  if "Bearer ".toList <+: text then String.ofList (text.drop 7) else ""

def requireAdministrator (authorization : Option String) : Except Failure Unit := do
  let adminToken ← requireSome (config.adminToken.filter (· ≠ ""))
    503 "ADMIN_API_DISABLED" "Administrator API is disabled"
  requireValue (runtime.sha256 (suppliedToken authorization) = runtime.sha256 adminToken)
    401 "ADMIN_AUTHENTICATION_REQUIRED" "A valid administrator token is required"

/-- A request up to its endpoint, with what its path gives. -/
def handle (r : Incoming) : Except Failure (Endpoint × List (List Char)) := do
  requireValue (∀ origin ∈ r.origin, origin = "" ∨ origin = config.allowedOrigin)
    403 "ORIGIN_NOT_ALLOWED" "Origin is not allowed"
  let path ← routePath runtime config r.url
  let found ← requireSome (dispatch routes r.method path) 404 "NOT_FOUND" "Route not found"
  if found.1.guarded then requireAdministrator runtime config r.authorization
  return found

end

/-! ## Where requests get -/

/-- The first two segments are names, and the second one says whether the route is guarded. -/
def headed (r : Route String Endpoint) : Bool :=
  match r.template with
  | .name v :: .name w :: rest => v = "v1".toList && r.endpoint.guarded == (w = "admin".toList) &&
      (w != "admin".toList || !rest.isEmpty)
  | _ => false

/-- What the table of the routes has to be, by one evaluation. -/
theorem routes_checked : routes.all (·.template.slashless) = true ∧ routes.Pairwise Route.Apart ∧
    routes.all headed = true := by
  decide +kernel

theorem routes_unambiguous : Unambiguous routes where
  slashless := List.all_eq_true.mp routes_checked.1
  apart := routes_checked.2.1

theorem headed_of_mem {r : Route String Endpoint} (hr : r ∈ routes) : headed r = true :=
  List.all_eq_true.mp routes_checked.2.2 r hr

variable {r : Route String Endpoint} {args : List (List Char)} {path : List Char}

theorem written_name {w s : List Char} {t : Template}
    (h : Template.Written (.name w :: t) args s) :
    ∃ rest, s = '/' :: (w ++ rest) ∧ Template.Written t args rest := by
  cases h with
  | cons hs hrest =>
    obtain rfl := of_decide_eq_true hs
    exact ⟨_, rfl, hrest⟩

/-- The guarded routes are those under `/v1/admin/`. -/
theorem guarded_iff (hr : r ∈ routes) (h : Template.Written r.template args path) :
    r.endpoint.guarded = true ↔ "/v1/admin/".toList <+: path := by
  have hheaded := headed_of_mem hr
  unfold headed at hheaded
  split at hheaded
  · next v w rest htemplate =>
    simp only [Bool.and_eq_true, decide_eq_true_eq, beq_iff_eq, Bool.or_eq_true, bne_iff_ne, ne_eq] at hheaded
    obtain ⟨⟨rfl, hguarded⟩, hthird⟩ := hheaded
    rw [htemplate] at h
    obtain ⟨behind, rfl, hversion⟩ := written_name h
    obtain ⟨behind, rfl, hrest⟩ := written_name hversion
    have hslash : '/' ∉ w := by
      have hslashless := routes_unambiguous.slashless r hr
      rw [htemplate] at hslashless
      simp only [Template.slashless, List.all_cons, Segment.slashless, Bool.and_eq_true] at hslashless
      simpa using hslashless.2.1
    rw [hguarded, decide_eq_true_eq]
    constructor
    · rintro rfl
      have hne : rest ≠ [] := by simpa using hthird
      cases hrest with
      | nil => exact absurd rfl hne
      | cons hs hrest => exact ⟨_ ++ _, rfl⟩
    · rintro ⟨more, hmore⟩
      have hpath : "admin".toList ++ '/' :: more = w ++ behind := by
        simpa using hmore
      exact (Template.append_inj_of_slash (by decide) hslash (by simp) hrest.head hpath).1.symm
  · cases hheaded

/-- The request has the token of the administrator. -/
def Administrator (runtime : Runtime) (config : HttpConfig) (authorization : Option String) : Prop :=
  ∃ adminToken, config.adminToken = some adminToken ∧ adminToken ≠ "" ∧
    runtime.sha256 (suppliedToken authorization) = runtime.sha256 adminToken

theorem requireAdministrator_eq_ok {runtime : Runtime} {config : HttpConfig} {authorization : Option String} :
    requireAdministrator runtime config authorization = .ok () ↔
      Administrator runtime config authorization := by
  simp only [requireAdministrator, bind_eq_ok, requireSome_eq_ok, requireValue_eq_ok, Option.filter_eq_some_iff,
    decide_eq_true_eq, Administrator, and_assoc]

theorem routePath_eq_ok {runtime : Runtime} {config : HttpConfig} {url : String} (hpath : path.head? = some '/') :
    routePath runtime config url = .ok path ↔
      runtime.parseUrl url = some (String.ofList (config.basePath.toList ++ path), "") := by
  obtain ⟨path, rfl⟩ := List.head?_eq_some_iff.mp hpath
  unfold routePath
  split
  · next hnone => simp [hnone]
  · next pathname search hsome =>
    simp only [hsome, bind_eq_ok, requireValue_eq_ok, pure_eq_ok, exists_const, Option.some.injEq, Prod.mk.injEq]
    constructor
    · rintro ⟨rfl, hbase, hdrop⟩
      have hprefix : config.basePath.toList <+: pathname.toList := by
        obtain hempty | hbase := hbase
        · rw [hempty]
          exact List.nil_prefix
        · exact (List.prefix_append _ _).trans hbase
      rw [← hdrop, List.prefix_iff_eq_append.mp hprefix, String.ofList_toList]
      exact ⟨rfl, rfl⟩
    · rintro ⟨rfl, rfl⟩
      rw [String.toList_ofList, List.drop_left]
      exact ⟨rfl, .inr ⟨path, by simp⟩, rfl⟩

theorem head_of_mem (hr : r ∈ routes) (h : Template.Written r.template args path) :
    path.head? = some '/' := by
  cases htemplate : r.template with
  | nil =>
    have hheaded := headed_of_mem hr
    simp [headed, htemplate] at hheaded
  | cons segment t =>
    rw [htemplate] at h
    cases h
    rfl

theorem guard_eq_ok {runtime : Runtime} {config : HttpConfig} {authorization : Option String}
    {found result : Endpoint × List (List Char)} :
    (if found.1.guarded = true then do
        requireAdministrator runtime config authorization
        pure found
      else pure found) = .ok result ↔
      found = result ∧ (found.1.guarded = true → Administrator runtime config authorization) := by
  split
  · next hguarded =>
    simp only [bind_eq_ok, pure_eq_ok]
    constructor
    · rintro ⟨⟨⟩, hadmin, hfound⟩
      exact ⟨hfound, fun _ ↦ requireAdministrator_eq_ok.mp hadmin⟩
    · rintro ⟨hfound, hadmin⟩
      exact ⟨(), requireAdministrator_eq_ok.mpr (hadmin hguarded), hfound⟩
  · next hguarded => simp [hguarded]

theorem handle_eq_ok {runtime : Runtime} {config : HttpConfig} {incoming : Incoming} {endpoint : Endpoint} :
    handle runtime config incoming = .ok (endpoint, args) ↔
      ∃ route ∈ routes, ∃ path, route.method = incoming.method ∧ route.endpoint = endpoint ∧
        Template.Written route.template args path ∧
        runtime.parseUrl incoming.url = some (String.ofList (config.basePath.toList ++ path), "") ∧
        (∀ origin ∈ incoming.origin, origin = "" ∨ origin = config.allowedOrigin) ∧
        ("/v1/admin/".toList <+: path → Administrator runtime config incoming.authorization) := by
  simp only [handle, bind_eq_ok, requireValue_eq_ok, requireSome_eq_ok, exists_const, guard_eq_ok]
  constructor
  · rintro ⟨horigin, path, hpath, found, hfound, rfl, hguarded⟩
    obtain ⟨route, hroute, hmethod, rfl, hwritten⟩ := routes_unambiguous.dispatch_eq_some_iff.mp hfound
    exact ⟨route, hroute, path, hmethod, rfl, hwritten,
      (routePath_eq_ok (head_of_mem hroute hwritten)).mp hpath, horigin,
      fun hadmin ↦ hguarded ((guarded_iff hroute hwritten).mpr hadmin)⟩
  · rintro ⟨route, hroute, path, hmethod, rfl, hwritten, hpath, horigin, hadmin⟩
    exact ⟨horigin, path, (routePath_eq_ok (head_of_mem hroute hwritten)).mpr hpath, _,
      routes_unambiguous.dispatch_eq_some_iff.mpr ⟨route, hroute, hmethod, rfl, hwritten⟩, rfl,
      fun hguarded ↦ hadmin ((guarded_iff hroute hwritten).mp hguarded)⟩

/-- Every request gets to the one endpoint that its path is written for, if its origin is allowed and it has
the administrator's token where the path asks for it. The order of the routes does not matter, and
the URL of a stream gets to the delivery of its session. -/
theorem requests_routed (runtime : Runtime) (config : HttpConfig) :
    (∀ r endpoint args, handle runtime config r = .ok (endpoint, args) ↔
      ∃ route ∈ routes, ∃ path, route.method = r.method ∧ route.endpoint = endpoint ∧
        Template.Written route.template args path ∧
        runtime.parseUrl r.url = some (String.ofList (config.basePath.toList ++ path), "") ∧
        (∀ origin ∈ r.origin, origin = "" ∨ origin = config.allowedOrigin) ∧
        ("/v1/admin/".toList <+: path → Administrator runtime config r.authorization)) ∧
    (∀ routes', routes.Perm routes' → ∀ method path,
      dispatch routes method path = dispatch routes' method path) ∧
    ∀ (settings : Config) (draws : Draws) (expiresAt : Date), settings.basePath = config.basePath →
      draws.playbackSessionId.toList.all isTokenChar = true → 20 ≤ draws.playbackSessionId.toList.length →
      let url := (playbackResult settings draws expiresAt).streamUrl
      runtime.parseUrl url = some (url, "") →
      handle runtime config { method := "GET", url } =
        .ok (.deliverStream, [draws.playbackSessionId.toList]) := by
  refine ⟨fun _ _ _ ↦ handle_eq_ok,
    fun routes' hperm method path ↦ routes_unambiguous.dispatch_perm hperm method path, ?_⟩
  intro settings draws expiresAt hbase hclass hlength url hurl
  have hpath : url = String.ofList (config.basePath.toList ++
      '/' :: ("v1".toList ++ '/' :: ("streams".toList ++ '/' :: (draws.playbackSessionId.toList ++ [])))) := by
    rw [← hbase]
    apply String.toList_inj.mp
    simp [url, playbackResult]
  have hwritten : Template.Written (names ["v1", "streams"] ++ playbackIdentifier)
      [draws.playbackSessionId.toList]
      ('/' :: ("v1".toList ++ '/' :: ("streams".toList ++ '/' :: (draws.playbackSessionId.toList ++ [])))) := by
    refine .cons (by decide) (.cons (by decide) (.cons ?_ .nil))
    simp [Segment.fits, hclass, hlength]
  rw [handle_eq_ok]
  refine ⟨⟨"GET", names ["v1", "streams"] ++ playbackIdentifier, .deliverStream⟩, by simp [routes], _, rfl, rfl,
    hwritten, hurl.trans (by rw [hpath]), fun origin horigin ↦ absurd horigin (by simp), fun hadmin ↦ ?_⟩
  exact absurd hadmin (by simp)

namespace Sample

def adminToken : String := "0123456789abcdef0123456789abcdef"

/-- The URL is a path without a query, and there is one token. -/
def runtime : Runtime where
  parseUrl url := some (url, "")
  sha256 text :=
    if text = adminToken then "3eb1bd439947eb762998e566ccc2e099c791118b2f40579cc4f7da2b5061b7f9"
    else "e3b0c44298fc1c149afbf4c8996fb92427ae41e4649b934ca495991b7852b855"

def httpConfig : HttpConfig where
  basePath := "/api"
  allowedOrigin := "http://127.0.0.1:5173"
  adminToken := some adminToken

def approvalRequest : Incoming where
  method := "POST"
  url := "/api/v1/admin/participant-applications/application-1/approve"
  authorization := some ("Bearer " ++ adminToken)

end Sample

/-- The administrator approves an application, and the URL of a stream leads to it. -/
theorem requests_routed_sample :
    handle Sample.runtime Sample.httpConfig Sample.approvalRequest =
        .ok (.approve, ["application-1".toList]) ∧
      handle Sample.runtime Sample.httpConfig
          { method := "GET", url := (playbackResult Sample.config Sample.firstDraws Sample.clock).streamUrl } =
        .ok (.deliverStream, [Sample.firstDraws.playbackSessionId.toList]) := by
  have h := requests_routed Sample.runtime Sample.httpConfig
  have hwritten : Template.Written
      (names ["v1", "admin", "participant-applications"] ++ identifier ++ names ["approve"])
      ["application-1".toList] "/v1/admin/participant-applications/application-1/approve".toList :=
    (Template.exec_eq_some_iff (by decide +kernel)).mp (by decide +kernel)
  constructor
  · exact (h.1 _ _ _).mpr
      ⟨⟨"POST", names ["v1", "admin", "participant-applications"] ++ identifier ++ names ["approve"], .approve⟩,
        by simp [routes], _, rfl, rfl, hwritten, by decide +kernel, by simp [Sample.approvalRequest],
        fun _ ↦ ⟨_, rfl, by decide +kernel, by decide +kernel⟩⟩
  · exact h.2.2 Sample.config Sample.firstDraws Sample.clock rfl (by decide) (by decide) rfl

end CreatorFirst.Gateway
