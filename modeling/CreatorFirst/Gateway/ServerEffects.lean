import CreatorFirst.Gateway.Server
import CreatorFirst.Gateway.Effects

/-!
# What a step of the server writes

Every way a part of a handler can end, with the checks it has passed and the state it leaves. The two
services keep their own effects.
-/

namespace CreatorFirst.Gateway.Server

open Database Process

variable (lib : Library) (config : ServerConfig)

/-- The outcomes of a step. -/
inductive Effect (s : State) : Action → Served → Prop
  | same (a : Action) (reply : Option (Except Failure Answer)) : Effect s a (s, reply)
  | waited (ms : ℕ) : Effect s (.wait ms) ({ s with clock := s.clock.advance ms }, none)
  | registered (accountId : AccountId) (user : DemoUser) :
      Effect s (.registerDemoUser accountId user)
        (s.setAccount accountId { s.accounts accountId with demoUser := some user }, none)
  | ended (a : Action) (accountId : AccountId) (i : ℕ) (e : Failure) (h : a.accountId? = some accountId) :
      Effect s a (s.setRequest accountId i .ended, some (.error e))
  | challenged (accountId : AccountId) (draws : ChallengeDraws) (body : Except Failure ChallengeBody)
      (challenge : Challenge) (reply : Option (Except Failure Answer))
      (h : Gateway.createChallenge lib config s.clock s.participation accountId draws body =
        .ok challenge) :
      Effect s (.createChallenge accountId draws body)
        ({ s with challenges := s.challenges.set challenge }, reply)
  | verifying (accountId : AccountId) (body : Except Failure (Option VerifyBody)) (challenge : Challenge)
      (signature : String)
      (h : mayVerifyChallenge s.clock s.challenges accountId body = .ok (challenge, signature)) :
      Effect s (.verifyChallenge accountId body)
        (s.suspend accountId (.verifyChallenge challenge.challengeId signature), none)
  | signedIn (accountId : AccountId) (i : ℕ) (challenge : Challenge) (signature : String)
      (reply : Option (Except Failure Answer))
      (hrequest : s.request? accountId i = some (.verifyChallenge challenge.challengeId signature))
      (hfound : s.challenges.find? challenge.challengeId = some challenge)
      (hsigned : challengeSigned lib challenge signature = .ok ()) :
      Effect s (.messageRecovered accountId i)
        (({ s with challenges := s.challenges.update challenge.challengeId (fun _ ↦ True) Challenge.use
          }.setAccount accountId ((s.accounts accountId).signedIn challenge)).setRequest accountId i
            .ended, reply)
  | requesting (accountId : AccountId) (artistId : String) :
      Effect s (.createSupportIntent accountId artistId)
        (s.suspend accountId (.createSupportIntent artistId), none)
  | repeated (accountId : AccountId) (i : ℕ) (draws : SupportDraws) (body : Except Failure SupportBody)
      (reply : Option (Except Failure Answer)) :
      Effect s (.supportBody accountId i draws body) (s.setRequest accountId i .ended, reply)
  | intended (accountId : AccountId) (i : ℕ) (artistId : String) (draws : SupportDraws)
      (body : Except Failure SupportBody) (request : SupportRequest)
      (reply : Option (Except Failure Answer))
      (hrequest : supportRequest lib (s.accounts accountId) accountId artistId body = .ok request)
      (hfree : s.supportIdempotency.find? request.scope = none) :
      Effect s (.supportBody accountId i draws body)
        ({ s.setRequest accountId i .ended with
          supportIntents := s.supportIntents.set
            (newSupportIntent config s.clock accountId artistId draws request)
          supportIdempotency := s.supportIdempotency.set ⟨request.scope, request.hash,
            supportResult (newSupportIntent config s.clock accountId artistId draws request) request⟩ },
        reply)
  | submitting (accountId : AccountId) (requestId : String) (intent : SupportIntent)
      (h : maySubmitSupport s.clock accountId s.supportIntents requestId = .ok intent) :
      Effect s (.submitSupport accountId requestId)
        (s.suspend accountId (.submitSupport requestId), none)
  | confirmed (accountId : AccountId) (i : ℕ) (intent : SupportIntent)
      (body : Except Failure (Option String)) (reply : Option (Except Failure Answer))
      (hrequest : s.request? accountId i = some (.submitSupport intent.requestId))
      (hfound : s.supportIntents.find? intent.requestId = some intent)
      (hsigned : supportSigned lib intent body = .ok ()) :
      Effect s (.supportSignature accountId i body)
        ({ s.setRequest accountId i .ended with
          supportIntents := s.supportIntents.update intent.requestId (fun _ ↦ True)
            (SupportIntent.confirm (s.clock.ms + supportDelayMs)) }, reply)
  | activated (accountId : AccountId) (intent : SupportIntent) (reply : Option (Except Failure Answer))
      (hfound : s.supportIntents.find? intent.requestId = some intent)
      (howner : intent.ownerId = accountId) (hstatus : intent.status = .confirming) :
      Effect s (.supportRegistration accountId intent.requestId)
        ({ s with
          supportIntents := s.supportIntents.update intent.requestId (fun _ ↦ True)
            SupportIntent.activate
          }.setAccount accountId ((s.accounts accountId).setTier intent.artistId intent.tier), reply)
  | playback (accountId : AccountId) (draws : Draws) (body : Except Failure Body)
      (reply : Option (Except Failure Answer)) :
      Effect s (.createPlayback accountId draws body)
        ({ s with
          store := ((Gateway.createPlayback config.toConfig (playbackHash lib) s.clock
            (s.account accountId) draws body).execute s.store).2 }, reply)
  | expired (accountId : AccountId) (sessionId : String) (r : Session) (e : Failure)
      (hr : s.store.session sessionId = some r) (howner : r.ownerId = accountId.text) :
      Effect s (.deliverStream accountId sessionId)
        ({ s with store := s.store.expireSession sessionId }, some (.error e))
  | streaming (accountId : AccountId) (sessionId : String) (session : Session)
      (hr : s.store.session sessionId = some session) (howner : session.ownerId = accountId.text) :
      Effect s (.deliverStream accountId sessionId)
        (s.suspend accountId (.stream (.opening session s.clock)), none)
  | refused (accountId : AccountId) (i : ℕ) (answer : Except OpenError Delivery)
      (reply : Option (Except Failure Answer)) :
      Effect s (.opened accountId i answer) (s.setRequest accountId i .ended, reply)
  | opened (accountId : AccountId) (i : ℕ) (session : Session) (startedAt : Date) (delivery : Delivery)
      (reply : Option (Except Failure Answer))
      (hrequest : s.request? accountId i = some (.stream (.opening session startedAt))) :
      Effect s (.opened accountId i (.ok delivery))
        ({ s with store := s.store.setSessionState session.sessionId .started }.setRequest accountId i
          (.stream (.delivering session startedAt delivery 0 false)), reply)
  | counted (accountId : AccountId) (i length : ℕ) (session : Session) (startedAt : Date)
      (delivery : Delivery) (bytesDelivered : ℕ) (recorded : Bool)
      (hrequest : s.request? accountId i =
        some (.stream (.delivering session startedAt delivery bytesDelivered recorded))) :
      Effect s (.data accountId i length)
        (s.setRequest accountId i
          (.stream (.delivering session startedAt delivery (bytesDelivered + length) recorded)), none)
  | recorded (accountId : AccountId) (i : ℕ) (evidenceId : String) (session : Session)
      (startedAt : Date) (delivery : Delivery) (bytesDelivered : ℕ)
      (hrequest : s.request? accountId i =
        some (.stream (.delivering session startedAt delivery bytesDelivered false))) :
      Effect s (.record accountId i evidenceId)
        ({ s with
          store := s.store.recordEvidence
            (deliveryEvidence s.clock session startedAt delivery bytesDelivered evidenceId)
          }.setRequest accountId i
            (.stream (.delivering session startedAt delivery bytesDelivered true)), none)
  | closed (accountId : AccountId) (sessionId : String) (reply : Option (Except Failure Answer)) :
      Effect s (.closeSession accountId sessionId)
        ({ s with store := (s.store.closeSession sessionId accountId.text).1 }, reply)
  | trust (action : AccountTrust.Action) :
      Effect s (.trust action)
        ({ s with
          trust := (AccountTrust.serve lib config s.clock (s.accounts action.accountId) s.trust
            action).trust
          }.setAccount action.accountId
            (AccountTrust.serve lib config s.clock (s.accounts action.accountId) s.trust action).profile,
          none)
  | participation (action : Participation.Action) :
      Effect s (.participation action)
        ({ s with
          accounts := (Participation.serve lib s.clock s.accounts s.participation action).1
          participation := (Participation.serve lib s.clock s.accounts s.participation action).2 }, none)

theorem serve_effect (s : State) (a : Action) : Effect lib config s a (serve lib config s a) := by
  cases a with
  | wait ms => exact .waited ms
  | registerDemoUser accountId user =>
    rw [serve, registerDemoUser]
    split
    · exact .same _ _
    · exact .registered accountId user
  | createChallenge accountId draws body =>
    rw [serve, createChallenge]
    split
    · exact .same _ _
    · next challenge h => exact .challenged accountId draws body challenge _ h
  | verifyChallenge accountId body =>
    rw [serve, verifyChallenge]
    split
    · exact .same _ _
    · next challenge signature h => exact .verifying accountId body challenge signature h
  | messageRecovered accountId i =>
    rw [serve]
    split
    · next challengeId signature hrequest =>
      split
      · next challenge hfound =>
        obtain rfl := (Table.find?_eq_some.mp hfound).2
        rw [messageRecovered]
        split
        · exact .ended _ accountId i _ rfl
        · next hsigned => exact .signedIn accountId i challenge signature _ hrequest hfound hsigned
      · exact .same _ _
    · exact .same _ _
  | createSupportIntent accountId artistId =>
    rw [serve, createSupportIntent]
    split
    · exact .same _ _
    · exact .requesting accountId artistId
  | supportBody accountId i draws body =>
    rw [serve]
    split
    · next artistId _ =>
      rw [supportBody]
      split
      · exact .ended _ accountId i _ rfl
      · next request hrequest =>
        split
        · exact .repeated accountId i draws body _
        · next hfree => exact .intended accountId i artistId draws body request _ hrequest hfree
    · exact .same _ _
  | submitSupport accountId requestId =>
    rw [serve, submitSupport]
    split
    · exact .same _ _
    · next intent h =>
      split
      · exact .same _ _
      · exact .submitting accountId requestId intent h
  | supportSignature accountId i body =>
    rw [serve]
    split
    · next requestId hrequest =>
      split
      · next intent hfound =>
        obtain rfl := (Table.find?_eq_some.mp hfound).2
        rw [supportSignature]
        split
        · exact .ended _ accountId i _ rfl
        · next hsigned => exact .confirmed accountId i intent body _ hrequest hfound hsigned
      · exact .same _ _
    · exact .same _ _
  | supportRegistration accountId requestId =>
    rw [serve, supportRegistration]
    split
    · exact .same _ _
    · next intent h =>
      rw [mayPollSupport, requireSome_eq_ok, Option.filter_eq_some_iff] at h
      obtain ⟨hfound, howner⟩ := h
      obtain rfl := (Table.find?_eq_some.mp hfound).2
      split
      · next hready => exact .activated accountId intent _ hfound (by simpa using howner) hready.1
      · exact .same _ _
  | createPlayback accountId draws body => exact .playback accountId draws body _
  | deliverStream accountId sessionId =>
    have heffect := deliverStream_effect s.clock (s.account accountId) sessionId s.store
    rw [serve, deliverStream]
    generalize (Gateway.deliverStream s.clock (s.account accountId) sessionId).execute s.store = out
      at heffect ⊢
    cases heffect with
    | refused e => exact .same _ _
    | expired e r hr howner hexpired => exact .expired accountId sessionId r e hr howner
    | accepted r hr howner hstate => exact .streaming accountId sessionId r hr howner
  | opened accountId i answer =>
    rw [serve]
    split
    · next session startedAt hrequest =>
      cases answer with
      | error e => cases e <;> exact .refused accountId i _ _
      | ok delivery => exact .opened accountId i session startedAt delivery _ hrequest
    · exact .same _ _
  | data accountId i length =>
    rw [serve]
    split
    · next session startedAt delivery bytesDelivered recorded hrequest =>
      exact .counted accountId i length session startedAt delivery bytesDelivered recorded hrequest
    · exact .same _ _
  | record accountId i evidenceId =>
    rw [serve]
    split
    · next session startedAt delivery bytesDelivered hrequest =>
      exact .recorded accountId i evidenceId session startedAt delivery bytesDelivered hrequest
    · exact .same _ _
  | closeSession accountId sessionId => exact .closed accountId sessionId _
  | trust action => exact .trust action
  | participation action => exact .participation action

section Services

variable {lib config} {s : State} {a : Action}

/-- Only the requests to a service change it. -/
theorem step_trust_of_ne (h : ∀ action, a ≠ .trust action) : (step lib config s a).trust = s.trust := by
  have heffect := serve_effect lib config s a
  rw [step]
  generalize serve lib config s a = out at heffect ⊢
  cases heffect with
  | trust action => exact absurd rfl (h action)
  | _ => rfl

theorem step_participation_of_ne (h : ∀ action, a ≠ .participation action) :
    (step lib config s a).participation = s.participation := by
  have heffect := serve_effect lib config s a
  rw [step]
  generalize serve lib config s a = out at heffect ⊢
  cases heffect with
  | participation action => exact absurd rfl (h action)
  | _ => rfl

theorem step_clock_of_ne (h : ∀ ms, a ≠ .wait ms) : (step lib config s a).clock = s.clock := by
  have heffect := serve_effect lib config s a
  rw [step]
  generalize serve lib config s a = out at heffect ⊢
  cases heffect with
  | waited ms => exact absurd rfl (h ms)
  | _ => rfl

/-- What the steps of the participation service keep, and what stays as time passes, holds at every moment
of a run of the server. -/
theorem keeps_participation {P : Date → Participation.State → Prop} {R : State → Action → Prop}
    {actions : List Action}
    (hkeep : ∀ s action, R s (.participation action) → P s.clock s.participation →
      P s.clock (Participation.serve lib s.clock s.accounts s.participation action).2)
    (hlater : ∀ now later p, now.ms ≤ later.ms → P now p → P later p)
    (h : EachStep (step lib config) R s actions) (hs : P s.clock s.participation) :
    AtEachMoment (step lib config) (fun s ↦ P s.clock s.participation) s actions := by
  refine h.keeps (fun s a hstep hbefore ↦ ?_) hs
  cases a with
  | participation action => exact hkeep s action hstep hbefore
  | wait ms => exact hlater _ _ _ (Date.ms_le_advance s.clock ms) hbefore
  | _ =>
    rw [step_participation_of_ne (by simp), step_clock_of_ne (by simp)]
    exact hbefore

end Services

end CreatorFirst.Gateway.Server
