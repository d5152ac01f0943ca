import CreatorFirst.Gateway.ServerEffects
import CreatorFirst.Gateway.AccountTrustEffects

/-!
# What a waiting request holds belongs to its account

A handler checks the owner of a challenge, an intent, a session or a transaction before it waits, and
goes on without looking again. Owners never change, so what it goes on with is still its account's.
-/

namespace CreatorFirst.Gateway

open Database Process

namespace AccountTrust

/-- The transaction of a waiting verification is its account's. -/
def State.Owned (t : State) : Prop :=
  ∀ accountId bindingId intent signature, .verifyWallet bindingId intent signature ∈ t.requests accountId →
    t.transactions.Holds bindingId (·.ownerId = accountId)

variable {lib : Library} {config : ServerConfig} {now : Date} {profile profile' : Profile} {t t' : State}
  {a : Action}

theorem State.Owned.of_requests {t' : State} (h : t.Owned)
    (hrequests : ∀ accountId bindingId intent signature,
      .verifyWallet bindingId intent signature ∈ t'.requests accountId →
        .verifyWallet bindingId intent signature ∈ t.requests accountId ∨
          t'.transactions.Holds bindingId (·.ownerId = accountId))
    (htransactions : ∀ bindingId accountId, t.transactions.Holds bindingId (·.ownerId = accountId) →
      t'.transactions.Holds bindingId (·.ownerId = accountId)) : t'.Owned := by
  intro accountId bindingId intent signature hmem
  obtain hbefore | hown := hrequests accountId bindingId intent signature hmem
  · exact htransactions _ _ (h accountId bindingId intent signature hbefore)
  · exact hown

/-- A request that waits was waiting before its account finished another one. -/
theorem mem_finish {accountId other : AccountId} {i : ℕ} {request : Request} (hne : request ≠ .ended)
    (h : request ∈ (t.finish other i).requests accountId) : request ∈ t.requests accountId := by
  rw [State.finish] at h
  dsimp only at h
  rw [Function.update_apply] at h
  split at h
  · next hother =>
    subst hother
    exact (List.mem_or_eq_of_mem_set h).resolve_right hne
  · exact h

theorem mem_suspend {accountId other : AccountId} {request waiting : Request}
    (h : request ∈ (t.suspend other waiting).requests accountId) :
    request ∈ t.requests accountId ∨ accountId = other ∧ request = waiting := by
  rw [State.suspend] at h
  dsimp only at h
  rw [Function.update_apply] at h
  split at h
  · next hother =>
    subst hother
    rw [List.mem_append, List.mem_singleton] at h
    exact h.imp_right fun hnew ↦ ⟨rfl, hnew⟩
  · exact .inl h

theorem mayVerifyWallet_owned {accountId : AccountId} {bindingId : String} {body : Option SignatureBody}
    {intent : ℕ} {signature : Option String}
    (h : t.mayVerifyWallet now accountId bindingId body = .ok (intent, signature)) :
    t.transactions.Holds bindingId (·.ownerId = accountId) := by
  simp only [State.mayVerifyWallet, State.transaction, bind_eq_ok, requireSome_eq_ok,
    Option.filter_eq_some_iff] at h
  obtain ⟨_, ⟨transaction, ⟨hfound, howner⟩, -⟩, -⟩ := h
  exact ⟨transaction, hfound, by simpa using howner⟩

section Step

variable {accountId : AccountId} {bindingId : String}

theorem owned_updateTransaction {k : String} {f : Table.Rewrite Transaction.bindingId}
    (hf : ∀ transaction, (f.apply transaction).ownerId = transaction.ownerId)
    (h : t.transactions.Holds bindingId (·.ownerId = accountId)) :
    (t.updateTransaction k f).transactions.Holds bindingId (·.ownerId = accountId) :=
  h.update fun transaction hown ↦ (hf transaction).trans hown

theorem owned_moved {now : Date} {transaction : Transaction} {state : BindingState} {detail : Detail}
    (h : t.transactions.Holds bindingId (·.ownerId = accountId)) :
    (t.moved now transaction state detail).transactions.Holds bindingId (·.ownerId = accountId) :=
  h.update fun _ hown ↦ hown

/-- Owned requests stay so: the transactions are updated, and new ones have new identifiers. -/
theorem owned_step (heffect : Effect lib config now profile t a profile' t')
    (hfresh : ∀ accountId draws, a = .begin accountId draws →
      t.transactions.find? draws.bindingId = none) (h : t.Owned) : t'.Owned := by
  cases heffect with
  | same => exact h
  | finished => exact h.of_requests (fun _ _ _ _ hmem ↦ .inl (mem_finish (by simp) hmem)) fun _ _ hown ↦ hown
  | waiting _ request hother =>
    refine h.of_requests (fun _ _ _ _ hmem ↦ .inl ?_) fun _ _ hown ↦ hown
    exact (mem_suspend hmem).resolve_right fun hnew ↦ hother _ _ _ hnew.2.symm
  | authenticating =>
    refine h.of_requests (fun _ _ _ _ hmem ↦ .inl ?_) fun _ _ hown ↦ hown
    exact (mem_suspend hmem).resolve_right fun hnew ↦ Request.noConfusion hnew.2
  | unwritten accountId draws | begun accountId draws =>
    have hfree := hfresh accountId draws rfl
    exact h.of_requests (fun _ _ _ _ hmem ↦ .inl hmem) fun _ _ hown ↦ hown.set hfree
  | asserted =>
    exact h.of_requests (fun _ _ _ _ hmem ↦ .inl hmem) fun _ _ hown ↦
      owned_moved (owned_updateTransaction (fun _ ↦ rfl) hown)
  | challenged =>
    exact h.of_requests (fun _ _ _ _ hmem ↦ .inl (mem_finish (by simp) hmem)) fun _ _ hown ↦
      owned_updateTransaction (fun _ ↦ rfl) hown
  | registered =>
    exact h.of_requests (fun _ _ _ _ hmem ↦ .inl (mem_finish (by simp) hmem)) fun _ _ hown ↦
      owned_moved (owned_updateTransaction (fun _ ↦ rfl) hown)
  | authenticationChallenge | authenticated =>
    exact h.of_requests (fun _ _ _ _ hmem ↦ .inl (mem_finish (by simp) hmem)) fun _ _ hown ↦ hown
  | intended =>
    exact h.of_requests (fun _ _ _ _ hmem ↦ .inl hmem) fun _ _ hown ↦
      owned_updateTransaction (fun _ ↦ rfl) hown
  | verifying accountId bindingId body intent signature hmay =>
    have hown := mayVerifyWallet_owned hmay
    refine h.of_requests (fun other k j signed hmem ↦ ?_) fun _ _ hown ↦ hown
    obtain hbefore | ⟨rfl, hnew⟩ := mem_suspend hmem
    · exact .inl hbefore
    · cases hnew
      exact .inr hown
  | bound =>
    exact h.of_requests (fun _ _ _ _ hmem ↦ .inl (mem_finish (by simp) hmem)) fun _ _ hown ↦
      owned_moved (owned_moved (owned_updateTransaction (fun _ ↦ rfl) hown))
  | unbound =>
    exact h.of_requests (fun _ _ _ _ hmem ↦ .inl (mem_finish (by simp) hmem)) fun _ _ hown ↦
      owned_updateTransaction (fun _ ↦ rfl) (owned_moved (owned_updateTransaction (fun _ ↦ rfl) hown))

end Step

end AccountTrust

namespace Server

/-- What the request holds is its account's. -/
def Request.Own (s : State) (accountId : AccountId) : Request → Prop
  | .verifyChallenge challengeId _ => s.challenges.Holds challengeId (·.ownerId = accountId)
  | .submitSupport requestId => s.supportIntents.Holds requestId (·.ownerId = accountId)
  | .stream (.opening session _) | .stream (.delivering session _ _ _ _) =>
    s.store.sessions.Holds session.sessionId (·.ownerId = accountId.text)
  | .createSupportIntent _ | .stream .ended | .ended => True

/-- What the waiting requests hold is their account's. -/
structure State.Owned (s : State) : Prop where
  requests : ∀ accountId, ∀ request ∈ s.requests accountId, request.Own s accountId
  wallets : s.trust.Owned

/-- Whatever has an owner keeps it. -/
structure KeepsOwners (s s' : State) : Prop where
  challenges : ∀ k accountId, s.challenges.Holds k (·.ownerId = accountId) →
    s'.challenges.Holds k (·.ownerId = accountId)
  supportIntents : ∀ k accountId, s.supportIntents.Holds k (·.ownerId = accountId) →
    s'.supportIntents.Holds k (·.ownerId = accountId)
  sessions : ∀ k ownerId, s.store.sessions.Holds k (·.ownerId = ownerId) →
    s'.store.sessions.Holds k (·.ownerId = ownerId)

section Own

variable {s s' : State} {accountId other : AccountId} {request waiting : Request} {i : ℕ}

theorem KeepsOwners.of_same (hchallenges : s'.challenges = s.challenges)
    (hintents : s'.supportIntents = s.supportIntents) (hsessions : s'.store.sessions = s.store.sessions) :
    KeepsOwners s s' where
  challenges _ _ h := hchallenges ▸ h
  supportIntents _ _ h := hintents ▸ h
  sessions _ _ h := hsessions ▸ h

theorem Request.Own.mono (h : request.Own s accountId) (hkeeps : KeepsOwners s s') :
    request.Own s' accountId := by
  cases request with
  | verifyChallenge challengeId => exact hkeeps.challenges _ _ h
  | submitSupport requestId => exact hkeeps.supportIntents _ _ h
  | stream stream =>
    cases stream with
    | opening => exact hkeeps.sessions _ _ h
    | delivering => exact hkeeps.sessions _ _ h
    | ended => trivial
  | createSupportIntent | ended => trivial

theorem mem_suspend (h : request ∈ (s.suspend other waiting).requests accountId) :
    request ∈ s.requests accountId ∨ accountId = other ∧ request = waiting := by
  rw [State.suspend] at h
  dsimp only at h
  rw [Function.update_apply] at h
  split at h
  · next hother =>
    subst hother
    rw [List.mem_append, List.mem_singleton] at h
    exact h.imp_right fun hnew ↦ ⟨rfl, hnew⟩
  · exact .inl h

theorem mem_setRequest (h : request ∈ (s.setRequest other i waiting).requests accountId) :
    request ∈ s.requests accountId ∨ accountId = other ∧ request = waiting := by
  rw [State.setRequest] at h
  dsimp only at h
  rw [Function.update_apply] at h
  split at h
  · next hother =>
    subst hother
    exact (List.mem_or_eq_of_mem_set h).imp_right fun hnew ↦ ⟨rfl, hnew⟩
  · exact .inl h

/-- A request that has ended holds nothing. -/
theorem own_of_ended (h : request ∈ (s.setRequest other i .ended).requests accountId) :
    request ∈ s.requests accountId ∨ request.Own s' accountId := by
  obtain hbefore | ⟨-, rfl⟩ := mem_setRequest h
  · exact .inl hbefore
  · exact .inr trivial

theorem State.Owned.own (h : s.Owned) (hrequest : s.request? accountId i = some request) :
    request.Own s accountId :=
  h.requests accountId request (List.mem_of_getElem? hrequest)

/-- A step that keeps the owners, in which at most one request begins to wait for something else. -/
theorem State.Owned.of_keeps (h : s.Owned) (hkeeps : KeepsOwners s s')
    (hrequests : ∀ accountId, ∀ request ∈ s'.requests accountId,
      request ∈ s.requests accountId ∨ request.Own s' accountId)
    (hwallets : s'.trust.Owned) : s'.Owned where
  requests accountId request hmem := by
    obtain hbefore | hown := hrequests accountId request hmem
    · exact (h.requests accountId request hbefore).mono hkeeps
    · exact hown
  wallets := hwallets

end Own

section Checks

variable {lib : Library} {config : ServerConfig} {now : Date} {accountId : AccountId}

theorem mayVerifyChallenge_owned {challenges : Table Challenge.challengeId}
    {body : Except Failure (Option VerifyBody)} {challenge : Challenge} {signature : String}
    (h : mayVerifyChallenge now challenges accountId body = .ok (challenge, signature)) :
    challenges.find? challenge.challengeId = some challenge ∧ challenge.ownerId = accountId := by
  simp only [mayVerifyChallenge, bind_eq_ok] at h
  obtain ⟨body, -, h⟩ := h
  cases body with
  | none => cases h
  | some body =>
    simp only [bind_eq_ok, requireSome_eq_ok, pure_eq_ok, Prod.mk.injEq, Option.filter_eq_some_iff,
      Option.bind_eq_some_iff] at h
    obtain ⟨_, ⟨⟨challengeId, -, hfound⟩, howner⟩, _, -, rfl, rfl⟩ := h
    obtain rfl := (Table.find?_eq_some.mp hfound).2
    simp only [Bool.and_eq_true, decide_eq_true_eq] at howner
    exact ⟨hfound, howner.1.1⟩

theorem createPlayback_keeps {requestHash : String → String} {account : Account} {draws : Draws}
    {body : Except Failure Body} {store : Store} {k ownerId : String}
    (h : store.sessions.Holds k (·.ownerId = ownerId)) :
    ((Gateway.createPlayback config.toConfig requestHash now account draws body).execute
      store).2.sessions.Holds k (·.ownerId = ownerId) := by
  generalize hout : ((Gateway.createPlayback config.toConfig requestHash now account draws
    body).execute store).2 = store'
  obtain hsame | ⟨track, adapterRef, hinsert, -⟩ := createPlayback_sessions hout
  · rwa [hsame]
  · exact h.insert hinsert

theorem createChallenge_challengeId {p : Participation.State} {draws : ChallengeDraws}
    {body : Except Failure ChallengeBody} {challenge : Challenge}
    (h : Gateway.createChallenge lib config now p accountId draws body = .ok challenge) :
    challenge.challengeId = draws.challengeId := by
  simp only [Gateway.createChallenge, bind_eq_ok, pure_eq_ok] at h
  obtain ⟨_, -, _, -, _, -, _, -, _, -, rfl⟩ := h
  rfl

theorem createChallenge_ownerId {p : Participation.State} {draws : ChallengeDraws}
    {body : Except Failure ChallengeBody} {challenge : Challenge}
    (h : Gateway.createChallenge lib config now p accountId draws body = .ok challenge) :
    challenge.ownerId = accountId := by
  simp only [Gateway.createChallenge, bind_eq_ok, pure_eq_ok] at h
  obtain ⟨_, -, _, -, _, -, _, -, _, -, rfl⟩ := h
  rfl

theorem maySubmitSupport_owned {supportIntents : Table SupportIntent.requestId} {requestId : String}
    {intent : SupportIntent} (h : maySubmitSupport now accountId supportIntents requestId = .ok intent) :
    supportIntents.find? requestId = some intent ∧ intent.ownerId = accountId := by
  rw [maySubmitSupport, requireSome_eq_ok, Option.filter_eq_some_iff] at h
  simp only [Bool.and_eq_true, decide_eq_true_eq] at h
  exact ⟨h.1, h.2.1⟩

end Checks

section Step

variable (lib : Library) (config : ServerConfig)

theorem owned_step {s : State} {a : Action} (hfresh : Fresh s a) (h : s.Owned) :
    (step lib config s a).Owned := by
  have heffect := serve_effect lib config s a
  rw [step]
  generalize serve lib config s a = out at heffect ⊢
  cases heffect with
  | same => exact h
  | waited | registered =>
    exact h.of_keeps (.of_same rfl rfl rfl) (fun _ _ hmem ↦ .inl hmem) h.wallets
  | ended | repeated | refused =>
    exact h.of_keeps (.of_same rfl rfl rfl) (fun _ _ hmem ↦ own_of_ended hmem) h.wallets
  | challenged accountId draws body challenge reply hchallenge =>
    refine h.of_keeps ⟨fun k other hown ↦ hown.set ?_, fun _ _ hown ↦ hown, fun _ _ hown ↦ hown⟩
      (fun _ _ hmem ↦ .inl hmem) h.wallets
    rw [createChallenge_challengeId hchallenge]
    exact hfresh
  | verifying accountId body challenge signature hmay =>
    obtain ⟨hfound, howner⟩ := mayVerifyChallenge_owned hmay
    refine h.of_keeps (.of_same rfl rfl rfl) (fun other request hmem ↦ ?_) h.wallets
    obtain hbefore | ⟨rfl, rfl⟩ := mem_suspend hmem
    · exact .inl hbefore
    · exact .inr ⟨challenge, hfound, howner⟩
  | signedIn accountId i challenge signature reply hrequest hfound hsigned =>
    refine h.of_keeps ⟨fun k other hown ↦ hown.update fun _ howner ↦ howner, fun _ _ hown ↦ hown,
      fun _ _ hown ↦ hown⟩ (fun _ _ hmem ↦ own_of_ended hmem) h.wallets
  | requesting accountId artistId =>
    refine h.of_keeps (.of_same rfl rfl rfl) (fun other request hmem ↦ ?_) h.wallets
    obtain hbefore | ⟨rfl, rfl⟩ := mem_suspend hmem
    · exact .inl hbefore
    · exact .inr trivial
  | intended accountId i artistId draws body request reply hrequest hfree =>
    exact h.of_keeps ⟨fun _ _ hown ↦ hown, fun k other hown ↦ hown.set hfresh, fun _ _ hown ↦ hown⟩
      (fun _ _ hmem ↦ own_of_ended hmem) h.wallets
  | submitting accountId requestId intent hmay =>
    obtain ⟨hfound, howner⟩ := maySubmitSupport_owned hmay
    refine h.of_keeps (.of_same rfl rfl rfl) (fun other request hmem ↦ ?_) h.wallets
    obtain hbefore | ⟨rfl, rfl⟩ := mem_suspend hmem
    · exact .inl hbefore
    · exact .inr ⟨intent, hfound, howner⟩
  | confirmed accountId i intent body reply hrequest hfound hsigned =>
    exact h.of_keeps ⟨fun _ _ hown ↦ hown, fun k other hown ↦ hown.update fun _ howner ↦ howner,
      fun _ _ hown ↦ hown⟩ (fun _ _ hmem ↦ own_of_ended hmem) h.wallets
  | activated accountId intent reply hfound howner hstatus =>
    exact h.of_keeps ⟨fun _ _ hown ↦ hown, fun k other hown ↦ hown.update fun _ howner ↦ howner,
      fun _ _ hown ↦ hown⟩ (fun _ _ hmem ↦ .inl hmem) h.wallets
  | playback accountId draws body reply =>
    refine h.of_keeps ⟨fun _ _ hown ↦ hown, fun _ _ hown ↦ hown, fun k ownerId hown ↦ ?_⟩
      (fun _ _ hmem ↦ .inl hmem) h.wallets
    exact createPlayback_keeps hown
  | expired accountId sessionId r e hr howner =>
    exact h.of_keeps ⟨fun _ _ hown ↦ hown, fun _ _ hown ↦ hown,
      fun k ownerId hown ↦ hown.update fun _ howner ↦ howner⟩ (fun _ _ hmem ↦ .inl hmem) h.wallets
  | streaming accountId sessionId session hr howner =>
    refine h.of_keeps (.of_same rfl rfl rfl) (fun other request hmem ↦ ?_) h.wallets
    obtain hbefore | ⟨rfl, rfl⟩ := mem_suspend hmem
    · exact .inl hbefore
    · obtain rfl := (Table.find?_eq_some.mp hr).2
      exact .inr ⟨session, hr, howner⟩
  | opened accountId i session startedAt delivery reply hrequest =>
    have hown := h.own hrequest
    have hkeeps : ∀ k ownerId, s.store.sessions.Holds k (·.ownerId = ownerId) →
        (s.store.setSessionState session.sessionId .started).sessions.Holds k (·.ownerId = ownerId) :=
      fun k ownerId hold ↦ hold.update fun _ howner ↦ howner
    refine h.of_keeps ⟨fun _ _ hold ↦ hold, fun _ _ hold ↦ hold, hkeeps⟩ (fun other request hmem ↦ ?_)
      h.wallets
    obtain hbefore | ⟨rfl, rfl⟩ := mem_setRequest hmem
    · exact .inl hbefore
    · exact .inr (hkeeps _ _ hown)
  | counted accountId i length session startedAt delivery bytesDelivered recorded hrequest =>
    have hown := h.own hrequest
    refine h.of_keeps (.of_same rfl rfl rfl) (fun other request hmem ↦ ?_) h.wallets
    obtain hbefore | ⟨rfl, rfl⟩ := mem_setRequest hmem
    · exact .inl hbefore
    · exact .inr hown
  | recorded accountId i evidenceId session startedAt delivery bytesDelivered hrequest =>
    have hown := h.own hrequest
    have hkeeps : ∀ k ownerId, s.store.sessions.Holds k (·.ownerId = ownerId) →
        (s.store.recordEvidence (deliveryEvidence s.clock session startedAt delivery bytesDelivered
          evidenceId)).sessions.Holds k (·.ownerId = ownerId) :=
      fun k ownerId hold ↦ hold.update fun _ howner ↦ howner
    refine h.of_keeps ⟨fun _ _ hold ↦ hold, fun _ _ hold ↦ hold, hkeeps⟩ (fun other request hmem ↦ ?_)
      h.wallets
    obtain hbefore | ⟨rfl, rfl⟩ := mem_setRequest hmem
    · exact .inl hbefore
    · exact .inr (hkeeps _ _ hown)
  | closed accountId sessionId reply =>
    exact h.of_keeps ⟨fun _ _ hown ↦ hown, fun _ _ hown ↦ hown,
      fun k ownerId hown ↦ hown.update fun _ howner ↦ howner⟩ (fun _ _ hmem ↦ .inl hmem) h.wallets
  | trust action =>
    refine h.of_keeps (.of_same rfl rfl rfl) (fun _ _ hmem ↦ .inl hmem) ?_
    refine AccountTrust.owned_step (AccountTrust.serve_effect lib config s.clock _ s.trust action) ?_
      h.wallets
    rintro accountId draws rfl
    exact hfresh.1
  | participation action =>
    exact h.of_keeps (.of_same rfl rfl rfl) (fun _ _ hmem ↦ .inl hmem) h.wallets

theorem owned_start (clock : Date) : (start clock).Owned where
  requests _ _ hmem := absurd hmem List.not_mem_nil
  wallets _ _ _ _ hmem := absurd hmem List.not_mem_nil

/-- In every run whose identifiers are new, what the waiting requests hold is their account's. -/
theorem owned_run {clock : Date} {actions : List Action}
    (hfresh : EachStep (step lib config) Fresh (start clock) actions) :
    AtEachMoment (step lib config) State.Owned (start clock) actions :=
  hfresh.keeps (fun _ _ hstep h ↦ owned_step lib config hstep h) (owned_start clock)

end Step

end Server

end CreatorFirst.Gateway
