import CreatorFirst.Gateway.ProfileChanges
import CreatorFirst.Gateway.TrustAuditLog

/-!
# Single use of passkey challenges

An authentication gives the verifier the account's current challenge and the stored counter, and stores
the new counter when the verifier has accepted. Verifications of one account may overlap; so a challenge
is accepted once at most and no counter goes back in exactly those runs in which no authentication that
is accepted was overtaken by another one while it waited.
-/

namespace CreatorFirst.Gateway

open Database Process

namespace AccountTrust

/-- What a `verifyAuthentication` that waits has given the verifier. -/
structure HeldAuthentication where
  credentialId : String
  challenge : String
  counter : ℕ

def State.heldAuthentication (t : State) (accountId : AccountId) (i : ℕ) :
    Option HeldAuthentication :=
  match (t.requests accountId)[i]? with
  | some (.verifyAuthentication credentialId challenge counter) =>
    some ⟨credentialId, challenge, counter⟩
  | _ => none

/-- An authentication that is accepted, with the new counter. -/
structure Assertion where
  accountId : AccountId
  request : ℕ
  held : HeldAuthentication
  counter : ℕ

def assertion? (t : State) : Action → Option Assertion
  | .authenticationVerified accountId i (.verified counter) =>
    (t.heldAuthentication accountId i).map fun held ↦ ⟨accountId, i, held, counter⟩
  | _ => none

/-- The account and the challenge that are issued. -/
def issue? (t : State) : Action → Option (AccountId × String)
  | .authenticationChallenge accountId i (some challenge) =>
    match (t.requests accountId)[i]? with
    | some .authenticationOptions => some (accountId, challenge)
    | _ => none
  | _ => none

variable {lib : Library} {config : ServerConfig} {now : Date} {profile profile' : Profile} {t t' : State}
  {a : Action}

theorem serve_authenticationVerified (accountId : AccountId) (i : ℕ) (answer : Verification ℕ) :
    serve lib config now profile t (.authenticationVerified accountId i answer) =
      match t.heldAuthentication accountId i with
      | some held => authenticationVerified profile (t.finish accountId i) held.credentialId answer
      | none => .idle profile t := by
  rw [serve, State.heldAuthentication]
  cases (t.requests accountId)[i]? with
  | none => rfl
  | some request => cases request <;> rfl

/-- The request is answered as authenticated exactly if it is accepted. -/
theorem reply_authenticationVerified (accountId : AccountId) (i : ℕ) (answer : Verification ℕ) :
    (serve lib config now profile t (.authenticationVerified accountId i answer)).reply =
        some (.ok .authenticated) ↔
      (assertion? t (.authenticationVerified accountId i answer)).isSome := by
  rw [serve_authenticationVerified]
  cases hheld : t.heldAuthentication accountId i <;>
    cases answer <;>
      simp [assertion?, hheld, authenticationVerified, Outcome.refused, Outcome.idle]

/-! ## The current challenge -/

theorem Effect.authenticationChallenge_eq (h : Effect lib config now profile t a profile' t')
    (hissue : ∀ accountId i challenge, a ≠ .authenticationChallenge accountId i challenge)
    (hverified : ∀ accountId i answer, a ≠ .authenticationVerified accountId i answer) :
    profile'.authenticationChallenge = profile.authenticationChallenge := by
  cases h with
  | authenticationChallenge accountId i challenge => exact absurd rfl (hissue _ _ _)
  | authenticated accountId i => exact absurd rfl (hverified _ _ _)
  | _ => rfl

/-- The current challenge of an account was issued now, or it was current before and no authentication
of the account is accepted. -/
theorem current_serve {challenge : String}
    (h : (serve lib config now profile t a).profile.authenticationChallenge = some challenge) :
    issue? t a = some (a.accountId, challenge) ∨
      profile.authenticationChallenge = some challenge ∧ assertion? t a = none := by
  have hsame := (serve_effect lib config now profile t a).authenticationChallenge_eq
  cases a with
  | authenticationChallenge accountId i issued =>
    rw [serve] at h
    cases hrequest : (t.requests accountId)[i]? with
    | none =>
      rw [hrequest] at h
      exact .inr ⟨h, rfl⟩
    | some request =>
      rw [hrequest] at h
      cases request with
      | authenticationOptions =>
        cases issued with
        | none => exact .inr ⟨h, rfl⟩
        | some issued =>
          obtain rfl : issued = challenge := Option.some.inj h
          left
          simp [issue?, hrequest, Action.accountId]
      | _ => exact .inr ⟨h, rfl⟩
  | authenticationVerified accountId i answer =>
    rw [serve_authenticationVerified] at h
    cases hheld : t.heldAuthentication accountId i with
    | none =>
      rw [hheld] at h
      refine .inr ⟨h, ?_⟩
      cases answer <;> simp [assertion?, hheld]
    | some held =>
      rw [hheld] at h
      cases answer with
      | threw => exact .inr ⟨h, rfl⟩
      | rejected => exact .inr ⟨h, rfl⟩
      | verified counter => cases h
  | _ =>
    rw [hsame (by simp) (by simp)] at h
    exact .inr ⟨h, rfl⟩

/-! ## Waiting requests -/

theorem heldAuthentication_eq_some {accountId : AccountId} {i : ℕ} {held : HeldAuthentication} :
    t.heldAuthentication accountId i = some held ↔ (t.requests accountId)[i]? =
      some (.verifyAuthentication held.credentialId held.challenge held.counter) := by
  unfold State.heldAuthentication
  constructor
  · intro h
    split at h
    · next hrequest =>
      obtain rfl := Option.some.inj h
      exact hrequest
    · cases h
  · intro h
    rw [h]

theorem heldAuthentication_finish {accountId other : AccountId} {i j : ℕ} {held : HeldAuthentication}
    (h : (t.finish other j).heldAuthentication accountId i = some held) :
    t.heldAuthentication accountId i = some held := by
  rw [heldAuthentication_eq_some] at h ⊢
  unfold State.finish at h
  dsimp only at h
  rw [Function.update_apply] at h
  split at h
  · next hother =>
    rw [List.getElem?_set] at h
    split at h
    · split at h <;> cases h
    · rwa [hother]
  · exact h

theorem heldAuthentication_suspend {accountId other : AccountId} {request : Request} {i : ℕ}
    {held : HeldAuthentication}
    (h : (t.suspend other request).heldAuthentication accountId i = some held) :
    t.heldAuthentication accountId i = some held ∨
      accountId = other ∧ i = (t.requests accountId).length ∧
        request = .verifyAuthentication held.credentialId held.challenge held.counter := by
  rw [heldAuthentication_eq_some] at h ⊢
  unfold State.suspend at h
  dsimp only at h
  rw [Function.update_apply] at h
  split at h
  · next hother =>
    rw [← hother, List.getElem?_append] at h
    split at h
    · exact .inl h
    · next hlater =>
      obtain ⟨hfirst, hrequest⟩ := List.getElem?_eq_some_iff.mp h
      have hnext : i = (t.requests accountId).length := by
        simp only [List.length_singleton] at hfirst
        omega
      exact .inr ⟨hother, hnext, by simpa using hrequest⟩
  · exact .inl h

/-- What an authentication gives the verifier when it begins to wait. -/
structure Begins (profile : Profile) (t : State) (accountId : AccountId) (i : ℕ)
    (held : HeldAuthentication) : Prop where
  next : i = (t.requests accountId).length
  current : profile.authenticationChallenge = some held.challenge
  stored : ∃ stored, t.credentials.find? held.credentialId = some stored ∧
    stored.counter = held.counter

theorem begins_of_mayVerifyAuthentication {accountId : AccountId} {credentialId : Option String}
    {challenge : String} {stored : Credential} {i : ℕ} {held : HeldAuthentication}
    (hmay : mayVerifyAuthentication profile t accountId credentialId = .ok (challenge, stored))
    (hnext : i = (t.requests accountId).length)
    (hheld : Request.verifyAuthentication stored.credentialId challenge stored.counter =
      .verifyAuthentication held.credentialId held.challenge held.counter) :
    Begins profile t accountId i held := by
  simp only [mayVerifyAuthentication, bind_eq_ok, requireSome_eq_ok, pure_eq_ok, Option.filter_eq_some_iff,
    Option.bind_eq_some_iff] at hmay
  obtain ⟨current, hcurrent, found, ⟨⟨id, -, hfound⟩, -⟩, hsame⟩ := hmay
  obtain ⟨rfl, rfl⟩ := Prod.mk.inj hsame
  injection hheld with hid hchallenge hcounter
  have hstored : t.credentials.find? held.credentialId = some found := by
    rw [← hid]
    exact Table.find?_key (Table.find?_eq_some.mp hfound).1
  exact ⟨hnext, hchallenge ▸ hcurrent, found, hstored, hcounter⟩

/-- A request that waits for the verifier did so before, or begins to. -/
theorem held_serve {accountId : AccountId} {i : ℕ} {held : HeldAuthentication}
    (h : (serve lib config now profile t a).trust.heldAuthentication accountId i = some held) :
    t.heldAuthentication accountId i = some held ∨
      accountId = a.accountId ∧ Begins profile t accountId i held := by
  have heffect := serve_effect lib config now profile t a
  generalize serve lib config now profile t a = out at heffect h
  obtain ⟨reply, profile', t'⟩ := out
  dsimp only at heffect h
  cases heffect with
  | same | unwritten | begun | asserted | intended => exact .inl h
  | finished | challenged | registered | authenticationChallenge | authenticated | bound | unbound =>
    exact .inl (heldAuthentication_finish h)
  | waiting action request _ hnot =>
    refine .inl ((heldAuthentication_suspend h).resolve_right ?_)
    rintro ⟨-, -, hrequest⟩
    exact hnot _ _ _ hrequest
  | verifying =>
    refine .inl ((heldAuthentication_suspend h).resolve_right ?_)
    rintro ⟨-, -, hrequest⟩
    cases hrequest
  | authenticating other credentialId challenge stored hmay =>
    obtain hbefore | ⟨rfl, hnext, hrequest⟩ := heldAuthentication_suspend h
    · exact .inl hbefore
    · exact .inr ⟨rfl, begins_of_mayVerifyAuthentication hmay hnext hrequest⟩

/-! ## Counters -/

theorem Effect.credentials_eq (h : Effect lib config now profile t a profile' t')
    (hverified : ∀ accountId i answer, a ≠ .authenticationVerified accountId i answer)
    {credentialId : String} {credential : Credential}
    (hfound : t.credentials.find? credentialId = some credential) :
    t'.credentials.find? credentialId = some credential := by
  cases h with
  | registered accountId i transaction info credentials hheld hinsert =>
    have hne : info.credentialId ≠ credentialId := by
      intro hsame
      have hfree := (Table.insert_eq_some.mp hinsert).1
      have hnone : t.credentials.find? info.credentialId = none := hfree
      rw [hsame, hfound] at hnone
      cases hnone
    exact (Table.find?_insert hinsert credentialId).trans ((if_neg hne).trans hfound)
  | authenticated accountId i => exact absurd rfl (hverified _ _ _)
  | _ => exact hfound

/-- A stored counter stays, or is that of an authentication that is accepted. -/
theorem counter_serve {credentialId : String} {credential : Credential}
    (hfound : t.credentials.find? credentialId = some credential) :
    ∃ after, (serve lib config now profile t a).trust.credentials.find? credentialId = some after ∧
      ((∀ x ∈ assertion? t a, x.held.credentialId ≠ credentialId) ∧
          after.counter = credential.counter ∨
        ∃ x ∈ assertion? t a, x.held.credentialId = credentialId ∧ after.counter = x.counter) := by
  have hsame := (serve_effect lib config now profile t a).credentials_eq
  cases a with
  | authenticationVerified accountId i answer =>
    rw [serve_authenticationVerified]
    cases hheld : t.heldAuthentication accountId i with
    | none =>
      refine ⟨credential, hfound, .inl ⟨?_, rfl⟩⟩
      intro x hx
      cases answer <;> simp [assertion?, hheld] at hx
    | some held =>
      cases answer with
      | threw => exact ⟨credential, hfound, .inl ⟨fun _ hx ↦ (by cases hx), rfl⟩⟩
      | rejected => exact ⟨credential, hfound, .inl ⟨fun _ hx ↦ (by cases hx), rfl⟩⟩
      | verified counter =>
        have hassertion : assertion? t (.authenticationVerified accountId i (.verified counter)) =
            some ⟨accountId, i, held, counter⟩ := by
          simp [assertion?, hheld]
        have hafter : (t.credentials.update held.credentialId (fun _ ↦ True)
            (Credential.setCounter counter)).find? credentialId =
              some (if credentialId = held.credentialId ∧ True then
                (Credential.setCounter counter).apply credential else credential) := by
          rw [Table.find?_update, hfound, Option.map_some]
        refine ⟨_, hafter, ?_⟩
        rw [hassertion]
        by_cases hid : credentialId = held.credentialId
        · right
          refine ⟨_, rfl, hid.symm, ?_⟩
          rw [if_pos ⟨hid, trivial⟩]
          rfl
        · left
          rw [if_neg fun h ↦ hid h.1]
          refine ⟨?_, rfl⟩
          intro x hx
          obtain rfl := Option.some.inj hx
          exact Ne.symm hid
  | _ =>
    refine ⟨credential, hsame (by simp) hfound, .inl ⟨?_, rfl⟩⟩
    intro x hx
    cases hx

end AccountTrust

namespace Server

open AccountTrust (Assertion HeldAuthentication)

/-! ## Steps of the server -/

/-- The authentication that a step accepts. -/
def assertion? (s : State) : Action → Option Assertion
  | .trust action => AccountTrust.assertion? s.trust action
  | _ => none

/-- The account and the challenge that a step issues. -/
def issue? (s : State) : Action → Option (AccountId × String)
  | .trust action => AccountTrust.issue? s.trust action
  | _ => none

/-- The step issues the challenge to the account. -/
def Issues (accountId : AccountId) (challenge : String) (s : State) (a : Action) : Prop :=
  issue? s a = some (accountId, challenge)

def IssuesChallenge (challenge : String) (s : State) (a : Action) : Prop :=
  (issue? s a).map Prod.snd = some challenge

instance (challenge : String) (s : State) (a : Action) : Decidable (IssuesChallenge challenge s a) :=
  inferInstanceAs (Decidable (_ = _))

theorem Issues.issuesChallenge {accountId : AccountId} {challenge : String} {s : State} {a : Action}
    (h : Issues accountId challenge s a) : IssuesChallenge challenge s a := by
  rw [IssuesChallenge, Option.map_eq_some_iff]
  exact ⟨_, h, rfl⟩

/-- The step accepts an authentication that was given the challenge. -/
def AcceptsChallenge (challenge : String) (s : State) (a : Action) : Prop :=
  ∃ x ∈ assertion? s a, x.held.challenge = challenge

instance (challenge : String) (s : State) (a : Action) : Decidable (AcceptsChallenge challenge s a) :=
  inferInstanceAs (Decidable (∃ x ∈ assertion? s a, _))

/-- What the verifier promises: the new counter exceeds the one that it was given, or both are zero. -/
def VerifierSound (s : State) (a : Action) : Prop :=
  ∀ x ∈ assertion? s a, x.held.counter < x.counter ∨ x.held.counter = 0 ∧ x.counter = 0

instance (s : State) (a : Action) : Decidable (VerifierSound s a) :=
  inferInstanceAs (Decidable (∀ x ∈ assertion? s a, _))

/-- No stored counter goes back. -/
def CountersGrow (s s' : State) : Prop :=
  ∀ credentialId credential, s.trust.credentials.find? credentialId = some credential →
    ∃ after, s'.trust.credentials.find? credentialId = some after ∧ credential.counter ≤ after.counter

section Step

variable {lib : Library} {config : ServerConfig} {s : State} {a : Action}

theorem authenticationChallenge_step_of_ne (h : ∀ action, a ≠ .trust action) (accountId : AccountId) :
    ((step lib config s a).accounts accountId).authenticationChallenge =
      (s.accounts accountId).authenticationChallenge := by
  have hchange := profile_change lib config s a accountId
  generalize (step lib config s a).accounts accountId = profile at hchange ⊢
  cases hchange with
  | passkey action ha => exact absurd ha (h action)
  | bound i held ha => exact absurd ha (h _)
  | same | registered | signedIn | activated | claimed => rfl

/-- A challenge that is current after a step was issued by it, or was current before, and then the step
accepts no authentication of the account. -/
theorem current_step {accountId : AccountId} {challenge : String}
    (h : ((step lib config s a).accounts accountId).authenticationChallenge = some challenge) :
    Issues accountId challenge s a ∨
      (s.accounts accountId).authenticationChallenge = some challenge ∧
        ∀ x ∈ assertion? s a, x.accountId ≠ accountId := by
  by_cases htrust : ∃ action, a = .trust action
  · obtain ⟨action, rfl⟩ := htrust
    have haccount : ∀ x ∈ assertion? s (.trust action), x.accountId = action.accountId := by
      intro x hx
      cases action with
      | authenticationVerified other i answer =>
        cases answer with
        | verified counter =>
          obtain ⟨held, -, rfl⟩ := Option.map_eq_some_iff.mp hx
          rfl
        | _ => cases hx
      | _ => cases hx
    have hafter : (step lib config s (.trust action)).accounts accountId =
        if accountId = action.accountId then
          (AccountTrust.serve lib config s.clock (s.accounts action.accountId) s.trust action).profile
        else s.accounts accountId := Function.update_apply _ _ _ _
    rw [hafter] at h
    split at h
    · next hown =>
      obtain hissues | ⟨hcurrent, hnone⟩ := AccountTrust.current_serve h
      · left
        rw [hown]
        exact hissues
      · refine .inr ⟨hown ▸ hcurrent, ?_⟩
        intro x hx
        have hnone : assertion? s (.trust action) = none := hnone
        rw [hnone] at hx
        cases hx
    · next hother =>
      refine .inr ⟨h, ?_⟩
      intro x hx hsame
      exact hother (hsame.symm.trans (haccount x hx))
  · rw [authenticationChallenge_step_of_ne fun action h ↦ htrust ⟨action, h⟩] at h
    refine .inr ⟨h, ?_⟩
    intro x hx
    cases a with
    | trust action => exact absurd ⟨action, rfl⟩ htrust
    | _ => cases hx

/-- A request that waits for the verifier after a step did so before, or begins to. -/
theorem held_step {accountId : AccountId} {i : ℕ} {held : HeldAuthentication}
    (h : (step lib config s a).trust.heldAuthentication accountId i = some held) :
    s.trust.heldAuthentication accountId i = some held ∨
      assertion? s a = none ∧ AccountTrust.Begins (s.accounts accountId) s.trust accountId i held := by
  by_cases htrust : ∃ action, a = .trust action
  · obtain ⟨action, rfl⟩ := htrust
    by_cases hbefore : s.trust.heldAuthentication accountId i = some held
    · exact .inl hbefore
    · obtain ⟨hown, hbegins⟩ := (AccountTrust.held_serve h).resolve_left hbefore
      rw [← hown] at hbegins
      refine .inr ⟨?_, hbegins⟩
      cases action with
      | authenticationVerified other j answer =>
        -- The rest of a verification begins no other one.
        have hserve : (AccountTrust.serve lib config s.clock (s.accounts other) s.trust
            (.authenticationVerified other j answer)).trust.heldAuthentication accountId i =
              some held := h
        rw [AccountTrust.serve_authenticationVerified] at hserve
        cases hheld : s.trust.heldAuthentication other j with
        | none =>
          rw [hheld] at hserve
          exact absurd hserve hbefore
        | some held' =>
          rw [hheld] at hserve
          cases answer <;> exact absurd (AccountTrust.heldAuthentication_finish hserve) hbefore
      | _ => rfl
  · rw [step_trust_of_ne fun action h ↦ htrust ⟨action, h⟩] at h
    exact .inl h

variable (lib config a) in
/-- A stored counter stays, or is that of an authentication that is accepted. -/
theorem counter_step {credentialId : String} {credential : AccountTrust.Credential}
    (hfound : s.trust.credentials.find? credentialId = some credential) :
    ∃ after, (step lib config s a).trust.credentials.find? credentialId = some after ∧
      (after.counter = credential.counter ∨
        ∃ x ∈ assertion? s a, x.held.credentialId = credentialId ∧ after.counter = x.counter) := by
  by_cases htrust : ∃ action, a = .trust action
  · obtain ⟨action, rfl⟩ := htrust
    obtain ⟨after, hafter, ⟨-, hsame⟩ | haccepted⟩ := AccountTrust.counter_serve hfound
    · exact ⟨after, hafter, .inl hsame⟩
    · exact ⟨after, hafter, .inr haccepted⟩
  · rw [step_trust_of_ne fun action h ↦ htrust ⟨action, h⟩]
    exact ⟨credential, hfound, .inl rfl⟩

/-- An authentication that is accepted stores its counter. -/
theorem counter_step_of_assertion {x : Assertion} (hx : x ∈ assertion? s a)
    {credential after : AccountTrust.Credential}
    (hfound : s.trust.credentials.find? x.held.credentialId = some credential)
    (hafter : (step lib config s a).trust.credentials.find? x.held.credentialId = some after) :
    after.counter = x.counter := by
  cases a with
  | trust action =>
    obtain ⟨after', hafter', ⟨hnone, -⟩ | ⟨y, hy, -, hcounter⟩⟩ := AccountTrust.counter_serve hfound
    · exact absurd rfl (hnone x hx)
    · obtain rfl := Option.some.inj (hafter.symm.trans hafter')
      obtain rfl := Option.some.inj (hx.symm.trans hy)
      exact hcounter
  | _ => cases hx

theorem held_of_assertion {x : Assertion} (hx : x ∈ assertion? s a) :
    s.trust.heldAuthentication x.accountId x.request = some x.held := by
  cases a with
  | trust action =>
    cases action with
    | authenticationVerified other i answer =>
      cases answer with
      | verified counter =>
        obtain ⟨held, hheld, rfl⟩ := Option.map_eq_some_iff.mp hx
        exact hheld
      | _ => cases hx
    | _ => cases hx
  | _ => cases hx

theorem lt_length_of_held {t : AccountTrust.State} {accountId : AccountId} {i : ℕ}
    {held : HeldAuthentication} (h : t.heldAuthentication accountId i = some held) :
    i < (t.requests accountId).length :=
  (List.getElem?_eq_some_iff.mp (AccountTrust.heldAuthentication_eq_some.mp h)).1

/-- No step both issues a challenge and accepts an authentication. -/
theorem assertion?_of_issue {issued : AccountId × String} (h : issue? s a = some issued) :
    assertion? s a = none := by
  cases a with
  | trust action => cases action <;> first | rfl | cases h
  | _ => rfl

end Step

/-! ## Runs -/

section Runs

variable (lib : Library) (config : ServerConfig) (clock : Date)

/-- A challenge that is issued was not issued before. -/
def NewChallenge (past : List Action) (a : Action) : Prop :=
  ∀ issued ∈ issue? (run (step lib config) (start clock) past) a,
    ¬Once (step lib config) (IssuesChallenge issued.2) (start clock) past

instance (past : List Action) (a : Action) : Decidable (NewChallenge lib config clock past a) :=
  inferInstanceAs (Decidable (∀ issued ∈ issue? _ a, _))

/-- An authentication that makes it wrong to accept the other one later. -/
def Spoils (x y : Assertion) : Prop :=
  y.held.challenge = x.held.challenge ∨
    y.held.credentialId = x.held.credentialId ∧ x.counter < y.counter

instance (x y : Assertion) : Decidable (Spoils x y) := inferInstanceAs (Decidable (_ ∨ _))

/-- While the authentication waited for the verifier, another one was accepted that was given the same
challenge, or that gave the same credential a greater counter. -/
def Overtaken (past : List Action) (x : Assertion) : Prop :=
  Once (step lib config) (fun s a ↦ x.request < (s.trust.requests x.accountId).length ∧
    ∃ y ∈ assertion? s a, Spoils x y) (start clock) past

instance (past : List Action) (x : Assertion) : Decidable (Overtaken lib config clock past x) :=
  have (s : State) (a : Action) : Decidable (x.request < (s.trust.requests x.accountId).length ∧
      ∃ y ∈ assertion? s a, Spoils x y) :=
    have : Decidable (∃ y ∈ assertion? s a, Spoils x y) :=
      inferInstanceAs (Decidable (∃ y ∈ assertion? s a, _))
    inferInstanceAs (Decidable (_ ∧ _))
  inferInstanceAs (Decidable (Once _ _ _ _))

/-- Where the current challenges, the waiting authentications and the counters come from. -/
structure PasskeysTraced (past : List Action) : Prop where
  one_owner : ∀ A B challenge, Once (step lib config) (Issues A challenge) (start clock) past →
    Once (step lib config) (Issues B challenge) (start clock) past → A = B
  accepted : ∀ challenge, Once (step lib config) (AcceptsChallenge challenge) (start clock) past →
    Once (step lib config) (IssuesChallenge challenge) (start clock) past
  current : ∀ A challenge,
    ((run (step lib config) (start clock) past).accounts A).authenticationChallenge = some challenge →
      Once (step lib config) (Issues A challenge) (start clock) past ∧
        ¬Once (step lib config) (AcceptsChallenge challenge) (start clock) past
  held : ∀ A i held,
    (run (step lib config) (start clock) past).trust.heldAuthentication A i = some held →
      Once (step lib config) (Issues A held.challenge) (start clock) past ∧
        ¬Once (step lib config) (fun s a ↦ AcceptsChallenge held.challenge s a ∧
          (s.trust.requests A).length ≤ i) (start clock) past
  counters : ∀ A i held,
    (run (step lib config) (start clock) past).trust.heldAuthentication A i = some held →
      ∃ stored, (run (step lib config) (start clock) past).trust.credentials.find? held.credentialId =
          some stored ∧
        (stored.counter = held.counter ∨
          Once (step lib config) (fun s a ↦ i < (s.trust.requests A).length ∧
            ∃ y ∈ assertion? s a, y.held.credentialId = held.credentialId ∧ y.counter = stored.counter)
            (start clock) past)

variable {lib config clock} {past : List Action} {a : Action}

theorem passkeysTraced_nil : PasskeysTraced lib config clock [] where
  one_owner _ _ _ h := absurd h not_once_nil
  accepted _ h := absurd h not_once_nil
  current _ _ h := by cases h
  held _ _ _ h := by cases h
  counters _ _ _ h := by cases h

namespace PasskeysTraced

theorem one_owner_step (h : PasskeysTraced lib config clock past) (hnew : NewChallenge lib config clock past a)
    (A B : AccountId) (challenge : String)
    (hA : Once (step lib config) (Issues A challenge) (start clock) (past ++ [a]))
    (hB : Once (step lib config) (Issues B challenge) (start clock) (past ++ [a])) : A = B := by
  have hfirst : ∀ C D, Issues C challenge (run (step lib config) (start clock) past) a →
      ¬Once (step lib config) (Issues D challenge) (start clock) past := by
    intro C D hC hD
    exact hnew _ hC (hD.mono fun s a h ↦ h.issuesChallenge)
  rw [once_concat] at hA hB
  obtain hA | hA := hA
  · obtain hB | hB := hB
    · exact h.one_owner A B challenge hA hB
    · exact absurd hA (hfirst B A hB)
  · obtain hB | hB := hB
    · exact absurd hB (hfirst A B hA)
    · have hsame : some (A, challenge) = some (B, challenge) := hA.symm.trans hB
      exact congrArg Prod.fst (Option.some.inj hsame)

theorem accepted_step (h : PasskeysTraced lib config clock past) (challenge : String)
    (haccepted : Once (step lib config) (AcceptsChallenge challenge) (start clock) (past ++ [a])) :
    Once (step lib config) (IssuesChallenge challenge) (start clock) (past ++ [a]) := by
  apply Once.append
  rw [once_concat] at haccepted
  obtain hbefore | ⟨x, hx, rfl⟩ := haccepted
  · exact h.accepted challenge hbefore
  · exact (h.held _ _ _ (held_of_assertion hx)).1.mono fun s a hissues ↦ hissues.issuesChallenge

theorem current_step (h : PasskeysTraced lib config clock past) (hnew : NewChallenge lib config clock past a)
    (A : AccountId) (challenge : String)
    (hcurrent : ((run (step lib config) (start clock) (past ++ [a])).accounts A).authenticationChallenge =
      some challenge) :
    Once (step lib config) (Issues A challenge) (start clock) (past ++ [a]) ∧
      ¬Once (step lib config) (AcceptsChallenge challenge) (start clock) (past ++ [a]) := by
  rw [run_append] at hcurrent
  rw [once_concat, once_concat, not_or]
  obtain hissues | ⟨hbefore, hother⟩ := Server.current_step hcurrent
  · refine ⟨.inr hissues, ?_, ?_⟩
    · intro haccepted
      exact hnew _ hissues (h.accepted challenge haccepted)
    · rintro ⟨x, hx, -⟩
      rw [assertion?_of_issue hissues] at hx
      cases hx
  · obtain ⟨hissued, hunaccepted⟩ := h.current A challenge hbefore
    refine ⟨.inl hissued, hunaccepted, ?_⟩
    rintro ⟨x, hx, rfl⟩
    have howner := (h.held _ _ _ (held_of_assertion hx)).1
    exact hother x hx (h.one_owner _ _ _ howner hissued)

theorem held_step (h : PasskeysTraced lib config clock past) (A : AccountId) (i : ℕ) (held : HeldAuthentication)
    (hheld : (run (step lib config) (start clock) (past ++ [a])).trust.heldAuthentication A i =
      some held) :
    Once (step lib config) (Issues A held.challenge) (start clock) (past ++ [a]) ∧
      ¬Once (step lib config) (fun s a ↦ AcceptsChallenge held.challenge s a ∧
        (s.trust.requests A).length ≤ i) (start clock) (past ++ [a]) := by
  rw [run_append] at hheld
  rw [once_concat, once_concat, not_or]
  obtain hbefore | ⟨hnone, hbegins⟩ := Server.held_step hheld
  · obtain ⟨hissued, hunaccepted⟩ := h.held A i held hbefore
    refine ⟨.inl hissued, hunaccepted, ?_⟩
    rintro ⟨-, hlength⟩
    exact absurd (lt_length_of_held hbefore) (Nat.not_lt.mpr hlength)
  · obtain ⟨hissued, hunaccepted⟩ := h.current A held.challenge hbegins.current
    refine ⟨.inl hissued, ?_, ?_⟩
    · intro haccepted
      exact hunaccepted (haccepted.mono fun s a h ↦ h.1)
    · rintro ⟨⟨x, hx, -⟩, -⟩
      rw [hnone] at hx
      cases hx

theorem counters_step (h : PasskeysTraced lib config clock past) (A : AccountId) (i : ℕ)
    (held : HeldAuthentication)
    (hheld : (run (step lib config) (start clock) (past ++ [a])).trust.heldAuthentication A i =
      some held) :
    ∃ stored, (run (step lib config) (start clock) (past ++ [a])).trust.credentials.find?
          held.credentialId = some stored ∧
      (stored.counter = held.counter ∨
        Once (step lib config) (fun s a ↦ i < (s.trust.requests A).length ∧
          ∃ y ∈ assertion? s a, y.held.credentialId = held.credentialId ∧ y.counter = stored.counter)
          (start clock) (past ++ [a])) := by
  rw [run_append] at hheld ⊢
  simp only [once_concat]
  obtain hbefore | ⟨hnone, hbegins⟩ := Server.held_step hheld
  · obtain ⟨stored, hfound, hcounter⟩ := h.counters A i held hbefore
    obtain ⟨after, hafter, hsame | ⟨x, hx, hid, hnew⟩⟩ := counter_step lib config a hfound
    · refine ⟨after, hafter, ?_⟩
      rw [hsame]
      exact hcounter.imp_right .inl
    · exact ⟨after, hafter, .inr (.inr ⟨lt_length_of_held hbefore, x, hx, hid, hnew.symm⟩)⟩
  · obtain ⟨stored, hfound, hcounter⟩ := hbegins.stored
    obtain ⟨after, hafter, hsame | ⟨x, hx, -, -⟩⟩ := counter_step lib config a hfound
    · exact ⟨after, hafter, .inl (hsame.trans hcounter)⟩
    · rw [hnone] at hx
      cases hx

end PasskeysTraced

theorem passkeysTraced_run (h : EachPast (NewChallenge lib config clock) past) :
    PasskeysTraced lib config clock past := by
  induction past using List.reverseRecOn with
  | nil => exact passkeysTraced_nil
  | append_singleton past a ih =>
    obtain ⟨hpast, hnew⟩ := eachPast_concat.mp h
    have htraced := ih hpast
    constructor
    · exact htraced.one_owner_step hnew
    · exact htraced.accepted_step
    · exact htraced.current_step hnew
    · exact htraced.held_step
    · exact htraced.counters_step

/-- A counter that was accepted is not above the stored one, as long as no counter goes back. -/
theorem le_counter_of_accepted {credentialId : String} {m : ℕ}
    (hnew : EachPast (NewChallenge lib config clock) past)
    (hgrow : EachStep (step lib config) (fun s a ↦ CountersGrow s (step lib config s a)) (start clock)
      past)
    (haccepted : Once (step lib config) (fun s a ↦ ∃ y ∈ assertion? s a,
      y.held.credentialId = credentialId ∧ y.counter = m) (start clock) past) :
    ∃ stored, (run (step lib config) (start clock) past).trust.credentials.find? credentialId =
      some stored ∧ m ≤ stored.counter := by
  induction past using List.reverseRecOn with
  | nil => exact absurd haccepted not_once_nil
  | append_singleton past a ih =>
    obtain ⟨hnewPast, -⟩ := eachPast_concat.mp hnew
    obtain ⟨hgrowPast, hgrowLast⟩ := EachStep.concat.mp hgrow
    rw [run_append]
    rw [once_concat] at haccepted
    obtain hbefore | ⟨y, hy, rfl, rfl⟩ := haccepted
    · obtain ⟨stored, hfound, hle⟩ := ih hnewPast hgrowPast hbefore
      obtain ⟨after, hafter, hgrown⟩ := hgrowLast credentialId stored hfound
      exact ⟨after, hafter, hle.trans hgrown⟩
    · obtain ⟨stored, hfound, -⟩ := (passkeysTraced_run hnewPast).counters _ _ _ (held_of_assertion hy)
      obtain ⟨after, hafter, -⟩ := counter_step lib config a hfound
      exact ⟨after, hafter, (counter_step_of_assertion hy hfound hafter).ge⟩

/-- An authentication that is accepted although an earlier one of its challenge was had been overtaken. -/
theorem overtaken_of_accepted_twice (hnew : EachPast (NewChallenge lib config clock) past) {x : Assertion}
    (hx : x ∈ assertion? (run (step lib config) (start clock) past) a)
    (htwice : Once (step lib config) (AcceptsChallenge x.held.challenge) (start clock) past) :
    Overtaken lib config clock past x := by
  obtain ⟨earlier, b, hprefix, y, hy, hsame⟩ := htwice
  refine ⟨earlier, b, hprefix, ?_, y, hy, .inl hsame⟩
  by_contra hlater
  -- A challenge that is current when a verification begins has not been accepted.
  apply ((passkeysTraced_run hnew).held _ _ _ (held_of_assertion hx)).2
  exact ⟨earlier, b, hprefix, ⟨y, hy, hsame⟩, Nat.not_lt.mp hlater⟩

/-- An authentication that takes the stored counter back had been overtaken. -/
theorem overtaken_of_counter_lt (hnew : EachPast (NewChallenge lib config clock) past) {x : Assertion}
    (hx : x ∈ assertion? (run (step lib config) (start clock) past) a)
    (hsound : VerifierSound (run (step lib config) (start clock) past) a)
    {stored : AccountTrust.Credential}
    (hfound : (run (step lib config) (start clock) past).trust.credentials.find? x.held.credentialId =
      some stored)
    (hback : x.counter < stored.counter) : Overtaken lib config clock past x := by
  obtain ⟨found, hfound', hcounter⟩ := (passkeysTraced_run hnew).counters _ _ _ (held_of_assertion hx)
  obtain rfl := Option.some.inj (hfound.symm.trans hfound')
  have hgiven : stored.counter ≠ x.held.counter := by
    have hx := hsound x hx
    omega
  obtain ⟨earlier, b, hprefix, hwaiting, y, hy, hid, hsame⟩ := hcounter.resolve_left hgiven
  exact ⟨earlier, b, hprefix, hwaiting, y, hy, .inr ⟨hid, hsame ▸ hback⟩⟩

variable (lib config clock)

/-- In every run in which challenges are new and the verifier keeps its promise, each challenge is
accepted at most once and no stored counter goes back, if and only if no authentication is accepted that
was overtaken by another one while it waited. -/
theorem passkey_challenges_iff (actions : List Action)
    (hnew : EachPast (NewChallenge lib config clock) actions)
    (hsound : EachStep (step lib config) VerifierSound (start clock) actions) :
    ((∀ challenge, countSteps (step lib config) (AcceptsChallenge challenge) (start clock) actions ≤ 1) ∧
        EachStep (step lib config) (fun s a ↦ CountersGrow s (step lib config s a)) (start clock)
          actions) ↔
      EachPast (fun past a ↦ ∀ x ∈ assertion? (run (step lib config) (start clock) past) a,
        ¬Overtaken lib config clock past x) actions := by
  simp only [countSteps_le_one_iff_eachPast]
  constructor
  · rintro ⟨honce, hgrow⟩ past a hprefix x hx ⟨earlier, b, hearlier, -, y, hy, hsame | ⟨hid, hlt⟩⟩
    · exact honce x.held.challenge past a hprefix ⟨x, hx, rfl⟩ ⟨earlier, b, hearlier, y, hy, hsame⟩
    · have hpast : past <+: actions := (List.prefix_append past [a]).trans hprefix
      have haccepted : Once (step lib config) (fun s a ↦ ∃ y' ∈ assertion? s a,
          y'.held.credentialId = x.held.credentialId ∧ y'.counter = y.counter) (start clock) past :=
        ⟨earlier, b, hearlier, y, hy, hid, rfl⟩
      obtain ⟨stored, hfound, hle⟩ :=
        le_counter_of_accepted (hnew.of_isPrefix hpast) (hgrow.of_isPrefix hpast) haccepted
      obtain ⟨after, hafter, hgrown⟩ := eachStep_iff.mp hgrow past a hprefix _ stored hfound
      have hcounter := counter_step_of_assertion hx hfound hafter
      omega
  · intro hovertaken
    constructor
    · rintro challenge past a hprefix ⟨x, hx, rfl⟩ htwice
      have hpast : past <+: actions := (List.prefix_append past [a]).trans hprefix
      exact hovertaken past a hprefix x hx
        (overtaken_of_accepted_twice (hnew.of_isPrefix hpast) hx htwice)
    · rw [eachStep_iff]
      intro past a hprefix credentialId credential hfound
      have hpast : past <+: actions := (List.prefix_append past [a]).trans hprefix
      obtain ⟨after, hafter, hsame | ⟨x, hx, rfl, hcounter⟩⟩ :=
        counter_step lib config a hfound
      · exact ⟨after, hafter, hsame.ge⟩
      · refine ⟨after, hafter, ?_⟩
        by_contra hback
        rw [hcounter, Nat.not_le] at hback
        exact hovertaken past a hprefix x hx (overtaken_of_counter_lt (hnew.of_isPrefix hpast) hx
          (eachStep_iff.mp hsound past a hprefix) hfound hback)

end Runs

namespace Sample

def registered : List Action :=
  registration ++ [.trust (.registrationVerified listener 1 (.verified (passkey "AYbX0nE6p2q5")))]

/-- The listener asks for a challenge and signs it. -/
def authenticate (options : ℕ) (challenge : String) (counter : ℕ) : List Action := [
  .trust (.authenticationOptions listener),
  .trust (.authenticationChallenge listener options (some challenge)),
  .trust (.verifyAuthentication listener (some "AYbX0nE6p2q5")),
  .trust (.authenticationVerified listener (options + 1) (.verified counter))]

/-- Two responses to one challenge are verified side by side, and the verifier of the later one is the
first to answer. -/
def authenticateTwice : List Action := registered ++ [
  .trust (.authenticationOptions listener),
  .trust (.authenticationChallenge listener 2 (some "c2lnbi1tZS1pbg")),
  .trust (.verifyAuthentication listener (some "AYbX0nE6p2q5")),
  .trust (.verifyAuthentication listener (some "AYbX0nE6p2q5")),
  .trust (.authenticationVerified listener 4 (.verified 2)),
  .trust (.authenticationVerified listener 3 (.verified 1))]

end Sample

/-- Two authentications, one after the other. -/
theorem passkey_challenges_in_turn :
    (∀ challenge, countSteps (step Sample.library Sample.config) (AcceptsChallenge challenge)
        (start Sample.clock) (Sample.registered ++ Sample.authenticate 2 "c2lnbi1tZS1pbg" 1 ++
          Sample.authenticate 4 "c2lnbi1tZS1hZ2Fpbg" 2) ≤ 1) ∧
      EachStep (step Sample.library Sample.config)
        (fun s a ↦ CountersGrow s (step Sample.library Sample.config s a)) (start Sample.clock)
        (Sample.registered ++ Sample.authenticate 2 "c2lnbi1tZS1pbg" 1 ++
          Sample.authenticate 4 "c2lnbi1tZS1hZ2Fpbg" 2) :=
  (passkey_challenges_iff Sample.library Sample.config Sample.clock _ (by decide +kernel)
    (by decide +kernel)).mpr (by decide +kernel)

/-- One challenge is accepted twice, and the stored counter goes from 2 back to 1. -/
theorem passkey_challenge_accepted_twice :
    EachPast (NewChallenge Sample.library Sample.config Sample.clock) Sample.authenticateTwice ∧
      EachStep (step Sample.library Sample.config) VerifierSound (start Sample.clock)
        Sample.authenticateTwice ∧
      countSteps (step Sample.library Sample.config) (AcceptsChallenge "c2lnbi1tZS1pbg")
        (start Sample.clock) Sample.authenticateTwice = 2 ∧
      ¬EachStep (step Sample.library Sample.config)
        (fun s a ↦ CountersGrow s (step Sample.library Sample.config s a)) (start Sample.clock)
        Sample.authenticateTwice := by
  refine ⟨by decide +kernel, by decide +kernel, by decide +kernel, ?_⟩
  intro hgrow
  have hlast := eachStep_iff.mp hgrow Sample.authenticateTwice.dropLast
    (.trust (.authenticationVerified Sample.listener 3 (.verified 1))) ⟨[], rfl⟩
  have hbefore : ((run (step Sample.library Sample.config) (start Sample.clock)
      Sample.authenticateTwice.dropLast).trust.credentials.find? "AYbX0nE6p2q5").map (·.counter) =
        some 2 := by decide +kernel
  have hlater : ((run (step Sample.library Sample.config) (start Sample.clock)
      Sample.authenticateTwice).trust.credentials.find? "AYbX0nE6p2q5").map (·.counter) =
        some 1 := by decide +kernel
  obtain ⟨stored, hstored, htwo⟩ := Option.map_eq_some_iff.mp hbefore
  obtain ⟨after, hafter, hone⟩ := Option.map_eq_some_iff.mp hlater
  obtain ⟨found, hfound, hle⟩ := hlast _ stored hstored
  obtain rfl := Option.some.inj (hafter.symm.trans hfound)
  omega

end Server

end CreatorFirst.Gateway
