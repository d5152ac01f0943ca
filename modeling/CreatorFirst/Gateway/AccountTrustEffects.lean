import CreatorFirst.Gateway.AccountTrust
import CreatorFirst.Process.Run

/-!
# What the account trust service writes

A transition moves the transaction, the row and the log together, unless the index of the active
bindings refuses the row.
-/

namespace CreatorFirst.Gateway.AccountTrust

open Database

section Transition

variable (t : State) (now : Date) (transaction : Transaction) (state : BindingState) (detail : Detail)

/-- A transition that has moved the transaction, the row and the log. -/
def State.moved : State :=
  { t.updateTransaction transaction.bindingId (Transaction.enter state now) with
    bindings := t.bindings.update transaction.bindingId (fun _ ↦ True)
      (Binding.enter state detail now)
    audit := t.audit ++
      [{ bindingId := transaction.bindingId, ownerId := transaction.ownerId, eventType := state
         occurredAt := now, detail }] }

variable {t now transaction state detail}

theorem transition_eq_moved (h : ¬(state = .active ∧ t.OtherActive transaction.bindingId)) :
    t.transition now transaction state detail = (.ok (), t.moved now transaction state detail) := by
  have hrow : (t.updateTransaction transaction.bindingId (Transaction.enter state now)).updateTrustBinding
      transaction.bindingId state detail now =
        some (t.bindings.update transaction.bindingId (fun _ ↦ True) (Binding.enter state detail now)) :=
    if_neg h
  simp only [State.transition, hrow]
  rfl

theorem transition_of_otherActive (h : t.OtherActive transaction.bindingId) :
    t.transition now transaction .active detail =
      (.error .constraint, t.updateTransaction transaction.bindingId (Transaction.enter .active now)) := by
  have hrow : (t.updateTransaction transaction.bindingId (Transaction.enter .active now)).updateTrustBinding
      transaction.bindingId .active detail now = none := if_pos ⟨rfl, h⟩
  simp only [State.transition, hrow]

/-- Whether another binding is active does not depend on the row itself. -/
theorem otherActive_moved :
    (t.moved now transaction state detail).OtherActive transaction.bindingId ↔
      t.OtherActive transaction.bindingId := by
  constructor
  · rintro ⟨r, hr, other, hother, hid, hne, howner, hactive⟩
    obtain ⟨x, hx, rfl⟩ := Table.mem_update.mp hr
    obtain ⟨y, hy, rfl⟩ := Table.mem_update.mp hother
    have hxid : x.bindingId = transaction.bindingId := by
      split at hid
      · next h => exact h.1
      · exact hid
    have hyid : ¬(y.bindingId = transaction.bindingId ∧ True) := by
      intro h
      rw [if_pos h] at hne
      exact hne h.1
    rw [if_neg hyid] at hne hactive
    rw [if_neg hyid, if_pos ⟨hxid, trivial⟩] at howner
    exact ⟨x, hx, y, hy, hxid, hne, howner, hactive⟩
  · rintro ⟨r, hr, other, hother, hid, hne, howner, hactive⟩
    refine ⟨_, Table.mem_update.mpr ⟨r, hr, rfl⟩, other, Table.mem_update_of_not hother fun h ↦ hne h.1, ?_⟩
    rw [if_pos ⟨hid, trivial⟩]
    exact ⟨hid, hne, howner, hactive⟩

end Transition

variable (lib : Library) (config : ServerConfig) (now : Date) (profile : Profile) (t : State)

/-- The state after a wallet was verified and its row has become `WALLET_BOUND`. -/
def State.walletBound (accountId : AccountId) (i : ℕ) (held : HeldWallet) : State :=
  ((t.finish accountId i).updateTransaction held.transaction.bindingId
    (Transaction.useWalletIntent held.index)).moved now held.transaction .walletBound
      { walletAddress := some held.intent.walletAddress }

/-- The outcomes of a part of a handler: the account and the service. -/
inductive Effect : Action → Profile → State → Prop
  | same (a : Action) : Effect a profile t
  | finished (a : Action) (i : ℕ) : Effect a profile (t.finish a.accountId i)
  | waiting (a : Action) (request : Request)
      (h : ∀ bindingId intent signature, request ≠ .verifyWallet bindingId intent signature)
      (h' : ∀ credentialId challenge counter,
        request ≠ .verifyAuthentication credentialId challenge counter) :
      Effect a profile (t.suspend a.accountId request)
  | unwritten (accountId : AccountId) (draws : BeginDraws)
      (hmay : t.mayBegin now accountId profile = .ok ())
      (hfailed : maxTime < now.ms + config.trustBindingTtlMs ∨
        t.bindings.find? draws.bindingId ≠ none) :
      Effect (.begin accountId draws) profile
        { t with transactions := t.transactions.set (newTransaction config now accountId draws) }
  | begun (accountId : AccountId) (draws : BeginDraws) (expiresAt : Date)
      (bindings : Table Binding.bindingId)
      (hmay : t.mayBegin now accountId profile = .ok ())
      (hexpires : expiresAt.ms = now.ms + config.trustBindingTtlMs)
      (hinsert : t.bindings.insert (newBinding now accountId draws expiresAt) = some bindings) :
      Effect (.begin accountId draws) profile
        { t with
          transactions := t.transactions.set (newTransaction config now accountId draws)
          bindings
          audit := t.audit ++
            [{ bindingId := draws.bindingId, ownerId := accountId, eventType := .created
               occurredAt := now }] }
  | asserted (accountId : AccountId) (bindingId : String) (body : Option JpkiBody)
      (transaction : Transaction)
      (hmay : t.mayAssertMockJpki now accountId bindingId body = .ok transaction) :
      Effect (.assertMockJpki accountId bindingId body) profile
        ((t.updateTransaction bindingId Transaction.clearJpkiChallenge).moved now transaction
          .jpkiAsserted { adapter := some "mock-jpki-v1" })
  | challenged (accountId : AccountId) (i : ℕ) (bindingId challenge : String) :
      Effect (.registrationChallenge accountId i (some challenge)) profile
        ((t.finish accountId i).updateTransaction bindingId
          (Transaction.setRegistrationChallenge (some challenge)))
  | registered (accountId : AccountId) (i : ℕ) (transaction : Transaction) (info : RegistrationInfo)
      (credentials : Table Credential.credentialId)
      (hheld : t.heldRegistration accountId i = some transaction)
      (hinsert : t.credentials.insert (newCredential now accountId info) = some credentials) :
      Effect (.registrationVerified accountId i (.verified info))
        { profile with passkeyAuthenticated := true }
        (({ t.finish accountId i with credentials }.updateTransaction transaction.bindingId
          (Transaction.setRegistrationChallenge none)).moved now transaction .passkeyRegistered
            { passkeyCredentialId := some info.credentialId })
  | authenticationChallenge (accountId : AccountId) (i : ℕ) (challenge : String) :
      Effect (.authenticationChallenge accountId i (some challenge))
        { profile with authenticationChallenge := some challenge } (t.finish accountId i)
  | authenticating (accountId : AccountId) (credentialId : Option String) (challenge : String)
      (stored : Credential)
      (hmay : mayVerifyAuthentication profile t accountId credentialId = .ok (challenge, stored)) :
      Effect (.verifyAuthentication accountId credentialId) profile
        (t.suspend accountId
          (.verifyAuthentication stored.credentialId challenge stored.counter))
  | authenticated (accountId : AccountId) (i : ℕ) (credentialId : String) (counter : ℕ) :
      Effect (.authenticationVerified accountId i (.verified counter))
        { profile with authenticationChallenge := none, passkeyAuthenticated := true }
        { t.finish accountId i with
          credentials := t.credentials.update credentialId (fun _ ↦ True)
            (Credential.setCounter counter) }
  | intended (accountId : AccountId) (bindingId : String) (body : Option WalletBody)
      (bindingNonce : String) (intent : WalletIntent) :
      Effect (.walletOptions accountId bindingId body bindingNonce) profile
        (t.updateTransaction bindingId (Transaction.addWalletIntent intent))
  | verifying (accountId : AccountId) (bindingId : String) (body : Option SignatureBody) (intent : ℕ)
      (signature : Option String)
      (hmay : t.mayVerifyWallet now accountId bindingId body = .ok (intent, signature)) :
      Effect (.verifyWallet accountId bindingId body) profile
        (t.suspend accountId (.verifyWallet bindingId intent signature))
  | bound (accountId : AccountId) (i : ℕ) (held : HeldWallet)
      (hheld : t.heldWallet accountId i = some held)
      (hsigned : walletSigned lib held.intent held.signature = .ok ())
      (hother : ¬t.OtherActive held.transaction.bindingId) :
      Effect (.walletRecovered accountId i)
        { profile with walletAddress := some held.intent.walletAddress }
        ((t.walletBound now accountId i held).moved now held.transaction .active
          { walletAddress := some held.intent.walletAddress })
  | unbound (accountId : AccountId) (i : ℕ) (held : HeldWallet)
      (hheld : t.heldWallet accountId i = some held)
      (hsigned : walletSigned lib held.intent held.signature = .ok ())
      (hother : t.OtherActive held.transaction.bindingId) :
      Effect (.walletRecovered accountId i)
        { profile with walletAddress := some held.intent.walletAddress }
        ((t.walletBound now accountId i held).updateTransaction held.transaction.bindingId
          (Transaction.enter .active now))

variable {lib config now profile t}

theorem begin_effect (accountId : AccountId) (draws : BeginDraws) :
    Effect lib config now profile t (.begin accountId draws)
      (begin config now profile t accountId draws).profile
      (begin config now profile t accountId draws).trust := by
  rw [begin]
  split
  · exact .same _
  · next hmay =>
    dsimp only
    cases hexpires : Date.toISOString? (newTransaction config now accountId draws).expiresAt with
    | none =>
      have hlate := Date.toISOString?_eq_none.mp hexpires
      exact .unwritten accountId draws hmay (.inl hlate)
    | some expiresAt =>
      dsimp only
      have hms : expiresAt.ms = now.ms + config.trustBindingTtlMs := Date.ms_of_toISOString? hexpires
      cases hinsert : t.bindings.insert (newBinding now accountId draws expiresAt) with
      | none => exact .unwritten accountId draws hmay (.inr (Table.insert_eq_none.mp hinsert))
      | some bindings => exact .begun accountId draws expiresAt bindings hmay hms hinsert

theorem walletRecovered_effect {accountId : AccountId} {i : ℕ} {held : HeldWallet}
    (hheld : t.heldWallet accountId i = some held) :
    Effect lib config now profile t (.walletRecovered accountId i)
      (walletRecovered lib now profile (t.finish accountId i) held).profile
      (walletRecovered lib now profile (t.finish accountId i) held).trust := by
  rw [walletRecovered]
  split
  · exact .finished (.walletRecovered accountId i) i
  · next hsigned =>
    dsimp only
    rw [transition_eq_moved (by simp)]
    dsimp only
    have hsame : (t.walletBound now accountId i held).OtherActive held.transaction.bindingId ↔
        t.OtherActive held.transaction.bindingId := otherActive_moved
    rw [State.walletBound] at hsame
    rw [activateBinding]
    by_cases hother : t.OtherActive held.transaction.bindingId
    · rw [transition_of_otherActive (hsame.mpr hother)]
      exact .unbound accountId i held hheld hsigned hother
    · rw [transition_eq_moved fun h ↦ hother (hsame.mp h.2)]
      exact .bound accountId i held hheld hsigned hother

variable (lib config now profile t) in
theorem serve_effect (a : Action) :
    Effect lib config now profile t a (serve lib config now profile t a).profile
      (serve lib config now profile t a).trust := by
  cases a with
  | begin accountId draws => exact begin_effect accountId draws
  | assertMockJpki accountId bindingId body =>
    rw [serve, assertMockJpki]
    split
    · exact .same _
    · next transaction hmay =>
      dsimp only
      rw [transition_eq_moved (by simp)]
      exact .asserted accountId bindingId body transaction hmay
  | registrationOptions accountId bindingId body =>
    rw [serve, registrationOptions]
    split
    · exact .same _
    · exact .waiting (.registrationOptions accountId bindingId body) _ (by simp) (by simp)
  | registrationChallenge accountId i challenge =>
    rw [serve]
    split
    · next bindingId _ =>
      cases challenge with
      | none => exact .finished (.registrationChallenge accountId i none) i
      | some challenge => exact .challenged accountId i bindingId challenge
    · exact .same _
  | verifyRegistration accountId bindingId body =>
    rw [serve, verifyRegistration]
    split
    · exact .same _
    · exact .waiting (.verifyRegistration accountId bindingId body) _ (by simp) (by simp)
  | registrationVerified accountId i answer =>
    rw [serve]
    split
    · next transaction hheld =>
      cases answer with
      | threw => exact .finished (.registrationVerified accountId i .threw) i
      | rejected => exact .finished (.registrationVerified accountId i .rejected) i
      | verified info =>
        simp only [registrationVerified]
        have hcredentials : (t.finish accountId i).credentials = t.credentials := rfl
        cases hinsert : t.credentials.insert (newCredential now accountId info) with
        | none =>
          rw [hcredentials, hinsert]
          exact .finished (.registrationVerified accountId i (.verified info)) i
        | some credentials =>
          simp only [hcredentials, hinsert]
          rw [transition_eq_moved (by simp)]
          exact .registered accountId i transaction info credentials hheld hinsert
    · exact .same _
  | authenticationOptions accountId =>
    rw [serve, authenticationOptions]
    split
    · exact .same _
    · exact .waiting (.authenticationOptions accountId) _ (by simp) (by simp)
  | authenticationChallenge accountId i challenge =>
    rw [serve]
    split
    · cases challenge with
      | none => exact .finished (.authenticationChallenge accountId i none) i
      | some challenge => exact .authenticationChallenge accountId i challenge
    · exact .same _
  | verifyAuthentication accountId credentialId =>
    rw [serve, verifyAuthentication]
    split
    · exact .same _
    · next challenge stored hmay => exact .authenticating accountId credentialId challenge stored hmay
  | authenticationVerified accountId i answer =>
    rw [serve]
    split
    · next credentialId _ _ _ =>
      cases answer with
      | threw => exact .finished (.authenticationVerified accountId i .threw) i
      | rejected => exact .finished (.authenticationVerified accountId i .rejected) i
      | verified counter => exact .authenticated accountId i credentialId counter
    · exact .same _
  | walletOptions accountId bindingId body bindingNonce =>
    rw [serve, walletOptions]
    split
    · exact .same _
    · next intent _ => exact .intended accountId bindingId body bindingNonce intent
  | verifyWallet accountId bindingId body =>
    rw [serve, verifyWallet]
    split
    · exact .same _
    · next intent signature hmay => exact .verifying accountId bindingId body intent signature hmay
  | walletRecovered accountId i =>
    rw [serve]
    split
    · next held hheld => exact walletRecovered_effect hheld
    · exact .same _

end CreatorFirst.Gateway.AccountTrust
