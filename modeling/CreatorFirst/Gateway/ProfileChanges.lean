import CreatorFirst.Gateway.ServerEffects
import CreatorFirst.Gateway.AccountTrustEffects
import CreatorFirst.Gateway.ApplicationEffects

/-!
# Changes of one account

What a step of the server can do to the object of an account. The wallet of an account is written by
sign-in and by account trust, its signed proof by sign-in and by the claim of an invitation.
-/

namespace CreatorFirst.Gateway.Server

open Database Process

variable (lib : Library) (config : ServerConfig) (s : State)

/-- The account object before and after a step. -/
inductive ProfileChange (a : Action) (accountId : AccountId) (profile : Profile) : Profile → Prop
  | same : ProfileChange a accountId profile profile
  | registered (user : DemoUser) : ProfileChange a accountId profile { profile with demoUser := some user }
  | signedIn (i : ℕ) (challenge : Challenge) (signature : String) (ha : a = .messageRecovered accountId i)
      (hrequest : s.request? accountId i = some (.verifyChallenge challenge.challengeId signature))
      (hfound : s.challenges.find? challenge.challengeId = some challenge)
      (hsigned : challengeSigned lib challenge signature = .ok ()) :
      ProfileChange a accountId profile (profile.signedIn challenge)
  | activated (intent : SupportIntent) (ha : a = .supportRegistration accountId intent.requestId)
      (hfound : s.supportIntents.find? intent.requestId = some intent)
      (howner : intent.ownerId = accountId) (hstatus : intent.status = .confirming)
      (hafter : (step lib config s a).supportIntents =
        s.supportIntents.update intent.requestId (fun _ ↦ True) SupportIntent.activate) :
      ProfileChange a accountId profile (profile.setTier intent.artistId intent.tier)
  | passkey (action : AccountTrust.Action) (ha : a = .trust action) (passkeyAuthenticated : Bool)
      (authenticationChallenge : Option String) :
      ProfileChange a accountId profile { profile with passkeyAuthenticated, authenticationChallenge }
  | bound (i : ℕ) (held : AccountTrust.HeldWallet) (ha : a = .trust (.walletRecovered accountId i))
      (hheld : s.trust.heldWallet accountId i = some held)
      (hsigned : AccountTrust.walletSigned lib held.intent held.signature = .ok ()) :
      ProfileChange a accountId profile
        { profile with walletAddress := some held.intent.walletAddress }
  | claimed (token : String) (body : Option Participation.Consent) (row : Participation.Invitation)
      (wallet : String) (ha : a = .participation (.claim accountId token body))
      (hmay : s.participation.mayClaim lib s.clock (s.accounts accountId) token body =
        .ok (row, some wallet)) :
      ProfileChange a accountId profile { profile with participantInvitationProof := none }

variable {lib config s} {a : Action}

theorem setAccount_change {s' : State} {other : AccountId} {profile : Profile}
    (haccounts : s'.accounts = s.accounts)
    (h : ProfileChange lib config s a other (s.accounts other) profile) (accountId : AccountId) :
    ProfileChange lib config s a accountId (s.accounts accountId)
      ((s'.setAccount other profile).accounts accountId) := by
  rw [State.setAccount]
  dsimp only
  rw [Function.update_apply, haccounts]
  split
  · next hother =>
    subst hother
    exact h
  · exact .same

theorem trust_change {action : AccountTrust.Action} {profile : Profile} {t : AccountTrust.State}
    (heffect : AccountTrust.Effect lib config s.clock (s.accounts action.accountId) s.trust action profile
      t) :
    ProfileChange lib config s (.trust action) action.accountId (s.accounts action.accountId) profile := by
  cases heffect with
  | same | finished | waiting | unwritten | begun | asserted | challenged | authenticating | intended
  | verifying =>
    exact .same
  | registered => exact .passkey _ rfl true _
  | authenticationChallenge accountId i challenge => exact .passkey _ rfl _ (some challenge)
  | authenticated => exact .passkey _ rfl true none
  | bound accountId i held hheld hsigned => exact .bound i held rfl hheld hsigned
  | unbound accountId i held hheld hsigned => exact .bound i held rfl hheld hsigned

theorem participation_change {action : Participation.Action} {accounts : AccountId → Profile}
    {p : Participation.State}
    (heffect : Participation.Effect lib s.clock s.accounts s.participation action accounts p)
    (accountId : AccountId) :
    ProfileChange lib config s (.participation action) accountId (s.accounts accountId)
      (accounts accountId) := by
  cases heffect with
  | claimed other token body row wallet hmay =>
    rw [Function.update_apply]
    split
    · next hother =>
      subst hother
      exact .claimed token body row wallet rfl hmay
    · exact .same
  | _ => exact .same

variable (lib config s a) in
/-- What a step can do to an account. -/
theorem profile_change (accountId : AccountId) :
    ProfileChange lib config s a accountId (s.accounts accountId)
      ((step lib config s a).accounts accountId) := by
  have heffect := serve_effect lib config s a
  rw [step]
  generalize hout : serve lib config s a = out at heffect ⊢
  cases heffect with
  | registered other user => exact setAccount_change rfl (.registered user) accountId
  | signedIn other i challenge signature reply hrequest hfound hsigned =>
    exact setAccount_change rfl (.signedIn i challenge signature rfl hrequest hfound hsigned) accountId
  | activated other intent reply hfound howner hstatus =>
    exact setAccount_change rfl
      (.activated intent rfl hfound howner hstatus (by rw [step, hout]; rfl)) accountId
  | trust action =>
    exact setAccount_change rfl
      (trust_change (AccountTrust.serve_effect lib config s.clock _ s.trust action)) accountId
  | participation action =>
    exact participation_change
      (Participation.serve_effect lib s.clock s.accounts s.participation action) accountId
  | _ => exact .same

end CreatorFirst.Gateway.Server
