import CreatorFirst.Gateway.LiveBinding

/-!
# Verifying a wallet is atomic

A call of `verifyWallet` that ends in an error leaves the account and the binding as it found them,
whichever check fails and whatever happened while the signature was recovered. The one error that
comes late is that of the index of the active bindings: the row is refused when the wallet has been
written already.
-/

namespace CreatorFirst.Gateway

open Database Process

namespace AccountTrust

section

variable (lib : Library) (config : ServerConfig) (now : Date) (profile : Profile) (t : State)

/-- The account's wallet and everything that is known of the bindings. -/
structure Untouched (o : Outcome) : Prop where
  walletAddress : o.profile.walletAddress = profile.walletAddress
  transactions : o.trust.transactions = t.transactions
  bindings : o.trust.bindings = t.bindings
  audit : o.trust.audit = t.audit

/-- An error leaves no trace. -/
def AtomicOnError (o : Outcome) : Prop :=
  ∀ e, o.reply = some (.error e) → Untouched profile t o

/-- A valid signature is recovered for a binding beside which another one of its owner is active. -/
def RecoversBesideActive (accountId : AccountId) (i : ℕ) : Prop :=
  ∃ held, t.heldWallet accountId i = some held ∧
    walletSigned lib held.intent held.signature = .ok () ∧ t.OtherActive held.transaction.bindingId

variable {lib config now profile t}

theorem atomicOnError_refused (e : Failure) : AtomicOnError profile t (.refused profile t e) :=
  fun _ _ ↦ ⟨rfl, rfl, rfl, rfl⟩

theorem atomicOnError_of_reply {o : Outcome} (h : ∀ e, o.reply ≠ some (.error e)) :
    AtomicOnError profile t o :=
  fun e he ↦ absurd he (h e)

/-- Until it waits, the call writes nothing. -/
theorem verifyWallet_atomic (accountId : AccountId) (bindingId : String)
    (body : Option SignatureBody) :
    AtomicOnError profile t (verifyWallet now profile t accountId bindingId body) := by
  rw [verifyWallet]
  split
  · exact atomicOnError_refused _
  · apply atomicOnError_of_reply
    intro e
    exact Option.some_ne_none _ ∘ Eq.symm

/-- A valid signature leads to the second transition. -/
theorem walletRecovered_of_signed {accountId : AccountId} {i : ℕ} {held : HeldWallet}
    (hsigned : walletSigned lib held.intent held.signature = .ok ()) :
    walletRecovered lib now profile (t.finish accountId i) held =
      activateBinding now { profile with walletAddress := some held.intent.walletAddress }
        (t.walletBound now accountId i held) held.transaction held.intent.walletAddress := by
  simp only [walletRecovered, hsigned]
  rw [transition_eq_moved (by simp)]
  rfl

/-- The outcome when the row of the second transition is refused. -/
theorem walletRecovered_of_otherActive {accountId : AccountId} {i : ℕ} {held : HeldWallet}
    (hsigned : walletSigned lib held.intent held.signature = .ok ())
    (hother : t.OtherActive held.transaction.bindingId) :
    walletRecovered lib now profile (t.finish accountId i) held =
      .refused { profile with walletAddress := some held.intent.walletAddress }
        ((t.walletBound now accountId i held).updateTransaction held.transaction.bindingId
          (Transaction.enter .active now)) .constraint := by
  have hkept : (t.walletBound now accountId i held).OtherActive held.transaction.bindingId :=
    otherActive_moved.mpr hother
  rw [walletRecovered_of_signed hsigned, activateBinding, transition_of_otherActive hkept]

/-- The answer when no row is refused. -/
theorem walletRecovered_of_not_otherActive {accountId : AccountId} {i : ℕ} {held : HeldWallet}
    (hsigned : walletSigned lib held.intent held.signature = .ok ())
    (hother : ¬t.OtherActive held.transaction.bindingId) :
    (walletRecovered lib now profile (t.finish accountId i) held).reply =
      some (.ok (.bound held.transaction.bindingId .active held.intent.walletAddress)) := by
  have hkept : ¬(t.walletBound now accountId i held).OtherActive held.transaction.bindingId :=
    fun h ↦ hother (otherActive_moved.mp h)
  rw [walletRecovered_of_signed hsigned, activateBinding, transition_eq_moved fun h ↦ hkept h.2]

variable (now t) in
/-- The log has grown by the first transition. -/
theorem audit_walletBound (accountId : AccountId) (i : ℕ) (held : HeldWallet) :
    (t.walletBound now accountId i held).audit.length = t.audit.length + 1 := by
  calc (t.walletBound now accountId i held).audit.length
      = (t.finish accountId i).audit.length + 1 := List.length_append
    _ = t.audit.length + 1 := rfl

theorem walletRecovered_atomic_iff (accountId : AccountId) (i : ℕ) :
    AtomicOnError profile t (serve lib config now profile t (.walletRecovered accountId i)) ↔
      ¬RecoversBesideActive lib t accountId i := by
  rw [serve]
  split
  · next held hheld =>
    constructor
    · rintro hatomic ⟨held', hheld', hsigned, hother⟩
      obtain rfl := Option.some.inj (hheld.symm.trans hheld')
      rw [walletRecovered_of_otherActive hsigned hother] at hatomic
      have haudit : (t.walletBound now accountId i held).audit = t.audit :=
        (hatomic .constraint rfl).audit
      have hgrown := audit_walletBound now t accountId i held
      rw [haudit] at hgrown
      exact absurd hgrown (Nat.ne_of_lt (Nat.lt_succ_self _))
    · intro hnot
      cases hsigned : walletSigned lib held.intent held.signature with
      | error e =>
        intro e' _
        simp only [walletRecovered, hsigned]
        exact ⟨rfl, rfl, rfl, rfl⟩
      | ok _ =>
        have hother : ¬t.OtherActive held.transaction.bindingId :=
          fun h ↦ hnot ⟨held, hheld, hsigned, h⟩
        apply atomicOnError_of_reply
        intro e he
        rw [walletRecovered_of_not_otherActive hsigned hother] at he
        cases he
  · next hidle =>
    constructor
    · rintro - ⟨held, hheld, -⟩
      rw [hidle] at hheld
      cases hheld
    · intro _
      exact atomicOnError_of_reply fun e ↦ Option.some_ne_none _ ∘ Eq.symm

/-- In every state, an error of a first part of `verifyWallet` leaves no trace, and one of a second
part does so exactly if the signature was wrong or no other binding of the owner is active. -/
theorem wallet_verification_atomic (lib : Library) (config : ServerConfig) (now : Date)
    (profile : Profile) (t : State) (accountId : AccountId) :
    (∀ bindingId body, AtomicOnError profile t
      (serve lib config now profile t (.verifyWallet accountId bindingId body))) ∧
    ∀ i, AtomicOnError profile t
        (serve lib config now profile t (.walletRecovered accountId i)) ↔
      ¬RecoversBesideActive lib t accountId i :=
  ⟨fun bindingId body ↦ verifyWallet_atomic accountId bindingId body,
    fun i ↦ walletRecovered_atomic_iff accountId i⟩

end

end AccountTrust

namespace Server

namespace Sample

def secondBindingNonce : String :=
  "0x1ea236ffdc038260740b07da48500c730301af9041a40a0ef8146a2c5ae2f602"

/-- The signature of the second wallet under the typed data of the second binding. -/
def overtakingSignature : String :=
  "0x19272b557639bf1cbfceaa47009eaa479e0da71a11a1f2d8ffc76a962e1db70f" ++
    "3fb46feb894462c6a12d9192329f8a0faba6d3c9b27838da7bde986878a34cca1b"

def overtakingLibrary : Library :=
  { library with
    recoverTypedDataAddress := fun _ signature ↦
      [(firstBindingSignature, firstWallet), (overtakingSignature, secondWallet)].lookup signature }

def secondJpkiBody : AccountTrust.JpkiBody where
  csrfToken := some secondBeginDraws.csrfToken
  challenge := some secondBeginDraws.jpkiChallenge
  acknowledgedTestOnly := true
  consentToBinding := true

def secondWalletBody : AccountTrust.WalletBody where
  csrfToken := some secondBeginDraws.csrfToken
  walletAddress := some secondWallet
  chainId := some 80002

/-- The first binding expires while its signature is recovered; meanwhile another one is begun and
becomes active with the other wallet. -/
def superseded : List Action := registration ++ bindWallet ++ [
  .wait 600000,
  .trust (.begin listener secondBeginDraws),
  .trust (.assertMockJpki listener secondBeginDraws.bindingId (some secondJpkiBody)),
  .trust (.registrationOptions listener secondBeginDraws.bindingId
    (some (some secondBeginDraws.csrfToken))),
  .trust (.registrationChallenge listener 3 (some "c2Vjb25kLXJlZ2lzdHJhdGlvbg")),
  .trust (.verifyRegistration listener secondBeginDraws.bindingId
    (some (some secondBeginDraws.csrfToken))),
  .trust (.registrationVerified listener 4 (.verified (passkey "Bm7Qd1sK9w3t"))),
  .trust (.walletOptions listener secondBeginDraws.bindingId (some secondWalletBody)
    secondBindingNonce),
  .trust (.verifyWallet listener secondBeginDraws.bindingId
    (some ⟨some secondBeginDraws.csrfToken, some overtakingSignature⟩)),
  .trust (.walletRecovered listener 5)]

def supersededState : State := run (step overtakingLibrary config) (start clock) superseded

/-- The signature of the first binding is recovered at last. -/
def lateRecovery : AccountTrust.Outcome :=
  AccountTrust.serve overtakingLibrary config supersededState.clock (supersededState.accounts listener)
    supersededState.trust (.walletRecovered listener 2)

end Sample

/-- The late call ends in an error, but the account has the first wallet afterwards and the first
transaction is active. -/
theorem failed_verification_moves_wallet :
    Sample.lateRecovery.reply.map Except.isOk = some false ∧
      (Sample.supersededState.accounts Sample.listener).walletAddress = some Sample.secondWallet ∧
      Sample.lateRecovery.profile.walletAddress = some Sample.firstWallet ∧
      (Sample.supersededState.trust.transactions.find? Sample.beginDraws.bindingId).map (·.state) =
        some .passkeyRegistered ∧
      (Sample.lateRecovery.trust.transactions.find? Sample.beginDraws.bindingId).map (·.state) =
        some .active ∧
      (Sample.lateRecovery.trust.bindings.find? Sample.beginDraws.bindingId).map (·.state) =
        some .walletBound := by
  refine ⟨?_, ?_, ?_, ?_, ?_, ?_⟩ <;> decide +kernel

end Server

end CreatorFirst.Gateway
