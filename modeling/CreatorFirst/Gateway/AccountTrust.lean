import CreatorFirst.Gateway.Accounts
import Mathlib.Data.List.MinMax

/-!
# Account trust

The service that binds an account to a passkey and a wallet. Its handlers are cut at their awaits: a
handler that waits for WebAuthn or for the recovery of a signature holds its transaction, and other
requests run before it goes on. What a handler wrote before it throws stays written.
-/

namespace CreatorFirst.Gateway.AccountTrust

open Database

inductive BindingState where
  | created
  | jpkiAsserted
  | passkeyRegistered
  | walletBound
  | active
  deriving DecidableEq, Repr

def BindingState.text : BindingState → String
  | .created => "CREATED"
  | .jpkiAsserted => "JPKI_ASSERTED"
  | .passkeyRegistered => "PASSKEY_REGISTERED"
  | .walletBound => "WALLET_BOUND"
  | .active => "ACTIVE"

/-- The place of a state in the order of the procedure. -/
def BindingState.rank : BindingState → ℕ
  | .created => 0
  | .jpkiAsserted => 1
  | .passkeyRegistered => 2
  | .walletBound => 3
  | .active => 4

structure WalletIntent where
  typedData : TypedData
  walletAddress : String
  deadline : ℕ
  used : Bool := false
  deriving DecidableEq

/-- A transaction in memory. A new wallet intent takes the place of the one before, which a request that
waits may still hold; so the intents are kept in order, and the last of them is `walletIntent`. -/
structure Transaction where
  bindingId : String
  ownerId : AccountId
  state : BindingState := .created
  csrfToken : String
  jpkiChallenge : Option String
  accountSubjectCommitment : String
  createdAt : Date
  updatedAt : Date
  expiresAt : ℕ
  registrationChallenge : Option String := none
  walletIntents : List WalletIntent := []
  deriving DecidableEq

def Transaction.walletIntent (transaction : Transaction) : Option WalletIntent :=
  transaction.walletIntents.getLast?

/-- A row of `account_trust_bindings`. -/
structure Binding where
  bindingId : String
  ownerId : AccountId
  accountSubjectCommitment : String
  state : BindingState
  passkeyCredentialId : Option String := none
  walletAddress : Option String := none
  createdAt : Date
  updatedAt : Date
  expiresAt : Date
  deriving DecidableEq

structure Credential where
  credentialId : String
  ownerId : AccountId
  publicKey : String
  counter : ℕ
  transports : List String
  deviceType : String
  backedUp : Bool
  createdAt : Date
  deriving DecidableEq

/-- What a transition records beside the state. -/
structure Detail where
  adapter : Option String := none
  walletAddress : Option String := none
  passkeyCredentialId : Option String := none
  deriving DecidableEq

structure AuditEvent where
  bindingId : String
  ownerId : AccountId
  eventType : BindingState
  occurredAt : Date
  detail : Detail := {}
  deriving DecidableEq

/-- A handler that waits, with what it holds; one that waits for the verifier of an authentication with the
challenge and the counter that it has given it. -/
inductive Request where
  | registrationOptions (bindingId : String)
  | verifyRegistration (bindingId : String)
  | authenticationOptions
  | verifyAuthentication (credentialId challenge : String) (counter : ℕ)
  | verifyWallet (bindingId : String) (intent : ℕ) (signature : Option String)
  | ended
  deriving DecidableEq

structure State where
  transactions : Table Transaction.bindingId
  bindings : Table Binding.bindingId
  credentials : Table Credential.credentialId
  audit : List AuditEvent
  requests : AccountId → List Request

def State.empty : State := ⟨.empty, .empty, .empty, [], fun _ ↦ []⟩

inductive Reply where
  | begun (transaction : Transaction) (expiresAt : Date)
  | asserted (bindingId : String) (state : BindingState)
  | options (challenge : String)
  | registered (bindingId : String) (state : BindingState)
  | authenticated
  | walletIntent (bindingId : String) (typedData : TypedData)
  | bound (bindingId : String) (state : BindingState) (walletAddress : String)

section Statements

/-- `SET state = ?, passkey_credential_id = COALESCE(?, …), wallet_address = COALESCE(?, …), …` -/
def Binding.enter (state : BindingState) (detail : Detail) (updatedAt : Date) :
    Table.Rewrite Binding.bindingId where
  apply r :=
    { r with
      state, updatedAt
      passkeyCredentialId := detail.passkeyCredentialId <|> r.passkeyCredentialId
      walletAddress := detail.walletAddress <|> r.walletAddress }
  key_apply _ := rfl

def Transaction.enter (state : BindingState) (updatedAt : Date) :
    Table.Rewrite Transaction.bindingId where
  apply transaction := { transaction with state, updatedAt }
  key_apply _ := rfl

def Transaction.clearJpkiChallenge : Table.Rewrite Transaction.bindingId where
  apply transaction := { transaction with jpkiChallenge := none }
  key_apply _ := rfl

def Transaction.setRegistrationChallenge (challenge : Option String) :
    Table.Rewrite Transaction.bindingId where
  apply transaction := { transaction with registrationChallenge := challenge }
  key_apply _ := rfl

def Transaction.addWalletIntent (intent : WalletIntent) : Table.Rewrite Transaction.bindingId where
  apply transaction := { transaction with walletIntents := transaction.walletIntents ++ [intent] }
  key_apply _ := rfl

def Transaction.useWalletIntent (i : ℕ) : Table.Rewrite Transaction.bindingId where
  apply transaction :=
    { transaction with walletIntents := transaction.walletIntents.modify i ({ · with used := true }) }
  key_apply _ := rfl

def Credential.setCounter (counter : ℕ) : Table.Rewrite Credential.credentialId where
  apply credential := { credential with counter }
  key_apply _ := rfl

variable (t : State)

/-- The owner's binding that was created last. -/
def State.activeTrustBinding (ownerId : AccountId) : Option Binding :=
  (t.bindings.rows.filter fun r ↦ r.ownerId = ownerId).argmax (·.createdAt.ms)

/-- Another binding of the same owner is `ACTIVE`. -/
def State.OtherActive (bindingId : String) : Prop :=
  ∃ r ∈ t.bindings.rows, ∃ other ∈ t.bindings.rows, r.bindingId = bindingId ∧
    other.bindingId ≠ bindingId ∧ other.ownerId = r.ownerId ∧ other.state = .active

instance (bindingId : String) : Decidable (t.OtherActive bindingId) :=
  inferInstanceAs (Decidable (∃ _ ∈ _, ∃ _ ∈ _, _))

/-- The index of the active bindings admits one for each owner. -/
def State.updateTrustBinding (bindingId : String) (state : BindingState) (detail : Detail)
    (updatedAt : Date) : Option (Table Binding.bindingId) :=
  if state = .active ∧ t.OtherActive bindingId then none
  else some (t.bindings.update bindingId (fun _ ↦ True) (Binding.enter state detail updatedAt))

def State.events (bindingId : String) : List BindingState :=
  (t.audit.filter fun e ↦ e.bindingId = bindingId).map (·.eventType)

def State.updateTransaction (bindingId : String) (f : Table.Rewrite Transaction.bindingId) : State :=
  { t with transactions := t.transactions.update bindingId (fun _ ↦ True) f }

/-- The transaction moves in memory first; the statements follow. -/
def State.transition (now : Date) (transaction : Transaction) (state : BindingState) (detail : Detail) :
    Except Failure Unit × State :=
  let moved := t.updateTransaction transaction.bindingId (Transaction.enter state now)
  match moved.updateTrustBinding transaction.bindingId state detail now with
  | none => (.error .constraint, moved)
  | some bindings =>
    let event : AuditEvent :=
      { bindingId := transaction.bindingId, ownerId := transaction.ownerId, eventType := state
        occurredAt := now, detail }
    (.ok (), { moved with bindings, audit := moved.audit ++ [event] })

def State.suspend (accountId : AccountId) (request : Request) : State :=
  { t with requests := Function.update t.requests accountId (t.requests accountId ++ [request]) }

def State.finish (accountId : AccountId) (i : ℕ) : State :=
  { t with requests := Function.update t.requests accountId ((t.requests accountId).set i .ended) }

end Statements

section Checks

variable (t : State) (now : Date) (accountId : AccountId)

/-- `#transaction` -/
def State.transaction (bindingId : String) (expectedState : BindingState) :
    Except Failure Transaction := do
  let transaction ← requireSome
    ((t.transactions.find? bindingId).filter fun transaction ↦ transaction.ownerId = accountId)
    404 "TRUST_BINDING_NOT_FOUND" "Account binding transaction was not found"
  requireValue (now.ms < transaction.expiresAt)
    410 "TRUST_BINDING_EXPIRED" "Account binding transaction expired"
  requireValue (transaction.state = expectedState)
    409 "TRUST_BINDING_STATE_INVALID" ("Account binding must be in " ++ expectedState.text ++ " state")
  return transaction

/-- `#csrf`; a body without fields is `null`. -/
def csrf (transaction : Transaction) (token : Option String) : Except Failure Unit :=
  requireValue (token = some transaction.csrfToken)
    403 "TRUST_CSRF_INVALID" "Account binding CSRF token is invalid"

/-- Reading a field of `null` throws. -/
def fieldsOf {α : Type} : Option α → Except Failure α
  | none => .error .typeError
  | some fields => .ok fields

structure BeginDraws where
  bindingId : String
  csrfToken : String
  jpkiChallenge : String
  accountSubjectCommitment : String

/-- The checks of `begin`. -/
def State.mayBegin (profile : Profile) : Except Failure Unit := do
  requireValue profile.demoUser.isSome
    403 "TEST_USER_REQUIRED" "Register a Test User before account binding"
  match t.activeTrustBinding accountId with
  | none => return
  | some existing =>
    requireValue (existing.state ≠ .active)
      409 "TRUST_BINDING_ALREADY_ACTIVE" "An active binding already exists"
    requireValue (existing.expiresAt.ms ≤ now.ms)
      409 "TRUST_BINDING_IN_PROGRESS" "An account binding transaction is already in progress"

structure JpkiBody where
  csrfToken : Option String
  challenge : Option String
  acknowledgedTestOnly : Bool
  consentToBinding : Bool

/-- The checks of `assertMockJpki`; a challenge that was used is `undefined`, like one that is not sent. -/
def State.mayAssertMockJpki (bindingId : String) (body : Option JpkiBody) :
    Except Failure Transaction := do
  let transaction ← t.transaction now accountId bindingId .created
  let body ← fieldsOf body
  csrf transaction body.csrfToken
  requireValue (body.challenge = transaction.jpkiChallenge)
    401 "MOCK_JPKI_CHALLENGE_INVALID" "Mock JPKI challenge is invalid"
  requireValue (body.acknowledgedTestOnly = true ∧ body.consentToBinding = true)
    400 "MOCK_JPKI_CONSENT_REQUIRED" "Test-only acknowledgement and binding consent are required"
  return transaction

/-- The checks of `registrationOptions`. -/
def State.mayRegister (bindingId : String) (body : Option (Option String)) :
    Except Failure Transaction := do
  let transaction ← t.transaction now accountId bindingId .jpkiAsserted
  csrf transaction (← fieldsOf body)
  return transaction

/-- The checks of `verifyRegistration` before it waits. -/
def State.mayVerifyRegistration (bindingId : String) (body : Option (Option String)) :
    Except Failure Transaction := do
  let transaction ← t.mayRegister now accountId bindingId body
  let _ ← requireSome transaction.registrationChallenge
    409 "PASSKEY_OPTIONS_REQUIRED" "Passkey registration options are required"
  return transaction

structure WalletBody where
  csrfToken : Option String
  walletAddress : Option String
  chainId : Option ℕ

def policyVersion : ℕ := 1

def purpose : String := "CFP_TESTNET_ACCOUNT_WALLET_BINDING"

def walletTypedData (config : ServerConfig) (transaction : Transaction) (walletAddress bindingNonce : String)
    (issuedAt deadline : ℕ) : TypedData where
  domainName := "Creator First Account Trust Demo"
  domainVersion := "1"
  chainId := config.chainId
  verifyingContract := none
  primaryType := "WalletBindingIntent"
  types := [("accountSubjectCommitment", "bytes32"), ("walletAddress", "address"),
    ("chainId", "uint256"), ("bindingNonce", "bytes32"), ("issuedAt", "uint64"), ("deadline", "uint64"),
    ("purpose", "string"), ("policyVersion", "uint32")]
  message := [("accountSubjectCommitment", transaction.accountSubjectCommitment),
    ("walletAddress", walletAddress), ("chainId", toString config.chainId),
    ("bindingNonce", bindingNonce), ("issuedAt", toString issuedAt), ("deadline", toString deadline),
    ("purpose", purpose), ("policyVersion", toString policyVersion)]

/-- The wallet intent that `walletOptions` issues. -/
def State.newWalletIntent (lib : Library) (config : ServerConfig) (profile : Profile) (bindingId : String)
    (body : Option WalletBody) (bindingNonce : String) : Except Failure WalletIntent := do
  let transaction ← t.transaction now accountId bindingId .passkeyRegistered
  let body ← fieldsOf body
  csrf transaction body.csrfToken
  requireValue (profile.passkeyAuthenticated = true)
    401 "PASSKEY_AUTHENTICATION_REQUIRED" "Passkey authentication is required"
  let walletAddress ← requireSome (body.walletAddress.bind lib.getAddress)
    400 "INVALID_WALLET_ADDRESS" "Wallet address is invalid"
  requireValue (body.chainId = some config.chainId)
    400 "CHAIN_NOT_ALLOWED" "Only Polygon Amoy is allowed"
  let issuedAt := now.ms / 1000
  let deadline := issuedAt + 300
  return {
    typedData := walletTypedData config transaction walletAddress bindingNonce issuedAt deadline
    walletAddress, deadline }

structure SignatureBody where
  csrfToken : Option String
  signature : Option String

/-- The checks of `verifyWallet` before it waits; it holds the intent it has found. -/
def State.mayVerifyWallet (bindingId : String) (body : Option SignatureBody) :
    Except Failure (ℕ × Option String) := do
  let transaction ← t.transaction now accountId bindingId .passkeyRegistered
  let body ← fieldsOf body
  csrf transaction body.csrfToken
  let _ ← requireSome (transaction.walletIntent.filter fun intent ↦
      !intent.used && now.ms < 1000 * intent.deadline)
    410 "WALLET_INTENT_EXPIRED" "Wallet binding intent expired"
  return (transaction.walletIntents.length - 1, body.signature)

/-- The signer of the intent is its wallet. -/
def walletSigned (lib : Library) (intent : WalletIntent) (signature : Option String) :
    Except Failure Unit := do
  let recovered ← requireSome (signature.bind (lib.recoverTypedDataAddress intent.typedData))
    401 "WALLET_BINDING_SIGNATURE_INVALID" "Wallet binding signature is invalid"
  match lib.getAddress recovered with
  | none => .error .typeError
  | some signer =>
    requireValue (signer = intent.walletAddress)
      401 "WALLET_BINDING_SIGNER_MISMATCH" "Wallet binding signer does not match"

end Checks

section Held

variable (t : State) (accountId : AccountId) (i : ℕ)

/-- The transaction that a `verifyRegistration` which waits holds. -/
def State.heldRegistration : Option Transaction :=
  match (t.requests accountId)[i]? with
  | some (.verifyRegistration bindingId) => t.transactions.find? bindingId
  | _ => none

structure HeldWallet where
  transaction : Transaction
  index : ℕ
  intent : WalletIntent
  signature : Option String

/-- What a `verifyWallet` that waits holds. -/
def State.heldWallet : Option HeldWallet :=
  match (t.requests accountId)[i]? with
  | some (.verifyWallet bindingId index signature) => do
    let transaction ← t.transactions.find? bindingId
    let intent ← transaction.walletIntents[index]?
    return { transaction, index, intent, signature }
  | _ => none

end Held

/-- What a WebAuthn verifier answers. -/
inductive Verification (α : Type) where
  | threw
  | rejected
  | verified (info : α)

structure RegistrationInfo where
  credentialId : String
  publicKey : String
  counter : ℕ
  transports : List String
  deviceType : String
  backedUp : Bool

/-- A request arrives (its body has been read), or a handler that waits goes on. -/
inductive Action where
  | begin (accountId : AccountId) (draws : BeginDraws)
  | assertMockJpki (accountId : AccountId) (bindingId : String) (body : Option JpkiBody)
  | registrationOptions (accountId : AccountId) (bindingId : String) (body : Option (Option String))
  | registrationChallenge (accountId : AccountId) (request : ℕ) (challenge : Option String)
  | verifyRegistration (accountId : AccountId) (bindingId : String) (body : Option (Option String))
  | registrationVerified (accountId : AccountId) (request : ℕ) (answer : Verification RegistrationInfo)
  | authenticationOptions (accountId : AccountId)
  | authenticationChallenge (accountId : AccountId) (request : ℕ) (challenge : Option String)
  | verifyAuthentication (accountId : AccountId) (credentialId : Option String)
  | authenticationVerified (accountId : AccountId) (request : ℕ) (answer : Verification ℕ)
  | walletOptions (accountId : AccountId) (bindingId : String) (body : Option WalletBody)
      (bindingNonce : String)
  | verifyWallet (accountId : AccountId) (bindingId : String) (body : Option SignatureBody)
  | walletRecovered (accountId : AccountId) (request : ℕ)

def Action.accountId : Action → AccountId
  | .begin accountId _ | .assertMockJpki accountId _ _ | .registrationOptions accountId _ _
  | .registrationChallenge accountId _ _ | .verifyRegistration accountId _ _
  | .registrationVerified accountId _ _ | .authenticationOptions accountId
  | .authenticationChallenge accountId _ _ | .verifyAuthentication accountId _
  | .authenticationVerified accountId _ _ | .walletOptions accountId _ _ _
  | .verifyWallet accountId _ _ | .walletRecovered accountId _ => accountId

/-- How a part of a handler ends: its answer, if it has one, the account and the service. -/
structure Outcome where
  reply : Option (Except Failure Reply)
  profile : Profile
  trust : State

section Handlers

variable (lib : Library) (config : ServerConfig) (now : Date) (profile : Profile) (t : State)
  (accountId : AccountId)

/-- The part of a handler ends in an error and has written nothing. -/
def Outcome.refused (e : Failure) : Outcome := ⟨some (.error e), profile, t⟩

/-- The handler waits. -/
def Outcome.waits (request : Request) : Outcome := ⟨none, profile, t.suspend accountId request⟩

def newTransaction (draws : BeginDraws) : Transaction where
  bindingId := draws.bindingId
  ownerId := accountId
  csrfToken := draws.csrfToken
  jpkiChallenge := some draws.jpkiChallenge
  accountSubjectCommitment := draws.accountSubjectCommitment
  createdAt := now
  updatedAt := now
  expiresAt := now.ms + config.trustBindingTtlMs

def newBinding (draws : BeginDraws) (expiresAt : Date) : Binding where
  bindingId := draws.bindingId
  ownerId := accountId
  accountSubjectCommitment := draws.accountSubjectCommitment
  state := .created
  createdAt := now
  updatedAt := now
  expiresAt := expiresAt

def begin (draws : BeginDraws) : Outcome :=
  match t.mayBegin now accountId profile with
  | .error e => .refused profile t e
  | .ok () =>
    let transaction := newTransaction config now accountId draws
    let opened := { t with transactions := t.transactions.set transaction }
    match Date.toISOString? transaction.expiresAt with
    | none => .refused profile opened .rangeError
    | some expiresAt =>
      match opened.bindings.insert (newBinding now accountId draws expiresAt) with
      | none => .refused profile opened .constraint
      | some bindings =>
        let event : AuditEvent :=
          { bindingId := draws.bindingId, ownerId := accountId, eventType := .created, occurredAt := now }
        ⟨some (.ok (.begun transaction expiresAt)), profile,
          { opened with bindings, audit := opened.audit ++ [event] }⟩

def assertMockJpki (bindingId : String) (body : Option JpkiBody) : Outcome :=
  match t.mayAssertMockJpki now accountId bindingId body with
  | .error e => .refused profile t e
  | .ok transaction =>
    let cleared := t.updateTransaction bindingId Transaction.clearJpkiChallenge
    match cleared.transition now transaction .jpkiAsserted { adapter := some "mock-jpki-v1" } with
    | (.error e, t) => .refused profile t e
    | (.ok (), t) => ⟨some (.ok (.asserted bindingId .jpkiAsserted)), profile, t⟩

def registrationOptions (bindingId : String) (body : Option (Option String)) : Outcome :=
  match t.mayRegister now accountId bindingId body with
  | .error e => .refused profile t e
  | .ok _ => .waits profile t accountId (.registrationOptions bindingId)

/-- The rest of `registrationOptions`; without a challenge the generator has thrown. -/
def registrationChallenge (bindingId : String) (challenge : Option String) : Outcome :=
  match challenge with
  | none => .refused profile t .typeError
  | some challenge =>
    ⟨some (.ok (.options challenge)), profile,
      t.updateTransaction bindingId (Transaction.setRegistrationChallenge (some challenge))⟩

def verifyRegistration (bindingId : String) (body : Option (Option String)) : Outcome :=
  match t.mayVerifyRegistration now accountId bindingId body with
  | .error e => .refused profile t e
  | .ok _ => .waits profile t accountId (.verifyRegistration bindingId)

def newCredential (info : RegistrationInfo) : Credential where
  credentialId := info.credentialId
  ownerId := accountId
  publicKey := info.publicKey
  counter := info.counter
  transports := info.transports
  deviceType := info.deviceType
  backedUp := info.backedUp
  createdAt := now

def invalidRegistration : Failure :=
  .http 401 "PASSKEY_REGISTRATION_INVALID" "Passkey registration could not be verified"

/-- The rest of `verifyRegistration`. The state of the transaction is not checked again. -/
def registrationVerified (transaction : Transaction) (answer : Verification RegistrationInfo) : Outcome :=
  match answer with
  | .threw => .refused profile t invalidRegistration
  | .rejected => .refused profile t invalidRegistration
  | .verified info =>
    match t.credentials.insert (newCredential now accountId info) with
    | none => .refused profile t .constraint
    | some credentials =>
      let stored := { t with credentials }.updateTransaction transaction.bindingId
        (Transaction.setRegistrationChallenge none)
      let profile := { profile with passkeyAuthenticated := true }
      match stored.transition now transaction .passkeyRegistered
          { passkeyCredentialId := some info.credentialId } with
      | (.error e, t) => .refused profile t e
      | (.ok (), t) => ⟨some (.ok (.registered transaction.bindingId .passkeyRegistered)), profile, t⟩

def authenticationOptions : Outcome :=
  if (t.credentials.rows.filter fun c ↦ c.ownerId = accountId) = [] then
    .refused profile t (.http 404 "PASSKEY_NOT_REGISTERED" "No passkey is registered")
  else .waits profile t accountId .authenticationOptions

def authenticationChallenge (challenge : Option String) : Outcome :=
  match challenge with
  | none => .refused profile t .typeError
  | some challenge =>
    ⟨some (.ok (.options challenge)), { profile with authenticationChallenge := some challenge }, t⟩

/-- The challenge and the stored credential that `verifyAuthentication` gives the verifier. -/
def mayVerifyAuthentication (credentialId : Option String) : Except Failure (String × Credential) := do
  let challenge ← requireSome profile.authenticationChallenge
    409 "PASSKEY_OPTIONS_REQUIRED" "Passkey authentication options are required"
  let stored ← requireSome
    ((credentialId.bind t.credentials.find?).filter fun c ↦ c.ownerId = accountId)
    401 "PASSKEY_CREDENTIAL_UNKNOWN" "Passkey credential is unknown"
  return (challenge, stored)

def verifyAuthentication (credentialId : Option String) : Outcome :=
  match mayVerifyAuthentication profile t accountId credentialId with
  | .error e => .refused profile t e
  | .ok (challenge, stored) =>
    .waits profile t accountId (.verifyAuthentication stored.credentialId challenge stored.counter)

def invalidAuthentication : Failure :=
  .http 401 "PASSKEY_AUTHENTICATION_INVALID" "Passkey authentication could not be verified"

/-- The rest of `verifyAuthentication`; the verifier gives the new counter. -/
def authenticationVerified (credentialId : String) (answer : Verification ℕ) : Outcome :=
  match answer with
  | .threw => .refused profile t invalidAuthentication
  | .rejected => .refused profile t invalidAuthentication
  | .verified counter =>
    ⟨some (.ok .authenticated),
      { profile with authenticationChallenge := none, passkeyAuthenticated := true },
      { t with
        credentials := t.credentials.update credentialId (fun _ ↦ True) (Credential.setCounter counter) }⟩

def walletOptions (bindingId : String) (body : Option WalletBody) (bindingNonce : String) : Outcome :=
  match t.newWalletIntent now accountId lib config profile bindingId body bindingNonce with
  | .error e => .refused profile t e
  | .ok intent =>
    ⟨some (.ok (.walletIntent bindingId intent.typedData)), profile,
      t.updateTransaction bindingId (Transaction.addWalletIntent intent)⟩

def verifyWallet (bindingId : String) (body : Option SignatureBody) : Outcome :=
  match t.mayVerifyWallet now accountId bindingId body with
  | .error e => .refused profile t e
  | .ok (intent, signature) => .waits profile t accountId (.verifyWallet bindingId intent signature)

/-- The second transition of `verifyWallet`, and its answer. -/
def activateBinding (transaction : Transaction) (walletAddress : String) : Outcome :=
  match t.transition now transaction .active { walletAddress := some walletAddress } with
  | (.error e, t) => .refused profile t e
  | (.ok (), t) => ⟨some (.ok (.bound transaction.bindingId .active walletAddress)), profile, t⟩

/-- The rest of `verifyWallet`. The state of the transaction is not checked again. -/
def walletRecovered (held : HeldWallet) : Outcome :=
  match walletSigned lib held.intent held.signature with
  | .error e => .refused profile t e
  | .ok () =>
    let wallet := held.intent.walletAddress
    let used := t.updateTransaction held.transaction.bindingId (Transaction.useWalletIntent held.index)
    let profile := { profile with walletAddress := some wallet }
    match used.transition now held.transaction .walletBound { walletAddress := some wallet } with
    | (.error e, t) => .refused profile t e
    | (.ok (), t) => activateBinding now profile t held.transaction wallet

/-- Nothing waits under this number. -/
def Outcome.idle : Outcome := ⟨none, profile, t⟩

/-- One part of a handler; the account is that of the action. -/
def serve : Action → Outcome
  | .begin accountId draws => begin config now profile t accountId draws
  | .assertMockJpki accountId bindingId body => assertMockJpki now profile t accountId bindingId body
  | .registrationOptions accountId bindingId body =>
    registrationOptions now profile t accountId bindingId body
  | .registrationChallenge accountId i challenge =>
    match (t.requests accountId)[i]? with
    | some (.registrationOptions bindingId) =>
      registrationChallenge profile (t.finish accountId i) bindingId challenge
    | _ => .idle profile t
  | .verifyRegistration accountId bindingId body =>
    verifyRegistration now profile t accountId bindingId body
  | .registrationVerified accountId i answer =>
    match t.heldRegistration accountId i with
    | some transaction =>
      registrationVerified now profile (t.finish accountId i) accountId transaction answer
    | none => .idle profile t
  | .authenticationOptions accountId => authenticationOptions profile t accountId
  | .authenticationChallenge accountId i challenge =>
    match (t.requests accountId)[i]? with
    | some .authenticationOptions => authenticationChallenge profile (t.finish accountId i) challenge
    | _ => .idle profile t
  | .verifyAuthentication accountId credentialId =>
    verifyAuthentication profile t accountId credentialId
  | .authenticationVerified accountId i answer =>
    match (t.requests accountId)[i]? with
    | some (.verifyAuthentication credentialId _ _) =>
      authenticationVerified profile (t.finish accountId i) credentialId answer
    | _ => .idle profile t
  | .walletOptions accountId bindingId body bindingNonce =>
    walletOptions lib config now profile t accountId bindingId body bindingNonce
  | .verifyWallet accountId bindingId body => verifyWallet now profile t accountId bindingId body
  | .walletRecovered accountId i =>
    match t.heldWallet accountId i with
    | some held => walletRecovered lib now profile (t.finish accountId i) held
    | none => .idle profile t

end Handlers

end CreatorFirst.Gateway.AccountTrust
