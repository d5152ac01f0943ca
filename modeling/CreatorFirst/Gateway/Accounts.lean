import CreatorFirst.Gateway.Handlers
import Mathlib.Logic.Function.Basic

/-!
# Accounts

What the handlers of the gateway share: the account object of a platform session, the functions of
`viem` and `node:crypto` they call, and the guard that ends a request with an error.
-/

namespace CreatorFirst.Gateway

/-- An identifier is `demo-` with a random UUID, so no colon occurs in it. -/
structure AccountId where
  text : String
  noColon : ':' ∉ text.toList
  deriving DecidableEq

/-- The typed data of EIP-712 that a wallet signs. -/
structure TypedData where
  domainName : String
  domainVersion : String
  chainId : ℕ
  verifyingContract : Option String
  primaryType : String
  types : List (String × String)
  message : List (String × String)
  deriving DecidableEq

/-- What the gateway takes from `viem`, `node:crypto` and the strings of the runtime. `getAddress` gives
the checksummed form of an address and throws on any other text; a signature from which no address can
be recovered throws. The request hash is the digest of an object with the given fields. -/
structure Library where
  getAddress : String → Option String
  recoverMessageAddress : String → String → Option String
  recoverTypedDataAddress : TypedData → String → Option String
  tokenHash : String → String
  requestHash : List (String × String) → String
  toLowerCase : String → String
  normalizeNFKC : String → String

/-- The lifetime of a binding is read as a positive integer. -/
structure ServerConfig extends Config where
  chainId : ℕ
  publicDomain : String
  publicUri : String
  trustBindingTtlMs : ℕ
  trustBindingTtl_pos : 0 < trustBindingTtlMs

/-- What a SIWE message for an invitation names. -/
structure InvitationProof where
  invitationId : String
  roles : ℕ
  consentVersion : String
  deriving DecidableEq

structure DemoUser where
  testUserId : String
  displayName : String
  deriving DecidableEq

/-- The fields of an account object. -/
structure Profile where
  active : Bool := true
  subscriptionActive : Bool := true
  walletAddress : Option String := none
  tiers : List (String × Tier) := []
  demoUser : Option DemoUser := none
  passkeyAuthenticated : Bool := false
  authenticationChallenge : Option String := none
  participantInvitationProof : Option InvitationProof := none
  deriving DecidableEq

/-- What `createPlayback` reads of the account. -/
def Profile.account (profile : Profile) (accountId : AccountId) : Account where
  accountId := accountId.text
  active := profile.active
  subscriptionActive := profile.subscriptionActive
  tiers := profile.tiers

section Guard

/-- End the request with an error unless the condition holds. -/
def requireValue (condition : Prop) [Decidable condition] (status : ℕ) (code message : String) :
    Except Failure Unit :=
  if condition then .ok () else .error (.http status code message)

/-- A value that has to be there. -/
def requireSome {α : Type} (value : Option α) (status : ℕ) (code message : String) : Except Failure α :=
  match value with
  | some a => .ok a
  | none => .error (.http status code message)

variable {α β : Type} {condition : Prop} [Decidable condition] {status : ℕ} {code message : String}

/-- A condition that is required is met if nothing is thrown, whatever the errors are. -/
theorem required_eq_ok {ε : Type} {e : ε} {u : Unit} :
    (if condition then Except.ok () else .error e) = .ok u ↔ condition := by
  split <;> simp_all

/-- A value that is required is there if nothing is thrown, whatever the errors are. -/
theorem found_eq_ok {ε : Type} {e : ε} {value : Option α} {a : α} :
    (match value with
      | some found => Except.ok found
      | none => .error e) = .ok a ↔ value = some a := by
  cases value <;> simp

@[simp]
theorem requireValue_eq_ok {u : Unit} :
    requireValue condition status code message = .ok u ↔ condition :=
  required_eq_ok

@[simp]
theorem requireSome_eq_ok {value : Option α} {a : α} :
    requireSome value status code message = .ok a ↔ value = some a :=
  found_eq_ok

@[simp]
theorem bind_eq_ok {x : Except Failure α} {f : α → Except Failure β} {b : β} :
    (x >>= f) = .ok b ↔ ∃ a, x = .ok a ∧ f a = .ok b := by
  cases x with
  | error e => simp [bind, Except.bind]
  | ok a => simp [bind, Except.bind]

@[simp]
theorem pure_eq_ok {a b : α} : (pure a : Except Failure α) = .ok b ↔ a = b := by
  simp [pure, Except.pure]

@[simp]
theorem throw_eq_ok {e : Failure} {b : β} : ¬(throw e : Except Failure β) = .ok b := by
  simp [throw, throwThe, MonadExceptOf.throw]

end Guard

/-- An idempotency key has between 8 and 160 characters. -/
def validKey (key : String) : Prop := 8 ≤ utf16Length key ∧ utf16Length key ≤ 160

instance (key : String) : Decidable (validKey key) := inferInstanceAs (Decidable (_ ∧ _))

end CreatorFirst.Gateway
