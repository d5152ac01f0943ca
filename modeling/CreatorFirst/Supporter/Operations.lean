import CreatorFirst.Chain.AccessControl
import CreatorFirst.Chain.Contract
import CreatorFirst.Token.Erc721

/-!
# Supporter credentials

The soulbound token that records who supports which creator, and the adapter through which holders
register themselves. The register of owners and approvals that the contract inherits is a parameter;
its transfer functions and the mint and burn of the source go through the contract's own `_update`.
The contract is modelled behind its proxy once it is initialised and as long as it is not upgraded.
Events are left out.
-/

namespace CreatorFirst.Supporter

open Chain

inductive Tier where
  | none
  | supporter
  | earlySupporter
  deriving DecidableEq

structure EarlyPolicy where
  earlyUntil : Uint 64
  maxEarlySupporters : Uint 32
  earlyIssued : Uint 32
  version : Uint 64
  active : Bool
  deriving DecidableEq

structure Credential where
  creatorId : Bytes32
  tier : Tier
  policyVersion : Uint 64
  issuedAt : Uint 64
  active : Bool
  deriving DecidableEq

def EarlyPolicy.blank : EarlyPolicy := ⟨0, 0, 0, 0, false⟩

def Credential.blank : Credential := ⟨0, .none, 0, 0, false⟩

structure State (T : Erc721 Address (Uint 256)) where
  roles : Roles
  tokens : T.State
  nextTokenId : Uint 256
  supporterMetadataUri : Bytes
  earlyMetadataUri : Bytes
  earlyPolicies : Bytes32 → EarlyPolicy
  credentials : Uint 256 → Credential
  activeTokenOf : Bytes32 → Address → Uint 256
  nonces : Address → Uint 256

inductive Error where
  | access (e : AccessError)
  | arithmeticPanic
  | nonPayable
  | foreignSender
  | ecdsaInvalidSignature
  | erc721InvalidReceiver (receiver : Address)
  | erc721InvalidSender
  | erc721NonexistentToken (tokenId : Uint 256)
  | erc721IncorrectOwner (owner : Address) (tokenId : Uint 256) (previousOwner : Address)
  | erc721Unauthorized
  | invalidAddress
  | invalidCreator
  | invalidPolicy
  | signatureExpired (deadline : Uint 256)
  | invalidNonce (expected provided : Uint 256)
  | invalidSignature (recovered holder : Address)
  | credentialAlreadyActive (creatorId : Bytes32) (holder : Address)
  | credentialNotActive (tokenId : Uint 256)
  | soulbound
  | deadlineTooFar (deadline : Uint 256)
  deriving DecidableEq

/-- The initialised proxy and the adapter, each at its own address. -/
structure Deployment where
  self : Address
  adapter : Address
  admin : Address
  policyManager : Address
  relayer : Address
  revoker : Address
  upgrader : Address
  supporterMetadataUri : Bytes
  earlyMetadataUri : Bytes
  self_ne : self ≠ 0
  admin_ne : admin ≠ 0
  policyManager_ne : policyManager ≠ 0
  relayer_ne : relayer ≠ 0
  revoker_ne : revoker ≠ 0
  upgrader_ne : upgrader ≠ 0

/-- The checks of `initialize` and of the adapter's constructor. -/
def checkDeployment (self admin policyManager relayer revoker upgrader : Address) :
    Except Error Unit :=
  revertIf (admin = 0 ∨ policyManager = 0 ∨ relayer = 0 ∨ revoker = 0 ∨ upgrader = 0 ∨ self = 0)
    .invalidAddress

/-- Both checks accept what a deployment is made of. -/
theorem Deployment.accepted (d : Deployment) :
    checkDeployment d.self d.admin d.policyManager d.relayer d.revoker d.upgrader = .ok () := by
  simp [checkDeployment, revertIf_eq_ok, d.self_ne, d.admin_ne, d.policyManager_ne, d.relayer_ne,
    d.revoker_ne, d.upgrader_ne]

/-- What a holder signs to become a supporter of a creator. -/
structure SupportIntent where
  creatorId : Bytes32
  holder : Address
  nonce : Uint 256
  deadline : Uint 256
  consentVersion : Bytes32
  deriving DecidableEq

/-- The receiver that a transfer asks whether it accepts the token. -/
structure ReceiverCall where
  receiver : Address
  tokenId : Uint 256
  deriving DecidableEq

def POLICY_ROLE (P : Primitives) : Bytes32 := P.keccak256 (utf8 "POLICY_ROLE")
def RELAYER_ROLE (P : Primitives) : Bytes32 := P.keccak256 (utf8 "RELAYER_ROLE")
def REVOKER_ROLE (P : Primitives) : Bytes32 := P.keccak256 (utf8 "REVOKER_ROLE")
def UPGRADER_ROLE (P : Primitives) : Bytes32 := P.keccak256 (utf8 "UPGRADER_ROLE")
def METADATA_ROLE (P : Primitives) : Bytes32 := P.keccak256 (utf8 "METADATA_ROLE")

/-- The storage of the proxy right after `initialize`. -/
def initialState (P : Primitives) (T : Erc721 Address (Uint 256)) (d : Deployment) : State T where
  roles := (((((Roles.empty.grant Roles.DEFAULT_ADMIN_ROLE d.admin).grant
    (POLICY_ROLE P) d.policyManager).grant (RELAYER_ROLE P) d.relayer).grant
    (REVOKER_ROLE P) d.revoker).grant (UPGRADER_ROLE P) d.upgrader).grant (METADATA_ROLE P) d.admin
  tokens := T.initial
  nextTokenId := 1
  supporterMetadataUri := d.supporterMetadataUri
  earlyMetadataUri := d.earlyMetadataUri
  earlyPolicies := fun _ ↦ .blank
  credentials := fun _ ↦ .blank
  activeTokenOf := fun _ _ ↦ 0
  nonces := fun _ ↦ 0

section

variable (P : Primitives) {T : Erc721 Address (Uint 256)} (d : Deployment) (b : Block)
  (sender : Address)

def onlyRole (role : Bytes32) (s : State T) : Except Error Unit :=
  revertIf (s.roles role sender = false) (.access (.unauthorizedAccount sender role))

/-! ## Ownership -/

/-- The owner of a token that exists. -/
def ownerOf (tokenId : Uint 256) (s : State T) : Except Error Address := do
  let owner := T.ownerOf s.tokens tokenId
  revertIf (owner = 0) (.erc721NonexistentToken tokenId)
  return owner

/-- A call of the inherited register that reverts when the register refuses it. -/
def inherited (r : Option T.State) (s : State T) : Except Error (State T) :=
  r.elim (.error .erc721Unauthorized) fun tokens ↦ .ok { s with tokens }

/-- The contract's `_update`; it returns the previous owner. -/
def update (recipient : Address) (tokenId : Uint 256) (auth : Address) (s : State T) :
    Except Error (Address × State T) := do
  let previousOwner := T.ownerOf s.tokens tokenId
  revertIf (previousOwner ≠ 0 ∧ recipient ≠ 0) .soulbound
  let s ← inherited (T.update recipient tokenId auth s.tokens) s
  return (previousOwner, s)

def mint (recipient : Address) (tokenId : Uint 256) (s : State T) : Except Error (State T) := do
  revertIf (recipient = 0) (.erc721InvalidReceiver 0)
  let (previousOwner, s) ← update recipient tokenId 0 s
  revertIf (previousOwner ≠ 0) .erc721InvalidSender
  return s

def burnToken (tokenId : Uint 256) (s : State T) : Except Error (State T) := do
  let (previousOwner, s) ← update 0 tokenId 0 s
  revertIf (previousOwner = 0) (.erc721NonexistentToken tokenId)
  return s

def transferFrom (owner recipient : Address) (tokenId : Uint 256) (s : State T) :
    Except Error (State T) := do
  revertIf (recipient = 0) (.erc721InvalidReceiver 0)
  let (previousOwner, s) ← update recipient tokenId sender s
  revertIf (previousOwner ≠ owner) (.erc721IncorrectOwner owner tokenId previousOwner)
  return s

/-- The transfer, and then the question to the recipient. -/
def safeTransferFrom (owner recipient : Address) (tokenId : Uint 256) (s : State T) :
    Except Error (Outcome (State T) ReceiverCall) := do
  let s ← transferFrom sender owner recipient tokenId s
  return .callout s ⟨recipient, tokenId⟩

def approve (recipient : Address) (tokenId : Uint 256) (s : State T) : Except Error (State T) :=
  inherited (T.approve sender recipient tokenId s.tokens) s

def setApprovalForAll (operator : Address) (approved : Bool) (s : State T) :
    Except Error (State T) :=
  inherited (T.setApprovalForAll sender operator approved s.tokens) s

/-- A recipient without code is not asked; it answers nothing and the call goes on. -/
def checkOnERC721Received (call : ReceiverCall) (accepted : Bool) (s : State T) :
    Except Error (State T) := do
  revertIf (accepted = false) (.erc721InvalidReceiver call.receiver)
  return s

/-! ## Policies -/

def setEarlyPolicy (creatorId : Bytes32) (earlyUntil : Uint 64) (maxEarlySupporters : Uint 32)
    (active : Bool) (s : State T) : Except Error (State T) := do
  onlyRole sender (POLICY_ROLE P) s
  revertIf (creatorId = 0) .invalidCreator
  revertIf (active = true ∧ ((earlyUntil : ℕ) ≤ b.timestamp ∨ maxEarlySupporters = 0))
    .invalidPolicy
  let policy := s.earlyPolicies creatorId
  let version ← Uint.increment .arithmeticPanic policy.version
  return { s with
    earlyPolicies := Function.update s.earlyPolicies creatorId
      { policy with earlyUntil, maxEarlySupporters, version, active } }

/-! ## Registration -/

def SUPPORT_INTENT_TYPEHASH : Bytes32 :=
  P.keccak256 (utf8 ("SupportIntent(bytes32 creatorId,address holder,uint256 nonce," ++
    "uint256 deadline,bytes32 consentVersion)"))

/-- The typed-data domain of this contract on the chain of the current block. -/
def domainSeparator : Bytes32 :=
  P.keccak256 (abiEncode
    [P.keccak256 (utf8 ("EIP712Domain(string name,string version,uint256 chainId," ++
      "address verifyingContract)")),
     P.keccak256 (utf8 "Creator First Supporter SBT"), P.keccak256 (utf8 "1"),
     b.chainId, d.self])

def hashTypedDataV4 (structHash : Bytes32) : Bytes32 :=
  P.keccak256 ([0x19, 0x01] ++ bigEndian 32 (domainSeparator P d b) ++ bigEndian 32 structHash)

def SupportIntent.digest (v : SupportIntent) : Bytes32 :=
  hashTypedDataV4 P d b (P.keccak256 (abiEncode
    [SUPPORT_INTENT_TYPEHASH P, v.creatorId, v.holder, v.nonce, v.deadline, v.consentVersion]))

/-- A slot of the policy is open at the time of the block. -/
def isEarly (policy : EarlyPolicy) : Bool :=
  policy.active && decide (b.timestamp ≤ (policy.earlyUntil : ℕ)) &&
    decide ((policy.earlyIssued : ℕ) < policy.maxEarlySupporters)

/-- An early registration takes one slot. -/
def countIssued (policy : EarlyPolicy) : Except Error (Uint 32) :=
  if isEarly b policy then Uint.increment .arithmeticPanic policy.earlyIssued
  else .ok policy.earlyIssued

def registerSupporterWithSignature (v : SupportIntent) (signature : Bytes) (s : State T) :
    Except Error (Outcome (State T) ReceiverCall) := do
  onlyRole sender (RELAYER_ROLE P) s
  revertIf (v.creatorId = 0) .invalidCreator
  revertIf (v.holder = 0) .invalidAddress
  revertIf ((v.deadline : ℕ) < b.timestamp) (.signatureExpired v.deadline)
  let expectedNonce := s.nonces v.holder
  revertIf (v.nonce ≠ expectedNonce) (.invalidNonce expectedNonce v.nonce)
  revertIf (s.activeTokenOf v.creatorId v.holder ≠ 0)
    (.credentialAlreadyActive v.creatorId v.holder)
  let recovered ← (P.recover (v.digest P d b) signature).elim (.error .ecdsaInvalidSignature) .ok
  revertIf (recovered ≠ v.holder) (.invalidSignature recovered v.holder)
  let nextNonce ← Uint.increment .arithmeticPanic expectedNonce
  let policy := s.earlyPolicies v.creatorId
  let tier := if isEarly b policy then Tier.earlySupporter else Tier.supporter
  let earlyIssued ← countIssued b policy
  let tokenId := s.nextTokenId
  let nextTokenId ← Uint.increment .arithmeticPanic s.nextTokenId
  let s :=
    { s with
      nonces := Function.update s.nonces v.holder nextNonce
      earlyPolicies := Function.update s.earlyPolicies v.creatorId { policy with earlyIssued }
      nextTokenId
      credentials := Function.update s.credentials tokenId
        { creatorId := v.creatorId, tier, policyVersion := policy.version,
          issuedAt := Uint.truncate 64 b.timestamp, active := true }
      activeTokenOf := update₂ s.activeTokenOf v.creatorId v.holder tokenId }
  let s ← mint v.holder tokenId s
  return .callout s ⟨v.holder, tokenId⟩

/-- The adapter's entry point: it forwards the caller's own intent. -/
def registerSelf (creatorId : Bytes32) (nonce deadline : Uint 256) (consentVersion : Bytes32)
    (signature : Bytes) (s : State T) : Except Error (Outcome (State T) ReceiverCall) := do
  let latest : Uint 256 ← Uint.fit .arithmeticPanic (b.timestamp + 900)
  revertIf (latest < deadline) (.deadlineTooFar deadline)
  registerSupporterWithSignature P d b d.adapter
    { creatorId, holder := sender, nonce, deadline, consentVersion } signature s

/-! ## Revocation and burning -/

def revoke (tokenId : Uint 256) (s : State T) : Except Error (State T) := do
  onlyRole sender (REVOKER_ROLE P) s
  let credential := s.credentials tokenId
  revertIf (credential.active = false) (.credentialNotActive tokenId)
  let holder ← ownerOf tokenId s
  return { s with
    credentials := Function.update s.credentials tokenId { credential with active := false }
    activeTokenOf := update₂ s.activeTokenOf credential.creatorId holder 0 }

def burn (tokenId : Uint 256) (s : State T) : Except Error (State T) := do
  let holder ← ownerOf tokenId s
  revertIf (sender ≠ holder ∧ s.roles (REVOKER_ROLE P) sender = false) .invalidAddress
  let credential := s.credentials tokenId
  let s :=
    if credential.active then
      { s with
        credentials := Function.update s.credentials tokenId { credential with active := false }
        activeTokenOf := update₂ s.activeTokenOf credential.creatorId holder 0 }
    else s
  burnToken tokenId s

/-! ## Views and metadata -/

def getSupporterTier (creatorId : Bytes32) (holder : Address) (s : State T) : Tier :=
  let tokenId := s.activeTokenOf creatorId holder
  if tokenId = 0 then .none else (s.credentials tokenId).tier

def setMetadataUris (supporterMetadataUri earlyMetadataUri : Bytes) (s : State T) :
    Except Error (State T) := do
  onlyRole sender (METADATA_ROLE P) s
  return { s with supporterMetadataUri, earlyMetadataUri }

def tokenURI (tokenId : Uint 256) (s : State T) : Except Error Bytes := do
  let _ ← ownerOf tokenId s
  return if (s.credentials tokenId).tier = .earlySupporter then s.earlyMetadataUri
    else s.supporterMetadataUri

end

end CreatorFirst.Supporter
