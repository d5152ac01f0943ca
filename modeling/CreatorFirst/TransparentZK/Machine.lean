import CreatorFirst.Chain.AccessControl
import CreatorFirst.Chain.Contract

/-!
# The registry of transparent proofs

Profiles name a verifier and a program. Anyone may have a proof checked by the verifier of an active
profile, which leaves a receipt. Verifiers are other contracts, which the registry calls without letting
them write; so a call carries what the contracts at the addresses answer at that moment. Events are left
out.
-/

namespace CreatorFirst.TransparentZK

open Chain

/-- What a contract answers as a verifier; `none` where it reverts or has no such function. -/
structure Verifier where
  verifyProof : Bytes32 → Bytes32 → Bytes → Option Bool
  verifierType : Option Bytes32
  isTestnetMock : Option Bool

/-- No contract. -/
def Verifier.missing : Verifier := ⟨fun _ _ _ ↦ none, none, none⟩

/-- A message call and the contracts that it finds at the addresses. -/
structure Call extends Msg where
  verifiers : Address → Verifier

/-- The mock that stands in for a verifier on the testnet. -/
def mockVerifier (P : Primitives) : Verifier where
  verifyProof programHash publicInputsHash proof :=
    let domain := P.keccak256 (utf8 "CFP_TRANSPARENT_ZK_TESTNET_MOCK_V1")
    let expectedDigest := P.keccak256 (abiEncode [domain, programHash, publicInputsHash])
    some (proof.length = 32 ∧ ofBigEndian proof = (expectedDigest : ℕ))
  verifierType := some (P.keccak256 (utf8 "TESTNET_MOCK_NOT_CRYPTOGRAPHIC_ZK"))
  isTestnetMock := some true

structure VerifierProfile where
  verifier : Address
  programHash : Bytes32
  verifierType : Bytes32
  registeredAt : Uint 64
  active : Bool
  testnetMock : Bool
  deriving DecidableEq

def VerifierProfile.blank : VerifierProfile := ⟨0, 0, 0, 0, false, false⟩

structure VerificationReceipt where
  profileId : Bytes32
  publicInputsHash : Bytes32
  proofHash : Bytes32
  submitter : Address
  verifiedAt : Uint 64
  deriving DecidableEq

def VerificationReceipt.blank : VerificationReceipt := ⟨0, 0, 0, 0, 0⟩

structure State where
  roles : Roles
  paused : Bool
  verifierProfiles : Bytes32 → VerifierProfile
  receipts : Bytes32 → VerificationReceipt

inductive Error where
  | access (e : AccessError)
  | nonPayable
  | enforcedPause
  | expectedPause
  | invalidAddress
  | invalidIdentifier
  | profileAlreadyExists (profileId : Bytes32)
  | profileNotActive (profileId : Bytes32)
  | productionVerifierRejected (verifier : Address)
  | receiptAlreadyExists (receiptId : Bytes32)
  | mockProofRejected (profileId : Bytes32)
  | nativeAssetRejected
  /-- A call of a verifier failed. -/
  | callFailed (verifier : Address)
  deriving DecidableEq

/-- The registry as its constructor accepted it. -/
structure Deployment where
  self : Address
  admin : Address
  policyManager : Address
  pauser : Address
  admin_ne : admin ≠ 0
  policyManager_ne : policyManager ≠ 0
  pauser_ne : pauser ≠ 0

/-- The checks of the constructor. -/
def checkDeployment (admin policyManager pauser : Address) : Except Error Unit :=
  revertIf (admin = 0 ∨ policyManager = 0 ∨ pauser = 0) .invalidAddress

/-- The constructor accepts what a deployment is made of. -/
theorem Deployment.accepted (d : Deployment) :
    checkDeployment d.admin d.policyManager d.pauser = .ok () := by
  simp [checkDeployment, revertIf_eq_ok, d.admin_ne, d.policyManager_ne, d.pauser_ne]

def POLICY_ROLE (P : Primitives) : Bytes32 := P.keccak256 (utf8 "POLICY_ROLE")

def PAUSER_ROLE (P : Primitives) : Bytes32 := P.keccak256 (utf8 "PAUSER_ROLE")

/-- The storage right after construction. -/
def initialState (P : Primitives) (d : Deployment) : State where
  roles := ((Roles.empty.grant Roles.DEFAULT_ADMIN_ROLE d.admin).grant (POLICY_ROLE P)
    d.policyManager).grant (PAUSER_ROLE P) d.pauser
  paused := false
  verifierProfiles := fun _ ↦ .blank
  receipts := fun _ ↦ .blank

section

variable (P : Primitives) (d : Deployment) (b : Block) (msg : Call)

def onlyRole (role : Bytes32) (s : State) : Except Error Unit :=
  revertIf (s.roles role msg.sender = false) (.access (.unauthorizedAccount msg.sender role))

/-- The answer of a verifier; without one the call reverts. -/
def answer {α : Type} (verifier : Address) : Option α → Except Error α
  | none => .error (.callFailed verifier)
  | some a => .ok a

def registerMockProfile (profileId : Bytes32) (verifier : Address) (programHash : Bytes32)
    (s : State) : Except Error State := do
  onlyRole msg (POLICY_ROLE P) s
  revertIf (profileId = 0 ∨ programHash = 0) .invalidIdentifier
  revertIf (verifier = 0) .invalidAddress
  revertIf ((s.verifierProfiles profileId).verifier ≠ 0) (.profileAlreadyExists profileId)
  let candidate := msg.verifiers verifier
  let isTestnetMock ← answer verifier candidate.isTestnetMock
  revertIf (isTestnetMock = false) (.productionVerifierRejected verifier)
  let verifierType ← answer verifier candidate.verifierType
  return { s with
    verifierProfiles := Function.update s.verifierProfiles profileId
      { verifier, programHash, verifierType, registeredAt := Uint.truncate 64 b.timestamp,
        active := true, testnetMock := true } }

def deprecateProfile (profileId : Bytes32) (s : State) : Except Error State := do
  onlyRole msg (POLICY_ROLE P) s
  let profile := s.verifierProfiles profileId
  revertIf (profile.active = false) (.profileNotActive profileId)
  return { s with
    verifierProfiles :=
      Function.update s.verifierProfiles profileId { profile with active := false } }

/-- What identifies a receipt, encoded. -/
def receiptPreimage (chainId : ℕ) (profileId externalStatementId publicInputsHash : Bytes32) : Bytes :=
  abiEncode [chainId, d.self, profileId, externalStatementId, publicInputsHash]

def receiptId (chainId : ℕ) (profileId externalStatementId publicInputsHash : Bytes32) : Bytes32 :=
  P.keccak256 (receiptPreimage d chainId profileId externalStatementId publicInputsHash)

def verifyAndRecord (profileId externalStatementId publicInputsHash : Bytes32) (proof : Bytes)
    (s : State) : Except Error (Bytes32 × State) := do
  revertIf s.paused .enforcedPause
  revertIf (externalStatementId = 0 ∨ publicInputsHash = 0) .invalidIdentifier
  let profile := s.verifierProfiles profileId
  revertIf (profile.active = false) (.profileNotActive profileId)
  let receiptId := receiptId P d b.chainId profileId externalStatementId publicInputsHash
  revertIf ((s.receipts receiptId).verifiedAt ≠ 0) (.receiptAlreadyExists receiptId)
  let accepted ← answer profile.verifier
    ((msg.verifiers profile.verifier).verifyProof profile.programHash publicInputsHash proof)
  revertIf (accepted = false) (.mockProofRejected profileId)
  let proofHash := P.keccak256 proof
  return (receiptId, { s with
    receipts := Function.update s.receipts receiptId
      { profileId, publicInputsHash, proofHash, submitter := msg.sender,
        verifiedAt := Uint.truncate 64 b.timestamp } })

def pause (s : State) : Except Error State := do
  onlyRole msg (PAUSER_ROLE P) s
  revertIf s.paused .enforcedPause
  return { s with paused := true }

def unpause (s : State) : Except Error State := do
  onlyRole msg (PAUSER_ROLE P) s
  revertIf (s.paused = false) .expectedPause
  return { s with paused := false }

end

/-! ## Runs -/

inductive Op where
  | access (op : RoleOp)
  | registerMockProfile (profileId : Bytes32) (verifier : Address) (programHash : Bytes32)
  | deprecateProfile (profileId : Bytes32)
  | verifyAndRecord (profileId externalStatementId publicInputsHash : Bytes32) (proof : Bytes)
  | pause
  | unpause
  /-- Coins sent without a call. -/
  | receive

section

variable (P : Primitives) (d : Deployment)

def accessOp (sender : Address) (op : RoleOp) (s : State) : Except Error State := do
  let roles ← (s.roles.apply sender op).mapError .access
  return { s with roles }

def Op.apply (b : Block) (msg : Call) (s : State) : Op → Except Error State
  | .access op => accessOp msg.sender op s
  | .registerMockProfile profileId verifier programHash =>
    TransparentZK.registerMockProfile P b msg profileId verifier programHash s
  | .deprecateProfile profileId => TransparentZK.deprecateProfile P msg profileId s
  | .verifyAndRecord profileId externalStatementId publicInputsHash proof =>
    (·.2) <$> TransparentZK.verifyAndRecord P d b msg profileId externalStatementId publicInputsHash
      proof s
  | .pause => TransparentZK.pause P msg s
  | .unpause => TransparentZK.unpause P msg s
  | .receive => .error .nativeAssetRejected

def Op.payable : Op → Bool
  | .receive => true
  | _ => false

def call (b : Block) (msg : Call) (op : Op) (s : State) : Except Error (Outcome State Empty) := do
  revertIf (op.payable = false ∧ msg.value ≠ 0) .nonPayable
  let s' ← op.apply P d b msg s
  return .done s'

def contract : Contract Call Op State Empty Error where
  call := call P d
  resume := fun _ frame ↦ frame.elim

abbrev ZKWorld := World Call Op State Empty
abbrev ZKEntry := Entry Call Op State Empty
abbrev ZKTx := Transaction Call Op

/-- The world in which the registry has just been deployed. -/
def genesis (b : Block) : ZKWorld := ⟨b, initialState P d, []⟩

end

end CreatorFirst.TransparentZK
