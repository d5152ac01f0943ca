import CreatorFirst.Creators.Machine

/-!
# Registration times and the early supporter rule

An adapter links the scope of a creator to a record of the registry and reports when that record was
registered. A policy classifies a supporter's registration by the time that the adapter reports. The
policy stores nothing, and the adapter only reads the registry.
-/

namespace CreatorFirst.Registration

open Chain Relation

/-! ## The adapter -/

structure Adapter where
  roles : Roles
  registryVersion : Uint 64
  creatorIdByScope : Bytes32 → Uint 256

inductive AdapterError where
  | access (e : AccessError)
  | nonPayable
  | invalidAddress
  | invalidCreatorScope
  | creatorRegistrationMissing (creatorId : Uint 256)
  deriving DecidableEq

/-- The adapter as its constructor accepted it. -/
structure AdapterDeployment where
  self : Address
  admin : Address
  registry : Address
  admin_ne : admin ≠ 0
  registry_ne : registry ≠ 0

def checkAdapter (admin registry : Address) : Except AdapterError Unit :=
  revertIf (admin = 0 ∨ registry = 0) .invalidAddress

/-- The constructor accepts what a deployment is made of. -/
theorem AdapterDeployment.accepted (d : AdapterDeployment) :
    checkAdapter d.admin d.registry = .ok () := by
  simp [checkAdapter, revertIf_eq_ok, d.admin_ne, d.registry_ne]

def MAPPER_ROLE (P : Primitives) : Bytes32 := P.keccak256 (utf8 "MAPPER_ROLE")

/-- The storage right after construction. -/
def initialAdapter (P : Primitives) (d : AdapterDeployment) : Adapter where
  roles := (Roles.empty.grant Roles.DEFAULT_ADMIN_ROLE d.admin).grant (MAPPER_ROLE P) d.admin
  registryVersion := 1
  creatorIdByScope := fun _ ↦ 0

/-- `creators` is the registry's getter of that name. -/
def linkCreatorScope (P : Primitives) (sender : Address) (creatorScopeId : Bytes32)
    (creatorId : Uint 256) (creators : Uint 256 → Creators.Creator) (s : Adapter) :
    Except AdapterError Adapter := do
  (s.roles.checkRole (MAPPER_ROLE P) sender).mapError .access
  revertIf (creatorScopeId = 0) .invalidCreatorScope
  revertIf ((creators creatorId).registeredAt = 0) (.creatorRegistrationMissing creatorId)
  return { s with
    creatorIdByScope := Function.update s.creatorIdByScope creatorScopeId creatorId }

/-- The time, whether the creator is active, and the version of the registry. -/
def initialRegistration (creatorScopeId : Bytes32) (creators : Uint 256 → Creators.Creator)
    (s : Adapter) : Uint 64 × Bool × Uint 64 :=
  let creatorId := s.creatorIdByScope creatorScopeId
  if creatorId = 0 then (0, false, s.registryVersion)
  else ((creators creatorId).registeredAt, (creators creatorId).active, s.registryVersion)

/-! ## The policy -/

inductive PolicyError where
  | invalidAddress
  | invalidHash
  | invalidCreatorRegistration
  | invalidRegistrationOrder
  deriving DecidableEq

/-- `365 days`. -/
def WINDOW_SECONDS : ℕ := 31536000

/-- What the constructor of the policy keeps. -/
structure Policy where
  creatorRegistration : Address
  cfpContentHash : Bytes32
  specificationHash : Bytes32
  deriving DecidableEq

def Policy.deploy (registrationSource : Address) (approvedCfpContentHash : Bytes32)
    (approvedSpecificationHash : Bytes32) : Except PolicyError Policy := do
  revertIf (registrationSource = 0) .invalidAddress
  revertIf (approvedCfpContentHash = 0 ∨ approvedSpecificationHash = 0) .invalidHash
  return ⟨registrationSource, approvedCfpContentHash, approvedSpecificationHash⟩

/-- `initialRegistration` is the function of that name of the contract that the policy reads. -/
def qualifiesAt (initialRegistration : Bytes32 → Uint 64 × Bool × Uint 64)
    (creatorScopeId : Bytes32) (supporterRegisteredAt : Uint 64) : Except PolicyError Bool := do
  let (creatorRegisteredAt, current, _) := initialRegistration creatorScopeId
  revertIf (current = false ∨ creatorRegisteredAt = 0) .invalidCreatorRegistration
  revertIf (supporterRegisteredAt < creatorRegisteredAt) .invalidRegistrationOrder
  return decide ((supporterRegisteredAt : ℕ) < (creatorRegisteredAt : ℕ) + WINDOW_SECONDS)

def qualifiesNow (b : Block) (initialRegistration : Bytes32 → Uint 64 × Bool × Uint 64)
    (creatorScopeId : Bytes32) : Except PolicyError Bool :=
  qualifiesAt initialRegistration creatorScopeId (Uint.truncate 64 b.timestamp)

/-! ## Both contracts -/

structure System where
  registry : Creators.State
  adapter : Adapter

/-- The registry, the adapter of this registry, and nobody else between them. -/
structure Deployment where
  registry : Creators.Deployment
  adapter : AdapterDeployment
  bound : adapter.registry = registry.self

inductive Error where
  | registry (e : Creators.Error)
  | adapter (e : AdapterError)
  deriving DecidableEq

inductive AdapterOp where
  | access (op : RoleOp)
  | linkCreatorScope (creatorScopeId : Bytes32) (creatorId : Uint 256)

inductive Op where
  | registry (op : Creators.Op)
  | adapter (op : AdapterOp)

section

variable (P : Primitives) (d : Deployment)

def AdapterOp.apply (sender : Address) (s : System) : AdapterOp → Except AdapterError Adapter
  | .access op => do
    let roles ← (s.adapter.roles.apply sender op).mapError .access
    return { s.adapter with roles }
  | .linkCreatorScope creatorScopeId creatorId =>
    Registration.linkCreatorScope P sender creatorScopeId creatorId s.registry.creators s.adapter

/-- No function of the adapter accepts coins. -/
def call (b : Block) (msg : Msg) (s : System) : Op → Except Error (Outcome System Empty)
  | .registry op => do
    let o ← (Creators.call P b msg op s.registry).mapError .registry
    return .done { s with registry := o.state }
  | .adapter op => do
    revertIf (msg.value ≠ 0) (.adapter .nonPayable)
    let adapter ← (op.apply P msg.sender s).mapError .adapter
    return .done { s with adapter }

def contract : Contract Msg Op System Empty Error where
  call b msg op s := call P b msg s op
  resume := fun _ frame ↦ frame.elim

abbrev RegistrationWorld := World Msg Op System Empty
abbrev RegistrationTx := Transaction Msg Op

/-- The world in which both contracts have just been deployed. -/
def genesis (b : Block) : RegistrationWorld :=
  ⟨b, ⟨Creators.initialState P d.registry, initialAdapter P d.adapter⟩, []⟩

/-- What the adapter reports for a scope. -/
def System.reported (s : System) (creatorScopeId : Bytes32) : Uint 64 × Bool × Uint 64 :=
  initialRegistration creatorScopeId s.registry.creators s.adapter

end

end CreatorFirst.Registration
