import CreatorFirst.Participants.Operations

/-!
# Runs of the registry

Anyone may call the registry, also while the distributor that it has asked is at work and whatever
that distributor calls. No call comes from the registry's own address, since it calls nobody but the
distributor.
-/

namespace CreatorFirst.Participants

open Chain Relation

inductive Op where
  | access (op : RoleOp)
  | approveClaimedInvitation (participantId : Bytes32) (wallet : Address) (approvedRoles : Uint 8)
      (approvalExpiresAt : Uint 64)
  | fundInitial (participantId operationId : Bytes32)
  | registerSelf (role : Uint 8) (consentVersion : Bytes32)
  | setParticipantActive (participantId : Bytes32) (active : Bool)
  | pause
  | unpause

section

variable (P : Primitives) (d : Deployment)

def accessOp (sender : Address) (op : RoleOp) (s : State) : Except Error State := do
  let roles ← (s.roles.apply sender op).mapError .access
  return { s with roles }

/-- An operation that calls nobody. -/
def finish (r : Except Error State) : Except Error (Outcome State Funding) := do
  let s ← r
  return .done s

def Op.apply (b : Block) (sender : Address) (s : State) : Op → Except Error (Outcome State Funding)
  | .access op => finish (accessOp sender op s)
  | .approveClaimedInvitation participantId wallet approvedRoles approvalExpiresAt =>
    finish (Participants.approveClaimedInvitation P b sender participantId wallet approvedRoles
      approvalExpiresAt s)
  | .fundInitial participantId operationId =>
    Participants.fundInitial P b sender participantId operationId s
  | .registerSelf role consentVersion =>
    finish (Participants.registerSelf b sender role consentVersion s)
  | .setParticipantActive participantId active =>
    finish (Participants.setParticipantActive P sender participantId active s)
  | .pause => finish (Participants.pause P sender s)
  | .unpause => finish (Participants.unpause P sender s)

def call (b : Block) (msg : Msg) (op : Op) (s : State) : Except Error (Outcome State Funding) := do
  revertIf (msg.sender = d.self) .foreignSender
  revertIf (msg.value ≠ 0) .nonPayable
  op.apply P b msg.sender s

def contract : Contract Msg Op State Funding Error where
  call := call P d
  resume := fun _ funding success s ↦ afterFunding funding success s

abbrev RegistryWorld := World Msg Op State Funding
abbrev RegistryMoment := Contract.Moment Msg Op State Funding
abbrev RegistryTx := Transaction Msg Op

/-- The world in which the registry has just been deployed. -/
def genesis (b : Block) : RegistryWorld := ⟨b, initialState P d, []⟩

/-- A moment of some run from the deployment, with the fundings that are under way. -/
def Observable (m : RegistryMoment) : Prop :=
  ∃ b, ReflTransGen (contract P d).Next ⟨genesis P d b, []⟩ m

/-- Some run from the deployment leads here. -/
def Reachable (w : RegistryWorld) : Prop := ∃ b, (contract P d).Reaches (genesis P d b) w

variable {P d}

theorem Reachable.observable {w : RegistryWorld} (h : Reachable P d w) :
    Observable P d ⟨w, []⟩ := by
  obtain ⟨b, hb⟩ := h
  exact ⟨b, hb.next⟩

end

end CreatorFirst.Participants
