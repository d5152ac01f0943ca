import CreatorFirst.Creators.Operations

/-!
# Runs of the registry of creators

Anyone may call any function. Every call finishes at once, and coins that are sent are rejected.
-/

namespace CreatorFirst.Creators

open Chain Relation

inductive Op where
  | access (op : RoleOp)
  | registerCreator (profileCommitment : Bytes32) (payoutAddress : Address)
  | updateProfileCommitment (newCommitment : Bytes32)
  | updatePayoutAddress (newAddress : Address)
  | setActive (active : Bool)
  | declareRelease (metadataCommitment rightsDeclarationCommitment : Bytes32)
  | withdrawRelease (releaseId : Uint 256)
  | pause
  | unpause
  /-- Coins sent without a call. -/
  | receive

section

variable (P : Primitives) (d : Deployment)

def accessOp (sender : Address) (op : RoleOp) (s : State) : Except Error State := do
  let roles ← (s.roles.apply sender op).mapError .access
  return { s with roles }

def Op.apply (b : Block) (sender : Address) (s : State) : Op → Except Error State
  | .access op => accessOp sender op s
  | .registerCreator profileCommitment payoutAddress =>
    Creators.registerCreator b sender profileCommitment payoutAddress s
  | .updateProfileCommitment newCommitment =>
    Creators.updateProfileCommitment sender newCommitment s
  | .updatePayoutAddress newAddress => Creators.updatePayoutAddress sender newAddress s
  | .setActive active => Creators.setActive sender active s
  | .declareRelease metadataCommitment rightsDeclarationCommitment =>
    Creators.declareRelease b sender metadataCommitment rightsDeclarationCommitment s
  | .withdrawRelease releaseId => Creators.withdrawRelease sender releaseId s
  | .pause => Creators.pause P sender s
  | .unpause => Creators.unpause P sender s
  | .receive => .error .nativeAssetRejected

def Op.payable : Op → Bool
  | .receive => true
  | _ => false

def call (b : Block) (msg : Msg) (op : Op) (s : State) : Except Error (Outcome State Empty) := do
  revertIf (op.payable = false ∧ msg.value ≠ 0) .nonPayable
  let s' ← op.apply P b msg.sender s
  return .done s'

def contract : Contract Msg Op State Empty Error where
  call := call P
  resume := fun _ frame ↦ frame.elim

abbrev CreatorWorld := World Msg Op State Empty
abbrev CreatorTx := Transaction Msg Op

/-- The world in which the registry has just been deployed. -/
def genesis (b : Block) : CreatorWorld := ⟨b, initialState P d, []⟩

/-- Some run from the deployment leads here. -/
def Reachable (w : CreatorWorld) : Prop := ∃ b, (contract P).Reaches (genesis P d b) w

end

end CreatorFirst.Creators
