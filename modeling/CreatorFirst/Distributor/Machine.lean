import CreatorFirst.Distributor.Operations

/-!
# Runs of the distributor

Anyone may call the distributor, also from inside a payment, and pay it at any time. Elsewhere on the
chain coins move as they like, except that nobody but the distributor takes coins from it. Block
times are positive.
-/

namespace CreatorFirst.Distributor

open Chain

inductive Op where
  | access (op : RoleOp)
  | registerAndTopUp (participantId : Bytes32) (wallet : Address) (operationId : Bytes32)
  | topUp (participantId : Bytes32) (wallet : Address) (targetBalance : Uint 256)
      (operationId : Bytes32)
  | setParticipantActive (participantId : Bytes32) (active : Bool)
  | pause
  | unpause
  | emergencyWithdraw (recipient : Address) (amount : Uint 256)
  | receive
  /-- The balances after anything that happened elsewhere on the chain. -/
  | elsewhere (balances : Address → ℕ)

section

variable (P : Primitives) (d : Deployment)

def accessOp (sender : Address) (op : RoleOp) (s : State) : Except Error State := do
  let roles ← (s.roles.apply sender op).mapError .access
  return { s with roles }

/-- An operation that pays nobody. -/
def finish (r : Except Error State) : Except Error (Outcome State Payout) := do
  let s ← r
  return .done s

def elsewhere (balances : Address → ℕ) (s : State) : Except Error State := do
  revertIf (balances d.self < s.balances d.self) .notCovered
  return { s with balances }

def Op.payable : Op → Bool
  | .receive => true
  | _ => false

def Op.apply (b : Block) (msg : Msg) (s : State) : Op → Except Error (Outcome State Payout)
  | .access op => finish (accessOp msg.sender op s)
  | .registerAndTopUp participantId wallet operationId =>
    Distributor.registerAndTopUp P d b msg.sender participantId wallet operationId s
  | .topUp participantId wallet targetBalance operationId =>
    Distributor.topUp P d b msg.sender participantId wallet targetBalance operationId s
  | .setParticipantActive participantId active =>
    finish (Distributor.setParticipantActive P msg.sender participantId active s)
  | .pause => finish (Distributor.pause P msg.sender s)
  | .unpause => finish (Distributor.unpause P msg.sender s)
  | .emergencyWithdraw recipient amount =>
    Distributor.emergencyWithdraw d msg.sender recipient amount s
  | .receive => finish (Distributor.receive d msg.sender msg.value s)
  | .elsewhere balances => finish (Distributor.elsewhere d balances s)

def call (b : Block) (msg : Msg) (op : Op) (s : State) : Except Error (Outcome State Payout) := do
  revertIf (msg.sender = d.self) .foreignSender
  revertIf (op.payable = false ∧ msg.value ≠ 0) .nonPayable
  op.apply P d b msg s

def contract : Contract Msg Op State Payout Error where
  call := call P d
  resume := fun _ payout success s ↦ afterPayout payout success s

abbrev DistributorWorld := World Msg Op State Payout
abbrev DistributorEntry := Entry Msg Op State Payout
abbrev DistributorTx := Transaction Msg Op

/-- The world in which the distributor has just been deployed. -/
def genesis (b : Block) (balances : Address → ℕ) : DistributorWorld :=
  ⟨b, initialState P d balances, []⟩

/-- Some run from a deployment leads here. -/
def Reachable (w : DistributorWorld) : Prop :=
  ∃ b balances, 0 < b.timestamp ∧ (contract P d).Reaches (genesis P d b balances) w

/-- A world that code can observe during a run, also from inside a payment. -/
def Observable (w : DistributorWorld) : Prop :=
  ∃ b balances, 0 < b.timestamp ∧
    Relation.ReflTransGen (contract P d).Micro (genesis P d b balances) w

variable {P d}

theorem Reachable.observable {w : DistributorWorld} (h : Reachable P d w) : Observable P d w := by
  obtain ⟨b, balances, hpos, hb⟩ := h
  exact ⟨b, balances, hpos, hb.micro⟩

end

end CreatorFirst.Distributor
