import CreatorFirst.Participants.Machine
import CreatorFirst.Distributor.Machine

/-!
# The registry of participants and the distributor of test coins

Both contracts run side by side. An initial funding calls the distributor on the registry's account
and returns once the distributor has; in between the distributor may pay the wallet, whose code may
call any function of either contract. Apart from that neither contract calls the other, so no other
call comes from the address of either.
-/

namespace CreatorFirst.Funding

open Chain Relation

structure System where
  registry : Participants.State
  distributor : Distributor.State

/-- Both contracts as their constructors accepted them, the registry with this distributor. -/
structure Deployment where
  registry : Participants.Deployment
  distributor : Distributor.Deployment
  bound : registry.distributor = distributor.self
  self_ne : registry.self ≠ distributor.self

inductive Error where
  | foreignSender
  | registry (e : Participants.Error)
  | distributor (e : Distributor.Error)
  deriving DecidableEq

inductive Op where
  | registry (op : Participants.Op)
  | distributor (op : Distributor.Op)

/-- A payment of the distributor under way, on its own or inside an initial funding. -/
inductive Frame where
  | payout (payout : Distributor.Payout)
  | funding (funding : Participants.Funding) (payout : Distributor.Payout)
  deriving DecidableEq

section

variable (P : Primitives) (d : Deployment)

/-- What the registry asks the distributor for. -/
def registration (f : Participants.Funding) : Distributor.Op :=
  .registerAndTopUp f.participantId f.wallet f.operationId

/-- The registry's call of `registerAndTopUp`, and the rest of `fundInitial` if nothing is paid. -/
def callDistributor (b : Block) (f : Participants.Funding) (s : System) :
    Except Error (Outcome System Frame) := do
  let o ← (Distributor.call P d.distributor b ⟨d.registry.self, 0⟩ (registration f)
    s.distributor).mapError .distributor
  match o with
  | .done distributor => do
    let registry ← (Participants.afterFunding f true s.registry).mapError .registry
    return .done ⟨registry, distributor⟩
  | .callout distributor payout => return .callout { s with distributor } (.funding f payout)

def call (b : Block) (msg : Msg) : Op → System → Except Error (Outcome System Frame)
  | .distributor op, s => do
    revertIf (msg.sender = d.registry.self) .foreignSender
    let o ← (Distributor.call P d.distributor b msg op s.distributor).mapError .distributor
    match o with
    | .done distributor => return .done { s with distributor }
    | .callout distributor payout => return .callout { s with distributor } (.payout payout)
  | .registry op, s => do
    revertIf (msg.sender = d.distributor.self) .foreignSender
    let o ← (Participants.call P d.registry b msg op s.registry).mapError .registry
    match o with
    | .done registry => return .done { s with registry }
    | .callout registry f => callDistributor P d b f { s with registry }

def resume (success : Bool) (s : System) : Frame → Except Error System
  | .payout payout => do
    let distributor ←
      (Distributor.afterPayout payout success s.distributor).mapError .distributor
    return { s with distributor }
  | .funding f payout => do
    let distributor ←
      (Distributor.afterPayout payout success s.distributor).mapError .distributor
    let registry ← (Participants.afterFunding f true s.registry).mapError .registry
    return ⟨registry, distributor⟩

def contract : Contract Msg Op System Frame Error where
  call := call P d
  resume := fun _ frame success s ↦ resume success s frame

abbrev FundingWorld := World Msg Op System Frame
abbrev FundingEntry := Entry Msg Op System Frame
abbrev FundingMoment := Contract.Moment Msg Op System Frame
abbrev FundingTx := Transaction Msg Op

/-- The registry has just been deployed, and the distributor has registered nobody so far. -/
structure Start (w : FundingWorld) : Prop where
  registry : w.state.registry = Participants.initialState P d.registry
  unregistered : ∀ p, (w.state.distributor.participants p).wallet = 0
  journal : w.journal = []

/-- A moment of some run from the deployment of the registry. -/
def Observable (m : FundingMoment) : Prop :=
  ∃ w, Start P d w ∧ ReflTransGen (contract P d).Next ⟨w, []⟩ m

/-- Some run from the deployment of the registry leads here. -/
def Reachable (w : FundingWorld) : Prop :=
  ∃ start, Start P d start ∧ (contract P d).Reaches start w

variable {P d}

theorem Reachable.observable {w : FundingWorld} (h : Reachable P d w) :
    Observable P d ⟨w, []⟩ := by
  obtain ⟨start, hstart, hrun⟩ := h
  exact ⟨start, hstart, hrun.next⟩

end

end CreatorFirst.Funding
