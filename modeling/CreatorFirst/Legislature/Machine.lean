import CreatorFirst.Creators.Machine
import CreatorFirst.Governor.Machine
import CreatorFirst.Settlement.Machine

/-!
# Legislators who register themselves

On the testnet an adapter holds the governor's registrar role and registers its callers: subscribers in
the User House, active creators in the Creator House. It stores nothing. Anyone may call the adapter, the
governor and the contracts that the adapter reads, in any order and also from inside an execution of the
governor; the adapter itself calls the governor only as its functions say.
-/

namespace CreatorFirst.Legislature

open Chain Relation

/-! ## The adapter -/

inductive AdapterError where
  | nonPayable
  | invalidAddress
  | userNotEligible (account : Address)
  | creatorNotEligible (account : Address)
  deriving DecidableEq

/-- The adapter as its constructor accepted it. -/
structure AdapterDeployment where
  self : Address
  governor : Address
  subscription : Address
  creatorRegistry : Address
  governor_ne : governor ≠ 0
  subscription_ne : subscription ≠ 0
  creatorRegistry_ne : creatorRegistry ≠ 0

/-- The checks of the constructor. -/
def checkAdapter (governor subscription creatorRegistry : Address) : Except AdapterError Unit :=
  revertIf (governor = 0 ∨ subscription = 0 ∨ creatorRegistry = 0) .invalidAddress

/-- The constructor accepts what a deployment is made of. -/
theorem AdapterDeployment.accepted (d : AdapterDeployment) :
    checkAdapter d.governor d.subscription d.creatorRegistry = .ok () := by
  simp [checkAdapter, revertIf_eq_ok, d.governor_ne, d.subscription_ne, d.creatorRegistry_ne]

/-! ## The contracts together -/

structure System (T : Erc20 Address) where
  governor : Governor.State
  settlement : Settlement.System T
  registry : Creators.State

/-- The adapter and the contracts it was deployed for. -/
structure Deployment where
  governor : Governor.Deployment
  settlement : Settlement.Deployment
  registry : Creators.Deployment
  adapter : AdapterDeployment
  governor_bound : adapter.governor = governor.self
  subscription_bound : adapter.subscription = settlement.subscription
  registry_bound : adapter.creatorRegistry = registry.self

inductive Error where
  | foreignSender
  | adapter (e : AdapterError)
  | governor (e : Governor.Error)
  | settlement (e : Settlement.Error)
  | registry (e : Creators.Error)
  deriving DecidableEq

inductive Op (T : Erc20 Address) where
  | governor (op : Governor.Op)
  | settlement (op : Settlement.Op T)
  | registry (op : Creators.Op)
  | registerAsUser (sessionId : Uint 256)
  | registerAsCreator (sessionId : Uint 256)

section

variable (P : Primitives) {T : Erc20 Address} (d : Deployment) (b : Block) (sender : Address)

/-- `USER_HOUSE` is the governor's number of that House. -/
def registerAsUser (sessionId : Uint 256) (s : System T) : Except Error (System T) := do
  revertIf (Settlement.isActive b sender s.settlement.subscription = false)
    (.adapter (.userNotEligible sender))
  let governor ← (Governor.registerMember P b d.adapter.self sessionId sender .user
    s.governor).mapError .governor
  return { s with governor }

/-- `creatorIdByAccount` and `creators` are the registry's getters of these names. -/
def registerAsCreator (sessionId : Uint 256) (s : System T) : Except Error (System T) := do
  let creatorId := s.registry.creatorIdByAccount sender
  revertIf (creatorId = 0) (.adapter (.creatorNotEligible sender))
  let creator := s.registry.creators creatorId
  revertIf (creator.account ≠ sender ∨ creator.active = false) (.adapter (.creatorNotEligible sender))
  let governor ← (Governor.registerMember P b d.adapter.self sessionId sender .creator
    s.governor).mapError .governor
  return { s with governor }

end

section

variable (P : Primitives) (T : Erc20 Address) (d : Deployment)

def call (b : Block) (msg : Msg) :
    Op T → System T → Except Error (Outcome (System T) Governor.TargetCall)
  | .governor op, s => do
    revertIf (msg.sender = d.adapter.self) .foreignSender
    let o ← (Governor.call P d.governor b msg op s.governor).mapError .governor
    match o with
    | .done governor => return .done { s with governor }
    | .callout governor call => return .callout { s with governor } call
  | .settlement op, s => do
    revertIf (msg.sender = d.adapter.self) .foreignSender
    let o ← (Settlement.call P T d.settlement b msg op s.settlement).mapError .settlement
    return .done { s with settlement := o.state }
  | .registry op, s => do
    revertIf (msg.sender = d.adapter.self) .foreignSender
    let o ← (Creators.call P b msg op s.registry).mapError .registry
    return .done { s with registry := o.state }
  | .registerAsUser sessionId, s => do
    revertIf (msg.value ≠ 0) (.adapter .nonPayable)
    let s' ← registerAsUser P d b msg.sender sessionId s
    return .done s'
  | .registerAsCreator sessionId, s => do
    revertIf (msg.value ≠ 0) (.adapter .nonPayable)
    let s' ← registerAsCreator P d b msg.sender sessionId s
    return .done s'

def resume (success : Bool) (s : System T) : Except Error (System T) := do
  let governor ← (Governor.afterTargetCall success s.governor).mapError .governor
  return { s with governor }

def contract : Contract Msg (Op T) (System T) Governor.TargetCall Error where
  call := call P T d
  resume := fun _ _ success s ↦ resume T success s

abbrev LegislatureWorld (T : Erc20 Address) := World Msg (Op T) (System T) Governor.TargetCall
abbrev LegislatureEntry (T : Erc20 Address) := Entry Msg (Op T) (System T) Governor.TargetCall
abbrev LegislatureTx (T : Erc20 Address) := Transaction Msg (Op T)

/-- The world in which all contracts have just been deployed over the token's state `t₀`. -/
def genesis (b : Block) (t₀ : T.State) : LegislatureWorld T :=
  ⟨b,
    ⟨Governor.initialState P d.governor,
      ⟨t₀, Settlement.initialSubscription P d.settlement, Settlement.initialTreasury P d.settlement⟩,
      Creators.initialState P d.registry⟩,
    []⟩

/-- Some run from the deployment at a positive time leads to a world that code can observe, also from
inside a transaction. -/
def Observable (t₀ : T.State) (w : LegislatureWorld T) : Prop :=
  ∃ b, 0 < b.timestamp ∧ ReflTransGen (contract P T d).Micro (genesis P T d b t₀) w

end

end CreatorFirst.Legislature
