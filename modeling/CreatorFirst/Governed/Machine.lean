import CreatorFirst.Governor.Machine
import CreatorFirst.Governed.Targets

/-!
# The governor and what it controls

An execution calls the target of its proposal. Where that is the factory or the policy the call runs
at once, with the governor as its sender, and if it reverts so does the execution; any other target is
code outside the model. The governor makes no other call, so nobody else speaks for it.
-/

namespace CreatorFirst.Governed

open Chain Relation

structure Targets where
  factory : Factory
  policy : GovernedPolicy

structure System where
  governor : Governor.State
  targets : Targets

/-- The three contracts as their constructors accepted them, both targets bound to the governor. -/
structure Deployment where
  governor : Governor.Deployment
  factory : FactoryDeployment
  policy : PolicyDeployment
  factory_bound : factory.governor = governor.self
  policy_bound : policy.governor = governor.self
  factory_ne_policy : factory.self ≠ policy.self

inductive TargetError where
  | factory (e : FactoryError)
  | policy (e : GovernedPolicyError)
  deriving DecidableEq

inductive Error where
  | foreignSender
  | governor (e : Governor.Error)
  | target (e : TargetError)
  deriving DecidableEq

inductive Op where
  | governor (op : Governor.Op)
  | factory (callData : Bytes)
  | policy (callData : Bytes)

section

variable (P : Primitives) (d : Deployment)

/-- One call of the factory. -/
def onFactory (msg : Msg) (callData : Bytes) (t : Targets) : Except TargetError Targets := do
  let factory ← (callFactory P d.factory msg callData t.factory).mapError .factory
  return { t with factory }

/-- One call of the policy. -/
def onPolicy (msg : Msg) (callData : Bytes) (t : Targets) : Except TargetError Targets := do
  let policy ← (callPolicy d.policy msg callData t.policy).mapError .policy
  return { t with policy }

/-- What the call of an execution does to the factory or the policy; nothing is known of another
target. -/
def callTarget (call : Governor.TargetCall) (t : Targets) : Option (Except TargetError Targets) :=
  let msg : Msg := ⟨d.governor.self, call.value⟩
  if call.target = d.factory.self then some (onFactory P d msg call.callData t)
  else if call.target = d.policy.self then some (onPolicy d msg call.callData t)
  else none

/-- The rest of `executeProposal` once the factory or the policy has returned. -/
def finish (s : System) (r : Except TargetError Targets) :
    Except Error (Outcome System Governor.TargetCall) := do
  let (success, targets) :=
    match r with
    | .error _ => (false, s.targets)
    | .ok targets => (true, targets)
  let governor ← (Governor.afterTargetCall success s.governor).mapError .governor
  return .done ⟨governor, targets⟩

def call (b : Block) (msg : Msg) : Op → System → Except Error (Outcome System Governor.TargetCall)
  | .governor op, s => do
    let o ← (Governor.call P d.governor b msg op s.governor).mapError .governor
    match o with
    | .done governor => return .done { s with governor }
    | .callout governor call =>
      match callTarget P d call s.targets with
      | none => return .callout { s with governor } call
      | some r => finish { s with governor } r
  | .factory callData, s => do
    revertIf (msg.sender = d.governor.self) .foreignSender
    let targets ← (onFactory P d msg callData s.targets).mapError .target
    return .done { s with targets }
  | .policy callData, s => do
    revertIf (msg.sender = d.governor.self) .foreignSender
    let targets ← (onPolicy d msg callData s.targets).mapError .target
    return .done { s with targets }

def resume (success : Bool) (s : System) : Except Error System := do
  let governor ← (Governor.afterTargetCall success s.governor).mapError .governor
  return { s with governor }

def contract : Contract Msg Op System Governor.TargetCall Error where
  call := call P d
  resume := fun _ _ success s ↦ resume success s

abbrev GovernedWorld := World Msg Op System Governor.TargetCall
abbrev GovernedEntry := Entry Msg Op System Governor.TargetCall
abbrev GovernedTx := Transaction Msg Op

/-- The world in which both targets have just been deployed. The governor may have been in use. -/
def genesis (start : Governor.GovernorWorld) : GovernedWorld :=
  ⟨start.block, ⟨start.state, initialFactory, initialPolicy d.policy⟩, []⟩

/-- Some run from the deployment of the targets, when the governor was in `start`, leads to a world
that code can observe, also from inside a transaction. -/
structure Observable (start : Governor.GovernorWorld) (w : GovernedWorld) : Prop where
  start_reachable : Governor.Reachable P d.governor start
  run : ReflTransGen (contract P d).Micro (genesis d start) w

variable {P d}

theorem Observable.trans {start : Governor.GovernorWorld} {w w' : GovernedWorld}
    (h : Observable P d start w) (hr : (contract P d).Reaches w w') : Observable P d start w' :=
  ⟨h.start_reachable, h.run.trans hr.micro⟩

end

end CreatorFirst.Governed
