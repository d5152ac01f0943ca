import CreatorFirst.Settlement.Operations

/-!
# Runs of the settlement contracts

Anyone may call either contract and the token, in any order. The two contracts call only the token,
and only as their functions say, so no call from outside comes from one of their addresses.
-/

namespace CreatorFirst.Settlement

open Chain Relation

inductive SubscriptionOp where
  | access (op : RoleOp)
  | setPlan (price : Uint 128) (duration : Uint 64) (enabled : Bool)
  | subscribe (paymentReference : Bytes32) (expectedPlanVersion : Uint 64)
  | pause
  | unpause

inductive TreasuryOp where
  | access (op : RoleOp)
  | disburse (disbursementRef : Bytes32) (category : SpendCategory) (recipient : Address)
      (amount : Uint 256)

inductive Op (T : Erc20 Address) where
  | token (op : T.Op)
  | subscription (op : SubscriptionOp)
  | treasury (op : TreasuryOp)

section

variable (P : Primitives) (T : Erc20 Address) (d : Deployment)

def accessOp (sender : Address) (op : RoleOp) (roles : Roles) : Except Error Roles :=
  (roles.apply sender op).mapError .access

/-- A function of the subscription that does not call the token. -/
def onSubscription {T : Erc20 Address} (s : System T) (r : Except Error Subscription) :
    Except Error (System T) := do
  let subscription ← r
  return { s with subscription }

def SubscriptionOp.apply (b : Block) (sender : Address) (s : System T) :
    SubscriptionOp → Except Error (System T)
  | .access op => onSubscription s do
    let roles ← accessOp sender op s.subscription.roles
    return { s.subscription with roles }
  | .setPlan price duration enabled =>
    onSubscription s (Settlement.setPlan P sender price duration enabled s.subscription)
  | .subscribe paymentReference expectedPlanVersion =>
    (·.2) <$> Settlement.subscribe d b sender paymentReference expectedPlanVersion s
  | .pause => onSubscription s (Settlement.pause P sender s.subscription)
  | .unpause => onSubscription s (Settlement.unpause P sender s.subscription)

def TreasuryOp.apply (sender : Address) (s : System T) : TreasuryOp → Except Error (System T)
  | .access op => do
    let roles ← accessOp sender op s.treasury.roles
    return { s with treasury := { s.treasury with roles } }
  | .disburse disbursementRef category recipient amount =>
    Settlement.disburse P d sender disbursementRef category recipient amount s

def Op.apply (b : Block) (sender : Address) (s : System T) : Op T → Except Error (System T)
  | .token op => do
    let token ← safeCall sender op s.token
    return { s with token }
  | .subscription op => op.apply P T d b sender s
  | .treasury op => op.apply P T d sender s

def call (b : Block) (msg : Msg) (op : Op T) (s : System T) :
    Except Error (Outcome (System T) Empty) := do
  revertIf (msg.sender = d.subscription ∨ msg.sender = d.treasury) .foreignSender
  revertIf (msg.value ≠ 0) .nonPayable
  let s' ← op.apply P T d b msg.sender s
  return .done s'

/-- No function hands control to outside code, so nothing is ever resumed. -/
def contract : Contract Msg (Op T) (System T) Empty Error where
  call := call P T d
  resume := fun _ frame _ _ ↦ nomatch frame

abbrev SettlementWorld (T : Erc20 Address) := World Msg (Op T) (System T) Empty
abbrev SettlementEntry (T : Erc20 Address) := Entry Msg (Op T) (System T) Empty
abbrev SettlementTx (T : Erc20 Address) := Transaction Msg (Op T)

/-- The world in which both contracts have just been deployed over the token's state `t₀`. -/
def genesis (b : Block) (t₀ : T.State) : SettlementWorld T :=
  ⟨b, ⟨t₀, initialSubscription P d, initialTreasury P d⟩, []⟩

/-- Nobody may spend for the treasury: its address has not called the token yet. -/
def Unspent (t₀ : T.State) : Prop := ∀ spender, T.allowance t₀ d.treasury spender = 0

/-- Some run leads here from the deployment over the token's state `t₀`. -/
def ReachableFrom (t₀ : T.State) (w : SettlementWorld T) : Prop :=
  Unspent T d t₀ ∧ ∃ b, (contract P T d).Reaches (genesis P T d b t₀) w

end

end CreatorFirst.Settlement
