import CreatorFirst.Settlement.Machine
import CreatorFirst.Time.Period

/-!
# What each operation of the settlement can do

For every external function, the facts that its success implies and the storage it leaves, and the
small steps that every run consists of.
-/

namespace CreatorFirst.Settlement

open Chain Relation

variable {P : Primitives} {T : Erc20 Address} {d : Deployment} {b : Block} {sender : Address}

theorem onlyRole_bind_eq_ok {α : Type} {role : Bytes32} {roles : Roles} {f : Unit → Except Error α}
    {y : α} : (onlyRole sender role roles >>= f) = .ok y ↔ roles role sender = true ∧ f () = .ok y :=
  Roles.required_bind_eq_ok

theorem safeCall_eq_ok {caller : Address} {op : T.Op} {token token' : T.State} :
    safeCall caller op token = .ok token' ↔ T.exec caller op token = some token' := by
  unfold safeCall
  cases T.exec caller op token <;> simp

theorem safeCall_bind_eq_ok {α : Type} {caller : Address} {op : T.Op} {token : T.State}
    {f : T.State → Except Error α} {y : α} :
    (safeCall caller op token >>= f) = .ok y ↔
      ∃ token', T.exec caller op token = some token' ∧ f token' = .ok y := by
  simp only [bind_eq_ok, safeCall_eq_ok]

theorem onSubscription_eq_ok {s s' : System T} {r : Except Error Subscription} :
    onSubscription s r = .ok s' ↔ ∃ subscription, r = .ok subscription ∧ { s with subscription } = s' := by
  simp only [onSubscription, bind_eq_ok, pure_eq_ok]

/-! ## Payments -/

/-- The period that a payment at the time `t` buys: it starts now, or when the paid time ends. -/
def boughtPeriod (t : ℕ) (sender : Address) (s : Subscription) : Period :=
  let start := if t < (s.subscriptionActiveUntil sender : ℕ) then
    (s.subscriptionActiveUntil sender : ℕ) else t % 2 ^ 64
  ⟨start, start + s.plan.duration⟩

/-- The checks of `subscribe`, with the token and the end of the paid time it leaves. -/
structure Subscribes (T : Erc20 Address) (d : Deployment) (b : Block) (sender : Address)
    (paymentReference : Bytes32) (expectedPlanVersion : Uint 64) (s : System T) (token : T.State)
    (activeUntil : Uint 64) : Prop where
  not_paused : s.subscription.paused = false
  enabled : s.subscription.plan.enabled = true
  duration_ne : s.subscription.plan.duration ≠ 0
  version_eq : s.subscription.plan.version = expectedPlanVersion
  reference_ne : paymentReference ≠ 0
  reference_fresh : s.subscription.usedPaymentReference paymentReference = false
  paid : T.exec d.subscription (T.transferFrom sender d.treasury s.subscription.plan.price)
    s.token = some token
  until_eq : (activeUntil : ℕ) = (boughtPeriod b.timestamp sender s.subscription).endsAt

def System.withPayment (s : System T) (sender : Address) (paymentReference : Bytes32)
    (token : T.State) (activeUntil : Uint 64) : System T :=
  { s with
    token
    subscription :=
      { s.subscription with
        usedPaymentReference :=
          Function.update s.subscription.usedPaymentReference paymentReference true
        subscriptionActiveUntil :=
          Function.update s.subscription.subscriptionActiveUntil sender activeUntil } }

theorem subscribe_ok {paymentReference : Bytes32} {expectedPlanVersion activeUntil : Uint 64}
    {s s' : System T}
    (h : subscribe d b sender paymentReference expectedPlanVersion s = .ok (activeUntil, s')) :
    ∃ token, Subscribes T d b sender paymentReference expectedPlanVersion s token activeUntil ∧
      s' = s.withPayment sender paymentReference token activeUntil := by
  simp only [subscribe, revertIf_bind_eq_ok, safeCall_bind_eq_ok, Uint.add_bind_eq_ok, pure_eq_ok,
    Prod.mk.injEq, not_or, not_not, ne_eq, Bool.not_eq_true, Bool.not_eq_false] at h
  obtain ⟨hpaused, ⟨henabled, -, hduration⟩, hversion, ⟨hne, hfresh⟩, token, htoken, _, huntil, rfl,
    rfl⟩ := h
  refine ⟨token, ⟨hpaused, henabled, hduration, hversion.symm, hne, hfresh, htoken, ?_⟩, rfl⟩
  rw [huntil, boughtPeriod]
  split <;> rfl

/-- The checks of `disburse`, with the token it leaves. -/
structure Disburses (P : Primitives) (T : Erc20 Address) (d : Deployment) (sender : Address)
    (disbursementRef : Bytes32) (recipient : Address) (amount : Uint 256) (s : System T)
    (token : T.State) : Prop where
  disburser : s.treasury.roles (DISBURSER_ROLE P) sender = true
  reference_ne : disbursementRef ≠ 0
  reference_fresh : s.treasury.usedDisbursementReference disbursementRef = false
  sent : T.exec d.treasury (T.transfer recipient amount) s.token = some token

def System.withDisbursement (s : System T) (disbursementRef : Bytes32) (token : T.State) :
    System T :=
  { s with
    token
    treasury :=
      { s.treasury with
        usedDisbursementReference :=
          Function.update s.treasury.usedDisbursementReference disbursementRef true } }

theorem disburse_ok {disbursementRef : Bytes32} (category : SpendCategory) {recipient : Address}
    {amount : Uint 256} {s s' : System T}
    (h : disburse P d sender disbursementRef category recipient amount s = .ok s') :
    ∃ token, Disburses P T d sender disbursementRef recipient amount s token ∧
      s' = s.withDisbursement disbursementRef token := by
  simp only [disburse, onlyRole_bind_eq_ok, revertIf_bind_eq_ok, safeCall_bind_eq_ok, pure_eq_ok,
    Bool.not_eq_true] at h
  obtain ⟨hrole, hne, hfresh, -, -, token, htoken, rfl⟩ := h
  exact ⟨token, ⟨hrole, hne, hfresh, htoken⟩, rfl⟩

/-! ## All operations -/

/-- What a function of the subscription that moves no token can leave. -/
structure Administers (s s' : Subscription) : Prop where
  active_eq : s'.subscriptionActiveUntil = s.subscriptionActiveUntil
  used_eq : s'.usedPaymentReference = s.usedPaymentReference
  plan : s'.plan = s.plan ∨ (s'.plan.version : ℕ) = s.plan.version + 1

/-- The success of an operation: what it checked and the storage it left. -/
inductive Effect (P : Primitives) (T : Erc20 Address) (d : Deployment) (b : Block)
    (sender : Address) (s : System T) : Op T → System T → Prop
  | token (op : T.Op) (token : T.State) (h : T.exec sender op s.token = some token) :
      Effect P T d b sender s (.token op) { s with token }
  | administer (op : SubscriptionOp) (subscription : Subscription)
      (hop : ∀ paymentReference version, op ≠ .subscribe paymentReference version)
      (h : Administers s.subscription subscription) :
      Effect P T d b sender s (.subscription op) { s with subscription }
  | subscribe (paymentReference : Bytes32) (version : Uint 64) (token : T.State)
      (activeUntil : Uint 64)
      (h : Subscribes T d b sender paymentReference version s token activeUntil) :
      Effect P T d b sender s (.subscription (.subscribe paymentReference version))
        (s.withPayment sender paymentReference token activeUntil)
  | access (op : RoleOp) (roles : Roles) :
      Effect P T d b sender s (.treasury (.access op))
        { s with treasury := { s.treasury with roles } }
  | disburse (disbursementRef : Bytes32) (category : SpendCategory) (recipient : Address)
      (amount : Uint 256) (token : T.State)
      (h : Disburses P T d sender disbursementRef recipient amount s token) :
      Effect P T d b sender s (.treasury (.disburse disbursementRef category recipient amount))
        (s.withDisbursement disbursementRef token)

theorem SubscriptionOp.effect {op : SubscriptionOp} {s s' : System T}
    (h : op.apply P T d b sender s = .ok s') :
    Effect P T d b sender s (.subscription op) s' := by
  cases op with
  | subscribe paymentReference version =>
    obtain ⟨activeUntil, h⟩ := map_snd_eq_ok.mp h
    obtain ⟨token, hsubscribes, rfl⟩ := subscribe_ok h
    exact .subscribe paymentReference version token activeUntil hsubscribes
  | access op =>
    obtain ⟨subscription, hs, rfl⟩ := onSubscription_eq_ok.mp h
    obtain ⟨roles, -, hs⟩ := bind_eq_ok.mp hs
    obtain rfl := pure_eq_ok.mp hs
    exact .administer _ _ (by simp) ⟨rfl, rfl, .inl rfl⟩
  | setPlan price duration enabled =>
    obtain ⟨subscription, hs, rfl⟩ := onSubscription_eq_ok.mp h
    simp only [Settlement.setPlan, onlyRole_bind_eq_ok, revertIf_bind_eq_ok, Uint.increment_bind_eq_ok,
      pure_eq_ok] at hs
    obtain ⟨-, -, version, hversion, rfl⟩ := hs
    exact .administer _ _ (by simp) ⟨rfl, rfl, .inr hversion⟩
  | pause =>
    obtain ⟨subscription, hs, rfl⟩ := onSubscription_eq_ok.mp h
    simp only [Settlement.pause, onlyRole_bind_eq_ok, revertIf_bind_eq_ok, pure_eq_ok] at hs
    obtain ⟨-, -, rfl⟩ := hs
    exact .administer _ _ (by simp) ⟨rfl, rfl, .inl rfl⟩
  | unpause =>
    obtain ⟨subscription, hs, rfl⟩ := onSubscription_eq_ok.mp h
    simp only [Settlement.unpause, onlyRole_bind_eq_ok, revertIf_bind_eq_ok, pure_eq_ok] at hs
    obtain ⟨-, -, rfl⟩ := hs
    exact .administer _ _ (by simp) ⟨rfl, rfl, .inl rfl⟩

/-- Every successful operation is one of the effects. -/
theorem Op.effect {op : Op T} {s s' : System T} (h : op.apply P T d b sender s = .ok s') :
    Effect P T d b sender s op s' := by
  cases op with
  | token op =>
    obtain ⟨token, htoken, h⟩ := safeCall_bind_eq_ok.mp h
    obtain rfl := pure_eq_ok.mp h
    exact .token op token htoken
  | subscription op => exact SubscriptionOp.effect h
  | treasury op =>
    cases op with
    | access op =>
      obtain ⟨roles, -, h⟩ := bind_eq_ok.mp h
      obtain rfl := pure_eq_ok.mp h
      exact .access op roles
    | disburse disbursementRef category recipient amount =>
      obtain ⟨token, hdisburses, rfl⟩ := disburse_ok category h
      exact .disburse disbursementRef category recipient amount token hdisburses

/-! ## Small steps -/

/-- The small steps: time passes, or one call from outside takes effect. -/
inductive Small (P : Primitives) (T : Erc20 Address) (d : Deployment) (w : SettlementWorld T) :
    SettlementWorld T → Prop
  | tick (b : Block) (h : w.block.timestamp ≤ b.timestamp) : Small P T d w { w with block := b }
  | call (msg : Msg) (op : Op T) (s : System T) (hsubscription : msg.sender ≠ d.subscription)
      (htreasury : msg.sender ≠ d.treasury) (h : Effect P T d w.block msg.sender w.state op s) :
      Small P T d w ⟨w.block, s, ⟨w.block, msg, op, w.state, none⟩ :: w.journal⟩

theorem call_eq_ok {msg : Msg} {op : Op T} {s : System T} {o : Outcome (System T) Empty}
    (h : call P T d b msg op s = .ok o) :
    ∃ s', msg.sender ≠ d.subscription ∧ msg.sender ≠ d.treasury ∧
      Effect P T d b msg.sender s op s' ∧ o = .done s' := by
  simp only [call, revertIf_bind_eq_ok, not_or] at h
  obtain ⟨⟨hsubscription, htreasury⟩, -, h⟩ := h
  obtain ⟨s', hs', h⟩ := bind_eq_ok.mp h
  obtain rfl := pure_eq_ok.mp h
  exact ⟨s', hsubscription, htreasury, Op.effect hs', rfl⟩

theorem micro_small {w w' : SettlementWorld T} (h : (contract P T d).Micro w w') :
    Small P T d w w' := by
  cases h with
  | tick b hb => exact .tick b hb
  | call msg op o ho =>
    obtain ⟨s, hsubscription, htreasury, heff, rfl⟩ := call_eq_ok ho
    exact .call msg op s hsubscription htreasury heff
  | resume frame => cases frame

theorem Small.timestamp_le {w w' : SettlementWorld T} (h : Small P T d w w') :
    w.block.timestamp ≤ w'.block.timestamp := by
  cases h with
  | tick b hb => exact hb
  | call => exact le_rfl

/-- A property of the deployment that every small step preserves holds throughout all runs. -/
theorem ReachableFrom.invariant {I : SettlementWorld T → Prop} {t₀ : T.State}
    (hgenesis : Unspent T d t₀ → ∀ b, I (genesis P T d b t₀))
    (hstep : ∀ w w', I w → Small P T d w w' → I w') {w : SettlementWorld T}
    (h : ReachableFrom P T d t₀ w) : I w := by
  obtain ⟨hunspent, b, hb⟩ := h
  exact hb.invariant (fun _ _ hw hm ↦ hstep _ _ hw (micro_small hm)) (hgenesis hunspent b)

end CreatorFirst.Settlement
