import CreatorFirst.Distributor.Machine
import CreatorFirst.Token.Erc20

/-!
# What each operation of the distributor can do

For every external function, the facts that its success implies and the storage it leaves, and the
small steps that every run consists of.
-/

namespace CreatorFirst.Distributor

open Chain Relation

variable {P : Primitives} {d : Deployment} {b : Block} {sender : Address} {s s' : State}

theorem onlyRole_bind_eq_ok {α : Type} {role : Bytes32} {f : Unit → Except Error α} {y : α} :
    (onlyRole sender role s >>= f) = .ok y ↔ s.roles role sender = true ∧ f () = .ok y :=
  Roles.required_bind_eq_ok

theorem sub_bind_eq_ok {α : Type} {x y : ℕ} {f : ℕ → Except Error α} {z : α} :
    (sub x y >>= f) = .ok z ↔ y ≤ x ∧ f (x - y) = .ok z := by
  unfold sub
  split
  · next h => simp [h, bind, Except.bind]
  · next h => simp [h, bind, Except.bind]

/-! ## Top-ups -/

/-- The checks of a top-up, with the amount and the counters it leaves. -/
structure TopsUp (d : Deployment) (b : Block) (participantId : Bytes32) (wallet : Address)
    (targetBalance : ℕ) (operationId : Bytes32) (enforceCooldown : Bool) (s : State) (amount : ℕ)
    (cumulative : Uint 128) (distributed : Uint 256) : Prop where
  operation_ne : operationId ≠ 0
  operation_fresh : s.usedOperationIds operationId = false
  active : (s.participants participantId).active = true
  wallet_eq : (s.participants participantId).wallet = wallet
  target_le : targetBalance ≤ MAX_TARGET_BALANCE
  below : s.balances wallet < targetBalance
  rested : enforceCooldown = true → (s.participants participantId).lastDistributedAt ≠ 0 →
    ((s.participants participantId).lastDistributedAt : ℕ) + TOP_UP_COOLDOWN ≤ b.timestamp
  capped : ((s.participants participantId).cumulativeDistributed : ℕ) < LIFETIME_CAP_PER_PARTICIPANT
  amount_eq : amount = min (targetBalance - s.balances wallet) (min MAX_PER_DISTRIBUTION
    (LIFETIME_CAP_PER_PARTICIPANT - (s.participants participantId).cumulativeDistributed))
  within_day : (s.distributedByDay (day b.timestamp) : ℕ) + amount ≤ DAILY_GLOBAL_BUDGET
  covered : amount ≤ s.balances d.self
  cumulative_eq : (cumulative : ℕ) = (s.participants participantId).cumulativeDistributed +
    (Uint.truncate 128 amount : ℕ)
  distributed_eq : (distributed : ℕ) = s.distributedByDay (day b.timestamp) + amount

def State.withTopUp (s : State) (d : Deployment) (b : Block) (participantId : Bytes32)
    (wallet : Address) (operationId : Bytes32) (amount : ℕ) (cumulative : Uint 128)
    (distributed : Uint 256) : State :=
  { s with
    usedOperationIds := Function.update s.usedOperationIds operationId true
    participants := Function.update s.participants participantId
      { s.participants participantId with
        cumulativeDistributed := cumulative, lastDistributedAt := Uint.truncate 64 b.timestamp }
    distributedByDay := Function.update s.distributedByDay (day b.timestamp) distributed
    balances := transfer d.self wallet amount s.balances }

theorem topUpCore_ok {participantId : Bytes32} {wallet : Address} {targetBalance : ℕ}
    {operationId : Bytes32} {enforceCooldown : Bool} {amount : ℕ}
    (h : topUpCore d b participantId wallet targetBalance operationId enforceCooldown s =
      .ok (amount, s')) :
    ∃ cumulative distributed, TopsUp d b participantId wallet targetBalance operationId
        enforceCooldown s amount cumulative distributed ∧
      s' = s.withTopUp d b participantId wallet operationId amount cumulative distributed := by
  simp only [topUpCore, revertIf_bind_eq_ok, sub_bind_eq_ok, Uint.add_bind_eq_ok] at h
  obtain ⟨hne, hfresh, hactive, hwallet, htarget, hbelow, hcool, hcap, hleft, -, hday, hwithin,
    hcovered, cumulative, hcumulative, h⟩ := h
  obtain ⟨distributed, hdistributed, h⟩ := bind_eq_ok.mp h
  obtain ⟨rfl, rfl⟩ := Prod.mk.inj (pure_eq_ok.mp h)
  rw [Uint.fit_eq_ok] at hdistributed
  refine ⟨cumulative, distributed, ?_, rfl⟩
  have htargets := not_or.mp htarget
  exact {
    operation_ne := hne
    operation_fresh := Bool.eq_false_iff.mpr hfresh
    active := Bool.not_eq_false _ ▸ hactive
    wallet_eq := not_not.mp hwallet
    target_le := not_lt.mp htargets.2
    below := not_le.mp hbelow
    rested := fun henforce hlast ↦ not_lt.mp fun hlt ↦ hcool ⟨henforce, hlast, hlt⟩
    capped := by omega
    amount_eq := rfl
    within_day := by omega
    covered := not_lt.mp hcovered
    cumulative_eq := hcumulative
    distributed_eq := hdistributed }

namespace TopsUp

variable {participantId : Bytes32} {wallet : Address} {targetBalance : ℕ} {operationId : Bytes32}
  {enforceCooldown : Bool} {amount : ℕ} {cumulative : Uint 128} {distributed : Uint 256}

theorem amount_pos (h : TopsUp d b participantId wallet targetBalance operationId enforceCooldown s
    amount cumulative distributed) : 0 < amount := by
  have hbelow := h.below
  have hcapped := h.capped
  rw [h.amount_eq, MAX_PER_DISTRIBUTION]
  omega

theorem amount_le_max (h : TopsUp d b participantId wallet targetBalance operationId
    enforceCooldown s amount cumulative distributed) : amount ≤ MAX_PER_DISTRIBUTION := by
  rw [h.amount_eq]
  omega

theorem amount_le_gap (h : TopsUp d b participantId wallet targetBalance operationId
    enforceCooldown s amount cumulative distributed) :
    s.balances wallet + amount ≤ targetBalance := by
  have hbelow := h.below
  rw [h.amount_eq]
  omega

/-- The cast to 128 bits loses nothing. -/
theorem cumulative_exact (h : TopsUp d b participantId wallet targetBalance operationId
    enforceCooldown s amount cumulative distributed) :
    (cumulative : ℕ) = (s.participants participantId).cumulativeDistributed + amount := by
  have hmax := h.amount_le_max
  have hamount : (Uint.truncate 128 amount : ℕ) = amount := by
    apply Uint.truncate_of_lt
    rw [MAX_PER_DISTRIBUTION] at hmax
    omega
  rw [h.cumulative_eq, hamount]

theorem cumulative_le (h : TopsUp d b participantId wallet targetBalance operationId
    enforceCooldown s amount cumulative distributed) :
    (cumulative : ℕ) ≤ LIFETIME_CAP_PER_PARTICIPANT := by
  have hcapped := h.capped
  have hamount := h.amount_eq
  rw [h.cumulative_exact]
  omega

end TopsUp

/-! ## Registration -/

/-- The checks of a registration. -/
structure Registers (P : Primitives) (sender : Address) (participantId : Bytes32)
    (wallet : Address) (s : State) : Prop where
  registrar : s.roles (REGISTRAR_ROLE P) sender = true
  not_paused : s.paused = false
  not_entered : s.entered = false
  participant_ne : participantId ≠ 0
  wallet_ne : wallet ≠ 0
  unregistered : (s.participants participantId).wallet = 0
  wallet_free : s.participantIdByWallet wallet = 0

def State.withParticipant (s : State) (b : Block) (participantId : Bytes32) (wallet : Address) :
    State :=
  { s with
    participants := Function.update s.participants participantId
      { wallet, cumulativeDistributed := 0, registeredAt := Uint.truncate 64 b.timestamp,
        lastDistributedAt := 0, active := true }
    participantIdByWallet := Function.update s.participantIdByWallet wallet participantId }

theorem registerAndTopUp_ok {participantId : Bytes32} {wallet : Address} {operationId : Bytes32}
    {o : Outcome State Payout}
    (h : registerAndTopUp P d b sender participantId wallet operationId s = .ok o) :
    Registers P sender participantId wallet s ∧
      ((INITIAL_TARGET_BALANCE ≤ s.balances wallet ∧
        o = .done { s.withParticipant b participantId wallet with
          usedOperationIds := Function.update s.usedOperationIds operationId true }) ∨
      ∃ amount cumulative distributed,
        TopsUp d b participantId wallet INITIAL_TARGET_BALANCE operationId false
          (s.withParticipant b participantId wallet) amount cumulative distributed ∧
        o = .callout { (s.withParticipant b participantId wallet).withTopUp d b participantId wallet
          operationId amount cumulative distributed with entered := true } ⟨wallet, amount⟩) := by
  simp only [registerAndTopUp, onlyRole_bind_eq_ok, revertIf_bind_eq_ok] at h
  obtain ⟨hrole, hpaused, hentered, hids, hwallet, hregistered, hfree, h⟩ := h
  refine ⟨⟨hrole, Bool.eq_false_iff.mpr hpaused, Bool.eq_false_iff.mpr hentered,
    (not_or.mp hids).1, hwallet, not_not.mp hregistered, not_not.mp hfree⟩, ?_⟩
  split at h
  · obtain ⟨⟨amount, s₁⟩, hcore, h⟩ := bind_eq_ok.mp h
    obtain ⟨cumulative, distributed, htops, rfl⟩ := topUpCore_ok hcore
    obtain rfl := pure_eq_ok.mp h
    exact .inr ⟨amount, cumulative, distributed, htops, rfl⟩
  · next hrich =>
    obtain rfl := pure_eq_ok.mp h
    exact .inl ⟨not_lt.mp hrich, rfl⟩

theorem topUp_ok {participantId : Bytes32} {wallet : Address} {targetBalance : Uint 256}
    {operationId : Bytes32} {o : Outcome State Payout}
    (h : topUp P d b sender participantId wallet targetBalance operationId s = .ok o) :
    s.roles (DISTRIBUTOR_ROLE P) sender = true ∧ s.paused = false ∧ s.entered = false ∧
      ∃ amount cumulative distributed,
        TopsUp d b participantId wallet targetBalance operationId true s amount cumulative
          distributed ∧
        o = .callout { s.withTopUp d b participantId wallet operationId amount cumulative
          distributed with entered := true } ⟨wallet, amount⟩ := by
  simp only [topUp, onlyRole_bind_eq_ok, revertIf_bind_eq_ok] at h
  obtain ⟨hrole, hpaused, hentered, h⟩ := h
  obtain ⟨⟨amount, s₁⟩, hcore, h⟩ := bind_eq_ok.mp h
  obtain ⟨cumulative, distributed, htops, rfl⟩ := topUpCore_ok hcore
  obtain rfl := pure_eq_ok.mp h
  exact ⟨hrole, Bool.eq_false_iff.mpr hpaused, Bool.eq_false_iff.mpr hentered, amount, cumulative,
    distributed, htops, rfl⟩

/-! ## All operations -/

/-- Neither counters nor registrations change. -/
structure Administers (s s' : State) : Prop where
  participants : s'.participants = s.participants
  participantIdByWallet : s'.participantIdByWallet = s.participantIdByWallet
  distributedByDay : s'.distributedByDay = s.distributedByDay

/-- A call that distributes: the participant, the wallet, its target balance and the amount. -/
structure Distribution where
  participantId : Bytes32
  wallet : Address
  targetBalance : ℕ
  amount : ℕ
  deriving DecidableEq

/-- What a call that pays distributes, if it tops up a wallet. -/
def Op.distributes (payout : Payout) : Op → Option Distribution
  | .registerAndTopUp participantId wallet _ =>
    some ⟨participantId, wallet, INITIAL_TARGET_BALANCE, payout.amount⟩
  | .topUp participantId wallet targetBalance _ =>
    some ⟨participantId, wallet, targetBalance, payout.amount⟩
  | _ => none

def Op.isTopUp : Op → Bool
  | .topUp .. => true
  | _ => false

def distribution (e : DistributorEntry) : Option Distribution :=
  e.callout.bind e.op.distributes

/-- What each operation leaves, and whom it pays. -/
inductive Effect (P : Primitives) (d : Deployment) (b : Block) (sender : Address) (s : State) :
    Op → State → Option Payout → Prop
  | administer (op : Op) (s' : State) (callout : Option Payout)
      (hop : ∀ payout, op.distributes payout = none) (h : Administers s s') :
      Effect P d b sender s op s' callout
  | setParticipantActive (participantId : Bytes32) (active : Bool)
      (hregistered : (s.participants participantId).wallet ≠ 0) :
      Effect P d b sender s (.setParticipantActive participantId active)
        { s with
          participants := Function.update s.participants participantId
            { s.participants participantId with active } } none
  | register (participantId : Bytes32) (wallet : Address) (operationId : Bytes32)
      (h : Registers P sender participantId wallet s)
      (hrich : INITIAL_TARGET_BALANCE ≤ s.balances wallet) :
      Effect P d b sender s (.registerAndTopUp participantId wallet operationId)
        { s.withParticipant b participantId wallet with
          usedOperationIds := Function.update s.usedOperationIds operationId true } none
  | registerAndTopUp (participantId : Bytes32) (wallet : Address) (operationId : Bytes32)
      (amount : ℕ) (cumulative : Uint 128) (distributed : Uint 256)
      (h : Registers P sender participantId wallet s)
      (htops : TopsUp d b participantId wallet INITIAL_TARGET_BALANCE operationId false
        (s.withParticipant b participantId wallet) amount cumulative distributed) :
      Effect P d b sender s (.registerAndTopUp participantId wallet operationId)
        { (s.withParticipant b participantId wallet).withTopUp d b participantId wallet operationId
          amount cumulative distributed with entered := true } (some ⟨wallet, amount⟩)
  | topUp (participantId : Bytes32) (wallet : Address) (targetBalance : Uint 256)
      (operationId : Bytes32) (amount : ℕ) (cumulative : Uint 128) (distributed : Uint 256)
      (htops : TopsUp d b participantId wallet targetBalance operationId true s amount cumulative
        distributed) :
      Effect P d b sender s (.topUp participantId wallet targetBalance operationId)
        { s.withTopUp d b participantId wallet operationId amount cumulative distributed with
          entered := true } (some ⟨wallet, amount⟩)

theorem finish_eq_ok {r : Except Error State} {o : Outcome State Payout} :
    finish r = .ok o ↔ ∃ s', r = .ok s' ∧ o = .done s' := by
  unfold finish
  cases r with
  | error e => simp [bind, Except.bind]
  | ok s' => simp [bind, Except.bind, pure, Except.pure, eq_comm]

/-- Every successful operation is one of the effects. -/
theorem Op.effect {msg : Msg} {op : Op} {o : Outcome State Payout}
    (h : op.apply P d b msg s = .ok o) : Effect P d b msg.sender s op o.state o.frame? := by
  cases op with
  | access op =>
    obtain ⟨s', hs', rfl⟩ := finish_eq_ok.mp h
    obtain ⟨roles, -, hs'⟩ := bind_eq_ok.mp hs'
    obtain rfl := pure_eq_ok.mp hs'
    exact .administer _ _ _ (fun _ ↦ rfl) ⟨rfl, rfl, rfl⟩
  | registerAndTopUp participantId wallet operationId =>
    obtain ⟨hregisters, ⟨hrich, rfl⟩ | ⟨amount, cumulative, distributed, htops, rfl⟩⟩ :=
      registerAndTopUp_ok h
    · exact .register participantId wallet operationId hregisters hrich
    · exact .registerAndTopUp participantId wallet operationId amount cumulative distributed
        hregisters htops
  | topUp participantId wallet targetBalance operationId =>
    obtain ⟨-, -, -, amount, cumulative, distributed, htops, rfl⟩ := topUp_ok h
    exact .topUp participantId wallet targetBalance operationId amount cumulative distributed htops
  | setParticipantActive participantId active =>
    obtain ⟨s', hs', rfl⟩ := finish_eq_ok.mp h
    simp only [Distributor.setParticipantActive, onlyRole_bind_eq_ok, revertIf_bind_eq_ok,
      pure_eq_ok] at hs'
    obtain ⟨-, hregistered, rfl⟩ := hs'
    exact .setParticipantActive participantId active hregistered
  | pause =>
    obtain ⟨s', hs', rfl⟩ := finish_eq_ok.mp h
    simp only [Distributor.pause, onlyRole_bind_eq_ok, revertIf_bind_eq_ok, pure_eq_ok] at hs'
    obtain ⟨-, -, rfl⟩ := hs'
    exact .administer _ _ _ (fun _ ↦ rfl) ⟨rfl, rfl, rfl⟩
  | unpause =>
    obtain ⟨s', hs', rfl⟩ := finish_eq_ok.mp h
    simp only [Distributor.unpause, onlyRole_bind_eq_ok, revertIf_bind_eq_ok, pure_eq_ok] at hs'
    obtain ⟨-, -, rfl⟩ := hs'
    exact .administer _ _ _ (fun _ ↦ rfl) ⟨rfl, rfl, rfl⟩
  | emergencyWithdraw recipient amount =>
    simp only [Op.apply, Distributor.emergencyWithdraw, onlyRole_bind_eq_ok, revertIf_bind_eq_ok,
      pure_eq_ok] at h
    obtain ⟨-, -, -, -, -, rfl⟩ := h
    exact .administer _ _ _ (fun _ ↦ rfl) ⟨rfl, rfl, rfl⟩
  | receive =>
    obtain ⟨s', hs', rfl⟩ := finish_eq_ok.mp h
    simp only [Distributor.receive, revertIf_bind_eq_ok, pure_eq_ok] at hs'
    obtain ⟨-, rfl⟩ := hs'
    exact .administer _ _ _ (fun _ ↦ rfl) ⟨rfl, rfl, rfl⟩
  | elsewhere balances =>
    obtain ⟨s', hs', rfl⟩ := finish_eq_ok.mp h
    simp only [Distributor.elsewhere, revertIf_bind_eq_ok, pure_eq_ok] at hs'
    obtain ⟨-, rfl⟩ := hs'
    exact .administer _ _ _ (fun _ ↦ rfl) ⟨rfl, rfl, rfl⟩

/-! ## Small steps -/

/-- The small steps: time passes, one call takes effect, or a payment has returned. -/
inductive Small (P : Primitives) (d : Deployment) (w : DistributorWorld) : DistributorWorld → Prop
  | tick (b : Block) (h : w.block.timestamp ≤ b.timestamp) : Small P d w { w with block := b }
  | call (msg : Msg) (op : Op) (s : State) (callout : Option Payout)
      (h : Effect P d w.block msg.sender w.state op s callout) :
      Small P d w ⟨w.block, s, ⟨w.block, msg, op, w.state, callout⟩ :: w.journal⟩
  | resume : Small P d w { w with state := { w.state with entered := false } }

theorem micro_small {w w' : DistributorWorld} (h : (contract P d).Micro w w') : Small P d w w' := by
  cases h with
  | tick b hb => exact .tick b hb
  | call msg op o ho =>
    rw [World.log_eq]
    obtain ⟨-, ho⟩ := revertIf_bind_eq_ok.mp ho
    obtain ⟨-, ho⟩ := revertIf_bind_eq_ok.mp ho
    exact .call msg op o.state o.frame? (Op.effect ho)
  | resume payout success s hs =>
    obtain ⟨-, hs⟩ := revertIf_bind_eq_ok.mp hs
    obtain rfl := pure_eq_ok.mp hs
    exact .resume

/-- A property of the fresh distributor that every small step preserves holds throughout all runs. -/
theorem Observable.invariant {I : DistributorWorld → Prop}
    (hgenesis : ∀ b balances, 0 < b.timestamp → I (genesis P d b balances))
    (hstep : ∀ w w', Observable P d w → I w → Small P d w w' → I w') {w : DistributorWorld}
    (h : Observable P d w) : I w := by
  obtain ⟨b, balances, hpos, hb⟩ := h
  apply run_invariant _ hb (hgenesis b balances hpos)
  intro v v' hrun hv hm
  exact hstep v v' ⟨b, balances, hpos, hrun⟩ hv (micro_small hm)

theorem Small.timestamp_le {w w' : DistributorWorld} (h : Small P d w w') :
    w.block.timestamp ≤ w'.block.timestamp := by
  cases h with
  | tick b hb => exact hb
  | call | resume => exact le_rfl

end CreatorFirst.Distributor
