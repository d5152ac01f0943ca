import CreatorFirst.Distributor.OperationIds

/-!
# The preview of a top-up

The preview answers with the least of the gap to the target, the limits of one payment and of the
participant, what the day has left and what the distributor owns. A top-up asks for the first three
and fails where the other two do not cover them, so the two agree unless they cut the amount short.
-/

namespace CreatorFirst.Distributor

open Chain Relation

variable {P : Primitives} {d : Deployment} {b : Block} {sender wallet : Address} {s s' : State}
  {participantId operationId : Bytes32} {targetBalance : Uint 256}

/-! ## Between transactions no payment is under way -/

/-- The guard is set exactly while a payment is under way, and there is at most one. -/
def Guarded (m : Contract.Moment Msg Op State Payout) : Prop :=
  m.opened = [] ∧ m.world.state.entered = false ∨
    ∃ payout, m.opened = [payout] ∧ m.world.state.entered = true

/-- Only a call that finds the guard open pays, and it sets the guard. -/
def GuardKept (s : State) : Outcome State Payout → Prop
  | .done s' => s'.entered = s.entered
  | .callout s' _ => s.entered = false ∧ s'.entered = true

theorem guardKept_finish {r : Except Error State} {o : Outcome State Payout}
    (hr : ∀ s', r = .ok s' → s'.entered = s.entered) (h : finish r = .ok o) : GuardKept s o := by
  obtain ⟨s', hs', rfl⟩ := finish_eq_ok.mp h
  exact hr s' hs'

theorem Op.guardKept {msg : Msg} {op : Op} {o : Outcome State Payout}
    (h : op.apply P d b msg s = .ok o) : GuardKept s o := by
  cases op with
  | access op =>
    apply guardKept_finish _ h
    intro s' hs'
    obtain ⟨roles, -, hs'⟩ := bind_eq_ok.mp hs'
    rw [← pure_eq_ok.mp hs']
  | registerAndTopUp p wallet operationId =>
    obtain ⟨hregisters, ⟨-, rfl⟩ | ⟨amount, cumulative, distributed, -, rfl⟩⟩ :=
      registerAndTopUp_ok h
    · rfl
    · exact ⟨hregisters.not_entered, rfl⟩
  | topUp p wallet targetBalance operationId =>
    obtain ⟨-, -, hentered, amount, cumulative, distributed, -, rfl⟩ := topUp_ok h
    exact ⟨hentered, rfl⟩
  | setParticipantActive p active =>
    apply guardKept_finish _ h
    intro s' hs'
    simp only [Distributor.setParticipantActive, onlyRole_bind_eq_ok, revertIf_bind_eq_ok,
      pure_eq_ok] at hs'
    rw [← hs'.2.2]
  | pause =>
    apply guardKept_finish _ h
    intro s' hs'
    simp only [Distributor.pause, onlyRole_bind_eq_ok, revertIf_bind_eq_ok, pure_eq_ok] at hs'
    rw [← hs'.2.2]
  | unpause =>
    apply guardKept_finish _ h
    intro s' hs'
    simp only [Distributor.unpause, onlyRole_bind_eq_ok, revertIf_bind_eq_ok, pure_eq_ok] at hs'
    rw [← hs'.2.2]
  | emergencyWithdraw recipient amount =>
    simp only [Op.apply, Distributor.emergencyWithdraw, onlyRole_bind_eq_ok, revertIf_bind_eq_ok,
      pure_eq_ok] at h
    obtain ⟨-, -, hentered, -, -, rfl⟩ := h
    exact ⟨Bool.eq_false_iff.mpr hentered, rfl⟩
  | receive =>
    apply guardKept_finish _ h
    intro s' hs'
    simp only [Distributor.receive, revertIf_bind_eq_ok, pure_eq_ok] at hs'
    rw [← hs'.2]
  | elsewhere balances =>
    apply guardKept_finish _ h
    intro s' hs'
    simp only [Distributor.elsewhere, revertIf_bind_eq_ok, pure_eq_ok] at hs'
    rw [← hs'.2]

theorem call_guardKept {msg : Msg} {op : Op} {o : Outcome State Payout}
    (h : call P d b msg op s = .ok o) : GuardKept s o := by
  simp only [call, revertIf_bind_eq_ok] at h
  exact Op.guardKept h.2.2

theorem Guarded.next {m m' : Contract.Moment Msg Op State Payout} (hm : Guarded m)
    (h : (contract P d).Next m m') : Guarded m' := by
  cases h with
  | tick w b hb => exact hm
  | finish w opened msg op s hs =>
    have hkept : s.entered = w.state.entered := call_guardKept hs
    obtain ⟨hnone, hentered⟩ | ⟨payout, hone, hentered⟩ := hm
    · exact .inl ⟨hnone, hkept.trans hentered⟩
    · exact .inr ⟨payout, hone, hkept.trans hentered⟩
  | enter w opened msg op s payout hs =>
    obtain ⟨hopen, hset⟩ : w.state.entered = false ∧ s.entered = true := call_guardKept hs
    obtain ⟨hnone, -⟩ | ⟨payout', -, hentered⟩ := hm
    · exact .inr ⟨payout, congrArg (payout :: ·) hnone, hset⟩
    · exact absurd (hopen.symm.trans hentered) Bool.false_ne_true
  | leave w opened payout success s hs =>
    obtain ⟨-, hs⟩ := revertIf_bind_eq_ok.mp hs
    obtain rfl := pure_eq_ok.mp hs
    obtain ⟨hnone, -⟩ | ⟨payout', hone, -⟩ := hm
    · cases hnone
    · exact .inl ⟨(List.cons.inj hone).2, rfl⟩

/-- No transaction leaves a payment open. -/
theorem Reachable.not_entered {w : DistributorWorld} (h : Reachable P d w) :
    w.state.entered = false := by
  obtain ⟨b, balances, -, hrun⟩ := h
  have hguarded : Guarded ⟨w, []⟩ := by
    apply run_invariant _ hrun.next
    · exact .inl ⟨rfl, rfl⟩
    · intro m m' _ hm hnext
      exact hm.next hnext
  obtain ⟨-, hentered⟩ | ⟨payout, hone, -⟩ := hguarded
  · exact hentered
  · cases hone

/-! ## What a top-up asks for -/

/-- A participant and a wallet whose balance is below a permitted target. -/
structure CanReceive (participantId : Bytes32) (wallet : Address) (targetBalance : ℕ) (s : State) :
    Prop where
  active : (s.participants participantId).active = true
  wallet_eq : (s.participants participantId).wallet = wallet
  target_le : targetBalance ≤ MAX_TARGET_BALANCE
  below : s.balances wallet < targetBalance

/-- The amount that a top-up asks for. -/
def requested (participantId : Bytes32) (wallet : Address) (targetBalance : ℕ) (s : State) : ℕ :=
  min (targetBalance - s.balances wallet)
    (min MAX_PER_DISTRIBUTION (LIFETIME_CAP_PER_PARTICIPANT - s.cumulative participantId))

def todayRemaining (b : Block) (s : State) : ℕ :=
  DAILY_GLOBAL_BUDGET - s.distributedByDay (day b.timestamp)

/-- What the day and the distributor leave of a request. -/
def available (d : Deployment) (b : Block) (participantId : Bytes32) (wallet : Address)
    (targetBalance : ℕ) (s : State) : ℕ :=
  min (min (requested participantId wallet targetBalance s) (todayRemaining b s)) (s.balances d.self)

theorem CanReceive.previewTopUp_eq (hs : WellKept s)
    (h : CanReceive participantId wallet targetBalance s) :
    previewTopUp d b participantId wallet targetBalance s =
      .ok (available d b participantId wallet targetBalance s) := by
  have hcap := hs.cap participantId
  have hday := hs.day_cap (day b.timestamp)
  have hbelow := h.below
  have hpositive : targetBalance ≠ 0 := by
    intro hzero
    rw [hzero] at hbelow
    exact absurd hbelow (Nat.not_lt_zero _)
  unfold State.cumulative at hcap
  simp [previewTopUp, h.active, h.wallet_eq, hpositive, not_lt.mpr h.target_le, not_le.mpr hbelow,
    sub, hcap, hday, hbelow.le, available, requested, todayRemaining, State.cumulative, bind,
    Except.bind, pure, Except.pure]

theorem previewTopUp_of_not_canReceive (h : ¬ CanReceive participantId wallet targetBalance s) :
    previewTopUp d b participantId wallet targetBalance s = .ok 0 := by
  unfold previewTopUp
  dsimp only
  split
  · rfl
  · next hactive =>
    split
    · rfl
    · next hinput =>
      split
      · rfl
      · next hbelow =>
        obtain ⟨hwallet, htarget⟩ := not_or.mp hinput
        obtain ⟨-, htarget⟩ := not_or.mp htarget
        exact absurd ⟨by simpa using hactive, not_not.mp hwallet, not_lt.mp htarget,
          not_le.mp hbelow⟩ h

theorem TopsUp.canReceive {target amount : ℕ} {enforceCooldown : Bool} {cumulative : Uint 128}
    {distributed : Uint 256} (h : TopsUp d b participantId wallet target operationId enforceCooldown
      s amount cumulative distributed) : CanReceive participantId wallet target s :=
  ⟨h.active, h.wallet_eq, h.target_le, h.below⟩

/-- A top-up sends what it asks for, and has it available. -/
theorem TopsUp.amount_eq_available {target amount : ℕ} {enforceCooldown : Bool}
    {cumulative : Uint 128} {distributed : Uint 256} (h : TopsUp d b participantId wallet target
      operationId enforceCooldown s amount cumulative distributed) :
    amount = requested participantId wallet target s ∧
      amount = available d b participantId wallet target s := by
  have hrequested : amount = requested participantId wallet target s := h.amount_eq
  have hday := h.within_day
  have hcovered := h.covered
  refine ⟨hrequested, ?_⟩
  unfold available todayRemaining
  rw [← hrequested]
  omega

/-- A request that the day and the distributor cover passes all checks. -/
theorem CanReceive.exists_topsUp (h : CanReceive participantId wallet targetBalance s)
    (hne : operationId ≠ 0) (hfresh : s.usedOperationIds operationId = false)
    (hrested : (s.participants participantId).lastDistributedAt ≠ 0 →
      ((s.participants participantId).lastDistributedAt : ℕ) + TOP_UP_COOLDOWN ≤ b.timestamp)
    (hcapped : s.cumulative participantId < LIFETIME_CAP_PER_PARTICIPANT)
    (hday : (s.distributedByDay (day b.timestamp) : ℕ) +
      requested participantId wallet targetBalance s ≤ DAILY_GLOBAL_BUDGET)
    (hcovered : requested participantId wallet targetBalance s ≤ s.balances d.self) :
    ∃ cumulative distributed, TopsUp d b participantId wallet targetBalance operationId true s
      (requested participantId wallet targetBalance s) cumulative distributed := by
  have hsmall : requested participantId wallet targetBalance s ≤
      LIFETIME_CAP_PER_PARTICIPANT - s.cumulative participantId :=
    (min_le_right _ _).trans (min_le_right _ _)
  have hcumulative : s.cumulative participantId +
      requested participantId wallet targetBalance s ≤ LIFETIME_CAP_PER_PARTICIPANT := by omega
  have htruncate : (Uint.truncate 128 (requested participantId wallet targetBalance s) : ℕ) =
      requested participantId wallet targetBalance s := by
    apply Uint.truncate_of_lt
    unfold LIFETIME_CAP_PER_PARTICIPANT at hcumulative
    omega
  have hfits : s.cumulative participantId + requested participantId wallet targetBalance s <
      2 ^ 128 := by
    unfold LIFETIME_CAP_PER_PARTICIPANT at hcumulative
    omega
  have hfitsDay : (s.distributedByDay (day b.timestamp) : ℕ) +
      requested participantId wallet targetBalance s < 2 ^ 256 := by
    unfold DAILY_GLOBAL_BUDGET at hday
    omega
  exact ⟨⟨_, hfits⟩, ⟨_, hfitsDay⟩, {
    operation_ne := hne
    operation_fresh := hfresh
    active := h.active
    wallet_eq := h.wallet_eq
    target_le := h.target_le
    below := h.below
    rested := fun _ ↦ hrested
    capped := hcapped
    amount_eq := rfl
    within_day := hday
    covered := hcovered
    cumulative_eq := by rw [htruncate]; rfl
    distributed_eq := rfl }⟩

theorem topUpCore_of_topsUp {target amount : ℕ} {enforceCooldown : Bool} {cumulative : Uint 128}
    {distributed : Uint 256} (h : TopsUp d b participantId wallet target operationId enforceCooldown
      s amount cumulative distributed) :
    topUpCore d b participantId wallet target operationId enforceCooldown s = .ok (amount,
      s.withTopUp d b participantId wallet operationId amount cumulative distributed) := by
  have hbelow := h.below
  have hcapped := h.capped
  have hday := h.within_day
  have hcovered := h.covered
  have hcumulative := h.cumulative_eq
  have hdistributed := h.distributed_eq
  have hamount := h.amount_eq
  subst hamount
  simp only [topUpCore, revertIf_bind_eq_ok, sub_bind_eq_ok, Uint.add_bind_eq_ok]
  have htarget : ¬ (target = 0 ∨ MAX_TARGET_BALANCE < target) := by
    have hle := h.target_le
    omega
  have hcool : ¬ (enforceCooldown = true ∧ (s.participants participantId).lastDistributedAt ≠ 0 ∧
      b.timestamp < (s.participants participantId).lastDistributedAt + TOP_UP_COOLDOWN) :=
    fun hrest ↦ absurd hrest.2.2 (not_lt.mpr (h.rested hrest.1 hrest.2.1))
  refine ⟨h.operation_ne, by simp [h.operation_fresh], by simp [h.active], by simp [h.wallet_eq],
    htarget, not_le.mpr hbelow, hcool, hcapped.le, by omega, hbelow.le, by omega, by omega,
    not_lt.mpr hcovered, cumulative, hcumulative, ?_⟩
  exact bind_eq_ok.mpr ⟨distributed, Uint.fit_eq_ok.mpr hdistributed, rfl⟩

/-! ## Preview and top-up -/

/-- A call of `topUp` that may pass: by an account with the role, with a fresh operation id, while
the distributor is not paused and once the participant has cooled down. -/
structure Ready (P : Primitives) (d : Deployment) (b : Block) (sender : Address)
    (participantId operationId : Bytes32) (s : State) : Prop where
  sender_ne : sender ≠ d.self
  distributor : s.roles (DISTRIBUTOR_ROLE P) sender = true
  operation_ne : operationId ≠ 0
  operation_fresh : s.usedOperationIds operationId = false
  not_paused : s.paused = false
  rested : (s.participants participantId).lastDistributedAt ≠ 0 →
    ((s.participants participantId).lastDistributedAt : ℕ) + TOP_UP_COOLDOWN ≤ b.timestamp

section

variable (P : Primitives) (d : Deployment) (b : Block) (sender : Address) (participantId : Bytes32)
  (wallet : Address) (targetBalance : Uint 256) (operationId : Bytes32) (s : State)

/-- The top-up moves the amount to the wallet, and succeeds if the wallet accepts it, whatever the
wallet calls meanwhile. -/
def Transfers (amount : ℕ) : Prop :=
  ∃ s', call P d b ⟨sender, 0⟩ (.topUp participantId wallet targetBalance operationId) s =
      .ok (.callout s' ⟨wallet, amount⟩) ∧
    Moves amount d.self wallet s.balances s'.balances ∧
    ∀ journal inner, ∃ w', (contract P d).attempt ⟨sender, 0⟩
      (.topUp participantId wallet targetBalance operationId) inner true ⟨b, s, journal⟩ = .ok w'

/-- The top-up fails, whether the wallet would accept it or not. -/
def Refuses : Prop :=
  ∀ journal inner success, ∃ e, (contract P d).attempt ⟨sender, 0⟩
    (.topUp participantId wallet targetBalance operationId) inner success ⟨b, s, journal⟩ = .error e

/-- What the preview announces is what a top-up that may pass transfers, and nothing if it is
zero. -/
def PreviewPredicts : Prop :=
  ∃ amount, previewTopUp d b participantId wallet targetBalance s = .ok amount ∧
    (0 < amount → Ready P d b sender participantId operationId s →
      Transfers P d b sender participantId wallet targetBalance operationId s amount) ∧
    (amount = 0 → Refuses P d b sender participantId wallet targetBalance operationId s)

end

/-- The day and the distributor both have something left, but one of them less than is asked for. -/
structure CutShort (d : Deployment) (b : Block) (participantId : Bytes32) (wallet : Address)
    (targetBalance : ℕ) (s : State) : Prop where
  receives : CanReceive participantId wallet targetBalance s
  capped : s.cumulative participantId < LIFETIME_CAP_PER_PARTICIPANT
  day_left : 0 < todayRemaining b s
  funds_left : 0 < s.balances d.self
  short : min (todayRemaining b s) (s.balances d.self) <
    requested participantId wallet targetBalance s

/-- A request is for something as long as the lifetime cap is not reached. -/
theorem CanReceive.requested_pos {target : ℕ} (h : CanReceive participantId wallet target s) :
    0 < requested participantId wallet target s ↔
      s.cumulative participantId < LIFETIME_CAP_PER_PARTICIPANT := by
  have hbelow := h.below
  unfold requested
  rw [MAX_PER_DISTRIBUTION]
  omega

/-- Something is available exactly if no limit is used up. -/
theorem CanReceive.available_pos {target : ℕ} (h : CanReceive participantId wallet target s) :
    0 < available d b participantId wallet target s ↔
      s.cumulative participantId < LIFETIME_CAP_PER_PARTICIPANT ∧ 0 < todayRemaining b s ∧
        0 < s.balances d.self := by
  rw [← h.requested_pos]
  unfold available
  omega

/-- A successful top-up pays what is available. -/
theorem topUp_available {o : Outcome State Payout}
    (h : call P d b ⟨sender, 0⟩ (.topUp participantId wallet targetBalance operationId) s = .ok o) :
    CanReceive participantId wallet targetBalance s ∧
      0 < available d b participantId wallet targetBalance s ∧
      available d b participantId wallet targetBalance s =
        requested participantId wallet targetBalance s := by
  simp only [call, revertIf_bind_eq_ok] at h
  obtain ⟨-, -, -, amount, cumulative, distributed, htops, -⟩ := topUp_ok h.2.2
  obtain ⟨hrequested, havailable⟩ := htops.amount_eq_available
  have hpos := htops.amount_pos
  rw [havailable] at hpos
  exact ⟨htops.canReceive, hpos, havailable.symm.trans hrequested⟩

theorem refuses_of_no_call
    (h : ∀ o, call P d b ⟨sender, 0⟩ (.topUp participantId wallet targetBalance operationId) s ≠
      .ok o) : Refuses P d b sender participantId wallet targetBalance operationId s := by
  intro journal inner success
  exact Contract.attempt_error_of_call (C := contract P d) h

/-- A top-up that may pass and that the limits cover transfers what it asks for. -/
theorem Ready.transfers (hready : Ready P d b sender participantId operationId s)
    (hentered : s.entered = false) (h : CanReceive participantId wallet targetBalance s)
    (hpos : 0 < requested participantId wallet targetBalance s)
    (hcovered : requested participantId wallet targetBalance s ≤
      min (todayRemaining b s) (s.balances d.self)) :
    Transfers P d b sender participantId wallet targetBalance operationId s
      (requested participantId wallet targetBalance s) := by
  obtain ⟨hday, hfunds⟩ := le_min_iff.mp hcovered
  have hwithin : (s.distributedByDay (day b.timestamp) : ℕ) +
      requested participantId wallet targetBalance s ≤ DAILY_GLOBAL_BUDGET := by
    unfold todayRemaining at hday
    omega
  obtain ⟨cumulative, distributed, htops⟩ := h.exists_topsUp hready.operation_ne
    hready.operation_fresh hready.rested (h.requested_pos.mp hpos) hwithin hfunds
  have htopUp : topUp P d b sender participantId wallet targetBalance operationId s =
      .ok (.callout { s.withTopUp d b participantId wallet operationId
        (requested participantId wallet targetBalance s) cumulative distributed with
        entered := true } ⟨wallet, requested participantId wallet targetBalance s⟩) := by
    simp only [topUp, onlyRole_bind_eq_ok, revertIf_bind_eq_ok]
    refine ⟨hready.distributor, by simp [hready.not_paused], by simp [hentered], ?_⟩
    rw [topUpCore_of_topsUp htops]
    rfl
  have hcall : call P d b ⟨sender, 0⟩ (.topUp participantId wallet targetBalance operationId) s =
      .ok (.callout { s.withTopUp d b participantId wallet operationId
        (requested participantId wallet targetBalance s) cumulative distributed with
        entered := true } ⟨wallet, requested participantId wallet targetBalance s⟩) := by
    simp only [call, revertIf_bind_eq_ok]
    exact ⟨hready.sender_ne, by simp, htopUp⟩
  refine ⟨_, hcall, .of_update hfunds, fun journal inner ↦ ?_⟩
  have hattempt : (contract P d).call b ⟨sender, 0⟩
      (.topUp participantId wallet targetBalance operationId) s = .ok _ := hcall
  simp only [Contract.attempt, Contract.attemptWith, hattempt]
  exact ⟨_, rfl⟩

/-- In every state between transactions, the preview predicts a top-up exactly if it is not one that
may pass and that is cut short. -/
theorem previewTopUp_predicts_iff {w : DistributorWorld} (h : Reachable P d w) (b : Block)
    (sender : Address) (participantId : Bytes32) (wallet : Address) (targetBalance : Uint 256)
    (operationId : Bytes32) :
    PreviewPredicts P d b sender participantId wallet targetBalance operationId w.state ↔
      ¬ (Ready P d b sender participantId operationId w.state ∧
        CutShort d b participantId wallet targetBalance w.state) := by
  have hkept := h.observable.wellKept
  constructor
  · rintro ⟨amount, hpreview, hpositive, -⟩ ⟨hready, hcut⟩
    have hamount : amount = available d b participantId wallet targetBalance w.state :=
      (Except.ok.inj ((hcut.receives.previewTopUp_eq hkept).symm.trans hpreview)).symm
    have hpos : 0 < amount := by
      rw [hamount, hcut.receives.available_pos]
      exact ⟨hcut.capped, hcut.day_left, hcut.funds_left⟩
    obtain ⟨s', hcall, -⟩ := hpositive hpos hready
    obtain ⟨-, -, hcovered⟩ := topUp_available hcall
    have hshort := hcut.short
    unfold available at hcovered
    omega
  · intro hnot
    by_cases hreceives : CanReceive participantId wallet targetBalance w.state
    · refine ⟨_, hreceives.previewTopUp_eq hkept, fun hpos hready ↦ ?_, fun hzero ↦ ?_⟩
      · obtain ⟨hcapped, hday, hfunds⟩ := hreceives.available_pos.mp hpos
        have hcovered : requested participantId wallet targetBalance w.state ≤
            min (todayRemaining b w.state) (w.state.balances d.self) := by
          apply not_lt.mp
          intro hshort
          exact hnot ⟨hready, hreceives, hcapped, hday, hfunds, hshort⟩
        have hall : available d b participantId wallet targetBalance w.state =
            requested participantId wallet targetBalance w.state := by
          unfold available
          omega
        rw [hall]
        exact hready.transfers h.not_entered hreceives (hreceives.requested_pos.mpr hcapped)
          hcovered
      · apply refuses_of_no_call
        intro o hcall
        obtain ⟨-, hpos, -⟩ := topUp_available hcall
        exact absurd hzero hpos.ne'
    · refine ⟨0, previewTopUp_of_not_canReceive hreceives, fun hpos ↦ absurd hpos (lt_irrefl 0),
        fun _ ↦ ?_⟩
      apply refuses_of_no_call
      intro o hcall
      exact hreceives (topUp_available hcall).1

/-! ## A distributor that runs low -/

namespace Sample

/-- The wallet starts with enough coins for its registration and spends them later. -/
def low (a : Address) : ℕ :=
  if a = 0x1000 then 3 * 10 ^ 16 else if a = Sample.wallet then 2 * 10 ^ 16 else 0

def spending : List DistributorTx :=
  [tx 1000 admin (.registerAndTopUp 11 Sample.wallet 21),
   tx 1100 Sample.wallet (.elsewhere (Function.update low Sample.wallet 0))]

def spent : DistributorWorld :=
  (contract primitives deployment).run spending (genesis primitives deployment ⟨900, 80002⟩ low)

theorem reachable_spent : Reachable primitives deployment spent :=
  ⟨⟨900, 80002⟩, low, by decide, Contract.reaches_run (by decide)⟩

end Sample

/-- For a target of two hundredths the distributor has enough. -/
theorem previewTopUp_predicts_sample :
    PreviewPredicts Sample.primitives Sample.deployment ⟨1200, 80002⟩ Sample.admin 11 Sample.wallet
      (2 * 10 ^ 16) 22 Sample.spent.state :=
  (previewTopUp_predicts_iff Sample.reachable_spent _ _ _ _ _ _).mpr fun h ↦
    absurd h.2.short (by decide +kernel)

/-- For a target of five hundredths the preview announces the three that the distributor has, and
the top-up fails. -/
theorem preview_of_failing_topUp :
    Reachable Sample.primitives Sample.deployment Sample.spent ∧
      Ready Sample.primitives Sample.deployment ⟨1200, 80002⟩ Sample.admin 11 22
        Sample.spent.state ∧
      previewTopUp Sample.deployment ⟨1200, 80002⟩ 11 Sample.wallet (5 * 10 ^ 16)
        Sample.spent.state = .ok (3 * 10 ^ 16) ∧
      Refuses Sample.primitives Sample.deployment ⟨1200, 80002⟩ Sample.admin 11 Sample.wallet
        (5 * 10 ^ 16) 22 Sample.spent.state := by
  refine ⟨Sample.reachable_spent, ?_, by decide +kernel, ?_⟩
  · exact ⟨by decide, by decide +kernel, by decide, by decide +kernel, by decide +kernel,
      by decide +kernel⟩
  · apply refuses_of_no_call
    exact ne_ok_of_isOk (by decide +kernel)

end CreatorFirst.Distributor
