import CreatorFirst.Distributor.Accounts

/-!
# Caps on distribution

No participant and no day receives more than its cap, every top-up respects the limits of one payment
and the participant's cooldown, and the caps are never what a subtraction trips over.
-/

namespace CreatorFirst.Distributor

open Chain Relation

variable {P : Primitives} {d : Deployment} {b : Block} {sender : Address} {s s' : State}

/-! ## Cooldown -/

/-- A top-up comes no sooner than the cooldown after an earlier distribution to its participant. -/
def Spaced (newer older : DistributorEntry) : Prop :=
  ∀ x y, newer.op.isTopUp = true → distribution newer = some x → distribution older = some y →
    x.participantId = y.participantId →
    older.block.timestamp + TOP_UP_COOLDOWN ≤ newer.block.timestamp

/-- Every participant's last time is the latest of its distributions, and the cooldown was kept. -/
structure Timed (w : DistributorWorld) : Prop where
  started : 0 < w.block.timestamp
  last_le : ∀ p, w.state.last p ≤ w.block.timestamp
  noted : ∀ e ∈ w.journal, ∀ x, distribution e = some x →
    0 < e.block.timestamp ∧ e.block.timestamp ≤ w.state.last x.participantId
  spaced : w.journal.Pairwise Spaced
  paid : ∀ e ∈ w.journal, e.op.isTopUp = true → (distribution e).isSome

/-- A step without a distribution keeps the times. -/
theorem Timed.quiet {w w' : DistributorWorld} (hw : Timed w) (hquiet : Quiet w.state w'.state)
    (htime : w.block.timestamp ≤ w'.block.timestamp)
    (hjournal : w'.journal = w.journal ∨ ∃ e, w'.journal = e :: w.journal ∧ distribution e = none ∧
      e.op.isTopUp = false) : Timed w' := by
  have hstarted := hw.started.trans_le htime
  have hlast : ∀ p, w'.state.last p ≤ w'.block.timestamp := by
    intro p
    rw [hquiet.last]
    exact (hw.last_le p).trans htime
  obtain hsame | ⟨e, hcons, hnone, hop⟩ := hjournal
  · refine ⟨hstarted, hlast, ?_, hsame ▸ hw.spaced, hsame ▸ hw.paid⟩
    rw [hsame, hquiet.last]
    exact hw.noted
  · refine ⟨hstarted, hlast, ?_, ?_, ?_⟩
    · rw [hcons, hquiet.last, forall_distribution_cons_of_none hnone]
      exact hw.noted
    · rw [hcons]
      refine List.pairwise_cons.mpr ⟨fun older _ x y hop' ↦ ?_, hw.spaced⟩
      rw [hop] at hop'
      cases hop'
    · rw [hcons, List.forall_mem_cons, hop]
      exact ⟨fun hop' ↦ (by cases hop'), hw.paid⟩

/-- A distribution keeps the times if its participant has cooled down. -/
theorem Timed.pays {w w' : DistributorWorld} (hw : Timed w) {e : DistributorEntry}
    {x : Distribution} (hjournal : w'.journal = e :: w.journal) (hblock : e.block = w.block)
    (hbefore : e.before = w.state) (hblock' : w'.block = w.block) (hx : distribution e = some x)
    (hpays : Pays d e x w'.state) (hrested : Rested e x) (hlt : w.block.timestamp < 2 ^ 64) :
    Timed w' := by
  have hlast : ∀ p, w'.state.last p =
      if p = x.participantId then w.block.timestamp else w.state.last p := by
    intro p
    rw [hpays.last_eq p, hblock, Nat.mod_eq_of_lt hlt, hbefore]
  constructor
  case started =>
    rw [hblock']
    exact hw.started
  case last_le =>
    intro p
    rw [hlast p, hblock']
    split
    · exact le_rfl
    · exact hw.last_le p
  case noted =>
    rw [hjournal, forall_distribution_cons_of_some hx]
    constructor
    · rw [hlast, if_pos rfl, hblock]
      exact ⟨hw.started, le_rfl⟩
    · intro e' he' y hy
      obtain ⟨hpos, hle⟩ := hw.noted e' he' y hy
      refine ⟨hpos, ?_⟩
      rw [hlast]
      split
      · exact hle.trans (hw.last_le _)
      · exact hle
  case spaced =>
    rw [hjournal]
    refine List.pairwise_cons.mpr ⟨fun older holder x' y hop hx' hy hsame ↦ ?_, hw.spaced⟩
    obtain rfl := Option.some.inj (hx.symm.trans hx')
    -- the last time on record is no earlier than the older distribution, and it is not zero
    obtain ⟨hpos, hle⟩ := hw.noted older holder y hy
    have hrest := hrested hop
    rw [hbefore, hsame] at hrest
    calc older.block.timestamp + TOP_UP_COOLDOWN
        ≤ w.state.last y.participantId + TOP_UP_COOLDOWN := Nat.add_le_add_right hle _
      _ ≤ e.block.timestamp := hrest (hpos.trans_le hle).ne'
  case paid =>
    rw [hjournal, List.forall_mem_cons, hx]
    exact ⟨fun _ ↦ rfl, hw.paid⟩

theorem Small.timed {w w' : DistributorWorld} (hkept : WellKept w.state) (hw : Timed w)
    (hlt : w.block.timestamp < 2 ^ 64) (h : Small P d w w') : Timed w' := by
  obtain ⟨hquiet, hjournal⟩ | ⟨e, x, hjournal, hblock, hbefore, hblock', hx, hpays, hrested⟩ :=
    h.change hkept
  · exact hw.quiet hquiet h.timestamp_le hjournal
  · exact hw.pays hjournal hblock hbefore hblock' hx hpays hrested hlt

theorem Observable.timed {w : DistributorWorld} (h : Observable P d w)
    (hlt : w.block.timestamp < 2 ^ 64) : Timed w := by
  revert hlt
  apply h.invariant (I := fun w ↦ w.block.timestamp < 2 ^ 64 → Timed w)
  · intro b balances hpos _
    exact ⟨hpos, fun _ ↦ Nat.zero_le _, fun _ he ↦ (by cases he), List.Pairwise.nil,
      fun _ he ↦ (by cases he)⟩
  · intro v v' hv hw hs hlt'
    have hlt := hs.timestamp_le.trans_lt hlt'
    exact hs.timed hv.wellKept (hw hlt) hlt

/-! ## Amounts -/

/-- Every distribution was positive, within the limit of one payment, and filled up no further than
its target. -/
def Limited (w : DistributorWorld) : Prop :=
  ∀ e ∈ w.journal, ∀ x, distribution e = some x →
    0 < x.amount ∧ x.amount ≤ MAX_PER_DISTRIBUTION ∧
      x.amount ≤ x.targetBalance - e.before.balances x.wallet

theorem Small.limited {w w' : DistributorWorld} (hkept : WellKept w.state) (hw : Limited w)
    (h : Small P d w w') : Limited w' := by
  obtain ⟨-, hsame | ⟨e, hcons, hnone, -⟩⟩ | ⟨e, x, hjournal, -, -, -, hx, hpays, -⟩ :=
    h.change hkept
  · rw [Limited, hsame]
    exact hw
  · rw [Limited, hcons, forall_distribution_cons_of_none hnone]
    exact hw
  · rw [Limited, hjournal, forall_distribution_cons_of_some hx]
    have hgap := hpays.amount_le_gap
    exact ⟨⟨hpays.amount_pos, hpays.amount_le, by omega⟩, hw⟩

theorem Observable.limited {w : DistributorWorld} (h : Observable P d w) : Limited w :=
  h.invariant (I := Limited) (fun _ _ _ _ he ↦ (by cases he)) fun _ _ hv hw hs ↦
    hs.limited hv.wellKept hw

/-! ## No arithmetic fails -/

theorem sub_bind_eq_panic {α : Type} {x y : ℕ} {f : ℕ → Except Error α} :
    (sub x y >>= f) = .error .arithmeticPanic ↔
      x < y ∨ y ≤ x ∧ f (x - y) = .error .arithmeticPanic := by
  unfold sub
  split
  · next h => simp [h, bind, Except.bind]
  · next h => simp [h, bind, Except.bind, not_le.mp h]

theorem onlyRole_bind_eq_panic {α : Type} {role : Bytes32} {f : Unit → Except Error α} :
    (onlyRole sender role s >>= f) = .error .arithmeticPanic ↔
      s.roles role sender = true ∧ f () = .error .arithmeticPanic := by
  unfold onlyRole
  rw [revertIf_bind_eq_error, Bool.not_eq_false]
  simp

theorem fit_ne_error {w n : ℕ} (h : n < 2 ^ w) :
    (Uint.fit Error.arithmeticPanic n : Except Error (Uint w)) ≠ .error .arithmeticPanic := by
  simp [Uint.fit, h]

theorem topUpCore_ne_panic (hs : WellKept s) {participantId : Bytes32} {wallet : Address}
    {targetBalance : ℕ} {operationId : Bytes32} {enforceCooldown : Bool} :
    topUpCore d b participantId wallet targetBalance operationId enforceCooldown s ≠
      .error .arithmeticPanic := by
  intro h
  have hcap := hs.cap participantId
  have hday := hs.day_cap (day b.timestamp)
  unfold State.cumulative at hcap
  simp only [topUpCore, revertIf_bind_eq_error, sub_bind_eq_panic, reduceCtorEq, and_false,
    false_or] at h
  obtain ⟨-, -, -, -, -, hbelow, -, hlow | ⟨-, -, hgap | ⟨-, hspent | ⟨-, hwithin, -, h⟩⟩⟩⟩ := h
  · exact absurd hcap (not_le.mpr hlow)
  · exact hbelow hgap.le
  · exact absurd hday (not_le.mpr hspent)
  · -- The sums stay below the caps, which fit their words.
    have hamount := Nat.mod_le (min (targetBalance - s.balances wallet) (min MAX_PER_DISTRIBUTION
      (LIFETIME_CAP_PER_PARTICIPANT - (s.participants participantId).cumulativeDistributed)))
      (2 ^ 128)
    unfold LIFETIME_CAP_PER_PARTICIPANT at hcap hamount
    unfold DAILY_GLOBAL_BUDGET at hday hwithin
    obtain hadd | ⟨cumulative, -, h⟩ := bind_eq_error.mp h
    · refine fit_ne_error ?_ hadd
      rw [Uint.truncate_val]
      unfold LIFETIME_CAP_PER_PARTICIPANT
      omega
    · obtain hfit | ⟨distributed, -, h⟩ := bind_eq_error.mp h
      · refine fit_ne_error ?_ hfit
        omega
      · cases h

theorem finish_eq_error {r : Except Error State} {e : Error} :
    finish r = .error e ↔ r = .error e := by
  unfold finish
  cases r <;> simp [bind, Except.bind, pure, Except.pure]

theorem accessOp_ne_panic {op : RoleOp} : accessOp sender op s ≠ .error .arithmeticPanic := by
  unfold accessOp
  cases s.roles.apply sender op <;> simp [bind, Except.bind, Except.mapError, pure, Except.pure]

theorem registerAndTopUp_ne_panic (hs : WellKept s) {participantId : Bytes32} {wallet : Address}
    {operationId : Bytes32} :
    registerAndTopUp P d b sender participantId wallet operationId s ≠ .error .arithmeticPanic := by
  intro h
  simp only [registerAndTopUp, onlyRole_bind_eq_panic, revertIf_bind_eq_error, reduceCtorEq,
    and_false, false_or] at h
  obtain ⟨hrole, hpaused, hentered, hids, hwallet, hregistered, hfree, h⟩ := h
  have hregisters : Registers P sender participantId wallet s :=
    ⟨hrole, Bool.eq_false_iff.mpr hpaused, Bool.eq_false_iff.mpr hentered, (not_or.mp hids).1,
      hwallet, not_not.mp hregistered, not_not.mp hfree⟩
  split at h
  · obtain hcore | ⟨r, -, h⟩ := bind_eq_error.mp h
    · exact topUpCore_ne_panic (hs.withParticipant (b := b) hregisters) hcore
    · cases h
  · cases h

theorem topUp_ne_panic (hs : WellKept s) {participantId : Bytes32} {wallet : Address}
    {targetBalance : Uint 256} {operationId : Bytes32} :
    topUp P d b sender participantId wallet targetBalance operationId s ≠
      .error .arithmeticPanic := by
  intro h
  simp only [topUp, onlyRole_bind_eq_panic, revertIf_bind_eq_error, reduceCtorEq, and_false,
    false_or] at h
  obtain ⟨-, -, -, h⟩ := h
  obtain hcore | ⟨r, -, h⟩ := bind_eq_error.mp h
  · exact topUpCore_ne_panic hs hcore
  · cases h

/-- Whatever is called, no arithmetic fails. -/
theorem call_ne_panic (hs : WellKept s) (msg : Msg) (op : Op) :
    call P d b msg op s ≠ .error .arithmeticPanic := by
  intro h
  simp only [call, revertIf_bind_eq_error, reduceCtorEq, and_false, false_or] at h
  obtain ⟨-, -, h⟩ := h
  cases op with
  | access op => exact accessOp_ne_panic (finish_eq_error.mp h)
  | registerAndTopUp participantId wallet operationId => exact registerAndTopUp_ne_panic hs h
  | topUp participantId wallet targetBalance operationId => exact topUp_ne_panic hs h
  | setParticipantActive participantId active =>
    simp [Op.apply, finish_eq_error, Distributor.setParticipantActive, onlyRole_bind_eq_panic,
      revertIf_bind_eq_error, pure, Except.pure] at h
  | pause =>
    simp [Op.apply, finish_eq_error, Distributor.pause, onlyRole_bind_eq_panic,
      revertIf_bind_eq_error, pure, Except.pure] at h
  | unpause =>
    simp [Op.apply, finish_eq_error, Distributor.unpause, onlyRole_bind_eq_panic,
      revertIf_bind_eq_error, pure, Except.pure] at h
  | emergencyWithdraw recipient amount =>
    simp [Op.apply, Distributor.emergencyWithdraw, onlyRole_bind_eq_panic, revertIf_bind_eq_error,
      pure, Except.pure] at h
  | receive =>
    simp [Op.apply, finish_eq_error, Distributor.receive, revertIf_bind_eq_error, pure,
      Except.pure] at h
  | elsewhere balances =>
    simp [Op.apply, finish_eq_error, Distributor.elsewhere, revertIf_bind_eq_error, pure,
      Except.pure] at h

/-- The preview of a top-up does not fail either. -/
theorem previewTopUp_ne_error (hs : WellKept s) {participantId : Bytes32} {wallet : Address}
    {targetBalance : Uint 256} (e : Error) :
    previewTopUp d b participantId wallet targetBalance s ≠ .error e := by
  have hcap := hs.cap participantId
  have hday := hs.day_cap (day b.timestamp)
  unfold State.cumulative at hcap
  simp only [previewTopUp]
  split
  · simp [pure, Except.pure]
  · split
    · simp [pure, Except.pure]
    · split
      · simp [pure, Except.pure]
      · next hbelow =>
        simp [sub, hcap, hday, (not_le.mp hbelow).le, bind, Except.bind, pure, Except.pure]

/-! ## Every run -/

/-- What holds of the distributor at any time. -/
structure DistributionSafe (w : DistributorWorld) : Prop where
  lifetime_cap : ∀ p, ((w.state.participants p).cumulativeDistributed : ℕ) ≤
    LIFETIME_CAP_PER_PARTICIPANT
  daily_budget : ∀ x, (w.state.distributedByDay x : ℕ) ≤ DAILY_GLOBAL_BUDGET
  participants_sum : ∑ p, ((w.state.participants p).cumulativeDistributed : ℕ) = sent w.journal
  days_sum : ∑ x, (w.state.distributedByDay x : ℕ) = sent w.journal
  limited : ∀ e ∈ w.journal, ∀ x, distribution e = some x →
    0 < x.amount ∧ x.amount ≤ MAX_PER_DISTRIBUTION ∧
      x.amount ≤ x.targetBalance - e.before.balances x.wallet
  spaced : w.journal.Pairwise Spaced
  top_ups_pay : ∀ e ∈ w.journal, e.op.isTopUp = true → (distribution e).isSome
  inverse : ∀ p a, p ≠ 0 → a ≠ 0 →
    ((w.state.participants p).wallet = a ↔ w.state.participantIdByWallet a = p)
  no_participant : (w.state.participants 0).wallet = 0
  no_wallet : w.state.participantIdByWallet 0 = 0

theorem Observable.distributionSafe {w : DistributorWorld} (h : Observable P d w)
    (hlt : w.block.timestamp < 2 ^ 64) : DistributionSafe w where
  lifetime_cap := h.wellKept.cap
  daily_budget := h.wellKept.day_cap
  participants_sum := h.balanced.participants_sum
  days_sum := h.balanced.days_sum
  limited := h.limited
  spaced := (h.timed hlt).spaced
  top_ups_pay := (h.timed hlt).paid
  inverse := h.wellKept.inverse
  no_participant := h.wellKept.no_participant
  no_wallet := h.wellKept.no_wallet

/-- What one call writes is exact: the amount and the times lose nothing when they are narrowed, and
a distribution moves just its amount. -/
structure WrittenExactly (d : Deployment) (e : DistributorEntry) (s' : State) : Prop where
  pays : ∀ x, distribution e = some x →
    Pays d e x s' ∧ s'.last x.participantId = e.block.timestamp
  registeredAt : ∀ participantId wallet operationId,
    e.op = .registerAndTopUp participantId wallet operationId →
    ((s'.participants participantId).registeredAt : ℕ) = e.block.timestamp

theorem Effect.registeredAt {participantId : Bytes32} {wallet : Address} {operationId : Bytes32}
    {callout : Option Payout} (hlt : b.timestamp < 2 ^ 64)
    (h : Effect P d b sender s (.registerAndTopUp participantId wallet operationId) s' callout) :
    ((s'.participants participantId).registeredAt : ℕ) = b.timestamp := by
  have hexact : (Uint.truncate 64 b.timestamp : ℕ) = b.timestamp := Uint.truncate_of_lt hlt
  cases h with
  | administer _ _ _ hop => cases hop ⟨0, 0⟩
  | register => simpa [State.withParticipant] using hexact
  | registerAndTopUp => simpa [State.withTopUp, State.withParticipant] using hexact

theorem Small.writtenExactly {w w' : DistributorWorld} (hkept : WellKept w.state)
    (h : Small P d w w') (hlt : w.block.timestamp < 2 ^ 64) {e : DistributorEntry}
    (hjournal : w'.journal = e :: w.journal) : WrittenExactly d e w'.state := by
  constructor
  · intro x hx
    obtain ⟨-, hnone⟩ | ⟨e', x', hcons, hblock, -, -, hx', hpays, -⟩ := h.change hkept
    · obtain hsame | ⟨e', hcons, hnone, -⟩ := hnone
      · exact absurd (congrArg List.length (hsame.symm.trans hjournal)) (by simp)
      · obtain rfl := (List.cons.inj (hcons.symm.trans hjournal)).1
        rw [hnone] at hx
        cases hx
    · obtain rfl := (List.cons.inj (hcons.symm.trans hjournal)).1
      obtain rfl := Option.some.inj (hx'.symm.trans hx)
      refine ⟨hpays, ?_⟩
      rw [hpays.last_eq, if_pos rfl, hblock, Nat.mod_eq_of_lt hlt]
  · intro participantId wallet operationId hop
    cases h with
    | tick | resume => exact absurd (congrArg List.length hjournal) (by simp)
    | call msg op s callout heff =>
      obtain rfl := (List.cons.inj hjournal).1
      obtain rfl : op = _ := hop
      exact heff.registeredAt hlt

theorem afterPayout_ne_ok (payout : Payout) : afterPayout payout false s ≠ .ok s' := by
  simp [afterPayout, revertIf, bind, Except.bind]

/-- Caps, sums, limits, cooldown and registrations hold throughout every run; no arithmetic ever
fails and no cast loses anything; and a payment that fails leaves no trace. -/
theorem distribution_capped :
    (∀ w, Observable P d w → w.block.timestamp < 2 ^ 64 → DistributionSafe w) ∧
    (∀ w w', Observable P d w → (contract P d).Micro w w' → w.block.timestamp < 2 ^ 64 →
      ∀ e, w'.journal = e :: w.journal → WrittenExactly d e w'.state) ∧
    (∀ w, Observable P d w →
      (∀ msg op, call P d w.block msg op w.state ≠ .error .arithmeticPanic) ∧
      ∀ participantId wallet targetBalance e,
        previewTopUp d w.block participantId wallet targetBalance w.state ≠ .error e) ∧
    (∀ (w : DistributorWorld) (tx : DistributorTx) s payout,
      (contract P d).call tx.block tx.msg tx.op w.state = .ok (.callout s payout) →
      tx.success = false → (contract P d).transact tx w = { w with block := tx.block }) ∧
    ∀ (w : DistributorWorld) msg op inner rest s payout,
      (contract P d).call w.block msg op w.state = .ok (.callout s payout) →
      (contract P d).runCalls (.cons msg op inner false rest) w =
        (contract P d).runCalls rest w := by
  have hfails : ∀ payout b s s', (contract P d).resume b payout false s ≠ .ok s' :=
    fun payout _ _ _ ↦ afterPayout_ne_ok payout
  refine ⟨fun w hw hlt ↦ hw.distributionSafe hlt,
    fun w w' hw hm hlt e hjournal ↦ (micro_small hm).writtenExactly hw.wellKept hlt hjournal,
    fun w hw ↦ ⟨call_ne_panic hw.wellKept, fun _ _ _ ↦ previewTopUp_ne_error hw.wellKept⟩,
    fun w tx s payout hcall hsuccess ↦ ?_, fun w msg op inner rest s payout hcall ↦ ?_⟩
  · obtain ⟨e, he⟩ : ∃ e, (contract P d).attempt tx.msg tx.op tx.inner tx.success
        { w with block := tx.block } = .error e :=
      Contract.attempt_error_of_resume hcall (hsuccess ▸ hfails payout)
    exact Contract.transact_of_error he
  · obtain ⟨e, he⟩ : ∃ e, (contract P d).attempt msg op inner false w = .error e :=
      Contract.attempt_error_of_resume hcall (hfails payout)
    exact Contract.runCalls_cons_of_error he

/-! ## A small run

A participant is registered with its first coins, pays some of them back from inside the payment,
and is topped up again after the cooldown. -/

namespace Sample

def admin : Address := 1
def wallet : Address := 0x50

def hashes : List (Bytes × Bytes32) :=
  [(utf8 "REGISTRAR_ROLE", 0xedcc084d3dcd65a1f7f23c65c46722faca6953d28e43150a467cf43e5c309238),
   (utf8 "DISTRIBUTOR_ROLE",
    0xfbd454f36a7e1a388bd6fc3ab10d434aa4578f811acbbcf33afb1c697486313c),
   (utf8 "PAUSER_ROLE", 0x65d7a28e3265b37a6474929f336521b332c1681b933f6cb9f3376673440d862a)]

def primitives : Primitives where
  keccak256 x := (hashes.lookup x).getD 0
  recover _ _ := none
  verifyProof _ _ _ := false

def deployment : Deployment where
  self := 0x1000
  admin := admin
  registrar := admin
  distributor := admin
  admin_ne := by decide
  registrar_ne := by decide
  distributor_ne := by decide

def tx (timestamp : ℕ) (sender : Address) (op : Op) : DistributorTx :=
  { block := ⟨timestamp, 80002⟩, msg := ⟨sender, 0⟩, op }

def registration : DistributorTx where
  block := ⟨1000, 80002⟩
  msg := ⟨admin, 0⟩
  op := .registerAndTopUp 11 wallet 21
  inner := .cons ⟨wallet, 15 * 10 ^ 15⟩ .receive .nil true
    (.cons ⟨wallet, 0⟩ (.topUp 11 wallet (5 * 10 ^ 16) 22) .nil true .nil)

/-- A top-up that the wallet refuses. -/
def refused : DistributorTx :=
  { tx 3000 admin (.topUp 11 wallet (5 * 10 ^ 16) 24) with success := false }

def history : List DistributorTx :=
  [registration, tx 1700 admin (.topUp 11 wallet (4 * 10 ^ 16) 23)]

/-- The distributor starts with two coins, and the wallet with none. -/
def supply (a : Address) : ℕ := if a = 0x1000 then 2 * 10 ^ 18 else 0

def distributed : DistributorWorld :=
  (contract primitives deployment).run history (genesis primitives deployment ⟨900, 80002⟩ supply)

theorem reachable_distributed : Reachable primitives deployment distributed :=
  ⟨⟨900, 80002⟩, supply, by decide, Contract.reaches_run (by decide)⟩

end Sample

/-- The wallet received two payments, and nothing of a payment that it refuses. -/
theorem distribution_capped_sample :
    DistributionSafe Sample.distributed ∧
    sent Sample.distributed.journal = 55 * 10 ^ 15 ∧
    (contract Sample.primitives Sample.deployment).transact Sample.refused Sample.distributed =
      { Sample.distributed with block := ⟨3000, 80002⟩ } := by
  obtain ⟨hsafe, -, -, hrefused, -⟩ :=
    distribution_capped (P := Sample.primitives) (d := Sample.deployment)
  obtain ⟨s, payout, hcall⟩ : ∃ s payout,
      (contract Sample.primitives Sample.deployment).call Sample.refused.block Sample.refused.msg
        Sample.refused.op Sample.distributed.state = .ok (.callout s payout) :=
    Outcome.exists_callout (by decide +kernel)
  exact ⟨hsafe _ Sample.reachable_distributed.observable (by decide +kernel), by decide +kernel,
    hrefused _ _ s payout hcall rfl⟩

end CreatorFirst.Distributor
