import CreatorFirst.Distributor.Effects
import Mathlib.Algebra.BigOperators.Group.Finset.Piecewise

/-!
# The books of the distributor

Counters stay below their caps, wallets and participant ids name each other, and one step either
leaves every counter as it was or is one top-up: it moves its amount from the distributor to the
wallet and adds it to one participant and to the day.
-/

namespace CreatorFirst.Distributor

open Chain

variable {P : Primitives} {d : Deployment} {b : Block} {sender : Address} {s s' : State}

/-- What a participant has received so far. -/
def State.cumulative (s : State) (p : Bytes32) : ℕ := (s.participants p).cumulativeDistributed

/-- The time of a participant's last distribution, zero before the first. -/
def State.last (s : State) (p : Bytes32) : ℕ := (s.participants p).lastDistributedAt

/-! ## Caps and registrations -/

structure WellKept (s : State) : Prop where
  cap : ∀ p, s.cumulative p ≤ LIFETIME_CAP_PER_PARTICIPANT
  day_cap : ∀ x, (s.distributedByDay x : ℕ) ≤ DAILY_GLOBAL_BUDGET
  inverse : ∀ p a, p ≠ 0 → a ≠ 0 →
    ((s.participants p).wallet = a ↔ s.participantIdByWallet a = p)
  no_participant : (s.participants 0).wallet = 0
  no_wallet : s.participantIdByWallet 0 = 0
  blank : ∀ p, (s.participants p).wallet = 0 → s.participants p = .blank

theorem wellKept_initial (balances : Address → ℕ) : WellKept (initialState P d balances) where
  cap _ := Nat.zero_le _
  day_cap _ := Nat.zero_le _
  inverse _ _ hp ha := iff_of_false ha.symm hp.symm
  no_participant := rfl
  no_wallet := rfl
  blank _ _ := rfl

theorem WellKept.administer (hs : WellKept s) (h : Administers s s') : WellKept s' where
  cap p := by
    rw [State.cumulative, h.participants]
    exact hs.cap p
  day_cap x := by
    rw [h.distributedByDay]
    exact hs.day_cap x
  inverse p a hp ha := by
    rw [h.participants, h.participantIdByWallet]
    exact hs.inverse p a hp ha
  no_participant := by
    rw [h.participants]
    exact hs.no_participant
  no_wallet := by
    rw [h.participantIdByWallet]
    exact hs.no_wallet
  blank p hp := by
    rw [h.participants] at hp ⊢
    exact hs.blank p hp

/-- A change to one registered participant that keeps its wallet. -/
theorem WellKept.edit (hs : WellKept s) {p₀ : Bytes32} {participant : Participant}
    (hwallet : participant.wallet = (s.participants p₀).wallet)
    (hregistered : (s.participants p₀).wallet ≠ 0)
    (hcap : (participant.cumulativeDistributed : ℕ) ≤ LIFETIME_CAP_PER_PARTICIPANT) :
    WellKept { s with participants := Function.update s.participants p₀ participant } := by
  have hsame : ∀ p, (Function.update s.participants p₀ participant p).wallet =
      (s.participants p).wallet := by
    intro p
    by_cases hp : p = p₀
    · rw [hp, Function.update_self, hwallet]
    · rw [Function.update_of_ne hp]
  refine ⟨fun p ↦ ?_, hs.day_cap, fun p a hp ha ↦ ?_, (hsame 0).trans hs.no_participant,
    hs.no_wallet, fun p hp ↦ ?_⟩
  · by_cases hp : p = p₀
    · subst hp
      simpa [State.cumulative] using hcap
    · simpa [State.cumulative, hp] using hs.cap p
  · simp only [hsame]
    exact hs.inverse p a hp ha
  · simp only [hsame] at hp ⊢
    have hne : p ≠ p₀ := by
      rintro rfl
      exact hregistered hp
    rw [Function.update_of_ne hne]
    exact hs.blank p hp

theorem WellKept.withParticipant (hs : WellKept s) {p₀ : Bytes32} {wallet : Address}
    (h : Registers P sender p₀ wallet s) : WellKept (s.withParticipant b p₀ wallet) := by
  have hp₀ := h.participant_ne
  have hw₀ := h.wallet_ne
  refine ⟨fun p ↦ ?_, hs.day_cap, fun p a hp ha ↦ ?_, ?_, ?_, fun p hp ↦ ?_⟩
  · by_cases hp : p = p₀
    · subst hp
      simp [State.cumulative, State.withParticipant]
    · simpa [State.cumulative, State.withParticipant, hp] using hs.cap p
  · have hother := hs.inverse p a hp ha
    by_cases hpp : p = p₀
    · subst hpp
      by_cases haa : a = wallet
      · simp [State.withParticipant, haa]
      · -- Before, neither map knew the participant.
        have hunknown : s.participantIdByWallet a ≠ p :=
          fun hid ↦ ha ((hother.mpr hid).symm.trans h.unregistered)
        simp [State.withParticipant, haa, Ne.symm haa, hunknown]
    · by_cases haa : a = wallet
      · subst haa
        have hunknown : (s.participants p).wallet ≠ a :=
          fun hwallet ↦ hp ((hother.mp hwallet).symm.trans h.wallet_free)
        simp [State.withParticipant, hpp, Ne.symm hpp, hunknown]
      · simpa [State.withParticipant, hpp, haa] using hother
  · simpa [State.withParticipant, Function.update_of_ne hp₀.symm] using hs.no_participant
  · simpa [State.withParticipant, Function.update_of_ne hw₀.symm] using hs.no_wallet
  · by_cases hpp : p = p₀
    · subst hpp
      exact absurd hp (by simpa [State.withParticipant] using hw₀)
    · simp only [State.withParticipant, Function.update_of_ne hpp] at hp ⊢
      exact hs.blank p hp

section TopUp

variable {participantId : Bytes32} {wallet : Address} {targetBalance : ℕ} {operationId : Bytes32}
  {enforceCooldown : Bool} {amount : ℕ} {cumulative : Uint 128} {distributed : Uint 256}

/-- An active participant is registered. -/
theorem WellKept.registered (hs : WellKept s) {p : Bytes32}
    (hactive : (s.participants p).active = true) : (s.participants p).wallet ≠ 0 := by
  intro hwallet
  rw [hs.blank p hwallet] at hactive
  cases hactive

theorem TopsUp.wellKept (hs : WellKept s) (h : TopsUp d b participantId wallet targetBalance
    operationId enforceCooldown s amount cumulative distributed) :
    WellKept (s.withTopUp d b participantId wallet operationId amount cumulative distributed) := by
  have hedited : WellKept { s with
      participants := Function.update s.participants participantId
        { s.participants participantId with
          cumulativeDistributed := cumulative
          lastDistributedAt := Uint.truncate 64 b.timestamp } } :=
    hs.edit rfl (hs.registered h.active) h.cumulative_le
  refine ⟨hedited.cap, fun x ↦ ?_, hedited.inverse, hedited.no_participant, hedited.no_wallet,
    hedited.blank⟩
  by_cases hx : x = day b.timestamp
  · subst hx
    simp only [State.withTopUp, Function.update_self]
    exact h.distributed_eq.trans_le h.within_day
  · simpa [State.withTopUp, hx] using hs.day_cap x

end TopUp

theorem Effect.wellKept (hs : WellKept s) {op : Op} {callout : Option Payout}
    (h : Effect P d b sender s op s' callout) : WellKept s' := by
  cases h with
  | administer op s' _ _ hadmin => exact hs.administer hadmin
  | setParticipantActive p active hregistered => exact hs.edit rfl hregistered (hs.cap p)
  | register p wallet operationId hregisters =>
    exact (hs.withParticipant hregisters).administer ⟨rfl, rfl, rfl⟩
  | registerAndTopUp p wallet operationId amount cumulative distributed hregisters htops =>
    exact (htops.wellKept (hs.withParticipant hregisters)).administer ⟨rfl, rfl, rfl⟩
  | topUp p wallet targetBalance operationId amount cumulative distributed htops =>
    exact (htops.wellKept hs).administer ⟨rfl, rfl, rfl⟩

theorem Small.wellKept {w w' : DistributorWorld} (hw : WellKept w.state) (h : Small P d w w') :
    WellKept w'.state := by
  cases h with
  | tick => exact hw
  | resume => exact hw.administer ⟨rfl, rfl, rfl⟩
  | call msg op s callout heff => exact heff.wellKept hw

theorem Observable.wellKept {w : DistributorWorld} (h : Observable P d w) : WellKept w.state :=
  h.invariant (I := fun w ↦ WellKept w.state) (fun _ balances _ ↦ wellKept_initial balances)
    fun _ _ _ hw hs ↦ hs.wellKept hw

/-! ## Registrations -/

/-- What an operation does to the registrations: nothing, or it adds one. -/
inductive RegistrationChange (P : Primitives) (sender : Address) (s : State) (op : Op)
    (s' : State) : Prop
  | same (hop : ∀ participantId wallet operationId,
        op ≠ .registerAndTopUp participantId wallet operationId)
      (hwallet : ∀ p, (s'.participants p).wallet = (s.participants p).wallet)
      (hid : s'.participantIdByWallet = s.participantIdByWallet)
  | registered (participantId : Bytes32) (wallet : Address) (operationId : Bytes32)
      (hop : op = .registerAndTopUp participantId wallet operationId)
      (h : Registers P sender participantId wallet s)
      (hwallet : ∀ p, (s'.participants p).wallet =
        if p = participantId then wallet else (s.participants p).wallet)
      (hid : s'.participantIdByWallet =
        Function.update s.participantIdByWallet wallet participantId)

theorem wallet_withParticipant (p₀ p : Bytes32) (wallet : Address) :
    ((s.withParticipant b p₀ wallet).participants p).wallet =
      if p = p₀ then wallet else (s.participants p).wallet := by
  by_cases hp : p = p₀ <;> simp [State.withParticipant, hp]

theorem wallet_withTopUp (p₀ p : Bytes32) (wallet : Address) (operationId : Bytes32) (amount : ℕ)
    (cumulative : Uint 128) (distributed : Uint 256) :
    ((s.withTopUp d b p₀ wallet operationId amount cumulative distributed).participants p).wallet =
      (s.participants p).wallet := by
  by_cases hp : p = p₀ <;> simp [State.withTopUp, hp]

theorem Effect.registrationChange {op : Op} {callout : Option Payout}
    (h : Effect P d b sender s op s' callout) : RegistrationChange P sender s op s' := by
  cases h with
  | administer op s' _ hop hadmin =>
    apply RegistrationChange.same
    · rintro p wallet operationId rfl
      exact absurd (hop ⟨0, 0⟩) (by simp [Op.distributes])
    · intro p
      rw [hadmin.participants]
    · exact hadmin.participantIdByWallet
  | setParticipantActive p₀ active =>
    refine .same (fun _ _ _ hop ↦ by cases hop) (fun p ↦ ?_) rfl
    by_cases hp : p = p₀ <;> simp [hp]
  | register p₀ wallet operationId hregisters =>
    exact .registered p₀ wallet operationId rfl hregisters
      (fun p ↦ wallet_withParticipant p₀ p wallet) rfl
  | registerAndTopUp p₀ wallet operationId amount cumulative distributed hregisters =>
    refine .registered p₀ wallet operationId rfl hregisters (fun p ↦ ?_) rfl
    calc _ = ((s.withParticipant b p₀ wallet).participants p).wallet :=
          wallet_withTopUp (d := d) p₀ p wallet operationId amount cumulative distributed
      _ = _ := wallet_withParticipant p₀ p wallet
  | topUp p₀ wallet targetBalance operationId amount cumulative distributed =>
    exact .same (fun _ _ _ hop ↦ by cases hop)
      (fun p ↦ wallet_withTopUp (d := d) p₀ p wallet operationId amount cumulative distributed) rfl

/-! ## One top-up -/

/-- What the distribution `x` that the call `e` makes does to the books. -/
structure Pays (d : Deployment) (e : DistributorEntry) (x : Distribution) (s' : State) :
    Prop where
  amount_pos : 0 < x.amount
  amount_le : x.amount ≤ MAX_PER_DISTRIBUTION
  amount_le_gap : e.before.balances x.wallet + x.amount ≤ x.targetBalance
  moves : Moves x.amount d.self x.wallet e.before.balances s'.balances
  cumulative_eq : ∀ p, s'.cumulative p =
    e.before.cumulative p + if p = x.participantId then x.amount else 0
  day_eq : ∀ y, (s'.distributedByDay y : ℕ) =
    e.before.distributedByDay y + if y = day e.block.timestamp then x.amount else 0
  last_eq : ∀ p, s'.last p =
    if p = x.participantId then e.block.timestamp % 2 ^ 64 else e.before.last p

/-- A top-up of a participant that is not its first distribution waits for the cooldown. -/
def Rested (e : DistributorEntry) (x : Distribution) : Prop :=
  e.op.isTopUp = true → e.before.last x.participantId ≠ 0 →
    e.before.last x.participantId + TOP_UP_COOLDOWN ≤ e.block.timestamp

section

variable {participantId : Bytes32} {wallet : Address} {targetBalance : ℕ} {operationId : Bytes32}
  {enforceCooldown : Bool} {amount : ℕ} {cumulative : Uint 128} {distributed : Uint 256}

/-- A top-up after some storage `s₁` that agrees with the one the call found. -/
theorem TopsUp.pays {s₁ : State} {msg : Msg} {op : Op} {callout : Option Payout}
    (h : TopsUp d b participantId wallet targetBalance operationId enforceCooldown s₁ amount
      cumulative distributed)
    (hbalances : s₁.balances = s.balances) (hdays : s₁.distributedByDay = s.distributedByDay)
    (hcumulative : s₁.cumulative = s.cumulative) (hlast : s₁.last = s.last) :
    Pays d ⟨b, msg, op, s, callout⟩ ⟨participantId, wallet, targetBalance, amount⟩
      { s₁.withTopUp d b participantId wallet operationId amount cumulative distributed with
        entered := true } where
  amount_pos := h.amount_pos
  amount_le := h.amount_le_max
  amount_le_gap := hbalances ▸ h.amount_le_gap
  moves := by
    rw [← hbalances]
    exact .of_update h.covered
  cumulative_eq p := by
    rw [← hcumulative]
    by_cases hp : p = participantId
    · subst hp
      simpa [State.cumulative, State.withTopUp] using h.cumulative_exact
    · simp [State.cumulative, State.withTopUp, hp]
  day_eq y := by
    rw [← hdays]
    by_cases hy : y = day b.timestamp
    · subst hy
      simpa [State.withTopUp] using h.distributed_eq
    · simp [State.withTopUp, hy]
  last_eq p := by
    rw [← hlast]
    by_cases hp : p = participantId
    · subst hp
      simp [State.last, State.withTopUp, Uint.truncate_val]
    · simp [State.last, State.withTopUp, hp]

end

theorem cumulative_withParticipant {p₀ : Bytes32} {wallet : Address}
    (h : s.participants p₀ = .blank) :
    (s.withParticipant b p₀ wallet).cumulative = s.cumulative := by
  funext p
  by_cases hp : p = p₀
  · subst hp
    simp [State.cumulative, State.withParticipant, h, Participant.blank]
  · simp [State.cumulative, State.withParticipant, hp]

theorem last_withParticipant {p₀ : Bytes32} {wallet : Address}
    (h : s.participants p₀ = .blank) : (s.withParticipant b p₀ wallet).last = s.last := by
  funext p
  by_cases hp : p = p₀
  · subst hp
    simp [State.last, State.withParticipant, h, Participant.blank]
  · simp [State.last, State.withParticipant, hp]

/-- No counter changes. -/
structure Quiet (s s' : State) : Prop where
  cumulative : s'.cumulative = s.cumulative
  last : s'.last = s.last
  distributedByDay : s'.distributedByDay = s.distributedByDay

/-- What one step does to the counters: nothing, or one distribution. -/
theorem Small.change {w w' : DistributorWorld} (hw : WellKept w.state) (h : Small P d w w') :
    (Quiet w.state w'.state ∧
      (w'.journal = w.journal ∨ ∃ e, w'.journal = e :: w.journal ∧ distribution e = none ∧
        e.op.isTopUp = false)) ∨
    ∃ e x, w'.journal = e :: w.journal ∧ e.block = w.block ∧ e.before = w.state ∧
      w'.block = w.block ∧ distribution e = some x ∧ Pays d e x w'.state ∧ Rested e x := by
  cases h with
  | tick | resume => exact .inl ⟨⟨rfl, rfl, rfl⟩, .inl rfl⟩
  | call msg op s callout heff =>
    cases heff with
    | administer op s' callout hop hadmin =>
      refine .inl ⟨⟨?_, ?_, hadmin.distributedByDay⟩, .inr ⟨_, rfl, ?_, ?_⟩⟩
      · funext p
        rw [State.cumulative, hadmin.participants, State.cumulative]
      · funext p
        rw [State.last, hadmin.participants, State.last]
      · simp [distribution, hop]
      · cases op with
        | topUp => cases hop ⟨0, 0⟩
        | _ => rfl
    | setParticipantActive p₀ active =>
      refine .inl ⟨⟨?_, ?_, rfl⟩, .inr ⟨_, rfl, rfl, rfl⟩⟩ <;>
      · funext p
        by_cases hp : p = p₀
        · subst hp
          simp [State.cumulative, State.last]
        · simp [State.cumulative, State.last, hp]
    | register p wallet operationId hregisters =>
      have hblank := hw.blank p hregisters.unregistered
      exact .inl ⟨⟨cumulative_withParticipant hblank, last_withParticipant hblank, rfl⟩,
        .inr ⟨_, rfl, rfl, rfl⟩⟩
    | registerAndTopUp p wallet operationId amount cumulative distributed hregisters htops =>
      have hblank := hw.blank p hregisters.unregistered
      exact .inr ⟨_, _, rfl, rfl, rfl, rfl, rfl,
        htops.pays rfl rfl (cumulative_withParticipant hblank) (last_withParticipant hblank),
        fun hop ↦ (by cases hop)⟩
    | topUp p wallet targetBalance operationId amount cumulative distributed htops =>
      refine .inr ⟨_, _, rfl, rfl, rfl, rfl, rfl, htops.pays rfl rfl rfl rfl,
        fun _ hlast ↦ htops.rested rfl fun h0 ↦ hlast ?_⟩
      exact congrArg Fin.val h0

/-! ## Sums -/

/-- The distributions of a journal, newest first. -/
def distributions (journal : List DistributorEntry) : List Distribution :=
  journal.filterMap distribution

/-- The coins that were sent by top-ups. -/
def sent (journal : List DistributorEntry) : ℕ := ((distributions journal).map (·.amount)).sum

theorem distributions_cons_of_none {e : DistributorEntry} (h : distribution e = none)
    (journal : List DistributorEntry) : distributions (e :: journal) = distributions journal :=
  List.filterMap_cons_none h

theorem distributions_cons_of_some {e : DistributorEntry} {x : Distribution}
    (h : distribution e = some x) (journal : List DistributorEntry) :
    distributions (e :: journal) = x :: distributions journal :=
  List.filterMap_cons_some h

theorem forall_distribution_cons_of_none {Q : DistributorEntry → Distribution → Prop}
    {e : DistributorEntry} (h : distribution e = none) {journal : List DistributorEntry} :
    (∀ e' ∈ e :: journal, ∀ x, distribution e' = some x → Q e' x) ↔
      ∀ e' ∈ journal, ∀ x, distribution e' = some x → Q e' x := by
  simp [h]

theorem forall_distribution_cons_of_some {Q : DistributorEntry → Distribution → Prop}
    {e : DistributorEntry} {x : Distribution} (h : distribution e = some x)
    {journal : List DistributorEntry} :
    (∀ e' ∈ e :: journal, ∀ x, distribution e' = some x → Q e' x) ↔
      Q e x ∧ ∀ e' ∈ journal, ∀ x, distribution e' = some x → Q e' x := by
  simp [h]

/-- A family that grows at one index has a sum that grows by as much. -/
theorem sum_add_ite {ι : Type} [Fintype ι] [DecidableEq ι] {f g : ι → ℕ} {i : ι} {a : ℕ}
    (h : ∀ j, g j = f j + if j = i then a else 0) : ∑ j, g j = ∑ j, f j + a := by
  simp only [h, Finset.sum_add_distrib, Finset.sum_ite_eq', Finset.mem_univ, if_true]

/-- Participants and days have received what was sent. -/
structure Balanced (w : DistributorWorld) : Prop where
  participants_sum : ∑ p, w.state.cumulative p = sent w.journal
  days_sum : ∑ x, (w.state.distributedByDay x : ℕ) = sent w.journal

theorem Small.balanced {w w' : DistributorWorld} (hkept : WellKept w.state) (hw : Balanced w)
    (h : Small P d w w') : Balanced w' := by
  obtain ⟨hquiet, hjournal⟩ | ⟨e, x, hjournal, hblock, hbefore, -, hx, hpays, -⟩ := h.change hkept
  · have hsent : sent w'.journal = sent w.journal := by
      obtain hsame | ⟨e, hcons, hnone, -⟩ := hjournal
      · rw [hsame]
      · rw [hcons, sent, distributions_cons_of_none hnone, sent]
    constructor
    · rw [hquiet.cumulative, hsent]
      exact hw.participants_sum
    · rw [hquiet.distributedByDay, hsent]
      exact hw.days_sum
  · have hsent : sent w'.journal = sent w.journal + x.amount := by
      rw [hjournal, sent, distributions_cons_of_some hx, List.map_cons, List.sum_cons, add_comm]
      rfl
    constructor
    · calc ∑ p, w'.state.cumulative p
          = ∑ p, e.before.cumulative p + x.amount := sum_add_ite hpays.cumulative_eq
        _ = sent w.journal + x.amount := by rw [hbefore, hw.participants_sum]
        _ = sent w'.journal := hsent.symm
    · calc ∑ y, (w'.state.distributedByDay y : ℕ)
          = ∑ y, (e.before.distributedByDay y : ℕ) + x.amount := sum_add_ite hpays.day_eq
        _ = sent w.journal + x.amount := by rw [hbefore, hw.days_sum]
        _ = sent w'.journal := hsent.symm

theorem Observable.balanced {w : DistributorWorld} (h : Observable P d w) : Balanced w := by
  apply h.invariant (I := Balanced)
  · intro b balances _
    constructor <;> exact Finset.sum_eq_zero fun _ _ ↦ rfl
  · intro v v' hv hw hs
    exact hs.balanced hv.wellKept hw

end CreatorFirst.Distributor
