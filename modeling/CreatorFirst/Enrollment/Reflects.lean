import CreatorFirst.Enrollment.Effects

/-!
# Funded enrollments and the chain

A funded enrollment stands for an approval and an initial funding on the chain, as long as the calls that a
run relies on have the awaited confirmations when it marks the enrollment. A run that finds the funding
completed does not wait for them.
-/

namespace CreatorFirst.Enrollment.Processing

open Chain CreatorFirst.Process Database Funding Gateway Participation

/-- The participant of an enrollment is on record with its wallet and its roles, and funded. -/
structure Recorded (w : FundingWorld) (row : Row) : Prop where
  wallet : (w.state.registry.participants row.participantId).wallet = row.walletAddress
  approvedRoles : ((w.state.registry.participants row.participantId).approvedRoles : ℕ) = row.roleBits
  completed : (w.state.registry.participants row.participantId).initialFundingCompleted = true

/-- What the latest block says about the enrollments. -/
structure Reflects (setup : Setup) (s : State) : Prop where
  recorded : ∀ invitationId row, s.rows.find? invitationId = some row → row.state = .funded →
    Recorded (s.nodes.head setup.primitives setup.deployment) row
  approvedOnce : ∀ p, approvals (s.nodes.head setup.primitives setup.deployment).journal p ≤ 1
  fundedOnce : ∀ p, fundings (s.nodes.head setup.primitives setup.deployment).journal p ≤ 1

/-- Enrollments keep what they were created with, and those that are funded stay so. -/
def KeepsEnrollments (rows rows' : Rows) : Prop :=
  ∀ invitationId row, rows.find? invitationId = some row → ∃ row', rows'.find? invitationId = some row' ∧
    row.SameIdentity row' ∧ (row.state = .funded → row'.state = .funded)

/-- What the table promises about the chain, in a run that starts without enrollments. -/
structure ReflectsChain (setup : Setup) (w : FundingWorld) (actions : List Action) : Prop where
  keeps :
    EachStep (step setup) (fun s a ↦ KeepsEnrollments s.rows (step setup s a).rows) (State.start w) actions
  reflects : AtEachMoment (step setup) (Reflects setup) (State.start w) actions

/-- The approval and the funding of the participant, where the status shows them, have the awaited
confirmations. -/
def Settled (s : State) (m : Mark) : Prop :=
  ∀ e ∈ m.seen.journal, e.op.approves = some m.row.participantId ∨ e.op.funds = some m.row.participantId →
    ∃ e' ∈ s.nodes.confirmed.journal, e'.op = e.op

section

variable {setup : Setup} {s s' : State} {a : Action} {m : Mark} {w w' : FundingWorld} {row row' : Row}

/-! ## Records -/

theorem Recorded.same (h : Recorded w row) (hsame : row.SameIdentity row') : Recorded w row' where
  wallet := by
    rw [hsame.participantId, hsame.walletAddress]
    exact h.wallet
  approvedRoles := by
    rw [hsame.participantId, hsame.roleBits]
    exact h.approvedRoles
  completed := by
    rw [hsame.participantId]
    exact h.completed

theorem wellKept {P : Primitives} {d : Deployment} (h : Reachable P d w) :
    Participants.WellKept w.state.registry := h.observable.registrySide.kept

theorem Recorded.reaches {P : Primitives} {d : Deployment} (hrecorded : Recorded w row)
    (h : Reachable P d w) (hr : (contract P d).Reaches w w') : Recorded w' row := by
  have hpreserves := h.preserves hr
  have hwallet : (w.state.registry.participants row.participantId).wallet ≠ 0 := by
    intro hwallet
    have hcompleted := hrecorded.completed
    rw [(wellKept h).blank _ hwallet] at hcompleted
    cases hcompleted
  constructor
  · rw [hpreserves.wallet _ hwallet]
    exact hrecorded.wallet
  · rw [hpreserves.approvedRoles _ hwallet]
    exact hrecorded.approvedRoles
  · exact hpreserves.initialFundingCompleted _ hrecorded.completed

theorem funds_of_fundingOp? {op : Funding.Op} (h : fundingOp? row op = true) :
    op.funds = some row.participantId := by
  unfold fundingOp? at h
  split at h
  · obtain ⟨rfl, -⟩ := of_decide_eq_true h
    rfl
  · cases h

/-- The confirmed blocks have the funding that the run has waited for. -/
theorem exists_funding_of_mined {nodes : Nodes} (h : mined setup nodes (fundingOp? row) = true) :
    ∃ e ∈ nodes.confirmed.journal, e.op.funds = some row.participantId := by
  obtain ⟨e, he, hop⟩ := List.any_eq_true.mp h
  rw [Bool.and_eq_true] at hop
  exact ⟨e, he, funds_of_fundingOp? hop.2⟩

/-- A mark whose calls have the awaited confirmations is that of a participant who is on record. -/
theorem Mark.Sound.recorded (h : m.Sound setup s) (hs : Processing.Sound setup s)
    (hsettled : Settled s m) :
    Recorded s.nodes.confirmed m.row := by
  have hseen := hs.nodes.heads m.seen h.relies.head
  have hconfirmed := hs.nodes.confirmed
  have happroved : (m.seen.state.registry.participants m.row.participantId).wallet ≠ 0 := by
    intro hwallet
    have hactive := h.relies.active
    rw [(wellKept hseen).blank _ hwallet] at hactive
    cases hactive
  obtain ⟨e, he, expiresAt, hop⟩ := hseen.approved.journal _ happroved
  obtain ⟨e', he', hop'⟩ := hsettled e he (by simp [hop, Op.approves])
  obtain ⟨-, hwallet, hroles⟩ := hconfirmed.approved.record e' he' _ _ _ _ (hop'.trans hop)
  constructor
  · rw [hwallet]
    exact h.relies.wallet
  · rw [hroles]
    exact h.relies.approvedRoles
  · cases hbalances : m.balances with
    | none =>
      obtain ⟨e, he, hop⟩ := hseen.exists_funding (h.completed hbalances)
      obtain ⟨e', he', hop'⟩ := hsettled e he (.inr hop)
      rw [← hop'] at hop
      exact hconfirmed.completed he' hop
    | some balances =>
      obtain ⟨e, he, hop⟩ := exists_funding_of_mined (h.mined (by simp [hbalances]))
      exact hconfirmed.completed he hop

/-! ## Steps -/

theorem keeps_of_quiet {rows rows' : Rows} (h : rows.Quiet rows') : KeepsEnrollments rows rows' := by
  intro invitationId row hfound
  obtain ⟨row', hfound', hsame⟩ := h.kept invitationId row hfound
  refine ⟨row', hfound', hsame, fun hstate ↦ ?_⟩
  have hkept := (h.funded invitationId row hstate).mpr hfound
  rw [hfound'] at hkept
  rwa [Option.some.inj hkept]

theorem keeps_markFunded (rows : Rows) (marked : String) (hash : Option String) (amount : ℕ) (now : Date) :
    KeepsEnrollments rows (rows.markParticipantEnrollmentFunded marked hash amount now) := by
  intro invitationId row hfound
  rw [Rows.find?_markFunded, hfound]
  refine ⟨_, rfl, ?_⟩
  dsimp only
  split
  · exact ⟨⟨rfl, rfl, rfl, rfl⟩, fun _ ↦ rfl⟩
  · exact ⟨.refl row, id⟩

theorem KeepsEnrollments.trans {rows rows' rows'' : Rows} (h : KeepsEnrollments rows rows')
    (h' : KeepsEnrollments rows' rows'') : KeepsEnrollments rows rows'' := by
  intro invitationId row hfound
  obtain ⟨row', hfound', hsame, hstate⟩ := h invitationId row hfound
  obtain ⟨row'', hfound'', hsame', hstate'⟩ := h' invitationId row' hfound'
  exact ⟨row'', hfound'', hsame.trans hsame', fun h ↦ hstate' (hstate h)⟩

theorem Effect.keeps (h : Effect setup s a s') : KeepsEnrollments s.rows s'.rows := by
  cases h with
  | nodes n hmark hgrows hsound hheads hn =>
    subst hn
    exact keeps_of_quiet (.refl s.rows)
  | quiet hmark hquiet => exact keeps_of_quiet hquiet.rows
  | marked m hmark hsound hmarks =>
    obtain ⟨rows, hash, now, hquiet, hrows⟩ := hmarks.rows
    rw [hrows]
    exact (keeps_of_quiet hquiet).trans (keeps_markFunded rows _ hash m.amount now)

/-- The enrollment that a step marks. -/
theorem Marks.find?_marked (h : Marks s m s') (hsound : m.Sound setup s) :
    ∃ row, s'.rows.find? m.row.invitationId = some row ∧ m.row.SameIdentity row ∧ row.state = .funded ∧
      row.initialFundingAmountAtomic = some m.amount := by
  obtain ⟨rows, hash, now, hquiet, hrows⟩ := h.rows
  obtain ⟨kept, hkept, hsame⟩ := hquiet.kept _ _ hsound.found
  rw [hrows, Rows.find?_markFunded, hkept, Option.map_some, if_pos rfl]
  exact ⟨_, rfl, hsame.trans ⟨rfl, rfl, rfl, rfl⟩, rfl, rfl⟩

/-- The other enrollments that are funded after the step are those that were. -/
theorem Marks.find?_of_ne (h : Marks s m s') {invitationId : String} (hne : invitationId ≠ m.row.invitationId)
    (hstate : row.state = .funded) :
    s'.rows.find? invitationId = some row ↔ s.rows.find? invitationId = some row := by
  obtain ⟨rows, hash, now, hquiet, hrows⟩ := h.rows
  rw [hrows, Rows.find?_markFunded]
  simp only [if_neg hne, Option.map_id']
  exact hquiet.funded invitationId row hstate

/-- The enrollments that are funded after a step are those that were, and the one that it marks. -/
theorem Effect.funded_cases (h : Effect setup s a s') {invitationId : String}
    (hfound : s'.rows.find? invitationId = some row) (hstate : row.state = .funded) :
    s.rows.find? invitationId = some row ∨
      ∃ m, mark? s a = some m ∧ m.Sound setup s ∧ s'.nodes = s.nodes ∧ m.row.SameIdentity row := by
  cases h with
  | nodes n hmark hgrows hsound hheads hn =>
    subst hn
    exact .inl hfound
  | quiet hmark hquiet => exact .inl ((hquiet.rows.funded _ _ hstate).mp hfound)
  | marked m hmark hsound hmarks =>
    by_cases hid : invitationId = m.row.invitationId
    · subst hid
      obtain ⟨marked, hmarked, hsame, -⟩ := hmarks.find?_marked hsound
      rw [hfound] at hmarked
      cases hmarked
      exact .inr ⟨m, hmark, hsound, hmarks.nodes, hsame⟩
    · exact .inl ((hmarks.find?_of_ne hid hstate).mp hfound)

/-! ## Runs -/

/-- The confirmed blocks have the participant of each funded enrollment on record. -/
structure Confirmed (setup : Setup) (s : State) : Prop where
  sound : Sound setup s
  recorded : ∀ invitationId row, s.rows.find? invitationId = some row → row.state = .funded →
    Recorded s.nodes.confirmed row

theorem Confirmed.step (h : Confirmed setup s) (hsettled : ∀ m, mark? s a = some m → Settled s m) :
    Confirmed setup (step setup s a) := by
  have heffect := step_effect h.sound a
  refine ⟨h.sound.step a, fun invitationId row hfound hstate ↦ ?_⟩
  obtain hbefore | ⟨m, hmark, hm, hnodes, hsame⟩ := heffect.funded_cases hfound hstate
  · exact (h.recorded _ _ hbefore hstate).reaches h.sound.nodes.confirmed heffect.reaches
  · rw [hnodes]
    exact (hm.recorded h.sound (hsettled m hmark)).same hsame

theorem Confirmed.reflects (h : Confirmed setup s) : Reflects setup s where
  recorded invitationId row hfound hstate :=
    (h.recorded invitationId row hfound hstate).reaches h.sound.nodes.confirmed h.sound.nodes.reaches_head
  approvedOnce := h.sound.nodes.head.approvals_le_one
  fundedOnce := h.sound.nodes.head.fundings_le_one

/-- In every run in which the calls that a status shows have the awaited confirmations whenever an enrollment
is marked as funded by it, the funded enrollments are at each moment those of participants on record. -/
theorem funded_reflects_chain (h : Reachable setup.primitives setup.deployment w) (actions : List Action)
    (hsettled : EachStep (step setup) (fun s a ↦ ∀ m, mark? s a = some m → Settled s m) (State.start w)
      actions) : ReflectsChain setup w actions := by
  have hstart : Confirmed setup (State.start w) := by
    refine ⟨(sound_run h actions).start, fun invitationId row hfound ↦ ?_⟩
    cases hfound
  have hconfirmed : AtEachMoment (step setup) (Confirmed setup) (State.start w) actions :=
    hsettled.keeps (fun _ _ hmark hs ↦ hs.step hmark) hstart
  constructor
  · rw [eachStep_iff]
    intro past a hpast
    have hpast' : past <+: actions := (List.prefix_append past [a]).trans hpast
    exact (step_effect (hconfirmed past hpast').sound a).keeps
  · intro past hpast
    exact (hconfirmed past hpast).reflects

end

/-! ## Small runs

A participant is approved, and its funding is in the latest block. One run waits for the receipt. In the other
one it does not come in time; the next run finds the funding before its block is replaced. -/

namespace Sample

open Participants.Sample (primitives admin operator wallet)
open Funding.Sample (deployment start tx)

def setup : Setup where
  primitives := primitives
  deployment := deployment
  operatorAddress := operator
  getAddress text := if text = "0x0000000000000000000000000000000000000050" then some wallet else none

def now : Date := ⟨900000, by decide⟩

def invitation : Invitation where
  invitationId := "invitation-1"
  tokenHash := "1f"
  email := "listener@example.org"
  displayName := "Listener"
  roleBits := 3
  state := .claimed
  createdAt := now
  expiresAt := now
  claimedAt := some now
  claimedWallet := some "0x0000000000000000000000000000000000000050"
  flowVersion := .v2
  consentVersion := FlowVersion.v2.consentVersion

def process : Action := .process now "invitation-1" (some invitation) 11 21

def approve : FundingTx := tx 1000 operator (.approveClaimedInvitation 11 wallet Participants.ALL_ROLES 260100)

def fund : FundingTx := tx 1010 operator (.fundInitial 11 21)

def approved : List Action :=
  [process, .status now (.ok (0, 0)), .publish [approve], .confirm, .approval now (.ok ⟨"0xa1", 1⟩),
    .status now (.ok (1, 1)), .balance now (.ok 1), .publish [fund]]

def awaited : List Action := approved ++ [.confirm, .funding now (.ok ⟨"0xf1", 2⟩)]

def retried : List Action :=
  approved ++
    [.funding now (.error "Timed out while waiting for transaction"), process, .status now (.ok (2, 2))]

/-- The administrator has paused the registry before the funding. -/
def replaced : List Action := retried ++ [.publish [tx 1005 admin .pause, fund]]

theorem reachable_start : Reachable primitives deployment start := ⟨start, ⟨rfl, fun _ ↦ rfl, rfl⟩, .refl⟩

theorem reaches_funded : (contract primitives deployment).Reaches
    ((contract primitives deployment).run [approve] start)
    (run (step setup) (State.start start) awaited).nodes.confirmed := by
  change (contract primitives deployment).Reaches _
    ((contract primitives deployment).run [fund] ((contract primitives deployment).run [approve] start))
  exact Contract.reaches_run (by decide +kernel)

end Sample

theorem funded_reflects_chain_awaited :
    ReflectsChain Sample.setup Funding.Sample.start (Sample.awaited ++ [.balance Sample.now (.ok 2)]) := by
  apply funded_reflects_chain Sample.reachable_start
  rw [EachStep.concat]
  constructor
  · have hnone : EachStep (step Sample.setup) (fun s a ↦ (mark? s a).isNone = true)
        (State.start Funding.Sample.start) Sample.awaited := by decide +kernel
    refine hnone.mono fun s a hmark m hm ↦ ?_
    rw [hm] at hmark
    cases hmark
  · intro m hm e he hop
    have hseen : (mark? (run (step Sample.setup) (State.start Funding.Sample.start) Sample.awaited)
        (.balance Sample.now (.ok 2))).map Mark.seen = some
          ((contract Sample.setup.primitives Sample.setup.deployment).run [Sample.approve]
            Funding.Sample.start) := rfl
    rw [hm] at hseen
    rw [show m.seen = _ from Option.some.inj hseen] at he
    exact ⟨e, (journal_suffix Sample.reaches_funded).mem he, rfl⟩

/-- A funded enrollment may have a participant without an initial funding. -/
theorem funded_before_confirmed : ¬ReflectsChain Sample.setup Funding.Sample.start Sample.replaced := by
  intro h
  have hfunded : ((run (step Sample.setup) (State.start Funding.Sample.start) Sample.replaced).rows.find?
      "invitation-1").map (fun row ↦ (row.state, row.participantId)) = some (.funded, 11) := by
    decide +kernel
  obtain ⟨row, hfound, hrow⟩ := Option.map_eq_some_iff.mp hfunded
  obtain ⟨hstate, hid⟩ := Prod.ext_iff.mp hrow
  have hcompleted := (h.reflects.last.recorded _ row hfound hstate).completed
  rw [show row.participantId = 11 from hid] at hcompleted
  revert hcompleted
  decide +kernel

end CreatorFirst.Enrollment.Processing
