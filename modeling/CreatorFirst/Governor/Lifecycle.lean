import CreatorFirst.Governor.Steps

/-!
# The lifecycle of a proposal

The state of a proposal is computed from its flags and times. It only moves forward, and four states
are final, provided the guardian cancels no proposal whose execution window is over: the
cancellation, unlike the execution, does not look at the end of the window.
-/

namespace CreatorFirst.Governor

open Chain Relation

/-! ## The order of the states -/

namespace ProposalState

/-- The states a proposal stays in. -/
def Final : ProposalState → Prop
  | .rejected | .executed | .cancelled | .expired => True
  | _ => False

instance : DecidablePred Final
  | .rejected | .executed | .cancelled | .expired => .isTrue trivial
  | .none | .pending | .voting | .awaitingFinalization | .jointApproved | .reviewed
  | .timelocked => .isFalse id

def stage : ProposalState → ℕ
  | .none => 0
  | .pending => 1
  | .voting => 2
  | .awaitingFinalization => 3
  | .rejected | .jointApproved => 4
  | .reviewed => 5
  | .timelocked => 6
  | .executed | .cancelled | .expired => 7

/-- A state is kept, or left for one of a later stage unless it is final. -/
def Forward (x y : ProposalState) : Prop := x = y ∨ ¬ x.Final ∧ x.stage < y.stage

instance : DecidableRel Forward := fun x y ↦
  inferInstanceAs (Decidable (x = y ∨ ¬ x.Final ∧ x.stage < y.stage))

theorem Forward.refl (x : ProposalState) : x.Forward x := .inl rfl

theorem Forward.trans {x y z : ProposalState} (hxy : x.Forward y) (hyz : y.Forward z) :
    x.Forward z := by
  obtain rfl | ⟨hx, hlt⟩ := hxy
  · exact hyz
  · obtain rfl | ⟨-, hlt'⟩ := hyz
    · exact .inr ⟨hx, hlt⟩
    · exact .inr ⟨hx, hlt.trans hlt'⟩

theorem Forward.eq_of_final {x y : ProposalState} (h : x.Forward y) (hx : x.Final) : y = x := by
  obtain rfl | ⟨hnot, -⟩ := h
  · rfl
  · exact absurd hx hnot

end ProposalState

/-! ## Time alone -/

theorem Proposal.stateAt_forward (p : Proposal) {t t' : ℕ} (h : t ≤ t') :
    (p.stateAt t).Forward (p.stateAt t') := by
  unfold Proposal.stateAt
  split
  · exact .refl _
  split
  · exact .refl _
  by_cases hqueued : p.queued = true
  · -- The window of a queued proposal runs out once.
    simp only [hqueued, true_and, if_true]
    split_ifs with hexpired hexpired'
    · exact .refl _
    · omega
    · decide
    · exact .refl _
  · simp only [hqueued, false_and, if_false, Bool.false_eq_true]
    split
    · exact .refl _
    split
    · exact .refl _
    split
    · exact .refl _
    split_ifs <;> first | exact .refl _ | decide | omega

/-! ## The order of the flags -/

/-- Each flag of a record comes after the flags it builds on. -/
structure Proposal.InOrder (p : Proposal) : Prop where
  of_reviewed : p.reviewed = true →
    p.finalized = true ∧ p.creatorApproved = true ∧ p.userApproved = true
  of_queued : p.queued = true → p.reviewed = true
  of_executed : p.executed = true → p.queued = true
  of_cancelled : p.cancelled = true → p.queued = true
  not_both : ¬ (p.executed = true ∧ p.cancelled = true)

theorem Proposal.inOrder_blank : ({} : Proposal).InOrder := by
  constructor <;> decide

theorem Proposal.InOrder.unqueued {p : Proposal} (hp : p.InOrder) (h : p.queued = false) :
    p.executed = false ∧ p.cancelled = false := by
  have hqueued : p.queued ≠ true := by simp [h]
  exact ⟨by simpa using mt hp.of_executed hqueued, by simpa using mt hp.of_cancelled hqueued⟩

theorem Proposal.InOrder.unreviewed {p : Proposal} (hp : p.InOrder) (h : p.reviewed = false) :
    p.queued = false := by
  by_contra hque
  simp [hp.of_queued (by simpa using hque)] at h

theorem Proposal.InOrder.unfinalized {p : Proposal} (hp : p.InOrder) (h : p.finalized = false) :
    p.reviewed = false := by
  by_contra hrev
  simp [(hp.of_reviewed (by simpa using hrev)).1] at h

theorem ProposalChange.inOrder {e : GovernorEntry} {id : Uint 256} {q : Proposal}
    (hwf : WellFormed e.before) (hp : (e.before.proposals id).InOrder)
    (h : ProposalChange P d e id q) : q.InOrder := by
  cases h with
  | same => exact hp
  | registered params _ hreg =>
    rw [hwf.slot_blank hreg]
    constructor <;> simp [ProposalParams.over]
  | counted i member cost spent q _ hacc =>
    rw [hacc.counts.eq]
    exact ⟨hp.1, hp.2, hp.3, hp.4, hp.5⟩
  | finalized _ _ hfin =>
    have hrev := hp.unfinalized hfin
    have hque := hp.unreviewed hrev
    obtain ⟨hexe, hcan⟩ := hp.unqueued hque
    constructor <;> simp [Proposal.finalize, hrev, hque, hexe, hcan]
  | reviewed _ _ _ hfin hca hua hque =>
    exact ⟨fun _ ↦ ⟨hfin, hca, hua⟩, fun _ ↦ rfl, hp.3, hp.4, hp.5⟩
  | queued _ _ _ _ _ hrev => exact ⟨hp.1, fun _ ↦ hrev, fun _ ↦ rfl, fun _ ↦ rfl, hp.5⟩
  | executed callData _ _ hexec =>
    exact ⟨hp.1, hp.2, fun _ ↦ hexec.queued, hp.4, fun h ↦ by simp [hexec.not_cancelled] at h⟩
  | cancelled _ _ _ hque _ hexe =>
    exact ⟨hp.1, hp.2, hp.3, fun _ ↦ hque, fun h ↦ by simp [hexe] at h⟩

theorem Small.inOrder {w w' : GovernorWorld} (hwf : WellFormed w.state)
    (hw : ∀ id, (w.state.proposals id).InOrder) (h : Small P d w w') (id : Uint 256) :
    (w'.state.proposals id).InOrder := by
  obtain ⟨hsame, -⟩ | ⟨e, -, -, -, hbefore, hchange⟩ := h.proposal_change
  · rw [hsame]
    exact hw id
  · refine (hchange id).inOrder ?_ ?_
    · rwa [hbefore]
    · rw [hbefore]
      exact hw id

theorem Observable.inOrder {w : GovernorWorld} (h : Observable P d w) (id : Uint 256) :
    (w.state.proposals id).InOrder := by
  have hall : ∀ id, (w.state.proposals id).InOrder :=
    h.invariant (I := fun w ↦ ∀ id, (w.state.proposals id).InOrder)
      (fun _ _ ↦ Proposal.inOrder_blank) (fun _ _ hv hw hs ↦ hs.inOrder hv.wellFormed hw)
  exact hall id

/-! ## One call -/

/-- The proposal that an operation cancels. -/
def Op.cancellation : Op → Option (Uint 256)
  | .plain (.cancelQueuedProposal id _) => some id
  | _ => none

/-- No cancellation of `id` in the journal came after the end of the execution window. -/
def CancelledInTime (id : Uint 256) (journal : List GovernorEntry) : Prop :=
  ∀ e ∈ journal, e.op.cancellation = some id →
    e.block.timestamp ≤ ((e.before.proposals id).expiresAt : ℕ)

instance (id : Uint 256) (journal : List GovernorEntry) : Decidable (CancelledInTime id journal) :=
  inferInstanceAs (Decidable (∀ e ∈ journal, _))

theorem ProposalChange.forward {e : GovernorEntry} {id : Uint 256} {q : Proposal}
    (hwf : WellFormed e.before) (hp : (e.before.proposals id).InOrder)
    (hcancel : e.op.cancellation = some id →
      e.block.timestamp ≤ ((e.before.proposals id).expiresAt : ℕ))
    (hregistered : (e.before.proposals id).sessionId ≠ 0) (h : ProposalChange P d e id q) :
    q.sessionId ≠ 0 ∧ ((e.before.proposals id).stateAt e.block.timestamp).Forward
      (q.stateAt e.block.timestamp) := by
  cases h with
  | same => exact ⟨hregistered, .refl _⟩
  | registered params _ hreg =>
    rw [hwf.slot_blank hreg] at hregistered
    exact absurd rfl hregistered
  | counted i member cost spent q _ hacc =>
    -- Tallies are not part of the state.
    rw [hacc.counts.eq]
    exact ⟨hregistered, .refl _⟩
  | finalized _ _ hfin hended =>
    have hrev := hp.unfinalized hfin
    have hque := hp.unreviewed hrev
    obtain ⟨hexe, hcan⟩ := hp.unqueued hque
    refine ⟨hregistered, ?_⟩
    simp only [Proposal.stateAt, Proposal.finalize, hrev, hque, hexe, hcan, hfin, hended,
      Bool.false_eq_true, false_and, if_false, if_true, true_and]
    split_ifs <;> decide
  | reviewed _ _ _ hfin hca hua hque =>
    obtain ⟨hexe, hcan⟩ := hp.unqueued hque
    refine ⟨hregistered, ?_⟩
    simp only [Proposal.stateAt, hfin, hca, hua, hque, hexe, hcan, Bool.false_eq_true, false_and,
      if_false, if_true, and_self]
    split_ifs <;> decide
  | queued delay executableAt expiresAt _ _ hrev hque =>
    obtain ⟨hexe, hcan⟩ := hp.unqueued hque
    refine ⟨hregistered, ?_⟩
    simp only [Proposal.stateAt, hrev, hque, hexe, hcan, Bool.false_eq_true, false_and, if_false,
      if_true, true_and]
    split_ifs <;> decide
  | executed callData _ _ hexec =>
    have hopen := not_lt.mpr hexec.not_expired
    refine ⟨hregistered, ?_⟩
    simp only [Proposal.stateAt, hexec.queued, hexec.not_executed, hexec.not_cancelled, hopen,
      Bool.false_eq_true, and_false, if_false, if_true]
    decide
  | cancelled hash hop _ hque hcan hexe =>
    have hopen := not_lt.mpr (hcancel (by rw [hop]; rfl))
    refine ⟨hregistered, ?_⟩
    simp only [Proposal.stateAt, hque, hcan, hexe, hopen, Bool.false_eq_true, and_false, if_false,
      if_true]
    decide

/-! ## Whole runs -/

/-- How a small step moves the state that is reported for a registered proposal. -/
theorem Small.forward {w w' : GovernorWorld} {id : Uint 256} (hwf : WellFormed w.state)
    (hp : (w.state.proposals id).InOrder) (h : Small P d w w')
    (hcancel : CancelledInTime id w'.journal)
    (hregistered : (w.state.proposals id).sessionId ≠ 0) :
    (w'.state.proposals id).sessionId ≠ 0 ∧
      ((w.state.proposals id).stateAt w.block.timestamp).Forward
        ((w'.state.proposals id).stateAt w'.block.timestamp) := by
  obtain ⟨hsame, -, htime⟩ | ⟨e, hjournal, hblock, hblock', hbefore, hchange⟩ := h.proposal_change
  · rw [hsame]
    exact ⟨hregistered, Proposal.stateAt_forward _ htime⟩
  · rw [hblock', ← hblock]
    rw [← hbefore] at hwf hp hregistered ⊢
    refine (hchange id).forward hwf hp (hcancel e ?_) hregistered
    simp [hjournal]

theorem proposalState_eq_ok {b : Block} {s : State} {id : Uint 256} {x : ProposalState} :
    proposalState b id s = .ok x ↔
      (s.proposals id).sessionId ≠ 0 ∧ (s.proposals id).stateAt b.timestamp = x := by
  rw [proposalState, proposal_bind_eq_ok, pure_eq_ok]

/-- In a run without a late cancellation the state of a proposal only moves forward, and a final
state stays. -/
theorem proposalState_forward {w w' : GovernorWorld} (hw : Reachable P d w)
    (hrun : (contract P d).Reaches w w') (id : Uint 256) (hcancel : CancelledInTime id w'.journal)
    {x : ProposalState} (hx : proposalState w.block id w.state = .ok x) :
    ∃ y, proposalState w'.block id w'.state = .ok y ∧ x.Forward y ∧ (x.Final → y = x) := by
  obtain ⟨hregistered, rfl⟩ := proposalState_eq_ok.mp hx
  have hfollows := Contract.Reaches.relation
    (I := fun v ↦ WellFormed v.state ∧ ∀ id, (v.state.proposals id).InOrder)
    (Q := fun v v' ↦ v.journal <:+ v'.journal ∧
      (CancelledInTime id v'.journal → (v.state.proposals id).sessionId ≠ 0 →
        (v'.state.proposals id).sessionId ≠ 0 ∧
          ((v.state.proposals id).stateAt v.block.timestamp).Forward
            ((v'.state.proposals id).stateAt v'.block.timestamp)))
    (fun v ↦ ⟨List.suffix_rfl, fun _ h ↦ ⟨h, .refl _⟩⟩)
    (fun u v x huv hvx ↦ ⟨huv.1.trans hvx.1, fun hc hu ↦ by
      obtain ⟨hv, hforward⟩ := huv.2 (fun e he ↦ hc e (hvx.1.subset he)) hu
      obtain ⟨hx, hforward'⟩ := hvx.2 hc hv
      exact ⟨hx, hforward.trans hforward'⟩⟩)
    (fun v v' hv hm ↦ ⟨⟨(micro_small hm).wellFormed hv.1, (micro_small hm).inOrder hv.1 hv.2⟩,
      hm.journal_suffix, (micro_small hm).forward hv.1 (hv.2 id)⟩)
    ⟨hw.observable.wellFormed, hw.observable.inOrder⟩ hrun
  obtain ⟨hregistered', hforward⟩ := hfollows.2 hcancel hregistered
  exact ⟨_, proposalState_eq_ok.mpr ⟨hregistered', rfl⟩, hforward, hforward.eq_of_final⟩

/-- The approved proposal goes from the timelock to its execution. -/
theorem proposalState_forward_execution :
    ∃ y, proposalState (Sample.after (Sample.preparation ++ Sample.approval ++
        [Sample.execution])).block 1
      (Sample.after (Sample.preparation ++ Sample.approval ++ [Sample.execution])).state = .ok y ∧
      ProposalState.timelocked.Forward y ∧ (ProposalState.timelocked.Final → y = .timelocked) :=
  proposalState_forward (w := Sample.after (Sample.preparation ++ Sample.approval))
    (Sample.reachable_after (by decide)) (Sample.reaches_after (by decide +kernel)) 1
    (by decide +kernel) (proposalState_eq_ok.mpr (by decide +kernel))

namespace Sample

/-- A call that only lets time pass beyond the execution window. -/
def lateCall : GovernorTx := tx 5000 user (.finalizeProposal 1)

def lateCancellation : GovernorTx := tx 5000 admin (.cancelQueuedProposal 1 7)

end Sample

/-- The guardian cancels a proposal that has been reported as expired. -/
theorem expired_then_cancelled :
    Reachable Sample.primitives Sample.deployment
      (Sample.after (Sample.preparation ++ Sample.approval ++ [Sample.lateCall])) ∧
    (contract Sample.primitives Sample.deployment).Reaches
      (Sample.after (Sample.preparation ++ Sample.approval ++ [Sample.lateCall]))
      (Sample.after (Sample.preparation ++ Sample.approval ++ [Sample.lateCall] ++
        [Sample.lateCancellation])) ∧
    proposalState ⟨5000, 80002⟩ 1
      (Sample.after (Sample.preparation ++ Sample.approval ++ [Sample.lateCall])).state =
        .ok .expired ∧
    proposalState ⟨5000, 80002⟩ 1
      (Sample.after (Sample.preparation ++ Sample.approval ++ [Sample.lateCall] ++
        [Sample.lateCancellation])).state = .ok .cancelled ∧
    ¬ ProposalState.expired.Forward .cancelled :=
  ⟨Sample.reachable_after (by decide), Sample.reaches_after (by decide +kernel),
    proposalState_eq_ok.mpr (by decide +kernel), proposalState_eq_ok.mpr (by decide +kernel),
    by decide⟩

end CreatorFirst.Governor
