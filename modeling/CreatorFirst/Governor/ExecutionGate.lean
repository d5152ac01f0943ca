import CreatorFirst.Governor.Stages

/-!
# The execution gate

A proposal that is recorded as executed has passed every stage of the process, each in its own
window: review and deliberation before the vote, approval by both Houses, tests and review after it,
the queue with its delay, and one execution inside the window. The gate names the calls by which it
did, in their order in the journal.
-/

namespace CreatorFirst.Governor

open Chain Relation

variable {P : Primitives} {d : Deployment}

/-! ## One execution -/

/-- The proposal that an operation executes. -/
def Op.execution : Op → Option (Uint 256)
  | .executeProposal id _ => some id
  | .plain _ => none

/-- The number of executions of a proposal that took effect. -/
def executions (journal : List GovernorEntry) (id : Uint 256) : ℕ :=
  journal.countP fun e ↦ e.op.execution = some id

def ExecutedOnce (w : GovernorWorld) : Prop :=
  ∀ id, executions w.journal id = if (w.state.proposals id).executed then 1 else 0

theorem Small.executedOnce {w w' : GovernorWorld} (hw : ExecutedOnce w) (h : Small P d w w') :
    ExecutedOnce w' := by
  intro id
  cases h with
  | tick | resume => exact hw id
  | plain msg op s heff =>
    have hflag : (s.proposals id).executed = (w.state.proposals id).executed := by
      have hchange := heff.proposal_change none id
      generalize s.proposals id = q at hchange
      cases hchange with
      | same | registered | finalized | reviewed | queued | cancelled => rfl
      | executed callData hop => cases hop
      | counted i member cost spent q _ hacc => rw [hacc.counts.eq]
    rw [executions, List.countP_cons_of_neg (by simp [Op.execution]), ← executions, hw id, hflag]
  | execute msg id₀ callData hexec =>
    by_cases hid : id = id₀
    · subst hid
      have hbefore := hw id
      rw [hexec.not_executed] at hbefore
      rw [executions, List.countP_cons_of_pos (by simp [Op.execution]), ← executions, hbefore]
      simp [State.withExecution, State.setProposal]
    · rw [executions, List.countP_cons_of_neg (by simp [Op.execution, Ne.symm hid]), ← executions,
        hw id]
      simp [State.withExecution, State.setProposal, hid]

theorem Observable.executedOnce {w : GovernorWorld} (h : Observable P d w) : ExecutedOnce w :=
  h.invariant (I := ExecutedOnce) (fun _ _ ↦ rfl) (fun _ _ _ hw hs ↦ hs.executedOnce hw)

/-! ## Up to the approval -/

/-- The calls by which a proposal with the given terms was approved, all in `journal`: reviewed and
deliberated before the vote, voted on, and finalized with a majority in each House. -/
structure VoteStage (id : Uint 256) (terms : ProposalParams) (journal : List GovernorEntry)
    (finalization ballot preVoteReview : GovernorEntry) (deliberation : House → GovernorEntry) :
    Prop where
  finalization_op : finalization.op = .plain (.finalizeProposal id)
  ended : (terms.votingEndsAt : ℕ) ≤ finalization.block.timestamp
  creator_quorum : (finalization.before.sessions terms.sessionId).creatorQuorum ≤
    (finalization.before.proposals id).creatorParticipants
  creator_score : 0 < ((finalization.before.proposals id).creatorScore : ℤ)
  user_quorum : (finalization.before.sessions terms.sessionId).userQuorum ≤
    (finalization.before.proposals id).userParticipants
  user_score : 0 < ((finalization.before.proposals id).userScore : ℤ)
  preVoteReview_op : ∃ charterEvidenceHash legalEvidenceHash assessmentHash,
    preVoteReview.op = .plain (.recordPreVoteReview id charterEvidenceHash legalEvidenceHash
      assessmentHash true)
  preVoteReview_time : preVoteReview.block.timestamp < (terms.votingStartsAt : ℕ)
  preVoteReview_order : [finalization, ballot, preVoteReview].Sublist journal
  deliberation_op : ∀ house, house = .creator ∨ house = .user → ∃ evidenceHash,
    evidenceHash ≠ 0 ∧
      (deliberation house).op = .plain (.recordHouseDeliberation id house evidenceHash)
  deliberation_time : ∀ house, house = .creator ∨ house = .user →
    (deliberation house).block.timestamp < (terms.votingStartsAt : ℕ)
  deliberation_order : ∀ house, house = .creator ∨ house = .user →
    [finalization, ballot, deliberation house].Sublist journal

/-- A deliberation on record before an accepted ballot. -/
theorem Occurs.deliberation {w : GovernorWorld} {id : Uint 256} {f b : GovernorEntry}
    {sf sb : State} {jf jb : List GovernorEntry} (hf : Occurs P d w f sf jf)
    (hb : Occurs P d ⟨f.block, f.before, jf⟩ b sb jb) {house : House}
    (h : b.before.deliberationEvidenceHash id house ≠ 0) :
    ∃ e : GovernorEntry, (∃ hash, hash ≠ 0 ∧
        e.op = .plain (.recordHouseDeliberation id house hash)) ∧
      e.block.timestamp < ((w.state.proposals id).votingStartsAt : ℕ) ∧
      [f, b, e].Sublist w.journal := by
  obtain ⟨e, s, j, he, hop, hreg, htime⟩ := hb.found.deliberated_by h
  have hterms : (w.state.proposals id).votingStartsAt = (e.before.proposals id).votingStartsAt :=
    congrArg ProposalParams.votingStartsAt (((hf.trans hb).trans he).terms_eq hreg)
  refine ⟨e, ⟨_, h, hop⟩, ?_, hf.sublist (hb.sublist (he.sublist (List.nil_sublist j)))⟩
  rw [hterms]
  exact htime

theorem Observable.voteStage {w : GovernorWorld} {id : Uint 256} (hw : Observable P d w)
    (h : (w.state.proposals id).finalized = true ∧ (w.state.proposals id).creatorApproved = true ∧
      (w.state.proposals id).userApproved = true) :
    ∃ f b v deliberation, f.block.timestamp ≤ w.block.timestamp ∧
      VoteStage id (w.state.proposals id).terms w.journal f b v deliberation := by
  obtain ⟨f, sf, jf, hf, hfop, hfreg, hended, hcq, hcs, huq, hus⟩ := hw.approved_by h
  -- A quorum is positive, so a member has voted.
  have hfits := hf.found.wellFormed.proposal_fits id hfreg
  have hvoted : (f.before.proposals id).creatorParticipants ≠ 0 := by
    have hquorum := Uint.pos_of_ne_zero (hf.found.wellFormed.session_quorums _ hfits.1).1
    intro hzero
    rw [hzero, Fin.le_def] at hcq
    exact absurd (hquorum.trans_le hcq) (lt_irrefl 0)
  obtain ⟨b, sb, jb, i, member, cost, spent, counted, hb, hacc⟩ :=
    hf.found.participated_by hvoted
  obtain ⟨v, sv, jv, hv, hvop, hvreg, hvtime⟩ := hb.found.preVoteReviewed_by hacc.review_recorded
  obtain ⟨c, hcop, hctime, hcorder⟩ := hf.deliberation hb hacc.creator_deliberated
  obtain ⟨u, huop, hutime, huorder⟩ := hf.deliberation hb hacc.user_deliberated
  have hterms := hf.terms_eq hfreg
  have hstart : (w.state.proposals id).votingStartsAt = (v.before.proposals id).votingStartsAt :=
    congrArg ProposalParams.votingStartsAt (((hf.trans hb).trans hv).terms_eq hvreg)
  refine ⟨f, b, v, fun house ↦ if house = .creator then c else u, hf.timestamp_le, ?_⟩
  constructor
  · exact hfop
  · rw [hterms]
    exact hended
  · rw [hterms]
    exact hcq
  · exact hcs
  · rw [hterms]
    exact huq
  · exact hus
  · rw [hacc.review_passed] at hvop
    exact ⟨_, _, _, hvop⟩
  · change v.block.timestamp < ((w.state.proposals id).votingStartsAt : ℕ)
    rw [hstart]
    exact hvtime
  · exact hf.sublist (hb.sublist (hv.sublist (List.nil_sublist jv)))
  · rintro house (rfl | rfl)
    · exact hcop
    · exact huop
  · rintro house (rfl | rfl)
    · exact hctime
    · exact hutime
  · rintro house (rfl | rfl)
    · exact hcorder
    · exact huorder

/-! ## Up to the review -/

/-- The calls by which a proposal was reviewed, all in `journal`: the tests of the very call data it
is to execute, constitutional evidence where its class needs that, and the review. -/
structure ReviewStage (id : Uint 256) (terms : ProposalParams) (evidence : Evidence)
    (journal : List GovernorEntry) (review test : GovernorEntry) : Prop where
  test_op : test.op = .plain (.recordContractTestEvidence id evidence.contractTest.sourceHash
    evidence.contractTest.artifactHash evidence.contractTest.testSuiteHash
    evidence.contractTest.testReportHash terms.callDataHash true)
  test_kept : evidence.contractTest.recorded = true ∧ evidence.contractTest.passed = true ∧
    evidence.contractTest.testedCallDataHash = terms.callDataHash
  test_order : [review, test].Sublist journal
  review_op : review.op = .plain (.recordReview id evidence.review)
  review_ne : evidence.review ≠ 0
  review_after_vote : (review.before.proposals id).finalized = true
  constitutional : terms.changeClass = .p3Constitutional → evidence.constitutional ≠ 0 ∧
    ∃ e : GovernorEntry,
      e.op = .plain (.recordConstitutionalEvidence id evidence.constitutional) ∧
      [review, e].Sublist journal

theorem Observable.reviewStage {w : GovernorWorld} {id : Uint 256} (hw : Observable P d w)
    (h : (w.state.proposals id).reviewed = true) :
    ∃ r t, ReviewStage id (w.state.proposals id).terms (w.state.evidence id) w.journal r t := by
  obtain ⟨r, sr, jr, hr, hrop, hrne, hrreg, hrfin, hrtest, hrcon, htested, hpassed, hcon⟩ :=
    hw.reviewed_by h
  rw [← hrtest] at htested
  obtain ⟨t, st, jt, ht, htop, htdata⟩ := hr.found.tested_by htested
  have hdata : (w.state.proposals id).callDataHash = (r.before.proposals id).callDataHash :=
    congrArg ProposalParams.callDataHash (hr.terms_eq hrreg)
  simp only at htop htdata
  rw [hrtest] at htested htdata htop
  refine ⟨r, t, ?_, ⟨htested, hpassed, htdata.trans hdata.symm⟩,
    hr.sublist (ht.sublist (List.nil_sublist jt)), hrop, hrne, hrfin, fun hclass ↦ ?_⟩
  · rw [hpassed, htdata, ← hdata] at htop
    exact htop
  · have hne := hcon hclass
    rw [← hrcon] at hne
    obtain ⟨c, sc, jc, hc, hcop⟩ := hr.found.constitutional_by hne
    simp only at hcop
    rw [hrcon] at hcop hne
    exact ⟨hne, c, hcop, hr.sublist (hc.sublist (List.nil_sublist jc))⟩

/-! ## The gate -/

/-- The calls that took a proposal through the process, and the journal before it was queued. -/
structure GateCalls where
  execution : GovernorEntry
  queueing : GovernorEntry
  beforeQueueing : List GovernorEntry
  review : GovernorEntry
  test : GovernorEntry
  finalization : GovernorEntry
  ballot : GovernorEntry
  preVoteReview : GovernorEntry
  deliberation : House → GovernorEntry

/-- The calls `g` took the proposal `id` through the process, and its record still says so. -/
structure Gate (P : Primitives) (d : Deployment) (w : GovernorWorld) (id : Uint 256)
    (g : GateCalls) : Prop where
  registered : ∃ e ∈ w.journal, e.op.registration = some (w.state.proposals id).terms ∧
    (id : ℕ) = e.before.proposalCount + 1
  execution_op : ∃ callData, g.execution.op = .executeProposal id callData ∧
    P.keccak256 callData = (w.state.proposals id).callDataHash ∧
    g.execution.callout = some ⟨id, (w.state.proposals id).target, (w.state.proposals id).value,
      callData⟩
  execution_value : g.execution.msg.value = (w.state.proposals id).value
  execution_chain : g.execution.block.chainId = d.allowedChainId
  queueing_op : g.queueing.op = .plain (.queueProposal id)
  execution_window : ∃ delay : Uint 64,
    delayFor d (w.state.proposals id).changeClass = .ok delay ∧
    g.queueing.block.timestamp + delay ≤ g.execution.block.timestamp ∧
    g.execution.block.timestamp ≤ g.queueing.block.timestamp + delay + d.executionWindow
  order : (g.execution :: g.queueing :: g.beforeQueueing).Sublist w.journal
  vote : VoteStage id (w.state.proposals id).terms g.beforeQueueing g.finalization g.ballot
    g.preVoteReview g.deliberation
  review : ReviewStage id (w.state.proposals id).terms (w.state.evidence id) g.beforeQueueing
    g.review g.test
  evidence_kept : w.state.evidence id = g.queueing.before.evidence id

/-- In a reachable world an executed proposal was executed once and has come through the gate. -/
theorem execution_gate {w : GovernorWorld} (hw : Reachable P d w)
    (htime : w.block.timestamp < 2 ^ 64) {id : Uint 256}
    (hexecuted : (w.state.proposals id).executed = true) :
    executions w.journal id = 1 ∧ ∃ g, Gate P d w id g := by
  refine ⟨by rw [hw.observable.executedOnce id, if_pos hexecuted], ?_⟩
  obtain ⟨e, se, je, callData, he, heop, hecall, hexec⟩ := hw.observable.executed_by hexecuted
  obtain ⟨q, sq, jq, delay, hq, hqop, hqueued, hqreg, hqrev, hdelay, hexecAt, hexpAt⟩ :=
    he.found.queued_by hexec.queued
  have hqw := he.trans hq
  obtain ⟨f, b, v, deliberation, hftime, hvote⟩ :=
    hq.found.voteStage ((hq.found.inOrder id).of_reviewed hqrev)
  obtain ⟨r, t, hreview⟩ := hq.found.reviewStage hqrev
  have htermsE := he.terms_eq hexec.registered
  have htermsQ := hqw.terms_eq hqreg
  have hregistered : (w.state.proposals id).sessionId ≠ 0 := by
    rw [show (w.state.proposals id).sessionId = (e.before.proposals id).sessionId from
      congrArg ProposalParams.sessionId htermsE]
    exact hexec.registered
  obtain ⟨n, sn, jn, hn, hnop, hnid⟩ := hw.observable.registered_by hregistered
  -- The vote had ended, hence started, before the proposal was queued.
  have hstarted : ((q.before.proposals id).votingStartsAt : ℕ) ≤ q.block.timestamp := by
    have hfits := (hq.found.wellFormed.proposal_fits id hqreg).2.2
    calc ((q.before.proposals id).votingStartsAt : ℕ)
        ≤ (q.before.proposals id).votingEndsAt := Fin.le_def.mp hfits.le
      _ ≤ f.block.timestamp := hvote.ended
      _ ≤ q.block.timestamp := hftime
  have hkept := hqw.evidence_eq hqop hqueued hqreg hstarted
  have hcallData : (w.state.proposals id).callDataHash = (e.before.proposals id).callDataHash :=
    congrArg ProposalParams.callDataHash htermsE
  have htarget : (w.state.proposals id).target = (e.before.proposals id).target :=
    congrArg ProposalParams.target htermsE
  have hvalue : (w.state.proposals id).value = (e.before.proposals id).value :=
    congrArg ProposalParams.value htermsE
  have hclass : (w.state.proposals id).changeClass = (q.before.proposals id).changeClass :=
    congrArg ProposalParams.changeClass htermsQ
  refine ⟨⟨e, q, jq, r, t, f, b, v, deliberation⟩, ⟨n, hn.mem, hnop, hnid⟩, ?_,
    hexec.value_eq.trans hvalue.symm, hexec.chain_eq, hqop, ?_, he.sublist hq.suffix.sublist, ?_,
    ?_, hkept⟩
  · rw [hcallData, htarget, hvalue]
    exact ⟨callData, heop, hexec.hash_eq, hecall⟩
  · rw [hclass]
    refine ⟨delay, hdelay, ?_⟩
    have hqtime : q.block.timestamp % 2 ^ 64 = q.block.timestamp :=
      Nat.mod_eq_of_lt (hqw.timestamp_le.trans_lt htime)
    simp only [hqtime] at hexecAt
    simp only [hexecAt] at hexpAt
    have hmature := hexec.mature
    have hopen := hexec.not_expired
    change q.block.timestamp + (delay : ℕ) ≤ e.block.timestamp ∧
      e.block.timestamp ≤ q.block.timestamp + delay + d.executionWindow
    omega
  · rw [htermsQ]
    exact hvote
  · rw [htermsQ, hkept]
    exact hreview

/-- The proposal of the sample has come through the gate. -/
theorem execution_gate_sample :
    executions (Sample.after (Sample.preparation ++ Sample.approval ++
        [Sample.execution])).journal 1 = 1 ∧
      ∃ g, Gate Sample.primitives Sample.deployment
        (Sample.after (Sample.preparation ++ Sample.approval ++ [Sample.execution])) 1 g :=
  execution_gate (Sample.reachable_after (by decide)) (by decide +kernel) (by decide +kernel)

end CreatorFirst.Governor
