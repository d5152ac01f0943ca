import CreatorFirst.Governor.History

/-!
# The call behind each stage

Every stage that a proposal has reached in storage goes back to one call, whose checks held in the
storage it found. What the later stages rely on does not change any more after that call.
-/

namespace CreatorFirst.Governor

open Chain Relation

variable {P : Primitives} {d : Deployment}

/-! ## From one entry to the end of the run -/

theorem Small.journal_suffix {w w' : GovernorWorld} (h : Small P d w w') :
    w.journal <:+ w'.journal := by
  cases h with
  | tick | resume => exact List.suffix_rfl
  | plain | execute => exact List.suffix_cons _ _

namespace Occurs

variable {w : GovernorWorld} {e : GovernorEntry} {s : State} {earlier : List GovernorEntry}

theorem timestamp_le (h : Occurs P d w e s earlier) : e.block.timestamp ≤ w.block.timestamp :=
  run_invariant (I := fun v ↦ e.block.timestamp ≤ v.block.timestamp)
    (fun _ _ _ hv hs ↦ hv.trans hs.timestamp_le) h.continued le_rfl

theorem suffix (h : Occurs P d w e s earlier) : e :: earlier <:+ w.journal :=
  run_invariant (I := fun v ↦ e :: earlier <:+ v.journal)
    (fun _ _ _ hv hs ↦ hv.trans hs.journal_suffix) h.continued List.suffix_rfl

/-- Calls of the earlier journal come before `e`. -/
theorem sublist (h : Occurs P d w e s earlier) {before : List GovernorEntry}
    (hbefore : before.Sublist earlier) : (e :: before).Sublist w.journal :=
  (hbefore.cons_cons e).trans h.suffix.sublist

theorem mem (h : Occurs P d w e s earlier) : e ∈ w.journal :=
  h.suffix.subset List.mem_cons_self

theorem wellFormed_after (h : Occurs P d w e s earlier) : WellFormed s :=
  h.step.wellFormed h.found.wellFormed

/-- The terms that a proposal has after a call are its terms ever after. -/
theorem terms_eq_after (h : Occurs P d w e s earlier) {id : Uint 256}
    (hregistered : (s.proposals id).sessionId ≠ 0) :
    (w.state.proposals id).terms = (s.proposals id).terms := by
  refine (run_invariant (I := fun v ↦ WellFormed v.state ∧
    (v.state.proposals id).sessionId ≠ 0 ∧
    (v.state.proposals id).terms = (s.proposals id).terms) (fun v v' _ hv hs ↦ ?_)
    h.continued ⟨h.wellFormed_after, hregistered, rfl⟩).2.2
  obtain ⟨hwf, hreg, hterms⟩ := hv
  have hstep := hs.terms_eq hwf hreg
  have hsession : (v'.state.proposals id).sessionId = (v.state.proposals id).sessionId :=
    congrArg ProposalParams.sessionId hstep
  exact ⟨hs.wellFormed hwf, hsession ▸ hreg, hstep.trans hterms⟩

/-- The terms that a registered proposal had at an entry are its terms ever after. -/
theorem terms_eq (h : Occurs P d w e s earlier) {id : Uint 256}
    (hregistered : (e.before.proposals id).sessionId ≠ 0) :
    (w.state.proposals id).terms = (e.before.proposals id).terms := by
  have hcall : (s.proposals id).terms = (e.before.proposals id).terms :=
    (h.called.proposal_change id).terms_eq h.found.wellFormed hregistered
  have hsession : (s.proposals id).sessionId = (e.before.proposals id).sessionId :=
    congrArg ProposalParams.sessionId hcall
  exact (h.terms_eq_after (hsession ▸ hregistered)).trans hcall

end Occurs

/-! ## Stages that stay -/

/-- Once a proposal is queued its execution window is fixed. -/
theorem ProposalChange.schedule_eq {e : GovernorEntry} {id : Uint 256} {q : Proposal}
    (hwf : WellFormed e.before) (hqueued : (e.before.proposals id).queued = true)
    (h : ProposalChange P d e id q) :
    q.queued = true ∧ q.executableAt = (e.before.proposals id).executableAt ∧
      q.expiresAt = (e.before.proposals id).expiresAt := by
  cases h with
  | same | finalized | reviewed | executed | cancelled => exact ⟨hqueued, rfl, rfl⟩
  | registered params _ hreg =>
    rw [hwf.slot_blank hreg] at hqueued
    cases hqueued
  | counted i member cost spent q _ hacc =>
    rw [hacc.counts.eq]
    exact ⟨hqueued, rfl, rfl⟩
  | queued _ _ _ _ _ _ hnot =>
    rw [hnot] at hqueued
    cases hqueued

theorem Small.schedule_eq {w w' : GovernorWorld} {id : Uint 256} (hwf : WellFormed w.state)
    (hqueued : (w.state.proposals id).queued = true) (h : Small P d w w') :
    (w'.state.proposals id).queued = true ∧
      (w'.state.proposals id).executableAt = (w.state.proposals id).executableAt ∧
      (w'.state.proposals id).expiresAt = (w.state.proposals id).expiresAt := by
  obtain ⟨hsame, -⟩ | ⟨e, -, -, -, hbefore, hchange⟩ := h.proposal_change
  · rw [hsame]
    exact ⟨hqueued, rfl, rfl⟩
  · rw [← hbefore] at hwf hqueued ⊢
    exact (hchange id).schedule_eq hwf hqueued

/-- Nothing more is recorded about a proposal that is queued and past the start of its vote. -/
theorem EvidenceChange.eq_of_queued {e : GovernorEntry} {id : Uint 256} {v : Evidence}
    (hqueued : (e.before.proposals id).queued = true)
    (hstarted : ((e.before.proposals id).votingStartsAt : ℕ) ≤ e.block.timestamp)
    (h : EvidenceChange e id v) : v = e.before.evidence id := by
  cases h with
  | same => rfl
  | preVote _ _ _ _ _ _ hopen | deliberated _ _ _ _ hopen => exact absurd hstarted (not_le.mpr hopen)
  | tested _ _ _ _ _ _ _ hnot _ | constitutional _ _ _ hnot _ | reviewed _ _ _ hnot =>
    rw [hnot] at hqueued
    cases hqueued

theorem Small.evidence_eq {w w' : GovernorWorld} {id : Uint 256}
    (hqueued : (w.state.proposals id).queued = true)
    (hstarted : ((w.state.proposals id).votingStartsAt : ℕ) ≤ w.block.timestamp)
    (h : Small P d w w') : w'.state.evidence id = w.state.evidence id := by
  obtain ⟨entered, hstate, -⟩ | ⟨e, -, hblock, hbefore, hcalled⟩ := h.called
  · rw [hstate]
    rfl
  · have hchange := hcalled.evidence_change id
    rw [← hbefore] at hqueued hstarted ⊢
    rw [← hblock] at hstarted
    exact hchange.eq_of_queued hqueued hstarted

/-- The evidence that a proposal is queued with is its evidence ever after. -/
theorem Occurs.evidence_eq {w : GovernorWorld} {e : GovernorEntry} {s : State}
    {earlier : List GovernorEntry} (h : Occurs P d w e s earlier) {id : Uint 256}
    (hop : e.op = .plain (.queueProposal id)) (hqueued : (s.proposals id).queued = true)
    (hregistered : (e.before.proposals id).sessionId ≠ 0)
    (hstarted : ((e.before.proposals id).votingStartsAt : ℕ) ≤ e.block.timestamp) :
    w.state.evidence id = e.before.evidence id := by
  have hterms := (h.called.proposal_change id).terms_eq h.found.wellFormed hregistered
  have hsession : (s.proposals id).sessionId = (e.before.proposals id).sessionId :=
    congrArg ProposalParams.sessionId hterms
  have hstarts : (s.proposals id).votingStartsAt = (e.before.proposals id).votingStartsAt :=
    congrArg ProposalParams.votingStartsAt hterms
  have hcall : s.evidence id = e.before.evidence id := by
    have hchange := h.called.evidence_change id
    generalize s.evidence id = v at hchange
    cases hchange with
    | same => rfl
    | preVote _ _ _ _ hop' | deliberated _ _ hop' | tested _ _ _ _ _ hop' | constitutional _ hop'
    | reviewed _ hop' =>
      rw [hop] at hop'
      cases hop'
  refine (run_invariant (I := fun v ↦ WellFormed v.state ∧
    (v.state.proposals id).sessionId ≠ 0 ∧ (v.state.proposals id).queued = true ∧
    ((v.state.proposals id).votingStartsAt : ℕ) ≤ v.block.timestamp ∧
    v.state.evidence id = e.before.evidence id) (fun v v' _ hv hs ↦ ?_) h.continued
    ⟨h.wellFormed_after, hsession ▸ hregistered, hqueued, hstarts ▸ hstarted, hcall⟩).2.2.2.2
  obtain ⟨hwf, hreg, hqueue, hstart, hsame⟩ := hv
  have hterms' := hs.terms_eq hwf hreg
  have hsession' : (v'.state.proposals id).sessionId = (v.state.proposals id).sessionId :=
    congrArg ProposalParams.sessionId hterms'
  have hstarts' : (v'.state.proposals id).votingStartsAt = (v.state.proposals id).votingStartsAt :=
    congrArg ProposalParams.votingStartsAt hterms'
  refine ⟨hs.wellFormed hwf, hsession' ▸ hreg, (hs.schedule_eq hwf hqueue).1, ?_,
    (hs.evidence_eq hqueue hstart).trans hsame⟩
  rw [hstarts']
  exact hstart.trans hs.timestamp_le

/-- Once a proposal is reviewed it stays so, and its tests and constitutional evidence are fixed. -/
theorem ProposalChange.reviewed_stays {e : GovernorEntry} {id : Uint 256} {q : Proposal}
    (hwf : WellFormed e.before) (hreviewed : (e.before.proposals id).reviewed = true)
    (h : ProposalChange P d e id q) : q.reviewed = true := by
  cases h with
  | same | finalized | queued | executed | cancelled => exact hreviewed
  | reviewed => rfl
  | registered params _ hreg =>
    rw [hwf.slot_blank hreg] at hreviewed
    cases hreviewed
  | counted i member cost spent q _ hacc =>
    rw [hacc.counts.eq]
    exact hreviewed

theorem EvidenceChange.tests_eq {e : GovernorEntry} {id : Uint 256} {v : Evidence}
    (hreviewed : (e.before.proposals id).reviewed = true) (h : EvidenceChange e id v) :
    v.contractTest = e.before.contractTestEvidence id ∧
      v.constitutional = e.before.constitutionalEvidenceHash id := by
  cases h with
  | same | preVote | deliberated | reviewed => exact ⟨rfl, rfl⟩
  | tested _ _ _ _ _ _ _ _ hnot | constitutional _ _ _ _ hnot =>
    rw [hnot] at hreviewed
    cases hreviewed

theorem Small.tests_eq {w w' : GovernorWorld} {id : Uint 256} (hwf : WellFormed w.state)
    (hreviewed : (w.state.proposals id).reviewed = true) (h : Small P d w w') :
    (w'.state.proposals id).reviewed = true ∧
      w'.state.contractTestEvidence id = w.state.contractTestEvidence id ∧
      w'.state.constitutionalEvidenceHash id = w.state.constitutionalEvidenceHash id := by
  obtain ⟨entered, hstate, -⟩ | ⟨e, -, -, hbefore, hcalled⟩ := h.called
  · rw [hstate]
    exact ⟨hreviewed, rfl, rfl⟩
  · rw [← hbefore] at hwf hreviewed ⊢
    exact ⟨(hcalled.proposal_change id).reviewed_stays hwf hreviewed,
      (hcalled.evidence_change id).tests_eq hreviewed⟩

/-! ## The call behind each stage -/

section Stages

variable {w : GovernorWorld} {id : Uint 256}

theorem Observable.registered_by (hw : Observable P d w)
    (h : (w.state.proposals id).sessionId ≠ 0) :
    ∃ e s earlier, Occurs P d w e s earlier ∧
      e.op.registration = some (w.state.proposals id).terms ∧
      (id : ℕ) = e.before.proposalCount + 1 := by
  obtain ⟨e, s, earlier, hocc, hnot, hK⟩ :=
    hw.exists_flip (fun s ↦ (s.proposals id).sessionId ≠ 0) (fun _ _ h ↦ h) (fun h ↦ h rfl) h
  have hterms := hocc.terms_eq_after hK
  have hchange := hocc.called.proposal_change id
  generalize s.proposals id = q at hchange hK hterms
  cases hchange with
  | registered params hop hreg =>
    rw [terms_over] at hterms
    exact ⟨e, s, earlier, hocc, hterms ▸ hop, hreg.id_eq⟩
  | counted i member cost spent q _ hacc => exact absurd hacc.registered hnot
  | _ => exact absurd hK hnot

theorem Observable.executed_by (hw : Observable P d w)
    (h : (w.state.proposals id).executed = true) :
    ∃ e s earlier callData, Occurs P d w e s earlier ∧ e.op = .executeProposal id callData ∧
      e.callout = some ⟨id, (e.before.proposals id).target, (e.before.proposals id).value,
        callData⟩ ∧
      Executes P d e.block e.msg.value id callData e.before := by
  obtain ⟨e, s, earlier, hocc, hnot, hK⟩ :=
    hw.exists_flip (fun s ↦ (s.proposals id).executed = true) (fun _ _ h ↦ h)
      Bool.false_ne_true h
  have hchange := hocc.called.proposal_change id
  generalize s.proposals id = q at hchange hK
  cases hchange with
  | executed callData hop hcall hexec => exact ⟨e, s, earlier, callData, hocc, hop, hcall, hexec⟩
  | counted i member cost spent q _ hacc =>
    rw [hacc.counts.eq] at hK
    exact absurd hK hnot
  | _ => exact absurd hK hnot

theorem Observable.queued_by (hw : Observable P d w)
    (h : (w.state.proposals id).queued = true) :
    ∃ e s earlier delay, Occurs P d w e s earlier ∧ e.op = .plain (.queueProposal id) ∧
      (s.proposals id).queued = true ∧
      (e.before.proposals id).sessionId ≠ 0 ∧ (e.before.proposals id).reviewed = true ∧
      delayFor d (e.before.proposals id).changeClass = .ok delay ∧
      ((w.state.proposals id).executableAt : ℕ) = e.block.timestamp % 2 ^ 64 + delay ∧
      ((w.state.proposals id).expiresAt : ℕ) =
        (w.state.proposals id).executableAt + d.executionWindow := by
  obtain ⟨e, s, earlier, hocc, hnot, hK⟩ :=
    hw.exists_flip (fun s ↦ (s.proposals id).queued = true) (fun _ _ h ↦ h) Bool.false_ne_true h
  have hschedule := (run_invariant (I := fun v ↦ WellFormed v.state ∧
    (v.state.proposals id).queued = true ∧
    (v.state.proposals id).executableAt = (s.proposals id).executableAt ∧
    (v.state.proposals id).expiresAt = (s.proposals id).expiresAt)
    (fun v v' _ hv hs ↦ by
      obtain ⟨hwf, hqueued, hexec, hexp⟩ := hv
      obtain ⟨hqueued', hexec', hexp'⟩ := hs.schedule_eq hwf hqueued
      exact ⟨hs.wellFormed hwf, hqueued', hexec'.trans hexec, hexp'.trans hexp⟩)
    hocc.continued ⟨hocc.wellFormed_after, hK, rfl, rfl⟩).2.2
  rw [hschedule.1, hschedule.2]
  -- The step that queued the proposal wrote the window.
  suffices ∃ delay, e.op = .plain (.queueProposal id) ∧ (e.before.proposals id).sessionId ≠ 0 ∧
      (e.before.proposals id).reviewed = true ∧
      delayFor d (e.before.proposals id).changeClass = .ok delay ∧
      ((s.proposals id).executableAt : ℕ) = e.block.timestamp % 2 ^ 64 + delay ∧
      ((s.proposals id).expiresAt : ℕ) = (s.proposals id).executableAt + d.executionWindow by
    obtain ⟨delay, hop, hrest⟩ := this
    exact ⟨e, s, earlier, delay, hocc, hop, hK, hrest⟩
  have hchange := hocc.called.proposal_change id
  generalize s.proposals id = q at hchange hK ⊢
  cases hchange with
  | queued delay executableAt expiresAt hop hreg hrev _ hdelay hexec hexp =>
    exact ⟨delay, hop, hreg, hrev, hdelay, hexec, hexp⟩
  | counted i member cost spent q _ hacc =>
    rw [hacc.counts.eq] at hK
    exact absurd hK hnot
  | _ => exact absurd hK hnot

theorem Observable.approved_by (hw : Observable P d w)
    (h : (w.state.proposals id).finalized = true ∧ (w.state.proposals id).creatorApproved = true ∧
      (w.state.proposals id).userApproved = true) :
    ∃ e s earlier, Occurs P d w e s earlier ∧ e.op = .plain (.finalizeProposal id) ∧
      (e.before.proposals id).sessionId ≠ 0 ∧
      ((e.before.proposals id).votingEndsAt : ℕ) ≤ e.block.timestamp ∧
      (e.before.sessions (e.before.proposals id).sessionId).creatorQuorum ≤
        (e.before.proposals id).creatorParticipants ∧
      0 < ((e.before.proposals id).creatorScore : ℤ) ∧
      (e.before.sessions (e.before.proposals id).sessionId).userQuorum ≤
        (e.before.proposals id).userParticipants ∧
      0 < ((e.before.proposals id).userScore : ℤ) := by
  obtain ⟨e, s, earlier, hocc, hnot, hK⟩ := hw.exists_flip
    (fun s ↦ (s.proposals id).finalized = true ∧ (s.proposals id).creatorApproved = true ∧
      (s.proposals id).userApproved = true) (fun _ _ h ↦ h) (fun h ↦ Bool.false_ne_true h.1) h
  have hchange := hocc.called.proposal_change id
  generalize s.proposals id = q at hchange hK
  cases hchange with
  | finalized hop hreg _ hended =>
    obtain ⟨-, hcreator, huser⟩ := hK
    simp only [Proposal.finalize, decide_eq_true_eq] at hcreator huser
    exact ⟨e, s, earlier, hocc, hop, hreg, hended, hcreator.1, hcreator.2, huser.1, huser.2⟩
  | counted i member cost spent q _ hacc =>
    rw [hacc.counts.eq] at hK
    exact absurd hK hnot
  | _ => exact absurd hK hnot

/-- A participant has cast a ballot, which had passed the checks of the vote. -/
theorem Observable.participated_by (hw : Observable P d w)
    (h : (w.state.proposals id).creatorParticipants ≠ 0) :
    ∃ e s earlier i member cost spent q, Occurs P d w e s earlier ∧
      Accepts e.block id i member e.before cost spent q := by
  obtain ⟨e, s, earlier, hocc, hnot, hK⟩ :=
    hw.exists_flip (fun s ↦ (s.proposals id).creatorParticipants ≠ 0) (fun _ _ h ↦ h)
      (fun h ↦ h rfl) h
  have hchange := hocc.called.proposal_change id
  generalize s.proposals id = q at hchange hK
  cases hchange with
  | counted i member cost spent q _ hacc =>
    exact ⟨e, s, earlier, i, member, cost, spent, q, hocc, hacc⟩
  | _ => exact absurd hK hnot

/-- The review that is on record, and the tests it relied on. -/
theorem Observable.reviewed_by (hw : Observable P d w)
    (h : (w.state.proposals id).reviewed = true) :
    ∃ e s earlier, Occurs P d w e s earlier ∧
      e.op = .plain (.recordReview id (w.state.reviewEvidenceHash id)) ∧
      w.state.reviewEvidenceHash id ≠ 0 ∧ (e.before.proposals id).sessionId ≠ 0 ∧
      (e.before.proposals id).finalized = true ∧
      e.before.contractTestEvidence id = w.state.contractTestEvidence id ∧
      e.before.constitutionalEvidenceHash id = w.state.constitutionalEvidenceHash id ∧
      (w.state.contractTestEvidence id).recorded = true ∧
      (w.state.contractTestEvidence id).passed = true ∧
      ((w.state.proposals id).changeClass = .p3Constitutional →
        w.state.constitutionalEvidenceHash id ≠ 0) := by
  obtain ⟨e, s, earlier, hocc, hnot, hK⟩ := hw.exists_flip
    (fun s ↦ (s.proposals id).reviewed = true ∧
      (s.evidence id).review = w.state.reviewEvidenceHash id)
    (fun _ _ h ↦ h) (fun h ↦ Bool.false_ne_true h.1) ⟨h, rfl⟩
  obtain ⟨evidenceHash, hop⟩ : ∃ hash, e.op = .plain (.recordReview id hash) := by
    by_cases hrev : (e.before.proposals id).reviewed = true
    · -- Already reviewed: this call replaced the evidence.
      have hchange := hocc.called.evidence_change id
      obtain ⟨-, hK⟩ := hK
      generalize s.evidence id = v at hchange hK
      cases hchange with
      | reviewed hash hop => exact ⟨hash, hop⟩
      | _ => exact absurd ⟨hrev, hK⟩ hnot
    · have hchange := hocc.called.proposal_change id
      obtain ⟨hK, -⟩ := hK
      generalize s.proposals id = q at hchange hK
      cases hchange with
      | reviewed hash hop => exact ⟨hash, hop⟩
      | counted i member cost spent q _ hacc =>
        rw [hacc.counts.eq] at hK
        exact absurd hK hrev
      | _ => exact absurd hK hrev
  have hcalled := hocc.called
  rw [Called, hop] at hcalled
  have hstays : (w.state.proposals id).reviewed = true ∧
      w.state.contractTestEvidence id = s.contractTestEvidence id ∧
      w.state.constitutionalEvidenceHash id = s.constitutionalEvidenceHash id := by
    refine (run_invariant (I := fun v ↦ WellFormed v.state ∧
      (v.state.proposals id).reviewed = true ∧
      v.state.contractTestEvidence id = s.contractTestEvidence id ∧
      v.state.constitutionalEvidenceHash id = s.constitutionalEvidenceHash id)
      (fun v v' _ hv hs ↦ ?_) hocc.continued ⟨hocc.wellFormed_after, hK.1, rfl, rfl⟩).2
    obtain ⟨hwf, hrev, htest, hcon⟩ := hv
    obtain ⟨hrev', htest', hcon'⟩ := hs.tests_eq hwf hrev
    exact ⟨hs.wellFormed hwf, hrev', htest'.trans htest, hcon'.trans hcon⟩
  cases hcalled with
  | recordReview _ _ hreg hfin _ _ _ _ _ hhash htested hpassed hconstitutional =>
    have hclass : (w.state.proposals id).changeClass = (e.before.proposals id).changeClass :=
      congrArg ProposalParams.changeClass (hocc.terms_eq hreg)
    have hsame : evidenceHash = w.state.reviewEvidenceHash id := by
      have hreview := hK.2
      simp only [State.evidence, Function.update_self] at hreview
      exact hreview
    rw [hsame] at hop hhash
    rw [hstays.2.1, hstays.2.2, hclass]
    exact ⟨e, _, earlier, hocc, hop, hhash, hreg, hfin, rfl, rfl, htested, hpassed,
      hconstitutional⟩

theorem Observable.preVoteReviewed_by (hw : Observable P d w)
    (h : (w.state.preVoteReviews id).recorded = true) :
    ∃ e s earlier, Occurs P d w e s earlier ∧
      e.op = .plain (.recordPreVoteReview id (w.state.preVoteReviews id).charterEvidenceHash
        (w.state.preVoteReviews id).legalEvidenceHash (w.state.preVoteReviews id).assessmentHash
        (w.state.preVoteReviews id).passed) ∧
      (e.before.proposals id).sessionId ≠ 0 ∧
      e.block.timestamp < ((e.before.proposals id).votingStartsAt : ℕ) := by
  obtain ⟨e, s, earlier, hocc, hnot, hK⟩ := hw.exists_flip
    (fun s ↦ (s.evidence id).preVoteReview = w.state.preVoteReviews id)
    (fun _ _ h ↦ h) (fun hinit ↦ by rw [← hinit] at h; cases h) rfl
  have hchange := hocc.called.evidence_change id
  generalize s.evidence id = v at hchange hK
  cases hchange with
  | preVote charter legal assessment passed hop hreg hopen =>
    rw [← hK]
    exact ⟨e, s, earlier, hocc, hop, hreg, hopen⟩
  | _ => exact absurd hK hnot

theorem Observable.deliberated_by (hw : Observable P d w) {house : House}
    (h : w.state.deliberationEvidenceHash id house ≠ 0) :
    ∃ e s earlier, Occurs P d w e s earlier ∧
      e.op = .plain (.recordHouseDeliberation id house
        (w.state.deliberationEvidenceHash id house)) ∧
      (e.before.proposals id).sessionId ≠ 0 ∧
      e.block.timestamp < ((e.before.proposals id).votingStartsAt : ℕ) := by
  obtain ⟨e, s, earlier, hocc, hnot, hK⟩ := hw.exists_flip
    (fun s ↦ (s.evidence id).deliberation house = w.state.deliberationEvidenceHash id house)
    (fun _ _ h ↦ h) (fun hinit ↦ h hinit.symm) rfl
  have hchange := hocc.called.evidence_change id
  generalize s.evidence id = v at hchange hK
  cases hchange with
  | deliberated house' hash hop hreg hopen =>
    by_cases hhouse : house = house'
    · subst hhouse
      simp only [Function.update_self] at hK
      rw [← hK]
      exact ⟨e, s, earlier, hocc, hop, hreg, hopen⟩
    · simp only [Function.update_of_ne hhouse] at hK
      exact absurd hK hnot
  | _ => exact absurd hK hnot

theorem Observable.tested_by (hw : Observable P d w)
    (h : (w.state.contractTestEvidence id).recorded = true) :
    ∃ e s earlier, Occurs P d w e s earlier ∧
      e.op = .plain (.recordContractTestEvidence id (w.state.contractTestEvidence id).sourceHash
        (w.state.contractTestEvidence id).artifactHash
        (w.state.contractTestEvidence id).testSuiteHash
        (w.state.contractTestEvidence id).testReportHash
        (w.state.contractTestEvidence id).testedCallDataHash
        (w.state.contractTestEvidence id).passed) ∧
      (w.state.contractTestEvidence id).testedCallDataHash =
        (w.state.proposals id).callDataHash := by
  obtain ⟨e, s, earlier, hocc, hnot, hK⟩ := hw.exists_flip
    (fun s ↦ (s.evidence id).contractTest = w.state.contractTestEvidence id)
    (fun _ _ h ↦ h) (fun hinit ↦ by rw [← hinit] at h; cases h) rfl
  have hchange := hocc.called.evidence_change id
  generalize s.evidence id = v at hchange hK
  cases hchange with
  | tested source artifact suite report passed hop hreg =>
    have hcallData : (w.state.proposals id).callDataHash = (e.before.proposals id).callDataHash :=
      congrArg ProposalParams.callDataHash (hocc.terms_eq hreg)
    rw [← hK]
    exact ⟨e, s, earlier, hocc, hop, hcallData.symm⟩
  | _ => exact absurd hK hnot

theorem Observable.constitutional_by (hw : Observable P d w)
    (h : w.state.constitutionalEvidenceHash id ≠ 0) :
    ∃ e s earlier, Occurs P d w e s earlier ∧
      e.op = .plain (.recordConstitutionalEvidence id (w.state.constitutionalEvidenceHash id)) := by
  obtain ⟨e, s, earlier, hocc, hnot, hK⟩ := hw.exists_flip
    (fun s ↦ (s.evidence id).constitutional = w.state.constitutionalEvidenceHash id)
    (fun _ _ h ↦ h) (fun hinit ↦ h hinit.symm) rfl
  have hchange := hocc.called.evidence_change id
  generalize s.evidence id = v at hchange hK
  cases hchange with
  | constitutional hash hop =>
    rw [← hK]
    exact ⟨e, s, earlier, hocc, hop⟩
  | _ => exact absurd hK hnot

end Stages

end CreatorFirst.Governor
