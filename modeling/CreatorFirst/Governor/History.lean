import CreatorFirst.Governor.Lifecycle

/-!
# What the journal proves

Every entry of the journal took effect in a world that was itself observable, with the rest of the
journal behind it; and whatever holds in the end was brought about by one of the entries. So a flag
in the storage leads back to the call that set it, and from there to the flags that call relied on.
-/

namespace CreatorFirst.Governor

open Chain Relation

variable {P : Primitives} {d : Deployment}

/-- The effect of the call that an entry notes. -/
def Called (P : Primitives) (d : Deployment) (e : GovernorEntry) (s : State) : Prop :=
  match e.op with
  | .plain op => Effect P d e.block e.msg.sender e.before op s
  | .executeProposal id callData =>
    Executes P d e.block e.msg.value id callData e.before ∧ s = e.before.withExecution id ∧
      e.callout =
        some ⟨id, (e.before.proposals id).target, (e.before.proposals id).value, callData⟩

/-- The call `e` took effect on the way to `w`: it found an observable world with the journal
`earlier`, left the storage `s`, and small steps lead from there to `w`. -/
structure Occurs (P : Primitives) (d : Deployment) (w : GovernorWorld) (e : GovernorEntry)
    (s : State) (earlier : List GovernorEntry) : Prop where
  found : Observable P d ⟨e.block, e.before, earlier⟩
  called : Called P d e s
  step : Small P d ⟨e.block, e.before, earlier⟩ ⟨e.block, s, e :: earlier⟩
  continued : ReflTransGen (Small P d) ⟨e.block, s, e :: earlier⟩ w

theorem called_of_call {e : GovernorEntry} {o : Outcome State TargetCall}
    (h : (contract P d).call e.block e.msg e.op e.before = .ok o) (hcallout : e.callout = o.frame?) :
    Called P d e o.state := by
  obtain ⟨b, msg, op, before, callout⟩ := e
  simp only at h hcallout
  subst hcallout
  cases op with
  | plain op =>
    obtain ⟨-, h⟩ := revertIf_bind_eq_ok.mp h
    obtain ⟨s, hs, h⟩ := bind_eq_ok.mp h
    obtain rfl := pure_eq_ok.mp h
    exact PlainOp.effect hs
  | executeProposal id callData =>
    cases o with
    | done s =>
      simp only [contract, call, Governor.executeProposal, bind_eq_ok, pure_eq_ok, reduceCtorEq,
        and_false, exists_false] at h
    | callout s frame =>
      obtain ⟨hexec, rfl, rfl⟩ := executeProposal_ok h
      exact ⟨hexec, rfl, rfl⟩

theorem occurs_of_contract {b : Block} {w : GovernorWorld} {e : GovernorEntry}
    {o : Outcome State TargetCall} {earlier : List GovernorEntry}
    (h : Contract.Occurs (contract P d) (genesis P d b) w e o earlier) :
    Occurs P d w e o.state earlier where
  found := ⟨b, h.reached⟩
  called := called_of_call h.called h.callout_eq
  step := by
    have hm := Contract.Micro.call (C := contract P d) ⟨e.block, e.before, earlier⟩ e.msg e.op o
      h.called
    rw [World.log_eq, ← h.callout_eq] at hm
    exact micro_small hm
  continued := ReflTransGen.mono (fun _ _ ↦ micro_small) _ _ h.continued

/-- What occurred before a call also occurred before what follows the call. -/
theorem Occurs.trans {w : GovernorWorld} {e e' : GovernorEntry} {s s' : State}
    {earlier earlier' : List GovernorEntry} (h : Occurs P d w e s earlier)
    (h' : Occurs P d ⟨e.block, e.before, earlier⟩ e' s' earlier') : Occurs P d w e' s' earlier' :=
  { h' with continued := (h'.continued.tail h.step).trans h.continued }

theorem Observable.exists_occurs {w : GovernorWorld} (h : Observable P d w) {e : GovernorEntry}
    {earlier : List GovernorEntry} (he : e :: earlier <:+ w.journal) :
    ∃ s, Occurs P d w e s earlier := by
  obtain ⟨b, hb⟩ := h
  obtain ⟨o, hocc⟩ := Contract.exists_occurs_of_suffix hb rfl he
  exact ⟨o.state, occurs_of_contract hocc⟩

/-- Whatever did not hold at the deployment was brought about by a call. -/
theorem Observable.exists_flip {w : GovernorWorld} (h : Observable P d w) (K : State → Prop)
    (hentered : ∀ s entered, K { s with entered } → K s) (hinitial : ¬ K (initialState P d))
    (hw : K w.state) : ∃ e s earlier, Occurs P d w e s earlier ∧ ¬ K e.before ∧ K s := by
  obtain ⟨b, hb⟩ := h
  obtain ⟨e, o, earlier, hocc, hnot, hK⟩ := Contract.exists_occurs_of_flip (K := K)
    (fun b frame success s s' hs hK ↦ by
      obtain ⟨-, hs⟩ := revertIf_bind_eq_ok.mp hs
      obtain rfl := pure_eq_ok.mp hs
      exact hentered s false hK) hb hinitial hw
  exact ⟨e, o.state, earlier, occurs_of_contract hocc, hnot, hK⟩

theorem Called.proposal_change {e : GovernorEntry} {s : State} (h : Called P d e s)
    (id : Uint 256) : ProposalChange P d e id (s.proposals id) := by
  obtain ⟨b, msg, op, before, callout⟩ := e
  cases op with
  | plain op => exact Effect.proposal_change h callout id
  | executeProposal id₀ callData =>
    obtain ⟨hexec, rfl, hcallout⟩ := h
    exact setProposal_change (.executed callData rfl hcallout hexec)

/-- A small step passes time, releases the reentrancy guard, or notes one call. -/
theorem Small.called {w w' : GovernorWorld} (h : Small P d w w') :
    (∃ entered, w'.state = { w.state with entered } ∧ w'.journal = w.journal) ∨
    ∃ e : GovernorEntry, w'.journal = e :: w.journal ∧ e.block = w.block ∧ e.before = w.state ∧
      Called P d e w'.state := by
  cases h with
  | tick => exact .inl ⟨w.state.entered, rfl, rfl⟩
  | resume => exact .inl ⟨false, rfl, rfl⟩
  | plain msg op s heff => exact .inr ⟨_, rfl, rfl, rfl, heff⟩
  | execute msg id callData hexec => exact .inr ⟨_, rfl, rfl, rfl, hexec, rfl, rfl⟩

/-! ## Evidence -/

/-- Everything that is recorded about a proposal besides its record. -/
structure Evidence where
  preVoteReview : PreVoteReview
  deliberation : House → Bytes32
  contractTest : ContractTestEvidence
  constitutional : Bytes32
  review : Bytes32

def State.evidence (s : State) (id : Uint 256) : Evidence where
  preVoteReview := s.preVoteReviews id
  deliberation := s.deliberationEvidenceHash id
  contractTest := s.contractTestEvidence id
  constitutional := s.constitutionalEvidenceHash id
  review := s.reviewEvidenceHash id

/-- The ways in which a call that took effect can have changed the evidence of one proposal. -/
inductive EvidenceChange (e : GovernorEntry) (id : Uint 256) : Evidence → Prop
  | same : EvidenceChange e id (e.before.evidence id)
  | preVote (charterEvidenceHash legalEvidenceHash assessmentHash : Bytes32) (passed : Bool)
      (hop : e.op = .plain (.recordPreVoteReview id charterEvidenceHash legalEvidenceHash
        assessmentHash passed))
      (hregistered : (e.before.proposals id).sessionId ≠ 0)
      (hopen : e.block.timestamp < ((e.before.proposals id).votingStartsAt : ℕ)) :
      EvidenceChange e id
        { e.before.evidence id with
          preVoteReview :=
            { charterEvidenceHash, legalEvidenceHash, assessmentHash, recorded := true, passed } }
  | deliberated (house : House) (evidenceHash : Bytes32)
      (hop : e.op = .plain (.recordHouseDeliberation id house evidenceHash))
      (hregistered : (e.before.proposals id).sessionId ≠ 0)
      (hopen : e.block.timestamp < ((e.before.proposals id).votingStartsAt : ℕ)) :
      EvidenceChange e id
        { e.before.evidence id with
          deliberation :=
            Function.update (e.before.deliberationEvidenceHash id) house evidenceHash }
  | tested (sourceHash artifactHash testSuiteHash testReportHash : Bytes32) (passed : Bool)
      (hop : e.op = .plain (.recordContractTestEvidence id sourceHash artifactHash testSuiteHash
        testReportHash (e.before.proposals id).callDataHash passed))
      (hregistered : (e.before.proposals id).sessionId ≠ 0)
      (hqueued : (e.before.proposals id).queued = false)
      (hreviewed : (e.before.proposals id).reviewed = false) :
      EvidenceChange e id
        { e.before.evidence id with
          contractTest :=
            { sourceHash, artifactHash, testSuiteHash, testReportHash
              testedCallDataHash := (e.before.proposals id).callDataHash
              recorded := true
              passed } }
  | constitutional (evidenceHash : Bytes32)
      (hop : e.op = .plain (.recordConstitutionalEvidence id evidenceHash))
      (hregistered : (e.before.proposals id).sessionId ≠ 0)
      (hqueued : (e.before.proposals id).queued = false)
      (hreviewed : (e.before.proposals id).reviewed = false) :
      EvidenceChange e id { e.before.evidence id with constitutional := evidenceHash }
  | reviewed (evidenceHash : Bytes32) (hop : e.op = .plain (.recordReview id evidenceHash))
      (hregistered : (e.before.proposals id).sessionId ≠ 0)
      (hqueued : (e.before.proposals id).queued = false) :
      EvidenceChange e id { e.before.evidence id with review := evidenceHash }

theorem Called.evidence_change {e : GovernorEntry} {s : State} (h : Called P d e s)
    (id : Uint 256) : EvidenceChange e id (s.evidence id) := by
  obtain ⟨b, msg, op, before, callout⟩ := e
  cases op with
  | executeProposal id₀ callData =>
    obtain ⟨-, rfl, -⟩ := h
    exact .same
  | plain op =>
    cases h with
    | access | createSession | registerMember | registerProposal | registerCfpProposal | castVote
    | castCfpApprovalVote | castCfpApprovalVoteBySig | finalizeProposal | queueProposal
    | cancelQueuedProposal => exact .same
    | recordPreVoteReview id₀ charter legal assessment passed hreg hopen =>
      let e : GovernorEntry := ⟨b, msg, .plain (.recordPreVoteReview id₀ charter legal assessment
        passed), before, callout⟩
      by_cases hid : id = id₀
      · subst hid
        simpa [e, State.evidence] using
          EvidenceChange.preVote (e := e) charter legal assessment passed rfl hreg hopen
      · simpa [e, State.evidence, hid] using EvidenceChange.same (e := e)
    | recordHouseDeliberation id₀ house hash hreg hopen =>
      let e : GovernorEntry :=
        ⟨b, msg, .plain (.recordHouseDeliberation id₀ house hash), before, callout⟩
      by_cases hid : id = id₀
      · subst hid
        simpa [e, State.evidence, update₂] using
          EvidenceChange.deliberated (e := e) house hash rfl hreg hopen
      · simpa [e, State.evidence, update₂_of_ne_left hid] using EvidenceChange.same (e := e)
    | recordReview id₀ hash hreg _ _ _ _ _ hque =>
      let e : GovernorEntry := ⟨b, msg, .plain (.recordReview id₀ hash), before, callout⟩
      by_cases hid : id = id₀
      · subst hid
        simpa [e, State.evidence, State.setProposal] using
          EvidenceChange.reviewed (e := e) hash rfl hreg hque
      · simpa [e, State.evidence, State.setProposal, hid] using EvidenceChange.same (e := e)
    | recordContractTestEvidence id₀ source artifact suite report tested passed hreg hque hrev
      hcall =>
      change tested = (before.proposals id₀).callDataHash at hcall
      subst hcall
      let e : GovernorEntry := ⟨b, msg, .plain (.recordContractTestEvidence id₀ source artifact
        suite report (before.proposals id₀).callDataHash passed), before, callout⟩
      by_cases hid : id = id₀
      · subst hid
        simpa [e, State.evidence] using
          EvidenceChange.tested (e := e) source artifact suite report passed rfl hreg hque hrev
      · simpa [e, State.evidence, hid] using EvidenceChange.same (e := e)
    | recordConstitutionalEvidence id₀ hash hreg hque hrev =>
      let e : GovernorEntry :=
        ⟨b, msg, .plain (.recordConstitutionalEvidence id₀ hash), before, callout⟩
      by_cases hid : id = id₀
      · subst hid
        simpa [e, State.evidence] using
          EvidenceChange.constitutional (e := e) hash rfl hreg hque hrev
      · simpa [e, State.evidence, hid] using EvidenceChange.same (e := e)

end CreatorFirst.Governor
