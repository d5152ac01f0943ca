import CreatorFirst.Governor.Effects

/-!
# Small steps of the governor

Every run of the governor consists of four kinds of small steps. For one proposal they can change
its record in eight ways only, and they keep the registries well formed: identifiers are given out
in order, what lies beyond the counters is blank, and a registered proposal fits its session.
-/

namespace CreatorFirst.Governor

open Chain

variable {P : Primitives} {d : Deployment}

/-- The small steps: time passes, a plain function takes effect, an execution reaches its external
call, or the external call returns. -/
inductive Small (P : Primitives) (d : Deployment) (w : GovernorWorld) : GovernorWorld → Prop
  | tick (b : Block) (h : w.block.timestamp ≤ b.timestamp) : Small P d w { w with block := b }
  | plain (msg : Msg) (op : PlainOp) (s : State)
      (h : Effect P d w.block msg.sender w.state op s) :
      Small P d w ⟨w.block, s, ⟨w.block, msg, .plain op, w.state, none⟩ :: w.journal⟩
  | execute (msg : Msg) (id : Uint 256) (callData : Bytes)
      (h : Executes P d w.block msg.value id callData w.state) :
      Small P d w ⟨w.block, w.state.withExecution id,
        ⟨w.block, msg, .executeProposal id callData, w.state,
          some ⟨id, (w.state.proposals id).target, (w.state.proposals id).value, callData⟩⟩ ::
        w.journal⟩
  | resume : Small P d w { w with state := { w.state with entered := false } }

theorem micro_small {w w' : GovernorWorld} (h : (contract P d).Micro w w') : Small P d w w' := by
  cases h with
  | tick b hb => exact .tick b hb
  | call msg op o ho =>
    cases op with
    | plain op =>
      obtain ⟨-, ho⟩ := revertIf_bind_eq_ok.mp ho
      obtain ⟨s, hs, ho⟩ := bind_eq_ok.mp ho
      obtain rfl := pure_eq_ok.mp ho
      exact .plain msg op s (PlainOp.effect hs)
    | executeProposal id callData =>
      cases o with
      | done s =>
        simp only [contract, call, Governor.executeProposal, bind_eq_ok, pure_eq_ok,
          reduceCtorEq, and_false, exists_false] at ho
      | callout s frame =>
        obtain ⟨hexec, rfl, rfl⟩ := executeProposal_ok ho
        exact .execute msg id callData hexec
  | resume frame success s hs =>
    obtain ⟨-, hs⟩ := revertIf_bind_eq_ok.mp hs
    obtain rfl := pure_eq_ok.mp hs
    exact .resume

/-- A property of the fresh governor that every small step preserves holds throughout all runs. -/
theorem Observable.invariant {I : GovernorWorld → Prop} (hgenesis : ∀ b, I (genesis P d b))
    (hstep : ∀ w w', Observable P d w → I w → Small P d w w' → I w') {w : GovernorWorld}
    (h : Observable P d w) : I w := by
  obtain ⟨b, hb⟩ := h
  apply run_invariant _ hb (hgenesis b)
  intro v v' hrun hv hm
  exact hstep v v' ⟨b, hrun⟩ hv (micro_small hm)

/-! ## One proposal -/

/-- The ballot that a voting operation casts. -/
structure CastBallot where
  proposalId : Uint 256
  member : Address
  intensity : Sint 8
  deriving DecidableEq

/-- The ballot of an operation, if it is one of the three ways of voting. -/
def Op.castBallot (sender : Address) : Op → Option CastBallot
  | .plain (.castVote id intensity) => some ⟨id, sender, intensity⟩
  | .plain (.castCfpApprovalVote id intensity) => some ⟨id, sender, intensity⟩
  | .plain (.castCfpApprovalVoteBySig v _) => some ⟨v.proposalId, v.member, v.intensity⟩
  | _ => none

/-- The parameters of an operation that registers a proposal. -/
def Op.registration : Op → Option ProposalParams
  | .plain (.registerProposal params) => some params
  | .plain (.registerCfpProposal _ _ params) => some params
  | _ => none

/-- The ways in which a call that took effect can have changed the record of one proposal. -/
inductive ProposalChange (P : Primitives) (d : Deployment) (e : GovernorEntry) (id : Uint 256) :
    Proposal → Prop
  | same : ProposalChange P d e id (e.before.proposals id)
  | registered (params : ProposalParams) (hop : e.op.registration = some params)
      (h : Registers e.block params e.before id) :
      ProposalChange P d e id (params.over (e.before.proposals id))
  | counted (intensity : Sint 8) (member : Address) (cost spent : Uint 32) (q : Proposal)
      (hop : e.op.castBallot e.msg.sender = some ⟨id, member, intensity⟩)
      (h : Accepts e.block id intensity member e.before cost spent q) : ProposalChange P d e id q
  | finalized (hop : e.op = .plain (.finalizeProposal id))
      (hregistered : (e.before.proposals id).sessionId ≠ 0)
      (hfinalized : (e.before.proposals id).finalized = false)
      (hended : ((e.before.proposals id).votingEndsAt : ℕ) ≤ e.block.timestamp) :
      ProposalChange P d e id
        ((e.before.proposals id).finalize (e.before.sessions (e.before.proposals id).sessionId))
  | reviewed (evidenceHash : Bytes32) (hop : e.op = .plain (.recordReview id evidenceHash))
      (hregistered : (e.before.proposals id).sessionId ≠ 0)
      (hfinalized : (e.before.proposals id).finalized = true)
      (hcreator : (e.before.proposals id).creatorApproved = true)
      (huser : (e.before.proposals id).userApproved = true)
      (hqueued : (e.before.proposals id).queued = false) :
      ProposalChange P d e id { e.before.proposals id with reviewed := true }
  | queued (delay executableAt expiresAt : Uint 64) (hop : e.op = .plain (.queueProposal id))
      (hregistered : (e.before.proposals id).sessionId ≠ 0)
      (hreviewed : (e.before.proposals id).reviewed = true)
      (hqueued : (e.before.proposals id).queued = false)
      (hdelay : delayFor d (e.before.proposals id).changeClass = .ok delay)
      (hexecutable : (executableAt : ℕ) = e.block.timestamp % 2 ^ 64 + delay)
      (hexpires : (expiresAt : ℕ) = executableAt + d.executionWindow) :
      ProposalChange P d e id
        { e.before.proposals id with executableAt, expiresAt, queued := true }
  | executed (callData : Bytes) (hop : e.op = .executeProposal id callData)
      (hcall : e.callout = some ⟨id, (e.before.proposals id).target,
        (e.before.proposals id).value, callData⟩)
      (h : Executes P d e.block e.msg.value id callData e.before) :
      ProposalChange P d e id { e.before.proposals id with executed := true }
  | cancelled (incidentHash : Bytes32)
      (hop : e.op = .plain (.cancelQueuedProposal id incidentHash))
      (hregistered : (e.before.proposals id).sessionId ≠ 0)
      (hqueued : (e.before.proposals id).queued = true)
      (hcancelled : (e.before.proposals id).cancelled = false)
      (hexecuted : (e.before.proposals id).executed = false) :
      ProposalChange P d e id { e.before.proposals id with cancelled := true }

/-- Writing a record that agrees with the old one in a field changes that field nowhere. -/
theorem setProposal_field {α : Type} (f : Proposal → α) {s : State} {id : Uint 256} {q : Proposal}
    (hq : f q = f (s.proposals id)) (x : Uint 256) :
    f ((s.setProposal id q).proposals x) = f (s.proposals x) := by
  by_cases hx : x = id
  · subst hx
    simpa [State.setProposal] using hq
  · simp [State.setProposal, hx]

/-- A change of one record is, for any other identifier, none. -/
theorem setProposal_change {e : GovernorEntry} {id₀ id : Uint 256} {q : Proposal}
    (h : ProposalChange P d e id₀ q) :
    ProposalChange P d e id ((e.before.setProposal id₀ q).proposals id) := by
  by_cases hid : id = id₀
  · subst hid
    simpa [State.setProposal] using h
  · simpa [State.setProposal, hid] using .same

theorem Effect.proposal_change {b : Block} {msg : Msg} {s s' : State} {op : PlainOp}
    (h : Effect P d b msg.sender s op s') (callout : Option TargetCall) (id : Uint 256) :
    ProposalChange P d ⟨b, msg, .plain op, s, callout⟩ id (s'.proposals id) := by
  let e : GovernorEntry := ⟨b, msg, .plain op, s, callout⟩
  cases h with
  | access | createSession | registerMember | recordPreVoteReview | recordHouseDeliberation
  | recordContractTestEvidence | recordConstitutionalEvidence => exact .same
  | registerProposal params id₀ hreg =>
    exact setProposal_change (e := e) (.registered params rfl hreg)
  | registerCfpProposal _ _ params id₀ _ _ _ hreg =>
    exact setProposal_change (e := e) (.registered params rfl hreg)
  | castVote id₀ i cost spent q hacc =>
    exact setProposal_change (e := e) (.counted i _ cost spent q rfl hacc)
  | castCfpApprovalVote id₀ i cost spent q _ hacc =>
    exact setProposal_change (e := e) (.counted i _ cost spent q rfl hacc)
  | castCfpApprovalVoteBySig v _ _ cost spent q _ hacc =>
    exact setProposal_change (e := e) (.counted v.intensity _ cost spent q rfl hacc)
  | finalizeProposal id₀ hreg hfin _ _ hend =>
    exact setProposal_change (e := e) (.finalized rfl hreg hfin hend)
  | recordReview id₀ hash hreg hfin hca hua _ _ hque =>
    exact setProposal_change (e := e) (.reviewed hash rfl hreg hfin hca hua hque)
  | queueProposal id₀ delay executableAt expiresAt hreg _ _ _ hrev hque _ _ hdelay hexec hexp =>
    exact setProposal_change (e := e)
      (.queued delay executableAt expiresAt rfl hreg hrev hque hdelay hexec hexp)
  | cancelQueuedProposal id₀ hash _ hreg hque hcan hexe =>
    exact setProposal_change (e := e) (.cancelled hash rfl hreg hque hcan hexe)

/-- What a small step does to a record and to the journal: time passes or an outside call returns,
and neither changes; or one call is noted and accounts for the change. -/
theorem Small.proposal_change {w w' : GovernorWorld} (h : Small P d w w') :
    (w'.state.proposals = w.state.proposals ∧ w'.journal = w.journal ∧
      w.block.timestamp ≤ w'.block.timestamp) ∨
    ∃ e : GovernorEntry, w'.journal = e :: w.journal ∧ e.block = w.block ∧ w'.block = w.block ∧
      e.before = w.state ∧ ∀ id, ProposalChange P d e id (w'.state.proposals id) := by
  cases h with
  | tick b hb => exact .inl ⟨rfl, rfl, hb⟩
  | resume => exact .inl ⟨rfl, rfl, le_rfl⟩
  | plain msg op s heff => exact .inr ⟨_, rfl, rfl, rfl, rfl, heff.proposal_change none⟩
  | execute msg id₀ callData hexec =>
    let e : GovernorEntry := ⟨w.block, msg, .executeProposal id₀ callData, w.state,
      some ⟨id₀, (w.state.proposals id₀).target, (w.state.proposals id₀).value, callData⟩⟩
    exact .inr ⟨e, rfl, rfl, rfl, rfl,
      fun _ ↦ setProposal_change (e := e) (.executed callData rfl rfl hexec)⟩

theorem Small.timestamp_le {w w' : GovernorWorld} (h : Small P d w w') :
    w.block.timestamp ≤ w'.block.timestamp := by
  cases h with
  | tick b hb => exact hb
  | plain | execute | resume => exact le_rfl

theorem Effect.ballot_accepted {b : Block} {sender : Address} {s s' : State} {op : PlainOp}
    (h : Effect P d b sender s op s') {c : CastBallot}
    (hc : (Op.plain op).castBallot sender = some c) :
    ∃ cost spent q, Accepts b c.proposalId c.intensity c.member s cost spent q := by
  cases h with
  | castVote id i cost spent q hacc | castCfpApprovalVote id i cost spent q _ hacc
  | castCfpApprovalVoteBySig v _ _ cost spent q _ hacc =>
    obtain rfl := Option.some.inj hc
    exact ⟨cost, spent, q, hacc⟩
  | _ => cases hc

/-- A step leaves the journal, or notes one call; if that casts a ballot the ballot is accepted. -/
theorem Small.ballot_accepted {w w' : GovernorWorld} (h : Small P d w w') :
    w'.journal = w.journal ∨
    ∃ e : GovernorEntry, w'.journal = e :: w.journal ∧ e.block = w.block ∧ e.before = w.state ∧
      ∀ c, e.op.castBallot e.msg.sender = some c →
        ∃ cost spent q, Accepts w.block c.proposalId c.intensity c.member w.state cost spent q := by
  cases h with
  | tick | resume => exact .inl rfl
  | plain msg op s heff => exact .inr ⟨_, rfl, rfl, rfl, fun c hc ↦ heff.ballot_accepted hc⟩
  | execute msg id callData => exact .inr ⟨_, rfl, rfl, rfl, fun c hc ↦ by cases hc⟩

/-- What a registration fixes about a proposal. -/
def Proposal.terms (p : Proposal) : ProposalParams :=
  ⟨p.sessionId, p.contentHash, p.specificationHash, p.manifestHash, p.changeClass, p.target,
    p.value, p.callDataHash, p.votingStartsAt, p.votingEndsAt⟩

@[simp]
theorem terms_over (params : ProposalParams) (p : Proposal) : (params.over p).terms = params := rfl

/-! ## Well-formed registries -/

/-- Identifiers are given out in order, and what has been registered fits together. -/
structure WellFormed (s : State) : Prop where
  session_blank : ∀ id : Uint 256, (s.sessionCount : ℕ) < (id : ℕ) → s.sessions id = {}
  session_ne : ∀ id, (s.sessions id).doesExist = true → id ≠ 0
  session_quorums : ∀ id, (s.sessions id).doesExist = true →
    (s.sessions id).creatorQuorum ≠ 0 ∧ (s.sessions id).userQuorum ≠ 0
  proposal_blank : ∀ id : Uint 256, (s.proposalCount : ℕ) < (id : ℕ) → s.proposals id = {}
  ballot_blank : ∀ (id : Uint 256) member, (s.proposalCount : ℕ) < (id : ℕ) →
    s.ballots id member = {}
  review_blank : ∀ id : Uint 256, (s.proposalCount : ℕ) < (id : ℕ) → s.preVoteReviews id = {}
  deliberation_blank : ∀ (id : Uint 256) house, (s.proposalCount : ℕ) < (id : ℕ) →
    s.deliberationEvidenceHash id house = 0
  test_blank : ∀ id : Uint 256, (s.proposalCount : ℕ) < (id : ℕ) →
    s.contractTestEvidence id = {}
  proposal_fits : ∀ id, (s.proposals id).sessionId ≠ 0 →
    (s.sessions (s.proposals id).sessionId).doesExist = true ∧
    (s.sessions (s.proposals id).sessionId).startsAt ≤ (s.proposals id).votingStartsAt ∧
    (s.proposals id).votingStartsAt < (s.proposals id).votingEndsAt

theorem WellFormed.le_count {s : State} (hs : WellFormed s) {id : Uint 256}
    (h : (s.proposals id).sessionId ≠ 0) : (id : ℕ) ≤ s.proposalCount := by
  by_contra hlt
  rw [hs.proposal_blank id (not_le.mp hlt)] at h
  exact h rfl

/-- The slot of a new proposal is blank. -/
theorem WellFormed.slot_blank {s : State} (hs : WellFormed s) {b : Block} {params : ProposalParams}
    {id : Uint 256} (h : Registers b params s id) : s.proposals id = {} :=
  hs.proposal_blank id (by have := h.id_eq; omega)

theorem wellFormed_initial : WellFormed (initialState P d) where
  session_blank _ _ := rfl
  session_ne _ h := by cases h
  session_quorums _ h := by cases h
  proposal_blank _ _ := rfl
  ballot_blank _ _ _ := rfl
  review_blank _ _ := rfl
  deliberation_blank _ _ _ := rfl
  test_blank _ _ := rfl
  proposal_fits _ h := absurd rfl h

/-- Writing the record of a registered proposal without touching its session and window. -/
theorem WellFormed.setProposal {s : State} (hs : WellFormed s) {id : Uint 256} {q : Proposal}
    (hreg : (s.proposals id).sessionId ≠ 0) (hsession : q.sessionId = (s.proposals id).sessionId)
    (hstart : q.votingStartsAt = (s.proposals id).votingStartsAt)
    (hend : q.votingEndsAt = (s.proposals id).votingEndsAt) : WellFormed (s.setProposal id q) where
  session_blank := hs.session_blank
  session_ne := hs.session_ne
  session_quorums := hs.session_quorums
  proposal_blank x hx := by
    have hle := hs.le_count hreg
    have hne : x ≠ id := by
      rintro rfl
      exact absurd hle (not_le.mpr hx)
    simpa [State.setProposal, hne] using hs.proposal_blank x hx
  ballot_blank := hs.ballot_blank
  review_blank := hs.review_blank
  deliberation_blank := hs.deliberation_blank
  test_blank := hs.test_blank
  proposal_fits x hx := by
    by_cases hid : x = id
    · subst hid
      simp only [State.setProposal, Function.update_self, hsession, hstart, hend]
      exact hs.proposal_fits x hreg
    · simp only [State.setProposal, Function.update_of_ne hid] at hx ⊢
      exact hs.proposal_fits x hx

theorem WellFormed.withProposal {s : State} (hs : WellFormed s) {b : Block}
    {params : ProposalParams} {id : Uint 256} (h : Registers b params s id) :
    WellFormed (s.withProposal params id) := by
  have hid := h.id_eq
  have hbeyond {x : Uint 256} (hx : (id : ℕ) < x) : (s.proposalCount : ℕ) < x := by omega
  refine ⟨hs.session_blank, hs.session_ne, hs.session_quorums, fun x hx ↦ ?_,
    fun x m hx ↦ hs.ballot_blank x m (hbeyond hx), fun x hx ↦ hs.review_blank x (hbeyond hx),
    fun x house hx ↦ hs.deliberation_blank x house (hbeyond hx),
    fun x hx ↦ hs.test_blank x (hbeyond hx), fun x hx ↦ ?_⟩
  · have hne : x ≠ id := by
      rintro rfl
      exact lt_irrefl _ hx
    simpa [State.withProposal, State.setProposal, hne] using hs.proposal_blank x (hbeyond hx)
  · by_cases hx' : x = id
    · subst hx'
      simp only [State.withProposal, State.setProposal, ProposalParams.over,
        Function.update_self]
      exact ⟨h.session_exists, h.starts_in_session, h.starts_before_end⟩
    · simp only [State.withProposal, State.setProposal, Function.update_of_ne hx'] at hx ⊢
      exact hs.proposal_fits x hx

theorem WellFormed.withBallot {s : State} (hs : WellFormed s) {b : Block} {id : Uint 256}
    {i : Sint 8} {member : Address} {cost spent : Uint 32} {q : Proposal}
    (h : Accepts b id i member s cost spent q) :
    WellFormed (s.withBallot id i member cost spent q) := by
  have hle := hs.le_count h.registered
  have hrecord : WellFormed (s.setProposal id q) := by
    rw [h.counts.eq]
    exact hs.setProposal h.registered rfl rfl rfl
  refine ⟨hrecord.session_blank, hrecord.session_ne, hrecord.session_quorums,
    hrecord.proposal_blank, fun x m hx ↦ ?_, hrecord.review_blank, hrecord.deliberation_blank,
    hrecord.test_blank, hrecord.proposal_fits⟩
  have hne : x ≠ id := by
    rintro rfl
    exact absurd hle (not_le.mpr hx)
  simpa [State.withBallot, update₂_of_ne_left hne] using hs.ballot_blank x m hx

theorem Effect.wellFormed {b : Block} {sender : Address} {s s' : State} {op : PlainOp}
    (hs : WellFormed s) (h : Effect P d b sender s op s') : WellFormed s' := by
  -- A slot that an operation on a registered proposal writes is not beyond the counter.
  have hne {id x : Uint 256} (hreg : (s.proposals id).sessionId ≠ 0)
      (hx : (s.proposalCount : ℕ) < x) : x ≠ id := by
    rintro rfl
    exact absurd (hs.le_count hreg) (not_le.mpr hx)
  cases h with
  | access => exact ⟨hs.1, hs.2, hs.3, hs.4, hs.5, hs.6, hs.7, hs.8, hs.9⟩
  | createSession ruleHash startsAt endsAt budget creatorQuorum userQuorum id _ _ hcq huq hid =>
    have hnew : (s.sessions id).doesExist = false := by
      rw [hs.session_blank id (by omega)]
    refine ⟨fun x hx ↦ ?_, fun x hx ↦ ?_, fun x hx ↦ ?_, hs.4, hs.5, hs.6, hs.7, hs.8,
      fun x hx ↦ ?_⟩
    · have hxid : x ≠ id := by
        rintro rfl
        exact lt_irrefl _ hx
      simp only [Function.update_of_ne hxid]
      exact hs.session_blank x (by simp only at hx; omega)
    · by_cases hxid : x = id
      · rintro rfl
        subst hxid
        simp at hid
      · simp only [Function.update_of_ne hxid] at hx
        exact hs.session_ne x hx
    · by_cases hxid : x = id
      · subst hxid
        simp only [Function.update_self]
        exact ⟨hcq, huq⟩
      · simp only [Function.update_of_ne hxid] at hx ⊢
        exact hs.session_quorums x hx
    · obtain ⟨hex, hrest⟩ := hs.proposal_fits x hx
      have hxid : (s.proposals x).sessionId ≠ id := by
        intro heq
        rw [heq, hnew] at hex
        cases hex
      simp only [Function.update_of_ne hxid]
      exact ⟨hex, hrest⟩
  | registerMember => exact ⟨hs.1, hs.2, hs.3, hs.4, hs.5, hs.6, hs.7, hs.8, hs.9⟩
  | registerProposal params id hreg => exact hs.withProposal hreg
  | registerCfpProposal _ _ params id _ _ _ hreg =>
    have h := hs.withProposal hreg
    exact ⟨h.1, h.2, h.3, h.4, h.5, h.6, h.7, h.8, h.9⟩
  | castVote id i cost spent q hacc => exact hs.withBallot hacc
  | castCfpApprovalVote id i cost spent q _ hacc => exact hs.withBallot hacc
  | castCfpApprovalVoteBySig v _ _ cost spent q _ hacc =>
    have h := hs.withBallot hacc
    exact ⟨h.1, h.2, h.3, h.4, h.5, h.6, h.7, h.8, h.9⟩
  | recordPreVoteReview id _ _ _ _ hreg =>
    refine ⟨hs.1, hs.2, hs.3, hs.4, hs.5, fun x hx ↦ ?_, hs.7, hs.8, hs.9⟩
    simpa [hne hreg hx] using hs.review_blank x hx
  | recordHouseDeliberation id house _ hreg =>
    refine ⟨hs.1, hs.2, hs.3, hs.4, hs.5, hs.6, fun x y hx ↦ ?_, hs.8, hs.9⟩
    simpa [update₂_of_ne_left (hne hreg hx)] using hs.deliberation_blank x y hx
  | finalizeProposal id hreg => exact hs.setProposal hreg rfl rfl rfl
  | recordReview id _ hreg =>
    have h := hs.setProposal (q := { s.proposals id with reviewed := true }) hreg rfl rfl rfl
    exact ⟨h.1, h.2, h.3, h.4, h.5, h.6, h.7, h.8, h.9⟩
  | recordContractTestEvidence id _ _ _ _ _ _ hreg =>
    refine ⟨hs.1, hs.2, hs.3, hs.4, hs.5, hs.6, hs.7, fun x hx ↦ ?_, hs.9⟩
    simpa [hne hreg hx] using hs.test_blank x hx
  | recordConstitutionalEvidence => exact ⟨hs.1, hs.2, hs.3, hs.4, hs.5, hs.6, hs.7, hs.8, hs.9⟩
  | queueProposal id _ _ _ hreg => exact hs.setProposal hreg rfl rfl rfl
  | cancelQueuedProposal id _ _ hreg => exact hs.setProposal hreg rfl rfl rfl

theorem Small.wellFormed {w w' : GovernorWorld} (hw : WellFormed w.state) (h : Small P d w w') :
    WellFormed w'.state := by
  cases h with
  | tick => exact hw
  | plain msg op s heff => exact heff.wellFormed hw
  | execute msg id callData hexec =>
    have h := hw.setProposal (q := { w.state.proposals id with executed := true })
      hexec.registered rfl rfl rfl
    exact ⟨h.1, h.2, h.3, h.4, h.5, h.6, h.7, h.8, h.9⟩
  | resume => exact ⟨hw.1, hw.2, hw.3, hw.4, hw.5, hw.6, hw.7, hw.8, hw.9⟩

theorem Observable.wellFormed {w : GovernorWorld} (h : Observable P d w) : WellFormed w.state :=
  h.invariant (I := fun w ↦ WellFormed w.state) (fun _ ↦ wellFormed_initial)
    (fun _ _ _ hw hs ↦ hs.wellFormed hw)

/-! ## Terms -/

/-- The terms of a registered proposal never change. -/
theorem ProposalChange.terms_eq {e : GovernorEntry} {id : Uint 256} {q : Proposal}
    (hwf : WellFormed e.before) (hregistered : (e.before.proposals id).sessionId ≠ 0)
    (h : ProposalChange P d e id q) : q.terms = (e.before.proposals id).terms := by
  cases h with
  | same | finalized | reviewed | queued | executed | cancelled => rfl
  | registered params _ hreg =>
    rw [hwf.slot_blank hreg] at hregistered
    exact absurd rfl hregistered
  | counted i member cost spent q _ hacc =>
    rw [hacc.counts.eq]
    rfl

theorem Small.terms_eq {w w' : GovernorWorld} {id : Uint 256} (hwf : WellFormed w.state)
    (hregistered : (w.state.proposals id).sessionId ≠ 0) (h : Small P d w w') :
    (w'.state.proposals id).terms = (w.state.proposals id).terms := by
  obtain ⟨hsame, -⟩ | ⟨e, -, -, -, hbefore, hchange⟩ := h.proposal_change
  · rw [hsame]
  · rw [← hbefore] at hwf hregistered ⊢
    exact (hchange id).terms_eq hwf hregistered

/-! ## House membership -/

/-- A step keeps the members of a session, or adds one before the session starts. -/
theorem Small.memberHouse_change {w w' : GovernorWorld} (h : Small P d w w') (sessionId : Uint 256) :
    w'.state.memberHouse sessionId = w.state.memberHouse sessionId ∨
    ∃ member house, w.block.timestamp < ((w.state.sessions sessionId).startsAt : ℕ) ∧
      w.state.memberHouse sessionId member = .none ∧ (house = .creator ∨ house = .user) ∧
      w'.state.memberHouse sessionId =
        Function.update (w.state.memberHouse sessionId) member house := by
  cases h with
  | tick | execute | resume => exact .inl rfl
  | plain msg op s heff =>
    cases heff with
    | registerMember id member house _ hopen _ hhouse hnew =>
      by_cases hid : sessionId = id
      · subst hid
        exact .inr ⟨member, house, hopen, hnew, hhouse, by simp [update₂]⟩
      · exact .inl (update₂_of_ne_left hid)
    | _ => exact .inl rfl

/-- An operation keeps everybody's House, or registers a member. -/
theorem Effect.memberHouse {b : Block} {sender : Address} {op : PlainOp} {s s' : State}
    (h : Effect P d b sender s op s') (sessionId : Uint 256) (member : Address) :
    s'.memberHouse sessionId member = s.memberHouse sessionId member ∨
      s.memberHouse sessionId member = .none ∧
        op = .registerMember sessionId member (s'.memberHouse sessionId member) := by
  cases h with
  | registerMember id m house _ _ _ _ hnew =>
    have hhouse := update₂_apply s.memberHouse id m house sessionId member
    by_cases hself : sessionId = id ∧ member = m
    · rw [if_pos hself] at hhouse
      obtain ⟨rfl, rfl⟩ := hself
      refine .inr ⟨hnew, ?_⟩
      dsimp only
      rw [hhouse]
    · rw [if_neg hself] at hhouse
      exact .inl hhouse
  | _ => exact .inl rfl

/-- Every member of a House has been registered for it. -/
def AllRegistered (w : GovernorWorld) : Prop :=
  ∀ sessionId member, w.state.memberHouse sessionId member ≠ .none →
    ∃ e ∈ w.journal,
      e.op = .plain (.registerMember sessionId member (w.state.memberHouse sessionId member))

theorem Small.allRegistered {w w' : GovernorWorld} (hw : AllRegistered w) (h : Small P d w w') :
    AllRegistered w' := by
  intro sessionId member hmember
  cases h with
  | tick | resume => exact hw sessionId member hmember
  | execute =>
    obtain ⟨e, he, hop⟩ := hw sessionId member hmember
    exact ⟨e, List.mem_cons_of_mem _ he, hop⟩
  | plain msg op s heff =>
    obtain hsame | ⟨-, hop⟩ := heff.memberHouse sessionId member
    · dsimp only at hmember ⊢
      rw [hsame] at hmember ⊢
      obtain ⟨e, he, hop⟩ := hw sessionId member hmember
      exact ⟨e, List.mem_cons_of_mem _ he, hop⟩
    · exact ⟨_, List.mem_cons_self, congrArg Op.plain hop⟩

theorem Observable.allRegistered {w : GovernorWorld} (h : Observable P d w) : AllRegistered w :=
  h.invariant (I := AllRegistered) (fun _ _ _ hne ↦ absurd rfl hne) fun _ _ _ hw hs ↦ hs.allRegistered hw

/-- A member stays in its House. -/
theorem memberHouse_stays {w w' : GovernorWorld}
    (h : Relation.ReflTransGen (contract P d).Micro w w') {sessionId : Uint 256} {member : Address}
    (hmember : w.state.memberHouse sessionId member ≠ .none) :
    w'.state.memberHouse sessionId member = w.state.memberHouse sessionId member := by
  induction h with
  | refl => rfl
  | tail _ hm ih =>
    rw [← ih] at hmember ⊢
    obtain hsame | ⟨new, house, -, hnone, -, hupdate⟩ :=
      (micro_small hm).memberHouse_change sessionId
    · rw [hsame]
    · have hne : member ≠ new := by
        rintro rfl
        exact hmember hnone
      rw [hupdate, Function.update_of_ne hne]

end CreatorFirst.Governor
