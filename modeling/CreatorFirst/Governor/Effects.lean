import CreatorFirst.Governor.Machine

/-!
# What each operation can do

For every external function, the facts that its success implies and the storage it leaves. All
later results argue from `Effect` and `executeProposal_ok`; none unfolds an operation again.
-/

namespace CreatorFirst.Governor

open Chain

variable {P : Primitives} {d : Deployment} {b : Block} {sender : Address} {s s' : State}

theorem onlyRole_bind_eq_ok {α : Type} {role : Bytes32} {f : Unit → Except Error α} {y : α} :
    (onlyRole role sender s >>= f) = .ok y ↔ s.roles role sender = true ∧ f () = .ok y :=
  Roles.required_bind_eq_ok

theorem session_bind_eq_ok {α : Type} {id : Uint 256} {f : Session → Except Error α} {y : α} :
    (session s id >>= f) = .ok y ↔
      (s.sessions id).doesExist = true ∧ f (s.sessions id) = .ok y := by
  simp [session, bind_eq_ok, revertIf_eq_ok]

theorem proposal_bind_eq_ok {α : Type} {id : Uint 256} {f : Proposal → Except Error α} {y : α} :
    (proposal s id >>= f) = .ok y ↔
      (s.proposals id).sessionId ≠ 0 ∧ f (s.proposals id) = .ok y := by
  simp [proposal, bind_eq_ok, revertIf_eq_ok]

/-! ## Registration -/

/-- The checks of `_registerProposal`, for the identifier it assigns. -/
structure Registers (b : Block) (params : ProposalParams) (s : State) (id : Uint 256) : Prop where
  session_exists : (s.sessions params.sessionId).doesExist = true
  target_ne : params.target ≠ 0
  callDataHash_ne : params.callDataHash ≠ 0
  class_ne : params.changeClass ≠ .none
  starts_in_session : (s.sessions params.sessionId).startsAt ≤ params.votingStartsAt
  starts_later : b.timestamp < (params.votingStartsAt : ℕ)
  starts_before_end : params.votingStartsAt < params.votingEndsAt
  ends_in_session : params.votingEndsAt ≤ (s.sessions params.sessionId).endsAt
  id_eq : (id : ℕ) = s.proposalCount + 1

/-- The record of a registered proposal, written over the record `p`. -/
def ProposalParams.over (params : ProposalParams) (p : Proposal) : Proposal :=
  { p with
    sessionId := params.sessionId
    contentHash := params.contentHash
    specificationHash := params.specificationHash
    manifestHash := params.manifestHash
    callDataHash := params.callDataHash
    target := params.target
    value := params.value
    votingStartsAt := params.votingStartsAt
    votingEndsAt := params.votingEndsAt
    changeClass := params.changeClass }

def State.withProposal (s : State) (params : ProposalParams) (id : Uint 256) : State :=
  { s with proposalCount := id }.setProposal id (params.over (s.proposals id))

theorem registerProposalCore_ok {params : ProposalParams} {r : Uint 256 × State}
    (h : registerProposalCore b params s = .ok r) :
    Registers b params s r.1 ∧ r.2 = s.withProposal params r.1 := by
  simp only [registerProposalCore, session_bind_eq_ok, revertIf_bind_eq_ok,
    Uint.increment_bind_eq_ok, pure_eq_ok] at h
  obtain ⟨hex, -, htarget, hcall, hclass, htime, id, hid, rfl⟩ := h
  simp only [not_or, not_lt, not_le] at htime
  obtain ⟨hstart, hlater, hend, hwithin⟩ := htime
  exact ⟨⟨hex, htarget, hcall, hclass, hstart, hlater, hend, hwithin, hid⟩, rfl⟩

/-! ## Ballots -/

theorem absoluteIntensity_ok {i : Sint 8} {a : Uint 32} (h : absoluteIntensity i = .ok a) :
    (a : ℕ) = (i : ℤ).natAbs := by
  have hi := i.property
  unfold absoluteIntensity at h
  split at h
  · next hneg =>
    obtain ⟨n, hn, h⟩ := bind_eq_ok.mp h
    rw [Sint.neg_eq_ok] at hn
    rw [pure_eq_ok] at h
    have hval := Sint.toUint_of_nonneg (a := n) (by omega)
    rw [← h, Uint.truncate_of_lt (by omega), hval]
    omega
  · next hpos =>
    rw [pure_eq_ok] at h
    have hval := Sint.toUint_of_nonneg (a := i) (by omega)
    rw [← h, Uint.truncate_of_lt (by omega), hval]
    omega

/-- The participant count that a ballot leaves. -/
def CountsTo (before : Uint 32) (cast : Bool) (after : Uint 32) : Prop :=
  (after : ℕ) = before + if cast then 0 else 1

/-- The score that replacing `old` by `new` leaves. -/
def ScoresTo (before : Sint 64) (old new : Sint 8) (after : Sint 64) : Prop :=
  (after : ℤ) = before - old + new

theorem countParticipant_eq_ok {n m : Uint 32} {cast : Bool} :
    countParticipant n cast = .ok m ↔ CountsTo n cast m := by
  unfold countParticipant CountsTo
  cases cast
  · simp [Uint.increment_eq_ok]
  · rw [if_pos rfl, pure_eq_ok, Fin.ext_iff]
    simp [eq_comm]

theorem replaceScore_eq_ok {x y : Sint 64} {old new : Sint 8}
    (h : replaceScore x old new = .ok y) : ScoresTo x old new y := by
  simp only [replaceScore, bind_eq_ok, Sint.sub_eq_ok, Sint.add_eq_ok, Sint.widen_val] at h
  obtain ⟨r, hr, hy⟩ := h
  unfold ScoresTo
  omega

/-- The proposal record after a ballot: only the tally of the member's House has moved. -/
inductive Counted (p : Proposal) (ballot : Ballot) (intensity : Sint 8) : House → Proposal → Prop
  | creator (participants : Uint 32) (score : Sint 64)
      (hcount : CountsTo p.creatorParticipants ballot.cast participants)
      (hscore : ScoresTo p.creatorScore ballot.intensity intensity score) :
      Counted p ballot intensity .creator
        { p with creatorParticipants := participants, creatorScore := score }
  | user (participants : Uint 32) (score : Sint 64)
      (hcount : CountsTo p.userParticipants ballot.cast participants)
      (hscore : ScoresTo p.userScore ballot.intensity intensity score) :
      Counted p ballot intensity .user
        { p with userParticipants := participants, userScore := score }

theorem Counted.eq {p q : Proposal} {ballot : Ballot} {i : Sint 8} {house : House}
    (h : Counted p ballot i house q) :
    q = { p with
      creatorParticipants := q.creatorParticipants, creatorScore := q.creatorScore
      userParticipants := q.userParticipants, userScore := q.userScore } := by
  cases h <;> rfl

theorem tally_ok {p q : Proposal} {house : House} {ballot : Ballot} {i : Sint 8}
    (hhouse : house = .creator ∨ house = .user) (h : tally p house ballot i = .ok q) :
    Counted p ballot i house q := by
  unfold tally at h
  obtain rfl | rfl := hhouse
  · rw [if_pos rfl] at h
    obtain ⟨n, hn, h⟩ := bind_eq_ok.mp h
    obtain ⟨x, hx, h⟩ := bind_eq_ok.mp h
    rw [pure_eq_ok] at h
    subst h
    exact .creator n x (countParticipant_eq_ok.mp hn) (replaceScore_eq_ok hx)
  · rw [if_neg (by decide)] at h
    obtain ⟨n, hn, h⟩ := bind_eq_ok.mp h
    obtain ⟨x, hx, h⟩ := bind_eq_ok.mp h
    rw [pure_eq_ok] at h
    subst h
    exact .user n x (countParticipant_eq_ok.mp hn) (replaceScore_eq_ok hx)

/-- The checks of `_castVote`, with the cost, the new total and the record they lead to. -/
structure Accepts (b : Block) (id : Uint 256) (intensity : Sint 8) (member : Address) (s : State)
    (cost spent : Uint 32) (counted : Proposal) : Prop where
  registered : (s.proposals id).sessionId ≠ 0
  not_finalized : (s.proposals id).finalized = false
  not_cancelled : (s.proposals id).cancelled = false
  not_executed : (s.proposals id).executed = false
  opened : ((s.proposals id).votingStartsAt : ℕ) ≤ b.timestamp
  not_closed : b.timestamp < ((s.proposals id).votingEndsAt : ℕ)
  review_recorded : (s.preVoteReviews id).recorded = true
  review_passed : (s.preVoteReviews id).passed = true
  creator_deliberated : s.deliberationEvidenceHash id .creator ≠ 0
  user_deliberated : s.deliberationEvidenceHash id .user ≠ 0
  member_house : s.memberHouse (s.proposals id).sessionId member = .creator ∨
    s.memberHouse (s.proposals id).sessionId member = .user
  cost_eq : (cost : ℕ) = (intensity : ℤ).natAbs ^ 2
  refundable : ((s.ballots id member).cost : ℕ) ≤
    s.spentVoiceCredits (s.proposals id).sessionId member
  spent_eq : (spent : ℕ) = s.spentVoiceCredits (s.proposals id).sessionId member -
    (s.ballots id member).cost + cost
  within_budget : spent ≤ (s.sessions (s.proposals id).sessionId).voiceCreditBudget
  counts : Counted (s.proposals id) (s.ballots id member) intensity
    (s.memberHouse (s.proposals id).sessionId member) counted

def State.withBallot (s : State) (id : Uint 256) (intensity : Sint 8) (member : Address)
    (cost spent : Uint 32) (counted : Proposal) : State :=
  { s.setProposal id counted with
    ballots := update₂ s.ballots id member { intensity, cost, cast := true }
    spentVoiceCredits :=
      update₂ s.spentVoiceCredits (s.proposals id).sessionId member spent }

section

variable (id : Uint 256) (i : Sint 8) (member : Address) (cost spent : Uint 32) (q : Proposal)

@[simp]
theorem withBallot_ballots : (s.withBallot id i member cost spent q).ballots =
    update₂ s.ballots id member { intensity := i, cost, cast := true } := rfl

@[simp]
theorem withBallot_spentVoiceCredits :
    (s.withBallot id i member cost spent q).spentVoiceCredits =
      update₂ s.spentVoiceCredits (s.proposals id).sessionId member spent := rfl

@[simp]
theorem withBallot_proposals : (s.withBallot id i member cost spent q).proposals =
    Function.update s.proposals id q := rfl

@[simp]
theorem withBallot_sessions :
    (s.withBallot id i member cost spent q).sessions = s.sessions := rfl

@[simp]
theorem withBallot_memberHouse :
    (s.withBallot id i member cost spent q).memberHouse = s.memberHouse := rfl

end

theorem castVoteCore_ok {id : Uint 256} {i : Sint 8} {member : Address}
    (h : castVoteCore b id i member s = .ok s') :
    ∃ cost spent counted, Accepts b id i member s cost spent counted ∧
      s' = s.withBallot id i member cost spent counted := by
  simp only [castVoteCore, proposal_bind_eq_ok, revertIf_bind_eq_ok] at h
  obtain ⟨hreg, hflags, htime, hrec, hpass, hdc, hdu, -, hhouse, h⟩ := h
  obtain ⟨a, ha, h⟩ := bind_eq_ok.mp h
  simp only [Uint.mul_bind_eq_ok, Uint.sub_bind_eq_ok, Uint.add_bind_eq_ok,
    revertIf_bind_eq_ok] at h
  obtain ⟨cost, hcost, hle, r, hr, spent, hspent, hbudget, h⟩ := h
  obtain ⟨counted, hcounted, h⟩ := bind_eq_ok.mp h
  obtain rfl := pure_eq_ok.mp h
  simp only [not_or, Bool.not_eq_true] at hflags
  simp only [not_or, not_lt, not_le] at htime
  replace hhouse := not_and_or.mp hhouse
  simp only [not_not] at hhouse
  refine ⟨cost, spent, counted, ⟨hreg, hflags.1, hflags.2.1, hflags.2.2, htime.1, htime.2,
    by simpa using hrec, by simpa using hpass, hdc, hdu, hhouse, ?_, hle, ?_,
    not_lt.mp hbudget, tally_ok hhouse hcounted⟩, rfl⟩
  · rw [hcost, absoluteIntensity_ok ha, pow_two]
  · rw [hspent, hr]

/-! ## All plain operations -/

/-- The record after finalization under the quorums of `session`. -/
def Proposal.finalize (p : Proposal) (session : Session) : Proposal :=
  { p with
    creatorApproved :=
      session.creatorQuorum ≤ p.creatorParticipants ∧ 0 < (p.creatorScore : ℤ)
    userApproved := session.userQuorum ≤ p.userParticipants ∧ 0 < (p.userScore : ℤ)
    finalized := true }

/-- The values a relayed ballot is checked against before it is counted. -/
structure Relays (P : Primitives) (d : Deployment) (b : Block) (sender : Address) (v : CfpBallot)
    (signature : Bytes) (s : State) (nextNonce : Uint 256) : Prop where
  relayer : s.roles (RELAYER_ROLE P) sender = true
  in_time : b.timestamp ≤ (v.deadline : ℕ)
  nonce_eq : v.nonce = s.votingNonces v.member
  session_eq : (s.proposals v.proposalId).sessionId = v.sessionId
  house_eq : s.memberHouse v.sessionId v.member = v.house
  signed : P.recover (v.digest P d b) signature = some v.member
  next_eq : (nextNonce : ℕ) = s.votingNonces v.member + 1
  bound : s.proposalCfpIdHash v.proposalId ≠ 0

def State.withNonce (s : State) (member : Address) (nonce : Uint 256) : State :=
  { s with votingNonces := Function.update s.votingNonces member nonce }

/-- The success of a plain operation: what it checked and the storage it left. -/
inductive Effect (P : Primitives) (d : Deployment) (b : Block) (sender : Address) (s : State) :
    PlainOp → State → Prop
  | access (op : RoleOp) (roles : Roles) (h : s.roles.apply sender op = .ok roles) :
      Effect P d b sender s (.access op) { s with roles }
  | createSession (ruleHash : Bytes32) (startsAt endsAt : Uint 64)
      (voiceCreditBudget creatorQuorum userQuorum : Uint 32) (id : Uint 256)
      (hstart : b.timestamp < (startsAt : ℕ)) (hbudget : voiceCreditBudget ≠ 0)
      (hcreator : creatorQuorum ≠ 0) (huser : userQuorum ≠ 0)
      (hid : (id : ℕ) = s.sessionCount + 1) :
      Effect P d b sender s
        (.createSession ruleHash startsAt endsAt voiceCreditBudget creatorQuorum userQuorum)
        { s with
          sessionCount := id
          sessions := Function.update s.sessions id
            { ruleHash, startsAt, endsAt, voiceCreditBudget, creatorQuorum, userQuorum
              doesExist := true } }
  | registerMember (sessionId : Uint 256) (member : Address) (house : House)
      (hexists : (s.sessions sessionId).doesExist = true)
      (hopen : b.timestamp < ((s.sessions sessionId).startsAt : ℕ))
      (hmember : member ≠ 0) (hhouse : house = .creator ∨ house = .user)
      (hnew : s.memberHouse sessionId member = .none) :
      Effect P d b sender s (.registerMember sessionId member house)
        { s with memberHouse := update₂ s.memberHouse sessionId member house }
  | registerProposal (params : ProposalParams) (id : Uint 256) (h : Registers b params s id) :
      Effect P d b sender s (.registerProposal params) (s.withProposal params id)
  | registerCfpProposal (cfpIdHash : Bytes32) (revision : Uint 32) (params : ProposalParams)
      (id : Uint 256) (hcfp : cfpIdHash ≠ 0) (hrevision : revision ≠ 0)
      (hfree : s.cfpProposalId (cfpRevisionKey P cfpIdHash revision) = 0)
      (h : Registers b params s id) :
      Effect P d b sender s (.registerCfpProposal cfpIdHash revision params)
        { s.withProposal params id with
          proposalCfpIdHash := Function.update s.proposalCfpIdHash id cfpIdHash
          proposalCfpRevision := Function.update s.proposalCfpRevision id revision
          cfpProposalId :=
            Function.update s.cfpProposalId (cfpRevisionKey P cfpIdHash revision) id }
  | castVote (id : Uint 256) (intensity : Sint 8) (cost spent : Uint 32) (counted : Proposal)
      (h : Accepts b id intensity sender s cost spent counted) :
      Effect P d b sender s (.castVote id intensity)
        (s.withBallot id intensity sender cost spent counted)
  | castCfpApprovalVote (id : Uint 256) (intensity : Sint 8) (cost spent : Uint 32)
      (counted : Proposal) (hbound : s.proposalCfpIdHash id ≠ 0)
      (h : Accepts b id intensity sender s cost spent counted) :
      Effect P d b sender s (.castCfpApprovalVote id intensity)
        (s.withBallot id intensity sender cost spent counted)
  | castCfpApprovalVoteBySig (v : CfpBallot) (signature : Bytes) (nextNonce : Uint 256)
      (cost spent : Uint 32) (counted : Proposal)
      (hrelay : Relays P d b sender v signature s nextNonce)
      (h : Accepts b v.proposalId v.intensity v.member s cost spent counted) :
      Effect P d b sender s (.castCfpApprovalVoteBySig v signature)
        ((s.withNonce v.member nextNonce).withBallot v.proposalId v.intensity v.member cost spent
          counted)
  | recordPreVoteReview (id : Uint 256)
      (charterEvidenceHash legalEvidenceHash assessmentHash : Bytes32) (passed : Bool)
      (hregistered : (s.proposals id).sessionId ≠ 0)
      (hopen : b.timestamp < ((s.proposals id).votingStartsAt : ℕ))
      (hnew : (s.preVoteReviews id).recorded = false) :
      Effect P d b sender s
        (.recordPreVoteReview id charterEvidenceHash legalEvidenceHash assessmentHash passed)
        { s with
          preVoteReviews := Function.update s.preVoteReviews id
            { charterEvidenceHash, legalEvidenceHash, assessmentHash, recorded := true, passed } }
  | recordHouseDeliberation (id : Uint 256) (house : House) (evidenceHash : Bytes32)
      (hregistered : (s.proposals id).sessionId ≠ 0)
      (hopen : b.timestamp < ((s.proposals id).votingStartsAt : ℕ))
      (hhouse : house = .creator ∨ house = .user) (hhash : evidenceHash ≠ 0)
      (hnew : s.deliberationEvidenceHash id house = 0) :
      Effect P d b sender s (.recordHouseDeliberation id house evidenceHash)
        { s with
          deliberationEvidenceHash :=
            update₂ s.deliberationEvidenceHash id house evidenceHash }
  | finalizeProposal (id : Uint 256) (hregistered : (s.proposals id).sessionId ≠ 0)
      (hfinalized : (s.proposals id).finalized = false)
      (hcancelled : (s.proposals id).cancelled = false)
      (hexecuted : (s.proposals id).executed = false)
      (hended : ((s.proposals id).votingEndsAt : ℕ) ≤ b.timestamp) :
      Effect P d b sender s (.finalizeProposal id)
        (s.setProposal id
          ((s.proposals id).finalize (s.sessions (s.proposals id).sessionId)))
  | recordReview (id : Uint 256) (evidenceHash : Bytes32)
      (hregistered : (s.proposals id).sessionId ≠ 0)
      (hfinalized : (s.proposals id).finalized = true)
      (hcreator : (s.proposals id).creatorApproved = true)
      (huser : (s.proposals id).userApproved = true)
      (hcancelled : (s.proposals id).cancelled = false)
      (hexecuted : (s.proposals id).executed = false)
      (hqueued : (s.proposals id).queued = false) (hhash : evidenceHash ≠ 0)
      (htested : (s.contractTestEvidence id).recorded = true)
      (hpassed : (s.contractTestEvidence id).passed = true)
      (hconstitutional : (s.proposals id).changeClass = .p3Constitutional →
        s.constitutionalEvidenceHash id ≠ 0) :
      Effect P d b sender s (.recordReview id evidenceHash)
        { s.setProposal id { s.proposals id with reviewed := true } with
          reviewEvidenceHash := Function.update s.reviewEvidenceHash id evidenceHash }
  | recordContractTestEvidence (id : Uint 256)
      (sourceHash artifactHash testSuiteHash testReportHash testedCallDataHash : Bytes32)
      (passed : Bool) (hregistered : (s.proposals id).sessionId ≠ 0)
      (hqueued : (s.proposals id).queued = false)
      (hreviewed : (s.proposals id).reviewed = false)
      (hcallData : testedCallDataHash = (s.proposals id).callDataHash)
      (hnew : (s.contractTestEvidence id).recorded = false) :
      Effect P d b sender s
        (.recordContractTestEvidence id sourceHash artifactHash testSuiteHash testReportHash
          testedCallDataHash passed)
        { s with
          contractTestEvidence := Function.update s.contractTestEvidence id
            { sourceHash, artifactHash, testSuiteHash, testReportHash, testedCallDataHash
              recorded := true
              passed } }
  | recordConstitutionalEvidence (id : Uint 256) (evidenceHash : Bytes32)
      (hregistered : (s.proposals id).sessionId ≠ 0)
      (hqueued : (s.proposals id).queued = false)
      (hreviewed : (s.proposals id).reviewed = false) (hhash : evidenceHash ≠ 0) :
      Effect P d b sender s (.recordConstitutionalEvidence id evidenceHash)
        { s with
          constitutionalEvidenceHash :=
            Function.update s.constitutionalEvidenceHash id evidenceHash }
  | queueProposal (id : Uint 256) (delay executableAt expiresAt : Uint 64)
      (hregistered : (s.proposals id).sessionId ≠ 0)
      (hfinalized : (s.proposals id).finalized = true)
      (hcreator : (s.proposals id).creatorApproved = true)
      (huser : (s.proposals id).userApproved = true)
      (hreviewed : (s.proposals id).reviewed = true)
      (hqueued : (s.proposals id).queued = false)
      (hcancelled : (s.proposals id).cancelled = false)
      (hexecuted : (s.proposals id).executed = false)
      (hdelay : delayFor d (s.proposals id).changeClass = .ok delay)
      (hexecutable : (executableAt : ℕ) = b.timestamp % 2 ^ 64 + delay)
      (hexpires : (expiresAt : ℕ) = executableAt + d.executionWindow) :
      Effect P d b sender s (.queueProposal id)
        (s.setProposal id { s.proposals id with executableAt, expiresAt, queued := true })
  | cancelQueuedProposal (id : Uint 256) (incidentHash : Bytes32)
      (hguardian : s.roles (GUARDIAN_ROLE P) sender = true)
      (hregistered : (s.proposals id).sessionId ≠ 0)
      (hqueued : (s.proposals id).queued = true)
      (hcancelled : (s.proposals id).cancelled = false)
      (hexecuted : (s.proposals id).executed = false) (hhash : incidentHash ≠ 0) :
      Effect P d b sender s (.cancelQueuedProposal id incidentHash)
        (s.setProposal id { s.proposals id with cancelled := true })

theorem relay_eq_ok {v : CfpBallot} {signature : Bytes} :
    castCfpApprovalVoteBySig P d b sender v signature s = .ok s' ↔
      ∃ nextNonce, Relays P d b sender v signature s nextNonce ∧
        castVoteCore b v.proposalId v.intensity v.member (s.withNonce v.member nextNonce) =
          .ok s' := by
  have hrecover : ∀ a, (P.recover (v.digest P d b) signature).elim
      (Except.error Error.ecdsaInvalidSignature) Except.ok = .ok a ↔
        P.recover (v.digest P d b) signature = some a := by
    intro a
    cases P.recover (v.digest P d b) signature <;> simp
  simp only [castCfpApprovalVoteBySig, onlyRole_bind_eq_ok, revertIf_bind_eq_ok,
    proposal_bind_eq_ok, bind_eq_ok (x := Option.elim _ _ _), hrecover,
    Uint.increment_bind_eq_ok, not_lt, not_or, not_not, ne_eq]
  constructor
  · rintro ⟨hrole, htime, hnonce, -, ⟨hsession, hhouse⟩, _, hsigned, rfl, nextNonce, hnext, hbound,
      h⟩
    exact ⟨nextNonce, ⟨hrole, htime, hnonce, hsession, hhouse, hsigned, hnext, hbound⟩, h⟩
  · rintro ⟨nextNonce, hrelay, h⟩
    obtain ⟨_, _, _, hacc, -⟩ := castVoteCore_ok h
    exact ⟨hrelay.relayer, hrelay.in_time, hrelay.nonce_eq, hacc.registered,
      ⟨hrelay.session_eq, hrelay.house_eq⟩, v.member, hrelay.signed, rfl, nextNonce,
      hrelay.next_eq, hrelay.bound, h⟩

/-- Every successful plain operation is one of the effects. -/
theorem PlainOp.effect {op : PlainOp} (h : op.apply P d b sender s = .ok s') :
    Effect P d b sender s op s' := by
  cases op with
  | access op =>
    simp only [PlainOp.apply, accessOp] at h
    split at h
    · cases h
    · next roles hroles =>
      cases h
      exact .access op roles hroles
  | createSession ruleHash startsAt endsAt budget creatorQuorum userQuorum =>
    obtain ⟨r, hr, h⟩ := bind_eq_ok.mp h
    obtain rfl := pure_eq_ok.mp h
    simp only [Governor.createSession, onlyRole_bind_eq_ok, revertIf_bind_eq_ok,
      Uint.increment_bind_eq_ok, pure_eq_ok, not_or, not_le] at hr
    obtain ⟨-, -, ⟨hstart, -⟩, ⟨hbudget, hcreator, huser⟩, id, hid, rfl⟩ := hr
    exact .createSession ruleHash startsAt endsAt budget creatorQuorum userQuorum id hstart
      hbudget hcreator huser hid
  | registerMember sessionId member house =>
    simp only [PlainOp.apply, Governor.registerMember, onlyRole_bind_eq_ok, session_bind_eq_ok,
      revertIf_bind_eq_ok, pure_eq_ok, not_le, not_and_or, not_not, ne_eq] at h
    obtain ⟨-, hexists, hopen, hmember, hhouse, hnew, rfl⟩ := h
    exact .registerMember sessionId member house hexists hopen hmember hhouse hnew
  | registerProposal params =>
    obtain ⟨r, hr, h⟩ := bind_eq_ok.mp h
    obtain rfl := pure_eq_ok.mp h
    simp only [Governor.registerProposal, onlyRole_bind_eq_ok] at hr
    obtain ⟨hreg, hr⟩ := registerProposalCore_ok hr.2
    rw [hr]
    exact .registerProposal params r.1 hreg
  | registerCfpProposal cfpIdHash revision params =>
    obtain ⟨r, hr, h⟩ := bind_eq_ok.mp h
    obtain rfl := pure_eq_ok.mp h
    simp only [Governor.registerCfpProposal, onlyRole_bind_eq_ok, revertIf_bind_eq_ok, not_or, not_not,
      ne_eq] at hr
    obtain ⟨-, ⟨hcfp, hrevision⟩, hfree, hr⟩ := hr
    obtain ⟨core, hcore, hr⟩ := bind_eq_ok.mp hr
    obtain rfl := pure_eq_ok.mp hr
    obtain ⟨hreg, hstate⟩ := registerProposalCore_ok hcore
    simp only [hstate]
    exact .registerCfpProposal cfpIdHash revision params core.1 hcfp hrevision hfree hreg
  | castVote id intensity =>
    obtain ⟨cost, spent, counted, hacc, rfl⟩ := castVoteCore_ok h
    exact .castVote id intensity cost spent counted hacc
  | castCfpApprovalVote id intensity =>
    obtain ⟨hbound, h⟩ := revertIf_bind_eq_ok.mp h
    obtain ⟨cost, spent, counted, hacc, rfl⟩ := castVoteCore_ok h
    exact .castCfpApprovalVote id intensity cost spent counted hbound hacc
  | castCfpApprovalVoteBySig v signature =>
    obtain ⟨nextNonce, hrelay, h⟩ := relay_eq_ok.mp h
    obtain ⟨cost, spent, counted, hacc, rfl⟩ := castVoteCore_ok h
    -- The nonce is none of the fields that `_castVote` checks.
    exact .castCfpApprovalVoteBySig v signature nextNonce cost spent counted hrelay ⟨hacc.1,
      hacc.2, hacc.3, hacc.4, hacc.5, hacc.6, hacc.7, hacc.8, hacc.9, hacc.10, hacc.11, hacc.12,
      hacc.13, hacc.14, hacc.15, hacc.16⟩
  | recordPreVoteReview id charter legal assessment passed =>
    simp only [PlainOp.apply, Governor.recordPreVoteReview, onlyRole_bind_eq_ok, proposal_bind_eq_ok,
      revertIf_bind_eq_ok, pure_eq_ok, not_le, Bool.not_eq_true] at h
    obtain ⟨-, hreg, hopen, -, hnew, rfl⟩ := h
    exact .recordPreVoteReview id charter legal assessment passed hreg hopen hnew
  | recordHouseDeliberation id house evidenceHash =>
    simp only [PlainOp.apply, Governor.recordHouseDeliberation, onlyRole_bind_eq_ok, proposal_bind_eq_ok,
      revertIf_bind_eq_ok, pure_eq_ok, not_le, not_and_or, not_not, ne_eq] at h
    obtain ⟨-, hreg, hopen, -, -, hhouse, hhash, hnew, rfl⟩ := h
    exact .recordHouseDeliberation id house evidenceHash hreg hopen hhouse hhash hnew
  | finalizeProposal id =>
    simp only [PlainOp.apply, Governor.finalizeProposal, proposal_bind_eq_ok, revertIf_bind_eq_ok,
      pure_eq_ok, not_or, Bool.not_eq_true, not_lt] at h
    obtain ⟨hreg, ⟨hfin, hcan, hexe⟩, hended, rfl⟩ := h
    exact .finalizeProposal id hreg hfin hcan hexe hended
  | recordReview id evidenceHash =>
    simp only [PlainOp.apply, Governor.recordReview, onlyRole_bind_eq_ok, proposal_bind_eq_ok,
      revertIf_bind_eq_ok, pure_eq_ok, not_or, Bool.not_eq_true, Bool.not_eq_false] at h
    obtain ⟨-, hreg, ⟨hfin, hca, hua⟩, ⟨hcan, hexe, hque⟩, hhash, hrec, hpass, hcon, rfl⟩ := h
    exact .recordReview id evidenceHash hreg hfin hca hua hcan hexe hque hhash hrec hpass
      (not_and.mp hcon)
  | recordContractTestEvidence id source artifact suite report callData passed =>
    simp only [PlainOp.apply, Governor.recordContractTestEvidence, onlyRole_bind_eq_ok,
      proposal_bind_eq_ok, revertIf_bind_eq_ok, pure_eq_ok, not_or, Bool.not_eq_true,
      not_not, ne_eq] at h
    obtain ⟨-, hreg, -, ⟨-, -, hque, hrev⟩, -, hcall, hnew, rfl⟩ := h
    exact .recordContractTestEvidence id source artifact suite report callData passed hreg hque
      hrev hcall hnew
  | recordConstitutionalEvidence id evidenceHash =>
    simp only [PlainOp.apply, Governor.recordConstitutionalEvidence, onlyRole_bind_eq_ok,
      proposal_bind_eq_ok, revertIf_bind_eq_ok, pure_eq_ok, not_or, Bool.not_eq_true] at h
    obtain ⟨-, hreg, -, -, ⟨hrev, hque, -, -⟩, hhash, rfl⟩ := h
    exact .recordConstitutionalEvidence id evidenceHash hreg hque hrev hhash
  | queueProposal id =>
    simp only [PlainOp.apply, Governor.queueProposal, proposal_bind_eq_ok, revertIf_bind_eq_ok, not_or,
      Bool.not_eq_true, Bool.not_eq_false] at h
    obtain ⟨hreg, ⟨hfin, hca, hua⟩, hrev, ⟨hque, hcan, hexe⟩, h⟩ := h
    obtain ⟨delay, hdelay, h⟩ := bind_eq_ok.mp h
    simp only [Uint.add_bind_eq_ok, Uint.truncate_val, pure_eq_ok] at h
    obtain ⟨executableAt, hexec, expiresAt, hexp, rfl⟩ := h
    exact .queueProposal id delay executableAt expiresAt hreg hfin hca hua hrev hque hcan hexe
      hdelay hexec hexp
  | cancelQueuedProposal id incidentHash =>
    simp only [PlainOp.apply, Governor.cancelQueuedProposal, onlyRole_bind_eq_ok, proposal_bind_eq_ok,
      revertIf_bind_eq_ok, pure_eq_ok, not_or, Bool.not_eq_true, Bool.not_eq_false] at h
    obtain ⟨hrole, hreg, hque, ⟨hcan, hexe⟩, hhash, rfl⟩ := h
    exact .cancelQueuedProposal id incidentHash hrole hreg hque hcan hexe hhash

/-! ## Execution -/

/-- The checks of `executeProposal` before its external call. -/
structure Executes (P : Primitives) (d : Deployment) (b : Block) (value : Uint 256)
    (id : Uint 256) (callData : Bytes) (s : State) : Prop where
  not_entered : s.entered = false
  registered : (s.proposals id).sessionId ≠ 0
  chain_eq : b.chainId = d.allowedChainId
  queued : (s.proposals id).queued = true
  not_cancelled : (s.proposals id).cancelled = false
  not_executed : (s.proposals id).executed = false
  mature : ((s.proposals id).executableAt : ℕ) ≤ b.timestamp
  not_expired : b.timestamp ≤ ((s.proposals id).expiresAt : ℕ)
  value_eq : value = (s.proposals id).value
  hash_eq : P.keccak256 callData = (s.proposals id).callDataHash

def State.withExecution (s : State) (id : Uint 256) : State :=
  { s with entered := true }.setProposal id { s.proposals id with executed := true }

theorem executeProposal_ok {value id : Uint 256} {callData : Bytes} {frame : TargetCall}
    (h : executeProposal P d b value id callData s = .ok (.callout s' frame)) :
    Executes P d b value id callData s ∧ s' = s.withExecution id ∧
      frame = ⟨id, (s.proposals id).target, (s.proposals id).value, callData⟩ := by
  simp only [executeProposal, proposal_bind_eq_ok, revertIf_bind_eq_ok, pure_eq_ok, not_or,
    Bool.not_eq_true, Bool.not_eq_false, not_not, not_lt, ne_eq, Outcome.callout.injEq] at h
  obtain ⟨hent, hreg, hchain, hque, ⟨hcan, hexe⟩, hmat, hexp, ⟨hval, hhash⟩, rfl, rfl⟩ := h
  exact ⟨⟨hent, hreg, hchain, hque, hcan, hexe, hmat, hexp, hval, hhash⟩, rfl, rfl⟩

end CreatorFirst.Governor
