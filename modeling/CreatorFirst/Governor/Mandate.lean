import CreatorFirst.Governor.ExecutionGate
import CreatorFirst.Governor.Tally

/-!
# The mandate of an executed proposal

What the gate found when a proposal was finalized still holds of the ballots on record: after the end of
the vote neither the tallies nor the quorums of the session move. So in each House the members whose
ballots stand meet the quorum, and their last ballots have a positive sum.
-/

namespace CreatorFirst.Governor

open Chain Relation

variable {P : Primitives} {d : Deployment} {w w' : GovernorWorld}

/-- A session that exists stays as it is. -/
theorem Small.session_eq {sessionId : Uint 256} (hwf : WellFormed w.state)
    (hexists : (w.state.sessions sessionId).doesExist = true) (h : Small P d w w') :
    w'.state.sessions sessionId = w.state.sessions sessionId := by
  cases h with
  | tick | execute | resume => rfl
  | plain msg op s heff =>
    cases heff with
    | createSession _ _ _ _ _ _ id _ _ _ _ hid =>
      have hne : sessionId ≠ id := by
        rintro rfl
        rw [hwf.session_blank sessionId (by omega)] at hexists
        cases hexists
      exact Function.update_of_ne hne _ _
    | _ => rfl

def Session.quorum (session : Session) : House → ℕ
  | .creator => session.creatorQuorum
  | .user => session.userQuorum
  | .none => 0

/-- What no step after the end of a vote moves. -/
structure Settled (id : Uint 256) (before after : GovernorWorld) : Prop where
  terms : (after.state.proposals id).terms = (before.state.proposals id).terms
  session : after.state.sessions (before.state.proposals id).sessionId =
    before.state.sessions (before.state.proposals id).sessionId
  tallies : (after.state.proposals id).tallies = (before.state.proposals id).tallies

theorem settled_of_run {id : Uint 256} (hwf : WellFormed w.state)
    (hregistered : (w.state.proposals id).sessionId ≠ 0)
    (hended : ((w.state.proposals id).votingEndsAt : ℕ) ≤ w.block.timestamp)
    (h : ReflTransGen (Small P d) w w') : Settled id w w' := by
  suffices WellFormed w'.state ∧ w.block.timestamp ≤ w'.block.timestamp ∧ Settled id w w' from this.2.2
  refine run_invariant (I := fun v ↦ WellFormed v.state ∧ w.block.timestamp ≤ v.block.timestamp ∧
    Settled id w v) (fun v v' _ ⟨hv, htime, hsettled⟩ hs ↦ ?_) h ⟨hwf, le_rfl, rfl, rfl, rfl⟩
  have hid : (v.state.proposals id).sessionId = (w.state.proposals id).sessionId :=
    congrArg ProposalParams.sessionId hsettled.terms
  have hends : (v.state.proposals id).votingEndsAt = (w.state.proposals id).votingEndsAt :=
    congrArg ProposalParams.votingEndsAt hsettled.terms
  have hregistered' : (v.state.proposals id).sessionId ≠ 0 := by rwa [hid]
  have hexists := (hv.proposal_fits id hregistered').1
  rw [hid] at hexists
  refine ⟨hs.wellFormed hv, htime.trans hs.timestamp_le, ?_, ?_, ?_⟩
  · exact (hs.terms_eq hv hregistered').trans hsettled.terms
  · exact (hs.session_eq hv hexists).trans hsettled.session
  · refine (hs.tallies_eq hv hregistered' ?_).trans hsettled.tallies
    rw [hends]
    exact hended.trans htime

/-- The members of a House whose ballots on a proposal stand. -/
def voters (w : GovernorWorld) (id : Uint 256) (house : House) : Finset Address :=
  Voting.participants (w.state.houseMembers (w.state.proposals id).sessionId house)
    (lastBallot w.journal id)

theorem mem_voters {id : Uint 256} {house : House} {m : Address} :
    m ∈ voters w id house ↔
      w.state.memberHouse (w.state.proposals id).sessionId m = house ∧
        (lastBallot w.journal id m).isSome := by
  simp [voters, Voting.participants]

/-- The members of the House whose ballots stand meet the quorum, and the ballots have a positive sum. -/
structure Mandate (w : GovernorWorld) (id : Uint 256) (house : House) : Prop where
  quorum : (w.state.sessions (w.state.proposals id).sessionId).quorum house ≤ (voters w id house).card
  score : 0 < ∑ m ∈ voters w id house, (lastBallot w.journal id m).elim 0 CountedBallot.value

theorem Tallied.mandate (hw : Tallied w.state w.journal) {id : Uint 256} {house : House}
    (hhouse : house ≠ .none)
    (hquorum : (w.state.sessions (w.state.proposals id).sessionId).quorum house ≤
      (w.state.proposals id).participants house)
    (hscore : 0 < (w.state.proposals id).score house) : Mandate w id house := by
  constructor
  · rw [hw.participants_eq id house hhouse, ← hw.stored_eq] at hquorum
    exact hquorum
  · rw [hw.score_eq id house hhouse, ← hw.stored_eq, Voting.score_eq_sum_participants] at hscore
    exact hscore

/-- An executed proposal has a mandate of both Houses. -/
theorem Observable.mandate (hw : Observable P d w) {id : Uint 256}
    (hexecuted : (w.state.proposals id).executed = true) :
    Mandate w id .creator ∧ Mandate w id .user := by
  have horder := hw.inOrder id
  obtain ⟨e, s, earlier, hocc, -, hregistered, hended, hcq, hcs, huq, hus⟩ :=
    hw.approved_by (horder.of_reviewed (horder.of_queued (horder.of_executed hexecuted)))
  have hsettled := settled_of_run hocc.found.wellFormed hregistered hended
    (ReflTransGen.head hocc.step hocc.continued)
  have hid : (w.state.proposals id).sessionId = (e.before.proposals id).sessionId :=
    congrArg ProposalParams.sessionId hsettled.terms
  have hsession : w.state.sessions (w.state.proposals id).sessionId =
      e.before.sessions (e.before.proposals id).sessionId := by
    rw [hid]
    exact hsettled.session
  obtain ⟨hcreatorScore, hcreatorParticipants, huserScore, huserParticipants⟩ :
      (w.state.proposals id).creatorScore = (e.before.proposals id).creatorScore ∧
      (w.state.proposals id).creatorParticipants = (e.before.proposals id).creatorParticipants ∧
      (w.state.proposals id).userScore = (e.before.proposals id).userScore ∧
      (w.state.proposals id).userParticipants = (e.before.proposals id).userParticipants := by
    simpa [Proposal.tallies] using hsettled.tallies
  constructor
  · refine hw.tallied.mandate (by decide) ?_ ?_
    · rw [hsession]
      change ((e.before.sessions _).creatorQuorum : ℕ) ≤ (w.state.proposals id).creatorParticipants
      rw [hcreatorParticipants]
      exact hcq
    · change 0 < ((w.state.proposals id).creatorScore : ℤ)
      rw [hcreatorScore]
      exact hcs
  · refine hw.tallied.mandate (by decide) ?_ ?_
    · rw [hsession]
      change ((e.before.sessions _).userQuorum : ℕ) ≤ (w.state.proposals id).userParticipants
      rw [huserParticipants]
      exact huq
    · change 0 < ((w.state.proposals id).userScore : ℤ)
      rw [huserScore]
      exact hus

/-! ## Ballots on record -/

/-- A call that cast the member's ballot on a proposal, sent by the member or carrying its signature. -/
structure CastBy (P : Primitives) (d : Deployment) (id : Uint 256) (m : Address) (e : GovernorEntry) :
    Prop where
  ballot : ∃ intensity, e.op.castBallot e.msg.sender = some ⟨id, m, intensity⟩
  authentic : e.msg.sender = m ∨ ∃ v signature,
    e.op = .plain (.castCfpApprovalVoteBySig v signature) ∧
      P.recover (v.digest P d e.block) signature = some m

theorem Called.castBy {e : GovernorEntry} {s : State} (h : Called P d e s) {c : CastBallot}
    (hc : e.op.castBallot e.msg.sender = some c) : CastBy P d c.proposalId c.member e := by
  refine ⟨⟨c.intensity, hc⟩, ?_⟩
  obtain ⟨b, msg, op, before, callout⟩ := e
  cases op with
  | executeProposal => cases hc
  | plain op =>
    have heff : Effect P d b msg.sender before op s := h
    cases heff with
    | castVote | castCfpApprovalVote =>
      obtain rfl := Option.some.inj hc
      exact .inl rfl
    | castCfpApprovalVoteBySig v signature _ _ _ _ hrelay =>
      obtain rfl := Option.some.inj hc
      exact .inr ⟨v, signature, rfl, hrelay.signed⟩
    | _ => cases hc

/-- A standing ballot was cast. -/
theorem Observable.castBy_of_standing (hw : Observable P d w) {id : Uint 256} {m : Address}
    (h : (lastBallot w.journal id m).isSome) : ∃ e ∈ w.journal, CastBy P d id m e := by
  obtain ⟨b, hb⟩ := Voting.exists_cast_of_standing h
  obtain ⟨e, he, hcounted⟩ := List.mem_filterMap.mp hb
  obtain ⟨later, earlier, hjournal⟩ := List.mem_iff_append.mp he
  have hsuffix : e :: earlier <:+ w.journal := ⟨later, hjournal.symm⟩
  obtain ⟨s, hocc⟩ := hw.exists_occurs hsuffix
  unfold countedOn at hcounted
  split at hcounted
  · cases hcounted
  · next c hc =>
    split at hcounted
    · next hid =>
      obtain ⟨rfl, -⟩ := Prod.mk.inj (Option.some.inj hcounted)
      have hcast := hocc.called.castBy hc
      rw [hid] at hcast
      exact ⟨e, he, hcast⟩
    · cases hcounted

end CreatorFirst.Governor
