import CreatorFirst.Governor.Steps
import CreatorFirst.Voting.BallotBox

/-!
# Tallies

The running scores and participant counts of a proposal are those of the ballots that stand: for
each House, the sum over its members of the last accepted intensity and the number of its members
with a ballot. The journal of accepted calls determines the standing ballots, so the tallies do not
depend on ballots that were replaced, on the order, or on the way in which a ballot was cast.
-/

namespace CreatorFirst.Governor

open Chain

variable {P : Primitives} {d : Deployment}

/-! ## Standing ballots -/

/-- A ballot as it was counted: for the House of its member, with an intensity. -/
structure CountedBallot where
  house : House
  intensity : Sint 8
  deriving DecidableEq

def CountedBallot.value (b : CountedBallot) : ℤ := b.intensity

/-- The member and ballot that a call counted on a proposal. -/
def countedOn (id : Uint 256) (e : GovernorEntry) : Option (Address × CountedBallot) :=
  match e.op.castBallot e.msg.sender with
  | none => none
  | some c =>
    if c.proposalId = id then
      some (c.member,
        ⟨e.before.memberHouse (e.before.proposals id).sessionId c.member, c.intensity⟩)
    else none

/-- The last accepted ballot of every member on a proposal. -/
def lastBallot (journal : List GovernorEntry) (id : Uint 256) :
    Voting.Ballots Address CountedBallot :=
  Voting.standing (journal.filterMap (countedOn id))

theorem lastBallot_cons_of_none {e : GovernorEntry} {id : Uint 256} (h : countedOn id e = none)
    (journal : List GovernorEntry) : lastBallot (e :: journal) id = lastBallot journal id := by
  rw [lastBallot, List.filterMap_cons_none h, lastBallot]

theorem lastBallot_cons_of_some {e : GovernorEntry} {id : Uint 256} {m : Address}
    {c : CountedBallot} (h : countedOn id e = some (m, c)) (journal : List GovernorEntry) :
    lastBallot (e :: journal) id = Function.update (lastBallot journal id) m (some c) := by
  rw [lastBallot, List.filterMap_cons_some h, lastBallot, Voting.standing]

theorem countedOn_of_castBallot_none {e : GovernorEntry} (h : e.op.castBallot e.msg.sender = none)
    (id : Uint 256) : countedOn id e = none := by
  rw [countedOn, h]

/-- The members of one House of a session. -/
def State.houseMembers (s : State) (sessionId : Uint 256) (house : House) : Finset Address :=
  {m | s.memberHouse sessionId m = house}

@[simp]
theorem mem_houseMembers {s : State} {sessionId : Uint 256} {house : House} {m : Address} :
    m ∈ s.houseMembers sessionId house ↔ s.memberHouse sessionId m = house := by
  simp [State.houseMembers]

def Proposal.score (p : Proposal) : House → ℤ
  | .creator => p.creatorScore
  | .user => p.userScore
  | .none => 0

def Proposal.participants (p : Proposal) : House → ℕ
  | .creator => p.creatorParticipants
  | .user => p.userParticipants
  | .none => 0

theorem Counted.score_eq {p q : Proposal} {ballot : Ballot} {i : Sint 8} {house : House}
    (h : Counted p ballot i house q) (other : House) :
    q.score other = p.score other + if other = house then (i : ℤ) - ballot.intensity else 0 := by
  cases h with
  | creator participants score _ hscore =>
    unfold ScoresTo at hscore
    cases other <;> simp [Proposal.score, hscore]
    omega
  | user participants score _ hscore =>
    unfold ScoresTo at hscore
    cases other <;> simp [Proposal.score, hscore]
    omega

theorem Counted.participants_eq {p q : Proposal} {ballot : Ballot} {i : Sint 8} {house : House}
    (h : Counted p ballot i house q) (other : House) :
    q.participants other =
      p.participants other + if other = house ∧ ballot.cast = false then 1 else 0 := by
  cases h with
  | creator participants score hcount =>
    unfold CountsTo at hcount
    cases other <;> cases hcast : ballot.cast <;> simp [Proposal.participants, hcount, hcast]
  | user participants score hcount =>
    unfold CountsTo at hcount
    cases other <;> cases hcast : ballot.cast <;> simp [Proposal.participants, hcount, hcast]

theorem countedOn_of_castBallot {e : GovernorEntry} {c : CastBallot}
    (h : e.op.castBallot e.msg.sender = some c) (id : Uint 256) :
    countedOn id e =
      if c.proposalId = id then
        some (c.member,
          ⟨e.before.memberHouse (e.before.proposals id).sessionId c.member, c.intensity⟩)
      else none := by
  rw [countedOn, h]

/-! ## The invariant -/

/-- The ballot that the storage holds for a member. -/
def State.storedBallot (s : State) (id : Uint 256) (m : Address) : Option CountedBallot :=
  if (s.ballots id m).cast then
    some ⟨s.memberHouse (s.proposals id).sessionId m, (s.ballots id m).intensity⟩
  else none

/-- Storage and journal agree on the ballots, and the tallies are theirs. -/
structure Tallied (s : State) (journal : List GovernorEntry) : Prop where
  stored_eq : ∀ id, lastBallot journal id = s.storedBallot id
  cast_house : ∀ id m, (s.ballots id m).cast = true →
    s.memberHouse (s.proposals id).sessionId m ≠ .none
  uncast_zero : ∀ id m, (s.ballots id m).cast = false → ((s.ballots id m).intensity : ℤ) = 0
  score_eq : ∀ id house, house ≠ .none → (s.proposals id).score house =
    Voting.score (s.houseMembers (s.proposals id).sessionId house) CountedBallot.value
      (s.storedBallot id)
  participants_eq : ∀ id house, house ≠ .none → (s.proposals id).participants house =
    Voting.turnout (s.houseMembers (s.proposals id).sessionId house) (s.storedBallot id)

theorem tallied_initial : Tallied (initialState P d) [] where
  stored_eq _ := rfl
  cast_house _ _ h := by cases h
  uncast_zero _ _ _ := rfl
  score_eq _ house _ := by
    refine Eq.trans ?_ Voting.score_none.symm
    cases house <;> rfl
  participants_eq _ house _ := by
    refine Eq.trans ?_ Voting.turnout_none.symm
    cases house <;> rfl

/-- Calls that cast no ballot, and touch neither ballots, members nor tallies. -/
theorem Tallied.frame {s s' : State} {journal journal' : List GovernorEntry}
    (hs : Tallied s journal) (hjournal : ∀ id, lastBallot journal' id = lastBallot journal id)
    (hballots : s'.ballots = s.ballots) (hmembers : s'.memberHouse = s.memberHouse)
    (hsession : ∀ id, (s'.proposals id).sessionId = (s.proposals id).sessionId)
    (hscore : ∀ id, (s'.proposals id).score = (s.proposals id).score)
    (hparticipants : ∀ id, (s'.proposals id).participants = (s.proposals id).participants) :
    Tallied s' journal' := by
  have hstored : ∀ id, s'.storedBallot id = s.storedBallot id := by
    intro id
    funext m
    simp only [State.storedBallot, hballots, hmembers, hsession]
  have hhouse : s'.houseMembers = s.houseMembers := by
    funext sessionId house
    simp only [State.houseMembers, hmembers]
  constructor
  · intro id
    rw [hjournal, hstored, hs.stored_eq]
  · rw [hballots, hmembers]
    simpa only [hsession] using hs.cast_house
  · rw [hballots]
    exact hs.uncast_zero
  · intro id house hne
    rw [hscore, hhouse, hsession, hstored, hs.score_eq id house hne]
  · intro id house hne
    rw [hparticipants, hhouse, hsession, hstored, hs.participants_eq id house hne]

/-- A new member has not voted, so no tally changes. -/
theorem Tallied.registerMember {s s' : State} {journal : List GovernorEntry}
    (hs : Tallied s journal) {sessionId : Uint 256} {member : Address} {house : House}
    (hnew : s.memberHouse sessionId member = .none) (hballots : s'.ballots = s.ballots)
    (hproposals : s'.proposals = s.proposals)
    (hmembers : s'.memberHouse = update₂ s.memberHouse sessionId member house) :
    Tallied s' journal := by
  have hsame : ∀ id m, (s.ballots id m).cast = true →
      s'.memberHouse (s.proposals id).sessionId m =
        s.memberHouse (s.proposals id).sessionId m := by
    intro id m hcast
    rw [hmembers, update₂_apply, if_neg]
    rintro ⟨hid, rfl⟩
    exact hs.cast_house id m hcast (hid ▸ hnew)
  have hstored : ∀ id, s'.storedBallot id = s.storedBallot id := by
    intro id
    funext m
    by_cases hcast : (s.ballots id m).cast = true
    · simp only [State.storedBallot, hballots, hproposals, hcast, if_true, hsame id m hcast]
    · simp only [State.storedBallot, hballots, hcast]
      rfl
  have hhouse : ∀ (id : Uint 256) (h : House) (m : Address), (s.storedBallot id m).isSome →
      (m ∈ s.houseMembers (s.proposals id).sessionId h ↔
        m ∈ s'.houseMembers (s.proposals id).sessionId h) := by
    intro id h m hm
    rw [mem_houseMembers, mem_houseMembers, hsame]
    by_contra hcast
    simp [State.storedBallot, hcast] at hm
  constructor
  · intro id
    rw [hstored, hs.stored_eq]
  · intro id m hcast
    rw [hballots] at hcast
    rw [hproposals, hsame id m hcast]
    exact hs.cast_house id m hcast
  · rw [hballots]
    exact hs.uncast_zero
  · intro id h hne
    rw [hproposals, hstored, hs.score_eq id h hne]
    exact Voting.score_congr (hhouse id h)
  · intro id h hne
    rw [hproposals, hstored, hs.participants_eq id h hne]
    exact Voting.turnout_congr (hhouse id h)

/-- A new proposal starts without ballots and with empty tallies. -/
theorem Tallied.withProposal {s : State} {journal : List GovernorEntry} (hs : Tallied s journal)
    (hwf : WellFormed s) {b : Block} {params : ProposalParams} {id : Uint 256}
    (h : Registers b params s id) : Tallied (s.withProposal params id) journal := by
  have hslot := hwf.slot_blank h
  have hballots : ∀ m, s.ballots id m = {} := fun m ↦
    hwf.ballot_blank id m (by have := h.id_eq; omega)
  have hother : ∀ x, x ≠ id → (s.withProposal params id).proposals x = s.proposals x := fun x hx ↦ by
    simp [State.withProposal, State.setProposal, hx]
  have hempty : s.storedBallot id = fun _ ↦ none := by
    funext m
    simp [State.storedBallot, hballots]
  have hempty' : (s.withProposal params id).storedBallot id = fun _ ↦ none := by
    funext m
    simp [State.storedBallot, State.withProposal, State.setProposal, hballots]
  have hstored : ∀ x, (s.withProposal params id).storedBallot x = s.storedBallot x := by
    intro x
    by_cases hx : x = id
    · subst hx
      rw [hempty, hempty']
    · funext m
      simp only [State.storedBallot, hother x hx]
      rfl
  constructor
  · intro x
    rw [hstored, hs.stored_eq]
  · intro x m hcast
    have hx : x ≠ id := by
      rintro rfl
      have hcast' : (s.ballots x m).cast = true := hcast
      rw [hballots] at hcast'
      cases hcast'
    rw [hother x hx]
    exact hs.cast_house x m hcast
  · exact hs.uncast_zero
  · intro x house hne
    by_cases hx : x = id
    · subst hx
      rw [hempty', Voting.score_none]
      cases house <;>
        simp [State.withProposal, State.setProposal, ProposalParams.over, hslot, Proposal.score]
    · rw [hother x hx, hstored]
      exact hs.score_eq x house hne
  · intro x house hne
    by_cases hx : x = id
    · subst hx
      rw [hempty', Voting.turnout_none]
      cases house <;> simp [State.withProposal, State.setProposal, ProposalParams.over, hslot,
        Proposal.participants]
    · rw [hother x hx, hstored]
      exact hs.participants_eq x house hne

theorem Tallied.storedBallot_value {s : State} {journal : List GovernorEntry} (hs : Tallied s journal)
    (id : Uint 256) (member : Address) :
    (s.storedBallot id member).elim 0 CountedBallot.value =
      ((s.ballots id member).intensity : ℤ) := by
  cases hcast : (s.ballots id member).cast
  · simp [State.storedBallot, hcast, hs.uncast_zero id member hcast]
  · simp [State.storedBallot, hcast, CountedBallot.value]

theorem isSome_storedBallot (s : State) (id : Uint 256) (member : Address) :
    (s.storedBallot id member).isSome = (s.ballots id member).cast := by
  cases hcast : (s.ballots id member).cast <;> simp [State.storedBallot, hcast]

/-- An accepted ballot replaces one ballot in storage and in the journal, and moves the tallies of
its House by the difference. -/
theorem Tallied.withBallot {s s' : State} {journal : List GovernorEntry} (hs : Tallied s journal)
    {b : Block} {id : Uint 256} {i : Sint 8} {member : Address} {cost spent : Uint 32}
    {q : Proposal} (h : Accepts b id i member s cost spent q) {e : GovernorEntry}
    (hbefore : e.before = s) (hop : e.op.castBallot e.msg.sender = some ⟨id, member, i⟩)
    (hballots : s'.ballots = update₂ s.ballots id member { intensity := i, cost, cast := true })
    (hproposals : s'.proposals = Function.update s.proposals id q)
    (hmembers : s'.memberHouse = s.memberHouse) : Tallied s' (e :: journal) := by
  obtain ⟨house, hhouse⟩ : ∃ house, s.memberHouse (s.proposals id).sessionId member = house :=
    ⟨_, rfl⟩
  have hcounts : Counted (s.proposals id) (s.ballots id member) i house q := hhouse ▸ h.counts
  have hsession : ∀ x, (s'.proposals x).sessionId = (s.proposals x).sessionId := by
    intro x
    rw [hproposals]
    exact setProposal_field Proposal.sessionId (by rw [hcounts.eq]) x
  have hself : s'.storedBallot id =
      Function.update (s.storedBallot id) member (some ⟨house, i⟩) := by
    funext m
    by_cases hm : m = member
    · subst hm
      simp [State.storedBallot, hballots, hmembers, hsession, hhouse]
    · simp [State.storedBallot, hballots, hmembers, hsession, hm, update₂_of_ne_right hm]
  have hother : ∀ x, x ≠ id → s'.storedBallot x = s.storedBallot x := by
    intro x hx
    funext m
    simp only [State.storedBallot, hballots, hmembers, hsession, update₂_of_ne_left hx]
  have helectorate : s'.houseMembers = s.houseMembers := by
    funext sessionId house
    simp only [State.houseMembers, hmembers]
  constructor
  · intro x
    have hcounted := countedOn_of_castBallot hop x
    rw [hbefore] at hcounted
    by_cases hx : x = id
    · subst hx
      rw [if_pos rfl, hhouse] at hcounted
      rw [lastBallot_cons_of_some hcounted, hs.stored_eq, hself]
    · rw [if_neg (Ne.symm hx)] at hcounted
      rw [lastBallot_cons_of_none hcounted, hs.stored_eq, hother x hx]
  · intro x m hcast
    rw [hmembers, hsession]
    rw [hballots, update₂_apply] at hcast
    split at hcast
    · next heq =>
      obtain ⟨rfl, rfl⟩ := heq
      obtain hc | hu := h.member_house
      · simp [hc]
      · simp [hu]
    · exact hs.cast_house x m hcast
  · intro x m
    rw [hballots, update₂_apply]
    split
    · intro hcast
      cases hcast
    · exact hs.uncast_zero x m
  · intro x other hne
    rw [helectorate, hsession]
    by_cases hx : x = id
    · subst hx
      rw [hproposals, Function.update_self, hcounts.score_eq, hs.score_eq x other hne, hself]
      by_cases ho : other = house
      · rw [if_pos ho, Voting.score_update (by rw [mem_houseMembers, hhouse, ho]),
          hs.storedBallot_value x member]
        simp only [CountedBallot.value]
        omega
      · rw [if_neg ho, Voting.score_update_of_notMem, add_zero]
        rw [mem_houseMembers, hhouse]
        exact Ne.symm ho
    · rw [hproposals, Function.update_of_ne hx, hother x hx]
      exact hs.score_eq x other hne
  · intro x other hne
    rw [helectorate, hsession]
    by_cases hx : x = id
    · subst hx
      rw [hproposals, Function.update_self, hcounts.participants_eq,
        hs.participants_eq x other hne, hself]
      by_cases ho : other = house
      · rw [Voting.turnout_update (by rw [mem_houseMembers, hhouse, ho]),
          isSome_storedBallot]
        cases (s.ballots x member).cast <;> simp [ho]
      · rw [Voting.turnout_update_of_notMem, if_neg fun hboth ↦ ho hboth.1, add_zero]
        rw [mem_houseMembers, hhouse]
        exact Ne.symm ho
    · rw [hproposals, Function.update_of_ne hx, hother x hx]
      exact hs.participants_eq x other hne

/-! ## Runs -/

theorem Effect.tallied {b : Block} {msg : Msg} {s s' : State} {op : PlainOp}
    {journal : List GovernorEntry} (hwf : WellFormed s) (hs : Tallied s journal)
    (h : Effect P d b msg.sender s op s') :
    Tallied s' (⟨b, msg, .plain op, s, none⟩ :: journal) := by
  -- Entries of other operations count no ballot.
  have hskip {e : GovernorEntry} (he : e.op.castBallot e.msg.sender = none) (id : Uint 256) :
      lastBallot (e :: journal) id = lastBallot journal id :=
    lastBallot_cons_of_none (countedOn_of_castBallot_none he id) journal
  cases h with
  | access | createSession | recordPreVoteReview | recordHouseDeliberation
  | recordContractTestEvidence | recordConstitutionalEvidence =>
    exact hs.frame (hskip rfl) rfl rfl (fun _ ↦ rfl) (fun _ ↦ rfl) fun _ ↦ rfl
  | registerMember sessionId member house _ _ _ _ hnew =>
    refine Tallied.registerMember ?_ hnew rfl rfl rfl
    exact hs.frame (hskip rfl) rfl rfl (fun _ ↦ rfl) (fun _ ↦ rfl) fun _ ↦ rfl
  | registerProposal params id hreg =>
    exact (hs.withProposal hwf hreg).frame (hskip rfl) rfl rfl (fun _ ↦ rfl) (fun _ ↦ rfl)
      fun _ ↦ rfl
  | registerCfpProposal _ _ params id _ _ _ hreg =>
    exact (hs.withProposal hwf hreg).frame (hskip rfl) rfl rfl (fun _ ↦ rfl) (fun _ ↦ rfl)
      fun _ ↦ rfl
  | castVote id i cost spent q hacc => exact hs.withBallot hacc rfl rfl rfl rfl rfl
  | castCfpApprovalVote id i cost spent q _ hacc => exact hs.withBallot hacc rfl rfl rfl rfl rfl
  | castCfpApprovalVoteBySig v _ _ cost spent q _ hacc =>
    exact hs.withBallot hacc rfl rfl rfl rfl rfl
  | finalizeProposal | recordReview | queueProposal | cancelQueuedProposal =>
    exact hs.frame (hskip rfl) rfl rfl (setProposal_field Proposal.sessionId rfl)
      (setProposal_field Proposal.score rfl)
      (setProposal_field Proposal.participants rfl)

theorem Small.tallied {w w' : GovernorWorld} (hwf : WellFormed w.state)
    (hw : Tallied w.state w.journal) (h : Small P d w w') : Tallied w'.state w'.journal := by
  cases h with
  | tick => exact hw
  | plain msg op s heff => exact heff.tallied hwf hw
  | execute msg id callData =>
    exact hw.frame
      (fun id ↦ lastBallot_cons_of_none (countedOn_of_castBallot_none rfl id) w.journal) rfl rfl
      (setProposal_field Proposal.sessionId rfl) (setProposal_field Proposal.score rfl)
      (setProposal_field Proposal.participants rfl)
  | resume => exact hw.frame (fun _ ↦ rfl) rfl rfl (fun _ ↦ rfl) (fun _ ↦ rfl) fun _ ↦ rfl

theorem Observable.tallied {w : GovernorWorld} (h : Observable P d w) :
    Tallied w.state w.journal :=
  h.invariant (I := fun w ↦ Tallied w.state w.journal) (fun _ ↦ tallied_initial)
    (fun _ _ hv hw hs ↦ hs.tallied hv.wellFormed hw)

/-! ## Members are fixed before the first ballot -/

/-- After a ballot on a proposal of a session nobody enters the session any more. -/
def MembersFixed (w : GovernorWorld) : Prop :=
  ∀ e ∈ w.journal, ∀ c, e.op.castBallot e.msg.sender = some c →
    (w.state.proposals c.proposalId).sessionId ≠ 0 ∧
    (e.before.proposals c.proposalId).sessionId = (w.state.proposals c.proposalId).sessionId ∧
    ((w.state.proposals c.proposalId).votingStartsAt : ℕ) ≤ w.block.timestamp ∧
    e.before.memberHouse (w.state.proposals c.proposalId).sessionId =
      w.state.memberHouse (w.state.proposals c.proposalId).sessionId

theorem Small.membersFixed {w w' : GovernorWorld} (hwf : WellFormed w.state)
    (hw : MembersFixed w) (h : Small P d w w') : MembersFixed w' := by
  -- What held of an entry before the step still holds of it.
  have hkeep : ∀ e : GovernorEntry, ∀ id,
      (w.state.proposals id).sessionId ≠ 0 ∧
      (e.before.proposals id).sessionId = (w.state.proposals id).sessionId ∧
      ((w.state.proposals id).votingStartsAt : ℕ) ≤ w.block.timestamp ∧
      e.before.memberHouse (w.state.proposals id).sessionId =
        w.state.memberHouse (w.state.proposals id).sessionId →
      (w'.state.proposals id).sessionId ≠ 0 ∧
      (e.before.proposals id).sessionId = (w'.state.proposals id).sessionId ∧
      ((w'.state.proposals id).votingStartsAt : ℕ) ≤ w'.block.timestamp ∧
      e.before.memberHouse (w'.state.proposals id).sessionId =
        w'.state.memberHouse (w'.state.proposals id).sessionId := by
    rintro e id ⟨hregistered, hsession, hopened, hmembers⟩
    have hterms := h.terms_eq hwf hregistered
    have hid : (w'.state.proposals id).sessionId = (w.state.proposals id).sessionId :=
      congrArg ProposalParams.sessionId hterms
    have hstart : (w'.state.proposals id).votingStartsAt = (w.state.proposals id).votingStartsAt :=
      congrArg ProposalParams.votingStartsAt hterms
    rw [hid, hstart]
    refine ⟨hregistered, hsession, hopened.trans h.timestamp_le, hmembers.trans ?_⟩
    obtain hsame | ⟨member, house, hopen, -⟩ :=
      h.memberHouse_change (w.state.proposals id).sessionId
    · exact hsame.symm
    · -- Registration needs an earlier time than any ballot on the session's proposals.
      have hfits := (hwf.proposal_fits id hregistered).2.1
      rw [Fin.le_def] at hfits
      omega
  obtain hjournal | ⟨e₀, hjournal, -, hbefore, hballot⟩ := h.ballot_accepted
  · rw [MembersFixed, hjournal]
    exact fun e he c hc ↦ hkeep e c.proposalId (hw e he c hc)
  · rw [MembersFixed, hjournal]
    intro e he c hc
    obtain rfl | he := List.mem_cons.mp he
    · obtain ⟨cost, spent, q, hacc⟩ := hballot c hc
      exact hkeep e c.proposalId ⟨hacc.registered, by rw [hbefore], hacc.opened, by rw [hbefore]⟩
    · exact hkeep e c.proposalId (hw e he c hc)

theorem Observable.membersFixed {w : GovernorWorld} (h : Observable P d w) : MembersFixed w :=
  h.invariant (I := MembersFixed) (fun _ _ he ↦ by cases he)
    (fun _ _ hv hw hs ↦ hs.membersFixed hv.wellFormed hw)

/-- Once a member has a House in a session, that is the member's House for good. -/
theorem reaches_memberHouse {w w' : GovernorWorld} (h : (contract P d).Reaches w w')
    {sessionId : Uint 256} {m : Address} (hm : w.state.memberHouse sessionId m ≠ .none) :
    w'.state.memberHouse sessionId m = w.state.memberHouse sessionId m := by
  refine Contract.Reaches.relation (I := fun _ ↦ True)
    (Q := fun v v' ↦ v.state.memberHouse sessionId m ≠ .none →
      v'.state.memberHouse sessionId m = v.state.memberHouse sessionId m)
    (fun _ _ ↦ rfl) (fun u v x huv hvx hu ↦ ?_) (fun v v' _ hm ↦ ⟨trivial, fun hv ↦ ?_⟩) trivial
    h hm
  · rw [hvx (by rwa [huv hu]), huv hu]
  · obtain hsame | ⟨member, house, -, hnew, -, hupdate⟩ :=
      (micro_small hm).memberHouse_change sessionId
    · rw [hsame]
    · have hne : m ≠ member := by
        rintro rfl
        exact hv hnew
      rw [hupdate, Function.update_of_ne hne]

/-! ## Results -/

def Proposal.tallies (p : Proposal) : Sint 64 × Uint 32 × Sint 64 × Uint 32 :=
  (p.creatorScore, p.creatorParticipants, p.userScore, p.userParticipants)

/-- Two records with the same scores and participants have the same tallies. -/
theorem tallies_congr {p q : Proposal} (hscore : ∀ house, p.score house = q.score house)
    (hparticipants : ∀ house, p.participants house = q.participants house) :
    p.tallies = q.tallies := by
  have hcs : p.creatorScore = q.creatorScore := Subtype.ext (hscore .creator)
  have hus : p.userScore = q.userScore := Subtype.ext (hscore .user)
  have hcp : p.creatorParticipants = q.creatorParticipants := Fin.ext (hparticipants .creator)
  have hup : p.userParticipants = q.userParticipants := Fin.ext (hparticipants .user)
  rw [Proposal.tallies, Proposal.tallies, hcs, hus, hcp, hup]

theorem storedBallot_house {s : State} {id : Uint 256} {m : Address}
    (h : (s.storedBallot id m).isSome) :
    (s.storedBallot id m).map CountedBallot.house =
      some (s.memberHouse (s.proposals id).sessionId m) := by
  cases hcast : (s.ballots id m).cast
  · simp [State.storedBallot, hcast] at h
  · simp [State.storedBallot, hcast]

/-- The tallies are a function of the last ballots. -/
theorem Tallied.tallies_eq {s s' : State} {journal journal' : List GovernorEntry}
    (hs : Tallied s journal) (hs' : Tallied s' journal') {id : Uint 256}
    (h : lastBallot journal id = lastBallot journal' id) :
    (s.proposals id).tallies = (s'.proposals id).tallies := by
  rw [hs.stored_eq, hs'.stored_eq] at h
  have hhouse : ∀ (house : House) (m : Address), (s.storedBallot id m).isSome →
      (m ∈ s.houseMembers (s.proposals id).sessionId house ↔
        m ∈ s'.houseMembers (s'.proposals id).sessionId house) := by
    intro house m hm
    have hm' := hm
    rw [h] at hm'
    have heq := storedBallot_house hm
    rw [h, storedBallot_house hm', Option.some.injEq] at heq
    rw [mem_houseMembers, mem_houseMembers, heq]
  refine tallies_congr (fun house ↦ ?_) (fun house ↦ ?_)
  · by_cases hne : house = .none
    · subst hne
      rfl
    · rw [hs.score_eq id house hne, hs'.score_eq id house hne, ← h]
      exact Voting.score_congr (hhouse house)
  · by_cases hne : house = .none
    · subst hne
      rfl
    · rw [hs.participants_eq id house hne, hs'.participants_eq id house hne, ← h]
      exact Voting.turnout_congr (hhouse house)

/-- A ballot moves no tally of the House its member does not belong to. -/
theorem call_other_house {b : Block} {msg : Msg} {op : Op} {s s' : State} {c : CastBallot}
    (hc : op.castBallot msg.sender = some c) (h : call P d b msg op s = .ok (.done s'))
    {other : House} (hother : other ≠ s.memberHouse (s.proposals c.proposalId).sessionId c.member)
    (id : Uint 256) :
    (s'.proposals id).score other = (s.proposals id).score other ∧
      (s'.proposals id).participants other = (s.proposals id).participants other := by
  have hcounted : ∀ {x : Uint 256} {m : Address} {i : Sint 8} {q : Proposal},
      other ≠ s.memberHouse (s.proposals x).sessionId m →
      Counted (s.proposals x) (s.ballots x m) i (s.memberHouse (s.proposals x).sessionId m) q →
      (Function.update s.proposals x q id).score other = (s.proposals id).score other ∧
      (Function.update s.proposals x q id).participants other =
        (s.proposals id).participants other := by
    intro x m i q hne hq
    by_cases hid : id = x
    · subst hid
      rw [Function.update_self, hq.score_eq, hq.participants_eq, if_neg hne,
        if_neg fun hboth ↦ hne hboth.1]
      simp
    · rw [Function.update_of_ne hid]
      exact ⟨rfl, rfl⟩
  cases op with
  | executeProposal => cases hc
  | plain op =>
    obtain ⟨-, h⟩ := revertIf_bind_eq_ok.mp h
    obtain ⟨s₁, hs, h⟩ := bind_eq_ok.mp h
    obtain rfl : s₁ = s' := by simpa [pure_eq_ok] using h
    cases PlainOp.effect hs with
    | castVote x i cost spent q hacc | castCfpApprovalVote x i cost spent q _ hacc =>
      obtain rfl := Option.some.inj hc
      exact hcounted hother hacc.counts
    | castCfpApprovalVoteBySig v _ _ cost spent q _ hacc =>
      obtain rfl := Option.some.inj hc
      exact hcounted hother hacc.counts
    | _ => cases hc

theorem ProposalChange.tallies_eq {e : GovernorEntry} {id : Uint 256} {q : Proposal}
    (hwf : WellFormed e.before) (hregistered : (e.before.proposals id).sessionId ≠ 0)
    (hended : ((e.before.proposals id).votingEndsAt : ℕ) ≤ e.block.timestamp)
    (h : ProposalChange P d e id q) : q.tallies = (e.before.proposals id).tallies := by
  cases h with
  | same | finalized | reviewed | queued | executed | cancelled => rfl
  | registered params _ hreg =>
    rw [hwf.slot_blank hreg] at hregistered
    exact absurd rfl hregistered
  | counted i member cost spent q _ hacc => exact absurd hacc.not_closed (not_lt.mpr hended)

theorem Small.tallies_eq {w w' : GovernorWorld} {id : Uint 256} (hwf : WellFormed w.state)
    (hregistered : (w.state.proposals id).sessionId ≠ 0)
    (hended : ((w.state.proposals id).votingEndsAt : ℕ) ≤ w.block.timestamp)
    (h : Small P d w w') : (w'.state.proposals id).tallies = (w.state.proposals id).tallies := by
  obtain ⟨hsame, -⟩ | ⟨e, -, hblock, -, hbefore, hchange⟩ := h.proposal_change
  · rw [hsame]
  · rw [← hbefore] at hwf hregistered hended ⊢
    rw [← hblock] at hended
    exact (hchange id).tallies_eq hwf hregistered hended

/-- After the end of the vote the tallies stand. -/
theorem reaches_tallies {w w' : GovernorWorld} (hw : WellFormed w.state)
    (h : (contract P d).Reaches w w') {id : Uint 256}
    (hregistered : (w.state.proposals id).sessionId ≠ 0)
    (hended : ((w.state.proposals id).votingEndsAt : ℕ) ≤ w.block.timestamp) :
    (w'.state.proposals id).tallies = (w.state.proposals id).tallies := by
  refine (Contract.Reaches.relation (I := fun v ↦ WellFormed v.state)
    (Q := fun v v' ↦ (v.state.proposals id).sessionId ≠ 0 →
      ((v.state.proposals id).votingEndsAt : ℕ) ≤ v.block.timestamp →
      (v'.state.proposals id).terms = (v.state.proposals id).terms ∧
      v.block.timestamp ≤ v'.block.timestamp ∧
      (v'.state.proposals id).tallies = (v.state.proposals id).tallies)
    (fun _ _ _ ↦ ⟨rfl, le_rfl, rfl⟩) (fun u v x huv hvx hu hend ↦ ?_)
    (fun v v' hv hm ↦ ⟨(micro_small hm).wellFormed hv, fun hreg hend ↦
      ⟨(micro_small hm).terms_eq hv hreg, (micro_small hm).timestamp_le,
        (micro_small hm).tallies_eq hv hreg hend⟩⟩) hw h hregistered hended).2.2
  obtain ⟨hterms, htime, htallies⟩ := huv hu hend
  have hid : (v.state.proposals id).sessionId = (u.state.proposals id).sessionId :=
    congrArg ProposalParams.sessionId hterms
  have hends : (v.state.proposals id).votingEndsAt = (u.state.proposals id).votingEndsAt :=
    congrArg ProposalParams.votingEndsAt hterms
  obtain ⟨hterms', htime', htallies'⟩ := hvx (by rwa [hid]) (by rw [hends]; omega)
  exact ⟨hterms'.trans hterms, htime.trans htime', htallies'.trans htallies⟩

/-- The tallies of a proposal count the last accepted ballot of every member in the member's House,
which is fixed before the first ballot of the session; nothing else enters them, and they stand once
the vote has ended. -/
theorem tallies_correct {w : GovernorWorld} (hw : Reachable P d w) (id : Uint 256) :
    ((w.state.proposals id).creatorScore : ℤ) =
      ∑ m with w.state.memberHouse (w.state.proposals id).sessionId m = .creator,
        (lastBallot w.journal id m).elim 0 CountedBallot.value ∧
    ((w.state.proposals id).userScore : ℤ) =
      ∑ m with w.state.memberHouse (w.state.proposals id).sessionId m = .user,
        (lastBallot w.journal id m).elim 0 CountedBallot.value ∧
    ((w.state.proposals id).creatorParticipants : ℕ) =
      Finset.card {m | w.state.memberHouse (w.state.proposals id).sessionId m = .creator ∧
        (lastBallot w.journal id m).isSome} ∧
    ((w.state.proposals id).userParticipants : ℕ) =
      Finset.card {m | w.state.memberHouse (w.state.proposals id).sessionId m = .user ∧
        (lastBallot w.journal id m).isSome} ∧
    ((w.state.proposals id).creatorParticipants : ℕ) ≤
      (w.state.houseMembers (w.state.proposals id).sessionId .creator).card ∧
    ((w.state.proposals id).userParticipants : ℕ) ≤
      (w.state.houseMembers (w.state.proposals id).sessionId .user).card ∧
    (∀ sessionId m, w.state.memberHouse sessionId m ≠ .none →
      ∃! house, (house = .creator ∨ house = .user) ∧ m ∈ w.state.houseMembers sessionId house) ∧
    (∀ sessionId m, w.state.memberHouse sessionId m ≠ .none →
      ∀ w', (contract P d).Reaches w w' →
        w'.state.memberHouse sessionId m = w.state.memberHouse sessionId m) ∧
    (∀ e ∈ w.journal, ∀ c, e.op.castBallot e.msg.sender = some c →
      (e.before.proposals c.proposalId).sessionId = (w.state.proposals c.proposalId).sessionId ∧
      e.before.memberHouse (w.state.proposals c.proposalId).sessionId =
        w.state.memberHouse (w.state.proposals c.proposalId).sessionId) ∧
    (∀ m c, lastBallot w.journal id m = some c → c.house ≠ .none ∧
      c.house = w.state.memberHouse (w.state.proposals id).sessionId m) ∧
    (∀ P' d' (w' : GovernorWorld), Reachable P' d' w' →
      lastBallot w.journal id = lastBallot w'.journal id →
      (w.state.proposals id).tallies = (w'.state.proposals id).tallies) ∧
    (∀ b msg op c s s', Op.castBallot msg.sender op = some c →
      call P d b msg op s = .ok (.done s') →
      ∀ other, other ≠ s.memberHouse (s.proposals c.proposalId).sessionId c.member →
        (s'.proposals id).score other = (s.proposals id).score other ∧
        (s'.proposals id).participants other = (s.proposals id).participants other) ∧
    ((w.state.proposals id).sessionId ≠ 0 →
      ((w.state.proposals id).votingEndsAt : ℕ) ≤ w.block.timestamp →
      ∀ w', (contract P d).Reaches w w' →
        (w'.state.proposals id).tallies = (w.state.proposals id).tallies) := by
  have ht := hw.observable.tallied
  have hstored := ht.stored_eq id
  have hscore := ht.score_eq id
  have hparticipants := ht.participants_eq id
  rw [← hstored] at hscore hparticipants
  have hturnout : ∀ house : House, Finset.card
      {m | w.state.memberHouse (w.state.proposals id).sessionId m = house ∧
        (lastBallot w.journal id m).isSome} =
      Voting.turnout (w.state.houseMembers (w.state.proposals id).sessionId house)
        (lastBallot w.journal id) := by
    intro house
    rw [Voting.turnout, Voting.participants, State.houseMembers, Finset.filter_filter]
  refine ⟨hscore .creator (by decide), hscore .user (by decide),
    (hparticipants .creator (by decide)).trans (hturnout .creator).symm,
    (hparticipants .user (by decide)).trans (hturnout .user).symm,
    (hparticipants .creator (by decide)).trans_le (Voting.turnout_le _),
    (hparticipants .user (by decide)).trans_le (Voting.turnout_le _),
    fun sessionId m hm ↦ ?_, fun sessionId m hm w' hr ↦ reaches_memberHouse hr hm,
    fun e he c hc ↦ ?_, fun m c hc ↦ ?_,
    fun P' d' w' hw' h ↦ ht.tallies_eq hw'.observable.tallied h,
    fun b msg op c s s' hc h other hother ↦ call_other_house hc h hother id,
    fun hreg hend w' hr ↦ reaches_tallies hw.observable.wellFormed hr hreg hend⟩
  · refine ⟨w.state.memberHouse sessionId m, ⟨?_, by simp⟩, fun house h ↦ ?_⟩
    · cases hh : w.state.memberHouse sessionId m <;> simp_all
    · exact (mem_houseMembers.mp h.2).symm
  · obtain ⟨-, hsession, -, hmembers⟩ := hw.observable.membersFixed e he c hc
    exact ⟨hsession, hmembers⟩
  · rw [hstored] at hc
    have hhouse := storedBallot_house (by rw [hc]; rfl)
    rw [hc, Option.map_some, Option.some.injEq] at hhouse
    refine ⟨?_, hhouse⟩
    rw [hhouse]
    apply ht.cast_house
    by_contra hcast
    simp [State.storedBallot, hcast] at hc

/-- The creator's ballot of intensity two is the whole score of the Creator House. -/
theorem tallies_correct_approval :
    ∑ m with (Sample.after (Sample.preparation ++ Sample.approval)).state.memberHouse
        ((Sample.after (Sample.preparation ++ Sample.approval)).state.proposals 1).sessionId m =
          .creator,
      (lastBallot (Sample.after (Sample.preparation ++ Sample.approval)).journal 1 m).elim 0
        CountedBallot.value = 2 := by
  rw [← (tallies_correct (Sample.reachable_after (by decide)) 1).1]
  decide +kernel

end CreatorFirst.Governor
