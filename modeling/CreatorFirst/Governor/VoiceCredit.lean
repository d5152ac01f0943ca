import CreatorFirst.Governor.Steps
import Mathlib.Algebra.Order.BigOperators.Group.Finset
import Mathlib.Algebra.Order.Ring.Abs

/-!
# Voice credits

A member's spent credits in a session are what the member's ballots on the session's proposals cost,
the square of each intensity, and stay within the session's budget. A repeated vote gives back the
old cost first, so the sum holds however often and in whatever way ballots are replaced.
-/

namespace CreatorFirst.Governor

open Chain

variable {P : Primitives} {d : Deployment}

/-- What the ballots of `member` on the proposals of a session cost together. -/
def State.ballotCosts (s : State) (sessionId : Uint 256) (member : Address) : ℕ :=
  ∑ id with (s.proposals id).sessionId = sessionId, ((s.ballots id member).cost : ℕ)

structure Conserved (s : State) : Prop where
  spent_eq : ∀ sessionId member,
    (s.spentVoiceCredits sessionId member : ℕ) = s.ballotCosts sessionId member
  cost_eq : ∀ id member,
    ((s.ballots id member).cost : ℕ) = ((s.ballots id member).intensity : ℤ).natAbs ^ 2
  within_budget : ∀ sessionId member,
    s.spentVoiceCredits sessionId member ≤ (s.sessions sessionId).voiceCreditBudget

theorem conserved_initial : Conserved (initialState P d) where
  spent_eq _ _ := by simp [State.ballotCosts, initialState]
  cost_eq _ _ := rfl
  within_budget _ _ := le_rfl

/-- Operations that neither vote nor move a proposal to another session. -/
theorem Conserved.frame {s s' : State} (hs : Conserved s) (hballots : s'.ballots = s.ballots)
    (hspent : s'.spentVoiceCredits = s.spentVoiceCredits) (hsessions : s'.sessions = s.sessions)
    (hproposals : ∀ id, (s'.proposals id).sessionId = (s.proposals id).sessionId) :
    Conserved s' where
  spent_eq sessionId member := by
    simp only [State.ballotCosts, hballots, hspent, hproposals]
    exact hs.spent_eq sessionId member
  cost_eq := by
    rw [hballots]
    exact hs.cost_eq
  within_budget := by
    rw [hspent, hsessions]
    exact hs.within_budget

/-- A new proposal enters its session with no ballot on it. -/
theorem Conserved.withProposal {s : State} (hs : Conserved s) (hwf : WellFormed s) {b : Block}
    {params : ProposalParams} {id : Uint 256} (h : Registers b params s id) :
    Conserved (s.withProposal params id) where
  spent_eq sessionId member := by
    have hblank : s.ballots id member = {} :=
      hwf.ballot_blank id member (by have := h.id_eq; omega)
    refine (hs.spent_eq sessionId member).trans ?_
    simp only [State.ballotCosts, Finset.sum_filter]
    refine Finset.sum_congr rfl fun x _ ↦ ?_
    by_cases hx : x = id
    · subst hx
      simp [State.withProposal, State.setProposal, hblank]
    · simp [State.withProposal, State.setProposal, hx]
  cost_eq := hs.cost_eq
  within_budget := hs.within_budget

/-- A ballot changes one summand of one sum, and the spent credits by the same amount. -/
theorem Conserved.withBallot {s : State} (hs : Conserved s) {b : Block} {id : Uint 256}
    {i : Sint 8} {member : Address} {cost spent : Uint 32} {q : Proposal}
    (h : Accepts b id i member s cost spent q) :
    Conserved (s.withBallot id i member cost spent q) where
  spent_eq sessionId m := by
    have hsession : ∀ x, ((s.withBallot id i member cost spent q).proposals x).sessionId =
        (s.proposals x).sessionId :=
      setProposal_field Proposal.sessionId (by rw [h.counts.eq])
    have hbefore := hs.spent_eq sessionId m
    simp only [State.ballotCosts, hsession, withBallot_ballots, withBallot_spentVoiceCredits]
    unfold State.ballotCosts at hbefore
    by_cases hm : m = member
    · subst hm
      by_cases hid : sessionId = (s.proposals id).sessionId
      · subst hid
        have hsum := sum_add_eq_of_eq_off
          (f := fun x ↦ ((s.ballots x m).cost : ℕ))
          (g := fun x ↦ ((update₂ s.ballots id m ⟨i, cost, true⟩ x m).cost : ℕ))
          (S := Finset.univ.filter fun x ↦ (s.proposals x).sessionId = (s.proposals id).sessionId)
          (a := id) (by simp) (fun x _ hx ↦ by rw [update₂_of_ne_left hx])
        simp only [update₂_self] at hsum ⊢
        have hspent := h.spent_eq
        have hle := h.refundable
        omega
      · rw [update₂_of_ne_left hid, hbefore]
        refine Finset.sum_congr rfl fun x hx ↦ ?_
        have hne : x ≠ id := by
          rintro rfl
          exact hid (Finset.mem_filter.mp hx).2.symm
        rw [update₂_of_ne_left hne]
    · simp only [update₂_of_ne_right hm]
      exact hbefore
  cost_eq x m := by
    rw [withBallot_ballots, update₂_apply]
    split
    · exact h.cost_eq
    · exact hs.cost_eq x m
  within_budget sessionId m := by
    rw [withBallot_spentVoiceCredits, withBallot_sessions, update₂_apply]
    split
    · next heq =>
      rw [heq.1]
      exact h.within_budget
    · exact hs.within_budget sessionId m

theorem Effect.conserved {b : Block} {sender : Address} {s s' : State} {op : PlainOp}
    (hwf : WellFormed s) (hs : Conserved s) (h : Effect P d b sender s op s') : Conserved s' := by
  cases h with
  | access | registerMember | recordPreVoteReview | recordHouseDeliberation
  | recordContractTestEvidence | recordConstitutionalEvidence =>
    exact hs.frame rfl rfl rfl fun _ ↦ rfl
  | createSession ruleHash startsAt endsAt budget creatorQuorum userQuorum id _ _ _ _ hid =>
    refine ⟨hs.spent_eq, hs.cost_eq, fun x m ↦ ?_⟩
    by_cases hx : x = id
    · -- Nobody has spent anything in a session that does not exist yet.
      subst hx
      have hzero := hs.within_budget x m
      rw [hwf.session_blank x (by omega)] at hzero
      exact hzero.trans (Fin.zero_le _)
    · simp only [Function.update_of_ne hx]
      exact hs.within_budget x m
  | registerProposal params id hreg => exact hs.withProposal hwf hreg
  | registerCfpProposal _ _ params id _ _ _ hreg =>
    exact (hs.withProposal hwf hreg).frame rfl rfl rfl fun _ ↦ rfl
  | castVote id i cost spent q hacc => exact hs.withBallot hacc
  | castCfpApprovalVote id i cost spent q _ hacc => exact hs.withBallot hacc
  | castCfpApprovalVoteBySig v _ _ cost spent q _ hacc =>
    exact (hs.withBallot hacc).frame rfl rfl rfl fun _ ↦ rfl
  | finalizeProposal | recordReview | queueProposal | cancelQueuedProposal =>
    exact hs.frame rfl rfl rfl (setProposal_field Proposal.sessionId rfl)

theorem Small.conserved {w w' : GovernorWorld} (hwf : WellFormed w.state)
    (hw : Conserved w.state) (h : Small P d w w') : Conserved w'.state := by
  cases h with
  | tick => exact hw
  | plain msg op s heff => exact heff.conserved hwf hw
  | execute => exact hw.frame rfl rfl rfl (setProposal_field Proposal.sessionId rfl)
  | resume => exact hw.frame rfl rfl rfl fun _ ↦ rfl

theorem Observable.conserved {w : GovernorWorld} (h : Observable P d w) : Conserved w.state :=
  h.invariant (I := fun w ↦ Conserved w.state) (fun _ ↦ conserved_initial)
    (fun _ _ hv hw hs ↦ hs.conserved hv.wellFormed hw)

/-- The cost of one ballot is part of what its member has spent. -/
theorem Conserved.cost_le {s : State} (hs : Conserved s) (id : Uint 256) (member : Address) :
    ((s.ballots id member).cost : ℕ) ≤
      s.spentVoiceCredits (s.proposals id).sessionId member := by
  rw [hs.spent_eq]
  exact Finset.single_le_sum (f := fun x ↦ ((s.ballots x member).cost : ℕ))
    (fun _ _ ↦ Nat.zero_le _) (by simp)

/-- Spent credits are what the standing ballots cost, each cost the square of its intensity, and
never more than the budget; no subtraction that rests on this underflows, and a vote that is
rejected leaves everything as it was. -/
theorem voiceCredits_conserved {w : GovernorWorld} (hw : Observable P d w) :
    (∀ sessionId member, (w.state.spentVoiceCredits sessionId member : ℕ) =
      ∑ id with (w.state.proposals id).sessionId = sessionId,
        ((w.state.ballots id member).cost : ℕ)) ∧
    (∀ id member, (((w.state.ballots id member).cost : ℕ) : ℤ) =
      ((w.state.ballots id member).intensity : ℤ) ^ 2) ∧
    (∀ sessionId member, w.state.spentVoiceCredits sessionId member ≤
      (w.state.sessions sessionId).voiceCreditBudget) ∧
    (∀ id member, ∃ refunded, Uint.sub Error.arithmeticPanic
      (w.state.spentVoiceCredits (w.state.proposals id).sessionId member)
      (w.state.ballots id member).cost = .ok refunded) ∧
    (∀ sessionId member, (w.state.sessions sessionId).doesExist = true →
      ∃ remaining, remainingVoiceCredits sessionId member w.state = .ok remaining) ∧
    (∀ (tx : GovernorTx) e, (tx.op.castBallot tx.msg.sender).isSome →
      (contract P d).attempt tx.msg tx.op tx.inner tx.success { w with block := tx.block } =
        .error e →
      (contract P d).transact tx w = { w with block := tx.block }) ∧
    (∀ msg op inner success rest e, (Op.castBallot msg.sender op).isSome →
      (contract P d).attempt msg op inner success w = .error e →
      (contract P d).runCalls (.cons msg op inner success rest) w =
        (contract P d).runCalls rest w) := by
  have hc := hw.conserved
  refine ⟨hc.spent_eq, fun id member ↦ ?_, hc.within_budget, fun id member ↦ ?_,
    fun sessionId member hexists ↦ ?_, fun tx e _ h ↦ Contract.transact_of_error h,
    fun msg op inner success rest e _ h ↦ Contract.runCalls_cons_of_error h⟩
  · rw [hc.cost_eq, Nat.cast_pow, Int.natCast_natAbs, sq_abs]
  · exact Uint.exists_sub_eq_ok (hc.cost_le id member)
  · obtain ⟨remaining, h⟩ := Uint.exists_sub_eq_ok (e := Error.arithmeticPanic)
      (hc.within_budget sessionId member)
    exact ⟨remaining, session_bind_eq_ok.mpr ⟨hexists, h⟩⟩

/-- The creator's ballot of intensity two has cost four credits. -/
theorem voiceCredits_conserved_approval :
    ∑ id with ((Sample.after (Sample.preparation ++ Sample.approval)).state.proposals id).sessionId
        = 1,
      (((Sample.after (Sample.preparation ++ Sample.approval)).state.ballots id
        Sample.creator).cost : ℕ) = 4 := by
  have hspent : ((Sample.after (Sample.preparation ++ Sample.approval)).state.spentVoiceCredits 1
      Sample.creator : ℕ) = 4 := by decide +kernel
  rw [← hspent]
  exact ((voiceCredits_conserved (Sample.reachable_after (by decide)).observable).1 1
    Sample.creator).symm

end CreatorFirst.Governor
