import CreatorFirst.Distributor.Caps

/-!
# Operation ids

Every accepted registration or top-up marks its operation id as used, and a top-up is refused when
its id is marked. The branch of a registration in which the wallet holds enough marks the id without
looking, so an id is accepted a second time exactly when that branch meets a marked one.
-/

namespace CreatorFirst.Distributor

open Chain Relation

variable {P : Primitives} {d : Deployment} {b : Block} {sender : Address} {s s' : State}

/-- The operation id that a call names. -/
def Op.operationId : Op → Option Bytes32
  | .registerAndTopUp _ _ operationId => some operationId
  | .topUp _ _ _ operationId => some operationId
  | _ => none

/-- The operation ids of the calls that took effect, newest first. -/
def acceptedIds (journal : List DistributorEntry) : List Bytes32 :=
  journal.filterMap fun e ↦ e.op.operationId

/-- The number of calls that took effect with the given operation id. -/
def acceptances (journal : List DistributorEntry) (operationId : Bytes32) : ℕ :=
  journal.countP fun e ↦ e.op.operationId = some operationId

theorem count_acceptedIds (journal : List DistributorEntry) (operationId : Bytes32) :
    (acceptedIds journal).count operationId = acceptances journal operationId := by
  unfold acceptedIds acceptances List.count
  rw [List.countP_filterMap]
  congr 1
  funext e
  cases e.op.operationId with
  | none => rfl
  | some x => exact Bool.eq_iff_iff.mpr (by simp)

/-- The branch of a registration that marks its operation id unseen: the wallet holds enough. -/
def MarksUnseen (op : Op) (s : State) (operationId : Bytes32) : Prop :=
  ∃ participantId wallet, op = .registerAndTopUp participantId wallet operationId ∧
    INITIAL_TARGET_BALANCE ≤ s.balances wallet

/-- What a call does to the marks: without an operation id nothing, and with one it sets its mark,
which was not set before unless the call marks unseen. -/
inductive Marking (op : Op) (s s' : State) : Prop
  | none (hop : op.operationId = none) (h : s'.usedOperationIds = s.usedOperationIds)
  | some (x : Bytes32) (hop : op.operationId = some x)
      (h : s'.usedOperationIds = Function.update s.usedOperationIds x true)
      (hfresh : s.usedOperationIds x = false ∨ MarksUnseen op s x)

theorem Op.marking {msg : Msg} {op : Op} {o : Outcome State Payout}
    (h : op.apply P d b msg s = .ok o) : Marking op s o.state := by
  cases op with
  | registerAndTopUp participantId wallet operationId =>
    obtain ⟨-, ⟨hrich, rfl⟩ | ⟨amount, cumulative, distributed, htops, rfl⟩⟩ :=
      registerAndTopUp_ok h
    · exact .some operationId rfl rfl (.inr ⟨participantId, wallet, rfl, hrich⟩)
    · exact .some operationId rfl rfl (.inl htops.operation_fresh)
  | topUp participantId wallet targetBalance operationId =>
    obtain ⟨-, -, -, amount, cumulative, distributed, htops, rfl⟩ := topUp_ok h
    exact .some operationId rfl rfl (.inl htops.operation_fresh)
  | emergencyWithdraw recipient amount =>
    simp only [Op.apply, Distributor.emergencyWithdraw, onlyRole_bind_eq_ok, revertIf_bind_eq_ok,
      pure_eq_ok] at h
    obtain ⟨-, -, -, -, -, rfl⟩ := h
    exact .none rfl rfl
  | access op =>
    obtain ⟨s', hs', rfl⟩ := finish_eq_ok.mp h
    obtain ⟨roles, -, hs'⟩ := bind_eq_ok.mp hs'
    obtain rfl := pure_eq_ok.mp hs'
    exact .none rfl rfl
  | _ =>
    obtain ⟨s', hs', rfl⟩ := finish_eq_ok.mp h
    simp only [Distributor.setParticipantActive, Distributor.pause, Distributor.unpause,
      Distributor.receive, Distributor.elsewhere, onlyRole_bind_eq_ok, revertIf_bind_eq_ok,
      pure_eq_ok] at hs'
    apply Marking.none rfl
    grind [Outcome.state]

/-- The marks are those of the accepted operation ids, and an id is repeated exactly when a call
marked unseen an id that was marked. -/
structure Marked (w : DistributorWorld) : Prop where
  used_iff : ∀ x, w.state.usedOperationIds x = true ↔ x ∈ acceptedIds w.journal
  nodup_iff : (acceptedIds w.journal).Nodup ↔ ∀ e ∈ w.journal, ∀ operationId,
    MarksUnseen e.op e.before operationId → e.before.usedOperationIds operationId = false

theorem operationId_of_marksUnseen {op : Op} {x : Bytes32} (h : MarksUnseen op s x) :
    op.operationId = some x := by
  obtain ⟨participantId, wallet, rfl, -⟩ := h
  rfl

theorem Marking.marked {w : DistributorWorld} (hw : Marked w) {msg : Msg} {op : Op}
    {o : Outcome State Payout} (h : Marking op w.state o.state) : Marked (w.log msg op o) := by
  rw [World.log_eq]
  cases h with
  | none hop hsame =>
    have hjournal : ∀ e : DistributorEntry, e.op = op →
        acceptedIds (e :: w.journal) = acceptedIds w.journal := by
      rintro e rfl
      exact List.filterMap_cons_none hop
    constructor
    · intro x
      rw [hsame, hjournal _ rfl]
      exact hw.used_iff x
    · rw [hjournal _ rfl, hw.nodup_iff, List.forall_mem_cons]
      refine (and_iff_right fun x hunseen ↦ ?_).symm
      rw [operationId_of_marksUnseen hunseen] at hop
      cases hop
  | some x hop hset hfresh =>
    have hjournal : ∀ e : DistributorEntry, e.op = op →
        acceptedIds (e :: w.journal) = x :: acceptedIds w.journal := by
      rintro e rfl
      exact List.filterMap_cons_some hop
    constructor
    · intro y
      rw [hset, hjournal _ rfl, List.mem_cons, ← hw.used_iff y]
      by_cases hy : y = x
      · simp [hy]
      · simp [hy]
    · have hnew : x ∉ acceptedIds w.journal ↔ w.state.usedOperationIds x = false := by
        rw [← hw.used_iff x, Bool.not_eq_true]
      rw [hjournal _ rfl, List.nodup_cons, hw.nodup_iff, List.forall_mem_cons, hnew]
      apply and_congr_left'
      constructor
      · intro hunmarked y hunseen
        obtain rfl : x = y :=
          Option.some.inj (hop.symm.trans (operationId_of_marksUnseen hunseen))
        exact hunmarked
      · intro hcondition
        exact hfresh.elim id (hcondition x)

theorem Observable.marked {w : DistributorWorld} (h : Observable P d w) : Marked w := by
  obtain ⟨b, balances, -, hb⟩ := h
  refine run_invariant (I := Marked) (fun v v' _ hv hm ↦ ?_) hb ?_
  · cases hm with
    | tick => exact ⟨hv.used_iff, hv.nodup_iff⟩
    | call msg op o ho =>
      obtain ⟨-, ho⟩ := revertIf_bind_eq_ok.mp ho
      obtain ⟨-, ho⟩ := revertIf_bind_eq_ok.mp ho
      exact (Op.marking ho).marked hv
    | resume payout success s hs =>
      obtain ⟨-, hs⟩ := revertIf_bind_eq_ok.mp hs
      obtain rfl := pure_eq_ok.mp hs
      exact ⟨hv.used_iff, hv.nodup_iff⟩
  · constructor
    · intro x
      exact iff_of_false Bool.false_ne_true List.not_mem_nil
    · exact iff_of_true List.nodup_nil fun _ he ↦ absurd he List.not_mem_nil

/-- In a run no operation id is accepted twice if and only if no registration of a wallet that holds
enough names an id that is used. -/
theorem operation_ids_single_use_iff {w : DistributorWorld} (h : Observable P d w) :
    (∀ operationId, acceptances w.journal operationId ≤ 1) ↔
      ∀ e ∈ w.journal, ∀ participantId wallet operationId,
        e.op = .registerAndTopUp participantId wallet operationId →
        INITIAL_TARGET_BALANCE ≤ e.before.balances wallet →
        e.before.usedOperationIds operationId = false := by
  simp only [← count_acceptedIds]
  rw [← List.nodup_iff_count_le_one, h.marked.nodup_iff]
  constructor
  · intro hall e he participantId wallet operationId hop hrich
    exact hall e he operationId ⟨participantId, wallet, hop, hrich⟩
  · rintro hall e he operationId ⟨participantId, wallet, hop, hrich⟩
    exact hall e he participantId wallet operationId hop hrich

namespace Sample

/-- A wallet that has received a coin from elsewhere is registered under the operation id of an
earlier top-up. -/
def repetition : List DistributorTx :=
  [tx 1800 wallet (.elsewhere (Function.update distributed.state.balances 0x60 (10 ^ 18))),
   tx 1800 admin (.registerAndTopUp 12 0x60 23)]

def repeated : DistributorWorld :=
  (contract primitives deployment).run repetition distributed

theorem reachable_repeated : Reachable primitives deployment repeated := by
  obtain ⟨b, balances, hpos, hrun⟩ := reachable_distributed
  exact ⟨b, balances, hpos, hrun.trans (Contract.reaches_run (by decide +kernel))⟩

end Sample

/-- The run of the sample registers a wallet without coins and tops it up later. -/
theorem operation_ids_single_use_sample :
    (∀ operationId, acceptances Sample.distributed.journal operationId ≤ 1) ∧
      acceptances Sample.distributed.journal 23 = 1 := by
  have hunseen : Sample.distributed.journal.all (fun e ↦ match e.op with
      | .registerAndTopUp _ wallet operationId =>
        decide (INITIAL_TARGET_BALANCE ≤ e.before.balances wallet →
          e.before.usedOperationIds operationId = false)
      | _ => true) = true := by
    decide +kernel
  refine ⟨(operation_ids_single_use_iff Sample.reachable_distributed.observable).mpr ?_,
    by decide +kernel⟩
  intro e he participantId wallet operationId hop
  have hentry := List.all_eq_true.mp hunseen e he
  rw [hop] at hentry
  exact of_decide_eq_true hentry

/-- Two successful calls of one run carry the same operation id. -/
theorem operation_id_accepted_twice :
    ∃ w, Reachable Sample.primitives Sample.deployment w ∧ acceptances w.journal 23 = 2 :=
  ⟨Sample.repeated, Sample.reachable_repeated, by decide +kernel⟩

end CreatorFirst.Distributor
