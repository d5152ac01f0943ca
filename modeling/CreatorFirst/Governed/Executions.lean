import CreatorFirst.Governed.Machine
import CreatorFirst.Governor.ExecutionGate

/-!
# Executions of the governor and its targets

Whatever the three contracts do is a run of the governor alone, with the same executions. So the calls
that the journal notes are those of the executed proposals, each once and each approved by both
Houses.
-/

namespace CreatorFirst.Governed

open Chain Relation

variable {P : Primitives} {d : Deployment} {w w' : GovernedWorld}

/-! ## The governor's side of a run -/

/-- The call that an operation makes to the target of a proposal. -/
def callOf (s : Governor.State) : Governor.Op → Option Governor.TargetCall
  | .plain _ => none
  | .executeProposal id callData =>
    some ⟨id, (s.proposals id).target, (s.proposals id).value, callData⟩

/-- The entry as the governor alone sees it. -/
def governorEntry (e : GovernedEntry) : Option Governor.GovernorEntry :=
  match e.op with
  | .governor op => some ⟨e.block, e.msg, op, e.before.governor, callOf e.before.governor op⟩
  | .factory _ | .policy _ => none

def governorWorld (start : Governor.GovernorWorld) (w : GovernedWorld) : Governor.GovernorWorld :=
  ⟨w.block, w.state.governor, w.journal.filterMap governorEntry ++ start.journal⟩

/-- A function of the governor finishes, or it is an execution and hands over to its target. -/
theorem governorCall_cases {b : Block} {msg : Msg} {op : Governor.Op} {s : Governor.State}
    {o : Outcome Governor.State Governor.TargetCall}
    (h : Governor.call P d.governor b msg op s = .ok o) :
    (∃ plain s', op = .plain plain ∧ o = .done s' ∧ callOf s op = none) ∨
    (∃ id callData call, op = .executeProposal id callData ∧
      Governor.Executes P d.governor b msg.value id callData s ∧
      o = .callout (s.withExecution id) call ∧ callOf s op = some call) := by
  cases op with
  | plain plain =>
    obtain ⟨-, h⟩ := revertIf_bind_eq_ok.mp h
    obtain ⟨s', -, h⟩ := bind_eq_ok.mp h
    obtain rfl := pure_eq_ok.mp h
    exact .inl ⟨plain, s', rfl, rfl, rfl⟩
  | executeProposal id callData =>
    cases o with
    | done s' =>
      simp only [Governor.call, Governor.executeProposal, bind_eq_ok, pure_eq_ok, reduceCtorEq,
        and_false, exists_false] at h
    | callout s' call =>
      obtain ⟨hexec, rfl, rfl⟩ := Governor.executeProposal_ok h
      exact .inr ⟨id, callData, _, rfl, hexec, rfl, rfl⟩

/-! ## One step -/

/-- The steps of the three contracts. -/
inductive Small (P : Primitives) (d : Deployment) (w : GovernedWorld) : GovernedWorld → Prop
  | tick (b : Block) : Small P d w { w with block := b }
  | plain (msg : Msg) (op : Governor.PlainOp) (s : Governor.State) :
      Small P d w ⟨w.block, { w.state with governor := s },
        ⟨w.block, msg, .governor (.plain op), w.state, none⟩ :: w.journal⟩
  | outside (msg : Msg) (id : Uint 256) (callData : Bytes) (call : Governor.TargetCall)
      (hcall : callOf w.state.governor (.executeProposal id callData) = some call)
      (htarget : callTarget P d call w.state.targets = none) :
      Small P d w ⟨w.block, { w.state with governor := w.state.governor.withExecution id },
        ⟨w.block, msg, .governor (.executeProposal id callData), w.state, some call⟩ :: w.journal⟩
  | execute (msg : Msg) (id : Uint 256) (callData : Bytes) (call : Governor.TargetCall)
      (targets : Targets) (hcall : callOf w.state.governor (.executeProposal id callData) = some call)
      (htarget : callTarget P d call w.state.targets = some (.ok targets)) :
      Small P d w ⟨w.block, ⟨{ w.state.governor.withExecution id with entered := false }, targets⟩,
        ⟨w.block, msg, .governor (.executeProposal id callData), w.state, none⟩ :: w.journal⟩
  | factory (msg : Msg) (callData : Bytes) :
      Small P d w ⟨w.block, w.state, ⟨w.block, msg, .factory callData, w.state, none⟩ :: w.journal⟩
  | policy (msg : Msg) (callData : Bytes) :
      Small P d w ⟨w.block, w.state, ⟨w.block, msg, .policy callData, w.state, none⟩ :: w.journal⟩
  | resume : Small P d w
      { w with state := { w.state with governor := { w.state.governor with entered := false } } }

theorem onFactory_ok {msg : Msg} {callData : Bytes} {t t' : Targets}
    (h : onFactory P d msg callData t = .ok t') :
    ∃ factory, callFactory P d.factory msg callData t.factory = .ok factory ∧
      t' = { t with factory } := by
  obtain ⟨factory, hfactory, h⟩ := bind_eq_ok.mp h
  obtain rfl := pure_eq_ok.mp h
  exact ⟨factory, mapError_eq_ok.mp hfactory, rfl⟩

theorem onPolicy_ok {msg : Msg} {callData : Bytes} {t t' : Targets}
    (h : onPolicy d msg callData t = .ok t') :
    ∃ policy, callPolicy d.policy msg callData t.policy = .ok policy ∧ t' = { t with policy } := by
  obtain ⟨policy, hpolicy, h⟩ := bind_eq_ok.mp h
  obtain rfl := pure_eq_ok.mp h
  exact ⟨policy, mapError_eq_ok.mp hpolicy, rfl⟩

theorem finish_eq_ok {s : System} {r : Except TargetError Targets}
    {o : Outcome System Governor.TargetCall} :
    finish s r = .ok o ↔
      ∃ targets, r = .ok targets ∧
        o = .done ⟨{ s.governor with entered := false }, targets⟩ := by
  cases r with
  | error e => simp [finish, Governor.afterTargetCall, revertIf, bind, Except.bind, Except.mapError]
  | ok targets =>
    simp [finish, Governor.afterTargetCall, revertIf, bind, Except.bind, pure, Except.pure,
      Except.mapError, eq_comm]

/-- Whoever is not the governor can only read. -/
theorem callFactory_of_ne {msg : Msg} (hmsg : msg.sender ≠ d.governor.self) {callData : Bytes}
    {s s' : Factory} (h : callFactory P d.factory msg callData s = .ok s') : s' = s := by
  obtain ⟨-, ⟨-, rfl⟩ | ⟨_, -, hsender, -⟩⟩ := callFactory_eq_ok.mp h
  · rfl
  · exact absurd (hsender.trans d.factory_bound) hmsg

theorem callPolicy_of_ne {msg : Msg} (hmsg : msg.sender ≠ d.governor.self) {callData : Bytes}
    {s s' : GovernedPolicy} (h : callPolicy d.policy msg callData s = .ok s') : s' = s := by
  obtain ⟨-, ⟨-, rfl⟩ | ⟨_, _, -, hsender, -⟩⟩ := callPolicy_eq_ok.mp h
  · rfl
  · exact absurd (hsender.trans d.policy_bound) hmsg

/-- Every small step of the three contracts is one of these, and consists of small steps of the
governor. -/
theorem micro_small (start : Governor.GovernorWorld) (h : (contract P d).Micro w w') :
    Small P d w w' ∧ ReflTransGen (Governor.contract P d.governor).Micro (governorWorld start w)
      (governorWorld start w') := by
  cases h with
  | tick b hb => exact ⟨.tick b, .single (.tick (governorWorld start w) b hb)⟩
  | resume frame success s hs =>
    obtain ⟨g, hg, hs⟩ := bind_eq_ok.mp hs
    obtain rfl := pure_eq_ok.mp hs
    rw [mapError_eq_ok] at hg
    refine ⟨?_, .single (.resume (governorWorld start w) frame success g hg)⟩
    obtain ⟨-, hg⟩ := revertIf_bind_eq_ok.mp hg
    obtain rfl := pure_eq_ok.mp hg
    exact .resume
  | call msg op o ho =>
    cases op with
    | factory callData =>
      obtain ⟨hmsg, ho⟩ := revertIf_bind_eq_ok.mp ho
      obtain ⟨t, ht, ho⟩ := bind_eq_ok.mp ho
      obtain rfl := pure_eq_ok.mp ho
      obtain ⟨factory, hfactory, rfl⟩ := onFactory_ok (mapError_eq_ok.mp ht)
      obtain rfl := callFactory_of_ne hmsg hfactory
      exact ⟨.factory msg callData, .refl⟩
    | policy callData =>
      obtain ⟨hmsg, ho⟩ := revertIf_bind_eq_ok.mp ho
      obtain ⟨t, ht, ho⟩ := bind_eq_ok.mp ho
      obtain rfl := pure_eq_ok.mp ho
      obtain ⟨policy, hpolicy, rfl⟩ := onPolicy_ok (mapError_eq_ok.mp ht)
      obtain rfl := callPolicy_of_ne hmsg hpolicy
      exact ⟨.policy msg callData, .refl⟩
    | governor op =>
      obtain ⟨g, hg, ho⟩ := bind_eq_ok.mp ho
      rw [mapError_eq_ok] at hg
      have hmicro := Contract.Micro.call (C := Governor.contract P d.governor)
        (governorWorld start w) msg op g hg
      obtain ⟨plain, s, rfl, rfl, -⟩ | ⟨id, callData, call, rfl, hexec, rfl, hcall⟩ :=
        governorCall_cases hg
      · obtain rfl := pure_eq_ok.mp ho
        exact ⟨.plain msg plain s, .single hmicro⟩
      · dsimp only at ho
        have hcallout : callOf w.state.governor (.executeProposal id callData) = some call := hcall
        cases htarget : callTarget P d call w.state.targets with
        | none =>
          simp only [htarget] at ho
          obtain rfl := pure_eq_ok.mp ho
          refine ⟨.outside msg id callData call hcall htarget, .single ?_⟩
          simpa [governorWorld, governorEntry, World.log_eq, hcallout, Outcome.state, Outcome.frame?]
            using hmicro
        | some r =>
          simp only [htarget] at ho
          obtain ⟨targets, rfl, rfl⟩ := finish_eq_ok.mp ho
          refine ⟨.execute msg id callData call targets hcall htarget, ?_⟩
          have hresume := Contract.Micro.resume (C := Governor.contract P d.governor)
            (World.log (governorWorld start w) msg (.executeProposal id callData)
              (.callout (w.state.governor.withExecution id) call)) call true
            { w.state.governor.withExecution id with entered := false } rfl
          apply (ReflTransGen.single hmicro).tail
          simpa [governorWorld, governorEntry, World.log_eq, hcallout, Outcome.state,
            Outcome.frame?] using hresume

/-! ## Executed proposals -/

/-- The call that an entry of the journal made to the target of its proposal. -/
def executedCall (e : GovernedEntry) : Option Governor.TargetCall :=
  match e.op with
  | .governor op => callOf e.before.governor op
  | .factory _ | .policy _ => none

/-- The calls of all executions, the latest first. -/
def executedCalls (journal : List GovernedEntry) : List Governor.TargetCall :=
  journal.filterMap executedCall

theorem Observable.governor {start : Governor.GovernorWorld} (h : Observable P d start w) :
    Governor.Observable P d.governor (governorWorld start w) := by
  obtain ⟨b, hb⟩ := h.start_reachable.observable
  refine ⟨b, hb.trans ?_⟩
  refine run_invariant (I := fun v ↦ ReflTransGen (Governor.contract P d.governor).Micro start
    (governorWorld start v)) (fun v v' _ hv hm ↦ hv.trans (micro_small start hm).2) h.run ?_
  exact .refl

/-- The executions that the governor counts are the calls that name the proposal. -/
theorem count_executedCalls (journal : List GovernedEntry) (id : Uint 256) :
    ((executedCalls journal).map (·.proposalId)).count id =
      Governor.executions (journal.filterMap governorEntry) id := by
  induction journal with
  | nil => rfl
  | cons e journal ih =>
    obtain ⟨b, msg, op, before, callout⟩ := e
    cases op with
    | factory callData | policy callData =>
      simpa only [executedCalls, List.filterMap_cons, executedCall, governorEntry] using ih
    | governor op =>
      cases op with
      | plain op =>
        simp only [executedCalls, List.filterMap_cons, executedCall, governorEntry, callOf] at ih ⊢
        rw [ih, Governor.executions, Governor.executions,
          List.countP_cons_of_neg (by simp [Governor.Op.execution])]
      | executeProposal id₀ callData =>
        simp only [executedCalls, List.filterMap_cons, executedCall, governorEntry, callOf,
          List.map_cons, List.count_cons] at ih ⊢
        rw [ih, Governor.executions, Governor.executions, List.countP_cons]
        simp [Governor.Op.execution]

/-- No proposal is executed twice, and the executed ones are those whose flag has been set. -/
theorem Observable.executed {start : Governor.GovernorWorld} (h : Observable P d start w) :
    ((executedCalls w.journal).map (·.proposalId)).Nodup ∧
      ∀ id, id ∈ (executedCalls w.journal).map (·.proposalId) ↔
        (w.state.governor.proposals id).executed = true ∧
          (start.state.proposals id).executed = false := by
  have hcount : ∀ id, ((executedCalls w.journal).map (·.proposalId)).count id +
      (if (start.state.proposals id).executed then 1 else 0) =
        if (w.state.governor.proposals id).executed then 1 else 0 := by
    intro id
    have hnow := h.governor.executedOnce id
    have hthen := h.start_reachable.observable.executedOnce id
    rw [count_executedCalls, ← hthen]
    calc _ = Governor.executions (governorWorld start w).journal id :=
          (List.countP_append ..).symm
      _ = _ := hnow
  constructor
  · rw [List.nodup_iff_count_le_one]
    intro id
    have hid := hcount id
    split_ifs at hid <;> omega
  · intro id
    have hid := hcount id
    rw [← List.count_pos_iff]
    generalize ((executedCalls w.journal).map (·.proposalId)).count id = n at hid ⊢
    cases hnow : (w.state.governor.proposals id).executed <;>
      cases hthen : (start.state.proposals id).executed <;>
      simp only [hnow, hthen, if_true, if_false, Bool.false_eq_true] at hid ⊢ <;>
      simp only [and_true, and_false, reduceCtorEq, iff_true, iff_false] <;> omega

/-- The call is that of a proposal which both Houses have approved, with exactly these call data. -/
structure Approved (P : Primitives) (start : Governor.GovernorWorld) (w : GovernedWorld)
    (c : Governor.TargetCall) : Prop where
  executed : (w.state.governor.proposals c.proposalId).executed = true
  target : (w.state.governor.proposals c.proposalId).target = c.target
  value : (w.state.governor.proposals c.proposalId).value = c.value
  callData : (w.state.governor.proposals c.proposalId).callDataHash = P.keccak256 c.callData
  approved : (w.state.governor.proposals c.proposalId).finalized = true ∧
    (w.state.governor.proposals c.proposalId).creatorApproved = true ∧
    (w.state.governor.proposals c.proposalId).userApproved = true
  vote : ∃ finalization ballot preVoteReview deliberation,
    Governor.VoteStage c.proposalId (w.state.governor.proposals c.proposalId).terms
      (governorWorld start w).journal finalization ballot preVoteReview deliberation

theorem Observable.approved {start : Governor.GovernorWorld} (h : Observable P d start w)
    {c : Governor.TargetCall} (hc : c ∈ executedCalls w.journal) : Approved P start w c := by
  obtain ⟨⟨b, msg, op, before, callout⟩, he, hcall⟩ := List.mem_filterMap.mp hc
  cases op with
  | factory callData | policy callData => cases hcall
  | governor op =>
    cases op with
    | plain op => cases hcall
    | executeProposal id callData =>
      obtain rfl := Option.some.inj hcall
      have hmem : (⟨b, msg, .executeProposal id callData, before.governor,
          callOf before.governor (.executeProposal id callData)⟩ : Governor.GovernorEntry) ∈
            (governorWorld start w).journal :=
        List.mem_append_left _ (List.mem_filterMap.mpr ⟨_, he, rfl⟩)
      obtain ⟨later, earlier, hjournal⟩ := List.append_of_mem hmem
      obtain ⟨s, hocc⟩ := h.governor.exists_occurs ⟨later, hjournal.symm⟩
      obtain ⟨hexec, -, -⟩ := hocc.called
      have hterms := hocc.terms_eq hexec.registered
      have hexecuted := ((h.executed.2 id).mp (List.mem_map.mpr ⟨_, hc, rfl⟩)).1
      have horder := h.governor.inOrder id
      have happroved := horder.of_reviewed (horder.of_queued (horder.of_executed hexecuted))
      obtain ⟨f, v, r, deliberation, -, hvote⟩ := h.governor.voteStage happroved
      exact ⟨hexecuted, congrArg Governor.ProposalParams.target hterms,
        congrArg Governor.ProposalParams.value hterms,
        (congrArg Governor.ProposalParams.callDataHash hterms).trans hexec.hash_eq.symm, happroved,
        f, v, r, deliberation, hvote⟩

end CreatorFirst.Governed
