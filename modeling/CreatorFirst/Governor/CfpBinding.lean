import CreatorFirst.Governor.Stages

/-!
# CFP bindings

A proposal that is registered for a revision of a CFP is bound to it for good, and the revision to
the proposal; a proposal that is registered without a binding never receives one. What else a
registration fixes stays as well. Identifiers and revisions are taken by registrations that took
effect, and by nothing else.
-/

namespace CreatorFirst.Governor

open Chain Relation

variable {P : Primitives} {d : Deployment}

/-- The CFP and the revision that a proposal is bound to; zeros for none. -/
def State.cfpBinding (s : State) (id : Uint 256) : Bytes32 × Uint 32 :=
  (s.proposalCfpIdHash id, s.proposalCfpRevision id)

/-- The proposal of an operation that votes through a CFP approval entry point. -/
def Op.cfpBallot : Op → Option (Uint 256)
  | .plain (.castCfpApprovalVote id _) => some id
  | .plain (.castCfpApprovalVoteBySig v _) => some v.proposalId
  | _ => none

/-- The registrations in a journal. -/
def registered (journal : List GovernorEntry) : List ProposalParams :=
  journal.filterMap fun e ↦ e.op.registration

/-! ## What a step does to the registry -/

/-- What a registration writes into the CFP mappings, nothing for a plain one. -/
inductive Binds (P : Primitives) (s s' : State) (id : Uint 256) : PlainOp → Prop
  | plain (params : ProposalParams) (hidHash : s'.proposalCfpIdHash = s.proposalCfpIdHash)
      (hrevision : s'.proposalCfpRevision = s.proposalCfpRevision)
      (hkey : s'.cfpProposalId = s.cfpProposalId) : Binds P s s' id (.registerProposal params)
  | cfp (cfpIdHash : Bytes32) (revision : Uint 32) (params : ProposalParams)
      (hcfp : cfpIdHash ≠ 0) (hne : revision ≠ 0)
      (hfree : s.cfpProposalId (cfpRevisionKey P cfpIdHash revision) = 0)
      (hidHash : s'.proposalCfpIdHash = Function.update s.proposalCfpIdHash id cfpIdHash)
      (hrevision : s'.proposalCfpRevision = Function.update s.proposalCfpRevision id revision)
      (hkey : s'.cfpProposalId =
        Function.update s.cfpProposalId (cfpRevisionKey P cfpIdHash revision) id) :
      Binds P s s' id (.registerCfpProposal cfpIdHash revision params)

/-- Only the new proposal becomes bound, by the call that registers it. -/
theorem Binds.bound_or_new {s s' : State} {id x : Uint 256} {op : PlainOp}
    (h : Binds P s s' id op) (hx : s'.proposalCfpIdHash x ≠ 0) :
    s.proposalCfpIdHash x ≠ 0 ∨ x = id ∧ ∃ params,
      op = .registerCfpProposal (s'.proposalCfpIdHash x) (s'.proposalCfpRevision x) params := by
  cases h with
  | plain _ hidHash => exact .inl (hidHash ▸ hx)
  | cfp cfpIdHash revision params _ _ _ hidHash hrevision =>
    by_cases hid : x = id
    · subst hid
      exact .inr ⟨rfl, params, by rw [hidHash, hrevision, Function.update_self, Function.update_self]⟩
    · rw [hidHash, Function.update_of_ne hid] at hx
      exact .inl hx

/-- A step leaves the registry alone, or registers one proposal under the next identifier. -/
theorem Small.registry_change {w w' : GovernorWorld} (h : Small P d w w') :
    (w'.state.proposalCount = w.state.proposalCount ∧
      w'.state.proposalCfpIdHash = w.state.proposalCfpIdHash ∧
      w'.state.proposalCfpRevision = w.state.proposalCfpRevision ∧
      w'.state.cfpProposalId = w.state.cfpProposalId ∧
      registered w'.journal = registered w.journal) ∨
    ∃ msg op params, Registers w.block params w.state w'.state.proposalCount ∧
      (w'.state.proposals w'.state.proposalCount).sessionId = params.sessionId ∧
      Binds P w.state w'.state w'.state.proposalCount op ∧
      (Op.plain op).registration = some params ∧
      w'.journal = ⟨w.block, msg, .plain op, w.state, none⟩ :: w.journal := by
  cases h with
  | tick | execute | resume => exact .inl ⟨rfl, rfl, rfl, rfl, rfl⟩
  | plain msg op s heff =>
    cases heff with
    | registerProposal params id hreg =>
      refine .inr ⟨msg, _, params, hreg, ?_, .plain params rfl rfl rfl, rfl, rfl⟩
      simp [State.withProposal, State.setProposal, ProposalParams.over]
    | registerCfpProposal cfpIdHash revision params id hcfp hrevision hfree hreg =>
      refine .inr ⟨msg, _, params, hreg, ?_,
        .cfp cfpIdHash revision params hcfp hrevision hfree rfl rfl rfl, rfl, rfl⟩
      simp [State.withProposal, State.setProposal, ProposalParams.over]
    | _ => exact .inl ⟨rfl, rfl, rfl, rfl, rfl⟩

/-- A new identifier lies beyond all earlier ones. -/
theorem Registers.id_ne {b : Block} {params : ProposalParams} {s : State} {id x : Uint 256}
    (h : Registers b params s id) (hx : (x : ℕ) ≤ s.proposalCount) : x ≠ id := by
  have hid := h.id_eq
  rintro rfl
  omega

/-! ## Terms and bindings stay -/

/-- What a registration has fixed about a proposal stays, its binding included. -/
theorem Small.registered_stays {w w' : GovernorWorld} (hwf : WellFormed w.state)
    (h : Small P d w w') {id : Uint 256} (hregistered : (w.state.proposals id).sessionId ≠ 0) :
    (w'.state.proposals id).terms = (w.state.proposals id).terms ∧
      w'.state.cfpBinding id = w.state.cfpBinding id := by
  refine ⟨h.terms_eq hwf hregistered, ?_⟩
  obtain ⟨-, hidHash, hrevision, -⟩ | ⟨msg, op, params, hreg, -, hbinds, -⟩ := h.registry_change
  · rw [State.cfpBinding, hidHash, hrevision, State.cfpBinding]
  · have hne := hreg.id_ne (hwf.le_count hregistered)
    cases hbinds with
    | plain _ hidHash hrevision =>
      rw [State.cfpBinding, hidHash, hrevision, State.cfpBinding]
    | cfp _ _ _ _ _ _ hidHash hrevision =>
      rw [State.cfpBinding, hidHash, hrevision, Function.update_of_ne hne,
        Function.update_of_ne hne, State.cfpBinding]

theorem Observable.registered_stays {w w' : GovernorWorld} (hw : Observable P d w)
    (h : ReflTransGen (contract P d).Micro w w') {id : Uint 256}
    (hregistered : (w.state.proposals id).sessionId ≠ 0) :
    (w'.state.proposals id).terms = (w.state.proposals id).terms ∧
      w'.state.cfpBinding id = w.state.cfpBinding id := by
  induction h with
  | refl => exact ⟨rfl, rfl⟩
  | @tail v v' hrun hm ih =>
    obtain ⟨b, hb⟩ := hw
    have hv : Observable P d v := ⟨b, hb.trans hrun⟩
    have hsession : (v.state.proposals id).sessionId = (w.state.proposals id).sessionId :=
      congrArg ProposalParams.sessionId ih.1
    obtain ⟨hterms, hbinding⟩ :=
      (micro_small hm).registered_stays hv.wellFormed (hsession ▸ hregistered)
    exact ⟨hterms.trans ih.1, hbinding.trans ih.2⟩

/-! ## The two directions of a binding -/

/-- The mappings from proposals to revisions and back agree. -/
structure CfpBound (P : Primitives) (s : State) : Prop where
  blank : ∀ id : Uint 256, (s.proposalCount : ℕ) < id → s.proposalCfpIdHash id = 0
  zero_unbound : s.proposalCfpIdHash 0 = 0
  revision_ne : ∀ id, s.proposalCfpIdHash id ≠ 0 → s.proposalCfpRevision id ≠ 0
  key_of_bound : ∀ id, s.proposalCfpIdHash id ≠ 0 →
    s.cfpProposalId (cfpRevisionKey P (s.proposalCfpIdHash id) (s.proposalCfpRevision id)) = id
  bound_of_key : ∀ key, s.cfpProposalId key ≠ 0 →
    s.proposalCfpIdHash (s.cfpProposalId key) ≠ 0 ∧
      cfpRevisionKey P (s.proposalCfpIdHash (s.cfpProposalId key))
        (s.proposalCfpRevision (s.cfpProposalId key)) = key

theorem cfpBound_initial : CfpBound P (initialState P d) where
  blank _ _ := rfl
  zero_unbound := rfl
  revision_ne _ h := absurd rfl h
  key_of_bound _ h := absurd rfl h
  bound_of_key _ h := absurd rfl h

theorem CfpBound.frame {s s' : State} (hs : CfpBound P s)
    (hcount : (s.proposalCount : ℕ) ≤ s'.proposalCount)
    (hidHash : s'.proposalCfpIdHash = s.proposalCfpIdHash)
    (hrevision : s'.proposalCfpRevision = s.proposalCfpRevision)
    (hkey : s'.cfpProposalId = s.cfpProposalId) : CfpBound P s' := by
  constructor
  · intro x hx
    rw [hidHash]
    exact hs.blank x (hcount.trans_lt hx)
  · rw [hidHash]
    exact hs.zero_unbound
  · rw [hidHash, hrevision]
    exact hs.revision_ne
  · rw [hidHash, hrevision, hkey]
    exact hs.key_of_bound
  · rw [hidHash, hrevision, hkey]
    exact hs.bound_of_key

/-- A registration binds the next identifier to a revision that is free, or nothing. -/
theorem Binds.cfpBound {s s' : State} {op : PlainOp} (hs : CfpBound P s)
    (hid : (s'.proposalCount : ℕ) = s.proposalCount + 1)
    (h : Binds P s s' s'.proposalCount op) : CfpBound P s' := by
  cases h with
  | plain _ hidHash hrevision hkey => exact hs.frame (by omega) hidHash hrevision hkey
  | cfp cfpIdHash revision _ hcfp hne hfree hidHash hrevision hkey =>
    -- Neither the new identifier nor the new key was in use.
    have hunbound := hs.blank s'.proposalCount (by omega)
    have hold : ∀ key, s.cfpProposalId key ≠ 0 → s.cfpProposalId key ≠ s'.proposalCount := by
      intro key hset heq
      exact (hs.bound_of_key key hset).1 (heq ▸ hunbound)
    refine ⟨fun x hx ↦ ?_, ?_, fun x hx ↦ ?_, fun x hx ↦ ?_, fun key hset ↦ ?_⟩
    · have hx' : x ≠ s'.proposalCount := by
        rintro rfl
        exact lt_irrefl _ hx
      rw [hidHash, Function.update_of_ne hx']
      exact hs.blank x (by omega)
    · have hzero : (0 : Uint 256) ≠ s'.proposalCount := by
        intro heq
        rw [← heq] at hid
        exact absurd hid (Nat.succ_ne_zero _).symm
      rw [hidHash, Function.update_of_ne hzero]
      exact hs.zero_unbound
    · by_cases hx' : x = s'.proposalCount
      · rw [hx', hrevision, Function.update_self]
        exact hne
      · rw [hidHash, Function.update_of_ne hx'] at hx
        rw [hrevision, Function.update_of_ne hx']
        exact hs.revision_ne x hx
    · by_cases hx' : x = s'.proposalCount
      · rw [hx', hidHash, hrevision, hkey]
        simp
      · rw [hidHash, Function.update_of_ne hx'] at hx
        have hkeep := hs.key_of_bound x hx
        have hkey' : cfpRevisionKey P (s.proposalCfpIdHash x) (s.proposalCfpRevision x) ≠
            cfpRevisionKey P cfpIdHash revision := by
          intro heq
          rw [heq, hfree] at hkeep
          exact hx (hkeep ▸ hs.zero_unbound)
        rw [hidHash, hrevision, hkey, Function.update_of_ne hx', Function.update_of_ne hx',
          Function.update_of_ne hkey']
        exact hkeep
    · rw [hkey] at hset ⊢
      by_cases hkey' : key = cfpRevisionKey P cfpIdHash revision
      · subst hkey'
        rw [Function.update_self, hidHash, hrevision, Function.update_self, Function.update_self]
        exact ⟨hcfp, rfl⟩
      · rw [Function.update_of_ne hkey'] at hset ⊢
        rw [hidHash, hrevision, Function.update_of_ne (hold key hset),
          Function.update_of_ne (hold key hset)]
        exact hs.bound_of_key key hset

theorem Small.cfpBound {w w' : GovernorWorld} (hw : CfpBound P w.state) (h : Small P d w w') :
    CfpBound P w'.state := by
  obtain ⟨hcount, hidHash, hrevision, hkey, -⟩ | ⟨msg, op, params, hreg, -, hbinds, -⟩ :=
    h.registry_change
  · exact hw.frame (by rw [hcount]) hidHash hrevision hkey
  · exact hbinds.cfpBound hw hreg.id_eq

theorem Observable.cfpBound {w : GovernorWorld} (h : Observable P d w) : CfpBound P w.state :=
  h.invariant (I := fun w ↦ CfpBound P w.state) (fun _ ↦ cfpBound_initial)
    fun _ _ _ hw hs ↦ hs.cfpBound hw

/-! ## The calls behind the registry -/

/-- Every identifier and every binding goes back to a registration of its own, and every ballot that
came through a CFP approval entry point is one for a bound proposal. -/
structure CfpHistory (w : GovernorWorld) : Prop where
  count_eq : (w.state.proposalCount : ℕ) = (registered w.journal).length
  registered : ∀ id, w.state.proposalCfpIdHash id ≠ 0 → (w.state.proposals id).sessionId ≠ 0
  bound_by : ∀ id, w.state.proposalCfpIdHash id ≠ 0 → ∃ e ∈ w.journal, ∃ params,
    e.op = .plain (.registerCfpProposal (w.state.proposalCfpIdHash id)
      (w.state.proposalCfpRevision id) params) ∧ (id : ℕ) = e.before.proposalCount + 1
  ballots_bound : ∀ e ∈ w.journal, ∀ id, e.op.cfpBallot = some id →
    w.state.proposalCfpIdHash id ≠ 0

theorem cfpHistory_genesis (b : Block) : CfpHistory (genesis P d b) where
  count_eq := rfl
  registered _ h := absurd rfl h
  bound_by _ h := absurd rfl h
  ballots_bound _ h := by cases h

/-- A ballot through a CFP approval entry point is cast on a bound proposal. -/
theorem Small.cfpBallot_bound {w w' : GovernorWorld} (h : Small P d w w') :
    w'.journal = w.journal ∨ ∃ e : GovernorEntry, w'.journal = e :: w.journal ∧
      ∀ id, e.op.cfpBallot = some id → w.state.proposalCfpIdHash id ≠ 0 := by
  cases h with
  | tick | resume => exact .inl rfl
  | execute => exact .inr ⟨_, rfl, fun id hid ↦ by cases hid⟩
  | plain msg op s heff =>
    refine .inr ⟨_, rfl, fun id hid ↦ ?_⟩
    cases heff with
    | castCfpApprovalVote id₀ i cost spent q hbound =>
      obtain rfl := Option.some.inj hid
      exact hbound
    | castCfpApprovalVoteBySig v signature n cost spent q hrelay =>
      obtain rfl := Option.some.inj hid
      exact hrelay.bound
    | _ => cases hid

theorem Small.cfpHistory {w w' : GovernorWorld} (hwf : WellFormed w.state)
    (hw : CfpHistory w) (h : Small P d w w') : CfpHistory w' := by
  have hbinding : ∀ id, w.state.proposalCfpIdHash id ≠ 0 →
      w'.state.proposalCfpIdHash id = w.state.proposalCfpIdHash id ∧
        w'.state.proposalCfpRevision id = w.state.proposalCfpRevision id := fun id hid ↦
    Prod.mk.inj (h.registered_stays hwf (hw.registered id hid)).2
  have hsession : ∀ id, w.state.proposalCfpIdHash id ≠ 0 →
      (w'.state.proposals id).sessionId ≠ 0 := by
    intro id hid
    have hreg := hw.registered id hid
    have hsame : (w'.state.proposals id).sessionId = (w.state.proposals id).sessionId :=
      congrArg ProposalParams.sessionId (h.terms_eq hwf hreg)
    rwa [hsame]
  have hbound : ∀ id, w.state.proposalCfpIdHash id ≠ 0 → ∃ e ∈ w'.journal, ∃ params,
      e.op = .plain (.registerCfpProposal (w'.state.proposalCfpIdHash id)
        (w'.state.proposalCfpRevision id) params) ∧ (id : ℕ) = e.before.proposalCount + 1 := by
    intro id hid
    obtain ⟨e, he, hrest⟩ := hw.bound_by id hid
    rw [(hbinding id hid).1, (hbinding id hid).2]
    exact ⟨e, h.journal_suffix.subset he, hrest⟩
  have hballots : ∀ e ∈ w'.journal, ∀ id, e.op.cfpBallot = some id →
      w'.state.proposalCfpIdHash id ≠ 0 := by
    have hold : ∀ e ∈ w.journal, ∀ id, e.op.cfpBallot = some id →
        w'.state.proposalCfpIdHash id ≠ 0 := by
      intro e he id hid
      have hset := hw.ballots_bound e he id hid
      rwa [(hbinding id hset).1]
    obtain hsame | ⟨e, hcons, hnew⟩ := h.cfpBallot_bound
    · rwa [hsame]
    · rw [hcons, List.forall_mem_cons]
      refine ⟨fun id hid ↦ ?_, hold⟩
      have hset := hnew id hid
      rwa [(hbinding id hset).1]
  obtain ⟨hcount, hidHash, -, -, hregistered⟩ |
    ⟨msg, op, params, hreg, hsessionId, hbinds, hop, hjournal⟩ := h.registry_change
  · refine ⟨?_, fun id hid ↦ hsession id (hidHash ▸ hid), fun id hid ↦ hbound id (hidHash ▸ hid),
      hballots⟩
    rw [hcount, hregistered]
    exact hw.count_eq
  · have hlength : (Governor.registered w'.journal).length =
        (Governor.registered w.journal).length + 1 := by
      simp only [hjournal, Governor.registered, List.filterMap_cons, hop, List.length_cons]
    refine ⟨?_, fun id hid ↦ ?_, fun id hid ↦ ?_, hballots⟩
    · rw [hreg.id_eq, hlength, hw.count_eq]
    · obtain hset | ⟨rfl, -⟩ := hbinds.bound_or_new hid
      · exact hsession id hset
      · rw [hsessionId]
        exact hwf.session_ne _ hreg.session_exists
    · obtain hset | ⟨rfl, params', rfl⟩ := hbinds.bound_or_new hid
      · exact hbound id hset
      · exact ⟨_, hjournal ▸ List.mem_cons_self, params', rfl, hreg.id_eq⟩

theorem Observable.cfpHistory {w : GovernorWorld} (h : Observable P d w) : CfpHistory w :=
  h.invariant (I := CfpHistory) cfpHistory_genesis fun _ _ hv hw hs ↦ hs.cfpHistory hv.wellFormed hw

/-! ## Bindings in every run -/

/-- The encodings whose hashes are the keys of the bound revisions. -/
def revisionPreimages (s : State) : Set Bytes :=
  {x | ∃ id, s.proposalCfpIdHash id ≠ 0 ∧
    x = abiEncode [s.proposalCfpIdHash id, s.proposalCfpRevision id]}

/-- Where hashing has no collision, a revision leads to a proposal exactly when the proposal leads to
the revision. -/
theorem CfpBound.inverse {s : State} (hs : CfpBound P s) {cfpIdHash : Bytes32}
    {revision : Uint 32}
    (hinj : Set.InjOn P.keccak256
      (insert (abiEncode [cfpIdHash, revision]) (revisionPreimages s)))
    {id : Uint 256} (hid : id ≠ 0) :
    s.cfpProposalId (cfpRevisionKey P cfpIdHash revision) = id ↔
      cfpIdHash ≠ 0 ∧ s.cfpBinding id = (cfpIdHash, revision) := by
  constructor
  · rintro rfl
    obtain ⟨hbound, hkey⟩ := hs.bound_of_key _ hid
    have hencoded := hinj (Set.mem_insert_of_mem _ ⟨_, hbound, rfl⟩) (Set.mem_insert _ _) hkey
    have hwords := abiEncode_inj (by simp) (fun x hx ↦ ?_) (fun x hx ↦ ?_) hencoded
    · simp only [List.cons.injEq, and_true] at hwords
      have hidHash := Fin.ext hwords.1
      rw [hidHash] at hbound
      exact ⟨hbound, Prod.ext hidHash (Fin.ext hwords.2)⟩
    all_goals
      obtain rfl | rfl : x = _ ∨ x = _ := by simpa using hx
      · exact Fin.isLt _
      · exact (Fin.isLt _).trans (by norm_num)
  · rintro ⟨hne, hbinding⟩
    obtain ⟨rfl, rfl⟩ := Prod.mk.inj hbinding
    exact hs.key_of_bound id hne

/-- What holds of the CFP bindings at any time. -/
structure CfpSafe (P : Primitives) (w : GovernorWorld) : Prop
    extends CfpBound P w.state, CfpHistory w where
  unique : ∀ id id', w.state.proposalCfpIdHash id ≠ 0 →
    w.state.cfpBinding id = w.state.cfpBinding id' → id = id'
  inverse : ∀ (cfpIdHash : Bytes32) (revision : Uint 32), Set.InjOn P.keccak256
      (insert (abiEncode [cfpIdHash, revision]) (revisionPreimages w.state)) →
    ∀ id, id ≠ 0 → (w.state.cfpProposalId (cfpRevisionKey P cfpIdHash revision) = id ↔
      cfpIdHash ≠ 0 ∧ w.state.cfpBinding id = (cfpIdHash, revision))

theorem Observable.cfpSafe {w : GovernorWorld} (h : Observable P d w) : CfpSafe P w :=
  { h.cfpBound, h.cfpHistory with
    unique := fun id id' hid hbinding ↦ by
      obtain ⟨hidHash, hrevision⟩ := Prod.mk.inj hbinding
      have hkey := h.cfpBound.key_of_bound id hid
      have hkey' := h.cfpBound.key_of_bound id' (hidHash ▸ hid)
      rw [hidHash, hrevision] at hkey
      exact hkey.symm.trans hkey'
    inverse := fun _ _ hinj _ hid ↦ h.cfpBound.inverse hinj hid }

/-- In every run the bindings are safe, what a registration has fixed stays, and a registration that
fails changes nothing, whether it comes in a transaction or from inside one. -/
theorem cfp_bindings_safe :
    (∀ w, Observable P d w → CfpSafe P w) ∧
    (∀ w w', Observable P d w → ReflTransGen (contract P d).Micro w w' → ∀ id,
      (w.state.proposals id).sessionId ≠ 0 →
      (w'.state.proposals id).terms = (w.state.proposals id).terms ∧
        w'.state.cfpBinding id = w.state.cfpBinding id) ∧
    (∀ (w : GovernorWorld) (tx : GovernorTx), tx.op.registration.isSome →
      (∀ o, (contract P d).call tx.block tx.msg tx.op w.state ≠ .ok o) →
      (contract P d).transact tx w = { w with block := tx.block }) ∧
    ∀ (w : GovernorWorld) msg (op : Op) inner success rest, op.registration.isSome →
      (∀ o, (contract P d).call w.block msg op w.state ≠ .ok o) →
      (contract P d).runCalls (.cons msg op inner success rest) w =
        (contract P d).runCalls rest w := by
  refine ⟨fun w hw ↦ hw.cfpSafe, fun w w' hw hrun id hreg ↦ hw.registered_stays hrun hreg,
    fun w tx _ hfails ↦ ?_, fun w msg op inner success rest _ hfails ↦ ?_⟩
  · obtain ⟨e, he⟩ : ∃ e, (contract P d).attempt tx.msg tx.op tx.inner tx.success
        { w with block := tx.block } = .error e := Contract.attempt_error_of_call hfails
    exact Contract.transact_of_error he
  · obtain ⟨e, he⟩ : ∃ e, (contract P d).attempt msg op inner success w = .error e :=
      Contract.attempt_error_of_call hfails
    exact Contract.runCalls_cons_of_error he

/-- With one proposal there is one revision to bind. -/
theorem CfpBound.preimages_subset {s : State} (hs : CfpBound P s)
    (hcount : (s.proposalCount : ℕ) = 1) :
    revisionPreimages s ⊆ {abiEncode [s.proposalCfpIdHash 1, s.proposalCfpRevision 1]} := by
  intro x hx
  obtain ⟨id, hid, hencoded⟩ := hx
  have hle : (id : ℕ) ≤ 1 := by
    by_contra hlt
    exact hid (hs.blank id (by omega))
  have hne : id ≠ 0 := fun hzero ↦ hid (hzero ▸ hs.zero_unbound)
  have hpos := Uint.pos_of_ne_zero hne
  have hone : id = 1 := Fin.ext (le_antisymm hle hpos)
  rw [hone] at hencoded
  exact hencoded

namespace Sample

/-- The revision that is already bound, once more. -/
def repeatedRevision : GovernorTx := tx 1000 admin (.registerCfpProposal 5 1 params)

end Sample

/-- The one proposal of a session keeps its revision through its vote, and the revision is not taken
twice. -/
theorem cfp_bindings_safe_sample :
    (Sample.after Sample.preparation).state.cfpProposalId
        (cfpRevisionKey Sample.primitives 5 1) = 1 ∧
    (Sample.after (Sample.preparation ++ Sample.approval)).state.cfpBinding 1 = (5, 1) ∧
    (contract Sample.primitives Sample.deployment).transact Sample.repeatedRevision
        (Sample.after Sample.preparation) =
      { Sample.after Sample.preparation with block := Sample.repeatedRevision.block } := by
  obtain ⟨hsafe, hstays, hfails, -⟩ :=
    cfp_bindings_safe (P := Sample.primitives) (d := Sample.deployment)
  have hreach : Reachable Sample.primitives Sample.deployment (Sample.after Sample.preparation) :=
    Sample.reachable_after (by decide)
  have hbinding : (Sample.after Sample.preparation).state.cfpBinding 1 = (5, 1) := by
    decide +kernel
  have hcfp := hsafe _ hreach.observable
  refine ⟨(hcfp.inverse 5 1 ?_ 1 (by decide)).mpr ⟨by decide, hbinding⟩, ?_,
    hfails _ _ rfl (ne_ok_of_isOk (by decide +kernel))⟩
  · have honly := hcfp.toCfpBound.preimages_subset (by decide +kernel)
    obtain ⟨hidHash, hrevision⟩ := Prod.mk.inj hbinding
    rw [hidHash, hrevision] at honly
    exact Set.InjOn.mono (Set.insert_subset (Set.mem_singleton _) honly) (Set.injOn_singleton _ _)
  · have hvote : (contract Sample.primitives Sample.deployment).Reaches
        (Sample.after Sample.preparation)
        (Sample.after (Sample.preparation ++ Sample.approval)) :=
      Sample.reaches_after (by decide +kernel)
    have hkept := hstays _ _ hreach.observable hvote.micro 1 (by decide +kernel)
    exact hkept.2.trans hbinding

end CreatorFirst.Governor
