import CreatorFirst.Governed.Executions

/-!
# Targets change only by approved proposals

The deployments of the factory and the parameters of the policy are what the executed proposals asked
for, and nothing else. An execution whose call reverts leaves all three contracts as they were.
-/

namespace CreatorFirst.Governed

open Chain Relation

variable {P : Primitives} {d : Deployment} {w w' : GovernedWorld}

/-! ## What executions ask for -/

/-- The deployment that a call asks the factory for. -/
def deploymentOf (d : Deployment) (c : Governor.TargetCall) : Option PolicyCall :=
  if c.target = d.factory.self then
    match decodeFactory c.callData with
    | some (.deployPolicy p) => some p
    | _ => none
  else none

/-- The parameters that a call asks the policy for. -/
def settingOf (d : Deployment) (c : Governor.TargetCall) : Option (Uint 32 × Uint 32) :=
  if c.target = d.policy.self then
    match decodePolicy c.callData with
    | some (.setDemoPolicy windowDays limit) => some (windowDays, limit)
    | _ => none
  else none

/-- The parameters that executions have asked for, the latest first. -/
def settings (d : Deployment) (journal : List GovernedEntry) : List (Uint 32 × Uint 32) :=
  (executedCalls journal).filterMap (settingOf d)

/-- What a call of an execution leaves: the targets as they were, a new deployment, or new
parameters. -/
inductive Execution (P : Primitives) (d : Deployment) (c : Governor.TargetCall) (t : Targets) :
    Targets → Prop
  | nothing (hdeployment : deploymentOf d c = none) (hsetting : settingOf d c = none) :
      Execution P d c t t
  | deploy (p : PolicyCall) (hdeployment : deploymentOf d c = some p)
      (hsetting : settingOf d c = none) (hfree : t.factory.deployments p.deploymentSalt = 0) :
      Execution P d c t { t with
        factory := ⟨Function.update t.factory.deployments p.deploymentSalt
          (predictPolicyAddress P d.factory p)⟩ }
  | set (windowDays limit : Uint 32) (version : Uint 64) (hdeployment : deploymentOf d c = none)
      (hsetting : settingOf d c = some (windowDays, limit)) (hbounds : InBounds windowDays limit)
      (hversion : (version : ℕ) = t.policy.version + 1) :
      Execution P d c t { t with policy := ⟨windowDays, limit, version⟩ }

theorem settingOf_factory {c : Governor.TargetCall} (h : c.target = d.factory.self) :
    settingOf d c = none :=
  if_neg fun hpolicy ↦ d.factory_ne_policy (h.symm.trans hpolicy)

theorem deploymentOf_policy {c : Governor.TargetCall} (h : c.target = d.policy.self) :
    deploymentOf d c = none :=
  if_neg fun hfactory ↦ d.factory_ne_policy (hfactory.symm.trans h)

theorem execution_of_ok {c : Governor.TargetCall} {t t' : Targets}
    (h : callTarget P d c t = some (.ok t')) : Execution P d c t t' := by
  unfold callTarget at h
  dsimp only at h
  split at h
  · next htarget =>
    obtain ⟨factory, hfactory, rfl⟩ := onFactory_ok (Option.some.inj h)
    obtain ⟨-, ⟨hview, rfl⟩ | ⟨p, hcall, -, -, hfree, -, -, rfl⟩⟩ := callFactory_eq_ok.mp hfactory
    · refine .nothing ?_ (settingOf_factory htarget)
      rw [deploymentOf, if_pos htarget, hview]
    · refine .deploy p ?_ (settingOf_factory htarget) hfree
      rw [deploymentOf, if_pos htarget, hcall]
  · split at h
    · next htarget =>
      obtain ⟨policy, hpolicy, rfl⟩ := onPolicy_ok (Option.some.inj h)
      obtain ⟨-, ⟨hview, rfl⟩ | ⟨windowDays, limit, hcall, -, hbounds, version, hversion, rfl⟩⟩ :=
        callPolicy_eq_ok.mp hpolicy
      · refine .nothing (deploymentOf_policy htarget) ?_
        rw [settingOf, if_pos htarget, hview]
      · refine .set windowDays limit version (deploymentOf_policy htarget) ?_ hbounds hversion
        rw [settingOf, if_pos htarget, hcall]
    · cases h

theorem execution_of_none {c : Governor.TargetCall} {t : Targets}
    (h : callTarget P d c t = none) : Execution P d c t t := by
  unfold callTarget at h
  dsimp only at h
  split at h
  · cases h
  · next hfactory =>
    split at h
    · cases h
    · next hpolicy => exact .nothing (if_neg hfactory) (if_neg hpolicy)

/-- A step leaves the targets and the calls of the journal, or it is an execution. -/
theorem Small.execution (h : Small P d w w') :
    (w'.state.targets = w.state.targets ∧ executedCalls w'.journal = executedCalls w.journal) ∨
      ∃ c, executedCalls w'.journal = c :: executedCalls w.journal ∧
        Execution P d c w.state.targets w'.state.targets := by
  cases h with
  | tick | plain | factory | policy | resume => exact .inl ⟨rfl, rfl⟩
  | outside msg id callData call hcall htarget =>
    exact .inr ⟨call, List.filterMap_cons_some hcall, execution_of_none htarget⟩
  | execute msg id callData call targets hcall htarget =>
    exact .inr ⟨call, List.filterMap_cons_some hcall, execution_of_ok htarget⟩

/-! ## What the targets hold -/

/-- The targets hold what the calls asked for. -/
structure AsAsked (P : Primitives) (d : Deployment) (calls : List Governor.TargetCall)
    (t : Targets) : Prop where
  deployments : ∀ deploymentSalt, t.factory.deployments deploymentSalt =
    ((calls.filterMap (deploymentOf d)).find? fun p ↦ p.deploymentSalt = deploymentSalt).elim 0
      (predictPolicyAddress P d.factory)
  salts_nodup : ((calls.filterMap (deploymentOf d)).map (·.deploymentSalt)).Nodup
  version : (t.policy.version : ℕ) = 1 + (calls.filterMap (settingOf d)).length
  parameters : (t.policy.earlySupporterWindowDays, t.policy.maxEarlySupporters) =
    ((calls.filterMap (settingOf d)).head?).getD
      (d.policy.initialWindowDays, d.policy.initialMaxEarlySupporters)
  inBounds : InBounds t.policy.earlySupporterWindowDays t.policy.maxEarlySupporters

theorem asAsked_initial : AsAsked P d [] ⟨initialFactory, initialPolicy d.policy⟩ :=
  ⟨fun _ ↦ rfl, List.nodup_nil, rfl, rfl, d.policy.inBounds⟩

theorem AsAsked.execution {calls : List Governor.TargetCall} {t t' : Targets}
    {c : Governor.TargetCall} (hcreate : ∀ p, predictPolicyAddress P d.factory p ≠ 0)
    (ht : AsAsked P d calls t) (h : Execution P d c t t') : AsAsked P d (c :: calls) t' := by
  cases h with
  | nothing hdeployment hsetting =>
    obtain ⟨hdeployments, hsalts, hversion, hparameters, hbounds⟩ := ht
    constructor
    · rwa [List.filterMap_cons_none hdeployment]
    · rwa [List.filterMap_cons_none hdeployment]
    · rwa [List.filterMap_cons_none hsetting]
    · rwa [List.filterMap_cons_none hsetting]
    · exact hbounds
  | deploy p hdeployment hsetting hfree =>
    constructor
    · intro salt
      rw [List.filterMap_cons_some hdeployment]
      by_cases hsalt : salt = p.deploymentSalt
      · subst hsalt
        rw [List.find?_cons_of_pos (by simp)]
        exact Function.update_self _ _ _
      · rw [List.find?_cons_of_neg (by simpa using Ne.symm hsalt)]
        exact (Function.update_of_ne hsalt _ _).trans (ht.deployments salt)
    · rw [List.filterMap_cons_some hdeployment, List.map_cons, List.nodup_cons]
      refine ⟨fun hmem ↦ ?_, ht.salts_nodup⟩
      -- A salt that was asked for has an address, which is not zero.
      obtain ⟨q, hq, hsalt⟩ := List.mem_map.mp hmem
      have hfound := ht.deployments p.deploymentSalt
      rw [hfree] at hfound
      cases hfind : (calls.filterMap (deploymentOf d)).find?
          fun q ↦ q.deploymentSalt = p.deploymentSalt with
      | none => simpa [hsalt] using List.find?_eq_none.mp hfind q hq
      | some q' =>
        rw [hfind] at hfound
        exact hcreate q' hfound.symm
    · rw [List.filterMap_cons_none hsetting]
      exact ht.version
    · rw [List.filterMap_cons_none hsetting]
      exact ht.parameters
    · exact ht.inBounds
  | set windowDays limit version hdeployment hsetting hbounds hversion =>
    constructor
    · rw [List.filterMap_cons_none hdeployment]
      exact ht.deployments
    · rw [List.filterMap_cons_none hdeployment]
      exact ht.salts_nodup
    · rw [List.filterMap_cons_some hsetting, List.length_cons]
      change (version : ℕ) = _
      rw [hversion, ht.version, add_assoc]
    · rw [List.filterMap_cons_some hsetting]
      rfl
    · exact hbounds

theorem Observable.asAsked {start : Governor.GovernorWorld}
    (hcreate : ∀ p, predictPolicyAddress P d.factory p ≠ 0) (h : Observable P d start w) :
    AsAsked P d (executedCalls w.journal) w.state.targets := by
  refine run_invariant (I := fun v ↦ AsAsked P d (executedCalls v.journal) v.state.targets)
    (fun v v' _ hv hm ↦ ?_) h.run asAsked_initial
  obtain ⟨htargets, hcalls⟩ | ⟨c, hcalls, hexecution⟩ := (micro_small start hm).1.execution
  · rw [htargets, hcalls]
    exact hv
  · rw [hcalls]
    exact hv.execution hcreate hexecution

/-- An address that a salt has is kept. -/
theorem deployment_stays (h : ReflTransGen (contract P d).Micro w w') {deploymentSalt : Bytes32}
    (hw : w.state.targets.factory.deployments deploymentSalt ≠ 0) :
    w'.state.targets.factory.deployments deploymentSalt =
      w.state.targets.factory.deployments deploymentSalt := by
  refine run_invariant (I := fun v ↦ v.state.targets.factory.deployments deploymentSalt =
    w.state.targets.factory.deployments deploymentSalt) (fun v v' _ hv hm ↦ ?_) h rfl
  obtain ⟨htargets, -⟩ | ⟨c, -, hexecution⟩ :=
    (micro_small ⟨v.block, v.state.governor, []⟩ hm).1.execution
  · rw [htargets]
    exact hv
  · generalize v'.state.targets = t at hexecution ⊢
    cases hexecution with
    | nothing | set => exact hv
    | deploy p hdeployment hsetting hfree =>
      refine Eq.trans (Function.update_of_ne ?_ _ _) hv
      rintro rfl
      exact hw (hv.symm.trans hfree)

/-! ## Calls that revert -/

/-- Reasons for which the factory or the policy rejects the call of an execution. -/
inductive Unacceptable (d : Deployment) (c : Governor.TargetCall) (t : Targets) : Prop
  | deployment (p : PolicyCall) (hcall : deploymentOf d c = some p)
      (hreason : t.factory.deployments p.deploymentSalt ≠ 0 ∨ p.registrationSource = 0 ∨
        p.cfpContentHash = 0 ∨ p.specificationHash = 0)
  | setting (windowDays limit : Uint 32) (hcall : settingOf d c = some (windowDays, limit))
      (hreason : ¬ InBounds windowDays limit)

/-- A call of the factory or the policy returns or reverts. -/
theorem callTarget_isSome {c : Governor.TargetCall} {t : Targets}
    (h : c.target = d.factory.self ∨ c.target = d.policy.self) :
    ∃ r, callTarget P d c t = some r := by
  unfold callTarget
  dsimp only
  split
  · exact ⟨_, rfl⟩
  · next hfactory =>
    rw [if_pos (h.resolve_left hfactory)]
    exact ⟨_, rfl⟩

theorem deploymentOf_eq_some {c : Governor.TargetCall} {p : PolicyCall}
    (h : deploymentOf d c = some p) :
    c.target = d.factory.self ∧ decodeFactory c.callData = some (.deployPolicy p) := by
  unfold deploymentOf at h
  split at h
  · next htarget =>
    split at h
    · next q hcall =>
      obtain rfl := Option.some.inj h
      exact ⟨htarget, hcall⟩
    · cases h
  · cases h

theorem settingOf_eq_some {c : Governor.TargetCall} {windowDays limit : Uint 32}
    (h : settingOf d c = some (windowDays, limit)) :
    c.target = d.policy.self ∧
      decodePolicy c.callData = some (.setDemoPolicy windowDays limit) := by
  unfold settingOf at h
  split at h
  · next htarget =>
    split at h
    · next windowDays' limit' hcall =>
      obtain ⟨rfl, rfl⟩ := Prod.mk.inj (Option.some.inj h)
      exact ⟨htarget, hcall⟩
    · cases h
  · cases h

theorem Unacceptable.reverts {c : Governor.TargetCall} {t : Targets} (h : Unacceptable d c t) :
    ∃ e, callTarget P d c t = some (.error e) := by
  have htarget : c.target = d.factory.self ∨ c.target = d.policy.self := by
    cases h with
    | deployment p hcall => exact .inl (deploymentOf_eq_some hcall).1
    | setting windowDays limit hcall => exact .inr (settingOf_eq_some hcall).1
  obtain ⟨r, hr⟩ := callTarget_isSome (P := P) (t := t) htarget
  cases r with
  | error e => exact ⟨e, hr⟩
  | ok t' =>
    exfalso
    unfold callTarget at hr
    dsimp only at hr
    cases h with
    | deployment p hcall hreason =>
      obtain ⟨htarget, hdecode⟩ := deploymentOf_eq_some hcall
      rw [if_pos htarget] at hr
      obtain ⟨factory, hfactory, -⟩ := onFactory_ok (Option.some.inj hr)
      obtain ⟨-, ⟨hview, -⟩ | ⟨q, hq, -, hsource, hfree, hcfp, hspec, -⟩⟩ :=
        callFactory_eq_ok.mp hfactory
      · rw [hdecode] at hview
        cases hview
      · rw [hdecode] at hq
        obtain rfl := FactoryCall.deployPolicy.inj (Option.some.inj hq)
        obtain htaken | hzero | hzero | hzero := hreason
        · exact htaken hfree
        · exact hsource hzero
        · exact hcfp hzero
        · exact hspec hzero
    | setting windowDays limit hcall hreason =>
      obtain ⟨htarget, hdecode⟩ := settingOf_eq_some hcall
      rw [if_neg fun hfactory ↦ d.factory_ne_policy (hfactory.symm.trans htarget),
        if_pos htarget] at hr
      obtain ⟨policy, hpolicy, -⟩ := onPolicy_ok (Option.some.inj hr)
      obtain ⟨-, ⟨hview, -⟩ | ⟨windowDays', limit', hset, -, hbounds, -⟩⟩ :=
        callPolicy_eq_ok.mp hpolicy
      · rw [hdecode] at hview
        cases hview
      · rw [hdecode] at hset
        obtain ⟨rfl, rfl⟩ := GovernedPolicyCall.setDemoPolicy.inj (Option.some.inj hset)
        exact hreason hbounds

/-- An execution whose call reverts leaves everything as it was. -/
theorem transact_of_reverting {tx : GovernedTx} {op : Governor.Op} {c : Governor.TargetCall}
    {e : TargetError} (hop : tx.op = .governor op) (hcall : callOf w.state.governor op = some c)
    (hreverts : callTarget P d c w.state.targets = some (.error e)) :
    ((contract P d).transact tx w).state = w.state := by
  have hcalls : ∀ o, (contract P d).call tx.block tx.msg tx.op w.state ≠ .ok o := by
    intro o ho
    rw [hop] at ho
    obtain ⟨g, hg, ho⟩ := bind_eq_ok.mp ho
    rw [mapError_eq_ok] at hg
    obtain ⟨plain, s, -, -, hnone⟩ | ⟨id, callData, call, -, -, rfl, hsome⟩ :=
      governorCall_cases hg
    · rw [hcall] at hnone
      cases hnone
    · obtain rfl := Option.some.inj (hcall.symm.trans hsome)
      simp only [hreverts] at ho
      obtain ⟨targets, htargets, -⟩ := finish_eq_ok.mp ho
      cases htargets
  have hattempt : ∃ e, (contract P d).attempt tx.msg tx.op tx.inner tx.success
      { w with block := tx.block } = .error e := Contract.attempt_error_of_call hcalls
  obtain ⟨e', he'⟩ := hattempt
  rw [Contract.transact_of_error he']

/-! ## The result -/

/-- What holds of the governor and its two targets at every point of a run. -/
structure GovernedSafe (P : Primitives) (d : Deployment) (start : Governor.GovernorWorld)
    (w : GovernedWorld) : Prop where
  executed_once : ((executedCalls w.journal).map (·.proposalId)).Nodup
  executed_iff : ∀ id, id ∈ (executedCalls w.journal).map (·.proposalId) ↔
    (w.state.governor.proposals id).executed = true ∧
      (start.state.proposals id).executed = false
  approved : ∀ c ∈ executedCalls w.journal, Approved P start w c
  asAsked : AsAsked P d (executedCalls w.journal) w.state.targets
  kept : ∀ w', ReflTransGen (contract P d).Micro w w' → ∀ deploymentSalt,
    w.state.targets.factory.deployments deploymentSalt ≠ 0 →
      w'.state.targets.factory.deployments deploymentSalt =
        w.state.targets.factory.deployments deploymentSalt
  reverting : ∀ (tx : GovernedTx) op c e, tx.op = .governor op →
    callOf w.state.governor op = some c → callTarget P d c w.state.targets = some (.error e) →
      ((contract P d).transact tx w).state = w.state
  reverts : ∀ c, Unacceptable d c w.state.targets →
    ∃ e, callTarget P d c w.state.targets = some (.error e)

/-- Provided creation never gives the zero address, the targets change only by executed proposals
that both Houses approved: one for each salt of the factory and one for each version of the policy
after the first, whose parameters are those of the latest. -/
theorem governed_targets_safe {start : Governor.GovernorWorld}
    (hcreate : ∀ p, predictPolicyAddress P d.factory p ≠ 0) (h : Observable P d start w) :
    GovernedSafe P d start w where
  executed_once := h.executed.1
  executed_iff := h.executed.2
  approved _ hc := h.approved hc
  asAsked := h.asAsked hcreate
  kept _ hr _ hne := deployment_stays hr hne
  reverting _ _ _ _ hop hcall hreverts := transact_of_reverting hop hcall hreverts
  reverts _ hc := hc.reverts

/-! ## A small run

The Houses approve the deployment of a policy, which is executed. -/

namespace Sample

open Governor.Sample (admin creator user tx)

def callData : Bytes := DEPLOY_POLICY ++ abiEncode [0x51, 0x3001, 11, 12]

def callDataHash : Bytes32 := 0x35ae0592347bbf70c31ab5d17c9a48e94bf4838416490bdfedf0a2aaca648f26

/-- A stand-in for the creation code that a compiler writes. -/
def creationCode : Bytes := [0x60]

def codeHash : Bytes32 := 0x6ec6956a31a3386a54a48869667d0a7b568c1b8e9625b8316973f21ec4ecfcfe

def hashes : List (Bytes × Bytes32) :=
  (callData, callDataHash) ::
  (creationCode ++ abiEncode [0x3001, 11, 12], codeHash) ::
  ([0xff] ++ bigEndian 20 99 ++ bigEndian 32 0x51 ++ bigEndian 32 codeHash,
    0x786a4ea1138bc78a3e66e5377a908d25612e86202621c14ab3ce34aacac61bda) ::
  Governor.Sample.hashes

def primitives : Primitives where
  keccak256 x := (hashes.lookup x).getD 1
  recover _ _ := none
  verifyProof _ _ _ := false

theorem governor_ne : (0x1000 : Address) ≠ 0 := by decide

def deployment : Deployment where
  governor := Governor.Sample.deployment
  factory :=
    { self := 99
      governor := 0x1000
      creationCode
      governor_ne }
  policy :=
    { self := 98
      governor := 0x1000
      initialWindowDays := 90
      initialMaxEarlySupporters := 1000
      governor_ne
      inBounds := ⟨by decide, by decide, by decide, by decide⟩ }
  factory_bound := rfl
  policy_bound := rfl
  factory_ne_policy := by decide

/-- What the governor goes through before the targets are deployed, with the deployment of a policy as
its proposal. -/
def preparation : List Governor.GovernorTx :=
  Governor.Sample.preparation.set 3
    (tx 1000 admin (.registerCfpProposal 5 1 { Governor.Sample.params with callDataHash }))

def approval : List Governor.GovernorTx :=
  Governor.Sample.approval.set 4
    (tx 1120 admin (.recordContractTestEvidence 1 32 33 34 35 callDataHash true))

def start : Governor.GovernorWorld :=
  (Governor.contract primitives deployment.governor).run (preparation ++ approval)
    (Governor.genesis primitives deployment.governor ⟨900, 80002⟩)

def executed : GovernedWorld :=
  (contract primitives deployment).run
    [{ block := ⟨1300, 80002⟩, msg := ⟨user, 0⟩, op := .governor (.executeProposal 1 callData) }]
    (genesis deployment start)

theorem observable_executed : Observable primitives deployment start executed where
  start_reachable := Governor.Reachable.run (by decide)
  run := (Contract.reaches_run (by decide +kernel)).micro

theorem predictPolicyAddress_ne (p : PolicyCall) :
    predictPolicyAddress primitives deployment.factory p ≠ 0 := by
  have hhash : ∀ x, Uint.truncate 160 (primitives.keccak256 x) ≠ 0 := by
    intro x
    have hall : ∀ h ∈ hashes.map (·.2), Uint.truncate 160 h ≠ 0 := by decide +kernel
    change Uint.truncate 160 ((hashes.lookup x).getD 1 : Bytes32) ≠ 0
    cases hlookup : hashes.lookup x with
    | none => decide
    | some h =>
      obtain ⟨before, behind, hsplit, -⟩ := List.lookup_eq_some_iff.mp hlookup
      apply hall h
      rw [hsplit]
      exact List.mem_map.mpr ⟨(x, h), List.mem_append_right _ List.mem_cons_self, rfl⟩
  exact hhash _

end Sample

/-- The salt of the sample has the address that its approved proposal asked for. -/
theorem governed_targets_safe_sample :
    GovernedSafe Sample.primitives Sample.deployment Sample.start Sample.executed ∧
      Sample.executed.state.targets.factory.deployments 0x51 ≠ 0 :=
  ⟨governed_targets_safe Sample.predictPolicyAddress_ne Sample.observable_executed,
    by decide +kernel⟩

end CreatorFirst.Governed
