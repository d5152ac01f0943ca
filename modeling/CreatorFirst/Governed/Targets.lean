import CreatorFirst.Registration.Machine

/-!
# The contracts that the governor controls

A factory that deploys early supporter policies, one for each salt, and a demonstration policy whose
two parameters can be set. Each accepts its one writing call from the governor alone. Both are called
with raw call data: a call whose selector or arguments do not fit reverts, and so does one with coins.
Events are left out.
-/

namespace CreatorFirst.Governed

open Chain

/-! ## The factory -/

structure Factory where
  deployments : Bytes32 → Address

inductive FactoryError where
  | unauthorized
  | invalidAddress
  | alreadyDeployed (deploymentSalt : Bytes32) (policy : Address)
  | policy (e : Registration.PolicyError)
  | nonPayable
  | unknownCall
  deriving DecidableEq

/-- The factory as its constructor accepted it, with the creation code of the policy that it has been
compiled with. -/
structure FactoryDeployment where
  self : Address
  governor : Address
  creationCode : Bytes
  governor_ne : governor ≠ 0

def checkFactory (governor : Address) : Except FactoryError Unit :=
  revertIf (governor = 0) .invalidAddress

/-- The constructor accepts what a deployment is made of. -/
theorem FactoryDeployment.accepted (d : FactoryDeployment) : checkFactory d.governor = .ok () := by
  simp [checkFactory, revertIf_eq_ok, d.governor_ne]

def initialFactory : Factory := ⟨fun _ ↦ 0⟩

/-- The arguments of a deployment. -/
structure PolicyCall where
  deploymentSalt : Bytes32
  registrationSource : Address
  cfpContentHash : Bytes32
  specificationHash : Bytes32
  deriving DecidableEq

section

variable (P : Primitives) (d : FactoryDeployment)

/-- The address at which a policy is created: the salt and the hash of the creation code decide. -/
def predictPolicyAddress (c : PolicyCall) : Address :=
  let creationCode := d.creationCode ++
    abiEncode [c.registrationSource, c.cfpContentHash, c.specificationHash]
  let digest := P.keccak256 ([0xff] ++ bigEndian 20 d.self ++ bigEndian 32 c.deploymentSalt ++
    bigEndian 32 (P.keccak256 creationCode))
  Uint.truncate 160 digest

/-- The new policy itself is not called here. Its constructor may reject the arguments. -/
def deployPolicy (sender : Address) (c : PolicyCall) (s : Factory) :
    Except FactoryError (Address × Factory) := do
  revertIf (sender ≠ d.governor) .unauthorized
  revertIf (c.registrationSource = 0) .invalidAddress
  let existing := s.deployments c.deploymentSalt
  revertIf (existing ≠ 0) (.alreadyDeployed c.deploymentSalt existing)
  let _ ← (Registration.Policy.deploy c.registrationSource c.cfpContentHash
    c.specificationHash).mapError .policy
  let policy := predictPolicyAddress P d c
  return (policy, { s with deployments := Function.update s.deployments c.deploymentSalt policy })

end

/-- `deployPolicy(bytes32,address,bytes32,bytes32)`. -/
def DEPLOY_POLICY : Bytes := [0x5e, 0xa2, 0x33, 0x9f]

/-- `governor()`, which both contracts have. -/
def GOVERNOR : Bytes := [0x0c, 0x34, 0x0a, 0x24]

/-- `deployments(bytes32)`. -/
def DEPLOYMENTS : Bytes := [0x37, 0x40, 0x40, 0x17]

/-- `predictPolicyAddress(bytes32,address,bytes32,bytes32)`. -/
def PREDICT_POLICY_ADDRESS : Bytes := [0x14, 0xef, 0x9b, 0x54]

inductive FactoryCall where
  | deployPolicy (c : PolicyCall)
  /-- One of the functions that only read. -/
  | view
  deriving DecidableEq

/-- What call data ask the factory for. An address with bits above the 160th is rejected. -/
def decodeFactory (callData : Bytes) : Option FactoryCall :=
  if selector callData = DEPLOY_POLICY ∧ HasArguments 4 callData ∧
      argument callData 1 < 2 ^ 160 then
    some (.deployPolicy
      { deploymentSalt := Uint.truncate 256 (argument callData 0)
        registrationSource := Uint.truncate 160 (argument callData 1)
        cfpContentHash := Uint.truncate 256 (argument callData 2)
        specificationHash := Uint.truncate 256 (argument callData 3) })
  else if selector callData = GOVERNOR ∨
      (selector callData = DEPLOYMENTS ∧ HasArguments 1 callData) ∨
      (selector callData = PREDICT_POLICY_ADDRESS ∧ HasArguments 4 callData ∧
        argument callData 1 < 2 ^ 160) then some .view
  else none

/-- One call of the factory. -/
def callFactory (P : Primitives) (d : FactoryDeployment) (msg : Msg) (callData : Bytes)
    (s : Factory) : Except FactoryError Factory := do
  revertIf (msg.value ≠ 0) .nonPayable
  match decodeFactory callData with
  | none => .error .unknownCall
  | some .view => return s
  | some (.deployPolicy c) => (·.2) <$> deployPolicy P d msg.sender c s

/-! ## The policy -/

structure GovernedPolicy where
  earlySupporterWindowDays : Uint 32
  maxEarlySupporters : Uint 32
  version : Uint 64

inductive GovernedPolicyError where
  | unauthorized
  | invalidPolicy
  | arithmeticPanic
  | nonPayable
  | unknownCall
  deriving DecidableEq

/-- The source's `_setPolicy`. -/
def setPolicy (windowDays earlySupporterLimit : Uint 32) (s : GovernedPolicy) :
    Except GovernedPolicyError GovernedPolicy := do
  revertIf (windowDays = 0 ∨ 365 < windowDays ∨ earlySupporterLimit = 0 ∨
    100000 < earlySupporterLimit) .invalidPolicy
  let version ← Uint.increment .arithmeticPanic s.version
  return ⟨windowDays, earlySupporterLimit, version⟩

/-- What both parameters must satisfy. -/
structure InBounds (windowDays earlySupporterLimit : Uint 32) : Prop where
  window_pos : 0 < (windowDays : ℕ)
  window_le : (windowDays : ℕ) ≤ 365
  limit_pos : 0 < (earlySupporterLimit : ℕ)
  limit_le : (earlySupporterLimit : ℕ) ≤ 100000

/-- The policy as its constructor accepted it. -/
structure PolicyDeployment where
  self : Address
  governor : Address
  initialWindowDays : Uint 32
  initialMaxEarlySupporters : Uint 32
  governor_ne : governor ≠ 0
  inBounds : InBounds initialWindowDays initialMaxEarlySupporters

def deployGovernedPolicy (governor : Address) (initialWindowDays initialMaxEarlySupporters : Uint 32) :
    Except GovernedPolicyError GovernedPolicy := do
  revertIf (governor = 0) .unauthorized
  setPolicy initialWindowDays initialMaxEarlySupporters ⟨0, 0, 0⟩

/-- The storage right after construction. -/
def initialPolicy (d : PolicyDeployment) : GovernedPolicy :=
  ⟨d.initialWindowDays, d.initialMaxEarlySupporters, 1⟩

def setDemoPolicy (d : PolicyDeployment) (sender : Address)
    (windowDays earlySupporterLimit : Uint 32) (s : GovernedPolicy) :
    Except GovernedPolicyError GovernedPolicy := do
  revertIf (sender ≠ d.governor) .unauthorized
  setPolicy windowDays earlySupporterLimit s

/-- `setDemoPolicy(uint32,uint32)`. -/
def SET_DEMO_POLICY : Bytes := [0x67, 0x86, 0x3b, 0xa2]

/-- `earlySupporterWindowDays()`. -/
def EARLY_SUPPORTER_WINDOW_DAYS : Bytes := [0x36, 0xbf, 0x04, 0x41]

/-- `maxEarlySupporters()`. -/
def MAX_EARLY_SUPPORTERS : Bytes := [0xed, 0x17, 0x33, 0xc9]

/-- `version()`. -/
def VERSION : Bytes := [0x54, 0xfd, 0x4d, 0x50]

inductive GovernedPolicyCall where
  | setDemoPolicy (windowDays earlySupporterLimit : Uint 32)
  /-- One of the functions that only read. -/
  | view
  deriving DecidableEq

/-- What call data ask the policy for. Numbers of more than 32 bits are rejected. -/
def decodePolicy (callData : Bytes) : Option GovernedPolicyCall :=
  if selector callData = SET_DEMO_POLICY ∧ HasArguments 2 callData ∧
      argument callData 0 < 2 ^ 32 ∧ argument callData 1 < 2 ^ 32 then
    some (.setDemoPolicy (Uint.truncate 32 (argument callData 0))
      (Uint.truncate 32 (argument callData 1)))
  else if selector callData ∈ [GOVERNOR, EARLY_SUPPORTER_WINDOW_DAYS, MAX_EARLY_SUPPORTERS,
      VERSION] then some .view
  else none

/-- One call of the policy. -/
def callPolicy (d : PolicyDeployment) (msg : Msg) (callData : Bytes) (s : GovernedPolicy) :
    Except GovernedPolicyError GovernedPolicy := do
  revertIf (msg.value ≠ 0) .nonPayable
  match decodePolicy callData with
  | none => .error .unknownCall
  | some .view => return s
  | some (.setDemoPolicy windowDays earlySupporterLimit) =>
    setDemoPolicy d msg.sender windowDays earlySupporterLimit s

/-! ## What the calls do -/

section

variable {P : Primitives} {callData : Bytes} {msg : Msg}

theorem policyDeploy_eq_ok {source : Address} {cfpContentHash specificationHash : Bytes32}
    {policy : Registration.Policy} :
    Registration.Policy.deploy source cfpContentHash specificationHash = .ok policy ↔
      source ≠ 0 ∧ cfpContentHash ≠ 0 ∧ specificationHash ≠ 0 ∧
        policy = ⟨source, cfpContentHash, specificationHash⟩ := by
  simp only [Registration.Policy.deploy, revertIf_bind_eq_ok, pure_eq_ok, not_or, and_assoc]
  exact and_congr_right' (and_congr_right' (and_congr_right' eq_comm))

theorem deployPolicy_eq_ok {d : FactoryDeployment} {sender : Address} {c : PolicyCall}
    {s : Factory} {r : Address × Factory} :
    deployPolicy P d sender c s = .ok r ↔
      sender = d.governor ∧ c.registrationSource ≠ 0 ∧ s.deployments c.deploymentSalt = 0 ∧
        c.cfpContentHash ≠ 0 ∧ c.specificationHash ≠ 0 ∧
        r = (predictPolicyAddress P d c, { s with
          deployments :=
            Function.update s.deployments c.deploymentSalt (predictPolicyAddress P d c) }) := by
  simp only [deployPolicy, revertIf_bind_eq_ok, not_not, ne_eq]
  apply and_congr_right'
  apply and_congr_right
  intro hsource
  apply and_congr_right'
  simp only [bind_eq_ok, mapError_eq_ok, pure_eq_ok, policyDeploy_eq_ok]
  constructor
  · rintro ⟨_, ⟨-, hcfp, hspec, rfl⟩, rfl⟩
    exact ⟨hcfp, hspec, rfl⟩
  · rintro ⟨hcfp, hspec, rfl⟩
    exact ⟨_, ⟨hsource, hcfp, hspec, rfl⟩, rfl⟩

theorem setPolicy_eq_ok {windowDays limit : Uint 32} {s s' : GovernedPolicy} :
    setPolicy windowDays limit s = .ok s' ↔
      InBounds windowDays limit ∧ ∃ version : Uint 64, (version : ℕ) = s.version + 1 ∧
        s' = ⟨windowDays, limit, version⟩ := by
  simp only [setPolicy, revertIf_bind_eq_ok, Uint.increment_bind_eq_ok, pure_eq_ok, not_or, not_lt,
    Fin.le_def]
  constructor
  · rintro ⟨⟨hwindow, hwindowLe, hlimit, hlimitLe⟩, version, hversion, rfl⟩
    exact ⟨⟨Uint.pos_of_ne_zero hwindow, hwindowLe, Uint.pos_of_ne_zero hlimit, hlimitLe⟩, version,
      hversion, rfl⟩
  · rintro ⟨hbounds, version, hversion, rfl⟩
    refine ⟨⟨?_, hbounds.window_le, ?_, hbounds.limit_le⟩, version, hversion, rfl⟩
    · rintro rfl
      exact absurd hbounds.window_pos (lt_irrefl 0)
    · rintro rfl
      exact absurd hbounds.limit_pos (lt_irrefl 0)

/-- The constructor accepts what a deployment is made of. -/
theorem PolicyDeployment.accepted (d : PolicyDeployment) :
    deployGovernedPolicy d.governor d.initialWindowDays d.initialMaxEarlySupporters =
      .ok (initialPolicy d) :=
  revertIf_bind_eq_ok.mpr ⟨d.governor_ne, setPolicy_eq_ok.mpr ⟨d.inBounds, 1, rfl, rfl⟩⟩

theorem callFactory_eq_ok {d : FactoryDeployment} {s s' : Factory} :
    callFactory P d msg callData s = .ok s' ↔
      msg.value = 0 ∧ ((decodeFactory callData = some .view ∧ s' = s) ∨
        ∃ c, decodeFactory callData = some (.deployPolicy c) ∧ msg.sender = d.governor ∧
          c.registrationSource ≠ 0 ∧ s.deployments c.deploymentSalt = 0 ∧ c.cfpContentHash ≠ 0 ∧
          c.specificationHash ≠ 0 ∧ s' = { s with
            deployments := Function.update s.deployments c.deploymentSalt
              (predictPolicyAddress P d c) }) := by
  rw [callFactory, revertIf_bind_eq_ok, not_not]
  apply and_congr_right'
  cases hdecode : decodeFactory callData with
  | none => simp
  | some call =>
    cases call with
    | view =>
      constructor
      · intro h
        exact .inl ⟨rfl, (pure_eq_ok.mp h).symm⟩
      · rintro (⟨-, rfl⟩ | ⟨_, hcall, -⟩)
        · rfl
        · cases hcall
    | deployPolicy c =>
      have hmap : ((·.2) <$> deployPolicy P d msg.sender c s) = .ok s' ↔
          ∃ r, deployPolicy P d msg.sender c s = .ok r ∧ r.2 = s' := by
        cases deployPolicy P d msg.sender c s <;> simp [Functor.map, Except.map]
      simp only [hmap, deployPolicy_eq_ok]
      constructor
      · rintro ⟨r, ⟨hsender, hsource, hfree, hcfp, hspec, rfl⟩, rfl⟩
        exact .inr ⟨c, rfl, hsender, hsource, hfree, hcfp, hspec, rfl⟩
      · rintro (⟨hview, -⟩ | ⟨c', hc, hsender, hsource, hfree, hcfp, hspec, rfl⟩)
        · cases hview
        · obtain rfl := FactoryCall.deployPolicy.inj (Option.some.inj hc)
          exact ⟨_, ⟨hsender, hsource, hfree, hcfp, hspec, rfl⟩, rfl⟩

theorem callPolicy_eq_ok {d : PolicyDeployment} {s s' : GovernedPolicy} :
    callPolicy d msg callData s = .ok s' ↔
      msg.value = 0 ∧ ((decodePolicy callData = some .view ∧ s' = s) ∨
        ∃ windowDays limit, decodePolicy callData = some (.setDemoPolicy windowDays limit) ∧
          msg.sender = d.governor ∧ InBounds windowDays limit ∧
          ∃ version : Uint 64, (version : ℕ) = s.version + 1 ∧
            s' = ⟨windowDays, limit, version⟩) := by
  rw [callPolicy, revertIf_bind_eq_ok, not_not]
  apply and_congr_right'
  cases hdecode : decodePolicy callData with
  | none => simp
  | some call =>
    cases call with
    | view =>
      constructor
      · intro h
        exact .inl ⟨rfl, (pure_eq_ok.mp h).symm⟩
      · rintro (⟨-, rfl⟩ | ⟨_, _, hcall, -⟩)
        · rfl
        · cases hcall
    | setDemoPolicy windowDays limit =>
      simp only [setDemoPolicy, revertIf_bind_eq_ok, not_not, ne_eq, setPolicy_eq_ok]
      constructor
      · rintro ⟨hsender, hbounds, version, hversion, rfl⟩
        exact .inr ⟨windowDays, limit, rfl, hsender, hbounds, version, hversion, rfl⟩
      · rintro (⟨hview, -⟩ | ⟨w', l', hcall, hsender, hbounds, version, hversion, rfl⟩)
        · cases hview
        · obtain ⟨rfl, rfl⟩ := GovernedPolicyCall.setDemoPolicy.inj (Option.some.inj hcall)
          exact ⟨hsender, hbounds, version, hversion, rfl⟩

/-- The call data of a deployment are read as that deployment. -/
theorem decodeFactory_encode (c : PolicyCall) :
    decodeFactory (DEPLOY_POLICY ++ abiEncode [c.deploymentSalt, c.registrationSource,
      c.cfpContentHash, c.specificationHash]) = some (.deployPolicy c) := by
  set ws : List ℕ := [c.deploymentSalt, c.registrationSource, c.cfpContentHash,
    c.specificationHash]
  have hargument : ∀ i (hi : i < ws.length), ws[i] < 2 ^ 256 →
      argument (DEPLOY_POLICY ++ abiEncode ws) i = ws[i] := fun i hi hword ↦
    argument_encode rfl hi hword
  have hsalt : argument (DEPLOY_POLICY ++ abiEncode ws) 0 = c.deploymentSalt :=
    hargument 0 (by simp [ws]) c.deploymentSalt.isLt
  have hsource : argument (DEPLOY_POLICY ++ abiEncode ws) 1 = c.registrationSource :=
    hargument 1 (by simp [ws]) (c.registrationSource.isLt.trans (by norm_num))
  have hcfp : argument (DEPLOY_POLICY ++ abiEncode ws) 2 = c.cfpContentHash :=
    hargument 2 (by simp [ws]) c.cfpContentHash.isLt
  have hspec : argument (DEPLOY_POLICY ++ abiEncode ws) 3 = c.specificationHash :=
    hargument 3 (by simp [ws]) c.specificationHash.isLt
  have hselector : selector (DEPLOY_POLICY ++ abiEncode ws) = DEPLOY_POLICY :=
    List.take_left' rfl
  have hlong : HasArguments 4 (DEPLOY_POLICY ++ abiEncode ws) := by
    rw [HasArguments, List.length_append, length_abiEncode]
    exact le_rfl
  rw [decodeFactory, if_pos ⟨hselector, hlong, by rw [hsource]; exact c.registrationSource.isLt⟩,
    hsalt, hsource, hcfp, hspec]
  simp only [Uint.truncate_self]

/-- The call data of a setting are read as that setting. -/
theorem decodePolicy_encode (windowDays limit : Uint 32) :
    decodePolicy (SET_DEMO_POLICY ++ abiEncode [windowDays, limit]) =
      some (.setDemoPolicy windowDays limit) := by
  have hwindow : argument (SET_DEMO_POLICY ++ abiEncode [(windowDays : ℕ), (limit : ℕ)]) 0 =
      windowDays :=
    argument_encode (i := 0) rfl (by simp) (windowDays.isLt.trans (by norm_num))
  have hlimit : argument (SET_DEMO_POLICY ++ abiEncode [(windowDays : ℕ), (limit : ℕ)]) 1 = limit :=
    argument_encode (i := 1) rfl (by simp) (limit.isLt.trans (by norm_num))
  have hselector : selector (SET_DEMO_POLICY ++ abiEncode [(windowDays : ℕ), (limit : ℕ)]) =
      SET_DEMO_POLICY := List.take_left' rfl
  have hlong : HasArguments 2 (SET_DEMO_POLICY ++ abiEncode [(windowDays : ℕ), (limit : ℕ)]) := by
    rw [HasArguments, List.length_append, length_abiEncode]
    exact le_rfl
  rw [decodePolicy, if_pos ⟨hselector, hlong, by rw [hwindow]; exact windowDays.isLt,
    by rw [hlimit]; exact limit.isLt⟩, hwindow, hlimit]
  simp only [Uint.truncate_self]

end

end CreatorFirst.Governed
