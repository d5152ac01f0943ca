import CreatorFirst.Registration.Machine
import CreatorFirst.Creators.Registry

/-!
# When the early supporter rule keeps its answers

The registry never changes the time at which a creator was registered, but a mapper may link a scope
anew. The time reported for a scope stays in a run exactly as long as no link moves it to a creator
with another time.
-/

namespace CreatorFirst.Registration

open Chain Relation

variable {P : Primitives} {d : Deployment} {b : Block} {s s' : System} {creatorScopeId : Bytes32}

/-! ## Times in the registry -/

/-- Only ids that were given out carry a time. -/
def Dated (s : Creators.State) : Prop := ∀ i, ¬ s.Registered i → (s.creators i).registeredAt = 0

theorem dated_initial {r : Creators.Deployment} : Dated (Creators.initialState P r) :=
  fun _ _ ↦ rfl

/-- A call gives at most one id out, and leaves the times of all others. -/
theorem registeredAt_of_effect {sender : Address} {r r' : Creators.State}
    (h : Creators.Effect b sender r r') :
    (∀ i, r.Registered i → r'.Registered i) ∧
      ∀ i, ¬ r.Registered i ∧ r'.Registered i ∨
        (r'.creators i).registeredAt = (r.creators i).registeredAt := by
  cases h with
  | administer r' h =>
    refine ⟨fun i hi ↦ ?_, fun i ↦ .inr (by rw [h.creators])⟩
    rw [Creators.State.Registered, h.creatorCount]
    exact hi
  | register commitment payoutAddress id hcommitment haccount hfree hid =>
    have hnext : r.creatorCount < id := Fin.lt_def.mpr (by omega)
    refine ⟨fun i hi ↦ ⟨hi.1, hi.2.trans hnext.le⟩, fun i ↦ ?_⟩
    by_cases hi : i = id
    · refine .inl ⟨fun hold ↦ ?_, ?_, hi.le⟩
      · exact absurd (hi ▸ hold.2) hnext.not_ge
      · rintro rfl
        rw [← hi, Fin.val_zero] at hid
        omega
    · exact .inr (congrArg Creators.Creator.registeredAt (Function.update_of_ne hi _ _))
  | updateCommitment newCommitment id =>
    refine ⟨fun _ hi ↦ hi, fun i ↦ .inr ?_⟩
    rw [Creators.field_update Creators.Creator.registeredAt, Function.update_eq_self]
  | contact id c hne hid hc =>
    refine ⟨fun _ hi ↦ hi, fun i ↦ .inr ?_⟩
    rw [Creators.field_update Creators.Creator.registeredAt, hc.registeredAt,
      Function.update_eq_self]
  | declare metadata rights id next count =>
    refine ⟨fun _ hi ↦ hi, fun i ↦ .inr ?_⟩
    rw [Creators.field_update Creators.Creator.registeredAt, Function.update_eq_self]
  | withdraw => exact ⟨fun _ hi ↦ hi, fun _ ↦ .inr rfl⟩

theorem Dated.effect {sender : Address} {r r' : Creators.State} (hr : Dated r)
    (h : Creators.Effect b sender r r') :
    Dated r' ∧ ∀ i, (r.creators i).registeredAt ≠ 0 →
      (r'.creators i).registeredAt = (r.creators i).registeredAt := by
  obtain ⟨hregistered, htimes⟩ := registeredAt_of_effect h
  constructor
  · intro i hi
    obtain ⟨-, hnew⟩ | htime := htimes i
    · exact absurd hnew hi
    · exact htime.trans (hr i fun hold ↦ hi (hregistered i hold))
  · intro i hi
    obtain ⟨hold, -⟩ | htime := htimes i
    · exact absurd (hr i hold) hi
    · exact htime

/-! ## One transaction -/

/-- The time that the adapter reports for a scope, zero while there is none. -/
def System.time (s : System) (creatorScopeId : Bytes32) : Uint 64 := (s.reported creatorScopeId).1

theorem System.time_eq (s : System) (creatorScopeId : Bytes32) :
    s.time creatorScopeId =
      if s.adapter.creatorIdByScope creatorScopeId = 0 then 0
      else (s.registry.creators (s.adapter.creatorIdByScope creatorScopeId)).registeredAt := by
  unfold System.time System.reported initialRegistration
  dsimp only
  split <;> rfl

variable (P) in
/-- The transaction is a link, which the adapter accepts, of a scope that has a time to a creator with
another one. -/
structure Rewrites (tx : RegistrationTx) (s : System) (creatorScopeId : Bytes32)
    (creatorId : Uint 256) : Prop where
  op : tx.op = .adapter (.linkCreatorScope creatorScopeId creatorId)
  value : tx.msg.value = 0
  mapper : s.adapter.roles (MAPPER_ROLE P) tx.msg.sender = true
  scope_ne : creatorScopeId ≠ 0
  registered : (s.registry.creators creatorId).registeredAt ≠ 0
  dated : s.time creatorScopeId ≠ 0
  moved : (s.registry.creators creatorId).registeredAt ≠ s.time creatorScopeId

theorem linkCreatorScope_eq_ok {sender : Address} {creatorId : Uint 256}
    {creators : Uint 256 → Creators.Creator} {a a' : Adapter} :
    linkCreatorScope P sender creatorScopeId creatorId creators a = .ok a' ↔
      a.roles (MAPPER_ROLE P) sender = true ∧ creatorScopeId ≠ 0 ∧
        (creators creatorId).registeredAt ≠ 0 ∧
        a' = { a with
          creatorIdByScope := Function.update a.creatorIdByScope creatorScopeId creatorId } := by
  simp only [linkCreatorScope, Roles.checkRole, bind_eq_ok, mapError_eq_ok, revertIf_eq_ok,
    pure_eq_ok, Bool.not_eq_false]
  constructor
  · rintro ⟨_, hrole, _, hscope, _, htime, rfl⟩
    exact ⟨hrole, hscope, htime, rfl⟩
  · rintro ⟨hrole, hscope, htime, rfl⟩
    exact ⟨(), hrole, (), hscope, (), htime, rfl⟩

/-- What one call can do: the registry takes a step, the adapter's roles change, or a scope is
linked. -/
inductive Effect (P : Primitives) (b : Block) (msg : Msg) (s : System) : Op → System → Prop
  | registry (op : Creators.Op) (r : Creators.State)
      (h : Creators.Effect b msg.sender s.registry r) :
      Effect P b msg s (.registry op) { s with registry := r }
  | access (op : RoleOp) (roles : Roles) :
      Effect P b msg s (.adapter (.access op)) { s with adapter := { s.adapter with roles } }
  | link (creatorScopeId : Bytes32) (creatorId : Uint 256) (hvalue : msg.value = 0)
      (hmapper : s.adapter.roles (MAPPER_ROLE P) msg.sender = true) (hscope : creatorScopeId ≠ 0)
      (hregistered : (s.registry.creators creatorId).registeredAt ≠ 0) :
      Effect P b msg s (.adapter (.linkCreatorScope creatorScopeId creatorId))
        { s with adapter := { s.adapter with
          creatorIdByScope :=
            Function.update s.adapter.creatorIdByScope creatorScopeId creatorId } }

theorem effect_of_call {msg : Msg} {op : Op} {o : Outcome System Empty}
    (h : call P b msg s op = .ok o) : Effect P b msg s op o.state := by
  cases op with
  | registry op =>
    obtain ⟨r, hr, h⟩ := bind_eq_ok.mp h
    obtain ⟨-, hr⟩ := revertIf_bind_eq_ok.mp (mapError_eq_ok.mp hr)
    obtain ⟨s', hs', hr⟩ := bind_eq_ok.mp hr
    obtain rfl := pure_eq_ok.mp hr
    obtain rfl := pure_eq_ok.mp h
    exact .registry op s' (Creators.Op.effect hs')
  | adapter op =>
    obtain ⟨hvalue, h⟩ := revertIf_bind_eq_ok.mp h
    obtain ⟨a, ha, h⟩ := bind_eq_ok.mp h
    obtain rfl := pure_eq_ok.mp h
    rw [mapError_eq_ok] at ha
    cases op with
    | access op =>
      obtain ⟨roles, -, ha⟩ := bind_eq_ok.mp ha
      obtain rfl := pure_eq_ok.mp ha
      exact .access op roles
    | linkCreatorScope scope creatorId =>
      obtain ⟨hmapper, hscope, hregistered, rfl⟩ := linkCreatorScope_eq_ok.mp ha
      exact .link scope creatorId (not_not.mp hvalue) hmapper hscope hregistered

theorem Effect.dated {msg : Msg} {op : Op} (hs : Dated s.registry) (h : Effect P b msg s op s') :
    Dated s'.registry := by
  cases h with
  | registry op r h => exact (hs.effect h).1
  | access op roles => exact hs
  | link scope creatorId hvalue hmapper hscope hregistered => exact hs

/-- A call that is no rewriting link of the scope keeps its time. -/
theorem Effect.time_eq {tx : RegistrationTx} (hs : Dated s.registry)
    (h : Effect P tx.block tx.msg s tx.op s') (htime : s.time creatorScopeId ≠ 0)
    (hkeep : ∀ creatorId, ¬ Rewrites P tx s creatorScopeId creatorId) :
    s'.time creatorScopeId = s.time creatorScopeId := by
  generalize hop : tx.op = op at h
  cases h with
  | registry op r h =>
    obtain ⟨-, hkeeps⟩ := hs.effect h
    rw [System.time_eq] at htime ⊢
    rw [System.time_eq]
    dsimp only
    split
    · rfl
    · next hlinked =>
      rw [if_neg hlinked] at htime
      exact hkeeps _ htime
  | access op roles => rfl
  | link scope creatorId hvalue hmapper hscope hregistered =>
    by_cases hsame : creatorScopeId = scope
    · subst hsame
      have hne : creatorId ≠ 0 := fun hzero ↦
        hregistered (hs creatorId fun hcreator ↦ hcreator.1 hzero)
      have hequal : (s.registry.creators creatorId).registeredAt = s.time creatorScopeId := by
        by_contra hmoved
        exact hkeep creatorId ⟨hop, hvalue, hmapper, hscope, hregistered, htime, hmoved⟩
      calc System.time _ creatorScopeId
          = (s.registry.creators creatorId).registeredAt := by
            rw [System.time_eq]
            simp [hne]
        _ = s.time creatorScopeId := hequal
    · rw [System.time_eq, System.time_eq]
      simp [Function.update_of_ne hsame]

/-- A rewriting link is accepted, and moves the time. -/
theorem Rewrites.call {tx : RegistrationTx} {creatorId : Uint 256} (hs : Dated s.registry)
    (h : Rewrites P tx s creatorScopeId creatorId) :
    ∃ s', call P tx.block tx.msg s tx.op = .ok (.done s') ∧
      s'.time creatorScopeId ≠ s.time creatorScopeId := by
  have hne : creatorId ≠ 0 := fun hzero ↦
    h.registered (hs creatorId fun hcreator ↦ hcreator.1 hzero)
  have hlink := linkCreatorScope_eq_ok.mpr ⟨h.mapper, h.scope_ne, h.registered, rfl⟩
  let adapter : Adapter := { s.adapter with
    creatorIdByScope := Function.update s.adapter.creatorIdByScope creatorScopeId creatorId }
  refine ⟨{ s with adapter }, ?_, ?_⟩
  · rw [h.op, Registration.call, revertIf_bind, if_neg (not_not.mpr h.value), AdapterOp.apply, hlink]
    rfl
  · rw [System.time_eq]
    simp only [adapter, Function.update_self, if_neg hne]
    exact h.moved

/-! ## Whole runs -/

/-- From the first world to the second the time of the scope stays once there is one, and so does
every answer about a supporter. -/
structure Stable (creatorScopeId : Bytes32) (v w : RegistrationWorld) : Prop where
  time : v.state.time creatorScopeId ≠ 0 →
    w.state.time creatorScopeId = v.state.time creatorScopeId
  answers : ∀ supporterRegisteredAt answer answer',
    qualifiesAt v.state.reported creatorScopeId supporterRegisteredAt = .ok answer →
    qualifiesAt w.state.reported creatorScopeId supporterRegisteredAt = .ok answer' →
    answer' = answer

theorem qualifiesAt_eq_ok {supporterRegisteredAt : Uint 64} {answer : Bool} :
    qualifiesAt s.reported creatorScopeId supporterRegisteredAt = .ok answer ↔
      (s.reported creatorScopeId).2.1 = true ∧ s.time creatorScopeId ≠ 0 ∧
        s.time creatorScopeId ≤ supporterRegisteredAt ∧
        answer = decide ((supporterRegisteredAt : ℕ) <
          (s.time creatorScopeId : ℕ) + WINDOW_SECONDS) := by
  simp only [qualifiesAt, revertIf_bind_eq_ok, pure_eq_ok, not_or, Bool.not_eq_false, not_lt,
    and_assoc]
  exact and_congr_right' (and_congr_right' (and_congr_right' eq_comm))

/-- Answers depend on the time alone. -/
theorem Stable.of_time {v w : RegistrationWorld} (h : v.state.time creatorScopeId ≠ 0 →
    w.state.time creatorScopeId = v.state.time creatorScopeId) : Stable creatorScopeId v w where
  time := h
  answers S answer answer' hanswer hanswer' := by
    obtain ⟨-, hdated, -, rfl⟩ := qualifiesAt_eq_ok.mp hanswer
    obtain ⟨-, -, -, rfl⟩ := qualifiesAt_eq_ok.mp hanswer'
    rw [h hdated]

/-- Once the window of a scope has closed it stays closed. -/
theorem Stable.closed {v w : RegistrationWorld} (h : Stable creatorScopeId v w)
    (hle : v.block.timestamp ≤ w.block.timestamp) (hw : w.block.timestamp < 2 ^ 64)
    (hclosed : qualifiesNow v.block v.state.reported creatorScopeId = .ok false) :
    qualifiesNow w.block w.state.reported creatorScopeId ≠ .ok true := by
  intro hopen
  obtain ⟨-, hdated, -, hlate⟩ := qualifiesAt_eq_ok.mp hclosed
  obtain ⟨-, -, -, hearly⟩ := qualifiesAt_eq_ok.mp hopen
  have hlate := of_decide_eq_false hlate.symm
  have hearly := of_decide_eq_true hearly.symm
  rw [h.time hdated] at hearly
  simp only [Uint.truncate, Nat.mod_eq_of_lt hw, Nat.mod_eq_of_lt (hle.trans_lt hw)] at hlate hearly
  omega

variable (P d b) in
/-- The world after a list of transactions. -/
def after (txs : List RegistrationTx) : RegistrationWorld := (contract P).run txs (genesis P d b)

theorem after_concat (txs : List RegistrationTx) (tx : RegistrationTx) :
    after P d b (txs ++ [tx]) = (contract P).transact tx (after P d b txs) :=
  Contract.run_concat txs tx _

/-- A transaction reverts, or it has one of the effects. -/
theorem transact_cases (tx : RegistrationTx) (w : RegistrationWorld) :
    ((contract P).transact tx w).state = w.state ∨
      Effect P tx.block tx.msg w.state tx.op ((contract P).transact tx w).state := by
  rw [Contract.transact_of_isEmpty]
  split
  · exact .inl rfl
  · next o ho =>
    rw [World.log_eq]
    exact .inr (effect_of_call ho)

theorem dated_after (txs : List RegistrationTx) : Dated (after P d b txs).state.registry := by
  induction txs using List.reverseRecOn with
  | nil => exact dated_initial
  | append_singleton txs tx ih =>
    rw [after_concat]
    obtain hsame | heffect := transact_cases tx (after P d b txs)
    · rw [hsame]
      exact ih
    · exact heffect.dated ih

/-- In a run the time and the answers of a scope are stable if and only if no transaction of the run
is a link, which the adapter accepts, of the scope to a creator with another time than it has. -/
theorem early_answers_stable_iff (txs : List RegistrationTx) :
    (∀ past later, past <+: later → later <+: txs →
        Stable creatorScopeId (after P d b past) (after P d b later)) ↔
      ∀ past tx, past ++ [tx] <+: txs →
        ∀ creatorId, ¬ Rewrites P tx (after P d b past).state creatorScopeId creatorId := by
  constructor
  · intro hstable past tx hprefix creatorId hrewrites
    obtain ⟨s', hcall, hmoved⟩ := hrewrites.call (dated_after past)
    have hkept := (hstable past _ (List.prefix_append past [tx]) hprefix).time hrewrites.dated
    rw [after_concat, Contract.transact_of_isEmpty] at hkept
    rw [show (contract P).call tx.block tx.msg tx.op (after P d b past).state = _ from hcall] at hkept
    exact hmoved hkept
  · rintro hkeeps past later ⟨between, rfl⟩ hprefix
    apply Stable.of_time
    intro hdated
    -- The transactions between the two states, from the first on.
    induction between using List.reverseRecOn with
    | nil => rw [List.append_nil]
    | append_singleton between tx ih =>
      rw [← List.append_assoc] at hprefix ⊢
      have ih := ih ((List.prefix_append _ _).trans hprefix)
      rw [after_concat]
      obtain hsame | heffect := transact_cases tx (after P d b (past ++ between))
      · rw [hsame]
        exact ih
      · have hkept := heffect.time_eq (dated_after _) (ih ▸ hdated) (hkeeps _ tx hprefix)
        exact hkept.trans ih

namespace Sample

def deployment : Deployment where
  registry := Creators.Sample.deployment
  adapter :=
    { self := 0x3001
      admin := Creators.Sample.admin
      registry := Creators.Sample.deployment.self
      admin_ne := Creators.Sample.admin_ne
      registry_ne := by decide }
  bound := rfl

def scope : Bytes32 := 0x5c

/-- A supporter registers 365 days and 20 seconds after the first of the two creators. -/
def supporterRegisteredAt : Uint 64 := 31537020

def tx (timestamp : ℕ) (sender : Address) (op : Op) : RegistrationTx :=
  { block := ⟨timestamp, 80002⟩, msg := ⟨sender, 0⟩, op }

/-- Two creators, and the scope of the first. -/
def linked : List RegistrationTx :=
  [tx 1000 Creators.Sample.creator (.registry (.registerCreator 41 Creators.Sample.creator)),
   tx 1030 Creators.Sample.other (.registry (.registerCreator 42 Creators.Sample.other)),
   tx 1040 Creators.Sample.admin (.adapter (.linkCreatorScope scope 1))]

/-- The mapper moves the scope to the second creator. -/
def relinked : List RegistrationTx :=
  linked ++ [tx 1050 Creators.Sample.admin (.adapter (.linkCreatorScope scope 2))]

def world (txs : List RegistrationTx) : RegistrationWorld :=
  after Creators.Sample.primitives deployment ⟨900, 80002⟩ txs

end Sample

/-- The same supporter is late for the scope and, once the scope is linked anew, early. -/
theorem early_answer_changes :
    Contract.Chronological 900 Sample.relinked ∧ Sample.linked <+: Sample.relinked ∧
      qualifiesAt (Sample.world Sample.linked).state.reported Sample.scope
        Sample.supporterRegisteredAt = .ok false ∧
      qualifiesAt (Sample.world Sample.relinked).state.reported Sample.scope
        Sample.supporterRegisteredAt = .ok true := by
  refine ⟨by decide, List.prefix_append _ _, ?_, ?_⟩
  · exact qualifiesAt_eq_ok.mpr (by decide +kernel)
  · exact qualifiesAt_eq_ok.mpr (by decide +kernel)

end CreatorFirst.Registration
