import CreatorFirst.Governor.Mandate
import CreatorFirst.Legislature.Members
import CreatorFirst.Settlement.Accounting

/-!
# Who is behind an executed proposal

As long as nobody else uses the registrar role to register members, everyone in a House has entered it
through the adapter. Then the mandate of an executed proposal comes from accounts that voted themselves and
that each had paid for a subscription, in the User House, or registered as a creator, in the Creator House.
-/

namespace CreatorFirst.Legislature

open Chain Relation

variable {P : Primitives} {T : Erc20 Address} {d : Deployment} {w w' : LegislatureWorld T}

/-! ## Everybody in a House has entered it -/

theorem memberHouse_of_register {b : Block} {sender : Address} {sessionId : Uint 256} {member : Address}
    {house : Governor.House} {s s' : Governor.State}
    (h : Governor.registerMember P b sender sessionId member house s = .ok s') :
    s.memberHouse sessionId member = .none ∧
      b.timestamp < ((s.sessions sessionId).startsAt : ℕ) ∧
      s'.memberHouse = update₂ s.memberHouse sessionId member house := by
  simp only [Governor.registerMember, Governor.onlyRole_bind_eq_ok, Governor.session_bind_eq_ok,
    revertIf_bind_eq_ok, pure_eq_ok, not_le, not_not, ne_eq] at h
  obtain ⟨-, -, hopen, -, -, hnew, rfl⟩ := h
  exact ⟨hnew, hopen, rfl⟩

/-- A call of the governor keeps everybody's House, or registers a member. -/
theorem memberHouse_of_call {b : Block} {msg : Msg} {op : Governor.Op} {s : Governor.State}
    {o : Outcome Governor.State Governor.TargetCall}
    (h : Governor.call P d.governor b msg op s = .ok o) (sessionId : Uint 256) (member : Address) :
    o.state.memberHouse sessionId member = s.memberHouse sessionId member ∨
      s.memberHouse sessionId member = .none ∧
        op = .plain (.registerMember sessionId member (o.state.memberHouse sessionId member)) := by
  cases op with
  | executeProposal id callData =>
    cases o with
    | done s' =>
      simp only [Governor.call, Governor.executeProposal, bind_eq_ok, pure_eq_ok, reduceCtorEq,
        and_false, exists_false] at h
    | callout s' call =>
      obtain ⟨-, rfl, -⟩ := Governor.executeProposal_ok h
      exact .inl rfl
  | plain op =>
    obtain ⟨-, h⟩ := revertIf_bind_eq_ok.mp h
    obtain ⟨s', hs, h⟩ := bind_eq_ok.mp h
    obtain rfl := pure_eq_ok.mp h
    exact ((Governor.PlainOp.effect hs).memberHouse sessionId member).imp_right
      (And.imp_right (congrArg Governor.Op.plain))

/-- Every member of a House is on record. -/
def AllEnrolled (d : Deployment) (w : LegislatureWorld T) : Prop :=
  ∀ sessionId member, w.state.governor.memberHouse sessionId member ≠ .none →
    Enrolled d w sessionId member

theorem Small.allEnrolled (hrec : Recorded d w) (hw : AllEnrolled d w) (h : Small P d w w') :
    AllEnrolled d w' := by
  intro sessionId member hmember
  cases h with
  | tick => exact (hw sessionId member hmember).mono List.suffix_rfl rfl
  | resume s success hs =>
    obtain ⟨-, hs⟩ := revertIf_bind_eq_ok.mp hs
    obtain rfl := pure_eq_ok.mp hs
    exact (hw sessionId member hmember).mono List.suffix_rfl rfl
  | settlement | registry => exact (hw sessionId member hmember).mono (List.suffix_cons _ _) rfl
  | governor msg op o ho =>
    obtain hsame | ⟨-, hop⟩ := memberHouse_of_call ho sessionId member
    · dsimp only at hmember
      rw [hsame] at hmember
      exact (hw sessionId member hmember).mono (List.suffix_cons _ _) hsame
    · exact ⟨_, _, List.suffix_rfl, .inr (congrArg Op.governor hop)⟩
  | enter msg op id house s hop heligible hs =>
    obtain ⟨hnew, hopen, hmembers⟩ := memberHouse_of_register hs
    by_cases hself : sessionId = id ∧ member = msg.sender
    · obtain ⟨rfl, rfl⟩ := hself
      have hhouse : s.memberHouse sessionId msg.sender = house := by
        rw [hmembers, update₂_apply, if_pos ⟨rfl, rfl⟩]
      refine ⟨_, _, List.suffix_rfl, .inl ?_⟩
      dsimp only
      rw [hhouse]
      exact ⟨⟨hop, rfl, heligible, hnew, hopen⟩, hrec.backed heligible⟩
    · have hsame : s.memberHouse sessionId member = w.state.governor.memberHouse sessionId member := by
        rw [hmembers, update₂_apply, if_neg hself]
      dsimp only at hmember
      rw [hsame] at hmember
      exact (hw sessionId member hmember).mono (List.suffix_cons _ _) hsame

theorem Observable.allEnrolled {t₀ : T.State} (h : Observable P T d t₀ w) : AllEnrolled d w :=
  h.invariant (I := AllEnrolled d) (fun _ _ _ _ hne ↦ absurd rfl hne)
    fun _ _ hv hw hs ↦ hs.allEnrolled hv.recorded hw

/-! ## Executed proposals -/

/-- A call of the governor itself that registers a member. -/
def Op.registersAtGovernor : Op T → Bool
  | .governor (.plain (.registerMember _ _ _)) => true
  | _ => false

/-- No member was registered by a call of the governor itself. -/
def OnlyAdapter (w : LegislatureWorld T) : Prop :=
  ∀ e ∈ w.journal, e.op.registersAtGovernor = false

/-- The member has entered the House through the adapter, backed by an earlier call of its own, and has
cast a ballot on the proposal. -/
structure Speaks (P : Primitives) (d : Deployment) (w : LegislatureWorld T) (id : Uint 256)
    (house : Governor.House) (m : Address) : Prop where
  entered : ∃ e earlier, e :: earlier <:+ w.journal ∧
    Entered (w.state.governor.proposals id).sessionId m house e ∧
      Backed d e.block.timestamp m earlier house
  voted : ∃ e ∈ w.journal, ∃ e', governorEntry d e = some e' ∧ Governor.CastBy P d.governor id m e'

/-- The House's side of an executed proposal: distinct accounts that entered the House by themselves, as
many as the quorum, with a positive sum of their last ballots. -/
structure Backing (P : Primitives) (d : Deployment) (w : LegislatureWorld T) (id : Uint 256)
    (house : Governor.House) (accounts : Finset Address) : Prop where
  quorum : (w.state.governor.sessions (w.state.governor.proposals id).sessionId).quorum house ≤
    accounts.card
  score : 0 < ∑ m ∈ accounts,
    (Governor.lastBallot (governorWorld d w).journal id m).elim 0 Governor.CountedBallot.value
  speaks : ∀ m ∈ accounts, Speaks P d w id house m

theorem Observable.speaks {t₀ : T.State} (hw : Observable P T d t₀ w) (honly : OnlyAdapter w)
    {id : Uint 256} {house : Governor.House} (hhouse : house ≠ .none) {m : Address}
    (hm : m ∈ Governor.voters (governorWorld d w) id house) : Speaks P d w id house m := by
  obtain ⟨hmember, hstands⟩ := Governor.mem_voters.mp hm
  change w.state.governor.memberHouse (w.state.governor.proposals id).sessionId m = house at hmember
  constructor
  · obtain ⟨e, earlier, he, hentered | hdirect⟩ := hw.allEnrolled _ m (hmember ▸ hhouse)
    · rw [hmember] at hentered
      exact ⟨e, earlier, he, hentered⟩
    · have hno := honly e (he.subset List.mem_cons_self)
      rw [hdirect] at hno
      cases hno
  · obtain ⟨e', he', hcast⟩ := hw.governor.castBy_of_standing hstands
    obtain ⟨e, he, hentry⟩ := List.mem_filterMap.mp he'
    exact ⟨e, he, e', hentry, hcast⟩

/-- In every run in which members are registered through the adapter only, an executed proposal is backed
in both Houses by disjoint sets of accounts that voted themselves, entered their House by themselves
before the session, and had each paid for a subscription or registered as a creator before that. -/
theorem executed_backing {t₀ : T.State} (hw : Observable P T d t₀ w) (honly : OnlyAdapter w)
    {id : Uint 256} (hexecuted : (w.state.governor.proposals id).executed = true) :
    ∃ creators users, Disjoint creators users ∧ Backing P d w id .creator creators ∧
      Backing P d w id .user users := by
  obtain ⟨hcreators, husers⟩ := hw.governor.mandate hexecuted
  refine ⟨_, _, ?_, ⟨hcreators.quorum, hcreators.score, fun m hm ↦ hw.speaks honly (by decide) hm⟩,
    ⟨husers.quorum, husers.score, fun m hm ↦ hw.speaks honly (by decide) hm⟩⟩
  rw [Finset.disjoint_left]
  intro m hm hm'
  have hhouse := (Governor.mem_voters.mp hm).1
  rw [(Governor.mem_voters.mp hm').1] at hhouse
  cases hhouse

/-! ## A small legislature

The user has paid and the creator is registered when both register themselves; their session executes a
proposal. -/

namespace Sample

open Governor.Sample (admin creator user)

def primitives : Primitives :=
  { Governor.Sample.primitives with
    keccak256 := fun x ↦ ((Governor.Sample.hashes ++ Settlement.Sample.hashes).lookup x).getD 0 }

def token : Erc20 Address := Settlement.MockJPYC.token primitives

theorem governor_ne : (0x4000 : Address) ≠ 0 := by decide

theorem subscription_ne : (0x2000 : Address) ≠ 0 := by decide

theorem registry_ne : (0x5000 : Address) ≠ 0 := by decide

def deployment : Deployment where
  governor := { Governor.Sample.deployment with self := 0x4000 }
  settlement := Settlement.Sample.deployment
  registry := { Creators.Sample.deployment with self := 0x5000 }
  adapter := ⟨0x6000, 0x4000, 0x2000, 0x5000, governor_ne, subscription_ne, registry_ne⟩
  governor_bound := rfl
  subscription_bound := rfl
  registry_bound := rfl

def tx (timestamp : ℕ) (sender : Address) (op : Op token) : LegislatureTx token :=
  { block := ⟨timestamp, 80002⟩, msg := ⟨sender, 0⟩, op }

def tokenTx (timestamp : ℕ) (sender : Address) (op : Settlement.MockJPYC.Op) : LegislatureTx token :=
  tx timestamp sender (.settlement (.token op))

/-- A transaction of the governor's sample. -/
def governorTx (t : Governor.GovernorTx) : LegislatureTx token :=
  { block := t.block, msg := t.msg, op := .governor t.op }

def registrations : List (LegislatureTx token) :=
  [tokenTx 910 Settlement.Sample.admin (.transfer user 500),
   tokenTx 910 user (.approve 0x2000 500),
   tx 990 user (.settlement (.subscription (.subscribe 71 1))),
   tx 990 creator (.registry (.registerCreator 41 creator)),
   governorTx (Governor.Sample.tx 1000 admin (.createSession 7 1020 2020 10 1 1)),
   governorTx (Governor.Sample.tx 1000 admin
    (.access (.grantRole (Governor.REGISTRAR_ROLE primitives) 0x6000))),
   tx 1000 creator (.registerAsCreator 1),
   tx 1000 user (.registerAsUser 1)]

def history : List (LegislatureTx token) :=
  registrations ++ (Governor.Sample.preparation.drop 3 ++ Governor.Sample.approval ++
    [Governor.Sample.execution]).map governorTx

def supply : token.State := Settlement.MockJPYC.initialState primitives Settlement.Sample.admin 1000

def executed : LegislatureWorld token :=
  (contract primitives token deployment).run history
    (genesis primitives token deployment ⟨900, 80002⟩ supply)

theorem observable_executed : Observable primitives token deployment supply executed :=
  ⟨⟨900, 80002⟩, by decide, (Contract.reaches_run (by decide)).micro⟩

end Sample

theorem Sample.onlyAdapter_executed : OnlyAdapter Sample.executed := by
  have hall : Sample.executed.journal.all (fun e ↦ !e.op.registersAtGovernor) = true := by
    decide +kernel
  intro e he
  simpa using List.all_eq_true.mp hall e he

theorem executed_backing_sample :
    ∃ creators users, Disjoint creators users ∧
      Backing Sample.primitives Sample.deployment Sample.executed 1 .creator creators ∧
      Backing Sample.primitives Sample.deployment Sample.executed 1 .user users :=
  executed_backing Sample.observable_executed Sample.onlyAdapter_executed (by decide +kernel)

end CreatorFirst.Legislature
