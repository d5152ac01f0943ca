import CreatorFirst.Creators.Registry
import CreatorFirst.Governor.Steps
import CreatorFirst.Legislature.Machine
import CreatorFirst.Settlement.Effects

/-!
# How members entered their House

Whatever the contracts do together is a run of the governor, to which the adapter speaks as a registrar.
Every member of a House was registered by a call on record: one that was sent to the governor itself, or
the member's own call of the adapter at a time when it was eligible. Behind the latter stands an earlier
call of the member: a payment whose paid time had not ended, or the registration of a creator.
-/

namespace CreatorFirst.Legislature

open Chain Relation

variable {P : Primitives} {T : Erc20 Address} {d : Deployment} {w w' : LegislatureWorld T}

/-! ## One step -/

/-- The session and House for which an operation of the adapter registers its caller. -/
def Op.entering : Op T → Option (Uint 256 × Governor.House)
  | .registerAsUser sessionId => some (sessionId, .user)
  | .registerAsCreator sessionId => some (sessionId, .creator)
  | .governor _ | .settlement _ | .registry _ => none

/-- Who may enter a House. -/
def Eligible (b : Block) (s : System T) (account : Address) : Governor.House → Prop
  | .user => Settlement.isActive b account s.settlement.subscription = true
  | .creator => s.registry.creatorIdByAccount account ≠ 0 ∧
      (s.registry.creators (s.registry.creatorIdByAccount account)).account = account ∧
      (s.registry.creators (s.registry.creatorIdByAccount account)).active = true
  | .none => False

/-- The steps of the contracts together. -/
inductive Small (P : Primitives) (d : Deployment) (w : LegislatureWorld T) : LegislatureWorld T → Prop
  | tick (b : Block) (h : w.block.timestamp ≤ b.timestamp) : Small P d w { w with block := b }
  | governor (msg : Msg) (op : Governor.Op) (o : Outcome Governor.State Governor.TargetCall)
      (h : Governor.call P d.governor w.block msg op w.state.governor = .ok o) :
      Small P d w ⟨w.block, { w.state with governor := o.state },
        ⟨w.block, msg, .governor op, w.state, o.frame?⟩ :: w.journal⟩
  | settlement (msg : Msg) (op : Settlement.Op T) (s : Settlement.System T)
      (h : Settlement.Effect P T d.settlement w.block msg.sender w.state.settlement op s) :
      Small P d w ⟨w.block, { w.state with settlement := s },
        ⟨w.block, msg, .settlement op, w.state, none⟩ :: w.journal⟩
  | registry (msg : Msg) (op : Creators.Op) (s : Creators.State)
      (h : op.apply P w.block msg.sender w.state.registry = .ok s) :
      Small P d w ⟨w.block, { w.state with registry := s },
        ⟨w.block, msg, .registry op, w.state, none⟩ :: w.journal⟩
  | enter (msg : Msg) (op : Op T) (sessionId : Uint 256) (house : Governor.House)
      (s : Governor.State) (hop : op.entering = some (sessionId, house))
      (heligible : Eligible w.block w.state msg.sender house)
      (h : Governor.registerMember P w.block d.adapter.self sessionId msg.sender house
        w.state.governor = .ok s) :
      Small P d w ⟨w.block, { w.state with governor := s },
        ⟨w.block, msg, op, w.state, none⟩ :: w.journal⟩
  | resume (s : Governor.State) (success : Bool)
      (h : Governor.afterTargetCall success w.state.governor = .ok s) :
      Small P d w { w with state := { w.state with governor := s } }

theorem registerAsUser_eq_ok {b : Block} {sender : Address} {sessionId : Uint 256} {s s' : System T} :
    registerAsUser P d b sender sessionId s = .ok s' ↔
      Eligible b s sender .user ∧ ∃ governor, Governor.registerMember P b d.adapter.self sessionId
        sender .user s.governor = .ok governor ∧ { s with governor } = s' := by
  simp only [registerAsUser, bind_eq_ok, revertIf_eq_ok, exists_const, mapError_eq_ok, pure_eq_ok,
    Eligible, Bool.not_eq_false]

theorem registerAsCreator_eq_ok {b : Block} {sender : Address} {sessionId : Uint 256}
    {s s' : System T} :
    registerAsCreator P d b sender sessionId s = .ok s' ↔
      Eligible b s sender .creator ∧ ∃ governor, Governor.registerMember P b d.adapter.self sessionId
        sender .creator s.governor = .ok governor ∧ { s with governor } = s' := by
  simp only [registerAsCreator, bind_eq_ok, revertIf_eq_ok, exists_const, mapError_eq_ok, pure_eq_ok,
    Eligible, not_or, not_not, Bool.not_eq_false, ne_eq, and_assoc]

theorem micro_small (h : (contract P T d).Micro w w') : Small P d w w' := by
  cases h with
  | tick b hb => exact .tick b hb
  | resume frame success s hs =>
    obtain ⟨governor, hg, hs⟩ := bind_eq_ok.mp hs
    obtain rfl := pure_eq_ok.mp hs
    exact .resume governor success (mapError_eq_ok.mp hg)
  | call msg op o ho =>
    cases op with
    | governor op =>
      obtain ⟨-, ho⟩ := revertIf_bind_eq_ok.mp ho
      obtain ⟨g, hg, ho⟩ := bind_eq_ok.mp ho
      rw [mapError_eq_ok] at hg
      have hsmall := Small.governor (d := d) (w := w) msg op g hg
      cases g with
      | done s =>
        obtain rfl := pure_eq_ok.mp ho
        exact hsmall
      | callout s frame =>
        obtain rfl := pure_eq_ok.mp ho
        exact hsmall
    | settlement op =>
      obtain ⟨-, ho⟩ := revertIf_bind_eq_ok.mp ho
      obtain ⟨g, hg, ho⟩ := bind_eq_ok.mp ho
      obtain rfl := pure_eq_ok.mp ho
      obtain ⟨s, -, -, heff, rfl⟩ := Settlement.call_eq_ok (mapError_eq_ok.mp hg)
      exact .settlement msg op s heff
    | registry op =>
      obtain ⟨-, ho⟩ := revertIf_bind_eq_ok.mp ho
      obtain ⟨g, hg, ho⟩ := bind_eq_ok.mp ho
      obtain rfl := pure_eq_ok.mp ho
      obtain ⟨-, hg⟩ := revertIf_bind_eq_ok.mp (mapError_eq_ok.mp hg)
      obtain ⟨s, hs, hg⟩ := bind_eq_ok.mp hg
      obtain rfl := pure_eq_ok.mp hg
      exact .registry msg op s hs
    | registerAsUser sessionId =>
      obtain ⟨-, ho⟩ := revertIf_bind_eq_ok.mp ho
      obtain ⟨s, hs, ho⟩ := bind_eq_ok.mp ho
      obtain rfl := pure_eq_ok.mp ho
      obtain ⟨heligible, governor, hg, rfl⟩ := registerAsUser_eq_ok.mp hs
      exact .enter msg _ sessionId .user governor rfl heligible hg
    | registerAsCreator sessionId =>
      obtain ⟨-, ho⟩ := revertIf_bind_eq_ok.mp ho
      obtain ⟨s, hs, ho⟩ := bind_eq_ok.mp ho
      obtain rfl := pure_eq_ok.mp ho
      obtain ⟨heligible, governor, hg, rfl⟩ := registerAsCreator_eq_ok.mp hs
      exact .enter msg _ sessionId .creator governor rfl heligible hg

/-! ## The governor's side of a run -/

/-- The call of the governor that an entry stands for: its own, or the one that the adapter made. -/
def governorCall (d : Deployment) (e : LegislatureEntry T) : Option (Msg × Governor.Op) :=
  match e.op with
  | .governor op => some (e.msg, op)
  | .registerAsUser sessionId =>
    some (⟨d.adapter.self, 0⟩, .plain (.registerMember sessionId e.msg.sender .user))
  | .registerAsCreator sessionId =>
    some (⟨d.adapter.self, 0⟩, .plain (.registerMember sessionId e.msg.sender .creator))
  | .settlement _ | .registry _ => none

/-- The entry as the governor alone sees it. -/
def governorEntry (d : Deployment) (e : LegislatureEntry T) : Option Governor.GovernorEntry :=
  (governorCall d e).map fun c ↦ ⟨e.block, c.1, c.2, e.before.governor, e.callout⟩

def governorWorld (d : Deployment) (w : LegislatureWorld T) : Governor.GovernorWorld :=
  ⟨w.block, w.state.governor, w.journal.filterMap (governorEntry d)⟩

theorem governorCall_of_entering {e : LegislatureEntry T} {sessionId : Uint 256}
    {house : Governor.House} (h : e.op.entering = some (sessionId, house)) :
    governorCall d e =
      some (⟨d.adapter.self, 0⟩, .plain (.registerMember sessionId e.msg.sender house)) := by
  unfold governorCall
  cases hop : e.op with
  | governor | settlement | registry =>
    rw [hop] at h
    cases h
  | registerAsUser | registerAsCreator =>
    rw [hop] at h
    obtain ⟨rfl, rfl⟩ := Prod.mk.inj (Option.some.inj h)
    rfl

/-- Each step of the contracts is none of the governor, or one. -/
theorem Small.governor_micro (h : Small P d w w') :
    ReflTransGen (Governor.contract P d.governor).Micro (governorWorld d w) (governorWorld d w') := by
  cases h with
  | tick b hb => exact .single (.tick (governorWorld d w) b hb)
  | settlement | registry => exact .refl
  | governor msg op o ho =>
    have hmicro := Contract.Micro.call (C := Governor.contract P d.governor) (governorWorld d w) msg op
      o ho
    rw [World.log_eq] at hmicro
    exact .single hmicro
  | enter msg op sessionId house s hop _ hs =>
    have hcall : Governor.call P d.governor w.block ⟨d.adapter.self, 0⟩
        (.plain (.registerMember sessionId msg.sender house)) w.state.governor = .ok (.done s) := by
      rw [Governor.call, revertIf_bind_eq_ok]
      refine ⟨by simp, ?_⟩
      rw [Governor.PlainOp.apply, hs]
      rfl
    have hmicro := Contract.Micro.call (C := Governor.contract P d.governor) (governorWorld d w)
      ⟨d.adapter.self, 0⟩ (.plain (.registerMember sessionId msg.sender house)) (.done s) hcall
    have hentry : governorEntry d ⟨w.block, msg, op, w.state, none⟩ =
        some ⟨w.block, ⟨d.adapter.self, 0⟩, .plain (.registerMember sessionId msg.sender house),
          w.state.governor, none⟩ := by
      rw [governorEntry, governorCall_of_entering (d := d) (e := ⟨w.block, msg, op, w.state, none⟩) hop]
      rfl
    rw [World.log_eq] at hmicro
    refine .single ?_
    rw [governorWorld, governorWorld, List.filterMap_cons_some hentry]
    exact hmicro
  | resume s success hs =>
    exact .single (.resume (governorWorld d w) ⟨0, 0, 0, []⟩ success s hs)

/-- Small steps from a world with `I`. -/
theorem Observable.invariant {I : LegislatureWorld T → Prop} {t₀ : T.State}
    (hgenesis : ∀ b, 0 < b.timestamp → I (genesis P T d b t₀))
    (hstep : ∀ w w', Observable P T d t₀ w → I w → Small P d w w' → I w') {w : LegislatureWorld T}
    (h : Observable P T d t₀ w) : I w := by
  obtain ⟨b, hpos, hb⟩ := h
  apply run_invariant _ hb (hgenesis b hpos)
  intro v v' hrun hv hm
  exact hstep v v' ⟨b, hpos, hrun⟩ hv (micro_small hm)

/-- What the contracts do together is a run of the governor. -/
theorem Observable.governor {t₀ : T.State} (h : Observable P T d t₀ w) :
    Governor.Observable P d.governor (governorWorld d w) := by
  refine h.invariant (I := fun v ↦ Governor.Observable P d.governor (governorWorld d v))
    (fun b _ ↦ ⟨b, .refl⟩) fun v v' _ hv hs ↦ ?_
  obtain ⟨b, hb⟩ := hv
  exact ⟨b, hb.trans hs.governor_micro⟩

/-! ## What stands behind an eligible account -/

/-- The entry is a payment of the subscriber, after which its paid time ends at `activeUntil`. -/
structure Payment (d : Deployment) (subscriber : Address) (activeUntil : Uint 64)
    (e : LegislatureEntry T) : Prop where
  sender : e.msg.sender = subscriber
  op : ∃ paymentReference version token,
    e.op = .settlement (.subscription (.subscribe paymentReference version)) ∧
    Settlement.Subscribes T d.settlement e.block subscriber paymentReference version
      e.before.settlement token activeUntil

/-- The entry is the registration of a creator by itself. -/
structure CreatorRegistration (account : Address) (e : LegislatureEntry T) : Prop where
  sender : e.msg.sender = account
  op : ∃ profileCommitment payoutAddress, e.op = .registry (.registerCreator profileCommitment payoutAddress)

/-- Paid time and creators come from calls on record. -/
structure Recorded (d : Deployment) (w : LegislatureWorld T) : Prop where
  positive : 0 < w.block.timestamp
  paid : ∀ account, w.state.settlement.subscription.subscriptionActiveUntil account ≠ 0 →
    ∃ e ∈ w.journal,
      Payment d account (w.state.settlement.subscription.subscriptionActiveUntil account) e
  registered : ∀ account, w.state.registry.creatorIdByAccount account ≠ 0 →
    ∃ e ∈ w.journal, CreatorRegistration account e

/-- Only registrations give out accounts. -/
theorem creatorIdByAccount_of_apply {b : Block} {sender : Address} {op : Creators.Op}
    {s s' : Creators.State} (h : op.apply P b sender s = .ok s') (account : Address) :
    s'.creatorIdByAccount account = s.creatorIdByAccount account ∨
      account = sender ∧
        ∃ profileCommitment payoutAddress, op = .registerCreator profileCommitment payoutAddress := by
  cases op with
  | registerCreator profileCommitment payoutAddress =>
    by_cases haccount : account = sender
    · exact .inr ⟨haccount, profileCommitment, payoutAddress, rfl⟩
    · simp only [Creators.Op.apply, Creators.registerCreator, revertIf_bind_eq_ok,
        Uint.increment_bind_eq_ok, pure_eq_ok] at h
      obtain ⟨-, -, -, -, -, id, -, rfl⟩ := h
      exact .inl (Function.update_of_ne haccount _ _)
  | access op =>
    obtain ⟨roles, -, h⟩ := bind_eq_ok.mp h
    obtain rfl := pure_eq_ok.mp h
    exact .inl rfl
  | updateProfileCommitment newCommitment =>
    simp only [Creators.Op.apply, Creators.updateProfileCommitment, revertIf_bind_eq_ok,
      Creators.registeredCreatorId_bind_eq_ok, pure_eq_ok] at h
    obtain ⟨-, -, -, -, rfl⟩ := h
    exact .inl rfl
  | updatePayoutAddress newAddress =>
    simp only [Creators.Op.apply, Creators.updatePayoutAddress, revertIf_bind_eq_ok,
      Creators.registeredCreatorId_bind_eq_ok, pure_eq_ok] at h
    obtain ⟨-, -, -, rfl⟩ := h
    exact .inl rfl
  | setActive active =>
    simp only [Creators.Op.apply, Creators.setActive, revertIf_bind_eq_ok,
      Creators.registeredCreatorId_bind_eq_ok, pure_eq_ok] at h
    obtain ⟨-, -, rfl⟩ := h
    exact .inl rfl
  | declareRelease metadataCommitment rightsDeclarationCommitment =>
    simp only [Creators.Op.apply, Creators.declareRelease, revertIf_bind_eq_ok,
      Creators.registeredCreatorId_bind_eq_ok, Uint.increment_bind_eq_ok, pure_eq_ok] at h
    obtain ⟨-, -, -, -, _, -, _, -, rfl⟩ := h
    exact .inl rfl
  | withdrawRelease releaseId =>
    simp only [Creators.Op.apply, Creators.withdrawRelease, revertIf_bind_eq_ok,
      Creators.registeredCreatorId_bind_eq_ok, pure_eq_ok] at h
    obtain ⟨-, -, -, -, rfl⟩ := h
    exact .inl rfl
  | pause =>
    simp only [Creators.Op.apply, Creators.pause, Creators.onlyRole_bind_eq_ok, revertIf_bind_eq_ok,
      pure_eq_ok] at h
    obtain ⟨-, -, rfl⟩ := h
    exact .inl rfl
  | unpause =>
    simp only [Creators.Op.apply, Creators.unpause, Creators.onlyRole_bind_eq_ok, revertIf_bind_eq_ok,
      pure_eq_ok] at h
    obtain ⟨-, -, rfl⟩ := h
    exact .inl rfl
  | receive => cases h

theorem Recorded.cons (hw : Recorded d w) {s : System T} {e : LegislatureEntry T}
    (hpaid : ∀ account, s.settlement.subscription.subscriptionActiveUntil account =
        w.state.settlement.subscription.subscriptionActiveUntil account ∨
      Payment d account (s.settlement.subscription.subscriptionActiveUntil account) e)
    (hregistered : ∀ account, s.registry.creatorIdByAccount account =
        w.state.registry.creatorIdByAccount account ∨ CreatorRegistration account e) :
    Recorded d ⟨w.block, s, e :: w.journal⟩ where
  positive := hw.positive
  paid account hne := by
    obtain hsame | hnew := hpaid account
    · rw [hsame] at hne ⊢
      obtain ⟨p, hp, hpayment⟩ := hw.paid account hne
      exact ⟨p, List.mem_cons_of_mem e hp, hpayment⟩
    · exact ⟨e, List.mem_cons_self, hnew⟩
  registered account hne := by
    obtain hsame | hnew := hregistered account
    · rw [hsame] at hne
      obtain ⟨p, hp, hregistration⟩ := hw.registered account hne
      exact ⟨p, List.mem_cons_of_mem e hp, hregistration⟩
    · exact ⟨e, List.mem_cons_self, hnew⟩

theorem Small.recorded (hw : Recorded d w) (h : Small P d w w') : Recorded d w' := by
  cases h with
  | tick b hb => exact ⟨hw.positive.trans_le hb, hw.paid, hw.registered⟩
  | resume => exact ⟨hw.positive, hw.paid, hw.registered⟩
  | governor | enter => exact hw.cons (fun _ ↦ .inl rfl) fun _ ↦ .inl rfl
  | registry msg op s hs =>
    refine hw.cons (fun _ ↦ .inl rfl) fun account ↦ ?_
    obtain hsame | ⟨rfl, commitment, payout, rfl⟩ := creatorIdByAccount_of_apply hs account
    · exact .inl hsame
    · exact .inr ⟨rfl, commitment, payout, rfl⟩
  | settlement msg op s hs =>
    refine hw.cons (fun account ↦ ?_) fun _ ↦ .inl rfl
    cases hs with
    | token | access | disburse => exact .inl rfl
    | administer op subscription _ hadmin => exact .inl (congrFun hadmin.active_eq account)
    | subscribe ref version token activeUntil hsubscribes =>
      by_cases haccount : account = msg.sender
      · subst haccount
        have hactive : (w.state.settlement.withPayment msg.sender ref token
            activeUntil).subscription.subscriptionActiveUntil msg.sender = activeUntil :=
          Function.update_self _ _ _
        refine .inr ⟨rfl, ref, version, token, rfl, ?_⟩
        dsimp only
        rwa [hactive]
      · exact .inl (Function.update_of_ne haccount _ _)

theorem Observable.recorded {t₀ : T.State} (h : Observable P T d t₀ w) : Recorded d w :=
  h.invariant (I := Recorded d)
    (fun _ hpos ↦ ⟨hpos, fun _ hne ↦ absurd rfl hne, fun _ hne ↦ absurd rfl hne⟩)
    fun _ _ _ hw hs ↦ hs.recorded hw

/-! ## How a member entered -/

/-- The entry is the call by which the member entered the House: its own, at a time when it was
eligible and before the session started. -/
structure Entered (sessionId : Uint 256) (member : Address) (house : Governor.House)
    (e : LegislatureEntry T) : Prop where
  op : e.op.entering = some (sessionId, house)
  sender : e.msg.sender = member
  eligible : Eligible e.block e.before member house
  unregistered : e.before.governor.memberHouse sessionId member = .none
  in_time : e.block.timestamp < ((e.before.governor.sessions sessionId).startsAt : ℕ)

/-- Among the entries is one of the account that made it eligible: a payment whose paid time covers the
time `now`, or the registration of the creator. -/
def Backed (d : Deployment) (now : ℕ) (account : Address) (earlier : List (LegislatureEntry T)) :
    Governor.House → Prop
  | .user => ∃ p ∈ earlier, ∃ activeUntil : Uint 64, Payment d account activeUntil p ∧ now ≤ activeUntil
  | .creator => ∃ p ∈ earlier, CreatorRegistration account p
  | .none => False

theorem Recorded.backed (hw : Recorded d w) {account : Address} {house : Governor.House}
    (h : Eligible w.block w.state account house) :
    Backed d w.block.timestamp account w.journal house := by
  cases house with
  | none => exact h
  | creator => exact hw.registered account h.1
  | user =>
    have hactive : w.block.timestamp ≤
        (w.state.settlement.subscription.subscriptionActiveUntil account : ℕ) := by
      simpa [Eligible, Settlement.isActive] using h
    have hne : w.state.settlement.subscription.subscriptionActiveUntil account ≠ 0 := by
      intro hzero
      rw [hzero] at hactive
      exact absurd (hw.positive.trans_le hactive) (lt_irrefl 0)
    obtain ⟨p, hp, hpayment⟩ := hw.paid account hne
    exact ⟨p, hp, _, hpayment, hactive⟩

/-- The member of a House has entered it by a call of its own, or was registered at the governor. -/
def Enrolled (d : Deployment) (w : LegislatureWorld T) (sessionId : Uint 256) (member : Address) : Prop :=
  ∃ e earlier, e :: earlier <:+ w.journal ∧
    (Entered sessionId member (w.state.governor.memberHouse sessionId member) e ∧
        Backed d e.block.timestamp member earlier (w.state.governor.memberHouse sessionId member) ∨
      e.op = .governor (.plain (.registerMember sessionId member
        (w.state.governor.memberHouse sessionId member))))

theorem Enrolled.mono {sessionId : Uint 256} {member : Address} (h : Enrolled d w sessionId member)
    (hjournal : w.journal <:+ w'.journal)
    (hhouse : w'.state.governor.memberHouse sessionId member =
      w.state.governor.memberHouse sessionId member) : Enrolled d w' sessionId member := by
  obtain ⟨e, earlier, he, h⟩ := h
  rw [← hhouse] at h
  exact ⟨e, earlier, he.trans hjournal, h⟩

end CreatorFirst.Legislature
