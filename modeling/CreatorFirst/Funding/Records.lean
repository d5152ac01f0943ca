import CreatorFirst.Funding.Agreement

/-!
# What the registry has on record

An approval and an initial funding stay on record, each participant is approved and funded at most once, and
a funding that took effect is noted as completed.
-/

namespace CreatorFirst.Funding

open Chain Relation

variable {P : Primitives} {d : Deployment}

/-- From any moment on, the registry loses nothing that it has on record. -/
theorem Observable.preserves {m m' : FundingMoment} (h : Observable P d m)
    (hr : ReflTransGen (contract P d).Next m m') :
    Participants.Preserves m.world.state.registry m'.world.state.registry := by
  suffices Participants.InOrder (Funding.registrySide m') ∧
      Participants.Preserves m.world.state.registry m'.world.state.registry from this.2
  refine run_invariant (I := fun v ↦ Participants.InOrder (Funding.registrySide v) ∧
    Participants.Preserves m.world.state.registry v.world.state.registry)
    (fun v v' _ hv hm ↦ ?_) hr ⟨h.registrySide, .refl _⟩
  obtain ⟨horder, hpreserves⟩ := (next_small hm).registrySide hv.1
  exact ⟨horder, hv.2.trans hpreserves⟩

theorem Reachable.preserves {w w' : FundingWorld} (h : Reachable P d w)
    (hr : (contract P d).Reaches w w') :
    Participants.Preserves w.state.registry w'.state.registry :=
  Observable.preserves h.observable hr.next

theorem Reachable.reaches {w w' : FundingWorld} (h : Reachable P d w)
    (hr : (contract P d).Reaches w w') : Reachable P d w' := by
  obtain ⟨start, hstart, hrun⟩ := h
  exact ⟨start, hstart, hrun.trans hr⟩

theorem journal_suffix {w w' : FundingWorld} (hr : (contract P d).Reaches w w') :
    w.journal <:+ w'.journal := Contract.next_journal_suffix hr.next

/-! ## Fundings -/

/-- The fundings that took effect are completed or under way. -/
def Noted (m : FundingMoment) : Prop :=
  ∀ e ∈ m.world.journal, ∀ p, e.op.funds = some p →
    (m.world.state.registry.participants p).initialFundingCompleted = true ∨
      ∃ f ∈ underWay m.opened, f.participantId = p

theorem Noted.mono {m m' : FundingMoment} (h : Noted m) (hjournal : m'.world.journal = m.world.journal)
    (hpreserves : Participants.Preserves m.world.state.registry m'.world.state.registry)
    (hopened : underWay m'.opened = underWay m.opened) : Noted m' := by
  intro e he p hp
  rw [hjournal] at he
  rw [hopened]
  exact (h e he p hp).imp_left (hpreserves.initialFundingCompleted p)

/-- One more call, which funds nobody. -/
theorem Noted.skip {m m' : FundingMoment} {e : FundingEntry} (h : Noted m) (hop : e.op.funds = none)
    (hjournal : m'.world.journal = e :: m.world.journal)
    (hpreserves : Participants.Preserves m.world.state.registry m'.world.state.registry)
    (hopened : underWay m'.opened = underWay m.opened) : Noted m' := by
  intro e' he p hp
  rw [hjournal] at he
  rw [hopened]
  obtain rfl | hearlier := List.mem_cons.mp he
  · rw [hop] at hp
    cases hp
  · exact (h e' hearlier p hp).imp_left (hpreserves.initialFundingCompleted p)

theorem Small.noted {m m' : FundingMoment} (hside : Participants.InOrder (Funding.registrySide m))
    (hm : Noted m) (h : Small P d m m') : Noted m' := by
  have hpreserves := (h.registrySide hside).2
  cases h with
  | tick => exact hm.mono rfl hpreserves rfl
  | paid payout opened hopened =>
    refine hm.mono rfl hpreserves ?_
    rw [hopened]
    rfl
  | distributor msg op t payout hsender heff => exact hm.skip rfl rfl hpreserves (underWay_payout _ _)
  | registry msg op r heff => exact hm.skip (registryOp_funds heff) rfl hpreserves rfl
  | fund msg f t hfunds heff =>
    intro e he p hp
    obtain rfl | hearlier := List.mem_cons.mp he
    · obtain rfl := Option.some.inj hp
      left
      simp [Participants.State.withFunding]
    · exact (hm e hearlier p hp).imp_left (hpreserves.initialFundingCompleted p)
  | enter msg f t payout hfunds heff =>
    intro e he p hp
    obtain rfl | hearlier := List.mem_cons.mp he
    · exact .inr ⟨f, List.mem_cons_self, Option.some.inj hp⟩
    · refine (hm e hearlier p hp).imp (hpreserves.initialFundingCompleted p) ?_
      rintro ⟨f', hf', rfl⟩
      exact ⟨f', List.mem_cons_of_mem _ hf', rfl⟩
  | funded f payout opened hopened =>
    intro e he p hp
    have hbefore := hm e he p hp
    rw [hopened, underWay_cons_funding] at hbefore
    obtain hcompleted | ⟨f', hf', rfl⟩ := hbefore
    · exact .inl (hpreserves.initialFundingCompleted p hcompleted)
    · obtain rfl | hother := List.mem_cons.mp hf'
      · left
        simp [Participants.State.withFunding]
      · exact .inr ⟨f', hother, rfl⟩

theorem Observable.noted {m : FundingMoment} (h : Observable P d m) : Noted m := by
  suffices Participants.InOrder (Funding.registrySide m) ∧ Noted m from this.2
  apply h.invariant (I := fun m ↦ Participants.InOrder (Funding.registrySide m) ∧ Noted m)
  · intro w hstart
    refine ⟨hstart.registrySide, fun e he ↦ ?_⟩
    rw [hstart.journal] at he
    cases he
  · intro m m' hm hs
    exact ⟨(hs.registrySide hm.1).1, hs.noted hm.1 hm.2⟩

/-- The registry has completed each funding that took effect. -/
theorem Reachable.completed {w : FundingWorld} (h : Reachable P d w) {e : FundingEntry}
    (he : e ∈ w.journal) {p : Bytes32} (hp : e.op.funds = some p) :
    (w.state.registry.participants p).initialFundingCompleted = true := by
  obtain hcompleted | ⟨f, hf, -⟩ := h.observable.noted e he p hp
  · exact hcompleted
  · cases hf

/-- The fundings that are completed or under way are in the journal. -/
structure Journalled (m : FundingMoment) : Prop where
  completed : ∀ p, (m.world.state.registry.participants p).initialFundingCompleted = true →
    ∃ e ∈ m.world.journal, e.op.funds = some p
  underWay : ∀ f ∈ underWay m.opened, ∃ e ∈ m.world.journal, e.op.funds = some f.participantId

theorem completed_withFunding {s : Participants.State} {p₀ p : Bytes32}
    (h : ((s.withFunding p₀).participants p).initialFundingCompleted = true) :
    p = p₀ ∨ (s.participants p).initialFundingCompleted = true := by
  by_cases hp : p = p₀
  · exact .inl hp
  · right
    simpa [Participants.State.withFunding, hp] using h

theorem Small.journalled {m m' : FundingMoment} (hside : Participants.InOrder (Funding.registrySide m))
    (hm : Journalled m) (h : Small P d m m') : Journalled m' := by
  have hcons : ∀ (e : FundingEntry) p, (∃ e ∈ m.world.journal, e.op.funds = some p) →
      ∃ e' ∈ e :: m.world.journal, e'.op.funds = some p := by
    rintro e p ⟨e', he', hop⟩
    exact ⟨e', List.mem_cons_of_mem e he', hop⟩
  cases h with
  | tick => exact ⟨hm.completed, hm.underWay⟩
  | paid payout opened hopened =>
    refine ⟨hm.completed, fun f hf ↦ hm.underWay f ?_⟩
    rw [hopened, underWay_cons_payout]
    exact hf
  | distributor msg op t payout hsender heff =>
    refine ⟨fun p hp ↦ hcons _ p (hm.completed p hp), fun f hf ↦ hcons _ _ (hm.underWay f ?_)⟩
    rwa [underWay_payout] at hf
  | registry msg op r heff =>
    refine ⟨fun p hp ↦ hcons _ p (hm.completed p ?_), fun f hf ↦ hcons _ _ (hm.underWay f hf)⟩
    exact (heff.funded_eq hside.kept p).symm.trans hp
  | fund msg f t hfunds heff =>
    refine ⟨fun p hp ↦ ?_, fun f hf ↦ hcons _ _ (hm.underWay f hf)⟩
    obtain rfl | hbefore := completed_withFunding hp
    · exact ⟨_, List.mem_cons_self, rfl⟩
    · exact hcons _ p (hm.completed p hbefore)
  | enter msg f t payout hfunds heff =>
    refine ⟨fun p hp ↦ hcons _ p (hm.completed p hp), fun f' hf' ↦ ?_⟩
    obtain rfl | hother := List.mem_cons.mp hf'
    · exact ⟨_, List.mem_cons_self, rfl⟩
    · exact hcons _ _ (hm.underWay f' hother)
  | funded f payout opened hopened =>
    have hunder : ∀ f' ∈ f :: Funding.underWay opened, ∃ e ∈ m.world.journal,
        e.op.funds = some f'.participantId := by
      rw [← underWay_cons_funding f payout, ← hopened]
      exact hm.underWay
    refine ⟨fun p hp ↦ ?_, fun f' hf' ↦ hunder f' (List.mem_cons_of_mem f hf')⟩
    obtain rfl | hbefore := completed_withFunding hp
    · exact hunder f List.mem_cons_self
    · exact hm.completed p hbefore

theorem Observable.journalled {m : FundingMoment} (h : Observable P d m) : Journalled m := by
  suffices Participants.InOrder (Funding.registrySide m) ∧ Journalled m from this.2
  apply h.invariant (I := fun m ↦ Participants.InOrder (Funding.registrySide m) ∧ Journalled m)
  · intro w hstart
    refine ⟨hstart.registrySide, fun p hp ↦ ?_, fun f hf ↦ absurd hf List.not_mem_nil⟩
    rw [hstart.registry] at hp
    cases hp
  · intro m m' hm hs
    exact ⟨(hs.registrySide hm.1).1, hs.journalled hm.1 hm.2⟩

/-- A completed funding took effect at some time. -/
theorem Reachable.exists_funding {w : FundingWorld} (h : Reachable P d w) {p : Bytes32}
    (hp : (w.state.registry.participants p).initialFundingCompleted = true) :
    ∃ e ∈ w.journal, e.op.funds = some p := h.observable.journalled.completed p hp

/-- What the distributor sends to a wallet in an initial funding. -/
def payment (wallet : Address) (e : FundingEntry) : ℕ :=
  match e.callout with
  | some (.funding _ payout) => if payout.recipient = wallet then payout.amount else 0
  | _ => 0

/-- What the distributor has sent to the wallet in the initial fundings of the participant, newest first. -/
def initialFundings (journal : List FundingEntry) (p : Bytes32) (wallet : Address) : List ℕ :=
  (journal.filter fun e ↦ e.op.funds = some p).map (payment wallet)

theorem length_initialFundings (journal : List FundingEntry) (p : Bytes32) (wallet : Address) :
    (initialFundings journal p wallet).length = fundings journal p := by
  rw [initialFundings, List.length_map, fundings, List.countP_eq_length_filter]

theorem Reachable.fundings_le_one {w : FundingWorld} (h : Reachable P d w) (p : Bytes32) :
    fundings w.journal p ≤ 1 := by
  apply (h.observable.fundedOnce.participants p).trans
  split <;> decide

/-- A funding that took effect is the only one of its participant. -/
theorem Reachable.initialFundings_eq {w : FundingWorld} (h : Reachable P d w) {e : FundingEntry}
    (he : e ∈ w.journal) {p : Bytes32} (hp : e.op.funds = some p) (wallet : Address) :
    initialFundings w.journal p wallet = [payment wallet e] := by
  have hmem : payment wallet e ∈ initialFundings w.journal p wallet :=
    List.mem_map_of_mem (List.mem_filter.mpr ⟨he, by simpa using hp⟩)
  have hlength : (initialFundings w.journal p wallet).length = 1 := by
    apply Nat.le_antisymm
    · rw [length_initialFundings]
      exact h.fundings_le_one p
    · exact List.length_pos_of_mem hmem
  obtain ⟨amount, hamount⟩ := List.length_eq_one_iff.mp hlength
  rw [hamount] at hmem ⊢
  rw [List.mem_singleton.mp hmem]

/-- Nothing is added to what a participant has been sent once it is funded. -/
theorem Reachable.initialFundings_stable {w w' : FundingWorld} (h : Reachable P d w)
    (hr : (contract P d).Reaches w w') {p : Bytes32} (hp : ∃ e ∈ w.journal, e.op.funds = some p)
    (wallet : Address) : initialFundings w'.journal p wallet = initialFundings w.journal p wallet := by
  obtain ⟨e, he, hop⟩ := hp
  rw [h.initialFundings_eq he hop, (h.reaches hr).initialFundings_eq ((journal_suffix hr).mem he) hop]

/-! ## Approvals -/

/-- The participant that a call approves. -/
def Op.approves : Op → Option Bytes32
  | .registry (.approveClaimedInvitation participantId _ _ _) => some participantId
  | _ => none

/-- The number of approvals of a participant that took effect. -/
def approvals (journal : List FundingEntry) (p : Bytes32) : ℕ :=
  journal.countP fun e ↦ e.op.approves = some p

theorem approvals_cons_of_none {journal : List FundingEntry} {e : FundingEntry}
    (hop : e.op.approves = none) (p : Bytes32) : approvals (e :: journal) p = approvals journal p := by
  apply List.countP_cons_of_neg
  simp [hop]

/-- Nobody is approved, and each participant stands for the wallet and the roles that it stood for. -/
structure SameParties (w w' : FundingWorld) : Prop where
  wallet : ∀ p, (w'.state.registry.participants p).wallet = (w.state.registry.participants p).wallet
  approvedRoles : ∀ p,
    (w'.state.registry.participants p).approvedRoles = (w.state.registry.participants p).approvedRoles
  journal : w'.journal = w.journal ∨ ∃ e : FundingEntry, e.op.approves = none ∧ w'.journal = e :: w.journal

theorem sameParties_withRole (s : Participants.State) (p₀ : Bytes32) (role : Uint 8)
    (consentVersion p : Bytes32) :
    ((s.withRole p₀ role consentVersion).participants p).wallet = (s.participants p).wallet ∧
      ((s.withRole p₀ role consentVersion).participants p).approvedRoles =
        (s.participants p).approvedRoles := by
  by_cases hp : p = p₀ <;> simp [Participants.State.withRole, hp]

theorem sameParties_withFunding (s : Participants.State) (p₀ p : Bytes32) :
    ((s.withFunding p₀).participants p).wallet = (s.participants p).wallet ∧
      ((s.withFunding p₀).participants p).approvedRoles = (s.participants p).approvedRoles := by
  by_cases hp : p = p₀ <;> simp [Participants.State.withFunding, hp]

/-- A call that hands over nothing is an approval, or leaves the parties as they are. -/
theorem registry_approves_cases {b : Block} {sender : Address} {s r : Participants.State}
    {op : Participants.Op} (h : Participants.Effect P b sender s op r none) :
    ((Op.registry op).approves = none ∧ ∀ p, (r.participants p).wallet = (s.participants p).wallet ∧
      (r.participants p).approvedRoles = (s.participants p).approvedRoles) ∨
    ∃ p a roles expiresAt, Participants.Approves P b sender p a roles expiresAt s ∧
      op = .approveClaimedInvitation p a roles expiresAt ∧ r = s.withApproval b p a roles expiresAt := by
  cases h with
  | administer op r hop hsame =>
    left
    rw [hsame.participants]
    cases op with
    | access | pause | unpause => exact ⟨rfl, fun _ ↦ ⟨rfl, rfl⟩⟩
    | _ => cases hop
  | approve p a roles expiresAt happroves => exact .inr ⟨p, a, roles, expiresAt, happroves, rfl, rfl⟩
  | register p role consentVersion => exact .inl ⟨rfl, sameParties_withRole s p role consentVersion⟩
  | setActive p active =>
    refine .inl ⟨rfl, fun p' ↦ ?_⟩
    by_cases hp : p' = p <;> simp [hp]

theorem Small.approves_cases {m m' : FundingMoment} (h : Small P d m m') :
    SameParties m.world m'.world ∨
    ∃ msg p a roles expiresAt,
      Participants.Approves P m.world.block msg.sender p a roles expiresAt m.world.state.registry ∧
      m'.world.state.registry = m.world.state.registry.withApproval m.world.block p a roles expiresAt ∧
      m'.world.journal = ⟨m.world.block, msg, .registry (.approveClaimedInvitation p a roles expiresAt),
        m.world.state, none⟩ :: m.world.journal := by
  cases h with
  | tick | paid => exact .inl ⟨fun _ ↦ rfl, fun _ ↦ rfl, .inl rfl⟩
  | distributor => exact .inl ⟨fun _ ↦ rfl, fun _ ↦ rfl, .inr ⟨_, rfl, rfl⟩⟩
  | enter => exact .inl ⟨fun _ ↦ rfl, fun _ ↦ rfl, .inr ⟨_, rfl, rfl⟩⟩
  | fund msg f t =>
    have hsame := sameParties_withFunding m.world.state.registry f.participantId
    exact .inl ⟨fun p ↦ (hsame p).1, fun p ↦ (hsame p).2, .inr ⟨_, rfl, rfl⟩⟩
  | funded f payout opened =>
    have hsame := sameParties_withFunding m.world.state.registry f.participantId
    exact .inl ⟨fun p ↦ (hsame p).1, fun p ↦ (hsame p).2, .inl rfl⟩
  | registry msg op r heff =>
    obtain ⟨hop, hsame⟩ | ⟨p, a, roles, expiresAt, happroves, rfl, rfl⟩ := registry_approves_cases heff
    · exact .inl ⟨fun p ↦ (hsame p).1, fun p ↦ (hsame p).2, .inr ⟨_, hop, rfl⟩⟩
    · exact .inr ⟨msg, p, a, roles, expiresAt, happroves, rfl, rfl⟩

/-- The journal has the approval of each participant, once and as the participant is on record. -/
structure Approved (w : FundingWorld) : Prop where
  once : ∀ p, approvals w.journal p ≤ if (w.state.registry.participants p).wallet = 0 then 0 else 1
  journal : ∀ p, (w.state.registry.participants p).wallet ≠ 0 → ∃ e ∈ w.journal, ∃ expiresAt,
    e.op = .registry (.approveClaimedInvitation p (w.state.registry.participants p).wallet
      (w.state.registry.participants p).approvedRoles expiresAt)
  record : ∀ e ∈ w.journal, ∀ p a roles expiresAt,
    e.op = .registry (.approveClaimedInvitation p a roles expiresAt) →
    a ≠ 0 ∧ (w.state.registry.participants p).wallet = a ∧
      (w.state.registry.participants p).approvedRoles = roles

theorem Approved.same {w w' : FundingWorld} (h : Approved w) (hsame : SameParties w w') : Approved w' := by
  obtain ⟨hwallet, hroles, hjournal⟩ := hsame
  have happrovals : ∀ p, approvals w'.journal p = approvals w.journal p := by
    intro p
    obtain hjournal | ⟨e, hop, hjournal⟩ := hjournal
    · rw [hjournal]
    · rw [hjournal, approvals_cons_of_none hop]
  constructor
  · intro p
    rw [happrovals, hwallet]
    exact h.once p
  · intro p hp
    rw [hwallet] at hp ⊢
    rw [hroles]
    obtain ⟨e, he, hop⟩ := h.journal p hp
    refine ⟨e, ?_, hop⟩
    obtain hjournal | ⟨e', -, hjournal⟩ := hjournal
    · rwa [hjournal]
    · rw [hjournal]
      exact List.mem_cons_of_mem e' he
  · intro e he p a roles expiresAt hop
    rw [hwallet, hroles]
    refine h.record e ?_ p a roles expiresAt hop
    obtain hjournal | ⟨e', hnone, hjournal⟩ := hjournal
    · rwa [hjournal] at he
    · rw [hjournal] at he
      obtain rfl | hearlier := List.mem_cons.mp he
      · rw [hop] at hnone
        cases hnone
      · exact hearlier

theorem Small.approved {m m' : FundingMoment} (hm : Approved m.world) (h : Small P d m m') :
    Approved m'.world := by
  obtain hsame | ⟨msg, p₀, a₀, roles₀, expiresAt₀, happroves, hregistry, hjournal⟩ := h.approves_cases
  · exact hm.same hsame
  -- The participant had no wallet, so that no call in the journal has approved it.
  have hnew : ∀ p, p ≠ p₀ → m'.world.state.registry.participants p = m.world.state.registry.participants p := by
    intro p hp
    rw [hregistry]
    exact Function.update_of_ne hp _ _
  have hrecord : (m'.world.state.registry.participants p₀).wallet = a₀ ∧
      (m'.world.state.registry.participants p₀).approvedRoles = roles₀ := by
    simp [hregistry, Participants.State.withApproval]
  constructor
  · intro p
    have hp := hm.once p
    rw [hjournal]
    by_cases hsame : p = p₀
    · subst hsame
      rw [happroves.unapproved, if_pos rfl] at hp
      rw [hrecord.1, if_neg happroves.wallet_ne, approvals, List.countP_cons, ← approvals]
      split <;> omega
    · rw [hnew p hsame, approvals, List.countP_cons_of_neg (by simpa [Op.approves] using Ne.symm hsame),
        ← approvals]
      exact hp
  · intro p hp
    rw [hjournal]
    by_cases hsame : p = p₀
    · subst hsame
      rw [hrecord.1, hrecord.2]
      exact ⟨_, List.mem_cons_self, expiresAt₀, rfl⟩
    · rw [hnew p hsame] at hp ⊢
      obtain ⟨e, he, hop⟩ := hm.journal p hp
      exact ⟨e, List.mem_cons_of_mem _ he, hop⟩
  · intro e he p a roles expiresAt hop
    rw [hjournal] at he
    obtain rfl | hearlier := List.mem_cons.mp he
    · cases hop
      exact ⟨happroves.wallet_ne, hrecord⟩
    · have hbefore := hm.record e hearlier p a roles expiresAt hop
      have hsame : p ≠ p₀ := by
        rintro rfl
        rw [happroves.unapproved] at hbefore
        exact hbefore.1 hbefore.2.1.symm
      rw [hnew p hsame]
      exact hbefore

theorem Observable.approved {m : FundingMoment} (h : Observable P d m) : Approved m.world := by
  apply h.invariant (I := fun m ↦ Approved m.world)
  · intro w hstart
    constructor
    · intro p
      simp [approvals, hstart.journal]
    · intro p hp
      rw [hstart.registry] at hp
      exact absurd rfl hp
    · intro e he
      rw [hstart.journal] at he
      cases he
  · intro m m' hm hs
    exact hs.approved hm

theorem Reachable.approved {w : FundingWorld} (h : Reachable P d w) : Approved w := h.observable.approved

theorem Reachable.approvals_le_one {w : FundingWorld} (h : Reachable P d w) (p : Bytes32) :
    approvals w.journal p ≤ 1 := by
  apply (h.approved.once p).trans
  split <;> decide

end CreatorFirst.Funding
