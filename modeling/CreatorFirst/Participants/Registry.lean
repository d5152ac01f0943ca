import CreatorFirst.Participants.Effects

/-!
# The records of the registry

Wallets and participant ids name each other, registered roles are approved ones, and every
registered role has the consent that the wallet itself gave. What is on record stays: later
operations only add roles, complete a funding or switch a participant on and off.
-/

namespace CreatorFirst.Participants

open Chain Relation

variable {P : Primitives} {d : Deployment} {b : Block} {sender : Address} {s s' s'' : State}

/-! ## Role masks -/

/-- Every role of the first mask is in the second. -/
def Subset (roles roles' : Uint 8) : Prop := roles &&& roles' = roles

instance (roles roles' : Uint 8) : Decidable (Subset roles roles') :=
  inferInstanceAs (Decidable (_ = _))

theorem or_val (x y : Uint 8) : ((x ||| y : Uint 8) : ℕ) = (x : ℕ) ||| (y : ℕ) :=
  Nat.mod_eq_of_lt (Nat.or_lt_two_pow x.isLt y.isLt)

theorem subset_iff {x y : Uint 8} :
    Subset x y ↔ ∀ i, (x : ℕ).testBit i = true → (y : ℕ).testBit i = true := by
  unfold Subset
  rw [Fin.ext_iff, Fin.and_val]
  constructor
  · intro h i hi
    rw [← h, Nat.testBit_and, Bool.and_eq_true] at hi
    exact hi.2
  · intro h
    apply Nat.eq_of_testBit_eq
    intro i
    rw [Nat.testBit_and]
    cases hi : (x : ℕ).testBit i with
    | false => rfl
    | true => rw [h i hi, Bool.and_true]

theorem Subset.refl (x : Uint 8) : Subset x x := subset_iff.mpr fun _ h ↦ h

theorem Subset.trans {x y z : Uint 8} (h : Subset x y) (h' : Subset y z) : Subset x z :=
  subset_iff.mpr fun i hi ↦ subset_iff.mp h' i (subset_iff.mp h i hi)

theorem Subset.or {x y z : Uint 8} (hx : Subset x z) (hy : Subset y z) : Subset (x ||| y) z := by
  apply subset_iff.mpr
  intro i hi
  rw [or_val, Nat.testBit_or, Bool.or_eq_true] at hi
  exact hi.elim (subset_iff.mp hx i) (subset_iff.mp hy i)

theorem subset_or (x y : Uint 8) : Subset x (x ||| y) := by
  apply subset_iff.mpr
  intro i hi
  rw [or_val, Nat.testBit_or, hi, Bool.true_or]

theorem subset_zero (x : Uint 8) : Subset 0 x := by
  apply subset_iff.mpr
  intro i hi
  simp at hi

theorem subset_all {roles : Uint 8} (h : roles &&& Uint.complement ALL_ROLES = 0) :
    Subset roles ALL_ROLES := by
  revert roles
  decide +kernel

theorem isSingleRole_iff {role : Uint 8} :
    isSingleRole role = true ↔ role = USER_ROLE ∨ role = CREATOR_ROLE := by
  simp [isSingleRole]

/-- A single role that meets a mask is in it. -/
theorem subset_of_meets {roles role : Uint 8} (hrole : isSingleRole role = true)
    (h : roles &&& role ≠ 0) : Subset role roles := by
  revert roles
  obtain rfl | rfl := isSingleRole_iff.mp hrole <;> decide +kernel

theorem or_meets {roles role role' : Uint 8} (hrole : isSingleRole role = true)
    (hrole' : isSingleRole role' = true) :
    (roles ||| role) &&& role' ≠ 0 ↔ role' = role ∨ roles &&& role' ≠ 0 := by
  revert roles
  obtain rfl | rfl := isSingleRole_iff.mp hrole <;>
    obtain rfl | rfl := isSingleRole_iff.mp hrole' <;> decide +kernel

/-! ## Records that are well kept -/

/-- What one storage of the registry satisfies. -/
structure WellKept (s : State) : Prop where
  inverse : ∀ p a, p ≠ 0 → a ≠ 0 →
    ((s.participants p).wallet = a ↔ s.participantIdByWallet a = p)
  no_participant : (s.participants 0).wallet = 0
  no_wallet : s.participantIdByWallet 0 = 0
  blank : ∀ p, (s.participants p).wallet = 0 → s.participants p = .blank
  approved : ∀ p, (s.participants p).wallet ≠ 0 →
    (s.participants p).approvedRoles ≠ 0 ∧ Subset (s.participants p).approvedRoles ALL_ROLES
  registered : ∀ p, Subset (s.participants p).registeredRoles (s.participants p).approvedRoles
  consented : ∀ p role, s.consentVersions p role ≠ 0 ↔
    isSingleRole role = true ∧ (s.participants p).registeredRoles &&& role ≠ 0

theorem wellKept_initial : WellKept (initialState P d) where
  inverse _ _ hp ha := iff_of_false ha.symm hp.symm
  no_participant := rfl
  no_wallet := rfl
  blank _ _ := rfl
  approved _ h := absurd rfl h
  registered _ := subset_zero _
  consented _ _ := by
    refine iff_of_false (fun h ↦ h rfl) fun h ↦ h.2 (Fin.ext ?_)
    rw [Fin.and_val]
    exact Nat.zero_and _

theorem WellKept.administer (hs : WellKept s) (h : Administers s s') : WellKept s' := by
  obtain ⟨inverse, no_participant, no_wallet, blank, approved, registered, consented⟩ := hs
  rw [← h.participants] at inverse no_participant blank approved registered consented
  rw [← h.participantIdByWallet] at inverse no_wallet
  rw [← h.consentVersions] at consented
  exact ⟨inverse, no_participant, no_wallet, blank, approved, registered, consented⟩

/-- A change to an approved participant that keeps its wallet and its roles. -/
theorem WellKept.edit (hs : WellKept s) {p₀ : Bytes32} {participant : Participant}
    (happroved : (s.participants p₀).wallet ≠ 0)
    (hwallet : participant.wallet = (s.participants p₀).wallet)
    (hroles : participant.approvedRoles = (s.participants p₀).approvedRoles)
    (hregistered : participant.registeredRoles = (s.participants p₀).registeredRoles) :
    WellKept { s with participants := Function.update s.participants p₀ participant } := by
  have hsame : ∀ p, (Function.update s.participants p₀ participant p).wallet =
        (s.participants p).wallet ∧
      (Function.update s.participants p₀ participant p).approvedRoles =
        (s.participants p).approvedRoles ∧
      (Function.update s.participants p₀ participant p).registeredRoles =
        (s.participants p).registeredRoles := by
    intro p
    by_cases hp : p = p₀
    · rw [hp, Function.update_self]
      exact ⟨hwallet, hroles, hregistered⟩
    · rw [Function.update_of_ne hp]
      exact ⟨rfl, rfl, rfl⟩
  constructor
  · intro p a hp ha
    rw [(hsame p).1]
    exact hs.inverse p a hp ha
  · rw [(hsame 0).1]
    exact hs.no_participant
  · exact hs.no_wallet
  · intro p hp
    rw [(hsame p).1] at hp
    have hne : p ≠ p₀ := by
      rintro rfl
      exact happroved hp
    rw [← hs.blank p hp]
    exact Function.update_of_ne hne _ _
  · intro p hp
    rw [(hsame p).1] at hp
    rw [(hsame p).2.1]
    exact hs.approved p hp
  · intro p
    rw [(hsame p).2.1, (hsame p).2.2]
    exact hs.registered p
  · intro p role
    rw [(hsame p).2.2]
    exact hs.consented p role

theorem WellKept.approve (hs : WellKept s) {p₀ : Bytes32} {wallet : Address} {roles : Uint 8}
    {expiresAt : Uint 64} (h : Approves P b sender p₀ wallet roles expiresAt s) :
    WellKept (s.withApproval b p₀ wallet roles expiresAt) := by
  have hp₀ := h.participant_ne
  have hw₀ := h.wallet_ne
  have hblank := hs.blank p₀ h.unapproved
  constructor
  · intro p a hp ha
    have hother := hs.inverse p a hp ha
    by_cases hpp : p = p₀
    · subst hpp
      by_cases haa : a = wallet
      · simp [State.withApproval, haa]
      · -- Before, neither map knew the participant.
        have hunknown : s.participantIdByWallet a ≠ p :=
          fun hid ↦ ha ((hother.mpr hid).symm.trans h.unapproved)
        simp [State.withApproval, haa, Ne.symm haa, hunknown]
    · by_cases haa : a = wallet
      · subst haa
        have hunknown : (s.participants p).wallet ≠ a :=
          fun hwallet ↦ hp ((hother.mp hwallet).symm.trans h.wallet_free)
        simp [State.withApproval, hpp, Ne.symm hpp, hunknown]
      · simpa [State.withApproval, hpp, haa] using hother
  · simpa [State.withApproval, Function.update_of_ne hp₀.symm] using hs.no_participant
  · simpa [State.withApproval, Function.update_of_ne hw₀.symm] using hs.no_wallet
  · intro p hp
    by_cases hpp : p = p₀
    · subst hpp
      exact absurd hp (by simpa [State.withApproval] using hw₀)
    · simp only [State.withApproval, Function.update_of_ne hpp] at hp ⊢
      exact hs.blank p hp
  · intro p hp
    by_cases hpp : p = p₀
    · subst hpp
      simp only [State.withApproval, Function.update_self]
      exact ⟨h.roles_ne, subset_all h.roles_known⟩
    · simp only [State.withApproval, Function.update_of_ne hpp] at hp ⊢
      exact hs.approved p hp
  · intro p
    by_cases hpp : p = p₀
    · subst hpp
      simp only [State.withApproval, Function.update_self]
      exact subset_zero _
    · simp only [State.withApproval, Function.update_of_ne hpp]
      exact hs.registered p
  · intro p role
    by_cases hpp : p = p₀
    · subst hpp
      have hnone := hs.consented p role
      rw [hblank] at hnone
      simpa [State.withApproval, Participant.blank] using hnone
    · simp only [State.withApproval, Function.update_of_ne hpp]
      exact hs.consented p role

theorem WellKept.registerRole (hs : WellKept s) {p₀ : Bytes32} {role : Uint 8}
    {consentVersion : Bytes32} (h : Registers b sender p₀ role consentVersion s) :
    WellKept (s.withRole p₀ role consentVersion) := by
  have hwallet : ∀ p, ((s.withRole p₀ role consentVersion).participants p).wallet =
      (s.participants p).wallet := by
    intro p
    by_cases hp : p = p₀ <;> simp [State.withRole, hp]
  have hroles : ∀ p, ((s.withRole p₀ role consentVersion).participants p).approvedRoles =
      (s.participants p).approvedRoles := by
    intro p
    by_cases hp : p = p₀ <;> simp [State.withRole, hp]
  constructor
  · intro p a hp ha
    rw [hwallet]
    exact hs.inverse p a hp ha
  · rw [hwallet]
    exact hs.no_participant
  · exact hs.no_wallet
  · intro p hp
    rw [hwallet] at hp
    have hne : p ≠ p₀ := by
      rintro rfl
      exact h.approval.approved hp
    rw [← hs.blank p hp]
    exact Function.update_of_ne hne _ _
  · intro p hp
    rw [hwallet] at hp
    rw [hroles]
    exact hs.approved p hp
  · intro p
    rw [hroles]
    by_cases hp : p = p₀
    · subst hp
      simp only [State.withRole, Function.update_self]
      exact (hs.registered p).or (subset_of_meets h.single h.role_approved)
    · simp only [State.withRole, Function.update_of_ne hp]
      exact hs.registered p
  · intro p role'
    have hbefore := hs.consented p role'
    by_cases hp : p = p₀
    · subst hp
      simp only [State.withRole, Function.update_self]
      by_cases hrole : role' = role
      · subst hrole
        rw [update₂_self]
        exact iff_of_true h.consent_ne ⟨h.single, (or_meets h.single h.single).mpr (.inl rfl)⟩
      · rw [update₂_of_ne_right hrole, hbefore]
        apply and_congr_right
        intro hsingle
        rw [or_meets h.single hsingle, or_iff_right hrole]
    · simpa [State.withRole, hp, update₂_of_ne_left hp] using hbefore

/-! ## What stays on record -/

/-- What is on record in the first storage is so in the second. -/
structure Preserves (s s' : State) : Prop where
  wallet : ∀ p, (s.participants p).wallet ≠ 0 →
    (s'.participants p).wallet = (s.participants p).wallet
  approvedRoles : ∀ p, (s.participants p).wallet ≠ 0 →
    (s'.participants p).approvedRoles = (s.participants p).approvedRoles
  approvedAt : ∀ p, (s.participants p).wallet ≠ 0 →
    (s'.participants p).approvedAt = (s.participants p).approvedAt
  approvalExpiresAt : ∀ p, (s.participants p).wallet ≠ 0 →
    (s'.participants p).approvalExpiresAt = (s.participants p).approvalExpiresAt
  registeredRoles : ∀ p,
    Subset (s.participants p).registeredRoles (s'.participants p).registeredRoles
  consentVersions : ∀ p role, s.consentVersions p role ≠ 0 →
    s'.consentVersions p role = s.consentVersions p role
  initialFundingCompleted : ∀ p, (s.participants p).initialFundingCompleted = true →
    (s'.participants p).initialFundingCompleted = true

theorem Preserves.refl (s : State) : Preserves s s :=
  ⟨fun _ _ ↦ rfl, fun _ _ ↦ rfl, fun _ _ ↦ rfl, fun _ _ ↦ rfl, fun _ ↦ .refl _, fun _ _ _ ↦ rfl,
    fun _ h ↦ h⟩

theorem Preserves.trans (h : Preserves s s') (h' : Preserves s' s'') : Preserves s s'' := by
  have hwallet : ∀ p, (s.participants p).wallet ≠ 0 → (s'.participants p).wallet ≠ 0 := by
    intro p hp
    rwa [h.wallet p hp]
  constructor
  · intro p hp
    rw [h'.wallet p (hwallet p hp), h.wallet p hp]
  · intro p hp
    rw [h'.approvedRoles p (hwallet p hp), h.approvedRoles p hp]
  · intro p hp
    rw [h'.approvedAt p (hwallet p hp), h.approvedAt p hp]
  · intro p hp
    rw [h'.approvalExpiresAt p (hwallet p hp), h.approvalExpiresAt p hp]
  · intro p
    exact (h.registeredRoles p).trans (h'.registeredRoles p)
  · intro p role hne
    have hkept := h.consentVersions p role hne
    rw [h'.consentVersions p role (hkept ▸ hne), hkept]
  · intro p hp
    exact h'.initialFundingCompleted p (h.initialFundingCompleted p hp)

/-- One record changes, in a way that keeps what is on it. -/
theorem Preserves.edit {p₀ : Bytes32} {participant : Participant}
    (hparticipants : s'.participants = Function.update s.participants p₀ participant)
    (hconsents : ∀ p role, s.consentVersions p role ≠ 0 →
      s'.consentVersions p role = s.consentVersions p role)
    (hfixed : (s.participants p₀).wallet ≠ 0 →
      participant.wallet = (s.participants p₀).wallet ∧
      participant.approvedRoles = (s.participants p₀).approvedRoles ∧
      participant.approvedAt = (s.participants p₀).approvedAt ∧
      participant.approvalExpiresAt = (s.participants p₀).approvalExpiresAt)
    (hroles : Subset (s.participants p₀).registeredRoles participant.registeredRoles)
    (hfunded : (s.participants p₀).initialFundingCompleted = true →
      participant.initialFundingCompleted = true) : Preserves s s' := by
  have hsplit : ∀ p, s'.participants p = s.participants p ∨
      p = p₀ ∧ s'.participants p = participant := by
    intro p
    rw [hparticipants]
    by_cases hp : p = p₀
    · exact .inr ⟨hp, by rw [hp, Function.update_self]⟩
    · exact .inl (Function.update_of_ne hp _ _)
  constructor
  · intro p hp
    obtain hsame | ⟨rfl, hnew⟩ := hsplit p
    · rw [hsame]
    · rw [hnew, (hfixed hp).1]
  · intro p hp
    obtain hsame | ⟨rfl, hnew⟩ := hsplit p
    · rw [hsame]
    · rw [hnew, (hfixed hp).2.1]
  · intro p hp
    obtain hsame | ⟨rfl, hnew⟩ := hsplit p
    · rw [hsame]
    · rw [hnew, (hfixed hp).2.2.1]
  · intro p hp
    obtain hsame | ⟨rfl, hnew⟩ := hsplit p
    · rw [hsame]
    · rw [hnew, (hfixed hp).2.2.2]
  · intro p
    obtain hsame | ⟨rfl, hnew⟩ := hsplit p
    · rw [hsame]
      exact .refl _
    · rw [hnew]
      exact hroles
  · exact hconsents
  · intro p hp
    obtain hsame | ⟨rfl, hnew⟩ := hsplit p
    · rw [hsame]
      exact hp
    · rw [hnew]
      exact hfunded hp

theorem Administers.preserves (h : Administers s s') : Preserves s s' := by
  obtain ⟨roles, paused, entered, participants, ids, consents⟩ := s'
  obtain ⟨rfl, rfl, rfl⟩ := h
  exact ⟨fun _ _ ↦ rfl, fun _ _ ↦ rfl, fun _ _ ↦ rfl, fun _ _ ↦ rfl, fun _ ↦ .refl _,
    fun _ _ _ ↦ rfl, fun _ h ↦ h⟩

theorem Effect.preserves (hs : WellKept s) {op : Op} {callout : Option Funding}
    (h : Effect P b sender s op s' callout) : Preserves s s' := by
  cases h with
  | administer _ _ _ hsame => exact hsame.preserves
  | approve p wallet roles expiresAt happroves =>
    have hblank := hs.blank p happroves.unapproved
    refine .edit rfl (fun _ _ _ ↦ rfl) (fun hwallet ↦ absurd happroves.unapproved hwallet) ?_ ?_
    · rw [hblank]
      exact subset_zero _
    · rw [hblank]
      exact id
  | fund => exact Administers.preserves ⟨rfl, rfl, rfl⟩
  | register p role consentVersion hregisters =>
    refine .edit rfl (fun p' role' hne ↦ ?_) (fun _ ↦ ⟨rfl, rfl, rfl, rfl⟩) (subset_or _ _) id
    -- A consent on record belongs to a registered role, and this role was not registered.
    have hother : ¬ (p' = p ∧ role' = role) := by
      rintro ⟨rfl, rfl⟩
      exact ((hs.consented _ _).mp hne).2 hregisters.role_new
    simp only [State.withRole, update₂_apply, if_neg hother]
  | setActive p active =>
    exact .edit rfl (fun _ _ _ ↦ rfl) (fun _ ↦ ⟨rfl, rfl, rfl, rfl⟩) (.refl _) id

theorem preserves_withFunding (s : State) (p : Bytes32) : Preserves s (s.withFunding p) :=
  .edit rfl (fun _ _ _ ↦ rfl) (fun _ ↦ ⟨rfl, rfl, rfl, rfl⟩) (.refl _) fun _ ↦ rfl

theorem Effect.wellKept (hs : WellKept s) {op : Op} {callout : Option Funding}
    (h : Effect P b sender s op s' callout) : WellKept s' := by
  cases h with
  | administer _ _ _ hsame => exact hs.administer hsame
  | approve p wallet roles expiresAt happroves => exact hs.approve happroves
  | fund => exact hs.administer ⟨rfl, rfl, rfl⟩
  | register p role consentVersion hregisters => exact hs.registerRole hregisters
  | setActive p active happroved => exact hs.edit happroved rfl rfl rfl

/-- A call that hands over nothing completes no funding. -/
theorem Effect.funded_eq (hs : WellKept s) {op : Op} (h : Effect P b sender s op s' none)
    (p : Bytes32) : (s'.participants p).initialFundingCompleted =
      (s.participants p).initialFundingCompleted := by
  cases h with
  | administer _ _ _ hsame => rw [hsame.participants]
  | approve p₀ wallet roles expiresAt happroves =>
    by_cases hp : p = p₀
    · subst hp
      rw [hs.blank p happroves.unapproved]
      simp [State.withApproval, Participant.blank]
    · simp [State.withApproval, hp]
  | register p₀ => by_cases hp : p = p₀ <;> simp [State.withRole, hp]
  | setActive p₀ => by_cases hp : p = p₀ <;> simp [hp]

/-! ## Moments of a run -/

/-- The records are well kept, and the fundings under way are those of approved participants. -/
structure InOrder (m : RegistryMoment) : Prop where
  kept : WellKept m.world.state
  approved : ∀ f ∈ m.opened, (m.world.state.participants f.participantId).wallet ≠ 0

theorem Small.inOrder {m m' : RegistryMoment} (hm : InOrder m) (h : Small P m m') :
    InOrder m' ∧ Preserves m.world.state m'.world.state := by
  cases h with
  | tick b hb => exact ⟨⟨hm.kept, hm.approved⟩, .refl _⟩
  | call msg op s callout heff =>
    have hpreserves := heff.preserves hm.kept
    refine ⟨⟨heff.wellKept hm.kept, fun f hf ↦ ?_⟩, hpreserves⟩
    have happroved : (m.world.state.participants f.participantId).wallet ≠ 0 := by
      obtain hnew | hopened := List.mem_append.mp hf
      · cases heff with
        | fund f' hfunds =>
          obtain rfl := List.mem_singleton.mp hnew
          exact hfunds.approval.approved
        | _ => exact absurd hnew List.not_mem_nil
      · exact hm.approved f hopened
    rwa [hpreserves.wallet _ happroved]
  | funded f opened hopened =>
    have happroved := hm.approved f (by simp [hopened])
    have hcompleted : WellKept { m.world.state with
        participants := Function.update m.world.state.participants f.participantId
          { m.world.state.participants f.participantId with initialFundingCompleted := true } } :=
      hm.kept.edit happroved rfl rfl rfl
    refine ⟨⟨hcompleted.administer ⟨rfl, rfl, rfl⟩, fun f' hf' ↦ ?_⟩, preserves_withFunding _ _⟩
    have happroved' := hm.approved f' (hopened ▸ List.mem_cons_of_mem f hf')
    rwa [(preserves_withFunding _ _).wallet _ happroved']

theorem Observable.inOrder {m : RegistryMoment} (h : Observable P d m) : InOrder m :=
  h.invariant (fun _ ↦ ⟨wellKept_initial, fun _ hf ↦ absurd hf List.not_mem_nil⟩)
    fun _ _ hm hs ↦ (hs.inOrder hm).1

/-- From any moment on, nothing that is on record is lost. -/
theorem Observable.preserves {m m' : RegistryMoment} (h : Observable P d m)
    (hr : ReflTransGen (contract P d).Next m m') :
    Preserves m.world.state m'.world.state := by
  suffices InOrder m' ∧ Preserves m.world.state m'.world.state from this.2
  refine run_invariant (I := fun v ↦ InOrder v ∧ Preserves m.world.state v.world.state)
    (fun v v' _ hv hm ↦ ?_) hr ⟨h.inOrder, .refl _⟩
  obtain ⟨horder, hpreserves⟩ := (next_small hm).inOrder hv.1
  exact ⟨horder, hv.2.trans hpreserves⟩

/-- The wallet of a participant has registered a role by a transaction of its own. -/
def SelfRegistered (w : RegistryWorld) (p : Bytes32) (role : Uint 8) : Prop :=
  ∃ e ∈ w.journal, e.op = .registerSelf role (w.state.consentVersions p role) ∧
    e.msg.sender = (w.state.participants p).wallet

/-- Every registered role was registered by the wallet. -/
def OwnRoles (w : RegistryWorld) : Prop :=
  ∀ p role, w.state.consentVersions p role ≠ 0 → SelfRegistered w p role

theorem Small.ownRoles {m m' : RegistryMoment} (horder : InOrder m) (hm : OwnRoles m.world)
    (h : Small P m m') : OwnRoles m'.world := by
  have hpreserves := (h.inOrder horder).2
  have hkept : ∀ p role, m.world.state.consentVersions p role ≠ 0 →
      m.world.journal ⊆ m'.world.journal → SelfRegistered m'.world p role := by
    intro p role hne hjournal
    obtain ⟨e, he, hop, hsender⟩ := hm p role hne
    -- A consent stands for a registered role, so the participant is approved.
    have happroved : (m.world.state.participants p).wallet ≠ 0 := by
      intro hwallet
      have hregistered := ((horder.kept.consented p role).mp hne).2
      rw [horder.kept.blank p hwallet] at hregistered
      exact hregistered (Fin.ext ((Fin.and_val _ _).trans (Nat.zero_and _)))
    refine ⟨e, hjournal he, ?_, ?_⟩
    · rw [hpreserves.consentVersions p role hne]
      exact hop
    · rw [hpreserves.wallet p happroved]
      exact hsender
  intro p role hne
  cases h with
  | tick | funded => exact hkept p role hne (List.Subset.refl _)
  | call msg op s callout heff =>
    by_cases hbefore : m.world.state.consentVersions p role ≠ 0
    · exact hkept p role hbefore (List.subset_cons_self _ _)
    · cases heff with
      | administer _ _ _ hsame => exact absurd (hsame.consentVersions ▸ hne) hbefore
      | approve | fund | setActive => exact absurd hne hbefore
      | register p₀ role₀ consentVersion hregisters =>
        have hnew : p = p₀ ∧ role = role₀ := by
          by_contra hother
          simp only [State.withRole, update₂_apply, if_neg hother] at hne
          exact hbefore hne
        obtain ⟨rfl, rfl⟩ := hnew
        refine ⟨_, List.mem_cons_self, ?_, ?_⟩
        · simp only [State.withRole, update₂_self]
        · simp only [State.withRole, Function.update_self]
          exact hregisters.wallet_eq.symm

theorem Observable.ownRoles {m : RegistryMoment} (h : Observable P d m) : OwnRoles m.world := by
  suffices InOrder m ∧ OwnRoles m.world from this.2
  apply h.invariant (I := fun m ↦ InOrder m ∧ OwnRoles m.world)
  · intro b
    exact ⟨⟨wellKept_initial, fun _ hf ↦ absurd hf List.not_mem_nil⟩, fun _ _ hne ↦ absurd rfl hne⟩
  · intro v v' hv hs
    exact ⟨(hs.inOrder hv.1).1, hs.ownRoles hv.1 hv.2⟩

/-! ## The registry at every moment -/

/-- What the records of the registry satisfy. -/
structure RegistrySafe (w : RegistryWorld) : Prop where
  inverse : ∀ p a, p ≠ 0 → a ≠ 0 →
    ((w.state.participants p).wallet = a ↔ w.state.participantIdByWallet a = p)
  no_participant : (w.state.participants 0).wallet = 0
  no_wallet : w.state.participantIdByWallet 0 = 0
  approvedRoles : ∀ p, (w.state.participants p).wallet ≠ 0 →
    (w.state.participants p).approvedRoles ≠ 0 ∧
      Subset (w.state.participants p).approvedRoles ALL_ROLES
  registeredRoles : ∀ p,
    Subset (w.state.participants p).registeredRoles (w.state.participants p).approvedRoles
  consented : ∀ p role, w.state.consentVersions p role ≠ 0 ↔
    isSingleRole role = true ∧ (w.state.participants p).registeredRoles &&& role ≠ 0
  selfRegistered : ∀ p role, isSingleRole role = true →
    (w.state.participants p).registeredRoles &&& role ≠ 0 → SelfRegistered w p role

/-- At every moment of every run, also while a funding is under way, the records are in order, and
whatever comes later keeps what is on record then. -/
theorem participants_registry {m : RegistryMoment} (h : Observable P d m) :
    RegistrySafe m.world ∧
      ∀ m', ReflTransGen (contract P d).Next m m' → Preserves m.world.state m'.world.state := by
  have hkept := h.inOrder.kept
  refine ⟨?_, fun m' hr ↦ h.preserves hr⟩
  exact {
    inverse := hkept.inverse
    no_participant := hkept.no_participant
    no_wallet := hkept.no_wallet
    approvedRoles := hkept.approved
    registeredRoles := hkept.registered
    consented := hkept.consented
    selfRegistered := fun p role hsingle hregistered ↦
      h.ownRoles p role ((hkept.consented p role).mpr ⟨hsingle, hregistered⟩) }

/-- The view says whether the participant that the wallet is bound to is active in the role. -/
theorem isRegistered_iff (hs : WellKept s) {wallet : Address} (hwallet : wallet ≠ 0)
    {role : Uint 8} :
    isRegistered wallet role s = true ↔ isSingleRole role = true ∧
      ∃ p, p ≠ 0 ∧ (s.participants p).wallet = wallet ∧ (s.participants p).active = true ∧
        (s.participants p).registeredRoles &&& role ≠ 0 := by
  unfold isRegistered
  split
  · next hsingle => simp [hsingle]
  · next hsingle =>
    dsimp only
    split
    · next hid =>
      refine iff_of_false Bool.false_ne_true fun ⟨_, p, hp, hbound, _⟩ ↦ hp ?_
      rw [← hid]
      exact ((hs.inverse p wallet hp hwallet).mp hbound).symm
    · next hid =>
      rw [Bool.and_eq_true, decide_eq_true_iff]
      constructor
      · rintro ⟨hactive, hregistered⟩
        exact ⟨by simpa using hsingle, _, hid, (hs.inverse _ _ hid hwallet).mpr rfl, hactive,
          hregistered⟩
      · rintro ⟨-, p, hp, hbound, hactive, hregistered⟩
        rw [(hs.inverse p wallet hp hwallet).mp hbound]
        exact ⟨hactive, hregistered⟩

/-! ## A small run

A participant is approved and funded, and its wallet registers a role while the funding is under
way. -/

namespace Sample

def admin : Address := 1
def operator : Address := 2
def wallet : Address := 0x50

def hashes : List (Bytes × Bytes32) :=
  [(utf8 "APPROVER_ROLE", 0x408a36151f841709116a4e8aca4e0202874f7f54687dcb863b1ea4672dc9d8cf),
   (utf8 "PAUSER_ROLE", 0x65d7a28e3265b37a6474929f336521b332c1681b933f6cb9f3376673440d862a),
   (utf8 "REGISTRAR_ROLE", 0xedcc084d3dcd65a1f7f23c65c46722faca6953d28e43150a467cf43e5c309238),
   (utf8 "DISTRIBUTOR_ROLE",
    0xfbd454f36a7e1a388bd6fc3ab10d434aa4578f811acbbcf33afb1c697486313c)]

def primitives : Primitives where
  keccak256 x := (hashes.lookup x).getD 0
  recover _ _ := none
  verifyProof _ _ _ := false

def deployment : Deployment where
  self := 0x2000
  admin := admin
  approver := operator
  distributor := 0x1000
  admin_ne := by decide
  approver_ne := by decide
  distributor_ne := by decide

def tx (timestamp : ℕ) (sender : Address) (op : Op) : RegistryTx :=
  { block := ⟨timestamp, 80002⟩, msg := ⟨sender, 0⟩, op }

def history : List RegistryTx :=
  [tx 1000 operator (.approveClaimedInvitation 11 wallet ALL_ROLES 5000),
   { tx 1010 operator (.fundInitial 11 21) with
     inner := .cons ⟨wallet, 0⟩ (.registerSelf USER_ROLE 31) .nil true .nil }]

def enrolled : RegistryWorld :=
  (contract primitives deployment).run history (genesis primitives deployment ⟨900, 80002⟩)

theorem reachable_enrolled : Reachable primitives deployment enrolled :=
  ⟨⟨900, 80002⟩, Contract.reaches_run (by decide)⟩

end Sample

/-- The role registered from inside the funding is on record. -/
theorem participants_registry_enrolled :
    RegistrySafe Sample.enrolled ∧
      isRegistered Sample.wallet USER_ROLE Sample.enrolled.state = true ∧
      (Sample.enrolled.state.participants 11).initialFundingCompleted = true :=
  ⟨(participants_registry Sample.reachable_enrolled.observable).1, by decide +kernel,
    by decide +kernel⟩

end CreatorFirst.Participants
