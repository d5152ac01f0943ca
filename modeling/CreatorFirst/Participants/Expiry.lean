import CreatorFirst.Participants.Registry

/-!
# Registrations and the deadline of an approval

The approval of a participant names a deadline for its registrations. The view of approved claims
compares it with the block time; a registration does so only while no role is registered. The two
agree except where a further role is registered after the deadline.
-/

namespace CreatorFirst.Participants

open Chain Relation

variable {P : Primitives} {d : Deployment} {b : Block} {sender wallet : Address} {s : State}
  {role : Uint 8} {consentVersion : Bytes32}

/-! ## What a registration checks -/

/-- Whose checks pass registers. -/
theorem Registers.registerSelf_eq {participantId : Bytes32}
    (h : Registers b sender participantId role consentVersion s) :
    registerSelf b sender role consentVersion s =
      .ok (s.withRole participantId role consentVersion) := by
  have hid := h.participant_eq
  subst hid
  simp only [registerSelf, revertIf_bind_eq_ok, activeApproval_bind_eq_ok, pure_eq_ok]
  have hinput : ¬ (isSingleRole role = false ∨ consentVersion = 0) := by
    simp [h.single, h.consent_ne]
  exact ⟨by simp [h.not_paused], hinput, h.participant_ne, h.approval, by simp [h.wallet_eq],
    h.role_approved, by simp [h.role_new], rfl⟩

theorem registerSelf_isOk_iff :
    (registerSelf b sender role consentVersion s).isOk = true ↔
      ∃ participantId, Registers b sender participantId role consentVersion s := by
  constructor
  · intro h
    cases hs : registerSelf b sender role consentVersion s with
    | error e =>
      rw [hs] at h
      cases h
    | ok s' =>
      obtain ⟨participantId, hregisters, -⟩ := registerSelf_ok hs
      exact ⟨participantId, hregisters⟩
  · rintro ⟨participantId, hregisters⟩
    rw [hregisters.registerSelf_eq]
    rfl

/-- The view of a claim whose role and wallet are known. -/
theorem isClaimApproved_iff (hrole : isSingleRole role = true)
    (hid : s.participantIdByWallet wallet ≠ 0) :
    isClaimApproved b wallet role s = true ↔
      (s.participants (s.participantIdByWallet wallet)).active = true ∧
        b.timestamp ≤ (s.participants (s.participantIdByWallet wallet)).approvalExpiresAt ∧
          (s.participants (s.participantIdByWallet wallet)).approvedRoles &&& role ≠ 0 := by
  simp [isClaimApproved, hrole, hid, and_assoc]

/-- A registration finds its claim approved unless the deadline has passed. -/
theorem Registers.isClaimApproved_iff {participantId : Bytes32}
    (h : Registers b sender participantId role consentVersion s) :
    isClaimApproved b sender role s = true ↔
      b.timestamp ≤ (s.participants participantId).approvalExpiresAt := by
  have hid := h.participant_eq
  subst hid
  rw [Participants.isClaimApproved_iff h.single h.participant_ne]
  constructor
  · intro hclaim
    exact hclaim.2.1
  · intro hdeadline
    exact ⟨h.approval.active, hdeadline, h.role_approved⟩

/-! ## The deadline -/

/-- A registration succeeds only for a claim that the view reports as approved. -/
def RespectsExpiry (b : Block) (sender : Address) (role : Uint 8) (consentVersion : Bytes32)
    (s : State) : Prop :=
  (registerSelf b sender role consentVersion s).isOk = true →
    isClaimApproved b sender role s = true

/-- The record of a participant at a time when its deadline has passed and some of its roles is
registered, but not `role`, which is approved. -/
structure Participant.LateFor (participant : Participant) (b : Block) (role : Uint 8) : Prop where
  active : participant.active = true
  expired : (participant.approvalExpiresAt : ℕ) < b.timestamp
  registered : participant.registeredRoles ≠ 0
  role_approved : participant.approvedRoles &&& role ≠ 0
  role_new : participant.registeredRoles &&& role = 0

/-- The registry is open, and the wallet asks for a further role after its deadline. -/
structure LateFurtherRole (b : Block) (wallet : Address) (role : Uint 8) (consentVersion : Bytes32)
    (s : State) : Prop where
  not_paused : s.paused = false
  single : isSingleRole role = true
  consent_ne : consentVersion ≠ 0
  known : s.participantIdByWallet wallet ≠ 0
  late : (s.participants (s.participantIdByWallet wallet)).LateFor b role

/-- In well-kept records the wallet of a known participant is the one that it is known by. -/
theorem WellKept.wallet_eq (hs : WellKept s) (hid : s.participantIdByWallet wallet ≠ 0) :
    wallet ≠ 0 ∧ (s.participants (s.participantIdByWallet wallet)).wallet = wallet := by
  have hwallet : wallet ≠ 0 := by
    intro hzero
    rw [hzero] at hid
    exact hid hs.no_wallet
  exact ⟨hwallet, (hs.inverse _ _ hid hwallet).mpr rfl⟩

/-- A further role after the deadline is registered. -/
theorem LateFurtherRole.registers (hs : WellKept s)
    (h : LateFurtherRole b wallet role consentVersion s) :
    Registers b wallet (s.participantIdByWallet wallet) role consentVersion s := by
  obtain ⟨hwallet, hbound⟩ := hs.wallet_eq h.known
  exact {
    not_paused := h.not_paused
    single := h.single
    consent_ne := h.consent_ne
    participant_eq := rfl
    participant_ne := h.known
    approval :=
      { approved := by rwa [hbound]
        active := h.late.active
        current := fun hnone ↦ absurd hnone h.late.registered }
    wallet_eq := hbound
    role_approved := h.late.role_approved
    role_new := h.late.role_new }

/-- A registration after the deadline is one of a further role. -/
theorem Registers.lateFurtherRole {participantId : Bytes32}
    (h : Registers b sender participantId role consentVersion s)
    (hexpired : ((s.participants participantId).approvalExpiresAt : ℕ) < b.timestamp) :
    LateFurtherRole b sender role consentVersion s := by
  have hid := h.participant_eq
  subst hid
  have hregistered : (s.participants (s.participantIdByWallet sender)).registeredRoles ≠ 0 :=
    fun hnone ↦ absurd (h.approval.current hnone) (not_le.mpr hexpired)
  exact ⟨h.not_paused, h.single, h.consent_ne, h.participant_ne,
    ⟨h.approval.active, hexpired, hregistered, h.role_approved, h.role_new⟩⟩

/-- At every moment of every run, a registration respects the deadline exactly if it is not the one
of a further role after it. -/
theorem registerSelf_respectsExpiry_iff {m : RegistryMoment} (h : Observable P d m) (b : Block)
    (wallet : Address) (role : Uint 8) (consentVersion : Bytes32) :
    RespectsExpiry b wallet role consentVersion m.world.state ↔
      ¬ LateFurtherRole b wallet role consentVersion m.world.state := by
  have hkept := h.inOrder.kept
  constructor
  · intro hrespects hlate
    have hregisters := hlate.registers hkept
    have hclaim := hrespects (registerSelf_isOk_iff.mpr ⟨_, hregisters⟩)
    exact absurd (hregisters.isClaimApproved_iff.mp hclaim) (not_le.mpr hlate.late.expired)
  · intro hnot hok
    obtain ⟨participantId, hregisters⟩ := registerSelf_isOk_iff.mp hok
    apply hregisters.isClaimApproved_iff.mpr
    apply not_lt.mp
    intro hexpired
    exact hnot (hregisters.lateFurtherRole hexpired)

/-- The wallet of the small run, whose first role is registered, takes the second one in time. -/
theorem registerSelf_respectsExpiry_enrolled :
    RespectsExpiry ⟨5000, 80002⟩ Sample.wallet CREATOR_ROLE 32 Sample.enrolled.state :=
  (registerSelf_respectsExpiry_iff Sample.reachable_enrolled.observable _ _ _ _).mpr fun h ↦
    absurd h.late.expired (by decide +kernel)

/-- The same wallet takes its second role after the deadline, when its claim is not approved. -/
theorem further_role_after_deadline :
    Reachable Sample.primitives Sample.deployment Sample.enrolled ∧
      Sample.enrolled.block.timestamp ≤ 6000 ∧
      (registerSelf ⟨6000, 80002⟩ Sample.wallet CREATOR_ROLE 32 Sample.enrolled.state).isOk ∧
      isClaimApproved ⟨6000, 80002⟩ Sample.wallet CREATOR_ROLE Sample.enrolled.state = false :=
  ⟨Sample.reachable_enrolled, by decide +kernel, by decide +kernel, by decide +kernel⟩

end CreatorFirst.Participants
