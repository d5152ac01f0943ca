import CreatorFirst.Participants.Machine

/-!
# What each operation of the registry can do

For every external function, the facts that its success implies and the storage it leaves. A
participant's record changes only in four ways: it is approved, it is funded, one of its roles is
registered, or it is switched on or off.
-/

namespace CreatorFirst.Participants

open Chain Relation

variable {P : Primitives} {d : Deployment} {b : Block} {sender : Address} {s s' : State}

theorem onlyRole_bind_eq_ok {α : Type} {role : Bytes32} {f : Unit → Except Error α} {y : α} :
    (onlyRole sender role s >>= f) = .ok y ↔ s.roles role sender = true ∧ f () = .ok y :=
  Roles.required_bind_eq_ok

/-- A participant is active, and its approval has not run out before it was used. -/
structure ActiveApproval (b : Block) (participantId : Bytes32) (s : State) : Prop where
  approved : (s.participants participantId).wallet ≠ 0
  active : (s.participants participantId).active = true
  current : (s.participants participantId).registeredRoles = 0 →
    b.timestamp ≤ (s.participants participantId).approvalExpiresAt

theorem activeApproval_bind_eq_ok {α : Type} {participantId : Bytes32}
    {f : Participant → Except Error α} {y : α} :
    (activeApproval b participantId s >>= f) = .ok y ↔
      ActiveApproval b participantId s ∧ f (s.participants participantId) = .ok y := by
  simp only [activeApproval, bind_eq_ok, revertIf_eq_ok, pure_eq_ok]
  constructor
  · rintro ⟨_, ⟨_, hwallet, _, hactive, _, hcurrent, rfl⟩, hf⟩
    refine ⟨⟨hwallet, by simpa using hactive, fun hzero ↦ ?_⟩, hf⟩
    exact not_lt.mp fun hlt ↦ hcurrent ⟨hzero, hlt⟩
  · rintro ⟨⟨hwallet, hactive, hcurrent⟩, hf⟩
    refine ⟨_, ⟨(), hwallet, (), by simp [hactive], (), ?_, rfl⟩, hf⟩
    rintro ⟨hzero, hlt⟩
    exact absurd hlt (not_lt.mpr (hcurrent hzero))

/-! ## Approvals -/

/-- The checks of an approval. -/
structure Approves (P : Primitives) (b : Block) (sender : Address) (participantId : Bytes32)
    (wallet : Address) (approvedRoles : Uint 8) (approvalExpiresAt : Uint 64) (s : State) :
    Prop where
  approver : s.roles (APPROVER_ROLE P) sender = true
  not_paused : s.paused = false
  participant_ne : participantId ≠ 0
  wallet_ne : wallet ≠ 0
  roles_ne : approvedRoles ≠ 0
  roles_known : approvedRoles &&& Uint.complement ALL_ROLES = 0
  in_future : b.timestamp < (approvalExpiresAt : ℕ)
  unapproved : (s.participants participantId).wallet = 0
  wallet_free : s.participantIdByWallet wallet = 0

def State.withApproval (s : State) (b : Block) (participantId : Bytes32) (wallet : Address)
    (approvedRoles : Uint 8) (approvalExpiresAt : Uint 64) : State :=
  { s with
    participants := Function.update s.participants participantId
      { wallet, approvedRoles, registeredRoles := 0, approvedAt := Uint.truncate 64 b.timestamp,
        approvalExpiresAt, active := true, initialFundingCompleted := false }
    participantIdByWallet := Function.update s.participantIdByWallet wallet participantId }

theorem approveClaimedInvitation_ok {participantId : Bytes32} {wallet : Address}
    {approvedRoles : Uint 8} {approvalExpiresAt : Uint 64}
    (h : approveClaimedInvitation P b sender participantId wallet approvedRoles approvalExpiresAt s =
      .ok s') :
    Approves P b sender participantId wallet approvedRoles approvalExpiresAt s ∧
      s' = s.withApproval b participantId wallet approvedRoles approvalExpiresAt := by
  simp only [approveClaimedInvitation, onlyRole_bind_eq_ok, revertIf_bind_eq_ok, pure_eq_ok] at h
  obtain ⟨hrole, hpaused, hid, hwallet, hroles, hexpiry, hfresh, hfree, rfl⟩ := h
  obtain ⟨hne, hknown⟩ := not_or.mp hroles
  exact ⟨⟨hrole, Bool.eq_false_iff.mpr hpaused, hid, hwallet, hne, not_not.mp hknown,
    not_le.mp hexpiry, not_not.mp hfresh, not_not.mp hfree⟩, rfl⟩

/-! ## Fundings -/

/-- The checks of an initial funding, up to the call of the distributor. -/
structure Funds (P : Primitives) (b : Block) (sender : Address) (f : Funding) (s : State) :
    Prop where
  approver : s.roles (APPROVER_ROLE P) sender = true
  not_paused : s.paused = false
  not_entered : s.entered = false
  operation_ne : f.operationId ≠ 0
  approval : ActiveApproval b f.participantId s
  not_completed : (s.participants f.participantId).initialFundingCompleted = false
  wallet_eq : f.wallet = (s.participants f.participantId).wallet

theorem fundInitial_ok {participantId operationId : Bytes32} {o : Outcome State Funding}
    (h : fundInitial P b sender participantId operationId s = .ok o) :
    ∃ f : Funding, f.participantId = participantId ∧ f.operationId = operationId ∧
      Funds P b sender f s ∧ o = .callout { s with entered := true } f := by
  simp only [fundInitial, onlyRole_bind_eq_ok, revertIf_bind_eq_ok, activeApproval_bind_eq_ok,
    pure_eq_ok] at h
  obtain ⟨hrole, hpaused, hentered, hid, happroval, hnew, rfl⟩ := h
  exact ⟨_, rfl, rfl, ⟨hrole, Bool.eq_false_iff.mpr hpaused, Bool.eq_false_iff.mpr hentered, hid,
    happroval, Bool.eq_false_iff.mpr hnew, rfl⟩, rfl⟩

def State.withFunding (s : State) (participantId : Bytes32) : State :=
  { s with
    participants := Function.update s.participants participantId
      { s.participants participantId with initialFundingCompleted := true }
    entered := false }

theorem afterFunding_ok {f : Funding} {success : Bool} (h : afterFunding f success s = .ok s') :
    success = true ∧ s' = s.withFunding f.participantId := by
  simp only [afterFunding, revertIf_bind_eq_ok, pure_eq_ok, Bool.not_eq_false] at h
  exact ⟨h.1, h.2.symm⟩

/-! ## Role registrations -/

/-- The checks of a role registration by the wallet of `participantId`. -/
structure Registers (b : Block) (sender : Address) (participantId : Bytes32) (role : Uint 8)
    (consentVersion : Bytes32) (s : State) : Prop where
  not_paused : s.paused = false
  single : isSingleRole role = true
  consent_ne : consentVersion ≠ 0
  participant_eq : participantId = s.participantIdByWallet sender
  participant_ne : participantId ≠ 0
  approval : ActiveApproval b participantId s
  wallet_eq : (s.participants participantId).wallet = sender
  role_approved : (s.participants participantId).approvedRoles &&& role ≠ 0
  role_new : (s.participants participantId).registeredRoles &&& role = 0

def State.withRole (s : State) (participantId : Bytes32) (role : Uint 8)
    (consentVersion : Bytes32) : State :=
  { s with
    participants := Function.update s.participants participantId
      { s.participants participantId with
        registeredRoles := (s.participants participantId).registeredRoles ||| role }
    consentVersions := update₂ s.consentVersions participantId role consentVersion }

theorem registerSelf_ok {role : Uint 8} {consentVersion : Bytes32}
    (h : registerSelf b sender role consentVersion s = .ok s') :
    ∃ participantId, Registers b sender participantId role consentVersion s ∧
      s' = s.withRole participantId role consentVersion := by
  simp only [registerSelf, revertIf_bind_eq_ok, activeApproval_bind_eq_ok, pure_eq_ok] at h
  obtain ⟨hpaused, hinput, hid, happroval, hwallet, happroved, hnew, rfl⟩ := h
  obtain ⟨hsingle, hconsent⟩ := not_or.mp hinput
  exact ⟨_, ⟨Bool.eq_false_iff.mpr hpaused, by simpa using hsingle, hconsent, rfl, hid, happroval,
    not_not.mp hwallet, happroved, not_not.mp hnew⟩, rfl⟩

/-! ## All operations -/

/-- No record changes. -/
structure Administers (s s' : State) : Prop where
  participants : s'.participants = s.participants
  participantIdByWallet : s'.participantIdByWallet = s.participantIdByWallet
  consentVersions : s'.consentVersions = s.consentVersions

/-- Operations on roles and on the pause. -/
def Op.administrative : Op → Bool
  | .access _ | .pause | .unpause => true
  | _ => false

/-- What each operation leaves, and the funding it asks for. -/
inductive Effect (P : Primitives) (b : Block) (sender : Address) (s : State) :
    Op → State → Option Funding → Prop
  | administer (op : Op) (s' : State) (hop : op.administrative = true) (h : Administers s s') :
      Effect P b sender s op s' none
  | approve (participantId : Bytes32) (wallet : Address) (approvedRoles : Uint 8)
      (approvalExpiresAt : Uint 64)
      (h : Approves P b sender participantId wallet approvedRoles approvalExpiresAt s) :
      Effect P b sender s
        (.approveClaimedInvitation participantId wallet approvedRoles approvalExpiresAt)
        (s.withApproval b participantId wallet approvedRoles approvalExpiresAt) none
  | fund (f : Funding) (h : Funds P b sender f s) :
      Effect P b sender s (.fundInitial f.participantId f.operationId) { s with entered := true }
        (some f)
  | register (participantId : Bytes32) (role : Uint 8) (consentVersion : Bytes32)
      (h : Registers b sender participantId role consentVersion s) :
      Effect P b sender s (.registerSelf role consentVersion)
        (s.withRole participantId role consentVersion) none
  | setActive (participantId : Bytes32) (active : Bool)
      (happroved : (s.participants participantId).wallet ≠ 0) :
      Effect P b sender s (.setParticipantActive participantId active)
        { s with
          participants := Function.update s.participants participantId
            { s.participants participantId with active } } none

theorem finish_eq_ok {r : Except Error State} {o : Outcome State Funding} :
    finish r = .ok o ↔ ∃ s', r = .ok s' ∧ o = .done s' := by
  unfold finish
  rw [bind_eq_ok]
  simp only [pure_eq_ok]
  constructor
  · rintro ⟨s', hs', rfl⟩
    exact ⟨s', hs', rfl⟩
  · rintro ⟨s', hs', rfl⟩
    exact ⟨s', hs', rfl⟩

/-- Every successful operation is one of the effects. -/
theorem Op.effect {op : Op} {o : Outcome State Funding} (h : op.apply P b sender s = .ok o) :
    Effect P b sender s op o.state o.frame? := by
  cases op with
  | access op =>
    obtain ⟨s', hs', rfl⟩ := finish_eq_ok.mp h
    obtain ⟨roles, -, hs'⟩ := bind_eq_ok.mp hs'
    obtain rfl := pure_eq_ok.mp hs'
    exact .administer _ _ rfl ⟨rfl, rfl, rfl⟩
  | approveClaimedInvitation participantId wallet approvedRoles approvalExpiresAt =>
    obtain ⟨s', hs', rfl⟩ := finish_eq_ok.mp h
    obtain ⟨happroves, rfl⟩ := approveClaimedInvitation_ok hs'
    exact .approve participantId wallet approvedRoles approvalExpiresAt happroves
  | fundInitial participantId operationId =>
    obtain ⟨f, rfl, rfl, hfunds, rfl⟩ := fundInitial_ok h
    exact .fund f hfunds
  | registerSelf role consentVersion =>
    obtain ⟨s', hs', rfl⟩ := finish_eq_ok.mp h
    obtain ⟨participantId, hregisters, rfl⟩ := registerSelf_ok hs'
    exact .register participantId role consentVersion hregisters
  | setParticipantActive participantId active =>
    obtain ⟨s', hs', rfl⟩ := finish_eq_ok.mp h
    simp only [Participants.setParticipantActive, onlyRole_bind_eq_ok, revertIf_bind_eq_ok,
      pure_eq_ok] at hs'
    obtain ⟨-, happroved, rfl⟩ := hs'
    exact .setActive participantId active happroved
  | pause =>
    obtain ⟨s', hs', rfl⟩ := finish_eq_ok.mp h
    simp only [Participants.pause, onlyRole_bind_eq_ok, revertIf_bind_eq_ok, pure_eq_ok] at hs'
    obtain ⟨-, -, rfl⟩ := hs'
    exact .administer _ _ rfl ⟨rfl, rfl, rfl⟩
  | unpause =>
    obtain ⟨s', hs', rfl⟩ := finish_eq_ok.mp h
    simp only [Participants.unpause, onlyRole_bind_eq_ok, revertIf_bind_eq_ok, pure_eq_ok] at hs'
    obtain ⟨-, -, rfl⟩ := hs'
    exact .administer _ _ rfl ⟨rfl, rfl, rfl⟩

/-! ## Moments -/

/-- From one moment of a run to the next: a later block, a call with its effect, or the distributor
that has returned to the innermost funding. -/
inductive Small (P : Primitives) (m : RegistryMoment) : RegistryMoment → Prop
  | tick (b : Block) (h : m.world.block.timestamp ≤ b.timestamp) :
      Small P m ⟨{ m.world with block := b }, m.opened⟩
  | call (msg : Msg) (op : Op) (s : State) (callout : Option Funding)
      (h : Effect P m.world.block msg.sender m.world.state op s callout) :
      Small P m ⟨⟨m.world.block, s, ⟨m.world.block, msg, op, m.world.state, callout⟩ ::
        m.world.journal⟩, callout.toList ++ m.opened⟩
  | funded (f : Funding) (opened : List Funding) (h : m.opened = f :: opened) :
      Small P m ⟨{ m.world with state := m.world.state.withFunding f.participantId }, opened⟩

theorem next_small {m m' : RegistryMoment} (h : (contract P d).Next m m') : Small P m m' := by
  cases h with
  | tick w b hb => exact .tick b hb
  | finish w opened msg op s hs =>
    obtain ⟨-, hs⟩ := revertIf_bind_eq_ok.mp hs
    obtain ⟨-, hs⟩ := revertIf_bind_eq_ok.mp hs
    exact .call msg op s none (Op.effect hs)
  | enter w opened msg op s f hs =>
    obtain ⟨-, hs⟩ := revertIf_bind_eq_ok.mp hs
    obtain ⟨-, hs⟩ := revertIf_bind_eq_ok.mp hs
    exact .call msg op s (some f) (Op.effect hs)
  | leave w opened f success s hs =>
    obtain ⟨-, rfl⟩ := afterFunding_ok hs
    exact .funded f opened rfl

/-- A property of the fresh registry that every step preserves holds at every moment. -/
theorem Observable.invariant {I : RegistryMoment → Prop}
    (hgenesis : ∀ b, I ⟨genesis P d b, []⟩) (hstep : ∀ m m', I m → Small P m m' → I m')
    {m : RegistryMoment} (h : Observable P d m) : I m := by
  obtain ⟨b, hb⟩ := h
  exact run_invariant (fun v v' _ hv hm ↦ hstep v v' hv (next_small hm)) hb (hgenesis b)

end CreatorFirst.Participants
