import CreatorFirst.Chain.Abi
import CreatorFirst.Database.Table
import CreatorFirst.Time.Date

/-!
# The table of enrollments

A row is inserted once and then only updated; the audit trail is kept beside it.
-/

namespace CreatorFirst.Enrollment

open Chain Database

inductive EnrollmentState where
  | readyForApproval
  | approvalSubmitted
  | approved
  | fundingSubmitted
  | funded
  | approvalFailed
  | fundingFailed
  deriving DecidableEq

/-- The states after the approval, up to a failed funding. -/
def EnrollmentState.isFunding : EnrollmentState → Bool
  | .approved | .fundingSubmitted | .fundingFailed => true
  | _ => false

structure Row where
  invitationId : String
  participantId : Bytes32
  operationId : Bytes32
  walletAddress : Address
  roleBits : ℕ
  state : EnrollmentState := .readyForApproval
  approvalExpiresAt : Date
  approvalTxHash : Option String := none
  approvalConfirmedAt : Option Date := none
  fundingTxHash : Option String := none
  fundingConfirmedAt : Option Date := none
  initialFundingAmountAtomic : Option ℕ := none
  lastErrorCode : Option String := none
  lastErrorMessage : Option String := none
  createdAt : Date
  updatedAt : Date
  deriving DecidableEq

abbrev Rows := Table Row.invitationId

/-- An audit event with its detail. -/
inductive EventType where
  | enrollmentPrepared (roles : ℕ)
  | onchainApprovalConfirmed (transactionHash : String) (blockNumber : ℕ)
  | initialTestPolConfirmed (transactionHash : String) (blockNumber amountAtomic : ℕ)
  | onchainApprovalFailed (code : String)
  | initialTestPolFailed (code : String)
  deriving DecidableEq

structure Event where
  invitationId : String
  eventType : EventType
  occurredAt : Date
  deriving DecidableEq

/-- The event confirms an initial funding. -/
def Event.confirms (e : Event) : Bool :=
  match e.eventType with
  | .initialTestPolConfirmed _ _ _ => true
  | _ => false

/-- The part of the enrollment that is in progress when it fails. -/
inductive FailedPhase where
  | approval
  | funding
  deriving DecidableEq

namespace Row

def approvalSubmitted (transactionHash : String) (updatedAt : Date) : Table.Rewrite Row.invitationId where
  apply r :=
    { r with
      state := .approvalSubmitted
      approvalTxHash := some transactionHash
      lastErrorCode := none
      lastErrorMessage := none
      updatedAt }
  key_apply _ := rfl

def approve (transactionHash : Option String) (confirmedAt : Date) : Table.Rewrite Row.invitationId where
  apply r :=
    { r with
      state := .approved
      approvalTxHash := transactionHash <|> r.approvalTxHash
      approvalConfirmedAt := some confirmedAt
      lastErrorCode := none
      lastErrorMessage := none
      updatedAt := confirmedAt }
  key_apply _ := rfl

def fundingSubmitted (transactionHash : String) (updatedAt : Date) : Table.Rewrite Row.invitationId where
  apply r :=
    { r with
      state := .fundingSubmitted
      fundingTxHash := some transactionHash
      lastErrorCode := none
      lastErrorMessage := none
      updatedAt }
  key_apply _ := rfl

def fund (transactionHash : Option String) (amountAtomic : ℕ) (confirmedAt : Date) :
    Table.Rewrite Row.invitationId where
  apply r :=
    { r with
      state := .funded
      fundingTxHash := transactionHash <|> r.fundingTxHash
      fundingConfirmedAt := some confirmedAt
      initialFundingAmountAtomic := some amountAtomic
      lastErrorCode := none
      lastErrorMessage := none
      updatedAt := confirmedAt }
  key_apply _ := rfl

def fail (phase : FailedPhase) (code message : String) (updatedAt : Date) :
    Table.Rewrite Row.invitationId where
  apply r :=
    { r with
      state := match phase with
        | .approval => .approvalFailed
        | .funding => .fundingFailed
      lastErrorCode := some code
      lastErrorMessage := some message
      updatedAt }
  key_apply _ := rfl

end Row

namespace Rows

variable (rows : Rows)

/-- `INSERT OR IGNORE`; the ids of participants and operations are unique as well. -/
def createParticipantEnrollment (row : Row) : Rows :=
  if rows.rows.any fun r ↦ r.participantId = row.participantId ∨ r.operationId = row.operationId then rows
  else rows.insertOrIgnore row

def markParticipantEnrollmentApprovalSubmitted (invitationId transactionHash : String) (updatedAt : Date) :
    Rows :=
  rows.update invitationId (fun r ↦ r.state = .readyForApproval ∨ r.state = .approvalFailed)
    (Row.approvalSubmitted transactionHash updatedAt)

def markParticipantEnrollmentApproved (invitationId : String) (transactionHash : Option String)
    (confirmedAt : Date) : Rows :=
  rows.update invitationId (fun r ↦ r.state ≠ .funded) (Row.approve transactionHash confirmedAt)

def markParticipantEnrollmentFundingSubmitted (invitationId transactionHash : String) (updatedAt : Date) :
    Rows :=
  rows.update invitationId (fun r ↦ r.state = .approved ∨ r.state = .fundingFailed)
    (Row.fundingSubmitted transactionHash updatedAt)

def markParticipantEnrollmentFunded (invitationId : String) (transactionHash : Option String)
    (amountAtomic : ℕ) (confirmedAt : Date) : Rows :=
  rows.update invitationId (fun _ ↦ True) (Row.fund transactionHash amountAtomic confirmedAt)

def failParticipantEnrollment (invitationId : String) (phase : FailedPhase) (code message : String)
    (updatedAt : Date) : Rows :=
  rows.update invitationId (fun r ↦ r.state ≠ .funded) (Row.fail phase code message updatedAt)

end Rows

/-! ## What the updates keep -/

/-- What an enrollment was created with. -/
structure Row.SameIdentity (row row' : Row) : Prop where
  participantId : row'.participantId = row.participantId
  operationId : row'.operationId = row.operationId
  walletAddress : row'.walletAddress = row.walletAddress
  roleBits : row'.roleBits = row.roleBits

theorem Row.SameIdentity.refl (row : Row) : row.SameIdentity row := ⟨rfl, rfl, rfl, rfl⟩

theorem Row.SameIdentity.trans {row row' row'' : Row} (h : row.SameIdentity row')
    (h' : row'.SameIdentity row'') : row.SameIdentity row'' where
  participantId := h'.participantId.trans h.participantId
  operationId := h'.operationId.trans h.operationId
  walletAddress := h'.walletAddress.trans h.walletAddress
  roleBits := h'.roleBits.trans h.roleBits

/-- Enrollments stay, those that are funded as they are, and none becomes funded. -/
structure Rows.Quiet (rows rows' : Rows) : Prop where
  kept : ∀ invitationId row, rows.find? invitationId = some row →
    ∃ row', rows'.find? invitationId = some row' ∧ row.SameIdentity row'
  funded : ∀ invitationId row, row.state = .funded →
    (rows'.find? invitationId = some row ↔ rows.find? invitationId = some row)

namespace Rows

variable {rows rows' rows'' : Rows}

theorem Quiet.refl (rows : Rows) : rows.Quiet rows :=
  ⟨fun _ row h ↦ ⟨row, h, .refl row⟩, fun _ _ _ ↦ Iff.rfl⟩

theorem Quiet.trans (h : rows.Quiet rows') (h' : rows'.Quiet rows'') : rows.Quiet rows'' where
  kept invitationId row hfound := by
    obtain ⟨row', hfound', hsame⟩ := h.kept invitationId row hfound
    obtain ⟨row'', hfound'', hsame'⟩ := h'.kept invitationId row' hfound'
    exact ⟨row'', hfound'', hsame.trans hsame'⟩
  funded invitationId row hstate := (h'.funded invitationId row hstate).trans (h.funded invitationId row hstate)

/-- An update of enrollments that are not funded, and are not funded after it. -/
theorem quiet_update {invitationId : String} {p : Row → Prop} [DecidablePred p]
    {f : Table.Rewrite Row.invitationId} (hsame : ∀ row : Row, row.SameIdentity (f.apply row))
    (hbefore : ∀ row, p row → row.state ≠ .funded) (hafter : ∀ row, (f.apply row).state ≠ .funded) :
    rows.Quiet (rows.update invitationId p f) where
  kept id row hfound := by
    rw [Table.find?_update, hfound]
    refine ⟨_, rfl, ?_⟩
    dsimp only
    split
    · exact hsame row
    · exact .refl row
  funded id row hstate := by
    rw [Table.find?_update, Option.map_eq_some_iff]
    constructor
    · rintro ⟨before, hfound, hrow⟩
      split at hrow
      · rw [← hrow] at hstate
        exact absurd hstate (hafter before)
      · rwa [← hrow]
    · intro hfound
      refine ⟨row, hfound, if_neg ?_⟩
      rintro ⟨-, hp⟩
      exact hbefore row hp hstate

theorem quiet_approvalSubmitted (invitationId hash : String) (now : Date) :
    rows.Quiet (rows.markParticipantEnrollmentApprovalSubmitted invitationId hash now) := by
  refine quiet_update (fun _ ↦ ⟨rfl, rfl, rfl, rfl⟩) ?_ fun _ ↦ nofun
  rintro row (h | h) <;> simp [h]

theorem quiet_approved (invitationId : String) (hash : Option String) (now : Date) :
    rows.Quiet (rows.markParticipantEnrollmentApproved invitationId hash now) :=
  quiet_update (fun _ ↦ ⟨rfl, rfl, rfl, rfl⟩) (fun _ ↦ id) fun _ ↦ nofun

theorem quiet_fundingSubmitted (invitationId hash : String) (now : Date) :
    rows.Quiet (rows.markParticipantEnrollmentFundingSubmitted invitationId hash now) := by
  refine quiet_update (fun _ ↦ ⟨rfl, rfl, rfl, rfl⟩) ?_ fun _ ↦ nofun
  rintro row (h | h) <;> simp [h]

theorem quiet_fail (invitationId : String) (phase : FailedPhase) (code message : String) (now : Date) :
    rows.Quiet (rows.failParticipantEnrollment invitationId phase code message now) := by
  apply quiet_update (fun _ ↦ ⟨rfl, rfl, rfl, rfl⟩) (fun _ ↦ id)
  intro row
  cases phase <;> exact nofun

theorem quiet_create {row : Row} (hrow : row.state ≠ .funded) :
    rows.Quiet (rows.createParticipantEnrollment row) := by
  unfold createParticipantEnrollment
  split
  · exact .refl rows
  · rw [Table.insertOrIgnore]
    cases hinsert : rows.insert row with
    | none => exact .refl rows
    | some inserted =>
      rw [Option.getD_some]
      have hfree := (Table.insert_eq_some.mp hinsert).1
      constructor
      · intro id r hfound
        refine ⟨r, ?_, .refl r⟩
        rw [Table.find?_insert hinsert, if_neg, hfound]
        rintro rfl
        rw [hfree] at hfound
        cases hfound
      · intro id r hstate
        rw [Table.find?_insert hinsert]
        split
        · next hid =>
          subst hid
          rw [hfree]
          refine iff_of_false (fun h ↦ ?_) (by simp)
          rw [Option.some.inj h] at hrow
          exact hrow hstate
        · exact Iff.rfl

/-- An enrollment that is marked as funded, whatever its state was. -/
theorem find?_markFunded {invitationId : String} (hash : Option String) (amount : ℕ) (now : Date)
    (id : String) : (rows.markParticipantEnrollmentFunded invitationId hash amount now).find? id =
      (rows.find? id).map fun row ↦ if id = invitationId then (Row.fund hash amount now).apply row else row := by
  rw [markParticipantEnrollmentFunded, Table.find?_update]
  simp

end Rows

end CreatorFirst.Enrollment
