import CreatorFirst.Enrollment.Nodes
import CreatorFirst.Enrollment.Store
import CreatorFirst.Gateway.Invitations
import CreatorFirst.Process.Run

/-!
# The enrollment operator

The body `#process` of one run, from one answer of a node to the next, with the table it writes. Runs do not
overlap, so that one of them is in progress at a time; a restart of the gateway loses it. A receipt comes
only for a transaction in a confirmed block; what a call that fails has sent may still be mined.
-/

namespace CreatorFirst.Enrollment.Processing

open Chain Database Funding Gateway Participation

/-- The chain and the account that the operator works with, and `getAddress` of its library. -/
structure Setup where
  primitives : Primitives
  deployment : Funding.Deployment
  operatorAddress : Address
  getAddress : String → Option Address

structure ChainStatus where
  wallet : Address
  approvedRoles : ℕ
  active : Bool
  initialFundingCompleted : Bool
  registeredParticipantId : Bytes32

structure Receipt where
  transactionHash : String
  blockNumber : ℕ
  deriving DecidableEq

/-- What a run waits for. The block from which its status was read is kept with the phases that rely on
it. -/
inductive Phase where
  | status
  | approval
  | statusAgain
  | balance (seen : FundingWorld)
  | funding (seen : FundingWorld) (balanceBefore : ℕ)
  | balanceAgain (seen : FundingWorld) (balanceBefore : ℕ) (receipt : Receipt)

/-- A run of `#process`, as far as it has come. -/
structure Attempt where
  row : Row
  wallet : Address
  phase : Phase

structure State where
  nodes : Nodes
  rows : Rows
  events : List Event
  process : Option Attempt

/-- What happens between two awaits. An answer of a node is that of the latest block at the time with this
number, or a failure with its message; the two reads of a status may be answered from different blocks. -/
inductive Action where
  | publish (txs : List FundingTx)
  | confirm
  | process (now : Date) (invitationId : String) (invitation : Option Invitation)
      (participantId operationId : Bytes32)
  | restart
  | status (now : Date) (answer : Except String (ℕ × ℕ))
  | approval (now : Date) (answer : Except String Receipt)
  | balance (now : Date) (answer : Except String ℕ)
  | funding (now : Date) (answer : Except String Receipt)

def approvalTtlMs : ℕ := 72 * 60 * 60000

/-- The state after a step, and the outcome of a run that ends in it. -/
abbrev Served := State × Option (Except Failure (Option Row))

/-- `AmoyParticipantEnrollmentChain.status`; the balance that it reads as well is not used. -/
def chainStatus (participants registered : FundingWorld) (participantId : Bytes32) (wallet : Address) :
    ChainStatus where
  wallet := (participants.state.registry.participants participantId).wallet
  approvedRoles := (participants.state.registry.participants participantId).approvedRoles
  active := (participants.state.registry.participants participantId).active
  initialFundingCompleted := (participants.state.registry.participants participantId).initialFundingCompleted
  registeredParticipantId := registered.state.registry.participantIdByWallet wallet

/-- The operator's approval of the enrollment. -/
def approvalOp? (row : Row) (wallet : Address) : Funding.Op → Bool
  | .registry (.approveClaimedInvitation participantId wallet' approvedRoles approvalExpiresAt) =>
    participantId = row.participantId ∧ wallet' = wallet ∧ (approvedRoles : ℕ) = row.roleBits ∧
      (approvalExpiresAt : ℕ) = row.approvalExpiresAt.ms / 1000
  | _ => false

/-- The operator's initial funding of the enrollment. -/
def fundingOp? (row : Row) : Funding.Op → Bool
  | .registry (.fundInitial participantId operationId) =>
    participantId = row.participantId ∧ operationId = row.operationId
  | _ => false

/-- A transaction of the operator is in a confirmed block. -/
def mined (setup : Setup) (nodes : Nodes) (op? : Funding.Op → Bool) : Bool :=
  nodes.confirmed.journal.any fun e ↦ e.msg.sender = setup.operatorAddress && op? e.op

/-- What the status of an approved participant means for an enrollment. -/
inductive Verdict where
  | mismatch
  | unfunded
  | funded
  deriving DecidableEq

def verdict (row : Row) (wallet : Address) (status : ChainStatus) : Verdict :=
  if status.wallet ≠ wallet ∨ status.approvedRoles ≠ row.roleBits ∨ status.active = false then .mismatch
  else if status.initialFundingCompleted = false then .unfunded
  else .funded

/-- The checks of an invitation: it is claimed, by a wallet that `getAddress` accepts. -/
def claimedBy (setup : Setup) (invitation : Option Invitation) : Except Failure (Invitation × Address) := do
  let invitation ← requireSome invitation 404 "INVITATION_NOT_FOUND" "Invitation was not found"
  let claimedWallet ← requireSome
    (if invitation.state = .claimed then invitation.claimedWallet.filter (· ≠ "") else none)
    409 "INVITATION_WALLET_NOT_CLAIMED" "The invited person must verify and register a wallet first"
  match setup.getAddress claimedWallet with
  | none => .error .typeError
  | some wallet => return (invitation, wallet)

namespace State

section Operations

variable (setup : Setup) (s : State) (now : Date) (p : Attempt)

def start (w : FundingWorld) : State where
  nodes := .start w
  rows := .empty
  events := []
  process := none

def ended (outcome : Except Failure (Option Row)) : Served := ({ s with process := none }, some outcome)

def await (p : Attempt) : Served := ({ s with process := some p }, none)

def record (invitationId : String) (eventType : EventType) : List Event :=
  s.events ++ [⟨invitationId, eventType, now⟩]

/-- The `catch` block, for an error other than a `ParticipantEnrollmentError`. -/
def failed (message : String) : Served :=
  match s.rows.find? p.row.invitationId with
  | none => s.ended (.error .typeError)
  | some row =>
    if row.state.isFunding then
      { s with
        rows := s.rows.failParticipantEnrollment row.invitationId .funding "INITIAL_TEST_POL_FUNDING_FAILED"
          message now
        events := s.record now row.invitationId
          (.initialTestPolFailed "INITIAL_TEST_POL_FUNDING_FAILED") }.ended
        (.error (.http 502 "INITIAL_TEST_POL_FUNDING_FAILED" message))
    else
      { s with
        rows := s.rows.failParticipantEnrollment row.invitationId .approval
          "ONCHAIN_PARTICIPANT_APPROVAL_FAILED" message now
        events := s.record now row.invitationId
          (.onchainApprovalFailed "ONCHAIN_PARTICIPANT_APPROVAL_FAILED") }.ended
        (.error (.http 502 "ONCHAIN_PARTICIPANT_APPROVAL_FAILED" message))

/-- The checks of the row before the chain is asked. -/
def checkRow (invitation : Invitation) (wallet : Address) (row : Row) : Served :=
  if row.walletAddress ≠ wallet ∨ row.roleBits ≠ invitation.roleBits then
    s.ended (.error (.http 409 "ENROLLMENT_INVITATION_MISMATCH"
      "Stored enrollment no longer matches the claimed invitation"))
  else if row.state = .funded then s.ended (.ok (some row))
  else s.await ⟨row, wallet, .status⟩

/-- The row is read again, and nothing is found if the insertion was ignored. -/
def created (invitation : Invitation) (wallet : Address) (row : Row) : Served :=
  let inserted : State :=
    { s with
      rows := s.rows.createParticipantEnrollment row
      events := s.record now row.invitationId (.enrollmentPrepared row.roleBits) }
  match inserted.rows.find? row.invitationId with
  | some row => inserted.checkRow invitation wallet row
  | none => inserted.ended (.error .typeError)

/-- `#process` up to its first `await`. -/
def begin (invitationId : String) (invitation : Option Invitation) (participantId operationId : Bytes32) :
    Served :=
  match claimedBy setup invitation with
  | .error e => s.ended (.error e)
  | .ok (invitation, wallet) =>
    match s.rows.find? invitationId with
    | some row => s.checkRow invitation wallet row
    | none =>
      match Date.toISOString? (now.ms + approvalTtlMs) with
      | none => s.ended (.error .rangeError)
      | some approvalExpiresAt =>
        s.created now invitation wallet
          { invitationId, participantId, operationId, walletAddress := wallet
            roleBits := invitation.roleBits, approvalExpiresAt, createdAt := now, updatedAt := now }

/-- The checks of an approval on the chain, and what follows when the funding is found to be completed. -/
def checkApproval (seen : FundingWorld) (status : ChainStatus) : Served :=
  match verdict p.row p.wallet status with
  | .mismatch => s.ended (.error (.http 409 "ONCHAIN_APPROVAL_MISMATCH"
      "On-chain participant approval does not match the claimed invitation"))
  | .unfunded => s.await { p with phase := .balance seen }
  | .funded =>
    let rows := s.rows.markParticipantEnrollmentFunded p.row.invitationId p.row.fundingTxHash 0 now
    { s with rows }.ended (.ok (rows.find? p.row.invitationId))

/-- The row is read again after it was written. -/
def reread (next : Attempt → Served) : Served :=
  match s.rows.find? p.row.invitationId with
  | none => s.ended (.error .typeError)
  | some row => next { p with row }

/-- What follows the first status. -/
def statusRead (seen : FundingWorld) (status : ChainStatus) : Served :=
  if status.registeredParticipantId ≠ 0 ∧ status.registeredParticipantId ≠ p.row.participantId then
    s.ended (.error (.http 409 "WALLET_ALREADY_ENROLLED"
      "The wallet is already assigned to another participant identifier"))
  else if status.wallet = 0 then s.await { p with phase := .approval }
  else if p.row.state.isFunding then s.checkApproval now p seen status
  else
    let noted : State :=
      { s with
        rows := s.rows.markParticipantEnrollmentApproved p.row.invitationId p.row.approvalTxHash now }
    noted.reread p fun p ↦ noted.checkApproval now p seen status

/-- What follows a successful approval. -/
def approved (receipt : Receipt) : Served :=
  let noted : State :=
    { s with
      rows := (s.rows.markParticipantEnrollmentApprovalSubmitted p.row.invitationId
        receipt.transactionHash now).markParticipantEnrollmentApproved p.row.invitationId
          (some receipt.transactionHash) now
      events := s.record now p.row.invitationId
        (.onchainApprovalConfirmed receipt.transactionHash receipt.blockNumber) }
  noted.reread p fun p ↦ noted.await { p with phase := .statusAgain }

/-- What follows a successful funding. -/
def funded (balanceBefore balanceAfter : ℕ) (receipt : Receipt) : Served :=
  let amount := balanceAfter - balanceBefore
  let rows := (s.rows.markParticipantEnrollmentFundingSubmitted p.row.invitationId
    receipt.transactionHash now).markParticipantEnrollmentFunded p.row.invitationId
      (some receipt.transactionHash) amount now
  { s with
    rows
    events := s.record now p.row.invitationId
      (.initialTestPolConfirmed receipt.transactionHash receipt.blockNumber amount) }.ended
    (.ok (rows.find? p.row.invitationId))

/-- An answer of a node for the run that waits for it; any other answer does not come. -/
def answered : Phase → Action → Served
  | .status, .status _ (.ok (i, j)) =>
    match s.nodes.heads[i]?, s.nodes.heads[j]? with
    | some seen, some registered =>
      s.statusRead now p seen (chainStatus seen registered p.row.participantId p.wallet)
    | _, _ => (s, none)
  | .statusAgain, .status _ (.ok (i, j)) =>
    match s.nodes.heads[i]?, s.nodes.heads[j]? with
    | some seen, some registered =>
      s.checkApproval now p seen (chainStatus seen registered p.row.participantId p.wallet)
    | _, _ => (s, none)
  | .approval, .approval _ (.ok receipt) =>
    if mined setup s.nodes (approvalOp? p.row p.wallet) then s.approved now p receipt else (s, none)
  | .balance seen, .balance _ (.ok i) =>
    match s.nodes.heads[i]? with
    | some head => s.await { p with phase := .funding seen (head.state.distributor.balances p.wallet) }
    | none => (s, none)
  | .funding seen balanceBefore, .funding _ (.ok receipt) =>
    if mined setup s.nodes (fundingOp? p.row) then
      s.await { p with phase := .balanceAgain seen balanceBefore receipt }
    else (s, none)
  | .balanceAgain _ balanceBefore receipt, .balance _ (.ok i) =>
    match s.nodes.heads[i]? with
    | some head => s.funded now p balanceBefore (head.state.distributor.balances p.wallet) receipt
    | none => (s, none)
  | .status, .status _ (.error message) | .statusAgain, .status _ (.error message)
  | .approval, .approval _ (.error message) | .balance _, .balance _ (.error message)
  | .funding _ _, .funding _ (.error message) | .balanceAgain _ _ _, .balance _ (.error message) =>
    s.failed now p message
  | _, _ => (s, none)

end Operations

end State

def serve (setup : Setup) (s : State) (a : Action) : Served :=
  match a with
  | .publish txs => ({ s with nodes := s.nodes.publish setup.primitives setup.deployment txs }, none)
  | .confirm => ({ s with nodes := s.nodes.confirm setup.primitives setup.deployment }, none)
  | .restart => ({ s with process := none }, none)
  | .process now invitationId invitation participantId operationId =>
    match s.process with
    | some _ => (s, none)
    | none => s.begin setup now invitationId invitation participantId operationId
  | .status now _ | .approval now _ | .balance now _ | .funding now _ =>
    match s.process with
    | some p => s.answered setup now p p.phase a
    | none => (s, none)

def step (setup : Setup) (s : State) (a : Action) : State := (serve setup s a).1

end CreatorFirst.Enrollment.Processing
