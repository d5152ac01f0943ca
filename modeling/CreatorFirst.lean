import CreatorFirst.Chain.MachineInt
import CreatorFirst.Chain.Abi
import CreatorFirst.Chain.Mapping
import CreatorFirst.Chain.AccessControl
import CreatorFirst.Chain.Contract
import CreatorFirst.Voting.BallotBox
import CreatorFirst.Governor.Storage
import CreatorFirst.Governor.Operations
import CreatorFirst.Governor.Machine
import CreatorFirst.Governor.Effects
import CreatorFirst.Governor.Lifecycle
import CreatorFirst.Governor.ExecutionGate
import CreatorFirst.Governor.Steps
import CreatorFirst.Governor.Tally
import CreatorFirst.Governor.VoiceCredit
import CreatorFirst.Governor.SignedBallot
import CreatorFirst.Governor.CfpBinding
import CreatorFirst.Shuffle.FisherYates
import CreatorFirst.Sortition.Storage
import CreatorFirst.Sortition.Operations
import CreatorFirst.Sortition.Machine
import CreatorFirst.Sortition.Effects
import CreatorFirst.Sortition.Steps
import CreatorFirst.Sortition.Selection
import CreatorFirst.Sortition.Phases
import CreatorFirst.Sortition.Seats
import CreatorFirst.Sortition.Alternates
import CreatorFirst.Sortition.Fairness
import CreatorFirst.Token.Erc20
import CreatorFirst.Token.Erc721
import CreatorFirst.Time.Period
import CreatorFirst.Settlement.Operations
import CreatorFirst.Settlement.Machine
import CreatorFirst.Settlement.Effects
import CreatorFirst.Settlement.MockJPYC
import CreatorFirst.Settlement.Accounting
import CreatorFirst.Supporter.Operations
import CreatorFirst.Supporter.Machine
import CreatorFirst.Supporter.Effects
import CreatorFirst.Supporter.Steps
import CreatorFirst.Supporter.Credentials
import CreatorFirst.Supporter.EarlyPolicy
import CreatorFirst.Supporter.SupportIntents
import CreatorFirst.Distributor.Operations
import CreatorFirst.Distributor.Machine
import CreatorFirst.Distributor.Effects
import CreatorFirst.Distributor.Accounts
import CreatorFirst.Distributor.Caps
import CreatorFirst.Distributor.OperationIds
import CreatorFirst.Participants.Operations
import CreatorFirst.Participants.Machine
import CreatorFirst.Participants.Effects
import CreatorFirst.Participants.Registry
import CreatorFirst.Funding.Machine
import CreatorFirst.Funding.Agreement
import CreatorFirst.Creators.Operations
import CreatorFirst.Creators.Machine
import CreatorFirst.Creators.Registry
import CreatorFirst.Governor.Mandate
import CreatorFirst.Legislature.Machine
import CreatorFirst.Legislature.Members
import CreatorFirst.Legislature.Mandate
import CreatorFirst.Registration.Machine
import CreatorFirst.Registration.Stability
import CreatorFirst.Governed.Targets
import CreatorFirst.Governed.Machine
import CreatorFirst.Governed.Executions
import CreatorFirst.Governed.Approval
import CreatorFirst.Database.Table
import CreatorFirst.Process.Run
import CreatorFirst.Time.Date
import CreatorFirst.Gateway.Store
import CreatorFirst.Gateway.Handlers
import CreatorFirst.Gateway.Machine
import CreatorFirst.Gateway.Effects
import CreatorFirst.Gateway.SingleActive
import CreatorFirst.Gateway.TerminalSessions
import CreatorFirst.Gateway.DeliveryAccounting
import CreatorFirst.Gateway.AllOrNothing
import CreatorFirst.Gateway.PlaybackIdempotency
import CreatorFirst.Gateway.Accounts
import CreatorFirst.Gateway.AccountTrust
import CreatorFirst.Gateway.Invitations
import CreatorFirst.Gateway.Applications
import CreatorFirst.Gateway.Siwe
import CreatorFirst.Gateway.Support
import CreatorFirst.Gateway.Server
import CreatorFirst.Gateway.ServerEffects
import CreatorFirst.Gateway.AccountTrustEffects
import CreatorFirst.Gateway.TrustAuditLog
import CreatorFirst.Gateway.LiveBinding
import CreatorFirst.Gateway.ApplicationEffects
import CreatorFirst.Gateway.ApplicationAudit
import CreatorFirst.Gateway.ParticipationChanges
import CreatorFirst.Gateway.ClaimedApplications
import CreatorFirst.Gateway.LiveInvitations
import CreatorFirst.Gateway.OwnRequests
import CreatorFirst.Gateway.ProfileChanges
import CreatorFirst.Gateway.TierConfinement
import CreatorFirst.Gateway.OwnerStore
import CreatorFirst.Gateway.AccountIsolation
import CreatorFirst.Gateway.InvitationWallets
import CreatorFirst.Script.Value
import CreatorFirst.Records.Validator
import CreatorFirst.Records.Gate
import CreatorFirst.Script.Json
import CreatorFirst.Relay.Operations
import CreatorFirst.Relay.Supporter
import CreatorFirst.Relay.Governance
import CreatorFirst.Relay.Idempotency
import CreatorFirst.Chain.TypedData
import CreatorFirst.Relay.Signatures
import CreatorFirst.Relay.Transactions
import CreatorFirst.Relay.Purposes
import CreatorFirst.Participants.Expiry
import CreatorFirst.Distributor.Preview
import CreatorFirst.Gateway.WalletAtomicity
import CreatorFirst.Gateway.ChallengeUse
import CreatorFirst.Gateway.SupportProgress
import CreatorFirst.Gateway.PasskeyUse
import CreatorFirst.Settlement.ActivePeriod
import CreatorFirst.TransparentZK.Receipts
import CreatorFirst.Gateway.ResendLimits
import CreatorFirst.Enrollment.Runs
import CreatorFirst.Enrollment.Serial
import CreatorFirst.Enrollment.Amounts
import CreatorFirst.Mail.Transport
import CreatorFirst.Media.Range
import CreatorFirst.Protocol.References
import CreatorFirst.Text.Template
import CreatorFirst.Gateway.Routes
import CreatorFirst.Protocol.Documents
import CreatorFirst.Protocol.Validator
