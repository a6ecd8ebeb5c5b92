import Gatehouse.Database.Followers
import Gatehouse.Database.Storage
import Gatehouse.Main
import Gatehouse.Service.Gate
import Gatehouse.Telemetry.Endpoint
import Gatehouse.Proofs.Json.Number
import Gatehouse.Proofs.Json.Record
import Gatehouse.Proofs.Text.Base64
import Gatehouse.Proofs.Text.Pieces
import Gatehouse.Proofs.Token.RoundTrip
import Gatehouse.Proofs.Token.Acceptance
import Gatehouse.Proofs.Credential.Bearer
import Gatehouse.Proofs.Credential.Client
import Gatehouse.Proofs.Job.Run
import Gatehouse.Proofs.Service.Attempt
import Gatehouse.Proofs.Resolver
import Gatehouse.Proofs.Service.BearerGate
import Gatehouse.Proofs.Job.History
import Gatehouse.Proofs.Job.Interleaving
import Gatehouse.Proofs.Service.Harmless
import Gatehouse.Proofs.Service.PostAuthorization
import Gatehouse.Proofs.World
import Gatehouse.Proofs.Table
import Gatehouse.Proofs.Log
import Gatehouse.Proofs.Limiter.Separation
import Gatehouse.Proofs.Limiter.Admission
import Gatehouse.Proofs.Store.Accounts
import Gatehouse.Proofs.Store.Deeds
import Gatehouse.Proofs.Store.Invitations
import Gatehouse.Proofs.Time.Calendar
import Gatehouse.Proofs.Time.Stamp
import Gatehouse.Proofs.Account.Password
import Gatehouse.Proofs.Account.User
import Gatehouse.Proofs.Account.Invitation
import Gatehouse.Proofs.Cache
import Gatehouse.Proofs.Job.Alone
import Gatehouse.Proofs.Job.Calm
import Gatehouse.Proofs.Service.Enrolment
import Gatehouse.Proofs.Service.Conversation
import Gatehouse.Proofs.Service.Discretion
import Gatehouse.Proofs.Service.Screening
import Gatehouse.Proofs.Service.Principals
import Gatehouse.Proofs.Service.Undisturbed
import Gatehouse.Proofs.Service.AccountFlow
import Gatehouse.Proofs.Service.Membership
import Gatehouse.Proofs.Job.Commits
import Gatehouse.Proofs.Service.Atomicity
import Gatehouse.Proofs.Store.Changes
import Gatehouse.Proofs.Store.Integrity
import Gatehouse.Proofs.Job.Timed
import Gatehouse.Proofs.Job.Setting
import Gatehouse.Proofs.Job.Premises
import Gatehouse.Proofs.Resolver.Calm
import Gatehouse.Proofs.Resolver.Staleness
import Gatehouse.Proofs.Resolver.Outage
import Gatehouse.Proofs.Resolver.Identity
import Gatehouse.Proofs.Json.Texts
import Gatehouse.Proofs.Service.Snapshots
import Gatehouse.Proofs.Database.Transcript
import Gatehouse.Proofs.Database.Transactions
import Gatehouse.Proofs.Database.Server
import Gatehouse.Proofs.Database.Tables
import Gatehouse.Proofs.Database.Safekeeping
import Gatehouse.Proofs.Command.Line
import Gatehouse.Proofs.Command.Settings
import Gatehouse.Proofs.Service.Configuration
import Gatehouse.Proofs.Store.Contents
import Gatehouse.Proofs.Service.PostContents
import Gatehouse.Proofs.Service.Posting
import Gatehouse.Proofs.Service.PostRights
import Gatehouse.Proofs.Service.OwnCredentials
import Gatehouse.Proofs.Service.Outcomes
import Gatehouse.Proofs.Service.Retry
import Gatehouse.Proofs.Database.Following
import Gatehouse.Proofs.Job.Detail
import Gatehouse.Proofs.Service.Detail
import Gatehouse.Proofs.Text.Blank
import Gatehouse.Proofs.Cache.Expiry
import Gatehouse.Proofs.Cache.Overwriting
import Gatehouse.Proofs.Command.Attached
import Gatehouse.Proofs.Credential.Operator
import Gatehouse.Proofs.Service.OperatorGate
import Gatehouse.Proofs.Job.Exact
import Gatehouse.Proofs.Resolver.Retry
import Gatehouse.Proofs.Form.Registration
import Gatehouse.Proofs.Token.Validity
import Gatehouse.Proofs.Service.Edits
import Gatehouse.Proofs.Service.StoredPasswords
import Gatehouse.Proofs.Time.Instant
import Gatehouse.Proofs.Account.Issuance
import Gatehouse.Proofs.Telemetry.Endpoint
