import OsfmEdm.Agent.ComplianceBatch
import OsfmEdm.Agent.Config
import OsfmEdm.Agent.JobKills
import OsfmEdm.Agent.JobOutput
import OsfmEdm.Agent.JobRuns
import OsfmEdm.Agent.LinuxProbes
import OsfmEdm.Agent.Messages
import OsfmEdm.Agent.PolicyEngine
import OsfmEdm.Agent.ProcessKills
import OsfmEdm.Agent.PushOutcome
import OsfmEdm.Agent.ScreenLock
import OsfmEdm.Agent.ShellOutput
import OsfmEdm.Agent.Software
import OsfmEdm.Agent.Telemetry
import OsfmEdm.Alerts.Evaluation
import OsfmEdm.Alerts.OpenEvents
import OsfmEdm.Alerts.RuleSync
import OsfmEdm.Api.Acting
import OsfmEdm.Api.Admins
import OsfmEdm.Api.Audit
import OsfmEdm.Api.AuditTrail
import OsfmEdm.Api.ComplianceSummaries
import OsfmEdm.Api.Patches
import OsfmEdm.Api.Router
import OsfmEdm.Auth.RefreshTokens
import OsfmEdm.Auth.SecondFactor
import OsfmEdm.Auth.Throttle
import OsfmEdm.Common.Jobs
import OsfmEdm.Common.Uuid
import OsfmEdm.Console.ApiCalls
import OsfmEdm.Console.Tls
import OsfmEdm.Dashboard.ApiCalls
import OsfmEdm.Enrollment.Agents
import OsfmEdm.Enrollment.Failures
import OsfmEdm.Enrollment.Tokens
import OsfmEdm.Fleet.Acceptance
import OsfmEdm.Fleet.Authenticity
import OsfmEdm.Fleet.Cancellation
import OsfmEdm.Fleet.Delivery
import OsfmEdm.Fleet.Registry
import OsfmEdm.Fleet.Revocation
import OsfmEdm.Library.Columns
import OsfmEdm.Library.Exchange
import OsfmEdm.Library.Files
import OsfmEdm.Library.JsonCodec
import OsfmEdm.Library.JsonKeys
import OsfmEdm.Library.JsonRoundTrip
import OsfmEdm.Library.JsonText
import OsfmEdm.Library.PathRouter
import OsfmEdm.Library.RowNumbers
import OsfmEdm.Library.UrlText
import OsfmEdm.Monitor.DirectoryWalk
import OsfmEdm.Monitor.Events
import OsfmEdm.Monitor.FileEvents
import OsfmEdm.Monitor.FilePolling
import OsfmEdm.Monitor.ProcConnector
import OsfmEdm.Monitor.ProcessInfo
import OsfmEdm.Monitor.SnapshotDiffs
import OsfmEdm.Monitor.SocketAddresses
import OsfmEdm.Policies.Compliance
import OsfmEdm.Policies.Convergence
import OsfmEdm.Policies.Migration
import OsfmEdm.Policies.Reports
import OsfmEdm.Policies.Resolution
import OsfmEdm.Server.Inventory
import OsfmEdm.Server.Isolation
import OsfmEdm.Server.Pki
import OsfmEdm.Server.Retention
import OsfmEdm.Server.SigningKey
import OsfmEdm.Shell.Decoders
import OsfmEdm.Shell.Inputs
import OsfmEdm.Shell.Outputs
import OsfmEdm.Shell.Remote
import OsfmEdm.Shell.Sessions
import OsfmEdm.Shell.Terminals
import OsfmEdm.Shell.Typing
import OsfmEdm.Transport.Backoff
import OsfmEdm.Transport.Deadlock
import OsfmEdm.Transport.Messages
