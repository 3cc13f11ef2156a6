import ControlCenter.Library.Adjacent
import ControlCenter.Library.Best
import ControlCenter.Library.Chain
import ControlCenter.Library.Checks
import ControlCenter.Library.Climb
import ControlCenter.Library.Collect
import ControlCenter.Library.Decimal
import ControlCenter.Library.Go
import ControlCenter.Library.GoString
import ControlCenter.Library.Grouping
import ControlCenter.Library.Json
import ControlCenter.Library.JsonScan
import ControlCenter.Library.JsonValue
import ControlCenter.Library.Keyset
import ControlCenter.Library.Machine
import ControlCenter.Library.Marshal
import ControlCenter.Library.ParentWalk
import ControlCenter.Library.PostOrder
import ControlCenter.Library.Registry
import ControlCenter.Library.Rfc3339
import ControlCenter.Library.Separator
import ControlCenter.Library.Sha256
import ControlCenter.Library.Sorting
import ControlCenter.Library.Table
import ControlCenter.Library.Trim
import ControlCenter.Library.TwoRuns
import ControlCenter.Library.Utf8
import ControlCenter.CoreContracts.Metadata
import ControlCenter.CoreContracts.Network
import ControlCenter.CoreContracts.RoleAssignments
import ControlCenter.CoreContracts.Roles
import ControlCenter.CoreContracts.Topology
import ControlCenter.EdgeGateway.Authorization
import ControlCenter.Identity.Audit.Chain
import ControlCenter.Identity.Audit.Export
import ControlCenter.Identity.Audit.Integrity
import ControlCenter.Identity.Audit.Pages
import ControlCenter.Identity.Audit.Redaction
import ControlCenter.Identity.Auth.LoginProtection
import ControlCenter.Identity.Auth.Service
import ControlCenter.Identity.Auth.Store
import ControlCenter.Incidents.Incident
import ControlCenter.Incidents.Mutation
import ControlCenter.Incidents.Query
import ControlCenter.Inventory.Registry
import ControlCenter.Market.Dependencies
import ControlCenter.Market.Versions
import ControlCenter.NetworkPolicy.Forwarding
import ControlCenter.NodeLifecycle.History
import ControlCenter.NodeLifecycle.Lifecycle
import ControlCenter.Orchestration.ApprovalCounting
import ControlCenter.Orchestration.Change
import ControlCenter.Orchestration.Job.Backoff
import ControlCenter.Orchestration.Job.Basic
import ControlCenter.Orchestration.Job.Fencing
import ControlCenter.Orchestration.Job.Idempotency
import ControlCenter.Orchestration.Job.Invariant
import ControlCenter.Orchestration.Job.ManualRetry
import ControlCenter.Orchestration.Job.Memory
import ControlCenter.Orchestration.Job.Operations
import ControlCenter.Orchestration.Job.RetryChains
import ControlCenter.Orchestration.Job.RetryHistory
import ControlCenter.Orchestration.Job.Timeline
import ControlCenter.Orchestration.Job.Transition
import ControlCenter.Orchestration.OperationsView.ApprovalEvidence
import ControlCenter.Orchestration.OperationsView.BlastRadius
import ControlCenter.Orchestration.OperationsView.RecoveryPath
import ControlCenter.Orchestration.OperationsView.ResultEvidence
import ControlCenter.Orchestration.Policy
import ControlCenter.Orchestration.Server.Approval
import ControlCenter.Orchestration.Server.Basic
import ControlCenter.Orchestration.Server.Handlers
import ControlCenter.Orchestration.Server.Restore
import ControlCenter.Persistence.Atomicity
import ControlCenter.Persistence.Cancellation
import ControlCenter.Persistence.CrashRecovery
import ControlCenter.Persistence.Postgres.Bindings
import ControlCenter.Persistence.Postgres.Identity
import ControlCenter.Persistence.Postgres.IncidentTimes
import ControlCenter.Persistence.Postgres.Jobs
import ControlCenter.Persistence.Postgres.Orchestration
import ControlCenter.Persistence.Postgres.Rows
import ControlCenter.Persistence.Reconciliation
import ControlCenter.Persistence.World
import ControlCenter.Placement.Plan
import ControlCenter.Recovery.Contracts
import ControlCenter.Recovery.DrillFreshness
import ControlCenter.Recovery.GraphProperties
import ControlCenter.Recovery.Integrity
import ControlCenter.Recovery.RestoreDrill
import ControlCenter.Recovery.Retention
import ControlCenter.Recovery.Soundness
import ControlCenter.Recovery.Validation
import ControlCenter.SiteSync.State
