import PlantNexus.Backend.Bindings
import PlantNexus.Backend.Calendar
import PlantNexus.Backend.CoreConstraints
import PlantNexus.Backend.DispatchHints
import PlantNexus.Backend.Equivalence
import PlantNexus.Backend.FactLockConstraints
import PlantNexus.Backend.HintFeasibility
import PlantNexus.Backend.Mapping
import PlantNexus.Backend.Measurement
import PlantNexus.Backend.Model
import PlantNexus.Backend.ObjectiveAgreement
import PlantNexus.Backend.Objectives
import PlantNexus.Backend.PrecheckFacts
import PlantNexus.Backend.Selection
import PlantNexus.Backend.Semantics
import PlantNexus.Backend.SolutionMapper
import PlantNexus.Backend.TemporalConstraints
import PlantNexus.CpSat
import PlantNexus.Data.Agreement
import PlantNexus.Data.Base64
import PlantNexus.Data.Binary64
import PlantNexus.Data.Blocks
import PlantNexus.Data.Checks
import PlantNexus.Data.Components
import PlantNexus.Data.Decimal
import PlantNexus.Data.Fails
import PlantNexus.Data.Graph
import PlantNexus.Data.Intervals
import PlantNexus.Data.Json
import PlantNexus.Data.JsonEquality
import PlantNexus.Data.JsonEval
import PlantNexus.Data.JsonGrammar
import PlantNexus.Data.JsonRead
import PlantNexus.Data.JsonScan
import PlantNexus.Data.JsonSize
import PlantNexus.Data.JsonText
import PlantNexus.Data.JsonUpdate
import PlantNexus.Data.Kahn
import PlantNexus.Data.Lists
import PlantNexus.Data.Pairs
import PlantNexus.Data.Reach
import PlantNexus.Data.Reordering
import PlantNexus.Data.Returns
import PlantNexus.Data.Sha256
import PlantNexus.Data.Sha256Eval
import PlantNexus.Data.StableSort
import PlantNexus.Data.Utf16
import PlantNexus.Domain.CanonicalText
import PlantNexus.Domain.Capabilities
import PlantNexus.Domain.CarrierContracts
import PlantNexus.Domain.InstantOrder
import PlantNexus.Domain.Persistence
import PlantNexus.Domain.Types
import PlantNexus.Domain.Validation
import PlantNexus.Domain.WorkspaceContracts
import PlantNexus.Duration.FailClosed
import PlantNexus.Duration.Provider
import PlantNexus.Duration.Runtime
import PlantNexus.Execution.Checkpoint
import PlantNexus.Execution.Cutoff
import PlantNexus.Execution.Delivery
import PlantNexus.Execution.Downtime
import PlantNexus.Execution.Events
import PlantNexus.Execution.ExactlyOnce
import PlantNexus.Execution.FactInvariant
import PlantNexus.Execution.FactState
import PlantNexus.Execution.FactSteps
import PlantNexus.Execution.Ledger
import PlantNexus.Execution.Lineage
import PlantNexus.Execution.Machines
import PlantNexus.Execution.Plannable
import PlantNexus.Execution.Projection
import PlantNexus.Execution.SealedEvents
import PlantNexus.Execution.Simulator
import PlantNexus.Execution.UrgentAdditions
import PlantNexus.Expansion.Completeness
import PlantNexus.Expansion.Exactness
import PlantNexus.Expansion.Orders
import PlantNexus.Expansion.SnapshotBuilder
import PlantNexus.Exports.Documents
import PlantNexus.Exports.Lifecycle
import PlantNexus.Exports.Repository
import PlantNexus.Exports.Service
import PlantNexus.Exports.System
import PlantNexus.Freeze.Agreement
import PlantNexus.Freeze.Document
import PlantNexus.Freeze.Policy
import PlantNexus.Freeze.Precheck
import PlantNexus.Freeze.Projection
import PlantNexus.Freeze.Verdict
import PlantNexus.Frontend.Agreement
import PlantNexus.Frontend.Canonical
import PlantNexus.Frontend.Encoding
import PlantNexus.Frontend.Grammar
import PlantNexus.Frontend.Parsing
import PlantNexus.Frontend.PythonFloat
import PlantNexus.Frontend.Reparsing
import PlantNexus.Jobs.Contracts
import PlantNexus.Jobs.Fencing
import PlantNexus.Jobs.Repository
import PlantNexus.Plan.Feasible
import PlantNexus.Plan.Judged
import PlantNexus.Plan.Readback
import PlantNexus.Problem.Builder
import PlantNexus.Problem.Built
import PlantNexus.Problem.Canonicality
import PlantNexus.Problem.Contents
import PlantNexus.Problem.Contracts
import PlantNexus.Problem.Dag
import PlantNexus.Problem.Hashing
import PlantNexus.Problem.History
import PlantNexus.Problem.Reordering
import PlantNexus.Publishing.Documents
import PlantNexus.Publishing.Evidence
import PlantNexus.Publishing.History
import PlantNexus.Publishing.Preparation
import PlantNexus.Publishing.Replay
import PlantNexus.Publishing.Repository
import PlantNexus.Publishing.Resubmission
import PlantNexus.Publishing.Runs
import PlantNexus.Publishing.Service
import PlantNexus.Publishing.System
import PlantNexus.Reporting.Kpi
import PlantNexus.Reporting.KpiClosure
import PlantNexus.Reporting.KpiRows
import PlantNexus.Routing.Components
import PlantNexus.Routing.CyclicExact
import PlantNexus.Runs.Acceptance
import PlantNexus.Runs.Consistency
import PlantNexus.Runs.Documents
import PlantNexus.Runs.Idempotency
import PlantNexus.Runs.Repository
import PlantNexus.Runs.Service
import PlantNexus.Runs.Stored
import PlantNexus.Runs.System
import PlantNexus.Runs.Validity
import PlantNexus.Runs.Verification
import PlantNexus.Runs.Writes
import PlantNexus.Snapshot.Accepted
import PlantNexus.Snapshot.Canonical
import PlantNexus.Snapshot.Contract
import PlantNexus.Snapshot.Records
import PlantNexus.Time.Calendar
import PlantNexus.Time.Instant
import PlantNexus.Time.IsoText
import PlantNexus.Validation.Catalog
import PlantNexus.Validation.Endpoints
import PlantNexus.Validation.Evaluators
import PlantNexus.Validation.Exactness
import PlantNexus.Validation.FromRules
import PlantNexus.Validation.InstantRules
import PlantNexus.Validation.OrderIndependence
import PlantNexus.Validation.ProblemSchedule
import PlantNexus.Validation.Report
import PlantNexus.Validation.Sweep
import PlantNexus.Workspace.Comparison
import PlantNexus.Workspace.ComparisonExact
import PlantNexus.Workspace.Deltas
import PlantNexus.Workspace.Pages
import PlantNexus.Workspace.Paging
import PlantNexus.Workspace.PagingExact
import PlantNexus.Workspace.Query
import PlantNexus.Workspace.Selection
import PlantNexus.Workspace.Sources
