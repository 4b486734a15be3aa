import Orchestrate.Access.Credentials
import Orchestrate.Access.Directories
import Orchestrate.Access.Noninterference
import Orchestrate.Access.Ownership
import Orchestrate.Access.Recurring
import Orchestrate.Access.Roles
import Orchestrate.Admission.Accounting
import Orchestrate.Admission.Batch
import Orchestrate.Admission.Blocking
import Orchestrate.Admission.Conservation
import Orchestrate.Admission.Failure
import Orchestrate.Admission.Firings
import Orchestrate.Admission.Gauges
import Orchestrate.Admission.Guarantees
import Orchestrate.Admission.Intake
import Orchestrate.Admission.Interleaving
import Orchestrate.Admission.Isolation
import Orchestrate.Admission.Reconciliation
import Orchestrate.Admission.Refinement
import Orchestrate.Admission.Serial
import Orchestrate.Admission.Store
import Orchestrate.Admission.Threads
import Orchestrate.Concurrency.Entries
import Orchestrate.Concurrency.Handlers
import Orchestrate.Concurrency.History
import Orchestrate.Concurrency.Numbering
import Orchestrate.Concurrency.Stages
import Orchestrate.Concurrency.Submission
import Orchestrate.Concurrency.Wakeup
import Orchestrate.Effect.Attempts
import Orchestrate.Effect.Cooperative
import Orchestrate.Effect.Coupled
import Orchestrate.Effect.Fault
import Orchestrate.Effect.Interleave
import Orchestrate.Effect.Machine
import Orchestrate.Effect.Program
import Orchestrate.Effect.Stages
import Orchestrate.Effect.Trace
import Orchestrate.Installation.Coupling
import Orchestrate.Installation.Held
import Orchestrate.Installation.Refinement
import Orchestrate.Installation.Standing
import Orchestrate.Installation.System
import Orchestrate.Ledger.Bounds
import Orchestrate.Ledger.Fifo
import Orchestrate.Ledger.Moves
import Orchestrate.Ledger.Sorting
import Orchestrate.Lifecycle.Absorbing
import Orchestrate.Lifecycle.Consumers
import Orchestrate.Lifecycle.Course
import Orchestrate.Lifecycle.DeadLetter
import Orchestrate.Lifecycle.Execute
import Orchestrate.Lifecycle.Handlers
import Orchestrate.Lifecycle.JobMetrics
import Orchestrate.Lifecycle.Release
import Orchestrate.Lifecycle.Serves
import Orchestrate.Lifecycle.Silent
import Orchestrate.Lifecycle.Standing
import Orchestrate.Lifecycle.Stores
import Orchestrate.Metrics.TenantGauges
import Orchestrate.Model.Api
import Orchestrate.Model.Auth
import Orchestrate.Model.AutoScaler
import Orchestrate.Model.BandPromoter
import Orchestrate.Model.Chain
import Orchestrate.Model.CreateWorkFlow
import Orchestrate.Model.Database
import Orchestrate.Model.Email
import Orchestrate.Model.Etl
import Orchestrate.Model.JobViews
import Orchestrate.Model.Jobs
import Orchestrate.Model.JobsController
import Orchestrate.Model.MediaFiles
import Orchestrate.Model.MediaInput
import Orchestrate.Model.Ml
import Orchestrate.Model.Payload
import Orchestrate.Model.Processor
import Orchestrate.Model.Queue
import Orchestrate.Model.RateLimit
import Orchestrate.Model.Reconcile
import Orchestrate.Model.Redis
import Orchestrate.Model.Reports
import Orchestrate.Model.Sequence
import Orchestrate.Model.Services
import Orchestrate.Model.TenantCap
import Orchestrate.Model.TenantMetrics
import Orchestrate.Model.Worker
import Orchestrate.Paths.Walk
import Orchestrate.Processors.Email
import Orchestrate.Processors.Etl
import Orchestrate.Processors.MediaInput
import Orchestrate.Processors.MediaLevels
import Orchestrate.Processors.Ml
import Orchestrate.Processors.Reports
import Orchestrate.Scaling.Autoscaler
import Orchestrate.Scaling.Bounds
import Orchestrate.Scaling.Convergence
import Orchestrate.Scaling.Cooldown
import Orchestrate.Scaling.Fleet
import Orchestrate.Scaling.Once
import Orchestrate.Scaling.Promotion
import Orchestrate.Scaling.RateWindow
import Orchestrate.Scaling.Rescan
import Orchestrate.Search.Cycle
import Orchestrate.Search.Preorder
import Orchestrate.Search.Walk
import Orchestrate.Submission.Entry
import Orchestrate.Submission.Orphans
import Orchestrate.Submission.Submitting
import Orchestrate.Text.Words
import Orchestrate.Workflow.Atomicity
import Orchestrate.Workflow.Attempts
import Orchestrate.Workflow.Automaton
import Orchestrate.Workflow.Board
import Orchestrate.Workflow.Completion
import Orchestrate.Workflow.Conclusion
import Orchestrate.Workflow.Containment
import Orchestrate.Workflow.Creation
import Orchestrate.Workflow.Cycle
import Orchestrate.Workflow.Drained
import Orchestrate.Workflow.Events
import Orchestrate.Workflow.Exhaustion
import Orchestrate.Workflow.Graph
import Orchestrate.Workflow.Handlers
import Orchestrate.Workflow.Moves
import Orchestrate.Workflow.Order
import Orchestrate.Workflow.Pick
import Orchestrate.Workflow.Progress
import Orchestrate.Workflow.Protocol
import Orchestrate.Workflow.Sequence
import Orchestrate.Workflow.Skipping
import Orchestrate.Workflow.Sound
import Orchestrate.Workflow.Steps
import Orchestrate.Workflow.Supply
import Orchestrate.Workflow.System
import Orchestrate.Workflow.Termination
import Orchestrate.Workflow.Unlocking
import Orchestrate.Workflow.Validation
