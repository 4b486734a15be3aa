import Orchestrate.Model.Chain

namespace OrchestrateModel

open Effect

/-- A run of a BullMQ job, as the worker receives it. -/
structure BullJob where
  data : JobQueuePayload
  opts : JobsOptions
  attemptsMade : Nat
  queueName : String
  timestamp : Nat
  deriving DecidableEq, Repr

/-- The records of the metrics collector; times are in seconds. -/
inductive Metric : Type where
  | jobRetry (queueName jobType : String)
  | jobCompleted (queueName jobType : String) (priority : PriorityLevel) (durationSeconds waitSeconds : Rat)
  | jobFailed (queueName jobType : String) (priority : PriorityLevel) (durationSeconds : Rat) (reason : String)
  | dlqMove (queueName jobType : String)
  deriving DecidableEq

/-- The awaited calls of a worker. `process` replies with `job.data.result` as JSON text. -/
inductive WorkerCall : Type where
  | service (c : ServiceCall)
  | process (job : BullJob)
  | release (tenantId : TenantId) (queueName : String)
  | record (metric : Metric)
  | incrementCompleted (queueName : String)
  | incrementFailed (queueName : String)

@[reducible] def WorkerCall.Reply : WorkerCall → Type
  | .service c => c.Reply
  | .process _ => Option String
  | .release _ _ | .record _ | .incrementCompleted _ | .incrementFailed _ => Unit

abbrev workerSignature : Signature := ⟨WorkerCall, WorkerCall.Reply⟩

abbrev WorkerProgram := Program workerSignature Err

def awaitWork (c : WorkerCall) : WorkerProgram c.Reply := Program.await (S := workerSignature) c

/-- A service's program as part of the worker's. -/
def onServices {α : Type} : ServiceProgram α → WorkerProgram α
  | .done value => .done value
  | .throws error => .throws error
  | .hangs => .hangs
  | .call c next => Program.call (S := workerSignature) (.service c) fun reply => onServices (next reply)

namespace BaseProcessor

def process (job : BullJob) : WorkerProgram (Option String) := awaitWork (.process job)

def release (tenantId : TenantId) (queueName : String) : WorkerProgram Unit :=
  awaitWork (.release tenantId queueName)

def record (metric : Metric) : WorkerProgram Unit := awaitWork (.record metric)

def incrementCompleted (queueName : String) : WorkerProgram Unit := awaitWork (.incrementCompleted queueName)

def incrementFailed (queueName : String) : WorkerProgram Unit := awaitWork (.incrementFailed queueName)

def classifyFailure (err : Err) : String :=
  let msg := (err.name ++ " " ++ err.message).toLower
  let includes (part : String) : Bool := (msg.splitOn part).length > 1
  if includes "timeout" || includes "etimedout" then "timeout"
  else if includes "econnrefused" || includes "enotfound" || includes "network" || includes "socket" then
    "downstream"
  else if includes "validation" || includes "invalid" then "validation"
  else "unknown"

/-- What `execute` knows once an attempt has been recorded. -/
structure Attempt where
  executeStart : Nat
  waitSeconds : Rat
  isWorkflowJob : Bool
  sequenceNumber : Nat
  attempt : JobAttempt
  deriving DecidableEq

def nextSequence (job : BullJob) : ServiceProgram Nat := do
  let found : Option QueueSequence ← query (.findSequence job.queueName)
  let lastSequence := (found.map (·.lastSequence)).getD 0 + 1
  query (.saveSequence { queueName := job.queueName, lastSequence := lastSequence })
  JobRepo.update job.data.jobId { queueSequence := some lastSequence }
  return lastSequence

def nextRun (recurringJobId : Nat) : ServiceProgram Nat := do
  let found : Option RecurringJob ← query (.findRecurring recurringJobId)
  match found with
  | none => return 0
  | some recurringJob =>
    query (.saveRecurring { recurringJob with runCount := recurringJob.runCount + 1 })
    return recurringJob.runCount + 1

def isRecurring (job : BullJob) : Bool := job.opts.repeat_.isSome

/-- The section "sequence tracking" of `execute`. -/
def trackSequence (job : BullJob) : ServiceProgram Nat :=
  if isRecurring job then
    match job.data.recurringJobId with
    | some recurringJobId => nextRun recurringJobId
    | none => return 0
  else nextSequence job

/-- `execute` up to the call of `process`; none for a job that is skipped as already completed. -/
def beginAttempt (job : BullJob) : WorkerProgram (Option Attempt) := do
  let executeStart ← onServices clock
  let now ← onServices clock
  let existingJob ← onServices (JobRepo.findOne job.data.jobId)
  if existingJob.any (·.status = .COMPLETED) && !isRecurring job then
    let _ ← (release job.data.tenantId job.queueName).capture
    return none
  if job.attemptsMade > 0 then
    record (.jobRetry job.queueName job.data.jobType)
  let sequenceNumber ← onServices (trackSequence job)
  let startedAt ← onServices clock
  let attempt : JobAttempt ←
    onServices (query (.insertAttempt job.data.jobId (job.attemptsMade + 1) startedAt))
  if job.attemptsMade = 0 then
    onServices (JobRepo.update job.data.jobId { status := some .PROCESSING })
  onServices (query (.insertLog
    { jobId := job.data.jobId, message := "Job attempt started", attemptNumber := attempt.attemptNumber }))
  return some
    { executeStart := executeStart
      waitSeconds := ((now : Rat) - job.timestamp) / 1000
      isWorkflowJob := existingJob.any (·.workFlowId.isSome)
      sequenceNumber := sequenceNumber
      attempt := attempt }

def isFinalFailure (job : BullJob) : Bool := job.attemptsMade + 1 ≥ job.opts.attempts

/-- `{ ...job.data.metadata, result: job.data.result }`. -/
def withResult (metadata : Metadata) (result : Option String) : Metadata :=
  match result with
  | some text => metadata.withField "result" text
  | none => metadata.filter fun field => field.1 != "result"

def afterSuccess (job : BullJob) (attempt : Attempt) (result : Option String) : WorkerProgram Unit := do
  let now ← onServices clock
  let finish ← onServices clock
  onServices (query (.updateAttempt attempt.attempt.id .COMPLETED now none))
  onServices (JobRepo.update job.data.jobId
    { status := some .COMPLETED
      completedAt := some now
      metadata := some (withResult job.data.metadata result) })
  if attempt.isWorkflowJob then
    let _ ← (onServices (ChainService.onJobCompleted job.data.jobId)).capture
  record (.jobCompleted job.queueName job.data.jobType job.data.priorityLevel
    (((finish : Rat) - attempt.executeStart) / 1000) attempt.waitSeconds)
  incrementCompleted job.queueName

def afterFailure (job : BullJob) (attempt : Attempt) (error : Err) : WorkerProgram Unit := do
  let now ← onServices clock
  let finish ← onServices clock
  onServices (query (.updateAttempt attempt.attempt.id .FAILED now (some error.message)))
  onServices (query (.insertLog
    { jobId := job.data.jobId, message := "Job attempt failed",
      attemptNumber := attempt.attempt.attemptNumber, error := some error.message }))
  if isFinalFailure job then
    onServices (JobRepo.update job.data.jobId { status := some .FAILED, completedAt := some now })
    record (.jobFailed job.queueName job.data.jobType job.data.priorityLevel
      (((finish : Rat) - attempt.executeStart) / 100) (classifyFailure error))
    incrementFailed job.queueName
  onServices (ChainService.handleParentFailure job.data.jobId)
  .throws error

/-- `execute` from the outcome of `process` on: the rest of the `try` block, `catch`, and `finally`. -/
def afterProcess (job : BullJob) (attempt : Attempt) (outcome : Except Err (Option String)) :
    WorkerProgram Unit := do
  let tryBlock := match outcome with
    | .ok result => afterSuccess job attempt result
    | .error error => .throws error
  let completion ← (tryBlock.catching (afterFailure job attempt)).capture
  if outcome.toBool || isFinalFailure job then
    let _ ← (release job.data.tenantId job.queueName).capture
  Program.ofExcept completion

def execute (job : BullJob) : WorkerProgram Unit := do
  let begun ← beginAttempt job
  match begun with
  | none => return ()
  | some attempt =>
    let outcome ← (process job).capture
    afterProcess job attempt outcome

end BaseProcessor
end OrchestrateModel
