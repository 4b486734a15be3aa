import Orchestrate.Model.CreateWorkFlow

namespace OrchestrateModel

open Effect

structure CreateJobDto where
  jobType : String
  metadata : Metadata
  priorityLevel : Option PriorityLevel := none
  retries : Option Nat := none
  delayMs : Option Nat := none
  cron : Option String := none
  idempotencyKey : Option String := none
  deriving DecidableEq, Repr

/-- JavaScript's truth value of an optional number. -/
def nonzero : Option Nat → Bool
  | some n => n != 0
  | none => false

/-- `delayMs ? new Date(Date.now() + delayMs) : new Date()`. -/
def scheduledAt (now : Nat) (delayMs : Option Nat) : Nat :=
  if nonzero delayMs then now + delayMs.getD 0 else now

namespace JobsService

def saveRecurring (dto : CreateJobDto) (userId : UserId) (tenantId : TenantId) :
    ServiceProgram (Option Nat) :=
  match dto.cron with
  | none => return none
  | some cron =>
    if cron = "" then return none
    else do
      let savedRecurring : RecurringJob ←
        query (.insertRecurring dto.jobType cron dto.metadata tenantId userId)
      return some savedRecurring.id

def createAndEnqueue (dto : CreateJobDto) (userId : UserId) (tenantId : TenantId) : ServiceProgram Job := do
  let recurringJobId ← saveRecurring dto userId tenantId
  let scheduled := nonzero dto.delayMs || truthy dto.cron
  let now ← clock
  let savedJob ← JobRepo.save
    { type := dto.jobType
      metadata := dto.metadata
      priorityLevel := dto.priorityLevel.getD .NONE
      retries := dto.retries.getD 3
      status := if scheduled then .SCHEDULED else .QUEUED
      tenantId := tenantId
      userId := userId
      delayMs := dto.delayMs
      cron := dto.cron
      idempotencyKey := dto.idempotencyKey
      recurringJobId := recurringJobId
      scheduledAt := some (scheduledAt now dto.delayMs) }
  let queueName ← Program.ofExcept (resolveQueueName savedJob.type)
  let _ ← submit
    { jobId := savedJob.id
      recurringJobId := recurringJobId
      jobType := savedJob.type
      tenantId := tenantId
      userId := some userId
      priorityLevel := savedJob.priorityLevel
      retries := savedJob.retries
      metadata := savedJob.metadata
      delayMs := savedJob.delayMs
      cron := savedJob.cron
      idempotencyKey := savedJob.idempotencyKey
      queueName := queueName }
  return savedJob

/-- `job.completedAt = undefined` leaves the column as it is when the row is saved. -/
def retryFailedJob (jobId : JobId) (userId : UserId) (tenantId : TenantId) : ServiceProgram Job := do
  let found ← JobRepo.findOneOfTenant jobId tenantId
  match found with
  | none => .throws { name := "NotFoundException", message := "Job not found" }
  | some job =>
    if job.status ≠ .FAILED then
      .throws (badRequest "Only FAILED jobs can be retried")
    JobRepo.update job.id { status := some .QUEUED }
    let queueName ← Program.ofExcept (resolveQueueName job.type)
    let _ ← submit
      { jobId := job.id
        jobType := job.type
        tenantId := tenantId
        userId := some userId
        priorityLevel := job.priorityLevel
        retries := job.retries
        metadata := job.metadata
        queueName := queueName }
    return { job with status := .QUEUED, completedAt := none }

end JobsService

/-- An item of a batch; `json` is its text as `JSON.stringify` writes it. -/
structure BatchJobItem where
  json : String := ""
  key : String
  type : String
  priorityLevel : Option PriorityLevel := none
  metadata : Option Metadata := none
  retries : Option Nat := none
  delayMs : Option Nat := none
  idempotencyKey : Option String := none
  deriving DecidableEq, Repr

structure BatchReply where
  key : String
  jobId : JobId
  type : String
  priorityLevel : PriorityLevel
  status : JobStatus
  deriving DecidableEq, Repr

namespace BatchJobService

def itemRank (item : BatchJobItem) : Nat := priorityMap (item.priorityLevel.getD .NONE)

def validate (items : List BatchJobItem) : Except Err Unit :=
  if items = [] then .error (badRequest "jobs array is required and must not be empty")
  else if ¬ (items.map (·.key)).Nodup then .error (badRequest "Duplicate job keys found in batch")
  else
    match items.find? fun item => item.key = "" ∨ item.type = "" with
    | some item =>
      .error (badRequest ("Each job must have \"key\" and \"type\" Missing onL " ++ item.json))
    | none => .ok ()

def submitItem (batchId : Nat) (userId : UserId) (tenantId : TenantId) (item : BatchJobItem) :
    ServiceProgram BatchReply := do
  let now ← clock
  let saved ← JobRepo.save
    { type := item.type
      metadata := item.metadata.getD []
      priorityLevel := item.priorityLevel.getD .NONE
      retries := item.retries.getD 3
      status := if nonzero item.delayMs then .SCHEDULED else .QUEUED
      tenantId := tenantId
      userId := userId
      delayMs := item.delayMs
      idempotencyKey := item.idempotencyKey
      scheduledAt := some (scheduledAt now item.delayMs) }
  Program.catching
    (do
      let queueName ← Program.ofExcept (resolveQueueName saved.type)
      let status ← submit
        { jobId := saved.id
          jobType := saved.type
          tenantId := tenantId
          priorityLevel := saved.priorityLevel
          retries := saved.retries
          metadata := (saved.metadata.withField "batchId" (uuidText batchId)).withField "batchKey" item.key
          delayMs := item.delayMs
          idempotencyKey := some (item.idempotencyKey.getD (uuidText saved.id))
          queueName := queueName }
      return { key := item.key, jobId := saved.id, type := saved.type,
               priorityLevel := saved.priorityLevel, status := status })
    fun error => do
      JobRepo.update saved.id { status := some .FAILED }
      .throws error

def submitItems (batchId : Nat) (userId : UserId) (tenantId : TenantId) :
    List BatchJobItem → List BatchReply → ServiceProgram (List BatchReply)
  | [], results => return results
  | item :: rest, results => do
    let result ← submitItem batchId userId tenantId item
    submitItems batchId userId tenantId rest (results ++ [result])

def submitBatch (items : List BatchJobItem) (userId : UserId) (tenantId : TenantId) :
    ServiceProgram (Nat × List BatchReply) := do
  Program.ofExcept (validate items)
  let batchId ← randomUUID
  let sorted := items.insertionSort fun a b => itemRank a ≤ itemRank b
  let results ← submitItems batchId userId tenantId sorted []
  return (batchId, results)

end BatchJobService
end OrchestrateModel
