import Mathlib.Data.List.Sort
import Orchestrate.Model.Jobs

namespace OrchestrateModel

structure JobOwner where
  userId : Option UserId
  tenantId : Option TenantId
  deriving DecidableEq, Repr

/-- What `formatJobResponse` makes of a row; a relation that the query did not select is undefined. -/
structure JobResponse where
  id : JobId
  type : String
  status : JobStatus
  priority : PriorityLevel
  retries : Nat
  owner : JobOwner
  metadata : Metadata
  attempts : Option (List JobAttempt)
  logs : Option (List JobLog)
  createdAt : Nat
  completedAt : Option Nat
  deriving DecidableEq, Repr

structure JobFilters where
  status : Option JobStatus := none
  jobType : Option String := none
  deriving DecidableEq, Repr

namespace JobsService

def formatJobResponse (job : Job) (owner : JobOwner) (attempts : Option (List JobAttempt)) (logs : Option (List JobLog)) :
    JobResponse :=
  { id := job.id, type := job.type, status := job.status, priority := job.priorityLevel, retries := job.retries,
    owner := owner, metadata := job.metadata, attempts := attempts, logs := logs, createdAt := job.createdAt,
    completedAt := job.completedAt }

def attemptsOf (db : Db) (id : JobId) : List JobAttempt := db.attempts.filter fun attempt => attempt.jobId = id

def logsOf (db : Db) (id : JobId) : List JobLog := db.logs.filter fun log => log.jobId = id

def getJobById (db : Db) (jobId : JobId) (tenantId : TenantId) : Except Err JobResponse :=
  match (db.job? jobId).filter fun job => job.tenantId = tenantId with
  | none => .error { name := "NotFoundException", message := "Job not found" }
  | some job =>
    .ok (formatJobResponse job { userId := some job.userId, tenantId := some job.tenantId }
      (some ((attemptsOf db job.id).insertionSort fun a b => a.attemptNumber ≤ b.attemptNumber)) (some (logsOf db job.id)))

/-- A job is shown to the tenant that its row names. -/
theorem getJobById_toBool (db : Db) (jobId : JobId) (tenantId : TenantId) :
    (getJobById db jobId tenantId).toBool = (db.job? jobId).any (·.tenantId = tenantId) := by
  unfold getJobById
  cases db.job? jobId with
  | none => rfl
  | some job =>
    by_cases same : job.tenantId = tenantId
    · simp only [Option.filter_some, same, decide_true, if_true, Option.any_some]
      rfl
    · simp only [Option.filter_some, same, decide_false, Option.any_some]
      rfl

/-- The newest jobs first; the database decides the order of jobs that were created at one time. -/
def listJobs (arrange : List Job → List Job) (db : Db) (tenantId : TenantId) (filters : JobFilters) : List JobResponse :=
  let jobs := arrange (db.jobs.filter fun job =>
    job.tenantId = tenantId ∧ filters.status.all (job.status = ·) ∧ filters.jobType.all fun type => type = "" ∨ job.type = type)
  (jobs.insertionSort fun a b => b.createdAt ≤ a.createdAt).map fun job =>
    formatJobResponse job { userId := none, tenantId := none } (some (attemptsOf db job.id)) none

end JobsService
end OrchestrateModel
