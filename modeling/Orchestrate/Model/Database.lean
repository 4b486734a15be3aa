import Mathlib.Data.List.Perm.Basic
import Orchestrate.Effect.Program
import Orchestrate.Model.Payload

namespace OrchestrateModel

open Effect

/-- The columns of a job row that `jobRepo.save` is given. -/
structure JobColumns where
  type : String
  metadata : Metadata := []
  priorityLevel : PriorityLevel := .NONE
  retries : Nat := 0
  status : JobStatus := .QUEUED
  tenantId : TenantId
  userId : UserId
  workFlowId : Option WorkFlowId := none
  faliureStrategy : Option FaliureStrategy := none
  delayMs : Option Nat := none
  cron : Option String := none
  idempotencyKey : Option String := none
  recurringJobId : Option Nat := none
  scheduledAt : Option Nat := none
  queueSequence : Option Nat := none
  completedAt : Option Nat := none
  deriving DecidableEq, Repr

structure Job extends JobColumns where
  id : JobId
  createdAt : Nat
  deriving DecidableEq, Repr

/-- A partial update; a column that is not given stays as it is. -/
structure JobChange where
  status : Option JobStatus := none
  queueSequence : Option Nat := none
  completedAt : Option Nat := none
  metadata : Option Metadata := none
  deriving DecidableEq, Repr

def Job.change (job : Job) (change : JobChange) : Job :=
  { job with
    status := change.status.getD job.status
    queueSequence := change.queueSequence <|> job.queueSequence
    completedAt := change.completedAt <|> job.completedAt
    metadata := change.metadata.getD job.metadata }

structure JobDependency where
  parentJobId : JobId
  childJobId : JobId
  triggered : Bool := false
  status : JobStatus := .PENDING
  deriving DecidableEq, Repr

structure JobAttempt where
  id : Nat
  jobId : JobId
  attemptNumber : Nat
  status : JobStatus
  startedAt : Nat
  finishedAt : Option Nat := none
  errorMessage : Option String := none
  deriving DecidableEq, Repr

structure JobLog where
  jobId : JobId
  message : String
  attemptNumber : Nat
  error : Option String := none
  deriving DecidableEq, Repr

structure QueueSequence where
  queueName : String
  lastSequence : Nat
  deriving DecidableEq, Repr

structure RecurringJob where
  id : Nat
  runCount : Nat := 0
  jobType : String
  cron : String
  metadata : Metadata
  tenantId : TenantId
  userId : UserId
  deriving DecidableEq, Repr

/-- The tables; `drawn` counts the uuids drawn so far. -/
structure Db where
  jobs : List Job
  deps : List JobDependency
  attempts : List JobAttempt
  logs : List JobLog
  sequences : List QueueSequence
  recurring : List RecurringJob
  drawn : Nat
  deriving DecidableEq

/-- What the database server and the clock decide while a call runs: the order of rows that no
    `ORDER BY` fixes, the creation time of a new row, and the current time. -/
structure Env where
  arrange : List Job → List Job
  arrange_perm : ∀ jobs, (arrange jobs).Perm jobs
  arrangeDeps : List JobDependency → List JobDependency
  arrangeDeps_perm : ∀ deps, (arrangeDeps deps).Perm deps
  createdAt : JobId → Nat
  now : Nat

/-- Rows come in the order of their insertion, and row `n` is created at time `n`. -/
def Env.plain : Env :=
  { arrange := id, arrange_perm := fun _ => .refl _, arrangeDeps := id,
    arrangeDeps_perm := fun _ => .refl _, createdAt := id, now := 0 }

/-- The statements that the repositories send. -/
inductive DbCall : Type where
  | findJob (id : JobId)
  | findTenantJob (id : JobId) (tenantId : TenantId)
  | findWorkFlowJobs (workFlowId : WorkFlowId)
  | countJobs (workFlowId : WorkFlowId) (statuses : List JobStatus)
  | insertJob (columns : JobColumns)
  | updateJob (id : JobId) (change : JobChange)
  | findDeps (parentIds : List JobId)
  | findChildDeps (parentId : JobId)
  | countRemaining (childId : JobId)
  | insertDep (parentId childId : JobId)
  | updateDeps (childId : JobId) (status : JobStatus)
  | insertAttempt (jobId : JobId) (attemptNumber : Nat) (startedAt : Nat)
  | updateAttempt (id : Nat) (status : JobStatus) (finishedAt : Nat) (errorMessage : Option String)
  | insertLog (log : JobLog)
  | findSequence (queueName : String)
  | saveSequence (sequence : QueueSequence)
  | findRecurring (id : Nat)
  | insertRecurring (jobType cron : String) (metadata : Metadata) (tenantId : TenantId) (userId : UserId)
  | saveRecurring (recurring : RecurringJob)

@[reducible] def DbCall.Reply : DbCall → Type
  | .findJob _ | .findTenantJob _ _ => Option Job
  | .findWorkFlowJobs _ => List Job
  | .countJobs _ _ | .countRemaining _ => Nat
  | .insertJob _ => Job
  | .findDeps _ => List JobDependency
  | .findChildDeps _ => List (JobDependency × Option Job)
  | .insertAttempt _ _ _ => JobAttempt
  | .findSequence _ => Option QueueSequence
  | .findRecurring _ => Option RecurringJob
  | .insertRecurring _ _ _ _ _ => RecurringJob
  | .updateJob _ _ | .insertDep _ _ | .updateDeps _ _ | .updateAttempt _ _ _ _ | .insertLog _
  | .saveSequence _ | .saveRecurring _ => Unit

namespace Db

def empty : Db :=
  { jobs := [], deps := [], attempts := [], logs := [], sequences := [], recurring := [], drawn := 0 }

def job? (db : Db) (id : JobId) : Option Job := db.jobs.find? fun job => job.id = id

def workFlowJobs (db : Db) (workFlowId : WorkFlowId) : List Job :=
  db.jobs.filter fun job => job.workFlowId = some workFlowId

def childDeps (db : Db) (parentId : JobId) : List JobDependency :=
  db.deps.filter fun dep => dep.parentJobId = parentId

/-- The parents that the query of `unlockChildren` counts: dependencies whose parent row exists and is
    not COMPLETED. -/
def remaining (db : Db) (childId : JobId) : List JobDependency :=
  db.deps.filter fun dep => dep.childJobId = childId &&
    (db.job? dep.parentJobId).any fun parent => parent.status != .COMPLETED

def updateJob (db : Db) (id : JobId) (change : JobChange) : Db :=
  { db with jobs := db.jobs.map fun job => if job.id = id then job.change change else job }

def updateDeps (db : Db) (childId : JobId) (status : JobStatus) : Db :=
  { db with
    deps := db.deps.map fun dep => if dep.childJobId = childId then { dep with status := status } else dep }

def insertJob (db : Db) (createdAt : Nat) (columns : JobColumns) : Db :=
  { db with
    jobs := db.jobs ++ [{ columns with id := db.drawn, createdAt := createdAt }]
    drawn := db.drawn + 1 }

def insertDep (db : Db) (parentId childId : JobId) : Db :=
  { db with deps := db.deps ++ [{ parentJobId := parentId, childJobId := childId }] }

/-- The column `idempotencyKey` is unique. -/
def conflicts (db : Db) (columns : JobColumns) : Bool :=
  columns.idempotencyKey.any fun key => db.jobs.any fun job => job.idempotencyKey = some key

def duplicateKey : Err :=
  { name := "QueryFailedError", message := "duplicate key value violates unique constraint" }

def exec (env : Env) (db : Db) : (c : DbCall) → Except Err c.Reply × Db
  | .findJob id => (.ok (db.job? id), db)
  | .findTenantJob id tenantId => (.ok ((db.job? id).filter fun job => job.tenantId = tenantId), db)
  | .findWorkFlowJobs workFlowId => (.ok (env.arrange (db.workFlowJobs workFlowId)), db)
  | .countJobs workFlowId statuses =>
    (.ok ((db.workFlowJobs workFlowId).countP fun job => statuses.contains job.status), db)
  | .insertJob columns =>
    if db.conflicts columns then (.error duplicateKey, db)
    else
      (.ok { columns with id := db.drawn, createdAt := env.createdAt db.drawn },
        db.insertJob (env.createdAt db.drawn) columns)
  | .updateJob id change => (.ok (), db.updateJob id change)
  | .findDeps parentIds =>
    (.ok (env.arrangeDeps (db.deps.filter fun dep => parentIds.contains dep.parentJobId)), db)
  | .findChildDeps parentId =>
    (.ok ((env.arrangeDeps (db.childDeps parentId)).map fun dep => (dep, db.job? dep.childJobId)), db)
  | .countRemaining childId => (.ok (db.remaining childId).length, db)
  | .insertDep parentId childId => (.ok (), db.insertDep parentId childId)
  | .updateDeps childId status => (.ok (), db.updateDeps childId status)
  | .insertAttempt jobId attemptNumber startedAt =>
    let attempt : JobAttempt :=
      { id := db.attempts.length, jobId := jobId, attemptNumber := attemptNumber,
        status := .PROCESSING, startedAt := startedAt }
    (.ok attempt, { db with attempts := db.attempts ++ [attempt] })
  | .updateAttempt id status finishedAt errorMessage =>
    (.ok (), { db with
      attempts := db.attempts.map fun attempt =>
        if attempt.id = id then
          { attempt with
            status := status
            finishedAt := some finishedAt
            errorMessage := errorMessage <|> attempt.errorMessage }
        else attempt })
  | .insertLog log => (.ok (), { db with logs := db.logs ++ [log] })
  | .findSequence queueName =>
    (.ok (db.sequences.find? fun sequence => sequence.queueName = queueName), db)
  | .saveSequence sequence =>
    (.ok (), { db with
      sequences :=
        if db.sequences.any (fun row => row.queueName = sequence.queueName) then
          db.sequences.map fun row => if row.queueName = sequence.queueName then sequence else row
        else db.sequences ++ [sequence] })
  | .findRecurring id => (.ok (db.recurring.find? fun recurring => recurring.id = id), db)
  | .insertRecurring jobType cron metadata tenantId userId =>
    let recurring : RecurringJob :=
      { id := db.drawn, jobType := jobType, cron := cron, metadata := metadata,
        tenantId := tenantId, userId := userId }
    (.ok recurring, { db with recurring := db.recurring ++ [recurring], drawn := db.drawn + 1 })
  | .saveRecurring recurring =>
    (.ok (), { db with
      recurring := db.recurring.map fun row => if row.id = recurring.id then recurring else row })

end Db
end OrchestrateModel
