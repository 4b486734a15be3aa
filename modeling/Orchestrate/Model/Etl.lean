import Orchestrate.Model.Jobs

namespace OrchestrateModel

open Effect

/-- A row as the ETL processor gives it to `jobRepo.save`, under the id it has drawn. `tenantId` is no column of the entity. -/
structure EtlRow where
  id : JobId
  type : String
  status : JobStatus
  tenantId : TenantId
  metadata : Metadata
  priorityLevel : PriorityLevel
  retries : Nat
  deriving DecidableEq, Repr

/-- The awaited calls of the ETL processor; `pipeline` is extract, transform and load. -/
inductive EtlCall : Type where
  | service (c : ServiceCall)
  | pipeline (metadata : Metadata)
  | saveNext (row : EtlRow)

@[reducible] def EtlCall.Reply : EtlCall → Type
  | .service c => c.Reply
  | .pipeline _ | .saveNext _ => Unit

abbrev etlSignature : Signature := ⟨EtlCall, EtlCall.Reply⟩

abbrev EtlProgram := Program etlSignature Err

def awaitEtl (c : EtlCall) : EtlProgram c.Reply := Program.await (S := etlSignature) c

/-- How the JSON of a job's metadata reads as an `ETLPayload`. -/
structure EtlFields where
  dependsOn : Metadata → List JobId
  nextJob : Metadata → Option Metadata

/-- The relation `tenant` of a row that was saved without one. No tenant has this id. -/
def noTenant : TenantId := ""

/-- TypeORM persists the columns and relations that the entity declares. -/
def EtlRow.persisted (row : EtlRow) (createdAt : Nat) : Job :=
  { id := row.id, type := row.type, status := row.status, metadata := row.metadata, priorityLevel := row.priorityLevel,
    retries := row.retries, tenantId := noTenant, userId := "", createdAt := createdAt }

namespace ETLProcessor

/-- The body of the loop over `metadata.dependsOn`. -/
def checkDependency (depId : JobId) : EtlProgram Unit := do
  let depJob : Option Job ← awaitEtl (.service (.db (.findJob depId)))
  match depJob with
  | none => .throws { message := "Dependency job " ++ uuidText depId ++ " not found" }
  | some depJob =>
    if depJob.status ≠ .COMPLETED then
      .throws { message := "Dependency job " ++ uuidText depId ++ " not completed" }

/-- The payload of the next job; its queue is that of the job itself. -/
def nextPayload (data : JobQueuePayload) (attempts : Nat) (queueName : String) (newJobId : JobId) (nextJob : Metadata) :
    JobQueuePayload :=
  { jobId := newJobId
    jobType := "etl-jobs"
    metadata := nextJob
    priorityLevel := data.priorityLevel
    retries := attempts
    tenantId := data.tenantId
    queueName := queueName }

def scheduleNext (data : JobQueuePayload) (attempts : Nat) (queueName : String) (nextJob : Metadata) : EtlProgram Unit := do
  let newJobId : Nat ← awaitEtl (.service .randomUUID)
  awaitEtl (.saveNext
    { id := newJobId
      type := "etl-jobs"
      status := .QUEUED
      tenantId := data.tenantId
      metadata := nextJob
      priorityLevel := data.priorityLevel
      retries := attempts })
  let _ ← awaitEtl (.service (.submitJob (nextPayload data attempts queueName newJobId nextJob)))
  return ()

def process (fields : EtlFields) (data : JobQueuePayload) (attempts : Nat) (queueName : String) : EtlProgram Unit := do
  Program.forEach (fields.dependsOn data.metadata) checkDependency
  awaitEtl (.pipeline data.metadata)
  match fields.nextJob data.metadata with
  | none => return ()
  | some nextJob => scheduleNext data attempts queueName nextJob

end ETLProcessor

/-- The stores and the gate as for the services; `pipeline` is the outcome of the work on the data. -/
def serveEtl {γ : Type} (env : Env) (gate : γ → JobQueuePayload → Except Err JobStatus × γ) (pipeline : Except Err Unit) :
    Handler etlSignature Err (Db × γ)
  | s, .service c => serve env gate s c
  | s, .pipeline _ => (pipeline, s)
  | (db, g), .saveNext row => (.ok (), { db with jobs := db.jobs ++ [row.persisted (env.createdAt row.id)] }, g)

end OrchestrateModel
