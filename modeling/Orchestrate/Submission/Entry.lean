import Orchestrate.Model.Jobs

namespace OrchestrateModel

open Effect Program

namespace Db

/-- Another row holds the key already, so a row with it is refused. -/
def holdsKey (db : Db) (key : Option String) : Bool :=
  key.any fun key => db.jobs.any fun job => job.idempotencyKey = some key

theorem conflicts_eq (db : Db) (columns : JobColumns) : db.conflicts columns = db.holdsKey columns.idempotencyKey := rfl

end Db

variable {γ : Type} (env : Env) (gate : γ → JobQueuePayload → Except Err JobStatus × γ) (db : Db) (g : γ)

/-- The row that an insert leaves. -/
def newRow (columns : JobColumns) : Job := { columns with id := db.drawn, createdAt := env.createdAt db.drawn }

theorem run_save (columns : JobColumns) :
    (JobRepo.save columns).run (serve env gate) (db, g) =
      if db.holdsKey columns.idempotencyKey then (.thrown Db.duplicateKey, db, g)
      else (.ok (newRow env db columns), db.insertJob (env.createdAt db.drawn) columns, g) := by
  have awaited := run_await (S := serviceSignature) (serve env gate) (.db (.insertJob columns)) (db, g)
  have answered : serve env gate (db, g) (.db (.insertJob columns)) =
      ((db.exec env (.insertJob columns)).1, (db.exec env (.insertJob columns)).2, g) := rfl
  rw [Db.exec, Db.conflicts_eq] at answered
  by_cases taken : db.holdsKey columns.idempotencyKey = true
  · rw [if_pos taken]
    rw [answered, if_pos taken] at awaited
    exact awaited
  · rw [if_neg taken]
    rw [answered, if_neg taken] at awaited
    exact awaited

/-- What follows a row that is written: the name of its queue is looked up, and its payload submitted. -/
def enqueueRow {α : Type} (type : String) (payload : String → JobQueuePayload) (result : JobStatus → α) : ServiceProgram α :=
  (ofExcept (resolveQueueName type)).bind fun queueName =>
    (submit (payload queueName)).bind fun status => .done (result status)

theorem run_enqueueRow {α : Type} (type : String) (payload : String → JobQueuePayload) (result : JobStatus → α) :
    (enqueueRow type payload result).run (serve env gate) (db, g) =
      match resolveQueueName type with
      | .error error => (.thrown error, db, g)
      | .ok queueName =>
        match gate g (payload queueName) with
        | (.ok status, g') => (.ok (result status), db, g')
        | (.error error, g') => (.thrown error, db, g') := by
  unfold enqueueRow
  cases resolveQueueName type with
  | error error => rfl
  | ok queueName =>
    rw [Program.ofExcept, bind_done, run_bind, run_submit]
    dsimp only
    cases gate g (payload queueName) with
    | mk answer g' => cases answer <;> rfl

/-- The tables after `enqueueRow` are those before. -/
theorem run_enqueueRow_db {α : Type} (type : String) (payload : String → JobQueuePayload) (result : JobStatus → α) :
    ((enqueueRow type payload result).run (serve env gate) (db, g)).2.1 = db := by
  rw [run_enqueueRow]
  split
  · rfl
  · split <;> rfl

namespace JobsService

/-- The tables after the registration of a cron job, and the id of its row. -/
def recurringSaved (dto : CreateJobDto) (userId : UserId) (tenantId : TenantId) : Option Nat × Db :=
  if truthy dto.cron then
    (some db.drawn,
      { db with
        recurring := db.recurring ++
          [{ id := db.drawn, jobType := dto.jobType, cron := dto.cron.getD "", metadata := dto.metadata,
             tenantId := tenantId, userId := userId }]
        drawn := db.drawn + 1 })
  else (none, db)

theorem run_saveRecurring (dto : CreateJobDto) (userId : UserId) (tenantId : TenantId) :
    (saveRecurring dto userId tenantId).run (serve env gate) (db, g) =
      (.ok (recurringSaved db dto userId tenantId).1, (recurringSaved db dto userId tenantId).2, g) := by
  unfold saveRecurring recurringSaved
  cases dto.cron with
  | none => rfl
  | some cron =>
    by_cases empty : cron = ""
    · simp [empty, truthy]
    · simp only [empty, if_false, truthy, bne_iff_ne, ne_eq, not_false_eq_true, if_true, Option.getD_some]
      rfl

def rowColumns (dto : CreateJobDto) (userId : UserId) (tenantId : TenantId) (recurringJobId : Option Nat) (now : Nat) :
    JobColumns :=
  { type := dto.jobType
    metadata := dto.metadata
    priorityLevel := dto.priorityLevel.getD .NONE
    retries := dto.retries.getD 3
    status := if nonzero dto.delayMs || truthy dto.cron then .SCHEDULED else .QUEUED
    tenantId := tenantId
    userId := userId
    delayMs := dto.delayMs
    cron := dto.cron
    idempotencyKey := dto.idempotencyKey
    recurringJobId := recurringJobId
    scheduledAt := some (scheduledAt now dto.delayMs) }

def rowPayload (job : Job) (userId : UserId) (tenantId : TenantId) (recurringJobId : Option Nat) (queueName : String) :
    JobQueuePayload :=
  { jobId := job.id
    recurringJobId := recurringJobId
    jobType := job.type
    tenantId := tenantId
    userId := some userId
    priorityLevel := job.priorityLevel
    retries := job.retries
    metadata := job.metadata
    delayMs := job.delayMs
    cron := job.cron
    idempotencyKey := job.idempotencyKey
    queueName := queueName }

theorem createAndEnqueue_eq (dto : CreateJobDto) (userId : UserId) (tenantId : TenantId) :
    createAndEnqueue dto userId tenantId =
      (saveRecurring dto userId tenantId).bind fun recurringJobId =>
        OrchestrateModel.clock.bind fun now =>
          (JobRepo.save (rowColumns dto userId tenantId recurringJobId now)).bind fun job =>
            enqueueRow job.type (rowPayload job userId tenantId recurringJobId) fun _ => job := rfl

/-- `createAndEnqueue`: with a key that is taken it writes no row; else it writes the row, and then submits it. -/
theorem run_createAndEnqueue (dto : CreateJobDto) (userId : UserId) (tenantId : TenantId) :
    (createAndEnqueue dto userId tenantId).run (serve env gate) (db, g) =
      let saved := recurringSaved db dto userId tenantId
      let columns := rowColumns dto userId tenantId saved.1 env.now
      if db.holdsKey dto.idempotencyKey then (.thrown Db.duplicateKey, saved.2, g)
      else
        let job := newRow env saved.2 columns
        (enqueueRow job.type (rowPayload job userId tenantId saved.1) fun _ => job).run (serve env gate)
          (saved.2.insertJob (env.createdAt saved.2.drawn) columns, g) := by
  have keys : (recurringSaved db dto userId tenantId).2.holdsKey dto.idempotencyKey = db.holdsKey dto.idempotencyKey := by
    unfold recurringSaved
    split <;> rfl
  rw [createAndEnqueue_eq, run_bind, run_saveRecurring]
  dsimp only
  rw [run_bind, run_clock]
  dsimp only
  rw [run_bind, run_save]
  have key : (rowColumns dto userId tenantId (recurringSaved db dto userId tenantId).1 env.now).idempotencyKey =
      dto.idempotencyKey := rfl
  rw [key, keys]
  by_cases taken : db.holdsKey dto.idempotencyKey = true
  · simp only [taken, if_true]
  · simp only [taken]
    rfl

end JobsService
end OrchestrateModel
