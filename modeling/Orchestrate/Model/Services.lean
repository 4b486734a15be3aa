import Orchestrate.Model.Database

namespace OrchestrateModel

open Effect

/-- The awaited calls of the services: statements, `TenantCapService.submitJob`, and the sources of
    uuids and of the time. -/
inductive ServiceCall : Type where
  | db (c : DbCall)
  | submitJob (payload : JobQueuePayload)
  | randomUUID
  | now

@[reducible] def ServiceCall.Reply : ServiceCall → Type
  | .db c => c.Reply
  | .submitJob _ => JobStatus
  | .randomUUID | .now => Nat

abbrev serviceSignature : Signature := ⟨ServiceCall, ServiceCall.Reply⟩

abbrev ServiceProgram := Program serviceSignature Err

def query (c : DbCall) : ServiceProgram c.Reply := Program.await (S := serviceSignature) (.db c)

def submit (payload : JobQueuePayload) : ServiceProgram JobStatus :=
  Program.await (S := serviceSignature) (.submitJob payload)

def randomUUID : ServiceProgram Nat := Program.await (S := serviceSignature) .randomUUID

def clock : ServiceProgram Nat := Program.await (S := serviceSignature) .now

namespace JobRepo

def findOne (id : JobId) : ServiceProgram (Option Job) := query (.findJob id)

def findOneOfTenant (id : JobId) (tenantId : TenantId) : ServiceProgram (Option Job) :=
  query (.findTenantJob id tenantId)

def findByWorkFlow (workFlowId : WorkFlowId) : ServiceProgram (List Job) :=
  query (.findWorkFlowJobs workFlowId)

def count (workFlowId : WorkFlowId) (statuses : List JobStatus) : ServiceProgram Nat :=
  query (.countJobs workFlowId statuses)

def save (columns : JobColumns) : ServiceProgram Job := query (.insertJob columns)

def update (id : JobId) (change : JobChange) : ServiceProgram Unit := query (.updateJob id change)

end JobRepo

namespace DepRepo

def findByParents (parentIds : List JobId) : ServiceProgram (List JobDependency) :=
  query (.findDeps parentIds)

/-- The dependencies of a parent, each with its relation `childJob`. -/
def findByParent (parentId : JobId) : ServiceProgram (List (JobDependency × Option Job)) :=
  query (.findChildDeps parentId)

def countRemaining (childId : JobId) : ServiceProgram Nat := query (.countRemaining childId)

def save (parentJobId childJobId : JobId) : ServiceProgram Unit := query (.insertDep parentJobId childJobId)

def update (childJobId : JobId) (status : JobStatus) : ServiceProgram Unit :=
  query (.updateDeps childJobId status)

end DepRepo

/-- The database answers the statements, and `gate` the submissions. -/
def serve {γ : Type} (env : Env) (gate : γ → JobQueuePayload → Except Err JobStatus × γ) :
    Handler serviceSignature Err (Db × γ)
  | (db, g), .db c => ((db.exec env c).1, (db.exec env c).2, g)
  | (db, g), .submitJob payload => ((gate g payload).1, db, (gate g payload).2)
  | (db, g), .randomUUID => (.ok db.drawn, { db with drawn := db.drawn + 1 }, g)
  | (db, g), .now => (.ok env.now, db, g)

section Answers

variable {γ : Type} (env : Env) (gate : γ → JobQueuePayload → Except Err JobStatus × γ) (db : Db) (g : γ)

@[simp] theorem run_findOne (id : JobId) :
    (JobRepo.findOne id).run (serve env gate) (db, g) = (.ok (db.job? id), db, g) := rfl

@[simp] theorem run_findByWorkFlow (workFlowId : WorkFlowId) :
    (JobRepo.findByWorkFlow workFlowId).run (serve env gate) (db, g) =
      (.ok (env.arrange (db.workFlowJobs workFlowId)), db, g) := rfl

@[simp] theorem run_count (workFlowId : WorkFlowId) (statuses : List JobStatus) :
    (JobRepo.count workFlowId statuses).run (serve env gate) (db, g) =
      (.ok ((db.workFlowJobs workFlowId).countP fun job => statuses.contains job.status), db, g) := rfl

@[simp] theorem run_update (id : JobId) (change : JobChange) :
    (JobRepo.update id change).run (serve env gate) (db, g) = (.ok (), db.updateJob id change, g) := rfl

@[simp] theorem run_findByParents (parentIds : List JobId) :
    (DepRepo.findByParents parentIds).run (serve env gate) (db, g) =
      (.ok (env.arrangeDeps (db.deps.filter fun dep => parentIds.contains dep.parentJobId)), db, g) := rfl

@[simp] theorem run_findByParent (parentId : JobId) :
    (DepRepo.findByParent parentId).run (serve env gate) (db, g) =
      (.ok ((env.arrangeDeps (db.childDeps parentId)).map fun dep => (dep, db.job? dep.childJobId)), db, g) :=
  rfl

@[simp] theorem run_countRemaining (childId : JobId) :
    (DepRepo.countRemaining childId).run (serve env gate) (db, g) =
      (.ok (db.remaining childId).length, db, g) := rfl

@[simp] theorem run_saveDep (parentId childId : JobId) :
    (DepRepo.save parentId childId).run (serve env gate) (db, g) =
      (.ok (), db.insertDep parentId childId, g) := rfl

@[simp] theorem run_updateDeps (childId : JobId) (status : JobStatus) :
    (DepRepo.update childId status).run (serve env gate) (db, g) =
      (.ok (), db.updateDeps childId status, g) := rfl

@[simp] theorem run_randomUUID :
    randomUUID.run (serve env gate) (db, g) = (.ok db.drawn, { db with drawn := db.drawn + 1 }, g) := rfl

@[simp] theorem run_clock : clock.run (serve env gate) (db, g) = (.ok env.now, db, g) := rfl

/-- The row of a new attempt. -/
def newAttempt (db : Db) (jobId : JobId) (attemptNumber startedAt : Nat) : JobAttempt :=
  { id := db.attempts.length, jobId := jobId, attemptNumber := attemptNumber,
    status := .PROCESSING, startedAt := startedAt }

theorem run_insertAttempt (jobId : JobId) (attemptNumber startedAt : Nat) :
    (query (.insertAttempt jobId attemptNumber startedAt)).run (serve env gate) (db, g) =
      (.ok (newAttempt db jobId attemptNumber startedAt),
        { db with attempts := db.attempts ++ [newAttempt db jobId attemptNumber startedAt] }, g) := rfl

theorem run_updateAttempt (id : Nat) (status : JobStatus) (finishedAt : Nat) (errorMessage : Option String) :
    (query (.updateAttempt id status finishedAt errorMessage)).run (serve env gate) (db, g) =
      (.ok (), (db.exec env (.updateAttempt id status finishedAt errorMessage)).2, g) := rfl

theorem run_insertLog (log : JobLog) :
    (query (.insertLog log)).run (serve env gate) (db, g) = (.ok (), { db with logs := db.logs ++ [log] }, g) :=
  rfl

theorem run_submit (payload : JobQueuePayload) :
    (submit payload).run (serve env gate) (db, g) =
      match gate g payload with
      | (.ok status, g') => (.ok status, db, g')
      | (.error error, g') => (.thrown error, db, g') := by
  have awaited := Program.run_await (S := serviceSignature) (serve env gate) (.submitJob payload) (db, g)
  cases answer : gate g payload with
  | mk result g' =>
    have served : serve env gate (db, g) (.submitJob payload) = (result, db, g') := by
      show ((gate g payload).1, db, (gate g payload).2) = _
      rw [answer]
    rw [served] at awaited
    cases result <;> exact awaited

end Answers
end OrchestrateModel
