import Orchestrate.Effect.Machine
import Orchestrate.Model.Jobs
import Orchestrate.Model.Processor

namespace OrchestrateModel

open Effect

/-- Where a submitted payload stands: staged or queued, in an attempt, over, or in a handler that never
    ends. -/
inductive Stage : Type where
  | waiting | running (attempt : BaseProcessor.Attempt) | ended | stuck
  deriving DecidableEq

structure Entry where
  payload : JobQueuePayload
  attemptsMade : Nat := 0
  stage : Stage := .waiting
  addedAt : Nat
  deriving DecidableEq

/-- BullMQ and the staging lists as the workflow services see them: a payload handed over waits until a
    worker takes it. `bullIds` are the custom job ids that BullMQ holds. -/
structure Desk where
  entries : List Entry
  submitted : List JobQueuePayload
  bullIds : List String
  deriving DecidableEq

namespace Desk

def empty : Desk := { entries := [], submitted := [], bullIds := [] }

def setEntry (desk : Desk) (i : Nat) (entry : Entry) : Desk :=
  { desk with entries := desk.entries.set i entry }

/-- A payload reaches BullMQ, which ignores a job id that it already holds. -/
def place (desk : Desk) (now : Nat) (payload : JobQueuePayload) : Desk :=
  match (jobsOptions payload).jobId with
  | none => { desk with entries := desk.entries ++ [{ payload := payload, addedAt := now }] }
  | some id =>
    if id ∈ desk.bullIds then desk
    else
      { desk with
        entries := desk.entries ++ [{ payload := payload, addedAt := now }]
        bullIds := desk.bullIds ++ [id] }

/-- `submitJob` as its callers see it: over the cap the payload is staged, else `enqueue` places it or
    throws. -/
def accept (staged : Bool) (now : Nat) (desk : Desk) (payload : JobQueuePayload) :
    Except Err JobStatus × Desk :=
  let noted := { desk with submitted := desk.submitted ++ [payload] }
  if staged then (.ok .STAGED, noted.place now payload)
  else if Routable payload.jobType then (.ok .QUEUED, noted.place now payload)
  else
    (.error { message := "no queue found for this jobtype \"" ++ payload.jobType ++ "\"" }, noted)

end Desk

/-- A worker's calls: the services answer theirs; `process` has a given outcome; the slot counter and the
    metrics are not seen by a workflow. -/
def work {γ : Type} (env : Env) (gate : γ → JobQueuePayload → Except Err JobStatus × γ)
    (outcome : Except Err (Option String)) : Handler workerSignature Err (Db × γ)
  | s, .service c => serve env gate s c
  | s, .process _ => (outcome, s)
  | s, .release _ _ | s, .record _ | s, .incrementCompleted _ | s, .incrementFailed _ => (.ok (), s)

structure Workflows where
  db : Db
  desk : Desk
  deriving DecidableEq

/-- `staged` says whether the tenant is at its cap when the step submits a payload. -/
inductive WorkflowEvent : Type where
  | create (env : Env) (staged : Bool) (items : List WorkFlowItem) (userId : UserId) (tenantId : TenantId)
  | start (env : Env) (i : Nat)
  | finish (env : Env) (staged : Bool) (i : Nat) (outcome : Except Err (Option String))
  | retry (env : Env) (staged : Bool) (jobId : JobId) (userId : UserId) (tenantId : TenantId)

/-- The start or the end of an attempt. -/
def WorkflowEvent.isAttempt : WorkflowEvent → Bool
  | .start .. | .finish .. => true
  | .create .. | .retry .. => false

namespace Entry

def job (entry : Entry) (queueName : String) : BullJob :=
  { data := entry.payload
    opts := jobsOptions entry.payload
    attemptsMade := entry.attemptsMade
    queueName := queueName
    timestamp := entry.addedAt }

/-- The attempt is the last that BullMQ makes. -/
def Final (entry : Entry) : Prop := entry.payload.retries ≤ entry.attemptsMade + 1

instance : DecidablePred Final := fun _ => inferInstanceAs (Decidable (_ ≤ _))

/-- BullMQ's rule for a finished attempt: a failed one is retried while attempts are left. -/
def after (entry : Entry) : Outcome Err Unit → Entry
  | .ok _ => { entry with stage := .ended }
  | .thrown _ =>
    { entry with
      attemptsMade := entry.attemptsMade + 1
      stage := if entry.Final then .ended else .waiting }
  | .hung => { entry with stage := .stuck }

end Entry

namespace Workflows

def empty : Workflows := { db := .empty, desk := .empty }

def begin_ (env : Env) (s : Workflows) (i : Nat) (entry : Entry) (queueName : String) : Workflows :=
  let (begun, db, desk) := (BaseProcessor.beginAttempt (entry.job queueName)).run
    (work env (Desk.accept false env.now) (.ok none)) (s.db, s.desk)
  let stage : Stage := match begun with
    | .ok none => .ended
    | .ok (some attempt) => .running attempt
    | .thrown _ | .hung => .stuck
  { db := db, desk := desk.setEntry i { entry with stage := stage } }

def end_ (env : Env) (staged : Bool) (s : Workflows) (i : Nat) (entry : Entry) (queueName : String)
    (attempt : BaseProcessor.Attempt) (outcome : Except Err (Option String)) : Workflows :=
  let (done, db, desk) := (BaseProcessor.afterProcess (entry.job queueName) attempt outcome).run
    (work env (Desk.accept staged env.now) outcome) (s.db, s.desk)
  { db := db, desk := desk.setEntry i (entry.after done) }

def request {α : Type} (env : Env) (staged : Bool) (s : Workflows) (program : ServiceProgram α) : Workflows :=
  let (_, db, desk) := program.run (serve env (Desk.accept staged env.now)) (s.db, s.desk)
  { db := db, desk := desk }

/-- One step: a request of the API, the start of an attempt, or what follows its `process`. -/
def step (s : Workflows) : WorkflowEvent → Option Workflows
  | .create env staged items userId tenantId =>
    some (s.request env staged (ChainService.createWorkFlow items userId tenantId))
  | .start env i => do
    let entry ← s.desk.entries[i]?
    let queueName ← getQueueName entry.payload.jobType
    match entry.stage with
    | .waiting => some (s.begin_ env i entry queueName)
    | _ => none
  | .finish env staged i outcome => do
    let entry ← s.desk.entries[i]?
    let queueName ← getQueueName entry.payload.jobType
    match entry.stage with
    | .running attempt => some (s.end_ env staged i entry queueName attempt outcome)
    | _ => none
  | .retry env staged jobId userId tenantId =>
    some (s.request env staged (JobsService.retryFailedJob jobId userId tenantId))

end Workflows

def workflows : Machine Workflows WorkflowEvent := ⟨Workflows.step⟩

end OrchestrateModel
