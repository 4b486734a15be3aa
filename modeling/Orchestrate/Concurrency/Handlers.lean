import Orchestrate.Effect.Interleave
import Orchestrate.Workflow.Supply

namespace OrchestrateModel

open Effect ChainService

/-- A handler runs after the status of its job has been written. -/
inductive HandlerKind : Type where
  | completed | failed
  deriving DecidableEq

namespace HandlerKind

def status : HandlerKind → JobStatus
  | completed => .COMPLETED
  | failed => .FAILED

def program (jobId : JobId) : HandlerKind → ServiceProgram Unit
  | completed => onJobCompleted jobId
  | failed => handleParentFailure jobId

/-- The handler up to the end of its loop over the children, with the arguments of the scheduling that
    follows; none where the handler returns early. -/
def loop (jobId : JobId) : HandlerKind → ServiceProgram (Option (WorkFlowId × TenantId))
  | completed => do
    let found ← JobRepo.findOne jobId
    match found.bind fun completedJob => completedJob.workFlowId.map (completedJob, ·) with
    | none => return none
    | some (completedJob, workFlowId) =>
      unlockChildren jobId
      return some (workFlowId, completedJob.tenantId)
  | failed => do
    let found ← JobRepo.findOne jobId
    match found.bind fun parentJob => parentJob.workFlowId.map (parentJob, ·) with
    | none => return none
    | some (parentJob, workFlowId) =>
      let deps ← DepRepo.findByParent jobId
      Program.forEach deps fun dep => skipChild dep.2
      return some (workFlowId, parentJob.tenantId)

end HandlerKind

/-- The scheduling at the end of a handler. -/
def scheduleAfter : Option (WorkFlowId × TenantId) → ServiceProgram Unit
  | none => return ()
  | some (workFlowId, tenantId) => scheduleNextJob workFlowId tenantId

theorem HandlerKind.program_eq (kind : HandlerKind) (jobId : JobId) :
    kind.program jobId = (kind.loop jobId).bind scheduleAfter := by
  cases kind with
  | completed =>
    simp only [program, loop, onJobCompleted, Program.bind_eq, Program.bind_assoc]
    congr 1
    funext found
    cases found.bind fun completedJob => completedJob.workFlowId.map (completedJob, ·) with
    | none => rfl
    | some both => simp only [Program.bind_assoc]; rfl
  | failed =>
    simp only [program, loop, handleParentFailure, Program.bind_eq, Program.bind_assoc]
    congr 1
    funext found
    cases found.bind fun parentJob => parentJob.workFlowId.map (parentJob, ·) with
    | none => rfl
    | some both => simp only [Program.bind_assoc]; rfl

/-- What is left of a handler: the rest of its loop and then the scheduling, or the rest of the scheduling. -/
inductive HandlerPoint : Type where
  | looping (rest : ServiceProgram (Option (WorkFlowId × TenantId)))
  | scheduling (rest : ServiceProgram Unit)

namespace HandlerPoint

def code : HandlerPoint → ServiceProgram Unit
  | looping rest => rest.bind scheduleAfter
  | scheduling rest => rest

/-- The loop over the children has returned. -/
def Looped : HandlerPoint → Prop
  | looping (.done (some _)) | scheduling _ => True
  | looping _ => False

instance : DecidablePred Looped
  | looping (.done (some _)) | scheduling _ => isTrue trivial
  | looping (.done none) | looping (.throws _) | looping .hangs | looping (.call _ _) => isFalse id

def turn {σ : Type} (h : Handler serviceSignature Err σ) (s : σ) : HandlerPoint → Option (HandlerPoint × σ)
  | looping (.done result) => ((scheduleAfter result).turn h s).map fun moved => (scheduling moved.1, moved.2)
  | looping rest => (rest.turn h s).map fun moved => (looping moved.1, moved.2)
  | scheduling rest => (rest.turn h s).map fun moved => (scheduling moved.1, moved.2)

/-- The points trace the program of the handler. -/
theorem turn_code {σ : Type} (h : Handler serviceSignature Err σ) (s : σ) (point : HandlerPoint) :
    point.code.turn h s = (point.turn h s).map fun moved => (moved.1.code, moved.2) := by
  cases point with
  | scheduling rest => cases rest <;> rfl
  | looping rest =>
    cases rest with
    | done result =>
      show (scheduleAfter result).turn h s = _
      simp only [turn]
      cases scheduleAfter result <;> rfl
    | throws error => rfl
    | hangs => rfl
    | call c next => rfl

end HandlerPoint

/-- A handler that was called. -/
structure HandlerCall where
  kind : HandlerKind
  jobId : JobId
  point : HandlerPoint

/-- Any number of handlers over one database. -/
structure Handling where
  db : Db
  desk : Desk
  calls : List HandlerCall

/-- The rest of the system starts and ends attempts, and queues a FAILED job again. -/
inductive HandlingEvent : Type where
  | write (jobId : JobId) (status : JobStatus)
  | start (kind : HandlerKind) (jobId : JobId)
  | advance (i : Nat) (env : Env) (staged : Bool)

namespace Handling

def begin_ (db : Db) (desk : Desk) : Handling := { db := db, desk := desk, calls := [] }

/-- A COMPLETED row is not written again. -/
def Written (s : Handling) (jobId : JobId) (status : JobStatus) : Prop :=
  s.db.status jobId ≠ some .COMPLETED ∧ status ∈ [JobStatus.QUEUED, .PROCESSING, .COMPLETED, .FAILED]

instance (s : Handling) (jobId : JobId) (status : JobStatus) : Decidable (s.Written jobId status) :=
  inferInstanceAs (Decidable (_ ∧ _))

def step (s : Handling) : HandlingEvent → Option Handling
  | .write jobId status =>
    if s.Written jobId status then some { s with db := s.db.updateJob jobId { status := some status } } else none
  | .start kind jobId =>
    if s.db.status jobId = some kind.status then
      some { s with calls := s.calls ++ [{ kind := kind, jobId := jobId, point := .looping (kind.loop jobId) }] }
    else none
  | .advance i env staged => do
    let call ← s.calls[i]?
    let (point, db, desk) ← call.point.turn (serve env (Desk.accept staged env.now)) (s.db, s.desk)
    return { db := db, desk := desk, calls := s.calls.set i { call with point := point } }

end Handling

def handling : Machine Handling HandlingEvent := ⟨Handling.step⟩

end OrchestrateModel
