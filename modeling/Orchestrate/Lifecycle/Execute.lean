import Orchestrate.Effect.Attempts
import Orchestrate.Model.Processor

namespace OrchestrateModel

open Effect Program BaseProcessor

namespace WorkerCall

def isProcess : WorkerCall → Bool
  | .process _ => true
  | _ => false

def isRelease : WorkerCall → Bool
  | .release _ _ => true
  | _ => false

/-- The clock and the metrics are not awaited. -/
def isAwaited : WorkerCall → Bool
  | .service .now | .record _ => false
  | _ => true

/-- Neither the work itself nor the release of the slot. -/
def Bookkeeping (c : WorkerCall) : Prop := c.isProcess = false ∧ c.isRelease = false

def isIncrementFailed : WorkerCall → Bool
  | .incrementFailed _ => true
  | _ => false

/-- A call of a service, or a record: what comes before the `try` block. -/
def Preparatory : WorkerCall → Prop
  | .service _ | .record _ => True
  | _ => False

theorem Preparatory.bookkeeping {c : WorkerCall} (prepares : c.Preparatory) : c.Bookkeeping := by
  cases c <;> first | exact ⟨rfl, rfl⟩ | exact prepares.elim

theorem Preparatory.uncounted {c : WorkerCall} (prepares : c.Preparatory) : c.isIncrementFailed = false := by
  cases c <;> first | rfl | exact prepares.elim

end WorkerCall

theorem onServices_await (c : ServiceCall) :
    onServices (Program.await (S := serviceSignature) c) = awaitWork (.service c) := by
  simp only [Program.await, awaitWork, onServices]
  congr 1
  funext reply
  cases reply <;> rfl

theorem onServices_bind {α β : Type} (program : ServiceProgram α) (next : α → ServiceProgram β) :
    onServices (program.bind next) = (onServices program).bind fun value => onServices (next value) := by
  induction program with
  | done value => rfl
  | throws error => rfl
  | hangs => rfl
  | call c rest ih =>
    simp only [bind_call, onServices]
    congr 1
    funext reply
    exact ih reply

theorem only_onServices {α : Type} {allowed : WorkerCall → Prop} {program : ServiceProgram α}
    (services : program.Only fun c => allowed (.service c)) : (onServices program).Only allowed := by
  induction program with
  | done value => trivial
  | throws error => trivial
  | hangs => trivial
  | call c next ih => exact ⟨services.1, fun reply => ih reply (services.2 reply)⟩

theorem calm_onServices {α : Type} {program : ServiceProgram α} (calm : program.Calm) : (onServices program).Calm := by
  induction program with
  | done value => trivial
  | throws error => exact calm
  | hangs => exact calm
  | call c next ih =>
    refine ⟨fun error => ?_, fun reply => ih (.ok reply) (calm.2 reply)⟩
    dsimp only
    rw [calm.1 error]
    rfl

theorem only_any {S : Signature} {ε α : Type} (program : Program S ε α) : program.Only fun _ => True := by
  induction program with
  | call c next ih => exact ⟨trivial, ih⟩
  | _ => trivial

theorem preparatory_onServices {α : Type} (program : ServiceProgram α) :
    (onServices program).Only WorkerCall.Preparatory :=
  only_onServices ((only_any program).mono fun _ _ => trivial)

/-- A service's program neither works nor releases. -/
theorem bookkeeping_onServices {α : Type} (program : ServiceProgram α) :
    (onServices program).Only WorkerCall.Bookkeeping :=
  (preparatory_onServices program).mono fun _ prepares => prepares.bookkeeping

theorem bookkeeping_record (metric : Metric) : (record metric).Only WorkerCall.Bookkeeping :=
  only_await ⟨rfl, rfl⟩

/-- `execute` up to the lookup of the row. -/
def lookup (job : BullJob) : WorkerProgram (Nat × Nat × Option Job) := do
  let executeStart ← onServices clock
  let now ← onServices clock
  let existingJob ← onServices (JobRepo.findOne job.data.jobId)
  return (executeStart, now, existingJob)

/-- What `execute` writes before its `try` block. -/
def register (job : BullJob) (executeStart now : Nat) (existingJob : Option Job) : WorkerProgram Attempt := do
  if job.attemptsMade > 0 then
    record (.jobRetry job.queueName job.data.jobType)
  let sequenceNumber ← onServices (trackSequence job)
  let startedAt ← onServices clock
  let attempt : JobAttempt ←
    onServices (query (.insertAttempt job.data.jobId (job.attemptsMade + 1) startedAt))
  if job.attemptsMade = 0 then
    onServices (JobRepo.update job.data.jobId { status := some .PROCESSING })
  onServices (query (.insertLog
    { jobId := job.data.jobId, message := "Job attempt started", attemptNumber := attempt.attemptNumber }))
  return { executeStart := executeStart
           waitSeconds := ((now : Rat) - job.timestamp) / 1000
           isWorkflowJob := existingJob.any (·.workFlowId.isSome)
           sequenceNumber := sequenceNumber
           attempt := attempt }

/-- The row says that a job that does not recur is already completed. -/
def shortcut (job : BullJob) (existingJob : Option Job) : Bool :=
  existingJob.any (·.status = .COMPLETED) && !isRecurring job

theorem execute_eq (job : BullJob) :
    execute job = (lookup job).bind fun (executeStart, now, existingJob) =>
      if shortcut job existingJob then ((release job.data.tenantId job.queueName).capture).bind fun _ => .done ()
      else (register job executeStart now existingJob).bind fun attempt =>
        (process job).capture.bind (afterProcess job attempt) := by
  simp only [execute, beginAttempt, lookup, register, bind_eq, pure_eq_done, bind_assoc, bind_done]
  congr 1
  funext executeStart
  congr 1
  funext now
  congr 1
  funext existingJob
  by_cases skips : shortcut job existingJob = true
  · have skips' := skips
    unfold shortcut at skips'
    rw [if_pos skips, if_pos skips', bind_assoc]
    rfl
  · have skips' := skips
    unfold shortcut at skips'
    rw [if_neg skips, if_neg skips']
    by_cases start : job.attemptsMade = 0
    · have first : ¬ job.attemptsMade > 0 := by omega
      simp only [if_neg first, if_pos start, bind_assoc, bind_done]
    · have later : job.attemptsMade > 0 := by omega
      simp only [if_pos later, if_neg start, bind_assoc, bind_done]

/-- What the `catch` block of `execute` writes. -/
def recordFailure (job : BullJob) (attempt : Attempt) (error : Err) : WorkerProgram Unit := do
  let now ← onServices clock
  let finish ← onServices clock
  onServices (query (.updateAttempt attempt.attempt.id .FAILED now (some error.message)))
  onServices (query (.insertLog
    { jobId := job.data.jobId, message := "Job attempt failed",
      attemptNumber := attempt.attempt.attemptNumber, error := some error.message }))
  if isFinalFailure job then
    onServices (JobRepo.update job.data.jobId { status := some .FAILED, completedAt := some now })
    record (.jobFailed job.queueName job.data.jobType job.data.priorityLevel
      (((finish : Rat) - attempt.executeStart) / 100) (classifyFailure error))
    incrementFailed job.queueName

theorem afterFailure_eq (job : BullJob) (attempt : Attempt) (error : Err) :
    afterFailure job attempt error = (recordFailure job attempt error).bind fun _ =>
      (onServices (ChainService.handleParentFailure job.data.jobId)).bind fun _ => .throws error := by
  unfold afterFailure recordFailure
  by_cases final : isFinalFailure job = true
  · simp only [if_pos final, bind_eq, bind_assoc]
  · simp only [if_neg final, bind_eq, bind_assoc, pure_eq_done, bind_done]

theorem afterFailure_throws {σ : Type} (h : Handler workerSignature Err σ) (job : BullJob) (attempt : Attempt)
    (error : Err) (s s' : σ) : run h (afterFailure job attempt error) s ≠ (.ok (), s') := by
  rw [afterFailure_eq, ← bind_assoc, run_bind]
  split <;> simp

/-- The `try` block of `execute` from the outcome of `process` on, with its `catch`. -/
def settle (job : BullJob) (attempt : Attempt) (outcome : Except Err (Option String)) : WorkerProgram Unit :=
  catching
    (match outcome with
    | .ok result => afterSuccess job attempt result
    | .error error => .throws error)
    (afterFailure job attempt)

theorem afterProcess_eq (job : BullJob) (attempt : Attempt) (outcome : Except Err (Option String)) :
    afterProcess job attempt outcome = (settle job attempt outcome).capture.bind fun completion =>
      if outcome.toBool || isFinalFailure job then
        ((release job.data.tenantId job.queueName).capture).bind fun _ => .ofExcept completion
      else .ofExcept completion := by
  unfold afterProcess settle
  rfl

section Bookkeeping

theorem preparatory_lookup (job : BullJob) : (lookup job).Only WorkerCall.Preparatory :=
  (preparatory_onServices _).bind fun _ => (preparatory_onServices _).bind fun _ =>
    (preparatory_onServices _).bind fun _ => only_done _

theorem preparatory_register (job : BullJob) (executeStart now : Nat) (existingJob : Option Job) :
    (register job executeStart now existingJob).Only WorkerCall.Preparatory := by
  simp only [register, bind_eq, pure_eq_done]
  repeat' first
    | exact preparatory_onServices _
    | exact only_await (S := workerSignature) trivial
    | exact only_done _
    | refine Only.bind ?_ fun _ => ?_
    | split

theorem bookkeeping_recordFailure (job : BullJob) (attempt : Attempt) (error : Err) :
    (recordFailure job attempt error).Only WorkerCall.Bookkeeping := by
  simp only [recordFailure, bind_eq, pure_eq_done]
  repeat' first
    | exact bookkeeping_onServices _
    | exact bookkeeping_record _
    | exact only_await ⟨rfl, rfl⟩
    | exact only_done _
    | refine Only.bind ?_ fun _ => ?_
    | split

theorem bookkeeping_afterSuccess (job : BullJob) (attempt : Attempt) (result : Option String) :
    (afterSuccess job attempt result).Only WorkerCall.Bookkeeping := by
  simp only [afterSuccess, bind_eq]
  repeat' first
    | exact bookkeeping_onServices _
    | exact (bookkeeping_onServices _).capture
    | exact bookkeeping_record _
    | exact only_await ⟨rfl, rfl⟩
    | refine Only.bind ?_ fun _ => ?_
    | split

theorem bookkeeping_settle (job : BullJob) (attempt : Attempt) (outcome : Except Err (Option String)) :
    (settle job attempt outcome).Only WorkerCall.Bookkeeping := by
  refine Only.catching ?_ fun error => ?_
  · cases outcome with
    | ok result => exact bookkeeping_afterSuccess job attempt result
    | error error => exact only_throws error
  · rw [afterFailure_eq]
    exact (bookkeeping_recordFailure job attempt error).bind fun _ =>
      (bookkeeping_onServices _).bind fun _ => only_throws error

end Bookkeeping

section Calm

theorem calm_query (c : DbCall) : (onServices (query c)).Calm := calm_onServices (calm_await _)

theorem calm_clock : (onServices clock).Calm := calm_onServices (calm_await _)

theorem calm_lookup (job : BullJob) : (lookup job).Calm :=
  calm_clock.bind fun _ => calm_clock.bind fun _ => (calm_query _).bind fun _ => calm_done _

theorem calm_trackSequence (job : BullJob) : (trackSequence job).Calm := by
  unfold trackSequence
  split
  · split
    · refine Calm.bind (calm_await _) fun found => ?_
      split
      · exact calm_done _
      · exact Calm.bind (calm_await _) fun _ => calm_done _
    · exact calm_done _
  · exact Calm.bind (calm_await _) fun _ => Calm.bind (calm_await _) fun _ =>
      Calm.bind (calm_await _) fun _ => calm_done _

theorem calm_register (job : BullJob) (executeStart now : Nat) (existingJob : Option Job) :
    (register job executeStart now existingJob).Calm := by
  simp only [register, bind_eq, pure_eq_done]
  repeat' first
    | exact calm_query _
    | exact calm_clock
    | exact calm_onServices (calm_trackSequence job)
    | exact calm_await _
    | exact calm_done _
    | refine Calm.bind ?_ fun _ => ?_
    | split

end Calm
end OrchestrateModel
