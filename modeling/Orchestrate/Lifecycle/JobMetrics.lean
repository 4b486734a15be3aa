import Mathlib.Tactic.Linarith
import Orchestrate.Lifecycle.Release

namespace OrchestrateModel

open Effect Program BaseProcessor

/-- The record that a call makes. -/
def WorkerCall.metric : WorkerCall → Option Metric
  | .record metric => some metric
  | _ => none

def Metric.isRetry : Metric → Bool
  | .jobRetry _ _ => true
  | _ => false

/-- The metric says how an attempt ended and for how long it ran. -/
def Metric.Reports (succeeded : Prop) (milliseconds : Int) : Metric → Prop
  | .jobCompleted _ _ _ durationSeconds _ => succeeded ∧ durationSeconds = milliseconds / 1000
  | .jobFailed _ _ _ durationSeconds _ => ¬ succeeded ∧ durationSeconds = milliseconds / 1000
  | .jobRetry _ _ | .dlqMove _ _ => False

section Metrics

variable {σ : Type} {h : Handler workerSignature Err σ} {job : BullJob} {s : σ} {calls more : List (σ × WorkerCall)}

def metrics (calls : List (σ × WorkerCall)) : List Metric := calls.filterMap fun v => v.2.metric

/-- The time that a call reads. -/
def reading (h : Handler workerSignature Err σ) (s : σ) : WorkerCall → Option Nat
  | .service .now => (h s (.service .now)).1.toOption
  | _ => none

def readings (h : Handler workerSignature Err σ) (calls : List (σ × WorkerCall)) : List Nat :=
  calls.filterMap fun v => reading h v.1 v.2

/-- The milliseconds that an attempt takes until its outcome is known: the first reading of its clock, and the
    second one from `process` on. -/
def elapsed (h : Handler workerSignature Err σ) (calls : List (σ × WorkerCall)) : Int :=
  let start : Nat := (readings h calls)[0]?.getD 0
  let finish : Nat := (readings h (calls.dropWhile fun v => !v.2.isProcess))[1]?.getD 0
  (finish : Int) - start

/-- Every call but the work itself succeeds. -/
def Answered (h : Handler workerSignature Err σ) (calls : List (σ × WorkerCall)) : Prop :=
  ∀ v ∈ calls, v.2.isProcess = false → ¬ Throws h v

instance (h : Handler workerSignature Err σ) (calls : List (σ × WorkerCall)) : Decidable (Answered h calls) :=
  inferInstanceAs (Decidable (∀ v ∈ calls, _))

/-- A retry is recorded for each attempt but the first, and once how the last one ended. -/
structure ExactMetrics (h : Handler workerSignature Err σ) (earlier : List (List (σ × WorkerCall)))
    (last : List (σ × WorkerCall)) : Prop where
  retries : (metrics (earlier ++ [last]).flatten).countP Metric.isRetry = earlier.length
  outcome : ∃ metric, (metrics (earlier ++ [last]).flatten).filter (fun m => !m.isRetry) = [metric] ∧
    metric.Reports (Works h last) (elapsed h last)

theorem metrics_append (calls more : List (σ × WorkerCall)) : metrics (calls ++ more) = metrics calls ++ metrics more :=
  List.filterMap_append

theorem readings_append {n time : Nat} (read : (readings h calls)[n]? = some time) (more : List (σ × WorkerCall)) :
    (readings h (calls ++ more))[n]? = some time := by
  have inside : n < (readings h calls).length := (List.getElem?_eq_some_iff.mp read).1
  have parts : readings h (calls ++ more) = readings h calls ++ readings h more := List.filterMap_append
  rw [parts, List.getElem?_append_left inside, read]

theorem metrics_only {α : Type} {program : WorkerProgram α}
    (unrecorded : program.Only fun c : WorkerCall => c.metric = none) : metrics (visited h program s) = [] := by
  rw [metrics, List.filterMap_eq_nil_iff]
  exact unrecorded.visited h s

theorem unrecorded_onServices {α : Type} (program : ServiceProgram α) :
    (onServices program).Only fun c : WorkerCall => c.metric = none :=
  only_onServices ((only_any program).mono fun _ _ => rfl)

theorem unrecorded_incrementFailed (queueName : String) :
    (incrementFailed queueName).Only fun c : WorkerCall => c.metric = none := only_await rfl

theorem unrecorded_release (job : BullJob) :
    (release job.data.tenantId job.queueName).capture.Only fun c : WorkerCall => c.metric = none := by
  have released : (release job.data.tenantId job.queueName).Only fun c : WorkerCall => c.metric = none := only_await rfl
  exact released.capture

theorem unrecorded_lookup (job : BullJob) : (lookup job).Only fun c : WorkerCall => c.metric = none :=
  (unrecorded_onServices _).bind fun _ => (unrecorded_onServices _).bind fun _ =>
    (unrecorded_onServices _).bind fun _ => only_done _

/-- `register` but for the record of a retry. -/
def enroll (job : BullJob) (executeStart now : Nat) (existingJob : Option Job) : WorkerProgram Attempt := do
  let sequenceNumber ← onServices (trackSequence job)
  let startedAt ← onServices clock
  let attempt : JobAttempt ←
    onServices (query (.insertAttempt job.data.jobId (job.attemptsMade + 1) startedAt))
  if job.attemptsMade = 0 then
    onServices (JobRepo.update job.data.jobId { status := some .PROCESSING })
  onServices (query (.insertLog
    { jobId := job.data.jobId, message := "Job attempt started", attemptNumber := attempt.attemptNumber }))
  return { executeStart := executeStart
           waitSeconds := ((now : Rat) - job.timestamp) / 1000
           isWorkflowJob := existingJob.any (·.workFlowId.isSome)
           sequenceNumber := sequenceNumber
           attempt := attempt }

theorem register_eq (job : BullJob) (executeStart now : Nat) (existingJob : Option Job) :
    register job executeStart now existingJob =
      if job.attemptsMade > 0 then
        (record (.jobRetry job.queueName job.data.jobType)).bind fun _ => enroll job executeStart now existingJob
      else enroll job executeStart now existingJob := rfl

theorem unrecorded_enroll (job : BullJob) (executeStart now : Nat) (existingJob : Option Job) :
    (enroll job executeStart now existingJob).Only fun c : WorkerCall => c.metric = none := by
  simp only [enroll, bind_eq, pure_eq_done]
  repeat' first
    | exact unrecorded_onServices _
    | exact only_done _
    | refine Only.bind ?_ fun _ => ?_
    | split

theorem yields_enroll (job : BullJob) (executeStart now : Nat) (existingJob : Option Job) :
    (enroll job executeStart now existingJob).Yields fun attempt => attempt.executeStart = executeStart := by
  simp only [enroll, bind_eq, pure_eq_done]
  repeat' first
    | exact rfl
    | refine Yields.bind (yields_any _) fun _ _ => ?_
    | split

/-- One record, and none after it. -/
theorem metrics_record {α : Type} (metric : Metric) {next : Unit → WorkerProgram α}
    (unrecorded : (next ()).Only fun c : WorkerCall => c.metric = none) :
    metrics (visited h ((record metric).bind next) s) = [metric] := by
  have one : metrics [(s, WorkerCall.record metric)] = [metric] := rfl
  rw [visited_bind, metrics_append, record, awaitWork, visited_await, one]
  split
  · rw [metrics_only unrecorded, List.append_nil]
  · rfl
  · rfl

theorem metrics_register (job : BullJob) (executeStart now : Nat) (existingJob : Option Job) :
    metrics (visited h (register job executeStart now existingJob) s) =
      if job.attemptsMade > 0 then [.jobRetry job.queueName job.data.jobType] else [] := by
  rw [register_eq]
  split
  · exact metrics_record _ (unrecorded_enroll job executeStart now existingJob)
  · exact metrics_only (unrecorded_enroll job executeStart now existingJob)

theorem yields_register (job : BullJob) (executeStart now : Nat) (existingJob : Option Job) :
    (register job executeStart now existingJob).Yields fun attempt => attempt.executeStart = executeStart := by
  rw [register_eq]
  split
  · exact (yields_any _).bind fun _ _ => yields_enroll job executeStart now existingJob
  · exact yields_enroll job executeStart now existingJob

theorem metrics_bind {α β : Type} {program : WorkerProgram α} {next : α → WorkerProgram β} {value : α} {s' : σ}
    (unrecorded : program.Only fun c : WorkerCall => c.metric = none) (ran : run h program s = (.ok value, s'))
    (answered : ∀ v ∈ visited h (program.bind next) s, ¬ Throws h v) :
    run h (program.bind next) s = run h (next value) s' ∧
      metrics (visited h (program.bind next) s) = metrics (visited h (next value) s') ∧
      ∀ v ∈ visited h (next value) s', ¬ Throws h v := by
  rw [visited_bind_ok h ran] at answered ⊢
  refine ⟨run_bind_ok h ran, ?_, fun v member => answered v (List.mem_append_right _ member)⟩
  rw [metrics_append, metrics_only unrecorded, List.nil_append]

theorem answered_first {α β : Type} {program : WorkerProgram α} {next : α → WorkerProgram β}
    (answered : ∀ v ∈ visited h (program.bind next) s, ¬ Throws h v) : ∀ v ∈ visited h program s, ¬ Throws h v := by
  rw [visited_bind] at answered
  exact fun v member => answered v (List.mem_append_left _ member)

/-- A part that is answered and records nothing. -/
theorem metrics_after {α β : Type} {program : WorkerProgram α} {next : α → WorkerProgram β} (calm : program.Calm)
    (unrecorded : program.Only fun c : WorkerCall => c.metric = none)
    (answered : ∀ v ∈ visited h (program.bind next) s, ¬ Throws h v) : ∃ value s',
      run h (program.bind next) s = run h (next value) s' ∧
      metrics (visited h (program.bind next) s) = metrics (visited h (next value) s') ∧
      ∀ v ∈ visited h (next value) s', ¬ Throws h v := by
  obtain ⟨value, s', ran⟩ := calm.returns (answered_first answered)
  exact ⟨value, s', metrics_bind unrecorded ran answered⟩

/-- A part that records nothing, whether it throws or not. -/
theorem metrics_captured {α β : Type} {program : WorkerProgram α} {next : Except Err α → WorkerProgram β}
    (unrecorded : program.Only fun c : WorkerCall => c.metric = none)
    (ended : (run h (program.capture.bind next) s).1 ≠ .hung)
    (answered : ∀ v ∈ visited h (program.capture.bind next) s, ¬ Throws h v) : ∃ outcome s',
      run h (program.capture.bind next) s = run h (next outcome) s' ∧
      metrics (visited h (program.capture.bind next) s) = metrics (visited h (next outcome) s') ∧
      ∀ v ∈ visited h (next outcome) s', ¬ Throws h v := by
  have captured := run_capture h program s
  cases ran : run h program s with
  | mk outcome s' =>
    rw [ran] at captured
    cases outcome with
    | ok value => exact ⟨.ok value, s', metrics_bind unrecorded.capture captured answered⟩
    | thrown error => exact ⟨.error error, s', metrics_bind unrecorded.capture captured answered⟩
    | hung =>
      rw [run_bind_hung h captured] at ended
      exact absurd rfl ended

/-- The clock, before anything else. -/
theorem readings_clock {α : Type} {next : Nat → WorkerProgram α}
    (answered : ∀ v ∈ visited h ((onServices clock).bind next) s, ¬ Throws h v) : ∃ now s',
      readings h (visited h ((onServices clock).bind next) s) = now :: readings h (visited h (next now) s') ∧
      run h ((onServices clock).bind next) s = run h (next now) s' ∧
      metrics (visited h ((onServices clock).bind next) s) = metrics (visited h (next now) s') ∧
      ∀ v ∈ visited h (next now) s', ¬ Throws h v := by
  obtain ⟨now, s', ran⟩ := calm_clock.returns (answered_first answered)
  have seen : visited h (onServices clock) s = [(s, .service .now)] := by
    rw [clock, onServices_await, awaitWork, visited_await]
  have read : reading h s (.service .now) = some now := by
    rw [clock, onServices_await, awaitWork, run_await] at ran
    cases answer : h s (.service .now) with
    | mk reply s₁ =>
      rw [answer] at ran
      cases reply with
      | ok time =>
        obtain rfl := Outcome.ok.inj (congrArg Prod.fst ran)
        rw [reading, answer]
        rfl
      | error error => cases ran
  refine ⟨now, s', ?_, metrics_bind (unrecorded_onServices _) ran answered⟩
  rw [visited_bind_ok h ran, seen]
  exact List.filterMap_cons_some read

/-- The end of a successful attempt. -/
def report (job : BullJob) (attempt : Attempt) (finish : Nat) : WorkerProgram Unit :=
  (record (.jobCompleted job.queueName job.data.jobType job.data.priorityLevel
    (((finish : Rat) - attempt.executeStart) / 1000) attempt.waitSeconds)).bind fun _ =>
      incrementCompleted job.queueName

theorem metrics_report (attempt : Attempt) (finish : Nat)
    (answered : ∀ v ∈ visited h (report job attempt finish) s, ¬ Throws h v) :
    (run h (report job attempt finish) s).1 = .ok () ∧
      metrics (visited h (report job attempt finish) s) =
        [.jobCompleted job.queueName job.data.jobType job.data.priorityLevel
          (((finish : Rat) - attempt.executeStart) / 1000) attempt.waitSeconds] := by
  have calm : (report job attempt finish).Calm :=
    (calm_await (S := workerSignature) _).bind fun _ => calm_await (S := workerSignature) _
  obtain ⟨_, s', ran⟩ := calm.returns answered
  exact ⟨by rw [ran], metrics_record _ (only_await (S := workerSignature) rfl)⟩

theorem calm_update (jobId : JobId) (change : JobChange) : (onServices (JobRepo.update jobId change)).Calm :=
  calm_query _

theorem metrics_afterSuccess (attempt : Attempt) (result : Option String)
    (answered : ∀ v ∈ visited h (afterSuccess job attempt result) s, ¬ Throws h v)
    (ended : (run h (afterSuccess job attempt result) s).1 ≠ .hung) : ∃ finish : Nat,
      (readings h (visited h (afterSuccess job attempt result) s))[1]? = some finish ∧
      (run h (afterSuccess job attempt result) s).1 = .ok () ∧
      metrics (visited h (afterSuccess job attempt result) s) =
        [.jobCompleted job.queueName job.data.jobType job.data.priorityLevel
          (((finish : Rat) - attempt.executeStart) / 1000) attempt.waitSeconds] := by
  simp only [afterSuccess, bind_eq] at answered ended ⊢
  obtain ⟨now, s₁, read₁, ran₁, same₁, answered₁⟩ := readings_clock answered
  obtain ⟨finish, s₂, read₂, ran₂, same₂, answered₂⟩ := readings_clock answered₁
  obtain ⟨_, s₃, ran₃, same₃, answered₃⟩ := metrics_after (calm_query _) (unrecorded_onServices _) answered₂
  obtain ⟨_, s₄, ran₄, same₄, answered₄⟩ := metrics_after (calm_update _ _) (unrecorded_onServices _) answered₃
  refine ⟨finish, by rw [read₁, read₂]; rfl, ?_⟩
  rw [ran₁, ran₂, ran₃, ran₄] at ended ⊢
  rw [same₁, same₂, same₃, same₄]
  by_cases chained : attempt.isWorkflowJob = true
  · rw [if_pos chained] at answered₄ ended ⊢
    obtain ⟨_, s₅, ran₅, same₅, answered₅⟩ := metrics_captured (unrecorded_onServices _) ended answered₄
    rw [ran₅, same₅]
    exact metrics_report attempt finish answered₅
  · rw [if_neg chained] at answered₄ ended ⊢
    exact metrics_report attempt finish answered₄

theorem metrics_afterFailure (attempt : Attempt) (error : Err)
    (answered : ∀ v ∈ visited h (afterFailure job attempt error) s, ¬ Throws h v) : ∃ finish : Nat,
      (readings h (visited h (afterFailure job attempt error) s))[1]? = some finish ∧
      metrics (visited h (afterFailure job attempt error) s) =
        if isFinalFailure job then
          [.jobFailed job.queueName job.data.jobType job.data.priorityLevel
            (((finish : Rat) - attempt.executeStart) / 100) (classifyFailure error)]
        else [] := by
  have unrecorded : ((onServices (ChainService.handleParentFailure job.data.jobId)).bind
      fun _ => (.throws error : WorkerProgram Unit)).Only fun c : WorkerCall => c.metric = none :=
    (unrecorded_onServices _).bind fun _ => only_throws error
  simp only [afterFailure, bind_eq] at answered ⊢
  obtain ⟨now, s₁, read₁, ran₁, same₁, answered₁⟩ := readings_clock answered
  obtain ⟨finish, s₂, read₂, ran₂, same₂, answered₂⟩ := readings_clock answered₁
  obtain ⟨_, s₃, ran₃, same₃, answered₃⟩ := metrics_after (calm_query _) (unrecorded_onServices _) answered₂
  obtain ⟨_, s₄, ran₄, same₄, answered₄⟩ := metrics_after (calm_query _) (unrecorded_onServices _) answered₃
  refine ⟨finish, by rw [read₁, read₂]; rfl, ?_⟩
  rw [same₁, same₂, same₃, same₄]
  split
  · rename_i final
    rw [if_pos final] at answered₄
    obtain ⟨_, s₅, ran₅, same₅, answered₅⟩ := metrics_after (calm_update _ _) (unrecorded_onServices _) answered₄
    rw [same₅]
    exact metrics_record _ ((unrecorded_incrementFailed _).bind fun _ => unrecorded)
  · exact metrics_only unrecorded

/-- A successful attempt does not come to the `catch` block. -/
theorem metrics_settle (attempt : Attempt) (result : Option String)
    (answered : ∀ v ∈ visited h (settle job attempt (.ok result)) s, ¬ Throws h v)
    (ended : (run h (settle job attempt (.ok result)) s).1 ≠ .hung) :
    (run h (settle job attempt (.ok result)) s).1 = .ok () ∧ ∃ finish : Nat,
      (readings h (visited h (settle job attempt (.ok result)) s))[1]? = some finish ∧
      metrics (visited h (settle job attempt (.ok result)) s) =
        [.jobCompleted job.queueName job.data.jobType job.data.priorityLevel
          (((finish : Rat) - attempt.executeStart) / 1000) attempt.waitSeconds] := by
  rw [settle, visited_catching] at answered
  rw [settle, run_catching] at ended ⊢
  rw [visited_catching]
  have first : ∀ v ∈ visited h (afterSuccess job attempt result) s, ¬ Throws h v :=
    fun v member => answered v (List.mem_append_left _ member)
  have succeeds := metrics_afterSuccess attempt result first
  cases ran : run h (afterSuccess job attempt result) s with
  | mk outcome s' =>
    rw [ran] at ended succeeds
    cases outcome with
    | ok value =>
      obtain ⟨finish, read, _, recorded⟩ := succeeds (by simp)
      dsimp only
      rw [List.append_nil]
      exact ⟨rfl, finish, read, recorded⟩
    | thrown error =>
      obtain ⟨_, _, same, _⟩ := succeeds (by simp)
      cases same
    | hung => exact absurd rfl ended

/-- What is left of an attempt once its completion is known: the release. -/
theorem afterProcess_tail (h : Handler workerSignature Err σ) (job : BullJob) (attempt : Attempt)
    (outcome : Except Err (Option String)) (s : σ)
    (ended : (run h (afterProcess job attempt outcome) s).1 ≠ .hung) :
    ∃ more, visited h (afterProcess job attempt outcome) s = visited h (settle job attempt outcome) s ++ more ∧
      metrics more = [] ∧ (run h (afterProcess job attempt outcome) s).1 = (run h (settle job attempt outcome) s).1 := by
  have captured := run_capture h (settle job attempt outcome) s
  have finish (completion : Except Err Unit) (s' : σ)
      (captured : run h (settle job attempt outcome).capture s = (.ok completion, s')) : ∃ more,
      visited h (afterProcess job attempt outcome) s = visited h (settle job attempt outcome) s ++ more ∧
        metrics more = [] ∧
        (run h (afterProcess job attempt outcome) s).1 = (run h (.ofExcept completion : WorkerProgram Unit) s').1 := by
    rw [afterProcess_eq, visited_bind_ok h captured, run_bind_ok h captured, visited_capture]
    refine ⟨_, rfl, metrics_only ?_, ?_⟩
    · split
      · exact (unrecorded_release job).bind fun _ => only_ofExcept completion
      · exact only_ofExcept completion
    · split
      · have answered := run_capture_await h (.release job.data.tenantId job.queueName) s'
        have passed : run h (((release job.data.tenantId job.queueName).capture).bind fun _ => .ofExcept completion) s' =
            run h (.ofExcept completion) _ := run_bind_ok h answered
        rw [passed]
        cases completion <;> rfl
      · rfl
  cases ran : run h (settle job attempt outcome) s with
  | mk result s' =>
    rw [ran] at captured
    cases result with
    | ok value => exact finish (.ok value) s' captured
    | thrown error => exact finish (.error error) s' captured
    | hung =>
      rw [afterProcess_eq, run_bind_hung h captured] at ended
      exact absurd rfl ended

/-- The records of an attempt from the outcome of `process` on. -/
theorem metrics_afterProcess (attempt : Attempt) (outcome : Except Err (Option String))
    (answered : ∀ v ∈ visited h (afterProcess job attempt outcome) s, ¬ Throws h v)
    (ended : (run h (afterProcess job attempt outcome) s).1 ≠ .hung) : ∃ (finish : Nat) (reason : String),
      (readings h (visited h (afterProcess job attempt outcome) s))[1]? = some finish ∧
      (outcome.toBool = true → (run h (afterProcess job attempt outcome) s).1 = .ok ()) ∧
      metrics (visited h (afterProcess job attempt outcome) s) =
        if outcome.toBool then
          [.jobCompleted job.queueName job.data.jobType job.data.priorityLevel
            (((finish : Rat) - attempt.executeStart) / 1000) attempt.waitSeconds]
        else if isFinalFailure job then
          [.jobFailed job.queueName job.data.jobType job.data.priorityLevel
            (((finish : Rat) - attempt.executeStart) / 100) reason]
        else [] := by
  obtain ⟨more, split, unrecorded, same⟩ := afterProcess_tail h job attempt outcome s ended
  rw [split] at answered ⊢
  rw [same] at ended ⊢
  rw [metrics_append, unrecorded, List.append_nil]
  have settled : ∀ v ∈ visited h (settle job attempt outcome) s, ¬ Throws h v :=
    fun v member => answered v (List.mem_append_left _ member)
  cases outcome with
  | ok result =>
    obtain ⟨returned, finish, read, recorded⟩ := metrics_settle attempt result settled ended
    exact ⟨finish, "", readings_append read more, fun _ => returned, recorded⟩
  | error error =>
    have calls : visited h (settle job attempt (.error error)) s = visited h (afterFailure job attempt error) s := rfl
    rw [calls] at settled ⊢
    obtain ⟨finish, read, recorded⟩ := metrics_afterFailure attempt error settled
    exact ⟨finish, classifyFailure error, readings_append read more, fun failed => (by cases failed), recorded⟩

theorem lookup_start {found : Nat × Nat × Option Job} {s' : σ}
    (answered : ∀ v ∈ visited h (lookup job) s, ¬ Throws h v) (ran : run h (lookup job) s = (.ok found, s')) :
    (readings h (visited h (lookup job) s))[0]? = some found.1 := by
  simp only [lookup, bind_eq] at answered ran ⊢
  obtain ⟨now, s₁, read, same, _⟩ := readings_clock answered
  rw [same] at ran
  have kept : Program.Yields (fun found : Nat × Nat × Option Job => found.1 = now)
      ((onServices clock).bind fun later => (onServices (JobRepo.findOne job.data.jobId)).bind fun existingJob =>
        (pure (now, later, existingJob) : WorkerProgram _)) :=
    (yields_any _).bind fun _ _ => (yields_any _).bind fun _ _ => rfl
  rw [read, kept.run ran]
  rfl

theorem elapsed_eq {before after : List (σ × WorkerCall)} {s₁ : σ} {start finish : Nat}
    (unprocessed : ∀ v ∈ before, v.2.isProcess = false) (started : (readings h before)[0]? = some start)
    (finished : (readings h after)[1]? = some finish) :
    elapsed h (before ++ (s₁, .process job) :: after) = (finish : Int) - start := by
  have rest : (before ++ (s₁, WorkerCall.process job) :: after).dropWhile (fun v => !v.2.isProcess) =
      (s₁, .process job) :: after := by
    rw [List.dropWhile_append_of_pos fun v member => by rw [unprocessed v member]; rfl]
    rfl
  have later : readings h ((s₁, .process job) :: after) = readings h after := rfl
  rw [elapsed, rest, later, readings_append started, finished]
  rfl

/-- An attempt that comes to `process`: what it has read and recorded before. -/
theorem execute_worked (answered : Answered h (visited h (execute job) s))
    (worked : ∃ v ∈ visited h (execute job) s, v.2.isProcess = true) :
    ∃ before s₁ attempt, visited h (execute job) s = before ++ (s₁, .process job) ::
        visited h (afterProcess job attempt (h s₁ (.process job)).1) (h s₁ (.process job)).2 ∧
      (∀ v ∈ before, v.2.isProcess = false) ∧
      run h (execute job) s = run h (afterProcess job attempt (h s₁ (.process job)).1) (h s₁ (.process job)).2 ∧
      (readings h before)[0]? = some attempt.executeStart ∧
      metrics before = if job.attemptsMade > 0 then [.jobRetry job.queueName job.data.jobType] else [] := by
  have prepared {v : σ × WorkerCall} (prepares : v.2.Preparatory) (member : v ∈ visited h (execute job) s) :
      ¬ Throws h v := answered v member prepares.bookkeeping.1
  have looked := (preparatory_lookup job).visited h s
  clear answered
  rw [execute_eq] at worked prepared ⊢
  rcases (calm_lookup job).cases s with ⟨⟨⟨executeStart, now, existingJob⟩, s₁, ran⟩, none⟩ | ⟨⟨error, s₁, ran⟩, v, member, threw⟩
  · have start := lookup_start none ran
    rw [visited_bind_ok h ran] at worked prepared ⊢
    rw [run_bind_ok h ran]
    dsimp only at start worked prepared ⊢
    by_cases skips : shortcut job existingJob = true
    · rw [if_pos skips, release, awaitWork, visited_capture_await] at worked
      obtain ⟨v, member, process⟩ := worked
      rcases List.mem_append.mp member with early | late
      · simp [(looked v early).bookkeeping.1] at process
      · obtain rfl := List.mem_singleton.mp late
        cases process
    · rw [if_neg skips] at prepared ⊢
      have registered := (preparatory_register job executeStart now existingJob).visited h s₁
      rcases (calm_register job executeStart now existingJob).cases s₁ with
        ⟨⟨attempt, s₂, ran'⟩, _⟩ | ⟨_, v, member, threw⟩
      · have kept := (yields_register job executeStart now existingJob).run ran'
        have shape := visited_capture_await h (.process job) (afterProcess job attempt) s₂
        have passed : run h ((process job).capture.bind (afterProcess job attempt)) s₂ =
            run h (afterProcess job attempt _) _ := run_bind_ok h (run_capture_await h (.process job) s₂)
        rw [visited_bind_ok h ran', run_bind_ok h ran', passed, process, awaitWork, shape, ← List.append_assoc]
        refine ⟨_, s₂, attempt, rfl, ?_, rfl, ?_, ?_⟩
        · intro v member
          rcases List.mem_append.mp member with early | late
          · exact (looked v early).bookkeeping.1
          · exact (registered v late).bookkeeping.1
        · rw [kept]
          exact readings_append start _
        · rw [metrics_append, metrics_only (unrecorded_lookup job), metrics_register, List.nil_append]
      · refine absurd threw (prepared (registered v member) (List.mem_append_right _ ?_))
        rw [visited_bind]
        exact List.mem_append_left _ member
  · rw [visited_bind_thrown h ran] at prepared
    exact absurd threw (prepared (looked v member) member)

/-- The records of an attempt, with the seconds that each gives. -/
theorem metrics_execute (answered : Answered h (visited h (execute job) s))
    (worked : ∃ v ∈ visited h (execute job) s, v.2.isProcess = true) (ended : (run h (execute job) s).1 ≠ .hung) :
    ((run h (execute job) s).1 = .ok () ↔ Works h (visited h (execute job) s)) ∧
    ∃ (waitSeconds : Rat) (reason : String), metrics (visited h (execute job) s) =
      (if job.attemptsMade > 0 then [.jobRetry job.queueName job.data.jobType] else []) ++
        if Works h (visited h (execute job) s) then
          [.jobCompleted job.queueName job.data.jobType job.data.priorityLevel
            ((elapsed h (visited h (execute job) s) : Rat) / 1000) waitSeconds]
        else if isFinalFailure job then
          [.jobFailed job.queueName job.data.jobType job.data.priorityLevel
            ((elapsed h (visited h (execute job) s) : Rat) / 100) reason]
        else [] := by
  obtain ⟨before, s₁, attempt, shape, unprocessed, same, started, recorded⟩ := execute_worked answered worked
  obtain ⟨unprocessed', _, unreturned⟩ := afterProcess_cases h job attempt (h s₁ (.process job)).1
    (h s₁ (.process job)).2
  have works : Works h (before ++ (s₁, .process job) ::
      visited h (afterProcess job attempt (h s₁ (.process job)).1) (h s₁ (.process job)).2) ↔
      (h s₁ (.process job)).1.toBool = true := works_iff unprocessed unprocessed'
  have after : ∀ v ∈ visited h (afterProcess job attempt (h s₁ (.process job)).1) (h s₁ (.process job)).2, ¬ Throws h v := by
    intro v member
    refine answered v ?_ (unprocessed' v member)
    rw [shape]
    exact List.mem_append_right _ (List.mem_cons_of_mem _ member)
  rw [same] at ended
  obtain ⟨finish, reason, finished, returned, recorded'⟩ := metrics_afterProcess attempt (h s₁ (.process job)).1 after ended
  have took : elapsed h (before ++ (s₁, .process job) ::
      visited h (afterProcess job attempt (h s₁ (.process job)).1) (h s₁ (.process job)).2) =
      (finish : Int) - attempt.executeStart := elapsed_eq unprocessed started finished
  rw [same, shape, took]
  simp only [works]
  refine ⟨⟨fun ok => ?_, returned⟩, attempt.waitSeconds, reason, ?_⟩
  · by_contra failed
    exact unreturned (Bool.eq_false_iff.mpr failed) ok
  · have whole : metrics (before ++ (s₁, .process job) ::
        visited h (afterProcess job attempt (h s₁ (.process job)).1) (h s₁ (.process job)).2) =
        metrics before ++ metrics (visited h (afterProcess job attempt (h s₁ (.process job)).1) (h s₁ (.process job)).2) :=
      metrics_append before _
    rw [whole, recorded, recorded']
    push_cast
    rfl

/-- The records of a job's attempts, in order. -/
theorem metrics_executions {made : Nat} {tries : List (List (σ × workerSignature.Call))} {s' : σ}
    (concluded : Executions h job made s tries s') (answered : ∀ calls ∈ tries, Answered h calls)
    (worked : ∀ calls ∈ tries, ∃ v ∈ calls, WorkerCall.isProcess v.2 = true) :
    ∃ earlier last, tries = earlier ++ [last] ∧ ∃ (waitSeconds : Rat) (reason : String), metrics tries.flatten =
      (if made > 0 then [.jobRetry job.queueName job.data.jobType] else []) ++
        List.replicate earlier.length (.jobRetry job.queueName job.data.jobType) ++
        [if Works h last then
          .jobCompleted job.queueName job.data.jobType job.data.priorityLevel ((elapsed h last : Rat) / 1000) waitSeconds
        else .jobFailed job.queueName job.data.jobType job.data.priorityLevel ((elapsed h last : Rat) / 100) reason] := by
  induction concluded with
  | @returns made s s' ran =>
    have outcome := congrArg Prod.fst ran
    obtain ⟨works, waitSeconds, reason, recorded⟩ := metrics_execute (answered _ List.mem_cons_self)
      (worked _ List.mem_cons_self) (by simp [outcome])
    refine ⟨[], _, rfl, waitSeconds, reason, ?_⟩
    rw [List.flatten_singleton, recorded, if_pos (works.mp outcome), if_pos (works.mp outcome), List.length_nil,
      List.replicate_zero, List.append_nil]
  | @exhausted made s s' error ran limit =>
    have outcome := congrArg Prod.fst ran
    obtain ⟨works, waitSeconds, reason, recorded⟩ := metrics_execute (answered _ List.mem_cons_self)
      (worked _ List.mem_cons_self) (by simp [outcome])
    have failed : ¬ Works h (visited h (execute { job with attemptsMade := made }) s) := by
      rw [← works, outcome]
      simp
    refine ⟨[], _, rfl, waitSeconds, reason, ?_⟩
    rw [List.flatten_singleton, recorded, if_neg failed, if_neg failed, if_pos ((isFinalFailure_made job made).mpr limit),
      List.length_nil, List.replicate_zero, List.append_nil]
  | @again made s s₁ s' error later ran more rest ih =>
    have outcome := congrArg Prod.fst ran
    obtain ⟨works, _, _, recorded⟩ := metrics_execute (answered _ List.mem_cons_self) (worked _ List.mem_cons_self)
      (by simp [outcome])
    have failed : ¬ Works h (visited h (execute { job with attemptsMade := made }) s) := by
      rw [← works, outcome]
      simp
    have retried : ¬ isFinalFailure { job with attemptsMade := made } = true := by
      rw [isFinalFailure_made]
      omega
    obtain ⟨earlier, last, rfl, waitSeconds, reason, others⟩ := ih
      (fun calls member => answered calls (List.mem_cons_of_mem _ member))
      (fun calls member => worked calls (List.mem_cons_of_mem _ member))
    refine ⟨_ :: earlier, last, rfl, waitSeconds, reason, ?_⟩
    rw [List.flatten_cons, metrics_append, recorded, others, if_neg failed, if_neg retried,
      if_pos (Nat.succ_pos made), List.append_nil, List.length_cons, List.replicate_succ]
    exact (List.append_assoc _ _ _).symm

section Exact

variable {earlier : List (List (σ × WorkerCall))} {last : List (σ × WorkerCall)} {s' : σ}

/-- Whatever the outcomes are, the retries are counted, and one other record is made. -/
theorem metrics_counts (concluded : Executions h job 0 s (earlier ++ [last]) s')
    (answered : ∀ calls ∈ earlier ++ [last], Answered h calls)
    (worked : ∀ calls ∈ earlier ++ [last], ∃ v ∈ calls, v.2.isProcess = true) :
    (metrics (earlier ++ [last]).flatten).countP Metric.isRetry = earlier.length ∧
    ∃ (waitSeconds : Rat) (reason : String), (metrics (earlier ++ [last]).flatten).filter (fun m => !m.isRetry) =
      [if Works h last then
        .jobCompleted job.queueName job.data.jobType job.data.priorityLevel ((elapsed h last : Rat) / 1000) waitSeconds
      else .jobFailed job.queueName job.data.jobType job.data.priorityLevel ((elapsed h last : Rat) / 100) reason] := by
  obtain ⟨earlier', last', split, waitSeconds, reason, recorded⟩ := metrics_executions concluded answered worked
  obtain ⟨rfl, same⟩ := List.append_inj' split rfl
  obtain rfl := List.singleton_inj.mp same
  rw [if_neg (Nat.lt_irrefl 0), List.nil_append] at recorded
  refine ⟨?_, waitSeconds, reason, ?_⟩
  · have none : [if Works h last then
        Metric.jobCompleted job.queueName job.data.jobType job.data.priorityLevel ((elapsed h last : Rat) / 1000) waitSeconds
      else .jobFailed job.queueName job.data.jobType job.data.priorityLevel ((elapsed h last : Rat) / 100)
        reason].countP Metric.isRetry = 0 := by split <;> rfl
    rw [recorded, List.countP_append, none, List.countP_replicate]
    rfl
  · rw [recorded, List.filter_append, List.filter_replicate_of_neg (by simp [Metric.isRetry]), List.nil_append]
    split <;> rfl

theorem exact_of_works (works : Works h last) (concluded : Executions h job 0 s (earlier ++ [last]) s')
    (answered : ∀ calls ∈ earlier ++ [last], Answered h calls)
    (worked : ∀ calls ∈ earlier ++ [last], ∃ v ∈ calls, v.2.isProcess = true) : ExactMetrics h earlier last := by
  obtain ⟨retries, waitSeconds, reason, outcome⟩ := metrics_counts concluded answered worked
  rw [if_pos works] at outcome
  exact ⟨retries, _, outcome, works, rfl⟩

/-- The seconds of a failure are its milliseconds divided by 100. -/
theorem exact_of_fails (fails : ¬ Works h last) (concluded : Executions h job 0 s (earlier ++ [last]) s')
    (answered : ∀ calls ∈ earlier ++ [last], Answered h calls)
    (worked : ∀ calls ∈ earlier ++ [last], ∃ v ∈ calls, v.2.isProcess = true) :
    ExactMetrics h earlier last ↔ elapsed h last = 0 := by
  obtain ⟨retries, waitSeconds, reason, outcome⟩ := metrics_counts concluded answered worked
  rw [if_neg fails] at outcome
  constructor
  · rintro ⟨_, metric, only, reports⟩
    obtain rfl := List.singleton_inj.mp (outcome.symm.trans only)
    obtain ⟨_, seconds⟩ := reports
    have none : (elapsed h last : Rat) = 0 := by linarith
    exact_mod_cast none
  · intro none
    refine ⟨retries, _, outcome, fails, ?_⟩
    rw [none]
    norm_num

/-- The records of the attempts are exact if and only if the last one succeeds or takes no time. -/
theorem exact_metrics_iff (concluded : Executions h job 0 s (earlier ++ [last]) s')
    (answered : ∀ calls ∈ earlier ++ [last], Answered h calls)
    (worked : ∀ calls ∈ earlier ++ [last], ∃ v ∈ calls, v.2.isProcess = true) :
    ExactMetrics h earlier last ↔ Works h last ∨ elapsed h last = 0 := by
  by_cases works : Works h last
  · exact iff_of_true (exact_of_works works concluded answered worked) (.inl works)
  · rw [exact_of_fails works concluded answered worked]
    exact (or_iff_right works).symm

end Exact
end Metrics

/-- The worker of a job with a given outcome, whose clock goes forward by a second each time it is read. -/
def slowWorker (outcome : Except Err (Option String)) : Handler workerSignature Err (Nat × Db × Unit)
  | (time, s), .service .now => (.ok time, time + 1000, s)
  | (time, s), c =>
    let answer := work Env.plain (fun g _ => (.ok .QUEUED, g)) outcome s c
    (answer.1, time, answer.2)

/-- The first attempt fails. -/
def flakyWorker : Handler workerSignature Err (Nat × Db × Unit)
  | s, .process job => slowWorker (if job.attemptsMade = 0 then .error lost else .ok none) s (.process job)
  | s, c => slowWorker (.ok none) s c

/-- The second attempt succeeds: it takes four seconds. -/
theorem exact_metrics_flaky : ∃ first last s', Executions flakyWorker solo 0 (0, soloStore) ([first] ++ [last]) s' ∧
    ¬ Works flakyWorker first ∧ elapsed flakyWorker last = 4000 ∧ ExactMetrics flakyWorker [first] last := by
  have concluded : Executions flakyWorker solo 0 (0, soloStore) ([_] ++ [_]) _ :=
    .again rfl (by decide) (.returns rfl)
  refine ⟨_, _, _, concluded, ?_, ?_, (exact_metrics_iff concluded ?_ ?_).mpr (.inl ?_)⟩
  · decide +kernel
  · decide +kernel
  · decide +kernel
  · decide +kernel
  · decide +kernel

/-- Two attempts fail: the last one takes four seconds, and forty are recorded. -/
theorem failure_tenfold : ∃ first last s', Executions (slowWorker (.error lost)) solo 0 (0, soloStore) ([first] ++ [last]) s' ∧
    (∀ calls ∈ [first] ++ [last], Answered (slowWorker (.error lost)) calls ∧ ∃ v ∈ calls, v.2.isProcess = true) ∧
    elapsed (slowWorker (.error lost)) last = 4000 ∧ ¬ ExactMetrics (slowWorker (.error lost)) [first] last := by
  have concluded : Executions (slowWorker (.error lost)) solo 0 (0, soloStore) ([_] ++ [_]) _ :=
    .again rfl (by decide) (.exhausted rfl (by decide))
  refine ⟨_, _, _, concluded, ?_, ?_, ?_⟩
  · decide +kernel
  · decide +kernel
  · rw [exact_of_fails (by decide +kernel) concluded (by decide +kernel) (by decide +kernel)]
    decide +kernel

end OrchestrateModel
