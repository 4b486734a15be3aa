import Orchestrate.Workflow.Handlers
import Orchestrate.Workflow.System

namespace OrchestrateModel

open Effect ChainService BaseProcessor

variable {γ : Type} {env : Env} {gate : γ → JobQueuePayload → Except Err JobStatus × γ}
  {outcome : Except Err (Option String)} {db : Db} {g : γ}

/-- A service's program does for the worker what it does on its own. -/
theorem run_onServices {α : Type} (program : ServiceProgram α) (s : Db × γ) :
    (onServices program).run (work env gate outcome) s = program.run (serve env gate) s := by
  induction program generalizing s with
  | done value => rfl
  | throws error => rfl
  | hangs => rfl
  | call c next ih => exact ih _ _

namespace Db

/-- Rows, dependencies and statuses are the same. -/
structure Same (db db' : Db) : Prop extends Kept db db' where
  status : ∀ x, db'.status x = db.status x

theorem Same.refl (db : Db) : Same db db := ⟨.refl db, fun _ => rfl⟩

theorem Same.trans {db db' db'' : Db} (first : Same db db') (second : Same db' db'') : Same db db'' :=
  ⟨first.toKept.trans second.toKept, fun x => (second.status x).trans (first.status x)⟩

theorem same_of_tables {db db' : Db} (jobs : db'.jobs = db.jobs) (deps : db'.deps = db.deps)
    (drawn : db'.drawn = db.drawn) : Same db db' :=
  ⟨⟨by rw [jobs], by rw [Db.edges, deps]; rfl, drawn⟩, fun x => by rw [Db.status, Db.job?, jobs]; rfl⟩

theorem same_updateJob (db : Db) (id : JobId) (change : JobChange) (given : change.status = none) :
    Same db (db.updateJob id change) :=
  ⟨kept_updateJob db id change, fun x => status_updateJob_keep db id x change given⟩

end Db

theorem run_onServices_ok {α β : Type} {program : ServiceProgram α} {next : α → WorkerProgram β} {s s' : Db × γ}
    {value : α} (ran : program.run (serve env gate) s = (.ok value, s')) :
    ((onServices program).bind next).run (work env gate outcome) s =
      (next value).run (work env gate outcome) s' :=
  Program.run_bind_ok _ ((run_onServices program s).trans ran)

theorem run_nextSequence (env : Env) (gate : γ → JobQueuePayload → Except Err JobStatus × γ) (db : Db) (g : γ)
    (job : BullJob) :
    ∃ n db', (nextSequence job).run (serve env gate) (db, g) = (.ok n, db', g) ∧ Db.Same db db' := by
  let saved (n : Nat) : Db := (db.exec env (.saveSequence { queueName := job.queueName, lastSequence := n })).2
  have kept (n : Nat) : Db.Same db (saved n) := Db.same_of_tables rfl rfl rfl
  exact ⟨_, _, rfl, (kept _).trans (Db.same_updateJob (saved _) _ _ rfl)⟩

theorem run_nextRun (env : Env) (gate : γ → JobQueuePayload → Except Err JobStatus × γ) (db : Db) (g : γ)
    (recurringJobId : Nat) :
    ∃ n db', (nextRun recurringJobId).run (serve env gate) (db, g) = (.ok n, db', g) ∧ Db.Same db db' := by
  cases found : db.recurring.find? fun recurring => recurring.id = recurringJobId with
  | none =>
    refine ⟨0, db, ?_, .refl db⟩
    have answer : (query (.findRecurring recurringJobId)).run (serve env gate) (db, g) = (.ok none, db, g) := by
      rw [← found]
      rfl
    exact Program.run_bind_ok _ answer
  | some recurring =>
    have answer : (query (.findRecurring recurringJobId)).run (serve env gate) (db, g) =
        (.ok (some recurring), db, g) := by
      rw [← found]
      rfl
    refine ⟨_, _, Program.run_bind_ok _ answer, ?_⟩
    exact Db.same_of_tables rfl rfl rfl

/-- `execute` begins no attempt of a completed job that does not recur. -/
def SkipsAttempt (db : Db) (job : BullJob) : Prop :=
  db.status job.data.jobId = some .COMPLETED ∧ isRecurring job = false

theorem skipsAttempt_iff (db : Db) (job : BullJob) :
    ((db.job? job.data.jobId).any (·.status = .COMPLETED) && !isRecurring job) = true ↔ SkipsAttempt db job := by
  cases row : db.job? job.data.jobId <;> simp [SkipsAttempt, Db.status, row]

theorem run_trackSequence (env : Env) (gate : γ → JobQueuePayload → Except Err JobStatus × γ) (db : Db) (g : γ)
    (job : BullJob) :
    ∃ n db', (trackSequence job).run (serve env gate) (db, g) = (.ok n, db', g) ∧ Db.Same db db' := by
  unfold trackSequence
  split
  · cases job.data.recurringJobId with
    | none => exact ⟨0, db, rfl, .refl db⟩
    | some recurringJobId => exact run_nextRun env gate db g recurringJobId
  · exact run_nextSequence env gate db g job

/-- The PROCESSING mark of a first attempt. -/
def marked (db : Db) (job : BullJob) : Db :=
  if job.attemptsMade = 0 then db.updateJob job.data.jobId { status := some .PROCESSING } else db

theorem kept_marked (db : Db) (job : BullJob) : Db.Kept db (marked db job) := by
  unfold marked
  split
  · exact Db.kept_updateJob db _ _
  · exact .refl db

/-- After the mark a job is PROCESSING that was QUEUED for its first attempt. -/
theorem status_marked (job : BullJob)
    (standing : db.status job.data.jobId = some (if job.attemptsMade = 0 then .QUEUED else .PROCESSING)) (x : JobId) :
    (marked db job).status x = if x = job.data.jobId then some .PROCESSING else db.status x := by
  unfold marked
  split
  · rename_i first
    exact Db.status_updateJob db job.data.jobId x .PROCESSING _ rfl (by simp [standing])
  · rename_i later
    rw [if_neg later] at standing
    split
    · rename_i here
      rw [here, standing]
    · rfl

theorem run_mark (job : BullJob) {next : WorkerProgram (Option Attempt)} :
    Program.run (work env gate outcome)
      (if job.attemptsMade = 0 then
        (onServices (JobRepo.update job.data.jobId { status := some .PROCESSING })).bind fun _ => next
      else next) (db, g) = next.run (work env gate outcome) (marked db job, g) := by
  unfold marked
  split
  · exact run_onServices_ok (run_update env gate db g job.data.jobId _)
  · rfl

theorem run_metric (metric : Metric) (s : Db × γ) :
    (record metric).run (work env gate outcome) s = (.ok (), s) := rfl

theorem run_incrementFailed (queueName : String) (s : Db × γ) :
    (incrementFailed queueName).run (work env gate outcome) s = (.ok (), s) := rfl

theorem run_record {α : Type} (attempted : Prop) [Decidable attempted] (metric : Metric) {next : WorkerProgram α}
    (s : Db × γ) :
    Program.run (work env gate outcome) (if attempted then (record metric).bind fun _ => next else next) s =
      next.run (work env gate outcome) s := by
  split <;> rfl

theorem run_beginAttempt (env : Env) (gate : γ → JobQueuePayload → Except Err JobStatus × γ) (db : Db) (g : γ)
    (outcome : Except Err (Option String)) (job : BullJob) :
    (SkipsAttempt db job ∧
      (beginAttempt job).run (work env gate outcome) (db, g) = (.ok none, db, g)) ∨
    (¬ SkipsAttempt db job ∧ ∃ attempt db₁ db',
      (beginAttempt job).run (work env gate outcome) (db, g) = (.ok (some attempt), db', g) ∧
      attempt.isWorkflowJob = (db.workFlowOf job.data.jobId).isSome ∧ Db.Same db db₁ ∧
      Db.Same (marked db₁ job) db') := by
  simp only [beginAttempt, Program.bind_eq]
  rw [run_onServices_ok (run_clock env gate db g), run_onServices_ok (run_clock env gate db g),
    run_onServices_ok (run_findOne env gate db g job.data.jobId)]
  by_cases skips : SkipsAttempt db job
  · rw [if_pos ((skipsAttempt_iff db job).mpr skips)]
    exact .inl ⟨skips, rfl⟩
  · rw [if_neg (fun both => skips ((skipsAttempt_iff db job).mp both)), run_record]
    obtain ⟨n, db₁, sequenced, same⟩ := run_trackSequence env gate db g job
    rw [run_onServices_ok sequenced, run_onServices_ok (run_clock env gate db₁ g),
      run_onServices_ok (run_insertAttempt env gate db₁ g _ _ _), run_mark]
    let attempt := newAttempt db₁ job.data.jobId (job.attemptsMade + 1) env.now
    let db₂ : Db := { db₁ with attempts := db₁.attempts ++ [attempt] }
    refine .inr ⟨skips, _, db₂, _, run_onServices_ok (run_insertLog env gate (marked db₂ job) g _), ?_,
      same.trans (Db.same_of_tables rfl rfl rfl), Db.same_of_tables rfl rfl rfl⟩
    cases row : db.job? job.data.jobId <;> simp [Db.workFlowOf, row]

/-- What is left of an outcome once its error has been caught. -/
def settled : Outcome Err Unit → Outcome Err Unit
  | .hung => .hung
  | _ => .ok ()

/-- The outcome of a `catch` block that rethrows after a handler. -/
def rethrown (error : Err) : Outcome Err Unit → Outcome Err Unit
  | .ok _ => .thrown error
  | .thrown error' => .thrown error'
  | .hung => .hung

theorem settled_eq_hung {done : Outcome Err Unit} : settled done = .hung ↔ done = .hung := by
  cases done <;> simp [settled]

theorem rethrown_eq_hung {error : Err} {done : Outcome Err Unit} : rethrown error done = .hung ↔ done = .hung := by
  cases done <;> simp [rethrown]

theorem run_afterSuccess (env : Env) (gate : γ → JobQueuePayload → Except Err JobStatus × γ) (db : Db) (g : γ)
    (outcome : Except Err (Option String)) (job : BullJob) (attempt : Attempt) (result : Option String) :
    ∃ db₁ db₂, Db.Same db db₁ ∧
      db₂ = db₁.updateJob job.data.jobId
        { status := some .COMPLETED
          completedAt := some env.now
          metadata := some (withResult job.data.metadata result) } ∧
      (afterSuccess job attempt result).run (work env gate outcome) (db, g) =
        if attempt.isWorkflowJob then
          let handled := (onJobCompleted job.data.jobId).run (serve env gate) (db₂, g)
          (settled handled.1, handled.2)
        else (.ok (), db₂, g) := by
  simp only [afterSuccess, Program.bind_eq]
  rw [run_onServices_ok (run_clock env gate db g), run_onServices_ok (run_clock env gate db g),
    run_onServices_ok (run_updateAttempt env gate db g _ _ _ _), run_onServices_ok (run_update env gate _ g _ _)]
  refine ⟨(db.exec env (.updateAttempt attempt.attempt.id .COMPLETED env.now none)).2, _,
    Db.same_of_tables rfl rfl rfl, rfl, ?_⟩
  cases attempt.isWorkflowJob with
  | false => rfl
  | true =>
    simp only [if_true]
    rw [Program.run_bind, Program.run_capture, run_onServices]
    cases (onJobCompleted job.data.jobId).run (serve env gate) _ with
    | mk handled s => cases handled <;> rfl

theorem run_afterFailure (env : Env) (gate : γ → JobQueuePayload → Except Err JobStatus × γ) (db : Db) (g : γ)
    (outcome : Except Err (Option String)) (job : BullJob) (attempt : Attempt) (error : Err) :
    ∃ db₁ db₂, Db.Same db db₁ ∧
      db₂ = (if isFinalFailure job then
          db₁.updateJob job.data.jobId { status := some .FAILED, completedAt := some env.now }
        else db₁) ∧
      (afterFailure job attempt error).run (work env gate outcome) (db, g) =
        let handled := (handleParentFailure job.data.jobId).run (serve env gate) (db₂, g)
        (rethrown error handled.1, handled.2) := by
  have rethrow (s : Db × γ) :
      ((onServices (handleParentFailure job.data.jobId)).bind fun _ => .throws error).run
        (work env gate outcome) s =
      let handled := (handleParentFailure job.data.jobId).run (serve env gate) s
      ((rethrown error handled.1, handled.2) : Outcome Err Unit × Db × γ) := by
    rw [Program.run_bind, run_onServices]
    cases (handleParentFailure job.data.jobId).run (serve env gate) s with
    | mk handled s' => cases handled <;> rfl
  simp only [afterFailure, Program.bind_eq]
  rw [run_onServices_ok (run_clock env gate db g), run_onServices_ok (run_clock env gate db g),
    run_onServices_ok (run_updateAttempt env gate db g _ _ _ _), run_onServices_ok (run_insertLog env gate _ g _)]
  let updated := (db.exec env (.updateAttempt attempt.attempt.id .FAILED env.now (some error.message))).2
  let log : JobLog :=
    { jobId := job.data.jobId, message := "Job attempt failed",
      attemptNumber := attempt.attempt.attemptNumber, error := some error.message }
  refine ⟨{ updated with logs := updated.logs ++ [log] }, _, Db.same_of_tables rfl rfl rfl, rfl, ?_⟩
  cases isFinalFailure job with
  | false => exact rethrow _
  | true =>
    simp only [if_true]
    rw [run_onServices_ok (run_update env gate _ g _ _), Program.run_bind_ok _ (run_metric _ _),
      Program.run_bind_ok _ (run_incrementFailed _ _)]
    exact rethrow _

/-- `afterProcess` after a success ends with what `afterSuccess` ends with, since that throws nothing. -/
theorem run_afterProcess_ok (job : BullJob) (attempt : Attempt) (result : Option String) {s : Db × γ}
    {done : Outcome Err Unit} (ran : (afterSuccess job attempt result).run (work env gate outcome) (db, g) = (done, s))
    (unthrown : done = .ok () ∨ done = .hung) :
    (afterProcess job attempt (.ok result)).run (work env gate outcome) (db, g) = (done, s) := by
  simp only [afterProcess, Program.bind_eq]
  rw [Program.run_bind, Program.run_capture, Program.run_catching, ran]
  rcases unthrown with rfl | rfl <;> rfl

theorem run_afterProcess_error (job : BullJob) (attempt : Attempt) (error : Err) {s : Db × γ}
    {done : Outcome Err Unit} (ran : (afterFailure job attempt error).run (work env gate outcome) (db, g) = (done, s))
    (unreturned : done ≠ .ok ()) :
    (afterProcess job attempt (.error error)).run (work env gate outcome) (db, g) = (done, s) := by
  simp only [afterProcess, Program.bind_eq]
  rw [Program.run_bind, Program.run_capture, Program.run_catching, Program.run_throws]
  dsimp only
  rw [ran]
  cases done with
  | ok value => exact absurd rfl unreturned
  | hung => rfl
  | thrown error' =>
    cases isFinalFailure job <;> rfl

end OrchestrateModel
