import Orchestrate.Workflow.Steps

namespace OrchestrateModel

open Effect ChainService BaseProcessor

/-- The payload that `retryFailedJob` submits for a job. -/
def retryPayload (job : Job) (userId : UserId) (tenantId : TenantId) (queueName : String) : JobQueuePayload :=
  { jobId := job.id
    jobType := job.type
    tenantId := tenantId
    userId := some userId
    priorityLevel := job.priorityLevel
    retries := job.retries
    metadata := job.metadata
    queueName := queueName }

/-- `retryFailedJob` finds a FAILED job of the tenant. -/
def Db.Retries (db : Db) (jobId : JobId) (tenantId : TenantId) : Prop :=
  ∃ job, db.job? jobId = some job ∧ job.tenantId = tenantId ∧ job.status = .FAILED

theorem Db.Retries.standing {db : Db} {jobId : JobId} {tenantId : TenantId} (retries : db.Retries jobId tenantId) :
    db.status jobId = some .FAILED := by
  obtain ⟨job, row, _, failed⟩ := retries
  simp [Db.status, row, failed]

theorem run_retryFailedJob {γ : Type} (env : Env) (gate : γ → JobQueuePayload → Except Err JobStatus × γ)
    (db : Db) (g : γ) (jobId : JobId) (userId : UserId) (tenantId : TenantId) :
    (¬ db.Retries jobId tenantId ∧ ∃ error,
      (JobsService.retryFailedJob jobId userId tenantId).run (serve env gate) (db, g) = (.thrown error, db, g)) ∨
    ∃ job done, db.job? jobId = some job ∧ job.tenantId = tenantId ∧ job.status = .FAILED ∧
      (JobsService.retryFailedJob jobId userId tenantId).run (serve env gate) (db, g) =
        (done, db.updateJob job.id { status := some .QUEUED },
          offered gate job.type (retryPayload job userId tenantId) g) := by
  simp only [JobsService.retryFailedJob, Program.bind_eq]
  have answer : (JobRepo.findOneOfTenant jobId tenantId).run (serve env gate) (db, g) =
      (.ok ((db.job? jobId).filter fun job => job.tenantId = tenantId), db, g) := rfl
  rw [Program.run_bind_ok _ answer]
  cases found : (db.job? jobId).filter fun job => job.tenantId = tenantId with
  | none =>
    refine .inl ⟨?_, _, rfl⟩
    intro given
    obtain ⟨job, row, tenant, _⟩ := given
    simp [row, tenant] at found
  | some job =>
    dsimp only
    obtain ⟨row, tenant⟩ := Option.filter_eq_some_iff.mp found
    rw [decide_eq_true_eq] at tenant
    by_cases failed : job.status = .FAILED
    · rw [if_neg (not_not.mpr failed), Program.run_bind_ok _ (run_update env gate db g job.id _)]
      right
      cases resolved : resolveQueueName job.type with
      | error error =>
        refine ⟨job, .thrown error, row, tenant, failed, ?_⟩
        simp [offered, resolved, Program.ofExcept]
      | ok queueName =>
        have passed : offered gate job.type (retryPayload job userId tenantId) g =
            (gate g (retryPayload job userId tenantId queueName)).2 := by simp only [offered, resolved]
        simp only [Program.ofExcept, Program.bind_done]
        rw [Program.run_bind, run_submit]
        cases accepted : gate g (retryPayload job userId tenantId queueName) with
        | mk result g' =>
          rw [accepted] at passed
          rw [retryPayload] at accepted
          rw [accepted]
          cases result with
          | error error =>
            refine ⟨job, .thrown error, row, tenant, failed, ?_⟩
            rw [passed]
          | ok status =>
            refine ⟨job, .ok { job with status := .QUEUED, completedAt := none }, row, tenant, failed, ?_⟩
            rw [passed]
            rfl
    · rw [if_pos failed]
      refine .inl ⟨?_, _, rfl⟩
      intro given
      obtain ⟨job', row', _, failed'⟩ := given
      obtain rfl : job = job' := Option.some.inj (row.symm.trans row')
      exact failed failed'

namespace Workflows

variable {env : Env} {staged : Bool} {workFlowId : WorkFlowId} {s s' : Workflows} {i : Nat}
  {outcome : Except Err (Option String)}

theorem posted_retry (staged : Bool) (now : Nat) (job : Job) (userId : UserId) (tenantId : TenantId) (desk : Desk) :
    Posted job.id desk (offered (Desk.accept staged now) job.type (retryPayload job userId tenantId) desk) := by
  have own (queueName : String) : (retryPayload job userId tenantId queueName).jobId = job.id := rfl
  have named (queueName : String) : OwnId (retryPayload job userId tenantId queueName) := by
    intro id custom
    cases custom
  exact posted_offered staged now job.type own named desk

theorem retry_cases {jobId : JobId} {userId : UserId} {tenantId : TenantId}
    (moved : s.step (.retry env staged jobId userId tenantId) = some s') :
    (¬ s.db.Retries jobId tenantId ∧ s' = s) ∨
      (s.db.Retries jobId tenantId ∧ s'.db = s.db.updateJob jobId { status := some .QUEUED } ∧
        ∃ job, s.db.job? jobId = some job ∧
          s'.desk = offered (Desk.accept staged env.now) job.type (retryPayload job userId tenantId) s.desk) := by
  obtain rfl := Option.some.inj moved
  rcases run_retryFailedJob env (Desk.accept staged env.now) s.db s.desk jobId userId tenantId with
    ⟨fails, error, ran⟩ | ⟨job, done, row, tenant, failed, ran⟩
  · left
    simp [request, ran, fails]
  · right
    have own := Db.id_of_job? row
    refine ⟨⟨job, row, tenant, failed⟩, ?_, job, row, ?_⟩
    · simp [request, ran, own]
    · simp [request, ran]

theorem retry_posted {jobId : JobId} {userId : UserId} {tenantId : TenantId} {job : Job}
    (row : s.db.job? jobId = some job)
    (desk : s'.desk = offered (Desk.accept staged env.now) job.type (retryPayload job userId tenantId) s.desk) :
    Posted jobId s.desk s'.desk := by
  have posted := posted_retry staged env.now job userId tenantId s.desk
  rwa [← desk, Db.id_of_job? row] at posted

/-- What a request to create a workflow can do. -/
theorem create_cases {items : List WorkFlowItem} {userId : UserId} {tenantId : TenantId} (formed : s.db.Formed)
    (moved : s.step (.create env staged items userId tenantId) = some s') :
    s' = s ∨
    (∃ rows links db', Grown s.db s.db.drawn rows links db' ∧ s' = { s with db := db' }) ∨
    ∃ rows links db₁, Grown s.db s.db.drawn rows links db₁ ∧ AllLinked rows links ∧
      Dispatched env staged s.db.drawn { s with db := db₁ } s' := by
  obtain rfl := Option.some.inj moved
  rcases run_createWorkFlow env (Desk.accept staged env.now) s.desk formed userId tenantId items with
    ⟨error, _, ran⟩ | ⟨error, rows, links, db', grown, _, ran⟩ |
    ⟨rows, links, db₁, grown, linked, _, scheduled, ⟨db', desk'⟩, scheduling, created, ran, _⟩
  · left
    simp [request, ran]
  · refine .inr (.inl ⟨rows, links, db', grown, ?_⟩)
    simp [request, ran]
  · refine .inr (.inr ⟨rows, links, db₁, grown, linked, ?_⟩)
    simp only [request, ran]
    exact dispatched_of_scheduled scheduling

/-- What the start of an attempt can do. -/
theorem start_cases (moved : s.step (.start env i) = some s') :
    ∃ entry queueName stage, s.desk.entries[i]? = some entry ∧ entry.stage = .waiting ∧
      s'.desk = s.desk.setEntry i { entry with stage := stage } ∧
      ((SkipsAttempt s.db (entry.job queueName) ∧ stage = .ended ∧ s'.db = s.db) ∨
        ∃ attempt db₁, stage = .running attempt ∧
          attempt.isWorkflowJob = (s.db.workFlowOf entry.payload.jobId).isSome ∧ Db.Same s.db db₁ ∧
          Db.Same (marked db₁ (entry.job queueName)) s'.db) := by
  simp only [step, Option.bind_eq_bind, Option.bind_eq_some_iff] at moved
  obtain ⟨entry, at_i, queueName, placed, rest⟩ := moved
  split at rest
  · rename_i waiting
    obtain rfl := Option.some.inj rest
    rcases run_beginAttempt env (Desk.accept false env.now) s.db s.desk (.ok none)
        (entry.job queueName) with
      ⟨skips, ran⟩ | ⟨skips, attempt, db₁, db', ran, own, same, marks⟩
    · refine ⟨entry, queueName, .ended, at_i, waiting, ?_, .inl ⟨skips, rfl, ?_⟩⟩
      · simp [begin_, ran]
      · simp [begin_, ran]
    · refine ⟨entry, queueName, .running attempt, at_i, waiting, ?_, .inr ⟨attempt, db₁, rfl, own, same, ?_⟩⟩
      · simp [begin_, ran]
      · simpa [begin_, ran] using marks
  · cases rest

theorem finish_cases (moved : s.step (.finish env staged i outcome) = some s') :
    ∃ entry queueName attempt, s.desk.entries[i]? = some entry ∧ entry.stage = .running attempt ∧
      s' = s.end_ env staged i entry queueName attempt outcome := by
  simp only [step, Option.bind_eq_bind, Option.bind_eq_some_iff] at moved
  obtain ⟨entry, at_i, queueName, placed, rest⟩ := moved
  split at rest
  · rename_i attempt running
    exact ⟨entry, queueName, attempt, at_i, running, (Option.some.inj rest).symm⟩
  · cases rest

/-- The steps that follow an attempt: the row of its job is written, the handler marks the children, the
    entry is settled, and the next job is scheduled. -/
structure Settled (env : Env) (staged : Bool) (workFlowId : WorkFlowId) (s : Workflows) (i : Nat) (settled : Entry)
    (written handled : Db) (s' : Workflows) : Prop where
  writes : Db.Kept s.db written
  handles : Db.Kept written handled
  schedules : Dispatched env staged workFlowId
    { db := handled, desk := s.desk.setEntry i settled } s'
  endless : settled.stage = .stuck → handled.pick env workFlowId = none

theorem stuck_after (entry : Entry) (done : Outcome Err Unit) : (entry.after done).stage = .stuck ↔ done = .hung := by
  cases done with
  | ok value => simp [Entry.after]
  | thrown error => by_cases final : entry.Final <;> simp [Entry.after, final]
  | hung => simp [Entry.after]

variable {entry : Entry} {queueName : String} {attempt : Attempt}

open Classical in
/-- What follows a successful `process`. -/
theorem end_ok (formed : s.db.Formed) (own : s.db.workFlowOf entry.payload.jobId = some workFlowId)
    (workflow : attempt.isWorkflowJob = true) (at_i : s.desk.entries[i]? = some entry) (result : Option String) :
    ∃ done written handled, (done = .ok () ∨ done = .hung) ∧
      Settled env staged workFlowId s i (entry.after done) written handled
        (s.end_ env staged i entry queueName attempt (.ok result)) ∧
      (∀ x, written.status x = if x = entry.payload.jobId then some .COMPLETED else s.db.status x) ∧
      ∀ x, handled.status x =
        if written.Unlocks entry.payload.jobId x then some .READY else written.status x := by
  obtain ⟨db₁, db₂, same, update, ran⟩ := run_afterSuccess env (Desk.accept staged env.now) s.db s.desk
    (.ok result) (entry.job queueName) attempt result
  rw [if_pos workflow] at ran
  have present : db₁.status entry.payload.jobId ≠ none := by
    rw [same.status]
    obtain ⟨job, row, _⟩ := Option.bind_eq_some_iff.mp own
    simp [Db.status, row]
  have keptWritten : Db.Kept s.db db₂ := by
    rw [update]
    exact same.toKept.trans (Db.kept_updateJob db₁ _ _)
  have standing (x : JobId) :
      db₂.status x = if x = entry.payload.jobId then some .COMPLETED else s.db.status x := by
    rw [update]
    exact (Db.status_updateJob db₁ entry.payload.jobId x .COMPLETED _ rfl present).trans (by rw [same.status])
  obtain ⟨handled, keptHandled, unlocked, scheduled⟩ := run_onJobCompleted env
    (Desk.accept staged env.now) s.desk (keptWritten.keyed formed.keyed)
    ((keptWritten.workFlowOf entry.payload.jobId).trans own)
  cases completed : (onJobCompleted entry.payload.jobId).run (serve env (Desk.accept staged env.now))
      (db₂, s.desk) with
  | mk done state =>
    obtain ⟨db₃, desk₃⟩ := state
    rw [completed] at scheduled
    have bound : i < s.desk.entries.length := (List.getElem?_eq_some_iff.mp at_i).1
    have dispatched := (dispatched_of_scheduled scheduled).setEntry (entry.after (settled done)) bound
    have handler : (afterSuccess (entry.job queueName) attempt result).run
        (work env (Desk.accept staged env.now) (.ok result)) (s.db, s.desk) = (settled done, db₃, desk₃) := by
      rw [ran]
      exact congrArg (fun r : Outcome Err Unit × Db × Desk => (settled r.1, r.2)) completed
    have unthrown : settled done = .ok () ∨ settled done = .hung := by cases done <;> simp [settled]
    have ended := run_afterProcess_ok (entry.job queueName) attempt result handler unthrown
    refine ⟨settled done, db₂, handled, unthrown, ⟨keptWritten, keptHandled, ?_, fun stuck => ?_⟩, standing, unlocked⟩
    · simpa [end_, ended] using dispatched
    · obtain rfl : done = .hung := settled_eq_hung.mp ((stuck_after entry _).mp stuck)
      exact scheduled.endless_of_hung

theorem isFinalFailure_iff : isFinalFailure (entry.job queueName) = true ↔ entry.Final := by
  simp [isFinalFailure, Entry.job, jobsOptions, Entry.Final]

open Classical in
/-- What follows a failed `process`. -/
theorem end_error (formed : s.db.Formed) (own : s.db.workFlowOf entry.payload.jobId = some workFlowId)
    (at_i : s.desk.entries[i]? = some entry) (error : Err) :
    ∃ done written handled, ((∃ error', done = .thrown error') ∨ done = .hung) ∧
      Settled env staged workFlowId s i (entry.after done) written handled
        (s.end_ env staged i entry queueName attempt (.error error)) ∧
      (∀ x, written.status x =
        if x = entry.payload.jobId ∧ entry.Final then some .FAILED else s.db.status x) ∧
      ∀ x, handled.status x =
        if written.Skips entry.payload.jobId x then some .SKIPPED else written.status x := by
  obtain ⟨db₁, db₂, same, update, ran⟩ := run_afterFailure env (Desk.accept staged env.now) s.db s.desk
    (.error error) (entry.job queueName) attempt error
  have present : db₁.status entry.payload.jobId ≠ none := by
    rw [same.status]
    obtain ⟨job, row, _⟩ := Option.bind_eq_some_iff.mp own
    simp [Db.status, row]
  have both : Db.Kept s.db db₂ ∧ ∀ x, db₂.status x =
      if x = entry.payload.jobId ∧ entry.Final then some .FAILED else s.db.status x := by
    rw [update]
    by_cases final : isFinalFailure (entry.job queueName) = true
    · rw [if_pos final]
      refine ⟨same.toKept.trans (Db.kept_updateJob db₁ _ _), fun x => ?_⟩
      simp only [isFinalFailure_iff.mp final, and_true]
      exact (Db.status_updateJob db₁ entry.payload.jobId x .FAILED _ rfl present).trans (by rw [same.status])
    · rw [if_neg final]
      have more : ¬ entry.Final := fun last => final (isFinalFailure_iff.mpr last)
      exact ⟨same.toKept, fun x => by rw [same.status, if_neg (fun both => more both.2)]⟩
  obtain ⟨keptWritten, standing⟩ := both
  obtain ⟨handled, keptHandled, skipped, scheduled⟩ := run_handleParentFailure env
    (Desk.accept staged env.now) s.desk (keptWritten.keyed formed.keyed)
    ((keptWritten.workFlowOf entry.payload.jobId).trans own)
  cases failed : (handleParentFailure entry.payload.jobId).run (serve env (Desk.accept staged env.now))
      (db₂, s.desk) with
  | mk done state =>
    obtain ⟨db₃, desk₃⟩ := state
    rw [failed] at scheduled
    have bound : i < s.desk.entries.length := (List.getElem?_eq_some_iff.mp at_i).1
    have dispatched := (dispatched_of_scheduled scheduled).setEntry (entry.after (rethrown error done)) bound
    have handler : (afterFailure (entry.job queueName) attempt error).run
        (work env (Desk.accept staged env.now) (.error error)) (s.db, s.desk) =
          (rethrown error done, db₃, desk₃) := by
      rw [ran]
      exact congrArg (fun r : Outcome Err Unit × Db × Desk => (rethrown error r.1, r.2)) failed
    have unreturned : (∃ error', rethrown error done = .thrown error') ∨ rethrown error done = .hung := by
      cases done <;> simp [rethrown]
    have ended := run_afterProcess_error (entry.job queueName) attempt error handler
      (by rcases unreturned with ⟨error', thrown⟩ | hung <;> simp [*])
    refine ⟨rethrown error done, db₂, handled, unreturned, ⟨keptWritten, keptHandled, ?_, fun stuck => ?_⟩, standing,
      skipped⟩
    · simpa [end_, ended] using dispatched
    · obtain rfl : done = .hung := rethrown_eq_hung.mp ((stuck_after entry _).mp stuck)
      exact scheduled.endless_of_hung

end Workflows
end OrchestrateModel
