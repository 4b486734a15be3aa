import Orchestrate.Lifecycle.Absorbing
import Orchestrate.Workflow.Pick

namespace OrchestrateModel

open Effect Program ChainService BaseProcessor

/-- A call that adds no row, no dependency and no recurring job. -/
def ServiceCall.Handles : ServiceCall → Prop
  | .db (.insertJob _) | .db (.insertDep _ _) | .db (.insertRecurring _ _ _ _ _) => False
  | _ => True

def WorkerCall.Handles : WorkerCall → Prop
  | .service c => c.Handles
  | _ => True

/-- A call that adds no attempt either. -/
def ServiceCall.Tends : ServiceCall → Prop
  | .db (.insertAttempt _ _ _) => False
  | c => c.Handles

def WorkerCall.Tends : WorkerCall → Prop
  | .service c => c.Tends
  | _ => True

theorem ServiceCall.Tends.handles {c : ServiceCall} (tends : c.Tends) : c.Handles := by
  unfold Tends at tends
  split at tends
  · exact tends.elim
  · exact tends

theorem DbCall.kept {c : DbCall} (handles : ServiceCall.Handles (.db c)) (env : Env) (db : Db) :
    Db.Kept db (db.exec env c).2 := by
  cases c with
  | updateJob id change => exact Db.kept_updateJob db id change
  | updateDeps childId status => exact Db.kept_updateDeps db childId status
  | insertJob | insertDep | insertRecurring => exact handles.elim
  | _ => exact ⟨rfl, rfl, rfl⟩

section Only

theorem tends_query {c : DbCall} (tends : ServiceCall.Tends (.db c)) : (query c).Only ServiceCall.Tends :=
  only_await (S := serviceSignature) tends

theorem handles_query {c : DbCall} (handles : ServiceCall.Handles (.db c)) : (query c).Only ServiceCall.Handles :=
  only_await (S := serviceSignature) handles

theorem ServiceCall.tends_of_reads (c : ServiceCall) (reads : c.Reads) : c.Tends := by
  unfold ServiceCall.Tends ServiceCall.Handles
  split
  · cases reads
  · split
    all_goals first
      | cases reads
      | trivial

theorem tends_scheduleNextJob (workFlowId : WorkFlowId) (tenantId : TenantId) :
    (scheduleNextJob workFlowId tenantId).Only ServiceCall.Tends := by
  refine (tends_query (by trivial)).bind fun count => ?_
  split
  · exact only_done _
  · refine Only.bind ?_ fun candidate => ?_
    · exact (reads_pickNextJobGLobal _).mono ServiceCall.tends_of_reads
    · cases candidate with
      | none => exact only_done _
      | some candidate =>
        exact (tends_query (by trivial)).bind fun _ => (only_ofExcept _).bind fun _ =>
          (only_await (S := serviceSignature) trivial).bind fun _ => only_done _

theorem tends_handleParentFailure (parentJobId : JobId) : (handleParentFailure parentJobId).Only ServiceCall.Tends := by
  refine (tends_query (by trivial)).bind fun found => ?_
  split
  · exact only_done _
  · refine (tends_query (by trivial)).bind fun deps => Only.bind (only_forEach fun dep _ => ?_) fun _ =>
      tends_scheduleNextJob _ _
    unfold skipChild
    split
    · exact only_done _
    · refine (tends_query (by trivial)).bind fun fullChild => ?_
      cases fullChild with
      | none => exact only_done _
      | some fullChild =>
        dsimp only
        split
        · exact tends_query (by trivial)
        · exact only_done _

theorem tends_onJobCompleted (jobId : JobId) : (onJobCompleted jobId).Only ServiceCall.Tends := by
  refine (tends_query (by trivial)).bind fun found => ?_
  split
  · exact only_done _
  · refine Only.bind ?_ fun _ => tends_scheduleNextJob _ _
    refine (tends_query (by trivial)).bind fun childDeps => only_forEach fun dep _ => ?_
    refine (tends_query (by trivial)).bind fun child => ?_
    cases child with
    | none => exact only_done _
    | some child =>
      dsimp only
      split
      · exact only_done _
      · refine (tends_query (by trivial)).bind fun remaining => ?_
        split
        · exact (tends_query (by trivial)).bind fun _ => tends_query (by trivial)
        · exact only_done _

theorem tends_trackSequence (job : BullJob) : (trackSequence job).Only ServiceCall.Tends := by
  unfold trackSequence
  split
  · split
    · refine (tends_query (by trivial)).bind fun found => ?_
      cases found with
      | none => exact only_done _
      | some recurringJob => exact (tends_query (by trivial)).bind fun _ => only_done _
    · exact only_done _
  · exact (tends_query (by trivial)).bind fun _ => (tends_query (by trivial)).bind fun _ =>
      (tends_query (by trivial)).bind fun _ => only_done _

theorem tends_clock : (onServices clock).Only WorkerCall.Tends := only_onServices (only_await (S := serviceSignature) trivial)

theorem tends_write {c : DbCall} (tends : ServiceCall.Tends (.db c)) : (onServices (query c)).Only WorkerCall.Tends :=
  only_onServices (tends_query tends)

theorem tends_awaitWork {c : WorkerCall} (tends : c.Tends) : (awaitWork c).Only WorkerCall.Tends :=
  only_await (S := workerSignature) tends

theorem tends_lookup (job : BullJob) : (lookup job).Only WorkerCall.Tends :=
  tends_clock.bind fun _ => tends_clock.bind fun _ => (tends_write (by trivial)).bind fun _ => only_done _

theorem tends_afterSuccess (job : BullJob) (attempt : Attempt) (result : Option String) :
    (afterSuccess job attempt result).Only WorkerCall.Tends := by
  refine tends_clock.bind fun now => tends_clock.bind fun finish => (tends_write (by trivial)).bind fun _ =>
    (tends_write (by trivial)).bind fun _ => ?_
  have closes : Program.Only WorkerCall.Tends
      ((record (.jobCompleted job.queueName job.data.jobType job.data.priorityLevel
        (((finish : Rat) - attempt.executeStart) / 1000) attempt.waitSeconds)).bind
          fun _ => incrementCompleted job.queueName) :=
    (tends_awaitWork (by trivial)).bind fun _ => tends_awaitWork (by trivial)
  split
  · exact (only_onServices (tends_onJobCompleted job.data.jobId)).capture.bind fun _ => closes
  · exact closes

theorem tends_afterFailure (job : BullJob) (attempt : Attempt) (error : Err) :
    (afterFailure job attempt error).Only WorkerCall.Tends := by
  rw [afterFailure_eq]
  refine Only.bind ?_ fun _ => (only_onServices (tends_handleParentFailure _)).bind fun _ => only_throws error
  refine tends_clock.bind fun now => tends_clock.bind fun finish => (tends_write (by trivial)).bind fun _ =>
    (tends_write (by trivial)).bind fun _ => ?_
  split
  · exact (tends_write (by trivial)).bind fun _ => (tends_awaitWork (by trivial)).bind fun _ => tends_awaitWork (by trivial)
  · exact only_done _

theorem tends_release (job : BullJob) : (release job.data.tenantId job.queueName).capture.Only WorkerCall.Tends :=
  (tends_awaitWork (by trivial)).capture

theorem tends_afterProcess (job : BullJob) (attempt : Attempt) (outcome : Except Err (Option String)) :
    (afterProcess job attempt outcome).Only WorkerCall.Tends := by
  rw [afterProcess_eq]
  refine Only.bind (Only.capture (Only.catching ?_ (tends_afterFailure job attempt))) fun completion => ?_
  · cases outcome with
    | ok result => exact tends_afterSuccess job attempt result
    | error error => exact only_throws error
  · split
    · exact (tends_release job).bind fun _ => only_ofExcept completion
    · exact only_ofExcept completion

theorem WorkerCall.Tends.handles {c : WorkerCall} (tends : c.Tends) : c.Handles := by
  cases c with
  | service c => exact ServiceCall.Tends.handles tends
  | _ => trivial

theorem handles_register (job : BullJob) (executeStart now : Nat) (existingJob : Option Job) :
    (register job executeStart now existingJob).Only WorkerCall.Handles := by
  have writes {c : DbCall} (handles : ServiceCall.Handles (.db c)) : (onServices (query c)).Only WorkerCall.Handles :=
    only_onServices (handles_query handles)
  have tracks : (onServices (trackSequence job)).Only WorkerCall.Handles :=
    only_onServices ((tends_trackSequence job).mono fun _ tends => tends.handles)
  simp only [register, bind_eq, pure_eq_done]
  repeat' first
    | exact tracks
    | exact only_onServices (only_await (S := serviceSignature) trivial)
    | exact writes (by trivial)
    | exact only_await trivial
    | exact only_done _
    | refine Only.bind ?_ fun _ => ?_
    | split

theorem handles_execute (job : BullJob) : (execute job).Only WorkerCall.Handles := by
  have handles {α : Type} {program : WorkerProgram α} (tends : program.Only WorkerCall.Tends) :
      program.Only WorkerCall.Handles := tends.mono fun _ tends => tends.handles
  rw [execute_eq]
  refine Only.bind (handles (tends_lookup job)) ?_
  rintro ⟨executeStart, now, existingJob⟩
  dsimp only
  split
  · exact (handles (tends_release job)).bind fun _ => only_done _
  · exact (handles_register job executeStart now existingJob).bind fun attempt =>
      (handles (tends_awaitWork (by trivial))).capture.bind fun outcome => handles (tends_afterProcess job attempt outcome)

end Only

/-- The row of the job is there, and the job is no dependency of itself. -/
structure Standing (db : Db) (j : JobId) : Prop where
  keyed : db.Keyed
  present : db.status j ≠ none
  acyclic : ¬ db.Depends j j

theorem Standing.kept {db db' : Db} {j : JobId} (standing : Standing db j)
    (rows : db'.jobs.map Job.fixed = db.jobs.map Job.fixed) (edges : db'.edges = db.edges) : Standing db' j := by
  have kept : Db.Kept db { db' with drawn := db.drawn } := ⟨rows, edges, rfl⟩
  have same : (db'.job? j).map Job.fixed = (db.job? j).map Job.fixed := kept.job? j
  refine ⟨kept.keyed standing.keyed, fun absent => ?_, fun depends => standing.acyclic ((kept.depends j j).mp depends)⟩
  rw [Db.status, Option.map_eq_none_iff] at absent
  rw [absent, Option.map_none] at same
  have gone := Option.map_eq_none_iff.mp same.symm
  exact standing.present (by simp [Db.status, gone])

theorem Standing.saves {db db' : Db} {j : JobId} (standing : Standing db j) (saves : db.Saves db') : Standing db' j := by
  refine ⟨saves.keyed standing.keyed, ?_, ?_⟩
  · rcases saves.status j with same | ⟨_, queued⟩
    · rw [same]
      exact standing.present
    · rw [queued]
      simp
  · rw [Db.Depends, Db.edges, saves.deps]
    exact standing.acyclic

section Parts

variable {σ : Type} {h : Handler workerSignature Err σ} {db : σ → Db} {j : JobId} {job : BullJob} {s s' : σ}

theorem Serves.standing (serves : Serves h db) {c : WorkerCall} (handles : c.Handles) (standing : Standing (db s) j) :
    Standing (db (h s c).2) j := by
  have still {tables : Db} (jobs : tables.jobs = (db s).jobs) (deps : tables.deps = (db s).deps) : Standing tables j :=
    standing.kept (by rw [jobs]) (by simp only [Db.edges, deps])
  cases c with
  | service call =>
    cases call with
    | db statement =>
      obtain ⟨env, ⟨_, effect⟩ | ⟨_, same | effect⟩⟩ := serves.stores.statement s statement
      · have kept := DbCall.kept handles env (db s)
        rw [effect]
        exact standing.kept kept.rows kept.edges
      · rw [same]
        exact standing
      · have kept := DbCall.kept handles env (db s)
        rw [effect]
        exact standing.kept kept.rows kept.edges
    | _ => exact still (serves.stores.elsewhere s _ (by simp)).1 (serves.stores.elsewhere s _ (by simp)).2
  | process job => exact standing.saves (serves.saves s job)
  | _ => exact still (serves.elsewhere s _ (by simp) rfl).1 (serves.elsewhere s _ (by simp) rfl).2

/-- A call that is no work and adds nothing. -/
def WorkerCall.Steady (c : WorkerCall) : Prop := c.Handles ∧ c.isProcess = false

/-- Everything but the work itself is answered. -/
def Answers (h : Handler workerSignature Err σ) (s : σ) (c : WorkerCall) : Prop := c.Steady → ¬ Throws h (s, c)

/-- A part that throws only what its calls throw, and whose calls are answered. -/
theorem safe_calm {α : Type} {program : WorkerProgram α} {invariant : σ → Prop} (calm : program.Calm)
    (only : program.Only WorkerCall.Steady) (keep : ∀ s c, WorkerCall.Steady c → invariant s → invariant (h s c).2)
    (initial : invariant s) {thrown : Err → σ → Prop} :
    Safe h (Answers h) (fun _ _ => True) (fun _ s' => invariant s') thrown program s := by
  induction program generalizing s with
  | done value => exact initial
  | throws error => exact calm.elim
  | hangs => exact calm.elim
  | call c next ih =>
    intro answers
    refine ⟨trivial, ?_⟩
    have answered := answers only.1
    cases answer : (h s c).1 with
    | error error => exact absurd (by simp [Throws, answer, Except.toBool]) answered
    | ok reply => exact ih (.ok reply) (calm.2 reply) (only.2 _) (keep s c only.1 initial)

/-- The row is FAILED if no attempt follows. -/
def Failed (db : Db) (job : BullJob) : Prop :=
  Standing db job.data.jobId ∧ (isFinalFailure job = true → db.status job.data.jobId = some .FAILED)

theorem Failed.jobs (failed : Failed (db s) job) (jobs : (db s').jobs = (db s).jobs) (deps : (db s').deps = (db s).deps) :
    Failed (db s') job := by
  refine ⟨failed.1.kept (by rw [jobs]) (by simp only [Db.edges, deps]), fun final => ?_⟩
  rw [Stores.status_of_jobs jobs]
  exact failed.2 final

theorem steady_clock : (onServices clock).Only WorkerCall.Steady :=
  only_onServices (only_await (S := serviceSignature) ⟨trivial, rfl⟩)

theorem steady_query {c : DbCall} (handles : ServiceCall.Handles (.db c)) :
    (onServices (query c)).Only WorkerCall.Steady :=
  only_onServices (only_await (S := serviceSignature) ⟨handles, rfl⟩)

/-- A call that does not concern the rows. -/
theorem Serves.safe_quietly (serves : Serves h db) {c : WorkerCall} (quiet : ∀ call, c ≠ .service call)
    (steady : c.Steady) (failed : Failed (db s) job) {thrown : Err → σ → Prop} :
    Safe h (Answers h) (fun _ _ => True) (fun _ s' => Failed (db s') job) thrown (awaitWork c) s := by
  have same := serves.elsewhere s c quiet steady.2
  apply safe_await (S := workerSignature)
  · exact fun _ => trivial
  · exact fun _ _ _ => failed.jobs same.1 same.2
  · intro answers error answer
    exact absurd (by simp [Throws, answer, Except.toBool]) (answers steady)

/-- The write of FAILED. -/
theorem Serves.safe_failedRow (serves : Serves h db) {change : JobChange} (given : change.status = some .FAILED)
    (standing : Standing (db s) job.data.jobId) {thrown : Err → σ → Prop} :
    Safe h (Answers h) (fun _ _ => True) (fun _ s' => Failed (db s') job) thrown
      (onServices (JobRepo.update job.data.jobId change)) s := by
  rw [JobRepo.update, query, onServices_await]
  apply safe_await (S := workerSignature) (c := .service (.db (.updateJob job.data.jobId change)))
  · exact fun _ => trivial
  · intro _ reply answer
    obtain ⟨env, _, effect⟩ := serves.stores.reply answer
    refine ⟨serves.standing (c := .service (.db (.updateJob job.data.jobId change))) trivial standing, fun _ => ?_⟩
    have written : db (h s (.service (.db (.updateJob job.data.jobId change)))).2 =
        (db s).updateJob job.data.jobId change := effect
    rw [written, Db.status_updateJob (db s) _ _ .FAILED change given standing.present, if_pos rfl]
  · intro answers error answer
    exact absurd (by simp [Throws, answer, Except.toBool]) (answers ⟨by trivial, rfl⟩)

theorem Serves.safe_recordFailure (serves : Serves h db) (attempt : Attempt) (error : Err)
    (standing : Standing (db s) job.data.jobId) {thrown : Err → σ → Prop} :
    Safe h (Answers h) (fun _ _ => True) (fun _ s' => Failed (db s') job) thrown (recordFailure job attempt error) s := by
  have keep (s : σ) (c : WorkerCall) (steady : c.Steady) (standing : Standing (db s) job.data.jobId) :
      Standing (db (h s c).2) job.data.jobId := serves.standing steady.1 standing
  simp only [recordFailure, bind_eq, pure_eq_done]
  apply Safe.bind
  refine (safe_calm calm_clock steady_clock keep standing).mono (fun _ _ same => same)
    (fun now s₁ standing₁ => ?_) fun _ _ same => same
  apply Safe.bind
  refine (safe_calm calm_clock steady_clock keep standing₁).mono (fun _ _ same => same)
    (fun finish s₂ standing₂ => ?_) fun _ _ same => same
  apply Safe.bind
  refine (safe_calm (calm_query _) (steady_query (by trivial)) keep standing₂).mono (fun _ _ same => same)
    (fun _ s₃ standing₃ => ?_) fun _ _ same => same
  apply Safe.bind
  refine (safe_calm (calm_query _) (steady_query (by trivial)) keep standing₃).mono (fun _ _ same => same)
    (fun _ s₄ standing₄ => ?_) fun _ _ same => same
  split
  · apply Safe.bind
    refine (serves.safe_failedRow rfl standing₄).mono (fun _ _ same => same) (fun _ s₅ failed => ?_) fun _ _ same => same
    apply Safe.bind
    refine (serves.safe_quietly (by simp) ⟨by trivial, rfl⟩ failed).mono (fun _ _ same => same) (fun _ s₆ failed => ?_)
      fun _ _ same => same
    exact serves.safe_quietly (by simp) ⟨by trivial, rfl⟩ failed
  · rename_i retried
    exact ⟨standing₄, fun final => absurd final retried⟩

/-- The handler of a failed job leaves the job's own row as it is. -/
theorem Serves.safe_propagated (serves : Serves h db) (failed : Failed (db s) job) :
    Safe h (Answers h) (fun _ _ => True) (fun _ s' => Failed (db s') job) (fun _ s' => Failed (db s') job)
      (onServices (handleParentFailure job.data.jobId)) s := by
  apply safe_onServices
  have moves : Safe (services h) (fun s c => Answers h s (.service c)) _ _ _ _ s :=
    (serves.stores.safe_handleParentFailure failed.1.keyed job.data.jobId).only
      ((tends_handleParentFailure job.data.jobId).mono fun _ tends => tends.handles)
  refine (moves.keeping (fun s' => Failed (db s') job) (fun s' c permitted failed' => ?_) failed).mono
    (fun _ _ _ => trivial) (fun _ _ both => both.2) fun _ _ both => both.2
  refine ⟨serves.standing (c := .service c) permitted.2 failed'.1, fun final => ?_⟩
  rcases permitted.1 with marks | shifts
  · rw [serves.stores.marks_keep marks failed.1.acyclic]
    exact failed'.2 final
  · exact serves.stores.shifts_keep shifts (by simp) (failed'.2 final)

theorem safe_trivial {S : Signature} {ε α : Type} {h : Handler S ε σ} {assumed : σ → S.Call → Prop} (program : Program S ε α)
    (s : σ) : Safe h assumed (fun _ _ => True) (fun _ _ => True) (fun _ _ => True) program s :=
  (only_any program).safe (fun _ _ _ _ => trivial) (fun _ _ _ _ => trivial) trivial

/-- When every call is answered, what follows a success throws nothing. -/
theorem safe_succeeds (attempt : Attempt) (result : Option String) :
    Safe h (Answers h) (fun _ _ => True) (fun _ _ => True) (fun _ _ => False) (afterSuccess job attempt result) s := by
  have sure {α : Type} {program : WorkerProgram α} (calm : program.Calm) (steady : program.Only WorkerCall.Steady)
      (s : σ) : Safe h (Answers h) (fun _ _ => True) (fun _ _ => True) (fun _ _ => False) program s :=
    safe_calm calm steady (fun _ _ _ _ => trivial) trivial
  have single {c : WorkerCall} (steady : c.Steady) (s : σ) :
      Safe h (Answers h) (fun _ _ => True) (fun _ _ => True) (fun _ _ => False) (awaitWork c) s :=
    sure (calm_await _) (only_await (S := workerSignature) steady) s
  simp only [afterSuccess, bind_eq]
  apply Safe.bind
  refine (sure calm_clock steady_clock s).mono (fun _ _ same => same) (fun now s₁ _ => ?_) fun _ _ same => same
  apply Safe.bind
  refine (sure calm_clock steady_clock s₁).mono (fun _ _ same => same) (fun finish s₂ _ => ?_) fun _ _ same => same
  apply Safe.bind
  refine (sure (calm_query _) (steady_query (by trivial)) s₂).mono (fun _ _ same => same) (fun _ s₃ _ => ?_)
    fun _ _ same => same
  apply Safe.bind
  refine (sure (calm_query _) (steady_query (by trivial)) s₃).mono (fun _ _ same => same) (fun _ s₄ _ => ?_)
    fun _ _ same => same
  have closes (s : σ) : Safe h (Answers h) (fun _ _ => True) (fun _ _ => True) (fun _ _ => False)
      ((record (.jobCompleted job.queueName job.data.jobType job.data.priorityLevel
        (((finish : Rat) - attempt.executeStart) / 1000) attempt.waitSeconds)).bind
          fun _ => incrementCompleted job.queueName) s := by
    apply Safe.bind
    exact (single ⟨by trivial, rfl⟩ s).mono (fun _ _ same => same) (fun _ s' _ => single ⟨by trivial, rfl⟩ s')
      fun _ _ same => same
  split
  · apply Safe.bind
    apply Safe.capture
    exact (safe_trivial _ s₄).mono (fun _ _ same => same) (fun _ s₅ _ => closes s₅) fun _ s₅ _ => closes s₅
  · exact closes s₄

/-- What follows `process` throws only if `process` did. -/
theorem Serves.safe_failing (serves : Serves h db) (attempt : Attempt) (outcome : Except Err (Option String)) (s : σ) :
    Safe h (Answers h) (fun _ _ => True) (fun _ _ => True)
      (fun _ s' => outcome.toBool = false ∧ (Standing (db s) job.data.jobId → Failed (db s') job))
      (afterProcess job attempt outcome) s := by
  have ends (completion : Except Err Unit) {s₁ : σ} (unreturned : completion ≠ .ok () →
        outcome.toBool = false ∧ (Standing (db s) job.data.jobId → Failed (db s₁) job)) :
      Safe h (Answers h) (fun _ _ => True) (fun _ _ => True)
        (fun _ s' => outcome.toBool = false ∧ (Standing (db s) job.data.jobId → Failed (db s') job))
        (if outcome.toBool || isFinalFailure job then
          ((release job.data.tenantId job.queueName).capture).bind fun _ => .ofExcept completion
        else .ofExcept completion) s₁ := by
    have returns {s₂ : σ} (unreturned : completion ≠ .ok () →
          outcome.toBool = false ∧ (Standing (db s) job.data.jobId → Failed (db s₂) job)) :
        Safe h (Answers h) (fun _ _ => True) (fun _ _ => True)
          (fun _ s' => outcome.toBool = false ∧ (Standing (db s) job.data.jobId → Failed (db s') job))
          (.ofExcept completion) s₂ := by
      cases completion with
      | ok value => trivial
      | error error => exact unreturned (by simp)
    split
    · have same := serves.elsewhere s₁ (.release job.data.tenantId job.queueName) (by simp) rfl
      have later (unequal : completion ≠ .ok ()) : outcome.toBool = false ∧ (Standing (db s) job.data.jobId →
          Failed (db (h s₁ (.release job.data.tenantId job.queueName)).2) job) :=
        ⟨(unreturned unequal).1, fun standing => ((unreturned unequal).2 standing).jobs same.1 same.2⟩
      apply Safe.bind
      apply Safe.capture
      exact safe_await (S := workerSignature) (fun _ => trivial) (fun _ _ _ => returns later) fun _ _ _ => returns later
    · exact returns unreturned
  rw [afterProcess_eq]
  apply Safe.bind
  apply Safe.capture
  apply Safe.catching
  cases outcome with
  | ok result =>
    exact (safe_succeeds attempt result).mono (fun _ _ same => same) (fun _ _ _ => ends _ fun unequal => absurd rfl unequal)
      fun _ _ impossible => impossible.elim
  | error error =>
    by_cases standing : Standing (db s) job.data.jobId
    · have failure : Safe h (Answers h) (fun _ _ => True) (fun _ _ => False) (fun _ s' => Failed (db s') job)
          (afterFailure job attempt error) s := by
        rw [afterFailure_eq]
        apply Safe.bind
        refine (serves.safe_recordFailure attempt error standing).mono (fun _ _ same => same) (fun _ s₁ failed => ?_)
          fun _ _ same => same
        apply Safe.bind
        exact (serves.safe_propagated failed).mono (fun _ _ same => same) (fun _ _ failed => failed)
          fun _ _ failed => failed
      exact failure.mono (fun _ _ same => same) (fun _ _ impossible => impossible.elim)
        fun _ _ failed => ends _ fun _ => ⟨rfl, fun _ => failed⟩
    · have vacuous (completion : Except Err Unit) (s' : σ) := @ends completion s' fun _ =>
        ⟨rfl, fun standing' => absurd standing' standing⟩
      exact (safe_trivial (afterFailure job attempt error) s).mono (fun _ _ same => same) (fun _ s' _ => vacuous _ s')
        fun _ s' _ => vacuous _ s'

/-- An attempt throws only if `process` did, and the row of a last attempt is FAILED then. -/
theorem Serves.safe_fails (serves : Serves h db) (standing : Standing (db s) job.data.jobId) :
    Safe h (Answers h) (fun _ _ => True) (fun _ _ => True) (fun _ s' => Failed (db s') job) (execute job) s := by
  have keep (s : σ) (c : WorkerCall) (steady : c.Steady) (standing : Standing (db s) job.data.jobId) :
      Standing (db (h s c).2) job.data.jobId := serves.standing steady.1 standing
  have looks : (lookup job).Only WorkerCall.Steady :=
    steady_clock.bind fun _ => steady_clock.bind fun _ => (steady_query (by trivial)).bind fun _ => only_done _
  rw [execute_eq]
  apply Safe.bind
  refine (safe_calm (calm_lookup job) looks keep standing).mono (fun _ _ same => same) ?_ fun _ _ same => same
  rintro ⟨executeStart, now, existingJob⟩ s₁ standing₁
  dsimp only
  split
  · apply Safe.bind
    apply Safe.capture
    exact (safe_trivial _ s₁).mono (fun _ _ same => same) (fun _ _ _ => trivial) fun _ _ _ => trivial
  · have steady : (register job executeStart now existingJob).Only WorkerCall.Steady :=
      ((handles_register job executeStart now existingJob).and (preparatory_register job executeStart now existingJob)).mono
        fun _ both => ⟨both.1, both.2.bookkeeping.1⟩
    apply Safe.bind
    refine (safe_calm (calm_register job executeStart now existingJob) steady keep standing₁).mono (fun _ _ same => same)
      (fun attempt s₂ standing₂ => ?_) fun _ _ same => same
    have standing₃ := serves.standing (c := .process job) (by trivial) standing₂
    apply Safe.bind
    apply Safe.capture
    exact safe_await (S := workerSignature) (fun _ => trivial)
      (fun _ result _ => (serves.safe_failing attempt (.ok result) _).mono (fun _ _ same => same)
        (fun _ _ _ => trivial) fun _ _ both => both.2 standing₃)
      fun _ error _ => (serves.safe_failing attempt (.error error) _).mono (fun _ _ same => same)
        (fun _ _ _ => trivial) fun _ _ both => both.2 standing₃

end Parts
end OrchestrateModel
