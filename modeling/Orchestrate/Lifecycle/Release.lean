import Orchestrate.Lifecycle.Execute
import Orchestrate.Workflow.System

namespace OrchestrateModel

open Effect Program BaseProcessor

section Attempt

variable {σ : Type} {h : Handler workerSignature Err σ} {job : BullJob} {s : σ}
  {calls more : List (σ × WorkerCall)}

/-- How often the tenant's slot is released. -/
def releases (calls : List (σ × WorkerCall)) : Nat := calls.countP (·.2.isRelease)

/-- `process` succeeds. -/
def Works (h : Handler workerSignature Err σ) (calls : List (σ × WorkerCall)) : Prop :=
  ∃ v ∈ calls, v.2.isProcess = true ∧ ¬ Throws h v

/-- A call before the `try` block throws. -/
def CutShort (h : Handler workerSignature Err σ) (calls : List (σ × WorkerCall)) : Prop :=
  (∀ v ∈ calls, v.2.isProcess = false) ∧ ∃ v ∈ calls, v.2.isRelease = false ∧ Throws h v

instance (h : Handler workerSignature Err σ) (calls : List (σ × WorkerCall)) : Decidable (Works h calls) :=
  inferInstanceAs (Decidable (∃ v ∈ calls, _))

instance (h : Handler workerSignature Err σ) (calls : List (σ × WorkerCall)) : Decidable (CutShort h calls) :=
  inferInstanceAs (Decidable (_ ∧ ∃ v ∈ calls, _))

theorem releases_append (calls more : List (σ × WorkerCall)) :
    releases (calls ++ more) = releases calls + releases more := List.countP_append

theorem releases_bookkeeping (only : ∀ v ∈ calls, WorkerCall.Bookkeeping v.2) : releases calls = 0 := by
  rw [releases, List.countP_eq_zero]
  intro v member
  simp [(only v member).2]

/-- What follows `process`: unless a handler never ends, the slot is released after a success and after the
    last attempt. -/
theorem afterProcess_cases (h : Handler workerSignature Err σ) (job : BullJob) (attempt : Attempt)
    (outcome : Except Err (Option String)) (s : σ) :
    (∀ v ∈ visited h (afterProcess job attempt outcome) s, v.2.isProcess = false) ∧
      ((run h (afterProcess job attempt outcome) s).1 ≠ .hung →
        releases (visited h (afterProcess job attempt outcome) s) =
          if outcome.toBool || isFinalFailure job then 1 else 0) ∧
      (outcome.toBool = false → (run h (afterProcess job attempt outcome) s).1 ≠ .ok ()) := by
  have quiet := (bookkeeping_settle job attempt outcome).visited h s
  have failing : outcome.toBool = false → ∀ s', run h (settle job attempt outcome) s ≠ (.ok (), s') := by
    intro failed s'
    cases outcome with
    | ok result => simp [Except.toBool] at failed
    | error error =>
      rw [settle, run_catching, run_throws]
      exact afterFailure_throws h job attempt error s s'
  have finish (completion : Except Err Unit) (s' : σ)
      (captured : run h (settle job attempt outcome).capture s = (.ok completion, s'))
      (unreturned : outcome.toBool = false → completion ≠ .ok ()) :
      (∀ v ∈ visited h (afterProcess job attempt outcome) s, v.2.isProcess = false) ∧
        releases (visited h (afterProcess job attempt outcome) s) =
          (if outcome.toBool || isFinalFailure job then 1 else 0) ∧
        (outcome.toBool = false → (run h (afterProcess job attempt outcome) s).1 ≠ .ok ()) := by
    have ends (s : σ) : visited h (.ofExcept completion) s = [] := by cases completion <;> rfl
    have returns (s : σ) : completion ≠ .ok () → (run h (.ofExcept completion) s).1 ≠ .ok () := by
      intro unequal
      cases completion with
      | ok value => exact absurd rfl unequal
      | error error => simp [Program.ofExcept]
    rw [afterProcess_eq, visited_bind_ok h captured, run_bind_ok h captured, visited_capture]
    split
    · have released := visited_capture_await h (.release job.data.tenantId job.queueName)
        (fun _ => .ofExcept completion) s'
      have answered := run_capture_await h (.release job.data.tenantId job.queueName) s'
      have passed : run h (((release job.data.tenantId job.queueName).capture).bind fun _ => .ofExcept completion) s' =
          run h (.ofExcept completion) _ := run_bind_ok h answered
      rw [ends] at released
      refine ⟨?_, ?_, fun failed => ?_⟩
      · intro v member
        rcases List.mem_append.mp member with before | last
        · exact (quiet v before).1
        · rw [release, awaitWork, released, List.mem_singleton] at last
          rw [last]
          rfl
      · rw [releases_append, releases_bookkeeping quiet, release, awaitWork, released]
        rfl
      · rw [passed]
        exact returns _ (unreturned failed)
    · rw [ends, List.append_nil]
      exact ⟨fun v member => (quiet v member).1, releases_bookkeeping quiet,
        fun failed => returns _ (unreturned failed)⟩
  cases result : run h (settle job attempt outcome) s with
  | mk ended s' =>
    have captured := run_capture h (settle job attempt outcome) s
    rw [result] at captured
    cases ended with
    | hung =>
      rw [afterProcess_eq, visited_bind_hung h captured, run_bind_hung h captured, visited_capture]
      exact ⟨fun v member => (quiet v member).1, by simp, by simp⟩
    | ok value =>
      have finished := finish (.ok value) s' captured fun failed => absurd result (failing failed s')
      exact ⟨finished.1, fun _ => finished.2.1, finished.2.2⟩
    | thrown error =>
      have finished := finish (.error error) s' captured (by simp)
      exact ⟨finished.1, fun _ => finished.2.1, finished.2.2⟩

/-- An attempt ends before its `try` block, or it is skipped as already completed, or `process` is called. -/
theorem execute_shape (h : Handler workerSignature Err σ) (job : BullJob) (s : σ) :
    (∃ error, (run h (execute job) s).1 = .thrown error ∧ (∀ v ∈ visited h (execute job) s, v.2.Preparatory) ∧
      ∃ v ∈ visited h (execute job) s, Throws h v) ∨
    (∃ before s₁, visited h (execute job) s = before ++ [(s₁, .release job.data.tenantId job.queueName)] ∧
      (∀ v ∈ before, v.2.Preparatory ∧ ¬ Throws h v) ∧ (run h (execute job) s).1 = .ok ()) ∨
    (∃ before s₁ attempt, visited h (execute job) s = before ++ (s₁, .process job) ::
        visited h (afterProcess job attempt (h s₁ (.process job)).1) (h s₁ (.process job)).2 ∧
      (∀ v ∈ before, v.2.Preparatory) ∧
      run h (execute job) s = run h (afterProcess job attempt (h s₁ (.process job)).1) (h s₁ (.process job)).2) := by
  have looked := (preparatory_lookup job).visited h s
  rw [execute_eq]
  rcases (calm_lookup job).cases s with ⟨⟨⟨executeStart, now, existingJob⟩, s₁, ran⟩, none⟩ | ⟨⟨error, s₁, ran⟩, threw⟩
  · rw [visited_bind_ok h ran, run_bind_ok h ran]
    dsimp only
    split
    · have released := visited_capture_await h (.release job.data.tenantId job.queueName)
        (fun _ => (.done () : WorkerProgram Unit)) s₁
      have passed : run h (((release job.data.tenantId job.queueName).capture).bind fun _ => .done ()) s₁ =
          run h (.done ()) _ := run_bind_ok h (run_capture_await h (.release job.data.tenantId job.queueName) s₁)
      rw [passed, release, awaitWork, released]
      exact .inr (.inl ⟨_, s₁, rfl, fun v member => ⟨looked v member, none v member⟩, rfl⟩)
    · have registered := (preparatory_register job executeStart now existingJob).visited h s₁
      rcases (calm_register job executeStart now existingJob).cases s₁ with
        ⟨⟨attempt, s₂, ran'⟩, _⟩ | ⟨⟨error, s₂, ran'⟩, v, member, threw⟩
      · rw [visited_bind_ok h ran', run_bind_ok h ran']
        have worked := visited_capture_await h (.process job) (afterProcess job attempt) s₂
        have passed : run h ((process job).capture.bind (afterProcess job attempt)) s₂ =
            run h (afterProcess job attempt _) _ := run_bind_ok h (run_capture_await h (.process job) s₂)
        rw [passed, process, awaitWork, worked, ← List.append_assoc]
        exact .inr (.inr ⟨_, s₂, attempt, rfl, List.forall_mem_append.mpr ⟨looked, registered⟩, rfl⟩)
      · rw [visited_bind_thrown h ran', run_bind_thrown h ran']
        exact .inl ⟨error, rfl, List.forall_mem_append.mpr ⟨looked, registered⟩, v, List.mem_append_right _ member, threw⟩
  · rw [visited_bind_thrown h ran, run_bind_thrown h ran]
    exact .inl ⟨error, rfl, looked, threw⟩

theorem works_iff {before after : List (σ × WorkerCall)} {s₁ : σ}
    (unprocessed : ∀ v ∈ before, v.2.isProcess = false) (unprocessed' : ∀ v ∈ after, v.2.isProcess = false) :
    Works h (before ++ (s₁, .process job) :: after) ↔ (h s₁ (.process job)).1.toBool = true := by
  constructor
  · rintro ⟨v, member, process, answered⟩
    rcases List.mem_append.mp member with early | member
    · simp [unprocessed v early] at process
    · rcases List.mem_cons.mp member with rfl | later
      · simpa [Throws] using answered
      · simp [unprocessed' v later] at process
  · intro answered
    refine ⟨(s₁, .process job), by simp, rfl, ?_⟩
    simp [Throws, answered]

/-- An attempt is cut short, or it is skipped as already completed, or `process` is called. -/
theorem execute_cases (h : Handler workerSignature Err σ) (job : BullJob) (s : σ) :
    (CutShort h (visited h (execute job) s) ∧ ¬ Works h (visited h (execute job) s) ∧
      releases (visited h (execute job) s) = 0 ∧ ∃ error, (run h (execute job) s).1 = .thrown error) ∨
    (¬ CutShort h (visited h (execute job) s) ∧ ¬ Works h (visited h (execute job) s) ∧
      releases (visited h (execute job) s) = 1 ∧ (run h (execute job) s).1 = .ok ()) ∨
    (¬ CutShort h (visited h (execute job) s) ∧
      ((run h (execute job) s).1 ≠ .hung → releases (visited h (execute job) s) =
        if Works h (visited h (execute job) s) ∨ isFinalFailure job = true then 1 else 0) ∧
      (¬ Works h (visited h (execute job) s) → (run h (execute job) s).1 ≠ .ok ())) := by
  rcases execute_shape h job s with
    ⟨error, thrown, prepares, v, member, throws⟩ | ⟨before, s₁, shape, passed, returned⟩ |
      ⟨before, s₁, attempt, shape, prepares, same⟩
  · have quiet (v : σ × WorkerCall) (member : v ∈ visited h (execute job) s) := (prepares v member).bookkeeping
    refine .inl ⟨⟨fun v member => (quiet v member).1, v, member, (quiet v member).2, throws⟩, ?_,
      releases_bookkeeping quiet, error, thrown⟩
    rintro ⟨w, member, process, _⟩
    simp [(quiet w member).1] at process
  · rw [shape]
    refine .inr (.inl ⟨?_, ?_, ?_, returned⟩)
    · rintro ⟨_, v, member, unreleased, throws⟩
      rcases List.mem_append.mp member with early | last
      · exact (passed v early).2 throws
      · rw [List.mem_singleton] at last
        simp [last, WorkerCall.isRelease] at unreleased
    · rintro ⟨v, member, process, _⟩
      rcases List.mem_append.mp member with early | last
      · simp [(passed v early).1.bookkeeping.1] at process
      · rw [List.mem_singleton] at last
        simp [last, WorkerCall.isProcess] at process
    · rw [releases_append, releases_bookkeeping fun v early => (passed v early).1.bookkeeping]
      rfl
  · obtain ⟨unprocessed, released, unreturned⟩ := afterProcess_cases h job attempt (h s₁ (.process job)).1
      (h s₁ (.process job)).2
    have quiet (v : σ × WorkerCall) (early : v ∈ before) := (prepares v early).bookkeeping
    rw [shape, same]
    set after := visited h (afterProcess job attempt (h s₁ (.process job)).1) (h s₁ (.process job)).2
    have works : Works h (before ++ (s₁, .process job) :: after) ↔ (h s₁ (.process job)).1.toBool = true :=
      works_iff (fun v early => (quiet v early).1) unprocessed
    refine .inr (.inr ⟨?_, fun ends => ?_, fun unworked => ?_⟩)
    · rintro ⟨unprocessed, _⟩
      have process := unprocessed (s₁, .process job) (by simp)
      simp [WorkerCall.isProcess] at process
    · have count : releases ((s₁, .process job) :: after) = releases after := by simp [releases, WorkerCall.isRelease]
      rw [releases_append, releases_bookkeeping quiet, count, released ends]
      simp only [works, Bool.or_eq_true, Nat.zero_add]
    · rw [works, Bool.not_eq_true] at unworked
      exact unreturned unworked

/-- BullMQ's runs of a job, until one returns or no attempt is left. -/
abbrev Executions (h : Handler workerSignature Err σ) (job : BullJob) :
    Nat → σ → List (List (σ × WorkerCall)) → σ → Prop :=
  Attempts h job.opts.attempts fun made => execute { job with attemptsMade := made }

theorem isFinalFailure_made (job : BullJob) (made : Nat) :
    isFinalFailure { job with attemptsMade := made } = true ↔ job.opts.attempts ≤ made + 1 := by
  simp [isFinalFailure]

theorem releases_executions {made : Nat} {s' : σ} {tries : List (List (σ × workerSignature.Call))}
    (concluded : Executions h job made s tries s') :
    ∃ earlier last, tries = earlier ++ [last] ∧ releases tries.flatten =
      earlier.countP (fun calls => Works h calls) + if CutShort h last then 0 else 1 := by
  induction concluded with
  | @returns made s s' ran =>
    refine ⟨[], _, rfl, ?_⟩
    have outcome := congrArg Prod.fst ran
    rw [List.flatten_singleton, List.countP_nil, Nat.zero_add]
    rcases execute_cases h { job with attemptsMade := made } s with
      ⟨_, _, _, error, thrown⟩ | ⟨uncut, _, released, _⟩ | ⟨uncut, released, unreturned⟩
    · rw [outcome] at thrown
      cases thrown
    · rw [if_neg uncut, released]
    · have works : Works h (visited h (execute { job with attemptsMade := made }) s) := by
        by_contra unworked
        exact unreturned unworked outcome
      have ended : (run h (execute { job with attemptsMade := made }) s).1 ≠ .hung := by simp [outcome]
      rw [if_neg uncut, released ended, if_pos (.inl works)]
  | @exhausted made s s' error ran last =>
    refine ⟨[], _, rfl, ?_⟩
    have outcome := congrArg Prod.fst ran
    rw [List.flatten_singleton, List.countP_nil, Nat.zero_add]
    rcases execute_cases h { job with attemptsMade := made } s with
      ⟨cut, _, unreleased, _⟩ | ⟨_, _, _, returned⟩ | ⟨uncut, released, _⟩
    · rw [if_pos cut, unreleased]
    · rw [outcome] at returned
      cases returned
    · have ended : (run h (execute { job with attemptsMade := made }) s).1 ≠ .hung := by simp [outcome]
      rw [if_neg uncut, released ended, if_pos (.inr ((isFinalFailure_made job made).mpr last))]
  | @again made s s₁ s' error later ran more rest ih =>
    obtain ⟨earlier, last, split, count⟩ := ih
    refine ⟨_ :: earlier, last, by rw [split]; rfl, ?_⟩
    have outcome := congrArg Prod.fst ran
    have retried : ¬ isFinalFailure { job with attemptsMade := made } = true := by
      rw [isFinalFailure_made]
      omega
    have first : releases (visited h (execute { job with attemptsMade := made }) s) =
        if Works h (visited h (execute { job with attemptsMade := made }) s) then 1 else 0 := by
      rcases execute_cases h { job with attemptsMade := made } s with
        ⟨_, unworked, unreleased, _⟩ | ⟨_, _, _, returned⟩ | ⟨_, released, _⟩
      · rw [if_neg unworked, unreleased]
      · rw [outcome] at returned
        cases returned
      · have ended : (run h (execute { job with attemptsMade := made }) s).1 ≠ .hung := by simp [outcome]
        rw [released ended]
        by_cases works : Works h (visited h (execute { job with attemptsMade := made }) s)
        · rw [if_pos (.inl works), if_pos works]
        · rw [if_neg (not_or.mpr ⟨works, retried⟩), if_neg works]
    rw [List.flatten_cons, releases_append, first, count, List.countP_cons]
    simp only [decide_eq_true_eq]
    omega

/-- The slot is released once unless an attempt that is not the last one works, or the last one is cut
    short; if both happen, it is when only one earlier attempt works. -/
theorem released_once_iff {s' : σ} {earlier : List (List (σ × WorkerCall))} {last : List (σ × WorkerCall)}
    (concluded : Executions h job 0 s (earlier ++ [last]) s') :
    releases (earlier ++ [last]).flatten = 1 ↔
      ((∀ calls ∈ earlier, ¬ Works h calls) ∧ ¬ CutShort h last) ∨
        (earlier.countP (fun calls => Works h calls) = 1 ∧ CutShort h last) := by
  obtain ⟨earlier', last', split, count⟩ := releases_executions concluded
  obtain ⟨rfl, same⟩ := List.append_inj' split rfl
  obtain rfl := List.singleton_inj.mp same
  have unworked : (∀ calls ∈ earlier, ¬ Works h calls) ↔ earlier.countP (fun calls => Works h calls) = 0 := by
    simp [List.countP_eq_zero]
  rw [count, unworked]
  by_cases cut : CutShort h last
  · simp [cut]
  · simp [cut]

end Attempt

/-- A job outside of any workflow with two attempts. -/
def soloPayload : JobQueuePayload :=
  { jobId := 0, jobType := "send_email", tenantId := "t", retries := 2, queueName := "email-jobs" }

def solo : BullJob :=
  { data := soloPayload, opts := jobsOptions soloPayload, attemptsMade := 0, queueName := "email-jobs", timestamp := 0 }

def soloStore : Db × Unit :=
  ({ Db.empty with
      jobs := [{ type := "send_email", retries := 2, tenantId := "t", userId := "u", id := 0, createdAt := 0 }]
      drawn := 1 }, ())

/-- The worker of this job: `process` has a given outcome, and calls fail as a list says. -/
def soloWorker (outcome : Except Err (Option String)) : Handler workerSignature Err (List (Option Err) × Db × Unit) :=
  failing WorkerCall.isAwaited (work Env.plain (fun g _ => (.ok .QUEUED, g)) outcome)

def lost : Err := { message := "connection lost" }

/-- The first attempt fails in `process`, the second one succeeds. -/
def failsOnce : List (Option Err) := List.replicate 7 none ++ [some lost]

theorem released_once_failsOnce : ∃ first last s',
    Executions (soloWorker (.ok none)) solo 0 (failsOnce, soloStore) ([first] ++ [last]) s' ∧
      releases first = 0 ∧ releases ([first] ++ [last]).flatten = 1 := by
  have concluded : Executions (soloWorker (.ok none)) solo 0 (failsOnce, soloStore) ([_] ++ [_]) _ :=
    .again rfl (by decide) (.returns rfl)
  exact ⟨_, _, _, concluded, by decide +kernel, (released_once_iff concluded).mpr (.inl (by decide +kernel))⟩

/-- The slot is released twice: after `process` succeeds `incrementCompleted` throws, and the next attempt finds
    the job already completed. -/
theorem released_twice : ∃ tries s',
    Executions (soloWorker (.ok none)) solo 0 (List.replicate 10 none ++ [some lost], soloStore) tries s' ∧
      releases tries.flatten = 2 :=
  ⟨_, _, .again rfl (by decide) (.returns rfl), by decide +kernel⟩

end OrchestrateModel
