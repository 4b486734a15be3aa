import Orchestrate.Lifecycle.Standing
import Orchestrate.Model.Worker

namespace OrchestrateModel

open Effect Program BaseProcessor BaseWorker

section Counting

variable {S : Signature} {ε α β σ : Type} {h : Handler S ε σ} {counted : S.Call → Bool} {program : Program S ε α} {s : σ}

/-- How many calls of a kind there are. -/
def tally (counted : S.Call → Bool) (calls : List (σ × S.Call)) : Nat := calls.countP fun v => counted v.2

theorem tally_append (calls more : List (σ × S.Call)) :
    tally counted (calls ++ more) = tally counted calls + tally counted more := List.countP_append

theorem tally_only (only : program.Only fun c => counted c = false) : tally counted (visited h program s) = 0 := by
  rw [tally, List.countP_eq_zero]
  intro v member
  simp [only.visited h s v member]

/-- What follows makes no such call. -/
theorem tally_bind {next : α → Program S ε β} (rest : ∀ value, (next value).Only fun c => counted c = false) :
    tally counted (visited h (program.bind next) s) = tally counted (visited h program s) := by
  rw [visited_bind, tally_append]
  split
  · rw [tally_only (rest _), Nat.add_zero]
  · rfl
  · rfl

/-- A part that returns and makes no such call. -/
theorem tally_after {next : α → Program S ε β} {n : Nat} (only : program.Only fun c => counted c = false)
    (returns : ∃ value s', run h program s = (.ok value, s'))
    (rest : ∀ value s', tally counted (visited h (next value) s') = n) :
    tally counted (visited h (program.bind next) s) = n := by
  obtain ⟨value, s', ran⟩ := returns
  rw [visited_bind_ok h ran, tally_append, tally_only only, rest, Nat.zero_add]

end Counting

section Thrown

variable {σ : Type} {h : Handler workerSignature Err σ} {db : σ → Db} {job : BullJob} {s s' : σ} {error : Err}

/-- How often the failed counter is incremented. -/
def failures (calls : List (σ × WorkerCall)) : Nat := tally (S := workerSignature) WorkerCall.isIncrementFailed calls

theorem failures_recordFailure (answers : ∀ s c, Answers h s c) (attempt : Attempt) (error : Err) :
    failures (visited h (recordFailure job attempt error) s) = if isFinalFailure job then 1 else 0 := by
  have returns {α : Type} {program : WorkerProgram α} (calm : program.Calm)
      (steady : program.Only WorkerCall.Steady) (s : σ) : ∃ value s', run h program s = (.ok value, s') := by
    rcases calm.cases s with ⟨done, _⟩ | ⟨_, v, member, threw⟩
    · exact done
    · exact absurd threw (answers v.1 v.2 (steady.visited h s v member))
  have uncounted {α : Type} (program : ServiceProgram α) :
      (onServices program).Only fun c : WorkerCall => c.isIncrementFailed = false :=
    (preparatory_onServices program).mono fun _ prepares => prepares.uncounted
  simp only [recordFailure, bind_eq, pure_eq_done]
  apply tally_after (uncounted _) (returns calm_clock steady_clock s)
  intro now s₁
  apply tally_after (uncounted _) (returns calm_clock steady_clock s₁)
  intro finish s₂
  apply tally_after (uncounted _) (returns (calm_query _) (steady_query (by trivial)) s₂)
  intro _ s₃
  apply tally_after (uncounted _) (returns (calm_query _) (steady_query (by trivial)) s₃)
  intro _ s₄
  split
  · apply tally_after (uncounted _) (returns (calm_query _) (steady_query (by trivial)) s₄)
    intro _ s₅
    apply tally_after (only_await (S := workerSignature) rfl)
      (returns (calm_await _) (only_await (S := workerSignature) ⟨by trivial, rfl⟩) s₅)
    intro _ s₆
    rw [incrementFailed, awaitWork, visited_await]
    rfl
  · rfl

theorem failures_afterProcess (answers : ∀ s c, Answers h s c) (job : BullJob) (attempt : Attempt)
    {outcome : Except Err (Option String)} (failed : outcome.toBool = false) (s : σ) :
    failures (visited h (afterProcess job attempt outcome) s) = if isFinalFailure job then 1 else 0 := by
  cases outcome with
  | ok result => cases failed
  | error error =>
    have releasing (completion : Except Err Unit) : Program.Only (fun c : WorkerCall => c.isIncrementFailed = false)
        (if (Except.error error : Except Err (Option String)).toBool || isFinalFailure job then
          ((release job.data.tenantId job.queueName).capture).bind fun _ => .ofExcept completion
        else .ofExcept completion) := by
      split
      · refine Only.bind (Only.capture ?_) fun _ => only_ofExcept completion
        exact only_await (S := workerSignature) (c := .release job.data.tenantId job.queueName) rfl
      · exact only_ofExcept completion
    have settled : visited h (settle job attempt (.error error)) s = visited h (afterFailure job attempt error) s := rfl
    have propagates : (onServices (ChainService.handleParentFailure job.data.jobId)).Only
        fun c : WorkerCall => c.isIncrementFailed = false :=
      (preparatory_onServices _).mono fun _ prepares => prepares.uncounted
    rw [failures, afterProcess_eq, tally_bind releasing, visited_capture, settled, afterFailure_eq]
    rw [tally_bind fun _ => propagates.bind fun _ => only_throws error]
    exact failures_recordFailure answers attempt error

/-- An attempt that throws while everything but the work is answered: the slot is released and the failure counted
    exactly if no other attempt follows, and the row is FAILED then. -/
theorem Serves.execute_thrown (serves : Serves h db) (answers : ∀ s c, Answers h s c)
    (standing : Standing (db s) job.data.jobId) (ran : run h (execute job) s = (.thrown error, s')) :
    Failed (db s') job ∧ releases (visited h (execute job) s) = (if isFinalFailure job then 1 else 0) ∧
      failures (visited h (execute job) s) = if isFinalFailure job then 1 else 0 := by
  refine ⟨(serves.safe_fails standing).rethrows (fun v _ => answers v.1 v.2) ran, ?_⟩
  have outcome := congrArg Prod.fst ran
  rcases execute_shape h job s with
    ⟨_, _, prepares, v, member, throws⟩ | ⟨_, _, _, _, returned⟩ | ⟨before, s₁, attempt, shape, prepares, same⟩
  · exact absurd throws (answers v.1 v.2 ⟨(handles_execute job).visited h s v member, (prepares v member).bookkeeping.1⟩)
  · rw [outcome] at returned
    cases returned
  · rw [same] at ran
    have threw := ((serves.safe_failing attempt _ _).rethrows (fun v _ => answers v.1 v.2) ran).1
    obtain ⟨_, released, _⟩ := afterProcess_cases h job attempt (h s₁ (.process job)).1 (h s₁ (.process job)).2
    have released := released (by rw [ran]; simp)
    have counted := failures_afterProcess answers job attempt threw (h s₁ (.process job)).2
    rw [threw, Bool.false_or] at released
    have none : releases before = 0 ∧ failures before = 0 := by
      refine ⟨releases_bookkeeping fun v early => (prepares v early).bookkeeping, ?_⟩
      rw [failures, tally, List.countP_eq_zero]
      intro v early
      simp [(prepares v early).uncounted]
    rw [shape]
    constructor
    · rw [releases_append, none.1, Nat.zero_add, ← released]
      simp [releases, WorkerCall.isRelease]
    · rw [failures, tally_append, ← failures, none.2, Nat.zero_add, ← counted]
      simp [failures, tally, WorkerCall.isIncrementFailed]

end Thrown
section Host

variable {σ : Type} {h : Handler hostSignature Err σ} {db : σ → Db} {job : BullJob} {j : JobId} {s s' : σ} {error : Err}
  {tenantRateLimit : Option Int}

/-- The worker process's environment as the processor sees it. -/
abbrev worker (h : Handler hostSignature Err σ) : Handler workerSignature Err σ := fun s c => h s (.work c)

theorem run_onWorker {α : Type} (program : WorkerProgram α) (s : σ) :
    run h (onWorker program) s = run (worker h) program s := by
  induction program generalizing s with
  | call c next ih => exact ih _ _
  | _ => rfl

theorem visited_onWorker {α : Type} (program : WorkerProgram α) (s : σ) :
    visited h (onWorker program) s = (visited (worker h) program s).map fun v => (v.1, .work v.2) := by
  induction program generalizing s with
  | call c next ih =>
    rw [onWorker, visited, visited, List.map_cons, ih]
  | _ => rfl

namespace HostCall

def isRelease : HostCall → Bool
  | .work c => c.isRelease
  | _ => false

def isIncrementFailed : HostCall → Bool
  | .work c => c.isIncrementFailed
  | _ => false

def isDeadLetterAdd : HostCall → Bool
  | .deadLetterAdd _ _ _ _ _ => true
  | _ => false

end HostCall

theorem tally_onWorker {α : Type} (counted : HostCall → Bool) (program : WorkerProgram α) (s : σ) :
    tally (S := hostSignature) counted (visited h (onWorker program) s) =
      tally (S := workerSignature) (fun c => counted (.work c)) (visited (worker h) program s) := by
  rw [visited_onWorker, tally, List.countP_map]
  rfl

/-- A call that is no work and adds no row. -/
def HostCall.Steady : HostCall → Prop
  | .work c => c.Steady
  | _ => True

/-- A worker process's environment over a database in which every call but the work itself succeeds. -/
structure Hosts (h : Handler hostSignature Err σ) (db : σ → Db) : Prop where
  serves : Serves (worker h) db
  elsewhere : ∀ s c, (∀ call, c ≠ .work call) → (db (h s c).2).jobs = (db s).jobs ∧ (db (h s c).2).deps = (db s).deps
  answers : ∀ s c, HostCall.Steady c → (h s c).1.toBool = true

/-- The counter of the tenant's jobs in this minute is above the limit. -/
def overLimit (h : Handler hostSignature Err σ) (tenantRateLimit : Option Int) : σ × HostCall → Bool
  | (s, .incr key) =>
    match (h s (.incr key)).1, tenantRateLimit with
    | .ok current, some limit => current > limit
    | _, _ => false
  | _ => false

/-- The rate limiter rejects the attempt. -/
def Rejected (h : Handler hostSignature Err σ) (tenantRateLimit : Option Int) (calls : List (σ × HostCall)) : Prop :=
  ∃ v ∈ calls, overLimit h tenantRateLimit v = true

instance (h : Handler hostSignature Err σ) (tenantRateLimit : Option Int) (calls : List (σ × HostCall)) :
    Decidable (Rejected h tenantRateLimit calls) := inferInstanceAs (Decidable (∃ v ∈ calls, _))

namespace Hosts

theorem answered (hosts : Hosts h db) {c : HostCall} (steady : c.Steady) (s : σ) :
    ∃ reply, (h s c).1 = .ok reply := by
  have answered := hosts.answers s c steady
  cases answer : (h s c).1 with
  | ok reply => exact ⟨reply, rfl⟩
  | error error =>
    rw [answer] at answered
    cases answered

theorem standing (hosts : Hosts h db) {c : HostCall} (other : ∀ call, c ≠ .work call) (standing : Standing (db s) j) :
    Standing (db (h s c).2) j := by
  obtain ⟨jobs, deps⟩ := hosts.elsewhere s c other
  exact standing.kept (by rw [jobs]) (by simp only [Db.edges, deps])

theorem renewRate_returns (hosts : Hosts h db) (tenantId : TenantId) (now : Nat) (current : Int)
    (standing : Standing (db s) j) :
    ∃ s', run h (renewRate tenantId now current) s = (.ok (), s') ∧ Standing (db s') j ∧
      ∀ limit, ¬ Rejected h limit (visited h (renewRate tenantId now current) s) := by
  unfold renewRate
  split
  · obtain ⟨_, expired⟩ := hosts.answered (c := .expire (redisKey tenantId now) 60) trivial s
    refine ⟨_, run_await_ok h (Prod.ext expired rfl), hosts.standing (by simp) standing, fun limit => ?_⟩
    rw [awaitHost, visited_await]
    simp [Rejected, overLimit]
  · exact ⟨s, rfl, standing, by simp [Rejected, visited]⟩

/-- The rate limiter lets the attempt pass, or it throws because the counter is above the limit. -/
theorem limitRate_cases (hosts : Hosts h db) (tenantRateLimit : Option Int) (job : BullJob)
    (standing : Standing (db s) j) :
    ∃ s', Standing (db s') j ∧
      ((run h (limitRate tenantRateLimit job) s = (.ok (), s') ∧
          ¬ Rejected h tenantRateLimit (visited h (limitRate tenantRateLimit job) s)) ∨
        ((∃ error, run h (limitRate tenantRateLimit job) s = (.thrown error, s')) ∧
          Rejected h tenantRateLimit (visited h (limitRate tenantRateLimit job) s))) := by
  have unlimited (passes : limitRate tenantRateLimit job = .done ()) : ∃ s', Standing (db s') j ∧
      ((run h (limitRate tenantRateLimit job) s = (.ok (), s') ∧
          ¬ Rejected h tenantRateLimit (visited h (limitRate tenantRateLimit job) s)) ∨
        ((∃ error, run h (limitRate tenantRateLimit job) s = (.thrown error, s')) ∧
          Rejected h tenantRateLimit (visited h (limitRate tenantRateLimit job) s))) := by
    rw [passes]
    exact ⟨s, standing, .inl ⟨rfl, by simp [Rejected, visited]⟩⟩
  cases tenantRateLimit with
  | none => exact unlimited rfl
  | some limit =>
    by_cases limited : limit > 0 ∧ job.data.tenantId ≠ ""
    · obtain ⟨now, told⟩ := hosts.answered (c := .work (.service .now)) ⟨trivial, rfl⟩ s
      have standing₁ := hosts.serves.standing (c := .service .now) trivial standing
      set s₁ := (h s (.work (.service .now))).2
      obtain ⟨current, counted⟩ := hosts.answered (c := .incr (redisKey job.data.tenantId now)) trivial s₁
      have standing₂ := hosts.standing (c := .incr (redisKey job.data.tenantId now)) (by simp) standing₁
      set s₂ := (h s₁ (.incr (redisKey job.data.tenantId now))).2
      obtain ⟨s₃, renewed, standing₃, unrejected⟩ := hosts.renewRate_returns job.data.tenantId now current standing₂
      have ticked : run h (onWorker (onServices clock)) s = (.ok now, s₁) := by
        rw [run_onWorker, clock, onServices_await]
        exact run_await_ok (S := workerSignature) (worker h) (Prod.ext told rfl)
      have incremented : run h (awaitHost (.incr (redisKey job.data.tenantId now))) s₁ = (.ok current, s₂) :=
        run_await_ok (S := hostSignature) h (Prod.ext counted rfl)
      have clocked : visited h (onWorker (onServices clock)) s = [(s, .work (.service .now))] := by
        rw [visited_onWorker, clock, onServices_await, awaitWork, visited_await]
        rfl
      have judged : visited h (judgeRate limit job.data.tenantId current) s₃ = [] := by
        unfold judgeRate
        split <;> rfl
      rw [limitRate_eq limited, run_bind_ok h ticked, run_bind_ok h incremented, run_bind_ok h renewed,
        visited_bind_ok h ticked, visited_bind_ok h incremented, visited_bind_ok h renewed, judged, clocked, awaitHost,
        visited_await, List.append_nil]
      have rejected : Rejected h (some limit) ([(s, .work (.service .now))] ++ ([(s₁, .incr (redisKey job.data.tenantId now))] ++
          visited h (renewRate job.data.tenantId now current) s₂)) ↔ current > limit := by
        have first : overLimit h (some limit) (s₁, .incr (redisKey job.data.tenantId now)) = decide (current > limit) := by
          simp [overLimit, counted]
        constructor
        · rintro ⟨v, member, concluded⟩
          rcases List.mem_append.mp member with clock | member
          · rw [List.mem_singleton.mp clock] at concluded
            cases concluded
          · rcases List.mem_append.mp member with incr | renew
            · rw [List.mem_singleton.mp incr, first] at concluded
              exact of_decide_eq_true concluded
            · exact absurd ⟨v, renew, concluded⟩ (unrejected (some limit))
        · intro concluded
          exact ⟨_, by simp, first.trans (decide_eq_true concluded)⟩
      rw [rejected]
      refine ⟨s₃, standing₃, ?_⟩
      unfold judgeRate
      split
      · rename_i concluded
        exact .inr ⟨⟨_, rfl⟩, concluded⟩
      · rename_i within
        exact .inl ⟨rfl, within⟩
    · exact unlimited (if_neg limited)

end Hosts

/-- The calls of the rate limiter. -/
def HostCall.Throttles : HostCall → Prop
  | .work (.service _) | .incr _ | .expire _ _ => True
  | _ => False

theorem throttles_limitRate (tenantRateLimit : Option Int) (job : BullJob) :
    (limitRate tenantRateLimit job).Only HostCall.Throttles := by
  cases tenantRateLimit with
  | none => exact only_done _
  | some limit =>
    by_cases limited : limit > 0 ∧ job.data.tenantId ≠ ""
    · rw [limitRate_eq limited]
      have clocks : (onWorker (onServices clock)).Only HostCall.Throttles :=
        ⟨trivial, fun reply => by cases reply <;> trivial⟩
      refine clocks.bind fun now => Only.bind (only_await (S := hostSignature) trivial) fun current => ?_
      refine Only.bind ?_ fun _ => ?_
      · unfold renewRate
        split
        · exact only_await (S := hostSignature) trivial
        · exact only_done _
      · unfold judgeRate
        split <;> trivial
    · have passes : limitRate (some limit) job = .done () := if_neg limited
      rw [passes]
      exact only_done _

theorem HostCall.Throttles.uncounted {c : HostCall} (throttles : c.Throttles) :
    c.isRelease = false ∧ c.isIncrementFailed = false ∧ c.isDeadLetterAdd = false := by
  cases c with
  | work call => cases call <;> first | exact ⟨rfl, rfl, rfl⟩ | exact throttles.elim
  | incr | expire => exact ⟨rfl, rfl, rfl⟩
  | deadLetterAdd => exact throttles.elim

theorem works_onWorker {α : Type} {program : WorkerProgram α} (v : σ × HostCall)
    (member : v ∈ visited h (onWorker program) s) : ∃ c, v.2 = .work c := by
  rw [visited_onWorker] at member
  obtain ⟨w, _, rfl⟩ := List.mem_map.mp member
  exact ⟨w.2, rfl⟩

/-- The processor's own calls are neither counted by the rate limiter nor added to the dead-letter queue. -/
theorem unrejected_onWorker {α : Type} {program : WorkerProgram α} :
    ¬ Rejected h tenantRateLimit (visited h (onWorker program) s) := by
  rintro ⟨⟨s, call⟩, member, concluded⟩
  obtain ⟨c, rfl⟩ := works_onWorker _ member
  cases concluded

theorem undead_onWorker {α : Type} {program : WorkerProgram α} (v : σ × HostCall)
    (member : v ∈ visited h (onWorker program) s) : v.2.isDeadLetterAdd = false := by
  obtain ⟨c, work⟩ := works_onWorker v member
  rw [work]
  rfl

theorem rejected_append {calls more : List (σ × HostCall)} : Rejected h tenantRateLimit (calls ++ more) ↔
    Rejected h tenantRateLimit calls ∨ Rejected h tenantRateLimit more := by
  simp [Rejected, or_and_right, exists_or]

/-- What `failed` adds to the dead-letter queue. -/
def deadLetters (job : BullJob) (s : σ) : List (σ × HostCall) :=
  if isFinalFailure job then [(s, .deadLetterAdd (job.queueName ++ "_DLQ") job.data.jobType job.data false false)] else []

namespace Hosts

theorem onFailed_returns (hosts : Hosts h db) (job : BullJob) (standing : Standing (db s) j) :
    visited h (onFailed { job with attemptsMade := job.attemptsMade + 1 }) s = deadLetters job s ∧
      ∃ s', run h (onFailed { job with attemptsMade := job.attemptsMade + 1 }) s = (.ok (), s') ∧ Standing (db s') j := by
  by_cases final : job.attemptsMade + 1 ≥ job.opts.attempts
  · have adds : onFailed { job with attemptsMade := job.attemptsMade + 1 } =
        awaitHost (.deadLetterAdd (job.queueName ++ "_DLQ") job.data.jobType job.data false false) := if_pos final
    obtain ⟨_, added⟩ := hosts.answered
      (c := .deadLetterAdd (job.queueName ++ "_DLQ") job.data.jobType job.data false false) trivial s
    rw [adds, deadLetters, isFinalFailure, if_pos (decide_eq_true final), awaitHost, visited_await]
    exact ⟨rfl, _, run_await_ok (S := hostSignature) h (Prod.ext added rfl), hosts.standing (by simp) standing⟩
  · have skips : onFailed { job with attemptsMade := job.attemptsMade + 1 } = .done () := if_neg final
    have retried : isFinalFailure job = false := decide_eq_false final
    rw [skips, deadLetters, retried]
    exact ⟨rfl, s, rfl, standing⟩

/-- An attempt that throws: nothing is released where the rate limiter rejects it, and else the slot is released and
    the failure counted exactly if no other attempt follows. -/
theorem runAttempt_thrown (hosts : Hosts h db)
    (ran : run h (runAttempt tenantRateLimit job) s = (.thrown error, s')) (standing : Standing (db s) job.data.jobId) :
    ∃ calls s₁, visited h (runAttempt tenantRateLimit job) s = calls ++ deadLetters job s₁ ∧
      (∀ v ∈ calls, v.2.isDeadLetterAdd = false) ∧ Standing (db s') job.data.jobId ∧
      ((Rejected h tenantRateLimit calls ∧ tally (S := hostSignature) HostCall.isRelease calls = 0 ∧
          tally (S := hostSignature) HostCall.isIncrementFailed calls = 0) ∨
        (¬ Rejected h tenantRateLimit calls ∧
          tally (S := hostSignature) HostCall.isRelease calls = (if isFinalFailure job then 1 else 0) ∧
          tally (S := hostSignature) HostCall.isIncrementFailed calls = (if isFinalFailure job then 1 else 0) ∧
          (isFinalFailure job = true → (db s₁).status job.data.jobId = some .FAILED))) := by
  obtain ⟨s₁, standing₁, judged⟩ := hosts.limitRate_cases tenantRateLimit job standing
  have throttles := (throttles_limitRate tenantRateLimit job).visited h s
  have unreleased : tally (S := hostSignature) HostCall.isRelease (visited h (limitRate tenantRateLimit job) s) = 0 :=
    tally_only ((throttles_limitRate tenantRateLimit job).mono fun _ throttles => throttles.uncounted.1)
  have uncounted : tally (S := hostSignature) HostCall.isIncrementFailed
      (visited h (limitRate tenantRateLimit job) s) = 0 :=
    tally_only ((throttles_limitRate tenantRateLimit job).mono fun _ throttles => throttles.uncounted.2.1)
  -- the handler of `failed`, once the processor has thrown
  have raised {failure : Err} {s₂ : σ} (threw : run h (processor tenantRateLimit job) s = (.thrown failure, s₂))
      (standing₂ : Standing (db s₂) job.data.jobId) : visited h (runAttempt tenantRateLimit job) s =
        visited h (processor tenantRateLimit job) s ++ deadLetters job s₂ ∧ Standing (db s') job.data.jobId := by
    obtain ⟨added, s₃, returned, standing₃⟩ := hosts.onFailed_returns job standing₂
    rw [runAttempt, run_catching, threw] at ran
    dsimp only at ran
    rw [bind_eq, run_bind_ok h returned] at ran
    obtain ⟨_, rfl⟩ := Prod.mk.inj ran
    refine ⟨?_, standing₃⟩
    rw [runAttempt, visited_catching, threw]
    dsimp only
    rw [bind_eq, visited_bind_ok h returned, added]
    simp [visited]
  rcases judged with ⟨passed, unrejected⟩ | ⟨⟨failure, threw⟩, rejected⟩
  · cases result : run (worker h) (execute job) s₁ with
    | mk outcome s₂ =>
      have worked : run h (processor tenantRateLimit job) s = (outcome, s₂) := by
        rw [processor, bind_eq, run_bind_ok h passed, run_onWorker, result]
      cases outcome with
      | ok value | hung =>
        rw [runAttempt, run_catching, worked] at ran
        cases ran
      | thrown failure =>
        have answers (s : σ) (c : WorkerCall) : Answers (worker h) s c := by
          intro steady threw
          have answered := hosts.answers s (.work c) steady
          simp [Throws, answered] at threw
        obtain ⟨failed, released, counted⟩ := hosts.serves.execute_thrown answers standing₁ result
        obtain ⟨shape, standing'⟩ := raised worked failed.1
        have whole : visited h (processor tenantRateLimit job) s = visited h (limitRate tenantRateLimit job) s ++
            visited h (onWorker (execute job)) s₁ := by
          rw [processor, bind_eq, visited_bind_ok h passed]
        refine ⟨_, s₂, shape, ?_, standing', .inr ⟨?_, ?_, ?_, failed.2⟩⟩
        · rw [whole, List.forall_mem_append]
          exact ⟨fun v member => (throttles v member).uncounted.2.2, undead_onWorker⟩
        · rw [whole, rejected_append, not_or]
          exact ⟨unrejected, unrejected_onWorker⟩
        · rw [whole, tally_append, unreleased, tally_onWorker, Nat.zero_add]
          exact released
        · rw [whole, tally_append, uncounted, tally_onWorker, Nat.zero_add]
          exact counted
  · have worked : run h (processor tenantRateLimit job) s = (.thrown failure, s₁) := by
      rw [processor, bind_eq, run_bind_thrown h threw]
    have limited : visited h (processor tenantRateLimit job) s = visited h (limitRate tenantRateLimit job) s := by
      rw [processor, bind_eq, visited_bind_thrown h threw]
    obtain ⟨shape, standing'⟩ := raised worked standing₁
    rw [limited] at shape
    exact ⟨_, s₁, shape, fun v member => (throttles v member).uncounted.2.2, standing', .inl ⟨rejected, unreleased, uncounted⟩⟩

/-- An attempt that returns was not rejected, and adds nothing to the dead-letter queue. -/
theorem runAttempt_returned (hosts : Hosts h db)
    (ran : run h (runAttempt tenantRateLimit job) s = (.ok (), s')) (standing : Standing (db s) job.data.jobId) :
    (∀ v ∈ visited h (runAttempt tenantRateLimit job) s, v.2.isDeadLetterAdd = false) ∧
      ¬ Rejected h tenantRateLimit (visited h (runAttempt tenantRateLimit job) s) := by
  obtain ⟨s₁, _, judged⟩ := hosts.limitRate_cases tenantRateLimit job standing
  have throttles := (throttles_limitRate tenantRateLimit job).visited h s
  have unthrown (failure : Err) (s₂ : σ) : run h (processor tenantRateLimit job) s ≠ (.thrown failure, s₂) := by
    intro threw
    rw [runAttempt, run_catching, threw] at ran
    dsimp only at ran
    rw [bind_eq, run_bind] at ran
    split at ran <;> simp at ran
  rcases judged with ⟨passed, unrejected⟩ | ⟨⟨failure, threw⟩, _⟩
  · have whole : visited h (runAttempt tenantRateLimit job) s = visited h (limitRate tenantRateLimit job) s ++
        visited h (onWorker (execute job)) s₁ := by
      rw [runAttempt, visited_catching, processor, bind_eq, visited_bind_ok h passed]
      split
      · rename_i failure s₂ threw
        exact absurd threw (unthrown failure s₂)
      · exact List.append_nil _
      · exact List.append_nil _
    rw [whole, List.forall_mem_append, rejected_append, not_or]
    exact ⟨⟨fun v member => (throttles v member).uncounted.2.2, undead_onWorker⟩, unrejected, unrejected_onWorker⟩
  · exact absurd (run_bind_thrown h threw) (unthrown failure s₁)

end Hosts

/-- BullMQ's runs of a job in a worker process. -/
abbrev Runs (h : Handler hostSignature Err σ) (tenantRateLimit : Option Int) (job : BullJob) :
    Nat → σ → List (List (σ × HostCall)) → σ → Prop :=
  Attempts h job.opts.attempts fun made => runAttempt tenantRateLimit { job with attemptsMade := made }

/-- What the calls of a run without its last one, the addition to the dead-letter queue, have done. -/
structure Settled (db : σ → Db) (j : JobId) (calls : List (σ × HostCall)) (v : σ × HostCall) : Prop where
  failed : (db v.1).status j = some .FAILED
  released : tally (S := hostSignature) HostCall.isRelease calls = 1
  counted : tally (S := hostSignature) HostCall.isIncrementFailed calls = 1

/-- Attempts before the last one release and count nothing, and only the last one may end in the dead-letter queue. -/
theorem Hosts.runs_shape (hosts : Hosts h db) {made : Nat} {tries : List (List (σ × hostSignature.Call))}
    (standing : Standing (db s) job.data.jobId) (concluded : Runs h tenantRateLimit job made s tries s') :
    ∃ earlier last, tries = earlier ++ [last] ∧ (∀ v ∈ earlier.flatten, v.2.isDeadLetterAdd = false) ∧
      tally (S := hostSignature) HostCall.isRelease earlier.flatten = 0 ∧
      tally (S := hostSignature) HostCall.isIncrementFailed earlier.flatten = 0 ∧
      (((∀ v ∈ last, v.2.isDeadLetterAdd = false) ∧ ¬ Rejected h tenantRateLimit last) ∨
        ∃ calls v, last = calls ++ [v] ∧ v.2.isDeadLetterAdd = true ∧ (∀ v ∈ calls, v.2.isDeadLetterAdd = false) ∧
          ((Rejected h tenantRateLimit last ∧ tally (S := hostSignature) HostCall.isRelease calls = 0) ∨
            (¬ Rejected h tenantRateLimit last ∧ Settled db job.data.jobId calls v))) := by
  have appended (job : BullJob) (calls : List (σ × HostCall)) (s₁ : σ) :
      Rejected h tenantRateLimit (calls ++ deadLetters job s₁) ↔ Rejected h tenantRateLimit calls := by
    rw [rejected_append]
    refine or_iff_left ?_
    unfold deadLetters
    split <;> simp [Rejected, overLimit]
  induction concluded with
  | @returns made s s' ran =>
    exact ⟨[], _, rfl, by simp, rfl, rfl, .inl (hosts.runAttempt_returned ran standing)⟩
  | @exhausted made s s' error ran last =>
    obtain ⟨calls, s₁, shape, undead, _, outcome⟩ := hosts.runAttempt_thrown ran standing
    have final : isFinalFailure { job with attemptsMade := made } = true := (isFinalFailure_made job made).mpr last
    have letters : deadLetters { job with attemptsMade := made } s₁ =
        [(s₁, .deadLetterAdd (job.queueName ++ "_DLQ") job.data.jobType job.data false false)] := if_pos final
    rw [final] at outcome
    refine ⟨[], _, rfl, by simp, rfl, rfl, .inr ⟨calls, _, shape.trans (by rw [letters]), rfl, undead, ?_⟩⟩
    rw [shape, appended]
    rcases outcome with ⟨rejected, unreleased, _⟩ | ⟨unrejected, released, counted, failed⟩
    · exact .inl ⟨rejected, unreleased⟩
    · exact .inr ⟨unrejected, failed rfl, released, counted⟩
  | @again made s s₁ s' error later ran more rest ih =>
    obtain ⟨calls, s₂, shape, undead, standing', outcome⟩ := hosts.runAttempt_thrown ran standing
    have retried : isFinalFailure { job with attemptsMade := made } = false := by
      rw [← Bool.not_eq_true, isFinalFailure_made]
      omega
    have letters : deadLetters { job with attemptsMade := made } s₂ = [] := by
      rw [deadLetters, retried]
      rfl
    rw [letters, List.append_nil] at shape
    have none : tally (S := hostSignature) HostCall.isRelease calls = 0 ∧
        tally (S := hostSignature) HostCall.isIncrementFailed calls = 0 := by
      rw [retried] at outcome
      rcases outcome with ⟨_, unreleased, uncounted⟩ | ⟨_, released, counted, _⟩
      · exact ⟨unreleased, uncounted⟩
      · exact ⟨released, counted⟩
    obtain ⟨earlier, last, split, undead', unreleased, uncounted, ended⟩ := ih standing'
    refine ⟨calls :: earlier, last, by rw [shape, split]; rfl, ?_, ?_, ?_, ended⟩
    · rw [List.flatten_cons, List.forall_mem_append]
      exact ⟨undead, undead'⟩
    · rw [List.flatten_cons, tally_append, none.1, unreleased]
    · rw [List.flatten_cons, tally_append, none.2, uncounted]

/-- An element that is the only one of its kind ends the list it stands in. -/
theorem split_at_last {α : Type} {kind : α → Bool} {calls before after : List α} {v w : α}
    (none : ∀ x ∈ calls, kind x = false) (found : kind w = true) (same : calls ++ [v] = before ++ w :: after) :
    calls = before ∧ v = w := by
  rcases List.eq_nil_or_concat after with rfl | ⟨front, z, rfl⟩
  · obtain ⟨rfl, last⟩ := List.append_inj' same rfl
    exact ⟨rfl, List.singleton_inj.mp last⟩
  · have regrouped : calls ++ [v] = (before ++ w :: front) ++ [z] := by simpa using same
    obtain ⟨rfl, _⟩ := List.append_inj' regrouped rfl
    have silent := none w (by simp)
    rw [found] at silent
    cases silent

/-- A job added to the dead-letter queue is FAILED, released and counted once, unless its last attempt was rejected
    by the rate limiter. -/
theorem dead_lettered_iff (hosts : Hosts h db) (standing : Standing (db s) job.data.jobId)
    {earlier : List (List (σ × HostCall))} {last : List (σ × HostCall)}
    (concluded : Runs h tenantRateLimit job 0 s (earlier ++ [last]) s') :
    (∀ before v after, (earlier ++ [last]).flatten = before ++ v :: after → v.2.isDeadLetterAdd = true →
      Settled db job.data.jobId before v) ↔ ¬ Rejected h tenantRateLimit last := by
  obtain ⟨earlier', last', split, undead, unreleased, uncounted, ended⟩ := hosts.runs_shape standing concluded
  obtain ⟨rfl, same⟩ := List.append_inj' split rfl
  obtain rfl := List.singleton_inj.mp same
  rw [List.flatten_append, List.flatten_singleton]
  rcases ended with ⟨alive, unrejected⟩ | ⟨calls, v, rfl, letter, quiet, outcome⟩
  · refine iff_of_true (fun before v after same letter => ?_) unrejected
    have member : v ∈ earlier.flatten ++ last := by simp [same]
    rcases List.mem_append.mp member with early | late
    · simp [undead v early] at letter
    · simp [alive v late] at letter
  · rw [← List.append_assoc]
    have silent : ∀ x ∈ earlier.flatten ++ calls, x.2.isDeadLetterAdd = false :=
      List.forall_mem_append.mpr ⟨undead, quiet⟩
    rcases outcome with ⟨rejected, none⟩ | ⟨unrejected, settled⟩
    · refine iff_of_false (fun claim => ?_) (not_not.mpr rejected)
      have released := (claim _ v [] rfl letter).released
      rw [tally_append, unreleased, none] at released
      cases released
    · refine iff_of_true (fun before w after same letter' => ?_) unrejected
      obtain ⟨rfl, rfl⟩ := split_at_last silent letter' same
      refine ⟨settled.failed, ?_, ?_⟩
      · rw [tally_append, unreleased, settled.released]
      · rw [tally_append, uncounted, settled.counted]

end Host

/-- A worker process in which the work always fails, with the tenant's rate counter. -/
def soloHost : Handler hostSignature Err ((Db × Unit) × Int)
  | (s, count), .work c =>
    let answer := work Env.plain (fun g _ => (.ok .QUEUED, g)) (.error lost) s c
    (answer.1, answer.2, count)
  | (s, count), .incr _ => (.ok (count + 1), s, count + 1)
  | (s, count), .expire _ _ | (s, count), .deadLetterAdd _ _ _ _ _ => (.ok (), s, count)

theorem serves_soloHost : Serves (worker soloHost) fun s => s.1.1 where
  stores := ⟨fun _ _ => ⟨Env.plain, .inl ⟨rfl, rfl⟩⟩, fun s c other => by
    cases c with
    | db statement => exact absurd rfl (other statement)
    | _ => exact ⟨rfl, rfl⟩⟩
  saves _ _ := .refl _
  elsewhere s c other _ := by
    cases c with
    | service call => exact absurd rfl (other call)
    | _ => exact ⟨rfl, rfl⟩
  times _ := rfl
  metrics _ _ := rfl

theorem hosts_soloHost : Hosts soloHost fun s => s.1.1 where
  serves := serves_soloHost
  elsewhere s c other := by
    cases c with
    | work call => exact absurd rfl (other call)
    | _ => exact ⟨rfl, rfl⟩
  answers s c steady := by
    cases c with
    | work call =>
      cases call with
      | service call =>
        cases call with
        | db statement => cases statement <;> first | rfl | exact steady.1.elim
        | _ => rfl
      | process job => exact absurd steady.2 (by simp [WorkerCall.isProcess])
      | _ => rfl
    | _ => rfl

theorem dead_lettered_soloOnce :
    (∃ v ∈ visited soloHost (runAttempt (some 1) soloOnce) (soloStore, 0), v.2.isDeadLetterAdd = true) ∧
    ∀ before v after, visited soloHost (runAttempt (some 1) soloOnce) (soloStore, 0) = before ++ v :: after →
      v.2.isDeadLetterAdd = true → Settled (fun s => s.1.1) soloOnce.data.jobId before v := by
  have concluded : Runs soloHost (some 1) soloOnce 0 (soloStore, 0)
      ([] ++ [visited soloHost (runAttempt (some 1) soloOnce) (soloStore, 0)])
      (run soloHost (runAttempt (some 1) soloOnce) (soloStore, 0)).2 := .exhausted rfl (by decide)
  have settled := (dead_lettered_iff hosts_soloHost ⟨by decide, by decide, by decide⟩ concluded).mpr (by decide +kernel)
  rw [List.nil_append, List.flatten_singleton] at settled
  exact ⟨by decide +kernel, settled⟩

/-- A job whose only attempt the rate limiter rejects is dead-lettered as QUEUED, with its slot still held. -/
theorem dead_lettered_unreleased : ∃ tries s', Runs soloHost (some 1) soloOnce 0 (soloStore, 1) tries s' ∧
    ∃ v ∈ tries.flatten, v.2.isDeadLetterAdd = true ∧ v.1.1.1.status 0 = some .QUEUED ∧
      tally (S := hostSignature) HostCall.isRelease tries.flatten = 0 :=
  ⟨_, _, .exhausted rfl (by decide), by decide +kernel⟩

end OrchestrateModel
