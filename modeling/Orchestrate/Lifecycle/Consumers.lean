import Orchestrate.Lifecycle.DeadLetter

namespace OrchestrateModel

open Effect Program BaseProcessor BaseWorker

/-- An entry of a dead-letter queue. -/
structure DeadLetter where
  queueName : String
  name : String
  data : JobQueuePayload
  removeOnComplete : Bool
  removeOnFail : Bool
  deriving DecidableEq, Repr

/-- What a worker process works on: the rate limiter's counters, the dead-letter queues, and all that the run of a job
    can see. -/
structure Plant (σ : Type) where
  counters : String → Int
  letters : List DeadLetter
  rest : σ

/-- The environment of a worker process in which the stores are answered by `work`. -/
def hosted {σ : Type} (work : Handler workerSignature Err σ) : Handler hostSignature Err (Plant σ)
  | p, .work c => ((work p.rest c).1, { p with rest := (work p.rest c).2 })
  | p, .incr key =>
    (.ok (p.counters key + 1), { p with counters := fun other => if other = key then p.counters key + 1 else p.counters other })
  | p, .expire _ _ => (.ok (), p)
  | p, .deadLetterAdd queueName name data removeOnComplete removeOnFail =>
    (.ok (), { p with letters := p.letters ++ [⟨queueName, name, data, removeOnComplete, removeOnFail⟩] })

/-- Reading the clock tells the time and changes nothing. -/
def Clocked {σ : Type} (work : Handler workerSignature Err σ) (time : σ → Nat) : Prop :=
  ∀ s, work s (.service .now) = (.ok (time s), s)

/-- A call that a result of the run can depend on: the rate limiter's calls and the clock's are left out. -/
def HostCall.IsEffect : HostCall → Bool
  | .incr _ | .expire _ _ | .work (.service .now) => false
  | _ => true

/-- The effects of an attempt: how it ends, the calls it makes, and what it leaves. -/
structure Effects (σ : Type) where
  outcome : Outcome Err Unit
  calls : List HostCall
  letters : List DeadLetter
  rest : σ

namespace Plant

variable {σ : Type}

def effectCalls (calls : List (Plant σ × HostCall)) : List HostCall := (calls.map (·.2)).filter (·.IsEffect)

/-- What an attempt does in the hands of a worker. -/
def effects (work : Handler workerSignature Err σ) (tenantRateLimit : Option Int) (consumer : Consumer) (job : BullJob)
    (p : Plant σ) : Effects σ :=
  let program := consumer.runAttempt tenantRateLimit job
  let ended := run (hosted work) program p
  { outcome := ended.1, calls := effectCalls (visited (hosted work) program p), letters := ended.2.letters,
    rest := ended.2.rest }

def after (work : Handler workerSignature Err σ) (tenantRateLimit : Option Int) (consumer : Consumer) (job : BullJob)
    (p : Plant σ) : Plant σ := (run (hosted work) (consumer.runAttempt tenantRateLimit job) p).2

/-- The counter of the tenant in this minute is at its limit. -/
def Limited (time : σ → Nat) (tenantRateLimit : Option Int) (job : BullJob) (p : Plant σ) : Prop :=
  ∃ limit, tenantRateLimit = some limit ∧ limit > 0 ∧ job.data.tenantId ≠ "" ∧
    limit ≤ p.counters (redisKey job.data.tenantId (time p.rest))

/-- The counters after the rate limiter has judged the attempt. -/
def counted (time : σ → Nat) (tenantRateLimit : Option Int) (job : BullJob) (p : Plant σ) : String → Int :=
  let key := redisKey job.data.tenantId (time p.rest)
  match tenantRateLimit with
  | none => p.counters
  | some limit =>
    if limit > 0 ∧ job.data.tenantId ≠ "" then
      fun other => if other = key then p.counters key + 1 else p.counters other
    else p.counters

/-- The attempt is the last one, and the processor throws. -/
def FailsFinally (work : Handler workerSignature Err σ) (job : BullJob) (p : Plant σ) : Prop :=
  isFinalFailure job = true ∧ ∃ error, (run work (execute job) p.rest).1 = .thrown error

/-- Neither the rate limiter nor the dead-letter queue has a part in the attempt. -/
def Ordinary (work : Handler workerSignature Err σ) (time : σ → Nat) (tenantRateLimit : Option Int) (job : BullJob)
    (p : Plant σ) : Prop := ¬ Limited time tenantRateLimit job p ∧ ¬ FailsFinally work job p

end Plant

section Parts

variable {σ : Type} {work : Handler workerSignature Err σ} {time : σ → Nat} {tenantRateLimit : Option Int}
  {job : BullJob} {p : Plant σ}

theorem effectCalls_append (calls more : List (Plant σ × HostCall)) :
    Plant.effectCalls (calls ++ more) = Plant.effectCalls calls ++ Plant.effectCalls more := by
  rw [Plant.effectCalls, List.map_append, List.filter_append]
  rfl

/-- The processor runs on the stores, and sees neither the counters nor the dead-letter queues. -/
theorem run_hosted {α : Type} (program : WorkerProgram α) (p : Plant σ) :
    run (hosted work) (onWorker program) p =
      ((run work program p.rest).1, { p with rest := (run work program p.rest).2 }) := by
  induction program generalizing p with
  | call c next ih =>
    rw [onWorker, run_call]
    exact ih _ _
  | _ => rfl

/-- The calls of a processor that are effects. -/
def workCalls {α : Type} (work : Handler workerSignature Err σ) (program : WorkerProgram α) (s : σ) : List HostCall :=
  ((visited work program s).map fun v => HostCall.work v.2).filter (·.IsEffect)

theorem effectCalls_hosted {α : Type} (program : WorkerProgram α) (p : Plant σ) :
    Plant.effectCalls (visited (hosted work) (onWorker program) p) = workCalls work program p.rest := by
  unfold Plant.effectCalls workCalls
  congr 1
  induction program generalizing p with
  | call c next ih =>
    rw [onWorker, visited, visited, List.map_cons, List.map_cons]
    exact congrArg _ (ih _ _)
  | _ => rfl

/-- The rate limiter rejects the attempt exactly if the tenant is at its limit, and changes nothing but its counters. -/
structure Judged (work : Handler workerSignature Err σ) (time : σ → Nat) (tenantRateLimit : Option Int) (job : BullJob)
    (p : Plant σ) : Prop where
  quiet : Plant.effectCalls (visited (hosted work) (limitRate tenantRateLimit job) p) = []
  left : (run (hosted work) (limitRate tenantRateLimit job) p).2 =
    { p with counters := Plant.counted time tenantRateLimit job p }
  passes : ¬ Plant.Limited time tenantRateLimit job p →
    (run (hosted work) (limitRate tenantRateLimit job) p).1 = .ok ()
  rejects : Plant.Limited time tenantRateLimit job p →
    ∃ error, (run (hosted work) (limitRate tenantRateLimit job) p).1 = .thrown error

theorem renewRate_hosted (work : Handler workerSignature Err σ) (tenantId : TenantId) (now : Nat) (current : Int) (p : Plant σ) :
    run (hosted work) (renewRate tenantId now current) p = (.ok (), p) ∧
      Plant.effectCalls (visited (hosted work) (renewRate tenantId now current) p) = [] := by
  unfold renewRate
  split <;> exact ⟨rfl, rfl⟩

theorem judged_of_unlimited (passes : limitRate tenantRateLimit job = .done ())
    (uncounted : Plant.counted time tenantRateLimit job p = p.counters)
    (unlimited : ¬ Plant.Limited time tenantRateLimit job p) : Judged work time tenantRateLimit job p := by
  constructor
  · rw [passes]
    rfl
  · rw [passes, uncounted]
    rfl
  · intro _
    rw [passes]
    rfl
  · exact fun limited => absurd limited unlimited

theorem judged (clocked : Clocked work time) (tenantRateLimit : Option Int) (job : BullJob) (p : Plant σ) :
    Judged work time tenantRateLimit job p := by
  cases tenantRateLimit with
  | none =>
    refine judged_of_unlimited rfl rfl fun exceeds => ?_
    obtain ⟨limit, given, _⟩ := exceeds
    cases given
  | some limit =>
    by_cases limited : limit > 0 ∧ job.data.tenantId ≠ ""
    · have applies : Plant.Limited time (some limit) job p ↔
          limit ≤ p.counters (redisKey job.data.tenantId (time p.rest)) := by
        constructor
        · rintro ⟨other, same, _, _, reached⟩
          rwa [Option.some.inj same]
        · exact fun reached => ⟨limit, rfl, limited.1, limited.2, reached⟩
      have bumped : Plant.counted time (some limit) job p = fun other =>
          if other = redisKey job.data.tenantId (time p.rest) then
            p.counters (redisKey job.data.tenantId (time p.rest)) + 1
          else p.counters other := if_pos limited
      set key := redisKey job.data.tenantId (time p.rest) with named
      have ticked : run (hosted work) (onWorker (onServices clock)) p = (.ok (time p.rest), p) := by
        rw [run_hosted, clock, onServices_await, awaitWork,
          run_await_ok (S := workerSignature) work (clocked p.rest)]
      have clocks : Plant.effectCalls (visited (hosted work) (onWorker (onServices clock)) p) = [] := by
        rw [effectCalls_hosted, clock, onServices_await, workCalls, awaitWork, visited_await]
        rfl
      have counted : run (hosted work) (awaitHost (.incr key)) p = (.ok (p.counters key + 1), _) :=
        run_await_ok (S := hostSignature) (hosted work) rfl
      have incremented : Plant.effectCalls (visited (hosted work) (awaitHost (.incr key)) p) = [] := by
        rw [awaitHost, visited_await]
        rfl
      set p₁ : Plant σ :=
        { p with counters := fun other => if other = key then p.counters key + 1 else p.counters other }
      obtain ⟨renewed, renews⟩ := renewRate_hosted work job.data.tenantId (time p.rest) (p.counters key + 1) p₁
      have judging : Plant.effectCalls
          (visited (hosted work) (judgeRate limit job.data.tenantId (p.counters key + 1)) p₁) = [] := by
        unfold judgeRate
        split <;> rfl
      have whole : run (hosted work) (limitRate (some limit) job) p =
          run (hosted work) (judgeRate limit job.data.tenantId (p.counters key + 1)) p₁ := by
        rw [limitRate_eq limited, run_bind_ok _ ticked, ← named, run_bind_ok _ counted, run_bind_ok _ renewed]
      refine ⟨?_, ?_, fun within => ?_, fun reached => ?_⟩
      · rw [limitRate_eq limited, visited_bind_ok _ ticked, ← named, visited_bind_ok _ counted, visited_bind_ok _ renewed,
          effectCalls_append, effectCalls_append, effectCalls_append, clocks, incremented, renews, judging]
        rfl
      · rw [whole, bumped]
        unfold judgeRate
        split <;> rfl
      · rw [applies] at within
        rw [whole, judgeRate, if_neg (by omega)]
        rfl
      · rw [applies] at reached
        rw [whole, judgeRate, if_pos (by omega)]
        exact ⟨_, rfl⟩
    · refine judged_of_unlimited (if_neg limited) (if_neg limited) ?_
      rintro ⟨other, same, positive, named, _⟩
      obtain rfl := Option.some.inj same
      exact limited ⟨positive, named⟩

/-- The counters only grow, and those of a worker that has counted less stay below. -/
theorem counters_le_counted : ∀ key, p.counters key ≤ Plant.counted time tenantRateLimit job p key := by
  intro key
  unfold Plant.counted
  cases tenantRateLimit with
  | none => exact Int.le_refl _
  | some limit =>
    dsimp only
    split
    · dsimp only
      split
      · rename_i same
        rw [same]
        omega
      · exact Int.le_refl _
    · exact Int.le_refl _

theorem counted_mono {q : Plant σ} (same : q.rest = p.rest) (less : ∀ key, q.counters key ≤ p.counters key) :
    ∀ key, Plant.counted time tenantRateLimit job q key ≤ Plant.counted time tenantRateLimit job p key := by
  intro key
  unfold Plant.counted
  cases tenantRateLimit with
  | none => exact less key
  | some limit =>
    dsimp only
    rw [same]
    split
    · have own := less (redisKey job.data.tenantId (time p.rest))
      dsimp only
      split
      · omega
      · exact less key
    · exact less key

/-- What `failed` does after the last attempt: both workers add the job to the dead-letter queue, and the autoscaled one
    records the move. -/
def letter (job : BullJob) : HostCall :=
  .deadLetterAdd (job.queueName ++ "_DLQ") job.data.jobType job.data false false

/-- The handler of `failed`, after which the error goes on. -/
def raised (failed : BullJob → HostProgram Unit) (job : BullJob) (error : Err) : HostProgram Unit :=
  (failed { job with attemptsMade := job.attemptsMade + 1 }).bind fun _ => .throws error

theorem onFailed_base (error : Err) (final : isFinalFailure job = true) (p : Plant σ) :
    Plant.effectCalls (visited (hosted work) (raised onFailed job error) p) = [letter job] := by
  have last : job.attemptsMade + 1 ≥ job.opts.attempts := of_decide_eq_true final
  have adds : onFailed { job with attemptsMade := job.attemptsMade + 1 } = awaitHost (letter job) := if_pos last
  rw [raised, adds]
  rfl

theorem onFailed_autoscaled (error : Err) (final : isFinalFailure job = true) (p : Plant σ) :
    Plant.effectCalls (visited (hosted work) (raised WorkerRegistry.onFailed job error) p) =
      [letter job, .work (.record (.dlqMove job.queueName job.data.jobType))] := by
  have last : job.attemptsMade + 1 ≥ job.opts.attempts := of_decide_eq_true final
  have adds : WorkerRegistry.onFailed { job with attemptsMade := job.attemptsMade + 1 } =
      (awaitHost (letter job)).bind fun _ => onWorker (record (.dlqMove job.queueName job.data.jobType)) := if_pos last
  have added : run (hosted work) (awaitHost (letter job)) p = (.ok (), _) :=
    run_await_ok (S := hostSignature) (hosted work) rfl
  have recorded (p : Plant σ) : Plant.effectCalls (visited (hosted work)
      ((onWorker (record (.dlqMove job.queueName job.data.jobType))).bind fun _ => (.throws error : HostProgram Unit)) p) =
        [.work (.record (.dlqMove job.queueName job.data.jobType))] := by
    rw [visited_bind, effectCalls_append, effectCalls_hosted, workCalls, record, awaitWork, visited_await]
    split <;> rfl
  rw [raised, adds, bind_assoc, visited_bind_ok _ added, effectCalls_append, recorded]
  rfl

theorem raised_retried (error : Err) (retried : isFinalFailure job = false) :
    raised onFailed job error = .throws error ∧ raised WorkerRegistry.onFailed job error = .throws error := by
  have more : ¬ job.attemptsMade + 1 ≥ job.opts.attempts := of_decide_eq_false retried
  have base : onFailed { job with attemptsMade := job.attemptsMade + 1 } = .done () := if_neg more
  have autoscaled : WorkerRegistry.onFailed { job with attemptsMade := job.attemptsMade + 1 } = .done () := if_neg more
  rw [raised, raised, base, autoscaled]
  exact ⟨rfl, rfl⟩

/-- The processor looks its row up first, whatever follows. -/
theorem workCalls_execute (clocked : Clocked work time) (job : BullJob) (s : σ) :
    ∃ more, workCalls work (execute job) s = .work (.service (.db (.findJob job.data.jobId))) :: more := by
  have ticked : run work (onServices clock) s = (.ok (time s), s) := by
    rw [clock, onServices_await, awaitWork, run_await_ok (S := workerSignature) work (clocked s)]
  have clocks : visited work (onServices clock) s = [(s, .service .now)] := by
    rw [clock, onServices_await, awaitWork, visited_await]
  have found : visited work (onServices (JobRepo.findOne job.data.jobId)) s =
      [(s, .service (.db (.findJob job.data.jobId)))] := by
    rw [JobRepo.findOne, query, onServices_await, awaitWork, visited_await]
  have looked (next : Option Job → WorkerProgram (Nat × Nat × Option Job)) : ∃ more,
      visited work ((onServices (JobRepo.findOne job.data.jobId)).bind next) s =
        (s, .service (.db (.findJob job.data.jobId))) :: more := by
    rw [visited_bind, found]
    exact ⟨_, rfl⟩
  rw [execute_eq, workCalls, visited_bind, lookup, bind_eq, visited_bind_ok _ ticked, bind_eq, visited_bind_ok _ ticked,
    clocks]
  obtain ⟨more, looks⟩ := looked fun existingJob => .done (time s, time s, existingJob)
  rw [bind_eq]
  simp only [pure_eq_done]
  rw [looks]
  exact ⟨_, rfl⟩

section Handled

variable {failed : BullJob → HostProgram Unit} {program : HostProgram Unit} {h : Handler hostSignature Err (Plant σ)}
  {outcome : Outcome Err Unit} {error : Err} {q : Plant σ}

/-- A program with a handler of the event `failed`. -/
def handled (failed : BullJob → HostProgram Unit) (program : HostProgram Unit) (job : BullJob) : HostProgram Unit :=
  program.catching (raised failed job)

theorem runAttempt_base (job : BullJob) :
    Consumer.base.runAttempt tenantRateLimit job = handled onFailed (processor tenantRateLimit job) job := rfl

theorem runAttempt_autoscaled (job : BullJob) :
    Consumer.autoscaled.runAttempt tenantRateLimit job = handled WorkerRegistry.onFailed (onWorker (execute job)) job := rfl

theorem handled_returns (failed : BullJob → HostProgram Unit) (ran : run h program p = (outcome, q)) (unthrown : ∀ error, outcome ≠ .thrown error) :
    run h (handled failed program job) p = (outcome, q) ∧
      visited h (handled failed program job) p = visited h program p := by
  rw [handled, run_catching, visited_catching, ran]
  cases outcome with
  | thrown error => exact absurd rfl (unthrown error)
  | ok value => exact ⟨rfl, List.append_nil _⟩
  | hung => exact ⟨rfl, List.append_nil _⟩

theorem handled_throws (failed : BullJob → HostProgram Unit) (ran : run h program p = (.thrown error, q)) :
    run h (handled failed program job) p = run h (raised failed job error) q ∧
      visited h (handled failed program job) p = visited h program p ++ visited h (raised failed job error) q := by
  rw [handled, run_catching, visited_catching, ran]
  exact ⟨rfl, rfl⟩

end Handled

/-- Where the rate limiter lets the attempt pass, the processor of the base worker does what `execute` does. -/
theorem processor_passed (clocked : Clocked work time) (unlimited : ¬ Plant.Limited time tenantRateLimit job p) :
    run (hosted work) (processor tenantRateLimit job) p =
        ((run work (execute job) p.rest).1,
          { p with counters := Plant.counted time tenantRateLimit job p, rest := (run work (execute job) p.rest).2 }) ∧
      Plant.effectCalls (visited (hosted work) (processor tenantRateLimit job) p) = workCalls work (execute job) p.rest := by
  have judged := judged clocked tenantRateLimit job p
  have passed : run (hosted work) (limitRate tenantRateLimit job) p =
      (.ok (), { p with counters := Plant.counted time tenantRateLimit job p }) :=
    Prod.ext (judged.passes unlimited) judged.left
  rw [processor, bind_eq, run_bind_ok _ passed, visited_bind_ok _ passed, run_hosted, effectCalls_append, judged.quiet,
    effectCalls_hosted]
  exact ⟨rfl, rfl⟩

theorem processor_rejected (clocked : Clocked work time) (limited : Plant.Limited time tenantRateLimit job p) :
    (∃ error, run (hosted work) (processor tenantRateLimit job) p =
        (.thrown error, { p with counters := Plant.counted time tenantRateLimit job p })) ∧
      Plant.effectCalls (visited (hosted work) (processor tenantRateLimit job) p) = [] := by
  have judged := judged clocked tenantRateLimit job p
  obtain ⟨error, threw⟩ := judged.rejects limited
  have rejected : run (hosted work) (limitRate tenantRateLimit job) p =
      (.thrown error, { p with counters := Plant.counted time tenantRateLimit job p }) := Prod.ext threw judged.left
  rw [processor, bind_eq, run_bind_thrown _ rejected, visited_bind_thrown _ rejected, judged.quiet]
  exact ⟨⟨error, rfl⟩, rfl⟩

namespace Plant

/-- The effects of an attempt in which neither the rate limiter nor the dead-letter queue has a part: those of `execute`. -/
def worked (work : Handler workerSignature Err σ) (job : BullJob) (p : Plant σ) : Effects σ :=
  { outcome := (run work (execute job) p.rest).1, calls := workCalls work (execute job) p.rest, letters := p.letters,
    rest := (run work (execute job) p.rest).2 }

/-- A handler of `failed` that has nothing to do. -/
theorem effects_worked {failed : BullJob → HostProgram Unit} {program : HostProgram Unit} {counters : String → Int}
    {consumer : Consumer} (same : consumer.runAttempt tenantRateLimit job = handled failed program job)
    (ran : run (hosted work) program p =
      ((run work (execute job) p.rest).1, { p with counters := counters, rest := (run work (execute job) p.rest).2 }))
    (calls : effectCalls (visited (hosted work) program p) = workCalls work (execute job) p.rest)
    (idle : ∀ error, (run work (execute job) p.rest).1 = .thrown error → raised failed job error = .throws error) :
    effects work tenantRateLimit consumer job p = worked work job p ∧
      after work tenantRateLimit consumer job p =
        { p with counters := counters, rest := (run work (execute job) p.rest).2 } := by
  have whole : run (hosted work) (handled failed program job) p =
        ((run work (execute job) p.rest).1, { p with counters := counters, rest := (run work (execute job) p.rest).2 }) ∧
      effectCalls (visited (hosted work) (handled failed program job) p) = workCalls work (execute job) p.rest := by
    cases ended : (run work (execute job) p.rest).1 with
    | thrown error =>
      rw [ended] at ran
      obtain ⟨result, visits⟩ := handled_throws failed ran
      rw [result, visits, idle error ended, effectCalls_append, calls]
      exact ⟨rfl, List.append_nil _⟩
    | ok value | hung =>
      rw [ended] at ran
      obtain ⟨result, visits⟩ := handled_returns failed ran (by simp)
      rw [result, visits]
      exact ⟨rfl, calls⟩
  rw [effects, after, same, whole.1, whole.2]
  exact ⟨rfl, rfl⟩

/-- In an ordinary attempt both workers do what `execute` does. -/
theorem Ordinary.effects_base (clocked : Clocked work time) (ordinary : Ordinary work time tenantRateLimit job p) :
    effects work tenantRateLimit .base job p = worked work job p ∧
      after work tenantRateLimit .base job p =
        { p with counters := counted time tenantRateLimit job p, rest := (run work (execute job) p.rest).2 } := by
  obtain ⟨ran, calls⟩ := processor_passed clocked ordinary.1
  refine effects_worked (runAttempt_base job) ran calls fun error threw => ?_
  have retried : isFinalFailure job = false := by
    rw [← Bool.not_eq_true]
    exact fun final => ordinary.2 ⟨final, error, threw⟩
  exact (raised_retried error retried).1

theorem Ordinary.effects_autoscaled (tenantRateLimit : Option Int) (ordinary : ¬ FailsFinally work job p) :
    effects work tenantRateLimit .autoscaled job p = worked work job p ∧
      after work tenantRateLimit .autoscaled job p = { p with rest := (run work (execute job) p.rest).2 } := by
  refine effects_worked (runAttempt_autoscaled job) (run_hosted _ p) (effectCalls_hosted _ p) fun error threw => ?_
  have retried : isFinalFailure job = false := by
    rw [← Bool.not_eq_true]
    exact fun final => ordinary ⟨final, error, threw⟩
  exact (raised_retried error retried).2

theorem calls_autoscaled (job : BullJob) (p : Plant σ) :
    ∃ later, effectCalls (visited (hosted work) (handled WorkerRegistry.onFailed (onWorker (execute job)) job) p) =
      workCalls work (execute job) p.rest ++ later := by
  rw [handled, visited_catching, effectCalls_append, effectCalls_hosted]
  exact ⟨_, rfl⟩

/-- The two workers have the same effects on an attempt exactly if it is ordinary. -/
theorem effects_eq_iff (clocked : Clocked work time) :
    effects work tenantRateLimit .base job p = effects work tenantRateLimit .autoscaled job p ↔
      Ordinary work time tenantRateLimit job p := by
  constructor
  · intro same
    have calls : (effects work tenantRateLimit .base job p).calls = (effects work tenantRateLimit .autoscaled job p).calls :=
      congrArg Effects.calls same
    simp only [effects, runAttempt_base, runAttempt_autoscaled] at calls
    obtain ⟨more, looks⟩ := workCalls_execute clocked job p.rest
    have unlimited : ¬ Limited time tenantRateLimit job p := by
      intro limited
      obtain ⟨⟨error, rejected⟩, quiet⟩ := processor_rejected clocked limited
      obtain ⟨later, visits⟩ := calls_autoscaled job p
      rw [(handled_throws _ rejected).2, effectCalls_append, quiet, visits, looks, List.nil_append] at calls
      cases final : isFinalFailure job with
      | true => simp [onFailed_base error final, letter] at calls
      | false =>
        rw [(raised_retried error final).1] at calls
        cases calls
    refine ⟨unlimited, ?_⟩
    rintro ⟨final, error, threw⟩
    obtain ⟨ran, quiet⟩ := processor_passed clocked unlimited
    rw [threw] at ran
    have other : run (hosted work) (onWorker (execute job)) p = _ := run_hosted (execute job) p
    rw [threw] at other
    rw [(handled_throws _ ran).2, (handled_throws _ other).2, effectCalls_append, effectCalls_append, quiet,
      effectCalls_hosted, onFailed_base error final, onFailed_autoscaled error final] at calls
    simp at calls
  · intro ordinary
    rw [(ordinary.effects_base clocked).1, (Ordinary.effects_autoscaled _ ordinary.2).1]

end Plant

/-- What the others do to the stores, and the attempt that a worker picks next. -/
structure Pick (σ : Type) where
  before : σ → σ
  job : BullJob

namespace Plant

def elsewhere (p : Plant σ) (change : σ → σ) : Plant σ := { p with rest := change p.rest }

/-- The effects of the attempts of a queue, each handled by the worker that picked it. -/
def runAll (work : Handler workerSignature Err σ) (tenantRateLimit : Option Int) :
    List (Consumer × Pick σ) → Plant σ → List (Effects σ)
  | [], _ => []
  | (consumer, pick) :: rest, p =>
    let p := p.elsewhere pick.before
    effects work tenantRateLimit consumer pick.job p ::
      runAll work tenantRateLimit rest (after work tenantRateLimit consumer pick.job p)

/-- Every attempt is ordinary while the base worker handles them all. -/
def AllOrdinary (work : Handler workerSignature Err σ) (time : σ → Nat) (tenantRateLimit : Option Int) :
    List (Pick σ) → Plant σ → Prop
  | [], _ => True
  | pick :: rest, p =>
    Ordinary work time tenantRateLimit pick.job (p.elsewhere pick.before) ∧
      AllOrdinary work time tenantRateLimit rest
        (after work tenantRateLimit .base pick.job (p.elsewhere pick.before))

def onBase (picks : List (Pick σ)) : List (Consumer × Pick σ) := picks.map fun pick => (.base, pick)

/-- A plant whose counters have counted less, and that is otherwise the same. -/
structure Below (q p : Plant σ) : Prop where
  rest : q.rest = p.rest
  letters : q.letters = p.letters
  counters : ∀ key, q.counters key ≤ p.counters key

theorem Below.limited {q : Plant σ} (below : Below q p) (limited : Limited time tenantRateLimit job q) :
    Limited time tenantRateLimit job p := by
  obtain ⟨limit, given, positive, named, reached⟩ := limited
  rw [below.rest] at reached
  exact ⟨limit, given, positive, named, Int.le_trans reached (below.counters _)⟩

/-- The step: whichever worker handles an ordinary attempt, its effects are those of the base worker. -/
theorem Below.step {q : Plant σ} (clocked : Clocked work time) (below : Below q p)
    (ordinary : Ordinary work time tenantRateLimit job p) (consumer : Consumer) :
    effects work tenantRateLimit consumer job q = effects work tenantRateLimit .base job p ∧
      Below (after work tenantRateLimit consumer job q) (after work tenantRateLimit .base job p) := by
  have unfailing : ¬ FailsFinally work job q := by
    unfold FailsFinally
    rw [below.rest]
    exact ordinary.2
  have ordinary' : Ordinary work time tenantRateLimit job q :=
    ⟨fun limited => ordinary.1 (below.limited limited), unfailing⟩
  obtain ⟨own, left⟩ := ordinary.effects_base clocked
  have worked_same : worked work job q = worked work job p := by
    rw [worked, worked, below.rest, below.letters]
  rw [own, left, ← worked_same]
  cases consumer with
  | base =>
    obtain ⟨own', left'⟩ := ordinary'.effects_base clocked
    rw [own', left']
    refine ⟨rfl, ⟨?_, below.letters, counted_mono below.rest below.counters⟩⟩
    rw [below.rest]
  | autoscaled =>
    obtain ⟨own', left'⟩ := Ordinary.effects_autoscaled tenantRateLimit unfailing
    rw [own', left']
    refine ⟨rfl, ⟨?_, below.letters, fun key => Int.le_trans (below.counters key) (counters_le_counted key)⟩⟩
    rw [below.rest]

theorem Below.runAll {q : Plant σ} (clocked : Clocked work time) (below : Below q p) {picks : List (Pick σ)}
    (ordinary : AllOrdinary work time tenantRateLimit picks p) (assigned : List (Consumer × Pick σ))
    (same : assigned.map (·.2) = picks) :
    Plant.runAll work tenantRateLimit assigned q = Plant.runAll work tenantRateLimit (onBase picks) p := by
  induction picks generalizing p q assigned with
  | nil =>
    obtain rfl := List.map_eq_nil_iff.mp same
    rfl
  | cons pick rest ih =>
    obtain ⟨⟨consumer, own⟩, later, rfl, rfl, tail⟩ := List.map_eq_cons_iff.mp same
    have below' : Below (q.elsewhere own.before) (p.elsewhere own.before) :=
      ⟨congrArg own.before below.rest, below.letters, below.counters⟩
    obtain ⟨effects, next⟩ := below'.step clocked ordinary.1 consumer
    exact congrArg₂ List.cons effects (ih next ordinary.2 later tail)

/-- It does not matter which worker picks which attempt exactly if every attempt is ordinary. -/
theorem runAll_same_iff (clocked : Clocked work time) (picks : List (Pick σ)) (p : Plant σ) :
    (∀ assigned : List (Consumer × Pick σ), assigned.map (·.2) = picks →
      runAll work tenantRateLimit assigned p = runAll work tenantRateLimit (onBase picks) p) ↔
      AllOrdinary work time tenantRateLimit picks p := by
  constructor
  · intro same
    induction picks generalizing p with
    | nil => trivial
    | cons pick rest ih =>
      have listed : (onBase rest).map (·.2) = rest := by simp [onBase, Function.comp_def]
      constructor
      · have switched := same ((.autoscaled, pick) :: onBase rest) (congrArg _ listed)
        exact (effects_eq_iff clocked).mp (List.cons.inj switched).1.symm
      · refine ih _ fun assigned same' => ?_
        have extended := same ((.base, pick) :: assigned) (congrArg _ same')
        exact (List.cons.inj extended).2
  · exact fun ordinary assigned same =>
      Below.runAll clocked ⟨rfl, rfl, fun _ => Int.le_refl _⟩ ordinary assigned same

/-- The workers of a queue are interchangeable on an attempt exactly if it is ordinary, and in a run exactly if each of
    its attempts is. -/
theorem consumers_interchangeable (clocked : Clocked work time) (tenantRateLimit : Option Int) :
    (∀ job p, effects work tenantRateLimit .base job p = effects work tenantRateLimit .autoscaled job p ↔
      Ordinary work time tenantRateLimit job p) ∧
    ∀ picks p, (∀ assigned : List (Consumer × Pick σ), assigned.map (·.2) = picks →
      runAll work tenantRateLimit assigned p = runAll work tenantRateLimit (onBase picks) p) ↔
      AllOrdinary work time tenantRateLimit picks p :=
  ⟨fun _ _ => effects_eq_iff clocked, runAll_same_iff clocked⟩

end Plant

end Parts

/-- A worker process whose stores hold one QUEUED job, with a counter that stands at one. -/
def soloPlant : Plant (Db × Unit) := { counters := fun _ => 1, letters := [], rest := soloStore }

/-- The stores of this job, where `process` has a given outcome. -/
abbrev soloWork (outcome : Except Err (Option String)) : Handler workerSignature Err (Db × Unit) :=
  work Env.plain (fun g _ => (.ok .QUEUED, g)) outcome

theorem clocked_soloWork (outcome : Except Err (Option String)) : Clocked (soloWork outcome) fun _ => 0 := fun _ => rfl

theorem consumers_interchangeable_soloOnce :
    Plant.effects (soloWork (.ok none)) (some 2) .base soloOnce soloPlant =
      Plant.effects (soloWork (.ok none)) (some 2) .autoscaled soloOnce soloPlant := by
  apply ((Plant.consumers_interchangeable (clocked_soloWork (.ok none)) (some 2)).1 soloOnce soloPlant).mpr
  constructor
  · rintro ⟨limit, given, _, _, reached⟩
    obtain rfl := Option.some.inj given
    exact absurd reached (by decide)
  · rintro ⟨_, error, threw⟩
    have worked : (run (soloWork (.ok none)) (execute soloOnce) soloStore).1 = .ok () := by decide +kernel
    rw [show soloPlant.rest = soloStore from rfl, worked] at threw
    cases threw

/-- The last failure of a job is recorded as a move to the dead-letter queue by the autoscaled worker only, and only the
    base worker rejects a job of a tenant at its limit. -/
theorem consumers_differ :
    Plant.effects (soloWork (.error lost)) none .base soloOnce soloPlant ≠
        Plant.effects (soloWork (.error lost)) none .autoscaled soloOnce soloPlant ∧
      Plant.effects (soloWork (.ok none)) (some 1) .base soloOnce soloPlant ≠
        Plant.effects (soloWork (.ok none)) (some 1) .autoscaled soloOnce soloPlant := by
  constructor
  · intro same
    have calls := congrArg (fun effects => effects.calls.length) same
    exact absurd calls (by decide +kernel)
  · intro same
    have calls := congrArg (fun effects => effects.calls.length) same
    exact absurd calls (by decide +kernel)

end OrchestrateModel
