import Orchestrate.Admission.Reconciliation
import Orchestrate.Effect.Machine
import Orchestrate.Lifecycle.Consumers
import Orchestrate.Lifecycle.Silent

namespace OrchestrateModel

open Effect Program BaseProcessor BaseWorker ChainService QueueReconcileCollector

/-- A payload that runs once, with the name of its queue as its submitter has resolved it. -/
structure Submission where
  payload : JobQueuePayload
  once : payload.isCron = false
  named : resolveQueueName payload.jobType = .ok payload.queueName

/-- A whole deployment: the tables, Redis, the queues, the dead-letter queues and the counters of the rate limiter. -/
abbrev Floor := Plant (Db × Store)

/-- One operation at a time: a statement of a request, a submission, a step of BullMQ, or a whole attempt with the
    releases and submissions that it makes and with the handler of its failure. -/
inductive FloorEvent : Type where
  | statement (env : Env) (c : DbCall)
  | submit (submission : Submission)
  | promote (i : Nat)
  | take (i : Nat)
  | attempt (i : Nat) (consumer : Consumer) (tenantRateLimit : Option Int) (env : Env) (outcome : Except Err (Option String))

/-- What BullMQ makes of a job whose attempt has thrown. -/
def QueuedJob.failed (job : QueuedJob) : QueuedJob :=
  { run := { job.run with attemptsMade := job.run.attemptsMade + 1 }
    state := if job.run.opts.attempts ≤ job.run.attemptsMade + 1 then .failed else .delayed }

namespace Floor

def empty : Floor := { counters := fun _ => 0, letters := [], rest := (.empty, .empty) }

def setJob (s : Floor) (i : Nat) (job : QueuedJob) : Floor :=
  { s with rest := (s.rest.1, { s.rest.2 with queued := s.rest.2.queued.set i job }) }

/-- A whole attempt; one that hangs has no end. -/
def attempt (s : Floor) (i : Nat) (job : QueuedJob) (consumer : Consumer) (tenantRateLimit : Option Int) (env : Env)
    (outcome : Except Err (Option String)) : Option Floor :=
  match (consumer.runAttempt tenantRateLimit job.run).run (hosted (Store.work env outcome)) s with
  | (.ok _, s') => some (Floor.setJob s' i { job with state := .completed })
  | (.thrown _, s') => some (Floor.setJob s' i job.failed)
  | (.hung, _) => none

def step (s : Floor) : FloorEvent → Option Floor
  | .statement env c => some { s with rest := ((s.rest.1.exec env c).2, s.rest.2) }
  | .submit submission => some { s with rest := (s.rest.1, (s.rest.2.submitJob submission.payload).2) }
  | .promote i => do
    let job ← s.rest.2.queued[i]?
    if job.state = .delayed then some (s.setJob i { job with state := BullMQ.ready job.run.opts }) else none
  | .take i => do
    let job ← s.rest.2.queued[i]?
    if job.state = .waiting ∨ job.state = .prioritized then some (s.setJob i { job with state := .active }) else none
  | .attempt i consumer tenantRateLimit env outcome => do
    let job ← s.rest.2.queued[i]?
    if job.state = .active then s.attempt i job consumer tenantRateLimit env outcome else none

/-- The jobs of a queue in a state. -/
def inState (s : Floor) (queueName : String) (state : BullState) : Nat :=
  s.rest.2.queued.countP fun job => job.run.queueName = queueName && job.state = state

/-- `getQueueSnapshot` after `refreshNow`. Nothing takes the jobs of a dead-letter queue. -/
def queueSnapshot (s : Floor) (queueName : String) : QueueCounts :=
  { waiting := s.inState queueName .waiting
    prioritized := s.inState queueName .prioritized
    delayed := s.inState queueName .delayed
    active := s.inState queueName .active
    dlq := s.letters.countP fun letter => letter.queueName = queueName ++ "_DLQ" }

/-- `GET /metrics/reconcile?fresh=true`. -/
def report (s : Floor) (queueName : String) : ReconcileReport :=
  MetricsController.reconcile (s.queueSnapshot queueName) (QueueReconcileCollector.getQueueState s.rest.2.redis queueName)

end Floor

def floor_ : Machine Floor FloorEvent := ⟨Floor.step⟩

section Calls

variable {α : Type} {env : Env} {outcome : Except Err (Option String)} {queued : List QueuedJob} {excess : String → Int}
  {s : Db × Store} {job : BullJob}

/-- What a submission or a release needs of the store that it is made on. -/
def Store.Places (st : Store) : WorkerCall → Prop
  | .service (.submitJob payload) => st.Admits payload
  | .release tenantId _ => st.Drains tenantId
  | _ => True

/-- The call counts no run of a job as ended, and submits only payloads with a resolved name. -/
def WorkerCall.Neutral : WorkerCall → Prop
  | .service (.submitJob payload) => resolveQueueName payload.jobType = .ok payload.queueName
  | .incrementCompleted _ | .incrementFailed _ => False
  | _ => True

/-- The store, which still holds some queued jobs, has an excess of submitted jobs. -/
structure Balance (queued : List QueuedJob) (excess : String → Int) (st : Store) : Prop where
  parked : ∃ parked, st.Parked parked
  exact_ : ∀ queueName, st.excess queueName = excess queueName
  holds : queued <+: st.queued

theorem Balance.call (balance : Balance queued excess s.2) {c : WorkerCall} (places : s.2.Places c) (neutral : c.Neutral) :
    Balance queued excess (Store.work env outcome s c).2.2 := by
  obtain ⟨db, st⟩ := s
  obtain ⟨parked, held⟩ := balance.parked
  cases c with
  | service call =>
    cases call with
    | submitJob payload =>
      obtain ⟨parks, keeps, grows⟩ := Store.submitJob_kept held neutral places
      exact ⟨parks, fun queueName => (keeps queueName).trans (balance.exact_ queueName), balance.holds.trans grows⟩
    | _ => exact balance
  | release tenantId queueName =>
    obtain ⟨parks, keeps, grows⟩ := Store.release_kept held places queueName
    exact ⟨parks, fun name => (keeps name).trans (balance.exact_ name), balance.holds.trans grows⟩
  | process | record => exact balance
  | incrementCompleted | incrementFailed => exact neutral.elim

theorem Balance.completed (balance : Balance queued excess s.2) (queueName : String) :
    Balance queued (fun name => excess name - if queueName = name then 1 else 0)
      (Store.work env outcome s (.incrementCompleted queueName)).2.2 := by
  obtain ⟨db, st⟩ := s
  obtain ⟨parked, held⟩ := balance.parked
  have counting : QueueReconcileCollector.incrementCompleted queueName = increment (terminalKey queueName) "completed" := rfl
  obtain ⟨parks, counts, same⟩ := Store.incremented held (.inl rfl) counting
  refine ⟨⟨parked, parks⟩, fun name => ?_, ?_⟩
  · rw [← balance.exact_ name]
    exact counts name
  · have holds := balance.holds
    rw [← same] at holds
    exact holds

/-- A part of an attempt whose submissions and releases find what they need. -/
abbrev Accounted {α : Type} (env : Env) (outcome : Except Err (Option String)) (ok : α → Db × Store → Prop)
    (thrown : Err → Db × Store → Prop) (program : WorkerProgram α) (s : Db × Store) : Prop :=
  Safe (Store.work env outcome) (fun s c => s.2.Places c) (fun _ _ => True) ok thrown program s

theorem safe_neutral {program : WorkerProgram α} (only : program.Only WorkerCall.Neutral)
    (balance : Balance queued excess s.2) :
    Accounted env outcome (fun _ s' => Balance queued excess s'.2)
      (fun _ s' => Balance queued excess s'.2) program s := by
  induction program generalizing s with
  | done value => exact balance
  | throws error => exact balance
  | hangs => trivial
  | call c next ih => exact fun places => ⟨trivial, ih _ (only.2 _) (balance.call places only.1)⟩

/-- A call that the tables or the metrics answer. -/
def WorkerCall.Sure (c : WorkerCall) : Prop := c.Preparatory ∧ c.Silent ∧ c.Handles

theorem WorkerCall.Sure.neutral {c : WorkerCall} (sure : c.Sure) : c.Neutral := by
  obtain ⟨prepares, silent, _⟩ := sure
  cases c with
  | service call =>
    cases call with
    | submitJob payload => exact absurd rfl (silent payload)
    | _ => trivial
  | process | release | record => trivial
  | incrementCompleted | incrementFailed => exact prepares.elim

theorem WorkerCall.Sure.answered {c : WorkerCall} (sure : c.Sure) (env : Env) (outcome : Except Err (Option String)) (s : Db × Store) :
    ∃ reply, (Store.work env outcome s c).1 = .ok reply := by
  obtain ⟨prepares, silent, handles⟩ := sure
  cases c with
  | service call =>
    cases call with
    | db statement => cases statement <;> first | exact ⟨_, rfl⟩ | exact handles.elim
    | submitJob payload => exact absurd rfl (silent payload)
    | randomUUID | now => exact ⟨_, rfl⟩
  | record => exact ⟨_, rfl⟩
  | process | release | incrementCompleted | incrementFailed => exact prepares.elim

theorem safe_sure {program : WorkerProgram α} (calm : program.Calm) (only : program.Only WorkerCall.Sure)
    (balance : Balance queued excess s.2) {thrown : Err → Db × Store → Prop} :
    Accounted env outcome (fun _ s' => Balance queued excess s'.2)
      thrown program s := by
  induction program generalizing s with
  | done value => exact balance
  | throws error => exact calm.elim
  | hangs => trivial
  | call c next ih =>
    intro places
    refine ⟨trivial, ?_⟩
    obtain ⟨reply, answer⟩ := only.1.answered env outcome s
    rw [answer]
    exact ih (.ok reply) (calm.2 reply) (only.2 _) (balance.call places only.1.neutral)

end Calls

section Programs

theorem neutral_of_silent {α : Type} {program : ServiceProgram α} (silent : program.Only ServiceCall.Silent) :
    (onServices program).Only WorkerCall.Neutral := by
  refine only_onServices (silent.mono fun c silent => ?_)
  cases c with
  | submitJob payload => exact absurd rfl (silent payload)
  | _ => trivial

theorem neutral_scheduleNextJob (workFlowId : WorkFlowId) (tenantId : TenantId) :
    (onServices (scheduleNextJob workFlowId tenantId)).Only WorkerCall.Neutral := by
  unfold scheduleNextJob
  rw [bind_eq, onServices_bind]
  refine (neutral_of_silent (silent_query _)).bind fun count => ?_
  split
  · trivial
  · rw [bind_eq, onServices_bind]
    refine (neutral_of_silent (silent_pickNextJobGLobal workFlowId)).bind fun candidate => ?_
    cases candidate with
    | none => trivial
    | some candidate =>
      refine only_onServices ((only_await (S := serviceSignature) trivial).bind fun _ => ?_)
      cases resolved : resolveQueueName candidate.type with
      | error error => trivial
      | ok queueName => exact (only_await (S := serviceSignature) resolved).bind fun _ => trivial

theorem neutral_onJobCompleted (jobId : JobId) : (onServices (onJobCompleted jobId)).Only WorkerCall.Neutral := by
  unfold onJobCompleted
  rw [bind_eq, onServices_bind]
  refine (neutral_of_silent (silent_query _)).bind fun found => ?_
  split
  · trivial
  · rw [bind_eq, onServices_bind]
    exact (neutral_of_silent (silent_unlockChildren jobId)).bind fun _ => neutral_scheduleNextJob _ _

theorem neutral_handleParentFailure (jobId : JobId) : (onServices (handleParentFailure jobId)).Only WorkerCall.Neutral := by
  unfold handleParentFailure
  rw [bind_eq, onServices_bind]
  refine (neutral_of_silent (silent_query _)).bind fun found => ?_
  split
  · trivial
  · rw [bind_eq, onServices_bind]
    refine (neutral_of_silent (silent_query _)).bind fun deps => ?_
    rw [bind_eq, onServices_bind]
    exact (neutral_of_silent (only_forEach fun dep _ => silent_skipChild _)).bind fun _ => neutral_scheduleNextJob _ _

/-- A failure after which another attempt follows is not counted. -/
theorem neutral_recordFailure {job : BullJob} (retried : isFinalFailure job = false) (attempt : Attempt) (error : Err) :
    (recordFailure job attempt error).Only WorkerCall.Neutral := by
  unfold recordFailure
  simp only [retried, Bool.false_eq_true, if_false]
  exact (neutral_of_silent silent_clock).bind fun _ => (neutral_of_silent silent_clock).bind fun _ =>
    (neutral_of_silent (silent_query _)).bind fun _ => (neutral_of_silent (silent_query _)).bind fun _ => trivial

theorem sure_register (job : BullJob) (executeStart now : Nat) (existingJob : Option Job) :
    (register job executeStart now existingJob).Only WorkerCall.Sure := by
  have silent : (register job executeStart now existingJob).Only WorkerCall.Silent := by
    simp only [register, bind_eq, pure_eq_done]
    repeat' first
      | exact silent_onServices silent_clock
      | exact silent_onServices (silent_query _)
      | exact silent_onServices (silent_trackSequence job)
      | exact only_await (S := workerSignature) trivial
      | exact only_done _
      | refine Only.bind ?_ fun _ => ?_
      | split
  exact (preparatory_register job executeStart now existingJob).and (silent.and (handles_register job executeStart now existingJob))

end Programs

section Attempt

variable {env : Env} {queued : List QueuedJob} {excess : String → Int} {s : Db × Store} {job : BullJob}

/-- One more run of a job of the queue has ended. -/
def ended (excess : String → Int) (queueName : String) : String → Int :=
  fun name => excess name - if queueName = name then 1 else 0

theorem safe_afterSuccess {outcome : Except Err (Option String)} (attempt : Attempt) (result : Option String)
    (balance : Balance queued excess s.2) :
    Accounted env outcome (fun _ s' => Balance queued (ended excess job.queueName) s'.2) (fun _ _ => False) (afterSuccess job attempt result) s := by
  have single {c : WorkerCall} (sure : c.Sure) {s : Db × Store} (balance : Balance queued excess s.2) :
      Accounted env outcome (fun _ s' => Balance queued excess s'.2) (fun _ _ => False) (awaitWork c) s :=
    safe_sure (calm_await c) (only_await (S := workerSignature) sure) balance
  have statement {c : DbCall} (handles : ServiceCall.Handles (.db c)) {s : Db × Store} (balance : Balance queued excess s.2) :
      Accounted env outcome (fun _ s' => Balance queued excess s'.2) (fun _ _ => False) (onServices (query c)) s := by
    have sure : WorkerCall.Sure (.service (.db c)) := ⟨trivial, by simp [WorkerCall.Silent, ServiceCall.Silent], handles⟩
    exact safe_sure (calm_query c) (only_onServices (only_await (S := serviceSignature) sure)) balance
  have clocks {s : Db × Store} (balance : Balance queued excess s.2) :
      Accounted env outcome (fun _ s' => Balance queued excess s'.2) (fun _ _ => False) (onServices clock) s := by
    have sure : WorkerCall.Sure (.service .now) := ⟨trivial, by simp [WorkerCall.Silent, ServiceCall.Silent], trivial⟩
    exact safe_sure calm_clock (only_onServices (only_await (S := serviceSignature) sure)) balance
  have closes (finish : Nat) {s : Db × Store} (balance : Balance queued excess s.2) :
      Accounted env outcome (fun _ s' => Balance queued (ended excess job.queueName) s'.2) (fun _ _ => False)
        ((record (.jobCompleted job.queueName job.data.jobType job.data.priorityLevel
          (((finish : Rat) - attempt.executeStart) / 1000) attempt.waitSeconds)).bind
            fun _ => incrementCompleted job.queueName) s :=
    (single (c := .record _) ⟨trivial, trivial, trivial⟩ balance).seq fun _ _ balance _ => ⟨trivial, balance.completed job.queueName⟩
  simp only [afterSuccess, bind_eq]
  refine (clocks balance).seq fun now s₁ balance => (clocks balance).seq fun finish s₂ balance => ?_
  refine (statement (by trivial) balance).seq fun _ s₃ balance => (statement (by trivial) balance).seq fun _ s₄ balance => ?_
  split
  · apply Safe.bind
    apply Safe.capture
    exact (safe_neutral (neutral_onJobCompleted _) balance).mono (fun _ _ same => same)
      (fun _ _ balance => closes finish balance) fun _ _ balance => closes finish balance
  · exact closes finish balance

theorem safe_afterFailure {outcome : Except Err (Option String)} (retried : isFinalFailure job = false) (attempt : Attempt)
    (error : Err) (balance : Balance queued excess s.2) :
    Accounted env outcome (fun _ _ => False)
      (fun _ s' => Balance queued excess s'.2) (afterFailure job attempt error) s := by
  rw [afterFailure_eq]
  exact (safe_neutral (neutral_recordFailure retried attempt error) balance).seq fun _ _ balance =>
    (safe_neutral (neutral_handleParentFailure _) balance).seq fun _ _ balance => balance

/-- The outcome of `process` that an attempt can be accounted for: a failure only if another attempt follows. -/
def Accountable (job : BullJob) (outcome : Except Err (Option String)) : Prop :=
  isFinalFailure job = true → outcome.toBool = true

theorem safe_afterProcess {outcome : Except Err (Option String)} (accountable : Accountable job outcome) (attempt : Attempt)
    (balance : Balance queued excess s.2) :
    Accounted env outcome (fun _ s' => Balance queued (ended excess job.queueName) s'.2)
      (fun _ s' => isFinalFailure job = false ∧ Balance queued excess s'.2) (afterProcess job attempt outcome) s := by
  have released {excess : String → Int} (completion : Except Err Unit) {s : Db × Store} (balance : Balance queued excess s.2)
      {ok : Unit → Db × Store → Prop} {thrown : Err → Db × Store → Prop}
      (ends : ∀ s' : Db × Store, Balance queued excess s'.2 →
        Accounted env outcome ok thrown (.ofExcept completion) s') :
      Accounted env outcome ok thrown
        (if outcome.toBool || isFinalFailure job then
          ((release job.data.tenantId job.queueName).capture).bind fun _ => .ofExcept completion
        else .ofExcept completion) s := by
    split
    · have neutral : (release job.data.tenantId job.queueName).Only WorkerCall.Neutral :=
        only_await (S := workerSignature) trivial
      apply Safe.bind
      apply Safe.capture
      exact (safe_neutral neutral balance).mono (fun _ _ same => same) (fun _ s' balance => ends s' balance)
        fun _ s' balance => ends s' balance
    · exact ends s balance
  rw [afterProcess_eq]
  apply Safe.bind
  apply Safe.capture
  apply Safe.catching
  cases outcome with
  | ok result =>
    exact (safe_afterSuccess attempt result balance).mono (fun _ _ same => same)
      (fun _ s' balance => released _ balance fun _ balance => balance) fun _ _ impossible => impossible.elim
  | error error =>
    have retried : isFinalFailure job = false := by
      cases final : isFinalFailure job with
      | false => rfl
      | true => cases accountable final
    exact (safe_afterFailure retried attempt error balance).mono (fun _ _ same => same) (fun _ _ impossible => impossible.elim)
      fun _ s' balance => released _ balance fun _ balance => ⟨retried, balance⟩

theorem safe_execute {outcome : Except Err (Option String)} (accountable : Accountable job outcome)
    (incomplete : s.1.status job.data.jobId ≠ some .COMPLETED) (balance : Balance queued excess s.2) :
    Accounted env outcome (fun _ s' => Balance queued (ended excess job.queueName) s'.2)
      (fun _ s' => isFinalFailure job = false ∧ Balance queued excess s'.2) (execute job) s := by
  have looks : Accounted env outcome (fun found s' => found.2.2 = s.1.job? job.data.jobId ∧ s' = s)
      (fun _ s' => isFinalFailure job = false ∧ Balance queued excess s'.2) (lookup job) s :=
    fun _ => ⟨trivial, fun _ => ⟨trivial, fun _ => ⟨trivial, rfl, rfl⟩⟩⟩
  rw [execute_eq]
  refine looks.seq fun found s₁ both => ?_
  obtain rfl : s = s₁ := both.2.symm
  obtain ⟨executeStart, now, existingJob⟩ := found
  obtain rfl : existingJob = s.1.job? job.data.jobId := both.1
  have starts : shortcut job (s.1.job? job.data.jobId) = false := by
    unfold shortcut
    cases row : s.1.job? job.data.jobId with
    | none => rfl
    | some row' =>
      rw [Db.status, row, Option.map_some] at incomplete
      simp [show row'.status ≠ .COMPLETED from fun same => incomplete (by rw [same])]
  dsimp only
  rw [starts, if_neg Bool.false_ne_true]
  refine (safe_sure (calm_register job executeStart now _) (sure_register job executeStart now _) balance).seq
    fun attempt s₂ balance => ?_
  apply Safe.bind
  apply Safe.capture
  refine fun _ => ⟨trivial, ?_⟩
  cases outcome with
  | ok result => exact safe_afterProcess accountable attempt balance
  | error error => exact safe_afterProcess accountable attempt balance

end Attempt

section Runs

variable {s s' : Floor} {i : Nat} {job : QueuedJob} {consumer : Consumer} {tenantRateLimit : Option Int} {env : Env}
  {outcome : Except Err (Option String)}

/-- The rate limiter of the base worker turns the attempt down. -/
def TurnsDown (env : Env) (tenantRateLimit : Option Int) (job : BullJob) (s : Floor) : Consumer → Prop
  | .base => Plant.Limited (fun _ => env.now) tenantRateLimit job s
  | .autoscaled => False

/-- The step finds what the accounts rest on: a submission finds its queue, and a queue that holds no job under its id;
    an attempt that is not turned down finds its row not completed, it does not fail for the last time, and each of
    its own submissions and releases finds its queue in the same way. -/
def Floor.Sound (s : Floor) : FloorEvent → Prop
  | .submit submission => s.rest.2.Admits submission.payload
  | .attempt i consumer tenantRateLimit env outcome => ∀ job ∈ s.rest.2.queued[i]?,
    ¬ TurnsDown env tenantRateLimit job.run s consumer →
      s.rest.1.status job.run.data.jobId ≠ some .COMPLETED ∧ Accountable job.run outcome ∧
        ∀ v ∈ visited (Store.work env outcome) (execute job.run) s.rest, v.1.2.Places v.2
  | _ => True

/-- A job that has failed for the last time is in a dead-letter queue, and in no counter. -/
structure Floor.Balanced (s : Floor) : Prop where
  parked : ∃ parked, s.rest.2.Parked parked
  even : ∀ queueName, s.rest.2.excess queueName = (s.queueSnapshot queueName).dlq

theorem clocked_work (env : Env) (outcome : Except Err (Option String)) :
    Clocked (Store.work env outcome) fun _ => env.now := fun _ => rfl

/-- The dead-letter queue has taken the job if no attempt follows. -/
def Floor.lettered (s : Floor) (job : BullJob) : Floor :=
  { s with
    letters := s.letters ++
      if isFinalFailure job then [⟨job.queueName ++ "_DLQ", job.data.jobType, job.data, false, false⟩] else [] }

theorem run_raised (job : BullJob) (error : Err) (s : Floor) :
    run (hosted (Store.work env outcome)) (raised onFailed job error) s = (.thrown error, s.lettered job) ∧
      run (hosted (Store.work env outcome)) (raised WorkerRegistry.onFailed job error) s = (.thrown error, s.lettered job) := by
  cases final : isFinalFailure job with
  | false =>
    obtain ⟨base, autoscaled⟩ := raised_retried error final
    have same : s.lettered job = s := by simp [Floor.lettered, final]
    rw [base, autoscaled, same]
    exact ⟨rfl, rfl⟩
  | true =>
    have last : job.attemptsMade + 1 ≥ job.opts.attempts := of_decide_eq_true final
    have base : onFailed { job with attemptsMade := job.attemptsMade + 1 } = awaitHost (letter job) := if_pos last
    have autoscaled : WorkerRegistry.onFailed { job with attemptsMade := job.attemptsMade + 1 } =
        (awaitHost (letter job)).bind fun _ => onWorker (record (.dlqMove job.queueName job.data.jobType)) := if_pos last
    have left : s.lettered job = { s with
        letters := s.letters ++ [⟨job.queueName ++ "_DLQ", job.data.jobType, job.data, false, false⟩] } := by
      simp [Floor.lettered, final]
    rw [raised, raised, base, autoscaled, left]
    exact ⟨rfl, rfl⟩

/-- An attempt is turned down, or it comes to what `execute` comes to. -/
theorem attempt_ends (consumer : Consumer) (tenantRateLimit : Option Int) (env : Env) (outcome : Except Err (Option String))
    (job : BullJob) (s : Floor) :
    (TurnsDown env tenantRateLimit job s consumer ∧ ∃ error counters,
      run (hosted (Store.work env outcome)) (consumer.runAttempt tenantRateLimit job) s =
        (.thrown error, Floor.lettered { s with counters := counters } job)) ∨
    (¬ TurnsDown env tenantRateLimit job s consumer ∧ ∃ counters,
      run (hosted (Store.work env outcome)) (consumer.runAttempt tenantRateLimit job) s =
        match run (Store.work env outcome) (execute job) s.rest with
        | (.thrown error, rest) => (.thrown error, Floor.lettered { s with counters := counters, rest := rest } job)
        | (ended, rest) => (ended, { s with counters := counters, rest := rest })) := by
  have passes {failed : BullJob → HostProgram Unit} {program : HostProgram Unit} {counters : String → Int}
      (ran : run (hosted (Store.work env outcome)) program s =
        ((run (Store.work env outcome) (execute job) s.rest).1,
          { s with counters := counters, rest := (run (Store.work env outcome) (execute job) s.rest).2 }))
      (raises : ∀ error s, run (hosted (Store.work env outcome)) (raised failed job error) s = (.thrown error, Floor.lettered s job)) :
      run (hosted (Store.work env outcome)) (handled failed program job) s =
        match run (Store.work env outcome) (execute job) s.rest with
        | (.thrown error, rest) => (.thrown error, Floor.lettered { s with counters := counters, rest := rest } job)
        | (ended, rest) => (ended, { s with counters := counters, rest := rest }) := by
    cases executed : run (Store.work env outcome) (execute job) s.rest with
    | mk ended rest =>
      rw [executed] at ran
      cases ended with
      | thrown error => rw [(handled_throws failed ran).1, raises]
      | ok value => rw [(handled_returns failed ran (by simp)).1]
      | hung => rw [(handled_returns failed ran (by simp)).1]
  cases consumer with
  | base =>
    by_cases limited : Plant.Limited (fun _ => env.now) tenantRateLimit job s
    · obtain ⟨⟨error, ran⟩, _⟩ := processor_rejected (clocked_work env outcome) limited
      refine .inl ⟨limited, error, Plant.counted (fun _ => env.now) tenantRateLimit job s, ?_⟩
      rw [runAttempt_base, (handled_throws onFailed ran).1, (run_raised job error _).1]
    · refine .inr ⟨limited, Plant.counted (fun _ => env.now) tenantRateLimit job s, ?_⟩
      rw [runAttempt_base]
      exact passes (processor_passed (clocked_work env outcome) limited).1 fun error s => (run_raised job error s).1
  | autoscaled =>
    refine .inr ⟨fun impossible => impossible, s.counters, ?_⟩
    rw [runAttempt_autoscaled]
    exact passes (run_hosted (execute job) s) fun error s => (run_raised job error s).2

theorem excess_setJob {st : Store} {old : QueuedJob} (at_i : st.queued[i]? = some old) (new : QueuedJob)
    (same : new.run.queueName = old.run.queueName) (queueName : String) :
    Store.excess { st with queued := st.queued.set i new } queueName = st.excess queueName +
      if old.run.queueName = queueName then (if old.state.inflight then 1 else 0) - (if new.state.inflight then 1 else 0)
      else 0 := by
  obtain ⟨bound, here⟩ := List.getElem?_eq_some_iff.mp at_i
  have sets := List.countP_set (p := QueuedJob.counts queueName) (a := new) bound
  rw [here] at sets
  have counted : QueuedJob.counts queueName old = true → 0 < st.queued.countP (QueuedJob.counts queueName) := fun counts =>
    List.countP_pos_iff.mpr ⟨old, List.mem_of_getElem? at_i, counts⟩
  simp only [Store.excess, Store.inflight]
  rw [sets]
  by_cases own : old.run.queueName = queueName
  · simp only [QueuedJob.counts, own, same, decide_true, Bool.true_and, if_true] at counted ⊢
    cases was : old.state.inflight with
    | true =>
      have some := counted was
      cases new.state.inflight <;> (simp; omega)
    | false =>
      cases new.state.inflight with
      | true => simp; omega
      | false => simp
  · simp [QueuedJob.counts, own, same]

/-- A job that BullMQ moves between the states of a job that has not ended. -/
theorem Floor.Balanced.moved (balanced : s.Balanced) (at_i : s.rest.2.queued[i]? = some job) {state : BullState}
    (was : job.state.inflight = true) (is_ : state.inflight = true) : (s.setJob i { job with state := state }).Balanced := by
  obtain ⟨parked, held⟩ := balanced.parked
  refine ⟨⟨parked, held.of_redis rfl fun _ _ => rfl⟩, fun queueName => ?_⟩
  have excess := excess_setJob at_i { job with state := state } rfl queueName
  rw [was, is_] at excess
  have even := balanced.even queueName
  simp only [Int.sub_self, if_true, ite_self, add_zero] at excess
  exact excess.trans even

/-- A job whose attempt has ended. -/
theorem Floor.balanced_setJob {new : QueuedJob} (at_i : s.rest.2.queued[i]? = some job) (active : job.state = .active)
    (same : new.run.queueName = job.run.queueName) (parked : ∃ parked, s.rest.2.Parked parked)
    (even : ∀ queueName, s.rest.2.excess queueName +
      (if job.run.queueName = queueName then 1 - (if new.state.inflight then 1 else 0) else 0) =
        (s.queueSnapshot queueName).dlq) : (s.setJob i new).Balanced := by
  obtain ⟨parked, held⟩ := parked
  refine ⟨⟨parked, held.of_redis rfl fun _ _ => rfl⟩, fun queueName => ?_⟩
  have excess := excess_setJob at_i new same queueName
  rw [active] at excess
  exact excess.trans (even queueName)

theorem dlq_lettered (s : Floor) (job : BullJob) (queueName : String) : ((s.lettered job).queueSnapshot queueName).dlq =
    (s.queueSnapshot queueName).dlq + if isFinalFailure job ∧ job.queueName = queueName then 1 else 0 := by
  unfold Floor.queueSnapshot Floor.lettered
  cases final : isFinalFailure job with
  | false => simp
  | true =>
    dsimp only
    rw [if_pos rfl, List.countP_append, List.countP_singleton]
    by_cases own : job.queueName = queueName
    · simp [own]
    · have apart : ¬ job.queueName ++ "_DLQ" = queueName ++ "_DLQ" := by simpa using own
      simp [own, apart]

theorem inflight_failed (job : QueuedJob) : job.failed.state.inflight = !isFinalFailure job.run := by
  cases final : isFinalFailure job.run with
  | true =>
    have last : job.run.opts.attempts ≤ job.run.attemptsMade + 1 := of_decide_eq_true final
    simp [QueuedJob.failed, last, BullState.inflight]
  | false =>
    have more : ¬ job.run.opts.attempts ≤ job.run.attemptsMade + 1 := of_decide_eq_false final
    simp [QueuedJob.failed, more, BullState.inflight]

/-- An attempt on which the accounts can rest leaves them even. -/
theorem Floor.Balanced.attempt (balanced : s.Balanced) (at_i : s.rest.2.queued[i]? = some job) (active : job.state = .active)
    (sound : s.Sound (.attempt i consumer tenantRateLimit env outcome))
    (stepped : s.attempt i job consumer tenantRateLimit env outcome = some s') : s'.Balanced := by
  have kept (rest : Db × Store) (holds : s.rest.2.queued <+: rest.2.queued) : rest.2.queued[i]? = some job := by
    obtain ⟨bound, here⟩ := List.getElem?_eq_some_iff.mp at_i
    rw [List.prefix_iff_getElem?.mp holds i bound, here]
  unfold Floor.attempt at stepped
  rcases attempt_ends consumer tenantRateLimit env outcome job.run s with
    ⟨_, error, counters, ran⟩ | ⟨passes, counters, ran⟩
  · rw [ran] at stepped
    obtain rfl := Option.some.inj stepped
    refine Floor.balanced_setJob at_i active rfl balanced.parked fun queueName => ?_
    have even := balanced.even queueName
    rw [dlq_lettered, inflight_failed]
    change s.rest.2.excess queueName + _ = (((s.queueSnapshot queueName).dlq + _ : Nat) : Int)
    rw [even]
    cases isFinalFailure job.run with
    | false => simp
    | true =>
      by_cases own : job.run.queueName = queueName
      · simp [own]
      · simp [own]
  · obtain ⟨incomplete, accountable, placed⟩ := sound job at_i passes
    have balance : Balance s.rest.2.queued s.rest.2.excess s.rest.2 := ⟨balanced.parked, fun _ => rfl, List.prefix_rfl⟩
    have safe : Accounted env outcome _ _ (execute job.run) s.rest := safe_execute accountable incomplete balance
    rw [ran] at stepped
    cases executed : run (Store.work env outcome) (execute job.run) s.rest with
    | mk ended rest =>
      rw [executed] at stepped
      cases ended with
      | hung => cases stepped
      | ok value =>
        have balance := safe.returns placed executed
        obtain rfl := Option.some.inj stepped
        refine Floor.balanced_setJob (kept rest balance.holds) active rfl balance.parked fun queueName => ?_
        have even : rest.2.excess queueName = _ := balance.exact_ queueName
        change rest.2.excess queueName + _ = ((s.queueSnapshot queueName).dlq : Int)
        rw [even, ← balanced.even]
        unfold OrchestrateModel.ended
        split <;> simp [BullState.inflight]
      | thrown error =>
        obtain ⟨retried, balance⟩ := safe.rethrows placed executed
        obtain rfl := Option.some.inj stepped
        refine Floor.balanced_setJob (kept rest balance.holds) active rfl balance.parked
          fun queueName => ?_
        have even : rest.2.excess queueName = _ := balance.exact_ queueName
        rw [dlq_lettered, inflight_failed, retried]
        change rest.2.excess queueName + _ = (((s.queueSnapshot queueName).dlq + _ : Nat) : Int)
        rw [even, balanced.even queueName]
        simp

theorem Floor.Balanced.step {e : FloorEvent} (balanced : s.Balanced) (sound : s.Sound e) (stepped : floor_.step s e = some s') :
    s'.Balanced := by
  obtain ⟨parked, held⟩ := balanced.parked
  cases e with
  | statement env c =>
    obtain rfl := Option.some.inj stepped
    exact ⟨⟨parked, held⟩, balanced.even⟩
  | submit submission =>
    obtain rfl := Option.some.inj stepped
    obtain ⟨parks, keeps, _⟩ := Store.submitJob_kept held submission.named sound
    exact ⟨parks, fun queueName => (keeps queueName).trans (balanced.even queueName)⟩
  | promote i =>
    obtain ⟨job, at_i, moves⟩ := Option.bind_eq_some_iff.mp stepped
    split at moves
    · rename_i delayed
      obtain rfl := Option.some.inj moves
      refine balanced.moved at_i (by rw [delayed]; rfl) ?_
      unfold BullMQ.ready
      split <;> rfl
    · cases moves
  | take i =>
    obtain ⟨job, at_i, moves⟩ := Option.bind_eq_some_iff.mp stepped
    split at moves
    · rename_i waits
      obtain rfl := Option.some.inj moves
      refine balanced.moved at_i ?_ rfl
      rcases waits with waits | waits <;> rw [waits] <;> rfl
    · cases moves
  | attempt i consumer tenantRateLimit env outcome =>
    obtain ⟨job, at_i, runs⟩ := Option.bind_eq_some_iff.mp stepped
    split at runs
    · rename_i active
      exact balanced.attempt at_i active sound runs
    · cases runs

theorem inflightTotal_eq (s : Floor) (queueName : String) :
    MetricsController.inflightTotal (s.queueSnapshot queueName) = s.rest.2.inflight queueName := by
  unfold MetricsController.inflightTotal Floor.queueSnapshot Floor.inState Store.inflight
  induction s.rest.2.queued with
  | nil => rfl
  | cons job rest ih =>
    obtain ⟨run, state⟩ := job
    simp only [List.countP_cons, QueuedJob.counts] at ih ⊢
    by_cases own : run.queueName = queueName
    · cases state <;> simp [own, BullState.inflight] <;> omega
    · simpa [own] using ih

theorem balanced_empty : Floor.empty.Balanced where
  parked := ⟨0, fun _ => rfl, fun _ => rfl, fun _ => rfl, fun _ member => absurd member (Multiset.notMem_zero _)⟩
  even _ := rfl

theorem Floor.Balanced.delta (balanced : s.Balanced) (queueName : String) :
    MetricsController.delta (s.queueSnapshot queueName) (QueueReconcileCollector.getQueueState s.rest.2.redis queueName) = 0 := by
  have even := balanced.even queueName
  simp only [Store.excess] at even
  unfold MetricsController.delta MetricsController.accountedForTotal
  rw [inflightTotal_eq]
  omega

/-- The accounts of every queue are even at the start, and after each step of a run whose steps find what they rest on. -/
theorem reconciled {visited : List (Floor × FloorEvent)} (run : floor_.Run .empty visited s)
    (sound : Machine.Guarded Floor.Sound visited) (queueName : String) :
    MetricsController.delta (s.queueSnapshot queueName) (QueueReconcileCollector.getQueueState s.rest.2.redis queueName) = 0 ∧
      (s.report queueName).checks.matched = true := by
  have balanced := run.invariant Floor.Balanced sound balanced_empty fun _ _ _ balanced sound stepped =>
    balanced.step sound stepped
  have even := balanced.delta queueName
  exact ⟨even, decide_eq_true even⟩

end Runs

section Examples

instance (st : Store) (payload : JobQueuePayload) : Decidable (st.Takes payload) := inferInstanceAs (Decidable (_ ∧ _))

instance (st : Store) (payload : JobQueuePayload) : Decidable (st.Admits payload) := inferInstanceAs (Decidable (_ → _))

instance (st : Store) (tenantId : TenantId) : Decidable (st.Drains tenantId) := inferInstanceAs (Decidable (_ → _))

instance (st : Store) (c : WorkerCall) : Decidable (st.Places c) := by
  unfold Store.Places
  split <;> infer_instance

theorem limited_iff {σ : Type} {time : σ → Nat} {tenantRateLimit : Option Int} {job : BullJob} {p : Plant σ} :
    Plant.Limited time tenantRateLimit job p ↔ (tenantRateLimit.any fun limit => limit > 0 && job.data.tenantId != "" &&
      limit ≤ p.counters (redisKey job.data.tenantId (time p.rest))) = true := by
  cases tenantRateLimit <;> simp [Plant.Limited, and_assoc]

instance (env : Env) (tenantRateLimit : Option Int) (job : BullJob) (s : Floor) :
    (consumer : Consumer) → Decidable (TurnsDown env tenantRateLimit job s consumer)
  | .base => show Decidable (Plant.Limited (fun _ => env.now) tenantRateLimit job s) from decidable_of_iff _ limited_iff.symm
  | .autoscaled => inferInstanceAs (Decidable False)

instance (job : BullJob) (outcome : Except Err (Option String)) : Decidable (Accountable job outcome) :=
  inferInstanceAs (Decidable (_ → _))

instance (s : Floor) : (e : FloorEvent) → Decidable (s.Sound e)
  | .statement _ _ | .promote _ | .take _ => inferInstanceAs (Decidable True)
  | .submit submission => inferInstanceAs (Decidable (s.rest.2.Admits submission.payload))
  | .attempt i consumer tenantRateLimit env outcome => inferInstanceAs (Decidable (∀ job ∈ s.rest.2.queued[i]?,
      ¬ TurnsDown env tenantRateLimit job.run s consumer →
        s.rest.1.status job.run.data.jobId ≠ some .COMPLETED ∧ Accountable job.run outcome ∧
          ∀ v ∈ visited (Store.work env outcome) (execute job.run) s.rest, v.1.2.Places v.2))

/-- Seven jobs of `t` are submitted, two of them staged, and one of `u`; an attempt of the first one fails and is retried
    later, one of the second succeeds and drains the first staged job. -/
def retriedAndDrained : List FloorEvent :=
  (List.range 7).map (fun i => .submit { payload := { soloPayload with jobId := i }, once := rfl, named := rfl }) ++
    [.submit { payload := { soloPayload with jobId := 7, tenantId := "u" }, once := rfl, named := rfl },
      .take 0, .attempt 0 .base none Env.plain (.error lost), .take 1, .attempt 1 .autoscaled none Env.plain (.ok none)]

theorem reconciled_retriedAndDrained : ∃ s, floor_.exec .empty retriedAndDrained = some s ∧
    (getQueueState s.rest.2.redis "email-jobs").staged = 1 ∧ (getQueueState s.rest.2.redis "email-jobs").completed = 1 ∧
    (s.queueSnapshot "email-jobs").delayed = 1 ∧ (s.queueSnapshot "email-jobs").prioritized = 5 ∧
    MetricsController.delta (s.queueSnapshot "email-jobs") (getQueueState s.rest.2.redis "email-jobs") = 0 := by
  have done : ((floor_.exec .empty retriedAndDrained).any fun s =>
      (getQueueState s.rest.2.redis "email-jobs").staged = 1 ∧ (getQueueState s.rest.2.redis "email-jobs").completed = 1 ∧
        (s.queueSnapshot "email-jobs").delayed = 1 ∧ (s.queueSnapshot "email-jobs").prioritized = 5) = true := by decide +kernel
  obtain ⟨s, ran, counts⟩ := (Option.any_eq_true _ _).mp done
  obtain ⟨staged, completed, delayed, prioritized⟩ := of_decide_eq_true counts
  have sound : Machine.Guarded Floor.Sound (floor_.trace .empty retriedAndDrained) := by decide +kernel
  exact ⟨s, ran, staged, completed, delayed, prioritized, (reconciled (Machine.run_of_exec ran) sound "email-jobs").1⟩

/-- A job with one attempt is submitted, taken, and run. -/
def single (outcome : Except Err (Option String)) : List FloorEvent :=
  [.submit { payload := { soloPayload with retries := 1 }, once := rfl, named := by decide },
    .take 0, .attempt 0 .autoscaled none Env.plain outcome]

/-- The last failure of a job is counted as failed, and its entry in the dead-letter queue once more. -/
theorem reconcile_overcounts : ∃ visited s, floor_.Run .empty visited s ∧
    (s.report "email-jobs").terminal = (0, 1, 1) ∧
    MetricsController.delta (s.queueSnapshot "email-jobs") (getQueueState s.rest.2.redis "email-jobs") = -1 := by
  have done : ((floor_.exec .empty (single (.error lost))).any fun s => (s.report "email-jobs").terminal = (0, 1, 1) ∧
      MetricsController.delta (s.queueSnapshot "email-jobs") (getQueueState s.rest.2.redis "email-jobs") = -1) = true := by
    decide +kernel
  obtain ⟨s, ran, counted⟩ := (Option.any_eq_true _ _).mp done
  exact ⟨_, s, Machine.run_of_exec ran, of_decide_eq_true counted⟩

end Examples

end OrchestrateModel
