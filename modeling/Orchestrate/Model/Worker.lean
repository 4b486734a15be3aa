import Orchestrate.Model.Processor

namespace OrchestrateModel

open Effect

/-- The awaited calls of a worker process: those of a job's run, and its own to Redis and to the dead-letter queue. -/
inductive HostCall : Type where
  | work (c : WorkerCall)
  | incr (key : String)
  | expire (key : String) (seconds : Nat)
  | deadLetterAdd (queueName name : String) (data : JobQueuePayload) (removeOnComplete removeOnFail : Bool)

@[reducible] def HostCall.Reply : HostCall → Type
  | .work c => c.Reply
  | .incr _ => Int
  | .expire _ _ | .deadLetterAdd _ _ _ _ _ => Unit

abbrev hostSignature : Signature := ⟨HostCall, HostCall.Reply⟩

abbrev HostProgram := Program hostSignature Err

def awaitHost (c : HostCall) : HostProgram c.Reply := Program.await (S := hostSignature) c

/-- The processor's program as part of the worker's. -/
def onWorker {α : Type} : WorkerProgram α → HostProgram α
  | .done value => .done value
  | .throws error => .throws error
  | .hangs => .hangs
  | .call c next => Program.call (S := hostSignature) (.work c) fun reply => onWorker (next reply)

namespace BaseWorker

def redisKey (tenantId : TenantId) (now : Nat) : String := "jobs:" ++ tenantId ++ ":" ++ toString (now / 60000)

/-- The rate limiter; a `tenantRateLimit` that is not a number is none. -/
def limitRate (tenantRateLimit : Option Int) (job : BullJob) : HostProgram Unit := do
  match tenantRateLimit with
  | none => return ()
  | some limit =>
    if limit > 0 ∧ job.data.tenantId ≠ "" then
      let now ← onWorker (onServices clock)
      let current ← awaitHost (.incr (redisKey job.data.tenantId now))
      if current = 1 then
        awaitHost (.expire (redisKey job.data.tenantId now) 60)
      if current > limit then
        .throws { message := "Rate limit: max " ++ toString limit ++ " jobs/minute for tenant " ++ job.data.tenantId }

/-- What the rate limiter makes of the value of the counter. -/
def judgeRate (limit : Int) (tenantId : TenantId) (current : Int) : HostProgram Unit :=
  if current > limit then
    .throws { message := "Rate limit: max " ++ toString limit ++ " jobs/minute for tenant " ++ tenantId }
  else .done ()

def renewRate (tenantId : TenantId) (now : Nat) (current : Int) : HostProgram Unit :=
  if current = 1 then awaitHost (.expire (redisKey tenantId now) 60) else .done ()

theorem limitRate_eq {limit : Int} {job : BullJob} (limited : limit > 0 ∧ job.data.tenantId ≠ "") :
    limitRate (some limit) job = (onWorker (onServices clock)).bind fun now =>
      (awaitHost (.incr (redisKey job.data.tenantId now))).bind fun current =>
        (renewRate job.data.tenantId now current).bind fun _ => judgeRate limit job.data.tenantId current := by
  refine (if_pos limited).trans ?_
  congr 1
  funext now
  congr 1
  funext current
  by_cases first : current = 1
  · simp only [renewRate, if_pos first]
    rfl
  · simp only [renewRate, if_neg first]
    rfl

/-- The function that BullMQ's worker runs for each attempt. -/
def processor (tenantRateLimit : Option Int) (job : BullJob) : HostProgram Unit := do
  limitRate tenantRateLimit job
  onWorker (BaseProcessor.execute job)

/-- The handler of the event `failed`. -/
def onFailed (job : BullJob) : HostProgram Unit := do
  if job.attemptsMade ≥ job.opts.attempts then
    awaitHost (.deadLetterAdd (job.queueName ++ "_DLQ") job.data.jobType job.data false false)

/-- One attempt: where it throws, BullMQ counts it and raises `failed`. -/
def runAttempt (tenantRateLimit : Option Int) (job : BullJob) : HostProgram Unit :=
  (processor tenantRateLimit job).catching fun error => do
    onFailed { job with attemptsMade := job.attemptsMade + 1 }
    .throws error

end BaseWorker
namespace WorkerRegistry

/-- The factories that `WorkerModule` registers: the processor is called as it is. -/
def processor (job : BullJob) : HostProgram Unit := onWorker (BaseProcessor.execute job)

/-- The handler of the event `failed` in `createWorker`. -/
def onFailed (job : BullJob) : HostProgram Unit := do
  if job.attemptsMade ≥ job.opts.attempts then
    awaitHost (.deadLetterAdd (job.queueName ++ "_DLQ") job.data.jobType job.data false false)
    onWorker (BaseProcessor.record (.dlqMove job.queueName job.data.jobType))

def runAttempt (job : BullJob) : HostProgram Unit :=
  (processor job).catching fun error => do
    onFailed { job with attemptsMade := job.attemptsMade + 1 }
    .throws error

end WorkerRegistry

/-- The workers of a queue: the one that its class starts, and those that the autoscaler spawns. -/
inductive Consumer : Type where
  | base | autoscaled
  deriving DecidableEq, Repr

def Consumer.runAttempt (tenantRateLimit : Option Int) : Consumer → BullJob → HostProgram Unit
  | .base => BaseWorker.runAttempt tenantRateLimit
  | .autoscaled => WorkerRegistry.runAttempt

end OrchestrateModel
