import Orchestrate.Model.Api
import Orchestrate.Model.JobViews
import Orchestrate.Model.TenantCap

namespace OrchestrateModel

open Effect

/-- What BullMQ computes by itself: the next run of a cron pattern, or the error of a pattern that it does not take, and
    the key of a repeatable job. -/
structure Repeater where
  nextRun : (pattern : String) → (now : Nat) → Except Err Nat
  key : (name : String) → (id : Option String) → (pattern : String) → String

/-- A repeatable job as BullMQ lists it. -/
structure RepeatableJob where
  key : String
  name : String
  id : Option String
  pattern : String
  next : Nat
  deriving DecidableEq, Repr

/-- A repeatable job of a queue, with the tenant of its data. -/
structure Repeat where
  queueName : String
  tenantId : TenantId
  job : RepeatableJob
  deriving DecidableEq, Repr

/-- Redis, and the repeatable jobs of the queues. -/
structure QueueStore where
  redis : Redis
  repeats : List Repeat

namespace QueueStore

/-- Under a key that the queue has already the entry is replaced. -/
def upsert (repeats : List Repeat) (added : Repeat) : List Repeat :=
  (repeats.filter fun entry => ¬ (entry.queueName = added.queueName ∧ entry.job.key = added.job.key)) ++ [added]

/-- `queue.add`; jobs that run once are no repeatable jobs. -/
def add (bull : Repeater) (queues : QueueStore) (queueName : String) (payload : JobQueuePayload) (options : JobsOptions) :
    Except Err Unit × QueueStore :=
  match options.repeat_ with
  | none => (.ok (), queues)
  | some repeat_ =>
    match bull.nextRun repeat_.pattern queues.redis.now with
    | .error error => (.error error, queues)
    | .ok next =>
      let id := repeat_.jobId.map uuidText
      let job : RepeatableJob :=
        { key := bull.key payload.jobType id repeat_.pattern, name := payload.jobType, id := id,
          pattern := repeat_.pattern, next := next }
      (.ok (), { queues with
        repeats := upsert queues.repeats { queueName := queueName, tenantId := payload.tenantId, job := job } })

def serve (bull : Repeater) : Handler capSignature Err QueueStore
  | queues, .queueAdd queueName payload options => queues.add bull queueName payload options
  | queues, c => (.ok (queues.redis.exec c).1, { queues with redis := (queues.redis.exec c).2 })

def submitJob (bull : Repeater) (queues : QueueStore) (payload : JobQueuePayload) : Except Err JobStatus × QueueStore :=
  match (TenantCapService.submitJob payload).run (serve bull) queues with
  | (.ok status, queues) => (.ok status, queues)
  | (.thrown error, queues) => (.error error, queues)
  | (.hung, queues) => (.error { message := "" }, queues)

/-- By the time of the next run, and then by the key. -/
def Sooner (a b : Repeat) : Prop := a.job.next < b.job.next ∨ a.job.next = b.job.next ∧ a.job.key ≤ b.job.key

instance (a b : Repeat) : Decidable (Sooner a b) := inferInstanceAs (Decidable (_ ∨ _))

def listing (queues : QueueStore) (queueName : String) : List Repeat :=
  (queues.repeats.filter fun entry => entry.queueName = queueName).insertionSort Sooner

end QueueStore

namespace QueueService

/-- `getJobSchedulers` gives the latest first. -/
def listRecurringJobs (queues : QueueStore) (jobType : String) : Except Err (List RepeatableJob) :=
  match getQueueName jobType with
  | none => .error { message := "No queue found for job type \"" ++ jobType ++ "\"" }
  | some queueName => .ok ((queues.listing queueName).reverse.map (·.job))

/-- From some index on the text goes on with the part. -/
def includes (text part : String) : Bool :=
  (List.range (text.toList.length + 1)).any fun i => part.toList.isPrefixOf (text.toList.drop i)

/-- The test of `repeatables.find`. -/
def isToRemove (jobType cronPattern : String) (jobId : Option String) (tenantId : TenantId) (r : RepeatableJob) : Bool :=
  r.name = jobType && r.pattern = cronPattern && (!truthy jobId || r.id = jobId) &&
    (tenantId = "" || r.id.any fun id => includes id tenantId)

/-- `getRepeatableJobs(0, 100, true)` gives the first 101. -/
def stopRecurringJob (queues : QueueStore) (jobType cronPattern : String) (jobId : Option String) (tenantId : TenantId) :
    Except Err String × QueueStore :=
  match getQueueName jobType with
  | none => (.error { message := "No queue found for job type \"" ++ jobType ++ "\"" }, queues)
  | some queueName =>
    match ((queues.listing queueName).take 101).find? fun entry => isToRemove jobType cronPattern jobId tenantId entry.job with
    | none => (.ok "Recurring job not found", queues)
    | some jobToRemove =>
      (.ok ("Recurring job stopped: " ++ jobType ++ " / " ++ cronPattern),
        { queues with
          repeats := queues.repeats.filter fun entry =>
            ¬ (entry.queueName = queueName ∧ entry.job.key = jobToRemove.job.key) })

end QueueService

/-- The routes of `JobsController`. -/
inductive JobsRequest : Type where
  | createJob (dto : CreateJobDto)
  | schedule (dto : CreateJobDto)
  | listRecurring (jobType : String)
  | stopRecurring (jobType cronPattern : String) (jobId : Option String)
  | getJob (id : JobId)
  | listJobs (filters : JobFilters)
  | retry (id : JobId)

def JobsRequest.route : JobsRequest → Route
  | .createJob _ => .createJob
  | .schedule _ => .schedule
  | .listRecurring _ => .listRecurring
  | .stopRecurring _ _ _ => .stopRecurring
  | .getJob _ => .getJob
  | .listJobs _ => .listJobs
  | .retry _ => .retry

inductive JobsReply : Type where
  | created (success : Bool) (job : JobResponse)
  | job (job : JobResponse)
  | jobs (jobs : List JobResponse)
  | recurring (jobs : List RepeatableJob)
  | message (text : String)
  deriving DecidableEq

/-- A request as it arrives. -/
structure JobsCall where
  token : Option Session
  request : JobsRequest
  env : Env

/-- The accounts, the tokens that were signed, the tables, and Redis with the queues. -/
structure Backend where
  auth : AuthDb
  tokens : List Session
  db : Db
  queues : QueueStore

namespace JobsController

variable (bull : Repeater)

/-- The user that the two guards let through. -/
def caller (s : Backend) (call : JobsCall) : Except Err (Option LoadedUser) :=
  match JwtAuthGuard.canActivate s.auth s.tokens call.request.route call.token with
  | .error error => .error error
  | .ok user =>
    match RoleGuard.canActivate call.request.route user with
    | .error error => .error error
    | .ok _ => .ok user

/-- A service's call over the tables and Redis. -/
def serving (s : Backend) (env : Env) (program : ServiceProgram Job) (reply : Job → JobsReply) :
    Outcome Err JobsReply × Backend :=
  match program.run (serve env (QueueStore.submitJob bull)) (s.db, s.queues) with
  | (.ok job, db, queues) => (.ok (reply job), { s with db := db, queues := queues })
  | (.thrown error, db, queues) => (.thrown error, { s with db := db, queues := queues })
  | (.hung, db, queues) => (.hung, { s with db := db, queues := queues })

def outcomeOf {α : Type} : Except Err α → Outcome Err α
  | .ok value => .ok value
  | .error error => .thrown error

/-- `createAndEnqueue` with the relations that the saved row was given. -/
def createAndEnqueue (s : Backend) (env : Env) (dto : CreateJobDto) (userId : UserId) (tenantId : TenantId)
    (reply : JobResponse → JobsReply) : Outcome Err JobsReply × Backend :=
  match dto.validate with
  | .error error => (.thrown error, s)
  | .ok _ =>
    serving bull s env (JobsService.createAndEnqueue dto userId tenantId) fun job =>
      reply (JobsService.formatJobResponse job { userId := some userId, tenantId := some tenantId } none none)

def dispatch (s : Backend) (user : LoadedUser) (tenant : Tenant) (env : Env) :
    JobsRequest → Outcome Err JobsReply × Backend
  | .createJob dto =>
    createAndEnqueue bull s env { dto with priorityLevel := some (dto.priorityLevel.getD .NONE) } user.user.id tenant.id
      (.created true)
  | .schedule dto => createAndEnqueue bull s env dto user.user.id tenant.id .job
  | .listRecurring jobType =>
    if user.user.role ≠ .ADMIN then (.thrown (forbidden "Forbidden"), s)
    else (outcomeOf ((QueueService.listRecurringJobs s.queues jobType).map .recurring), s)
  | .stopRecurring jobType cronPattern jobId =>
    if user.user.role ≠ .ADMIN then (.thrown (forbidden "only admin can stop recurring jobs"), s)
    else if jobType = "" ∨ cronPattern = "" then (.ok (.message "jobType and cronPattern are required"), s)
    else
      let (stopped, queues) := QueueService.stopRecurringJob s.queues jobType cronPattern jobId tenant.id
      (outcomeOf (stopped.map .message), { s with queues := queues })
  | .getJob id => (outcomeOf ((JobsService.getJobById s.db id tenant.id).map .job), s)
  | .listJobs filters => (.ok (.jobs (JobsService.listJobs env.arrange s.db tenant.id filters)), s)
  | .retry id =>
    serving bull s env (JobsService.retryFailedJob id user.user.id tenant.id) fun job =>
      .job (JobsService.formatJobResponse job { userId := none, tenantId := none } none none)

def handle (s : Backend) (call : JobsCall) : Outcome Err JobsReply × Backend :=
  match caller s call with
  | .error error => (.thrown error, s)
  | .ok user =>
    match authUser user with
    | .error error => (.thrown error, s)
    | .ok (user, tenant) => dispatch bull s user tenant call.env call.request

/-- The replies to a sequence of requests, and the state that they leave. -/
def handleAll (s : Backend) : List JobsCall → List (Outcome Err JobsReply) × Backend
  | [] => ([], s)
  | call :: later =>
    let (reply, s) := handle bull s call
    let (replies, s) := handleAll s later
    (reply :: replies, s)

end JobsController
end OrchestrateModel
