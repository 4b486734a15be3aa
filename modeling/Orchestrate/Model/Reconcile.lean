import Orchestrate.Model.Processor
import Orchestrate.Model.TenantCap

namespace OrchestrateModel

open Effect

/-- The states of a BullMQ job. -/
inductive BullState : Type where
  | waiting | prioritized | delayed | active | completed | failed
  deriving DecidableEq, Repr

/-- A job as BullMQ keeps it; finished jobs stay, as `removeOnComplete` and `removeOnFail` are false. -/
structure QueuedJob where
  run : BullJob
  state : BullState
  deriving DecidableEq, Repr

namespace BullMQ

def ready (options : JobsOptions) : BullState := if options.priority > 0 then .prioritized else .waiting

/-- The queue holds a job under the custom id already. -/
def holds (queued : List QueuedJob) (queueName : String) (options : JobsOptions) : Bool :=
  options.jobId.any fun id => queued.any fun job => job.run.queueName = queueName && job.run.opts.jobId = some id

/-- `queue.add`: under an id that the queue holds nothing is added. -/
def add (now : Nat) (queued : List QueuedJob) (queueName : String) (payload : JobQueuePayload) (options : JobsOptions) :
    List QueuedJob :=
  if holds queued queueName options then queued
  else
    queued ++
      [{ run := { data := payload, opts := options, attemptsMade := 0, queueName := queueName, timestamp := now }
         state := if options.delay.any (0 < ·) then .delayed else ready options }]

end BullMQ

/-- Redis with the queues of BullMQ. -/
structure Store where
  redis : Redis
  queued : List QueuedJob

namespace Store

def empty : Store := { redis := .empty, queued := [] }

/-- The queues after a call. -/
def queuedAfter (st : Store) : CapCall → List QueuedJob
  | .queueAdd queueName payload options => BullMQ.add st.redis.now st.queued queueName payload options
  | _ => st.queued

def serve : Handler capSignature Err Store := fun st c =>
  (.ok (st.redis.exec c).1, { redis := (st.redis.exec c).2, queued := st.queuedAfter c })

/-- A call of a Redis service from outside, as one step. -/
def perform {α : Type} (program : CapProgram α) (st : Store) : Except Err α × Store :=
  match program.run serve st with
  | (.ok value, st') => (.ok value, st')
  | (.thrown error, st') => (.error error, st')
  | (.hung, st') => (.error { message := "" }, st')

def submitJob (st : Store) (payload : JobQueuePayload) : Except Err JobStatus × Store :=
  perform (TenantCapService.submitJob payload) st

/-- The calls of an attempt; `outcome` is what its `process` comes to. -/
def work (env : Env) (outcome : Except Err (Option String)) : Handler workerSignature Err (Db × Store)
  | s, .service c => OrchestrateModel.serve env submitJob s c
  | s, .process _ => (outcome, s)
  | s, .record _ => (.ok (), s)
  | (db, st), .release tenantId queueName =>
    ((perform (TenantCapService.release tenantId queueName) st).1, db, (perform (TenantCapService.release tenantId queueName) st).2)
  | (db, st), .incrementCompleted queueName =>
    ((perform (QueueReconcileCollector.incrementCompleted queueName) st).1, db,
      (perform (QueueReconcileCollector.incrementCompleted queueName) st).2)
  | (db, st), .incrementFailed queueName =>
    ((perform (QueueReconcileCollector.incrementFailed queueName) st).1, db,
      (perform (QueueReconcileCollector.incrementFailed queueName) st).2)

end Store

/-- What `getQueueState` reads of a queue; a field that was never written counts as 0. -/
structure QueueState where
  staged : Int
  releasePending : Int
  completed : Int
  failed : Int
  submittedTotal : Int
  deriving DecidableEq, Repr

def QueueReconcileCollector.getQueueState (redis : Redis) (queueName : String) : QueueState :=
  let read (key field : String) : Int := (redis.hashes key field).getD 0
  { staged := read (preQueueKey queueName) "staged"
    releasePending := read (preQueueKey queueName) "release_pending"
    completed := read (terminalKey queueName) "completed"
    failed := read (terminalKey queueName) "failed"
    submittedTotal := read (totalsKey queueName) "submitted_total" }

/-- The counts that BullMQ gives of a queue and of its dead-letter queue. -/
structure QueueCounts where
  waiting : Nat
  prioritized : Nat
  delayed : Nat
  active : Nat
  dlq : Nat
  deriving DecidableEq, Repr

/-- The part `checks` of the reply. -/
structure ReconcileChecks where
  submittedTotal : Int
  accountedForTotal : Int
  unknown : Int
  overcount : Int
  matched : Bool
  deriving DecidableEq, Repr

/-- The reply for one queue. -/
structure ReconcileReport where
  preQueue : Int × Int
  inflight : QueueCounts
  inflightTotal : Int
  terminal : Int × Int × Nat
  visibleInBullmq : Int
  checks : ReconcileChecks
  deriving DecidableEq, Repr

namespace MetricsController

def inflightTotal (q : QueueCounts) : Int := q.waiting + q.prioritized + q.delayed + q.active

def accountedForTotal (q : QueueCounts) (reconcile : QueueState) : Int :=
  reconcile.staged + reconcile.releasePending + inflightTotal q + reconcile.completed + reconcile.failed + q.dlq

def delta (q : QueueCounts) (reconcile : QueueState) : Int := reconcile.submittedTotal - accountedForTotal q reconcile

def reconcile (q : QueueCounts) (reconcile : QueueState) : ReconcileReport :=
  { preQueue := (reconcile.staged, reconcile.releasePending)
    inflight := q
    inflightTotal := inflightTotal q
    terminal := (reconcile.completed, reconcile.failed, q.dlq)
    visibleInBullmq := inflightTotal q
    checks :=
      { submittedTotal := reconcile.submittedTotal
        accountedForTotal := accountedForTotal q reconcile
        unknown := max 0 (delta q reconcile)
        overcount := max 0 (-delta q reconcile)
        matched := delta q reconcile = 0 } }

end MetricsController
end OrchestrateModel
