import Orchestrate.Admission.Accounting
import Orchestrate.Workflow.System

namespace OrchestrateModel

open Effect BaseProcessor

/-- What a worker has begun of an active job: an attempt, or a handler that never ends. -/
inductive Duty : Type where
  | attempt (attempt : Attempt)
  | endless

/-- The tables, Redis with the queues, and what the workers have begun of the jobs of the queues. -/
structure Installation where
  db : Db
  store : Store
  duties : Nat → Option Duty

/-- A request of the API, a step of BullMQ, the start of an attempt or what follows its `process`, or a step of Redis. -/
inductive InstallationEvent : Type where
  | create (env : Env) (items : List WorkFlowItem) (userId : UserId) (tenantId : TenantId)
  | retry (env : Env) (jobId : JobId) (userId : UserId) (tenantId : TenantId)
  | promote (i : Nat)
  | take (i : Nat)
  | start (env : Env) (i : Nat)
  | finish (env : Env) (i : Nat) (outcome : Except Err (Option String))
  | wait (duration : Nat)
  | expire (key : String)

/-- A step of BullMQ or Redis on its own. -/
def InstallationEvent.internal : InstallationEvent → Bool
  | .create .. | .retry .. | .start .. | .finish .. => false
  | .promote _ | .take _ | .wait _ | .expire _ => true

namespace Installation

def empty : Installation := { db := .empty, store := .empty, duties := fun _ => none }

def setJob (s : Installation) (i : Nat) (job : QueuedJob) : Installation :=
  { s with store := { s.store with queued := s.store.queued.set i job } }

def setDuty (s : Installation) (i : Nat) (duty : Option Duty) : Installation :=
  { s with duties := Function.update s.duties i duty }

def request {α : Type} (env : Env) (s : Installation) (program : ServiceProgram α) : Installation :=
  let (_, db, store) := program.run (serve env Store.submitJob) (s.db, s.store)
  { s with db := db, store := store }

def begin_ (env : Env) (s : Installation) (i : Nat) (job : QueuedJob) : Installation :=
  let (begun, db, store) := (beginAttempt job.run).run (Store.work env (.ok none)) (s.db, s.store)
  let begunIn : Installation := { s with db := db, store := store }
  match begun with
  | .ok none => begunIn.setJob i { job with state := .completed }
  | .ok (some attempt) => begunIn.setDuty i (some (.attempt attempt))
  | .thrown _ => begunIn.setJob i job.failed
  | .hung => begunIn.setDuty i (some .endless)

def end_ (env : Env) (s : Installation) (i : Nat) (job : QueuedJob) (attempt : Attempt)
    (outcome : Except Err (Option String)) : Installation :=
  let (done, db, store) := (afterProcess job.run attempt outcome).run (Store.work env outcome) (s.db, s.store)
  let endedIn : Installation := { s with db := db, store := store }
  match done with
  | .ok _ => (endedIn.setJob i { job with state := .completed }).setDuty i none
  | .thrown _ => (endedIn.setJob i job.failed).setDuty i none
  | .hung => endedIn.setDuty i (some .endless)

def step (s : Installation) : InstallationEvent → Option Installation
  | .create env items userId tenantId => some (s.request env (ChainService.createWorkFlow items userId tenantId))
  | .retry env jobId userId tenantId => some (s.request env (JobsService.retryFailedJob jobId userId tenantId))
  | .promote i => do
    let job ← s.store.queued[i]?
    if job.state = .delayed then some (s.setJob i { job with state := BullMQ.ready job.run.opts }) else none
  | .take i => do
    let job ← s.store.queued[i]?
    if job.state = .waiting ∨ job.state = .prioritized then some (s.setJob i { job with state := .active }) else none
  | .start env i => do
    let job ← s.store.queued[i]?
    match job.state, s.duties i with
    | .active, none => some (s.begin_ env i job)
    | _, _ => none
  | .finish env i outcome => do
    let job ← s.store.queued[i]?
    match s.duties i with
    | some (.attempt attempt) => some (s.end_ env i job attempt outcome)
    | _ => none
  | .wait duration => some { s with store := { s.store with redis := { s.store.redis with now := s.store.redis.now + duration } } }
  | .expire key => (s.store.redis.expireKey key).map fun redis => { s with store := { s.store with redis := redis } }

end Installation

def installation : Machine Installation InstallationEvent := ⟨Installation.step⟩

end OrchestrateModel
