import Orchestrate.Admission.Threads
import Orchestrate.Ledger.Bounds

namespace OrchestrateModel

open Effect TenantCapService

/-- Any number of `submitJob` and `release` calls over one Redis. `unreleased` are the payloads
    passed to `enqueue` whose `release` has not been called. -/
structure Admission where
  redis : Redis
  unreleased : List JobQueuePayload
  calls : List Thread

inductive AdmissionEvent : Type where
  | submit (payload : JobQueuePayload)
  | release (payload : JobQueuePayload)
  | advance (i : Nat)
  | tick
  | expire (tenantId : TenantId)
  deriving DecidableEq

namespace Admission

def empty : Admission := { redis := .empty, unreleased := [], calls := [] }

def step (s : Admission) : AdmissionEvent → Option Admission
  | .submit payload => some { s with calls := s.calls ++ [.submit payload .countSubmitted] }
  | .release payload =>
    if payload ∈ s.unreleased then
      some { s with
        unreleased := s.unreleased.erase payload
        calls := s.calls ++ [.release payload.tenantId .decr] }
    else none
  | .advance i =>
    s.calls[i]?.bind fun thread => thread.next.map fun c =>
      { redis := (s.redis.exec c).2
        unreleased := s.unreleased ++ c.added.toList
        calls := s.calls.set i (thread.resume s.redis) }
  | .tick => some { s with redis := { s.redis with now := s.redis.now + 1 } }
  | .expire tenantId =>
    (s.redis.expireKey (inflightKey tenantId)).map fun redis => { s with redis := redis }

/-- The tenant's payloads that are enqueued and not yet released. -/
def running (s : Admission) (tenantId : TenantId) : Nat :=
  s.unreleased.countP fun payload => payload.tenantId = tenantId

/-- No call of the tenant is in progress. -/
def Quiescent (s : Admission) (tenantId : TenantId) : Prop :=
  ∀ thread ∈ s.calls, thread.tenantId = tenantId → thread.returned = true

/-- The tenant's payloads are where they belong: in its own list, or with a drain of that list. -/
structure Homed (s : Admission) : Prop where
  lists : ∀ tenantId, ∀ payload ∈ s.redis.lists (stagingKey tenantId), payload.tenantId = tenantId
  drains : ∀ thread ∈ s.calls, ∀ payload ∈ thread.drained, payload.tenantId = thread.tenantId

end Admission

def admission : Machine Admission AdmissionEvent := ⟨Admission.step⟩

/-- How a thread counts in the ledger of a tenant. -/
def Thread.role (tenantId : TenantId) (thread : Thread) : Ledger.Role :=
  if thread.tenantId = tenantId then
    match thread with
    | .submit _ point =>
      match point with
      | .expire | .add => .admitted
      | .decr => .overCap
      | .rpush => .pushing
      | .countSubmitted | .incr | .countStaged | .llen | .returned _ => .idle
    | .release _ point =>
      match point with
      | .decr => .releasing
      | .reset => .resetting
      | .lpop => .popping
      | .stagedGet _ | .stagedSet _ _ | .pending _ | .add _ => .carrying
      | .incr _ => .uncounted
      | .pendingGet _ | .pendingSet _ _ | .returned => .idle
  else .idle

/-- What the next call of the thread at `i` means in its tenant's ledger. -/
def Thread.move (redis : Redis) (i : Nat) : Thread → Ledger.Move JobQueuePayload
  | .submit payload point =>
    match point with
    | .incr =>
      if redis.count (inflightKey payload.tenantId) + 1 ≤ MAX_CONCURRENT_PER_TENANT then .grant i
      else .overflow i
    | .add => .place i
    | .decr => .undo i
    | .rpush => .push i payload
    | .countSubmitted | .expire | .countStaged | .llen | .returned _ => .stutter
  | .release tenantId point =>
    match point with
    | .decr => if redis.count (inflightKey tenantId) - 1 < 0 then .corrupt i else .giveBack i
    | .reset => .reset i
    | .lpop =>
      match redis.lists (stagingKey tenantId) with
      | [] => .popNone i
      | _ :: _ => .pop i
    | .add _ => .placeDrained i
    | .incr _ => .countDrained i
    | .stagedGet _ | .stagedSet _ _ | .pending _ | .pendingGet _ | .pendingSet _ _ | .returned => .stutter

namespace Admission

/-- The state as the ledger of one tenant. -/
def ledger (tenantId : TenantId) (s : Admission) : Ledger.State JobQueuePayload :=
  { counter := s.redis.count (inflightKey tenantId)
    waiting := s.redis.lists (stagingKey tenantId)
    running := s.running tenantId
    callers := s.calls.map (Thread.role tenantId) }

def move (tenantId : TenantId) (s : Admission) : AdmissionEvent → Ledger.Move JobQueuePayload
  | .submit _ => .arrive
  | .release payload => if payload.tenantId = tenantId then .beginRelease else .arrive
  | .advance i =>
    match s.calls[i]? with
    | some thread => if thread.tenantId = tenantId then thread.move s.redis i else .stutter
    | none => .stutter
  | .tick => .stutter
  | .expire other => if other = tenantId then .expire else .stutter

end Admission
end OrchestrateModel
