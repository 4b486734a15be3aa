import Orchestrate.Effect.Machine
import Orchestrate.Model.TenantCap

namespace OrchestrateModel

open Effect TenantCapService QueueReconcileCollector

/-- The next call of a `submitJob`. -/
inductive SubmitPoint : Type where
  | countSubmitted | incr | expire | add | decr | rpush | countStaged | llen
  | returned (status : JobStatus)

/-- The next call of a `release` and of the `drainOne` inside it. -/
inductive ReleasePoint : Type where
  | decr | reset | lpop
  | stagedGet (payload : JobQueuePayload) | stagedSet (payload : JobQueuePayload) (next : Int)
  | pending (payload : JobQueuePayload) | add (payload : JobQueuePayload)
  | incr (payload : JobQueuePayload)
  | pendingGet (payload : JobQueuePayload) | pendingSet (payload : JobQueuePayload) (next : Int)
  | returned

inductive Thread : Type where
  | submit (payload : JobQueuePayload) (point : SubmitPoint)
  | release (tenantId : TenantId) (point : ReleasePoint)

/-- What is left of `submitJob` at a point. -/
def SubmitPoint.code (payload : JobQueuePayload) : SubmitPoint → CapProgram JobStatus
  | .countSubmitted => submitJob payload
  | .incr => do
    let current ← Client.incr (inflightKey payload.tenantId)
    if current = 1 then
      Client.expire (inflightKey payload.tenantId) 300
    if current ≤ MAX_CONCURRENT_PER_TENANT then
      enqueue payload
      return .QUEUED
    stage
  | .expire => do
    Client.expire (inflightKey payload.tenantId) 300
    enqueue payload
    return .QUEUED
  | .add => do
    enqueue payload
    return .QUEUED
  | .decr => stage
  | .rpush => do
    let _ ← Client.rpush (stagingKey payload.tenantId) payload
    incrementStaged payload.queueName
    let _depth ← Client.llen (stagingKey payload.tenantId)
    return .STAGED
  | .countStaged => do
    incrementStaged payload.queueName
    let _depth ← Client.llen (stagingKey payload.tenantId)
    return .STAGED
  | .llen => do
    let _depth ← Client.llen (stagingKey payload.tenantId)
    return .STAGED
  | .returned status => return status
where
  stage : CapProgram JobStatus := do
    let _ ← Client.decr (inflightKey payload.tenantId)
    let _ ← Client.rpush (stagingKey payload.tenantId) payload
    incrementStaged payload.queueName
    let _depth ← Client.llen (stagingKey payload.tenantId)
    return .STAGED

/-- What is left of `release` at a point; from `add` on, the `try` block of `drainOne` is open. -/
def ReleasePoint.code (tenantId : TenantId) : ReleasePoint → CapProgram Unit
  | .decr => release tenantId ""
  | .reset => Client.set (inflightKey tenantId) 0
  | .lpop => drainOne tenantId ""
  | .stagedGet payload => do
    decrementStaged payload.queueName
    incrementReleasePending payload.queueName
    rest payload (enqueueAndCount payload)
  | .stagedSet payload next => do
    Client.hset (preQueueKey payload.queueName) "staged" next
    incrementReleasePending payload.queueName
    rest payload (enqueueAndCount payload)
  | .pending payload => do
    incrementReleasePending payload.queueName
    rest payload (enqueueAndCount payload)
  | .add payload => rest payload (enqueueAndCount payload)
  | .incr payload => rest payload (countDrained payload)
  | .pendingGet payload => rest payload (decrementReleasePending payload.queueName)
  | .pendingSet payload next =>
    rest payload (Client.hset (preQueueKey payload.queueName) "release_pending" next)
  | .returned => return ()
where
  countDrained (payload : JobQueuePayload) : CapProgram Unit := do
    let _ ← Client.incr (inflightKey tenantId)
    decrementReleasePending payload.queueName
  enqueueAndCount (payload : JobQueuePayload) : CapProgram Unit := do
    enqueue payload
    countDrained payload
  rest (payload : JobQueuePayload) (block : CapProgram Unit) : CapProgram Unit :=
    block.catching fun _ => do
      let _ ← Client.lpush (stagingKey tenantId) payload
      decrementReleasePending payload.queueName
      incrementStaged payload.queueName

def Thread.code : Thread → CapProgram Unit
  | .submit payload point => (point.code payload).bind fun _ => .done ()
  | .release tenantId point => point.code tenantId

def Thread.tenantId : Thread → TenantId
  | .submit payload _ => payload.tenantId
  | .release tenantId _ => tenantId

def Thread.returned : Thread → Bool
  | .submit _ (.returned _) | .release _ .returned => true
  | _ => false

/-- The popped payload that a drain still has to enqueue. -/
def Thread.drained : Thread → Option JobQueuePayload
  | .release _ (.stagedGet payload) | .release _ (.stagedSet payload _)
  | .release _ (.pending payload) | .release _ (.add payload) => some payload
  | _ => none

/-- The payload a call hands to BullMQ. -/
def CapCall.added : CapCall → Option JobQueuePayload
  | .queueAdd _ payload _ => some payload
  | _ => none

/-- The next call of a thread; none once it has returned, or where it is about to throw by itself. -/
def Thread.next : Thread → Option CapCall
  | .submit payload point =>
    match point with
    | .countSubmitted => some (.hincrby (totalsKey payload.queueName) "submitted_total" 1)
    | .incr => some (.incr (inflightKey payload.tenantId))
    | .expire => some (.expire (inflightKey payload.tenantId) 300)
    | .add => (getQueueName payload.jobType).map fun q => .queueAdd q payload (jobsOptions payload)
    | .decr => some (.decr (inflightKey payload.tenantId))
    | .rpush => some (.rpush (stagingKey payload.tenantId) payload)
    | .countStaged => some (.hincrby (preQueueKey payload.queueName) "staged" 1)
    | .llen => some (.llen (stagingKey payload.tenantId))
    | .returned _ => none
  | .release tenantId point =>
    match point with
    | .decr => some (.decr (inflightKey tenantId))
    | .reset => some (.set (inflightKey tenantId) 0)
    | .lpop => some (.lpop (stagingKey tenantId))
    | .stagedGet payload => some (.hget (preQueueKey payload.queueName) "staged")
    | .stagedSet payload next => some (.hset (preQueueKey payload.queueName) "staged" next)
    | .pending payload => some (.hincrby (preQueueKey payload.queueName) "release_pending" 1)
    | .add payload => (getQueueName payload.jobType).map fun q => .queueAdd q payload (jobsOptions payload)
    | .incr _ => some (.incr (inflightKey tenantId))
    | .pendingGet payload => some (.hget (preQueueKey payload.queueName) "release_pending")
    | .pendingSet payload next => some (.hset (preQueueKey payload.queueName) "release_pending" next)
    | .returned => none

/-- Where a thread is after its call, from the state the call was made in. -/
def Thread.resume (redis : Redis) : Thread → Thread
  | .submit payload point =>
    .submit payload <|
      match point with
      | .countSubmitted => .incr
      | .incr =>
        let current := redis.count (inflightKey payload.tenantId) + 1
        if current = 1 then .expire else if current ≤ MAX_CONCURRENT_PER_TENANT then .add else .decr
      | .expire => .add
      | .add => .returned .QUEUED
      | .decr => .rpush
      | .rpush => .countStaged
      | .countStaged => .llen
      | .llen => .returned .STAGED
      | .returned status => .returned status
  | .release tenantId point =>
    .release tenantId <|
      match point with
      | .decr => if redis.count (inflightKey tenantId) - 1 < 0 then .reset else .lpop
      | .reset => .returned
      | .lpop =>
        match redis.lists (stagingKey tenantId) with
        | [] => .returned
        | payload :: _ => .stagedGet payload
      | .stagedGet payload =>
        let current := redis.hashes (preQueueKey payload.queueName) "staged"
        .stagedSet payload (max 0 (current.getD 0 - 1))
      | .stagedSet payload _ => .pending payload
      | .pending payload => .add payload
      | .add payload => .incr payload
      | .incr payload => .pendingGet payload
      | .pendingGet payload =>
        let current := redis.hashes (preQueueKey payload.queueName) "release_pending"
        .pendingSet payload (max 0 (current.getD 0 - 1))
      | .pendingSet _ _ => .returned
      | .returned => .returned

/-- At an `enqueue` that no queue takes: it throws before it makes a call. -/
def Thread.Throwing : Thread → Prop
  | .submit payload .add | .release _ (.add payload) => ¬ Routable payload.jobType
  | _ => False

/-- `next` and `resume` trace the program a thread runs: it awaits `next`, and the answer leads to the
    program of `resume`. -/
structure Thread.Follows (thread : Thread) (redis : Redis) : Prop where
  awaits : ∀ c, thread.next = some c → ∃ rest, thread.code = .call c rest ∧
    (thread.resume redis).code = rest (.ok (redis.exec c).1)
  stops : thread.next = none → thread.code = .done () ∨ thread.Throwing

theorem Thread.follows_of_call {thread : Thread} {redis : Redis} {c : CapCall}
    {rest : Except Err c.Reply → CapProgram Unit} (next : thread.next = some c)
    (code : thread.code = Program.call (S := capSignature) c rest)
    (resume : (thread.resume redis).code = rest (.ok (redis.exec c).1)) : thread.Follows redis := by
  constructor
  · intro c' same
    obtain rfl : c = c' := Option.some.inj (next.symm.trans same)
    exact ⟨rest, code, resume⟩
  · intro absent
    rw [next] at absent
    cases absent

theorem Thread.follows_of_stop {thread : Thread} {redis : Redis} (next : thread.next = none)
    (stopped : thread.code = .done () ∨ thread.Throwing) : thread.Follows redis := by
  refine ⟨fun c impossible => ?_, fun _ => stopped⟩
  rw [next] at impossible
  cases impossible

theorem enqueue_placed {payload : JobQueuePayload} {queueName : String}
    (placed : getQueueName payload.jobType = some queueName) :
    enqueue payload = Client.queueAdd queueName payload (jobsOptions payload) := by
  simp only [enqueue, placed]

/-- What `submitJob` does with the value its INCR returned. -/
theorem SubmitPoint.code_incr (payload : JobQueuePayload) (current : Int) :
    (if current = 1 then do
      Client.expire (inflightKey payload.tenantId) 300
      if current ≤ MAX_CONCURRENT_PER_TENANT then
        enqueue payload
        return .QUEUED
      code.stage payload
    else if current ≤ MAX_CONCURRENT_PER_TENANT then do
      enqueue payload
      return .QUEUED
    else code.stage payload) =
    code payload (if current = 1 then .expire
      else if current ≤ MAX_CONCURRENT_PER_TENANT then .add else .decr) := by
  by_cases first : current = 1
  · subst first
    rfl
  · rw [if_neg first, if_neg first]
    split <;> rfl

theorem ReleasePoint.code_decr (tenantId : TenantId) (after : Int) :
    (if after < 0 then Client.set (inflightKey tenantId) 0 else drainOne tenantId "") =
      code tenantId (if after < 0 then .reset else .lpop) := by
  split <;> rfl

/-- The two points where a payload is enqueued. -/
theorem Thread.follows_add {thread : Thread} {redis : Redis} {payload : JobQueuePayload}
    (next : thread.next =
      (getQueueName payload.jobType).map fun q => .queueAdd q payload (jobsOptions payload))
    (throwing : ¬ Routable payload.jobType → thread.Throwing)
    (placed : ∀ queueName, enqueue payload = Client.queueAdd queueName payload (jobsOptions payload) →
      ∃ rest, thread.code = Program.call (S := capSignature)
          (.queueAdd queueName payload (jobsOptions payload)) rest ∧
        (thread.resume redis).code = rest (.ok ())) : thread.Follows redis := by
  cases found : getQueueName payload.jobType with
  | none =>
    refine follows_of_stop (by simp [next, found]) (.inr (throwing ?_))
    simp [Routable, found]
  | some queueName =>
    obtain ⟨rest, code, resume⟩ := placed queueName (enqueue_placed found)
    exact follows_of_call (by simp [next, found]) code resume

theorem Thread.follows (thread : Thread) (redis : Redis) : thread.Follows redis := by
  cases thread with
  | submit payload point =>
    cases point with
    | countSubmitted => exact follows_of_call rfl rfl rfl
    | incr =>
      refine follows_of_call rfl rfl ?_
      exact congrArg (fun code => Program.bind code fun _ => .done ())
        (SubmitPoint.code_incr payload _).symm
    | expire => exact follows_of_call rfl rfl rfl
    | add =>
      refine follows_add rfl id fun queueName placed => ?_
      simp only [Thread.code, SubmitPoint.code, placed]
      exact ⟨_, rfl, rfl⟩
    | decr => exact follows_of_call rfl rfl rfl
    | rpush => exact follows_of_call rfl rfl rfl
    | countStaged => exact follows_of_call rfl rfl rfl
    | llen => exact follows_of_call rfl rfl rfl
    | returned status => exact follows_of_stop rfl (.inl rfl)
  | release tenantId point =>
    cases point with
    | decr =>
      refine follows_of_call rfl rfl ?_
      exact (ReleasePoint.code_decr tenantId _).symm
    | reset => exact follows_of_call rfl rfl rfl
    | lpop =>
      refine follows_of_call rfl rfl ?_
      simp only [Thread.resume, Thread.code, Redis.exec]
      cases redis.lists (stagingKey tenantId) <;> rfl
    | stagedGet payload => exact follows_of_call rfl rfl rfl
    | stagedSet payload next => exact follows_of_call rfl rfl rfl
    | pending payload => exact follows_of_call rfl rfl rfl
    | add payload =>
      refine follows_add rfl id fun queueName placed => ?_
      simp only [Thread.code, ReleasePoint.code, ReleasePoint.code.enqueueAndCount, placed]
      exact ⟨_, rfl, rfl⟩
    | incr payload => exact follows_of_call rfl rfl rfl
    | pendingGet payload => exact follows_of_call rfl rfl rfl
    | pendingSet payload next => exact follows_of_call rfl rfl rfl
    | returned => exact follows_of_stop rfl (.inl rfl)

end OrchestrateModel
