import Mathlib.Algebra.BigOperators.Group.Finset.Basic
import Orchestrate.Admission.Guarantees

namespace OrchestrateModel

open Effect TenantCapService QueueReconcileCollector

/-- The next call of a `drainOne` whose payload is back in the list. -/
inductive ReturnPoint : Type where
  | pendingGet | pendingSet (next : Int) | countStaged | returned

/-- A `submitJob` or `release`, also where its `enqueue` throws. -/
inductive GaugeCall : Type where
  | running (thread : Thread)
  | returning (tenantId : TenantId) (payload : JobQueuePayload) (point : ReturnPoint)

def ReturnPoint.code (payload : JobQueuePayload) : ReturnPoint → CapProgram Unit
  | .pendingGet => do
    decrementReleasePending payload.queueName
    incrementStaged payload.queueName
  | .pendingSet next => do
    Client.hset (preQueueKey payload.queueName) "release_pending" next
    incrementStaged payload.queueName
  | .countStaged => incrementStaged payload.queueName
  | .returned => return ()

namespace GaugeCall

def code : GaugeCall → CapProgram Unit
  | running thread => thread.code
  | returning _ payload point => point.code payload

def tenantId : GaugeCall → TenantId
  | running thread => thread.tenantId
  | returning tenantId _ _ => tenantId

/-- The next call; none once it has ended. -/
def next : GaugeCall → Option CapCall
  | running (.release tenantId (.add payload)) =>
    match getQueueName payload.jobType with
    | some queueName => some (.queueAdd queueName payload (jobsOptions payload))
    | none => some (.lpush (stagingKey tenantId) payload)
  | running thread => thread.next
  | returning _ payload .pendingGet => some (.hget (preQueueKey payload.queueName) "release_pending")
  | returning _ payload (.pendingSet next) => some (.hset (preQueueKey payload.queueName) "release_pending" next)
  | returning _ payload .countStaged => some (.hincrby (preQueueKey payload.queueName) "staged" 1)
  | returning _ _ .returned => none

def resume (redis : Redis) : GaugeCall → GaugeCall
  | running (.release tenantId (.add payload)) =>
    match getQueueName payload.jobType with
    | some _ => running (.release tenantId (.incr payload))
    | none => returning tenantId payload .pendingGet
  | running thread => running (thread.resume redis)
  | returning tenantId payload .pendingGet =>
    let current := redis.hashes (preQueueKey payload.queueName) "release_pending"
    returning tenantId payload (.pendingSet (max 0 (current.getD 0 - 1)))
  | returning tenantId payload (.pendingSet _) => returning tenantId payload .countStaged
  | returning tenantId payload .countStaged => returning tenantId payload .returned
  | returning tenantId payload .returned => returning tenantId payload .returned

/-- How far the gauge of staged payloads is ahead of the lists because of this call. -/
def ahead (queueName : String) : GaugeCall → Int
  | running (.submit payload .countStaged) => if payload.queueName = queueName then -1 else 0
  | running (.release _ (.stagedGet payload)) | running (.release _ (.stagedSet payload _)) =>
    if payload.queueName = queueName then 1 else 0
  | returning _ payload .pendingGet | returning _ payload (.pendingSet _) | returning _ payload .countStaged =>
    if payload.queueName = queueName then -1 else 0
  | _ => 0

/-- What this call has counted as pending. -/
def counted (queueName : String) : GaugeCall → Int
  | running (.release _ (.add payload)) | running (.release _ (.incr payload))
  | running (.release _ (.pendingGet payload)) | running (.release _ (.pendingSet payload _))
  | returning _ payload .pendingGet | returning _ payload (.pendingSet _) =>
    if payload.queueName = queueName then 1 else 0
  | _ => 0

end GaugeCall

/-- Overlapping `submitJob` and `release` calls of any tenants. -/
structure Gauging where
  redis : Redis
  calls : List GaugeCall

inductive GaugingEvent : Type where
  | submit (payload : JobQueuePayload)
  | release (tenantId : TenantId)
  | advance (i : Nat)
  deriving DecidableEq

namespace Gauging

def empty : Gauging := { redis := .empty, calls := [] }

def step (s : Gauging) : GaugingEvent → Option Gauging
  | .submit payload => some { s with calls := s.calls ++ [.running (.submit payload .countSubmitted)] }
  | .release tenantId => some { s with calls := s.calls ++ [.running (.release tenantId .decr)] }
  | .advance i =>
    s.calls[i]?.bind fun call => call.next.map fun c =>
      { redis := (s.redis.exec c).2, calls := s.calls.set i (call.resume s.redis) }

/-- The tenants for which a call was ever made. -/
def tenants (s : Gauging) : Finset TenantId := (s.calls.map GaugeCall.tenantId).toFinset

/-- No call is in progress. -/
def Quiescent (s : Gauging) : Prop := ∀ call ∈ s.calls, call.next = none

end Gauging

def gauging : Machine Gauging GaugingEvent := ⟨Gauging.step⟩

/-- A field of the collector's hash of a queue, as `getQueueState` reads it. -/
def Redis.gauge (redis : Redis) (queueName field : String) : Int :=
  (redis.hashes (preQueueKey queueName) field).getD 0

/-- The payloads of a queue in a tenant's staging list. -/
def Redis.listed (redis : Redis) (queueName : String) (tenantId : TenantId) : Int :=
  (redis.lists (stagingKey tenantId)).countP fun payload => payload.queueName = queueName

/-- A HSET lowers its field by one, as nothing came between it and the HGET before it and there was something to
    take away. -/
def CapCall.Lowers (redis : Redis) : CapCall → Prop
  | .hset key field value => (redis.hashes key field).getD 0 = value + 1
  | _ => True

instance (redis : Redis) : DecidablePred (CapCall.Lowers redis)
  | .hset key field value => inferInstanceAs (Decidable ((redis.hashes key field).getD 0 = value + 1))
  | .incr _ | .decr _ | .expire _ _ | .set _ _ | .rpush _ _ | .lpush _ _ | .lpop _ | .llen _ | .hincrby _ _ _
  | .hget _ _ | .queueAdd _ _ _ => isTrue trivial

namespace Gauging

def Lowers (s : Gauging) : GaugingEvent → Prop
  | .advance i => ∀ call ∈ s.calls[i]?, ∀ c ∈ call.next, c.Lowers s.redis
  | .submit _ | .release _ => True

instance (s : Gauging) : DecidablePred s.Lowers
  | .advance i => inferInstanceAs (Decidable (∀ call ∈ s.calls[i]?, ∀ c ∈ call.next, c.Lowers s.redis))
  | .submit _ | .release _ => isTrue trivial

/-- The gauges are right up to what the calls in progress are about to count. -/
structure Balanced (s : Gauging) : Prop where
  elsewhere : ∀ tenantId, tenantId ∉ s.tenants → s.redis.lists (stagingKey tenantId) = []
  staged : ∀ queueName, s.redis.gauge queueName "staged" =
    (∑ tenantId ∈ s.tenants, s.redis.listed queueName tenantId) + (s.calls.map (GaugeCall.ahead queueName)).sum
  pending : ∀ queueName, s.redis.gauge queueName "release_pending" = (s.calls.map (GaugeCall.counted queueName)).sum

end Gauging

namespace GaugeCall

/-- `next` and `resume` trace the program of a call to its end. -/
structure Follows (call : GaugeCall) (redis : Redis) : Prop where
  awaits : ∀ c, call.next = some c → ∃ rest, call.code = .call c rest ∧
    (call.resume redis).code = rest (.ok (redis.exec c).1)
  stops : call.next = none → call.code = .done () ∨ ∃ error, call.code = .throws error

theorem follows_of_call {call : GaugeCall} {redis : Redis} {c : CapCall} {rest : Except Err c.Reply → CapProgram Unit}
    (next : call.next = some c) (code : call.code = Program.call (S := capSignature) c rest)
    (resume : (call.resume redis).code = rest (.ok (redis.exec c).1)) : call.Follows redis := by
  constructor
  · intro c' same
    obtain rfl : c = c' := Option.some.inj (next.symm.trans same)
    exact ⟨rest, code, resume⟩
  · intro absent
    rw [next] at absent
    cases absent

theorem follows_of_thread {thread : Thread} {redis : Redis} (next : (running thread).next = thread.next)
    (resume : (running thread).resume redis = running (thread.resume redis))
    (throws : thread.Throwing → ∃ error, thread.code = .throws error) : (running thread).Follows redis := by
  have follows := thread.follows redis
  constructor
  · intro c awaited
    rw [next] at awaited
    rw [resume]
    exact follows.awaits c awaited
  · intro absent
    rw [next] at absent
    exact (follows.stops absent).imp_right throws

theorem follows (call : GaugeCall) (redis : Redis) : call.Follows redis := by
  cases call with
  | running thread =>
    cases thread with
    | submit payload point =>
      apply follows_of_thread rfl rfl
      intro throwing
      cases point with
      | add =>
        have unplaced : getQueueName payload.jobType = none := by
          cases found : getQueueName payload.jobType with
          | none => rfl
          | some queueName => exact absurd ⟨queueName, found⟩ throwing
        refine ⟨{ message := "no queue found for this jobtype \"" ++ payload.jobType ++ "\"" }, ?_⟩
        simp only [Thread.code, SubmitPoint.code, enqueue, unplaced]
        rfl
      | _ => exact throwing.elim
    | release tenantId point =>
      cases point with
      | add payload =>
        cases found : getQueueName payload.jobType with
        | some queueName =>
          have next : (running (.release tenantId (.add payload))).next =
              some (.queueAdd queueName payload (jobsOptions payload)) := by simp [GaugeCall.next, found]
          have resume : (running (.release tenantId (.add payload))).resume redis =
              running (.release tenantId (.incr payload)) := by simp [GaugeCall.resume, found]
          obtain ⟨rest, code, answered⟩ := (Thread.follows (.release tenantId (.add payload)) redis).awaits
            (.queueAdd queueName payload (jobsOptions payload)) (by simp [Thread.next, found])
          exact follows_of_call next code (by rw [resume]; exact answered)
        | none =>
          have next : (running (.release tenantId (.add payload))).next =
              some (.lpush (stagingKey tenantId) payload) := by simp [GaugeCall.next, found]
          have resume : (running (.release tenantId (.add payload))).resume redis =
              returning tenantId payload .pendingGet := by simp [GaugeCall.resume, found]
          have code : ∃ rest, (running (.release tenantId (.add payload))).code =
              Program.call (S := capSignature) (.lpush (stagingKey tenantId) payload) rest ∧
                (returning tenantId payload .pendingGet).code =
                  rest (.ok (redis.exec (.lpush (stagingKey tenantId) payload)).1) := by
            simp only [GaugeCall.code, Thread.code, ReleasePoint.code, ReleasePoint.code.rest,
              ReleasePoint.code.enqueueAndCount, enqueue, found]
            exact ⟨_, rfl, rfl⟩
          obtain ⟨rest, code, answered⟩ := code
          exact follows_of_call next code (by rw [resume]; exact answered)
      | _ => exact follows_of_thread rfl rfl fun throwing => throwing.elim
  | returning tenantId payload point =>
    cases point with
    | returned =>
      refine ⟨fun c awaited => ?_, fun _ => .inl rfl⟩
      cases awaited
    | _ => exact follows_of_call rfl rfl rfl

theorem resume_tenantId (call : GaugeCall) (redis : Redis) : (call.resume redis).tenantId = call.tenantId := by
  cases call with
  | running thread =>
    cases thread with
    | submit payload point => rfl
    | release owner point =>
      cases point with
      | add payload =>
        simp only [resume]
        split <;> rfl
      | _ => rfl
  | returning owner payload point => cases point <;> rfl

end GaugeCall

namespace Redis

variable {redis : Redis} {queueName : String}

theorem preQueueKey_inj {a b : String} : preQueueKey a = preQueueKey b ↔ a = b := by
  simp [preQueueKey]

/-- What a call does to a field of a queue's gauges. -/
theorem gauge_exec (redis : Redis) (c : CapCall) (queueName field : String) :
    (redis.exec c).2.gauge queueName field =
      match c with
      | .hincrby key other amount =>
        redis.gauge queueName field + if key = preQueueKey queueName ∧ other = field then amount else 0
      | .hset key other value =>
        if key = preQueueKey queueName ∧ other = field then value else redis.gauge queueName field
      | _ => redis.gauge queueName field := by
  have sets (key other : String) (value : Int) : (redis.setField key other value).gauge queueName field =
      if key = preQueueKey queueName ∧ other = field then value else redis.gauge queueName field := by
    by_cases here : key = preQueueKey queueName
    · subst here
      by_cases same : other = field
      · subst same
        simp [gauge, setField]
      · simp [gauge, setField, same, Function.update_of_ne (Ne.symm same)]
    · simp [gauge, setField, here, Function.update_of_ne (Ne.symm here)]
  cases c with
  | hincrby key other amount =>
    show (redis.setField key other _).gauge queueName field = _
    rw [sets]
    dsimp only
    split
    · rename_i here
      obtain ⟨rfl, rfl⟩ := here
      rfl
    · exact (Int.add_zero _).symm
  | hset key other value => exact sets key other value
  | _ => rfl

/-- What a call does to the payloads of a queue in a tenant's list. -/
theorem listed_exec (redis : Redis) (c : CapCall) (queueName : String) (tenantId : TenantId) :
    (redis.exec c).2.listed queueName tenantId =
      match c with
      | .rpush key payload | .lpush key payload =>
        redis.listed queueName tenantId +
          if key = stagingKey tenantId ∧ payload.queueName = queueName then 1 else 0
      | .lpop key =>
        redis.listed queueName tenantId - if key = stagingKey tenantId ∧
          (redis.lists key).head?.any (fun payload => payload.queueName = queueName) then 1 else 0
      | _ => redis.listed queueName tenantId := by
  unfold listed
  rw [lists_exec]
  cases c with
  | rpush key payload =>
    by_cases here : key = stagingKey tenantId
    · subst here
      by_cases same : payload.queueName = queueName <;> simp [same]
    · simp [here, Ne.symm here]
  | lpush key payload =>
    by_cases here : key = stagingKey tenantId
    · subst here
      by_cases same : payload.queueName = queueName <;> simp [same]
    · simp [here, Ne.symm here]
  | lpop key =>
    by_cases here : key = stagingKey tenantId
    · subst here
      cases waits : redis.lists (stagingKey tenantId) with
      | nil => simp [waits]
      | cons head rest => by_cases same : head.queueName = queueName <;> simp [waits, same]
    · simp [here, Ne.symm here]
  | _ => rfl

end Redis

namespace GaugeCall

variable {call : GaugeCall} {c : CapCall} {redis : Redis}

/-- A call changes the list of its tenant only. -/
theorem lists_other (next : call.next = some c) {owner : TenantId} (other : owner ≠ call.tenantId) (redis : Redis) :
    (redis.exec c).2.lists (stagingKey owner) = redis.lists (stagingKey owner) := by
  have through {thread : Thread} (awaited : thread.next = some c) (apart : owner ≠ thread.tenantId) :=
    (Thread.frame awaited apart.symm redis).2
  cases call with
  | running thread =>
    cases thread with
    | submit payload point => exact through (show (Thread.submit payload point).next = some c from next) other
    | release tenantId point =>
      have apart : owner ≠ tenantId := other
      by_cases adding : ∃ payload, point = .add payload
      · obtain ⟨payload, rfl⟩ := adding
        simp only [GaugeCall.next] at next
        rw [Redis.lists_exec]
        split at next <;> obtain rfl := Option.some.inj next <;> simp [apart]
      · have same : (running (.release tenantId point)).next = (Thread.release tenantId point).next := by
          cases point with
          | add payload => exact absurd ⟨payload, rfl⟩ adding
          | _ => rfl
        exact through (same.symm.trans next) other
  | returning tenantId payload point =>
    cases point with
    | returned => cases next
    | _ =>
      obtain rfl := Option.some.inj next
      rfl

/-- A call changes the gauges by what it changes its list and its own place by. -/
structure Balances (call : GaugeCall) (redis : Redis) (c : CapCall) (queueName : String) : Prop where
  staged : (redis.exec c).2.gauge queueName "staged" = redis.gauge queueName "staged" +
    ((redis.exec c).2.listed queueName call.tenantId - redis.listed queueName call.tenantId) +
      ((call.resume redis).ahead queueName - call.ahead queueName)
  pending : (redis.exec c).2.gauge queueName "release_pending" = redis.gauge queueName "release_pending" +
    ((call.resume redis).counted queueName - call.counted queueName)

theorem balances_submit {payload : JobQueuePayload} {point : SubmitPoint}
    (next : (running (.submit payload point)).next = some c) (queueName : String) :
    (running (.submit payload point)).Balances redis c queueName := by
  constructor
  all_goals rw [Redis.gauge_exec]
  · rw [Redis.listed_exec]
    cases point with
    | incr =>
      obtain rfl := Option.some.inj next
      simp only [resume, Thread.resume]
      split_ifs <;> simp [ahead]
    | add =>
      obtain ⟨queue, _, rfl⟩ := Option.map_eq_some_iff.mp next
      simp [resume, Thread.resume, ahead]
    | returned status => cases next
    | _ =>
      obtain rfl := Option.some.inj next
      by_cases same : payload.queueName = queueName <;>
        simp [resume, Thread.resume, ahead, tenantId, Thread.tenantId, Redis.preQueueKey_inj, same]
  · cases point with
    | incr =>
      obtain rfl := Option.some.inj next
      simp only [resume, Thread.resume]
      split_ifs <;> simp [counted]
    | add =>
      obtain ⟨queue, _, rfl⟩ := Option.map_eq_some_iff.mp next
      simp [resume, Thread.resume, counted]
    | returned status => cases next
    | _ =>
      obtain rfl := Option.some.inj next
      simp [resume, Thread.resume, counted]

/-- A HSET that lowers its field, in terms of the gauge. -/
theorem gauge_lowers {queue field : String} {value : Int}
    (lowers : (CapCall.hset (preQueueKey queue) field value).Lowers redis) : redis.gauge queue field = value + 1 := lowers

theorem balances_release {owner : TenantId} {point : ReleasePoint}
    (next : (running (.release owner point)).next = some c) (lowers : c.Lowers redis) (queueName : String) :
    (running (.release owner point)).Balances redis c queueName := by
  constructor
  all_goals rw [Redis.gauge_exec]
  · rw [Redis.listed_exec]
    cases point with
    | decr =>
      obtain rfl := Option.some.inj next
      simp only [resume, Thread.resume]
      split_ifs <;> simp [ahead]
    | lpop =>
      obtain rfl := Option.some.inj next
      cases waits : redis.lists (stagingKey owner) with
      | nil => simp [resume, Thread.resume, waits, ahead, tenantId, Thread.tenantId]
      | cons head rest =>
        by_cases same : head.queueName = queueName <;>
          simp [resume, Thread.resume, waits, ahead, tenantId, Thread.tenantId, same]
    | stagedSet payload value =>
      obtain rfl := Option.some.inj next
      have stood := gauge_lowers lowers
      by_cases same : payload.queueName = queueName
      · subst same
        simp [resume, Thread.resume, ahead, stood]
      · simp [resume, Thread.resume, ahead, same, Redis.preQueueKey_inj]
    | add payload =>
      cases found : getQueueName payload.jobType with
      | some queue =>
        obtain rfl : .queueAdd queue payload (jobsOptions payload) = c := by simpa [GaugeCall.next, found] using next
        simp [resume, found, ahead]
      | none =>
        obtain rfl : .lpush (stagingKey owner) payload = c := by simpa [GaugeCall.next, found] using next
        by_cases same : payload.queueName = queueName <;>
          simp [resume, found, ahead, tenantId, Thread.tenantId, same]
    | returned => cases next
    | _ =>
      obtain rfl := Option.some.inj next
      simp [resume, Thread.resume, ahead]
  · cases point with
    | decr =>
      obtain rfl := Option.some.inj next
      simp only [resume, Thread.resume]
      split_ifs <;> simp [counted]
    | lpop =>
      obtain rfl := Option.some.inj next
      simp only [resume, Thread.resume]
      split <;> simp [counted]
    | pending payload =>
      obtain rfl := Option.some.inj next
      simp [resume, Thread.resume, counted, Redis.preQueueKey_inj]
    | pendingSet payload value =>
      obtain rfl := Option.some.inj next
      have stood := gauge_lowers lowers
      by_cases same : payload.queueName = queueName
      · subst same
        simp [resume, Thread.resume, counted, stood]
      · simp [resume, Thread.resume, counted, same, Redis.preQueueKey_inj]
    | add payload =>
      cases found : getQueueName payload.jobType with
      | some queue =>
        obtain rfl : .queueAdd queue payload (jobsOptions payload) = c := by simpa [GaugeCall.next, found] using next
        simp [resume, found, counted]
      | none =>
        obtain rfl : .lpush (stagingKey owner) payload = c := by simpa [GaugeCall.next, found] using next
        simp [resume, found, counted]
    | returned => cases next
    | _ =>
      obtain rfl := Option.some.inj next
      simp [resume, Thread.resume, counted]

theorem balances_returning {owner : TenantId} {payload : JobQueuePayload} {point : ReturnPoint}
    (next : (returning owner payload point).next = some c) (lowers : c.Lowers redis) (queueName : String) :
    (returning owner payload point).Balances redis c queueName := by
  cases point with
  | returned => cases next
  | pendingSet value =>
    obtain rfl := Option.some.inj next
    have stood := gauge_lowers lowers
    constructor
    all_goals rw [Redis.gauge_exec]
    · rw [Redis.listed_exec]
      simp [resume, ahead]
    · by_cases same : payload.queueName = queueName
      · subst same
        simp [resume, counted, stood]
      · simp [resume, counted, same, Redis.preQueueKey_inj]
  | _ =>
    obtain rfl := Option.some.inj next
    constructor
    all_goals rw [Redis.gauge_exec]
    · rw [Redis.listed_exec]
      by_cases same : payload.queueName = queueName <;> simp [resume, ahead, same, Redis.preQueueKey_inj]
    · simp [resume, counted]

theorem balances (next : call.next = some c) (lowers : c.Lowers redis) (queueName : String) :
    call.Balances redis c queueName := by
  cases call with
  | running thread =>
    cases thread with
    | submit payload point => exact balances_submit next queueName
    | release owner point => exact balances_release next lowers queueName
  | returning owner payload point => exact balances_returning next lowers queueName

end GaugeCall

namespace Gauging

variable {s s' : Gauging} {e : GaugingEvent} {visited : List (Gauging × GaugingEvent)}

theorem balanced_empty : Gauging.empty.Balanced where
  elsewhere := fun _ _ => rfl
  staged := fun _ => rfl
  pending := fun _ => rfl

/-- A call that has not begun has counted nothing, and a new tenant has nothing staged. -/
theorem Balanced.enter (balanced : s.Balanced) {call : GaugeCall} (level : ∀ queueName, call.ahead queueName = 0)
    (uncounted : ∀ queueName, call.counted queueName = 0) :
    Balanced { s with calls := s.calls ++ [call] } := by
  have grown : tenants { s with calls := s.calls ++ [call] } = insert call.tenantId s.tenants := by
    ext tenantId
    simp [tenants]
  constructor
  · intro tenantId unknown
    rw [grown, Finset.mem_insert, not_or] at unknown
    exact balanced.elsewhere tenantId unknown.2
  · intro queueName
    have before := balanced.staged queueName
    have sum : ∑ tenantId ∈ insert call.tenantId s.tenants, s.redis.listed queueName tenantId =
        ∑ tenantId ∈ s.tenants, s.redis.listed queueName tenantId := by
      apply Finset.sum_insert_of_eq_zero_if_notMem
      intro unknown
      simp [Redis.listed, balanced.elsewhere call.tenantId unknown]
    simp only [grown, sum, List.map_append, List.sum_append, List.map_cons, List.map_nil, List.sum_singleton, level,
      Int.add_zero]
    exact before
  · intro queueName
    have before := balanced.pending queueName
    simp only [List.map_append, List.sum_append, List.map_cons, List.map_nil, List.sum_singleton, uncounted,
      Int.add_zero]
    exact before

/-- A sum over the tenants changes by what the list of one of them changes. -/
theorem sum_listed {redis redis' : Redis} {tenants : Finset TenantId} {owner : TenantId} (known : owner ∈ tenants)
    (elsewhere : ∀ tenantId, tenantId ≠ owner → redis'.lists (stagingKey tenantId) = redis.lists (stagingKey tenantId))
    (queueName : String) :
    ∑ tenantId ∈ tenants, redis'.listed queueName tenantId =
      (∑ tenantId ∈ tenants, redis.listed queueName tenantId) +
        (redis'.listed queueName owner - redis.listed queueName owner) := by
  have others : ∑ tenantId ∈ tenants.erase owner, redis'.listed queueName tenantId =
      ∑ tenantId ∈ tenants.erase owner, redis.listed queueName tenantId := by
    apply Finset.sum_congr rfl
    intro tenantId member
    rw [Redis.listed, Redis.listed, elsewhere tenantId (Finset.ne_of_mem_erase member)]
  have before := Finset.add_sum_erase tenants (fun tenantId => redis.listed queueName tenantId) known
  have after := Finset.add_sum_erase tenants (fun tenantId => redis'.listed queueName tenantId) known
  omega

theorem Balanced.advance {i : Nat} {call : GaugeCall} {c : CapCall} (balanced : s.Balanced)
    (at_i : s.calls[i]? = some call) (next : call.next = some c) (lowers : c.Lowers s.redis) :
    Balanced { redis := (s.redis.exec c).2, calls := s.calls.set i (call.resume s.redis) } := by
  have same : tenants { redis := (s.redis.exec c).2, calls := s.calls.set i (call.resume s.redis) } = s.tenants := by
    have names : (s.calls.set i (call.resume s.redis)).map GaugeCall.tenantId = s.calls.map GaugeCall.tenantId := by
      obtain ⟨within, found⟩ := List.getElem?_eq_some_iff.mp at_i
      have inside : i < (s.calls.map GaugeCall.tenantId).length := by simpa using within
      have kept := List.set_getElem_self inside
      rw [List.getElem_map, found] at kept
      rw [List.map_set, GaugeCall.resume_tenantId, kept]
    simp only [tenants, names]
  have known : call.tenantId ∈ s.tenants := by
    simp only [tenants, List.mem_toFinset]
    exact List.mem_map_of_mem (List.mem_of_getElem? at_i)
  have elsewhere (tenantId : TenantId) (other : tenantId ≠ call.tenantId) :=
    GaugeCall.lists_other next other s.redis
  constructor
  · intro tenantId unknown
    rw [same] at unknown
    have other : tenantId ≠ call.tenantId := fun equal => unknown (equal ▸ known)
    exact (elsewhere tenantId other).trans (balanced.elsewhere tenantId unknown)
  · intro queueName
    have before := balanced.staged queueName
    have moved := (GaugeCall.balances next lowers queueName).staged
    have listed := sum_listed known elsewhere queueName
    have places := sum_set (GaugeCall.ahead queueName) at_i (call.resume s.redis)
    dsimp only
    rw [same]
    omega
  · intro queueName
    have before := balanced.pending queueName
    have moved := (GaugeCall.balances next lowers queueName).pending
    have places := sum_set (GaugeCall.counted queueName) at_i (call.resume s.redis)
    dsimp only
    omega

theorem balanced_step (balanced : s.Balanced) (lowers : s.Lowers e) (step : s.step e = some s') : s'.Balanced := by
  cases e with
  | submit payload =>
    obtain rfl := Option.some.inj step
    exact balanced.enter (fun _ => rfl) fun _ => rfl
  | release tenantId =>
    obtain rfl := Option.some.inj step
    exact balanced.enter (fun _ => rfl) fun _ => rfl
  | advance i =>
    obtain ⟨call, at_i, rest⟩ := Option.bind_eq_some_iff.mp step
    obtain ⟨c, next, rfl⟩ := Option.map_eq_some_iff.mp rest
    exact balanced.advance at_i next (lowers call at_i c next)

/-- A call that has ended is behind with nothing. -/
theorem ended_level {call : GaugeCall} (ended : call.next = none) (queueName : String) :
    call.ahead queueName = 0 ∧ call.counted queueName = 0 := by
  cases call with
  | running thread =>
    cases thread with
    | submit payload point => cases point <;> first | exact ⟨rfl, rfl⟩ | cases ended
    | release tenantId point =>
      cases point with
      | add payload =>
        simp only [GaugeCall.next] at ended
        split at ended <;> cases ended
      | returned => exact ⟨rfl, rfl⟩
      | _ => cases ended
  | returning tenantId payload point => cases point <;> first | exact ⟨rfl, rfl⟩ | cases ended

/-- As long as every HSET lowers its gauge by one, a gauge is the number of staged payloads of its queue whenever no
    call is in progress, and none is counted as pending. -/
theorem gauges_exact (run : gauging.Run .empty visited s) (lowers : Machine.Guarded Lowers visited)
    (quiescent : s.Quiescent) (queueName : String) :
    s.redis.gauge queueName "staged" = ∑ tenantId ∈ s.tenants, s.redis.listed queueName tenantId ∧
      (∀ tenantId, tenantId ∉ s.tenants → s.redis.lists (stagingKey tenantId) = []) ∧
      s.redis.gauge queueName "release_pending" = 0 := by
  have balanced : s.Balanced := run.invariant Balanced lowers balanced_empty
    fun s e s' balanced lowers step => balanced_step balanced lowers step
  have level (f : GaugeCall → Int) (zero : ∀ call ∈ s.calls, f call = 0) : (s.calls.map f).sum = 0 := by
    apply List.sum_eq_zero
    intro n member
    obtain ⟨call, present, rfl⟩ := List.mem_map.mp member
    exact zero call present
  have staged := balanced.staged queueName
  have pending := balanced.pending queueName
  rw [level _ fun call present => (ended_level (quiescent call present) queueName).1, Int.add_zero] at staged
  rw [level _ fun call present => (ended_level (quiescent call present) queueName).2] at pending
  exact ⟨staged, balanced.elsewhere, pending⟩

/-- A call with its first steps. -/
def begun (e : GaugingEvent) (i steps : Nat) : List GaugingEvent := e :: List.replicate steps (.advance i)

/-- A tenant submits six jobs, and the last one is staged. -/
def sixSubmits (tenantId : TenantId) (first : Nat) : List GaugingEvent :=
  let submit : GaugingEvent := .submit { Admission.sample with tenantId := tenantId }
  begun submit first 4 ++ begun submit (first + 1) 3 ++ begun submit (first + 2) 3 ++ begun submit (first + 3) 3 ++
    begun submit (first + 4) 3 ++ begun submit (first + 5) 6

/-- Two tenants have a payload each in their lists. Both drains read the gauge before either writes it. -/
def bothRead : List GaugingEvent :=
  sixSubmits "t" 0 ++ sixSubmits "u" 6 ++ begun (.release "t") 12 3 ++ begun (.release "u") 13 3 ++
    List.replicate 6 (.advance 12) ++ List.replicate 6 (.advance 13)

theorem decrement_lost : ¬ ∀ visited s queueName, gauging.Run .empty visited s → s.Quiescent →
    s.redis.gauge queueName "staged" = ∑ tenantId ∈ s.tenants, s.redis.listed queueName tenantId ∧
      s.redis.gauge queueName "release_pending" = 0 := by
  intro claim
  have result : (gauging.exec .empty bothRead).map (fun s => (s.calls.all fun call => call.next.isNone,
      s.redis.gauge "etl-jobs" "staged", ∑ tenantId ∈ s.tenants, s.redis.listed "etl-jobs" tenantId)) =
        some (true, 1, 0) := by decide +kernel
  obtain ⟨s, done, parts⟩ := Option.map_eq_some_iff.mp result
  obtain ⟨ended, gauge, listed⟩ : (s.calls.all fun call => call.next.isNone) = true ∧
      s.redis.gauge "etl-jobs" "staged" = 1 ∧ ∑ tenantId ∈ s.tenants, s.redis.listed "etl-jobs" tenantId = 0 := by
    simpa using parts
  have quiescent : s.Quiescent := fun call present => Option.isNone_iff_eq_none.mp (List.all_eq_true.mp ended call present)
  have exact := (claim _ s "etl-jobs" (Machine.run_of_exec done) quiescent).1
  rw [gauge, listed] at exact
  exact absurd exact (by decide)

/-- The second drain starts after the first one has ended. -/
def inTurn : List GaugingEvent :=
  sixSubmits "t" 0 ++ sixSubmits "u" 6 ++ begun (.release "t") 12 9 ++ begun (.release "u") 13 9

theorem gauges_exact_inTurn : ∃ s, gauging.exec .empty inTurn = some s ∧
    s.redis.gauge "etl-jobs" "staged" = ∑ tenantId ∈ s.tenants, s.redis.listed "etl-jobs" tenantId ∧
    s.redis.gauge "etl-jobs" "release_pending" = 0 := by
  have result : (gauging.exec .empty inTurn).map (fun s => s.calls.all fun call => call.next.isNone) = some true := by
    decide +kernel
  obtain ⟨s, done, ended⟩ := Option.map_eq_some_iff.mp result
  have quiescent : s.Quiescent := fun call present => Option.isNone_iff_eq_none.mp (List.all_eq_true.mp ended call present)
  obtain ⟨staged, _, pending⟩ := gauges_exact (Machine.run_of_exec done) (by decide +kernel) quiescent "etl-jobs"
  exact ⟨s, done, staged, pending⟩

end Gauging
end OrchestrateModel
