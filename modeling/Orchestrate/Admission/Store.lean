import Orchestrate.Model.Reconcile

namespace OrchestrateModel

open Effect Program QueueReconcileCollector TenantCapService

section Keys

/-- Texts with different last letters differ. -/
theorem append_ne {a b x y : String} (apart : x.toList.getLast? ≠ y.toList.getLast?)
    (full : x.toList.getLast?.isSome = true) (full' : y.toList.getLast?.isSome = true) : a ++ x ≠ b ++ y := by
  intro same
  have lasts := congrArg (fun text => text.toList.getLast?) same
  simp only [String.toList_append, List.getLast?_append] at lasts
  obtain ⟨c, last⟩ := Option.isSome_iff_exists.mp full
  obtain ⟨d, last'⟩ := Option.isSome_iff_exists.mp full'
  rw [last, last'] at lasts apart
  exact apart lasts

variable (p q : String)

theorem totalsKey_inj : totalsKey p = totalsKey q ↔ p = q := by simp [totalsKey]

theorem terminalKey_inj : terminalKey p = terminalKey q ↔ p = q := by simp [terminalKey]

theorem preQueueKey_ne_totalsKey : preQueueKey p ≠ totalsKey q := append_ne (by decide) (by decide) (by decide)

theorem preQueueKey_ne_terminalKey : preQueueKey p ≠ terminalKey q := append_ne (by decide) (by decide) (by decide)

theorem terminalKey_ne_totalsKey : terminalKey p ≠ totalsKey q := append_ne (by decide) (by decide) (by decide)

end Keys

/-- A field of a hash; one that was never written reads 0. -/
def Redis.read (redis : Redis) (key field : String) : Int := (redis.hashes key field).getD 0

theorem Redis.read_setField (redis : Redis) (key field other field' : String) (value : Int) :
    (redis.setField key field value).read other field' =
      if other = key ∧ field' = field then value else redis.read other field' := by
  by_cases here : other = key
  · subst here
    by_cases same : field' = field
    · simp [Redis.read, Redis.setField, same]
    · simp [Redis.read, Redis.setField, same]
  · simp [Redis.read, Redis.setField, here]

section Commands

variable (st : Store) (key field : String) (payload : JobQueuePayload)

@[simp] theorem run_incr : (Client.incr key).run Store.serve st =
    (.ok (st.redis.count key + 1), { st with redis := st.redis.add key 1 }) := rfl

@[simp] theorem run_decr : (Client.decr key).run Store.serve st =
    (.ok (st.redis.count key - 1), { st with redis := st.redis.add key (-1) }) := rfl

@[simp] theorem run_expire (seconds : Nat) : (Client.expire key seconds).run Store.serve st =
    (.ok (), { st with redis := (st.redis.exec (.expire key seconds)).2 }) := rfl

@[simp] theorem run_set (value : Int) : (Client.set key value).run Store.serve st =
    (.ok (), { st with redis := (st.redis.exec (.set key value)).2 }) := rfl

@[simp] theorem run_rpush : (Client.rpush key payload).run Store.serve st =
    (.ok ((st.redis.lists key).length + 1),
      { st with redis := st.redis.setList key (st.redis.lists key ++ [payload]) }) := rfl

@[simp] theorem run_lpush : (Client.lpush key payload).run Store.serve st =
    (.ok ((st.redis.lists key).length + 1), { st with redis := st.redis.setList key (payload :: st.redis.lists key) }) := rfl

@[simp] theorem run_lpop : (Client.lpop key).run Store.serve st =
    (.ok (st.redis.lists key).head?, { st with redis := st.redis.setList key (st.redis.lists key).tail }) := rfl

@[simp] theorem run_llen : (Client.llen key).run Store.serve st = (.ok (st.redis.lists key).length, st) := rfl

@[simp] theorem run_hincrby (amount : Int) : (Client.hincrby key field amount).run Store.serve st =
    (.ok (st.redis.read key field + amount),
      { st with redis := st.redis.setField key field (st.redis.read key field + amount) }) := rfl

@[simp] theorem run_hget : (Client.hget key field).run Store.serve st = (.ok (st.redis.hashes key field), st) := rfl

@[simp] theorem run_hset (value : Int) : (Client.hset key field value).run Store.serve st =
    (.ok (), { st with redis := st.redis.setField key field value }) := rfl

@[simp] theorem run_queueAdd (options : JobsOptions) : (Client.queueAdd key payload options).run Store.serve st =
    (.ok (), { st with queued := BullMQ.add st.redis.now st.queued key payload options }) := rfl

theorem run_increment : (increment key field).run Store.serve st =
    (.ok (), { st with redis := st.redis.setField key field (st.redis.read key field + 1) }) := rfl

theorem run_decrementFloorZero : (decrementFloorZero key field).run Store.serve st =
    (.ok (), { st with redis := st.redis.setField key field (max 0 (st.redis.read key field - 1)) }) := rfl

theorem run_enqueue {queueName : String} (placed : getQueueName payload.jobType = some queueName) :
    (enqueue payload).run Store.serve st =
      (.ok (), { st with queued := BullMQ.add st.redis.now st.queued queueName payload (jobsOptions payload) }) := by
  unfold enqueue
  rw [placed]
  rfl

end Commands

section Submitting

variable (st : Store) (payload : JobQueuePayload) {current : Int}

/-- The slot counter after its INCR, with an expiry time on the first slot. -/
def Redis.taking (redis : Redis) (tenantId : TenantId) : Redis :=
  let taken := redis.add (inflightKey tenantId) 1
  if redis.count (inflightKey tenantId) + 1 = 1 then (taken.exec (.expire (inflightKey tenantId) 300)).2 else taken

def takeSlot (tenantId : TenantId) : CapProgram Int := do
  let current ← Client.incr (inflightKey tenantId)
  if current = 1 then
    Client.expire (inflightKey tenantId) 300
  return current

/-- The decision of `submitJob`. -/
def placeJob (payload : JobQueuePayload) (current : Int) : CapProgram JobStatus := do
  if current ≤ MAX_CONCURRENT_PER_TENANT then
    enqueue payload
    return .QUEUED
  let _ ← Client.decr (inflightKey payload.tenantId)
  let _ ← Client.rpush (stagingKey payload.tenantId) payload
  incrementStaged payload.queueName
  let _depth ← Client.llen (stagingKey payload.tenantId)
  return .STAGED

theorem submitJob_eq : submitJob payload = (incrementSubmitted payload.queueName).bind fun _ =>
    (takeSlot payload.tenantId).bind (placeJob payload) := by
  unfold submitJob takeSlot
  simp only [bind_eq, bind_assoc, pure_eq_done]
  congr 1
  funext _
  congr 1
  funext current
  split
  · rw [bind_assoc]
    rfl
  · rfl

theorem run_takeSlot (tenantId : TenantId) : (takeSlot tenantId).run Store.serve st =
    (.ok (st.redis.count (inflightKey tenantId) + 1), { st with redis := st.redis.taking tenantId }) := by
  unfold takeSlot Redis.taking
  rw [bind_eq, run_bind, run_incr]
  dsimp only
  split <;> rfl

theorem taking_lists (redis : Redis) (tenantId : TenantId) : (redis.taking tenantId).lists = redis.lists := by
  unfold Redis.taking
  dsimp only
  split <;> rfl

theorem taking_hashes (redis : Redis) (tenantId : TenantId) : (redis.taking tenantId).hashes = redis.hashes := by
  unfold Redis.taking
  dsimp only
  split <;> rfl

theorem taking_now (redis : Redis) (tenantId : TenantId) : (redis.taking tenantId).now = redis.now := by
  unfold Redis.taking
  dsimp only
  split <;> rfl

theorem taking_count (redis : Redis) (tenantId : TenantId) (key : String) :
    (redis.taking tenantId).count key = redis.count key + if key = inflightKey tenantId then 1 else 0 := by
  rw [← Redis.count_add]
  unfold Redis.taking
  dsimp only
  split
  · by_cases here : key = inflightKey tenantId
    · subst here
      simp [Redis.exec, Redis.count, Redis.add]
    · simp [Redis.exec, Redis.count, Redis.add, here]
  · rfl

theorem run_placeJob_free (free : current ≤ MAX_CONCURRENT_PER_TENANT) {queueName : String}
    (placed : getQueueName payload.jobType = some queueName) : (placeJob payload current).run Store.serve st =
      (.ok .QUEUED, { st with queued := BullMQ.add st.redis.now st.queued queueName payload (jobsOptions payload) }) := by
  unfold placeJob
  rw [if_pos free, bind_eq, run_bind_ok _ (run_enqueue st payload placed)]
  rfl

theorem run_placeJob_full (full : ¬ current ≤ MAX_CONCURRENT_PER_TENANT) : (placeJob payload current).run Store.serve st =
    (.ok .STAGED, { st with
      redis :=
        let redis := st.redis.add (inflightKey payload.tenantId) (-1)
        let redis := redis.setList (stagingKey payload.tenantId) (redis.lists (stagingKey payload.tenantId) ++ [payload])
        redis.setField (preQueueKey payload.queueName) "staged" (redis.read (preQueueKey payload.queueName) "staged" + 1) }) := by
  unfold placeJob
  rw [if_neg full]
  rfl

/-- The state in which `submitJob` decides. -/
def Store.counted (st : Store) (payload : JobQueuePayload) : Store :=
  { st with
    redis := (st.redis.setField (totalsKey payload.queueName) "submitted_total"
      (st.redis.read (totalsKey payload.queueName) "submitted_total" + 1)).taking payload.tenantId }

theorem run_submitJob : (submitJob payload).run Store.serve st =
    (placeJob payload (st.redis.count (inflightKey payload.tenantId) + 1)).run Store.serve (st.counted payload) := by
  rw [submitJob_eq, incrementSubmitted, run_bind_ok _ (run_increment _ _ _), run_bind_ok _ (run_takeSlot _ _)]
  rfl

end Submitting

section Draining

variable (st : Store) {payload : JobQueuePayload} {tenantId : TenantId} (queueName : String)

theorem run_drainOne_nil (empty : st.redis.lists (stagingKey tenantId) = []) :
    (drainOne tenantId queueName).run Store.serve st =
      (.ok (), { st with redis := st.redis.setList (stagingKey tenantId) [] }) := by
  unfold drainOne
  rw [bind_eq, run_bind, run_lpop, empty]
  rfl

/-- The hashes while a popped payload is on its way. -/
def Redis.popped (redis : Redis) (tenantId : TenantId) (payload : JobQueuePayload) : Redis :=
  let redis := redis.setList (stagingKey tenantId) (redis.lists (stagingKey tenantId)).tail
  let redis := redis.setField (preQueueKey payload.queueName) "staged"
    (max 0 (redis.read (preQueueKey payload.queueName) "staged" - 1))
  redis.setField (preQueueKey payload.queueName) "release_pending"
    (redis.read (preQueueKey payload.queueName) "release_pending" + 1)

def Redis.unpending (redis : Redis) (queueName : String) : Redis :=
  redis.setField (preQueueKey queueName) "release_pending" (max 0 (redis.read (preQueueKey queueName) "release_pending" - 1))

theorem run_drainOne_adds {rest : List JobQueuePayload} (waits : st.redis.lists (stagingKey tenantId) = payload :: rest)
    {queue : String} (placed : getQueueName payload.jobType = some queue) :
    (drainOne tenantId queueName).run Store.serve st =
      (.ok (),
        { redis := ((st.redis.popped tenantId payload).add (inflightKey tenantId) 1).unpending payload.queueName
          queued := BullMQ.add st.redis.now st.queued queue payload (jobsOptions payload) }) := by
  unfold drainOne
  rw [bind_eq, run_bind, run_lpop, waits]
  dsimp only [List.head?_cons]
  rw [bind_eq, decrementStaged, run_bind_ok _ (run_decrementFloorZero _ _ _), bind_eq, incrementReleasePending,
    run_bind_ok _ (run_increment _ _ _), run_catching, bind_eq, run_bind_ok _ (run_enqueue _ _ placed)]
  rw [← waits]
  rfl

theorem run_drainOne_returns {rest : List JobQueuePayload} (waits : st.redis.lists (stagingKey tenantId) = payload :: rest)
    (unplaced : getQueueName payload.jobType = none) :
    (drainOne tenantId queueName).run Store.serve st =
      (.ok (), { st with
        redis :=
          let redis := st.redis.popped tenantId payload
          let redis := (redis.setList (stagingKey tenantId) (payload :: redis.lists (stagingKey tenantId))).unpending
            payload.queueName
          redis.setField (preQueueKey payload.queueName) "staged"
            (redis.read (preQueueKey payload.queueName) "staged" + 1) }) := by
  unfold drainOne
  rw [bind_eq, run_bind, run_lpop, waits]
  dsimp only [List.head?_cons]
  have threw (st : Store) : (enqueue payload).run Store.serve st =
      (.thrown { message := "no queue found for this jobtype \"" ++ payload.jobType ++ "\"" }, st) := by
    unfold enqueue
    rw [unplaced]
    rfl
  rw [bind_eq, decrementStaged, run_bind_ok _ (run_decrementFloorZero _ _ _), bind_eq, incrementReleasePending,
    run_bind_ok _ (run_increment _ _ _), run_catching, bind_eq, run_bind_thrown _ (threw _)]
  rw [← waits]
  rfl

theorem run_release_negative (negative : st.redis.count (inflightKey tenantId) - 1 < 0) :
    (release tenantId queueName).run Store.serve st =
      (.ok (), { st with
        redis := ((st.redis.add (inflightKey tenantId) (-1)).exec (.set (inflightKey tenantId) 0)).2 }) := by
  unfold release
  rw [bind_eq, run_bind, run_decr]
  dsimp only
  rw [if_pos negative]
  rfl

theorem run_release (held : ¬ st.redis.count (inflightKey tenantId) - 1 < 0) :
    (release tenantId queueName).run Store.serve st =
      (drainOne tenantId queueName).run Store.serve { st with redis := st.redis.add (inflightKey tenantId) (-1) } := by
  unfold release
  rw [bind_eq, run_bind, run_decr]
  dsimp only
  rw [if_neg held]

end Draining
end OrchestrateModel
