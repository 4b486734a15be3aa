import Mathlib.Data.Multiset.Filter
import Orchestrate.Admission.Gauges
import Orchestrate.Admission.Store

namespace OrchestrateModel

open Effect Program QueueReconcileCollector TenantCapService

/-- Neither finished nor failed. -/
def BullState.inflight : BullState → Bool
  | .waiting | .prioritized | .delayed | .active => true
  | .completed | .failed => false

def QueuedJob.counts (queueName : String) (job : QueuedJob) : Bool :=
  job.run.queueName = queueName && job.state.inflight

namespace Store

def inflight (st : Store) (queueName : String) : Int := st.queued.countP (QueuedJob.counts queueName)

/-- What the store's own buckets leave of the submitted jobs of a queue. -/
def excess (st : Store) (queueName : String) : Int :=
  let reconcile := getQueueState st.redis queueName
  reconcile.submittedTotal -
    (reconcile.staged + reconcile.releasePending + st.inflight queueName + reconcile.completed + reconcile.failed)

/-- The staged payloads, over all tenants, are those that the gauges count. -/
structure Parked (st : Store) (parked : Multiset JobQueuePayload) : Prop where
  lists : ∀ tenantId, parked.filter (fun payload => payload.tenantId = tenantId) = ↑(st.redis.lists (stagingKey tenantId))
  staged : ∀ queueName, (getQueueState st.redis queueName).staged = parked.countP fun payload => payload.queueName = queueName
  pending : ∀ queueName, (getQueueState st.redis queueName).releasePending = 0
  named : ∀ payload ∈ parked, resolveQueueName payload.jobType = .ok payload.queueName

/-- A queue takes the payload: it exists, and holds no job under its id. -/
def Takes (st : Store) (payload : JobQueuePayload) : Prop :=
  Routable payload.jobType ∧ BullMQ.holds st.queued payload.queueName (jobsOptions payload) = false

/-- A submission that is not staged is taken by its queue. -/
def Admits (st : Store) (payload : JobQueuePayload) : Prop :=
  st.redis.count (inflightKey payload.tenantId) + 1 ≤ MAX_CONCURRENT_PER_TENANT → st.Takes payload

/-- A release that drains a payload, whose queue exists, has it taken by its queue. -/
def Drains (st : Store) (tenantId : TenantId) : Prop :=
  0 ≤ st.redis.count (inflightKey tenantId) - 1 → ∀ payload ∈ (st.redis.lists (stagingKey tenantId)).head?,
    Routable payload.jobType → st.Takes payload

variable {α : Type} {st st' : Store} {parked : Multiset JobQueuePayload} {payload : JobQueuePayload} {tenantId : TenantId}

theorem getQueueState_eq (redis : Redis) (queueName : String) : getQueueState redis queueName =
    { staged := redis.read (preQueueKey queueName) "staged"
      releasePending := redis.read (preQueueKey queueName) "release_pending"
      completed := redis.read (terminalKey queueName) "completed"
      failed := redis.read (terminalKey queueName) "failed"
      submittedTotal := redis.read (totalsKey queueName) "submitted_total" } := rfl

theorem read_of_hashes {redis redis' : Redis} (same : redis'.hashes = redis.hashes) (key field : String) :
    redis'.read key field = redis.read key field := by rw [Redis.read, Redis.read, same]

/-- A queue that takes a job has one more in flight. -/
theorem countP_add (payload : JobQueuePayload) (now : Nat) {queued : List QueuedJob} {name : String} {options : JobsOptions}
    (free : BullMQ.holds queued name options = false) (queueName : String) :
    (((BullMQ.add now queued name payload options).countP (QueuedJob.counts queueName) : Nat) : Int) =
      queued.countP (QueuedJob.counts queueName) + if name = queueName then 1 else 0 := by
  have goes : (if options.delay.any (0 < ·) then BullState.delayed else BullMQ.ready options).inflight = true := by
    unfold BullMQ.ready
    split
    · rfl
    · split <;> rfl
  unfold BullMQ.add
  rw [free, if_neg Bool.false_ne_true, List.countP_append, List.countP_singleton]
  by_cases own : name = queueName
  · simp [QueuedJob.counts, own, goes]
  · simp [QueuedJob.counts, own]

theorem prefix_add (now : Nat) (queued : List QueuedJob) (name : String) (payload : JobQueuePayload) (options : JobsOptions) :
    queued <+: BullMQ.add now queued name payload options := by
  unfold BullMQ.add
  split
  · exact List.prefix_rfl
  · exact List.prefix_append _ _

theorem perform_of_run {program : CapProgram α} {value : α} (ran : program.run serve st = (.ok value, st')) :
    perform program st = (.ok value, st') := by
  rw [perform, ran]

theorem takes_queue (takes : st.Takes payload) (named : resolveQueueName payload.jobType = .ok payload.queueName) :
    getQueueName payload.jobType = some payload.queueName := by
  obtain ⟨queue, placed⟩ := takes.1
  have resolved := resolveQueueName_of_getQueueName placed
  rw [named] at resolved
  rw [placed, Except.ok.inj resolved]

/-- The hashes and lists decide which payloads are parked. -/
theorem Parked.of_redis (held : st.Parked parked) (lists : st'.redis.lists = st.redis.lists)
    (pre : ∀ queueName field, st'.redis.read (preQueueKey queueName) field = st.redis.read (preQueueKey queueName) field) :
    st'.Parked parked where
  lists tenantId := by
    rw [lists]
    exact held.lists tenantId
  staged queueName := by
    rw [← held.staged queueName]
    exact pre queueName "staged"
  pending queueName := by
    rw [← held.pending queueName]
    exact pre queueName "release_pending"
  named := held.named

theorem counted_read (st : Store) (payload : JobQueuePayload) (key field : String) :
    (st.counted payload).redis.read key field =
      if key = totalsKey payload.queueName ∧ field = "submitted_total" then
        st.redis.read (totalsKey payload.queueName) "submitted_total" + 1
      else st.redis.read key field := by
  have same := read_of_hashes (taking_hashes (st.redis.setField (totalsKey payload.queueName) "submitted_total"
    (st.redis.read (totalsKey payload.queueName) "submitted_total" + 1)) payload.tenantId) key field
  rw [Redis.read_setField] at same
  exact same

theorem Parked.counted (held : st.Parked parked) (payload : JobQueuePayload) : (st.counted payload).Parked parked := by
  refine held.of_redis (taking_lists _ _) fun queueName field => ?_
  rw [counted_read]
  exact if_neg fun both => preQueueKey_ne_totalsKey _ _ both.1

theorem excess_counted (st : Store) (payload : JobQueuePayload) (queueName : String) :
    (st.counted payload).excess queueName = st.excess queueName + if payload.queueName = queueName then 1 else 0 := by
  simp only [excess, getQueueState_eq, counted_read, preQueueKey_ne_totalsKey, terminalKey_ne_totalsKey, totalsKey_inj,
    false_and, if_false, and_true]
  have queued : (st.counted payload).inflight queueName = st.inflight queueName := rfl
  rw [queued]
  by_cases own : payload.queueName = queueName
  · simp only [own, if_true]
    omega
  · simp only [own, Ne.symm own, if_false]
    omega

/-- Of all gauges and counters only the number of staged payloads of a queue has changed. -/
def Restaged (redis redis' : Redis) (queueName : String) (change : Int) : Prop :=
  ∀ key field, redis'.read key field =
    redis.read key field + if key = preQueueKey queueName ∧ field = "staged" then change else 0

theorem Restaged.staged {redis redis' : Redis} {name : String} {change : Int} (moved : Restaged redis redis' name change)
    (queueName : String) : (getQueueState redis' queueName).staged =
      (getQueueState redis queueName).staged + if name = queueName then change else 0 := by
  have now := moved (preQueueKey queueName) "staged"
  simpa only [getQueueState_eq, Redis.preQueueKey_inj, and_true, eq_comm (a := name)] using now

theorem Restaged.pending {redis redis' : Redis} {name : String} {change : Int} (moved : Restaged redis redis' name change)
    (queueName : String) : (getQueueState redis' queueName).releasePending = (getQueueState redis queueName).releasePending := by
  have now := moved (preQueueKey queueName) "release_pending"
  rw [if_neg (by simp), add_zero] at now
  exact now

theorem Restaged.excess {name : String} {change : Int} (moved : Restaged st.redis st'.redis name change) (queueName : String) :
    st'.excess queueName + (if name = queueName then change else 0) =
      st.excess queueName + st.inflight queueName - st'.inflight queueName := by
  have staged := moved.staged queueName
  have pending := moved.pending queueName
  have elsewhere (key field : String) (other : key ≠ preQueueKey name) : st'.redis.read key field = st.redis.read key field := by
    have now := moved key field
    rwa [if_neg fun both => other both.1, add_zero] at now
  have totals := elsewhere (totalsKey queueName) "submitted_total" (preQueueKey_ne_totalsKey _ _).symm
  have completed := elsewhere (terminalKey queueName) "completed" (preQueueKey_ne_terminalKey _ _).symm
  have failed := elsewhere (terminalKey queueName) "failed" (preQueueKey_ne_terminalKey _ _).symm
  unfold Store.excess
  simp only [getQueueState_eq] at staged pending ⊢
  rw [staged, pending, totals, completed, failed]
  omega

theorem Parked.head {rest : List JobQueuePayload} (held : st.Parked parked)
    (waits : st.redis.lists (stagingKey tenantId) = payload :: rest) : payload ∈ parked ∧ payload.tenantId = tenantId := by
  have list := held.lists tenantId
  rw [waits] at list
  have member : payload ∈ parked.filter fun other => other.tenantId = tenantId := by
    rw [list]
    exact Multiset.mem_coe.mpr List.mem_cons_self
  exact Multiset.mem_filter.mp member

/-- A payload joins its tenant's list, and is counted as staged. -/
theorem Parked.push (held : st.Parked parked) (named : resolveQueueName payload.jobType = .ok payload.queueName)
    {list : List JobQueuePayload} (joins : list.Perm (payload :: st.redis.lists (stagingKey payload.tenantId)))
    (lists : st'.redis.lists = Function.update st.redis.lists (stagingKey payload.tenantId) list)
    (moved : Restaged st.redis st'.redis payload.queueName 1) : st'.Parked (payload ::ₘ parked) where
  lists tenantId := by
    rw [lists]
    by_cases own : payload.tenantId = tenantId
    · have lists := held.lists tenantId
      rw [Multiset.filter_cons_of_pos parked own, lists, ← own, Function.update_self, Multiset.cons_coe, Multiset.coe_eq_coe]
      exact joins.symm
    · have elsewhere : stagingKey tenantId ≠ stagingKey payload.tenantId := by simpa [stagingKey] using Ne.symm own
      rw [Multiset.filter_cons_of_neg parked own, Function.update_of_ne elsewhere]
      exact held.lists tenantId
  staged queueName := by
    rw [moved.staged, held.staged, Multiset.countP_cons]
    split <;> simp
  pending queueName := by rw [moved.pending, held.pending]
  named other member := by
    rcases Multiset.mem_cons.mp member with rfl | earlier
    · exact named
    · exact held.named other earlier

/-- The first payload of a tenant's list leaves it. -/
theorem Parked.pop {rest : List JobQueuePayload} (held : st.Parked parked)
    (waits : st.redis.lists (stagingKey tenantId) = payload :: rest)
    (lists : st'.redis.lists = Function.update st.redis.lists (stagingKey tenantId) rest)
    (moved : Restaged st.redis st'.redis payload.queueName (-1)) : ∃ others, st'.Parked others := by
  obtain ⟨present, own⟩ := held.head waits
  obtain ⟨others, rfl⟩ := Multiset.exists_cons_of_mem present
  refine ⟨others, ?_, fun queueName => ?_, fun queueName => ?_, fun other later => ?_⟩
  · intro tenant
    rw [lists]
    by_cases same : tenantId = tenant
    · subst same
      have list := held.lists tenantId
      rw [Multiset.filter_cons_of_pos others own, waits, ← Multiset.cons_coe] at list
      rw [Function.update_self]
      exact (Multiset.cons_inj_right payload).mp list
    · have elsewhere : stagingKey tenant ≠ stagingKey tenantId := by simpa [stagingKey] using Ne.symm same
      have list := held.lists tenant
      rw [Multiset.filter_cons_of_neg others (by rwa [own])] at list
      rw [Function.update_of_ne elsewhere]
      exact list
  · rw [moved.staged, held.staged, Multiset.countP_cons]
    split <;> simp
  · rw [moved.pending, held.pending]
  · exact held.named other (Multiset.mem_cons_of_mem later)

/-- `submitJob` counts the payload once in what was submitted and once in a bucket. -/
theorem submitJob_kept (held : st.Parked parked) (named : resolveQueueName payload.jobType = .ok payload.queueName)
    (admits : st.Admits payload) : (∃ parked', (st.submitJob payload).2.Parked parked') ∧
      (∀ queueName, (st.submitJob payload).2.excess queueName = st.excess queueName) ∧
      st.queued <+: (st.submitJob payload).2.queued := by
  have ran := run_submitJob st payload
  have counts := excess_counted st payload
  by_cases free : st.redis.count (inflightKey payload.tenantId) + 1 ≤ MAX_CONCURRENT_PER_TENANT
  · have takes := admits free
    rw [run_placeJob_free _ _ free (takes_queue takes named)] at ran
    rw [submitJob, perform_of_run ran]
    refine ⟨⟨parked, (held.counted payload).of_redis rfl fun _ _ => rfl⟩, fun queueName => ?_, prefix_add _ _ _ _ _⟩
    have counted := counts queueName
    have added := countP_add payload (st.counted payload).redis.now takes.2 queueName
    have same : (st.counted payload).queued = st.queued := rfl
    simp only [excess, inflight, same] at counted ⊢
    rw [added]
    omega
  · rw [run_placeJob_full _ _ free] at ran
    rw [submitJob, perform_of_run ran]
    set staged : Store := Prod.snd (Except.ok (ε := Err) JobStatus.STAGED, _) with left
    have moved : Restaged (st.counted payload).redis staged.redis payload.queueName 1 := by
      intro key field
      rw [left, Redis.read_setField]
      by_cases here : key = preQueueKey payload.queueName ∧ field = "staged"
      · rw [if_pos here, if_pos here, here.1, here.2]
        rfl
      · rw [if_neg here, if_neg here, add_zero]
        rfl
    refine ⟨⟨payload ::ₘ parked, (held.counted payload).push named (List.perm_append_singleton _ _) ?_ moved⟩,
      fun queueName => ?_, List.prefix_rfl⟩
    · rw [left]
      rfl
    · have counted := counts queueName
      have restaged := moved.excess queueName
      have same : staged.inflight queueName = (st.counted payload).inflight queueName := rfl
      rw [same] at restaged
      omega

/-- A popped payload that is no longer on its way. -/
theorem restaged_popped (redis : Redis) (payload : JobQueuePayload) (tenantId : TenantId)
    (counted : 1 ≤ redis.read (preQueueKey payload.queueName) "staged")
    (idle : redis.read (preQueueKey payload.queueName) "release_pending" = 0) {redis' : Redis}
    (same : redis'.hashes = (redis.popped tenantId payload).hashes) :
    Restaged redis (redis'.unpending payload.queueName) payload.queueName (-1) := by
  have popped (key field : String) : redis'.read key field =
      if key = preQueueKey payload.queueName ∧ field = "release_pending" then 1
      else if key = preQueueKey payload.queueName ∧ field = "staged" then
        redis.read (preQueueKey payload.queueName) "staged" - 1
      else redis.read key field := by
    rw [read_of_hashes same, Redis.popped, Redis.read_setField, Redis.read_setField, Redis.read_setField]
    have before : (redis.setList (stagingKey tenantId) (redis.lists (stagingKey tenantId)).tail).read = redis.read := rfl
    simp only [before, idle, and_false, if_false, String.reduceEq, zero_add]
    rw [max_eq_right (by omega)]
  intro key field
  rw [Redis.unpending, Redis.read_setField, popped, popped]
  by_cases here : key = preQueueKey payload.queueName
  · subst here
    by_cases pending : field = "release_pending"
    · subst pending
      simp [idle]
    · by_cases staged : field = "staged"
      · subst staged
        simp
        omega
      · simp [pending, staged]
  · simp [here]

/-- `drainOne` moves the first staged payload of a tenant to its queue, or leaves it. -/
theorem drainOne_kept (held : st.Parked parked) (queueName : String)
    (takes : ∀ payload ∈ (st.redis.lists (stagingKey tenantId)).head?, Routable payload.jobType → st.Takes payload) :
    (∃ parked', (perform (drainOne tenantId queueName) st).2.Parked parked') ∧
      (∀ name, (perform (drainOne tenantId queueName) st).2.excess name = st.excess name) ∧
      st.queued <+: (perform (drainOne tenantId queueName) st).2.queued := by
  cases waits : st.redis.lists (stagingKey tenantId) with
  | nil =>
    rw [perform_of_run (run_drainOne_nil st queueName waits)]
    refine ⟨⟨parked, held.of_redis ?_ fun _ _ => rfl⟩, fun _ => rfl, List.prefix_rfl⟩
    exact Function.update_eq_self_iff.mpr waits.symm
  | cons payload rest =>
    have first : payload ∈ (st.redis.lists (stagingKey tenantId)).head? := by rw [waits]; rfl
    have pending : st.redis.read (preQueueKey payload.queueName) "release_pending" = 0 := held.pending payload.queueName
    have listed := (held.head waits).1
    have counted : 1 ≤ st.redis.read (preQueueKey payload.queueName) "staged" := by
      have gauge := held.staged payload.queueName
      have some := Multiset.countP_pos_of_mem (p := fun other => other.queueName = payload.queueName) listed rfl
      rw [getQueueState_eq] at gauge
      dsimp only at gauge
      omega
    have moved {redis' : Redis} (same : redis'.hashes = (st.redis.popped tenantId payload).hashes) :=
      restaged_popped st.redis payload tenantId counted pending same
    by_cases routable : Routable payload.jobType
    · have taken := takes payload first routable
      have placed := takes_queue taken (held.named payload listed)
      rw [perform_of_run (run_drainOne_adds st queueName waits placed)]
      let left : Store :=
        { redis := ((st.redis.popped tenantId payload).add (inflightKey tenantId) 1).unpending payload.queueName
          queued := BullMQ.add st.redis.now st.queued payload.queueName payload (jobsOptions payload) }
      have restaged : Restaged st.redis left.redis payload.queueName (-1) := moved rfl
      have lists : left.redis.lists = Function.update st.redis.lists (stagingKey tenantId) rest := by
        have tail : (st.redis.lists (stagingKey tenantId)).tail = rest := by rw [waits, List.tail_cons]
        rw [← tail]
        rfl
      refine ⟨held.pop waits lists restaged, fun name => ?_, prefix_add _ _ _ _ _⟩
      have excess := restaged.excess name
      have added : left.inflight name = st.inflight name + if payload.queueName = name then 1 else 0 :=
        countP_add payload st.redis.now taken.2 name
      rw [added] at excess
      change left.excess name = st.excess name
      split at excess <;> omega
    · have unplaced : getQueueName payload.jobType = none := by
        cases placed : getQueueName payload.jobType with
        | none => rfl
        | some queue => exact absurd ⟨queue, placed⟩ routable
      rw [perform_of_run (run_drainOne_returns st queueName waits unplaced)]
      let popped := st.redis.popped tenantId payload
      let returned := (popped.setList (stagingKey tenantId) (payload :: popped.lists (stagingKey tenantId))).unpending
        payload.queueName
      let left : Store := { st with
        redis := returned.setField (preQueueKey payload.queueName) "staged"
          (returned.read (preQueueKey payload.queueName) "staged" + 1) }
      have restaged : Restaged st.redis left.redis payload.queueName 0 := by
        have moved : Restaged st.redis returned payload.queueName (-1) := moved rfl
        intro key field
        rw [Redis.read_setField, moved, moved]
        by_cases here : key = preQueueKey payload.queueName ∧ field = "staged"
        · simp [here]
        · simp [here]
      have lists : left.redis.lists = st.redis.lists := by
        have back : left.redis.lists = Function.update
            (Function.update st.redis.lists (stagingKey tenantId) (st.redis.lists (stagingKey tenantId)).tail)
            (stagingKey tenantId) (payload :: popped.lists (stagingKey tenantId)) := rfl
        have tail : popped.lists (stagingKey tenantId) = rest := by
          have popped : popped.lists =
              Function.update st.redis.lists (stagingKey tenantId) (st.redis.lists (stagingKey tenantId)).tail := rfl
          rw [popped, Function.update_self, waits, List.tail_cons]
        rw [back, tail, Function.update_idem]
        exact Function.update_eq_self_iff.mpr waits.symm
      refine ⟨⟨parked, held.of_redis lists fun name field => ?_⟩, fun name => ?_, List.prefix_rfl⟩
      · have same := restaged (preQueueKey name) field
        rwa [ite_self, add_zero] at same
      · have excess := restaged.excess name
        have same : left.inflight name = st.inflight name := rfl
        rw [same, ite_self] at excess
        change left.excess name = st.excess name
        omega

/-- `release` moves at most one payload, from the staged ones to its queue. -/
theorem release_kept (held : st.Parked parked) (drains : st.Drains tenantId) (queueName : String) :
    (∃ parked', (perform (release tenantId queueName) st).2.Parked parked') ∧
      (∀ name, (perform (release tenantId queueName) st).2.excess name = st.excess name) ∧
      st.queued <+: (perform (release tenantId queueName) st).2.queued := by
  by_cases negative : st.redis.count (inflightKey tenantId) - 1 < 0
  · rw [perform_of_run (run_release_negative st queueName negative)]
    exact ⟨⟨parked, held.of_redis rfl fun _ _ => rfl⟩, fun _ => rfl, List.prefix_rfl⟩
  · have same : perform (release tenantId queueName) st =
        perform (drainOne tenantId queueName) { st with redis := st.redis.add (inflightKey tenantId) (-1) } := by
      rw [perform, perform, run_release st queueName negative]
    rw [same]
    have freed : Parked { st with redis := st.redis.add (inflightKey tenantId) (-1) } parked := held.of_redis rfl fun _ _ => rfl
    exact drainOne_kept freed queueName (drains (by omega))

/-- A run that ends moves a job of the queue from the store's own buckets to a terminal counter. -/
theorem incremented (held : st.Parked parked) {queueName field : String} (terminal : field = "completed" ∨ field = "failed")
    {program : CapProgram Unit} (increments : program = increment (terminalKey queueName) field) :
    (perform program st).2.Parked parked ∧
      (∀ name, (perform program st).2.excess name = st.excess name - if queueName = name then 1 else 0) ∧
      (perform program st).2.queued = st.queued := by
  rw [perform_of_run (increments ▸ run_increment st (terminalKey queueName) field)]
  have reads := Redis.read_setField st.redis (terminalKey queueName) field
  refine ⟨held.of_redis rfl fun name other => ?_, fun name => ?_, rfl⟩
  · rw [reads, if_neg fun both => preQueueKey_ne_terminalKey _ _ both.1]
  · simp only [excess, getQueueState_eq, reads, preQueueKey_ne_terminalKey, (terminalKey_ne_totalsKey _ _).symm,
      terminalKey_inj, false_and, if_false]
    have same (redis : Redis) : inflight { st with redis := redis } name = st.inflight name := rfl
    rw [same]
    by_cases own : name = queueName
    · subst own
      rcases terminal with rfl | rfl <;> simp <;> omega
    · simp [own, Ne.symm own]

end Store
end OrchestrateModel
