import Orchestrate.Admission.Interleaving

namespace OrchestrateModel

open Effect TenantCapService

namespace Redis

theorem count_exec (redis : Redis) (c : CapCall) (key : String) :
    (redis.exec c).2.count key =
      match c with
      | .incr other => redis.count key + if key = other then 1 else 0
      | .decr other => redis.count key - if key = other then 1 else 0
      | .set other value => if key = other then value else redis.count key
      | _ => redis.count key := by
  cases c with
  | expire other seconds =>
    by_cases same : key = other
    · subst same
      simp only [exec, count, Function.update_self, Option.map_map]
      rfl
    · simp [exec, count, same]
  | set other value =>
    by_cases same : key = other
    · subst same
      simp [exec, count]
    · simp [exec, count, same]
  | decr other =>
    simp only [exec, count_add]
    split_ifs <;> omega
  | _ => simp [exec]

theorem lists_exec (redis : Redis) (c : CapCall) (key : String) :
    (redis.exec c).2.lists key =
      match c with
      | .rpush other payload => redis.lists key ++ if key = other then [payload] else []
      | .lpush other payload => (if key = other then [payload] else []) ++ redis.lists key
      | .lpop other => if key = other then (redis.lists key).tail else redis.lists key
      | _ => redis.lists key := by
  cases c with
  | rpush other payload =>
    by_cases same : key = other
    · subst same
      simp [exec]
    · simp [exec, same]
  | lpush other payload =>
    by_cases same : key = other
    · subst same
      simp [exec]
    · simp [exec, same]
  | lpop other =>
    by_cases same : key = other
    · subst same
      simp [exec]
    · simp [exec, same]
  | _ => rfl

theorem expireKey_eq_some {redis redis' : Redis} {key : String}
    (expired : redis.expireKey key = some redis') :
    redis' = { redis with counters := Function.update redis.counters key none } := by
  unfold expireKey at expired
  split at expired
  · split at expired
    · exact (Option.some.inj expired).symm
    · cases expired
  · cases expired

end Redis

namespace Thread

variable {thread : Thread} {c : CapCall} {tenantId : TenantId}

theorem resume_tenantId (thread : Thread) (redis : Redis) :
    (thread.resume redis).tenantId = thread.tenantId := by
  cases thread <;> rfl

theorem role_of_ne (other : thread.tenantId ≠ tenantId) : thread.role tenantId = .idle := by
  simp only [role, other, if_false]

/-- The calls of a thread reach no counter and no list but those of its own tenant. -/
theorem frame (next : thread.next = some c) (other : thread.tenantId ≠ tenantId) (redis : Redis) :
    (redis.exec c).2.count (inflightKey tenantId) = redis.count (inflightKey tenantId) ∧
      (redis.exec c).2.lists (stagingKey tenantId) = redis.lists (stagingKey tenantId) := by
  rw [Redis.count_exec, Redis.lists_exec]
  cases thread with
  | submit payload point =>
    have apart : ¬ tenantId = payload.tenantId := fun same => other same.symm
    cases point <;> simp only [Thread.next, Option.some.injEq, Option.map_eq_some_iff] at next <;>
      first
        | (subst next; simp [apart])
        | (obtain ⟨queueName, _, rfl⟩ := next; simp)
        | cases next
  | release owner point =>
    have apart : ¬ tenantId = owner := fun same => other same.symm
    cases point <;> simp only [Thread.next, Option.some.injEq, Option.map_eq_some_iff] at next <;>
      first
        | (subst next; simp [apart])
        | (obtain ⟨queueName, _, rfl⟩ := next; simp)
        | cases next

/-- What a thread hands to BullMQ: its own payload, or the one it has popped. -/
theorem added_eq {payload : JobQueuePayload} (next : thread.next = some c)
    (added : c.added = some payload) :
    (thread = .submit payload .add) ∨ ∃ owner, thread = .release owner (.add payload) := by
  cases thread with
  | submit own point =>
    cases point <;> simp only [Thread.next, Option.some.injEq, Option.map_eq_some_iff] at next <;>
      first
        | (subst next; cases added)
        | (obtain ⟨queueName, _, rfl⟩ := next; cases added; exact .inl rfl)
        | cases next
  | release owner point =>
    cases point <;> simp only [Thread.next, Option.some.injEq, Option.map_eq_some_iff] at next <;>
      first
        | (subst next; cases added)
        | (obtain ⟨queueName, _, rfl⟩ := next; cases added; exact .inr ⟨owner, rfl⟩)
        | cases next

/-- A thread parks nothing but its own payload. -/
theorem parked {payload : JobQueuePayload} {key : String} (redis : Redis) (next : thread.next = some c)
    (member : payload ∈ (redis.exec c).2.lists key) :
    payload ∈ redis.lists key ∨ (key = stagingKey thread.tenantId ∧ payload.tenantId = thread.tenantId) := by
  rw [Redis.lists_exec] at member
  cases thread with
  | submit own point =>
    cases point <;> simp only [Thread.next, Option.some.injEq, Option.map_eq_some_iff] at next <;>
      first
        | (subst next; simp only [List.mem_append] at member; grind [Thread.tenantId])
        | (obtain ⟨queueName, _, rfl⟩ := next; exact .inl member)
        | cases next
  | release owner point =>
    cases point <;> simp only [Thread.next, Option.some.injEq, Option.map_eq_some_iff] at next <;>
      first
        | (subst next; exact .inl member)
        | (subst next; dsimp only at member; split_ifs at member; exact .inl (List.mem_of_mem_tail member);
           exact .inl member)
        | (obtain ⟨queueName, _, rfl⟩ := next; exact .inl member)
        | cases next

/-- A drain carries what it was carrying, or the head of its tenant's list. -/
theorem drained_resume {payload : JobQueuePayload} (redis : Redis)
    (drained : payload ∈ (thread.resume redis).drained) :
    payload ∈ thread.drained ∨ payload ∈ redis.lists (stagingKey thread.tenantId) := by
  cases thread with
  | submit own point => cases point <;> cases drained
  | release owner point =>
    cases point with
    | decr =>
      simp only [resume] at drained
      split at drained <;> cases drained
    | lpop =>
      simp only [resume] at drained
      split at drained
      · cases drained
      · rename_i head rest found
        obtain rfl : head = payload := Option.some.inj drained
        right
        simp only [Thread.tenantId, found, List.mem_cons_self]
    | stagedGet own => exact .inl drained
    | stagedSet own next => exact .inl drained
    | pending own => exact .inl drained
    | _ => cases drained

end Thread

namespace Admission

variable {s s' : Admission} {tenantId : TenantId} {i : Nat} {thread : Thread} {c : CapCall}

/-- The state after the next call of the thread at `i`. -/
def advanced (s : Admission) (i : Nat) (thread : Thread) (c : CapCall) : Admission :=
  { redis := (s.redis.exec c).2
    unreleased := s.unreleased ++ c.added.toList
    calls := s.calls.set i (thread.resume s.redis) }

theorem step_advance (step : s.step (.advance i) = some s') :
    ∃ thread c, s.calls[i]? = some thread ∧ thread.next = some c ∧ s' = s.advanced i thread c := by
  obtain ⟨thread, at_i, rest⟩ := Option.bind_eq_some_iff.mp step
  obtain ⟨c, next, rfl⟩ := Option.map_eq_some_iff.mp rest
  exact ⟨thread, c, at_i, next, rfl⟩

theorem homed_empty : Admission.empty.Homed := by
  constructor
  · intro owner payload member
    cases member
  · intro thread member
    cases member

theorem homed_advanced (homed : s.Homed) (at_i : s.calls[i]? = some thread)
    (next : thread.next = some c) : (s.advanced i thread c).Homed := by
  have present : thread ∈ s.calls := List.mem_of_getElem? at_i
  constructor
  · intro owner payload member
    rcases Thread.parked s.redis next member with before | ⟨key, own⟩
    · exact homed.lists owner payload before
    · rw [own, stagingKey_inj.mp key]
  · intro other member payload drained
    rcases List.mem_or_eq_of_mem_set member with old | rfl
    · exact homed.drains other old payload drained
    · rw [Thread.resume_tenantId]
      rcases Thread.drained_resume s.redis drained with before | head
      · exact homed.drains thread present payload before
      · exact homed.lists thread.tenantId payload head

theorem homed_step {e : AdmissionEvent} (homed : s.Homed) (step : s.step e = some s') : s'.Homed := by
  cases e with
  | submit payload =>
    obtain rfl := Option.some.inj step
    refine ⟨homed.lists, fun thread member => ?_⟩
    rcases List.mem_append.mp member with old | new
    · exact homed.drains thread old
    · obtain rfl := List.mem_singleton.mp new
      intro payload impossible
      cases impossible
  | release payload =>
    simp only [Admission.step] at step
    split_ifs at step
    obtain rfl := Option.some.inj step
    refine ⟨homed.lists, fun thread member => ?_⟩
    rcases List.mem_append.mp member with old | new
    · exact homed.drains thread old
    · obtain rfl := List.mem_singleton.mp new
      intro payload impossible
      cases impossible
  | advance i =>
    obtain ⟨thread, c, at_i, next, rfl⟩ := step_advance step
    exact homed_advanced homed at_i next
  | tick =>
    obtain rfl := Option.some.inj step
    exact ⟨homed.lists, homed.drains⟩
  | expire owner =>
    obtain ⟨redis, expired, rfl⟩ := Option.map_eq_some_iff.mp step
    rw [Redis.expireKey_eq_some expired]
    exact ⟨homed.lists, homed.drains⟩

theorem ledger_callers (tenantId : TenantId) (at_i : s.calls[i]? = some thread) :
    (s.ledger tenantId).callers[i]? = some (thread.role tenantId) := by
  simp [ledger, at_i]

/-- How many of the payloads a call hands to BullMQ are the tenant's. -/
def addedTo (tenantId : TenantId) (c : CapCall) : Nat :=
  c.added.toList.countP fun payload => payload.tenantId = tenantId

theorem ledger_advanced : (s.advanced i thread c).ledger tenantId =
    { counter := (s.redis.exec c).2.count (inflightKey tenantId)
      waiting := (s.redis.exec c).2.lists (stagingKey tenantId)
      running := s.running tenantId + addedTo tenantId c
      callers := (s.ledger tenantId).callers.set i ((thread.resume s.redis).role tenantId) } := by
  simp only [ledger, advanced, running, addedTo, List.countP_append, List.map_set]

/-- A call that changes no part of the ledger but its caller's place. -/
theorem ledger_stutter (at_i : s.calls[i]? = some thread)
    (count : (s.redis.exec c).2.count (inflightKey tenantId) = s.redis.count (inflightKey tenantId))
    (list : (s.redis.exec c).2.lists (stagingKey tenantId) = s.redis.lists (stagingKey tenantId))
    (added : addedTo tenantId c = 0)
    (role : (thread.resume s.redis).role tenantId = thread.role tenantId) :
    (s.advanced i thread c).ledger tenantId = s.ledger tenantId := by
  have unmoved : (s.ledger tenantId).callers.set i (thread.role tenantId) = (s.ledger tenantId).callers := by
    obtain ⟨bound, same⟩ := List.getElem?_eq_some_iff.mp (ledger_callers tenantId at_i)
    rw [← same]
    exact List.set_getElem_self bound
  rw [ledger_advanced, count, list, added, role, unmoved]
  rfl

theorem advance_other (homed : s.Homed) (at_i : s.calls[i]? = some thread)
    (next : thread.next = some c) (other : thread.tenantId ≠ tenantId) :
    (s.advanced i thread c).ledger tenantId = s.ledger tenantId := by
  have resumed : (thread.resume s.redis).tenantId ≠ tenantId := by rwa [Thread.resume_tenantId]
  obtain ⟨count, list⟩ := Thread.frame next other s.redis
  refine ledger_stutter at_i count list ?_ ?_
  · simp only [addedTo, List.countP_eq_zero, Option.mem_toList, decide_eq_true_eq]
    intro payload added
    rcases Thread.added_eq next added with rfl | ⟨owner, rfl⟩
    · exact other
    · have own := homed.drains _ (List.mem_of_getElem? at_i) payload rfl
      rwa [own]
  · rw [Thread.role_of_ne resumed, Thread.role_of_ne other]

/-- The form in which a call of the tenant moves its ledger: one caller changes its place. -/
theorem ledger_advance {old new : Ledger.Role} {next : Ledger.State JobQueuePayload}
    (at_i : s.calls[i]? = some thread) (leaves : thread.role tenantId = old)
    (enters : (thread.resume s.redis).role tenantId = new)
    (counter : (s.redis.exec c).2.count (inflightKey tenantId) = next.counter)
    (waiting : (s.redis.exec c).2.lists (stagingKey tenantId) = next.waiting)
    (running : s.running tenantId + addedTo tenantId c = next.running) :
    (s.ledger tenantId).advance i old new next = some ((s.advanced i thread c).ledger tenantId) := by
  subst leaves enters
  rw [Ledger.State.advance_eq_some, ledger_advanced, counter, waiting, running]
  exact ⟨ledger_callers tenantId at_i, rfl⟩

theorem submit_moves {payload : JobQueuePayload} {point : SubmitPoint}
    (at_i : s.calls[i]? = some (.submit payload point)) (next : (Thread.submit payload point).next = some c) :
    Ledger.step MAX_CONCURRENT_PER_TENANT (s.ledger payload.tenantId) ((Thread.submit payload point).move s.redis i) =
      some ((s.advanced i (.submit payload point) c).ledger payload.tenantId) := by
  cases point with
  | incr =>
    obtain rfl := Option.some.inj next
    by_cases admitted : s.redis.count (inflightKey payload.tenantId) + 1 ≤ MAX_CONCURRENT_PER_TENANT
    · have test : (s.ledger payload.tenantId).counter + 1 ≤ MAX_CONCURRENT_PER_TENANT := admitted
      simp only [Thread.move, if_pos admitted, Ledger.step, if_pos test]
      refine ledger_advance at_i ?_ ?_ ?_ ?_ ?_
      · simp [Thread.role, Thread.tenantId]
      · simp only [Thread.resume, Thread.role, Thread.tenantId, if_true, admitted]
        split_ifs <;> rfl
      · simp [Redis.count_exec, ledger]
      · simp [Redis.lists_exec, ledger]
      · rfl
    · have test : ¬ (s.ledger payload.tenantId).counter + 1 ≤ MAX_CONCURRENT_PER_TENANT := admitted
      have past : ¬ s.redis.count (inflightKey payload.tenantId) + 1 = 1 := by
        simp only [MAX_CONCURRENT_PER_TENANT] at admitted
        omega
      simp only [Thread.move, if_neg admitted, Ledger.step, if_neg test]
      refine ledger_advance at_i ?_ ?_ ?_ ?_ ?_
      · simp [Thread.role, Thread.tenantId]
      · simp [Thread.resume, Thread.role, Thread.tenantId, admitted, past]
      · simp [Redis.count_exec, ledger]
      · simp [Redis.lists_exec, ledger]
      · rfl
  | add =>
    obtain ⟨queueName, _, rfl⟩ := Option.map_eq_some_iff.mp next
    refine ledger_advance at_i ?_ ?_ ?_ ?_ ?_ <;>
      simp [Thread.role, Thread.resume, Thread.tenantId, Redis.count_exec, Redis.lists_exec, ledger, addedTo,
        CapCall.added]
  | decr =>
    obtain rfl := Option.some.inj next
    refine ledger_advance at_i ?_ ?_ ?_ ?_ rfl <;>
      simp [Thread.role, Thread.resume, Thread.tenantId, Redis.count_exec, Redis.lists_exec, ledger]
  | rpush =>
    obtain rfl := Option.some.inj next
    refine ledger_advance at_i ?_ ?_ ?_ ?_ rfl <;>
      simp [Thread.role, Thread.resume, Thread.tenantId, Redis.count_exec, Redis.lists_exec, ledger]
  | returned status => cases next
  | _ =>
    obtain rfl := Option.some.inj next
    refine congrArg some (ledger_stutter at_i ?_ ?_ rfl ?_).symm <;>
      simp [Thread.role, Thread.resume, Thread.tenantId, Redis.count_exec, Redis.lists_exec]

theorem release_moves {owner : TenantId} {point : ReleasePoint} (homed : s.Homed)
    (at_i : s.calls[i]? = some (.release owner point)) (next : (Thread.release owner point).next = some c) :
    Ledger.step MAX_CONCURRENT_PER_TENANT (s.ledger owner) ((Thread.release owner point).move s.redis i) =
      some ((s.advanced i (.release owner point) c).ledger owner) := by
  cases point with
  | decr =>
    obtain rfl := Option.some.inj next
    by_cases negative : s.redis.count (inflightKey owner) - 1 < 0
    · have test : (s.ledger owner).counter - 1 < 0 := negative
      simp only [Thread.move, if_pos negative, Ledger.step, if_pos test]
      refine ledger_advance at_i ?_ ?_ ?_ ?_ rfl <;>
        simp [Thread.role, Thread.resume, Thread.tenantId, Redis.count_exec, Redis.lists_exec, ledger,
          negative]
    · have test : ¬ (s.ledger owner).counter - 1 < 0 := negative
      simp only [Thread.move, if_neg negative, Ledger.step, if_neg test]
      refine ledger_advance at_i ?_ ?_ ?_ ?_ rfl <;>
        simp [Thread.role, Thread.resume, Thread.tenantId, Redis.count_exec, Redis.lists_exec, ledger,
          negative]
  | reset =>
    obtain rfl := Option.some.inj next
    refine ledger_advance at_i ?_ ?_ ?_ ?_ rfl <;>
      simp [Thread.role, Thread.resume, Thread.tenantId, Redis.count_exec, Redis.lists_exec, ledger]
  | lpop =>
    obtain rfl := Option.some.inj next
    cases waiting : s.redis.lists (stagingKey owner) with
    | nil =>
      have test : (s.ledger owner).waiting = [] := waiting
      simp only [Thread.move, waiting, Ledger.step, if_pos test]
      refine ledger_advance at_i ?_ ?_ ?_ ?_ rfl <;>
        simp [Thread.role, Thread.resume, Thread.tenantId, Redis.count_exec, Redis.lists_exec, ledger, waiting]
    | cons payload rest =>
      have test : (s.ledger owner).waiting = payload :: rest := waiting
      simp only [Thread.move, waiting, Ledger.step, test]
      refine ledger_advance at_i ?_ ?_ ?_ ?_ rfl <;>
        simp [Thread.role, Thread.resume, Thread.tenantId, Redis.count_exec, Redis.lists_exec, ledger, waiting]
  | add payload =>
    obtain ⟨queueName, _, rfl⟩ := Option.map_eq_some_iff.mp next
    have own : payload.tenantId = owner := homed.drains _ (List.mem_of_getElem? at_i) payload rfl
    refine ledger_advance at_i ?_ ?_ ?_ ?_ ?_ <;>
      simp [Thread.role, Thread.resume, Thread.tenantId, Redis.count_exec, Redis.lists_exec, ledger, addedTo,
        CapCall.added, own]
  | incr payload =>
    obtain rfl := Option.some.inj next
    refine ledger_advance at_i ?_ ?_ ?_ ?_ rfl <;>
      simp [Thread.role, Thread.resume, Thread.tenantId, Redis.count_exec, Redis.lists_exec, ledger]
  | returned => cases next
  | _ =>
    obtain rfl := Option.some.inj next
    refine congrArg some (ledger_stutter at_i ?_ ?_ rfl ?_).symm <;>
      simp [Thread.role, Thread.resume, Thread.tenantId, Redis.count_exec, Redis.lists_exec]

theorem advance_own (homed : s.Homed) (at_i : s.calls[i]? = some thread) (next : thread.next = some c) :
    Ledger.step MAX_CONCURRENT_PER_TENANT (s.ledger thread.tenantId) (thread.move s.redis i) =
      some ((s.advanced i thread c).ledger thread.tenantId) := by
  cases thread with
  | submit payload point => exact submit_moves at_i next
  | release owner point => exact release_moves homed at_i next

theorem running_erase (tenantId : TenantId) {payload : JobQueuePayload} (present : payload ∈ s.unreleased) :
    s.running tenantId = (s.unreleased.erase payload).countP (fun payload => payload.tenantId = tenantId) +
      if payload.tenantId = tenantId then 1 else 0 := by
  rw [running, (List.perm_cons_erase present).countP_eq, List.countP_cons]
  simp only [decide_eq_true_eq]

/-- To each tenant, all the calls together are a run of its own ledger. -/
theorem simulates_ledger (tenantId : TenantId) :
    Machine.Simulates admission (Ledger.machine MAX_CONCURRENT_PER_TENANT) Homed (ledger tenantId)
      (move tenantId) := by
  intro s e s' homed step
  refine ⟨homed_step homed step, ?_⟩
  cases e with
  | submit payload =>
    obtain rfl := Option.some.inj step
    simp [move, Ledger.machine, Ledger.step, ledger, running, Thread.role]
  | release payload =>
    simp only [admission, Admission.step] at step
    split_ifs at step with present
    obtain rfl := Option.some.inj step
    have erased := running_erase tenantId present
    by_cases own : payload.tenantId = tenantId
    · simp only [if_pos own] at erased
      have positive : 0 < (s.ledger tenantId).running := by
        simp only [ledger]
        omega
      simp only [move, if_pos own, Ledger.machine, Ledger.step, if_pos positive]
      simp only [running] at erased
      simp [ledger, running, own, Thread.role, Thread.tenantId, erased]
    · simp only [if_neg own, Nat.add_zero] at erased
      simp only [move, if_neg own, Ledger.machine, Ledger.step]
      simp [ledger, running, ← erased, own, Thread.role, Thread.tenantId]
  | advance i =>
    obtain ⟨thread, c, at_i, next, rfl⟩ := step_advance step
    simp only [move, at_i, Ledger.machine]
    split_ifs with own
    · subst own
      exact advance_own homed at_i next
    · exact congrArg some (advance_other homed at_i next own).symm
  | tick =>
    obtain rfl := Option.some.inj step
    rfl
  | expire owner =>
    obtain ⟨redis, expired, rfl⟩ := Option.map_eq_some_iff.mp step
    rw [Redis.expireKey_eq_some expired]
    by_cases own : owner = tenantId
    · simp [move, own, Ledger.machine, Ledger.step, ledger, Redis.count, running]
    · have apart : tenantId ≠ owner := fun same => own same.symm
      simp [move, own, Ledger.machine, Ledger.step, ledger, Redis.count, running, apart]

end Admission
end OrchestrateModel
