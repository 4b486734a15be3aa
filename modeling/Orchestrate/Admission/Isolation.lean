import Orchestrate.Admission.Conservation
import Orchestrate.Admission.Serial

namespace OrchestrateModel

open Effect TenantCapService

/-- What belongs to a tenant: its keys in Redis, its enqueued payloads in order, and the calls made for it. -/
structure Lane where
  now : Nat
  inflight : Option Counter
  staged : List JobQueuePayload
  enqueued : List JobQueuePayload
  calls : List Thread

/-- A thread without the value it read from a gauge that the tenants share. -/
def Thread.course : Thread → Thread
  | .release tenantId (.stagedSet payload _) => .release tenantId (.stagedSet payload 0)
  | .release tenantId (.pendingSet payload _) => .release tenantId (.pendingSet payload 0)
  | thread => thread

/-- The calls of a tenant, as far as they are its own. -/
def Thread.isOf (tenantId : TenantId) (thread : Thread) : Bool := thread.tenantId = tenantId

namespace Overlap

def lane (tenantId : TenantId) (s : Overlap) : Lane :=
  { now := s.redis.now
    inflight := s.redis.counters (inflightKey tenantId)
    staged := s.redis.lists (stagingKey tenantId)
    enqueued := ofTenant tenantId s.enqueued
    calls := (s.calls.filter (Thread.isOf tenantId)).map Thread.course }

/-- A step of the tenant as it is taken when the other tenants make no call: its calls are numbered among themselves. -/
def alone (tenantId : TenantId) (s : Overlap) : OverlapEvent → Option OverlapEvent
  | .submit payload => if payload.tenantId = tenantId then some (.submit payload) else none
  | .release owner => if owner = tenantId then some (.release owner) else none
  | .advance i =>
    match s.calls[i]? with
    | some thread =>
      if thread.tenantId = tenantId then some (.advance ((s.calls.take i).countP (Thread.isOf tenantId))) else none
    | none => none
  | .tick => some .tick
  | .expire owner => if owner = tenantId then some (.expire owner) else none

/-- The staged payloads and those that a drain has popped are where they belong. -/
structure Placed (s : Overlap) : Prop where
  lists : s.Homed
  drains : ∀ thread ∈ s.calls, ∀ payload ∈ thread.drained, payload.tenantId = thread.tenantId

/-- The second state has the tenant's part of the first one, and no other calls. -/
structure Mirrors (tenantId : TenantId) (s t : Overlap) : Prop where
  placed : s.Placed
  lane : s.lane tenantId = t.lane tenantId
  own : ∀ thread ∈ t.calls, thread.tenantId = tenantId

end Overlap

namespace Thread

variable {thread thread' : Thread} {c : CapCall} {tenantId : TenantId} {redis redis' : Redis}

@[simp] theorem isOf_iff : thread.isOf tenantId = true ↔ thread.tenantId = tenantId := by
  simp [isOf]

theorem isOf_false_iff : thread.isOf tenantId = false ↔ thread.tenantId ≠ tenantId := by
  simp [isOf]

/-- The inflight key of a tenant, the staging list of a tenant, and the clock. -/
def keys (tenantId : TenantId) (redis : Redis) : Nat × Option Counter × List JobQueuePayload :=
  (redis.now, redis.counters (inflightKey tenantId), redis.lists (stagingKey tenantId))

/-- A call leaves the keys of the other tenants as they are. -/
theorem keys_other (next : thread.next = some c) (other : thread.tenantId ≠ tenantId) (redis : Redis) :
    keys tenantId (redis.exec c).2 = keys tenantId redis := by
  have list := (Thread.frame next other redis).2
  have apart : inflightKey tenantId ≠ inflightKey thread.tenantId := fun same => other (inflightKey_inj.mp same).symm
  have rest : (redis.exec c).2.now = redis.now ∧
      (redis.exec c).2.counters (inflightKey tenantId) = redis.counters (inflightKey tenantId) := by
    cases thread with
    | submit payload point =>
      cases point <;> simp only [Thread.next, Option.some.injEq, Option.map_eq_some_iff] at next <;>
        first
          | (subst next; exact ⟨rfl, Function.update_of_ne apart _ _⟩)
          | (subst next; exact ⟨rfl, rfl⟩)
          | (obtain ⟨queueName, _, rfl⟩ := next; exact ⟨rfl, rfl⟩)
          | cases next
    | release owner point =>
      cases point <;> simp only [Thread.next, Option.some.injEq, Option.map_eq_some_iff] at next <;>
        first
          | (subst next; exact ⟨rfl, Function.update_of_ne apart _ _⟩)
          | (subst next; exact ⟨rfl, rfl⟩)
          | (obtain ⟨queueName, _, rfl⟩ := next; exact ⟨rfl, rfl⟩)
          | cases next
  rw [keys, keys, rest.1, rest.2, list]

/-- Two threads of one course make calls that add the same payload and that read and write the tenant's keys alike. -/
structure Alike (tenantId : TenantId) (redis redis' : Redis) (thread thread' : Thread) (c : CapCall) : Prop where
  calls : ∃ c', thread'.next = some c' ∧ c'.added = c.added ∧
    keys tenantId (redis.exec c).2 = keys tenantId (redis'.exec c').2
  course : (thread.resume redis).course = (thread'.resume redis').course

theorem keys_exec (same : keys tenantId redis = keys tenantId redis') (c : CapCall) :
    keys tenantId (redis.exec c).2 = keys tenantId (redis'.exec c).2 := by
  obtain ⟨now, counter, list⟩ := Prod.mk.inj same |>.imp_right Prod.mk.inj
  have count (amount : Int) (key : String) : (redis.add key amount).counters (inflightKey tenantId) =
      (redis'.add key amount).counters (inflightKey tenantId) := by
    by_cases here : inflightKey tenantId = key
    · subst here
      simp [Redis.add, Redis.count, counter]
    · simp [Redis.add, here, counter]
  have sets (key : String) (payloads payloads' : List JobQueuePayload)
      (here : stagingKey tenantId = key → payloads = payloads') :
      (redis.setList key payloads).lists (stagingKey tenantId) =
        (redis'.setList key payloads').lists (stagingKey tenantId) := by
    by_cases own : stagingKey tenantId = key
    · subst own
      simp [Redis.setList, here rfl]
    · simp [Redis.setList, own, list]
  cases c with
  | incr key => exact Prod.ext now (Prod.ext (count 1 key) list)
  | decr key => exact Prod.ext now (Prod.ext (count (-1) key) list)
  | expire key seconds =>
    refine Prod.ext now (Prod.ext ?_ list)
    by_cases here : inflightKey tenantId = key
    · subst here
      simp [keys, Redis.exec, counter, now]
    · simp [keys, Redis.exec, here, counter]
  | set key value =>
    refine Prod.ext now (Prod.ext ?_ list)
    by_cases here : inflightKey tenantId = key
    · subst here
      simp [keys, Redis.exec]
    · simp [keys, Redis.exec, here, counter]
  | rpush key payload =>
    exact Prod.ext now (Prod.ext counter (sets key _ _ fun own => by rw [← own, list]))
  | lpush key payload =>
    exact Prod.ext now (Prod.ext counter (sets key _ _ fun own => by rw [← own, list]))
  | lpop key => exact Prod.ext now (Prod.ext counter (sets key _ _ fun own => by rw [← own, list]))
  | _ => exact same

/-- What a tenant's call does depends on nothing but the thread's course and the tenant's keys. -/
theorem alike (next : thread.next = some c) (own : thread.tenantId = tenantId)
    (course : thread.course = thread'.course) (same : keys tenantId redis = keys tenantId redis') :
    Alike tenantId redis redis' thread thread' c := by
  obtain ⟨now, counter, list⟩ := Prod.mk.inj same |>.imp_right Prod.mk.inj
  have count : redis.count (inflightKey tenantId) = redis'.count (inflightKey tenantId) := by
    rw [Redis.count, Redis.count, counter]
  cases thread with
  | submit payload point =>
    obtain rfl : payload.tenantId = tenantId := own
    obtain rfl : thread' = .submit payload point := by
      cases thread' with
      | submit payload' point' => exact course.symm
      | release owner' point' => cases point' <;> cases course
    refine ⟨⟨c, next, rfl, keys_exec same c⟩, ?_⟩
    cases point <;> simp [Thread.resume, count]
  | release owner point =>
    obtain rfl : owner = tenantId := own
    cases thread' with
    | submit payload' point' => cases point <;> cases course
    | release owner' point' =>
      cases point with
      | stagedSet payload value =>
        cases point' <;> cases course
        obtain rfl := Option.some.inj next
        exact ⟨⟨_, rfl, rfl, same⟩, rfl⟩
      | pendingSet payload value =>
        cases point' <;> cases course
        obtain rfl := Option.some.inj next
        exact ⟨⟨_, rfl, rfl, same⟩, rfl⟩
      | lpop =>
        cases point' <;> cases course
        refine ⟨⟨c, next, rfl, keys_exec same c⟩, ?_⟩
        simp only [Thread.resume, list]
      | decr =>
        cases point' <;> cases course
        refine ⟨⟨c, next, rfl, keys_exec same c⟩, ?_⟩
        simp [Thread.resume, count]
      | _ =>
        cases point' <;> cases course
        exact ⟨⟨c, next, rfl, keys_exec same c⟩, rfl⟩

end Thread

namespace Overlap

variable {s s' t : Overlap} {e : OverlapEvent} {tenantId : TenantId} {i : Nat} {thread : Thread} {c : CapCall}

/-- The state after the next call of the thread at `i`. -/
def advanced (s : Overlap) (i : Nat) (thread : Thread) (c : CapCall) : Overlap :=
  { s with
    redis := (s.redis.exec c).2
    enqueued := s.enqueued ++ c.added.toList
    calls := s.calls.set i (thread.resume s.redis) }

theorem step_advance (step : s.step (.advance i) = some s') :
    ∃ thread c, s.calls[i]? = some thread ∧ thread.next = some c ∧ s' = s.advanced i thread c := by
  obtain ⟨thread, at_i, rest⟩ := Option.bind_eq_some_iff.mp step
  obtain ⟨c, next, rfl⟩ := Option.map_eq_some_iff.mp rest
  exact ⟨thread, c, at_i, next, rfl⟩

theorem advance_eq (at_i : s.calls[i]? = some thread) (next : thread.next = some c) :
    s.step (.advance i) = some (s.advanced i thread c) := by
  simp only [step, at_i, Option.bind_some, next, Option.map_some]
  rfl

theorem placed_empty : Overlap.empty.Placed where
  lists := by
    intro tenantId payload member
    cases member
  drains := by
    intro thread member
    cases member

theorem Placed.advanced (placed : s.Placed) (at_i : s.calls[i]? = some thread) (next : thread.next = some c) :
    (s.advanced i thread c).Placed where
  lists := by
    intro tenantId payload member
    rcases thread.parked s.redis next member with before | ⟨key, own⟩
    · exact placed.lists tenantId payload before
    · rw [own, stagingKey_inj.mp key]
  drains := by
    intro other member payload drained
    rcases List.mem_or_eq_of_mem_set member with before | rfl
    · exact placed.drains other before payload drained
    · rw [Thread.resume_tenantId]
      rcases Thread.drained_resume s.redis drained with carried | waits
      · exact placed.drains thread (List.mem_of_getElem? at_i) payload carried
      · exact placed.lists thread.tenantId payload waits

theorem placed_step (placed : s.Placed) (step : s.step e = some s') : s'.Placed := by
  cases e with
  | submit payload =>
    obtain rfl := Option.some.inj step
    refine ⟨placed.lists, fun thread member => ?_⟩
    rcases List.mem_append.mp member with before | last
    · exact placed.drains thread before
    · rw [List.mem_singleton.mp last]
      simp [Thread.drained]
  | release owner =>
    obtain rfl := Option.some.inj step
    refine ⟨placed.lists, fun thread member => ?_⟩
    rcases List.mem_append.mp member with before | last
    · exact placed.drains thread before
    · rw [List.mem_singleton.mp last]
      simp [Thread.drained]
  | advance i =>
    obtain ⟨thread, c, at_i, next, rfl⟩ := step_advance step
    exact placed.advanced at_i next
  | tick =>
    obtain rfl := Option.some.inj step
    exact ⟨placed.lists, placed.drains⟩
  | expire owner =>
    obtain ⟨redis, expired, rfl⟩ := Option.map_eq_some_iff.mp step
    rw [Redis.expireKey_eq_some expired]
    exact ⟨placed.lists, placed.drains⟩

/-- A call hands over payloads of its tenant only. -/
theorem Placed.added (placed : s.Placed) (at_i : s.calls[i]? = some thread) (next : thread.next = some c) :
    ∀ payload ∈ c.added.toList, payload.tenantId = thread.tenantId := by
  intro payload member
  rcases Thread.added_eq next (Option.mem_toList.mp member) with rfl | ⟨owner, rfl⟩
  · rfl
  · exact placed.drains _ (List.mem_of_getElem? at_i) payload rfl

theorem Placed.ofTenant_added (placed : s.Placed) (at_i : s.calls[i]? = some thread) (next : thread.next = some c)
    (own : thread.tenantId = tenantId) : ofTenant tenantId c.added.toList = c.added.toList := by
  rw [ofTenant, List.filter_eq_self]
  intro payload member
  simp [placed.added at_i next payload member, own]

/-- The parts of a lane that a step of the tenant itself changes together. -/
theorem lane_ext (redis : Thread.keys tenantId s.redis = Thread.keys tenantId t.redis)
    (enqueued : ofTenant tenantId s.enqueued = ofTenant tenantId t.enqueued)
    (calls : (s.calls.filter (Thread.isOf tenantId)).map Thread.course =
      (t.calls.filter (Thread.isOf tenantId)).map Thread.course) : s.lane tenantId = t.lane tenantId := by
  obtain ⟨now, counter, list⟩ := Prod.mk.inj redis |>.imp_right Prod.mk.inj
  simp only [lane, now, counter, list, enqueued, calls]

theorem Mirrors.keys (mirrors : s.Mirrors tenantId t) : Thread.keys tenantId s.redis = Thread.keys tenantId t.redis := by
  have same := mirrors.lane
  simp only [Overlap.lane, Lane.mk.injEq] at same
  obtain ⟨now, counter, list, _, _⟩ := same
  rw [Thread.keys, Thread.keys, now, counter, list]

theorem lane_other (placed : s.Placed) (at_i : s.calls[i]? = some thread) (next : thread.next = some c)
    (other : thread.tenantId ≠ tenantId) : (s.advanced i thread c).lane tenantId = s.lane tenantId := by
  apply lane_ext
  · exact Thread.keys_other next other s.redis
  · have foreign : ofTenant tenantId c.added.toList = [] :=
      Serial.ofTenant_foreign (fun same => other same.symm) (placed.added at_i next)
    simp [advanced, foreign]
  · have stays : (thread.resume s.redis).tenantId ≠ tenantId := by rwa [Thread.resume_tenantId]
    have same := filter_set_of_neg at_i (Thread.isOf_false_iff.mpr other) (Thread.isOf_false_iff.mpr stays)
    simp only [advanced, same]

/-- The next call of one of the tenant's threads is made by its mirror image too. -/
theorem Mirrors.advance (mirrors : s.Mirrors tenantId t) (at_i : s.calls[i]? = some thread)
    (next : thread.next = some c) (own : thread.tenantId = tenantId) :
    ∃ t', t.step (.advance ((s.calls.take i).countP (Thread.isOf tenantId))) = some t' ∧
      (s.advanced i thread c).Mirrors tenantId t' := by
  have placed := mirrors.placed.advanced at_i next
  have same := mirrors.lane
  have all : t.calls.filter (Thread.isOf tenantId) = t.calls := by
    rw [List.filter_eq_self]
    exact fun thread member => Thread.isOf_iff.mpr (mirrors.own thread member)
  simp only [Overlap.lane, Lane.mk.injEq, all] at same
  obtain ⟨_, _, _, enqueued, calls⟩ := same
  have stays : (thread.resume s.redis).tenantId = tenantId := by rwa [Thread.resume_tenantId]
  obtain ⟨sets, finds⟩ := filter_set_of_pos at_i (Thread.isOf_iff.mpr own) (Thread.isOf_iff.mpr stays)
  set j := (s.calls.take i).countP (Thread.isOf tenantId)
  have image : (t.calls.map Thread.course)[j]? = some thread.course := by
    rw [← calls, List.getElem?_map, finds]
    rfl
  rw [List.getElem?_map] at image
  obtain ⟨thread', at_j, course⟩ := Option.map_eq_some_iff.mp image
  obtain ⟨⟨c', next', added, keys⟩, resumed⟩ := Thread.alike next own course.symm mirrors.keys
  have owned := mirrors.own thread' (List.mem_of_getElem? at_j)
  refine ⟨t.advanced j thread' c', advance_eq at_j next', placed, lane_ext keys ?_ ?_, ?_⟩
  · have own := mirrors.placed.ofTenant_added at_i next own
    simp only [advanced, ofTenant_append, enqueued, added, own]
  · have stays' : (thread'.resume t.redis).tenantId = tenantId := by rwa [Thread.resume_tenantId]
    have all' : (t.calls.set j (thread'.resume t.redis)).filter (Thread.isOf tenantId) =
        t.calls.set j (thread'.resume t.redis) := by
      rw [List.filter_eq_self]
      intro other member
      rcases List.mem_or_eq_of_mem_set member with before | rfl
      · exact Thread.isOf_iff.mpr (mirrors.own other before)
      · exact Thread.isOf_iff.mpr stays'
    simp only [advanced, sets, all', List.map_set, calls, resumed]
  · intro other member
    rcases List.mem_or_eq_of_mem_set member with before | rfl
    · exact mirrors.own other before
    · rw [Thread.resume_tenantId]
      exact owned

theorem lane_calls {added : Thread} : ({ s with calls := s.calls ++ [added] } : Overlap).lane tenantId =
    { s.lane tenantId with
      calls := (s.lane tenantId).calls ++ if added.tenantId = tenantId then [added.course] else [] } := by
  by_cases own : added.tenantId = tenantId
  · simp [lane, Thread.isOf, own]
  · simp [lane, Thread.isOf, own]

/-- A new call of the tenant. -/
theorem Mirrors.enter (mirrors : s.Mirrors tenantId t) {added : Thread} (own : added.tenantId = tenantId)
    (idle : added.drained = none) :
    ({ s with calls := s.calls ++ [added] } : Overlap).Mirrors tenantId { t with calls := t.calls ++ [added] } := by
  refine ⟨⟨mirrors.placed.lists, fun thread member => ?_⟩, ?_, fun thread member => ?_⟩
  · rcases List.mem_append.mp member with before | last
    · exact mirrors.placed.drains thread before
    · rw [List.mem_singleton.mp last, idle]
      simp
  · rw [lane_calls, lane_calls, mirrors.lane]
  · rcases List.mem_append.mp member with before | last
    · exact mirrors.own thread before
    · rw [List.mem_singleton.mp last, own]

theorem expireKey_keys {redis redis' redis₁ : Redis} (same : Thread.keys tenantId redis = Thread.keys tenantId redis')
    (expired : redis.expireKey (inflightKey tenantId) = some redis₁) :
    ∃ redis₁', redis'.expireKey (inflightKey tenantId) = some redis₁' ∧
      Thread.keys tenantId redis₁ = Thread.keys tenantId redis₁' := by
  obtain ⟨now, counter, list⟩ := Prod.mk.inj same |>.imp_right Prod.mk.inj
  unfold Redis.expireKey at expired
  split at expired
  · rename_i value deadline found
    split at expired
    · rename_i due
      obtain rfl := Option.some.inj expired
      refine ⟨{ redis' with counters := Function.update redis'.counters (inflightKey tenantId) none }, ?_, ?_⟩
      · unfold Redis.expireKey
        rw [← counter, found, ← now]
        exact if_pos due
      · simp [Thread.keys, now, list]
    · cases expired
  · cases expired

/-- A step without the tenant leaves its lane as it is. -/
theorem Mirrors.erased (mirrors : s.Mirrors tenantId t) (step : s.step e = some s')
    (foreign : s.alone tenantId e = none) : s'.Mirrors tenantId t := by
  refine ⟨placed_step mirrors.placed step, ?_, mirrors.own⟩
  rw [← mirrors.lane]
  cases e with
  | submit payload =>
    obtain rfl := Option.some.inj step
    have other : payload.tenantId ≠ tenantId := by simpa [alone] using foreign
    exact lane_calls.trans (by simp [Thread.tenantId, other])
  | release owner =>
    obtain rfl := Option.some.inj step
    have other : owner ≠ tenantId := by simpa [alone] using foreign
    exact lane_calls.trans (by simp [Thread.tenantId, other])
  | advance i =>
    obtain ⟨thread, c, at_i, next, rfl⟩ := step_advance step
    have other : thread.tenantId ≠ tenantId := by simpa [alone, at_i] using foreign
    exact lane_other mirrors.placed at_i next other
  | tick => cases foreign
  | expire owner =>
    have other : owner ≠ tenantId := by simpa [alone] using foreign
    have apart : inflightKey tenantId ≠ inflightKey owner := fun same => other (inflightKey_inj.mp same).symm
    obtain ⟨redis, expired, rfl⟩ := Option.map_eq_some_iff.mp step
    rw [Redis.expireKey_eq_some expired]
    simp [Overlap.lane, apart]

/-- A step of the tenant is possible without the other tenants too, and leads to the same lane. -/
theorem Mirrors.kept {e' : OverlapEvent} (mirrors : s.Mirrors tenantId t) (step : s.step e = some s')
    (owned : s.alone tenantId e = some e') : ∃ t', t.step e' = some t' ∧ s'.Mirrors tenantId t' := by
  cases e with
  | submit payload =>
    obtain rfl := Option.some.inj step
    by_cases own : payload.tenantId = tenantId
    · obtain rfl : .submit payload = e' := Option.some.inj ((if_pos own).symm.trans owned)
      have entered := mirrors.enter (show (Thread.submit payload .countSubmitted).tenantId = tenantId from own) rfl
      exact ⟨_, rfl, ⟨entered.placed.lists, entered.placed.drains⟩, entered.lane, entered.own⟩
    · cases (if_neg own).symm.trans owned
  | release owner =>
    obtain rfl := Option.some.inj step
    by_cases own : owner = tenantId
    · obtain rfl : .release owner = e' := Option.some.inj ((if_pos own).symm.trans owned)
      have entered := mirrors.enter (show (Thread.release owner .decr).tenantId = tenantId from own) rfl
      exact ⟨_, rfl, entered.placed, entered.lane, entered.own⟩
    · cases (if_neg own).symm.trans owned
  | advance i =>
    obtain ⟨thread, c, at_i, next, rfl⟩ := step_advance step
    simp only [alone, at_i] at owned
    split at owned
    · rename_i own
      obtain rfl := Option.some.inj owned
      exact mirrors.advance at_i next own
    · cases owned
  | tick =>
    obtain rfl := Option.some.inj step
    obtain rfl : .tick = e' := Option.some.inj owned
    have same := mirrors.lane
    have now := congrArg Lane.now same
    simp only [Overlap.lane] at now
    refine ⟨_, rfl, ⟨mirrors.placed.lists, mirrors.placed.drains⟩, ?_, mirrors.own⟩
    have parts := mirrors.lane
    simp only [Overlap.lane, Lane.mk.injEq] at parts ⊢
    exact ⟨by rw [now], parts.2⟩
  | expire owner =>
    obtain ⟨redis, expired, rfl⟩ := Option.map_eq_some_iff.mp step
    by_cases own : owner = tenantId
    · subst own
      obtain rfl : .expire owner = e' := Option.some.inj ((if_pos rfl).symm.trans owned)
      obtain ⟨redis', expired', keys⟩ := expireKey_keys mirrors.keys expired
      have same := mirrors.lane
      simp only [Overlap.lane, Lane.mk.injEq] at same
      refine ⟨{ t with redis := redis' }, by simp [Overlap.step, expired'], placed_step mirrors.placed step, ?_, mirrors.own⟩
      exact lane_ext keys same.2.2.2.1 same.2.2.2.2
    · cases (if_neg own).symm.trans owned

/-- Without the steps of the other tenants, the tenant's steps make a run that takes each of them in the same state of
    the tenant's keys, calls and enqueued payloads, and that leaves the same. -/
theorem tenant_isolated {visited : List (Overlap × OverlapEvent)} (run : overlap.Run .empty visited s)
    (tenantId : TenantId) :
    ∃ visited' t, overlap.Run .empty visited' t ∧ s.lane tenantId = t.lane tenantId ∧
      (∀ thread ∈ t.calls, thread.tenantId = tenantId) ∧
      List.Forall₂ (fun v w => v.1.lane tenantId = w.1.lane tenantId ∧ v.1.alone tenantId v.2 = some w.2)
        (visited.filter fun v => (v.1.alone tenantId v.2).isSome) visited' := by
  have start : Overlap.empty.Mirrors tenantId .empty := ⟨placed_empty, rfl, by intro thread member; cases member⟩
  obtain ⟨visited', t, run', mirrors, pairs⟩ := run.erase (N := overlap) (R := Mirrors tenantId) (l := alone tenantId) start
    (fun s e s' t mirrors step foreign => mirrors.erased step foreign)
    (fun s e s' t e' mirrors step owned => mirrors.kept step owned)
  exact ⟨visited', t, run', mirrors.lane, mirrors.own, pairs.imp fun v w both => ⟨both.1.lane, both.2⟩⟩

/-- Two tenants submit a job each, call by call in turn, and one of them releases its slot. -/
def besideNeighbour : List OverlapEvent :=
  [.submit Admission.sample, .submit { Admission.sample with tenantId := "u" }] ++
    (List.replicate 4 [OverlapEvent.advance 0, .advance 1]).flatten ++ [.release "u", .advance 2, .advance 2]

theorem tenant_isolated_besideNeighbour : ∃ s visited' t, overlap.exec .empty besideNeighbour = some s ∧
    overlap.Run .empty visited' t ∧ s.lane "t" = t.lane "t" ∧ (t.lane "t").enqueued = [Admission.sample] := by
  have result : (overlap.exec .empty besideNeighbour).map (fun s => (s.lane "t").enqueued) =
      some [Admission.sample] := by decide +kernel
  obtain ⟨s, done, enqueued⟩ := Option.map_eq_some_iff.mp result
  obtain ⟨visited', t, run, same, _⟩ := tenant_isolated (Machine.run_of_exec done) "t"
  exact ⟨s, visited', t, done, run, same, by rw [← same, enqueued]⟩

end Overlap
end OrchestrateModel
