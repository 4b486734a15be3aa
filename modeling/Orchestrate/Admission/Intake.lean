import Orchestrate.Admission.Store

namespace OrchestrateModel

open Effect Program QueueReconcileCollector TenantCapService

/-- Redis, and the payloads that `queue.add` has taken, in order. -/
structure Intake where
  redis : Redis
  enqueued : List JobQueuePayload

namespace Intake

def empty : Intake := { redis := .empty, enqueued := [] }

/-- BullMQ takes a payload or always refuses it. -/
def serve (refuses : JobQueuePayload → Option Err) : Handler capSignature Err Intake
  | s, .queueAdd _ payload _ =>
    match refuses payload with
    | some error => (.error error, s)
    | none => (.ok (), { s with enqueued := s.enqueued ++ [payload] })
  | s, c => (.ok (s.redis.exec c).1, { s with redis := (s.redis.exec c).2 })

/-- `enqueue` accepts the payload: a queue lists its type, and BullMQ takes it. -/
def Accepts (refuses : JobQueuePayload → Option Err) (payload : JobQueuePayload) : Prop :=
  Routable payload.jobType ∧ refuses payload = none

instance (refuses : JobQueuePayload → Option Err) : DecidablePred (Accepts refuses) :=
  fun _ => inferInstanceAs (Decidable (_ ∧ _))

variable {refuses : JobQueuePayload → Option Err} {payload : JobQueuePayload} {tenantId : TenantId} {s : Intake}

theorem run_enqueue (accepts : Accepts refuses payload) (s : Intake) :
    (enqueue payload).run (serve refuses) s = (.ok (), { s with enqueued := s.enqueued ++ [payload] }) := by
  obtain ⟨⟨queueName, placed⟩, takes⟩ := accepts
  have answer : serve refuses s (.queueAdd queueName payload (jobsOptions payload)) =
      (.ok (), { s with enqueued := s.enqueued ++ [payload] }) := by simp [serve, takes]
  unfold enqueue
  rw [placed]
  exact run_await_ok (serve refuses) answer

theorem run_enqueue_rejected (rejects : ¬ Accepts refuses payload) (s : Intake) :
    ∃ error, (enqueue payload).run (serve refuses) s = (.thrown error, s) := by
  unfold enqueue
  cases placed : getQueueName payload.jobType with
  | none => exact ⟨_, rfl⟩
  | some queueName =>
    cases takes : refuses payload with
    | none => exact absurd ⟨⟨queueName, placed⟩, takes⟩ rejects
    | some error =>
      have answer : serve refuses s (.queueAdd queueName payload (jobsOptions payload)) = (.error error, s) := by
        simp [serve, takes]
      refine ⟨error, ?_⟩
      show run (serve refuses) (await (S := capSignature) (.queueAdd queueName payload (jobsOptions payload))) s = _
      rw [run_await, answer]

section Taking

/-- What `submitJob` does until it decides. -/
def taking (payload : JobQueuePayload) : CapProgram Int :=
  (incrementSubmitted payload.queueName).bind fun _ => takeSlot payload.tenantId

theorem submitJob_taking (payload : JobQueuePayload) : submitJob payload = (taking payload).bind (placeJob payload) := by
  rw [submitJob_eq, taking, bind_assoc]

end Taking

section Draining

/-- The bookkeeping of a popped payload. -/
def pending (queueName : String) : CapProgram Unit :=
  (decrementStaged queueName).bind fun _ => incrementReleasePending queueName

/-- The attempt of `drainOne` to place what it popped. -/
def place (tenantId : TenantId) (payload : JobQueuePayload) : CapProgram Unit :=
  (enqueue payload).bind fun _ => (Client.incr (inflightKey tenantId)).bind fun _ =>
    decrementReleasePending payload.queueName

/-- What `drainOne` does when that failed. -/
def restore (tenantId : TenantId) (payload : JobQueuePayload) : CapProgram Unit :=
  (Client.lpush (stagingKey tenantId) payload).bind fun _ =>
    (decrementReleasePending payload.queueName).bind fun _ => incrementStaged payload.queueName

theorem drainOne_eq (tenantId : TenantId) (queueName : String) : drainOne tenantId queueName =
    (Client.lpop (stagingKey tenantId)).bind fun raw =>
      raw.elim (.done ()) fun payload => (pending payload.queueName).bind fun _ =>
        (place tenantId payload).catching fun _ => restore tenantId payload := by
  unfold drainOne pending
  simp only [bind_eq]
  congr 1
  funext raw
  cases raw with
  | none => rfl
  | some payload =>
    rw [Option.elim_some, bind_assoc]
    rfl

end Draining

/-- What the tenant finds: its counter, its staging list, and what has been enqueued. -/
structure Holds (tenantId : TenantId) (slots : Int) (waiting enqueued : List JobQueuePayload) (s : Intake) : Prop where
  slots : s.redis.count (inflightKey tenantId) = slots
  waiting : s.redis.lists (stagingKey tenantId) = waiting
  enqueued : s.enqueued = enqueued

section Turns

variable {slots : Int} {waiting rest enqueued : List JobQueuePayload} (queueName : String)

theorem does_incr (holds : Holds tenantId slots waiting enqueued s) :
    Returns (serve refuses) (Client.incr (inflightKey tenantId)) s (slots + 1) (Holds tenantId (slots + 1) waiting enqueued) := by
  rw [← holds.slots]
  refine returns_await rfl ⟨?_, holds.waiting, holds.enqueued⟩
  simp [Redis.exec]

theorem does_decr (holds : Holds tenantId slots waiting enqueued s) :
    Returns (serve refuses) (Client.decr (inflightKey tenantId)) s (slots - 1) (Holds tenantId (slots - 1) waiting enqueued) := by
  rw [← holds.slots]
  refine returns_await rfl ⟨?_, holds.waiting, holds.enqueued⟩
  simp [Redis.exec, Int.sub_eq_add_neg]

theorem does_expire (holds : Holds tenantId slots waiting enqueued s) (seconds : Nat) :
    Returns (serve refuses) (Client.expire (inflightKey tenantId) seconds) s () (Holds tenantId slots waiting enqueued) := by
  refine returns_await rfl ⟨?_, holds.waiting, holds.enqueued⟩
  rw [← holds.slots]
  simp only [Redis.exec, Redis.count, Function.update_self, Option.map_map]
  rfl

theorem does_lpop (holds : Holds tenantId slots waiting enqueued s) :
    Returns (serve refuses) (Client.lpop (stagingKey tenantId)) s waiting.head? (Holds tenantId slots waiting.tail enqueued) := by
  rw [← holds.waiting]
  refine returns_await rfl ⟨holds.slots, ?_, holds.enqueued⟩
  simp [Redis.exec]

theorem does_lpush (holds : Holds tenantId slots waiting enqueued s) (payload : JobQueuePayload) :
    Returns (serve refuses) (Client.lpush (stagingKey tenantId) payload) s (waiting.length + 1)
      (Holds tenantId slots (payload :: waiting) enqueued) := by
  rw [← holds.waiting]
  refine returns_await rfl ⟨holds.slots, ?_, holds.enqueued⟩
  simp [Redis.exec]

theorem does_rpush (holds : Holds tenantId slots waiting enqueued s) (payload : JobQueuePayload) :
    Returns (serve refuses) (Client.rpush (stagingKey tenantId) payload) s (waiting.length + 1)
      (Holds tenantId slots (waiting ++ [payload]) enqueued) := by
  rw [← holds.waiting]
  refine returns_await rfl ⟨holds.slots, ?_, holds.enqueued⟩
  simp [Redis.exec]

theorem does_llen (holds : Holds tenantId slots waiting enqueued s) :
    Returns (serve refuses) (Client.llen (stagingKey tenantId)) s waiting.length (Holds tenantId slots waiting enqueued) := by
  have same := holds.waiting
  subst same
  exact returns_await rfl holds

theorem does_increment (holds : Holds tenantId slots waiting enqueued s) (key field : String) :
    Returns (serve refuses) (increment key field) s () (Holds tenantId slots waiting enqueued) :=
  ⟨_, rfl, holds.slots, holds.waiting, holds.enqueued⟩

theorem does_decrementFloorZero (holds : Holds tenantId slots waiting enqueued s) (key field : String) :
    Returns (serve refuses) (decrementFloorZero key field) s () (Holds tenantId slots waiting enqueued) :=
  ⟨_, rfl, holds.slots, holds.waiting, holds.enqueued⟩

theorem does_enqueue (holds : Holds tenantId slots waiting enqueued s) (accepts : Accepts refuses payload) :
    Returns (serve refuses) (enqueue payload) s () (Holds tenantId slots waiting (enqueued ++ [payload])) :=
  ⟨_, run_enqueue accepts s, holds.slots, holds.waiting, by rw [holds.enqueued]⟩

theorem does_takeSlot (holds : Holds tenantId slots waiting enqueued s) :
    Returns (serve refuses) (takeSlot tenantId) s (slots + 1) (Holds tenantId (slots + 1) waiting enqueued) := by
  refine (does_incr holds).bind fun s' holds' => ?_
  split
  · exact (does_expire holds' 300).bind fun _ => returns_done
  · exact returns_done holds'

theorem submitJob_free (holds : Holds payload.tenantId slots waiting enqueued s)
    (free : slots + 1 ≤ MAX_CONCURRENT_PER_TENANT) (accepts : Accepts refuses payload) :
    Returns (serve refuses) (submitJob payload) s .QUEUED
      (Holds payload.tenantId (slots + 1) waiting (enqueued ++ [payload])) := by
  rw [submitJob_eq]
  refine (does_increment holds _ _).bind fun _ holds => (does_takeSlot holds).bind fun _ holds => ?_
  rw [placeJob, if_pos free]
  exact (does_enqueue holds accepts).bind fun _ => returns_done

theorem submitJob_full (holds : Holds payload.tenantId slots waiting enqueued s)
    (full : ¬ slots + 1 ≤ MAX_CONCURRENT_PER_TENANT) :
    Returns (serve refuses) (submitJob payload) s .STAGED
      (Holds payload.tenantId slots (waiting ++ [payload]) enqueued) := by
  rw [submitJob_eq]
  refine (does_increment holds _ _).bind fun _ holds => (does_takeSlot holds).bind fun _ holds => ?_
  rw [placeJob, if_neg full]
  have undone : slots + 1 - 1 = slots := by omega
  refine (does_decr holds).bind fun _ holds => (does_rpush holds payload).bind fun _ holds => ?_
  refine (does_increment holds _ _).bind fun _ holds => (does_llen holds).bind fun _ holds => ?_
  rw [undone] at holds
  exact returns_done holds

theorem release_idle (held : 0 < slots) (holds : Holds tenantId slots [] enqueued s) :
    Returns (serve refuses) (release tenantId queueName) s () (Holds tenantId (slots - 1) [] enqueued) := by
  have nonneg : ¬ slots - 1 < 0 := by omega
  refine (does_decr holds).bind fun _ holds => ?_
  rw [if_neg nonneg]
  exact (does_lpop holds).bind fun _ => returns_done

/-- A release on a positive counter gets to the first waiting payload. -/
theorem release_pops {s'' : Intake → Prop} (held : 0 < slots) (holds : Holds tenantId slots (payload :: rest) enqueued s)
    (then_ : ∀ s, Holds tenantId (slots - 1) rest enqueued s →
      Returns (serve refuses) ((place tenantId payload).catching fun _ => restore tenantId payload) s () s'') :
    Returns (serve refuses) (release tenantId queueName) s () s'' := by
  have nonneg : ¬ slots - 1 < 0 := by omega
  refine (does_decr holds).bind fun _ holds => ?_
  rw [if_neg nonneg, drainOne_eq]
  refine (does_lpop holds).bind fun s holds => ?_
  have booked : Returns (serve refuses) (pending payload.queueName) s () (Holds tenantId (slots - 1) rest enqueued) :=
    (does_decrementFloorZero holds _ _).bind fun _ holds => does_increment holds _ _
  exact booked.bind then_

/-- A waiting payload that `enqueue` accepts takes over the slot. -/
theorem release_accepts (held : 0 < slots) (holds : Holds tenantId slots (payload :: rest) enqueued s)
    (accepts : Accepts refuses payload) :
    Returns (serve refuses) (release tenantId queueName) s () (Holds tenantId slots rest (enqueued ++ [payload])) := by
  have regained : slots - 1 + 1 = slots := by omega
  refine release_pops queueName held holds fun _ holds => Returns.catching ?_ _
  refine (does_enqueue holds accepts).bind fun _ holds => (does_incr holds).bind fun _ holds => ?_
  rw [regained] at holds
  exact does_decrementFloorZero holds _ _

/-- A waiting payload that `enqueue` rejects goes back to the front, and the slot is given up. -/
theorem release_rejects (held : 0 < slots) (holds : Holds tenantId slots (payload :: rest) enqueued s)
    (rejects : ¬ Accepts refuses payload) :
    Returns (serve refuses) (release tenantId queueName) s () (Holds tenantId (slots - 1) (payload :: rest) enqueued) := by
  refine release_pops queueName held holds fun s holds => ?_
  obtain ⟨error, threw⟩ := run_enqueue_rejected rejects s
  refine returns_caught (run_bind_thrown _ threw) ?_
  refine (does_lpush holds payload).bind fun _ holds => (does_decrementFloorZero holds _ _).bind fun _ holds => ?_
  exact does_increment holds _ _

end Turns
end Intake
end OrchestrateModel
