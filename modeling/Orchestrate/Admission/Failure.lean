import Orchestrate.Admission.Intake
import Orchestrate.Effect.Fault

namespace OrchestrateModel

open Effect Program QueueReconcileCollector TenantCapService

/-- The call writes no field of the hash. -/
def CapCall.Spares (key : String) : CapCall → Prop
  | .hincrby other _ _ | .hset other _ _ => key ≠ other
  | _ => True

/-- The call writes hashes only. -/
def CapCall.Counts : CapCall → Prop
  | .hincrby _ _ _ | .hset _ _ _ | .hget _ _ => True
  | _ => False

theorem Redis.read_exec {c : CapCall} {key : String} (spares : c.Spares key) (redis : Redis) (field : String) :
    (redis.exec c).2.read key field = redis.read key field := by
  cases c with
  | hincrby other field' increment =>
    have apart : ¬ (key = other ∧ field = field') := fun same => spares same.1
    simp [Redis.exec, Redis.read_setField, apart]
  | hset other field' value =>
    have apart : ¬ (key = other ∧ field = field') := fun same => spares same.1
    simp [Redis.exec, Redis.read_setField, apart]
  | _ => rfl

section Shapes

variable {key : String} (queueName : String)

theorem only_increment {allowed : CapCall → Prop} {field : String} (permitted : ∀ amount, allowed (.hincrby key field amount)) :
    (increment key field).Only allowed := by
  unfold increment
  exact (only_await (permitted 1)).bind fun _ => only_done ()

theorem only_decrementFloorZero {allowed : CapCall → Prop} {field : String} (reads : allowed (.hget key field))
    (writes : ∀ value, allowed (.hset key field value)) : (decrementFloorZero key field).Only allowed := by
  unfold decrementFloorZero
  exact (only_await reads).bind fun _ => only_await (writes _)

theorem enqueue_spares (payload : JobQueuePayload) : (enqueue payload).Only (CapCall.Spares key) := by
  unfold enqueue
  split
  · trivial
  · exact only_await trivial

/-- What `submitJob` does after it has counted the submission leaves that count alone. -/
theorem placing_spares (payload : JobQueuePayload) :
    ((takeSlot payload.tenantId).bind (placeJob payload)).Only (CapCall.Spares (totalsKey queueName)) := by
  apply Only.bind
  · unfold takeSlot
    refine (only_await trivial).bind fun current => ?_
    dsimp only
    split
    · exact (only_await trivial).bind fun _ => trivial
    · trivial
  · intro current
    unfold placeJob
    split
    · exact (enqueue_spares payload).bind fun _ => trivial
    · refine (only_await trivial).bind fun _ => (only_await trivial).bind fun _ => Only.bind ?_ fun _ => ?_
      · exact only_increment fun _ => (preQueueKey_ne_totalsKey _ _).symm
      · exact (only_await trivial).bind fun _ => trivial

end Shapes

namespace Intake

variable {refuses : JobQueuePayload → Option Err} {s s' : Intake} {payload : JobQueuePayload} {tenantId : TenantId}
  {fault : Option (Nat × Fault Err)} {n : Nat} {slots : Int} {rest enqueued : List JobQueuePayload}

theorem serve_answers {c : CapCall} (other : ∀ queueName payload options, c ≠ .queueAdd queueName payload options) :
    serve refuses s c = (.ok (s.redis.exec c).1, { s with redis := (s.redis.exec c).2 }) := by
  cases c with
  | queueAdd queueName payload options => exact absurd rfl (other queueName payload options)
  | _ => rfl

theorem read_serve {c : CapCall} {key : String} (spares : c.Spares key) (s : Intake) (field : String) :
    (serve refuses s c).2.redis.read key field = s.redis.read key field := by
  cases c with
  | queueAdd queueName payload options =>
    cases takes : refuses payload <;> simp [serve, takes]
  | _ =>
    rw [serve_answers (by simp)]
    exact Redis.read_exec spares s.redis field

section Submitting

/-- The tenant and the queue of a payload find what was there before, and nothing is enqueued. -/
structure Untouched (payload : JobQueuePayload) (s s' : Intake) : Prop where
  slots : s'.redis.count (inflightKey payload.tenantId) = s.redis.count (inflightKey payload.tenantId)
  staged : s'.redis.lists (stagingKey payload.tenantId) = s.redis.lists (stagingKey payload.tenantId)
  gauges : getQueueState s'.redis payload.queueName = getQueueState s.redis payload.queueName
  enqueued : s'.enqueued = s.enqueued

/-- If `submitJob` throws, it is as if it had not been called. -/
def Atomic (refuses : JobQueuePayload → Option Err) (payload : JobQueuePayload) (fault : Option (Nat × Fault Err))
    (s : Intake) : Prop :=
  ∀ error fault' s', (submitJob payload).run (faulty (serve refuses)) (fault, s) = (.thrown error, fault', s') →
    Untouched payload s s'

/-- A slot is free for the tenant. -/
def Free (tenantId : TenantId) (s : Intake) : Prop :=
  s.redis.count (inflightKey tenantId) + 1 ≤ MAX_CONCURRENT_PER_TENANT

instance (tenantId : TenantId) (s : Intake) : Decidable (Free tenantId s) := inferInstanceAs (Decidable (_ ≤ _))

/-- The calls that `submitJob` awaits until it decides. -/
def takingCalls (payload : JobQueuePayload) (s : Intake) : Nat :=
  if s.redis.count (inflightKey payload.tenantId) + 1 = 1 then 3 else 2

/-- The calls that `submitJob` awaits when none throws. -/
def submitCalls (payload : JobQueuePayload) (s : Intake) : Nat :=
  takingCalls payload s + if Free payload.tenantId s then 1 else 4

/-- A payload that gets a slot is accepted by `enqueue`. -/
def Placeable (refuses : JobQueuePayload → Option Err) (payload : JobQueuePayload) (s : Intake) : Prop :=
  Free payload.tenantId s → Accepts refuses payload

/-- The very first call is refused; or no call fails, and `enqueue` accepts a payload that gets a slot. -/
def Clears (refuses : JobQueuePayload → Option Err) (payload : JobQueuePayload) (fault : Option (Nat × Fault Err))
    (s : Intake) : Prop :=
  (∃ error, fault = some (0, .refused error)) ∨
    (∀ at_ ∈ fault, submitCalls payload s ≤ at_.1) ∧ Placeable refuses payload s

theorem straight_enqueue (accepts : Accepts refuses payload) (s : Intake) :
    Straight (serve refuses) 1 (enqueue payload) s := by
  obtain ⟨⟨queueName, placed⟩, takes⟩ := accepts
  unfold enqueue
  rw [placed]
  exact straight_await (by simp [serve, takes, Except.toBool])

theorem taking_straight (refuses : JobQueuePayload → Option Err) (payload : JobQueuePayload) (s : Intake) :
    (∃ s', (taking payload).run (serve refuses) s = (.ok (s.redis.count (inflightKey payload.tenantId) + 1), s')) ∧
      Straight (serve refuses) (takingCalls payload s) (taking payload) s := by
  have counts : Straight (serve refuses) 1 (incrementSubmitted payload.queueName) s := ⟨fun _ => rfl, rfl, trivial⟩
  have holds (s : Intake) : Holds payload.tenantId (s.redis.count (inflightKey payload.tenantId))
      (s.redis.lists (stagingKey payload.tenantId)) s.enqueued s := ⟨rfl, rfl, rfl⟩
  obtain ⟨s₁, counted, holds₁⟩ : Returns (serve refuses) _ _ _ _ :=
    does_increment (holds s) (totalsKey payload.queueName) "submitted_total"
  obtain ⟨s₂, taken, -⟩ : Returns (serve refuses) _ _ _ _ := does_takeSlot holds₁
  refine ⟨⟨s₂, by rw [taking, incrementSubmitted, run_bind_ok _ counted, taken]⟩, ?_⟩
  have slot : Straight (serve refuses) (if s.redis.count (inflightKey payload.tenantId) + 1 = 1 then 2 else 1)
      (takeSlot payload.tenantId) s₁ := by
    obtain ⟨s', incremented, -⟩ : Returns (serve refuses) _ _ _ _ := does_incr holds₁
    have incr : Straight (serve refuses) 1 (Client.incr (inflightKey payload.tenantId)) s₁ := ⟨fun _ => rfl, rfl, trivial⟩
    unfold takeSlot
    by_cases first : s.redis.count (inflightKey payload.tenantId) + 1 = 1
    · rw [if_pos first]
      refine Straight.bind (m := 1) (n := 1) incr incremented ?_
      dsimp only
      rw [if_pos first]
      exact ⟨fun _ => rfl, rfl, trivial⟩
    · rw [if_neg first]
      refine Straight.bind (m := 1) (n := 0) incr incremented ?_
      dsimp only
      rw [if_neg first]
      exact trivial
  unfold takingCalls taking
  by_cases first : s.redis.count (inflightKey payload.tenantId) + 1 = 1
  · rw [if_pos first] at slot ⊢
    refine Straight.bind (m := 1) (n := 2) counts counted ?_
    exact slot
  · rw [if_neg first] at slot ⊢
    refine Straight.bind (m := 1) (n := 1) counts counted ?_
    exact slot

theorem placeJob_straight (placeable : Placeable refuses payload s) (s' : Intake) :
    Straight (serve refuses) (if Free payload.tenantId s then 1 else 4)
      (placeJob payload (s.redis.count (inflightKey payload.tenantId) + 1)) s' := by
  unfold placeJob
  by_cases free : Free payload.tenantId s
  · have accepts := placeable free
    rw [if_pos free]
    unfold Free at free
    rw [if_pos free]
    exact Straight.bind (m := 1) (n := 0) (straight_enqueue accepts s') (run_enqueue accepts s') trivial
  · rw [if_neg free]
    unfold Free at free
    rw [if_neg free]
    exact ⟨fun _ => rfl, rfl, fun _ => rfl, rfl, fun _ => rfl, rfl, fun _ => rfl, rfl, trivial⟩

theorem submitJob_straight (placeable : Placeable refuses payload s) :
    Straight (serve refuses) (submitCalls payload s) (submitJob payload) s := by
  obtain ⟨⟨s', took⟩, straight⟩ := taking_straight refuses payload s
  rw [submitJob_taking]
  exact straight.bind took (placeJob_straight placeable s')

theorem run_enqueue_faulty (rejects : ¬ Accepts refuses payload) (fault : Option (Nat × Fault Err)) (s : Intake) :
    ∃ error fault', (enqueue payload).run (faulty (serve refuses)) (fault, s) = (.thrown error, fault', s) := by
  unfold enqueue
  cases placed : getQueueName payload.jobType with
  | none => exact ⟨_, fault, rfl⟩
  | some queueName =>
    cases takes : refuses payload with
    | none => exact absurd ⟨⟨queueName, placed⟩, takes⟩ rejects
    | some error =>
      have refused : serve refuses s (.queueAdd queueName payload (jobsOptions payload)) = (.error error, s) := by
        simp [serve, takes]
      show ∃ error fault', run (faulty (serve refuses))
        (await (S := capSignature) (.queueAdd queueName payload (jobsOptions payload))) (fault, s) = _
      rw [run_await]
      rcases fault with _ | ⟨_ | n, _ | _⟩ <;> simp [faulty, refused, Fault.took]

/-- A rejected payload that gets a slot: `submitJob` throws, whatever else fails. -/
theorem submitJob_throws (unplaceable : ¬ Placeable refuses payload s) (fault : Option (Nat × Fault Err)) :
    ∃ error fault' s', (submitJob payload).run (faulty (serve refuses)) (fault, s) = (.thrown error, fault', s') := by
  obtain ⟨free, rejects⟩ := Classical.not_imp.mp unplaceable
  obtain ⟨⟨s₁, took⟩, straight⟩ := taking_straight refuses payload s
  have places (fault : Option (Nat × Fault Err)) (s' : Intake) : ∃ error fault' s'',
      (placeJob payload (s.redis.count (inflightKey payload.tenantId) + 1)).run (faulty (serve refuses)) (fault, s') =
        (.thrown error, fault', s'') := by
    obtain ⟨error, fault', threw⟩ := run_enqueue_faulty rejects fault s'
    unfold Free at free
    exact ⟨error, fault', s', by rw [placeJob, if_pos free, bind_eq, run_bind_thrown _ threw]⟩
  rw [submitJob_taking]
  rcases fault with _ | ⟨n, fault⟩
  · have ran := run_faulty_none (serve refuses) (taking payload) s
    rw [took] at ran
    rw [run_bind_ok _ ran]
    exact places none s₁
  · rcases Nat.lt_or_ge n (takingCalls payload s) with within | later
    · obtain ⟨s', threw⟩ := straight.run_within fault within
      exact ⟨fault.error, none, s', run_bind_thrown _ threw⟩
    · have ran := straight.run_before fault later
      rw [took] at ran
      rw [run_bind_ok _ ran]
      exact places _ s₁

/-- A submission that gets past its first call stays counted. -/
theorem submitJob_counts (payload : JobQueuePayload) (past : ∀ at_ ∈ fault, at_.1 ≠ 0) (s : Intake) :
    ((submitJob payload).run (faulty (serve refuses)) (fault, s)).2.2.redis.read (totalsKey payload.queueName) "submitted_total" =
      s.redis.read (totalsKey payload.queueName) "submitted_total" + 1 := by
  let counts (s' : Intake) : Prop := s'.redis.read (totalsKey payload.queueName) "submitted_total" =
    s.redis.read (totalsKey payload.queueName) "submitted_total" + 1
  have stays (fault : Option (Nat × Fault Err)) (s' : Intake) (counted : counts s') :
      counts (((takeSlot payload.tenantId).bind (placeJob payload)).run (faulty (serve refuses)) (fault, s')).2.2 := by
    refine (placing_spares payload.queueName payload).run_faulty (fun s c spares counted => ?_) fault counted
    exact (read_serve spares s "submitted_total").trans counted
  let after : Intake :=
    { s with
      redis := s.redis.setField (totalsKey payload.queueName) "submitted_total"
        (s.redis.read (totalsKey payload.queueName) "submitted_total" + 1) }
  have counted : counts after := by simp [counts, after, Redis.read_setField]
  rw [submitJob_eq]
  rcases fault with _ | ⟨_ | n, fault⟩
  · exact stays none after counted
  · exact absurd rfl (past (0, fault) rfl)
  · exact stays (some (n, fault)) after counted

/-- `submitJob` leaves no trace of a call that throws exactly if it throws at its very first call, or not at all. -/
theorem submitJob_atomic_iff (refuses : JobQueuePayload → Option Err) (payload : JobQueuePayload)
    (fault : Option (Nat × Fault Err)) (s : Intake) : Atomic refuses payload fault s ↔ Clears refuses payload fault s := by
  have leaks {error : Err} {fault' : Option (Nat × Fault Err)} {s' : Intake} (atomic : Atomic refuses payload fault s)
      (threw : (submitJob payload).run (faulty (serve refuses)) (fault, s) = (.thrown error, fault', s')) :
      s'.redis.read (totalsKey payload.queueName) "submitted_total" =
        s.redis.read (totalsKey payload.queueName) "submitted_total" :=
    congrArg QueueState.submittedTotal (atomic error fault' s' threw).gauges
  constructor
  · intro atomic
    have first : (∀ error, fault ≠ some (0, .refused error)) → ∀ at_ ∈ fault, at_.1 ≠ 0 := by
      intro unrefused at_ here zero
      obtain ⟨n, kind⟩ := at_
      obtain rfl : n = 0 := zero
      obtain rfl := Option.mem_def.mp here
      cases kind with
      | refused error => exact unrefused error rfl
      | lost error =>
        have threw : (submitJob payload).run (faulty (serve refuses)) (some (0, .lost error), s) =
          (.thrown error, none, { s with
            redis := s.redis.setField (totalsKey payload.queueName) "submitted_total"
              (s.redis.read (totalsKey payload.queueName) "submitted_total" + 1) }) := rfl
        have counted := leaks atomic threw
        rw [Redis.read_setField, if_pos ⟨rfl, rfl⟩] at counted
        omega
    by_cases refused : ∃ error, fault = some (0, .refused error)
    · exact .inl refused
    · have past := first fun error here => refused ⟨error, here⟩
      have returns (threw : ∃ error fault' s',
          (submitJob payload).run (faulty (serve refuses)) (fault, s) = (.thrown error, fault', s')) : False := by
        obtain ⟨error, fault', s', threw⟩ := threw
        have counted : s'.redis.read (totalsKey payload.queueName) "submitted_total" =
            s.redis.read (totalsKey payload.queueName) "submitted_total" + 1 := by
          rw [← submitJob_counts payload past s, threw]
        have same := leaks atomic threw
        omega
      have placeable : Placeable refuses payload s := by
        by_contra unplaceable
        exact returns (submitJob_throws unplaceable fault)
      refine .inr ⟨fun at_ here => Nat.le_of_not_lt fun within => ?_, placeable⟩
      obtain ⟨n, kind⟩ := at_
      obtain rfl := Option.mem_def.mp here
      obtain ⟨s', threw⟩ := (submitJob_straight placeable).run_within kind within
      exact returns ⟨kind.error, none, s', threw⟩
  · rintro clears error fault' s' threw
    rcases clears with ⟨cause, rfl⟩ | ⟨later, placeable⟩
    · obtain ⟨-, -, rfl⟩ : cause = error ∧ none = fault' ∧ s = s' := by
        have ran : (submitJob payload).run (faulty (serve refuses)) (some (0, .refused cause), s) =
          (.thrown cause, none, s) := rfl
        rw [ran] at threw
        simpa using threw
      exact ⟨rfl, rfl, rfl, rfl⟩
    · have straight := submitJob_straight placeable
      obtain ⟨status, s₁, returned⟩ := straight.returns
      rcases fault with _ | ⟨n, kind⟩
      · rw [run_faulty_none, returned] at threw
        cases threw
      · rw [straight.run_before kind (later (n, kind) rfl), returned] at threw
        cases threw

/-- The queue's own name as a job type: it resolves, but `enqueue` knows no queue for it. -/
def ownName : JobQueuePayload :=
  { jobId := 0, jobType := "media-jobs", tenantId := "t", queueName := "media-jobs" }

/-- A refused payload keeps the slot that was taken for it. -/
theorem submitJob_leaks : resolveQueueName ownName.jobType = .ok ownName.queueName ∧
    ∃ error s', (submitJob ownName).run (faulty (serve fun _ => none)) (none, empty) = (.thrown error, none, s') ∧
      s'.redis.count (inflightKey "t") = 1 ∧ ¬ Atomic (fun _ => none) ownName none empty := by
  have slot : ((submitJob ownName).run (faulty (serve fun _ => none)) (none, empty)).2.2.redis.count (inflightKey "t") = 1 := by
    decide +kernel
  have threw : ∃ error s', (submitJob ownName).run (faulty (serve fun _ => none)) (none, empty) = (.thrown error, none, s') :=
    ⟨_, _, rfl⟩
  obtain ⟨error, s', threw⟩ := threw
  rw [threw] at slot
  refine ⟨rfl, error, s', threw, slot, fun atomic => ?_⟩
  have same := (atomic error none s' threw).slots
  have idle : empty.redis.count (inflightKey "t") = 0 := by decide +kernel
  have taken : s'.redis.count (inflightKey ownName.tenantId) = 1 := slot
  rw [taken] at same
  exact absurd same (by decide +kernel)

end Submitting

section Draining

/-- What a call leaves of the tenant's staging list, and what has been enqueued after it. -/
structure Leaves (tenantId : TenantId) (waiting enqueued : List JobQueuePayload) (s : Intake) : Prop where
  waiting : s.redis.lists (stagingKey tenantId) = waiting
  enqueued : s.enqueued = enqueued

/-- Each payload of the list is either still in it, in the old order, or enqueued, and not both. -/
def MovesOnce (refuses : JobQueuePayload → Option Err) (tenantId : TenantId) (queueName : String)
    (fault : Option (Nat × Fault Err)) (s : Intake) : Prop :=
  ∃ moved waiting, Leaves tenantId waiting (s.enqueued ++ moved)
      ((release tenantId queueName).run (faulty (serve refuses)) (fault, s)).2.2 ∧
    waiting.Sublist (s.redis.lists (stagingKey tenantId)) ∧ (moved ++ waiting).Perm (s.redis.lists (stagingKey tenantId))

/-- The calls before the one that pushes a rejected payload back. -/
def callsToRestore (payload : JobQueuePayload) : Nat := if Routable payload.jobType then 6 else 5

/-- The fault strikes before the payload at the front is popped, where it is enqueued, or after it is settled. -/
def Harmless (refuses : JobQueuePayload → Option Err) (payload : JobQueuePayload) : Nat × Fault Err → Prop
  | (0, _) => True
  | (1, kind) => kind.took = false
  | (n, kind) =>
    if Accepts refuses payload then n = 5 ∧ kind.took = false ∨ 9 ≤ n
    else 5 ≤ n ∧ (n = callsToRestore payload → kind.took = true)

variable {queueName : String} {waiting enqueued : List JobQueuePayload} {n : Nat} {kind : Fault Err}

theorem leaves_serve {c : CapCall} (quiet : c.Counts ∨ ∃ key, c = .incr key) {s : Intake}
    (leaves : Leaves tenantId waiting enqueued s) : Leaves tenantId waiting enqueued (serve refuses s c).2 := by
  rcases quiet with counts | ⟨key, rfl⟩
  · cases c with
    | hincrby key field increment => exact ⟨leaves.waiting, leaves.enqueued⟩
    | hset key field value => exact ⟨leaves.waiting, leaves.enqueued⟩
    | hget key field => exact ⟨leaves.waiting, leaves.enqueued⟩
    | _ => exact counts.elim
  · exact ⟨leaves.waiting, leaves.enqueued⟩

/-- A part of `drainOne` that only counts leaves the list alone wherever it fails. -/
theorem leaves_quiet {α : Type} {program : CapProgram α} {s : Intake}
    (only : program.Only fun c : CapCall => c.Counts ∨ ∃ key, c = .incr key) (fault : Option (Nat × Fault Err))
    (leaves : Leaves tenantId waiting enqueued s) :
    Leaves tenantId waiting enqueued (program.run (faulty (serve refuses)) (fault, s)).2.2 :=
  only.run_faulty (fun _ _ quiet leaves => leaves_serve quiet leaves) fault leaves

section Ends

variable (waits : s.redis.lists (stagingKey tenantId) = payload :: rest)
include waits

theorem moves_of_stays (ends : Leaves tenantId (payload :: rest) s.enqueued
    ((release tenantId queueName).run (faulty (serve refuses)) (fault, s)).2.2) :
    MovesOnce refuses tenantId queueName fault s := by
  rw [← waits] at ends
  exact ⟨[], _, by rwa [List.append_nil], List.Sublist.refl _, List.Perm.refl _⟩

theorem moves_of_moved (ends : Leaves tenantId rest (s.enqueued ++ [payload])
    ((release tenantId queueName).run (faulty (serve refuses)) (fault, s)).2.2) :
    MovesOnce refuses tenantId queueName fault s := by
  refine ⟨[payload], rest, ends, ?_, ?_⟩
  · rw [waits]
    exact List.sublist_cons_self payload rest
  · rw [waits]
    exact List.Perm.refl _

/-- As many payloads are accounted for as there were. -/
theorem length_of_moves {more : List JobQueuePayload} (moves : MovesOnce refuses tenantId queueName fault s)
    (ends : Leaves tenantId waiting (s.enqueued ++ more)
      ((release tenantId queueName).run (faulty (serve refuses)) (fault, s)).2.2) :
    more.length + waiting.length = rest.length + 1 := by
  obtain ⟨moved, waiting', leaves, -, perm⟩ := moves
  have same : s.enqueued ++ moved = s.enqueued ++ more := leaves.enqueued.symm.trans ends.enqueued
  have sameList : waiting' = waiting := leaves.waiting.symm.trans ends.waiting
  obtain rfl := List.append_cancel_left same
  have length := perm.length_eq
  rw [waits, sameList, List.length_append, List.length_cons] at length
  exact length

theorem not_moves_of_lost (ends : Leaves tenantId rest s.enqueued
    ((release tenantId queueName).run (faulty (serve refuses)) (fault, s)).2.2) :
    ¬ MovesOnce refuses tenantId queueName fault s := by
  intro moves
  rw [← List.append_nil s.enqueued] at ends
  have length := length_of_moves waits moves ends
  simp at length

theorem not_moves_of_doubled (ends : Leaves tenantId (payload :: rest) (s.enqueued ++ [payload])
    ((release tenantId queueName).run (faulty (serve refuses)) (fault, s)).2.2) :
    ¬ MovesOnce refuses tenantId queueName fault s := by
  intro moves
  have length := length_of_moves waits moves ends
  simp at length

end Ends

theorem decrementFloorZero_quiet (key field : String) :
    (decrementFloorZero key field).Only fun c : CapCall => c.Counts ∨ ∃ key, c = .incr key :=
  only_decrementFloorZero (.inl trivial) fun _ => .inl trivial

theorem increment_quiet (key field : String) :
    (increment key field).Only fun c : CapCall => c.Counts ∨ ∃ key, c = .incr key :=
  only_increment fun _ => .inl trivial

/-- A payload is back at the front as soon as its push has taken effect. -/
theorem restore_ends (leaves : Leaves tenantId rest enqueued s)
    (pushes : ∀ at_ ∈ fault, at_.1 = 0 → at_.2.took = true) : Leaves tenantId (payload :: rest) enqueued
      ((restore tenantId payload).run (faulty (serve refuses)) (fault, s)).2.2 := by
  let pushed : Intake := (serve refuses s (.lpush (stagingKey tenantId) payload)).2
  have back : Leaves tenantId (payload :: rest) enqueued pushed := by
    refine ⟨?_, leaves.enqueued⟩
    simp [pushed, serve, Redis.exec, leaves.waiting]
  have counts : ((decrementReleasePending payload.queueName).bind fun _ => incrementStaged payload.queueName).Only
      fun c : CapCall => c.Counts ∨ ∃ key, c = .incr key :=
    (decrementFloorZero_quiet _ _).bind fun _ => increment_quiet _ _
  rcases fault with _ | ⟨_ | n, kind⟩
  · exact leaves_quiet counts none back
  · have took : kind.took = true := pushes (0, kind) rfl rfl
    have hit : (Client.lpush (stagingKey tenantId) payload).run (faulty (serve refuses)) (some (0, kind), s) =
        (.thrown kind.error, none, if kind.took then pushed else s) := run_await_hit ..
    rw [took, if_pos rfl] at hit
    rw [restore, run_bind_thrown _ hit]
    exact back
  · exact leaves_quiet counts (some (n, kind)) back

/-- The rest of the attempt to place a payload that has been enqueued. -/
def placed (tenantId : TenantId) (payload : JobQueuePayload) : CapProgram Unit :=
  (Client.incr (inflightKey tenantId)).bind fun _ => decrementReleasePending payload.queueName

theorem placed_straight (refuses : JobQueuePayload → Option Err) (tenantId : TenantId) (payload : JobQueuePayload)
    (s : Intake) : Straight (serve refuses) 3 (placed tenantId payload) s :=
  ⟨fun _ => rfl, rfl, fun _ => rfl, rfl, fun _ => rfl, rfl, trivial⟩

theorem placed_quiet : (placed tenantId payload).Only fun c : CapCall => c.Counts ∨ ∃ key, c = .incr key :=
  (only_await (.inr ⟨_, rfl⟩)).bind fun _ => decrementFloorZero_quiet _ _

/-- What `drainOne` does with the payload it has popped. -/
def settle (tenantId : TenantId) (payload : JobQueuePayload) : CapProgram Unit :=
  (place tenantId payload).catching fun _ => restore tenantId payload

/-- An enqueued payload stays enqueued, and comes back to the list if a later call fails. -/
theorem settle_enqueued {fault' : Option (Nat × Fault Err)} {s' : Intake}
    (ran : (enqueue payload).run (faulty (serve refuses)) (fault, s) = (.ok (), fault', s'))
    (leaves : Leaves tenantId rest enqueued s') :
    Leaves tenantId (if ∀ at_ ∈ fault', 3 ≤ at_.1 then rest else payload :: rest) enqueued
      ((settle tenantId payload).run (faulty (serve refuses)) (fault, s)).2.2 := by
  have places : (place tenantId payload).run (faulty (serve refuses)) (fault, s) =
      (placed tenantId payload).run (faulty (serve refuses)) (fault', s') := run_bind_ok _ ran
  have quiet : Leaves tenantId rest enqueued ((placed tenantId payload).run (faulty (serve refuses)) (fault', s')).2.2 :=
    leaves_quiet placed_quiet fault' leaves
  have straight := placed_straight refuses tenantId payload s'
  obtain ⟨_, s'', returned⟩ := straight.returns
  rw [settle, run_catching, places]
  rcases fault' with _ | ⟨n, kind⟩
  · rw [run_faulty_none, returned] at quiet ⊢
    rw [if_pos (by simp)]
    exact quiet
  · rcases Nat.lt_or_ge n 3 with within | later
    · obtain ⟨s'', threw⟩ := straight.run_within kind within
      rw [threw] at quiet ⊢
      have early : ¬ ∀ at_ ∈ some (n, kind), 3 ≤ at_.1 := by
        intro all
        have := all (n, kind) rfl
        omega
      rw [if_neg early]
      exact restore_ends quiet (by simp)
    · have through := straight.run_before kind later
      rw [through, returned] at quiet ⊢
      rw [if_pos (by simpa using later)]
      exact quiet

/-- A payload that could not be enqueued comes back to the list if it can be pushed. -/
theorem settle_thrown {fault' : Option (Nat × Fault Err)} {s' : Intake} {error : Err}
    (threw : (enqueue payload).run (faulty (serve refuses)) (fault, s) = (.thrown error, fault', s'))
    (leaves : Leaves tenantId rest enqueued s') :
    Leaves tenantId (if ∀ at_ ∈ fault', at_.1 = 0 → at_.2.took = true then payload :: rest else rest) enqueued
      ((settle tenantId payload).run (faulty (serve refuses)) (fault, s)).2.2 := by
  have places : (place tenantId payload).run (faulty (serve refuses)) (fault, s) = (.thrown error, fault', s') :=
    run_bind_thrown _ threw
  rw [settle, run_catching, places]
  dsimp only
  split
  · rename_i pushes
    exact restore_ends leaves pushes
  · rename_i refused
    push Not at refused
    obtain ⟨⟨n, kind⟩, here, zero, took⟩ := refused
    obtain rfl : n = 0 := zero
    obtain rfl := Option.mem_def.mp here
    cases kind with
    | refused error => exact leaves
    | lost error => exact absurd rfl took

/-- A release whose first call fails leaves the list alone. -/
theorem release_hit (kind : Fault Err) (s : Intake) :
    Leaves tenantId (s.redis.lists (stagingKey tenantId)) s.enqueued
      ((release tenantId queueName).run (faulty (serve refuses)) (some (0, kind), s)).2.2 := by
  have hit : (Client.decr (inflightKey tenantId)).run (faulty (serve refuses)) (some (0, kind), s) =
      (.thrown kind.error, none, if kind.took then _ else s) := run_await_hit ..
  rw [release, bind_eq, run_bind_thrown _ hit]
  cases kind <;> exact ⟨rfl, rfl⟩

/-- The state after the DECR of a release. -/
def lowered (tenantId : TenantId) (s : Intake) : Intake := { s with redis := s.redis.add (inflightKey tenantId) (-1) }

/-- The state after the LPOP of a release. -/
def shortened (tenantId : TenantId) (s : Intake) : Intake :=
  { s with redis := s.redis.setList (stagingKey tenantId) (s.redis.lists (stagingKey tenantId)).tail }

theorem release_deferred (refuses : JobQueuePayload → Option Err) (tenantId : TenantId) (queueName : String) (fault : Option (Nat × Fault Err)) (s : Intake) :
    (release tenantId queueName).run (faulty (serve refuses)) (deferred fault, s) =
      if s.redis.count (inflightKey tenantId) - 1 < 0 then
        (Client.set (inflightKey tenantId) 0).run (faulty (serve refuses)) (fault, lowered tenantId s)
      else (drainOne tenantId queueName).run (faulty (serve refuses)) (fault, lowered tenantId s) := by
  have decremented : (Client.decr (inflightKey tenantId)).run (faulty (serve refuses)) (deferred fault, s) =
      (.ok (s.redis.count (inflightKey tenantId) - 1), fault, lowered tenantId s) := run_await_deferred rfl fault
  rw [release, bind_eq, run_bind_ok _ decremented]
  split <;> rfl

theorem drainOne_deferred (queueName : String) (fault : Option (Nat × Fault Err)) (s : Intake) :
    (drainOne tenantId queueName).run (faulty (serve refuses)) (deferred fault, s) =
      ((s.redis.lists (stagingKey tenantId)).head?.elim (.done ()) fun payload =>
        (pending payload.queueName).bind fun _ => settle tenantId payload).run (faulty (serve refuses))
          (fault, shortened tenantId s) := by
  have popped : (Client.lpop (stagingKey tenantId)).run (faulty (serve refuses)) (deferred fault, s) =
      (.ok (s.redis.lists (stagingKey tenantId)).head?, fault, shortened tenantId s) := run_await_deferred rfl fault
  rw [drainOne_eq, run_bind_ok _ popped]
  rfl

theorem drainOne_hit (queueName : String) (kind : Fault Err) (s : Intake) :
    (drainOne tenantId queueName).run (faulty (serve refuses)) (some (0, kind), s) =
      (.thrown kind.error, none, if kind.took then shortened tenantId s else s) := by
  have hit : (Client.lpop (stagingKey tenantId)).run (faulty (serve refuses)) (some (0, kind), s) =
      (.thrown kind.error, none, if kind.took then shortened tenantId s else s) := run_await_hit ..
  rw [drainOne_eq, run_bind_thrown _ hit]

theorem release_negative_ends (negative : s.redis.count (inflightKey tenantId) - 1 < 0) :
    Leaves tenantId (s.redis.lists (stagingKey tenantId)) s.enqueued
      ((release tenantId queueName).run (faulty (serve refuses)) (fault, s)).2.2 := by
  rcases hit_or_deferred fault with ⟨kind, rfl⟩ | ⟨later, rfl⟩
  · exact release_hit kind s
  · rw [release_deferred, if_pos negative]
    rcases later with _ | ⟨_ | n, _ | _⟩ <;> exact ⟨rfl, rfl⟩

theorem leaves_shortened (waits : s.redis.lists (stagingKey tenantId) = payload :: rest) :
    Leaves tenantId rest s.enqueued (shortened tenantId (lowered tenantId s)) := by
  refine ⟨?_, rfl⟩
  simp [shortened, lowered, waits]

theorem pending_straight (refuses : JobQueuePayload → Option Err) (queueName : String) (s : Intake) :
    Straight (serve refuses) 3 (pending queueName) s :=
  ⟨fun _ => rfl, rfl, fun _ => rfl, rfl, fun _ => rfl, rfl, trivial⟩

theorem pending_quiet (queueName : String) :
    (pending queueName).Only fun c : CapCall => c.Counts ∨ ∃ key, c = .incr key :=
  (decrementFloorZero_quiet _ _).bind fun _ => increment_quiet _ _

section Held

variable (held : ¬ s.redis.count (inflightKey tenantId) - 1 < 0)
include held

theorem release_empty_ends (empty : s.redis.lists (stagingKey tenantId) = []) :
    Leaves tenantId [] s.enqueued ((release tenantId queueName).run (faulty (serve refuses)) (fault, s)).2.2 := by
  have before : Leaves tenantId [] s.enqueued (lowered tenantId s) := ⟨empty, rfl⟩
  have after : Leaves tenantId [] s.enqueued (shortened tenantId (lowered tenantId s)) := by
    refine ⟨?_, rfl⟩
    simp [shortened, before.waiting]
  rcases hit_or_deferred fault with ⟨kind, rfl⟩ | ⟨later, rfl⟩
  · rw [← empty]
    exact release_hit kind s
  · rw [release_deferred, if_neg held]
    rcases hit_or_deferred later with ⟨kind, rfl⟩ | ⟨later, rfl⟩
    · rw [drainOne_hit]
      split
      · exact after
      · exact before
    · rw [drainOne_deferred, before.waiting]
      exact after

section Popping

variable (waits : s.redis.lists (stagingKey tenantId) = payload :: rest)
include waits

theorem release_unpopped (kind : Fault Err) :
    Leaves tenantId (if kind.took then rest else payload :: rest) s.enqueued
      ((release tenantId queueName).run (faulty (serve refuses)) (some (1, kind), s)).2.2 := by
  have first := release_deferred refuses tenantId queueName (some (0, kind)) s
  rw [if_neg held, drainOne_hit] at first
  rw [show some (1, kind) = deferred (some (0, kind)) from rfl, first]
  cases kind with
  | refused error => exact ⟨waits, rfl⟩
  | lost error => exact leaves_shortened waits

/-- From the third call on a release is at work on the payload it has popped. -/
theorem release_popped (refuses : JobQueuePayload → Option Err) (queueName : String) (fault : Option (Nat × Fault Err)) :
    (release tenantId queueName).run (faulty (serve refuses)) (deferred (deferred fault), s) =
      ((pending payload.queueName).bind fun _ => settle tenantId payload).run (faulty (serve refuses))
        (fault, shortened tenantId (lowered tenantId s)) := by
  have list : (lowered tenantId s).redis.lists (stagingKey tenantId) = payload :: rest := waits
  rw [release_deferred, if_neg held, drainOne_deferred, list]
  rfl

/-- A payload of the list is settled under what is left of the fault. -/
theorem release_settles (n : Nat) (kind : Fault Err) :
    ∃ s', Leaves tenantId rest s.enqueued s' ∧
      (release tenantId queueName).run (faulty (serve refuses)) (some (n + 5, kind), s) =
        (settle tenantId payload).run (faulty (serve refuses)) (some (n, kind), s') := by
  have straight := pending_straight refuses payload.queueName (shortened tenantId (lowered tenantId s))
  obtain ⟨_, s', returned⟩ := straight.returns
  have through := straight.run_before kind (Nat.le_add_left 3 n)
  have quiet : Leaves tenantId rest s.enqueued ((pending payload.queueName).run (faulty (serve refuses))
      (some (n + 3, kind), shortened tenantId (lowered tenantId s))).2.2 :=
    leaves_quiet (pending_quiet _) _ (leaves_shortened waits)
  rw [returned, Nat.add_sub_cancel] at through
  rw [through] at quiet
  refine ⟨s', quiet, ?_⟩
  have popped := release_popped held waits refuses queueName (some (n + 3, kind))
  rwa [run_bind_ok _ through] at popped

/-- A payload that is popped is lost if its bookkeeping fails. -/
theorem release_drops {n : Nat} (within : n < 3) (kind : Fault Err) :
    Leaves tenantId rest s.enqueued
      ((release tenantId queueName).run (faulty (serve refuses)) (some (n + 2, kind), s)).2.2 := by
  have straight := pending_straight refuses payload.queueName (shortened tenantId (lowered tenantId s))
  obtain ⟨s', threw⟩ := straight.run_within kind within
  have quiet : Leaves tenantId rest s.enqueued ((pending payload.queueName).run (faulty (serve refuses))
      (some (n, kind), shortened tenantId (lowered tenantId s))).2.2 :=
    leaves_quiet (pending_quiet _) _ (leaves_shortened waits)
  rw [threw] at quiet
  have popped := release_popped held waits refuses queueName (some (n, kind))
  rw [run_bind_thrown _ threw] at popped
  rw [show some (n + 2, kind) = deferred (deferred (some (n, kind))) from rfl, popped]
  exact quiet

end Popping
end Held

theorem run_enqueue_hit (accepts : Accepts refuses payload) (kind : Fault Err) (s : Intake) :
    (enqueue payload).run (faulty (serve refuses)) (some (0, kind), s) =
      (.thrown kind.error, none, if kind.took then { s with enqueued := s.enqueued ++ [payload] } else s) := by
  obtain ⟨⟨queueName, placed⟩, takes⟩ := accepts
  have added : (serve refuses s (.queueAdd queueName payload (jobsOptions payload))).2 =
      { s with enqueued := s.enqueued ++ [payload] } := by simp [serve, takes]
  unfold enqueue
  rw [placed, ← added]
  exact run_await_hit ..

theorem run_enqueue_deferred (accepts : Accepts refuses payload) (fault : Option (Nat × Fault Err)) (s : Intake) :
    (enqueue payload).run (faulty (serve refuses)) (deferred fault, s) =
      (.ok (), fault, { s with enqueued := s.enqueued ++ [payload] }) := by
  obtain ⟨⟨queueName, placed⟩, takes⟩ := accepts
  have added : serve refuses s (.queueAdd queueName payload (jobsOptions payload)) =
      (.ok (), { s with enqueued := s.enqueued ++ [payload] }) := by simp [serve, takes]
  unfold enqueue
  rw [placed]
  exact run_await_deferred added fault

/-- What is left of a fault where `enqueue` rejects a payload. -/
theorem run_enqueue_rejects (rejects : ¬ Accepts refuses payload) (n : Nat) (kind : Fault Err) (s : Intake) :
    ∃ error fault', (enqueue payload).run (faulty (serve refuses)) (some (n, kind), s) = (.thrown error, fault', s) ∧
      ((∀ at_ ∈ fault', at_.1 = 0 → at_.2.took = true) ↔ (n + 5 = callsToRestore payload → kind.took = true)) := by
  unfold enqueue callsToRestore
  cases placed : getQueueName payload.jobType with
  | none =>
    have unroutable : ¬ Routable payload.jobType := by
      intro routable
      obtain ⟨queueName, found⟩ := routable
      rw [placed] at found
      cases found
    refine ⟨_, some (n, kind), rfl, ?_⟩
    rw [if_neg unroutable]
    simp
  | some queueName =>
    have routable : Routable payload.jobType := ⟨queueName, placed⟩
    rw [if_pos routable]
    cases takes : refuses payload with
    | none => exact absurd ⟨routable, takes⟩ rejects
    | some error =>
      have refused : serve refuses s (.queueAdd queueName payload (jobsOptions payload)) = (.error error, s) := by
        simp [serve, takes]
      cases n with
      | zero =>
        refine ⟨kind.error, none, ?_, by simp⟩
        show run (faulty (serve refuses))
          (await (S := capSignature) (.queueAdd queueName payload (jobsOptions payload))) (some (0, kind), s) = _
        rw [run_await_hit, refused, ite_self]
      | succ n =>
        refine ⟨error, some (n, kind), ?_, by simp⟩
        show run (faulty (serve refuses))
          (await (S := capSignature) (.queueAdd queueName payload (jobsOptions payload))) (some (n + 1, kind), s) = _
        rw [run_await]
        simp [faulty, refused]

/-- The payload at the front, under a fault after its bookkeeping. -/
theorem settles_iff (positive : 0 < s.redis.count (inflightKey tenantId))
    (waits : s.redis.lists (stagingKey tenantId) = payload :: rest) (n : Nat) (kind : Fault Err) :
    MovesOnce refuses tenantId queueName (some (n + 5, kind)) s ↔ Harmless refuses payload (n + 5, kind) := by
  have held : ¬ s.redis.count (inflightKey tenantId) - 1 < 0 := by omega
  obtain ⟨s', leaves, ran⟩ : ∃ s', Leaves tenantId rest s.enqueued s' ∧
      (release tenantId queueName).run (faulty (serve refuses)) (some (n + 5, kind), s) = _ :=
    release_settles held waits n kind
  show _ ↔ if Accepts refuses payload then n + 5 = 5 ∧ kind.took = false ∨ 9 ≤ n + 5
    else 5 ≤ n + 5 ∧ (n + 5 = callsToRestore payload → kind.took = true)
  by_cases accepts : Accepts refuses payload
  · rw [if_pos accepts]
    have added : Leaves tenantId rest (s.enqueued ++ [payload]) { s' with enqueued := s'.enqueued ++ [payload] } :=
      ⟨leaves.waiting, by rw [leaves.enqueued]⟩
    cases n with
    | zero =>
      have hit := run_enqueue_hit accepts kind s'
      cases kind with
      | refused error =>
        have ends := settle_thrown hit leaves
        rw [← ran, if_pos (by simp)] at ends
        exact iff_of_true (moves_of_stays waits ends) (.inl ⟨rfl, rfl⟩)
      | lost error =>
        have ends := settle_thrown hit added
        rw [← ran, if_pos (by simp)] at ends
        exact iff_of_false (not_moves_of_doubled waits ends) (by simp [Fault.took])
    | succ n =>
      have ends := settle_enqueued (run_enqueue_deferred accepts (some (n, kind)) s') added
      rw [show deferred (some (n, kind)) = some (n + 1, kind) from rfl, ← ran] at ends
      by_cases later : 3 ≤ n
      · rw [if_pos (by simpa using later)] at ends
        exact iff_of_true (moves_of_moved waits ends) (.inr (by omega))
      · rw [if_neg (by simpa using later)] at ends
        exact iff_of_false (not_moves_of_doubled waits ends) (by omega)
  · rw [if_neg accepts]
    obtain ⟨error, fault', threw, pushes⟩ := run_enqueue_rejects accepts n kind s'
    have ends := settle_thrown threw leaves
    rw [← ran] at ends
    by_cases pushed : ∀ at_ ∈ fault', at_.1 = 0 → at_.2.took = true
    · rw [if_pos pushed] at ends
      exact iff_of_true (moves_of_stays waits ends) ⟨by omega, pushes.mp pushed⟩
    · rw [if_neg pushed] at ends
      exact iff_of_false (not_moves_of_lost waits ends) fun harmless => pushed (pushes.mpr harmless.2)

theorem movesOnce_iff_of_waits (positive : 0 < s.redis.count (inflightKey tenantId))
    (waits : s.redis.lists (stagingKey tenantId) = payload :: rest) (n : Nat) (kind : Fault Err) :
    MovesOnce refuses tenantId queueName (some (n, kind)) s ↔ Harmless refuses payload (n, kind) := by
  have held : ¬ s.redis.count (inflightKey tenantId) - 1 < 0 := by omega
  match n with
  | 0 =>
    refine iff_of_true ?_ trivial
    apply moves_of_stays waits
    rw [← waits]
    exact release_hit kind s
  | 1 =>
    have ends : Leaves tenantId (if kind.took then rest else payload :: rest) s.enqueued
      ((release tenantId queueName).run (faulty (serve refuses)) (some (1, kind), s)).2.2 :=
      release_unpopped held waits kind
    cases kind with
    | refused error => exact iff_of_true (moves_of_stays waits ends) rfl
    | lost error => exact iff_of_false (not_moves_of_lost waits ends) (by simp [Harmless, Fault.took])
  | n + 2 =>
    rcases Nat.lt_or_ge n 3 with within | later
    · have ends : Leaves tenantId rest s.enqueued
        ((release tenantId queueName).run (faulty (serve refuses)) (some (n + 2, kind), s)).2.2 :=
        release_drops held waits within kind
      refine iff_of_false (not_moves_of_lost waits ends) ?_
      show ¬ if Accepts refuses payload then n + 2 = 5 ∧ kind.took = false ∨ 9 ≤ n + 2
        else 5 ≤ n + 2 ∧ (n + 2 = callsToRestore payload → kind.took = true)
      split <;> omega
    · obtain ⟨n, rfl⟩ := Nat.exists_eq_add_of_le' later
      exact settles_iff positive waits n kind

/-- Without a fault the payload at the front is enqueued, or stays. -/
theorem moves_of_waits (positive : 0 < s.redis.count (inflightKey tenantId))
    (waits : s.redis.lists (stagingKey tenantId) = payload :: rest) : MovesOnce refuses tenantId queueName none s := by
  have holds : Holds tenantId (s.redis.count (inflightKey tenantId)) (payload :: rest) s.enqueued s := ⟨rfl, waits, rfl⟩
  by_cases accepts : Accepts refuses payload
  · obtain ⟨s', ran, ends⟩ : Returns (serve refuses) _ _ _ _ := release_accepts queueName positive holds accepts
    apply moves_of_moved waits
    rw [run_faulty_none, ran]
    exact ⟨ends.waiting, ends.enqueued⟩
  · obtain ⟨s', ran, ends⟩ : Returns (serve refuses) _ _ _ _ := release_rejects queueName positive holds accepts
    apply moves_of_stays waits
    rw [run_faulty_none, ran]
    exact ⟨ends.waiting, ends.enqueued⟩

/-- A release keeps each staged payload exactly once unless the fault strikes while one is on its way. -/
theorem release_movesOnce_iff (refuses : JobQueuePayload → Option Err) (tenantId : TenantId) (queueName : String)
    (fault : Option (Nat × Fault Err)) (s : Intake) : MovesOnce refuses tenantId queueName fault s ↔
      (0 < s.redis.count (inflightKey tenantId) →
        ∀ payload ∈ (s.redis.lists (stagingKey tenantId)).head?, ∀ at_ ∈ fault, Harmless refuses payload at_) := by
  by_cases positive : 0 < s.redis.count (inflightKey tenantId)
  · have held : ¬ s.redis.count (inflightKey tenantId) - 1 < 0 := by omega
    cases waits : s.redis.lists (stagingKey tenantId) with
    | nil =>
      have ends : Leaves tenantId [] s.enqueued ((release tenantId queueName).run (faulty (serve refuses)) (fault, s)).2.2 :=
        release_empty_ends held waits
      refine iff_of_true ⟨[], [], ?_, ?_, ?_⟩ (by simp)
      · rwa [List.append_nil]
      · rw [waits]
      · rw [waits]
        exact List.Perm.refl _
    | cons payload rest =>
      rcases fault with _ | ⟨n, kind⟩
      · exact iff_of_true (moves_of_waits positive waits) (by simp)
      · rw [movesOnce_iff_of_waits positive waits]
        simp [positive]
  · have negative : s.redis.count (inflightKey tenantId) - 1 < 0 := by omega
    have ends : Leaves tenantId (s.redis.lists (stagingKey tenantId)) s.enqueued
        ((release tenantId queueName).run (faulty (serve refuses)) (fault, s)).2.2 := release_negative_ends negative
    refine iff_of_true ⟨[], _, ?_, List.Sublist.refl _, List.Perm.refl _⟩ fun held => absurd held positive
    rwa [List.append_nil]

def importJob : JobQueuePayload := { jobId := 1, jobType := "csv_parse", tenantId := "t", queueName := "etl-jobs" }

/-- All five slots are taken, and one payload is staged. -/
def fullDesk : Intake :=
  { redis := (Redis.empty.add (inflightKey "t") 5).setList (stagingKey "t") [importJob], enqueued := [] }

/-- A refused HGET of the bookkeeping loses the payload, and a refused INCR leaves it both enqueued and staged. -/
theorem release_loses_doubles :
    ¬ MovesOnce (fun _ => none) "t" "etl-jobs" (some (2, .refused { message := "Connection is closed." })) fullDesk ∧
      ¬ MovesOnce (fun _ => none) "t" "etl-jobs" (some (6, .refused { message := "Connection is closed." })) fullDesk := by
  have waits : fullDesk.redis.lists (stagingKey "t") = importJob :: [] := by decide +kernel
  constructor
  · exact not_moves_of_lost waits ⟨by decide +kernel, by decide +kernel⟩
  · exact not_moves_of_doubled waits ⟨by decide +kernel, by decide +kernel⟩

end Draining
end Intake
end OrchestrateModel
