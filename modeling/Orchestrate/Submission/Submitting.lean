import Orchestrate.Admission.Intake
import Orchestrate.Effect.Fault

namespace OrchestrateModel

open Effect Program QueueReconcileCollector TenantCapService

def BullState.isLive : BullState → Bool
  | .completed | .failed => false
  | .waiting | .prioritized | .delayed | .active => true

/-- The call neither adds a job nor touches a staging list. -/
def CapCall.Numeric : CapCall → Prop
  | .queueAdd _ _ _ | .rpush _ _ | .lpush _ _ | .lpop _ => False
  | _ => True

namespace Store

/-- A job of BullMQ that has not ended, or a payload in the tenant's staging list, carries the id of the row. -/
def Live (st : Store) (tenantId : TenantId) (jobId : JobId) : Prop :=
  (∃ job ∈ st.queued, job.run.data.jobId = jobId ∧ job.state.isLive = true) ∨
    ∃ payload ∈ st.redis.lists (stagingKey tenantId), payload.jobId = jobId

instance (st : Store) (tenantId : TenantId) (jobId : JobId) : Decidable (st.Live tenantId jobId) :=
  inferInstanceAs (Decidable ((∃ job ∈ st.queued, _) ∨ ∃ payload ∈ _, _))

structure SameEntries (st st' : Store) : Prop where
  queued : st'.queued = st.queued
  lists : st'.redis.lists = st.redis.lists

variable {st st' st'' : Store} {payload : JobQueuePayload} {tenantId : TenantId} {jobId : JobId}

theorem SameEntries.refl (st : Store) : SameEntries st st := ⟨rfl, rfl⟩

theorem SameEntries.trans (first : SameEntries st st') (second : SameEntries st' st'') : SameEntries st st'' :=
  ⟨second.queued.trans first.queued, second.lists.trans first.lists⟩

theorem SameEntries.live_iff (same : SameEntries st st') : st'.Live tenantId jobId ↔ st.Live tenantId jobId := by
  rw [Live, Live, same.queued, same.lists]

theorem sameEntries_serve {c : CapCall} (numeric : c.Numeric) (st : Store) : SameEntries st (serve st c).2 := by
  cases c with
  | queueAdd queueName payload options => exact numeric.elim
  | rpush key payload => exact numeric.elim
  | lpush key payload => exact numeric.elim
  | lpop key => exact numeric.elim
  | _ => exact ⟨rfl, rfl⟩

/-- A payload that BullMQ takes. -/
theorem live_queued {queueName : String} (now : Nat) (unheld : BullMQ.holds st.queued queueName (jobsOptions payload) = false) :
    Live { st with queued := BullMQ.add now st.queued queueName payload (jobsOptions payload) } tenantId jobId ↔
      st.Live tenantId jobId ∨ payload.jobId = jobId := by
  have starts : (if (jobsOptions payload).delay.any (0 < ·) then BullState.delayed
      else BullMQ.ready (jobsOptions payload)).isLive = true := by
    unfold BullMQ.ready
    split
    · rfl
    · split <;> rfl
  simp only [Live, BullMQ.add, unheld, Bool.false_eq_true, if_false, List.mem_append, List.mem_singleton, or_and_right,
    exists_or, exists_eq_left, starts, and_true]
  exact or_right_comm

def stage (st : Store) (payload : JobQueuePayload) : Store :=
  { st with
    redis := st.redis.setList (stagingKey payload.tenantId) (st.redis.lists (stagingKey payload.tenantId) ++ [payload]) }

theorem live_stage : (st.stage payload).Live tenantId jobId ↔
    st.Live tenantId jobId ∨ (payload.tenantId = tenantId ∧ payload.jobId = jobId) := by
  by_cases own : tenantId = payload.tenantId
  · subst own
    simp only [Live, stage, Redis.setList, Function.update_self, List.mem_append, List.mem_singleton, or_and_right,
      exists_or, exists_eq_left, true_and]
    exact or_assoc.symm
  · have apart : stagingKey tenantId ≠ stagingKey payload.tenantId := fun same => own (stagingKey_inj.mp same)
    have unequal : ¬ payload.tenantId = tenantId := fun same => own same.symm
    simp only [Live, stage, Redis.setList, Function.update_of_ne apart, unequal, false_and, or_false]

end Store

/-- A store of whose calls at most one fails, with what is left of the plan. -/
abbrev FaultyStore := Option (Nat × Fault Err) × Store

namespace FaultyStore

variable {payload : JobQueuePayload} {tenantId : TenantId} {jobId : JobId} {s : FaultyStore} {st st' : Store}
  {fault : Option (Nat × Fault Err)} {n : Nat}

/-- `submitJob` as one step. -/
def submitJob (s : FaultyStore) (payload : JobQueuePayload) : Except Err JobStatus × FaultyStore :=
  match (TenantCapService.submitJob payload).run (faulty Store.serve) s with
  | (.ok status, s') => (.ok status, s')
  | (.thrown error, s') => (.error error, s')
  | (.hung, s') => (.error { message := "" }, s')

/-- The call that so many others are made before takes effect. -/
def Effective (n : Nat) (fault : Option (Nat × Fault Err)) : Prop :=
  ∀ at_ ∈ fault, n ≤ at_.1 ∧ (at_.1 = n → at_.2.took = true)

instance (n : Nat) (fault : Option (Nat × Fault Err)) : Decidable (Effective n fault) :=
  inferInstanceAs (Decidable (∀ at_ ∈ fault, _))

/-- The calls that `submitJob` makes until it decides. -/
def callsToDecide (payload : JobQueuePayload) (st : Store) : Nat :=
  if st.redis.count (inflightKey payload.tenantId) + 1 = 1 then 3 else 2

/-- `submitJob` hands the payload over: with a free slot to its queue, which does not hold its id yet; else to the
    staging list, behind the DECR that gives the slot back. -/
def Takes (payload : JobQueuePayload) (s : FaultyStore) : Prop :=
  if s.2.redis.count (inflightKey payload.tenantId) + 1 ≤ MAX_CONCURRENT_PER_TENANT then
    ∃ queueName ∈ getQueueName payload.jobType,
      BullMQ.holds s.2.queued queueName (jobsOptions payload) = false ∧ Effective (callsToDecide payload s.2) s.1
  else Effective (callsToDecide payload s.2 + 1) s.1

instance (payload : JobQueuePayload) (s : FaultyStore) : Decidable (Takes payload s) :=
  inferInstanceAs (Decidable (ite _ _ _))

theorem effective_deferred : Effective (n + 1) (deferred fault) ↔ Effective n fault := by
  rcases fault with _ | ⟨k, kind⟩
  · simp [Effective, deferred]
  · simp [Effective, deferred]

theorem effective_zero (fault : Option (Nat × Fault Err)) : Effective 0 (deferred fault) := by
  rcases fault with _ | ⟨k, kind⟩ <;> simp [Effective, deferred]

theorem effective_hit (kind : Fault Err) : Effective 0 (some (0, kind)) ↔ kind.took = true := by simp [Effective]

theorem effective_none (n : Nat) : Effective n none := by simp [Effective]

/-- A fault is seen from so many calls later. -/
theorem effective_sub {m k : Nat} (later : m ≤ k) (kind : Fault Err) :
    Effective (m + n) (some (k, kind)) ↔ Effective n (some (k - m, kind)) := by
  have reached : m + n ≤ k ↔ n ≤ k - m := by omega
  have hit : k = m + n ↔ k - m = n := by omega
  simp only [Effective, Option.mem_some_iff, forall_eq', reached, hit]

theorem numeric_incrementSubmitted (queueName : String) : (incrementSubmitted queueName).Only CapCall.Numeric :=
  (only_await trivial).bind fun _ => only_done ()

theorem numeric_takeSlot (tenantId : TenantId) : (takeSlot tenantId).Only CapCall.Numeric := by
  unfold takeSlot
  refine (only_await trivial).bind fun current => ?_
  dsimp only
  split
  · exact (only_await trivial).bind fun _ => trivial
  · trivial

/-- What follows the RPUSH. -/
theorem numeric_staged (payload : JobQueuePayload) :
    ((incrementStaged payload.queueName).bind fun _ => (Client.llen (stagingKey payload.tenantId)).bind fun _ =>
      (.done JobStatus.STAGED : CapProgram JobStatus)).Only CapCall.Numeric := by
  have counts : (incrementStaged payload.queueName).Only CapCall.Numeric := (only_await trivial).bind fun _ => only_done ()
  exact counts.bind fun _ => (only_await trivial).bind fun _ => only_done _

theorem sameEntries_numeric {α : Type} {program : CapProgram α} (numeric : program.Only CapCall.Numeric)
    (fault : Option (Nat × Fault Err)) (st : Store) :
    Store.SameEntries st (program.run (faulty Store.serve) (fault, st)).2.2 :=
  numeric.run_faulty (fun _ _ counts same => same.trans (Store.sameEntries_serve counts _)) fault (.refl st)

theorem straight_taking (payload : JobQueuePayload) (st : Store) :
    (∃ st', (Intake.taking payload).run Store.serve st = (.ok (st.redis.count (inflightKey payload.tenantId) + 1), st')) ∧
      Straight Store.serve (callsToDecide payload st) (Intake.taking payload) st := by
  have counts : Straight Store.serve 1 (incrementSubmitted payload.queueName) st := ⟨fun _ => rfl, rfl, trivial⟩
  have counted := run_increment st (totalsKey payload.queueName) "submitted_total"
  refine ⟨⟨_, (run_bind_ok _ counted).trans (run_takeSlot _ payload.tenantId)⟩, ?_⟩
  unfold callsToDecide Intake.taking takeSlot
  by_cases first : st.redis.count (inflightKey payload.tenantId) + 1 = 1
  · rw [if_pos first]
    refine Straight.bind (m := 1) (n := 2) counts counted ⟨fun _ => rfl, rfl, ?_⟩
    show Straight Store.serve 1 (if st.redis.count (inflightKey payload.tenantId) + 1 = 1 then _ else _) _
    rw [if_pos first]
    exact ⟨fun _ => rfl, rfl, trivial⟩
  · rw [if_neg first]
    refine Straight.bind (m := 1) (n := 1) counts counted ⟨fun _ => rfl, rfl, ?_⟩
    show Straight Store.serve 0 (if st.redis.count (inflightKey payload.tenantId) + 1 = 1 then _ else _) _
    rw [if_neg first]
    trivial

theorem run_taking (payload : JobQueuePayload) (fault : Option (Nat × Fault Err)) (st : Store) :
    (∃ error fault' st', (Intake.taking payload).run (faulty Store.serve) (fault, st) = (.thrown error, fault', st') ∧
      Store.SameEntries st st' ∧ ∀ n, ¬ Effective (callsToDecide payload st + n) fault) ∨
    ∃ fault' st', (Intake.taking payload).run (faulty Store.serve) (fault, st) =
        (.ok (st.redis.count (inflightKey payload.tenantId) + 1), fault', st') ∧
      Store.SameEntries st st' ∧ ∀ n, Effective (callsToDecide payload st + n) fault ↔ Effective n fault' := by
  obtain ⟨⟨st', took⟩, straight⟩ := straight_taking payload st
  have same := sameEntries_numeric ((numeric_incrementSubmitted payload.queueName).bind fun _ =>
    numeric_takeSlot payload.tenantId) fault st
  rcases fault with _ | ⟨k, kind⟩
  · have ran := run_faulty_none Store.serve (Intake.taking payload) st
    rw [took] at ran
    rw [Intake.taking.eq_def] at ran
    rw [ran] at same
    exact .inr ⟨none, st', ran, same, fun n => iff_of_true (effective_none _) (effective_none _)⟩
  · rcases Nat.lt_or_ge k (callsToDecide payload st) with within | later
    · obtain ⟨st', threw⟩ := straight.run_within kind within
      rw [Intake.taking.eq_def] at threw
      rw [threw] at same
      refine .inl ⟨_, none, st', threw, same, fun n effective => ?_⟩
      have reached := (effective (k, kind) rfl).1
      dsimp only at reached
      omega
    · have ran := straight.run_before kind later
      rw [took] at ran
      rw [Intake.taking.eq_def] at ran
      rw [ran] at same
      exact .inr ⟨_, st', ran, same, fun n => effective_sub later kind⟩

/-- With a free slot the payload is handed to its queue. -/
theorem placeJob_free {current : Int} (free : current ≤ MAX_CONCURRENT_PER_TENANT) (fault : Option (Nat × Fault Err))
    (st : Store) : ((placeJob payload current).run (faulty Store.serve) (fault, st)).2.2 =
      if Effective 0 fault then
        { st with
          queued := (getQueueName payload.jobType).elim st.queued fun queueName =>
            BullMQ.add st.redis.now st.queued queueName payload (jobsOptions payload) }
      else st := by
  unfold placeJob enqueue
  rw [if_pos free]
  cases placed : getQueueName payload.jobType with
  | none =>
    dsimp only
    split <;> rfl
  | some queueName =>
    dsimp only [Option.elim_some]
    have threads (fault' : Option (Nat × Fault Err)) (outcome : Outcome Err Unit) (st' : Store)
        (ran : (Client.queueAdd queueName payload (jobsOptions payload)).run (faulty Store.serve) (fault, st) =
          (outcome, fault', st')) :
        ((Client.queueAdd queueName payload (jobsOptions payload) >>= fun _ =>
          (pure JobStatus.QUEUED : CapProgram JobStatus)).run (faulty Store.serve) (fault, st)).2.2 = st' := by
      rw [bind_eq, run_bind, ran]
      cases outcome <;> rfl
    rcases hit_or_deferred fault with ⟨kind, rfl⟩ | ⟨later, rfl⟩
    · rw [threads _ _ _ (run_await_hit Store.serve (.queueAdd queueName payload (jobsOptions payload)) kind st)]
      simp only [effective_hit]
      rfl
    · have taken : Store.serve st (.queueAdd queueName payload (jobsOptions payload)) =
        (.ok (), { st with queued := BullMQ.add st.redis.now st.queued queueName payload (jobsOptions payload) }) := rfl
      rw [threads _ _ _ (run_await_deferred taken later), if_pos (effective_zero later)]

/-- Without one it is staged. -/
theorem placeJob_full (payload : JobQueuePayload) {current : Int} (full : ¬ current ≤ MAX_CONCURRENT_PER_TENANT) (fault : Option (Nat × Fault Err))
    (st : Store) : Store.SameEntries (if Effective 1 fault then st.stage payload else st)
      ((placeJob payload current).run (faulty Store.serve) (fault, st)).2.2 := by
  have shape : placeJob payload current = (Client.decr (inflightKey payload.tenantId)).bind fun _ =>
      (Client.rpush (stagingKey payload.tenantId) payload).bind fun _ =>
        (incrementStaged payload.queueName).bind fun _ => (Client.llen (stagingKey payload.tenantId)).bind fun _ =>
          .done .STAGED := by
    unfold placeJob
    rw [if_neg full]
    rfl
  rw [shape]
  rcases hit_or_deferred fault with ⟨kind, rfl⟩ | ⟨later, rfl⟩
  · have unmet : ¬ Effective 1 (some (0, kind)) := by simp [Effective]
    have hit : (Client.decr (inflightKey payload.tenantId)).run (faulty Store.serve) (some (0, kind), st) =
        (.thrown kind.error, none, if kind.took then (Store.serve st (.decr (inflightKey payload.tenantId))).2 else st) :=
      run_await_hit Store.serve (.decr (inflightKey payload.tenantId)) kind st
    rw [if_neg unmet, run_bind_thrown _ hit]
    dsimp only
    split
    · exact Store.sameEntries_serve (c := .decr (inflightKey payload.tenantId)) trivial st
    · exact .refl st
  · let lowered : Store := { st with redis := st.redis.add (inflightKey payload.tenantId) (-1) }
    have lowers : (Client.decr (inflightKey payload.tenantId)).run (faulty Store.serve) (deferred later, st) =
        (.ok (st.redis.count (inflightKey payload.tenantId) - 1), later, lowered) := run_await_deferred rfl later
    rw [run_bind_ok _ lowers]
    simp only [effective_deferred]
    rcases hit_or_deferred later with ⟨kind, rfl⟩ | ⟨rest, rfl⟩
    · have hit : (Client.rpush (stagingKey payload.tenantId) payload).run (faulty Store.serve) (some (0, kind), lowered) =
          (.thrown kind.error, none, if kind.took then lowered.stage payload else lowered) :=
        run_await_hit Store.serve (.rpush (stagingKey payload.tenantId) payload) kind lowered
      rw [run_bind_thrown _ hit]
      simp only [effective_hit]
      split <;> exact ⟨rfl, rfl⟩
    · have pushes : (Client.rpush (stagingKey payload.tenantId) payload).run (faulty Store.serve) (deferred rest, lowered) =
          (.ok ((st.redis.lists (stagingKey payload.tenantId)).length + 1), rest, lowered.stage payload) :=
        run_await_deferred rfl rest
      rw [run_bind_ok _ pushes, if_pos (effective_zero rest)]
      have staged : Store.SameEntries (st.stage payload) (lowered.stage payload) := ⟨rfl, rfl⟩
      exact staged.trans (sameEntries_numeric (numeric_staged payload) rest (lowered.stage payload))

theorem submitJob_snd (s : FaultyStore) (payload : JobQueuePayload) :
    (submitJob s payload).2 = ((TenantCapService.submitJob payload).run (faulty Store.serve) s).2 := by
  unfold submitJob
  cases (TenantCapService.submitJob payload).run (faulty Store.serve) s with
  | mk outcome s' => cases outcome <;> rfl

/-- The entries after a submission, as far as they matter for a row. -/
theorem live_submitJob (s : FaultyStore) (payload : JobQueuePayload) (tenant : payload.jobId = jobId → payload.tenantId = tenantId) :
    (submitJob s payload).2.2.Live tenantId jobId ↔ s.2.Live tenantId jobId ∨ (payload.jobId = jobId ∧ Takes payload s) := by
  obtain ⟨fault, st⟩ := s
  rw [submitJob_snd, Intake.submitJob_taking]
  rcases run_taking payload fault st with ⟨error, fault', st', threw, same, unmet⟩ | ⟨fault', st', took, same, shifted⟩
  · rw [run_bind_thrown _ threw]
    have refused : ¬ Takes payload (fault, st) := by
      unfold Takes
      split
      · rintro ⟨queueName, _, _, effective⟩
        exact unmet 0 effective
      · exact unmet 1
    rw [same.live_iff]
    simp [refused]
  · rw [run_bind_ok _ took]
    have counts := shifted 0
    rw [Nat.add_zero] at counts
    by_cases free : st.redis.count (inflightKey payload.tenantId) + 1 ≤ MAX_CONCURRENT_PER_TENANT
    · rw [placeJob_free free]
      have takes : Takes payload (fault, st) ↔ ∃ queueName ∈ getQueueName payload.jobType,
          BullMQ.holds st'.queued queueName (jobsOptions payload) = false ∧ Effective 0 fault' := by
        rw [Takes, if_pos free, same.queued, counts]
      by_cases effective : Effective 0 fault'
      · rw [if_pos effective, takes]
        cases placed : getQueueName payload.jobType with
        | none =>
          rw [Option.elim_none, same.live_iff]
          simp
        | some queueName =>
          rw [Option.elim_some]
          cases held : BullMQ.holds st'.queued queueName (jobsOptions payload) with
          | true =>
            rw [BullMQ.add, if_pos held, same.live_iff]
            simp [held]
          | false =>
            rw [Store.live_queued _ held, same.live_iff]
            simp [held, effective]
      · rw [if_neg effective, takes, same.live_iff]
        simp [effective]
    · have staged := placeJob_full payload free fault' st'
      have takes : Takes payload (fault, st) ↔ Effective 1 fault' := by
        rw [Takes, if_neg free, shifted 1]
      rw [staged.live_iff, takes]
      by_cases effective : Effective 1 fault'
      · rw [if_pos effective, Store.live_stage, same.live_iff]
        simp only [effective, and_true]
        exact or_congr_right ⟨And.right, fun own => ⟨tenant own, own⟩⟩
      · rw [if_neg effective, same.live_iff]
        simp [effective]

end FaultyStore
end OrchestrateModel
