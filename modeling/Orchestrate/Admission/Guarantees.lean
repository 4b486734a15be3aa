import Orchestrate.Admission.Refinement

namespace OrchestrateModel

open Effect TenantCapService

namespace Admission

variable {s s' : Admission} {tenantId : TenantId} {visited : List (Admission × AdmissionEvent)}

/-- The tenant's inflight key does not expire. -/
def KeepsKey (tenantId : TenantId) (_ : Admission) (e : AdmissionEvent) : Prop := e ≠ .expire tenantId

/-- A submit is admitted, or a staged payload popped, only while the counter, corrected by the drains and
    the over-cap submits that are still under way, is below the cap. -/
def TakesFreeSlot (tenantId : TenantId) (s : Admission) (e : AdmissionEvent) : Prop :=
  Ledger.SlotLeft MAX_CONCURRENT_PER_TENANT (s.ledger tenantId) (s.move tenantId e)

/-- The reset of `release` overwrites no positive counter. -/
def ResetsNothing (tenantId : TenantId) (s : Admission) (e : AdmissionEvent) : Prop :=
  Ledger.ResetClean (s.ledger tenantId) (s.move tenantId e)

/-- A payload is staged, and a release skips its drain, only while some drain of the list is still to
    come. -/
def LeavesDrain (tenantId : TenantId) (s : Admission) (e : AdmissionEvent) : Prop :=
  Ledger.DrainLeft (s.ledger tenantId) (s.move tenantId e)

/-- A decrement finds fewer drained payloads enqueued but not counted than slots held. -/
def DecrementsSettled (tenantId : TenantId) (s : Admission) (e : AdmissionEvent) : Prop :=
  Ledger.Settled (s.ledger tenantId) (s.move tenantId e)

instance (tenantId : TenantId) (s : Admission) (e : AdmissionEvent) : Decidable (KeepsKey tenantId s e) :=
  inferInstanceAs (Decidable (e ≠ .expire tenantId))

instance (tenantId : TenantId) (s : Admission) (e : AdmissionEvent) :
    Decidable (TakesFreeSlot tenantId s e) :=
  inferInstanceAs (Decidable (Ledger.SlotLeft _ _ _))

instance (tenantId : TenantId) (s : Admission) (e : AdmissionEvent) :
    Decidable (ResetsNothing tenantId s e) :=
  inferInstanceAs (Decidable (Ledger.ResetClean _ _))

instance (tenantId : TenantId) (s : Admission) (e : AdmissionEvent) : Decidable (LeavesDrain tenantId s e) :=
  inferInstanceAs (Decidable (Ledger.DrainLeft _ _))

instance (tenantId : TenantId) (s : Admission) (e : AdmissionEvent) :
    Decidable (DecrementsSettled tenantId s e) :=
  inferInstanceAs (Decidable (Ledger.Settled _ _))

/-- The counter is not negative, and is the number of unreleased jobs when no call is in progress. -/
def Accurate (tenantId : TenantId) (s : Admission) : Prop :=
  0 ≤ s.redis.count (inflightKey tenantId) ∧
    (s.Quiescent tenantId → s.redis.count (inflightKey tenantId) = s.running tenantId)

theorem quiet_of_quiescent (quiescent : s.Quiescent tenantId) : (s.ledger tenantId).Quiet := by
  intro role member
  obtain ⟨thread, present, rfl⟩ := List.mem_map.mp member
  by_cases own : thread.tenantId = tenantId
  · have returned := quiescent thread present own
    cases thread with
    | submit payload point => cases point <;> simp [Thread.role, Thread.returned] at returned ⊢
    | release owner point => cases point <;> simp [Thread.role, Thread.returned] at returned ⊢
  · exact Thread.role_of_ne own

theorem thread_never_expires (thread : Thread) (redis : Redis) (i : Nat) : thread.move redis i ≠ .expire := by
  cases thread with
  | submit payload point =>
    cases point <;> simp only [Thread.move] <;> first | (split <;> simp) | simp
  | release owner point =>
    cases point <;> simp only [Thread.move] <;> first | (split <;> simp) | simp

theorem noExpiry_of_keepsKey {e : AdmissionEvent} (keeps : KeepsKey tenantId s e) :
    Ledger.NoExpiry (s.ledger tenantId) (s.move tenantId e) := by
  intro expires
  cases e with
  | submit payload => cases expires
  | release payload =>
    simp only [move] at expires
    split at expires <;> cases expires
  | advance i =>
    simp only [move] at expires
    split at expires
    · split at expires
      · exact thread_never_expires _ _ _ expires
      · cases expires
    · cases expires
  | tick => cases expires
  | expire owner =>
    simp only [move] at expires
    split at expires
    · rename_i own
      exact keeps (congrArg AdmissionEvent.expire own)
    · cases expires

theorem ledger_run (tenantId : TenantId) (run : admission.Run .empty visited s) :
    (Ledger.machine MAX_CONCURRENT_PER_TENANT).Run .empty
      (visited.map fun v => (v.1.ledger tenantId, v.1.move tenantId v.2)) (s.ledger tenantId) :=
  (simulates_ledger tenantId).run homed_empty run

theorem ledger_guarded {guard : Ledger.State JobQueuePayload → Ledger.Move JobQueuePayload → Prop}
    (guarded : Machine.Guarded (fun s e => guard (ledger tenantId s) (move tenantId s e)) visited) :
    Machine.Guarded guard (visited.map fun v => (v.1.ledger tenantId, v.1.move tenantId v.2)) :=
  guarded.map guard

/-- A payload whose job type `enqueue` can place. -/
def sample : JobQueuePayload :=
  { jobId := 0, jobType := "csv_parse", tenantId := "t", queueName := "etl-jobs" }

def submitted (i calls : Nat) : List AdmissionEvent :=
  .submit sample :: List.replicate calls (.advance i)

def released (i calls : Nat) : List AdmissionEvent :=
  .release sample :: List.replicate calls (.advance i)

/-- Five jobs are enqueued; the first call also sets the expiry time. -/
def fiveRun : List AdmissionEvent :=
  submitted 0 4 ++ submitted 1 3 ++ submitted 2 3 ++ submitted 3 3 ++ submitted 4 3

/-- Five jobs run and a payload is staged. The DECR of a release brings the counter to 4, a submit is
    admitted on 5, and the drain of that release then enqueues the staged payload as the sixth job. -/
def submitBeforeDrain : List AdmissionEvent :=
  fiveRun ++ submitted 5 6 ++ released 6 1 ++ submitted 7 3 ++ List.replicate 5 (.advance 6)

theorem cap_exceeded : ¬ ∀ tenantId visited s, admission.Run .empty visited s →
    Machine.Guarded (KeepsKey tenantId) visited →
    (s.running tenantId : Int) ≤ MAX_CONCURRENT_PER_TENANT := by
  intro claim
  have result : (admission.exec .empty submitBeforeDrain).map (·.running "t") = some 6 := by
    decide +kernel
  obtain ⟨s, done, running⟩ := Option.map_eq_some_iff.mp result
  have bound := claim "t" _ s (Machine.run_of_exec done) (by decide +kernel)
  rw [running] at bound
  exact absurd bound (by decide)

/-- The cap holds in every run that takes slots only while one is free. -/
theorem running_le_cap (run : admission.Run .empty visited s)
    (keeps : Machine.Guarded (KeepsKey tenantId) visited)
    (free : Machine.Guarded (TakesFreeSlot tenantId) visited)
    (clean : Machine.Guarded (ResetsNothing tenantId) visited) :
    (s.running tenantId : Int) ≤ MAX_CONCURRENT_PER_TENANT := by
  have alive : Machine.Guarded (fun s e => Ledger.NoExpiry (s.ledger tenantId) (s.move tenantId e)) visited :=
    fun v member => noExpiry_of_keepsKey (keeps v member)
  have committed := Ledger.committed_le_cap (by decide) (ledger_run tenantId run) (ledger_guarded alive)
    (ledger_guarded clean) (ledger_guarded free)
  have releasing := (s.ledger tenantId).number_nonneg .releasing
  have admitted := (s.ledger tenantId).number_nonneg .admitted
  have carrying := (s.ledger tenantId).number_nonneg .carrying
  simp only [Ledger.State.committed] at committed
  calc (s.running tenantId : Int) = (s.ledger tenantId).running := rfl
    _ ≤ MAX_CONCURRENT_PER_TENANT := by omega

/-- Five jobs run, a payload is staged, and a release drains it before any other call. -/
def drainAtOnce : List AdmissionEvent := fiveRun ++ submitted 5 6 ++ released 6 9

theorem running_le_cap_drainAtOnce : ∃ s, admission.exec .empty drainAtOnce = some s ∧
    (s.running "t" : Int) ≤ MAX_CONCURRENT_PER_TENANT := by
  have result : (admission.exec .empty drainAtOnce).isSome = true := by decide +kernel
  obtain ⟨s, done⟩ := Option.isSome_iff_exists.mp result
  exact ⟨s, done, running_le_cap (Machine.run_of_exec done) (by decide +kernel) (by decide +kernel)
    (by decide +kernel)⟩

/-- A submit is counted as the sixth, all five jobs are released while nothing is staged yet, and only
    then is the payload staged. -/
def stageAfterReleases : List AdmissionEvent :=
  fiveRun ++ submitted 5 2 ++ released 6 2 ++ released 7 2 ++ released 8 2 ++ released 9 2 ++
    released 10 2 ++ List.replicate 4 (.advance 5)

theorem staged_stranded : ¬ ∀ tenantId visited s, admission.Run .empty visited s →
    s.Quiescent tenantId → s.redis.lists (stagingKey tenantId) ≠ [] → 0 < s.running tenantId := by
  intro claim
  have result : (admission.exec .empty stageAfterReleases).map (fun s =>
      (s.calls.all Thread.returned, s.redis.lists (stagingKey "t"), s.running "t")) =
      some (true, [sample], 0) := by decide +kernel
  obtain ⟨s, done, parts⟩ := Option.map_eq_some_iff.mp result
  obtain ⟨returned, staged, running⟩ : s.calls.all Thread.returned = true ∧
      s.redis.lists (stagingKey "t") = [sample] ∧ s.running "t" = 0 := by simpa using parts
  have quiescent : s.Quiescent "t" := fun thread present _ => List.all_eq_true.mp returned thread present
  have bound := claim "t" _ s (Machine.run_of_exec done) quiescent (by simp [staged])
  omega

/-- No payload is stranded in a run that stages and gives up drains only while another is to come. -/
theorem staged_drainable (run : admission.Run .empty visited s)
    (leaves : Machine.Guarded (LeavesDrain tenantId) visited) (quiescent : s.Quiescent tenantId)
    (staged : s.redis.lists (stagingKey tenantId) ≠ []) : 0 < s.running tenantId := by
  have drainers := Ledger.waiting_drainable (ledger_run tenantId run) (ledger_guarded leaves) staged
  rw [Ledger.quiet_drainers (quiet_of_quiescent quiescent)] at drainers
  exact Int.natCast_pos.mp drainers

theorem staged_drainable_fiveRun : ∃ s, admission.exec .empty (fiveRun ++ submitted 5 6) = some s ∧
    0 < s.running "t" := by
  have result : (admission.exec .empty (fiveRun ++ submitted 5 6)).map (fun s =>
      (s.calls.all Thread.returned, s.redis.lists (stagingKey "t"))) = some (true, [sample]) := by
    decide +kernel
  obtain ⟨s, done, parts⟩ := Option.map_eq_some_iff.mp result
  obtain ⟨returned, staged⟩ : s.calls.all Thread.returned = true ∧
      s.redis.lists (stagingKey "t") = [sample] := by simpa using parts
  exact ⟨s, done, staged_drainable (Machine.run_of_exec done) (by decide +kernel)
    (fun thread present _ => List.all_eq_true.mp returned thread present) (by simp [staged])⟩

/-- A drain has enqueued the staged payload but not counted it yet; the other four jobs are released,
    and then the drained one is. -/
def releaseBeforeCount : List AdmissionEvent :=
  fiveRun ++ submitted 5 6 ++ released 6 6 ++ released 7 2 ++ released 8 2 ++ released 9 2 ++
    released 10 2 ++ released 11 1

theorem inflight_negative : ¬ ∀ tenantId visited s, admission.Run .empty visited s →
    Machine.Guarded (KeepsKey tenantId) visited → s.Accurate tenantId := by
  intro claim
  have result : (admission.exec .empty releaseBeforeCount).map (·.redis.count (inflightKey "t")) =
      some (-1) := by decide +kernel
  obtain ⟨s, done, count⟩ := Option.map_eq_some_iff.mp result
  have accurate := claim "t" _ s (Machine.run_of_exec done) (by decide +kernel)
  have nonneg := accurate.1
  rw [count] at nonneg
  exact absurd nonneg (by decide)

theorem accurate_of_exact (exact : (s.ledger tenantId).Exact) : s.Accurate tenantId :=
  ⟨exact.nonneg, fun quiescent => exact.accurate.2 (quiet_of_quiescent quiescent)⟩

/-- The counter is accurate all along a run exactly if every decrement in it is settled. -/
theorem inflight_accurate_iff (run : admission.Run .empty visited s)
    (keeps : Machine.Guarded (KeepsKey tenantId) visited) :
    ((∀ v ∈ visited, v.1.Accurate tenantId) ∧ s.Accurate tenantId) ↔
      Machine.Guarded (DecrementsSettled tenantId) visited := by
  have run' := ledger_run tenantId run
  have alive : Machine.Guarded Ledger.NoExpiry (visited.map fun v => (v.1.ledger tenantId, v.1.move tenantId v.2)) :=
    ledger_guarded fun v member => noExpiry_of_keepsKey (keeps v member)
  constructor
  · intro accurate
    have settled := (Ledger.nonneg_iff run' alive).mp ⟨List.forall_mem_map.mpr fun v member => (accurate.1 v member).1,
      accurate.2.1⟩
    exact fun v member => settled _ (List.mem_map_of_mem member)
  · intro settled
    obtain ⟨all, last⟩ := Ledger.exact_throughout run' alive (ledger_guarded settled)
    exact ⟨fun v member => accurate_of_exact (all _ (List.mem_map_of_mem member)), accurate_of_exact last⟩

theorem inflight_accurate_drainAtOnce : ∃ s, admission.exec .empty drainAtOnce = some s ∧
    s.Accurate "t" := by
  have result : (admission.exec .empty drainAtOnce).isSome = true := by decide +kernel
  obtain ⟨s, done⟩ := Option.isSome_iff_exists.mp result
  have keeps : Machine.Guarded (KeepsKey "t") (admission.trace .empty drainAtOnce) := by decide +kernel
  have both := (inflight_accurate_iff (Machine.run_of_exec done) keeps).mpr (by decide +kernel)
  exact ⟨s, done, both.2⟩

end Admission
end OrchestrateModel
