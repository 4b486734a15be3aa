import Mathlib.Data.List.Nodup
import Orchestrate.Effect.Trace
import Orchestrate.Model.JobsController

namespace OrchestrateModel

open Effect Program QueueReconcileCollector

namespace QueueStore

/-- The repeatable jobs of a queue are told apart by their keys, each is in the queue of its type, and the ids are the
    uuids of recurring rows. -/
structure Orderly (queues : QueueStore) : Prop where
  distinct : (queues.repeats.map fun entry => (entry.queueName, entry.job.key)).Nodup
  placed : ∀ entry ∈ queues.repeats, getQueueName entry.job.name = some entry.queueName
  patterned : ∀ entry ∈ queues.repeats, entry.job.pattern ≠ ""
  identified : ∀ entry ∈ queues.repeats, ∀ id ∈ entry.job.id, ∃ recurringJobId, id = uuidText recurringJobId

/-- Any jobs that any tenants create, and what else may happen to the queues: slots are released, repeatable jobs are
    stopped or run, and the tables and Redis are used for something else. -/
inductive Registered (bull : Repeater) : Db × QueueStore → Prop where
  | start (db : Db) (redis : Redis) : Registered bull (db, { redis := redis, repeats := [] })
  | create {s : Db × QueueStore} (registered : Registered bull s) (env : Env) (dto : CreateJobDto) (userId : UserId)
    (tenantId : TenantId) :
    Registered bull
      ((JobsService.createAndEnqueue dto userId tenantId).run (OrchestrateModel.serve env (submitJob bull)) s).2
  | release {s : Db × QueueStore} (registered : Registered bull s) (tenantId : TenantId) (queueName : String) :
    Registered bull (s.1, ((TenantCapService.release tenantId queueName).run (serve bull) s.2).2)
  | stop {s : Db × QueueStore} (registered : Registered bull s) (jobType cronPattern : String) (jobId : Option String)
    (tenantId : TenantId) :
    Registered bull (s.1, (QueueService.stopRecurringJob s.2 jobType cronPattern jobId tenantId).2)
  | fire {s : Db × QueueStore} (registered : Registered bull s) (next : Repeat → Nat) :
    Registered bull (s.1, { s.2 with
      repeats := s.2.repeats.map fun entry => { entry with job := { entry.job with next := next entry } } })
  | elapse {s : Db × QueueStore} (registered : Registered bull s) (db : Db) (redis : Redis) :
    Registered bull (db, { s.2 with redis := redis })

section Orderly

variable {bull : Repeater} {queues : QueueStore} {s : Db × QueueStore}

/-- A call that adds a job to a queue adds it to the queue of its type. -/
def Placing : CapCall → Prop
  | .queueAdd queueName payload options =>
    getQueueName payload.jobType = some queueName ∧ ∀ repeat_, options.repeat_ = some repeat_ → repeat_.pattern ≠ ""
  | _ => True

theorem Orderly.sublist (orderly : queues.Orderly) {repeats : List Repeat} (fewer : repeats.Sublist queues.repeats)
    (redis : Redis) : Orderly { redis := redis, repeats := repeats } :=
  ⟨orderly.distinct.sublist (fewer.map _), fun entry member => orderly.placed entry (fewer.mem member),
    fun entry member => orderly.patterned entry (fewer.mem member),
    fun entry member => orderly.identified entry (fewer.mem member)⟩

theorem Orderly.upsert (orderly : queues.Orderly) {added : Repeat} (placed : getQueueName added.job.name = some added.queueName)
    (patterned : added.job.pattern ≠ "") (identified : ∀ id ∈ added.job.id, ∃ recurringJobId, id = uuidText recurringJobId) :
    Orderly { queues with repeats := QueueStore.upsert queues.repeats added } := by
  have kept := orderly.sublist (List.filter_sublist (p := fun entry : Repeat =>
    ¬ (entry.queueName = added.queueName ∧ entry.job.key = added.job.key))) queues.redis
  refine ⟨?_, fun entry member => ?_, fun entry member => ?_, fun entry member => ?_⟩
  · show ((_ ++ [added]).map _).Nodup
    rw [List.map_append, List.map_singleton, List.nodup_append]
    refine ⟨kept.distinct, List.nodup_singleton _, fun a old b new equal => ?_⟩
    obtain ⟨entry, member, rfl⟩ := List.mem_map.mp old
    rw [List.mem_singleton.mp new] at equal
    obtain ⟨queueName, key⟩ := Prod.mk.inj equal
    have apart := (List.mem_filter.mp member).2
    simp [queueName, key] at apart
  · rcases List.mem_append.mp member with old | new
    · exact kept.placed entry old
    · rw [List.mem_singleton.mp new]
      exact placed
  · rcases List.mem_append.mp member with old | new
    · exact kept.patterned entry old
    · rw [List.mem_singleton.mp new]
      exact patterned
  · rcases List.mem_append.mp member with old | new
    · exact kept.identified entry old
    · rw [List.mem_singleton.mp new]
      exact identified

theorem Orderly.serve (orderly : queues.Orderly) {c : CapCall} (placing : Placing c) :
    (QueueStore.serve bull queues c).2.Orderly := by
  cases c with
  | queueAdd queueName payload options =>
    show (queues.add bull queueName payload options).2.Orderly
    unfold QueueStore.add
    split
    · exact orderly
    · rename_i repeat_ given
      split
      · exact orderly
      · refine orderly.upsert placing.1 (placing.2 repeat_ given) fun id drawn => ?_
        obtain ⟨recurringJobId, _, rfl⟩ := Option.map_eq_some_iff.mp drawn
        exact ⟨recurringJobId, rfl⟩
  | _ => exact ⟨orderly.distinct, orderly.placed, orderly.patterned, orderly.identified⟩

theorem placing_enqueue (payload : JobQueuePayload) : (enqueue payload).Only Placing := by
  unfold enqueue
  split
  · trivial
  · rename_i queueName placed
    apply only_await (S := capSignature)
    refine ⟨placed, fun repeat_ given => ?_⟩
    unfold jobsOptions at given
    dsimp only at given
    split at given
    · rename_i cron
      obtain ⟨pattern, found, rfl⟩ := Option.map_eq_some_iff.mp given
      rw [JobQueuePayload.isCron, found] at cron
      simpa [truthy] using cron
    · cases given

theorem placing_submitJob (payload : JobQueuePayload) : (TenantCapService.submitJob payload).Only Placing := by
  simp only [TenantCapService.submitJob, incrementSubmitted, incrementStaged, increment, bind_eq, pure_eq_done]
  repeat' first
    | exact placing_enqueue payload
    | exact only_await trivial
    | exact only_done _
    | refine Only.bind ?_ fun _ => ?_
    | split

theorem placing_drainOne (tenantId : TenantId) (queueName : String) :
    (TenantCapService.drainOne tenantId queueName).Only Placing := by
  unfold TenantCapService.drainOne
  refine Only.bind (only_await trivial) fun raw => ?_
  cases raw with
  | none => exact only_done _
  | some payload =>
    simp only [decrementStaged, decrementReleasePending, incrementReleasePending, incrementStaged, increment,
      decrementFloorZero, bind_eq, pure_eq_done]
    repeat' first
      | exact placing_enqueue payload
      | exact only_await trivial
      | exact only_done _
      | refine Only.bind ?_ fun _ => ?_
      | refine Only.catching ?_ fun _ => ?_

theorem placing_release (tenantId : TenantId) (queueName : String) :
    (TenantCapService.release tenantId queueName).Only Placing := by
  unfold TenantCapService.release
  refine Only.bind (only_await trivial) fun after => ?_
  split
  · exact only_await trivial
  · exact placing_drainOne tenantId queueName

theorem Orderly.run (orderly : queues.Orderly) {α : Type} {program : CapProgram α} (placing : program.Only Placing) :
    (program.run (QueueStore.serve bull) queues).2.Orderly := by
  have safe : Safe (QueueStore.serve bull) (fun _ _ => True) (fun _ c => Placing c) (fun _ s => s.Orderly)
      (fun _ s => s.Orderly) program queues :=
    placing.safe (fun _ _ placing orderly => orderly.serve placing) (fun _ _ placing _ => placing) orderly
  exact safe.run_preserves Orderly (fun _ _ => trivial) (fun _ _ placing orderly => orderly.serve placing) orderly

theorem Orderly.submitJob (orderly : queues.Orderly) (payload : JobQueuePayload) :
    (queues.submitJob bull payload).2.Orderly := by
  have kept : ((TenantCapService.submitJob payload).run (QueueStore.serve bull) queues).2.Orderly :=
    orderly.run (placing_submitJob payload)
  unfold QueueStore.submitJob
  cases ran : (TenantCapService.submitJob payload).run (QueueStore.serve bull) queues with
  | mk outcome queues' =>
    rw [ran] at kept
    cases outcome <;> exact kept

/-- A call of a service. -/
theorem Orderly.service (env : Env) (s : Db × QueueStore) (c : ServiceCall) (orderly : s.2.Orderly) :
    (OrchestrateModel.serve env (QueueStore.submitJob bull) s c).2.2.Orderly := by
  cases c with
  | submitJob payload => exact orderly.submitJob payload
  | db | randomUUID | now => exact orderly

theorem Orderly.stop (orderly : queues.Orderly) (jobType cronPattern : String) (jobId : Option String) (tenantId : TenantId) :
    (QueueService.stopRecurringJob queues jobType cronPattern jobId tenantId).2.Orderly := by
  unfold QueueService.stopRecurringJob
  split
  · exact orderly
  · split
    · exact orderly
    · exact orderly.sublist List.filter_sublist queues.redis

theorem Registered.orderly (registered : Registered bull s) : s.2.Orderly := by
  induction registered with
  | start db redis => exact ⟨List.nodup_nil, fun _ member => (List.not_mem_nil member).elim,
      fun _ member => (List.not_mem_nil member).elim, fun _ member => (List.not_mem_nil member).elim⟩
  | create registered env dto userId tenantId ih =>
    exact run_preserves (OrchestrateModel.serve env (QueueStore.submitJob bull)) (Orderly.service env) _ _ ih
  | release registered tenantId queueName ih => exact ih.run (placing_release tenantId queueName)
  | stop registered jobType cronPattern jobId tenantId ih => exact ih.stop jobType cronPattern jobId tenantId
  | fire registered next ih =>
    refine ⟨?_, fun entry member => ?_, fun entry member => ?_, fun entry member => ?_⟩
    · show ((List.map _ _).map _).Nodup
      rw [List.map_map]
      exact ih.distinct
    · obtain ⟨old, before, rfl⟩ := List.mem_map.mp member
      exact ih.placed old before
    · obtain ⟨old, before, rfl⟩ := List.mem_map.mp member
      exact ih.patterned old before
    · obtain ⟨old, before, rfl⟩ := List.mem_map.mp member
      exact ih.identified old before
  | elapse registered db redis ih => exact ⟨ih.distinct, ih.placed, ih.patterned, ih.identified⟩

end Orderly

/-- A request to stop a recurring job. -/
structure StopRequest where
  jobType : String
  cronPattern : String
  jobId : Option String
  tenantId : TenantId

/-- A repeatable job that is as requested, whoever's it is. -/
def StopRequest.Asks (request : StopRequest) (entry : Repeat) : Prop :=
  entry.job.name = request.jobType ∧ entry.job.pattern = request.cronPattern ∧
    (truthy request.jobId = true → entry.job.id = request.jobId)

instance (request : StopRequest) (entry : Repeat) : Decidable (request.Asks entry) :=
  inferInstanceAs (Decidable (_ ∧ _ ∧ (_ → _)))

/-- A repeatable job of the tenant that is as requested. -/
def StopRequest.Own (request : StopRequest) (entry : Repeat) : Prop :=
  entry.tenantId = request.tenantId ∧ request.Asks entry

instance (request : StopRequest) (entry : Repeat) : Decidable (request.Own entry) :=
  inferInstanceAs (Decidable (_ ∧ _))

/-- The id of the job contains the tenant's id, which says nothing about whose job it is. -/
def StopRequest.Contains (request : StopRequest) (entry : Repeat) : Prop :=
  request.tenantId = "" ∨ (entry.job.id.any fun id => QueueService.includes id request.tenantId) = true

instance (request : StopRequest) (entry : Repeat) : Decidable (request.Contains entry) :=
  inferInstanceAs (Decidable (_ ∨ _))

/-- The repeatable jobs that are looked at. -/
def window (queues : QueueStore) (jobType : String) : List Repeat :=
  match getQueueName jobType with
  | none => []
  | some queueName => (queues.listing queueName).take 101

/-- The ids tell the tenant's jobs from the others': if it has a job as requested, the id of one of those that are looked
    at contains the tenant's, and where the id of another tenant's job does, such a job of its own is listed before. -/
structure Telling (queues : QueueStore) (request : StopRequest) : Prop where
  own : (∃ entry ∈ queues.repeats, request.Own entry) →
    ∃ entry ∈ queues.window request.jobType, request.Own entry ∧ request.Contains entry
  other : ∀ before other after, queues.window request.jobType = before ++ other :: after →
    other.tenantId ≠ request.tenantId → request.Asks other → request.Contains other →
      ∃ entry ∈ before, request.Own entry ∧ request.Contains entry

/-- One job as requested is removed if the tenant has one, and none of another tenant is. -/
def StopsOwn (request : StopRequest) (before after : QueueStore) : Prop :=
  ((∃ entry ∈ before.repeats, request.Own entry) →
    ∃ entry ∈ before.repeats, request.Own entry ∧ ∀ other ∈ before.repeats, other ∉ after.repeats ↔ other = entry) ∧
  ∀ other ∈ before.repeats, other ∉ after.repeats → other.tenantId = request.tenantId

section Stopping

variable {queues : QueueStore} {request : StopRequest} {queueName : String} {entry : Repeat}

theorem mem_listing : entry ∈ queues.listing queueName ↔ entry ∈ queues.repeats ∧ entry.queueName = queueName := by
  rw [listing, List.mem_insertionSort, List.mem_filter, decide_eq_true_eq]

theorem mem_window (member : entry ∈ queues.window request.jobType) :
    entry ∈ queues.repeats ∧ getQueueName request.jobType = some entry.queueName := by
  unfold window at member
  split at member
  · exact (List.not_mem_nil member).elim
  · rename_i queueName placed
    obtain ⟨listed, rfl⟩ := mem_listing.mp (List.mem_of_mem_take member)
    exact ⟨listed, placed⟩

/-- The test of `find` does not ask for the tenant of a job. -/
theorem isToRemove_iff : QueueService.isToRemove request.jobType request.cronPattern request.jobId request.tenantId
    entry.job = true ↔ request.Asks entry ∧ request.Contains entry := by
  have ids : (!truthy request.jobId || decide (entry.job.id = request.jobId)) = true ↔
      (truthy request.jobId = true → entry.job.id = request.jobId) := by
    cases truthy request.jobId <;> simp
  rw [QueueService.isToRemove, Bool.and_eq_true, Bool.and_eq_true, Bool.and_eq_true, ids]
  simp only [StopRequest.Asks, StopRequest.Contains, Bool.or_eq_true, decide_eq_true_eq, and_assoc]

/-- The removal by key removes one job. -/
theorem Orderly.removed (orderly : queues.Orderly) (member : entry ∈ queues.repeats) (other : Repeat)
    (listed : other ∈ queues.repeats) :
    other ∉ queues.repeats.filter (fun other =>
      ¬ (other.queueName = entry.queueName ∧ other.job.key = entry.job.key)) ↔ other = entry := by
  rw [List.mem_filter]
  constructor
  · intro gone
    have keys : other.queueName = entry.queueName ∧ other.job.key = entry.job.key := by
      by_contra apart
      exact gone ⟨listed, decide_eq_true apart⟩
    exact List.inj_on_of_nodup_map orderly.distinct listed member (Prod.ext keys.1 keys.2)
  · rintro rfl kept
    simp at kept

/-- Nothing is removed. -/
theorem stopsOwn_same : StopsOwn request queues queues ↔ ∀ entry ∈ queues.repeats, ¬ request.Own entry := by
  constructor
  · rintro ⟨one, _⟩ entry member own
    obtain ⟨removed, listed, _, gone⟩ := one ⟨entry, member, own⟩
    exact (gone removed listed).mpr rfl listed
  · intro none
    refine ⟨?_, fun other listed gone => absurd listed gone⟩
    rintro ⟨entry, member, own⟩
    exact absurd own (none entry member)

/-- The first hit of a list stands before any other one. -/
theorem mem_before_first {α : Type} {p : α → Bool} {before after before' after' : List α} {first other : α}
    (same : before ++ first :: after = before' ++ other :: after') (earlier : ∀ a ∈ before, p a = false)
    (hit : p other = true) (apart : other ≠ first) : first ∈ before' := by
  rcases List.append_eq_append_iff.mp same with ⟨middle, rfl, rest⟩ | ⟨middle, rfl, rest⟩
  · cases middle with
    | nil => exact absurd (List.cons.inj rest).1.symm apart
    | cons head middle =>
      obtain ⟨rfl, _⟩ := List.cons.inj rest
      simp
  · cases middle with
    | nil => exact absurd (List.cons.inj rest).1 apart
    | cons head middle =>
      obtain ⟨rfl, _⟩ := List.cons.inj rest
      rw [earlier other (by simp)] at hit
      cases hit

/-- The call finds no job, or it removes the first one that its test takes. -/
theorem Orderly.stopRecurringJob_cases (orderly : queues.Orderly) (request : StopRequest) :
    ((∀ entry ∈ queues.window request.jobType, ¬ (request.Asks entry ∧ request.Contains entry)) ∧
      (QueueService.stopRecurringJob queues request.jobType request.cronPattern request.jobId request.tenantId).2 = queues) ∨
    ∃ before entry after, queues.window request.jobType = before ++ entry :: after ∧
      (∀ earlier ∈ before, ¬ (request.Asks earlier ∧ request.Contains earlier)) ∧
      request.Asks entry ∧ request.Contains entry ∧
      ∀ other ∈ queues.repeats, other ∉ (QueueService.stopRecurringJob queues request.jobType request.cronPattern
        request.jobId request.tenantId).2.repeats ↔ other = entry := by
  let test (entry : Repeat) : Bool :=
    QueueService.isToRemove request.jobType request.cronPattern request.jobId request.tenantId entry.job
  have refused {entry : Repeat} (failed : test entry = false) : ¬ (request.Asks entry ∧ request.Contains entry) := by
    rw [← isToRemove_iff]
    exact Bool.eq_false_iff.mp failed
  unfold QueueService.stopRecurringJob window
  cases placed : getQueueName request.jobType with
  | none => exact .inl ⟨fun _ member => (List.not_mem_nil member).elim, rfl⟩
  | some queueName =>
    dsimp only
    cases found : ((queues.listing queueName).take 101).find? test with
    | none =>
      exact .inl ⟨fun entry member => refused (by simpa using List.find?_eq_none.mp found entry member), rfl⟩
    | some entry =>
      obtain ⟨taken, before, after, split, earlier⟩ := List.find?_eq_some_iff_append.mp found
      obtain ⟨asked, contains⟩ := isToRemove_iff.mp taken
      obtain ⟨listed, rfl⟩ := mem_listing.mp (List.mem_of_mem_take (List.mem_of_find?_eq_some found))
      exact .inr ⟨before, entry, after, split, fun other member => refused (by simpa using earlier other member), asked,
        contains, fun other there => orderly.removed listed other there⟩

theorem Orderly.stopRecurringJob_iff (orderly : queues.Orderly) (request : StopRequest) :
    StopsOwn request queues (QueueService.stopRecurringJob queues request.jobType request.cronPattern request.jobId
      request.tenantId).2 ↔ Telling queues request := by
  rcases orderly.stopRecurringJob_cases request with ⟨unasked, same⟩ | ⟨before, entry, after, split, earlier, asked, contains, only⟩
  · rw [same, stopsOwn_same]
    constructor
    · intro none
      refine ⟨?_, fun before other after split _ asked contains => ?_⟩
      · rintro ⟨entry, member, own⟩
        exact absurd own (none entry member)
      · exact absurd ⟨asked, contains⟩ (unasked other (split ▸ List.mem_append_right _ List.mem_cons_self))
    · intro telling entry member own
      obtain ⟨known, looked, own, contains⟩ := telling.own ⟨entry, member, own⟩
      exact unasked known looked ⟨own.2, contains⟩
  · have looked : entry ∈ queues.window request.jobType := split ▸ List.mem_append_right _ List.mem_cons_self
    have listed := (mem_window looked).1
    constructor
    · intro stops
      have own : entry.tenantId = request.tenantId := stops.2 entry listed ((only entry listed).mpr rfl)
      refine ⟨fun _ => ⟨entry, looked, ⟨own, asked⟩, contains⟩, fun before' other after' split' strange asked' contains' => ?_⟩
      refine ⟨entry, ?_, ⟨own, asked⟩, contains⟩
      have first (earlier' : Repeat) (member : earlier' ∈ before) : decide (earlier' = other) = false := by
        refine decide_eq_false ?_
        rintro rfl
        exact earlier _ member ⟨asked', contains'⟩
      refine mem_before_first (p := fun a => decide (a = other)) (split.symm.trans split') first (decide_eq_true rfl) ?_
      rintro rfl
      exact strange own
    · intro telling
      have own : entry.tenantId = request.tenantId := by
        by_contra strange
        obtain ⟨first, member, mine, contained⟩ := telling.other before entry after split strange asked contains
        exact earlier first member ⟨mine.2, contained⟩
      refine ⟨fun _ => ⟨entry, listed, ⟨own, asked⟩, only⟩, fun other there gone => ?_⟩
      rw [(only other there).mp gone]
      exact own

/-- No repeatable job has a blank type or a blank pattern. -/
theorem Orderly.unlike_blank (orderly : queues.Orderly) (blank : request.jobType = "" ∨ request.cronPattern = "")
    (member : entry ∈ queues.repeats) : ¬ (entry.job.name = request.jobType ∧ entry.job.pattern = request.cronPattern) := by
  rintro ⟨name, pattern⟩
  rcases blank with untyped | unpatterned
  · have placed := orderly.placed entry member
    rw [name, untyped] at placed
    have unplaced : getQueueName "" = none := by decide
    rw [unplaced] at placed
    cases placed
  · exact orderly.patterned entry member (pattern.trans unpatterned)

theorem Orderly.telling_blank (orderly : queues.Orderly) (blank : request.jobType = "" ∨ request.cronPattern = "") :
    Telling queues request := by
  constructor
  · rintro ⟨entry, member, own⟩
    exact absurd ⟨own.2.1, own.2.2.1⟩ (orderly.unlike_blank blank member)
  · intro before other after split _ asked _
    have member : other ∈ queues.window request.jobType := split ▸ List.mem_append_right _ List.mem_cons_self
    exact absurd ⟨asked.1, asked.2.1⟩ (orderly.unlike_blank blank (mem_window member).1)

/-- A tenant whose id is in no uuid. -/
theorem Orderly.telling_foreign (orderly : queues.Orderly)
    (foreign : ∀ recurringJobId, QueueService.includes (uuidText recurringJobId) request.tenantId = false) :
    Telling queues request ↔ ∀ entry ∈ queues.repeats, ¬ request.Own entry := by
  have given : request.tenantId ≠ "" := by
    intro blank
    have none_ := foreign 0
    rw [blank] at none_
    revert none_
    decide
  have unshown (entry : Repeat) (member : entry ∈ queues.window request.jobType) : ¬ request.Contains entry := by
    rintro (blank | contained)
    · exact given blank
    · obtain ⟨id, own, contains⟩ := (Option.any_eq_true _ _).mp contained
      obtain ⟨recurringJobId, rfl⟩ := orderly.identified entry (mem_window member).1 id own
      rw [foreign recurringJobId] at contains
      cases contains
  constructor
  · intro telling entry member own
    obtain ⟨known, looked, _, contains⟩ := telling.own ⟨entry, member, own⟩
    exact unshown known looked contains
  · intro none
    refine ⟨?_, fun before other after split _ _ contains => ?_⟩
    · rintro ⟨entry, member, own⟩
      exact absurd own (none entry member)
    · exact absurd contains (unshown other (split ▸ List.mem_append_right _ List.mem_cons_self))

end Stopping

/-- Whatever recurring jobs there are, a tenant's admin stops one of its own and no other exactly if the ids tell its jobs
    from the others'; to a tenant whose id is in no uuid they tell nothing. -/
theorem stopRecurring_iff {bull : Repeater} {s : Backend} (registered : Registered bull (s.db, s.queues))
    {user : LoadedUser} (admin : user.user.role = .ADMIN) (tenant : Tenant) (env : Env) (jobType cronPattern : String)
    (jobId : Option String) :
    (StopsOwn ⟨jobType, cronPattern, jobId, tenant.id⟩ s.queues
        (JobsController.dispatch bull s user tenant env (.stopRecurring jobType cronPattern jobId)).2.queues ↔
      Telling s.queues ⟨jobType, cronPattern, jobId, tenant.id⟩) ∧
    ((∀ recurringJobId, QueueService.includes (uuidText recurringJobId) tenant.id = false) →
      (Telling s.queues ⟨jobType, cronPattern, jobId, tenant.id⟩ ↔
        ∀ entry ∈ s.queues.repeats, ¬ StopRequest.Own ⟨jobType, cronPattern, jobId, tenant.id⟩ entry)) := by
  have orderly : s.queues.Orderly := registered.orderly
  refine ⟨?_, fun foreign => orderly.telling_foreign foreign⟩
  by_cases named : jobType = "" ∨ cronPattern = ""
  · have untouched : (JobsController.dispatch bull s user tenant env (.stopRecurring jobType cronPattern jobId)).2.queues =
        s.queues := by
      unfold JobsController.dispatch
      simp only [admin, named, if_true, ne_eq, not_true_eq_false, if_false]
    rw [untouched, stopsOwn_same]
    exact ⟨fun _ => orderly.telling_blank named, fun _ entry member own =>
      orderly.unlike_blank named member ⟨own.2.1, own.2.2.1⟩⟩
  · have handled : (JobsController.dispatch bull s user tenant env (.stopRecurring jobType cronPattern jobId)).2.queues =
        (QueueService.stopRecurringJob s.queues jobType cronPattern jobId tenant.id).2 := by
      unfold JobsController.dispatch
      simp only [admin, named, if_false, ne_eq, not_true_eq_false]
    rw [handled]
    exact orderly.stopRecurringJob_iff ⟨jobType, cronPattern, jobId, tenant.id⟩

section Acme

def everyMinute : Repeater where
  nextRun _ now := .ok (now + 60000)
  key name id pattern := name ++ ":" ++ id.getD "" ++ ":::" ++ pattern

def reminder : CreateJobDto := { jobType := "send_email", metadata := [], cron := some "0 * * * *" }

def registering (s : Db × QueueStore) (tenantId : TenantId) : Db × QueueStore :=
  ((JobsService.createAndEnqueue reminder "u" tenantId).run (OrchestrateModel.serve .plain (submitJob everyMinute)) s).2

/-- The tenant "acme" has one recurring job. -/
def acmeQueues : Db × QueueStore := registering (Db.empty, { redis := .empty, repeats := [] }) "acme"

theorem acmeQueues_registered : Registered everyMinute acmeQueues := .create (.start _ _) _ _ _ _

/-- A tenant has one, too, whose id occurs in the uuid of its recurring row and not in that of the other one. -/
def sharedQueues : Db × QueueStore := registering acmeQueues "2"

theorem sharedQueues_registered : Registered everyMinute sharedQueues := .create acmeQueues_registered _ _ _ _

def backendOf (queues : Db × QueueStore) : Backend where
  auth := { tenants := [], users := [], drawn := 0 }
  tokens := []
  db := queues.1
  queues := queues.2

def adminOf (tenantId : TenantId) : LoadedUser where
  user := { id := "u", name := "", email := "", password := "", role := .ADMIN, tenantId := some tenantId }
  tenant := some { id := tenantId, name := "" }

theorem stopRecurring_shared :
    ((backendOf sharedQueues).queues.repeats.map (·.tenantId) = ["acme", "2"] ∧
      (JobsController.dispatch everyMinute (backendOf sharedQueues) (adminOf "2") { id := "2", name := "" } .plain
        (.stopRecurring "send_email" "0 * * * *" none)).2.queues.repeats.map (·.tenantId) = ["acme"]) ∧
    StopsOwn ⟨"send_email", "0 * * * *", none, "2"⟩ (backendOf sharedQueues).queues
      (JobsController.dispatch everyMinute (backendOf sharedQueues) (adminOf "2") { id := "2", name := "" } .plain
        (.stopRecurring "send_email" "0 * * * *" none)).2.queues := by
  have registered : Registered everyMinute ((backendOf sharedQueues).db, (backendOf sharedQueues).queues) :=
    sharedQueues_registered
  have admin : (adminOf "2").user.role = .ADMIN := rfl
  refine ⟨by decide +kernel, (stopRecurring_iff registered admin { id := "2", name := "" } .plain "send_email" "0 * * * *"
    none).1.mpr ⟨fun _ => by decide +kernel, fun before other after split strange _ contains => ?_⟩⟩
  have unlike : ∀ entry ∈ (backendOf sharedQueues).queues.window "send_email",
      StopRequest.Contains ⟨"send_email", "0 * * * *", none, "2"⟩ entry → entry.tenantId = "2" := by decide +kernel
  exact absurd (unlike other (split ▸ List.mem_append_right _ List.mem_cons_self) contains) strange

/-- The job of "acme" is listed under the id of its recurring row, which does not contain "acme". -/
theorem stopRecurring_finds_none :
    ¬ ∀ (bull : Repeater) (s : Backend) (user : LoadedUser) (tenant : Tenant) (env : Env) (jobType cronPattern : String)
      (jobId : Option String), Registered bull (s.db, s.queues) → user.user.role = .ADMIN →
        StopsOwn ⟨jobType, cronPattern, jobId, tenant.id⟩ s.queues
          (JobsController.dispatch bull s user tenant env (.stopRecurring jobType cronPattern jobId)).2.queues := by
  intro claimed
  have stops := claimed everyMinute (backendOf acmeQueues) (adminOf "acme") { id := "acme", name := "" } .plain "send_email" "0 * * * *"
    none acmeQueues_registered rfl
  have same : (JobsController.dispatch everyMinute (backendOf acmeQueues) (adminOf "acme") { id := "acme", name := "" } .plain
      (.stopRecurring "send_email" "0 * * * *" none)).2.queues.repeats = (backendOf acmeQueues).queues.repeats := by decide +kernel
  obtain ⟨entry, member, _, gone⟩ := stops.1 (by decide +kernel)
  exact (gone entry member).mpr rfl (same ▸ member)

end Acme
end QueueStore
end OrchestrateModel
