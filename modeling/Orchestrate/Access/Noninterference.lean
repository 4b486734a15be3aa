import Mathlib.Data.List.Find
import Orchestrate.Admission.Store
import Orchestrate.Effect.Coupled
import Orchestrate.Ledger.Sorting
import Orchestrate.Model.JobsController
import Orchestrate.Workflow.Board

namespace OrchestrateModel

open Effect Program TenantCapService QueueReconcileCollector Sorting

instance : IsTrans Repeat QueueStore.Sooner where
  trans a b c first second := by
    rcases first with less | ⟨same, first⟩
    · rcases second with less' | ⟨same', _⟩
      · exact .inl (less.trans less')
      · exact .inl (by omega)
    · rcases second with less' | ⟨same', second⟩
      · exact .inl (by omega)
      · exact .inr ⟨same.trans same', String.le_trans first second⟩

instance : Std.Total QueueStore.Sooner where
  total a b := by
    rcases Nat.lt_trichotomy a.job.next b.job.next with less | same | less
    · exact .inl (.inl less)
    · rcases String.le_total a.job.key b.job.key with first | second
      · exact .inl (.inr ⟨same, first⟩)
      · exact .inr (.inr ⟨same.symm, second⟩)
    · exact .inr (.inl less)

section Relation

/-- Rows have distinct ids, and the ids of all rows, also of those that attempts and logs refer to, have been drawn. -/
structure Db.Drawn (db : Db) : Prop where
  keyed : db.Keyed
  jobs : ∀ job ∈ db.jobs, job.id < db.drawn
  attempts : ∀ attempt ∈ db.attempts, attempt.jobId < db.drawn
  logs : ∀ log ∈ db.logs, log.jobId < db.drawn

/-- The jobs of a tenant. -/
def Db.own (db : Db) (tenantId : TenantId) : List Job := db.jobs.filter fun job => job.tenantId = tenantId

variable (tenantId : TenantId)

/-- The tables agree on the jobs of a tenant, with their attempts and logs, and on its recurring jobs; the next uuid is
    the same. -/
structure Db.SameFor (db db' : Db) : Prop where
  jobs : db.own tenantId = db'.own tenantId
  attempts : ∀ job ∈ db.own tenantId, JobsService.attemptsOf db job.id = JobsService.attemptsOf db' job.id
  logs : ∀ job ∈ db.own tenantId, JobsService.logsOf db job.id = JobsService.logsOf db' job.id
  recurring : (db.recurring.filter fun row => row.tenantId = tenantId) = db'.recurring.filter fun row => row.tenantId = tenantId
  drawn : db.drawn = db'.drawn
  first : db.Drawn
  second : db'.Drawn

/-- Redis agrees on the keys of a tenant, and the queues on its repeatable jobs. -/
structure QueueStore.SameFor (queues queues' : QueueStore) : Prop where
  now : queues.redis.now = queues'.redis.now
  inflight : queues.redis.counters (inflightKey tenantId) = queues'.redis.counters (inflightKey tenantId)
  staged : queues.redis.lists (stagingKey tenantId) = queues'.redis.lists (stagingKey tenantId)
  repeats : (queues.repeats.filter fun entry => entry.tenantId = tenantId) =
    queues'.repeats.filter fun entry => entry.tenantId = tenantId

/-- Both agree on a tenant: its users with their tokens, its rows, its keys, and its repeatable jobs. -/
structure Backend.SameFor (s s' : Backend) : Prop where
  users : ∀ id, (s.auth.user? id).filter (fun user => user.tenantId = some tenantId) =
    (s'.auth.user? id).filter fun user => user.tenantId = some tenantId
  tenant : (s.auth.tenants.find? fun tenant => tenant.id = tenantId) = s'.auth.tenants.find? fun tenant => tenant.id = tenantId
  tokens : ∀ session : Session, (∃ user, s.auth.user? session.sub = some user ∧ user.tenantId = some tenantId) →
    (session ∈ s.tokens ↔ session ∈ s'.tokens)
  db : s.db.SameFor tenantId s'.db
  queues : s.queues.SameFor tenantId s'.queues

end Relation

section Queues

variable {tenantId : TenantId} {bull : Repeater} {queues queues' : QueueStore} {payload : JobQueuePayload}

theorem coupled_increment (key field : String) (same : queues.SameFor tenantId queues') :
    Coupled (QueueStore.serve bull) (QueueStore.serve bull) (QueueStore.SameFor tenantId) (increment key field) queues queues' :=
  ⟨rfl, same.now, same.inflight, same.staged, same.repeats⟩

/-- A command on the tenant's own counter. -/
theorem coupled_count (same : queues.SameFor tenantId queues') :
    Coupled (QueueStore.serve bull) (QueueStore.serve bull) (QueueStore.SameFor tenantId) (Client.incr (inflightKey tenantId))
        queues queues' ∧
      Coupled (QueueStore.serve bull) (QueueStore.serve bull) (QueueStore.SameFor tenantId)
        (Client.decr (inflightKey tenantId)) queues queues' := by
  have count : queues.redis.count (inflightKey tenantId) = queues'.redis.count (inflightKey tenantId) := by
    rw [Redis.count, Redis.count, same.inflight]
  have added (amount : Int) : QueueStore.SameFor tenantId
      { queues with redis := queues.redis.add (inflightKey tenantId) amount }
      { queues' with redis := queues'.redis.add (inflightKey tenantId) amount } := by
    refine ⟨same.now, ?_, same.staged, same.repeats⟩
    simp only [Redis.add, Function.update_self, count, same.inflight]
  constructor
  · refine coupled_await (S := capSignature) ?_ (added 1)
    simp [QueueStore.serve, Redis.exec, count]
  · refine coupled_await (S := capSignature) ?_ (added (-1))
    simp [QueueStore.serve, Redis.exec, count]

theorem coupled_expire (seconds : Nat) (same : queues.SameFor tenantId queues') :
    Coupled (QueueStore.serve bull) (QueueStore.serve bull) (QueueStore.SameFor tenantId)
      (Client.expire (inflightKey tenantId) seconds) queues queues' := by
  refine coupled_await (S := capSignature) rfl ⟨same.now, ?_, same.staged, same.repeats⟩
  simp [QueueStore.serve, Redis.exec, same.inflight, same.now]

theorem coupled_rpush (payload : JobQueuePayload) (same : queues.SameFor tenantId queues') :
    Coupled (QueueStore.serve bull) (QueueStore.serve bull) (QueueStore.SameFor tenantId)
      (Client.rpush (stagingKey tenantId) payload) queues queues' := by
  refine coupled_await (S := capSignature) ?_ ⟨same.now, same.inflight, ?_, same.repeats⟩
  · simp [QueueStore.serve, Redis.exec, same.staged]
  · simp [QueueStore.serve, Redis.exec, Redis.setList, same.staged]

theorem coupled_llen (same : queues.SameFor tenantId queues') :
    Coupled (QueueStore.serve bull) (QueueStore.serve bull) (QueueStore.SameFor tenantId)
      (Client.llen (stagingKey tenantId)) queues queues' := by
  refine coupled_await (S := capSignature) ?_ ⟨same.now, same.inflight, same.staged, same.repeats⟩
  simp [QueueStore.serve, Redis.exec, same.staged]

theorem filter_upsert (repeats : List Repeat) (added : Repeat) :
    (QueueStore.upsert repeats added).filter (fun entry => entry.tenantId = tenantId) =
      ((repeats.filter fun entry => entry.tenantId = tenantId).filter fun entry =>
        ¬ (entry.queueName = added.queueName ∧ entry.job.key = added.job.key)) ++
          [added].filter fun entry => entry.tenantId = tenantId := by
  rw [QueueStore.upsert, List.filter_append, List.filter_comm]

theorem add_same (bull : Repeater) (queueName : String) (payload : JobQueuePayload) (options : JobsOptions)
    (same : queues.SameFor tenantId queues') :
    (queues.add bull queueName payload options).1 = (queues'.add bull queueName payload options).1 ∧
      (queues.add bull queueName payload options).2.SameFor tenantId (queues'.add bull queueName payload options).2 := by
  unfold QueueStore.add
  cases options.repeat_ with
  | none => exact ⟨rfl, same⟩
  | some repeat_ =>
    dsimp only
    rw [same.now]
    cases bull.nextRun repeat_.pattern queues'.redis.now with
    | error error => exact ⟨rfl, same⟩
    | ok next =>
      refine ⟨rfl, same.now, same.inflight, same.staged, ?_⟩
      dsimp only
      rw [filter_upsert, filter_upsert, same.repeats]

theorem coupled_enqueue (payload : JobQueuePayload) (same : queues.SameFor tenantId queues') :
    Coupled (QueueStore.serve bull) (QueueStore.serve bull) (QueueStore.SameFor tenantId) (enqueue payload) queues queues' := by
  unfold enqueue
  cases getQueueName payload.jobType with
  | none => exact coupled_throws _ same
  | some queueName =>
    obtain ⟨answers, left⟩ := add_same bull queueName payload (jobsOptions payload) same
    exact coupled_await (S := capSignature) answers left

/-- A submission of the tenant is decided by its own keys. -/
theorem coupled_submitJob (bull : Repeater) (own : payload.tenantId = tenantId) (same : queues.SameFor tenantId queues') :
    Coupled (QueueStore.serve bull) (QueueStore.serve bull) (QueueStore.SameFor tenantId) (submitJob payload) queues queues' := by
  subst own
  have weaker (t t' : QueueStore) (same : t.SameFor payload.tenantId t') : t.SameFor payload.tenantId t' := same
  have takes {q q' : QueueStore} (same : q.SameFor payload.tenantId q') : Coupled (QueueStore.serve bull) (QueueStore.serve bull)
      (QueueStore.SameFor payload.tenantId) (takeSlot payload.tenantId) q q' := by
    refine (coupled_count same).1.bind weaker fun current q q' same => ?_
    split
    · exact (coupled_expire 300 same).bind weaker fun _ _ _ same => coupled_done _ same
    · exact coupled_done _ same
  rw [submitJob_eq]
  refine (coupled_increment _ _ same).bind weaker fun _ q q' same => (takes same).bind weaker fun current q q' same => ?_
  unfold placeJob
  split
  · exact (coupled_enqueue payload same).bind weaker fun _ _ _ same => coupled_done _ same
  · refine (coupled_count same).2.bind weaker fun _ q q' same => ?_
    refine (coupled_rpush payload same).bind weaker fun _ q q' same => ?_
    refine (coupled_increment _ _ same).bind weaker fun _ q q' same => ?_
    exact (coupled_llen same).bind weaker fun _ _ _ same => coupled_done _ same

theorem submitJob_same (bull : Repeater) (own : payload.tenantId = tenantId) (same : queues.SameFor tenantId queues') :
    (queues.submitJob bull payload).1 = (queues'.submitJob bull payload).1 ∧
      (queues.submitJob bull payload).2.SameFor tenantId (queues'.submitJob bull payload).2 := by
  obtain ⟨ends, left⟩ := coupled_submitJob bull own same
  unfold QueueStore.submitJob
  cases ran : (submitJob payload).run (QueueStore.serve bull) queues with
  | mk outcome q =>
    cases ran' : (submitJob payload).run (QueueStore.serve bull) queues' with
    | mk outcome' q' =>
      rw [ran, ran'] at ends left
      dsimp only at ends left
      subst ends
      cases outcome <;> exact ⟨rfl, left⟩

end Queues

section Tables

variable {tenantId : TenantId} {db db' : Db} {columns : JobColumns}

theorem find?_own {jobs : List Job} (keyed : (jobs.map (·.id)).Nodup) (kept : Job → Bool) (id : JobId) :
    (jobs.find? fun job => job.id = id).filter kept = (jobs.filter kept).find? fun job => job.id = id := by
  induction jobs with
  | nil => rfl
  | cons job rest ih =>
    obtain ⟨fresh, keyed⟩ := List.nodup_cons.mp keyed
    by_cases here : job.id = id
    · have none : (rest.filter kept).find? (fun job => job.id = id) = none := by
        rw [List.find?_eq_none]
        intro other member same
        have equal : other.id = job.id := (of_decide_eq_true same).trans here.symm
        exact fresh (List.mem_map.mpr ⟨other, List.mem_of_mem_filter member, equal⟩)
      rw [List.find?_cons_of_pos (by simpa using here), List.filter_cons]
      cases keeps : kept job with
      | true => simp [here, keeps]
      | false => simp [keeps, none]
    · rw [List.find?_cons_of_neg (by simpa using here), ih keyed, List.filter_cons]
      cases kept job with
      | true => simp [here]
      | false => rfl

theorem Db.Drawn.job?_own (drawn : db.Drawn) (tenantId : TenantId) (id : JobId) :
    (db.job? id).filter (fun job => job.tenantId = tenantId) = (db.own tenantId).find? fun job => job.id = id :=
  find?_own drawn.keyed _ id

namespace Db.SameFor

theorem job? (same : db.SameFor tenantId db') (id : JobId) : (db.job? id).filter (fun job => job.tenantId = tenantId) =
    (db'.job? id).filter fun job => job.tenantId = tenantId := by
  rw [same.first.job?_own, same.second.job?_own, same.jobs]

theorem getJobById (same : db.SameFor tenantId db') (id : JobId) :
    JobsService.getJobById db id tenantId = JobsService.getJobById db' id tenantId := by
  unfold JobsService.getJobById
  rw [← same.job? id]
  cases found : (db.job? id).filter fun job => job.tenantId = tenantId with
  | none => rfl
  | some job =>
    have own : job ∈ db.own tenantId := by
      rw [same.first.job?_own] at found
      exact List.mem_of_find?_eq_some found
    dsimp only
    rw [same.attempts job own, same.logs job own]

theorem listJobs (same : db.SameFor tenantId db') (env : Env) (filters : JobFilters) :
    JobsService.listJobs env.arrange db tenantId filters = JobsService.listJobs env.arrange db' tenantId filters := by
  have filtered (db : Db) : (db.jobs.filter fun job => job.tenantId = tenantId ∧ filters.status.all (job.status = ·) ∧
      filters.jobType.all fun type => type = "" ∨ job.type = type) =
        (db.own tenantId).filter fun job => filters.status.all (job.status = ·) ∧
          filters.jobType.all fun type => type = "" ∨ job.type = type := by
    rw [Db.own, List.filter_filter]
    congr 1
    funext job
    simp only [Bool.decide_and, Bool.and_comm]
  unfold JobsService.listJobs
  rw [filtered, filtered, ← same.jobs]
  refine List.map_congr_left fun job member => ?_
  have own : job ∈ db.own tenantId :=
    List.mem_of_mem_filter ((env.arrange_perm _).mem_iff.mp ((List.mem_insertionSort _).mp member))
  rw [same.attempts job own]

/-- The tenant's row with the next id. -/
theorem insertJob (same : db.SameFor tenantId db') (createdAt : Nat) (own : columns.tenantId = tenantId) :
    (db.insertJob createdAt columns).SameFor tenantId (db'.insertJob createdAt columns) := by
  have added (db : Db) : (db.insertJob createdAt columns).own tenantId =
      db.own tenantId ++ [{ columns with id := db.drawn, createdAt := createdAt }] := by
    simp [Db.own, Db.insertJob, own]
  have fresh {db : Db} (drawn : db.Drawn) : JobsService.attemptsOf db db.drawn = [] ∧ JobsService.logsOf db db.drawn = [] := by
    constructor
    · exact List.filter_eq_nil_iff.mpr fun attempt member => by simpa using Nat.ne_of_lt (drawn.attempts attempt member)
    · exact List.filter_eq_nil_iff.mpr fun log member => by simpa using Nat.ne_of_lt (drawn.logs log member)
  have rows (job : Job) (member : job ∈ (db.insertJob createdAt columns).own tenantId) :
      job ∈ db.own tenantId ∨ job.id = db.drawn := by
    rw [added] at member
    rcases List.mem_append.mp member with earlier | last
    · exact .inl earlier
    · exact .inr (by rw [List.mem_singleton.mp last])
  have drawn {db : Db} (drawn : db.Drawn) : (db.insertJob createdAt columns).Drawn := by
    refine ⟨?_, fun job member => ?_, fun attempt member => Nat.lt_succ_of_lt (drawn.attempts attempt member),
      fun log member => Nat.lt_succ_of_lt (drawn.logs log member)⟩
    · have ids : (db.insertJob createdAt columns).jobs.map (·.id) = db.jobs.map (·.id) ++ [db.drawn] := by
        simp [Db.insertJob]
      unfold Db.Keyed
      rw [ids, List.nodup_append]
      refine ⟨drawn.keyed, List.nodup_singleton _, fun x earlier y last => ?_⟩
      obtain ⟨job, member, rfl⟩ := List.mem_map.mp earlier
      rw [List.mem_singleton.mp last]
      exact Nat.ne_of_lt (drawn.jobs job member)
    · rcases List.mem_append.mp member with earlier | last
      · exact Nat.lt_succ_of_lt (drawn.jobs job earlier)
      · rw [List.mem_singleton.mp last]
        exact Nat.lt_succ_self _
  refine ⟨?_, fun job member => ?_, fun job member => ?_, same.recurring, congrArg (· + 1) same.drawn, drawn same.first,
    drawn same.second⟩
  · rw [added, added, same.jobs, same.drawn]
  · rcases rows job member with earlier | last
    · exact same.attempts job earlier
    · rw [last]
      exact (fresh same.first).1.trans ((same.drawn ▸ (fresh same.second).1).symm)
  · rcases rows job member with earlier | last
    · exact same.logs job earlier
    · rw [last]
      exact (fresh same.first).2.trans ((same.drawn ▸ (fresh same.second).2).symm)

theorem updateJob (same : db.SameFor tenantId db') (id : JobId) (change : JobChange) :
    (db.updateJob id change).SameFor tenantId (db'.updateJob id change) := by
  have kept (job : Job) : (if job.id = id then job.change change else job).id = job.id ∧
      (if job.id = id then job.change change else job).tenantId = job.tenantId := by split <;> exact ⟨rfl, rfl⟩
  have mapped (db : Db) : (db.updateJob id change).own tenantId =
      (db.own tenantId).map fun job => if job.id = id then job.change change else job := by
    have reads : ((fun job : Job => decide (job.tenantId = tenantId)) ∘
        fun job : Job => if job.id = id then job.change change else job) = fun job : Job => decide (job.tenantId = tenantId) := by
      funext job
      simp only [Function.comp_apply, (kept job).2]
    rw [Db.own, Db.updateJob, List.filter_map, reads]
    rfl
  have row (job : Job) (member : job ∈ (db.updateJob id change).own tenantId) : ∃ before ∈ db.own tenantId, job.id = before.id := by
    rw [mapped] at member
    obtain ⟨before, present, rfl⟩ := List.mem_map.mp member
    exact ⟨before, present, (kept before).1⟩
  have drawn {db : Db} (drawn : db.Drawn) : (db.updateJob id change).Drawn := by
    refine ⟨(Db.kept_updateJob db id change).keyed drawn.keyed, fun job member => ?_, drawn.attempts, drawn.logs⟩
    obtain ⟨before, present, rfl⟩ := List.mem_map.mp member
    rw [(kept before).1]
    exact drawn.jobs before present
  refine ⟨?_, fun job member => ?_, fun job member => ?_, same.recurring, same.drawn, drawn same.first, drawn same.second⟩
  · rw [mapped, mapped, same.jobs]
  · obtain ⟨before, present, equal⟩ := row job member
    rw [equal]
    exact same.attempts before present
  · obtain ⟨before, present, equal⟩ := row job member
    rw [equal]
    exact same.logs before present

theorem insertRecurring (same : db.SameFor tenantId db') (row : RecurringJob) :
    Db.SameFor tenantId { db with recurring := db.recurring ++ [row], drawn := db.drawn + 1 }
      { db' with recurring := db'.recurring ++ [row], drawn := db'.drawn + 1 } := by
  have drawn {db : Db} (drawn : db.Drawn) : Db.Drawn { db with recurring := db.recurring ++ [row], drawn := db.drawn + 1 } :=
    ⟨drawn.keyed, fun job member => Nat.lt_succ_of_lt (drawn.jobs job member),
      fun attempt member => Nat.lt_succ_of_lt (drawn.attempts attempt member),
      fun log member => Nat.lt_succ_of_lt (drawn.logs log member)⟩
  refine ⟨same.jobs, same.attempts, same.logs, ?_, congrArg (· + 1) same.drawn, drawn same.first, drawn same.second⟩
  dsimp only
  rw [List.filter_append, List.filter_append, same.recurring]

end Db.SameFor

/-- No other tenant holds the key. -/
def Db.Unheld (db : Db) (tenantId : TenantId) (key : Option String) : Prop :=
  ∀ job ∈ db.jobs, key.isSome = true → job.idempotencyKey = key → job.tenantId = tenantId

theorem Db.Unheld.conflicts (unheld : db.Unheld tenantId columns.idempotencyKey) : db.conflicts columns =
    columns.idempotencyKey.any fun key => (db.own tenantId).any fun job => job.idempotencyKey = some key := by
  unfold Db.conflicts
  cases given : columns.idempotencyKey with
  | none => rfl
  | some key =>
    simp only [Option.any_some]
    rw [Bool.eq_iff_iff, List.any_eq_true, List.any_eq_true]
    constructor
    · intro exists_
      obtain ⟨job, member, holds⟩ := exists_
      have own := unheld job member (by rw [given]; rfl) (by rw [given]; exact of_decide_eq_true holds)
      exact ⟨job, List.mem_filter.mpr ⟨member, decide_eq_true own⟩, holds⟩
    · intro exists_
      obtain ⟨job, member, holds⟩ := exists_
      exact ⟨job, List.mem_of_mem_filter member, holds⟩

/-- The tables and Redis with the queues. -/
abbrev SameStores (tenantId : TenantId) (p p' : Db × QueueStore) : Prop :=
  p.1.SameFor tenantId p'.1 ∧ p.2.SameFor tenantId p'.2

end Tables

section Services

variable {tenantId : TenantId} {bull : Repeater} {env : Env} {p p' : Db × QueueStore}

theorem coupled_submit {payload : JobQueuePayload} (own : payload.tenantId = tenantId) (same : SameStores tenantId p p') :
    Coupled (serve env (QueueStore.submitJob bull)) (serve env (QueueStore.submitJob bull)) (SameStores tenantId)
      (submit payload) p p' := by
  obtain ⟨answers, left⟩ := submitJob_same bull own same.2
  exact coupled_await (S := serviceSignature) answers ⟨same.1, left⟩

/-- A row is queued under the name of its type. -/
theorem coupled_queue {payload : String → JobQueuePayload} (type : String) (value : Job)
    (own : ∀ queueName, (payload queueName).tenantId = tenantId) (same : SameStores tenantId p p') :
    Coupled (serve env (QueueStore.submitJob bull)) (serve env (QueueStore.submitJob bull)) (SameStores tenantId)
      ((Program.ofExcept (resolveQueueName type)).bind fun queueName => (submit (payload queueName)).bind fun _ => .done value)
      p p' :=
  (coupled_ofExcept _ same).bind (fun _ _ same => same) fun queueName _ _ same =>
    (coupled_submit (own queueName) same).bind (fun _ _ same => same) fun _ _ _ same => coupled_done value same

/-- The stores, while no other tenant holds the key of a request. -/
def Keeping (tenantId : TenantId) (key : Option String) (p p' : Db × QueueStore) : Prop :=
  SameStores tenantId p p' ∧ p.1.Unheld tenantId key ∧ p'.1.Unheld tenantId key

theorem coupled_saveRecurring (dto : CreateJobDto) (userId : UserId) {key : Option String} (keeping : Keeping tenantId key p p') :
    Coupled (serve env (QueueStore.submitJob bull)) (serve env (QueueStore.submitJob bull)) (Keeping tenantId key)
      (JobsService.saveRecurring dto userId tenantId) p p' := by
  unfold JobsService.saveRecurring
  cases dto.cron with
  | none => exact coupled_done none keeping
  | some cron =>
    dsimp only
    split
    · exact coupled_done none keeping
    · obtain ⟨same, unheld, unheld'⟩ := keeping
      have saves : Coupled (serve env (QueueStore.submitJob bull)) (serve env (QueueStore.submitJob bull)) (Keeping tenantId key)
          (query (.insertRecurring dto.jobType cron dto.metadata tenantId userId)) p p' := by
        refine coupled_await (S := serviceSignature) ?_ ⟨⟨?_, same.2⟩, unheld, unheld'⟩
        · simp [serve, Db.exec, same.1.drawn]
        · have added := same.1.insertRecurring
            { id := p.1.drawn, jobType := dto.jobType, cron := cron, metadata := dto.metadata, tenantId := tenantId,
              userId := userId }
          simpa [serve, Db.exec, same.1.drawn] using added
      exact saves.bind (fun _ _ keeping => keeping) fun saved _ _ keeping => coupled_done _ keeping

/-- A row of the tenant is added in both tables or in none. -/
theorem coupled_save {columns : JobColumns} (own : columns.tenantId = tenantId)
    (keeping : Keeping tenantId columns.idempotencyKey p p') :
    Coupled (serve env (QueueStore.submitJob bull)) (serve env (QueueStore.submitJob bull)) (SameStores tenantId)
      (JobRepo.save columns) p p' := by
  obtain ⟨same, unheld, unheld'⟩ := keeping
  have alike : p.1.conflicts columns = p'.1.conflicts columns := by
    rw [unheld.conflicts, unheld'.conflicts, same.1.jobs]
  have answer (p : Db × QueueStore) : serve env (QueueStore.submitJob bull) p (.db (.insertJob columns)) =
      ((p.1.exec env (.insertJob columns)).1, (p.1.exec env (.insertJob columns)).2, p.2) := rfl
  refine coupled_await (S := serviceSignature) ?_ ?_
  · rw [answer, answer]
    simp only [Db.exec, alike, same.1.drawn]
    split <;> rfl
  · rw [answer, answer]
    simp only [Db.exec, alike, same.1.drawn]
    split
    · exact same
    · exact ⟨same.1.insertJob _ own, same.2⟩

theorem coupled_createAndEnqueue (dto : CreateJobDto) (userId : UserId)
    (keeping : Keeping tenantId dto.idempotencyKey p p') :
    Coupled (serve env (QueueStore.submitJob bull)) (serve env (QueueStore.submitJob bull)) (SameStores tenantId)
      (JobsService.createAndEnqueue dto userId tenantId) p p' := by
  unfold JobsService.createAndEnqueue
  simp only [bind_eq]
  refine (coupled_saveRecurring dto userId keeping).bind (fun _ _ keeping => keeping.1) fun recurringJobId _ _ keeping => ?_
  have clocks {p p' : Db × QueueStore} (keeping : Keeping tenantId dto.idempotencyKey p p') :
      Coupled (serve env (QueueStore.submitJob bull)) (serve env (QueueStore.submitJob bull))
        (Keeping tenantId dto.idempotencyKey) clock p p' := coupled_await (S := serviceSignature) rfl keeping
  refine (clocks keeping).bind (fun _ _ keeping => keeping.1) fun now _ _ keeping => ?_
  refine (coupled_save rfl keeping).bind (fun _ _ same => same) fun savedJob _ _ same => ?_
  exact coupled_queue savedJob.type savedJob (fun _ => rfl) same

theorem coupled_retryFailedJob (jobId : JobId) (userId : UserId) (same : SameStores tenantId p p') :
    Coupled (serve env (QueueStore.submitJob bull)) (serve env (QueueStore.submitJob bull)) (SameStores tenantId)
      (JobsService.retryFailedJob jobId userId tenantId) p p' := by
  have finds : Coupled (serve env (QueueStore.submitJob bull)) (serve env (QueueStore.submitJob bull)) (SameStores tenantId)
      (JobRepo.findOneOfTenant jobId tenantId) p p' :=
    coupled_await (S := serviceSignature) (congrArg Except.ok (same.1.job? jobId)) same
  have updates {p p' : Db × QueueStore} (same : SameStores tenantId p p') (id : JobId) (change : JobChange) :
      Coupled (serve env (QueueStore.submitJob bull)) (serve env (QueueStore.submitJob bull)) (SameStores tenantId)
        (JobRepo.update id change) p p' :=
    coupled_await (S := serviceSignature) rfl ⟨same.1.updateJob id change, same.2⟩
  unfold JobsService.retryFailedJob
  rw [bind_eq]
  refine finds.bind (fun _ _ same => same) fun found p p' same => ?_
  cases found with
  | none => exact coupled_throws _ same
  | some job =>
    dsimp only
    split
    · exact coupled_throws _ same
    · exact (updates same job.id _).bind (fun _ _ same => same) fun _ p p' same => coupled_queue job.type _ (fun _ => rfl) same

end Services

section Repeats

variable {tenantId : TenantId} {queues queues' : QueueStore} {queueName jobType cronPattern : String} {jobId : Option String}

theorem listing_own (same : queues.SameFor tenantId queues') (queueName : String) :
    (queues.listing queueName).filter (fun entry => entry.tenantId = tenantId) =
      (queues'.listing queueName).filter fun entry => entry.tenantId = tenantId := by
  rw [QueueStore.listing, QueueStore.listing, filter_insertionSort, filter_insertionSort, List.filter_comm, same.repeats,
    List.filter_comm]

/-- The repeatable jobs of a queue are the tenant's. -/
def QueueStore.Alone (queues : QueueStore) (tenantId : TenantId) (queueName : String) : Prop :=
  ∀ entry ∈ queues.listing queueName, entry.tenantId = tenantId

/-- The repeatable jobs that a request may stop are the tenant's, and among the first 101 of their queue. -/
def QueueStore.Visible (queues : QueueStore) (tenantId : TenantId) (jobType cronPattern : String) (jobId : Option String)
    (queueName : String) : Prop :=
  ∀ entry ∈ queues.listing queueName, QueueService.isToRemove jobType cronPattern jobId tenantId entry.job = true →
    entry.tenantId = tenantId ∧ entry ∈ (queues.listing queueName).take 101

theorem listRecurringJobs_same (same : queues.SameFor tenantId queues')
    (alone : ∀ queueName, getQueueName jobType = some queueName → queues.Alone tenantId queueName)
    (alone' : ∀ queueName, getQueueName jobType = some queueName → queues'.Alone tenantId queueName) :
    QueueService.listRecurringJobs queues jobType = QueueService.listRecurringJobs queues' jobType := by
  unfold QueueService.listRecurringJobs
  cases placed : getQueueName jobType with
  | none => rfl
  | some queueName =>
    have whole {queues : QueueStore} (alone : queues.Alone tenantId queueName) :
        (queues.listing queueName).filter (fun entry => entry.tenantId = tenantId) = queues.listing queueName :=
      List.filter_eq_self.mpr fun entry member => decide_eq_true (alone entry member)
    have listings := listing_own same queueName
    rw [whole (alone queueName placed), whole (alone' queueName placed)] at listings
    dsimp only
    rw [listings]

/-- The first match of a list, where all matches are within a prefix. -/
theorem find?_take {α : Type} {items : List α} {n : Nat} {p : α → Bool} (within : ∀ a ∈ items, p a = true → a ∈ items.take n) :
    (items.take n).find? p = items.find? p := by
  conv => rhs; rw [← List.take_append_drop n items, List.find?_append]
  cases found : (items.take n).find? p with
  | some a => rfl
  | none =>
    symm
    rw [Option.none_or, List.find?_eq_none]
    intro a member holds
    have early := within a (List.mem_of_mem_drop member) holds
    exact List.find?_eq_none.mp found a early holds

theorem find?_visible (visible : queues.Visible tenantId jobType cronPattern jobId queueName) :
    ((queues.listing queueName).take 101).find?
        (fun entry => QueueService.isToRemove jobType cronPattern jobId tenantId entry.job) =
      ((queues.listing queueName).filter fun entry => entry.tenantId = tenantId).find?
        fun entry => QueueService.isToRemove jobType cronPattern jobId tenantId entry.job := by
  rw [find?_take fun entry member matches_ => (visible entry member matches_).2, List.find?_filter]
  refine List.find?_congr fun entry member => ?_
  cases matches_ : QueueService.isToRemove jobType cronPattern jobId tenantId entry.job with
  | false => simp
  | true => simp [(visible entry member matches_).1]

theorem stopRecurringJob_same (same : queues.SameFor tenantId queues')
    (visible : ∀ queueName, getQueueName jobType = some queueName →
      queues.Visible tenantId jobType cronPattern jobId queueName)
    (visible' : ∀ queueName, getQueueName jobType = some queueName →
      queues'.Visible tenantId jobType cronPattern jobId queueName) :
    (QueueService.stopRecurringJob queues jobType cronPattern jobId tenantId).1 =
        (QueueService.stopRecurringJob queues' jobType cronPattern jobId tenantId).1 ∧
      (QueueService.stopRecurringJob queues jobType cronPattern jobId tenantId).2.SameFor tenantId
        (QueueService.stopRecurringJob queues' jobType cronPattern jobId tenantId).2 := by
  unfold QueueService.stopRecurringJob
  cases placed : getQueueName jobType with
  | none => exact ⟨rfl, same⟩
  | some queueName =>
    dsimp only
    rw [find?_visible (visible queueName placed), find?_visible (visible' queueName placed), listing_own same]
    cases ((queues'.listing queueName).filter fun entry => entry.tenantId = tenantId).find?
        fun entry => QueueService.isToRemove jobType cronPattern jobId tenantId entry.job with
    | none => exact ⟨rfl, same⟩
    | some jobToRemove =>
      refine ⟨rfl, same.now, same.inflight, same.staged, ?_⟩
      dsimp only
      rw [List.filter_comm, same.repeats, List.filter_comm]

end Repeats

section Requests

variable {tenantId : TenantId} {bull : Repeater} {s s' : Backend} {call : JobsCall}

open JobsController

/-- A user of the tenant sends the request. -/
def JobsCall.By (call : JobsCall) (tenantId : TenantId) (s : Backend) : Prop :=
  ∃ session user, call.token = some session ∧ s.auth.user? session.sub = some user ∧ user.tenantId = some tenantId

/-- A valid new job has a key that no other tenant's job holds; a listing by an admin is of a queue in which the others have
    no repeatable job; and what an admin's request to stop a job matches is the tenant's and among the first 101. -/
def Backend.Apart (s : Backend) (tenantId : TenantId) (role : UserRole) : JobsRequest → Prop
  | .createJob dto | .schedule dto => dto.validate.toBool = true → s.db.Unheld tenantId dto.idempotencyKey
  | .listRecurring jobType =>
    role = .ADMIN → ∀ queueName, getQueueName jobType = some queueName → s.queues.Alone tenantId queueName
  | .stopRecurring jobType cronPattern jobId =>
    role = .ADMIN → ∀ queueName, getQueueName jobType = some queueName →
      s.queues.Visible tenantId jobType cronPattern jobId queueName
  | .getJob _ | .listJobs _ | .retry _ => True

/-- Each request of a sequence comes from a user of the tenant, to a backend in which it meets no other tenant's data. -/
def Backend.AllApart (bull : Repeater) (tenantId : TenantId) : Backend → List JobsCall → Prop
  | _, [] => True
  | s, call :: later =>
    call.By tenantId s ∧ (∀ user, caller s call = .ok (some user) → s.Apart tenantId user.user.role call.request) ∧
      Backend.AllApart bull tenantId (handle bull s call).2 later

theorem private_route (request : JobsRequest) : request.route.isPublic = false := by cases request <;> rfl

theorem Backend.SameFor.caller_same (same : s.SameFor tenantId s') (by_ : call.By tenantId s) :
    caller s call = caller s' call := by
  obtain ⟨session, user, given, found, own⟩ := by_
  have signed := same.tokens session ⟨user, found, own⟩
  have found' : s'.auth.user? session.sub = some user := by
    have users := same.users session.sub
    rw [found, Option.filter_some, if_pos (decide_eq_true own)] at users
    exact (Option.filter_eq_some_iff.mp users.symm).1
  have loads : s.auth.load user = s'.auth.load user := by
    simp only [AuthDb.load, own, Option.bind_some, same.tenant]
  have passes : JwtAuthGuard.canActivate s.auth s.tokens call.request.route call.token =
      JwtAuthGuard.canActivate s'.auth s'.tokens call.request.route call.token := by
    simp only [JwtAuthGuard.canActivate, private_route, given, signed, found, found', loads]
  unfold caller
  rw [passes]

/-- The guards let through the user itself. -/
theorem caller_loaded {found : Option LoadedUser} (by_ : call.By tenantId s) (passed : caller s call = .ok found) :
    ∃ user, found = some (s.auth.load user) ∧ user.tenantId = some tenantId := by
  obtain ⟨session, user, given, exists_, own⟩ := by_
  refine ⟨user, ?_, own⟩
  simp only [caller, JwtAuthGuard.canActivate, private_route, given, exists_, Bool.false_eq_true, if_false] at passed
  by_cases signed : session ∈ s.tokens
  · simp only [signed, if_true] at passed
    cases guarded : RoleGuard.canActivate call.request.route (some (s.auth.load user)) with
    | error error =>
      rw [guarded] at passed
      cases passed
    | ok _ =>
      rw [guarded] at passed
      exact (Except.ok.inj passed).symm
  · simp only [signed, if_false] at passed
    cases passed

theorem Backend.SameFor.serving (same : s.SameFor tenantId s') {env : Env} {program : ServiceProgram Job}
    {reply : Job → JobsReply}
    (coupled : Coupled (serve env (QueueStore.submitJob bull)) (serve env (QueueStore.submitJob bull)) (SameStores tenantId)
      program (s.db, s.queues) (s'.db, s'.queues)) :
    (JobsController.serving bull s env program reply).1 = (JobsController.serving bull s' env program reply).1 ∧
      (JobsController.serving bull s env program reply).2.SameFor tenantId (JobsController.serving bull s' env program reply).2 := by
  obtain ⟨ends, left⟩ := coupled
  unfold JobsController.serving
  cases ran : program.run (serve env (QueueStore.submitJob bull)) (s.db, s.queues) with
  | mk outcome p =>
    cases ran' : program.run (serve env (QueueStore.submitJob bull)) (s'.db, s'.queues) with
    | mk outcome' p' =>
      rw [ran, ran'] at ends left
      dsimp only at ends left
      subst ends
      cases outcome <;> exact ⟨rfl, same.users, same.tenant, same.tokens, left.1, left.2⟩

theorem Backend.SameFor.createAndEnqueue (same : s.SameFor tenantId s') (env : Env) (dto : CreateJobDto) (userId : UserId)
    (reply : JobResponse → JobsReply) (apart : dto.validate.toBool = true → s.db.Unheld tenantId dto.idempotencyKey)
    (apart' : dto.validate.toBool = true → s'.db.Unheld tenantId dto.idempotencyKey) :
    (JobsController.createAndEnqueue bull s env dto userId tenantId reply).1 =
        (JobsController.createAndEnqueue bull s' env dto userId tenantId reply).1 ∧
      (JobsController.createAndEnqueue bull s env dto userId tenantId reply).2.SameFor tenantId
        (JobsController.createAndEnqueue bull s' env dto userId tenantId reply).2 := by
  unfold JobsController.createAndEnqueue
  cases valid : dto.validate with
  | error error => exact ⟨rfl, same⟩
  | ok _ =>
    rw [valid] at apart apart'
    exact same.serving (coupled_createAndEnqueue dto userId ⟨⟨same.db, same.queues⟩, apart rfl, apart' rfl⟩)

theorem Backend.SameFor.dispatch (same : s.SameFor tenantId s') {user : LoadedUser} {tenant : Tenant} (own : tenant.id = tenantId)
    (env : Env) {request : JobsRequest} (apart : s.Apart tenantId user.user.role request)
    (apart' : s'.Apart tenantId user.user.role request) :
    (JobsController.dispatch bull s user tenant env request).1 = (JobsController.dispatch bull s' user tenant env request).1 ∧
      (JobsController.dispatch bull s user tenant env request).2.SameFor tenantId
        (JobsController.dispatch bull s' user tenant env request).2 := by
  subst own
  unfold JobsController.dispatch
  cases request with
  | createJob dto | schedule dto => exact same.createAndEnqueue env _ _ _ apart apart'
  | listRecurring jobType =>
    dsimp only
    split
    · exact ⟨rfl, same⟩
    · rename_i admin
      have admin := not_not.mp admin
      rw [listRecurringJobs_same same.queues (apart admin) (apart' admin)]
      exact ⟨rfl, same⟩
  | stopRecurring jobType cronPattern jobId =>
    dsimp only
    split
    · exact ⟨rfl, same⟩
    · rename_i admin
      have admin := not_not.mp admin
      split
      · exact ⟨rfl, same⟩
      · obtain ⟨replies, left⟩ := stopRecurringJob_same same.queues (apart admin) (apart' admin)
        rw [replies]
        exact ⟨rfl, same.users, same.tenant, same.tokens, same.db, left⟩
  | getJob id =>
    dsimp only
    rw [same.db.getJobById id]
    exact ⟨rfl, same⟩
  | listJobs filters =>
    dsimp only
    rw [same.db.listJobs env filters]
    exact ⟨rfl, same⟩
  | retry id => exact same.serving (coupled_retryFailedJob id user.user.id ⟨same.db, same.queues⟩)

/-- One request of the tenant. -/
theorem Backend.SameFor.handle (same : s.SameFor tenantId s') (bull : Repeater) (by_ : call.By tenantId s)
    (apart : ∀ user, caller s call = .ok (some user) → s.Apart tenantId user.user.role call.request)
    (apart' : ∀ user, caller s' call = .ok (some user) → s'.Apart tenantId user.user.role call.request) :
    (JobsController.handle bull s call).1 = (JobsController.handle bull s' call).1 ∧
      (JobsController.handle bull s call).2.SameFor tenantId (JobsController.handle bull s' call).2 := by
  unfold JobsController.handle
  rw [← same.caller_same by_] at apart' ⊢
  cases passed : caller s call with
  | error error => exact ⟨rfl, same⟩
  | ok found =>
    obtain ⟨user, rfl, own⟩ := caller_loaded by_ passed
    dsimp only
    cases known : (s.auth.load user).tenant with
    | none =>
      have unknown : authUser (some (s.auth.load user)) = .error (typeError "Cannot read properties of null (reading 'id')") := by
        simp only [authUser, known]
      rw [unknown]
      exact ⟨rfl, same⟩
    | some tenant =>
      have named : tenant.id = tenantId := by
        simp only [AuthDb.load, own, Option.bind_some] at known
        simpa using List.find?_some known
      have identified : authUser (some (s.auth.load user)) = .ok (s.auth.load user, tenant) := by
        simp only [authUser, known]
      rw [identified]
      exact same.dispatch named call.env (apart _ passed) (apart' _ passed)

/-- Two backends that agree on a tenant reply alike to its requests, as long as none of them meets another tenant's data. -/
theorem tenant_noninterference (bull : Repeater) (tenantId : TenantId) (calls : List JobsCall) (s s' : Backend)
    (same : s.SameFor tenantId s') (apart : s.AllApart bull tenantId calls) (apart' : s'.AllApart bull tenantId calls) :
    (handleAll bull s calls).1 = (handleAll bull s' calls).1 := by
  induction calls generalizing s s' with
  | nil => rfl
  | cons call later ih =>
    obtain ⟨replies, left⟩ := same.handle bull apart.1 apart.2.1 apart'.2.1
    have rest := ih _ _ left apart.2.2 apart'.2.2
    simp only [handleAll, replies, rest]

end Requests

section Examples

open JobsController

/-- Runs follow each other by a minute, whatever the pattern. -/
def minutely : Repeater where
  nextRun _ now := .ok (now + 60000)
  key name id pattern := name ++ ":" ++ id.getD "" ++ ":::" ++ pattern

def adminUser : User := { id := "u", name := "", email := "", password := "", role := .ADMIN, tenantId := some "t" }

def adminSession : Session := { sub := "u", email := "", role := .ADMIN, tenantId := some "t" }

/-- A tenant without jobs, next to the jobs and repeatable jobs of another tenant. -/
def nextTo (others : List Job) (repeats : List Repeat) : Backend where
  auth := { tenants := [{ id := "t", name := "" }], users := [adminUser], drawn := 0 }
  tokens := [adminSession]
  db := { Db.empty with jobs := others, drawn := 1 }
  queues := { redis := .empty, repeats := repeats }

def otherJob : Job :=
  { type := "send_email", tenantId := "o", userId := "v", id := 0, createdAt := 0, idempotencyKey := some "k" }

def otherRepeat : Repeat :=
  { queueName := "email-jobs", tenantId := "o",
    job := { key := "r", name := "send_email", id := none, pattern := "* * * * *", next := 60000 } }

theorem same_nextTo : (nextTo [otherJob] [otherRepeat]).SameFor "t" (nextTo [] []) where
  users _ := rfl
  tenant := rfl
  tokens _ _ := Iff.rfl
  db :=
    { jobs := by decide
      attempts := fun job member => absurd member (by simp [Db.own, nextTo, otherJob])
      logs := fun job member => absurd member (by simp [Db.own, nextTo, otherJob])
      recurring := rfl
      drawn := rfl
      first := ⟨by decide, by decide, by decide, by decide⟩
      second := ⟨by decide, by decide, by decide, by decide⟩ }
  queues := ⟨rfl, rfl, rfl, rfl⟩

def adminCall (request : JobsRequest) : JobsCall := { token := some adminSession, request := request, env := Env.plain }

/-- A job is created and then shown. -/
def createThenShow : List JobsCall :=
  [adminCall (.createJob { jobType := "send_email", metadata := [] }), adminCall (.getJob 1)]

theorem tenant_noninterference_nextTo : (nextTo [otherJob] [otherRepeat]).db.jobs ≠ (nextTo [] []).db.jobs ∧
    (handleAll minutely (nextTo [otherJob] [otherRepeat]) createThenShow).1 = (handleAll minutely (nextTo [] []) createThenShow).1 := by
  have apart {others : List Job} {repeats : List Repeat}
      (stays : (handle minutely (nextTo others repeats) (adminCall (.createJob { jobType := "send_email", metadata := [] }))).2.auth.user?
        "u" = some adminUser) : (nextTo others repeats).AllApart minutely "t" createThenShow := by
    refine ⟨⟨adminSession, adminUser, rfl, rfl, rfl⟩, fun user _ _ job _ given => ?_, ⟨adminSession, adminUser, rfl, stays, rfl⟩,
      fun _ _ => trivial, trivial⟩
    cases given
  exact ⟨by decide, tenant_noninterference minutely "t" _ _ _ same_nextTo (apart (by decide +kernel)) (apart (by decide +kernel))⟩

/-- An admin is shown the repeatable jobs of all tenants, and a key that another tenant has used is refused. -/
theorem tenant_interference : ∃ s s' : Backend, s.SameFor "t" s' ∧
    (∃ call : JobsCall, call.request = .listRecurring "send_email" ∧ call.By "t" s ∧
      (handleAll minutely s [call]).1 ≠ (handleAll minutely s' [call]).1) ∧
    ∃ call : JobsCall, call.request.route = .createJob ∧ call.By "t" s ∧
      (handleAll minutely s [call]).1 ≠ (handleAll minutely s' [call]).1 := by
  refine ⟨nextTo [otherJob] [otherRepeat], nextTo [] [], same_nextTo,
    ⟨adminCall (.listRecurring "send_email"), rfl, ⟨adminSession, adminUser, rfl, rfl, rfl⟩, by decide +kernel⟩,
    adminCall (.createJob { jobType := "send_email", metadata := [], idempotencyKey := some "k" }), rfl,
    ⟨adminSession, adminUser, rfl, rfl, rfl⟩, by decide +kernel⟩

end Examples

end OrchestrateModel
