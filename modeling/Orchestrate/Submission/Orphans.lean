import Orchestrate.Admission.Batch
import Orchestrate.Submission.Submitting
import Orchestrate.Workflow.Events

namespace OrchestrateModel

open Effect Program ChainService BatchJobService JobsService

/-- The calls that write a row as QUEUED or SCHEDULED and submit it then. -/
inductive EntryPoint : Type where
  | createAndEnqueue (dto : CreateJobDto) (userId : UserId) (tenantId : TenantId)
  | submitBatch (items : List BatchJobItem) (userId : UserId) (tenantId : TenantId)
  | retryFailedJob (jobId : JobId) (userId : UserId) (tenantId : TenantId)
  | createWorkFlow (items : List WorkFlowItem) (userId : UserId) (tenantId : TenantId)
  | onJobCompleted (jobId : JobId)
  | handleParentFailure (jobId : JobId)

/-- The call, without its reply. -/
def EntryPoint.program : EntryPoint → ServiceProgram Unit
  | .createAndEnqueue dto userId tenantId => (JobsService.createAndEnqueue dto userId tenantId).bind fun _ => .done ()
  | .submitBatch items userId tenantId => (BatchJobService.submitBatch items userId tenantId).bind fun _ => .done ()
  | .retryFailedJob jobId userId tenantId => (JobsService.retryFailedJob jobId userId tenantId).bind fun _ => .done ()
  | .createWorkFlow items userId tenantId => (ChainService.createWorkFlow items userId tenantId).bind fun _ => .done ()
  | .onJobCompleted jobId => ChainService.onJobCompleted jobId
  | .handleParentFailure jobId => ChainService.handleParentFailure jobId

def Job.Awaits (job : Job) : Prop := job.status = .QUEUED ∨ job.status = .SCHEDULED

instance : DecidablePred Job.Awaits := fun _ => inferInstanceAs (Decidable (_ ∨ _))

/-- Each row that has become QUEUED or SCHEDULED has a live entry. -/
def Carried (db db' : Db) (st : Store) : Prop :=
  ∀ id job, db'.job? id = some job → job.Awaits → db.status id ≠ some job.status → st.Live job.tenantId id

/-- No row that a call leaves QUEUED or SCHEDULED is without a live entry once it has returned or thrown. -/
def NoOrphan (env : Env) (entry : EntryPoint) (db : Db) (s : FaultyStore) : Prop :=
  let final := (entry.program.run (serve env FaultyStore.submitJob) (db, s)).2
  Carried db final.1 final.2.2

/-- Row ids are distinct, and have been drawn. -/
structure Db.Numbered (db : Db) : Prop where
  keyed : db.Keyed
  ids : ∀ job ∈ db.jobs, job.id < db.drawn

/-- A row whose payload is submitted next gets an entry: its type resolves, and `submitJob` takes the payload; or it
    has one. -/
def Enters (job : Job) (payload : String → JobQueuePayload) (s : FaultyStore) : Prop :=
  s.2.Live job.tenantId job.id ∨
    ∃ queueName, resolveQueueName job.type = .ok queueName ∧ FaultyStore.Takes (payload queueName) s

/-- `scheduleNextJob` picks the job. -/
def Db.Next (db : Db) (env : Env) (workFlowId : WorkFlowId) (job : Job) : Prop :=
  ¬ db.Active workFlowId ∧ db.pick env workFlowId = some (some job.id) ∧ db.job? job.id = some job

def NextEnters (env : Env) (db : Db) (workFlowId : WorkFlowId) (s : FaultyStore) : Prop :=
  ∀ job, db.Next env workFlowId job → Enters job (candidatePayload job) s

/-- The items that `submitJob` accepts get an entry. -/
def BatchEnters (env : Env) (batchId : Nat) (userId : UserId) (tenantId : TenantId) :
    List BatchJobItem → Db → FaultyStore → Prop
  | [], _, _ => True
  | item :: rest, db, s =>
    let columns := BatchJobService.itemColumns userId tenantId item env.now
    let row := newRow env db columns
    db.holdsKey item.idempotencyKey = false → ∀ queueName, resolveQueueName item.type = .ok queueName →
      ∀ status s', FaultyStore.submitJob s (itemPayload batchId tenantId item row queueName) = (.ok status, s') →
        (s.2.Live tenantId row.id ∨ FaultyStore.Takes (itemPayload batchId tenantId item row queueName) s) ∧
          BatchEnters env batchId userId tenantId rest (db.insertJob (env.createdAt db.drawn) columns) s'

/-- The loop of `handleParentFailure`. -/
def skipChildren (jobId : JobId) : ServiceProgram Unit :=
  (DepRepo.findByParent jobId).bind fun deps => forEach deps fun dep => skipChild dep.2

/-- What a call submits gets an entry. -/
def EntryPoint.Enters (env : Env) (db : Db) (s : FaultyStore) : EntryPoint → Prop
  | .createAndEnqueue dto userId tenantId =>
    let saved := recurringSaved db dto userId tenantId
    let row := newRow env saved.2 (rowColumns dto userId tenantId saved.1 env.now)
    db.holdsKey dto.idempotencyKey = false → OrchestrateModel.Enters row (rowPayload row userId tenantId saved.1) s
  | .submitBatch items userId tenantId =>
    BatchJobService.validate items = .ok () →
      BatchEnters env db.drawn userId tenantId (items.insertionSort fun a b => itemRank a ≤ itemRank b)
        { db with drawn := db.drawn + 1 } s
  | .retryFailedJob jobId userId tenantId =>
    ∀ job, db.job? jobId = some job → job.tenantId = tenantId → job.status = .FAILED →
      OrchestrateModel.Enters job (retryPayload job userId tenantId) s
  | .createWorkFlow items userId tenantId =>
    ∀ prepared db₁ s₁, (prepare items userId tenantId).run (serve env FaultyStore.submitJob) (db, s) =
      (.ok prepared, db₁, s₁) → NextEnters env db₁ prepared.1 s
  | .onJobCompleted jobId =>
    ∀ workFlowId, db.workFlowOf jobId = some workFlowId →
      NextEnters env ((unlockChildren jobId).run (serve env FaultyStore.submitJob) (db, s)).2.1 workFlowId s
  | .handleParentFailure jobId =>
    ∀ workFlowId, db.workFlowOf jobId = some workFlowId →
      NextEnters env ((skipChildren jobId).run (serve env FaultyStore.submitJob) (db, s)).2.1 workFlowId s

section Rows

variable {env : Env} {db db' db₁ : Db} {s : FaultyStore} {st : Store} {row : Job} {x : JobId}

theorem carried_same (same : ∀ id, db'.status id = db.status id) : Carried db db' st := by
  intro id job found _ changed
  have standing : db'.status id = some job.status := by simp [Db.status, found]
  rw [same] at standing
  exact absurd standing changed

/-- One row has become QUEUED or SCHEDULED. -/
theorem carried_iff_live (found : db'.job? x = some row) (awaits : row.Awaits) (changed : db.status x ≠ some row.status)
    (others : ∀ id job, db'.job? id = some job → job.Awaits → id ≠ x → db.status id = some job.status) :
    Carried db db' st ↔ st.Live row.tenantId x := by
  constructor
  · intro carried
    exact carried x row found awaits changed
  · intro live id job present waits left
    by_cases same : id = x
    · subst same
      obtain rfl := Option.some.inj (found.symm.trans present)
      exact live
    · exact absurd (others id job present waits same) left

/-- The gate after the submission of a row's payload. -/
theorem live_offered (row : Job) {payload : String → JobQueuePayload} (own : ∀ queueName, (payload queueName).jobId = row.id)
    (tenant : ∀ queueName, (payload queueName).tenantId = row.tenantId) (s : FaultyStore) :
    (offered FaultyStore.submitJob row.type payload s).2.Live row.tenantId row.id ↔ Enters row payload s := by
  unfold offered Enters
  cases resolved : resolveQueueName row.type with
  | error error => simp
  | ok queueName =>
    dsimp only
    rw [FaultyStore.live_submitJob _ _ fun _ => tenant queueName, own queueName]
    simp

theorem run_enqueueRow_gate {α : Type} (type : String) (payload : String → JobQueuePayload) (result : JobStatus → α) :
    ((enqueueRow type payload result).run (serve env FaultyStore.submitJob) (db, s)).2.2 =
      offered FaultyStore.submitJob type payload s := by
  rw [run_enqueueRow]
  unfold offered
  cases resolveQueueName type with
  | error error => rfl
  | ok queueName =>
    dsimp only
    cases FaultyStore.submitJob s (payload queueName) with
    | mk answer s' => cases answer <;> rfl

/-- Only the reply of a call is dropped. -/
theorem run_unit {α : Type} (program : ServiceProgram α) :
    ((program.bind fun _ => (.done () : ServiceProgram Unit)).run (serve env FaultyStore.submitJob) (db, s)).2 =
      (program.run (serve env FaultyStore.submitJob) (db, s)).2 := by
  rw [run_bind]
  cases program.run (serve env FaultyStore.submitJob) (db, s) with
  | mk outcome s' => cases outcome <;> rfl

namespace Db.Numbered

theorem unborn (numbered : db.Numbered) {id : JobId} (new : db.drawn ≤ id) : db.job? id = none := by
  rw [Db.job?, List.find?_eq_none]
  intro job member same
  have drawn := numbered.ids job member
  have own : job.id = id := by simpa using same
  rw [own] at drawn
  exact absurd drawn (Nat.not_lt.mpr new)

theorem job?_insertJob (numbered : db.Numbered) (createdAt : Nat) (columns : JobColumns) (id : JobId) :
    (db.insertJob createdAt columns).job? id =
      if id = db.drawn then some { columns with id := db.drawn, createdAt := createdAt } else db.job? id := by
  have appended : (db.insertJob createdAt columns).job? id =
      (db.job? id).or (if db.drawn = id then some { columns with id := db.drawn, createdAt := createdAt } else none) := by
    simp only [Db.insertJob, Db.job?, List.find?_append, List.find?_cons, List.find?_nil]
    by_cases here : db.drawn = id <;> simp [here]
  rw [appended]
  by_cases here : id = db.drawn
  · subst here
    rw [numbered.unborn (Nat.le_refl _)]
    simp
  · rw [if_neg fun same => here same.symm, if_neg here, Option.or_none]

theorem insertJob (numbered : db.Numbered) (createdAt : Nat) (columns : JobColumns) :
    (db.insertJob createdAt columns).Numbered := by
  constructor
  · have ids : (db.insertJob createdAt columns).jobs.map (·.id) = db.jobs.map (·.id) ++ [db.drawn] := by
      simp [Db.insertJob]
    rw [Db.Keyed, ids, List.nodup_append]
    refine ⟨numbered.keyed, by simp, ?_⟩
    intro old oldMember new newMember same
    obtain ⟨job, member, rfl⟩ := List.mem_map.mp oldMember
    obtain rfl := List.mem_singleton.mp newMember
    exact absurd same (Nat.ne_of_lt (numbered.ids job member))
  · intro job member
    show job.id < db.drawn + 1
    rcases List.mem_append.mp member with old | new
    · exact Nat.lt_succ_of_lt (numbered.ids job old)
    · rw [List.mem_singleton.mp new]
      exact Nat.lt_succ_self _

end Db.Numbered

end Rows

section Jobs

variable {env : Env} {db : Db} {s : FaultyStore}

theorem recurringSaved_same (db : Db) (dto : CreateJobDto) (userId : UserId) (tenantId : TenantId) :
    (recurringSaved db dto userId tenantId).2.jobs = db.jobs ∧ db.drawn ≤ (recurringSaved db dto userId tenantId).2.drawn := by
  unfold recurringSaved
  split
  · exact ⟨rfl, Nat.le_succ _⟩
  · exact ⟨rfl, Nat.le_refl _⟩

theorem job?_of_jobs {db db' : Db} (same : db'.jobs = db.jobs) (id : JobId) : db'.job? id = db.job? id := by
  rw [Db.job?, same, Db.job?]

theorem createAndEnqueue_orphans (numbered : db.Numbered) (dto : CreateJobDto) (userId : UserId) (tenantId : TenantId) :
    NoOrphan env (.createAndEnqueue dto userId tenantId) db s ↔
      EntryPoint.Enters env db s (.createAndEnqueue dto userId tenantId) := by
  obtain ⟨jobs, later⟩ := recurringSaved_same db dto userId tenantId
  have saved : (recurringSaved db dto userId tenantId).2.Numbered := by
    refine ⟨by rw [Db.Keyed, jobs]; exact numbered.keyed, ?_⟩
    rw [jobs]
    exact fun job member => Nat.lt_of_lt_of_le (numbered.ids job member) later
  simp only [NoOrphan, EntryPoint.program, EntryPoint.Enters]
  rw [run_unit, run_createAndEnqueue]
  dsimp only
  by_cases taken : db.holdsKey dto.idempotencyKey = true
  · rw [if_pos taken]
    simp only [taken, Bool.true_eq_false, false_implies, iff_true]
    exact carried_same fun id => by rw [Db.status, job?_of_jobs jobs, Db.status]
  · rw [if_neg taken, run_enqueueRow_db, run_enqueueRow_gate]
    rw [Bool.not_eq_true] at taken
    simp only [taken, forall_const]
    set recurring := recurringSaved db dto userId tenantId
    set row := newRow env recurring.2 (rowColumns dto userId tenantId recurring.1 env.now)
    have rows := saved.job?_insertJob (env.createdAt recurring.2.drawn) (rowColumns dto userId tenantId recurring.1 env.now)
    have found := rows recurring.2.drawn
    rw [if_pos rfl] at found
    have awaits : row.Awaits := by
      show (if nonzero dto.delayMs || truthy dto.cron then JobStatus.SCHEDULED else .QUEUED) = .QUEUED ∨
        (if nonzero dto.delayMs || truthy dto.cron then JobStatus.SCHEDULED else .QUEUED) = .SCHEDULED
      split
      · exact .inr rfl
      · exact .inl rfl
    have unborn : db.status recurring.2.drawn = none := by
      rw [Db.status, numbered.unborn later, Option.map_none]
    rw [carried_iff_live found awaits (by simp [unborn])]
    · exact live_offered row (fun _ => rfl) (fun _ => rfl) s
    · intro id job present _ other
      rw [rows, if_neg other, job?_of_jobs jobs] at present
      simp [Db.status, present]

theorem retryFailedJob_orphans (jobId : JobId) (userId : UserId) (tenantId : TenantId) :
    NoOrphan env (.retryFailedJob jobId userId tenantId) db s ↔
      EntryPoint.Enters env db s (.retryFailedJob jobId userId tenantId) := by
  simp only [NoOrphan, EntryPoint.program, EntryPoint.Enters]
  rw [run_unit]
  rcases run_retryFailedJob env FaultyStore.submitJob db s jobId userId tenantId with
    ⟨unfit, error, ran⟩ | ⟨job, done, row, tenant, failed, ran⟩
  · rw [ran]
    refine iff_of_true (carried_same fun _ => rfl) ?_
    intro job row tenant failed
    exact absurd ⟨job, row, tenant, failed⟩ unfit
  · rw [ran]
    dsimp only
    obtain rfl := Db.id_of_job? row
    subst tenant
    have found := Db.job?_updateJob db job.id job.id { status := some .QUEUED }
    rw [if_pos rfl, row, Option.map_some] at found
    have standing : db.status job.id = some .FAILED := by simp [Db.status, row, failed]
    rw [carried_iff_live found (.inl rfl) (by simp [standing, Job.change])]
    · constructor
      · intro live other present _ _
        obtain rfl := Option.some.inj (row.symm.trans present)
        exact (live_offered job (fun _ => rfl) (fun _ => rfl) s).mp live
      · intro enters
        exact (live_offered job (fun _ => rfl) (fun _ => rfl) s).mpr (enters job row rfl failed)
    · intro id other present _ apart
      rw [Db.job?_updateJob, if_neg apart] at present
      simp [Db.status, present]

end Jobs

section Workflows

variable {env : Env} {db db₁ : Db} {s : FaultyStore} {workFlowId : WorkFlowId}

theorem offer_snd {γ : Type} (gate : γ → JobQueuePayload → Except Err JobStatus × γ) (job : Job) (db : Db) (g : γ) :
    (offer gate job db g).2 =
      (db.updateJob job.id { status := some .QUEUED }, offered gate job.type (candidatePayload job) g) := by
  unfold offer offered
  cases resolveQueueName job.type with
  | error error => rfl
  | ok queueName =>
    dsimp only
    cases gate g (candidatePayload job queueName) with
    | mk answer g' => cases answer <;> rfl

/-- `scheduleNextJob`, after steps that made no row QUEUED or SCHEDULED, and none READY that was QUEUED. -/
theorem schedule_orphans (waits : ∀ id job, db₁.job? id = some job → job.Awaits → db.status id = some job.status)
    (fresh : ∀ id, db₁.status id = some .READY → db.status id ≠ some .QUEUED) {final : Outcome Err Unit × Db × FaultyStore}
    (scheduled : Scheduled env FaultyStore.submitJob workFlowId db₁ s final) :
    Carried db final.2.1 final.2.2.2 ↔ NextEnters env db₁ workFlowId s := by
  have unchanged : Carried db db₁ s.2 := fun id job found awaits left => absurd (waits id job found awaits) left
  cases scheduled with
  | busy active => exact iff_of_true unchanged fun job next => absurd active next.1
  | endless idle picked =>
    refine iff_of_true unchanged fun job next => ?_
    have chosen := next.2.1
    rw [picked] at chosen
    cases chosen
  | nothing idle picked =>
    refine iff_of_true unchanged fun job next => ?_
    have chosen := next.2.1
    rw [picked] at chosen
    cases chosen
  | next idle job picked row ready =>
    rw [offer_snd]
    dsimp only
    have found := Db.job?_updateJob db₁ job.id job.id { status := some .QUEUED }
    rw [if_pos rfl, row, Option.map_some] at found
    have standing : db₁.status job.id = some .READY := by simp [Db.status, row, ready]
    rw [carried_iff_live found (.inl rfl) (fresh job.id standing)]
    · constructor
      · intro live other next
        obtain ⟨_, chosen, present⟩ := next
        have same : job.id = other.id := Option.some.inj (Option.some.inj (picked.symm.trans chosen))
        rw [← same, row] at present
        obtain rfl := Option.some.inj present
        exact (live_offered job (fun _ => rfl) (fun _ => rfl) s).mp live
      · intro enters
        exact (live_offered job (fun _ => rfl) (fun _ => rfl) s).mpr (enters job ⟨idle, picked, row⟩)
    · intro id other present awaits apart
      rw [Db.job?_updateJob, if_neg apart] at present
      exact waits id other present awaits

theorem run_onJobCompleted_unlocked {jobId : JobId} {db₁ : Db} (own : db.workFlowOf jobId = some workFlowId)
    (unlocked : (unlockChildren jobId).run (serve env FaultyStore.submitJob) (db, s) = (.ok (), db₁, s)) :
    ∃ tenantId, (onJobCompleted jobId).run (serve env FaultyStore.submitJob) (db, s) =
      (scheduleNextJob workFlowId tenantId).run (serve env FaultyStore.submitJob) (db₁, s) := by
  obtain ⟨job, row, own⟩ := Option.bind_eq_some_iff.mp own
  refine ⟨job.tenantId, ?_⟩
  simp only [onJobCompleted, bind_eq]
  rw [run_bind_ok _ (run_findOne env FaultyStore.submitJob db s jobId)]
  simp only [row, Option.bind_some, own, Option.map_some]
  rw [run_bind_ok _ unlocked]

theorem run_handleParentFailure_skipped {jobId : JobId} {db₁ : Db} (own : db.workFlowOf jobId = some workFlowId)
    (skipped : (skipChildren jobId).run (serve env FaultyStore.submitJob) (db, s) = (.ok (), db₁, s)) :
    ∃ tenantId, (handleParentFailure jobId).run (serve env FaultyStore.submitJob) (db, s) =
      (scheduleNextJob workFlowId tenantId).run (serve env FaultyStore.submitJob) (db₁, s) := by
  obtain ⟨job, row, own⟩ := Option.bind_eq_some_iff.mp own
  refine ⟨job.tenantId, ?_⟩
  simp only [handleParentFailure, bind_eq]
  rw [run_bind_ok _ (run_findOne env FaultyStore.submitJob db s jobId)]
  simp only [row, Option.bind_some, own, Option.map_some]
  rw [← bind_assoc]
  exact run_bind_ok _ skipped

theorem status_of_row {id : JobId} {job : Job} (found : db.job? id = some job) : db.status id = some job.status := by
  rw [Db.status, found, Option.map_some]

theorem onJobCompleted_orphans (numbered : db.Numbered) (jobId : JobId) :
    NoOrphan env (.onJobCompleted jobId) db s ↔ EntryPoint.Enters env db s (.onJobCompleted jobId) := by
  simp only [NoOrphan, EntryPoint.program, EntryPoint.Enters]
  cases own : db.workFlowOf jobId with
  | none =>
    rw [run_onJobCompleted_alone own]
    exact iff_of_true (carried_same fun _ => rfl) fun workFlowId same => by cases same
  | some workFlowId =>
    obtain ⟨db₁, unlocked, kept, status⟩ := run_unlockChildren env FaultyStore.submitJob db s jobId
    obtain ⟨tenantId, same⟩ := run_onJobCompleted_unlocked own unlocked
    rw [same, unlocked]
    simp only [Option.some.injEq, forall_eq']
    refine schedule_orphans ?_ ?_ (run_scheduleNextJob env FaultyStore.submitJob s (kept.keyed numbered.keyed) workFlowId tenantId)
    · intro id job found awaits
      have standing := status id
      rw [status_of_row found] at standing
      split at standing
      · rcases awaits with queued | scheduled <;> simp_all
      · exact standing.symm
    · intro id ready queued
      have standing := status id
      rw [ready] at standing
      split at standing
      · rename_i unlocks
        rw [unlocks.2.1] at queued
        cases queued
      · rw [queued] at standing
        cases standing

theorem handleParentFailure_orphans (numbered : db.Numbered) (jobId : JobId) :
    NoOrphan env (.handleParentFailure jobId) db s ↔ EntryPoint.Enters env db s (.handleParentFailure jobId) := by
  simp only [NoOrphan, EntryPoint.program, EntryPoint.Enters]
  cases own : db.workFlowOf jobId with
  | none =>
    rw [run_handleParentFailure_alone own]
    exact iff_of_true (carried_same fun _ => rfl) fun workFlowId same => by cases same
  | some workFlowId =>
    obtain ⟨db₁, ran, kept, status⟩ := run_skipChildren env FaultyStore.submitJob db s jobId
    have skipped : (skipChildren jobId).run (serve env FaultyStore.submitJob) (db, s) = (.ok (), db₁, s) :=
      (run_bind_ok _ (run_findByParent env FaultyStore.submitJob db s jobId)).trans ran
    obtain ⟨tenantId, same⟩ := run_handleParentFailure_skipped own skipped
    rw [same, skipped]
    simp only [Option.some.injEq, forall_eq']
    refine schedule_orphans ?_ ?_ (run_scheduleNextJob env FaultyStore.submitJob s (kept.keyed numbered.keyed) workFlowId tenantId)
    · intro id job found awaits
      have standing := status id
      rw [status_of_row found] at standing
      split at standing
      · rcases awaits with queued | scheduled <;> simp_all
      · exact standing.symm
    · intro id ready queued
      have standing := status id
      rw [ready] at standing
      split at standing
      · cases standing
      · rw [queued] at standing
        cases standing

/-- A row of the new workflow is READY or waits; the others are as before. -/
theorem job?_grown {rows : List Job} {links : List JobDependency} (grown : Grown db db.drawn rows links db₁) (id : JobId) :
    (∃ row, db₁.job? id = some row ∧ (row.status = .READY ∨ row.status = .WAITING_FOR_DEPENDENCIES) ∧ db.job? id = none) ∨
      db₁.job? id = db.job? id := by
  have found : db₁.job? id = (db.job? id).or (rows.find? fun job => job.id = id) := by
    rw [Db.job?, grown.jobs, List.find?_append, Db.job?]
  rw [found]
  cases old : db.job? id with
  | some job => exact .inr rfl
  | none =>
    cases new : rows.find? fun job => job.id = id with
    | none => exact .inr rfl
    | some row => exact .inl ⟨row, rfl, grown.fresh row (List.mem_of_find?_eq_some new), rfl⟩

theorem waits_grown {rows : List Job} {links : List JobDependency} (grown : Grown db db.drawn rows links db₁) :
    ∀ id job, db₁.job? id = some job → job.Awaits → db.status id = some job.status := by
  intro id job present awaits
  rcases job?_grown grown id with ⟨row, found, fresh, _⟩ | same
  · obtain rfl := Option.some.inj (found.symm.trans present)
    rcases awaits with queued | scheduled <;> simp_all
  · rw [same] at present
    exact status_of_row present

theorem createWorkFlow_orphans (numbered : db.Numbered) (items : List WorkFlowItem) (userId : UserId) (tenantId : TenantId) :
    NoOrphan env (.createWorkFlow items userId tenantId) db s ↔
      EntryPoint.Enters env db s (.createWorkFlow items userId tenantId) := by
  simp only [NoOrphan, EntryPoint.program, EntryPoint.Enters]
  rw [run_unit, createWorkFlow_eq]
  rcases run_prepare env FaultyStore.submitJob db s userId tenantId items with
    ⟨error, invalid, ran⟩ | ⟨error, rows, links, db', grown, cause, ran⟩ |
      ⟨rows, links, db₁, jobMap, grown, linked, valid, ran⟩
  · rw [run_bind_thrown _ ran, ran]
    exact iff_of_true (carried_same fun _ => rfl) fun prepared db₁ s₁ same => by cases same
  · rw [run_bind_thrown _ ran, ran]
    refine iff_of_true (fun id job found awaits left => absurd (waits_grown grown id job found awaits) left) ?_
    exact fun prepared db₁ s₁ same => by cases same
  · rw [run_bind_ok _ ran, ran]
    have schedules := run_scheduleNextJob env FaultyStore.submitJob s (grown.keyed_of_drawn numbered.keyed numbered.ids)
      db.drawn tenantId
    have carried := schedule_orphans (waits_grown grown) (fun id ready queued => ?_) schedules
    · dsimp only
      rw [run_bind]
      constructor
      · intro left prepared db₂ s₁ same
        cases same
        refine carried.mp ?_
        cases result : (scheduleNextJob db.drawn tenantId).run (serve env FaultyStore.submitJob) (db₁, s) with
        | mk outcome final =>
          rw [result] at left
          cases outcome <;> exact left
      · intro enters
        have left := carried.mpr (enters _ _ _ rfl)
        cases result : (scheduleNextJob db.drawn tenantId).run (serve env FaultyStore.submitJob) (db₁, s) with
        | mk outcome final =>
          rw [result] at left
          cases outcome <;> exact left
    · rcases job?_grown grown id with ⟨row, found, _, unborn⟩ | same
      · simp [Db.status, unborn] at queued
      · rw [Db.status, same] at ready
        rw [Db.status, ready] at queued
        cases queued

end Workflows

section Batches

variable {env : Env} {db : Db} {s : FaultyStore} {batchId : Nat} {userId : UserId} {tenantId : TenantId}
  {item : BatchJobItem} {items : List BatchJobItem}

/-- The row of an item. -/
def batchRow (env : Env) (db : Db) (userId : UserId) (tenantId : TenantId) (item : BatchJobItem) : Job :=
  newRow env db (BatchJobService.itemColumns userId tenantId item env.now)

/-- All that `submitItem` can do. -/
inductive ItemRun (env : Env) (db : Db) (s : FaultyStore) (batchId : Nat) (userId : UserId) (tenantId : TenantId)
    (item : BatchJobItem) : Outcome Err BatchReply × Db × FaultyStore → Prop where
  | taken (key : db.holdsKey item.idempotencyKey = true) :
    ItemRun env db s batchId userId tenantId item (.thrown Db.duplicateKey, db, s)
  | accepted (free : db.holdsKey item.idempotencyKey = false) {queueName : String} {status : JobStatus} {s' : FaultyStore}
    (resolved : resolveQueueName item.type = .ok queueName)
    (answer : FaultyStore.submitJob s (itemPayload batchId tenantId item (batchRow env db userId tenantId item) queueName) =
      (.ok status, s')) (reply : BatchReply) :
    ItemRun env db s batchId userId tenantId item
      (.ok reply, db.insertJob (env.createdAt db.drawn) (BatchJobService.itemColumns userId tenantId item env.now), s')
  | rejected (free : db.holdsKey item.idempotencyKey = false) (error : Err) (s' : FaultyStore)
    (refused : ∀ queueName, resolveQueueName item.type = .ok queueName → ∀ status s'',
      FaultyStore.submitJob s (itemPayload batchId tenantId item (batchRow env db userId tenantId item) queueName) ≠
        (.ok status, s''))
    (others : ∀ tenant id, id ≠ db.drawn → (s'.2.Live tenant id ↔ s.2.Live tenant id)) :
    ItemRun env db s batchId userId tenantId item
      (.thrown error,
        (db.insertJob (env.createdAt db.drawn) (BatchJobService.itemColumns userId tenantId item env.now)).updateJob
          db.drawn { status := some .FAILED }, s')

theorem run_submitItem (env : Env) (db : Db) (s : FaultyStore) (batchId : Nat) (userId : UserId) (tenantId : TenantId)
    (item : BatchJobItem) : ItemRun env db s batchId userId tenantId item
      ((submitItem batchId userId tenantId item).run (serve env FaultyStore.submitJob) (db, s)) := by
  have key : (BatchJobService.itemColumns userId tenantId item env.now).idempotencyKey = item.idempotencyKey := rfl
  rw [submitItem_eq, run_bind_ok _ (run_clock ..), run_bind, run_save, key]
  by_cases taken : db.holdsKey item.idempotencyKey = true
  · rw [if_pos taken]
    exact .taken taken
  · rw [if_neg taken]
    rw [Bool.not_eq_true] at taken
    dsimp only
    rw [run_catching, run_enqueueRow]
    have type : (newRow env db (BatchJobService.itemColumns userId tenantId item env.now)).type = item.type := rfl
    rw [type]
    cases resolved : resolveQueueName item.type with
    | error error =>
      dsimp only
      rw [run_bind_ok _ (run_update ..)]
      exact .rejected taken error s (fun queueName same => by rw [resolved] at same; cases same) fun _ _ _ => .rfl
    | ok queueName =>
      dsimp only
      have elsewhere (tenant : TenantId) (id : JobId) (other : id ≠ db.drawn) :
          (FaultyStore.submitJob s
            (itemPayload batchId tenantId item (batchRow env db userId tenantId item) queueName)).2.2.Live tenant id ↔
            s.2.Live tenant id := by
        rw [FaultyStore.live_submitJob _ _ fun same => absurd same.symm other]
        exact or_iff_left fun same => other same.1.symm
      cases answer : FaultyStore.submitJob s
          (itemPayload batchId tenantId item (batchRow env db userId tenantId item) queueName) with
      | mk result s' =>
        rw [answer] at elsewhere
        have answer' := answer
        unfold batchRow at answer'
        rw [answer']
        cases result with
        | ok status => exact .accepted taken resolved answer _
        | error error =>
          dsimp only
          rw [run_bind_ok _ (run_update ..)]
          refine .rejected taken error s' (fun other same status s'' accepted => ?_) elsewhere
          rw [resolved] at same
          obtain rfl := Except.ok.inj same
          rw [answer] at accepted
          cases accepted

/-- Rows and entries that a loop finds are as they were after it. -/
structure Older (db db' : Db) (st st' : Store) : Prop where
  rows : ∀ id, id < db.drawn → db'.job? id = db.job? id
  live : ∀ tenant id, id < db.drawn → (st'.Live tenant id ↔ st.Live tenant id)

theorem live_elsewhere {payload : JobQueuePayload} {id : JobId} (s : FaultyStore) (other : payload.jobId ≠ id)
    (tenant : TenantId) : (FaultyStore.submitJob s payload).2.2.Live tenant id ↔ s.2.Live tenant id := by
  rw [FaultyStore.live_submitJob _ _ fun same => absurd same other]
  exact or_iff_left fun same => other same.1

theorem older_insertJob (numbered : db.Numbered) (createdAt : Nat) (columns : JobColumns) {id : JobId} (old : id < db.drawn) :
    (db.insertJob createdAt columns).job? id = db.job? id := by
  rw [numbered.job?_insertJob, if_neg (Nat.ne_of_lt old)]

theorem submitItems_older (env : Env) (batchId : Nat) (userId : UserId) (tenantId : TenantId) (items : List BatchJobItem)
    (s : FaultyStore) (numbered : db.Numbered) (acc : List BatchReply) :
    Older db ((submitItems batchId userId tenantId items acc).run (serve env FaultyStore.submitJob) (db, s)).2.1 s.2
      ((submitItems batchId userId tenantId items acc).run (serve env FaultyStore.submitJob) (db, s)).2.2.2 := by
  induction items generalizing db s acc with
  | nil => exact ⟨fun _ _ => rfl, fun _ _ _ => .rfl⟩
  | cons item rest ih =>
    rw [submitItems, bind_eq, run_bind]
    have step := run_submitItem env db s batchId userId tenantId item
    cases ran : (submitItem batchId userId tenantId item).run (serve env FaultyStore.submitJob) (db, s) with
    | mk outcome final =>
      rw [ran] at step
      cases step with
      | taken key => exact ⟨fun _ _ => rfl, fun _ _ _ => .rfl⟩
      | rejected free error s' refused others =>
        refine ⟨fun id old => ?_, fun tenant id old => others tenant id (Nat.ne_of_lt old)⟩
        dsimp only
        rw [Db.job?_updateJob, if_neg (Nat.ne_of_lt old), older_insertJob numbered _ _ old]
      | @accepted free queueName status s' resolved answer reply =>
        dsimp only
        have tail := ih (s := s') (numbered.insertJob (env.createdAt db.drawn) (BatchJobService.itemColumns userId tenantId item env.now))
          (acc ++ [reply])
        refine ⟨fun id old => ?_, fun tenant id old => ?_⟩
        · rw [tail.rows id (Nat.lt_succ_of_lt old), older_insertJob numbered _ _ old]
        · have other : (itemPayload batchId tenantId item (batchRow env db userId tenantId item) queueName).jobId ≠ id :=
            Nat.ne_of_gt old
          have apart := live_elsewhere s other tenant
          rw [answer] at apart
          exact (tail.live tenant id (Nat.lt_succ_of_lt old)).trans apart

theorem batchRow_awaits (env : Env) (db : Db) (userId : UserId) (tenantId : TenantId) (item : BatchJobItem) :
    (batchRow env db userId tenantId item).Awaits := by
  show (if nonzero item.delayMs then JobStatus.SCHEDULED else .QUEUED) = .QUEUED ∨
    (if nonzero item.delayMs then JobStatus.SCHEDULED else .QUEUED) = .SCHEDULED
  split
  · exact .inr rfl
  · exact .inl rfl

/-- A row that is inserted QUEUED or SCHEDULED needs an entry of its own. -/
theorem carried_insertJob {db' : Db} {st : Store} {row : Job} (numbered : db.Numbered) (createdAt : Nat)
    (columns : JobColumns) (found : db'.job? db.drawn = some row) (awaits : row.Awaits) :
    Carried db db' st ↔ st.Live row.tenantId db.drawn ∧ Carried (db.insertJob createdAt columns) db' st := by
  have unborn : db.status db.drawn = none := by
    rw [Db.status, numbered.unborn (Nat.le_refl _), Option.map_none]
  constructor
  · intro carried
    refine ⟨carried _ _ found awaits (by simp [unborn]), fun id job present waits changed => ?_⟩
    refine carried id job present waits fun same => changed ?_
    by_cases new : id = db.drawn
    · subst new
      rw [unborn] at same
      cases same
    · rw [Db.status, numbered.job?_insertJob, if_neg new]
      exact same
  · rintro ⟨live, carried⟩ id job present waits changed
    by_cases new : id = db.drawn
    · subst new
      obtain rfl := Option.some.inj (found.symm.trans present)
      exact live
    · refine carried id job present waits ?_
      rwa [Db.status, numbered.job?_insertJob, if_neg new]

/-- The loop: a row stays when its item is accepted. -/
theorem submitItems_orphans (env : Env) (batchId : Nat) (userId : UserId) (tenantId : TenantId) (items : List BatchJobItem)
    (s : FaultyStore) (numbered : db.Numbered) (acc : List BatchReply) :
    Carried db ((submitItems batchId userId tenantId items acc).run (serve env FaultyStore.submitJob) (db, s)).2.1
        ((submitItems batchId userId tenantId items acc).run (serve env FaultyStore.submitJob) (db, s)).2.2.2 ↔
      BatchEnters env batchId userId tenantId items db s := by
  induction items generalizing db s acc with
  | nil => exact iff_of_true (carried_same fun _ => rfl) trivial
  | cons item rest ih =>
    rw [submitItems, bind_eq, run_bind]
    have step := run_submitItem env db s batchId userId tenantId item
    cases ran : (submitItem batchId userId tenantId item).run (serve env FaultyStore.submitJob) (db, s) with
    | mk outcome final =>
      rw [ran] at step
      cases step with
      | taken key =>
        refine iff_of_true (carried_same fun _ => rfl) ?_
        intro free
        rw [key] at free
        cases free
      | rejected free error s' refused others =>
        refine iff_of_true ?_ ?_
        · intro id job found awaits changed
          dsimp only at found
          rw [Db.job?_updateJob, numbered.job?_insertJob] at found
          by_cases new : id = db.drawn
          · rw [if_pos new, if_pos new] at found
            obtain rfl := Option.some.inj found
            rcases awaits with queued | scheduled
            · cases queued
            · cases scheduled
          · rw [if_neg new, if_neg new] at found
            exact absurd (status_of_row found) changed
        · intro _ queueName resolved status s'' answer
          exact absurd answer (refused queueName resolved status s'')
      | @accepted free queueName status s' resolved answer reply =>
        dsimp only
        let columns := BatchJobService.itemColumns userId tenantId item env.now
        have numbered₁ := numbered.insertJob (env.createdAt db.drawn) columns
        have older := submitItems_older env batchId userId tenantId rest s' numbered₁ (acc ++ [reply])
        have rest_ := ih (s := s') numbered₁ (acc ++ [reply])
        set final := ((submitItems batchId userId tenantId rest (acc ++ [reply])).run (serve env FaultyStore.submitJob)
          (db.insertJob (env.createdAt db.drawn) columns, s')).2
        have found : final.1.job? db.drawn = some (batchRow env db userId tenantId item) := by
          rw [older.rows _ (Nat.lt_succ_self _), numbered.job?_insertJob, if_pos rfl]
          rfl
        have enters : final.2.2.Live tenantId db.drawn ↔ (s.2.Live tenantId db.drawn ∨
            FaultyStore.Takes (itemPayload batchId tenantId item (batchRow env db userId tenantId item) queueName) s) := by
          rw [older.live _ _ (Nat.lt_succ_self _)]
          let payload := itemPayload batchId tenantId item (batchRow env db userId tenantId item) queueName
          have tenant : payload.jobId = db.drawn → payload.tenantId = tenantId := fun _ => rfl
          have offered := FaultyStore.live_submitJob s payload tenant
          rw [answer] at offered
          rw [offered]
          exact or_congr_right (and_iff_right rfl)
        rw [carried_insertJob numbered (env.createdAt db.drawn) columns found (batchRow_awaits ..)]
        have own : (batchRow env db userId tenantId item).tenantId = tenantId := rfl
        rw [own, enters, rest_]
        constructor
        · rintro ⟨entered, later⟩ _ other same status' s'' again
          obtain rfl := Except.ok.inj (resolved.symm.trans same)
          obtain ⟨_, rfl⟩ := Prod.mk.inj (answer.symm.trans again)
          exact ⟨entered, later⟩
        · intro enters
          exact enters free queueName resolved status s' answer

theorem submitBatch_orphans (numbered : db.Numbered) (items : List BatchJobItem) (userId : UserId) (tenantId : TenantId) :
    NoOrphan env (.submitBatch items userId tenantId) db s ↔
      EntryPoint.Enters env db s (.submitBatch items userId tenantId) := by
  simp only [NoOrphan, EntryPoint.program, EntryPoint.Enters]
  rw [run_unit]
  unfold submitBatch
  cases valid : validate items with
  | error error =>
    refine iff_of_true (carried_same fun _ => rfl) ?_
    intro same
    cases same
  | ok _ =>
    let drawn : Db := { db with drawn := db.drawn + 1 }
    have numbered₁ : drawn.Numbered := ⟨numbered.keyed, fun job member => Nat.lt_succ_of_lt (numbered.ids job member)⟩
    have loop := submitItems_orphans env db.drawn userId tenantId (items.insertionSort fun a b => itemRank a ≤ itemRank b) s
      numbered₁ []
    have same (db' : Db) (st : Store) : Carried db db' st ↔ Carried drawn db' st := .rfl
    rw [Program.ofExcept, bind_eq, bind_done, bind_eq, run_bind_ok _ (run_randomUUID ..), bind_eq, run_bind]
    simp only [forall_const]
    refine Iff.trans ?_ loop
    rw [← same]
    cases (submitItems db.drawn userId tenantId (items.insertionSort fun a b => itemRank a ≤ itemRank b) []).run
        (serve env FaultyStore.submitJob) (drawn, s) with
    | mk outcome final => cases outcome <;> exact .rfl

end Batches

/-- A call leaves no row QUEUED or SCHEDULED without an entry exactly when what it submits gets one. -/
theorem no_orphan_iff (env : Env) (entry : EntryPoint) {db : Db} (numbered : db.Numbered) (s : FaultyStore) :
    NoOrphan env entry db s ↔ entry.Enters env db s := by
  cases entry with
  | createAndEnqueue dto userId tenantId => exact createAndEnqueue_orphans numbered dto userId tenantId
  | submitBatch items userId tenantId => exact submitBatch_orphans numbered items userId tenantId
  | retryFailedJob jobId userId tenantId => exact retryFailedJob_orphans jobId userId tenantId
  | createWorkFlow items userId tenantId => exact createWorkFlow_orphans numbered items userId tenantId
  | onJobCompleted jobId => exact onJobCompleted_orphans numbered jobId
  | handleParentFailure jobId => exact handleParentFailure_orphans numbered jobId

theorem numbered_empty : Db.empty.Numbered := ⟨List.nodup_nil, fun _ member => absurd member List.not_mem_nil⟩

def idle : FaultyStore := (none, .empty)

theorem no_orphan_email : NoOrphan .plain (.createAndEnqueue { jobType := "send_email", metadata := [] } "u" "t") .empty idle :=
  (no_orphan_iff .plain _ numbered_empty idle).mpr fun _ => .inr ⟨"email-jobs", by rfl, by decide⟩

def unknownType : CreateJobDto := { jobType := "foo", metadata := [] }

/-- An unknown type: the row is saved before `resolveQueueName` throws. -/
theorem orphan_unknown_type :
    ((EntryPoint.createAndEnqueue unknownType "u" "t").program.run (serve .plain FaultyStore.submitJob) (.empty, idle)).1 =
        .thrown { message := "Unknown jobType: foo" } ∧
      ¬ NoOrphan .plain (.createAndEnqueue unknownType "u" "t") .empty idle := by
  refine ⟨by rfl, fun carried => ?_⟩
  have live := carried 0 (newRow .plain .empty (rowColumns unknownType "u" "t" none 0)) (by rfl) (.inl rfl) (by decide)
  revert live
  decide

end OrchestrateModel
