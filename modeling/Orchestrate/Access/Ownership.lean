import Orchestrate.Effect.Machine
import Orchestrate.Lifecycle.Execute
import Orchestrate.Lifecycle.Serves
import Orchestrate.Lifecycle.Silent
import Orchestrate.Model.Etl
import Orchestrate.Model.JobViews
import Orchestrate.Submission.Entry
import Orchestrate.Workflow.System

namespace OrchestrateModel

open Effect Program ChainService BaseProcessor

/-- The tables, and the payloads that were ever passed to `submitJob`. -/
abbrev Submissions := Db × List JobQueuePayload

/-- `submitJob`, as the record of the payloads sees it: what it answers is left to the slots and to Redis. -/
def noting (answers : JobQueuePayload → Except Err JobStatus) (submitted : List JobQueuePayload)
    (payload : JobQueuePayload) : Except Err JobStatus × List JobQueuePayload :=
  (answers payload, submitted ++ [payload])

/-- The requests that end in `submitJob`, and the parts of an attempt. -/
inductive OwnedEvent : Type where
  | create (dto : CreateJobDto) (userId : UserId) (tenantId : TenantId)
  | batch (items : List BatchJobItem) (userId : UserId) (tenantId : TenantId)
  | workflow (items : List WorkFlowItem) (userId : UserId) (tenantId : TenantId)
  | retry (jobId : JobId) (userId : UserId) (tenantId : TenantId)
  | begin_ (job : BullJob)
  | etl (data : JobQueuePayload) (attempts : Nat) (queueName : String) (pipeline : Except Err Unit)
  | finish (job : BullJob) (attempt : Attempt) (outcome : Except Err (Option String))

/-- What the database and `submitJob` answer while the event runs. -/
structure OwnedStep where
  env : Env
  answers : JobQueuePayload → Except Err JobStatus
  event : OwnedEvent

namespace Submissions

def step (fields : EtlFields) (s : Submissions) (e : OwnedStep) : Submissions :=
  let gate := noting e.answers
  match e.event with
  | .create dto userId tenantId => ((JobsService.createAndEnqueue dto userId tenantId).run (serve e.env gate) s).2
  | .batch items userId tenantId => ((BatchJobService.submitBatch items userId tenantId).run (serve e.env gate) s).2
  | .workflow items userId tenantId => ((createWorkFlow items userId tenantId).run (serve e.env gate) s).2
  | .retry jobId userId tenantId => ((JobsService.retryFailedJob jobId userId tenantId).run (serve e.env gate) s).2
  | .begin_ job => ((beginAttempt job).run (work e.env gate (.ok none)) s).2
  | .etl data attempts queueName pipeline =>
    ((ETLProcessor.process fields data attempts queueName).run (serveEtl e.env gate pipeline) s).2
  | .finish job attempt outcome => ((afterProcess job attempt outcome).run (work e.env gate outcome) s).2

/-- Each submitted payload has its row, and the row belongs to the payload's tenant. -/
def Owned (s : Submissions) : Prop :=
  ∀ payload ∈ s.2, ∃ row, s.1.job? payload.jobId = some row ∧ row.tenantId = payload.tenantId

/-- The reads of the API return a submitted job to its tenant, and to no other. -/
def Visible (s : Submissions) : Prop :=
  ∀ payload ∈ s.2, ∀ tenantId,
    ((JobsService.getJobById s.1 payload.jobId tenantId).toBool = true ↔ tenantId = payload.tenantId) ∧
    ∀ env : Env, (payload.jobId ∈ (JobsService.listJobs env.arrange s.1 tenantId {}).map (·.id) ↔ tenantId = payload.tenantId)

/-- The ETL processor submits a next job: the dependencies of its job are completed, and the pipeline succeeds. -/
def chains (fields : EtlFields) (s : Submissions) (e : OwnedStep) : Bool :=
  match e.event with
  | .etl data _ _ pipeline =>
    (fields.dependsOn data.metadata).all (fun id => (s.1.job? id).any (·.status = .COMPLETED)) && pipeline.toBool &&
      (fields.nextJob data.metadata).isSome
  | _ => false

/-- The event works for a tenant. -/
def Tenanted (_ : Submissions) (e : OwnedStep) : Prop :=
  match e.event with
  | .create _ _ tenantId | .batch _ _ tenantId | .workflow _ _ tenantId | .retry _ _ tenantId => tenantId ≠ noTenant
  | .etl data _ _ _ => data.tenantId ≠ noTenant
  | .begin_ _ | .finish _ _ _ => True

instance (s : Submissions) (e : OwnedStep) : Decidable (s.Tenanted e) :=
  match e with
  | ⟨_, _, .create _ _ tenantId⟩ | ⟨_, _, .batch _ _ tenantId⟩ | ⟨_, _, .workflow _ _ tenantId⟩
  | ⟨_, _, .retry _ _ tenantId⟩ => inferInstanceAs (Decidable (tenantId ≠ noTenant))
  | ⟨_, _, .etl data _ _ _⟩ => inferInstanceAs (Decidable (data.tenantId ≠ noTenant))
  | ⟨_, _, .begin_ _⟩ | ⟨_, _, .finish _ _ _⟩ => .isTrue trivial

/-- The row of the id belongs to the tenant. -/
def Holds (db : Db) (id : JobId) (tenantId : TenantId) : Prop := ∃ row, db.job? id = some row ∧ row.tenantId = tenantId

structure Inv (s : Submissions) : Prop where
  keyed : s.1.Keyed
  drawn : ∀ job ∈ s.1.jobs, job.id < s.1.drawn
  owned : s.Owned

/-- A payload is submitted only when its row belongs to its tenant. -/
def Grants (s : Submissions) : ServiceCall → Prop
  | .submitJob payload => Holds s.1 payload.jobId payload.tenantId
  | _ => True

theorem inv_empty : Inv (.empty, []) where
  keyed := by decide
  drawn := by simp [Db.empty]
  owned := by simp [Owned]

theorem Holds.updateJob {db : Db} {x : JobId} {tenantId : TenantId} (holds : Holds db x tenantId) (id : JobId)
    (change : JobChange) : Holds (db.updateJob id change) x tenantId := by
  obtain ⟨row, found, owner⟩ := holds
  rw [Holds, Db.job?_updateJob]
  by_cases here : x = id
  · rw [if_pos here, found]
    exact ⟨row.change change, rfl, owner⟩
  · rw [if_neg here]
    exact ⟨row, found, owner⟩

theorem Holds.append {db : Db} {x : JobId} {tenantId : TenantId} (holds : Holds db x tenantId) (row : Job)
    (drawn : Nat) : Holds { db with jobs := db.jobs ++ [row], drawn := drawn } x tenantId := by
  obtain ⟨old, found, owner⟩ := holds
  refine ⟨old, ?_, owner⟩
  have first : db.jobs.find? (fun job => job.id = x) = some old := found
  simp [Db.job?, List.find?_append, first]

/-- A new row can be found under its id. -/
theorem holds_append {db : Db} (row : Job) (new : ∀ job ∈ db.jobs, job.id ≠ row.id) (drawn : Nat) (x : JobId)
    (tenantId : TenantId) (here : x = row.id) :
    Holds { db with jobs := db.jobs ++ [row], drawn := drawn } x tenantId ↔ row.tenantId = tenantId := by
  have none : db.jobs.find? (fun job => job.id = row.id) = none := by simpa using new
  have found : Db.job? { db with jobs := db.jobs ++ [row], drawn := drawn } row.id = some row := by
    simp [Db.job?, List.find?_append, none]
  rw [Holds, here, found]
  simp

namespace Inv

variable {env : Env} {answers : JobQueuePayload → Except Err JobStatus} {s : Submissions}

/-- A row under a drawn id that no row has yet. -/
theorem append (inv : Inv s) {row : Job} (new : ∀ job ∈ s.1.jobs, job.id ≠ row.id) {drawn : Nat}
    (below : row.id < drawn) (grows : s.1.drawn ≤ drawn) :
    Inv ({ s.1 with jobs := s.1.jobs ++ [row], drawn := drawn }, s.2) where
  keyed := by
    have apart : ∀ job ∈ s.1.jobs, ¬ job.id = row.id := new
    have keyed : (s.1.jobs.map (·.id)).Nodup := inv.keyed
    show ((s.1.jobs ++ [row]).map (·.id)).Nodup
    rw [List.map_append]
    refine List.nodup_append.mpr ⟨keyed, List.nodup_singleton _, ?_⟩
    intro a old b last
    obtain ⟨job, member, rfl⟩ := List.mem_map.mp old
    obtain rfl : b = row.id := by simpa using last
    exact apart job member
  drawn := by
    intro job member
    show job.id < drawn
    rcases List.mem_append.mp member with old | last
    · exact Nat.lt_of_lt_of_le (inv.drawn job old) grows
    · obtain rfl : job = row := by simpa using last
      exact below
  owned payload member := Holds.append (inv.owned payload member) row drawn

theorem updateJob (inv : Inv s) (id : JobId) (change : JobChange) : Inv (s.1.updateJob id change, s.2) where
  keyed := (Db.kept_updateJob s.1 id change).keyed inv.keyed
  drawn := by
    intro job member
    obtain ⟨old, listed, rfl⟩ := List.mem_map.mp member
    have was := inv.drawn old listed
    show (if old.id = id then old.change change else old).id < s.1.drawn
    split <;> exact was
  owned payload member := Holds.updateJob (inv.owned payload member) id change

theorem of_jobs (inv : Inv s) {db : Db} (same : db.jobs = s.1.jobs) (grows : s.1.drawn ≤ db.drawn) : Inv (db, s.2) where
  keyed := Stores.keyed_of_jobs same inv.keyed
  drawn := by
    intro job member
    rw [same] at member
    exact Nat.lt_of_lt_of_le (inv.drawn job member) grows
  owned payload member := by
    obtain ⟨row, found, owner⟩ := inv.owned payload member
    refine ⟨row, ?_, owner⟩
    rw [← found, Db.job?, Db.job?, same]

theorem submit (inv : Inv s) {payload : JobQueuePayload} (holds : Holds s.1 payload.jobId payload.tenantId) :
    Inv (s.1, s.2 ++ [payload]) where
  keyed := inv.keyed
  drawn := inv.drawn
  owned other member := by
    rcases List.mem_append.mp member with old | last
    · exact inv.owned other old
    · obtain rfl : other = payload := by simpa using last
      exact holds

theorem fresh (inv : Inv s) : ∀ job ∈ s.1.jobs, job.id ≠ s.1.drawn := by
  intro job member
  exact Nat.ne_of_lt (inv.drawn job member)

/-- Each call of the services keeps the invariant. -/
theorem serve (inv : Inv s) {c : ServiceCall} (grants : Grants s c) :
    Inv (OrchestrateModel.serve env (noting answers) s c).2 := by
  obtain ⟨db, submitted⟩ := s
  cases c with
  | submitJob payload => exact inv.submit grants
  | randomUUID => exact inv.of_jobs rfl (Nat.le_succ _)
  | now => exact inv
  | db c =>
    show Inv ((db.exec env c).2, submitted)
    cases c with
    | insertJob columns =>
      rw [Db.exec]
      by_cases taken : db.conflicts columns = true
      · rw [if_pos taken]
        exact inv
      · rw [if_neg taken]
        exact inv.append inv.fresh (Nat.lt_succ_self _) (Nat.le_succ _)
    | updateJob id change => exact inv.updateJob id change
    | insertRecurring jobType cron metadata tenantId userId => exact inv.of_jobs rfl (Nat.le_succ _)
    | _ => exact inv.of_jobs rfl (Nat.le_refl _)

end Inv

section Programs

variable {env : Env} {answers : JobQueuePayload → Except Err JobStatus} {s : Submissions} {α β : Type}

/-- The program submits only payloads whose row belongs to their tenant. -/
def Disciplined (env : Env) (answers : JobQueuePayload → Except Err JobStatus) (s : Submissions) (program : ServiceProgram α)
    (ok : α → Submissions → Prop) : Prop :=
  Safe (serve env (noting answers)) (fun _ _ => True) Grants (fun value s => Inv s ∧ ok value s) (fun _ s => Inv s) program s

theorem grants_of_silent {c : ServiceCall} (silent : c.Silent) (s : Submissions) : Grants s c := by
  cases c with
  | submitJob payload => exact absurd rfl (silent payload)
  | _ => trivial

theorem Disciplined.bind {program : ServiceProgram α} {next : α → ServiceProgram β} {ok : α → Submissions → Prop}
    {ok' : β → Submissions → Prop} (first : Disciplined env answers s program ok)
    (rest : ∀ value s', Inv s' → ok value s' → Disciplined env answers s' (next value) ok') :
    Disciplined env answers s (program.bind next) ok' := by
  apply Safe.bind
  refine first.mono (fun _ _ same => same) (fun value s' given => ?_) fun _ _ same => same
  exact rest value s' given.1 given.2

theorem Disciplined.inv {program : ServiceProgram α} {ok : α → Submissions → Prop}
    (disciplined : Disciplined env answers s program ok) (inv : Inv s) :
    Inv (program.run (serve env (noting answers)) s).2 :=
  disciplined.run_preserves Inv (fun _ _ => trivial) (fun _ _ grants inv => inv.serve grants) inv

theorem disciplined_done (inv : Inv s) (value : α) {ok : α → Submissions → Prop} (holds : ok value s) :
    Disciplined env answers s (.done value) ok := ⟨inv, holds⟩

theorem disciplined_throws (inv : Inv s) (error : Err) {ok : α → Submissions → Prop} :
    Disciplined env answers s (.throws error) ok := inv

/-- A program that submits nothing. -/
theorem disciplined_silent (inv : Inv s) {program : ServiceProgram α} (silent : program.Only ServiceCall.Silent) :
    Disciplined env answers s program fun _ _ => True :=
  (silent.safe (fun s _ silent inv => inv.serve (grants_of_silent silent s)) (fun s _ silent _ => grants_of_silent silent s) inv).mono
    (fun _ _ same => same) (fun _ _ inv => ⟨inv, trivial⟩) fun _ _ same => same

/-- A statement, with what follows from its answer and its effect. -/
theorem disciplined_query (inv : Inv s) (c : DbCall) {ok : c.Reply → Submissions → Prop}
    (replied : ∀ reply, (s.1.exec env c).1 = .ok reply → ok reply ((s.1.exec env c).2, s.2)) :
    Disciplined env answers s (query c) ok := by
  have keeps : Inv (serve env (noting answers) s (.db c)).2 := inv.serve trivial
  apply safe_await (S := serviceSignature) (c := .db c)
  · exact fun _ => trivial
  · exact fun _ reply answer => ⟨keeps, replied reply answer⟩
  · exact fun _ _ _ => keeps

theorem disciplined_submit (inv : Inv s) {payload : JobQueuePayload} (holds : Holds s.1 payload.jobId payload.tenantId) :
    Disciplined env answers s (submit payload) fun _ _ => True := by
  have keeps : Inv (s.1, s.2 ++ [payload]) := inv.submit holds
  apply safe_await (S := serviceSignature) (c := .submitJob payload)
  · exact fun _ => holds
  · exact fun _ _ _ => ⟨keeps, trivial⟩
  · exact fun _ _ _ => keeps

theorem disciplined_enqueueRow (inv : Inv s) {type : String} {payload : String → JobQueuePayload} (result : JobStatus → α)
    (holds : ∀ queueName, Holds s.1 (payload queueName).jobId (payload queueName).tenantId) :
    Disciplined env answers s (enqueueRow type payload result) fun _ _ => True := by
  unfold enqueueRow
  cases resolveQueueName type with
  | error error => exact disciplined_throws inv error
  | ok queueName =>
    refine (disciplined_submit inv (holds queueName)).bind fun status s' inv' _ => ?_
    exact disciplined_done inv' _ trivial

/-- The row that `save` returns belongs to the tenant of its columns. -/
theorem disciplined_save (inv : Inv s) (columns : JobColumns) :
    Disciplined env answers s (JobRepo.save columns) fun job s' => Holds s'.1 job.id columns.tenantId := by
  refine disciplined_query inv (.insertJob columns) fun job answer => ?_
  rw [Db.exec] at answer ⊢
  by_cases taken : s.1.conflicts columns = true
  · rw [if_pos taken] at answer
    cases answer
  · rw [if_neg taken] at answer ⊢
    obtain rfl := Except.ok.inj answer
    exact (holds_append (newRow env s.1 columns) inv.fresh _ _ _ rfl).mpr rfl

theorem disciplined_createAndEnqueue (inv : Inv s) (dto : CreateJobDto) (userId : UserId) (tenantId : TenantId) :
    Disciplined env answers s (JobsService.createAndEnqueue dto userId tenantId) fun _ _ => True := by
  have recurring : (JobsService.saveRecurring dto userId tenantId).Only ServiceCall.Silent := by
    unfold JobsService.saveRecurring
    split
    · trivial
    · split
      · trivial
      · exact (silent_query _).bind fun _ => only_done _
  rw [JobsService.createAndEnqueue_eq]
  refine (disciplined_silent inv recurring).bind fun recurringJobId s₁ inv₁ _ => ?_
  refine (disciplined_silent inv₁ silent_clock).bind fun now s₂ inv₂ _ => ?_
  refine (disciplined_save inv₂ _).bind fun job s₃ inv₃ holds => ?_
  exact disciplined_enqueueRow inv₃ _ fun _ => holds

theorem disciplined_submitItem (inv : Inv s) (batchId : Nat) (userId : UserId) (tenantId : TenantId) (item : BatchJobItem) :
    Disciplined env answers s (BatchJobService.submitItem batchId userId tenantId item) fun _ _ => True := by
  refine (disciplined_silent inv silent_clock).bind fun now s₁ inv₁ _ => ?_
  refine (disciplined_save inv₁ _).bind fun job s₂ inv₂ holds => ?_
  apply Safe.catching
  refine (disciplined_enqueueRow inv₂ _ fun _ => holds).mono (fun _ _ same => same) (fun _ _ same => same) fun error s₃ inv₃ => ?_
  have fails : Disciplined env answers s₃ (JobRepo.update job.id { status := some .FAILED }) fun _ _ => True :=
    disciplined_query inv₃ (.updateJob job.id { status := some .FAILED }) fun _ _ => trivial
  exact fails.bind fun _ s₄ inv₄ _ => disciplined_throws inv₄ error

theorem disciplined_submitItems (inv : Inv s) (batchId : Nat) (userId : UserId) (tenantId : TenantId)
    (items : List BatchJobItem) (results : List BatchReply) :
    Disciplined env answers s (BatchJobService.submitItems batchId userId tenantId items results) fun _ _ => True := by
  induction items generalizing s results with
  | nil => exact disciplined_done inv results trivial
  | cons item rest ih =>
    exact (disciplined_submitItem inv batchId userId tenantId item).bind fun result s₁ inv₁ _ => ih inv₁ (results ++ [result])

theorem disciplined_submitBatch (inv : Inv s) (items : List BatchJobItem) (userId : UserId) (tenantId : TenantId) :
    Disciplined env answers s (BatchJobService.submitBatch items userId tenantId) fun _ _ => True := by
  refine (disciplined_silent inv (only_ofExcept _)).bind fun _ s₁ inv₁ _ => ?_
  refine (disciplined_silent inv₁ silent_randomUUID).bind fun batchId s₂ inv₂ _ => ?_
  refine (disciplined_submitItems inv₂ batchId userId tenantId _ []).bind fun results s₃ inv₃ _ => ?_
  exact disciplined_done inv₃ _ trivial

theorem disciplined_retryFailedJob (inv : Inv s) (jobId : JobId) (userId : UserId) (tenantId : TenantId) :
    Disciplined env answers s (JobsService.retryFailedJob jobId userId tenantId) fun _ _ => True := by
  have finds : Disciplined env answers s (JobRepo.findOneOfTenant jobId tenantId) fun found s' =>
      ∀ job, found = some job → Holds s'.1 job.id tenantId := by
    refine disciplined_query inv (.findTenantJob jobId tenantId) fun reply answer job given => ?_
    have same : (s.1.job? jobId).filter (fun job => job.tenantId = tenantId) = some job := by
      rw [← given]
      exact Except.ok.inj answer
    obtain ⟨row, own⟩ := Option.filter_eq_some_iff.mp same
    refine ⟨job, ?_, by simpa using own⟩
    rwa [Db.id_of_job? row]
  refine finds.bind fun found s₁ inv₁ holds => ?_
  cases found with
  | none => exact disciplined_throws inv₁ _
  | some job =>
    dsimp only
    split
    · exact disciplined_throws inv₁ _
    · have queued : Disciplined env answers s₁ (JobRepo.update job.id { status := some .QUEUED }) fun _ s' =>
          Holds s'.1 job.id tenantId :=
        disciplined_query inv₁ (.updateJob job.id { status := some .QUEUED }) fun _ _ => (holds job rfl).updateJob job.id _
      exact queued.bind fun _ s₂ inv₂ holds₂ =>
        disciplined_enqueueRow inv₂ (fun _ => { job with status := .QUEUED, completedAt := none }) fun _ => holds₂

theorem stores_serve : Stores (serve env (noting answers)) Prod.fst where
  statement s c := ⟨env, .inl ⟨rfl, rfl⟩⟩
  elsewhere s c other := by
    cases c with
    | db statement => exact absurd rfl (other statement)
    | submitJob payload | randomUUID | now => exact ⟨rfl, rfl⟩

/-- The job that `scheduleNextJob` submits for is read from its row. -/
theorem disciplined_scheduleNextJob (inv : Inv s) (workFlowId : WorkFlowId) (tenantId : TenantId) :
    Disciplined env answers s (scheduleNextJob workFlowId tenantId) fun _ _ => True := by
  refine (disciplined_silent inv (silent_query _)).bind fun count s₁ inv₁ _ => ?_
  split
  · exact disciplined_done inv₁ _ trivial
  · have picks : Disciplined env answers s₁ (pickNextJobGLobal workFlowId) fun found s' => Found s'.1 found := by
      have searched : Safe (serve env (noting answers)) (fun _ _ => True) Grants
          (fun found s' => s'.1 = s₁.1 ∧ Found s₁.1 found) (fun _ s' => s'.1 = s₁.1) (pickNextJobGLobal workFlowId) s₁ :=
        stores_serve.safe_pickNextJobGLobal (fun _ _ _ => trivial) workFlowId rfl inv₁.keyed
      have kept := searched.keeping Inv (fun _ _ grants inv => inv.serve grants) inv₁
      refine kept.mono (fun _ _ given => given.1) (fun found s₂ given => ⟨given.2, ?_⟩) fun _ _ given => given.2
      show Found s₂.1 found
      rw [given.1.1]
      exact given.1.2
    refine picks.bind fun candidate s₂ inv₂ found => ?_
    cases candidate with
    | none => exact disciplined_done inv₂ _ trivial
    | some candidate =>
      have row : Holds s₂.1 candidate.id candidate.tenantId := ⟨candidate, (found candidate rfl).1, rfl⟩
      have queued : Disciplined env answers s₂ (JobRepo.update candidate.id { status := some .QUEUED }) fun _ s' =>
          Holds s'.1 candidate.id candidate.tenantId :=
        disciplined_query inv₂ (.updateJob candidate.id { status := some .QUEUED }) fun _ _ => row.updateJob candidate.id _
      exact queued.bind fun _ s₃ inv₃ holds => disciplined_enqueueRow inv₃ (fun _ => ()) fun _ => holds

theorem disciplined_createWorkFlow (inv : Inv s) (items : List WorkFlowItem) (userId : UserId) (tenantId : TenantId) :
    Disciplined env answers s (createWorkFlow items userId tenantId) fun _ _ => True := by
  refine (disciplined_silent inv (only_ofExcept _)).bind fun _ s₁ inv₁ _ => ?_
  refine (disciplined_silent inv₁ silent_randomUUID).bind fun workFlowId s₂ inv₂ _ => ?_
  refine (disciplined_silent inv₂ (silent_saveJobs workFlowId userId tenantId items [])).bind fun jobMap s₃ inv₃ _ => ?_
  refine (disciplined_silent inv₃ (silent_saveDependencies jobMap items)).bind fun _ s₄ inv₄ _ => ?_
  refine (disciplined_scheduleNextJob inv₄ workFlowId tenantId).bind fun _ s₅ inv₅ _ => ?_
  exact disciplined_done inv₅ _ trivial

theorem disciplined_onJobCompleted (inv : Inv s) (jobId : JobId) :
    Disciplined env answers s (onJobCompleted jobId) fun _ _ => True := by
  refine (disciplined_silent inv (silent_query _)).bind fun found s₁ inv₁ _ => ?_
  split
  · exact disciplined_done inv₁ _ trivial
  · refine (disciplined_silent inv₁ (silent_unlockChildren jobId)).bind fun _ s₂ inv₂ _ => ?_
    exact disciplined_scheduleNextJob inv₂ _ _

theorem disciplined_handleParentFailure (inv : Inv s) (jobId : JobId) :
    Disciplined env answers s (handleParentFailure jobId) fun _ _ => True := by
  refine (disciplined_silent inv (silent_query _)).bind fun found s₁ inv₁ _ => ?_
  split
  · exact disciplined_done inv₁ _ trivial
  · refine (disciplined_silent inv₁ (silent_query _)).bind fun deps s₂ inv₂ _ => ?_
    refine (disciplined_silent inv₂ (only_forEach fun dep _ => silent_skipChild _)).bind fun _ s₃ inv₃ _ => ?_
    exact disciplined_scheduleNextJob inv₃ _ _

end Programs

section Attempts

variable {env : Env} {answers : JobQueuePayload → Except Err JobStatus} {outcome : Except Err (Option String)}
  {s : Submissions} {α β : Type}

def GrantsWork (s : Submissions) : WorkerCall → Prop
  | .service c => Grants s c
  | _ => True

/-- The same of a part of an attempt. -/
def Orderly (env : Env) (answers : JobQueuePayload → Except Err JobStatus) (outcome : Except Err (Option String))
    (s : Submissions) (program : WorkerProgram α) : Prop :=
  Safe (work env (noting answers) outcome) (fun _ _ => True) GrantsWork (fun _ s => Inv s) (fun _ s => Inv s) program s

theorem Inv.work (inv : Inv s) {c : WorkerCall} (grants : GrantsWork s c) :
    Inv (OrchestrateModel.work env (noting answers) outcome s c).2 := by
  cases c with
  | service c => exact inv.serve grants
  | _ => exact inv

theorem Orderly.inv {program : WorkerProgram α} (orderly : Orderly env answers outcome s program) (inv : Inv s) :
    Inv (program.run (OrchestrateModel.work env (noting answers) outcome) s).2 :=
  orderly.run_preserves Inv (fun _ _ => trivial) (fun _ _ grants inv => inv.work grants) inv

theorem Orderly.bind {program : WorkerProgram α} {next : α → WorkerProgram β} (first : Orderly env answers outcome s program)
    (rest : ∀ value s', Inv s' → Orderly env answers outcome s' (next value)) :
    Orderly env answers outcome s (program.bind next) := by
  apply Safe.bind
  exact first.mono (fun _ _ same => same) (fun value s' inv => rest value s' inv) fun _ _ same => same

theorem Orderly.capture {program : WorkerProgram α} (orderly : Orderly env answers outcome s program) :
    Orderly env answers outcome s program.capture := Safe.capture orderly

theorem orderly_service {program : ServiceProgram α} {ok : α → Submissions → Prop}
    (disciplined : Disciplined env answers s program ok) : Orderly env answers outcome s (onServices program) := by
  apply safe_onServices
  exact disciplined.mono (fun _ _ same => same) (fun _ _ given => given.1) fun _ _ same => same

theorem grantsWork_of_silent {c : WorkerCall} (silent : c.Silent) (s : Submissions) : GrantsWork s c := by
  cases c with
  | service c => exact grants_of_silent silent s
  | _ => trivial

theorem orderly_silent (inv : Inv s) {program : WorkerProgram α} (silent : program.Only WorkerCall.Silent) :
    Orderly env answers outcome s program :=
  silent.safe (fun s _ silent inv => inv.work (grantsWork_of_silent silent s))
    (fun s _ silent _ => grantsWork_of_silent silent s) inv

theorem orderly_afterSuccess (inv : Inv s) (job : BullJob) (attempt : Attempt) (result : Option String) :
    Orderly env answers outcome s (afterSuccess job attempt result) := by
  refine (orderly_silent inv (silent_onServices silent_clock)).bind fun now s₁ inv₁ => ?_
  refine (orderly_silent inv₁ (silent_onServices silent_clock)).bind fun finish s₂ inv₂ => ?_
  refine (orderly_silent inv₂ (silent_onServices (silent_query _))).bind fun _ s₃ inv₃ => ?_
  refine (orderly_silent inv₃ (silent_onServices (silent_query _))).bind fun _ s₄ inv₄ => ?_
  have counted {s : Submissions} (inv : Inv s) (metric : Metric) :
      Orderly env answers outcome s ((record metric).bind fun _ => incrementCompleted job.queueName) :=
    orderly_silent inv (Only.bind (only_await (S := workerSignature) trivial) fun _ =>
      only_await (S := workerSignature) trivial)
  dsimp only
  split
  · refine (orderly_service (disciplined_onJobCompleted inv₄ job.data.jobId)).capture.bind fun _ s₅ inv₅ => ?_
    exact counted inv₅ _
  · exact counted inv₄ _

theorem orderly_afterFailure (inv : Inv s) (job : BullJob) (attempt : Attempt) (error : Err) :
    Orderly env answers outcome s (afterFailure job attempt error) := by
  rw [afterFailure_eq]
  refine (orderly_silent inv (silent_recordFailure job attempt error)).bind fun _ s₁ inv₁ => ?_
  refine (orderly_service (disciplined_handleParentFailure inv₁ job.data.jobId)).bind fun _ s₂ inv₂ => ?_
  exact orderly_silent inv₂ (only_throws error)

theorem orderly_afterProcess (inv : Inv s) (job : BullJob) (attempt : Attempt) (result : Except Err (Option String)) :
    Orderly env answers outcome s (afterProcess job attempt result) := by
  rw [afterProcess_eq]
  have settles : Orderly env answers outcome s (settle job attempt result) := by
    apply Safe.catching
    cases result with
    | ok result =>
      exact (orderly_afterSuccess inv job attempt result).mono (fun _ _ same => same) (fun _ _ same => same)
        fun error s' inv' => orderly_afterFailure inv' job attempt error
    | error error => exact orderly_afterFailure inv job attempt error
  refine settles.capture.bind fun completion s₁ inv₁ => ?_
  have freed : (release job.data.tenantId job.queueName).capture.Only WorkerCall.Silent :=
    Only.capture (only_await (S := workerSignature) trivial)
  split
  · exact (orderly_silent inv₁ freed).bind fun _ s₂ inv₂ => orderly_silent inv₂ (only_ofExcept completion)
  · exact orderly_silent inv₁ (only_ofExcept completion)

end Attempts

section Chaining

variable {env : Env} {answers : JobQueuePayload → Except Err JobStatus} {pipeline : Except Err Unit} {fields : EtlFields}

theorem run_checkDependencies (env : Env) (answers : JobQueuePayload → Except Err JobStatus) (pipeline : Except Err Unit)
    (ids : List JobId) (s : Submissions) :
    (ids.all (fun id => (s.1.job? id).any (·.status = .COMPLETED)) = true →
      (forEach ids ETLProcessor.checkDependency).run (serveEtl env (noting answers) pipeline) s = (.ok (), s)) ∧
    (ids.all (fun id => (s.1.job? id).any (·.status = .COMPLETED)) = false →
      ∃ error, (forEach ids ETLProcessor.checkDependency).run (serveEtl env (noting answers) pipeline) s =
        (.thrown error, s)) := by
  induction ids with
  | nil => exact ⟨fun _ => rfl, fun no => by simp at no⟩
  | cons id rest ih =>
    have read : (awaitEtl (.service (.db (.findJob id)))).run (serveEtl env (noting answers) pipeline) s =
        (.ok (s.1.job? id), s) := rfl
    rw [forEach, ETLProcessor.checkDependency, bind_eq, bind_assoc, run_bind_ok _ read, List.all_cons]
    cases s.1.job? id with
    | none => exact ⟨fun all => by simp at all, fun _ => ⟨_, rfl⟩⟩
    | some depJob =>
      by_cases completed : depJob.status = .COMPLETED
      · simpa [completed] using ih
      · simp [completed]

/-- The next job: its row has no tenant, its payload has one. -/
def chained (env : Env) (s : Submissions) (data : JobQueuePayload) (attempts : Nat) (queueName : String)
    (nextJob : Metadata) : Submissions :=
  let row : EtlRow :=
    { id := s.1.drawn, type := "etl-jobs", status := .QUEUED, tenantId := data.tenantId, metadata := nextJob,
      priorityLevel := data.priorityLevel, retries := attempts }
  ({ s.1 with jobs := s.1.jobs ++ [row.persisted (env.createdAt s.1.drawn)], drawn := s.1.drawn + 1 },
    s.2 ++ [ETLProcessor.nextPayload data attempts queueName s.1.drawn nextJob])

theorem run_scheduleNext (data : JobQueuePayload) (attempts : Nat) (queueName : String) (nextJob : Metadata) (s : Submissions) :
    ((ETLProcessor.scheduleNext data attempts queueName nextJob).run (serveEtl env (noting answers) pipeline) s).2 =
      chained env s data attempts queueName nextJob := by
  have handed (payload : JobQueuePayload) (s : Submissions) :
      (((awaitEtl (.service (.submitJob payload))).bind fun _ => .done ()).run (serveEtl env (noting answers) pipeline) s).2 =
        (s.1, s.2 ++ [payload]) := by
    have given : serveEtl env (noting answers) pipeline s (.service (.submitJob payload)) =
        (answers payload, s.1, s.2 ++ [payload]) := rfl
    rw [awaitEtl, run_bind, run_await, given]
    cases answers payload <;> rfl
  obtain ⟨db, submitted⟩ := s
  exact handed _ _

theorem run_process (data : JobQueuePayload) (attempts : Nat) (queueName : String) (s : Submissions) :
    ((ETLProcessor.process fields data attempts queueName).run (serveEtl env (noting answers) pipeline) s).2 =
      if (fields.dependsOn data.metadata).all (fun id => (s.1.job? id).any (·.status = .COMPLETED)) && pipeline.toBool then
        (fields.nextJob data.metadata).elim s (chained env s data attempts queueName)
      else s := by
  obtain ⟨met, unmet⟩ := run_checkDependencies env answers pipeline (fields.dependsOn data.metadata) s
  rw [ETLProcessor.process, bind_eq]
  cases ready : (fields.dependsOn data.metadata).all fun id => (s.1.job? id).any (·.status = .COMPLETED) with
  | false =>
    obtain ⟨error, threw⟩ := unmet ready
    rw [run_bind_thrown _ threw]
    rfl
  | true =>
    rw [run_bind_ok _ (met ready)]
    cases pipeline with
    | error error => rfl
    | ok done =>
      have worked : (awaitEtl (.pipeline data.metadata)).run (serveEtl env (noting answers) (.ok done)) s = (.ok (), s) := rfl
      rw [bind_eq, run_bind_ok _ worked]
      cases fields.nextJob data.metadata with
      | none => rfl
      | some nextJob =>
        exact run_scheduleNext data attempts queueName nextJob s

/-- The row of the next job is not its tenant's. -/
theorem chained_not_owned {s : Submissions} (inv : Inv s) {data : JobQueuePayload} (attempts : Nat) (queueName : String)
    (nextJob : Metadata) (tenanted : data.tenantId ≠ noTenant) :
    ¬ Owned (chained env s data attempts queueName nextJob) := by
  intro owned
  have last : ETLProcessor.nextPayload data attempts queueName s.1.drawn nextJob ∈
      (chained env s data attempts queueName nextJob).2 := List.mem_append_right _ List.mem_cons_self
  let row : EtlRow :=
    { id := s.1.drawn, type := "etl-jobs", status := .QUEUED, tenantId := data.tenantId, metadata := nextJob,
      priorityLevel := data.priorityLevel, retries := attempts }
  have owner := (holds_append (row.persisted (env.createdAt s.1.drawn)) inv.fresh (s.1.drawn + 1) s.1.drawn data.tenantId
    rfl).mp (owned _ last)
  exact tenanted owner.symm

end Chaining

/-- A payload with its own row is shown to its tenant only. -/
theorem Inv.visible {s : Submissions} (inv : Inv s) : s.Visible := by
  intro payload member tenantId
  obtain ⟨row, found, owner⟩ := inv.owned payload member
  constructor
  · rw [JobsService.getJobById_toBool, found, Option.any_some, decide_eq_true_eq, owner]
    exact eq_comm
  · intro env
    have listed : payload.jobId ∈ (JobsService.listJobs env.arrange s.1 tenantId {}).map (·.id) ↔
        ∃ job ∈ s.1.jobs, job.tenantId = tenantId ∧ job.id = payload.jobId := by
      simp [JobsService.listJobs, JobsService.formatJobResponse, (env.arrange_perm _).mem_iff, and_assoc]
    rw [listed]
    constructor
    · intro given
      obtain ⟨job, present, tenant, id⟩ := given
      have same := Db.job?_of_mem inv.keyed present
      rw [id, found] at same
      rw [← tenant, ← owner, Option.some.inj same]
    · intro same
      exact ⟨row, Db.mem_of_job? found, owner.trans same.symm, Db.id_of_job? found⟩

variable {fields : EtlFields}

theorem inv_step {s : Submissions} (inv : Inv s) (e : OwnedStep) (unchained : s.chains fields e = false) :
    Inv (s.step fields e) := by
  obtain ⟨env, answers, event⟩ := e
  cases event with
  | create dto userId tenantId => exact (disciplined_createAndEnqueue inv dto userId tenantId).inv inv
  | batch items userId tenantId => exact (disciplined_submitBatch inv items userId tenantId).inv inv
  | workflow items userId tenantId => exact (disciplined_createWorkFlow inv items userId tenantId).inv inv
  | retry jobId userId tenantId => exact (disciplined_retryFailedJob inv jobId userId tenantId).inv inv
  | begin_ job => exact (orderly_silent inv (silent_beginAttempt job)).inv inv
  | finish job attempt outcome => exact (orderly_afterProcess inv job attempt outcome).inv inv
  | etl data attempts queueName pipeline =>
    show Inv ((ETLProcessor.process fields data attempts queueName).run (serveEtl env (noting answers) pipeline) s).2
    rw [run_process]
    split
    · rename_i ready
      have last : fields.nextJob data.metadata = none := by
        have ended : (true && (fields.nextJob data.metadata).isSome) = false := by
          rw [← ready]
          exact unchained
        simpa using ended
      rw [last]
      exact inv
    · exact inv

/-- A chained ETL job does not belong to the tenant it is submitted for. -/
theorem not_owned_step {s : Submissions} (inv : Inv s) (e : OwnedStep) (tenanted : s.Tenanted e)
    (chains : s.chains fields e = true) : ¬ (s.step fields e).Owned := by
  obtain ⟨env, answers, event⟩ := e
  cases event with
  | etl data attempts queueName pipeline =>
    obtain ⟨ready, next⟩ := Bool.and_eq_true_iff.mp chains
    obtain ⟨nextJob, given⟩ := Option.isSome_iff_exists.mp next
    show ¬ Owned ((ETLProcessor.process fields data attempts queueName).run (serveEtl env (noting answers) pipeline) s).2
    rw [run_process, if_pos ready, given]
    exact chained_not_owned inv attempts queueName nextJob tenanted
  | _ => cases chains

end Submissions

def submissions (fields : EtlFields) : Machine Submissions OwnedStep := ⟨fun s e => some (s.step fields e)⟩

namespace Submissions

/-- The submitted jobs belong to their tenants exactly as long as no ETL job starts its next job. -/
theorem submitted_jobs_owned (fields : EtlFields) {visited : List (Submissions × OwnedStep)} {s : Submissions}
    (run : (submissions fields).Run (.empty, []) visited s) (tenanted : Machine.Guarded Tenanted visited) :
    ((∀ v ∈ visited, v.1.Owned ∧ v.1.Visible) ∧ s.Owned ∧ s.Visible) ↔
      Machine.Guarded (fun s e => s.chains fields e = false) visited := by
  apply run.stays_iff Inv (fun s => s.Owned ∧ s.Visible) tenanted inv_empty ⟨inv_empty.owned, inv_empty.visible⟩
  · intro s e s' inv _ step unchained
    obtain rfl := Option.some.inj step
    have kept := inv_step inv e unchained
    exact ⟨kept, kept.owned, kept.visible⟩
  · intro s e s' inv tenanted step good
    obtain rfl := Option.some.inj step
    rw [Bool.eq_false_iff]
    intro chains
    exact not_owned_step inv e tenanted chains good.1

/-- Metadata whose field `nextJob` is an object with an input path. -/
def csvFields : EtlFields where
  dependsOn _ := []
  nextJob metadata := (metadata.lookup "nextJob").map fun path => [("inputPath", path)]

def answered (event : OwnedEvent) : OwnedStep := { env := .plain, answers := fun _ => .ok .QUEUED, event := event }

def csvJob (metadata : Metadata) : BullJob :=
  let payload : JobQueuePayload :=
    { jobId := 0, jobType := "csv_parse", tenantId := "t", userId := some "u", metadata := metadata, queueName := "etl-jobs" }
  { data := payload, opts := jobsOptions payload, attemptsMade := 0, queueName := "etl-jobs", timestamp := 0 }

/-- A CSV job is created, and its attempt succeeds. -/
def csvRun (metadata : Metadata) : List OwnedStep :=
  let job := csvJob metadata
  let attempt : Attempt :=
    { executeStart := 0, waitSeconds := 0, isWorkflowJob := false, sequenceNumber := 1,
      attempt := { id := 0, jobId := 0, attemptNumber := 1, status := .PROCESSING, startedAt := 0 } }
  [answered (.create { jobType := "csv_parse", metadata := metadata } "u" "t"), answered (.begin_ job),
    answered (.etl job.data 3 "etl-jobs" (.ok ())), answered (.finish job attempt (.ok none))]

theorem submitted_jobs_owned_csv :
    ∃ s, (submissions csvFields).exec (.empty, []) (csvRun [("inputPath", "a.csv")]) = some s ∧ s.2.length = 1 ∧
      s.Owned ∧ s.Visible := by
  have done : ((submissions csvFields).exec (.empty, []) (csvRun [("inputPath", "a.csv")])).any
      (fun s => s.2.length = 1) = true := by decide +kernel
  obtain ⟨s, ran, one⟩ := (Option.any_eq_true _ _).mp done
  have tenanted : Machine.Guarded Tenanted
      ((submissions csvFields).trace (.empty, []) (csvRun [("inputPath", "a.csv")])) := by decide +kernel
  have unchained : Machine.Guarded (fun s e => s.chains csvFields e = false)
      ((submissions csvFields).trace (.empty, []) (csvRun [("inputPath", "a.csv")])) := by decide +kernel
  exact ⟨s, ran, of_decide_eq_true one, ((submitted_jobs_owned csvFields (Machine.run_of_exec ran) tenanted).mpr unchained).2⟩

/-- Its metadata names a next job, which its tenant never sees. -/
theorem nextJob_unowned :
    ∃ s, (submissions csvFields).exec (.empty, []) (csvRun [("nextJob", "b.csv")]) = some s ∧ ¬ s.Owned ∧ ¬ s.Visible := by
  have done : ((submissions csvFields).exec (.empty, []) (csvRun [("nextJob", "b.csv")])).any (fun s =>
      s.2.any fun payload => (s.1.job? payload.jobId).any (fun row => row.tenantId ≠ payload.tenantId) &&
        !(JobsService.getJobById s.1 payload.jobId payload.tenantId).toBool) = true := by decide +kernel
  obtain ⟨s, ran, facts⟩ := (Option.any_eq_true _ _).mp done
  obtain ⟨payload, member, fact⟩ := List.any_eq_true.mp facts
  obtain ⟨foreign, hidden⟩ := Bool.and_eq_true_iff.mp fact
  refine ⟨s, ran, fun owned => ?_, fun visible => ?_⟩
  · obtain ⟨row, found, owner⟩ := owned payload member
    simp [found, owner] at foreign
  · have shown := (visible payload member payload.tenantId).1.mpr rfl
    simp [shown] at hidden

end Submissions
end OrchestrateModel
