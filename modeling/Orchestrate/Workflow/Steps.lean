import Orchestrate.Workflow.Attempts
import Orchestrate.Workflow.Creation

namespace OrchestrateModel

open Effect ChainService BaseProcessor

/-- A desk after payloads of one job have been handed over, of which at most one was taken. -/
inductive Posted (jobId : JobId) (desk : Desk) : Desk → Prop where
  | refused (noted : List JobQueuePayload) (own : ∀ payload ∈ noted, payload.jobId = jobId) :
    Posted jobId desk { desk with submitted := desk.submitted ++ noted }
  | placed (payload : JobQueuePayload) (now : Nat) (noted : List JobQueuePayload) (bullIds : List String)
    (own : ∀ payload ∈ noted, payload.jobId = jobId) (mine : payload.jobId = jobId)
    (named : ∀ id ∈ bullIds, id = uuidText jobId) :
    Posted jobId desk
      { entries := desk.entries ++ [{ payload := payload, addedAt := now }]
        submitted := desk.submitted ++ noted
        bullIds := desk.bullIds ++ bullIds }

/-- What is new on the desk waits, and belongs to the job. -/
theorem Posted.entries {jobId : JobId} {desk desk' : Desk} (posted : Posted jobId desk desk') {entry : Entry}
    (member : entry ∈ desk'.entries) : entry ∈ desk.entries ∨ (entry.payload.jobId = jobId ∧ entry.stage = .waiting) := by
  cases posted with
  | refused noted own => exact .inl member
  | placed payload now noted bullIds own mine named =>
    rcases List.mem_append.mp member with old | new
    · exact .inl old
    · obtain rfl := List.mem_singleton.mp new
      exact .inr ⟨mine, rfl⟩

/-- The custom id of a workflow's payload is its job's. -/
def OwnId (payload : JobQueuePayload) : Prop :=
  ∀ id, (jobsOptions payload).jobId = some id → id = uuidText payload.jobId

theorem posted_accept (staged : Bool) (now : Nat) (desk : Desk) {payload : JobQueuePayload}
    (named : OwnId payload) : Posted payload.jobId desk (desk.accept staged now payload).2 := by
  have own : ∀ other ∈ [payload], other.jobId = payload.jobId := by simp
  have place : Posted payload.jobId desk
      (Desk.place { desk with submitted := desk.submitted ++ [payload] } now payload) := by
    unfold Desk.place
    split
    · have posted : Posted payload.jobId desk _ := .placed payload now [payload] [] own rfl (by simp)
      rwa [List.append_nil] at posted
    · rename_i id custom
      split
      · exact .refused _ own
      · refine .placed payload now _ _ own rfl fun id' member => ?_
        obtain rfl := List.mem_singleton.mp member
        exact named _ custom
  unfold Desk.accept
  split
  · exact place
  · split
    · exact place
    · exact .refused _ own

/-- What is left behind the gate when a job's payload is submitted to its queue. -/
def offered {γ : Type} (gate : γ → JobQueuePayload → Except Err JobStatus × γ) (jobType : String)
    (payload : String → JobQueuePayload) (g : γ) : γ :=
  match resolveQueueName jobType with
  | .error _ => g
  | .ok queueName => (gate g (payload queueName)).2

theorem posted_offered (staged : Bool) (now : Nat) (jobType : String) {payload : String → JobQueuePayload}
    {jobId : JobId} (own : ∀ queueName, (payload queueName).jobId = jobId)
    (named : ∀ queueName, OwnId (payload queueName)) (desk : Desk) :
    Posted jobId desk (offered (Desk.accept staged now) jobType payload desk) := by
  unfold offered
  split
  · have posted : Posted jobId desk _ := .refused [] (by simp)
    rwa [List.append_nil] at posted
  · rename_i queueName _
    have posted := posted_accept staged now desk (named queueName)
    rwa [own] at posted

variable {env : Env} {staged : Bool} {workFlowId : WorkFlowId} {s s' : Workflows} {i : Nat}

/-- The effect of `scheduleNextJob`: none if the workflow is active or nothing is found, else a READY job is
    marked QUEUED and offered. -/
inductive Dispatched (env : Env) (staged : Bool) (workFlowId : WorkFlowId) (s : Workflows) : Workflows → Prop where
  | none (reason : s.db.Active workFlowId ∨ s.db.pick env workFlowId = .none ∨
      s.db.pick env workFlowId = some .none) : Dispatched env staged workFlowId s s
  | next (job : Job) (idle : ¬ s.db.Active workFlowId) (picked : s.db.pick env workFlowId = some (some job.id))
    (row : s.db.job? job.id = some job) (ready : job.status = .READY) :
    Dispatched env staged workFlowId s
      { db := s.db.updateJob job.id { status := some .QUEUED }, desk := offered (Desk.accept staged env.now) job.type (candidatePayload job) s.desk }

theorem candidatePayload_id (job : Job) (queueName : String) :
    (jobsOptions (candidatePayload job queueName)).jobId = some (uuidText job.id) := by
  simp [jobsOptions, candidatePayload, JobQueuePayload.isCron, truthy, uuidText_ne_empty]

theorem ownId_candidatePayload (job : Job) (queueName : String) : OwnId (candidatePayload job queueName) := by
  intro id custom
  rw [candidatePayload_id] at custom
  exact (Option.some.inj custom).symm

theorem posted_candidate (staged : Bool) (now : Nat) (job : Job) (desk : Desk) :
    Posted job.id desk (offered (Desk.accept staged now) job.type (candidatePayload job) desk) :=
  have own (queueName : String) : (candidatePayload job queueName).jobId = job.id := rfl
  posted_offered staged now job.type own (ownId_candidatePayload job) desk

theorem offer_state {γ : Type} (gate : γ → JobQueuePayload → Except Err JobStatus × γ) (db : Db) (g : γ)
    (job : Job) :
    (offer gate job db g).2 =
      (db.updateJob job.id { status := some .QUEUED }, offered gate job.type (candidatePayload job) g) := by
  unfold offer offered
  cases resolveQueueName job.type with
  | error error => rfl
  | ok queueName =>
    dsimp only
    cases gate g (candidatePayload job queueName) with
    | mk result g' => cases result <;> rfl

theorem dispatched_of_scheduled {db db' : Db} {desk desk' : Desk} {outcome : Outcome Err Unit}
    (scheduled : Scheduled env (Desk.accept staged env.now) workFlowId db desk (outcome, db', desk')) :
    Dispatched env staged workFlowId { db := db, desk := desk } { db := db', desk := desk' } := by
  generalize result : (outcome, db', desk') = r at scheduled
  cases scheduled with
  | busy active =>
    obtain ⟨-, rfl, rfl⟩ : outcome = .ok () ∧ db' = db ∧ desk' = desk := by simpa using result
    exact .none (.inl active)
  | endless idle picked =>
    obtain ⟨-, rfl, rfl⟩ : outcome = .hung ∧ db' = db ∧ desk' = desk := by simpa using result
    exact .none (.inr (.inl picked))
  | nothing idle picked =>
    obtain ⟨-, rfl, rfl⟩ : outcome = .ok () ∧ db' = db ∧ desk' = desk := by simpa using result
    exact .none (.inr (.inr picked))
  | next idle job picked row ready =>
    have state := (congrArg Prod.snd result).trans (offer_state _ db desk job)
    obtain ⟨rfl, rfl⟩ := Prod.mk.inj state
    exact .next job idle picked row ready

namespace Dispatched

variable (dispatched : Dispatched env staged workFlowId s s')

include dispatched

theorem kept : Db.Kept s.db s'.db := by
  cases dispatched with
  | none reason => exact .refl s.db
  | next job => exact Db.kept_updateJob s.db job.id _

theorem status (x : JobId) : s'.db.status x = s.db.status x ∨
    (s.db.status x = some .READY ∧ s'.db.status x = some .QUEUED) := by
  cases dispatched with
  | none reason => exact .inl rfl
  | next job idle picked row ready =>
    have standing : s.db.status job.id = some .READY := by simp [Db.status, row, ready]
    rw [Db.status_updateJob s.db job.id x .QUEUED _ rfl (by simp [standing])]
    split
    · rename_i here
      subst here
      exact .inr ⟨standing, rfl⟩
    · exact .inl rfl

/-- Scheduling leaves the jobs alone that are neither READY nor QUEUED. -/
theorem status_iff {x : JobId} {status : JobStatus} (other : status ≠ .READY ∧ status ≠ .QUEUED) :
    s'.db.status x = some status ↔ s.db.status x = some status := by
  rcases dispatched.status x with same | ⟨ready, queued⟩
  · rw [same]
  · simp [ready, queued, other.1.symm, other.2.symm]

end Dispatched

namespace Desk

variable {desk : Desk} {payload : JobQueuePayload} {entry : Entry}

theorem place_setEntry (now : Nat) (bound : i < desk.entries.length) :
    (desk.setEntry i entry).place now payload = (desk.place now payload).setEntry i entry := by
  unfold place
  cases (jobsOptions payload).jobId with
  | none => simp [setEntry, List.set_append_left _ _ bound]
  | some id =>
    dsimp only
    by_cases held : id ∈ desk.bullIds
    · simp [setEntry, held]
    · simp [setEntry, held, List.set_append_left _ _ bound]

theorem offered_setEntry (now : Nat) (jobType : String) (payload : String → JobQueuePayload)
    (bound : i < desk.entries.length) :
    offered (accept staged now) jobType payload (desk.setEntry i entry) =
      (offered (accept staged now) jobType payload desk).setEntry i entry := by
  unfold offered
  cases resolveQueueName jobType with
  | error error => rfl
  | ok queueName =>
    let noted : Desk := { desk with submitted := desk.submitted ++ [payload queueName] }
    have placed : (noted.setEntry i entry).place now (payload queueName) =
        (noted.place now (payload queueName)).setEntry i entry := place_setEntry now bound
    dsimp only [accept]
    split
    · exact placed
    · split
      · exact placed
      · rfl

end Desk

/-- An entry can be settled before the scheduling instead of after it. -/
theorem Dispatched.setEntry (dispatched : Dispatched env staged workFlowId s s') (entry : Entry)
    (bound : i < s.desk.entries.length) :
    Dispatched env staged workFlowId { s with desk := s.desk.setEntry i entry }
      { s' with desk := s'.desk.setEntry i entry } := by
  cases dispatched with
  | none reason => exact .none reason
  | next job idle picked row ready =>
    rw [← Desk.offered_setEntry env.now job.type (candidatePayload job) bound]
    exact .next job idle picked row ready

end OrchestrateModel
