import Orchestrate.Model.Chain
import Orchestrate.Search.Walk

namespace OrchestrateModel

open Effect ChainService

/-- The columns of a row that no handler changes. -/
def Job.fixed (job : Job) : Job :=
  { job with status := .QUEUED, queueSequence := none, completedAt := none, metadata := [] }

@[simp] theorem Job.fixed_id (job : Job) : job.fixed.id = job.id := rfl

@[simp] theorem Job.change_id (job : Job) (change : JobChange) : (job.change change).id = job.id := rfl

@[simp] theorem Job.fixed_change (job : Job) (change : JobChange) : (job.change change).fixed = job.fixed := rfl

/-- How the searches judge a sibling with a given status. -/
def judge : Option JobStatus → Search.Verdict
  | some .READY => .take
  | some .QUEUED | some .PROCESSING | some .WAITING_FOR_DEPENDENCIES => .block
  | some .COMPLETED | some .SKIPPED => .descend
  | _ => .pass

namespace Db

def status (db : Db) (id : JobId) : Option JobStatus := (db.job? id).map (·.status)

def workFlowOf (db : Db) (id : JobId) : Option WorkFlowId := (db.job? id).bind (·.workFlowId)

def Strict (db : Db) (id : JobId) : Prop := ∃ job, db.job? id = some job ∧ job.faliureStrategy = some .STRICT

instance (db : Db) (id : JobId) : Decidable (db.Strict id) :=
  decidable_of_iff (∃ job ∈ db.job? id, job.faliureStrategy = some .STRICT) Iff.rfl

def edges (db : Db) : List (JobId × JobId) := db.deps.map fun dep => (dep.parentJobId, dep.childJobId)

/-- The relation of `job_dependencies`. -/
def Depends (db : Db) (parentId childId : JobId) : Prop := (parentId, childId) ∈ db.edges

instance (db : Db) (parentId childId : JobId) : Decidable (db.Depends parentId childId) :=
  inferInstanceAs (Decidable (_ ∈ _))

/-- Row ids are unique. -/
def Keyed (db : Db) : Prop := (db.jobs.map (·.id)).Nodup

instance (db : Db) : Decidable db.Keyed := inferInstanceAs (Decidable (List.Nodup _))

def Active (db : Db) (workFlowId : WorkFlowId) : Prop :=
  ∃ id, db.workFlowOf id = some workFlowId ∧ (db.status id = some .QUEUED ∨ db.status id = some .PROCESSING)

/-- The children of a job in the order the search loops over them. -/
def siblings (env : Env) (db : Db) (parentId : JobId) : List JobId :=
  (sortJobs ((env.arrangeDeps (db.childDeps parentId)).filterMap fun dep => db.job? dep.childJobId)).map (·.id)

/-- The roots of a workflow in the order the search loops over them. -/
def roots (env : Env) (db : Db) (workFlowId : WorkFlowId) : List JobId :=
  let allJobs := env.arrange (db.workFlowJobs workFlowId)
  let childDeps := env.arrangeDeps (db.deps.filter fun dep => (allJobs.map (·.id)).contains dep.parentJobId)
  (sortJobs (allJobs.filter fun job => !(childDeps.map (·.childJobId)).contains job.id)).map (·.id)

/-- The job that `pickNextJobGLobal` finds; none if its recursion does not end. -/
def pick (env : Env) (db : Db) (workFlowId : WorkFlowId) : Option (Option JobId) :=
  let verdict (id : JobId) := judge (db.status id)
  Search.level verdict (Search.below verdict (db.siblings env) (db.workFlowJobs workFlowId).length)
    (db.roots env workFlowId)

/-- Rows and dependencies are the same but for what handlers change. -/
structure Kept (db db' : Db) : Prop where
  rows : db'.jobs.map Job.fixed = db.jobs.map Job.fixed
  edges : db'.edges = db.edges
  drawn : db'.drawn = db.drawn

variable {db db' db'' : Db} {id : JobId} {job : Job}

theorem Kept.refl (db : Db) : Kept db db := ⟨rfl, rfl, rfl⟩

theorem Kept.trans (first : Kept db db') (second : Kept db' db'') : Kept db db'' :=
  ⟨second.rows.trans first.rows, second.edges.trans first.edges, second.drawn.trans first.drawn⟩

theorem kept_updateJob (db : Db) (id : JobId) (change : JobChange) : Kept db (db.updateJob id change) := by
  refine ⟨?_, rfl, rfl⟩
  simp only [updateJob, List.map_map]
  apply List.map_congr_left
  intro job _
  simp only [Function.comp_apply]
  split <;> simp

theorem kept_updateDeps (db : Db) (childId : JobId) (status : JobStatus) :
    Kept db (db.updateDeps childId status) := by
  refine ⟨rfl, ?_, rfl⟩
  simp only [updateDeps, Db.edges, List.map_map]
  apply List.map_congr_left
  intro dep _
  simp only [Function.comp_apply]
  split <;> rfl

theorem Kept.job? (kept : Kept db db') (id : JobId) :
    (db'.job? id).map Job.fixed = (db.job? id).map Job.fixed := by
  have lookup (jobs : List Job) : (jobs.find? fun job => job.id = id).map Job.fixed =
      (jobs.map Job.fixed).find? fun job => job.id = id := by
    rw [List.find?_map]
    rfl
  simp only [Db.job?, lookup, kept.rows]

/-- A column that no handler changes reads the same. -/
theorem Kept.column {α : Type} (kept : Kept db db') (column : Job → α)
    (fixed : ∀ job, column job.fixed = column job) (id : JobId) :
    (db'.job? id).map column = (db.job? id).map column := by
  have through (found : Option Job) : found.map column = (found.map Job.fixed).map column := by
    cases found with
    | none => rfl
    | some job => simp [fixed]
  rw [through (db'.job? id), kept.job? id, ← through]

theorem Kept.workFlowOf (kept : Kept db db') (id : JobId) : db'.workFlowOf id = db.workFlowOf id := by
  have same := kept.column (·.workFlowId) (fun _ => rfl) id
  unfold Db.workFlowOf
  cases before : db.job? id <;> cases after : db'.job? id <;> simp_all

theorem Kept.strict (kept : Kept db db') (id : JobId) : db'.Strict id ↔ db.Strict id := by
  have same := kept.column (·.faliureStrategy) (fun _ => rfl) id
  have read (db : Db) : db.Strict id ↔ (db.job? id).map (·.faliureStrategy) = some (some .STRICT) := by
    simp [Db.Strict, Option.map_eq_some_iff]
  rw [read, read, same]

theorem Kept.depends (kept : Kept db db') (p c : JobId) : db'.Depends p c ↔ db.Depends p c := by
  rw [Db.Depends, Db.Depends, kept.edges]

theorem Kept.ids (kept : Kept db db') : db'.jobs.map (·.id) = db.jobs.map (·.id) := by
  have same := congrArg (List.map (·.id)) kept.rows
  simpa [List.map_map, Function.comp_def] using same

theorem Kept.keyed (kept : Kept db db') (keyed : db.Keyed) : db'.Keyed := by
  unfold Keyed
  rwa [kept.ids]

theorem id_of_job? (found : db.job? id = some job) : job.id = id := by
  simpa using List.find?_some found

theorem mem_of_job? (found : db.job? id = some job) : job ∈ db.jobs := List.mem_of_find?_eq_some found

theorem job?_of_mem (keyed : db.Keyed) (member : job ∈ db.jobs) : db.job? job.id = some job := by
  have found (jobs : List Job) (nodup : (jobs.map (·.id)).Nodup) (member : job ∈ jobs) :
      (jobs.find? fun other => other.id = job.id) = some job := by
    induction jobs with
    | nil => cases member
    | cons head tail ih =>
      rw [List.map_cons, List.nodup_cons] at nodup
      rcases List.mem_cons.mp member with rfl | later
      · simp
      · have apart : ¬ head.id = job.id := fun same => nodup.1 (same ▸ List.mem_map_of_mem later)
        simp [apart, ih nodup.2 later]
  exact found db.jobs keyed member

theorem status_eq_some {status : JobStatus} :
    db.status id = some status ↔ ∃ job, db.job? id = some job ∧ job.status = status :=
  Option.map_eq_some_iff

theorem job?_updateJob (db : Db) (id other : JobId) (change : JobChange) :
    (db.updateJob id change).job? other =
      if other = id then (db.job? other).map (·.change change) else db.job? other := by
  let changed (job : Job) : Job := if job.id = id then job.change change else job
  have idOf (job : Job) : (changed job).id = job.id := by
    simp only [changed]
    split <;> rfl
  have mapped : (db.updateJob id change).job? other = (db.job? other).map changed := by
    simp only [Db.job?, updateJob, List.find?_map]
    congr 2
    funext job
    simp only [Function.comp_apply]
    rw [idOf]
  rw [mapped]
  cases found : db.job? other with
  | none => simp
  | some job =>
    have own := id_of_job? found
    subst own
    simp only [Option.map_some, changed]
    split <;> rfl

theorem status_updateJob (db : Db) (id other : JobId) (status : JobStatus) (change : JobChange)
    (given : change.status = some status) (found : db.status id ≠ none) :
    (db.updateJob id change).status other = if other = id then some status else db.status other := by
  simp only [Db.status, job?_updateJob] at found ⊢
  split
  · rename_i same
    subst same
    cases row : db.job? other with
    | none => simp [row] at found
    | some job => simp [Job.change, given]
  · rfl

/-- An update of a row that does not exist changes nothing. -/
theorem status_updateJob_absent (db : Db) (other : JobId) (change : JobChange) (absent : db.status id = none) :
    (db.updateJob id change).status other = db.status other := by
  simp only [Db.status, job?_updateJob, Option.map_eq_none_iff] at absent ⊢
  split
  · rename_i same
    rw [same, absent]
    rfl
  · rfl

theorem status_updateJob_keep (db : Db) (id other : JobId) (change : JobChange) (given : change.status = none) :
    (db.updateJob id change).status other = db.status other := by
  simp only [Db.status, job?_updateJob]
  split
  · cases db.job? other with
    | none => rfl
    | some job => simp [Job.change, given]
  · rfl

theorem status_updateDeps (db : Db) (childId other : JobId) (status : JobStatus) :
    (db.updateDeps childId status).status other = db.status other := rfl

instance (db : Db) (workFlowId : WorkFlowId) : Decidable (db.Active workFlowId) :=
  decidable_of_iff (∃ job ∈ db.jobs, db.workFlowOf job.id = some workFlowId ∧
      (db.status job.id = some .QUEUED ∨ db.status job.id = some .PROCESSING)) <| by
    constructor
    · intro given
      obtain ⟨job, _, active⟩ := given
      exact ⟨job.id, active⟩
    · intro given
      obtain ⟨id, own, busy⟩ := given
      obtain ⟨job, row, _⟩ := Option.bind_eq_some_iff.mp own
      obtain rfl := id_of_job? row
      exact ⟨job, mem_of_job? row, own, busy⟩

end Db
end OrchestrateModel
