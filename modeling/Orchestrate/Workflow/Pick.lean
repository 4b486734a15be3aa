import Orchestrate.Effect.Trace
import Orchestrate.Workflow.Board

namespace OrchestrateModel

open Effect ChainService

/-- The outcome of a search, as the job row it returns. -/
def Db.found {σ : Type} (db : Db) (s : σ) : Option (Option JobId) → Outcome Err (Option Job) × σ
  | none => (.hung, s)
  | some result => (.ok (result.bind db.job?), s)

section Search

variable {σ : Type} {h : Handler serviceSignature Err σ} {db : Db} {s : σ}
  {load : Job → ServiceProgram (Option Job)} {deeper : JobId → ServiceProgram (Option Job)}
  {deep : JobId → Option (Option JobId)}

/-- A search below a node, and the loop that goes on where it finds nothing. -/
theorem run_descend {id : JobId} {later : ServiceProgram (Option Job)} {laterResult : Option (Option JobId)}
    (searched : (deeper id).run h s = db.found s (deep id))
    (rows : ∀ found, deep id = some (some found) → ∃ job, db.job? found = some job)
    (rest : later.run h s = db.found s laterResult) :
    Program.run h ((deeper id).bind fun
        | some ready => pure (some ready)
        | none => later) s =
      db.found s (Search.andThen (deep id) laterResult) := by
  rw [Program.run_bind, searched]
  cases result : deep id with
  | none => rfl
  | some inner =>
    cases inner with
    | none => exact rest
    | some ready =>
      obtain ⟨job, found⟩ := rows ready result
      simp [Db.found, found]

/-- The loop over siblings is the search over their ids, if loading a sibling reads its row. -/
theorem run_searchSiblings {jobs : List Job}
    (loaded : ∀ job ∈ jobs, (load job).run h s = (.ok (db.job? job.id), s))
    (searched : ∀ id, (deeper id).run h s = db.found s (deep id))
    (rows : ∀ id found, deep id = some (some found) → ∃ job, db.job? found = some job) :
    (searchSiblings load deeper jobs).run h s =
      db.found s (Search.level (fun id => judge (db.status id)) deep (jobs.map (·.id))) := by
  induction jobs with
  | nil => rfl
  | cons sibling rest ih =>
    have later := ih fun job member => loaded job (List.mem_cons_of_mem sibling member)
    have read := loaded sibling List.mem_cons_self
    simp only [searchSiblings, Program.bind_eq, List.map_cons, Search.level]
    rw [Program.run_bind_ok h read]
    cases row : db.job? sibling.id with
    | none => simpa [Db.status, row, judge] using later
    | some full =>
      have own : full.id = sibling.id := Db.id_of_job? row
      have status : db.status sibling.id = some full.status := by simp [Db.status, row]
      have descends := run_descend (searched full.id) (rows full.id) later
      rw [status, ← own]
      rw [← own] at row
      dsimp only
      cases full.status with
      | READY => simp [judge, Db.found, row]
      | QUEUED | PROCESSING | WAITING_FOR_DEPENDENCIES => rfl
      | COMPLETED | SKIPPED => exact descends
      | FAILED | SCHEDULED | PENDING | STAGED => exact later

variable {γ : Type} {env : Env} {gate : γ → JobQueuePayload → Except Err JobStatus × γ} {g : γ}

theorem exists_of_below {depth : Nat} {id found : JobId}
    (result : Search.below (fun id => judge (db.status id)) (db.siblings env) depth id = some (some found)) :
    ∃ job, db.job? found = some job := by
  have taken := (Search.below_found result).1
  cases row : db.job? found with
  | none => simp [Db.status, row, judge] at taken
  | some job => exact ⟨job, rfl⟩

theorem run_pickBestReadyDescendantDfs (depth : Nat) (parentId : JobId) :
    (pickBestReadyDescendantDfs depth parentId).run (serve env gate) (db, g) =
      db.found (db, g) (Search.below (fun id => judge (db.status id)) (db.siblings env) depth parentId) := by
  induction depth generalizing parentId with
  | zero => rfl
  | succ depth ih =>
    simp only [pickBestReadyDescendantDfs, Program.bind_eq, Search.below]
    rw [Program.run_bind_ok _ (run_findByParent env gate db g parentId)]
    simp only [List.filterMap_map, Function.comp_def, Db.siblings]
    exact run_searchSiblings (fun job _ => run_findOne env gate db g job.id) ih fun _ _ => exists_of_below

theorem run_pickNextJobGLobal (keyed : db.Keyed) (workFlowId : WorkFlowId) :
    (pickNextJobGLobal workFlowId).run (serve env gate) (db, g) =
      db.found (db, g) (db.pick env workFlowId) := by
  simp only [pickNextJobGLobal, Program.bind_eq]
  rw [Program.run_bind_ok _ (run_findByWorkFlow env gate db g workFlowId),
    Program.run_bind_ok _ (run_findByParents env gate db g _)]
  have count : (env.arrange (db.workFlowJobs workFlowId)).length = (db.workFlowJobs workFlowId).length :=
    (env.arrange_perm _).length_eq
  rw [count]
  refine run_searchSiblings ?_ (run_pickBestReadyDescendantDfs _) fun _ _ => exists_of_below
  intro root member
  have present : root ∈ db.jobs := by
    rw [sortJobs, List.mem_insertionSort, List.mem_filter, (env.arrange_perm _).mem_iff] at member
    exact (List.mem_filter.mp member.1).1
  rw [Db.job?_of_mem keyed present]
  rfl

end Search

/-- The call is a statement that changes nothing. -/
def ServiceCall.reads : ServiceCall → Bool
  | .db (.findJob _) | .db (.findTenantJob _ _) | .db (.findWorkFlowJobs _) | .db (.countJobs _ _)
  | .db (.findDeps _) | .db (.findChildDeps _) | .db (.countRemaining _) | .db (.findSequence _)
  | .db (.findRecurring _) => true
  | _ => false

def ServiceCall.Reads (c : ServiceCall) : Prop := c.reads = true

section Reads

open Program

theorem reads_query {c : DbCall} (reads : ServiceCall.Reads (.db c)) :
    (query c).Only ServiceCall.Reads := only_await (S := serviceSignature) reads

theorem reads_searchSiblings {load : Job → ServiceProgram (Option Job)} {deeper : JobId → ServiceProgram (Option Job)}
    (loads : ∀ job, (load job).Only ServiceCall.Reads)
    (searches : ∀ id, (deeper id).Only ServiceCall.Reads) (jobs : List Job) :
    (searchSiblings load deeper jobs).Only ServiceCall.Reads := by
  induction jobs with
  | nil => exact only_done _
  | cons sibling rest ih =>
    apply (loads sibling).bind
    intro loaded
    cases loaded with
    | none => exact ih
    | some full =>
      have descends : Program.Only ServiceCall.Reads (do
          let descendant ← deeper full.id
          match descendant with
          | some ready => return some ready
          | none => searchSiblings load deeper rest) := by
        apply (searches full.id).bind
        intro descendant
        cases descendant with
        | none => exact ih
        | some ready => exact only_done _
      dsimp only
      cases full.status with
      | READY | QUEUED | PROCESSING | WAITING_FOR_DEPENDENCIES => exact only_done _
      | COMPLETED | SKIPPED => exact descends
      | FAILED | SCHEDULED | PENDING | STAGED => exact ih

theorem reads_pickBestReadyDescendantDfs (depth : Nat) (parentId : JobId) :
    (pickBestReadyDescendantDfs depth parentId).Only ServiceCall.Reads := by
  induction depth generalizing parentId with
  | zero => trivial
  | succ depth ih => exact (reads_query (by rfl)).bind fun _ => reads_searchSiblings (fun _ => reads_query (by rfl)) ih _

theorem reads_pickNextJobGLobal (workFlowId : WorkFlowId) :
    (pickNextJobGLobal workFlowId).Only ServiceCall.Reads :=
  (reads_query (by rfl)).bind fun _ => (reads_query (by rfl)).bind fun _ =>
    reads_searchSiblings (fun _ => only_done _) (reads_pickBestReadyDescendantDfs _) _

end Reads
end OrchestrateModel
