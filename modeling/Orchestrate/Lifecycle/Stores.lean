import Orchestrate.Effect.Trace
import Orchestrate.Workflow.Board

namespace OrchestrateModel

open Effect Program ChainService

/-- A statement that only reads. -/
def DbCall.Reads : DbCall → Prop
  | .findJob _ | .findTenantJob _ _ | .findWorkFlowJobs _ | .countJobs _ _ | .findDeps _ | .findChildDeps _
  | .countRemaining _ | .findSequence _ | .findRecurring _ => True
  | _ => False

theorem DbCall.Reads.exec {c : DbCall} (reads : c.Reads) (env : Env) (tables : Db) : (tables.exec env c).2 = tables := by
  cases c <;> first | rfl | exact reads.elim

/-- The call updates a row. -/
def ServiceCall.Updates (c : ServiceCall) (x : JobId) (change : JobChange) : Prop := c = .db (.updateJob x change)

def ServiceCall.Inserts (c : ServiceCall) : Prop := ∃ columns, c = .db (.insertJob columns)

/-- The call neither adds nor updates a row. -/
def ServiceCall.Quiet : ServiceCall → Prop
  | .db (.updateJob _ _) | .db (.insertJob _) => False
  | _ => True

theorem ServiceCall.Quiet.noInsert {c : ServiceCall} (quiet : c.Quiet) : ¬ c.Inserts := by
  rintro ⟨columns, rfl⟩
  exact quiet

theorem ServiceCall.Quiet.noUpdate {c : ServiceCall} (quiet : c.Quiet) (x : JobId) (change : JobChange) :
    ¬ c.Updates x change := by
  rintro rfl
  exact quiet

theorem DbCall.Reads.quiet {c : DbCall} (reads : c.Reads) : ServiceCall.Quiet (.db c) := by
  cases c <;> trivial

/-- The services' environment over a database. A statement is answered as the database answers it, or it throws,
    with its effect or without; no other call changes a row or a dependency. -/
structure Stores {σ : Type} (h : Handler serviceSignature Err σ) (db : σ → Db) : Prop where
  statement : ∀ s c, ∃ env,
    ((h s (.db c)).1 = ((db s).exec env c).1 ∧ db (h s (.db c)).2 = ((db s).exec env c).2) ∨
      ((h s (.db c)).1.toBool = false ∧
        (db (h s (.db c)).2 = db s ∨ db (h s (.db c)).2 = ((db s).exec env c).2))
  elsewhere : ∀ s c, (∀ statement, c ≠ .db statement) →
    (db (h s c).2).jobs = (db s).jobs ∧ (db (h s c).2).deps = (db s).deps

/-- No row is added, and a row that is updated goes from one status to another. -/
def Shifts {σ : Type} (db : σ → Db) (before after : JobStatus) (s : σ) (c : ServiceCall) : Prop :=
  ¬ c.Inserts ∧ ∀ x change, c.Updates x change → (db s).status x = some before ∧ change.status = some after

/-- No row is added, and only certain rows are updated, to a status. -/
def Marks {σ : Type} (marked : JobId → Prop) (after : JobStatus) (_ : σ) (c : ServiceCall) : Prop :=
  ¬ c.Inserts ∧ ∀ x change, c.Updates x change → marked x ∧ change.status = some after

namespace Stores

variable {σ : Type} {h : Handler serviceSignature Err σ} {db : σ → Db} {s : σ} {x : JobId} {tables tables' : Db}
  {assumed allowed : σ → ServiceCall → Prop} {c : ServiceCall}

theorem reply (stores : Stores h db) {c : DbCall} {reply : c.Reply} (answer : (h s (.db c)).1 = .ok reply) :
    ∃ env, ((db s).exec env c).1 = .ok reply ∧ db (h s (.db c)).2 = ((db s).exec env c).2 := by
  obtain ⟨env, ⟨same, effect⟩ | ⟨threw, _⟩⟩ := stores.statement s c
  · exact ⟨env, same.symm.trans answer, effect⟩
  · rw [answer] at threw
    cases threw

/-- A statement that only reads leaves the tables as they are. -/
theorem read (stores : Stores h db) {c : DbCall} (reads : c.Reads) : db (h s (.db c)).2 = db s := by
  obtain ⟨env, ⟨_, effect⟩ | ⟨_, same | effect⟩⟩ := stores.statement s c
  · rw [effect, reads.exec]
  · exact same
  · rw [effect, reads.exec]

/-- An update has its effect, or it throws without it. -/
theorem update (stores : Stores h db) (x : JobId) (change : JobChange) :
    db (h s (.db (.updateJob x change))).2 = (db s).updateJob x change ∨
      (Throws h (s, .db (.updateJob x change)) ∧ db (h s (.db (.updateJob x change))).2 = db s) := by
  obtain ⟨env, ⟨_, effect⟩ | ⟨threw, same | effect⟩⟩ := stores.statement s (.updateJob x change)
  · exact .inl effect
  · exact .inr ⟨threw, same⟩
  · exact .inl effect

theorem jobs_same (stores : Stores h db) (noUpdate : ∀ x change, ¬ c.Updates x change) (noInsert : ¬ c.Inserts) :
    (db (h s c).2).jobs = (db s).jobs := by
  cases c with
  | db statement =>
    have same (env : Env) : ((db s).exec env statement).2.jobs = (db s).jobs := by
      cases statement with
      | updateJob x change => exact absurd rfl (noUpdate x change)
      | insertJob columns => exact absurd ⟨columns, rfl⟩ noInsert
      | _ => rfl
    obtain ⟨env, ⟨_, effect⟩ | ⟨_, kept | effect⟩⟩ := stores.statement s statement
    · rw [effect, same]
    · rw [kept]
    · rw [effect, same]
  | _ => exact (stores.elsewhere s _ (by simp)).1

theorem status_of_jobs (same : tables'.jobs = tables.jobs) (x : JobId) : tables'.status x = tables.status x := by
  rw [Db.status, Db.status, Db.job?, Db.job?, same]

theorem keyed_of_jobs (same : tables'.jobs = tables.jobs) (keyed : tables.Keyed) : tables'.Keyed := by
  unfold Db.Keyed
  rwa [same]

theorem keyed (stores : Stores h db) (noInsert : ¬ c.Inserts) (keyed : (db s).Keyed) : (db (h s c).2).Keyed := by
  by_cases updates : ∃ x change, c.Updates x change
  · obtain ⟨x, change, rfl⟩ := updates
    rcases stores.update (s := s) x change with effect | ⟨_, same⟩
    · rw [effect]
      exact (Db.kept_updateJob (db s) x change).keyed keyed
    · rwa [same]
  · exact keyed_of_jobs (stores.jobs_same (fun x change updated => updates ⟨x, change, updated⟩) noInsert) keyed

/-- An update of a row changes its status to the given one, or leaves it. -/
theorem status_updateJob (tables : Db) (id x : JobId) (change : JobChange) :
    (tables.updateJob id change).status x = tables.status x ∨
      x = id ∧ ∃ status, change.status = some status ∧ (tables.updateJob id change).status x = some status := by
  cases given : change.status with
  | none => exact .inl (Db.status_updateJob_keep tables id x change given)
  | some status =>
    cases row : tables.status x with
    | none =>
      left
      simp only [Db.status, Option.map_eq_none_iff] at row
      simp [Db.status, Db.job?_updateJob, row]
    | some old =>
      by_cases here : x = id
      · subst here
        refine .inr ⟨rfl, status, rfl, ?_⟩
        rw [Db.status_updateJob tables x x status change given (by simp [row]), if_pos rfl]
      · left
        rw [Db.status, Db.job?_updateJob, if_neg here, ← row, Db.status]

/-- What a call can do to the status of a row. -/
theorem status_call (stores : Stores h db) (noInsert : ¬ c.Inserts) (s : σ) (x : JobId) :
    (db (h s c).2).status x = (db s).status x ∨ ∃ change status, c.Updates x change ∧ change.status = some status ∧
      (db (h s c).2).status x = some status := by
  by_cases updates : ∃ y change, c.Updates y change
  · obtain ⟨y, change, rfl⟩ := updates
    rcases stores.update (s := s) y change with effect | ⟨_, same⟩
    · rw [effect]
      rcases status_updateJob (db s) y x change with same | ⟨rfl, status, given, changed⟩
      · exact .inl same
      · exact .inr ⟨change, status, rfl, given, changed⟩
    · rw [same]
      exact .inl rfl
  · exact .inl (status_of_jobs (stores.jobs_same (fun x change updated => updates ⟨x, change, updated⟩) noInsert) x)

/-- Rows that are not of the first status keep theirs. -/
theorem shifts_keep (stores : Stores h db) {before after status : JobStatus} (shifts : Shifts db before after s c)
    (other : status ≠ before) (standing : (db s).status x = some status) :
    (db (h s c).2).status x = some status := by
  rcases stores.status_call shifts.1 s x with same | ⟨change, _, updates, _, _⟩
  · rwa [same]
  · have moved := (shifts.2 x change updates).1
    rw [standing] at moved
    exact absurd (Option.some.inj moved) other

theorem marks_keep (stores : Stores h db) {marked : JobId → Prop} {after : JobStatus}
    (marks : Marks marked after s c) (other : ¬ marked x) : (db (h s c).2).status x = (db s).status x := by
  rcases stores.status_call marks.1 s x with same | ⟨change, _, updates, _, _⟩
  · exact same
  · exact absurd (marks.2 x change updates).1 other

section Read

variable {c : DbCall}

/-- A statement that only reads, and what follows from its answer. -/
theorem safe_read (stores : Stores h db) (reads : c.Reads) {ok : c.Reply → σ → Prop} {thrown : Err → σ → Prop}
    (permitted : allowed s (.db c))
    (replied : ∀ env reply s', db s' = db s → ((db s).exec env c).1 = .ok reply → ok reply s')
    (failed : ∀ error s', db s' = db s → thrown error s') :
    Safe h assumed allowed ok thrown (query c) s := by
  have same := stores.read (s := s) reads
  apply safe_await (S := serviceSignature) (c := .db c)
  · exact fun _ => permitted
  · intro _ reply answer
    obtain ⟨env, value, _⟩ := stores.reply answer
    exact replied env reply _ same value
  · exact fun _ error _ => failed error _ same

end Read
end Stores

/-- A search result is a READY row. -/
def Found (tables : Db) (result : Option Job) : Prop :=
  ∀ job, result = some job → tables.job? job.id = some job ∧ job.status = .READY

theorem ServiceCall.Quiet.shifts {c : ServiceCall} (quiet : c.Quiet) {σ : Type} (db : σ → Db)
    (before after : JobStatus) (s : σ) : Shifts db before after s c :=
  ⟨quiet.noInsert, fun x change updates => absurd updates (quiet.noUpdate x change)⟩

theorem ServiceCall.Quiet.marks {c : ServiceCall} (quiet : c.Quiet) {σ : Type} (marked : JobId → Prop)
    (after : JobStatus) (s : σ) : Marks marked after s c :=
  ⟨quiet.noInsert, fun x change updates => absurd updates (quiet.noUpdate x change)⟩

theorem shifts_updateJob {σ : Type} {db : σ → Db} {before after : JobStatus} {s : σ} {x : JobId} {change : JobChange}
    (standing : (db s).status x = some before) (given : change.status = some after) :
    Shifts db before after s (.db (.updateJob x change)) := by
  refine ⟨?_, fun y other updates => ?_⟩
  · rintro ⟨columns, equal⟩
    cases equal
  · cases updates
    exact ⟨standing, given⟩

theorem marks_updateJob {σ : Type} {marked : JobId → Prop} {after : JobStatus} {s : σ} {x : JobId} {change : JobChange}
    (permitted : marked x) (given : change.status = some after) :
    Marks marked after s (.db (.updateJob x change)) := by
  refine ⟨?_, fun y other updates => ?_⟩
  · rintro ⟨columns, equal⟩
    cases equal
  · cases updates
    exact ⟨permitted, given⟩

end OrchestrateModel
