import Orchestrate.Lifecycle.Execute
import Orchestrate.Lifecycle.Handlers

namespace OrchestrateModel

open Effect Program ChainService BaseProcessor

/-- The worker's environment as the services see it. -/
abbrev services {σ : Type} (h : Handler workerSignature Err σ) : Handler serviceSignature Err σ :=
  fun s c => h s (.service c)

/-- What the work itself does to the rows: it may save some, which are QUEUED, and it leaves those that are there. -/
structure Db.Saves (db db' : Db) : Prop where
  rows : ∃ saved, db'.jobs = db.jobs ++ saved ∧ ∀ row ∈ saved, row.status = .QUEUED
  keyed : db.Keyed → db'.Keyed
  deps : db'.deps = db.deps

namespace Db.Saves

theorem refl (db : Db) : db.Saves db := ⟨⟨[], (List.append_nil _).symm, by simp⟩, id, rfl⟩

/-- The status of a row is the same, or the row is new. -/
theorem status {db db' : Db} (saves : db.Saves db') (x : JobId) :
    db'.status x = db.status x ∨ db.status x = none ∧ db'.status x = some .QUEUED := by
  obtain ⟨saved, jobs, queued⟩ := saves.rows
  have split : db'.job? x = (db.job? x).or (saved.find? fun job => job.id = x) := by
    rw [Db.job?, jobs, List.find?_append]
    rfl
  cases row : db.job? x with
  | some job => exact .inl (by rw [Db.status, Db.status, split, row, Option.some_or])
  | none =>
    rw [row, Option.none_or] at split
    cases new : saved.find? fun job => job.id = x with
    | none => exact .inl (by rw [Db.status, Db.status, split, row, new])
    | some job =>
      refine .inr ⟨by rw [Db.status, row, Option.map_none], ?_⟩
      rw [Db.status, split, new, Option.map_some, queued job (List.mem_of_find?_eq_some new)]

end Db.Saves

/-- A worker's environment over a database: only the services' calls and the work change rows, and the clock and the
    metrics, which are not awaited, do not throw. -/
structure Serves {σ : Type} (h : Handler workerSignature Err σ) (db : σ → Db) : Prop where
  stores : Stores (services h) db
  saves : ∀ s job, (db s).Saves (db (h s (.process job)).2)
  elsewhere : ∀ s c, (∀ call, c ≠ .service call) → c.isProcess = false →
    (db (h s c).2).jobs = (db s).jobs ∧ (db (h s c).2).deps = (db s).deps
  times : ∀ s, (h s (.service .now)).1.toBool = true
  metrics : ∀ s metric, (h s (.record metric)).1.toBool = true

/-- The call neither adds nor updates a row. -/
def WorkerCall.Quiet : WorkerCall → Prop
  | .service c => c.Quiet
  | .process _ => False
  | _ => True

section Parts

variable {σ : Type} {h : Handler workerSignature Err σ} {db : σ → Db} {s : σ} {job : BullJob}
  {assumed allowed : σ → WorkerCall → Prop}

theorem safe_onServices {α : Type} {ok : α → σ → Prop} {thrown : Err → σ → Prop} {program : ServiceProgram α}
    (safe : Safe (services h) (fun s c => assumed s (.service c)) (fun s c => allowed s (.service c)) ok thrown
      program s) : Safe h assumed allowed ok thrown (onServices program) s := by
  induction program generalizing s with
  | done value => exact safe
  | throws error => exact safe
  | hangs => trivial
  | call c next ih =>
    intro answers
    obtain ⟨permitted, rest⟩ := safe answers
    exact ⟨permitted, ih _ rest⟩

namespace Serves

theorem jobs_same (serves : Serves h db) {c : WorkerCall} (quiet : c.Quiet) : (db (h s c).2).jobs = (db s).jobs := by
  cases c with
  | service call => exact serves.stores.jobs_same quiet.noUpdate quiet.noInsert
  | process job => exact quiet.elim
  | _ => exact (serves.elsewhere s _ (by simp) rfl).1

/-- The clock answers, and changes no row. -/
theorem safe_clock (serves : Serves h db) {ok : Nat → σ → Prop} {thrown : Err → σ → Prop}
    (permitted : allowed s (.service .now)) (replied : ∀ now s', (db s').jobs = (db s).jobs → ok now s') :
    Safe h assumed allowed ok thrown (onServices OrchestrateModel.clock) s := by
  have answered := serves.times s
  rw [OrchestrateModel.clock, onServices_await]
  apply safe_await (S := workerSignature) (c := .service .now)
  · exact fun _ => permitted
  · exact fun _ now _ => replied now _ (serves.stores.elsewhere s .now (by simp)).1
  · intro _ error threw
    rw [threw] at answered
    cases answered

theorem safe_record (serves : Serves h db) {metric : Metric} {ok : Unit → σ → Prop} {thrown : Err → σ → Prop}
    (permitted : allowed s (.record metric)) (replied : ∀ s', (db s').jobs = (db s).jobs → ok () s') :
    Safe h assumed allowed ok thrown (record metric) s := by
  have answered := serves.metrics s metric
  apply safe_await (S := workerSignature) (c := .record metric)
  · exact fun _ => permitted
  · exact fun _ _ _ => replied _ (serves.elsewhere s (.record metric) (by simp) rfl).1
  · intro _ error threw
    rw [threw] at answered
    cases answered

/-- The lookup reads the row of the job. -/
theorem safe_lookup (serves : Serves h db) (permits : ∀ s (c : WorkerCall), c.Quiet → allowed s c) :
    Safe h assumed allowed
      (fun found s' => (db s').jobs = (db s).jobs ∧ found.2.2 = (db s).job? job.data.jobId)
      (fun _ s' => (db s').jobs = (db s).jobs) (lookup job) s := by
  apply Safe.bind
  refine serves.safe_clock (permits s _ trivial) fun executeStart s₁ same₁ => ?_
  apply Safe.bind
  refine serves.safe_clock (permits s₁ _ trivial) fun now s₂ same₂ => ?_
  apply Safe.bind
  apply safe_onServices
  refine serves.stores.safe_read (c := .findJob job.data.jobId) (by trivial) (permits s₂ _ trivial)
    (fun _ found s₃ same₃ answer => ?_) fun _ s₃ same₃ => ?_
  · obtain rfl : (db s₂).job? job.data.jobId = found := Except.ok.inj answer
    refine ⟨by rw [same₃, same₂, same₁], ?_⟩
    rw [Db.job?, same₂, same₁, Db.job?]
  · rw [same₃, same₂, same₁]

end Serves
end Parts
end OrchestrateModel
