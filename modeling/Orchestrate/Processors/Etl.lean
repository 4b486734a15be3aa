import Orchestrate.Effect.Fault
import Orchestrate.Lifecycle.Standing
import Orchestrate.Model.Etl

namespace OrchestrateModel

open Effect Program ChainService BaseProcessor

/-- The stores, with the ids of the next jobs whose rows were saved, and of those whose payloads were taken. -/
structure EtlStore (γ : Type) where
  store : Db × γ
  created : List JobId
  submitted : List JobId
  deriving DecidableEq

namespace EtlCall

/-- `randomUUID` and the clock are not awaited. -/
def isAwaited : EtlCall → Bool
  | .service .randomUUID | .service .now => false
  | _ => true

def saves : EtlCall → List JobId
  | .saveNext row => [row.id]
  | _ => []

def submits : EtlCall → List JobId
  | .service (.submitJob payload) => [payload.jobId]
  | _ => []

end EtlCall

namespace EtlStore

variable {γ : Type}

def db (s : EtlStore γ) : Db := s.store.1

/-- The calls of `process`; extract, transform and load fail as planned only. -/
def serve (env : Env) (gate : γ → JobQueuePayload → Except Err JobStatus × γ) : Handler etlSignature Err (EtlStore γ) :=
  fun s c =>
    let answer := serveEtl env gate (.ok ()) s.store c
    (answer.1,
      { store := answer.2
        created := s.created ++ c.saves
        submitted := if answer.1.toBool then s.submitted ++ c.submits else s.submitted })

/-- The other calls of `execute`. -/
def tend (env : Env) (gate : γ → JobQueuePayload → Except Err JobStatus × γ) :
    Handler workerSignature Err (EtlStore γ) :=
  fun s c =>
    let answer := work env gate (.ok none) s.store c
    (answer.1, { s with store := answer.2 })

/-- A worker whose awaited calls, those within `process` included, fail as planned. -/
structure Worker (γ : Type) where
  plan : Nat → Option (Fault Err)
  env : Nat → Env
  gate : γ → JobQueuePayload → Except Err JobStatus × γ
  fields : EtlFields
  result : Nat → Option String

/-- How the calls of `process` are answered. -/
def Worker.inner (w : Worker γ) : Handler etlSignature Err (Nat × EtlStore γ) :=
  planned EtlCall.isAwaited w.plan fun n => serve (w.env n) w.gate

abbrev Worker.process (w : Worker γ) (job : BullJob) : EtlProgram Unit :=
  ETLProcessor.process w.fields job.data job.opts.attempts job.queueName

/-- How the calls of `execute` are answered. -/
def Worker.serve (w : Worker γ) : Handler workerSignature Err (Nat × EtlStore γ)
  | s, .process job =>
    match (w.process job).run w.inner s with
    | (.ok (), s') => (.ok (w.result s'.1), s')
    | (.thrown error, s') => (.error error, s')
    | (.hung, s') => (.error { message := "" }, s')
  | s, c => planned WorkerCall.isAwaited w.plan (fun n => tend (w.env n) w.gate) s c

/-- A save of a next job's row that throws although it took effect, or a submission that throws without. -/
def Worker.Splits (w : Worker γ) (s : Nat × EtlStore γ) : EtlCall → Prop
  | .saveNext _ => ∃ fault ∈ w.plan s.1, fault.took = true
  | .service (.submitJob payload) =>
    (∃ fault ∈ w.plan s.1, fault.took = false) ∨ (w.gate s.2.store.2 payload).1.toBool = false
  | _ => False

instance (w : Worker γ) (s : Nat × EtlStore γ) : (c : EtlCall) → Decidable (w.Splits s c)
  | .saveNext _ => inferInstanceAs (Decidable (∃ fault ∈ w.plan s.1, fault.took = true))
  | .service (.submitJob _) => inferInstanceAs (Decidable (_ ∨ _))
  | .service (.db _) | .service .randomUUID | .service .now | .pipeline _ => .isFalse id

/-- Within the work of a job no call splits. -/
def Worker.Whole (w : Worker γ) (s : Nat × EtlStore γ) : WorkerCall → Prop
  | .process job => ∀ v ∈ visited w.inner (w.process job) s, ¬ w.Splits v.1 v.2
  | _ => True

instance (w : Worker γ) (s : Nat × EtlStore γ) : (c : WorkerCall) → Decidable (w.Whole s c)
  | .process _ => inferInstanceAs (Decidable (∀ v ∈ _, _))
  | .service _ | .release _ _ | .record _ | .incrementCompleted _ | .incrementFailed _ => .isTrue trivial

/-- No next job exists yet, and the job is not completed, unless it was so from the start. -/
structure Fresh (started : Option JobStatus) (j : JobId) (s : EtlStore γ) : Prop where
  uncreated : s.created = []
  unsubmitted : s.submitted = []
  unfinished : started ≠ some .COMPLETED → s.db.status j ≠ some .COMPLETED

/-- One next job exists, and it was submitted. -/
def Scheduled (s : EtlStore γ) : Prop := ∃ id, s.created = [id] ∧ s.submitted = [id]

def Once (started : Option JobStatus) (j : JobId) (s : EtlStore γ) : Prop := Fresh started j s ∨ Scheduled s

section Work

variable {w : Worker γ} {env : Env} {gate : γ → JobQueuePayload → Except Err JobStatus × γ}
  {started : Option JobStatus} {j : JobId} {s : EtlStore γ} {n : Nat} {job : BullJob} {nextJob : Metadata}

/-- The calls before the next job is saved. -/
def EarlyCall : EtlCall → Prop
  | .service (.db (.findJob _)) | .service .randomUUID | .pipeline _ => True
  | _ => False

theorem Fresh.early (fresh : Fresh started j s) {c : EtlCall} (early : EarlyCall c) :
    Fresh started j (serve env gate s c).2 := by
  have kept (c : EtlCall) (saves : c.saves = []) (submits : c.submits = [])
      (jobs : (serveEtl env gate (.ok ()) s.store c).2.1.jobs = s.db.jobs) : Fresh started j (serve env gate s c).2 := by
    refine ⟨?_, ?_, ?_⟩
    · show s.created ++ c.saves = []
      rw [saves, fresh.uncreated]
      rfl
    · show (if _ then s.submitted ++ c.submits else s.submitted) = []
      rw [submits, fresh.unsubmitted, List.append_nil, ite_self]
    · show _ → Db.status (serveEtl env gate (.ok ()) s.store c).2.1 j ≠ _
      rw [Stores.status_of_jobs jobs]
      exact fresh.unfinished
  unfold EarlyCall at early
  split at early
  · exact kept _ rfl rfl rfl
  · exact kept _ rfl rfl rfl
  · exact kept _ rfl rfl rfl
  · exact early.elim

theorem Fresh.early_planned (fresh : Fresh started j s) {c : EtlCall} (early : EarlyCall c) :
    Fresh started j (w.inner (n, s) c).2.2 := planned_keeps (Fresh started j) fresh (fresh.early early)

theorem early_checkDependency (depId : JobId) : (ETLProcessor.checkDependency depId).Only EarlyCall := by
  refine Only.bind (only_await (S := etlSignature) trivial) fun depJob => ?_
  cases depJob with
  | none => trivial
  | some depJob =>
    dsimp only
    split <;> trivial

/-- The row of the next job, once it is saved. -/
theorem Fresh.saved (fresh : Fresh started j s) (env : Env) (gate : γ → JobQueuePayload → Except Err JobStatus × γ)
    (row : EtlRow) :
    (serve env gate s (.saveNext row)).2.created = [row.id] ∧ (serve env gate s (.saveNext row)).2.submitted = [] := by
  refine ⟨?_, ?_⟩
  · show s.created ++ [row.id] = [row.id]
    rw [fresh.uncreated, List.nil_append]
  · show s.submitted ++ [] = []
    rw [fresh.unsubmitted, List.append_nil]

/-- No call of `process` splits. -/
abbrev SafeWork {α : Type} (w : Worker γ) (ok : α → Nat × EtlStore γ → Prop) (thrown : Err → Nat × EtlStore γ → Prop)
    (program : EtlProgram α) (s : Nat × EtlStore γ) : Prop :=
  Safe w.inner (fun s c => ¬ w.Splits s c) (fun _ _ => True) ok thrown program s

/-- The submission of a saved next job. -/
theorem safe_submitNext {payload : JobQueuePayload} (created : s.created = [payload.jobId])
    (unsubmitted : s.submitted = []) :
    SafeWork w (fun _ s' => Scheduled s'.2) (fun _ s' => Scheduled s'.2)
      (awaitEtl (.service (.submitJob payload))) (n, s) := by
  have taken (answered : (w.gate s.store.2 payload).1.toBool = true) :
      Scheduled (serve (w.env n) w.gate s (.service (.submitJob payload))).2 := by
    refine ⟨payload.jobId, ?_, ?_⟩
    · show s.created ++ [] = _
      rw [created, List.append_nil]
    · show (if (w.gate s.store.2 payload).1.toBool then s.submitted ++ [payload.jobId] else s.submitted) = _
      rw [if_pos answered, unsubmitted, List.nil_append]
  have sent (whole : ¬ w.Splits (n, s) (.service (.submitJob payload))) :
      Scheduled (w.inner (n, s) (.service (.submitJob payload))).2.2 := by
    have answered : (w.gate s.store.2 payload).1.toBool = true := by
      by_contra refused
      exact whole (.inr (Bool.not_eq_true _ ▸ refused))
    rcases planned_cases EtlCall.isAwaited w.plan (fun n => serve (w.env n) w.gate) n s
        (.service (.submitJob payload)) with answer | ⟨fault, fails, _, answer⟩
    · show Scheduled (planned _ _ _ _ _).2.2
      rw [answer]
      exact taken answered
    · show Scheduled (planned _ _ _ _ _).2.2
      rw [answer]
      cases fault with
      | refused error => exact absurd (.inl ⟨.refused error, fails, rfl⟩) whole
      | lost error => exact taken answered
  apply safe_await (S := etlSignature) (c := .service (.submitJob payload))
  · exact fun _ => trivial
  · exact fun whole _ _ => sent whole
  · exact fun whole _ _ => sent whole

theorem Fresh.safe_saveNext (fresh : Fresh started j s) (row : EtlRow) {ok : Unit → Nat × EtlStore γ → Prop}
    (replied : ∀ s' : Nat × EtlStore γ, s'.2.created = [row.id] → s'.2.submitted = [] → ok () s') :
    SafeWork w ok (fun _ s' => Once started j s'.2) (awaitEtl (.saveNext row)) (n, s) := by
  have saved := fresh.saved (w.env n) w.gate row
  have answers := planned_cases EtlCall.isAwaited w.plan (fun n => serve (w.env n) w.gate) n s (.saveNext row)
  apply safe_await (S := etlSignature) (c := .saveNext row)
  · exact fun _ => trivial
  · intro _ _ answer
    rcases answers with answered | ⟨fault, _, _, failed⟩
    · apply replied
      · rw [Worker.inner, answered]
        exact saved.1
      · rw [Worker.inner, answered]
        exact saved.2
    · rw [Worker.inner, failed] at answer
      cases answer
  · intro whole error answer
    rcases answers with answered | ⟨fault, fails, _, failed⟩
    · rw [Worker.inner, answered] at answer
      cases answer
    · rw [Worker.inner, failed]
      cases fault with
      | refused error => exact .inl fresh
      | lost error => exact absurd ⟨.lost error, fails, rfl⟩ whole

theorem Fresh.safe_scheduleNext (fresh : Fresh started j s) (data : JobQueuePayload) (attempts : Nat) (queueName : String)
    (nextJob : Metadata) :
    SafeWork w (fun _ s' => Scheduled s'.2) (fun _ s' => Once started j s'.2)
      (ETLProcessor.scheduleNext data attempts queueName nextJob) (n, s) := by
  apply Safe.bind
  apply safe_await (S := etlSignature) (c := .service .randomUUID)
  · exact fun _ => trivial
  · intro _ newJobId _
    have fresh : Fresh started j (w.inner (n, s) (.service .randomUUID)).2.2 := fresh.early_planned (by trivial)
    generalize (w.inner (n, s) (.service .randomUUID)).2 = drawn at fresh ⊢
    obtain ⟨n, s⟩ := drawn
    apply Safe.bind
    apply fresh.safe_saveNext
    intro s' created unsubmitted
    apply Safe.bind
    exact (safe_submitNext created unsubmitted).mono (fun _ _ same => same) (fun _ _ scheduled => scheduled)
      fun _ _ scheduled => .inr scheduled
  · exact fun _ _ _ => .inl (fresh.early_planned (by trivial))

theorem Fresh.safe_process (fresh : Fresh started j s) (carries : w.fields.nextJob job.data.metadata = some nextJob) :
    SafeWork w (fun _ s' => Scheduled s'.2) (fun _ s' => Once started j s'.2) (w.process job) (n, s) := by
  have keep (s : Nat × EtlStore γ) (c : EtlCall) (early : EarlyCall c) (fresh : Fresh started j s.2) :
      Fresh started j (w.inner s c).2.2 := fresh.early_planned early
  have early {α : Type} {program : EtlProgram α} (only : program.Only EarlyCall) (s : Nat × EtlStore γ)
      (fresh : Fresh started j s.2) :
      SafeWork w (fun _ s' => Fresh started j s'.2) (fun _ s' => Fresh started j s'.2) program s :=
    only.safe keep (fun _ _ _ _ => trivial) fresh
  have dependencies : (forEach (w.fields.dependsOn job.data.metadata) ETLProcessor.checkDependency).Only EarlyCall :=
    only_forEach fun depId _ => early_checkDependency depId
  have pipeline : (awaitEtl (.pipeline job.data.metadata)).Only EarlyCall := only_await (S := etlSignature) trivial
  unfold Worker.process ETLProcessor.process
  apply Safe.bind
  refine (early dependencies (n, s) fresh).mono (fun _ _ same => same) (fun _ s₁ fresh₁ => ?_)
    fun _ _ fresh => .inl fresh
  apply Safe.bind
  refine (early pipeline s₁ fresh₁).mono (fun _ _ same => same) (fun _ s₂ fresh₂ => ?_)
    fun _ _ fresh => .inl fresh
  rw [carries]
  obtain ⟨n, s⟩ := s₂
  exact fresh₂.safe_scheduleNext job.data job.opts.attempts job.queueName nextJob

theorem ends_process (w : Worker γ) (job : BullJob) : (w.process job).Ends := by
  apply Ends.bind
  · refine ends_forEach fun depId _ => Ends.bind (ends_await _) fun depJob => ?_
    cases depJob with
    | none => trivial
    | some depJob =>
      dsimp only
      split <;> trivial
  · refine fun _ => Ends.bind (ends_await _) fun _ => ?_
    cases w.fields.nextJob job.data.metadata with
    | none => trivial
    | some nextJob =>
      exact Ends.bind (ends_await _) fun _ => Ends.bind (ends_await _) fun _ => Ends.bind (ends_await _) fun _ => trivial

/-- A run of `process`. -/
theorem Fresh.worked (fresh : Fresh started j s) (carries : w.fields.nextJob job.data.metadata = some nextJob)
    (whole : w.Whole (n, s) (.process job)) :
    Once started j (w.serve (n, s) (.process job)).2.2 ∧
      ((w.serve (n, s) (.process job)).1.toBool = true → Scheduled (w.serve (n, s) (.process job)).2.2) := by
  have safe := fresh.safe_process (n := n) carries
  simp only [Worker.serve]
  cases ran : run w.inner (w.process job) (n, s) with
  | mk outcome s' =>
    cases outcome with
    | ok value =>
      have scheduled := safe.returns whole ran
      exact ⟨.inr scheduled, fun _ => scheduled⟩
    | thrown error => exact ⟨safe.rethrows whole ran, fun answered => by cases answered⟩
    | hung => exact absurd (congrArg Prod.fst ran) ((ends_process w job).run w.inner (n, s))

end Work

section Attempts

variable {w : Worker γ} {started : Option JobStatus} {j : JobId} {s s' : Nat × EtlStore γ} {job : BullJob}
  {nextJob : Metadata}

theorem Worker.serve_other (w : Worker γ) {c : WorkerCall} (unprocessed : c.isProcess = false) (s : Nat × EtlStore γ) :
    w.serve s c = planned WorkerCall.isAwaited w.plan (fun n => tend (w.env n) w.gate) s c := by
  cases c with
  | process job => cases unprocessed
  | _ => rfl

theorem Worker.stores (w : Worker γ) : Stores (services w.serve) fun s => s.2.db := by
  refine ⟨fun s c => ⟨w.env s.1, ?_⟩, fun s c other => ?_⟩
  · obtain ⟨n, s⟩ := s
    rcases planned_cases WorkerCall.isAwaited w.plan (fun n => tend (w.env n) w.gate) n s (.service (.db c)) with
      answer | ⟨fault, _, _, answer⟩
    · refine .inl ⟨?_, ?_⟩
      · rw [services, w.serve_other rfl, answer]
        rfl
      · rw [services, w.serve_other rfl, answer]
        rfl
    · refine .inr ⟨?_, ?_⟩
      · rw [services, w.serve_other rfl, answer]
        rfl
      · rw [services, w.serve_other rfl, answer]
        cases fault with
        | refused error => exact .inl rfl
        | lost error => exact .inr rfl
  · have kept : (w.serve s (.service c)).2.2.db.jobs = s.2.db.jobs ∧
        (w.serve s (.service c)).2.2.db.deps = s.2.db.deps := by
      rw [w.serve_other rfl]
      apply planned_keeps (fun after : EtlStore γ => after.db.jobs = s.2.db.jobs ∧ after.db.deps = s.2.db.deps)
        ⟨rfl, rfl⟩
      cases c with
      | db statement => exact absurd rfl (other statement)
      | _ => exact ⟨rfl, rfl⟩
    exact kept

/-- Only the work itself saves or submits a next job. -/
theorem Worker.kept (w : Worker γ) {c : WorkerCall} (unprocessed : c.isProcess = false) (s : Nat × EtlStore γ) :
    (w.serve s c).2.2.created = s.2.created ∧ (w.serve s c).2.2.submitted = s.2.submitted := by
  rw [w.serve_other unprocessed]
  exact planned_keeps (fun after : EtlStore γ => after.created = s.2.created ∧ after.submitted = s.2.submitted)
    ⟨rfl, rfl⟩ ⟨rfl, rfl⟩

theorem Scheduled.kept (scheduled : Scheduled s.2) {c : WorkerCall} (unprocessed : c.isProcess = false) :
    Scheduled (w.serve s c).2.2 := by
  obtain ⟨id, created, submitted⟩ := scheduled
  have same := w.kept unprocessed s
  exact ⟨id, same.1.trans created, same.2.trans submitted⟩

/-- Before the work has succeeded nothing writes COMPLETED. -/
theorem Fresh.kept (fresh : Fresh started j s.2) {c : WorkerCall} (unprocessed : c.isProcess = false) (mild : c.Mild) :
    Fresh started j (w.serve s c).2.2 := by
  have same := w.kept unprocessed s
  refine ⟨same.1.trans fresh.uncreated, same.2.trans fresh.unsubmitted, ?_⟩
  cases c with
  | service call =>
    have noInsert : ¬ call.Inserts := by
      rintro ⟨columns, rfl⟩
      exact mild
    rcases w.stores.status_call noInsert s j with same | ⟨change, status, rfl, given, changed⟩
    · rw [services] at same
      rw [same]
      exact fresh.unfinished
    · rw [services] at changed
      rw [changed]
      intro _ completed
      exact mild.1 (given.trans completed)
  | process job => cases unprocessed
  | release | record | incrementCompleted | incrementFailed =>
    rw [w.serve_other unprocessed]
    exact planned_keeps (fun after : EtlStore γ => started ≠ some .COMPLETED → after.db.status j ≠ some .COMPLETED)
      fresh.unfinished fresh.unfinished

/-- A call that writes neither COMPLETED nor READY, and is no work. -/
def Plain (c : WorkerCall) : Prop := c.isProcess = false ∧ c.Mild

theorem plain_query {c : DbCall} (mild : WorkerCall.Mild (.service (.db c))) :
    (query c).Only fun c => Plain (.service c) := only_await (S := serviceSignature) ⟨rfl, mild⟩

theorem plain_of_reads (c : ServiceCall) (reads : c.Reads) : Plain (.service c) := by
  refine ⟨rfl, ?_⟩
  cases c with
  | db statement => cases statement <;> trivial
  | _ => trivial

theorem plain_handleParentFailure (parentJobId : JobId) :
    (handleParentFailure parentJobId).Only fun c => Plain (.service c) := by
  refine (plain_query (by trivial)).bind fun found => ?_
  split
  · exact only_done _
  · refine (plain_query (by trivial)).bind fun deps => Only.bind (only_forEach fun dep _ => ?_) fun _ => ?_
    · unfold skipChild
      split
      · exact only_done _
      · refine (plain_query (by trivial)).bind fun fullChild => ?_
        cases fullChild with
        | none => exact only_done _
        | some fullChild =>
          dsimp only
          split
          · exact plain_query (by simp [WorkerCall.Mild])
          · exact only_done _
    · refine (plain_query (by trivial)).bind fun count => ?_
      split
      · exact only_done _
      · refine Only.bind ((reads_pickNextJobGLobal _).mono plain_of_reads) fun candidate => ?_
        cases candidate with
        | none => exact only_done _
        | some candidate =>
          exact (plain_query (by simp [WorkerCall.Mild])).bind fun _ => (only_ofExcept _).bind fun _ =>
            (only_await (S := serviceSignature) ⟨rfl, trivial⟩).bind fun _ => only_done _

theorem plain_of_preparatory {α : Type} {program : WorkerProgram α} (prepares : program.Only WorkerCall.Preparatory)
    (mild : program.Only WorkerCall.Mild) : program.Only Plain :=
  (prepares.and mild).mono fun _ both => ⟨both.1.bookkeeping.1, both.2⟩

theorem plain_lookup (job : BullJob) : (lookup job).Only Plain := by
  have times : (onServices clock).Only Plain := only_onServices (only_await (S := serviceSignature) ⟨rfl, trivial⟩)
  exact times.bind fun _ => times.bind fun _ => (only_onServices (plain_query (by trivial))).bind fun _ => only_done _

theorem plain_release (job : BullJob) : (release job.data.tenantId job.queueName).capture.Only Plain :=
  (only_await (S := workerSignature) ⟨rfl, trivial⟩).capture

/-- What follows a failure of the work. -/
theorem plain_afterProcess (job : BullJob) (attempt : Attempt) (error : Err) :
    (afterProcess job attempt (.error error)).Only Plain := by
  rw [afterProcess_eq, settle]
  refine Only.bind (Only.capture (Only.catching (only_throws error) fun error => ?_)) fun completion => ?_
  · rw [afterFailure_eq]
    refine Only.bind ?_ fun _ => (only_onServices (plain_handleParentFailure _)).bind fun _ => only_throws error
    exact ((bookkeeping_recordFailure job attempt error).and (mild_recordFailure attempt error)).mono
      fun _ both => ⟨both.1.1, both.2⟩
  · split
    · exact (plain_release job).bind fun _ => only_ofExcept completion
    · exact only_ofExcept completion

/-- What follows the work is no work. -/
theorem unprocessed_afterProcess (job : BullJob) (attempt : Attempt) (outcome : Except Err (Option String)) :
    (afterProcess job attempt outcome).Only fun c : WorkerCall => c.isProcess = false := by
  rw [afterProcess_eq]
  refine Only.bind (Only.capture ((bookkeeping_settle job attempt outcome).mono fun _ quiet => quiet.1))
    fun completion => ?_
  split
  · exact ((plain_release job).mono fun _ plain => plain.1).bind fun _ => only_ofExcept completion
  · exact only_ofExcept completion

/-- The parts of an attempt whose work does not split. -/
abbrev SafeAttempt {α : Type} (w : Worker γ) (ok : α → Nat × EtlStore γ → Prop)
    (thrown : Err → Nat × EtlStore γ → Prop) (program : WorkerProgram α) (s : Nat × EtlStore γ) : Prop :=
  Safe w.serve w.Whole (fun _ _ => True) ok thrown program s

theorem Fresh.safe_plain (fresh : Fresh started j s.2) {α : Type} {program : WorkerProgram α}
    (plain : program.Only Plain) :
    SafeAttempt w (fun _ s' => Fresh started j s'.2) (fun _ s' => Fresh started j s'.2) program s := by
  have keep (s : Nat × EtlStore γ) (c : WorkerCall) (plain : Plain c) (fresh : Fresh started j s.2) :
      Fresh started j (w.serve s c).2.2 := fresh.kept plain.1 plain.2
  exact plain.safe keep (fun _ _ _ _ => trivial) fresh

theorem Scheduled.safe_unprocessed (scheduled : Scheduled s.2) {α : Type} {program : WorkerProgram α}
    (unprocessed : program.Only fun c : WorkerCall => c.isProcess = false) :
    SafeAttempt w (fun _ s' => Scheduled s'.2) (fun _ s' => Scheduled s'.2) program s := by
  have keep (s : Nat × EtlStore γ) (c : WorkerCall) (unprocessed : c.isProcess = false) (scheduled : Scheduled s.2) :
      Scheduled (w.serve s c).2.2 := scheduled.kept unprocessed
  exact unprocessed.safe keep (fun _ _ _ _ => trivial) scheduled

theorem Once.safe_failed (once : Once started j s.2) (attempt : Attempt) (error : Err) :
    SafeAttempt w (fun _ s' => Once started j s'.2) (fun _ s' => Once started j s'.2)
      (afterProcess job attempt (.error error)) s := by
  rcases once with fresh | scheduled
  · exact (fresh.safe_plain (plain_afterProcess job attempt error)).mono (fun _ _ same => same)
      (fun _ _ fresh => .inl fresh) fun _ _ fresh => .inl fresh
  · exact (scheduled.safe_unprocessed (unprocessed_afterProcess job attempt _)).mono (fun _ _ same => same)
      (fun _ _ scheduled => .inr scheduled) fun _ _ scheduled => .inr scheduled

/-- An attempt that no next job precedes. -/
theorem Fresh.safe_execute (fresh : Fresh started job.data.jobId s.2)
    (carries : w.fields.nextJob job.data.metadata = some nextJob) :
    SafeAttempt w (fun _ s' => Once started job.data.jobId s'.2) (fun _ s' => Once started job.data.jobId s'.2)
      (execute job) s := by
  rw [execute_eq]
  apply Safe.bind
  refine (fresh.safe_plain (plain_lookup job)).mono (fun _ _ same => same) ?_ fun _ _ fresh => .inl fresh
  rintro ⟨executeStart, now, existingJob⟩ s₁ fresh₁
  dsimp only
  split
  · apply Safe.bind
    exact (fresh₁.safe_plain (plain_release job)).mono (fun _ _ same => same) (fun _ _ fresh => .inl fresh)
      fun _ _ fresh => .inl fresh
  · apply Safe.bind
    refine (fresh₁.safe_plain (plain_of_preparatory (preparatory_register job executeStart now existingJob)
      (mild_register executeStart now existingJob))).mono (fun _ _ same => same) (fun attempt s₂ fresh₂ => ?_)
      fun _ _ fresh => .inl fresh
    apply Safe.bind
    apply Safe.capture
    apply safe_await (S := workerSignature) (c := .process job)
    · exact fun _ => trivial
    · intro whole result answer
      have worked := (fresh₂.worked carries whole).2 (by rw [answer]; rfl)
      exact (worked.safe_unprocessed (unprocessed_afterProcess job attempt _)).mono (fun _ _ same => same)
        (fun _ _ scheduled => .inr scheduled) fun _ _ scheduled => .inr scheduled
    · intro whole error answer
      exact (fresh₂.worked carries whole).1.safe_failed attempt error

/-- A retry may not schedule again: either nothing is scheduled yet, or the job is found completed. -/
def Spared (job : BullJob) (s : EtlStore γ) : Prop :=
  s.created = [] ∨ s.db.status job.data.jobId = some .COMPLETED ∧ isRecurring job = false

instance (job : BullJob) (s : EtlStore γ) : Decidable (Spared job s) :=
  inferInstanceAs (Decidable (_ ∨ _ ∧ _))

/-- The lookup of a completed job. -/
theorem Worker.safe_lookup (w : Worker γ) (completed : s.2.db.status job.data.jobId = some .COMPLETED)
    (oneShot : isRecurring job = false) :
    SafeAttempt w (fun found _ => shortcut job found.2.2 = true) (fun _ _ => True) (lookup job) s := by
  have time (s : Nat × EtlStore γ) {ok : Nat → Nat × EtlStore γ → Prop} (replied : ∀ now s', s'.2 = s.2 → ok now s') :
      SafeAttempt w ok (fun _ _ => True) (onServices clock) s := by
    have same : (w.serve s (.service .now)).2.2 = s.2 := by
      rw [w.serve_other rfl]
      exact planned_keeps (fun after : EtlStore γ => after = s.2) rfl rfl
    rw [clock, onServices_await]
    exact safe_await (S := workerSignature) (c := .service .now) (fun _ => trivial) (fun _ now _ => replied now _ same)
      fun _ _ _ => trivial
  apply Safe.bind
  refine time s fun executeStart s₁ same₁ => ?_
  apply Safe.bind
  refine time s₁ fun now s₂ same₂ => ?_
  apply Safe.bind
  apply safe_onServices
  refine w.stores.safe_read (c := .findJob job.data.jobId) (by trivial) trivial (fun env existingJob s₃ _ answer => ?_)
    fun _ _ _ => trivial
  have found : s₂.2.db.job? job.data.jobId = existingJob := Except.ok.inj answer
  rw [same₂, same₁] at found
  obtain ⟨row, lookup, status⟩ := Db.status_eq_some.mp completed
  rw [lookup] at found
  subst found
  show shortcut job (some row) = true
  simp [shortcut, status, oneShot]

/-- A completed job is not run again. -/
theorem Scheduled.safe_execute (scheduled : Scheduled s.2) (completed : s.2.db.status job.data.jobId = some .COMPLETED)
    (oneShot : isRecurring job = false) :
    SafeAttempt w (fun _ s' => Scheduled s'.2) (fun _ s' => Scheduled s'.2) (execute job) s := by
  have unprocessed {α : Type} {program : WorkerProgram α} (plain : program.Only Plain) :
      program.Only fun c : WorkerCall => c.isProcess = false := plain.mono fun _ plain => plain.1
  have found := ((w.safe_lookup completed oneShot).only (unprocessed (plain_lookup job))).keeping
    (fun s => Scheduled s.2) (fun _ _ both scheduled => scheduled.kept both.2) scheduled
  rw [execute_eq]
  apply Safe.bind
  refine found.mono (fun _ _ _ => trivial) ?_ fun _ _ both => both.2
  rintro ⟨executeStart, now, existingJob⟩ s₁ ⟨skips, scheduled₁⟩
  dsimp only at skips ⊢
  rw [if_pos skips]
  apply Safe.bind
  exact scheduled₁.safe_unprocessed (unprocessed (plain_release job))

/-- The state in which an attempt starts. -/
theorem head_execute {σ : Type} (h : Handler workerSignature Err σ) (job : BullJob) (s : σ) :
    (s, .service .now) ∈ (visited h (execute job) s).head? := rfl

/-- One attempt, as long as it may be made. -/
theorem Once.safe_execute (once : Once started job.data.jobId s.2)
    (carries : w.fields.nextJob job.data.metadata = some nextJob) (spared : Spared job s.2) :
    SafeAttempt w (fun _ s' => Once started job.data.jobId s'.2) (fun _ s' => Once started job.data.jobId s'.2)
      (execute job) s := by
  rcases once with fresh | scheduled
  · exact fresh.safe_execute carries
  · rcases spared with uncreated | ⟨completed, oneShot⟩
    · obtain ⟨id, created, _⟩ := scheduled
      rw [uncreated] at created
      cases created
    · exact (scheduled.safe_execute completed oneShot).mono (fun _ _ same => same) (fun _ _ scheduled => .inr scheduled)
        fun _ _ scheduled => .inr scheduled

theorem once_executions {made : Nat} {tries : List (List ((Nat × EtlStore γ) × workerSignature.Call))}
    (carries : w.fields.nextJob job.data.metadata = some nextJob) (concluded : Executions w.serve job made s tries s')
    (once : Once started job.data.jobId s.2) (whole : ∀ v ∈ tries.flatten, w.Whole v.1 v.2)
    (spared : ∀ calls ∈ tries, ∀ v ∈ calls.head?, Spared job v.1.2) : Once started job.data.jobId s'.2 := by
  have each (made : Nat) {s : Nat × EtlStore γ} (once : Once started job.data.jobId s.2) (spared : Spared job s.2) :
      SafeAttempt w (fun _ s' => Once started job.data.jobId s'.2) (fun _ s' => Once started job.data.jobId s'.2)
        (execute { job with attemptsMade := made }) s := by
    have once : Once started { job with attemptsMade := made }.data.jobId s.2 := once
    exact once.safe_execute carries spared
  induction concluded with
  | @returns made s s' ran =>
    rw [List.flatten_singleton] at whole
    have start := spared _ List.mem_cons_self _ (head_execute _ _ s)
    exact (each made once start).returns whole ran
  | @exhausted made s s' error ran last =>
    rw [List.flatten_singleton] at whole
    have start := spared _ List.mem_cons_self _ (head_execute _ _ s)
    exact (each made once start).rethrows whole ran
  | @again made s s₁ s' error later ran more rest ih =>
    rw [List.flatten_cons] at whole
    obtain ⟨first, others⟩ := List.forall_mem_append.mp whole
    obtain ⟨head, retries⟩ := List.forall_mem_cons.mp spared
    have start := head _ (head_execute _ _ s)
    exact ih ((each made once start).rethrows first ran) others retries

end Attempts

/-- Over all attempts at most one next job is created, each is submitted, and one is if the job is completed, provided
    that no attempt's work splits and that no attempt starts with a next job there and the job not completed. -/
theorem oneSuccessor {w : Worker γ} {s s' : Nat × EtlStore γ} {job : BullJob} {nextJob : Metadata}
    {tries : List (List ((Nat × EtlStore γ) × workerSignature.Call))}
    (carries : w.fields.nextJob job.data.metadata = some nextJob) (uncreated : s.2.created = [])
    (unsubmitted : s.2.submitted = []) (concluded : Executions w.serve job 0 s tries s')
    (whole : ∀ v ∈ tries.flatten, w.Whole v.1 v.2)
    (spared : ∀ calls ∈ tries, ∀ v ∈ calls.head?, Spared job v.1.2) :
    s'.2.created.length ≤ 1 ∧ s'.2.submitted = s'.2.created ∧
      (s.2.db.status job.data.jobId ≠ some .COMPLETED → s'.2.db.status job.data.jobId = some .COMPLETED →
        s'.2.submitted.length = 1) := by
  have fresh : Fresh (s.2.db.status job.data.jobId) job.data.jobId s.2 := ⟨uncreated, unsubmitted, id⟩
  rcases once_executions carries concluded (.inl fresh) whole spared with fresh | ⟨id, created, submitted⟩
  · rw [fresh.uncreated, fresh.unsubmitted]
    exact ⟨by decide, rfl, fun unfinished completed => absurd completed (fresh.unfinished unfinished)⟩
  · rw [created, submitted]
    exact ⟨Nat.le_refl 1, rfl, fun _ _ => rfl⟩

section Chained

def etlPayload : JobQueuePayload :=
  { jobId := 0, jobType := "etl-jobs", tenantId := "t", retries := 2, queueName := "etl-jobs" }

/-- A job with two attempts. -/
def etlJob : BullJob :=
  { data := etlPayload, opts := jobsOptions etlPayload, attemptsMade := 0, queueName := "etl-jobs", timestamp := 0 }

def etlStart : Nat × EtlStore Unit :=
  (0,
    { store :=
        ({ Db.empty with
            jobs := [{ type := "etl-jobs", retries := 2, tenantId := "t", userId := "u", id := 0, createdAt := 0 }]
            drawn := 1 }, ())
      created := []
      submitted := [] })

/-- One call is refused. -/
def refusing (call : Nat) : Worker Unit :=
  { plan := fun n => if n = call then some (.refused lost) else none
    env := fun _ => .plain
    gate := fun g _ => (.ok .QUEUED, g)
    fields := { dependsOn := fun _ => [], nextJob := fun _ => some [] }
    result := fun _ => none }

/-- The two attempts of which the first one throws. -/
theorem executions_retried (call : Nat) (error : Err)
    (threw : (run (refusing call).serve (execute etlJob) etlStart).1 = .thrown error)
    (returned : (run (refusing call).serve (execute { etlJob with attemptsMade := 1 })
      (run (refusing call).serve (execute etlJob) etlStart).2).1 = .ok ()) :
    Executions (refusing call).serve etlJob 0 etlStart
      [visited (refusing call).serve (execute etlJob) etlStart,
        visited (refusing call).serve (execute { etlJob with attemptsMade := 1 })
          (run (refusing call).serve (execute etlJob) etlStart).2]
      (run (refusing call).serve (execute { etlJob with attemptsMade := 1 })
        (run (refusing call).serve (execute etlJob) etlStart).2).2 :=
  .again (Prod.ext threw rfl) (by decide) (.returns (Prod.ext returned rfl))

/-- The first attempt fails before the next job is saved, and the second one schedules it. -/
theorem oneSuccessor_retried :
    (run (refusing 12).serve (execute { etlJob with attemptsMade := 1 })
      (run (refusing 12).serve (execute etlJob) etlStart).2).2.2.created.length ≤ 1 := by
  have concluded := executions_retried 12 lost (by decide +kernel) (by decide +kernel)
  have carries : (refusing 12).fields.nextJob etlJob.data.metadata = some [] := rfl
  exact (oneSuccessor carries rfl rfl concluded (by decide +kernel) (by decide +kernel)).1

/-- The row of the attempt cannot be updated after the next job was submitted, and the retry creates another one. -/
theorem twoSuccessors :
    ¬ ∀ (w : Worker Unit) (s s' : Nat × EtlStore Unit) (job : BullJob) (nextJob : Metadata)
      (tries : List (List ((Nat × EtlStore Unit) × workerSignature.Call))),
      w.fields.nextJob job.data.metadata = some nextJob → s.2.created = [] → s.2.submitted = [] →
        Executions w.serve job 0 s tries s' →
          s'.2.created.length ≤ 1 ∧ s'.2.submitted = s'.2.created ∧
            (s.2.db.status job.data.jobId ≠ some .COMPLETED → s'.2.db.status job.data.jobId = some .COMPLETED →
              s'.2.submitted.length = 1) := by
  intro claimed
  have concluded := executions_retried 16 lost (by decide +kernel) (by decide +kernel)
  exact absurd (claimed _ _ _ _ [] _ rfl rfl rfl concluded).1 (by decide +kernel)

end Chained
end EtlStore
end OrchestrateModel
