import Orchestrate.Lifecycle.Release
import Orchestrate.Lifecycle.Serves

namespace OrchestrateModel

open Effect Program ChainService BaseProcessor

namespace WorkerCall

/-- The call writes a status to the row of a job. -/
def Writes (c : WorkerCall) (x : JobId) (status : JobStatus) : Prop :=
  ∃ change, c = .service (.db (.updateJob x change)) ∧ change.status = some status

/-- A call that writes neither COMPLETED nor READY to a row and adds none. -/
def Mild : WorkerCall → Prop
  | .service (.db (.updateJob _ change)) => change.status ≠ some .COMPLETED ∧ change.status ≠ some .READY
  | .service (.db (.insertJob _)) => False
  | _ => True

theorem mild_of_writes {c : ServiceCall} (noInsert : ¬ c.Inserts) {after : JobStatus}
    (writes : ∀ x change, c.Updates x change → change.status = some after)
    (other : after ≠ .COMPLETED ∧ after ≠ .READY) : Mild (.service c) := by
  cases c with
  | db statement =>
    cases statement with
    | insertJob columns => exact noInsert ⟨columns, rfl⟩
    | updateJob x change =>
      have given := writes x change rfl
      simp [Mild, given, other]
    | _ => trivial
  | _ => trivial

end WorkerCall

section Careful

variable {σ : Type} {h : Handler workerSignature Err σ} {db : σ → Db} {j : JobId} {job : BullJob} {s s' : σ}

/-- A call that keeps a row COMPLETED, and that skips no job then and makes no job READY before. -/
def Careful (h : Handler workerSignature Err σ) (db : σ → Db) (j : JobId) (s : σ) (c : WorkerCall) : Prop :=
  ((db s).status j = some .COMPLETED →
    (db (h s c).2).status j = some .COMPLETED ∧ ∀ x, ¬ c.Writes x .SKIPPED) ∧
  ((db s).status j ≠ some .COMPLETED → ∀ x, ¬ c.Writes x .READY)

def Complete (db : σ → Db) (j : JobId) (s : σ) : Prop := (db s).Keyed ∧ (db s).status j = some .COMPLETED

def Incomplete (db : σ → Db) (j : JobId) (s : σ) : Prop := (db s).Keyed ∧ (db s).status j ≠ some .COMPLETED

/-- The row is COMPLETED, or there is none. -/
def Past (db : σ → Db) (j : JobId) (s : σ) : Prop := Complete db j s ∨ ((db s).Keyed ∧ (db s).job? j = none)

/-- A call of the `try` block throws although the row is COMPLETED: the write of COMPLETED itself, which took
    effect, or the count of completions. -/
def Slips (h : Handler workerSignature Err σ) (db : σ → Db) (j : JobId) (v : σ × WorkerCall) : Prop :=
  (v.2.Writes j .COMPLETED ∨ ∃ queueName, v.2 = .incrementCompleted queueName) ∧ Throws h v ∧
    (db (h v.1 v.2).2).status j = some .COMPLETED

theorem Incomplete.jobs (incomplete : Incomplete db j s) (same : (db s').jobs = (db s).jobs) :
    Incomplete db j s' := by
  refine ⟨Stores.keyed_of_jobs same incomplete.1, ?_⟩
  rw [Stores.status_of_jobs same]
  exact incomplete.2

theorem Past.jobs (past : Past db j s) (same : (db s').jobs = (db s).jobs) : Past db j s' := by
  rcases past with ⟨keyed, completed⟩ | ⟨keyed, absent⟩
  · refine .inl ⟨Stores.keyed_of_jobs same keyed, ?_⟩
    rwa [Stores.status_of_jobs same]
  · refine .inr ⟨Stores.keyed_of_jobs same keyed, ?_⟩
    rwa [Db.job?, same]

theorem incomplete_of_absent (keyed : (db s).Keyed) (absent : (db s).job? j = none) : Incomplete db j s := by
  refine ⟨keyed, ?_⟩
  rw [Db.status, absent]
  simp

theorem Serves.careful_quiet (serves : Serves h db) {c : WorkerCall} (quiet : c.Quiet) : Careful h db j s c := by
  have other (x : JobId) (status : JobStatus) : ¬ c.Writes x status := by
    rintro ⟨change, rfl, _⟩
    exact quiet
  refine ⟨fun completed => ⟨?_, fun x => other x .SKIPPED⟩, fun _ x => other x .READY⟩
  rw [Stores.status_of_jobs (serves.jobs_same quiet)]
  exact completed

theorem Incomplete.saves (incomplete : Incomplete db j s) (saves : (db s).Saves (db s')) : Incomplete db j s' := by
  refine ⟨saves.keyed incomplete.1, ?_⟩
  rcases saves.status j with same | ⟨_, queued⟩
  · rw [same]
    exact incomplete.2
  · rw [queued]
    simp

/-- Mild calls before the row is COMPLETED. -/
theorem careful_of_mild {c : WorkerCall} (mild : c.Mild) (incomplete : Incomplete db j s) : Careful h db j s c := by
  refine ⟨fun completed => absurd completed incomplete.2, fun _ x => ?_⟩
  rintro ⟨change, rfl, ready⟩
  exact mild.2 ready

theorem Serves.incomplete (serves : Serves h db) {c : WorkerCall} (mild : c.Mild) (incomplete : Incomplete db j s) :
    Incomplete db j (h s c).2 := by
  cases c with
  | service call =>
    have noInsert : ¬ call.Inserts := by
      rintro ⟨columns, rfl⟩
      exact mild
    refine ⟨serves.stores.keyed noInsert incomplete.1, ?_⟩
    rcases serves.stores.status_call noInsert s j with same | ⟨change, status, rfl, given, changed⟩
    · rw [same]
      exact incomplete.2
    · rw [changed]
      intro completed
      exact mild.1 (given.trans completed)
  | process job => exact incomplete.saves (serves.saves s job)
  | _ => exact incomplete.jobs (serves.elsewhere s _ (by simp) rfl).1

/-- The writes of the handler of a completed job. -/
theorem Serves.careful_shifts (serves : Serves h db) {before after : JobStatus} {c : ServiceCall}
    (shifts : Shifts db before after s c) (apart : before ≠ .COMPLETED) (unskipped : after ≠ .SKIPPED)
    (complete : Complete db j s) : Careful h db j s (.service c) ∧ Complete db j (h s (.service c)).2 := by
  have kept := serves.stores.shifts_keep shifts (Ne.symm apart) complete.2
  refine ⟨⟨fun _ => ⟨kept, fun x => ?_⟩, fun incomplete => absurd complete.2 incomplete⟩,
    serves.stores.keyed shifts.1 complete.1, kept⟩
  rintro ⟨change, equal, skipped⟩
  have moved := (shifts.2 x change (WorkerCall.service.inj equal)).2
  rw [skipped] at moved
  exact unskipped (Option.some.inj moved).symm

/-- The parts of an attempt are careful as long as no call slips. -/
abbrev SafePart {α : Type} (h : Handler workerSignature Err σ) (db : σ → Db) (j : JobId) (ok : α → σ → Prop)
    (thrown : Err → σ → Prop) (program : WorkerProgram α) (s : σ) : Prop :=
  Safe h (fun s c => ¬ Slips h db j (s, c)) (Careful h db j) ok thrown program s

theorem Serves.safe_mild (serves : Serves h db) {α : Type} {program : WorkerProgram α} {ok : α → σ → Prop}
    {thrown : Err → σ → Prop}
    (mild : Safe h (fun s c => ¬ Slips h db j (s, c)) (fun _ c => c.Mild) (fun _ _ => True) (fun _ _ => True) program s)
    (incomplete : Incomplete db j s) (returns : ∀ value s', Incomplete db j s' → ok value s')
    (throws : ∀ error s', Incomplete db j s' → thrown error s') : SafePart h db j ok thrown program s :=
  (mild.keeping (Incomplete db j) (fun _ _ mild incomplete => serves.incomplete mild incomplete) incomplete).mono
    (fun _ _ both => careful_of_mild both.1 both.2) (fun value s' both => returns value s' both.2)
    fun error s' both => throws error s' both.2

theorem safe_of_only {α : Type} {program : WorkerProgram α} {assumed : σ → WorkerCall → Prop}
    (mild : program.Only WorkerCall.Mild) :
    Safe h assumed (fun _ c => c.Mild) (fun _ _ => True) (fun _ _ => True) program s :=
  mild.safe (fun _ _ _ _ => trivial) (fun _ _ mild _ => mild) trivial

/-- A call that does not concern the rows. -/
theorem Serves.safe_elsewhere (serves : Serves h db) {c : WorkerCall} {ok : workerSignature.Reply c → σ → Prop}
    {thrown : Err → σ → Prop} (quiet : c.Quiet) (replied : ∀ reply s', (db s').jobs = (db s).jobs → ok reply s')
    (failed : ¬ Slips h db j (s, c) → Throws h (s, c) → ∀ error s', (db s').jobs = (db s).jobs → thrown error s') :
    SafePart h db j ok thrown (awaitWork c) s := by
  have same := serves.jobs_same (s := s) quiet
  apply safe_await (S := workerSignature)
  · exact fun _ => serves.careful_quiet quiet
  · exact fun _ reply _ => replied reply _ same
  · exact fun unslipped error answer => failed unslipped (by simp [Throws, answer, Except.toBool]) error _ same

/-- The handler of a completed job never throws out of its capture, and it leaves the row as it is. -/
theorem Serves.safe_handled (serves : Serves h db) {thrown : Err → σ → Prop} (past : Past db j s) :
    SafePart h db j (fun _ s' => Past db j s') thrown (onServices (onJobCompleted j)).capture s := by
  apply Safe.capture
  apply safe_onServices
  rcases past with complete | ⟨keyed, absent⟩
  · have moves (s : σ) (c : ServiceCall)
        (shifts : Shifts db .WAITING_FOR_DEPENDENCIES .READY s c ∨ Shifts db .READY .QUEUED s c)
        (complete : Complete db j s) : Careful h db j s (.service c) ∧ Complete db j (h s (.service c)).2 := by
      rcases shifts with unlocks | queues
      · exact serves.careful_shifts unlocks (by simp) (by simp) complete
      · exact serves.careful_shifts queues (by simp) (by simp) complete
    exact ((serves.stores.safe_onJobCompleted complete.1 j).keeping (Complete db j)
      (fun s c shifts complete => (moves s c shifts complete).2) complete).mono
      (fun s c both => (moves s c both.1 both.2).1) (fun _ _ both => .inl both.2) fun _ _ both => .inl both.2
  · have stays {s' : σ} (same : db s' = db s) : Past db j s' := .inr (by rw [same]; exact ⟨keyed, absent⟩)
    apply Safe.bind
    refine serves.stores.safe_read (c := .findJob j) (by trivial) (serves.careful_quiet trivial)
      (fun _ found s₁ same answer => ?_) fun _ _ same => stays same
    obtain rfl : (db s).job? j = found := Except.ok.inj answer
    rw [absent]
    exact stays same

/-- The write of COMPLETED. -/
theorem Serves.safe_completed (serves : Serves h db) {change : JobChange} (given : change.status = some .COMPLETED)
    (incomplete : Incomplete db j s) :
    SafePart h db j (fun _ s' => Past db j s') (fun _ s' => Incomplete db j s')
      (onServices (JobRepo.update j change)) s := by
  have noInsert : ¬ ServiceCall.Inserts (.db (.updateJob j change)) := by
    rintro ⟨columns, equal⟩
    cases equal
  have keyed := serves.stores.keyed (s := s) noInsert incomplete.1
  rw [JobRepo.update, query, onServices_await]
  apply safe_await (S := workerSignature) (c := .service (.db (.updateJob j change)))
  · refine fun _ => ⟨fun completed => absurd completed incomplete.2, fun _ x => ?_⟩
    rintro ⟨other, equal, ready⟩
    cases equal
    rw [given] at ready
    cases ready
  · intro _ reply answer
    obtain ⟨env, _, effect⟩ := serves.stores.reply answer
    have effect : db (h s (.service (.db (.updateJob j change)))).2 = (db s).updateJob j change := effect
    cases row : (db s).job? j with
    | none =>
      refine .inr ⟨keyed, ?_⟩
      rw [effect, Db.job?_updateJob, if_pos rfl, row]
      rfl
    | some old =>
      refine .inl ⟨keyed, ?_⟩
      rw [effect, Db.status_updateJob (db s) j j .COMPLETED change given (by simp [Db.status, row]), if_pos rfl]
  · refine fun unslipped error answer => ⟨keyed, fun completed => unslipped ⟨.inl ⟨change, rfl, given⟩, ?_, completed⟩⟩
    have threw : (h s (.service (.db (.updateJob j change)))).1.toBool = false := by
      rw [answer]
      rfl
    exact threw

theorem mild_updateAttempt {attempt finishedAt : Nat} {status : JobStatus} {message : Option String} :
    (onServices (query (.updateAttempt attempt status finishedAt message))).Only WorkerCall.Mild :=
  only_onServices (only_await (S := serviceSignature) trivial)

theorem Serves.safe_afterSuccess (serves : Serves h db) (attempt : Attempt) (result : Option String)
    (incomplete : Incomplete db job.data.jobId s) :
    SafePart h db job.data.jobId (fun _ s' => Past db job.data.jobId s') (fun _ s' => Incomplete db job.data.jobId s')
      (afterSuccess job attempt result) s := by
  have ends {s : σ} (past : Past db job.data.jobId s) :
      SafePart h db job.data.jobId (fun _ s' => Past db job.data.jobId s')
        (fun _ s' => Incomplete db job.data.jobId s') (incrementCompleted job.queueName) s := by
    refine serves.safe_elsewhere trivial (fun _ s' same => past.jobs same) fun unslipped threw error s' same => ?_
    rcases past with complete | ⟨keyed, absent⟩
    · refine absurd ⟨.inr ⟨_, rfl⟩, threw, ?_⟩ unslipped
      rw [Stores.status_of_jobs (serves.jobs_same (by trivial))]
      exact complete.2
    · exact (incomplete_of_absent keyed absent).jobs same
  simp only [afterSuccess, bind_eq]
  apply Safe.bind
  refine serves.safe_clock (serves.careful_quiet trivial) fun now s₁ same₁ => ?_
  apply Safe.bind
  refine serves.safe_clock (serves.careful_quiet trivial) fun finish s₂ same₂ => ?_
  apply Safe.bind
  refine serves.safe_mild (safe_of_only mild_updateAttempt) ((incomplete.jobs same₁).jobs same₂)
    (fun _ s₃ incomplete₃ => ?_) fun _ _ incomplete => incomplete
  apply Safe.bind
  refine (serves.safe_completed rfl incomplete₃).mono (fun _ _ same => same) (fun _ s₄ past => ?_)
    fun _ _ incomplete => incomplete
  have closes {s : σ} (past : Past db job.data.jobId s) : SafePart h db job.data.jobId
      (fun _ s' => Past db job.data.jobId s') (fun _ s' => Incomplete db job.data.jobId s')
      ((record (.jobCompleted job.queueName job.data.jobType job.data.priorityLevel
        (((finish : Rat) - attempt.executeStart) / 1000) attempt.waitSeconds)).bind
          fun _ => incrementCompleted job.queueName) s := by
    apply Safe.bind
    exact serves.safe_record (serves.careful_quiet trivial) fun s' same => ends (past.jobs same)
  dsimp only
  split
  · apply Safe.bind
    exact (serves.safe_handled past).mono (fun _ _ same => same) (fun _ _ past => closes past) fun _ _ same => same
  · exact closes past

theorem mild_recordFailure (attempt : Attempt) (error : Err) :
    (recordFailure job attempt error).Only WorkerCall.Mild := by
  have clocks : (onServices clock).Only WorkerCall.Mild := only_onServices (only_await (S := serviceSignature) trivial)
  have writes {c : DbCall} (mild : WorkerCall.Mild (.service (.db c))) : (onServices (query c)).Only WorkerCall.Mild :=
    only_onServices (only_await (S := serviceSignature) mild)
  simp only [recordFailure, bind_eq, pure_eq_done]
  refine clocks.bind fun now => clocks.bind fun finish => (writes (by trivial)).bind fun _ => (writes (by trivial)).bind fun _ => ?_
  split
  · refine (writes ?_).bind fun _ => Only.bind (only_await trivial) fun _ => only_await trivial
    simp [WorkerCall.Mild]
  · exact only_done _

theorem Serves.safe_afterFailure (serves : Serves h db) (attempt : Attempt) (error : Err)
    (incomplete : Incomplete db job.data.jobId s) :
    SafePart h db job.data.jobId (fun _ s' => (db s').Keyed) (fun _ s' => (db s').Keyed)
      (afterFailure job attempt error) s := by
  rw [afterFailure_eq]
  apply Safe.bind
  refine serves.safe_mild (safe_of_only (mild_recordFailure attempt error)) incomplete (fun _ s₁ incomplete₁ => ?_)
    fun _ _ incomplete => incomplete.1
  apply Safe.bind
  refine serves.safe_mild (safe_onServices ?_) incomplete₁ (fun _ _ incomplete => incomplete.1)
    fun _ _ incomplete => incomplete.1
  refine (serves.stores.safe_handleParentFailure incomplete₁.1 job.data.jobId).mono (fun _ c moves => ?_)
    (fun _ _ _ => trivial) fun _ _ _ => trivial
  rcases moves with marks | shifts
  · exact WorkerCall.mild_of_writes marks.1 (fun x change updates => (marks.2 x change updates).2) (by simp)
  · exact WorkerCall.mild_of_writes shifts.1 (fun x change updates => (shifts.2 x change updates).2) (by simp)

/-- What follows `process`. -/
theorem Serves.safe_afterProcess (serves : Serves h db) (attempt : Attempt) (outcome : Except Err (Option String))
    (incomplete : Incomplete db job.data.jobId s) :
    SafePart h db job.data.jobId (fun _ s' => (db s').Keyed) (fun _ s' => (db s').Keyed)
      (afterProcess job attempt outcome) s := by
  have settled : SafePart h db job.data.jobId (fun _ s' => (db s').Keyed) (fun _ s' => (db s').Keyed)
      (settle job attempt outcome) s := by
    apply Safe.catching
    cases outcome with
    | error error => exact serves.safe_afterFailure attempt error incomplete
    | ok result =>
      refine (serves.safe_afterSuccess attempt result incomplete).mono (fun _ _ same => same) (fun _ _ past => ?_)
        fun error _ incomplete => serves.safe_afterFailure attempt error incomplete
      rcases past with complete | absent
      · exact complete.1
      · exact absent.1
  have ends (completion : Except Err Unit) {s : σ} (keyed : (db s).Keyed) :
      SafePart h db job.data.jobId (fun _ s' => (db s').Keyed) (fun _ s' => (db s').Keyed)
        (if outcome.toBool || isFinalFailure job then
          ((release job.data.tenantId job.queueName).capture).bind fun _ => .ofExcept completion
        else .ofExcept completion) s := by
    have returns {s : σ} (keyed : (db s).Keyed) : SafePart h db job.data.jobId (fun _ s' => (db s').Keyed)
        (fun _ s' => (db s').Keyed) (.ofExcept completion) s := by
      cases completion <;> exact keyed
    split
    · apply Safe.bind
      apply Safe.capture
      exact serves.safe_elsewhere trivial (fun _ _ same => returns (Stores.keyed_of_jobs same keyed))
        fun _ _ _ _ same => returns (Stores.keyed_of_jobs same keyed)
    · exact returns keyed
  rw [afterProcess_eq]
  apply Safe.bind
  apply Safe.capture
  exact settled.mono (fun _ _ same => same) (fun _ _ keyed => ends _ keyed) fun _ _ keyed => ends _ keyed

theorem mild_register (executeStart now : Nat) (existingJob : Option Job) :
    (register job executeStart now existingJob).Only WorkerCall.Mild := by
  have clocks : (onServices clock).Only WorkerCall.Mild := only_onServices (only_await (S := serviceSignature) trivial)
  have writes {c : DbCall} (mild : WorkerCall.Mild (.service (.db c))) : (query c).Only fun c => WorkerCall.Mild (.service c) :=
    only_await (S := serviceSignature) mild
  have tracks : (onServices (trackSequence job)).Only WorkerCall.Mild := by
    refine only_onServices ?_
    unfold trackSequence
    split
    · split
      · refine (writes (by trivial)).bind fun found => ?_
        cases found with
        | none => exact only_done _
        | some recurringJob => exact (writes (by trivial)).bind fun _ => only_done _
      · exact only_done _
    · refine (writes (by trivial)).bind fun found => (writes (by trivial)).bind fun _ => (writes ?_).bind fun _ => only_done _
      simp [WorkerCall.Mild]
  simp only [register, bind_eq, pure_eq_done]
  repeat' first
    | exact clocks
    | exact tracks
    | exact only_onServices (writes (by simp [WorkerCall.Mild]))
    | exact only_await trivial
    | exact only_done _
    | refine Only.bind ?_ fun _ => ?_
    | split

/-- One attempt. -/
theorem Serves.safe_execute (serves : Serves h db) (oneShot : isRecurring job = false) (keyed : (db s).Keyed) :
    SafePart h db job.data.jobId (fun _ s' => (db s').Keyed) (fun _ s' => (db s').Keyed) (execute job) s := by
  rw [execute_eq]
  apply Safe.bind
  refine (serves.safe_lookup fun s c quiet => serves.careful_quiet quiet).mono (fun _ _ same => same) ?_
    fun _ _ same => Stores.keyed_of_jobs same keyed
  rintro ⟨executeStart, now, existingJob⟩ s₁ ⟨same, found⟩
  have keyed₁ := Stores.keyed_of_jobs same keyed
  dsimp only at found ⊢
  split
  · apply Safe.bind
    apply Safe.capture
    exact serves.safe_elsewhere trivial (fun _ _ same₂ => Stores.keyed_of_jobs same₂ keyed₁)
      fun _ _ _ _ same₂ => Stores.keyed_of_jobs same₂ keyed₁
  · rename_i unfinished
    have incomplete : Incomplete db job.data.jobId s₁ := by
      refine ⟨keyed₁, fun completed => unfinished ?_⟩
      rw [Stores.status_of_jobs same] at completed
      obtain ⟨row, lookup, status⟩ := Db.status_eq_some.mp completed
      simp [shortcut, found, lookup, status, oneShot]
    apply Safe.bind
    refine serves.safe_mild (safe_of_only (mild_register executeStart now existingJob)) incomplete
      (fun attempt s₂ incomplete₂ => ?_) fun _ _ incomplete => incomplete.1
    have incomplete₃ := incomplete₂.saves (serves.saves s₂ job)
    apply Safe.bind
    apply Safe.capture
    exact safe_await (S := workerSignature) (c := .process job) (fun _ => careful_of_mild trivial incomplete₂)
      (fun _ result _ => serves.safe_afterProcess attempt (.ok result) incomplete₃)
      fun _ error _ => serves.safe_afterProcess attempt (.error error) incomplete₃

theorem careful_executions (serves : Serves h db) (oneShot : isRecurring job = false) (keyed : (db s).Keyed)
    {made : Nat} {tries : List (List (σ × workerSignature.Call))} (concluded : Executions h job made s tries s')
    (unslipped : ∀ v ∈ tries.flatten, ¬ Slips h db job.data.jobId v) :
    ∀ v ∈ tries.flatten, Careful h db job.data.jobId v.1 v.2 := by
  have safe (made : Nat) {s : σ} (keyed : (db s).Keyed) :
      SafePart h db job.data.jobId (fun _ s' => (db s').Keyed) (fun _ s' => (db s').Keyed)
        (execute { job with attemptsMade := made }) s := by
    have alike : isRecurring { job with attemptsMade := made } = false := oneShot
    exact serves.safe_execute alike keyed
  induction concluded with
  | returns ran =>
    rw [List.flatten_singleton] at unslipped ⊢
    exact (safe _ keyed).visited unslipped
  | exhausted ran last =>
    rw [List.flatten_singleton] at unslipped ⊢
    exact (safe _ keyed).visited unslipped
  | again ran more rest ih =>
    rw [List.flatten_cons, List.forall_mem_append] at unslipped ⊢
    have keyed' := (safe _ keyed).rethrows unslipped.1 ran
    exact ⟨(safe _ keyed).visited unslipped.1, ih keyed' unslipped.2⟩

/-- After careful calls a job that was made READY is not skipped. -/
theorem unlocked_stays {calls : List (σ × workerSignature.Call)} (linked : Program.Linked h s calls s')
    (careful : ∀ v ∈ calls, Careful h db j v.1 v.2) :
    calls.Pairwise fun v w => ∀ child, WorkerCall.Writes v.2 child .READY → ¬ WorkerCall.Writes w.2 child .SKIPPED := by
  induction calls generalizing s with
  | nil => exact .nil
  | cons v later ih =>
    obtain ⟨rfl, rest⟩ := linked
    obtain ⟨first, others⟩ := List.forall_mem_cons.mp careful
    refine List.pairwise_cons.mpr ⟨fun w member child ready skipped => ?_, ih rest others⟩
    have completed : (db v.1).status j = some .COMPLETED := by
      by_contra incomplete
      exact first.2 incomplete child ready
    have still := rest.always (fun s => (db s).status j = some .COMPLETED) (first.1 completed).1
      fun w member completed => ((others w member).1 completed).1
    exact ((others w member).1 (still w member)).2 child skipped

/-- As long as no call slips, no call changes the status COMPLETED of the row, and none skips a child that an earlier
    one unlocked. -/
theorem completed_absorbing (serves : Serves h db) (oneShot : isRecurring job = false) (keyed : (db s).Keyed)
    {tries : List (List (σ × workerSignature.Call))} (concluded : Executions h job 0 s tries s')
    (unslipped : ∀ v ∈ tries.flatten, ¬ Slips h db job.data.jobId v) :
    (∀ v ∈ tries.flatten, (db v.1).status job.data.jobId = some .COMPLETED →
      (db (h v.1 v.2).2).status job.data.jobId = some .COMPLETED) ∧
    tries.flatten.Pairwise fun v w => ∀ child, WorkerCall.Writes v.2 child .READY → ¬ WorkerCall.Writes w.2 child .SKIPPED := by
  have careful := careful_executions serves oneShot keyed concluded unslipped
  exact ⟨fun v member completed => ((careful v member).1 completed).1, unlocked_stays concluded.linked careful⟩

end Careful

theorem serves_failing {γ : Type} (env : Env) (gate : γ → JobQueuePayload → Except Err JobStatus × γ)
    (outcome : Except Err (Option String)) :
    Serves (failing WorkerCall.isAwaited (work env gate outcome)) fun s => s.2.1 := by
  have answers (c : WorkerCall) (s : List (Option Err) × Db × γ) :=
    failing_cases WorkerCall.isAwaited (work env gate outcome) s c
  refine ⟨⟨fun s c => ⟨env, ?_⟩, fun s c other => ?_⟩, fun s job => ?_, fun s c other _ => ?_, fun s => ?_, fun s metric => ?_⟩
  · rcases answers (.service (.db c)) s with ⟨later, answer⟩ | ⟨error, later, answer⟩
    · simp only [services, answer]
      exact .inl ⟨rfl, rfl⟩
    · simp only [services, answer]
      exact .inr ⟨rfl, .inl trivial⟩
  · rcases answers (.service c) s with ⟨later, answer⟩ | ⟨error, later, answer⟩
    · simp only [services, answer]
      cases c with
      | db statement => exact absurd rfl (other statement)
      | _ => exact ⟨rfl, rfl⟩
    · simp only [services, answer, and_self]
  · rcases answers (.process job) s with ⟨later, answer⟩ | ⟨error, later, answer⟩
    · simp only [answer]
      exact .refl _
    · simp only [answer]
      exact .refl _
  · rcases answers c s with ⟨later, answer⟩ | ⟨error, later, answer⟩
    · simp only [answer]
      cases c with
      | service call => exact absurd rfl (other call)
      | _ => exact ⟨rfl, rfl⟩
    · simp only [answer, and_self]
  · rw [failing_passes rfl]
    rfl
  · rw [failing_passes rfl]
    rfl

/-- The job of `solo` in a workflow, with a child that waits for it. -/
def soloParent : Db × Unit :=
  ({ Db.empty with
      jobs := [{ type := "send_email", retries := 2, tenantId := "t", userId := "u", workFlowId := some 2, id := 0, createdAt := 0 },
        { type := "send_email", status := .WAITING_FOR_DEPENDENCIES, tenantId := "t", userId := "u", workFlowId := some 2,
          id := 1, createdAt := 0 }]
      deps := [{ parentJobId := 0, childJobId := 1 }]
      drawn := 3 }, ())

/-- Both attempts: only the work of the first one throws, and the second one unlocks the child. -/
theorem parent_attempts : ∃ first last s',
    Executions (soloWorker (.ok none)) solo 0 (failsOnce, soloParent) [first, last] s' ∧
    (∃ v ∈ first, Throws (soloWorker (.ok none)) v) ∧ s'.2.1.status 0 = some .COMPLETED ∧
    s'.2.1.status 1 = some .QUEUED ∧
    ∀ v ∈ [first, last].flatten, Throws (soloWorker (.ok none)) v → v.2.isProcess = true :=
  ⟨_, _, _, .again rfl (by decide) (.returns rfl), by decide +kernel, by decide +kernel, by decide +kernel,
    by decide +kernel⟩

theorem completed_absorbing_parent : ∃ first last s',
    Executions (soloWorker (.ok none)) solo 0 (failsOnce, soloParent) [first, last] s' ∧
    (∃ v ∈ first, Throws (soloWorker (.ok none)) v) ∧ s'.2.1.status 0 = some .COMPLETED ∧
    s'.2.1.status 1 = some .QUEUED ∧
    (∀ v ∈ [first, last].flatten, v.1.2.1.status 0 = some .COMPLETED →
      (soloWorker (.ok none) v.1 v.2).2.2.1.status 0 = some .COMPLETED) ∧
    [first, last].flatten.Pairwise fun v w =>
      ∀ child, WorkerCall.Writes v.2 child .READY → ¬ WorkerCall.Writes w.2 child .SKIPPED := by
  obtain ⟨first, last, s', concluded, threw, completed, unlocked, work⟩ := parent_attempts
  refine ⟨first, last, s', concluded, threw, completed, unlocked, ?_⟩
  refine completed_absorbing (serves_failing Env.plain (fun g _ => (.ok .QUEUED, g)) (.ok none)) rfl (by decide) concluded
    fun v member slips => ?_
  have worked := work v member slips.2.1
  rcases slips.1 with ⟨change, write, _⟩ | ⟨queueName, count⟩
  · rw [write] at worked
    cases worked
  · rw [count] at worked
    cases worked

/-- The job with one attempt. -/
def soloOnce : BullJob := { solo with opts := { solo.opts with attempts := 1 } }

/-- `incrementCompleted` throws after the row was written COMPLETED, and the row of a last attempt becomes FAILED. -/
theorem completed_overwritten : ∃ tries s',
    Executions (soloWorker (.ok none)) soloOnce 0 (List.replicate 10 none ++ [some lost], soloStore) tries s' ∧
      ∃ v ∈ tries.flatten, v.1.2.1.status 0 = some .COMPLETED ∧
        (soloWorker (.ok none) v.1 v.2).2.2.1.status 0 = some .FAILED :=
  ⟨_, _, .exhausted rfl (by decide), by decide +kernel⟩

end OrchestrateModel
