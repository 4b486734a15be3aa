import Orchestrate.Lifecycle.Consumers

namespace OrchestrateModel

open Effect Program BaseProcessor BaseWorker

/-- What is counted outside the database: the reconcile counters of each queue, the released slots, and the entries of the
    dead-letter queues. -/
structure Tally where
  completed : String → Nat
  failed : String → Nat
  released : List (TenantId × String)
  letters : List DeadLetter

structure Books where
  db : Db
  tally : Tally

namespace Tally

def bump (counter : String → Nat) (queueName : String) : String → Nat :=
  fun other => if other = queueName then counter queueName + 1 else counter other

def complete (t : Tally) (queueName : String) : Tally := { t with completed := bump t.completed queueName }

def fail (t : Tally) (queueName : String) : Tally := { t with failed := bump t.failed queueName }

def release (t : Tally) (tenantId : TenantId) (queueName : String) : Tally :=
  { t with released := t.released ++ [(tenantId, queueName)] }

def post (t : Tally) (letter : DeadLetter) : Tally := { t with letters := t.letters ++ [letter] }

end Tally

/-- Rows may be added; those that are there, the attempts and what is counted stay as they are. -/
structure Undisturbed (b b' : Books) : Prop where
  rows : ∀ id row, b.db.job? id = some row → b'.db.job? id = some row
  attempts : b'.db.attempts = b.db.attempts
  tally : b'.tally = b.tally

/-- The work itself, and the calls that are not for the books. -/
def HostCall.Outside : HostCall → Prop
  | .work (.process _) | .work (.record _) | .work (.service .now) | .incr _ | .expire _ _ => True
  | _ => False

/-- A worker process that keeps books, and in which every call but the work itself succeeds. -/
structure Keeps {σ : Type} (h : Handler hostSignature Err σ) (books : σ → Books) : Prop where
  answers : ∀ s c, HostCall.Steady c → (h s c).1.toBool = true
  statement : ∀ s c, ServiceCall.Handles (.db c) → ∃ env,
    (h s (.work (.service (.db c)))).1 = ((books s).db.exec env c).1 ∧
      books (h s (.work (.service (.db c)))).2 = { books s with db := ((books s).db.exec env c).2 }
  released : ∀ s tenantId queueName, books (h s (.work (.release tenantId queueName))).2 =
    { books s with tally := (books s).tally.release tenantId queueName }
  completed : ∀ s queueName, books (h s (.work (.incrementCompleted queueName))).2 =
    { books s with tally := (books s).tally.complete queueName }
  failed : ∀ s queueName, books (h s (.work (.incrementFailed queueName))).2 =
    { books s with tally := (books s).tally.fail queueName }
  posted : ∀ s queueName name data removeOnComplete removeOnFail,
    books (h s (.deadLetterAdd queueName name data removeOnComplete removeOnFail)).2 =
      { books s with tally := (books s).tally.post ⟨queueName, name, data, removeOnComplete, removeOnFail⟩ }
  elsewhere : ∀ s c, HostCall.Outside c → Undisturbed (books s) (books (h s c).2)

/-- Where a job is in its course: its row, of no workflow, the attempts, and what is counted. -/
structure Course (b : Books) (j : JobId) (status : JobStatus) (attempts : List JobAttempt) (tally : Tally) : Prop where
  row : ∃ row, b.db.job? j = some row ∧ row.status = status ∧ row.workFlowId = none
  attempts : b.db.attempts = attempts
  tally : b.tally = tally

/-- The row of an attempt of the job that has ended. -/
structure Ended (job : BullJob) (id : Nat) (status : JobStatus) (row : JobAttempt) : Prop where
  id : row.id = id
  jobId : row.jobId = job.data.jobId
  number : row.attemptNumber = job.attemptsMade + 1
  status : row.status = status
  finished : row.finishedAt.isSome = true

namespace Course

variable {b b' : Books} {j : JobId} {status : JobStatus} {attempts : List JobAttempt} {tally : Tally}

theorem status_eq (course : Course b j status attempts tally) : b.db.status j = some status := by
  obtain ⟨row, found, same, _⟩ := course.row
  rw [Db.status, found, Option.map_some, same]

theorem undisturbed (course : Course b j status attempts tally) (same : Undisturbed b b') : Course b' j status attempts tally := by
  obtain ⟨row, found, own⟩ := course.row
  exact ⟨⟨row, same.rows j row found, own⟩, same.attempts.trans course.attempts, same.tally.trans course.tally⟩

theorem ofTables {db : Db} (course : Course b j status attempts tally) (jobs : db.jobs = b.db.jobs)
    (same : db.attempts = b.db.attempts) : Course { b with db := db } j status attempts tally := by
  obtain ⟨row, found, own⟩ := course.row
  refine ⟨⟨row, ?_, own⟩, same.trans course.attempts, course.tally⟩
  rw [Db.job?, jobs]
  exact found

theorem updated (course : Course b j status attempts tally) (change : JobChange) :
    Course { b with db := b.db.updateJob j change } j (change.status.getD status) attempts tally := by
  obtain ⟨row, found, same, own⟩ := course.row
  refine ⟨⟨row.change change, ?_, by rw [← same]; rfl, own⟩, course.attempts, course.tally⟩
  rw [Db.job?_updateJob, if_pos rfl, found, Option.map_some]

end Course

/-- The row is FAILED only after the last attempt has ended. -/
def Timely {σ C : Type} (books : σ → Books) (job : BullJob) (attempts : List JobAttempt) (s : σ) (_ : C) : Prop :=
  (books s).db.status job.data.jobId = some .FAILED → isFinalFailure job = true ∧
    ∃ row, (books s).db.attempts = attempts ++ [row] ∧ Ended job attempts.length .FAILED row

section Execution

variable {σ : Type} {h : Handler hostSignature Err σ} {books : σ → Books} {s : σ} {job : BullJob} {status : JobStatus}
  {attempts : List JobAttempt} {tally : Tally} {assumed : σ → WorkerCall → Prop}

/-- A statement that changes no row and no attempt. -/
def DbCall.Aside : DbCall → Prop
  | .updateJob _ _ | .insertJob _ | .insertDep _ _ | .insertRecurring _ _ _ _ _ | .insertAttempt _ _ _
  | .updateAttempt _ _ _ _ => False
  | _ => True

theorem DbCall.Aside.handles {c : DbCall} (aside : c.Aside) : ServiceCall.Handles (.db c) := by
  cases c <;> trivial

theorem DbCall.Aside.exec {c : DbCall} (aside : c.Aside) (env : Env) (db : Db) :
    (db.exec env c).2.jobs = db.jobs ∧ (db.exec env c).2.attempts = db.attempts := by
  cases c <;> first | exact ⟨rfl, rfl⟩ | exact aside.elim

/-- As long as the row is not FAILED, any call is timely. -/
theorem Course.timely (course : Course (books s) job.data.jobId status attempts tally) (unfailed : status ≠ .FAILED)
    {rows : List JobAttempt} {c : WorkerCall} : Timely books job rows s c := by
  intro failed
  rw [course.status_eq] at failed
  exact absurd (Option.some.inj failed) unfailed

/-- The status of the row while `process` runs. -/
def running (job : BullJob) (status : JobStatus) : JobStatus := if job.attemptsMade = 0 then .PROCESSING else status

theorem running_ne {other : JobStatus} (unequal : status ≠ other) (apart : other ≠ .PROCESSING) :
    running job status ≠ other := by
  unfold running
  split
  · exact apart.symm
  · exact unequal

/-- The row of an attempt that has begun. -/
def begun (job : BullJob) (id startedAt : Nat) : JobAttempt :=
  { id := id, jobId := job.data.jobId, attemptNumber := job.attemptsMade + 1, status := .PROCESSING,
    startedAt := startedAt }

/-- The attempt has begun. -/
def Began (books : σ → Books) (job : BullJob) (status : JobStatus) (attempts : List JobAttempt) (tally : Tally)
    (existingJob : Option Job) (attempt : Attempt) (s : σ) : Prop :=
  ∃ startedAt, attempt.attempt = begun job attempts.length startedAt ∧
    attempt.isWorkflowJob = existingJob.any (·.workFlowId.isSome) ∧
    Course (books s) job.data.jobId (running job status) (attempts ++ [begun job attempts.length startedAt]) tally

namespace Keeps

/-- A statement is answered as the database answers it. -/
theorem safe_query (keeps : Keeps h books) {c : DbCall} (handles : ServiceCall.Handles (.db c))
    {allowed : σ → WorkerCall → Prop} {ok : c.Reply → σ → Prop} {thrown : Err → σ → Prop}
    (permitted : allowed s (.service (.db c)))
    (replied : ∀ env reply s', ((books s).db.exec env c).1 = .ok reply →
      books s' = { books s with db := ((books s).db.exec env c).2 } → ok reply s') :
    Safe (worker h) assumed allowed ok thrown (onServices (query c)) s := by
  obtain ⟨env, answered, effect⟩ := keeps.statement s c handles
  have sure := keeps.answers s (.work (.service (.db c))) ⟨handles, rfl⟩
  rw [query, onServices_await]
  apply safe_await (S := workerSignature) (c := .service (.db c))
  · exact fun _ => permitted
  · intro _ reply answer
    exact replied env reply _ (answered.symm.trans answer) effect
  · intro _ error answer
    have threw : (h s (.work (.service (.db c)))).1 = .error error := answer
    rw [threw] at sure
    cases sure

/-- A statement that leaves the course of the job as it is. -/
theorem safe_aside (keeps : Keeps h books) {c : DbCall} (aside : c.Aside) {allowed : σ → WorkerCall → Prop}
    {ok : c.Reply → σ → Prop} {thrown : Err → σ → Prop} (permitted : allowed s (.service (.db c)))
    (course : Course (books s) job.data.jobId status attempts tally)
    (replied : ∀ env reply s', ((books s).db.exec env c).1 = .ok reply →
      Course (books s') job.data.jobId status attempts tally → ok reply s') :
    Safe (worker h) assumed allowed ok thrown (onServices (query c)) s := by
  refine keeps.safe_query aside.handles permitted fun env reply s' answer effect => replied env reply s' answer ?_
  rw [effect]
  exact course.ofTables (aside.exec env _).1 (aside.exec env _).2

theorem safe_outside (keeps : Keeps h books) {c : WorkerCall} (outside : HostCall.Outside (.work c)) (steady : c.Steady)
    {allowed : σ → WorkerCall → Prop} {ok : c.Reply → σ → Prop} {thrown : Err → σ → Prop} (permitted : allowed s c)
    (course : Course (books s) job.data.jobId status attempts tally)
    (replied : ∀ reply s', Course (books s') job.data.jobId status attempts tally → ok reply s') :
    Safe (worker h) assumed allowed ok thrown (awaitWork c) s := by
  have sure := keeps.answers s (.work c) steady
  apply safe_await (S := workerSignature)
  · exact fun _ => permitted
  · exact fun _ reply _ => replied reply _ (course.undisturbed (keeps.elsewhere s (.work c) outside))
  · intro _ error answer
    have threw : (h s (.work c)).1 = .error error := answer
    rw [threw] at sure
    cases sure

theorem safe_clock (keeps : Keeps h books) {allowed : σ → WorkerCall → Prop} {ok : Nat → σ → Prop}
    {thrown : Err → σ → Prop} (permitted : allowed s (.service .now))
    (course : Course (books s) job.data.jobId status attempts tally)
    (replied : ∀ now s', Course (books s') job.data.jobId status attempts tally → ok now s') :
    Safe (worker h) assumed allowed ok thrown (onServices clock) s := by
  rw [clock, onServices_await]
  exact keeps.safe_outside (c := .service .now) trivial ⟨trivial, rfl⟩ permitted course replied

theorem safe_lookup (keeps : Keeps h books) {rows : List JobAttempt} (unfailed : status ≠ .FAILED)
    (course : Course (books s) job.data.jobId status attempts tally) {thrown : Err → σ → Prop} :
    Safe (worker h) assumed (Timely books job rows)
      (fun found s' => Course (books s') job.data.jobId status attempts tally ∧
        ∃ row, found.2.2 = some row ∧ row.status = status ∧ row.workFlowId = none)
      thrown (lookup job) s := by
  apply Safe.bind
  refine keeps.safe_clock (course.timely unfailed) course fun executeStart s₁ course₁ => ?_
  apply Safe.bind
  refine keeps.safe_clock (course₁.timely unfailed) course₁ fun now s₂ course₂ => ?_
  apply Safe.bind
  refine keeps.safe_query (c := .findJob job.data.jobId) trivial (course₂.timely unfailed)
    fun env found s₃ answer effect => ?_
  obtain ⟨row, present, own⟩ := course₂.row
  have read : (books s₂).db.job? job.data.jobId = found := Except.ok.inj answer
  refine ⟨?_, row, read.symm.trans present, own⟩
  rw [effect]
  exact course₂

theorem safe_trackSequence (keeps : Keeps h books) (single : isRecurring job = false)
    {allowed : σ → WorkerCall → Prop} {ok : Nat → σ → Prop} {thrown : Err → σ → Prop}
    (permits : ∀ s' c, Course (books s') job.data.jobId status attempts tally → allowed s' c)
    (course : Course (books s) job.data.jobId status attempts tally)
    (replied : ∀ n s', Course (books s') job.data.jobId status attempts tally → ok n s') :
    Safe (worker h) assumed allowed ok thrown (onServices (trackSequence job)) s := by
  have tracks : trackSequence job = nextSequence job := if_neg (by simp [single])
  rw [tracks, nextSequence, bind_eq, onServices_bind]
  apply Safe.bind
  refine keeps.safe_aside (c := .findSequence job.queueName) trivial (permits _ _ course) course
    fun env found s₁ _ course₁ => ?_
  rw [bind_eq, onServices_bind]
  apply Safe.bind
  refine keeps.safe_aside (c := .saveSequence _) trivial (permits _ _ course₁) course₁ fun env _ s₂ _ course₂ => ?_
  rw [bind_eq, onServices_bind]
  apply Safe.bind
  refine keeps.safe_query (c := .updateJob job.data.jobId _) trivial (permits _ _ course₂) fun env _ s₃ _ effect => ?_
  apply replied
  rw [effect]
  exact course₂.updated _

theorem safe_register (keeps : Keeps h books) (single : isRecurring job = false) {rows : List JobAttempt}
    (unfailed : status ≠ .FAILED) (course : Course (books s) job.data.jobId status attempts tally)
    (executeStart now : Nat) (existingJob : Option Job) {thrown : Err → σ → Prop} :
    Safe (worker h) assumed (Timely books job rows)
      (Began books job status attempts tally existingJob) thrown
      (register job executeStart now existingJob) s := by
  have records {next : WorkerProgram Attempt} {ok : Attempt → σ → Prop}
      (rest : ∀ s', Course (books s') job.data.jobId status attempts tally →
        Safe (worker h) assumed (Timely books job rows) ok thrown next s') :
      Safe (worker h) assumed (Timely books job rows) ok thrown
        (if job.attemptsMade > 0 then (record (.jobRetry job.queueName job.data.jobType)).bind fun _ => next else next) s := by
    split
    · apply Safe.bind
      exact keeps.safe_outside (c := .record (.jobRetry job.queueName job.data.jobType)) trivial ⟨trivial, rfl⟩
        (course.timely unfailed) course fun _ s' course' => rest s' course'
    · exact rest s course
  simp only [register, bind_eq, pure_eq_done]
  apply records
  intro s₁ course₁
  apply Safe.bind
  refine keeps.safe_trackSequence single (fun s' c course' => course'.timely unfailed) course₁ fun n s₂ course₂ => ?_
  apply Safe.bind
  refine keeps.safe_clock (course₂.timely unfailed) course₂ fun startedAt s₃ course₃ => ?_
  apply Safe.bind
  refine keeps.safe_query (c := .insertAttempt job.data.jobId (job.attemptsMade + 1) startedAt) trivial
    (course₃.timely unfailed) fun env attempt s₄ answer effect => ?_
  obtain rfl : begun job attempts.length startedAt = attempt := by
    rw [← course₃.attempts]
    exact Except.ok.inj answer
  have course₄ : Course (books s₄) job.data.jobId status (attempts ++ [begun job attempts.length startedAt]) tally := by
    rw [effect]
    refine ⟨course₃.row, ?_, course₃.tally⟩
    simp only [Db.exec, course₃.attempts]
    rfl
  have logs (s₅ : σ) (course₅ : Course (books s₅) job.data.jobId (running job status)
      (attempts ++ [begun job attempts.length startedAt]) tally) (log : JobLog) (n : Nat) :
      Safe (worker h) assumed (Timely books job rows)
        (Began books job status attempts tally existingJob) thrown
        ((onServices (query (.insertLog log))).bind fun _ => .done
          ({ executeStart := executeStart
             waitSeconds := ((now : Rat) - job.timestamp) / 1000
             isWorkflowJob := existingJob.any (·.workFlowId.isSome)
             sequenceNumber := n
             attempt := begun job attempts.length startedAt } : Attempt)) s₅ := by
    apply Safe.bind
    refine keeps.safe_aside (c := .insertLog log) trivial (course₅.timely (running_ne unfailed (by decide))) course₅
      fun env _ s₆ _ course₆ => ?_
    exact ⟨startedAt, rfl, rfl, course₆⟩
  split
  · rename_i first
    apply Safe.bind
    refine keeps.safe_query (c := .updateJob job.data.jobId { status := some .PROCESSING }) trivial
      (course₄.timely unfailed) fun env _ s₅ _ effect => logs s₅ ?_ _ n
    rw [effect, running, if_pos first]
    exact course₄.updated _
  · rename_i later
    refine logs s₄ ?_ _ n
    rw [running, if_neg later]
    exact course₄

end Keeps

/-- The write that ends an attempt: the earlier rows have other ids. -/
theorem Course.ended {b : Books} (fresh : ∀ row ∈ attempts, row.id < attempts.length) {startedAt : Nat}
    (course : Course b job.data.jobId status (attempts ++ [begun job attempts.length startedAt]) tally) (env : Env)
    (ending : JobStatus) (now : Nat) (message : Option String) :
    ∃ row, Ended job attempts.length ending row ∧
      Course { b with db := (b.db.exec env (.updateAttempt attempts.length ending now message)).2 } job.data.jobId status
        (attempts ++ [row]) tally := by
  refine ⟨{ begun job attempts.length startedAt with
    status := ending, finishedAt := some now, errorMessage := message <|> none }, ⟨rfl, rfl, rfl, rfl, rfl⟩, course.row, ?_,
    course.tally⟩
  simp only [Db.exec, course.attempts, List.map_append, List.map_singleton]
  congr 1
  · conv_rhs => rw [← List.map_id attempts]
    apply List.map_congr_left
    intro row member
    exact if_neg (Nat.ne_of_lt (fresh row member))
  · simp [begun]

namespace Keeps

/-- What counts at the end of an attempt: a write to a counter. -/
theorem safe_counted (keeps : Keeps h books) {c : WorkerCall} (steady : c.Steady) {counted : Tally}
    {allowed : σ → WorkerCall → Prop} {ok : c.Reply → σ → Prop} {thrown : Err → σ → Prop} (permitted : allowed s c)
    (course : Course (books s) job.data.jobId status attempts tally)
    (effect : books (h s (.work c)).2 = { books s with tally := counted })
    (replied : ∀ reply s', Course (books s') job.data.jobId status attempts counted → ok reply s') :
    Safe (worker h) assumed allowed ok thrown (awaitWork c) s := by
  have sure := keeps.answers s (.work c) steady
  apply safe_await (S := workerSignature)
  · exact fun _ => permitted
  · intro _ reply _
    apply replied reply
    have left : books ((worker h) s c).2 = { books s with tally := counted } := effect
    rw [left]
    exact ⟨course.row, course.attempts, rfl⟩
  · intro _ error answer
    have threw : (h s (.work c)).1 = .error error := answer
    rw [threw] at sure
    cases sure

/-- After a success the attempt and the row are COMPLETED, and the queue's counter says so. -/
theorem safe_afterSuccess (keeps : Keeps h books) (fresh : ∀ row ∈ attempts, row.id < attempts.length)
    (unfailed : status ≠ .FAILED) {startedAt : Nat} {attempt : Attempt}
    (own : attempt.attempt = begun job attempts.length startedAt) (free : attempt.isWorkflowJob = false)
    (result : Option String)
    (course : Course (books s) job.data.jobId status (attempts ++ [begun job attempts.length startedAt]) tally) :
    Safe (worker h) assumed (Timely books job attempts)
      (fun _ s' => ∃ row, Ended job attempts.length .COMPLETED row ∧
        Course (books s') job.data.jobId .COMPLETED (attempts ++ [row]) (tally.complete job.queueName))
      (fun _ _ => False) (afterSuccess job attempt result) s := by
  obtain ⟨executeStart, waitSeconds, isWorkflowJob, sequenceNumber, recorded⟩ := attempt
  obtain rfl : recorded = begun job attempts.length startedAt := own
  obtain rfl : isWorkflowJob = false := free
  simp only [afterSuccess, bind_eq, Bool.false_eq_true, if_false]
  apply Safe.bind
  refine keeps.safe_clock (course.timely unfailed) course fun now s₁ course₁ => ?_
  apply Safe.bind
  refine keeps.safe_clock (course₁.timely unfailed) course₁ fun finish s₂ course₂ => ?_
  apply Safe.bind
  refine keeps.safe_query (c := .updateAttempt attempts.length .COMPLETED now none) trivial (course₂.timely unfailed)
    fun env _ s₃ _ effect => ?_
  obtain ⟨row, ended, course₃⟩ := course₂.ended fresh env .COMPLETED now none
  rw [← effect] at course₃
  apply Safe.bind
  refine keeps.safe_query (c := .updateJob job.data.jobId _) trivial (course₃.timely unfailed)
    fun env _ s₄ _ effect => ?_
  have course₄ : Course (books s₄) job.data.jobId .COMPLETED (attempts ++ [row]) tally := by
    rw [effect]
    exact course₃.updated _
  apply Safe.bind
  refine keeps.safe_outside (c := .record _) trivial ⟨trivial, rfl⟩ (course₄.timely (by decide)) course₄
    fun _ s₅ course₅ => ?_
  exact keeps.safe_counted (c := .incrementCompleted job.queueName) ⟨trivial, rfl⟩ (course₅.timely (by decide)) course₅
    ((keeps.completed s₅ job.queueName).trans (by rw [course₅.tally])) fun _ s₆ course₆ => ⟨row, ended, course₆⟩

/-- What `recordFailure` leaves: only after the last attempt is the row FAILED, and the queue's counter says so. -/
def FailedAttempt (books : σ → Books) (job : BullJob) (status : JobStatus) (attempts : List JobAttempt) (tally : Tally)
    (s : σ) : Prop :=
  ∃ row, Ended job attempts.length .FAILED row ∧
    Course (books s) job.data.jobId (if isFinalFailure job then .FAILED else status) (attempts ++ [row])
      (if isFinalFailure job then tally.fail job.queueName else tally)

theorem safe_recordFailure (keeps : Keeps h books) (fresh : ∀ row ∈ attempts, row.id < attempts.length)
    (unfailed : status ≠ .FAILED) {startedAt : Nat} {attempt : Attempt}
    (own : attempt.attempt = begun job attempts.length startedAt) (error : Err)
    (course : Course (books s) job.data.jobId status (attempts ++ [begun job attempts.length startedAt]) tally)
    {thrown : Err → σ → Prop} :
    Safe (worker h) assumed (Timely books job attempts)
      (fun _ s' => FailedAttempt books job status attempts tally s') thrown (recordFailure job attempt error) s := by
  obtain ⟨executeStart, waitSeconds, isWorkflowJob, sequenceNumber, recorded⟩ := attempt
  obtain rfl : recorded = begun job attempts.length startedAt := own
  simp only [recordFailure, bind_eq, pure_eq_done]
  apply Safe.bind
  refine keeps.safe_clock (course.timely unfailed) course fun now s₁ course₁ => ?_
  apply Safe.bind
  refine keeps.safe_clock (course₁.timely unfailed) course₁ fun finish s₂ course₂ => ?_
  apply Safe.bind
  refine keeps.safe_query (c := .updateAttempt attempts.length .FAILED now (some error.message)) trivial
    (course₂.timely unfailed) fun env _ s₃ _ effect => ?_
  obtain ⟨row, ended, course₃⟩ := course₂.ended fresh env .FAILED now (some error.message)
  rw [← effect] at course₃
  apply Safe.bind
  refine keeps.safe_aside (c := .insertLog _) trivial (course₃.timely unfailed) course₃ fun env _ s₄ _ course₄ => ?_
  split
  · rename_i final
    have timely {tally : Tally} {s' : σ} {c : WorkerCall}
        (course' : Course (books s') job.data.jobId .FAILED (attempts ++ [row]) tally) :
        Timely books job attempts s' c := fun _ => ⟨final, row, course'.attempts, ended⟩
    apply Safe.bind
    refine keeps.safe_query (c := .updateJob job.data.jobId { status := some .FAILED, completedAt := some now }) trivial
      (course₄.timely unfailed) fun env _ s₅ _ effect => ?_
    have course₅ : Course (books s₅) job.data.jobId .FAILED (attempts ++ [row]) tally := by
      rw [effect]
      exact course₄.updated _
    apply Safe.bind
    refine keeps.safe_outside (c := .record _) trivial ⟨trivial, rfl⟩ (timely course₅) course₅ fun _ s₆ course₆ => ?_
    refine keeps.safe_counted (c := .incrementFailed job.queueName) ⟨trivial, rfl⟩ (timely course₆) course₆
      ((keeps.failed s₆ job.queueName).trans (by rw [course₆.tally])) fun _ s₇ course₇ => ⟨row, ended, ?_⟩
    rw [if_pos final, if_pos final]
    exact course₇
  · rename_i retried
    refine ⟨row, ended, ?_⟩
    rw [if_neg retried, if_neg retried]
    exact course₄

/-- A job of no workflow has no children to skip. -/
theorem safe_afterFailure (keeps : Keeps h books) (fresh : ∀ row ∈ attempts, row.id < attempts.length)
    (unfailed : status ≠ .FAILED) {startedAt : Nat} {attempt : Attempt}
    (own : attempt.attempt = begun job attempts.length startedAt) (error : Err)
    (course : Course (books s) job.data.jobId status (attempts ++ [begun job attempts.length startedAt]) tally) :
    Safe (worker h) assumed (Timely books job attempts) (fun _ _ => False)
      (fun _ s' => FailedAttempt books job status attempts tally s') (afterFailure job attempt error) s := by
  rw [afterFailure_eq]
  apply Safe.bind
  refine (keeps.safe_recordFailure fresh unfailed own error course).mono (fun _ _ same => same) (fun _ s₁ failed => ?_)
    fun _ _ same => same
  obtain ⟨row, ended, course₁⟩ := failed
  have timely {c : WorkerCall} : Timely books job attempts s₁ c := by
    intro standing
    cases final : isFinalFailure job with
    | true => exact ⟨rfl, row, course₁.attempts, ended⟩
    | false =>
      rw [course₁.status_eq, final] at standing
      exact absurd (Option.some.inj standing) unfailed
  apply Safe.bind
  unfold ChainService.handleParentFailure
  rw [bind_eq, onServices_bind]
  apply Safe.bind
  refine keeps.safe_query (c := .findJob job.data.jobId) trivial timely fun env found s₂ answer effect => ?_
  obtain ⟨own, present, _, free⟩ := course₁.row
  have read : (books s₁).db.job? job.data.jobId = found := Except.ok.inj answer
  have alone : (found.bind fun parentJob => parentJob.workFlowId.map (parentJob, ·)) = none := by
    rw [← read, present, Option.bind_some, free, Option.map_none]
  rw [alone]
  refine ⟨row, ended, ?_⟩
  rw [effect]
  exact course₁

theorem safe_releases (keeps : Keeps h books) (final : Bool) {completion : Except Err Unit} {ok : Unit → σ → Prop}
    {thrown : Err → σ → Prop}
    (course : Course (books s) job.data.jobId status attempts tally)
    (timely : ∀ s', Course (books s') job.data.jobId status attempts tally →
      ∀ c : WorkerCall, Timely books job rows s' c)
    (ends : ∀ s', Course (books s') job.data.jobId status attempts
        (if final then tally.release job.data.tenantId job.queueName else tally) →
      Safe (worker h) assumed (Timely books job rows) ok thrown (.ofExcept completion) s') :
    Safe (worker h) assumed (Timely books job rows) ok thrown
      (if final then ((release job.data.tenantId job.queueName).capture).bind fun _ => .ofExcept completion
        else .ofExcept completion) s := by
  cases final with
  | false => exact ends s course
  | true =>
    have effect : books (h s (.work (.release job.data.tenantId job.queueName))).2 =
        { books s with tally := tally.release job.data.tenantId job.queueName } := by
      rw [keeps.released, course.tally]
    apply Safe.bind
    apply Safe.capture
    exact keeps.safe_counted (c := .release job.data.tenantId job.queueName) ⟨trivial, rfl⟩ (timely s course _) course
      effect fun _ s' course' => ends s' course'

/-- How an attempt ends, for the outcome of `process`: the row of the attempt, the job's row, the counter, and the slot. -/
def Concluded (books : σ → Books) (job : BullJob) (status : JobStatus) (attempts : List JobAttempt) (tally : Tally)
    (worked : Bool) (s : σ) : Prop :=
  if worked then
    ∃ row, Ended job attempts.length .COMPLETED row ∧ Course (books s) job.data.jobId .COMPLETED (attempts ++ [row])
      ((tally.complete job.queueName).release job.data.tenantId job.queueName)
  else
    ∃ row, Ended job attempts.length .FAILED row ∧
      Course (books s) job.data.jobId (if isFinalFailure job then .FAILED else status) (attempts ++ [row])
        (if isFinalFailure job then (tally.fail job.queueName).release job.data.tenantId job.queueName else tally)

theorem safe_afterProcess (keeps : Keeps h books) (fresh : ∀ row ∈ attempts, row.id < attempts.length)
    (unfailed : status ≠ .FAILED) {startedAt : Nat} {attempt : Attempt}
    (own : attempt.attempt = begun job attempts.length startedAt) (free : attempt.isWorkflowJob = false)
    (course : Course (books s) job.data.jobId status (attempts ++ [begun job attempts.length startedAt]) tally)
    (outcome : Except Err (Option String)) :
    Safe (worker h) assumed (Timely books job attempts)
      (fun _ s' => Concluded books job status attempts tally true s')
      (fun _ s' => Concluded books job status attempts tally false s') (afterProcess job attempt outcome) s := by
  rw [afterProcess_eq]
  apply Safe.bind
  apply Safe.capture
  unfold settle
  cases outcome with
  | ok result =>
    apply Safe.catching
    refine (keeps.safe_afterSuccess fresh unfailed own free result course).mono (fun _ _ same => same)
      (fun _ s₁ done => ?_) fun _ _ impossible => impossible.elim
    obtain ⟨row, ended, course₁⟩ := done
    exact keeps.safe_releases true course₁ (fun s' course' c => course'.timely (by decide))
      fun s₂ course₂ => ⟨row, ended, course₂⟩
  | error error =>
    refine (keeps.safe_afterFailure fresh unfailed own error course).mono (fun _ _ same => same)
      (fun _ _ impossible => impossible.elim) fun _ s₁ failed => ?_
    obtain ⟨row, ended, course₁⟩ := failed
    rw [show (Except.error error : Except Err (Option String)).toBool = false from rfl, Bool.false_or]
    refine keeps.safe_releases (isFinalFailure job) course₁ (fun s' course' c standing => ?_) fun s₂ course₂ => ⟨row, ended, ?_⟩
    · cases final : isFinalFailure job with
      | true => exact ⟨rfl, row, course'.attempts, ended⟩
      | false =>
        rw [course'.status_eq, final] at standing
        exact absurd (Option.some.inj standing) unfailed
    · cases final : isFinalFailure job with
      | true =>
        rw [final] at course₂
        exact course₂
      | false =>
        rw [final] at course₂
        exact course₂

/-- One attempt of a job that is neither completed nor failed, of no workflow and not recurring. -/
theorem safe_execute (keeps : Keeps h books) (single : isRecurring job = false)
    (fresh : ∀ row ∈ attempts, row.id < attempts.length) (uncompleted : status ≠ .COMPLETED) (unfailed : status ≠ .FAILED)
    (course : Course (books s) job.data.jobId status attempts tally) :
    Safe (worker h) assumed (Timely books job attempts)
      (fun _ s' => Concluded books job (running job status) attempts tally true s')
      (fun _ s' => Concluded books job (running job status) attempts tally false s') (execute job) s := by
  rw [execute_eq]
  apply Safe.bind
  refine (keeps.safe_lookup unfailed course).mono (fun _ _ same => same) ?_ fun _ _ same => same
  rintro ⟨executeStart, now, existingJob⟩ s₁ looked
  obtain ⟨course₁, row, rfl, own, free⟩ := looked
  have open_ : shortcut job (some row) = false := by
    simp [shortcut, own, uncompleted]
  dsimp only
  rw [open_, if_neg Bool.false_ne_true]
  apply Safe.bind
  refine (keeps.safe_register single unfailed course₁ executeStart now (some row)).mono (fun _ _ same => same) ?_
    fun _ _ same => same
  intro attempt s₂ began
  obtain ⟨startedAt, recorded, workflow, course₂⟩ := began
  have unfailed' : running job status ≠ .FAILED := running_ne unfailed (by decide)
  have alone : attempt.isWorkflowJob = false := by
    rw [workflow, Option.any_some, free]
    rfl
  have course₃ := course₂.undisturbed (keeps.elsewhere s₂ (.work (.process job)) trivial)
  apply Safe.bind
  apply Safe.capture
  exact safe_await (S := workerSignature) (c := .process job) (fun _ => course₂.timely unfailed')
    (fun _ result _ => keeps.safe_afterProcess fresh unfailed' recorded alone course₃ (.ok result))
    fun _ error _ => keeps.safe_afterProcess fresh unfailed' recorded alone course₃ (.error error)

end Keeps

theorem safe_onWorker {α : Type} {assumed allowed : σ → HostCall → Prop} {ok : α → σ → Prop} {thrown : Err → σ → Prop}
    {program : WorkerProgram α}
    (safe : Safe (worker h) (fun s c => assumed s (.work c)) (fun s c => allowed s (.work c)) ok thrown program s) :
    Safe h assumed allowed ok thrown (onWorker program) s := by
  induction program generalizing s with
  | done value => exact safe
  | throws error => exact safe
  | hangs => trivial
  | call c next ih =>
    intro answers
    obtain ⟨permitted, rest⟩ := safe answers
    exact ⟨permitted, ih _ rest⟩

/-- The rate limiter is off. -/
def Off (tenantRateLimit : Option Int) : Prop := ∀ limit, tenantRateLimit = some limit → limit ≤ 0

theorem processor_off {tenantRateLimit : Option Int} (off : Off tenantRateLimit) (job : BullJob) :
    processor tenantRateLimit job = onWorker (execute job) := by
  have passes : limitRate tenantRateLimit job = .done () := by
    cases tenantRateLimit with
    | none => rfl
    | some limit =>
      have negative := off limit rfl
      exact if_neg fun limited => absurd limited.1 (by omega)
  rw [processor, passes]
  rfl

/-- The entry that the last failure of the job leaves in the dead-letter queue. -/
def lastLetter (job : BullJob) : DeadLetter := ⟨job.queueName ++ "_DLQ", job.data.jobType, job.data, false, false⟩

/-- What is counted once the job has ended. -/
def endTally (job : BullJob) (ending : JobStatus) (tally : Tally) : Tally :=
  if ending = .COMPLETED then (tally.complete job.queueName).release job.data.tenantId job.queueName
  else ((tally.fail job.queueName).release job.data.tenantId job.queueName).post (lastLetter job)

/-- How an attempt ends that throws, the handler of `failed` included. -/
def Raised (books : σ → Books) (job : BullJob) (status : JobStatus) (attempts : List JobAttempt) (tally : Tally)
    (s : σ) : Prop :=
  ∃ row, Ended job attempts.length .FAILED row ∧
    Course (books s) job.data.jobId (if isFinalFailure job then .FAILED else status) (attempts ++ [row])
      (if isFinalFailure job then endTally job .FAILED tally else tally)

namespace Keeps

/-- Both handlers of `failed` add the job to the dead-letter queue after its last attempt. -/
theorem safe_raised (keeps : Keeps h books) {failed : BullJob → HostProgram Unit}
    (handler : failed = onFailed ∨ failed = WorkerRegistry.onFailed) (error : Err)
    (concluded : Concluded books job status attempts tally false s) {assumed : σ → HostCall → Prop} :
    Safe h assumed (Timely books job attempts) (fun _ _ => False) (fun _ s' => Raised books job status attempts tally s')
      (raised failed job error) s := by
  obtain ⟨row, ended, course⟩ := concluded
  cases final : isFinalFailure job with
  | false =>
    have quiet : raised failed job error = .throws error := by
      rcases handler with rfl | rfl
      · exact (raised_retried error final).1
      · exact (raised_retried error final).2
    rw [quiet]
    rw [final] at course
    refine ⟨row, ended, ?_⟩
    rw [final]
    exact course
  | true =>
    rw [final, if_pos rfl, if_pos rfl] at course
    have timely {tally : Tally} {s' : σ} {c : HostCall}
        (course' : Course (books s') job.data.jobId .FAILED (attempts ++ [row]) tally) :
        Timely books job attempts s' c := fun _ => ⟨final, row, course'.attempts, ended⟩
    have last : job.attemptsMade + 1 ≥ job.opts.attempts := of_decide_eq_true final
    have ends {s' : σ} (course' : Course (books s') job.data.jobId .FAILED (attempts ++ [row])
        (endTally job .FAILED tally)) : Raised books job status attempts tally s' := by
      refine ⟨row, ended, ?_⟩
      rw [final]
      exact course'
    have adds {ok : Unit → σ → Prop} (rest : ∀ s', Course (books s') job.data.jobId .FAILED (attempts ++ [row])
          (endTally job .FAILED tally) → ok () s') :
        Safe h assumed (Timely books job attempts) ok (fun _ s' => Raised books job status attempts tally s')
          (awaitHost (letter job)) s := by
      apply safe_await (S := hostSignature)
      · exact fun _ => timely course
      · intro _ _ _
        apply rest
        have effect : books (h s (letter job)).2 = { books s with tally := (books s).tally.post (lastLetter job) } :=
          keeps.posted ..
        rw [effect]
        exact ⟨course.row, course.attempts, congrArg (fun tally => tally.post (lastLetter job)) course.tally⟩
      · intro _ error threw
        have sure := keeps.answers s (letter job) trivial
        rw [threw] at sure
        cases sure
    rcases handler with rfl | rfl
    · have body : onFailed { job with attemptsMade := job.attemptsMade + 1 } = awaitHost (letter job) := if_pos last
      rw [raised, body]
      apply Safe.bind
      exact adds fun s' course' => ends course'
    · have body : WorkerRegistry.onFailed { job with attemptsMade := job.attemptsMade + 1 } =
          (awaitHost (letter job)).bind fun _ => onWorker (record (.dlqMove job.queueName job.data.jobType)) := if_pos last
      rw [raised, body, bind_assoc]
      apply Safe.bind
      refine adds fun s' course' => ?_
      apply Safe.bind
      apply safe_onWorker
      exact keeps.safe_outside (c := .record _) trivial ⟨trivial, rfl⟩ (timely course') course'
        fun _ s'' course'' => ends course''

/-- One attempt in the hands of either worker. -/
theorem safe_runAttempt (keeps : Keeps h books) {tenantRateLimit : Option Int} (off : Off tenantRateLimit)
    (consumer : Consumer) (single : isRecurring job = false) (fresh : ∀ row ∈ attempts, row.id < attempts.length)
    (uncompleted : status ≠ .COMPLETED) (unfailed : status ≠ .FAILED)
    (course : Course (books s) job.data.jobId status attempts tally) {assumed : σ → HostCall → Prop} :
    Safe h assumed (Timely books job attempts)
      (fun _ s' => Concluded books job (running job status) attempts tally true s')
      (fun _ s' => Raised books job (running job status) attempts tally s')
      (consumer.runAttempt tenantRateLimit job) s := by
  have whole : ∃ failed, (failed = onFailed ∨ failed = WorkerRegistry.onFailed) ∧
      consumer.runAttempt tenantRateLimit job = handled failed (onWorker (execute job)) job := by
    cases consumer with
    | base => exact ⟨onFailed, .inl rfl, by rw [runAttempt_base, processor_off off]⟩
    | autoscaled => exact ⟨WorkerRegistry.onFailed, .inr rfl, rfl⟩
  obtain ⟨failed, handler, whole⟩ := whole
  rw [whole]
  apply Safe.catching
  refine (safe_onWorker (keeps.safe_execute single fresh uncompleted unfailed course)).mono (fun _ _ same => same)
    (fun _ _ done => done) fun error s₁ concluded => ?_
  exact (keeps.safe_raised handler error concluded).mono (fun _ _ same => same)
    (fun _ _ impossible => impossible.elim) fun _ _ raised => raised

end Keeps
/-- BullMQ's runs of a job, each in the hands of one of the queue's workers. -/
abbrev RunsOn (h : Handler hostSignature Err σ) (tenantRateLimit : Option Int) (picked : Nat → Consumer) (job : BullJob) :
    Nat → σ → List (List (σ × HostCall)) → σ → Prop :=
  Attempts h job.opts.attempts fun made => (picked made).runAttempt tenantRateLimit { job with attemptsMade := made }

/-- The life of a job from the attempt numbered `made` on: `news` are the rows of its attempts, the last one of which starts
    in `s₁` and ends the job. -/
structure Lifecycle (h : Handler hostSignature Err σ) (books : σ → Books) (tenantRateLimit : Option Int)
    (picked : Nat → Consumer) (job : BullJob) (made : Nat) (attempts : List JobAttempt) (tally : Tally)
    (tries : List (List (σ × HostCall))) (s' : σ) (ending : JobStatus) (news : List JobAttempt) (s₁ : σ) : Prop where
  terminal : ending = .COMPLETED ∨ ending = .FAILED
  count : news.length = tries.length
  rows : ∀ i row, news[i]? = some row → Ended { job with attemptsMade := made + i } (attempts.length + i)
    (if i + 1 < tries.length then .FAILED else ending) row
  course : Course (books s') job.data.jobId ending (attempts ++ news) (endTally job ending tally)
  timely : ∀ v ∈ tries.flatten, (books v.1).db.status job.data.jobId = some .FAILED →
    ∃ closed, (books v.1).db.attempts = attempts ++ closed ∧ closed.length = tries.length ∧
      ∀ row ∈ closed, row.finishedAt.isSome = true
  last : ∃ earlier, tries = earlier ++
    [visited h ((picked (made + earlier.length)).runAttempt tenantRateLimit
      { job with attemptsMade := made + earlier.length }) s₁]
  unchanged : (books s₁).tally = tally

theorem isFinalFailure_iff (job : BullJob) (made : Nat) :
    isFinalFailure { job with attemptsMade := made } = decide (job.opts.attempts ≤ made + 1) := by
  rw [Bool.eq_iff_iff, isFinalFailure_made, decide_eq_true_eq]

theorem fresh_snoc {ending : JobStatus} {row : JobAttempt} (fresh : ∀ row ∈ attempts, row.id < attempts.length)
    (ended : Ended job attempts.length ending row) : ∀ other ∈ attempts ++ [row], other.id < (attempts ++ [row]).length := by
  intro other member
  rw [List.length_append, List.length_singleton]
  rcases List.mem_append.mp member with early | last
  · exact Nat.lt_succ_of_lt (fresh other early)
  · rw [List.mem_singleton.mp last, ended.id]
    exact Nat.lt_succ_self _

/-- The last attempt: the job ends. -/
theorem lifecycle_last {made : Nat} {tenantRateLimit : Option Int} {picked : Nat → Consumer} {s' : σ} {ending : JobStatus}
    {row : JobAttempt} (terminal : ending = .COMPLETED ∨ ending = .FAILED)
    (course : Course (books s) job.data.jobId status attempts tally)
    (timely : ∀ v ∈ visited h ((picked made).runAttempt tenantRateLimit { job with attemptsMade := made }) s,
      Timely books { job with attemptsMade := made } attempts v.1 v.2)
    (ended : Ended { job with attemptsMade := made } attempts.length ending row)
    (left : Course (books s') job.data.jobId ending (attempts ++ [row]) (endTally job ending tally)) :
    Lifecycle h books tenantRateLimit picked job made attempts tally
      [visited h ((picked made).runAttempt tenantRateLimit { job with attemptsMade := made }) s] s' ending [row] s where
  terminal := terminal
  count := rfl
  rows := by
    intro i other found
    cases i with
    | zero =>
      obtain rfl : row = other := by simpa using found
      exact ended
    | succ i => simp at found
  course := left
  timely := by
    rw [List.flatten_singleton]
    intro v member failed
    obtain ⟨_, closed, same, ended'⟩ := timely v member failed
    refine ⟨[closed], same, rfl, fun other own => ?_⟩
    rw [List.mem_singleton.mp own]
    exact ended'.finished
  last := ⟨[], rfl⟩
  unchanged := course.tally

/-- An attempt before the last one, and what follows it. -/
theorem lifecycle_again {made : Nat} {tenantRateLimit : Option Int} {picked : Nat → Consumer} {s' s₁ : σ}
    {ending : JobStatus} {row : JobAttempt} {news : List JobAttempt} {later : List (List (σ × HostCall))}
    (more : made + 1 < job.opts.attempts)
    (timely : ∀ v ∈ visited h ((picked made).runAttempt tenantRateLimit { job with attemptsMade := made }) s,
      Timely books { job with attemptsMade := made } attempts v.1 v.2)
    (ended : Ended { job with attemptsMade := made } attempts.length .FAILED row) (nonempty : later ≠ [])
    (rest : Lifecycle h books tenantRateLimit picked job (made + 1) (attempts ++ [row]) tally later s' ending news s₁) :
    Lifecycle h books tenantRateLimit picked job made attempts tally
      (visited h ((picked made).runAttempt tenantRateLimit { job with attemptsMade := made }) s :: later) s' ending
      (row :: news) s₁ where
  terminal := rest.terminal
  count := by rw [List.length_cons, List.length_cons, rest.count]
  rows := by
    intro i other found
    cases i with
    | zero =>
      obtain rfl : row = other := by simpa using found
      have positive := List.length_pos_iff.mpr nonempty
      rw [if_pos (by rw [List.length_cons]; omega)]
      exact ended
    | succ i =>
      have own := rest.rows i other (by simpa using found)
      rw [List.length_append, List.length_singleton] at own
      have shifted : made + 1 + i = made + (i + 1) := by omega
      have moved : attempts.length + 1 + i = attempts.length + (i + 1) := by omega
      rw [shifted, moved] at own
      simpa only [List.length_cons, Nat.add_lt_add_iff_right] using own
  course := by
    have course := rest.course
    rwa [List.append_assoc] at course
  timely := by
    rw [List.flatten_cons]
    intro v member failed
    rcases List.mem_append.mp member with early | late
    · have final := (timely v early failed).1
      rw [isFinalFailure_iff, decide_eq_true_eq] at final
      omega
    · obtain ⟨closed, same, count, finished⟩ := rest.timely v late failed
      refine ⟨row :: closed, by rw [same, List.append_assoc]; rfl, by rw [List.length_cons, count, List.length_cons], ?_⟩
      exact List.forall_mem_cons.mpr ⟨ended.finished, finished⟩
  last := by
    obtain ⟨earlier, same⟩ := rest.last
    refine ⟨visited h ((picked made).runAttempt tenantRateLimit { job with attemptsMade := made }) s :: earlier, ?_⟩
    have shifted : made + 1 + earlier.length = made + (earlier.length + 1) := by omega
    rw [same, List.length_cons, shifted]
    rfl
  unchanged := rest.unchanged

/-- The induction on the attempts. -/
theorem Keeps.lifecycle (keeps : Keeps h books) {tenantRateLimit : Option Int} (off : Off tenantRateLimit)
    {picked : Nat → Consumer} (single : isRecurring job = false) {made : Nat} {tries : List (List (σ × hostSignature.Call))}
    {s' : σ} (concluded : RunsOn h tenantRateLimit picked job made s tries s')
    (fresh : ∀ row ∈ attempts, row.id < attempts.length) (uncompleted : status ≠ .COMPLETED) (unfailed : status ≠ .FAILED)
    (course : Course (books s) job.data.jobId status attempts tally) :
    ∃ ending news s₁, Lifecycle h books tenantRateLimit picked job made attempts tally tries s' ending news s₁ := by
  have safe (made : Nat) {s : σ} {status : JobStatus} {attempts : List JobAttempt}
      (fresh : ∀ row ∈ attempts, row.id < attempts.length) (uncompleted : status ≠ .COMPLETED) (unfailed : status ≠ .FAILED)
      (course : Course (books s) job.data.jobId status attempts tally) :
      Safe h (fun _ _ => True) (Timely books { job with attemptsMade := made } attempts)
        (fun _ s' => Concluded books { job with attemptsMade := made } (running { job with attemptsMade := made } status)
          attempts tally true s')
        (fun _ s' => Raised books { job with attemptsMade := made } (running { job with attemptsMade := made } status)
          attempts tally s')
        ((picked made).runAttempt tenantRateLimit { job with attemptsMade := made }) s := by
    apply keeps.safe_runAttempt off (picked made)
    · exact single
    · exact fresh
    · exact uncompleted
    · exact unfailed
    · exact course
  have assured {made : Nat} {s : σ} (v : σ × HostCall)
      (_ : v ∈ visited h ((picked made).runAttempt tenantRateLimit { job with attemptsMade := made }) s) : True := trivial
  induction concluded generalizing status attempts with
  | @returns made s s' ran =>
    have attempted := safe made fresh uncompleted unfailed course
    obtain ⟨row, ended, left⟩ := attempted.returns assured ran
    exact ⟨.COMPLETED, [row], s, lifecycle_last (.inl rfl) course (attempted.visited assured) ended left⟩
  | @exhausted made s s' error ran last =>
    have attempted := safe made fresh uncompleted unfailed course
    obtain ⟨row, ended, left⟩ := attempted.rethrows assured ran
    rw [isFinalFailure_iff, decide_eq_true last] at left
    exact ⟨.FAILED, [row], s, lifecycle_last (.inr rfl) course (attempted.visited assured) ended left⟩
  | @again made s s₁ s' error later ran more rest ih =>
    have attempted := safe made fresh uncompleted unfailed course
    obtain ⟨row, ended, left⟩ := attempted.rethrows assured ran
    have retried : ¬ job.opts.attempts ≤ made + 1 := by omega
    rw [isFinalFailure_iff, decide_eq_false retried] at left
    obtain ⟨ending, news, s₂, life⟩ := ih (fresh_snoc fresh ended) (running_ne uncompleted (by decide))
      (running_ne unfailed (by decide)) left
    exact ⟨ending, row :: news, s₂, lifecycle_again more (attempted.visited assured) ended rest.ne_nil life⟩

/-- The life of a QUEUED job of no workflow, with the rate limiter off, whichever workers pick its attempts. -/
theorem attempt_lifecycle (keeps : Keeps h books) {tenantRateLimit : Option Int} (off : Off tenantRateLimit)
    (picked : Nat → Consumer) (single : isRecurring job = false)
    (fresh : ∀ row ∈ (books s).db.attempts, row.id < (books s).db.attempts.length)
    (queued : ∃ row, (books s).db.job? job.data.jobId = some row ∧ row.status = .QUEUED ∧ row.workFlowId = none)
    {tries : List (List (σ × hostSignature.Call))} {s' : σ}
    (concluded : RunsOn h tenantRateLimit picked job 0 s tries s') :
    ∃ ending news s₁, Lifecycle h books tenantRateLimit picked job 0 (books s).db.attempts (books s).tally tries s' ending
      news s₁ :=
  keeps.lifecycle off single concluded fresh (by decide) (by decide) ⟨queued, rfl, rfl⟩

end Execution

/-- A worker process that keeps books over one database; the work of attempt `n` has the outcome `outcomes n`. -/
def ledger (outcomes : Nat → Except Err (Option String)) : Handler hostSignature Err Books
  | b, .work (.service (.db c)) => ((b.db.exec Env.plain c).1, { b with db := (b.db.exec Env.plain c).2 })
  | b, .work (.service (.submitJob _)) => (.ok .QUEUED, b)
  | b, .work (.service .randomUUID) => (.ok b.db.drawn, { b with db := { b.db with drawn := b.db.drawn + 1 } })
  | b, .work (.service .now) => (.ok 0, b)
  | b, .work (.process job) => (outcomes job.attemptsMade, b)
  | b, .work (.release tenantId queueName) => (.ok (), { b with tally := b.tally.release tenantId queueName })
  | b, .work (.record _) => (.ok (), b)
  | b, .work (.incrementCompleted queueName) => (.ok (), { b with tally := b.tally.complete queueName })
  | b, .work (.incrementFailed queueName) => (.ok (), { b with tally := b.tally.fail queueName })
  | b, .incr _ => (.ok 1, b)
  | b, .expire _ _ => (.ok (), b)
  | b, .deadLetterAdd queueName name data removeOnComplete removeOnFail =>
    (.ok (), { b with tally := b.tally.post ⟨queueName, name, data, removeOnComplete, removeOnFail⟩ })

theorem keeps_ledger (outcomes : Nat → Except Err (Option String)) : Keeps (ledger outcomes) id where
  answers b c steady := by
    cases c with
    | work call =>
      cases call with
      | service call =>
        cases call with
        | db statement => cases statement <;> first | rfl | exact steady.1.elim
        | _ => rfl
      | process job => exact absurd steady.2 Bool.noConfusion
      | _ => rfl
    | _ => rfl
  statement b c _ := ⟨Env.plain, rfl, rfl⟩
  released _ _ _ := rfl
  completed _ _ := rfl
  failed _ _ := rfl
  posted _ _ _ _ _ _ := rfl
  elsewhere b c outside := by
    have same : Undisturbed b b := ⟨fun _ _ found => found, rfl, rfl⟩
    cases c with
    | work call =>
      cases call with
      | service call =>
        cases call with
        | now => exact same
        | _ => exact outside.elim
      | process | record => exact same
      | _ => exact outside.elim
    | incr | expire => exact same
    | _ => exact outside.elim

def soloBooks : Books := { db := soloStore.1, tally := ⟨fun _ => 0, fun _ => 0, [], []⟩ }

/-- The first attempt fails, and the second one works. -/
def secondTime (made : Nat) : Except Err (Option String) := if made = 0 then .error lost else .ok none

theorem attempt_lifecycle_solo : ∃ tries b ending news b₁, tries.length = 2 ∧
    Lifecycle (ledger secondTime) id none (fun _ => .base) solo 0 [] soloBooks.tally tries b ending news b₁ := by
  have concluded : RunsOn (ledger secondTime) none (fun _ => .base) solo 0 soloBooks _ _ :=
    .again rfl (by decide) (.returns rfl)
  have off : Off none := fun limit given => by cases given
  obtain ⟨ending, news, b₁, life⟩ := attempt_lifecycle (keeps_ledger secondTime) off (fun _ => .base) rfl
    (fun row member => by cases member) ⟨_, rfl, rfl, rfl⟩ concluded
  exact ⟨_, _, ending, news, b₁, rfl, life⟩

end OrchestrateModel
