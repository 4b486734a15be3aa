import Orchestrate.Workflow.Protocol

namespace OrchestrateModel

open Effect

/-- The moves of a job with `n` retries by hand among them. -/
inductive Journey : Nat → JobStatus → JobStatus → Prop where
  | stay {status : JobStatus} : Journey 0 status status
  | advance {n : Nat} {status before after : JobStatus} (earlier : Journey n status before)
      (move : Advance before after) : Journey n status after
  | requeued {n : Nat} {status : JobStatus} (earlier : Journey n status .FAILED) : Journey (n + 1) status .QUEUED

namespace Journey

variable {n m : Nat} {status status' status'' : JobStatus}

theorem of_forward (forward : Forward status status') : Journey 0 status status' := by
  induction forward with
  | refl => exact .stay
  | tail earlier move ih => exact .advance ih move

theorem trans (first : Journey n status status') (second : Journey m status' status'') :
    Journey (n + m) status status'' := by
  induction second with
  | stay => exact first
  | advance earlier move ih => exact .advance (ih first) move
  | requeued earlier ih => exact .requeued (ih first)

/-- No move leaves COMPLETED or SKIPPED. -/
theorem final (journey : Journey n status status') (ended : status = .COMPLETED ∨ status = .SKIPPED) :
    status' = status := by
  induction journey with
  | stay => rfl
  | advance earlier move ih =>
    have same := ih ended
    rcases ended with rfl | rfl
    · rw [same] at move
      cases move
    · rw [same] at move
      cases move
  | requeued earlier ih =>
    have same := ih ended
    rcases ended with rfl | rfl <;> cases same

/-- Only a retry by hand leaves FAILED. -/
theorem failed (journey : Journey n status status') (untouched : n = 0) (start : status = .FAILED) :
    status' = .FAILED := by
  induction journey with
  | stay => exact start
  | advance earlier move ih =>
    rw [ih untouched start] at move
    cases move
  | requeued earlier ih => omega

end Journey

/-- The event is a retry by hand that finds the job FAILED. -/
def WorkflowEvent.requeues (x : JobId) (s : Workflows) : WorkflowEvent → Bool
  | .retry _ _ jobId _ tenantId =>
    jobId = x && (s.db.job? jobId).any fun job => job.tenantId = tenantId ∧ job.status = .FAILED
  | .create .. | .start .. | .finish .. => false

/-- How many retries by hand of a run found the job FAILED. -/
def requeues (x : JobId) (visited : List (Workflows × WorkflowEvent)) : Nat :=
  visited.countP fun v => v.2.requeues x v.1

theorem requeues_snoc (x : JobId) (visited : List (Workflows × WorkflowEvent)) (s : Workflows) (event : WorkflowEvent) :
    requeues x (visited ++ [(s, event)]) = requeues x visited + if event.requeues x s then 1 else 0 := by
  simp [requeues, List.countP_append, List.countP_cons]

theorem requeues_iff {x jobId : JobId} {userId : UserId} {tenantId : TenantId} {env : Env} {staged : Bool} {s : Workflows} :
    (WorkflowEvent.retry env staged jobId userId tenantId).requeues x s = true ↔
      jobId = x ∧ s.db.Retries jobId tenantId := by
  simp [WorkflowEvent.requeues, Db.Retries, Option.any_eq_true]

/-- Nothing more, or the next job of a workflow is scheduled. -/
def Followed (s s' : Workflows) : Prop :=
  s' = s ∨ ∃ env staged workFlowId, Dispatched env staged workFlowId s s'

/-- What a step can do: a new workflow is written, or jobs move without a submission, each perhaps followed by
    the scheduling of the next job; or a FAILED job is queued again. -/
inductive Stepped (s : Workflows) (event : WorkflowEvent) (s' : Workflows) : Prop where
  | grown (rows : List Job) (links : List JobDependency) (db : Db) (grown : Grown s.db s.db.drawn rows links db)
      (quiet : ∀ x, event.requeues x s = false) (next : Followed { s with db := db } s')
  | calm (db : Db) (desk : Desk) (kept : Db.Kept s.db db) (forwards : Db.Forwards s.db db)
      (launched : ∀ x, db.Launched x ↔ s.db.Launched x) (submitted : desk.submitted = s.desk.submitted)
      (quiet : ∀ x, event.requeues x s = false) (next : Followed { db := db, desk := desk } s')
  | requeued (job : Job) (env : Env) (staged : Bool) (userId : UserId) (tenantId : TenantId)
      (row : s.db.job? job.id = some job) (failed : job.status = .FAILED)
      (again : ∀ x, event.requeues x s = decide (x = job.id))
      (db : s'.db = s.db.updateJob job.id { status := some .QUEUED })
      (desk : s'.desk = offered (Desk.accept staged env.now) job.type (retryPayload job userId tenantId) s.desk)

variable {s s' : Workflows} {event : WorkflowEvent}

theorem stepped_of_finished {env : Env} {staged : Bool} {workFlowId : WorkFlowId} {i : Nat} {entry settled : Entry}
    {written handled : Db} (finished : Finished env staged s i entry settled workFlowId written handled s')
    (writes : Db.Calm s.db written) (handles : Db.Calm written handled)
    (quiet : ∀ x, event.requeues x s = false) : Stepped s event s' := by
  refine .calm handled (s.desk.setEntry i settled) (finished.writes.trans finished.handles)
    (writes.forwards.trans handles.forwards) (fun x => ?_) rfl quiet (.inr ⟨env, staged, workFlowId, finished.schedules⟩)
  exact (handles.launched finished.handles x).trans (writes.launched finished.writes x)

open Classical in
theorem Sound.stepped (sound : Sound s) (moved : s.step event = some s') : Stepped s event s' := by
  cases event with
  | create env staged items userId tenantId =>
    rcases Workflows.create_cases sound.formed moved with
      rfl | ⟨rows, links, db', grown, rfl⟩ | ⟨rows, links, db₁, grown, _, dispatched⟩
    · exact .calm s'.db s'.desk (.refl _) (.refl _) (fun _ => .rfl) rfl (fun _ => rfl) (.inl rfl)
    · exact .grown rows links db' grown (fun _ => rfl) (.inl rfl)
    · exact .grown rows links db₁ grown (fun _ => rfl) (.inr ⟨env, staged, _, dispatched⟩)
  | start env i =>
    obtain ⟨entry, attempt, before, at_i, live, standing, desk, _, kept, changed⟩ := sound.start_status moved
    have calm : Db.Calm s.db s'.db := by
      apply Db.Calm.of_change standing changed
      rcases Entry.expected_busy live with rfl | rfl
      · exact .inr ⟨.started, by simp⟩
      · exact .inl rfl
    have submitted : s'.desk.submitted = s.desk.submitted := by
      rw [desk]
      rfl
    exact .calm s'.db s'.desk kept calm.forwards (calm.launched kept) submitted (fun _ => rfl) (.inl rfl)
  | finish env staged i outcome =>
    cases outcome with
    | ok result =>
      obtain ⟨entry, settled, workFlowId, written, handled, finished, _, status, unlocked⟩ := sound.finish_ok moved
      have writes : Db.Calm s.db written := .of_change finished.standing status (.inr ⟨.completed, by simp⟩)
      have handles : Db.Calm written handled :=
        .of_marks (fun y unlocks => .inl unlocks.2.1) unlocked ⟨.unlocked, by simp⟩
      exact stepped_of_finished finished writes handles (fun _ => rfl)
    | error error =>
      obtain ⟨entry, settled, workFlowId, written, handled, finished, _, _, _, status, skipped⟩ :=
        sound.finish_error moved
      have writes : Db.Calm s.db written :=
        .of_marks (fun y (both : y = entry.payload.jobId ∧ entry.Final) => .inl (both.1 ▸ finished.standing)) status
          ⟨.failed, by simp⟩
      have handles : Db.Calm written handled :=
        .of_marks (fun y skips => sound.skips_waiting finished status skips) skipped ⟨.skipped, by simp⟩
      exact stepped_of_finished finished writes handles (fun _ => rfl)
  | retry env staged jobId userId tenantId =>
    rcases Workflows.retry_cases moved with ⟨none_, rfl⟩ | ⟨retries, db, job, row, desk⟩
    · have quiet (x : JobId) :
          (WorkflowEvent.retry env staged jobId userId tenantId).requeues x s' = false := by
        rw [Bool.eq_false_iff]
        intro again
        exact none_ (requeues_iff.mp again).2
      exact .calm s'.db s'.desk (.refl _) (.refl _) (fun _ => .rfl) rfl quiet (.inl rfl)
    · have own := Db.id_of_job? row
      obtain ⟨job', row', tenant, failed⟩ := retries
      obtain rfl := Option.some.inj (row.symm.trans row')
      have again (x : JobId) :
          (WorkflowEvent.retry env staged jobId userId tenantId).requeues x s = decide (x = job.id) := by
        rw [own, Bool.eq_iff_iff, requeues_iff, decide_eq_true_eq]
        exact ⟨fun both => both.1.symm, fun same => ⟨same.symm, job, row, tenant, failed⟩⟩
      rw [← own] at row db
      exact .requeued job env staged userId tenantId row failed again db desk

theorem Followed.forwards (followed : Followed s s') : Db.Forwards s.db s'.db := by
  rcases followed with rfl | ⟨env, staged, workFlowId, dispatched⟩
  · exact .refl _
  · exact dispatched.forwards

theorem Sound.journey (sound : Sound s) (stepped : Stepped s event s') {x : JobId} {before : JobStatus}
    (standing : s.db.status x = some before) :
    ∃ after, s'.db.status x = some after ∧ Journey (if event.requeues x s then 1 else 0) before after := by
  have onward {middle : Workflows} (forwards : Db.Forwards s.db middle.db) (quiet : event.requeues x s = false)
      (next : Followed middle s') :
      ∃ after, s'.db.status x = some after ∧ Journey (if event.requeues x s then 1 else 0) before after := by
    obtain ⟨after, standing', forward⟩ := (forwards.trans next.forwards) x before standing
    refine ⟨after, standing', ?_⟩
    rw [quiet]
    exact .of_forward forward
  cases stepped with
  | grown rows links db grown quiet next =>
    have old : Db.Forwards s.db db := fun y before standing =>
      ⟨before, grown.status_old sound.formed standing, .refl⟩
    exact onward old (quiet x) next
  | calm db desk kept forwards launched submitted quiet next => exact onward forwards (quiet x) next
  | requeued job env staged userId tenantId row failed again db desk =>
    have standing' : s.db.status job.id = some .FAILED := by simp [Db.status, row, failed]
    have changed := Db.status_updateJob s.db job.id x .QUEUED { status := some .QUEUED } rfl (by simp [standing'])
    rw [again, db, changed]
    by_cases here : x = job.id
    · subst here
      obtain rfl := Option.some.inj (standing'.symm.trans standing)
      refine ⟨.QUEUED, if_pos rfl, ?_⟩
      simpa using Journey.requeued .stay
    · refine ⟨before, (if_neg here).trans standing, ?_⟩
      simpa [here] using Journey.stay

theorem journey_run {later : List (Workflows × WorkflowEvent)} (sound : Sound s) (run : workflows.Run s later s') :
    ∀ x before, s.db.status x = some before →
      ∃ after, s'.db.status x = some after ∧ Journey (requeues x later) before after := by
  have both : Sound s' ∧ ∀ x before, s.db.status x = some before →
      ∃ after, s'.db.status x = some after ∧ Journey (requeues x later) before after := by
    induction run with
    | nil => exact ⟨sound, fun x before standing => ⟨before, standing, .stay⟩⟩
    | @snoc later s₁ s₂ event earlier moved ih =>
      obtain ⟨sound₁, journeys⟩ := ih
      refine ⟨sound₁.step moved, fun x before standing => ?_⟩
      obtain ⟨middle, standing₁, first⟩ := journeys x before standing
      obtain ⟨after, standing₂, last⟩ := sound₁.journey (sound₁.stepped moved) standing₁
      rw [requeues_snoc]
      exact ⟨after, standing₂, first.trans last⟩
  exact both.2

/-- Between any two states of a run, each job moves forward but for as many moves from FAILED back to QUEUED as
    retries by hand found it FAILED; so COMPLETED and SKIPPED are final, and FAILED is until such a retry. -/
theorem statuses_journey {visited later : List (Workflows × WorkflowEvent)}
    (before : workflows.Run .empty visited s) (after : workflows.Run s later s') {x : JobId} {status : JobStatus}
    (standing : s.db.status x = some status) :
    ∃ status', s'.db.status x = some status' ∧ Journey (requeues x later) status status' ∧
      (status = .COMPLETED ∨ status = .SKIPPED → status' = status) ∧
      (status = .FAILED → requeues x later = 0 → status' = .FAILED) := by
  obtain ⟨status', standing', journey⟩ := journey_run (Sound.run before) after x status standing
  exact ⟨status', standing', journey, journey.final, fun failed untouched => journey.failed untouched failed⟩

/-- Both attempts of the first job fail; it is retried by hand. -/
def failedTwice : List WorkflowEvent :=
  [.start .plain 0, .finish .plain false 0 (.error { message := "bounced" }), .start .plain 0,
    .finish .plain false 0 (.error { message := "bounced" }), .retry .plain false 1 "user" "tenant"]

theorem statuses_journey_retried : ∃ s s', workflows.exec .empty [pairRequest] = some s ∧
    workflows.exec s failedTwice = some s' ∧
    ∃ status, s'.db.status 1 = some status ∧ Journey (requeues 1 (workflows.trace s failedTwice)) .QUEUED status := by
  have first : (workflows.exec .empty [pairRequest]).map (fun s =>
      (s.db.status 1, (workflows.exec s failedTwice).isSome)) = some (some .QUEUED, true) := by decide +kernel
  obtain ⟨s, created, same⟩ := Option.map_eq_some_iff.mp first
  obtain ⟨queued, ends⟩ := Prod.mk.inj same
  obtain ⟨s', ended⟩ := Option.isSome_iff_exists.mp ends
  obtain ⟨status, standing, journey, _⟩ :=
    statuses_journey (Machine.run_of_exec created) (Machine.run_of_exec ended) queued
  exact ⟨s, s', created, ended, status, standing, journey⟩

namespace Db

/-- The type of the job has the name of a queue. -/
def Named (db : Db) (x : JobId) : Prop :=
  ∃ job queueName, db.job? x = some job ∧ resolveQueueName job.type = .ok queueName

theorem Kept.named {db db' : Db} (kept : Kept db db') (x : JobId) : db'.Named x ↔ db.Named x := by
  have same := kept.column (·.type) (fun _ => rfl) x
  have read (db : Db) : db.Named x ↔
      ∃ jobType, (db.job? x).map (·.type) = some jobType ∧ ∃ queueName, resolveQueueName jobType = .ok queueName := by
    simp [Named]
  rw [read, read, same]

instance (db : Db) (x : JobId) : Decidable (db.Launched x) :=
  inferInstanceAs (Decidable (∃ status ∈ [JobStatus.QUEUED, .PROCESSING, .COMPLETED, .FAILED], db.status x = some status))

end Db

/-- A payload is handed over if the type of its job has the name of a queue. -/
theorem Desk.submissions_handed {desk : Desk} {x y : JobId} (staged : Bool) (now : Nat) {jobType : String}
    {payload : String → JobQueuePayload} (own : ∀ queueName, (payload queueName).jobId = x)
    (named : ∃ queueName, resolveQueueName jobType = .ok queueName) :
    (offered (accept staged now) jobType payload desk).submissions y =
      desk.submissions y + if y = x then 1 else 0 := by
  obtain ⟨queueName, resolved⟩ := named
  have handed : (offered (accept staged now) jobType payload desk).submitted =
      desk.submitted ++ [payload queueName] := by
    rw [offered, resolved]
    exact submitted_accept staged now _
  simp [submissions, handed, own, eq_comm]

theorem Desk.offered_unnamed {desk : Desk} (staged : Bool) (now : Nat) {jobType : String}
    {payload : String → JobQueuePayload} (unnamed : ¬ ∃ queueName, resolveQueueName jobType = .ok queueName) :
    offered (accept staged now) jobType payload desk = desk := by
  cases resolved : resolveQueueName jobType with
  | error error => rw [offered, resolved]
  | ok queueName => exact absurd ⟨queueName, resolved⟩ unnamed

/-- The submissions of each job: one when it is launched and one for each retry, if its type has the name of a
    queue. -/
structure Handed (again : JobId → Nat) (s : Workflows) : Prop where
  named : ∀ x, s.db.Named x → s.desk.submissions x = (if s.db.Launched x then 1 else 0) + again x
  unnamed : ∀ x, ¬ s.db.Named x → s.desk.submissions x = 0
  unknown : ∀ x, s.db.job? x = none → again x = 0

namespace Handed

variable {again : JobId → Nat}

theorem grown (handed : Handed again s) (formed : s.db.Formed) {workFlowId : WorkFlowId} {rows : List Job}
    {links : List JobDependency} {db : Db} (grown : Grown s.db workFlowId rows links db) :
    Handed again { s with db := db } := by
  refine ⟨fun x named => ?_, fun x unnamed => ?_, fun x absent => ?_⟩
  · rcases grown.job?_cases formed x with ⟨same, _⟩ | ⟨row, member, rfl, found⟩
    · have named' : s.db.Named x := by
        rwa [Db.Named, same] at named
      have launched : db.Launched x ↔ s.db.Launched x := by simp only [Db.Launched, Db.status, same]
      simpa only [launched] using handed.named x named'
    · have absent : s.db.job? row.id = none := by
        by_contra known
        obtain ⟨job, present⟩ := Option.ne_none_iff_exists'.mp known
        have standing : s.db.status row.id = some job.status := by simp [Db.status, present]
        exact grown.apart formed standing row member rfl
      have unnamed : ¬ s.db.Named row.id := fun given => by
        obtain ⟨job, queueName, present, _⟩ := given
        rw [absent] at present
        cases present
      have idle : ¬ db.Launched row.id := fun launched => by
        obtain ⟨status, listed, standing⟩ := launched
        rw [grown.status_new formed member] at standing
        obtain rfl := Option.some.inj standing
        rcases grown.fresh row member with ready | waiting
        · simp [ready] at listed
        · simp [waiting] at listed
      rw [if_neg idle, handed.unknown row.id absent]
      exact handed.unnamed row.id unnamed
  · apply handed.unnamed x
    intro named
    obtain ⟨job, queueName, present, resolved⟩ := named
    exact unnamed ⟨job, queueName, grown.job?_old formed present, resolved⟩
  · apply handed.unknown x
    by_contra known
    obtain ⟨job, present⟩ := Option.ne_none_iff_exists'.mp known
    rw [grown.job?_old formed present] at absent
    cases absent

theorem calm (handed : Handed again s) {db : Db} {desk : Desk} (kept : Db.Kept s.db db)
    (launched : ∀ x, db.Launched x ↔ s.db.Launched x) (submitted : desk.submitted = s.desk.submitted) :
    Handed again { db := db, desk := desk } := by
  have same (x : JobId) : desk.submissions x = s.desk.submissions x := by
    rw [Desk.submissions, Desk.submissions, submitted]
  refine ⟨fun x named => ?_, fun x unnamed => ?_, fun x absent => ?_⟩
  · rw [same]
    simpa only [launched] using handed.named x ((kept.named x).mp named)
  · rw [same]
    exact handed.unnamed x fun named => unnamed ((kept.named x).mpr named)
  · have absent' : s.db.job? x = none := by
      have fixed := kept.job? x
      rw [absent] at fixed
      simpa using fixed.symm
    exact handed.unknown x absent'

/-- A job's row is updated to QUEUED and its payload handed over; the job was not launched, or it counts as
    retried once more. -/
theorem queued (handed : Handed again s) {again' : JobId → Nat} {job : Job} (row : s.db.job? job.id = some job)
    (staged : Bool) (now : Nat) {payload : String → JobQueuePayload}
    (own : ∀ queueName, (payload queueName).jobId = job.id)
    (counts : ∀ x, (if x = job.id then 1 else if s.db.Launched x then 1 else 0) + again' x =
      (if s.db.Launched x then 1 else 0) + again x + if x = job.id then 1 else 0)
    (elsewhere : ∀ x, x ≠ job.id → again' x = again x) :
    Handed again'
      { db := s.db.updateJob job.id { status := some .QUEUED }
        desk := offered (Desk.accept staged now) job.type payload s.desk } := by
  have kept := Db.kept_updateJob s.db job.id { status := some .QUEUED }
  have standing : s.db.status job.id ≠ none := by simp [Db.status, row]
  have changed (x : JobId) := Db.status_updateJob s.db job.id x .QUEUED { status := some .QUEUED } rfl standing
  have launched (x : JobId) :
      (s.db.updateJob job.id { status := some .QUEUED }).Launched x ↔ x = job.id ∨ s.db.Launched x := by
    by_cases here : x = job.id
    · simp [Db.Launched, changed, here]
    · simp [Db.Launched, changed, here]
  refine ⟨fun x named => ?_, fun x unnamed => ?_, fun x absent => ?_⟩
  · have named' := (kept.named x).mp named
    have before := handed.named x named'
    have total := counts x
    simp only [launched]
    by_cases has : ∃ queueName, resolveQueueName job.type = .ok queueName
    · rw [Desk.submissions_handed staged now own has, before]
      by_cases here : x = job.id
      · simp only [here, if_true, true_or] at total ⊢
        omega
      · simp only [here, if_false, false_or] at total ⊢
        omega
    · have here : x ≠ job.id := by
        rintro rfl
        obtain ⟨job', queueName, row', resolved⟩ := named'
        obtain rfl := Option.some.inj (row.symm.trans row')
        exact has ⟨queueName, resolved⟩
      rw [Desk.offered_unnamed staged now has, before]
      simp only [here, if_false, false_or] at total ⊢
      omega
  · have unnamed' : ¬ s.db.Named x := fun named => unnamed ((kept.named x).mpr named)
    by_cases has : ∃ queueName, resolveQueueName job.type = .ok queueName
    · have here : x ≠ job.id := by
        rintro rfl
        obtain ⟨queueName, resolved⟩ := has
        exact unnamed' ⟨job, queueName, row, resolved⟩
      rw [Desk.submissions_handed staged now own has, handed.unnamed x unnamed', if_neg here]
    · rw [Desk.offered_unnamed staged now has]
      exact handed.unnamed x unnamed'
  · have absent' : s.db.job? x = none := by
      have fixed := kept.job? x
      rw [absent] at fixed
      simpa using fixed.symm
    have here : x ≠ job.id := by
      rintro rfl
      rw [absent'] at row
      cases row
    rw [elsewhere x here]
    exact handed.unknown x absent'

theorem dispatched (handed : Handed again s) {env : Env} {staged : Bool} {workFlowId : WorkFlowId}
    (dispatched : Dispatched env staged workFlowId s s') : Handed again s' := by
  cases dispatched with
  | none reason => exact handed
  | next job idle picked row ready =>
    have unlaunched : ¬ s.db.Launched job.id := by
      rintro ⟨status, member, standing⟩
      have standing' : s.db.status job.id = some .READY := by simp [Db.status, row, ready]
      obtain rfl := Option.some.inj (standing'.symm.trans standing)
      simp at member
    apply handed.queued row staged env.now (fun _ => rfl) (fun x => ?_) (fun _ _ => rfl)
    by_cases here : x = job.id
    · subst here
      simp only [if_true, if_neg unlaunched]
      omega
    · simp only [if_neg here]
      omega

theorem followed (handed : Handed again s) (next : Followed s s') : Handed again s' := by
  rcases next with rfl | ⟨env, staged, workFlowId, dispatched⟩
  · exact handed
  · exact handed.dispatched dispatched

theorem step (handed : Handed again s) (formed : s.db.Formed) (stepped : Stepped s event s') :
    Handed (fun x => again x + if event.requeues x s then 1 else 0) s' := by
  have still (quiet : ∀ x, event.requeues x s = false) :
      (fun x => again x + if event.requeues x s then 1 else 0) = again := by
    funext x
    simp [quiet x]
  cases stepped with
  | grown rows links db grown quiet next =>
    rw [still quiet]
    exact (handed.grown formed grown).followed next
  | calm db desk kept forwards launched submitted quiet next =>
    rw [still quiet]
    exact (handed.calm kept launched submitted).followed next
  | requeued job env staged userId tenantId row failed more db desk =>
    have launched : s.db.Launched job.id := ⟨.FAILED, by simp, by simp [Db.status, row, failed]⟩
    obtain ⟨db', desk'⟩ := s'
    obtain rfl : db' = _ := db
    obtain rfl : desk' = _ := desk
    apply handed.queued row staged env.now (fun _ => rfl) (fun x => ?_) (fun x other => ?_)
    · by_cases here : x = job.id
      · subst here
        simp only [more, if_true, if_pos launched, decide_true]
        omega
      · simp only [more, here, if_false, decide_false, Bool.false_eq_true]
        omega
    · simp [more, other]

theorem run {visited : List (Workflows × WorkflowEvent)} (run : workflows.Run .empty visited s) :
    Sound s ∧ Handed (fun x => requeues x visited) s := by
  induction run with
  | nil =>
    refine ⟨sound_empty, fun x named => ?_, fun _ _ => rfl, fun _ _ => rfl⟩
    obtain ⟨job, queueName, row, _⟩ := named
    cases row
  | @snoc visited s₁ s₂ event earlier moved ih =>
    obtain ⟨sound, handed⟩ := ih
    have later := handed.step sound.formed (sound.stepped moved)
    simp only [requeues_snoc]
    exact ⟨sound.step moved, later⟩

end Handed

/-- In every reachable state a job whose type has the name of a queue was handed over once if it is QUEUED or
    past it, and once more for each retry by hand that found it FAILED; no other job was handed over. -/
theorem submissions_counted {visited : List (Workflows × WorkflowEvent)} (run : workflows.Run .empty visited s)
    (x : JobId) :
    (s.db.Named x → s.desk.submissions x = (if s.db.Launched x then 1 else 0) + requeues x visited) ∧
    (¬ s.db.Named x → s.desk.submissions x = 0) := by
  have handed := (Handed.run run).2
  exact ⟨handed.named x, handed.unnamed x⟩

theorem submissions_counted_retried : ∃ s, workflows.exec .empty (pairRequest :: failedTwice) = some s ∧
    s.desk.submissions 1 =
      (if s.db.Launched 1 then 1 else 0) + requeues 1 (workflows.trace .empty (pairRequest :: failedTwice)) := by
  have first : (workflows.exec .empty (pairRequest :: failedTwice)).map (fun s => (s.db.job? 1).map (·.type)) =
      some (some "send_email") := by decide +kernel
  obtain ⟨s, ended, same⟩ := Option.map_eq_some_iff.mp first
  obtain ⟨job, row, type_⟩ := Option.map_eq_some_iff.mp same
  have resolved : resolveQueueName job.type = .ok "email-jobs" := by
    rw [type_]
    rfl
  exact ⟨s, ended, (submissions_counted (Machine.run_of_exec ended) 1).1 ⟨job, _, row, resolved⟩⟩

end OrchestrateModel
