import Mathlib.Logic.Relation
import Orchestrate.Workflow.Drained
import Orchestrate.Workflow.Supply

namespace OrchestrateModel

open Effect

/-- One move in the life of a workflow's job. -/
inductive Advance : JobStatus → JobStatus → Prop where
  | unlocked : Advance .WAITING_FOR_DEPENDENCIES .READY
  | skipped : Advance .WAITING_FOR_DEPENDENCIES .SKIPPED
  | queued : Advance .READY .QUEUED
  | started : Advance .QUEUED .PROCESSING
  | completed : Advance .PROCESSING .COMPLETED
  | failed : Advance .PROCESSING .FAILED

/-- Any number of moves. -/
def Forward : JobStatus → JobStatus → Prop := Relation.ReflTransGen Advance

namespace Db

variable {db db' db'' : Db} {x : JobId}

def Forwards (db db' : Db) : Prop :=
  ∀ x before, db.status x = some before → ∃ after, db'.status x = some after ∧ Forward before after

/-- At most one job of each workflow is QUEUED or PROCESSING. -/
def Serial (db : Db) : Prop :=
  ∀ workFlowId x y, db.In workFlowId x → db.In workFlowId y → db.Busy x → db.Busy y → x = y

/-- The job is QUEUED or past it. -/
def Launched (db : Db) (x : JobId) : Prop :=
  ∃ status ∈ [JobStatus.QUEUED, .PROCESSING, .COMPLETED, .FAILED], db.status x = some status

/-- Each job stays or makes one move, and none is marked QUEUED. -/
def Calm (db db' : Db) : Prop :=
  ∀ x before, db.status x = some before → db'.status x = some before ∨
    ∃ after, db'.status x = some after ∧ Advance before after ∧ after ≠ .QUEUED

theorem Forwards.refl (db : Db) : Forwards db db := fun _ before standing => ⟨before, standing, .refl⟩

theorem Forwards.trans (first : Forwards db db') (second : Forwards db' db'') : Forwards db db'' := by
  intro x before standing
  obtain ⟨middle, standing', forward⟩ := first x before standing
  obtain ⟨after, standing'', forward'⟩ := second x middle standing'
  exact ⟨after, standing'', Relation.ReflTransGen.trans forward forward'⟩

theorem Busy.launched (busy : db.Busy x) : db.Launched x := by
  rcases busy with queued | processing
  · exact ⟨.QUEUED, by simp, queued⟩
  · exact ⟨.PROCESSING, by simp, processing⟩

theorem launched_of_forward (forwards : Forwards db db') (queued : db.status x = some .QUEUED) :
    db'.Launched x := by
  obtain ⟨after, standing, forward⟩ := forwards x .QUEUED queued
  refine ⟨after, ?_, standing⟩
  clear standing queued
  induction forward with
  | refl => simp
  | tail before advance ih => cases advance <;> simp at ih ⊢

theorem Kept.symm (kept : Kept db db') : Kept db' db := ⟨kept.rows.symm, kept.edges.symm, kept.drawn.symm⟩

namespace Calm

theorem forwards (calm : Calm db db') : Forwards db db' := by
  intro x before standing
  rcases calm x before standing with same | ⟨after, standing', advance, _⟩
  · exact ⟨before, same, .refl⟩
  · exact ⟨after, standing', .single advance⟩

theorem busy (calm : Calm db db') (kept : Kept db db') (busy : db'.Busy x) : db.Busy x := by
  have known' : ∃ status, db'.status x = some status := by
    rcases busy with standing | standing <;> exact ⟨_, standing⟩
  obtain ⟨before, standing⟩ := kept.symm.known known'
  rcases calm x before standing with same | ⟨after, standing', advance, unqueued⟩
  · rcases busy with standing' | standing'
    · exact .inl (by rw [standing, ← same, standing'])
    · exact .inr (by rw [standing, ← same, standing'])
  · rw [Busy, standing'] at busy
    cases advance with
    | started => exact .inl standing
    | queued => exact absurd rfl unqueued
    | unlocked | skipped | completed | failed => simp at busy

theorem launched (calm : Calm db db') (kept : Kept db db') (x : JobId) : db'.Launched x ↔ db.Launched x := by
  constructor
  · rintro ⟨status, member, standing'⟩
    obtain ⟨before, standing⟩ := kept.symm.known ⟨status, standing'⟩
    rcases calm x before standing with same | ⟨after, standing'', advance, unqueued⟩
    · exact ⟨status, member, by rw [standing, ← same, standing']⟩
    · obtain rfl := Option.some.inj (standing'.symm.trans standing'')
      refine ⟨before, ?_, standing⟩
      cases advance with
      | started | completed | failed => simp
      | queued => exact absurd rfl unqueued
      | unlocked | skipped => simp at member
  · rintro ⟨status, member, standing⟩
    rcases calm x status standing with same | ⟨after, standing', advance, _⟩
    · exact ⟨status, member, same⟩
    · refine ⟨after, ?_, standing'⟩
      cases advance with
      | started | completed | failed => simp
      | queued | unlocked | skipped => simp at member

/-- One job makes the move, the others stay. -/
theorem of_change {before after : JobStatus} (standing : db.status x = some before)
    (changed : ∀ y, db'.status y = if y = x then some after else db.status y)
    (move : after = before ∨ (Advance before after ∧ after ≠ .QUEUED)) : Calm db db' := by
  intro y status standing'
  by_cases here : y = x
  · subst here
    obtain rfl := Option.some.inj (standing.symm.trans standing')
    have now := (changed y).trans (if_pos rfl)
    rcases move with rfl | advance
    · exact .inl now
    · exact .inr ⟨after, now, advance⟩
  · exact .inl (by rw [changed, if_neg here, standing'])

/-- Every job of a set makes the move, or had the status already. -/
theorem of_marks {marked : JobId → Prop} [DecidablePred marked] {before after : JobStatus}
    (standing : ∀ y, marked y → db.status y = some before ∨ db.status y = some after)
    (changed : ∀ y, db'.status y = if marked y then some after else db.status y)
    (move : Advance before after ∧ after ≠ .QUEUED) : Calm db db' := by
  intro y status standing'
  by_cases here : marked y
  · have now := (changed y).trans (if_pos here)
    rcases standing y here with old | same
    · obtain rfl := Option.some.inj (old.symm.trans standing')
      exact .inr ⟨after, now, move⟩
    · obtain rfl := Option.some.inj (same.symm.trans standing')
      exact .inl now
  · exact .inl (by rw [changed, if_neg here, standing'])

end Calm
end Db

theorem Dispatched.forwards {env : Env} {staged : Bool} {workFlowId : WorkFlowId} {s s' : Workflows}
    (dispatched : Dispatched env staged workFlowId s s') : Db.Forwards s.db s'.db := by
  intro x before standing
  rcases dispatched.status x with same | ⟨ready, queued⟩
  · exact ⟨before, same.trans standing, .refl⟩
  · obtain rfl := Option.some.inj (ready.symm.trans standing)
    exact ⟨.QUEUED, queued, .single .queued⟩

/-- The event is a retry by hand. -/
def WorkflowEvent.isRetry : WorkflowEvent → Bool
  | .retry .. => true
  | .create .. | .start .. | .finish .. => false

/-- How often a job has been handed over to `submitJob`. -/
def Desk.submissions (desk : Desk) (x : JobId) : Nat := desk.submitted.countP fun payload => payload.jobId = x

namespace Desk

variable {desk desk' : Desk} {x y : JobId}

theorem submissions_posted (posted : Posted x desk desk') (other : y ≠ x) :
    desk'.submissions y = desk.submissions y := by
  have none_ {noted : List JobQueuePayload} (own : ∀ payload ∈ noted, payload.jobId = x) :
      (noted.countP fun payload => payload.jobId = y) = 0 := by
    rw [List.countP_eq_zero]
    intro payload member
    simp [own payload member, other.symm]
  cases posted with
  | refused noted own => simp [submissions, none_ own]
  | placed payload now noted bullIds own => simp [submissions, none_ own]

theorem submitted_place (now : Nat) (payload : JobQueuePayload) :
    (desk.place now payload).submitted = desk.submitted := by
  unfold place
  cases (jobsOptions payload).jobId with
  | none => rfl
  | some id =>
    dsimp only
    split <;> rfl

theorem submitted_accept (staged : Bool) (now : Nat) (payload : JobQueuePayload) :
    (desk.accept staged now payload).2.submitted = desk.submitted ++ [payload] := by
  unfold accept
  split
  · exact submitted_place now _
  · split
    · exact submitted_place now _
    · rfl

/-- A job whose type `QUEUE_MAP` lists is handed over. -/
theorem submitted_offered (staged : Bool) (now : Nat) {jobType : String} {payload : String → JobQueuePayload}
    (routable : Routable jobType) : ∃ queueName,
      (offered (accept staged now) jobType payload desk).submitted = desk.submitted ++ [payload queueName] := by
  obtain ⟨queueName, placed⟩ := routable
  refine ⟨queueName, ?_⟩
  rw [offered, resolveQueueName_of_getQueueName placed]
  exact submitted_accept staged now _

theorem submissions_offered (staged : Bool) (now : Nat) {jobType : String} {payload : String → JobQueuePayload}
    (routable : Routable jobType) (own : ∀ queueName, (payload queueName).jobId = x) :
    (offered (accept staged now) jobType payload desk).submissions x = desk.submissions x + 1 := by
  obtain ⟨queueName, same⟩ := submitted_offered staged now routable
  rw [submissions, same]
  simp [submissions, own]

end Desk

/-- At most one job of a workflow is active; a job that is QUEUED or past it was handed over once if
    `QUEUE_MAP` lists its type, and no other job was. -/
structure Protocol (s : Workflows) : Prop where
  serial : s.db.Serial
  once : ∀ x, s.db.Placeable x → s.db.Launched x → s.desk.submissions x = 1
  never : ∀ x, ¬ s.db.Launched x → s.desk.submissions x = 0

namespace Protocol

variable {env : Env} {staged : Bool} {workFlowId : WorkFlowId} {s s' : Workflows} {i : Nat} {db' : Db} {desk' : Desk}

theorem empty : Protocol .empty := by
  refine ⟨fun _ x _ inside => ?_, fun x placeable => ?_, fun _ _ => rfl⟩
  · cases inside
  · obtain ⟨_, row, _⟩ := placeable
    cases row

theorem calm (protocol : Protocol s) (kept : Db.Kept s.db db') (calm : Db.Calm s.db db')
    (submitted : desk'.submitted = s.desk.submitted) : Protocol { db := db', desk := desk' } := by
  have same (x : JobId) : desk'.submissions x = s.desk.submissions x := by
    rw [Desk.submissions, Desk.submissions, submitted]
  refine ⟨?_, ?_, ?_⟩
  · intro workFlowId x y insideX insideY busyX busyY
    exact protocol.serial workFlowId x y ((kept.workFlowOf x).symm.trans insideX)
      ((kept.workFlowOf y).symm.trans insideY) (calm.busy kept busyX) (calm.busy kept busyY)
  · intro x placeable launched
    rw [same]
    exact protocol.once x ((kept.placeable x).mp placeable) ((calm.launched kept x).mp launched)
  · intro x idle
    rw [same]
    exact protocol.never x fun launched => idle ((calm.launched kept x).mpr launched)

theorem grown (protocol : Protocol s) (formed : s.db.Formed) {rows : List Job} {links : List JobDependency}
    (grown : Grown s.db workFlowId rows links db') : Protocol { s with db := db' } := by
  have launchedOld {x : JobId} (launched : db'.Launched x) : s.db.Launched x := by
    obtain ⟨status, member, standing⟩ := launched
    rcases grown.status_cases formed standing with old | ⟨row, present, _, fresh⟩
    · exact ⟨status, member, old⟩
    · rcases grown.fresh row present with ready | waiting
      · simp [← fresh, ready] at member
      · simp [← fresh, waiting] at member
  have rowOld {x : JobId} (launched : db'.Launched x) : db'.job? x = s.db.job? x := by
    obtain ⟨status, _, standing⟩ := launchedOld launched
    obtain ⟨job, row, _⟩ := Db.status_eq_some.mp standing
    rw [row, grown.job?_old formed row]
  refine ⟨?_, ?_, ?_⟩
  · intro workFlowId' x y insideX insideY busyX busyY
    have old {x : JobId} (inside : db'.In workFlowId' x) (busy : db'.Busy x) :
        s.db.In workFlowId' x ∧ s.db.Busy x := by
      have same := rowOld busy.launched
      simp only [Db.In, Db.workFlowOf, Db.Busy, Db.status, same] at inside busy
      exact ⟨inside, busy⟩
    obtain ⟨insideX', busyX'⟩ := old insideX busyX
    obtain ⟨insideY', busyY'⟩ := old insideY busyY
    exact protocol.serial workFlowId' x y insideX' insideY' busyX' busyY'
  · intro x given launched
    obtain ⟨job, row, routable⟩ := given
    rw [rowOld launched] at row
    exact protocol.once x ⟨job, row, routable⟩ (launchedOld launched)
  · intro x idle
    apply protocol.never
    rintro ⟨status, member, standing⟩
    exact idle ⟨status, member, grown.status_old formed standing⟩

/-- A job is scheduled only while its workflow is idle, and then handed over for the first time. -/
theorem dispatched (protocol : Protocol s) (formed : s.db.Formed)
    (dispatched : Dispatched env staged workFlowId s s') : Protocol s' := by
  cases dispatched with
  | none reason => exact protocol
  | next job idle picked row ready =>
    have standing : s.db.status job.id = some .READY := by simp [Db.status, row, ready]
    have kept := Db.kept_updateJob s.db job.id { status := some .QUEUED }
    have changed (y : JobId) := Db.status_updateJob s.db job.id y .QUEUED { status := some .QUEUED } rfl
      (by simp [standing])
    have inside := Db.in_of_pick formed picked
    have posted := posted_candidate staged env.now job s.desk
    have unlaunched : ¬ s.db.Launched job.id := by
      rintro ⟨status, member, standing'⟩
      obtain rfl := Option.some.inj (standing.symm.trans standing')
      simp at member
    have launched {y : JobId} (other : y ≠ job.id) :
        (s.db.updateJob job.id { status := some .QUEUED }).Launched y ↔ s.db.Launched y := by
      simp only [Db.Launched, changed, if_neg other]
    refine ⟨?_, ?_, ?_⟩
    · intro workFlowId' x y insideX insideY busyX busyY
      replace insideX := (kept.workFlowOf x).symm.trans insideX
      replace insideY := (kept.workFlowOf y).symm.trans insideY
      have quiet {z : JobId} (insideZ : s.db.In workFlowId' z) (busy : s.db.Busy z)
          (here : s.db.In workFlowId' job.id) : False := by
        obtain rfl := Option.some.inj (here.symm.trans inside)
        exact idle ⟨z, insideZ, busy⟩
      simp only [Db.Busy, changed] at busyX busyY
      by_cases hereX : x = job.id <;> by_cases hereY : y = job.id
      · rw [hereX, hereY]
      · subst hereX
        rw [if_neg hereY] at busyY
        exact (quiet insideY busyY insideX).elim
      · subst hereY
        rw [if_neg hereX] at busyX
        exact (quiet insideX busyX insideY).elim
      · rw [if_neg hereX] at busyX
        rw [if_neg hereY] at busyY
        exact protocol.serial workFlowId' x y insideX insideY busyX busyY
    · intro x placeable launches
      by_cases here : x = job.id
      · subst here
        obtain ⟨job', row', routable⟩ := (kept.placeable job.id).mp placeable
        obtain rfl := Option.some.inj (row.symm.trans row')
        have own (queueName : String) : (candidatePayload job queueName).jobId = job.id := rfl
        have once := @Desk.submissions_offered s.desk _ staged env.now _ _ routable own
        rwa [protocol.never job.id unlaunched] at once
      · rw [Desk.submissions_posted posted here]
        exact protocol.once x ((kept.placeable x).mp placeable) ((launched here).mp launches)
    · intro x idle'
      have here : x ≠ job.id := by
        rintro rfl
        exact idle' ⟨.QUEUED, by simp, (changed job.id).trans (if_pos rfl)⟩
      rw [Desk.submissions_posted posted here]
      exact protocol.never x fun launches => idle' ((launched here).mpr launches)

open Classical in
/-- What a step without a retry by hand keeps, and that it moves no job back. -/
theorem step (protocol : Protocol s) (sound : Sound s) {event : WorkflowEvent} (unretried : event.isRetry = false)
    (moved : s.step event = some s') : Protocol s' ∧ Db.Forwards s.db s'.db := by
  have submitted_setEntry (desk : Desk) (i : Nat) (entry : Entry) :
      (desk.setEntry i entry).submitted = desk.submitted := rfl
  cases event with
  | create env staged items userId tenantId =>
    have old {rows : List Job} {links : List JobDependency} {db' : Db}
        (grown : Grown s.db s.db.drawn rows links db') : Db.Forwards s.db db' := fun x before standing =>
      ⟨before, grown.status_old sound.formed standing, .refl⟩
    rcases Workflows.create_cases sound.formed moved with
      rfl | ⟨rows, links, db', grown, rfl⟩ | ⟨rows, links, db₁, grown, _, dispatched⟩
    · exact ⟨protocol, .refl _⟩
    · exact ⟨protocol.grown sound.formed grown, old grown⟩
    · exact ⟨(protocol.grown sound.formed grown).dispatched (grown.formed sound.formed) dispatched,
        (old grown).trans dispatched.forwards⟩
  | start env i =>
    obtain ⟨entry, attempt, before, at_i, live, standing, desk, _, kept, changed⟩ := sound.start_status moved
    have calm : Db.Calm s.db s'.db := by
      apply Db.Calm.of_change standing changed
      rcases Entry.expected_busy live with rfl | rfl
      · exact .inr ⟨.started, by simp⟩
      · exact .inl rfl
    refine ⟨?_, calm.forwards⟩
    have kept' (submitted : s'.desk.submitted = s.desk.submitted) : Protocol { db := s'.db, desk := s'.desk } :=
      protocol.calm kept calm submitted
    rw [desk] at kept'
    obtain ⟨db', desk'⟩ := s'
    obtain rfl : desk' = _ := desk
    exact kept' (submitted_setEntry ..)
  | finish env staged i outcome =>
    cases outcome with
    | ok result =>
      obtain ⟨entry, settled, workFlowId, written, handled, finished, _, status, unlocked⟩ := sound.finish_ok moved
      have writes : Db.Calm s.db written := .of_change finished.standing status (.inr ⟨.completed, by simp⟩)
      have handles : Db.Calm written handled :=
        .of_marks (fun y unlocks => .inl unlocks.2.1) unlocked ⟨.unlocked, by simp⟩
      have before : Protocol { db := written, desk := s.desk } := protocol.calm finished.writes writes rfl
      have formed := finished.handles.formed (finished.writes.formed sound.formed)
      refine ⟨?_, (writes.forwards.trans handles.forwards).trans finished.schedules.forwards⟩
      exact (before.calm finished.handles handles (submitted_setEntry ..)).dispatched formed finished.schedules
    | error error =>
      obtain ⟨entry, settled, workFlowId, written, handled, finished, _, _, _, status, skipped⟩ :=
        sound.finish_error moved
      have writes : Db.Calm s.db written :=
        .of_marks (fun y (both : y = entry.payload.jobId ∧ entry.Final) => .inl (both.1 ▸ finished.standing)) status ⟨.failed, by simp⟩
      have handles : Db.Calm written handled :=
        .of_marks (fun y skips => sound.skips_waiting finished status skips) skipped ⟨.skipped, by simp⟩
      have before : Protocol { db := written, desk := s.desk } := protocol.calm finished.writes writes rfl
      have formed := finished.handles.formed (finished.writes.formed sound.formed)
      refine ⟨?_, (writes.forwards.trans handles.forwards).trans finished.schedules.forwards⟩
      exact (before.calm finished.handles handles (submitted_setEntry ..)).dispatched formed finished.schedules
  | retry env staged jobId userId tenantId => cases unretried

end Protocol

section Runs

variable {visited later : List (Workflows × WorkflowEvent)} {s s' : Workflows}

theorem protocol_run (run : workflows.Run .empty visited s)
    (unretried : Machine.Guarded (fun _ event => event.isRetry = false) visited) : Sound s ∧ Protocol s := by
  apply run.invariant (fun s => Sound s ∧ Protocol s) unretried ⟨sound_empty, .empty⟩
  intro s event s' both allowed moved
  exact ⟨both.1.step moved, (both.2.step both.1 allowed moved).1⟩

theorem forwards_run (sound : Sound s) (protocol : Protocol s) (run : workflows.Run s later s')
    (unretried : Machine.Guarded (fun _ event => event.isRetry = false) later) :
    (Sound s' ∧ Protocol s') ∧ Db.Forwards s.db s'.db := by
  apply run.invariant (fun s' => (Sound s' ∧ Protocol s') ∧ Db.Forwards s.db s'.db) unretried
    ⟨⟨sound, protocol⟩, .refl _⟩
  intro s₁ event s₂ before allowed moved
  obtain ⟨⟨sound₁, protocol₁⟩, forwards⟩ := before
  obtain ⟨protocol₂, forwards'⟩ := protocol₁.step sound₁ allowed moved
  exact ⟨⟨sound₁.step moved, protocol₂⟩, forwards.trans forwards'⟩

/-- In a run without `retryFailedJob`, a workflow whose types have queues never has two active jobs, its jobs
    only move forward, and each job that becomes QUEUED is handed over exactly once. -/
theorem serial_protocol {workFlowId : WorkFlowId} (before : workflows.Run .empty visited s)
    (after : workflows.Run s later s')
    (unretried : Machine.Guarded (fun _ event => event.isRetry = false) (visited ++ later))
    (routed : ∀ x, s'.db.In workFlowId x → s'.db.Placeable x) :
    (∀ x y, s'.db.In workFlowId x → s'.db.In workFlowId y → s'.db.Busy x → s'.db.Busy y → x = y) ∧
    (∀ x status, s.db.status x = some status → ∃ status', s'.db.status x = some status' ∧ Forward status status') ∧
    ∀ x, s'.db.In workFlowId x →
      (s.db.status x = some .QUEUED → s'.desk.submissions x = 1) ∧
      (¬ s'.db.Launched x → s'.desk.submissions x = 0) := by
  have earlier : Machine.Guarded (fun _ event => event.isRetry = false) visited := fun v member =>
    unretried v (List.mem_append_left _ member)
  obtain ⟨sound, protocol⟩ := protocol_run before earlier
  obtain ⟨⟨_, protocol'⟩, forwards⟩ := forwards_run sound protocol after fun v member =>
    unretried v (List.mem_append_right _ member)
  refine ⟨protocol'.serial workFlowId, forwards, fun x inside => ⟨fun queued => ?_, protocol'.never x⟩⟩
  exact protocol'.once x (routed x inside) (Db.launched_of_forward forwards queued)

end Runs

theorem Db.placeable_of_routable {db : Db} {workFlowId : WorkFlowId} {x : JobId} (inside : db.In workFlowId x)
    (routable : ∀ job ∈ db.jobs, Routable job.type) : db.Placeable x := by
  obtain ⟨job, row, _⟩ := inside.row
  exact ⟨job, row, routable job (Db.mem_of_job? row)⟩

theorem serial_protocol_pair : ∃ s s', workflows.exec .empty [pairRequest] = some s ∧
    workflows.exec s [.start .plain 0, .finish .plain false 0 (.ok none)] = some s' ∧
    s'.desk.submissions 1 = 1 ∧ ∃ status, s'.db.status 1 = some status ∧ Forward .QUEUED status := by
  have first : (workflows.exec .empty [pairRequest]).map (fun s =>
      (s.db.status 1, decide (Machine.Guarded (fun _ event => event.isRetry = false)
          (workflows.trace .empty [pairRequest] ++
            workflows.trace s [.start .plain 0, .finish .plain false 0 (.ok none)])),
        (workflows.exec s [.start .plain 0, .finish .plain false 0 (.ok none)]).map fun s' =>
          (decide (s'.db.In 0 1), decide (∀ job ∈ s'.db.jobs, Routable job.type)))) =
      some (some .QUEUED, true, some (true, true)) := by decide +kernel
  obtain ⟨s, created, same⟩ := Option.map_eq_some_iff.mp first
  simp only [Prod.mk.injEq, decide_eq_true_eq] at same
  obtain ⟨queued, unretried, second⟩ := same
  obtain ⟨s', ended, same'⟩ := Option.map_eq_some_iff.mp second
  simp only [Prod.mk.injEq, decide_eq_true_eq] at same'
  obtain ⟨inside, routable⟩ := same'
  obtain ⟨_, forward, once⟩ := serial_protocol (Machine.run_of_exec created) (Machine.run_of_exec ended)
    unretried fun x inside => Db.placeable_of_routable inside routable
  exact ⟨s, s', created, ended, (once 1 inside).1 queued, forward 1 .QUEUED queued⟩

end OrchestrateModel
