import Orchestrate.Workflow.Completion
import Orchestrate.Workflow.Exhaustion
import Orchestrate.Workflow.Sequence

namespace OrchestrateModel

open Effect

/-- What every run keeps of an accepted workflow. -/
structure Flowing (workFlowId : WorkFlowId) (s : Workflows) : Prop where
  sound : Sound s
  supplied : Supplied s
  spent : ∃ begun ended, Spent begun ended s.db s.desk
  tracked : s.db.Tracked workFlowId
  orderly : s.db.Orderly workFlowId
  routed : ∀ x, s.db.In workFlowId x → s.db.Placeable x
  unstuck : ∀ entry ∈ s.desk.entries, s.db.In workFlowId entry.payload.jobId → entry.stage ≠ .stuck

namespace Flowing

variable {workFlowId : WorkFlowId} {s s' : Workflows} {event : WorkflowEvent} {i : Nat} {x : JobId}

/-- An entry of the workflow stays out of an endless search, because none is endless. -/
theorem unstuck_settled (flowing : Flowing workFlowId s) {env : Env} {staged : Bool} {entry settled : Entry}
    {written handled : Db} (finished : Finished env staged s i entry settled workFlowId written handled s') :
    ∀ entry ∈ s'.desk.entries, s.db.In workFlowId entry.payload.jobId → entry.stage ≠ .stuck := by
  have formed := flowing.sound.formed
  have kept := finished.writes.trans finished.handles
  have acyclic := (kept.alike workFlowId).acyclic (flowing.orderly.acyclic formed)
  have fine : settled.stage ≠ .stuck := fun stuck =>
    Db.pick_ends (kept.formed formed) acyclic (finished.endless stuck)
  refine Paced.unstuck_dispatched (s.db.In workFlowId) (fun other member own => ?_) finished.schedules
  rcases List.mem_or_eq_of_mem_set member with old | rfl
  · exact flowing.unstuck other old own
  · exact fine

theorem step (flowing : Flowing workFlowId s) (moved : s.step event = some s') : Flowing workFlowId s' := by
  obtain ⟨begun, ended, spent⟩ := flowing.spent
  have moves := flowing.sound.moves flowing.tracked.old moved
  have alike := moves.alike
  have unstuck : ∀ entry ∈ s'.desk.entries, s.db.In workFlowId entry.payload.jobId → entry.stage ≠ .stuck := by
    cases moves with
    | elsewhere db desk =>
      intro entry member own
      exact flowing.unstuck entry (desk.arrived entry member own) own
    | start entry attempt before at_i live inside standing desk =>
      intro other member own
      rw [desk] at member
      rcases List.mem_or_eq_of_mem_set member with old | rfl
      · exact flowing.unstuck other old own
      · simp
    | complete entry settled written handled finished => exact flowing.unstuck_settled finished
    | fail entry settled written handled finished => exact flowing.unstuck_settled finished
    | retry inside standing kept changed =>
      intro entry member own
      rcases Workflows.retry_cases moved with ⟨_, rfl⟩ | ⟨retries, db, job, row, desk⟩
      · exact flowing.unstuck entry member own
      · rcases (Workflows.retry_posted row desk).entries member with old | ⟨_, waiting⟩
        · exact flowing.unstuck entry old own
        · simp [waiting]
  refine ⟨flowing.sound.step moved, flowing.supplied.step flowing.sound moved, ⟨_, _, spent.step flowing.sound moved⟩,
    flowing.tracked.step flowing.sound moves, alike.orderly flowing.sound.formed flowing.orderly,
    alike.placeable flowing.routed, fun entry member own => ?_⟩
  exact unstuck entry member ((alike.inside _).mp own)

theorem accepted {env : Env} {staged : Bool} {items : List WorkFlowItem} {userId : UserId} {tenantId : TenantId}
    {earlier : List (Workflows × WorkflowEvent)} (before : workflows.Run .empty earlier s)
    (accepted : Accepted env staged items userId tenantId s workFlowId s') (orderly : s'.db.Orderly workFlowId)
    (routed : ∀ x, s'.db.In workFlowId x → s'.db.Placeable x) : Flowing workFlowId s' := by
  obtain ⟨sound, _, spent⟩ := Spent.run before
  have supplied : Supplied s := by
    have both : Sound s ∧ Supplied s := by
      apply before.always (fun s => Sound s ∧ Supplied s) ⟨sound_empty, .empty⟩
      intro s event s' both moved
      exact ⟨both.1.step moved, both.2.step both.1 moved⟩
    exact both.2
  have created := accepted_step accepted
  refine ⟨sound.step created, supplied.step sound created, ⟨_, _, spent.step sound created⟩,
    accepted_tracked sound.formed accepted, orderly, routed, ?_⟩
  obtain ⟨rfl, rows, links, db₁, grown, _, dispatched⟩ := accepted_cases sound.formed accepted
  intro entry member own
  -- the entries before the request are of other jobs
  refine Paced.unstuck_dispatched (db₁.In s.db.drawn) (fun entry member own => ?_) dispatched entry member
    (((dispatched.kept.alike s.db.drawn).inside _).mp own)
  obtain ⟨status, standing⟩ := supplied.entered entry member
  obtain ⟨row, present, same⟩ := grown.member sound.formed own
  exact absurd same (grown.apart sound.formed standing row present)

end Flowing

/-- An attempt of the job runs. -/
def Desk.Running (desk : Desk) (x : JobId) : Prop := ∃ entry ∈ desk.entries, entry.payload.jobId = x ∧ entry.runs = 1

instance (desk : Desk) (x : JobId) : Decidable (desk.Running x) :=
  inferInstanceAs (Decidable (∃ entry ∈ desk.entries, entry.payload.jobId = x ∧ entry.runs = 1))

namespace Desk

variable {desk desk' : Desk} {entry settled : Entry} {i : Nat} {x y : JobId}

theorem running_posted (posted : Posted x desk desk') : desk'.Running y ↔ desk.Running y := by
  constructor
  · rintro ⟨entry, member, own, runs⟩
    rcases posted.entries member with old | ⟨_, waiting⟩
    · exact ⟨entry, old, own, runs⟩
    · rw [Entry.runs, waiting] at runs
      cases runs
  · rintro ⟨entry, member, own, runs⟩
    cases posted with
    | refused noted => exact ⟨entry, member, own, runs⟩
    | placed payload now noted bullIds => exact ⟨entry, List.mem_append_left _ member, own, runs⟩

theorem running_setEntry (at_i : desk.entries[i]? = some entry) (own : settled.payload = entry.payload)
    (other : y ≠ entry.payload.jobId) : (desk.setEntry i settled).Running y ↔ desk.Running y := by
  constructor
  · rintro ⟨found, member, mine, runs⟩
    rcases List.mem_or_eq_of_mem_set member with old | rfl
    · exact ⟨found, old, mine, runs⟩
    · rw [own] at mine
      exact absurd mine.symm other
  · rintro ⟨found, member, mine, runs⟩
    obtain ⟨k, at_k⟩ := List.getElem?_of_mem member
    refine ⟨found, List.mem_of_getElem? (i := k) ?_, mine, runs⟩
    rw [setEntry, List.getElem?_set_ne]
    · exact at_k
    · rintro rfl
      obtain rfl := Option.some.inj (at_i.symm.trans at_k)
      exact other mine.symm

theorem running_set (bound : i < desk.entries.length) (own : settled.payload.jobId = x) (runs : settled.runs = 1) :
    (desk.setEntry i settled).Running x := by
  refine ⟨settled, List.mem_of_getElem? (i := i) ?_, own, runs⟩
  rw [setEntry, List.getElem?_set_self bound]

end Desk

/-- The live entry of a job is the one that runs. -/
theorem Backed.running_iff {db : Db} {desk : Desk} (backed : Backed db desk) {entry : Entry} {i : Nat}
    (at_i : desk.entries[i]? = some entry) (live : entry.expected ≠ none) :
    desk.Running entry.payload.jobId ↔ entry.runs = 1 := by
  constructor
  · rintro ⟨found, member, own, runs⟩
    obtain ⟨k, at_k⟩ := List.getElem?_of_mem member
    have live' : found.expected ≠ none := by
      intro dead
      unfold Entry.expected at dead
      unfold Entry.runs at runs
      split at dead <;> simp_all
    obtain rfl := backed.apart k i found entry at_k at_i live' live own
    obtain rfl := Option.some.inj (at_i.symm.trans at_k)
    exact runs
  · intro runs
    exact ⟨entry, List.mem_of_getElem? at_i, rfl, runs⟩

namespace Workflows

/-- The steps that a job still takes if it succeeds: the start and the end of an attempt. -/
def due (s : Workflows) (x : JobId) : Nat :=
  if s.db.status x = some .COMPLETED then 0 else if s.desk.Running x then 1 else 2

def pending (s : Workflows) (workFlowId : WorkFlowId) : Nat :=
  (((s.db.workFlowJobs workFlowId).map (·.id)).map s.due).sum

end Workflows

/-- A successful attempt of the workflow starts or ends. -/
def Advances (workFlowId : WorkFlowId) (s : Workflows) : WorkflowEvent → Prop
  | .start _ i | .finish _ _ i (.ok _) => ∃ entry ∈ s.desk.entries[i]?, s.db.In workFlowId entry.payload.jobId
  | .create .. | .finish _ _ _ (.error _) | .retry .. => False

instance (workFlowId : WorkFlowId) (s : Workflows) : ∀ event, Decidable (Advances workFlowId s event)
  | .start _ i | .finish _ _ i (.ok _) =>
    inferInstanceAs (Decidable (∃ entry ∈ s.desk.entries[i]?, s.db.In workFlowId entry.payload.jobId))
  | .create .. | .finish _ _ _ (.error _) | .retry .. => inferInstanceAs (Decidable False)

theorem Advances.succeeds {workFlowId : WorkFlowId} {s : Workflows} {event : WorkflowEvent}
    (advances : Advances workFlowId s event) : Succeeds workFlowId s event := by
  cases event with
  | create | start | retry => trivial
  | finish env staged i outcome =>
    cases outcome with
    | ok result => trivial
    | error error => exact advances.elim

/-- One of the terms of a sum falls by one. -/
theorem sum_lowered {ids : List JobId} {f g : JobId → Nat} {x : JobId} (distinct : ids.Nodup) (member : x ∈ ids)
    (falls : g x + 1 = f x) (same : ∀ y, y ≠ x → g y = f y) : (ids.map g).sum + 1 = (ids.map f).sum := by
  induction ids with
  | nil => cases member
  | cons first rest ih =>
    obtain ⟨new, distinct⟩ := List.nodup_cons.mp distinct
    simp only [List.map_cons, List.sum_cons]
    rcases List.mem_cons.mp member with rfl | later
    · have others : rest.map g = rest.map f := List.map_congr_left fun y old => same y fun here => new (here ▸ old)
      rw [others]
      omega
    · have lower := ih distinct later
      have here : first ≠ x := fun here => new (here ▸ later)
      rw [same first here]
      omega

theorem Db.Kept.workFlowIds {db db' : Db} (kept : Db.Kept db db') (workFlowId : WorkFlowId) :
    (db'.workFlowJobs workFlowId).map (·.id) = (db.workFlowJobs workFlowId).map (·.id) := by
  have read (db : Db) : (db.workFlowJobs workFlowId).map (·.id) =
      ((db.jobs.map Job.fixed).filter fun job => job.workFlowId = some workFlowId).map (·.id) := by
    rw [Db.workFlowJobs, List.filter_map, List.map_map]
    rfl
  rw [read, read, kept.rows]

namespace Flowing

variable {workFlowId : WorkFlowId} {s s' : Workflows} {env : Env} {staged : Bool} {i : Nat} {x : JobId}

/-- What the step of one job leaves for the workflow. -/
theorem lowers (flowing : Flowing workFlowId s) (kept : Db.Kept s.db s'.db) (inside : s.db.In workFlowId x)
    (falls : s'.due x + 1 = s.due x) (same : ∀ y, y ≠ x → s'.due y = s.due y) :
    s'.pending workFlowId + 1 = s.pending workFlowId := by
  have keyed := flowing.sound.formed.keyed
  unfold Workflows.pending
  rw [kept.workFlowIds]
  exact sum_lowered (Db.ids_nodup keyed workFlowId) ((Db.mem_workFlowIds keyed).mpr inside) falls same

theorem started (flowing : Flowing workFlowId s) (moved : s.step (.start env i) = some s')
    (advances : Advances workFlowId s (.start env i)) : s'.pending workFlowId + 1 = s.pending workFlowId := by
  obtain ⟨entry, attempt, before, at_i, live, standing, desk, _, kept, changed⟩ := flowing.sound.start_status moved
  obtain ⟨entry', queueName, stage, at_i', waiting, _⟩ := Workflows.start_cases moved
  obtain rfl := Option.some.inj (at_i.symm.trans at_i')
  obtain ⟨found, mine, inside⟩ := advances
  obtain rfl := Option.some.inj (at_i.symm.trans mine)
  have bound := (List.getElem?_eq_some_iff.mp at_i).1
  refine flowing.lowers kept inside ?_ fun y other => ?_
  · have uncompleted : s.db.status entry.payload.jobId ≠ some .COMPLETED := by
      rw [standing]
      rcases Entry.expected_busy live with rfl | rfl <;> simp
    have unstarted : ¬ s.desk.Running entry.payload.jobId := by
      rw [flowing.sound.backed.running_iff at_i (by simp [live]), Entry.runs, waiting]
      exact Nat.zero_ne_one
    have runs : s'.desk.Running entry.payload.jobId := by
      rw [desk]
      exact Desk.running_set bound rfl rfl
    unfold Workflows.due
    rw [changed, if_pos rfl, if_neg (by simp), if_pos runs, if_neg uncompleted, if_neg unstarted]
  · have own : ({ entry with stage := .running attempt } : Entry).payload = entry.payload := rfl
    have same := Desk.running_setEntry at_i own other
    unfold Workflows.due
    rw [changed, if_neg other, desk]
    simp only [same]

theorem ended (flowing : Flowing workFlowId s) {result : Option String}
    (moved : s.step (.finish env staged i (.ok result)) = some s')
    (advances : Advances workFlowId s (.finish env staged i (.ok result))) :
    s'.pending workFlowId + 1 = s.pending workFlowId := by
  classical
  obtain ⟨entry, settled, _, written, handled, finished, _, status, unlocked⟩ := flowing.sound.finish_ok moved
  obtain ⟨entry', queueName, attempt, at_i', running, _⟩ := Workflows.finish_cases moved
  have at_i := finished.at_i
  obtain rfl := Option.some.inj (at_i.symm.trans at_i')
  obtain ⟨found, mine, inside⟩ := advances
  obtain rfl := Option.some.inj (at_i.symm.trans mine)
  have kept := (finished.writes.trans finished.handles).trans finished.schedules.kept
  have completed (y : JobId) :
      s'.db.status y = some .COMPLETED ↔ y = entry.payload.jobId ∨ s.db.status y = some .COMPLETED := by
    have handles : handled.status y = some .COMPLETED ↔ written.status y = some .COMPLETED := by
      rw [unlocked]
      split
      · rename_i unlocks
        rw [unlocks.2.1]
        simp
      · rfl
    have schedules : s'.db.status y = some .COMPLETED ↔ handled.status y = some .COMPLETED := by
      rcases finished.schedules.status y with same | ⟨ready, queued⟩
      · rw [same]
      · rw [queued, ready]
        simp
    rw [schedules, handles, status]
    split
    · rename_i here
      simp [here]
    · rename_i other
      simp [other]
  refine flowing.lowers kept inside ?_ fun y other => ?_
  · have runs : s.desk.Running entry.payload.jobId := by
      rw [flowing.sound.backed.running_iff at_i (by simp [finished.live]), Entry.runs, running]
    unfold Workflows.due
    rw [if_pos ((completed _).mpr (.inl rfl)), finished.standing, if_neg (by simp), if_pos runs]
  · have same : s'.desk.Running y ↔ s.desk.Running y := by
      rw [← Desk.running_setEntry at_i finished.payload other]
      cases finished.schedules with
      | none reason => rfl
      | next job => exact Desk.running_posted (posted_candidate staged env.now job _)
    unfold Workflows.due
    simp only [completed y, other, false_or, same]

/-- A step of other workflows. -/
theorem undisturbed (flowing : Flowing workFlowId s) (db : Db.Undisturbed workFlowId s.db s'.db)
    (desk : Desk.Beyond (s.db.In workFlowId) s.desk s'.desk) (keyed : s'.db.Keyed) :
    s'.pending workFlowId = s.pending workFlowId := by
  have old := flowing.sound.formed.keyed
  have same : ((s'.db.workFlowJobs workFlowId).map (·.id)).Perm ((s.db.workFlowJobs workFlowId).map (·.id)) :=
    (List.perm_ext_iff_of_nodup (Db.ids_nodup keyed workFlowId) (Db.ids_nodup old workFlowId)).mpr fun x => by
      rw [Db.mem_workFlowIds keyed, Db.mem_workFlowIds old, db.inside]
  have dues : ((s.db.workFlowJobs workFlowId).map (·.id)).map s'.due =
      ((s.db.workFlowJobs workFlowId).map (·.id)).map s.due := by
    apply List.map_congr_left
    intro x member
    have inside := (Db.mem_workFlowIds old).mp member
    have running : s'.desk.Running x ↔ s.desk.Running x := by
      constructor
      · rintro ⟨entry, listed, rfl, runs⟩
        exact ⟨entry, desk.arrived entry listed inside, rfl, runs⟩
      · rintro ⟨entry, listed, rfl, runs⟩
        exact ⟨entry, desk.entries entry listed inside, rfl, runs⟩
    unfold Workflows.due
    simp only [db.status x inside, running]
  unfold Workflows.pending
  rw [(same.map s'.due).sum_eq, dues]

/-- The step lemma: only the workflow's own attempts bring it nearer to its end. -/
theorem advanced (flowing : Flowing workFlowId s) (unfailed : s.db.Unfailed workFlowId) {event : WorkflowEvent}
    (succeeds : Succeeds workFlowId s event) (moved : s.step event = some s') :
    s'.pending workFlowId + (if Advances workFlowId s event then 1 else 0) = s.pending workFlowId := by
  by_cases advances : Advances workFlowId s event
  · rw [if_pos advances]
    cases event with
    | create | retry => exact advances.elim
    | start env i => exact flowing.started moved advances
    | finish env staged i outcome =>
      cases outcome with
      | ok result => exact flowing.ended moved advances
      | error error => exact advances.elim
  · rw [if_neg advances, Nat.add_zero]
    cases flowing.sound.moves flowing.tracked.old moved with
    | elsewhere db desk => exact flowing.undisturbed db desk (flowing.step moved).sound.formed.keyed
    | start entry attempt before at_i live inside => exact absurd ⟨entry, at_i, inside⟩ advances
    | complete entry settled written handled finished => exact absurd ⟨entry, finished.at_i, finished.own⟩ advances
    | fail entry settled written handled finished => exact absurd finished.own (succeeds entry finished.at_i)
    | retry inside standing => exact absurd (.inl standing) (unfailed _ inside)

/-- An attempt can start or end until all jobs are COMPLETED. -/
theorem proceeds (flowing : Flowing workFlowId s) (unfailed : s.db.Unfailed workFlowId) :
    (∀ x, s.db.In workFlowId x → s.db.status x = some .COMPLETED) ∨
      ∃ event s', Advances workFlowId s event ∧ s.step event = some s' := by
  by_cases idle : s.db.Active workFlowId
  · obtain ⟨x, inside, busy⟩ := idle
    obtain ⟨begun, ended, spent⟩ := flowing.spent
    have placeable := flowing.routed x inside
    obtain ⟨entry, member, rfl, unended⟩ := flowing.supplied.served x placeable busy
    obtain ⟨job, row, queueName, placed⟩ := placeable
    obtain ⟨i, at_i⟩ := List.getElem?_of_mem member
    have sameType : entry.payload.jobType = job.type := by
      have paid := spent.paid entry member
      rw [Db.terms, row] at paid
      exact (Prod.mk.inj (Option.some.inj paid)).2.symm
    rw [← sameType] at placed
    refine .inr ?_
    cases stage : entry.stage with
    | waiting =>
      refine ⟨.start .plain i, s.begin_ .plain i entry queueName, ⟨entry, at_i, inside⟩, ?_⟩
      simp [Workflows.step, at_i, placed, stage]
    | running attempt =>
      refine ⟨.finish .plain false i (.ok none), s.end_ .plain false i entry queueName attempt (.ok none),
        ⟨entry, at_i, inside⟩, ?_⟩
      simp [Workflows.step, at_i, placed, stage]
    | ended => exact absurd stage unended
    | stuck => exact absurd stage (flowing.unstuck entry member inside)
  · left
    intro x inside
    exact Db.completed_of_drained flowing.sound.formed flowing.sound.exact flowing.tracked unfailed idle flowing.orderly
      inside

end Flowing

section Accepted

variable {env : Env} {staged : Bool} {workFlowId : WorkFlowId} {items : List WorkFlowItem} {userId : UserId}
  {tenantId : TenantId} {s₀ s₁ s : Workflows} {earlier visited : List (Workflows × WorkflowEvent)}

/-- Whatever happened to an orderly workflow, while none of its jobs is FAILED or SKIPPED its successful attempts
    complete it: an attempt can start or end until all jobs are COMPLETED, and the attempts take two steps for each
    job that is left, less one for each that runs, whatever other workflows do between them. -/
theorem workflow_concludes (before : workflows.Run .empty earlier s₀)
    (accepted : Accepted env staged items userId tenantId s₀ workFlowId s₁) (orderly : s₁.db.Orderly workFlowId)
    (routed : ∀ x, s₁.db.In workFlowId x → s₁.db.Placeable x) (after : workflows.Run s₁ visited s)
    (unfailed : s.db.Unfailed workFlowId) :
    (∃ later s', workflows.Run s later s' ∧ Machine.Guarded (Advances workFlowId) later ∧
      ∀ x, s'.db.In workFlowId x → s'.db.status x = some .COMPLETED) ∧
    ∀ later s', workflows.Run s later s' → Machine.Guarded (Succeeds workFlowId) later →
      later.countP (fun v => Advances workFlowId v.1 v.2) + s'.pending workFlowId = s.pending workFlowId ∧
      ((∀ x, s'.db.In workFlowId x → s'.db.status x = some .COMPLETED) ∨
        ∃ event s'', Advances workFlowId s' event ∧ s'.step event = some s'') := by
  have flowing : Flowing workFlowId s := by
    apply after.always (Flowing workFlowId) (Flowing.accepted before accepted orderly routed)
    intro s event s' flowing moved
    exact flowing.step moved
  refine Machine.concludes (M := workflows) (fun s => Flowing workFlowId s ∧ s.db.Unfailed workFlowId)
    (fun s => ∀ x, s.db.In workFlowId x → s.db.status x = some .COMPLETED) (·.pending workFlowId)
    (fun s event advances => advances.succeeds) ?_ ?_ ⟨flowing, unfailed⟩
  · intro s event s' given succeeds moved
    obtain ⟨flowing, unfailed⟩ := given
    have moves := flowing.sound.moves flowing.tracked.old moved
    exact ⟨⟨flowing.step moved, unfailed_step moves succeeds unfailed⟩, flowing.advanced unfailed succeeds moved⟩
  · intro s given
    exact given.1.proceeds given.2

/-- The first of four jobs runs; seven steps are left. -/
theorem workflow_concludes_started : ∃ s, workflows.exec (created family) [.start .plain 0] = some s ∧
    ∃ later s', workflows.Run s later s' ∧ later.countP (fun v => Advances 0 v.1 v.2) + s'.pending 0 = 7 ∧
      ∀ x, s'.db.In 0 x → s'.db.status x = some .COMPLETED := by
  have result : (workflows.exec (created family) [.start .plain 0]).map (fun s => (s.pending 0,
      decide (∀ job ∈ s.db.jobs, s.db.status job.id ≠ some .FAILED ∧ s.db.status job.id ≠ some .SKIPPED))) =
        some (7, true) := by decide +kernel
  obtain ⟨s, done, same⟩ := Option.map_eq_some_iff.mp result
  simp only [Prod.mk.injEq, decide_eq_true_eq] at same
  obtain ⟨pending, standing⟩ := same
  have accepted : Accepted .plain false family "user" "tenant" .empty 0 (created family) := ⟨_, rfl⟩
  have routable : ∀ job ∈ (created family).db.jobs, Routable job.type := by decide +kernel
  have unfailed : s.db.Unfailed 0 := by
    intro x inside fallen
    obtain ⟨job, row, own, _⟩ := inside.row
    have here := standing job (Db.mem_of_job? row)
    rw [own] at here
    exact fallen.elim here.1 here.2
  obtain ⟨concluded, counted⟩ := workflow_concludes .nil accepted orderly_family
    (fun x inside => Db.placeable_of_routable inside routable) (Machine.run_of_exec done) unfailed
  obtain ⟨later, s', run, advances, completed⟩ := concluded
  have count := (counted later s' run fun v member => (advances v member).succeeds).1
  rw [pending] at count
  exact ⟨s, done, later, s', run, count, completed⟩

end Accepted
end OrchestrateModel
