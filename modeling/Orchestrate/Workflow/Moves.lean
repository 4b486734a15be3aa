import Orchestrate.Workflow.Drained

namespace OrchestrateModel

open Effect

namespace Db

/-- One workflow has the same jobs and dependencies. -/
structure Alike (workFlowId : WorkFlowId) (db db' : Db) : Prop where
  inside : ∀ x, db'.In workFlowId x ↔ db.In workFlowId x
  fixed : ∀ x, db.In workFlowId x → (db'.job? x).map Job.fixed = (db.job? x).map Job.fixed
  parents : ∀ p c, db.In workFlowId c → (db'.Depends p c ↔ db.Depends p c)
  children : ∀ p c, db.In workFlowId p → (db'.Depends p c ↔ db.Depends p c)

/-- Nothing of one workflow changes but what no search reads. -/
structure Undisturbed (workFlowId : WorkFlowId) (db db' : Db) : Prop extends Alike workFlowId db db' where
  status : ∀ x, db.In workFlowId x → db'.status x = db.status x
  drawn : db.drawn ≤ db'.drawn

variable {db db' db'' : Db} {workFlowId : WorkFlowId} {x : JobId}

theorem Alike.trans (first : Alike workFlowId db db') (second : Alike workFlowId db' db'') :
    Alike workFlowId db db'' := by
  refine ⟨?_, ?_, ?_, ?_⟩
  · intro x
    rw [second.inside, first.inside]
  · intro x inside
    rw [second.fixed x ((first.inside x).mpr inside), first.fixed x inside]
  · intro p c inside
    rw [second.parents p c ((first.inside c).mpr inside), first.parents p c inside]
  · intro p c inside
    rw [second.children p c ((first.inside p).mpr inside), first.children p c inside]

theorem Alike.symm (same : Alike workFlowId db db') : Alike workFlowId db' db := by
  refine ⟨?_, ?_, ?_, ?_⟩
  · intro x
    rw [same.inside]
  · intro x inside
    rw [same.fixed x ((same.inside x).mp inside)]
  · intro p c inside
    rw [same.parents p c ((same.inside c).mp inside)]
  · intro p c inside
    rw [same.children p c ((same.inside p).mp inside)]

theorem Undisturbed.trans (first : Undisturbed workFlowId db db') (second : Undisturbed workFlowId db' db'') :
    Undisturbed workFlowId db db'' := by
  refine ⟨first.toAlike.trans second.toAlike, fun x inside => ?_, Nat.le_trans first.drawn second.drawn⟩
  rw [second.status x ((first.inside x).mpr inside), first.status x inside]

theorem Kept.in_iff (kept : Kept db db') (workFlowId : WorkFlowId) (x : JobId) :
    db'.In workFlowId x ↔ db.In workFlowId x := by
  rw [In, In, kept.workFlowOf]

theorem Kept.alike (kept : Kept db db') (workFlowId : WorkFlowId) : Alike workFlowId db db' :=
  ⟨kept.in_iff workFlowId, fun x _ => kept.job? x, fun p c _ => kept.depends p c, fun p c _ => kept.depends p c⟩

theorem undisturbed_of_kept (kept : Kept db db')
    (status : ∀ x, db.In workFlowId x → db'.status x = db.status x) : Undisturbed workFlowId db db' :=
  ⟨kept.alike workFlowId, status, kept.drawn.ge⟩

/-- A status that changes belongs to another workflow. -/
theorem undisturbed_of_change (kept : Kept db db') (elsewhere : ¬ db.In workFlowId x)
    (same : ∀ y, y ≠ x → db'.status y = db.status y) : Undisturbed workFlowId db db' := by
  refine undisturbed_of_kept kept fun y inside => same y ?_
  rintro rfl
  exact elsewhere inside

end Db

namespace Grown

variable {db db' : Db} {new workFlowId : WorkFlowId} {rows : List Job} {links : List JobDependency}

theorem undisturbed (grown : Grown db new rows links db') (formed : db.Formed) (old : workFlowId < db.drawn) :
    Db.Undisturbed workFlowId db db' := by
  have lookup {x : JobId} (inside : db.In workFlowId x) : db'.job? x = db.job? x := by
    obtain ⟨job, row, _⟩ := inside.row
    rw [row, grown.job?_old formed row]
  have known {x : JobId} (inside : db.In workFlowId x) : ∀ row ∈ rows, row.id ≠ x := by
    obtain ⟨status, standing⟩ := Db.status_of_workFlowOf inside
    exact grown.apart formed standing
  refine ⟨⟨?_, ?_, ?_, ?_⟩, ?_, Nat.le_of_succ_le grown.drawn_le⟩
  · intro x
    rcases grown.job?_cases formed x with ⟨same, _⟩ | ⟨row, member, rfl, found⟩
    · rw [Db.In, Db.In, Db.workFlowOf, Db.workFlowOf, same]
    · refine iff_of_false (fun inside => ?_) fun inside => known inside row member rfl
      obtain ⟨job, found', _, own⟩ := inside.row
      obtain rfl : row = job := Option.some.inj (found.symm.trans found')
      have flow := Option.some.inj ((grown.own row member).symm.trans own)
      rw [grown.id] at flow
      exact Nat.lt_irrefl _ (flow ▸ old)
  · intro x inside
    rw [lookup inside]
  · intro p c inside
    rw [grown.depends, or_iff_left]
    rintro ⟨dep, member, _, rfl⟩
    obtain ⟨_, child, childRow, same, _⟩ := grown.ends dep member
    exact known inside child childRow same
  · intro p c inside
    rw [grown.depends, or_iff_left]
    rintro ⟨dep, member, rfl, _⟩
    obtain ⟨⟨parent, parentRow, same⟩, _⟩ := grown.ends dep member
    exact known inside parent parentRow same
  · intro x inside
    rw [Db.status, Db.status, lookup inside]

end Grown

/-- What is handed over and taken belongs to jobs outside of a set. -/
structure Desk.Beyond (inside : JobId → Prop) (desk desk' : Desk) : Prop where
  submitted : ∃ noted, desk'.submitted = desk.submitted ++ noted ∧ ∀ payload ∈ noted, ¬ inside payload.jobId
  entries : ∀ entry ∈ desk.entries, inside entry.payload.jobId → entry ∈ desk'.entries
  arrived : ∀ entry ∈ desk'.entries, inside entry.payload.jobId → entry ∈ desk.entries
  bullIds : ∀ x, inside x → uuidText x ∈ desk'.bullIds → uuidText x ∈ desk.bullIds

namespace Desk.Beyond

variable {inside : JobId → Prop} {desk desk' desk'' : Desk} {x : JobId} {i : Nat} {entry settled : Entry}

theorem refl (desk : Desk) : Beyond inside desk desk :=
  ⟨⟨[], by simp, by simp⟩, fun _ member _ => member, fun _ member _ => member, fun _ _ member => member⟩

theorem trans (first : Beyond inside desk desk') (second : Beyond inside desk' desk'') :
    Beyond inside desk desk'' := by
  obtain ⟨noted, same, outside⟩ := first.submitted
  obtain ⟨noted', same', outside'⟩ := second.submitted
  refine ⟨⟨noted ++ noted', ?_, ?_⟩, ?_, ?_, ?_⟩
  · rw [same', same, List.append_assoc]
  · intro payload member
    rcases List.mem_append.mp member with left | right
    · exact outside payload left
    · exact outside' payload right
  · intro entry member own
    exact second.entries entry (first.entries entry member own) own
  · intro entry member own
    exact first.arrived entry (second.arrived entry member own) own
  · intro x own member
    exact first.bullIds x own (second.bullIds x own member)

theorem of_posted (posted : Posted x desk desk') (outside : ¬ inside x) : Beyond inside desk desk' := by
  cases posted with
  | refused noted own =>
    refine ⟨⟨noted, rfl, fun payload member => ?_⟩, fun _ member _ => member, fun _ member _ => member,
      fun _ _ member => member⟩
    rwa [own payload member]
  | placed payload now noted bullIds own mine named =>
    refine ⟨⟨noted, rfl, fun other member => ?_⟩, fun _ member _ => List.mem_append_left _ member, ?_, ?_⟩
    · rwa [own other member]
    · intro entry member own'
      rcases List.mem_append.mp member with old | new
      · exact old
      · obtain rfl := List.mem_singleton.mp new
        exact absurd (mine ▸ own') outside
    · intro y own' member
      rcases List.mem_append.mp member with old | new
      · exact old
      · obtain rfl := uuidText_inj (named _ new)
        exact absurd own' outside

theorem of_setEntry (at_i : desk.entries[i]? = some entry) (own : settled.payload = entry.payload)
    (outside : ¬ inside entry.payload.jobId) : Beyond inside desk (desk.setEntry i settled) := by
  refine ⟨⟨[], by simp [setEntry], by simp⟩, ?_, ?_, fun _ _ member => member⟩
  · intro other member own'
    obtain ⟨k, at_k⟩ := List.getElem?_of_mem member
    apply List.mem_of_getElem? (i := k)
    rw [setEntry, List.getElem?_set_ne]
    · exact at_k
    · rintro rfl
      obtain rfl := Option.some.inj (at_k.symm.trans at_i)
      exact outside own'
  · intro other member own'
    rcases List.mem_or_eq_of_mem_set member with old | rfl
    · exact old
    · rw [own] at own'
      exact absurd own' outside

end Desk.Beyond

theorem Dispatched.elsewhere {env : Env} {staged : Bool} {other : WorkFlowId} (workFlowId : WorkFlowId) {s s' : Workflows}
    (dispatched : Dispatched env staged other s s') (formed : s.db.Formed) (apart : other ≠ workFlowId) :
    Db.Undisturbed workFlowId s.db s'.db ∧ Desk.Beyond (s.db.In workFlowId) s.desk s'.desk := by
  cases dispatched with
  | none reason => exact ⟨Db.undisturbed_of_kept (.refl _) fun _ _ => rfl, .refl _⟩
  | next job idle picked row ready =>
    have inside := Db.in_of_pick formed picked
    have outside : ¬ s.db.In workFlowId job.id := by
      intro inside'
      exact apart (Option.some.inj (inside.symm.trans inside'))
    have standing : s.db.status job.id = some .READY := by simp [Db.status, row, ready]
    refine ⟨Db.undisturbed_of_change (Db.kept_updateJob s.db job.id _) outside fun y distinct => ?_, ?_⟩
    · rw [Db.status_updateJob s.db job.id y .QUEUED _ rfl (by simp [standing]), if_neg distinct]
    · exact .of_posted (posted_candidate staged env.now job s.desk) outside

open Classical in
/-- What a step does to one workflow: nothing, or one of the moves of its own jobs. -/
inductive Moves (workFlowId : WorkFlowId) (s : Workflows) : WorkflowEvent → Workflows → Prop where
  | elsewhere {event : WorkflowEvent} {s' : Workflows} (db : Db.Undisturbed workFlowId s.db s'.db)
    (desk : Desk.Beyond (s.db.In workFlowId) s.desk s'.desk) : Moves workFlowId s event s'
  | start {env : Env} {i : Nat} {s' : Workflows} (entry : Entry) (attempt : BaseProcessor.Attempt)
    (before : JobStatus) (at_i : s.desk.entries[i]? = some entry) (live : entry.expected = some before)
    (inside : s.db.In workFlowId entry.payload.jobId) (standing : s.db.status entry.payload.jobId = some before)
    (desk : s'.desk = s.desk.setEntry i { entry with stage := .running attempt }) (kept : Db.Kept s.db s'.db)
    (changed : ∀ x, s'.db.status x =
      if x = entry.payload.jobId then some .PROCESSING else s.db.status x) : Moves workFlowId s (.start env i) s'
  | complete {env : Env} {staged : Bool} {i : Nat} {result : Option String} {s' : Workflows}
    (entry settled : Entry) (written handled : Db)
    (finished : Finished env staged s i entry settled workFlowId written handled s')
    (concluded : settled.expected = none)
    (status : ∀ x, written.status x = if x = entry.payload.jobId then some .COMPLETED else s.db.status x)
    (unlocked : ∀ x, handled.status x =
      if written.Unlocks entry.payload.jobId x then some .READY else written.status x) :
    Moves workFlowId s (.finish env staged i (.ok result)) s'
  | fail {env : Env} {staged : Bool} {i : Nat} {error : Err} {s' : Workflows}
    (entry settled : Entry) (written handled : Db)
    (finished : Finished env staged s i entry settled workFlowId written handled s')
    (status : ∀ x, written.status x =
      if x = entry.payload.jobId ∧ entry.Final then some .FAILED else s.db.status x)
    (skipped : ∀ x, handled.status x =
      if written.Skips entry.payload.jobId x then some .SKIPPED else written.status x) :
    Moves workFlowId s (.finish env staged i (.error error)) s'
  | retry {env : Env} {staged : Bool} {jobId : JobId} {userId : UserId} {tenantId : TenantId} {s' : Workflows}
    (inside : s.db.In workFlowId jobId) (standing : s.db.status jobId = some .FAILED) (kept : Db.Kept s.db s'.db)
    (changed : ∀ x, s'.db.status x = if x = jobId then some .QUEUED else s.db.status x) :
    Moves workFlowId s (.retry env staged jobId userId tenantId) s'

namespace Sound

variable {env : Env} {staged : Bool} {workFlowId other : WorkFlowId} {s s' : Workflows} {i : Nat}

/-- The end of an attempt of another workflow's job. -/
theorem finished_elsewhere (sound : Sound s) {entry settled : Entry} {written handled : Db}
    (finished : Finished env staged s i entry settled other written handled s') (apart : other ≠ workFlowId)
    (status : ∀ x, x ≠ entry.payload.jobId → written.status x = s.db.status x)
    (handles : ∀ x, handled.status x ≠ written.status x → s.db.Depends entry.payload.jobId x) :
    Db.Undisturbed workFlowId s.db s'.db ∧ Desk.Beyond (s.db.In workFlowId) s.desk s'.desk := by
  have outside {x : JobId} (inside : s.db.In other x) : ¬ s.db.In workFlowId x := by
    intro inside'
    exact apart (Option.some.inj (inside.symm.trans inside'))
  have own : s.db.In other entry.payload.jobId := finished.own
  have keptHandled := finished.writes.trans finished.handles
  have before : Db.Undisturbed workFlowId s.db handled := by
    refine Db.undisturbed_of_kept keptHandled fun x inside => ?_
    have other_ : x ≠ entry.payload.jobId := by
      rintro rfl
      exact outside own inside
    rw [← status x other_]
    by_contra changed
    exact outside (sound.formed.child_in (handles x changed) own) inside
  obtain ⟨later, desk⟩ := finished.schedules.elsewhere workFlowId (keptHandled.formed sound.formed) apart
  refine ⟨before.trans later, ?_⟩
  have same : handled.In workFlowId = s.db.In workFlowId := by
    funext x
    rw [eq_iff_iff, keptHandled.in_iff]
  dsimp only at desk
  rw [same] at desk
  exact (Desk.Beyond.of_setEntry finished.at_i finished.payload (outside own)).trans desk

open Classical in
theorem moves (sound : Sound s) (old : workFlowId < s.db.drawn) {event : WorkflowEvent}
    (moved : s.step event = some s') : Moves workFlowId s event s' := by
  cases event with
  | create env staged items userId tenantId =>
    have stays : Desk.Beyond (s.db.In workFlowId) s.desk s.desk := .refl _
    rcases Workflows.create_cases sound.formed moved with
      rfl | ⟨rows, links, db', grown, rfl⟩ | ⟨rows, links, db₁, grown, _, dispatched⟩
    · exact .elsewhere (Db.undisturbed_of_kept (.refl _) fun _ _ => rfl) stays
    · exact .elsewhere (grown.undisturbed sound.formed old) stays
    · have first := grown.undisturbed sound.formed old
      obtain ⟨later, desk⟩ := dispatched.elsewhere workFlowId (grown.formed sound.formed)
        (Nat.ne_of_gt old)
      have same : db₁.In workFlowId = s.db.In workFlowId := by
        funext x
        rw [eq_iff_iff, first.inside]
      dsimp only at desk
      rw [same] at desk
      exact .elsewhere (first.trans later) desk
  | start env i =>
    obtain ⟨entry, attempt, before, at_i, live, standing, desk, _, kept, changed⟩ := sound.start_status moved
    by_cases inside : s.db.In workFlowId entry.payload.jobId
    · exact .start entry attempt before at_i live inside standing desk kept changed
    · refine .elsewhere (Db.undisturbed_of_change kept inside fun y distinct => ?_) ?_
      · rw [changed, if_neg distinct]
      · rw [desk]
        exact .of_setEntry at_i rfl inside
  | finish env staged i outcome =>
    cases outcome with
    | ok result =>
      obtain ⟨entry, settled, other, written, handled, finished, concluded, status, unlocked⟩ := sound.finish_ok moved
      by_cases same : other = workFlowId
      · subst same
        exact .complete entry settled written handled finished concluded status unlocked
      · have elsewhere := sound.finished_elsewhere finished same (fun x distinct => by rw [status, if_neg distinct]) ?_
        · exact .elsewhere elsewhere.1 elsewhere.2
        · intro x changed
          rw [unlocked] at changed
          split at changed
          · rename_i unlocks
            exact (finished.writes.depends _ _).mp unlocks.1
          · exact absurd rfl changed
    | error error =>
      obtain ⟨entry, settled, other, written, handled, finished, _, _, _, status, skipped⟩ :=
        sound.finish_error moved
      by_cases same : other = workFlowId
      · subst same
        exact .fail entry settled written handled finished status skipped
      · have elsewhere := sound.finished_elsewhere finished same
          (fun x distinct => by rw [status, if_neg (fun both => distinct both.1)]) ?_
        · exact .elsewhere elsewhere.1 elsewhere.2
        · intro x changed
          rw [skipped] at changed
          split at changed
          · rename_i skips
            exact (finished.writes.depends _ _).mp skips.1
          · exact absurd rfl changed
  | retry env staged jobId userId tenantId =>
    rcases Workflows.retry_cases moved with ⟨_, rfl⟩ | ⟨retries, db, job, row, desk⟩
    · exact .elsewhere (Db.undisturbed_of_kept (.refl _) fun _ _ => rfl) (.refl _)
    · have standing := retries.standing
      have kept := Db.kept_updateJob s.db jobId { status := some .QUEUED }
      have changed (x : JobId) := Db.status_updateJob s.db jobId x .QUEUED { status := some .QUEUED } rfl
        (by simp [standing])
      rw [← db] at kept changed
      have posted := Workflows.retry_posted row desk
      by_cases inside : s.db.In workFlowId jobId
      · exact .retry inside standing kept changed
      · refine .elsewhere (Db.undisturbed_of_change kept inside fun y distinct => ?_) (.of_posted posted inside)
        rw [changed, if_neg distinct]

end Sound
theorem Moves.alike {workFlowId : WorkFlowId} {s s' : Workflows} {event : WorkflowEvent}
    (moves : Moves workFlowId s event s') : Db.Alike workFlowId s.db s'.db := by
  cases moves with
  | elsewhere db desk => exact db.toAlike
  | start _ _ _ _ _ _ _ _ kept => exact kept.alike workFlowId
  | complete _ _ _ _ finished | fail _ _ _ _ finished =>
    exact ((finished.writes.trans finished.handles).trans finished.schedules.kept).alike workFlowId
  | retry _ _ kept => exact kept.alike workFlowId

end OrchestrateModel
