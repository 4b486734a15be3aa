import Orchestrate.Workflow.Moves

namespace OrchestrateModel

open Effect ChainService

namespace Db

variable {env : Env} {db db' : Db} {workFlowId : WorkFlowId} {p c x : JobId}

theorem Alike.before (alike : Alike workFlowId db db') {a b : JobId} (insideA : db.In workFlowId a)
    (insideB : db.In workFlowId b) (before : db.Before a b) : db'.Before a b := by
  have again {x : JobId} (inside : db.In workFlowId x) {row : Job} (found : db.job? x = some row) :
      ∃ row', db'.job? x = some row' ∧ row'.fixed = row.fixed := by
    have fixed := alike.fixed x inside
    rw [found] at fixed
    exact Option.map_eq_some_iff.mp fixed
  obtain ⟨rowA, rowB, foundA, foundB, precedes⟩ := before
  obtain ⟨rowA', foundA', fixedA⟩ := again insideA foundA
  obtain ⟨rowB', foundB', fixedB⟩ := again insideB foundB
  have fixed : Precedes rowA'.fixed rowB'.fixed := by
    rw [fixedA, fixedB]
    exact precedes
  exact ⟨rowA', rowB', foundA', foundB', fixed⟩

theorem Arrangement.closed {roots : List JobId} {children : JobId → List JobId}
    (arranged : Arrangement db workFlowId roots children) (formed : db.Formed) :
    ∀ p, db.In workFlowId p → ∀ c ∈ children p, db.In workFlowId c := fun p inside c child =>
  formed.child_in ((arranged.children_mem p inside c).mp child) inside

theorem Arrangement.rooted {roots : List JobId} {children : JobId → List JobId}
    (arranged : Arrangement db workFlowId roots children) : ∀ a ∈ roots, db.In workFlowId a := fun a member =>
  ((arranged.roots_mem a).mp member).1

theorem Alike.arrangement (alike : Alike workFlowId db db') (formed : db.Formed) {roots : List JobId}
    {children : JobId → List JobId} (arranged : Arrangement db workFlowId roots children) :
    Arrangement db' workFlowId roots children := by
  refine ⟨?_, ?_, ?_, ?_⟩
  · intro x
    rw [arranged.roots_mem, alike.inside]
    refine and_congr_right fun inside => forall_congr' fun p => ?_
    rw [alike.parents p x inside]
  · intro p inside c
    have insideP := (alike.inside p).mp inside
    rw [arranged.children_mem p insideP, alike.children p c insideP]
  · refine arranged.roots_sorted.imp_of_mem ?_
    intro a b memberA memberB before
    exact alike.before (arranged.rooted a memberA) (arranged.rooted b memberB) before
  · intro p inside
    have insideP := (alike.inside p).mp inside
    refine (arranged.children_sorted p insideP).imp_of_mem ?_
    intro a b memberA memberB before
    exact alike.before (arranged.closed formed p insideP a memberA) (arranged.closed formed p insideP b memberB) before

theorem Undisturbed.active (same : Undisturbed workFlowId db db') (active : db.Active workFlowId) :
    db'.Active workFlowId := by
  obtain ⟨x, inside, busy⟩ := active
  refine ⟨x, (same.inside x).mpr inside, ?_⟩
  rwa [same.status x inside]

theorem Undisturbed.drained (same : Undisturbed workFlowId db db') (formed : db.Formed)
    (drained : db.Drained workFlowId) : db'.Drained workFlowId := by
  obtain ⟨roots, children, arranged, unready⟩ := drained
  refine ⟨roots, children, same.toAlike.arrangement formed arranged, fun x seen => ?_⟩
  have judged : ∀ a, db.In workFlowId a → judge (db.status a) = judge (db'.status a) := fun a inside => by
    rw [same.status a inside]
  obtain ⟨inside, seen⟩ := Search.Seen.congr arranged.rooted (arranged.closed formed) judged seen
  rw [same.status x inside]
  exact unready x seen

theorem Alike.acyclic (alike : Alike workFlowId db db') (acyclic : db.Acyclic workFlowId) :
    db'.Acyclic workFlowId := by
  obtain ⟨rank, rising⟩ := acyclic
  refine ⟨rank, fun p c inside depends => ?_⟩
  have insideP := (alike.inside p).mp inside
  exact rising p c insideP ((alike.children p c insideP).mp depends)

/-- The jobs of the workflow have statuses that the handlers give, those that wait have parents, and the
    workflow is active or no search finds a READY job. -/
structure Tracked (db : Db) (workFlowId : WorkFlowId) : Prop where
  old : workFlowId < db.drawn
  usual : ∀ x, db.In workFlowId x → db.status x = some .WAITING_FOR_DEPENDENCIES ∨
    ∃ status ∈ [JobStatus.READY, .QUEUED, .PROCESSING, .COMPLETED, .FAILED, .SKIPPED], db.status x = some status
  linked : ∀ x, db.In workFlowId x → db.status x = some .WAITING_FOR_DEPENDENCIES → ∃ p, db.Depends p x
  looked : db.Acyclic workFlowId → db.Active workFlowId ∨ db.Drained workFlowId

namespace Tracked

/-- A step within the workflow that makes no job wait. -/
theorem change (tracked : db.Tracked workFlowId) (kept : Kept db db')
    (changed : ∀ x, db.In workFlowId x → db'.status x = db.status x ∨
      ∃ status ∈ [JobStatus.READY, .QUEUED, .PROCESSING, .COMPLETED, .FAILED, .SKIPPED], db'.status x = some status)
    (looked : db'.Acyclic workFlowId → db'.Active workFlowId ∨ db'.Drained workFlowId) :
    db'.Tracked workFlowId := by
  refine ⟨kept.drawn ▸ tracked.old, ?_, ?_, looked⟩
  · intro x inside
    have insideX := (kept.in_iff workFlowId x).mp inside
    rcases changed x insideX with same | usual
    · rw [same]
      exact tracked.usual x insideX
    · exact .inr usual
  · intro x inside waiting
    have insideX := (kept.in_iff workFlowId x).mp inside
    rcases changed x insideX with same | ⟨status, member, standing⟩
    · rw [same] at waiting
      obtain ⟨p, depends⟩ := tracked.linked x insideX waiting
      exact ⟨p, (kept.depends p x).mpr depends⟩
    · rw [waiting] at standing
      obtain rfl := Option.some.inj standing
      simp at member

theorem undisturbed (tracked : db.Tracked workFlowId) (formed : db.Formed)
    (same : Undisturbed workFlowId db db') : db'.Tracked workFlowId := by
  refine ⟨Nat.lt_of_lt_of_le tracked.old same.drawn, ?_, ?_, ?_⟩
  · intro x inside
    have insideX := (same.inside x).mp inside
    rw [same.status x insideX]
    exact tracked.usual x insideX
  · intro x inside waiting
    have insideX := (same.inside x).mp inside
    rw [same.status x insideX] at waiting
    obtain ⟨p, depends⟩ := tracked.linked x insideX waiting
    exact ⟨p, (same.parents p x insideX).mpr depends⟩
  · intro acyclic
    exact (tracked.looked (same.toAlike.symm.acyclic acyclic)).imp same.active (same.drained formed)

end Tracked
end Db

variable {env : Env} {staged : Bool} {workFlowId : WorkFlowId} {s s' : Workflows}

/-- After a scheduling the workflow is active or no search finds a READY job. -/
theorem Dispatched.looked (dispatched : Dispatched env staged workFlowId s s') (formed : s.db.Formed)
    (acyclic : s'.db.Acyclic workFlowId) : s'.db.Active workFlowId ∨ s'.db.Drained workFlowId := by
  cases dispatched with
  | none reason =>
    rcases reason with active | endless | nothing
    · exact .inl active
    · exact absurd endless (Db.pick_ends formed acyclic)
    · exact .inr (Db.drained_of_pick formed nothing)
  | next job idle picked row ready =>
    have kept := Db.kept_updateJob s.db job.id { status := some .QUEUED }
    have standing : s.db.status job.id = some .READY := by simp [Db.status, row, ready]
    refine .inl ⟨job.id, (kept.workFlowOf job.id).trans (Db.in_of_pick formed picked), .inl ?_⟩
    rw [Db.status_updateJob s.db job.id job.id .QUEUED _ rfl (by simp [standing]), if_pos rfl]

open Classical in
theorem Db.Tracked.step (tracked : s.db.Tracked workFlowId) (sound : Sound s) {event : WorkflowEvent}
    (moves : Moves workFlowId s event s') : s'.db.Tracked workFlowId := by
  cases moves with
  | elsewhere db desk => exact tracked.undisturbed sound.formed db
  | start entry attempt before at_i live inside standing desk kept changed =>
    refine tracked.change kept (fun x _ => ?_) fun _ => .inl ⟨entry.payload.jobId, ?_, .inr ?_⟩
    · rw [changed]
      split
      · exact .inr ⟨.PROCESSING, by simp, rfl⟩
      · exact .inl rfl
    · exact (kept.in_iff workFlowId _).mpr inside
    · rw [changed, if_pos rfl]
  | complete entry settled written handled finished concluded status unlocked =>
    have kept := finished.writes.trans finished.handles
    refine tracked.change (kept.trans finished.schedules.kept) (fun x _ => ?_)
      (finished.schedules.looked (kept.formed sound.formed))
    rcases finished.schedules.status x with same | ⟨_, queued⟩
    · rw [same, unlocked, status]
      split
      · exact .inr ⟨.READY, by simp, rfl⟩
      · split
        · exact .inr ⟨.COMPLETED, by simp, rfl⟩
        · exact .inl rfl
    · exact .inr ⟨.QUEUED, by simp, queued⟩
  | fail entry settled written handled finished status skipped =>
    have kept := finished.writes.trans finished.handles
    refine tracked.change (kept.trans finished.schedules.kept) (fun x _ => ?_)
      (finished.schedules.looked (kept.formed sound.formed))
    rcases finished.schedules.status x with same | ⟨_, queued⟩
    · rw [same, skipped, status]
      split
      · exact .inr ⟨.SKIPPED, by simp, rfl⟩
      · split
        · exact .inr ⟨.FAILED, by simp, rfl⟩
        · exact .inl rfl
    · exact .inr ⟨.QUEUED, by simp, queued⟩
  | retry inside standing kept changed =>
    refine tracked.change kept (fun x _ => ?_) fun _ => .inl ⟨_, (kept.in_iff workFlowId _).mpr inside, .inl ?_⟩
    · rw [changed]
      split
      · exact .inr ⟨.QUEUED, by simp, rfl⟩
      · exact .inl rfl
    · rw [changed, if_pos rfl]

/-- The jobs of a new workflow are the new rows. -/
theorem Grown.member {db₁ : Db} {rows : List Job} {links : List JobDependency} (formed : s.db.Formed)
    (grown : Grown s.db s.db.drawn rows links db₁) {x : JobId} (inside : db₁.In s.db.drawn x) :
    ∃ row ∈ rows, row.id = x := by
  rcases grown.job?_cases formed x with ⟨same, _⟩ | ⟨row, member, own, _⟩
  · obtain ⟨job, row, _, own⟩ := inside.row
    rw [same] at row
    obtain ⟨flow, own', bound⟩ := formed.flows job (Db.mem_of_job? row)
    obtain rfl := Option.some.inj (own.symm.trans own')
    exact absurd bound (Nat.lt_irrefl _)
  · exact ⟨row, member, own⟩

/-- A workflow whose rows have all been saved and whose first job has been scheduled is tracked. -/
theorem tracked_created {db₁ : Db} {rows : List Job} {links : List JobDependency} (formed : s.db.Formed)
    (grown : Grown s.db s.db.drawn rows links db₁) (linked : AllLinked rows links)
    (dispatched : Dispatched env staged s.db.drawn { s with db := db₁ } s') : s'.db.Tracked s.db.drawn := by
  have formed₁ := grown.formed formed
  refine ⟨?_, ?_, ?_, dispatched.looked formed₁⟩
  · rw [dispatched.kept.drawn]
    exact grown.drawn_le
  · intro x inside
    obtain ⟨row, member, rfl⟩ := grown.member formed ((dispatched.kept.in_iff _ x).mp inside)
    rcases dispatched.status row.id with same | ⟨_, queued⟩
    · rw [same, grown.status_new formed member]
      rcases grown.fresh row member with ready | waiting
      · exact .inr ⟨.READY, by simp, congrArg some ready⟩
      · exact .inl (congrArg some waiting)
    · exact .inr ⟨.QUEUED, by simp, queued⟩
  · intro x inside waiting
    obtain ⟨row, member, rfl⟩ := grown.member formed ((dispatched.kept.in_iff _ x).mp inside)
    rw [dispatched.status_iff (by simp), grown.status_new formed member] at waiting
    obtain ⟨dep, present, own⟩ := linked row member (Option.some.inj waiting)
    refine ⟨dep.parentJobId, (dispatched.kept.depends _ _).mpr (grown.depends.mpr (.inr ⟨dep, present, rfl, own⟩))⟩

/-- The request to create a workflow is answered. -/
def Accepted (env : Env) (staged : Bool) (items : List WorkFlowItem) (userId : UserId) (tenantId : TenantId)
    (s : Workflows) (workFlowId : WorkFlowId) (s' : Workflows) : Prop :=
  ∃ replies, (createWorkFlow items userId tenantId).run (serve env (Desk.accept staged env.now)) (s.db, s.desk) =
    (.ok (workFlowId, replies), s'.db, s'.desk)

variable {items : List WorkFlowItem} {userId : UserId} {tenantId : TenantId}

theorem accepted_step (accepted : Accepted env staged items userId tenantId s workFlowId s') :
    s.step (.create env staged items userId tenantId) = some s' := by
  obtain ⟨replies, ran⟩ := accepted
  simp [Workflows.step, Workflows.request, ran]

theorem accepted_cases (formed : s.db.Formed)
    (accepted : Accepted env staged items userId tenantId s workFlowId s') :
    workFlowId = s.db.drawn ∧ ∃ rows links db₁, Grown s.db s.db.drawn rows links db₁ ∧ AllLinked rows links ∧
      Dispatched env staged s.db.drawn { s with db := db₁ } s' := by
  obtain ⟨replies, ran⟩ := accepted
  rcases run_createWorkFlow env (Desk.accept staged env.now) s.desk formed userId tenantId items with
    ⟨error, _, ran'⟩ | ⟨error, rows, links, db', grown, _, ran'⟩ |
    ⟨rows, links, db₁, grown, linked, _, scheduled, ⟨db', desk'⟩, scheduling, created, ran', reply, _⟩
  · rw [ran] at ran'
    cases ran'
  · rw [ran] at ran'
    cases ran'
  · rw [ran] at ran'
    obtain ⟨rfl, rfl, rfl⟩ : created = .ok (workFlowId, replies) ∧ db' = s'.db ∧ desk' = s'.desk := by
      simpa [eq_comm] using ran'
    exact ⟨(reply _ rfl).2, rows, links, db₁, grown, linked, dispatched_of_scheduled scheduling⟩

theorem accepted_tracked (formed : s.db.Formed)
    (accepted : Accepted env staged items userId tenantId s workFlowId s') : s'.db.Tracked workFlowId := by
  obtain ⟨rfl, rows, links, db₁, grown, linked, dispatched⟩ := accepted_cases formed accepted
  exact tracked_created formed grown linked dispatched

theorem accepted_status (formed : s.db.Formed)
    (accepted : Accepted env staged items userId tenantId s workFlowId s') {x : JobId}
    (inside : s'.db.In workFlowId x) :
    s'.db.status x = some .READY ∨ s'.db.status x = some .WAITING_FOR_DEPENDENCIES ∨
      s'.db.status x = some .QUEUED := by
  obtain ⟨rfl, rows, links, db₁, grown, _, dispatched⟩ := accepted_cases formed accepted
  obtain ⟨row, member, rfl⟩ := grown.member formed ((dispatched.kept.in_iff _ x).mp inside)
  rcases dispatched.status row.id with same | ⟨_, queued⟩
  · rw [same, grown.status_new formed member]
    rcases grown.fresh row member with ready | waiting
    · exact .inl (congrArg some ready)
    · exact .inr (.inl (congrArg some waiting))
  · exact .inr (.inr queued)

end OrchestrateModel
