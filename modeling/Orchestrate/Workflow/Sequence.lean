import Orchestrate.Workflow.Order
import Orchestrate.Workflow.Protocol

namespace OrchestrateModel

open Effect ChainService

/-- The jobs of a workflow whose payloads were handed to `submitJob`, in order. -/
def Workflows.sequence (s : Workflows) (workFlowId : WorkFlowId) : List JobId :=
  (s.desk.submitted.map (·.jobId)).filter fun x => s.db.In workFlowId x

/-- The job has not been submitted. -/
def Db.Fresh (db : Db) (x : JobId) : Prop := db.status x = some .READY ∨ db.status x = some .WAITING_FOR_DEPENDENCIES

/-- The jobs of a workflow were submitted in preorder, and all but the last are COMPLETED. -/
inductive Sequenced (workFlowId : WorkFlowId) (s : Workflows) : Prop where
  | current (done : List JobId) (x : JobId) (todo : List JobId) (split : s.db.order workFlowId = done ++ x :: todo)
    (submitted : s.sequence workFlowId = done ++ [x]) (completed : ∀ y ∈ done, s.db.status y = some .COMPLETED)
    (busy : s.db.Busy x) (fresh : ∀ y ∈ todo, s.db.Fresh y)
  | whole (submitted : s.sequence workFlowId = s.db.order workFlowId)
    (completed : ∀ y ∈ s.db.order workFlowId, s.db.status y = some .COMPLETED)

namespace Db

variable {db db' : Db} {workFlowId : WorkFlowId} {x : JobId}

/-- Once the jobs before it in preorder are COMPLETED, a job does not wait. -/
theorem ready_head (formed : db.Formed) (exact_ : db.Exact) (forest : db.Forest workFlowId)
    (linked : ∀ y, db.In workFlowId y → db.status y = some .WAITING_FOR_DEPENDENCIES → ∃ p, db.Depends p y)
    {done todo : List JobId} (split : db.order workFlowId = done ++ x :: todo)
    (completed : ∀ y ∈ done, db.status y = some .COMPLETED) (fresh : db.Fresh x) : db.status x = some .READY := by
  have arranged := arrangement_children formed workFlowId
  have inside {y : JobId} (member : y ∈ db.order workFlowId) : db.In workFlowId y :=
    (mem_order formed forest.acyclic).mp member
  have insideX : db.In workFlowId x := inside (by simp [split])
  apply fresh.resolve_right
  intro waiting
  obtain ⟨p, depends⟩ := linked x insideX waiting
  rcases Search.parent_before split with root | ⟨q, earlier, child⟩
  · exact ((arranged.roots_mem x).mp root).2 p depends
  · have insideQ : db.In workFlowId q := inside (by simp [split, earlier])
    have above := (arranged.children_mem q insideQ x).mp child
    obtain ⟨r, above', incomplete⟩ := (exact_ p x depends (by simp [waiting])).mp waiting
    rw [forest.single x r q insideX above' above] at incomplete
    exact incomplete (completed q earlier)

end Db

section Sequence

variable {env : Env} {staged : Bool} {workFlowId : WorkFlowId} {s s' : Workflows}

theorem sequence_append {db' : Db} {desk' : Desk} (inside : ∀ x, db'.In workFlowId x ↔ s.db.In workFlowId x)
    {noted : List JobQueuePayload} (same : desk'.submitted = s.desk.submitted ++ noted) :
    Workflows.sequence { db := db', desk := desk' } workFlowId =
      s.sequence workFlowId ++ (noted.map (·.jobId)).filter fun x => s.db.In workFlowId x := by
  simp only [Workflows.sequence, same, inside, List.map_append, List.filter_append]

theorem sequence_same {db' : Db} {desk' : Desk} (inside : ∀ x, db'.In workFlowId x ↔ s.db.In workFlowId x)
    (same : desk'.submitted = s.desk.submitted) :
    Workflows.sequence { db := db', desk := desk' } workFlowId = s.sequence workFlowId := by
  simp only [Workflows.sequence, same, inside]

/-- The next job of the preorder is scheduled. -/
theorem sequenced_dispatched (formed : s.db.Formed) (exact_ : s.db.Exact) (forest : s.db.Forest workFlowId)
    (distinct : s.db.Distinct workFlowId) (routed : ∀ x, s.db.In workFlowId x → s.db.Placeable x)
    (linked : ∀ y, s.db.In workFlowId y → s.db.status y = some .WAITING_FOR_DEPENDENCIES → ∃ p, s.db.Depends p y)
    {done todo : List JobId} (split : s.db.order workFlowId = done ++ todo)
    (submitted : s.sequence workFlowId = done) (completed : ∀ y ∈ done, s.db.status y = some .COMPLETED)
    (fresh : ∀ y ∈ todo, s.db.Fresh y) (dispatched : Dispatched env staged workFlowId s s') :
    Sequenced workFlowId s' := by
  have head : ∀ x ∈ todo.head?, s.db.status x = some .READY := by
    intro x first
    obtain ⟨rest, rfl⟩ := List.head?_eq_some_iff.mp first
    exact Db.ready_head formed exact_ forest linked split completed (fresh x List.mem_cons_self)
  have next : s.db.pick env workFlowId = some todo.head? :=
    Db.pick_next formed forest.acyclic distinct split completed head
  cases dispatched with
  | none reason =>
    rcases reason with ⟨x, inside, busy⟩ | endless | nothing
    · have member := (Db.mem_order formed forest.acyclic).mpr inside
      rw [split] at member
      rcases List.mem_append.mp member with early | late
      · simp [completed x early] at busy
      · rcases fresh x late with standing | standing <;> simp [standing] at busy
    · rw [next] at endless
      cases endless
    · rw [next] at nothing
      obtain rfl : todo = [] := List.head?_eq_none_iff.mp (Option.some.inj nothing)
      rw [List.append_nil] at split
      exact .whole (submitted.trans split.symm) (split ▸ completed)
  | next job idle picked row ready =>
    rw [next] at picked
    obtain ⟨rest, rfl⟩ := List.head?_eq_some_iff.mp (Option.some.inj picked)
    have standing : s.db.status job.id = some .READY := by simp [Db.status, row, ready]
    have kept := Db.kept_updateJob s.db job.id { status := some .QUEUED }
    have changed (y : JobId) := Db.status_updateJob s.db job.id y .QUEUED { status := some .QUEUED } rfl
      (by simp [standing])
    have inside : s.db.In workFlowId job.id := (Db.mem_order formed forest.acyclic).mp (by simp [split])
    have once : (done ++ job.id :: rest).Nodup := split ▸ Db.nodup_order formed forest
    obtain ⟨job', row', routable⟩ := routed job.id inside
    obtain rfl := Option.some.inj (row.symm.trans row')
    obtain ⟨queueName, handed⟩ :=
      @Desk.submitted_offered s.desk staged env.now job.type (candidatePayload job) routable
    have same : (s.db.updateJob job.id { status := some .QUEUED }).order workFlowId = s.db.order workFlowId :=
      (kept.alike workFlowId).order formed (kept.formed formed) distinct
    refine .current done job.id rest (same.trans split) ?_ (fun y member => ?_) (.inl ?_) fun y member => ?_
    · rw [sequence_append (kept.in_iff workFlowId) handed, submitted]
      simp [candidatePayload, inside]
    · have other : y ≠ job.id := by
        rintro rfl
        exact (List.nodup_append.mp once).2.2 _ member _ List.mem_cons_self rfl
      rw [changed, if_neg other]
      exact completed y member
    · rw [changed, if_pos rfl]
    · have other : y ≠ job.id := by
        rintro rfl
        exact (List.nodup_cons.mp (List.nodup_append.mp once).2.1).1 member
      unfold Db.Fresh
      rw [changed, if_neg other]
      exact fresh y (List.mem_cons_of_mem _ member)

end Sequence

/-- What successful attempts keep of an accepted workflow. -/
structure Paced (workFlowId : WorkFlowId) (s : Workflows) : Prop where
  tracked : s.db.Tracked workFlowId
  forest : s.db.Forest workFlowId
  distinct : s.db.Distinct workFlowId
  routed : ∀ x, s.db.In workFlowId x → s.db.Placeable x
  sequenced : Sequenced workFlowId s
  unstuck : ∀ entry ∈ s.desk.entries, s.db.In workFlowId entry.payload.jobId → entry.stage ≠ .stuck

theorem Db.Alike.placeable {workFlowId : WorkFlowId} {db db' : Db} (alike : Db.Alike workFlowId db db')
    (routed : ∀ x, db.In workFlowId x → db.Placeable x) (x : JobId) (inside : db'.In workFlowId x) : db'.Placeable x := by
  have insideX := (alike.inside x).mp inside
  obtain ⟨job, row, routable⟩ := routed x insideX
  have fixed := alike.fixed x insideX
  rw [row] at fixed
  obtain ⟨job', row', same⟩ := Option.map_eq_some_iff.mp fixed
  have type : job'.fixed.type = job.fixed.type := by rw [same]
  have sameType : job'.type = job.type := type
  exact ⟨job', row', sameType ▸ routable⟩

namespace Sequenced

variable {workFlowId : WorkFlowId} {s s' : Workflows} {x : JobId}

/-- A job that is QUEUED or PROCESSING is the last one submitted. -/
theorem at_busy (sequenced : Sequenced workFlowId s) (member : x ∈ s.db.order workFlowId) (busy : s.db.Busy x) :
    ∃ done todo, s.db.order workFlowId = done ++ x :: todo ∧ s.sequence workFlowId = done ++ [x] ∧
      (∀ y ∈ done, s.db.status y = some .COMPLETED) ∧ ∀ y ∈ todo, s.db.Fresh y := by
  cases sequenced with
  | current done x' todo split submitted completed _ fresh =>
    rw [split] at member
    rcases List.mem_append.mp member with early | here
    · rcases busy with standing | standing <;> simp [completed x early] at standing
    · rcases List.mem_cons.mp here with rfl | late
      · exact ⟨done, todo, split, submitted, completed, fresh⟩
      · rcases fresh x late with ready | waiting <;> rcases busy with standing | standing
        all_goals simp_all
  | whole submitted completed => rcases busy with standing | standing <;> simp [completed x member] at standing

theorem unfailed (sequenced : Sequenced workFlowId s) (member : x ∈ s.db.order workFlowId) :
    s.db.status x ≠ some .FAILED := by
  intro failed
  cases sequenced with
  | current done x' todo split submitted completed busy fresh =>
    rw [split] at member
    rcases List.mem_append.mp member with early | here
    · simp [completed x early] at failed
    · rcases List.mem_cons.mp here with rfl | late
      · rcases busy with standing | standing <;> simp [standing] at failed
      · rcases fresh x late with standing | standing <;> simp [standing] at failed
  | whole submitted completed => simp [completed x member] at failed

theorem congr (sequenced : Sequenced workFlowId s) (order : s'.db.order workFlowId = s.db.order workFlowId)
    (sequence : s'.sequence workFlowId = s.sequence workFlowId)
    (status : ∀ y ∈ s.db.order workFlowId, s'.db.status y = s.db.status y) : Sequenced workFlowId s' := by
  cases sequenced with
  | current done x todo split submitted completed busy fresh =>
    have at_ (y : JobId) (member : y ∈ done ++ x :: todo) := status y (split ▸ member)
    refine .current done x todo (order.trans split) (sequence.trans submitted) ?_ ?_ ?_
    · intro y member
      rw [at_ y (by simp [member])]
      exact completed y member
    · unfold Db.Busy
      rwa [at_ x (by simp)]
    · intro y member
      unfold Db.Fresh
      rw [at_ y (by simp [member])]
      exact fresh y member
  | whole submitted completed =>
    refine .whole (sequence.trans (submitted.trans order.symm)) ?_
    intro y member
    rw [order] at member
    rw [status y member]
    exact completed y member

end Sequenced

namespace Paced

variable {env : Env} {staged : Bool} {workFlowId : WorkFlowId} {s s' : Workflows} {i : Nat}

theorem mem_order (paced : Paced workFlowId s) (formed : s.db.Formed) {x : JobId} :
    x ∈ s.db.order workFlowId ↔ s.db.In workFlowId x := Db.mem_order formed paced.forest.acyclic

/-- A step elsewhere. -/
theorem sequenced_elsewhere (paced : Paced workFlowId s) (formed : s.db.Formed) (formed' : s'.db.Formed)
    (db : Db.Undisturbed workFlowId s.db s'.db) (desk : Desk.Beyond (s.db.In workFlowId) s.desk s'.desk) :
    Sequenced workFlowId s' := by
  apply paced.sequenced.congr (db.toAlike.order formed formed' paced.distinct)
  · obtain ⟨noted, same, outside⟩ := desk.submitted
    have none_ : (noted.map (·.jobId)).filter (fun x => s.db.In workFlowId x) = [] := by
      rw [List.filter_eq_nil_iff]
      intro x member
      obtain ⟨payload, present, rfl⟩ := List.mem_map.mp member
      simpa using outside payload present
    have appended := sequence_append db.inside same
    rwa [none_, List.append_nil] at appended
  · intro y member
    exact db.status y ((paced.mem_order formed).mp member)

theorem sequenced_start (paced : Paced workFlowId s) (formed : s.db.Formed) {entry : Entry}
    (inside : s.db.In workFlowId entry.payload.jobId) (busy : s.db.Busy entry.payload.jobId)
    (submitted : s'.desk.submitted = s.desk.submitted) (kept : Db.Kept s.db s'.db)
    (changed : ∀ x, s'.db.status x = if x = entry.payload.jobId then some .PROCESSING else s.db.status x) :
    Sequenced workFlowId s' := by
  obtain ⟨done, todo, split, sequence, completed, fresh⟩ :=
    paced.sequenced.at_busy ((paced.mem_order formed).mpr inside) busy
  have order := (kept.alike workFlowId).order formed (kept.formed formed) paced.distinct
  have other {y : JobId} (idle : ¬ s.db.Busy y) : y ≠ entry.payload.jobId := by
    rintro rfl
    exact idle busy
  refine .current done entry.payload.jobId todo (order.trans split) ?_ ?_ (.inr ?_) ?_
  · exact (sequence_same (kept.in_iff workFlowId) submitted).trans sequence
  · intro y member
    have standing := completed y member
    rw [changed, if_neg (other (by simp [Db.Busy, standing]))]
    exact standing
  · rw [changed, if_pos rfl]
  · intro y member
    have standing := fresh y member
    have apart : y ≠ entry.payload.jobId := other (by rcases standing with h | h <;> simp [Db.Busy, h])
    unfold Db.Fresh
    rwa [changed, if_neg apart]

open Classical in
theorem sequenced_complete (paced : Paced workFlowId s) (sound : Sound s) {entry settled : Entry} {written handled : Db}
    (finished : Finished env staged s i entry settled workFlowId written handled s')
    (status : ∀ x, written.status x = if x = entry.payload.jobId then some .COMPLETED else s.db.status x)
    (unlocked : ∀ x, handled.status x =
      if written.Unlocks entry.payload.jobId x then some .READY else written.status x) : Sequenced workFlowId s' := by
  have formed := sound.formed
  have kept := finished.writes.trans finished.handles
  have alike := kept.alike workFlowId
  have formedHandled := kept.formed formed
  obtain ⟨done, todo, split, sequence, completed, fresh⟩ :=
    paced.sequenced.at_busy ((paced.mem_order formed).mpr finished.own) (.inr finished.standing)
  have order := alike.order formed formedHandled paced.distinct
  -- the handler leaves a job alone unless it waits
  have stays {y : JobId} (unwaiting : s.db.status y ≠ some .WAITING_FOR_DEPENDENCIES) :
      handled.status y = written.status y := by
    rw [unlocked, if_neg]
    intro unlocks
    have waiting := unlocks.2.1
    rw [status] at waiting
    split at waiting
    · cases waiting
    · exact unwaiting waiting
  have finish : handled.status entry.payload.jobId = some .COMPLETED := by
    rw [stays (by simp [finished.standing]), status, if_pos rfl]
  have linked (y : JobId) (inside : handled.In workFlowId y)
      (waiting : handled.status y = some .WAITING_FOR_DEPENDENCIES) : ∃ p, handled.Depends p y := by
    have before : s.db.status y = some .WAITING_FOR_DEPENDENCIES := by
      rw [unlocked, status] at waiting
      split at waiting
      · cases waiting
      · split at waiting
        · cases waiting
        · exact waiting
    obtain ⟨p, depends⟩ := paced.tracked.linked y ((alike.inside y).mp inside) before
    exact ⟨p, (kept.depends p y).mpr depends⟩
  have split' : handled.order workFlowId = (done ++ [entry.payload.jobId]) ++ todo := by
    rw [order, split, List.append_assoc]
    rfl
  have completed' (y : JobId) (member : y ∈ done ++ [entry.payload.jobId]) : handled.status y = some .COMPLETED := by
    rcases List.mem_append.mp member with early | here
    · have standing := completed y early
      have apart : y ≠ entry.payload.jobId := by
        rintro rfl
        simp [finished.standing] at standing
      rw [stays (by simp [standing]), status, if_neg apart]
      exact standing
    · rw [List.mem_singleton.mp here]
      exact finish
  have fresh' (y : JobId) (member : y ∈ todo) : handled.Fresh y := by
    have standing := fresh y member
    have apart : y ≠ entry.payload.jobId := by
      rintro rfl
      rcases standing with h | h <;> simp [finished.standing] at h
    unfold Db.Fresh
    rw [unlocked]
    split
    · exact .inl rfl
    · rwa [status, if_neg apart]
  have exact_ := sound.exact.complete formed finished.writes finished.handles finished.standing status unlocked
  have sequence' : Workflows.sequence { db := handled, desk := s.desk.setEntry i settled } workFlowId =
      done ++ [entry.payload.jobId] := (sequence_same alike.inside rfl).trans sequence
  exact sequenced_dispatched formedHandled exact_ (alike.forest paced.forest) (alike.distinct paced.distinct)
    (alike.placeable paced.routed) linked split' sequence' completed' fresh' finished.schedules

/-- A scheduling adds entries that wait. -/
theorem unstuck_dispatched (inside : JobId → Prop)
    (unstuck : ∀ entry ∈ s.desk.entries, inside entry.payload.jobId → entry.stage ≠ .stuck)
    (dispatched : Dispatched env staged workFlowId s s') :
    ∀ entry ∈ s'.desk.entries, inside entry.payload.jobId → entry.stage ≠ .stuck := by
  intro entry member own
  cases dispatched with
  | none reason => exact unstuck entry member own
  | next job idle picked row ready =>
    rcases (posted_candidate staged env.now job s.desk).entries member with old | ⟨_, waiting⟩
    · exact unstuck entry old own
    · simp [waiting]

theorem unstuck_setEntry (paced : Paced workFlowId s) {settled : Entry} (fine : settled.stage ≠ .stuck) :
    ∀ entry ∈ (s.desk.setEntry i settled).entries, s.db.In workFlowId entry.payload.jobId → entry.stage ≠ .stuck := by
  intro entry member own
  rcases List.mem_or_eq_of_mem_set member with old | rfl
  · exact paced.unstuck entry old own
  · exact fine

theorem step (paced : Paced workFlowId s) (sound : Sound s) {event : WorkflowEvent} (moved : s.step event = some s')
    (succeeds : Succeeds workFlowId s event) : Paced workFlowId s' := by
  have formed := sound.formed
  have moves := sound.moves paced.tracked.old moved
  have alike := moves.alike
  have tracked := paced.tracked.step sound moves
  have keep (sequenced : Sequenced workFlowId s')
      (unstuck : ∀ entry ∈ s'.desk.entries, s.db.In workFlowId entry.payload.jobId → entry.stage ≠ .stuck) :
      Paced workFlowId s' := by
    refine ⟨tracked, alike.forest paced.forest, alike.distinct paced.distinct, alike.placeable paced.routed, sequenced, ?_⟩
    intro entry member own
    exact unstuck entry member ((alike.inside _).mp own)
  cases moves with
  | elsewhere db desk =>
    refine keep (paced.sequenced_elsewhere formed (sound.step moved).formed db desk) ?_
    intro entry member own
    exact paced.unstuck entry (desk.arrived entry member own) own
  | start entry attempt before at_i live inside standing desk kept changed =>
    have busy : s.db.Busy entry.payload.jobId := by
      rcases Entry.expected_busy live with rfl | rfl
      · exact .inl standing
      · exact .inr standing
    apply keep (paced.sequenced_start formed inside busy (by rw [desk]; rfl) kept changed)
    rw [desk]
    exact paced.unstuck_setEntry (by simp)
  | complete entry settled written handled finished _ status unlocked =>
    have kept := finished.writes.trans finished.handles
    have acyclic := (kept.alike workFlowId).acyclic paced.forest.acyclic
    have fine : settled.stage ≠ .stuck := fun stuck =>
      Db.pick_ends (kept.formed formed) acyclic (finished.endless stuck)
    exact keep (paced.sequenced_complete sound finished status unlocked)
      (unstuck_dispatched (s.db.In workFlowId) (paced.unstuck_setEntry fine) finished.schedules)
  | fail _ _ _ _ finished => exact absurd finished.own (succeeds _ finished.at_i)
  | retry inside standing => exact absurd standing (paced.sequenced.unfailed ((paced.mem_order formed).mpr inside))

end Paced

section Accepted

variable {env : Env} {staged : Bool} {workFlowId : WorkFlowId} {items : List WorkFlowItem} {userId : UserId}
  {tenantId : TenantId} {s₀ s₁ s : Workflows} {earlier visited : List (Workflows × WorkflowEvent)}

theorem paced_accepted (sound : Sound s₀) (supplied : Supplied s₀)
    (accepted : Accepted env staged items userId tenantId s₀ workFlowId s₁) (forest : s₁.db.Forest workFlowId)
    (distinct : s₁.db.Distinct workFlowId) (routed : ∀ x, s₁.db.In workFlowId x → s₁.db.Placeable x) :
    Paced workFlowId s₁ := by
  have tracked := accepted_tracked sound.formed accepted
  obtain ⟨rfl, rows, links, db₁, grown, linked, dispatched⟩ := accepted_cases sound.formed accepted
  have sound₁ := sound.grown grown
  have alike := (dispatched.kept.alike s₀.db.drawn).symm
  -- no payload or entry belongs to a new job
  have unknown {x : JobId} (known : ∃ status, s₀.db.status x = some status) : ¬ db₁.In s₀.db.drawn x := by
    intro inside
    obtain ⟨status, standing⟩ := known
    obtain ⟨row, member, own⟩ := grown.member sound.formed inside
    exact grown.apart sound.formed standing row member own
  have empty : Workflows.sequence { s₀ with db := db₁ } s₀.db.drawn = [] := by
    rw [Workflows.sequence, List.filter_eq_nil_iff]
    intro x member
    obtain ⟨payload, present, rfl⟩ := List.mem_map.mp member
    simpa using unknown (supplied.known payload present)
  have forest₁ := alike.forest forest
  have fresh (x : JobId) (member : x ∈ db₁.order s₀.db.drawn) : db₁.Fresh x := by
    have inside := (Db.mem_order sound₁.formed forest₁.acyclic).mp member
    obtain ⟨row, present, rfl⟩ := grown.member sound.formed inside
    unfold Db.Fresh
    rw [grown.status_new sound.formed present]
    rcases grown.fresh row present with ready | waiting
    · exact .inl (congrArg some ready)
    · exact .inr (congrArg some waiting)
  have parented (x : JobId) (inside : db₁.In s₀.db.drawn x) (waiting : db₁.status x = some .WAITING_FOR_DEPENDENCIES) :
      ∃ p, db₁.Depends p x := by
    obtain ⟨row, present, rfl⟩ := grown.member sound.formed inside
    rw [grown.status_new sound.formed present] at waiting
    obtain ⟨dep, member, own⟩ := linked row present (Option.some.inj waiting)
    exact ⟨dep.parentJobId, grown.depends.mpr (.inr ⟨dep, member, rfl, own⟩)⟩
  have sequenced : Sequenced s₀.db.drawn s₁ :=
    sequenced_dispatched sound₁.formed sound₁.exact forest₁ (alike.distinct distinct) (alike.placeable routed) parented
      (List.nil_append _).symm empty (by simp) fresh dispatched
  refine ⟨tracked, forest, distinct, routed, sequenced, ?_⟩
  intro entry member own
  refine Paced.unstuck_dispatched (db₁.In s₀.db.drawn) (fun entry member own => ?_) dispatched entry member
    ((alike.inside _).mpr own)
  exact absurd own (unknown (supplied.entered entry member))

/-- If every attempt succeeds, the jobs of a forest are handed over in preorder: at every moment those handed over are
    the first ones of it, when no attempt is left they are all, and a root comes after all that lies below the
    roots before it. -/
theorem sequence_preorder (before : workflows.Run .empty earlier s₀)
    (accepted : Accepted env staged items userId tenantId s₀ workFlowId s₁) (forest : s₁.db.Forest workFlowId)
    (distinct : s₁.db.Distinct workFlowId) (routed : ∀ x, s₁.db.In workFlowId x → s₁.db.Placeable x)
    (after : workflows.Run s₁ visited s) (succeeds : Machine.Guarded (Succeeds workFlowId) visited) :
    s.sequence workFlowId <+: s₁.db.order workFlowId ∧
    ((∀ entry ∈ s.desk.entries, s.db.In workFlowId entry.payload.jobId → entry.expected = none) →
      s.sequence workFlowId = s₁.db.order workFlowId) ∧
    (s₁.db.order workFlowId).Nodup ∧ (∀ x, x ∈ s₁.db.order workFlowId ↔ s₁.db.In workFlowId x) ∧
    (s₁.db.roots .plain workFlowId).Pairwise fun root next => ∀ x, Relation.ReflTransGen s₁.db.Depends root x →
      [x, next].Sublist (s₁.db.order workFlowId) := by
  have both₀ : Sound s₀ ∧ Supplied s₀ := by
    apply before.always (fun s => Sound s ∧ Supplied s) ⟨sound_empty, .empty⟩
    intro s event s' both moved
    exact ⟨both.1.step moved, both.2.step both.1 moved⟩
  obtain ⟨sound₀, supplied₀⟩ := both₀
  have created := accepted_step accepted
  have sound₁ := sound₀.step created
  have paced₁ := paced_accepted sound₀ supplied₀ accepted forest distinct routed
  have holds : (Sound s ∧ Supplied s) ∧ Paced workFlowId s ∧ Db.Alike workFlowId s₁.db s.db := by
    apply after.invariant (fun s => (Sound s ∧ Supplied s) ∧ Paced workFlowId s ∧ Db.Alike workFlowId s₁.db s.db) succeeds
      ⟨⟨sound₁, supplied₀.step sound₀ created⟩, paced₁, (Db.Kept.refl _).alike workFlowId⟩
    intro s event s' given allowed moved
    obtain ⟨⟨sound, supplied⟩, paced, alike⟩ := given
    have moves := sound.moves paced.tracked.old moved
    exact ⟨⟨sound.step moved, supplied.step sound moved⟩, paced.step sound moved allowed, alike.trans moves.alike⟩
  obtain ⟨⟨sound, supplied⟩, paced, alike⟩ := holds
  have order := alike.order sound₁.formed sound.formed distinct
  rw [← order]
  refine ⟨?_, fun idle => ?_, ?_, ?_, ?_⟩
  · cases paced.sequenced with
    | current done x todo split submitted completed busy fresh =>
      rw [submitted, split]
      exact ⟨todo, by simp⟩
    | whole submitted completed => exact submitted ▸ List.prefix_rfl
  · cases paced.sequenced with
    | current done x todo split submitted completed busy fresh =>
      have inside : s.db.In workFlowId x := (paced.mem_order sound.formed).mp (by simp [split])
      obtain ⟨entry, member, rfl, unended⟩ := supplied.served x (paced.routed x inside) busy
      have ended := idle entry member inside
      have unstuck := paced.unstuck entry member inside
      unfold Entry.expected at ended
      split at ended <;> simp_all
    | whole submitted completed => exact submitted
  · exact Db.nodup_order sound.formed paced.forest
  · intro x
    rw [paced.mem_order sound.formed, alike.inside]
  · rw [order]
    exact Db.order_subtrees sound₁.formed forest

theorem family_inside {x : JobId} (own : (created family).db.In 0 x) : x = 1 ∨ x = 2 ∨ x = 3 ∨ x = 4 := by
  have keyed : (created family).db.Keyed := by decide +kernel
  have ids : ((created family).db.workFlowJobs 0).map (·.id) = [1, 2, 3, 4] := by decide +kernel
  have member := (Db.mem_workFlowIds keyed).mpr own
  simpa [ids] using member

theorem family_forest : (created family).db.Forest 0 := by
  refine ⟨fun x p q _ above above' => ?_, id, fun p c _ below => ?_⟩
  · rcases (family_depends p x).mp above with ⟨rfl, rfl⟩ | ⟨rfl, rfl⟩ | ⟨rfl, rfl⟩
    · simpa [eq_comm] using (family_depends q 2).mp above'
    · simpa [eq_comm] using (family_depends q 3).mp above'
    · simpa [eq_comm] using (family_depends q 4).mp above'
  · rcases (family_depends p c).mp below with ⟨rfl, rfl⟩ | ⟨rfl, rfl⟩ | ⟨rfl, rfl⟩
    · decide
    · decide
    · decide

/-- Siblings have different priorities, and there is one root. -/
theorem family_distinct : (created family).db.Distinct 0 := by
  intro x y insideX insideY siblings before before'
  rcases siblings with ⟨p, belowX, belowY⟩ | ⟨rootX, rootY⟩
  · rcases (family_depends p x).mp belowX with ⟨rfl, rfl⟩ | ⟨rfl, rfl⟩ | ⟨rfl, rfl⟩
    · rcases (family_depends 1 y).mp belowY with ⟨_, rfl⟩ | ⟨_, rfl⟩ | ⟨impossible, _⟩
      · rfl
      · exact absurd before family_unbefore
      · cases impossible
    · rcases (family_depends 1 y).mp belowY with ⟨_, rfl⟩ | ⟨_, rfl⟩ | ⟨impossible, _⟩
      · exact absurd before' family_unbefore
      · rfl
      · cases impossible
    · have alone : y = 4 := by simpa using (family_depends 3 y).mp belowY
      exact alone.symm
  · have root {z : JobId} (inside : (created family).db.In 0 z) (root : ∀ p, ¬ (created family).db.Depends p z) :
        z = 1 := by
      rcases family_inside inside with rfl | rfl | rfl | rfl
      · rfl
      · exact absurd ((family_depends 1 2).mpr (by decide)) (root 1)
      · exact absurd ((family_depends 1 3).mpr (by decide)) (root 1)
      · exact absurd ((family_depends 3 4).mpr (by decide)) (root 3)
    rw [root insideX rootX, root insideY rootY]

/-- The high priority goes first, and all below it before the sibling. -/
theorem sequence_preorder_family : ∃ s, workflows.exec (created family) familyAttempts = some s ∧
    s.sequence 0 = [1, 3, 4, 2] ∧ s.sequence 0 = (created family).db.order 0 := by
  have result : (workflows.exec (created family) familyAttempts).map (fun s =>
      (s.sequence 0, s.desk.entries.all fun entry => entry.expected = none)) = some ([1, 3, 4, 2], true) := by
    decide +kernel
  obtain ⟨s, done, same⟩ := Option.map_eq_some_iff.mp result
  simp only [Prod.mk.injEq] at same
  obtain ⟨sequence, idle⟩ := same
  have routed (x : JobId) (own : (created family).db.In 0 x) : (created family).db.Placeable x := by
    rcases family_inside own with rfl | rfl | rfl | rfl
    · exact ⟨_, rfl, by decide⟩
    · exact ⟨_, rfl, by decide⟩
    · exact ⟨_, rfl, by decide⟩
    · exact ⟨_, rfl, by decide⟩
  have accepted : Accepted .plain false family "user" "tenant" .empty 0 (created family) := ⟨_, rfl⟩
  have ordered := sequence_preorder .nil accepted family_forest family_distinct routed (Machine.run_of_exec done)
    (by decide +kernel)
  refine ⟨s, done, sequence, ordered.2.1 fun entry member _ => ?_⟩
  simpa using List.all_eq_true.mp idle entry member

end Accepted
end OrchestrateModel
