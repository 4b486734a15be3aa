import Orchestrate.Workflow.Progress
import Orchestrate.Workflow.Skipping

namespace OrchestrateModel

open Effect

namespace Db

variable {db db' : Db} {workFlowId : WorkFlowId}

/-- A numbering puts every job after its parents and, below one of them, after the siblings that the sort
    puts first and after the parents of those it does not tell apart. -/
def Orderly (db : Db) (workFlowId : WorkFlowId) : Prop :=
  ∃ number : JobId → Nat, ∀ x, db.In workFlowId x → (∃ p, db.Depends p x) →
    (∀ p, db.Depends p x → number p < number x) ∧
    ∃ p, db.Depends p x ∧ ∀ y, db.Depends p y → y ≠ x → db.Before y x →
      (¬ db.Before x y → number y < number x) ∧ (db.Before x y → ∀ q, db.Depends q y → number q < number x)

theorem Alike.orderly (alike : Alike workFlowId db db') (formed : db.Formed) (orderly : db.Orderly workFlowId) :
    db'.Orderly workFlowId := by
  obtain ⟨number, ordered⟩ := orderly
  refine ⟨number, fun x inside child => ?_⟩
  obtain ⟨parent, depends⟩ := child
  have insideX := (alike.inside x).mp inside
  obtain ⟨after, p, above, siblings⟩ := ordered x insideX ⟨parent, (alike.parents parent x insideX).mp depends⟩
  have insideP := formed.parent_in above insideX
  refine ⟨fun q depends => after q ((alike.parents q x insideX).mp depends), p,
    (alike.parents p x insideX).mpr above, fun y depends other before => ?_⟩
  have below := (alike.children p y insideP).mp depends
  have insideY := formed.child_in below insideP
  have back {a b : JobId} (insideA : db.In workFlowId a) (insideB : db.In workFlowId b)
      (before : db'.Before a b) : db.Before a b :=
    alike.symm.before ((alike.inside a).mpr insideA) ((alike.inside b).mpr insideB) before
  obtain ⟨strict, tie⟩ := siblings y below other (back insideY insideX before)
  refine ⟨fun unbefore => strict fun before' => unbefore (alike.before insideX insideY before'), ?_⟩
  intro before' q above'
  exact tie (back insideX insideY before') q ((alike.parents q y insideY).mp above')

theorem Orderly.acyclic (orderly : db.Orderly workFlowId) (formed : db.Formed) : db.Acyclic workFlowId := by
  obtain ⟨number, ordered⟩ := orderly
  refine ⟨number, fun p c inside depends => ?_⟩
  exact (ordered c (formed.child_in depends inside) ⟨p, depends⟩).1 p depends

/-- No job of the workflow is FAILED or SKIPPED. -/
def Unfailed (db : Db) (workFlowId : WorkFlowId) : Prop := ∀ x, db.In workFlowId x → ¬ db.Fallen x

theorem Tracked.settled (tracked : db.Tracked workFlowId) (unfailed : db.Unfailed workFlowId)
    (idle : ¬ db.Active workFlowId) {x : JobId} (inside : db.In workFlowId x) :
    db.status x = some .READY ∨ db.status x = some .WAITING_FOR_DEPENDENCIES ∨ db.status x = some .COMPLETED := by
  rcases tracked.usual x inside with waiting | ⟨status, member, standing⟩
  · exact .inr (.inl waiting)
  · simp only [List.mem_cons, List.not_mem_nil, or_false] at member
    rcases member with rfl | rfl | rfl | rfl | rfl | rfl
    · exact .inl standing
    · exact absurd ⟨x, inside, .inl standing⟩ idle
    · exact absurd ⟨x, inside, .inr standing⟩ idle
    · exact .inr (.inr standing)
    · exact absurd (.inl standing) (unfailed x inside)
    · exact absurd (.inr standing) (unfailed x inside)

/-- A drained search has come to every job, and found it COMPLETED. -/
theorem completed_of_drained (formed : db.Formed) (exact_ : db.Exact) (tracked : db.Tracked workFlowId)
    (unfailed : db.Unfailed workFlowId) (idle : ¬ db.Active workFlowId) (orderly : db.Orderly workFlowId)
    {x : JobId} (inside : db.In workFlowId x) : db.status x = some .COMPLETED := by
  obtain ⟨roots, children, arranged, unready⟩ :=
    (tracked.looked (orderly.acyclic formed)).resolve_left idle
  obtain ⟨number, ordered⟩ := orderly
  have settled {y : JobId} (inside : db.In workFlowId y) := tracked.settled unfailed idle inside
  have unblocking {y : JobId} (inside : db.In workFlowId y)
      (parents : ∀ q, db.Depends q y → db.status q = some .COMPLETED) : judge (db.status y) ≠ .block := by
    rcases settled inside with ready | waiting | completed
    · simp [ready, judge]
    · obtain ⟨p, depends⟩ := tracked.linked y inside waiting
      obtain ⟨q, above, incomplete⟩ := (exact_ p y depends (by simp [waiting])).mp waiting
      exact absurd (parents q above) incomplete
    · simp [completed, judge]
  -- by induction on the number: the search comes to the job, so it is not READY
  have reached (n : Nat) : ∀ y, db.In workFlowId y → number y ≤ n → db.status y = some .COMPLETED ∧
      Search.Seen (fun id => judge (db.status id)) children roots y := by
    induction n using Nat.strong_induction_on with
    | _ n ih =>
      intro y inside bound
      have earlier {z : JobId} (insideZ : db.In workFlowId z) (less : number z < number y) :=
        ih (number z) (Nat.lt_of_lt_of_le less bound) z insideZ (Nat.le_refl _)
      have completed (parents : ∀ q, db.Depends q y → db.status q = some .COMPLETED)
          (seen : Search.Seen (fun id => judge (db.status id)) children roots y) :
          db.status y = some .COMPLETED := by
        rcases settled inside with ready | waiting | done
        · exact absurd ready (unready y seen)
        · have judged := unblocking inside parents
          simp [waiting, judge] at judged
        · exact done
      by_cases rootless : ∃ p, db.Depends p y
      · obtain ⟨after, p, depends, siblings⟩ := ordered y inside rootless
        have parents (q : JobId) (above : db.Depends q y) : db.status q = some .COMPLETED :=
          (earlier (formed.parent_in above inside) (after q above)).1
        have insideP := formed.parent_in depends inside
        obtain ⟨parentDone, parentSeen⟩ := earlier insideP (after p depends)
        obtain ⟨before, later, split⟩ :=
          List.append_of_mem ((arranged.children_mem p insideP y).mpr depends)
        have seen : Search.Seen (fun id => judge (db.status id)) children roots y := by
          refine .child parentSeen (by simp [parentDone, judge]) split fun z member => ?_
          have below : db.Depends p z :=
            (arranged.children_mem p insideP z).mp (split ▸ List.mem_append_left _ member)
          have insideZ := formed.child_in below insideP
          have sorted := arranged.children_sorted p insideP
          rw [split, List.pairwise_append] at sorted
          have precedes := sorted.2.2 z member y List.mem_cons_self
          by_cases same : z = y
          · subst same
            exact unblocking inside parents
          · obtain ⟨strict, tie⟩ := siblings z below same precedes
            by_cases ties : db.Before y z
            · exact unblocking insideZ fun q above =>
                (earlier (formed.parent_in above insideZ) (tie ties q above)).1
            · rw [(earlier insideZ (strict ties)).1]
              simp [judge]
        exact ⟨completed parents seen, seen⟩
      · have parents (q : JobId) (above : db.Depends q y) : db.status q = some .COMPLETED :=
          absurd ⟨q, above⟩ rootless
        have root : y ∈ roots := (arranged.roots_mem y).mpr ⟨inside, fun p depends => rootless ⟨p, depends⟩⟩
        obtain ⟨before, later, split⟩ := List.append_of_mem root
        have seen : Search.Seen (fun id => judge (db.status id)) children roots y := by
          refine .root split fun z member => ?_
          obtain ⟨insideZ, rootZ⟩ := (arranged.roots_mem z).mp (split ▸ List.mem_append_left _ member)
          exact unblocking insideZ fun q above => absurd above (rootZ q)
        exact ⟨completed parents seen, seen⟩
  exact (reached (number x) x inside (Nat.le_refl _)).1

end Db

/-- No attempt of the workflow's jobs fails. -/
def Succeeds (workFlowId : WorkFlowId) (s : Workflows) : WorkflowEvent → Prop
  | .finish _ _ i (.error _) => ∀ entry ∈ s.desk.entries[i]?, ¬ s.db.In workFlowId entry.payload.jobId
  | .finish _ _ _ (.ok _) | .create .. | .start .. | .retry .. => True

instance (workFlowId : WorkFlowId) (s : Workflows) : ∀ event, Decidable (Succeeds workFlowId s event)
  | .finish _ _ i (.error _) =>
    inferInstanceAs (Decidable (∀ entry ∈ s.desk.entries[i]?, ¬ s.db.In workFlowId entry.payload.jobId))
  | .finish _ _ _ (.ok _) | .create .. | .start .. | .retry .. => inferInstanceAs (Decidable True)

variable {workFlowId : WorkFlowId} {s s' : Workflows}

theorem unfailed_step {event : WorkflowEvent} (moves : Moves workFlowId s event s')
    (succeeds : Succeeds workFlowId s event) (unfailed : s.db.Unfailed workFlowId) : s'.db.Unfailed workFlowId := by
  intro x inside
  have insideX := (moves.alike.inside x).mp inside
  have before := unfailed x insideX
  cases moves with
  | elsewhere db desk =>
    unfold Db.Fallen
    rw [db.status x insideX]
    exact before
  | start _ _ _ _ _ _ _ _ _ changed =>
    unfold Db.Fallen
    rw [changed]
    split
    · simp
    · exact before
  | complete _ _ _ _ finished _ status unlocked =>
    rw [finished.schedules.fallen]
    unfold Db.Fallen
    rw [unlocked]
    split
    · simp
    · rw [status]
      split
      · simp
      · exact before
  | fail _ _ _ _ finished => exact absurd finished.own (succeeds _ finished.at_i)
  | retry _ _ _ changed =>
    unfold Db.Fallen
    rw [changed]
    split
    · simp
    · exact before

section Accepted

variable {env : Env} {staged : Bool} {items : List WorkFlowItem} {userId : UserId} {tenantId : TenantId}
  {s₀ s₁ : Workflows} {earlier visited : List (Workflows × WorkflowEvent)}

theorem unfailed_accepted (formed : s₀.db.Formed)
    (accepted : Accepted env staged items userId tenantId s₀ workFlowId s₁) : s₁.db.Unfailed workFlowId := by
  intro x inside
  unfold Db.Fallen
  rcases accepted_status formed accepted inside with ready | waiting | queued
  · simp [ready]
  · simp [waiting]
  · simp [queued]

/-- The tables and the desk after a first request. -/
def created (items : List WorkFlowItem) : Workflows :=
  Workflows.request .plain false .empty (ChainService.createWorkFlow items "user" "tenant")

/-- The third job depends on the first two, and the sort puts it before the second. -/
def detour : List WorkFlowItem :=
  [{ key := "a", type := "send_email" },
    { key := "d", type := "send_email", priorityLevel := some .LOW, dependsOn := some (.one "a") },
    { key := "c", type := "send_email", priorityLevel := some .HIGH, dependsOn := some (.many ["a", "d"]) }]

/-- Once the first job is COMPLETED, the waiting third one hides the READY second one for ever. -/
theorem detour_stuck : ¬ ∀ env staged items userId tenantId earlier s₀ workFlowId s₁ visited s,
    (∀ item ∈ items, Routable item.type) → workflows.Run .empty earlier s₀ →
    Accepted env staged items userId tenantId s₀ workFlowId s₁ → s₁.db.Acyclic workFlowId →
    workflows.Run s₁ visited s → Machine.Guarded (Succeeds workFlowId) visited → ¬ s.db.Active workFlowId →
    ∀ x, s.db.In workFlowId x → s.db.status x = some .COMPLETED := by
  intro claim
  let events : List WorkflowEvent := [.start .plain 0, .finish .plain false 0 (.ok none)]
  have result : (workflows.exec (created detour) events).map
      (fun s => (s.db.workFlowOf 3, s.db.status 3, decide (s.db.Active 0))) =
        some (some 0, some .WAITING_FOR_DEPENDENCIES, false) := by decide +kernel
  obtain ⟨s, done, same⟩ := Option.map_eq_some_iff.mp result
  simp only [Prod.mk.injEq, decide_eq_false_iff_not] at same
  obtain ⟨inside, waiting, idle⟩ := same
  have acyclic : (created detour).db.Acyclic 0 := by
    refine ⟨id, fun p c _ depends => ?_⟩
    have edges : (created detour).db.edges = [(1, 2), (1, 3), (2, 3)] := by decide +kernel
    simp only [Db.Depends, edges, List.mem_cons, Prod.mk.injEq, List.not_mem_nil, or_false] at depends
    rcases depends with ⟨rfl, rfl⟩ | ⟨rfl, rfl⟩ | ⟨rfl, rfl⟩ <;> decide
  have succeeds : Machine.Guarded (Succeeds 0) (workflows.trace (created detour) events) := by decide +kernel
  have completed := claim .plain false detour "user" "tenant" [] .empty 0 (created detour) _ s (by decide) .nil
    ⟨_, rfl⟩ acyclic (Machine.run_of_exec done) succeeds idle 3 inside
  rw [waiting] at completed
  cases completed

/-- If every attempt succeeds, an orderly workflow comes to a stop only when all its jobs are COMPLETED. -/
theorem completed_of_idle (before : workflows.Run .empty earlier s₀)
    (accepted : Accepted env staged items userId tenantId s₀ workFlowId s₁)
    (orderly : s₁.db.Orderly workFlowId) (after : workflows.Run s₁ visited s)
    (succeeds : Machine.Guarded (Succeeds workFlowId) visited) (idle : ¬ s.db.Active workFlowId) {x : JobId}
    (inside : s.db.In workFlowId x) : s.db.status x = some .COMPLETED := by
  have sound₀ := Sound.run before
  have sound₁ := sound₀.step (accepted_step accepted)
  have holds : Sound s ∧ s.db.Tracked workFlowId ∧ s.db.Unfailed workFlowId ∧ s.db.Orderly workFlowId := by
    refine after.invariant (fun s => Sound s ∧ s.db.Tracked workFlowId ∧ s.db.Unfailed workFlowId ∧
      s.db.Orderly workFlowId) succeeds
      ⟨sound₁, accepted_tracked sound₀.formed accepted, unfailed_accepted sound₀.formed accepted, orderly⟩ ?_
    intro s event s' given allowed moved
    obtain ⟨sound, tracked, unfailed, orderly⟩ := given
    have moves := sound.moves tracked.old moved
    exact ⟨sound.step moved, tracked.step sound moves, unfailed_step moves allowed unfailed,
      moves.alike.orderly sound.formed orderly⟩
  obtain ⟨sound, tracked, unfailed, orderly⟩ := holds
  exact Db.completed_of_drained sound.formed sound.exact tracked unfailed idle orderly inside

/-- Two jobs below a first one, the second of them with a higher priority and a job below it. -/
def family : List WorkFlowItem :=
  [{ key := "a", type := "send_email" },
    { key := "b", type := "send_email", priorityLevel := some .LOW, dependsOn := some (.one "a") },
    { key := "c", type := "send_email", priorityLevel := some .HIGH, dependsOn := some (.one "a") },
    { key := "d", type := "send_email", dependsOn := some (.many ["c"]) }]

/-- Every attempt succeeds. -/
def familyAttempts : List WorkflowEvent :=
  (List.range 4).flatMap fun i => [.start .plain i, .finish .plain false i (.ok none)]

theorem family_depends (p c : JobId) :
    (created family).db.Depends p c ↔ p = 1 ∧ c = 2 ∨ p = 1 ∧ c = 3 ∨ p = 3 ∧ c = 4 := by
  have edges : (created family).db.edges = [(1, 2), (1, 3), (3, 4)] := by decide +kernel
  simp [Db.Depends, edges]

/-- The sort puts the job of low priority after its sibling. -/
theorem family_unbefore : ¬ (created family).db.Before 2 3 := by
  have rows : ((created family).db.job? 2).any (fun low => ((created family).db.job? 3).any fun high =>
      decide (ChainService.Precedes low high)) = false := by decide +kernel
  rintro ⟨low, high, found, found', precedes⟩
  rw [found, found'] at rows
  exact absurd precedes (of_decide_eq_false rows)

theorem orderly_family : (created family).db.Orderly 0 := by
  let number (x : JobId) : Nat := if x = 2 then 5 else x
  refine ⟨number, fun x _ child => ?_⟩
  obtain ⟨parent, above⟩ := child
  have after (p : JobId) (depends : (created family).db.Depends p x) : number p < number x := by
    rcases (family_depends p x).mp depends with ⟨rfl, rfl⟩ | ⟨rfl, rfl⟩ | ⟨rfl, rfl⟩
    · decide
    · decide
    · decide
  refine ⟨after, parent, above, fun y below other before => ?_⟩
  rcases (family_depends parent x).mp above with ⟨rfl, rfl⟩ | ⟨rfl, rfl⟩ | ⟨rfl, rfl⟩
  · have sibling : y = 3 := by simpa [other] using (family_depends 1 y).mp below
    subst sibling
    refine ⟨fun _ => by decide, fun before' => absurd before' family_unbefore⟩
  · have sibling : y = 2 := by simpa [other] using (family_depends 1 y).mp below
    subst sibling
    exact absurd before family_unbefore
  · have alone : y = 4 := by simpa using (family_depends 3 y).mp below
    exact absurd alone other

theorem completed_of_idle_family : ∃ s, workflows.exec (created family) familyAttempts = some s ∧
    s.desk.entries.map (·.payload.jobId) = [1, 3, 4, 2] ∧
    ∀ x, s.db.In 0 x → s.db.status x = some .COMPLETED := by
  have result : (workflows.exec (created family) familyAttempts).map (fun s =>
      (s.desk.entries.map (·.payload.jobId), decide (s.db.Active 0))) = some ([1, 3, 4, 2], false) := by decide +kernel
  obtain ⟨s, done, same⟩ := Option.map_eq_some_iff.mp result
  simp only [Prod.mk.injEq, decide_eq_false_iff_not] at same
  obtain ⟨entries, idle⟩ := same
  have accepted : Accepted .plain false family "user" "tenant" .empty 0 (created family) := ⟨_, rfl⟩
  have succeeds : Machine.Guarded (Succeeds 0) (workflows.trace (created family) familyAttempts) := by decide +kernel
  exact ⟨s, done, entries, fun x inside =>
    completed_of_idle .nil accepted orderly_family (Machine.run_of_exec done) succeeds idle inside⟩

end Accepted
end OrchestrateModel
