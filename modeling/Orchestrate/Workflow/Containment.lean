import Orchestrate.Workflow.Completion

namespace OrchestrateModel

open Effect

namespace Db

variable {db db' : Db} {workFlowId : WorkFlowId}

/-- Each job has at most one parent, and none depends on itself. -/
structure Forest (db : Db) (workFlowId : WorkFlowId) : Prop where
  single : ∀ x p q, db.In workFlowId x → db.Depends p x → db.Depends q x → p = q
  acyclic : db.Acyclic workFlowId

theorem Alike.forest (alike : Alike workFlowId db db') (forest : db.Forest workFlowId) :
    db'.Forest workFlowId := by
  refine ⟨fun x p q inside above above' => ?_, alike.acyclic forest.acyclic⟩
  have insideX := (alike.inside x).mp inside
  exact forest.single x p q insideX ((alike.parents p x insideX).mp above) ((alike.parents q x insideX).mp above')

/-- SKIPPED jobs have no children, and the children of FAILED jobs are SKIPPED. -/
structure Contained (db : Db) (workFlowId : WorkFlowId) : Prop where
  skipped : ∀ x, db.In workFlowId x → db.status x = some .SKIPPED → ∀ c, ¬ db.Depends x c
  failed : ∀ x, db.In workFlowId x → db.status x = some .FAILED →
    ∀ c, db.Depends x c → db.status c = some .SKIPPED

/-- SKIPPED jobs stay so, and only the given ones become SKIPPED or FAILED. -/
theorem Contained.change (contained : db.Contained workFlowId) (alike : Alike workFlowId db db')
    (formed : db.Formed) (kept : ∀ x, db.In workFlowId x → db.status x = some .SKIPPED →
      db'.status x = some .SKIPPED)
    (skipped : ∀ x, db.In workFlowId x → db'.status x = some .SKIPPED → db.status x = some .SKIPPED ∨
      ∀ c, ¬ db.Depends x c)
    (failed : ∀ x, db.In workFlowId x → db'.status x = some .FAILED → db.status x = some .FAILED ∨
      ∀ c, db.Depends x c → db'.status c = some .SKIPPED) : db'.Contained workFlowId := by
  refine ⟨fun x inside standing c depends => ?_, fun x inside standing c depends => ?_⟩
  · have insideX := (alike.inside x).mp inside
    have below := (alike.children x c insideX).mp depends
    rcases skipped x insideX standing with old | childless
    · exact contained.skipped x insideX old c below
    · exact childless c below
  · have insideX := (alike.inside x).mp inside
    have below := (alike.children x c insideX).mp depends
    rcases failed x insideX standing with old | all
    · exact kept c (formed.child_in below insideX) (contained.failed x insideX old c below)
    · exact all c below

/-- A drained search has come to every job but those that a failure cuts off. -/
theorem terminal_of_drained (formed : db.Formed) (exact_ : db.Exact) (tracked : db.Tracked workFlowId)
    (contained : db.Contained workFlowId) (idle : ¬ db.Active workFlowId) (forest : db.Forest workFlowId)
    {x : JobId} (inside : db.In workFlowId x) :
    db.status x = some .COMPLETED ∨ db.status x = some .FAILED ∨ db.status x = some .SKIPPED := by
  obtain ⟨roots, children, arranged, unready⟩ := (tracked.looked forest.acyclic).resolve_left idle
  obtain ⟨rank, rising⟩ := forest.acyclic
  have open_ {y : JobId} (inside : db.In workFlowId y)
      (parents : ∀ q, db.Depends q y → db.status q = some .COMPLETED) :
      db.status y = some .READY ∨ db.status y = some .COMPLETED ∨ db.status y = some .FAILED ∨
        db.status y = some .SKIPPED := by
    rcases tracked.usual y inside with waiting | ⟨status, member, standing⟩
    · obtain ⟨p, depends⟩ := tracked.linked y inside waiting
      obtain ⟨q, above, incomplete⟩ := (exact_ p y depends (by simp [waiting])).mp waiting
      exact absurd (parents q above) incomplete
    · simp only [List.mem_cons, List.not_mem_nil, or_false] at member
      rcases member with rfl | rfl | rfl | rfl | rfl | rfl
      · exact .inl standing
      · exact absurd ⟨y, inside, .inl standing⟩ idle
      · exact absurd ⟨y, inside, .inr standing⟩ idle
      · exact .inr (.inl standing)
      · exact .inr (.inr (.inl standing))
      · exact .inr (.inr (.inr standing))
  have unblocking {y : JobId} (inside : db.In workFlowId y)
      (parents : ∀ q, db.Depends q y → db.status q = some .COMPLETED) : judge (db.status y) ≠ .block := by
    rcases open_ inside parents with standing | standing | standing | standing <;> simp [standing, judge]
  -- by induction on the rank: a parent is COMPLETED and seen, or a failure has cut its children off
  have reached (n : Nat) : ∀ y, db.In workFlowId y → rank y ≤ n →
      (db.status y = some .COMPLETED ∧ Search.Seen (fun id => judge (db.status id)) children roots y) ∨
        db.status y = some .FAILED ∨ db.status y = some .SKIPPED := by
    induction n using Nat.strong_induction_on with
    | _ n ih =>
      intro y inside bound
      have settled (parents : ∀ q, db.Depends q y → db.status q = some .COMPLETED)
          (seen : Search.Seen (fun id => judge (db.status id)) children roots y) :
          (db.status y = some .COMPLETED ∧ Search.Seen (fun id => judge (db.status id)) children roots y) ∨
            db.status y = some .FAILED ∨ db.status y = some .SKIPPED := by
        rcases open_ inside parents with ready | completed | fallen
        · exact absurd ready (unready y seen)
        · exact .inl ⟨completed, seen⟩
        · exact .inr fallen
      by_cases rootless : ∃ p, db.Depends p y
      · obtain ⟨p, depends⟩ := rootless
        have insideP := formed.parent_in depends inside
        have less := rising p y insideP depends
        rcases ih (rank p) (Nat.lt_of_lt_of_le less bound) p insideP (Nat.le_refl _) with
          ⟨completed, parentSeen⟩ | failed | skipped
        · have parents {z : JobId} (below : db.Depends p z) (q : JobId) (above : db.Depends q z) :
              db.status q = some .COMPLETED := by
            rw [forest.single z q p (formed.child_in below insideP) above below]
            exact completed
          obtain ⟨before, later, split⟩ :=
            List.append_of_mem ((arranged.children_mem p insideP y).mpr depends)
          refine settled (parents depends) (.child parentSeen (by simp [completed, judge]) split ?_)
          intro z member
          have below : db.Depends p z :=
            (arranged.children_mem p insideP z).mp (split ▸ List.mem_append_left _ member)
          exact unblocking (formed.child_in below insideP) (parents below)
        · exact .inr (.inr (contained.failed p insideP failed y depends))
        · exact absurd depends (contained.skipped p insideP skipped y)
      · have parents (q : JobId) (above : db.Depends q y) : db.status q = some .COMPLETED :=
          absurd ⟨q, above⟩ rootless
        have root : y ∈ roots := (arranged.roots_mem y).mpr ⟨inside, fun p depends => rootless ⟨p, depends⟩⟩
        obtain ⟨before, later, split⟩ := List.append_of_mem root
        refine settled parents (.root split fun z member => ?_)
        obtain ⟨insideZ, rootZ⟩ := (arranged.roots_mem z).mp (split ▸ List.mem_append_left _ member)
        exact unblocking insideZ fun q above => absurd above (rootZ q)
  exact (reached (rank x) x inside (Nat.le_refl _)).imp_left And.left

end Db

/-- A failed attempt of the workflow skips only jobs without children, and if it is the last one its job
    has no LENIENT child. -/
def FailsAtLeaves (workFlowId : WorkFlowId) (s : Workflows) : WorkflowEvent → Prop
  | .finish _ _ i (.error _) => ∀ entry ∈ s.desk.entries[i]?, s.db.In workFlowId entry.payload.jobId →
      ∀ c, s.db.Depends entry.payload.jobId c →
        (s.db.Strict c → ∀ d, ¬ s.db.Depends c d) ∧ (entry.Final → s.db.Strict c)
  | .finish _ _ _ (.ok _) | .create .. | .start .. | .retry .. => True

instance (workFlowId : WorkFlowId) (s : Workflows) : ∀ event, Decidable (FailsAtLeaves workFlowId s event)
  | .finish _ _ i (.error _) =>
    decidable_of_iff (∀ entry ∈ s.desk.entries[i]?, s.db.In workFlowId entry.payload.jobId →
        ∀ edge ∈ s.db.edges, edge.1 = entry.payload.jobId →
          (s.db.Strict edge.2 → ∀ edge' ∈ s.db.edges, edge'.1 ≠ edge.2) ∧ (entry.Final → s.db.Strict edge.2)) <| by
      constructor
      · intro allowed entry at_i inside c depends
        obtain ⟨leaf, strict⟩ := allowed entry at_i inside _ depends rfl
        exact ⟨fun skips d below => leaf skips _ below rfl, strict⟩
      · intro allowed entry at_i inside edge member own
        obtain ⟨leaf, strict⟩ := allowed entry at_i inside edge.2 (own ▸ member)
        exact ⟨fun skips edge' member' same => leaf skips edge'.2 (same ▸ member'), strict⟩
  | .finish _ _ _ (.ok _) | .create .. | .start .. | .retry .. => inferInstanceAs (Decidable True)

variable {workFlowId : WorkFlowId} {s s' : Workflows}

theorem contained_step (sound : Sound s) {event : WorkflowEvent} (moves : Moves workFlowId s event s')
    (fails : FailsAtLeaves workFlowId s event) (contained : s.db.Contained workFlowId) :
    s'.db.Contained workFlowId := by
  have alike := moves.alike
  cases moves with
  | elsewhere db desk =>
    apply contained.change alike sound.formed
    · intro x inside skipped
      rwa [db.status x inside]
    · intro x inside skipped
      rw [db.status x inside] at skipped
      exact .inl skipped
    · intro x inside failed
      rw [db.status x inside] at failed
      exact .inl failed
  | start entry attempt before at_i live inside standing desk kept changed =>
    have busy := Entry.expected_busy live
    apply contained.change alike sound.formed
    · intro x _ skipped
      rw [changed, if_neg]
      · exact skipped
      · rintro rfl
        rw [standing] at skipped
        rcases busy with rfl | rfl <;> cases skipped
    · intro x _ skipped
      rw [changed] at skipped
      split at skipped
      · cases skipped
      · exact .inl skipped
    · intro x _ failed
      rw [changed] at failed
      split at failed
      · cases failed
      · exact .inl failed
  | complete entry settled written handled finished concluded status unlocked =>
    have stays {x : JobId} (standing : s.db.status x = some .SKIPPED) : handled.status x = some .SKIPPED := by
      have same : written.status x = some .SKIPPED := by
        rw [status, if_neg]
        · exact standing
        · rintro rfl
          rw [finished.standing] at standing
          cases standing
      rw [unlocked, if_neg]
      · exact same
      · intro unlocks
        rw [unlocks.2.1] at same
        cases same
    have back {x : JobId} {fallen : JobStatus} (other : fallen ≠ .READY ∧ fallen ≠ .COMPLETED)
        (standing : handled.status x = some fallen) : s.db.status x = some fallen := by
      rw [unlocked] at standing
      split at standing
      · exact absurd (Option.some.inj standing).symm other.1
      · rw [status] at standing
        split at standing
        · exact absurd (Option.some.inj standing).symm other.2
        · exact standing
    apply contained.change alike sound.formed
    · intro x _ skipped
      exact (finished.schedules.status_iff (by simp)).mpr (stays skipped)
    · intro x _ skipped
      exact .inl (back (by simp) ((finished.schedules.status_iff (by simp)).mp skipped))
    · intro x _ failed
      exact .inl (back (by simp) ((finished.schedules.status_iff (by simp)).mp failed))
  | fail entry settled written handled finished status skipped =>
    have allowed := fails entry finished.at_i finished.own
    have skips (x : JobId) : written.Skips entry.payload.jobId x ↔ s.db.Skips entry.payload.jobId x := by
      rw [Db.Skips, Db.Skips, finished.writes.depends, finished.writes.strict]
    have now {x : JobId} (skip : s.db.Skips entry.payload.jobId x) : handled.status x = some .SKIPPED := by
      rw [skipped, if_pos ((skips x).mpr skip)]
    have same {x : JobId} (stays : ¬ s.db.Skips entry.payload.jobId x) : handled.status x =
        if x = entry.payload.jobId ∧ entry.Final then some .FAILED else s.db.status x := by
      rw [skipped, if_neg (fun skip => stays ((skips x).mp skip)), status]
    apply contained.change alike sound.formed
    · intro x _ standing
      rw [finished.schedules.status_iff (by simp)]
      by_cases skip : s.db.Skips entry.payload.jobId x
      · exact now skip
      · rw [same skip, if_neg]
        · exact standing
        · rintro ⟨rfl, _⟩
          rw [finished.standing] at standing
          cases standing
    · intro x _ standing
      rw [finished.schedules.status_iff (by simp)] at standing
      by_cases skip : s.db.Skips entry.payload.jobId x
      · exact .inr ((allowed x skip.1).1 skip.2)
      · rw [same skip] at standing
        split at standing
        · cases standing
        · exact .inl standing
    · intro x _ standing
      rw [finished.schedules.status_iff (by simp)] at standing
      by_cases skip : s.db.Skips entry.payload.jobId x
      · rw [now skip] at standing
        cases standing
      · rw [same skip] at standing
        split at standing
        · rename_i final
          refine .inr fun c depends => ?_
          rw [final.1] at depends
          rw [finished.schedules.status_iff (by simp)]
          exact now ⟨depends, (allowed c depends).2 final.2⟩
        · exact .inl standing
  | retry inside standing kept changed =>
    apply contained.change alike sound.formed
    · intro x _ skipped
      rw [changed, if_neg]
      · exact skipped
      · rintro rfl
        rw [standing] at skipped
        cases skipped
    · intro x _ skipped
      rw [changed] at skipped
      split at skipped
      · cases skipped
      · exact .inl skipped
    · intro x _ failed
      rw [changed] at failed
      split at failed
      · cases failed
      · exact .inl failed

section Accepted

variable {env : Env} {staged : Bool} {items : List WorkFlowItem} {userId : UserId} {tenantId : TenantId}
  {s₀ s₁ : Workflows} {earlier visited : List (Workflows × WorkflowEvent)}

theorem contained_accepted (formed : s₀.db.Formed)
    (accepted : Accepted env staged items userId tenantId s₀ workFlowId s₁) : s₁.db.Contained workFlowId := by
  have unfailed := unfailed_accepted formed accepted
  refine ⟨fun x inside skipped => ?_, fun x inside failed => ?_⟩
  · exact absurd (.inr skipped) (unfailed x inside)
  · exact absurd (.inl failed) (unfailed x inside)

/-- Three jobs in a row. -/
def chain : List WorkFlowItem :=
  [{ key := "a", type := "send_email", retries := some 1 },
    { key := "b", type := "send_email", dependsOn := some (.one "a") },
    { key := "c", type := "send_email", dependsOn := some (.one "b") }]

/-- When the first job fails for good its child is SKIPPED, and the grandchild waits for ever. -/
theorem chain_stranded : ¬ ∀ env staged items userId tenantId earlier s₀ workFlowId s₁ visited s,
    (∀ item ∈ items, Routable item.type ∧ ∀ retries ∈ item.retries, 1 ≤ retries) →
    workflows.Run .empty earlier s₀ → Accepted env staged items userId tenantId s₀ workFlowId s₁ →
    s₁.db.Forest workFlowId → workflows.Run s₁ visited s → (∀ v ∈ visited, v.2.isAttempt = true) →
    ¬ s.db.Active workFlowId → ∀ x, s.db.In workFlowId x →
    s.db.status x = some .COMPLETED ∨ s.db.status x = some .FAILED ∨ s.db.status x = some .SKIPPED := by
  intro claim
  let events : List WorkflowEvent := [.start .plain 0, .finish .plain false 0 (.error { message := "timeout" })]
  have result : (workflows.exec (created chain) events).map
      (fun s => (s.db.workFlowOf 3, s.db.status 3, decide (s.db.Active 0))) =
        some (some 0, some .WAITING_FOR_DEPENDENCIES, false) := by decide +kernel
  obtain ⟨s, done, same⟩ := Option.map_eq_some_iff.mp result
  simp only [Prod.mk.injEq, decide_eq_false_iff_not] at same
  obtain ⟨inside, waiting, idle⟩ := same
  have edges : (created chain).db.edges = [(1, 2), (2, 3)] := by decide +kernel
  have forest : (created chain).db.Forest 0 := by
    constructor
    · intro x p q _ above above'
      simp only [Db.Depends, edges, List.mem_cons, Prod.mk.injEq, List.not_mem_nil, or_false] at above above'
      rcases above with ⟨rfl, rfl⟩ | ⟨rfl, rfl⟩ <;> simpa [eq_comm] using above'
    · refine ⟨id, fun p c _ depends => ?_⟩
      simp only [Db.Depends, edges, List.mem_cons, Prod.mk.injEq, List.not_mem_nil, or_false] at depends
      rcases depends with ⟨rfl, rfl⟩ | ⟨rfl, rfl⟩ <;> decide
  have terminal := claim .plain false chain "user" "tenant" [] .empty 0 (created chain) _ s (by decide) .nil
    ⟨_, rfl⟩ forest (Machine.run_of_exec done) (by decide +kernel) idle 3 inside
  simp [waiting] at terminal

/-- If failures skip only leaves and leave no LENIENT child behind, a forest comes to a stop only when every
    job is COMPLETED, FAILED or SKIPPED. -/
theorem terminal_of_idle (before : workflows.Run .empty earlier s₀)
    (accepted : Accepted env staged items userId tenantId s₀ workFlowId s₁)
    (forest : s₁.db.Forest workFlowId) (after : workflows.Run s₁ visited s)
    (fails : Machine.Guarded (FailsAtLeaves workFlowId) visited) (idle : ¬ s.db.Active workFlowId) {x : JobId}
    (inside : s.db.In workFlowId x) :
    s.db.status x = some .COMPLETED ∨ s.db.status x = some .FAILED ∨ s.db.status x = some .SKIPPED := by
  have sound₀ := Sound.run before
  have sound₁ := sound₀.step (accepted_step accepted)
  have holds : Sound s ∧ s.db.Tracked workFlowId ∧ s.db.Contained workFlowId ∧ s.db.Forest workFlowId := by
    refine after.invariant (fun s => Sound s ∧ s.db.Tracked workFlowId ∧ s.db.Contained workFlowId ∧
      s.db.Forest workFlowId) fails
      ⟨sound₁, accepted_tracked sound₀.formed accepted, contained_accepted sound₀.formed accepted, forest⟩ ?_
    intro s event s' given allowed moved
    obtain ⟨sound, tracked, contained, forest⟩ := given
    have moves := sound.moves tracked.old moved
    exact ⟨sound.step moved, tracked.step sound moves, contained_step sound moves allowed contained,
      moves.alike.forest forest⟩
  obtain ⟨sound, tracked, contained, forest⟩ := holds
  exact Db.terminal_of_drained sound.formed sound.exact tracked contained idle forest inside

/-- Two jobs in a row, the first without a second attempt. -/
def fragile : List WorkFlowItem :=
  [{ key := "a", type := "send_email", retries := some 1 },
    { key := "b", type := "send_email", dependsOn := some (.one "a") }]

theorem terminal_of_idle_fragile : ∃ s, workflows.exec (created fragile)
      [.start .plain 0, .finish .plain false 0 (.error { message := "timeout" })] = some s ∧
    (s.db.status 2 = some .COMPLETED ∨ s.db.status 2 = some .FAILED ∨ s.db.status 2 = some .SKIPPED) := by
  have result : (workflows.exec (created fragile)
      [.start .plain 0, .finish .plain false 0 (.error { message := "timeout" })]).map
      (fun s => (decide (s.db.Active 0), s.db.workFlowOf 2)) = some (false, some 0) := by decide +kernel
  obtain ⟨s, done, same⟩ := Option.map_eq_some_iff.mp result
  simp only [Prod.mk.injEq, decide_eq_false_iff_not] at same
  obtain ⟨idle, inside⟩ := same
  have edges : (created fragile).db.edges = [(1, 2)] := by decide +kernel
  have forest : (created fragile).db.Forest 0 := by
    constructor
    · intro x p q _ above above'
      simp only [Db.Depends, edges, List.mem_singleton, Prod.mk.injEq] at above above'
      rw [above.1, above'.1]
    · refine ⟨id, fun p c _ depends => ?_⟩
      simp only [Db.Depends, edges, List.mem_singleton, Prod.mk.injEq] at depends
      rw [depends.1, depends.2]
      decide
  have accepted : Accepted .plain false fragile "user" "tenant" .empty 0 (created fragile) := ⟨_, rfl⟩
  exact ⟨s, done, terminal_of_idle .nil accepted forest (Machine.run_of_exec done) (by decide +kernel) idle inside⟩

end Accepted
end OrchestrateModel
