import Orchestrate.Workflow.Drained
import Orchestrate.Workflow.Skipping

namespace OrchestrateModel

open Effect ChainService Relation

/-- Along a cycle every edge starts at a node of the cycle. -/
theorem edges_of_cycle {α : Type} {r : α → α → Prop} {a b : α} (path : TransGen r a b) (back : ReflTransGen r b a) :
    TransGen (fun p c => r p c ∧ TransGen r p p) a b := by
  induction path with
  | single edge => exact .single ⟨edge, TransGen.head' edge back⟩
  | tail before edge ih =>
    have cycle := TransGen.head' edge (back.trans before.to_reflTransGen)
    exact .tail (ih (.head edge back)) ⟨edge, cycle⟩

namespace Db

variable {env : Env} {db db' : Db} {workFlowId : WorkFlowId} {p c x : JobId} {passed skipped passed' skipped' : JobId → Prop}

/-- The searches look below the job. -/
def Passed (db : Db) (x : JobId) : Prop := db.status x = some .COMPLETED ∨ db.status x = some .SKIPPED

theorem judge_descend : judge (db.status x) = .descend ↔ db.Passed x := by
  unfold Passed
  cases db.status x with
  | none => simp [judge]
  | some status => cases status <;> simp [judge]

/-- The dependencies of the jobs in `passed`. -/
def Descends (db : Db) (passed : JobId → Prop) (p c : JobId) : Prop := passed p ∧ db.Depends p c

/-- A path of jobs in `passed` leads from a job without parents to a cycle of jobs in `skipped`. -/
def Trapped (db : Db) (passed skipped : JobId → Prop) : Prop :=
  ∃ root x, (∀ p, ¬ db.Depends p root) ∧ ReflTransGen (db.Descends passed) root x ∧
    TransGen (db.Descends skipped) x x

theorem Trapped.imp (roots : ∀ x, (∀ p, ¬ db'.Depends p x) → ∀ p, ¬ db.Depends p x)
    (through : ∀ p c, db'.Descends passed' p c → db.Descends passed p c)
    (around : ∀ p c, db'.Descends skipped' p c → db.Descends skipped p c) (trapped : db'.Trapped passed' skipped') :
    db.Trapped passed skipped := by
  obtain ⟨root, x, rootless, path, cycle⟩ := trapped
  exact ⟨root, x, roots root rootless, path.lift id through, cycle.lift id around⟩

theorem Kept.trapped (kept : Kept db db') (through : ∀ x, passed' x → passed x) (around : ∀ x, skipped' x → skipped x)
    (trapped : db'.Trapped passed' skipped') : db.Trapped passed skipped := by
  refine trapped.imp ?_ ?_ ?_
  · intro x rootless p depends
    exact rootless p ((kept.depends p x).mpr depends)
  · intro p c given
    obtain ⟨inside, depends⟩ := given
    exact ⟨through p inside, (kept.depends p c).mp depends⟩
  · intro p c given
    obtain ⟨inside, depends⟩ := given
    exact ⟨around p inside, (kept.depends p c).mp depends⟩

/-- No COMPLETED job depends on itself, however indirectly. -/
def Untangled (db : Db) : Prop := ∀ x, TransGen db.Depends x x → db.status x ≠ some .COMPLETED

/-- A job that depends on itself never gets ready. -/
theorem Untangled.stalled (untangled : db.Untangled) (exact_ : db.Exact) (cycle : TransGen db.Depends x x) :
    db.status x = some .WAITING_FOR_DEPENDENCIES ∨ db.status x = some .SKIPPED := by
  obtain ⟨p, path, depends⟩ := TransGen.tail'_iff.mp cycle
  have parent : TransGen db.Depends p p := TransGen.head' depends path
  exact exact_.waits_of_child depends (untangled p parent)

theorem Untangled.trapped (untangled : db.Untangled) (trapped : db.Trapped passed db.Passed) :
    db.Trapped passed fun x => db.status x = some .SKIPPED := by
  obtain ⟨root, x, rootless, path, cycle⟩ := trapped
  refine ⟨root, x, rootless, path, (edges_of_cycle cycle .refl).lift id ?_⟩
  intro p c given
  obtain ⟨⟨passes, depends⟩, around⟩ := given
  have tangled : TransGen db.Depends p p := around.lift id fun _ _ edge => edge.2
  exact ⟨passes.resolve_left (untangled p tangled), depends⟩

/-- The search ends unless it can come to a cycle of jobs that it looks below. -/
theorem pick_ends_of_not_trapped (formed : db.Formed) (free : ¬ db.Trapped db.Passed db.Passed) :
    db.pick env workFlowId ≠ none := by
  classical
  have arranged := arrangement formed env workFlowId
  let verdict (x : JobId) : Search.Verdict := judge (db.status x)
  let children := Search.narrowed verdict (db.siblings env)
  let reached (x : JobId) : Prop := ∃ root, (∀ p, ¬ db.Depends p root) ∧ ReflTransGen (db.Descends db.Passed) root x
  let inside : Finset JobId := ((db.workFlowJobs workFlowId).map (·.id)).toFinset.filter reached
  have mem_inside {x : JobId} : x ∈ inside ↔ db.In workFlowId x ∧ reached x := by
    rw [Finset.mem_filter, List.mem_toFinset, mem_workFlowIds formed.keyed]
  have below (a : JobId) (member : a ∈ inside) (c : JobId) (child : c ∈ children a) :
      db.Descends db.Passed a c ∧ c ∈ inside := by
    obtain ⟨insideA, root, rootless, path⟩ := mem_inside.mp member
    simp only [children, Search.narrowed] at child
    split at child
    · rename_i descends
      have depends := (arranged.children_mem a insideA c).mp child
      have edge : db.Descends db.Passed a c := ⟨judge_descend.mp descends, depends⟩
      exact ⟨edge, mem_inside.mpr ⟨formed.child_in depends insideA, root, rootless, path.tail edge⟩⟩
    · cases child
  have path {a b : JobId} (start : a ∈ inside) (steps : TransGen (fun p c => c ∈ children p) a b) :
      TransGen (db.Descends db.Passed) a b ∧ b ∈ inside := by
    induction steps with
    | single child =>
      obtain ⟨edge, member⟩ := below _ start _ child
      exact ⟨.single edge, member⟩
    | tail before child ih =>
      obtain ⟨edge, member⟩ := below _ ih.2 _ child
      exact ⟨ih.1.tail edge, member⟩
  have acyclic (a : JobId) (member : a ∈ inside) : ¬ TransGen (fun p c => c ∈ children p) a a := by
    intro cycle
    obtain ⟨_, root, rootless, way⟩ := mem_inside.mp member
    exact free ⟨root, a, rootless, way, (path member cycle).1⟩
  obtain ⟨rank, descending, bounded⟩ :=
    Search.exists_rank children inside (fun a member c child => (below a member c child).2) acyclic
  have small : inside.card ≤ (db.workFlowJobs workFlowId).length := by
    have count := List.toFinset_card_le ((db.workFlowJobs workFlowId).map (·.id))
    rw [List.length_map] at count
    exact Nat.le_trans (Finset.card_filter_le _ _) count
  have ends : Search.level verdict (Search.below verdict children (db.workFlowJobs workFlowId).length)
      (db.roots env workFlowId) ≠ none := by
    apply Search.level_ends descending
    intro a member
    obtain ⟨insideA, rootless⟩ := (arranged.roots_mem a).mp member
    have start : a ∈ inside := mem_inside.mpr ⟨insideA, a, rootless, .refl⟩
    exact ⟨start, Nat.lt_of_lt_of_le (bounded a start) small⟩
  have same : Search.level verdict (Search.below verdict children (db.workFlowJobs workFlowId).length)
      (db.roots env workFlowId) = db.pick env workFlowId :=
    Search.level_congr fun a _ descends => Search.below_narrowed _ descends
  rwa [same] at ends

end Db

/-- The attempt that ends leaves no way from a root through COMPLETED and SKIPPED jobs to a cycle of SKIPPED
    jobs. -/
def EndsFree (s : Workflows) : WorkflowEvent → Prop
  | .create .. | .start .. | .retry .. => True
  | .finish _ _ i (.ok _) => ∀ entry, s.desk.entries[i]? = some entry →
      ¬ s.db.Trapped (fun x => s.db.Passed x ∨ x = entry.payload.jobId) fun x => s.db.status x = some .SKIPPED
  | .finish _ _ i (.error _) => ∀ entry, s.desk.entries[i]? = some entry →
      ¬ s.db.Trapped (fun x => s.db.Passed x ∨ s.db.Skips entry.payload.jobId x)
        fun x => s.db.status x = some .SKIPPED ∨ s.db.Skips entry.payload.jobId x

/-- No search of the state comes to a cycle, and none has. -/
structure Free (s : Workflows) : Prop where
  untangled : s.db.Untangled
  open_ : ¬ s.db.Trapped s.db.Passed fun x => s.db.status x = some .SKIPPED
  unstuck : ∀ entry ∈ s.desk.entries, entry.stage ≠ .stuck

theorem free_empty : Free .empty := by
  refine ⟨?_, ?_, ?_⟩
  · intro x cycle standing
    cases standing
  · rintro ⟨root, x, _, _, cycle⟩
    obtain ⟨_, ⟨_, depends⟩, _⟩ := TransGen.head'_iff.mp cycle
    cases depends
  · intro entry member
    cases member

namespace Free

variable {env : Env} {staged : Bool} {workFlowId : WorkFlowId} {s s' : Workflows} {i : Nat} {db' : Db} {x : JobId}

theorem pick_ends (free : Free s) (formed : s.db.Formed) : s.db.pick env workFlowId ≠ none := by
  apply Db.pick_ends_of_not_trapped formed
  intro trapped
  exact free.open_ (free.untangled.trapped trapped)

theorem posted {desk' : Desk} (unstuck : ∀ entry ∈ s.desk.entries, entry.stage ≠ .stuck) (posted : Posted x s.desk desk') :
    ∀ entry ∈ desk'.entries, entry.stage ≠ .stuck := by
  intro entry member
  rcases posted.entries member with old | ⟨_, waiting⟩
  · exact unstuck entry old
  · simp [waiting]

theorem set_ {settled : Entry} (unstuck : ∀ entry ∈ s.desk.entries, entry.stage ≠ .stuck) (fine : settled.stage ≠ .stuck) :
    ∀ entry ∈ (s.desk.setEntry i settled).entries, entry.stage ≠ .stuck := by
  intro entry member
  rcases List.mem_or_eq_of_mem_set member with old | rfl
  · exact unstuck entry old
  · exact fine

/-- A step that completes and skips nothing. -/
theorem change (free : Free s) (kept : Db.Kept s.db db')
    (changed : ∀ y, db'.status y = s.db.status y ∨ ∃ status, db'.status y = some status ∧
      status ≠ .COMPLETED ∧ status ≠ .SKIPPED) {desk' : Desk} (unstuck : ∀ entry ∈ desk'.entries, entry.stage ≠ .stuck) :
    Free { db := db', desk := desk' } := by
  have same {y : JobId} {status : JobStatus} (either : status = .COMPLETED ∨ status = .SKIPPED)
      (standing : db'.status y = some status) : s.db.status y = some status := by
    rcases changed y with same | ⟨other, standing', completed, skipped⟩
    · rwa [← same]
    · rw [standing] at standing'
      obtain rfl := Option.some.inj standing'
      rcases either with rfl | rfl
      · exact absurd rfl completed
      · exact absurd rfl skipped
  refine ⟨?_, ?_, unstuck⟩
  · intro y cycle standing
    exact free.untangled y (cycle.lift id fun p c => (kept.depends p c).mp) (same (.inl rfl) standing)
  · intro trapped
    refine free.open_ (kept.trapped ?_ ?_ trapped)
    · intro y passed
      exact passed.imp (same (.inl rfl)) (same (.inr rfl))
    · intro y skipped
      exact same (.inr rfl) skipped

theorem dispatched (free : Free s) (dispatched : Dispatched env staged workFlowId s s') : Free s' := by
  cases dispatched with
  | none reason => exact free
  | next job idle picked row ready =>
    have standing : s.db.status job.id ≠ none := by simp [Db.status, row]
    refine free.change (Db.kept_updateJob s.db job.id _) (fun y => ?_)
      (posted free.unstuck (posted_candidate staged env.now job s.desk))
    rw [Db.status_updateJob s.db job.id y .QUEUED _ rfl standing]
    split
    · exact .inr ⟨.QUEUED, rfl, by simp, by simp⟩
    · exact .inl rfl

/-- New jobs are neither COMPLETED nor SKIPPED, and no old job depends on them. -/
theorem grown (free : Free s) (formed : s.db.Formed) {rows : List Job} {links : List JobDependency}
    (grown : Grown s.db workFlowId rows links db') : Free { s with db := db' } := by
  have old {y : JobId} {status : JobStatus} (either : status = .COMPLETED ∨ status = .SKIPPED)
      (standing : db'.status y = some status) : s.db.status y = some status := by
    rcases grown.status_cases formed standing with same | ⟨row, member, rfl, same⟩
    · exact same
    · rcases grown.fresh row member with ready | waits
      · rcases either with rfl | rfl <;> simp [ready] at same
      · rcases either with rfl | rfl <;> simp [waits] at same
  have edge {p c : JobId} {status : JobStatus} (standing : s.db.status p = some status ∨ s.db.status c = some status)
      (depends : db'.Depends p c) : s.db.Depends p c := by
    rcases grown.depends.mp depends with before | ⟨dep, member, rfl, rfl⟩
    · exact before
    · obtain ⟨⟨parent, parentRow, sameParent⟩, child, childRow, sameChild, _⟩ := grown.ends dep member
      rcases standing with standing | standing
      · exact absurd sameParent (grown.apart formed standing parent parentRow)
      · exact absurd sameChild (grown.apart formed standing child childRow)
  refine ⟨?_, ?_, free.unstuck⟩
  · intro x cycle standing
    have back {y z : JobId} (path : TransGen db'.Depends y z) : ∀ status, s.db.status z = some status →
        TransGen s.db.Depends y z := by
      induction path with
      | single depends => exact fun status standing => .single (edge (.inr standing) depends)
      | tail before depends ih =>
        intro status standing
        have last := edge (.inr standing) depends
        obtain ⟨flow, parent, _⟩ := formed.ends _ _ last
        obtain ⟨status', standing'⟩ := Db.status_of_workFlowOf parent
        exact .tail (ih status' standing') last
    have standing' := old (.inl rfl) standing
    exact free.untangled x (back cycle _ standing') standing'
  · intro trapped
    refine free.open_ (trapped.imp ?_ ?_ ?_)
    · intro x rootless p depends
      exact rootless p (grown.depends.mpr (.inl depends))
    · rintro p c ⟨completed | skipped, depends⟩
      · exact ⟨.inl (old (.inl rfl) completed), edge (.inl (old (.inl rfl) completed)) depends⟩
      · exact ⟨.inr (old (.inr rfl) skipped), edge (.inl (old (.inr rfl) skipped)) depends⟩
    · rintro p c ⟨skipped, depends⟩
      exact ⟨old (.inr rfl) skipped, edge (.inl (old (.inr rfl) skipped)) depends⟩

theorem started (free : Free s) (sound : Sound s) (moved : s.step (.start env i) = some s') : Free s' := by
  obtain ⟨entry, attempt, before, _, _, _, desk, _, kept, changed⟩ := sound.start_status moved
  have later : Free { db := s'.db, desk := s.desk.setEntry i { entry with stage := .running attempt } } := by
    refine free.change kept (fun y => ?_) (set_ free.unstuck (by simp))
    rw [changed]
    split
    · exact .inr ⟨.PROCESSING, rfl, by simp, by simp⟩
    · exact .inl rfl
  rwa [← desk] at later

theorem retried (free : Free s) {jobId : JobId} {userId : UserId} {tenantId : TenantId}
    (moved : s.step (.retry env staged jobId userId tenantId) = some s') : Free s' := by
  rcases Workflows.retry_cases moved with ⟨_, rfl⟩ | ⟨retries, db, job, row, desk⟩
  · exact free
  · have kept := Db.kept_updateJob s.db jobId { status := some .QUEUED }
    rw [← db] at kept
    refine free.change kept (fun y => ?_) (posted free.unstuck (Workflows.retry_posted row desk))
    rw [db, Db.status_updateJob s.db jobId y .QUEUED _ rfl (by simp [retries.standing])]
    split
    · exact .inr ⟨.QUEUED, rfl, by simp, by simp⟩
    · exact .inl rfl

/-- The end of an attempt whose handler leaves no cycle to come to. -/
theorem finished (free : Free s) (sound : Sound s) {entry settled : Entry} {written handled : Db}
    (finished : Finished env staged s i entry settled workFlowId written handled s') (untangled : handled.Untangled)
    (open_ : ¬ handled.Trapped handled.Passed fun x => handled.status x = some .SKIPPED) : Free s' := by
  have formed := finished.handles.formed (finished.writes.formed sound.formed)
  have ends : handled.pick env workFlowId ≠ none := by
    apply Db.pick_ends_of_not_trapped formed
    intro trapped
    exact open_ (untangled.trapped trapped)
  have fine : settled.stage ≠ .stuck := fun stuck => ends (finished.endless stuck)
  have before : Free { db := handled, desk := s.desk.setEntry i settled } := ⟨untangled, open_, set_ free.unstuck fine⟩
  exact before.dispatched finished.schedules

open Classical in
theorem finish_ok (free : Free s) (sound : Sound s) {result : Option String}
    (moved : s.step (.finish env staged i (.ok result)) = some s')
    (ends : EndsFree s (.finish env staged i (.ok result))) : Free s' := by
  obtain ⟨entry, settled, workFlowId, written, handled, finished, _, status, unlocked⟩ := sound.finish_ok moved
  have kept := finished.writes.trans finished.handles
  have completed {y : JobId} (standing : handled.status y = some .COMPLETED) :
      s.db.status y = some .COMPLETED ∨ y = entry.payload.jobId := by
    rw [unlocked, status] at standing
    split at standing
    · cases standing
    · split at standing
      · exact .inr ‹_›
      · exact .inl standing
  have skipped {y : JobId} (standing : handled.status y = some .SKIPPED) : s.db.status y = some .SKIPPED := by
    rw [unlocked, status] at standing
    split at standing
    · cases standing
    · split at standing
      · cases standing
      · exact standing
  refine free.finished sound finished ?_ ?_
  · intro y cycle standing
    have around : TransGen s.db.Depends y y := cycle.lift id fun p c => (kept.depends p c).mp
    rcases completed standing with before | rfl
    · exact free.untangled y around before
    · -- a job on a cycle waits or is skipped, but this one runs
      rcases free.untangled.stalled sound.exact around with waits | skips
      · simp [finished.standing] at waits
      · simp [finished.standing] at skips
  · intro trapped
    refine ends entry finished.at_i (kept.trapped ?_ ?_ trapped)
    · rintro y (standing | standing)
      · exact (completed standing).imp .inl id
      · exact .inl (.inr (skipped standing))
    · exact fun y standing => skipped standing

open Classical in
theorem finish_error (free : Free s) (sound : Sound s) {error : Err}
    (moved : s.step (.finish env staged i (.error error)) = some s')
    (ends : EndsFree s (.finish env staged i (.error error))) : Free s' := by
  obtain ⟨entry, settled, workFlowId, written, handled, finished, _, _, _, status, marks⟩ := sound.finish_error moved
  have kept := finished.writes.trans finished.handles
  have skips (y : JobId) : written.Skips entry.payload.jobId y ↔ s.db.Skips entry.payload.jobId y := by
    rw [Db.Skips, Db.Skips, finished.writes.depends, finished.writes.strict]
  have completed {y : JobId} (standing : handled.status y = some .COMPLETED) : s.db.status y = some .COMPLETED := by
    rw [marks, status] at standing
    split at standing
    · cases standing
    · split at standing
      · cases standing
      · exact standing
  have skipped {y : JobId} (standing : handled.status y = some .SKIPPED) :
      s.db.status y = some .SKIPPED ∨ s.db.Skips entry.payload.jobId y := by
    rw [marks, status] at standing
    split at standing
    · exact .inr ((skips y).mp ‹_›)
    · split at standing
      · cases standing
      · exact .inl standing
  refine free.finished sound finished ?_ ?_
  · intro y cycle standing
    exact free.untangled y (cycle.lift id fun p c => (kept.depends p c).mp) (completed standing)
  · intro trapped
    refine ends entry finished.at_i (kept.trapped ?_ ?_ trapped)
    · rintro y (standing | standing)
      · exact .inl (.inl (completed standing))
      · exact (skipped standing).imp .inr id
    · exact fun y standing => skipped standing

theorem step (free : Free s) (sound : Sound s) {event : WorkflowEvent} (moved : s.step event = some s')
    (ends : EndsFree s event) : Free s' := by
  cases event with
  | create env staged items userId tenantId =>
    rcases Workflows.create_cases sound.formed moved with
      rfl | ⟨rows, links, db', grown, rfl⟩ | ⟨rows, links, db₁, grown, _, dispatched⟩
    · exact free
    · exact free.grown sound.formed grown
    · exact (free.grown sound.formed grown).dispatched dispatched
  | start env i => exact free.started sound moved
  | retry env staged jobId userId tenantId => exact free.retried moved
  | finish env staged i outcome =>
    cases outcome with
    | ok result => exact free.finish_ok sound moved ends
    | error error => exact free.finish_error sound moved ends

end Free

variable {visited : List (Workflows × WorkflowEvent)} {s : Workflows}

theorem free_run (run : workflows.Run .empty visited s) (ends : Machine.Guarded EndsFree visited) : Free s := by
  have both : Sound s ∧ Free s := by
    apply run.invariant (fun s => Sound s ∧ Free s) ends ⟨sound_empty, free_empty⟩
    intro s event s' given guard moved
    obtain ⟨sound, free⟩ := given
    exact ⟨sound.step moved, free.step sound moved guard⟩
  exact both.2

/-- Unless the end of an attempt opens a way to a cycle of SKIPPED jobs, each search for the next job ends, and
    so have those of all handlers. -/
theorem search_ends (run : workflows.Run .empty visited s) (ends : Machine.Guarded EndsFree visited) :
    (∀ env staged workFlowId,
      ((pickNextJobGLobal workFlowId).run (serve env (Desk.accept staged env.now)) (s.db, s.desk)).1 ≠ .hung) ∧
    ∀ entry ∈ s.desk.entries, entry.stage ≠ .stuck := by
  have free := free_run run ends
  have formed := (Sound.run run).formed
  refine ⟨fun env staged workFlowId hung => ?_, free.unstuck⟩
  rw [run_pickNextJobGLobal formed.keyed] at hung
  cases picked : s.db.pick env workFlowId with
  | none => exact free.pick_ends formed picked
  | some found => cases found <;> simp [picked, Db.found] at hung

/-- Where no job depends on itself every end of an attempt is harmless. -/
theorem endsFree_of_acyclic (acyclic : ∀ x, ¬ TransGen s.db.Depends x x) (event : WorkflowEvent) : EndsFree s event := by
  have untrapped (passed skipped : JobId → Prop) : ¬ s.db.Trapped passed skipped := by
    rintro ⟨root, x, _, _, cycle⟩
    exact acyclic x (cycle.lift id fun _ _ edge => edge.2)
  cases event with
  | create env staged items userId tenantId => trivial
  | start env i => trivial
  | retry env staged jobId userId tenantId => trivial
  | finish env staged i outcome =>
    cases outcome with
    | ok result => exact fun entry _ => untrapped _ _
    | error error => exact fun entry _ => untrapped _ _

/-- The first attempt fails, the second succeeds. -/
def failThenSucceed (request : WorkflowEvent) : List WorkflowEvent :=
  [request, .start .plain 0, .finish .plain false 0 (.error { message := "smtp down" }), .start .plain 0,
    .finish .plain false 0 (.ok none)]

theorem search_ends_pair : ∃ s, workflows.exec .empty (failThenSucceed pairRequest) = some s ∧
    ((pickNextJobGLobal 0).run (serve .plain (Desk.accept false 0)) (s.db, s.desk)).1 ≠ .hung := by
  have ran : (workflows.exec .empty (failThenSucceed pairRequest)).isSome := by decide +kernel
  obtain ⟨s, done⟩ := Option.isSome_iff_exists.mp ran
  have rising : ∀ v ∈ workflows.trace .empty (failThenSucceed pairRequest), ∀ e ∈ v.1.db.edges, e.1 < e.2 := by
    decide +kernel
  have ends : Machine.Guarded EndsFree (workflows.trace .empty (failThenSucceed pairRequest)) := by
    intro v member
    apply endsFree_of_acyclic
    intro x cycle
    have climbs {y z : JobId} (path : TransGen v.1.db.Depends y z) : y < z := by
      induction path with
      | single depends => exact rising v member (_, _) depends
      | tail before depends ih => exact Nat.lt_trans ih (rising v member (_, _) depends)
    exact Nat.lt_irrefl x (climbs cycle)
  exact ⟨s, done, (search_ends (Machine.run_of_exec done) ends).1 .plain false 0⟩

/-- Two STRICT jobs that depend on each other and on a third. -/
def crossedRequest : WorkflowEvent :=
  .create .plain false
    [{ key := "a", type := "send_email", retries := some 2 },
      { key := "b", type := "send_email", dependsOn := some (.many ["a", "c"]) },
      { key := "c", type := "send_email", dependsOn := some (.many ["b", "a"]) }] "user" "tenant"

theorem search_hangs : ¬ ∀ visited s, workflows.Run .empty visited s → ∀ env staged workFlowId,
    ((pickNextJobGLobal workFlowId).run (serve env (Desk.accept staged env.now)) (s.db, s.desk)).1 ≠ .hung := by
  intro always
  have result : (workflows.exec .empty (failThenSucceed crossedRequest)).map
      (fun s => ((pickNextJobGLobal 0).run (serve .plain (Desk.accept false Env.plain.now)) (s.db, s.desk)).1) =
        some .hung := by
    decide +kernel
  obtain ⟨s, done, hung⟩ := Option.map_eq_some_iff.mp result
  exact always _ s (Machine.run_of_exec done) .plain false 0 hung

end OrchestrateModel
