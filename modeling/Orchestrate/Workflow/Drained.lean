import Orchestrate.Workflow.Sound

namespace OrchestrateModel

open ChainService

theorem precedes_total (a b : Job) : Precedes a b ∨ Precedes b a := by
  unfold Precedes
  omega

theorem precedes_trans {a b c : Job} (first : Precedes a b) (second : Precedes b c) : Precedes a c := by
  unfold Precedes at *
  omega

instance : Std.Total Precedes := ⟨precedes_total⟩

instance : IsTrans Job Precedes := ⟨fun _ _ _ => precedes_trans⟩

namespace Db

variable {env : Env} {db db' : Db} {workFlowId : WorkFlowId} {p c x : JobId}

def In (db : Db) (workFlowId : WorkFlowId) (x : JobId) : Prop := db.workFlowOf x = some workFlowId

instance (db : Db) (workFlowId : WorkFlowId) (x : JobId) : Decidable (db.In workFlowId x) :=
  inferInstanceAs (Decidable (_ = _))

/-- The comparison of the sort, on the rows of two ids. -/
def Before (db : Db) (a b : JobId) : Prop :=
  ∃ rowA rowB, db.job? a = some rowA ∧ db.job? b = some rowB ∧ Precedes rowA rowB

theorem In.row (inside : db.In workFlowId x) :
    ∃ job, db.job? x = some job ∧ job.id = x ∧ job.workFlowId = some workFlowId := by
  obtain ⟨job, row, own⟩ := Option.bind_eq_some_iff.mp inside
  exact ⟨job, row, id_of_job? row, own⟩

theorem Formed.child_in (formed : db.Formed) (depends : db.Depends p c) (inside : db.In workFlowId p) :
    db.In workFlowId c := by
  obtain ⟨own, parent, child⟩ := formed.ends p c depends
  rw [In, parent] at inside
  rwa [In, child]

theorem Formed.parent_in (formed : db.Formed) (depends : db.Depends p c) (inside : db.In workFlowId c) :
    db.In workFlowId p := by
  obtain ⟨own, parent, child⟩ := formed.ends p c depends
  rw [In, child] at inside
  rwa [In, parent]

/-- The roots of a workflow and the children of its jobs, in an order that a search may loop over them. -/
structure Arrangement (db : Db) (workFlowId : WorkFlowId) (roots : List JobId) (children : JobId → List JobId) :
    Prop where
  roots_mem : ∀ x, x ∈ roots ↔ db.In workFlowId x ∧ ∀ p, ¬ db.Depends p x
  children_mem : ∀ p, db.In workFlowId p → ∀ c, c ∈ children p ↔ db.Depends p c
  roots_sorted : roots.Pairwise db.Before
  children_sorted : ∀ p, db.In workFlowId p → (children p).Pairwise db.Before

theorem mem_workFlowJobs (keyed : db.Keyed) {job : Job} :
    job ∈ db.workFlowJobs workFlowId ↔ db.job? job.id = some job ∧ db.In workFlowId job.id := by
  constructor
  · intro member
    obtain ⟨present, own⟩ := List.mem_filter.mp member
    have row := job?_of_mem keyed present
    exact ⟨row, by simpa [In, workFlowOf, row] using own⟩
  · intro given
    obtain ⟨row, inside⟩ := given
    refine List.mem_filter.mpr ⟨mem_of_job? row, ?_⟩
    simpa [In, workFlowOf, row] using inside

theorem mem_workFlowIds (keyed : db.Keyed) : x ∈ (db.workFlowJobs workFlowId).map (·.id) ↔ db.In workFlowId x := by
  constructor
  · intro member
    obtain ⟨job, present, rfl⟩ := List.mem_map.mp member
    exact ((mem_workFlowJobs keyed).mp present).2
  · intro inside
    obtain ⟨job, row, rfl, _⟩ := inside.row
    exact List.mem_map_of_mem ((mem_workFlowJobs keyed).mpr ⟨row, inside⟩)

/-- Sorting rows sorts their ids. -/
theorem sortJobs_sorted {jobs : List Job} (rows : ∀ job ∈ jobs, db.job? job.id = some job) :
    ((sortJobs jobs).map (·.id)).Pairwise db.Before := by
  rw [List.pairwise_map]
  refine (List.pairwise_insertionSort Precedes jobs).imp_of_mem ?_
  intro a b memberA memberB precedes
  rw [List.mem_insertionSort] at memberA memberB
  exact ⟨a, b, rows a memberA, rows b memberB, precedes⟩

theorem arrangement (formed : db.Formed) (env : Env) (workFlowId : WorkFlowId) :
    Arrangement db workFlowId (db.roots env workFlowId) (db.siblings env) := by
  have rowsOf (p : JobId) : ∀ job ∈ (env.arrangeDeps (db.childDeps p)).filterMap fun dep => db.job? dep.childJobId,
      db.job? job.id = some job := by
    intro job member
    obtain ⟨dep, _, row⟩ := List.mem_filterMap.mp member
    rwa [id_of_job? row]
  have inFlow {job : Job} : job ∈ env.arrange (db.workFlowJobs workFlowId) ↔
      db.job? job.id = some job ∧ db.In workFlowId job.id := by
    rw [(env.arrange_perm _).mem_iff]
    exact mem_workFlowJobs formed.keyed
  refine ⟨?_, ?_, ?_, ?_⟩
  · intro x
    simp only [roots, sortJobs, List.mem_map, List.mem_insertionSort, List.mem_filter, Bool.not_eq_true',
      List.contains_eq_mem, decide_eq_false_iff_not]
    constructor
    · rintro ⟨job, ⟨member, childless⟩, rfl⟩
      obtain ⟨row, inside⟩ := inFlow.mp member
      refine ⟨inside, fun p depends => childless ?_⟩
      obtain ⟨dep, present, same⟩ := List.mem_map.mp depends
      obtain ⟨rfl, child⟩ : dep.parentJobId = p ∧ dep.childJobId = job.id := by simpa using same
      have parentIn := formed.parent_in depends inside
      obtain ⟨parent, parentRow, own, _⟩ := parentIn.row
      refine ⟨dep, (env.arrangeDeps_perm _).mem_iff.mpr (List.mem_filter.mpr ⟨present, ?_⟩), child⟩
      rw [decide_eq_true_eq]
      refine ⟨parent, inFlow.mpr ⟨?_, ?_⟩, own⟩
      · rwa [own]
      · rwa [own]
    · intro given
      obtain ⟨inside, rootless⟩ := given
      obtain ⟨job, row, rfl, _⟩ := inside.row
      refine ⟨job, ⟨inFlow.mpr ⟨row, inside⟩, ?_⟩, rfl⟩
      rintro ⟨dep, member, child⟩
      have present := (List.mem_filter.mp ((env.arrangeDeps_perm _).mem_iff.mp member)).1
      exact rootless dep.parentJobId (child ▸ List.mem_map_of_mem present)
  · intro p _ c
    simp only [siblings, sortJobs, List.mem_map, List.mem_insertionSort, List.mem_filterMap]
    constructor
    · rintro ⟨job, ⟨dep, member, row⟩, rfl⟩
      rw [id_of_job? row]
      exact depends_of_dep member
    · intro depends
      obtain ⟨dep, member, rfl⟩ := exists_dep env depends
      obtain ⟨workFlowId, _, child⟩ := formed.ends _ _ depends
      obtain ⟨job, row, own, _⟩ := In.row child
      exact ⟨job, ⟨dep, member, row⟩, own⟩
  · refine sortJobs_sorted fun job member => ?_
    exact (inFlow.mp (List.mem_filter.mp member).1).1
  · intro p _
    exact sortJobs_sorted (rowsOf p)

/-- In some order no search comes to a READY job of the workflow. -/
def Drained (db : Db) (workFlowId : WorkFlowId) : Prop :=
  ∃ roots children, Arrangement db workFlowId roots children ∧
    ∀ x, Search.Seen (fun id => judge (db.status id)) children roots x → db.status x ≠ some .READY

theorem drained_of_pick (formed : db.Formed) (picked : db.pick env workFlowId = some none) :
    db.Drained workFlowId := by
  refine ⟨_, _, arrangement formed env workFlowId, fun x seen ready => ?_⟩
  have untaken := Search.not_take_of_seen picked seen
  simp [ready, judge] at untaken

/-- No job of the workflow depends on itself, however indirectly. -/
def Acyclic (db : Db) (workFlowId : WorkFlowId) : Prop :=
  ∃ rank : JobId → Nat, ∀ p c, db.In workFlowId p → db.Depends p c → rank p < rank c

/-- On an acyclic workflow a rank falls at every step down and is less than the number of jobs. -/
theorem exists_rank (formed : db.Formed) (acyclic : db.Acyclic workFlowId) {roots : List JobId}
    {children : JobId → List JobId} (arranged : Arrangement db workFlowId roots children) :
    ∃ rank, Search.Descending children (db.In workFlowId) rank ∧
      ∀ a, db.In workFlowId a → rank a < (db.workFlowJobs workFlowId).length := by
  obtain ⟨number, rising⟩ := acyclic
  let inside : Finset JobId := ((db.workFlowJobs workFlowId).map (·.id)).toFinset
  have mem_inside {x : JobId} : x ∈ inside ↔ db.In workFlowId x :=
    List.mem_toFinset.trans (mem_workFlowIds formed.keyed)
  have closed : ∀ a ∈ inside, ∀ c ∈ children a, c ∈ inside := by
    intro a member c child
    have insideA := mem_inside.mp member
    exact mem_inside.mpr (formed.child_in ((arranged.children_mem a insideA c).mp child) insideA)
  have climbs {a b : JobId} (path : Relation.TransGen (fun p c => c ∈ children p) a b)
      (start : a ∈ inside) : b ∈ inside ∧ number a < number b := by
    induction path with
    | single child =>
      have insideA := mem_inside.mp start
      exact ⟨closed _ start _ child, rising _ _ insideA ((arranged.children_mem _ insideA _).mp child)⟩
    | tail before child ih =>
      obtain ⟨member, less⟩ := ih
      have insideB := mem_inside.mp member
      exact ⟨closed _ member _ child,
        Nat.lt_trans less (rising _ _ insideB ((arranged.children_mem _ insideB _).mp child))⟩
  obtain ⟨rank, descending, bounded⟩ := Search.exists_rank children inside closed
    fun a member cycle => Nat.lt_irrefl _ (climbs cycle member).2
  have small : inside.card ≤ (db.workFlowJobs workFlowId).length := by
    have count := List.toFinset_card_le ((db.workFlowJobs workFlowId).map (·.id))
    rwa [List.length_map] at count
  refine ⟨rank, fun a member c child => ?_, fun a member => ?_⟩
  · obtain ⟨insideC, less⟩ := descending a (mem_inside.mpr member) c child
    exact ⟨mem_inside.mp insideC, less⟩
  · exact Nat.lt_of_lt_of_le (bounded a (mem_inside.mpr member)) small

/-- On an acyclic workflow the search ends. -/
theorem pick_ends (formed : db.Formed) (acyclic : db.Acyclic workFlowId) :
    db.pick env workFlowId ≠ none := by
  have arranged := arrangement formed env workFlowId
  obtain ⟨rank, descending, bounded⟩ := exists_rank formed acyclic arranged
  apply Search.level_ends descending
  intro a member
  have insideA := ((arranged.roots_mem a).mp member).1
  exact ⟨insideA, bounded a insideA⟩

/-- The job that is picked belongs to the workflow. -/
theorem in_of_pick (formed : db.Formed) (picked : db.pick env workFlowId = some (some x)) :
    db.In workFlowId x := by
  have arranged := arrangement formed env workFlowId
  have below {a b : JobId} (inside : db.In workFlowId a)
      (path : Relation.TransGen (fun p c => c ∈ db.siblings env p) a b) : db.In workFlowId b := by
    induction path with
    | single child => exact formed.child_in ((arranged.children_mem _ inside _).mp child) inside
    | tail before child ih => exact formed.child_in ((arranged.children_mem _ ih _).mp child) ih
  rcases Search.level_found picked with ⟨member, _⟩ | ⟨a, member, _, deep⟩
  · exact ((arranged.roots_mem x).mp member).1
  · exact below ((arranged.roots_mem a).mp member).1 (Search.below_found deep).2

end Db
end OrchestrateModel
