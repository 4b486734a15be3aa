import Orchestrate.Search.Preorder
import Orchestrate.Workflow.Containment
import Orchestrate.Workflow.Supply

namespace OrchestrateModel

open Effect ChainService

namespace Db

variable {env : Env} {db db' : Db} {workFlowId : WorkFlowId} {x : JobId}

/-- The children of a job, once each, by priority and creation time. -/
def children (db : Db) (p : JobId) : List JobId := (db.siblings .plain p).eraseDups

/-- The preorder of the jobs of a workflow. -/
def order (db : Db) (workFlowId : WorkFlowId) : List JobId :=
  Search.preorder db.children (db.workFlowJobs workFlowId).length (db.roots .plain workFlowId)

/-- The sort tells all roots apart, and all children of a job. -/
def Distinct (db : Db) (workFlowId : WorkFlowId) : Prop :=
  ∀ x y, db.In workFlowId x → db.In workFlowId y →
    ((∃ p, db.Depends p x ∧ db.Depends p y) ∨ ((∀ p, ¬ db.Depends p x) ∧ ∀ p, ¬ db.Depends p y)) →
    db.Before x y → db.Before y x → x = y

theorem Alike.distinct (alike : Alike workFlowId db db') (distinct : db.Distinct workFlowId) :
    db'.Distinct workFlowId := by
  intro x y insideX insideY siblings before before'
  have insideX' := (alike.inside x).mp insideX
  have insideY' := (alike.inside y).mp insideY
  refine distinct x y insideX' insideY' ?_ (alike.symm.before insideX insideY before)
    (alike.symm.before insideY insideX before')
  rcases siblings with ⟨p, parentX, parentY⟩ | ⟨rootX, rootY⟩
  · exact .inl ⟨p, (alike.parents p x insideX').mp parentX, (alike.parents p y insideY').mp parentY⟩
  · refine .inr ⟨fun p above => rootX p ?_, fun p above => rootY p ?_⟩
    · exact (alike.parents p x insideX').mpr above
    · exact (alike.parents p y insideY').mpr above

theorem ids_nodup (keyed : db.Keyed) (workFlowId : WorkFlowId) :
    ((db.workFlowJobs workFlowId).map (·.id)).Nodup :=
  keyed.sublist (List.filter_sublist.map _)

theorem roots_nodup (keyed : db.Keyed) (env : Env) (workFlowId : WorkFlowId) :
    (db.roots env workFlowId).Nodup := by
  have arranged : ((env.arrange (db.workFlowJobs workFlowId)).map (·.id)).Nodup :=
    ((env.arrange_perm _).map _).nodup_iff.mpr (ids_nodup keyed workFlowId)
  have sorted := (List.perm_insertionSort Precedes ((env.arrange (db.workFlowJobs workFlowId)).filter fun job =>
    !(((env.arrangeDeps (db.deps.filter fun dep =>
      ((env.arrange (db.workFlowJobs workFlowId)).map (·.id)).contains dep.parentJobId)).map
        (·.childJobId)).contains job.id))).map (·.id)
  exact sorted.nodup_iff.mpr (arranged.sublist (List.filter_sublist.map _))

theorem arrangement_children (formed : db.Formed) (workFlowId : WorkFlowId) :
    Arrangement db workFlowId (db.roots .plain workFlowId) db.children := by
  have arranged := arrangement formed .plain workFlowId
  refine ⟨arranged.roots_mem, fun p inside c => ?_, arranged.roots_sorted, fun p inside => ?_⟩
  · rw [children, List.mem_eraseDups, arranged.children_mem p inside]
  · exact (arranged.children_sorted p inside).sublist (Search.eraseDups_sublist _)

/-- A sort that tells all nodes apart leaves one order. -/
theorem Distinct.roots_unique (distinct : db.Distinct workFlowId) {roots roots' : List JobId}
    {children children' : JobId → List JobId} (arranged : Arrangement db workFlowId roots children)
    (arranged' : Arrangement db workFlowId roots' children') (nodup : roots.Nodup) (nodup' : roots'.Nodup) :
    roots = roots' := by
  have same : roots.Perm roots' := (List.perm_ext_iff_of_nodup nodup nodup').mpr fun x => by
    rw [arranged.roots_mem, arranged'.roots_mem]
  refine same.eq_of_pairwise ?_ arranged.roots_sorted arranged'.roots_sorted
  intro x y memberX memberY before before'
  obtain ⟨insideX, rootX⟩ := (arranged.roots_mem x).mp memberX
  obtain ⟨insideY, rootY⟩ := (arranged'.roots_mem y).mp memberY
  exact distinct x y insideX insideY (.inr ⟨rootX, rootY⟩) before before'

theorem Distinct.children_unique (distinct : db.Distinct workFlowId) (formed : db.Formed)
    {roots roots' : List JobId} {children children' : JobId → List JobId}
    (arranged : Arrangement db workFlowId roots children)
    (arranged' : Arrangement db workFlowId roots' children') {p : JobId} (inside : db.In workFlowId p)
    (nodup : (children p).Nodup) (nodup' : (children' p).Nodup) : children p = children' p := by
  have same : (children p).Perm (children' p) := (List.perm_ext_iff_of_nodup nodup nodup').mpr fun x => by
    rw [arranged.children_mem p inside, arranged'.children_mem p inside]
  refine same.eq_of_pairwise ?_ (arranged.children_sorted p inside) (arranged'.children_sorted p inside)
  intro x y memberX memberY before before'
  have belowX := (arranged.children_mem p inside x).mp memberX
  have belowY := (arranged'.children_mem p inside y).mp memberY
  exact distinct x y (formed.child_in belowX inside) (formed.child_in belowY inside) (.inl ⟨p, belowX, belowY⟩)
    before before'

theorem Alike.count (alike : Alike workFlowId db db') (keyed : db.Keyed) (keyed' : db'.Keyed) :
    (db'.workFlowJobs workFlowId).length = (db.workFlowJobs workFlowId).length := by
  have read {db : Db} (keyed : db.Keyed) (x : JobId) :
      x ∈ (db.workFlowJobs workFlowId).map (·.id) ↔ db.In workFlowId x := by
    rw [List.mem_map]
    constructor
    · rintro ⟨job, member, rfl⟩
      exact ((mem_workFlowJobs keyed).mp member).2
    · intro inside
      obtain ⟨job, row, rfl, _⟩ := inside.row
      exact ⟨job, (mem_workFlowJobs keyed).mpr ⟨row, inside⟩, rfl⟩
  have same : ((db'.workFlowJobs workFlowId).map (·.id)).Perm ((db.workFlowJobs workFlowId).map (·.id)) :=
    (List.perm_ext_iff_of_nodup (ids_nodup keyed' workFlowId) (ids_nodup keyed workFlowId)).mpr fun x => by
      rw [read keyed', read keyed, alike.inside]
  simpa using same.length_eq

theorem Alike.order (alike : Alike workFlowId db db') (formed : db.Formed) (formed' : db'.Formed)
    (distinct : db.Distinct workFlowId) : db'.order workFlowId = db.order workFlowId := by
  have arranged := arrangement_children formed workFlowId
  have arranged' := alike.symm.arrangement formed' (arrangement_children formed' workFlowId)
  have roots := distinct.roots_unique arranged' arranged (roots_nodup formed'.keyed .plain workFlowId)
    (roots_nodup formed.keyed .plain workFlowId)
  unfold Db.order
  rw [alike.count formed.keyed formed'.keyed, roots]
  refine Search.preorder_congr (arranged.closed formed) (fun p inside => ?_) _ arranged.rooted
  exact distinct.children_unique formed arranged' arranged inside (Search.nodup_eraseDups _)
    (Search.nodup_eraseDups _)

theorem mem_order (formed : db.Formed) (acyclic : db.Acyclic workFlowId) :
    x ∈ db.order workFlowId ↔ db.In workFlowId x := by
  have arranged := arrangement_children formed workFlowId
  obtain ⟨rank, descending, bounded⟩ := exists_rank formed acyclic arranged
  have shallow : ∀ a ∈ db.roots .plain workFlowId, db.In workFlowId a ∧
      rank a < (db.workFlowJobs workFlowId).length := fun a member =>
    ⟨arranged.rooted a member, bounded a (arranged.rooted a member)⟩
  rw [Db.order, Search.mem_preorder descending shallow]
  constructor
  · intro given
    obtain ⟨a, member, path⟩ := given
    exact Search.inside_of_path descending path (arranged.rooted a member)
  · obtain ⟨number, rising⟩ := acyclic
    have climb (n : Nat) : ∀ y, db.In workFlowId y → number y ≤ n → ∃ a ∈ db.roots .plain workFlowId,
        Relation.ReflTransGen (fun p c => c ∈ db.children p) a y := by
      induction n using Nat.strong_induction_on with
      | _ n ih =>
        intro y inside bound
        by_cases rootless : ∃ p, db.Depends p y
        · obtain ⟨p, depends⟩ := rootless
          have insideP := formed.parent_in depends inside
          have less := Nat.lt_of_lt_of_le (rising p y insideP depends) bound
          obtain ⟨a, member, path⟩ := ih (number p) less p insideP (Nat.le_refl _)
          exact ⟨a, member, path.tail ((arranged.children_mem p insideP y).mpr depends)⟩
        · exact ⟨y, (arranged.roots_mem y).mpr ⟨inside, fun p depends => rootless ⟨p, depends⟩⟩, .refl⟩
    exact fun inside => climb (number x) x inside (Nat.le_refl _)

theorem nodup_order (formed : db.Formed) (forest : db.Forest workFlowId) : (db.order workFlowId).Nodup := by
  have arranged := arrangement_children formed workFlowId
  obtain ⟨rank, descending, bounded⟩ := exists_rank formed forest.acyclic arranged
  have shallow : ∀ a ∈ db.roots .plain workFlowId, db.In workFlowId a ∧
      rank a < (db.workFlowJobs workFlowId).length := fun a member =>
    ⟨arranged.rooted a member, bounded a (arranged.rooted a member)⟩
  refine Search.nodup_preorder descending (fun p q c insideP insideQ child child' => ?_)
    (fun p _ => Search.nodup_eraseDups _) shallow (roots_nodup formed.keyed .plain workFlowId) ?_
  · have below := (arranged.children_mem p insideP c).mp child
    exact forest.single c p q (formed.child_in below insideP) below
      ((arranged.children_mem q insideQ c).mp child')
  · intro a memberA b memberB path
    obtain ⟨p, before, last⟩ := Relation.TransGen.tail'_iff.mp path
    have insideP := Search.inside_of_path descending before (arranged.rooted a memberA)
    exact ((arranged.roots_mem b).mp memberB).2 p ((arranged.children_mem p insideP b).mp last)

/-- A root comes after all that lies below the roots before it. -/
theorem order_subtrees (formed : db.Formed) (forest : db.Forest workFlowId) :
    (db.roots .plain workFlowId).Pairwise fun root next => ∀ x, Relation.ReflTransGen db.Depends root x →
      [x, next].Sublist (db.order workFlowId) := by
  have arranged := arrangement_children formed workFlowId
  obtain ⟨rank, descending, bounded⟩ := exists_rank formed forest.acyclic arranged
  have shallow : ∀ a ∈ db.roots .plain workFlowId, db.In workFlowId a ∧
      rank a < (db.workFlowJobs workFlowId).length := fun a member =>
    ⟨arranged.rooted a member, bounded a (arranged.rooted a member)⟩
  refine (Search.preorder_subtrees descending shallow).imp_of_mem fun {root next} member _ earlier x path => ?_
  have way : db.In workFlowId x ∧ Relation.ReflTransGen (fun p c => c ∈ db.children p) root x := by
    induction path with
    | refl => exact ⟨arranged.rooted root member, .refl⟩
    | tail before depends ih =>
      obtain ⟨inside, path⟩ := ih
      exact ⟨formed.child_in depends inside, path.tail ((arranged.children_mem _ inside _).mpr depends)⟩
  exact earlier x way.2

/-- When a first part of the order is COMPLETED and the next job is READY, the search finds that job. -/
theorem pick_next (formed : db.Formed) (acyclic : db.Acyclic workFlowId) (distinct : db.Distinct workFlowId)
    {done todo : List JobId} (split : db.order workFlowId = done ++ todo)
    (completed : ∀ x ∈ done, db.status x = some .COMPLETED) (ready : ∀ x ∈ todo.head?, db.status x = some .READY) :
    db.pick env workFlowId = some todo.head? := by
  have arranged := arrangement_children formed workFlowId
  have searched := arrangement formed env workFlowId
  obtain ⟨rank, descending, bounded⟩ := exists_rank formed acyclic arranged
  have shallow : ∀ a ∈ db.roots .plain workFlowId, db.In workFlowId a ∧
      rank a < (db.workFlowJobs workFlowId).length := fun a member =>
    ⟨arranged.rooted a member, bounded a (arranged.rooted a member)⟩
  have roots := distinct.roots_unique searched arranged (roots_nodup formed.keyed env workFlowId)
    (roots_nodup formed.keyed .plain workFlowId)
  have once : ∀ p, db.In workFlowId p → (db.siblings env p).eraseDups = db.children p := by
    intro p inside
    have searchedOnce : Arrangement db workFlowId (db.roots env workFlowId)
        fun p => (db.siblings env p).eraseDups := by
      refine ⟨searched.roots_mem, fun p inside c => ?_, searched.roots_sorted, fun p inside => ?_⟩
      · rw [List.mem_eraseDups, searched.children_mem p inside]
      · exact (searched.children_sorted p inside).sublist (Search.eraseDups_sublist _)
    exact distinct.children_unique formed searchedOnce arranged inside (Search.nodup_eraseDups _)
      (Search.nodup_eraseDups _)
  have walk : Search.level (fun id => judge (db.status id))
      (Search.below (fun id => judge (db.status id)) db.children (db.workFlowJobs workFlowId).length)
      (db.roots .plain workFlowId) = some todo.head? := by
    apply Search.level_preorder descending shallow split
    · intro a member
      simp [completed a member, judge]
    · intro a member
      simp [ready a member, judge]
  rw [← walk, pick, roots]
  exact Search.level_congr fun a member _ =>
    Search.below_eraseDups (arranged.closed formed) once _ (arranged.rooted a member)

end Db
end OrchestrateModel
