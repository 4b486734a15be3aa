import Mathlib.Data.List.Nodup
import Orchestrate.Search.Walk

namespace Search

variable {α : Type} {verdict : α → Verdict} {children : α → List α} {deeper : α → Option (Option α)}
  {nodes : List α} {a x : α} {inside : α → Prop} {rank : α → Nat}

/-- The nodes in the order of a search that takes none: each before what is below it. -/
def preorder (children : α → List α) : Nat → List α → List α
  | 0, _ => []
  | depth + 1, nodes => nodes.flatMap fun a => a :: preorder children depth (children a)

@[simp] theorem preorder_nil (children : α → List α) (depth : Nat) : preorder children depth [] = [] := by
  cases depth <;> rfl

theorem preorder_cons (children : α → List α) (depth : Nat) (a : α) (rest : List α) :
    preorder children (depth + 1) (a :: rest) =
      a :: (preorder children depth (children a) ++ preorder children (depth + 1) rest) := by
  simp [preorder]

/-- When a first part of the preorder is done and what follows it can be taken, the search takes it. -/
theorem level_preorder (descending : Descending children inside rank)
    {depth : Nat} {done todo : List α} (shallow : ∀ a ∈ nodes, inside a ∧ rank a < depth)
    (split : preorder children depth nodes = done ++ todo) (searched : ∀ a ∈ done, verdict a = .descend)
    (next : ∀ a ∈ todo.head?, verdict a = .take) :
    level verdict (below verdict children depth) nodes = some todo.head? := by
  induction depth generalizing nodes done todo with
  | zero =>
    cases nodes with
    | nil =>
      obtain ⟨rfl, rfl⟩ : done = [] ∧ todo = [] := by simpa using split.symm
      rfl
    | cons a rest => exact absurd (shallow a List.mem_cons_self).2 (Nat.not_lt_zero _)
  | succ depth deeper =>
    induction nodes generalizing done todo with
    | nil =>
      obtain ⟨rfl, rfl⟩ : done = [] ∧ todo = [] := by simpa using split.symm
      rfl
    | cons a rest ih =>
      have shallowRest : ∀ b ∈ rest, inside b ∧ rank b < depth + 1 := fun b member =>
        shallow b (List.mem_cons_of_mem a member)
      have shallowBelow : ∀ c ∈ children a, inside c ∧ rank c < depth := by
        intro c member
        obtain ⟨insideA, bound⟩ := shallow a List.mem_cons_self
        obtain ⟨insideC, less⟩ := descending a insideA c member
        exact ⟨insideC, by omega⟩
      rw [preorder_cons] at split
      cases done with
      | nil =>
        obtain rfl := split
        have taken := next a rfl
        simp [level, taken]
      | cons first done =>
        obtain ⟨rfl, tails⟩ : a = first ∧
            preorder children depth (children a) ++ preorder children (depth + 1) rest = done ++ todo := by
          simpa using split
        have descends := searched a List.mem_cons_self
        have searchedRest : ∀ b ∈ done, verdict b = .descend := fun b member =>
          searched b (List.mem_cons_of_mem a member)
        simp only [level, descends, below]
        rcases List.append_eq_append_iff.mp tails with ⟨middle, rfl, later⟩ | ⟨middle, inside, rfl⟩
        · -- the whole subtree of `a` is done
          have nothing : level verdict (below verdict children depth) (children a) = some none :=
            deeper shallowBelow (List.append_nil _).symm
              (fun b member => searchedRest b (List.mem_append_left _ member)) (by simp)
          rw [nothing]
          exact ih shallowRest later (fun b member => searchedRest b (List.mem_append_right _ member)) next
        · cases middle with
          | nil =>
            have nothing : level verdict (below verdict children depth) (children a) = some none :=
              deeper shallowBelow inside searchedRest (by simp)
            rw [nothing]
            exact ih shallowRest (List.nil_append _).symm (by simp) next
          | cons b middle =>
            have found := deeper shallowBelow inside searchedRest next
            rw [found]
            rfl

/-- A node of the preorder is one of the nodes or lies below one. -/
theorem mem_preorder (descending : Descending children inside rank) {depth : Nat}
    (shallow : ∀ a ∈ nodes, inside a ∧ rank a < depth) :
    x ∈ preorder children depth nodes ↔
      ∃ a ∈ nodes, Relation.ReflTransGen (fun p c => c ∈ children p) a x := by
  induction depth generalizing nodes with
  | zero =>
    cases nodes with
    | nil => simp
    | cons a rest => exact absurd (shallow a List.mem_cons_self).2 (Nat.not_lt_zero _)
  | succ depth deeper =>
    simp only [preorder, List.mem_flatMap, List.mem_cons]
    refine exists_congr fun a => and_congr_right fun member => ?_
    obtain ⟨insideA, bound⟩ := shallow a member
    have shallowBelow : ∀ c ∈ children a, inside c ∧ rank c < depth := by
      intro c child
      obtain ⟨insideC, less⟩ := descending a insideA c child
      exact ⟨insideC, by omega⟩
    rw [deeper shallowBelow, Relation.ReflTransGen.cases_head_iff, eq_comm]

/-- A rank falls along every path. -/
theorem rank_lt_of_path (descending : Descending children inside rank)
    (path : Relation.TransGen (fun p c => c ∈ children p) a x) (start : inside a) : inside x ∧ rank x < rank a := by
  induction path with
  | single child => exact descending a start _ child
  | tail before child ih =>
    obtain ⟨insideB, less⟩ := ih
    obtain ⟨insideC, less'⟩ := descending _ insideB _ child
    exact ⟨insideC, Nat.lt_trans less' less⟩

theorem inside_of_path (descending : Descending children inside rank)
    (path : Relation.ReflTransGen (fun p c => c ∈ children p) a x) (start : inside a) : inside x := by
  rcases Relation.reflTransGen_iff_eq_or_transGen.mp path with rfl | path
  · exact start
  · exact (rank_lt_of_path descending path start).1

/-- In a forest, two nodes above a third lie on one path. -/
theorem comparable_of_forest (descending : Descending children inside rank)
    (single : ∀ p q c, inside p → inside q → c ∈ children p → c ∈ children q → p = q) {a b : α} (insideA : inside a)
    (insideB : inside b) (fromA : Relation.ReflTransGen (fun p c => c ∈ children p) a x)
    (fromB : Relation.ReflTransGen (fun p c => c ∈ children p) b x) :
    Relation.ReflTransGen (fun p c => c ∈ children p) a b ∨
      Relation.ReflTransGen (fun p c => c ∈ children p) b a := by
  induction fromA with
  | refl => exact .inr fromB
  | tail before child ih =>
    rcases Relation.ReflTransGen.cases_tail fromB with rfl | ⟨q, path, child'⟩
    · exact .inl (before.tail child)
    · have insideP := inside_of_path descending before insideA
      have insideQ := inside_of_path descending path insideB
      obtain rfl := single _ q _ insideP insideQ child child'
      exact ih path

/-- The preorder of a forest has each node once. -/
theorem nodup_preorder (descending : Descending children inside rank)
    (single : ∀ p q c, inside p → inside q → c ∈ children p → c ∈ children q → p = q)
    (distinct : ∀ p, inside p → (children p).Nodup) {depth : Nat}
    (shallow : ∀ a ∈ nodes, inside a ∧ rank a < depth) (nodup : nodes.Nodup)
    (apart : ∀ a ∈ nodes, ∀ b ∈ nodes, ¬ Relation.TransGen (fun p c => c ∈ children p) a b) :
    (preorder children depth nodes).Nodup := by
  induction depth generalizing nodes with
  | zero => simp [preorder]
  | succ depth deeper =>
    have shallowBelow {a : α} (member : a ∈ nodes) : ∀ c ∈ children a, inside c ∧ rank c < depth := by
      intro c child
      obtain ⟨insideA, bound⟩ := shallow a member
      obtain ⟨insideC, less⟩ := descending a insideA c child
      exact ⟨insideC, by omega⟩
    have reach {a y : α} (member : a ∈ nodes) (found : y ∈ a :: preorder children depth (children a)) :
        Relation.ReflTransGen (fun p c => c ∈ children p) a y := by
      rcases List.mem_cons.mp found with rfl | later
      · exact .refl
      · obtain ⟨c, child, path⟩ := (mem_preorder descending (shallowBelow member)).mp later
        exact .head child path
    simp only [preorder, List.nodup_flatMap]
    refine ⟨fun a member => List.nodup_cons.mpr ⟨fun again => ?_, ?_⟩, ?_⟩
    · obtain ⟨c, child, path⟩ := (mem_preorder descending (shallowBelow member)).mp again
      have cycle := Relation.TransGen.head' child path
      exact Nat.lt_irrefl _ (rank_lt_of_path descending cycle (shallow a member).1).2
    · have insideA := (shallow a member).1
      refine deeper (shallowBelow member) (distinct a insideA) fun c child d child' path => ?_
      -- the last step to `d` comes from its only parent `a`, which is above `c`
      obtain ⟨p, before, last⟩ := Relation.TransGen.tail'_iff.mp path
      have insideP := inside_of_path descending before (descending a insideA c child).1
      obtain rfl := single p a d insideP insideA last child'
      have cycle := Relation.TransGen.head' child before
      exact Nat.lt_irrefl _ (rank_lt_of_path descending cycle (shallow p member).1).2
    · refine nodup.imp_of_mem fun {a b} memberA memberB other y foundA foundB => ?_
      rcases comparable_of_forest descending single (shallow a memberA).1 (shallow b memberB).1
        (reach memberA foundA) (reach memberB foundB) with path | path
      · rcases Relation.reflTransGen_iff_eq_or_transGen.mp path with rfl | path
        · exact other rfl
        · exact apart a memberA b memberB path
      · rcases Relation.reflTransGen_iff_eq_or_transGen.mp path with rfl | path
        · exact other rfl
        · exact apart b memberB a memberA path

/-- In the preorder a node comes after one it lies directly below, unless it is one of the first nodes. -/
theorem parent_before {depth : Nat} {done todo : List α} (split : preorder children depth nodes = done ++ x :: todo) :
    x ∈ nodes ∨ ∃ p ∈ done, x ∈ children p := by
  induction depth generalizing nodes done todo with
  | zero => simp [preorder] at split
  | succ depth deeper =>
    induction nodes generalizing done todo with
    | nil => simp at split
    | cons a rest ih =>
      rw [preorder_cons] at split
      cases done with
      | nil =>
        obtain ⟨rfl, _⟩ : a = x ∧ _ := by simpa using split
        exact .inl List.mem_cons_self
      | cons first done =>
        obtain ⟨rfl, tails⟩ : a = first ∧
            preorder children depth (children a) ++ preorder children (depth + 1) rest = done ++ x :: todo := by
          simpa using split
        rcases List.append_eq_append_iff.mp tails with ⟨middle, rfl, later⟩ | ⟨middle, inside, later⟩
        · rcases ih later with member | ⟨p, member, child⟩
          · exact .inl (List.mem_cons_of_mem a member)
          · exact .inr ⟨p, by simp [member], child⟩
        · cases middle with
          | nil =>
            rcases ih (List.nil_append _ ▸ later.symm : _ = [] ++ x :: todo) with member | ⟨p, member, child⟩
            · exact .inl (List.mem_cons_of_mem a member)
            · cases member
          | cons b middle =>
            obtain ⟨rfl, _⟩ : x = b ∧ _ := by simpa using later
            rcases deeper inside with child | ⟨p, member, child⟩
            · exact .inr ⟨a, List.mem_cons_self, child⟩
            · exact .inr ⟨p, List.mem_cons_of_mem a member, child⟩

/-- The preorder comes to one of the first nodes only after all that lies below the nodes before it. -/
theorem preorder_subtrees (descending : Descending children inside rank) {depth : Nat}
    (shallow : ∀ a ∈ nodes, inside a ∧ rank a < depth) :
    nodes.Pairwise fun a b => ∀ y, Relation.ReflTransGen (fun p c => c ∈ children p) a y →
      [y, b].Sublist (preorder children depth nodes) := by
  induction nodes with
  | nil => exact .nil
  | cons a rest ih =>
    have shallowRest : ∀ b ∈ rest, inside b ∧ rank b < depth := fun b member =>
      shallow b (List.mem_cons_of_mem a member)
    have split : preorder children depth (a :: rest) = preorder children depth [a] ++ preorder children depth rest := by
      cases depth <;> simp [preorder]
    rw [split]
    refine List.pairwise_cons.mpr ⟨fun b member y path => ?_, (ih shallowRest).imp fun earlier y path => ?_⟩
    · have first : y ∈ preorder children depth [a] := by
        apply (mem_preorder descending fun c same => ?_).mpr ⟨a, List.mem_singleton_self a, path⟩
        rw [List.mem_singleton.mp same]
        exact shallow a List.mem_cons_self
      have second : b ∈ preorder children depth rest := (mem_preorder descending shallowRest).mpr ⟨b, member, .refl⟩
      exact (List.singleton_sublist.mpr first).append (List.singleton_sublist.mpr second)
    · exact (earlier y path).trans (List.sublist_append_right _ _)

theorem preorder_congr {children' : α → List α} (closed : ∀ a, inside a → ∀ c ∈ children a, inside c)
    (same : ∀ a, inside a → children' a = children a) (depth : Nat) (within : ∀ a ∈ nodes, inside a) :
    preorder children' depth nodes = preorder children depth nodes := by
  induction depth generalizing nodes with
  | zero => rfl
  | succ depth ih =>
    simp only [preorder]
    refine List.flatMap_congr fun a member => ?_
    rw [same a (within a member), ih (closed a (within a member))]

section Repetitions

variable [DecidableEq α]

/-- A node that the search passes can be left out. -/
theorem level_filter (passes : verdict a = .pass ∨ (verdict a = .descend ∧ deeper a = some none)) :
    level verdict deeper (nodes.filter fun b => !b == a) = level verdict deeper nodes := by
  induction nodes with
  | nil => rfl
  | cons b rest ih =>
    by_cases same : b = a
    · subst same
      have skipped : level verdict deeper (b :: rest) = level verdict deeper rest := by
        rcases passes with pass | ⟨descend, nothing⟩
        · simp [level, pass]
        · simp [level, descend, nothing]
      rw [skipped, ← ih]
      simp
    · have kept : ((b :: rest).filter fun b => !b == a) = b :: rest.filter fun b => !b == a := by simp [same]
      rw [kept]
      simp only [level, ih]

/-- The search finds the same when each node stands once, in its first place. -/
theorem level_eraseDups (nodes : List α) : level verdict deeper nodes.eraseDups = level verdict deeper nodes := by
  match nodes with
  | [] => rfl
  | a :: rest =>
    have shorter : (rest.filter fun b => !b == a).length < rest.length + 1 :=
      Nat.lt_succ_of_le (List.length_filter_le _ rest)
    have later := level_eraseDups (rest.filter fun b => !b == a)
    rw [List.eraseDups_cons]
    simp only [level, later]
    cases judged : verdict a with
    | take => rfl
    | block => rfl
    | pass => exact level_filter (.inl judged)
    | descend =>
      dsimp only
      cases found : deeper a with
      | none => rfl
      | some result =>
        cases result with
        | none => exact level_filter (.inr ⟨judged, found⟩)
        | some b => rfl
termination_by nodes.length

theorem nodup_eraseDups (nodes : List α) : nodes.eraseDups.Nodup := by
  match nodes with
  | [] => simp
  | a :: rest =>
    have shorter : (rest.filter fun b => !b == a).length < rest.length + 1 :=
      Nat.lt_succ_of_le (List.length_filter_le _ rest)
    rw [List.eraseDups_cons, List.nodup_cons]
    exact ⟨by simp, nodup_eraseDups _⟩
termination_by nodes.length

theorem eraseDups_sublist (nodes : List α) : nodes.eraseDups.Sublist nodes := by
  match nodes with
  | [] => simp
  | a :: rest =>
    have shorter : (rest.filter fun b => !b == a).length < rest.length + 1 :=
      Nat.lt_succ_of_le (List.length_filter_le _ rest)
    rw [List.eraseDups_cons]
    exact ((eraseDups_sublist _).trans List.filter_sublist).cons_cons a
termination_by nodes.length

/-- The search below a node finds the same when the children stand once each. -/
theorem below_eraseDups {children' : α → List α} (closed : ∀ a, inside a → ∀ c ∈ children' a, inside c)
    (once : ∀ a, inside a → (children a).eraseDups = children' a) (depth : Nat) (start : inside a) :
    below verdict children depth a = below verdict children' depth a := by
  induction depth generalizing a with
  | zero => rfl
  | succ depth ih =>
    simp only [below]
    rw [← level_eraseDups, once a start]
    exact level_congr fun c member _ => ih (closed a start c member)

end Repetitions
end Search
