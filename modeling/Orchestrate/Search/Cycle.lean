import Mathlib.Data.Finset.Card
import Mathlib.Logic.Relation

namespace Search

open Relation

variable {α : Type}

/-- The sets of a search for cycles, as lists; a node is added only when it is first visited. -/
structure Marks (α : Type) where
  visited : List α
  recStack : List α
  deriving DecidableEq, Repr

namespace Marks

def push (marks : Marks α) (node : α) : Marks α :=
  { visited := node :: marks.visited, recStack := node :: marks.recStack }

def pop [DecidableEq α] (marks : Marks α) (node : α) : Marks α :=
  { marks with recStack := marks.recStack.erase node }

end Marks

section Definitions

variable [DecidableEq α] (neighbours : α → List α)

/-- The loop over the neighbours of a node; none if a search below does not end. -/
def visitNeighbours (dfs : α → Marks α → Option (Bool × Marks α)) : List α → Marks α → Option (Bool × Marks α)
  | [], marks => some (false, marks)
  | neighbour :: rest, marks =>
    (if neighbour ∈ marks.visited then some (false, marks) else dfs neighbour marks).bind fun answer =>
      if answer.1 then some (true, answer.2)
      else if neighbour ∈ answer.2.recStack then some (true, answer.2)
      else visitNeighbours dfs rest answer.2

/-- The search from a node, to a given depth of the recursion. -/
def dfs : Nat → α → Marks α → Option (Bool × Marks α)
  | 0, _, _ => none
  | depth + 1, node, marks =>
    if node ∈ marks.visited then some (false, marks.pop node)
    else
      (visitNeighbours (dfs depth) (neighbours node) (marks.push node)).map fun answer =>
        if answer.1 then (true, answer.2) else (false, answer.2.pop node)

/-- The searches from the roots, one after another until one finds a cycle. -/
def visitRoots (depth : Nat) : List α → Marks α → Option Bool
  | [], _ => some false
  | root :: rest, marks =>
    (dfs neighbours depth root marks).bind fun answer =>
      if answer.1 then some true else visitRoots depth rest answer.2

end Definitions

/-- The edges that the search follows. -/
def Leads (neighbours : α → List α) (a b : α) : Prop := b ∈ neighbours a

/-- No walk from the node goes on forever. -/
def Ends (neighbours : α → List α) (node : α) : Prop := Acc (fun b a => Leads neighbours a b) node

theorem not_cycle_of_acc {r : α → α → Prop} {a : α} (acc : Acc (Function.swap r) a) : ¬ TransGen r a a := by
  have descends := acc.transGen
  induction descends with
  | intro a below ih =>
    intro cycle
    have back := transGen_swap.mpr cycle
    exact ih a back (acc.inv_of_transGen back) cycle

variable {neighbours : α → List α} {closed : Finset α} {depth : Nat} {node : α} {marks : Marks α}

theorem Ends.not_cycle (ends : Ends neighbours node) : ¬ TransGen (Leads neighbours) node node := not_cycle_of_acc ends

/-- What a search from some nodes has found: a cycle in the closed set, or that no walk from them goes on forever. -/
structure Searched (neighbours : α → List α) (closed : Finset α) (nodes : List α) (marks : Marks α)
    (answer : Bool × Marks α) : Prop where
  cyclic : answer.1 = true → ∃ node ∈ closed, TransGen (Leads neighbours) node node
  ends : answer.1 = false → ∀ node ∈ nodes, Ends neighbours node
  stack : answer.1 = false → answer.2.recStack = marks.recStack
  grows : answer.1 = false → ∀ node ∈ marks.visited, node ∈ answer.2.visited
  done : answer.1 = false → ∀ node ∈ answer.2.visited, node ∉ marks.recStack → Ends neighbours node

theorem Searched.of_cycle {nodes : List α} {marks' : Marks α}
    (cyclic : ∃ node ∈ closed, TransGen (Leads neighbours) node node) :
    Searched neighbours closed nodes marks (true, marks') :=
  ⟨fun _ => cyclic, by simp, by simp, by simp, by simp⟩

theorem Searched.cons {first : α} {rest : List α} {between : Marks α} {answer : Bool × Marks α}
    (before : Searched neighbours closed [first] marks (false, between)) (after : Searched neighbours closed rest between answer) :
    Searched neighbours closed (first :: rest) marks answer := by
  have stack := before.stack rfl
  refine ⟨after.cyclic, ?_, ?_, ?_, ?_⟩
  · intro unfound other member
    rcases List.mem_cons.mp member with rfl | later
    · exact before.ends rfl other List.mem_cons_self
    · exact after.ends unfound other later
  · intro unfound
    rw [after.stack unfound, stack]
  · intro unfound other member
    exact after.grows unfound other (before.grows rfl other member)
  · intro unfound other member outside
    rw [← stack] at outside
    exact after.done unfound other member outside

variable [DecidableEq α]

/-- The stack has been visited, no walk from any other visited node goes on forever, and of a closed set of
    nodes no more are unvisited than the depth allows. -/
structure Marks.Ready (neighbours : α → List α) (closed : Finset α) (depth : Nat) (marks : Marks α) : Prop where
  within : ∀ node ∈ marks.recStack, node ∈ marks.visited
  done : ∀ node ∈ marks.visited, node ∉ marks.recStack → Ends neighbours node
  bound : (closed.filter fun node => node ∉ marks.visited).card ≤ depth

namespace Marks

theorem ready_empty (closed : Finset α) (bound : closed.card ≤ depth) :
    Ready neighbours closed depth { visited := [], recStack := [] } := by
  refine ⟨by simp, by simp, ?_⟩
  exact Nat.le_trans (Finset.card_filter_le _ _) bound

theorem Ready.push (ready : marks.Ready neighbours closed (depth + 1)) (inside : node ∈ closed)
    (fresh : node ∉ marks.visited) : (marks.push node).Ready neighbours closed depth := by
  refine ⟨?_, ?_, ?_⟩
  · intro other member
    rcases List.mem_cons.mp member with rfl | later
    · exact List.mem_cons_self
    · exact List.mem_cons_of_mem _ (ready.within other later)
  · intro other member outside
    rcases List.mem_cons.mp member with rfl | later
    · exact absurd List.mem_cons_self outside
    · exact ready.done other later fun inside => outside (List.mem_cons_of_mem _ inside)
  · have fewer : (closed.filter fun other => other ∉ (marks.push node).visited) ⊂
        closed.filter fun other => other ∉ marks.visited := by
      apply Finset.ssubset_iff_subset_ne.mpr
      constructor
      · intro other member
        simp only [Marks.push, Finset.mem_filter, List.mem_cons, not_or] at member ⊢
        exact ⟨member.1, member.2.2⟩
      · intro same
        have member : node ∈ closed.filter fun other => other ∉ marks.visited :=
          Finset.mem_filter.mpr ⟨inside, fresh⟩
        rw [← same] at member
        simp [Marks.push] at member
    exact Nat.le_of_lt_succ (Nat.lt_of_lt_of_le (Finset.card_lt_card fewer) ready.bound)

/-- After a search that found no cycle the next one may start. -/
theorem Ready.after (ready : marks.Ready neighbours closed depth) {nodes : List α} {answer : Bool × Marks α}
    (searched : Searched neighbours closed nodes marks answer) (unfound : answer.1 = false) :
    answer.2.Ready neighbours closed depth := by
  refine ⟨?_, ?_, ?_⟩
  · intro other member
    rw [searched.stack unfound] at member
    exact searched.grows unfound other (ready.within other member)
  · intro other member outside
    rw [searched.stack unfound] at outside
    exact searched.done unfound other member outside
  · apply Nat.le_trans (Finset.card_le_card ?_) ready.bound
    intro other member
    simp only [Finset.mem_filter] at member ⊢
    exact ⟨member.1, fun seen => member.2 (searched.grows unfound other seen)⟩

end Marks

theorem Searched.nil (ready : marks.Ready neighbours closed depth) : Searched neighbours closed [] marks (false, marks) := by
  refine ⟨?_, ?_, fun _ => rfl, fun _ _ member => member, fun _ => ready.done⟩
  · intro found
    cases found
  · intro _ other member
    cases member

/-- A node that was visited before and is not on the stack needs no search. -/
theorem Searched.seen (ready : marks.Ready neighbours closed depth) (seen : node ∈ marks.visited)
    (off : node ∉ marks.recStack) : Searched neighbours closed [node] marks (false, marks) := by
  refine ⟨by simp, fun _ other member => ?_, fun _ => rfl, fun _ _ member => member, fun _ => ready.done⟩
  obtain rfl := List.mem_singleton.mp member
  exact ready.done other seen off

/-- The loop over the neighbours of the node on top of the stack. -/
theorem searched_visitNeighbours {search : α → Marks α → Option (Bool × Marks α)} {path : List α}
    (searches : ∀ next marks, marks.Ready neighbours closed depth → next ∈ closed → next ∉ marks.visited →
      marks.recStack = path → Leads neighbours node next →
      ∃ answer, search next marks = some answer ∧ Searched neighbours closed [next] marks answer)
    (leads : ∀ other ∈ path, ReflTransGen (Leads neighbours) other node) (nexts : List α)
    (known : ∀ next ∈ nexts, Leads neighbours node next ∧ next ∈ closed) (marks : Marks α)
    (ready : marks.Ready neighbours closed depth) (stack : marks.recStack = path) :
    ∃ answer, visitNeighbours search nexts marks = some answer ∧ Searched neighbours closed nexts marks answer := by
  induction nexts generalizing marks with
  | nil => exact ⟨(false, marks), rfl, .nil ready⟩
  | cons next rest ih =>
    obtain ⟨edge, inside⟩ := known next List.mem_cons_self
    have later := ih fun other member => known other (List.mem_cons_of_mem next member)
    have closes (onStack : next ∈ path) : ∃ node ∈ closed, TransGen (Leads neighbours) node node :=
      ⟨next, inside, TransGen.tail' (leads next onStack) edge⟩
    simp only [visitNeighbours]
    by_cases seen : next ∈ marks.visited
    · rw [if_pos seen]
      by_cases onStack : next ∈ marks.recStack
      · refine ⟨(true, marks), by simp [onStack], ?_⟩
        exact .of_cycle (closes (stack ▸ onStack))
      · obtain ⟨answer, ran, after⟩ := later marks ready stack
        refine ⟨answer, by simp [onStack, ran], ?_⟩
        exact (Searched.seen ready seen onStack).cons after
    · rw [if_neg seen]
      obtain ⟨⟨found, between⟩, ran, first⟩ := searches next marks ready inside seen stack edge
      rw [ran]
      cases found with
      | true => exact ⟨(true, between), rfl, .of_cycle (first.cyclic rfl)⟩
      | false =>
        have same := first.stack rfl
        have off : next ∉ between.recStack := by
          rw [same]
          exact fun onStack => seen (ready.within next onStack)
        obtain ⟨answer, ran, after⟩ := later between (ready.after first rfl) (same.trans stack)
        refine ⟨answer, by simp [off, ran], ?_⟩
        exact first.cons after

variable (closes : ∀ a ∈ closed, ∀ b, Leads neighbours a b → b ∈ closed)
include closes

/-- The search from an unvisited node, to whose end the stack leads. -/
theorem searched_dfs (depth : Nat) (node : α) (marks : Marks α) (ready : marks.Ready neighbours closed depth)
    (inside : node ∈ closed) (fresh : node ∉ marks.visited)
    (leads : ∀ other ∈ marks.recStack, TransGen (Leads neighbours) other node) :
    ∃ answer, dfs neighbours depth node marks = some answer ∧ Searched neighbours closed [node] marks answer := by
  induction depth generalizing node marks with
  | zero =>
    have member : node ∈ closed.filter fun other => other ∉ marks.visited := Finset.mem_filter.mpr ⟨inside, fresh⟩
    have positive := Finset.card_pos.mpr ⟨node, member⟩
    have bound := ready.bound
    omega
  | succ depth ih =>
    have toNode (other : α) (member : other ∈ (marks.push node).recStack) :
        ReflTransGen (Leads neighbours) other node := by
      rcases List.mem_cons.mp member with rfl | later
      · exact .refl
      · exact (leads other later).to_reflTransGen
    have loop : ∃ answer, visitNeighbours (dfs neighbours depth) (neighbours node) (marks.push node) = some answer ∧
        Searched neighbours closed (neighbours node) (marks.push node) answer := by
      apply @searched_visitNeighbours α neighbours closed depth node _ _ (marks.push node).recStack
      · intro next marks' ready' inside' fresh' stack' edge
        apply ih next marks' ready' inside' fresh'
        rw [stack']
        exact fun other member => TransGen.tail' (toNode other member) edge
      · exact toNode
      · exact fun next member => ⟨member, closes node inside next member⟩
      · exact ready.push inside fresh
      · rfl
    obtain ⟨⟨found, after⟩, ran, below⟩ := loop
    simp only [dfs, if_neg fresh, ran, Option.map_some]
    cases found with
    | true => exact ⟨(true, after), rfl, .of_cycle (below.cyclic rfl)⟩
    | false =>
      refine ⟨(false, after.pop node), rfl, ?_⟩
      have ends : Ends neighbours node := Acc.intro node fun next edge => below.ends rfl next edge
      refine ⟨by simp, ?_, ?_, ?_, ?_⟩
      · intro _ other member
        obtain rfl := List.mem_singleton.mp member
        exact ends
      · intro _
        show after.recStack.erase node = marks.recStack
        rw [below.stack rfl]
        simp [Marks.push]
      · intro _ other member
        exact below.grows rfl other (List.mem_cons_of_mem node member)
      · intro _ other member outside
        by_cases here : other = node
        · rw [here]
          exact ends
        · apply below.done rfl other member
          intro onStack
          rcases List.mem_cons.mp onStack with same | later
          · exact here same
          · exact outside later

/-- The search from a root, which may have been visited. -/
theorem searched_root (ready : marks.Ready neighbours closed (depth + 1)) (empty : marks.recStack = [])
    (inside : node ∈ closed) :
    ∃ answer, dfs neighbours (depth + 1) node marks = some answer ∧ Searched neighbours closed [node] marks answer := by
  by_cases seen : node ∈ marks.visited
  · have same : marks.pop node = marks := by
      cases marks
      simp_all [Marks.pop]
    refine ⟨(false, marks), by simp [dfs, seen, same], ?_⟩
    exact .seen ready seen (by simp [empty])
  · exact searched_dfs closes (depth + 1) node marks ready inside seen (by simp [empty])

/-- The loop over the roots ends, and finds a cycle or that no walk from a root goes on forever. -/
theorem visitRoots_spec (roots : List α) (within : ∀ root ∈ roots, root ∈ closed) (marks : Marks α)
    (ready : marks.Ready neighbours closed (depth + 1)) (empty : marks.recStack = []) :
    ∃ found, visitRoots neighbours (depth + 1) roots marks = some found ∧
      (found = true → ∃ node ∈ closed, TransGen (Leads neighbours) node node) ∧
      (found = false → ∀ root ∈ roots, Ends neighbours root) := by
  induction roots generalizing marks with
  | nil => exact ⟨false, rfl, by simp, by simp⟩
  | cons root rest ih =>
    obtain ⟨⟨found, after⟩, ran, searched⟩ := searched_root closes ready empty (within root List.mem_cons_self)
    simp only [visitRoots, ran, Option.bind_some]
    cases found with
    | true => exact ⟨true, rfl, fun _ => searched.cyclic rfl, by simp⟩
    | false =>
      obtain ⟨found, ran', cyclic, ends⟩ := ih (fun other member => within other (List.mem_cons_of_mem root member)) after
        (ready.after searched rfl) ((searched.stack rfl).trans empty)
      refine ⟨found, ran', cyclic, fun unfound other member => ?_⟩
      rcases List.mem_cons.mp member with rfl | later
      · exact searched.ends rfl _ List.mem_cons_self
      · exact ends unfound other later

/-- Searching from every node that has an edge decides whether there is a cycle. -/
theorem visitRoots_iff (roots : List α) (within : ∀ root ∈ roots, root ∈ closed)
    (sources : ∀ a b, Leads neighbours a b → a ∈ roots) (bound : closed.card ≤ depth) :
    ∃ found, visitRoots neighbours (depth + 1) roots { visited := [], recStack := [] } = some found ∧
      (found = true ↔ ∃ node, TransGen (Leads neighbours) node node) := by
  obtain ⟨found, ran, cyclic, ends⟩ := visitRoots_spec closes roots within { visited := [], recStack := [] }
    (Marks.ready_empty closed (Nat.le_succ_of_le bound)) rfl
  refine ⟨found, ran, fun closing => (cyclic closing).imp fun _ both => both.2, fun given => ?_⟩
  obtain ⟨node, cycle⟩ := given
  cases found with
  | true => rfl
  | false =>
    obtain ⟨next, edge, _⟩ := TransGen.head'_iff.mp cycle
    exact absurd cycle (ends rfl node (sources node next edge)).not_cycle

end Search
