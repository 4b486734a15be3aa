import Mathlib.Data.List.Basic
import Orchestrate.Search.Cycle

namespace OrchestrateModel

open Relation

/-- An object with a list of texts under each of its keys, in the order of `Object.keys`. -/
structure AdjacencyMap where
  entries : List (String × List String)
  distinct : (entries.map Prod.fst).Nodup

namespace AdjacencyMap

def keys (graph : AdjacencyMap) : List String := graph.entries.map Prod.fst

/-- `graph[node] || []`. -/
def neighbours (graph : AdjacencyMap) (node : String) : List String :=
  match graph.entries.find? fun entry => entry.1 = node with
  | some entry => entry.2
  | none => []

/-- The loop of `hasCircularDependency` over `Object.keys(graph)`, with the recursion of `dfs` cut off at a depth. -/
def hasCircularDependency (graph : AdjacencyMap) (depth : Nat) : Option Bool :=
  Search.visitRoots graph.neighbours depth graph.keys { visited := [], recStack := [] }

def Edge (graph : AdjacencyMap) (a b : String) : Prop := ∃ nexts, (a, nexts) ∈ graph.entries ∧ b ∈ nexts

/-- The number of keys and edges. -/
def size (graph : AdjacencyMap) : Nat := graph.keys.length + (graph.entries.flatMap Prod.snd).length

def nodes (graph : AdjacencyMap) : Finset String := (graph.keys ++ graph.entries.flatMap Prod.snd).toFinset

variable {graph : AdjacencyMap} {a b : String}

theorem leads_iff : Search.Leads graph.neighbours a b ↔ graph.Edge a b := by
  unfold Search.Leads neighbours Edge
  constructor
  · intro edge
    cases found : graph.entries.find? fun entry => entry.1 = a with
    | none => simp [found] at edge
    | some entry =>
      have key : entry.1 = a := by simpa using List.find?_some found
      rw [found] at edge
      exact ⟨entry.2, by simpa [← key] using List.mem_of_find?_eq_some found, edge⟩
  · rintro ⟨nexts, member, edge⟩
    cases found : graph.entries.find? fun entry => entry.1 = a with
    | none => simpa using List.find?_eq_none.mp found (a, nexts) member
    | some entry =>
      have key : entry.1 = a := by simpa using List.find?_some found
      have same : entry = (a, nexts) :=
        List.inj_on_of_nodup_map graph.distinct (List.mem_of_find?_eq_some found) member key
      simpa [same] using edge

theorem leads_eq : Search.Leads graph.neighbours = graph.Edge := by
  funext a b
  exact propext leads_iff

theorem Edge.source (edge : graph.Edge a b) : a ∈ graph.keys := by
  obtain ⟨nexts, member, _⟩ := edge
  exact List.mem_map.mpr ⟨(a, nexts), member, rfl⟩

theorem Edge.target (edge : graph.Edge a b) : b ∈ graph.nodes := by
  obtain ⟨nexts, member, next⟩ := edge
  rw [nodes, List.mem_toFinset]
  exact List.mem_append_right _ (List.mem_flatMap.mpr ⟨(a, nexts), member, next⟩)

theorem nodes_card : graph.nodes.card ≤ graph.size := by
  have count := List.toFinset_card_le (graph.keys ++ graph.entries.flatMap Prod.snd)
  rw [List.length_append] at count
  exact count

theorem hasCircularDependency_deep (depth : Nat) (deep : graph.size < depth) :
    ∃ found, graph.hasCircularDependency depth = some found ∧
      (found = true ↔ ∃ node, TransGen graph.Edge node node) := by
  obtain ⟨rest, rfl⟩ : ∃ rest, depth = rest + 1 := ⟨depth - 1, by omega⟩
  have bound : graph.nodes.card ≤ rest := Nat.le_trans nodes_card (by omega)
  rw [← leads_eq]
  apply @Search.visitRoots_iff _ _ graph.nodes
  · intro a _ b edge
    exact (leads_iff.mp edge).target
  · intro root member
    exact List.mem_toFinset.mpr (List.mem_append_left _ member)
  · intro a b edge
    exact (leads_iff.mp edge).source
  · exact bound

/-- The search ends, and finds a cycle exactly if there is one. -/
theorem terminates_and_detects (graph : AdjacencyMap) :
    ∃ found, (∀ depth, graph.size < depth → graph.hasCircularDependency depth = some found) ∧
      (found = true ↔ ∃ node, TransGen graph.Edge node node) := by
  obtain ⟨found, _, cyclic⟩ := @hasCircularDependency_deep graph (graph.size + 1) (Nat.lt_succ_self _)
  refine ⟨found, fun depth deep => ?_, cyclic⟩
  obtain ⟨found', ran, cyclic'⟩ := hasCircularDependency_deep depth deep
  rw [ran, Option.some.injEq, Bool.eq_iff_iff, cyclic', cyclic]

end AdjacencyMap
end OrchestrateModel
