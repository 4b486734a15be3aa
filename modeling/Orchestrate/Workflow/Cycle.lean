import Orchestrate.Model.CreateWorkFlow
import Orchestrate.Search.Cycle

namespace OrchestrateModel

open Relation

/-- The edges that the search of `hasCircularDependency` follows. -/
def Leads (items : List WorkFlowItem) (a b : GraphNode) : Prop := b ∈ neighbours items a

/-- No walk from the node goes on forever. -/
def Ends (items : List WorkFlowItem) (node : GraphNode) : Prop := Acc (fun b a => Leads items a b) node

namespace SearchSets

def marks (sets : SearchSets) : Search.Marks GraphNode := { visited := sets.visited, recStack := sets.recStack }

end SearchSets

section Search

variable {items : List WorkFlowItem}

open SearchSets

end Search

/-- The node of an item's `dependsOn`, or else of its key. -/
def itemNode (item : WorkFlowItem) : GraphNode :=
  match item.dependsOn with
  | none => .key item.key
  | some (.one key) => .key key
  | some (.many keys) => .array item.key keys

section Graph

variable {items : List WorkFlowItem} {a b : GraphNode}

/-- An edge comes from an item that has the text of a node as its key. -/
theorem leads_iff : Leads items a b ↔
    ∃ item, items.find? (fun item => item.key = a.text) = some item ∧ item.dependent = true ∧ b = itemNode item := by
  unfold Leads neighbours
  cases found : items.find? fun item => item.key = a.text with
  | none => simp
  | some item =>
    simp only [Option.some.injEq, exists_eq_left']
    by_cases dependent : item.dependent = true
    · simp only [dependent, true_and, itemNode]
      cases depends : item.dependsOn with
      | none => simp [WorkFlowItem.dependent, depends] at dependent
      | some on => cases on <;> simp
    · simp [dependent]

/-- A job's `dependsOn`, read as one text, is the key of another job. -/
def NamesText (items : List WorkFlowItem) (child parent : String) : Prop :=
  ∃ item ∈ items, item.key = child ∧ item.dependent = true ∧ item.dependsOnText = parent

end Graph
end OrchestrateModel
