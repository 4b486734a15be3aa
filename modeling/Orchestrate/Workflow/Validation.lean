import Orchestrate.Workflow.Cycle
import Orchestrate.Workflow.Steps

namespace OrchestrateModel

open Effect ChainService Relation

/-- A job's `dependsOn` names the key of another job. -/
def Names (items : List WorkFlowItem) (child parent : String) : Prop :=
  ∃ item ∈ items, item.key = child ∧ parent ∈ item.dependencies

section Validate

variable {items : List WorkFlowItem}

end Validate

section Rejects

variable {env : Env} {staged : Bool} {db : Db} {desk : Desk} {items : List WorkFlowItem} {userId : UserId}
  {tenantId : TenantId}

end Rejects

/-- A `dependsOn` that names one key, as a text or as an array. -/
def NamesOne (items : List WorkFlowItem) (child parent : String) : Prop :=
  ∃ item ∈ items, item.key = child ∧ item.dependencies = [parent]

section Kinds

variable {items : List WorkFlowItem}

theorem NamesOne.names {child parent : String} (one : NamesOne items child parent) : Names items child parent := by
  obtain ⟨item, member, own, single⟩ := one
  exact ⟨item, member, own, single ▸ List.mem_singleton_self _⟩

theorem NamesText.source {child parent : String} (names : NamesText items child parent) : child ∈ items.map (·.key) := by
  obtain ⟨item, member, rfl, _⟩ := names
  exact List.mem_map_of_mem member

end Kinds

section Accepts

variable {env : Env} {staged : Bool} {db : Db} {desk : Desk} {items : List WorkFlowItem} {userId : UserId}
  {tenantId : TenantId}

end Accepts

end OrchestrateModel
