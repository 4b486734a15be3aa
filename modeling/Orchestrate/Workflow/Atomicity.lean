import Orchestrate.Effect.Trace
import Orchestrate.Workflow.Creation

namespace OrchestrateModel

open Effect Program ChainService

namespace WorkFlowItem

/-- The item has a key and a type. -/
def Complete (item : WorkFlowItem) : Prop := item.key ≠ "" ∧ item.type ≠ ""

instance (item : WorkFlowItem) : Decidable item.Complete := inferInstanceAs (Decidable (_ ∧ _))

end WorkFlowItem

namespace ChainService

variable {γ : Type} {env : Env} {gate : γ → JobQueuePayload → Except Err JobStatus × γ} {db : Db} {g : γ}
  {userId : UserId} {tenantId : TenantId} {items : List WorkFlowItem}

/-- A request that no check of `createWorkFlow` objects to, before or after it has begun to save. -/
structure Sound (items : List WorkFlowItem) : Prop where
  passes : validate items = .ok ()
  complete : ∀ item ∈ items, item.Complete
  known : KnownKeys items

end ChainService
end OrchestrateModel
