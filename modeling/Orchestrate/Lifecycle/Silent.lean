import Orchestrate.Lifecycle.Execute
import Orchestrate.Model.CreateWorkFlow
import Orchestrate.Workflow.Pick

namespace OrchestrateModel

open Effect Program ChainService BaseProcessor

/-- The call submits no payload. -/
def ServiceCall.Silent (c : ServiceCall) : Prop := ∀ payload, c ≠ .submitJob payload

def WorkerCall.Silent : WorkerCall → Prop
  | .service c => c.Silent
  | _ => True

section Services

theorem silent_query (c : DbCall) : (query c).Only ServiceCall.Silent :=
  only_await (S := serviceSignature) (c := .db c) (by simp [ServiceCall.Silent])

theorem silent_clock : OrchestrateModel.clock.Only ServiceCall.Silent :=
  only_await (S := serviceSignature) (c := .now) (by simp [ServiceCall.Silent])

theorem silent_randomUUID : randomUUID.Only ServiceCall.Silent :=
  only_await (S := serviceSignature) (c := .randomUUID) (by simp [ServiceCall.Silent])

/-- The only statements of `saveJobs` are its inserts. -/
theorem only_saveJobs {p : ServiceCall → Prop} (inserts : ∀ columns, p (.db (.insertJob columns))) (workFlowId : WorkFlowId)
    (userId : UserId) (tenantId : TenantId) (items : List WorkFlowItem) (jobMap : List (String × Job)) :
    (saveJobs workFlowId userId tenantId items jobMap).Only p := by
  induction items generalizing jobMap with
  | nil => trivial
  | cons item rest ih =>
    unfold saveJobs
    dsimp only
    split
    · trivial
    · exact Only.bind (only_await (S := serviceSignature) (inserts _)) fun created => ih _

theorem only_saveDependencies {p : ServiceCall → Prop} (inserts : ∀ parentId childId, p (.db (.insertDep parentId childId)))
    (jobMap : List (String × Job)) (items : List WorkFlowItem) : (saveDependencies jobMap items).Only p := by
  refine only_forEach fun item _ => only_forEach fun parentKey _ => ?_
  unfold saveDependency
  split
  · exact only_await (S := serviceSignature) (inserts _ _)
  · trivial

theorem silent_saveJobs (workFlowId : WorkFlowId) (userId : UserId) (tenantId : TenantId) (items : List WorkFlowItem)
    (jobMap : List (String × Job)) : (saveJobs workFlowId userId tenantId items jobMap).Only ServiceCall.Silent :=
  only_saveJobs (by simp [ServiceCall.Silent]) workFlowId userId tenantId items jobMap

theorem silent_saveDependencies (jobMap : List (String × Job)) (items : List WorkFlowItem) :
    (saveDependencies jobMap items).Only ServiceCall.Silent :=
  only_saveDependencies (by simp [ServiceCall.Silent]) jobMap items

theorem silent_unlockChildren (parentJobId : JobId) : (unlockChildren parentJobId).Only ServiceCall.Silent := by
  refine (silent_query _).bind fun childDeps => only_forEach fun dep _ => (silent_query _).bind fun found => ?_
  split
  · trivial
  · split
    · trivial
    · refine (silent_query _).bind fun remainingDeps => ?_
      split
      · exact (silent_query _).bind fun _ => silent_query _
      · trivial

theorem silent_skipChild (child : Option Job) : (skipChild child).Only ServiceCall.Silent := by
  unfold skipChild
  split
  · trivial
  · refine (silent_query _).bind fun fullChild => ?_
    split
    · trivial
    · split
      · exact silent_query _
      · trivial

theorem silent_pickNextJobGLobal (workFlowId : WorkFlowId) :
    (pickNextJobGLobal workFlowId).Only ServiceCall.Silent := by
  refine (reads_pickNextJobGLobal workFlowId).mono fun c reads payload same => ?_
  rw [same] at reads
  cases reads

end Services

section Attempts

theorem silent_awaitWork {c : WorkerCall} (silent : c.Silent) : (awaitWork c).Only WorkerCall.Silent :=
  only_await (S := workerSignature) silent

theorem silent_onServices {α : Type} {program : ServiceProgram α} (silent : program.Only ServiceCall.Silent) :
    (onServices program).Only WorkerCall.Silent := only_onServices silent

theorem silent_trackSequence (job : BullJob) : (trackSequence job).Only ServiceCall.Silent := by
  unfold trackSequence
  split
  · split
    · refine (silent_query _).bind fun found => ?_
      split
      · trivial
      · exact (silent_query _).bind fun _ => only_done _
    · trivial
  · exact (silent_query _).bind fun _ => (silent_query _).bind fun _ => (silent_query _).bind fun _ => only_done _

theorem silent_beginAttempt (job : BullJob) : (beginAttempt job).Only WorkerCall.Silent := by
  simp only [beginAttempt, bind_eq, pure_eq_done]
  repeat' first
    | exact silent_onServices silent_clock
    | exact silent_onServices (silent_query _)
    | exact silent_onServices (silent_trackSequence job)
    | exact only_await (S := workerSignature) trivial
    | exact Only.capture (only_await (S := workerSignature) trivial)
    | exact only_done _
    | refine Only.bind ?_ fun _ => ?_
    | split

theorem silent_recordFailure (job : BullJob) (attempt : Attempt) (error : Err) :
    (recordFailure job attempt error).Only WorkerCall.Silent := by
  simp only [recordFailure, bind_eq, pure_eq_done]
  repeat' first
    | exact silent_onServices silent_clock
    | exact silent_onServices (silent_query _)
    | exact only_await (S := workerSignature) trivial
    | exact only_done _
    | refine Only.bind ?_ fun _ => ?_
    | split

end Attempts
end OrchestrateModel
