import Mathlib.Data.List.Sort
import Orchestrate.Model.Queue
import Orchestrate.Model.Services

namespace OrchestrateModel

open Effect

namespace ChainService

def priorityRank : PriorityLevel → Nat
  | .HIGH => 1
  | .MEDIUM => 2
  | .LOW => 3
  | .NONE => 4

/-- The comparison of the two sorts: by rank, then by creation time. -/
def Precedes (a b : Job) : Prop :=
  priorityRank a.priorityLevel < priorityRank b.priorityLevel ∨
    (priorityRank a.priorityLevel = priorityRank b.priorityLevel ∧ a.createdAt ≤ b.createdAt)

instance : DecidableRel Precedes := fun _ _ => inferInstanceAs (Decidable (_ ∨ _))

/-- `Array.prototype.sort`, which is stable. -/
def sortJobs (jobs : List Job) : List Job := jobs.insertionSort Precedes

/-- The loop that both searches run over sorted siblings. `load` is what a sibling is judged by, and
    `deeper` the search below it. -/
def searchSiblings (load : Job → ServiceProgram (Option Job)) (deeper : JobId → ServiceProgram (Option Job)) :
    List Job → ServiceProgram (Option Job)
  | [] => return none
  | sibling :: rest => do
    let loaded ← load sibling
    match loaded with
    | none => searchSiblings load deeper rest
    | some full =>
      match full.status with
      | .READY => return some full
      | .QUEUED | .PROCESSING | .WAITING_FOR_DEPENDENCIES => return none
      | .COMPLETED | .SKIPPED =>
        let descendant ← deeper full.id
        match descendant with
        | some ready => return some ready
        | none => searchSiblings load deeper rest
      | _ => searchSiblings load deeper rest

/-- The recursion ends on its own on an acyclic workflow; deeper than the number of its jobs it runs in
    a cycle and never ends. -/
def pickBestReadyDescendantDfs : Nat → JobId → ServiceProgram (Option Job)
  | 0, _ => .hangs
  | depth + 1, parentId => do
    let childDeps ← DepRepo.findByParent parentId
    let children := sortJobs (childDeps.filterMap (·.2))
    searchSiblings (fun child => JobRepo.findOne child.id) (pickBestReadyDescendantDfs depth) children

def pickNextJobGLobal (workFlowId : WorkFlowId) : ServiceProgram (Option Job) := do
  let allJobs ← JobRepo.findByWorkFlow workFlowId
  let childDeps ← DepRepo.findByParents (allJobs.map (·.id))
  let childJobIds := childDeps.map (·.childJobId)
  let rootJobs := sortJobs (allJobs.filter fun job => !childJobIds.contains job.id)
  searchSiblings (fun root => return some root) (pickBestReadyDescendantDfs allJobs.length) rootJobs

def scheduleNextJob (workFlowId : WorkFlowId) (_tenantId : TenantId) : ServiceProgram Unit := do
  let queuedOrProcessingCount ← JobRepo.count workFlowId [.QUEUED, .PROCESSING]
  if queuedOrProcessingCount > 0 then
    return ()
  let candidate ← pickNextJobGLobal workFlowId
  match candidate with
  | none => return ()
  | some candidate =>
    JobRepo.update candidate.id { status := some .QUEUED }
    let queueName ← Program.ofExcept (resolveQueueName candidate.type)
    let _ ← submit
      { jobId := candidate.id
        jobType := candidate.type
        tenantId := candidate.tenantId
        priorityLevel := candidate.priorityLevel
        retries := candidate.retries
        metadata := candidate.metadata
        idempotencyKey := some (uuidText candidate.id)
        queueName := queueName }
    return ()

/-- The body of the loop in `unlockChildren`. -/
def unlockChild (childId : JobId) : ServiceProgram Unit := do
  let found ← JobRepo.findOne childId
  match found with
  | none => return ()
  | some child =>
    if child.status ≠ .WAITING_FOR_DEPENDENCIES then
      return ()
    let remainingDeps ← DepRepo.countRemaining child.id
    if remainingDeps = 0 then
      JobRepo.update child.id { status := some .READY }
      DepRepo.update child.id .READY

def unlockChildren (parentJobId : JobId) : ServiceProgram Unit := do
  let childDeps ← DepRepo.findByParent parentJobId
  Program.forEach childDeps fun dep => unlockChild dep.1.childJobId

def onJobCompleted (jobId : JobId) : ServiceProgram Unit := do
  let found ← JobRepo.findOne jobId
  match found.bind fun completedJob => completedJob.workFlowId.map (completedJob, ·) with
  | none => return ()
  | some (completedJob, workFlowId) =>
    unlockChildren jobId
    scheduleNextJob workFlowId completedJob.tenantId

/-- The body of the loop in `handleParentFailure`; `child` is the relation loaded with the dependency. -/
def skipChild (child : Option Job) : ServiceProgram Unit :=
  match child with
  | none => return ()
  | some child => do
    let fullChild ← JobRepo.findOne child.id
    match fullChild with
    | none => return ()
    | some fullChild =>
      if fullChild.faliureStrategy = some .STRICT then
        JobRepo.update fullChild.id { status := some .SKIPPED }

def handleParentFailure (parentJobId : JobId) : ServiceProgram Unit := do
  let found ← JobRepo.findOne parentJobId
  match found.bind fun parentJob => parentJob.workFlowId.map (parentJob, ·) with
  | none => return ()
  | some (parentJob, workFlowId) =>
    let deps ← DepRepo.findByParent parentJobId
    Program.forEach deps fun dep => skipChild dep.2
    scheduleNextJob workFlowId parentJob.tenantId

end ChainService
end OrchestrateModel
