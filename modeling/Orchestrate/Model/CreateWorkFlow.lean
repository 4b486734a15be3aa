import Orchestrate.Model.Chain

namespace OrchestrateModel

open Effect

/-- The field `dependsOn` of a request: one key, or an array of keys. -/
inductive DependsOn : Type where
  | one (key : String)
  | many (keys : List String)
  deriving DecidableEq, Repr

/-- An item of the request's `jobs`; a missing key or type is the empty string. -/
structure WorkFlowItem where
  key : String
  type : String
  metadata : Option Metadata := none
  priorityLevel : Option PriorityLevel := none
  retries : Option Nat := none
  faliureStrategy : Option FaliureStrategy := none
  dependsOn : Option DependsOn := none
  deriving DecidableEq, Repr

namespace WorkFlowItem

/-- JavaScript's truth value of `job.dependsOn`: an array is true even when it is empty. -/
def dependent (item : WorkFlowItem) : Bool :=
  match item.dependsOn with
  | none => false
  | some (.one key) => key != ""
  | some (.many _) => true

def dependencies (item : WorkFlowItem) : List String :=
  match item.dependsOn with
  | none => []
  | some (.one key) => if key = "" then [] else [key]
  | some (.many keys) => keys

/-- The text of `job.dependsOn` in a template string. -/
def dependsOnText (item : WorkFlowItem) : String :=
  match item.dependsOn with
  | none => "undefined"
  | some (.one key) => key
  | some (.many keys) => ",".intercalate keys

end WorkFlowItem

/-- A node of the graph of `hasCircularDependency`: a key, or the array that some item's `dependsOn`
    holds. Arrays are equal only to themselves. -/
inductive GraphNode : Type where
  | key (text : String)
  | array (owner : String) (keys : List String)
  deriving DecidableEq, Repr

/-- The property name an object is indexed by. -/
def GraphNode.text : GraphNode → String
  | .key text => text
  | .array _ keys => ",".intercalate keys

/-- `graph[node] || []`. -/
def neighbours (items : List WorkFlowItem) (node : GraphNode) : List GraphNode :=
  match items.find? fun item => item.key = node.text with
  | none => []
  | some item =>
    if item.dependent then
      match item.dependsOn with
      | none => []
      | some (.one key) => [.key key]
      | some (.many keys) => [.array item.key keys]
    else []

/-- The sets of the search: visited nodes and the recursion stack. -/
structure SearchSets where
  visited : List GraphNode
  recStack : List GraphNode
  deriving DecidableEq, Repr

def visitNeighbours (dfs : GraphNode → SearchSets → Bool × SearchSets) :
    List GraphNode → SearchSets → Bool × SearchSets
  | [], sets => (false, sets)
  | neighbour :: rest, sets =>
    let (found, sets) := if neighbour ∈ sets.visited then (false, sets) else dfs neighbour sets
    if found then (true, sets)
    else if neighbour ∈ sets.recStack then (true, sets)
    else visitNeighbours dfs rest sets

def dfs (items : List WorkFlowItem) : Nat → GraphNode → SearchSets → Bool × SearchSets
  | 0, _, sets => (false, sets)
  | depth + 1, node, sets =>
    if node ∈ sets.visited then
      (false, { sets with recStack := sets.recStack.erase node })
    else
      let (found, sets) := visitNeighbours (dfs items depth) (neighbours items node)
        { visited := node :: sets.visited, recStack := node :: sets.recStack }
      if found then (true, sets)
      else (false, { sets with recStack := sets.recStack.erase node })

/-- The loop over `Object.keys(graph)`, where `__proto__` is none: to assign to it sets the prototype, which is what a
    lookup of it answers. A path of the search repeats no node, and each item adds at most its key, its array and one name
    that is no key. -/
def hasCircularDependency (items : List WorkFlowItem) : Bool :=
  let rec visitKeys : List String → SearchSets → Bool
    | [], _ => false
    | key :: rest, sets =>
      match dfs items (3 * items.length + 1) (.key key) sets with
      | (true, _) => true
      | (false, sets) => visitKeys rest sets
  visitKeys ((items.map (·.key)).filter (· ≠ "__proto__")) { visited := [], recStack := [] }

structure WorkFlowReply where
  id : JobId
  key : String
  type : String
  status : JobStatus
  priorityLevel : PriorityLevel
  dependsOn : List String
  workFlowId : Option WorkFlowId
  deriving DecidableEq, Repr

def badRequest (message : String) : Err := { name := "BadRequestException", message := message }

namespace ChainService

/-- The columns of an item's row. -/
def itemColumns (workFlowId : WorkFlowId) (userId : UserId) (tenantId : TenantId) (item : WorkFlowItem) :
    JobColumns :=
  { type := item.type
    metadata := item.metadata.getD []
    status := if item.dependencies.length > 0 then .WAITING_FOR_DEPENDENCIES else .READY
    workFlowId := some workFlowId
    priorityLevel := item.priorityLevel.getD .NONE
    retries := item.retries.getD 3
    faliureStrategy := some (item.faliureStrategy.getD .STRICT)
    tenantId := tenantId
    userId := userId }

def saveJobs (workFlowId : WorkFlowId) (userId : UserId) (tenantId : TenantId) :
    List WorkFlowItem → List (String × Job) → ServiceProgram (List (String × Job))
  | [], jobMap => return jobMap
  | item :: rest, jobMap => do
    if item.key = "" ∨ item.type = "" then
      .throws (badRequest "Each job must have key and type")
    let created ← JobRepo.save (itemColumns workFlowId userId tenantId item)
    saveJobs workFlowId userId tenantId rest (jobMap ++ [(item.key, created)])

def saveDependency (jobMap : List (String × Job)) (item : WorkFlowItem) (parentKey : String) :
    ServiceProgram Unit :=
  match jobMap.lookup parentKey, jobMap.lookup item.key with
  | some parentJob, some childJob => DepRepo.save parentJob.id childJob.id
  | _, _ => .throws (badRequest ("parent job " ++ item.dependsOnText ++ " not found"))

def saveDependencies (jobMap : List (String × Job)) (items : List WorkFlowItem) : ServiceProgram Unit :=
  Program.forEach items fun item => Program.forEach item.dependencies (saveDependency jobMap item)

/-- The checks before any row is written. -/
def validate (items : List WorkFlowItem) : Except Err Unit :=
  let keys := items.map (·.key)
  if items = [] then .error { message := "Invalid jobs array" }
  else if ¬ keys.Nodup then
    let duplicates := (keys.zipIdx.filter fun entry => keys.idxOf entry.1 ≠ entry.2).map (·.1)
    .error (badRequest ("Invalid workflow: duplicate jobs keys found " ++ ", ".intercalate duplicates.eraseDups))
  else if items.all (·.dependent) then
    .error (badRequest "Invalid workflow: at least onejob musthave no dependencies (no root)")
  else if hasCircularDependency items then
    .error (badRequest "Invalid workflow: circular dependency detected")
  else .ok ()

def createWorkFlow (items : List WorkFlowItem) (userId : UserId) (tenantId : TenantId) :
    ServiceProgram (WorkFlowId × List WorkFlowReply) := do
  Program.ofExcept (validate items)
  let workFlowId ← randomUUID
  let jobMap ← saveJobs workFlowId userId tenantId items []
  saveDependencies jobMap items
  scheduleNextJob workFlowId tenantId
  return (workFlowId, items.filterMap fun item => (jobMap.lookup item.key).map fun createdJob =>
    { id := createdJob.id
      key := item.key
      type := createdJob.type
      status := createdJob.status
      priorityLevel := createdJob.priorityLevel
      dependsOn := item.dependencies
      workFlowId := createdJob.workFlowId })

end ChainService
end OrchestrateModel
