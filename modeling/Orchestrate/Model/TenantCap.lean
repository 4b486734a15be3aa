import Orchestrate.Model.Redis

namespace OrchestrateModel

open Effect

namespace QueueReconcileCollector

def preQueueKey (queueName : String) : String := "reconcile:queue:" ++ queueName ++ ":pre_queue"

def terminalKey (queueName : String) : String := "reconcile:queue:" ++ queueName ++ ":terminal"

def totalsKey (queueName : String) : String := "reconcile:queue:" ++ queueName ++ ":totals"

def increment (key field : String) : CapProgram Unit := do
  let _ ← Client.hincrby key field 1
  return ()

def incrementSubmitted (queueName : String) : CapProgram Unit :=
  increment (totalsKey queueName) "submitted_total"

def incrementStaged (queueName : String) : CapProgram Unit :=
  increment (preQueueKey queueName) "staged"

def incrementReleasePending (queueName : String) : CapProgram Unit :=
  increment (preQueueKey queueName) "release_pending"

def incrementCompleted (queueName : String) : CapProgram Unit :=
  increment (terminalKey queueName) "completed"

def incrementFailed (queueName : String) : CapProgram Unit :=
  increment (terminalKey queueName) "failed"

def decrementFloorZero (key field : String) : CapProgram Unit := do
  let current ← Client.hget key field
  Client.hset key field (max 0 (current.getD 0 - 1))

def decrementStaged (queueName : String) : CapProgram Unit :=
  decrementFloorZero (preQueueKey queueName) "staged"

def decrementReleasePending (queueName : String) : CapProgram Unit :=
  decrementFloorZero (preQueueKey queueName) "release_pending"

end QueueReconcileCollector

/-- `QueueService.enqueue`. -/
def enqueue (payload : JobQueuePayload) : CapProgram Unit :=
  match getQueueName payload.jobType with
  | none =>
    .throws { message := "no queue found for this jobtype \"" ++ payload.jobType ++ "\"" }
  | some queueName => Client.queueAdd queueName payload (jobsOptions payload)

namespace TenantCapService

open QueueReconcileCollector

def MAX_CONCURRENT_PER_TENANT : Int := 5

def inflightKey (tenantId : TenantId) : String := "tenant:inflight:" ++ tenantId

def stagingKey (tenantId : TenantId) : String := "tenant:staging:" ++ tenantId

def submitJob (payload : JobQueuePayload) : CapProgram JobStatus := do
  incrementSubmitted payload.queueName
  let key := inflightKey payload.tenantId
  let current ← Client.incr key
  if current = 1 then
    Client.expire key 300
  if current ≤ MAX_CONCURRENT_PER_TENANT then
    enqueue payload
    return .QUEUED
  let _ ← Client.decr key
  let _ ← Client.rpush (stagingKey payload.tenantId) payload
  incrementStaged payload.queueName
  let _depth ← Client.llen (stagingKey payload.tenantId)
  return .STAGED

def drainOne (tenantId : TenantId) (_queueName : String) : CapProgram Unit := do
  let raw ← Client.lpop (stagingKey tenantId)
  match raw with
  | none => return ()
  | some payload =>
    decrementStaged payload.queueName
    incrementReleasePending payload.queueName
    Program.catching
      (do
        enqueue payload
        let _ ← Client.incr (inflightKey tenantId)
        decrementReleasePending payload.queueName)
      fun _ => do
        let _ ← Client.lpush (stagingKey tenantId) payload
        decrementReleasePending payload.queueName
        incrementStaged payload.queueName

/-- A counter that went negative is reset, and nothing is drained. -/
def release (tenantId : TenantId) (queueName : String) : CapProgram Unit := do
  let key := inflightKey tenantId
  let after ← Client.decr key
  if after < 0 then
    Client.set key 0
  else
    drainOne tenantId queueName

@[simp] theorem inflightKey_inj {a b : TenantId} : inflightKey a = inflightKey b ↔ a = b :=
  String.append_right_inj _

@[simp] theorem stagingKey_inj {a b : TenantId} : stagingKey a = stagingKey b ↔ a = b :=
  String.append_right_inj _

end TenantCapService
end OrchestrateModel
