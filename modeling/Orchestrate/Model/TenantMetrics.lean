import Orchestrate.Effect.Machine
import Orchestrate.Model.TenantCap

namespace OrchestrateModel

open Effect

/-- The entry of a tenant in the collector's snapshot. -/
structure TenantUsage where
  inflight : Int
  staged : Nat
  deriving DecidableEq, Repr

abbrev TenantSnapShot := TenantId → Option TenantUsage

/-- The collector's calls: commands of Redis, the gauges of the metrics service, and its own snapshot. -/
inductive CollectorCall : Type where
  | scan (cursor pattern : String) (count : Nat)
  | get (key : String)
  | llen (key : String)
  | setInflight (tenantId : TenantId) (count : Int)
  | setStaged (tenantId : TenantId) (depth : Nat)
  | setSnapShot (snapshot : TenantSnapShot)

@[reducible] def CollectorCall.Reply : CollectorCall → Type
  | .scan _ _ _ => String × List String
  | .get _ => Option Int
  | .llen _ => Nat
  | .setInflight _ _ | .setStaged _ _ | .setSnapShot _ => Unit

abbrev collectorSignature : Signature := ⟨CollectorCall, CollectorCall.Reply⟩

abbrev CollectorProgram := Program collectorSignature Err

namespace Collector

def invoke (call : CollectorCall) : CollectorProgram call.Reply := Program.await (S := collectorSignature) call

def scan (cursor pattern : String) (count : Nat) : CollectorProgram (String × List String) :=
  invoke (.scan cursor pattern count)

def get (key : String) : CollectorProgram (Option Int) := invoke (.get key)

def llen (key : String) : CollectorProgram Nat := invoke (.llen key)

def setInflight (tenantId : TenantId) (count : Int) : CollectorProgram Unit := invoke (.setInflight tenantId count)

def setStaged (tenantId : TenantId) (depth : Nat) : CollectorProgram Unit := invoke (.setStaged tenantId depth)

def setSnapShot (snapshot : TenantSnapShot) : CollectorProgram Unit := invoke (.setSnapShot snapshot)

end Collector

/-- A text without the first place where `pattern` occurs. -/
def cutFirst (pattern : List Char) : List Char → List Char
  | [] => []
  | c :: rest => if pattern.isPrefixOf (c :: rest) then (c :: rest).drop pattern.length else c :: cutFirst pattern rest

/-- `text.replace(pattern, "")`. -/
def removeFirst (text pattern : String) : String := String.ofList (cutFirst pattern.toList text.toList)

namespace TenantSnapShot

/-- The tenant's entry, which is made if there is none. -/
def entry (snapshot : TenantSnapShot) (tenantId : TenantId) : TenantUsage :=
  (snapshot tenantId).getD { inflight := 0, staged := 0 }

def set (snapshot : TenantSnapShot) (tenantId : TenantId) (usage : TenantUsage) : TenantSnapShot :=
  Function.update snapshot tenantId (some usage)

end TenantSnapShot

namespace TenantMetricsCollector

/-- The cursor loop, up to a number of rounds that it may take. -/
def scanKeys (pattern : String) : Nat → String → List String → CollectorProgram (List String)
  | 0, _, _ => .hangs
  | rounds + 1, cursor, keys => do
    let reply ← Collector.scan cursor pattern 100
    if reply.1 ≠ "0" then
      scanKeys pattern rounds reply.1 (keys ++ reply.2)
    else
      return keys ++ reply.2

def readInflight : List String → TenantSnapShot → CollectorProgram TenantSnapShot
  | [], snapshot => return snapshot
  | key :: rest, snapshot => do
    let tenantId := removeFirst key "tenant:inflight:"
    let raw ← Collector.get key
    let count := raw.getD 0
    Collector.setInflight tenantId count
    readInflight rest (snapshot.set tenantId { snapshot.entry tenantId with inflight := count })

def readStaged : List String → TenantSnapShot → CollectorProgram TenantSnapShot
  | [], snapshot => return snapshot
  | key :: rest, snapshot => do
    let tenantId := removeFirst key "tenant:staging:"
    let depth ← Collector.llen key
    Collector.setStaged tenantId depth
    readStaged rest (snapshot.set tenantId { snapshot.entry tenantId with staged := depth })

def poll (rounds : Nat) : CollectorProgram Unit :=
  Program.catching (do
    let inflightKeys ← scanKeys "tenant:inflight:*" rounds "0" []
    let stagingKeys ← scanKeys "tenant:staging:*" rounds "0" []
    let snapshot ← readInflight inflightKeys fun _ => none
    let snapshot ← readStaged stagingKeys snapshot
    Collector.setSnapShot snapshot) fun _ => return ()

end TenantMetricsCollector

/-- The labelled values of the two gauges, and the collector's snapshot. -/
structure TenantGauges where
  tenantInflight : TenantId → Option Int
  tenantStaged : TenantId → Option Nat
  tenantSnapShot : TenantSnapShot

/-- What Redis replies to `SCAN`, by pattern and cursor, and the rounds that a scan may take. -/
structure PollTurn where
  scan : String → String → String × List String
  rounds : Nat

namespace TenantGauges

def empty : TenantGauges :=
  { tenantInflight := fun _ => none, tenantStaged := fun _ => none, tenantSnapShot := fun _ => none }

def answer (redis : Redis) (turn : PollTurn) : Handler collectorSignature Err TenantGauges
  | s, .scan cursor pattern _ => (.ok (turn.scan pattern cursor), s)
  | s, .get key => (.ok ((redis.counters key).map fun counter => counter.value), s)
  | s, .llen key => (.ok (redis.lists key).length, s)
  | s, .setInflight tenantId count =>
    (.ok (), { s with tenantInflight := Function.update s.tenantInflight tenantId (some count) })
  | s, .setStaged tenantId depth =>
    (.ok (), { s with tenantStaged := Function.update s.tenantStaged tenantId (some depth) })
  | s, .setSnapShot snapshot => (.ok (), { s with tenantSnapShot := snapshot })

end TenantGauges

inductive PollingEvent (ε : Type) : Type where
  | host (event : ε)
  | poll (turn : PollTurn)

/-- A collector beside a system `host` that changes Redis; nothing changes while a poll runs, and it completes. -/
def polling {σ ε : Type} (host : Machine σ ε) (redis : σ → Redis) : Machine (σ × TenantGauges) (PollingEvent ε) where
  step s
    | .host event => (host.step s.1 event).map fun next => (next, s.2)
    | .poll turn =>
      match (TenantMetricsCollector.poll turn.rounds).run (TenantGauges.answer (redis s.1) turn) s.2 with
      | (.ok (), gauges) => some (s.1, gauges)
      | (.thrown _, _) | (.hung, _) => none

end OrchestrateModel
