import Mathlib.Algebra.Order.Field.Rat
import Orchestrate.Effect.Cooperative
import Orchestrate.Model.Jobs

namespace OrchestrateModel

open Effect

abbrev WorkerId := Nat

/-- The counts of a queue's jobs that `getJobCounts` returns. -/
structure JobCounts where
  waiting : Nat
  active : Nat
  delayed : Nat
  prioritized : Nat
  deriving DecidableEq, Repr

/-- The asynchronous functions of the autoscaler whose end is awaited. -/
inductive ScalerFunction : Type where
  | spawnWorker | terminateWorker | scaleUp | scaleDown | evaluateQueue
  deriving DecidableEq, Repr

/-- What the autoscaler and the registry call, their own maps included. `settle` is the turn of others at the
    `await` of a function of their own that has ended. -/
inductive ScalerCall : Type where
  | getJobCounts (queueName : String)
  | settle (function : ScalerFunction) (queueName : String)
  | closed (queueName : String) (worker : WorkerId)
  | now
  | lastScaleAt (queueName : String)
  | setLastScaleAt (queueName : String) (time : Nat)
  | processor (queueName : String)
  | createWorker (queueName : String)
  | workers (queueName : String)
  | setWorkers (queueName : String) (list : List WorkerId)
  | close (worker : WorkerId)
  | recordScaleUp (queueName : String)
  | recordScaleDown (queueName : String)
  deriving DecidableEq, Repr

def ScalerCall.Reply : ScalerCall → Type
  | .getJobCounts _ => JobCounts
  | .now | .createWorker _ => Nat
  | .lastScaleAt _ => Option Nat
  | .processor _ => Bool
  | .workers _ => Option (List WorkerId)
  | .settle _ _ | .closed _ _ | .setLastScaleAt _ _ | .setWorkers _ _ | .close _ | .recordScaleUp _
  | .recordScaleDown _ => Unit

/-- JavaScript runs on without a turn of others, but for the replies it awaits. -/
def ScalerCall.sync : ScalerCall → Bool
  | .getJobCounts _ | .settle _ _ | .closed _ _ => false
  | _ => true

def scalerSignature : Signature := { Call := ScalerCall, Reply := ScalerCall.Reply }

abbrev ScalerProgram := Program scalerSignature Err

namespace Scaler

def invoke (call : ScalerCall) : ScalerProgram call.Reply := @Program.await scalerSignature Err call

def getJobCounts (queueName : String) : ScalerProgram JobCounts := invoke (.getJobCounts queueName)

def settle (function : ScalerFunction) (queueName : String) : ScalerProgram Unit := invoke (.settle function queueName)

def closed (queueName : String) (worker : WorkerId) : ScalerProgram Unit := invoke (.closed queueName worker)

def now : ScalerProgram Nat := invoke .now

def lastScaleAt (queueName : String) : ScalerProgram (Option Nat) := invoke (.lastScaleAt queueName)

def setLastScaleAt (queueName : String) (time : Nat) : ScalerProgram Unit := invoke (.setLastScaleAt queueName time)

def processor (queueName : String) : ScalerProgram Bool := invoke (.processor queueName)

def createWorker (queueName : String) : ScalerProgram WorkerId := invoke (.createWorker queueName)

def workers (queueName : String) : ScalerProgram (Option (List WorkerId)) := invoke (.workers queueName)

def setWorkers (queueName : String) (list : List WorkerId) : ScalerProgram Unit := invoke (.setWorkers queueName list)

def close (worker : WorkerId) : ScalerProgram Unit := invoke (.close worker)

def recordScaleUp (queueName : String) : ScalerProgram Unit := invoke (.recordScaleUp queueName)

def recordScaleDown (queueName : String) : ScalerProgram Unit := invoke (.recordScaleDown queueName)

end Scaler

/-- `await` of a function of their own: others have their turn after it has ended, also by an error. -/
def awaiting (function : ScalerFunction) (queueName : String) (program : ScalerProgram Unit) :
    ScalerProgram Unit := do
  let ended ← program.capture
  Scaler.settle function queueName
  Program.ofExcept ended

namespace workerRegistryService

def spawnWorker (queueName : String) : ScalerProgram Unit := do
  let factory ← Scaler.processor queueName
  if factory then
    let worker ← Scaler.createWorker queueName
    let existing ← Scaler.workers queueName
    Scaler.setWorkers queueName (existing.getD [] ++ [worker])

/-- The last worker is taken off the list before its `close` is awaited. -/
def terminateWorker (queueName : String) : ScalerProgram Unit := do
  let list ← Scaler.workers queueName
  match (list.getD []).getLast? with
  | none => return ()
  | some worker =>
    Scaler.setWorkers queueName (list.getD []).dropLast
    Scaler.close worker
    Scaler.closed queueName worker

def getWorkerCount (queueName : String) : ScalerProgram Nat := do
  let list ← Scaler.workers queueName
  return (list.getD []).length

end workerRegistryService

namespace AutoscalerService

def MIN_WORKERS : Nat := 1

def MAX_WORKERS : Nat := 50

def MIN_COOLDOWN_MS : Nat := 2000

def utilization (active workers : Nat) : Rat := if workers > 0 then active / workers else 0

def backlog (counts : JobCounts) : Nat := counts.waiting + counts.delayed + counts.prioritized

/-- The condition of `scaleUp`. -/
def overloaded (counts : JobCounts) (workers : Nat) : Bool :=
  utilization counts.active workers ≥ 1 && backlog counts > 0 && workers < MAX_WORKERS

/-- The condition of `scaleDown`. -/
def idle (counts : JobCounts) (workers : Nat) : Bool :=
  utilization counts.active workers < 3 / 10 && backlog counts = 0 && counts.active = 0 && workers > MIN_WORKERS

def scaleUp (queueName : String) : ScalerProgram Unit := do
  awaiting .spawnWorker queueName (workerRegistryService.spawnWorker queueName)
  Scaler.recordScaleUp queueName

def scaleDown (queueName : String) (current : Nat) : ScalerProgram Unit := do
  let next := max MIN_WORKERS (current - 1)
  if next = current then return ()
  awaiting .terminateWorker queueName (workerRegistryService.terminateWorker queueName)
  Scaler.recordScaleDown queueName

def evaluateQueue (queueName : String) : ScalerProgram Unit := do
  let counts ← Scaler.getJobCounts queueName
  let workers ← workerRegistryService.getWorkerCount queueName
  let now ← Scaler.now
  let lastScale ← Scaler.lastScaleAt queueName
  -- with a truncated difference a negative one is below the cooldown too
  if ¬ (now - lastScale.getD 0 ≥ MIN_COOLDOWN_MS) then return ()
  if overloaded counts workers then
    awaiting .scaleUp queueName (scaleUp queueName)
    Scaler.setLastScaleAt queueName now
  else if idle counts workers then
    awaiting .scaleDown queueName (scaleDown queueName workers)
    Scaler.setLastScaleAt queueName now

def tick (queues : List String) : ScalerProgram Unit :=
  Program.forEach queues fun queueName =>
    (awaiting .evaluateQueue queueName (evaluateQueue queueName)).catching fun _ => return ()

end AutoscalerService

/-- The maps of the autoscaler and the registry, and the workers that have been told to close. -/
structure ScalerStore where
  workers : String → Option (List WorkerId)
  lastScaleAt : String → Option Nat
  processors : String → Bool
  nextWorker : WorkerId
  closing : List WorkerId

/-- What happens in a turn: the clock reading, and how `getJobCounts` or `close` ends if that is what is awaited. -/
structure ScalerTurn where
  now : Nat
  counts : Except Err JobCounts
  closed : Except Err Unit

namespace ScalerStore

def count (s : ScalerStore) (queueName : String) : Nat := ((s.workers queueName).getD []).length

def setWorkers (s : ScalerStore) (queueName : String) (list : List WorkerId) : ScalerStore :=
  { s with workers := fun other => if other = queueName then some list else s.workers other }

def setLastScaleAt (s : ScalerStore) (queueName : String) (time : Nat) : ScalerStore :=
  { s with lastScaleAt := fun other => if other = queueName then some time else s.lastScaleAt other }

def answer (turn : ScalerTurn) : Handler scalerSignature Err ScalerStore
  | s, .getJobCounts _ => (turn.counts, s)
  | s, .settle _ _ => (.ok (), s)
  | s, .closed _ _ => (turn.closed, s)
  | s, .now => (.ok turn.now, s)
  | s, .lastScaleAt queueName => (.ok (s.lastScaleAt queueName), s)
  | s, .setLastScaleAt queueName time => (.ok (), s.setLastScaleAt queueName time)
  | s, .processor queueName => (.ok (s.processors queueName), s)
  | s, .createWorker _ => (.ok s.nextWorker, { s with nextWorker := s.nextWorker + 1 })
  | s, .workers queueName => (.ok (s.workers queueName), s)
  | s, .setWorkers queueName list => (.ok (), s.setWorkers queueName list)
  | s, .close worker => (.ok (), { s with closing := s.closing ++ [worker] })
  | s, .recordScaleUp _ => (.ok (), s)
  | s, .recordScaleDown _ => (.ok (), s)

end ScalerStore

/-- The event loop; `Date.now()` may go back. -/
def scalerLoop : Cooperation scalerSignature Err ScalerStore ScalerTurn where
  sync := ScalerCall.sync
  arrive _ s := some s
  answer := ScalerStore.answer

/-- The autoscaler: the interval starts ticks, whether earlier ones have ended or not. -/
def autoscaler (queues : List String) : Machine (Pool scalerSignature Err ScalerStore) (Turn × ScalerTurn) :=
  scalerLoop.machine fun _ => AutoscalerService.tick queues

end OrchestrateModel
