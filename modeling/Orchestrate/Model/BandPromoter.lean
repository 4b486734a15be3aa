import Orchestrate.Effect.Cooperative
import Orchestrate.Model.Payload

namespace OrchestrateModel

open Effect

/-- A BullMQ job: `opts.priority` stays as given when it was added, `priority` is where it is sorted now. -/
structure BandJob where
  id : String
  timestamp : Nat
  optsPriority : Option Nat
  priority : Option Nat
  deriving DecidableEq, Repr

/-- The waiting and prioritized jobs of a queue, in the order of their indexes, and those picked up by a worker. -/
structure QueueContent where
  waiting : List BandJob
  prioritized : List BandJob
  active : List BandJob
  deriving DecidableEq, Repr

/-- What the scan calls. -/
inductive PromoterCall : Type where
  | now
  | getJobs (queueName : String)
  | changePriority (queueName : String) (id : String) (priority : Nat)
  | recordPromotion (queueName : String)
  deriving DecidableEq, Repr

def PromoterCall.Reply : PromoterCall → Type
  | .now => Nat
  | .getJobs _ => List BandJob
  | .changePriority _ _ _ | .recordPromotion _ => Unit

def PromoterCall.sync : PromoterCall → Bool
  | .now | .recordPromotion _ => true
  | .getJobs _ | .changePriority _ _ _ => false

def promoterSignature : Signature := { Call := PromoterCall, Reply := PromoterCall.Reply }

abbrev PromoterProgram := Program promoterSignature Err

namespace Promoter

def invoke (call : PromoterCall) : PromoterProgram call.Reply := @Program.await promoterSignature Err call

def now : PromoterProgram Nat := invoke .now

/-- `queue.getJobs(["waiting", "prioritized"], 0, 10)`. -/
def getJobs (queueName : String) : PromoterProgram (List BandJob) := invoke (.getJobs queueName)

def changePriority (queueName : String) (id : String) (priority : Nat) : PromoterProgram Unit :=
  invoke (.changePriority queueName id priority)

def recordPromotion (queueName : String) : PromoterProgram Unit := invoke (.recordPromotion queueName)

end Promoter

namespace BandPromoterService

def PROMOTION_THRESHHOLD_MS : Nat := 5000

def HIGH_BAND_PRIORITY : Nat := 1

def NORMAL_BAND_MIN_PRIORITY : Nat := 2

def promoteJob (queueName : String) (job : BandJob) : PromoterProgram Bool :=
  Program.catching (do
    Promoter.changePriority queueName job.id HIGH_BAND_PRIORITY
    return true) fun _ => return false

/-- The loop over the fetched jobs, with the promotions counted so far. -/
def promoteEach (queueName : String) (now : Nat) : List BandJob → Nat → PromoterProgram Nat
  | [], promoted => return promoted
  | job :: rest, promoted =>
    let currentPriority := job.optsPriority.getD 20
    if currentPriority < NORMAL_BAND_MIN_PRIORITY then promoteEach queueName now rest promoted
    -- with a truncated difference a negative one is below the threshold too
    else if now - job.timestamp < PROMOTION_THRESHHOLD_MS then promoteEach queueName now rest promoted
    else do
      let ok ← promoteJob queueName job
      promoteEach queueName now rest (if ok then promoted + 1 else promoted)

def promoteQueue (queueName : String) (now : Nat) : PromoterProgram Unit := do
  let waiting ← Promoter.getJobs queueName
  let promoted ← promoteEach queueName now waiting 0
  Program.forEach (List.range promoted) fun _ => Promoter.recordPromotion queueName

def promoteStalledJobs (queues : List String) : PromoterProgram Unit := do
  let now ← Promoter.now
  Program.forEach queues fun queueName =>
    (promoteQueue queueName now).catching fun _ => return ()

end BandPromoterService

namespace QueueContent

def jobs (content : QueueContent) : List BandJob := content.waiting ++ content.prioritized ++ content.active

/-- The jobs at the indexes 0 to 10 of each state. -/
def window (content : QueueContent) : List BandJob := content.waiting.take 11 ++ content.prioritized.take 11

def find (content : QueueContent) (id : String) : Option BandJob := content.jobs.find? fun job => job.id = id

def without (content : QueueContent) (id : String) : QueueContent :=
  { waiting := content.waiting.filter fun job => job.id ≠ id
    prioritized := content.prioritized.filter fun job => job.id ≠ id
    active := content.active.filter fun job => job.id ≠ id }

/-- A job gets its place among the prioritized jobs. -/
def insert (place : List BandJob → BandJob → Nat) (content : QueueContent) (job : BandJob) : QueueContent :=
  let index := place content.prioritized job
  { content with prioritized := content.prioritized.take index ++ job :: content.prioritized.drop index }

/-- `changePriority` of a job that is there; one that is being processed only keeps the new value. -/
def changePriority (place : List BandJob → BandJob → Nat) (content : QueueContent) (job : BandJob)
    (priority : Nat) : QueueContent :=
  let moved := { job with priority := some priority }
  let rest := content.without job.id
  if content.active.any fun other => other.id = job.id then { rest with active := rest.active ++ [moved] }
  else rest.insert place moved

/-- A worker picks a job up. -/
def pick (content : QueueContent) (job : BandJob) : QueueContent :=
  let rest := content.without job.id
  { rest with active := rest.active ++ [job] }

end QueueContent

/-- A promotion that went through, with the priority that the job had before. -/
structure Promotion where
  queueName : String
  id : String
  before : Option Nat
  deriving DecidableEq, Repr

/-- The queues, the ids ever used in them, the promotions so far, and those counted by `recordPromotion`. -/
structure PromoterStore where
  content : String → QueueContent
  used : String → List String
  promotions : List Promotion
  recorded : String → Nat
  clock : Nat

/-- What others do to a queue. -/
inductive QueueChange : Type where
  | added (queueName : String) (id : String) (timestamp : Nat) (priority : Option Nat)
  | picked (queueName : String) (id : String)
  deriving DecidableEq, Repr

/-- What happens before a turn, its clock reading, and the error of the call that is awaited, if it fails. -/
structure PromoterTurn where
  changes : List QueueChange
  now : Nat
  fails : Option Err

namespace PromoterStore

def setContent (s : PromoterStore) (queueName : String) (content : QueueContent) : PromoterStore :=
  { s with content := fun other => if other = queueName then content else s.content other }

section Place

variable (place : List BandJob → BandJob → Nat)

/-- A new job has an id of its own; without a priority it waits in line. -/
def apply (s : PromoterStore) : QueueChange → Option PromoterStore
  | .added queueName id timestamp priority =>
    if id ∈ s.used queueName then none
    else
      let job : BandJob := { id := id, timestamp := timestamp, optsPriority := priority, priority := priority }
      let content := s.content queueName
      let grown :=
        if priority.getD 0 = 0 then { content with waiting := content.waiting ++ [job] } else content.insert place job
      some { s.setContent queueName grown with
        used := fun other => if other = queueName then s.used other ++ [id] else s.used other }
  | .picked queueName id =>
    let content := s.content queueName
    ((content.waiting ++ content.prioritized).find? fun job => job.id = id).map fun job =>
      s.setContent queueName (content.pick job)

def arrive (turn : PromoterTurn) (s : PromoterStore) : Option PromoterStore :=
  if s.clock ≤ turn.now then turn.changes.foldlM (apply place) { s with clock := turn.now } else none

def promote (s : PromoterStore) (queueName : String) (job : BandJob) (priority : Nat) : PromoterStore :=
  { s.setContent queueName ((s.content queueName).changePriority place job priority) with
    promotions := s.promotions ++ [{ queueName := queueName, id := job.id, before := job.priority }] }

def notFound : Err := { name := "Error", message := "Missing key for job" }

def answer (turn : PromoterTurn) : Handler promoterSignature Err PromoterStore
  | s, .now => (.ok turn.now, s)
  | s, .getJobs queueName =>
    match turn.fails with
    | some error => (.error error, s)
    | none => (.ok (s.content queueName).window, s)
  | s, .changePriority queueName id priority =>
    match turn.fails, (s.content queueName).find id with
    | some error, _ => (.error error, s)
    | none, none => (.error notFound, s)
    | none, some job => (.ok (), s.promote place queueName job priority)
  | s, .recordPromotion queueName =>
    (.ok (), { s with recorded := fun other => if other = queueName then s.recorded other + 1 else s.recorded other })

end Place
end PromoterStore

/-- The event loop: jobs come and go between the turns. -/
def promoterLoop (place : List BandJob → BandJob → Nat) :
    Cooperation promoterSignature Err PromoterStore PromoterTurn where
  sync := PromoterCall.sync
  arrive := PromoterStore.arrive place
  answer := PromoterStore.answer place

/-- The promoter: the interval starts scans, whether earlier ones have ended or not. -/
def bandPromoter (place : List BandJob → BandJob → Nat) (queues : List String) :
    Machine (Pool promoterSignature Err PromoterStore) (Turn × PromoterTurn) :=
  (promoterLoop place).machine fun _ => BandPromoterService.promoteStalledJobs queues

end OrchestrateModel
