import Orchestrate.Model.Processor

namespace OrchestrateModel

open Effect

/-- An entity of `queue_sequences`; one that was created and not yet saved has no id. Several rows may name one queue. -/
structure SequenceEntity where
  id : Option Nat
  queueName : String
  lastSequence : Nat
  deriving DecidableEq, Repr

/-- The table `queue_sequences`, and the column `queueSequence` of the jobs. -/
structure SequenceTable where
  rows : List SequenceEntity
  drawn : Nat
  queueSequences : List (JobId × Nat)

/-- The repository calls of the section "sequence tracking" for a one-shot job. -/
inductive SequenceCall : Type where
  | findOne (queueName : String)
  | save (queSeq : SequenceEntity)
  | updateJob (jobId : JobId) (queueSequence : Nat)

@[reducible] def SequenceCall.Reply : SequenceCall → Type
  | .findOne _ => Option SequenceEntity
  | .save _ | .updateJob _ _ => Unit

abbrev sequenceSignature : Signature := ⟨SequenceCall, SequenceCall.Reply⟩

namespace SequenceTable

def empty : SequenceTable := { rows := [], drawn := 0, queueSequences := [] }

def ofQueue (queueName : String) (table : SequenceTable) : List SequenceEntity :=
  table.rows.filter fun row => row.queueName = queueName

/-- `save` inserts an entity without an id, and updates the row of one with an id. -/
def save (table : SequenceTable) (queSeq : SequenceEntity) : SequenceTable :=
  match queSeq.id with
  | none => { table with rows := table.rows ++ [{ queSeq with id := some table.drawn }], drawn := table.drawn + 1 }
  | some _ => { table with rows := table.rows.map fun row => if row.id = queSeq.id then queSeq else row }

/-- No call fails. Of several rows `findOne` may return any; `pick` says which. -/
def serve (pick : Nat) : Handler sequenceSignature Err SequenceTable
  | table, .findOne queueName =>
    (.ok (table.ofQueue queueName)[pick % (table.ofQueue queueName).length]?, table)
  | table, .save queSeq => (.ok (), table.save queSeq)
  | table, .updateJob jobId queueSequence =>
    (.ok (), { table with queueSequences := table.queueSequences ++ [(jobId, queueSequence)] })

end SequenceTable

abbrev SequenceProgram := Program sequenceSignature Err

namespace QueueSeqRepo

def findOne (queueName : String) : SequenceProgram (Option SequenceEntity) :=
  Program.await (S := sequenceSignature) (.findOne queueName)

def save (queSeq : SequenceEntity) : SequenceProgram Unit := Program.await (S := sequenceSignature) (.save queSeq)

def updateJob (jobId : JobId) (queueSequence : Nat) : SequenceProgram Unit :=
  Program.await (S := sequenceSignature) (.updateJob jobId queueSequence)

end QueueSeqRepo

/-- The section "sequence tracking" of `execute` for a one-shot job; its value is `sequenceNumber`. -/
def sequenceStep (job : BullJob) : SequenceProgram Nat := do
  let found ← QueueSeqRepo.findOne job.queueName
  let queSeq : SequenceEntity := found.getD { id := none, queueName := job.queueName, lastSequence := 0 }
  let queSeq := { queSeq with lastSequence := queSeq.lastSequence + 1 }
  QueueSeqRepo.save queSeq
  QueueSeqRepo.updateJob job.data.jobId queSeq.lastSequence
  return queSeq.lastSequence

end OrchestrateModel
