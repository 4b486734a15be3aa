import Orchestrate.Effect.Interleave
import Orchestrate.Effect.Machine
import Orchestrate.Model.Sequence

namespace OrchestrateModel

open Effect Program BaseProcessor

/-- An execution of a one-shot job at its sequence step. -/
structure Execution where
  job : BullJob
  code : SequenceProgram Nat

namespace Execution

/-- `sequenceNumber`, as soon as it is set. -/
def number (x : Execution) : Option Nat :=
  match x.code with
  | .call (.save queSeq) _ => some queSeq.lastSequence
  | .call (.updateJob _ queueSequence) _ => some queueSequence
  | .done sequenceNumber => some sequenceNumber
  | _ => none

/-- The row has been read, and is not yet saved. -/
def saving (x : Execution) : Bool :=
  match x.code with
  | .call (.save _) _ => true
  | _ => false

def saved (x : Execution) : Bool := x.number.isSome && !x.saving

def reading (x : Execution) : Bool :=
  match x.code with
  | .call (.findOne _) _ => true
  | _ => false

def ended (x : Execution) : Bool :=
  match x.code with
  | .done _ => true
  | _ => false

def of (queueName : String) (x : Execution) : Bool := x.job.queueName = queueName

end Execution

/-- Executions of the sequence step, a repository call at a time. -/
structure Numbering where
  table : SequenceTable
  executions : List Execution

inductive NumberingEvent : Type where
  | start (job : BullJob)
  | advance (i pick : Nat)

namespace Numbering

def empty : Numbering := { table := .empty, executions := [] }

def step (s : Numbering) : NumberingEvent → Option Numbering
  | .start job =>
    if isRecurring job then none else some { s with executions := s.executions ++ [⟨job, sequenceStep job⟩] }
  | .advance i pick =>
    s.executions[i]?.bind fun x => (x.code.turn (SequenceTable.serve pick) s.table).map fun result =>
      { table := result.2, executions := s.executions.set i { x with code := result.1 } }

/-- The executions of a queue's jobs. -/
def ofQueue (queueName : String) (s : Numbering) : List Execution := s.executions.filter (·.of queueName)

/-- The numbers that the executions of a queue have obtained. -/
def numbers (queueName : String) (s : Numbering) : List Nat := (s.ofQueue queueName).filterMap (·.number)

/-- The numbers are distinct; when all executions have ended they are `1..m`, and the queue has one row, at `m`. -/
structure GapFree (s : Numbering) (queueName : String) : Prop where
  distinct : (s.numbers queueName).Nodup
  complete : (s.ofQueue queueName).all (·.ended) → s.ofQueue queueName ≠ [] →
    (s.numbers queueName).Perm (List.range' 1 (s.ofQueue queueName).length) ∧
      (s.table.ofQueue queueName).map (·.lastSequence) = [(s.ofQueue queueName).length]

/-- The row is read only while no other execution of the queue is between its read and its save. -/
def Exclusive (s : Numbering) : NumberingEvent → Prop
  | .start _ => True
  | .advance i _ => ∀ x ∈ s.executions[i]?, x.reading → ∀ y ∈ s.executions, y.saving → ¬ y.of x.job.queueName

end Numbering

def numbering : Machine Numbering NumberingEvent := ⟨Numbering.step⟩

/-- What follows the read. -/
def saveStep (job : BullJob) (queSeq : SequenceEntity) : SequenceProgram Nat :=
  (QueueSeqRepo.save queSeq).bind fun _ =>
    (QueueSeqRepo.updateJob job.data.jobId queSeq.lastSequence).bind fun _ => .done queSeq.lastSequence

def updateStep (job : BullJob) (sequenceNumber : Nat) : SequenceProgram Nat :=
  (QueueSeqRepo.updateJob job.data.jobId sequenceNumber).bind fun _ => .done sequenceNumber

/-- The entity that is saved after the read. -/
def incremented (queueName : String) (found : Option SequenceEntity) : SequenceEntity :=
  let queSeq := found.getD { id := none, queueName := queueName, lastSequence := 0 }
  { queSeq with lastSequence := queSeq.lastSequence + 1 }

/-- The places at which an execution can be. -/
inductive SequenceStage (job : BullJob) : SequenceProgram Nat → Prop where
  | reading : SequenceStage job (sequenceStep job)
  | saving (queSeq : SequenceEntity) : SequenceStage job (saveStep job queSeq)
  | updating (sequenceNumber : Nat) : SequenceStage job (updateStep job sequenceNumber)
  | ended (sequenceNumber : Nat) : SequenceStage job (.done sequenceNumber)

namespace SequenceTable

variable {table : SequenceTable} {queSeq row : SequenceEntity} {n : Nat} {queueName : String}

/-- Rows are told apart by ids that were drawn. -/
structure Keyed (table : SequenceTable) : Prop where
  distinct : ∀ a ∈ table.rows, ∀ b ∈ table.rows, a.id = b.id → a.queueName = b.queueName
  drawn : ∀ a ∈ table.rows, ∃ id < table.drawn, a.id = some id

theorem mem_ofQueue : row ∈ table.ofQueue queueName ↔ row ∈ table.rows ∧ row.queueName = queueName := by
  simp [ofQueue]

/-- The row that is saved in the place of another one. -/
def replace (row : SequenceEntity) (n : Nat) (other : SequenceEntity) : SequenceEntity :=
  if other.id = row.id then { row with lastSequence := n } else other

theorem rows_insert (fresh : queSeq.id = none) : table.save queSeq =
    { table with rows := table.rows ++ [{ queSeq with id := some table.drawn }], drawn := table.drawn + 1 } := by
  rw [save, fresh]

theorem Keyed.rows_update (keyed : table.Keyed) (member : row ∈ table.rows) :
    table.save { row with lastSequence := n } = { table with rows := table.rows.map (replace row n) } := by
  obtain ⟨id, _, named⟩ := keyed.drawn row member
  unfold save replace
  simp only [named]

theorem Keyed.replace_alike (keyed : table.Keyed) (member : row ∈ table.rows) {other : SequenceEntity}
    (memberOther : other ∈ table.rows) :
    (replace row n other).id = other.id ∧ (replace row n other).queueName = other.queueName := by
  unfold replace
  split
  · next same => exact ⟨same.symm, keyed.distinct row member other memberOther same.symm⟩
  · exact ⟨rfl, rfl⟩

theorem Keyed.insert (keyed : table.Keyed) (fresh : queSeq.id = none) : (table.save queSeq).Keyed := by
  rw [rows_insert fresh]
  have unused (a : SequenceEntity) (member : a ∈ table.rows) : a.id ≠ some table.drawn := by
    obtain ⟨id, below, named⟩ := keyed.drawn a member
    rw [named]
    exact fun same => absurd (Option.some.inj same) (Nat.ne_of_lt below)
  constructor
  · intro a memberA b memberB same
    rcases List.mem_append.mp memberA with oldA | newA
    · rcases List.mem_append.mp memberB with oldB | newB
      · exact keyed.distinct a oldA b oldB same
      · obtain rfl := List.mem_singleton.mp newB
        exact absurd same (unused a oldA)
    · obtain rfl := List.mem_singleton.mp newA
      rcases List.mem_append.mp memberB with oldB | newB
      · exact absurd same.symm (unused b oldB)
      · obtain rfl := List.mem_singleton.mp newB
        rfl
  · intro a member
    rcases List.mem_append.mp member with old | new
    · obtain ⟨id, below, named⟩ := keyed.drawn a old
      exact ⟨id, Nat.lt_succ_of_lt below, named⟩
    · obtain rfl := List.mem_singleton.mp new
      exact ⟨table.drawn, Nat.lt_succ_self _, rfl⟩

theorem Keyed.update (keyed : table.Keyed) (member : row ∈ table.rows) :
    (table.save { row with lastSequence := n }).Keyed := by
  rw [keyed.rows_update member]
  constructor
  · intro a memberA b memberB same
    obtain ⟨a', oldA, rfl⟩ := List.mem_map.mp memberA
    obtain ⟨b', oldB, rfl⟩ := List.mem_map.mp memberB
    have alikeA := keyed.replace_alike (n := n) member oldA
    have alikeB := keyed.replace_alike (n := n) member oldB
    rw [alikeA.1, alikeB.1] at same
    rw [alikeA.2, alikeB.2]
    exact keyed.distinct a' oldA b' oldB same
  · intro a memberA
    obtain ⟨a', oldA, rfl⟩ := List.mem_map.mp memberA
    rw [(keyed.replace_alike member oldA).1]
    exact keyed.drawn a' oldA

theorem ofQueue_insert (fresh : queSeq.id = none) (queueName : String) : (table.save queSeq).ofQueue queueName =
    table.ofQueue queueName ++
      if queSeq.queueName = queueName then [{ queSeq with id := some table.drawn }] else [] := by
  rw [rows_insert fresh, ofQueue, List.filter_append, ofQueue, List.filter_singleton]
  simp only [Bool.cond_decide]

theorem Keyed.ofQueue_update (keyed : table.Keyed) (member : row ∈ table.rows) (queueName : String) :
    (table.save { row with lastSequence := n }).ofQueue queueName = (table.ofQueue queueName).map (replace row n) := by
  rw [keyed.rows_update member, ofQueue, List.filter_map, ofQueue]
  congr 1
  apply List.filter_congr
  intro other memberOther
  show decide ((replace row n other).queueName = queueName) = _
  rw [(keyed.replace_alike member memberOther).2]

/-- A queue that has at most one row has one after the save, and no other queue is affected. -/
theorem Keyed.save_incremented (keyed : table.Keyed) (single : (table.ofQueue queueName).length ≤ 1)
    (entity : queSeq = incremented queueName (table.ofQueue queueName).head?) :
    (table.save queSeq).Keyed ∧
      (∀ other, other ≠ queueName → (table.save queSeq).ofQueue other = table.ofQueue other) ∧
      ((table.save queSeq).ofQueue queueName).map (fun row => (row.queueName, row.lastSequence)) =
        [(queueName, queSeq.lastSequence)] := by
  cases rows : table.ofQueue queueName with
  | nil =>
    rw [rows] at entity
    have fresh : queSeq.id = none := by rw [entity]; rfl
    have named : queSeq.queueName = queueName := by rw [entity]; rfl
    refine ⟨keyed.insert fresh, fun other differs => ?_, ?_⟩
    · rw [ofQueue_insert fresh, if_neg (fun same => differs (same.symm.trans named)), List.append_nil]
    · rw [ofQueue_insert fresh, if_pos named, rows, ← named]
      rfl
  | cons row rest =>
    rw [rows] at entity single
    obtain rfl : rest = [] := List.length_eq_zero_iff.mp (Nat.le_zero.mp (Nat.le_of_succ_le_succ single))
    obtain ⟨member, named⟩ := mem_ofQueue.mp (rows ▸ List.mem_singleton_self row)
    have entity : queSeq = { row with lastSequence := row.lastSequence + 1 } := entity
    subst entity
    refine ⟨keyed.update member, fun other differs => ?_, ?_⟩
    · rw [keyed.ofQueue_update member]
      have same : (table.ofQueue other).map (replace row (row.lastSequence + 1)) = (table.ofQueue other).map id := by
        apply List.map_congr_left
        intro a memberA
        obtain ⟨inTable, namedA⟩ := mem_ofQueue.mp memberA
        have apart : a.id ≠ row.id := fun same =>
          differs (namedA.symm.trans ((keyed.distinct a inTable row member same).trans named))
        exact if_neg apart
      rw [same, List.map_id]
    · rw [keyed.ofQueue_update member, rows]
      show [((replace row _ row).queueName, (replace row _ row).lastSequence)] = _
      rw [replace, if_pos rfl, ← named]

end SequenceTable

namespace Numbering

variable {s s' : Numbering} {queueName : String} {e : NumberingEvent} {visited : List (Numbering × NumberingEvent)}

/-- How many executions of a queue are at places of one kind. -/
def tally (queueName : String) (p : Execution → Bool) (s : Numbering) : Nat :=
  s.executions.countP fun x => x.of queueName && p x

/-- The executions of a queue between their read and their save, those past it, and those with a number. -/
def saving (queueName : String) (s : Numbering) : Nat := s.tally queueName (·.saving)

def saved (queueName : String) (s : Numbering) : Nat := s.tally queueName (·.saved)

def holders (queueName : String) (n : Nat) (s : Numbering) : Nat := s.tally queueName fun x => x.number = some n

/-- The row of a queue counts the saves; at most one execution is about to save, and it saves the next number. -/
structure Balance (s : Numbering) (queueName : String) : Prop where
  single : s.saving queueName ≤ 1
  numbered : ∀ n, s.holders queueName n = if 1 ≤ n ∧ n ≤ s.saved queueName + s.saving queueName then 1 else 0
  rows : (s.table.ofQueue queueName).map (fun row => (row.queueName, row.lastSequence)) =
    if s.saved queueName = 0 then [] else [(queueName, s.saved queueName)]
  entity : ∀ x ∈ s.executions, x.of queueName → ∀ queSeq, x.code = saveStep x.job queSeq →
    queSeq = incremented queueName (s.table.ofQueue queueName).head?

structure Consistent (s : Numbering) : Prop where
  stages : ∀ x ∈ s.executions, SequenceStage x.job x.code
  keyed : s.table.Keyed
  balance : ∀ queueName, s.Balance queueName

theorem countP_ofQueue (s : Numbering) (queueName : String) (p : Execution → Bool) :
    (s.ofQueue queueName).countP p = s.tally queueName p := by
  rw [ofQueue, List.countP_filter, tally]
  apply List.countP_congr
  intro x _
  rw [Bool.and_comm]

theorem count_numbers (s : Numbering) (queueName : String) (n : Nat) :
    (s.numbers queueName).count n = s.holders queueName n := by
  rw [numbers, List.count_filterMap, holders, ← countP_ofQueue]
  apply List.countP_congr
  intro x _
  simp

theorem Consistent.gapFree (consistent : s.Consistent) (queueName : String) : s.GapFree queueName := by
  have balance := consistent.balance queueName
  have distinct : (s.numbers queueName).Nodup := by
    rw [List.nodup_iff_count_le_one]
    intro n
    rw [count_numbers, balance.numbered]
    split <;> omega
  refine ⟨distinct, fun ended present => ?_⟩
  have past (x : Execution) (member : x ∈ s.ofQueue queueName) : x.saving = false ∧ x.number.isSome = true := by
    have done := List.all_eq_true.mp ended x member
    obtain ⟨job, code⟩ := x
    cases code with
    | done sequenceNumber => exact ⟨rfl, rfl⟩
    | _ => simp [Execution.ended] at done
  have idle : s.saving queueName = 0 := by
    rw [saving, ← countP_ofQueue, List.countP_eq_zero]
    intro x member
    rw [(past x member).1]
    exact Bool.false_ne_true
  have all : s.saved queueName = (s.ofQueue queueName).length := by
    rw [saved, ← countP_ofQueue, List.countP_eq_length]
    intro x member
    obtain ⟨notSaving, numbered⟩ := past x member
    rw [Execution.saved, notSaving, numbered]
    rfl
  have some_ : (s.ofQueue queueName).length ≠ 0 := fun none_ => present (List.length_eq_zero_iff.mp none_)
  constructor
  · rw [List.perm_ext_iff_of_nodup distinct List.nodup_range']
    intro n
    rw [← List.count_pos_iff, count_numbers, balance.numbered, idle, all, List.mem_range'_1]
    split <;> omega
  · have rows := congrArg (List.map Prod.snd) balance.rows
    rw [List.map_map, all, if_neg some_] at rows
    exact rows

theorem consistent_empty : empty.Consistent := by
  refine ⟨fun x member => (List.not_mem_nil member).elim, ⟨fun a member => (List.not_mem_nil member).elim,
    fun a member => (List.not_mem_nil member).elim⟩, fun queueName => ?_⟩
  refine ⟨Nat.zero_le 1, fun n => ?_, rfl, fun x member => (List.not_mem_nil member).elim⟩
  show 0 = if 1 ≤ n ∧ n ≤ 0 then 1 else 0
  rw [if_neg (by omega)]

theorem tally_start (s : Numbering) (queueName : String) (p : Execution → Bool) {x : Execution} (skipped : p x = false) :
    tally queueName p { s with executions := s.executions ++ [x] } = s.tally queueName p := by
  rw [tally, List.countP_append, List.countP_singleton, skipped, Bool.and_false]
  rfl

/-- An execution that is only beginning does not count. -/
theorem Consistent.start (consistent : s.Consistent) (job : BullJob) :
    Consistent { s with executions := s.executions ++ [⟨job, sequenceStep job⟩] } := by
  refine ⟨?_, consistent.keyed, fun queueName => ?_⟩
  · intro x member
    rcases List.mem_append.mp member with old | new
    · exact consistent.stages x old
    · obtain rfl := List.mem_singleton.mp new
      exact .reading
  have balance := consistent.balance queueName
  constructor
  · rw [saving, tally_start s queueName _ rfl]
    exact balance.single
  · intro n
    rw [holders, saved, saving, tally_start s queueName _ rfl, tally_start s queueName _ rfl,
      tally_start s queueName _ rfl]
    exact balance.numbered n
  · rw [saved, tally_start s queueName _ rfl]
    exact balance.rows
  · intro x member own queSeq code
    rcases List.mem_append.mp member with old | new
    · exact balance.entity x old own queSeq code
    · obtain rfl := List.mem_singleton.mp new
      cases code

section Advance

variable {table : SequenceTable} {i : Nat} {x : Execution} {code : SequenceProgram Nat} (at_i : s.executions[i]? = some x)

/-- One execution moves on. -/
def moveOn (s : Numbering) (table : SequenceTable) (i : Nat) (x : Execution) (code : SequenceProgram Nat) : Numbering :=
  { table := table, executions := s.executions.set i { x with code := code } }

omit at_i in
theorem mem_moveOn {y : Execution} (member : y ∈ (s.moveOn table i x code).executions) :
    y = { x with code := code } ∨ y ∈ s.executions := by
  rcases List.mem_or_eq_of_mem_set member with old | new
  · exact .inr old
  · exact .inl new

include at_i

theorem tally_moveOn (table : SequenceTable) (code : SequenceProgram Nat) (queueName : String) (p : Execution → Bool) :
    (s.moveOn table i x code).tally queueName p + (if x.of queueName && p x then 1 else 0) =
      s.tally queueName p + if x.of queueName && p { x with code := code } then 1 else 0 :=
  countP_set (fun y : Execution => y.of queueName && p y) at_i { x with code := code }

/-- What the executions of another queue see. -/
theorem Balance.frame (balance : s.Balance queueName) (foreign : x.of queueName = false)
    (same : table.ofQueue queueName = s.table.ofQueue queueName) : (s.moveOn table i x code).Balance queueName := by
  have unchanged (p : Execution → Bool) : (s.moveOn table i x code).tally queueName p = s.tally queueName p := by
    have tallied := tally_moveOn at_i table code queueName p
    rw [foreign, Bool.false_and, Bool.false_and, if_neg Bool.false_ne_true] at tallied
    exact tallied
  constructor
  · rw [saving, unchanged]
    exact balance.single
  · intro n
    rw [holders, saved, saving, unchanged, unchanged, unchanged]
    exact balance.numbered n
  · rw [saved, unchanged]
    show (table.ofQueue queueName).map _ = _
    rw [same]
    exact balance.rows
  · intro y member own queSeq code_
    show queSeq = incremented queueName (table.ofQueue queueName).head?
    rw [same]
    rcases mem_moveOn member with rfl | old
    · rw [show x.of queueName = true from own] at foreign
      cases foreign
    · exact balance.entity y old own queSeq code_

omit at_i in
/-- The next number of a queue. -/
theorem Balance.next (balance : s.Balance queueName) :
    (incremented queueName (s.table.ofQueue queueName).head?).lastSequence = s.saved queueName + 1 := by
  have rows := balance.rows
  cases found : s.table.ofQueue queueName with
  | nil =>
    rw [found] at rows
    split at rows
    · next none_ =>
      rw [none_]
      rfl
    · cases rows
  | cons row rest =>
    rw [found] at rows
    split at rows
    · cases rows
    · have first := (List.cons.inj rows).1
      have number := congrArg Prod.snd first
      show row.lastSequence + 1 = _
      rw [show row.lastSequence = s.saved queueName from number]

omit at_i in
theorem Balance.single_row (balance : s.Balance queueName) : (s.table.ofQueue queueName).length ≤ 1 := by
  have lengths := congrArg List.length balance.rows
  rw [List.length_map] at lengths
  rw [lengths]
  split
  · exact Nat.zero_le 1
  · exact Nat.le_refl 1

omit at_i in
/-- Whichever row is read, it is the only one. -/
theorem Balance.found (balance : s.Balance queueName) (pick : Nat) :
    (s.table.ofQueue queueName)[pick % (s.table.ofQueue queueName).length]? = (s.table.ofQueue queueName).head? := by
  have short := balance.single_row
  cases rows : s.table.ofQueue queueName with
  | nil => rfl
  | cons row rest =>
    rw [rows, List.length_cons] at short
    obtain rfl : rest = [] := List.length_eq_zero_iff.mp (by omega)
    rw [List.length_singleton, Nat.mod_one]
    rfl

theorem Balance.read (balance : s.Balance queueName) (own : x.of queueName = true) (reads : x.code = sequenceStep x.job)
    (idle : s.saving queueName = 0) :
    (s.moveOn s.table i x
      (saveStep x.job (incremented queueName (s.table.ofQueue queueName).head?))).Balance queueName := by
  have was : x.saving = false ∧ x.number = none := by
    rw [Execution.saving, Execution.number, reads]
    exact ⟨rfl, rfl⟩
  have next := balance.next
  generalize entity : incremented queueName (s.table.ofQueue queueName).head? = queSeq at next
  have savings : (s.moveOn s.table i x (saveStep x.job queSeq)).saving queueName = 1 := by
    have tallied := tally_moveOn at_i s.table (saveStep x.job queSeq) queueName (·.saving)
    rw [own, was.1] at tallied
    rw [saving] at idle
    rw [idle] at tallied
    exact tallied
  have saves : (s.moveOn s.table i x (saveStep x.job queSeq)).saved queueName = s.saved queueName := by
    have tallied := tally_moveOn at_i s.table (saveStep x.job queSeq) queueName (·.saved)
    rw [own, Execution.saved, was.2] at tallied
    exact tallied
  constructor
  · rw [savings]
  · intro n
    have tallied := tally_moveOn at_i s.table (saveStep x.job queSeq) queueName
      fun y => y.number = some n
    have before := balance.numbered n
    rw [own, was.2] at tallied
    rw [idle] at before
    have number : Execution.number { x with code := saveStep x.job queSeq } = some (s.saved queueName + 1) :=
      congrArg some next
    rw [number] at tallied
    rw [holders] at before
    rw [savings, saves, holders]
    simp only [reduceCtorEq, decide_false, Bool.and_false, Bool.true_and, Bool.false_eq_true, if_false, Nat.add_zero,
      decide_eq_true_eq, Option.some.injEq] at tallied
    rw [tallied, before]
    split <;> split <;> split <;> omega
  · rw [saves]
    exact balance.rows
  · intro y member ownY queSeq' code_
    rcases mem_moveOn member with rfl | old
    · have same : saveStep x.job queSeq = saveStep x.job queSeq' := code_
      have calls := (Program.call.inj same).1
      show queSeq' = incremented queueName (s.table.ofQueue queueName).head?
      rw [entity]
      exact (SequenceCall.save.inj calls).symm
    · exact balance.entity y old ownY queSeq' code_

theorem Balance.update (balance : s.Balance queueName) {n : Nat} (updates : x.code = updateStep x.job n)
    (same : table.rows = s.table.rows) : (s.moveOn table i x (.done n)).Balance queueName := by
  have unchanged (p : Execution → Bool) (alike : p x = p { x with code := .done n }) :
      (s.moveOn table i x (.done n)).tally queueName p = s.tally queueName p := by
    have tallied := tally_moveOn at_i table (.done n) queueName p
    rw [alike] at tallied
    omega
  have was : x.saving = false ∧ x.number = some n := by
    rw [Execution.saving, Execution.number, updates]
    exact ⟨rfl, rfl⟩
  have sameSaving := unchanged (·.saving) was.1
  have sameSaved := unchanged (·.saved) (by rw [Execution.saved, was.1, was.2]; rfl)
  have sameRows : table.ofQueue queueName = s.table.ofQueue queueName := by
    rw [SequenceTable.ofQueue, same, SequenceTable.ofQueue]
  constructor
  · rw [saving, sameSaving]
    exact balance.single
  · intro m
    have sameHolders := unchanged (fun y => y.number = some m) (by rw [was.2]; rfl)
    rw [holders, saved, saving, sameHolders, sameSaved, sameSaving]
    exact balance.numbered m
  · rw [saved, sameSaved]
    show (table.ofQueue queueName).map _ = _
    rw [sameRows]
    exact balance.rows
  · intro y member own queSeq code_
    show queSeq = incremented queueName (table.ofQueue queueName).head?
    rw [sameRows]
    rcases mem_moveOn member with rfl | old
    · cases code_
    · exact balance.entity y old own queSeq code_

theorem Balance.save (balance : s.Balance queueName) (own : x.of queueName = true) {queSeq : SequenceEntity}
    (saves : x.code = saveStep x.job queSeq)
    (rows : ((s.table.save queSeq).ofQueue queueName).map (fun row => (row.queueName, row.lastSequence)) =
      [(queueName, queSeq.lastSequence)]) :
    (s.moveOn (s.table.save queSeq) i x (updateStep x.job queSeq.lastSequence)).Balance queueName := by
  have member : x ∈ s.executions := List.mem_of_getElem? at_i
  have entity := balance.entity x member own queSeq saves
  have next : queSeq.lastSequence = s.saved queueName + 1 := entity ▸ balance.next
  have was : x.saving = true ∧ x.number = some queSeq.lastSequence := by
    rw [Execution.saving, Execution.number, saves]
    exact ⟨rfl, rfl⟩
  have tallied := tally_moveOn at_i (s.table.save queSeq) (updateStep x.job queSeq.lastSequence) queueName
  have savings : (s.moveOn (s.table.save queSeq) i x (updateStep x.job queSeq.lastSequence)).saving queueName + 1 =
      s.saving queueName := by
    have moved := tallied (·.saving)
    rw [own, was.1] at moved
    exact moved
  have saved_ : (s.moveOn (s.table.save queSeq) i x (updateStep x.job queSeq.lastSequence)).saved queueName =
      s.saved queueName + 1 := by
    have moved := tallied (·.saved)
    rw [own, Execution.saved, was.1, was.2] at moved
    exact moved
  have single := balance.single
  constructor
  · omega
  · intro n
    have moved := tallied fun y => y.number = some n
    rw [own, was.2, show Execution.number { x with code := updateStep x.job queSeq.lastSequence } =
      some queSeq.lastSequence from rfl] at moved
    have before := balance.numbered n
    rw [holders] at before ⊢
    have total : (s.moveOn (s.table.save queSeq) i x (updateStep x.job queSeq.lastSequence)).saved queueName +
        (s.moveOn (s.table.save queSeq) i x (updateStep x.job queSeq.lastSequence)).saving queueName =
          s.saved queueName + s.saving queueName := by
      omega
    rw [Nat.add_right_cancel moved, before, total]
  · rw [saved_, if_neg (Nat.succ_ne_zero _), ← next]
    exact rows
  · intro y memberY ownY queSeq' code_
    have idle : (s.moveOn (s.table.save queSeq) i x (updateStep x.job queSeq.lastSequence)).saving queueName = 0 := by
      omega
    have none_ : ¬ (y.of queueName && y.saving) = true := List.countP_eq_zero.mp idle y memberY
    rw [ownY, Execution.saving, code_] at none_
    exact absurd rfl none_

end Advance

/-- What an advance does, by the place of the execution. -/
theorem advance_cases (consistent : s.Consistent) {i pick : Nat} (moved : s.step (.advance i pick) = some s') :
    ∃ x, s.executions[i]? = some x ∧
      ((x.code = sequenceStep x.job ∧ s' = s.moveOn s.table i x
          (saveStep x.job (incremented x.job.queueName (s.table.ofQueue x.job.queueName).head?))) ∨
        (∃ queSeq, x.code = saveStep x.job queSeq ∧
          s' = s.moveOn (s.table.save queSeq) i x (updateStep x.job queSeq.lastSequence)) ∨
        ∃ n table, x.code = updateStep x.job n ∧ table.rows = s.table.rows ∧ table.drawn = s.table.drawn ∧
          s' = s.moveOn table i x (.done n)) := by
  obtain ⟨x, at_i, turned⟩ := Option.bind_eq_some_iff.mp moved
  refine ⟨x, at_i, ?_⟩
  obtain ⟨job, code⟩ := x
  have stage : SequenceStage job code := consistent.stages _ (List.mem_of_getElem? at_i)
  have balance := consistent.balance job.queueName
  cases stage with
  | reading =>
    have table : s' = s.moveOn s.table i ⟨job, sequenceStep job⟩ (saveStep job (incremented job.queueName
        (s.table.ofQueue job.queueName)[pick % (s.table.ofQueue job.queueName).length]?)) := (Option.some.inj turned).symm
    rw [balance.found pick] at table
    exact .inl ⟨rfl, table⟩
  | saving queSeq => exact .inr (.inl ⟨queSeq, rfl, (Option.some.inj turned).symm⟩)
  | updating n =>
    refine .inr (.inr ⟨n, { s.table with queueSequences := s.table.queueSequences ++ [(job.data.jobId, n)] },
      rfl, rfl, rfl, ?_⟩)
    exact (Option.some.inj turned).symm
  | ended n => cases turned

theorem saving_zero (exclusive : ∀ y ∈ s.executions, y.saving → ¬ y.of queueName) : s.saving queueName = 0 := by
  rw [saving, tally, List.countP_eq_zero]
  intro y member both
  obtain ⟨own, savingY⟩ := Bool.and_eq_true_iff.mp both
  exact exclusive y member savingY own

/-- The step lemma: while reads are exclusive, each queue stays counted by its row. -/
theorem Consistent.step (consistent : s.Consistent) (exclusive : s.Exclusive e) (moved : s.step e = some s') :
    s'.Consistent := by
  cases e with
  | start job =>
    rw [Numbering.step] at moved
    split at moved
    · cases moved
    · obtain rfl := Option.some.inj moved
      exact consistent.start job
  | advance i pick =>
    obtain ⟨x, at_i, here⟩ := advance_cases consistent moved
    have member : x ∈ s.executions := List.mem_of_getElem? at_i
    have own : x.of x.job.queueName = true := decide_eq_true rfl
    have foreign (queueName : String) (differs : queueName ≠ x.job.queueName) : x.of queueName = false :=
      decide_eq_false fun same => differs same.symm
    rcases here with ⟨reads, rfl⟩ | ⟨queSeq, saves, rfl⟩ | ⟨n, table, updates, sameRows, sameDrawn, rfl⟩
    · have reading : x.reading = true := by rw [Execution.reading, reads]; rfl
      have idle := saving_zero (exclusive x at_i reading)
      refine ⟨fun y memberY => ?_, consistent.keyed, fun queueName => ?_⟩
      · rcases mem_moveOn memberY with rfl | old
        · exact .saving _
        · exact consistent.stages y old
      · rcases eq_or_ne queueName x.job.queueName with rfl | differs
        · exact (consistent.balance _).read at_i own reads idle
        · exact (consistent.balance queueName).frame at_i (foreign queueName differs) rfl
    · have balance := consistent.balance x.job.queueName
      have entity := balance.entity x member own queSeq saves
      obtain ⟨keyed, others, rows⟩ := consistent.keyed.save_incremented balance.single_row entity
      refine ⟨fun y memberY => ?_, keyed, fun queueName => ?_⟩
      · rcases mem_moveOn memberY with rfl | old
        · exact .updating _
        · exact consistent.stages y old
      · rcases eq_or_ne queueName x.job.queueName with rfl | differs
        · exact balance.save at_i own saves rows
        · exact (consistent.balance queueName).frame at_i (foreign queueName differs) (others queueName differs)
    · refine ⟨fun y memberY => ?_, ?_, fun queueName => (consistent.balance queueName).update at_i updates sameRows⟩
      · rcases mem_moveOn memberY with rfl | old
        · exact .ended _
        · exact consistent.stages y old
      · constructor
        · show ∀ a ∈ table.rows, ∀ b ∈ table.rows, _
          rw [sameRows]
          exact consistent.keyed.distinct
        · show ∀ a ∈ table.rows, ∃ id < table.drawn, _
          rw [sameRows, sameDrawn]
          exact consistent.keyed.drawn

/-- A read that overlaps another execution of the queue obtains the other's number. -/
theorem Consistent.exclusive (consistent : s.Consistent) (moved : s.step e = some s')
    (distinct : ∀ queueName, (s'.numbers queueName).Nodup) : s.Exclusive e := by
  cases e with
  | start job => trivial
  | advance i pick =>
    intro x at_i' reading y member savingY own
    obtain ⟨x, at_i, here⟩ := advance_cases consistent moved
    obtain rfl := Option.some.inj (at_i.symm.trans at_i')
    rcases here with ⟨reads, rfl⟩ | ⟨queSeq, saves, rfl⟩ | ⟨n, table, updates, _, _, rfl⟩
    · have balance := consistent.balance x.job.queueName
      have next := balance.next
      generalize incremented x.job.queueName (s.table.ofQueue x.job.queueName).head? = queSeq at next distinct
      have tallied := tally_moveOn at_i s.table (saveStep x.job queSeq) x.job.queueName
        fun z => z.number = some queSeq.lastSequence
      have was : x.number = none := by rw [Execution.number, reads]; rfl
      have ownX : x.of x.job.queueName = true := decide_eq_true rfl
      rw [ownX, was, show Execution.number { x with code := saveStep x.job queSeq } = some queSeq.lastSequence from rfl]
        at tallied
      have both : 1 ≤ s.saving x.job.queueName :=
        List.countP_pos_iff.mpr ⟨y, member, Bool.and_eq_true_iff.mpr ⟨own, savingY⟩⟩
      have before := balance.numbered queSeq.lastSequence
      rw [if_pos (by omega)] at before
      have twice := List.nodup_iff_count_le_one.mp (distinct x.job.queueName) queSeq.lastSequence
      rw [count_numbers, holders] at twice
      rw [holders] at before
      simp at tallied
      omega
    · rw [Execution.reading, saves] at reading
      cases reading
    · rw [Execution.reading, updates] at reading
      cases reading

/-- The numbers are gap-free throughout a run exactly if no row is read while another execution is about to save it. -/
theorem gapFree_iff (run : numbering.Run empty visited s) :
    ((∀ v ∈ visited, ∀ queueName, v.1.GapFree queueName) ∧ ∀ queueName, s.GapFree queueName) ↔
      Machine.Guarded Exclusive visited := by
  have unguarded : Machine.Guarded (fun _ _ => True) visited := fun _ _ => trivial
  apply run.stays_iff Consistent (fun s => ∀ queueName, s.GapFree queueName) unguarded consistent_empty
    consistent_empty.gapFree
  · intro s e s' consistent _ moved exclusive
    have after := consistent.step exclusive moved
    exact ⟨after, after.gapFree⟩
  · intro s e s' consistent _ moved gapFree
    exact consistent.exclusive moved fun queueName => (gapFree queueName).distinct

/-- The run after the events; `empty` after one that is not possible. -/
def after (events : List NumberingEvent) : Numbering := (numbering.exec empty events).getD empty

def mail (jobId : JobId) : JobQueuePayload :=
  { jobId := jobId, jobType := "send_email", tenantId := "t", queueName := "email-jobs" }

def mailing (jobId : JobId) : BullJob :=
  { data := mail jobId, opts := jobsOptions (mail jobId), attemptsMade := 0, queueName := "email-jobs", timestamp := 0 }

/-- The first two executions of a queue. Both read before either saves. -/
def overlapping : List NumberingEvent :=
  [.start (mailing 1), .start (mailing 2), .advance 0 0, .advance 1 0, .advance 0 0, .advance 1 0, .advance 0 0,
    .advance 1 0]

/-- Both obtain the number 1, and the queue has two rows. -/
theorem overlapping_notGapFree : numbering.Run empty (numbering.trace empty overlapping) (after overlapping) ∧
    (after overlapping).numbers "email-jobs" = [1, 1] ∧
    ((after overlapping).table.ofQueue "email-jobs").map (·.lastSequence) = [1, 1] ∧
    ¬ (after overlapping).GapFree "email-jobs" := by
  have numbers : (after overlapping).numbers "email-jobs" = [1, 1] := by decide +kernel
  refine ⟨Machine.run_of_exec (by rfl), numbers, by decide +kernel, fun gapFree => ?_⟩
  have distinct := gapFree.distinct
  rw [numbers] at distinct
  exact absurd distinct (by decide)

/-- The second one reads after the first one's save. -/
def alternating : List NumberingEvent :=
  [.start (mailing 1), .start (mailing 2), .advance 0 0, .advance 0 0, .advance 1 0, .advance 1 0, .advance 0 0,
    .advance 1 0]

theorem gapFree_alternating : ((∀ v ∈ numbering.trace empty alternating, ∀ queueName, v.1.GapFree queueName) ∧
    ∀ queueName, (after alternating).GapFree queueName) ↔
      Machine.Guarded Exclusive (numbering.trace empty alternating) :=
  gapFree_iff (Machine.run_of_exec (by rfl))

end Numbering
end OrchestrateModel
