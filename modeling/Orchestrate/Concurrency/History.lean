import Orchestrate.Concurrency.Entries
import Orchestrate.Effect.Fault
import Orchestrate.Lifecycle.Standing
import Orchestrate.Model.JobViews

namespace OrchestrateModel

open Effect Program BaseProcessor JobsService

/-- What a worker's call meets: the database's decisions, the cap, how `process` ends and the rows that it changes, and
    whether the call fails. -/
structure Circumstance where
  env : Env
  staged : Bool
  outcome : Except Err (Option String)
  change : Db → Db
  fault : Option (Fault Err)

namespace Circumstance

/-- `process` may change any row but an attempt. -/
def answer (now : Nat) (w : Circumstance) : Handler workerSignature Err (Db × Desk)
  | s, .process _ => (w.outcome, { w.change s.1 with attempts := s.1.attempts }, s.2)
  | s, c => work { w.env with now := now } (Desk.accept w.staged now) w.outcome s c

def meet (now : Nat) (w : Circumstance) : Handler workerSignature Err (Db × Desk) := fun s c =>
  match w.fault with
  | some fault =>
    if c.isAwaited then (.error fault.error, if fault.took then (w.answer now s c).2 else s) else w.answer now s c
  | none => w.answer now s c

/-- The call takes effect, be its reply lost or not. -/
def effective (w : Circumstance) : Bool := w.fault.all (·.took)

end Circumstance

/-- An attempt row as it was inserted, and the BullMQ job that inserted it. -/
structure Record where
  entry : Nat
  jobId : JobId
  attemptNumber : Nat
  startedAt : Nat
  deriving DecidableEq

/-- Requests and attempts over one database and its queues, and who recorded which attempt. -/
structure History where
  db : Db
  desk : Desk
  calls : List RetryingCall
  now : Nat
  records : List Record

inductive HistoryEvent : Type where
  | create (dto : CreateJobDto) (userId : UserId) (tenantId : TenantId)
  | batch (items : List BatchJobItem) (userId : UserId) (tenantId : TenantId)
  | workFlow (items : List WorkFlowItem) (userId : UserId) (tenantId : TenantId)
  | retry (jobId : JobId) (userId : UserId) (tenantId : TenantId)
  | fire (i : Nat)
  | pick (i : Nat)
  | advance (k : Nat) (w : Circumstance)
  | conclude (k : Nat)
  | pass (milliseconds : Nat)

/-- What the call records next. -/
def RetryingCall.record (call : RetryingCall) : List Record :=
  match call.entry, call.rest.awaits with
  | some i, some (.service (.db (.insertAttempt jobId attemptNumber startedAt))) =>
    [{ entry := i, jobId := jobId, attemptNumber := attemptNumber, startedAt := startedAt }]
  | _, _ => []

namespace History

def empty : History := { db := .empty, desk := .empty, calls := [], now := 0, records := [] }

def request {α : Type} (s : History) (program : ServiceProgram α) : History :=
  { s with calls := s.calls ++ [{ rest := (onServices program).bind fun _ => .done () }] }

/-- A repeatable job may be run any number of times, each time as a BullMQ job of its own. -/
def step (s : History) : HistoryEvent → Option History
  | .create dto userId tenantId => some (s.request (createAndEnqueue dto userId tenantId))
  | .batch items userId tenantId => some (s.request (BatchJobService.submitBatch items userId tenantId))
  | .workFlow items userId tenantId => some (s.request (ChainService.createWorkFlow items userId tenantId))
  | .retry jobId userId tenantId => some (s.request (retryFailedJob jobId userId tenantId))
  | .fire i => do
    let entry ← s.desk.entries[i]?
    if entry.payload.isCron then
      let again : Entry := { payload := entry.payload, addedAt := s.now }
      some { s with desk := { s.desk with entries := s.desk.entries ++ [again] } }
    else none
  | .pick i => do
    let entry ← s.desk.entries[i]?
    let queueName ← getQueueName entry.payload.jobType
    if entry.stage = .waiting ∧ ∀ call ∈ s.calls, call.entry ≠ some i then
      some { s with calls := s.calls ++ [{ entry := some i, rest := execute (entry.job queueName) }] }
    else none
  | .advance k w => do
    let call ← s.calls[k]?
    let (rest, db, desk) ← call.rest.turn (w.meet s.now) (s.db, s.desk)
    return { s with
      db := db, desk := desk, calls := s.calls.set k { call with rest := rest }
      records := s.records ++ if w.effective then call.record else [] }
  | .conclude k => do
    let call ← s.calls[k]?
    let i ← call.entry
    let entry ← s.desk.entries[i]?
    let ended ← call.rest.ended
    return { s with desk := s.desk.setEntry i (entry.after ended), calls := s.calls.set k { rest := .done () } }
  | .pass milliseconds => some { s with now := s.now + milliseconds }

/-- The attempts of a row are all recorded by one BullMQ job. -/
def OneRecorder (s : History) : HistoryEvent → Prop
  | .advance k w => w.effective → ∀ call ∈ s.calls[k]?, ∀ new ∈ call.record, ∀ old ∈ s.records,
    old.jobId = new.jobId → old.entry = new.entry
  | _ => True

instance (s : History) : DecidablePred s.OneRecorder
  | .advance k w => inferInstanceAs (Decidable (w.effective → ∀ call ∈ s.calls[k]?, ∀ new ∈ call.record,
      ∀ old ∈ s.records, old.jobId = new.jobId → old.entry = new.entry))
  | .create _ _ _ | .batch _ _ _ | .workFlow _ _ _ | .retry _ _ _ | .fire _ | .pick _ | .conclude _ | .pass _ =>
    .isTrue trivial

end History

def history : Machine History HistoryEvent := ⟨History.step⟩

/-- Distinct numbers, in the order of the starts; the last one is the latest. -/
structure InOrder (attempts : List JobAttempt) : Prop where
  distinct : (attempts.map (·.attemptNumber)).Nodup
  ordered : attempts.Pairwise fun a b => a.startedAt ≤ b.startedAt
  latest : ∀ last ∈ attempts.getLast?, ∀ a ∈ attempts, a.startedAt ≤ last.startedAt

/-- What `getJobById` shows of any job is in order. -/
def Chronological (db : Db) : Prop :=
  ∀ jobId tenantId response, getJobById db jobId tenantId = .ok response →
    ∀ attempts ∈ response.attempts, InOrder attempts

/-- The call inserts no attempt. -/
def WorkerCall.Unrecorded : WorkerCall → Prop
  | .service (.db (.insertAttempt _ _ _)) => False
  | _ => True

theorem WorkerCall.Tends.unrecorded {c : WorkerCall} (tends : c.Tends) : c.Unrecorded := by
  unfold Unrecorded
  split
  · exact tends
  · trivial

section Follows

variable {jobId : JobId} {attemptNumber since limit : Nat} {recorded : Bool} {α : Type} {program : WorkerProgram α}

/-- An attempt is recorded once, with the job's number and a time from `since` to `limit`. -/
def recording (jobId : JobId) (attemptNumber since limit : Nat) (recorded : Bool) : WorkerCall → Option Bool
  | .service (.db (.insertAttempt jobId' number startedAt)) =>
    if recorded = false ∧ jobId' = jobId ∧ number = attemptNumber ∧ since ≤ startedAt ∧ startedAt ≤ limit then some true else none
  | _ => some recorded

/-- The clock says a time from `since` to `limit`. -/
def ClockWithin (since limit : Nat) : (c : WorkerCall) → Except Err c.Reply → Prop
  | .service .now, .ok now => since ≤ now ∧ now ≤ limit
  | _, _ => True

abbrev Records (jobId : JobId) (attemptNumber since limit : Nat) (recorded : Bool) (program : WorkerProgram α) : Prop :=
  program.Follows (ClockWithin since limit) (recording jobId attemptNumber since limit) recorded

theorem recording_unrecorded {c : WorkerCall} (unrecorded : c.Unrecorded) :
    recording jobId attemptNumber since limit recorded c = some recorded := by
  unfold recording
  split
  · exact unrecorded.elim
  · rfl

theorem recording_cases {recorded' : Bool} {c : WorkerCall}
    (allowed : recording jobId attemptNumber since limit recorded c = some recorded') :
    (c.Unrecorded ∧ recorded' = recorded) ∨ ∃ startedAt,
      c = .service (.db (.insertAttempt jobId attemptNumber startedAt)) ∧ recorded = false ∧ recorded' = true ∧
        since ≤ startedAt ∧ startedAt ≤ limit := by
  unfold recording at allowed
  split at allowed
  · split at allowed
    · next conditions =>
      obtain ⟨pending, rfl, rfl, within⟩ := conditions
      exact .inr ⟨_, rfl, pending, (Option.some.inj allowed).symm, within⟩
    · cases allowed
  · next other =>
    refine .inl ⟨?_, (Option.some.inj allowed).symm⟩
    unfold WorkerCall.Unrecorded
    split
    · exact other _ _ _ rfl
    · trivial

theorem records_tending (tends : program.Only WorkerCall.Tends) : Records jobId attemptNumber since limit recorded program :=
  follows_of_only (tends.mono fun _ tends => recording_unrecorded tends.unrecorded)

theorem records_bind {β : Type} (tends : program.Only WorkerCall.Tends) {next : α → WorkerProgram β}
    (rest : ∀ value, Records jobId attemptNumber since limit recorded (next value)) :
    Records jobId attemptNumber since limit recorded (program.bind next) :=
  Follows.bind (tends.mono fun _ tends => recording_unrecorded tends.unrecorded) rest

theorem records_register (job : BullJob) (since limit executeStart now : Nat) (existingJob : Option Job) :
    Records job.data.jobId (job.attemptsMade + 1) since limit false (register job executeStart now existingJob) := by
  have counts {next : WorkerProgram Attempt} (rest : Records job.data.jobId (job.attemptsMade + 1) since limit false next) :
      Records job.data.jobId (job.attemptsMade + 1) since limit false
        (if job.attemptsMade > 0 then (record (.jobRetry job.queueName job.data.jobType)).bind fun _ => next else next) := by
    split
    · exact records_bind (tends_awaitWork (by trivial)) fun _ => rest
    · exact rest
  simp only [register, bind_eq, pure_eq_done]
  apply counts
  apply records_bind (only_onServices (tends_trackSequence job))
  intro sequenceNumber
  rw [clock, onServices_await]
  apply follows_await (S := workerSignature) (c := .service .now) rfl
  intro startedAt within
  rw [query, onServices_await]
  have allowed : recording job.data.jobId (job.attemptsMade + 1) since limit false
      (.service (.db (.insertAttempt job.data.jobId (job.attemptsMade + 1) startedAt))) = some true :=
    if_pos ⟨rfl, rfl, rfl, within⟩
  apply follows_await (S := workerSignature) allowed
  intro attempt _
  have logs (log : JobLog) (attempt : Attempt) : Program.Only WorkerCall.Tends
      ((onServices (query (.insertLog log))).bind fun _ => .done attempt) :=
    (tends_write (by trivial)).bind fun _ => only_done _
  split
  · exact records_bind (tends_write (by trivial)) fun _ => records_tending (logs _ _)
  · exact records_tending (logs _ _)

/-- An execution records one attempt at most, with a start that is not before its own. -/
theorem records_execute (job : BullJob) (since limit : Nat) :
    Records job.data.jobId (job.attemptsMade + 1) since limit false (execute job) := by
  rw [execute_eq]
  apply records_bind (tends_lookup job)
  intro found
  obtain ⟨executeStart, now, existingJob⟩ := found
  dsimp only
  split
  · exact records_tending ((tends_release job).bind fun _ => only_done _)
  · apply Follows.andThen (records_register job since limit executeStart now existingJob)
    intro attempt recorded
    exact records_tending ((tends_awaitWork (by trivial)).capture.bind (tends_afterProcess job attempt))

end Follows

/-- What of an attempt row never changes. -/
def JobAttempt.key (attempt : JobAttempt) : JobId × Nat × Nat := (attempt.jobId, attempt.attemptNumber, attempt.startedAt)

def Record.key (record : Record) : JobId × Nat × Nat := (record.jobId, record.attemptNumber, record.startedAt)

theorem Db.keys_exec {c : DbCall} (unrecorded : WorkerCall.Unrecorded (.service (.db c))) (env : Env) (db : Db) :
    (db.exec env c).2.attempts.map JobAttempt.key = db.attempts.map JobAttempt.key := by
  cases c with
  | insertAttempt => exact unrecorded.elim
  | updateAttempt id status finishedAt errorMessage =>
    simp only [Db.exec, List.map_map]
    apply List.map_congr_left
    intro attempt _
    simp only [Function.comp_apply]
    split <;> rfl
  | insertJob columns =>
    simp only [Db.exec]
    split <;> rfl
  | _ => rfl

/-- Entries are only added. -/
def Desk.Extends (desk desk' : Desk) : Prop := ∃ added, desk'.entries = desk.entries ++ added

theorem Desk.extends_refl (desk : Desk) : desk.Extends desk := ⟨[], (List.append_nil _).symm⟩

theorem Desk.Extends.entry {desk desk' : Desk} (extends_ : desk.Extends desk') {i : Nat} {entry : Entry}
    (at_i : desk.entries[i]? = some entry) : desk'.entries[i]? = some entry := by
  obtain ⟨added, entries⟩ := extends_
  rw [entries, List.getElem?_append_left (List.getElem?_eq_some_iff.mp at_i).1]
  exact at_i

namespace Circumstance

variable {now since limit : Nat} {w : Circumstance} {s : Db × Desk} {c : WorkerCall}

theorem meet_awaited (awaited : c.isAwaited = true) :
    (w.meet now s c).2 = if w.effective then (w.answer now s c).2 else s := by
  unfold meet effective
  cases w.fault with
  | none => rfl
  | some fault =>
    dsimp only
    rw [if_pos awaited]
    rfl

theorem meet_cases (w : Circumstance) (now : Nat) (s : Db × Desk) (c : WorkerCall) :
    (w.meet now s c).2 = s ∨ (w.meet now s c).2 = (w.answer now s c).2 := by
  cases awaited : c.isAwaited with
  | true =>
    rw [meet_awaited awaited]
    cases w.effective with
    | true => exact .inr rfl
    | false => exact .inl rfl
  | false =>
    right
    unfold meet
    cases w.fault with
    | none => rfl
    | some fault => simp [awaited]

theorem clockWithin_meet (earlier : since ≤ now) (later : now ≤ limit) (c : WorkerCall) :
    ClockWithin since limit c (w.meet now s c).1 := by
  cases c with
  | service c =>
    cases c with
    | now =>
      have answered : (w.meet now s (.service .now)).1 = .ok now := by
        unfold meet
        cases w.fault <;> rfl
      rw [answered]
      exact ⟨earlier, later⟩
    | _ => trivial
  | _ => trivial

theorem answer_desk (w : Circumstance) (now : Nat) (s : Db × Desk) (c : WorkerCall) :
    s.2.Extends (w.answer now s c).2.2 := by
  cases c with
  | service c =>
    cases c with
    | submitJob payload =>
      rcases Desk.entries_accept s.2 w.staged now payload with same | added
      · exact ⟨[], same.trans (List.append_nil _).symm⟩
      · exact ⟨_, added⟩
    | _ => exact s.2.extends_refl
  | _ => exact s.2.extends_refl

theorem meet_desk (w : Circumstance) (now : Nat) (s : Db × Desk) (c : WorkerCall) : s.2.Extends (w.meet now s c).2.2 := by
  rcases w.meet_cases now s c with same | same
  · rw [same]
    exact s.2.extends_refl
  · rw [same]
    exact w.answer_desk now s c

theorem answer_keys (unrecorded : c.Unrecorded) :
    (w.answer now s c).2.1.attempts.map JobAttempt.key = s.1.attempts.map JobAttempt.key := by
  cases c with
  | service c =>
    cases c with
    | db c => exact Db.keys_exec unrecorded _ _
    | submitJob payload => rfl
    | randomUUID => rfl
    | now => rfl
  | _ => rfl

end Circumstance

/-- An old entry, or one that was added. -/
theorem Desk.Extends.cases {desk desk' : Desk} (extends_ : desk.Extends desk') {i : Nat} {entry : Entry}
    (at_i : desk'.entries[i]? = some entry) : desk.entries[i]? = some entry ∨ desk.entries.length ≤ i := by
  obtain ⟨added, entries⟩ := extends_
  rcases Nat.lt_or_ge i desk.entries.length with old | new
  · rw [entries, List.getElem?_append_left old] at at_i
    exact .inl at_i
  · exact .inr new

namespace History

variable {s s' : History} {call : RetryingCall} {i k : Nat} {e : HistoryEvent} {visited : List (History × HistoryEvent)}

/-- The attempt of an entry records one row at most; those that its BullMQ job recorded before have smaller numbers and no
    later start. -/
def Attempting (s : History) (i : Nat) (rest : WorkerProgram Unit) : Prop :=
  ∃ entry since recorded, s.desk.entries[i]? = some entry ∧ since ≤ s.now ∧
    (∀ limit, s.now ≤ limit → Records entry.payload.jobId (entry.attemptsMade + 1) since limit recorded rest) ∧
    ∀ r ∈ s.records, r.entry = i →
      if recorded then r.attemptNumber ≤ entry.attemptsMade + 1
      else r.attemptNumber ≤ entry.attemptsMade ∧ r.startedAt ≤ since

/-- A request records nothing. -/
def Proceeds (s : History) (call : RetryingCall) : Prop :=
  (call.entry = none ∧ call.rest.Only WorkerCall.Unrecorded) ∨ ∃ i, call.entry = some i ∧ s.Attempting i call.rest

/-- The records are the rows, each by an entry of the row's job. -/
structure Recorded (s : History) : Prop where
  rows : s.db.attempts.map JobAttempt.key = s.records.map Record.key
  past : ∀ r ∈ s.records, r.startedAt ≤ s.now
  owned : ∀ r ∈ s.records, ∃ entry, s.desk.entries[r.entry]? = some entry ∧ entry.payload.jobId = r.jobId

/-- A BullMQ job is in one attempt at most; when it waits for the next, its records have smaller numbers. -/
structure Attempted (s : History) : Prop where
  proceeds : ∀ call ∈ s.calls, s.Proceeds call
  apart : ∀ (j k : Nat) (a b : RetryingCall) (i : Nat), s.calls[j]? = some a → s.calls[k]? = some b →
    a.entry = some i → b.entry = some i → j = k
  idle : ∀ (i : Nat) (entry : Entry), s.desk.entries[i]? = some entry → entry.stage = .waiting →
    (∀ call ∈ s.calls, call.entry ≠ some i) → ∀ r ∈ s.records, r.entry = i → r.attemptNumber ≤ entry.attemptsMade

/-- The records of each row go up in number and time. -/
def Ascending (records : List Record) : Prop :=
  ∀ jobId, (records.filter (·.jobId = jobId)).Pairwise fun a b =>
    a.attemptNumber < b.attemptNumber ∧ a.startedAt ≤ b.startedAt

structure Sound (s : History) : Prop extends Recorded s, Attempted s where
  ascending : Ascending s.records

theorem Attempted.attempting (attempted : s.Attempted) (at_k : s.calls[k]? = some call) (own : call.entry = some i) :
    s.Attempting i call.rest := by
  rcases attempted.proceeds call (List.mem_of_getElem? at_k) with ⟨none_, _⟩ | ⟨j, own', attempting⟩
  · cases none_.symm.trans own
  · obtain rfl := Option.some.inj (own.symm.trans own')
    exact attempting

theorem Proceeds.kept (proceeds : s.Proceeds call)
    (entries : ∀ i entry, call.entry = some i → s.desk.entries[i]? = some entry → s'.desk.entries[i]? = some entry)
    (later : s.now ≤ s'.now) (records : ∀ r ∈ s'.records, call.entry = some r.entry → r ∈ s.records) :
    s'.Proceeds call := by
  rcases proceeds with request | ⟨i, own, entry, since, recorded, at_i, earlier, follows, bounds⟩
  · exact .inl request
  · refine .inr ⟨i, own, entry, since, recorded, entries i entry own at_i, Nat.le_trans earlier later,
      fun limit within => follows limit (Nat.le_trans later within), fun r member same => ?_⟩
    exact bounds r (records r member (own.trans (congrArg some same.symm))) same

/-- Rows and entries may be added by other calls; no attempt is recorded. -/
theorem Recorded.kept (recorded : s.Recorded) (keys : s'.db.attempts.map JobAttempt.key = s.db.attempts.map JobAttempt.key)
    (entries : ∀ (i : Nat) (entry : Entry), s.desk.entries[i]? = some entry →
      ∃ entry', s'.desk.entries[i]? = some entry' ∧ entry'.payload = entry.payload)
    (later : s.now ≤ s'.now) (same : s'.records = s.records) : s'.Recorded := by
  refine ⟨?_, fun r member => ?_, fun r member => ?_⟩
  · rw [keys, same]
    exact recorded.rows
  · rw [same] at member
    exact Nat.le_trans (recorded.past r member) later
  · rw [same] at member
    obtain ⟨entry, at_i, own⟩ := recorded.owned r member
    obtain ⟨entry', at_i', payload⟩ := entries r.entry entry at_i
    exact ⟨entry', at_i', by rw [payload, own]⟩

/-- An entry that was added has recorded nothing. -/
theorem Recorded.fresh (recorded : s.Recorded) (added : s.desk.entries.length ≤ i) : ∀ r ∈ s.records, r.entry ≠ i := by
  intro r member same
  obtain ⟨entry, at_i, _⟩ := recorded.owned r member
  have bound := (List.getElem?_eq_some_iff.mp at_i).1
  omega

theorem sound_empty : empty.Sound where
  rows := rfl
  past r member := (List.not_mem_nil member).elim
  owned r member := (List.not_mem_nil member).elim
  proceeds call member := (List.not_mem_nil member).elim
  apart j k a b i at_j := by cases at_j
  idle i entry at_i := by cases at_i
  ascending jobId := .nil

/-- A request, or an attempt, that begins. -/
theorem Sound.begins (sound : s.Sound) (proceeds : s.Proceeds call) (own : ∀ i, call.entry = some i →
    ∀ other ∈ s.calls, other.entry ≠ some i) : Sound { s with calls := s.calls ++ [call] } := by
  refine ⟨⟨sound.rows, sound.past, sound.owned⟩, ⟨fun other member => ?_, fun j k a b i at_j at_k first second => ?_,
    fun i entry at_i waiting free r member => ?_⟩, sound.ascending⟩
  · rcases List.mem_append.mp member with old | new
    · exact sound.proceeds other old
    · obtain rfl := List.mem_singleton.mp new
      exact proceeds
  · have last {j : Nat} {a : RetryingCall} (at_j : (s.calls ++ [call])[j]? = some a) :
        s.calls[j]? = some a ∨ j = s.calls.length ∧ a = call := by
      rw [List.getElem?_append] at at_j
      split at at_j
      · exact .inl at_j
      · obtain ⟨here, same⟩ := List.getElem?_eq_some_iff.mp at_j
        simp only [List.length_singleton] at here
        refine .inr ⟨by omega, ?_⟩
        simpa using same.symm
    rcases last at_j with old | ⟨here, rfl⟩
    · rcases last at_k with old' | ⟨_, rfl⟩
      · exact sound.apart j k a b i old old' first second
      · exact absurd first (own i second a (List.mem_of_getElem? old))
    · rcases last at_k with old' | ⟨here', _⟩
      · exact absurd second (own i first b (List.mem_of_getElem? old'))
      · rw [here, here']
  · exact sound.idle i entry at_i waiting (fun other old => free other (List.mem_append_left _ old)) r member

/-- The clock goes on, and entries are added. -/
theorem Sound.extends (sound : s.Sound) {desk : Desk} (ext : s.desk.Extends desk) {now : Nat} (later : s.now ≤ now) :
    Sound { s with desk := desk, now := now } := by
  have recorded : Recorded { s with desk := desk, now := now } :=
    sound.toRecorded.kept rfl (fun i entry at_i => ⟨entry, ext.entry at_i, rfl⟩) later rfl
  refine ⟨recorded, ⟨fun call member => ?_, sound.apart, fun i entry at_i waiting free r member same => ?_⟩, sound.ascending⟩
  · exact (sound.proceeds call member).kept (fun i entry _ at_i => ext.entry at_i) later fun r member _ => member
  · rcases ext.cases at_i with old | added
    · exact sound.idle i entry old waiting free r member same
    · exact absurd same (sound.toRecorded.fresh added r member)

/-- One call is replaced by one of the same entry, or of none. -/
theorem Attempted.apart_set (attempted : s.Attempted) (at_k : s.calls[k]? = some call) {call' : RetryingCall}
    (same : ∀ i, call'.entry = some i → call.entry = some i) (j l : Nat) (a b : RetryingCall) (i : Nat)
    (at_j : (s.calls.set k call')[j]? = some a) (at_l : (s.calls.set k call')[l]? = some b) (first : a.entry = some i)
    (second : b.entry = some i) : j = l := by
  have before {j : Nat} {a : RetryingCall} (at_j : (s.calls.set k call')[j]? = some a) (own : a.entry = some i) :
      ∃ old, s.calls[j]? = some old ∧ old.entry = some i := by
    rw [List.getElem?_set] at at_j
    split at at_j
    · next here =>
      subst here
      split at at_j
      · obtain rfl := Option.some.inj at_j
        exact ⟨call, at_k, same i own⟩
      · cases at_j
    · exact ⟨a, at_j, own⟩
  obtain ⟨old, at_j', own⟩ := before at_j first
  obtain ⟨old', at_l', own'⟩ := before at_l second
  exact attempted.apart j l old old' i at_j' at_l' own own'

/-- Another call has another entry. -/
theorem Attempted.other (attempted : s.Attempted) (at_k : s.calls[k]? = some call) {call' other : RetryingCall}
    (member : other ∈ s.calls.set k call') : other = call' ∨ other ∈ s.calls ∧
      ∀ i, call.entry = some i → other.entry ≠ some i := by
  obtain ⟨j, at_j⟩ := List.getElem?_of_mem member
  rw [List.getElem?_set] at at_j
  split at at_j
  · split at at_j
    · exact .inl (Option.some.inj at_j).symm
    · cases at_j
  · next apart =>
    refine .inr ⟨List.mem_of_getElem? at_j, fun i own own' => ?_⟩
    exact apart (attempted.apart k j call other i at_k at_j own own')

/-- A call goes on, and may record an attempt. -/
theorem Sound.advances (sound : s.Sound) (at_k : s.calls[k]? = some call) {rest : WorkerProgram Unit} {db : Db}
    {desk : Desk} {new : List Record} (ext : s.desk.Extends desk)
    (rows : db.attempts.map JobAttempt.key = s.db.attempts.map JobAttempt.key ++ new.map Record.key)
    (mine : ∀ r ∈ new, call.entry = some r.entry ∧ r.startedAt ≤ s.now ∧
      ∃ entry, s.desk.entries[r.entry]? = some entry ∧ entry.payload.jobId = r.jobId)
    (ascending : Ascending (s.records ++ new))
    (proceeds : Proceeds { s with
      db := db, desk := desk, calls := s.calls.set k { call with rest := rest }, records := s.records ++ new }
      { call with rest := rest }) :
    Sound { s with
      db := db, desk := desk, calls := s.calls.set k { call with rest := rest }, records := s.records ++ new } := by
  refine ⟨⟨?_, fun r member => ?_, fun r member => ?_⟩, ⟨fun other member => ?_, ?_,
    fun i entry at_i waiting free r member same => ?_⟩, ascending⟩
  · show db.attempts.map JobAttempt.key = (s.records ++ new).map Record.key
    rw [rows, sound.rows, List.map_append]
  · rcases List.mem_append.mp member with old | recent
    · exact sound.past r old
    · exact (mine r recent).2.1
  · have owned : ∃ entry, s.desk.entries[r.entry]? = some entry ∧ entry.payload.jobId = r.jobId := by
      rcases List.mem_append.mp member with old | recent
      · exact sound.owned r old
      · exact (mine r recent).2.2
    obtain ⟨entry, at_i, own⟩ := owned
    exact ⟨entry, ext.entry at_i, own⟩
  · rcases sound.toAttempted.other at_k member with rfl | ⟨old, apart⟩
    · exact proceeds
    · refine (sound.proceeds other old).kept (fun i entry _ at_i => ext.entry at_i) (Nat.le_refl _) fun r memberR own => ?_
      rcases List.mem_append.mp memberR with earlier | recent
      · exact earlier
      · exact absurd own (apart r.entry (mine r recent).1)
  · exact sound.toAttempted.apart_set at_k fun i own => own
  · have free' (other : RetryingCall) (old : other ∈ s.calls) : other.entry ≠ some i := by
      obtain ⟨j, at_j⟩ := List.getElem?_of_mem old
      rcases eq_or_ne k j with rfl | differs
      · obtain rfl := Option.some.inj (at_j.symm.trans at_k)
        exact free { other with rest := rest } (List.mem_set (List.getElem?_eq_some_iff.mp at_j).1 _)
      · have stays : (s.calls.set k { call with rest := rest })[j]? = some other := by
          rw [List.getElem?_set_ne differs]
          exact at_j
        exact free other (List.mem_of_getElem? stays)
    have earlier : r ∈ s.records := by
      rcases List.mem_append.mp member with earlier | recent
      · exact earlier
      · have own := (mine r recent).1
        rw [same] at own
        exact absurd own (free' call (List.mem_of_getElem? at_k))
    rcases ext.cases at_i with old | added
    · exact sound.idle i entry old waiting free' r earlier same
    · exact absurd same (sound.toRecorded.fresh added r earlier)

/-- The end of an attempt: BullMQ counts a failed one. -/
theorem Sound.concludes (sound : s.Sound) (at_k : s.calls[k]? = some call) (own : call.entry = some i) {entry : Entry}
    (at_i : s.desk.entries[i]? = some entry) (ended : Outcome Err Unit) :
    Sound { s with desk := s.desk.setEntry i (entry.after ended), calls := s.calls.set k { rest := .done () } } := by
  have elsewhere {j : Nat} {other : Entry} (apart : i ≠ j) :
      (s.desk.setEntry i (entry.after ended)).entries[j]? = some other ↔ s.desk.entries[j]? = some other := by
    show (s.desk.entries.set i _)[j]? = _ ↔ _
    rw [List.getElem?_set_ne apart]
  have payload : (entry.after ended).payload = entry.payload := by cases ended <;> rfl
  have here : (s.desk.setEntry i (entry.after ended)).entries[i]? = some (entry.after ended) := by
    show (s.desk.entries.set i _)[i]? = _
    rw [List.getElem?_set_self (List.getElem?_eq_some_iff.mp at_i).1]
  have recorded : Recorded { s with
      desk := s.desk.setEntry i (entry.after ended), calls := s.calls.set k { rest := .done () } } := by
    refine sound.toRecorded.kept rfl (fun j other at_j => ?_) (Nat.le_refl _) rfl
    rcases eq_or_ne i j with rfl | apart
    · obtain rfl := Option.some.inj (at_i.symm.trans at_j)
      exact ⟨_, here, payload⟩
    · exact ⟨other, (elsewhere apart).mpr at_j, rfl⟩
  refine ⟨recorded, ⟨fun other member => ?_, ?_, fun j other at_j waiting free r member same => ?_⟩, sound.ascending⟩
  · rcases sound.toAttempted.other at_k member with rfl | ⟨old, apart⟩
    · exact .inl ⟨rfl, trivial⟩
    · refine (sound.proceeds other old).kept (fun j found attempts at_j => (elsewhere ?_).mpr at_j) (Nat.le_refl _)
        fun r member _ => member
      rintro rfl
      exact apart i own attempts
  · exact sound.toAttempted.apart_set at_k fun i none_ => by cases none_
  · rcases eq_or_ne i j with rfl | apart
    · obtain rfl := Option.some.inj (at_j.symm.trans here)
      obtain ⟨found, since, marked, at_i', _, _, bounds⟩ := sound.toAttempted.attempting at_k own
      obtain rfl := Option.some.inj (at_i'.symm.trans at_i)
      have bound := bounds r member same
      cases ended with
      | ok value => cases waiting
      | hung => cases waiting
      | thrown error =>
        show r.attemptNumber ≤ found.attemptsMade + 1
        cases marked with
        | true => exact bound
        | false => exact Nat.le_succ_of_le bound.1
    · refine sound.idle j other ((elsewhere apart).mp at_j) waiting (fun other' old entry' => ?_) r member same
      obtain ⟨l, at_l⟩ := List.getElem?_of_mem old
      rcases eq_or_ne k l with rfl | differs
      · obtain rfl := Option.some.inj (at_l.symm.trans at_k)
        exact apart (Option.some.inj (own.symm.trans entry'))
      · have stays : (s.calls.set k { rest := .done () })[l]? = some other' := by
          rw [List.getElem?_set_ne differs]
          exact at_l
        exact free other' (List.mem_of_getElem? stays) entry'

theorem Ascending.append {records : List Record} {new : Record} (ascending : Ascending records)
    (above : ∀ old ∈ records, old.jobId = new.jobId →
      old.attemptNumber < new.attemptNumber ∧ old.startedAt ≤ new.startedAt) : Ascending (records ++ [new]) := by
  intro jobId
  rw [List.filter_append, List.pairwise_append]
  refine ⟨ascending jobId, ?_, fun old member recent memberNew => ?_⟩
  · rw [List.filter_singleton]
    cases decide (new.jobId = jobId)
    · exact .nil
    · exact List.pairwise_singleton _ _
  · obtain ⟨inRecords, ofJob⟩ := List.mem_filter.mp member
    obtain ⟨last, ofJob'⟩ := List.mem_filter.mp memberNew
    obtain rfl := List.mem_singleton.mp last
    exact above old inRecords ((of_decide_eq_true ofJob).trans (of_decide_eq_true ofJob').symm)

theorem record_unrecorded {c : WorkerCall} {next : Except Err c.Reply → WorkerProgram Unit}
    (waiting : call.rest = .call c next) (unrecorded : c.Unrecorded) : call.record = [] := by
  unfold RetryingCall.record
  rw [waiting, awaits]
  split
  · next same =>
    rw [Option.some.inj same] at unrecorded
    exact unrecorded.elim
  · rfl

/-- A call that records nothing. -/
theorem Sound.advances_unrecorded (sound : s.Sound) (at_k : s.calls[k]? = some call) {w : Circumstance} {c : WorkerCall}
    {next : Except Err c.Reply → WorkerProgram Unit} (waiting : call.rest = .call c next) (unrecorded : c.Unrecorded)
    {rest : WorkerProgram Unit} (proceeds : Proceeds { s with
      db := (w.meet s.now (s.db, s.desk) c).2.1, desk := (w.meet s.now (s.db, s.desk) c).2.2
      calls := s.calls.set k { call with rest := rest } } { call with rest := rest }) :
    Sound { s with
      db := (w.meet s.now (s.db, s.desk) c).2.1, desk := (w.meet s.now (s.db, s.desk) c).2.2
      calls := s.calls.set k { call with rest := rest }
      records := s.records ++ if w.effective then call.record else [] } := by
  have ext : s.desk.Extends (w.meet s.now (s.db, s.desk) c).2.2 := w.meet_desk s.now (s.db, s.desk) c
  have keys : (w.meet s.now (s.db, s.desk) c).2.1.attempts.map JobAttempt.key = s.db.attempts.map JobAttempt.key := by
    rcases w.meet_cases s.now (s.db, s.desk) c with same | same
    · rw [same]
    · rw [same]
      exact Circumstance.answer_keys unrecorded
  have none_ : (if w.effective then call.record else []) = [] := by
    rw [record_unrecorded waiting unrecorded, ite_self]
  rw [none_]
  have kept : s.records ++ [] = s.records := List.append_nil _
  refine sound.advances at_k ext ?_ (fun r member => (List.not_mem_nil member).elim) ?_ ?_
  · rw [keys]
    exact (List.append_nil _).symm
  · rw [kept]
    exact sound.ascending
  · rw [kept]
    exact proceeds

/-- The step lemma for a turn of a call. -/
theorem Sound.advance (sound : s.Sound) {w : Circumstance} (sole : s.OneRecorder (.advance k w))
    (moved : s.step (.advance k w) = some s') : s'.Sound := by
  obtain ⟨call, at_k, moved⟩ := Option.bind_eq_some_iff.mp moved
  obtain ⟨⟨rest, db, desk⟩, turned, moved⟩ := Option.bind_eq_some_iff.mp moved
  obtain rfl := Option.some.inj moved
  obtain ⟨c, next, waiting, rfl, left⟩ := turn_cases turned
  obtain rfl : db = (w.meet s.now (s.db, s.desk) c).2.1 := congrArg Prod.fst left
  obtain rfl : desk = (w.meet s.now (s.db, s.desk) c).2.2 := congrArg Prod.snd left
  rcases sound.proceeds call (List.mem_of_getElem? at_k) with ⟨own, only⟩ |
    ⟨i, own, entry, since, marked, at_i, earlier, follows, bounds⟩
  · rw [waiting] at only
    exact sound.advances_unrecorded at_k waiting only.1 (.inl ⟨own, only.2 _⟩)
  · rw [waiting] at follows
    obtain ⟨marked', allowed, _⟩ := follows s.now (Nat.le_refl _)
    rcases recording_cases allowed with ⟨unrecorded, rfl⟩ | ⟨startedAt, rfl, rfl, rfl, afterwards, until_⟩
    · have ext : s.desk.Extends (w.meet s.now (s.db, s.desk) c).2.2 := w.meet_desk s.now (s.db, s.desk) c
      refine sound.advances_unrecorded at_k waiting unrecorded
        (.inr ⟨i, own, entry, since, marked', ext.entry at_i, earlier, fun limit within => ?_, bounds⟩)
      obtain ⟨marked'', allowed', later⟩ := follows limit within
      obtain rfl := Option.some.inj ((recording_unrecorded unrecorded).symm.trans allowed')
      exact later _ (Circumstance.clockWithin_meet earlier within c)
    · let new : Record := { entry := i, jobId := entry.payload.jobId, attemptNumber := entry.attemptsMade + 1,
                            startedAt := startedAt }
      have records : call.record = [new] := by
        unfold RetryingCall.record
        rw [own, waiting]
        rfl
      have follows' (limit : Nat) (within : s.now ≤ limit) (reply : Except Err JobAttempt) :
          Records entry.payload.jobId (entry.attemptsMade + 1) since limit true (next reply) := by
        obtain ⟨marked'', allowed', later⟩ := follows limit within
        rcases recording_cases allowed' with ⟨unrecorded, _⟩ | ⟨_, _, _, rfl, _⟩
        · exact unrecorded.elim
        · exact later reply trivial
      rw [records]
      have left : (w.meet s.now (s.db, s.desk) (.service (.db
          (.insertAttempt entry.payload.jobId (entry.attemptsMade + 1) startedAt)))).2 =
            if w.effective then (w.answer s.now (s.db, s.desk) (.service (.db
              (.insertAttempt entry.payload.jobId (entry.attemptsMade + 1) startedAt)))).2 else (s.db, s.desk) :=
        Circumstance.meet_awaited rfl
      rw [left]
      cases effective : w.effective with
      | false =>
        refine sound.advances at_k s.desk.extends_refl (List.append_nil _).symm
          (fun r member => (List.not_mem_nil member).elim) ?_ (.inr ⟨i, own, entry, since, true, at_i, earlier,
            fun limit within => follows' limit within _, fun r member same => ?_⟩)
        · show Ascending (s.records ++ [])
          rw [List.append_nil]
          exact sound.ascending
        · have old : r ∈ s.records := List.append_nil s.records ▸ member
          exact Nat.le_succ_of_le (bounds r old same).1
      | true =>
        have sole_ (old : Record) (member : old ∈ s.records) (ofJob : old.jobId = entry.payload.jobId) : old.entry = i :=
          sole effective call at_k new (records ▸ List.mem_singleton_self new) old member ofJob
        refine sound.advances at_k s.desk.extends_refl ?_ (fun r member => ?_)
          (sound.ascending.append fun old member ofJob => ?_) (.inr ⟨i, own, entry, since, true, at_i, earlier,
            fun limit within => follows' limit within _, fun r member same => ?_⟩)
        · show (s.db.attempts ++ [_]).map JobAttempt.key = _
          rw [List.map_append]
          rfl
        · obtain rfl := List.mem_singleton.mp member
          exact ⟨own, until_, entry, at_i, rfl⟩
        · have bound := bounds old member (sole_ old member ofJob)
          exact ⟨Nat.lt_succ_of_le bound.1, Nat.le_trans bound.2 afterwards⟩
        · rcases List.mem_append.mp member with old | recent
          · exact Nat.le_succ_of_le (bounds r old same).1
          · obtain rfl := List.mem_singleton.mp recent
            exact Nat.le_refl _

theorem unrecorded_query {c : DbCall} (unrecorded : WorkerCall.Unrecorded (.service (.db c))) :
    (query c).Only fun c => WorkerCall.Unrecorded (.service c) := only_await (S := serviceSignature) unrecorded

theorem unrecorded_enqueue {α : Type} (type : String) (payload : String → JobQueuePayload) (result : α) :
    ((ofExcept (resolveQueueName type)).bind fun queueName => (submit (payload queueName)).bind fun _ => .done result).Only
      fun c => WorkerCall.Unrecorded (.service c) :=
  (only_ofExcept _).bind fun _ => Only.bind (only_await (S := serviceSignature) trivial) fun _ => only_done _

theorem unrecorded_createAndEnqueue (dto : CreateJobDto) (userId : UserId) (tenantId : TenantId) :
    (createAndEnqueue dto userId tenantId).Only fun c => WorkerCall.Unrecorded (.service c) := by
  have recurring : (saveRecurring dto userId tenantId).Only fun c => WorkerCall.Unrecorded (.service c) := by
    unfold saveRecurring
    split
    · trivial
    · split
      · trivial
      · exact (unrecorded_query (by trivial)).bind fun _ => only_done _
  unfold createAndEnqueue
  refine recurring.bind fun recurringJobId => Only.bind (only_await (S := serviceSignature) trivial) fun now =>
    (unrecorded_query (by trivial)).bind fun savedJob => ?_
  exact unrecorded_enqueue _ _ _

theorem unrecorded_randomUUID : randomUUID.Only fun c => WorkerCall.Unrecorded (.service c) :=
  only_await (S := serviceSignature) trivial

theorem unrecorded_submitItems (batchId : Nat) (userId : UserId) (tenantId : TenantId) (items : List BatchJobItem)
    (results : List BatchReply) :
    (BatchJobService.submitItems batchId userId tenantId items results).Only fun c => WorkerCall.Unrecorded (.service c) := by
  induction items generalizing results with
  | nil => trivial
  | cons item rest ih =>
    refine Only.bind ?_ fun result => ih _
    refine Only.bind (only_await (S := serviceSignature) trivial) fun now => (unrecorded_query (by trivial)).bind fun saved => ?_
    refine Only.catching ?_ fun error => (unrecorded_query (by trivial)).bind fun _ => only_throws error
    exact (only_ofExcept _).bind fun _ => Only.bind (only_await (S := serviceSignature) trivial) fun _ => only_done _

theorem unrecorded_submitBatch (items : List BatchJobItem) (userId : UserId) (tenantId : TenantId) :
    (BatchJobService.submitBatch items userId tenantId).Only fun c => WorkerCall.Unrecorded (.service c) :=
  (only_ofExcept _).bind fun _ => unrecorded_randomUUID.bind fun _ =>
    (unrecorded_submitItems _ userId tenantId _ []).bind fun _ => only_done _

theorem unrecorded_createWorkFlow (items : List WorkFlowItem) (userId : UserId) (tenantId : TenantId) :
    (ChainService.createWorkFlow items userId tenantId).Only fun c => WorkerCall.Unrecorded (.service c) := by
  have schedules (workFlowId : WorkFlowId) :
      (ChainService.scheduleNextJob workFlowId tenantId).Only fun c => WorkerCall.Unrecorded (.service c) := by
    refine (tends_scheduleNextJob workFlowId tenantId).mono fun c tends => ?_
    have tends : WorkerCall.Tends (.service c) := tends
    exact tends.unrecorded
  exact (only_ofExcept _).bind fun _ => unrecorded_randomUUID.bind fun workFlowId =>
    (only_saveJobs (fun _ => trivial) workFlowId userId tenantId items []).bind fun jobMap =>
      (only_saveDependencies (fun _ _ => trivial) jobMap items).bind fun _ =>
        (schedules workFlowId).bind fun _ => only_done _

theorem unrecorded_retryFailedJob (jobId : JobId) (userId : UserId) (tenantId : TenantId) :
    (retryFailedJob jobId userId tenantId).Only fun c => WorkerCall.Unrecorded (.service c) := by
  unfold retryFailedJob
  refine (unrecorded_query (by trivial)).bind fun found => ?_
  cases found with
  | none => trivial
  | some job =>
    dsimp only
    split
    · trivial
    · exact (unrecorded_query (by trivial)).bind fun _ => unrecorded_enqueue _ _ _

theorem Sound.requests (sound : s.Sound) {α : Type} {program : ServiceProgram α}
    (unrecorded : program.Only fun c => WorkerCall.Unrecorded (.service c)) : (s.request program).Sound :=
  sound.begins (.inl ⟨rfl, (only_onServices unrecorded).bind fun _ => only_done _⟩) fun i none_ => by cases none_

/-- The step lemma. -/
theorem Sound.step (sound : s.Sound) (sole : s.OneRecorder e) (moved : s.step e = some s') : s'.Sound := by
  cases e with
  | create dto userId tenantId =>
    obtain rfl := Option.some.inj moved
    exact sound.requests (unrecorded_createAndEnqueue dto userId tenantId)
  | batch items userId tenantId =>
    obtain rfl := Option.some.inj moved
    exact sound.requests (unrecorded_submitBatch items userId tenantId)
  | workFlow items userId tenantId =>
    obtain rfl := Option.some.inj moved
    exact sound.requests (unrecorded_createWorkFlow items userId tenantId)
  | retry jobId userId tenantId =>
    obtain rfl := Option.some.inj moved
    exact sound.requests (unrecorded_retryFailedJob jobId userId tenantId)
  | fire i =>
    obtain ⟨entry, at_i, moved⟩ := Option.bind_eq_some_iff.mp moved
    split at moved
    · obtain rfl := Option.some.inj moved
      exact sound.extends ⟨_, rfl⟩ (Nat.le_refl _)
    · cases moved
  | pick i =>
    obtain ⟨entry, at_i, moved⟩ := Option.bind_eq_some_iff.mp moved
    obtain ⟨queueName, _, moved⟩ := Option.bind_eq_some_iff.mp moved
    split at moved
    · next free =>
      obtain rfl := Option.some.inj moved
      refine sound.begins (.inr ⟨i, rfl, entry, s.now, false, at_i, Nat.le_refl _, fun limit _ => ?_, fun r member same => ?_⟩)
        fun j same => ?_
      · exact records_execute (entry.job queueName) s.now limit
      · exact ⟨sound.idle i entry at_i free.1 free.2 r member same, sound.past r member⟩
      · obtain rfl := Option.some.inj same
        exact free.2
    · cases moved
  | advance k w => exact sound.advance sole moved
  | conclude k =>
    obtain ⟨call, at_k, moved⟩ := Option.bind_eq_some_iff.mp moved
    obtain ⟨i, own, moved⟩ := Option.bind_eq_some_iff.mp moved
    obtain ⟨entry, at_i, moved⟩ := Option.bind_eq_some_iff.mp moved
    obtain ⟨ended, _, moved⟩ := Option.bind_eq_some_iff.mp moved
    obtain rfl := Option.some.inj moved
    exact sound.concludes at_k own at_i ended
  | pass milliseconds =>
    obtain rfl := Option.some.inj moved
    exact sound.extends s.desk.extends_refl (Nat.le_add_right _ _)

/-- The rows of a job, in the order of their insertion. -/
theorem Sound.inOrder (sound : s.Sound) (jobId : JobId) :
    (attemptsOf s.db jobId).Pairwise fun a b => a.attemptNumber < b.attemptNumber ∧ a.startedAt ≤ b.startedAt := by
  have keys : (attemptsOf s.db jobId).map JobAttempt.key = (s.records.filter (·.jobId = jobId)).map Record.key := by
    have filtered := congrArg (List.filter fun key => decide (key.1 = jobId)) sound.rows
    rw [List.filter_map, List.filter_map] at filtered
    exact filtered
  have ascending : ((s.records.filter (·.jobId = jobId)).map Record.key).Pairwise
      fun a b => a.2.1 < b.2.1 ∧ a.2.2 ≤ b.2.2 := List.pairwise_map.mpr (sound.ascending jobId)
  rw [← keys] at ascending
  exact List.pairwise_map.mp ascending

/-- The last of an ordered list. -/
theorem inOrder_of_pairwise {attempts : List JobAttempt}
    (ascending : attempts.Pairwise fun a b => a.attemptNumber < b.attemptNumber ∧ a.startedAt ≤ b.startedAt) :
    InOrder attempts := by
  have ordered : attempts.Pairwise fun a b => a.startedAt ≤ b.startedAt := ascending.imp fun both => both.2
  refine ⟨?_, ordered, fun last final a member => ?_⟩
  · rw [List.Nodup, List.pairwise_map]
    exact ascending.imp fun both => Nat.ne_of_lt both.1
  · obtain ⟨front, rfl⟩ := List.getLast?_eq_some_iff.mp final
    rcases List.mem_append.mp member with earlier | here
    · exact (List.pairwise_append.mp ordered).2.2 a earlier last (List.mem_singleton_self last)
    · obtain rfl := List.mem_singleton.mp here
      exact Nat.le_refl _

/-- What `getJobById` shows of a sound state is in order. -/
theorem Sound.chronological (sound : s.Sound) : Chronological s.db := by
  intro jobId tenantId response shown attempts member
  unfold getJobById at shown
  split at shown
  · cases shown
  · next job found =>
    obtain rfl := Except.ok.inj shown
    have ascending := sound.inOrder job.id
    have sorted : (attemptsOf s.db job.id).insertionSort (fun a b => a.attemptNumber ≤ b.attemptNumber) =
        attemptsOf s.db job.id :=
      List.Pairwise.insertionSort_eq (ascending.imp fun both => Nat.le_of_lt both.1)
    obtain rfl := Option.some.inj member
    rw [sorted]
    exact inOrder_of_pairwise ascending

/-- As long as the attempts of each row are recorded by one BullMQ job, they are in order. -/
theorem chronological_of_oneRecorder (run : history.Run empty visited s) (sole : Machine.Guarded OneRecorder visited) :
    (∀ v ∈ visited, Chronological v.1.db) ∧ Chronological s.db := by
  have sound := run.throughout Sound sole sound_empty fun s e s' sound sole moved => sound.step sole moved
  exact ⟨fun v member => (sound.1 v member).chronological, sound.2.chronological⟩

end History

namespace History

/-- A job of two attempts that both fail. -/
def mailDto : CreateJobDto := { jobType := "send_email", metadata := [], retries := some 2 }

def refused : Circumstance :=
  { env := .plain, staged := false, outcome := .error { message := "" }, change := id, fault := none }

def turns (k n : Nat) : List HistoryEvent := List.replicate n (.advance k refused)

/-- Both attempts of the job, a second apart. -/
def failedTwice : List HistoryEvent :=
  [.create mailDto "user" "tenant"] ++ turns 0 3 ++ [.pick 0] ++ turns 1 16 ++ [.conclude 1, .pass 1000, .pick 0] ++
    turns 2 20 ++ [.conclude 2, .pass 1000]

theorem chronological_failedTwice : ∃ s, history.exec empty failedTwice = some s ∧
    (attemptsOf s.db 0).map (fun a => (a.attemptNumber, a.startedAt)) = [(1, 0), (2, 1000)] ∧
    (∀ v ∈ history.trace empty failedTwice, Chronological v.1.db) ∧ Chronological s.db := by
  have result : (history.exec empty failedTwice).map (fun s =>
      ((attemptsOf s.db 0).map (fun a => (a.attemptNumber, a.startedAt)),
        decide (Machine.Guarded OneRecorder (history.trace empty failedTwice)))) =
          some ([(1, 0), (2, 1000)], true) := by decide +kernel
  obtain ⟨s, done, same⟩ := Option.map_eq_some_iff.mp result
  simp only [Prod.mk.injEq, decide_eq_true_eq] at same
  exact ⟨s, done, same.1, chronological_of_oneRecorder (Machine.run_of_exec done) same.2⟩

/-- It is retried by hand, and the new BullMQ job begins its first attempt. -/
def retriedByHand : List HistoryEvent :=
  failedTwice ++ [.retry 0 "user" "tenant"] ++ turns 3 3 ++ [.pick 1] ++ turns 4 8

/-- The latest attempt is the second of the list, and shares the number of the first. -/
theorem retriedByHand_disorders : ∃ s, history.exec empty retriedByHand = some s ∧
    (getJobById s.db 0 "tenant").toOption.bind (fun response => response.attempts.map fun attempts =>
      attempts.map fun a => (a.attemptNumber, a.startedAt)) = some [(1, 0), (1, 2000), (2, 1000)] ∧
    ¬ Chronological s.db := by
  have result : (history.exec empty retriedByHand).map (fun s =>
      (getJobById s.db 0 "tenant").toOption.bind fun response => response.attempts.map fun attempts =>
        attempts.map fun a => (a.attemptNumber, a.startedAt)) = some (some [(1, 0), (1, 2000), (2, 1000)]) := by
    decide +kernel
  obtain ⟨s, done, shown⟩ := Option.map_eq_some_iff.mp result
  refine ⟨s, done, shown, fun chronological => ?_⟩
  obtain ⟨response, answered, listed⟩ := Option.bind_eq_some_iff.mp shown
  obtain ⟨attempts, given, pairs⟩ := Option.map_eq_some_iff.mp listed
  have shows : getJobById s.db 0 "tenant" = .ok response := by
    cases reply : getJobById s.db 0 "tenant" with
    | ok value =>
      rw [reply] at answered
      exact congrArg Except.ok (Option.some.inj answered)
    | error error =>
      rw [reply] at answered
      cases answered
  have distinct := (chronological 0 "tenant" response shows attempts given).distinct
  have numbers := congrArg (List.map Prod.fst) pairs
  rw [List.map_map] at numbers
  rw [show attempts.map (·.attemptNumber) = [1, 1, 2] from numbers] at distinct
  exact absurd distinct (by decide)

end History
end OrchestrateModel
