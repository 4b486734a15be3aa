import Mathlib.Algebra.Order.BigOperators.Group.List
import Orchestrate.Effect.Interleave
import Orchestrate.Effect.Machine
import Orchestrate.Lifecycle.Silent
import Orchestrate.Submission.Entry
import Orchestrate.Workflow.Events

namespace OrchestrateModel

open Effect Program ChainService BaseProcessor

namespace WorkerCall

/-- The job that the call marks QUEUED. -/
def queues : WorkerCall → Option JobId
  | .service (.db (.updateJob jobId change)) => if change.status = some .QUEUED then some jobId else none
  | _ => none

def submits : WorkerCall → Option JobId
  | .service (.submitJob payload) => some payload.jobId
  | _ => none

/-- A job is submitted right after it was marked QUEUED; what is carried along is the job just marked. -/
def announced (marked : Option JobId) (c : WorkerCall) : Option (Option JobId) :=
  if c.submits.all (marked = some ·) then some c.queues else none

theorem announced_of_silent {c : WorkerCall} (silent : c.Silent) (marked : Option JobId) :
    announced marked c = some c.queues := by
  have none : c.submits = none := by
    cases c with
    | service c =>
      cases c with
      | submitJob payload => exact absurd rfl (silent payload)
      | _ => rfl
    | _ => rfl
  simp [announced, none]

end WorkerCall

section Announced

variable {α β : Type} {marked : Option JobId} {program : WorkerProgram α}

abbrev Announces (marked : Option JobId) (program : WorkerProgram α) : Prop :=
  program.Obeys WorkerCall.announced marked

/-- What needs no mark may follow anything. -/
theorem announces_of_none (announces : Announces none program) (marked : Option JobId) : Announces marked program := by
  cases program with
  | call c next =>
    obtain ⟨stage, allowed, later⟩ := announces
    refine ⟨stage, ?_, later⟩
    unfold WorkerCall.announced at allowed ⊢
    split at allowed
    · rename_i free
      have unsubmitted : c.submits = none := by
        cases submitted : c.submits with
        | none => rfl
        | some x => simp [submitted] at free
      simpa [unsubmitted] using allowed
    · cases allowed
  | _ => trivial

theorem announces_bind {next : α → WorkerProgram β} (first : Announces marked program)
    (rest : ∀ value, Announces none (next value)) : Announces marked (program.bind next) := by
  induction program generalizing marked with
  | done value => exact announces_of_none (rest value) marked
  | throws error => trivial
  | hangs => trivial
  | call c later ih =>
    obtain ⟨stage, allowed, obeys⟩ := first
    exact ⟨stage, allowed, fun reply => ih reply (obeys reply)⟩

theorem announces_catching {handler : Err → WorkerProgram α} (first : Announces marked program)
    (rest : ∀ error, Announces none (handler error)) : Announces marked (program.catching handler) := by
  induction program generalizing marked with
  | done value => trivial
  | throws error => exact announces_of_none (rest error) marked
  | hangs => trivial
  | call c later ih =>
    obtain ⟨stage, allowed, obeys⟩ := first
    exact ⟨stage, allowed, fun reply => ih reply (obeys reply)⟩

theorem announces_capture (announces : Announces marked program) : Announces marked program.capture :=
  announces_catching (announces_bind announces fun _ => trivial) fun _ => trivial

theorem announces_silent (silent : program.Only WorkerCall.Silent) (marked : Option JobId) : Announces marked program := by
  induction program generalizing marked with
  | call c next ih => exact ⟨c.queues, WorkerCall.announced_of_silent silent.1 marked, fun reply => ih reply (silent.2 reply) _⟩
  | _ => trivial

/-- A row is marked QUEUED, its queue is looked up, and its payload submitted. -/
theorem announces_marks (x : JobId) (type : String) (payload : String → JobQueuePayload)
    (own : ∀ queueName, (payload queueName).jobId = x) (result : JobStatus → α) :
    Announces none (onServices ((JobRepo.update x { status := some .QUEUED }).bind fun _ =>
      enqueueRow type payload result)) := by
  refine ⟨some x, rfl, fun reply => ?_⟩
  cases reply with
  | error error => trivial
  | ok value =>
    unfold enqueueRow
    cases resolveQueueName type with
    | error error => trivial
    | ok queueName =>
      refine ⟨none, ?_, fun reply => ?_⟩
      · have submits : WorkerCall.submits (.service (.submitJob (payload queueName))) = some x := congrArg some (own queueName)
        simp [WorkerCall.announced, submits, WorkerCall.queues]
      · cases reply <;> trivial

theorem announces_service {program : ServiceProgram α} (silent : program.Only ServiceCall.Silent) :
    Announces none (onServices program) := announces_silent (silent_onServices silent) none

theorem announces_retryFailedJob (jobId : JobId) (userId : UserId) (tenantId : TenantId) :
    Announces none (onServices (JobsService.retryFailedJob jobId userId tenantId)) := by
  unfold JobsService.retryFailedJob
  rw [bind_eq, onServices_bind]
  refine announces_bind (announces_service (silent_query _)) fun found => ?_
  cases found with
  | none => trivial
  | some job =>
    dsimp only
    split
    · trivial
    · exact announces_marks job.id job.type (retryPayload job userId tenantId) (fun _ => rfl) fun _ =>
        { job with status := .QUEUED, completedAt := none }

theorem announces_scheduleNextJob (workFlowId : WorkFlowId) (tenantId : TenantId) :
    Announces none (onServices (scheduleNextJob workFlowId tenantId)) := by
  unfold scheduleNextJob
  rw [bind_eq, onServices_bind]
  refine announces_bind (announces_service (silent_query _)) fun count => ?_
  split
  · trivial
  · rw [bind_eq, onServices_bind]
    refine announces_bind (announces_service (silent_pickNextJobGLobal workFlowId)) fun candidate => ?_
    cases candidate with
    | none => trivial
    | some candidate =>
      exact announces_marks candidate.id candidate.type (candidatePayload candidate) (fun _ => rfl) fun _ => ()

theorem announces_onJobCompleted (jobId : JobId) : Announces none (onServices (onJobCompleted jobId)) := by
  unfold onJobCompleted
  rw [bind_eq, onServices_bind]
  refine announces_bind (announces_service (silent_query _)) fun found => ?_
  split
  · trivial
  · rw [bind_eq, onServices_bind]
    exact announces_bind (announces_service (silent_unlockChildren jobId)) fun _ => announces_scheduleNextJob _ _

theorem announces_handleParentFailure (jobId : JobId) : Announces none (onServices (handleParentFailure jobId)) := by
  unfold handleParentFailure
  rw [bind_eq, onServices_bind]
  refine announces_bind (announces_service (silent_query _)) fun found => ?_
  split
  · trivial
  · rw [bind_eq, onServices_bind]
    refine announces_bind (announces_service (silent_query _)) fun deps => ?_
    rw [bind_eq, onServices_bind]
    exact announces_bind (announces_service (only_forEach fun dep _ => silent_skipChild _)) fun _ => announces_scheduleNextJob _ _

theorem announces_afterFailure (job : BullJob) (attempt : Attempt) (error : Err) :
    Announces none (afterFailure job attempt error) := by
  rw [afterFailure_eq]
  exact announces_bind (announces_silent (silent_recordFailure job attempt error) none) fun _ =>
    announces_bind (announces_handleParentFailure _) fun _ => trivial

theorem announces_afterSuccess (job : BullJob) (attempt : Attempt) (result : Option String) :
    Announces none (afterSuccess job attempt result) := by
  unfold afterSuccess
  refine announces_bind (announces_service silent_clock) fun now => announces_bind (announces_service silent_clock) fun finish => ?_
  refine announces_bind (announces_service (silent_query _)) fun _ => announces_bind (announces_service (silent_query _)) fun _ => ?_
  have counted (metric : Metric) : Announces none ((record metric).bind fun _ => incrementCompleted job.queueName) :=
    announces_silent ((silent_awaitWork (c := .record metric) trivial).bind fun _ =>
      silent_awaitWork (c := .incrementCompleted job.queueName) trivial) none
  split
  · exact announces_bind (announces_capture (announces_onJobCompleted _)) fun _ => counted _
  · exact counted _

theorem announces_afterProcess (job : BullJob) (attempt : Attempt) (outcome : Except Err (Option String)) :
    Announces none (afterProcess job attempt outcome) := by
  rw [afterProcess_eq]
  have settles : Announces none (settle job attempt outcome) := by
    refine announces_catching ?_ fun error => announces_afterFailure job attempt error
    cases outcome with
    | ok result => exact announces_afterSuccess job attempt result
    | error error => trivial
  refine announces_bind (announces_capture settles) fun completion => ?_
  have freed : (release job.data.tenantId job.queueName).capture.Only WorkerCall.Silent :=
    (silent_awaitWork (c := .release job.data.tenantId job.queueName) trivial).capture
  split
  · exact announces_silent (freed.bind fun _ => only_ofExcept completion) none
  · exact announces_silent (only_ofExcept completion) none

theorem announces_execute (job : BullJob) : Announces none (execute job) := by
  unfold execute
  refine announces_bind (announces_silent (silent_beginAttempt job) none) fun begun => ?_
  cases begun with
  | none => trivial
  | some attempt =>
    refine announces_bind ?_ fun outcome => announces_afterProcess job attempt outcome
    exact announces_silent (silent_awaitWork (c := .process job) trivial).capture none

end Announced

/-- A retry by hand, or the attempt of an entry, as far as it has come. -/
structure RetryingCall where
  entry : Option Nat := none
  rest : WorkerProgram Unit

/-- Retries and attempts over one database and its queues. -/
structure Retrying where
  db : Db
  desk : Desk
  calls : List RetryingCall

/-- A user retries a job; a worker takes an entry; a call makes its next step; BullMQ hears how an attempt ended. -/
inductive RetryingEvent : Type where
  | retry (jobId : JobId) (userId : UserId) (tenantId : TenantId)
  | pick (i : Nat)
  | advance (k : Nat) (env : Env) (staged : Bool) (outcome : Except Err (Option String))
  | conclude (k : Nat)

/-- An entry of the job, in BullMQ or staged, that is not final. -/
def Entry.live (x : JobId) (entry : Entry) : Bool := entry.payload.jobId = x && entry.stage ≠ .ended

def Desk.live (desk : Desk) (x : JobId) : Nat := desk.entries.countP (Entry.live x)

/-- A submission adds one entry at most, to the end. -/
theorem Desk.entries_accept (desk : Desk) (staged : Bool) (now : Nat) (payload : JobQueuePayload) :
    (desk.accept staged now payload).2.entries = desk.entries ∨
      (desk.accept staged now payload).2.entries = desk.entries ++ [{ payload := payload, addedAt := now }] := by
  have placed (desk : Desk) : (desk.place now payload).entries = desk.entries ∨
      (desk.place now payload).entries = desk.entries ++ [{ payload := payload, addedAt := now }] := by
    unfold Desk.place
    split
    · exact .inr rfl
    · split
      · exact .inl rfl
      · exact .inr rfl
  unfold Desk.accept
  split
  · exact placed _
  · split
    · exact placed _
    · exact .inl rfl

namespace Retrying

def begin_ (db : Db) (desk : Desk) : Retrying := { db := db, desk := desk, calls := [] }

def step (s : Retrying) : RetryingEvent → Option Retrying
  | .retry jobId userId tenantId =>
    let request := (onServices (JobsService.retryFailedJob jobId userId tenantId)).bind fun _ => .done ()
    some { s with calls := s.calls ++ [{ rest := request }] }
  | .pick i => do
    let entry ← s.desk.entries[i]?
    let queueName ← getQueueName entry.payload.jobType
    if entry.stage = .waiting ∧ ∀ call ∈ s.calls, call.entry ≠ some i then
      some { s with calls := s.calls ++ [{ entry := some i, rest := execute (entry.job queueName) }] }
    else none
  | .advance k env staged outcome => do
    let call ← s.calls[k]?
    let (rest, db, desk) ← call.rest.turn (work env (Desk.accept staged env.now) outcome) (s.db, s.desk)
    return { db := db, desk := desk, calls := s.calls.set k { call with rest := rest } }
  | .conclude k => do
    let call ← s.calls[k]?
    let i ← call.entry
    let entry ← s.desk.entries[i]?
    let ended ← call.rest.ended
    return { s with desk := s.desk.setEntry i (entry.after ended), calls := s.calls.set k { rest := .done () } }

end Retrying

def retrying : Machine Retrying RetryingEvent := ⟨Retrying.step⟩

namespace RetryingCall

/-- The job that the call marks QUEUED next. -/
def queues (call : RetryingCall) : Option JobId := call.rest.awaits.bind WorkerCall.queues

/-- The job that the call submits next. -/
def submits (call : RetryingCall) : Option JobId := call.rest.awaits.bind WorkerCall.submits

/-- The job whose entry the call executes. -/
def executes (desk : Desk) (call : RetryingCall) : Option JobId :=
  call.entry.bind fun i => desk.entries[i]?.map (·.payload.jobId)

def armed (x : JobId) (call : RetryingCall) : Int := if call.submits = some x then 1 else 0

end RetryingCall

namespace Retrying

/-- No job has two live entries, and no job is in two attempts. -/
def Single (s : Retrying) : Prop :=
  (∀ x, s.desk.live x ≤ 1) ∧ ∀ (j k : Nat) (a b : RetryingCall) (x : JobId), s.calls[j]? = some a → s.calls[k]? = some b →
    a.executes s.desk = some x → b.executes s.desk = some x → j = k

/-- When a job is marked QUEUED, it has no live entry, and no other call is about to submit it. -/
def Undisturbed (s : Retrying) : RetryingEvent → Prop
  | .advance k _ _ _ => ∀ call ∈ s.calls[k]?, ∀ x ∈ call.queues,
    s.desk.live x = 0 ∧ ∀ other ∈ s.calls, other.submits ≠ some x
  | .retry _ _ _ | .pick _ | .conclude _ => True

instance (s : Retrying) : DecidablePred s.Undisturbed
  | .advance k _ _ _ => inferInstanceAs (Decidable (∀ call ∈ s.calls[k]?, ∀ x ∈ call.queues,
      s.desk.live x = 0 ∧ ∀ other ∈ s.calls, other.submits ≠ some x))
  | .retry _ _ _ | .pick _ | .conclude _ => .isTrue trivial

/-- Each job has one live entry or one call about to submit it at most; each attempt has an entry of its own. -/
structure Sole (s : Retrying) : Prop where
  weight : ∀ x, (s.desk.live x : Int) + (s.calls.map (RetryingCall.armed x)).sum ≤ 1
  announces : ∀ call ∈ s.calls, ∃ marked, Announces marked call.rest
  attached : ∀ call ∈ s.calls, ∀ i, call.entry = some i → ∃ entry, s.desk.entries[i]? = some entry ∧ entry.stage = .waiting
  apart : ∀ (j k : Nat) (a b : RetryingCall) (i : Nat), s.calls[j]? = some a → s.calls[k]? = some b →
    a.entry = some i → b.entry = some i → j = k

variable {s s' : Retrying} {k : Nat} {env : Env} {staged : Bool} {outcome : Except Err (Option String)}

theorem armed_nonneg (x : JobId) (call : RetryingCall) : 0 ≤ call.armed x := by
  unfold RetryingCall.armed
  split <;> omega

theorem unarmed_of_none {call : RetryingCall} (idle : call.submits = none) (x : JobId) : call.armed x = 0 := by
  simp [RetryingCall.armed, idle]

/-- What a call submits next is what it has just marked. -/
theorem submits_of_announces {marked : Option JobId} {call : RetryingCall} (announces : Announces marked call.rest)
    {x : JobId} (submits : call.submits = some x) : marked = some x := by
  unfold RetryingCall.submits at submits
  cases waiting : call.rest with
  | call c next =>
    rw [waiting] at announces submits
    obtain ⟨stage, allowed, _⟩ := announces
    have named : c.submits = some x := submits
    unfold WorkerCall.announced at allowed
    rw [named] at allowed
    by_cases own : marked = some x
    · exact own
    · simp [own] at allowed
  | done value => simp [waiting, awaits] at submits
  | throws error => simp [waiting, awaits] at submits
  | hangs => simp [waiting, awaits] at submits

theorem sole_begin {db : Db} {desk : Desk} (single : ∀ x, desk.live x ≤ 1) : Sole (begin_ db desk) where
  weight x := by
    have bound := single x
    show (desk.live x : Int) + ([] : List Int).sum ≤ 1
    simp only [List.sum_nil]
    omega
  announces call member := nomatch member
  attached call member := nomatch member
  apart j k a b i at_j := by cases at_j

/-- A call that begins. -/
theorem Sole.append (sole : Sole s) {call : RetryingCall} (idle : call.submits = none) (announces : Announces none call.rest)
    (own : ∀ i, call.entry = some i → (∃ entry, s.desk.entries[i]? = some entry ∧ entry.stage = .waiting) ∧
      ∀ other ∈ s.calls, other.entry ≠ some i) :
    Sole { s with calls := s.calls ++ [call] } where
  weight x := by
    have bound := sole.weight x
    show (s.desk.live x : Int) + ((s.calls ++ [call]).map (RetryingCall.armed x)).sum ≤ 1
    rw [List.map_append, List.sum_append, List.map_singleton, List.sum_singleton, unarmed_of_none idle]
    omega
  announces other member := by
    rcases List.mem_append.mp member with old | last
    · exact sole.announces other old
    · obtain rfl : other = call := by simpa using last
      exact ⟨none, announces⟩
  attached other member i entry := by
    rcases List.mem_append.mp member with old | last
    · exact sole.attached other old i entry
    · obtain rfl : other = call := by simpa using last
      exact (own i entry).1
  apart j k a b i at_j at_k first second := by
    have last {j : Nat} {a : RetryingCall} (at_j : (s.calls ++ [call])[j]? = some a) :
        s.calls[j]? = some a ∨ j = s.calls.length ∧ a = call := by
      rw [List.getElem?_append] at at_j
      split at at_j
      · exact .inl at_j
      · rename_i bound
        obtain ⟨here, same⟩ := List.getElem?_eq_some_iff.mp at_j
        simp only [List.length_singleton] at here
        refine .inr ⟨by omega, ?_⟩
        simpa using same.symm
    rcases last at_j with old | ⟨here, rfl⟩
    · rcases last at_k with old' | ⟨_, rfl⟩
      · exact sole.apart j k a b i old old' first second
      · exact absurd first ((own i second).2 a (List.mem_of_getElem? old))
    · rcases last at_k with old' | ⟨here', _⟩
      · exact absurd second ((own i first).2 b (List.mem_of_getElem? old'))
      · rw [here, here']

/-- A call that moves on, while no entry is taken away or comes to its end. -/
theorem Sole.advanced (sole : Sole s) {call : RetryingCall} (at_k : s.calls[k]? = some call) {rest : WorkerProgram Unit}
    (announces : ∃ marked, Announces marked rest) {db : Db} {desk : Desk}
    (kept : ∀ (i : Nat) (entry : Entry), s.desk.entries[i]? = some entry → desk.entries[i]? = some entry)
    (weight : ∀ x, (desk.live x : Int) + (s.calls.map (RetryingCall.armed x)).sum - call.armed x +
      RetryingCall.armed x { call with rest := rest } ≤ 1) :
    Sole { db := db, desk := desk, calls := s.calls.set k { call with rest := rest } } where
  weight x := by
    have bound := weight x
    show (desk.live x : Int) + ((s.calls.set k { call with rest := rest }).map (RetryingCall.armed x)).sum ≤ 1
    rw [sum_set (RetryingCall.armed x) at_k]
    omega
  announces other member := by
    rcases List.mem_or_eq_of_mem_set member with old | rfl
    · exact sole.announces other old
    · exact announces
  attached other member i entry := by
    have was : ∃ entry, s.desk.entries[i]? = some entry ∧ entry.stage = .waiting := by
      rcases List.mem_or_eq_of_mem_set member with old | rfl
      · exact sole.attached other old i entry
      · exact sole.attached call (List.mem_of_getElem? at_k) i entry
    obtain ⟨found, at_i, waiting⟩ := was
    exact ⟨found, kept i found at_i, waiting⟩
  apart j l a b i at_j at_l first second := by
    have before {j : Nat} {a : RetryingCall} (at_j : (s.calls.set k { call with rest := rest })[j]? = some a) :
        ∃ old, s.calls[j]? = some old ∧ old.entry = a.entry := by
      rw [List.getElem?_set] at at_j
      split at at_j
      · rename_i here
        subst here
        split at at_j
        · obtain rfl := Option.some.inj at_j
          exact ⟨call, at_k, rfl⟩
        · cases at_j
      · exact ⟨a, at_j, rfl⟩
    obtain ⟨a', at_j', same⟩ := before at_j
    obtain ⟨b', at_l', same'⟩ := before at_l
    exact sole.apart j l a' b' i at_j' at_l' (same.trans first) (same'.trans second)

theorem live_append (desk : Desk) (x : JobId) (payload : JobQueuePayload) (now : Nat) {desk' : Desk}
    (grown : desk'.entries = desk.entries ∨ desk'.entries = desk.entries ++ [{ payload := payload, addedAt := now }]) :
    (desk'.live x : Int) ≤ desk.live x + if payload.jobId = x then 1 else 0 := by
  unfold Desk.live
  rcases grown with same | longer
  · rw [same]
    split <;> omega
  · rw [longer, List.countP_append, List.countP_singleton]
    by_cases own : payload.jobId = x
    · simp [Entry.live, own]
    · simp [Entry.live, own]

theorem Sole.advance (sole : Sole s) (undisturbed : s.Undisturbed (.advance k env staged outcome))
    (moved : s.step (.advance k env staged outcome) = some s') : Sole s' := by
  simp only [step, Option.bind_eq_bind, Option.bind_eq_some_iff] at moved
  obtain ⟨call, at_k, ⟨rest, db, desk⟩, turned, same⟩ := moved
  obtain rfl := Option.some.inj same
  obtain ⟨c, next, waiting, rfl, effect⟩ := turn_cases turned
  obtain ⟨marked, announces⟩ := sole.announces call (List.mem_of_getElem? at_k)
  rw [waiting] at announces
  obtain ⟨stage, allowed, later⟩ := announces
  have queues : call.queues = c.queues := by simp [RetryingCall.queues, waiting, awaits]
  have submits : call.submits = c.submits := by simp [RetryingCall.submits, waiting, awaits]
  set reply := (work env (Desk.accept staged env.now) outcome (s.db, s.desk) c).1
  have obeys : Announces stage (next reply) := later reply
  cases named : c.submits with
  | none =>
    have desks : desk = s.desk := by
      have unchanged : (work env (Desk.accept staged env.now) outcome (s.db, s.desk) c).2.2 = s.desk := by
        cases c with
        | service c =>
          cases c with
          | submitJob payload => cases named
          | _ => rfl
        | _ => rfl
      rw [← effect] at unchanged
      exact unchanged
    subst desks
    have free : stage = c.queues := by
      unfold WorkerCall.announced at allowed
      simp only [named, Option.all_none, if_true] at allowed
      exact (Option.some.inj allowed).symm
    refine sole.advanced at_k ⟨stage, obeys⟩ (fun i entry at_i => at_i) fun x => ?_
    dsimp only
    have bound := sole.weight x
    have old := armed_nonneg x call
    by_cases arms : RetryingCall.submits { call with rest := next reply } = some x
    · have stands : c.queues = some x := by
        rw [← free]
        exact submits_of_announces obeys arms
      obtain ⟨dead, alone⟩ := undisturbed call at_k x (queues.trans stands)
      have nobody : (s.calls.map (RetryingCall.armed x)).sum = 0 := by
        apply List.sum_eq_zero
        intro n member
        obtain ⟨other, present, rfl⟩ := List.mem_map.mp member
        exact if_neg (alone other present)
      have new : RetryingCall.armed x { call with rest := next reply } ≤ 1 := by
        unfold RetryingCall.armed
        split <;> omega
      omega
    · have new : RetryingCall.armed x { call with rest := next reply } = 0 := if_neg arms
      omega
  | some y =>
    obtain ⟨payload, rfl⟩ : ∃ payload, c = .service (.submitJob payload) := by
      cases c with
      | service c =>
        cases c with
        | submitJob payload => exact ⟨payload, rfl⟩
        | _ => cases named
      | _ => cases named
    obtain rfl : payload.jobId = y := Option.some.inj named
    have cleared : stage = none := by
      unfold WorkerCall.announced at allowed
      split at allowed
      · exact (Option.some.inj allowed).symm
      · cases allowed
    have grown := Desk.entries_accept s.desk staged env.now payload
    have left : desk = (Desk.accept staged env.now s.desk payload).2 := congrArg (·.2) effect
    rw [← left] at grown
    refine sole.advanced at_k ⟨stage, obeys⟩ (fun i entry at_i => ?_) fun x => ?_
    · rcases grown with same | longer
      · rw [same]
        exact at_i
      · rw [longer]
        exact List.getElem?_append_left (List.getElem?_eq_some_iff.mp at_i).1 ▸ at_i
    · dsimp only
      have bound := sole.weight x
      have more := live_append s.desk x payload env.now grown
      have new : RetryingCall.armed x { call with rest := next reply } = 0 := by
        apply if_neg
        intro arms
        rw [cleared] at obeys
        exact absurd (submits_of_announces obeys arms) (by simp)
      have old : call.armed x = if payload.jobId = x then 1 else 0 := by
        simp [RetryingCall.armed, submits, WorkerCall.submits]
      omega

theorem live_setEntry {desk : Desk} {i : Nat} {entry entry' : Entry} (at_i : desk.entries[i]? = some entry)
    (own : entry'.payload = entry.payload) (waiting : entry.stage = .waiting) (x : JobId) :
    (desk.setEntry i entry').live x ≤ desk.live x := by
  have less : entry'.live x = true → entry.live x = true := by
    intro alive
    have named : entry.payload.jobId = x := by
      have both := Bool.and_eq_true_iff.mp alive
      rw [← own]
      exact of_decide_eq_true both.1
    simp [Entry.live, named, waiting]
  have counted := sum_set (fun entry : Entry => if entry.live x then (1 : Int) else 0) at_i entry'
  have count (entries : List Entry) :
      (entries.map fun entry : Entry => if entry.live x then (1 : Int) else 0).sum = entries.countP (Entry.live x) := by
    induction entries with
    | nil => rfl
    | cons head tail ih =>
      rw [List.map_cons, List.sum_cons, List.countP_cons, ih]
      split <;> push_cast <;> omega
  rw [count, count] at counted
  show (desk.entries.set i entry').countP (Entry.live x) ≤ desk.entries.countP (Entry.live x)
  cases new : entry'.live x with
  | false =>
    simp only [new] at counted
    split at counted <;> simp at counted <;> omega
  | true =>
    simp only [new, less new, if_true] at counted
    omega

theorem after_payload (entry : Entry) (ended : Outcome Err Unit) : (entry.after ended).payload = entry.payload := by
  cases ended <;> rfl

/-- BullMQ hears how an attempt ended. -/
theorem Sole.conclude (sole : Sole s) (moved : s.step (.conclude k) = some s') : Sole s' := by
  simp only [step, Option.bind_eq_bind, Option.bind_eq_some_iff] at moved
  obtain ⟨call, at_k, i, own, entry, at_i, ended, _, same⟩ := moved
  obtain rfl := Option.some.inj same
  obtain ⟨found, at_i', waiting⟩ := sole.attached call (List.mem_of_getElem? at_k) i own
  obtain rfl : entry = found := Option.some.inj (at_i.symm.trans at_i')
  have before {j : Nat} {a : RetryingCall} {i' : Nat} (at_j : (s.calls.set k { rest := .done () })[j]? = some a)
      (named : a.entry = some i') : s.calls[j]? = some a ∧ j ≠ k := by
    rw [List.getElem?_set] at at_j
    split at at_j
    · split at at_j
      · obtain rfl := Option.some.inj at_j
        cases named
      · cases at_j
    · rename_i other
      exact ⟨at_j, Ne.symm other⟩
  constructor
  · intro x
    have bound := sole.weight x
    have old := armed_nonneg x call
    have fewer := live_setEntry at_i (after_payload entry ended) waiting x
    show ((s.desk.setEntry i (entry.after ended)).live x : Int) +
      ((s.calls.set k { rest := .done () }).map (RetryingCall.armed x)).sum ≤ 1
    have new : RetryingCall.armed x { rest := .done () } = 0 := unarmed_of_none rfl x
    rw [sum_set (RetryingCall.armed x) at_k, new]
    omega
  · intro other member
    rcases List.mem_or_eq_of_mem_set member with old | rfl
    · exact sole.announces other old
    · exact ⟨none, trivial⟩
  · intro other member i' named
    obtain ⟨j, at_j⟩ := List.mem_iff_getElem?.mp member
    obtain ⟨at_j', apart⟩ := before at_j named
    obtain ⟨entry', found, waits⟩ := sole.attached other (List.mem_of_getElem? at_j') i' named
    refine ⟨entry', ?_, waits⟩
    have elsewhere : i ≠ i' := by
      rintro rfl
      exact apart (sole.apart j k other call i at_j' at_k named own)
    show (s.desk.entries.set i _)[i']? = some entry'
    rw [List.getElem?_set_ne elsewhere, found]
  · intro j l a b i' at_j at_l first second
    exact sole.apart j l a b i' (before at_j first).1 (before at_l second).1 first second

theorem Sole.step (sole : Sole s) {event : RetryingEvent} (undisturbed : s.Undisturbed event)
    (moved : s.step event = some s') : Sole s' := by
  cases event with
  | retry jobId userId tenantId =>
    obtain rfl := Option.some.inj moved
    refine sole.append rfl (announces_bind (announces_retryFailedJob jobId userId tenantId) fun _ => trivial) fun i named => ?_
    cases named
  | pick i =>
    simp only [Retrying.step, Option.bind_eq_bind, Option.bind_eq_some_iff] at moved
    obtain ⟨entry, at_i, queueName, _, taken⟩ := moved
    split at taken
    · rename_i free
      obtain rfl := Option.some.inj taken
      refine sole.append rfl (announces_execute _) fun i' named => ?_
      obtain rfl : i = i' := Option.some.inj named
      exact ⟨⟨entry, at_i, free.1⟩, free.2⟩
    · cases taken
  | advance k env staged outcome => exact sole.advance undisturbed moved
  | conclude k => exact sole.conclude moved

theorem Sole.single (sole : Sole s) : s.Single := by
  have bounded (x : JobId) : s.desk.live x ≤ 1 := by
    have bound := sole.weight x
    have weights : 0 ≤ (s.calls.map (RetryingCall.armed x)).sum := by
      apply List.sum_nonneg
      intro n member
      obtain ⟨call, _, rfl⟩ := List.mem_map.mp member
      exact armed_nonneg x call
    omega
  refine ⟨bounded, fun j k a b x at_j at_k first second => ?_⟩
  have entryOf {j : Nat} {a : RetryingCall} (at_j : s.calls[j]? = some a) (executes : a.executes s.desk = some x) :
      ∃ i entry, a.entry = some i ∧ s.desk.entries[i]? = some entry ∧ entry.live x = true := by
    obtain ⟨i, named, rest⟩ := Option.bind_eq_some_iff.mp executes
    obtain ⟨entry, at_i, own⟩ := Option.map_eq_some_iff.mp rest
    obtain ⟨entry', at_i', waiting⟩ := sole.attached a (List.mem_of_getElem? at_j) i named
    obtain rfl : entry = entry' := Option.some.inj (at_i.symm.trans at_i')
    exact ⟨i, entry, named, at_i, by simp [Entry.live, own, waiting]⟩
  obtain ⟨i, entry, named, at_i, alive⟩ := entryOf at_j first
  obtain ⟨i', entry', named', at_i', alive'⟩ := entryOf at_k second
  have same : i = i' := by
    by_contra different
    have two := two_le_countP different at_i at_i' alive alive'
    have one := bounded x
    unfold Desk.live at one
    omega
  subst same
  exact sole.apart j k a b i at_j at_k named named'

/-- As long as a job is marked QUEUED only when it has no live entry and nobody else is about to submit it, no job has
    two live entries. -/
theorem entries_single {db : Db} {desk : Desk} (single : ∀ x, desk.live x ≤ 1)
    {visited : List (Retrying × RetryingEvent)} (run : retrying.Run (begin_ db desk) visited s)
    (undisturbed : Machine.Guarded Undisturbed visited) : s.Single := by
  have sole : Sole s := run.invariant Sole undisturbed (sole_begin single) fun s event s' sole undisturbed moved =>
    sole.step undisturbed moved
  exact sole.single

/-- A job without retries has failed, and its attempt is over. -/
def failedOnce : List WorkflowEvent :=
  [.create .plain false [{ key := "a", type := "send_email", retries := some 1 }] "user" "tenant", .start .plain 0,
    .finish .plain false 0 (.error { message := "" })]

def failed : Workflows := (workflows.exec .empty failedOnce).getD .empty

theorem failed_single (x : JobId) : failed.desk.live x ≤ 1 := by
  have length : failed.desk.entries.length ≤ 1 := by decide +kernel
  have counted := List.countP_le_length (p := Entry.live x) (l := failed.desk.entries)
  unfold Desk.live
  omega

def steps (k n : Nat) : List RetryingEvent := List.replicate n (.advance k .plain false (.ok none))

/-- It is retried, and a worker takes its new entry. -/
def retriedOnce : List RetryingEvent :=
  [.retry 1 "user" "tenant"] ++ steps 0 3 ++ [.pick 1] ++ steps 1 4

theorem entries_single_retriedOnce : ∃ s, retrying.exec (begin_ failed.db failed.desk) retriedOnce = some s ∧
    s.desk.live 1 = 1 ∧ s.Single := by
  have result : (retrying.exec (begin_ failed.db failed.desk) retriedOnce).map (fun s =>
      (s.desk.live 1, decide (Machine.Guarded Undisturbed
        (retrying.trace (begin_ failed.db failed.desk) retriedOnce)))) = some (1, true) := by decide +kernel
  obtain ⟨s, done, same⟩ := Option.map_eq_some_iff.mp result
  simp only [Prod.mk.injEq, decide_eq_true_eq] at same
  exact ⟨s, done, same.1, entries_single failed_single (Machine.run_of_exec done) same.2⟩

/-- Two users retry it: both read FAILED before either has written QUEUED. -/
def retriedTwice : List RetryingEvent :=
  [.retry 1 "user" "tenant", .retry 1 "user" "tenant"] ++ steps 0 1 ++ steps 1 1 ++ steps 0 2 ++ steps 1 2

theorem entries_twice : ¬ ∀ past start visited s, workflows.Run .empty past start → (∀ x, start.desk.live x ≤ 1) →
    retrying.Run (begin_ start.db start.desk) visited s → s.Single := by
  intro claim
  have created : workflows.exec .empty failedOnce = some failed := by decide +kernel
  have result : (retrying.exec (begin_ failed.db failed.desk) retriedTwice).map (fun s => s.desk.live 1) = some 2 := by
    decide +kernel
  obtain ⟨s, done, two⟩ := Option.map_eq_some_iff.mp result
  have one := (claim _ failed _ s (Machine.run_of_exec created) failed_single (Machine.run_of_exec done)).1 1
  omega

end Retrying
end OrchestrateModel
