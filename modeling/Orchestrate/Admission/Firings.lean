import Orchestrate.Admission.Accounting
import Orchestrate.Lifecycle.Release

namespace OrchestrateModel

open Effect Program BaseProcessor QueueReconcileCollector TenantCapService

/-- The slots of each tenant that a run has acquired and those that it has released. -/
structure Ledger where
  acquired : TenantId → Nat
  released : TenantId → Nat

/-- A release whose counter stays positive finds a payload that `drainOne` can enqueue. -/
def Store.Refills (st : Store) (tenantId : TenantId) : Prop :=
  0 ≤ st.redis.count (inflightKey tenantId) - 1 ∧
    ∃ payload ∈ (st.redis.lists (stagingKey tenantId)).head?, Routable payload.jobType

instance (st : Store) (tenantId : TenantId) : Decidable (st.Refills tenantId) := inferInstanceAs (Decidable (_ ∧ _))

namespace Ledger

def empty : Ledger := { acquired := fun _ => 0, released := fun _ => 0 }

def acquire (ledger : Ledger) (tenantId : TenantId) : Ledger :=
  { ledger with acquired := Function.update ledger.acquired tenantId (ledger.acquired tenantId + 1) }

def release (ledger : Ledger) (tenantId : TenantId) : Ledger :=
  { ledger with released := Function.update ledger.released tenantId (ledger.released tenantId + 1) }

/-- `submitJob` keeps its INCR unless it stages the payload. -/
def submitted (ledger : Ledger) (tenantId : TenantId) : Except Err JobStatus → Ledger
  | .ok .STAGED => ledger
  | _ => ledger.acquire tenantId

/-- The ledger after a call of a worker that finds a store. -/
def after (ledger : Ledger) (st : Store) : (c : WorkerCall) → Except Err c.Reply → Ledger
  | .service (.submitJob payload), reply => ledger.submitted payload.tenantId reply
  | .release tenantId _, _ =>
    if st.Refills tenantId then (ledger.release tenantId).acquire tenantId else ledger.release tenantId
  | _, _ => ledger

def work (env : Env) (outcome : Except Err (Option String)) : Handler workerSignature Err (Ledger × Db × Store) :=
  fun s c => ((Store.work env outcome s.2 c).1, s.1.after s.2.2 c (Store.work env outcome s.2 c).1,
    (Store.work env outcome s.2 c).2)

end Ledger

/-- Submissions, the runs of the workers, and BullMQ, which starts the runs of repeatable jobs by itself. -/
inductive RotaEvent : Type where
  | statement (env : Env) (c : DbCall)
  | submit (payload : JobQueuePayload)
  | refire (i : Nat)
  | promote (i : Nat)
  | take (i : Nat)
  | attempt (i : Nat) (env : Env) (outcome : Except Err (Option String))

structure Rota where
  ledger : Ledger
  db : Db
  store : Store
  /-- How often BullMQ has added a run of a tenant's repeatable jobs. -/
  refired : TenantId → Nat

namespace Rota

def empty : Rota := { ledger := .empty, db := .empty, store := .empty, refired := fun _ => 0 }

def setJob (s : Rota) (i : Nat) (job : QueuedJob) : Rota :=
  { s with store := { s.store with queued := s.store.queued.set i job } }

/-- The next run of a repeatable job. -/
def refire (s : Rota) (job : QueuedJob) : Rota :=
  { s with
    store := { s.store with
      queued := s.store.queued ++ [{ run := { job.run with attemptsMade := 0, timestamp := s.store.redis.now }, state := .delayed }] }
    refired := Function.update s.refired job.run.data.tenantId (s.refired job.run.data.tenantId + 1) }

def attempt (s : Rota) (i : Nat) (job : QueuedJob) (env : Env) (outcome : Except Err (Option String)) : Option Rota :=
  match (execute job.run).run (Ledger.work env outcome) (s.ledger, s.db, s.store) with
  | (.ok _, ledger, db, store) => some ({ s with ledger := ledger, db := db, store := store }.setJob i { job with state := .completed })
  | (.thrown _, ledger, db, store) => some ({ s with ledger := ledger, db := db, store := store }.setJob i job.failed)
  | (.hung, _) => none

def step (s : Rota) : RotaEvent → Option Rota
  | .statement env c => some { s with db := (s.db.exec env c).2 }
  | .submit payload => some { s with
      ledger := s.ledger.submitted payload.tenantId (s.store.submitJob payload).1
      store := (s.store.submitJob payload).2 }
  | .refire i => do
    let job ← s.store.queued[i]?
    if isRecurring job.run then some (s.refire job) else none
  | .promote i => do
    let job ← s.store.queued[i]?
    if job.state = .delayed then some (s.setJob i { job with state := BullMQ.ready job.run.opts }) else none
  | .take i => do
    let job ← s.store.queued[i]?
    if job.state = .waiting ∨ job.state = .prioritized then some (s.setJob i { job with state := .active }) else none
  | .attempt i env outcome => do
    let job ← s.store.queued[i]?
    if job.state = .active then s.attempt i job env outcome else none

end Rota

def rota : Machine Rota RotaEvent := ⟨Rota.step⟩

namespace QueuedJob

def ofTenant (tenantId : TenantId) (job : QueuedJob) : Bool := job.run.data.tenantId = tenantId

/-- A run of the tenant that has not ended. -/
def open_ (tenantId : TenantId) (job : QueuedJob) : Bool := job.ofTenant tenantId && job.state.inflight

/-- A run of a repeatable job. -/
def fires (tenantId : TenantId) (job : QueuedJob) : Bool := job.ofTenant tenantId && isRecurring job.run

end QueuedJob

namespace Rota

/-- The tenant's repeatable jobs that were admitted. -/
def admitted (s : Rota) (tenantId : TenantId) : Int :=
  (s.store.queued.countP (QueuedJob.fires tenantId) : Int) - s.refired tenantId

/-- The runs of them that have ended. -/
def fired (s : Rota) (tenantId : TenantId) : Int :=
  s.store.queued.countP fun job => job.fires tenantId && !job.state.inflight

/-- The tenant's admitted jobs that run once and are not final. -/
def unfinished (s : Rota) (tenantId : TenantId) : Int :=
  s.store.queued.countP fun job => job.open_ tenantId && !isRecurring job.run

/-- Each release has its acquisition, so that the counter covers the jobs that run once. -/
structure Matched (s : Rota) (tenantId : TenantId) : Prop where
  released : s.ledger.released tenantId ≤ s.ledger.acquired tenantId
  covered : s.unfinished tenantId ≤ s.store.redis.count (inflightKey tenantId)

/-- A run of a repeatable job ends only while fewer runs have ended than repeatable jobs of the tenant were admitted. -/
def Owned (s : Rota) : RotaEvent → Prop
  | .attempt i _ outcome => ∀ job ∈ s.store.queued[i]?, isRecurring job.run = true →
      outcome.toBool || isFinalFailure job.run → s.fired job.run.data.tenantId < s.admitted job.run.data.tenantId
  | _ => True

end Rota

section Counts

variable {queued more : List QueuedJob} {tenantId : TenantId} {payload : JobQueuePayload}

/-- A queue that is offered a payload has at most one more open run, of the payload's tenant. -/
theorem open_add_le (now : Nat) (queued : List QueuedJob) (name : String) (payload : JobQueuePayload) (options : JobsOptions)
    (tenantId : TenantId) : (BullMQ.add now queued name payload options).countP (QueuedJob.open_ tenantId) ≤
      queued.countP (QueuedJob.open_ tenantId) + if payload.tenantId = tenantId then 1 else 0 := by
  unfold BullMQ.add
  split
  · exact Nat.le_add_right _ _
  · rw [List.countP_append, List.countP_singleton]
    by_cases own : payload.tenantId = tenantId
    · rw [if_pos own]
      refine Nat.add_le_add_left ?_ _
      generalize QueuedJob.open_ tenantId _ = opens
      cases opens <;> decide
    · simp [QueuedJob.open_, QueuedJob.ofTenant, own]

theorem countP_grown (holds : queued <+: more) (p : QueuedJob → Bool) : queued.countP p ≤ more.countP p := by
  obtain ⟨added, rfl⟩ := holds
  rw [List.countP_append]
  exact Nat.le_add_right _ _

theorem countP_split (p q : QueuedJob → Bool) (queued : List QueuedJob) :
    queued.countP p = queued.countP (fun job => p job && q job) + queued.countP (fun job => p job && !q job) := by
  induction queued with
  | nil => rfl
  | cons job rest ih =>
    simp only [List.countP_cons, ih]
    cases p job <;> cases q job <;> simp <;> omega

end Counts

/-- The counter is what the ledger says, and it covers the open runs but for some that are owed; payloads are staged under
    their tenants, and the queues hold some jobs. -/
structure Fair (owed : TenantId → Int) (queued : List QueuedJob) (ledger : Ledger) (st : Store) : Prop where
  staged : ∀ tenantId, ∀ payload ∈ st.redis.lists (stagingKey tenantId), payload.tenantId = tenantId
  balance : ∀ tenantId, st.redis.count (inflightKey tenantId) + ledger.released tenantId = ledger.acquired tenantId
  covers : ∀ tenantId, (st.queued.countP (QueuedJob.open_ tenantId) : Int) ≤ st.redis.count (inflightKey tenantId) + owed tenantId
  holds : queued <+: st.queued

section Slots

variable {owed : TenantId → Int} {queued : List QueuedJob} {ledger : Ledger} {st st' : Store} {tenantId : TenantId}
  {payload : JobQueuePayload}

/-- Another state of the store with the same slots, lists and queues. -/
theorem Fair.same (fair : Fair owed queued ledger st) (lists : st'.redis.lists = st.redis.lists)
    (counts : ∀ key, st'.redis.count key = st.redis.count key) (jobs : st'.queued = st.queued) : Fair owed queued ledger st' := by
  refine ⟨fun tenantId => ?_, fun tenantId => ?_, fun tenantId => ?_, ?_⟩
  · rw [lists]
    exact fair.staged tenantId
  · rw [counts]
    exact fair.balance tenantId
  · rw [counts, jobs]
    exact fair.covers tenantId
  · rw [jobs]
    exact fair.holds

/-- A slot is acquired, and its payload is offered to a queue or not. -/
theorem Fair.acquired (fair : Fair owed queued ledger st)
    (counts : ∀ other, st'.redis.count (inflightKey other) = st.redis.count (inflightKey other) + if other = tenantId then 1 else 0)
    (staged : ∀ other, ∀ payload ∈ st'.redis.lists (stagingKey other), payload.tenantId = other)
    (opens : ∀ other, st'.queued.countP (QueuedJob.open_ other) ≤
      st.queued.countP (QueuedJob.open_ other) + if tenantId = other then 1 else 0)
    (grows : st.queued <+: st'.queued) : Fair owed queued (ledger.acquire tenantId) st' := by
  refine ⟨staged, fun other => ?_, fun other => ?_, fair.holds.trans grows⟩
  · have balance := fair.balance other
    rw [counts]
    by_cases own : other = tenantId
    · subst own
      simp only [Ledger.acquire, Function.update_self, if_true]
      push_cast
      omega
    · simpa [Ledger.acquire, own] using balance
  · have covers := fair.covers other
    have offered := opens other
    rw [counts]
    by_cases own : other = tenantId
    · subst own
      simp only [if_true] at offered ⊢
      omega
    · simp only [own, Ne.symm own, if_false] at offered ⊢
      omega

theorem Fair.submitJob (fair : Fair owed queued ledger st) (payload : JobQueuePayload) :
    Fair owed queued (ledger.submitted payload.tenantId (st.submitJob payload).1) (st.submitJob payload).2 := by
  have counted (other : TenantId) : (st.counted payload).redis.count (inflightKey other) =
      st.redis.count (inflightKey other) + if other = payload.tenantId then 1 else 0 := by
    unfold Store.counted
    rw [taking_count]
    simp
  have lists : (st.counted payload).redis.lists = st.redis.lists := taking_lists _ _
  have ran := run_submitJob st payload
  unfold Store.submitJob Store.perform
  by_cases free : st.redis.count (inflightKey payload.tenantId) + 1 ≤ MAX_CONCURRENT_PER_TENANT
  · cases placed : getQueueName payload.jobType with
    | some queueName =>
      rw [run_placeJob_free _ _ free placed] at ran
      rw [ran]
      refine fair.acquired counted (fun other => ?_) (fun other => ?_) (Store.prefix_add _ _ _ _ _)
      · rw [lists]
        exact fair.staged other
      · exact open_add_le _ _ _ _ _ _
    | none =>
      have threw : (placeJob payload (st.redis.count (inflightKey payload.tenantId) + 1)).run Store.serve (st.counted payload) =
          (.thrown { message := "no queue found for this jobtype \"" ++ payload.jobType ++ "\"" }, st.counted payload) := by
        unfold placeJob enqueue
        rw [if_pos free, placed]
        rfl
      rw [ran, threw]
      refine fair.acquired counted (fun other => ?_) (fun other => Nat.le_add_right _ _) List.prefix_rfl
      rw [lists]
      exact fair.staged other
  · rw [run_placeJob_full _ _ free] at ran
    rw [ran]
    refine ⟨fun other waiting member => ?_, fun other => ?_, fun other => ?_, fair.holds⟩
    · dsimp only at member
      simp only [Redis.lists_setField, Redis.lists_setList, Redis.lists_add, lists] at member
      by_cases own : other = payload.tenantId
      · subst own
        rw [Function.update_self] at member
        rcases List.mem_append.mp member with earlier | last
        · exact fair.staged _ waiting earlier
        · rw [List.mem_singleton.mp last]
      · rw [Function.update_of_ne (by simpa using own)] at member
        exact fair.staged other waiting member
    · have balance := fair.balance other
      have same : ledger.submitted payload.tenantId (.ok .STAGED) = ledger := rfl
      rw [same]
      simp only [Redis.count_setField, Redis.count_setList, Redis.count_add, counted, inflightKey_inj]
      split <;> omega
    · have covers := fair.covers other
      simp only [Redis.count_setField, Redis.count_setList, Redis.count_add, counted, inflightKey_inj]
      change (st.queued.countP (QueuedJob.open_ other) : Int) ≤ _
      split <;> omega

/-- A run that is about to end no longer needs its slot. -/
def dismissed (owed : TenantId → Int) (tenantId : TenantId) : TenantId → Int :=
  Function.update owed tenantId (owed tenantId + 1)

/-- A slot is released, and its counter stays positive. -/
theorem Fair.lowered (fair : Fair owed queued ledger st) (tenantId : TenantId) :
    Fair (dismissed owed tenantId) queued (ledger.release tenantId)
      { st with redis := st.redis.add (inflightKey tenantId) (-1) } := by
  refine ⟨fair.staged, fun other => ?_, fun other => ?_, fair.holds⟩
  · have balance := fair.balance other
    simp only [Redis.count_add, inflightKey_inj]
    by_cases own : other = tenantId
    · subst own
      simp only [Ledger.release, Function.update_self, if_true]
      push_cast
      omega
    · simpa [Ledger.release, own] using balance
  · have covers := fair.covers other
    simp only [Redis.count_add, inflightKey_inj, dismissed]
    by_cases own : other = tenantId
    · subst own
      rw [Function.update_self, if_pos rfl]
      omega
    · rw [Function.update_of_ne own, if_neg own]
      omega

theorem popped_count (redis : Redis) (tenantId : TenantId) (payload : JobQueuePayload) (key : String) :
    (redis.popped tenantId payload).count key = redis.count key := rfl

theorem popped_lists (redis : Redis) (tenantId : TenantId) (payload : JobQueuePayload) :
    (redis.popped tenantId payload).lists =
      Function.update redis.lists (stagingKey tenantId) (redis.lists (stagingKey tenantId)).tail := rfl

/-- What `drainOne` does to the slots. -/
theorem Fair.drainOne (fair : Fair owed queued ledger st) (tenantId : TenantId) (queueName : String) :
    Fair owed queued
      (if ∃ payload ∈ (st.redis.lists (stagingKey tenantId)).head?, Routable payload.jobType then ledger.acquire tenantId else ledger)
      (Store.perform (TenantCapService.drainOne tenantId queueName) st).2 := by
  cases waits : st.redis.lists (stagingKey tenantId) with
  | nil =>
    rw [Store.perform_of_run (run_drainOne_nil st queueName waits)]
    simp only [List.head?_nil, Option.mem_def, reduceCtorEq, false_and]
    exact fair.same (Function.update_eq_self_iff.mpr waits.symm) (fun _ => rfl) rfl
  | cons payload rest =>
    have own : payload.tenantId = tenantId := fair.staged tenantId payload (by rw [waits]; exact List.mem_cons_self)
    simp only [List.head?_cons, Option.mem_def, Option.some.injEq, exists_eq_left']
    by_cases routable : Routable payload.jobType
    · rw [if_pos routable]
      obtain ⟨queue, placed⟩ := routable
      rw [Store.perform_of_run (run_drainOne_adds st queueName waits placed)]
      refine fair.acquired (fun other => ?_) (fun other waiting member => ?_) (fun other => ?_) (Store.prefix_add _ _ _ _ _)
      · simp [Redis.unpending, popped_count]
      · simp only [Redis.unpending, Redis.lists_setField, Redis.lists_add, popped_lists, waits, List.tail_cons] at member
        by_cases same : other = tenantId
        · subst same
          rw [Function.update_self] at member
          exact fair.staged other waiting (by rw [waits]; exact List.mem_cons_of_mem _ member)
        · rw [Function.update_of_ne (by simpa using same)] at member
          exact fair.staged other waiting member
      · rw [← own]
        exact open_add_le _ _ _ _ _ _
    · rw [if_neg routable]
      have unplaced : getQueueName payload.jobType = none := by
        cases placed : getQueueName payload.jobType with
        | none => rfl
        | some queue => exact absurd ⟨queue, placed⟩ routable
      rw [Store.perform_of_run (run_drainOne_returns st queueName waits unplaced)]
      refine fair.same ?_ (fun _ => rfl) rfl
      simp only [Redis.unpending, Redis.lists_setField, Redis.lists_setList, popped_lists, Function.update_self, waits,
        List.tail_cons, Function.update_idem]
      exact Function.update_eq_self_iff.mpr waits.symm

/-- A release of a slot that is covered. -/
theorem Fair.release (fair : Fair owed queued ledger st) (tenantId : TenantId) (queueName : String)
    (due : owed tenantId < queued.countP (QueuedJob.open_ tenantId)) :
    Fair (dismissed owed tenantId) queued
      (if st.Refills tenantId then (ledger.release tenantId).acquire tenantId else ledger.release tenantId)
      (Store.perform (TenantCapService.release tenantId queueName) st).2 := by
  have covers := fair.covers tenantId
  have grows := countP_grown fair.holds (QueuedJob.open_ tenantId)
  have held : ¬ st.redis.count (inflightKey tenantId) - 1 < 0 := by omega
  have drained := (fair.lowered tenantId).drainOne tenantId queueName
  have same : Store.perform (TenantCapService.release tenantId queueName) st =
      Store.perform (TenantCapService.drainOne tenantId queueName) { st with redis := st.redis.add (inflightKey tenantId) (-1) } := by
    rw [Store.perform, Store.perform, run_release st queueName held]
  have refills : st.Refills tenantId ↔
      ∃ payload ∈ (st.redis.lists (stagingKey tenantId)).head?, Routable payload.jobType :=
    and_iff_right (by omega)
  rw [same]
  simp only [refills]
  exact drained

end Slots

section Attempt

variable {α : Type} {env : Env} {outcome : Except Err (Option String)} {owed : TenantId → Int} {queued : List QueuedJob}
  {s : Ledger × Db × Store} {job : BullJob}

theorem Fair.call (fair : Fair owed queued s.1 s.2.2) {c : WorkerCall} (unreleased : c.isRelease = false) :
    Fair owed queued (Ledger.work env outcome s c).2.1 (Ledger.work env outcome s c).2.2.2 := by
  obtain ⟨ledger, db, st⟩ := s
  have incremented (key field : String) : Fair owed queued ledger (Store.perform (increment key field) st).2 := by
    rw [Store.perform_of_run (run_increment st key field)]
    exact fair.same rfl (fun _ => rfl) rfl
  cases c with
  | service call =>
    cases call with
    | submitJob payload => exact fair.submitJob payload
    | _ => exact fair
  | release tenantId queueName => cases unreleased
  | process | record => exact fair
  | incrementCompleted queueName => exact incremented (terminalKey queueName) "completed"
  | incrementFailed queueName => exact incremented (terminalKey queueName) "failed"

/-- A part of an attempt, from a state to the states that it can end in. -/
abbrev Closing {α : Type} (env : Env) (outcome : Except Err (Option String)) (ok : α → Ledger × Db × Store → Prop)
    (thrown : Err → Ledger × Db × Store → Prop) (program : WorkerProgram α) (s : Ledger × Db × Store) : Prop :=
  Safe (Ledger.work env outcome) (fun _ _ => True) (fun _ _ => True) ok thrown program s

theorem ends_unreleased {program : WorkerProgram α} (only : program.Only fun c : WorkerCall => c.isRelease = false)
    (fair : Fair owed queued s.1 s.2.2) :
    Closing env outcome (fun _ s' => Fair owed queued s'.1 s'.2.2) (fun _ s' => Fair owed queued s'.1 s'.2.2) program s := by
  induction program generalizing s with
  | done value => exact fair
  | throws error => exact fair
  | hangs => trivial
  | call c next ih => exact fun _ => ⟨trivial, ih _ (only.2 _) (fair.call only.1)⟩

/-- Calls that the tables and the metrics answer do not throw. -/
theorem ends_sure {program : WorkerProgram α} (calm : program.Calm) (only : program.Only WorkerCall.Sure)
    (fair : Fair owed queued s.1 s.2.2) {thrown : Err → Ledger × Db × Store → Prop} :
    Closing env outcome (fun _ s' => Fair owed queued s'.1 s'.2.2) thrown program s := by
  induction program generalizing s with
  | done value => exact fair
  | throws error => exact calm.elim
  | hangs => trivial
  | call c next ih =>
    intro _
    refine ⟨trivial, ?_⟩
    have unreleased : c.isRelease = false := only.1.1.bookkeeping.2
    obtain ⟨reply, answer⟩ := only.1.answered env outcome s.2
    have replied : (Ledger.work env outcome s c).1 = .ok reply := answer
    rw [replied]
    exact ih (.ok reply) (calm.2 reply) (only.2 _) (fair.call unreleased)

theorem sure_clock : (onServices clock).Only WorkerCall.Sure :=
  only_onServices (only_await (S := serviceSignature) ⟨trivial, by simp [WorkerCall.Silent, ServiceCall.Silent], trivial⟩)

theorem sure_query {c : DbCall} (handles : ServiceCall.Handles (.db c)) : (onServices (query c)).Only WorkerCall.Sure :=
  only_onServices
    (only_await (S := serviceSignature) ⟨trivial, by simp [WorkerCall.Silent, ServiceCall.Silent], handles⟩)

theorem unreleased_onServices (program : ServiceProgram α) : (onServices program).Only fun c : WorkerCall => c.isRelease = false :=
  (preparatory_onServices program).mono fun _ prepares => prepares.bookkeeping.2

/-- The rest of a successful attempt does not throw. -/
theorem ends_afterSuccess (attempt : Attempt) (result : Option String) (fair : Fair owed queued s.1 s.2.2) :
    Closing env outcome (fun _ s' => Fair owed queued s'.1 s'.2.2) (fun _ _ => False) (afterSuccess job attempt result) s := by
  have closes (finish : Nat) {s : Ledger × Db × Store} (fair : Fair owed queued s.1 s.2.2) :
      Closing env outcome (fun _ s' => Fair owed queued s'.1 s'.2.2) (fun _ _ => False)
        ((record (.jobCompleted job.queueName job.data.jobType job.data.priorityLevel
          (((finish : Rat) - attempt.executeStart) / 1000) attempt.waitSeconds)).bind
            fun _ => incrementCompleted job.queueName) s :=
    fun _ => ⟨trivial, fun _ => ⟨trivial, (fair.call (c := .record _) rfl).call (c := .incrementCompleted _) rfl⟩⟩
  simp only [afterSuccess, bind_eq]
  refine (ends_sure calm_clock sure_clock fair).seq fun now s₁ fair => (ends_sure calm_clock sure_clock fair).seq
    fun finish s₂ fair => ?_
  refine (ends_sure (calm_query _) (sure_query (by trivial)) fair).seq fun _ s₃ fair =>
    (ends_sure (calm_query _) (sure_query (by trivial)) fair).seq fun _ s₄ fair => ?_
  split
  · apply Safe.bind
    apply Safe.capture
    exact (ends_unreleased (unreleased_onServices _) fair).mono (fun _ _ same => same)
      (fun _ _ fair => closes finish fair) fun _ _ fair => closes finish fair
  · exact closes finish fair

theorem ends_settle (attempt : Attempt) (fair : Fair owed queued s.1 s.2.2) :
    Closing env outcome (fun _ s' => outcome.toBool = true ∧ Fair owed queued s'.1 s'.2.2)
      (fun _ s' => outcome.toBool = false ∧ Fair owed queued s'.1 s'.2.2) (settle job attempt outcome) s := by
  cases outcome with
  | ok result =>
    apply Safe.catching
    exact (ends_afterSuccess attempt result fair).mono (fun _ _ same => same) (fun _ _ fair => ⟨rfl, fair⟩)
      fun _ _ impossible => impossible.elim
  | error error =>
    show Safe _ _ _ _ _ (afterFailure job attempt error) s
    rw [afterFailure_eq]
    have recorded : (recordFailure job attempt error).Only fun c : WorkerCall => c.isRelease = false :=
      (bookkeeping_recordFailure job attempt error).mono fun _ books => books.2
    exact ((ends_unreleased recorded fair).mono (fun _ _ same => same) (fun _ _ fair => fair) fun _ _ fair => ⟨rfl, fair⟩).seq
      fun _ _ fair => ((ends_unreleased (unreleased_onServices _) fair).mono (fun _ _ same => same) (fun _ _ fair => fair)
        fun _ _ fair => ⟨rfl, fair⟩).seq fun _ _ fair => ⟨rfl, fair⟩

/-- The slot of a run that ends is released. -/
theorem ends_release (due : owed job.data.tenantId < queued.countP (QueuedJob.open_ job.data.tenantId))
    (fair : Fair owed queued s.1 s.2.2) :
    Closing env outcome (fun _ s' => Fair (dismissed owed job.data.tenantId) queued s'.1 s'.2.2) (fun _ _ => False)
      (BaseProcessor.release job.data.tenantId job.queueName).capture s := by
  apply Safe.capture
  intro _
  refine ⟨trivial, ?_⟩
  have released := fair.release job.data.tenantId job.queueName due
  cases (Ledger.work env outcome s (.release job.data.tenantId job.queueName)).1 with
  | ok _ => exact released
  | error _ => exact released

/-- A job that may end finds a slot of its own. -/
def Due (owed : TenantId → Int) (queued : List QueuedJob) (outcome : Except Err (Option String)) (job : BullJob) : Prop :=
  isRecurring job = false ∨ outcome.toBool || isFinalFailure job →
    owed job.data.tenantId < queued.countP (QueuedJob.open_ job.data.tenantId)

theorem ends_afterProcess (due : Due owed queued outcome job) (attempt : Attempt) (fair : Fair owed queued s.1 s.2.2) :
    Closing env outcome (fun _ s' => outcome.toBool = true ∧ Fair (dismissed owed job.data.tenantId) queued s'.1 s'.2.2)
      (fun _ s' => Fair (if isFinalFailure job then dismissed owed job.data.tenantId else owed) queued s'.1 s'.2.2)
      (afterProcess job attempt outcome) s := by
  rw [afterProcess_eq]
  apply Safe.bind
  apply Safe.capture
  refine (ends_settle attempt fair).mono (fun _ _ same => same) (fun _ s₁ both => ?_) fun error s₁ both => ?_
  · obtain ⟨succeeds, fair⟩ := both
    rw [succeeds, Bool.true_or, if_pos rfl]
    apply Safe.bind
    exact (ends_release (due (.inr (by rw [succeeds]; rfl))) fair).mono (fun _ _ same => same)
      (fun _ _ fair => ⟨rfl, fair⟩) fun _ _ impossible => impossible.elim
  · obtain ⟨fails, fair⟩ := both
    rw [fails, Bool.false_or]
    cases final : isFinalFailure job with
    | false => exact fair
    | true =>
      rw [if_pos rfl]
      apply Safe.bind
      exact (ends_release (due (.inr (by rw [final, Bool.or_true]))) fair).mono (fun _ _ same => same) (fun _ _ fair => fair)
        fun _ _ impossible => impossible.elim

/-- An attempt gives its slot back exactly if the job ends with it. -/
theorem ends_execute (due : Due owed queued outcome job) (fair : Fair owed queued s.1 s.2.2) :
    Closing env outcome
      (fun _ s' => (isRecurring job = true → outcome.toBool = true) ∧
        Fair (dismissed owed job.data.tenantId) queued s'.1 s'.2.2)
      (fun _ s' => Fair (if isFinalFailure job then dismissed owed job.data.tenantId else owed) queued s'.1 s'.2.2)
      (execute job) s := by
  have looks : (lookup job).Only WorkerCall.Sure :=
    sure_clock.bind fun _ => sure_clock.bind fun _ => (sure_query (by trivial)).bind fun _ => only_done _
  rw [execute_eq]
  refine (ends_sure (calm_lookup job) looks fair).seq fun found s₁ fair => ?_
  obtain ⟨executeStart, now, existingJob⟩ := found
  dsimp only
  by_cases skips : shortcut job existingJob = true
  · rw [if_pos skips]
    have once : isRecurring job = false := by
      unfold shortcut at skips
      rw [Bool.and_eq_true, Bool.not_eq_true'] at skips
      exact skips.2
    apply Safe.bind
    refine (ends_release (due (.inl once)) fair).mono (fun _ _ same => same) (fun _ _ fair => ⟨fun recurs => ?_, fair⟩)
      fun _ _ impossible => impossible.elim
    rw [once] at recurs
    cases recurs
  · rw [if_neg skips]
    refine (ends_sure (calm_register job executeStart now _) (sure_register job executeStart now _) fair).seq
      fun attempt s₂ fair => ?_
    apply Safe.bind
    apply Safe.capture
    refine fun _ => ⟨trivial, ?_⟩
    have processed : Closing env outcome (fun _ s' => (isRecurring job = true → outcome.toBool = true) ∧
        Fair (dismissed owed job.data.tenantId) queued s'.1 s'.2.2)
        (fun _ s' => Fair (if isFinalFailure job then dismissed owed job.data.tenantId else owed) queued s'.1 s'.2.2)
        (afterProcess job attempt outcome) s₂ :=
      (ends_afterProcess due attempt fair).mono (fun _ _ same => same) (fun _ _ both => ⟨fun _ => both.1, both.2⟩)
        fun _ _ fair => fair
    cases outcome with
    | ok result => exact processed
    | error error => exact processed

end Attempt

section Runs

variable {s s' : Rota} {i : Nat} {old new : QueuedJob} {tenantId : TenantId} {queued : List QueuedJob}

theorem countP_replace (at_i : queued[i]? = some old) (new : QueuedJob) (p : QueuedJob → Bool) :
    (queued.set i new).countP p + (if p old then 1 else 0) = queued.countP p + if p new then 1 else 0 := by
  obtain ⟨bound, here⟩ := List.getElem?_eq_some_iff.mp at_i
  have sets := List.countP_set (p := p) (a := new) bound
  rw [here] at sets
  have counted : p old = true → 0 < queued.countP p := fun counts =>
    List.countP_pos_iff.mpr ⟨old, List.mem_of_getElem? at_i, counts⟩
  rw [sets]
  cases was : p old with
  | false => simp
  | true =>
    have some := counted was
    simp only [if_true]
    omega

/-- The open runs of repeatable jobs. -/
def Rota.awaited (s : Rota) (tenantId : TenantId) : Nat :=
  s.store.queued.countP fun job => job.fires tenantId && job.state.inflight

theorem Rota.fired_add (s : Rota) (tenantId : TenantId) :
    s.fired tenantId + s.awaited tenantId = s.store.queued.countP (QueuedJob.fires tenantId) := by
  have split := countP_split (QueuedJob.fires tenantId) (fun job => job.state.inflight) s.store.queued
  unfold Rota.fired Rota.awaited
  omega

theorem Rota.unfinished_add (s : Rota) (tenantId : TenantId) :
    s.unfinished tenantId + s.awaited tenantId = s.store.queued.countP (QueuedJob.open_ tenantId) := by
  have split := countP_split (QueuedJob.open_ tenantId) (fun job => isRecurring job.run) s.store.queued
  have same : s.awaited tenantId = s.store.queued.countP fun job => job.open_ tenantId && isRecurring job.run := by
    unfold Rota.awaited
    congr 1
    funext job
    exact Bool.and_right_comm _ _ _
  unfold Rota.unfinished
  omega

/-- The ledger is even, and as many runs of repeatable jobs are open as BullMQ has added. -/
structure Rota.Even (s : Rota) : Prop where
  fair : Fair (fun tenantId => s.refired tenantId) [] s.ledger s.store
  backed : ∀ tenantId, s.refired tenantId ≤ s.awaited tenantId

theorem Rota.Even.matched (even : s.Even) (tenantId : TenantId) : s.Matched tenantId := by
  have balance := even.fair.balance tenantId
  have covers := even.fair.covers tenantId
  have backed := even.backed tenantId
  have parts := s.unfinished_add tenantId
  have counted : 0 ≤ s.unfinished tenantId := Int.natCast_nonneg _
  constructor <;> omega

theorem even_empty : Rota.empty.Even where
  fair :=
    { staged := fun _ _ member => absurd member List.not_mem_nil
      balance := fun _ => rfl
      covers := fun _ => Int.le_refl _
      holds := List.nil_prefix }
  backed _ := Nat.le_refl _

theorem Fair.trusts {owed : TenantId → Int} {ledger : Ledger} {st : Store} (fair : Fair owed queued ledger st) :
    Fair owed [] ledger st := { fair with holds := List.nil_prefix }

/-- A job of the queues is replaced, and what is owed makes up for it. -/
theorem Fair.set {owed owed' : TenantId → Int} {ledger : Ledger} {st : Store} (fair : Fair owed queued ledger st)
    (at_i : st.queued[i]? = some old) (new : QueuedJob)
    (owes : ∀ tenantId, owed tenantId + (if new.open_ tenantId then 1 else 0) ≤
      owed' tenantId + if old.open_ tenantId then 1 else 0) :
    Fair owed' [] ledger { st with queued := st.queued.set i new } := by
  refine ⟨fair.staged, fair.balance, fun tenantId => ?_, List.nil_prefix⟩
  have replaced := countP_replace at_i new (QueuedJob.open_ tenantId)
  have covers := fair.covers tenantId
  have makes := owes tenantId
  dsimp only
  split at replaced <;> split at replaced <;> simp_all <;> omega

/-- A job that BullMQ moves between the states of a run that has not ended. -/
theorem Rota.Even.moved (even : s.Even) (at_i : s.store.queued[i]? = some old) {state : BullState}
    (was : old.state.inflight = true) (is_ : state.inflight = true) : (s.setJob i { old with state := state }).Even := by
  have open_ (tenantId : TenantId) : QueuedJob.open_ tenantId { old with state := state } = old.open_ tenantId := by
    simp [QueuedJob.open_, QueuedJob.ofTenant, was, is_]
  refine ⟨even.fair.set at_i _ fun tenantId => ?_, fun tenantId => ?_⟩
  · rw [open_]
    exact Int.le_refl _
  · have backed := even.backed tenantId
    have replaced := countP_replace at_i { old with state := state } fun job => job.fires tenantId && job.state.inflight
    have same : (QueuedJob.fires tenantId { old with state := state } && state.inflight) =
        (old.fires tenantId && old.state.inflight) := by
      rw [was, is_]
      rfl
    dsimp only at replaced
    rw [same] at replaced
    show s.refired tenantId ≤ (s.store.queued.set i { old with state := state }).countP _
    unfold Rota.awaited at backed
    omega

theorem Rota.Even.refire (even : s.Even) (recurs : isRecurring old.run = true) : (s.refire old).Even := by
  have added (p : QueuedJob → Bool) : (s.refire old).store.queued.countP p = s.store.queued.countP p +
      if p { run := { old.run with attemptsMade := 0, timestamp := s.store.redis.now }, state := .delayed } then 1 else 0 := by
    show (_ ++ [_]).countP p = _
    rw [List.countP_append, List.countP_singleton]
  have own (tenantId : TenantId) : ((s.refire old).refired tenantId : Int) =
      s.refired tenantId + if old.ofTenant tenantId then 1 else 0 := by
    by_cases same : old.run.data.tenantId = tenantId
    · subst same
      simp [Rota.refire, QueuedJob.ofTenant]
    · simp [Rota.refire, QueuedJob.ofTenant, same, Ne.symm same]
  refine ⟨⟨even.fair.staged, even.fair.balance, fun tenantId => ?_, List.nil_prefix⟩, fun tenantId => ?_⟩
  · have covers := even.fair.covers tenantId
    rw [added]
    dsimp only at covers ⊢
    rw [own]
    have opens : QueuedJob.open_ tenantId
        { run := { old.run with attemptsMade := 0, timestamp := s.store.redis.now }, state := .delayed } = old.ofTenant tenantId :=
      Bool.and_true _
    rw [opens]
    change _ ≤ s.store.redis.count (inflightKey tenantId) + _
    cases mine : old.ofTenant tenantId with
    | true =>
      rw [if_pos rfl, if_pos rfl]
      omega
    | false =>
      rw [if_neg Bool.false_ne_true, if_neg Bool.false_ne_true]
      omega
  · have backed := even.backed tenantId
    have counted := own tenantId
    unfold Rota.awaited at backed ⊢
    rw [added]
    have fires : (QueuedJob.fires tenantId
        { run := { old.run with attemptsMade := 0, timestamp := s.store.redis.now }, state := .delayed } &&
          BullState.delayed.inflight) = old.ofTenant tenantId := by
      show ((old.ofTenant tenantId && isRecurring old.run) && true) = _
      rw [recurs, Bool.and_true, Bool.and_true]
    rw [fires]
    cases mine : old.ofTenant tenantId with
    | true =>
      rw [mine, if_pos rfl] at counted
      rw [if_pos rfl]
      omega
    | false =>
      rw [mine, if_neg Bool.false_ne_true] at counted
      rw [if_neg Bool.false_ne_true]
      omega

theorem Rota.Even.submit (even : s.Even) (payload : JobQueuePayload) :
    Rota.Even { s with
      ledger := s.ledger.submitted payload.tenantId (s.store.submitJob payload).1
      store := (s.store.submitJob payload).2 } := by
  have all : Fair (fun tenantId => s.refired tenantId) s.store.queued s.ledger s.store :=
    { even.fair with holds := List.prefix_rfl }
  have submitted := all.submitJob payload
  exact ⟨submitted.trusts, fun tenantId => (even.backed tenantId).trans (countP_grown submitted.holds _)⟩

/-- The job at a place ends or is tried again, after an attempt that has given its slot back or kept it. -/
theorem Rota.Even.ended {ledger : Ledger} {db : Db} {store : Store} (even : s.Even) (active : old.state = .active)
    (at_i : s.store.queued[i]? = some old) (data : new.run.data = old.run.data) (options : new.run.opts = old.run.opts)
    (fair : Fair (if new.state.inflight then fun tenantId => s.refired tenantId
      else dismissed (fun tenantId => s.refired tenantId) old.run.data.tenantId) s.store.queued ledger store)
    (spare : isRecurring old.run = true → new.state.inflight = false →
      s.refired old.run.data.tenantId < s.awaited old.run.data.tenantId) :
    Rota.Even ({ s with ledger := ledger, db := db, store := store }.setJob i new) := by
  have kept : store.queued[i]? = some old := by
    obtain ⟨bound, here⟩ := List.getElem?_eq_some_iff.mp at_i
    rw [List.prefix_iff_getElem?.mp fair.holds i bound, here]
  have mine (tenantId : TenantId) : new.ofTenant tenantId = old.ofTenant tenantId := by
    unfold QueuedJob.ofTenant
    rw [data]
  have recurs : isRecurring new.run = isRecurring old.run := by
    unfold isRecurring
    rw [options]
  have running : old.state.inflight = true := by rw [active]; rfl
  refine ⟨?_, fun tenantId => ?_⟩
  · refine fair.set kept new fun tenantId => ?_
    show _ ≤ (s.refired tenantId : Int) + _
    simp only [QueuedJob.open_, mine, running, Bool.and_true]
    cases goes : new.state.inflight with
    | true =>
      rw [if_pos rfl, Bool.and_true]
    | false =>
      rw [if_neg Bool.false_ne_true, Bool.and_false, if_neg Bool.false_ne_true]
      by_cases own : tenantId = old.run.data.tenantId
      · subst own
        simp [dismissed, QueuedJob.ofTenant]
      · simp [dismissed, QueuedJob.ofTenant, own, Ne.symm own]
  · have backed := even.backed tenantId
    have grows := countP_grown fair.holds fun job => job.fires tenantId && job.state.inflight
    have replaced := countP_replace kept new fun job => job.fires tenantId && job.state.inflight
    show s.refired tenantId ≤ (store.queued.set i new).countP _
    simp only [QueuedJob.fires, mine, recurs, running, Bool.and_true] at replaced grows ⊢
    have awaited : s.awaited tenantId = s.store.queued.countP fun job =>
      job.ofTenant tenantId && isRecurring job.run && job.state.inflight := rfl
    rw [awaited] at backed
    cases goes : new.state.inflight with
    | true =>
      rw [goes, Bool.and_true] at replaced
      omega
    | false =>
      rw [goes, Bool.and_false, if_neg Bool.false_ne_true] at replaced
      by_cases fires : (old.ofTenant tenantId && isRecurring old.run) = true
      · rw [if_pos fires] at replaced
        obtain ⟨own, recurs⟩ := Bool.and_eq_true_iff.mp fires
        obtain rfl : old.run.data.tenantId = tenantId := of_decide_eq_true own
        have some := spare recurs goes
        rw [awaited] at some
        omega
      · rw [if_neg fires] at replaced
        omega

/-- An open job of a tenant finds a slot when each open run of a repeatable job that BullMQ has added does. -/
theorem Rota.Even.due {env : Env} {outcome : Except Err (Option String)} (even : s.Even) (at_i : s.store.queued[i]? = some old)
    (active : old.state = .active) (owned : s.Owned (.attempt i env outcome)) :
    Due (fun tenantId => s.refired tenantId) s.store.queued outcome old.run := by
  have parts := s.unfinished_add old.run.data.tenantId
  have backed := even.backed old.run.data.tenantId
  intro ends
  dsimp only
  cases recurs : isRecurring old.run with
  | false =>
    have counts : (old.open_ old.run.data.tenantId && !isRecurring old.run) = true := by
      simp [QueuedJob.open_, QueuedJob.ofTenant, active, BullState.inflight, recurs]
    have some : 0 < s.unfinished old.run.data.tenantId :=
      Int.natCast_pos.mpr (List.countP_pos_iff.mpr ⟨old, List.mem_of_getElem? at_i, counts⟩)
    omega
  | true =>
    have released := ends.resolve_left (by simp [recurs])
    have below := owned old at_i recurs released
    have fired := s.fired_add old.run.data.tenantId
    have counted : 0 ≤ s.unfinished old.run.data.tenantId := Int.natCast_nonneg _
    unfold Rota.admitted at below
    omega

theorem Rota.Even.attempt {env : Env} {outcome : Except Err (Option String)} (even : s.Even)
    (at_i : s.store.queued[i]? = some old) (active : old.state = .active) (owned : s.Owned (.attempt i env outcome))
    (stepped : s.attempt i old env outcome = some s') : s'.Even := by
  have all : Fair (fun tenantId => s.refired tenantId) s.store.queued s.ledger s.store :=
    { even.fair with holds := List.prefix_rfl }
  have ends : Closing env outcome _ _ (execute old.run) (s.ledger, s.db, s.store) :=
    ends_execute (even.due at_i active owned) all
  have spare (recurs : isRecurring old.run = true) (released : outcome.toBool || isFinalFailure old.run) :
      s.refired old.run.data.tenantId < s.awaited old.run.data.tenantId := by
    have below := owned old at_i recurs released
    have fired := s.fired_add old.run.data.tenantId
    unfold Rota.admitted at below
    omega
  unfold Rota.attempt at stepped
  cases ran : run (Ledger.work env outcome) (execute old.run) (s.ledger, s.db, s.store) with
  | mk outcome' left =>
    rw [ran] at stepped
    obtain ⟨ledger, db, store⟩ := left
    cases outcome' with
    | hung => cases stepped
    | ok value =>
      obtain ⟨succeeds, fair⟩ := ends.returns (fun _ _ => trivial) ran
      obtain rfl := Option.some.inj stepped
      exact even.ended active at_i rfl rfl fair fun recurs _ => spare recurs (by rw [succeeds recurs]; rfl)
    | thrown error =>
      have fair := ends.rethrows (fun _ _ => trivial) ran
      obtain rfl := Option.some.inj stepped
      refine even.ended active at_i rfl rfl ?_ fun recurs ended => spare recurs ?_
      · rw [inflight_failed]
        cases final : isFinalFailure old.run with
        | true => rwa [final] at fair
        | false => rwa [final] at fair
      · rw [inflight_failed, Bool.not_eq_false'] at ended
        rw [ended, Bool.or_true]

theorem Rota.Even.step {e : RotaEvent} (even : s.Even) (owned : s.Owned e) (stepped : rota.step s e = some s') : s'.Even := by
  cases e with
  | statement env c =>
    obtain rfl := Option.some.inj stepped
    exact ⟨even.fair, even.backed⟩
  | submit payload =>
    obtain rfl := Option.some.inj stepped
    exact even.submit payload
  | refire i =>
    obtain ⟨job, at_i, fires⟩ := Option.bind_eq_some_iff.mp stepped
    split at fires
    · rename_i recurs
      obtain rfl := Option.some.inj fires
      exact even.refire recurs
    · cases fires
  | promote i =>
    obtain ⟨job, at_i, moves⟩ := Option.bind_eq_some_iff.mp stepped
    split at moves
    · rename_i delayed
      obtain rfl := Option.some.inj moves
      refine even.moved at_i (by rw [delayed]; rfl) ?_
      unfold BullMQ.ready
      split <;> rfl
    · cases moves
  | take i =>
    obtain ⟨job, at_i, moves⟩ := Option.bind_eq_some_iff.mp stepped
    split at moves
    · rename_i waits
      obtain rfl := Option.some.inj moves
      refine even.moved at_i ?_ rfl
      rcases waits with waits | waits <;> rw [waits] <;> rfl
    · cases moves
  | attempt i env outcome =>
    obtain ⟨job, at_i, runs⟩ := Option.bind_eq_some_iff.mp stepped
    split at runs
    · rename_i active
      exact even.attempt at_i active owned runs
    · cases runs

/-- Slots acquired and released match in every state of a run in which no run of a repeatable job ends beyond the number
    of repeatable jobs that were admitted. -/
theorem matched_throughout {visited : List (Rota × RotaEvent)} (run : rota.Run .empty visited s)
    (owned : Machine.Guarded Rota.Owned visited) (tenantId : TenantId) :
    (∀ v ∈ visited, v.1.Matched tenantId) ∧ s.Matched tenantId := by
  obtain ⟨before, last⟩ := run.throughout Rota.Even owned even_empty fun _ _ _ even owned stepped => even.step owned stepped
  exact ⟨fun v member => (before v member).matched tenantId, last.matched tenantId⟩

end Runs

section Examples

def cronPayload : JobQueuePayload :=
  { jobId := 0, jobType := "send_email", tenantId := "t", retries := 1, cron := some "* * * * *", queueName := "email-jobs" }

instance (s : Rota) : (e : RotaEvent) → Decidable (s.Owned e)
  | .statement _ _ | .submit _ | .refire _ | .promote _ | .take _ => inferInstanceAs (Decidable True)
  | .attempt i _ outcome => inferInstanceAs (Decidable (∀ job ∈ s.store.queued[i]?, isRecurring job.run = true →
      outcome.toBool || isFinalFailure job.run → s.fired job.run.data.tenantId < s.admitted job.run.data.tenantId))

/-- A repeatable job and one that runs once, and a first run of the former. -/
def firstFiring : List RotaEvent :=
  [.submit cronPayload, .submit { cronPayload with jobId := 1, cron := none }, .take 0, .attempt 0 Env.plain (.ok none)]

/-- BullMQ runs the repeatable job again. -/
def secondFiring : List RotaEvent := firstFiring ++ [.refire 0, .promote 2, .take 2, .attempt 2 Env.plain (.ok none)]

theorem matched_first : ∃ s, rota.exec .empty firstFiring = some s ∧ s.Matched "t" := by
  have done : (rota.exec .empty firstFiring).isSome = true := by decide +kernel
  obtain ⟨s, ran⟩ := Option.isSome_iff_exists.mp done
  have owned : Machine.Guarded Rota.Owned (rota.trace .empty firstFiring) := by decide +kernel
  exact ⟨s, ran, (matched_throughout (Machine.run_of_exec ran) owned "t").2⟩

/-- Both runs of the repeatable job release a slot: none is left for the job that runs once. -/
theorem unmatched_second : ∃ visited s, rota.Run .empty visited s ∧ s.unfinished "t" = 1 ∧
    s.store.redis.count (inflightKey "t") = 0 ∧ ¬ s.Matched "t" := by
  have done : ((rota.exec .empty secondFiring).any fun s => s.unfinished "t" = 1 ∧
      s.store.redis.count (inflightKey "t") = 0) = true := by decide +kernel
  obtain ⟨s, ran, counted⟩ := (Option.any_eq_true _ _).mp done
  obtain ⟨open_, none⟩ := of_decide_eq_true counted
  refine ⟨_, s, Machine.run_of_exec ran, open_, none, fun matched => ?_⟩
  have covered := matched.covered
  rw [open_, none] at covered
  exact absurd covered (by decide)

end Examples

end OrchestrateModel
