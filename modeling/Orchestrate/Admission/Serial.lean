import Mathlib.Data.List.Perm.Subperm
import Orchestrate.Admission.Guarantees
import Orchestrate.Ledger.Fifo

namespace OrchestrateModel

open Effect TenantCapService QueueReconcileCollector Ledger

/-- `submitJob` and `release` calls that each run to their end before the next one starts. -/
structure Serial where
  redis : Redis
  submitted : List JobQueuePayload
  enqueued : List JobQueuePayload
  released : List JobQueuePayload

inductive SerialEvent : Type where
  | submit (payload : JobQueuePayload)
  | release (payload : JobQueuePayload) (queueName : String)
  deriving DecidableEq

/-- A list of payloads, as far as it is the tenant's. -/
def ofTenant (tenantId : TenantId) (payloads : List JobQueuePayload) : List JobQueuePayload :=
  payloads.filter fun payload => payload.tenantId = tenantId

namespace Serial

def empty : Serial := { redis := .empty, submitted := [], enqueued := [], released := [] }

def serve : Handler capSignature Err Serial := fun s c =>
  (.ok (s.redis.exec c).1, { s with redis := (s.redis.exec c).2, enqueued := s.enqueued ++ c.added.toList })

/-- Only a job that is enqueued and not yet released is released. -/
def step (s : Serial) : SerialEvent → Option Serial
  | .submit payload =>
    some { (Program.run serve (submitJob payload) s).2 with submitted := s.submitted ++ [payload] }
  | .release payload queueName =>
    if s.released.count payload < s.enqueued.count payload then
      some { (Program.run serve (release payload.tenantId queueName) s).2 with released := s.released ++ [payload] }
    else none

/-- What is staged is the tenant's own, and a queue takes it. -/
def Homed (s : Serial) : Prop :=
  ∀ tenantId, ∀ payload ∈ s.redis.lists (stagingKey tenantId), payload.tenantId = tenantId ∧ Routable payload.jobType

/-- A tenant's part of the state. -/
def fifo (tenantId : TenantId) (s : Serial) : Fifo JobQueuePayload :=
  { arrived := ofTenant tenantId s.submitted
    started := ofTenant tenantId s.enqueued
    waiting := s.redis.lists (stagingKey tenantId)
    finished := (ofTenant tenantId s.released).length
    slots := s.redis.count (inflightKey tenantId) }

end Serial

def serial : Machine Serial SerialEvent := ⟨Serial.step⟩

section OfTenant

variable {tenantId : TenantId} {payload : JobQueuePayload} {payloads more : List JobQueuePayload}

@[simp] theorem ofTenant_append :
    ofTenant tenantId (payloads ++ more) = ofTenant tenantId payloads ++ ofTenant tenantId more := List.filter_append ..

@[simp] theorem ofTenant_own (own : payload.tenantId = tenantId) : ofTenant tenantId [payload] = [payload] := by
  simp [ofTenant, own]

end OfTenant

namespace Serial

variable {s s' : Serial} {tenantId : TenantId} {payload : JobQueuePayload} {queueName : String} {slots : Int}
  {waiting started : List JobQueuePayload}

/-- A call of the tenant brings its counter to `slots` and its list to `waiting`, and enqueues `started`. -/
structure Turn (s : Serial) (tenantId : TenantId) (slots : Int) (waiting started : List JobQueuePayload)
    (s' : Serial) : Prop where
  slots : s'.redis.count (inflightKey tenantId) = slots
  waiting : s'.redis.lists (stagingKey tenantId) = waiting
  enqueued : s'.enqueued = s.enqueued ++ started
  others : ∀ other, other ≠ tenantId → s'.redis.count (inflightKey other) = s.redis.count (inflightKey other) ∧
    s'.redis.lists (stagingKey other) = s.redis.lists (stagingKey other)
  submitted : s'.submitted = s.submitted
  released : s'.released = s.released

theorem turn_done (count : s.redis.count (inflightKey tenantId) = slots)
    (list : s.redis.lists (stagingKey tenantId) = waiting) : s.Turn tenantId slots waiting [] s :=
  ⟨count, list, (List.append_nil _).symm, fun _ _ => ⟨rfl, rfl⟩, rfl, rfl⟩

/-- A call takes up its whole run: it goes on from one awaited call to the next. -/
theorem Turn.before (thread thread' : Thread) {c : CapCall} (next : thread.next = some c)
    (resume : thread.resume s.redis = thread')
    (rest : (serve s c).2.Turn thread.tenantId slots waiting started
      (Program.run serve thread'.code (serve s c).2).2) :
    s.Turn thread.tenantId slots waiting (c.added.toList ++ started) (Program.run serve thread.code s).2 := by
  obtain ⟨after, code, resumed⟩ := (thread.follows s.redis).awaits c next
  have ran : Program.run serve thread.code s = Program.run serve thread'.code (serve s c).2 := by
    rw [code, ← resume, resumed]
    rfl
  rw [ran]
  constructor
  · exact rest.slots
  · exact rest.waiting
  · rw [rest.enqueued, ← List.append_assoc]
    rfl
  · intro other apart
    obtain ⟨count, list⟩ := rest.others other apart
    obtain ⟨count', list'⟩ := thread.frame next apart.symm s.redis
    exact ⟨count.trans count', list.trans list'⟩
  · exact rest.submitted
  · exact rest.released

theorem run_submitJob (payload : JobQueuePayload) (s : Serial) :
    (Program.run serve (submitJob payload) s).2 =
      (Program.run serve (Thread.submit payload .countSubmitted).code s).2 := by
  have same : (Thread.submit payload .countSubmitted).code = (submitJob payload).bind fun _ => .done () := rfl
  rw [same, Program.run_bind]
  split <;> simp_all

theorem added_turn (routable : Routable payload.jobType) (count : s.redis.count (inflightKey payload.tenantId) = slots)
    (list : s.redis.lists (stagingKey payload.tenantId) = waiting) :
    s.Turn payload.tenantId slots waiting [payload] (Program.run serve (Thread.submit payload .add).code s).2 := by
  obtain ⟨queue, placed⟩ := routable
  have next : (Thread.submit payload .add).next = some (.queueAdd queue payload (jobsOptions payload)) := by
    simp [Thread.next, placed]
  refine Turn.before (.submit payload .add) (.submit payload (.returned .QUEUED)) next rfl (turn_done ?_ ?_)
  · rw [← count]
    exact Redis.count_exec ..
  · rw [← list]
    exact Redis.lists_exec ..

theorem submitJob_admits (routable : Routable payload.jobType)
    (free : s.redis.count (inflightKey payload.tenantId) + 1 ≤ MAX_CONCURRENT_PER_TENANT) :
    s.Turn payload.tenantId (s.redis.count (inflightKey payload.tenantId) + 1)
      (s.redis.lists (stagingKey payload.tenantId)) [payload] (Program.run serve (submitJob payload) s).2 := by
  rw [run_submitJob]
  refine Turn.before (.submit payload .countSubmitted) (.submit payload .incr) rfl rfl ?_
  by_cases first : s.redis.count (inflightKey payload.tenantId) + 1 = 1
  · refine Turn.before (.submit payload .incr) (.submit payload .expire) rfl ?_ ?_
    · simp [Thread.resume, serve, Redis.count_exec, first]
    refine Turn.before (.submit payload .expire) (.submit payload .add) rfl rfl (added_turn routable ?_ ?_)
    · simp [serve, Redis.count_exec]
    · simp [serve, Redis.lists_exec]
  · refine Turn.before (.submit payload .incr) (.submit payload .add) rfl ?_ (added_turn routable ?_ ?_)
    · simp [Thread.resume, serve, Redis.count_exec, first, free]
    · simp [serve, Redis.count_exec]
    · simp [serve, Redis.lists_exec]

theorem submitJob_parks (full : ¬ s.redis.count (inflightKey payload.tenantId) + 1 ≤ MAX_CONCURRENT_PER_TENANT) :
    s.Turn payload.tenantId (s.redis.count (inflightKey payload.tenantId))
      (s.redis.lists (stagingKey payload.tenantId) ++ [payload]) [] (Program.run serve (submitJob payload) s).2 := by
  have later : ¬ s.redis.count (inflightKey payload.tenantId) + 1 = 1 := by
    simp only [MAX_CONCURRENT_PER_TENANT] at full
    omega
  rw [run_submitJob]
  refine Turn.before (.submit payload .countSubmitted) (.submit payload .incr) rfl rfl ?_
  refine Turn.before (.submit payload .incr) (.submit payload .decr) rfl ?_ ?_
  · simp [Thread.resume, serve, Redis.count_exec, later, full]
  refine Turn.before (.submit payload .decr) (.submit payload .rpush) rfl rfl ?_
  refine Turn.before (.submit payload .rpush) (.submit payload .countStaged) rfl rfl ?_
  refine Turn.before (.submit payload .countStaged) (.submit payload .llen) rfl rfl ?_
  refine Turn.before (.submit payload .llen) (.submit payload (.returned .STAGED)) rfl rfl (turn_done ?_ ?_)
  · simp [serve, Redis.count_exec, Thread.tenantId]
  · simp [serve, Redis.lists_exec, Thread.tenantId]

theorem release_idle (held : 0 < s.redis.count (inflightKey tenantId))
    (idle : s.redis.lists (stagingKey tenantId) = []) (queueName : String) :
    s.Turn tenantId (s.redis.count (inflightKey tenantId) - 1) [] []
      (Program.run serve (release tenantId queueName) s).2 := by
  have nonneg : ¬ s.redis.count (inflightKey tenantId) - 1 < 0 := by omega
  refine Turn.before (.release tenantId .decr) (.release tenantId .lpop) rfl ?_ ?_
  · simp [Thread.resume, nonneg]
  refine Turn.before (.release tenantId .lpop) (.release tenantId .returned) rfl ?_ (turn_done ?_ ?_)
  · simp [Thread.resume, serve, Redis.lists_exec, idle]
  · simp [serve, Redis.count_exec, Thread.tenantId]
  · simp [serve, Redis.lists_exec, Thread.tenantId, idle]

theorem release_drains {rest : List JobQueuePayload} (held : 0 < s.redis.count (inflightKey tenantId))
    (waits : s.redis.lists (stagingKey tenantId) = payload :: rest) (routable : Routable payload.jobType)
    (queueName : String) :
    s.Turn tenantId (s.redis.count (inflightKey tenantId)) rest [payload]
      (Program.run serve (release tenantId queueName) s).2 := by
  obtain ⟨queue, placed⟩ := routable
  have nonneg : ¬ s.redis.count (inflightKey tenantId) - 1 < 0 := by omega
  have adds : (Thread.release tenantId (.add payload)).next = some (.queueAdd queue payload (jobsOptions payload)) := by
    simp [Thread.next, placed]
  refine Turn.before (.release tenantId .decr) (.release tenantId .lpop) rfl ?_ ?_
  · simp [Thread.resume, nonneg]
  refine Turn.before (.release tenantId .lpop) (.release tenantId (.stagedGet payload)) rfl ?_ ?_
  · simp [Thread.resume, serve, Redis.lists_exec, waits]
  refine Turn.before (.release tenantId (.stagedGet payload)) (.release tenantId (.stagedSet payload _)) rfl rfl ?_
  refine Turn.before (.release tenantId (.stagedSet payload _)) (.release tenantId (.pending payload)) rfl rfl ?_
  refine Turn.before (.release tenantId (.pending payload)) (.release tenantId (.add payload)) rfl rfl ?_
  refine Turn.before (.release tenantId (.add payload)) (.release tenantId (.incr payload)) adds rfl ?_
  refine Turn.before (.release tenantId (.incr payload)) (.release tenantId (.pendingGet payload)) rfl rfl ?_
  refine Turn.before (.release tenantId (.pendingGet payload)) (.release tenantId (.pendingSet payload _)) rfl rfl ?_
  refine Turn.before (.release tenantId (.pendingSet payload _)) (.release tenantId .returned) rfl rfl (turn_done ?_ ?_)
  · simp [serve, Redis.count_exec, Thread.tenantId]
  · simp [serve, Redis.lists_exec, Thread.tenantId, waits]

/-- The released payloads are among the enqueued ones. -/
def Accounted (s : Serial) : Prop := ∀ payload, s.released.count payload ≤ s.enqueued.count payload

structure Sound (s : Serial) : Prop where
  homed : s.Homed
  accounted : s.Accounted
  conserving : ∀ tenantId, (s.fifo tenantId).Conserving 5

/-- No payload is submitted that `enqueue` throws on. -/
def Places (_ : Serial) : SerialEvent → Prop
  | .submit payload => Routable payload.jobType
  | .release _ _ => True

instance (s : Serial) (e : SerialEvent) : Decidable (Places s e) := by
  unfold Places
  split <;> infer_instance

theorem sound_empty : Serial.empty.Sound where
  homed := by
    intro tenantId payload member
    cases member
  accounted := fun _ => Nat.le_refl _
  conserving := fun _ => Fifo.conserving_empty

theorem ofTenant_foreign {other : TenantId} {payloads : List JobQueuePayload} (apart : other ≠ tenantId)
    (own : ∀ payload ∈ payloads, payload.tenantId = tenantId) : ofTenant other payloads = [] := by
  simp only [ofTenant, List.filter_eq_nil_iff, decide_eq_true_eq]
  intro payload member same
  exact apart (same.symm.trans (own payload member))

/-- A turn of one tenant is a move in its part, and no move in the part of another. -/
theorem Sound.turn {s'' : Serial} (new gone : List JobQueuePayload) (m : FifoMove JobQueuePayload) (sound : s.Sound)
    (turn : s.Turn tenantId slots waiting started s')
    (parked : ∀ payload ∈ waiting, payload.tenantId = tenantId ∧ Routable payload.jobType)
    (own : ∀ payload ∈ started ++ new ++ gone, payload.tenantId = tenantId)
    (accounted : ∀ payload, (s.released ++ gone).count payload ≤ (s.enqueued ++ started).count payload)
    (moved : (s.fifo tenantId).step 5 m = some
      { arrived := ofTenant tenantId (s.submitted ++ new)
        started := ofTenant tenantId (s.enqueued ++ started)
        waiting := waiting
        finished := (ofTenant tenantId (s.released ++ gone)).length
        slots := slots })
    (result : s'' = { s' with submitted := s.submitted ++ new, released := s.released ++ gone }) : s''.Sound := by
  subst result
  constructor
  · intro other payload member
    by_cases same : other = tenantId
    · subst same
      have waits : payload ∈ s'.redis.lists (stagingKey other) := member
      rw [turn.waiting] at waits
      exact parked payload waits
    · have waits : payload ∈ s'.redis.lists (stagingKey other) := member
      rw [(turn.others other same).2] at waits
      exact sound.homed other payload waits
  · intro payload
    dsimp only
    rw [turn.enqueued]
    exact accounted payload
  · intro other
    by_cases same : other = tenantId
    · subst same
      have conserving := Fifo.conserving_step (sound.conserving other) moved
      simpa only [fifo, turn.enqueued, turn.slots, turn.waiting] using conserving
    · obtain ⟨count, list⟩ := turn.others other same
      have foreign : ∀ payloads : List JobQueuePayload, payloads ⊆ started ++ new ++ gone →
          ofTenant other payloads = [] :=
        fun payloads within => ofTenant_foreign same fun payload member => own payload (within member)
      have conserving := sound.conserving other
      simpa only [fifo, turn.enqueued, count, list, ofTenant_append, foreign started (by simp),
        foreign new (by simp), foreign gone (by simp), List.append_nil] using conserving

theorem sound_submit (sound : s.Sound) (routable : Routable payload.jobType)
    (step : s.step (.submit payload) = some s') : s'.Sound := by
  obtain rfl := Option.some.inj step
  have parked := sound.homed payload.tenantId
  by_cases free : s.redis.count (inflightKey payload.tenantId) + 1 ≤ MAX_CONCURRENT_PER_TENANT
  · have turn := submitJob_admits routable free
    apply sound.turn [payload] [] (.arrive payload) turn parked
    · simp
    · intro other
      rw [List.append_nil, List.count_append]
      exact Nat.le_add_right_of_le (sound.accounted other)
    · have slot : (s.fifo payload.tenantId).slots + 1 ≤ (5 : Nat) := free
      exact (if_pos slot).trans (by simp [fifo])
    · rw [List.append_nil, ← turn.released]
  · have turn := submitJob_parks free
    apply sound.turn [payload] [] (.arrive payload) turn
    · intro other member
      rcases List.mem_append.mp member with before | last
      · exact parked other before
      · rw [List.mem_singleton.mp last]
        exact ⟨rfl, routable⟩
    · simp
    · intro other
      rw [List.append_nil, List.append_nil]
      exact sound.accounted other
    · have slot : ¬ (s.fifo payload.tenantId).slots + 1 ≤ (5 : Nat) := free
      exact (if_neg slot).trans (by simp [fifo])
    · rw [List.append_nil, ← turn.released]

/-- A tenant has more enqueued than released jobs as long as one of them is unreleased. -/
theorem Sound.unreleased (sound : s.Sound) (pending : s.released.count payload < s.enqueued.count payload) :
    (ofTenant payload.tenantId s.released).length < (ofTenant payload.tenantId s.enqueued).length := by
  have among : (s.released ++ [payload]).Subperm s.enqueued := by
    rw [List.subperm_ext_iff]
    intro other _
    rw [List.count_append, List.count_singleton]
    have before := sound.accounted other
    split
    · rename_i same
      obtain rfl := eq_of_beq same
      omega
    · omega
  have shorter := (among.filter fun other => other.tenantId = payload.tenantId).length_le
  rw [List.filter_append, List.length_append] at shorter
  simp only [List.filter_cons, decide_true, if_true, List.filter_nil, List.length_singleton] at shorter
  exact shorter

theorem sound_release (sound : s.Sound) (step : s.step (.release payload queueName) = some s') : s'.Sound := by
  simp only [Serial.step] at step
  split at step
  · rename_i pending
    obtain rfl := Option.some.inj step
    have more := sound.unreleased pending
    have slots : s.redis.count (inflightKey payload.tenantId) =
      (ofTenant payload.tenantId s.enqueued).length - (ofTenant payload.tenantId s.released).length :=
        (sound.conserving payload.tenantId).slots
    have parked := sound.homed payload.tenantId
    have accounted (started : List JobQueuePayload) (other : JobQueuePayload) :
        (s.released ++ [payload]).count other ≤ (s.enqueued ++ started).count other := by
      rw [List.count_append, List.count_append, List.count_singleton]
      have before := sound.accounted other
      split
      · rename_i same
        obtain rfl := eq_of_beq same
        omega
      · omega
    have allowed : (s.fifo payload.tenantId).finished < (s.fifo payload.tenantId).started.length := more
    cases waits : s.redis.lists (stagingKey payload.tenantId) with
    | nil =>
      have turn := release_idle (s := s) (by omega) waits queueName
      apply sound.turn [] [payload] .finish turn
      · simp
      · simp
      · exact accounted []
      · exact (if_pos allowed).trans (by simp [fifo, waits])
      · rw [List.append_nil, ← turn.submitted]
    | cons head rest =>
      obtain ⟨own, routable⟩ := parked head (by simp [waits])
      have turn := release_drains (s := s) (by omega) waits routable queueName
      apply sound.turn [] [payload] .finish turn
      · intro other member
        exact parked other (by simp [waits, member])
      · simp [own]
      · exact accounted [head]
      · exact (if_pos allowed).trans (by simp [fifo, waits, own])
      · rw [List.append_nil, ← turn.submitted]
  · cases step

/-- After `s` submissions and `r` releases of a tenant its first `min s (MAX_CONCURRENT_PER_TENANT + r)` submissions
    have been enqueued, in order, and the others are staged. -/
theorem admitted_in_order {visited : List (Serial × SerialEvent)} (run : serial.Run .empty visited s)
    (places : Machine.Guarded Places visited) (tenantId : TenantId) :
    let e := min (ofTenant tenantId s.submitted).length
      (MAX_CONCURRENT_PER_TENANT.toNat + (ofTenant tenantId s.released).length)
    ofTenant tenantId s.enqueued = (ofTenant tenantId s.submitted).take e ∧
      s.redis.lists (stagingKey tenantId) = (ofTenant tenantId s.submitted).drop e ∧
      s.redis.count (inflightKey tenantId) = e - (ofTenant tenantId s.released).length := by
  have sound : s.Sound := by
    refine run.invariant Sound places sound_empty fun s e s' sound places step => ?_
    cases e with
    | submit payload => exact sound_submit sound places step
    | release payload queueName => exact sound_release sound step
  have conserving := sound.conserving tenantId
  refine ⟨conserving.started_eq, conserving.waiting_eq, ?_⟩
  have slots := conserving.slots
  rw [conserving.length] at slots
  exact slots

/-- Five jobs are admitted and a sixth is staged, which the release of one drains. -/
def sixRun : List SerialEvent :=
  List.replicate 6 (.submit Admission.sample) ++ [.release Admission.sample "email-jobs"]

theorem admitted_in_order_sixRun : ∃ s, serial.exec .empty sixRun = some s ∧
    ofTenant "t" s.enqueued = List.replicate 6 Admission.sample ∧ s.redis.lists (stagingKey "t") = [] ∧
      s.redis.count (inflightKey "t") = 5 := by
  have result : (serial.exec .empty sixRun).map (fun s => (ofTenant "t" s.submitted, ofTenant "t" s.released)) =
      some (List.replicate 6 Admission.sample, [Admission.sample]) := by decide +kernel
  obtain ⟨s, done, parts⟩ := Option.map_eq_some_iff.mp result
  obtain ⟨submitted, released⟩ := Prod.mk.inj parts
  have admitted := admitted_in_order (Machine.run_of_exec done) (by decide +kernel) "t"
  rw [submitted, released] at admitted
  exact ⟨s, done, admitted.1, admitted.2.1, admitted.2.2⟩

end Serial
end OrchestrateModel
