import Orchestrate.Admission.Failure
import Orchestrate.Ledger.Sorting
import Orchestrate.Submission.Entry

namespace OrchestrateModel

open Effect Program TenantCapService Sorting

/-- The tenant's side while a batch is submitted: after each submission some of its running jobs are released. -/
structure Gate where
  intake : Intake
  running : Nat
  releases : List (List String)
  seen : List Intake
  popped : List JobQueuePayload
  decided : List JobStatus

namespace Gate

def start (intake : Intake) (running : Nat) (releases : List (List String)) : Gate :=
  { intake := intake, running := running, releases := releases, seen := [], popped := [], decided := [] }

/-- The state after a call that runs to its end. -/
def after (g : Gate) (intake : Intake) : Gate :=
  { g with
    intake := intake
    running := g.running + (intake.enqueued.length - g.intake.enqueued.length)
    seen := g.seen ++ [intake] }

/-- The release of a running job, if there is one; `popped` notes what it takes from the staging list. -/
def release (refuses : JobQueuePayload → Option Err) (tenantId : TenantId) (g : Gate) (queueName : String) : Gate :=
  let popping : Gate :=
    { g with
      running := g.running - 1
      popped := g.popped ++ (g.intake.redis.lists (stagingKey tenantId)).head?.toList }
  if g.running = 0 then g
  else popping.after ((TenantCapService.release tenantId queueName).run (Intake.serve refuses) g.intake).2

/-- The call of `submitJob`; `decided` notes what became of the payload. -/
def place (refuses : JobQueuePayload → Option Err) (g : Gate) (payload : JobQueuePayload) : Gate :=
  let intake := ((submitJob payload).run (Intake.serve refuses) g.intake).2
  let deciding : Gate :=
    { g with
      releases := g.releases.tail
      decided := g.decided ++ [if intake.enqueued = g.intake.enqueued then .STAGED else .QUEUED] }
  deciding.after intake

/-- A submission, and the releases that follow it. -/
def submit (refuses : JobQueuePayload → Option Err) (tenantId : TenantId) (g : Gate) (payload : JobQueuePayload) :
    Except Err JobStatus × Gate :=
  (match ((submitJob payload).run (Intake.serve refuses) g.intake).1 with
    | .ok status => .ok status
    | .thrown error => .error error
    | .hung => .error { message := "" },
    (g.releases.headD []).foldl (release refuses tenantId) (g.place refuses payload))

/-- The counter is the number of running jobs, at most the cap, and the cap if payloads are staged. -/
structure Balanced (tenantId : TenantId) (g : Gate) : Prop where
  running : g.intake.redis.count (inflightKey tenantId) = g.running
  capped : g.intake.redis.count (inflightKey tenantId) ≤ MAX_CONCURRENT_PER_TENANT
  full : g.intake.redis.lists (stagingKey tenantId) ≠ [] →
    g.intake.redis.count (inflightKey tenantId) = MAX_CONCURRENT_PER_TENANT

/-- Of the payloads that were staged at first or submitted since, the first `n` are enqueued and the others wait. -/
structure Queued (tenantId : TenantId) (start : Intake) (submitted : List JobQueuePayload) (n : Nat) (s : Intake) : Prop where
  within : n ≤ (start.redis.lists (stagingKey tenantId) ++ submitted).length
  enqueued : s.enqueued = start.enqueued ++ (start.redis.lists (stagingKey tenantId) ++ submitted).take n
  waiting : s.redis.lists (stagingKey tenantId) = (start.redis.lists (stagingKey tenantId) ++ submitted).drop n

/-- Now, and whenever a call had returned, the submissions have passed in their order. -/
structure Standing (tenantId : TenantId) (start : Intake) (submitted : List JobQueuePayload) (g : Gate) : Prop where
  balanced : g.Balanced tenantId
  queued : ∃ n, Queued tenantId start submitted n g.intake
  seen : ∀ s ∈ g.seen, ∃ m n, Queued tenantId start (submitted.take m) n s

variable {refuses : JobQueuePayload → Option Err} {tenantId : TenantId} {start : Intake} {g g' : Gate}
  {submitted : List JobQueuePayload} {payload : JobQueuePayload} {status : JobStatus} {queueName : String} {n : Nat}

theorem standing_start {intake : Intake} {running : Nat} {releases : List (List String)}
    (balanced : (Gate.start intake running releases).Balanced tenantId) :
    Standing tenantId intake [] (Gate.start intake running releases) := by
  refine ⟨balanced, ⟨0, Nat.zero_le _, ?_, ?_⟩, fun s member => nomatch member⟩
  · exact (List.append_nil _).symm
  · rw [List.append_nil]
    rfl

theorem release_popped (refuses : JobQueuePayload → Option Err) (tenantId : TenantId) (g : Gate) (queueName : String) :
    ∃ more, (g.release refuses tenantId queueName).popped = g.popped ++ more := by
  unfold release
  split
  · exact ⟨[], (List.append_nil _).symm⟩
  · exact ⟨_, rfl⟩

theorem foldl_popped (refuses : JobQueuePayload → Option Err) (tenantId : TenantId) (g : Gate) (queueNames : List String) :
    ∃ more, (queueNames.foldl (release refuses tenantId) g).popped = g.popped ++ more := by
  induction queueNames generalizing g with
  | nil => exact ⟨[], (List.append_nil _).symm⟩
  | cons queueName rest ih =>
    obtain ⟨first, popped⟩ := release_popped refuses tenantId g queueName
    obtain ⟨later, popped'⟩ := ih (g.release refuses tenantId queueName)
    exact ⟨first ++ later, by rw [List.foldl_cons, popped', popped, List.append_assoc]⟩

/-- A call that brings the tenant to a state in order. -/
theorem standing_after (standing : Standing tenantId start submitted g) (same : g'.seen = g.seen) {intake : Intake} {next : List JobQueuePayload}
    (more : ∃ new, next = submitted ++ new) (balanced : (g'.after intake).Balanced tenantId)
    (queued : Queued tenantId start next n intake) : Standing tenantId start next (g'.after intake) := by
  obtain ⟨new, rfl⟩ := more
  refine ⟨balanced, ⟨n, queued⟩, fun s member => ?_⟩
  rw [Gate.after, same] at member
  rcases List.mem_append.mp member with before | last
  · obtain ⟨m, k, earlier⟩ := standing.seen s before
    by_cases inside : m ≤ submitted.length
    · refine ⟨m, k, ?_⟩
      rwa [List.take_append_of_le_length inside]
    · refine ⟨submitted.length, k, ?_⟩
      rw [List.take_of_length_le (by omega)] at earlier
      rwa [List.take_append_of_le_length (Nat.le_refl _), List.take_length]
  · refine ⟨(submitted ++ new).length, n, ?_⟩
    rw [List.mem_singleton.mp last, List.take_length]
    exact queued

theorem balanced_after {intake : Intake} {slots : Int} {waiting new : List JobQueuePayload}
    (holds : intake.Holds tenantId slots waiting (g.intake.enqueued ++ new)) (runs : slots = g.running + new.length)
    (capped : slots ≤ MAX_CONCURRENT_PER_TENANT) (full : waiting ≠ [] → slots = MAX_CONCURRENT_PER_TENANT) :
    (g.after intake).Balanced tenantId := by
  constructor
  · have gained : (g.after intake).running = g.running + new.length := by
      simp only [Gate.after, holds.enqueued, List.length_append]
      omega
    rw [gained, Gate.after, holds.slots, runs]
    omega
  · rw [Gate.after, holds.slots]
    exact capped
  · rw [Gate.after, holds.slots, holds.waiting]
    exact full

/-- A release of a running job takes the first waiting payload. -/
theorem release_standing (standing : Standing tenantId start submitted g)
    (accepts : ∀ payload ∈ (g.release refuses tenantId queueName).popped, Intake.Accepts refuses payload) :
    Standing tenantId start submitted (g.release refuses tenantId queueName) := by
  unfold release at accepts ⊢
  dsimp only at accepts ⊢
  by_cases idle : g.running = 0
  · rw [if_pos idle]
    exact standing
  · rw [if_neg idle] at accepts ⊢
    have same : submitted = submitted ++ [] := (List.append_nil _).symm
    obtain ⟨running, capped, full⟩ := standing.balanced
    obtain ⟨n, queued⟩ := standing.queued
    have positive : 0 < g.intake.redis.count (inflightKey tenantId) := by omega
    cases waits : g.intake.redis.lists (stagingKey tenantId) with
    | nil =>
      have holds : g.intake.Holds tenantId _ [] (g.intake.enqueued ++ []) := ⟨rfl, waits, (List.append_nil _).symm⟩
      obtain ⟨s', ran, ends⟩ : Returns (Intake.serve refuses) _ _ _ _ := Intake.release_idle queueName positive holds
      rw [ran]
      refine standing_after standing ?_ ⟨[], same⟩ ?_ ⟨queued.within, ?_, ?_⟩
      · rfl
      · refine balanced_after ends ?_ (by omega) fun none_ => absurd rfl none_
        show _ = ((g.running - 1 : Nat) : Int) + ((0 : Nat) : Int)
        omega
      · rw [ends.enqueued, List.append_nil, queued.enqueued]
      · rw [ends.waiting, ← queued.waiting, waits]
    | cons payload rest =>
      have accepted : Intake.Accepts refuses payload := by
        refine accepts payload (List.mem_append_right _ ?_)
        rw [waits]
        exact List.mem_singleton.mpr rfl
      have holds : g.intake.Holds tenantId _ (payload :: rest) g.intake.enqueued := ⟨rfl, waits, rfl⟩
      have atCap := full (by simp [waits])
      obtain ⟨s', ran, ends⟩ : Returns (Intake.serve refuses) _ _ _ _ :=
        Intake.release_accepts queueName positive holds accepted
      rw [ran]
      have next := queued.waiting.symm.trans waits
      have first : (start.redis.lists (stagingKey tenantId) ++ submitted)[n]? = some payload := by
        rw [← List.head?_drop, next]
        rfl
      refine standing_after standing ?_ ⟨[], same⟩ ?_ ⟨(List.getElem?_eq_some_iff.mp first).1, ?_, ?_⟩
      · rfl
      · refine balanced_after ends ?_ capped fun _ => atCap
        show _ = ((g.running - 1 : Nat) : Int) + ((1 : Nat) : Int)
        omega
      · rw [ends.enqueued, queued.enqueued, List.append_assoc, List.take_add_one, first]
        rfl
      · rw [ends.waiting, ← List.tail_drop, next]
        rfl

theorem releases_standing (queueNames : List String) (standing : Standing tenantId start submitted g)
    (accepts : ∀ payload ∈ (queueNames.foldl (release refuses tenantId) g).popped, Intake.Accepts refuses payload) :
    Standing tenantId start submitted (queueNames.foldl (release refuses tenantId) g) := by
  induction queueNames generalizing g with
  | nil => exact standing
  | cons queueName rest ih =>
    refine ih (release_standing standing fun payload member => accepts payload ?_) accepts
    obtain ⟨more, popped⟩ := foldl_popped refuses tenantId (g.release refuses tenantId queueName) rest
    rw [List.foldl_cons, popped]
    exact List.mem_append_left more member

theorem foldl_decided (g : Gate) (queueNames : List String) :
    (queueNames.foldl (release refuses tenantId) g).decided = g.decided := by
  induction queueNames generalizing g with
  | nil => rfl
  | cons queueName rest ih =>
    rw [List.foldl_cons, ih]
    unfold release
    dsimp only
    split <;> rfl

/-- `submitJob` does not return if a payload that gets a slot is rejected. -/
theorem placeable_of_returned {s s' : Intake} (ran : (submitJob payload).run (Intake.serve refuses) s = (.ok status, s')) :
    Intake.Placeable refuses payload s := by
  by_contra unplaceable
  obtain ⟨error, fault', s'', threw⟩ := Intake.submitJob_throws unplaceable none
  rw [run_faulty_none, ran] at threw
  cases threw

/-- A submission that does not throw joins the queue. -/
theorem place_standing {s' : Intake} (standing : Standing payload.tenantId start submitted g)
    (ran : (submitJob payload).run (Intake.serve refuses) g.intake = (.ok status, s')) :
    Standing payload.tenantId start (submitted ++ [payload]) (g.place refuses payload) ∧
      (g.place refuses payload).decided = g.decided ++ [status] := by
  have placeable := placeable_of_returned ran
  obtain ⟨running, capped, full⟩ := standing.balanced
  obtain ⟨n, queued⟩ := standing.queued
  let arrived := start.redis.lists (stagingKey payload.tenantId) ++ submitted
  have list : start.redis.lists (stagingKey payload.tenantId) ++ (submitted ++ [payload]) = arrived ++ [payload] :=
    (List.append_assoc ..).symm
  unfold place
  by_cases free : g.intake.redis.count (inflightKey payload.tenantId) + 1 ≤ MAX_CONCURRENT_PER_TENANT
  · have idle : g.intake.redis.lists (stagingKey payload.tenantId) = [] := by
      by_contra waits
      have atCap := full waits
      omega
    have holds : g.intake.Holds payload.tenantId _ [] g.intake.enqueued := ⟨rfl, idle, rfl⟩
    obtain ⟨s'', ran', ends⟩ : Returns (Intake.serve refuses) _ _ _ _ := Intake.submitJob_free holds free (placeable free)
    obtain ⟨rfl, rfl⟩ : status = .QUEUED ∧ s' = s'' := by
      rw [ran] at ran'
      simpa using ran'
    have done : n = arrived.length := by
      have none_ := queued.waiting.symm.trans idle
      have shorter := List.drop_eq_nil_iff.mp none_
      have within : n ≤ arrived.length := queued.within
      exact Nat.le_antisymm within shorter
    rw [ran]
    refine ⟨standing_after (n := n + 1) standing ?_ ⟨[payload], rfl⟩ ?_ ⟨?_, ?_, ?_⟩, ?_⟩
    · rfl
    · refine balanced_after ends ?_ free fun none_ => absurd rfl none_
      rw [running]
      rfl
    · rw [list, List.length_append, done]
      exact Nat.le_refl _
    · have all : (arrived ++ [payload]).take (n + 1) = arrived ++ [payload] := by
        rw [done, ← List.length_singleton, ← List.length_append, List.take_length]
      rw [ends.enqueued, queued.enqueued, list, all, done, List.take_length, List.append_assoc]
    · have none_ : (arrived ++ [payload]).drop (n + 1) = [] := by
        rw [done, ← List.length_singleton, ← List.length_append, List.drop_length]
      rw [ends.waiting, list, none_]
    · have grown : ¬ s'.enqueued = g.intake.enqueued := by
        rw [ends.enqueued]
        simp
      simp [after, grown]
  · have holds : g.intake.Holds payload.tenantId _ _ (g.intake.enqueued ++ []) := ⟨rfl, rfl, (List.append_nil _).symm⟩
    obtain ⟨s'', ran', ends⟩ : Returns (Intake.serve refuses) _ _ _ _ := Intake.submitJob_full holds free
    obtain ⟨rfl, rfl⟩ : status = .STAGED ∧ s' = s'' := by
      rw [ran] at ran'
      simpa using ran'
    rw [ran]
    have within : n ≤ arrived.length := queued.within
    refine ⟨standing_after (n := n) standing ?_ ⟨[payload], rfl⟩ ?_ ⟨?_, ?_, ?_⟩, ?_⟩
    · rfl
    · refine balanced_after ends ?_ capped fun _ => by omega
      rw [running]
      exact (Int.add_zero _).symm
    · rw [list, List.length_append]
      omega
    · rw [ends.enqueued, List.append_nil, queued.enqueued, list, List.take_append_of_le_length within]
    · rw [ends.waiting, queued.waiting, list, List.drop_append_of_le_length within]
    · have same : s'.enqueued = g.intake.enqueued := by rw [ends.enqueued, List.append_nil]
      simp [after, same]

/-- A submission and the releases after it keep the order, and the reply says what became of the payload. -/
theorem submit_standing (standing : Standing payload.tenantId start submitted g)
    (returned : g.submit refuses payload.tenantId payload = (.ok status, g'))
    (accepts : ∀ other ∈ g'.popped, Intake.Accepts refuses other) :
    Standing payload.tenantId start (submitted ++ [payload]) g' ∧ g'.decided = g.decided ++ [status] := by
  unfold submit at returned
  cases ran : (submitJob payload).run (Intake.serve refuses) g.intake with
  | mk outcome s' =>
    rw [ran] at returned
    cases outcome with
    | ok status' =>
      obtain ⟨same, rfl⟩ := Prod.mk.inj returned
      obtain rfl := Except.ok.inj same
      obtain ⟨placed, decided⟩ := place_standing standing ran
      refine ⟨releases_standing _ placed accepts, ?_⟩
      rw [foldl_decided, decided]
    | thrown error => cases (Prod.mk.inj returned).1
    | hung => cases (Prod.mk.inj returned).1

end Gate

namespace BatchJobService

/-- The payload that is submitted for an item. -/
structure Carries (tenantId : TenantId) (item : BatchJobItem) (payload : JobQueuePayload) : Prop where
  jobType : payload.jobType = item.type
  tenantId : payload.tenantId = tenantId
  priorityLevel : payload.priorityLevel = item.priorityLevel.getD .NONE
  batchKey : payload.metadata.lookup "batchKey" = some item.key

/-- The reply for an item, with what became of its payload. -/
structure Answers (item : BatchJobItem) (payload : JobQueuePayload) (status : JobStatus) (reply : BatchReply) : Prop where
  key : reply.key = item.key
  jobId : reply.jobId = payload.jobId
  type : reply.type = item.type
  priorityLevel : reply.priorityLevel = item.priorityLevel.getD .NONE
  status : reply.status = status

variable {γ : Type} {env : Env} {gate : γ → JobQueuePayload → Except Err JobStatus × γ} {db db' : Db} {g g' : γ}
  {batchId : Nat} {userId : UserId} {tenantId : TenantId} {item : BatchJobItem} {items : List BatchJobItem}

def itemColumns (userId : UserId) (tenantId : TenantId) (item : BatchJobItem) (now : Nat) : JobColumns :=
  { type := item.type
    metadata := item.metadata.getD []
    priorityLevel := item.priorityLevel.getD .NONE
    retries := item.retries.getD 3
    status := if nonzero item.delayMs then .SCHEDULED else .QUEUED
    tenantId := tenantId
    userId := userId
    delayMs := item.delayMs
    idempotencyKey := item.idempotencyKey
    scheduledAt := some (scheduledAt now item.delayMs) }

def itemPayload (batchId : Nat) (tenantId : TenantId) (item : BatchJobItem) (saved : Job) (queueName : String) :
    JobQueuePayload :=
  { jobId := saved.id
    jobType := saved.type
    tenantId := tenantId
    priorityLevel := saved.priorityLevel
    retries := saved.retries
    metadata := (saved.metadata.withField "batchId" (uuidText batchId)).withField "batchKey" item.key
    delayMs := item.delayMs
    idempotencyKey := some (item.idempotencyKey.getD (uuidText saved.id))
    queueName := queueName }

theorem submitItem_eq (batchId : Nat) (userId : UserId) (tenantId : TenantId) (item : BatchJobItem) :
    submitItem batchId userId tenantId item =
      OrchestrateModel.clock.bind fun now => (JobRepo.save (itemColumns userId tenantId item now)).bind fun saved =>
        (enqueueRow saved.type (itemPayload batchId tenantId item saved) fun status =>
          { key := item.key, jobId := saved.id, type := saved.type, priorityLevel := saved.priorityLevel,
            status := status }).catching fun error =>
          (JobRepo.update saved.id { status := some .FAILED }).bind fun _ => .throws error := rfl

theorem lookup_withField (base : Metadata) (name text : String) : (base.withField name text).lookup name = some text := by
  have absent : (base.filter fun field => field.1 != name).lookup name = none := by
    rw [List.lookup_eq_none_iff]
    intro field member
    have apart := (List.mem_filter.mp member).2
    rw [bne_iff_ne] at apart
    exact bne_iff_ne.mpr apart.symm
  rw [Metadata.withField, List.lookup_append, absent]
  simp

/-- An item that is submitted is submitted once, by its own payload. -/
theorem submitItem_returns {reply : BatchReply}
    (ran : (submitItem batchId userId tenantId item).run (serve env gate) (db, g) = (.ok reply, db', g')) :
    ∃ payload status, gate g payload = (.ok status, g') ∧ Carries tenantId item payload ∧ Answers item payload status reply := by
  rw [submitItem_eq, run_bind_ok _ (run_clock ..), run_bind, run_save] at ran
  by_cases taken : db.holdsKey (itemColumns userId tenantId item env.now).idempotencyKey = true
  · rw [if_pos taken] at ran
    cases ran
  · rw [if_neg taken] at ran
    dsimp only at ran
    rw [run_catching, run_enqueueRow] at ran
    have unrecovered {error : Err} {id : JobId} {db₁ : Db} {g₁ : γ}
        (again : ((JobRepo.update id { status := some .FAILED }).bind fun _ => (.throws error : ServiceProgram BatchReply)).run
          (serve env gate) (db₁, g₁) = (.ok reply, db', g')) : False := by
      rw [run_bind_ok _ (run_update ..)] at again
      cases again
    cases resolved : resolveQueueName (newRow env db (itemColumns userId tenantId item env.now)).type with
    | error error =>
      rw [resolved] at ran
      exact (unrecovered ran).elim
    | ok queueName =>
      rw [resolved] at ran
      dsimp only at ran
      cases placed : gate g (itemPayload batchId tenantId item
          (newRow env db (itemColumns userId tenantId item env.now)) queueName) with
      | mk result g₁ =>
        rw [placed] at ran
        cases result with
        | error error => exact (unrecovered ran).elim
        | ok status =>
          obtain ⟨returned, stores⟩ := Prod.mk.inj ran
          obtain rfl := Outcome.ok.inj returned
          obtain ⟨-, rfl⟩ := Prod.mk.inj stores
          exact ⟨_, status, placed, ⟨rfl, rfl, rfl, lookup_withField _ _ _⟩, ⟨rfl, rfl, rfl, rfl, rfl⟩⟩

/-- Each item with its payload, what became of it, and the reply. -/
inductive Submitted (tenantId : TenantId) :
    List BatchJobItem → List JobQueuePayload → List JobStatus → List BatchReply → Prop where
  | nil : Submitted tenantId [] [] [] []
  | cons {item : BatchJobItem} {payload : JobQueuePayload} {status : JobStatus} {reply : BatchReply}
    {items : List BatchJobItem} {payloads : List JobQueuePayload} {statuses : List JobStatus} {replies : List BatchReply}
    (carries : Carries tenantId item payload) (answers : Answers item payload status reply)
    (rest : Submitted tenantId items payloads statuses replies) :
    Submitted tenantId (item :: items) (payload :: payloads) (status :: statuses) (reply :: replies)

/-- The payloads of the batch are enqueued in order, behind those that were staged before; no waiting one is of a
    higher priority than an enqueued one. -/
def InOrder (tenantId : TenantId) (start : Intake) (batch : List JobQueuePayload) (s : Intake) : Prop :=
  let earlier := start.redis.lists (stagingKey tenantId)
  ∃ n k m, s.enqueued = start.enqueued ++ (earlier.take n ++ batch.take k) ∧
    s.redis.lists (stagingKey tenantId) = earlier.drop n ++ (batch.take m).drop k ∧ (0 < k → earlier.length ≤ n) ∧
    ∀ first ∈ batch.take k, ∀ late ∈ (batch.take m).drop k, priorityMap first.priorityLevel ≤ priorityMap late.priorityLevel

variable {refuses : JobQueuePayload → Option Err} {start : Intake} {submitted batch : List JobQueuePayload}
  {statuses : List JobStatus} {results replies acc : List BatchReply} {gate₀ gate₁ : Gate}

theorem submit_popped (refuses : JobQueuePayload → Option Err) (tenantId : TenantId) (gate₀ : Gate) (payload : JobQueuePayload) :
    ∃ more, (gate₀.submit refuses tenantId payload).2.popped = gate₀.popped ++ more :=
  Gate.foldl_popped refuses tenantId (gate₀.place refuses payload) _

theorem run_popped {α : Type} (env : Env) (refuses : JobQueuePayload → Option Err) (tenantId : TenantId)
    (program : ServiceProgram α) (db : Db) (gate₀ : Gate) :
    ∃ more, (program.run (serve env (Gate.submit refuses tenantId)) (db, gate₀)).2.2.popped = gate₀.popped ++ more := by
  let grown (s : Db × Gate) : Prop := ∃ more, s.2.popped = gate₀.popped ++ more
  have initial : grown (db, gate₀) := ⟨[], (List.append_nil _).symm⟩
  refine run_preserves (serve env (Gate.submit refuses tenantId)) (fun s c kept => ?_) program (db, gate₀) initial
  obtain ⟨more, grown⟩ := kept
  cases c with
  | submitJob payload =>
    obtain ⟨later, popped⟩ := submit_popped refuses tenantId s.2 payload
    refine ⟨more ++ later, ?_⟩
    show (s.2.submit refuses tenantId payload).2.popped = _
    rw [popped, grown, List.append_assoc]
  | _ => exact ⟨more, grown⟩

/-- The loop: each item joins the tenant's queue in turn. -/
theorem submitItems_standing (standing : Gate.Standing tenantId start submitted gate₀)
    (ran : (submitItems batchId userId tenantId items acc).run (serve env (Gate.submit refuses tenantId)) (db, gate₀) =
      (.ok results, db', gate₁)) (accepts : ∀ payload ∈ gate₁.popped, Intake.Accepts refuses payload) :
    ∃ batch statuses replies, results = acc ++ replies ∧ Submitted tenantId items batch statuses replies ∧
      Gate.Standing tenantId start (submitted ++ batch) gate₁ ∧ gate₁.decided = gate₀.decided ++ statuses := by
  induction items generalizing submitted gate₀ db acc with
  | nil =>
    obtain ⟨returned, stores⟩ := Prod.mk.inj ran
    obtain rfl := Outcome.ok.inj returned
    obtain ⟨-, rfl⟩ := Prod.mk.inj stores
    refine ⟨[], [], [], (List.append_nil _).symm, .nil, ?_, (List.append_nil _).symm⟩
    rwa [List.append_nil]
  | cons item rest ih =>
    rw [submitItems, bind_eq, run_bind] at ran
    cases first : (submitItem batchId userId tenantId item).run (serve env (Gate.submit refuses tenantId)) (db, gate₀) with
    | mk outcome s₁ =>
      obtain ⟨db₁, gate₂⟩ := s₁
      rw [first] at ran
      cases outcome with
      | thrown error => cases ran
      | hung => cases ran
      | ok reply =>
        dsimp only at ran
        obtain ⟨payload, status, placed, carries, answers⟩ := submitItem_returns first
        have before : ∀ other ∈ gate₂.popped, Intake.Accepts refuses other := by
          obtain ⟨more, popped⟩ := run_popped env refuses tenantId
            (submitItems batchId userId tenantId rest (acc ++ [reply])) db₁ gate₂
          rw [ran] at popped
          intro other member
          refine accepts other ?_
          rw [popped]
          exact List.mem_append_left more member
        obtain rfl := carries.tenantId
        obtain ⟨standing', decided⟩ := Gate.submit_standing standing placed before
        obtain ⟨batch, statuses, replies, listed, submitted', standing'', decided'⟩ := ih standing' ran
        refine ⟨payload :: batch, status :: statuses, reply :: replies, ?_, .cons carries answers submitted', ?_, ?_⟩
        · rw [listed, List.append_assoc]
          rfl
        · rwa [List.append_assoc] at standing''
        · rw [decided', decided, List.append_assoc]
          rfl

theorem Submitted.ranks (submitted : Submitted tenantId items batch statuses replies) :
    batch.map (fun payload => priorityMap payload.priorityLevel) = items.map itemRank := by
  induction submitted with
  | nil => rfl
  | cons carries answers rest ih =>
    rw [List.map_cons, List.map_cons, ih, carries.priorityLevel]
    rfl

theorem inOrder_of_queued {s : Intake} {m n : Nat}
    (ascending : batch.Pairwise fun a b => priorityMap a.priorityLevel ≤ priorityMap b.priorityLevel)
    (queued : Gate.Queued tenantId start (batch.take m) n s) : InOrder tenantId start batch s := by
  let earlier := start.redis.lists (stagingKey tenantId)
  let k := n - earlier.length
  have within : k ≤ m := by
    have bound : n ≤ (earlier ++ batch.take m).length := queued.within
    rw [List.length_append] at bound
    have short := List.length_take_le m batch
    omega
  have prefix_ : (batch.take m).take k = batch.take k := by
    rw [List.take_take, Nat.min_eq_left within]
  refine ⟨n, k, m, ?_, ?_, fun positive => (Nat.lt_of_sub_pos positive).le, fun first early late waits => ?_⟩
  · rw [queued.enqueued, List.take_append, prefix_]
  · rw [queued.waiting, List.drop_append]
  · rw [← prefix_] at early
    have sorted := ascending.sublist (List.take_sublist m batch)
    rw [← List.take_append_drop k (batch.take m)] at sorted
    exact (List.pairwise_append.mp sorted).2.2 first early late waits

/-- The payloads of a batch pass into the queue by priority, whatever running jobs are released in between. -/
theorem batch_in_order {running : Nat} {releases : List (List String)}
    (balanced : (Gate.start start running releases).Balanced tenantId)
    (ran : (submitBatch items userId tenantId).run (serve env (Gate.submit refuses tenantId))
      (db, Gate.start start running releases) = (.ok (batchId, results), db', gate₁))
    (accepts : ∀ payload ∈ gate₁.popped, Intake.Accepts refuses payload) :
    ∃ sorted batch, StablySorted itemRank items sorted ∧ Submitted tenantId sorted batch gate₁.decided results ∧
      InOrder tenantId start batch gate₁.intake ∧ ∀ s ∈ gate₁.seen, InOrder tenantId start batch s := by
  unfold submitBatch at ran
  cases valid : validate items with
  | error error =>
    rw [valid] at ran
    cases ran
  | ok _ =>
    rw [valid] at ran
    let sorted := items.insertionSort fun a b => itemRank a ≤ itemRank b
    have stable := stablySorted_insertionSort itemRank items
    cases loop : (submitItems db.drawn userId tenantId sorted []).run (serve env (Gate.submit refuses tenantId))
        ({ db with drawn := db.drawn + 1 }, Gate.start start running releases) with
    | mk outcome s =>
      obtain ⟨db₁, gate₂⟩ := s
      rw [Program.ofExcept, bind_eq, bind_done, bind_eq, run_bind_ok _ (run_randomUUID ..), bind_eq, run_bind, loop] at ran
      cases outcome with
      | thrown error => cases ran
      | hung => cases ran
      | ok replies =>
        obtain ⟨returned, stores⟩ := Prod.mk.inj ran
        obtain ⟨rfl, rfl⟩ := Prod.mk.inj (Outcome.ok.inj returned)
        obtain ⟨-, rfl⟩ := Prod.mk.inj stores
        obtain ⟨batch, statuses, replies', listed, submitted, standing, decided⟩ :=
          submitItems_standing (Gate.standing_start balanced) loop accepts
        have decisions : gate₂.decided = statuses := decided
        rw [List.nil_append] at listed standing
        rw [← decisions, ← listed] at submitted
        have ascending : batch.Pairwise fun a b => priorityMap a.priorityLevel ≤ priorityMap b.priorityLevel := by
          have ranks := stable.ascending
          rw [← List.pairwise_map (f := itemRank) (R := (· ≤ ·)), ← submitted.ranks] at ranks
          exact List.pairwise_map.mp ranks
        obtain ⟨n, queued⟩ := standing.queued
        rw [← List.take_length (l := batch)] at queued
        refine ⟨sorted, batch, stable, submitted, inOrder_of_queued ascending queued, fun s member => ?_⟩
        obtain ⟨m, k, seen⟩ := standing.seen s member
        exact inOrder_of_queued ascending seen

def batchItems : List BatchJobItem :=
  [{ key := "c", type := "csv_parse" }, { key := "b", type := "pdf_export", priorityLevel := some .LOW },
    { key := "a", type := "send_email", priorityLevel := some .HIGH }]

/-- Four jobs run, so the second item is staged; a release after it drains it, and the third item is staged. -/
def fourRunning : Intake := { redis := Redis.empty.add (inflightKey "t") 4, enqueued := [] }

def openGate : Gate := Gate.start fourRunning 4 [[], ["email-jobs"]]

def batchReplies : List BatchReply :=
  [{ key := "a", jobId := 1, type := "send_email", priorityLevel := .HIGH, status := .QUEUED },
    { key := "b", jobId := 2, type := "pdf_export", priorityLevel := .LOW, status := .STAGED },
    { key := "c", jobId := 3, type := "csv_parse", priorityLevel := .NONE, status := .STAGED }]

theorem batch_in_order_batchItems : ∃ db' gate₁,
    (submitBatch batchItems "u" "t").run (serve .plain (Gate.submit (fun _ => none) "t")) (.empty, openGate) =
      (.ok (0, batchReplies), db', gate₁) ∧
    ∃ sorted batch, StablySorted itemRank batchItems sorted ∧ Submitted "t" sorted batch gate₁.decided batchReplies ∧
      InOrder "t" fourRunning batch gate₁.intake ∧ ∀ s ∈ gate₁.seen, InOrder "t" fourRunning batch s := by
  have returned : ((submitBatch batchItems "u" "t").run (serve .plain (Gate.submit (fun _ => none) "t"))
      (.empty, openGate)).1 = .ok (0, batchReplies) := by decide +kernel
  have accepts : ∀ payload ∈ ((submitBatch batchItems "u" "t").run (serve .plain (Gate.submit (fun _ => none) "t"))
      (.empty, openGate)).2.2.popped, Intake.Accepts (fun _ => none) payload := by decide +kernel
  have balanced : openGate.Balanced "t" := ⟨by decide +kernel, by decide +kernel, by decide +kernel⟩
  cases whole : (submitBatch batchItems "u" "t").run (serve .plain (Gate.submit (fun _ => none) "t")) (.empty, openGate) with
  | mk outcome s =>
    obtain ⟨db', gate₁⟩ := s
    rw [whole] at returned accepts
    obtain rfl : outcome = _ := returned
    exact ⟨db', gate₁, rfl, batch_in_order balanced whole accepts⟩

end BatchJobService
end OrchestrateModel
