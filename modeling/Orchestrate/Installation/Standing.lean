import Mathlib.Data.Multiset.UnionInter
import Orchestrate.Installation.System

namespace OrchestrateModel

open Effect Program TenantCapService BaseProcessor

/-- The attempt without the time that its job has waited, which the desk and BullMQ count from different moments. -/
def BaseProcessor.Attempt.untimed (attempt : Attempt) : Attempt := { attempt with waitSeconds := 0 }

def Stage.untimed : Stage → Stage
  | .running attempt => .running attempt.untimed
  | stage => stage

namespace Entry

def untimed (entry : Entry) : Entry := { entry with stage := entry.stage.untimed, addedAt := 0 }

def customId (entry : Entry) : Option String := (jobsOptions entry.payload).jobId

end Entry

/-- A staged payload, as the desk sees it. -/
def JobQueuePayload.entry (payload : JobQueuePayload) : Entry := { payload := payload, addedAt := 0 }

def Duty.stage : Option Duty → Stage
  | none => .waiting
  | some (.attempt begun) => .running begun
  | some .endless => .stuck

namespace QueuedJob

def stage (job : QueuedJob) (duty : Option Duty) : Stage :=
  match job.state with
  | .waiting | .prioritized | .delayed => .waiting
  | .active => Duty.stage duty
  | .completed | .failed => .ended

theorem stage_active {job : QueuedJob} (active : job.state = .active) (duty : Option Duty) :
    job.stage duty = Duty.stage duty := by
  rw [stage, active]

/-- A job that `queue.add` has added waits. -/
theorem stage_added (run : BullJob) (options : JobsOptions) :
    stage { run := run, state := if options.delay.any (0 < ·) then .delayed else BullMQ.ready options } none = .waiting := by
  unfold stage BullMQ.ready
  by_cases delayed : options.delay.any (0 < ·) = true
  · simp [delayed]
  · by_cases ranked : options.priority > 0
    · simp [delayed, ranked]
    · simp [delayed, ranked]

/-- A job of a queue, as the desk sees it. -/
def entry (job : QueuedJob) (duty : Option Duty) : Entry :=
  { payload := job.run.data, attemptsMade := job.run.attemptsMade, stage := job.stage duty, addedAt := job.run.timestamp }

/-- The job is in the queue of its type, under the options that `enqueue` gives. -/
structure Formed (job : QueuedJob) : Prop where
  options : job.run.opts = jobsOptions job.run.data
  queue : getQueueName job.run.data.jobType = some job.run.queueName

end QueuedJob

namespace Store

def entries (st : Store) (duties : Nat → Option Duty) : List Entry :=
  st.queued.mapIdx fun i job => (job.entry (duties i)).untimed

/-- The staged payloads of all tenants. -/
def Stages (st : Store) (parked : Multiset JobQueuePayload) : Prop :=
  ∀ tenantId, parked.filter (fun payload => payload.tenantId = tenantId) = ↑(st.redis.lists (stagingKey tenantId))

variable {st st' : Store} {parked : Multiset JobQueuePayload} {payload : JobQueuePayload} {tenantId : TenantId}

theorem Stages.push (stages : st.Stages parked)
    (lists : st'.redis.lists = Function.update st.redis.lists (stagingKey payload.tenantId)
      (st.redis.lists (stagingKey payload.tenantId) ++ [payload])) : st'.Stages (payload ::ₘ parked) := by
  intro tenantId
  rw [lists]
  by_cases own : payload.tenantId = tenantId
  · have before := stages tenantId
    rw [Multiset.filter_cons_of_pos parked own, before, ← own, Function.update_self, Multiset.cons_coe, Multiset.coe_eq_coe]
    exact (List.perm_append_singleton _ _).symm
  · have elsewhere : stagingKey tenantId ≠ stagingKey payload.tenantId := by simpa using Ne.symm own
    rw [Multiset.filter_cons_of_neg parked own, Function.update_of_ne elsewhere]
    exact stages tenantId

theorem Stages.pop (stages : st.Stages parked) {rest : List JobQueuePayload}
    (waits : st.redis.lists (stagingKey tenantId) = payload :: rest)
    (lists : st'.redis.lists = Function.update st.redis.lists (stagingKey tenantId) rest) :
    ∃ others, parked = payload ::ₘ others ∧ st'.Stages others := by
  have list := stages tenantId
  rw [waits] at list
  have member : payload ∈ parked.filter fun other => other.tenantId = tenantId := by
    rw [list]
    exact Multiset.mem_coe.mpr List.mem_cons_self
  obtain ⟨present, own⟩ := Multiset.mem_filter.mp member
  obtain ⟨others, rfl⟩ := Multiset.exists_cons_of_mem present
  refine ⟨others, rfl, fun tenant => ?_⟩
  rw [lists]
  by_cases same : tenantId = tenant
  · subst same
    rw [Multiset.filter_cons_of_pos others own, ← Multiset.cons_coe] at list
    rw [Function.update_self]
    exact (Multiset.cons_inj_right payload).mp list
  · have elsewhere : stagingKey tenant ≠ stagingKey tenantId := by simpa using Ne.symm same
    have before := stages tenant
    rw [Multiset.filter_cons_of_neg others (by rwa [own])] at before
    rw [Function.update_of_ne elsewhere]
    exact before

/-- What a submission does: the payload joins its queue, none is found for its type, or it joins the staged ones. -/
theorem submitJob_cases (st : Store) (payload : JobQueuePayload) :
    (∃ queueName, getQueueName payload.jobType = some queueName ∧ (st.submitJob payload).1 = .ok .QUEUED ∧
      (st.submitJob payload).2.redis.lists = st.redis.lists ∧
      (st.submitJob payload).2.queued = BullMQ.add st.redis.now st.queued queueName payload (jobsOptions payload)) ∨
    (getQueueName payload.jobType = none ∧
      (st.submitJob payload).1 =
        .error { message := "no queue found for this jobtype \"" ++ payload.jobType ++ "\"" } ∧
      (st.submitJob payload).2.redis.lists = st.redis.lists ∧ (st.submitJob payload).2.queued = st.queued) ∨
    ((st.submitJob payload).1 = .ok .STAGED ∧
      (st.submitJob payload).2.redis.lists = Function.update st.redis.lists (stagingKey payload.tenantId)
        (st.redis.lists (stagingKey payload.tenantId) ++ [payload]) ∧
      (st.submitJob payload).2.queued = st.queued) := by
  have lists : (st.counted payload).redis.lists = st.redis.lists := taking_lists _ _
  have now : (st.counted payload).redis.now = st.redis.now := taking_now _ _
  have ran := run_submitJob st payload
  by_cases free : st.redis.count (inflightKey payload.tenantId) + 1 ≤ MAX_CONCURRENT_PER_TENANT
  · cases placed : getQueueName payload.jobType with
    | some queueName =>
      rw [run_placeJob_free _ _ free placed] at ran
      refine .inl ⟨queueName, rfl, ?_⟩
      rw [submitJob, perform_of_run ran, ← now]
      exact ⟨rfl, lists, rfl⟩
    | none =>
      have refused : (placeJob payload (st.redis.count (inflightKey payload.tenantId) + 1)).run serve (st.counted payload) =
          (.thrown { message := "no queue found for this jobtype \"" ++ payload.jobType ++ "\"" }, st.counted payload) := by
        unfold placeJob enqueue
        rw [if_pos free, placed]
        rfl
      refine .inr (.inl ⟨rfl, ?_⟩)
      rw [refused] at ran
      rw [submitJob, perform, ran]
      exact ⟨rfl, lists, rfl⟩
  · rw [run_placeJob_full _ _ free] at ran
    refine .inr (.inr ?_)
    rw [submitJob, perform_of_run ran, ← lists]
    exact ⟨rfl, rfl, rfl⟩

/-- What a release does: it leaves the queues and the staged payloads alone, or the first payload of the tenant's list
    joins its queue. -/
theorem release_cases (st : Store) (tenantId : TenantId) (queueName : String) :
    (perform (release tenantId queueName) st).1 = .ok () ∧
      (((perform (release tenantId queueName) st).2.redis.lists = st.redis.lists ∧
        (perform (release tenantId queueName) st).2.queued = st.queued) ∨
      ∃ payload rest queue, st.redis.lists (stagingKey tenantId) = payload :: rest ∧
        getQueueName payload.jobType = some queue ∧
        (perform (release tenantId queueName) st).2.redis.lists =
          Function.update st.redis.lists (stagingKey tenantId) rest ∧
        (perform (release tenantId queueName) st).2.queued =
          BullMQ.add st.redis.now st.queued queue payload (jobsOptions payload)) := by
  by_cases negative : st.redis.count (inflightKey tenantId) - 1 < 0
  · rw [perform_of_run (run_release_negative st queueName negative)]
    exact ⟨rfl, .inl ⟨rfl, rfl⟩⟩
  · have released := run_release st queueName negative
    let freed : Store := { st with redis := st.redis.add (inflightKey tenantId) (-1) }
    cases waits : st.redis.lists (stagingKey tenantId) with
    | nil =>
      rw [perform_of_run (released.trans (run_drainOne_nil freed queueName waits))]
      exact ⟨rfl, .inl ⟨Function.update_eq_self_iff.mpr waits.symm, rfl⟩⟩
    | cons payload rest =>
      have tail : (st.redis.lists (stagingKey tenantId)).tail = rest := by rw [waits, List.tail_cons]
      cases placed : getQueueName payload.jobType with
      | some queue =>
        rw [perform_of_run (released.trans (run_drainOne_adds freed queueName waits placed))]
        exact ⟨rfl, .inr ⟨payload, rest, queue, rfl, placed, congrArg (Function.update st.redis.lists _) tail, rfl⟩⟩
      | none =>
        rw [perform_of_run (released.trans (run_drainOne_returns freed queueName waits placed))]
        refine ⟨rfl, .inl ⟨?_, rfl⟩⟩
        have back : Function.update (Function.update st.redis.lists (stagingKey tenantId)
            (st.redis.lists (stagingKey tenantId)).tail) (stagingKey tenantId)
              (payload :: Function.update st.redis.lists (stagingKey tenantId)
                (st.redis.lists (stagingKey tenantId)).tail (stagingKey tenantId)) = st.redis.lists := by
          rw [Function.update_self, tail, Function.update_idem]
          exact Function.update_eq_self_iff.mpr waits.symm
        exact back

theorem queued_submitJob (st : Store) (payload : JobQueuePayload) : st.queued <+: (st.submitJob payload).2.queued := by
  rcases st.submitJob_cases payload with ⟨_, _, _, _, queued⟩ | ⟨_, _, _, queued⟩ | ⟨_, _, queued⟩
  · rw [queued]
    exact prefix_add _ _ _ _ _
  · rw [queued]
  · rw [queued]

theorem queued_release (st : Store) (tenantId : TenantId) (queueName : String) :
    st.queued <+: (perform (release tenantId queueName) st).2.queued := by
  rcases (st.release_cases tenantId queueName).2 with ⟨_, queued⟩ | ⟨_, _, _, _, _, _, queued⟩
  · rw [queued]
  · rw [queued]
    exact prefix_add _ _ _ _ _

end Store

/-- Replacing an element of a list, as a bag. -/
theorem coe_set_add {α : Type} {list : List α} {i : Nat} {old : α} (at_i : list[i]? = some old) (new : α) :
    (↑(list.set i new) : Multiset α) + {old} = ↑list + {new} := by
  induction list generalizing i with
  | nil => simp at at_i
  | cons head tail ih =>
    cases i with
    | zero =>
      obtain rfl : head = old := by simpa using at_i
      rw [List.set_cons_zero, ← Multiset.cons_coe, ← Multiset.cons_coe, ← Multiset.singleton_add, ← Multiset.singleton_add head,
        add_assoc, add_comm, add_comm (tail : Multiset α)]
    | succ i =>
      rw [List.set_cons_succ, ← Multiset.cons_coe, ← Multiset.cons_coe, Multiset.cons_add, Multiset.cons_add, ih (by simpa using at_i)]

/-- A desk stands for a store and what the workers have begun: but for times its entries are the jobs of the queues and
    the staged payloads, and no custom id is held twice. -/
structure Stands (duties : Nat → Option Duty) (st : Store) (desk : Desk) : Prop where
  held : ∃ parked, st.Stages parked ∧
    (↑(desk.entries.map Entry.untimed) : Multiset Entry) = ↑(st.entries duties) + parked.map JobQueuePayload.entry
  formed : ∀ job ∈ st.queued, job.Formed
  busy : ∀ i, duties i ≠ none → ∃ job, st.queued[i]? = some job ∧ job.state = .active
  issued : desk.entries.filterMap Entry.customId = desk.bullIds
  distinct : desk.bullIds.Nodup

/-- BullMQ has been given no job under the custom id of the payload. -/
def Desk.Unissued (desk : Desk) (payload : JobQueuePayload) : Prop := ∀ id ∈ (jobsOptions payload).jobId, id ∉ desk.bullIds

theorem Desk.place_unissued {desk : Desk} {payload : JobQueuePayload} (unissued : desk.Unissued payload)
    (noted : List JobQueuePayload) (now : Nat) :
    Desk.place { desk with submitted := noted } now payload =
      { entries := desk.entries ++ [{ payload := payload, addedAt := now }]
        submitted := noted
        bullIds := desk.bullIds ++ (jobsOptions payload).jobId.toList } := by
  unfold Desk.place
  cases custom : (jobsOptions payload).jobId with
  | none => simp
  | some id => simp [unissued id (by simp [custom])]

namespace Stands

variable {duties : Nat → Option Duty} {st st' : Store} {desk : Desk} {parked : Multiset JobQueuePayload}
  {payload : JobQueuePayload} {tenantId : TenantId} {i j : Nat} {job job' : QueuedJob} {entry entry' : Entry}

theorem ids (stands : Stands duties st desk)
    (held : (↑(desk.entries.map Entry.untimed) : Multiset Entry) = ↑(st.entries duties) + parked.map JobQueuePayload.entry) :
    Multiset.filterMap Entry.customId ↑(st.entries duties) +
      Multiset.filterMap Entry.customId (parked.map JobQueuePayload.entry) = ↑desk.bullIds := by
  rw [← Multiset.filterMap_add, ← held, ← stands.issued]
  exact congrArg _ List.filterMap_map

/-- A queue that holds the custom id of a payload holds a job under it. -/
theorem id_of_holds (formed : ∀ job ∈ st.queued, job.Formed) (duties : Nat → Option Duty) {queueName : String}
    (holds : BullMQ.holds st.queued queueName (jobsOptions payload) = true) :
    ∃ id, (jobsOptions payload).jobId = some id ∧ id ∈ Multiset.filterMap Entry.customId ↑(st.entries duties) := by
  obtain ⟨id, custom, found⟩ := (Option.any_eq_true _ _).mp holds
  obtain ⟨job, member, same⟩ := List.any_eq_true.mp found
  have own : job.run.opts.jobId = some id := by
    rw [Bool.and_eq_true, decide_eq_true_eq, decide_eq_true_eq] at same
    exact same.2
  rw [(formed job member).options] at own
  obtain ⟨i, at_i⟩ := List.getElem?_of_mem member
  refine ⟨id, custom, (Multiset.mem_filterMap _ _).mpr ⟨(job.entry (duties i)).untimed, ?_, own⟩⟩
  have listed : (st.entries duties)[i]? = some (job.entry (duties i)).untimed := by
    rw [Store.entries, List.getElem?_mapIdx, at_i]
    rfl
  exact Multiset.mem_coe.mpr (List.mem_of_getElem? listed)

theorem free_of_unissued (stands : Stands duties st desk) (unissued : desk.Unissued payload) (queueName : String) :
    BullMQ.holds st.queued queueName (jobsOptions payload) = false := by
  rw [Bool.eq_false_iff]
  intro holds
  obtain ⟨id, custom, listed⟩ := id_of_holds stands.formed duties holds
  obtain ⟨parked, _, held⟩ := stands.held
  refine unissued id custom (Multiset.mem_coe.mp ?_)
  rw [← stands.ids held]
  exact Multiset.mem_add.mpr (.inl listed)

/-- A staged payload is in no queue. -/
theorem free_of_parked (stands : Stands duties st desk)
    (held : (↑(desk.entries.map Entry.untimed) : Multiset Entry) = ↑(st.entries duties) + parked.map JobQueuePayload.entry)
    (waits : payload ∈ parked) (queueName : String) : BullMQ.holds st.queued queueName (jobsOptions payload) = false := by
  rw [Bool.eq_false_iff]
  intro holds
  obtain ⟨id, custom, listed⟩ := id_of_holds stands.formed duties holds
  have distinct := Multiset.coe_nodup.mpr stands.distinct
  rw [← stands.ids held] at distinct
  have apart := Multiset.disjoint_of_nodup_add distinct
  refine Multiset.disjoint_left.mp apart listed ((Multiset.mem_filterMap _ _).mpr ⟨payload.entry, ?_, custom⟩)
  exact Multiset.mem_map_of_mem _ waits

/-- The queue takes the payload. -/
theorem entries_add (stands : Stands duties st desk) {queueName : String}
    (free : BullMQ.holds st.queued queueName (jobsOptions payload) = false) (now : Nat)
    (queued : st'.queued = BullMQ.add now st.queued queueName payload (jobsOptions payload)) :
    st'.entries duties = st.entries duties ++ [payload.entry] := by
  have idle : duties st.queued.length = none := by
    by_contra duty
    obtain ⟨job, at_i, _⟩ := stands.busy _ duty
    simp at at_i
  unfold Store.entries
  rw [queued, BullMQ.add, free, if_neg Bool.false_ne_true, List.mapIdx_concat, idle]
  rw [QueuedJob.entry, QueuedJob.stage_added]
  rfl

theorem formed_add (stands : Stands duties st desk) {queueName : String} (placed : getQueueName payload.jobType = some queueName)
    (now : Nat) (queued : st'.queued = BullMQ.add now st.queued queueName payload (jobsOptions payload)) :
    (∀ job ∈ st'.queued, job.Formed) ∧
      ∀ i, duties i ≠ none → ∃ job, st'.queued[i]? = some job ∧ job.state = .active := by
  have grows : st.queued <+: st'.queued := by
    rw [queued]
    exact Store.prefix_add _ _ _ _ _
  refine ⟨fun job member => ?_, fun i duty => ?_⟩
  · rw [queued, BullMQ.add] at member
    split at member
    · exact stands.formed job member
    · rcases List.mem_append.mp member with old | new
      · exact stands.formed job old
      · obtain rfl := List.mem_singleton.mp new
        exact ⟨rfl, placed⟩
  · obtain ⟨job, at_i, active⟩ := stands.busy i duty
    obtain ⟨bound, here⟩ := List.getElem?_eq_some_iff.mp at_i
    exact ⟨job, by rw [List.prefix_iff_getElem?.mp grows i bound, here], active⟩

/-- The desk stands for whatever has the same queues and staged payloads. -/
theorem of_store (stands : Stands duties st desk) (lists : st'.redis.lists = st.redis.lists) (queued : st'.queued = st.queued) :
    Stands duties st' desk := by
  obtain ⟨parked, stages, held⟩ := stands.held
  refine ⟨⟨parked, fun tenantId => ?_, ?_⟩, ?_, ?_, stands.issued, stands.distinct⟩
  · rw [lists]
    exact stages tenantId
  · rw [Store.entries, queued]
    exact held
  · rw [queued]
    exact stands.formed
  · rw [queued]
    exact stands.busy

/-- The desk takes a payload that the store has put into its queue or among the staged ones. -/
theorem arrive (stands : Stands duties st desk) (unissued : desk.Unissued payload) (now : Nat) (noted : List JobQueuePayload)
    (formed : ∀ job ∈ st'.queued, job.Formed)
    (busy : ∀ i, duties i ≠ none → ∃ job, st'.queued[i]? = some job ∧ job.state = .active)
    (arrives : ∀ parked, st.Stages parked → ∃ parked', st'.Stages parked' ∧
      (↑(st'.entries duties) + parked'.map JobQueuePayload.entry : Multiset Entry) =
        ↑(st.entries duties) + parked.map JobQueuePayload.entry + {payload.entry}) :
    Stands duties st' (Desk.place { desk with submitted := noted } now payload) := by
  have placed := Desk.place_unissued unissued noted now
  refine ⟨?_, formed, busy, ?_, ?_⟩
  · obtain ⟨parked, stages, held⟩ := stands.held
    obtain ⟨parked', stages', arrived⟩ := arrives parked stages
    refine ⟨parked', stages', ?_⟩
    rw [arrived, ← held, placed, List.map_append, ← Multiset.coe_add]
    rfl
  · rw [placed, List.filterMap_append, stands.issued]
    congr 1
  · rw [placed]
    refine List.Nodup.append stands.distinct ?_ fun id old new => ?_
    · cases (jobsOptions payload).jobId <;> simp
    · exact unissued id (Option.mem_toList.mp new) old

/-- A submission does on the desk what it does to Redis and the queues, once the desk is told whether the tenant is at
    its cap. -/
theorem submit (stands : Stands duties st desk) (unissued : desk.Unissued payload) (now : Nat) :
    ∃ staged, (st.submitJob payload).1 = (desk.accept staged now payload).1 ∧
      Stands duties (st.submitJob payload).2 (desk.accept staged now payload).2 := by
  rcases st.submitJob_cases payload with ⟨queueName, placed, answer, lists, queued⟩ | ⟨unplaced, answer, lists, queued⟩ |
    ⟨answer, lists, queued⟩
  · have routable : Routable payload.jobType := ⟨queueName, placed⟩
    have free := stands.free_of_unissued unissued queueName
    have taken : desk.accept false now payload =
        (.ok .QUEUED, Desk.place { desk with submitted := desk.submitted ++ [payload] } now payload) := by
      simp [Desk.accept, routable]
    refine ⟨false, by rw [answer, taken], ?_⟩
    rw [taken]
    obtain ⟨formed, busy⟩ := stands.formed_add placed st.redis.now queued
    refine stands.arrive unissued now _ formed busy fun parked stages => ⟨parked, ?_, ?_⟩
    · intro tenantId
      rw [lists]
      exact stages tenantId
    · rw [stands.entries_add free st.redis.now queued, ← Multiset.coe_add, add_right_comm]
      rfl
  · have unroutable : ¬ Routable payload.jobType := by
      intro routable
      obtain ⟨queueName, placed⟩ := routable
      rw [unplaced] at placed
      cases placed
    have refused : desk.accept false now payload =
        (.error { message := "no queue found for this jobtype \"" ++ payload.jobType ++ "\"" },
          { desk with submitted := desk.submitted ++ [payload] }) := by
      simp [Desk.accept, unroutable]
    refine ⟨false, by rw [answer, refused], ?_⟩
    rw [refused]
    have stands := stands.of_store lists queued
    exact ⟨stands.held, stands.formed, stands.busy, stands.issued, stands.distinct⟩
  · have taken : desk.accept true now payload =
        (.ok .STAGED, Desk.place { desk with submitted := desk.submitted ++ [payload] } now payload) := by
      simp [Desk.accept]
    refine ⟨true, by rw [answer, taken], ?_⟩
    rw [taken]
    refine stands.arrive unissued now _ (by rw [queued]; exact stands.formed) (by rw [queued]; exact stands.busy)
      fun parked stages => ⟨payload ::ₘ parked, stages.push lists, ?_⟩
    rw [Store.entries, queued, Multiset.map_cons, ← Multiset.singleton_add, add_comm ({payload.entry} : Multiset Entry),
      ← add_assoc]
    rfl

/-- A release is nothing to the desk. -/
theorem release (stands : Stands duties st desk) (tenantId : TenantId) (queueName : String) :
    (Store.perform (TenantCapService.release tenantId queueName) st).1 = .ok () ∧
      Stands duties (Store.perform (TenantCapService.release tenantId queueName) st).2 desk := by
  obtain ⟨answer, left⟩ := st.release_cases tenantId queueName
  refine ⟨answer, ?_⟩
  rcases left with ⟨lists, queued⟩ | ⟨payload, rest, queue, waits, placed, lists, queued⟩
  · exact stands.of_store lists queued
  · obtain ⟨parked, stages, held⟩ := stands.held
    obtain ⟨others, rfl, stages'⟩ := stages.pop waits lists
    have free := stands.free_of_parked held (Multiset.mem_cons_self payload others) queue
    obtain ⟨formed, busy⟩ := stands.formed_add placed st.redis.now queued
    refine ⟨⟨others, stages', ?_⟩, formed, busy, stands.issued, stands.distinct⟩
    rw [held, stands.entries_add free st.redis.now queued, ← Multiset.coe_add, Multiset.map_cons, ← Multiset.singleton_add,
      add_assoc]
    rfl

/-- Each job of a queue has an entry of its own on the desk. -/
theorem find (stands : Stands duties st desk) (at_i : st.queued[i]? = some job) :
    ∃ (j : Nat) (entry : Entry), desk.entries[j]? = some entry ∧ entry.untimed = (job.entry (duties i)).untimed := by
  obtain ⟨parked, _, held⟩ := stands.held
  have listed : (st.entries duties)[i]? = some (job.entry (duties i)).untimed := by
    rw [Store.entries, List.getElem?_mapIdx, at_i]
    rfl
  have member : (job.entry (duties i)).untimed ∈ (↑(desk.entries.map Entry.untimed) : Multiset Entry) := by
    rw [held]
    exact Multiset.mem_add.mpr (.inl (Multiset.mem_coe.mpr (List.mem_of_getElem? listed)))
  obtain ⟨entry, present, same⟩ := List.mem_map.mp (Multiset.mem_coe.mp member)
  obtain ⟨j, at_j⟩ := List.getElem?_of_mem present
  exact ⟨j, entry, at_j, same⟩

/-- A job of a queue and its entry move on together. -/
theorem settle (stands : Stands duties st desk) (at_i : st.queued[i]? = some job) (at_j : desk.entries[j]? = some entry)
    (alike : entry.untimed = (job.entry (duties i)).untimed) {duty : Option Duty}
    (alike' : entry'.untimed = (job'.entry duty).untimed) (own : entry'.payload = entry.payload) (formed : job'.Formed)
    (busy : duty ≠ none → job'.state = .active) :
    Stands (Function.update duties i duty) { st with queued := st.queued.set i job' } (desk.setEntry j entry') := by
  have bound := (List.getElem?_eq_some_iff.mp at_i).1
  have listed : (st.entries duties)[i]? = some (job.entry (duties i)).untimed := by
    rw [Store.entries, List.getElem?_mapIdx, at_i]
    rfl
  have moved : Store.entries { st with queued := st.queued.set i job' } (Function.update duties i duty) =
      (st.entries duties).set i (job'.entry duty).untimed := by
    apply List.ext_getElem?
    intro k
    by_cases here : k = i
    · subst here
      simp [Store.entries, bound]
    · rw [List.getElem?_set_ne (Ne.symm here)]
      simp [Store.entries, List.getElem?_set_ne (Ne.symm here), Function.update_of_ne here]
  refine ⟨?_, fun other member => ?_, fun k => ?_, ?_, stands.distinct⟩
  · obtain ⟨parked, stages, held⟩ := stands.held
    refine ⟨parked, stages, ?_⟩
    have before : (desk.entries.map Entry.untimed)[j]? = some entry.untimed := by rw [List.getElem?_map, at_j]; rfl
    have desks := coe_set_add before entry'.untimed
    have queues := coe_set_add listed (job'.entry duty).untimed
    rw [moved, Desk.setEntry, List.map_set]
    rw [← add_left_inj {entry.untimed}, desks, held, alike', alike, add_right_comm, ← queues, add_right_comm]
  · rcases List.mem_or_eq_of_mem_set member with old | rfl
    · exact stands.formed other old
    · exact formed
  · by_cases here : k = i
    · subst here
      rw [Function.update_self]
      exact fun given => ⟨job', by simp [bound], busy given⟩
    · rw [Function.update_of_ne here]
      intro given
      obtain ⟨other, at_k, active⟩ := stands.busy k given
      exact ⟨other, by rw [List.getElem?_set_ne (Ne.symm here), at_k], active⟩
  · change _ = desk.bullIds
    rw [← stands.issued]
    exact filterMap_set_of_eq at_j (by rw [Entry.customId, own, Entry.customId])

/-- A job of a queue that its entry does not see move. -/
theorem promote (stands : Stands duties st desk) (at_i : st.queued[i]? = some job) (idle : duties i = none)
    (alike : (job'.entry none).untimed = (job.entry none).untimed) (formed : job'.Formed) :
    Stands duties { st with queued := st.queued.set i job' } desk := by
  obtain ⟨j, entry, at_j, same⟩ := stands.find at_i
  have settled : Stands (Function.update duties i none) { st with queued := st.queued.set i job' } (desk.setEntry j entry) :=
    stands.settle at_i at_j same (by rw [same, idle, alike]) rfl formed (fun given => absurd rfl given)
  have desks : desk.setEntry j entry = desk := by
    obtain ⟨bound, here⟩ := List.getElem?_eq_some_iff.mp at_j
    rw [Desk.setEntry, ← here, List.set_getElem_self]
  rwa [Function.update_eq_self_iff.mpr idle.symm, desks] at settled

end Stands
end OrchestrateModel
