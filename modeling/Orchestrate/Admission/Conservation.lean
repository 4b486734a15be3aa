import Mathlib.Data.List.Dedup
import Orchestrate.Admission.Guarantees

namespace OrchestrateModel

open Effect TenantCapService

/-- Overlapping `submitJob` and `release` calls; a release may be called at any time, whatever it releases. -/
structure Overlap where
  redis : Redis
  submitted : List JobQueuePayload
  enqueued : List JobQueuePayload
  calls : List Thread

inductive OverlapEvent : Type where
  | submit (payload : JobQueuePayload)
  | release (tenantId : TenantId)
  | advance (i : Nat)
  | tick
  | expire (tenantId : TenantId)
  deriving DecidableEq

/-- The payload of a `submitJob` that has neither enqueued nor pushed it. -/
def Thread.submitting : Thread → Option JobQueuePayload
  | .submit payload .countSubmitted | .submit payload .incr | .submit payload .expire | .submit payload .add
  | .submit payload .decr | .submit payload .rpush => some payload
  | _ => none

namespace Overlap

def empty : Overlap := { redis := .empty, submitted := [], enqueued := [], calls := [] }

def step (s : Overlap) : OverlapEvent → Option Overlap
  | .submit payload =>
    some { s with submitted := s.submitted ++ [payload], calls := s.calls ++ [.submit payload .countSubmitted] }
  | .release tenantId => some { s with calls := s.calls ++ [.release tenantId .decr] }
  | .advance i =>
    s.calls[i]?.bind fun thread => thread.next.map fun c =>
      { s with
        redis := (s.redis.exec c).2
        enqueued := s.enqueued ++ c.added.toList
        calls := s.calls.set i (thread.resume s.redis) }
  | .tick => some { s with redis := { s.redis with now := s.redis.now + 1 } }
  | .expire tenantId => (s.redis.expireKey (inflightKey tenantId)).map fun redis => { s with redis := redis }

/-- The payloads inside `submitJob` calls that have neither enqueued nor pushed them. -/
def submitting (s : Overlap) : List JobQueuePayload := s.calls.filterMap Thread.submitting

/-- The payloads inside `drainOne` calls that have popped but not enqueued them. -/
def draining (s : Overlap) : List JobQueuePayload := s.calls.filterMap Thread.drained

/-- The staging lists of all tenants. -/
def staged (s : Overlap) : List JobQueuePayload :=
  (s.submitted.map (·.tenantId)).dedup.flatMap fun tenantId => s.redis.lists (stagingKey tenantId)

/-- A staging list holds payloads of its own tenant only. -/
def Homed (s : Overlap) : Prop :=
  ∀ tenantId, ∀ payload ∈ s.redis.lists (stagingKey tenantId), payload.tenantId = tenantId

def Quiescent (s : Overlap) : Prop := ∀ thread ∈ s.calls, thread.returned = true

end Overlap

def overlap : Machine Overlap OverlapEvent := ⟨Overlap.step⟩

/-- The payload that a thread has and nobody else. -/
def Thread.carried (thread : Thread) : Option JobQueuePayload := thread.submitting <|> thread.drained

/-- A call hands a payload on, and neither drops nor copies it. -/
theorem Thread.conserves {thread : Thread} {c : CapCall} {redis : Redis} (next : thread.next = some c)
    (homed : ∀ tenantId, ∀ payload ∈ redis.lists (stagingKey tenantId), payload.tenantId = tenantId)
    (payload : JobQueuePayload) :
    (thread.resume redis).carried.toList.count payload +
        ((redis.exec c).2.lists (stagingKey payload.tenantId)).count payload + c.added.toList.count payload =
      thread.carried.toList.count payload + (redis.lists (stagingKey payload.tenantId)).count payload := by
  rw [Redis.lists_exec]
  cases thread with
  | submit own point =>
    cases point with
    | incr =>
      obtain rfl := Option.some.inj next
      dsimp only [Thread.resume]
      split
      · rfl
      · split <;> rfl
    | add =>
      obtain ⟨queueName, _, rfl⟩ := Option.map_eq_some_iff.mp next
      simp only [Thread.resume, Thread.carried, Thread.submitting, Thread.drained, CapCall.added]
      simp
      omega
    | rpush =>
      obtain rfl := Option.some.inj next
      by_cases same : own = payload
      · subst same
        simp [Thread.resume, Thread.carried, Thread.submitting, Thread.drained, CapCall.added]
        omega
      · have unpushed : (if payload.tenantId = own.tenantId then [own] else []).count payload = 0 := by
          split <;> simp [same]
        simp [Thread.resume, Thread.carried, Thread.submitting, Thread.drained, CapCall.added, same, unpushed]
    | returned status => cases next
    | _ =>
      obtain rfl := Option.some.inj next
      rfl
  | release owner point =>
    cases point with
    | decr =>
      obtain rfl := Option.some.inj next
      dsimp only [Thread.resume]
      split <;> rfl
    | lpop =>
      obtain rfl := Option.some.inj next
      cases waits : redis.lists (stagingKey owner) with
      | nil =>
        by_cases own : payload.tenantId = owner
        · simp [Thread.resume, waits, own, Thread.carried, Thread.submitting, Thread.drained, CapCall.added]
        · simp [Thread.resume, waits, own, Thread.carried, Thread.submitting, Thread.drained, CapCall.added]
      | cons head rest =>
        have home : head.tenantId = owner := homed owner head (by simp [waits])
        by_cases own : payload.tenantId = owner
        · simp [Thread.resume, waits, own, Thread.carried, Thread.submitting, Thread.drained, CapCall.added,
            List.count_cons]
          omega
        · have apart : head ≠ payload := by
            rintro rfl
            exact own home
          simp [Thread.resume, waits, own, apart, Thread.carried, Thread.submitting, Thread.drained, CapCall.added]
    | add own =>
      obtain ⟨queueName, _, rfl⟩ := Option.map_eq_some_iff.mp next
      simp only [Thread.resume, Thread.carried, Thread.submitting, Thread.drained, CapCall.added]
      simp
      omega
    | returned => cases next
    | _ =>
      obtain rfl := Option.some.inj next
      rfl

namespace Overlap

variable {s s' : Overlap}

/-- Each submitted payload is accounted for, as often as it was submitted. -/
structure Sound (s : Overlap) : Prop where
  homed : s.Homed
  conserved : ∀ payload, s.submitted.count payload = (s.calls.filterMap Thread.carried).count payload +
    (s.redis.lists (stagingKey payload.tenantId)).count payload + s.enqueued.count payload

theorem sound_empty : Overlap.empty.Sound where
  homed := by
    intro tenantId payload member
    cases member
  conserved := fun _ => rfl

theorem count_filterMap_set {α β : Type} [BEq β] [LawfulBEq β] (f : α → Option β) {items : List α} {i : Nat} {old : α}
    (at_i : items[i]? = some old) (new : α) (b : β) :
    ((items.set i new).filterMap f).count b + (f old).toList.count b =
      (items.filterMap f).count b + (f new).toList.count b := by
  induction items generalizing i with
  | nil => simp at at_i
  | cons head tail ih =>
    cases i with
    | zero =>
      obtain rfl : head = old := by simpa using at_i
      rw [List.set_cons_zero, List.filterMap_cons, List.filterMap_cons]
      cases f head <;> cases f new <;> simp [List.count_cons]
      all_goals omega
    | succ i =>
      have later := ih (by simpa using at_i)
      rw [List.set_cons_succ, List.filterMap_cons, List.filterMap_cons]
      cases f head <;> simp [List.count_cons]
      all_goals omega

theorem sound_advance {i : Nat} (sound : s.Sound) (step : s.step (.advance i) = some s') : s'.Sound := by
  obtain ⟨thread, at_i, rest⟩ := Option.bind_eq_some_iff.mp step
  obtain ⟨c, next, rfl⟩ := Option.map_eq_some_iff.mp rest
  constructor
  · intro tenantId payload member
    rcases thread.parked s.redis next member with before | ⟨key, own⟩
    · exact sound.homed tenantId payload before
    · rw [own, stagingKey_inj.mp key]
  · intro payload
    have before := sound.conserved payload
    have moved := thread.conserves next sound.homed payload
    have counted := count_filterMap_set Thread.carried at_i (thread.resume s.redis) payload
    dsimp only
    rw [List.count_append]
    omega

theorem sound_step {e : OverlapEvent} (sound : s.Sound) (step : s.step e = some s') : s'.Sound := by
  cases e with
  | submit payload =>
    obtain rfl := Option.some.inj step
    refine ⟨sound.homed, fun other => ?_⟩
    have before := sound.conserved other
    have carries : [Thread.submit payload .countSubmitted].filterMap Thread.carried = [payload] := rfl
    dsimp only
    rw [List.filterMap_append, List.count_append, List.count_append, carries]
    omega
  | release tenantId =>
    obtain rfl := Option.some.inj step
    refine ⟨sound.homed, fun other => ?_⟩
    have before := sound.conserved other
    simpa [Thread.carried, Thread.submitting, Thread.drained] using before
  | advance i => exact sound_advance sound step
  | tick =>
    obtain rfl := Option.some.inj step
    exact ⟨sound.homed, sound.conserved⟩
  | expire tenantId =>
    obtain ⟨redis, expired, rfl⟩ := Option.map_eq_some_iff.mp step
    rw [Redis.expireKey_eq_some expired]
    exact ⟨sound.homed, sound.conserved⟩

theorem count_flatMap_of_home {α β : Type} [DecidableEq α] [DecidableEq β] {keys : List α} {f : α → List β} {home : α}
    {b : β} (distinct : keys.Nodup) (elsewhere : ∀ key, key ≠ home → b ∉ f key) :
    (keys.flatMap f).count b = if home ∈ keys then (f home).count b else 0 := by
  induction keys with
  | nil => rfl
  | cons key rest ih =>
    obtain ⟨fresh, distinct⟩ := List.nodup_cons.mp distinct
    rw [List.flatMap_cons, List.count_append, ih distinct]
    by_cases same : key = home
    · subst same
      simp [fresh]
    · have absent := List.count_eq_zero.mpr (elsewhere key same)
      simp [absent, Ne.symm same]

theorem Sound.count_staged (sound : s.Sound) (payload : JobQueuePayload) :
    s.staged.count payload = (s.redis.lists (stagingKey payload.tenantId)).count payload := by
  have elsewhere (tenantId : TenantId) (apart : tenantId ≠ payload.tenantId) :
      payload ∉ s.redis.lists (stagingKey tenantId) :=
    fun member => apart (sound.homed tenantId payload member).symm
  rw [staged, count_flatMap_of_home (List.nodup_dedup _) elsewhere]
  split
  · rfl
  · rename_i unknown
    have conserved := sound.conserved payload
    have unsubmitted : s.submitted.count payload = 0 := by
      rw [List.count_eq_zero]
      intro member
      exact unknown (List.mem_dedup.mpr (List.mem_map_of_mem member))
    omega

theorem count_carried (calls : List Thread) (payload : JobQueuePayload) :
    (calls.filterMap Thread.carried).count payload =
      (calls.filterMap Thread.submitting).count payload + (calls.filterMap Thread.drained).count payload := by
  induction calls with
  | nil => rfl
  | cons thread rest ih =>
    have either : thread.carried.toList.count payload =
        thread.submitting.toList.count payload + thread.drained.toList.count payload := by
      cases thread with
      | submit own point => cases point <;> rfl
      | release owner point => cases point <;> simp [Thread.carried, Thread.submitting]
    have split (f : Thread → Option JobQueuePayload) : ((thread :: rest).filterMap f).count payload =
        (f thread).toList.count payload + (rest.filterMap f).count payload := by
      cases carries : f thread <;> simp [carries, List.count_cons]
      omega
    rw [split, split, split, ih, either]
    omega

/-- Every submitted payload is inside its `submitJob`, in the staging list of its tenant, inside a drain, or enqueued:
    the four together are the submitted payloads, each as often as it was submitted. -/
theorem payloads_conserved {visited : List (Overlap × OverlapEvent)} (run : overlap.Run .empty visited s) :
    s.submitted.Perm (s.submitting ++ s.staged ++ s.draining ++ s.enqueued) ∧ s.Homed ∧
      (s.Quiescent → s.submitted.Perm (s.enqueued ++ s.staged)) := by
  have sound := run.always Sound sound_empty fun _ _ _ sound step => sound_step sound step
  have whole : s.submitted.Perm (s.submitting ++ s.staged ++ s.draining ++ s.enqueued) := by
    rw [List.perm_iff_count]
    intro payload
    have conserved := sound.conserved payload
    rw [count_carried, ← sound.count_staged] at conserved
    simp only [List.count_append, submitting, draining]
    omega
  refine ⟨whole, sound.homed, fun quiescent => ?_⟩
  have returned (f : Thread → Option JobQueuePayload) (none : ∀ thread, thread.returned = true → f thread = none) :
      s.calls.filterMap f = [] := by
    rw [List.filterMap_eq_nil_iff]
    exact fun thread member => none thread (quiescent thread member)
  have idle : s.submitting = [] := returned Thread.submitting fun thread done => by
    cases thread with
    | submit own point => cases point <;> first | rfl | cases done
    | release owner point => rfl
  have drained : s.draining = [] := returned Thread.drained fun thread done => by
    cases thread with
    | submit own point => rfl
    | release owner point => cases point <;> first | rfl | cases done
  rw [idle, drained, List.nil_append, List.append_nil] at whole
  exact whole.trans List.perm_append_comm

/-- A release that nothing preceded resets the counter in the middle of a `submitJob`. -/
def resetBetween : List OverlapEvent :=
  [.release "t", .submit Admission.sample, .advance 0, .advance 1, .advance 0, .advance 1, .advance 1, .advance 1]

/-- Six more jobs of `t`, of which two are staged, while one of `u` is submitted; a release of `t` drains the first of the two. -/
def twoTenants : List OverlapEvent :=
  resetBetween ++
    ([3, 3, 3, 3, 6].zipIdx 2).flatMap (fun turns =>
      .submit { Admission.sample with jobId := turns.2 } :: List.replicate turns.1 (.advance turns.2)) ++
    [.submit { Admission.sample with jobId := 7 }, .submit { Admission.sample with jobId := 8, tenantId := "u" }] ++
    (List.replicate 4 [.advance 7, .advance 8]).flatten ++ List.replicate 2 (.advance 7) ++
    .release "t" :: List.replicate 9 (.advance 9)

theorem payloads_conserved_twoTenants : ∃ s, overlap.exec .empty twoTenants = some s ∧
    s.staged.map (·.jobId) = [7] ∧ s.enqueued.map (·.jobId) = [0, 2, 3, 4, 5, 8, 6] ∧
    s.submitted.Perm (s.enqueued ++ s.staged) := by
  have result : (overlap.exec .empty twoTenants).map (fun s =>
      (s.calls.all Thread.returned, s.staged.map (·.jobId), s.enqueued.map (·.jobId))) =
        some (true, [7], [0, 2, 3, 4, 5, 8, 6]) := by decide +kernel
  obtain ⟨s, done, same⟩ := Option.map_eq_some_iff.mp result
  simp only [Prod.mk.injEq] at same
  obtain ⟨returned, staged, enqueued⟩ := same
  obtain ⟨_, _, quiet⟩ := payloads_conserved (Machine.run_of_exec done)
  exact ⟨s, done, staged, enqueued, quiet fun thread present => List.all_eq_true.mp returned thread present⟩

end Overlap
end OrchestrateModel
