import Mathlib.Data.List.TakeWhile
import Orchestrate.Admission.Failure
import Orchestrate.Effect.Machine

namespace OrchestrateModel

open Effect Program TenantCapService

namespace Intake

/-- Releases of a tenant, one at a time and each on a positive counter. -/
def drains (refuses : JobQueuePayload → Option Err) (tenantId : TenantId) : Machine Intake String where
  step s queueName :=
    if 0 < s.redis.count (inflightKey tenantId) then some ((release tenantId queueName).run (serve refuses) s).2 else none

/-- The payloads that stand before the first rejected one. -/
def unblocked (refuses : JobQueuePayload → Option Err) (payloads : List JobQueuePayload) : List JobQueuePayload :=
  payloads.takeWhile fun payload => Accepts refuses payload

def acceptable (refuses : JobQueuePayload → Option Err) (payloads : List JobQueuePayload) : List JobQueuePayload :=
  payloads.filter fun payload => Accepts refuses payload

/-- So many releases have enqueued as many acceptable payloads of the list as they could, in its order. -/
def Flows (refuses : JobQueuePayload → Option Err) (tenantId : TenantId) (releases : Nat) (start s : Intake) : Prop :=
  let staged := acceptable refuses (start.redis.lists (stagingKey tenantId))
  ∃ fresh, s.enqueued = start.enqueued ++ fresh ∧ fresh.Sublist staged ∧ min releases staged.length ≤ fresh.length

variable {refuses : JobQueuePayload → Option Err} {tenantId : TenantId} {start s s' : Intake}
  {visited : List (Intake × String)} {queueName : String} {payload : JobQueuePayload}
  {waiting blocked enqueued rest : List JobQueuePayload}

/-- A release takes the first payload before the blocked ones, if there is one. -/
theorem drains_step {slots : Int} (holds : Holds tenantId slots (waiting ++ blocked) enqueued s)
    (accepts : ∀ payload ∈ waiting, Accepts refuses payload) (rejects : ∀ payload ∈ blocked.head?, ¬ Accepts refuses payload)
    (step : (drains refuses tenantId).step s queueName = some s') :
    ∃ slots', Holds tenantId slots' (waiting.tail ++ blocked) (enqueued ++ waiting.head?.toList) s' := by
  have positive : 0 < slots := by
    by_contra idle
    simp [drains, holds.slots, idle] at step
  rw [← holds.slots] at positive
  obtain rfl : ((release tenantId queueName).run (serve refuses) s).2 = s' := by
    simpa [drains, positive] using step
  rw [holds.slots] at positive
  have ends {waiting enqueued : List JobQueuePayload} {slots : Int}
      (returns : Returns (serve refuses) (release tenantId queueName) s () (Holds tenantId slots waiting enqueued)) :
      ∃ slots', Holds tenantId slots' waiting enqueued ((release tenantId queueName).run (serve refuses) s).2 := by
    obtain ⟨s', ran, holds⟩ := returns
    rw [ran]
    exact ⟨slots, holds⟩
  cases waiting with
  | cons payload rest => exact ends (release_accepts queueName positive holds (accepts payload List.mem_cons_self))
  | nil =>
    rw [List.head?_nil, Option.toList_none, List.append_nil]
    cases blocked with
    | nil => exact ends (release_idle queueName positive holds)
    | cons payload rest => exact ends (release_rejects queueName positive holds (rejects payload rfl))

/-- After so many releases as many of the payloads before the first rejected one are enqueued, and nothing else. -/
theorem drained (run : (drains refuses tenantId).Run start visited s) :
    s.enqueued = start.enqueued ++
      (unblocked refuses (start.redis.lists (stagingKey tenantId))).take visited.length := by
  let list := start.redis.lists (stagingKey tenantId)
  let blocked := list.dropWhile fun payload => Accepts refuses payload
  have rejects : ∀ payload ∈ blocked.head?, ¬ Accepts refuses payload := by
    intro payload first
    have := List.head?_dropWhile_not (fun payload => decide (Accepts refuses payload)) list
    rw [show (list.dropWhile fun payload => decide (Accepts refuses payload)).head? = some payload from first] at this
    simpa using this
  have state : ∃ slots, Holds tenantId slots ((unblocked refuses list).drop visited.length ++ blocked)
      (start.enqueued ++ (unblocked refuses list).take visited.length) s := by
    induction run with
    | nil =>
      refine ⟨_, rfl, ?_, (List.append_nil _).symm⟩
      exact List.takeWhile_append_dropWhile.symm
    | @snoc visited s s' e before step ih =>
      obtain ⟨slots, holds⟩ := ih
      have accepts : ∀ payload ∈ (unblocked refuses list).drop visited.length, Accepts refuses payload := by
        intro payload member
        simpa using List.mem_takeWhile_imp (List.mem_of_mem_drop member)
      obtain ⟨slots', holds'⟩ := drains_step holds accepts rejects step
      refine ⟨slots', ?_⟩
      rw [List.tail_drop] at holds'
      rw [List.append_assoc, List.head?_drop, ← List.take_add_one] at holds'
      rw [List.length_append, List.length_singleton]
      exact holds'
  obtain ⟨_, holds⟩ := state
  exact holds.enqueued

theorem unblocked_sublist (list : List JobQueuePayload) : (unblocked refuses list).Sublist (acceptable refuses list) := by
  have prefixed := (List.takeWhile_prefix (l := list) fun payload => decide (Accepts refuses payload)).sublist.filter
    fun payload => decide (Accepts refuses payload)
  have all : ∀ payload ∈ unblocked refuses list, decide (Accepts refuses payload) = true := by
    intro payload member
    simpa using List.mem_takeWhile_imp member
  have kept : (unblocked refuses list).filter (fun payload => Accepts refuses payload) = unblocked refuses list :=
    List.filter_eq_self.mpr all
  rw [← kept]
  exact prefixed

/-- The releases enqueue what they can exactly if no payload that they could enqueue stands behind a rejected one. -/
theorem flows_iff (run : (drains refuses tenantId).Run start visited s) : Flows refuses tenantId visited.length start s ↔
    min visited.length (acceptable refuses (start.redis.lists (stagingKey tenantId))).length ≤
      (unblocked refuses (start.redis.lists (stagingKey tenantId))).length := by
  have enqueued := drained run
  constructor
  · rintro ⟨fresh, added, -, enough⟩
    rw [enqueued] at added
    have length := congrArg List.length (List.append_cancel_left added)
    rw [List.length_take] at length
    omega
  · intro enough
    refine ⟨_, enqueued, (List.take_sublist _ _).trans (unblocked_sublist _), ?_⟩
    rw [List.length_take]
    omega

/-- Behind a payload that no queue takes. -/
def blockedDesk : Intake :=
  { redis := (Redis.empty.add (inflightKey "t") 5).setList (stagingKey "t") [importJob, ownName, importJob], enqueued := [] }

theorem flows_blockedDesk : ∃ s, (drains (fun _ => none) "t").exec blockedDesk ["etl-jobs"] = some s ∧
    Flows (fun _ => none) "t" 1 blockedDesk s := by
  have result : ((drains (fun _ => none) "t").exec blockedDesk ["etl-jobs"]).isSome = true := by decide +kernel
  obtain ⟨s, done⟩ := Option.isSome_iff_exists.mp result
  exact ⟨s, done, (flows_iff (Machine.run_of_exec done)).mpr (by decide +kernel)⟩

/-- Two releases, of which the second gets to no payload. -/
theorem blocks : ∃ s, (drains (fun _ => none) "t").exec blockedDesk ["etl-jobs", "etl-jobs"] = some s ∧
    s.enqueued = [importJob] ∧ ¬ Flows (fun _ => none) "t" 2 blockedDesk s := by
  have result : ((drains (fun _ => none) "t").exec blockedDesk ["etl-jobs", "etl-jobs"]).map (·.enqueued) =
      some [importJob] := by decide +kernel
  obtain ⟨s, done, enqueued⟩ := Option.map_eq_some_iff.mp result
  refine ⟨s, done, enqueued, fun flows => ?_⟩
  obtain ⟨fresh, added, -, enough⟩ := flows
  have single : fresh = [importJob] := by
    have joined : [importJob] = [] ++ fresh := enqueued.symm.trans added
    exact joined.symm
  have both : min 2 (acceptable (fun _ => none) (blockedDesk.redis.lists (stagingKey "t"))).length = 2 := by decide +kernel
  rw [both, single] at enough
  exact absurd enough (by decide)

end Intake
end OrchestrateModel
