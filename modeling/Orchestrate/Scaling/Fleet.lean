import Orchestrate.Scaling.Bounds

namespace OrchestrateModel

open Effect Cooperation AutoscalerService

namespace ScalerStore

def registered (s : ScalerStore) (queueName : String) : List WorkerId := (s.workers queueName).getD []

/-- The worker is registered for a queue, or it was told to close. -/
def Known (s : ScalerStore) (worker : WorkerId) : Prop := (∃ queueName, worker ∈ s.registered queueName) ∨ worker ∈ s.closing

/-- A worker is registered once, for one queue, after the older ones, or it was told once to close. -/
structure Fleet (s : ScalerStore) : Prop where
  ascending : ∀ queueName, (s.registered queueName).Pairwise (· < ·)
  apart : ∀ queueName other worker, worker ∈ s.registered queueName → worker ∈ s.registered other → queueName = other
  running : ∀ queueName worker, worker ∈ s.registered queueName → worker ∉ s.closing
  closed : s.closing.Nodup
  created : ∀ worker, s.Known worker → worker < s.nextWorker

end ScalerStore

/-- Each queue is a stack of workers: a new worker is pushed, or the newest one is popped and told to close. -/
inductive FleetStep (s s' : ScalerStore) : Prop where
  | stays (same : ∀ queueName, s'.registered queueName = s.registered queueName) (closing : s'.closing = s.closing)
      (created : s'.nextWorker = s.nextWorker)
  | pushes (queueName : String) (pushed : s'.registered queueName = s.registered queueName ++ [s.nextWorker])
      (others : ∀ other, other ≠ queueName → s'.registered other = s.registered other) (closing : s'.closing = s.closing)
      (created : s'.nextWorker = s.nextWorker + 1)
  | pops (queueName : String) (worker : WorkerId) (popped : s.registered queueName = s'.registered queueName ++ [worker])
      (others : ∀ other, other ≠ queueName → s'.registered other = s.registered other)
      (closing : s'.closing = s.closing ++ [worker]) (created : s'.nextWorker = s.nextWorker)

section Moves

variable {s s' : ScalerStore} {stage stage' : ScalerStage} {turn : ScalerTurn} {queueName other : String}

theorem registered_setWorkers_self (list : List WorkerId) : (s.setWorkers queueName list).registered queueName = list := by
  simp [ScalerStore.registered]

theorem registered_setWorkers_other (apart : other ≠ queueName) (list : List WorkerId) :
    (s.setWorkers queueName list).registered other = s.registered other := by
  simp [ScalerStore.registered, apart]

theorem ScalerMove.fleetStep (moved : ScalerMove stage s turn s' stage') : FleetStep s s' := by
  cases moved with
  | @spawns _ _ queueName _ _ _ _ =>
    unfold ScalerStore.spawned
    split
    · refine .pushes queueName ?_ (fun other apart => ?_) rfl rfl
      · exact registered_setWorkers_self ..
      · exact registered_setWorkers_other apart _
    · exact .stays (fun _ => rfl) rfl rfl
  | @terminates _ _ queueName _ rest worker _ _ _ list =>
    refine .pops queueName worker ?_ (fun other apart => ?_) rfl rfl
    · have left : (s.terminated queueName rest worker).registered queueName = rest := registered_setWorkers_self ..
      rw [left]
      exact list
    · exact registered_setWorkers_other apart _
  | rests | samples | keeps | closes | fails | settles | stamps => exact .stays (fun _ => rfl) rfl rfl

/-- A worker that is registered after a step was registered there, or it is new. -/
theorem FleetStep.registered_of (step : FleetStep s s') {worker : WorkerId} (member : worker ∈ s'.registered queueName) :
    worker ∈ s.registered queueName ∨
      (worker = s.nextWorker ∧ s'.nextWorker = s.nextWorker + 1 ∧
        s'.registered queueName = s.registered queueName ++ [worker] ∧
        ∀ other, other ≠ queueName → s'.registered other = s.registered other) := by
  cases step with
  | stays same _ _ => exact .inl (same queueName ▸ member)
  | pushes there pushed others closing created =>
    by_cases here : queueName = there
    · subst here
      have listed := member
      rw [pushed] at listed
      rcases List.mem_append.mp listed with old | now
      · exact .inl old
      · obtain rfl := List.mem_singleton.mp now
        exact .inr ⟨rfl, created, pushed, others⟩
    · exact .inl (others queueName here ▸ member)
  | pops there last popped others closing created =>
    by_cases here : queueName = there
    · subst here
      exact .inl (by rw [popped]; exact List.mem_append_left _ member)
    · exact .inl (others queueName here ▸ member)

/-- A worker that is registered stays so, or it is the last of its queue and is told to close. -/
theorem FleetStep.of_registered (step : FleetStep s s') {worker : WorkerId} (member : worker ∈ s.registered queueName) :
    worker ∈ s'.registered queueName ∨
      (s.registered queueName = s'.registered queueName ++ [worker] ∧ s'.closing = s.closing ++ [worker]) := by
  cases step with
  | stays same _ _ => exact .inl ((same queueName).symm ▸ member)
  | pushes there pushed others closing created =>
    by_cases here : queueName = there
    · subst here
      exact .inl (by rw [pushed]; exact List.mem_append_left _ member)
    · exact .inl ((others queueName here).symm ▸ member)
  | pops there last popped others closing created =>
    by_cases here : queueName = there
    · subst here
      have listed := member
      rw [popped] at listed
      rcases List.mem_append.mp listed with kept | now
      · exact .inl kept
      · obtain rfl := List.mem_singleton.mp now
        exact .inr ⟨popped, closing⟩
    · exact .inl ((others queueName here).symm ▸ member)

/-- A worker that has been told to close was so before, or it was the last of its queue. -/
theorem FleetStep.closing_of (step : FleetStep s s') :
    s'.closing = s.closing ∨ ∃ queueName worker, s.registered queueName = s'.registered queueName ++ [worker] ∧
      (∀ other, other ≠ queueName → s'.registered other = s.registered other) ∧ s'.closing = s.closing ++ [worker] := by
  cases step with
  | stays _ closing _ => exact .inl closing
  | pushes _ _ _ closing _ => exact .inl closing
  | pops queueName worker popped others closing _ => exact .inr ⟨queueName, worker, popped, others, closing⟩

/-- The step lemma: no worker is lost, and a new one is the next in the order of creation. -/
theorem FleetStep.known (step : FleetStep s s') (worker : WorkerId) :
    s'.Known worker ↔ s.Known worker ∨ (s.nextWorker ≤ worker ∧ worker < s'.nextWorker) := by
  constructor
  · rintro (⟨queueName, member⟩ | told)
    · rcases step.registered_of member with old | ⟨rfl, created, _⟩
      · exact .inl (.inl ⟨queueName, old⟩)
      · exact .inr ⟨Nat.le_refl _, by rw [created]; exact Nat.lt_succ_self _⟩
    · rcases step.closing_of with same | ⟨queueName, last, popped, _, closing⟩
      · exact .inl (.inr (same ▸ told))
      · rw [closing] at told
        rcases List.mem_append.mp told with old | now
        · exact .inl (.inr old)
        · rw [List.mem_singleton.mp now]
          exact .inl (.inl ⟨queueName, by rw [popped]; exact List.mem_append_right _ (List.mem_singleton_self _)⟩)
  · rintro ((⟨queueName, member⟩ | told) | ⟨from_, below⟩)
    · rcases step.of_registered member with kept | ⟨_, closing⟩
      · exact .inl ⟨queueName, kept⟩
      · exact .inr (by rw [closing]; exact List.mem_append_right _ (List.mem_singleton_self _))
    · rcases step.closing_of with same | ⟨_, last, _, _, closing⟩
      · exact .inr (same.symm ▸ told)
      · exact .inr (by rw [closing]; exact List.mem_append_left _ told)
    · cases step with
      | stays _ _ created | pops _ _ _ _ _ created =>
        rw [created] at below
        exact absurd below (Nat.not_lt.mpr from_)
      | pushes queueName pushed _ _ created =>
        rw [created] at below
        obtain rfl : worker = s.nextWorker := Nat.le_antisymm (Nat.lt_succ_iff.mp below) from_
        exact .inl ⟨queueName, by rw [pushed]; exact List.mem_append_right _ (List.mem_singleton_self _)⟩

theorem FleetStep.created_le (step : FleetStep s s') : s.nextWorker ≤ s'.nextWorker := by
  cases step with
  | stays _ _ created | pops _ _ _ _ _ created => exact Nat.le_of_eq created.symm
  | pushes _ _ _ _ created => exact created ▸ Nat.le_succ _

theorem ScalerStore.Fleet.step (fleet : s.Fleet) (step : FleetStep s s') : s'.Fleet := by
  have new {queueName : String} (member : s.nextWorker ∈ s.registered queueName) : False :=
    Nat.lt_irrefl _ (fleet.created _ (.inl ⟨queueName, member⟩))
  refine ⟨fun queueName => ?_, fun queueName other worker here there => ?_, fun queueName worker member told => ?_, ?_,
    fun worker known => ?_⟩
  · have before := fleet.ascending queueName
    cases step with
    | stays same _ _ => rwa [same]
    | pushes there pushed others closing created =>
      by_cases here : queueName = there
      · subst here
        rw [pushed, List.pairwise_append]
        refine ⟨before, List.pairwise_singleton _ _, fun old member last now => ?_⟩
        rw [List.mem_singleton.mp now]
        exact fleet.created old (.inl ⟨queueName, member⟩)
      · rwa [others queueName here]
    | pops there last popped others closing created =>
      by_cases here : queueName = there
      · subst here
        rw [popped, List.pairwise_append] at before
        exact before.1
      · rwa [others queueName here]
  · rcases step.registered_of here with old | ⟨rfl, _, _, others⟩
    · rcases step.registered_of there with old' | ⟨rfl, _, _, _⟩
      · exact fleet.apart queueName other worker old old'
      · exact (new old).elim
    · by_contra apart
      rw [others other (Ne.symm apart)] at there
      exact new there
  · rcases step.registered_of member with old | ⟨rfl, _, pushed, _⟩
    · rcases step.closing_of with same | ⟨there, last, popped, others, closing⟩
      · exact fleet.running queueName worker old (same ▸ told)
      · rw [closing] at told
        rcases List.mem_append.mp told with before | now
        · exact fleet.running queueName worker old before
        · obtain rfl := List.mem_singleton.mp now
          have left : worker ∈ s.registered there := by
            rw [popped]
            exact List.mem_append_right _ (List.mem_singleton_self _)
          obtain rfl := fleet.apart queueName there worker old left
          have distinct := fleet.ascending queueName
          rw [popped, List.pairwise_append] at distinct
          exact Nat.lt_irrefl _ (distinct.2.2 worker member worker (List.mem_singleton_self _))
    · rcases step.closing_of with same | ⟨there, last, popped, others, closing⟩
      · exact Nat.lt_irrefl _ (fleet.created _ (.inr (same ▸ told)))
      · rw [closing] at told
        rcases List.mem_append.mp told with before | now
        · exact Nat.lt_irrefl _ (fleet.created _ (.inr before))
        · rw [List.mem_singleton.mp now] at new
          have left : last ∈ s.registered there := by
            rw [popped]
            exact List.mem_append_right _ (List.mem_singleton_self _)
          exact new left
  · rcases step.closing_of with same | ⟨there, last, popped, others, closing⟩
    · exact same ▸ fleet.closed
    · rw [closing, List.nodup_append]
      refine ⟨fleet.closed, List.nodup_singleton _, fun worker told other now same => ?_⟩
      rw [← same] at now
      rw [List.mem_singleton.mp now] at told
      exact fleet.running there last (by rw [popped]; exact List.mem_append_right _ (List.mem_singleton_self _)) told
  · rcases (step.known worker).mp known with before | ⟨_, below⟩
    · exact Nat.lt_of_lt_of_le (fleet.created worker before) step.created_le
    · exact below

end Moves

section Runs

variable {queues : List String} {start pool : Pool scalerSignature Err ScalerStore}
  {visited : List (Pool scalerSignature Err ScalerStore × (Turn × ScalerTurn))}

/-- What every state of a run meets. -/
structure Manned (start pool : Pool scalerSignature Err ScalerStore) : Prop where
  waits : ∃ stages, List.Forall₂ (scalerLoop.Waits scalerDiscipline) stages pool.threads
  fleet : pool.state.Fleet
  grows : start.state.nextWorker ≤ pool.state.nextWorker
  known : ∀ worker, pool.state.Known worker ↔
    start.state.Known worker ∨ (start.state.nextWorker ≤ worker ∧ worker < pool.state.nextWorker)

theorem Manned.step {pool' : Pool scalerSignature Err ScalerStore} {event : Turn × ScalerTurn} (manned : Manned start pool)
    (step : (autoscaler queues).step pool event = some pool') :
    FleetStep pool.state pool'.state ∧ Manned start pool' := by
  obtain ⟨stages, waits⟩ := manned.waits
  obtain ⟨turn, e⟩ := event
  obtain ⟨stages', took, waits'⟩ := autoscaler_step waits step
  obtain ⟨stage, stage', moved⟩ := took_move took
  have moves : FleetStep pool.state pool'.state := moved.fleetStep
  refine ⟨moves, ⟨stages', waits'⟩, manned.fleet.step moves, Nat.le_trans manned.grows moves.created_le, fun worker => ?_⟩
  rw [moves.known, manned.known, or_assoc]
  have grows := manned.grows
  have more := moves.created_le
  refine or_congr_right ⟨fun either => ?_, fun both => ?_⟩
  · rcases either with old | new
    · exact ⟨old.1, Nat.lt_of_lt_of_le old.2 more⟩
    · exact ⟨Nat.le_trans grows new.1, new.2⟩
  · rcases Nat.lt_or_ge worker pool.state.nextWorker with old | new
    · exact .inl ⟨both.1, old⟩
    · exact .inr ⟨new, both.2⟩

/-- However ticks overlap and whatever closes fail, each worker that was registered or created is registered once or was
    told once to close, and each step pushes a new worker on one queue's list, pops the newest one of it, or changes
    none. -/
theorem workers_conserved (fleet : start.state.Fleet) (booted : start.threads = [])
    (run : (autoscaler queues).Run start visited pool) :
    pool.state.Fleet ∧
    (∀ worker, pool.state.Known worker ↔
      start.state.Known worker ∨ (start.state.nextWorker ≤ worker ∧ worker < pool.state.nextWorker)) ∧
    ∀ v ∈ visited, ∀ next, (autoscaler queues).step v.1 v.2 = some next → FleetStep v.1.state next.state := by
  have initial : Manned start start := by
    refine ⟨⟨[], ?_⟩, fleet, Nat.le_refl _, fun worker => ⟨.inl, fun either => ?_⟩⟩
    · rw [booted]
      exact .nil
    · rcases either with known | both
      · exact known
      · exact absurd both.2 (Nat.not_lt.mpr both.1)
  have all : (∀ v ∈ visited, Manned start v.1) ∧ Manned start pool := by
    have unguarded : Machine.Guarded (fun _ _ => True) visited := fun _ _ => trivial
    apply run.throughout (Manned start) unguarded initial
    intro pool event pool' held _ step
    exact (held.step step).2
  exact ⟨all.2.fleet, all.2.known, fun v member next step => ((all.1 v member).step step).1⟩

theorem workers_conserved_overlapping :
    ∃ pool, (autoscaler ["media"]).exec threeWorkers overlappingTicks = some pool ∧ pool.state.Fleet ∧
      ∀ worker, pool.state.Known worker ↔ worker < 3 := by
  have ends : ((autoscaler ["media"]).exec threeWorkers overlappingTicks).map (fun pool => pool.state.nextWorker) =
      some 3 := by
    decide +kernel
  obtain ⟨pool, ran, created⟩ := Option.map_eq_some_iff.mp ends
  have lists (queueName : String) : threeWorkers.state.registered queueName = if queueName = "media" then [0, 1, 2] else [] := by
    simp only [ScalerStore.registered, threeWorkers]
    split <;> rfl
  have media (queueName : String) (worker : WorkerId) :
      worker ∈ threeWorkers.state.registered queueName ↔ queueName = "media" ∧ worker < 3 := by
    rw [lists]
    split
    · rename_i same
      have below : worker < 3 ↔ worker = 0 ∨ worker = 1 ∨ worker = 2 := by
        rw [← List.mem_range]
        simp [List.range_succ]
      simp [same, below]
    · rename_i other
      simp [other]
  have known (worker : WorkerId) : threeWorkers.state.Known worker ↔ worker < 3 := by
    have idle : threeWorkers.state.closing = [] := rfl
    simp [ScalerStore.Known, media, idle]
  have fleet : threeWorkers.state.Fleet := by
    refine ⟨fun queueName => ?_, fun queueName other worker here there => ?_, fun _ _ _ => List.not_mem_nil,
      List.nodup_nil, fun worker present => (known worker).mp present⟩
    · rw [lists]
      split <;> simp
    · exact ((media queueName worker).mp here).1.trans ((media other worker).mp there).1.symm
  obtain ⟨whole, conserved, _⟩ := workers_conserved fleet rfl (Machine.run_of_exec ran)
  refine ⟨pool, ran, whole, fun worker => ?_⟩
  rw [conserved, known, created]
  exact ⟨fun either => either.elim id And.right, .inl⟩

end Runs

end OrchestrateModel
