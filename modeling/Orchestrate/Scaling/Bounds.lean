import Orchestrate.Scaling.Autoscaler

namespace OrchestrateModel

open Effect Cooperation AutoscalerService

namespace ScalerStore

/-- The base worker is the first of its queue, within the bounds, and nothing closes it. -/
structure Bounded (queueName : String) (base : WorkerId) (s : ScalerStore) : Prop where
  first : ((s.workers queueName).getD []).head? = some base
  low : MIN_WORKERS ≤ s.count queueName
  high : s.count queueName ≤ MAX_WORKERS
  kept : base ∉ s.closing

/-- The base worker was created before and registered once, before the other workers of its queue. -/
structure RegisteredFirst (queueName : String) (base : WorkerId) (s : ScalerStore) : Prop where
  first : ((s.workers queueName).getD []).head? = some base
  once : ∀ other i, ((s.workers other).getD [])[i]? = some base → other = queueName ∧ i = 0
  created : base < s.nextWorker
  running : base ∉ s.closing

end ScalerStore

/-- One step at most up or down. -/
def WithinOne (before after : Nat) : Prop := after = before ∨ after = before + 1 ∨ before = after + 1

section Moves

variable {queueName other : String} {base worker : WorkerId} {rest : List WorkerId} {s s' : ScalerStore}

@[simp] theorem setWorkers_workers (list : List WorkerId) :
    (s.setWorkers other list).workers queueName = if queueName = other then some list else s.workers queueName := rfl

theorem count_setWorkers_self (list : List WorkerId) : (s.setWorkers queueName list).count queueName = list.length := by
  simp [ScalerStore.count]

theorem count_setWorkers_other (apart : queueName ≠ other) (list : List WorkerId) :
    (s.setWorkers other list).count queueName = s.count queueName := by
  simp [ScalerStore.count, apart]

theorem count_spawned (known : s.processors queueName = true) :
    (s.spawned queueName).count queueName = s.count queueName + 1 := by
  rw [ScalerStore.spawned, if_pos known, count_setWorkers_self, List.length_append]
  rfl

theorem processors_spawned (queueName : String) : (s.spawned other).processors queueName = s.processors queueName := by
  unfold ScalerStore.spawned
  split <;> rfl

theorem count_spawned_other (apart : queueName ≠ other) : (s.spawned other).count queueName = s.count queueName := by
  unfold ScalerStore.spawned
  split
  · exact count_setWorkers_other apart _
  · rfl

theorem ScalerStore.RegisteredFirst.spawned (registered : s.RegisteredFirst queueName base) (other : String) :
    (s.spawned other).RegisteredFirst queueName base := by
  unfold ScalerStore.spawned
  split
  · refine ⟨?_, fun q i at_i => ?_, ?_, registered.running⟩
    · simp only [setWorkers_workers]
      split
      · rename_i same
        rw [← same, Option.getD_some, List.head?_append, registered.first, Option.some_or]
      · exact registered.first
    · simp only [setWorkers_workers] at at_i
      split at at_i
      · rename_i same
        rw [Option.getD_some, List.getElem?_append] at at_i
        split at at_i
        · exact same ▸ registered.once other i at_i
        · have new : base = s.nextWorker := by
            have member := List.mem_of_getElem? at_i
            exact List.mem_singleton.mp member
          exact absurd new (Nat.ne_of_lt registered.created)
      · exact registered.once q i at_i
    · exact Nat.lt_succ_of_lt registered.created
  · exact registered

/-- The worker taken off a list is not the base worker, if one is left on its own queue. -/
theorem ScalerStore.RegisteredFirst.terminated (registered : s.RegisteredFirst queueName base)
    (list : (s.workers other).getD [] = rest ++ [worker]) (left : rest ≠ []) :
    (s.terminated other rest worker).RegisteredFirst queueName base := by
  have positive := List.length_pos_iff.mpr left
  refine ⟨?_, fun q i at_i => ?_, registered.created, ?_⟩
  · simp only [ScalerStore.terminated, setWorkers_workers]
    split
    · rename_i same
      have first := registered.first
      rw [same, list, List.head?_append] at first
      cases rest with
      | nil => exact absurd rfl left
      | cons head tail => exact first
    · exact registered.first
  · simp only [ScalerStore.terminated, setWorkers_workers] at at_i
    split at at_i
    · rename_i same
      have bound : i < rest.length := (List.getElem?_eq_some_iff.mp at_i).1
      apply registered.once q i
      rw [same, list, List.getElem?_append_left bound]
      exact at_i
    · exact registered.once q i at_i
  · intro member
    rcases List.mem_append.mp member with before | last
    · exact registered.running before
    · have last := List.mem_singleton.mp last
      have at_end : ((s.workers other).getD [])[rest.length]? = some base := by
        rw [list, last, List.getElem?_concat_length]
      have position := (registered.once other rest.length at_end).2
      omega

theorem overloaded_lt {counts : JobCounts} {workers : Nat} (busy : overloaded counts workers = true) :
    workers < MAX_WORKERS := by
  unfold overloaded at busy
  simp only [Bool.and_eq_true, decide_eq_true_eq] at busy
  exact busy.2

variable {stage stage' : ScalerStage} {turn : ScalerTurn}

/-- The step lemma: a segment keeps the base worker and the bounds, and moves a count by one at most. -/
theorem ScalerMove.bounded (moved : ScalerMove stage s turn s' stage') (registered : s.RegisteredFirst queueName base)
    (high : s.count queueName ≤ MAX_WORKERS) :
    s'.RegisteredFirst queueName base ∧ s'.count queueName ≤ MAX_WORKERS ∧
      WithinOne (s.count queueName) (s'.count queueName) := by
  cases moved with
  | rests | samples | keeps | closes | fails | settles | stamps =>
    exact ⟨⟨registered.first, registered.once, registered.created, registered.running⟩, high, .inl rfl⟩
  | @spawns _ _ other counts sampled cooled needed =>
    refine ⟨registered.spawned other, ?_⟩
    have room := overloaded_lt needed
    unfold WithinOne
    by_cases own : queueName = other
    · subst own
      cases known : s.processors queueName with
      | true =>
        have grown := count_spawned known
        omega
      | false =>
        have same : s.spawned queueName = s := by simp [ScalerStore.spawned, known]
        rw [same]
        exact ⟨high, .inl rfl⟩
    · rw [count_spawned_other own]
      exact ⟨high, .inl rfl⟩
  | @terminates _ _ other counts rest worker sampled cooled needed list =>
    have many := (idle_iff.mp needed).2.2
    have whole : s.count other = rest.length + 1 := by
      rw [ScalerStore.count, list, List.length_append]
      rfl
    have left : rest ≠ [] := by
      rintro rfl
      rw [whole] at many
      exact absurd many (by decide)
    refine ⟨registered.terminated list left, ?_⟩
    unfold WithinOne
    by_cases own : queueName = other
    · subst own
      have shrunk : (s.terminated queueName rest worker).count queueName = rest.length := count_setWorkers_self rest
      omega
    · have same : (s.terminated other rest worker).count queueName = s.count queueName := count_setWorkers_other own rest
      rw [same]
      exact ⟨high, .inl rfl⟩

end Moves

section Runs

variable {queues : List String} {queueName : String} {base : WorkerId}
  {start pool pool' : Pool scalerSignature Err ScalerStore} {stages stages' : List ScalerStage} {turn : Turn}
  {e : ScalerTurn} {s : ScalerStore} {visited : List (Pool scalerSignature Err ScalerStore × (Turn × ScalerTurn))}

/-- Every turn is a move of some thread. -/
theorem took_move (took : Took scalerDiscipline .apart pool pool' e s stages turn stages') :
    ∃ stage stage', ScalerMove stage s e pool'.state stage' := by
  cases took with
  | start moved => exact ⟨_, _, moved⟩
  | resume waiting at_i fits moved => exact ⟨_, _, moved⟩

/-- A step of the autoscaler is one turn. -/
theorem autoscaler_step (waits : List.Forall₂ (scalerLoop.Waits scalerDiscipline) stages pool.threads)
    (step : (autoscaler queues).step pool (turn, e) = some pool') :
    ∃ stages', Took scalerDiscipline .apart pool pool' e pool.state stages turn stages' ∧
      List.Forall₂ (scalerLoop.Waits scalerDiscipline) stages' pool'.threads := by
  obtain ⟨s, stages', arrived, took, waits'⟩ := step_took (proceeds_tick queues) waits step
  obtain rfl : pool.state = s := Option.some.inj arrived
  exact ⟨stages', took, waits'⟩

/-- What every state of a run meets. -/
def Pool.Within (queueName : String) (base : WorkerId) (pool : Pool scalerSignature Err ScalerStore) : Prop :=
  pool.state.RegisteredFirst queueName base ∧ pool.state.count queueName ≤ MAX_WORKERS ∧
    ∃ stages, List.Forall₂ (scalerLoop.Waits scalerDiscipline) stages pool.threads

theorem Pool.Within.step (within : Pool.Within queueName base pool)
    (step : (autoscaler queues).step pool (turn, e) = some pool') :
    Pool.Within queueName base pool' ∧ WithinOne (pool.state.count queueName) (pool'.state.count queueName) := by
  obtain ⟨registered, high, stages, waits⟩ := within
  obtain ⟨stages', took, waits'⟩ := autoscaler_step waits step
  obtain ⟨stage, stage', moved⟩ := took_move took
  obtain ⟨registered', high', one⟩ := moved.bounded registered high
  exact ⟨⟨registered', high', stages', waits'⟩, one⟩

theorem Pool.Within.bounded (within : Pool.Within queueName base pool) : pool.state.Bounded queueName base := by
  obtain ⟨registered, high, _⟩ := within
  refine ⟨registered.first, ?_, high, registered.running⟩
  cases list : (pool.state.workers queueName).getD [] with
  | nil =>
    have first := registered.first
    rw [list] at first
    cases first
  | cons head tail =>
    rw [ScalerStore.count, list, List.length_cons]
    exact Nat.le_add_left 1 _

/-- However ticks overlap, the count stays within its bounds, moves by one, and the base worker stays. -/
theorem autoscaler_bounds (queueName : String) (base : WorkerId)
    (registered : start.state.RegisteredFirst queueName base)
    (within : MIN_WORKERS ≤ start.state.count queueName ∧ start.state.count queueName ≤ MAX_WORKERS)
    (booted : start.threads = []) (run : (autoscaler queues).Run start visited pool) :
    pool.state.Bounded queueName base ∧ ∀ v ∈ visited, v.1.state.Bounded queueName base ∧
      ∀ next, (autoscaler queues).step v.1 v.2 = some next →
        WithinOne (v.1.state.count queueName) (next.state.count queueName) := by
  have initial : Pool.Within queueName base start := by
    refine ⟨registered, within.2, [], ?_⟩
    rw [booted]
    exact .nil
  have all : (∀ v ∈ visited, Pool.Within queueName base v.1) ∧ Pool.Within queueName base pool := by
    have unguarded : Machine.Guarded (fun _ _ => True) visited := fun _ _ => trivial
    apply run.throughout (Pool.Within queueName base) unguarded initial
    intro pool event pool' held _ step
    exact (held.step step).1
  refine ⟨all.2.bounded, fun v member => ?_⟩
  have held := all.1 v member
  exact ⟨held.bounded, fun next step => (held.step step).2⟩

/-- A queue of three workers, of which the first is the base worker. -/
def threeWorkers : Pool scalerSignature Err ScalerStore where
  state :=
    { workers := fun queueName => if queueName = "media" then some [0, 1, 2] else none
      lastScaleAt := fun _ => none
      processors := fun _ => true
      nextWorker := 3
      closing := [] }
  threads := []

/-- A sample of an empty queue, or a close that ends. -/
def quietTurn (now : Nat) : ScalerTurn := { now := now, counts := .ok ⟨0, 0, 0, 0⟩, closed := .ok () }

theorem threeWorkers_registered : threeWorkers.state.RegisteredFirst "media" 0 := by
  refine ⟨rfl, fun other i at_i => ?_, by decide, by decide⟩
  simp only [threeWorkers] at at_i
  split at at_i
  · rename_i same
    rcases i with _ | _ | _ | i
    · exact ⟨same, rfl⟩
    all_goals simp at at_i
  · simp at at_i

/-- Two ticks that each take a worker off while the other one waits. -/
def overlappingTicks : List (Turn × ScalerTurn) :=
  [(.start, quietTurn 10000), (.resume 0, quietTurn 14900), (.start, quietTurn 15000), (.resume 1, quietTurn 15001)]

theorem autoscaler_bounds_overlapping :
    ∃ pool, (autoscaler ["media"]).exec threeWorkers overlappingTicks = some pool ∧ pool.state.Bounded "media" 0 ∧
      ∀ v ∈ (autoscaler ["media"]).trace threeWorkers overlappingTicks, v.1.state.Bounded "media" 0 ∧
        ∀ next, (autoscaler ["media"]).step v.1 v.2 = some next →
          WithinOne (v.1.state.count "media") (next.state.count "media") := by
  have ends : ((autoscaler ["media"]).exec threeWorkers overlappingTicks).isSome = true := by decide +kernel
  obtain ⟨pool, ran⟩ := Option.isSome_iff_exists.mp ends
  exact ⟨pool, ran, autoscaler_bounds "media" 0 threeWorkers_registered (by decide) rfl (Machine.run_of_exec ran)⟩

end Runs
end OrchestrateModel
