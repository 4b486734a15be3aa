import Orchestrate.Scaling.Bounds

namespace OrchestrateModel

open Effect Cooperation AutoscalerService

/-- The clock reading that an action under way on the queue will be stamped with. -/
def ScalerStage.pending (queueName : String) : ScalerStage → Option Nat
  | .closing other time | .stamping other time => if other = queueName then some time else none
  | .apart | .sampling _ => none

/-- A thread's scaling action on the queue is under way. -/
def PendingAt (queueName : String) (stages : List ScalerStage) (i time : Nat) : Prop :=
  ∃ stage, stages[i]? = some stage ∧ stage.pending queueName = some time

section Pending

variable {queueName : String} {stages : List ScalerStage} {i j time : Nat} {old new : ScalerStage}

theorem pendingAt_set (at_i : stages[i]? = some old) :
    PendingAt queueName (stages.set i new) j time ↔
      (j = i ∧ new.pending queueName = some time) ∨ (j ≠ i ∧ PendingAt queueName stages j time) := by
  have bound := (List.getElem?_eq_some_iff.mp at_i).1
  unfold PendingAt
  by_cases same : j = i
  · subst same
    simp [bound]
  · have other : i ≠ j := fun eq => same eq.symm
    simp [other, same]

theorem pendingAt_append (none : new.pending queueName = none) :
    PendingAt queueName (stages ++ [new]) j time ↔ PendingAt queueName stages j time := by
  unfold PendingAt
  rw [List.getElem?_append]
  by_cases inside : j < stages.length
  · rw [if_pos inside]
  · rw [if_neg inside]
    constructor
    · rintro ⟨stage, at_j, pends⟩
      obtain rfl := List.mem_singleton.mp (List.mem_of_getElem? at_j)
      rw [none] at pends
      cases pends
    · rintro ⟨stage, at_j, _⟩
      exact absurd (List.getElem?_eq_some_iff.mp at_j).1 inside

theorem pendingAt_same (at_i : stages[i]? = some old) (same : new.pending queueName = old.pending queueName) :
    PendingAt queueName (stages.set i new) j time ↔ PendingAt queueName stages j time := by
  rw [pendingAt_set at_i, same]
  constructor
  · rintro (⟨rfl, pends⟩ | ⟨_, pends⟩)
    · exact ⟨old, at_i, pends⟩
    · exact pends
  · intro pends
    by_cases here : j = i
    · subst here
      obtain ⟨stage, at_j, pends⟩ := pends
      obtain rfl := Option.some.inj (at_j.symm.trans at_i)
      exact .inl ⟨rfl, pends⟩
    · exact .inr ⟨here, pends⟩

end Pending

/-- The calls awaited while a scaling action of the queue is under way. -/
def ScalerCall.ofAction (queueName : String) : ScalerCall → Bool
  | .closed other _ => other = queueName
  | .settle function other => function ≠ .evaluateQueue && other = queueName
  | _ => false

theorem ScalerStage.ofAction {queueName : String} {stage : ScalerStage} {time : Nat} {call : ScalerCall}
    (pends : stage.pending queueName = some time) (awaits : stage.awaits call) : call.ofAction queueName = true := by
  cases stage with
  | apart => cases pends
  | sampling _ => cases pends
  | closing other _ =>
    obtain ⟨worker, rfl⟩ := awaits
    simp only [ScalerStage.pending] at pends
    split at pends
    · simpa [ScalerCall.ofAction]
    · cases pends
  | stamping other _ =>
    obtain ⟨function, rfl, apart⟩ := awaits
    simp only [ScalerStage.pending] at pends
    split at pends
    · simp_all [ScalerCall.ofAction]
    · cases pends

/-- An evaluation that gets the sample decides to scale. -/
def ScalerStore.decides (queueName : String) (s : ScalerStore) (turn : ScalerTurn) : Bool :=
  match turn.counts with
  | .ok counts =>
    decide (s.cooledDown queueName turn.now) &&
      (overloaded counts (s.count queueName) || idle counts (s.count queueName))
  | .error _ => false

/-- No evaluation of the queue decides to scale while an action of an earlier one is under way, and no close of its
    workers fails. -/
def actsAlone (queueName : String) (pool : Pool scalerSignature Err ScalerStore) (event : Turn × ScalerTurn) : Bool :=
  match event.1 with
  | .start => true
  | .resume i =>
    match pool.threads[i]?.bind Program.awaits with
    | some (.getJobCounts other) =>
      !(other = queueName && pool.state.decides queueName event.2) ||
        pool.threads.all fun thread => thread.awaits.all fun call => !ScalerCall.ofAction queueName call
    | some (.closed other _) => other ≠ queueName || event.2.closed.isOk
    | _ => true

/-- The last stamp, or 0. -/
def ScalerStore.lastScale (queueName : String) (s : ScalerStore) : Nat := (s.lastScaleAt queueName).getD 0

/-- What a turn does to the cooldown of a queue. -/
inductive CooldownStep (queueName : String) (now : Nat) (stages stages' : List ScalerStage) (s s' : ScalerStore) : Prop
  | same (pending : ∀ j time, PendingAt queueName stages' j time ↔ PendingAt queueName stages j time)
      (stamp : s'.lastScale queueName = s.lastScale queueName) (count : s'.count queueName = s.count queueName)
  | decides (i : Nat) (none : ∀ j time, ¬ PendingAt queueName stages j time)
      (cooled : s.lastScale queueName + MIN_COOLDOWN_MS ≤ now)
      (pending : ∀ j time, PendingAt queueName stages' j time ↔ j = i ∧ time = now)
      (stamp : s'.lastScale queueName = s.lastScale queueName)
  | stamps (i : Nat) (time : Nat) (pends : PendingAt queueName stages i time)
      (pending : ∀ j time, PendingAt queueName stages' j time ↔ j ≠ i ∧ PendingAt queueName stages j time)
      (stamp : s'.lastScale queueName = time) (count : s'.count queueName = s.count queueName)

section Steps

variable {queues : List String} {queueName other : String} {pool pool' : Pool scalerSignature Err ScalerStore}
  {stages stages' : List ScalerStage} {s s' : ScalerStore} {e : ScalerTurn} {i now : Nat} {old new : ScalerStage}

theorem cooledDown_le (cooled : s.cooledDown queueName now) : s.lastScale queueName + MIN_COOLDOWN_MS ≤ now := by
  have positive : 0 < MIN_COOLDOWN_MS := by decide
  unfold ScalerStore.cooledDown at cooled
  unfold ScalerStore.lastScale
  omega

theorem lastScale_spawned : (s.spawned other).lastScale queueName = s.lastScale queueName := by
  unfold ScalerStore.spawned
  split <;> rfl

theorem lastScale_setLastScaleAt (time : Nat) :
    (s.setLastScaleAt other time).lastScale queueName = if queueName = other then time else s.lastScale queueName := by
  simp only [ScalerStore.lastScale, ScalerStore.setLastScaleAt]
  split <;> rfl

/-- No thread of a pool awaits a call of an action, so none is at a stage of one. -/
theorem not_pendingAt (waits : List.Forall₂ (scalerLoop.Waits scalerDiscipline) stages pool.threads)
    (alone : pool.threads.all fun thread => thread.awaits.all fun call => !ScalerCall.ofAction queueName call)
    (j time : Nat) : ¬ PendingAt queueName stages j time := by
  rintro ⟨stage, at_j, pends⟩
  obtain ⟨thread, member, ready⟩ := waits_stage waits at_j
  have open_ (outcome : Outcome Err Unit) : ¬ scalerDiscipline.ended stage outcome := by
    rintro rfl
    cases pends
  obtain ⟨call, awaits, fits⟩ := ready.awaits open_
  have quiet := List.all_eq_true.mp alone thread member
  have acts := ScalerStage.ofAction pends fits
  rw [awaits] at quiet
  have rests : (!ScalerCall.ofAction queueName call) = true := quiet
  rw [acts] at rests
  cases rests

/-- A turn that decides to scale leaves its own action under way. -/
theorem CooldownStep.of_decision (at_i : stages[i]? = some old) (none : ∀ j time, ¬ PendingAt queueName stages j time)
    (cooled : s.cooledDown queueName now) (pends : new.pending queueName = some now)
    (stamp : s'.lastScale queueName = s.lastScale queueName) :
    CooldownStep queueName now stages (stages.set i new) s s' := by
  refine .decides i none (cooledDown_le cooled) (fun j time => ?_) stamp
  rw [pendingAt_set at_i, pends]
  constructor
  · rintro (⟨here, same⟩ | ⟨_, earlier⟩)
    · exact ⟨here, (Option.some.inj same).symm⟩
    · exact absurd earlier (none j time)
  · rintro ⟨here, rfl⟩
    exact .inl ⟨here, rfl⟩

/-- A turn that neither begins nor ends an action leaves the cooldown as it is. -/
theorem CooldownStep.of_same (at_i : stages[i]? = some old) (same : new.pending queueName = old.pending queueName)
    (stamp : s'.lastScale queueName = s.lastScale queueName) (count : s'.count queueName = s.count queueName) :
    CooldownStep queueName now stages (stages.set i new) s s' :=
  .same (fun _ _ => pendingAt_same at_i same) stamp count

theorem CooldownStep.of_stamp {time : Nat} (at_i : stages[i]? = some (.stamping other time)) :
    CooldownStep queueName now stages (stages.set i .apart) s (s.setLastScaleAt other time) := by
  by_cases own : other = queueName
  · subst own
    have pends : ScalerStage.pending other (.stamping other time) = some time := if_pos rfl
    refine .stamps i time ⟨_, at_i, pends⟩ (fun j later => ?_) ?_ rfl
    · rw [pendingAt_set at_i]
      simp [ScalerStage.pending]
    · rw [lastScale_setLastScaleAt, if_pos rfl]
  · have none : ScalerStage.pending queueName (.stamping other time) = none := if_neg own
    refine .of_same at_i none.symm ?_ rfl
    rw [lastScale_setLastScaleAt, if_neg fun same => own same.symm]

theorem actsAlone_sampling {next : Except Err JobCounts → ScalerProgram Unit}
    (alone : actsAlone queueName pool (.resume i, e) = true)
    (waiting : pool.threads[i]? = some (.call (.getJobCounts queueName) next))
    (decides : pool.state.decides queueName e = true) :
    pool.threads.all fun thread => thread.awaits.all fun call => !ScalerCall.ofAction queueName call := by
  simpa [actsAlone, waiting, Program.awaits, decides] using alone

theorem actsAlone_closing {worker : WorkerId} {next : Except Err Unit → ScalerProgram Unit}
    (alone : actsAlone queueName pool (.resume i, e) = true)
    (waiting : pool.threads[i]? = some (.call (.closed queueName worker) next)) : e.closed = .ok () := by
  have ended : e.closed.isOk = true := by simpa [actsAlone, waiting, Program.awaits] using alone
  cases closed : e.closed with
  | ok _ => rfl
  | error error =>
    rw [closed] at ended
    cases ended

theorem decides_of_need {counts : JobCounts} (sampled : e.counts = .ok counts) (cooled : s.cooledDown queueName e.now)
    (need : (overloaded counts (s.count queueName) || idle counts (s.count queueName)) = true) :
    s.decides queueName e = true := by
  rw [ScalerStore.decides, sampled]
  simp [cooled, need]

/-- The step lemma: what a turn that acts alone does to the cooldown. -/
theorem cooldown_step (waits : List.Forall₂ (scalerLoop.Waits scalerDiscipline) stages pool.threads)
    {turn : Turn} (step : (autoscaler queues).step pool (turn, e) = some pool')
    (alone : actsAlone queueName pool (turn, e) = true) :
    ∃ stages', List.Forall₂ (scalerLoop.Waits scalerDiscipline) stages' pool'.threads ∧
      CooldownStep queueName e.now stages stages' pool.state pool'.state := by
  obtain ⟨stages', took, waits'⟩ := autoscaler_step waits step
  refine ⟨stages', waits', ?_⟩
  cases took with
  | @start stage moved =>
    have none : stage.pending queueName = none ∧ pool'.state = pool.state := by
      have moved : ScalerMove .apart pool.state e pool'.state stage := moved
      generalize pool'.state = s' at moved
      cases moved with
      | rests | samples => exact ⟨rfl, rfl⟩
    refine .same (fun j time => pendingAt_append none.1) ?_ ?_
    · rw [none.2]
    · rw [none.2]
  | @resume i old new c next waiting at_i fits moved =>
    have moved : ScalerMove old pool.state e pool'.state new := moved
    generalize pool'.state = s' at moved ⊢
    cases moved with
    | rests | samples | keeps | closes | settles => exact .of_same at_i rfl rfl rfl
    | stamps => exact .of_stamp at_i
    | @fails _ _ other _ failed =>
      obtain ⟨worker, rfl⟩ := fits
      have foreign : other ≠ queueName := by
        rintro rfl
        exact failed (actsAlone_closing alone waiting)
      exact .of_same at_i (if_neg foreign).symm rfl rfl
    | @spawns _ _ other counts sampled cooled needed =>
      obtain rfl : c = .getJobCounts other := fits
      by_cases own : other = queueName
      · subst own
        have quiet := actsAlone_sampling alone waiting (decides_of_need sampled cooled (by
          rw [Bool.or_eq_true]
          exact .inl needed))
        exact .of_decision at_i (not_pendingAt waits quiet) cooled (if_pos rfl) lastScale_spawned
      · exact .of_same at_i (if_neg own) lastScale_spawned (count_spawned_other fun same => own same.symm)
    | @terminates _ _ other counts rest worker sampled cooled needed list =>
      obtain rfl : c = .getJobCounts other := fits
      by_cases own : other = queueName
      · subst own
        have quiet := actsAlone_sampling alone waiting (decides_of_need sampled cooled (by
          rw [Bool.or_eq_true]
          exact .inr needed))
        exact .of_decision at_i (not_pendingAt waits quiet) cooled (if_pos rfl) rfl
      · exact .of_same at_i (if_neg own) rfl (count_setWorkers_other (fun same => own same.symm) rest)

end Steps

/-- The event of a turn that spawned or terminated a worker of the queue. -/
def scaled (queues : List String) (queueName : String)
    (v : Pool scalerSignature Err ScalerStore × (Turn × ScalerTurn)) : Bool :=
  ((autoscaler queues).step v.1 v.2).any fun next => next.state.count queueName ≠ v.1.state.count queueName

/-- Scaling events are apart by the cooldown. -/
def Spaced (queues : List String) (queueName : String)
    (visited : List (Pool scalerSignature Err ScalerStore × (Turn × ScalerTurn))) : Prop :=
  (visited.filter (scaled queues queueName)).Pairwise fun v w => w.2.2.now - v.2.2.now ≥ MIN_COOLDOWN_MS

/-- No turn puts the stamp back. -/
def StampAdvances (queues : List String) (queueName : String)
    (visited : List (Pool scalerSignature Err ScalerStore × (Turn × ScalerTurn))) : Prop :=
  ∀ v ∈ visited, ∀ next, (autoscaler queues).step v.1 v.2 = some next →
    v.1.state.lastScale queueName ≤ next.state.lastScale queueName

/-- The invariant: at most one action is under way, it began after the cooldown, and its stamp or the last one is not
    before any event. -/
structure Cooling (queues : List String) (queueName : String) (stages : List ScalerStage) (s : ScalerStore)
    (visited : List (Pool scalerSignature Err ScalerStore × (Turn × ScalerTurn))) : Prop where
  one : ∀ i j t u, PendingAt queueName stages i t → PendingAt queueName stages j u → i = j ∧ t = u
  ahead : ∀ i t, PendingAt queueName stages i t → s.lastScale queueName + MIN_COOLDOWN_MS ≤ t
  covered : ∀ v ∈ visited, scaled queues queueName v = true →
    v.2.2.now ≤ s.lastScale queueName ∨ ∃ i t, PendingAt queueName stages i t ∧ v.2.2.now ≤ t
  spaced : Spaced queues queueName visited

section Runs

variable {queues : List String} {queueName : String} {start pool pool' : Pool scalerSignature Err ScalerStore}
  {stages stages' : List ScalerStage} {s s' : ScalerStore} {event : Turn × ScalerTurn} {now : Nat}
  {visited : List (Pool scalerSignature Err ScalerStore × (Turn × ScalerTurn))}

theorem scaled_iff (step : (autoscaler queues).step pool event = some pool') :
    scaled queues queueName (pool, event) = true ↔ pool'.state.count queueName ≠ pool.state.count queueName := by
  simp [scaled, step]

theorem spaced_snoc {v : Pool scalerSignature Err ScalerStore × (Turn × ScalerTurn)}
    (spaced : Spaced queues queueName visited)
    (after : scaled queues queueName v = true → ∀ w ∈ visited, scaled queues queueName w = true →
      v.2.2.now - w.2.2.now ≥ MIN_COOLDOWN_MS) : Spaced queues queueName (visited ++ [v]) := by
  unfold Spaced at spaced ⊢
  rw [List.filter_append, List.pairwise_append]
  refine ⟨spaced, ?_, fun w member u last => ?_⟩
  · by_cases scales : scaled queues queueName v = true
    · simp [scales]
    · simp [scales]
  · obtain ⟨last, scales⟩ := List.mem_filter.mp last
    obtain rfl := List.mem_singleton.mp last
    obtain ⟨member, before⟩ := List.mem_filter.mp member
    exact after scales w member before

/-- The step lemma of the invariant. -/
theorem Cooling.step (cooling : Cooling queues queueName stages pool.state visited)
    (step : (autoscaler queues).step pool event = some pool')
    (took : CooldownStep queueName event.2.now stages stages' pool.state pool'.state) :
    Cooling queues queueName stages' pool'.state (visited ++ [(pool, event)]) ∧
      pool.state.lastScale queueName ≤ pool'.state.lastScale queueName := by
  cases took with
  | same pending stamp count =>
    have quiet : ¬ scaled queues queueName (pool, event) = true := by
      rw [scaled_iff step]
      exact not_not_intro count
    refine ⟨⟨?_, ?_, ?_, ?_⟩, Nat.le_of_eq stamp.symm⟩
    · intro i j t u first second
      exact cooling.one i j t u ((pending i t).mp first) ((pending j u).mp second)
    · intro i t pends
      rw [stamp]
      exact cooling.ahead i t ((pending i t).mp pends)
    · intro v member scales
      rcases List.mem_append.mp member with before | last
      · rw [stamp]
        simp only [pending]
        exact cooling.covered v before scales
      · obtain rfl := List.mem_singleton.mp last
        exact absurd scales quiet
    · exact spaced_snoc cooling.spaced fun scales => absurd scales quiet
  | decides i none cooled pending stamp =>
    have past (v : Pool scalerSignature Err ScalerStore × (Turn × ScalerTurn)) (member : v ∈ visited)
        (scales : scaled queues queueName v = true) : v.2.2.now ≤ pool.state.lastScale queueName := by
      rcases cooling.covered v member scales with stamped | ⟨j, t, pends, _⟩
      · exact stamped
      · exact absurd pends (none j t)
    refine ⟨⟨?_, ?_, ?_, ?_⟩, Nat.le_of_eq stamp.symm⟩
    · intro j k t u first second
      obtain ⟨rfl, rfl⟩ := (pending j t).mp first
      obtain ⟨rfl, rfl⟩ := (pending k u).mp second
      exact ⟨rfl, rfl⟩
    · intro j t pends
      obtain ⟨rfl, rfl⟩ := (pending j t).mp pends
      rw [stamp]
      exact cooled
    · intro v member scales
      right
      refine ⟨i, event.2.now, (pending i event.2.now).mpr ⟨rfl, rfl⟩, ?_⟩
      rcases List.mem_append.mp member with before | last
      · exact Nat.le_trans (past v before scales) (Nat.le_trans (Nat.le_add_right _ _) cooled)
      · obtain rfl := List.mem_singleton.mp last
        exact Nat.le_refl _
    · apply spaced_snoc cooling.spaced
      intro _ w member scales
      have before := past w member scales
      show event.2.now - w.2.2.now ≥ MIN_COOLDOWN_MS
      omega
  | stamps i time pends pending stamp count =>
    have quiet : ¬ scaled queues queueName (pool, event) = true := by
      rw [scaled_iff step]
      exact not_not_intro count
    have later := cooling.ahead i time pends
    have none (j t : Nat) : ¬ PendingAt queueName stages' j t := by
      intro other
      obtain ⟨apart, earlier⟩ := (pending j t).mp other
      exact apart (cooling.one j i t time earlier pends).1
    refine ⟨⟨?_, ?_, ?_, ?_⟩, ?_⟩
    · intro j k t u first
      exact absurd first (none j t)
    · intro j t first
      exact absurd first (none j t)
    · intro v member scales
      left
      rw [stamp]
      rcases List.mem_append.mp member with before | last
      · rcases cooling.covered v before scales with stamped | ⟨j, t, under, reading⟩
        · omega
        · rw [(cooling.one j i t time under pends).2] at reading
          exact reading
      · obtain rfl := List.mem_singleton.mp last
        exact absurd scales quiet
    · exact spaced_snoc cooling.spaced fun scales => absurd scales quiet
    · rw [stamp]
      omega

/-- Where each turn acts alone, the cooldown is kept along the whole run. -/
theorem cooldown_of_alone (queueName : String) (booted : start.threads = [])
    (run : (autoscaler queues).Run start visited pool)
    (alone : Machine.Guarded (fun pool event => actsAlone queueName pool event = true) visited) :
    Spaced queues queueName visited ∧ StampAdvances queues queueName visited := by
  have all : ∃ stages, List.Forall₂ (scalerLoop.Waits scalerDiscipline) stages pool.threads ∧
      Cooling queues queueName stages pool.state visited ∧ StampAdvances queues queueName visited := by
    induction run with
    | nil =>
      rw [booted]
      refine ⟨[], .nil, ⟨?_, ?_, by simp, .nil⟩, by simp [StampAdvances]⟩
      · rintro i j t u ⟨stage, at_i, _⟩
        simp at at_i
      · rintro i t ⟨stage, at_i, _⟩
        simp at at_i
    | @snoc visited pool pool' event before step ih =>
      obtain ⟨earlier, last⟩ := Machine.guarded_snoc.mp alone
      obtain ⟨stages, waits, cooling, advances⟩ := ih earlier
      obtain ⟨stages', waits', took⟩ := cooldown_step waits step last
      obtain ⟨cooling', advance⟩ := cooling.step step took
      refine ⟨stages', waits', cooling', fun v member next stepped => ?_⟩
      rcases List.mem_append.mp member with old | new
      · exact advances v old next stepped
      · obtain rfl := List.mem_singleton.mp new
        obtain rfl := Option.some.inj (step.symm.trans stepped)
        exact advance
  obtain ⟨_, _, cooling, advances⟩ := all
  exact ⟨cooling.spaced, advances⟩

/-- One tick after the other, the second one after the cooldown. -/
def serialTicks : List (Turn × ScalerTurn) :=
  (.start, quietTurn 5000) :: List.replicate 5 (.resume 0, quietTurn 5100) ++
    (.start, quietTurn 10000) :: List.replicate 5 (.resume 1, quietTurn 10100)

theorem cooldown_of_alone_serial :
    ∃ pool, (autoscaler ["media"]).exec threeWorkers serialTicks = some pool ∧ pool.state.count "media" = 1 ∧
      Spaced ["media"] "media" ((autoscaler ["media"]).trace threeWorkers serialTicks) ∧
      StampAdvances ["media"] "media" ((autoscaler ["media"]).trace threeWorkers serialTicks) := by
  have ends : ((autoscaler ["media"]).exec threeWorkers serialTicks).map (fun pool => pool.state.count "media") =
      some 1 := by decide +kernel
  obtain ⟨pool, ran, count⟩ := Option.map_eq_some_iff.mp ends
  exact ⟨pool, ran, count, cooldown_of_alone "media" rfl (Machine.run_of_exec ran) (by
    unfold Machine.Guarded
    decide +kernel)⟩

/-- Both ticks sample while no stamp has been written, and the later stamp is written first. -/
def racingTicks : List (Turn × ScalerTurn) :=
  overlappingTicks ++ List.replicate 3 (.resume 1, quietTurn 15100) ++ List.replicate 3 (.resume 0, quietTurn 15200)

theorem cooldown_racing :
    ∃ pool visited, (autoscaler ["media"]).Run threeWorkers visited pool ∧ threeWorkers.threads = [] ∧
      ¬ Spaced ["media"] "media" visited ∧ ¬ StampAdvances ["media"] "media" visited := by
  have ends : ((autoscaler ["media"]).exec threeWorkers racingTicks).isSome = true := by decide +kernel
  obtain ⟨pool, ran⟩ := Option.isSome_iff_exists.mp ends
  refine ⟨pool, _, Machine.run_of_exec ran, rfl, ?_, ?_⟩
  · unfold Spaced
    decide +kernel
  · intro advances
    have back : ∃ v ∈ (autoscaler ["media"]).trace threeWorkers racingTicks,
        ((autoscaler ["media"]).step v.1 v.2).any (fun next =>
          next.state.lastScale "media" < v.1.state.lastScale "media") = true := by decide +kernel
    obtain ⟨v, member, back⟩ := back
    obtain ⟨next, step, before⟩ := (Option.any_eq_true _ _).mp back
    exact absurd (advances v member next step) (Nat.not_le.mpr (of_decide_eq_true before))

end Runs
end OrchestrateModel
