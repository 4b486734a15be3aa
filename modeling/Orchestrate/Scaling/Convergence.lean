import Mathlib.Algebra.Order.Field.Basic
import Mathlib.Order.Monotone.Basic
import Orchestrate.Scaling.Cooldown

namespace OrchestrateModel

open Effect AutoscalerService

/-- The states after evaluations of a queue one at a time. -/
def evaluations (queueName : String) (turns : Nat → ScalerTurn) (s : ScalerStore) : Nat → ScalerStore
  | 0 => s
  | n + 1 => (Program.run (ScalerStore.answer (turns n)) (evaluateQueue queueName) (evaluations queueName turns s n)).2

/-- The worker counts of these states. -/
def workerCounts (queueName : String) (turns : Nat → ScalerTurn) (s : ScalerStore) (n : Nat) : Nat :=
  (evaluations queueName turns s n).count queueName

/-- The count after an evaluation that has cooled down. -/
def nextCount (active backlog workers : Nat) : Nat :=
  if 0 < backlog ∧ workers ≤ active ∧ workers < MAX_WORKERS then workers + 1
  else if backlog = 0 ∧ active = 0 ∧ MIN_WORKERS < workers then workers - 1
  else workers

/-- The count that a constant load leads to. -/
def settledCount (active backlog workers : Nat) : Nat :=
  if 0 < backlog then max workers (min MAX_WORKERS (active + 1))
  else if active = 0 then MIN_WORKERS
  else workers

section Evaluation

variable {queueName : String} {s : ScalerStore} {turn : ScalerTurn} {counts : JobCounts}

theorem overloaded_iff {workers : Nat} (positive : 0 < workers) :
    overloaded counts workers = true ↔ 0 < backlog counts ∧ workers ≤ counts.active ∧ workers < MAX_WORKERS := by
  have ratio : utilization counts.active workers ≥ 1 ↔ workers ≤ counts.active := by
    have cast : (0 : Rat) < workers := Nat.cast_pos.mpr positive
    rw [utilization, if_pos positive, ge_iff_le, one_le_div cast, Nat.cast_le]
  unfold overloaded
  simp only [Bool.and_eq_true, decide_eq_true_eq, ratio, gt_iff_lt]
  constructor
  · rintro ⟨⟨busy, waiting⟩, room⟩
    exact ⟨waiting, busy, room⟩
  · rintro ⟨waiting, busy, room⟩
    exact ⟨⟨busy, waiting⟩, room⟩

/-- With no turn of others the `await` of a function is its call. -/
theorem run_awaiting (function : ScalerFunction) (program : ScalerProgram Unit) :
    Program.run (ScalerStore.answer turn) (awaiting function queueName program) s =
      Program.run (ScalerStore.answer turn) program s := by
  rw [awaiting, Program.bind_eq, Program.run_bind, Program.run_capture]
  obtain ⟨outcome, s'⟩ := Program.run (ScalerStore.answer turn) program s
  cases outcome <;> rfl

theorem run_scaleUp (known : s.processors queueName = true) :
    Program.run (ScalerStore.answer turn) (scaleUp queueName) s = (.ok (), s.spawned queueName) := by
  have spawn : Program.run (ScalerStore.answer turn) (workerRegistryService.spawnWorker queueName) s =
      (.ok (), s.spawned queueName) := by
    have factory : Program.run (ScalerStore.answer turn) (Scaler.processor queueName) s = (.ok true, s) := by
      rw [← known]
      rfl
    rw [workerRegistryService.spawnWorker, Program.bind_eq, Program.run_bind, factory, ScalerStore.spawned, if_pos known]
    rfl
  rw [scaleUp, Program.bind_eq, Program.run_bind, run_awaiting, spawn]
  rfl

/-- Whether the close succeeds or not, the worker is off the list. -/
theorem run_scaleDown {rest : List WorkerId} {worker : WorkerId} (many : MIN_WORKERS < s.count queueName)
    (list : (s.workers queueName).getD [] = rest ++ [worker]) :
    ∃ outcome, Program.run (ScalerStore.answer turn) (scaleDown queueName (s.count queueName)) s =
      (outcome, s.terminated queueName rest worker) := by
  have fewer : ¬ max MIN_WORKERS (s.count queueName - 1) = s.count queueName := by
    unfold MIN_WORKERS at many ⊢
    omega
  have terminate : ∃ outcome, Program.run (ScalerStore.answer turn) (workerRegistryService.terminateWorker queueName) s =
      (outcome, s.terminated queueName rest worker) := by
    have read : Program.run (ScalerStore.answer turn) (Scaler.workers queueName) s =
        (.ok (s.workers queueName), s) := rfl
    rw [workerRegistryService.terminateWorker, Program.bind_eq, Program.run_bind, read]
    simp only [list, List.getLast?_append, List.getLast?_singleton, Option.some_or, List.dropLast_concat]
    have close : Program.run (ScalerStore.answer turn) (Scaler.closed queueName worker)
        (s.terminated queueName rest worker) =
        Program.run (ScalerStore.answer turn) (Program.ofExcept turn.closed) (s.terminated queueName rest worker) := by
      cases turn with
      | mk now counts closed => cases closed <;> rfl
    cases closed : turn.closed with
    | ok _ => exact ⟨.ok (), by rw [closed] at close; exact close⟩
    | error error => exact ⟨.thrown error, by rw [closed] at close; exact close⟩
  obtain ⟨outcome, ran⟩ := terminate
  rw [scaleDown, if_neg fewer, Program.bind_eq, Program.run_bind, run_awaiting, ran]
  cases outcome with
  | ok _ => exact ⟨.ok (), rfl⟩
  | thrown error => exact ⟨.thrown error, rfl⟩
  | hung => exact ⟨.hung, rfl⟩

/-- An evaluation reads the sample and the maps, and then acts. -/
theorem run_evaluateQueue (sampled : turn.counts = .ok counts) (cooled : s.lastScale queueName + MIN_COOLDOWN_MS ≤ turn.now) :
    Program.run (ScalerStore.answer turn) (evaluateQueue queueName) s =
      Program.run (ScalerStore.answer turn)
        (if overloaded counts (s.count queueName) = true then
          awaiting .scaleUp queueName (scaleUp queueName) >>= fun _ => Scaler.setLastScaleAt queueName turn.now
        else if idle counts (s.count queueName) = true then
          awaiting .scaleDown queueName (scaleDown queueName (s.count queueName)) >>= fun _ =>
            Scaler.setLastScaleAt queueName turn.now
        else pure ()) s := by
  have sample : Program.run (ScalerStore.answer turn) (Scaler.getJobCounts queueName) s = (.ok counts, s) := by
    cases turn with
    | mk now _ closed =>
      obtain rfl : _ = Except.ok counts := sampled
      rfl
  have ready : turn.now - (s.lastScaleAt queueName).getD 0 ≥ MIN_COOLDOWN_MS := by
    unfold ScalerStore.lastScale at cooled
    omega
  rw [evaluateQueue, Program.bind_eq, Program.run_bind, sample]
  show Program.run (ScalerStore.answer turn) (if ¬ (turn.now - (s.lastScaleAt queueName).getD 0 ≥ MIN_COOLDOWN_MS) then _
    else _) s = _
  rw [if_neg (not_not_intro ready)]
  rfl

/-- The spec of an evaluation that has cooled down. -/
theorem evaluateQueue_spec (sampled : turn.counts = .ok counts) (known : s.processors queueName = true)
    (cooled : s.lastScale queueName + MIN_COOLDOWN_MS ≤ turn.now) (positive : 0 < s.count queueName) {s' : ScalerStore}
    (ran : (Program.run (ScalerStore.answer turn) (evaluateQueue queueName) s).2 = s') :
    s'.count queueName = nextCount counts.active (backlog counts) (s.count queueName) ∧
      s'.processors queueName = true ∧
      (s'.lastScale queueName = s.lastScale queueName ∨ s'.lastScale queueName = turn.now) := by
  rw [run_evaluateQueue sampled cooled] at ran
  unfold nextCount
  by_cases busy : overloaded counts (s.count queueName) = true
  · rw [if_pos busy, Program.bind_eq, Program.run_bind, run_awaiting, run_scaleUp known] at ran
    have ran : (s.spawned queueName).setLastScaleAt queueName turn.now = s' := ran
    subst ran
    rw [if_pos ((overloaded_iff positive).mp busy)]
    refine ⟨?_, ?_, .inr ?_⟩
    · exact count_spawned known
    · exact (processors_spawned queueName).trans known
    · rw [lastScale_setLastScaleAt, if_pos rfl]
  · rw [if_neg busy] at ran
    rw [overloaded_iff positive] at busy
    rw [if_neg busy]
    by_cases quiet : idle counts (s.count queueName) = true
    · have need := idle_iff.mp quiet
      rw [if_pos quiet, Program.bind_eq, Program.run_bind, run_awaiting] at ran
      rw [if_pos need]
      obtain ⟨rest, worker, list⟩ := exists_last need.2.2
      obtain ⟨outcome, scaled⟩ := @run_scaleDown queueName s turn rest worker need.2.2 list
      have shrunk : (s.terminated queueName rest worker).count queueName = s.count queueName - 1 := by
        have whole : s.count queueName = rest.length + 1 := by
          rw [ScalerStore.count, list, List.length_append]
          rfl
        rw [whole, Nat.add_sub_cancel]
        exact count_setWorkers_self rest
      rw [scaled] at ran
      cases outcome with
      | ok _ =>
        have ran : (s.terminated queueName rest worker).setLastScaleAt queueName turn.now = s' := ran
        subst ran
        refine ⟨shrunk, known, .inr ?_⟩
        rw [lastScale_setLastScaleAt, if_pos rfl]
      | thrown error =>
        obtain rfl : s.terminated queueName rest worker = s' := ran
        exact ⟨shrunk, known, .inl rfl⟩
      | hung =>
        obtain rfl : s.terminated queueName rest worker = s' := ran
        exact ⟨shrunk, known, .inl rfl⟩
    · rw [if_neg quiet] at ran
      rw [idle_iff] at quiet
      obtain rfl : s = s' := ran
      rw [if_neg quiet]
      exact ⟨rfl, known, .inl rfl⟩

end Evaluation

section Sequence

variable {active load workers : Nat}

/-- The counts of a constant load, in closed form. -/
theorem nextCount_iterate (low : MIN_WORKERS ≤ workers) (n : Nat) :
    (nextCount active load)^[n] workers =
      if 0 < load then min (workers + n) (max workers (min MAX_WORKERS (active + 1)))
      else if active = 0 then max MIN_WORKERS (workers - n)
      else workers := by
  unfold MIN_WORKERS at low
  induction n with
  | zero =>
    rw [Function.iterate_zero, id]
    unfold MAX_WORKERS MIN_WORKERS
    split_ifs <;> omega
  | succ n ih =>
    rw [Function.iterate_succ_apply', ih]
    unfold nextCount MAX_WORKERS MIN_WORKERS
    split_ifs <;> omega

variable {queueName : String} {turns : Nat → ScalerTurn} {s : ScalerStore}

/-- Each evaluation of a sequence finds the cooldown over. -/
theorem workerCounts_eq (known : s.processors queueName = true) (low : MIN_WORKERS ≤ s.count queueName)
    (sampled : ∀ n, ∃ counts, (turns n).counts = .ok counts ∧ counts.active = active ∧ backlog counts = load)
    (first : s.lastScale queueName + MIN_COOLDOWN_MS ≤ (turns 0).now)
    (apart : ∀ n, (turns n).now + MIN_COOLDOWN_MS ≤ (turns (n + 1)).now) (n : Nat) :
    workerCounts queueName turns s n = (nextCount active load)^[n] (s.count queueName) := by
  have all : (evaluations queueName turns s n).count queueName = (nextCount active load)^[n] (s.count queueName) ∧
      (evaluations queueName turns s n).processors queueName = true ∧
      (evaluations queueName turns s n).lastScale queueName + MIN_COOLDOWN_MS ≤ (turns n).now := by
    induction n with
    | zero => exact ⟨rfl, known, first⟩
    | succ n ih =>
      obtain ⟨count, registered, cooled⟩ := ih
      obtain ⟨counts, sample, busy, waiting⟩ := sampled n
      have positive : 0 < (evaluations queueName turns s n).count queueName := by
        rw [count, nextCount_iterate low]
        unfold MIN_WORKERS MAX_WORKERS at *
        split_ifs <;> omega
      obtain ⟨next, registered', stamp⟩ := evaluateQueue_spec sample registered cooled positive rfl
      refine ⟨?_, registered', ?_⟩
      · rw [Function.iterate_succ_apply', ← count, ← busy, ← waiting]
        exact next
      · have later := apart n
        show ScalerStore.lastScale queueName (Program.run _ _ _).2 + MIN_COOLDOWN_MS ≤ _
        omega
  exact all.1

/-- A constant load moves the count one way only, to the count the load needs, where it stays. -/
theorem workerCounts_converge (queueName : String) (turns : Nat → ScalerTurn) (s : ScalerStore) (active load : Nat)
    (known : s.processors queueName = true)
    (within : MIN_WORKERS ≤ s.count queueName ∧ s.count queueName ≤ MAX_WORKERS)
    (sampled : ∀ n, ∃ counts, (turns n).counts = .ok counts ∧ counts.active = active ∧ backlog counts = load)
    (first : s.lastScale queueName + MIN_COOLDOWN_MS ≤ (turns 0).now)
    (apart : ∀ n, (turns n).now + MIN_COOLDOWN_MS ≤ (turns (n + 1)).now) :
    (Monotone (workerCounts queueName turns s) ∨ Antitone (workerCounts queueName turns s)) ∧
      ∀ n, MAX_WORKERS ≤ n → workerCounts queueName turns s n = settledCount active load (s.count queueName) := by
  have closed (n : Nat) := (workerCounts_eq known within.1 sampled first apart n).trans (nextCount_iterate within.1 n)
  obtain ⟨low, high⟩ := within
  unfold MIN_WORKERS MAX_WORKERS at *
  constructor
  · by_cases waiting : 0 < load
    · left
      refine monotone_nat_of_le_succ fun n => ?_
      rw [closed, closed, if_pos waiting, if_pos waiting]
      omega
    · right
      refine antitone_nat_of_succ_le fun n => ?_
      rw [closed, closed, if_neg waiting, if_neg waiting]
      split_ifs <;> omega
  · intro n enough
    rw [closed]
    unfold settledCount MIN_WORKERS MAX_WORKERS
    split_ifs <;> omega

/-- Seven jobs always run and four always wait. -/
def loadedTurn (n : Nat) : ScalerTurn :=
  { now := 2000 * (n + 1), counts := .ok ⟨3, 7, 0, 1⟩, closed := .ok () }

theorem workerCounts_converge_loaded :
    (Monotone (workerCounts "media" loadedTurn threeWorkers.state) ∨
      Antitone (workerCounts "media" loadedTurn threeWorkers.state)) ∧
    ∀ n, MAX_WORKERS ≤ n → workerCounts "media" loadedTurn threeWorkers.state n =
      settledCount 7 4 (threeWorkers.state.count "media") := by
  apply workerCounts_converge "media" loadedTurn threeWorkers.state 7 4 rfl (by decide)
  · exact fun n => ⟨⟨3, 7, 0, 1⟩, rfl, rfl, rfl⟩
  · decide
  · intro n
    show 2000 * (n + 1) + 2000 ≤ 2000 * (n + 1 + 1)
    omega

example : settledCount 7 4 (threeWorkers.state.count "media") = 8 := by decide

end Sequence
end OrchestrateModel
