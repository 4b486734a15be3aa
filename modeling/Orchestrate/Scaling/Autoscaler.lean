import Orchestrate.Model.AutoScaler

namespace OrchestrateModel

open Effect Cooperation AutoscalerService

/-- Where an evaluation of a queue stands: before its sample, at the close of a worker, or between a scaling action
    and the stamp of its clock reading. -/
inductive ScalerStage : Type where
  | apart
  | sampling (queueName : String)
  | closing (queueName : String) (time : Nat)
  | stamping (queueName : String) (time : Nat)
  deriving DecidableEq, Repr

namespace ScalerStore

def spawned (s : ScalerStore) (queueName : String) : ScalerStore :=
  if s.processors queueName then
    { s with nextWorker := s.nextWorker + 1 }.setWorkers queueName ((s.workers queueName).getD [] ++ [s.nextWorker])
  else s

def terminated (s : ScalerStore) (queueName : String) (rest : List WorkerId) (worker : WorkerId) : ScalerStore :=
  { s.setWorkers queueName rest with closing := s.closing ++ [worker] }

def cooledDown (s : ScalerStore) (queueName : String) (now : Nat) : Prop :=
  now - (s.lastScaleAt queueName).getD 0 ≥ MIN_COOLDOWN_MS

instance (s : ScalerStore) (queueName : String) (now : Nat) : Decidable (s.cooledDown queueName now) :=
  inferInstanceAs (Decidable (now - (s.lastScaleAt queueName).getD 0 ≥ MIN_COOLDOWN_MS))

end ScalerStore

/-- What a segment can do, with the stages before and after it. -/
inductive ScalerMove : ScalerStage → ScalerStore → ScalerTurn → ScalerStore → ScalerStage → Prop where
  | rests {s : ScalerStore} {turn : ScalerTurn} : ScalerMove .apart s turn s .apart
  | samples {s : ScalerStore} {turn : ScalerTurn} {queueName : String} : ScalerMove .apart s turn s (.sampling queueName)
  | keeps {s : ScalerStore} {turn : ScalerTurn} {queueName : String} : ScalerMove (.sampling queueName) s turn s .apart
  | spawns {s : ScalerStore} {turn : ScalerTurn} {queueName : String} {counts : JobCounts}
      (sampled : turn.counts = .ok counts) (cooled : s.cooledDown queueName turn.now)
      (needed : overloaded counts (s.count queueName) = true) :
      ScalerMove (.sampling queueName) s turn (s.spawned queueName) (.stamping queueName turn.now)
  | terminates {s : ScalerStore} {turn : ScalerTurn} {queueName : String} {counts : JobCounts} {rest : List WorkerId}
      {worker : WorkerId} (sampled : turn.counts = .ok counts) (cooled : s.cooledDown queueName turn.now)
      (needed : idle counts (s.count queueName) = true) (list : (s.workers queueName).getD [] = rest ++ [worker]) :
      ScalerMove (.sampling queueName) s turn (s.terminated queueName rest worker) (.closing queueName turn.now)
  | closes {s : ScalerStore} {turn : ScalerTurn} {queueName : String} {time : Nat} (closed : turn.closed = .ok ()) :
      ScalerMove (.closing queueName time) s turn s (.stamping queueName time)
  | fails {s : ScalerStore} {turn : ScalerTurn} {queueName : String} {time : Nat} (failed : turn.closed ≠ .ok ()) :
      ScalerMove (.closing queueName time) s turn s .apart
  | settles {s : ScalerStore} {turn : ScalerTurn} {queueName : String} {time : Nat} :
      ScalerMove (.stamping queueName time) s turn s (.stamping queueName time)
  | stamps {s : ScalerStore} {turn : ScalerTurn} {queueName : String} {time : Nat} :
      ScalerMove (.stamping queueName time) s turn (s.setLastScaleAt queueName time) .apart

/-- The call that an evaluation awaits at a stage. -/
def ScalerStage.awaits : ScalerStage → ScalerCall → Prop
  | .apart, _ => True
  | .sampling queueName, call => call = .getJobCounts queueName
  | .closing queueName _, call => ∃ worker, call = .closed queueName worker
  | .stamping queueName _, call => ∃ function, call = .settle function queueName ∧ function ≠ .evaluateQueue

def scalerDiscipline : Discipline scalerSignature Err ScalerStage ScalerStore ScalerTurn where
  moves segment stage := ScalerMove segment.stage segment.start segment.env segment.state stage
  awaited := ScalerStage.awaits
  ended stage _ := stage = .apart

section Evaluation

variable {thrown : Err → Segment ScalerStage ScalerStore ScalerTurn → Prop}
  {now : Segment ScalerStage ScalerStore ScalerTurn} {queueName : String} {s : ScalerStore} {turn : ScalerTurn}

@[simp] theorem proceeds_now {post : Nat → Segment ScalerStage ScalerStore ScalerTurn → Prop} :
    scalerLoop.Proceeds scalerDiscipline post thrown Scaler.now = fun now => post now.env.now now :=
  rfl

@[simp] theorem proceeds_lastScaleAt {post : Option Nat → Segment ScalerStage ScalerStore ScalerTurn → Prop} :
    scalerLoop.Proceeds scalerDiscipline post thrown (Scaler.lastScaleAt queueName) = fun now =>
      post (now.state.lastScaleAt queueName) now :=
  rfl

@[simp] theorem proceeds_processor {post : Bool → Segment ScalerStage ScalerStore ScalerTurn → Prop} :
    scalerLoop.Proceeds scalerDiscipline post thrown (Scaler.processor queueName) = fun now =>
      post (now.state.processors queueName) now :=
  rfl

@[simp] theorem proceeds_workers {post : Option (List WorkerId) → Segment ScalerStage ScalerStore ScalerTurn → Prop} :
    scalerLoop.Proceeds scalerDiscipline post thrown (Scaler.workers queueName) = fun now =>
      post (now.state.workers queueName) now :=
  rfl

@[simp] theorem proceeds_createWorker {post : WorkerId → Segment ScalerStage ScalerStore ScalerTurn → Prop} :
    scalerLoop.Proceeds scalerDiscipline post thrown (Scaler.createWorker queueName) = fun now =>
      post now.state.nextWorker { now with state := { now.state with nextWorker := now.state.nextWorker + 1 } } :=
  rfl

variable {post : Unit → Segment ScalerStage ScalerStore ScalerTurn → Prop}

@[simp] theorem proceeds_setWorkers {list : List WorkerId} :
    scalerLoop.Proceeds scalerDiscipline post thrown (Scaler.setWorkers queueName list) = fun now =>
      post () { now with state := now.state.setWorkers queueName list } :=
  rfl

@[simp] theorem proceeds_setLastScaleAt {time : Nat} :
    scalerLoop.Proceeds scalerDiscipline post thrown (Scaler.setLastScaleAt queueName time) = fun now =>
      post () { now with state := now.state.setLastScaleAt queueName time } :=
  rfl

@[simp] theorem proceeds_close {worker : WorkerId} :
    scalerLoop.Proceeds scalerDiscipline post thrown (Scaler.close worker) = fun now =>
      post () { now with state := { now.state with closing := now.state.closing ++ [worker] } } :=
  rfl

@[simp] theorem proceeds_recordScaleUp :
    scalerLoop.Proceeds scalerDiscipline post thrown (Scaler.recordScaleUp queueName) = post () :=
  rfl

@[simp] theorem proceeds_recordScaleDown :
    scalerLoop.Proceeds scalerDiscipline post thrown (Scaler.recordScaleDown queueName) = post () :=
  rfl

theorem proceeds_settle (function : ScalerFunction) :
    scalerLoop.Proceeds scalerDiscipline post thrown (Scaler.settle function queueName) = fun now =>
      ∃ stage, ScalerMove now.stage now.start now.env now.state stage ∧
        stage.awaits (.settle function queueName) ∧ ∀ turn s, post () ⟨stage, s, turn, s⟩ :=
  proceeds_await rfl

/-- What follows the `await` of a function goes on in a segment of its own. -/
theorem proceeds_awaiting (function : ScalerFunction) (program : ScalerProgram Unit) :
    scalerLoop.Proceeds scalerDiscipline post thrown (awaiting function queueName program) =
      scalerLoop.Proceeds scalerDiscipline
        (fun _ now => ∃ stage, ScalerMove now.stage now.start now.env now.state stage ∧
          stage.awaits (.settle function queueName) ∧ ∀ turn s, post () ⟨stage, s, turn, s⟩)
        (fun error now => ∃ stage, ScalerMove now.stage now.start now.env now.state stage ∧
          stage.awaits (.settle function queueName) ∧ ∀ turn s, thrown error ⟨stage, s, turn, s⟩)
        program := by
  simp only [awaiting, Program.bind_eq, proceeds_bind, proceeds_capture, proceeds_settle, Program.ofExcept,
    proceeds_done, proceeds_throws]

/-- An action that has begun is stamped with its clock reading, whenever it has ended. -/
theorem proceeds_stamp (function : ScalerFunction) (apart : function ≠ .evaluateQueue) {time : Nat}
    {program : ScalerProgram Unit}
    (action : scalerLoop.Proceeds scalerDiscipline
      (fun _ now => ScalerMove now.stage now.start now.env now.state (.stamping queueName time))
      (fun _ now => ScalerMove now.stage now.start now.env now.state .apart) program now) :
    scalerLoop.Proceeds scalerDiscipline
      (fun _ now => ScalerMove now.stage now.start now.env now.state .apart)
      (fun _ now => ScalerMove now.stage now.start now.env now.state .apart)
      (awaiting function queueName program >>= fun _ => Scaler.setLastScaleAt queueName time) now := by
  rw [Program.bind_eq, proceeds_bind, proceeds_awaiting]
  refine action.mono (fun _ now moved => ?_) fun error now moved => ?_
  · rw [proceeds_setLastScaleAt]
    exact ⟨.stamping queueName time, moved, ⟨function, rfl, apart⟩, fun turn s => .stamps⟩
  · exact ⟨.apart, moved, trivial, fun turn s => .rests⟩

theorem proceeds_scaleUp {counts : JobCounts} (sampled : turn.counts = .ok counts)
    (cooled : s.cooledDown queueName turn.now) (needed : overloaded counts (s.count queueName) = true) :
    scalerLoop.Proceeds scalerDiscipline
      (fun _ now => ScalerMove now.stage now.start now.env now.state (.stamping queueName turn.now)) thrown
      (scaleUp queueName) ⟨.sampling queueName, s, turn, s⟩ := by
  have moved := ScalerMove.spawns sampled cooled needed
  have settles : ∃ stage, ScalerMove (.sampling queueName) s turn (s.spawned queueName) stage ∧
      stage.awaits (.settle .spawnWorker queueName) ∧
        ∀ later s', ScalerMove stage s' later s' (.stamping queueName turn.now) :=
    ⟨.stamping queueName turn.now, moved, ⟨.spawnWorker, rfl, by decide⟩, fun _ _ => .settles⟩
  rw [scaleUp, Program.bind_eq, proceeds_bind, proceeds_awaiting, workerRegistryService.spawnWorker, Program.bind_eq,
    proceeds_bind, proceeds_processor]
  unfold ScalerStore.spawned at settles
  cases known : s.processors queueName with
  | true => simpa [known, proceeds_bind] using settles
  | false => simpa [known] using settles

theorem proceeds_closed {worker : WorkerId} :
    scalerLoop.Proceeds scalerDiscipline post thrown (Scaler.closed queueName worker) = fun now =>
      ∃ stage, ScalerMove now.stage now.start now.env now.state stage ∧
        stage.awaits (.closed queueName worker) ∧ ∀ turn s,
          scalerLoop.Proceeds scalerDiscipline post thrown (.ofExcept turn.closed) ⟨stage, s, turn, s⟩ :=
  proceeds_await rfl

theorem idle_iff {counts : JobCounts} {workers : Nat} :
    idle counts workers = true ↔ backlog counts = 0 ∧ counts.active = 0 ∧ MIN_WORKERS < workers := by
  unfold idle
  simp only [Bool.and_eq_true, decide_eq_true_eq]
  constructor
  · rintro ⟨⟨⟨_, empty⟩, unused⟩, many⟩
    exact ⟨empty, unused, many⟩
  · rintro ⟨empty, unused, many⟩
    refine ⟨⟨⟨?_, empty⟩, unused⟩, many⟩
    rw [utilization, unused, Nat.cast_zero, zero_div, ite_self]
    decide +kernel

/-- A queue with more workers than it needs has a last one. -/
theorem exists_last (many : MIN_WORKERS < s.count queueName) :
    ∃ rest worker, (s.workers queueName).getD [] = rest ++ [worker] := by
  rcases List.eq_nil_or_concat ((s.workers queueName).getD []) with empty | ⟨rest, worker, list⟩
  · rw [ScalerStore.count, empty] at many
    exact absurd many (by decide)
  · exact ⟨rest, worker, by rw [list, List.concat_eq_append]⟩

theorem proceeds_scaleDown {counts : JobCounts} (sampled : turn.counts = .ok counts)
    (cooled : s.cooledDown queueName turn.now) (needed : idle counts (s.count queueName) = true) :
    scalerLoop.Proceeds scalerDiscipline
      (fun _ now => ScalerMove now.stage now.start now.env now.state (.stamping queueName turn.now))
      (fun _ now => ScalerMove now.stage now.start now.env now.state .apart)
      (scaleDown queueName (s.count queueName)) ⟨.sampling queueName, s, turn, s⟩ := by
  have many := (idle_iff.mp needed).2.2
  have fewer : ¬ max MIN_WORKERS (s.count queueName - 1) = s.count queueName := by
    unfold MIN_WORKERS at many ⊢
    omega
  obtain ⟨rest, worker, list⟩ := exists_last many
  have moved := ScalerMove.terminates sampled cooled needed list
  rw [scaleDown, if_neg fewer, Program.bind_eq, proceeds_bind, proceeds_awaiting,
    workerRegistryService.terminateWorker, Program.bind_eq, proceeds_bind, proceeds_workers]
  simp only [list, List.getLast?_append, List.getLast?_singleton, Option.some_or, List.dropLast_concat,
    Program.bind_eq, proceeds_bind, proceeds_setWorkers, proceeds_close, proceeds_closed, proceeds_recordScaleDown]
  refine ⟨.closing queueName turn.now, moved, ⟨worker, rfl⟩, fun later s' => ?_⟩
  cases ended : later.closed with
  | ok _ =>
    exact ⟨.stamping queueName turn.now, .closes ended, ⟨.terminateWorker, rfl, by decide⟩, fun _ _ => .settles⟩
  | error error =>
    have failed : later.closed ≠ .ok () := by simp [ended]
    exact ⟨.apart, .fails failed, trivial, fun _ _ => .rests⟩

theorem proceeds_getJobCounts {post : JobCounts → Segment ScalerStage ScalerStore ScalerTurn → Prop} :
    scalerLoop.Proceeds scalerDiscipline post thrown (Scaler.getJobCounts queueName) = fun now =>
      ∃ stage, ScalerMove now.stage now.start now.env now.state stage ∧
        stage.awaits (.getJobCounts queueName) ∧ ∀ turn s,
          scalerLoop.Proceeds scalerDiscipline post thrown (.ofExcept turn.counts) ⟨stage, s, turn, s⟩ :=
  proceeds_await rfl

/-- The step lemma of an evaluation: it samples, scales at most once, and stamps what it did. -/
theorem proceeds_evaluateQueue (apart : now.stage = .apart) (unchanged : now.state = now.start) :
    scalerLoop.Proceeds scalerDiscipline
      (fun _ now => ScalerMove now.stage now.start now.env now.state .apart)
      (fun _ now => ScalerMove now.stage now.start now.env now.state .apart) (evaluateQueue queueName) now := by
  rw [evaluateQueue, Program.bind_eq, proceeds_bind, proceeds_getJobCounts]
  refine ⟨.sampling queueName, ?_, rfl, fun turn s => ?_⟩
  · rw [apart, unchanged]
    exact .samples
  · cases sampled : turn.counts with
    | error error => exact .keeps
    | ok counts =>
      simp only [Program.ofExcept, proceeds_done, workerRegistryService.getWorkerCount, Program.bind_eq, proceeds_bind,
        proceeds_workers, Program.pure_eq_done, proceeds_now, proceeds_lastScaleAt]
      by_cases cooled : turn.now - (s.lastScaleAt queueName).getD 0 ≥ MIN_COOLDOWN_MS
      · rw [if_neg (not_not_intro cooled)]
        by_cases busy : overloaded counts ((s.workers queueName).getD []).length = true
        · rw [if_pos busy]
          exact proceeds_stamp .scaleUp (by decide) (proceeds_scaleUp sampled cooled busy)
        · rw [if_neg busy]
          by_cases quiet : idle counts ((s.workers queueName).getD []).length = true
          · rw [if_pos quiet]
            exact proceeds_stamp .scaleDown (by decide) (proceeds_scaleDown sampled cooled quiet)
          · rw [if_neg quiet]
            exact .keeps
      · rw [if_pos cooled]
        exact .keeps

end Evaluation

theorem proceeds_tick (queues : List String) (turn : ScalerTurn) (s : ScalerStore) :
    scalerLoop.Completes scalerDiscipline (tick queues) ⟨.apart, s, turn, s⟩ := by
  have loops : scalerLoop.Proceeds scalerDiscipline (fun _ now => now.stage = .apart ∧ now.state = now.start)
      (fun error => Closes scalerDiscipline (.thrown error)) (tick queues) ⟨.apart, s, turn, s⟩ := by
    apply proceeds_forEach
    · exact ⟨rfl, rfl⟩
    · intro queueName _ now between
      rw [proceeds_catching, proceeds_awaiting]
      refine (proceeds_evaluateQueue between.1 between.2).mono (fun _ now moved => ?_) fun error now moved => ?_
      · exact ⟨.apart, moved, trivial, fun _ _ => ⟨rfl, rfl⟩⟩
      · exact ⟨.apart, moved, trivial, fun _ _ => ⟨rfl, rfl⟩⟩
  refine loops.mono (fun _ now ended => ⟨.apart, ?_, rfl⟩) fun _ _ => id
  show ScalerMove now.stage now.start now.env now.state .apart
  rw [ended.1, ended.2]
  exact .rests

end OrchestrateModel
