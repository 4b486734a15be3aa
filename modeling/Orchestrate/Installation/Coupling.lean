import Orchestrate.Concurrency.Entries
import Orchestrate.Effect.Coupled
import Orchestrate.Installation.Standing
import Orchestrate.Workflow.Automaton

namespace OrchestrateModel

open Effect Program BaseProcessor

section Times

variable {γ : Type} {env : Env} {gate : γ → JobQueuePayload → Except Err JobStatus × γ} {outcome : Except Err (Option String)}
  {attempt attempt' : Attempt}

/-- `execute` uses the time of a job's submission only for a metric. -/
theorem run_beginAttempt_untimed (env : Env) (gate : γ → JobQueuePayload → Except Err JobStatus × γ)
    (outcome : Except Err (Option String)) (job : BullJob) (timestamp : Nat) (s : Db × γ) :
    ((beginAttempt { job with timestamp := timestamp }).run (work env gate outcome) s).1.map (Option.map Attempt.untimed) =
        ((beginAttempt job).run (work env gate outcome) s).1.map (Option.map Attempt.untimed) ∧
      ((beginAttempt { job with timestamp := timestamp }).run (work env gate outcome) s).2 =
        ((beginAttempt job).run (work env gate outcome) s).2 := by
  have agree : Agree (work env gate outcome) (Option.map Attempt.untimed) (beginAttempt { job with timestamp := timestamp })
      (beginAttempt job) := by
    unfold beginAttempt
    simp only [bind_eq, pure_eq_done]
    refine agree_bind fun executeStart => agree_bind fun now => agree_bind fun existingJob => ?_
    refine agree_ite (Agree.refl _) ?_
    refine agree_ite (agree_bind fun _ => ?_) ?_
    all_goals
      refine agree_bind fun sequenceNumber => agree_bind fun startedAt => agree_bind fun attempt => ?_
      exact agree_ite (agree_bind fun _ => agree_bind fun _ => fun s => ⟨rfl, rfl⟩) (agree_bind fun _ => fun s => ⟨rfl, rfl⟩)
  exact agree s

theorem run_afterProcess_untimed (job : BullJob) (timestamp : Nat) (same : attempt.untimed = attempt'.untimed) (s : Db × γ) :
    (afterProcess { job with timestamp := timestamp } attempt outcome).run (work env gate outcome) s =
      (afterProcess job attempt' outcome).run (work env gate outcome) s := by
  obtain ⟨executeStart, waitSeconds, isWorkflowJob, sequenceNumber, made⟩ := attempt
  obtain ⟨executeStart', waitSeconds', isWorkflowJob', sequenceNumber', made'⟩ := attempt'
  obtain ⟨rfl, -, rfl, rfl, rfl⟩ := Attempt.mk.inj same
  have succeeds (result : Option String) : Agree (work env gate outcome) id
      (afterSuccess { job with timestamp := timestamp } ⟨executeStart, waitSeconds, isWorkflowJob, sequenceNumber, made⟩ result)
      (afterSuccess job ⟨executeStart, waitSeconds', isWorkflowJob, sequenceNumber, made⟩ result) := by
    unfold afterSuccess
    simp only [bind_eq]
    refine agree_bind fun now => agree_bind fun finish => agree_bind fun _ => agree_bind fun _ => ?_
    exact agree_ite (agree_bind fun _ => fun s => ⟨rfl, rfl⟩) fun s => ⟨rfl, rfl⟩
  unfold afterProcess
  cases outcome with
  | error error => rfl
  | ok result =>
    simp only [bind_eq, run_bind, run_capture, run_catching]
    rw [(succeeds result).eq s]
    rfl

end Times

section Calls

variable {α : Type} {duties : Nat → Option Duty} {queued : List QueuedJob} {entries : List Entry} {s : Db × Store}
  {t : Db × Desk} {env : Env} {staged : Bool} {outcome : Except Err (Option String)} {program : WorkerProgram α}

/-- The tables are the same, and the desk stands for the store; both have only grown. -/
structure Tied (duties : Nat → Option Duty) (queued : List QueuedJob) (entries : List Entry) (s : Db × Store) (t : Db × Desk) :
    Prop where
  db : s.1 = t.1
  stands : Stands duties s.2 t.2
  queued : queued <+: s.2.queued
  entries : entries <+: t.2.entries

theorem Tied.job (tied : Tied duties queued entries s t) {i : Nat} {job : QueuedJob} (at_i : queued[i]? = some job) :
    s.2.queued[i]? = some job := by
  obtain ⟨bound, here⟩ := List.getElem?_eq_some_iff.mp at_i
  rw [List.prefix_iff_getElem?.mp tied.queued i bound, here]

theorem Tied.entry (tied : Tied duties queued entries s t) {j : Nat} {entry : Entry} (at_j : entries[j]? = some entry) :
    t.2.entries[j]? = some entry := by
  obtain ⟨bound, here⟩ := List.getElem?_eq_some_iff.mp at_j
  rw [List.prefix_iff_getElem?.mp tied.entries j bound, here]

def WorkerCall.submission : WorkerCall → Option JobQueuePayload
  | .service (.submitJob payload) => some payload
  | _ => none

def WorkerCall.hands (c : WorkerCall) : Bool := c.submission.isSome

/-- The payloads that a program hands over are new on the desk, and at most one. -/
def Desk.HandedOne (desk : Desk) (submitted : List JobQueuePayload) : Prop :=
  submitted = desk.submitted ∨ ∃ payload, submitted = desk.submitted ++ [payload] ∧ desk.Unissued payload

theorem submitted_run (program : WorkerProgram α) (t : Db × Desk) :
    (program.run (work env (Desk.accept staged env.now) outcome) t).2.2.submitted =
      t.2.submitted ++ (visited (work env (Desk.accept staged env.now) outcome) program t).filterMap fun v => v.2.submission := by
  induction program generalizing t with
  | done value => simp [visited]
  | throws error => simp [visited]
  | hangs => simp [visited]
  | call c next ih =>
    rw [run_call, visited, ih, List.filterMap_cons]
    obtain ⟨db, desk⟩ := t
    cases c with
    | service call =>
      cases call with
      | submitJob payload =>
        have handed : (work env (Desk.accept staged env.now) outcome (db, desk) (.service (.submitJob payload))).2.2.submitted =
            desk.submitted ++ [payload] := Desk.submitted_accept staged env.now payload
        rw [handed, List.append_assoc]
        rfl
      | db c => rfl
      | randomUUID => rfl
      | now => rfl
    | process job => rfl
    | release tenantId queueName => rfl
    | record metric => rfl
    | incrementCompleted queueName => rfl
    | incrementFailed queueName => rfl

theorem submits_of_handed (handed : t.2.HandedOne (program.run (work env (Desk.accept staged env.now) outcome) t).2.2.submitted) :
    (visited (work env (Desk.accept staged env.now) outcome) program t).countP (fun v => v.2.hands) ≤ 1 ∧
      ∀ v ∈ visited (work env (Desk.accept staged env.now) outcome) program t, v.2.hands = true →
        ∀ payload ∈ v.2.submission, t.2.Unissued payload := by
  rw [Desk.HandedOne, submitted_run] at handed
  generalize visited (work env (Desk.accept staged env.now) outcome) program t = calls at handed
  have counted : calls.countP (fun v => v.2.hands) = (calls.filterMap fun v => v.2.submission).length := by
    rw [List.length_filterMap_eq_countP]
    rfl
  have listed {v : (Db × Desk) × WorkerCall} (member : v ∈ calls) {payload : JobQueuePayload} (own : payload ∈ v.2.submission) :
      payload ∈ calls.filterMap fun v => v.2.submission := List.mem_filterMap.mpr ⟨v, member, own⟩
  rcases handed with none_ | ⟨payload, one, unissued⟩
  · have empty : (calls.filterMap fun v => v.2.submission) = [] := by simpa using none_
    rw [empty] at counted listed
    exact ⟨by simp [counted], fun v member _ payload own => absurd (listed member own) List.not_mem_nil⟩
  · have single : (calls.filterMap fun v => v.2.submission) = [payload] := List.append_cancel_left one
    rw [single] at counted listed
    refine ⟨by simp [counted], fun v member _ other own => ?_⟩
    obtain rfl := List.mem_singleton.mp (listed member own)
    exact unissued

/-- A call that submits nothing is answered alike, and does nothing to the desk. -/
theorem Tied.quiet (tied : Tied duties queued entries s t) (env : Env) (staged : Bool) (outcome : Except Err (Option String))
    {c : WorkerCall} (silent : c.hands = false) :
    (Store.work env outcome s c).1 = (work env (Desk.accept staged env.now) outcome t c).1 ∧
      Tied duties queued entries (Store.work env outcome s c).2 (work env (Desk.accept staged env.now) outcome t c).2 ∧
      (work env (Desk.accept staged env.now) outcome t c).2.2 = t.2 := by
  obtain ⟨db, st⟩ := s
  obtain ⟨db', desk⟩ := t
  obtain ⟨rfl, stands, grown, listed⟩ := tied
  have incremented (program : CapProgram Unit) {key field : String}
      (increments : program = QueueReconcileCollector.increment key field) :
      (Store.perform program st).1 = .ok () ∧
        Tied duties queued entries (db, (Store.perform program st).2) (db, desk) := by
    rw [Store.perform_of_run (increments ▸ run_increment st key field)]
    exact ⟨rfl, rfl, stands.of_store rfl rfl, grown, listed⟩
  cases c with
  | service call =>
    cases call with
    | submitJob payload => cases silent
    | db c => exact ⟨rfl, ⟨rfl, stands, grown, listed⟩, rfl⟩
    | randomUUID => exact ⟨rfl, ⟨rfl, stands, grown, listed⟩, rfl⟩
    | now => exact ⟨rfl, ⟨rfl, stands, grown, listed⟩, rfl⟩
  | process job => exact ⟨rfl, ⟨rfl, stands, grown, listed⟩, rfl⟩
  | record metric => exact ⟨rfl, ⟨rfl, stands, grown, listed⟩, rfl⟩
  | release tenantId queueName =>
    obtain ⟨answer, stands⟩ := stands.release tenantId queueName
    exact ⟨answer, ⟨rfl, stands, grown.trans (Store.queued_release st tenantId queueName), listed⟩, rfl⟩
  | incrementCompleted queueName =>
    obtain ⟨answer, tied⟩ := incremented (QueueReconcileCollector.incrementCompleted queueName) rfl
    exact ⟨answer, tied, rfl⟩
  | incrementFailed queueName =>
    obtain ⟨answer, tied⟩ := incremented (QueueReconcileCollector.incrementFailed queueName) rfl
    exact ⟨answer, tied, rfl⟩

theorem Tied.submit (tied : Tied duties queued entries s t) {payload : JobQueuePayload} (unissued : t.2.Unissued payload) :
    ∃ staged, (Store.work env outcome s (.service (.submitJob payload))).1 =
        (work env (Desk.accept staged env.now) outcome t (.service (.submitJob payload))).1 ∧
      Tied duties queued entries (Store.work env outcome s (.service (.submitJob payload))).2
        (work env (Desk.accept staged env.now) outcome t (.service (.submitJob payload))).2 := by
  obtain ⟨db, st⟩ := s
  obtain ⟨db', desk⟩ := t
  obtain ⟨rfl, stands, grown, listed⟩ := tied
  obtain ⟨staged, answer, stands⟩ := stands.submit unissued env.now
  refine ⟨staged, answer, rfl, stands, grown.trans (Store.queued_submitJob st payload), listed.trans ?_⟩
  rcases Desk.entries_accept desk staged env.now payload with same | more
  · exact ⟨[], (List.append_nil _).trans same.symm⟩
  · exact ⟨_, more.symm⟩

/-- A program that hands over at most one payload, which is new, does on the desk what it does on the store. -/
theorem Tied.coupled (tied : Tied duties queued entries s t) (env : Env) (outcome : Except Err (Option String))
    (program : WorkerProgram α)
    (handed : ∀ staged, t.2.HandedOne (program.run (work env (Desk.accept staged env.now) outcome) t).2.2.submitted) :
    ∃ staged, Coupled (Store.work env outcome) (work env (Desk.accept staged env.now) outcome) (Tied duties queued entries)
      program s t := by
  apply coupled_chosen WorkerCall.hands (fun c : WorkerCall => ∀ payload ∈ c.submission, t.2.Unissued payload)
    (fun s' t' => Tied duties queued entries s' t' ∧ t'.2 = t.2)
  · exact fun _ _ both => both.1
  · intro c k k' t' silent
    obtain ⟨db, desk⟩ := t'
    cases c with
    | service call => cases call <;> first | rfl | cases silent
    | _ => rfl
  · intro c k s' t' silent both
    obtain ⟨answer, tied, same⟩ := both.1.quiet env k outcome silent
    exact ⟨answer, tied, same.trans both.2⟩
  · intro c k s' t' silent tied
    obtain ⟨answer, tied, _⟩ := tied.quiet env k outcome silent
    exact ⟨answer, tied⟩
  · intro c s' t' submits unissued both
    obtain ⟨payload, own⟩ := Option.isSome_iff_exists.mp submits
    cases c with
    | service call =>
      cases call with
      | submitJob payload => exact both.1.submit (by rw [both.2]; exact unissued payload rfl)
      | _ => cases own
    | _ => cases own
  · exact ⟨tied, rfl⟩
  · exact fun staged => submits_of_handed (handed staged)

/-- A program that hands nothing over does on the desk what it does on the store. -/
theorem Tied.coupled_silent (tied : Tied duties queued entries s t) (env : Env) (staged : Bool)
    (outcome : Except Err (Option String)) (program : WorkerProgram α)
    (silent : (program.run (work env (Desk.accept staged env.now) outcome) t).2.2.submitted = t.2.submitted) :
    Coupled (Store.work env outcome) (work env (Desk.accept staged env.now) outcome) (Tied duties queued entries) program s t := by
  rw [submitted_run] at silent
  have none_ := List.append_cancel_left (silent.trans (List.append_nil _).symm)
  apply coupled_visited (fun c : WorkerCall => c.hands = false)
  · intro c s' t' silent tied
    obtain ⟨answer, tied, _⟩ := tied.quiet env staged outcome silent
    exact ⟨answer, tied⟩
  · exact tied
  · intro v member
    simpa [WorkerCall.hands] using List.filterMap_eq_nil_iff.mp none_ v member

end Calls

section Handing

variable {t t' : Workflows} {event : WorkflowEvent}

theorem ready_of_forward {status : JobStatus} (forward : Forward status .READY) :
    status = .READY ∨ status = .WAITING_FOR_DEPENDENCIES := by
  rcases Relation.ReflTransGen.cases_tail forward with same | ⟨before, earlier, move⟩
  · exact .inl same.symm
  · cases move
    rcases Relation.ReflTransGen.cases_tail earlier with same | ⟨before, _, move⟩
    · exact .inr same.symm
    · cases move

theorem Supplied.handedOne_followed (supplied : Supplied t) {middle : Workflows} (next : Followed middle t')
    (same : middle.desk.submitted = t.desk.submitted) (idle : ∀ x, middle.db.status x = some .READY → ¬ t.db.Begun x) :
    t.desk.HandedOne t'.desk.submitted := by
  rcases next with rfl | ⟨env, staged, workFlowId, dispatched⟩
  · exact .inl same
  · cases dispatched with
    | none reason => exact .inl same
    | next job unoccupied picked row ready =>
      cases resolved : resolveQueueName job.type with
      | error error =>
        refine .inl ?_
        dsimp only
        rw [offered, resolved]
        exact same
      | ok queueName =>
        refine .inr ⟨candidatePayload job queueName, ?_, fun id custom => ?_⟩
        · dsimp only
          rw [offered, resolved, ← same]
          exact Desk.submitted_accept staged env.now _
        · rw [candidatePayload_id] at custom
          obtain rfl := Option.mem_some.mp custom
          exact supplied.not_issued (idle job.id (by simp [Db.status, row, ready]))

/-- A step hands over at most one payload, and BullMQ holds nothing under its id. -/
theorem Sound.handedOne (sound : Sound t) (supplied : Supplied t) (moved : t.step event = some t') :
    t.desk.HandedOne t'.desk.submitted := by
  cases sound.stepped moved with
  | grown rows links db grown quiet next =>
    refine supplied.handedOne_followed next rfl fun x ready begun => ?_
    obtain ⟨status, standing, fresh, _⟩ := begun
    have old := grown.status_old sound.formed standing
    rw [ready] at old
    exact fresh (Option.some.inj old).symm
  | calm db desk kept forwards launched submitted quiet next =>
    refine supplied.handedOne_followed next submitted fun x ready begun => ?_
    obtain ⟨status, standing, fresh, free⟩ := begun
    obtain ⟨after, standing', forward⟩ := forwards x status standing
    rw [ready] at standing'
    obtain rfl := Option.some.inj standing'
    exact (ready_of_forward forward).elim fresh free
  | requeued job env staged userId tenantId row failed again db desk =>
    rw [desk]
    cases resolved : resolveQueueName job.type with
    | error error =>
      rw [offered, resolved]
      exact .inl rfl
    | ok queueName =>
      refine .inr ⟨retryPayload job userId tenantId queueName, ?_, fun id custom => ?_⟩
      · rw [offered, resolved]
        exact Desk.submitted_accept staged env.now _
      · cases custom

end Handing
end OrchestrateModel
