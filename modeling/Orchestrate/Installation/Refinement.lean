import Orchestrate.Installation.Coupling

namespace OrchestrateModel

open Effect Program BaseProcessor

/-- An installation stands where a state of the workflow system does. -/
structure Installation.Refines (s : Installation) (t : Workflows) : Prop where
  db : s.db = t.db
  stands : Stands s.duties s.store t.desk
  sound : Sound t
  supplied : Supplied t

/-- The step of the workflow system that a step of the installation comes to; an attempt is one of the same payload. -/
inductive Comes (s : Installation) (t : Workflows) : InstallationEvent → WorkflowEvent → Prop where
  | create (env : Env) (staged : Bool) (items : List WorkFlowItem) (userId : UserId) (tenantId : TenantId) :
    Comes s t (.create env items userId tenantId) (.create env staged items userId tenantId)
  | retry (env : Env) (staged : Bool) (jobId : JobId) (userId : UserId) (tenantId : TenantId) :
    Comes s t (.retry env jobId userId tenantId) (.retry env staged jobId userId tenantId)
  | start (env : Env) (i j : Nat) (job : QueuedJob) (entry : Entry) (at_i : s.store.queued[i]? = some job)
    (at_j : t.desk.entries[j]? = some entry) (same : entry.untimed = (job.entry (s.duties i)).untimed) :
    Comes s t (.start env i) (.start env j)
  | finish (env : Env) (staged : Bool) (i j : Nat) (job : QueuedJob) (entry : Entry) (outcome : Except Err (Option String))
    (at_i : s.store.queued[i]? = some job) (at_j : t.desk.entries[j]? = some entry)
    (same : entry.untimed = (job.entry (s.duties i)).untimed) :
    Comes s t (.finish env i outcome) (.finish env staged j outcome)

section Steps

variable {s s' : Installation} {t : Workflows} {env : Env} {i j : Nat} {job job' : QueuedJob} {entry entry' : Entry}
  {duty duty' : Option Duty} {outcome : Except Err (Option String)}

theorem run_onServices_store {α : Type} (program : ServiceProgram α) (s : Db × Store) :
    (onServices program).run (Store.work env outcome) s = program.run (serve env Store.submitJob) s := by
  induction program generalizing s with
  | done value => rfl
  | throws error => rfl
  | hangs => rfl
  | call c next ih => exact ih _ _

/-- What a job and its entry share, but for times. -/
theorem QueuedJob.Formed.entry_job (formed : job.Formed) (same : entry.untimed = (job.entry duty).untimed) :
    getQueueName entry.payload.jobType = some job.run.queueName ∧
      entry.job job.run.queueName = { job.run with timestamp := entry.addedAt } ∧
      entry.stage.untimed = (job.stage duty).untimed := by
  have payload : entry.payload = job.run.data := congrArg Entry.payload same
  have made : entry.attemptsMade = job.run.attemptsMade := congrArg Entry.attemptsMade same
  refine ⟨by rw [payload, formed.queue], ?_, congrArg Entry.stage same⟩
  rw [Entry.job, payload, made, ← formed.options]

theorem Stage.waiting_of_untimed {stage : Stage} (same : stage.untimed = .waiting) : stage = .waiting := by
  cases stage <;> first | rfl | cases same

theorem Stage.running_of_untimed {stage : Stage} {attempt : Attempt} (same : stage.untimed = (Stage.running attempt).untimed) :
    ∃ attempt', stage = .running attempt' ∧ attempt'.untimed = attempt.untimed := by
  cases stage with
  | running attempt' => exact ⟨attempt', rfl, Stage.running.inj same⟩
  | waiting | ended | stuck => cases same

/-- A request does to the workflow system what it does to the installation. -/
theorem Installation.Refines.request {α : Type} (refines : s.Refines t) (program : ServiceProgram α)
    (event : Bool → WorkflowEvent) (steps : ∀ staged, t.step (event staged) = some (t.request env staged program)) :
    ∃ staged, (s.request env program).Refines (t.request env staged program) := by
  have tied : Tied s.duties [] [] (s.db, s.store) (t.db, t.desk) :=
    ⟨refines.db, refines.stands, List.nil_prefix, List.nil_prefix⟩
  obtain ⟨staged, _, tied⟩ := tied.coupled env (.ok none) (onServices program) fun staged => by
    rw [run_onServices]
    exact refines.sound.handedOne refines.supplied (steps staged)
  rw [run_onServices_store, run_onServices] at tied
  exact ⟨staged, tied.db, tied.stands, refines.sound.step (steps staged), refines.supplied.step refines.sound (steps staged)⟩

/-- What an attempt of a job has left of the store, and of the desk, with the job and its entry moved on. -/
theorem Tied.settle {db db' : Db} {st st' : Store} {desk desk' : Desk} {duties : Nat → Option Duty}
    (tied : Tied duties st.queued desk.entries (db, st') (db', desk')) (at_i : st.queued[i]? = some job)
    (at_j : desk.entries[j]? = some entry) (same : entry.untimed = (job.entry (duties i)).untimed)
    (own : entry'.payload = entry.payload) (data : job'.run.data = job.run.data)
    (made : entry'.attemptsMade = job'.run.attemptsMade) (stages : entry'.stage.untimed = (job'.stage duty').untimed)
    (formed : job'.Formed) (busy : duty' ≠ none → job'.state = .active) :
    Stands (Function.update duties i duty') { st' with queued := st'.queued.set i job' } (desk'.setEntry j entry') := by
  have payload : entry.payload = job.run.data := congrArg Entry.payload same
  have same' : entry'.untimed = (job'.entry duty').untimed := by
    rw [Entry.untimed, own, payload, made, stages, ← data]
    rfl
  exact tied.stands.settle (tied.job at_i) (tied.entry at_j) same same' own formed busy

theorem QueuedJob.Formed.failed (formed : job.Formed) : job.failed.Formed := ⟨formed.options, formed.queue⟩

/-- BullMQ ends a failed job when the desk ends its entry. -/
theorem QueuedJob.Formed.stage_failed (formed : job.Formed) (same : entry.untimed = (job.entry duty).untimed) :
    job.failed.stage none = if entry.Final then .ended else .waiting := by
  have payload : entry.payload = job.run.data := congrArg Entry.payload same
  have made : entry.attemptsMade = job.run.attemptsMade := congrArg Entry.attemptsMade same
  have final : entry.Final ↔ job.run.opts.attempts ≤ job.run.attemptsMade + 1 := by
    rw [Entry.Final, payload, made, formed.options]
    rfl
  by_cases last : entry.Final
  · have ended : job.failed.state = .failed := by simp [QueuedJob.failed, final.mp last]
    rw [if_pos last, QueuedJob.stage, ended]
  · have more : ¬ job.run.opts.attempts ≤ job.run.attemptsMade + 1 := fun ends => last (final.mpr ends)
    have retried : job.failed.state = .delayed := by rw [QueuedJob.failed, if_neg more]
    rw [if_neg last, QueuedJob.stage, retried]

theorem QueuedJob.set_self {st : Store} (at_i : st.queued[i]? = some job) : { st with queued := st.queued.set i job } = st := by
  obtain ⟨bound, here⟩ := List.getElem?_eq_some_iff.mp at_i
  rw [← here, List.set_getElem_self]

/-- The start of an attempt. -/
theorem Installation.Refines.start (refines : s.Refines t) (at_i : s.store.queued[i]? = some job) (active : job.state = .active)
    (idle : s.duties i = none) : ∃ event t', t.step event = some t' ∧ Comes s t (.start env i) event ∧
      (s.begin_ env i job).Refines t' := by
  obtain ⟨j, entry, at_j, same⟩ := refines.stands.find at_i
  have formed := refines.stands.formed job (List.mem_of_getElem? at_i)
  obtain ⟨placed, run, stages⟩ := formed.entry_job same
  have waiting : entry.stage = .waiting := by
    apply Stage.waiting_of_untimed
    rw [stages, QueuedJob.stage_active active, idle]
    rfl
  have moved : t.step (.start env j) = some (t.begin_ env j entry job.run.queueName) := by
    simp [Workflows.step, at_j, placed, waiting]
  have sound := refines.sound.step moved
  have supplied := refines.supplied.step refines.sound moved
  have made : entry.attemptsMade = job.run.attemptsMade := congrArg Entry.attemptsMade same
  refine ⟨.start env j, _, moved, .start env i j job entry at_i at_j same, ?_⟩
  have tied : Tied s.duties s.store.queued t.desk.entries (s.db, s.store) (t.db, t.desk) :=
    ⟨refines.db, refines.stands, List.prefix_rfl, List.prefix_rfl⟩
  have untimed := run_beginAttempt_untimed env (Desk.accept false env.now) (.ok none) job.run entry.addedAt (t.db, t.desk)
  rw [← run] at untimed
  have begins := run_beginAttempt env (Desk.accept false env.now) t.db t.desk (.ok none) job.run
  have silent : ((beginAttempt job.run).run (work env (Desk.accept false env.now) (.ok none)) (t.db, t.desk)).2.2.submitted =
      t.desk.submitted := by
    rcases begins with ⟨_, ran⟩ | ⟨_, attempt, db₁, db', ran, _⟩
    · rw [ran]
    · rw [ran]
  obtain ⟨ends, tied⟩ := tied.coupled_silent env false (.ok none) (beginAttempt job.run) silent
  cases ran : (beginAttempt job.run).run (Store.work env (.ok none)) (s.db, s.store) with
  | mk begun left =>
    obtain ⟨db, st⟩ := left
    rw [ran] at ends tied
    cases ran' : (beginAttempt (entry.job job.run.queueName)).run (work env (Desk.accept false env.now) (.ok none)) (t.db, t.desk) with
    | mk begun' left' =>
      obtain ⟨db', desk⟩ := left'
      rw [ran'] at untimed
      obtain ⟨ends', left⟩ := untimed
      rw [← left] at tied
      rcases begins with ⟨_, begins⟩ | ⟨_, attempt, db₁, db₂, begins, _⟩
      · rw [begins] at ends ends'
        obtain rfl : begun = .ok none := ends
        obtain rfl : begun' = .ok none := by
          cases begun' with
          | ok value => cases value <;> first | rfl | cases ends'
          | thrown error => cases ends'
          | hung => cases ends'
        have inst : s.begin_ env i job =
            { s with db := db, store := { st with queued := st.queued.set i { job with state := .completed } } } := by
          simp [Installation.begin_, ran, Installation.setJob]
        have flow : t.begin_ env j entry job.run.queueName =
            { db := db', desk := desk.setEntry j { entry with stage := .ended } } := by
          simp [Workflows.begin_, ran']
        rw [flow] at sound supplied ⊢
        rw [inst]
        obtain rfl : db = db' := tied.db
        have stands : Stands (Function.update s.duties i none)
            { st with queued := st.queued.set i { job with state := .completed } }
            (desk.setEntry j { entry with stage := .ended }) :=
          tied.settle at_i at_j same rfl rfl made rfl ⟨formed.options, formed.queue⟩ fun given => absurd rfl given
        rw [Function.update_eq_self_iff.mpr idle.symm] at stands
        exact ⟨rfl, stands, sound, supplied⟩
      · rw [begins] at ends ends'
        obtain rfl : begun = .ok (some attempt) := ends
        obtain ⟨attempt', rfl, alike⟩ : ∃ attempt', begun' = .ok (some attempt') ∧ attempt'.untimed = attempt.untimed := by
          cases begun' with
          | ok value =>
            cases value with
            | none => cases ends'
            | some attempt' => exact ⟨attempt', rfl, Option.some.inj (Outcome.ok.inj ends')⟩
          | thrown error => cases ends'
          | hung => cases ends'
        have inst : s.begin_ env i job =
            { db := db, store := st, duties := Function.update s.duties i (some (.attempt attempt)) } := by
          simp [Installation.begin_, ran, Installation.setDuty]
        have flow : t.begin_ env j entry job.run.queueName =
            { db := db', desk := desk.setEntry j { entry with stage := .running attempt' } } := by
          simp [Workflows.begin_, ran']
        rw [flow] at sound supplied ⊢
        rw [inst]
        obtain rfl : db = db' := tied.db
        have stands : Stands (Function.update s.duties i (some (.attempt attempt)))
            { st with queued := st.queued.set i job } (desk.setEntry j { entry with stage := .running attempt' }) := by
          refine tied.settle at_i at_j same rfl rfl made ?_ formed fun _ => active
          rw [QueuedJob.stage_active active]
          exact congrArg Stage.running alike
        rw [QueuedJob.set_self (tied.job at_i)] at stands
        exact ⟨rfl, stands, sound, supplied⟩

/-- What follows the `process` of an attempt. -/
theorem Installation.Refines.finish (refines : s.Refines t) {attempt : Attempt} (at_i : s.store.queued[i]? = some job)
    (duty_i : s.duties i = some (.attempt attempt)) : ∃ event t', t.step event = some t' ∧
      Comes s t (.finish env i outcome) event ∧ (s.end_ env i job attempt outcome).Refines t' := by
  obtain ⟨job', at_i', active⟩ := refines.stands.busy i (by simp [duty_i])
  obtain rfl := Option.some.inj (at_i.symm.trans at_i')
  obtain ⟨j, entry, at_j, same⟩ := refines.stands.find at_i
  have formed := refines.stands.formed job (List.mem_of_getElem? at_i)
  obtain ⟨placed, run, stages⟩ := formed.entry_job same
  have made : entry.attemptsMade = job.run.attemptsMade := congrArg Entry.attemptsMade same
  rw [QueuedJob.stage_active active, duty_i] at stages
  obtain ⟨attempt', running, alike⟩ := Stage.running_of_untimed stages
  have moved (staged : Bool) : t.step (.finish env staged j outcome) =
      some (t.end_ env staged j entry job.run.queueName attempt' outcome) := by
    simp [Workflows.step, at_j, placed, running]
  have untimed (staged : Bool) :
      (afterProcess (entry.job job.run.queueName) attempt' outcome).run (work env (Desk.accept staged env.now) outcome)
          (t.db, t.desk) =
        (afterProcess job.run attempt outcome).run (work env (Desk.accept staged env.now) outcome) (t.db, t.desk) := by
    rw [run]
    exact run_afterProcess_untimed job.run entry.addedAt alike (t.db, t.desk)
  have tied : Tied s.duties s.store.queued t.desk.entries (s.db, s.store) (t.db, t.desk) :=
    ⟨refines.db, refines.stands, List.prefix_rfl, List.prefix_rfl⟩
  obtain ⟨staged, ends, tied⟩ := tied.coupled env outcome (afterProcess job.run attempt outcome) fun staged => by
    rw [← untimed]
    exact refines.sound.handedOne refines.supplied (moved staged)
  refine ⟨.finish env staged j outcome, _, moved staged, .finish env staged i j job entry outcome at_i at_j same, ?_⟩
  have sound := refines.sound.step (moved staged)
  have supplied := refines.supplied.step refines.sound (moved staged)
  rw [← untimed] at ends tied
  cases ran : (afterProcess job.run attempt outcome).run (Store.work env outcome) (s.db, s.store) with
  | mk done left =>
    obtain ⟨db, st⟩ := left
    rw [ran] at ends tied
    cases ran' : (afterProcess (entry.job job.run.queueName) attempt' outcome).run
        (work env (Desk.accept staged env.now) outcome) (t.db, t.desk) with
    | mk done' left' =>
      obtain ⟨db', desk⟩ := left'
      rw [ran'] at ends tied
      obtain rfl : done = done' := ends
      obtain rfl : db = db' := tied.db
      have flow : t.end_ env staged j entry job.run.queueName attempt' outcome =
          { db := db, desk := desk.setEntry j (entry.after done) } := by
        simp [Workflows.end_, ran']
      rw [flow] at sound supplied ⊢
      cases done with
      | ok value =>
        have inst : s.end_ env i job attempt outcome =
            { db := db, store := { st with queued := st.queued.set i { job with state := .completed } },
              duties := Function.update s.duties i none } := by
          simp [Installation.end_, ran, Installation.setJob, Installation.setDuty]
        rw [inst]
        refine ⟨rfl, ?_, sound, supplied⟩
        exact tied.settle at_i at_j same rfl rfl made rfl ⟨formed.options, formed.queue⟩ fun given => absurd rfl given
      | thrown error =>
        have inst : s.end_ env i job attempt outcome =
            { db := db, store := { st with queued := st.queued.set i job.failed }, duties := Function.update s.duties i none } := by
          simp [Installation.end_, ran, Installation.setJob, Installation.setDuty]
        rw [inst]
        refine ⟨rfl, ?_, sound, supplied⟩
        refine tied.settle at_i at_j same rfl rfl (congrArg (· + 1) made) ?_ formed.failed fun given => absurd rfl given
        rw [formed.stage_failed same, Entry.after]
      | hung =>
        have inst : s.end_ env i job attempt outcome =
            { db := db, store := st, duties := Function.update s.duties i (some .endless) } := by
          simp [Installation.end_, ran, Installation.setDuty]
        rw [inst]
        have stands : Stands (Function.update s.duties i (some .endless)) { st with queued := st.queued.set i job }
            (desk.setEntry j (entry.after .hung)) := by
          refine tied.settle at_i at_j same rfl rfl made ?_ formed fun _ => active
          rw [QueuedJob.stage_active active]
          rfl
        rw [QueuedJob.set_self (tied.job at_i)] at stands
        exact ⟨rfl, stands, sound, supplied⟩

/-- The workflow system does not see BullMQ and Redis move on. -/
theorem Installation.Refines.internal {e : InstallationEvent} (refines : s.Refines t) (inside : e.internal = true)
    (moved : installation.step s e = some s') : s'.Refines t := by
  have idle {i : Nat} {job : QueuedJob} (at_i : s.store.queued[i]? = some job) (inactive : job.state ≠ .active) :
      s.duties i = none := by
    by_contra duty
    obtain ⟨job', at_i', active⟩ := refines.stands.busy i duty
    obtain rfl := Option.some.inj (at_i.symm.trans at_i')
    exact inactive active
  have shift {i : Nat} {job : QueuedJob} (at_i : s.store.queued[i]? = some job) (inactive : job.state ≠ .active)
      (state : BullState) (waits : QueuedJob.stage { job with state := state } none = job.stage none) :
      (s.setJob i { job with state := state }).Refines t := by
    have formed := refines.stands.formed job (List.mem_of_getElem? at_i)
    have alike : (QueuedJob.entry { job with state := state } none).untimed = (job.entry none).untimed := by
      rw [QueuedJob.entry, waits]
      rfl
    have stands := refines.stands.promote at_i (idle at_i inactive) alike ⟨formed.options, formed.queue⟩
    exact ⟨refines.db, stands, refines.sound, refines.supplied⟩
  cases e with
  | create | retry | start | finish => cases inside
  | promote i =>
    obtain ⟨job, at_i, moves⟩ := Option.bind_eq_some_iff.mp moved
    split at moves
    · rename_i delayed
      obtain rfl := Option.some.inj moves
      refine shift at_i (by simp [delayed]) _ ?_
      unfold QueuedJob.stage BullMQ.ready
      rw [delayed]
      by_cases ranked : job.run.opts.priority > 0 <;> simp [ranked]
    · cases moves
  | take i =>
    obtain ⟨job, at_i, moves⟩ := Option.bind_eq_some_iff.mp moved
    split at moves
    · rename_i waits
      obtain rfl := Option.some.inj moves
      rcases waits with waits | waits
      · exact shift at_i (by simp [waits]) _ (by rw [QueuedJob.stage, QueuedJob.stage, waits]; rfl)
      · exact shift at_i (by simp [waits]) _ (by rw [QueuedJob.stage, QueuedJob.stage, waits]; rfl)
    · cases moves
  | wait duration =>
    obtain rfl := Option.some.inj moved
    exact ⟨refines.db, refines.stands.of_store rfl rfl, refines.sound, refines.supplied⟩
  | expire key =>
    obtain ⟨redis, expired, rfl⟩ := Option.map_eq_some_iff.mp moved
    have lists : redis.lists = s.store.redis.lists := by rw [Redis.expireKey_eq_some expired]
    exact ⟨refines.db, refines.stands.of_store lists rfl, refines.sound, refines.supplied⟩

/-- Any other step is one of the workflow system. -/
theorem Installation.Refines.visible {e : InstallationEvent} (refines : s.Refines t) (outside : e.internal = false)
    (moved : installation.step s e = some s') :
    ∃ event t', workflows.step t event = some t' ∧ Comes s t e event ∧ s'.Refines t' := by
  cases e with
  | promote | take | wait | expire => cases outside
  | create env items userId tenantId =>
    obtain rfl := Option.some.inj moved
    obtain ⟨staged, next⟩ := refines.request (ChainService.createWorkFlow items userId tenantId)
      (fun staged => .create env staged items userId tenantId) fun _ => rfl
    exact ⟨_, _, rfl, .create env staged items userId tenantId, next⟩
  | retry env jobId userId tenantId =>
    obtain rfl := Option.some.inj moved
    obtain ⟨staged, next⟩ := refines.request (JobsService.retryFailedJob jobId userId tenantId)
      (fun staged => .retry env staged jobId userId tenantId) fun _ => rfl
    exact ⟨_, _, rfl, .retry env staged jobId userId tenantId, next⟩
  | start env i =>
    obtain ⟨job, at_i, begins⟩ := Option.bind_eq_some_iff.mp moved
    split at begins
    · rename_i active idle
      obtain rfl := Option.some.inj begins
      exact refines.start at_i active idle
    · cases begins
  | finish env i outcome =>
    obtain ⟨job, at_i, ends⟩ := Option.bind_eq_some_iff.mp moved
    split at ends
    · rename_i attempt duty
      obtain rfl := Option.some.inj ends
      exact refines.finish at_i duty
    · cases ends

theorem Installation.refines_empty : Installation.empty.Refines .empty where
  db := rfl
  stands :=
    { held := ⟨0, fun _ => rfl, rfl⟩
      formed := fun _ member => absurd member List.not_mem_nil
      busy := fun _ duty => absurd rfl duty
      issued := rfl
      distinct := List.nodup_nil }
  sound := sound_empty
  supplied := .empty

end Steps

theorem Installation.Refines.run {visited : List (Installation × InstallationEvent)} {s : Installation}
    (run : installation.Run .empty visited s) :
    ∃ visited' t, workflows.Run .empty visited' t ∧ s.Refines t ∧
      List.Forall₂ (fun v w => Comes v.1 w.1 v.2 w.2) (visited.filter fun v => !v.2.internal) visited' :=
  Machine.Run.refines run Installation.refines_empty (fun _ _ _ _ refines moved inside => refines.internal inside moved)
    fun _ _ _ _ refines moved outside => refines.visible outside moved

/-- Every run of the tables, Redis, BullMQ and the workers is one of the workflow system, apart from the steps that BullMQ
    and Redis take on their own; the tables are the same, and the entries are what the queues and staging lists hold. -/
theorem installation_refines {visited : List (Installation × InstallationEvent)} {s : Installation}
    (run : installation.Run .empty visited s) :
    ∃ visited' t, workflows.Run .empty visited' t ∧ s.db = t.db ∧ Stands s.duties s.store t.desk ∧
      List.Forall₂ (fun v w => Comes v.1 w.1 v.2 w.2) (visited.filter fun v => !v.2.internal) visited' := by
  obtain ⟨visited', t, run', refines, pairs⟩ := Installation.Refines.run run
  exact ⟨visited', t, run', refines.db, refines.stands, pairs⟩

/-- A workflow of two jobs, the first of which a worker takes and fails once. -/
def pairTaken : List InstallationEvent :=
  [.create .plain
      [{ key := "a", type := "send_email", retries := some 2 },
        { key := "b", type := "send_email", dependsOn := some (.one "a") }] "user" "tenant",
    .take 0, .start .plain 0, .finish .plain 0 (.error { message := "bounced" })]

theorem installation_refines_pair : ∃ s, installation.exec .empty pairTaken = some s ∧
    ∃ visited' t, workflows.Run .empty visited' t ∧ s.db = t.db ∧ Stands s.duties s.store t.desk ∧
      List.Forall₂ (fun v w => Comes v.1 w.1 v.2 w.2)
        ((installation.trace .empty pairTaken).filter fun v => !v.2.internal) visited' := by
  have done : (installation.exec .empty pairTaken).isSome = true := by decide +kernel
  obtain ⟨s, ran⟩ := Option.isSome_iff_exists.mp done
  exact ⟨s, ran, installation_refines (Machine.run_of_exec ran)⟩

end OrchestrateModel
