import Mathlib.Algebra.Order.Ring.Nat
import Orchestrate.Concurrency.Entries
import Orchestrate.Workflow.Automaton

namespace OrchestrateModel

open Effect ChainService BaseProcessor

namespace Entry

/-- The attempts that BullMQ makes for a payload, at most. -/
def budget (entry : Entry) : Nat := max 1 entry.payload.retries

/-- The attempts that may still start. -/
def left (entry : Entry) : Nat :=
  match entry.stage with
  | .waiting => entry.budget - entry.attemptsMade
  | .running _ => entry.budget - (entry.attemptsMade + 1)
  | .ended | .stuck => 0

def runs (entry : Entry) : Nat :=
  match entry.stage with
  | .running _ => 1
  | .waiting | .ended | .stuck => 0

/-- An entry that waits or runs has not used up its attempts. -/
def Spare (entry : Entry) : Prop := entry.expected ≠ none → entry.attemptsMade < entry.budget

variable {entry : Entry}

/-- The end of an attempt. -/
theorem after_spends {attempt : Attempt} (running : entry.stage = .running attempt) (done : Outcome Err Unit) :
    (entry.after done).left ≤ entry.left ∧ (entry.after done).runs = 0 ∧ entry.runs = 1 ∧ (entry.after done).Spare := by
  have runs : entry.runs = 1 := by rw [Entry.runs, running]
  cases done with
  | ok value => exact ⟨Nat.zero_le _, rfl, runs, fun live => absurd rfl live⟩
  | hung => exact ⟨Nat.zero_le _, rfl, runs, fun live => absurd rfl live⟩
  | thrown error =>
    by_cases final : entry.Final
    · have ended : (entry.after (.thrown error)).stage = .ended := by simp [Entry.after, final]
      refine ⟨?_, ?_, runs, fun live => absurd ?_ live⟩
      · rw [Entry.left, ended]
        exact Nat.zero_le _
      · rw [Entry.runs, ended]
      · rw [Entry.expected, ended]
    · have again : (entry.after (.thrown error)).stage = .waiting := by simp [Entry.after, final]
      refine ⟨?_, ?_, runs, fun _ => ?_⟩
      · rw [Entry.left, Entry.left, again, running]
        exact Nat.le_refl _
      · rw [Entry.runs, again]
      · have more : entry.attemptsMade + 1 < entry.payload.retries := Nat.lt_of_not_le final
        exact Nat.lt_of_lt_of_le more (Nat.le_max_right _ _)

/-- The start of an attempt, or of one that is skipped. -/
theorem start_spends (spare : entry.Spare) (waiting : entry.stage = .waiting) {stage : Stage}
    (started : stage = .ended ∨ ∃ attempt, stage = .running attempt) :
    ({ entry with stage := stage } : Entry).left + 1 ≤ entry.left ∧ ({ entry with stage := stage } : Entry).runs ≤ 1 ∧
      ({ entry with stage := stage } : Entry).Spare := by
  have live : entry.expected ≠ none := by simp [Entry.expected, waiting]
  have below := spare live
  have before : entry.left = entry.budget - entry.attemptsMade := by rw [Entry.left, waiting]
  rcases started with rfl | ⟨attempt, rfl⟩
  · refine ⟨?_, Nat.zero_le _, fun live => absurd rfl live⟩
    show 0 + 1 ≤ entry.left
    omega
  · refine ⟨?_, Nat.le_refl _, fun _ => below⟩
    show entry.budget - (entry.attemptsMade + 1) + 1 ≤ entry.left
    omega

end Entry

namespace Desk

/-- The sum over the entries of a job. -/
def total (desk : Desk) (f : Entry → Nat) (x : JobId) : Nat :=
  (desk.entries.map fun entry => if entry.payload.jobId = x then f entry else 0).sum

variable {desk : Desk} {entry settled : Entry} {i : Nat} {x : JobId}

theorem sum_map_set {α : Type} (g : α → Nat) {list : List α} {old : α} (at_i : list[i]? = some old) (new : α) :
    ((list.set i new).map g).sum + g old = (list.map g).sum + g new := by
  induction list generalizing i with
  | nil => simp at at_i
  | cons first rest ih =>
    cases i with
    | zero =>
      obtain rfl := Option.some.inj at_i
      simp only [List.set_cons_zero, List.map_cons, List.sum_cons]
      omega
    | succ i =>
      have later := ih (i := i) at_i
      simp only [List.set_cons_succ, List.map_cons, List.sum_cons]
      omega

theorem total_setEntry (at_i : desk.entries[i]? = some entry) (own : settled.payload = entry.payload)
    (f : Entry → Nat) (x : JobId) :
    (desk.setEntry i settled).total f x + (if entry.payload.jobId = x then f entry else 0) =
      desk.total f x + if entry.payload.jobId = x then f settled else 0 := by
  have summed := sum_map_set (fun entry => if entry.payload.jobId = x then f entry else 0) at_i settled
  rwa [own] at summed

theorem total_append (desk : Desk) (rest : List Entry) (f : Entry → Nat) (x : JobId) :
    ({ desk with entries := desk.entries ++ rest } : Desk).total f x =
      desk.total f x + (rest.map fun entry => if entry.payload.jobId = x then f entry else 0).sum := by
  simp [total]

/-- Where all entries of a job have the same share. -/
theorem total_eq_mul (x : JobId) (f : Entry → Nat) (share : Nat)
    (same : ∀ entry ∈ desk.entries, entry.payload.jobId = x → f entry = share) :
    desk.total f x = desk.total (fun _ => 1) x * share := by
  unfold total
  generalize desk.entries = entries at same
  induction entries with
  | nil => simp
  | cons first rest ih =>
    have later := ih fun entry member => same entry (List.mem_cons_of_mem first member)
    simp only [List.map_cons, List.sum_cons, Nat.add_mul, later]
    by_cases own : first.payload.jobId = x
    · rw [if_pos own, if_pos own, same first List.mem_cons_self own, Nat.one_mul]
    · rw [if_neg own, if_neg own, Nat.zero_mul]

end Desk

/-- The attempts that BullMQ is told to make for a job, and the type of the job. -/
def Db.terms (db : Db) (x : JobId) : Option (Nat × String) := (db.job? x).map fun job => (job.retries, job.type)

def Db.SameTerms (db db' : Db) : Prop := ∀ x terms, db.terms x = some terms → db'.terms x = some terms

theorem Db.Kept.sameTerms {db db' : Db} (kept : Kept db db') : db.SameTerms db' := by
  intro x terms given
  have same : db'.terms x = db.terms x := kept.column (fun job => (job.retries, job.type)) (fun _ => rfl) x
  exact same.trans given

/-- What the attempts of each job have used up: an attempt that may start was paid for by a submission, and an attempt
    that ends has started. -/
structure Spent (starts finishes : JobId → Nat) (db : Db) (desk : Desk) : Prop where
  paid : ∀ entry ∈ desk.entries, db.terms entry.payload.jobId = some (entry.payload.retries, entry.payload.jobType)
  spare : ∀ entry ∈ desk.entries, entry.Spare
  begun : ∀ x, starts x + desk.total Entry.left x ≤ desk.total Entry.budget x
  ended : ∀ x, finishes x + desk.total Entry.runs x ≤ starts x
  placed : ∀ x, desk.total (fun _ => 1) x ≤ desk.submissions x

namespace Spent

variable {starts finishes : JobId → Nat} {db db' : Db} {desk : Desk} {entry settled : Entry} {i : Nat}

theorem rows (spent : Spent starts finishes db desk) (same : db.SameTerms db') : Spent starts finishes db' desk :=
  ⟨fun entry member => same _ _ (spent.paid entry member), spent.spare, spent.begun, spent.ended, spent.placed⟩

/-- An attempt of an entry starts or ends. -/
theorem settle (spent : Spent starts finishes db desk) (same : db.SameTerms db') (at_i : desk.entries[i]? = some entry)
    (own : settled.payload = entry.payload) (spare : settled.Spare) (start finish : Nat)
    (left : settled.left + start ≤ entry.left) (runs : settled.runs + finish ≤ entry.runs + start) :
    Spent (fun x => starts x + if entry.payload.jobId = x then start else 0)
      (fun x => finishes x + if entry.payload.jobId = x then finish else 0) db' (desk.setEntry i settled) := by
  have member : entry ∈ desk.entries := List.mem_of_getElem? at_i
  have budget : settled.budget = entry.budget := by rw [Entry.budget, own, Entry.budget]
  refine ⟨fun other listed => ?_, fun other listed => ?_, fun x => ?_, fun x => ?_, fun x => ?_⟩
  · rcases List.mem_or_eq_of_mem_set listed with old | rfl
    · exact same _ _ (spent.paid other old)
    · rw [own]
      exact same _ _ (spent.paid entry member)
  · rcases List.mem_or_eq_of_mem_set listed with old | rfl
    · exact spent.spare other old
    · exact spare
  · have before := spent.begun x
    have lefts := Desk.total_setEntry at_i own Entry.left x
    have budgets := Desk.total_setEntry at_i own Entry.budget x
    rw [budget] at budgets
    by_cases mine : entry.payload.jobId = x
    · simp only [if_pos mine] at lefts budgets ⊢
      omega
    · simp only [if_neg mine] at lefts budgets ⊢
      omega
  · have before := spent.ended x
    have running := Desk.total_setEntry at_i own Entry.runs x
    by_cases mine : entry.payload.jobId = x
    · simp only [if_pos mine] at running ⊢
      omega
    · simp only [if_neg mine] at running ⊢
      omega
  · have before := spent.placed x
    have counts := Desk.total_setEntry at_i own (fun _ => 1) x
    have submissions : (desk.setEntry i settled).submissions x = desk.submissions x := rfl
    omega

/-- A payload is submitted, and waits if it is taken. -/
theorem posted (spent : Spent starts finishes db desk) {payload : JobQueuePayload} {desk' : Desk}
    (row : db.terms payload.jobId = some (payload.retries, payload.jobType))
    (submitted : desk'.submitted = desk.submitted ++ [payload])
    (entries : desk'.entries = desk.entries ∨
      ∃ now, desk'.entries = desk.entries ++ [{ payload := payload, addedAt := now }]) :
    Spent starts finishes db desk' := by
  have submissions (x : JobId) : desk'.submissions x = desk.submissions x + if payload.jobId = x then 1 else 0 := by
    simp [Desk.submissions, submitted, List.countP_cons]
  rcases entries with same | ⟨now, more⟩
  · have totals (f : Entry → Nat) (x : JobId) : desk'.total f x = desk.total f x := by rw [Desk.total, same, Desk.total]
    refine ⟨fun entry member => spent.paid entry (same ▸ member), fun entry member => spent.spare entry (same ▸ member),
      fun x => ?_, fun x => ?_, fun x => ?_⟩
    · rw [totals, totals]
      exact spent.begun x
    · rw [totals]
      exact spent.ended x
    · rw [totals, submissions]
      exact Nat.le_add_right_of_le (spent.placed x)
  · let entry : Entry := { payload := payload, addedAt := now }
    have totals (f : Entry → Nat) (x : JobId) :
        desk'.total f x = desk.total f x + if payload.jobId = x then f entry else 0 := by
      have one := desk.total_append [entry] f x
      simp only [List.map_cons, List.map_nil, List.sum_cons, List.sum_nil, Nat.add_zero] at one
      rw [← one, Desk.total, Desk.total, more]
    have unused : entry.left = entry.budget := rfl
    refine ⟨fun other member => ?_, fun other member => ?_, fun x => ?_, fun x => ?_, fun x => ?_⟩
    · rw [more] at member
      rcases List.mem_append.mp member with old | new
      · exact spent.paid other old
      · rw [List.mem_singleton.mp new]
        exact row
    · rw [more] at member
      rcases List.mem_append.mp member with old | new
      · exact spent.spare other old
      · rw [List.mem_singleton.mp new]
        exact fun _ => Nat.lt_of_lt_of_le Nat.one_pos (Nat.le_max_left _ _)
    · have before := spent.begun x
      rw [totals, totals, unused]
      omega
    · have before := spent.ended x
      have waits : entry.runs = 0 := rfl
      rw [totals, waits]
      split <;> omega
    · have before := spent.placed x
      rw [totals, submissions]
      split <;> omega

theorem offered (spent : Spent starts finishes db desk) (staged : Bool) (now : Nat) {jobType : String}
    {payload : String → JobQueuePayload}
    (row : ∀ queueName, db.terms (payload queueName).jobId =
      some ((payload queueName).retries, (payload queueName).jobType)) :
    Spent starts finishes db (OrchestrateModel.offered (Desk.accept staged now) jobType payload desk) := by
  cases resolved : resolveQueueName jobType with
  | error error =>
    rw [OrchestrateModel.offered, resolved]
    exact spent
  | ok queueName =>
    rw [OrchestrateModel.offered, resolved]
    refine spent.posted (row queueName) (Desk.submitted_accept staged now _) ?_
    exact (Desk.entries_accept desk staged now _).imp id fun more => ⟨now, more⟩

theorem dispatched {env : Env} {staged : Bool} {workFlowId : WorkFlowId} {s s' : Workflows}
    (spent : Spent starts finishes s.db s.desk) (dispatched : Dispatched env staged workFlowId s s') :
    Spent starts finishes s'.db s'.desk := by
  cases dispatched with
  | none reason => exact spent
  | next job idle picked row ready =>
    have same := (Db.kept_updateJob s.db job.id { status := some .QUEUED }).sameTerms
    refine (spent.rows same).offered staged env.now fun queueName => same _ _ ?_
    rw [Db.terms, candidatePayload, row]
    rfl

end Spent

/-- The event starts an attempt of the job. -/
def WorkflowEvent.starts (x : JobId) (s : Workflows) : WorkflowEvent → Bool
  | .start _ i => s.desk.entries[i]?.any fun entry => entry.payload.jobId = x
  | .create .. | .finish .. | .retry .. => false

def WorkflowEvent.finishes (x : JobId) (s : Workflows) : WorkflowEvent → Bool
  | .finish _ _ i _ => s.desk.entries[i]?.any fun entry => entry.payload.jobId = x
  | .create .. | .start .. | .retry .. => false

/-- How many attempts of a job a run starts. -/
def starts (x : JobId) (visited : List (Workflows × WorkflowEvent)) : Nat := visited.countP fun v => v.2.starts x v.1

def finishes (x : JobId) (visited : List (Workflows × WorkflowEvent)) : Nat := visited.countP fun v => v.2.finishes x v.1

variable {s s' : Workflows} {event : WorkflowEvent} {visited : List (Workflows × WorkflowEvent)}

/-- The end of an attempt settles its entry, and schedules the next job. -/
theorem Sound.finish_after (sound : Sound s) {env : Env} {staged : Bool} {i : Nat} {outcome : Except Err (Option String)}
    (moved : s.step (.finish env staged i outcome) = some s') :
    ∃ entry attempt done workFlowId written handled, s.desk.entries[i]? = some entry ∧ entry.stage = .running attempt ∧
      Workflows.Settled env staged workFlowId s i (entry.after done) written handled s' := by
  obtain ⟨entry, queueName, attempt, at_i, stage, rfl⟩ := Workflows.finish_cases moved
  obtain ⟨standing, workflow, workFlowId, own⟩ := sound.running at_i stage
  cases outcome with
  | ok result =>
    obtain ⟨done, written, handled, _, settled, _⟩ := Workflows.end_ok sound.formed own workflow at_i result
    exact ⟨entry, attempt, done, workFlowId, written, handled, at_i, stage, settled⟩
  | error error =>
    obtain ⟨done, written, handled, _, settled, _⟩ := Workflows.end_error sound.formed own at_i error
    exact ⟨entry, attempt, done, workFlowId, written, handled, at_i, stage, settled⟩

/-- The step lemma. -/
theorem Spent.step {begun ended : JobId → Nat} (sound : Sound s) (spent : Spent begun ended s.db s.desk)
    (moved : s.step event = some s') :
    Spent (fun x => begun x + if event.starts x s then 1 else 0) (fun x => ended x + if event.finishes x s then 1 else 0)
      s'.db s'.desk := by
  cases event with
  | create env staged items userId tenantId =>
    have same {rows : List Job} {links : List JobDependency} {db : Db} (grown : Grown s.db s.db.drawn rows links db) :
        s.db.SameTerms db := by
      intro x terms given
      obtain ⟨job, row, same⟩ := Option.map_eq_some_iff.mp given
      rw [Db.terms, grown.job?_old sound.formed row]
      exact congrArg some same
    rcases Workflows.create_cases sound.formed moved with
      rfl | ⟨rows, links, db', grown, rfl⟩ | ⟨rows, links, db₁, grown, _, dispatched⟩
    · exact spent
    · exact spent.rows (same grown)
    · exact Spent.dispatched (s := { s with db := db₁ }) (spent.rows (same grown)) dispatched
  | start env i =>
    obtain ⟨entry, queueName, stage, at_i, waiting, desk, effect⟩ := Workflows.start_cases moved
    have again : s.db.SameTerms s'.db ∧ (stage = .ended ∨ ∃ attempt, stage = .running attempt) := by
      rcases effect with ⟨_, ended, db⟩ | ⟨attempt, db₁, running, _, same, marks⟩
      · rw [db]
        exact ⟨fun _ _ => id, .inl ended⟩
      · exact ⟨((same.toKept.trans (kept_marked db₁ _)).trans marks.toKept).sameTerms, .inr ⟨attempt, running⟩⟩
    have member : entry ∈ s.desk.entries := List.mem_of_getElem? at_i
    obtain ⟨left, runs, spare⟩ := Entry.start_spends (spent.spare entry member) waiting again.2
    let settled : Entry := { entry with stage := stage }
    have same : settled.payload = entry.payload := rfl
    have settled := spent.settle again.1 at_i same spare 1 0 left (Nat.le_add_left_of_le runs)
    rw [desk]
    simpa [WorkflowEvent.starts, WorkflowEvent.finishes, at_i] using settled
  | finish env staged i outcome =>
    obtain ⟨entry, attempt, done, workFlowId, written, handled, at_i, running, ends⟩ := sound.finish_after moved
    obtain ⟨left, runs, ran, spare⟩ := Entry.after_spends running done
    have same := (ends.writes.trans ends.handles).sameTerms
    have settled := spent.settle same at_i (Sound.after_payload entry done) spare 0 1 left
      (by rw [runs, ran])
    have next := Spent.dispatched (s := { db := handled, desk := s.desk.setEntry i (entry.after done) }) settled
      ends.schedules
    simpa [WorkflowEvent.starts, WorkflowEvent.finishes, at_i] using next
  | retry env staged jobId userId tenantId =>
    rcases Workflows.retry_cases moved with ⟨_, rfl⟩ | ⟨retries, db, job, row, desk⟩
    · exact spent
    · have same : s.db.SameTerms s'.db := by
        rw [db]
        exact (Db.kept_updateJob s.db jobId _).sameTerms
      rw [desk]
      refine (spent.rows same).offered staged env.now fun queueName => same _ _ ?_
      rw [Db.terms, retryPayload, Db.id_of_job? row, row]
      rfl

/-- An attempt of a run is one of a job that has a row. -/
def Attributed (visited : List (Workflows × WorkflowEvent)) (db : Db) : Prop :=
  ∀ v ∈ visited, v.2.isAttempt = true →
    ∃ x, db.job? x ≠ none ∧ (v.2.starts x v.1 = true ∨ v.2.finishes x v.1 = true)

theorem Spent.attributed {begun ended : JobId → Nat} (sound : Sound s) (spent : Spent begun ended s.db s.desk)
    (moved : s.step event = some s') (before : Attributed visited s.db) : Attributed (visited ++ [(s, event)]) s'.db := by
  have survives (x : JobId) (row : s.db.job? x ≠ none) : s'.db.job? x ≠ none := by
    obtain ⟨job, row⟩ := Option.ne_none_iff_exists'.mp row
    have standing : s.db.status x = some job.status := by rw [Db.status, row]; rfl
    obtain ⟨after, standing', _⟩ := sound.journey (sound.stepped moved) standing
    intro gone
    rw [Db.status, gone] at standing'
    cases standing'
  have owned {i : Nat} {entry : Entry} (at_i : s.desk.entries[i]? = some entry) :
      s'.db.job? entry.payload.jobId ≠ none := by
    apply survives
    intro gone
    have paid := spent.paid entry (List.mem_of_getElem? at_i)
    rw [Db.terms, gone] at paid
    cases paid
  intro v member attempt
  rcases List.mem_append.mp member with old | new
  · obtain ⟨x, row, own⟩ := before v old attempt
    exact ⟨x, survives x row, own⟩
  · obtain rfl := List.mem_singleton.mp new
    cases event with
    | create | retry => cases attempt
    | start env i =>
      obtain ⟨entry, queueName, stage, at_i, _⟩ := Workflows.start_cases moved
      exact ⟨entry.payload.jobId, owned at_i, .inl (by simp [WorkflowEvent.starts, at_i])⟩
    | finish env staged i outcome =>
      obtain ⟨entry, queueName, attempt, at_i, _⟩ := Workflows.finish_cases moved
      exact ⟨entry.payload.jobId, owned at_i, .inr (by simp [WorkflowEvent.finishes, at_i])⟩

/-- The run lemma. -/
theorem Spent.run (run : workflows.Run .empty visited s) :
    Sound s ∧ Attributed visited s.db ∧
      Spent (fun x => OrchestrateModel.starts x visited) (fun x => OrchestrateModel.finishes x visited) s.db s.desk := by
  induction run with
  | nil =>
    refine ⟨sound_empty, ?_, ?_, ?_, fun _ => Nat.le_refl _, fun _ => Nat.le_refl _, fun _ => Nat.le_refl _⟩
    · intro v member
      cases member
    · intro entry member
      cases member
    · intro entry member
      cases member
  | @snoc visited s₁ s₂ event earlier moved ih =>
    obtain ⟨sound, attributed, spent⟩ := ih
    have later := Spent.step sound spent moved
    simp only [OrchestrateModel.starts, OrchestrateModel.finishes, List.countP_append, List.countP_singleton]
    exact ⟨sound.step moved, spent.attributed sound moved attributed, later⟩

/-- Each attempt of a run is counted for its job. -/
theorem Attributed.attempts_le {db : Db} (attributed : Attributed visited db) :
    visited.countP (fun v => v.2.isAttempt) ≤
      (db.jobs.map fun job => starts job.id visited + finishes job.id visited).sum := by
  induction visited with
  | nil => exact Nat.zero_le _
  | cons v rest ih =>
    have later := ih fun w member => attributed w (List.mem_cons_of_mem v member)
    have split : (db.jobs.map fun job => starts job.id (v :: rest) + finishes job.id (v :: rest)).sum =
        (db.jobs.map fun job => starts job.id rest + finishes job.id rest).sum +
          (db.jobs.map fun job =>
            (if v.2.starts job.id v.1 then 1 else 0) + if v.2.finishes job.id v.1 then 1 else 0).sum := by
      rw [← List.sum_map_add]
      apply congrArg List.sum
      apply List.map_congr_left
      intro job _
      simp only [starts, finishes, List.countP_cons]
      omega
    rw [split, List.countP_cons]
    by_cases attempt : v.2.isAttempt = true
    · obtain ⟨x, row, own⟩ := attributed v List.mem_cons_self attempt
      obtain ⟨job, row⟩ := Option.ne_none_iff_exists'.mp row
      obtain rfl := Db.id_of_job? row
      have share : 1 ≤ (if v.2.starts job.id v.1 then 1 else 0) + if v.2.finishes job.id v.1 then 1 else 0 := by
        rcases own with own | own
        · rw [if_pos own]
          exact Nat.le_add_right _ _
        · rw [if_pos own]
          exact Nat.le_add_left _ _
      have one := List.single_le_sum (fun _ _ => Nat.zero_le _) _
        (List.mem_map_of_mem (f := fun job =>
          (if v.2.starts job.id v.1 then 1 else 0) + if v.2.finishes job.id v.1 then 1 else 0) (Db.mem_of_job? row))
      rw [if_pos attempt]
      omega
    · rw [if_neg attempt]
      omega

/-- In every run an attempt that ends has started, each job starts at most its `retries` attempts for its workflow
    and for each retry by hand that found it FAILED, so that a run without further requests ends. -/
theorem attempts_bounded (run : workflows.Run .empty visited s) :
    (∀ x job, s.db.job? x = some job → finishes x visited ≤ starts x visited ∧
      starts x visited ≤ (1 + requeues x visited) * max 1 job.retries) ∧
    visited.countP (fun v => v.2.isAttempt) ≤
      (s.db.jobs.map fun job => 2 * ((1 + requeues job.id visited) * max 1 job.retries)).sum := by
  obtain ⟨sound, attributed, spent⟩ := Spent.run run
  have handed := (Handed.run run).2
  have each (x : JobId) (job : Job) (row : s.db.job? x = some job) : finishes x visited ≤ starts x visited ∧
      starts x visited ≤ (1 + requeues x visited) * max 1 job.retries := by
    have budgets := Desk.total_eq_mul x Entry.budget (max 1 job.retries) fun entry member own => by
      have paid := spent.paid entry member
      rw [own, Db.terms, row] at paid
      rw [Entry.budget, ← (Prod.mk.inj (Option.some.inj paid)).1]
    have submissions : s.desk.submissions x ≤ 1 + requeues x visited := by
      by_cases named : s.db.Named x
      · rw [handed.named x named]
        split <;> omega
      · rw [handed.unnamed x named]
        exact Nat.zero_le _
    have begun := spent.begun x
    have ended := spent.ended x
    have placed := Nat.mul_le_mul_right (max 1 job.retries) ((spent.placed x).trans submissions)
    rw [budgets] at begun
    omega
  refine ⟨each, attributed.attempts_le.trans (List.sum_le_sum fun job member => ?_)⟩
  obtain ⟨finish, start⟩ := each job.id job (Db.job?_of_mem sound.formed.keyed member)
  omega

/-- Two attempts of four. -/
theorem attempts_bounded_retried : ∃ s job, workflows.exec .empty (pairRequest :: failedTwice) = some s ∧
    s.db.job? 1 = some job ∧ job.retries = 2 ∧
    starts 1 (workflows.trace .empty (pairRequest :: failedTwice)) ≤
      (1 + requeues 1 (workflows.trace .empty (pairRequest :: failedTwice))) * max 1 job.retries := by
  have first : (workflows.exec .empty (pairRequest :: failedTwice)).map (fun s => (s.db.job? 1).map (·.retries)) =
      some (some 2) := by decide +kernel
  obtain ⟨s, ended, same⟩ := Option.map_eq_some_iff.mp first
  obtain ⟨job, row, retries⟩ := Option.map_eq_some_iff.mp same
  exact ⟨s, job, ended, row, retries, ((attempts_bounded (Machine.run_of_exec ended)).1 1 job row).2⟩

end OrchestrateModel
