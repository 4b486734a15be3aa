import Orchestrate.Installation.Refinement

namespace OrchestrateModel

open Effect Program

def Duty.hangs : Option Duty → Bool
  | some .endless => true
  | some (.attempt _) | none => false

namespace Installation

/-- A queue holds the job unfinished, and no worker hangs in it. -/
def Due (s : Installation) (x : JobId) (i : Nat) (job : QueuedJob) : Prop :=
  job.run.data.jobId = x ∧ job.state.inflight = true ∧ Duty.hangs (s.duties i) = false

instance (s : Installation) (x : JobId) (i : Nat) (job : QueuedJob) : Decidable (s.Due x i job) :=
  inferInstanceAs (Decidable (_ ∧ _))

/-- How many jobs of the queues are due for a row. -/
def due (s : Installation) (x : JobId) : Nat := (s.store.queued.mapIdx fun i job => decide (s.Due x i job)).count true

/-- The status that a job of a queue finds its row in. -/
def marked (s : Installation) (i : Nat) (job : QueuedJob) : JobStatus :=
  if (s.duties i).isSome ∨ job.run.attemptsMade ≠ 0 then .PROCESSING else .QUEUED

end Installation

def Entry.due (x : JobId) (entry : Entry) : Bool := entry.payload.jobId = x && entry.expected.isSome

theorem Entry.expected_untimed (entry : Entry) : entry.untimed.expected = entry.expected := by
  obtain ⟨payload, attemptsMade, stage, addedAt⟩ := entry
  cases stage <;> rfl

theorem Entry.due_untimed (x : JobId) (entry : Entry) : entry.untimed.due x = entry.due x := by
  rw [due, due, expected_untimed]
  rfl

/-- A kind of element that occurs in one place at most. -/
theorem countP_le_one {α : Type} {p : α → Bool} {list : List α}
    (apart : ∀ (i k : Nat) (a b : α), list[i]? = some a → list[k]? = some b → p a = true → p b = true → i = k) :
    list.countP p ≤ 1 := by
  induction list with
  | nil => simp
  | cons head tail ih =>
    have rest : tail.countP p ≤ 1 := ih fun i k a b at_i at_k first second => by
      have same := apart (i + 1) (k + 1) a b (by simpa using at_i) (by simpa using at_k) first second
      omega
    cases own : p head with
    | false => rwa [List.countP_cons_of_neg (by simp [own])]
    | true =>
      have none : tail.countP p = 0 := by
        rw [List.countP_eq_zero]
        intro b member second
        obtain ⟨k, at_k⟩ := List.getElem?_of_mem member
        have same := apart 0 (k + 1) head b (by simp) (by simpa using at_k) own second
        omega
      rw [List.countP_cons_of_pos own, none]

namespace Installation.Refines

variable {s : Installation} {t : Workflows} {x : JobId} {i : Nat} {job : QueuedJob}

/-- What the desk expects of a job of a queue. -/
theorem expected (refines : s.Refines t) (at_i : s.store.queued[i]? = some job) :
    (job.entry (s.duties i)).expected =
      if job.state.inflight = true ∧ Duty.hangs (s.duties i) = false then some (s.marked i job) else none := by
  have busy (duty : s.duties i ≠ none) : job.state = .active := by
    obtain ⟨job', at_i', active⟩ := refines.stands.busy i duty
    obtain rfl := Option.some.inj (at_i.symm.trans at_i')
    exact active
  unfold Installation.marked QueuedJob.entry Entry.expected QueuedJob.stage
  cases duty_i : s.duties i with
  | none => cases job.state <;> simp [Duty.stage, BullState.inflight, Duty.hangs]
  | some duty =>
    rw [busy (by simp [duty_i])]
    cases duty <;> simp [Duty.stage, BullState.inflight, Duty.hangs]

theorem due_eq (refines : s.Refines t) (x : JobId) : s.due x = (s.store.entries s.duties).countP (Entry.due x) := by
  have same : (s.store.queued.mapIdx fun i job => decide (s.Due x i job)) =
      (s.store.entries s.duties).map (Entry.due x) := by
    apply List.ext_getElem?
    intro i
    rw [Store.entries, List.getElem?_map, List.getElem?_mapIdx, List.getElem?_mapIdx]
    cases at_i : s.store.queued[i]? with
    | none => rfl
    | some job =>
      simp only [Option.map_some, Entry.due_untimed]
      rw [Entry.due, refines.expected at_i]
      by_cases live : job.state.inflight = true ∧ Duty.hangs (s.duties i) = false
      · rw [if_pos live, Option.some_inj, Bool.eq_iff_iff]
        simp only [Installation.Due, QueuedJob.entry, live, and_self, and_true, decide_eq_true_eq, Option.isSome_some, Bool.and_true]
        exact decide_eq_true_iff.symm
      · rw [if_neg live]
        have not_ : ¬ s.Due x i job := fun due => live due.2
        simp [not_]
  rw [Installation.due, same, List.count, List.countP_map]
  congr 1
  funext entry
  simp

/-- What the desk holds for a row, BullMQ and the staging lists hold between them. -/
theorem held_once (refines : s.Refines t) {parked : Multiset JobQueuePayload}
    (held : (↑(t.desk.entries.map Entry.untimed) : Multiset Entry) =
      ↑(s.store.entries s.duties) + parked.map JobQueuePayload.entry) (x : JobId) :
    s.due x + parked.countP (fun payload => payload.jobId = x) ≤ 1 := by
  have once : t.desk.entries.countP (Entry.due x) ≤ 1 := by
    apply countP_le_one
    intro i k a b at_i at_k first second
    simp only [Entry.due, Bool.and_eq_true, decide_eq_true_eq] at first second
    exact refines.sound.backed.apart i k a b at_i at_k (Option.isSome_iff_ne_none.mp first.2)
      (Option.isSome_iff_ne_none.mp second.2) (first.1.trans second.1.symm)
  have counts := congrArg (Multiset.countP fun entry => entry.due x = true) held
  have staged : (parked.map JobQueuePayload.entry).countP (fun entry => entry.due x = true) =
      parked.countP fun payload => payload.jobId = x := by
    rw [Multiset.countP_map, ← Multiset.countP_eq_card_filter]
    congr 1
    funext payload
    simp only [Entry.due, JobQueuePayload.entry, Entry.expected, Option.isSome_some, Bool.and_true]
    exact propext decide_eq_true_iff
  rw [Multiset.countP_add, Multiset.coe_countP, Multiset.coe_countP, List.countP_map, staged] at counts
  have desks : t.desk.entries.countP ((fun entry => decide (entry.due x = true)) ∘ Entry.untimed) =
      t.desk.entries.countP (Entry.due x) := by
    congr 1
    funext entry
    simp [Entry.due_untimed]
  have queues : (s.store.entries s.duties).countP (fun entry => decide (entry.due x = true)) = s.due x := by
    rw [refines.due_eq]
    congr 1
    funext entry
    simp
  omega

/-- The row of a staged payload. -/
theorem staged_queued (refines : s.Refines t) {parked : Multiset JobQueuePayload}
    (held : (↑(t.desk.entries.map Entry.untimed) : Multiset Entry) =
      ↑(s.store.entries s.duties) + parked.map JobQueuePayload.entry) {payload : JobQueuePayload} (waits : payload ∈ parked) :
    s.db.status payload.jobId = some .QUEUED := by
  have listed : payload.entry ∈ (↑(t.desk.entries.map Entry.untimed) : Multiset Entry) := by
    rw [held]
    exact Multiset.mem_add.mpr (.inr (Multiset.mem_map_of_mem _ waits))
  obtain ⟨entry, member, same⟩ := List.mem_map.mp (Multiset.mem_coe.mp listed)
  obtain ⟨i, at_i⟩ := List.getElem?_of_mem member
  have expected : entry.expected = some .QUEUED := by
    rw [← Entry.expected_untimed, same]
    rfl
  have own : entry.payload = payload := congrArg Entry.payload same
  have standing := refines.sound.backed.standing i entry .QUEUED at_i expected
  rwa [own, ← refines.db] at standing

/-- The row of a job that is due. -/
theorem due_marked (refines : s.Refines t) (at_i : s.store.queued[i]? = some job) (due : s.Due x i job) :
    s.db.status x = some (s.marked i job) := by
  obtain ⟨rfl, live⟩ := due
  obtain ⟨j, entry, at_j, same⟩ := refines.stands.find at_i
  have expected : entry.expected = some (s.marked i job) := by
    rw [← Entry.expected_untimed, same, Entry.expected_untimed, refines.expected at_i, if_pos live]
  have own : entry.payload = job.run.data := congrArg Entry.payload same
  have standing := refines.sound.backed.standing j entry _ at_j expected
  rwa [own, ← refines.db] at standing

/-- A row that is QUEUED or PROCESSING has a job in a queue, or a staged payload. -/
theorem busy_held (refines : s.Refines t) {parked : Multiset JobQueuePayload}
    (held : (↑(t.desk.entries.map Entry.untimed) : Multiset Entry) =
      ↑(s.store.entries s.duties) + parked.map JobQueuePayload.entry) (placeable : s.db.Placeable x) (busy : s.db.Busy x) :
    (∃ job ∈ s.store.queued, job.run.data.jobId = x ∧ job.state.inflight = true) ∨ ∃ payload ∈ parked, payload.jobId = x := by
  rw [refines.db] at placeable busy
  obtain ⟨entry, member, own, live⟩ := refines.supplied.served x placeable busy
  have listed : entry.untimed ∈ (↑(s.store.entries s.duties) + parked.map JobQueuePayload.entry : Multiset Entry) := by
    rw [← held]
    exact Multiset.mem_coe.mpr (List.mem_map_of_mem member)
  rcases Multiset.mem_add.mp listed with queued | staged
  · obtain ⟨i, at_i⟩ := List.getElem?_of_mem (Multiset.mem_coe.mp queued)
    rw [Store.entries, List.getElem?_mapIdx] at at_i
    obtain ⟨job, found, same⟩ := Option.map_eq_some_iff.mp at_i
    have payload : job.run.data = entry.payload := congrArg Entry.payload same
    refine .inl ⟨job, List.mem_of_getElem? found, by rw [payload, own], ?_⟩
    have stages : (job.stage (s.duties i)).untimed = entry.stage.untimed := congrArg Entry.stage same
    cases state : job.state with
    | waiting | prioritized | delayed | active => rfl
    | completed | failed =>
      rw [QueuedJob.stage, state] at stages
      cases stage : entry.stage with
      | ended => exact absurd stage live
      | waiting | stuck | running =>
        rw [stage] at stages
        cases stages
  · obtain ⟨payload, waits, same⟩ := Multiset.mem_map.mp staged
    have payloads : payload = entry.payload := congrArg Entry.payload same
    exact .inr ⟨payload, waits, by rw [payloads, own]⟩

end Installation.Refines

/-- In every run BullMQ and the staging lists hold at most one due job or payload for a row between them, in the place that
    its status says, and a job or payload for each row that is QUEUED or PROCESSING and whose type `QUEUE_MAP` lists. -/
theorem jobs_held_once {visited : List (Installation × InstallationEvent)} {s : Installation}
    (run : installation.Run .empty visited s) : ∃ parked, s.store.Stages parked ∧ ∀ x,
      s.due x + parked.countP (fun payload => payload.jobId = x) ≤ 1 ∧
      (∀ payload ∈ parked, payload.jobId = x → s.db.status x = some .QUEUED) ∧
      (∀ i job, s.store.queued[i]? = some job → s.Due x i job → s.db.status x = some (s.marked i job)) ∧
      (s.db.Placeable x → s.db.Busy x →
        (∃ job ∈ s.store.queued, job.run.data.jobId = x ∧ job.state.inflight = true) ∨ ∃ payload ∈ parked, payload.jobId = x) := by
  obtain ⟨_, t, _, refines, _⟩ := Installation.Refines.run run
  obtain ⟨parked, stages, held⟩ := refines.stands.held
  refine ⟨parked, stages, fun x => ⟨refines.held_once held x, ?_, ?_, refines.busy_held held⟩⟩
  · rintro payload waits rfl
    exact refines.staged_queued held waits
  · exact fun i job at_i due => refines.due_marked at_i due

theorem jobs_held_once_pair : ∃ s, installation.exec .empty pairTaken = some s ∧ s.due 1 = 1 ∧
    ∃ parked, s.store.Stages parked ∧ s.due 1 + parked.countP (fun payload => payload.jobId = 1) ≤ 1 := by
  have done : ((installation.exec .empty pairTaken).any fun s => s.due 1 = 1) = true := by decide +kernel
  obtain ⟨s, ran, due⟩ := (Option.any_eq_true _ _).mp done
  obtain ⟨parked, stages, held⟩ := jobs_held_once (Machine.run_of_exec ran)
  exact ⟨s, ran, of_decide_eq_true due, parked, stages, (held 1).1⟩

end OrchestrateModel
