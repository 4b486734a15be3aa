import Orchestrate.Workflow.Unlocking

namespace OrchestrateModel

open Effect ChainService BaseProcessor

/-- The status that the row of a live entry has. -/
def Entry.expected (entry : Entry) : Option JobStatus :=
  match entry.stage with
  | .waiting => some (if entry.attemptsMade = 0 then .QUEUED else .PROCESSING)
  | .running _ => some .PROCESSING
  | .ended | .stuck => none

theorem Entry.expected_busy {entry : Entry} {status : JobStatus} (live : entry.expected = some status) :
    status = .QUEUED ∨ status = .PROCESSING := by
  unfold expected at live
  split at live
  · obtain rfl := Option.some.inj live
    split
    · exact .inl rfl
    · exact .inr rfl
  · exact .inr (Option.some.inj live).symm
  · cases live
  · cases live

/-- Live entries belong to different jobs, whose rows have the statuses they should have. -/
structure Backed (db : Db) (desk : Desk) : Prop where
  standing : ∀ (i : Nat) (entry : Entry) (status : JobStatus), desk.entries[i]? = some entry →
    entry.expected = some status → db.status entry.payload.jobId = some status
  workflow : ∀ (i : Nat) (entry : Entry) (attempt : Attempt), desk.entries[i]? = some entry →
    entry.stage = .running attempt → attempt.isWorkflowJob = true
  apart : ∀ (i k : Nat) (entry entry' : Entry), desk.entries[i]? = some entry → desk.entries[k]? = some entry' →
    entry.expected ≠ none → entry'.expected ≠ none → entry.payload.jobId = entry'.payload.jobId → i = k

/-- The statuses QUEUED and PROCESSING stay. -/
def Db.Steady (db db' : Db) : Prop :=
  ∀ x status, db.status x = some status → status = .QUEUED ∨ status = .PROCESSING → db'.status x = some status

namespace Backed

variable {db db' : Db} {desk desk' : Desk} {x : JobId} {i : Nat} {entry settled : Entry}

theorem mono (backed : Backed db desk) (steady : db.Steady db') : Backed db' desk := by
  refine ⟨?_, backed.workflow, backed.apart⟩
  intro i entry status at_i live
  exact steady _ _ (backed.standing i entry status at_i live) (Entry.expected_busy live)

/-- No live entry belongs to a job that is neither QUEUED nor PROCESSING. -/
theorem idle (backed : Backed db desk) {status : JobStatus} (standing : db.status x = some status)
    (settled : ¬ (status = .QUEUED ∨ status = .PROCESSING)) (at_i : desk.entries[i]? = some entry)
    (live : entry.expected ≠ none) : entry.payload.jobId ≠ x := by
  rintro rfl
  obtain ⟨busy, expected⟩ := Option.ne_none_iff_exists'.mp live
  have same := backed.standing i entry busy at_i expected
  rw [standing] at same
  obtain rfl := Option.some.inj same
  exact settled (Entry.expected_busy expected)

/-- A job that is marked QUEUED may get an entry. -/
theorem posted (backed : Backed db desk) (posts : Posted x desk desk') {status : JobStatus}
    (standing : db.status x = some status) (settled : ¬ (status = .QUEUED ∨ status = .PROCESSING))
    (changed : ∀ y, db'.status y = if y = x then some .QUEUED else db.status y) : Backed db' desk' := by
  have steady : db.Steady db' := by
    intro y busy same active
    rw [changed, if_neg]
    · exact same
    · rintro rfl
      rw [standing] at same
      obtain rfl := Option.some.inj same
      exact settled active
  have before := backed.mono steady
  cases posts with
  | refused noted _ => exact ⟨before.standing, before.workflow, before.apart⟩
  | placed payload now noted bullIds _ own _ =>
    have cases_ {k : Nat} {e : Entry}
        (at_k : (desk.entries ++ [({ payload := payload, addedAt := now } : Entry)])[k]? = some e) :
        desk.entries[k]? = some e ∨ (k = desk.entries.length ∧ e = { payload := payload, addedAt := now }) := by
      rw [List.getElem?_append] at at_k
      split at at_k
      · exact .inl at_k
      · right
        have bound := (List.getElem?_eq_some_iff.mp at_k).1
        have last : k = desk.entries.length := by
          simp only [List.length_singleton] at bound
          omega
        subst last
        exact ⟨rfl, by simpa using at_k.symm⟩
    refine ⟨?_, ?_, ?_⟩
    · intro k e busy at_k live
      rcases cases_ at_k with old | ⟨_, rfl⟩
      · exact before.standing k e busy old live
      · obtain rfl : JobStatus.QUEUED = busy := by simpa [Entry.expected] using live
        simp [own, changed]
    · intro k e attempt at_k running
      rcases cases_ at_k with old | ⟨_, rfl⟩
      · exact before.workflow k e attempt old running
      · cases running
    · intro k l e e' at_k at_l live live' same
      rcases cases_ at_k with old | ⟨rfl, rfl⟩ <;> rcases cases_ at_l with old' | ⟨rfl, rfl⟩
      · exact before.apart k l e e' old old' live live' same
      · exact absurd (same.trans own) (backed.idle standing settled old live)
      · exact absurd (same.symm.trans own) (backed.idle standing settled old' live')
      · rfl

/-- A live entry moves on, and with it the row of its job. -/
theorem settle (backed : Backed db desk) (at_i : desk.entries[i]? = some entry) (live : entry.expected ≠ none)
    (own : settled.payload = entry.payload)
    (others : ∀ y status, y ≠ entry.payload.jobId → db.status y = some status →
      status = .QUEUED ∨ status = .PROCESSING → db'.status y = some status)
    (self : ∀ status, settled.expected = some status → db'.status entry.payload.jobId = some status)
    (workflow : ∀ attempt, settled.stage = .running attempt → attempt.isWorkflowJob = true) :
    Backed db' (desk.setEntry i settled) := by
  have cases_ {k : Nat} {e : Entry} (at_k : (desk.setEntry i settled).entries[k]? = some e) :
      (k = i ∧ e = settled) ∨ (k ≠ i ∧ desk.entries[k]? = some e) := by
    simp only [Desk.setEntry, List.getElem?_set] at at_k
    split at at_k
    · rename_i here
      subst here
      split at at_k
      · exact .inl ⟨rfl, (Option.some.inj at_k).symm⟩
      · cases at_k
    · rename_i other
      exact .inr ⟨fun same => other same.symm, at_k⟩
  refine ⟨?_, ?_, ?_⟩
  · intro k e status at_k standing
    rcases cases_ at_k with ⟨rfl, rfl⟩ | ⟨other, old⟩
    · rw [own]
      exact self status standing
    · have distinct : e.payload.jobId ≠ entry.payload.jobId := fun same =>
        other (backed.apart k i e entry old at_i (by simp [standing]) live same)
      exact others _ _ distinct (backed.standing k e status old standing) (Entry.expected_busy standing)
  · intro k e attempt at_k running
    rcases cases_ at_k with ⟨rfl, rfl⟩ | ⟨other, old⟩
    · exact workflow attempt running
    · exact backed.workflow k e attempt old running
  · intro k l e e' at_k at_l liveE liveE' same
    rcases cases_ at_k with ⟨rfl, rfl⟩ | ⟨other, old⟩ <;> rcases cases_ at_l with ⟨rfl, rfl⟩ | ⟨other', old'⟩
    · rfl
    · rw [own] at same
      exact absurd (backed.apart l k e' entry old' at_i liveE' live same.symm) other'
    · rw [own] at same
      exact absurd (backed.apart k l e entry old at_i liveE live same) other
    · exact backed.apart k l e e' old old' liveE liveE' same

end Backed

/-- The invariant of every run. -/
structure Sound (s : Workflows) : Prop where
  formed : s.db.Formed
  exact : s.db.Exact
  backed : Backed s.db s.desk

theorem sound_empty : Sound .empty := by
  refine ⟨Db.formed_empty, ?_, ?_, ?_, ?_⟩
  · intro p c depends
    cases depends
  · intro i entry status at_i
    cases at_i
  · intro i entry attempt at_i
    cases at_i
  · intro i k entry entry' at_i
    cases at_i

namespace Sound

variable {env : Env} {staged : Bool} {workFlowId : WorkFlowId} {s s' : Workflows} {i : Nat} {db' : Db}

theorem grown (sound : Sound s) {rows : List Job} {links : List JobDependency}
    (grown : Grown s.db workFlowId rows links db') : Sound { s with db := db' } := by
  have present {p c : JobId} (depends : s.db.Depends p c) :
      (∃ status, s.db.status p = some status) ∧ ∃ status, s.db.status c = some status := by
    obtain ⟨workFlowId, parent, child⟩ := sound.formed.ends p c depends
    exact ⟨Db.status_of_workFlowOf parent, Db.status_of_workFlowOf child⟩
  refine ⟨grown.formed sound.formed, ?_, sound.backed.mono fun x status standing _ => grown.status_old sound.formed standing⟩
  intro p c depends unskipped
  rcases grown.depends.mp depends with old | ⟨dep, member, rfl, rfl⟩
  · obtain ⟨_, status, standing⟩ := present old
    have childOld := grown.apart sound.formed standing
    have same : db'.Open c ↔ s.db.Open c := by
      constructor
      · rintro ⟨q, above, unfinished⟩
        rcases grown.depends.mp above with above | ⟨dep, member, _, rfl⟩
        · refine ⟨q, above, fun completed => unfinished (grown.status_old sound.formed completed)⟩
        · obtain ⟨_, child, childRow, same, _⟩ := grown.ends dep member
          exact absurd same (childOld child childRow)
      · rintro ⟨q, above, unfinished⟩
        obtain ⟨⟨status, standing⟩, _⟩ := present above
        refine ⟨q, grown.depends.mpr (.inl above), ?_⟩
        rw [grown.status_old sound.formed standing]
        rwa [standing] at unfinished
    have standing' := grown.status_old sound.formed standing
    rw [same, standing', ← standing]
    rw [standing', ← standing] at unskipped
    exact sound.exact p c old unskipped
  · obtain ⟨⟨parent, parentRow, sameParent⟩, child, childRow, sameChild, waiting⟩ := grown.ends dep member
    have standing : db'.status dep.childJobId = some .WAITING_FOR_DEPENDENCIES := by
      rw [← sameChild, grown.status_new sound.formed childRow, waiting]
    refine iff_of_true standing ⟨dep.parentJobId, depends, ?_⟩
    rw [← sameParent, grown.status_new sound.formed parentRow]
    rcases grown.fresh parent parentRow with ready | waits
    · simp [ready]
    · simp [waits]

/-- A READY or FAILED job is marked QUEUED and its payload submitted. -/
theorem queue (sound : Sound s) {x : JobId} {status : JobStatus} (standing : s.db.status x = some status)
    (free : status = .READY ∨ status = .FAILED) {desk' : Desk} (posts : Posted x s.desk desk') :
    Sound { db := s.db.updateJob x { status := some .QUEUED }, desk := desk' } := by
  have kept := Db.kept_updateJob s.db x { status := some .QUEUED }
  have changed (y : JobId) := Db.status_updateJob s.db x y .QUEUED { status := some .QUEUED } rfl
    (by simp [standing])
  refine ⟨kept.formed sound.formed, ?_, ?_⟩
  · exact sound.exact.change kept standing changed (by rcases free with rfl | rfl <;> simp) (by simp)
  · exact sound.backed.posted posts standing (by rcases free with rfl | rfl <;> simp) changed

theorem dispatched (sound : Sound s) (dispatched : Dispatched env staged workFlowId s s') : Sound s' := by
  cases dispatched with
  | none reason => exact sound
  | next job idle picked row ready =>
    have standing : s.db.status job.id = some .READY := by simp [Db.status, row, ready]
    exact sound.queue standing (.inl rfl) (posted_candidate staged env.now job s.desk)

/-- A running attempt belongs to a PROCESSING job of some workflow. -/
theorem running (sound : Sound s) {entry : Entry} {attempt : Attempt} (at_i : s.desk.entries[i]? = some entry)
    (stage : entry.stage = .running attempt) :
    s.db.status entry.payload.jobId = some .PROCESSING ∧ attempt.isWorkflowJob = true ∧
      ∃ workFlowId, s.db.workFlowOf entry.payload.jobId = some workFlowId := by
  have standing := sound.backed.standing i entry .PROCESSING at_i (by simp [Entry.expected, stage])
  exact ⟨standing, sound.backed.workflow i entry attempt at_i stage, sound.formed.workFlowOf_of_status standing⟩

end Sound

/-- The end of an attempt: the row of its job and those of its children are written, the entry is settled,
    and the next job of the workflow is scheduled. -/
structure Finished (env : Env) (staged : Bool) (s : Workflows) (i : Nat) (entry settled : Entry)
    (workFlowId : WorkFlowId) (written handled : Db) (s' : Workflows) : Prop
    extends Workflows.Settled env staged workFlowId s i settled written handled s' where
  at_i : s.desk.entries[i]? = some entry
  live : entry.expected = some .PROCESSING
  standing : s.db.status entry.payload.jobId = some .PROCESSING
  own : s.db.workFlowOf entry.payload.jobId = some workFlowId
  payload : settled.payload = entry.payload

namespace Sound

variable {env : Env} {staged : Bool} {workFlowId : WorkFlowId} {s s' : Workflows} {i : Nat}

theorem after_payload (entry : Entry) (done : Outcome Err Unit) : (entry.after done).payload = entry.payload := by
  cases done with
  | ok value => rfl
  | thrown error => rfl
  | hung => rfl

open Classical in
/-- A successful attempt completes its job and unlocks children. -/
theorem finish_ok (sound : Sound s) {result : Option String}
    (moved : s.step (.finish env staged i (.ok result)) = some s') :
    ∃ entry settled workFlowId written handled,
      Finished env staged s i entry settled workFlowId written handled s' ∧ settled.expected = none ∧
      (∀ x, written.status x = if x = entry.payload.jobId then some .COMPLETED else s.db.status x) ∧
      ∀ x, handled.status x =
        if written.Unlocks entry.payload.jobId x then some .READY else written.status x := by
  obtain ⟨entry, queueName, attempt, at_i, stage, rfl⟩ := Workflows.finish_cases moved
  obtain ⟨standing, workflow, workFlowId, own⟩ := sound.running at_i stage
  obtain ⟨done, written, handled, returned, settled, status, unlocked⟩ :=
    Workflows.end_ok sound.formed own workflow at_i result
  have live : entry.expected = some .PROCESSING := by simp [Entry.expected, stage]
  refine ⟨entry, entry.after done, workFlowId, written, handled,
    ⟨settled, at_i, live, standing, own, after_payload entry done⟩, ?_, status, unlocked⟩
  rcases returned with rfl | rfl <;> rfl

open Classical in
/-- A failed attempt fails its job if it is the last, and skips the STRICT children. -/
theorem finish_error (sound : Sound s) {error : Err}
    (moved : s.step (.finish env staged i (.error error)) = some s') :
    ∃ entry settled workFlowId written handled,
      Finished env staged s i entry settled workFlowId written handled s' ∧
      (settled.expected = none ∨ (¬ entry.Final ∧ settled.expected = some .PROCESSING)) ∧
      (∀ attempt, settled.stage ≠ .running attempt) ∧ (settled.stage = .ended → entry.Final) ∧
      (∀ x, written.status x = if x = entry.payload.jobId ∧ entry.Final then some .FAILED else s.db.status x) ∧
      ∀ x, handled.status x =
        if written.Skips entry.payload.jobId x then some .SKIPPED else written.status x := by
  obtain ⟨entry, queueName, attempt, at_i, stage, rfl⟩ := Workflows.finish_cases moved
  obtain ⟨standing, _, workFlowId, own⟩ := sound.running at_i stage
  obtain ⟨done, written, handled, unreturned, settled, status, skipped⟩ :=
    Workflows.end_error sound.formed own at_i error
  have live : entry.expected = some .PROCESSING := by simp [Entry.expected, stage]
  refine ⟨entry, entry.after done, workFlowId, written, handled,
    ⟨settled, at_i, live, standing, own, after_payload entry done⟩, ?_, ?_, ?_, status, skipped⟩
  · rcases unreturned with ⟨error', rfl⟩ | rfl
    · by_cases final : entry.Final
      · exact .inl (by simp [Entry.after, Entry.expected, final])
      · exact .inr ⟨final, by simp [Entry.after, Entry.expected, final]⟩
    · exact .inl rfl
  · intro attempt'
    rcases unreturned with ⟨error', rfl⟩ | rfl
    · by_cases final : entry.Final <;> simp [Entry.after, final]
    · simp [Entry.after]
  · rcases unreturned with ⟨error', rfl⟩ | rfl
    · by_cases final : entry.Final <;> simp [Entry.after, final]
    · simp [Entry.after]

/-- Writing the failure of a last attempt leaves the waiting jobs exact. -/
theorem exact_failed (sound : Sound s) {entry settled : Entry} {written handled : Db}
    (finished : Finished env staged s i entry settled workFlowId written handled s')
    (status : ∀ x, written.status x =
      if x = entry.payload.jobId ∧ entry.Final then some .FAILED else s.db.status x) : written.Exact := by
  by_cases final : entry.Final
  · have failed (y : JobId) :
        written.status y = if y = entry.payload.jobId then some .FAILED else s.db.status y := by
      rw [status]
      simp only [final, and_true]
    exact sound.exact.change finished.writes finished.standing failed (by simp) (by simp)
  · apply sound.exact.same ⟨finished.writes, fun y => ?_⟩
    rw [status, if_neg (fun both => final both.2)]

/-- The children of a job whose attempt failed wait, or were skipped before. -/
theorem skips_waiting (sound : Sound s) {entry settled : Entry} {written handled : Db}
    (finished : Finished env staged s i entry settled workFlowId written handled s')
    (status : ∀ x, written.status x =
      if x = entry.payload.jobId ∧ entry.Final then some .FAILED else s.db.status x) {x : JobId}
    (skips : written.Skips entry.payload.jobId x) :
    written.status x = some .WAITING_FOR_DEPENDENCIES ∨ written.status x = some .SKIPPED := by
  have unfinished : written.status entry.payload.jobId ≠ some .COMPLETED := by
    rw [status, finished.standing]
    split <;> simp
  exact (sound.exact_failed finished status).waits_of_child skips.1 unfinished

/-- The start of an attempt marks its job PROCESSING. -/
theorem start_status (sound : Sound s) (moved : s.step (.start env i) = some s') :
    ∃ entry attempt before, s.desk.entries[i]? = some entry ∧ entry.expected = some before ∧
      s.db.status entry.payload.jobId = some before ∧
      s'.desk = s.desk.setEntry i { entry with stage := .running attempt } ∧ attempt.isWorkflowJob = true ∧
      Db.Kept s.db s'.db ∧
      ∀ x, s'.db.status x = if x = entry.payload.jobId then some .PROCESSING else s.db.status x := by
  obtain ⟨entry, queueName, stage, at_i, waiting, desk, effect⟩ := Workflows.start_cases moved
  have live : entry.expected = some (if entry.attemptsMade = 0 then .QUEUED else .PROCESSING) := by
    simp [Entry.expected, waiting]
  have standing := sound.backed.standing i entry _ at_i live
  rcases effect with ⟨skips, _, _⟩ | ⟨attempt, db₁, rfl, workflow, same, marks⟩
  · have completed : s.db.status entry.payload.jobId = some .COMPLETED := skips.1
    rw [standing] at completed
    split at completed <;> cases completed
  · refine ⟨entry, attempt, _, at_i, live, standing, desk, ?_,
      (same.toKept.trans (kept_marked db₁ _)).trans marks.toKept, fun x => ?_⟩
    · obtain ⟨workFlowId, own⟩ := sound.formed.workFlowOf_of_status standing
      rw [workflow, own]
      rfl
    · rw [marks.status, status_marked _ ((same.status _).trans standing) x, same.status]
      rfl

theorem started (sound : Sound s) (moved : s.step (.start env i) = some s') : Sound s' := by
  obtain ⟨entry, attempt, before, at_i, live, standing, desk, workflow, kept, changed⟩ := sound.start_status moved
  have busy := Entry.expected_busy live
  refine ⟨kept.formed sound.formed, ?_, ?_⟩
  · exact sound.exact.change kept standing changed (by rcases busy with rfl | rfl <;> simp) (by simp)
  · rw [desk]
    have own : ({ entry with stage := .running attempt } : Entry).payload = entry.payload := rfl
    apply sound.backed.settle at_i (by simp [live]) own
    · intro y status other same _
      rw [changed, if_neg other]
      exact same
    · intro status expected
      obtain rfl : JobStatus.PROCESSING = status := by simpa [Entry.expected] using expected
      rw [changed, if_pos rfl]
    · intro attempt' running
      obtain rfl : attempt = attempt' := by simpa using running
      exact workflow

open Classical in
theorem step (sound : Sound s) {event : WorkflowEvent} (moved : s.step event = some s') : Sound s' := by
  cases event with
  | create env staged items userId tenantId =>
    rcases Workflows.create_cases sound.formed moved with
      rfl | ⟨rows, links, db', grown, rfl⟩ | ⟨rows, links, db₁, grown, _, dispatched⟩
    · exact sound
    · exact sound.grown grown
    · exact (sound.grown grown).dispatched dispatched
  | start env i => exact sound.started moved
  | retry env staged jobId userId tenantId =>
    rcases Workflows.retry_cases moved with ⟨_, rfl⟩ | ⟨retries, db, job, row, desk⟩
    · exact sound
    · have queued := sound.queue retries.standing (.inr rfl) (Workflows.retry_posted row desk)
      rw [← db] at queued
      exact queued
  | finish env staged i outcome =>
    cases outcome with
    | ok result =>
      obtain ⟨entry, settled, workFlowId, written, handled, finished, concluded, status, unlocked⟩ :=
        sound.finish_ok moved
      have exact_ := sound.exact.complete sound.formed finished.writes finished.handles finished.standing
        status unlocked
      have formed := finished.handles.formed (finished.writes.formed sound.formed)
      refine Sound.dispatched ⟨formed, exact_, ?_⟩ finished.schedules
      apply sound.backed.settle finished.at_i (by simp [finished.live]) finished.payload
      · intro y busy other same active
        rw [unlocked, if_neg, status, if_neg other, same]
        intro unlocks
        have waiting := unlocks.2.1
        rw [status, if_neg other, same] at waiting
        rcases active with rfl | rfl <;> cases waiting
      · intro status expected
        rw [concluded] at expected
        cases expected
      · intro attempt running
        simp [Entry.expected, running] at concluded
    | error error =>
      obtain ⟨entry, settled, workFlowId, written, handled, finished, concluded, idle, _, status, skipped⟩ :=
        sound.finish_error moved
      have formedWritten := finished.writes.formed sound.formed
      have unfinished : written.status entry.payload.jobId ≠ some .COMPLETED := by
        rw [status, finished.standing]
        split <;> simp
      have exactWritten := sound.exact_failed finished status
      refine Sound.dispatched ⟨finished.handles.formed formedWritten,
        exactWritten.skip finished.handles unfinished skipped, ?_⟩ finished.schedules
      have steady (y : JobId) (busy : JobStatus) (same : written.status y = some busy)
          (active : busy = .QUEUED ∨ busy = .PROCESSING) : handled.status y = some busy := by
        rw [skipped, if_neg, same]
        intro skips
        have waiting := sound.skips_waiting finished status skips
        rw [same] at waiting
        rcases active with rfl | rfl <;> simp at waiting
      apply sound.backed.settle finished.at_i (by simp [finished.live]) finished.payload
      · intro y busy other same active
        refine steady y busy ?_ active
        rwa [status, if_neg (fun both => other both.1)]
      · intro busy expected
        rcases concluded with none_ | ⟨more, retries⟩
        · rw [none_] at expected
          cases expected
        · rw [retries] at expected
          obtain rfl := Option.some.inj expected
          refine steady _ _ ?_ (.inr rfl)
          rw [status, if_neg (fun both => more both.2), finished.standing]
      · intro attempt running
        exact absurd running (idle attempt)

theorem run {visited : List (Workflows × WorkflowEvent)} (run : workflows.Run .empty visited s) : Sound s :=
  run.always Sound sound_empty fun _ _ _ sound moved => sound.step moved

end Sound

/-- In every state between two steps, a job that has parents and is not SKIPPED waits for its dependencies
    exactly if some parent is not COMPLETED. -/
theorem waiting_iff_parent_incomplete {visited : List (Workflows × WorkflowEvent)} {s : Workflows}
    (run : workflows.Run .empty visited s) {parentId jobId : JobId} (child : s.db.Depends parentId jobId)
    (unskipped : s.db.status jobId ≠ some .SKIPPED) :
    s.db.status jobId = some .WAITING_FOR_DEPENDENCIES ↔
      ∃ p, s.db.Depends p jobId ∧ s.db.status p ≠ some .COMPLETED :=
  (Sound.run run).exact parentId jobId child unskipped

/-- Two jobs; the second depends on the first. -/
def pairRequest : WorkflowEvent :=
  .create .plain false
    [{ key := "a", type := "send_email", retries := some 2 },
      { key := "b", type := "send_email", dependsOn := some (.one "a") }] "user" "tenant"

theorem waiting_iff_parent_incomplete_pair :
    ∃ s, workflows.exec .empty [pairRequest, .start .plain 0, .finish .plain false 0 (.ok none)] = some s ∧
      (s.db.status 2 = some .WAITING_FOR_DEPENDENCIES ↔
        ∃ p, s.db.Depends p 2 ∧ s.db.status p ≠ some .COMPLETED) := by
  have result : (workflows.exec .empty
      [pairRequest, .start .plain 0, .finish .plain false 0 (.ok none)]).map
      (fun s => (decide (s.db.Depends 1 2), s.db.status 2)) = some (true, some .QUEUED) := by decide +kernel
  obtain ⟨s, done, same⟩ := Option.map_eq_some_iff.mp result
  obtain ⟨child, standing⟩ := Prod.mk.inj same
  refine ⟨s, done, waiting_iff_parent_incomplete (Machine.run_of_exec done) (of_decide_eq_true child) ?_⟩
  simp [standing]

end OrchestrateModel
