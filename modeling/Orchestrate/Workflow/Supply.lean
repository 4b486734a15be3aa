import Orchestrate.Workflow.Sound

namespace OrchestrateModel

open Effect

namespace Desk

variable {desk desk' : Desk} {x : JobId} {i : Nat} {entry settled : Entry}

/-- An entry of the job is not over yet. -/
def Holds (desk : Desk) (x : JobId) : Prop :=
  ∃ entry ∈ desk.entries, entry.payload.jobId = x ∧ entry.stage ≠ .ended

theorem Holds.posted (holds : desk.Holds x) {y : JobId} (posted : Posted y desk desk') : desk'.Holds x := by
  obtain ⟨entry, member, own, live⟩ := holds
  cases posted with
  | refused noted => exact ⟨entry, member, own, live⟩
  | placed payload now noted bullIds => exact ⟨entry, List.mem_append_left _ member, own, live⟩

theorem Holds.setEntry (holds : desk.Holds x) (at_i : desk.entries[i]? = some entry)
    (other : entry.payload.jobId ≠ x) : (desk.setEntry i settled).Holds x := by
  obtain ⟨entry', member, own, live⟩ := holds
  obtain ⟨k, at_k⟩ := List.getElem?_of_mem member
  refine ⟨entry', List.mem_of_getElem? (i := k) ?_, own, live⟩
  rw [Desk.setEntry, List.getElem?_set_ne]
  · exact at_k
  · rintro rfl
    obtain rfl := Option.some.inj (at_i.symm.trans at_k)
    exact other own

theorem holds_setEntry (at_i : desk.entries[i]? = some entry) (own : settled.payload.jobId = x)
    (live : settled.stage ≠ .ended) : (desk.setEntry i settled).Holds x := by
  have bound := (List.getElem?_eq_some_iff.mp at_i).1
  refine ⟨settled, List.mem_of_getElem? (i := i) ?_, own, live⟩
  rw [Desk.setEntry, List.getElem?_set_self bound]

/-- A payload that a queue is found for arrives, unless BullMQ holds its id already. -/
theorem holds_offered (staged : Bool) (now : Nat) {jobType : String} {payload : String → JobQueuePayload}
    (routable : Routable jobType) (sameType : ∀ queueName, (payload queueName).jobType = jobType)
    (own : ∀ queueName, (payload queueName).jobId = x)
    (new : ∀ queueName, ∀ id ∈ (jobsOptions (payload queueName)).jobId, id ∉ desk.bullIds) :
    (offered (accept staged now) jobType payload desk).Holds x := by
  obtain ⟨queueName, placed⟩ := routable
  have arrives (noted : Desk) (same : noted.bullIds = desk.bullIds) :
      (noted.place now (payload queueName)).Holds x := by
    have holds : ∀ entries : List Entry, ∀ entry : Entry, entry.payload.jobId = x → entry.stage ≠ .ended →
        ∃ entry' ∈ entries ++ [entry], entry'.payload.jobId = x ∧ entry'.stage ≠ .ended :=
      fun entries entry own live => ⟨entry, by simp, own, live⟩
    unfold place
    cases custom : (jobsOptions (payload queueName)).jobId with
    | none => exact holds noted.entries _ (own queueName) (by simp)
    | some id =>
      have absent : id ∉ noted.bullIds := by
        rw [same]
        exact new queueName id (by simp [custom])
      dsimp only
      rw [if_neg absent]
      exact holds noted.entries _ (own queueName) (by simp)
  rw [offered, resolveQueueName_of_getQueueName placed]
  have routed : Routable (payload queueName).jobType := by
    rw [sameType]
    exact ⟨queueName, placed⟩
  simp only [accept, routed, if_true]
  split
  · exact arrives _ rfl
  · exact arrives _ rfl

end Desk

namespace Db

variable {db db' : Db} {x : JobId}

/-- `QUEUE_MAP` lists the job's type. -/
def Placeable (db : Db) (x : JobId) : Prop := ∃ job, db.job? x = some job ∧ Routable job.type

def Busy (db : Db) (x : JobId) : Prop := db.status x = some .QUEUED ∨ db.status x = some .PROCESSING

/-- The job is neither waiting for its parents nor for its turn. -/
def Begun (db : Db) (x : JobId) : Prop :=
  ∃ status, db.status x = some status ∧ status ≠ .READY ∧ status ≠ .WAITING_FOR_DEPENDENCIES

theorem Kept.placeable (kept : Kept db db') (x : JobId) : db'.Placeable x ↔ db.Placeable x := by
  have same := kept.column (·.type) (fun _ => rfl) x
  have read (db : Db) : db.Placeable x ↔ ∃ jobType, (db.job? x).map (·.type) = some jobType ∧ Routable jobType := by
    simp [Placeable]
  rw [read, read, same]

theorem Kept.known (kept : Kept db db') (known : ∃ status, db.status x = some status) :
    ∃ status, db'.status x = some status := by
  obtain ⟨status, standing⟩ := known
  obtain ⟨job, row, _⟩ := status_eq_some.mp standing
  have fixed := kept.job? x
  rw [row] at fixed
  obtain ⟨job', row', _⟩ := Option.map_eq_some_iff.mp fixed
  exact ⟨job'.status, by simp [Db.status, row']⟩

theorem begun_of_status {status : JobStatus} (standing : db.status x = some status) (fresh : status ≠ .READY)
    (free : status ≠ .WAITING_FOR_DEPENDENCIES) : db.Begun x := ⟨status, standing, fresh, free⟩

end Db

/-- Payloads were submitted and entered for jobs in the tables only, BullMQ holds only ids of jobs that have begun, and a
    job that is QUEUED or PROCESSING has an entry if `QUEUE_MAP` lists its type. -/
structure Supplied (s : Workflows) : Prop where
  known : ∀ payload ∈ s.desk.submitted, ∃ status, s.db.status payload.jobId = some status
  entered : ∀ entry ∈ s.desk.entries, ∃ status, s.db.status entry.payload.jobId = some status
  issued : ∀ id ∈ s.desk.bullIds, ∃ x, id = uuidText x ∧ s.db.Begun x
  served : ∀ x, s.db.Placeable x → s.db.Busy x → s.desk.Holds x

namespace Supplied

variable {env : Env} {staged : Bool} {workFlowId : WorkFlowId} {s s' : Workflows} {i : Nat} {db' : Db} {x : JobId}

theorem not_issued (supplied : Supplied s) (idle : ¬ s.db.Begun x) : uuidText x ∉ s.desk.bullIds := by
  intro member
  obtain ⟨y, same, begun⟩ := supplied.issued _ member
  obtain rfl := uuidText_inj same
  exact idle begun

theorem grown (supplied : Supplied s) (formed : s.db.Formed) {rows : List Job} {links : List JobDependency}
    (grown : Grown s.db workFlowId rows links db') : Supplied { s with db := db' } := by
  refine ⟨fun payload member => ?_, fun entry member => ?_, fun id member => ?_, fun x placeable busy => ?_⟩
  · obtain ⟨status, standing⟩ := supplied.known payload member
    exact ⟨status, grown.status_old formed standing⟩
  · obtain ⟨status, standing⟩ := supplied.entered entry member
    exact ⟨status, grown.status_old formed standing⟩
  · obtain ⟨x, same, status, standing, begun⟩ := supplied.issued id member
    exact ⟨x, same, status, grown.status_old formed standing, begun⟩
  · obtain ⟨job, row, routable⟩ := placeable
    have old : s.db.Busy x := by
      refine busy.imp (fun queued => ?_) fun processing => ?_
      · rcases grown.status_cases formed queued with old | ⟨row, member, _, standing⟩
        · exact old
        · rcases grown.fresh row member with fresh | fresh <;> simp [fresh] at standing
      · rcases grown.status_cases formed processing with old | ⟨row, member, _, standing⟩
        · exact old
        · rcases grown.fresh row member with fresh | fresh <;> simp [fresh] at standing
    refine supplied.served x ?_ old
    have exists_ : ∃ job', s.db.job? x = some job' := by
      rcases old with standing | standing
      all_goals
        obtain ⟨job', row', _⟩ := Db.status_eq_some.mp standing
        exact ⟨job', row'⟩
    obtain ⟨job', row'⟩ := exists_
    obtain rfl := Option.some.inj ((grown.job?_old formed row').symm.trans row)
    exact ⟨job', row', routable⟩

/-- A job is marked QUEUED and handed over. -/
theorem queue (supplied : Supplied s) {before : JobStatus} (standing : s.db.status x = some before)
    {desk' : Desk} (posted : Posted x s.desk desk') (holds : s.db.Placeable x → desk'.Holds x) :
    Supplied { db := s.db.updateJob x { status := some .QUEUED }, desk := desk' } := by
  have kept := Db.kept_updateJob s.db x { status := some .QUEUED }
  have changed (y : JobId) := Db.status_updateJob s.db x y .QUEUED { status := some .QUEUED } rfl
    (by simp [standing])
  refine ⟨fun payload member => kept.known ?_, fun entry member => kept.known ?_, fun id member => ?_,
    fun y placeable busy => ?_⟩
  · cases posted with
    | refused noted own | placed _ _ noted _ own =>
      rcases List.mem_append.mp member with old | new
      · exact supplied.known payload old
      · rw [own payload new]
        exact ⟨before, standing⟩
  · rcases posted.entries member with old | ⟨own, _⟩
    · exact supplied.entered entry old
    · rw [own]
      exact ⟨before, standing⟩
  · have cases_ : id ∈ s.desk.bullIds ∨ id = uuidText x := by
      cases posted with
      | refused noted => exact .inl member
      | placed payload now noted bullIds own mine named =>
        rcases List.mem_append.mp member with old | new
        · exact .inl old
        · exact .inr (named id new)
    rcases cases_ with old | rfl
    · obtain ⟨y, same, status, standing', begun⟩ := supplied.issued id old
      by_cases here : y = x
      · exact ⟨y, same, Db.begun_of_status ((changed y).trans (if_pos here)) (by simp) (by simp)⟩
      · exact ⟨y, same, status, ((changed y).trans (if_neg here)).trans standing', begun⟩
    · exact ⟨x, rfl, Db.begun_of_status ((changed x).trans (if_pos rfl)) (by simp) (by simp)⟩
  · have placeable' := (kept.placeable y).mp placeable
    by_cases here : y = x
    · subst here
      exact holds placeable'
    · refine (supplied.served y placeable' ?_).posted posted
      unfold Db.Busy at busy ⊢
      rwa [changed, if_neg here] at busy

theorem dispatched (supplied : Supplied s) (dispatched : Dispatched env staged workFlowId s s') : Supplied s' := by
  cases dispatched with
  | none reason => exact supplied
  | next job idle picked row ready =>
    have standing : s.db.status job.id = some .READY := by simp [Db.status, row, ready]
    refine supplied.queue standing (posted_candidate staged env.now job s.desk) ?_
    intro given
    obtain ⟨job', row', routable⟩ := given
    obtain rfl := Option.some.inj (row.symm.trans row')
    refine Desk.holds_offered staged env.now routable (fun _ => rfl) (fun _ => rfl) fun queueName id custom => ?_
    rw [candidatePayload_id] at custom
    obtain rfl := Option.mem_some.mp custom
    refine supplied.not_issued ?_
    intro given
    obtain ⟨status, standing', fresh, _⟩ := given
    rw [standing] at standing'
    exact fresh (Option.some.inj standing').symm

/-- An attempt of a job moves on; only this job may become PROCESSING or stop. -/
theorem settle (supplied : Supplied s) {entry settled : Entry} (at_i : s.desk.entries[i]? = some entry)
    (own : settled.payload = entry.payload) (kept : Db.Kept s.db db')
    (begun : ∀ y, s.db.Begun y → db'.Begun y) (others : ∀ y, y ≠ entry.payload.jobId → db'.Busy y → s.db.Busy y)
    (self : db'.Busy entry.payload.jobId → settled.stage ≠ .ended) :
    Supplied { db := db', desk := s.desk.setEntry i settled } := by
  refine ⟨fun payload member => kept.known (supplied.known payload member), fun other member => kept.known ?_,
    fun id member => ?_, fun y placeable busy => ?_⟩
  · rcases List.mem_or_eq_of_mem_set member with old | rfl
    · exact supplied.entered other old
    · rw [own]
      exact supplied.entered entry (List.mem_of_getElem? at_i)
  · obtain ⟨y, same, begun'⟩ := supplied.issued id member
    exact ⟨y, same, begun y begun'⟩
  · by_cases here : y = entry.payload.jobId
    · subst here
      exact Desk.holds_setEntry at_i (by rw [own]) (self busy)
    · exact (supplied.served y ((kept.placeable y).mp placeable) (others y here busy)).setEntry at_i (Ne.symm here)

theorem started (supplied : Supplied s) (sound : Sound s) (moved : s.step (.start env i) = some s') :
    Supplied s' := by
  obtain ⟨entry, attempt, before, at_i, _, standing, desk, _, kept, changed⟩ := sound.start_status moved
  obtain ⟨db', desk'⟩ := s'
  dsimp only at desk kept changed
  subst desk
  refine supplied.settle at_i rfl kept (fun y before => ?_) (fun y other busy => ?_) fun _ => by simp
  · obtain ⟨status, standing', begun⟩ := before
    by_cases here : y = entry.payload.jobId
    · exact Db.begun_of_status ((changed y).trans (if_pos here)) (by simp) (by simp)
    · exact ⟨status, ((changed y).trans (if_neg here)).trans standing', begun⟩
  · unfold Db.Busy at busy ⊢
    rwa [changed, if_neg other] at busy

open Classical in
theorem completed (supplied : Supplied s) (sound : Sound s) {result : Option String}
    (moved : s.step (.finish env staged i (.ok result)) = some s') : Supplied s' := by
  obtain ⟨entry, settled, workFlowId, written, handled, finished, concluded, status, unlocked⟩ := sound.finish_ok moved
  have kept := finished.writes.trans finished.handles
  refine Supplied.dispatched (supplied.settle finished.at_i finished.payload kept ?_ ?_ ?_) finished.schedules
  · intro y given
    obtain ⟨before, standing, begun⟩ := given
    by_cases here : y = entry.payload.jobId
    · refine ⟨.COMPLETED, ?_, by simp, by simp⟩
      rw [unlocked, if_neg]
      · rw [status, if_pos here]
      · intro unlocks
        have waiting := unlocks.2.1
        rw [status, if_pos here] at waiting
        cases waiting
    · refine ⟨before, ?_, begun⟩
      rw [unlocked, if_neg]
      · rw [status, if_neg here, standing]
      · intro unlocks
        have waiting := unlocks.2.1
        rw [status, if_neg here, standing] at waiting
        exact begun.2 (Option.some.inj waiting)
  · intro y other busy
    unfold Db.Busy at busy ⊢
    rw [unlocked] at busy
    split at busy
    · simp at busy
    · rwa [status, if_neg other] at busy
  · intro busy
    unfold Db.Busy at busy
    rw [unlocked] at busy
    split at busy
    · simp at busy
    · rw [status, if_pos rfl] at busy
      simp at busy

open Classical in
theorem failed (supplied : Supplied s) (sound : Sound s) {error : Err}
    (moved : s.step (.finish env staged i (.error error)) = some s') : Supplied s' := by
  obtain ⟨entry, settled, workFlowId, written, handled, finished, _, _, ends, status, skipped⟩ :=
    sound.finish_error moved
  have kept := finished.writes.trans finished.handles
  refine Supplied.dispatched (supplied.settle finished.at_i finished.payload kept ?_ ?_ ?_) finished.schedules
  · intro y given
    obtain ⟨before, standing, begun⟩ := given
    by_cases skips : written.Skips entry.payload.jobId y
    · exact Db.begun_of_status ((skipped y).trans (if_pos skips)) (by simp) (by simp)
    · have same := (skipped y).trans (if_neg skips)
      rw [status] at same
      split at same
      · exact Db.begun_of_status same (by simp) (by simp)
      · exact ⟨before, same.trans standing, begun⟩
  · intro y other busy
    unfold Db.Busy at busy ⊢
    rw [skipped] at busy
    split at busy
    · simp at busy
    · rwa [status, if_neg (fun both => other both.1)] at busy
  · intro busy ended
    have final := ends ended
    unfold Db.Busy at busy
    rw [skipped] at busy
    split at busy
    · simp at busy
    · rw [status, if_pos ⟨rfl, final⟩] at busy
      simp at busy

theorem step (supplied : Supplied s) (sound : Sound s) {event : WorkflowEvent} (moved : s.step event = some s') :
    Supplied s' := by
  cases event with
  | create env staged items userId tenantId =>
    rcases Workflows.create_cases sound.formed moved with
      rfl | ⟨rows, links, db', grown, rfl⟩ | ⟨rows, links, db₁, grown, _, dispatched⟩
    · exact supplied
    · exact supplied.grown sound.formed grown
    · exact (supplied.grown sound.formed grown).dispatched dispatched
  | start env i => exact supplied.started sound moved
  | finish env staged i outcome =>
    cases outcome with
    | ok result => exact supplied.completed sound moved
    | error error => exact supplied.failed sound moved
  | retry env staged jobId userId tenantId =>
    rcases Workflows.retry_cases moved with ⟨_, rfl⟩ | ⟨retries, db, job, row, desk⟩
    · exact supplied
    · have own := Db.id_of_job? row
      have queued := supplied.queue retries.standing (Workflows.retry_posted row desk) fun placeable => by
        obtain ⟨job', row', routable⟩ := placeable
        obtain rfl := Option.some.inj (row.symm.trans row')
        rw [desk]
        exact Desk.holds_offered staged env.now routable (fun _ => rfl) (fun _ => own) fun queueName id custom => by
          cases custom
      rw [← db] at queued
      exact queued

theorem empty : Supplied .empty := by
  refine ⟨fun payload member => ?_, fun entry member => ?_, fun id member => ?_, fun x placeable => ?_⟩
  · cases member
  · cases member
  · cases member
  · obtain ⟨job, row, _⟩ := placeable
    cases row

end Supplied
end OrchestrateModel
