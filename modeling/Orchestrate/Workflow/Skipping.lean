import Orchestrate.Workflow.Sound

namespace OrchestrateModel

open Effect

namespace Db

variable {db db' : Db} {p x : JobId}

def Fallen (db : Db) (x : JobId) : Prop := db.status x = some .FAILED ∨ db.status x = some .SKIPPED

/-- Every SKIPPED job has a FAILED or SKIPPED parent. -/
def Caused (db : Db) : Prop := ∀ x, db.status x = some .SKIPPED → ∃ p, db.Depends p x ∧ db.Fallen p

theorem Caused.mono (caused : db.Caused) (depends : ∀ p c, db.Depends p c → db'.Depends p c)
    (skipped : ∀ x, db'.status x = some .SKIPPED → db.status x = some .SKIPPED)
    (fallen : ∀ x, db.Fallen x → db'.Fallen x) : db'.Caused := by
  intro x skip
  obtain ⟨p, parent, fell⟩ := caused x (skipped x skip)
  exact ⟨p, depends p x parent, fallen p fell⟩

end Db

section Scheduling

variable {env : Env} {staged : Bool} {workFlowId : WorkFlowId} {s s' : Workflows}

theorem Dispatched.fallen (dispatched : Dispatched env staged workFlowId s s') (x : JobId) :
    s'.db.Fallen x ↔ s.db.Fallen x :=
  or_congr (dispatched.status_iff (by simp)) (dispatched.status_iff (by simp))

theorem Dispatched.caused (dispatched : Dispatched env staged workFlowId s s') : s'.db.Caused ↔ s.db.Caused := by
  refine forall_congr' fun x => imp_congr (dispatched.status_iff (by simp)) (exists_congr fun p => ?_)
  rw [dispatched.kept.depends, dispatched.fallen]

end Scheduling

/-- A failed attempt that BullMQ retries skips only children of some other FAILED or SKIPPED job, and a
    retried job was not the only reason to skip a child. -/
def SkipsForFailure (s : Workflows) : WorkflowEvent → Prop
  | .create .. | .start .. | .finish _ _ _ (.ok _) => True
  | .finish _ _ i (.error _) => ∀ entry, s.desk.entries[i]? = some entry → ¬ entry.Final →
      ∀ c, s.db.Skips entry.payload.jobId c →
        ∃ p, s.db.Depends p c ∧ (s.db.Fallen p ∨ s.db.Skips entry.payload.jobId p)
  | .retry _ _ jobId _ tenantId => s.db.Retries jobId tenantId →
      ∀ c, s.db.Depends jobId c → s.db.status c = some .SKIPPED →
        ∃ p, p ≠ jobId ∧ s.db.Depends p c ∧ s.db.Fallen p

namespace Sound

variable {env : Env} {staged : Bool} {s s' : Workflows} {i : Nat} {db' : Db}

theorem caused_grown (sound : Sound s) (caused : s.db.Caused) {workFlowId : WorkFlowId} {rows : List Job}
    {links : List JobDependency} (grown : Grown s.db workFlowId rows links db') : db'.Caused := by
  refine caused.mono (fun p c depends => grown.depends.mpr (.inl depends)) ?_ ?_
  · intro x skipped
    rcases grown.status_cases sound.formed skipped with old | ⟨row, member, _, standing⟩
    · exact old
    · rcases grown.fresh row member with ready | waiting
      · rw [ready] at standing
        cases standing
      · rw [waiting] at standing
        cases standing
  · intro x fallen
    exact fallen.imp (grown.status_old sound.formed) (grown.status_old sound.formed)

theorem caused_started (sound : Sound s) (moved : s.step (.start env i) = some s') (caused : s.db.Caused) :
    s'.db.Caused := by
  obtain ⟨entry, attempt, before, _, live, standing, _, _, kept, changed⟩ := sound.start_status moved
  have busy := Entry.expected_busy live
  refine caused.mono (fun p c => (kept.depends p c).mpr) ?_ ?_
  · intro x skipped
    rw [changed] at skipped
    split at skipped
    · cases skipped
    · exact skipped
  · intro x fallen
    unfold Db.Fallen at fallen ⊢
    rw [changed, if_neg]
    · exact fallen
    · rintro rfl
      rw [standing] at fallen
      rcases busy with rfl | rfl <;> simp at fallen

open Classical in
theorem caused_finish_ok (sound : Sound s) {result : Option String}
    (moved : s.step (.finish env staged i (.ok result)) = some s') (caused : s.db.Caused) : s'.db.Caused := by
  obtain ⟨entry, settled, workFlowId, written, handled, finished, _, status, unlocked⟩ := sound.finish_ok moved
  refine finished.schedules.caused.mpr ?_
  refine Db.Caused.mono caused ?_ ?_ ?_
  · intro p c depends
    rwa [finished.handles.depends, finished.writes.depends]
  · intro x skipped
    rw [unlocked] at skipped
    split at skipped
    · cases skipped
    · rw [status] at skipped
      split at skipped
      · cases skipped
      · exact skipped
  · intro x fallen
    have stays : written.Fallen x := by
      unfold Db.Fallen at fallen ⊢
      rw [status, if_neg]
      · exact fallen
      · rintro rfl
        rw [finished.standing] at fallen
        simp at fallen
    unfold Db.Fallen at stays ⊢
    rw [unlocked, if_neg]
    · exact stays
    · intro unlocks
      rw [unlocks.2.1] at stays
      simp at stays

open Classical in
/-- After a failed attempt every SKIPPED job has a reason exactly if the newly skipped ones have. -/
theorem caused_finish_error (sound : Sound s) {error : Err}
    (moved : s.step (.finish env staged i (.error error)) = some s') (caused : s.db.Caused) :
    s'.db.Caused ↔ SkipsForFailure s (.finish env staged i (.error error)) := by
  obtain ⟨entry, settled, workFlowId, written, handled, finished, _, _, _, status, skipped⟩ :=
    sound.finish_error moved
  have skips (c : JobId) : written.Skips entry.payload.jobId c ↔ s.db.Skips entry.payload.jobId c := by
    rw [Db.Skips, Db.Skips, finished.writes.depends, finished.writes.strict]
  have parents (p c : JobId) : handled.Depends p c ↔ s.db.Depends p c := by
    rw [finished.handles.depends, finished.writes.depends]
  have fallen (p : JobId) : handled.Fallen p ↔
      s.db.Fallen p ∨ s.db.Skips entry.payload.jobId p ∨ (p = entry.payload.jobId ∧ entry.Final) := by
    unfold Db.Fallen
    rw [skipped, skips]
    by_cases new : s.db.Skips entry.payload.jobId p
    · simp [new]
    · rw [if_neg new, status]
      by_cases own : p = entry.payload.jobId ∧ entry.Final
      · simp [own]
      · simp [own, new]
  have skip (c : JobId) : handled.status c = some .SKIPPED ↔
      s.db.Skips entry.payload.jobId c ∨ s.db.status c = some .SKIPPED := by
    rw [skipped, skips]
    by_cases new : s.db.Skips entry.payload.jobId c
    · simp [new]
    · rw [if_neg new, status]
      split
      · rename_i own
        rw [own.1, finished.standing]
        simp [own.1 ▸ new]
      · simp [new]
  rw [finished.schedules.caused]
  constructor
  · intro caused' entry' at_i more c new
    obtain rfl : entry = entry' := Option.some.inj (finished.at_i.symm.trans at_i)
    obtain ⟨p, depends, fell⟩ := caused' c ((skip c).mpr (.inl new))
    refine ⟨p, (parents p c).mp depends, ?_⟩
    rcases (fallen p).mp fell with before | new' | ⟨_, final⟩
    · exact .inl before
    · exact .inr new'
    · exact absurd final more
  · intro allowed c standing
    rcases (skip c).mp standing with new | old
    · by_cases final : entry.Final
      · exact ⟨entry.payload.jobId, (parents _ _).mpr new.1, (fallen _).mpr (.inr (.inr ⟨rfl, final⟩))⟩
      · obtain ⟨p, depends, reason⟩ := allowed entry finished.at_i final c new
        exact ⟨p, (parents p c).mpr depends, (fallen p).mpr (reason.imp_right .inl)⟩
    · obtain ⟨p, depends, fell⟩ := caused c old
      exact ⟨p, (parents p c).mpr depends, (fallen p).mpr (.inl fell)⟩

theorem caused_retry (sound : Sound s) {jobId : JobId} {userId : UserId} {tenantId : TenantId}
    (moved : s.step (.retry env staged jobId userId tenantId) = some s') (caused : s.db.Caused) :
    s'.db.Caused ↔ SkipsForFailure s (.retry env staged jobId userId tenantId) := by
  rcases Workflows.retry_cases moved with ⟨rejected, rfl⟩ | ⟨retries, db, _⟩
  · exact iff_of_true caused fun retries => absurd retries rejected
  · have standing := retries.standing
    have kept := Db.kept_updateJob s.db jobId { status := some .QUEUED }
    have changed (x : JobId) := Db.status_updateJob s.db jobId x .QUEUED { status := some .QUEUED } rfl
      (by simp [standing])
    rw [← db] at kept changed
    have fallen (p : JobId) : s'.db.Fallen p ↔ p ≠ jobId ∧ s.db.Fallen p := by
      unfold Db.Fallen
      rw [changed]
      by_cases own : p = jobId <;> simp [own]
    have skip (c : JobId) : s'.db.status c = some .SKIPPED ↔ s.db.status c = some .SKIPPED := by
      rw [changed]
      by_cases own : c = jobId
      · subst own
        simp [standing]
      · simp [own]
    constructor
    · intro caused' _ c depends skipped
      obtain ⟨p, parent, fell⟩ := caused' c ((skip c).mpr skipped)
      obtain ⟨other, fell⟩ := (fallen p).mp fell
      exact ⟨p, other, (kept.depends p c).mp parent, fell⟩
    · intro allowed c skipped
      have skipped := (skip c).mp skipped
      obtain ⟨p, parent, fell⟩ := caused c skipped
      by_cases own : p = jobId
      · subst own
        obtain ⟨q, other, depends, fell⟩ := allowed retries c parent skipped
        exact ⟨q, (kept.depends q c).mpr depends, (fallen q).mpr ⟨other, fell⟩⟩
      · exact ⟨p, (kept.depends p c).mpr parent, (fallen p).mpr ⟨own, fell⟩⟩

theorem caused_step (sound : Sound s) {event : WorkflowEvent} (moved : s.step event = some s')
    (caused : s.db.Caused) : s'.db.Caused ↔ SkipsForFailure s event := by
  cases event with
  | create env staged items userId tenantId =>
    refine iff_of_true ?_ trivial
    rcases Workflows.create_cases sound.formed moved with
      rfl | ⟨rows, links, db', grown, rfl⟩ | ⟨rows, links, db₁, grown, _, dispatched⟩
    · exact caused
    · exact sound.caused_grown caused grown
    · exact dispatched.caused.mpr (sound.caused_grown caused grown)
  | start env i => exact iff_of_true (sound.caused_started moved caused) trivial
  | finish env staged i outcome =>
    cases outcome with
    | ok result => exact iff_of_true (sound.caused_finish_ok moved caused) trivial
    | error error => exact sound.caused_finish_error moved caused
  | retry env staged jobId userId tenantId => exact sound.caused_retry moved caused

end Sound

variable {visited : List (Workflows × WorkflowEvent)} {s : Workflows}

/-- A first attempt fails, the second one succeeds. -/
def failOnce : List WorkflowEvent :=
  [pairRequest, .start .plain 0, .finish .plain false 0 (.error { message := "timeout" }), .start .plain 0,
    .finish .plain false 0 (.ok none)]

/-- The job is COMPLETED, but its STRICT child stays SKIPPED. -/
theorem skipped_without_cause : ¬ ∀ visited s, workflows.Run .empty visited s → s.db.Caused := by
  intro claim
  have result : (workflows.exec .empty failOnce).map (fun s => (s.db.edges, s.db.status 1, s.db.status 2)) =
      some ([(1, 2)], some .COMPLETED, some .SKIPPED) := by decide +kernel
  obtain ⟨s, done, same⟩ := Option.map_eq_some_iff.mp result
  simp only [Prod.mk.injEq] at same
  obtain ⟨edges, first, second⟩ := same
  obtain ⟨p, parent, fallen⟩ := claim _ s (Machine.run_of_exec done) 2 second
  obtain rfl : p = 1 := by simpa [Db.Depends, edges] using parent
  simp [Db.Fallen, first] at fallen

/-- Through a whole run every SKIPPED job has a FAILED or SKIPPED parent exactly if each failed attempt and
    each retry of the run leaves the skipped children another reason. -/
theorem skipped_caused_iff (run : workflows.Run .empty visited s) :
    ((∀ v ∈ visited, v.1.db.Caused) ∧ s.db.Caused) ↔ Machine.Guarded SkipsForFailure visited := by
  have initial : Workflows.empty.db.Caused := fun x skipped => by cases skipped
  have everywhere : Machine.Guarded (fun _ _ => True) visited := fun _ _ => trivial
  refine run.stays_iff (fun s => Sound s ∧ s.db.Caused) (fun s => s.db.Caused) everywhere ⟨sound_empty, initial⟩ initial ?_ ?_
  · intro s event s' given _ moved allowed
    obtain ⟨sound, caused⟩ := given
    have caused' := (sound.caused_step moved caused).mpr allowed
    exact ⟨⟨sound.step moved, caused'⟩, caused'⟩
  · intro s event s' given _ moved caused'
    obtain ⟨sound, caused⟩ := given
    exact (sound.caused_step moved caused).mp caused'

theorem skipped_caused_iff_failOnce : ∃ s, workflows.exec .empty failOnce = some s ∧
    (((∀ v ∈ workflows.trace .empty failOnce, v.1.db.Caused) ∧ s.db.Caused) ↔
      Machine.Guarded SkipsForFailure (workflows.trace .empty failOnce)) := by
  have result : (workflows.exec .empty failOnce).isSome = true := by decide +kernel
  obtain ⟨s, done⟩ := Option.isSome_iff_exists.mp result
  exact ⟨s, done, skipped_caused_iff (Machine.run_of_exec done)⟩

end OrchestrateModel
