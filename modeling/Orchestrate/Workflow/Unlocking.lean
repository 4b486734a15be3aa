import Orchestrate.Workflow.Events

namespace OrchestrateModel

namespace Db

variable {db db' written handled : Db} {c j p x : JobId}

/-- Some parent of the job is not COMPLETED. -/
def Open (db : Db) (c : JobId) : Prop := ∃ p, db.Depends p c ∧ db.status p ≠ some .COMPLETED

/-- A job with parents, if it is not skipped, waits exactly while one of them is not COMPLETED. -/
def Exact (db : Db) : Prop :=
  ∀ p c, db.Depends p c → db.status c ≠ some .SKIPPED →
    (db.status c = some .WAITING_FOR_DEPENDENCIES ↔ db.Open c)

theorem Formed.workFlowOf_of_status (formed : db.Formed) {status : JobStatus} (standing : db.status x = some status) :
    ∃ workFlowId, db.workFlowOf x = some workFlowId := by
  obtain ⟨job, row, _⟩ := status_eq_some.mp standing
  obtain ⟨workFlowId, own, _⟩ := formed.flows job (mem_of_job? row)
  exact ⟨workFlowId, by simp [workFlowOf, row, own]⟩

theorem status_of_workFlowOf {workFlowId : WorkFlowId} (own : db.workFlowOf x = some workFlowId) :
    ∃ status, db.status x = some status := by
  obtain ⟨job, row, _⟩ := Option.bind_eq_some_iff.mp own
  exact ⟨job.status, by simp [status, row]⟩

theorem parentsDone_iff (formed : db.Formed) : db.ParentsDone c ↔ ¬ db.Open c := by
  constructor
  · intro done given
    obtain ⟨p, depends, unfinished⟩ := given
    obtain ⟨workFlowId, own, _⟩ := formed.ends p c depends
    obtain ⟨status, standing⟩ := status_of_workFlowOf own
    rw [done p depends status standing] at standing
    exact unfinished standing
  · intro closed p depends status standing
    by_contra unfinished
    refine closed ⟨p, depends, ?_⟩
    rw [standing]
    simpa using unfinished

/-- No parent changes between COMPLETED and another status. -/
theorem open_congr (kept : Kept db db')
    (same : ∀ p, db.Depends p c → (db'.status p = some .COMPLETED ↔ db.status p = some .COMPLETED)) :
    db'.Open c ↔ db.Open c := by
  refine exists_congr fun p => ?_
  rw [kept.depends]
  exact and_congr_right fun depends => not_congr (same p depends)

/-- A status that neither is nor becomes WAITING, COMPLETED or, before, SKIPPED may change. -/
theorem Exact.change (exact : db.Exact) (kept : Kept db db') {before after : JobStatus}
    (standing : db.status x = some before) (changed : ∀ y, db'.status y = if y = x then some after else db.status y)
    (settled : before ≠ .WAITING_FOR_DEPENDENCIES ∧ before ≠ .SKIPPED ∧ before ≠ .COMPLETED)
    (settled' : after ≠ .WAITING_FOR_DEPENDENCIES ∧ after ≠ .COMPLETED) : db'.Exact := by
  intro p c depends unskipped
  rw [kept.depends] at depends
  have same : db'.Open c ↔ db.Open c := by
    apply open_congr kept
    intro q _
    rw [changed]
    split
    · rename_i here
      subst here
      simp [standing, settled.2.2, settled'.2]
    · rfl
  rw [same, changed]
  by_cases here : c = x
  · subst here
    have closed := exact p c depends (by simp [standing, settled.2.1])
    rw [standing] at closed
    simp only [if_true, ← closed, Option.some.injEq, settled.1, settled'.1]
  · rw [if_neg here]
    rw [changed, if_neg here] at unskipped
    exact exact p c depends unskipped

theorem Exact.same (exact : db.Exact) (same : Same db db') : db'.Exact := by
  intro p c depends unskipped
  rw [same.depends] at depends
  have opened : db'.Open c ↔ db.Open c := open_congr same.toKept fun q _ => by rw [same.status]
  rw [same.status] at unskipped ⊢
  rw [opened]
  exact exact p c depends unskipped

theorem Exact.waits_of_child (exact : db.Exact) (depends : db.Depends j c)
    (unfinished : db.status j ≠ some .COMPLETED) :
    db.status c = some .WAITING_FOR_DEPENDENCIES ∨ db.status c = some .SKIPPED := by
  by_cases skipped : db.status c = some .SKIPPED
  · exact .inr skipped
  · exact .inl ((exact j c depends skipped).mpr ⟨j, depends, unfinished⟩)

open Classical in
/-- Skipping the STRICT children of a job that is not COMPLETED. -/
theorem Exact.skip (exact : db.Exact) (kept : Kept db db') (unfinished : db.status j ≠ some .COMPLETED)
    (changed : ∀ y, db'.status y = if db.Skips j y then some .SKIPPED else db.status y) : db'.Exact := by
  have unstarted (y : JobId) (skips : db.Skips j y) : db.status y ≠ some .COMPLETED := by
    rcases exact.waits_of_child skips.1 unfinished with waiting | skipped
    · simp [waiting]
    · simp [skipped]
  intro p c depends unskipped
  rw [kept.depends] at depends
  have same : db'.Open c ↔ db.Open c := by
    apply open_congr kept
    intro q _
    rw [changed]
    split
    · rename_i skips
      simp [unstarted q skips]
    · rfl
  rw [changed] at unskipped
  rw [same, changed]
  split at unskipped
  · exact absurd rfl unskipped
  · rename_i stays
    rw [if_neg stays]
    exact exact p c depends unskipped

open Classical in
/-- A job is COMPLETED and its handler unlocks its children. -/
theorem Exact.complete (exact : db.Exact) (formed : db.Formed) (keptWritten : Kept db written)
    (keptHandled : Kept written handled) (standing : db.status j = some .PROCESSING)
    (changed : ∀ y, written.status y = if y = j then some .COMPLETED else db.status y)
    (unlocked : ∀ y, handled.status y = if written.Unlocks j y then some .READY else written.status y) :
    handled.Exact := by
  have formedWritten := keptWritten.formed formed
  have completes (q : JobId) : handled.status q = some .COMPLETED ↔ written.status q = some .COMPLETED := by
    rw [unlocked]
    split
    · rename_i unlocks
      simp [unlocks.2.1]
    · rfl
  intro p c depends unskipped
  rw [keptHandled.depends, keptWritten.depends] at depends
  have same : handled.Open c ↔ written.Open c := open_congr keptHandled fun q _ => completes q
  rw [same]
  -- completing `j` closes no job but its children
  have narrower (opened : written.Open c) : db.Open c := by
    obtain ⟨q, above, unfinished⟩ := opened
    rw [keptWritten.depends] at above
    rw [changed] at unfinished
    split at unfinished
    · exact absurd rfl unfinished
    · exact ⟨q, above, unfinished⟩
  rw [unlocked] at unskipped ⊢
  by_cases unlocks : written.Unlocks j c
  · have closed := (parentsDone_iff formedWritten).mp unlocks.2.2
    rw [if_pos unlocks]
    exact iff_of_false (by simp) closed
  · rw [if_neg unlocks] at unskipped ⊢
    rw [changed] at unskipped ⊢
    by_cases here : c = j
    · subst here
      have before := exact p c depends (by simp [standing])
      rw [standing] at before
      rw [if_pos rfl]
      refine iff_of_false (by simp) fun opened => ?_
      have impossible := before.mpr (narrower opened)
      cases impossible
    · rw [if_neg here] at unskipped ⊢
      rw [exact p c depends unskipped]
      refine ⟨fun opened => ?_, narrower⟩
      by_contra closed
      -- all parents are COMPLETED now, so `c` is a child of `j` that was unlocked
      have waiting := (exact p c depends unskipped).mpr opened
      obtain ⟨q, above, unfinished⟩ := opened
      have last : q = j := by
        by_contra other
        exact closed ⟨q, (keptWritten.depends q c).mpr above, by rwa [changed, if_neg other]⟩
      subst last
      refine unlocks ⟨(keptWritten.depends q c).mpr above, ?_, (parentsDone_iff formedWritten).mpr closed⟩
      rw [changed, if_neg here]
      exact waiting

end Db
end OrchestrateModel
