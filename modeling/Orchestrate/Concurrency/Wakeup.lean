import Orchestrate.Concurrency.Stages
import Orchestrate.Workflow.Sound

namespace OrchestrateModel

open Effect Program ChainService

/-- The job waits although all its parents are COMPLETED. -/
structure Db.Overdue (db : Db) (jobId : JobId) : Prop where
  waiting : db.status jobId = some .WAITING_FOR_DEPENDENCIES
  done : ∀ p, db.Depends p jobId → db.status p = some .COMPLETED

/-- The answers that a handler of a parent can get while the child is overdue. -/
def OverdueReply (parentId childId : JobId) (c : ServiceCall) (reply : Except Err c.Reply) : Prop :=
  ∃ env staged db desk, db.Formed ∧ db.Depends parentId childId ∧ db.Overdue childId ∧
    reply = (serve env (Desk.accept staged env.now) (db, desk) c).1

/-- The call that unlocks a child. -/
def Wakes (childId : JobId) (c : ServiceCall) : Prop := c = .db (.updateJob childId { status := some .READY })

section Owes

variable {parentId childId : JobId}

theorem owes_unlockChild : (unlockChild childId).Owes (OverdueReply parentId childId) (Wakes childId) := by
  apply owes_await (S := serviceSignature)
  rintro found ⟨env, staged, db, desk, formed, depends, overdue, answer⟩
  obtain rfl : found = db.job? childId := Except.ok.inj answer
  obtain ⟨child, row, waiting⟩ := Db.status_eq_some.mp overdue.waiting
  obtain rfl := Db.id_of_job? row
  rw [row]
  dsimp only
  rw [if_neg (not_not.mpr waiting)]
  apply owes_await (S := serviceSignature)
  rintro remainingDeps ⟨env, staged, db, desk, formed, depends, overdue, answer⟩
  obtain rfl : remainingDeps = (db.remaining child.id).length := Except.ok.inj answer
  have none_ : (db.remaining child.id).length = 0 := by
    apply Db.remaining_eq_nil.mpr
    intro p depends status standing
    rw [overdue.done p depends] at standing
    exact (Option.some.inj standing).symm
  rw [if_pos none_]
  have wakes : Wakes child.id (.db (.updateJob child.id { status := some .READY })) := rfl
  exact Owes.bind (owes_wanted (S := serviceSignature) wakes) _

theorem owes_unlockChildren : (unlockChildren parentId).Owes (OverdueReply parentId childId) (Wakes childId) := by
  apply owes_await (S := serviceSignature)
  rintro childDeps ⟨env, staged, db, desk, formed, depends, overdue, answer⟩
  obtain rfl := Except.ok.inj answer
  obtain ⟨dep, member, rfl⟩ := Db.exists_dep env depends
  exact owes_forEach (List.mem_map_of_mem member) owes_unlockChild

/-- While the child is overdue, the handler of a parent does not come to the end of its loop without unlocking
    the child. -/
theorem owes_loop :
    (HandlerKind.completed.loop parentId).Owes (OverdueReply parentId childId) (Wakes childId) := by
  apply owes_await (S := serviceSignature)
  rintro found ⟨env, staged, db, desk, formed, depends, overdue, answer⟩
  obtain rfl : found = db.job? parentId := Except.ok.inj answer
  obtain ⟨workFlowId, own, _⟩ := formed.ends parentId childId depends
  obtain ⟨job, row, own⟩ := Option.bind_eq_some_iff.mp own
  rw [row, Option.bind_some, own]
  exact Owes.bind owes_unlockChildren _

end Owes

namespace Handling

variable {s s' : Handling} {i : Nat} {env : Env} {staged : Bool} {childId : JobId}

/-- A step that leaves the COMPLETED rows COMPLETED. -/
def KeepsCompleted (s : Handling) (event : HandlingEvent) : Prop :=
  ∀ s' ∈ s.step event, ∀ job ∈ s.db.jobs,
    s.db.status job.id = some .COMPLETED → s'.db.status job.id = some .COMPLETED

instance (s : Handling) (event : HandlingEvent) : Decidable (s.KeepsCompleted event) :=
  inferInstanceAs (Decidable (∀ s' ∈ s.step event, ∀ job ∈ s.db.jobs, _ → _))

theorem KeepsCompleted.status {event : HandlingEvent} (keeps : s.KeepsCompleted event) (moved : s.step event = some s')
    {x : JobId} (completed : s.db.status x = some .COMPLETED) : s'.db.status x = some .COMPLETED := by
  obtain ⟨job, row, _⟩ := Db.status_eq_some.mp completed
  have own := Db.id_of_job? row
  subst own
  exact keeps s' moved job (Db.mem_of_job? row) completed

/-- The handler is in its loop, and unlocks the child before the end of it. -/
def HandlerCall.Owing (parentId childId : JobId) (call : HandlerCall) : Prop :=
  ∃ rest, call.point = .looping rest ∧ rest.Owes (OverdueReply parentId childId) (Wakes childId)

/-- Handlers run for COMPLETED jobs only, and while the child is overdue, every handler of some parent is still
    about to unlock it. -/
structure Attended (childId : JobId) (s : Handling) : Prop where
  formed : s.db.Formed
  staged : ∃ stages, s.Staged stages
  after : ∀ call ∈ s.calls, call.kind = .completed → s.db.status call.jobId = some .COMPLETED
  owed : s.db.Overdue childId → ∃ p, s.db.Depends p childId ∧
    ∀ call ∈ s.calls, call.kind = .completed → call.jobId = p → HandlerCall.Owing p childId call

theorem Attended.begin_ {db : Db} (formed : db.Formed) (desk : Desk) (child : ∃ p, db.Depends p childId) :
    Attended childId (begin_ db desk) := by
  obtain ⟨p, depends⟩ := child
  refine ⟨formed, ⟨[], staged_begin db desk⟩, fun call member => ?_, fun _ => ⟨p, depends, fun call member => ?_⟩⟩
  · cases member
  · cases member

/-- The rule for a step: it writes no WAITING row, and in a state in which the child is overdue it leaves each
    handler of a parent about to unlock the child. -/
theorem Attended.keep (attended : Attended childId s) (kept : Db.Kept s.db s'.db) (staged : ∃ stages, s'.Staged stages)
    (stays : ∀ x, s.db.status x = some .COMPLETED → s'.db.status x = some .COMPLETED)
    (waits : s'.db.status childId = some .WAITING_FOR_DEPENDENCIES →
      s.db.status childId = some .WAITING_FOR_DEPENDENCIES)
    (called : ∀ call' ∈ s'.calls, call'.kind = .completed → s.db.status call'.jobId = some .COMPLETED)
    (owing : ∀ p, s.db.Depends p childId → s.db.Overdue childId → s'.db.Overdue childId →
      (∀ call ∈ s.calls, call.kind = .completed → call.jobId = p → HandlerCall.Owing p childId call) →
      ∀ call' ∈ s'.calls, call'.kind = .completed → call'.jobId = p → HandlerCall.Owing p childId call') :
    Attended childId s' := by
  refine ⟨kept.formed attended.formed, staged, fun call' member kind => stays _ (called call' member kind), ?_⟩
  intro overdue'
  by_cases done : ∀ p, s.db.Depends p childId → s.db.status p = some .COMPLETED
  · have overdue : s.db.Overdue childId := ⟨waits overdue'.waiting, done⟩
    obtain ⟨p, depends, owed⟩ := attended.owed overdue
    exact ⟨p, (kept.depends p childId).mpr depends, owing p depends overdue overdue' owed⟩
  · -- the parent that was completed last has no handler yet
    push Not at done
    obtain ⟨q, depends, unfinished⟩ := done
    refine ⟨q, (kept.depends q childId).mpr depends, fun call' member kind own => ?_⟩
    rw [← own] at unfinished
    exact absurd (called call' member kind) unfinished

theorem Attended.write (attended : Attended childId s) {jobId : JobId} {status : JobStatus}
    (moved : s.step (.write jobId status) = some s') (keeps : s.KeepsCompleted (.write jobId status)) :
    Attended childId s' := by
  have stays (x : JobId) (completed : s.db.status x = some .COMPLETED) := keeps.status moved completed
  simp only [step] at moved
  split at moved
  · rename_i written
    obtain rfl := Option.some.inj moved
    obtain ⟨stages, held⟩ := attended.staged
    refine attended.keep (Db.kept_updateJob s.db jobId _) ⟨stages, held.of_calls rfl⟩ stays (fun waiting => ?_) attended.after
      fun p _ _ _ owed => owed
    by_cases present : s.db.status jobId = none
    · rwa [Db.status_updateJob_absent s.db childId _ present] at waiting
    · rw [Db.status_updateJob s.db jobId childId status _ rfl present] at waiting
      split at waiting
      · obtain rfl := Option.some.inj waiting
        have usual := written.2
        simp at usual
      · exact waiting
  · cases moved

theorem Attended.start (attended : Attended childId s) {kind : HandlerKind} {jobId : JobId}
    (moved : s.step (.start kind jobId) = some s') : Attended childId s' := by
  obtain ⟨stages, held⟩ := attended.staged
  have staged := held.start moved
  simp only [step] at moved
  split at moved
  · rename_i standing
    obtain rfl := Option.some.inj moved
    refine attended.keep (.refl _) ⟨_, staged⟩ (fun _ completed => completed) id ?_ ?_
    · intro call member completes
      rcases List.mem_append.mp member with old | new
      · exact attended.after call old completes
      · obtain rfl := List.mem_singleton.mp new
        obtain rfl : kind = .completed := completes
        exact standing
    · intro p depends overdue _ owed call member completes own
      rcases List.mem_append.mp member with old | new
      · exact owed call old completes own
      · obtain rfl := List.mem_singleton.mp new
        obtain rfl : kind = .completed := completes
        obtain rfl : jobId = p := own
        exact ⟨_, rfl, owes_loop⟩
  · cases moved

/-- A handler that is about to unlock the child makes its next call. -/
theorem Attended.advance (attended : Attended childId s) (moved : s.step (.advance i env staged) = some s')
    (keeps : s.KeepsCompleted (.advance i env staged)) : Attended childId s' := by
  obtain ⟨stages, held⟩ := attended.staged
  obtain ⟨stage, c, stage', _, makes, ⟨call, at_i, awaits⟩, effect, held'⟩ := held.advance moved
  obtain ⟨kept, changed⟩ := makes_effect makes effect
  obtain ⟨call', point, c', rest, at_i', waiting, turned, resumed, effect', calls⟩ := advance_cases moved
  obtain rfl := Option.some.inj (at_i.symm.trans at_i')
  obtain rfl : c = c' := by
    rw [waiting] at awaits
    exact (Option.some.inj awaits).symm
  have member := List.mem_of_getElem? at_i
  apply attended.keep kept ⟨_, held'⟩ (fun x completed => keeps.status moved completed)
  · intro waits
    rcases changed childId with same | ⟨status, usual, _, written⟩
    · rwa [← same]
    · rw [written] at waits
      obtain rfl := Option.some.inj waits
      simp at usual
  · intro call' member' completes
    rw [calls] at member'
    rcases List.mem_or_eq_of_mem_set member' with old | rfl
    · exact attended.after call' old completes
    · exact attended.after call member completes
  · intro p depends overdue overdue' owed call' member' completes own
    rw [calls] at member'
    rcases List.mem_or_eq_of_mem_set member' with old | rfl
    · exact owed call' old completes own
    · obtain ⟨loop, looping, owes⟩ := owed call member completes own
      rw [looping] at turned waiting
      cases loop with
      | done value => exact owes.elim
      | throws error => cases turned
      | hangs => cases turned
      | call c₀ next =>
        obtain ⟨rfl, _⟩ := Prod.mk.inj (Option.some.inj turned)
        obtain rfl : c₀ = c := by
          injection waiting
        refine ⟨_, rfl, ?_⟩
        rcases owes with wakes | later
        · -- the child does not wait any more
          have unlocked : s'.db.status childId = some .READY := by
            obtain ⟨job, row, _⟩ := Db.status_eq_some.mp overdue.waiting
            rw [wakes] at effect
            obtain ⟨same, _⟩ := Prod.mk.inj effect
            rw [same]
            exact (Db.status_updateJob s.db childId childId .READY _ rfl (by simp [overdue.waiting])).trans
              (if_pos rfl)
          rw [overdue'.waiting] at unlocked
          cases unlocked
        · exact later _ ⟨env, staged, s.db, s.desk, attended.formed, depends, overdue, rfl⟩

theorem Attended.run {db : Db} {desk : Desk} {visited : List (Handling × HandlingEvent)} (formed : db.Formed)
    (child : ∃ p, db.Depends p childId) (run : handling.Run (Handling.begin_ db desk) visited s)
    (stays : Machine.Guarded KeepsCompleted visited) : Attended childId s := by
  apply run.invariant (Attended childId) stays (.begin_ formed desk child)
  intro s event s' attended keeps moved
  cases event with
  | write jobId status => exact attended.write moved keeps
  | start kind jobId => exact attended.start moved
  | advance i env staged => exact attended.advance moved keeps

end Handling

/-- The `unlockChildren` of a handler that was called for the job's completion has returned. -/
def Handling.Unlocked (s : Handling) (jobId : JobId) : Prop :=
  ∃ call ∈ s.calls, call.kind = .completed ∧ call.jobId = jobId ∧ call.point.Looped

instance (s : Handling) (jobId : JobId) : Decidable (s.Unlocked jobId) :=
  inferInstanceAs (Decidable (∃ call ∈ s.calls, _ ∧ _))

/-- However the handlers of a job's parents and others take turns: once all parents are COMPLETED and the
    `unlockChildren` of each has returned, the job does not wait any more. -/
theorem child_unlocked {db : Db} {desk : Desk} {childId : JobId} {visited : List (Handling × HandlingEvent)}
    {s : Handling} (formed : db.Formed) (child : ∃ p, db.Depends p childId)
    (run : handling.Run (Handling.begin_ db desk) visited s)
    (stays : Machine.Guarded Handling.KeepsCompleted visited)
    (done : ∀ p, s.db.Depends p childId → s.db.status p = some .COMPLETED)
    (returned : ∀ p, s.db.Depends p childId → s.Unlocked p) :
    s.db.status childId ≠ some .WAITING_FOR_DEPENDENCIES := by
  intro waiting
  have attended := Handling.Attended.run formed child run stays
  obtain ⟨p, depends, owed⟩ := attended.owed ⟨waiting, done⟩
  obtain ⟨call, member, completes, own, looped⟩ := returned p depends
  obtain ⟨rest, looping, owes⟩ := owed call member completes own
  rw [looping] at looped
  cases rest with
  | done value => exact owes
  | throws error => exact looped
  | hangs => exact looped
  | call c next => exact looped

/-- Two roots and a job that depends on both. -/
def joinRequest : WorkflowEvent :=
  .create .plain false
    [{ key := "a", type := "send_email" }, { key := "b", type := "send_email" },
      { key := "c", type := "send_email", dependsOn := some (.many ["a", "b"]) }] "user" "tenant"

def joined : Workflows := (workflows.exec .empty [joinRequest]).getD .empty

/-- Both handlers read that the child waits, both count no parent that remains, and both unlock it. -/
def crossing : List HandlingEvent :=
  [.write 1 .COMPLETED, .start .completed 1, .advance 0 .plain false, .advance 0 .plain false,
    .advance 0 .plain false, .write 2 .COMPLETED, .start .completed 2, .advance 1 .plain false,
    .advance 1 .plain false, .advance 1 .plain false, .advance 0 .plain false, .advance 1 .plain false,
    .advance 0 .plain false, .advance 1 .plain false, .advance 0 .plain false, .advance 1 .plain false]

theorem child_unlocked_crossing : ∃ s, handling.exec (.begin_ joined.db joined.desk) crossing = some s ∧
    s.db.status 3 ≠ some .WAITING_FOR_DEPENDENCIES := by
  have result : (handling.exec (.begin_ joined.db joined.desk) crossing).map (fun s =>
      (s.db.edges, decide (Machine.Guarded Handling.KeepsCompleted
          (handling.trace (.begin_ joined.db joined.desk) crossing)),
        decide (∀ p ∈ ([1, 2] : List JobId), s.db.status p = some .COMPLETED ∧ s.Unlocked p))) =
      some ([(1, 3), (2, 3)], true, true) := by decide +kernel
  obtain ⟨s, done, same⟩ := Option.map_eq_some_iff.mp result
  simp only [Prod.mk.injEq, decide_eq_true_eq] at same
  obtain ⟨edges, stays, parents⟩ := same
  have only (p : JobId) (depends : s.db.Depends p 3) : p ∈ [1, 2] := by
    simpa [Db.Depends, edges] using depends
  have formed : joined.db.Formed := by
    have created : workflows.exec .empty [joinRequest] = some joined := by decide +kernel
    exact (Sound.run (Machine.run_of_exec created)).formed
  exact ⟨s, done, child_unlocked formed ⟨1, by decide +kernel⟩ (Machine.run_of_exec done) stays
    (fun p depends => (parents p (only p depends)).1) fun p depends => (parents p (only p depends)).2⟩

end OrchestrateModel
