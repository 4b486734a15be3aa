import Orchestrate.Concurrency.Stages
import Orchestrate.Workflow.Protocol

namespace OrchestrateModel

open Effect ChainService

/-- An update that marks a job QUEUED finds its row READY, and one that marks a job READY finds that it has not
    left this status since. -/
def Db.Current (db : Db) : ServiceCall → Prop
  | .db (.updateJob jobId change) =>
    (change.status = some .QUEUED → db.status jobId = some .READY) ∧
    (change.status = some .READY →
      db.status jobId = some .WAITING_FOR_DEPENDENCIES ∨ db.status jobId = some .READY)
  | _ => True

instance (db : Db) : DecidablePred db.Current
  | .db (.updateJob _ _) => inferInstanceAs (Decidable (_ ∧ _))
  | .db (.findJob _) | .db (.findTenantJob _ _) | .db (.findWorkFlowJobs _) | .db (.countJobs _ _)
  | .db (.insertJob _) | .db (.findDeps _) | .db (.findChildDeps _) | .db (.countRemaining _)
  | .db (.insertDep _ _) | .db (.updateDeps _ _) | .db (.insertAttempt _ _ _) | .db (.updateAttempt _ _ _ _)
  | .db (.insertLog _) | .db (.findSequence _) | .db (.saveSequence _) | .db (.findRecurring _)
  | .db (.insertRecurring _ _ _ _ _) | .db (.saveRecurring _)
  | .submitJob _ | .randomUUID | .now => isTrue trivial

namespace Handling

variable {s s' : Handling} {i : Nat} {env : Env} {staged : Bool} {stages : List HandlerStage} {base : Desk} {x : JobId}

/-- The next call of the handler that makes the step is an update of a row that is as the handler read it, or it
    is no update. -/
def Current (s : Handling) : HandlingEvent → Prop
  | .advance i _ _ => ∀ call ∈ s.calls[i]?, ∀ c ∈ call.point.code.awaits, s.db.Current c
  | .write _ _ | .start _ _ => True

instance (s : Handling) : DecidablePred s.Current
  | .advance i _ _ => inferInstanceAs (Decidable (∀ call ∈ s.calls[i]?, ∀ c ∈ call.point.code.awaits, s.db.Current c))
  | .write _ _ | .start _ _ => isTrue trivial

/-- A job that was submitted, or that a handler is about to submit, has begun, and is so once only. -/
structure Once (base : Desk) (s : Handling) (stages : List HandlerStage) : Prop where
  staged : s.Staged stages
  once : ∀ x, s.desk.submissions x + stages.count (.armed x) ≤ base.submissions x + 1
  idle : ∀ x, ¬ s.db.Begun x → s.desk.submissions x + stages.count (.armed x) ≤ base.submissions x

/-- Jobs that have begun stay so, and no handler moves on. -/
theorem Once.mono (once : Once base s stages) (staged : s'.Staged stages) (same : s'.desk = s.desk)
    (begun : ∀ x, s.db.Begun x → s'.db.Begun x) : Once base s' stages := by
  refine ⟨staged, fun x => ?_, fun x idle => ?_⟩
  · rw [same]
    exact once.once x
  · rw [same]
    exact once.idle x fun begun' => idle (begun x begun')

theorem begun_write {jobId : JobId} {status : JobStatus} (moved : s.step (.write jobId status) = some s')
    (begun : s.db.Begun x) : s'.db.Begun x := by
  simp only [step] at moved
  split at moved
  · rename_i written
    obtain rfl := Option.some.inj moved
    obtain ⟨before, standing, begun⟩ := begun
    by_cases present : s.db.status jobId = none
    · exact ⟨before, (Db.status_updateJob_absent s.db x _ present).trans standing, begun⟩
    · have changed := Db.status_updateJob s.db jobId x status { status := some status } rfl present
      by_cases here : x = jobId
      · rw [if_pos here] at changed
        refine ⟨status, changed, ?_⟩
        have usual := written.2
        simp only [List.mem_cons, List.not_mem_nil, or_false] at usual
        rcases usual with rfl | rfl | rfl | rfl <;> simp
      · rw [if_neg here] at changed
        exact ⟨before, changed.trans standing, begun⟩
  · cases moved

/-- What a handler writes in a current step: no job that has begun is made READY. -/
theorem begun_makes {stage stage' : HandlerStage} {c : ServiceCall} (makes : HandlerStage.Makes stage c stage')
    (current : s.db.Current c)
    (effect : (s'.db, s'.desk) = (serve env (Desk.accept staged env.now) (s.db, s.desk) c).2)
    (begun : s.db.Begun x) : s'.db.Begun x := by
  obtain ⟨before, standing, unread⟩ := begun
  rcases (makes_effect makes effect).2 x with same | ⟨status, member, update, written⟩
  · exact ⟨before, same.trans standing, unread⟩
  · refine ⟨status, written, ?_⟩
    simp only [List.mem_cons, List.not_mem_nil, or_false] at member
    rcases member with rfl | rfl | rfl
    · rw [update] at current
      rcases current.2 rfl with waiting | ready
      · rw [standing] at waiting
        exact absurd (Option.some.inj waiting) unread.2
      · rw [standing] at ready
        exact absurd (Option.some.inj ready) unread.1
    · simp
    · simp

theorem count_set_armed {stage : HandlerStage} (at_i : stages[i]? = some stage) (stage' : HandlerStage) (x : JobId) :
    ((stages.set i stage').count (.armed x) : Int) = stages.count (.armed x) -
      (if stage = .armed x then 1 else 0) + if stage' = .armed x then 1 else 0 :=
  count_set at_i stage' (.armed x)

theorem Once.advance (once : Once base s stages) (moved : s.step (.advance i env staged) = some s')
    (current : s.Current (.advance i env staged)) : ∃ stages', Once base s' stages' := by
  obtain ⟨stage, c, stage', at_i, makes, ⟨call, called, awaits⟩, effect, held⟩ := once.staged.advance moved
  have now := current call called c awaits
  have begun (x : JobId) (begun : s.db.Begun x) := begun_makes makes now effect begun
  have quiet (free : stage = .free ∧ stage' = .free) (same : s'.desk = s.desk) :
      Once base s' (stages.set i stage') := by
    obtain ⟨rfl, rfl⟩ := free
    have counts (x : JobId) : (stages.set i .free).count (.armed x) = stages.count (.armed x) := by
      have moves := count_set_armed at_i .free x
      simp only [reduceCtorEq, if_false] at moves
      omega
    refine ⟨held, fun x => ?_, fun x idle => ?_⟩
    · rw [same, counts]
      exact once.once x
    · rw [same, counts]
      exact once.idle x fun before => idle (begun x before)
  refine ⟨stages.set i stage', ?_⟩
  cases makes with
  | read reads =>
    rw [serve_of_reads env _ s.db s.desk reads] at effect
    exact quiet ⟨rfl, rfl⟩ (Prod.mk.inj effect).2
  | relate childJobId status => exact quiet ⟨rfl, rfl⟩ (Prod.mk.inj effect).2
  | mark jobId status child => exact quiet ⟨rfl, rfl⟩ (Prod.mk.inj effect).2
  | queue jobId =>
    obtain ⟨sameDb, same⟩ := Prod.mk.inj effect
    have ready := now.1 rfl
    have unbegun : ¬ s.db.Begun jobId := by
      rintro ⟨status, standing, unread⟩
      rw [ready] at standing
      exact unread.1 (Option.some.inj standing).symm
    have queued : s'.db.Begun jobId := by
      refine ⟨.QUEUED, ?_, by simp, by simp⟩
      rw [sameDb]
      exact (Db.status_updateJob s.db jobId jobId .QUEUED _ rfl (by simp [ready])).trans (if_pos rfl)
    refine ⟨held, fun x => ?_, fun x idle => ?_⟩
    · have moves := count_set_armed at_i (.armed jobId) x
      rw [same]
      by_cases here : x = jobId
      · subst here
        have before := once.idle x unbegun
        simp only [reduceCtorEq, if_false, if_true] at moves
        omega
      · have before := once.once x
        simp only [reduceCtorEq, HandlerStage.armed.injEq, Ne.symm here, if_false] at moves
        omega
    · have here : x ≠ jobId := by
        rintro rfl
        exact idle queued
      have moves := count_set_armed at_i (.armed jobId) x
      have before := once.idle x fun earlier => idle (begun x earlier)
      rw [same]
      simp only [reduceCtorEq, HandlerStage.armed.injEq, Ne.symm here, if_false] at moves
      omega
  | submit payload =>
    obtain ⟨sameDb, same⟩ := Prod.mk.inj effect
    have total (x : JobId) : s'.desk.submissions x + (stages.set i .spent).count (.armed x) =
        s.desk.submissions x + stages.count (.armed x) := by
      have moves := count_set_armed at_i .spent x
      have submits : s'.desk.submissions x = s.desk.submissions x + if payload.jobId = x then 1 else 0 := by
        simp only [same, Desk.submissions, Desk.submitted_accept, List.countP_append, List.countP_singleton,
          decide_eq_true_eq]
      rw [submits]
      simp only [reduceCtorEq, HandlerStage.armed.injEq, if_false] at moves
      split at moves <;> simp_all
      omega
    refine ⟨held, fun x => ?_, fun x idle => ?_⟩
    · rw [total]
      exact once.once x
    · rw [total]
      exact once.idle x fun earlier => idle (begun x earlier)

theorem Once.step (once : ∃ stages, Once base s stages) {event : HandlingEvent} (current : s.Current event)
    (moved : s.step event = some s') : ∃ stages, Once base s' stages := by
  obtain ⟨stages, once⟩ := once
  cases event with
  | write jobId status =>
    have begun (x : JobId) (begun : s.db.Begun x) := begun_write moved begun
    simp only [Handling.step] at moved
    split at moved
    · obtain rfl := Option.some.inj moved
      exact ⟨stages, once.mono (once.staged.of_calls rfl) rfl begun⟩
    · cases moved
  | start kind jobId =>
    have held := once.staged.start moved
    simp only [Handling.step] at moved
    split at moved
    · obtain rfl := Option.some.inj moved
      have counts (x : JobId) : (stages ++ [HandlerStage.free]).count (.armed x) = stages.count (.armed x) := by
        simp
      refine ⟨_, held, fun x => ?_, fun x idle => ?_⟩
      · rw [counts]
        exact once.once x
      · rw [counts]
        exact once.idle x idle
    · cases moved
  | advance i env staged => exact once.advance moved current

theorem begun_step (held : ∃ stages, s.Staged stages) {event : HandlingEvent} (current : s.Current event)
    (moved : s.step event = some s') (begun : s.db.Begun x) : s'.db.Begun x := by
  cases event with
  | write jobId status => exact begun_write moved begun
  | start kind jobId =>
    simp only [Handling.step] at moved
    split at moved
    · obtain rfl := Option.some.inj moved
      exact begun
    · cases moved
  | advance i env staged =>
    obtain ⟨stages, held⟩ := held
    obtain ⟨stage, c, stage', _, makes, ⟨call, called, awaits⟩, effect, _⟩ := held.advance moved
    exact begun_makes makes (current call called c awaits) effect begun

theorem Once.run {db : Db} {visited : List (Handling × HandlingEvent)} (run : handling.Run (begin_ db base) visited s)
    (current : Machine.Guarded Current visited) : ∃ stages, Once base s stages := by
  apply run.invariant (fun s => ∃ stages, Once base s stages) current
  · refine ⟨[], staged_begin db base, fun x => ?_, fun x _ => ?_⟩
    · exact Nat.le_succ _
    · exact Nat.le_refl _
  · intro s event s' once current moved
    exact step once current moved

end Handling

section Runs

variable {db : Db} {desk : Desk} {visited later : List (Handling × HandlingEvent)} {s s' : Handling}

/-- While every update is current, a job is submitted at most once by the handlers, and one that was QUEUED is
    never READY again. -/
theorem submitted_once (before : handling.Run (.begin_ db desk) visited s) (after : handling.Run s later s')
    (current : Machine.Guarded Handling.Current (visited ++ later)) (x : JobId) :
    s'.desk.submissions x ≤ desk.submissions x + 1 ∧
    (s.db.status x = some .QUEUED → s'.db.status x ≠ some .READY) := by
  have earlier : Machine.Guarded Handling.Current visited := fun v member => current v (List.mem_append_left _ member)
  have once := Handling.Once.run before earlier
  have both : (∃ stages, Handling.Once desk s' stages) ∧ (s.db.Begun x → s'.db.Begun x) := by
    apply after.invariant (fun s' => (∃ stages, Handling.Once desk s' stages) ∧ (s.db.Begun x → s'.db.Begun x))
      (fun v member => current v (List.mem_append_right _ member)) ⟨once, id⟩
    intro s₁ event s₂ given current moved
    obtain ⟨once, begun⟩ := given
    have staged : ∃ stages, s₁.Staged stages := once.imp fun stages once => once.staged
    exact ⟨Handling.Once.step once current moved, fun first => Handling.begun_step staged current moved (begun first)⟩
  obtain ⟨⟨stages, once'⟩, begun⟩ := both
  refine ⟨?_, fun queued ready => ?_⟩
  · have bound := once'.once x
    omega
  · obtain ⟨status, standing, unread⟩ := begun ⟨.QUEUED, queued, by simp, by simp⟩
    rw [ready] at standing
    exact unread.1 (Option.some.inj standing).symm

end Runs

/-- Three roots. The first fails and, while the second runs, is retried by hand. -/
def retriedBeside : List WorkflowEvent :=
  [.create .plain false
      [{ key := "a", type := "send_email", retries := some 1 }, { key := "b", type := "send_email" },
        { key := "c", type := "send_email" }] "user" "tenant",
    .start .plain 0, .finish .plain false 0 (.error { message := "" }), .retry .plain false 1 "user" "tenant",
    .start .plain 1, .start .plain 2]

def beside : Workflows := (workflows.exec .empty retriedBeside).getD .empty

/-- The handler of the first job counts the second as active; the handler of the second submits the third. -/
def apart : List HandlingEvent :=
  [.write 1 .COMPLETED, .start .completed 1] ++ List.replicate 3 (.advance 0 .plain false) ++
    [.write 2 .COMPLETED, .start .completed 2] ++ List.replicate 9 (.advance 1 .plain false)

theorem submitted_once_apart : ∃ s, handling.exec (.begin_ beside.db beside.desk) apart = some s ∧
    s.db.status 3 = some .QUEUED ∧ s.desk.submissions 3 ≤ beside.desk.submissions 3 + 1 := by
  have result : (handling.exec (.begin_ beside.db beside.desk) apart).map (fun s =>
      (s.db.status 3, decide (Machine.Guarded Handling.Current
        (handling.trace (.begin_ beside.db beside.desk) apart)))) = some (some .QUEUED, true) := by decide +kernel
  obtain ⟨s, done, same⟩ := Option.map_eq_some_iff.mp result
  simp only [Prod.mk.injEq, decide_eq_true_eq] at same
  obtain ⟨queued, current⟩ := same
  rw [← List.append_nil (handling.trace _ _)] at current
  exact ⟨s, done, queued, (submitted_once (Machine.run_of_exec done) .nil current 3).1⟩

/-- Two handlers take turns, call by call. -/
def abreast : List HandlingEvent :=
  [.write 1 .COMPLETED, .write 2 .COMPLETED, .start .completed 1, .start .completed 2] ++
    (List.replicate 9 [.advance 0 .plain false, .advance 1 .plain false]).flatten

theorem submitted_twice : ¬ ∀ past start visited later s s' x, workflows.Run .empty past start →
    handling.Run (.begin_ start.db start.desk) visited s → handling.Run s later s' →
    s'.desk.submissions x ≤ start.desk.submissions x + 1 ∧
    (s.db.status x = some .QUEUED → s'.db.status x ≠ some .READY) := by
  intro once
  have created : workflows.exec .empty retriedBeside = some beside := by decide +kernel
  have twice : (handling.exec (.begin_ beside.db beside.desk) abreast).map (fun s =>
      (s.desk.submissions 3, beside.desk.submissions 3)) = some (2, 0) := by decide +kernel
  obtain ⟨s, done, same⟩ := Option.map_eq_some_iff.mp twice
  obtain ⟨submitted, unsubmitted⟩ := Prod.mk.inj same
  have bound := (once _ beside _ _ s s 3 (Machine.run_of_exec created) (Machine.run_of_exec done) .nil).1
  omega

end OrchestrateModel
