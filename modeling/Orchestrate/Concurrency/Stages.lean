import Orchestrate.Concurrency.Handlers

namespace OrchestrateModel

open Effect Program ChainService

/-- How far a handler is: it has marked no job QUEUED, it has marked one, or it has submitted that one. -/
inductive HandlerStage : Type where
  | free | armed (jobId : JobId) | spent
  deriving DecidableEq

/-- The calls that a handler makes in each stage. -/
def HandlerStage.next : HandlerStage → ServiceCall → Option HandlerStage
  | .free, .db (.updateJob jobId change) =>
    if change = { status := some .QUEUED } then some (.armed jobId)
    else if change = { status := some .READY } ∨ change = { status := some .SKIPPED } then some .free
    else none
  | .free, .db (.updateDeps _ _) => some .free
  | .free, c => if c.reads then some .free else none
  | .armed jobId, .submitJob payload => if payload.jobId = jobId then some .spent else none
  | .armed _, _ | .spent, _ => none

namespace HandlerStage

/-- A call before any job is marked QUEUED. -/
def Stays (c : ServiceCall) : Prop := next .free c = some .free

theorem stays_of_reads (c : ServiceCall) (reads : c.Reads) : Stays c := by
  cases c with
  | db c => cases c <;> first | rfl | cases reads
  | submitJob payload => cases reads
  | randomUUID => cases reads
  | now => cases reads

theorem stays_query {c : DbCall} (stays : Stays (.db c)) :
    (query c).Only Stays := only_await (S := serviceSignature) stays

theorem stays_unlockChild (childId : JobId) : (unlockChild childId).Only Stays := by
  apply (stays_query (by rfl)).bind
  intro found
  cases found with
  | none => exact only_done _
  | some child =>
    dsimp only
    split
    · exact only_done _
    · apply (stays_query (by rfl)).bind
      intro remainingDeps
      split
      · exact (stays_query (by rfl)).bind fun _ => stays_query (by rfl)
      · exact only_done _

theorem stays_skipChild (child : Option Job) : (skipChild child).Only Stays := by
  unfold skipChild
  split
  · exact only_done _
  · apply (stays_query (by rfl)).bind
    intro fullChild
    cases fullChild with
    | none => exact only_done _
    | some fullChild =>
      dsimp only
      split
      · exact stays_query (by rfl)
      · exact only_done _

theorem stays_loop (kind : HandlerKind) (jobId : JobId) :
    (kind.loop jobId).Only Stays := by
  cases kind with
  | completed =>
    apply (stays_query (by rfl)).bind
    intro found
    split
    · exact only_done _
    · apply Only.bind
      · exact (stays_query (by rfl)).bind fun _ => only_forEach fun dep _ => stays_unlockChild dep.1.childJobId
      · exact fun _ => only_done _
  | failed =>
    apply (stays_query (by rfl)).bind
    intro found
    split
    · exact only_done _
    · apply (stays_query (by rfl)).bind
      intro deps
      exact (only_forEach fun dep _ => stays_skipChild dep.2).bind fun _ => only_done _

theorem obeys_scheduleAfter (result : Option (WorkFlowId × TenantId)) :
    (scheduleAfter result).Obeys next .free := by
  cases result with
  | none => trivial
  | some both =>
    apply obeys_await (S := serviceSignature) rfl
    intro count
    split
    · trivial
    · apply Obeys.bind ((reads_pickNextJobGLobal _).mono stays_of_reads)
      intro candidate
      cases candidate with
      | none => trivial
      | some candidate =>
        have marks : next .free (.db (.updateJob candidate.id { status := some .QUEUED })) = some (.armed candidate.id) :=
          rfl
        apply obeys_await (S := serviceSignature) marks
        intro _
        cases resolveQueueName candidate.type with
        | error error => trivial
        | ok queueName =>
          have submits : next (.armed candidate.id) (.submitJob (candidatePayload candidate queueName)) = some .spent :=
            if_pos rfl
          exact obeys_await (S := serviceSignature) submits fun _ => trivial

theorem obeys_program (kind : HandlerKind) (jobId : JobId) : (kind.program jobId).Obeys next .free := by
  rw [kind.program_eq]
  exact Obeys.bind (stays_loop kind jobId) obeys_scheduleAfter

/-- The five kinds of calls, with the stage before and after. -/
inductive Makes : HandlerStage → ServiceCall → HandlerStage → Prop where
  | read {c : ServiceCall} (reads : c.Reads) : Makes .free c .free
  | relate (childJobId : JobId) (status : JobStatus) : Makes .free (.db (.updateDeps childJobId status)) .free
  | mark (jobId : JobId) (status : JobStatus) (child : status = .READY ∨ status = .SKIPPED) :
    Makes .free (.db (.updateJob jobId { status := some status })) .free
  | queue (jobId : JobId) : Makes .free (.db (.updateJob jobId { status := some .QUEUED })) (.armed jobId)
  | submit (payload : JobQueuePayload) : Makes (.armed payload.jobId) (.submitJob payload) .spent

theorem makes_of_next {stage stage' : HandlerStage} {c : ServiceCall} (allowed : next stage c = some stage') :
    Makes stage c stage' := by
  unfold next at allowed
  split at allowed
  · rename_i jobId change
    split at allowed
    · rename_i queued
      subst queued
      obtain rfl := Option.some.inj allowed
      exact .queue jobId
    · split at allowed
      · rename_i marks
        obtain rfl := Option.some.inj allowed
        rcases marks with rfl | rfl
        · exact .mark jobId .READY (.inl rfl)
        · exact .mark jobId .SKIPPED (.inr rfl)
      · cases allowed
  · obtain rfl := Option.some.inj allowed
    exact .relate _ _
  · split at allowed
    · rename_i reads
      obtain rfl := Option.some.inj allowed
      exact .read reads
    · cases allowed
  · split at allowed
    · rename_i own
      subst own
      obtain rfl := Option.some.inj allowed
      exact .submit _
    · cases allowed
  · cases allowed
  · cases allowed

end HandlerStage

theorem serve_of_reads {γ : Type} (env : Env) (gate : γ → JobQueuePayload → Except Err JobStatus × γ) (db : Db) (g : γ)
    {c : ServiceCall} (reads : c.Reads) : (serve env gate (db, g) c).2 = (db, g) := by
  cases c with
  | db c => cases c <;> first | rfl | cases reads
  | submitJob payload => cases reads
  | randomUUID => cases reads
  | now => cases reads

namespace Handling

variable {s s' : Handling} {i : Nat} {env : Env} {staged : Bool} {stages : List HandlerStage}

/-- A handler makes its next call. -/
theorem advance_cases (moved : s.step (.advance i env staged) = some s') :
    ∃ call point c rest, s.calls[i]? = some call ∧ call.point.code = .call c rest ∧
      call.point.turn (serve env (Desk.accept staged env.now)) (s.db, s.desk) = some (point, s'.db, s'.desk) ∧
      point.code = rest (serve env (Desk.accept staged env.now) (s.db, s.desk) c).1 ∧
      (s'.db, s'.desk) = (serve env (Desk.accept staged env.now) (s.db, s.desk) c).2 ∧
      s'.calls = s.calls.set i { call with point := point } := by
  simp only [step, Option.bind_eq_bind, Option.bind_eq_some_iff] at moved
  obtain ⟨call, at_i, ⟨point, db, desk⟩, turned, same⟩ := moved
  obtain rfl := Option.some.inj same
  have coded := HandlerPoint.turn_code (serve env (Desk.accept staged env.now)) (s.db, s.desk) call.point
  rw [turned, Option.map_some] at coded
  obtain ⟨c, rest, waiting, resumed, effect⟩ := turn_cases coded
  exact ⟨call, point, c, rest, at_i, waiting, turned, resumed, effect, rfl⟩

/-- Each handler is in its stage. -/
structure Staged (s : Handling) (stages : List HandlerStage) : Prop where
  length : stages.length = s.calls.length
  obeys : ∀ (i : Nat) (call : HandlerCall) (stage : HandlerStage), s.calls[i]? = some call →
    stages[i]? = some stage → call.point.code.Obeys HandlerStage.next stage

theorem staged_begin (db : Db) (desk : Desk) : (begin_ db desk).Staged [] := by
  refine ⟨rfl, fun i call stage at_i => ?_⟩
  cases at_i

theorem Staged.of_calls (held : s.Staged stages) (same : s'.calls = s.calls) : s'.Staged stages := by
  obtain ⟨length, obeys⟩ := held
  rw [← same] at length obeys
  exact ⟨length, obeys⟩

theorem Staged.start (held : s.Staged stages) {kind : HandlerKind} {jobId : JobId}
    (moved : s.step (.start kind jobId) = some s') : s'.Staged (stages ++ [.free]) := by
  simp only [step] at moved
  split at moved
  · obtain rfl := Option.some.inj moved
    have length := held.length
    refine ⟨by simp [length], fun i call stage at_i staged => ?_⟩
    simp only [List.getElem?_append, length] at at_i staged
    split at at_i
    · rename_i bound
      rw [if_pos bound] at staged
      exact held.obeys i call stage at_i staged
    · rename_i bound
      rw [if_neg bound] at staged
      obtain rfl := List.mem_singleton.mp (List.mem_of_getElem? at_i)
      obtain rfl := List.mem_singleton.mp (List.mem_of_getElem? staged)
      have obeys := HandlerStage.obeys_program kind jobId
      rwa [kind.program_eq] at obeys
  · cases moved

theorem Staged.advance (held : s.Staged stages) (moved : s.step (.advance i env staged) = some s') :
    ∃ stage c stage', stages[i]? = some stage ∧ HandlerStage.Makes stage c stage' ∧
      (∃ call, s.calls[i]? = some call ∧ call.point.code.awaits = some c) ∧
      (s'.db, s'.desk) = (serve env (Desk.accept staged env.now) (s.db, s.desk) c).2 ∧
      s'.Staged (stages.set i stage') := by
  obtain ⟨call, point, c, rest, at_i, waiting, _, resumed, effect, calls⟩ := advance_cases moved
  have bound := (List.getElem?_eq_some_iff.mp at_i).1
  have bound' : i < stages.length := by
    rw [held.length]
    exact bound
  have obeys := held.obeys i call stages[i] at_i (List.getElem?_eq_getElem bound')
  rw [waiting] at obeys
  obtain ⟨stage', allowed, later⟩ := obeys
  refine ⟨stages[i], c, stage', List.getElem?_eq_getElem bound', HandlerStage.makes_of_next allowed,
    ⟨call, at_i, by rw [waiting]; rfl⟩, effect, ?_, fun k call' stage at_k staged_k => ?_⟩
  · rw [calls, List.length_set, List.length_set, held.length]
  · rw [calls, List.getElem?_set] at at_k
    rw [List.getElem?_set] at staged_k
    split at at_k
    · rename_i here
      subst here
      rw [if_pos rfl, if_pos bound'] at staged_k
      obtain rfl := Option.some.inj at_k
      obtain rfl := Option.some.inj staged_k
      rw [resumed]
      exact later _
    · rename_i other
      rw [if_neg other] at staged_k
      exact held.obeys k call' stage at_k staged_k

/-- What a call does to the tables. -/
theorem makes_effect {stage stage' : HandlerStage} {c : ServiceCall} (makes : HandlerStage.Makes stage c stage')
    (effect : (s'.db, s'.desk) = (serve env (Desk.accept staged env.now) (s.db, s.desk) c).2) :
    Db.Kept s.db s'.db ∧ ∀ x, s'.db.status x = s.db.status x ∨
      ∃ status ∈ [JobStatus.READY, .SKIPPED, .QUEUED], c = .db (.updateJob x { status := some status }) ∧
        s'.db.status x = some status := by
  have marked {jobId : JobId} {status : JobStatus} (member : status ∈ [JobStatus.READY, .SKIPPED, .QUEUED])
      (same : s'.db = s.db.updateJob jobId { status := some status })
      (call : c = .db (.updateJob jobId { status := some status })) : Db.Kept s.db s'.db ∧
        ∀ x, s'.db.status x = s.db.status x ∨ ∃ status ∈ [JobStatus.READY, .SKIPPED, .QUEUED],
          c = .db (.updateJob x { status := some status }) ∧ s'.db.status x = some status := by
    rw [same]
    refine ⟨Db.kept_updateJob s.db jobId _, fun x => ?_⟩
    by_cases present : s.db.status jobId = none
    · exact .inl (Db.status_updateJob_absent s.db x _ present)
    · rw [Db.status_updateJob s.db jobId x status _ rfl present]
      split
      · rename_i here
        subst here
        exact .inr ⟨status, member, call, rfl⟩
      · exact .inl rfl
  cases makes with
  | read reads =>
    rw [serve_of_reads env _ s.db s.desk reads] at effect
    obtain ⟨same, _⟩ := Prod.mk.inj effect
    rw [same]
    exact ⟨.refl _, fun _ => .inl rfl⟩
  | relate childJobId status =>
    obtain ⟨same, _⟩ := Prod.mk.inj effect
    rw [same]
    exact ⟨Db.kept_updateDeps s.db childJobId status, fun _ => .inl rfl⟩
  | mark jobId status child => exact marked (by rcases child with rfl | rfl <;> simp) (Prod.mk.inj effect).1 rfl
  | queue jobId => exact marked (by simp) (Prod.mk.inj effect).1 rfl
  | submit payload =>
    obtain ⟨same, _⟩ := Prod.mk.inj effect
    rw [same]
    exact ⟨.refl _, fun _ => .inl rfl⟩

end Handling
end OrchestrateModel
