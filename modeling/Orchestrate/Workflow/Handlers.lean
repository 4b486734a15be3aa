import Orchestrate.Workflow.Pick

namespace OrchestrateModel

open Effect ChainService

variable {γ : Type} {env : Env} {gate : γ → JobQueuePayload → Except Err JobStatus × γ} {db : Db} {g : γ}
  {workFlowId : WorkFlowId}

namespace Db

variable {id p x : JobId} {job : Job}

theorem active_iff (keyed : db.Keyed) (workFlowId : WorkFlowId) :
    0 < (db.workFlowJobs workFlowId).countP (fun job => [JobStatus.QUEUED, .PROCESSING].contains job.status) ↔
      db.Active workFlowId := by
  rw [List.countP_pos_iff]
  constructor
  · rintro ⟨job, member, busy⟩
    obtain ⟨present, own⟩ := List.mem_filter.mp member
    have row := job?_of_mem keyed present
    refine ⟨job.id, ?_, ?_⟩
    · simpa [Db.workFlowOf, row] using own
    · simpa [Db.status, row] using busy
  · rintro ⟨id, own, busy⟩
    cases row : db.job? id with
    | none => simp [Db.workFlowOf, row] at own
    | some job =>
      refine ⟨job, List.mem_filter.mpr ⟨mem_of_job? row, ?_⟩, ?_⟩
      · simpa [Db.workFlowOf, row] using own
      · simpa [Db.status, row] using busy

/-- Every parent of a job is COMPLETED. -/
def ParentsDone (db : Db) (id : JobId) : Prop :=
  ∀ p, db.Depends p id → ∀ status, db.status p = some status → status = .COMPLETED

theorem remaining_eq_nil : (db.remaining id).length = 0 ↔ db.ParentsDone id := by
  rw [List.length_eq_zero_iff, Db.remaining, List.filter_eq_nil_iff]
  constructor
  · intro none_ p depends status standing
    obtain ⟨dep, member, same⟩ := List.mem_map.mp depends
    obtain ⟨rfl, rfl⟩ : dep.parentJobId = p ∧ dep.childJobId = id := by simpa using same
    obtain ⟨job, row, rfl⟩ := status_eq_some.mp standing
    simpa [row] using none_ dep member
  · intro done dep member open_
    simp only [Bool.and_eq_true, decide_eq_true_eq, Option.any_eq_true_iff_get, bne_iff_ne, ne_eq] at open_
    obtain ⟨rfl, isSome, unfinished⟩ := open_
    obtain ⟨job, row⟩ := Option.isSome_iff_exists.mp isSome
    have depends : db.Depends dep.parentJobId dep.childJobId := List.mem_map_of_mem member
    have completed := done dep.parentJobId depends job.status (by simp [Db.status, row])
    simp [row, completed] at unfinished

theorem mem_childDeps {dep : JobDependency} (env : Env) :
    dep ∈ env.arrangeDeps (db.childDeps p) ↔ dep ∈ db.deps ∧ dep.parentJobId = p := by
  rw [(env.arrangeDeps_perm _).mem_iff]
  simp [childDeps]

end Db

/-- The payload that `scheduleNextJob` submits for a job. -/
def candidatePayload (job : Job) (queueName : String) : JobQueuePayload :=
  { jobId := job.id
    jobType := job.type
    tenantId := job.tenantId
    priorityLevel := job.priorityLevel
    retries := job.retries
    metadata := job.metadata
    idempotencyKey := some (uuidText job.id)
    queueName := queueName }

/-- A picked job is marked QUEUED and then submitted. -/
def offer (gate : γ → JobQueuePayload → Except Err JobStatus × γ) (job : Job) (db : Db) (g : γ) :
    Outcome Err Unit × Db × γ :=
  let queued := db.updateJob job.id { status := some .QUEUED }
  match resolveQueueName job.type with
  | .error error => (.thrown error, queued, g)
  | .ok queueName =>
    match gate g (candidatePayload job queueName) with
    | (.error error, g') => (.thrown error, queued, g')
    | (.ok _, g') => (.ok (), queued, g')

/-- All that `scheduleNextJob` can do. -/
inductive Scheduled (env : Env) (gate : γ → JobQueuePayload → Except Err JobStatus × γ)
    (workFlowId : WorkFlowId) (db : Db) (g : γ) : Outcome Err Unit × Db × γ → Prop where
  | busy (active : db.Active workFlowId) : Scheduled env gate workFlowId db g (.ok (), db, g)
  | endless (idle : ¬ db.Active workFlowId) (picked : db.pick env workFlowId = none) :
    Scheduled env gate workFlowId db g (.hung, db, g)
  | nothing (idle : ¬ db.Active workFlowId) (picked : db.pick env workFlowId = some none) :
    Scheduled env gate workFlowId db g (.ok (), db, g)
  | next (idle : ¬ db.Active workFlowId) (job : Job) (picked : db.pick env workFlowId = some (some job.id))
    (row : db.job? job.id = some job) (ready : job.status = .READY) :
    Scheduled env gate workFlowId db g (offer gate job db g)

theorem Scheduled.endless_of_hung {s : Db × γ} (scheduled : Scheduled env gate workFlowId db g (.hung, s)) :
    db.pick env workFlowId = none := by
  generalize result : ((.hung : Outcome Err Unit), s) = r at scheduled
  cases scheduled with
  | busy active => cases result
  | endless idle picked => exact picked
  | nothing idle picked => cases result
  | next idle job picked row ready =>
    unfold offer at result
    repeat' split at result
    all_goals cases result

theorem pick_ready {id : JobId} (picked : db.pick env workFlowId = some (some id)) :
    ∃ job, db.job? id = some job ∧ job.id = id ∧ job.status = .READY := by
  have taken : judge (db.status id) = .take := by
    rcases Search.level_found picked with ⟨_, taken⟩ | ⟨a, _, _, deep⟩
    · exact taken
    · exact (Search.below_found deep).1
  cases row : db.job? id with
  | none => simp [Db.status, row, judge] at taken
  | some job =>
    refine ⟨job, rfl, Db.id_of_job? row, ?_⟩
    simp only [Db.status, row, Option.map_some] at taken
    cases standing : job.status <;> simp_all [judge]

theorem run_scheduleNextJob (env : Env) (gate : γ → JobQueuePayload → Except Err JobStatus × γ) (g : γ)
    (keyed : db.Keyed) (workFlowId : WorkFlowId) (tenantId : TenantId) :
    Scheduled env gate workFlowId db g
      ((scheduleNextJob workFlowId tenantId).run (serve env gate) (db, g)) := by
  simp only [scheduleNextJob, Program.bind_eq]
  rw [Program.run_bind_ok _ (run_count env gate db g workFlowId _)]
  by_cases active : db.Active workFlowId
  · rw [if_pos ((Db.active_iff keyed workFlowId).mpr active)]
    exact .busy active
  · rw [if_neg (fun positive => active ((Db.active_iff keyed workFlowId).mp positive)), Program.run_bind,
      run_pickNextJobGLobal keyed]
    cases picked : db.pick env workFlowId with
    | none => exact .endless active picked
    | some result =>
      cases result with
      | none => exact .nothing active picked
      | some id =>
        obtain ⟨job, row, rfl, ready⟩ := pick_ready picked
        simp only [Db.found, Option.bind_some, row]
        have step : Scheduled env gate workFlowId db g (offer gate job db g) := .next active job picked row ready
        convert step using 1
        rw [Program.run_bind_ok _ (run_update env gate db g job.id _), offer]
        cases resolveQueueName job.type with
        | error error => rfl
        | ok queueName =>
          simp only [Program.ofExcept, Program.bind_done]
          rw [Program.run_bind, run_submit]
          dsimp only [candidatePayload]
          cases gate g _ with
          | mk result g' => cases result <;> rfl

namespace Db

variable {x : JobId}

/-- The jobs that `unlockChildren` makes READY when it runs for a parent. -/
def Unlocks (db : Db) (p x : JobId) : Prop :=
  db.Depends p x ∧ db.status x = some .WAITING_FOR_DEPENDENCIES ∧ db.ParentsDone x

/-- The jobs that `handleParentFailure` skips when it runs for a parent. -/
def Skips (db : Db) (p x : JobId) : Prop := db.Depends p x ∧ db.Strict x

theorem depends_of_dep {dep : JobDependency} {p : JobId}
    (member : dep ∈ env.arrangeDeps (db.childDeps p)) : db.Depends p dep.childJobId := by
  obtain ⟨present, rfl⟩ := (mem_childDeps env).mp member
  exact List.mem_map_of_mem present

theorem exists_dep (env : Env) {p : JobId} (depends : db.Depends p x) :
    ∃ dep ∈ env.arrangeDeps (db.childDeps p), dep.childJobId = x := by
  obtain ⟨dep, present, same⟩ := List.mem_map.mp depends
  obtain ⟨rfl, rfl⟩ : dep.parentJobId = p ∧ dep.childJobId = x := by simpa using same
  exact ⟨dep, (mem_childDeps env).mpr ⟨present, rfl⟩, rfl⟩

/-- Marking waiting jobs READY leaves open which jobs still wait for a parent. -/
theorem parentsDone_congr {db db' : Db} (kept : Kept db db')
    (same : ∀ p, db'.status p = db.status p ∨
      (db.status p = some .WAITING_FOR_DEPENDENCIES ∧ db'.status p = some .READY)) :
    db'.ParentsDone x ↔ db.ParentsDone x := by
  constructor
  · intro done p depends status standing
    rcases same p with equal | ⟨waiting, ready⟩
    · exact done p ((kept.depends p x).mpr depends) status (equal.trans standing)
    · have impossible := done p ((kept.depends p x).mpr depends) .READY ready
      cases impossible
  · intro done p depends status standing
    rcases same p with equal | ⟨waiting, ready⟩
    · exact done p ((kept.depends p x).mp depends) status (equal.symm.trans standing)
    · have impossible := done p ((kept.depends p x).mp depends) _ waiting
      cases impossible

end Db

/-- `unlockChild` unlocks a waiting child whose parents are all COMPLETED, and else does nothing. -/
theorem run_unlockChild (env : Env) (gate : γ → JobQueuePayload → Except Err JobStatus × γ) (db : Db) (g : γ)
    (childId : JobId) :
    ∃ db', (unlockChild childId).run (serve env gate) (db, g) = (.ok (), db', g) ∧ Db.Kept db db' ∧
      ((db.status childId = some .WAITING_FOR_DEPENDENCIES ∧ db.ParentsDone childId ∧
          ∀ x, db'.status x = if x = childId then some .READY else db.status x) ∨
        (¬ (db.status childId = some .WAITING_FOR_DEPENDENCIES ∧ db.ParentsDone childId) ∧ db' = db)) := by
  simp only [unlockChild, Program.bind_eq]
  rw [Program.run_bind_ok _ (run_findOne env gate db g childId)]
  cases row : db.job? childId with
  | none => exact ⟨db, rfl, .refl db, .inr ⟨by simp [Db.status, row], rfl⟩⟩
  | some child =>
    have own := Db.id_of_job? row
    subst own
    have status : db.status child.id = some child.status := by simp [Db.status, row]
    dsimp only
    by_cases waiting : child.status = .WAITING_FOR_DEPENDENCIES
    · rw [if_neg (not_not.mpr waiting), Program.run_bind_ok _ (run_countRemaining env gate db g child.id)]
      by_cases done : db.ParentsDone child.id
      · rw [if_pos (Db.remaining_eq_nil.mpr done), Program.run_bind_ok _ (run_update env gate db g child.id _),
          run_updateDeps]
        refine ⟨_, rfl, (Db.kept_updateJob db child.id _).trans (Db.kept_updateDeps _ child.id _),
          .inl ⟨by rw [status, waiting], done, fun x => ?_⟩⟩
        rw [Db.status_updateDeps, Db.status_updateJob db child.id x .READY _ rfl (by simp [status])]
      · rw [if_neg (fun zero => done (Db.remaining_eq_nil.mp zero))]
        exact ⟨db, rfl, .refl db, .inr ⟨fun both => done both.2, rfl⟩⟩
    · rw [if_pos waiting]
      exact ⟨db, rfl, .refl db, .inr ⟨fun both => waiting (by simpa [status] using both.1), rfl⟩⟩

open Classical in
/-- The state of `unlockChildren` once some of the children have been visited. -/
def Unlocked (db : Db) (g : γ) (parentId : JobId) (visited : List (JobDependency × Option Job)) (s : Db × γ) :
    Prop :=
  Db.Kept db s.1 ∧ s.2 = g ∧ ∀ x, s.1.status x =
    if x ∈ visited.map (·.1.childJobId) ∧ db.Unlocks parentId x then some .READY else db.status x

open Classical in
theorem unlocked_step {parentId : JobId} {visited : List (JobDependency × Option Job)}
    {item : JobDependency × Option Job} {s : Db × γ} (depends : db.Depends parentId item.1.childJobId)
    (before : Unlocked db g parentId visited s) :
    ∃ s', (unlockChild item.1.childJobId).run (serve env gate) s = (.ok (), s') ∧
      Unlocked db g parentId (visited ++ [item]) s' := by
  obtain ⟨db₁, g₁⟩ := s
  obtain ⟨kept, rfl, status⟩ := before
  obtain ⟨db₂, ran, kept₂, result⟩ := run_unlockChild env gate db₁ g₁ item.1.childJobId
  have parents (x : JobId) : db₁.ParentsDone x ↔ db.ParentsDone x := by
    refine Db.parentsDone_congr kept fun p => ?_
    by_cases unlocked : p ∈ visited.map (·.1.childJobId) ∧ db.Unlocks parentId p
    · exact .inr ⟨unlocked.2.2.1, by rw [status, if_pos unlocked]⟩
    · exact .inl (by rw [status, if_neg unlocked])
  refine ⟨(db₂, g₁), ran, kept.trans kept₂, rfl, fun x => ?_⟩
  rcases result with ⟨waiting, done, changed⟩ | ⟨unready, rfl⟩
  · have fresh : db.status item.1.childJobId = some .WAITING_FOR_DEPENDENCIES := by
      rw [status] at waiting
      split at waiting
      · cases waiting
      · exact waiting
    have unlocks : db.Unlocks parentId item.1.childJobId := ⟨depends, fresh, (parents _).mp done⟩
    rw [changed, status]
    by_cases here : x = item.1.childJobId
    · subst here
      simp [unlocks]
    · simp only [here, if_false, List.map_append, List.map_cons, List.map_nil, List.mem_append, List.mem_singleton,
        or_false]
  · rw [status]
    by_cases here : x = item.1.childJobId
    · subst here
      by_cases unlocks : db.Unlocks parentId item.1.childJobId
      · have already : item.1.childJobId ∈ visited.map (·.1.childJobId) := by
          by_contra new
          refine unready ⟨?_, (parents _).mpr unlocks.2.2⟩
          rw [status, if_neg (fun both => new both.1)]
          exact unlocks.2.1
        have later : item.1.childJobId ∈ (visited ++ [item]).map (·.1.childJobId) := by simp
        rw [if_pos ⟨already, unlocks⟩, if_pos ⟨later, unlocks⟩]
      · rw [if_neg (fun both => unlocks both.2), if_neg (fun both => unlocks both.2)]
    · simp only [here, List.map_append, List.map_cons, List.map_nil, List.mem_append, List.mem_singleton, or_false]

open Classical in
/-- `unlockChildren` makes the waiting children READY whose parents are all COMPLETED. -/
theorem run_unlockChildren (env : Env) (gate : γ → JobQueuePayload → Except Err JobStatus × γ) (db : Db) (g : γ)
    (parentId : JobId) : ∃ db',
    (unlockChildren parentId).run (serve env gate) (db, g) = (.ok (), db', g) ∧ Db.Kept db db' ∧
      ∀ x, db'.status x = if db.Unlocks parentId x then some .READY else db.status x := by
  simp only [unlockChildren, Program.bind_eq]
  rw [Program.run_bind_ok _ (run_findByParent env gate db g parentId)]
  have start : Unlocked db g parentId [] (db, g) := ⟨.refl db, rfl, by simp⟩
  obtain ⟨⟨db', g'⟩, done, kept, rfl, status⟩ := Program.run_forEach (serve env gate)
    ((env.arrangeDeps (db.childDeps parentId)).map fun dep => (dep, db.job? dep.childJobId))
    (fun dep => unlockChild dep.1.childJobId) (Unlocked db g parentId) start fun visited item s member before => by
      obtain ⟨dep, present, rfl⟩ := List.mem_map.mp member
      exact unlocked_step (Db.depends_of_dep present) before
  refine ⟨db', done, kept, fun x => ?_⟩
  have visited : (x ∈ ((env.arrangeDeps (db.childDeps parentId)).map fun dep =>
      (dep, db.job? dep.childJobId)).map (·.1.childJobId) ∧ db.Unlocks parentId x) ↔ db.Unlocks parentId x := by
    refine ⟨fun both => both.2, fun unlocks => ⟨?_, unlocks⟩⟩
    obtain ⟨dep, member, rfl⟩ := Db.exists_dep env unlocks.1
    simp only [List.map_map, List.mem_map]
    exact ⟨dep, member, rfl⟩
  rw [status]
  simp only [visited]

/-- `skipChild` skips a STRICT child, and else does nothing. -/
theorem run_skipChild (env : Env) (gate : γ → JobQueuePayload → Except Err JobStatus × γ) (g : γ)
    {child : Job} (row : db.job? child.id ≠ none) :
    ∃ db', (skipChild (some child)).run (serve env gate) (db, g) = (.ok (), db', g) ∧ Db.Kept db db' ∧
      ((db.Strict child.id ∧ ∀ x, db'.status x = if x = child.id then some .SKIPPED else db.status x) ∨
        (¬ db.Strict child.id ∧ db' = db)) := by
  simp only [skipChild, Program.bind_eq]
  rw [Program.run_bind_ok _ (run_findOne env gate db g child.id)]
  cases found : db.job? child.id with
  | none => exact absurd found row
  | some fullChild =>
    have own := Db.id_of_job? found
    dsimp only
    by_cases strict : fullChild.faliureStrategy = some .STRICT
    · rw [if_pos strict, run_update]
      refine ⟨_, rfl, Db.kept_updateJob db fullChild.id _, .inl ⟨⟨fullChild, found, strict⟩, fun x => ?_⟩⟩
      rw [Db.status_updateJob db fullChild.id x .SKIPPED _ rfl (by simp [Db.status, own, found]), own]
    · rw [if_neg strict]
      refine ⟨db, rfl, .refl db, .inr ⟨?_, rfl⟩⟩
      rintro ⟨job, same, strict'⟩
      obtain rfl : fullChild = job := Option.some.inj (found.symm.trans same)
      exact strict strict'

open Classical in
/-- The state of `handleParentFailure` once some of the children have been visited. -/
def Skipped (db : Db) (g : γ) (visited : List (JobDependency × Option Job)) (s : Db × γ) : Prop :=
  Db.Kept db s.1 ∧ s.2 = g ∧ ∀ x, s.1.status x =
    if x ∈ visited.map (·.1.childJobId) ∧ db.Strict x then some .SKIPPED else db.status x

open Classical in
theorem skipped_step {dep : JobDependency} {visited : List (JobDependency × Option Job)} {s : Db × γ}
    (before : Skipped db g visited s) :
    ∃ s', (skipChild (db.job? dep.childJobId)).run (serve env gate) s = (.ok (), s') ∧
      Skipped db g (visited ++ [(dep, db.job? dep.childJobId)]) s' := by
  obtain ⟨db₁, g₁⟩ := s
  obtain ⟨kept, rfl, status⟩ := before
  cases row : db.job? dep.childJobId with
  | none =>
    have lax : ¬ db.Strict dep.childJobId := by
      intro strict
      obtain ⟨job, found, _⟩ := strict
      rw [row] at found
      cases found
    refine ⟨(db₁, g₁), rfl, kept, rfl, fun x => ?_⟩
    rw [status]
    by_cases here : x = dep.childJobId
    · subst here
      rw [if_neg (fun both => lax both.2), if_neg (fun both => lax both.2)]
    · simp only [here, List.map_append, List.map_cons, List.map_nil, List.mem_append, List.mem_singleton, or_false]
  | some child =>
    have own := Db.id_of_job? row
    have present : db₁.job? child.id ≠ none := by
      have same := kept.job? child.id
      intro absent
      rw [absent, own, row] at same
      cases same
    obtain ⟨db₂, ran, kept₂, result⟩ := run_skipChild env gate g₁ present
    refine ⟨(db₂, g₁), ran, kept.trans kept₂, rfl, fun x => ?_⟩
    rw [kept.strict, own] at result
    rcases result with ⟨strict, changed⟩ | ⟨lax, rfl⟩
    · rw [changed, status]
      by_cases here : x = dep.childJobId
      · subst here
        simp [strict]
      · simp only [here, if_false, List.map_append, List.map_cons, List.map_nil, List.mem_append,
          List.mem_singleton, or_false]
    · rw [status]
      by_cases here : x = dep.childJobId
      · subst here
        rw [if_neg (fun both => lax both.2), if_neg (fun both => lax both.2)]
      · simp only [here, List.map_append, List.map_cons, List.map_nil, List.mem_append, List.mem_singleton,
          or_false]

open Classical in
/-- The loop of `handleParentFailure` skips the STRICT children. -/
theorem run_skipChildren (env : Env) (gate : γ → JobQueuePayload → Except Err JobStatus × γ) (db : Db) (g : γ)
    (parentId : JobId) : ∃ db',
    (Program.forEach ((env.arrangeDeps (db.childDeps parentId)).map fun dep => (dep, db.job? dep.childJobId))
      fun dep => skipChild dep.2).run (serve env gate) (db, g) = (.ok (), db', g) ∧ Db.Kept db db' ∧
      ∀ x, db'.status x = if db.Skips parentId x then some .SKIPPED else db.status x := by
  have start : Skipped db g [] (db, g) := ⟨.refl db, rfl, by simp⟩
  obtain ⟨⟨db', g'⟩, done, kept, rfl, status⟩ := Program.run_forEach (serve env gate)
    ((env.arrangeDeps (db.childDeps parentId)).map fun dep => (dep, db.job? dep.childJobId))
    (fun dep => skipChild dep.2) (Skipped db g) start fun visited item s member before => by
      obtain ⟨dep, present, rfl⟩ := List.mem_map.mp member
      exact skipped_step before
  refine ⟨db', done, kept, fun x => ?_⟩
  have visited : (x ∈ ((env.arrangeDeps (db.childDeps parentId)).map fun dep =>
      (dep, db.job? dep.childJobId)).map (·.1.childJobId) ∧ db.Strict x) ↔ db.Skips parentId x := by
    refine and_congr_left fun _ => ⟨fun member => ?_, fun depends => ?_⟩
    · simp only [List.map_map, List.mem_map] at member
      obtain ⟨dep, present, rfl⟩ := member
      exact Db.depends_of_dep present
    · obtain ⟨dep, member, rfl⟩ := Db.exists_dep env depends
      simp only [List.map_map, List.mem_map]
      exact ⟨dep, member, rfl⟩
  rw [status]
  simp only [visited]

open Classical in
/-- `onJobCompleted`: unlock the children, then schedule. -/
theorem run_onJobCompleted (env : Env) (gate : γ → JobQueuePayload → Except Err JobStatus × γ) (g : γ)
    (keyed : db.Keyed) {jobId : JobId} (own : db.workFlowOf jobId = some workFlowId) :
    ∃ db', Db.Kept db db' ∧
      (∀ x, db'.status x = if db.Unlocks jobId x then some .READY else db.status x) ∧
      Scheduled env gate workFlowId db' g ((onJobCompleted jobId).run (serve env gate) (db, g)) := by
  obtain ⟨job, row, own⟩ := Option.bind_eq_some_iff.mp own
  obtain ⟨db', unlocked, kept, status⟩ := run_unlockChildren env gate db g jobId
  refine ⟨db', kept, status, ?_⟩
  simp only [onJobCompleted, Program.bind_eq]
  rw [Program.run_bind_ok _ (run_findOne env gate db g jobId)]
  simp only [row, Option.bind_some, own, Option.map_some]
  rw [Program.run_bind_ok _ unlocked]
  exact run_scheduleNextJob env gate g (kept.keyed keyed) _ job.tenantId

open Classical in
/-- `handleParentFailure`: skip the STRICT children, then schedule. -/
theorem run_handleParentFailure (env : Env) (gate : γ → JobQueuePayload → Except Err JobStatus × γ) (g : γ)
    (keyed : db.Keyed) {jobId : JobId} (own : db.workFlowOf jobId = some workFlowId) :
    ∃ db', Db.Kept db db' ∧
      (∀ x, db'.status x = if db.Skips jobId x then some .SKIPPED else db.status x) ∧
      Scheduled env gate workFlowId db' g ((handleParentFailure jobId).run (serve env gate) (db, g)) := by
  obtain ⟨job, row, own⟩ := Option.bind_eq_some_iff.mp own
  obtain ⟨db', skipped, kept, status⟩ := run_skipChildren env gate db g jobId
  refine ⟨db', kept, status, ?_⟩
  simp only [handleParentFailure, Program.bind_eq]
  rw [Program.run_bind_ok _ (run_findOne env gate db g jobId)]
  simp only [row, Option.bind_some, own, Option.map_some]
  rw [Program.run_bind_ok _ (run_findByParent env gate db g jobId), Program.run_bind_ok _ skipped]
  exact run_scheduleNextJob env gate g (kept.keyed keyed) _ job.tenantId

theorem run_onJobCompleted_alone {jobId : JobId} (own : db.workFlowOf jobId = none) :
    (onJobCompleted jobId).run (serve env gate) (db, g) = (.ok (), db, g) := by
  simp only [onJobCompleted, Program.bind_eq]
  rw [Program.run_bind_ok _ (run_findOne env gate db g jobId)]
  cases row : db.job? jobId with
  | none => rfl
  | some job =>
    have absent : job.workFlowId = none := by simpa [Db.workFlowOf, row] using own
    simp [absent]

theorem run_handleParentFailure_alone {jobId : JobId} (own : db.workFlowOf jobId = none) :
    (handleParentFailure jobId).run (serve env gate) (db, g) = (.ok (), db, g) := by
  simp only [handleParentFailure, Program.bind_eq]
  rw [Program.run_bind_ok _ (run_findOne env gate db g jobId)]
  cases row : db.job? jobId with
  | none => rfl
  | some job =>
    have absent : job.workFlowId = none := by simpa [Db.workFlowOf, row] using own
    simp [absent]

end OrchestrateModel
