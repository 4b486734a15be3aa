import Orchestrate.Lifecycle.Stores

namespace OrchestrateModel

open Effect Program ChainService

namespace Stores

variable {σ : Type} {h : Handler serviceSignature Err σ} {db : σ → Db} {s : σ} {tables : Db}
  {assumed allowed : σ → ServiceCall → Prop}

section Search

theorem safe_searchSiblings {load : Job → ServiceProgram (Option Job)} {deeper : JobId → ServiceProgram (Option Job)}
    {jobs : List Job}
    (loads : ∀ job ∈ jobs, ∀ s, db s = tables → Safe h assumed allowed
      (fun loaded s' => db s' = tables ∧ ∀ full, loaded = some full → tables.job? full.id = some full)
      (fun _ s' => db s' = tables) (load job) s)
    (searches : ∀ id s, db s = tables → Safe h assumed allowed
      (fun found s' => db s' = tables ∧ Found tables found) (fun _ s' => db s' = tables) (deeper id) s)
    (start : db s = tables) :
    Safe h assumed allowed (fun found s' => db s' = tables ∧ Found tables found) (fun _ s' => db s' = tables)
      (searchSiblings load deeper jobs) s := by
  have nothing : Found tables none := fun job equal => by cases equal
  induction jobs generalizing s with
  | nil => exact ⟨start, nothing⟩
  | cons sibling rest ih =>
    have later {s : σ} := ih (s := s) fun job member => loads job (List.mem_cons_of_mem sibling member)
    apply Safe.bind
    refine (loads sibling List.mem_cons_self s start).mono (fun _ _ same => same) ?_ fun _ _ same => same
    intro loaded s₁ given
    obtain ⟨same, row⟩ := given
    cases loaded with
    | none => exact later same
    | some full =>
      have descends (next : Option Job → ServiceProgram (Option Job))
          (stops : ∀ ready, next (some ready) = .done (some ready)) (goesOn : next none = searchSiblings load deeper rest) :
          Safe h assumed allowed (fun found s' => db s' = tables ∧ Found tables found) (fun _ s' => db s' = tables)
            ((deeper full.id).bind next) s₁ := by
        apply Safe.bind
        refine (searches full.id s₁ same).mono (fun _ _ same => same) ?_ fun _ _ same => same
        intro descendant s₂ given
        obtain ⟨same₂, found⟩ := given
        cases descendant with
        | none =>
          rw [goesOn]
          exact later same₂
        | some ready =>
          rw [stops]
          exact ⟨same₂, found⟩
      dsimp only
      cases status : full.status with
      | READY =>
        refine ⟨same, fun job equal => ?_⟩
        obtain rfl := Option.some.inj equal
        exact ⟨row full rfl, status⟩
      | QUEUED | PROCESSING | WAITING_FOR_DEPENDENCIES => exact ⟨same, nothing⟩
      | COMPLETED | SKIPPED => exact descends _ (fun _ => rfl) rfl
      | FAILED | SCHEDULED | PENDING | STAGED => exact later same

theorem safe_pickBestReadyDescendantDfs (stores : Stores h db)
    (permits : ∀ s (c : DbCall), c.Reads → allowed s (.db c)) (depth : Nat) (parentId : JobId) {s : σ}
    (start : db s = tables) :
    Safe h assumed allowed (fun found s' => db s' = tables ∧ Found tables found) (fun _ s' => db s' = tables)
      (pickBestReadyDescendantDfs depth parentId) s := by
  induction depth generalizing parentId s with
  | zero => trivial
  | succ depth ih =>
    apply Safe.bind
    refine stores.safe_read (by trivial) (permits _ _ (by trivial)) (fun env reply s₁ same _ => ?_)
      fun _ _ same => same.trans start
    refine safe_searchSiblings (fun job _ s atTables => ?_) (fun id s atTables => ih id atTables) (same.trans start)
    refine stores.safe_read (by trivial) (permits _ _ (by trivial)) (fun env loaded s₂ same' answer => ?_)
      fun _ _ same' => same'.trans atTables
    refine ⟨same'.trans atTables, fun full equal => ?_⟩
    subst equal
    have row : (db s).job? job.id = some full := Except.ok.inj answer
    rw [atTables] at row
    rwa [Db.id_of_job? row]

theorem safe_pickNextJobGLobal (stores : Stores h db) (permits : ∀ s (c : DbCall), c.Reads → allowed s (.db c))
    (workFlowId : WorkFlowId) (start : db s = tables) (keyed : tables.Keyed) :
    Safe h assumed allowed (fun found s' => db s' = tables ∧ Found tables found) (fun _ s' => db s' = tables)
      (pickNextJobGLobal workFlowId) s := by
  apply Safe.bind
  refine stores.safe_read (by trivial) (permits _ _ (by trivial)) (fun env allJobs s₁ same answer => ?_)
    fun _ _ same => same.trans start
  have rows : env.arrange ((db s).workFlowJobs workFlowId) = allJobs := Except.ok.inj answer
  apply Safe.bind
  refine stores.safe_read (by trivial) (permits _ _ (by trivial)) (fun _ childDeps s₂ same' _ => ?_)
    fun _ _ same' => same'.trans (same.trans start)
  refine safe_searchSiblings (fun root member s atTables => ⟨atTables, fun full equal => ?_⟩)
    (fun id s atTables => stores.safe_pickBestReadyDescendantDfs permits _ id atTables) (same'.trans (same.trans start))
  obtain rfl := Option.some.inj equal
  apply Db.job?_of_mem keyed
  rw [sortJobs, List.mem_insertionSort, ← rows, start] at member
  have listed := (List.mem_filter.mp member).1
  rw [(env.arrange_perm _).mem_iff] at listed
  exact (List.mem_filter.mp listed).1

end Search

/-- A call that is allowed, when nothing is asked of what follows. -/
theorem safe_any {c : ServiceCall} (permitted : allowed s c) :
    Safe h assumed allowed (fun _ _ => True) (fun _ _ => True) (Program.await (S := serviceSignature) c) s :=
  safe_await (fun _ => permitted) (fun _ _ _ => trivial) fun _ _ _ => trivial

/-- `scheduleNextJob` makes a READY job QUEUED. -/
theorem safe_scheduleNextJob (stores : Stores h db) (keyed : (db s).Keyed) (workFlowId : WorkFlowId)
    (tenantId : TenantId) :
    Safe h assumed (Shifts db .READY .QUEUED) (fun _ _ => True) (fun _ _ => True)
      (scheduleNextJob workFlowId tenantId) s := by
  have permits (s : σ) (c : DbCall) (reads : c.Reads) : Shifts db .READY .QUEUED s (.db c) := reads.quiet.shifts db _ _ s
  apply Safe.bind
  refine stores.safe_read (by trivial) (permits _ _ (by trivial)) (fun _ count s₁ same _ => ?_) fun _ _ _ => trivial
  split
  · trivial
  · apply Safe.bind
    refine (stores.safe_pickNextJobGLobal permits workFlowId rfl (by rwa [same])).mono (fun _ _ same => same) ?_
      fun _ _ _ => trivial
    intro candidate s₂ given
    obtain ⟨same₂, found⟩ := given
    cases candidate with
    | none => trivial
    | some candidate =>
      obtain ⟨row, ready⟩ := found candidate rfl
      have standing : (db s₂).status candidate.id = some .READY := by simp [Db.status, same₂, row, ready]
      apply Safe.bind
      refine (safe_any (shifts_updateJob standing rfl)).mono (fun _ _ same => same) (fun _ s₃ _ => ?_)
        fun _ _ _ => trivial
      apply Safe.bind
      cases resolveQueueName candidate.type with
      | error error => trivial
      | ok queueName =>
        apply Safe.bind
        refine (safe_any ?_).mono (fun _ _ same => same) (fun _ _ _ => trivial) fun _ _ _ => trivial
        exact ServiceCall.Quiet.shifts (by trivial) db _ _ s₃

/-- `unlockChild` makes a WAITING child READY. -/
theorem safe_unlockChild (stores : Stores h db) (childId : JobId) (s : σ) :
    Safe h assumed (Shifts db .WAITING_FOR_DEPENDENCIES .READY) (fun _ _ => True) (fun _ _ => True)
      (unlockChild childId) s := by
  have permits (s : σ) (c : DbCall) (reads : c.Reads) : Shifts db .WAITING_FOR_DEPENDENCIES .READY s (.db c) :=
    reads.quiet.shifts db _ _ s
  apply Safe.bind
  refine stores.safe_read (by trivial) (permits _ _ (by trivial)) (fun _ found s₁ same answer => ?_) fun _ _ _ => trivial
  cases found with
  | none => trivial
  | some child =>
    have row : (db s).job? childId = some child := Except.ok.inj answer
    dsimp only
    split
    · trivial
    · rename_i waiting
      rw [not_not] at waiting
      have own := Db.id_of_job? row
      apply Safe.bind
      refine stores.safe_read (by trivial) (permits _ _ (by trivial)) (fun _ remaining s₂ same₂ _ => ?_)
        fun _ _ _ => trivial
      have standing : (db s₂).status child.id = some .WAITING_FOR_DEPENDENCIES := by
        simp [Db.status, same₂, same, own, row, waiting]
      split
      · apply Safe.bind
        refine (safe_any (shifts_updateJob standing rfl)).mono (fun _ _ same => same) (fun _ s₃ _ => ?_)
          fun _ _ _ => trivial
        exact safe_any (ServiceCall.Quiet.shifts (by trivial) db _ _ s₃)
      · trivial

theorem safe_unlockChildren (stores : Stores h db) (parentJobId : JobId) (s : σ) :
    Safe h assumed (Shifts db .WAITING_FOR_DEPENDENCIES .READY) (fun _ _ => True) (fun _ _ => True)
      (unlockChildren parentJobId) s := by
  apply Safe.bind
  refine stores.safe_read (by trivial) (ServiceCall.Quiet.shifts (by trivial) db _ _ s) (fun _ childDeps s₁ _ _ => ?_)
    fun _ _ _ => trivial
  exact safe_forEach (fun dep _ s _ => stores.safe_unlockChild dep.1.childJobId s) trivial

/-- The statuses that the handler of a completed job writes. -/
theorem safe_onJobCompleted (stores : Stores h db) (keyed : (db s).Keyed) (jobId : JobId) :
    Safe h assumed
      (fun s c => Shifts db .WAITING_FOR_DEPENDENCIES .READY s c ∨ Shifts db .READY .QUEUED s c)
      (fun _ _ => True) (fun _ _ => True) (onJobCompleted jobId) s := by
  apply Safe.bind
  refine stores.safe_read (c := .findJob jobId) (by trivial) (.inl (ServiceCall.Quiet.shifts (by trivial) db _ _ s))
    (fun _ found s₁ same _ => ?_) fun _ _ _ => trivial
  split
  · trivial
  · rename_i completedJob workFlowId _
    apply Safe.bind
    have unlocks : Safe h assumed (Shifts db .WAITING_FOR_DEPENDENCIES .READY) (fun _ _ => True) (fun _ _ => True)
        (unlockChildren jobId) s₁ := stores.safe_unlockChildren jobId s₁
    have keyed₁ : (db s₁).Keyed := by rwa [same]
    refine (unlocks.keeping (fun s => (db s).Keyed) (fun _ _ shifts => stores.keyed shifts.1) keyed₁).mono (fun _ _ shifts => .inl shifts.1)
      (fun _ s₂ kept => ?_) fun _ _ _ => trivial
    exact (stores.safe_scheduleNextJob kept.2 workFlowId completedJob.tenantId).mono (fun _ _ shifts => .inr shifts)
      (fun _ _ _ => trivial) fun _ _ _ => trivial

/-- The statuses that the handler of a failed job writes: its children may become SKIPPED. -/
theorem safe_handleParentFailure (stores : Stores h db) (keyed : (db s).Keyed) (jobId : JobId) :
    Safe h assumed
      (fun s' c => Marks (fun child => (db s).Depends jobId child) .SKIPPED s' c ∨ Shifts db .READY .QUEUED s' c)
      (fun _ _ => True) (fun _ _ => True) (handleParentFailure jobId) s := by
  have marks {c : DbCall} (reads : c.Reads) (s' : σ) :
      Marks (fun child => (db s).Depends jobId child) .SKIPPED s' (.db c) := reads.quiet.marks _ _ s'
  apply Safe.bind
  refine stores.safe_read (c := .findJob jobId) (by trivial) (.inl (marks (by trivial) s)) (fun _ found s₁ same _ => ?_)
    fun _ _ _ => trivial
  split
  · trivial
  · rename_i parentJob workFlowId _
    apply Safe.bind
    refine stores.safe_read (c := .findChildDeps jobId) (by trivial) (.inl (marks (by trivial) s₁))
      (fun env deps s₂ same₂ answer => ?_) fun _ _ _ => trivial
    obtain rfl : (env.arrangeDeps ((db s₁).childDeps jobId)).map (fun dep => (dep, (db s₁).job? dep.childJobId)) = deps :=
      Except.ok.inj answer
    have skips : Safe h assumed (Marks (fun child => (db s).Depends jobId child) .SKIPPED) (fun _ _ => True)
        (fun _ _ => True)
        (forEach ((env.arrangeDeps ((db s₁).childDeps jobId)).map fun dep => (dep, (db s₁).job? dep.childJobId))
          fun dep => skipChild dep.2) s₂ := by
      refine safe_forEach (fun dep member s₃ _ => ?_) trivial
      obtain ⟨row, listed, rfl⟩ := List.mem_map.mp member
      rw [same] at listed
      have depends : (db s).Depends jobId row.childJobId := by
        rw [(env.arrangeDeps_perm _).mem_iff] at listed
        obtain ⟨present, parent⟩ := List.mem_filter.mp listed
        rw [decide_eq_true_eq] at parent
        rw [← parent]
        exact List.mem_map_of_mem present
      unfold skipChild
      dsimp only
      split
      · trivial
      · rename_i child loaded
        have own := Db.id_of_job? loaded
        apply Safe.bind
        refine stores.safe_read (c := .findJob child.id) (by trivial) (marks (by trivial) s₃)
          (fun _ fullChild s₄ same₄ answer => ?_) fun _ _ _ => trivial
        cases fullChild with
        | none => trivial
        | some fullChild =>
          have again : (db s₃).job? child.id = some fullChild := Except.ok.inj answer
          have same' : fullChild.id = row.childJobId := (Db.id_of_job? again).trans own
          dsimp only
          split
          · refine safe_any (marks_updateJob ?_ rfl)
            rwa [same']
          · trivial
    apply Safe.bind
    have keyed₂ : (db s₂).Keyed := by rwa [same₂, same]
    refine (skips.keeping (fun s => (db s).Keyed) (fun _ _ marks => stores.keyed marks.1) keyed₂).mono (fun _ _ marks => .inl marks.1)
      (fun _ s₅ kept => ?_) fun _ _ _ => trivial
    exact (stores.safe_scheduleNextJob kept.2 workFlowId parentJob.tenantId).mono (fun _ _ shifts => .inr shifts)
      (fun _ _ _ => trivial) fun _ _ _ => trivial

end Stores
end OrchestrateModel
