import Orchestrate.Scaling.Rescan

namespace OrchestrateModel

open Effect Cooperation BandPromoterService

/-- In the high band now, though its stored options still name the normal band. -/
def BandJob.stale (job : BandJob) : Bool :=
  job.priority.getD 20 < NORMAL_BAND_MIN_PRIORITY && NORMAL_BAND_MIN_PRIORITY ≤ job.optsPriority.getD 20

namespace PromoterStore

def promotionsOf (s : PromoterStore) (queueName : String) : List Promotion :=
  s.promotions.filter fun promotion => promotion.queueName = queueName

def promotedIds (s : PromoterStore) (queueName : String) : List String := (s.promotionsOf queueName).map Promotion.id

/-- What holds of a queue as long as each of its jobs is promoted once. -/
structure Consistent (queueName : String) (s : PromoterStore) : Prop where
  distinct : ((s.content queueName).jobs.map BandJob.id).Nodup
  known : ∀ job ∈ (s.content queueName).jobs, job.id ∈ s.used queueName
  logged : ∀ id ∈ s.promotedIds queueName, id ∈ s.used queueName
  once : (s.promotedIds queueName).Nodup
  normal : ∀ promotion ∈ s.promotionsOf queueName, NORMAL_BAND_MIN_PRIORITY ≤ promotion.before.getD 20
  untouched : ∀ job ∈ (s.content queueName).jobs, job.id ∉ s.promotedIds queueName → job.priority = job.optsPriority
  promoted : ∀ job ∈ (s.content queueName).jobs, job.id ∈ s.promotedIds queueName → job.stale = true

/-- Jobs that a scan may still promote. -/
structure Ahead (queueName : String) (s : PromoterStore) (rest : List BandJob) : Prop where
  distinct : (rest.map BandJob.id).Nodup
  unpromoted : ∀ job ∈ rest, job.id ∉ s.promotedIds queueName
  known : ∀ job ∈ rest, job.id ∈ s.used queueName
  normal : ∀ job ∈ rest, NORMAL_BAND_MIN_PRIORITY ≤ job.optsPriority.getD 20
  same : ∀ job ∈ rest, ∀ there ∈ (s.content queueName).jobs, there.id = job.id → there.optsPriority = job.optsPriority

/-- A queue that two states agree on. -/
structure Agree (queueName : String) (s s' : PromoterStore) : Prop where
  content : s'.content queueName = s.content queueName
  used : s'.used queueName = s.used queueName
  promotions : s'.promotionsOf queueName = s.promotionsOf queueName

section Queue

variable {place : List BandJob → BandJob → Nat} {queueName other : String} {s s' : PromoterStore} {rest : List BandJob}
  {job : BandJob} {promoted promoted' : Nat}

theorem Agree.ids (agree : Agree queueName s s') : s'.promotedIds queueName = s.promotedIds queueName := by
  rw [promotedIds, agree.promotions, promotedIds]

theorem Consistent.of_agree (consistent : s.Consistent queueName) (agree : Agree queueName s s') :
    s'.Consistent queueName := by
  refine ⟨?_, ?_, ?_, ?_, ?_, ?_, ?_⟩
  all_goals simp only [agree.content, agree.used, agree.ids, agree.promotions]
  · exact consistent.distinct
  · exact consistent.known
  · exact consistent.logged
  · exact consistent.once
  · exact consistent.normal
  · exact consistent.untouched
  · exact consistent.promoted

theorem Ahead.of_agree (ahead : s.Ahead queueName rest) (agree : Agree queueName s s') : s'.Ahead queueName rest := by
  refine ⟨ahead.distinct, ?_, ?_, ahead.normal, ?_⟩
  all_goals simp only [agree.content, agree.used, agree.ids]
  · exact ahead.unpromoted
  · exact ahead.known
  · exact ahead.same

theorem Ahead.tail (ahead : s.Ahead queueName (job :: rest)) : s.Ahead queueName rest :=
  ⟨(List.nodup_cons.mp ahead.distinct).2, fun later member => ahead.unpromoted later (List.mem_cons_of_mem job member),
    fun later member => ahead.known later (List.mem_cons_of_mem job member),
    fun later member => ahead.normal later (List.mem_cons_of_mem job member),
    fun later member => ahead.same later (List.mem_cons_of_mem job member)⟩

theorem agree_promote_other (apart : queueName ≠ other) (priority : Nat) :
    Agree queueName s (s.promote place other job priority) := by
  refine ⟨if_neg apart, rfl, ?_⟩
  have none : ¬ other = queueName := fun same => apart same.symm
  simp [promotionsOf, promote, setContent, none]

theorem promotionsOf_promote (priority : Nat) : (s.promote place queueName job priority).promotionsOf queueName =
    s.promotionsOf queueName ++ [{ queueName := queueName, id := job.id, before := job.priority }] := by
  simp [promotionsOf, promote, setContent]

theorem promotedIds_promote (priority : Nat) : (s.promote place queueName job priority).promotedIds queueName =
    s.promotedIds queueName ++ [job.id] := by
  rw [promotedIds, promotionsOf_promote, List.map_append]
  rfl

/-- The jobs of a queue after a promotion. -/
theorem mem_jobs_promote {priority : Nat} {there : BandJob} :
    there ∈ ((s.promote place queueName job priority).content queueName).jobs ↔
      there = { job with priority := some priority } ∨ (there ∈ (s.content queueName).jobs ∧ there.id ≠ job.id) := by
  rw [content_promote, QueueContent.jobs_changePriority.mem_iff, List.mem_cons, List.mem_filter, decide_eq_true_eq]

/-- The promotion of a job that was not promoted before. -/
theorem Consistent.promote (consistent : s.Consistent queueName) (member : job ∈ (s.content queueName).jobs)
    (unpromoted : job.id ∉ s.promotedIds queueName)
    (normal : NORMAL_BAND_MIN_PRIORITY ≤ job.optsPriority.getD 20) :
    (s.promote place queueName job HIGH_BAND_PRIORITY).Consistent queueName := by
  have kept := consistent.untouched job member unpromoted
  have used := consistent.known job member
  refine ⟨?_, ?_, ?_, ?_, ?_, ?_, ?_⟩
  · rw [content_promote]
    exact QueueContent.distinct_changePriority consistent.distinct
  · intro there present
    rcases mem_jobs_promote.mp present with rfl | ⟨present, _⟩
    · exact used
    · exact consistent.known there present
  · intro id logged
    rw [promotedIds_promote] at logged
    rcases List.mem_append.mp logged with before | last
    · exact consistent.logged id before
    · obtain rfl := List.mem_singleton.mp last
      exact used
  · rw [promotedIds_promote]
    refine List.nodup_append.mpr ⟨consistent.once, List.nodup_singleton _, fun a before b last => ?_⟩
    obtain rfl := List.mem_singleton.mp last
    rintro rfl
    exact unpromoted before
  · intro promotion logged
    rw [promotionsOf_promote] at logged
    rcases List.mem_append.mp logged with before | last
    · exact consistent.normal promotion before
    · obtain rfl := List.mem_singleton.mp last
      rw [kept]
      exact normal
  · intro there present missing
    rw [promotedIds_promote, List.mem_append, not_or] at missing
    rcases mem_jobs_promote.mp present with rfl | ⟨present, _⟩
    · exact absurd (List.mem_singleton.mpr rfl) missing.2
    · exact consistent.untouched there present missing.1
  · intro there present logged
    rcases mem_jobs_promote.mp present with rfl | ⟨present, apart⟩
    · have low : HIGH_BAND_PRIORITY < NORMAL_BAND_MIN_PRIORITY := by decide
      simp [BandJob.stale, low, normal]
    · rw [promotedIds_promote] at logged
      rcases List.mem_append.mp logged with before | last
      · exact consistent.promoted there present before
      · exact absurd (List.mem_singleton.mp last) apart

theorem Ahead.promote {there : BandJob} (ahead : s.Ahead queueName (job :: rest)) (same : there.id = job.id)
    (member : there ∈ (s.content queueName).jobs) :
    (s.promote place queueName there HIGH_BAND_PRIORITY).Ahead queueName rest := by
  obtain ⟨fresh, distinct⟩ := List.nodup_cons.mp ahead.distinct
  have later := ahead.tail
  refine ⟨distinct, fun other inside => ?_, later.known, later.normal, fun other inside present found own => ?_⟩
  · rw [promotedIds_promote, List.mem_append, not_or]
    refine ⟨later.unpromoted other inside, fun last => ?_⟩
    have own : other.id = job.id := (List.mem_singleton.mp last).trans same
    exact fresh (List.mem_map.mpr ⟨other, inside, own⟩)
  · rcases mem_jobs_promote.mp found with rfl | ⟨found, _⟩
    · exact later.same other inside there member own
    · exact later.same other inside present found own

/-- The step lemma of a promotion that is tried. -/
theorem tried_spec (tried : Tried place queueName job.id s promoted s' promoted') (consistent : s.Consistent queueName)
    (ahead : s.Ahead queueName (job :: rest)) :
    s'.Consistent queueName ∧ s'.Ahead queueName rest ∧ s'.recorded = s.recorded ∧
      (s'.promotionsOf queueName).length + promoted = (s.promotionsOf queueName).length + promoted' := by
  cases tried with
  | refused => exact ⟨consistent, ahead.tail, rfl, rfl⟩
  | @done there found =>
    obtain ⟨member, same⟩ := (QueueContent.find_eq_some consistent.distinct).mp found
    have unpromoted : there.id ∉ s.promotedIds queueName := same ▸ ahead.unpromoted job List.mem_cons_self
    have normal : NORMAL_BAND_MIN_PRIORITY ≤ there.optsPriority.getD 20 := by
      rw [ahead.same job List.mem_cons_self there member same]
      exact ahead.normal job List.mem_cons_self
    refine ⟨consistent.promote member unpromoted normal, ahead.promote same member, rfl, ?_⟩
    rw [promotionsOf_promote, List.length_append, List.length_singleton]
    omega

theorem agree_tried (apart : queueName ≠ other) {id : String} (tried : Tried place other id s promoted s' promoted') :
    Agree queueName s s' ∧ s'.recorded = s.recorded := by
  cases tried with
  | refused => exact ⟨⟨rfl, rfl, rfl⟩, rfl⟩
  | done found => exact ⟨agree_promote_other apart _, rfl⟩

theorem agree_record (count : Nat) : Agree queueName s (s.record other count) := ⟨rfl, rfl, rfl⟩

theorem jobs_pick {content : QueueContent} (distinct : (content.jobs.map BandJob.id).Nodup) (member : job ∈ content.jobs) :
    (content.pick job).jobs.Perm content.jobs := by
  have perm := QueueContent.jobs_active (content.without job.id) job
  rw [QueueContent.jobs_without] at perm
  refine perm.trans ((List.perm_ext_iff_of_nodup ?_ distinct.of_map).mpr fun other => ?_)
  · refine List.nodup_cons.mpr ⟨?_, distinct.of_map.filter _⟩
    simp
  · rw [List.mem_cons, List.mem_filter, decide_eq_true_eq]
    constructor
    · rintro (rfl | ⟨inside, _⟩)
      · exact member
      · exact inside
    · intro inside
      by_cases same : other.id = job.id
      · exact .inl (List.inj_on_of_nodup_map distinct inside member same)
      · exact .inr ⟨inside, same⟩

/-- The jobs that others add are new ones, and the picked ones stay in sight. -/
structure Grown (queueName : String) (s s' : PromoterStore) (new : List BandJob) : Prop where
  jobs : (s'.content queueName).jobs.Perm (new ++ (s.content queueName).jobs)
  used : s'.used queueName = s.used queueName ++ new.map BandJob.id
  promotions : s'.promotionsOf queueName = s.promotionsOf queueName
  distinct : (new.map BandJob.id).Nodup
  fresh : ∀ job ∈ new, job.id ∉ s.used queueName ∧ job.priority = job.optsPriority

theorem Consistent.of_grown {new : List BandJob} (consistent : s.Consistent queueName) (grown : Grown queueName s s' new) :
    s'.Consistent queueName := by
  have ids : s'.promotedIds queueName = s.promotedIds queueName := by
    rw [promotedIds, grown.promotions, promotedIds]
  refine ⟨?_, ?_, ?_, ?_, ?_, ?_, ?_⟩
  · rw [(grown.jobs.map BandJob.id).nodup_iff, List.map_append]
    refine List.nodup_append.mpr ⟨grown.distinct, consistent.distinct, fun a first b second => ?_⟩
    obtain ⟨added, inside, rfl⟩ := List.mem_map.mp first
    obtain ⟨there, present, rfl⟩ := List.mem_map.mp second
    exact fun same => (grown.fresh added inside).1 (same ▸ consistent.known there present)
  · intro job present
    rw [grown.used]
    rcases List.mem_append.mp (grown.jobs.mem_iff.mp present) with added | there
    · exact List.mem_append_right _ (List.mem_map_of_mem added)
    · exact List.mem_append_left _ (consistent.known job there)
  · intro id logged
    rw [ids] at logged
    rw [grown.used]
    exact List.mem_append_left _ (consistent.logged id logged)
  · rw [ids]
    exact consistent.once
  · rw [grown.promotions]
    exact consistent.normal
  · intro job present missing
    rw [ids] at missing
    rcases List.mem_append.mp (grown.jobs.mem_iff.mp present) with added | there
    · exact (grown.fresh job added).2
    · exact consistent.untouched job there missing
  · intro job present logged
    rw [ids] at logged
    rcases List.mem_append.mp (grown.jobs.mem_iff.mp present) with added | there
    · exact absurd (consistent.logged job.id logged) (grown.fresh job added).1
    · exact consistent.promoted job there logged

theorem Ahead.of_grown {new : List BandJob} (ahead : s.Ahead queueName rest) (grown : Grown queueName s s' new) :
    s'.Ahead queueName rest := by
  refine ⟨ahead.distinct, ?_, ?_, ahead.normal, ?_⟩
  · intro job member
    rw [promotedIds, grown.promotions]
    exact ahead.unpromoted job member
  · intro job member
    rw [grown.used]
    exact List.mem_append_left _ (ahead.known job member)
  · intro job member there present own
    rcases List.mem_append.mp (grown.jobs.mem_iff.mp present) with added | found
    · exact absurd (own ▸ ahead.known job member) (grown.fresh there added).1
    · exact ahead.same job member there found own

/-- What others do adds at most a new job to a queue. -/
theorem apply_grown {change : QueueChange} (applied : s.apply place change = some s')
    (distinct : ((s.content queueName).jobs.map BandJob.id).Nodup) :
    s'.promotions = s.promotions ∧ s'.recorded = s.recorded ∧ ∃ new, Grown queueName s s' new := by
  cases change with
  | added target id timestamp priority =>
    simp only [PromoterStore.apply] at applied
    split at applied
    · cases applied
    · rename_i unused
      obtain rfl := Option.some.inj applied
      refine ⟨rfl, rfl, ?_⟩
      by_cases own : queueName = target
      · subst own
        refine ⟨[⟨id, timestamp, priority, priority⟩], ?_, ?_, rfl, List.nodup_singleton _, ?_⟩
        · simp only [setContent, if_pos]
          split
          · simp only [QueueContent.jobs, List.append_assoc]
            exact List.perm_middle
          · exact QueueContent.jobs_insert
        · simp
        · simpa using unused
      · exact ⟨[], by simp [setContent, own], by simp [own], rfl, .nil, by simp⟩
  | picked target id =>
    obtain ⟨job, found, rfl⟩ := Option.map_eq_some_iff.mp applied
    refine ⟨rfl, rfl, [], ?_, by simp [setContent], rfl, .nil, by simp⟩
    by_cases own : queueName = target
    · subst own
      have member := QueueContent.mem_of_queued (List.mem_of_find?_eq_some found)
      simpa [setContent] using jobs_pick distinct member
    · simp [setContent, own]

/-- What arrives between two turns disturbs nothing. -/
theorem arrive_spec {turn : PromoterTurn} (arrived : s.arrive place turn = some s') (consistent : s.Consistent queueName) :
    s'.Consistent queueName ∧ (∀ rest, s.Ahead queueName rest → s'.Ahead queueName rest) ∧
      s'.promotions = s.promotions ∧ s'.recorded = s.recorded := by
  have changes (changes : List QueueChange) (s s' : PromoterStore) (applied : changes.foldlM (apply place) s = some s')
      (consistent : s.Consistent queueName) :
      s'.Consistent queueName ∧ (∀ rest, s.Ahead queueName rest → s'.Ahead queueName rest) ∧
        s'.promotions = s.promotions ∧ s'.recorded = s.recorded := by
    induction changes generalizing s with
    | nil =>
      obtain rfl := Option.some.inj applied
      exact ⟨consistent, fun _ ahead => ahead, rfl, rfl⟩
    | cons change rest ih =>
      rw [List.foldlM_cons] at applied
      obtain ⟨between, first, later⟩ := Option.bind_eq_some_iff.mp applied
      obtain ⟨promotions, recorded, new, grown⟩ := apply_grown first consistent.distinct
      obtain ⟨consistent', ahead', promotions', recorded'⟩ := ih between later (consistent.of_grown grown)
      exact ⟨consistent', fun rest ahead => ahead' rest (ahead.of_grown grown), promotions'.trans promotions,
        recorded'.trans recorded⟩
  simp only [arrive] at arrived
  split at arrived
  · have clocked : Agree queueName s { s with clock := turn.now } := ⟨rfl, rfl, rfl⟩
    obtain ⟨consistent', ahead', rest⟩ := changes _ _ _ arrived (consistent.of_agree clocked)
    exact ⟨consistent', fun rest ahead => ahead' rest (ahead.of_agree clocked), rest⟩
  · cases arrived

end Queue
end PromoterStore

/-- A scan of the queue awaits a promotion. -/
def PromoterCall.promotes (queueName : String) : PromoterCall → Bool
  | .changePriority other _ _ => other = queueName
  | _ => false

/-- A scan that fetches the queue's window finds no job there that was promoted before, and no other scan at work. -/
def scansAlone (place : List BandJob → BandJob → Nat) (queueName : String) (pool : Pool promoterSignature Err PromoterStore)
    (event : Turn × PromoterTurn) : Bool :=
  match event.1 with
  | .start => true
  | .resume i =>
    match pool.threads[i]?.bind Program.awaits, pool.state.arrive place event.2 with
    | some (.getJobs other), some s =>
      other ≠ queueName || event.2.fails.isSome ||
        ((s.content queueName).window.all (fun job => !job.stale) &&
          pool.threads.all fun thread => thread.awaits.all fun call => !PromoterCall.promotes queueName call)
    | _, _ => true

/-- A scan is promoting jobs of the queue. -/
def MovingAt (queueName : String) (stages : List PromoterStage) (i : Nat) (rest : List BandJob) (promoted : Nat) : Prop :=
  stages[i]? = some (.moving queueName rest promoted)

/-- The invariant: one scan at most promotes jobs of the queue, none of them promoted before, and all promotions but
    those it has counted are recorded. -/
structure Once (queueName : String) (s : PromoterStore) (stages : List PromoterStage) : Prop where
  consistent : s.Consistent queueName
  one : ∀ i j r n r' n', MovingAt queueName stages i r n → MovingAt queueName stages j r' n' → i = j
  ahead : ∀ i r n, MovingAt queueName stages i r n →
    s.Ahead queueName r ∧ s.recorded queueName + n = (s.promotionsOf queueName).length
  counted : (∀ i r n, ¬ MovingAt queueName stages i r n) → s.recorded queueName = (s.promotionsOf queueName).length

section Steps

variable {place : List BandJob → BandJob → Nat} {queues : List String} {queueName other : String}
  {pool pool' : Pool promoterSignature Err PromoterStore} {stages : List PromoterStage} {s s' : PromoterStore}
  {i j n promoted : Nat} {old new : PromoterStage} {rest r : List BandJob}

theorem movingAt_set (at_i : stages[i]? = some old) :
    MovingAt queueName (stages.set i new) j r n ↔
      (j = i ∧ new = .moving queueName r n) ∨ (j ≠ i ∧ MovingAt queueName stages j r n) := by
  have bound := (List.getElem?_eq_some_iff.mp at_i).1
  unfold MovingAt
  by_cases same : j = i
  · subst same
    simp [bound]
  · have other : i ≠ j := fun eq => same eq.symm
    simp [other, same]

/-- A turn that touches nothing of the queue. -/
theorem Once.of_same (once : Once queueName s stages) (at_i : stages[i]? = some old)
    (before : ∀ r n, old ≠ .moving queueName r n) (after : ∀ r n, new ≠ .moving queueName r n)
    (agree : PromoterStore.Agree queueName s s') (recorded : s'.recorded queueName = s.recorded queueName) :
    Once queueName s' (stages.set i new) := by
  have same (j : Nat) (r : List BandJob) (n : Nat) :
      MovingAt queueName (stages.set i new) j r n ↔ MovingAt queueName stages j r n := by
    rw [movingAt_set at_i]
    constructor
    · rintro (⟨_, moving⟩ | ⟨_, moving⟩)
      · exact absurd moving (after r n)
      · exact moving
    · intro moving
      refine .inr ⟨?_, moving⟩
      rintro rfl
      exact before r n (Option.some.inj (at_i.symm.trans moving))
  refine ⟨once.consistent.of_agree agree, ?_, ?_, ?_⟩
  · intro j k r n r' n' first second
    exact once.one j k r n r' n' ((same _ _ _).mp first) ((same _ _ _).mp second)
  · intro j r n moving
    obtain ⟨ahead, counted⟩ := once.ahead j r n ((same _ _ _).mp moving)
    rw [recorded, agree.promotions]
    exact ⟨ahead.of_agree agree, counted⟩
  · intro none
    rw [recorded, agree.promotions]
    exact once.counted fun j r n moving => none j r n ((same _ _ _).mpr moving)

theorem Once.append (once : Once queueName s stages) (resting : new.Resting) : Once queueName s (stages ++ [new]) := by
  have same (j : Nat) (r : List BandJob) (n : Nat) :
      MovingAt queueName (stages ++ [new]) j r n ↔ MovingAt queueName stages j r n := by
    unfold MovingAt
    rw [List.getElem?_append]
    split
    · rfl
    · rename_i outside
      constructor
      · intro last
        obtain rfl := List.mem_singleton.mp (List.mem_of_getElem? last)
        exact resting.elim
      · intro moving
        exact absurd (List.getElem?_eq_some_iff.mp moving).1 outside
  refine ⟨once.consistent, ?_, ?_, ?_⟩
  · intro j k r n r' n' first second
    exact once.one j k r n r' n' ((same _ _ _).mp first) ((same _ _ _).mp second)
  · intro j r n moving
    exact once.ahead j r n ((same _ _ _).mp moving)
  · intro none
    exact once.counted fun j r n moving => none j r n ((same _ _ _).mpr moving)

/-- A scan begins where none is at work and nothing in the window was promoted before. -/
theorem Once.begins (once : Once queueName s stages) (at_i : stages[i]? = some old)
    (none : ∀ j r n, ¬ MovingAt queueName stages j r n) {jobs : List BandJob}
    (fetched : jobs.Sublist (s.content queueName).window)
    (normal : ∀ job ∈ jobs, NORMAL_BAND_MIN_PRIORITY ≤ job.optsPriority.getD 20)
    (untouched : ∀ job ∈ (s.content queueName).window, job.stale = false) :
    Once queueName s (stages.set i (.moving queueName jobs 0)) := by
  have consistent := once.consistent
  have inside (job : BandJob) (member : job ∈ jobs) : job ∈ (s.content queueName).jobs :=
    QueueContent.mem_of_queued (QueueContent.mem_of_window (fetched.subset member))
  have distinct : (jobs.map BandJob.id).Nodup := by
    have window : (s.content queueName).window.Sublist (s.content queueName).jobs := by
      have queued := (List.take_sublist 11 (s.content queueName).waiting).append
        (List.take_sublist 11 (s.content queueName).prioritized)
      exact queued.trans (List.sublist_append_left _ _)
    exact consistent.distinct.sublist ((fetched.trans window).map _)
  have ahead : s.Ahead queueName jobs := by
    refine ⟨distinct, fun job member logged => ?_, fun job member => consistent.known job (inside job member), normal,
      fun job member there present own => ?_⟩
    · have stale := consistent.promoted job (inside job member) logged
      rw [untouched job (fetched.subset member)] at stale
      cases stale
    · rw [List.inj_on_of_nodup_map consistent.distinct present (inside job member) own]
  have moving (j : Nat) (r : List BandJob) (n : Nat)
      (at_j : MovingAt queueName (stages.set i (.moving queueName jobs 0)) j r n) : j = i ∧ r = jobs ∧ n = 0 := by
    rcases (movingAt_set at_i).mp at_j with ⟨here, same⟩ | ⟨_, earlier⟩
    · cases same
      exact ⟨here, rfl, rfl⟩
    · exact absurd earlier (none j r n)
  refine ⟨consistent, ?_, ?_, ?_⟩
  · intro j k r n r' n' first second
    rw [(moving j r n first).1, (moving k r' n' second).1]
  · intro j r n at_j
    obtain ⟨_, rfl, rfl⟩ := moving j r n at_j
    exact ⟨ahead, once.counted none⟩
  · intro absent
    exact absurd ((movingAt_set at_i).mpr (.inl ⟨rfl, rfl⟩)) (absent i jobs 0)

/-- The scan at work has tried its next promotion. -/
theorem Once.tried {job : BandJob} (once : Once queueName s stages)
    (at_i : stages[i]? = some (.moving queueName (job :: rest) promoted)) {count : Nat}
    (tried : Tried place queueName job.id s promoted s' count) :
    Once queueName s' (stages.set i (.moving queueName rest count)) ∧
      ∀ next : PromoterStage, next.Resting → Once queueName (s'.record queueName count) (stages.set i next) := by
  obtain ⟨ahead, counted⟩ := once.ahead i (job :: rest) promoted at_i
  obtain ⟨consistent, ahead', recorded, length⟩ := PromoterStore.tried_spec tried once.consistent ahead
  have only (j : Nat) (r : List BandJob) (n : Nat) (at_j : MovingAt queueName stages j r n) : j = i :=
    once.one j i r n (job :: rest) promoted at_j at_i
  constructor
  · have moving (j : Nat) (r : List BandJob) (n : Nat)
        (at_j : MovingAt queueName (stages.set i (.moving queueName rest count)) j r n) :
        j = i ∧ r = rest ∧ n = count := by
      rcases (movingAt_set at_i).mp at_j with ⟨here, same⟩ | ⟨apart, earlier⟩
      · cases same
        exact ⟨here, rfl, rfl⟩
      · exact absurd (only j r n earlier) apart
    refine ⟨consistent, ?_, ?_, ?_⟩
    · intro j k r n r' n' first second
      rw [(moving j r n first).1, (moving k r' n' second).1]
    · intro j r n at_j
      obtain ⟨_, rfl, rfl⟩ := moving j r n at_j
      refine ⟨ahead', ?_⟩
      rw [recorded]
      omega
    · intro absent
      exact absurd ((movingAt_set at_i).mpr (.inl ⟨rfl, rfl⟩)) (absent i rest count)
  · intro next resting
    have none (j : Nat) (r : List BandJob) (n : Nat) : ¬ MovingAt queueName (stages.set i next) j r n := by
      intro at_j
      rcases (movingAt_set at_i).mp at_j with ⟨_, rfl⟩ | ⟨apart, earlier⟩
      · exact resting
      · exact apart (only j r n earlier)
    refine ⟨consistent.of_agree (PromoterStore.agree_record count), ?_, ?_, ?_⟩
    · intro j k r n r' n' first
      exact absurd first (none j r n)
    · intro j r n at_j
      exact absurd at_j (none j r n)
    · intro _
      show (if queueName = queueName then s'.recorded queueName + count else _) = _
      rw [if_pos rfl, recorded]
      show _ = (s'.promotionsOf queueName).length
      omega

theorem Once.arrive {turn : PromoterTurn} (once : Once queueName s stages) (arrived : s.arrive place turn = some s') :
    Once queueName s' stages := by
  obtain ⟨consistent, ahead, promotions, recorded⟩ := PromoterStore.arrive_spec arrived once.consistent
  have logged : s'.promotionsOf queueName = s.promotionsOf queueName := by
    rw [PromoterStore.promotionsOf, promotions, PromoterStore.promotionsOf]
  refine ⟨consistent, once.one, fun i r n moving => ?_, fun none => ?_⟩
  · rw [recorded, logged]
    exact ⟨ahead r (once.ahead i r n moving).1, (once.ahead i r n moving).2⟩
  · rw [recorded, logged]
    exact once.counted none

theorem not_movingAt (waits : List.Forall₂ ((promoterLoop place).Waits (promoterDiscipline place)) stages pool.threads)
    (alone : pool.threads.all fun thread => thread.awaits.all fun call => !PromoterCall.promotes queueName call)
    (j : Nat) (r : List BandJob) (n : Nat) : ¬ MovingAt queueName stages j r n := by
  intro moving
  obtain ⟨thread, member, ready⟩ := waits_stage waits moving
  have open_ (outcome : Outcome Err Unit) : ¬ (promoterDiscipline place).ended (.moving queueName r n) outcome := by
    intro ended
    cases ended
  obtain ⟨call, awaits, fits⟩ := ready.awaits open_
  obtain ⟨job, later, _, rfl⟩ := fits
  have quiet := List.all_eq_true.mp alone thread member
  rw [awaits] at quiet
  have rests : (!PromoterCall.promotes queueName (.changePriority queueName job.id HIGH_BAND_PRIORITY)) = true := quiet
  simp [PromoterCall.promotes] at rests

theorem resting_ne (resting : new.Resting) (r : List BandJob) (n : Nat) : new ≠ .moving queueName r n := by
  rintro rfl
  exact resting

theorem scansAlone_fetch {e : PromoterTurn} {next : Except Err (List BandJob) → PromoterProgram Unit}
    (alone : scansAlone place queueName pool (.resume i, e) = true)
    (waiting : pool.threads[i]? = some (.call (.getJobs queueName) next)) (arrived : pool.state.arrive place e = some s)
    (answered : e.fails = none) :
    (∀ job ∈ (s.content queueName).window, job.stale = false) ∧
      pool.threads.all fun thread => thread.awaits.all fun call => !PromoterCall.promotes queueName call := by
  have both : ((s.content queueName).window.all (fun job => !job.stale) &&
      pool.threads.all fun thread => thread.awaits.all fun call => !PromoterCall.promotes queueName call) = true := by
    simpa only [scansAlone, waiting, Option.bind_some, Program.awaits, arrived, answered, Option.isSome_none, ne_eq,
      not_true_eq_false, decide_false, Bool.false_or] using alone
  obtain ⟨untouched, quiet⟩ := (Bool.and_eq_true _ _).mp both
  refine ⟨fun job member => ?_, quiet⟩
  simpa using List.all_eq_true.mp untouched job member

/-- The step lemma of the invariant. -/
theorem Once.step (waits : List.Forall₂ ((promoterLoop place).Waits (promoterDiscipline place)) stages pool.threads)
    (once : Once queueName pool.state stages) {turn : Turn} {e : PromoterTurn}
    (step : (bandPromoter place queues).step pool (turn, e) = some pool')
    (alone : scansAlone place queueName pool (turn, e) = true) :
    ∃ stages', List.Forall₂ ((promoterLoop place).Waits (promoterDiscipline place)) stages' pool'.threads ∧
      Once queueName pool'.state stages' := by
  obtain ⟨s, stages', arrived, took, waits'⟩ := step_took (proceeds_promoteStalledJobs queues) waits step
  refine ⟨stages', waits', ?_⟩
  have once := once.arrive arrived
  cases took with
  | start moved =>
    have moved : PromoterMove place .apart s e pool'.state _ := moved
    generalize pool'.state = s' at moved
    cases moved with
    | rests resting => exact once.append resting
  | @resume i old new c next waiting at_i fits moved =>
    have moved : PromoterMove place old s e pool'.state new := moved
    generalize pool'.state = s' at moved ⊢
    cases moved with
    | rests resting => exact fits.elim
    | misses resting =>
      exact once.of_same at_i (resting_ne trivial) (resting_ne resting) ⟨rfl, rfl, rfl⟩ rfl
    | @begins _ _ other jobs answered fetched normal =>
      obtain rfl : c = .getJobs other := fits
      by_cases own : other = queueName
      · subst own
        obtain ⟨untouched, quiet⟩ := scansAlone_fetch alone waiting arrived answered
        exact once.begins at_i (not_movingAt waits quiet) fetched normal untouched
      · refine once.of_same at_i (resting_ne trivial) (fun r n same => ?_) ⟨rfl, rfl, rfl⟩ rfl
        cases same
        exact own rfl
    | @goesOn _ _ _ other job rest promoted promoted' tried =>
      by_cases own : other = queueName
      · subst own
        exact (once.tried at_i tried).1
      · obtain ⟨agree, recorded⟩ := PromoterStore.agree_tried (fun same => own same.symm) tried
        refine once.of_same at_i (fun r n same => ?_) (fun r n same => ?_) agree (by rw [recorded])
        all_goals
          cases same
          exact own rfl
    | @ends _ s₁ _ other job promoted promoted' _ tried resting =>
      by_cases own : other = queueName
      · subst own
        exact (once.tried at_i tried).2 _ resting
      · obtain ⟨agree, recorded⟩ := PromoterStore.agree_tried (fun same => own same.symm) tried
        refine once.of_same at_i (fun r n same => ?_) (resting_ne resting) ⟨agree.content, agree.used, agree.promotions⟩ ?_
        · cases same
          exact own rfl
        · show (if queueName = other then _ else _) = _
          rw [if_neg fun same => own same.symm, recorded]

end Steps
/-- A queue before its first promotion. -/
structure PromoterStore.Unpromoted (queueName : String) (s : PromoterStore) : Prop where
  distinct : ((s.content queueName).jobs.map BandJob.id).Nodup
  known : ∀ job ∈ (s.content queueName).jobs, job.id ∈ s.used queueName
  given : ∀ job ∈ (s.content queueName).jobs, job.priority = job.optsPriority
  none : s.promotionsOf queueName = []
  uncounted : s.recorded queueName = 0

/-- No job of the queue was promoted twice, none in the high band was moved, and no promotion was counted twice. -/
structure PromoterStore.PromotedOnce (queueName : String) (s : PromoterStore) : Prop where
  once : (s.promotedIds queueName).Nodup
  normal : ∀ promotion ∈ s.promotionsOf queueName, NORMAL_BAND_MIN_PRIORITY ≤ promotion.before.getD 20
  counted : s.recorded queueName ≤ (s.promotedIds queueName).length

section Runs

variable {place : List BandJob → BandJob → Nat} {queues : List String} {queueName : String}
  {start pool : Pool promoterSignature Err PromoterStore} {stages : List PromoterStage} {s : PromoterStore}
  {visited : List (Pool promoterSignature Err PromoterStore × (Turn × PromoterTurn))}

theorem Once.initial (unpromoted : s.Unpromoted queueName) : Once queueName s [] := by
  have ids : s.promotedIds queueName = [] := by rw [PromoterStore.promotedIds, unpromoted.none, List.map_nil]
  have none (i : Nat) (r : List BandJob) (n : Nat) : ¬ MovingAt queueName [] i r n := by simp [MovingAt]
  refine ⟨⟨unpromoted.distinct, unpromoted.known, ?_, ?_, ?_, fun job member _ => unpromoted.given job member, ?_⟩,
    fun i j r n r' n' first => absurd first (none i r n), fun i r n first => absurd first (none i r n), fun _ => ?_⟩
  · simp [ids]
  · rw [ids]
    exact .nil
  · simp [unpromoted.none]
  · simp [ids]
  · rw [unpromoted.uncounted, unpromoted.none, List.length_nil]

theorem Once.promotedOnce (once : Once queueName s stages) : s.PromotedOnce queueName := by
  refine ⟨once.consistent.once, once.consistent.normal, ?_⟩
  rw [PromoterStore.promotedIds, List.length_map]
  by_cases busy : ∃ i r n, MovingAt queueName stages i r n
  · obtain ⟨i, r, n, moving⟩ := busy
    have counted := (once.ahead i r n moving).2
    omega
  · exact Nat.le_of_eq (once.counted fun i r n moving => busy ⟨i, r, n, moving⟩)

/-- Where no scan finds a job of an earlier one in its window, and scans do not overlap, jobs are promoted once. -/
theorem promotedOnce_of_alone (place : List BandJob → BandJob → Nat) (queueName : String)
    (unpromoted : start.state.Unpromoted queueName) (booted : start.threads = [])
    (run : (bandPromoter place queues).Run start visited pool)
    (alone : Machine.Guarded (fun pool event => scansAlone place queueName pool event = true) visited) :
    pool.state.PromotedOnce queueName := by
  have kept : ∃ stages, List.Forall₂ ((promoterLoop place).Waits (promoterDiscipline place)) stages pool.threads ∧
      Once queueName pool.state stages := by
    apply run.invariant (fun pool => ∃ stages,
      List.Forall₂ ((promoterLoop place).Waits (promoterDiscipline place)) stages pool.threads ∧
        Once queueName pool.state stages) alone
    · refine ⟨[], ?_, .initial unpromoted⟩
      rw [booted]
      exact .nil
    · rintro pool event pool' ⟨stages, waits, once⟩ quiet step
      exact once.step waits step quiet
  obtain ⟨_, _, once⟩ := kept
  exact once.promotedOnce

/-- One job of the lowest priority waits from 0 on. -/
def oneWaiting : Pool promoterSignature Err PromoterStore where
  state := oneQueue { waiting := [], prioritized := [⟨"a", 0, some 20, some 20⟩], active := [] }
  threads := []

theorem oneWaiting_unpromoted : oneWaiting.state.Unpromoted "media" :=
  ⟨by decide +kernel, by decide +kernel, by decide +kernel, rfl, rfl⟩

/-- The job is picked up after it was promoted, and another one comes. -/
def pickedBetween : List (Turn × PromoterTurn) :=
  [(.start, reliableTurn 6000), (.resume 0, reliableTurn 6001), (.resume 0, reliableTurn 6002),
    (.start, { changes := [.picked "media" "a", .added "media" "b" 3000 (some 10)], now := 9000, fails := none }),
    (.resume 1, reliableTurn 9001), (.resume 1, reliableTurn 9002)]

theorem promotedOnce_of_alone_picked :
    ∃ pool, (bandPromoter descending ["media"]).exec oneWaiting pickedBetween = some pool ∧
      pool.state.promotedIds "media" = ["a", "b"] ∧ pool.state.PromotedOnce "media" := by
  have ends : ((bandPromoter descending ["media"]).exec oneWaiting pickedBetween).map
      (fun pool => pool.state.promotedIds "media") = some ["a", "b"] := by decide +kernel
  obtain ⟨pool, ran, ids⟩ := Option.map_eq_some_iff.mp ends
  exact ⟨pool, ran, ids, promotedOnce_of_alone descending "media" oneWaiting_unpromoted rfl (Machine.run_of_exec ran) (by
    unfold Machine.Guarded
    decide +kernel)⟩

/-- The job still waits when the next scan comes. -/
def stillWaiting : List (Turn × PromoterTurn) :=
  [(.start, reliableTurn 6000), (.resume 0, reliableTurn 6001), (.resume 0, reliableTurn 6002),
    (.start, reliableTurn 9000), (.resume 1, reliableTurn 9001), (.resume 1, reliableTurn 9002)]

theorem promoted_twice :
    ∃ pool visited, (bandPromoter descending ["media"]).Run oneWaiting visited pool ∧
      oneWaiting.state.Unpromoted "media" ∧ oneWaiting.threads = [] ∧ pool.state.recorded "media" = 2 ∧
      ¬ pool.state.PromotedOnce "media" := by
  have ends : ((bandPromoter descending ["media"]).exec oneWaiting stillWaiting).map
      (fun pool => (pool.state.promotedIds "media", pool.state.recorded "media")) = some (["a", "a"], 2) := by
    decide +kernel
  obtain ⟨pool, ran, both⟩ := Option.map_eq_some_iff.mp ends
  obtain ⟨ids, count⟩ := Prod.mk.inj both
  refine ⟨pool, _, Machine.run_of_exec ran, oneWaiting_unpromoted, rfl, count, fun promoted => ?_⟩
  have once := promoted.once
  rw [ids] at once
  exact absurd once (by decide)

end Runs
end OrchestrateModel
