import Mathlib.Data.List.Nodup
import Orchestrate.Model.BandPromoter

namespace OrchestrateModel

open Effect BandPromoterService

namespace BandJob

/-- The tests of the scan let the job through. -/
def passes (now : Nat) (job : BandJob) : Bool :=
  NORMAL_BAND_MIN_PRIORITY ≤ job.optsPriority.getD 20 && PROMOTION_THRESHHOLD_MS ≤ now - job.timestamp

/-- The job is in the normal band now and has waited long enough. -/
def overdue (now : Nat) (job : BandJob) : Bool :=
  NORMAL_BAND_MIN_PRIORITY ≤ job.priority.getD 20 && PROMOTION_THRESHHOLD_MS ≤ now - job.timestamp

def promoted (job : BandJob) : BandJob := { job with priority := some HIGH_BAND_PRIORITY }

end BandJob

namespace QueueContent

def queued (content : QueueContent) : List BandJob := content.waiting ++ content.prioritized

/-- Ids are distinct, and priorities are those given at the start unless promoted. -/
structure Valid (content : QueueContent) : Prop where
  distinct : (content.jobs.map BandJob.id).Nodup
  kept : ∀ job ∈ content.jobs, job.priority = job.optsPriority ∨ job.priority = some HIGH_BAND_PRIORITY

section Lookup

variable {place : List BandJob → BandJob → Nat} {content : QueueContent} {job other : BandJob} {id : String} {priority : Nat}

theorem find?_perm {jobs jobs' : List BandJob} (distinct : (jobs.map BandJob.id).Nodup) (perm : jobs.Perm jobs') :
    jobs.find? (fun job => job.id = id) = jobs'.find? fun job => job.id = id := by
  have distinct' : (jobs'.map BandJob.id).Nodup := (perm.map BandJob.id).nodup_iff.mp distinct
  have same (a b : BandJob) (first : a ∈ jobs') (second : b ∈ jobs') (own : a.id = b.id) : a = b :=
    List.inj_on_of_nodup_map distinct' first second own
  cases found : jobs.find? fun job => job.id = id with
  | none =>
    symm
    rw [List.find?_eq_none] at found ⊢
    exact fun job member => found job (perm.mem_iff.mpr member)
  | some a =>
    have own : a.id = id := by simpa using List.find?_some found
    have member := perm.mem_iff.mp (List.mem_of_find?_eq_some found)
    cases found' : jobs'.find? fun job => job.id = id with
    | none => simpa [own] using List.find?_eq_none.mp found' a member
    | some b =>
      have own' : b.id = id := by simpa using List.find?_some found'
      rw [same a b member (List.mem_of_find?_eq_some found') (own.trans own'.symm)]

theorem find_eq_some (distinct : (content.jobs.map BandJob.id).Nodup) :
    content.find id = some job ↔ job ∈ content.jobs ∧ job.id = id := by
  constructor
  · intro found
    exact ⟨List.mem_of_find?_eq_some found, by simpa using List.find?_some found⟩
  · rintro ⟨member, own⟩
    cases found : content.find id with
    | none => simpa [own] using List.find?_eq_none.mp found job member
    | some other =>
      have own' : other.id = id := by simpa using List.find?_some found
      have same := List.inj_on_of_nodup_map distinct (List.mem_of_find?_eq_some found) member (own'.trans own.symm)
      rw [same]

theorem jobs_without : (content.without id).jobs = content.jobs.filter fun job => job.id ≠ id := by
  simp [without, jobs, List.filter_append]

theorem jobs_insert : (content.insert place job).jobs.Perm (job :: content.jobs) := by
  let index := place content.prioritized job
  have sorted : (content.prioritized.take index ++ job :: content.prioritized.drop index).Perm
      (job :: content.prioritized) := by
    have middle := @List.perm_middle _ job (content.prioritized.take index) (content.prioritized.drop index)
    rwa [List.take_append_drop] at middle
  have first : (content.waiting ++ (content.prioritized.take index ++ job :: content.prioritized.drop index)).Perm
      (job :: (content.waiting ++ content.prioritized)) :=
    (sorted.append_left content.waiting).trans List.perm_middle
  exact first.append_right content.active

theorem jobs_active (content : QueueContent) (job : BandJob) :
    ({ content with active := content.active ++ [job] } : QueueContent).jobs.Perm (job :: content.jobs) := by
  show (content.waiting ++ content.prioritized ++ (content.active ++ [job])).Perm _
  rw [← List.append_assoc]
  exact List.perm_append_singleton job _

/-- The jobs after a change of priority, up to their places. -/
theorem jobs_changePriority : (content.changePriority place job priority).jobs.Perm
    ({ job with priority := some priority } :: content.jobs.filter fun other => other.id ≠ job.id) := by
  unfold changePriority
  rw [← jobs_without]
  split
  · exact jobs_active _ _
  · exact jobs_insert

theorem distinct_changePriority (distinct : (content.jobs.map BandJob.id).Nodup) :
    ((content.changePriority place job priority).jobs.map BandJob.id).Nodup := by
  rw [(jobs_changePriority.map BandJob.id).nodup_iff, List.map_cons, List.nodup_cons]
  constructor
  · intro member
    obtain ⟨other, kept, same⟩ := List.mem_map.mp member
    have apart : other.id ≠ job.id := by simpa using (List.mem_filter.mp kept).2
    exact apart same
  · exact distinct.sublist (List.filter_sublist.map _)

/-- A change of priority is seen at its own id only. -/
theorem find_changePriority (distinct : (content.jobs.map BandJob.id).Nodup) :
    (content.changePriority place job priority).find id =
      if id = job.id then some { job with priority := some priority } else content.find id := by
  unfold find
  rw [find?_perm (distinct_changePriority distinct) jobs_changePriority, List.find?_cons]
  by_cases own : id = job.id
  · simp [own]
  · have other : ¬ job.id = id := fun same => own same.symm
    simp only [other, decide_false, if_neg own, List.find?_filter]
    congr 1
    funext candidate
    by_cases here : candidate.id = id
    · simp [here, own]
    · simp [here]

theorem mem_of_window (member : job ∈ content.window) : job ∈ content.queued := by
  rcases List.mem_append.mp member with first | second
  · exact List.mem_append_left _ (List.mem_of_mem_take first)
  · exact List.mem_append_right _ (List.mem_of_mem_take second)

theorem mem_of_queued (member : job ∈ content.queued) : job ∈ content.jobs := List.mem_append_left _ member

end Lookup
end QueueContent

/-- Some fetched job with the id passes the tests. -/
def hit (now : Nat) (fetched : List BandJob) (id : String) : Bool :=
  fetched.any fun job => job.id = id && job.passes now

section Scan

variable {place : List BandJob → BandJob → Nat} {queueName : String} {now : Nat} {turn : PromoterTurn}
  {s : PromoterStore} {fetched : List BandJob}

/-- The two tests of the loop as one. -/
theorem promoteEach_cons (job : BandJob) (rest : List BandJob) (promoted : Nat) :
    promoteEach queueName now (job :: rest) promoted =
      if job.passes now = true then
        (promoteJob queueName job).bind fun ok => promoteEach queueName now rest (if ok then promoted + 1 else promoted)
      else promoteEach queueName now rest promoted := by
  rw [promoteEach]
  unfold BandJob.passes
  by_cases high : job.optsPriority.getD 20 < NORMAL_BAND_MIN_PRIORITY
  · simp [high, Nat.not_le.mpr high]
  · by_cases early : now - job.timestamp < PROMOTION_THRESHHOLD_MS
    · simp [high, early, Nat.not_le.mpr early]
    · simp [high, early, Nat.not_lt.mp high, Nat.not_lt.mp early]

theorem content_promote (job : BandJob) (priority : Nat) :
    (s.promote place queueName job priority).content queueName =
      (s.content queueName).changePriority place job priority := if_pos rfl

/-- The promotion of a job that is there. -/
theorem run_promoteJob (reliable : turn.fails = none) {job there : BandJob}
    (found : (s.content queueName).find job.id = some there) :
    Program.run (PromoterStore.answer place turn) (promoteJob queueName job) s =
      (.ok true, s.promote place queueName there HIGH_BAND_PRIORITY) := by
  have changed : PromoterStore.answer place turn s (.changePriority queueName job.id HIGH_BAND_PRIORITY) =
      (.ok (), s.promote place queueName there HIGH_BAND_PRIORITY) := by
    simp [PromoterStore.answer, reliable, found]
  let after := s.promote place queueName there HIGH_BAND_PRIORITY
  have first : Program.Returns (PromoterStore.answer place turn)
      (Promoter.changePriority queueName job.id HIGH_BAND_PRIORITY) s () fun s' => s' = after :=
    Program.returns_await changed rfl
  have whole : Program.Returns (PromoterStore.answer place turn)
      ((Promoter.changePriority queueName job.id HIGH_BAND_PRIORITY).bind fun _ => .done true) s true fun s' => s' = after :=
    first.bind fun _ same => Program.returns_done same
  obtain ⟨s', ran, rfl⟩ := whole.catching fun _ => .done false
  exact ran

/-- The loop promotes the fetched jobs that pass the tests, and no others. -/
theorem run_promoteEach (reliable : turn.fails = none) (fetched : List BandJob) (promoted : Nat)
    (distinct : (((s.content queueName).jobs).map BandJob.id).Nodup)
    (there : ∀ job ∈ fetched, ((s.content queueName).find job.id).isSome) :
    ∃ count s', Program.run (PromoterStore.answer place turn) (promoteEach queueName now fetched promoted) s =
        (.ok count, s') ∧
      ∀ id, (s'.content queueName).find id =
        if hit now fetched id then ((s.content queueName).find id).map BandJob.promoted
        else (s.content queueName).find id := by
  induction fetched generalizing s promoted with
  | nil => exact ⟨promoted, s, rfl, fun id => by simp [hit]⟩
  | cons job rest ih =>
    have later : ∀ other ∈ rest, ((s.content queueName).find other.id).isSome :=
      fun other member => there other (List.mem_cons_of_mem job member)
    rw [promoteEach_cons]
    by_cases passes : job.passes now = true
    · rw [if_pos passes]
      obtain ⟨current, found⟩ := Option.isSome_iff_exists.mp (there job List.mem_cons_self)
      have own := ((QueueContent.find_eq_some distinct).mp found).2
      rw [Program.run_bind, run_promoteJob reliable found]
      let s₁ := s.promote place queueName current HIGH_BAND_PRIORITY
      have content : s₁.content queueName = (s.content queueName).changePriority place current HIGH_BAND_PRIORITY :=
        content_promote current HIGH_BAND_PRIORITY
      have lookup (id : String) : (s₁.content queueName).find id =
          if id = job.id then some current.promoted else (s.content queueName).find id := by
        rw [content, QueueContent.find_changePriority distinct, ← own]
        rfl
      have distinct₁ : ((s₁.content queueName).jobs.map BandJob.id).Nodup := by
        rw [content]
        exact QueueContent.distinct_changePriority distinct
      have there₁ : ∀ other ∈ rest, ((s₁.content queueName).find other.id).isSome := by
        intro other member
        rw [lookup]
        split
        · rfl
        · exact later other member
      obtain ⟨count, s', ran, finds⟩ := ih (promoted + 1) distinct₁ there₁
      refine ⟨count, s', ran, fun id => ?_⟩
      rw [finds, lookup]
      by_cases here : id = job.id
      · subst here
        have first : hit now (job :: rest) job.id = true := by simp [hit, passes]
        rw [if_pos rfl, if_pos first, found]
        split <;> rfl
      · have other : hit now (job :: rest) id = hit now rest id := by
          have apart : ¬ job.id = id := fun same => here same.symm
          simp [hit, apart]
        rw [if_neg here, other]
    · have skips (id : String) : hit now (job :: rest) id = hit now rest id := by simp [hit, passes]
      rw [if_neg passes]
      simp only [skips]
      exact ih promoted distinct later

theorem there_of_window (distinct : (((s.content queueName).jobs).map BandJob.id).Nodup) (job : BandJob)
    (member : job ∈ (s.content queueName).window) : (s.content queueName).find job.id = some job :=
  (QueueContent.find_eq_some distinct).mpr ⟨QueueContent.mem_of_queued (QueueContent.mem_of_window member), rfl⟩

theorem hit_window (distinct : (((s.content queueName).jobs).map BandJob.id).Nodup) {job : BandJob}
    (member : job ∈ (s.content queueName).jobs) :
    hit now (s.content queueName).window job.id = true ↔ job ∈ (s.content queueName).window ∧ job.passes now = true := by
  unfold hit
  simp only [List.any_eq_true, Bool.and_eq_true, decide_eq_true_eq]
  constructor
  · rintro ⟨other, fetched, own, passes⟩
    have inside := QueueContent.mem_of_queued (QueueContent.mem_of_window fetched)
    rw [← List.inj_on_of_nodup_map distinct inside member own]
    exact ⟨fetched, passes⟩
  · rintro ⟨fetched, passes⟩
    exact ⟨job, fetched, rfl, passes⟩

/-- The spec of a scan: what each job is afterwards. -/
theorem promoteQueue_find (reliable : turn.fails = none)
    (distinct : (((s.content queueName).jobs).map BandJob.id).Nodup) (id : String) :
    ((Program.run (PromoterStore.answer place turn) (promoteQueue queueName now) s).2.content queueName).find id =
      if hit now (s.content queueName).window id then ((s.content queueName).find id).map BandJob.promoted
      else (s.content queueName).find id := by
  have fetched : Program.run (PromoterStore.answer place turn) (Promoter.getJobs queueName) s =
      (.ok (s.content queueName).window, s) := by
    apply Program.run_await_ok
    simp [PromoterStore.answer, reliable]
  have there (job : BandJob) (member : job ∈ (s.content queueName).window) :
      ((s.content queueName).find job.id).isSome := by
    rw [there_of_window distinct job member]
    rfl
  obtain ⟨count, s', ran, finds⟩ := @run_promoteEach place queueName now turn s reliable _ 0 distinct there
  rw [← finds, promoteQueue, Program.bind_eq, Program.run_bind_ok _ fetched, Program.bind_eq, Program.run_bind_ok _ ran]
  obtain ⟨s'', counted, same⟩ := Program.run_forEach (PromoterStore.answer place turn) (List.range count)
    (fun _ => Promoter.recordPromotion queueName) (fun _ s'' => s''.content = s'.content) rfl
    (fun _ _ s'' _ same => ⟨_, rfl, same⟩)
  rw [counted, same]

/-- Overdue jobs are in the high band afterwards, and every other job has the priority it had. -/
def Promotes (queueName : String) (now : Nat) (s s' : PromoterStore) : Prop :=
  ∀ job ∈ (s.content queueName).jobs, ((s'.content queueName).find job.id).map BandJob.priority =
    some (if job ∈ (s.content queueName).queued ∧ job.overdue now = true then some HIGH_BAND_PRIORITY else job.priority)

instance (queueName : String) (now : Nat) (s s' : PromoterStore) : Decidable (Promotes queueName now s s') :=
  inferInstanceAs (Decidable (∀ job ∈ (s.content queueName).jobs, _ = _))

/-- The scan does its work exactly if all overdue jobs are among the first eleven of their state. -/
theorem promoteQueue_iff (place : List BandJob → BandJob → Nat) (turn : PromoterTurn) (queueName : String) (now : Nat)
    (s : PromoterStore) (reliable : turn.fails = none) (valid : (s.content queueName).Valid) :
    Promotes queueName now s (Program.run (PromoterStore.answer place turn) (promoteQueue queueName now) s).2 ↔
      ∀ job ∈ (s.content queueName).queued, job.overdue now = true → job ∈ (s.content queueName).window := by
  have finds := @promoteQueue_find place queueName now turn s reliable valid.distinct
  have lookup (job : BandJob) (member : job ∈ (s.content queueName).jobs) :
      (s.content queueName).find job.id = some job := (QueueContent.find_eq_some valid.distinct).mpr ⟨member, rfl⟩
  constructor
  · intro promotes job queued late
    by_contra outside
    have member := QueueContent.mem_of_queued queued
    have missed : ¬ hit now (s.content queueName).window job.id = true := by
      rw [hit_window valid.distinct member]
      exact fun both => outside both.1
    have after := promotes job member
    rw [finds, if_neg missed, lookup job member, if_pos ⟨queued, late⟩] at after
    have high : job.priority = some HIGH_BAND_PRIORITY := Option.some.inj after
    simp [BandJob.overdue, high, HIGH_BAND_PRIORITY, NORMAL_BAND_MIN_PRIORITY] at late
  · intro reached job member
    rw [finds, lookup job member]
    by_cases found : hit now (s.content queueName).window job.id = true
    · rw [if_pos found]
      obtain ⟨fetched, passes⟩ := (hit_window valid.distinct member).mp found
      have queued := QueueContent.mem_of_window fetched
      show some (some HIGH_BAND_PRIORITY) = _
      congr 1
      split
      · rfl
      · rename_i timely
        rcases valid.kept job member with kept | high
        · have late : job.overdue now = true := by
            rw [BandJob.overdue, kept]
            exact passes
          exact absurd ⟨queued, late⟩ timely
        · exact high.symm
    · rw [if_neg found]
      have timely : ¬ (job ∈ (s.content queueName).queued ∧ job.overdue now = true) := by
        rintro ⟨queued, late⟩
        apply found
        have passes : job.passes now = true := by
          rcases valid.kept job member with kept | high
          · rw [BandJob.passes, ← kept]
            exact late
          · simp [BandJob.overdue, high, HIGH_BAND_PRIORITY, NORMAL_BAND_MIN_PRIORITY] at late
        exact (hit_window valid.distinct member).mpr ⟨reached job queued late, passes⟩
      rw [if_neg timely]
      rfl

end Scan

/-- Indexes go from the largest priority number down, the last one added first. -/
def descending (jobs : List BandJob) (job : BandJob) : Nat :=
  jobs.countP fun other => job.priority.getD 0 < other.priority.getD 0

/-- A store with one queue. -/
def oneQueue (content : QueueContent) : PromoterStore where
  content queueName := if queueName = "media" then content else { waiting := [], prioritized := [], active := [] }
  used queueName := if queueName = "media" then content.jobs.map BandJob.id else []
  promotions := []
  recorded _ := 0
  clock := 0

def reliableTurn (now : Nat) : PromoterTurn := { changes := [], now := now, fails := none }

/-- Jobs that are overdue, in the high band, promoted before, early, and being processed. -/
def mixedContent : QueueContent where
  waiting := []
  prioritized := [⟨"a", 0, some 20, some 20⟩, ⟨"b", 4000, some 10, some 10⟩, ⟨"c", 0, some 2, some 1⟩, ⟨"d", 0, some 1, some 1⟩]
  active := [⟨"e", 0, some 20, some 20⟩]

theorem promoteQueue_iff_mixed :
    Promotes "media" 6000 (oneQueue mixedContent) (Program.run (PromoterStore.answer descending (reliableTurn 6000))
      (promoteQueue "media" 6000) (oneQueue mixedContent)).2 ↔
    ∀ job ∈ mixedContent.queued, job.overdue 6000 = true → job ∈ mixedContent.window :=
  promoteQueue_iff descending (reliableTurn 6000) "media" 6000 (oneQueue mixedContent) rfl
    ⟨by decide +kernel, by decide +kernel⟩

/-- Twelve jobs of the lowest priority, all added at 0. -/
def twelveJobs : QueueContent where
  waiting := []
  prioritized := ["a", "b", "c", "d", "e", "f", "g", "h", "i", "j", "k", "l"].map fun id => ⟨id, 0, some 20, some 20⟩
  active := []

theorem promoteQueue_twelve :
    (reliableTurn 6000).fails = none ∧ ((oneQueue twelveJobs).content "media").Valid ∧
      ¬ Promotes "media" 6000 (oneQueue twelveJobs) (Program.run (PromoterStore.answer descending (reliableTurn 6000))
        (promoteQueue "media" 6000) (oneQueue twelveJobs)).2 :=
  ⟨rfl, ⟨by decide +kernel, by decide +kernel⟩, by decide +kernel⟩

end OrchestrateModel
