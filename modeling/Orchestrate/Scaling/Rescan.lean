import Orchestrate.Scaling.Promotion

namespace OrchestrateModel

open Effect Cooperation BandPromoterService

/-- Where a scan stands: between queues, at the fetch of a queue's window, or at the promotion of the first of some
    jobs, with the promotions counted so far. -/
inductive PromoterStage : Type where
  | apart
  | fetching (queueName : String)
  | moving (queueName : String) (rest : List BandJob) (promoted : Nat)
  deriving DecidableEq, Repr

/-- No promotion of a queue is under way. -/
def PromoterStage.Resting : PromoterStage → Prop
  | .apart | .fetching _ => True
  | .moving _ _ _ => False

def PromoterStore.record (s : PromoterStore) (queueName : String) (count : Nat) : PromoterStore :=
  { s with recorded := fun other => if other = queueName then s.recorded other + count else s.recorded other }

variable {place : List BandJob → BandJob → Nat}

/-- How a promotion went, with the count before and after. -/
inductive Tried (place : List BandJob → BandJob → Nat) (queueName : String) (id : String) (s : PromoterStore)
    (promoted : Nat) : PromoterStore → Nat → Prop where
  | refused : Tried place queueName id s promoted s promoted
  | done {job : BandJob} (found : (s.content queueName).find id = some job) :
      Tried place queueName id s promoted (s.promote place queueName job HIGH_BAND_PRIORITY) (promoted + 1)

/-- What a segment can do, with the stages before and after it. -/
inductive PromoterMove (place : List BandJob → BandJob → Nat) :
    PromoterStage → PromoterStore → PromoterTurn → PromoterStore → PromoterStage → Prop where
  | rests {s : PromoterStore} {turn : PromoterTurn} {next : PromoterStage} (resting : next.Resting) :
      PromoterMove place .apart s turn s next
  | misses {s : PromoterStore} {turn : PromoterTurn} {queueName : String} {next : PromoterStage}
      (resting : next.Resting) : PromoterMove place (.fetching queueName) s turn s next
  | begins {s : PromoterStore} {turn : PromoterTurn} {queueName : String} {jobs : List BandJob}
      (answered : turn.fails = none) (fetched : jobs.Sublist (s.content queueName).window)
      (normal : ∀ job ∈ jobs, NORMAL_BAND_MIN_PRIORITY ≤ job.optsPriority.getD 20) :
      PromoterMove place (.fetching queueName) s turn s (.moving queueName jobs 0)
  | goesOn {s s' : PromoterStore} {turn : PromoterTurn} {queueName : String} {job : BandJob} {rest : List BandJob}
      {promoted promoted' : Nat} (tried : Tried place queueName job.id s promoted s' promoted') :
      PromoterMove place (.moving queueName (job :: rest) promoted) s turn s' (.moving queueName rest promoted')
  | ends {s s' : PromoterStore} {turn : PromoterTurn} {queueName : String} {job : BandJob} {promoted promoted' : Nat}
      {next : PromoterStage} (tried : Tried place queueName job.id s promoted s' promoted') (resting : next.Resting) :
      PromoterMove place (.moving queueName [job] promoted) s turn (s'.record queueName promoted') next

/-- The call that a scan awaits at a stage. -/
def PromoterStage.awaits : PromoterStage → PromoterCall → Prop
  | .apart, _ => False
  | .fetching queueName, call => call = .getJobs queueName
  | .moving queueName rest _, call =>
    ∃ job later, rest = job :: later ∧ call = .changePriority queueName job.id HIGH_BAND_PRIORITY

def promoterDiscipline (place : List BandJob → BandJob → Nat) :
    Discipline promoterSignature Err PromoterStage PromoterStore PromoterTurn where
  moves segment stage := PromoterMove place segment.stage segment.start segment.env segment.state stage
  awaited := PromoterStage.awaits
  ended stage _ := stage = .apart

/-- The segment may end between two queues. -/
def MayRest (place : List BandJob → BandJob → Nat) (now : Segment PromoterStage PromoterStore PromoterTurn) : Prop :=
  ∀ next : PromoterStage, next.Resting → PromoterMove place now.stage now.start now.env now.state next

section Scan

variable {thrown : Err → Segment PromoterStage PromoterStore PromoterTurn → Prop}
  {now : Segment PromoterStage PromoterStore PromoterTurn} {queueName : String} {time : Nat}

@[simp] theorem record_record (s : PromoterStore) (first second : Nat) :
    (s.record queueName first).record queueName second = s.record queueName (first + second) := by
  unfold PromoterStore.record
  congr 1
  funext other
  by_cases own : other = queueName
  · simp [own, Nat.add_assoc]
  · simp [own]

@[simp] theorem record_zero (s : PromoterStore) : s.record queueName 0 = s := by
  simp [PromoterStore.record]

theorem proceeds_recordPromotion {post : Unit → Segment PromoterStage PromoterStore PromoterTurn → Prop} :
    (promoterLoop place).Proceeds (promoterDiscipline place) post thrown (Promoter.recordPromotion queueName) = fun now =>
      post () { now with state := now.state.record queueName 1 } :=
  rfl

/-- Every promotion of the scan is counted at its end. -/
theorem proceeds_record {α : Type} (items : List α)
    {post : Unit → Segment PromoterStage PromoterStore PromoterTurn → Prop}
    (holds : post () { now with state := now.state.record queueName items.length }) :
    (promoterLoop place).Proceeds (promoterDiscipline place) post thrown
      (Program.forEach items fun _ => Promoter.recordPromotion queueName) now := by
  induction items generalizing now with
  | nil =>
    rw [List.length_nil, record_zero] at holds
    exact holds
  | cons item rest ih =>
    rw [Program.forEach, proceeds_bind, proceeds_recordPromotion]
    apply ih
    rw [record_record, Nat.add_comm]
    exact holds

theorem proceeds_changePriority {id : String} {post : Unit → Segment PromoterStage PromoterStore PromoterTurn → Prop} :
    (promoterLoop place).Proceeds (promoterDiscipline place) post thrown
      (Promoter.changePriority queueName id HIGH_BAND_PRIORITY) = fun now =>
      ∃ stage, PromoterMove place now.stage now.start now.env now.state stage ∧
        stage.awaits (.changePriority queueName id HIGH_BAND_PRIORITY) ∧ ∀ turn s,
          (promoterLoop place).Proceeds (promoterDiscipline place) post thrown
            (.ofExcept (PromoterStore.answer place turn s (.changePriority queueName id HIGH_BAND_PRIORITY)).1)
            ⟨stage, s, turn, (PromoterStore.answer place turn s (.changePriority queueName id HIGH_BAND_PRIORITY)).2⟩ :=
  proceeds_await rfl

/-- How `changePriority` ends, and what it leaves. -/
theorem changePriority_tried (turn : PromoterTurn) (s : PromoterStore) (id : String) (promoted : Nat) :
    (∃ error, PromoterStore.answer place turn s (.changePriority queueName id HIGH_BAND_PRIORITY) = (.error error, s)) ∨
    ∃ s', PromoterStore.answer place turn s (.changePriority queueName id HIGH_BAND_PRIORITY) = (.ok (), s') ∧
      Tried place queueName id s promoted s' (promoted + 1) := by
  cases fails : turn.fails with
  | some error => exact .inl ⟨error, by simp [PromoterStore.answer, fails]⟩
  | none =>
    cases found : (s.content queueName).find id with
    | none => exact .inl ⟨PromoterStore.notFound, by simp [PromoterStore.answer, fails, found]⟩
    | some job => exact .inr ⟨_, by simp [PromoterStore.answer, fails, found], .done found⟩

/-- A promotion ends in a segment of its own, whether it went through or not. -/
theorem proceeds_promoteJob {job : BandJob} {post : Bool → Segment PromoterStage PromoterStore PromoterTurn → Prop}
    {rest : List BandJob} {promoted : Nat}
    (moved : PromoterMove place now.stage now.start now.env now.state (.moving queueName (job :: rest) promoted))
    (holds : ∀ ok turn s s', Tried place queueName job.id s promoted s' (if ok then promoted + 1 else promoted) →
      post ok ⟨.moving queueName (job :: rest) promoted, s, turn, s'⟩) :
    (promoterLoop place).Proceeds (promoterDiscipline place) post thrown (promoteJob queueName job) now := by
  rw [promoteJob, proceeds_catching, Program.bind_eq, proceeds_bind, proceeds_changePriority]
  refine ⟨_, moved, ⟨job, rest, rfl, rfl⟩, fun turn s => ?_⟩
  rcases @changePriority_tried place queueName turn s job.id promoted with ⟨error, answer⟩ | ⟨s', answer, tried⟩
  · rw [answer]
    exact holds false turn s s .refused
  · rw [answer]
    exact holds true turn s s' tried

/-- The rest of the loop over the fetched jobs: it awaits the promotion of the first job that passes, if any. -/
theorem proceeds_promoteEach (jobs : List BandJob) (promoted : Nat)
    (none : jobs.filter (BandJob.passes time) = [] →
      MayRest place { now with state := now.state.record queueName promoted })
    (some : jobs.filter (BandJob.passes time) ≠ [] →
      PromoterMove place now.stage now.start now.env now.state
        (.moving queueName (jobs.filter (BandJob.passes time)) promoted)) :
    (promoterLoop place).Proceeds (promoterDiscipline place)
      (fun count now => MayRest place { now with state := now.state.record queueName count }) thrown
      (promoteEach queueName time jobs promoted) now := by
  induction jobs generalizing now promoted with
  | nil => exact none rfl
  | cons job rest ih =>
    rw [promoteEach_cons]
    by_cases passes : job.passes time = true
    · rw [List.filter_cons_of_pos passes] at some
      rw [if_pos passes, proceeds_bind]
      refine proceeds_promoteJob (some (List.cons_ne_nil _ _)) fun ok turn s s' tried => ?_
      apply ih
      · intro last next resting
        rw [last]
        exact .ends tried resting
      · intro _
        exact .goesOn tried
    · rw [List.filter_cons_of_neg passes] at none some
      rw [if_neg passes]
      exact ih promoted none some

theorem proceeds_getJobs {post : List BandJob → Segment PromoterStage PromoterStore PromoterTurn → Prop} :
    (promoterLoop place).Proceeds (promoterDiscipline place) post thrown (Promoter.getJobs queueName) = fun now =>
      ∃ stage, PromoterMove place now.stage now.start now.env now.state stage ∧ stage.awaits (.getJobs queueName) ∧ ∀ turn s,
        (promoterLoop place).Proceeds (promoterDiscipline place) post thrown
          (.ofExcept (PromoterStore.answer place turn s (.getJobs queueName)).1)
          ⟨stage, s, turn, (PromoterStore.answer place turn s (.getJobs queueName)).2⟩ :=
  proceeds_await rfl

/-- The step lemma of a scan of one queue. -/
theorem proceeds_promoteQueue (rests : MayRest place now) :
    (promoterLoop place).Proceeds (promoterDiscipline place) (fun _ => MayRest place) (fun _ => MayRest place)
      (promoteQueue queueName time) now := by
  rw [promoteQueue, Program.bind_eq, proceeds_bind, proceeds_getJobs]
  refine ⟨.fetching queueName, rests _ trivial, rfl, fun turn s => ?_⟩
  cases fails : turn.fails with
  | some error =>
    have answer : PromoterStore.answer place turn s (.getJobs queueName) = (.error error, s) := by
      simp [PromoterStore.answer, fails]
    rw [answer]
    exact fun next resting => .misses resting
  | none =>
    have answer : PromoterStore.answer place turn s (.getJobs queueName) = (.ok (s.content queueName).window, s) := by
      simp [PromoterStore.answer, fails]
    rw [answer]
    show (promoterLoop place).Proceeds (promoterDiscipline place) _ _ ((promoteEach _ _ _ 0).bind _) _
    rw [proceeds_bind]
    refine (proceeds_promoteEach (s.content queueName).window 0 ?_ ?_).mono (fun count now rests => ?_) fun _ _ => id
    · intro _
      rw [record_zero]
      exact fun next resting => .misses resting
    · intro _
      refine .begins fails List.filter_sublist fun job member => ?_
      have passes := (List.mem_filter.mp member).2
      simp only [BandJob.passes, Bool.and_eq_true, decide_eq_true_eq] at passes
      exact passes.1
    · apply proceeds_record
      rw [List.length_range]
      exact rests

end Scan

theorem proceeds_promoteStalledJobs (queues : List String) (turn : PromoterTurn) (s : PromoterStore) :
    (promoterLoop place).Completes (promoterDiscipline place) (promoteStalledJobs queues) ⟨.apart, s, turn, s⟩ := by
  have loops : (promoterLoop place).Proceeds (promoterDiscipline place) (fun _ => MayRest place)
      (fun error => Closes (promoterDiscipline place) (.thrown error))
      (Program.forEach queues fun queueName => (promoteQueue queueName turn.now).catching fun _ => return ())
      ⟨.apart, s, turn, s⟩ := by
    apply proceeds_forEach
    · exact fun next resting => .rests resting
    · intro queueName _ now rests
      rw [proceeds_catching]
      exact proceeds_promoteQueue rests
  exact loops.mono (fun _ now rests => ⟨.apart, rests .apart trivial, rfl⟩) fun _ _ => id

end OrchestrateModel
