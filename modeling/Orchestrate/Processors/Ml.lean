import Orchestrate.Effect.Stages
import Orchestrate.Model.Ml

namespace OrchestrateModel

open Effect Cooperation Program

section Text

/-- The summary is the first half of the sentences, which is how the text begins. -/
structure Summarizes (text summary : String) : Prop where
  short : ∃ rest, text.toList = summary.toList ++ rest ∧ (rest = [] ∨ ['.', ' '] <+: rest)
  half : ∃ kept, summary.toList = ['.', ' '].intercalate kept ∧ kept <+: Text.pieces '.' ' ' text.toList ∧
    kept.length = ((Text.pieces '.' ' ' text.toList).length + 1) / 2 ∧ ∀ sentence ∈ kept, ¬ ['.', ' '] <:+: sentence

theorem summary_summarizes (text : String) : Summarizes text (SummarizerEngine.summary text) := by
  have letters : (SummarizerEngine.summary text).toList = ['.', ' '].intercalate ((Text.pieces '.' ' ' text.toList).take
      (((Text.pieces '.' ' ' text.toList).length + 1) / 2)) := String.toList_ofList
  have some_ : 0 < (Text.pieces '.' ' ' text.toList).length := List.length_pos_of_ne_nil (Text.pieces_ne_nil _)
  constructor
  · obtain ⟨rest, joined, ends⟩ := Text.join_take ['.', ' ']
      (show 0 < ((Text.pieces '.' ' ' text.toList).length + 1) / 2 by omega) (Text.pieces '.' ' ' text.toList)
    rw [Text.join_pieces, ← letters] at joined
    exact ⟨rest, joined, ends⟩
  · refine ⟨_, letters, List.take_prefix _ _, ?_, fun sentence kept => ?_⟩
    · rw [List.length_take]
      omega
    · exact Text.pieces_apart text.toList sentence (List.mem_of_mem_take kept)

/-- The words of the text in the characters that are kept, with single blanks between them. -/
structure Cleans (text cleaned : String) : Prop where
  words : cleaned.toList = [' '].intercalate
    (Text.words isWhite (text.toList.filter fun c => OCREngine.allowed c && decide (c.toNat ≤ 0x7f)))
  neat : Text.Neat isWhite ' ' cleaned.toList
  again : OCREngine.cleaned cleaned = cleaned

theorem cleaned_toList (text : String) : (OCREngine.cleaned text).toList = Text.trim isWhite
    (Text.squeeze isWhite ' ' (text.toList.filter fun c => OCREngine.allowed c && decide (c.toNat ≤ 0x7f))) := by
  simp only [OCREngine.cleaned, String.toList_ofList, List.filter_filter]

theorem cleaned_cleans (text : String) : Cleans text (OCREngine.cleaned text) := by
  have blank : isWhite ' ' = true := by decide
  have neat : Text.Neat isWhite ' ' (OCREngine.cleaned text).toList := by
    rw [cleaned_toList]
    exact Text.neat_trim_squeeze blank _
  refine ⟨?_, neat, ?_⟩
  · rw [cleaned_toList, Text.trim_squeeze blank]
  · have kept : ∀ c ∈ (OCREngine.cleaned text).toList, (OCREngine.allowed c && decide (c.toNat ≤ 0x7f)) = true := by
      intro c member
      rw [cleaned_toList] at member
      rcases Text.mem_squeeze (Text.trim_subset _ member) with before | rfl
      · exact (List.mem_filter.mp before).2
      · decide
    apply String.toList_injective
    rw [cleaned_toList, List.filter_eq_self.mpr kept, neat.trim_squeeze blank]

end Text

/-- What the job asks for, where it passes the checks. -/
structure MLJob.Asks (job : MLJob) (taskType input : String) : Prop where
  kind : job.taskType = some taskType
  given : job.input = some input
  nonempty : input ≠ ""
  bounded : jsLength input ≤ MLProcessor.MAX_INPUT_SIZE

/-- The prediction is one for the job, from the texts that were recognized. -/
def Predicted (classify : String → String) (texts : List String) (job : MLJob) (prediction : String) : Prop :=
  ∃ input, (job.Asks "text_summarization" input ∧ 20 ≤ jsLength input ∧ Summarizes input prediction) ∨
    (job.Asks "classification" input ∧ prediction = classify input) ∨
    (job.Asks "ocr" input ∧ ∃ text ∈ texts, Cleans text prediction)

namespace Models

def predict (s : Models) (job : MLJob) (prediction : String) : Models :=
  { s with predictions := s.predictions ++ [(job, prediction)] }

def load (s : Models) : Models :=
  if s.classifier = none then { s with classifier := some s.trained, trained := s.trained + 1 } else s

def employ (s : Models) : Models := { s with ocrWorker := some s.created, created := s.created + 1 }

end Models

/-- Where an inference stands: not with an image, or at one of the calls of an image's. -/
inductive MLStage : Type where
  | apart
  | fetching (job : MLJob)
  | preparing (job : MLJob)
  | creating (job : MLJob)
  | recognizing (job : MLJob) (worker : Nat)
  deriving DecidableEq, Repr

namespace MLStage

def job? : MLStage → Option MLJob
  | apart => none
  | fetching job | preparing job | creating job | recognizing job _ => some job

def worker? : MLStage → Option Nat
  | recognizing _ worker => some worker
  | apart | fetching _ | preparing _ | creating _ => none

def creates : MLStage → Bool
  | creating _ => true
  | apart | fetching _ | preparing _ | recognizing _ _ => false

def awaits : MLStage → MLCall → Prop
  | apart, _ => False
  | fetching _, c => ∃ imageUrl, c = .get imageUrl
  | preparing _, c => ∃ image, c = .preprocess image
  | creating _, c => c = .createWorker
  | recognizing _ worker, c => ∃ image, c = .recognize worker image

end MLStage

/-- What a segment can do, with the stages before and after it; a prediction is attached unless the time is over. -/
inductive MLMove (classify : String → String) : MLStage → Models → MLTurn → Models → MLStage → Prop where
  | fails {s : Models} {turn : MLTurn} : MLMove classify .apart s turn s .apart
  | summarizes {s : Models} {turn : MLTurn} {input : String} (asks : turn.job.Asks "text_summarization" input)
      (long : 20 ≤ jsLength input) :
      MLMove classify .apart s turn (s.predict turn.job (SummarizerEngine.summary input)) .apart
  | loads {s : Models} {turn : MLTurn} : MLMove classify .apart s turn s.load .apart
  | classifies {s : Models} {turn : MLTurn} {input : String} (asks : turn.job.Asks "classification" input) :
      MLMove classify .apart s turn (s.load.predict turn.job (classify input)) .apart
  | begins {s : Models} {turn : MLTurn} {input : String} (asks : turn.job.Asks "ocr" input) :
      MLMove classify .apart s turn s (.fetching turn.job)
  | misses {s : Models} {turn : MLTurn} {job : MLJob} : MLMove classify (.fetching job) s turn s .apart
  | fetches {s : Models} {turn : MLTurn} {job : MLJob} : MLMove classify (.fetching job) s turn s (.preparing job)
  | spoils {s : Models} {turn : MLTurn} {job : MLJob} (failed : turn.preprocessed.toBool = false) :
      MLMove classify (.preparing job) s turn s .apart
  | finds {s : Models} {turn : MLTurn} {job : MLJob} {worker : Nat} (kept : s.ocrWorker = some worker) :
      MLMove classify (.preparing job) s turn s (.recognizing job worker)
  | lacks {s : Models} {turn : MLTurn} {job : MLJob} (prepared : turn.preprocessed.toBool = true)
      (kept : s.ocrWorker = none) : MLMove classify (.preparing job) s turn s (.creating job)
  | refuses {s : Models} {turn : MLTurn} {job : MLJob} (refused : turn.refused.isSome = true) :
      MLMove classify (.creating job) s turn s .apart
  | creates {s : Models} {turn : MLTurn} {job : MLJob} (made : turn.refused = none) :
      MLMove classify (.creating job) s turn s.employ (.recognizing job s.created)
  | drops {s : Models} {turn : MLTurn} {job : MLJob} {worker : Nat} :
      MLMove classify (.recognizing job worker) s turn s .apart
  | reads {s : Models} {turn : MLTurn} {job : MLJob} {worker : Nat} {text : String} (read : turn.text = .ok text) :
      MLMove classify (.recognizing job worker) s turn (s.predict job (OCREngine.cleaned text)) .apart

def mlDiscipline (classify : String → String) : Discipline mlSignature Err MLStage Models MLTurn where
  moves segment stage := MLMove classify segment.stage segment.start segment.env segment.state stage
  awaited := MLStage.awaits
  ended stage _ := stage = .apart

section Inference

abbrev MLSegment := Segment MLStage Models MLTurn

variable {classify : String → String} {now : MLSegment} {job : MLJob} {thrown : Err → MLSegment → Prop}

/-- The segment may end the inference. -/
def Lapsed (classify : String → String) (now : MLSegment) : Prop :=
  MLMove classify now.stage now.start now.env now.state .apart

/-- The segment may end the inference with the prediction, or without it. -/
structure Ripe (classify : String → String) (job : MLJob) (prediction : String) (now : MLSegment) : Prop where
  attached : Lapsed classify { now with state := now.state.predict job prediction }
  dropped : Lapsed classify now

/-- The calls that the process waits for, each with the stage that it is awaited at. -/
theorem proceeds_ml_await {c : MLCall} (other : c.sync = false) (stage : MLStage)
    (moved : MLMove classify now.stage now.start now.env now.state stage) (awaits : stage.awaits c)
    {post : c.Reply → MLSegment → Prop}
    (later : ∀ turn s, mlLoop.Proceeds (mlDiscipline classify) post thrown
      (.ofExcept (Models.answer turn s c).1) ⟨stage, s, turn, (Models.answer turn s c).2⟩) :
    mlLoop.Proceeds (mlDiscipline classify) post thrown (ML.invoke c) now := by
  exact (congrFun (proceeds_await (C := mlLoop) (D := mlDiscipline classify) other) now).mpr ⟨stage, moved, awaits, later⟩

theorem proceeds_ml_own {c : MLCall} (own : c.sync = true) {post : c.Reply → MLSegment → Prop}
    (later : mlLoop.Proceeds (mlDiscipline classify) post thrown (.ofExcept (Models.answer now.env now.state c).1)
      { now with state := (Models.answer now.env now.state c).2 }) :
    mlLoop.Proceeds (mlDiscipline classify) post thrown (ML.invoke c) now := by
  exact (congrFun (proceeds_await_own (C := mlLoop) (D := mlDiscipline classify) own) now).mpr later

theorem proceeds_getClassifier {post : Nat → MLSegment → Prop}
    (returns : ∀ classifier, post classifier { now with state := now.state.load }) :
    mlLoop.Proceeds (mlDiscipline classify) post thrown ModelLoader.getClassifier now := by
  obtain ⟨stage, start, turn, s⟩ := now
  cases kept : s.classifier with
  | none =>
    have loads : s.load = { s with classifier := some s.trained, trained := s.trained + 1 } := if_pos kept
    rw [loads] at returns
    simpa [ModelLoader.getClassifier, ML.invoke, Program.await, Proceeds, mlLoop, MLCall.sync, Models.answer, kept]
      using returns s.trained
  | some classifier =>
    have loads : s.load = s := if_neg (by simp [kept])
    rw [loads] at returns
    simpa [ModelLoader.getClassifier, ML.invoke, Program.await, Proceeds, mlLoop, MLCall.sync, Models.answer, kept]
      using returns classifier

theorem proceeds_getOCRWorker {s : Models} {env : MLTurn} (prepared : env.preprocessed.toBool = true)
    {post : Nat → MLSegment → Prop}
    (finds : ∀ worker, MLMove classify (.preparing job) s env s (.recognizing job worker) →
      post worker ⟨.preparing job, s, env, s⟩)
    (creates : ∀ s turn, MLMove classify (.creating job) s turn s.employ (.recognizing job s.created) →
      post s.created ⟨.creating job, s, turn, s.employ⟩)
    (refuses : ∀ error s turn, Lapsed classify ⟨.creating job, s, turn, s⟩ → thrown error ⟨.creating job, s, turn, s⟩) :
    mlLoop.Proceeds (mlDiscipline classify) post thrown ModelLoader.getOCRWorker ⟨.preparing job, s, env, s⟩ := by
  unfold ModelLoader.getOCRWorker
  simp only [bind_eq, proceeds_bind]
  refine proceeds_ml_own rfl ?_
  show mlLoop.Proceeds (mlDiscipline classify) _ _ (.ofExcept (.ok s.ocrWorker)) ⟨.preparing job, s, env, s⟩
  simp only [Program.ofExcept, proceeds_done]
  cases kept : s.ocrWorker with
  | some worker => exact finds worker (.finds kept)
  | none =>
    simp only [proceeds_bind]
    refine proceeds_ml_await rfl (.creating job) (.lacks prepared kept) rfl fun turn s => ?_
    cases refused : turn.refused with
    | some error =>
      simp only [Models.answer, refused, Program.ofExcept, proceeds_throws]
      exact refuses error s turn (.refuses (by simp [refused]))
    | none =>
      simp only [Models.answer, refused, Program.ofExcept, proceeds_done]
      exact proceeds_ml_own rfl (creates s turn (.creates refused))

theorem proceeds_ocr (imageUrl : String) {input : String} {s : Models} {turn : MLTurn} (asks : turn.job.Asks "ocr" input) :
    mlLoop.Proceeds (mlDiscipline classify) (Ripe classify turn.job) (fun _ => Lapsed classify) (OCREngine.run imageUrl)
      ⟨.apart, s, turn, s⟩ := by
  generalize own : turn.job = job at asks
  unfold OCREngine.run
  simp only [bind_eq, proceeds_bind]
  refine proceeds_ml_await rfl (.fetching job) (own ▸ .begins (own.symm ▸ asks)) ⟨imageUrl, rfl⟩ fun turn s => ?_
  show mlLoop.Proceeds (mlDiscipline classify) _ _ (.ofExcept turn.image) ⟨.fetching job, s, turn, s⟩
  cases turn.image with
  | error error => exact MLMove.misses
  | ok buffer =>
    simp only [Program.ofExcept, proceeds_done]
    refine proceeds_ml_await rfl (.preparing job) .fetches ⟨buffer, rfl⟩ fun turn s => ?_
    show mlLoop.Proceeds (mlDiscipline classify) _ _ (.ofExcept turn.preprocessed) ⟨.preparing job, s, turn, s⟩
    cases prepared : turn.preprocessed with
    | error error => exact MLMove.spoils (by rw [prepared]; rfl)
    | ok image =>
      simp only [Program.ofExcept, proceeds_done]
      have reading (worker : Nat) (now : MLSegment)
          (moved : MLMove classify now.stage now.start now.env now.state (.recognizing job worker)) :
          mlLoop.Proceeds (mlDiscipline classify) (fun text => Ripe classify job (OCREngine.cleaned text))
            (fun _ => Lapsed classify) (ML.recognize worker image) now := by
        refine proceeds_ml_await rfl (.recognizing job worker) moved ⟨image, rfl⟩ fun turn s => ?_
        show mlLoop.Proceeds (mlDiscipline classify) _ _ (.ofExcept turn.text) ⟨.recognizing job worker, s, turn, s⟩
        cases read : turn.text with
        | error error => exact MLMove.drops
        | ok text => exact ⟨.reads read, .drops⟩
      refine proceeds_getOCRWorker (by rw [prepared]; rfl) (fun worker moved => ?_)
        (fun s turn moved => ?_) fun error s turn spent => spent
      · exact reading worker _ moved
      · exact reading s.created _ moved

theorem proceeds_inference {taskType input : String} {s : Models} {turn : MLTurn} (asks : turn.job.Asks taskType input) :
    mlLoop.Proceeds (mlDiscipline classify) (Ripe classify turn.job) (fun _ => Lapsed classify)
      (MLProcessor.inference classify taskType input) ⟨.apart, s, turn, s⟩ := by
  unfold MLProcessor.inference
  split
  · unfold SummarizerEngine.run
    split
    · exact MLMove.fails
    · rename_i long
      exact ⟨.summarizes asks (by omega), .fails⟩
  · unfold ClassifierEngine.run
    simp only [bind_eq, proceeds_bind]
    exact proceeds_getClassifier fun classifier => ⟨.classifies asks, .loads⟩
  · exact proceeds_ocr input asks
  · exact MLMove.fails

/-- What an inference comes to is attached to the job, or dropped if the time is over. -/
theorem proceeds_pTimeout {running : MLProgram String}
    (runs : mlLoop.Proceeds (mlDiscipline classify) (Ripe classify job) (fun _ => Lapsed classify) running now) :
    mlLoop.Proceeds (mlDiscipline classify) (fun _ => Lapsed classify) (fun _ => Lapsed classify)
      ((MLProcessor.pTimeout running).bind (ML.attach job)) now := by
  unfold MLProcessor.pTimeout
  simp only [bind_eq, proceeds_bind, proceeds_capture]
  refine runs.mono (fun prediction now ripe => ?_) fun error now spent => ?_
  · refine proceeds_ml_own rfl ?_
    simp only [Models.answer, Program.ofExcept, proceeds_done]
    cases now.env.timedOut with
    | true => exact ripe.dropped
    | false => exact proceeds_ml_own rfl ripe.attached
  · refine proceeds_ml_own rfl ?_
    simp only [Models.answer, Program.ofExcept, proceeds_done]
    cases now.env.timedOut with
    | true => exact spent
    | false => exact spent

/-- An inference keeps to the stages. -/
theorem proceeds_ml_process (turn : MLTurn) (s : Models) :
    mlLoop.Completes (mlDiscipline classify) (MLProcessor.process classify turn.job) ⟨.apart, s, turn, s⟩ := by
  have proceeds : mlLoop.Proceeds (mlDiscipline classify) (fun _ => Lapsed classify) (fun _ => Lapsed classify)
      (MLProcessor.process classify turn.job) ⟨.apart, s, turn, s⟩ := by
    unfold MLProcessor.process
    dsimp only
    split
    · exact MLMove.fails
    · split
      · exact MLMove.fails
      · split
        · exact MLMove.fails
        · rename_i kind given bounded
          have asks : turn.job.Asks (turn.job.taskType.getD "") (turn.job.input.getD "") := by
            refine ⟨?_, ?_, given, Nat.not_lt.mp bounded⟩
            · cases own : turn.job.taskType <;> simp_all
            · cases own : turn.job.input <;> simp_all
          exact proceeds_pTimeout (proceeds_inference asks)
  exact proceeds.mono (fun _ now spent => ⟨.apart, spent, rfl⟩) fun _ now spent => ⟨.apart, spent, rfl⟩

end Inference

namespace MLStage

/-- What the reply to a call shows at each stage: a worker is missing, or is refused, or a text is read. -/
def lacks (s : Models) (turn : MLTurn) : MLStage → Bool
  | preparing _ => turn.preprocessed.toBool && s.ocrWorker.isNone
  | apart | fetching _ | creating _ | recognizing _ _ => false

def refuses (turn : MLTurn) : MLStage → Bool
  | creating _ => turn.refused.isSome
  | apart | fetching _ | preparing _ | recognizing _ _ => false

def reads (turn : MLTurn) : MLStage → Option String
  | recognizing _ _ => turn.text.toOption
  | apart | fetching _ | preparing _ | creating _ => none

end MLStage

section Step

variable {classify : String → String} {asked refused : Nat} {texts : List String} {s s' : Models} {turn : MLTurn}
  {stages stages' : List MLStage} {old new : MLStage}

/-- The statics hold the last model of each kind; a worker has been made or refused, or is being made, for each time that
    one was missing. -/
structure Loaded (classify : String → String) (asked refused : Nat) (texts : List String) (s : Models)
    (stages : List MLStage) : Prop where
  classifier : s.classifier = if s.trained = 0 then none else some 0
  trained : s.trained ≤ 1
  worker : s.ocrWorker = if s.created = 0 then none else some (s.created - 1)
  counted : s.created + refused + stages.countP MLStage.creates = asked
  own : ∀ stage ∈ stages, ∀ worker, stage.worker? = some worker → worker < s.created
  asks : ∀ stage ∈ stages, ∀ job, stage.job? = some job → ∃ input, job.Asks "ocr" input
  predictions : ∀ p ∈ s.predictions, Predicted classify texts p.1 p.2

theorem Predicted.mono {more : List String} {job : MLJob} {prediction : String}
    (predicted : Predicted classify texts job prediction) : Predicted classify (texts ++ more) job prediction := by
  obtain ⟨input, summary | label | ⟨asks, text, member, cleans⟩⟩ := predicted
  · exact ⟨input, .inl summary⟩
  · exact ⟨input, .inr (.inl label)⟩
  · exact ⟨input, .inr (.inr ⟨asks, text, List.mem_append_left _ member, cleans⟩)⟩

theorem load_classifier (classifier : s.classifier = if s.trained = 0 then none else some 0) (trained : s.trained ≤ 1) :
    s.load.classifier = some 0 ∧ s.load.trained = 1 ∧ s.load.created = s.created ∧ s.load.ocrWorker = s.ocrWorker ∧
      s.load.predictions = s.predictions := by
  by_cases fresh : s.trained = 0
  · have none_ : s.classifier = none := by rw [classifier, if_pos fresh]
    simp [Models.load, none_, fresh]
  · have once : s.trained = 1 := by omega
    have some_ : s.classifier = some 0 := by rw [classifier, if_neg fresh]
    simp [Models.load, some_, once]

/-- A worker that is kept has been made. -/
theorem Loaded.made (loaded : Loaded classify asked refused texts s stages) {worker : Nat}
    (kept : s.ocrWorker = some worker) : worker < s.created := by
  have last := loaded.worker
  rw [kept] at last
  split at last
  · cases last
  · have same := Option.some.inj last
    omega

theorem Loaded.unmade (loaded : Loaded classify asked refused texts s stages) (none_ : s.ocrWorker = none) :
    s.created = 0 := by
  have last := loaded.worker
  rw [none_] at last
  by_contra some_
  rw [if_neg some_] at last
  cases last

/-- The step lemma for a turn that makes no worker. -/
theorem Loaded.keep (loaded : Loaded classify asked refused texts s stages)
    (classifier : s'.classifier = if s'.trained = 0 then none else some 0) (trained : s'.trained ≤ 1)
    (worker : s'.ocrWorker = s.ocrWorker) (created : s'.created = s.created)
    (members : ∀ stage ∈ stages', stage ∈ stages ∨ stage = new)
    (counts : stages'.countP MLStage.creates + (if old.creates then 1 else 0) =
      stages.countP MLStage.creates + if new.creates then 1 else 0)
    (balance : (if old.refuses turn then 1 else 0) + (if new.creates then 1 else 0) =
      (if old.creates then 1 else 0) + if old.lacks s turn then 1 else 0)
    (own : ∀ worker, new.worker? = some worker → worker < s.created)
    (job : ∀ job, new.job? = some job → ∃ input, job.Asks "ocr" input)
    (predictions : ∀ p ∈ s'.predictions,
      p ∈ s.predictions ∨ Predicted classify (texts ++ (old.reads turn).toList) p.1 p.2) :
    Loaded classify (asked + if old.lacks s turn then 1 else 0) (refused + if old.refuses turn then 1 else 0)
      (texts ++ (old.reads turn).toList) s' stages' where
  classifier := classifier
  trained := trained
  worker := by rw [worker, created, loaded.worker]
  counted := by
    have before := loaded.counted
    omega
  own stage member w has := by
    rw [created]
    rcases members stage member with before | rfl
    · exact loaded.own stage before w has
    · exact own w has
  asks stage member j has := by
    rcases members stage member with before | rfl
    · exact loaded.asks stage before j has
    · exact job j has
  predictions p member := by
    rcases predictions p member with before | now
    · exact (loaded.predictions p before).mono
    · exact now

/-- The step lemma for a turn that changes the stage only. -/
theorem Loaded.still (loaded : Loaded classify asked refused texts s stages)
    (members : ∀ stage ∈ stages', stage ∈ stages ∨ stage = new)
    (counts : stages'.countP MLStage.creates + (if old.creates then 1 else 0) =
      stages.countP MLStage.creates + if new.creates then 1 else 0)
    (balance : (if old.refuses turn then 1 else 0) + (if new.creates then 1 else 0) =
      (if old.creates then 1 else 0) + if old.lacks s turn then 1 else 0)
    (own : ∀ worker, new.worker? = some worker → worker < s.created)
    (job : ∀ job, new.job? = some job → ∃ input, job.Asks "ocr" input) :
    Loaded classify (asked + if old.lacks s turn then 1 else 0) (refused + if old.refuses turn then 1 else 0)
      (texts ++ (old.reads turn).toList) s stages' :=
  loaded.keep loaded.classifier loaded.trained rfl rfl members counts balance own job fun _ => .inl

/-- The step lemma. -/
theorem Loaded.move (loaded : Loaded classify asked refused texts s stages) (moved : MLMove classify old s turn s' new)
    (present : old ∈ stages ∨ old = .apart) (members : ∀ stage ∈ stages', stage ∈ stages ∨ stage = new)
    (counts : stages'.countP MLStage.creates + (if old.creates then 1 else 0) =
      stages.countP MLStage.creates + if new.creates then 1 else 0) :
    Loaded classify (asked + if old.lacks s turn then 1 else 0) (refused + if old.refuses turn then 1 else 0)
      (texts ++ (old.reads turn).toList) s' stages' := by
  have job (j : MLJob) (has : old.job? = some j) : ∃ input, j.Asks "ocr" input := by
    rcases present with member | rfl
    · exact loaded.asks old member j has
    · cases has
  have idle (worker : Nat) (has : (MLStage.apart).worker? = some worker) : worker < s.created := by cases has
  have jobless (j : MLJob) (has : (MLStage.apart).job? = some j) : ∃ input, j.Asks "ocr" input := by cases has
  cases moved with
  | fails =>
    exact loaded.still members counts rfl idle jobless
  | @summarizes _ _ input asks long =>
    refine loaded.keep loaded.classifier loaded.trained rfl rfl members counts rfl idle jobless fun p member => ?_
    rcases List.mem_append.mp member with before | now
    · exact .inl before
    · obtain rfl := List.mem_singleton.mp now
      exact .inr ⟨input, .inl ⟨asks, long, summary_summarizes input⟩⟩
  | loads =>
    obtain ⟨classifier, trained, created, worker, predictions⟩ := load_classifier loaded.classifier loaded.trained
    refine loaded.keep (by rw [classifier, trained]; rfl) (by omega) worker created members counts rfl idle jobless
      fun p member => ?_
    exact .inl (predictions ▸ member)
  | @classifies _ _ input asks =>
    obtain ⟨classifier, trained, created, worker, predictions⟩ := load_classifier loaded.classifier loaded.trained
    refine loaded.keep (classifier.trans (if_neg (by simp [Models.predict, trained])).symm)
      (Nat.le_of_eq trained) worker created members counts rfl idle jobless fun p member => ?_
    rcases List.mem_append.mp member with before | now
    · exact .inl (predictions ▸ before)
    · obtain rfl := List.mem_singleton.mp now
      exact .inr ⟨input, .inr (.inl ⟨asks, rfl⟩)⟩
  | @begins _ _ input asks =>
    refine loaded.still members counts rfl (fun worker has => by cases has) (fun j has => ?_)
    obtain rfl := Option.some.inj has
    exact ⟨input, asks⟩
  | misses =>
    exact loaded.still members counts rfl idle jobless
  | fetches =>
    exact loaded.still members counts rfl (fun worker has => by cases has) job
  | spoils failed =>
    exact loaded.still members counts
      (by simp [MLStage.lacks, MLStage.refuses, MLStage.creates, failed]) idle jobless
  | @finds _ _ _ worker kept =>
    refine loaded.still members counts
      (by simp [MLStage.lacks, MLStage.refuses, MLStage.creates, kept]) (fun w has => ?_) job
    obtain rfl := Option.some.inj has
    exact loaded.made kept
  | lacks prepared kept =>
    exact loaded.still members counts
      (by simp [MLStage.lacks, MLStage.refuses, MLStage.creates, prepared, kept]) (fun worker has => by cases has) job
  | refuses refused =>
    exact loaded.still members counts
      (by simp [MLStage.lacks, MLStage.refuses, MLStage.creates, refused]) idle jobless
  | drops =>
    exact loaded.still members counts rfl idle jobless
  | @reads _ _ j worker text read =>
    refine loaded.keep loaded.classifier loaded.trained rfl rfl members counts rfl idle jobless fun p member => ?_
    rcases List.mem_append.mp member with before | now
    · exact .inl before
    · obtain rfl := List.mem_singleton.mp now
      obtain ⟨input, asks⟩ := job j rfl
      refine .inr ⟨input, .inr (.inr ⟨asks, text, ?_, cleaned_cleans text⟩)⟩
      simp [MLStage.reads, read, Except.toOption]
  | @creates _ _ j made =>
    have none_ : MLStage.lacks s turn (.creating j) = false := rfl
    have willing : MLStage.refuses turn (.creating j) = false := by simp [MLStage.refuses, made]
    have nothing : MLStage.reads turn (.creating j) = none := rfl
    rw [none_, willing, nothing, Option.toList_none, List.append_nil]
    refine ⟨loaded.classifier, loaded.trained, rfl, ?_, fun stage member worker has => ?_, fun stage member other has => ?_,
      loaded.predictions⟩
    · have before := loaded.counted
      simp [Models.employ, MLStage.creates] at counts ⊢
      omega
    · show worker < s.created + 1
      rcases members stage member with before | rfl
      · exact Nat.lt_succ_of_lt (loaded.own stage before worker has)
      · obtain rfl := Option.some.inj has
        exact Nat.lt_succ_self _
    · rcases members stage member with before | rfl
      · exact loaded.asks stage before other has
      · exact job other has

theorem MLMove.created (moved : MLMove classify old s turn s' new) (lacks : old.lacks s turn = true) :
    s'.created = s.created := by
  cases moved with
  | creates made => cases lacks
  | loads | classifies asks => cases lacks
  | fails | summarizes asks long | begins asks | misses | fetches | spoils failed | finds kept | lacks prepared kept
  | refuses refused | drops | reads read => rfl

/-- A worker once kept is replaced at most. -/
theorem MLMove.kept (moved : MLMove classify old s turn s' new) (kept : s.ocrWorker.isSome = true) :
    s'.ocrWorker.isSome = true := by
  have loads : s.load.ocrWorker = s.ocrWorker := by
    rw [Models.load]
    split <;> rfl
  cases moved with
  | creates made => rfl
  | loads | classifies asks =>
    show s.load.ocrWorker.isSome = true
    rwa [loads]
  | fails | summarizes asks long | begins asks | misses | fetches | spoils failed | finds found | lacks prepared missed
  | refuses refused | drops | reads read => exact kept

end Step

section Runs

variable {classify : String → String} {pool : Pool mlSignature Err Models}
  {visited : List (Pool mlSignature Err Models × Turn × MLTurn)}

namespace MLCall

def starts : MLCall → Bool
  | createWorker => true
  | _ => false

def lacks (s : Models) (turn : MLTurn) : MLCall → Bool
  | preprocess _ => turn.preprocessed.toBool && s.ocrWorker.isNone
  | _ => false

def refuses (turn : MLTurn) : MLCall → Bool
  | createWorker => turn.refused.isSome
  | _ => false

def reads (turn : MLTurn) : MLCall → Option String
  | recognize _ _ => turn.text.toOption
  | _ => none

end MLCall

/-- An image is ready in the turn, and there is no worker to read it. -/
def lacksWorker (pool : Pool mlSignature Err Models) (event : Turn × MLTurn) : Bool :=
  (resumed pool event.1).any (MLCall.lacks pool.state event.2)

def refusesWorker (pool : Pool mlSignature Err Models) (event : Turn × MLTurn) : Bool :=
  (resumed pool event.1).any (MLCall.refuses event.2)

def readText (pool : Pool mlSignature Err Models) (event : Turn × MLTurn) : Option String :=
  (resumed pool event.1).bind (MLCall.reads event.2)

/-- How many workers are being made. -/
def starting (pool : Pool mlSignature Err Models) : Nat := pool.threads.countP fun thread => thread.awaits.any MLCall.starts

theorem starts_of_awaits (stage : MLStage) (c : MLCall) (awaits : stage.awaits c) : stage.creates = c.starts := by
  cases stage with
  | apart => cases awaits
  | fetching job | preparing job | recognizing job worker =>
    obtain ⟨_, rfl⟩ := awaits
    rfl
  | creating job =>
    obtain rfl := awaits
    rfl

theorem shows_of_awaits {s : Models} {turn : MLTurn} {stage : MLStage} {c : MLCall} (awaits : stage.awaits c) :
    c.lacks s turn = stage.lacks s turn ∧ c.refuses turn = stage.refuses turn ∧ c.reads turn = stage.reads turn := by
  cases stage with
  | apart => cases awaits
  | fetching job | preparing job | recognizing job worker =>
    obtain ⟨_, rfl⟩ := awaits
    exact ⟨rfl, rfl, rfl⟩
  | creating job =>
    obtain rfl := awaits
    exact ⟨rfl, rfl, rfl⟩

theorem stages_starting {stages : List MLStage}
    (waits : List.Forall₂ (mlLoop.Waits (mlDiscipline classify)) stages pool.threads) :
    stages.countP MLStage.creates = starting pool :=
  waits_countP starts_of_awaits (fun stage outcome (ended : stage = .apart) => by rw [ended]; rfl) waits

/-- Once a worker is kept, none is begun; and one is made in all if no two are being made at once. -/
structure Staffed (visited : List (Pool mlSignature Err Models × Turn × MLTurn)) (s : Models) (stages : List MLStage) :
    Prop where
  kept : ∀ v ∈ visited, v.1.state.ocrWorker.isSome = true →
    s.ocrWorker.isSome = true ∧ s.created + stages.countP MLStage.creates ≤ v.1.state.created + starting v.1
  single : (∀ v ∈ visited, starting v.1 ≤ 1) →
    s.created ≤ 1 ∧ (stages.countP MLStage.creates ≤ 1 → s.created + stages.countP MLStage.creates ≤ 1)

theorem loaded_run (run : (mlWorkers classify).Run { state := {}, threads := [] } visited pool) :
    ∃ stages, List.Forall₂ (mlLoop.Waits (mlDiscipline classify)) stages pool.threads ∧
      Loaded classify (visited.countP fun v => lacksWorker v.1 v.2) (visited.countP fun v => refusesWorker v.1 v.2)
        (visited.filterMap fun v => readText v.1 v.2) pool.state stages ∧ Staffed visited pool.state stages := by
  apply took_run (fun turn s => proceeds_ml_process turn s) (fun visited s stages =>
    Loaded classify (visited.countP fun v => lacksWorker v.1 v.2) (visited.countP fun v => refusesWorker v.1 v.2)
      (visited.filterMap fun v => readText v.1 v.2) s stages ∧ Staffed visited s stages) ?_ ?_ run
  · exact ⟨⟨rfl, Nat.zero_le _, rfl, rfl, by simp, by simp, by simp⟩, ⟨by simp, fun _ => ⟨Nat.zero_le _, by simp⟩⟩⟩
  · intro visited pool pool' turn e s stages stages' waits _ invariant step arrived took
    obtain rfl : pool.state = s := Option.some.inj arrived
    obtain ⟨loaded, staffed⟩ := invariant
    obtain ⟨old, new, moved, present, members, counts, event⟩ := took.changes (p := MLStage.creates) rfl
    have shows : lacksWorker pool (turn, e) = old.lacks pool.state e ∧ refusesWorker pool (turn, e) = old.refuses e ∧
        readText pool (turn, e) = old.reads e := by
      rcases event with ⟨rfl, starts⟩ | ⟨c, resumes, fits⟩
      · simp only [lacksWorker, refusesWorker, readText, starts]
        exact ⟨rfl, rfl, rfl⟩
      · simp only [lacksWorker, refusesWorker, readText, resumes, Option.any_some, Option.bind_some]
        exact shows_of_awaits fits
    obtain ⟨lacks, refuses, reads⟩ := shows
    have moved : MLMove classify old pool.state e pool'.state new := moved
    have next := loaded.move moved present members counts
    have many := stages_starting waits
    -- a worker is missed only before the first one is kept
    have missing (missed : old.lacks pool.state e = true) : pool.state.created = 0 ∧ pool.state.ocrWorker = none := by
      have none_ : pool.state.ocrWorker = none := by
        cases old with
        | preparing job => exact Option.isNone_iff_eq_none.mp (Bool.and_eq_true_iff.mp missed).2
        | apart | fetching job | creating job | recognizing job worker => cases missed
      exact ⟨loaded.unmade none_, none_⟩
    have before := loaded.counted
    have after := next.counted
    refine ⟨?_, ⟨fun v member kept => ?_, fun single => ?_⟩⟩
    · have single : [(pool, turn, e)].filterMap (fun v => readText v.1 v.2) = (old.reads e).toList := by
        cases own : old.reads e <;> simp [reads, own]
      rw [List.countP_append, List.countP_append, List.filterMap_append, single, List.countP_singleton,
        List.countP_singleton, lacks, refuses]
      exact next
    · have fewer (worker : pool.state.ocrWorker.isSome = true) :
          pool'.state.ocrWorker.isSome = true ∧
            pool'.state.created + stages'.countP MLStage.creates ≤ pool.state.created + starting pool := by
        have found : old.lacks pool.state e = false := by
          cases missed : old.lacks pool.state e with
          | false => rfl
          | true =>
            rw [(missing missed).2] at worker
            cases worker
        rw [found] at after
        simp only [Bool.false_eq_true, if_false] at after
        rw [many] at before
        exact ⟨moved.kept worker, by omega⟩
      rcases List.mem_append.mp member with earlier | now
      · obtain ⟨worker, bound⟩ := staffed.kept v earlier kept
        obtain ⟨later, less⟩ := fewer worker
        rw [many] at bound
        exact ⟨later, Nat.le_trans less bound⟩
      · obtain rfl := List.mem_singleton.mp now
        exact fewer kept
    · have alone := single (pool, turn, e) (by simp)
      obtain ⟨least, sum⟩ := staffed.single fun v member => single v (List.mem_append_left _ member)
      rw [many] at sum before
      have bound := sum alone
      cases missed : old.lacks pool.state e with
      | false =>
        rw [missed] at after
        simp only [Bool.false_eq_true, if_false] at after
        constructor
        · omega
        · intro _
          omega
      | true =>
        obtain ⟨zero, _⟩ := missing missed
        have same := moved.created missed
        constructor
        · omega
        · intro _
          omega

/-- However many inferences run at once, a Tesseract worker is made, being made or refused for each time that an image
    was ready and no worker was kept. Only the last worker made is kept; all are usable to those that hold them. Once one
    is kept, none is begun, and there is one in all if no two are being made at once. The classifier is trained once. -/
theorem ocr_workers_counted (run : (mlWorkers classify).Run { state := {}, threads := [] } visited pool) :
    pool.state.created + (visited.countP fun v => refusesWorker v.1 v.2) + starting pool =
        (visited.countP fun v => lacksWorker v.1 v.2) ∧
      pool.state.ocrWorker = (if pool.state.created = 0 then none else some (pool.state.created - 1)) ∧
      (∀ thread ∈ pool.threads, ∀ worker image, thread.awaits = some (.recognize worker image) →
        worker < pool.state.created) ∧
      (∀ v ∈ visited, v.1.state.ocrWorker.isSome = true →
        pool.state.created + starting pool ≤ v.1.state.created + starting v.1) ∧
      ((∀ v ∈ visited, starting v.1 ≤ 1) → pool.state.created ≤ 1) ∧
      pool.state.trained ≤ 1 ∧ pool.state.classifier = (if pool.state.trained = 0 then none else some 0) := by
  obtain ⟨stages, waits, loaded, staffed⟩ := loaded_run run
  have many := stages_starting waits
  have counted := loaded.counted
  rw [many] at counted
  refine ⟨counted, loaded.worker, fun thread member worker image next => ?_, fun v member kept => ?_,
    fun single => (staffed.single single).1, loaded.trained, loaded.classifier⟩
  · obtain ⟨stage, within, awaits⟩ := awaited_mem waits member next
    cases stage with
    | apart => cases awaits
    | fetching job | preparing job =>
      obtain ⟨_, same⟩ := awaits
      cases same
    | creating job => cases awaits
    | recognizing job own =>
      obtain ⟨_, same⟩ := awaits
      cases same
      exact loaded.own _ within _ rfl
  · obtain ⟨_, bound⟩ := staffed.kept v member kept
    rwa [many] at bound

/-- Two images are ready before the first worker is there. -/
def overlappingImages : List (Turn × MLTurn) :=
  let turn : MLTurn := { job := { taskType := some "ocr", input := some "http://host/a.png" }, text := .ok " Tötal:\n 12 € " }
  [(.start, turn), (.start, turn), (.resume 0, turn), (.resume 1, turn), (.resume 0, turn), (.resume 1, turn),
    (.resume 0, turn), (.resume 1, turn), (.resume 0, turn)]

theorem ocr_workers_counted_overlapping : ∃ pool,
    (mlWorkers id).exec { state := {}, threads := [] } overlappingImages = some pool ∧
      pool.state.created = 2 ∧ pool.state.ocrWorker = some 1 := by
  have ends : ((mlWorkers id).exec { state := {}, threads := [] } overlappingImages).map
      (fun pool => decide (starting pool = 0)) = some true := by decide +kernel
  have asked : (((mlWorkers id).trace { state := {}, threads := [] } overlappingImages).countP
      fun v => lacksWorker v.1 v.2) = 2 := by decide +kernel
  have refused : (((mlWorkers id).trace { state := {}, threads := [] } overlappingImages).countP
      fun v => refusesWorker v.1 v.2) = 0 := by decide +kernel
  obtain ⟨pool, ran, idle⟩ := Option.map_eq_some_iff.mp ends
  obtain ⟨counted, worker, _⟩ := ocr_workers_counted (Machine.run_of_exec ran)
  have none_ : starting pool = 0 := of_decide_eq_true idle
  have two : pool.state.created = 2 := by omega
  refine ⟨pool, ran, two, ?_⟩
  rw [worker, two]
  rfl

/-- Whatever runs beside it, a prediction is one for a job that passed the checks: the first half of a text's sentences,
    the classifier's word, or the words of a text that was recognized. -/
theorem predictions_sound (run : (mlWorkers classify).Run { state := {}, threads := [] } visited pool) :
    ∀ p ∈ pool.state.predictions, Predicted classify (visited.filterMap fun v => readText v.1 v.2) p.1 p.2 := by
  obtain ⟨stages, _, loaded, _⟩ := loaded_run run
  exact loaded.predictions

theorem predictions_sound_overlapping : ∃ pool,
    (mlWorkers id).exec { state := {}, threads := [] } overlappingImages = some pool ∧
      ∃ job, (job, "Ttal 12") ∈ pool.state.predictions ∧ Predicted id [" Tötal:\n 12 € "] job "Ttal 12" := by
  have ends : ((mlWorkers id).exec { state := {}, threads := [] } overlappingImages).map
      (fun pool => pool.state.predictions) =
        some [({ taskType := some "ocr", input := some "http://host/a.png" }, "Ttal 12")] := by decide +kernel
  have texts : (((mlWorkers id).trace { state := {}, threads := [] } overlappingImages).filterMap
      fun v => readText v.1 v.2) = [" Tötal:\n 12 € "] := by decide +kernel
  obtain ⟨pool, ran, attached⟩ := Option.map_eq_some_iff.mp ends
  refine ⟨pool, ran, { taskType := some "ocr", input := some "http://host/a.png" }, by simp [attached], ?_⟩
  have sound := predictions_sound (Machine.run_of_exec ran) _ (by rw [attached]; exact List.mem_singleton_self _)
  rwa [texts] at sound

end Runs

end OrchestrateModel
