import Orchestrate.Access.Directories
import Orchestrate.Effect.Stages
import Orchestrate.Model.Reports

namespace OrchestrateModel

open Effect Cooperation Program Paths ReportProcessor

/-- The call that an attempt of a report awaits. -/
inductive ReportPoint : Type where
  | preparing
  | opening
  | writing
  | measuring
  | placing
  | copying
  | reading
  | putting
  | looking
  | clearing
  deriving DecidableEq, Repr

inductive ReportStage : Type where
  | fresh
  | at_ (point : ReportPoint) (uuid : Nat) (report : Report)
  | returned (uuid : Nat) (report : Report)
  | failed
  deriving DecidableEq, Repr

/-- The job is complete, its PDF is small enough, and no call fails by itself. -/
structure ReportTurn.Serves (turn : ReportTurn) : Prop where
  title : turn.report.title ≠ ""
  generatedBy : turn.report.generatedBy ≠ ""
  size : turn.size ≤ MAX_FILE_SIZE_MB * 1024 * 1024
  failed : turn.failed = none

instance (turn : ReportTurn) : Decidable turn.Serves :=
  decidable_of_iff (turn.report.title ≠ "" ∧ turn.report.generatedBy ≠ "" ∧
      turn.size ≤ MAX_FILE_SIZE_MB * 1024 * 1024 ∧ turn.failed = none)
    ⟨fun all => ⟨all.1, all.2.1, all.2.2.1, all.2.2.2⟩, fun serves => ⟨serves.1, serves.2, serves.3, serves.4⟩⟩

section Points

variable (env : ReportEnv) (s : ReportFiles) (uuid : Nat) (report : Report)

def ReportPoint.call : ReportPoint → ReportCall
  | preparing => .ensureTempDir
  | opening => .openPdf uuid
  | writing => .finishPdf uuid report
  | measuring => .stat uuid
  | placing => .ensureDir (outputDir env)
  | copying => .copyFile uuid ((outputDir env).join (reportName uuid))
  | reading => .readFile uuid
  | putting => .putObject (reportName uuid)
  | looking => .tempDirExists
  | clearing => .removeTempDir

/-- The call fails without the folder or without the file. -/
def ReportPoint.Lacks : ReportPoint → Prop
  | opening => s.temp = none
  | measuring | copying | reading => s.pdf? uuid = none
  | preparing | writing | placing | putting | looking | clearing => False

def ReportPoint.effect : ReportPoint → ReportFiles
  | preparing => s.ensureTempDir
  | opening => s.openPdf uuid
  | writing => s.finishPdf uuid report
  | placing => if ReportFiles.inside env then s.ensureTempDir else s
  | copying => s.store uuid
  | clearing => s.removeTempDir env
  | measuring | reading | putting | looking => s

def afterUpload : Option ReportPoint := if env.CLEAN_TEMP_FILES = some "true" then some .looking else none

def afterCopy : Option ReportPoint := if env.USE_S3 = some "true" then some .reading else afterUpload env

def ReportPoint.next : ReportPoint → Option ReportPoint
  | preparing => some opening
  | opening => some writing
  | writing => some measuring
  | measuring => some placing
  | placing => some copying
  | copying => afterCopy env
  | reading => some putting
  | putting => afterUpload env
  | looking => if s.temp.isSome then some clearing else none
  | clearing => none

/-- The stage at a point; an attempt that has none left has returned. -/
def ReportStage.onto : Option ReportPoint → ReportStage
  | some point => .at_ point uuid report
  | none => .returned uuid report

end Points

/-- What a segment can do, with the stages before and after it. -/
inductive ReportMove (env : ReportEnv) :
    ReportStage → ReportFiles → ReportTurn → ReportFiles → ReportStage → Prop where
  | refuses {s : ReportFiles} {turn : ReportTurn} (unserved : ¬ turn.Serves) : ReportMove env .fresh s turn s .failed
  | begins {s : ReportFiles} {turn : ReportTurn} :
      ReportMove env .fresh s turn { s with drawn := s.drawn + 1 } (.at_ .preparing s.drawn turn.report)
  | fails {s : ReportFiles} {turn : ReportTurn} {point : ReportPoint} {uuid : Nat} {report : Report}
      (unserved : turn.Serves → point.Lacks s uuid) : ReportMove env (.at_ point uuid report) s turn s .failed
  | passes {s : ReportFiles} {turn : ReportTurn} {point : ReportPoint} {uuid : Nat} {report : Report}
      (held : ¬ point.Lacks s uuid) :
      ReportMove env (.at_ point uuid report) s turn (point.effect env s uuid report) (.onto uuid report (point.next env s))

def reportDiscipline (env : ReportEnv) : Discipline reportSignature Err ReportStage ReportFiles ReportTurn where
  moves segment stage := ReportMove env segment.stage segment.start segment.env segment.state stage
  awaited stage c := ∃ point uuid report, stage = .at_ point uuid report ∧ c = point.call env uuid report
  ended stage outcome :=
    (stage = .failed ∧ outcome ≠ .ok ()) ∨ ∃ uuid report, stage = .returned uuid report ∧ outcome = .ok ()

section Attempt

abbrev ReportSegment := Segment ReportStage ReportFiles ReportTurn

variable {env : ReportEnv} {now : ReportSegment} {uuid : Nat} {report : Report}

/-- The segment may end at the stage. -/
def Reaches (env : ReportEnv) (stage : ReportStage) (now : ReportSegment) : Prop :=
  ReportMove env now.stage now.start now.env now.state stage

/-- A call fails for what it lacks; else it has its effect. -/
theorem serve_point (size : Nat) (s : ReportFiles) (point : ReportPoint) :
    (ReportFiles.serve env size s (point.call env uuid report) = (.error ReportFiles.ENOENT, s) ∧ point.Lacks s uuid) ∨
    ∃ value, ReportFiles.serve env size s (point.call env uuid report) = (.ok value, point.effect env s uuid report) ∧
      ¬ point.Lacks s uuid := by
  cases point with
  | opening =>
    cases found : s.temp with
    | none => exact .inl ⟨by simp [ReportPoint.call, ReportFiles.serve, found], found⟩
    | some files =>
      exact .inr ⟨(), by simp [ReportPoint.call, ReportFiles.serve, found, ReportPoint.effect],
        by simp [ReportPoint.Lacks, found]⟩
  | measuring =>
    cases found : s.pdf? uuid with
    | none => exact .inl ⟨by simp [ReportPoint.call, ReportFiles.serve, found], found⟩
    | some content =>
      exact .inr ⟨size, by simp [ReportPoint.call, ReportFiles.serve, found, ReportPoint.effect],
        by simp [ReportPoint.Lacks, found]⟩
  | copying | reading =>
    cases found : s.pdf? uuid with
    | none => exact .inl ⟨by simp [ReportPoint.call, ReportFiles.serve, found], found⟩
    | some content =>
      exact .inr ⟨(), by simp [ReportPoint.call, ReportFiles.serve, found, ReportPoint.effect],
        by simp [ReportPoint.Lacks, found]⟩
  | looking => exact .inr ⟨s.temp.isSome, rfl, id⟩
  | preparing | writing | placing | putting | clearing => exact .inr ⟨(), rfl, id⟩

variable (env uuid report) in
theorem proceeds_point (point : ReportPoint) (moved : Reaches env (.at_ point uuid report) now)
    {post : (point.call env uuid report).Reply → ReportSegment → Prop}
    (returns : ∀ turn s value, ReportFiles.serve env turn.size s (point.call env uuid report) =
      (.ok value, point.effect env s uuid report) → ¬ point.Lacks s uuid →
      post value ⟨.at_ point uuid report, s, turn, point.effect env s uuid report⟩) :
    (reportLoop env).Proceeds (reportDiscipline env) post (fun _ => Reaches env .failed)
      (invoke (point.call env uuid report)) now := by
  have other : (point.call env uuid report).sync = false := by cases point <;> rfl
  unfold invoke
  refine (congrFun (proceeds_await (C := reportLoop env) (D := reportDiscipline env) other) now).mpr ?_
  refine ⟨_, moved, ⟨point, uuid, report, rfl, rfl⟩, fun turn s => ?_⟩
  show (reportLoop env).Proceeds (reportDiscipline env) post _ (.ofExcept (ReportFiles.answer env turn s _).1)
    ⟨_, s, turn, (ReportFiles.answer env turn s _).2⟩
  cases failed : turn.failed with
  | some error =>
    have answered : ReportFiles.answer env turn s (point.call env uuid report) = (.error error, s) := by
      rw [ReportFiles.answer, other, if_neg Bool.false_ne_true, failed]
    rw [answered]
    refine ReportMove.fails fun serves => ?_
    rw [serves.failed] at failed
    cases failed
  | none =>
    have answered : ReportFiles.answer env turn s (point.call env uuid report) =
        ReportFiles.serve env turn.size s (point.call env uuid report) := by
      rw [ReportFiles.answer, other, if_neg Bool.false_ne_true, failed]
    rw [answered]
    obtain ⟨served, lacks⟩ | ⟨value, served, held⟩ := serve_point turn.size s point
    · rw [served]
      exact ReportMove.fails fun _ => lacks
    · have posted := returns turn s value served held
      rw [served]
      exact posted

theorem proceeds_generatePDF (fresh : now.stage = .fresh) (same : now.state = now.start) :
    (reportLoop env).Proceeds (reportDiscipline env) (fun uuid => Reaches env (.at_ .measuring uuid now.env.report))
      (fun _ => Reaches env .failed) (generatePDF now.env.report) now := by
  have begins : Reaches env (.at_ .preparing now.start.drawn now.env.report)
      { now with state := { now.start with drawn := now.start.drawn + 1 } } := by
    show ReportMove env now.stage now.start now.env _ _
    rw [fresh]
    exact .begins
  unfold generatePDF
  simp only [bind_eq, proceeds_bind]
  show (reportLoop env).Proceeds (reportDiscipline env) _ _ (invoke .ensureTempDir) _
  rw [same]
  refine proceeds_point env now.start.drawn now.env.report .preparing begins fun turn s value _ prepared => ?_
  refine proceeds_point env now.start.drawn now.env.report .opening ?_ fun turn s value _ opened => ?_
  · exact ReportMove.passes prepared
  refine proceeds_point env now.start.drawn now.env.report .writing ?_ fun turn s value _ written => ?_
  · exact ReportMove.passes opened
  exact ReportMove.passes written

/-- The temp folder is not the report directory, so the PDF is copied. -/
def Apart (env : ReportEnv) : Prop := (tempDir env).location env.cwd ≠ (outputDir env).location env.cwd

instance (env : ReportEnv) : Decidable (Apart env) := inferInstanceAs (Decidable (_ ≠ _))

theorem pathSteps_reportName (uuid : Nat) : ∃ name, pathSteps (reportName uuid) = [.down name] := by
  have plain : '/' ∉ "pdf".toList := by decide
  have names := namesEntry_uuid uuid plain
  have text : String.ofList ((uuidText uuid ++ ".").toList ++ "pdf".toList) = reportName uuid := by
    apply String.toList_inj.mp
    simp [reportName]
  rw [text] at names
  exact ⟨⟨reportName uuid, names⟩, pathSteps_text ⟨reportName uuid, names⟩⟩

theorem Apart.paths (apart : Apart env) (uuid : Nat) :
    (tempDir env).join (reportName uuid) ≠ (outputDir env).join (reportName uuid) := by
  intro same
  obtain ⟨name, steps⟩ := pathSteps_reportName uuid
  have places := congrArg (Path.location env.cwd) same
  simp only [Path.join, steps, List.foldl_cons, List.foldl_nil, Path.location_push_down] at places
  exact apart (List.append_cancel_right places)

theorem proceeds_uploadFileLocal (apart : Apart env) (placing : Reaches env (.at_ .placing uuid report) now) :
    (reportLoop env).Proceeds (reportDiscipline env) (fun _ => Reaches env (.onto uuid report (afterCopy env)))
      (fun _ => Reaches env .failed) (uploadFileLocal env uuid) now := by
  unfold uploadFileLocal
  simp only [bind_eq, proceeds_bind, if_pos (apart.paths uuid)]
  refine proceeds_point env uuid report .placing placing fun turn s value _ placed => ?_
  refine proceeds_point env uuid report .copying ?_ fun turn s value _ copied => ?_
  · exact ReportMove.passes placed
  exact ReportMove.passes copied

theorem proceeds_uploadFileS3 (reading : Reaches env (.at_ .reading uuid report) now) :
    (reportLoop env).Proceeds (reportDiscipline env) (fun _ => Reaches env (.onto uuid report (afterUpload env)))
      (fun _ => Reaches env .failed) (uploadFileS3 uuid) now := by
  unfold uploadFileS3
  simp only [bind_eq, proceeds_bind]
  refine proceeds_point env uuid report .reading reading fun turn s value _ read => ?_
  refine proceeds_point env uuid report .putting ?_ fun turn s value _ put => ?_
  · exact ReportMove.passes read
  exact ReportMove.passes put

theorem proceeds_cleanUp (looking : Reaches env (.at_ .looking uuid report) now) :
    (reportLoop env).Proceeds (reportDiscipline env) (fun _ => Reaches env (.returned uuid report))
      (fun _ => Reaches env .failed) cleanUp now := by
  unfold cleanUp
  simp only [bind_eq, proceeds_bind]
  refine proceeds_point env uuid report .looking looking fun turn s value served looked => ?_
  have passed : ReportMove env (.at_ .looking uuid report) s turn s
      (.onto uuid report (ReportPoint.next env s .looking)) := .passes looked
  have found : s.temp.isSome = value := Except.ok.inj (congrArg Prod.fst served)
  rw [ReportPoint.next, found] at passed
  cases value with
  | false => exact passed
  | true =>
    refine proceeds_point env uuid report .clearing ?_ fun turn s value _ cleared => ?_
    · exact passed
    · exact ReportMove.passes cleared

/-- An attempt of a report job keeps to the stages. -/
theorem proceeds_report_process (apart : Apart env) (turn : ReportTurn) (s : ReportFiles) :
    (reportLoop env).Completes (reportDiscipline env) (process env turn.report) ⟨.fresh, s, turn, s⟩ := by
  have cleans (now : ReportSegment) (uuid : Nat) (report : Report)
      (reached : Reaches env (.onto uuid report (afterUpload env)) now) :
      (reportLoop env).Proceeds (reportDiscipline env) (fun _ now => ∃ uuid report, Reaches env (.returned uuid report) now)
        (fun _ => Reaches env .failed) (if env.CLEAN_TEMP_FILES = some "true" then cleanUp else .done ()) now := by
    rw [afterUpload] at reached
    split at reached
    · rename_i clean
      rw [if_pos clean]
      exact (proceeds_cleanUp reached).mono (fun _ _ returned => ⟨uuid, report, returned⟩) fun _ _ => id
    · rename_i keep
      rw [if_neg keep]
      exact ⟨uuid, report, reached⟩
  have proceeds : (reportLoop env).Proceeds (reportDiscipline env)
      (fun _ now => ∃ uuid report, Reaches env (.returned uuid report) now) (fun _ => Reaches env .failed)
      (process env turn.report) ⟨.fresh, s, turn, s⟩ := by
    unfold process
    split
    · rename_i untitled
      exact ReportMove.refuses fun serves => serves.title untitled
    · split
      · rename_i unsigned
        exact ReportMove.refuses fun serves => serves.generatedBy unsigned
      · simp only [bind_eq, proceeds_bind]
        refine (proceeds_generatePDF rfl rfl).mono (fun uuid now measuring => ?_) fun _ _ => id
        refine proceeds_point env uuid turn.report .measuring measuring fun later s size served held => ?_
        have measured : size = later.size := by
          simp only [ReportPoint.call, ReportFiles.serve] at served
          split at served
          · exact (Except.ok.inj (congrArg Prod.fst served)).symm
          · cases congrArg Prod.fst served
        split
        · rename_i large
          exact ReportMove.fails fun serves => absurd serves.size (Nat.not_le.mpr (measured ▸ large))
        · have placing : Reaches env (.at_ .placing uuid turn.report) ⟨.at_ .measuring uuid turn.report, s, later, s⟩ :=
            ReportMove.passes held
          simp only [proceeds_bind]
          refine (proceeds_uploadFileLocal apart placing).mono (fun _ now copied => ?_) fun _ _ => id
          rw [afterCopy] at copied
          split at copied
          · rename_i stores
            simp only [if_pos stores, proceeds_bind]
            exact (proceeds_uploadFileS3 copied).mono (fun _ now put => cleans now uuid turn.report put) fun _ _ => id
          · rename_i local_
            simp only [if_neg local_]
            exact cleans now uuid turn.report copied
  refine proceeds.mono (fun _ now returned => ?_) fun error now failed => ⟨.failed, failed, .inl ⟨rfl, by simp⟩⟩
  obtain ⟨uuid, report, returned⟩ := returned
  exact ⟨.returned uuid report, returned, .inr ⟨uuid, report, rfl, rfl⟩⟩

end Attempt

section Files

variable {env : ReportEnv} {s s' : ReportFiles} {turn : ReportTurn} {uuid u : Nat} {report : Report}
  {content : Option Report}

/-- The temp folder holds the file with this content. -/
def ReportFiles.Has (s : ReportFiles) (uuid : Nat) (content : Option Report) : Prop := (uuid, content) ∈ s.temp.getD []

theorem ReportFiles.has_of_pdf (found : s.pdf? uuid = some content) : s.Has uuid content := by
  cases folder : s.temp with
  | none => simp [ReportFiles.pdf?, folder] at found
  | some files =>
    rw [ReportFiles.pdf?, folder, Option.bind_some] at found
    rw [ReportFiles.Has, folder]
    obtain ⟨before, after, split, _⟩ := List.lookup_eq_some_iff.mp found
    simp [split]

theorem ReportFiles.pdf_none_iff : s.pdf? uuid = none ↔ ∀ content, ¬ s.Has uuid content := by
  cases folder : s.temp with
  | none => simp [ReportFiles.pdf?, ReportFiles.Has, folder]
  | some files =>
    rw [ReportFiles.pdf?, folder, Option.bind_some, List.lookup_eq_none_iff]
    simp only [ReportFiles.Has, folder, Option.getD_some, bne_iff_ne, Prod.forall]
    constructor
    · intro other content member
      exact other uuid content member rfl
    · intro none_ u content member same
      exact none_ content (same ▸ member)

@[simp] theorem ReportFiles.has_ensureTempDir : s.ensureTempDir.Has u content ↔ s.Has u content := by
  simp [ReportFiles.ensureTempDir, ReportFiles.Has]

@[simp] theorem ReportFiles.has_openPdf :
    (s.openPdf uuid).Has u content ↔ s.Has u content ∨ (s.temp.isSome ∧ u = uuid ∧ content = none) := by
  cases folder : s.temp with
  | none => simp [ReportFiles.openPdf, ReportFiles.Has, folder]
  | some files => simp [ReportFiles.openPdf, ReportFiles.Has, folder]

@[simp] theorem ReportFiles.has_finishPdf :
    (s.finishPdf uuid report).Has u content ↔
      (u ≠ uuid ∧ s.Has u content) ∨ (u = uuid ∧ content = some report ∧ ∃ old, s.Has uuid old) := by
  cases folder : s.temp with
  | none => simp [ReportFiles.finishPdf, ReportFiles.Has, folder]
  | some files =>
    simp only [ReportFiles.finishPdf, ReportFiles.Has, folder, Option.map_some, Option.getD_some, List.mem_map]
    constructor
    · intro written
      obtain ⟨file, member, same⟩ := written
      by_cases mine : file.1 = uuid
      · rw [if_pos mine] at same
        obtain ⟨rfl, rfl⟩ := Prod.mk.inj same
        exact .inr ⟨rfl, rfl, file.2, by rw [← mine]; exact member⟩
      · rw [if_neg mine] at same
        subst same
        exact .inl ⟨mine, member⟩
    · rintro (⟨other, member⟩ | ⟨rfl, rfl, old, member⟩)
      · exact ⟨_, member, by rw [if_neg other]⟩
      · exact ⟨_, member, by rw [if_pos rfl]⟩

@[simp] theorem ReportFiles.has_store : (s.store uuid).Has u content ↔ s.Has u content := .rfl

@[simp] theorem ReportFiles.has_removeTempDir : ¬ (s.removeTempDir env).Has u content := by
  simp [ReportFiles.removeTempDir, ReportFiles.Has]

end Files

def ReportStage.file? : ReportStage → Option (Nat × Report)
  | at_ _ uuid report | returned uuid report => some (uuid, report)
  | fresh | failed => none

@[simp] theorem ReportStage.file_onto (uuid : Nat) (report : Report) (next : Option ReportPoint) :
    (ReportStage.onto uuid report next).file? = some (uuid, report) := by
  cases next <;> rfl

/-- The PDF is written to its end. -/
def ReportPoint.written : ReportPoint → Bool
  | preparing | opening | writing => false
  | measuring | placing | copying | reading | putting | looking | clearing => true

/-- The PDF is in the report directory. -/
def ReportPoint.copied : ReportPoint → Bool
  | reading | putting | looking | clearing => true
  | preparing | opening | writing | measuring | placing | copying => false

/-- The PDF is needed: from when it is opened to the last time it is read. -/
def ReportPoint.uses : ReportPoint → Bool
  | writing | measuring | placing | copying | reading => true
  | preparing | opening | putting | looking | clearing => false

section Runs

abbrev ReportPool := Pool reportSignature Err ReportFiles

variable {env : ReportEnv} {first s s' : ReportFiles} {visited : List (ReportPool × Turn × ReportTurn)}
  {stages : Nat → ReportStage} {i : Nat} {new : ReportStage} {turn : ReportTurn} {pool : ReportPool} {t : Turn}

/-- The turn began an attempt, which drew the uuid of its PDF. -/
def Drew (v : ReportPool × Turn × ReportTurn) (uuid : Nat) (report : Report) : Prop :=
  v.2.1 = .start ∧ v.1.state.drawn = uuid ∧ v.2.2.report = report

/-- Each attempt has a uuid of its own, which it drew when it began. -/
structure ReportsNamed (first : ReportFiles) (visited : List (ReportPool × Turn × ReportTurn)) (s : ReportFiles)
    (stages : Nat → ReportStage) : Prop where
  grows : first.drawn ≤ s.drawn
  begun : ∀ v ∈ visited, v.2.1 = .start →
    stages v.1.threads.length = .failed ∨ (stages v.1.threads.length).file? = some (v.1.state.drawn, v.2.2.report)
  own : ∀ i uuid report, (stages i).file? = some (uuid, report) →
    first.drawn ≤ uuid ∧ uuid < s.drawn ∧ ∃ v ∈ visited, Drew v uuid report
  distinct : ∀ i j uuid report other, (stages i).file? = some (uuid, report) → (stages j).file? = some (uuid, other) →
    i = j

/-- An attempt draws its uuid when it begins, and has it until it fails. -/
theorem ReportMove.named (moved : ReportMove env (stages i) s turn s' new) :
    (stages i ≠ .fresh ∧ s'.drawn = s.drawn ∧ (new = .failed ∨ new.file? = (stages i).file?)) ∨
    (stages i = .fresh ∧ s'.drawn = s.drawn ∧ new = .failed) ∨
    (stages i = .fresh ∧ s'.drawn = s.drawn + 1 ∧ new.file? = some (s.drawn, turn.report)) := by
  generalize stages i = old at moved
  cases moved with
  | refuses missing => exact .inr (.inl ⟨rfl, rfl, rfl⟩)
  | begins => exact .inr (.inr ⟨rfl, rfl, rfl⟩)
  | fails unserved => exact .inl ⟨by simp, rfl, .inl rfl⟩
  | @passes _ _ point uuid report held =>
    refine .inl ⟨by simp, ?_, .inr (ReportStage.file_onto ..)⟩
    cases point with
    | placing =>
      show (if _ then s.ensureTempDir else s).drawn = _
      split <;> rfl
    | _ => rfl

/-- The thread that begins is fresh, and only that one. -/
theorem acts_fresh (acts : Acts (reportDiscipline env) .fresh pool stages t i) :
    (t = .start ↔ stages i = .fresh) ∧ (t = .start → pool.threads.length = i) := by
  cases acts with
  | starts fresh rest => exact ⟨⟨fun _ => rest, fun _ => rfl⟩, fun _ => fresh⟩
  | resumes waiting fits =>
    obtain ⟨point, uuid, report, stage, _⟩ := fits
    rw [stage]
    simp

theorem ReportMove.not_failed (moved : ReportMove env (stages i) s turn s' new) : stages i ≠ .failed := by
  intro failed
  rw [failed] at moved
  cases moved

theorem ReportsNamed.move (named : ReportsNamed first visited pool.state stages)
    (acts : Acts (reportDiscipline env) .fresh pool stages t i)
    (moved : ReportMove env (stages i) pool.state turn s' new) :
    ReportsNamed first (visited ++ [(pool, t, turn)]) s' (Function.update stages i new) := by
  have here : Function.update stages i new i = new := Function.update_self ..
  have there {j : Nat} (other : j ≠ i) : Function.update stages i new j = stages j := Function.update_of_ne other ..
  obtain ⟨starts, length⟩ := acts_fresh acts
  have cases_ := moved.named
  have grows : pool.state.drawn ≤ s'.drawn := by omega
  have more {v : ReportPool × Turn × ReportTurn} (member : v ∈ visited) : v ∈ visited ++ [(pool, t, turn)] :=
    List.mem_append_left _ member
  have mine {uuid : Nat} {report : Report} (has : new.file? = some (uuid, report)) :
      (stages i).file? = some (uuid, report) ∨
      (stages i = .fresh ∧ s'.drawn = pool.state.drawn + 1 ∧ uuid = pool.state.drawn ∧ report = turn.report) := by
    rcases cases_ with ⟨_, _, failed | same⟩ | ⟨_, _, failed⟩ | ⟨fresh, drew, file⟩
    · rw [failed] at has
      cases has
    · exact .inl (same ▸ has)
    · rw [failed] at has
      cases has
    · rw [has] at file
      obtain ⟨rfl, rfl⟩ := Prod.mk.inj (Option.some.inj file)
      exact .inr ⟨fresh, drew, rfl, rfl⟩
  refine ⟨Nat.le_trans named.grows grows, fun v member began => ?_, fun j uuid report has => ?_,
    fun j k uuid report other has has' => ?_⟩
  · rcases List.mem_append.mp member with old | now
    · have was := named.begun v old began
      by_cases same : v.1.threads.length = i
      · rw [same] at was ⊢
        rw [here]
        rcases was with failed | has
        · exact absurd failed moved.not_failed
        · rcases cases_ with ⟨_, _, failed | kept⟩ | ⟨fresh, _⟩ | ⟨fresh, _⟩
          · exact .inl failed
          · exact .inr (kept ▸ has)
          · rw [fresh] at has
            cases has
          · rw [fresh] at has
            cases has
      · rw [there same]
        exact was
    · obtain rfl := List.mem_singleton.mp now
      have at_i : pool.threads.length = i := length began
      show Function.update stages i new pool.threads.length = _ ∨ _
      rw [at_i, here]
      rcases cases_ with ⟨old, _⟩ | ⟨_, _, failed⟩ | ⟨_, _, file⟩
      · exact absurd (starts.mp began) old
      · exact .inl failed
      · exact .inr file
  · by_cases at_i : j = i
    · rw [at_i, here] at has
      rcases mine has with old | ⟨fresh, drew, rfl, rfl⟩
      · obtain ⟨from_, below, v, member, drew⟩ := named.own i uuid report old
        exact ⟨from_, Nat.lt_of_lt_of_le below grows, v, more member, drew⟩
      · refine ⟨named.grows, by omega, (pool, t, turn), List.mem_append_right _ (List.mem_singleton_self _), ?_⟩
        exact ⟨starts.mpr fresh, rfl, rfl⟩
    · rw [there at_i] at has
      obtain ⟨from_, below, v, member, drew⟩ := named.own j uuid report has
      exact ⟨from_, Nat.lt_of_lt_of_le below grows, v, more member, drew⟩
  · -- a uuid that is drawn now is none of the others'
    have strange {j : Nat} {report other : Report} (mine_ : new.file? = some (uuid, report)) (apart : j ≠ i)
        (has : (stages j).file? = some (uuid, other)) : False := by
      rcases mine mine_ with old | ⟨_, _, rfl, _⟩
      · exact apart (named.distinct j i uuid other report has old)
      · exact Nat.lt_irrefl _ (named.own j _ other has).2.1
    by_cases at_j : j = i
    · by_cases at_k : k = i
      · rw [at_j, at_k]
      · rw [at_j, here] at has
        rw [there at_k] at has'
        exact (strange has at_k has').elim
    · rw [there at_j] at has
      by_cases at_k : k = i
      · rw [at_k, here] at has'
        exact (strange has' at_j has).elim
      · rw [there at_k] at has'
        exact named.distinct j k uuid report other has has'

/-- A PDF that is written is complete, one in the report directory too, and an attempt that is done has its own there. -/
structure Filed (env : ReportEnv) (first : ReportFiles) (visited : List (ReportPool × Turn × ReportTurn)) (s : ReportFiles)
    (stages : Nat → ReportStage) : Prop where
  drawn : ∀ uuid content, s.Has uuid content → uuid < s.drawn
  complete : ∀ i point uuid report content, stages i = .at_ point uuid report → point.written = true →
    s.Has uuid content → content = some report
  stored : ∀ file ∈ s.stored, file ∈ first.stored ∨
    ∃ v ∈ visited, v.2.1 = .start ∧ file = (v.1.state.drawn, some v.2.2.report)
  kept : ReportFiles.inside env = false → ∀ i uuid report,
    stages i = .returned uuid report ∨ (∃ point, stages i = .at_ point uuid report ∧ point.copied = true) →
    (uuid, some report) ∈ s.stored

/-- A file that is there was there, or it is the attempt's own. -/
theorem ReportPoint.has_effect {point : ReportPoint} {uuid u : Nat} {report : Report} {content : Option Report}
    (has : (point.effect env s uuid report).Has u content) :
    (s.Has u content ∧ (u = uuid → point ≠ .writing)) ∨
      (u = uuid ∧ (point = .opening ∨ (point = .writing ∧ content = some report))) := by
  cases point with
  | opening =>
    rcases ReportFiles.has_openPdf.mp has with old | ⟨_, rfl, _⟩
    · exact .inl ⟨old, by simp⟩
    · exact .inr ⟨rfl, .inl rfl⟩
  | writing =>
    rcases ReportFiles.has_finishPdf.mp has with ⟨other, old⟩ | ⟨rfl, written, _⟩
    · exact .inl ⟨old, fun same => absurd same other⟩
    · exact .inr ⟨rfl, .inr ⟨rfl, written⟩⟩
  | preparing => exact .inl ⟨ReportFiles.has_ensureTempDir.mp has, by simp⟩
  | placing =>
    simp only [ReportPoint.effect] at has
    split at has
    · exact .inl ⟨ReportFiles.has_ensureTempDir.mp has, by simp⟩
    · exact .inl ⟨has, by simp⟩
  | clearing => exact absurd has ReportFiles.has_removeTempDir
  | copying => exact .inl ⟨has, by simp⟩
  | measuring | reading | putting | looking => exact .inl ⟨has, by simp⟩

theorem ReportPoint.stored_effect {point : ReportPoint} {uuid : Nat} {report : Report} {file : Nat × Option Report}
    (stored : file ∈ (point.effect env s uuid report).stored) :
    file ∈ s.stored ∨ (point = .copying ∧ file.1 = uuid ∧ s.Has uuid file.2) := by
  cases point with
  | copying =>
    rcases List.mem_append.mp stored with old | copied
    · exact .inl old
    · obtain ⟨content, found, rfl⟩ := Option.map_eq_some_iff.mp (Option.mem_toList.mp copied)
      exact .inr ⟨rfl, rfl, ReportFiles.has_of_pdf found⟩
  | clearing =>
    simp only [ReportPoint.effect, ReportFiles.removeTempDir] at stored
    split at stored
    · cases stored
    · exact .inl stored
  | placing =>
    simp only [ReportPoint.effect] at stored
    split at stored
    · exact .inl stored
    · exact .inl stored
  | _ => exact .inl stored

theorem ReportPoint.kept_effect {point : ReportPoint} {uuid : Nat} {report : Report} {file : Nat × Option Report}
    (apart : ReportFiles.inside env = false) (stored : file ∈ s.stored) : file ∈ (point.effect env s uuid report).stored := by
  cases point with
  | copying => exact List.mem_append_left _ stored
  | clearing => simpa [ReportPoint.effect, ReportFiles.removeTempDir, apart] using stored
  | placing => simpa [ReportPoint.effect, apart] using stored
  | _ => exact stored

theorem ReportPoint.written_of_next {point p : ReportPoint} (next : point.next env s = some p) (written : p.written = true) :
    point = .writing ∨ point.written = true := by
  cases point with
  | preparing | opening =>
    obtain rfl := Option.some.inj next
    cases written
  | writing => exact .inl rfl
  | _ => exact .inr rfl

theorem ReportPoint.copied_of_next {point : ReportPoint}
    (next : point.next env s = none ∨ ∃ p : ReportPoint, point.next env s = some p ∧ p.copied = true) :
    point = .copying ∨ point.copied = true := by
  cases point with
  | preparing | opening | writing | measuring | placing =>
    rcases next with none_ | ⟨p, same, copied⟩
    · cases none_
    · obtain rfl := Option.some.inj same
      cases copied
  | copying => exact .inl rfl
  | _ => exact .inr rfl

theorem ReportStage.onto_eq_at {uuid u : Nat} {report r : Report} {next : Option ReportPoint} {p : ReportPoint}
    (same : ReportStage.onto uuid report next = .at_ p u r) : next = some p ∧ uuid = u ∧ report = r := by
  cases next with
  | none => cases same
  | some point =>
    cases same
    exact ⟨rfl, rfl, rfl⟩

theorem ReportStage.onto_eq_returned {uuid u : Nat} {report r : Report} {next : Option ReportPoint}
    (same : ReportStage.onto uuid report next = .returned u r) : next = none ∧ uuid = u ∧ report = r := by
  cases next with
  | some point => cases same
  | none =>
    cases same
    exact ⟨rfl, rfl, rfl⟩

/-- The file of a copy is the attempt's PDF. -/
theorem Filed.copies (filed : Filed env first visited s stages) {uuid : Nat} {report : Report} {content : Option Report}
    (stage : stages i = .at_ .copying uuid report) (has : s.Has uuid content) : content = some report :=
  filed.complete i .copying uuid report content stage rfl has

theorem ReportsNamed.passes {point : ReportPoint} {uuid : Nat} {report : Report} (named : ReportsNamed first visited s stages)
    (filed : Filed env first visited s stages) (stage : stages i = .at_ point uuid report) (held : ¬ point.Lacks s uuid)
    (drawn : (point.effect env s uuid report).drawn = s.drawn) :
    Filed env first visited (point.effect env s uuid report)
      (Function.update stages i (.onto uuid report (point.next env s))) := by
  have here : Function.update stages i (.onto uuid report (point.next env s)) i = .onto uuid report (point.next env s) :=
    Function.update_self ..
  have there {j : Nat} (other : j ≠ i) : Function.update stages i (.onto uuid report (point.next env s)) j = stages j :=
    Function.update_of_ne other ..
  have mine : (stages i).file? = some (uuid, report) := by rw [stage]; rfl
  refine ⟨fun u content has => ?_, fun j p u r content at_ written has => ?_, fun file member => ?_,
    fun apart j u r done => ?_⟩
  · rw [drawn]
    rcases ReportPoint.has_effect has with ⟨old, _⟩ | ⟨rfl, _⟩
    · exact filed.drawn u content old
    · exact (named.own i u report mine).2.1
  · by_cases at_i : j = i
    · rw [at_i, here] at at_
      obtain ⟨next, rfl, rfl⟩ := ReportStage.onto_eq_at at_
      rcases ReportPoint.has_effect has with ⟨old, unwritten⟩ | ⟨_, rfl | ⟨_, same⟩⟩
      · rcases ReportPoint.written_of_next next written with now | before
        · exact absurd now (unwritten rfl)
        · exact filed.complete i point uuid report content stage before old
      · obtain rfl := Option.some.inj next
        cases written
      · exact same
    · rw [there at_i] at at_
      rcases ReportPoint.has_effect has with ⟨old, _⟩ | ⟨rfl, _⟩
      · exact filed.complete j p u r content at_ written old
      · exact absurd (named.distinct j i u r report (by rw [at_]; rfl) mine) at_i
  · rcases ReportPoint.stored_effect member with old | ⟨rfl, rfl, has⟩
    · exact filed.stored file old
    · obtain ⟨_, _, v, began, start, drew, given⟩ := named.own i file.1 report mine
      have whole := filed.copies stage has
      exact .inr ⟨v, began, start, Prod.ext drew.symm (by rw [given]; exact whole)⟩
  · by_cases at_i : j = i
    · rw [at_i, here] at done
      have ends : uuid = u ∧ report = r ∧
          (point.next env s = none ∨ ∃ p : ReportPoint, point.next env s = some p ∧ p.copied = true) := by
        rcases done with returned | ⟨p, at_, copied⟩
        · obtain ⟨next, same, given⟩ := ReportStage.onto_eq_returned returned
          exact ⟨same, given, .inl next⟩
        · obtain ⟨next, same, given⟩ := ReportStage.onto_eq_at at_
          exact ⟨same, given, .inr ⟨p, next, copied⟩⟩
      obtain ⟨rfl, rfl, next⟩ := ends
      rcases ReportPoint.copied_of_next next with rfl | before
      · -- the copy has just been made
        obtain ⟨content, found⟩ := Option.ne_none_iff_exists'.mp held
        have whole := filed.copies stage (ReportFiles.has_of_pdf found)
        subst whole
        show _ ∈ s.stored ++ _
        rw [found]
        exact List.mem_append_right _ (List.mem_singleton_self _)
      · exact ReportPoint.kept_effect apart (filed.kept apart i uuid report (.inr ⟨point, stage, before⟩))
    · rw [there at_i] at done
      exact ReportPoint.kept_effect apart (filed.kept apart j u r done)

/-- A step that changes no file, and after which the attempt has none, or none that is written. -/
theorem Filed.idles (filed : Filed env first visited s stages) (temp : s'.temp = s.temp) (stored : s'.stored = s.stored)
    (grows : s.drawn ≤ s'.drawn) (new_ : new = .failed ∨ ∃ uuid report, new = .at_ .preparing uuid report) :
    Filed env first visited s' (Function.update stages i new) := by
  have same (uuid : Nat) (content : Option Report) : s'.Has uuid content ↔ s.Has uuid content := by
    rw [ReportFiles.Has, ReportFiles.Has, temp]
  refine ⟨fun u content has => ?_, fun j p u r content at_ written has => ?_, fun file member => ?_,
    fun apart j u r done => ?_⟩
  · exact Nat.lt_of_lt_of_le (filed.drawn u content ((same u content).mp has)) grows
  · by_cases at_i : j = i
    · rw [at_i, Function.update_self] at at_
      rcases new_ with rfl | ⟨uuid, report, rfl⟩
      · cases at_
      · cases at_
        cases written
    · rw [Function.update_of_ne at_i] at at_
      exact filed.complete j p u r content at_ written ((same u content).mp has)
  · rw [stored] at member
    exact filed.stored file member
  · rw [stored]
    by_cases at_i : j = i
    · rw [at_i, Function.update_self] at done
      rcases new_ with rfl | ⟨uuid, report, rfl⟩
      · rcases done with returned | ⟨p, at_, _⟩
        · cases returned
        · cases at_
      · rcases done with returned | ⟨p, at_, copied⟩
        · cases returned
        · cases at_
          cases copied
    · rw [Function.update_of_ne at_i] at done
      exact filed.kept apart j u r done

theorem Filed.more (filed : Filed env first visited s stages) (v : ReportPool × Turn × ReportTurn) :
    Filed env first (visited ++ [v]) s stages := by
  refine ⟨filed.drawn, filed.complete, fun file member => ?_, filed.kept⟩
  rcases filed.stored file member with old | ⟨w, began, same⟩
  · exact .inl old
  · exact .inr ⟨w, List.mem_append_left _ began, same⟩

theorem Filed.move (named : ReportsNamed first visited s stages) (filed : Filed env first visited s stages)
    (moved : ReportMove env (stages i) s turn s' new) : Filed env first visited s' (Function.update stages i new) := by
  have drawn := moved.named
  generalize stage : stages i = old at moved drawn
  cases moved with
  | refuses missing => exact filed.idles rfl rfl (Nat.le_refl _) (.inl rfl)
  | begins => exact filed.idles rfl rfl (Nat.le_succ _) (.inr ⟨_, _, rfl⟩)
  | fails unserved => exact filed.idles rfl rfl (Nat.le_refl _) (.inl rfl)
  | passes held =>
    rcases drawn with ⟨_, same, _⟩ | ⟨fresh, _⟩ | ⟨fresh, _⟩
    · exact named.passes filed stage held same
    · cases fresh
    · cases fresh

/-- The attempt has failed, or it will: it needs its PDF, which is gone. -/
def ReportStage.Spoilt (s : ReportFiles) : ReportStage → Prop
  | at_ point uuid _ => point.uses = true ∧ s.pdf? uuid = none
  | failed => True
  | fresh | returned _ _ => False

def ReportStage.uses : ReportStage → Bool
  | at_ point _ _ => point.uses
  | fresh | returned _ _ | failed => false

def Marred (s : ReportFiles) (stages : Nat → ReportStage) : Prop := ∃ i, (stages i).Spoilt s

/-- The folder is removed while an attempt needs its PDF, or a PDF is opened without the folder. -/
def Harms (s : ReportFiles) (stages : Nat → ReportStage) (i : Nat) : Prop :=
  ((∃ uuid report, stages i = .at_ .clearing uuid report) ∧ ∃ j, (stages j).uses = true) ∨
    (∃ uuid report, stages i = .at_ .opening uuid report) ∧ s.temp = none

theorem ReportPoint.pdf_effect {point : ReportPoint} {uuid u : Nat} {report : Report} (stays : point ≠ .clearing)
    (held : ¬ point.Lacks s uuid) :
    (point.effect env s uuid report).pdf? u = none ↔ s.pdf? u = none ∧ (point = .opening → u ≠ uuid) := by
  rw [ReportFiles.pdf_none_iff, ReportFiles.pdf_none_iff]
  cases point with
  | clearing => exact absurd rfl stays
  | opening =>
    have folder : s.temp.isSome := Option.isSome_iff_ne_none.mpr held
    simp only [ReportPoint.effect, ReportFiles.has_openPdf, folder, true_and, not_or, not_and, forall_const]
    refine ⟨fun none_ => ⟨fun content => (none_ content).1, fun same => (none_ none).2 same rfl⟩, fun both content => ?_⟩
    exact ⟨both.1 content, fun same => absurd same both.2⟩
  | writing =>
    simp only [ReportPoint.effect, ReportFiles.has_finishPdf, reduceCtorEq, false_imp_iff, and_true, not_or, not_and]
    refine ⟨fun none_ content has => ?_, fun none_ content => ⟨fun _ => none_ content, fun same _ had => ?_⟩⟩
    · by_cases same : u = uuid
      · exact (none_ (some report)).2 same rfl ⟨content, same ▸ has⟩
      · exact (none_ content).1 same has
    · obtain ⟨old, has⟩ := had
      exact none_ old (same ▸ has)
  | preparing => simp [ReportPoint.effect]
  | placing =>
    simp only [ReportPoint.effect]
    split <;> simp
  | _ => simp [ReportPoint.effect]

/-- What a step changes for the other attempts decides with the attempt's own stage. -/
theorem marred_update (others : ∀ j, j ≠ i → ((stages j).Spoilt s' ↔ (stages j).Spoilt s))
    (own : new.Spoilt s' ↔ (stages i).Spoilt s) : Marred s' (Function.update stages i new) ↔ Marred s stages := by
  refine exists_congr fun j => ?_
  by_cases at_i : j = i
  · rw [at_i, Function.update_self]
    exact own
  · rw [Function.update_of_ne at_i]
    exact others j at_i

theorem not_harms {point : ReportPoint} {uuid : Nat} {report : Report} (stage : stages i = .at_ point uuid report)
    (stays : point ≠ .clearing) (held : point = .opening → s.temp ≠ none) : ¬ Harms s stages i := by
  rintro (⟨⟨u, r, clears⟩, _⟩ | ⟨⟨u, r, opens⟩, none_⟩)
  · rw [stage] at clears
    cases clears
    exact stays rfl
  · rw [stage] at opens
    cases opens
    exact held rfl none_

/-- The attempt's own stage is spoilt after a step if it was before. -/
theorem spoilt_onto {point : ReportPoint} {uuid : Nat} {report : Report} (stays : point ≠ .clearing)
    (held : ¬ point.Lacks s uuid) :
    (ReportStage.onto uuid report (point.next env s)).Spoilt (point.effect env s uuid report) ↔
      (ReportStage.at_ point uuid report).Spoilt s := by
  have gone : (point.effect env s uuid report).pdf? uuid = none ↔ s.pdf? uuid = none ∧ (point = .opening → uuid ≠ uuid) :=
    ReportPoint.pdf_effect stays held
  cases point with
  | clearing => exact absurd rfl stays
  | preparing => simp [ReportPoint.next, ReportStage.onto, ReportStage.Spoilt, ReportPoint.uses]
  | opening =>
    simp only [ReportPoint.next, ReportStage.onto, ReportStage.Spoilt, ReportPoint.uses, gone]
    simp
  | writing | placing =>
    simp only [ReportPoint.next, ReportStage.onto, ReportStage.Spoilt, ReportPoint.uses, gone]
    simp
  | measuring =>
    simp only [ReportPoint.next, ReportStage.onto, ReportStage.Spoilt, ReportPoint.uses, gone]
    simp
  | copying =>
    have has : ¬ s.pdf? uuid = none := held
    simp only [ReportPoint.next, afterCopy, afterUpload]
    split
    · simp [ReportStage.onto, ReportStage.Spoilt, ReportPoint.uses, gone]
    · split <;> simp [ReportStage.onto, ReportStage.Spoilt, ReportPoint.uses, has]
  | reading =>
    have has : ¬ s.pdf? uuid = none := held
    simp [ReportPoint.next, ReportStage.onto, ReportStage.Spoilt, ReportPoint.uses, has]
  | putting =>
    simp only [ReportPoint.next, afterUpload]
    split <;> simp [ReportStage.onto, ReportStage.Spoilt, ReportPoint.uses]
  | looking =>
    simp only [ReportPoint.next]
    split <;> simp [ReportStage.onto, ReportStage.Spoilt, ReportPoint.uses]

theorem marred_fails {point : ReportPoint} {uuid : Nat} {report : Report} (stage : stages i = .at_ point uuid report)
    (lacks : point.Lacks s uuid) : Marred s stages ∨ Harms s stages i := by
  cases point with
  | opening => exact .inr (.inr ⟨⟨uuid, report, stage⟩, lacks⟩)
  | measuring | copying | reading => exact .inl ⟨i, by rw [stage]; exact ⟨rfl, lacks⟩⟩
  | preparing | writing | placing | putting | looking | clearing => exact lacks.elim

/-- The removal of the folder spoils all attempts that need their PDF. -/
theorem marred_clears {uuid : Nat} {report : Report} (stage : stages i = .at_ .clearing uuid report) :
    Marred (s.removeTempDir env) (Function.update stages i (.returned uuid report)) ↔
      Marred s stages ∨ Harms s stages i := by
  have gone (u : Nat) : (s.removeTempDir env).pdf? u = none :=
    ReportFiles.pdf_none_iff.mpr fun _ => ReportFiles.has_removeTempDir
  have spoils (stage : ReportStage) :
      stage.Spoilt (s.removeTempDir env) ↔ stage.Spoilt s ∨ stage.uses = true := by
    cases stage with
    | at_ point u r =>
      simp only [ReportStage.Spoilt, ReportStage.uses, gone, and_true]
      exact ⟨.inr, fun either => either.elim And.left id⟩
    | fresh | returned | failed => simp [ReportStage.Spoilt, ReportStage.uses]
  have harms : Harms s stages i ↔ ∃ j, (stages j).uses = true := by
    refine ⟨fun harmed => ?_, fun used => .inl ⟨⟨uuid, report, stage⟩, used⟩⟩
    rcases harmed with ⟨_, used⟩ | ⟨⟨u, r, opens⟩, _⟩
    · exact used
    · rw [stage] at opens
      cases opens
  rw [harms]
  constructor
  · rintro ⟨j, spoilt⟩
    by_cases at_i : j = i
    · rw [at_i, Function.update_self] at spoilt
      exact spoilt.elim
    · rw [Function.update_of_ne at_i] at spoilt
      rcases (spoils _).mp spoilt with before | used
      · exact .inl ⟨j, before⟩
      · exact .inr ⟨j, used⟩
  · intro either
    have found : ∃ j, (stages j).Spoilt (s.removeTempDir env) := by
      rcases either with ⟨j, before⟩ | ⟨j, used⟩
      · exact ⟨j, (spoils _).mpr (.inl before)⟩
      · exact ⟨j, (spoils _).mpr (.inr used)⟩
    obtain ⟨j, spoilt⟩ := found
    refine ⟨j, ?_⟩
    rw [Function.update_of_ne]
    · exact spoilt
    · rintro rfl
      rw [stage] at spoilt
      cases spoilt.1

/-- The step lemma: attempts are spoilt by a harmful step only, and they stay so. -/
theorem marred_move (serves : turn.Serves) (named : ReportsNamed first visited s stages)
    (moved : ReportMove env (stages i) s turn s' new) :
    Marred s' (Function.update stages i new) ↔ Marred s stages ∨ Harms s stages i := by
  generalize stage : stages i = old at moved
  cases moved with
  | refuses missing => exact absurd serves missing
  | begins =>
    have harmless : ¬ Harms s stages i := by
      rintro (⟨⟨u, r, clears⟩, _⟩ | ⟨⟨u, r, opens⟩, _⟩)
      · rw [stage] at clears
        cases clears
      · rw [stage] at opens
        cases opens
    rw [or_iff_left harmless]
    refine marred_update (fun j _ => ?_) ?_
    · cases stages j <;> exact .rfl
    · rw [stage]
      simp [ReportStage.Spoilt, ReportPoint.uses]
  | fails unserved =>
    refine iff_of_true ⟨i, ?_⟩ (marred_fails stage (unserved serves))
    rw [Function.update_self]
    trivial
  | @passes _ _ point uuid report held =>
    by_cases clears : point = .clearing
    · subst clears
      exact marred_clears stage
    · have harmless : ¬ Harms s stages i := by
        refine not_harms stage clears fun opens none_ => ?_
        subst opens
        exact held none_
      rw [or_iff_left harmless]
      refine marred_update (fun j at_j => ?_) ?_
      · cases other : stages j with
        | at_ p u r =>
          have apart : u ≠ uuid := by
            rintro rfl
            exact at_j (named.distinct j i u r report (by rw [other]; rfl) (by rw [stage]; rfl))
          simp only [ReportStage.Spoilt, ReportPoint.pdf_effect clears held, ne_eq, apart, not_false_eq_true, imp_true_iff,
            and_true]
        | fresh | returned | failed => exact .rfl
      · rw [stage]
        exact spoilt_onto clears held

/-- The call needs the PDF of the attempt, or comes before one that does. -/
def ReportCall.uses : ReportCall → Bool
  | .finishPdf _ _ | .stat _ | .ensureDir _ | .copyFile _ _ | .readFile _ => true
  | .uuidv4 | .ensureTempDir | .openPdf _ | .putObject _ | .tempDirExists | .removeTempDir => false

/-- The folder is removed in a turn only while no attempt needs its PDF, and a PDF is opened only in a folder. -/
def harmless (pool : ReportPool) (turn : Turn) : Bool :=
  match turn with
  | .start => true
  | .resume i =>
    match pool.threads[i]?.bind Program.awaits with
    | some .removeTempDir => pool.threads.all fun thread => !thread.awaits.any ReportCall.uses
    | some (.openPdf _) => pool.state.temp.isSome
    | _ => true

theorem ReportPoint.uses_call (point : ReportPoint) (uuid : Nat) (report : Report) :
    (point.call env uuid report).uses = point.uses := by
  cases point <;> rfl

/-- An attempt needs its PDF when the call it awaits does. -/
theorem uses_iff {list : List ReportStage}
    (waits : List.Forall₂ ((reportLoop env).Waits (reportDiscipline env)) list pool.threads) :
    (∃ j, (stageAt .fresh list j).uses = true) ↔
      ∃ thread ∈ pool.threads, thread.awaits.any ReportCall.uses = true := by
  constructor
  · rintro ⟨j, used⟩
    cases at_j : list[j]? with
    | none =>
      rw [stageAt, at_j] at used
      cases used
    | some stage =>
      rw [stageAt_of_getElem? at_j] at used
      obtain ⟨thread, member, waiting⟩ := waits_stage waits at_j
      cases stage with
      | fresh | returned | failed => cases used
      | at_ point uuid report =>
        have open_ (outcome : Outcome Err Unit) : ¬ (reportDiscipline env).ended (.at_ point uuid report) outcome := by
          rintro (⟨stage, _⟩ | ⟨_, _, stage, _⟩) <;> cases stage
        obtain ⟨c, next, p, u, r, stage, rfl⟩ := waiting.awaits open_
        cases stage
        exact ⟨thread, member, by rw [next, Option.any_some, ReportPoint.uses_call]; exact used⟩
  · rintro ⟨thread, member, used⟩
    obtain ⟨c, next, uses⟩ := (Option.any_eq_true _ _).mp used
    obtain ⟨j, point, uuid, report, stage, rfl⟩ := awaited_stageAt waits member next
    exact ⟨j, by rw [stage]; exact (ReportPoint.uses_call ..).symm.trans uses⟩

theorem harms_iff {list : List ReportStage}
    (waits : List.Forall₂ ((reportLoop env).Waits (reportDiscipline env)) list pool.threads)
    (acts : Acts (reportDiscipline env) .fresh pool (stageAt .fresh list) t i) :
    Harms pool.state (stageAt .fresh list) i ↔ harmless pool t = false := by
  cases acts with
  | starts fresh rest => simp [Harms, harmless, rest]
  | @resumes i c next waiting fits =>
    obtain ⟨point, uuid, report, stage, rfl⟩ := fits
    have resumed : pool.threads[i]?.bind Program.awaits = some (point.call env uuid report) := by rw [waiting]; rfl
    simp only [Harms, harmless, resumed, stage]
    cases point with
    | clearing =>
      rw [uses_iff waits]
      simp [ReportPoint.call]
    | opening => simp [ReportPoint.call]
    | _ => simp [ReportPoint.call]

/-- An attempt that succeeded is at its end. -/
theorem waits_returned {stage : ReportStage} {thread : ReportProgram Unit}
    (waits : (reportLoop env).Waits (reportDiscipline env) stage thread) (ended : thread.ended = some (.ok ())) :
    ∃ uuid report, stage = .returned uuid report := by
  cases thread with
  | done value =>
    rcases waits with ⟨_, failed⟩ | ⟨uuid, report, stage, _⟩
    · exact absurd rfl failed
    · exact ⟨uuid, report, stage⟩
  | throws error => cases ended
  | hangs => cases ended
  | call c next => cases ended

theorem reports_run (apart : Apart env) (known : ∀ uuid content, first.Has uuid content → uuid < first.drawn)
    (run : (reportWorkers env).Run { state := first, threads := [] } visited pool) :
    ∃ stages, List.Forall₂ ((reportLoop env).Waits (reportDiscipline env)) stages pool.threads ∧
      ReportsNamed first visited pool.state (stageAt .fresh stages) ∧ Filed env first visited pool.state (stageAt .fresh stages) ∧
      ((∀ v ∈ visited, v.2.2.Serves) →
        (Marred pool.state (stageAt .fresh stages) ↔ ∃ v ∈ visited, harmless v.1 v.2.1 = false)) := by
  apply stages_run (fun turn s => proceeds_report_process apart turn s) (fun visited s stages =>
    ReportsNamed first visited s stages ∧ Filed env first visited s stages ∧
      ((∀ v ∈ visited, v.2.2.Serves) → (Marred s stages ↔ ∃ v ∈ visited, harmless v.1 v.2.1 = false))) ?_ ?_ run
  · refine ⟨⟨Nat.le_refl _, by simp, by simp [ReportStage.file?], by simp [ReportStage.file?]⟩,
      ⟨known, by simp, fun file member => .inl member, by simp⟩, fun _ => ?_⟩
    simp [Marred, ReportStage.Spoilt]
  · intro visited pool pool' t turn s list i new waits invariant step arrived acts moved
    obtain rfl : pool.state = s := Option.some.inj arrived
    obtain ⟨named, filed, marred⟩ := invariant
    refine ⟨named.move acts moved, (filed.move named moved).more _, fun serves => ?_⟩
    have serve : turn.Serves := serves (pool, t, turn) (List.mem_append_right _ (List.mem_singleton_self _))
    rw [marred_move serve named moved, marred fun v member => serves v (List.mem_append_left _ member),
      harms_iff waits acts]
    simp [List.mem_append, or_and_right, exists_or]

/-- Whichever calls fail and however the attempts of report jobs are interleaved, a file of the report directory is the
    whole PDF of a job that ran, and a job that succeeds has its PDF there. Where no call fails by itself, all jobs
    succeed if and only if the temp folder is never removed while one of them needs its PDF, and is there whenever a PDF
    is opened. -/
theorem reports_survive (apart : Apart env) (known : ∀ uuid content, first.Has uuid content → uuid < first.drawn)
    (run : (reportWorkers env).Run { state := first, threads := [] } visited pool) :
    (∀ file ∈ pool.state.stored, file ∈ first.stored ∨
      ∃ v ∈ visited, v.2.1 = .start ∧ file = (v.1.state.drawn, some v.2.2.report)) ∧
    (ReportFiles.inside env = false → ∀ v ∈ visited, v.2.1 = .start →
      ∀ thread, pool.threads[v.1.threads.length]? = some thread → thread.ended = some (.ok ()) →
        (v.1.state.drawn, some v.2.2.report) ∈ pool.state.stored) ∧
    ((∀ v ∈ visited, v.2.2.Serves) → (∀ thread ∈ pool.threads, thread.awaits = none) →
      ((∀ thread ∈ pool.threads, thread.ended = some (.ok ())) ↔ ∀ v ∈ visited, harmless v.1 v.2.1 = true)) := by
  obtain ⟨stages, waits, named, filed, marred⟩ := reports_run apart known run
  refine ⟨filed.stored, fun outside v member began thread at_i returned => ?_, fun serves ended => ?_⟩
  · obtain ⟨stage, finds, waiting⟩ := waits_thread waits at_i
    obtain ⟨uuid, report, rfl⟩ := waits_returned waiting returned
    have at_stage : stageAt .fresh stages v.1.threads.length = .returned uuid report := stageAt_of_getElem? finds
    have drew := named.begun v member began
    rw [at_stage] at drew
    rcases drew with failed | file
    · cases failed
    · cases file
      exact filed.kept outside _ _ _ (.inl at_stage)
  · have harms : (∀ v ∈ visited, harmless v.1 v.2.1 = true) ↔ ¬ Marred pool.state (stageAt .fresh stages) := by
      rw [marred serves]
      simp
    rw [harms]
    constructor
    · rintro all ⟨j, spoilt⟩
      cases at_j : stages[j]? with
      | none =>
        rw [stageAt, at_j] at spoilt
        exact spoilt
      | some stage =>
        rw [stageAt_of_getElem? at_j] at spoilt
        obtain ⟨thread, member, waiting⟩ := waits_stage waits at_j
        obtain ⟨uuid, report, rfl⟩ := waits_returned waiting (all thread member)
        exact spoilt
    · intro sound thread member
      obtain ⟨i, at_i⟩ := List.getElem?_of_mem member
      obtain ⟨stage, finds, waiting⟩ := waits_thread waits at_i
      obtain ⟨outcome, ends, how⟩ := waiting.ended (ended thread member)
      rcases how with ⟨rfl, _⟩ | ⟨uuid, report, _, rfl⟩
      · exact absurd ⟨i, by rw [stageAt_of_getElem? finds]; trivial⟩ sound
      · exact ends

/-- The second job is done, and removes the temp folder, while the first one is about to measure its PDF. -/
def reportTurns : List (Turn × ReportTurn) :=
  let sales : ReportTurn := { report := { title := "Sales", generatedBy := "ops", data := ["[1]"] } }
  let costs : ReportTurn := { report := { title := "Costs", generatedBy := "ops", data := [] } }
  [(.start, sales), (.start, costs)] ++ List.replicate 3 (.resume 0, sales) ++ List.replicate 8 (.resume 1, costs) ++
    [(.resume 0, sales)]

def cleaningEnv : ReportEnv where
  cwd := [⟨"app", namesEntry_app⟩]
  MEDIA_OUTPUT_DIR := none
  REPORT_OUTPUT_DIR := none
  USE_S3 := none
  CLEAN_TEMP_FILES := some "true"

def noReports : ReportFiles := { temp := none, stored := [], drawn := 0 }

theorem reports_survive_removed : ∃ pool,
    (reportWorkers cleaningEnv).exec { state := noReports, threads := [] } reportTurns = some pool ∧
    (∃ thread ∈ pool.threads, thread.ended ≠ some (.ok ())) ∧
    ((1, some { title := "Costs", generatedBy := "ops", data := [] }) : Nat × Option Report) ∈ pool.state.stored := by
  have ends : ((reportWorkers cleaningEnv).exec { state := noReports, threads := [] } reportTurns).map (fun pool =>
      (pool.threads.all fun thread => thread.awaits.isNone, pool.threads[1]?.map Program.ended)) =
        some (true, some (some (.ok ()))) := by
    decide +kernel
  have serves : ∀ v ∈ (reportWorkers cleaningEnv).trace { state := noReports, threads := [] } reportTurns,
      v.2.2.Serves := by
    decide +kernel
  have harmful : ((reportWorkers cleaningEnv).trace { state := noReports, threads := [] } reportTurns).any
      (fun v => !harmless v.1 v.2.1) = true := by
    decide +kernel
  have began : (((reportWorkers cleaningEnv).trace { state := noReports, threads := [] } reportTurns)[1]?.map fun v =>
      (v.2.1, v.1.threads.length, v.1.state.drawn, v.2.2.report)) =
        some (.start, 1, 1, { title := "Costs", generatedBy := "ops", data := [] }) := by
    decide +kernel
  obtain ⟨pool, ran, ended⟩ := Option.map_eq_some_iff.mp ends
  obtain ⟨awaits, costs⟩ := Prod.mk.inj ended
  obtain ⟨_, stored, survive⟩ := reports_survive (by decide +kernel : Apart cleaningEnv)
    (fun uuid content none_ => by cases none_) (Machine.run_of_exec ran)
  have idle_ : ∀ thread ∈ pool.threads, thread.awaits = none := by
    exact fun thread member => Option.isNone_iff_eq_none.mp (List.all_eq_true.mp awaits thread member)
  refine ⟨pool, ran, ?_, ?_⟩
  · by_contra none_
    have all := (survive serves idle_).mp (by simpa using none_)
    obtain ⟨v, member, harms⟩ := List.any_eq_true.mp harmful
    rw [all v member] at harms
    cases harms
  · obtain ⟨v, at_1, same⟩ := Option.map_eq_some_iff.mp began
    obtain ⟨start, length, drawn, report⟩ := by simpa using same
    obtain ⟨thread, at_thread, ok⟩ := Option.map_eq_some_iff.mp costs
    have kept := stored (by decide +kernel) v (List.mem_of_getElem? at_1) start thread (by rw [length]; exact at_thread) ok
    rw [drawn, report] at kept
    exact kept

end Runs

end OrchestrateModel
