import Orchestrate.Effect.Trace
import Orchestrate.Model.MediaFiles

namespace OrchestrateModel

open Effect Program Paths MediaProcessor

section Names

theorem uuidText_plain (uuid : Nat) : '/' ∉ (uuidText uuid).toList := by
  have digits (c : Char) (member : c ∈ Nat.toDigits 10 uuid) : c ≠ '/' := by
    rintro rfl
    exact absurd (Nat.isDigit_of_mem_toDigits (by decide) (by decide) member) (by decide)
  simp only [uuidText, String.toList_append, List.mem_append, not_or]
  refine ⟨by decide, fun member => ?_⟩
  have text : (toString uuid).toList = Nat.toDigits 10 uuid := by simp
  exact digits '/' (text ▸ member) rfl

theorem pathStep_of_names {segment : String} (names : NamesEntry segment) :
    pathStep segment = some (.down ⟨segment, names⟩) := by
  rw [pathStep, if_neg names.2.2.2, dif_pos names]

/-- The steps of a name lead down to it. -/
theorem pathSteps_text (name : FileName) : pathSteps name.text = [.down name] := by
  have whole : segments name.text = [name.text] := by
    rw [segments, List.splitOn_eq_singleton name.names.1]
    simp
  rw [pathSteps, whole, List.filterMap_cons, pathStep_of_names name.names]
  rfl

/-- The steps of a format after its first slash. -/
def formatSteps (format : String) : List (Step FileName) := (segments format).tail.filterMap pathStep

/-- The letters before the first slash, and what follows it. -/
theorem splitOn_cases (letters : List Char) :
    ∃ first rest, letters.splitOn '/' = first :: rest ∧ '/' ∉ first ∧
      ∀ more : List Char, '/' ∉ more → (more ++ letters).splitOn '/' = (more ++ first) :: rest := by
  by_cases slash : '/' ∈ letters
  · obtain ⟨first, rest, rfl, whole⟩ := List.eq_append_cons_of_mem slash
    refine ⟨first, rest.splitOn '/', List.splitOn_append_cons_self_of_not_mem whole rest, whole, fun more plain => ?_⟩
    rw [← List.append_assoc]
    apply List.splitOn_append_cons_self_of_not_mem
    simp [plain, whole]
  · refine ⟨letters, [], List.splitOn_eq_singleton slash, slash, fun more plain => ?_⟩
    apply List.splitOn_eq_singleton
    simp [plain, slash]

theorem namesEntry_uuid (uuid : Nat) {letters : List Char} (whole : '/' ∉ letters) :
    NamesEntry (String.ofList ((uuidText uuid ++ ".").toList ++ letters)) := by
  have begins : (String.ofList ((uuidText uuid ++ ".").toList ++ letters)).toList.head? = some 'u' := by
    simp [uuidText]
  refine ⟨?_, ?_, ?_, ?_⟩
  · simp only [String.toList_ofList, String.toList_append, List.mem_append, not_or]
    exact ⟨⟨uuidText_plain uuid, by decide⟩, whole⟩
  · intro same
    rw [same] at begins
    exact absurd begins (by decide)
  · intro same
    rw [same] at begins
    exact absurd begins (by decide)
  · intro same
    rw [same] at begins
    exact absurd begins (by decide)

/-- The name of an output file begins with a name, whatever the format is. -/
theorem pathSteps_outputFileName (uuid : Nat) (format : String) :
    ∃ first, pathSteps (outputFileName uuid format) = .down first :: formatSteps format := by
  obtain ⟨first, rest, split, whole, extends_⟩ := splitOn_cases format.toList
  have plain : '/' ∉ (uuidText uuid ++ ".").toList := by
    rw [String.toList_append, List.mem_append, not_or]
    exact ⟨uuidText_plain uuid, by decide⟩
  have names := namesEntry_uuid uuid whole
  refine ⟨⟨_, names⟩, ?_⟩
  have down := pathStep_of_names names
  rw [pathSteps, segments, outputFileName, String.toList_append, extends_ _ plain, List.map_cons, List.filterMap_cons, down,
    formatSteps, segments, split, List.map_cons, List.tail_cons]

end Names

namespace Path

variable {cwd : List FileName} {p : Path} {name : FileName}

/-- So many levels above a path. -/
def climb (p : Path) (levels : Nat) : Path := (fun p => p.push .up)^[levels] p

def descend (p : Path) (names : List FileName) : Path := names.foldl (fun p name => p.push (.down name)) p

theorem push_down_up (p : Path) (name : FileName) : (p.push (.down name)).push .up = p := by
  cases p with
  | absolute names => simp [push, walk]
  | relative r => simp [push, Relative.step]

theorem dirname_push (p : Path) (name : FileName) : (p.push (.down name)).dirname = p := by
  cases p with
  | absolute names => simp [push, walk, dirname]
  | relative r => simp [push, Relative.step, dirname]

theorem basename_push (p : Path) (name : FileName) : (p.push (.down name)).basename = name.text := by
  cases p with
  | absolute names => simp [push, walk, basename]
  | relative r => simp [push, Relative.step, basename]

theorem location_push (p : Path) (s : Step FileName) : (p.push s).location cwd = walk (p.location cwd) [s] := by
  cases p with
  | absolute names => rfl
  | relative r => exact r.lead_step cwd s

theorem location_foldl (p : Path) (steps : List (Step FileName)) :
    (steps.foldl push p).location cwd = walk (p.location cwd) steps := by
  induction steps generalizing p with
  | nil => rfl
  | cons s rest ih =>
    rw [List.foldl_cons, ih, location_push, ← walk_append]
    rfl

@[simp] theorem location_join (p : Path) (text : String) :
    (p.join text).location cwd = (Relative.of (pathSteps text)).lead (p.location cwd) := by
  rw [join, location_foldl, walk_eq_lead]

@[simp] theorem location_push_down (p : Path) (name : FileName) :
    (p.push (.down name)).location cwd = p.location cwd ++ [name] := location_push p (.down name)

@[simp] theorem location_descend (p : Path) (names : List FileName) :
    (p.descend names).location cwd = p.location cwd ++ names := by
  induction names generalizing p with
  | nil => simp [descend]
  | cons name rest ih =>
    show ((p.push (.down name)).descend rest).location cwd = _
    rw [ih, location_push_down, List.append_assoc]
    rfl

@[simp] theorem location_climb (p : Path) (levels : Nat) :
    (p.climb levels).location cwd = (p.location cwd).take ((p.location cwd).length - levels) := by
  induction levels with
  | zero => simp [climb]
  | succ levels ih =>
    rw [climb, Function.iterate_succ_apply', ← climb, location_push, ih]
    show List.dropLast _ = _
    rw [List.dropLast_eq_take, List.take_take, List.length_take]
    congr 1
    omega

theorem descend_concat (p : Path) (names : List FileName) (name : FileName) :
    p.descend (names ++ [name]) = (p.descend names).push (.down name) := by
  simp [descend]

end Path

/-- The part of a format after its first slash. -/
def formatRest (format : String) : Relative FileName := .of (formatSteps format)

/-- Where the output file is, for a format that does not climb and for one that does. -/
theorem outputPath_eq (p : Path) (uuid : Nat) (format : String) : ∃ first,
    p.join (outputFileName uuid format) =
      if (formatRest format).up = 0 then (p.push (.down first)).descend (formatRest format).names
      else (p.climb ((formatRest format).up - 1)).descend (formatRest format).names := by
  obtain ⟨first, steps⟩ := pathSteps_outputFileName uuid format
  refine ⟨first, ?_⟩
  have path : p.join (outputFileName uuid format) =
      ((p.push (.down first)).climb (formatRest format).up).descend (formatRest format).names := by
    rw [Path.join, steps, List.foldl_cons]
    exact foldl_of Path.push Path.push_down_up _ _
  rw [path]
  split
  · rename_i none
    rw [none]
    rfl
  · rename_i some
    obtain ⟨levels, own⟩ := Nat.exists_eq_succ_of_ne_zero some
    rw [own, Path.climb, Function.iterate_succ_apply, Path.push_down_up, Nat.succ_sub_one]
    rfl

/-- A call makes directories within a directory and writes files inside it. -/
def MediaCall.KeepsTo (cwd dir : List FileName) : MediaCall → Prop
  | .ensureDir path => Within dir (path.location cwd)
  | .ffmpeg _ output | .toFile _ _ _ _ output => Inside dir (output.location cwd)
  | .copyFile _ destination => Inside dir (destination.location cwd)
  | .resolveMediaInput _ | .cleanup _ | .uuidv4 | .readImage _ | .uploadFileS3 _ _ => True

def ServeCall.KeepsTo (cwd dir : List FileName) : ServeCall → Prop
  | .existsSync _ => True
  | .sendFile path => Inside dir (path.location cwd)

/-- The format does not climb out of the directory, or what follows leads back into it. -/
def TranscodeStays (dir : List FileName) (format : String) : Prop :=
  (formatRest format).up = 0 ∨
    Relative.Reenters { formatRest format with up := (formatRest format).up - 1 } dir dir

/-- The directory that the format leads to is within the media directory; a format of dots only leads to the one
    above. -/
def ImageStays (env : FileEnv) (format : String) : Prop :=
  let r := formatRest format
  let dir := env.mediaDir.location env.cwd
  r.up = 0 ∨ (r.names ≠ [] ∧ dir.drop (dir.length - (r.up - 1)) <+: r.names.dropLast) ∨
    (r.names = [] ∧ Within dir ((env.mediaDir.climb (r.up - 1)).dirname.location env.cwd))

def MediaJob.Stays (env : FileEnv) (job : MediaJob) : Prop :=
  job.failTest = true ∨
    ((job.jobType = "video_transcode" ∨ job.jobType = "audio_transcode" →
        TranscodeStays (env.mediaDir.location env.cwd) job.format) ∧
      (job.jobType = "image_resize" → ImageStays env job.format))

instance (dir : List FileName) (format : String) : Decidable (TranscodeStays dir format) :=
  inferInstanceAs (Decidable (_ ∨ _))

instance (env : FileEnv) (format : String) : Decidable (ImageStays env format) :=
  inferInstanceAs (Decidable (_ ∨ _ ∨ _))

instance (env : FileEnv) (job : MediaJob) : Decidable (job.Stays env) :=
  inferInstanceAs (Decidable (_ ∨ (_ → _) ∧ (_ → _)))

section Media

variable {env : FileEnv} {uuid : Nat} {format : String}

/-- A path that ends in a name, in a directory within the given one. -/
def Lodged (cwd dir : List FileName) (path : Path) : Prop :=
  ∃ (p : Path) (name : FileName), path = p.push (.down name) ∧ Within dir (p.location cwd)

theorem Lodged.inside {cwd dir : List FileName} {path : Path} (lodged : Lodged cwd dir path) :
    Inside dir (path.location cwd) := by
  obtain ⟨p, name, rfl, rest, below⟩ := lodged
  rw [Path.location_push_down, ← below, List.append_assoc]
  exact inside_append (by simp)

theorem Lodged.dirname {cwd dir : List FileName} {path : Path} (lodged : Lodged cwd dir path) :
    Within dir (path.dirname.location cwd) := by
  obtain ⟨p, name, rfl, within⟩ := lodged
  rw [Path.dirname_push]
  exact within

/-- The copy in the media directory has the last name of the path. -/
theorem Lodged.basename {cwd dir : List FileName} {path p : Path} (lodged : Lodged cwd dir path) :
    Inside (p.location cwd) ((p.join path.basename).location cwd) := by
  obtain ⟨_, name, rfl, _⟩ := lodged
  rw [Path.basename_push, Path.join, pathSteps_text]
  show Inside _ ((p.push (.down name)).location cwd)
  rw [Path.location_push_down]
  exact inside_append (by simp)

theorem lodged_descend {cwd dir : List FileName} {p : Path} {names : List FileName} (some : names ≠ [])
    (within : Within dir (p.location cwd ++ names.dropLast)) : Lodged cwd dir (p.descend names) := by
  refine ⟨p.descend names.dropLast, names.getLast some, ?_, ?_⟩
  · rw [← Path.descend_concat, List.dropLast_append_getLast]
  · rw [Path.location_descend]
    exact within

/-- The output path of a format that climbs. -/
theorem location_climbed (p : Path) (cwd : List FileName) (r : Relative FileName) :
    ((p.climb (r.up - 1)).descend r.names).location cwd = Relative.lead { r with up := r.up - 1 } (p.location cwd) := by
  rw [Path.location_descend, Path.location_climb]
  rfl

/-- An output path strictly inside the media directory ends in a name. -/
theorem lodged_of_stays (stays : TranscodeStays (env.mediaDir.location env.cwd) format) (uuid : Nat) :
    Lodged env.cwd (env.mediaDir.location env.cwd) (env.mediaDir.join (outputFileName uuid format)) := by
  obtain ⟨first, path⟩ := outputPath_eq env.mediaDir uuid format
  rw [path]
  by_cases none : (formatRest format).up = 0
  · rw [if_pos none]
    by_cases empty : (formatRest format).names = []
    · rw [empty]
      exact ⟨env.mediaDir, first, rfl, List.prefix_rfl⟩
    · apply lodged_descend empty
      rw [Path.location_push_down, List.append_assoc]
      exact List.prefix_append _ _
  · rw [if_neg none]
    have inside := (Relative.inside_lead_iff _ _ _).mpr (stays.resolve_left none)
    have some : (formatRest format).names ≠ [] := by
      intro empty
      have shorter := inside.1.length_le
      apply inside.2
      rw [Relative.lead, empty, List.append_nil] at shorter ⊢
      rw [List.length_take] at shorter
      exact List.take_of_length_le (by omega)
    apply lodged_descend some
    have within := inside.dropLast
    rw [Relative.lead, List.dropLast_append_of_ne_nil some] at within
    rw [Path.location_climb]
    exact within

/-- An output path is inside the media directory exactly for such a format. -/
theorem inside_output_iff (uuid : Nat) :
    Inside (env.mediaDir.location env.cwd) ((env.mediaDir.join (outputFileName uuid format)).location env.cwd) ↔
      TranscodeStays (env.mediaDir.location env.cwd) format := by
  refine ⟨fun inside => ?_, fun stays => (lodged_of_stays stays uuid).inside⟩
  obtain ⟨first, path⟩ := outputPath_eq env.mediaDir uuid format
  by_cases none : (formatRest format).up = 0
  · exact .inl none
  · rw [path, if_neg none, location_climbed] at inside
    exact .inr ((Relative.inside_lead_iff _ _ _).mp inside)

/-- The directory of an output path is within the media directory exactly for such a format. -/
theorem within_dirname_iff (uuid : Nat) :
    Within (env.mediaDir.location env.cwd)
        ((env.mediaDir.join (outputFileName uuid format)).dirname.location env.cwd) ↔ ImageStays env format := by
  obtain ⟨first, path⟩ := outputPath_eq env.mediaDir uuid format
  by_cases none : (formatRest format).up = 0
  · have stays : TranscodeStays (env.mediaDir.location env.cwd) format := .inl none
    exact iff_of_true (lodged_of_stays stays uuid).dirname (.inl none)
  · rw [path, if_neg none]
    unfold ImageStays
    cases names : (formatRest format).names using List.reverseRecOn with
    | nil => simp [none, names, Path.descend]
    | append_singleton before last =>
      set dir := env.mediaDir.location env.cwd
      have kept : (dir.take (dir.length - ((formatRest format).up - 1))).length =
          dir.length - ((formatRest format).up - 1) := by
        rw [List.length_take]
        omega
      rw [Path.descend_concat, Path.dirname_push, Path.location_descend, Path.location_climb, Within,
        isPrefix_append_iff, kept]
      simp [none, names, dir]

section Calls

variable {cwd dir : List FileName} {path source : Path}

theorem only_ensureDir (within : Within dir (path.location cwd)) :
    (Media.ensureDir path).Only (MediaCall.KeepsTo cwd dir) := only_await within

theorem only_ffmpeg {inputPath : String} (inside : Inside dir (path.location cwd)) :
    (Media.ffmpeg inputPath path).Only (MediaCall.KeepsTo cwd dir) := only_await inside

theorem only_toFile {width height : Int} {format : String} {filters : List String}
    (inside : Inside dir (path.location cwd)) :
    (Media.toFile width height format filters path).Only (MediaCall.KeepsTo cwd dir) := only_await inside

theorem only_copyFile (inside : Inside dir (path.location cwd)) :
    (Media.copyFile source path).Only (MediaCall.KeepsTo cwd dir) := only_await inside

/-- A call that makes and writes nothing. -/
theorem only_invoke {call : MediaCall} (harmless : call.KeepsTo cwd dir) :
    (Media.invoke call).Only (MediaCall.KeepsTo cwd dir) := only_await harmless

end Calls

/-- The copy goes into the media directory. -/
theorem only_upload {name : String}
    (lodged : Lodged env.cwd (env.mediaDir.location env.cwd) (env.mediaDir.join name)) :
    (upload env name).Only (MediaCall.KeepsTo env.cwd (env.mediaDir.location env.cwd)) := by
  have same : resolveLocalOutputDir env "processed_media" = env.mediaDir := if_pos rfl
  have uploads : (if env.USE_S3 = some "true" then Media.uploadFileS3 (env.mediaDir.join name) name
      else .done ()).Only (MediaCall.KeepsTo env.cwd (env.mediaDir.location env.cwd)) := by
    split
    · exact only_invoke trivial
    · trivial
  have copies : (uploadFileLocal env (env.mediaDir.join name) "processed_media").Only
      (MediaCall.KeepsTo env.cwd (env.mediaDir.location env.cwd)) := by
    simp only [uploadFileLocal, same, bind_eq]
    refine (only_ensureDir List.prefix_rfl).bind fun _ => ?_
    split
    · exact only_copyFile lodged.basename
    · trivial
  exact copies.bind fun _ => uploads

/-- The names that a transcode returns. -/
theorem yields_transcodeInput (fileUrl format : String) :
    (transcodeInput env fileUrl format).Yields fun name => ∃ uuid, name = outputFileName uuid format := by
  simp only [transcodeInput, bind_eq]
  refine (yields_any _).bind fun inputPath _ => ?_
  have runs : (runFfmpegTranscode env inputPath format).Yields fun name =>
      ∃ uuid, name = outputFileName uuid format := by
    simp only [runFfmpegTranscode, bind_eq]
    exact (yields_any _).bind fun uuid _ => (yields_any _).bind fun _ _ => (yields_any _).bind fun _ _ => ⟨uuid, rfl⟩
  exact runs.capture.bind fun result holds => (yields_any _).bind fun _ _ => yields_ofExcept holds

theorem only_transcodeInput (fileUrl : String) (stays : TranscodeStays (env.mediaDir.location env.cwd) format) :
    ((transcodeInput env fileUrl format).bind (upload env)).Only
      (MediaCall.KeepsTo env.cwd (env.mediaDir.location env.cwd)) := by
  have lodged (uuid : Nat) : Lodged env.cwd (env.mediaDir.location env.cwd)
      (env.mediaDir.join (outputFileName uuid format)) := lodged_of_stays stays uuid
  refine Only.seq ?_ (yields_transcodeInput fileUrl format) ?_
  · simp only [transcodeInput, bind_eq]
    refine Only.bind (only_invoke trivial) fun inputPath => ?_
    have runs : (runFfmpegTranscode env inputPath format).Only
        (MediaCall.KeepsTo env.cwd (env.mediaDir.location env.cwd)) := by
      simp only [runFfmpegTranscode, bind_eq]
      refine Only.bind (only_invoke trivial) fun uuid => (only_ensureDir (lodged uuid).dirname).bind fun _ => ?_
      exact (only_ffmpeg (lodged uuid).inside).bind fun _ => trivial
    exact runs.capture.bind fun result => Only.bind (only_invoke trivial) fun _ => only_ofExcept result
  · rintro name ⟨uuid, rfl⟩
    exact only_upload (lodged uuid)

/-- A transcode keeps to the media directory exactly for such a format. -/
theorem transcodeInput_iff (fileUrl : String) :
    ((transcodeInput env fileUrl format).bind (upload env)).Only
        (MediaCall.KeepsTo env.cwd (env.mediaDir.location env.cwd)) ↔
      TranscodeStays (env.mediaDir.location env.cwd) format := by
  refine ⟨fun only => ?_, only_transcodeInput fileUrl⟩
  -- the input resolves, the name is drawn, and the directory is made
  have writes := (((only.2 (.ok "")).2 (.ok 0)).2 (.ok ())).1
  exact (inside_output_iff 0).mp writes

theorem formatRest_allowed : ∀ format ∈ ALLOWED_FORMATS, (formatRest format).up = 0 := by
  decide +kernel

theorem allowed_of_validated {width height : Int} {filters : List String} (value : Unit)
    (valid : validateImageInput width height format filters = .ok value) : format ∈ ALLOWED_FORMATS := by
  unfold validateImageInput at valid
  split at valid
  · cases valid
  split at valid
  · cases valid
  split at valid
  · cases valid
  · rename_i allowed
    exact not_not.mp allowed

/-- An image job returns a name only for a format that it allows. -/
theorem yields_processImage (fileUrl : String) (width height : Int) (format : String) (filters : List String) :
    (processImage env fileUrl width height format filters).Yields fun name =>
      format ∈ ALLOWED_FORMATS ∧ ∃ uuid, name = outputFileName uuid format := by
  simp only [processImage, bind_eq]
  exact (yields_any _).bind fun uuid _ => (yields_any _).bind fun _ _ => (yields_any _).bind fun _ _ =>
    (yields_ofExcept allowed_of_validated).bind fun _ allowed => (yields_any _).bind fun _ _ => ⟨allowed, uuid, rfl⟩

/-- An image job keeps to the media directory exactly for such a format. -/
theorem processImage_iff (fileUrl : String) (width height : Int) (filters : List String) :
    ((processImage env fileUrl width height format filters).bind (upload env)).Only
        (MediaCall.KeepsTo env.cwd (env.mediaDir.location env.cwd)) ↔ ImageStays env format := by
  have lodged (allowed : format ∈ ALLOWED_FORMATS) (uuid : Nat) : Lodged env.cwd (env.mediaDir.location env.cwd)
      (env.mediaDir.join (outputFileName uuid format)) :=
    lodged_of_stays (.inl (formatRest_allowed format allowed)) uuid
  refine ⟨fun only => ?_, fun stays => ?_⟩
  · -- the name is drawn before the directory is made
    have makes := (only.2 (.ok 0)).1
    exact (within_dirname_iff 0).mp makes
  · refine Only.seq ?_ (yields_processImage fileUrl width height format filters) ?_
    · simp only [processImage, bind_eq]
      refine Only.bind (only_invoke trivial) fun uuid => ?_
      refine (only_ensureDir ((within_dirname_iff uuid).mpr stays)).bind fun _ => ?_
      refine Only.bind (only_invoke trivial) fun _ => ?_
      refine (only_ofExcept _).seq (yields_ofExcept allowed_of_validated) fun _ allowed => ?_
      exact (only_toFile (lodged allowed uuid).inside).bind fun _ => trivial
    · rintro name ⟨allowed, uuid, rfl⟩
      exact only_upload (lodged allowed uuid)

/-- The step lemma of a media job, by its type. -/
theorem process_iff (job : MediaJob) :
    (process env job).Only (MediaCall.KeepsTo env.cwd (env.mediaDir.location env.cwd)) ↔ job.Stays env := by
  unfold process MediaJob.Stays
  by_cases fails : job.failTest = true
  · simp [fails]
  rw [if_neg fails]
  by_cases video : job.jobType = "video_transcode"
  · rw [if_pos video, processVideo, transcodeInput_iff]
    simp [fails, video]
  rw [if_neg video]
  by_cases audio : job.jobType = "audio_transcode"
  · rw [if_pos audio, processAudio, transcodeInput_iff]
    simp [fails, audio]
  rw [if_neg audio]
  by_cases image : job.jobType = "image_resize"
  · rw [if_pos image, processImage_iff]
    simp [fails, image]
  · rw [if_neg image]
    simp [video, audio, image]

end Media

section Serve

/-- A controller sends a file of its directory exactly for such a name. -/
theorem send_iff (cwd dir : List FileName) (base : Path) (filename : String) :
    (Serve.send (base.join filename)).Only (ServeCall.KeepsTo cwd dir) ↔
      (Relative.of (pathSteps filename)).Reenters (base.location cwd) dir := by
  rw [← Relative.inside_lead_iff, ← Path.location_join]
  refine ⟨fun only => ?_, fun inside => ?_⟩
  · have sends := (only.2 (.ok true)).1
    exact sends
  · refine (only_await trivial).bind fun found => ?_
    split
    · trivial
    · exact only_await inside

end Serve

/-- The output files that are written and sent are in their directories exactly for formats and file names that do not
    lead out of them, or lead back. -/
theorem output_paths_inside_iff (env : FileEnv) :
    (∀ job, (process env job).Only (MediaCall.KeepsTo env.cwd (env.mediaDir.location env.cwd)) ↔ job.Stays env) ∧
      (∀ filename, (MediaController.getFile env filename).Only
          (ServeCall.KeepsTo env.cwd (env.mediaDir.location env.cwd)) ↔
        (Relative.of (pathSteps filename)).Reenters (((Path.absolute env.cwd).join "processed_media").location env.cwd)
          (env.mediaDir.location env.cwd)) ∧
      ∀ filename, (ReportController.getFile env filename).Only
          (ServeCall.KeepsTo env.cwd (env.reportDir.location env.cwd)) ↔
        (Relative.of (pathSteps filename)).Reenters (env.reportDir.location env.cwd) (env.reportDir.location env.cwd) :=
  ⟨process_iff, fun filename => send_iff env.cwd _ _ filename, fun filename => send_iff env.cwd _ _ filename⟩

theorem namesEntry_app : NamesEntry "app" := by decide

/-- A process in `/app` with the default directories. -/
def plainEnv : FileEnv :=
  { cwd := [⟨"app", namesEntry_app⟩], MEDIA_OUTPUT_DIR := none, REPORT_OUTPUT_DIR := none, USE_S3 := none }

def mediaJob (jobType format : String) : MediaJob :=
  { jobType := jobType, failTest := false, fileUrl := "https://example.com/input", format := format, width := 100,
    height := 100, filters := [] }

/-- The video goes to `/app/x.mp4`, the image job makes `/tmp/new`, and the controllers send `/app/package.json`. -/
theorem output_paths_escape :
    ¬ (process plainEnv (mediaJob "video_transcode" "mp4/../../x.mp4")).Only
        (MediaCall.KeepsTo plainEnv.cwd (plainEnv.mediaDir.location plainEnv.cwd)) ∧
      ¬ (process plainEnv (mediaJob "image_resize" "png/../../../tmp/new/evil")).Only
        (MediaCall.KeepsTo plainEnv.cwd (plainEnv.mediaDir.location plainEnv.cwd)) ∧
      ¬ (MediaController.getFile plainEnv "../package.json").Only
        (ServeCall.KeepsTo plainEnv.cwd (plainEnv.mediaDir.location plainEnv.cwd)) ∧
      ¬ (ReportController.getFile plainEnv "../package.json").Only
        (ServeCall.KeepsTo plainEnv.cwd (plainEnv.reportDir.location plainEnv.cwd)) := by
  rw [process_iff, process_iff, MediaController.getFile, send_iff, ReportController.getFile, send_iff]
  decide +kernel

end OrchestrateModel
