import Orchestrate.Processors.MediaInput

namespace OrchestrateModel

open Effect Program MediaDownload

variable {env : MediaEnv} {σ : Type} {h : Handler downloadSignature Err σ} {s : σ} {input : MediaInput}

/-- The path that ffmpeg is given. -/
def MediaInput.text : MediaInput → String
  | given path => path
  | temp file => "media_input_temp/" ++ uuidText file.uuid ++ file.ext

theorem ends_resolveMediaInput (fileUrl : String) : (resolveMediaInput env fileUrl).Ends := by
  have quiet (file : TempFile) : (Download.removeQuietly file).Ends := (ends_await _).catching fun _ => trivial
  have downloads (file : TempFile) : (download env fileUrl file).Ends := by
    unfold download
    refine Ends.bind ((ends_await _).catching fun _ => trivial) fun contentLength => ?_
    split
    · trivial
    · refine Ends.bind ((ends_await _).catching fun _ => (quiet file).bind fun _ => trivial) fun _ => ?_
      refine Ends.bind (ends_await _) fun size => ?_
      split
      · exact (quiet file).bind fun _ => trivial
      · split
        · exact (quiet file).bind fun _ => trivial
        · trivial
  unfold resolveMediaInput
  split
  · trivial
  · refine Ends.bind (ends_await _) fun _ => Ends.bind (ends_ofExcept _) fun urlPath => ?_
    exact Ends.bind (ends_await _) fun uuid => (downloads _).bind fun _ => trivial

/-- The calls of a media job, with the whole download as the reply to one of them. -/
def whole (env : MediaEnv) (h : Handler downloadSignature Err σ) : Handler mediaSignature Err (σ × MediaInput)
  | (s, input), .resolveMediaInput fileUrl =>
    match (resolveMediaInput env fileUrl).run h s with
    | (.ok resolved, s') => (.ok resolved.text, s', resolved)
    | (.thrown error, s') => (.error error, s', input)
    | (.hung, s') => (.error TempDir.ENOENT, s', input)
  | (s, input), .cleanup _ => (.ok (), ((cleanup input).run h s).2, input)
  | (s, input), .ffmpeg _ output => ((h s (.ffmpeg input output)).1, (h s (.ffmpeg input output)).2, input)
  | (s, input), c => ((h s (.media c)).1, (h s (.media c)).2, input)

theorem whole_plain {c : MediaCall} (plain : c.Plain) :
    whole env h (s, input) c = ((h s (.media c)).1, (h s (.media c)).2, input) := by
  cases c with
  | resolveMediaInput fileUrl => exact plain.elim
  | cleanup inputPath => exact plain.elim
  | ffmpeg inputPath output => exact plain.elim
  | _ => rfl

/-- The two programs end alike, in the same state, as long as the input is this one. -/
def Mirrors {α : Type} (env : MediaEnv) (h : Handler downloadSignature Err σ) (input : MediaInput)
    (program : MediaProgram α) (lower : DownloadProgram α) : Prop :=
  ∀ s, program.run (whole env h) (s, input) = ((lower.run h s).1, (lower.run h s).2, input)

namespace Mirrors

variable {α β : Type}

theorem bind {program : MediaProgram α} {lower : DownloadProgram α} {next : α → MediaProgram β}
    {next' : α → DownloadProgram β} (first : Mirrors env h input program lower)
    (rest : ∀ value, Mirrors env h input (next value) (next' value)) :
    Mirrors env h input (program.bind next) (lower.bind next') := by
  intro s
  rw [run_bind, run_bind, first s]
  rcases lower.run h s with ⟨value | error | _, s'⟩
  · exact rest value s'
  · rfl
  · rfl

theorem capture {program : MediaProgram α} {lower : DownloadProgram α} (mirrors : Mirrors env h input program lower) :
    Mirrors env h input program.capture lower.capture := by
  intro s
  rw [run_capture, run_capture, mirrors s]
  rcases lower.run h s with ⟨value | error | _, s'⟩ <;> rfl

theorem done (value : α) : Mirrors env h input (.done value) (.done value) := fun _ => rfl

theorem media {c : MediaCall} (plain : c.Plain) :
    Mirrors env h input (Media.invoke c) (Download.invoke (.media c)) := by
  intro s
  rw [Media.invoke, Download.invoke, run_await, run_await, whole_plain plain]
  rcases h s (.media c) with ⟨error | reply, s'⟩ <;> rfl

theorem onMedia {program : MediaProgram α} (plain : program.Only MediaCall.Plain) :
    Mirrors env h input program (Download.onMedia program) := by
  intro s
  induction program generalizing s with
  | done value => rfl
  | throws error => rfl
  | hangs => rfl
  | call c next ih =>
    rw [run_call, whole_plain plain.1]
    exact ih _ (plain.2 _) _

theorem ffmpeg (inputPath : String) (output : Path) :
    Mirrors env h input (Media.ffmpeg inputPath output) (Download.ffmpeg input output) := by
  intro s
  rw [Media.ffmpeg, Media.invoke, Download.ffmpeg, Download.invoke, run_await, run_await, whole]
  rcases h s (.ffmpeg input output) with ⟨error | reply, s'⟩ <;> rfl

theorem cleanup (inputPath : String) : Mirrors env h input (Media.cleanup inputPath) (MediaDownload.cleanup input) := by
  intro s
  have quiet : ((MediaDownload.cleanup input).run h s).1 = .ok () := by
    cases input with
    | given path => rfl
    | temp file =>
      rw [MediaDownload.cleanup, Download.removeQuietly, run_catching, Download.remove, Download.invoke, run_await]
      rcases h s (.remove file) with ⟨error | reply, s'⟩ <;> rfl
  rw [Media.cleanup, Media.invoke, run_await, whole, quiet]

theorem runFfmpegTranscode (inputPath format : String) :
    Mirrors env h input (MediaProcessor.runFfmpegTranscode env.toFileEnv inputPath format)
      (MediaDownload.runFfmpegTranscode env input format) := by
  refine (media (c := .uuidv4) trivial).bind fun uuid => ?_
  refine (media (c := .ensureDir _) trivial).bind fun _ => ?_
  exact (ffmpeg inputPath _).bind fun _ => done _

end Mirrors

variable (env h s input) in
/-- A transcode of either level ends alike, in the same state. -/
theorem run_whole_transcodeInput (fileUrl format : String) :
    ∃ resolved, (MediaProcessor.transcodeInput env.toFileEnv fileUrl format).run (whole env h) (s, input) =
      (((transcodeInput env fileUrl format).run h s).1, ((transcodeInput env fileUrl format).run h s).2, resolved) := by
  have returns : (resolveMediaInput env fileUrl).Ends := ends_resolveMediaInput fileUrl
  have ends := returns.run h s
  have resolves := run_await (whole env h) (s := (s, input)) (.resolveMediaInput fileUrl)
  simp only [whole] at resolves
  simp only [MediaProcessor.transcodeInput, transcodeInput, bind_eq]
  rw [run_bind, run_bind, Media.resolveMediaInput, Media.invoke, resolves]
  cases ran : (resolveMediaInput env fileUrl).run h s with
  | mk outcome s' =>
    rw [ran] at ends
    cases outcome with
    | ok resolved =>
      have returns (result : Except Err String) :
          Mirrors env h resolved (.ofExcept result) (.ofExcept result) := by
        cases result <;> exact fun _ => rfl
      have transcodes (inputPath : String) :
          Mirrors env h resolved (MediaProcessor.runFfmpegTranscode env.toFileEnv inputPath format)
            (runFfmpegTranscode env resolved format) :=
        Mirrors.runFfmpegTranscode inputPath format
      have rest (inputPath : String) :=
        (transcodes inputPath).capture.bind fun result => (Mirrors.cleanup inputPath).bind fun _ => returns result
      exact ⟨resolved, rest resolved.text s'⟩
    | thrown error => exact ⟨input, rfl⟩
    | hung => exact absurd rfl ends

theorem plain_upload (name : String) : (MediaProcessor.upload env.toFileEnv name).Only MediaCall.Plain :=
  (only_upload_plain name).mono fun _ both => both.1

theorem plain_processImage (job : MediaJob) :
    (MediaProcessor.processImage env.toFileEnv job.fileUrl job.width job.height job.format job.filters).Only MediaCall.Plain := by
  have plain {c : MediaCall} (plain : c.Plain) : (Media.invoke c).Only MediaCall.Plain := only_await plain
  refine Only.bind (plain (c := .uuidv4) trivial) fun uuid => Only.bind (plain (c := .ensureDir _) trivial) fun _ => ?_
  refine Only.bind (plain (c := .readImage _) trivial) fun _ => Only.bind (only_ofExcept _) fun _ => ?_
  exact Only.bind (plain (c := .toFile _ _ _ _ _) trivial) fun _ => trivial

/-- An attempt of either level ends alike, in the same state. -/
theorem run_whole_process (job : MediaJob) :
    ∃ resolved, (MediaProcessor.process env.toFileEnv job).run (whole env h) (s, input) =
      (((process env job).run h s).1, ((process env job).run h s).2, resolved) := by
  have transcodes : ∃ resolved,
      ((MediaProcessor.transcodeInput env.toFileEnv job.fileUrl job.format).bind
        (MediaProcessor.upload env.toFileEnv)).run (whole env h) (s, input) =
      ((((transcodeInput env job.fileUrl job.format).bind fun name =>
          Download.onMedia (MediaProcessor.upload env.toFileEnv name)).run h s).1,
        (((transcodeInput env job.fileUrl job.format).bind fun name =>
          Download.onMedia (MediaProcessor.upload env.toFileEnv name)).run h s).2, resolved) := by
    obtain ⟨resolved, ran⟩ := run_whole_transcodeInput env h s input job.fileUrl job.format
    refine ⟨resolved, ?_⟩
    rw [run_bind, run_bind, ran]
    rcases (transcodeInput env job.fileUrl job.format).run h s with ⟨name | error | _, s'⟩
    · exact Mirrors.onMedia (plain_upload name) s'
    · rfl
    · rfl
  by_cases fails : job.failTest = true
  · refine ⟨input, ?_⟩
    simp [MediaProcessor.process, process, fails]
  · by_cases transcode : job.jobType = "video_transcode" ∨ job.jobType = "audio_transcode"
    · have upper : MediaProcessor.process env.toFileEnv job =
          (MediaProcessor.transcodeInput env.toFileEnv job.fileUrl job.format).bind
            (MediaProcessor.upload env.toFileEnv) := by
        rcases transcode with video | audio
        · simp [MediaProcessor.process, fails, video, MediaProcessor.processVideo]
        · simp [MediaProcessor.process, fails, audio, MediaProcessor.processAudio]
      rw [upper, process, if_neg fails, if_pos transcode]
      exact transcodes
    · have plain : (MediaProcessor.process env.toFileEnv job).Only MediaCall.Plain := by
        obtain ⟨video, audio⟩ := not_or.mp transcode
        rw [MediaProcessor.process, if_neg fails, if_neg video, if_neg audio]
        split
        · exact Only.bind (plain_processImage job) plain_upload
        · trivial
      refine ⟨input, ?_⟩
      rw [process, if_neg fails, if_neg transcode]
      exact Mirrors.onMedia plain s

end OrchestrateModel
