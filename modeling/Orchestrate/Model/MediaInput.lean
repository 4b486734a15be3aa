import Orchestrate.Effect.Cooperative
import Orchestrate.Effect.Fault
import Orchestrate.Model.MediaFiles

namespace OrchestrateModel

open Effect Paths

/-- A file of `media_input_temp`: the uuid it is named by, and its extension. -/
structure TempFile where
  uuid : Nat
  ext : String
  deriving DecidableEq, Repr

/-- What a transcode reads: a path as it was given, or a download. -/
inductive MediaInput : Type where
  | given (path : String)
  | temp (file : TempFile)
  deriving DecidableEq, Repr

/-- The calls of a media job with those of a download; `pipeline` writes the body of the response into the file. -/
inductive DownloadCall : Type where
  | media (call : MediaCall)
  | get (fileUrl : String)
  | pipeline (file : TempFile)
  | stat (file : TempFile)
  | remove (file : TempFile)
  | ffmpeg (input : MediaInput) (output : Path)

/-- A response has a length if its header is a finite number; `stat` returns a size. -/
@[reducible] def DownloadCall.Reply : DownloadCall → Type
  | .media call => call.Reply
  | .get _ => Option Int
  | .stat _ => Nat
  | .pipeline _ | .remove _ | .ffmpeg _ _ => Unit

abbrev downloadSignature : Signature := ⟨DownloadCall, DownloadCall.Reply⟩

abbrev DownloadProgram := Program downloadSignature Err

namespace Download

def invoke (call : DownloadCall) : DownloadProgram call.Reply := Program.await (S := downloadSignature) call

/-- The part of a job that touches no download. -/
def onMedia {α : Type} : MediaProgram α → DownloadProgram α
  | .done value => .done value
  | .throws error => .throws error
  | .hangs => .hangs
  | .call c next => Program.call (S := downloadSignature) (.media c) fun reply => onMedia (next reply)

def uuidv4 : DownloadProgram Nat := invoke (.media .uuidv4)

def ensureDir (path : Path) : DownloadProgram Unit := invoke (.media (.ensureDir path))

def get (fileUrl : String) : DownloadProgram (Option Int) := invoke (.get fileUrl)

def pipeline (file : TempFile) : DownloadProgram Unit := invoke (.pipeline file)

def stat (file : TempFile) : DownloadProgram Nat := invoke (.stat file)

def remove (file : TempFile) : DownloadProgram Unit := invoke (.remove file)

def ffmpeg (input : MediaInput) (output : Path) : DownloadProgram Unit := invoke (.ffmpeg input output)

/-- `fs.remove(file).catch(() => {})`. -/
def removeQuietly (file : TempFile) : DownloadProgram Unit := (remove file).catching fun _ => return ()

end Download

/-- The environment with what a download reads of it: `new URL(url).pathname`, and the HTTP status that an error of
    axios carries. -/
structure MediaEnv extends FileEnv where
  MAX_MEDIA_INPUT_SIZE : Nat
  pathname : String → Except Err String
  httpStatus : Err → Option Nat

/-- The regular expression `^https?:\/\/`, in either case. -/
def isHttpUrl (fileUrl : String) : Bool :=
  let letters := fileUrl.toList.map Char.toLower
  "http://".toList.isPrefixOf letters || "https://".toList.isPrefixOf letters

/-- `path.extname`: from the last dot of the last segment on, unless the segment begins with that dot. -/
def extname (text : String) : String :=
  let base := ((segments text).filter (· ≠ "")).getLast?.getD ""
  let letters := base.toList
  let ext := (letters.reverse.takeWhile (· ≠ '.')).reverse
  if base = ".." ∨ letters.length ≤ ext.length + 1 then "" else String.ofList ('.' :: ext)

namespace MediaDownload

variable (env : MediaEnv)

def formatDownloadError (err : Err) : String :=
  match env.httpStatus err with
  | some status => err.message ++ " (HTTP " ++ toString status ++ ")"
  | none => err.message

def tempExtension (urlPath : String) : String := if extname urlPath = "" then ".bin" else extname urlPath

/-- Write the response into the file; the file is not kept if that fails or if its size is not allowed. -/
def download (fileUrl : String) (temp : TempFile) : DownloadProgram Unit := do
  let contentLength ← (Download.get fileUrl).catching fun err =>
    .throws { message := "Failed to download media from URL: " ++ formatDownloadError env err }
  if contentLength.any fun (bytes : Int) => bytes > env.MAX_MEDIA_INPUT_SIZE then
    .throws { message := "Remote file too large (" ++ toString (contentLength.getD 0) ++ " bytes). Max "
      ++ toString env.MAX_MEDIA_INPUT_SIZE ++ " bytes allowed" }
  else
    (Download.pipeline temp).catching fun err => do
      Download.removeQuietly temp
      .throws { message := "Failed to save downloaded media: " ++ formatDownloadError env err }
    let size ← Download.stat temp
    if size = 0 then
      Download.removeQuietly temp
      .throws { message := "Downloaded media file is empty" }
    else if size > env.MAX_MEDIA_INPUT_SIZE then
      Download.removeQuietly temp
      .throws { message := "Downloaded file too large (" ++ toString size ++ " bytes). Max "
        ++ toString env.MAX_MEDIA_INPUT_SIZE ++ " bytes allowed" }

def resolveMediaInput (fileUrl : String) : DownloadProgram MediaInput :=
  if !isHttpUrl fileUrl then return .given fileUrl
  else do
    Download.ensureDir ((Path.absolute env.cwd).join "media_input_temp")
    let urlPath ← Program.ofExcept (env.pathname fileUrl)
    let uuid ← Download.uuidv4
    let temp : TempFile := { uuid := uuid, ext := tempExtension urlPath }
    download env fileUrl temp
    return .temp temp

def cleanup : MediaInput → DownloadProgram Unit
  | .given _ => return ()
  | .temp file => Download.removeQuietly file

def runFfmpegTranscode (input : MediaInput) (format : String) : DownloadProgram String := do
  let uuid ← Download.uuidv4
  let outputPath := env.mediaDir.join (MediaProcessor.outputFileName uuid format)
  Download.ensureDir outputPath.dirname
  Download.ffmpeg input outputPath
  return MediaProcessor.outputFileName uuid format

/-- The bodies of `processVideo` and `processAudio`. -/
def transcodeInput (fileUrl format : String) : DownloadProgram String := do
  let input ← resolveMediaInput env fileUrl
  let result ← (runFfmpegTranscode env input format).capture
  cleanup input
  .ofExcept result

def process (job : MediaJob) : DownloadProgram Unit :=
  if job.failTest then .throws { message := "Simulated faliure for testing" }
  else if job.jobType = "video_transcode" ∨ job.jobType = "audio_transcode" then
    (transcodeInput env job.fileUrl job.format).bind fun name => Download.onMedia (MediaProcessor.upload env.toFileEnv name)
  else Download.onMedia (MediaProcessor.process env.toFileEnv job)

end MediaDownload

/-- The downloads in `media_input_temp`, the other files that were written there, by their locations, and the number of
    uuids drawn. -/
structure TempDir where
  files : List TempFile
  outputs : List (List FileName)
  drawn : Nat
  deriving DecidableEq

/-- What happens in a turn: a new job, and how the awaited call ends. Where `pipeline` or `remove` fails, it may have
    written or removed the file; `written` is whether another call wrote its output, which a failing one may have begun. -/
structure MediaTurn where
  job : MediaJob
  replies : (call : MediaCall) → Except Err call.Reply
  length : Except Err (Option Int) := .ok none
  saved : Option (Fault Err) := none
  size : Except Err Nat := .ok 1
  removed : Option (Fault Err) := none
  transcoded : Except Err Unit := .ok ()
  written : Bool := true

/-- The file that a call writes. -/
def MediaCall.output? : MediaCall → Option Path
  | .ffmpeg _ output | .toFile _ _ _ _ output | .copyFile _ output => some output
  | .resolveMediaInput _ | .cleanup _ | .uuidv4 | .ensureDir _ | .readImage _ | .uploadFileS3 _ _ => none

def DownloadCall.output? : DownloadCall → Option Path
  | .media call => call.output?
  | .ffmpeg _ output => some output
  | .get _ | .pipeline _ | .stat _ | .remove _ => none

/-- Where in the temp folder an output lies, which a format or `MEDIA_OUTPUT_DIR` may lead there. -/
def tempLocation (env : MediaEnv) (output : Path) : Option (List FileName) :=
  let location := output.location env.cwd
  if Inside (((Path.absolute env.cwd).join "media_input_temp").location env.cwd) location then some location else none

namespace TempDir

def ENOENT : Err := { message := "ENOENT: no such file or directory" }

def add (s : TempDir) (file : TempFile) : TempDir := { s with files := s.files ++ [file] }

def drop (s : TempDir) (file : TempFile) : TempDir := { s with files := s.files.filter (· ≠ file) }

/-- A write of the file system that may fail before or after it has taken effect. -/
def attempt (fault : Option (Fault Err)) (s changed : TempDir) : Except Err Unit × TempDir :=
  match fault with
  | none => (.ok (), changed)
  | some fault => (.error fault.error, if fault.took then changed else s)

def reads (s : TempDir) : MediaInput → Bool
  | .given _ => true
  | .temp file => s.files.contains file

def write (env : MediaEnv) (turn : MediaTurn) (s : TempDir) : Option Path → TempDir
  | none => s
  | some output =>
    if turn.written then { s with outputs := s.outputs ++ (tempLocation env output).toList } else s

def answer (env : MediaEnv) (turn : MediaTurn) : Handler downloadSignature Err TempDir
  | s, .media .uuidv4 => (.ok s.drawn, { s with drawn := s.drawn + 1 })
  | s, .media call => (turn.replies call, s.write env turn call.output?)
  | s, .get _ => (turn.length, s)
  | s, .pipeline file => attempt turn.saved s (s.add file)
  | s, .stat file => (if s.files.contains file then turn.size else .error ENOENT, s)
  | s, .remove file => attempt turn.removed s (s.drop file)
  | s, .ffmpeg input output =>
    if s.reads input then (turn.transcoded, s.write env turn (some output)) else (.error ENOENT, s)

end TempDir

/-- JavaScript runs on without a turn of others when it draws a uuid. -/
def DownloadCall.sync : DownloadCall → Bool
  | .media .uuidv4 => true
  | _ => false

end OrchestrateModel
