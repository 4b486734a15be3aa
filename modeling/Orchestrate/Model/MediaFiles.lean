import Orchestrate.Effect.Program
import Orchestrate.Model.Payload
import Orchestrate.Model.Queue
import Orchestrate.Paths.Walk

namespace OrchestrateModel

open Effect Paths

/-- A segment that names an entry of a directory. -/
def NamesEntry (segment : String) : Prop := '/' ∉ segment.toList ∧ segment ≠ "" ∧ segment ≠ "." ∧ segment ≠ ".."

instance (segment : String) : Decidable (NamesEntry segment) := inferInstanceAs (Decidable (_ ∧ _ ∧ _ ∧ _))

structure FileName where
  text : String
  names : NamesEntry text
  deriving DecidableEq

/-- Empty segments and `.` lead nowhere. -/
def pathStep (segment : String) : Option (Step FileName) :=
  if segment = ".." then some .up
  else if names : NamesEntry segment then some (.down ⟨segment, names⟩)
  else none

def segments (text : String) : List String := (text.toList.splitOn '/').map String.ofList

def pathSteps (text : String) : List (Step FileName) := (segments text).filterMap pathStep

/-- A normalized path; a slash at its end makes no difference. -/
inductive Path : Type where
  | absolute (names : List FileName)
  | relative (r : Relative FileName)
  deriving DecidableEq

namespace Path

def push : Path → Step FileName → Path
  | .absolute names, step => .absolute (walk names [step])
  | .relative r, step => .relative (r.step step)

/-- `path.join(p, text)`. -/
def join (p : Path) (text : String) : Path := (pathSteps text).foldl push p

def ofText (text : String) : Path :=
  if text.toList.head? = some '/' then (Path.absolute []).join text else (Path.relative { up := 0, names := [] }).join text

def dirname : Path → Path
  | .absolute names => .absolute names.dropLast
  | .relative r => .relative (if r.names.isEmpty then { r with up := r.up - 1 } else { r with names := r.names.dropLast })

def basename : Path → String
  | .absolute names => (names.getLast?.map FileName.text).getD ""
  | .relative r => (r.names.getLast?.map FileName.text).getD (if r.up = 0 then "" else "..")

/-- The names from the root, for a process in `cwd`. -/
def location (cwd : List FileName) : Path → List FileName
  | .absolute names => names
  | .relative r => r.lead cwd

end Path

/-- The environment of a process, which has an absolute working directory. -/
structure FileEnv where
  cwd : List FileName
  MEDIA_OUTPUT_DIR : Option String
  REPORT_OUTPUT_DIR : Option String
  USE_S3 : Option String

namespace FileEnv

variable (env : FileEnv)

/-- `process.env.X || path.join(process.cwd(), folder)`. -/
def configured (value : Option String) (folder : String) : Path :=
  match value with
  | none => (Path.absolute env.cwd).join folder
  | some text => if text = "" then (Path.absolute env.cwd).join folder else Path.ofText text

def mediaDir : Path := env.configured env.MEDIA_OUTPUT_DIR "processed_media"

def reportDir : Path := env.configured env.REPORT_OUTPUT_DIR "processed_report"

end FileEnv

/-- What the media processor calls. The input of a transcode comes from a download into a directory of its own, or it is
    the given path. -/
inductive MediaCall : Type where
  | resolveMediaInput (fileUrl : String)
  | cleanup (inputPath : String)
  | uuidv4
  | ensureDir (path : Path)
  | ffmpeg (inputPath : String) (output : Path)
  | readImage (fileUrl : String)
  | toFile (width height : Int) (format : String) (filters : List String) (output : Path)
  | copyFile (source destination : Path)
  | uploadFileS3 (path : Path) (filename : String)

@[reducible] def MediaCall.Reply : MediaCall → Type
  | .resolveMediaInput _ => String
  | .uuidv4 => Nat
  | .cleanup _ | .ensureDir _ | .ffmpeg _ _ | .readImage _ | .toFile _ _ _ _ _ | .copyFile _ _ | .uploadFileS3 _ _ => Unit

abbrev mediaSignature : Signature := ⟨MediaCall, MediaCall.Reply⟩

abbrev MediaProgram := Program mediaSignature Err

namespace Media

def invoke (call : MediaCall) : MediaProgram call.Reply := Program.await (S := mediaSignature) call

def resolveMediaInput (fileUrl : String) : MediaProgram String := invoke (.resolveMediaInput fileUrl)

def cleanup (inputPath : String) : MediaProgram Unit := invoke (.cleanup inputPath)

def uuidv4 : MediaProgram Nat := invoke .uuidv4

def ensureDir (path : Path) : MediaProgram Unit := invoke (.ensureDir path)

def ffmpeg (inputPath : String) (output : Path) : MediaProgram Unit := invoke (.ffmpeg inputPath output)

def readImage (fileUrl : String) : MediaProgram Unit := invoke (.readImage fileUrl)

def toFile (width height : Int) (format : String) (filters : List String) (output : Path) : MediaProgram Unit :=
  invoke (.toFile width height format filters output)

def copyFile (source destination : Path) : MediaProgram Unit := invoke (.copyFile source destination)

def uploadFileS3 (path : Path) (filename : String) : MediaProgram Unit := invoke (.uploadFileS3 path filename)

end Media

/-- A media job; a width or height that is missing is 0. -/
structure MediaJob where
  jobType : String
  failTest : Bool
  fileUrl : String
  format : String
  width : Int
  height : Int
  filters : List String

namespace MediaProcessor

def MAX_WIDTH : Int := 5000

def MAX_HEIGHT : Int := 5000

def ALLOWED_FORMATS : List String := ["jpeg", "png", "jpg", "webp"]

def ALLOWED_FILTERS : List String := ["grayscale", "rotate", "flip", "flop", "blur"]

def outputFileName (uuid : Nat) (format : String) : String := uuidText uuid ++ "." ++ format

section Env

variable (env : FileEnv)

def runFfmpegTranscode (inputPath format : String) : MediaProgram String := do
  let uuid ← Media.uuidv4
  let outputPath := env.mediaDir.join (outputFileName uuid format)
  Media.ensureDir outputPath.dirname
  Media.ffmpeg inputPath outputPath
  return outputFileName uuid format

/-- Transcode an input and clean it up on both paths. -/
def transcodeInput (fileUrl format : String) : MediaProgram String := do
  let inputPath ← Media.resolveMediaInput fileUrl
  let result ← (runFfmpegTranscode env inputPath format).capture
  Media.cleanup inputPath
  .ofExcept result

def processVideo (fileUrl format : String) : MediaProgram String := transcodeInput env fileUrl format

def processAudio (fileUrl format : String) : MediaProgram String := transcodeInput env fileUrl format

def validateImageInput (width height : Int) (format : String) (filters : List String) : Except Err Unit :=
  if width = 0 ∨ height = 0 then .error { message := "width and height are required" }
  else if width > MAX_WIDTH ∨ height > MAX_HEIGHT then .error { message := "dimensions exceed max 5000px" }
  else if format ∉ ALLOWED_FORMATS then .error { message := "Unsupported format : " ++ format }
  else
    match filters.find? fun filter => filter.toLower ∉ ALLOWED_FILTERS with
    | some filter => .error { message := "Unsupported filter: " ++ filter }
    | none => .ok ()

def processImage (fileUrl : String) (width height : Int) (format : String) (filters : List String) :
    MediaProgram String := do
  let uuid ← Media.uuidv4
  let outputPath := env.mediaDir.join (outputFileName uuid format)
  Media.ensureDir outputPath.dirname
  Media.readImage fileUrl
  Program.ofExcept (validateImageInput width height format filters)
  Media.toFile width height format filters outputPath
  return outputFileName uuid format

def resolveLocalOutputDir (folder : String) : Path :=
  if folder = "processed_media" then env.configured env.MEDIA_OUTPUT_DIR folder
  else if folder = "processed_report" then env.configured env.REPORT_OUTPUT_DIR folder
  else (Path.absolute env.cwd).join folder

def uploadFileLocal (filePath : Path) (folder : String) : MediaProgram Unit := do
  let fileName := filePath.basename
  let localDir := resolveLocalOutputDir env folder
  Media.ensureDir localDir
  let destinationPath := localDir.join fileName
  if filePath ≠ destinationPath then
    Media.copyFile filePath destinationPath

/-- What follows the switch over the job types. The path of the output is never another one, so nothing is removed. -/
def upload (outputFileName : String) : MediaProgram Unit := do
  let fullOutputPath := env.mediaDir.join outputFileName
  uploadFileLocal env fullOutputPath "processed_media"
  if env.USE_S3 = some "true" then
    Media.uploadFileS3 fullOutputPath outputFileName

def process (job : MediaJob) : MediaProgram Unit :=
  if job.failTest then .throws { message := "Simulated faliure for testing" }
  else if job.jobType = "video_transcode" then (processVideo env job.fileUrl job.format).bind (upload env)
  else if job.jobType = "audio_transcode" then (processAudio env job.fileUrl job.format).bind (upload env)
  else if job.jobType = "image_resize" then
    (processImage env job.fileUrl job.width job.height job.format job.filters).bind (upload env)
  else .throws { message := "Unknown job type: " ++ job.jobType }

end Env
end MediaProcessor

/-- What the controllers of output files call. -/
inductive ServeCall : Type where
  | existsSync (path : Path)
  | sendFile (path : Path)

@[reducible] def ServeCall.Reply : ServeCall → Type
  | .existsSync _ => Bool
  | .sendFile _ => Unit

abbrev serveSignature : Signature := ⟨ServeCall, ServeCall.Reply⟩

abbrev ServeProgram := Program serveSignature Err

namespace Serve

def invoke (call : ServeCall) : ServeProgram call.Reply := Program.await (S := serveSignature) call

def existsSync (path : Path) : ServeProgram Bool := invoke (.existsSync path)

def sendFile (path : Path) : ServeProgram Unit := invoke (.sendFile path)

/-- Send the file of a path if there is one. -/
def send (filePath : Path) : ServeProgram Unit := do
  let found ← existsSync filePath
  if !found then
    .throws { name := "NotFoundException", message := "File not found" }
  else sendFile filePath

end Serve

def MediaController.getFile (env : FileEnv) (filename : String) : ServeProgram Unit :=
  Serve.send (((Path.absolute env.cwd).join "processed_media").join filename)

def ReportController.getFile (env : FileEnv) (filename : String) : ServeProgram Unit :=
  Serve.send (env.reportDir.join filename)

end OrchestrateModel
