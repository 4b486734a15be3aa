import Orchestrate.Effect.Cooperative
import Orchestrate.Model.MediaFiles

namespace OrchestrateModel

open Effect Paths

/-- What a report job asks for, and what its PDF shows; a title or an author that is missing is empty. -/
structure Report where
  title : String
  generatedBy : String
  data : List String
  deriving DecidableEq, Repr

/-- What the report processor calls. The PDF of an attempt has the uuid that the attempt draws; it is opened and then
    written to its end. -/
inductive ReportCall : Type where
  | uuidv4
  | ensureTempDir
  | openPdf (uuid : Nat)
  | finishPdf (uuid : Nat) (report : Report)
  | stat (uuid : Nat)
  | ensureDir (path : Path)
  | copyFile (uuid : Nat) (destination : Path)
  | readFile (uuid : Nat)
  | putObject (key : String)
  | tempDirExists
  | removeTempDir

@[reducible] def ReportCall.Reply : ReportCall → Type
  | .uuidv4 | .stat _ => Nat
  | .tempDirExists => Bool
  | .ensureTempDir | .openPdf _ | .finishPdf _ _ | .ensureDir _ | .copyFile _ _ | .readFile _ | .putObject _
  | .removeTempDir => Unit

abbrev reportSignature : Signature := ⟨ReportCall, ReportCall.Reply⟩

abbrev ReportProgram := Program reportSignature Err

structure ReportEnv extends FileEnv where
  CLEAN_TEMP_FILES : Option String

namespace ReportProcessor

def MAX_FILE_SIZE_MB : Nat := 20

def invoke (call : ReportCall) : ReportProgram call.Reply := Program.await (S := reportSignature) call

def reportName (uuid : Nat) : String := uuidText uuid ++ ".pdf"

variable (env : ReportEnv)

def tempDir : Path := (Path.absolute env.cwd).join "generate_report"

def outputDir : Path := MediaProcessor.resolveLocalOutputDir env.toFileEnv "processed_report"

/-- The stream fails if it cannot open the file; its `finish` comes after the last page. -/
def generatePDF (report : Report) : ReportProgram Nat := do
  let uuid ← invoke .uuidv4
  invoke .ensureTempDir
  invoke (.openPdf uuid)
  invoke (.finishPdf uuid report)
  return uuid

def uploadFileLocal (uuid : Nat) : ReportProgram Unit := do
  invoke (.ensureDir (outputDir env))
  if (tempDir env).join (reportName uuid) ≠ (outputDir env).join (reportName uuid) then
    invoke (.copyFile uuid ((outputDir env).join (reportName uuid)))

def uploadFileS3 (uuid : Nat) : ReportProgram Unit := do
  invoke (.readFile uuid)
  invoke (.putObject (reportName uuid))

/-- The whole folder is removed, with what other attempts have in it. -/
def cleanUp : ReportProgram Unit := do
  let found ← invoke .tempDirExists
  if found then
    invoke .removeTempDir

def process (report : Report) : ReportProgram Unit :=
  if report.title = "" then .throws { message := "title is required" }
  else if report.generatedBy = "" then .throws { message := "generatdBty is required" }
  else do
    let uuid ← generatePDF report
    let size ← invoke (.stat uuid)
    if size > MAX_FILE_SIZE_MB * 1024 * 1024 then
      .throws { message := "Generated PDF exceeds allowed size limit" }
    else
      uploadFileLocal env uuid
      if env.USE_S3 = some "true" then
        uploadFileS3 uuid
      if env.CLEAN_TEMP_FILES = some "true" then
        cleanUp

end ReportProcessor

/-- The files of the temp folder, if there is one, and of the report directory. A file that is not written to its end
    has no content yet. -/
structure ReportFiles where
  temp : Option (List (Nat × Option Report))
  stored : List (Nat × Option Report)
  drawn : Nat
  deriving DecidableEq

/-- What happens in a turn: a new job, the size of its PDF, and whether the awaited call fails by itself. -/
structure ReportTurn where
  report : Report
  size : Nat := 1
  failed : Option Err := none

namespace ReportFiles

def ENOENT : Err := { message := "ENOENT: no such file or directory" }

/-- The content of a file of the temp folder. -/
def pdf? (s : ReportFiles) (uuid : Nat) : Option (Option Report) := s.temp.bind (List.lookup uuid)

/-- The report directory lies in the temp folder. -/
def inside (env : ReportEnv) : Bool :=
  ((ReportProcessor.tempDir env).location env.cwd).isPrefixOf ((ReportProcessor.outputDir env).location env.cwd)

def ensureTempDir (s : ReportFiles) : ReportFiles := { s with temp := some (s.temp.getD []) }

def openPdf (s : ReportFiles) (uuid : Nat) : ReportFiles := { s with temp := s.temp.map (· ++ [(uuid, none)]) }

def finishPdf (s : ReportFiles) (uuid : Nat) (report : Report) : ReportFiles :=
  { s with temp := s.temp.map fun files => files.map fun file => if file.1 = uuid then (uuid, some report) else file }

def store (s : ReportFiles) (uuid : Nat) : ReportFiles :=
  { s with stored := s.stored ++ ((s.pdf? uuid).map (uuid, ·)).toList }

def removeTempDir (env : ReportEnv) (s : ReportFiles) : ReportFiles :=
  { s with temp := none, stored := if inside env then [] else s.stored }

/-- A call on the file of an attempt needs the file; opening it needs the folder. -/
def serve (env : ReportEnv) (size : Nat) : Handler reportSignature Err ReportFiles
  | s, .uuidv4 => (.ok s.drawn, { s with drawn := s.drawn + 1 })
  | s, .ensureTempDir => (.ok (), s.ensureTempDir)
  | s, .openPdf uuid => if s.temp.isSome then (.ok (), s.openPdf uuid) else (.error ENOENT, s)
  | s, .finishPdf uuid report => (.ok (), s.finishPdf uuid report)
  | s, .stat uuid => if (s.pdf? uuid).isSome then (.ok size, s) else (.error ENOENT, s)
  | s, .ensureDir _ => (.ok (), if inside env then s.ensureTempDir else s)
  | s, .copyFile uuid _ => if (s.pdf? uuid).isSome then (.ok (), s.store uuid) else (.error ENOENT, s)
  | s, .readFile uuid => if (s.pdf? uuid).isSome then (.ok (), s) else (.error ENOENT, s)
  | s, .putObject _ => (.ok (), s)
  | s, .tempDirExists => (.ok s.temp.isSome, s)
  | s, .removeTempDir => (.ok (), removeTempDir env s)

end ReportFiles

def ReportCall.sync : ReportCall → Bool
  | .uuidv4 => true
  | _ => false

/-- A call that others may run before can fail by itself. -/
def ReportFiles.answer (env : ReportEnv) (turn : ReportTurn) : Handler reportSignature Err ReportFiles := fun s c =>
  if c.sync then serve env turn.size s c
  else
    match turn.failed with
    | some error => (.error error, s)
    | none => serve env turn.size s c

def reportLoop (env : ReportEnv) : Cooperation reportSignature Err ReportFiles ReportTurn where
  sync := ReportCall.sync
  arrive _ s := some s
  answer := ReportFiles.answer env

/-- Any number of attempts of report jobs in one process. -/
def reportWorkers (env : ReportEnv) : Machine (Pool reportSignature Err ReportFiles) (Turn × ReportTurn) :=
  (reportLoop env).machine fun turn => ReportProcessor.process env turn.report

end OrchestrateModel
