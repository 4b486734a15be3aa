import Orchestrate.Effect.Cooperative
import Orchestrate.Model.Payload
import Orchestrate.Text.Words

namespace OrchestrateModel

open Effect

/-- What an ML job reads of its metadata. -/
structure MLJob where
  taskType : Option String
  input : Option String
  deriving DecidableEq, Repr

/-- `String.length`, in UTF-16 code units. -/
def jsLength (text : String) : Nat := text.toList.foldl (fun n c => n + if c.toNat < 0x10000 then 1 else 2) 0

/-- The white space and the line terminators of JavaScript, as `\s` and `trim` have them. -/
def isWhite (c : Char) : Bool :=
  (9 ≤ c.toNat && c.toNat ≤ 13) || (0x2000 ≤ c.toNat && c.toNat ≤ 0x200a) ||
    [0x20, 0xa0, 0x1680, 0x2028, 0x2029, 0x202f, 0x205f, 0x3000, 0xfeff].contains c.toNat

/-- The calls of an inference that reach the network, an image, a model or the job; models are numbered. -/
inductive MLCall : Type where
  | get (imageUrl : String)
  | preprocess (image : String)
  | classifier
  | train
  | keepClassifier (classifier : Nat)
  | ocrWorker
  | createWorker
  | keepOCRWorker (worker : Nat)
  | recognize (worker : Nat) (image : String)
  | timer
  | attach (job : MLJob) (prediction : String)

@[reducible] def MLCall.Reply : MLCall → Type
  | .get _ | .preprocess _ | .recognize _ _ => String
  | .classifier | .ocrWorker => Option Nat
  | .train | .createWorker => Nat
  | .timer => Bool
  | .keepClassifier _ | .keepOCRWorker _ | .attach _ _ => Unit

abbrev mlSignature : Signature := ⟨MLCall, MLCall.Reply⟩

abbrev MLProgram := Program mlSignature Err

namespace ML

def invoke (call : MLCall) : MLProgram call.Reply := Program.await (S := mlSignature) call

def get (imageUrl : String) : MLProgram String := invoke (.get imageUrl)

/-- `sharp(buffer).grayscale().normalize().toBuffer()`. -/
def preprocess (image : String) : MLProgram String := invoke (.preprocess image)

def recognize (worker : Nat) (image : String) : MLProgram String := invoke (.recognize worker image)

def attach (job : MLJob) (prediction : String) : MLProgram Unit := invoke (.attach job prediction)

end ML

namespace ModelLoader

/-- A classifier is trained without a turn of others. -/
def getClassifier : MLProgram Nat := do
  match ← (ML.invoke .classifier : MLProgram (Option Nat)) with
  | some classifier => return classifier
  | none =>
    let classifier ← (ML.invoke .train : MLProgram Nat)
    (ML.invoke (.keepClassifier classifier) : MLProgram Unit)
    return classifier

/-- Others have their turn while the worker is created. -/
def getOCRWorker : MLProgram Nat := do
  match ← (ML.invoke .ocrWorker : MLProgram (Option Nat)) with
  | some worker => return worker
  | none =>
    let worker ← (ML.invoke .createWorker : MLProgram Nat)
    (ML.invoke (.keepOCRWorker worker) : MLProgram Unit)
    return worker

end ModelLoader

namespace SummarizerEngine

/-- `sentences.slice(0, Math.ceil(sentences.length / 2)).join(". ")`, after `text.split(". ")`. -/
def summary (text : String) : String :=
  let sentences := Text.pieces '.' ' ' text.toList
  String.ofList (['.', ' '].intercalate (sentences.take ((sentences.length + 1) / 2)))

def run (text : String) : MLProgram String :=
  if text = "" ∨ jsLength text < 20 then .throws { message := "Input text is too short to summarize" }
  else return summary text

end SummarizerEngine

namespace ClassifierEngine

/-- Every classifier is trained on the same two documents, so `classify` is a function of the text. -/
def run (classify : String → String) (text : String) : MLProgram String := do
  let _classifier ← ModelLoader.getClassifier
  return classify text

end ClassifierEngine

namespace OCREngine

/-- `[a-zA-Z0-9\s.,!?]`. -/
def allowed (c : Char) : Bool :=
  c.isAlphanum || isWhite c || c = '.' || c = ',' || c = '!' || c = '?'

/-- The four replacements of the recognized text: what is not ASCII, then what is not allowed, then the runs of white
    space, then the ends. -/
def cleaned (text : String) : String :=
  let ascii := text.toList.filter fun c => c.toNat ≤ 0x7f
  String.ofList (Text.trim isWhite (Text.squeeze isWhite ' ' (ascii.filter allowed)))

def run (imageUrl : String) : MLProgram String := do
  let buffer ← ML.get imageUrl
  let preprocessedBuffer ← ML.preprocess buffer
  let worker ← ModelLoader.getOCRWorker
  let text ← ML.recognize worker preprocessedBuffer
  return cleaned text

end OCREngine

namespace MLProcessor

def MAX_INPUT_SIZE : Nat := 10000

variable (classify : String → String)

def inference (taskType input : String) : MLProgram String :=
  match taskType with
  | "text_summarization" => SummarizerEngine.run input
  | "classification" => ClassifierEngine.run classify input
  | "ocr" => OCREngine.run input
  | _ => .throws { message := "Unsupported task type: " ++ taskType }

/-- The attempt fails once its time is over, but the inference runs on to its end; what it comes to is dropped then. -/
def pTimeout (running : MLProgram String) : MLProgram String := do
  let result ← running.capture
  if ← (ML.invoke .timer : MLProgram Bool) then
    .throws { name := "TimeoutError", message := "Promise timed out after 3000 milliseconds" }
  else .ofExcept result

def process (job : MLJob) : MLProgram Unit :=
  let taskType := job.taskType.getD ""
  let input := job.input.getD ""
  if taskType = "" then .throws { message := "taskType is required" }
  else if input = "" then .throws { message := "input is required" }
  else if jsLength input > MAX_INPUT_SIZE then .throws { message := "Input too large" }
  else do
    let prediction ← pTimeout (inference classify taskType input)
    ML.attach job prediction

end MLProcessor

/-- The statics of `ModelLoader`, how many models there have been, and the predictions attached to jobs. -/
structure Models where
  classifier : Option Nat := none
  trained : Nat := 0
  ocrWorker : Option Nat := none
  created : Nat := 0
  predictions : List (MLJob × String) := []
  deriving DecidableEq, Repr

/-- What happens in a turn: a new job, how the awaited call ends, and whether the attempt's time is over. -/
structure MLTurn where
  job : MLJob
  image : Except Err String := .ok ""
  preprocessed : Except Err String := .ok ""
  refused : Option Err := none
  text : Except Err String := .ok ""
  timedOut : Bool := false

namespace Models

def answer (turn : MLTurn) : Handler mlSignature Err Models
  | s, .get _ => (turn.image, s)
  | s, .preprocess _ => (turn.preprocessed, s)
  | s, .classifier => (.ok s.classifier, s)
  | s, .train => (.ok s.trained, { s with trained := s.trained + 1 })
  | s, .keepClassifier classifier => (.ok (), { s with classifier := some classifier })
  | s, .ocrWorker => (.ok s.ocrWorker, s)
  | s, .createWorker =>
    match turn.refused with
    | some err => (.error err, s)
    | none => (.ok s.created, { s with created := s.created + 1 })
  | s, .keepOCRWorker worker => (.ok (), { s with ocrWorker := some worker })
  | s, .recognize _ _ => (turn.text, s)
  | s, .timer => (.ok turn.timedOut, s)
  | s, .attach job prediction => (.ok (), { s with predictions := s.predictions ++ [(job, prediction)] })

end Models

/-- The calls that the process waits for; all others return at once. -/
def MLCall.sync : MLCall → Bool
  | .get _ | .preprocess _ | .createWorker | .recognize _ _ => false
  | _ => true

def mlLoop : Cooperation mlSignature Err Models MLTurn where
  sync := MLCall.sync
  arrive _ s := some s
  answer := Models.answer

/-- Any number of inferences in one process: those of its workers, and those whose attempts are over. -/
def mlWorkers (classify : String → String) : Machine (Pool mlSignature Err Models) (Turn × MLTurn) :=
  mlLoop.machine fun turn => MLProcessor.process classify turn.job

end OrchestrateModel
