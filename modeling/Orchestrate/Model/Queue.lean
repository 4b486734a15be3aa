import Orchestrate.Model.Payload

namespace OrchestrateModel

def QUEUE_MAP : List (String × List String) :=
  [("media-jobs", ["video_transcode", "audio_transcode", "image_resize"]),
    ("etl-jobs", ["etl-jobs", "etl_import", "csv_parse"]),
    ("ml-jobs", ["ml-jobs", "model_inference", "embedding_generate", "text_summarization",
      "classification", "ocr"]),
    ("email-jobs", ["email-jobs", "send_email", "email_notification"]),
    ("report-jobs", ["report-jobs", "report_generate", "pdf_export"])]

def QUEUE_ALIASES : List (String × String) :=
  [("media-jobs", "media-jobs"), ("ml-jobs", "ml-jobs"), ("email-jobs", "email-jobs"),
    ("etl-jobs", "etl-jobs"), ("report-jobs", "report-jobs")]

/-- Members that every plain object inherits, with the text they convert to. A lookup such as
    `QUEUE_ALIASES[jobType]` answers to these names too. -/
def inheritedMembers : List (String × String) :=
  let method (name : String) := (name, "function " ++ name ++ "() { [native code] }")
  [("constructor", "function Object() { [native code] }"), method "__defineGetter__",
    method "__defineSetter__", method "hasOwnProperty", method "__lookupGetter__",
    method "__lookupSetter__", method "isPrototypeOf", method "propertyIsEnumerable",
    method "toString", method "valueOf", ("__proto__", "[object Object]"), method "toLocaleString"]

def resolveQueueName (jobType : String) : Except Err String :=
  match QUEUE_ALIASES.lookup jobType <|> inheritedMembers.lookup jobType with
  | some queueName => .ok queueName
  | none =>
    if ["image_resize", "video_transcode", "audio_transcode"].contains jobType then .ok "media-jobs"
    else if ["etl_import", "csv_parse", "etl-jobs"].contains jobType then .ok "etl-jobs"
    else if ["model_inference", "embedding_generate", "text_summarization", "classification", "ocr",
        "ml-jobs"].contains jobType then .ok "ml-jobs"
    else if ["send_email", "email_notification", "email-jobs"].contains jobType then .ok "email-jobs"
    else if ["report_generate", "pdf_export", "report-jobs"].contains jobType then .ok "report-jobs"
    else .error { message := "Unknown jobType: " ++ jobType }

def getQueueName (jobType : String) : Option String :=
  (QUEUE_MAP.find? fun entry => entry.2.contains jobType).map (·.1)

/-- A job type that `enqueue` can place in one of the queues. -/
def Routable (jobType : String) : Prop := ∃ queueName, getQueueName jobType = some queueName

instance (jobType : String) : Decidable (Routable jobType) :=
  decidable_of_iff ((getQueueName jobType).isSome = true) Option.isSome_iff_exists

theorem queue_map_resolves :
    ∀ entry ∈ QUEUE_MAP, ∀ jobType ∈ entry.2, (resolveQueueName jobType).toOption = some entry.1 := by
  decide

/-- Each type that `enqueue` can place also resolves, to the same queue. -/
theorem resolveQueueName_of_getQueueName {jobType queueName : String}
    (placed : getQueueName jobType = some queueName) : resolveQueueName jobType = .ok queueName := by
  obtain ⟨entry, found, rfl⟩ := Option.map_eq_some_iff.mp placed
  have listed : jobType ∈ entry.2 := by simpa using List.find?_some found
  have resolved := queue_map_resolves entry (List.mem_of_find?_eq_some found) jobType listed
  cases result : resolveQueueName jobType with
  | error error => simp [result, Except.toOption] at resolved
  | ok queueName => simpa [result, Except.toOption] using resolved

/-- The queue alias `media-jobs` resolves, but no queue lists it as a job type. -/
example : (resolveQueueName "media-jobs").toOption = some "media-jobs" ∧
    getQueueName "media-jobs" = none := by decide

def priorityMap : PriorityLevel → Nat
  | .HIGH => 1
  | .MEDIUM => 2
  | .LOW => 10
  | .NONE => 20

structure RepeatOptions where
  pattern : String
  jobId : Option Nat
  deriving DecidableEq, Repr

structure JobsOptions where
  attempts : Nat
  backoffDelay : Nat
  priority : Nat
  removeOnComplete : Bool
  removeOnFail : Bool
  repeat_ : Option RepeatOptions
  delay : Option Nat
  jobId : Option String
  deriving DecidableEq, Repr

/-- The options `enqueue` passes to `queue.add`. -/
def jobsOptions (payload : JobQueuePayload) : JobsOptions :=
  { attempts := payload.retries
    backoffDelay := 2000
    priority := payload.bullPriorityOverride.getD (priorityMap payload.priorityLevel)
    removeOnComplete := false
    removeOnFail := false
    repeat_ := if payload.isCron then payload.cron.map fun pattern =>
      { pattern := pattern, jobId := payload.recurringJobId } else none
    delay := if payload.isCron then none else payload.delayMs.filter (0 < ·)
    jobId := if !payload.isCron && truthy payload.idempotencyKey then payload.idempotencyKey else none }

end OrchestrateModel
