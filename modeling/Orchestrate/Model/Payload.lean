namespace OrchestrateModel

abbrev TenantId := String
abbrev UserId := String
abbrev WorkFlowId := Nat

/-- Row ids are drawn by the database; the n-th drawn uuid is `n`. -/
abbrev JobId := Nat

def uuidText (id : Nat) : String := "uuid-" ++ toString id

theorem uuidText_inj {a b : Nat} (same : uuidText a = uuidText b) : a = b := by
  have texts : Nat.repr a = Nat.repr b := by simpa [uuidText] using same
  have digits := congrArg String.toList texts
  simp only [Nat.repr_eq_ofList_toDigits, String.toList_ofList] at digits
  calc a = Nat.ofDigitChars 10 (Nat.toDigits 10 a) 0 := (Nat.ofDigitChars_toDigits (by decide) (by decide)).symm
    _ = Nat.ofDigitChars 10 (Nat.toDigits 10 b) 0 := by rw [digits]
    _ = b := Nat.ofDigitChars_toDigits (by decide) (by decide)

theorem uuidText_ne_empty (id : Nat) : uuidText id ≠ "" := by
  intro empty
  have length := congrArg String.length empty
  simp [uuidText, String.length_append] at length

inductive JobStatus : Type where
  | QUEUED | PROCESSING | COMPLETED | FAILED | SCHEDULED | SKIPPED | PENDING
  | WAITING_FOR_DEPENDENCIES | READY | STAGED
  deriving DecidableEq, Repr

inductive PriorityLevel : Type where
  | HIGH | MEDIUM | LOW | NONE
  deriving DecidableEq, Repr

inductive FaliureStrategy : Type where
  | STRICT | LENIENT
  deriving DecidableEq, Repr

/-- A thrown error. -/
structure Err where
  name : String := "Error"
  message : String
  deriving DecidableEq, Repr

/-- A JSON object column: field names with the JSON text of their values. -/
abbrev Metadata := List (String × String)

/-- JavaScript's truth value of an optional string. -/
def truthy : Option String → Bool
  | some text => text != ""
  | none => false

/-- `{ ...base, name: text }`. -/
def Metadata.withField (base : Metadata) (name text : String) : Metadata :=
  base.filter (fun field => field.1 != name) ++ [(name, text)]

structure JobQueuePayload where
  jobId : JobId
  jobType : String
  tenantId : TenantId
  userId : Option UserId := none
  priorityLevel : PriorityLevel := .NONE
  retries : Nat := 3
  metadata : Metadata := []
  delayMs : Option Nat := none
  cron : Option String := none
  idempotencyKey : Option String := none
  recurringJobId : Option Nat := none
  bullPriorityOverride : Option Nat := none
  queueName : String
  deriving DecidableEq, Repr

/-- Registered through `options.repeat`, so BullMQ starts its runs by itself. -/
def JobQueuePayload.isCron (payload : JobQueuePayload) : Bool := truthy payload.cron

end OrchestrateModel
