import Orchestrate.Effect.Program
import Orchestrate.Model.Payload

namespace OrchestrateModel

open Effect

/-- A JSON value; a number is given by its text. -/
inductive Json : Type where
  | null
  | bool (value : Bool)
  | number (text : String)
  | string (text : String)
  | array (items : List Json)
  | object (fields : List (String × Json))

inductive NotificationStatus : Type where
  | PENDING | PROCESSING | SENT | FAILED
  deriving DecidableEq, Repr

/-- The columns that the processor gives to `notificationRepo.save`; the channel is always EMAIL. -/
structure NotificationColumns where
  jobId : String
  tenantId : TenantId
  userId : Option UserId
  recipient : String
  subject : Option String
  content : Option String
  status : NotificationStatus
  faliureReason : Option String
  referenceId : String
  deriving DecidableEq, Repr

structure Notification extends NotificationColumns where
  id : Nat
  providerMessageId : Option String := none
  sentAt : Option Nat := none
  deriving DecidableEq, Repr

/-- A partial update; a column that is not given stays as it is. -/
structure NotificationChange where
  status : NotificationStatus
  faliureReason : Option String := none
  providerMessageId : Option String := none
  sentAt : Option Nat := none
  deriving DecidableEq, Repr

def Notification.change (notification : Notification) (change : NotificationChange) : Notification :=
  { notification with
    status := change.status
    faliureReason := change.faliureReason <|> notification.faliureReason
    providerMessageId := change.providerMessageId <|> notification.providerMessageId
    sentAt := change.sentAt <|> notification.sentAt }

structure EmailPayload where
  recipient : String
  subject : Option String
  content : Option String
  referenceId : String
  deriving DecidableEq, Repr

structure SendEmailResponse where
  success : Bool
  providerMessageId : Option String := none
  errorMessage : Option String := none
  deriving DecidableEq, Repr

/-- The awaited calls of the email processor, with `uuidv4` and the clock. -/
inductive EmailCall : Type where
  | uuidv4
  | now
  | verify (email : String)
  | findOne (referenceId : String)
  | save (columns : NotificationColumns)
  | update (id : Nat) (change : NotificationChange)
  | send (payload : EmailPayload)

@[reducible] def EmailCall.Reply : EmailCall → Type
  | .uuidv4 => String
  | .now => Nat
  | .verify _ => Bool
  | .findOne _ => Option Notification
  | .save _ => Notification
  | .update _ _ => Unit
  | .send _ => SendEmailResponse

abbrev emailSignature : Signature := ⟨EmailCall, EmailCall.Reply⟩

abbrev EmailProgram := Program emailSignature Err

def awaitEmail (c : EmailCall) : EmailProgram c.Reply := Program.await (S := emailSignature) c

/-- How the JSON of a job's metadata reads as the destructured fields. -/
structure EmailFields where
  recipients : Metadata → Option Json
  subject : Metadata → Option String
  content : Metadata → Option String

/-- The package `validator`: it throws for what is no string. -/
structure Validator where
  isEmail : String → Bool
  typeError : Json → Err

namespace EmailProcessor

/-- The fields of a job that the loop reads. -/
structure Mailing where
  jobId : String
  tenantId : TenantId
  userId : Option UserId
  subject : Option String
  content : Option String

def referenceId (jobId recipient : String) : String := jobId ++ "-" ++ recipient

/-- `isValid`, `faliureReason` and `lastFailureReason` after both checks. -/
def check (validator : Validator) (recipient lastFailureReason : String) : EmailProgram (Bool × String × String) := do
  if validator.isEmail recipient then
    let isDeliverable : Bool ← awaitEmail (.verify recipient)
    if isDeliverable then return (true, "", lastFailureReason)
    else return (false, "email not deliverable (hunter)", "email not deliverable (hunter)")
  else return (false, "Invalid email", lastFailureReason)

/-- What follows once the row is there and the address is valid: whether the e-mail was sent, and `lastFailureReason`. -/
def attemptSend (mailing : Mailing) (recipient lastFailureReason : String) (notification : Notification) :
    EmailProgram (Bool × String) := do
  awaitEmail (.update notification.id { status := .PROCESSING })
  Program.catching
    (do
      let response : SendEmailResponse ← awaitEmail (.send
        { recipient := recipient, subject := mailing.subject, content := mailing.content, referenceId := "" })
      if response.success then
        let sentAt : Nat ← awaitEmail .now
        awaitEmail (.update notification.id
          { status := .SENT, providerMessageId := response.providerMessageId, sentAt := some sentAt })
        return (true, lastFailureReason)
      else
        .throws { message := if truthy response.errorMessage then response.errorMessage.getD ""
                             else "Email rejected by provider" })
    fun error => do
      awaitEmail (.update notification.id { status := .FAILED, faliureReason := some error.message })
      return (false, error.message)

/-- The body of the loop over `recipients`, for a string. -/
def deliver (validator : Validator) (mailing : Mailing) (recipient lastFailureReason : String) :
    EmailProgram (Bool × String) := do
  let (isValid, faliureReason, lastFailureReason) ← check validator recipient lastFailureReason
  let referenceId := referenceId mailing.jobId recipient
  let notification : Option Notification ← awaitEmail (.findOne referenceId)
  match notification with
  | none =>
    let notification : Notification ← awaitEmail (.save
      { jobId := mailing.jobId
        tenantId := mailing.tenantId
        userId := mailing.userId
        recipient := recipient
        subject := mailing.subject
        content := mailing.content
        status := if isValid then .PENDING else .FAILED
        faliureReason := if isValid then none else some faliureReason
        referenceId := referenceId })
    if isValid then attemptSend mailing recipient lastFailureReason notification
    else return (false, if faliureReason = "" then lastFailureReason else faliureReason)
  | some notification =>
    if isValid then attemptSend mailing recipient lastFailureReason notification
    else
      awaitEmail (.update notification.id { status := .FAILED, faliureReason := some faliureReason })
      return (false, lastFailureReason)

/-- The loop: `validEmailsSent` and `lastFailureReason`. -/
def deliverAll (validator : Validator) (mailing : Mailing) : List Json → Nat → String → EmailProgram (Nat × String)
  | [], validEmailsSent, lastFailureReason => return (validEmailsSent, lastFailureReason)
  | .string recipient :: rest, validEmailsSent, lastFailureReason => do
    let (sent, lastFailureReason) ← deliver validator mailing recipient lastFailureReason
    deliverAll validator mailing rest (if sent then validEmailsSent + 1 else validEmailsSent) lastFailureReason
  | recipient :: _, _, _ => .throws (validator.typeError recipient)

/-- `process` for a job with the BullMQ id `id`. -/
def process (validator : Validator) (fields : EmailFields) (id : Option String) (data : JobQueuePayload) :
    EmailProgram Unit := do
  let jobId : String ← match id with
    | some id => Program.done id
    | none => awaitEmail .uuidv4
  if data.tenantId = "" then
    .throws { message := "Email job missing tenantId in queue payload" }
  match fields.recipients data.metadata with
  | some (.array (first :: rest)) =>
    let mailing : Mailing :=
      { jobId := jobId, tenantId := data.tenantId, userId := data.userId, subject := fields.subject data.metadata,
        content := fields.content data.metadata }
    let (validEmailsSent, lastFailureReason) ← deliverAll validator mailing (first :: rest) 0 ""
    if validEmailsSent = 0 then
      .throws { message := if lastFailureReason ≠ "" then "email delivery failed: " ++ lastFailureReason
                           else "no valid recipients — all addresses failed validation or delivery" }
  | _ => .throws { message := "No recipients provided for email job" }

end EmailProcessor

/-- The table of notifications, how often something outside was asked, and the recipients whose e-mails the provider
    took. -/
structure Mailbox where
  notifications : List Notification
  drawn : Nat
  asked : Nat
  delivered : List String

/-- What is decided outside, by the number of the question. -/
structure Outside where
  uuidv4 : Nat → String
  now : Nat → Nat
  deliverable : Nat → Bool
  response : Nat → Except Err SendEmailResponse

namespace Mailbox

def row? (s : Mailbox) (referenceId : String) : Option Notification :=
  s.notifications.find? fun notification => notification.referenceId = referenceId

def status (s : Mailbox) (referenceId : String) : Option NotificationStatus := (s.row? referenceId).map (·.status)

def update (s : Mailbox) (id : Nat) (change : NotificationChange) : Mailbox :=
  { s with notifications := s.notifications.map fun notification =>
      if notification.id = id then notification.change change else notification }

def insert (s : Mailbox) (columns : NotificationColumns) : Mailbox :=
  { s with notifications := s.notifications ++ [{ columns with id := s.drawn }], drawn := s.drawn + 1 }

def notNull (column : String) : Err :=
  { name := "QueryFailedError"
    message := "null value in column \"" ++ column ++ "\" of relation \"notifications\" violates not-null constraint" }

/-- What the constraints of the entity refuse: `userId` and `content` may not be null, and there is one row of a job, a
    recipient and a channel, and one of a reference. -/
def refuses (s : Mailbox) (columns : NotificationColumns) : Option Err :=
  if columns.userId = none then some (notNull "userId")
  else if columns.content = none then some (notNull "content")
  else if s.notifications.any fun row =>
      (row.jobId = columns.jobId && row.recipient = columns.recipient) || row.referenceId = columns.referenceId then
    some { name := "QueryFailedError", message := "duplicate key value violates unique constraint" }
  else none

/-- A refused row is not written. -/
def save (s : Mailbox) (columns : NotificationColumns) : Except Err Notification × Mailbox :=
  match s.refuses columns with
  | some error => (.error error, s)
  | none => (.ok { columns with id := s.drawn }, s.insert columns)

/-- No statement fails but for the constraints of the table. -/
def serve (outside : Outside) : Handler emailSignature Err Mailbox
  | s, .uuidv4 => (.ok (outside.uuidv4 s.asked), { s with asked := s.asked + 1 })
  | s, .now => (.ok (outside.now s.asked), { s with asked := s.asked + 1 })
  | s, .verify _ => (.ok (outside.deliverable s.asked), { s with asked := s.asked + 1 })
  | s, .findOne referenceId => (.ok (s.row? referenceId), s)
  | s, .save columns => s.save columns
  | s, .update id change => (.ok (), s.update id change)
  | s, .send payload =>
    (outside.response s.asked,
      { s with
        asked := s.asked + 1
        delivered := match outside.response s.asked with
          | .ok response => if response.success then s.delivered ++ [payload.recipient] else s.delivered
          | .error _ => s.delivered })

end Mailbox
end OrchestrateModel
