import PushDelivery.Notification.Job

/-!
# Outcomes and reports

Every job that is not a duplicate ends in one report on the status queue, and a job that could not
be completed also in a dead letter on the failed queue.

## Main definitions

* `Outcome`: what became of one device.
* `Status`: what became of a job, with `Status.ofCounts` deciding it.
* `Report`, `DeadLetter`: the two messages.

## The wire names of a status

Consumers of the status queue know three names. A partial delivery is written as delivered, and its
counts tell the split; what is read back is therefore never a partial delivery.
-/

namespace PushDelivery

/-- What became of one device. -/
structure Outcome where
  deviceToken : String
  success : Bool
  error : Option String
  messageId : Option String
  sentAt : Moment
  correlationId : Option String
  deriving DecidableEq, Repr, Inhabited

namespace Outcome

/-- The fields of an outcome in the order of the message. -/
def names : List String :=
  ["device_token", "success", "error", "message_id", "sent_at", "correlation_id"]

/-- An outcome as a value. -/
def json (o : Outcome) : Json :=
  .record [
    Json.always "device_token" (.str o.deviceToken),
    Json.always "success" (.bool o.success),
    Json.ifSome "error" o.error .str,
    Json.ifSome "message_id" o.messageId .str,
    Json.always "sent_at" o.sentAt.json,
    Json.ifSome "correlation_id" o.correlationId .str]

/-- The outcome that a document holds. -/
def ofDocument? (d : Document) : Option Outcome := do
  let f ← d.record? names
  pure {
    deviceToken := ← f.required "device_token" Document.text?
    success := ← f.required "success" Document.bool?
    error := ← f.optional "error" Document.text?
    messageId := ← f.optional "message_id" Document.text?
    sentAt := ← f.required "sent_at" Document.moment?
    correlationId := ← f.optional "correlation_id" Document.text? }

/-- A device that was reached. -/
def delivered (token messageId : String) (now : Moment) : Outcome :=
  { deviceToken := token, success := true, error := none, messageId := some messageId
    sentAt := now, correlationId := none }

/-- A device that was not reached. -/
def failed (token error : String) (now : Moment) : Outcome :=
  { deviceToken := token, success := false, error := some error, messageId := none
    sentAt := now, correlationId := none }

end Outcome

/-- What became of a job. -/
inductive Status
  | delivered
  | partiallyDelivered
  | pending
  | failed
  deriving DecidableEq, Repr, Inhabited

namespace Status

/-- The status of a job by the numbers of devices reached and not reached. -/
def ofCounts (sent failed : Nat) : Status :=
  if sent = 0 then .failed
  else if failed = 0 then .delivered
  else .partiallyDelivered

/-- The name of a status. -/
def name : Status → String
  | .delivered => "delivered"
  | .partiallyDelivered => "partially_delivered"
  | .pending => "pending"
  | .failed => "failed"

/-- The name of a status in a message. -/
def wireName : Status → String
  | .delivered | .partiallyDelivered => "delivered"
  | .pending => "pending"
  | .failed => "failed"

/-- The names that are read. -/
def choices : List (String × Status) :=
  [("delivered", .delivered), ("pending", .pending), ("failed", .failed)]

/-- A status as a value. -/
def json (s : Status) : Json := .str s.wireName

/-- The status that a document names. -/
def ofDocument? (d : Document) : Option Status := d.choice? choices

end Status

/-- The report on a finished job. -/
structure Report where
  notificationId : String
  requestId : Option String
  userId : String
  status : Status
  message : String
  sentCount : Nat
  failedCount : Nat
  results : List Outcome
  error : Option String
  timestamp : Moment
  correlationId : Option String
  deriving DecidableEq, Repr, Inhabited

namespace Report

/-- The fields of a report in the order of the message. -/
def names : List String :=
  ["notification_id", "request_id", "user_id", "status", "message", "sent_count", "failed_count",
    "results", "error", "timestamp", "correlation_id"]

/-- A report as a value; a missing error is written as null. -/
def json (r : Report) : Json :=
  .record [
    Json.always "notification_id" (.str r.notificationId),
    Json.ifSome "request_id" r.requestId .str,
    Json.always "user_id" (.str r.userId),
    Json.always "status" r.status.json,
    Json.always "message" (.str r.message),
    Json.always "sent_count" (.ofNat r.sentCount),
    Json.always "failed_count" (.ofNat r.failedCount),
    Json.always "results" (.arr (r.results.map Outcome.json)),
    Json.always "error" (.orNull r.error),
    Json.always "timestamp" r.timestamp.json,
    Json.ifSome "correlation_id" r.correlationId .str]

/-- The report that a document holds. -/
def ofDocument? (d : Document) : Option Report := do
  let f ← d.record? names
  pure {
    notificationId := ← f.required "notification_id" Document.text?
    requestId := ← f.optional "request_id" Document.text?
    userId := ← f.required "user_id" Document.text?
    status := ← f.required "status" Status.ofDocument?
    message := ← f.required "message" Document.text?
    sentCount := ← f.required "sent_count" (Document.below? countBound)
    failedCount := ← f.required "failed_count" (Document.below? countBound)
    results := ← f.withDefault "results" [] (Document.list? Outcome.ofDocument?)
    error := ← f.nullable "error" Document.text?
    timestamp := ← f.required "timestamp" Document.moment?
    correlationId := ← f.optional "correlation_id" Document.text? }

end Report

/-- The record of a job that could not be completed. -/
structure DeadLetter where
  originalMessage : Job
  reason : String
  attemptCount : Nat
  failedAt : Moment
  lastError : String
  deriving DecidableEq, Repr, Inhabited

namespace DeadLetter

/-- The fields of a dead letter in the order of the message. -/
def names : List String :=
  ["original_message", "reason", "attempt_count", "failed_at", "last_error"]

/-- A dead letter as a value. -/
def json (l : DeadLetter) : Json :=
  .record [
    Json.always "original_message" l.originalMessage.json,
    Json.always "reason" (.str l.reason),
    Json.always "attempt_count" (.ofNat l.attemptCount),
    Json.always "failed_at" l.failedAt.json,
    Json.always "last_error" (.str l.lastError)]

/-- The dead letter that a document holds. -/
def ofDocument? (now : Moment) (d : Document) : Option DeadLetter := do
  let f ← d.record? names
  pure {
    originalMessage := ← f.required "original_message" (Job.ofDocument? now 1)
    reason := ← f.required "reason" Document.text?
    attemptCount := ← f.required "attempt_count" (Document.below? attemptBound)
    failedAt := ← f.required "failed_at" Document.moment?
    lastError := ← f.required "last_error" Document.text? }

end DeadLetter

end PushDelivery
