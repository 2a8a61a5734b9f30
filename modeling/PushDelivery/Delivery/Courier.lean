import PushDelivery.Delivery.Dispatch

/-!
# Delivering a job

A job passes the rate limit, is validated, recognised if it was completed before, given its content
and dispatched to its devices. Whatever ends it, a report is published and the job is marked as
completed, in this order. A job that was completed before ends in silence.

## Main definitions

* `Courier`: the settings of deliveries.
* `Courier.process`: the delivery of a job, as a run.
-/

namespace PushDelivery

open Delivery

/-- How jobs are delivered: the guard, the attempts, and the name of the breaker before the
gateway. -/
structure Courier where
  guard : Guard := {}
  retry : RetryPolicy := {}
  breaker : String := "push_gateway"
  deriving Repr

namespace Courier

/-- The report on a job. -/
def report (job : Job) (status : Status) (message : String) (results : List Outcome)
    (error : Option DeliveryError) (now : Moment) : Report :=
  let sent := (results.filter (·.success)).length
  { notificationId := job.id
    requestId := job.requestId
    userId := job.userId
    status
    message
    sentCount := sent
    failedCount := results.length - sent
    results
    error := error.map DeliveryError.message
    timestamp := now
    correlationId := job.correlationId }

/-- Ends a delivery: the report is published, and then the job is marked unless its id is blank.
A report that is not accepted is lost. -/
def finish (job : Job) (report : Report) (elapsed : Duration) : Run interface Unit := do
  request (.note (.finished report.status elapsed))
  let _ ← request (.publish report)
  if Text.isBlankText job.id then pure () else guarded (Guard.markProcessed job.id)

/-- Ends a delivery that failed before it was dispatched. -/
def refuse (job : Job) (started : Instant) (message : String) (error : DeliveryError) :
    Run interface (Except DeliveryError Unit × Job) := do
  let now ← request .now
  finish job (report job .failed message [] (some error) (.ofInstant now)) (now - started)
  pure (.error error, job)

/-- The content of a job, from its template if it names one. -/
def prepare (job : Job) : Run interface (Except TemplateError Content) :=
  match job.template? with
  | none => pure (.ok (.ofJob job))
  | some code => do
    match ← request (.template code) with
    | .error e => pure (.error e)
    | .ok template => pure (.ok (render template job))

/-- The message of a report on a dispatched job. -/
def summary (sent failed : Nat) : Status → String
  | .delivered => "Notification delivered successfully"
  | .partiallyDelivered =>
    "Partially delivered: " ++ Nat.repr sent ++ " succeeded, " ++ Nat.repr failed ++ " failed"
  | _ => "All notifications failed to deliver"

/-- Dispatches a job and reports on it. Only a job that reached no device has failed. -/
def deliver (c : Courier) (job : Job) (started : Instant) (content : Content) :
    Run interface (Except DeliveryError Unit × Job) := do
  let tokens := job.validTokens
  let (result, progress) ←
    dispatch c.retry c.breaker content tokens job.correlationId job.attemptCount
  let job := { job with attemptCount := progress.spent }
  let error := match result with
    | .error e => some e
    | .ok () => none
  let now ← request .now
  let results := progress.ledger.results tokens error (.ofInstant now)
  let sent := (results.filter (·.success)).length
  let failed := results.length - sent
  let status := Status.ofCounts sent failed
  finish job (report job status (summary sent failed status) results error (.ofInstant now))
    (now - started)
  pure (if status = .failed then result else .ok (), job)

/-- Delivers a job, and gives the job back with the attempts spent on it. -/
def process (c : Courier) (job : Job) : Run interface (Except DeliveryError Unit × Job) := do
  let started ← request .now
  request (.note .received)
  match ← guarded (c.guard.checkRate job.userId) with
  | .exceeded _ limit =>
    request (.note .rateLimited)
    refuse job started "Rate limit exceeded" (.rateLimited job.userId limit)
  | .allowed =>
    match job.problem? with
    | some problem =>
      refuse job started ("Validation failed: " ++ problem.message) (.validation problem)
    | none =>
      if ← guarded (Guard.isDuplicate job.id) then
        request (.note .duplicate)
        pure (.ok (), job)
      else
        match ← prepare job with
        | .error e =>
          refuse job started ("Failed to prepare notification: " ++ e.message) (.template e)
        | .ok content => c.deliver job started content

end Courier

end PushDelivery
