import PushDelivery.Breaker.Basic
import PushDelivery.Delivery.Request
import PushDelivery.Metrics.Tally

/-!
# Statistics and metrics

The service counts its work twice: in statistics that belong to its parts, and in metrics for a
collector outside. Both follow from the same events.

## Main definitions

* `Metrics`: all metrics.
* `Delivery.Stats`: the statistics of deliveries.
* `Metrics.noteDelivery`, `Delivery.Stats.note`: what an event adds.
-/

namespace PushDelivery

/-- The metrics of the service. -/
structure Metrics where
  jobsReceived : Nat := 0
  jobsProcessed : Tally := []
  jobsDeadLettered : Tally := []
  processing : Histogram := .ofBounds [
    ("0.01", Duration.ofMillis 10), ("0.05", Duration.ofMillis 50),
    ("0.1", Duration.ofMillis 100), ("0.25", Duration.ofMillis 250),
    ("0.5", Duration.ofMillis 500), ("1", Duration.ofSeconds 1),
    ("2.5", Duration.ofMillis 2500), ("5", Duration.ofSeconds 5),
    ("10", Duration.ofSeconds 10), ("30", Duration.ofSeconds 30), ("60", Duration.ofSeconds 60)]
  rateLimited : Nat := 0
  duplicates : Nat := 0
  guardErrors : Tally := []
  deviceSends : Tally := []
  retries : Nat := 0
  breakerState : Tally := []
  breakerRejections : Tally := []
  brokerConnected : Nat := 0
  reconnections : Nat := 0
  published : Tally := []
  malformed : Nat := 0
  deriving Repr

namespace Metrics

/-- What an event of a delivery adds. -/
def noteDelivery (m : Metrics) : Delivery.Event → Metrics
  | .received => m
  | .rateLimited => { m with rateLimited := m.rateLimited + 1 }
  | .duplicate =>
    { m with
      duplicates := m.duplicates + 1
      jobsProcessed := m.jobsProcessed.add "duplicate" 1 }
  | .sent succeeded failed =>
    { m with deviceSends := (m.deviceSends.add "success" succeeded).add "failure" failed }
  | .retried => { m with retries := m.retries + 1 }
  | .finished status elapsed =>
    { m with
      jobsProcessed := m.jobsProcessed.add status.name 1
      processing := m.processing.observe elapsed }

/-- A failure of the guard store was let pass. -/
def noteLetPass (m : Metrics) (operation : GuardOperation) : Metrics :=
  { m with guardErrors := m.guardErrors.add operation.name 1 }

/-- The state of a breaker. -/
def setBreaker (m : Metrics) (name : String) (state : Circuit) : Metrics :=
  { m with breakerState := m.breakerState.set name state.gauge }

/-- A breaker refused a call. -/
def noteRefusal (m : Metrics) (name : String) : Metrics :=
  { m with breakerRejections := m.breakerRejections.add name 1 }

/-- Whether there is a connection to the broker. -/
def setConnected (m : Metrics) (connected : Bool) : Metrics :=
  { m with brokerConnected := if connected then 1 else 0 }

end Metrics

namespace Delivery

/-- The statistics of deliveries. -/
structure Stats where
  received : Nat := 0
  delivered : Nat := 0
  partiallyDelivered : Nat := 0
  failed : Nat := 0
  duplicates : Nat := 0
  rateLimited : Nat := 0
  deriving DecidableEq, Repr

namespace Stats

/-- Counts a finished job. -/
def record (s : Stats) : Status → Stats
  | .delivered => { s with delivered := s.delivered + 1 }
  | .partiallyDelivered => { s with partiallyDelivered := s.partiallyDelivered + 1 }
  | .failed | .pending => { s with failed := s.failed + 1 }

/-- What an event adds. -/
def note (s : Stats) : Event → Stats
  | .received => { s with received := s.received + 1 }
  | .rateLimited => { s with rateLimited := s.rateLimited + 1 }
  | .duplicate => { s with duplicates := s.duplicates + 1 }
  | .finished status _ => s.record status
  | .sent .. | .retried => s

/-- The statistics as a value. -/
def json (s : Stats) : Json :=
  .record [
    Json.always "received" (.ofNat s.received),
    Json.always "delivered" (.ofNat s.delivered),
    Json.always "partially_delivered" (.ofNat s.partiallyDelivered),
    Json.always "failed" (.ofNat s.failed),
    Json.always "duplicates" (.ofNat s.duplicates),
    Json.always "rate_limited" (.ofNat s.rateLimited)]

end Stats

end Delivery

end PushDelivery
