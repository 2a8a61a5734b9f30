import PushDelivery.Health.Report
import PushDelivery.Time.Moment

/-!
# Circuit breaker

A circuit breaker stands before a remote dependency and is shared by all deliveries. A call is two
steps, which may lie far apart in time and interleave with those of other calls: `permit` decides
whether the call may begin, and `settle` records how it ended.

## States

* closed: every call is admitted. Failures are counted within a window; enough of them open the
  circuit.
* open: calls are refused until the timeout has passed since the last failure. The first call after
  that makes the circuit half open.
* half open: a limited number of trial calls is admitted. As many successes close the circuit, one
  failure opens it again.

Every change of state resets the counters. The time of the last failure survives, and a failure
that arrives while the circuit is open moves it forward.

## Main definitions

* `Breaker`: the state, `Breaker.Config` its settings.
* `Breaker.permit`, `Breaker.settle`: the two steps of a call.
-/

namespace PushDelivery

/-- The state of a circuit. -/
inductive Circuit
  | closed
  | isOpen
  | halfOpen
  deriving DecidableEq, Repr, Inhabited

namespace Circuit

/-- The name of a state. -/
def name : Circuit → String
  | .closed => "closed"
  | .isOpen => "open"
  | .halfOpen => "half_open"

/-- The number that stands for a state in metrics. -/
def gauge : Circuit → Nat
  | .closed => 0
  | .isOpen => 1
  | .halfOpen => 2

/-- The health of a dependency behind a circuit. -/
def health : Circuit → Health
  | .closed => .healthy
  | .halfOpen => .degraded "circuit half-open"
  | .isOpen => .unhealthy "circuit open"

end Circuit

/-- A circuit breaker. `requests` counts the trial calls of a half-open period. -/
structure Breaker where
  circuit : Circuit
  failures : Nat
  successes : Nat
  requests : Nat
  windowStart : Instant
  lastFailure : Option Instant
  lastChange : Instant
  deriving DecidableEq, Repr

namespace Breaker

/-- Settings: trial calls of a half-open period, failures that open the circuit, the window in which
failures count, and the time an open circuit waits after the last failure. -/
structure Config where
  maxRequests : Nat := 3
  failureThreshold : Nat := 5
  interval : Duration := Duration.ofSeconds 60
  timeout : Duration := Duration.ofSeconds 30
  deriving DecidableEq, Repr

/-- A closed circuit without a history. -/
def initial (now : Instant) : Breaker :=
  { circuit := .closed, failures := 0, successes := 0, requests := 0, windowStart := now
    lastFailure := none, lastChange := now }

/-- Counts from nothing in a window that starts now. -/
def resetCounters (b : Breaker) (now : Instant) : Breaker :=
  { b with failures := 0, successes := 0, requests := 0, windowStart := now }

/-- Changes to another state, counting from nothing. -/
def moveTo (b : Breaker) (next : Circuit) (now : Instant) : Breaker :=
  if b.circuit = next then b
  else { b with circuit := next, lastChange := now }.resetCounters now

/-- Whether an open circuit has waited long enough. -/
def cooledDown (c : Config) (b : Breaker) (now : Instant) : Bool :=
  match b.lastFailure with
  | none => true
  | some t => c.timeout < now - t

/-- Whether a call may begin now, and the breaker afterwards. A refusal changes nothing. -/
def permit (c : Config) (b : Breaker) (now : Instant) : Bool × Breaker :=
  match b.circuit with
  | .closed =>
    if c.interval < now - b.windowStart then (true, b.resetCounters now) else (true, b)
  | .isOpen =>
    if b.cooledDown c now then
      let trial := b.moveTo .halfOpen now
      (true, { trial with requests := trial.requests + 1 })
    else (false, b)
  | .halfOpen =>
    if c.maxRequests ≤ b.requests then (false, b)
    else (true, { b with requests := b.requests + 1 })

/-- The breaker after a call succeeded. -/
def succeed (c : Config) (b : Breaker) (now : Instant) : Breaker :=
  let b := { b with successes := b.successes + 1 }
  if b.circuit = .halfOpen ∧ c.maxRequests ≤ b.successes then b.moveTo .closed now else b

/-- The breaker after a call failed. -/
def fail (c : Config) (b : Breaker) (now : Instant) : Breaker :=
  let b := { b with failures := b.failures + 1, lastFailure := some now }
  match b.circuit with
  | .closed => if c.failureThreshold ≤ b.failures then b.moveTo .isOpen now else b
  | .halfOpen => b.moveTo .isOpen now
  | .isOpen => b

/-- The breaker after a call ended. -/
def settle (c : Config) (b : Breaker) (success : Bool) (now : Instant) : Breaker :=
  if success then b.succeed c now else b.fail c now

/-- The statistics of a breaker under its name. -/
def json (name : String) (b : Breaker) : Json :=
  .record [
    Json.always "name" (.str name),
    Json.always "state" (.str b.circuit.name),
    Json.always "failure_count" (.ofNat b.failures),
    Json.always "success_count" (.ofNat b.successes),
    Json.always "trial_requests" (.ofNat b.requests),
    Json.always "last_failure_at"
      (.orNull (b.lastFailure.map fun t => (Moment.ofInstant t).text)),
    Json.always "last_state_change_at" (.str (Moment.ofInstant b.lastChange).text)]

/-- A refusal leaves the breaker as it was. -/
theorem permit_eq_of_refused {c : Config} {b : Breaker} {now : Instant}
    (h : (b.permit c now).1 = false) : (b.permit c now).2 = b := by
  unfold permit at h ⊢
  cases hc : b.circuit <;> simp only [hc] at h ⊢ <;> split at h <;> simp_all

end Breaker

end PushDelivery
