import PushDelivery.Delivery.Error
import PushDelivery.Retry.Policy

/-!
# Attempts

An operation is attempted until it succeeds, fails for good, or has used up its attempts. Between
two attempts lies a wait, in which the whole may be cancelled.

## Main definitions

* `RetryPolicy.retry`: the loop, for operations in any monad.
* `RetryPolicy.pauseFrom`: a wait on a clock, with a wish to cancel it.
-/

namespace PushDelivery

/-- How a wait ends. -/
inductive Pause
  | elapsed
  | cancelled
  deriving DecidableEq, Repr

namespace RetryPolicy

variable {m : Type → Type} [Monad m] {α : Type}

/-- At most `left` attempts, the first of them numbered `attempt`. Only an error that another
attempt may mend leads to a wait and another attempt, and only if an attempt is left. -/
def attempts (p : RetryPolicy) (pause : Duration → m Pause)
    (operation : Nat → m (Except DeliveryError α)) :
    (left attempt : Nat) → m (Except DeliveryError α)
  | 0, attempt => pure (.error (.maxRetriesExceeded attempt))
  | left + 1, attempt => do
    match ← operation attempt with
    | .ok a => pure (.ok a)
    | .error e =>
      if e.isRetryable ∧ left ≠ 0 then
        match ← pause (p.backoff attempt) with
        | .cancelled => pure (.error .cancelled)
        | .elapsed => attempts p pause operation left (attempt + 1)
      else pure (.error e)

/-- The attempts that a policy leaves to work on which `spent` attempts were made before. -/
def retry (p : RetryPolicy) (pause : Duration → m Pause)
    (operation : Nat → m (Except DeliveryError α)) (spent : Nat) : m (Except DeliveryError α) :=
  p.attempts pause operation (p.maxAttempts - spent) spent

/-- A wait that begins at an instant and may be cut short at another, and the instant at which it
ends. -/
def pauseFrom (now : Instant) (d : Duration) (cancelAt : Option Instant) : Pause × Instant :=
  let due := Duration.ceilMillis (now + d)
  match cancelAt with
  | none => (.elapsed, due)
  | some c => if c < due ∨ c ≤ now then (.cancelled, max now c) else (.elapsed, due)

end RetryPolicy

end PushDelivery
