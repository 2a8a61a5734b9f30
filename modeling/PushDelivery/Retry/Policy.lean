import PushDelivery.Decimal.Binary64
import PushDelivery.Time.Clock

/-!
# Backoff

Between two attempts of one delivery the service waits, longer after each attempt, up to a greatest
wait. Waits are computed in binary64 seconds.

## Main definitions

* `RetryPolicy`: the settings.
* `RetryPolicy.backoff`: the wait after an attempt,
  `min (initialBackoff * multiplier ^ attempt) maxBackoff`.
-/

namespace PushDelivery

open Decimal (Binary64 Ties)

/-- A duration in seconds, as a binary64 value: its whole seconds and its fraction, each rounded,
and their sum rounded again. -/
def Duration.toSeconds (d : Duration) : Binary64 :=
  (Binary64.ofNat (d / perSecond)).add
    ((Binary64.ofNat (d % perSecond)).div (Binary64.ofNat perSecond))

/-- The duration nearest to a finite number of seconds, to the even nanosecond at an exact half; a
negative number counts as zero. -/
def Duration.ofSecondsValue : Binary64 → Duration
  | .finite false m e => Binary64.roundTimes .toEven m e perSecond
  | _ => 0

/-- How often and after which waits a delivery is attempted again. -/
structure RetryPolicy where
  maxAttempts : Nat := 3
  initialBackoff : Duration := Duration.ofSeconds 1
  maxBackoff : Duration := Duration.ofSeconds 60
  multiplier : Binary64 := .ofNat 2
  deriving DecidableEq, Repr

namespace RetryPolicy

/-- The greatest exponent of the multiplier. -/
def maxExponent : Nat := Decimal.wordSize 31 - 1

/-- The wait after an attempt, counted from zero. What is no number or not less than the greatest
wait is that wait. -/
def backoff (p : RetryPolicy) (attempt : Nat) : Duration :=
  let seconds := p.initialBackoff.toSeconds.mul (p.multiplier.pow (min attempt maxExponent))
  if !seconds.isFinite || seconds.ge p.maxBackoff.toSeconds then p.maxBackoff
  else Duration.ofSecondsValue seconds

end RetryPolicy

end PushDelivery
