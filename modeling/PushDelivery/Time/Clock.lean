/-!
# Clocks and durations

Every clock of the service reads one time line. An instant is the number of nanoseconds since the
service started, and a duration is a number of nanoseconds.

## Main definitions

* `Instant.after?`: an instant some time ahead, as far as the clock reaches.
* `Duration.ceilMillis`: timers fire at whole milliseconds.
-/

namespace PushDelivery

/-- Nanoseconds since the start. -/
abbrev Instant := Nat

/-- A length of time in nanoseconds. -/
abbrev Duration := Nat

namespace Duration

/-- Nanoseconds in a millisecond. -/
def perMilli : Nat := 1000000

/-- Nanoseconds in a second. -/
def perSecond : Nat := 1000000000

/-- A number of milliseconds. -/
def ofMillis (n : Nat) : Duration := n * perMilli

/-- A number of seconds. -/
def ofSeconds (n : Nat) : Duration := n * perSecond

/-- The whole seconds of a duration. -/
def seconds (d : Duration) : Nat := d / perSecond

/-- The least whole number of milliseconds that is not less. -/
def ceilMillis (d : Duration) : Duration :=
  (d + (perMilli - 1)) / perMilli * perMilli

end Duration

namespace Instant

/-- The clock counts seconds in 63 bits. -/
def horizon : Nat := Nat.pow 2 63 * Duration.perSecond

/-- The instant `d` after `t`, if the clock reaches it. -/
def after? (t : Instant) (d : Duration) : Option Instant :=
  if t + d < horizon then some (t + d) else none

/-- The whole milliseconds since the start. -/
def millis (t : Instant) : Nat := t / Duration.perMilli

end Instant

end PushDelivery
