import PushDelivery.Guard.Decision
import PushDelivery.Health.Report

/-!
# The guard store in memory

A store of keys that expire, for a service that runs alone. An entry is live strictly before its
expiry. Entries that are not live stay in place until a lookup finds them, a write replaces them, or
a sweep removes them all; a sweep comes before every 256th write. A store that is offline refuses
every operation.

## Main definitions

* `Store`: the entries, with `lookup`, `write`, `increment` and `cleanup`.
* `Store.ttlOf`, `Store.size`: what is live.
* `Store.perform`: the store as the other side of the guard.

An expiry that the clock does not reach has no instant, and the operation that asks for it has no
answer.
-/

namespace PushDelivery

/-- What is stored at a key. -/
inductive Stored
  | text (value : String)
  | counter (count : Nat)
  deriving DecidableEq, Repr

/-- A stored value with the time it was given and the instant of its expiry. -/
structure Entry where
  value : Stored
  ttl : Duration
  expiresAt : Instant
  deriving DecidableEq, Repr

/-- An entry is live strictly before its expiry. -/
def Entry.isLive (e : Entry) (now : Instant) : Bool := decide (now < e.expiresAt)

/-- A guard store in memory. -/
structure Store where
  entries : List (String × Entry) := []
  offline : Bool := false
  writes : Nat := 0
  deriving DecidableEq, Repr

namespace Store

/-- Writes between two sweeps. -/
def sweepEvery : Nat := 256

/-- The entry at a key, live or not. -/
def entry? (s : Store) (key : String) : Option Entry := s.entries.lookup key

/-- Removes a key. -/
def remove (s : Store) (key : String) : Store :=
  { s with entries := s.entries.filter (·.1 ≠ key) }

/-- Puts an entry at a key. -/
def put (s : Store) (key : String) (e : Entry) : Store :=
  { s with entries := (key, e) :: (s.remove key).entries }

/-- Removes all entries that are not live. -/
def sweep (s : Store) (now : Instant) : Store :=
  { s with entries := s.entries.filter (·.2.isLive now) }

/-- Removes all entries that are not live, and tells how many they were. -/
def cleanup (s : Store) (now : Instant) : Nat × Store :=
  ((s.entries.filter (!·.2.isLive now)).length, s.sweep now)

/-- Counts a write, and sweeps if it is due. -/
def recordWrite (s : Store) (now : Instant) : Store :=
  let counted := { s with writes := s.writes + 1 }
  if counted.writes % sweepEvery = 0 then counted.sweep now else counted

/-- The failure of a store that is offline. -/
def outage : GuardError := .unavailable "memory store offline"

/-- Whether a key is live; one that is not is removed. -/
def lookup (s : Store) (key : String) (now : Instant) : Except GuardError Bool × Store :=
  if s.offline then (.error outage, s)
  else
    match s.entry? key with
    | none => (.ok false, s)
    | some e => if e.isLive now then (.ok true, s) else (.ok false, s.remove key)

/-- Writes a text. Nothing is answered if the clock does not reach the expiry. -/
def write (s : Store) (key value : String) (ttl : Duration) (now : Instant) :
    Option (Except GuardError Unit) × Store :=
  if s.offline then (some (.error outage), s)
  else
    let s := s.recordWrite now
    match now.after? ttl with
    | none => (none, s)
    | some expiry => (some (.ok ()), s.put key ⟨.text value, ttl, expiry⟩)

/-- The live entry at a key, or a counter at zero that starts its window now. -/
def counterEntry? (s : Store) (key : String) (window : Duration) (now : Instant) : Option Entry :=
  match (s.entry? key).filter (·.isLive now) with
  | some e => some e
  | none => (now.after? window).map fun expiry => ⟨.counter 0, window, expiry⟩

/-- The failure to count at a key that holds a text. -/
def notCounter (key text : String) : GuardError :=
  .malformedValue key ("expected integer counter, found '" ++ text ++ "'")

/-- Counts one more at a key and answers the count; a new counter starts its window. Nothing is
answered if the clock does not reach the end of the window. -/
def increment (s : Store) (key : String) (window : Duration) (now : Instant) :
    Option (Except GuardError Nat) × Store :=
  if s.offline then (some (.error outage), s)
  else
    let s := s.recordWrite now
    match s.counterEntry? key window now with
    | none => (none, s)
    | some e =>
      match e.value with
      | .counter count =>
        (some (.ok (count + 1)), s.put key { e with value := .counter (count + 1) })
      | .text text => (some (.error (notCounter key text)), s)

/-- The time that a live key was given. -/
def ttlOf (s : Store) (key : String) (now : Instant) : Option Duration :=
  ((s.entry? key).filter (·.isLive now)).map (·.ttl)

/-- The number of live keys. -/
def size (s : Store) (now : Instant) : Nat :=
  (s.entries.filter (·.2.isLive now)).length

/-- Whether no key is live. -/
def isEmpty (s : Store) (now : Instant) : Bool := s.size now == 0

/-- The name of the store as a dependency. -/
def name : String := "guard_store"

/-- The health of the store. -/
def health (s : Store) : Health :=
  if s.offline then .unhealthy "memory store offline" else .healthy

/-- The store as the other side of the guard. A failure that was let pass is no concern of it. -/
def perform (s : Store) (now : Instant) :
    (r : Guard.Request) → Option (Guard.interface.Answer r) × Store
  | .increment key window => s.increment key window now
  | .lookup key => let (answer, s) := s.lookup key now; (some answer, s)
  | .write key value ttl => s.write key value ttl now
  | .letPass _ => (some (), s)

end Store

end PushDelivery
