import PushDelivery.Guard.Error
import PushDelivery.Run.Basic
import PushDelivery.Time.Clock

/-!
# The delivery guard

The guard limits how often one user is notified and recognises jobs that were completed before. It
keeps its memory in a store of keys that expire: a counter per user, and a marker per job. A store
that fails never holds a delivery up, so each decision falls to the open side.

## Main definitions

* `Guard.Request`: the operations of a store, and the note that a failure was let pass.
* `Guard`: the limit and its window.
* `Guard.checkRate`, `Guard.isDuplicate`, `Guard.markProcessed`: the decisions, as runs.
-/

namespace PushDelivery

/-- What the guard asks of its store for. -/
inductive GuardOperation
  | rateLimit
  | duplicateCheck
  | markProcessed
  deriving DecidableEq, Repr

/-- The name of an operation in metrics. -/
def GuardOperation.name : GuardOperation → String
  | .rateLimit => "rate_limit"
  | .duplicateCheck => "idempotency_check"
  | .markProcessed => "mark_processed"

/-- The limit of requests in one window of a user. -/
structure Guard where
  limit : Nat := 100
  window : Duration := Duration.ofSeconds 60
  deriving DecidableEq, Repr

namespace Guard

/-- What the guard asks for: to count one more at a key and get the count, to look a key up, to
write a key; and the note that a failed operation was let pass. -/
inductive Request
  | increment (key : String) (window : Duration)
  | lookup (key : String)
  | write (key value : String) (ttl : Duration)
  | letPass (operation : GuardOperation)
  deriving DecidableEq, Repr

/-- What the guard is answered. -/
abbrev Request.Answer : Request → Type
  | .increment .. => Except GuardError Nat
  | .lookup _ => Except GuardError Bool
  | .write .. => Except GuardError Unit
  | .letPass _ => Unit

/-- The guard's side of its store. -/
abbrev interface : Interface := ⟨Request, Request.Answer⟩

/-- How long a marker is kept. -/
def markerTtl : Duration := Duration.ofSeconds (24 * 60 * 60)

/-- What a marker holds. -/
def markerText : String := "processed"

/-- The key of a job's marker. -/
def markerKey (jobId : String) : String := "idempotency:notification:" ++ jobId

/-- The key of a user's counter. -/
def counterKey (userId : String) : String := "ratelimit:user:" ++ userId

/-- Whether one more request of a user is within the limit. -/
inductive Decision
  | allowed
  | exceeded (count limit : Nat)
  deriving DecidableEq, Repr

/-- Counts one request of a user and decides on it. -/
def checkRate (g : Guard) (userId : String) : Run interface Decision := do
  match ← Run.request (I := interface) (.increment (counterKey userId) g.window) with
  | .ok count => pure (if g.limit < count then .exceeded count g.limit else .allowed)
  | .error _ =>
    Run.request (I := interface) (.letPass .rateLimit)
    pure .allowed

/-- Whether a job has a live marker. -/
def isDuplicate (jobId : String) : Run interface Bool := do
  match ← Run.request (I := interface) (.lookup (markerKey jobId)) with
  | .ok found => pure found
  | .error _ =>
    Run.request (I := interface) (.letPass .duplicateCheck)
    pure false

/-- Marks a job as completed. -/
def markProcessed (jobId : String) : Run interface Unit := do
  match ← Run.request (I := interface) (.write (markerKey jobId) markerText markerTtl) with
  | .ok () => pure ()
  | .error _ => Run.request (I := interface) (.letPass .markProcessed)

end Guard

end PushDelivery
