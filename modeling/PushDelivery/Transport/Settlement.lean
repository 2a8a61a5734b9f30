import PushDelivery.Broker.Queues
import PushDelivery.Delivery.Request

/-!
# Settling a message

A message that was handed out is settled once the work on it is over. One that spells no job is
refused. A job goes to the handler; if the handler fails, a dead letter is published, and then the
message is acknowledged in any case. Publishing takes two steps, since the channel may be lost
between finding it and using it.

## Main definitions

* `Transport.Request`, `Transport.interface`: what settling a message asks for.
* `Transport.publish`, `Transport.publishDeadLetter`: messages of the service.
* `Transport.settle`: a message from its receipt to its settlement.
-/

namespace PushDelivery.Transport

/-- What is counted about messages. -/
inductive Event
  | received
  | malformed
  | completed
  | published (queue : String)
  | publishFailed
  | deadLettered (reason : String)
  deriving DecidableEq, Repr

/-- What settling a message asks for: what its delivery asks for, the channel in use, a publication
over a channel, the acknowledgement or refusal of a message, and the note of an event. -/
inductive Request
  | delivery (request : Delivery.Request)
  | channel
  | publishOver (channel : Nat) (queue : String) (body : Body)
  | acknowledge (handout : Handout)
  | refuse (handout : Handout)
  | note (event : Event)
  deriving Repr

/-- What is answered. -/
abbrev Request.Answer : Request → Type
  | .delivery r => r.Answer
  | .channel => Option Nat
  | .publishOver .. => Except BrokerError Unit
  | .acknowledge _ => Except BrokerError Unit
  | .refuse _ => Except BrokerError Unit
  | .note _ => Unit

/-- The side of settling to its surroundings. -/
abbrev interface : Interface := ⟨Request, Request.Answer⟩

/-- A request of settling. -/
abbrev request (r : Request) : Run interface r.Answer := Run.request (I := interface) r

/-- Publishes a message to a queue. -/
def publish (queue : String) (body : Body) : Run interface (Except BrokerError Unit) := do
  match ← request .channel with
  | none => pure (.error .notConnected)
  | some channel =>
    match ← request (.publishOver channel queue body) with
    | .ok () =>
      request (.note (.published queue))
      pure (.ok ())
    | .error e =>
      request (.note .publishFailed)
      pure (.error e)

/-- Publishes a status report. -/
def publishReport (t : Topology) (r : Report) : Run interface (Except BrokerError Unit) :=
  publish t.statusQueue (.ofJson r.json)

/-- The dead letter of a job. -/
def deadLetter (job : Job) (error : DeliveryError) (now : Moment) : DeadLetter :=
  { originalMessage := job
    reason := error.reason
    attemptCount := job.attemptCount
    failedAt := now
    lastError := error.message }

/-- Publishes the dead letter of a job. -/
def publishDeadLetter (t : Topology) (job : Job) (error : DeliveryError) :
    Run interface (Except BrokerError Unit) := do
  let now ← request (.delivery .now)
  match ← publish t.failedQueue (.ofJson (deadLetter job error (.ofInstant now)).json) with
  | .ok () =>
    request (.note (.deadLettered error.reason))
    pure (.ok ())
  | .error e => pure (.error e)

/-- Carries out what a delivery asks for: its report is published on the status queue. -/
def carryOut (t : Topology) : (r : Delivery.Request) → Run interface r.Answer
  | .publish r => do
    match ← publishReport t r with
    | .ok () => pure true
    | .error _ => pure false
  | r => request (.delivery r)

/-- A delivery whose reports are published on the status queue. -/
def carry {α : Type} (t : Topology) (run : Run Delivery.interface α) : Run interface α :=
  run.within (carryOut t)

/-- What takes on a job, and gives it back with what came of it. -/
abbrev Handler := Job → Run Delivery.interface (Except DeliveryError Unit × Job)

/-- The job that a message spells. -/
def job? (body : Body) (now : Moment) : Option Job := body.document?.bind (Job.ofDocument? now 0)

/-- Settles a message that was handed out. -/
def settle (t : Topology) (handler : Handler) (h : Handout) : Run interface Unit := do
  request (.note .received)
  let now ← request (.delivery .now)
  match job? h.body (.ofInstant now) with
  | none =>
    request (.note .malformed)
    let _ ← request (.refuse h)
  | some job =>
    let (result, job) ← carry t (handler job)
    match result with
    | .ok () => request (.note .completed)
    | .error e => let _ ← publishDeadLetter t job e
    let _ ← request (.acknowledge h)

end PushDelivery.Transport
