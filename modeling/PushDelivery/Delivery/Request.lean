import PushDelivery.Delivery.Ledger
import PushDelivery.Guard.Decision
import PushDelivery.Retry.Loop
import PushDelivery.Template.Render

/-!
# What a delivery asks for

The surroundings of a delivery are the clock, the guard store, the template service, the circuit
breaker, the push gateway and the publisher of status reports. Events that statistics count are
noted.

## Main definitions

* `Delivery.Request`, `Delivery.interface`: what a delivery asks, and what it is answered.
-/

namespace PushDelivery.Delivery

/-- What statistics count about deliveries. -/
inductive Event
  | received
  | rateLimited
  | duplicate
  | sent (succeeded failed : Nat)
  | retried
  | finished (status : Status) (elapsed : Duration)
  deriving DecidableEq, Repr

/-- What a delivery asks for: the time, an operation of the guard, a template, admission by the
breaker and the record of how an admitted attempt ended, a push to one device or to several, a wait,
and the publication of a report; and the note of an event. -/
inductive Request
  | now
  | guard (request : Guard.Request)
  | template (code : String)
  | permit
  | settle (success : Bool)
  | send (token : String) (content : Content)
  | sendMany (tokens : List String) (content : Content)
  | pause (duration : Duration)
  | publish (report : Report)
  | note (event : Event)
  deriving DecidableEq, Repr

/-- What a delivery is answered. Publication tells whether the report was accepted. -/
abbrev Request.Answer : Request → Type
  | .now => Instant
  | .guard r => Guard.interface.Answer r
  | .template _ => Except TemplateError Template
  | .permit => Bool
  | .settle _ => Unit
  | .send .. => Except GatewayError Outcome
  | .sendMany .. => Except GatewayError (List Outcome)
  | .pause _ => Pause
  | .publish _ => Bool
  | .note _ => Unit

/-- The side of a delivery to its surroundings. -/
abbrev interface : Interface := ⟨Request, Request.Answer⟩

/-- A request of a delivery. -/
abbrev request (r : Request) : Run interface r.Answer := Run.request (I := interface) r

/-- A decision of the guard inside a delivery. -/
def guarded {α : Type} (run : Run Guard.interface α) : Run interface α :=
  run.within fun r => request (.guard r)

end PushDelivery.Delivery
