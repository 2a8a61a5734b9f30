import PushDelivery.Guard.Store
import PushDelivery.Metrics.Registry

/-!
# The surroundings of a delivery

All deliveries share one scene: a clock, the guard store, a breaker, templates by their code, the
gateway, and a publisher that keeps the reports it gets. Running takes no time. Only replies of the
gateway and waits end at a later time.

## Main definitions

* `Scene`: the surroundings.
* `Response`: how a request is answered, at once or later.
* `Scene.perform`: the answer to each request.
* `Scene.play`: a delivery from its beginning to its end, with the clock moving on as it waits.
-/

namespace PushDelivery

open Delivery (Request)

/-- A request that the gateway got: whether it was for one device alone, the devices, the time and
the content. -/
structure Call where
  single : Bool
  tokens : List String
  time : Instant
  content : Content
  deriving Repr

/-- A turn of the gateway: how long the reply takes, and what it says about the devices at that
time. The request of a turn without a say crashes. -/
structure Turn where
  delay : Duration
  answer : List String → Moment → Option (Except GatewayError (List Outcome))

/-- A gateway that reaches every device at once. -/
def Turn.reachAll : Turn :=
  ⟨0, fun tokens now => some (.ok (tokens.map fun t => Outcome.delivered t "" now))⟩

/-- The surroundings. `cancelled` tells whether waits between attempts are cut short, and `refuses`
whether the publisher refuses the reports that it keeps. -/
structure Scene where
  now : Instant := 0
  cancelled : Bool := false
  store : Store := {}
  templates : String → Except TemplateError Template := fun code => .error (.notFound code)
  breakerName : String := "push_gateway"
  breakerConfig : Breaker.Config := {}
  breaker : Breaker := .initial 0
  gateway : Nat → Turn := fun _ => .reachAll
  calls : List Call := []
  reports : List Report := []
  refuses : Bool := false
  stats : Delivery.Stats := {}
  metrics : Metrics := {}

/-- How a request is answered: at once, at some instant, by a wait that may be cut short, or by a
crash of whoever asked, at once or at some instant. -/
inductive Response (α : Type) : Type
  | now (answer : α)
  | later (due : Instant) (answer : α)
  | pausing (due : Instant) (answer : Pause → α)
  | crash
  | crashLater (due : Instant)

namespace Scene

/-- The breaker after a step of a call; a new state is a metric. -/
def setBreaker (s : Scene) (b : Breaker) : Scene :=
  { s with
    breaker := b
    metrics :=
      if b.circuit = s.breaker.circuit then s.metrics
      else s.metrics.setBreaker s.breakerName b.circuit }

/-- A call asks for admission. -/
def permit (s : Scene) : Bool × Scene :=
  let (admitted, b) := s.breaker.permit s.breakerConfig s.now
  let s := s.setBreaker b
  (admitted, if admitted then s else { s with metrics := s.metrics.noteRefusal s.breakerName })

/-- A call has ended. -/
def settle (s : Scene) (success : Bool) : Scene :=
  s.setBreaker (s.breaker.settle s.breakerConfig success s.now)

/-- The answer of the guard store, which may have none. -/
def guard (s : Scene) (r : Guard.Request) : Response r.Answer × Scene :=
  let (answer, store) := s.store.perform s.now r
  let s := { s with store }
  let s := match r with
    | .letPass operation => { s with metrics := s.metrics.noteLetPass operation }
    | _ => s
  (match answer with
    | some answer => .now answer
    | none => .crash, s)

/-- A request to the gateway, with the reply from what it says about the devices. -/
def push {α : Type} (s : Scene) (single : Bool) (tokens : List String) (content : Content)
    (answer : Except GatewayError (List Outcome) → Option α) : Response α × Scene :=
  let turn := s.gateway s.calls.length
  let due := s.now + turn.delay
  let s := { s with calls := ⟨single, tokens, s.now, content⟩ :: s.calls }
  (match (turn.answer tokens (.ofInstant due)).bind answer with
    | some a => if turn.delay = 0 then .now a else .later due a
    | none => if turn.delay = 0 then .crash else .crashLater due, s)

/-- The first outcome of a reply to a request for one device; there has to be one. -/
def firstOutcome : Except GatewayError (List Outcome) → Option (Except GatewayError Outcome)
  | .error e => some (.error e)
  | .ok [] => none
  | .ok (o :: _) => some (.ok o)

/-- A wait until the whole millisecond at which it is over. -/
def pause (s : Scene) (d : Duration) : Response Pause :=
  let due := Duration.ceilMillis (s.now + d)
  if s.cancelled then .now .cancelled
  else if due ≤ s.now then .now .elapsed
  else .pausing due id

/-- A report for the publisher. -/
def publish (s : Scene) (r : Report) : Bool × Scene :=
  (!s.refuses, { s with reports := r :: s.reports })

/-- An event that is counted. -/
def note (s : Scene) (e : Delivery.Event) : Scene :=
  { s with stats := s.stats.note e, metrics := s.metrics.noteDelivery e }

/-- The answer to a request. -/
def perform (s : Scene) : (r : Request) → Response r.Answer × Scene
  | .now => (.now s.now, s)
  | .guard r => s.guard r
  | .template code => (.now (s.templates code), s)
  | .permit => let (admitted, s) := s.permit; (.now admitted, s)
  | .settle success => (.now (), s.settle success)
  | .send token content => s.push true [token] content firstOutcome
  | .sendMany tokens content => s.push false tokens content some
  | .pause d => (s.pause d, s)
  | .publish r => let (accepted, s) := s.publish r; (.now accepted, s)
  | .note e => (.now (), s.note e)

/-- The clock moves on to an instant; the wish to cancel comes into effect when it is reached. -/
def moveTo (s : Scene) (cancelAt : Option Instant) (t : Instant) : Scene :=
  { s with
    now := t
    cancelled := s.cancelled || (match cancelAt with
      | some c => decide (c ≤ t)
      | none => false) }

/-- Plays a delivery to its end, with a wish to cancel at some instant. A delivery that crashes has
no result. -/
def play {α : Type} (cancelAt : Option Instant) :
    Run Delivery.interface α → Scene → Option α × Scene
  | .done a, s => (some a, s)
  | .ask r next, s =>
    match s.perform r with
    | (.now answer, s) => play cancelAt (next answer) s
    | (.later due answer, s) => play cancelAt (next answer) (s.moveTo cancelAt due)
    | (.pausing due answer, s) =>
      let (pause, t) := RetryPolicy.pauseFrom s.now (due - s.now) cancelAt
      play cancelAt (next (answer pause)) (s.moveTo cancelAt t)
    | (.crash, s) => (none, s)
    | (.crashLater due, s) => (none, s.moveTo cancelAt due)

end Scene

end PushDelivery
