import PushDelivery.Delivery.Request

/-!
# Dispatch

The attempts to reach the devices of a job. Every attempt asks the breaker for admission and sends
to the devices that were not reached before: one device by a request of its own, several in batches.
The first request that fails ends the attempt. An attempt that reached a device ends the dispatch.

## Main definitions

* `Delivery.batches`: the batches of a list of devices.
* `Delivery.sendAll`: the requests of an attempt.
* `Delivery.attempt`: an attempt.
* `Delivery.dispatch`: the attempts under a retry policy.

The breaker learns whether a request failed, not whether devices were reached.
-/

namespace PushDelivery.Delivery

/-- The most devices that one request may name. -/
def batchLimit : Nat := 500

/-- Consecutive pieces of a list, each of `batchLimit` devices and the last of the rest. -/
def batches : List String → List (List String)
  | [] => []
  | t :: rest => (t :: rest).take batchLimit :: batches ((t :: rest).drop batchLimit)
termination_by tokens => tokens.length
decreasing_by
  simp only [List.length_drop, List.length_cons, batchLimit]
  omega

/-- What a dispatch has come to: the outcomes, and the attempts spent on the job in all. -/
structure Progress where
  ledger : Ledger
  spent : Nat
  deriving Repr

/-- Parts of a dispatch. -/
abbrev Dispatching := StateT Progress (Run interface)

/-- Takes the outcomes of a request into the ledger. -/
def record (outcomes : List Outcome) : Dispatching Unit := do
  let succeeded := (outcomes.filter (·.success)).length
  request (.note (.sent succeeded (outcomes.length - succeeded)))
  modify fun s => { s with ledger := s.ledger.record outcomes }

/-- Sends batches one after the other until one fails. -/
def sendBatches (content : Content) : List (List String) → Dispatching (Except GatewayError Unit)
  | [] => pure (.ok ())
  | batch :: rest => do
    match ← request (.sendMany batch content) with
    | .error e => pure (.error e)
    | .ok outcomes =>
      record outcomes
      sendBatches content rest

/-- Sends to a list of devices. -/
def sendAll (content : Content) (tokens : List String) : Dispatching (Except GatewayError Unit) :=
  match tokens with
  | [token] => do
    match ← request (.send token content) with
    | .error e => pure (.error e)
    | .ok outcome =>
      record [outcome]
      pure (.ok ())
  | tokens => sendBatches content (batches tokens)

/-- How an attempt ended by the outcomes of its devices: one that was reached makes it a success. -/
def verdict (outcomes : List Outcome) : Except DeliveryError Unit :=
  if outcomes.any (·.success) then .ok ()
  else .error (.allDevicesFailed outcomes.length (outcomes.reverse.findSome? (·.error)))

/-- An attempt to reach the devices of a list that were not reached before. -/
def attempt (breaker : String) (content : Content) (tokens : List String) (number : Nat) :
    Dispatching (Except DeliveryError Unit) := do
  modify fun s => { s with spent := number + 1 }
  let pending := (← get).ledger.pending tokens
  if ← request .permit then
    match ← sendAll content pending with
    | .error e =>
      request (.settle false)
      pure (.error (.gateway e))
    | .ok () =>
      request (.settle true)
      pure (verdict ((← get).ledger.outcomes pending))
  else pure (.error (.circuitOpen breaker))

/-- A wait between two attempts. -/
def pause (duration : Duration) : Dispatching Pause := do
  request (.note .retried)
  request (.pause duration)

/-- The attempts to reach a list of devices, after those spent on the job before. -/
def dispatch (policy : RetryPolicy) (breaker : String) (content : Content) (tokens : List String)
    (correlationId : Option String) (spent : Nat) :
    Run interface (Except DeliveryError Unit × Progress) :=
  (policy.retry pause (attempt breaker content tokens) spent).run
    { ledger := .empty correlationId, spent }

end PushDelivery.Delivery
