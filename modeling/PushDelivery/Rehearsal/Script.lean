import PushDelivery.Delivery.Scene

/-!
# A scripted gateway

In a rehearsal the push gateway follows a script: a reply for every request in turn, and one for all
requests after those.

## Main definitions

* `Script`: the replies, and the devices that are always rejected.
* `Script.gateway`: the script as a gateway.
-/

namespace PushDelivery.Rehearsal

/-- A reply: how long it takes, whether it crashes the delivery that waits for it, a failure of the
whole request, fixed outcomes, how many devices get an outcome at all, a reason to reject every
device, and devices to reject. -/
structure Reply where
  delay : Duration := 0
  crashes : Bool := false
  error : Option GatewayError := none
  outcomes : Option (List Outcome) := none
  take : Option Nat := none
  rejectAll : Option String := none
  reject : List (String × Option String) := []
  deriving Repr

/-- The replies of the gateway, and the devices that it rejects in any case. -/
structure Script where
  rejected : List (String × Option String) := []
  replies : List Reply := []
  fallback : Reply := {}
  deriving Repr

namespace Script

/-- The reply to a request by its number. -/
def reply (s : Script) (number : Nat) : Reply := s.replies.getD number s.fallback

/-- Why a device is rejected, if it is. -/
def rejection? (s : Script) (r : Reply) (token : String) : Option (Option String) :=
  match r.rejectAll with
  | some reason => some (some reason)
  | none =>
    match r.reject.lookup token with
    | some reason => some reason
    | none => s.rejected.lookup token

/-- The outcome of a device. -/
def outcome (s : Script) (r : Reply) (now : Moment) (token : String) : Outcome :=
  match s.rejection? r token with
  | some reason =>
    { deviceToken := token, success := false, error := reason, messageId := none, sentAt := now
      correlationId := none }
  | none => Outcome.delivered token ("msg-" ++ token) now

/-- What a reply says about the devices of a request; a crash says nothing. -/
def outcomes (s : Script) (r : Reply) (tokens : List String) (now : Moment) :
    Option (Except GatewayError (List Outcome)) :=
  if r.crashes then none
  else
    match r.error with
    | some e => some (.error e)
    | none =>
      match r.outcomes with
      | some fixed => some (.ok fixed)
      | none => some (.ok ((tokens.take (r.take.getD tokens.length)).map (s.outcome r now)))

/-- The script as a gateway. -/
def gateway (s : Script) (number : Nat) : Turn :=
  let r := s.reply number
  ⟨r.delay, s.outcomes r⟩

end Script

end PushDelivery.Rehearsal
