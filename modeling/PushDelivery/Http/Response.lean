import PushDelivery.Broker.Body
import PushDelivery.Guard.Error
import PushDelivery.Json.Record

/-!
# Responses of the service

## Main definitions

* `Http.Response`: status, headers and body.
* `Http.Failure`: a failure of the service itself, with the response that tells of it. What happened
  is told only outside of production.
-/

namespace PushDelivery.Http

/-- The body of a response. -/
inductive Content
  | empty
  | json (value : Json)
  | lines (text : List String)
  deriving Repr

/-- A response. -/
structure Response where
  status : Nat
  contentType : Option String := none
  allow : Option String := none
  body : Content := .empty
  deriving Repr

/-- A response with a value. -/
def Response.ofJson (status : Nat) (value : Json) : Response :=
  { status, contentType := some "application/json", body := .json value }

/-- A failure of the service itself. -/
inductive Failure
  | configuration (detail : String)
  | broker (error : BrokerError)
  | guard (error : GuardError)
  | internal (detail : String)
  deriving DecidableEq, Repr

namespace Failure

/-- The wording of a failure. -/
def message : Failure → String
  | .configuration detail => "Configuration error: " ++ detail
  | .broker error => "Queue error: " ++ error.message
  | .guard error => "Guard store error: " ++ error.message
  | .internal detail => "Internal error: " ++ detail

/-- The status of the response. -/
def status : Failure → Nat
  | .configuration _ | .internal _ => 500
  | .broker _ | .guard _ => 503

/-- The code in the response. -/
def code : Failure → String
  | .configuration _ => "CONFIG_ERROR"
  | .broker _ => "QUEUE_ERROR"
  | .guard _ => "GUARD_STORE_ERROR"
  | .internal _ => "INTERNAL_ERROR"

/-- Whether a run mode is that of production. -/
def isProduction (mode : Option String) : Bool :=
  mode == some "production" || mode == some "prod"

/-- The message in the response. -/
def publicMessage (f : Failure) (mode : Option String) : String :=
  if isProduction mode then
    if f.status = 503 then "Service temporarily unavailable" else "Internal server error"
  else f.message

/-- The response to a request that failed. -/
def response (f : Failure) (mode : Option String) : Response :=
  .ofJson f.status (.record [
    Json.always "error" (.record [
      Json.always "code" (.str f.code),
      Json.always "message" (.str (f.publicMessage mode))])])

end Failure

end PushDelivery.Http
