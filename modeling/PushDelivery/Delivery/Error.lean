import PushDelivery.Notification.Job

/-!
# Why a delivery fails

Each failure names its cause. A cause has a wording, a short reason that dead letters and metrics
carry, and may or may not be worth another attempt.

## Main definitions

* `TemplateError`, `GatewayError`: failures of the two remote services.
* `DeliveryError`: failures of a delivery, with `message`, `reason` and `isRetryable`.
-/

namespace PushDelivery

/-- A template could not be had. -/
inductive TemplateError
  | notFound (code : String)
  | unavailable (detail : String)
  | invalid (detail : String)
  deriving DecidableEq, Repr

/-- The wording of a template failure. -/
def TemplateError.message : TemplateError → String
  | .notFound code => "Template not found: " ++ code
  | .unavailable detail => "Template service unavailable: " ++ detail
  | .invalid detail => "Invalid template: " ++ detail

/-- A request to the push gateway failed as a whole. -/
inductive GatewayError
  | timeout
  | transport (detail : String)
  | status (code : Nat) (body : String)
  | invalidResponse (detail : String)
  deriving DecidableEq, Repr

/-- The wording of a gateway failure. -/
def GatewayError.message : GatewayError → String
  | .timeout => "request timed out"
  | .transport detail => "transport error: " ++ detail
  | .status code body => "gateway returned status " ++ Nat.repr code ++ ": " ++ body
  | .invalidResponse detail => "invalid gateway response: " ++ detail

/-- A delivery failed. -/
inductive DeliveryError
  | validation (problem : Job.Problem)
  | rateLimited (userId : String) (limit : Nat)
  | template (error : TemplateError)
  | gateway (error : GatewayError)
  | circuitOpen (breaker : String)
  | allDevicesFailed (failed : Nat) (lastError : Option String)
  | maxRetriesExceeded (attempts : Nat)
  | cancelled
  deriving DecidableEq, Repr

namespace DeliveryError

/-- The wording of a failure. -/
def message : DeliveryError → String
  | .validation problem => "invalid notification: " ++ problem.message
  | .rateLimited userId limit =>
    "rate limit exceeded for user " ++ userId ++ " (" ++ Nat.repr limit ++ " per window)"
  | .template error => "template error: " ++ error.message
  | .gateway error => "push gateway error: " ++ error.message
  | .circuitOpen breaker => "circuit breaker '" ++ breaker ++ "' is open"
  | .allDevicesFailed failed lastError =>
    "all " ++ Nat.repr failed ++ " devices failed" ++
      match lastError with
      | some e => ": " ++ e
      | none => ""
  | .maxRetriesExceeded attempts => "max retries exceeded (" ++ Nat.repr attempts ++ " attempts)"
  | .cancelled => "retry cancelled"

/-- The short reason of a failure. -/
def reason : DeliveryError → String
  | .validation _ => "validation_failed"
  | .rateLimited .. => "rate_limit_exceeded"
  | .template _ => "template_error"
  | .gateway _ => "gateway_error"
  | .circuitOpen _ => "circuit_open"
  | .allDevicesFailed .. => "all_devices_failed"
  | .maxRetriesExceeded _ => "max_retries_exceeded"
  | .cancelled => "cancelled"

/-- Whether another attempt could succeed: the gateway, the circuit and the devices may recover. -/
def isRetryable : DeliveryError → Bool
  | .gateway _ | .circuitOpen _ | .allDevicesFailed .. => true
  | _ => false

end DeliveryError

end PushDelivery
