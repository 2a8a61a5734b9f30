import PushDelivery.Delivery.Error
import PushDelivery.Http.Exchange
import PushDelivery.Template.Render

/-!
# The template service over HTTP

## Main definitions

* `TemplateService`: the address of a template service.
* `TemplateService.request`, `TemplateService.read`: the request for a template, and what the reply
  says.
-/

namespace PushDelivery

/-- A template service: its address without slashes at the end. -/
structure TemplateService where
  base : String
  deriving DecidableEq, Repr

namespace TemplateService

/-- A template service at an address. -/
def ofUrl (url : String) : TemplateService := ⟨Http.trimBase url⟩

/-- The request for a template. -/
def request (s : TemplateService) (code : String) : Http.Request :=
  { method := "GET", url := s.base ++ "/templates/push/" ++ code }

/-- The detail of a request that had no reply. -/
def outageDetail : Http.Outage → String
  | .timeout => "operation timed out"
  | .transport detail => detail

/-- What the reply to a request says. -/
def read (code : String) : Except Http.Outage Http.Reply → Except TemplateError Template
  | .error outage => .error (.unavailable (outageDetail outage))
  | .ok r =>
    if r.status = 200 then
      match (Document.read? (Text.Utf8.cells r.body)).bind Template.ofDocument? with
      | some t => .ok t
      | none => .error (.invalid "error decoding response body")
    else if r.status = 404 then .error (.notFound code)
    else .error (.unavailable ("template service returned status " ++ Nat.repr r.status))

end TemplateService

end PushDelivery
