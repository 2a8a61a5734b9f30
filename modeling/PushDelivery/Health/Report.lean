import PushDelivery.Json.Record
import PushDelivery.Time.Clock

/-!
# Health

Every dependency of the service can be asked for its health. A report lists them in the order in
which they were registered, and is healthy if each of them is.

## Main definitions

* `Health`: the health of one dependency.
* `HealthReport`: the health of all of them, and `HealthReport.ofChecks` making it.
-/

namespace PushDelivery

/-- How a dependency is. -/
inductive HealthLevel
  | healthy
  | degraded
  | unhealthy
  deriving DecidableEq, Repr

/-- The name of a level. -/
def HealthLevel.name : HealthLevel → String
  | .healthy => "healthy"
  | .degraded => "degraded"
  | .unhealthy => "unhealthy"

/-- The health of a dependency, with a detail. -/
structure Health where
  level : HealthLevel
  detail : Option String
  deriving DecidableEq, Repr

namespace Health

/-- All is well. -/
def healthy : Health := ⟨.healthy, none⟩

/-- Works with restrictions. -/
def degraded (detail : String) : Health := ⟨.degraded, some detail⟩

/-- Does not work. -/
def unhealthy (detail : String) : Health := ⟨.unhealthy, some detail⟩

/-- Whether all is well. -/
def isHealthy (h : Health) : Bool := h.level == .healthy

/-- The fields of a health. -/
def fields (h : Health) : List (Option (String × Json)) :=
  [Json.always "status" (.str h.level.name), Json.ifSome "detail" h.detail .str]

/-- A health as a value. -/
def json (h : Health) : Json := .record h.fields

end Health

/-- The health of every dependency, by name. -/
structure HealthReport where
  dependencies : List (String × Health)
  deriving Repr

namespace HealthReport

/-- Whether every dependency is healthy. -/
def isHealthy (r : HealthReport) : Bool := r.dependencies.all (·.2.isHealthy)

/-- The name of the overall state. -/
def status (r : HealthReport) : String := if r.isHealthy then "healthy" else "degraded"

/-- The dependencies as a value. -/
def dependenciesJson (r : HealthReport) : Json :=
  .arr (r.dependencies.map fun d => .record (Json.always "name" (.str d.1) :: d.2.fields))

/-- A report as a value. -/
def json (r : HealthReport) : Json :=
  .record [
    Json.always "status" (.str r.status),
    Json.always "dependencies" r.dependenciesJson]

end HealthReport

/-- A check of a dependency, and how long it takes. -/
structure HealthCheck where
  name : String
  health : Health
  delay : Duration := 0
  deriving DecidableEq, Repr

namespace HealthReport

/-- The report of checks that are made side by side, and how long they take together. -/
def ofChecks (checks : List HealthCheck) : HealthReport × Duration :=
  (⟨checks.map fun c => (c.name, c.health)⟩, (checks.map (·.delay)).foldl max 0)

end HealthReport

end PushDelivery
