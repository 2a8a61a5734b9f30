import PushDelivery.Http.Response
import PushDelivery.Metrics.Exposition
import PushDelivery.Transport.Station

/-!
# The operational endpoints

The service answers for its health, its statistics and its metrics.

## Main definitions

* `Http.respond`: the response to a request.
-/

namespace PushDelivery.Http

/-- The version of the service. -/
def version : String := "1.0.0"

/-- The seconds since the service started. -/
def uptime (s : Station) : Json := .ofNat (Duration.seconds s.now)

/-- The health of every dependency. -/
def health (s : Station) : Response :=
  let report := s.health
  .ofJson (if report.isHealthy then 200 else 503) (.record [
    Json.always "status" (.str report.status),
    Json.always "version" (.str version),
    Json.always "uptime_seconds" (uptime s),
    Json.always "dependencies" report.dependenciesJson])

/-- The statistics of every part. -/
def statistics (s : Station) : Response :=
  .ofJson 200 (.record [
    Json.always "uptime_seconds" (uptime s),
    Json.always "circuit_breaker" (s.breaker.json s.breakerName),
    Json.always "delivery" s.stats.json,
    Json.always "transport" (s.link.json s.topology)])

/-- Metrics that change only with a state are brought up to date. -/
def refresh (s : Station) : Station :=
  { s with
    metrics := (s.metrics.setBreaker s.breakerName s.breaker.circuit).setConnected
      (s.link.state == .connected) }

/-- The metrics. -/
def metrics (s : Station) : Response :=
  { status := 200
    contentType := some "text/plain; version=0.0.4; charset=utf-8"
    body := .lines s.metrics.lines }

/-- What follows the scheme and the authority of a target that names them. -/
def afterAuthority? (target : List Char) : Option (List Char) :=
  let isSchemeChar (c : Char) : Bool := c.isAlphanum || c == '+' || c == '-' || c == '.'
  match target.dropWhile isSchemeChar with
  | ':' :: '/' :: '/' :: rest => some (rest.dropWhile fun c => c ≠ '/' ∧ c ≠ '?' ∧ c ≠ '#')
  | _ => none

/-- The path of a request target, which may name the scheme and the authority before it. A target
that begins with neither has no path. -/
def pathOf (target : String) : String :=
  let isPathChar (c : Char) : Bool := c ≠ '?' && c ≠ '#'
  match target.toList with
  | '/' :: rest => String.ofList ('/' :: rest.takeWhile isPathChar)
  | cs =>
    match afterAuthority? cs with
    | some rest =>
      let path := rest.takeWhile isPathChar
      if path = [] then "/" else String.ofList path
    | none => ""

/-- The response of an endpoint, if there is one at a path. -/
def endpoint? (s : Station) (path : String) : Option (Response × Station) :=
  if path = "/health" then some (health s, s)
  else if path = "/stats" then some (statistics s, s)
  else if path = "/metrics" then
    let s := refresh s
    some (metrics s, s)
  else none

/-- The response to a request. Endpoints can be read, with or without their body. -/
def respond (s : Station) (method target : String) : Response × Station :=
  match endpoint? s (pathOf target) with
  | none => ({ status := 404 }, s)
  | some (response, refreshed) =>
    if method = "GET" then (response, refreshed)
    else if method = "HEAD" then ({ response with body := .empty }, refreshed)
    else ({ status := 405, allow := some "GET,HEAD" }, s)

end PushDelivery.Http
