import PushDelivery.Settings.Basic
import PushDelivery.Settings.Dotenv
import PushDelivery.Settings.Field
import PushDelivery.Settings.Files
import PushDelivery.Settings.Path

/-!
# Loading the settings

Settings come in layers: defaults, a file for all run modes, a file for the run mode, and the
environment. What a later layer says about a setting replaces what an earlier one said.

## Main definitions

* `Source`: the environment, an environment file, and the files by their names.
* `Settings.gather`: the layers laid over one another.
* `Settings.read`: the settings that raw settings spell.
* `Settings.load`: both.
-/

namespace PushDelivery.Settings

/-- Where settings come from: the environment, the text of an environment file, and files. -/
structure Source where
  environment : Environment := []
  dotenv : Option String := none
  files : Files := []

namespace Source

/-- The variables that are set once the environment file is read. -/
def loaded (s : Source) : Environment :=
  match s.dotenv with
  | some text => Dotenv.load s.environment text
  | none => s.environment

/-- The run mode. -/
def runMode (s : Source) : String := (s.loaded.lookup "RUN_MODE").getD "development"

end Source

/-- The defaults that come before all layers. -/
def defaults : Value :=
  let text (s : String) : Value := .scalar none (.str s)
  let number (i : Int) : Value := .scalar none (.int i)
  .table none [
    ("server", .table none [("host", text "0.0.0.0"), ("port", number 8082)]),
    ("rabbitmq", .table none [("backend", text "amqp"), ("prefetch_count", number 10)]),
    ("redis", .table none [("backend", text "redis"), ("url", text "redis://localhost:6379")])]

/-- Two underscores separate keys too. -/
def pointed : List Char → List Char
  | '_' :: '_' :: rest => '.' :: pointed rest
  | c :: rest => c :: pointed rest
  | [] => []

/-- Lays values over others, each at the path that its name spells. -/
def overlay (v : Value) (layer : List (List Char × Value)) : Value :=
  layer.foldl (fun v (name, w) => Value.place (Path.ofChars name) w v) v

/-- The layer of a file, which is empty if no file has the name. -/
def fileLayer (s : Source) (name : String) : Except Error (List (List Char × Value)) :=
  match s.files.find? name with
  | none => .ok []
  | some (path, .obj fields) =>
    .ok ((Value.ofFields (some path) fields).map fun (k, v) => (k.toList, v))
  | some (path, v) => .error (.file (Value.ofJson none v).found path)

/-- The layer of the environment. -/
def environmentLayer (environment : Environment) : List (List Char × Value) :=
  environment.map fun (name, text) =>
    (pointed (Text.toLower name).toList, .scalar (some "the environment") (.ofText text))

/-- The layers laid over one another. -/
def gather (s : Source) : Except Error Table := do
  let common ← fileLayer s "default"
  let special ← fileLayer s s.runMode
  let layers := [common, special, environmentLayer s.loaded]
  pure (layers.foldl overlay defaults).fields

/-- The settings of the server. -/
def readServer (t : Table) : Except Error Server := do
  let s ← Section.read t "server" "ServerConfig"
  let d : Server := {}
  pure {
    host := ← s.field 0 "host" d.host Value.text?
    port := ← s.field 1 "port" d.port (Value.natural? 16) }

/-- The settings of the broker. -/
def readBroker (t : Table) : Except Error Broker := do
  let s ← Section.read t "rabbitmq" "RabbitMqConfig"
  let d : Broker := {}
  pure {
    backend := ← s.field 0 "backend" d.backend Value.text?
    url := ← s.field 1 "url" d.url Value.text?
    exchange := ← s.field 2 "exchange" d.exchange Value.text?
    pushQueue := ← s.field 3 "push_queue" d.pushQueue Value.text?
    failedQueue := ← s.field 4 "failed_queue" d.failedQueue Value.text?
    statusQueue := ← s.field 5 "status_queue" d.statusQueue Value.text?
    prefetchCount := ← s.field 6 "prefetch_count" d.prefetchCount (Value.natural? 16)
    reconnectDelaySecs := ← s.field 7 "reconnect_delay_secs" d.reconnectDelaySecs Value.word? }

/-- The settings of the guard store. -/
def readGuardStore (t : Table) : Except Error GuardStore := do
  let s ← Section.read t "redis" "RedisConfig"
  let d : GuardStore := {}
  pure {
    backend := ← s.field 0 "backend" d.backend Value.text?
    url := ← s.field 1 "url" d.url Value.text? }

/-- The settings of the push gateway. -/
def readPush (t : Table) : Except Error Push := do
  let s ← Section.read t "push" "PushConfig"
  let d : Push := {}
  pure {
    gatewayUrl := ← s.field 0 "gateway_url" d.gatewayUrl Value.text?
    apiKey := ← s.nullable 1 "api_key" "struct PushConfig with 3 elements"
    timeoutSecs := ← s.field 2 "timeout_secs" d.timeoutSecs Value.word? }

/-- The settings of the template service. -/
def readTemplates (t : Table) : Except Error Templates := do
  let s ← Section.read t "template" "TemplateConfig"
  let d : Templates := {}
  pure {
    serviceUrl := ← s.field 0 "service_url" d.serviceUrl Value.text?
    timeoutSecs := ← s.field 1 "timeout_secs" d.timeoutSecs Value.word? }

/-- The settings of the breaker. -/
def readCircuitBreaker (t : Table) : Except Error CircuitBreaker := do
  let s ← Section.read t "circuit_breaker" "CircuitBreakerSettings"
  let d : CircuitBreaker := {}
  pure {
    maxRequests := ← s.field 0 "max_requests" d.maxRequests (Value.natural? 32)
    failureThreshold := ← s.field 1 "failure_threshold" d.failureThreshold (Value.natural? 32)
    intervalSecs := ← s.field 2 "interval_secs" d.intervalSecs Value.word?
    timeoutSecs := ← s.field 3 "timeout_secs" d.timeoutSecs Value.word? }

/-- The settings of the attempts. -/
def readRetry (t : Table) : Except Error Retry := do
  let s ← Section.read t "retry" "RetrySettings"
  let d : Retry := {}
  pure {
    maxAttempts := ← s.field 0 "max_attempts" d.maxAttempts (Value.natural? 32)
    initialIntervalSecs := ← s.field 1 "initial_interval_secs" d.initialIntervalSecs Value.word?
    maxIntervalSecs := ← s.field 2 "max_interval_secs" d.maxIntervalSecs Value.word?
    multiplier := ← s.field 3 "multiplier" d.multiplier Value.number? }

/-- The settings of the limit. -/
def readRateLimit (t : Table) : Except Error RateLimit := do
  let s ← Section.read t "rate_limit" "RateLimitConfig"
  let d : RateLimit := {}
  pure {
    requests := ← s.field 0 "requests" d.requests Value.word?
    windowSecs := ← s.field 1 "window_secs" d.windowSecs Value.word? }

/-- The settings of logs and traces. -/
def readTelemetry (t : Table) : Except Error Telemetry := do
  let s ← Section.read t "otel" "OtelConfig"
  let d : Telemetry := {}
  pure {
    enabled := ← s.field 0 "enabled" d.enabled Value.truth?
    endpoint := ← s.field 1 "endpoint" d.endpoint Value.text?
    serviceName := ← s.field 2 "service_name" d.serviceName Value.text?
    samplingRatio := ← s.field 3 "sampling_ratio" d.samplingRatio Value.number?
    jsonLogs := ← s.field 4 "json_logs" d.jsonLogs Value.truth? }

/-- The settings that raw settings spell. -/
def read (t : Table) : Except Error Settings := do
  pure {
    server := ← readServer t
    broker := ← readBroker t
    guardStore := ← readGuardStore t
    push := ← readPush t
    templates := ← readTemplates t
    circuitBreaker := ← readCircuitBreaker t
    retry := ← readRetry t
    rateLimit := ← readRateLimit t
    telemetry := ← readTelemetry t }

/-- The settings of a source. -/
def load (s : Source) : Except Error Settings := do
  read (← gather s)

end PushDelivery.Settings
