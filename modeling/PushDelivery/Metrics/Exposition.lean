import PushDelivery.Metrics.Registry

/-!
# The text form of metrics

Metrics are exposed as lines of text: for each family its help, its kind and a line per label.
Families come in the order of their names and labels in their own order. A family whose labels were
never used is left out.

## Main definitions

* `Metrics.lines`: all lines.
-/

namespace PushDelivery

namespace Metrics

/-- The lines of a family before its samples. -/
def heading (name help kind : String) : List String :=
  ["# HELP " ++ name ++ " " ++ help, "# TYPE " ++ name ++ " " ++ kind]

/-- A family of a single number. -/
def plain (name help kind : String) (value : Nat) : List String :=
  heading name help kind ++ [name ++ " " ++ Nat.repr value]

/-- A character of a label. -/
def escapeLabel (c : Char) : List Char :=
  if c = '\\' then ['\\', '\\']
  else if c = '\n' then ['\\', 'n']
  else if c = '"' then ['\\', '"']
  else [c]

/-- A sample under a label. -/
def sample (name key label : String) (value : Nat) : String :=
  name ++ "\x7b" ++ key ++ "=\"" ++ String.ofList (label.toList.flatMap escapeLabel) ++ "\"\x7d " ++
    Nat.repr value

/-- A family with a number for each label. -/
def labelled (name help kind key : String) (values : Tally) : List String :=
  if values = [] then []
  else heading name help kind ++ values.map fun (label, n) => sample name key label n

/-- A duration in seconds, rounded to six decimals and without trailing zeros. -/
def secondsText (d : Duration) : String :=
  let micros := (d + 500) / 1000
  let digits := Nat.toDigits 10 (micros % 1000000)
  let fraction := (List.replicate (6 - digits.length) '0' ++ digits).reverse.dropWhile (· = '0')
  let whole := Nat.repr (micros / 1000000)
  if fraction = [] then whole else whole ++ "." ++ String.ofList fraction.reverse

/-- A family of a histogram. -/
def histogram (name help : String) (h : Histogram) : List String :=
  heading name help "histogram" ++
    h.counts.map (fun (bound, _, n) => sample (name ++ "_bucket") "le" bound n) ++
    [sample (name ++ "_bucket") "le" "+Inf" h.count,
      name ++ "_sum " ++ secondsText h.sum,
      name ++ "_count " ++ Nat.repr h.count]

/-- The lines of all metrics. -/
def lines (m : Metrics) : List String :=
  plain "push_broker_connected" "Broker connection status (1=connected, 0=disconnected)" "gauge"
      m.brokerConnected ++
    plain "push_broker_reconnections_total" "Total successful broker reconnections" "counter"
      m.reconnections ++
    labelled "push_circuit_breaker_rejections_total" "Total calls rejected by an open circuit"
      "counter" "breaker" m.breakerRejections ++
    labelled "push_circuit_breaker_state" "Circuit breaker state (0=closed, 1=open, 2=half-open)"
      "gauge" "breaker" m.breakerState ++
    labelled "push_device_sends_total" "Total per-device send results" "counter" "result"
      m.deviceSends ++
    plain "push_duplicates_suppressed_total" "Total jobs suppressed as duplicates" "counter"
      m.duplicates ++
    labelled "push_guard_errors_total" "Total guard store errors by operation" "counter"
      "operation" m.guardErrors ++
    histogram "push_job_processing_seconds" "Job processing latency in seconds" m.processing ++
    labelled "push_jobs_dead_lettered_total" "Total jobs dead-lettered by reason" "counter"
      "reason" m.jobsDeadLettered ++
    labelled "push_jobs_processed_total" "Total jobs processed by outcome" "counter" "outcome"
      m.jobsProcessed ++
    plain "push_jobs_received_total" "Total jobs received from the push queue" "counter"
      m.jobsReceived ++
    plain "push_messages_malformed_total" "Total undecodable messages rejected without requeue"
      "counter" m.malformed ++
    labelled "push_messages_published_total" "Total messages published by queue" "counter" "queue"
      m.published ++
    plain "push_rate_limited_total" "Total jobs rejected by the per-user rate limit" "counter"
      m.rateLimited ++
    plain "push_retry_attempts_total" "Total retry backoffs scheduled" "counter" m.retries

end Metrics

end PushDelivery
