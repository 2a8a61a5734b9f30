import PushDelivery.Decimal.Integer
import PushDelivery.Guard.Decision
import PushDelivery.Health.Report
import PushDelivery.Text.Utf8

/-!
# The guard store on a Redis server

Here the keys of the guard live on a server that several services share. Counting runs as a script
on the server, so that a new counter and its expiry are one operation. The connection is opened when
it is first needed, kept, and opened anew after it was lost.

## Main definitions

* `Redis.Request`, `Redis.interface`: what the store asks of a server.
* `Redis.lookup`, `Redis.write`, `Redis.increment`, `Redis.ping`: the operations, as runs. Each
  takes whether there is a connection and gives that back.
-/

namespace PushDelivery.Redis

open Decimal (integer? integerText isSigned64 wordSize)

/-- A value in a reply. -/
inductive Value
  | int (value : Int)
  | bulk (octets : List UInt8)
  | simple (text : String)
  | null
  deriving DecidableEq, Repr

/-- A reply: a value, an error of the server, or none since the connection was lost. -/
inductive Reply
  | value (value : Value)
  | error (line : String)
  | lost (detail : String)
  deriving DecidableEq, Repr

/-- What is asked of a server: a connection, or the execution of a command. -/
inductive Request
  | open
  | command (arguments : List String)
  deriving DecidableEq, Repr

/-- What is answered; a connection that cannot be had has a reason. -/
abbrev Request.Answer : Request → Type
  | .open => Except String Unit
  | .command _ => Reply

/-- The side of the store to a server. -/
abbrev interface : Interface := ⟨Request, Request.Answer⟩

/-- A request to a server. -/
abbrev request (r : Request) : Run interface r.Answer := Run.request (I := interface) r

/-- The script that counts: a new counter expires after the time it is given. -/
def countScript : String :=
  "\nlocal current = redis.call('INCR', KEYS[1])\nif current == 1 then\n" ++
    "    redis.call('EXPIRE', KEYS[1], ARGV[1])\nend\nreturn current\n"

/-- A connection, if there is none yet. -/
def connect (connected : Bool) : Run interface (Except String Unit) :=
  if connected then pure (.ok ()) else request .open

/-- Runs commands over a connection. The connection is gone only after it was lost. -/
def onLink {α : Type} (connected : Bool) (commands : Run interface (Except Reply α)) :
    Run interface (Except GuardError α × Bool) := do
  match ← connect connected with
  | .error detail => pure (.error (.connection detail), false)
  | .ok () =>
    match ← commands with
    | .ok a => pure (.ok a, true)
    | .error (.lost detail) => pure (.error (.connection detail), false)
    | .error (.error line) => pure (.error (.connection line), true)
    | .error (.value _) => pure (.error (.connection "unexpected reply"), true)

/-- A single command. -/
def command (arguments : List String) : Run interface (Except Reply Value) := do
  match ← request (.command arguments) with
  | .value v => pure (.ok v)
  | failure => pure (.error failure)

/-- Whether an error says that the server does not know a script. -/
def isUnknownScript (line : String) : Bool := "NOSCRIPT".toList.isPrefixOf line.toList

/-- A call of the script that counts, which is sent along if the server does not know it. -/
def callScript (arguments : List String) : Run interface (Except Reply Value) := do
  match ← command ("EVALSHA" :: arguments) with
  | .error (.error line) =>
    if isUnknownScript line then
      match ← command ["SCRIPT", "LOAD", countScript] with
      | .ok _ => command ("EVALSHA" :: arguments)
      | .error failure => pure (.error failure)
    else pure (.error (.error line))
  | result => pure result

/-- The text of a value. -/
def Value.text? : Value → Option String
  | .int i => some (integerText i)
  | .bulk octets => Text.Utf8.text? octets
  | .simple s => some s
  | .null => none

/-- The number of a value, which is within range if it is spelled as a text. -/
def Value.number? (isInRange : Int → Bool) : Value → Option Int
  | .int i => some i
  | .bulk octets =>
    ((Text.Utf8.text? octets).bind fun s => integer? s.toList).filter isInRange
  | .simple s => (integer? s.toList).filter isInRange
  | .null => none

/-- The failure to read a value at a key. -/
def malformed (key : String) : GuardError :=
  .malformedValue key "response was of incompatible type"

/-- The seconds of a time, at least one. -/
def secondsText (d : Duration) : String := Nat.repr (max 1 (Duration.seconds d))

/-- Whether a key is there. -/
def lookup (connected : Bool) (key : String) : Run interface (Except GuardError Bool × Bool) := do
  let (result, connected) ← onLink connected (command ["EXISTS", key])
  pure (match result with
    | .error e => .error e
    | .ok v =>
      match v.number? isSigned64 with
      | some count => .ok (0 < count)
      | none => .error (malformed key), connected)

/-- Writes a text. -/
def write (connected : Bool) (key value : String) (ttl : Duration) :
    Run interface (Except GuardError Unit × Bool) := do
  let (result, connected) ← onLink connected (command ["SET", key, value, "EX", secondsText ttl])
  pure (result.map fun _ => (), connected)

/-- Counts one more at a key. A negative integer stands for one of 64 bits without a sign. -/
def increment (connected : Bool) (key : String) (window : Duration) :
    Run interface (Except GuardError Nat × Bool) := do
  let (result, connected) ← onLink connected (callScript ["1", key, secondsText window])
  pure (match result with
    | .error e => .error e
    | .ok v =>
      match v.number? fun i => 0 ≤ i && i < (wordSize 64 : Int) with
      | some count => .ok (count % (wordSize 64 : Int)).toNat
      | none => .error (malformed key), connected)

/-- The health of the server, by its answer to a ping. -/
def ping (connected : Bool) : Run interface (Health × Bool) := do
  let (result, connected) ← onLink connected (command ["PING"])
  pure (match result with
    | .error e => .unhealthy e.message
    | .ok v =>
      match v.text? with
      | some "PONG" => .healthy
      | some other => .degraded ("unexpected PING reply: " ++ other)
      | none => .unhealthy (malformed "PING").message, connected)

end PushDelivery.Redis
