import Mathlib.Logic.Function.Basic
import PushDelivery.Guard.Redis
import PushDelivery.Proofs.Decimal.Digits

/-!
# A Redis Server

The guard store on a Redis server asks for commands and takes the replies as they come. This module
has a server that gives these replies: keys hold strings, an item is live strictly before its
expiry, and the script that counts runs without anything in between. Over this server each operation
of the store is one equation.

## Conventions

Commands take no time, so all commands of one operation are executed at one instant. Numbers are
those of the server: 64 bits with a sign, spelled without a plus sign or needless zeros. A script is
called by a hash; as the store has one script only, the hash is left out, here as in the commands of
the store. What the server does not represent it refuses, among it expiries beyond its `reach`.

## Main definitions

* `Server`: what is held at each key.
* `Server.execute`: one command.
* `Server.serve`: the server as the other side of the store.

## Main results

* `Server.serve_lookup`, `Server.serve_write`, `Server.serve_increment`: the operations of the
  store.
-/

namespace PushDelivery.Redis

open Decimal (integer? integer?_writeInteger integerText isSigned64 natural? natural?_toDigits
  wordSize)

/-- The value of a reply, or the failure that it is. -/
def Reply.result : Reply → Except Reply Value
  | .value v => .ok v
  | failure => .error failure

/-- What is left of commands over a connection: their result, and whether the connection is. -/
def onLinkResult {α : Type} : Except Reply α → Except GuardError α × Bool
  | .ok a => (.ok a, true)
  | .error (.lost detail) => (.error (.connection detail), false)
  | .error (.error line) => (.error (.connection line), true)
  | .error (.value _) => (.error (.connection "unexpected reply"), true)

/-- What is held at a key: a string, and the instant of its expiry, if it expires. -/
structure Item where
  value : String
  expiry : Option Instant
  deriving DecidableEq, Repr

/-- An item is live strictly before its expiry. -/
def Item.isLive (i : Item) (now : Instant) : Bool := i.expiry.all (now < ·)

/-- A server: its keys, whether it knows the script that counts, and the expiries that it can
represent. -/
structure Server where
  items : String → Option Item := fun _ => none
  knowsScript : Bool := false
  reach : Instant := Instant.horizon

namespace Server

/-! ### Commands -/

/-- The live item at a key. -/
def item? (v : Server) (now : Instant) (key : String) : Option Item :=
  (v.items key).filter (·.isLive now)

/-- Puts an item at a key. -/
def put (v : Server) (key : String) (i : Item) : Server :=
  { v with items := Function.update v.items key (some i) }

/-- The integer of 64 bits that a string spells. -/
def integerOf? (s : String) : Option Int :=
  (integer? s.toList).filter fun n => integerText n = s && isSigned64 n

/-- Counts one more at a key, and keeps its expiry. A new key starts at one and does not expire. -/
def incr (v : Server) (now : Instant) (key : String) : Option Int × Server :=
  match v.item? now key with
  | none => (some 1, v.put key ⟨integerText 1, none⟩)
  | some i =>
    match (integerOf? i.value).filter fun n => isSigned64 (n + 1) with
    | some n => (some (n + 1), v.put key { i with value := integerText (n + 1) })
    | none => (none, v)

/-- The instant some seconds ahead, as far as the server reaches. -/
def expiry? (v : Server) (now : Instant) (seconds : String) : Option Instant :=
  (natural? seconds.toList).bind fun n =>
    if now + Duration.ofSeconds n < v.reach then some (now + Duration.ofSeconds n) else none

/-- Lets a key expire after some seconds. -/
def expire? (v : Server) (now : Instant) (key seconds : String) : Option Server :=
  match v.item? now key with
  | none => some v
  | some i => (v.expiry? now seconds).map fun e => v.put key { i with expiry := some e }

/-- The refusal of a value that is no number. -/
def notInteger : Reply := .error "ERR value is not an integer or out of range"

/-- The refusal of an expiry. -/
def invalidExpiry : Reply := .error "ERR invalid expire time"

/-- The refusal of a script that was not sent along. -/
def unknownScript : Reply := .error "NOSCRIPT No matching script. Please use EVAL."

/-- The script: counts, and lets a new counter expire. What was counted before a failure stays. -/
def count (v : Server) (now : Instant) (key seconds : String) : Reply × Server :=
  match v.incr now key with
  | (none, v) => (notInteger, v)
  | (some n, v) =>
    if n = 1 then
      match v.expire? now key seconds with
      | some v => (.value (.int n), v)
      | none => (invalidExpiry, v)
    else (.value (.int n), v)

/-- Writes a string that expires after some seconds, at least one. -/
def set (v : Server) (now : Instant) (key value seconds : String) : Reply × Server :=
  match (v.expiry? now seconds).filter (now < ·) with
  | some e => (.value (.simple "OK"), v.put key ⟨value, some e⟩)
  | none => (invalidExpiry, v)

/-- Takes a script along. -/
def load (v : Server) (script : String) : Reply × Server :=
  (.value (.simple "OK"), { v with knowsScript := v.knowsScript || script == countScript })

/-- One command. -/
def execute (v : Server) (now : Instant) : List String → Reply × Server
  | ["EXISTS", key] => (.value (.int (if (v.item? now key).isSome then 1 else 0)), v)
  | ["SET", key, value, "EX", seconds] => v.set now key value seconds
  | ["EVALSHA", "1", key, seconds] =>
    if v.knowsScript then v.count now key seconds else (unknownScript, v)
  | ["SCRIPT", "LOAD", script] => v.load script
  | ["PING"] => (.value (.simple "PONG"), v)
  | _ => (.error "ERR unknown command", v)

/-- The server as the other side of the store. -/
def serve {α : Type} (now : Instant) : Run interface α → Server → α × Server
  | .done a, v => (a, v)
  | .ask .open next, v => serve now (next (.ok ())) v
  | .ask (.command arguments) next, v =>
    let (reply, v) := v.execute now arguments
    serve now (next reply) v

/-! ### Operations of the store -/

variable {now : Instant}

/-- One run after the other. -/
theorem serve_bind {α β : Type} (run : Run interface α) (f : α → Run interface β) (v : Server) :
    serve now (run >>= f) v = serve now (f (serve now run v).1) (serve now run v).2 := by
  induction run generalizing v with
  | done a => rfl
  | ask r next ih =>
      cases r with
      | «open» => exact ih _ v
      | command arguments => exact ih _ _

/-- A command is executed. -/
theorem serve_command (arguments : List String) (v : Server) :
    serve now (command arguments) v =
      ((v.execute now arguments).1.result, (v.execute now arguments).2) := by
  unfold command
  rw [serve_bind]
  have run : serve now (request (.command arguments)) v = v.execute now arguments := rfl
  rw [run]
  cases (v.execute now arguments).1 <;> rfl

/-- Commands find a connection, or make one. -/
theorem serve_onLink {α : Type} (connected : Bool) (commands : Run interface (Except Reply α))
    (v : Server) : serve now (onLink connected commands) v =
      (onLinkResult (serve now commands v).1, (serve now commands v).2) := by
  have linked : serve now (connect connected) v = (.ok (), v) := by cases connected <;> rfl
  unfold onLink
  rw [serve_bind, linked]
  dsimp only
  rw [serve_bind]
  rcases (serve now commands v).1 with (_ | _ | _) | _ <;> rfl

/-- **A lookup** finds what is live. -/
theorem serve_lookup (v : Server) (connected : Bool) (key : String) :
    serve now (lookup connected key) v = ((.ok (v.item? now key).isSome, true), v) := by
  unfold lookup
  rw [serve_bind, serve_onLink, serve_command, execute]
  cases (v.item? now key).isSome <;> rfl

/-- The seconds of a time are read as they were written. -/
theorem natural?_secondsText (d : Duration) :
    natural? (secondsText d).toList = some (max 1 (Duration.seconds d)) := by
  rw [secondsText, Nat.repr, String.toList_ofList, natural?_toDigits]

/-- The time that a server gives for a time it is asked for: whole seconds, one at least. -/
def life (d : Duration) : Duration := Duration.ofSeconds (max 1 (Duration.seconds d))

/-- It is some time. -/
theorem life_pos (d : Duration) : 0 < life d :=
  Nat.mul_pos (Nat.lt_of_lt_of_le Nat.one_pos (Nat.le_max_left 1 _)) (by decide)

/-- The server represents an expiry within its reach. -/
theorem expiry?_secondsText {v : Server} {d : Duration} (reached : now + life d < v.reach) :
    v.expiry? now (secondsText d) = some (now + life d) := by
  rw [expiry?, natural?_secondsText, Option.bind_some]
  exact if_pos reached

/-- **A write** puts a text at its key, for the time that the server gives. -/
theorem serve_write {v : Server} {ttl : Duration} (reached : now + life ttl < v.reach)
    (connected : Bool) (key value : String) :
    serve now (write connected key value ttl) v =
      ((.ok (), true), v.put key ⟨value, some (now + life ttl)⟩) := by
  have hexpiry : (v.expiry? now (secondsText ttl)).filter (now < ·) = some (now + life ttl) := by
    rw [expiry?_secondsText reached]
    exact Option.filter_some_pos (decide_eq_true (Nat.lt_add_of_pos_right (life_pos ttl)))
  unfold write
  rw [serve_bind, serve_onLink, serve_command, execute, set, hexpiry]
  rfl

/-- A server that knows the script. -/
def knowing (v : Server) : Server := { v with knowsScript := true }

/-- What the script replies to, if it fails, is no unknown script. -/
theorem count_known {v : Server} {key seconds line : String}
    (h : (v.count now key seconds).1 = .error line) : isUnknownScript line = false := by
  have hrefused : line = "ERR value is not an integer or out of range" ∨
      line = "ERR invalid expire time" := by
    unfold count at h
    split at h
    · exact .inl (Reply.error.inj h).symm
    · split at h
      · split at h
        · cases h
        · exact .inr (Reply.error.inj h).symm
      · cases h
  rcases hrefused with rfl | rfl <;> decide

/-- A script is called, and sent along if the server does not know it. -/
theorem serve_callScript (v : Server) (key seconds : String) :
    serve now (callScript ["1", key, seconds]) v =
      ((v.knowing.count now key seconds).1.result, (v.knowing.count now key seconds).2) := by
  have known : ∀ v : Server, v.knowsScript = true →
      v.execute now ["EVALSHA", "1", key, seconds] = v.count now key seconds :=
    fun v hv => if_pos hv
  unfold callScript
  rw [serve_bind, serve_command]
  by_cases hv : v.knowsScript = true
  · have hsame : v.knowing = v := by rw [knowing, ← hv]
    rw [known v hv, hsame]
    cases hreply : (v.count now key seconds).1 with
    | value value => rfl
    | lost detail => rfl
    | error line =>
        have hknown : isUnknownScript line = false := count_known hreply
        simp only [Reply.result, hknown]
        rfl
  · have hrefused : v.execute now ["EVALSHA", "1", key, seconds] = (unknownScript, v) := if_neg hv
    have hload : v.load countScript = (.value (.simple "OK"), v.knowing) := by
      simp [load, knowing]
    have hunknown : isUnknownScript "NOSCRIPT No matching script. Please use EVAL." = true := by
      decide
    rw [hrefused]
    simp only [Reply.result, unknownScript, hunknown, if_true]
    rw [serve_bind, serve_command, execute, hload]
    simp only [Reply.result]
    rw [serve_command, known v.knowing rfl]
    rfl

/-- **A count** runs the script, which is sent along if the server does not know it. -/
theorem serve_increment {v v' : Server} {key : String} {window : Duration} {count : Nat}
    (h : v.knowing.count now key (secondsText window) = (.value (.int count), v'))
    (fits : count < wordSize 64) (connected : Bool) :
    serve now (increment connected key window) v = ((.ok count, true), v') := by
  have hcount : ((count : Int) % (wordSize 64 : Int)).toNat = count := by
    rw [Int.emod_eq_of_lt (Int.natCast_nonneg count) (Int.ofNat_lt.mpr fits), Int.toNat_natCast]
  unfold increment
  rw [serve_bind, serve_onLink, serve_callScript, h]
  exact congrArg (fun n => ((Except.ok n, true), v')) hcount

/-- A count that the server refuses. -/
theorem serve_increment_error {v v' : Server} {key line : String} {window : Duration}
    (h : v.knowing.count now key (secondsText window) = (.error line, v')) (connected : Bool) :
    serve now (increment connected key window) v = ((.error (.connection line), true), v') := by
  unfold increment
  rw [serve_bind, serve_onLink, serve_callScript, h]
  rfl

/-! ### The script -/

/-- A number is read as it was written. -/
theorem integerOf?_integerText {n : Nat} (fits : n < wordSize 63) :
    integerOf? (integerText n) = some (n : Int) := by
  have hinteger : integer? (integerText n).toList = some (n : Int) := by
    rw [integerText, String.toList_ofList, integer?_writeInteger]
  have hsigned : isSigned64 n = true := by
    have : (n : Int) < (wordSize 63 : Int) := Int.ofNat_lt.mpr fits
    simp only [isSigned64, Bool.and_eq_true, decide_eq_true_eq]
    omega
  rw [integerOf?, hinteger, Option.filter_some_pos (by simp [hsigned])]

/-- What is live after an item was put at a key. -/
theorem item?_put (v : Server) (key : String) (i : Item) (now : Instant) (other : String) :
    (v.put key i).item? now other =
      if other = key then (some i).filter (·.isLive now) else v.item? now other := by
  unfold item? put
  dsimp only
  split
  · rename_i heq
    rw [heq, Function.update_self]
  · rename_i hne
    rw [Function.update_of_ne hne]

/-- What is live later is what is live now and does not expire until then. -/
theorem item?_later {later : Instant} (h : now ≤ later) (v : Server) (key : String) :
    v.item? later key = (v.item? now key).filter (·.isLive later) := by
  have hlive : ∀ i : Item, (i.isLive now && i.isLive later) = i.isLive later := fun i => by
    cases hexpiry : i.expiry with
    | none => simp [Item.isLive, hexpiry]
    | some e =>
        simp only [Item.isLive, hexpiry, Option.all_some, ← Bool.decide_and, decide_eq_decide]
        exact ⟨And.right, fun hlater => ⟨Nat.lt_of_le_of_lt h hlater, hlater⟩⟩
  rw [item?, item?, Option.filter_filter]
  simp only [hlive]

/-- A new counter is at one, and expires after the time that the server gives. -/
theorem count_new {v : Server} {key : String} {window : Duration} (new : v.item? now key = none)
    (reached : now + life window < v.reach) :
    v.count now key (secondsText window) =
      (.value (.int 1), v.put key ⟨integerText 1, some (now + life window)⟩) := by
  have hitem : (v.put key ⟨integerText 1, none⟩).item? now key = some ⟨integerText 1, none⟩ := by
    rw [item?_put, if_pos rfl]
    rfl
  have hexpiry : (v.put key ⟨integerText 1, none⟩).expiry? now (secondsText window) =
      some (now + life window) := expiry?_secondsText reached
  have htwice : (v.put key ⟨integerText 1, none⟩).put key
      ⟨integerText 1, some (now + life window)⟩ =
        v.put key ⟨integerText 1, some (now + life window)⟩ := by
    rw [put, put, put, Function.update_idem]
  rw [count, incr, new]
  dsimp only
  rw [if_pos rfl, expire?, hitem]
  dsimp only
  rw [hexpiry, Option.map_some, htwice]

variable {v : Server} {key : String} {i : Item} {n : Nat}

/-- A counter goes on, and keeps its expiry. -/
theorem count_next (found : v.item? now key = some i) (value : i.value = integerText n)
    (counted : 1 ≤ n) (fits : n + 1 < wordSize 63) (seconds : String) :
    v.count now key seconds =
      (.value (.int (n + 1 : Nat)), v.put key { i with value := integerText (n + 1 : Nat) }) := by
  have hsigned : isSigned64 ((n : Int) + 1) = true := by
    have : ((n + 1 : Nat) : Int) < (wordSize 63 : Int) := Int.ofNat_lt.mpr fits
    simp only [isSigned64, Bool.and_eq_true, decide_eq_true_eq]
    omega
  have hnext : (integerOf? i.value).filter (fun n => isSigned64 (n + 1)) = some (n : Int) := by
    rw [value, integerOf?_integerText (Nat.lt_of_succ_lt fits)]
    exact Option.filter_some_pos hsigned
  rw [count, incr, found]
  dsimp only
  rw [hnext]
  exact if_neg (by omega)

/-- A counter that has reached the greatest number does not go on. -/
theorem count_full (found : v.item? now key = some i) (value : i.value = integerText n)
    (full : n + 1 = wordSize 63) (seconds : String) :
    v.count now key seconds = (notInteger, v) := by
  have hover : isSigned64 ((n : Int) + 1) = false := by
    have : ((n + 1 : Nat) : Int) = (wordSize 63 : Int) := congrArg Int.ofNat full
    simp only [isSigned64, Bool.and_eq_false_iff, decide_eq_false_iff_not]
    omega
  have hnext : (integerOf? i.value).filter (fun n => isSigned64 (n + 1)) = none := by
    rw [value, integerOf?_integerText (by omega), Option.filter_some_neg (by simp [hover])]
  rw [count, incr, found]
  dsimp only
  rw [hnext]

/-- A text is not counted at. -/
theorem count_text (found : v.item? now key = some i) (text : integerOf? i.value = none)
    (seconds : String) : v.count now key seconds = (notInteger, v) := by
  rw [count, incr, found]
  dsimp only
  rw [text]
  rfl

end Server

end PushDelivery.Redis
