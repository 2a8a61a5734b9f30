import PushDelivery.Proofs.Guard.Memory
import PushDelivery.Proofs.Guard.Server

/-!
# Two Stores of One Guard

The guard keeps its memory in a store in memory, or in one on a Redis server. The one removes what
has expired when it happens to look, counts in place, and keeps times to the nanosecond; the other
leaves expiry to the server, counts by a script, and asks for whole seconds, one at least. This
module compares them over every sequence of operations of the guard.

What the stores have in common is what is live: at each key both have the same value with the same
expiry, whatever has expired and is still in place. Each request keeps that, and so does the passage
of time, so the guard decides alike over both. There are two limits to it. A window of no time is
empty in memory and lasts a second on a server; and a server counts to `2 ^ 63 - 1`, which memory
does not stop at.

## Main definitions

* `Guard.Operation`, `Guard.course`: operations of the guard, and what it decides on each.
* `Redis.Client`: the store on a server.
* `Guard.Agree`: the same is live in both stores.

## Main results

* `Guard.Agree.decide`: an operation is decided alike, and leaves stores that agree.
* `Guard.alike_of_window`: all operations are decided alike, if the window is a second at least.
* `Guard.requests_full`: the request that a server does not count.
* `Guard.differs_at_limits`: what happens at the two limits.
-/

namespace PushDelivery

open Decimal (integerText wordSize)

/-! ### Operations of the guard -/

namespace Guard

/-- What the guard is asked. -/
inductive Operation
  | checkRate (userId : String)
  | isDuplicate (jobId : String)
  | markProcessed (jobId : String)
  deriving DecidableEq, Repr

/-- What the guard answers. -/
inductive Verdict
  | rate (decision : Decision)
  | duplicate (found : Bool)
  | marked
  deriving DecidableEq, Repr

/-- An operation, as a run. -/
def decide (g : Guard) : Operation → Run interface Verdict
  | .checkRate userId => Verdict.rate <$> g.checkRate userId
  | .isDuplicate jobId => Verdict.duplicate <$> isDuplicate jobId
  | .markProcessed jobId => (fun _ => Verdict.marked) <$> markProcessed jobId

variable {S : Type}

/-- A run over a store, at one instant. A request that is not answered ends it. -/
def conduct {α : Type} (perform : S → Instant → (r : Request) → Option (interface.Answer r) × S)
    (now : Instant) : Run interface α → S → Option α × S
  | .done a, s => (some a, s)
  | .ask r next, s =>
    match perform s now r with
    | (some answer, s) => conduct perform now (next answer) s
    | (none, s) => (none, s)

/-- Operations one after the other, each at its instant: what is answered, and the store that is
left. -/
def course (perform : S → Instant → (r : Request) → Option (interface.Answer r) × S) (g : Guard) :
    List (Instant × Operation) → S → List (Option Verdict) × S
  | [], s => ([], s)
  | (now, operation) :: rest, s =>
    let (verdict, s) := conduct perform now (g.decide operation) s
    let (verdicts, s) := course perform g rest s
    (verdict :: verdicts, s)

end Guard

/-! ### The store on a server -/

namespace Redis

/-- The store on a server: the server, and whether there is a connection to it. -/
structure Client where
  server : Server := {}
  connected : Bool := false

/-- What the store asks of a server for a request of the guard. -/
def operate (connected : Bool) :
    (r : Guard.Request) → Run interface (Guard.interface.Answer r × Bool)
  | .increment key window => increment connected key window
  | .lookup key => lookup connected key
  | .write key value ttl => write connected key value ttl
  | .letPass _ => pure ((), connected)

/-- The store as the other side of the guard. It answers every request. -/
def Client.perform (c : Client) (now : Instant) (r : Guard.Request) :
    Option (Guard.interface.Answer r) × Client :=
  let ((answer, connected), server) := Server.serve now (operate c.connected r) c.server
  (some answer, ⟨server, connected⟩)

end Redis

/-! ### What is live in memory -/

namespace Store

/-- The live entry at a key. -/
def item? (s : Store) (now : Instant) (key : String) : Option Entry :=
  (s.entry? key).filter (·.isLive now)

/-- No key has two entries. -/
def Distinct (s : Store) : Prop := (s.entries.map (·.1)).Nodup

variable {s : Store} {now : Instant} {key : String}

/-- Of distinct entries, some of them are distinct. -/
theorem Distinct.filter (h : s.Distinct) (p : String × Entry → Bool) :
    Distinct { s with entries := s.entries.filter p } :=
  h.sublist ((List.filter_sublist).map _)

/-- Of distinct entries, a filter lets the entry of a key pass, or there is none. -/
theorem lookup_filter_of_nodup {entries : List (String × Entry)}
    (h : (entries.map (·.1)).Nodup) (p : String × Entry → Bool) :
    (entries.filter p).lookup key = (entries.lookup key).filter fun e => p (key, e) := by
  induction entries with
  | nil => rfl
  | cons entry rest ih =>
      obtain ⟨k, e⟩ := entry
      obtain ⟨hk, hrest⟩ := List.nodup_cons.mp h
      by_cases hkey : key = k
      · subst hkey
        have hnone : rest.lookup key = none := by
          refine List.lookup_eq_none_iff.mpr fun f hf => ?_
          simpa using fun heq : key = f.1 => hk (List.mem_map.mpr ⟨f, hf, heq.symm⟩)
        rw [List.lookup_cons_self]
        cases hp : p (key, e) with
        | true => rw [List.filter_cons_of_pos hp, List.lookup_cons_self]; simp [Option.filter, hp]
        | false =>
            rw [List.filter_cons_of_neg (by simp [hp]), ih hrest, hnone]
            simp [Option.filter, hp]
      · have hbeq : (key == k) = false := beq_eq_false_iff_ne.mpr hkey
        rw [List.filter_cons, List.lookup_cons, hbeq]
        split
        · rw [List.lookup_cons, hbeq]
          exact ih hrest
        · exact ih hrest

/-- What is live stays in a sweep. -/
theorem item?_sweep (h : s.Distinct) (now : Instant) (key : String) :
    (s.sweep now).item? now key = s.item? now key := by
  rw [item?, entry?, sweep, lookup_filter_of_nodup h, Option.filter_filter]
  simp [item?, entry?]

/-- What is live stays when a write is counted. -/
theorem item?_recordWrite (h : s.Distinct) (now : Instant) (key : String) :
    (s.recordWrite now).item? now key = s.item? now key := by
  unfold recordWrite
  dsimp only
  split
  · exact item?_sweep (s := { s with writes := s.writes + 1 }) h now key
  · rfl

/-- The other keys keep their entries when a key is removed, and this one has none. -/
theorem entry?_remove (h : s.Distinct) (key other : String) :
    Store.entry? (s.remove key) other = if other = key then none else s.entry? other := by
  rw [entry?_eq_lookup, remove, lookup_filter_of_nodup h]
  split
  · rename_i heq
    cases s.entries.lookup other with
    | none => rfl
    | some e => exact Option.filter_some_neg (by simp [heq])
  · rename_i hne
    cases hother : s.entries.lookup other with
    | none => rw [entry?_eq_lookup, hother]; rfl
    | some e => rw [entry?_eq_lookup, hother]; exact Option.filter_some_pos (by simp [hne])

/-- What is live when an entry was put at a key. -/
theorem item?_put (h : s.Distinct) (key : String) (e : Entry) (now : Instant) (other : String) :
    (s.put key e).item? now other =
      if other = key then (some e).filter (·.isLive now) else s.item? now other := by
  split
  · rename_i heq
    rw [heq, item?, entry?_put_self]
  · rename_i hne
    rw [item?, entry?_put_of_ne hne, entry?_remove h, if_neg hne, item?]

/-- Removing a key of which nothing is live leaves what is live. -/
theorem item?_remove (h : s.Distinct) (dead : s.item? now key = none) (other : String) :
    (s.remove key).item? now other = s.item? now other := by
  rw [item?, entry?_remove h]
  split
  · rename_i heq
    rw [heq, dead]
    rfl
  · rfl

/-- What is live later is what is live now and does not expire until then. -/
theorem item?_later {later : Instant} (h : now ≤ later) (s : Store) (key : String) :
    s.item? later key = (s.item? now key).filter (·.isLive later) := by
  have hlive : ∀ e : Entry, (e.isLive now && e.isLive later) = e.isLive later := fun e => by
    simp only [Entry.isLive, ← Bool.decide_and, decide_eq_decide]
    exact ⟨And.right, fun hlater => ⟨Nat.lt_of_le_of_lt h hlater, hlater⟩⟩
  rw [item?, item?, Option.filter_filter]
  simp only [hlive]

/-- Distinct entries stay so when one is put. -/
theorem Distinct.put (h : s.Distinct) (key : String) (e : Entry) : (s.put key e).Distinct := by
  refine List.nodup_cons.mpr ⟨?_, h.filter _⟩
  intro hkey
  obtain ⟨f, hf, heq⟩ := List.mem_map.mp hkey
  simpa [heq] using (List.mem_filter.mp hf).2

/-- Distinct entries stay so when a write is counted. -/
theorem Distinct.recordWrite (h : s.Distinct) (now : Instant) : (s.recordWrite now).Distinct := by
  unfold Store.recordWrite
  dsimp only
  split
  · exact Distinct.filter (s := { s with writes := s.writes + 1 }) h _
  · exact h

/-! ### Requests to the store in memory -/

/-- A counter that starts. -/
theorem increment_new (online : s.offline = false) (distinct : s.Distinct)
    (new : s.item? now key = none) {window : Duration} (reached : now + window < Instant.horizon) :
    s.increment key window now =
      (some (.ok 1), (s.recordWrite now).put key ⟨.counter 1, window, now + window⟩) := by
  have hentry : Store.counterEntry? (s.recordWrite now) key window now =
      some ⟨.counter 0, window, now + window⟩ := by
    have hnone : (Store.entry? (s.recordWrite now) key).filter (·.isLive now) = none :=
      (item?_recordWrite distinct now key).trans new
    have hafter : Instant.after? now window = some (now + window) := if_pos reached
    rw [counterEntry?_of_dead hnone, hafter, Option.map_some]
  rw [increment, if_neg (by simp [online])]
  dsimp only
  rw [hentry]

/-- A live entry is counted at. -/
theorem counterEntry?_recordWrite (distinct : s.Distinct) {e : Entry}
    (found : s.item? now key = some e) (window : Duration) :
    Store.counterEntry? (s.recordWrite now) key window now = some e := by
  have hsome : (Store.entry? (s.recordWrite now) key).filter (·.isLive now) = some e :=
    (item?_recordWrite distinct now key).trans found
  exact counterEntry?_of_live hsome window

/-- A counter that goes on. -/
theorem increment_next (online : s.offline = false) (distinct : s.Distinct) {e : Entry} {n : Nat}
    (found : s.item? now key = some e) (value : e.value = .counter n) (window : Duration) :
    s.increment key window now =
      (some (.ok (n + 1)), (s.recordWrite now).put key { e with value := .counter (n + 1) }) := by
  rw [increment, if_neg (by simp [online])]
  dsimp only
  rw [counterEntry?_recordWrite distinct found]
  dsimp only
  rw [value]

/-- A text is not counted at. -/
theorem increment_text (online : s.offline = false) (distinct : s.Distinct) {e : Entry}
    {text : String} (found : s.item? now key = some e) (value : e.value = .text text)
    (window : Duration) :
    s.increment key window now = (some (.error (notCounter key text)), s.recordWrite now) := by
  rw [increment, if_neg (by simp [online])]
  dsimp only
  rw [counterEntry?_recordWrite distinct found]
  dsimp only
  rw [value]

/-- A text that is written. -/
theorem write_ok (online : s.offline = false) {ttl : Duration}
    (reached : now + ttl < Instant.horizon) (key value : String) :
    s.write key value ttl now =
      (some (.ok ()), (s.recordWrite now).put key ⟨.text value, ttl, now + ttl⟩) := by
  have hafter : Instant.after? now ttl = some (now + ttl) := if_pos reached
  rw [write, if_neg (by simp [online])]
  dsimp only
  rw [hafter]

/-- A lookup finds what is live, and leaves it. -/
theorem lookup_ok (online : s.offline = false) (distinct : s.Distinct) (key : String) :
    (s.lookup key now).1 = .ok (s.item? now key).isSome ∧ (s.lookup key now).2.Distinct ∧
      ∀ other, (s.lookup key now).2.item? now other = s.item? now other := by
  rw [lookup, if_neg (by simp [online])]
  cases hentry : s.entry? key with
  | none => exact ⟨by simp [item?, hentry], distinct, fun _ => rfl⟩
  | some e =>
      dsimp only
      cases hlive : e.isLive now with
      | true => exact ⟨by simp [item?, hentry, hlive, Option.filter], distinct, fun _ => rfl⟩
      | false =>
          have hdead : s.item? now key = none := by simp [item?, hentry, hlive, Option.filter]
          exact ⟨by rw [hdead]; rfl, distinct.filter _, item?_remove distinct hdead⟩

end Store

/-! ### Stores that agree -/

open Redis (Client Server Item)

/-- The item that an entry is on a server. -/
def Entry.item (e : Entry) : Item :=
  ⟨match e.value with
    | .text text => text
    | .counter n => integerText n, some e.expiresAt⟩

/-- An entry of the guard: a marker, or a counter of at most `done`. -/
def Entry.Kept (done : Nat) (e : Entry) : Prop :=
  match e.value with
  | .text text => text = Guard.markerText
  | .counter n => 1 ≤ n ∧ n ≤ done

namespace Guard

/-- The same is live in both stores, and it is what the guard stores in `done` operations. -/
structure Agree (reach : Instant) (done : Nat) (now : Instant) (s : Store) (c : Client) :
    Prop where
  /-- The store in memory is online. -/
  online : s.offline = false
  /-- It has one entry for each key. -/
  distinct : s.Distinct
  /-- The same is live in both stores. -/
  same : ∀ key, c.server.item? now key = (s.item? now key).map Entry.item
  /-- These are markers and counters. -/
  kept : ∀ key e, s.item? now key = some e → e.Kept done
  /-- The server represents the expiries that it has to. -/
  reached : c.server.reach = reach

variable {reach : Instant} {done : Nat} {now : Instant} {s : Store} {c : Client}

/-- The expiry of an entry is that of its item. -/
theorem isLive_item (e : Entry) (now : Instant) : e.item.isLive now = e.isLive now := rfl

/-- A server has the items of entries, as long as they are live. -/
theorem map_item_filter (e : Option Entry) (now : Instant) :
    (e.map Entry.item).filter (·.isLive now) = (e.filter (·.isLive now)).map Entry.item := by
  cases e with
  | none => rfl
  | some e =>
      cases hlive : e.isLive now <;> simp [Option.filter, isLive_item, hlive]

/-- Stores that agree do so later. -/
theorem Agree.later (h : Agree reach done now s c) {later : Instant} (hlater : now ≤ later) :
    Agree reach done later s c where
  online := h.online
  distinct := h.distinct
  same key := by
    rw [Server.item?_later hlater, h.same, map_item_filter, Store.item?_later hlater]
  kept key e he := by
    rw [Store.item?_later hlater] at he
    exact h.kept key e (Option.filter_eq_some_iff.mp he).1
  reached := h.reached

/-- What was kept of some operations is kept of more. -/
theorem Agree.more (h : Agree reach done now s c) {after : Nat} (hafter : done ≤ after) :
    Agree reach after now s c where
  online := h.online
  distinct := h.distinct
  same := h.same
  kept key e he := by
    have hkept := h.kept key e he
    unfold Entry.Kept at hkept ⊢
    split at hkept
    · exact hkept
    · exact ⟨hkept.1, Nat.le_trans hkept.2 hafter⟩
  reached := h.reached

/-- Stores that agree do so after the same was put at the same key. -/
theorem Agree.put (h : Agree reach done now s c) (key : String) {e : Entry} (kept : e.Kept done)
    {v : Server} (hv : ∀ other, v.item? now other = c.server.item? now other)
    (hreach : v.reach = reach) (connected : Bool) :
    Agree reach done now ((s.recordWrite now).put key e) ⟨v.put key e.item, connected⟩ where
  online := (Store.offline_recordWrite s now).trans h.online
  distinct := (h.distinct.recordWrite now).put key e
  same other := by
    have hsame : v.item? now other = (s.item? now other).map Entry.item :=
      (hv other).trans (h.same other)
    rw [Server.item?_put, Store.item?_put (h.distinct.recordWrite now),
      Store.item?_recordWrite h.distinct, hsame]
    split
    · exact map_item_filter (some e) now
    · rfl
  kept other e' he' := by
    rw [Store.item?_put (h.distinct.recordWrite now), Store.item?_recordWrite h.distinct] at he'
    split at he'
    · obtain rfl := Option.some.inj (Option.filter_eq_some_iff.mp he').1
      exact kept
    · exact h.kept other e' he'
  reached := hreach

/-! ### Requests -/

/-- Two answers are alike if both are failures, or the same. -/
def Alike {α : Type} (a b : Except GuardError α) : Prop := a.toOption = b.toOption

/-- **A lookup** is answered alike. -/
theorem Agree.lookup (h : Agree reach done now s c) (key : String) :
    ∃ found s' c', s.perform now (.lookup key) = (some (.ok found), s') ∧
      c.perform now (.lookup key) = (some (.ok found), c') ∧ Agree reach done now s' c' := by
  obtain ⟨hanswer, hdistinct, hsame⟩ := @Store.lookup_ok s now h.online h.distinct key
  refine ⟨(s.item? now key).isSome, (s.lookup key now).2, ⟨c.server, true⟩, ?_, ?_, ?_⟩
  · exact congrArg (fun answer => (some answer, (s.lookup key now).2)) hanswer
  · have hserve := @Server.serve_lookup now c.server c.connected key
    rw [h.same, Option.isSome_map] at hserve
    unfold Client.perform Redis.operate
    dsimp only
    rw [hserve]
  · exact {
      online := (Store.offline_perform s now (.lookup key)).trans h.online
      distinct := hdistinct
      same := fun other => (h.same other).trans (congrArg _ (hsame other).symm)
      kept := fun other e he => h.kept other e ((hsame other).symm.trans he)
      reached := h.reached }

/-- **A marker** is written alike, if its time is one that a server gives. -/
theorem Agree.write (h : Agree reach done now s c) (key : String) {ttl : Duration}
    (whole : Server.life ttl = ttl) (near : now + ttl < Instant.horizon)
    (reached : now + ttl < reach) :
    ∃ s' c', s.perform now (.write key markerText ttl) = (some (.ok ()), s') ∧
      c.perform now (.write key markerText ttl) = (some (.ok ()), c') ∧
        Agree reach done now s' c' := by
  have hreach : now + Server.life ttl < c.server.reach := by
    rw [whole, h.reached]
    exact reached
  have hserve := Server.serve_write hreach c.connected key markerText
  rw [whole] at hserve
  refine ⟨_, _, Store.write_ok h.online near key markerText, ?_,
    h.put key (e := ⟨.text markerText, ttl, now + ttl⟩) rfl (fun _ => rfl) h.reached true⟩
  unfold Client.perform Redis.operate
  dsimp only
  rw [hserve]
  rfl

/-- A marker spells no number. -/
theorem integerOf?_markerText : Server.integerOf? markerText = none := by decide

/-- The store on a server counts as the server does. -/
theorem perform_increment {count : Nat} {key : String} {window : Duration} {v' : Server}
    (h : c.server.knowing.count now key (Redis.secondsText window) = (.value (.int count), v'))
    (fits : count < wordSize 63) :
    c.perform now (.increment key window) = (some (.ok count), ⟨v', true⟩) := by
  have hfits : count < wordSize 64 := Nat.lt_trans fits (by decide)
  unfold Client.perform Redis.operate
  dsimp only
  rw [Server.serve_increment h hfits c.connected]

/-- The store on a server fails to count as the server does. -/
theorem perform_increment_error {key line : String} {window : Duration} {v' : Server}
    (h : c.server.knowing.count now key (Redis.secondsText window) = (.error line, v')) :
    c.perform now (.increment key window) = (some (.error (.connection line)), ⟨v', true⟩) := by
  unfold Client.perform Redis.operate
  dsimp only
  rw [Server.serve_increment_error h c.connected]

/-- **A count** is answered alike, if the window is one that a server gives. -/
theorem Agree.increment (h : Agree reach done now s c) (key : String) {window : Duration}
    (whole : Server.life window = window) (few : done + 1 < wordSize 63)
    (near : now + window < Instant.horizon) (reached : now + window < reach) :
    ∃ answer answer' s' c', s.perform now (.increment key window) = (some answer, s') ∧
      c.perform now (.increment key window) = (some answer', c') ∧ Alike answer answer' ∧
        Agree reach (done + 1) now s' c' := by
  have hmore := h.more (Nat.le_succ done)
  have hsame : c.server.knowing.item? now key = (s.item? now key).map Entry.item := h.same key
  cases hitem : s.item? now key with
  | none =>
      rw [hitem] at hsame
      have hreach : now + Server.life window < c.server.knowing.reach := by
        rw [whole]
        exact h.reached.symm ▸ reached
      have hcount := Server.count_new hsame hreach
      rw [whole] at hcount
      exact ⟨.ok 1, .ok 1, _, _, Store.increment_new h.online h.distinct hitem near,
        perform_increment hcount (by decide), rfl,
        hmore.put key (e := ⟨.counter 1, window, now + window⟩) (v := c.server.knowing)
          ⟨Nat.le_refl 1, Nat.le_add_left 1 done⟩ (fun _ => rfl) h.reached true⟩
  | some e =>
      rw [hitem] at hsame
      have hkept := h.kept key e hitem
      cases hvalue : e.value with
      | text text =>
          have hmarker : text = markerText := by
            simpa only [Entry.Kept, hvalue] using hkept
          have hnumber : Server.integerOf? e.item.value = none := by
            simp only [Entry.item, hvalue, hmarker, integerOf?_markerText]
          have hcount := Server.count_text hsame hnumber (Redis.secondsText window)
          refine ⟨_, _, _, _, Store.increment_text h.online h.distinct hitem hvalue window,
            perform_increment_error hcount, rfl, ?_⟩
          exact {
            online := (Store.offline_recordWrite s now).trans h.online
            distinct := h.distinct.recordWrite now
            same := fun other => (h.same other).trans
              (congrArg _ (Store.item?_recordWrite h.distinct now other).symm)
            kept := fun other e he =>
              hmore.kept other e ((Store.item?_recordWrite h.distinct now other).symm.trans he)
            reached := h.reached }
      | counter n =>
          have hcounted : 1 ≤ n ∧ n ≤ done := by
            simpa only [Entry.Kept, hvalue] using hkept
          have hnumber : e.item.value = integerText n := by simp only [Entry.item, hvalue]
          have hcount := Server.count_next hsame hnumber hcounted.1 (by omega)
            (Redis.secondsText window)
          exact ⟨.ok (n + 1), .ok (n + 1), _, _,
            Store.increment_next h.online h.distinct hitem hvalue window,
            perform_increment hcount (by omega), rfl,
            hmore.put key (e := { e with value := .counter (n + 1) }) (v := c.server.knowing)
              ⟨by omega, by omega⟩ (fun _ => rfl) h.reached true⟩

/-! ### Operations -/

/-- What is conducted of a run and a function of its result. -/
theorem conduct_map {S α β : Type}
    (perform : S → Instant → (r : Request) → Option (interface.Answer r) × S) (f : α → β)
    (run : Run interface α) (s : S) :
    conduct perform now (f <$> run) s =
      ((conduct perform now run s).1.map f, (conduct perform now run s).2) := by
  induction run generalizing s with
  | done a => rfl
  | ask r next ih =>
      have hask : f <$> Run.ask r next = .ask r fun answer => f <$> next answer := rfl
      rw [hask, conduct, conduct]
      obtain ⟨answer, s'⟩ := perform s now r
      cases answer with
      | none => rfl
      | some answer => exact ih answer s'

/-- What is conducted of a request that is answered, and what follows on it. -/
theorem conduct_request {S α : Type}
    {perform : S → Instant → (r : Request) → Option (interface.Answer r) × S} {r : Request}
    {answer : interface.Answer r} {s s' : S} (h : perform s now r = (some answer, s'))
    (next : interface.Answer r → Run interface α) :
    conduct perform now (Run.request (I := interface) r >>= next) s =
      conduct perform now (next answer) s' := by
  have hask : Run.request (I := interface) r >>= next = .ask r next := rfl
  rw [hask, conduct, h]

/-- The decision on a count. -/
def decision (g : Guard) (count : Nat) : Decision :=
  if g.limit < count then .exceeded count g.limit else .allowed

/-- A request that was counted is decided by its count. -/
theorem conduct_checkRate {S : Type}
    {perform : S → Instant → (r : Request) → Option (interface.Answer r) × S} {g : Guard}
    {userId : String} {count : Nat} {s s' : S}
    (h : perform s now (.increment (counterKey userId) g.window) = (some (.ok count), s')) :
    conduct perform now (g.decide (.checkRate userId)) s =
      (some (.rate (g.decision count)), s') := by
  rw [Guard.decide, conduct_map, checkRate, conduct_request h]
  rfl

/-- A request that could not be counted is allowed. -/
theorem conduct_checkRate_error {S : Type}
    {perform : S → Instant → (r : Request) → Option (interface.Answer r) × S} {g : Guard}
    {userId : String} {e : GuardError} {s s' : S}
    (h : perform s now (.increment (counterKey userId) g.window) = (some (.error e), s'))
    (pass : perform s' now (.letPass .rateLimit) = (some (), s')) :
    conduct perform now (g.decide (.checkRate userId)) s = (some (.rate .allowed), s') := by
  rw [Guard.decide, conduct_map, checkRate, conduct_request h]
  dsimp only
  rw [conduct_request pass]
  rfl

/-- The time that an operation may give a key. -/
def Operation.time? (g : Guard) : Operation → Option Duration
  | .checkRate _ => some g.window
  | .isDuplicate _ => none
  | .markProcessed _ => some markerTtl

/-- **An operation is decided alike** over stores that agree, and they agree after it. -/
theorem Agree.decide (h : Agree reach done now s c) (g : Guard)
    (whole : Server.life g.window = g.window) (few : done + 1 < wordSize 63)
    (operation : Operation)
    (near : ∀ d ∈ operation.time? g, now + d < Instant.horizon ∧ now + d < reach) :
    ∃ verdict s' c', conduct Store.perform now (g.decide operation) s = (some verdict, s') ∧
      conduct Client.perform now (g.decide operation) c = (some verdict, c') ∧
        Agree reach (done + 1) now s' c' := by
  cases operation with
  | checkRate userId =>
      obtain ⟨hnear, hreach⟩ := near g.window rfl
      obtain ⟨answer, answer', s', c', hs, hc, halike, hagree⟩ :=
        h.increment (counterKey userId) whole few hnear hreach
      cases answer with
      | ok count =>
          cases answer' with
          | error e => cases halike
          | ok count' =>
              obtain rfl : count = count' := Option.some.inj halike
              exact ⟨_, s', c', conduct_checkRate hs, conduct_checkRate hc, hagree⟩
      | error e =>
          cases answer' with
          | ok count => cases halike
          | error e' =>
              exact ⟨_, s', c', conduct_checkRate_error hs rfl, conduct_checkRate_error hc rfl,
                hagree⟩
  | isDuplicate jobId =>
      obtain ⟨found, s', c', hs, hc, hagree⟩ := h.lookup (markerKey jobId)
      refine ⟨.duplicate found, s', c', ?_, ?_, hagree.more (Nat.le_succ done)⟩
      · rw [Guard.decide, conduct_map, isDuplicate, conduct_request hs]
        rfl
      · rw [Guard.decide, conduct_map, isDuplicate, conduct_request hc]
        rfl
  | markProcessed jobId =>
      obtain ⟨hnear, hreach⟩ := near markerTtl rfl
      obtain ⟨s', c', hs, hc, hagree⟩ := h.write (markerKey jobId) (by decide) hnear hreach
      refine ⟨.marked, s', c', ?_, ?_, hagree.more (Nat.le_succ done)⟩
      · rw [Guard.decide, conduct_map, markProcessed, conduct_request hs]
        rfl
      · rw [Guard.decide, conduct_map, markProcessed, conduct_request hc]
        rfl

/-! ### Sequences of operations -/

/-- **Operations are decided alike** over stores that agree, one after the other, and the stores
agree after them, as long as the counters fit. -/
theorem Agree.course (g : Guard) (whole : Server.life g.window = g.window)
    {operations : List (Instant × Operation)} (sorted : operations.Pairwise (·.1 ≤ ·.1))
    (h : Agree reach done now s c) (after : ∀ o ∈ operations, now ≤ o.1)
    (few : done + operations.length < wordSize 63)
    (near : ∀ o ∈ operations, ∀ d ∈ o.2.time? g, o.1 + d < Instant.horizon ∧ o.1 + d < reach) :
    ∃ verdicts : List Verdict, ∃ s' c',
      Guard.course Store.perform g operations s = (verdicts.map some, s') ∧
      Guard.course Client.perform g operations c = (verdicts.map some, c') ∧
      ∀ later, now ≤ later → (∀ o ∈ operations, o.1 ≤ later) →
        Agree reach (done + operations.length) later s' c' := by
  induction operations generalizing done now s c with
  | nil => exact ⟨[], s, c, rfl, rfl, fun later hlater _ => h.later hlater⟩
  | cons o rest ih =>
      obtain ⟨time, operation⟩ := o
      obtain ⟨hfirst, hrest⟩ := List.pairwise_cons.mp sorted
      obtain ⟨hafter, -⟩ := List.forall_mem_cons.mp after
      obtain ⟨hnear, nearRest⟩ := List.forall_mem_cons.mp near
      rw [List.length_cons] at few
      obtain ⟨verdict, s₁, c₁, hs, hc, hagree⟩ :=
        (h.later hafter).decide g whole (by omega) operation hnear
      obtain ⟨verdicts, s', c', hs', hc', hlast⟩ := ih hrest hagree hfirst (by omega) nearRest
      refine ⟨verdict :: verdicts, s', c', ?_, ?_, fun later _ hall => ?_⟩
      · rw [Guard.course, hs]
        dsimp only
        rw [hs']
        rfl
      · rw [Guard.course, hc]
        dsimp only
        rw [hc']
        rfl
      · obtain ⟨htime, hlater⟩ := List.forall_mem_cons.mp hall
        rw [List.length_cons, Nat.add_comm rest.length 1, ← Nat.add_assoc]
        exact hlast later htime hlater

/-- Stores agree when nothing is live in either. -/
theorem Agree.initial (reach now : Instant) (knowsScript connected : Bool) :
    Agree reach 0 now {} ⟨{ knowsScript, reach }, connected⟩ where
  online := rfl
  distinct := .nil
  same _ := rfl
  kept _ _ he := nomatch he
  reached := rfl

/-- Whole seconds are given by a server, except no time at all. -/
theorem life_ofSeconds {n : Nat} (h : 1 ≤ n) :
    Server.life (Duration.ofSeconds n) = Duration.ofSeconds n := by
  have hseconds : Duration.seconds (Duration.ofSeconds n) = n := Nat.mul_div_cancel n (by decide)
  rw [Server.life, hseconds, Nat.max_eq_right h]

/-- **One guard over either store.** Whatever the limit, and for every window of at least a second,
the guard answers every sequence of operations, at times that do not decrease, alike over a store in
memory and over one on a server, both of which hold nothing at first, as long as the operations are
fewer than `2 ^ 63` and the expiries are such that both can represent them. -/
theorem alike_of_window (limit : Nat) {windowSecs : Nat} (some_time : 1 ≤ windowSecs)
    {operations : List (Instant × Operation)} (sorted : operations.Pairwise (·.1 ≤ ·.1))
    (few : operations.length < wordSize 63) (reach : Instant)
    (near : ∀ o ∈ operations, ∀ d ∈ o.2.time? ⟨limit, .ofSeconds windowSecs⟩,
      o.1 + d < Instant.horizon ∧ o.1 + d < reach) (knowsScript connected : Bool) :
    ∃ verdicts : List Verdict,
      (course Store.perform ⟨limit, .ofSeconds windowSecs⟩ operations {}).1 =
        verdicts.map some ∧
      (course Client.perform ⟨limit, .ofSeconds windowSecs⟩ operations
        ⟨{ knowsScript, reach }, connected⟩).1 = verdicts.map some := by
  obtain ⟨verdicts, s', c', hs, hc, -⟩ := Agree.course ⟨limit, .ofSeconds windowSecs⟩
    (life_ofSeconds some_time) sorted (.initial reach 0 knowsScript connected)
    (fun o _ => Nat.zero_le o.1) (by rwa [Nat.zero_add]) near
  exact ⟨verdicts, congrArg Prod.fst hs, congrArg Prod.fst hc⟩

/-- Requests of two users and a job that comes again, within a window and at its end. -/
def someOperations : List (Instant × Operation) :=
  [(0, .checkRate "u"), (0, .checkRate "w"), (Duration.ofSeconds 1, .checkRate "u"),
    (Duration.ofSeconds 1, .markProcessed "n1"), (Duration.ofSeconds 60, .checkRate "u"),
    (Duration.ofSeconds 60, .isDuplicate "n1")]

/-- They are answered alike. -/
theorem alike_of_window_some :
    1 ≤ 60 ∧ someOperations.Pairwise (·.1 ≤ ·.1) ∧ someOperations.length < wordSize 63 ∧
      (∀ o ∈ someOperations, ∀ d ∈ o.2.time? ⟨1, .ofSeconds 60⟩,
        o.1 + d < Instant.horizon ∧ o.1 + d < Instant.horizon) ∧
      ∃ verdicts : List Verdict,
        (course Store.perform ⟨1, .ofSeconds 60⟩ someOperations {}).1 = verdicts.map some ∧
        (course Client.perform ⟨1, .ofSeconds 60⟩ someOperations {}).1 = verdicts.map some := by
  have sorted : someOperations.Pairwise (·.1 ≤ ·.1) := by decide
  have few : someOperations.length < wordSize 63 := by decide
  have near : ∀ o ∈ someOperations, ∀ d ∈ o.2.time? ⟨1, .ofSeconds 60⟩,
      o.1 + d < Instant.horizon ∧ o.1 + d < Instant.horizon := by decide
  exact ⟨by decide, sorted, few, near,
    alike_of_window 1 (by decide) sorted few Instant.horizon near false false⟩

/-! ### The limits of it -/

/-- Operations in two parts. -/
theorem course_append {S : Type}
    (perform : S → Instant → (r : Request) → Option (interface.Answer r) × S) (g : Guard)
    (before after : List (Instant × Operation)) (s : S) :
    course perform g (before ++ after) s =
      ((course perform g before s).1 ++ (course perform g after (course perform g before s).2).1,
        (course perform g after (course perform g before s).2).2) := by
  induction before generalizing s with
  | nil => rfl
  | cons o rest ih =>
      rw [List.cons_append, course, course]
      simp only [ih, List.cons_append]

/-- A counter in memory that has counted goes on counting. -/
theorem counter_after {g : Guard} (some_time : 0 < g.window) {userId : String} (k : Nat) {n : Nat}
    (online : s.offline = false) (distinct : s.Distinct)
    (found : s.item? now (counterKey userId) = some ⟨.counter n, g.window, now + g.window⟩) :
    (course Store.perform g (List.replicate k (now, .checkRate userId)) s).2.item? now
      (counterKey userId) = some ⟨.counter (n + k), g.window, now + g.window⟩ := by
  induction k generalizing s n with
  | zero => exact found
  | succ k ih =>
      have hnext := Store.increment_next online distinct found rfl g.window
      have hlive : Entry.isLive ⟨.counter (n + 1), g.window, now + g.window⟩ now = true :=
        decide_eq_true (Nat.lt_add_of_pos_right some_time)
      rw [List.replicate_succ, course, conduct_checkRate hnext, Nat.add_comm k 1, ← Nat.add_assoc]
      refine ih ((Store.offline_recordWrite s now).trans online)
        ((distinct.recordWrite now).put _ _) ?_
      rw [Store.item?_put (distinct.recordWrite now), if_pos rfl]
      exact Option.filter_some_pos hlive

/-- As many requests of one user at one instant. -/
def requests (k : Nat) (userId : String) : List (Instant × Operation) :=
  List.replicate k (0, .checkRate userId)

/-- Memory counts them all. -/
theorem item?_requests {g : Guard} (some_time : 0 < g.window) (near : g.window < Instant.horizon)
    (k : Nat) (userId : String) :
    (course Store.perform g (requests (k + 1) userId) {}).2.item? 0 (counterKey userId) =
      some ⟨.counter (1 + k), g.window, 0 + g.window⟩ := by
  have hdistinct : Store.Distinct ({} : Store) := .nil
  have hnone : ({} : Store).item? 0 (counterKey userId) = none := rfl
  have hfirst := Store.increment_new rfl hdistinct hnone
    (by rwa [Nat.zero_add] : 0 + g.window < Instant.horizon)
  have hlive : Entry.isLive ⟨.counter 1, g.window, 0 + g.window⟩ 0 = true :=
    decide_eq_true (Nat.lt_add_of_pos_right some_time)
  rw [requests, List.replicate_succ, course, conduct_checkRate hfirst]
  refine counter_after some_time k rfl ((hdistinct.recordWrite 0).put _ _) ?_
  rw [Store.item?_put (hdistinct.recordWrite 0), if_pos rfl]
  exact Option.filter_some_pos hlive

/-- **The last number of a server.** The request that would be number `2 ^ 63` is counted in memory,
and found to exceed the limit. A server does not count it, and it is allowed. -/
theorem requests_full (g : Guard) (whole : Server.life g.window = g.window)
    (near : g.window < Instant.horizon) (limited : g.limit < wordSize 63) (userId : String) :
    ∃ verdicts : List (Option Verdict),
      (course Store.perform g (requests (wordSize 63) userId) {}).1 =
        verdicts ++ [some (.rate (.exceeded (wordSize 63) g.limit))] ∧
      (course Client.perform g (requests (wordSize 63) userId) {}).1 =
        verdicts ++ [some (.rate .allowed)] := by
  obtain ⟨k, hk⟩ : ∃ k, k + 1 + 1 = wordSize 63 := ⟨wordSize 63 - 2, by decide⟩
  have some_time : 0 < g.window := whole ▸ Server.life_pos g.window
  have hmember : ∀ o ∈ requests (k + 1) userId, o = (0, .checkRate userId) := fun o ho =>
    (List.mem_replicate.mp ho).2
  have sorted : (requests (k + 1) userId).Pairwise (·.1 ≤ ·.1) :=
    List.pairwise_replicate.mpr (.inr (Nat.le_refl 0))
  -- All requests but the last are decided alike.
  obtain ⟨verdicts, s, c, hs, hc, hagree⟩ := Agree.course g whole sorted
    (.initial Instant.horizon 0 false false) (fun o _ => Nat.zero_le o.1)
    (by rw [requests, List.length_replicate]; omega)
    (fun o ho d hd => by
      obtain rfl := hmember o ho
      obtain rfl := Option.some.inj hd
      rw [Nat.zero_add]
      exact ⟨near, near⟩)
  have hlast := hagree 0 (Nat.le_refl 0) fun o ho =>
    Nat.le_of_eq (congrArg Prod.fst (hmember o ho))
  have hcounted : s.item? 0 (counterKey userId) =
      some ⟨.counter (1 + k), g.window, 0 + g.window⟩ := by
    rw [← item?_requests some_time near k userId, hs]
  -- The last is counted in memory only.
  have hmemory := Store.increment_next hlast.online hlast.distinct hcounted rfl g.window
  have hfound : c.server.knowing.item? 0 (counterKey userId) =
      some (Entry.item ⟨.counter (1 + k), g.window, 0 + g.window⟩) :=
    (hlast.same (counterKey userId)).trans (congrArg (·.map Entry.item) hcounted)
  have hserver := perform_increment_error (Server.count_full hfound rfl
    (by omega : 1 + k + 1 = wordSize 63) (Redis.secondsText g.window))
  have hsplit : requests (wordSize 63) userId =
      requests (k + 1) userId ++ [(0, .checkRate userId)] := by
    rw [requests, ← hk, List.replicate_succ']
    rfl
  have hexceeded : g.decision (1 + k + 1) = .exceeded (wordSize 63) g.limit := by
    rw [decision, (by omega : 1 + k + 1 = wordSize 63), if_pos limited]
  refine ⟨verdicts.map some, ?_, ?_⟩
  · rw [hsplit, course_append, hs, course, conduct_checkRate hmemory, hexceeded]
    rfl
  · rw [hsplit, course_append, hc, course, conduct_checkRate_error hserver rfl]
    rfl

/-- **Where the stores differ.** A window of no time is over at once in memory, so that each request
is the first of its window, and lasts a second on a server, which is the least expiry that the store
asks for. And in any other window the request that would be number `2 ^ 63` is answered by memory,
and not by a server. -/
theorem differs_at_limits :
    ((course Store.perform ⟨1, .ofSeconds 0⟩ (requests 2 "u") {}).1 =
        [some (.rate .allowed), some (.rate .allowed)] ∧
      (course Client.perform ⟨1, .ofSeconds 0⟩ (requests 2 "u") {}).1 =
        [some (.rate .allowed), some (.rate (.exceeded 2 1))]) ∧
    (course Store.perform ⟨1, .ofSeconds 60⟩ (requests (wordSize 63) "u") {}).1 ≠
      (course Client.perform ⟨1, .ofSeconds 60⟩ (requests (wordSize 63) "u") {}).1 := by
  refine ⟨⟨?_, ?_⟩, fun heq => ?_⟩
  · decide
  · decide
  · obtain ⟨verdicts, hs, hc⟩ := requests_full ⟨1, .ofSeconds 60⟩ (by decide) (by decide)
      (by decide) "u"
    rw [hs, hc] at heq
    exact absurd (List.append_cancel_left heq) (by decide)

end Guard

end PushDelivery
