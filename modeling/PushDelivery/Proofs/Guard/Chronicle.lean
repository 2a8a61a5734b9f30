import Mathlib.Data.List.Dedup
import PushDelivery.Proofs.Guard.Agreement

/-!
# Removal Goes Unseen

A store removes entries whose time is over: when a lookup finds one, when a counter starts anew in
its place, and in sweeps that come with every 256th write, failed counts included. This module
compares it with a chronicle, a store that keeps every entry that was ever written and looks past
those whose time is over. Over all operations, at times that do not decrease, both give the same
answers. The one exception is how many entries a sweep has removed, which for a chronicle is none.

## Main definitions

* `Chronicle`: the store that never removes an entry.
* `Store.Operation`, `Store.obey`: all that a store can be asked, and what it answers.
* `Store.Shows`: what a store has in common with a chronicle.

## Main results

* `Store.Shows.obey`: an operation is answered alike, and leaves stores that have as much in common.
* `Store.removal_unseen`: so are sequences of operations, and one that fails leaves no trace.
-/

namespace PushDelivery

/-! ### A store that never removes -/

/-- A store that keeps all entries that were ever written, the latest first. -/
structure Chronicle where
  entries : List (String × Entry) := []
  offline : Bool := false
  deriving DecidableEq, Repr

namespace Chronicle

/-- The latest entry at a key, if its time is not over. -/
def item? (c : Chronicle) (now : Instant) (key : String) : Option Entry :=
  (c.entries.lookup key).filter (·.isLive now)

/-- Writes an entry at a key; those before it stay. -/
def record (c : Chronicle) (key : String) (e : Entry) : Chronicle :=
  { c with entries := (key, e) :: c.entries }

/-- Whether a key is live. -/
def lookup (c : Chronicle) (key : String) (now : Instant) : Except GuardError Bool :=
  if c.offline then .error Store.outage else .ok (c.item? now key).isSome

/-- Writes a text. Nothing is answered if the clock does not reach the expiry. -/
def write (c : Chronicle) (key value : String) (ttl : Duration) (now : Instant) :
    Option (Except GuardError Unit) × Chronicle :=
  if c.offline then (some (.error Store.outage), c)
  else
    match now.after? ttl with
    | none => (none, c)
    | some expiry => (some (.ok ()), c.record key ⟨.text value, ttl, expiry⟩)

/-- Counts one more at a key. Where nothing is live a counter starts its window, and nothing is
answered if the clock does not reach the end of it. -/
def increment (c : Chronicle) (key : String) (window : Duration) (now : Instant) :
    Option (Except GuardError Nat) × Chronicle :=
  if c.offline then (some (.error Store.outage), c)
  else
    match c.item? now key with
    | some ⟨.text text, _, _⟩ => (some (.error (Store.notCounter key text)), c)
    | some ⟨.counter n, ttl, expiry⟩ =>
      (some (.ok (n + 1)), c.record key ⟨.counter (n + 1), ttl, expiry⟩)
    | none =>
      match now.after? window with
      | none => (none, c)
      | some expiry => (some (.ok 1), c.record key ⟨.counter 1, window, expiry⟩)

/-- The time that a live key was given. -/
def ttlOf (c : Chronicle) (key : String) (now : Instant) : Option Duration :=
  (c.item? now key).map (·.ttl)

/-- The number of live keys. -/
def size (c : Chronicle) (now : Instant) : Nat :=
  (c.entries.map (·.1)).dedup.countP fun key => (c.item? now key).isSome

end Chronicle

/-! ### Operations -/

namespace Store

/-- What a store is asked: whether a key is live, to write a text or to count at a key, what time a
key was given, how many keys are live, to go offline or back, and to remove what is not live. -/
inductive Operation
  | lookup (key : String)
  | write (key value : String) (ttl : Duration)
  | increment (key : String) (window : Duration)
  | ttlOf (key : String)
  | size
  | setOffline (offline : Bool)
  | cleanup
  deriving DecidableEq, Repr

/-- What a store answers. An operation that reaches beyond the clock has no result. -/
inductive Answer
  | found (result : Except GuardError Bool)
  | written (result : Option (Except GuardError Unit))
  | counted (result : Option (Except GuardError Nat))
  | ttl (given : Option Duration)
  | size (live : Nat)
  | done
  | removed (count : Nat)

/-- Answers are alike if they are the same, but for how many entries were removed. -/
def Answer.Alike : Answer → Answer → Prop
  | .removed _, .removed _ => True
  | a, b => a = b

/-- Whether an operation has failed: the store is offline, or there is a text where it counts. -/
def Answer.isFailure : Answer → Bool
  | .found (.error _) | .written (some (.error _)) | .counted (some (.error _)) => true
  | _ => false

/-- The answer of a store. -/
def obey (s : Store) (now : Instant) : Operation → Answer × Store
  | .lookup key => (.found (s.lookup key now).1, (s.lookup key now).2)
  | .write key value ttl =>
    (.written (s.write key value ttl now).1, (s.write key value ttl now).2)
  | .increment key window =>
    (.counted (s.increment key window now).1, (s.increment key window now).2)
  | .ttlOf key => (.ttl (s.ttlOf key now), s)
  | .size => (.size (s.size now), s)
  | .setOffline offline => (.done, { s with offline })
  | .cleanup => (.removed (s.cleanup now).1, (s.cleanup now).2)

end Store

/-- The answer of a chronicle, which has nothing to remove. -/
def Chronicle.obey (c : Chronicle) (now : Instant) : Store.Operation → Store.Answer × Chronicle
  | .lookup key => (.found (c.lookup key now), c)
  | .write key value ttl =>
    (.written (c.write key value ttl now).1, (c.write key value ttl now).2)
  | .increment key window =>
    (.counted (c.increment key window now).1, (c.increment key window now).2)
  | .ttlOf key => (.ttl (c.ttlOf key now), c)
  | .size => (.size (c.size now), c)
  | .setOffline offline => (.done, { c with offline })
  | .cleanup => (.removed 0, c)

namespace Store

/-- The answers to operations one after the other, each at its instant. -/
def answers {S : Type} (obey : S → Instant → Operation → Answer × S) :
    List (Instant × Operation) → S → List Answer
  | [], _ => []
  | (now, operation) :: rest, s =>
    (obey s now operation).1 :: answers obey rest (obey s now operation).2

/-- What is left of a store after operations one after the other. -/
def after {S : Type} (obey : S → Instant → Operation → Answer × S) :
    List (Instant × Operation) → S → S
  | [], s => s
  | (now, operation) :: rest, s => after obey rest (obey s now operation).2

/-! ### Answers that are alike -/

@[simp] theorem Answer.alike_refl (a : Answer) : a.Alike a := by
  cases a <;> first | rfl | trivial

theorem Answer.Alike.symm {a b : Answer} (h : a.Alike b) : b.Alike a := by
  cases a <;> cases b <;> first | trivial | exact Eq.symm h

theorem Answer.Alike.trans {a b c : Answer} (h : a.Alike b) (h' : b.Alike c) : a.Alike c := by
  cases a <;> cases b <;> cases c <;> first | trivial | exact Eq.trans h h'

/-! ### What is live -/

/-- What a store has in common with a chronicle: both are online or offline, and the same is live in
both. -/
structure Shows (now : Instant) (s : Store) (c : Chronicle) : Prop where
  offline : s.offline = c.offline
  /-- The store has one entry for each key. -/
  distinct : s.Distinct
  live : ∀ key, s.item? now key = c.item? now key

end Store

variable {now : Instant} {s : Store} {c : Chronicle} {key : String}

namespace Chronicle

/-- In a chronicle, too, what is live later is what is live now and does not expire until then. -/
theorem item?_later {later : Instant} (h : now ≤ later) (c : Chronicle) (key : String) :
    c.item? later key = (c.item? now key).filter (·.isLive later) :=
  Store.item?_later h { entries := c.entries } key

/-- What is live when an entry was recorded at a key. -/
theorem item?_record (c : Chronicle) (key : String) (e : Entry) (now : Instant) (other : String) :
    (c.record key e).item? now other =
      if other = key then (some e).filter (·.isLive now) else c.item? now other := by
  rw [item?, record]
  dsimp only
  split
  · rename_i heq
    rw [heq, List.lookup_cons_self]
  · rename_i hne
    rw [List.lookup_cons, beq_eq_false_iff_ne.mpr hne, item?]

end Chronicle

namespace Store

/-- They have as much in common later. -/
theorem Shows.later (h : Shows now s c) {later : Instant} (hlater : now ≤ later) :
    Shows later s c where
  offline := h.offline
  distinct := h.distinct
  live key := by rw [item?_later hlater, h.live, Chronicle.item?_later hlater]

/-- A chronicle also shows what a store was that counted a write. -/
theorem Shows.recordWrite (h : Shows now s c) : Shows now (s.recordWrite now) c where
  offline := (offline_recordWrite s now).trans h.offline
  distinct := h.distinct.recordWrite now
  live key := (item?_recordWrite h.distinct now key).trans (h.live key)

/-- The same entry at the same key leaves as much in common. -/
theorem Shows.put (h : Shows now s c) (key : String) (e : Entry) :
    Shows now (s.put key e) (c.record key e) where
  offline := h.offline
  distinct := h.distinct.put key e
  live other := by rw [item?_put h.distinct, Chronicle.item?_record, h.live]

/-! ### One operation -/

/-- **Removal on reading** goes unseen. -/
theorem Shows.lookup (h : Shows now s c) (key : String) :
    (s.lookup key now).1 = c.lookup key now ∧ Shows now (s.lookup key now).2 c := by
  rw [Chronicle.lookup, ← h.offline]
  cases online : s.offline with
  | true => exact ⟨by rw [Store.lookup, online]; rfl, by rw [Store.lookup, online]; exact h⟩
  | false =>
      obtain ⟨hanswer, hdistinct, hsame⟩ := @lookup_ok s now online h.distinct key
      exact ⟨by rw [hanswer, h.live]; rfl, {
        offline := (offline_perform s now (.lookup key)).trans h.offline
        distinct := hdistinct
        live := fun other => (hsame other).trans (h.live other) }⟩

/-- A text is written alike. -/
theorem Shows.write (h : Shows now s c) (key value : String) (ttl : Duration) :
    (s.write key value ttl now).1 = (c.write key value ttl now).1 ∧
      Shows now (s.write key value ttl now).2 (c.write key value ttl now).2 := by
  rw [Store.write, Chronicle.write, ← h.offline]
  split
  · exact ⟨rfl, h⟩
  · cases now.after? ttl with
    | none => exact ⟨rfl, h.recordWrite⟩
    | some expiry => exact ⟨rfl, h.recordWrite.put key _⟩

/-- **A new start in place** goes unseen. -/
theorem Shows.increment (h : Shows now s c) (key : String) (window : Duration) :
    (s.increment key window now).1 = (c.increment key window now).1 ∧
      Shows now (s.increment key window now).2 (c.increment key window now).2 := by
  have hlive : (Store.entry? (s.recordWrite now) key).filter (·.isLive now) = c.item? now key :=
    h.recordWrite.live key
  rw [Store.increment, Chronicle.increment, ← h.offline]
  simp only [hlive, counterEntry?]
  split
  · exact ⟨rfl, h⟩
  · rcases c.item? now key with _ | ⟨_ | n, ttl, expiry⟩
    · cases now.after? window with
      | none => exact ⟨rfl, h.recordWrite⟩
      | some expiry => exact ⟨rfl, h.recordWrite.put key _⟩
    · exact ⟨rfl, h.recordWrite⟩
    · exact ⟨rfl, h.recordWrite.put key _⟩

/-- A live key was given the same time. -/
theorem Shows.ttlOf (h : Shows now s c) (key : String) : s.ttlOf key now = c.ttlOf key now :=
  congrArg (Option.map Entry.ttl) (h.live key)

/-- A key of distinct entries is among those that are live if its entry is. -/
theorem mem_liveKeys (h : s.Distinct) :
    key ∈ (s.entries.filter (·.2.isLive now)).map (·.1) ↔ (s.item? now key).isSome := by
  rw [item?, entry?, ← lookup_filter_of_nodup h (·.2.isLive now), ← Option.ne_none_iff_isSome, Ne,
    List.lookup_eq_none_iff]
  simp

/-- A key of a chronicle is among those that are live if its latest entry is. -/
theorem mem_liveKeys_chronicle :
    key ∈ (c.entries.map (·.1)).dedup.filter (fun key => (c.item? now key).isSome) ↔
      (c.item? now key).isSome := by
  rw [List.mem_filter, List.mem_dedup, and_iff_right_iff_imp, Option.isSome_iff_exists]
  rintro ⟨e, he⟩
  exact List.mem_map.mpr ⟨(key, e), mem_entries (s := { entries := c.entries })
    (Option.filter_eq_some_iff.mp he).1, rfl⟩

/-- As many keys are live: in both, these are the same, without repetition. -/
theorem Shows.size (h : Shows now s c) : s.size now = c.size now := by
  have hperm : ((s.entries.filter (·.2.isLive now)).map (·.1)).Perm
      ((c.entries.map (·.1)).dedup.filter fun key => (c.item? now key).isSome) := by
    refine (List.perm_ext_iff_of_nodup (h.distinct.filter _) ((List.nodup_dedup _).filter _)).mpr
      fun key => ?_
    rw [mem_liveKeys h.distinct, mem_liveKeys_chronicle, h.live]
  rw [Store.size, Chronicle.size, List.countP_eq_length_filter, ← hperm.length_eq, List.length_map]

/-- **A sweep** goes unseen. -/
theorem Shows.sweep (h : Shows now s c) : Shows now (s.sweep now) c where
  offline := h.offline
  distinct := h.distinct.filter _
  live key := (item?_sweep h.distinct now key).trans (h.live key)

/-- **An operation is answered alike** by a store and by a chronicle that shows it, and the
chronicle shows the store after it. -/
theorem Shows.obey (h : Shows now s c) (operation : Operation) :
    (s.obey now operation).1.Alike (c.obey now operation).1 ∧
      Shows now (s.obey now operation).2 (c.obey now operation).2 := by
  cases operation with
  | lookup key => exact ⟨congrArg Answer.found (h.lookup key).1, (h.lookup key).2⟩
  | write key value ttl =>
      exact ⟨congrArg Answer.written (h.write key value ttl).1, (h.write key value ttl).2⟩
  | increment key window =>
      exact ⟨congrArg Answer.counted (h.increment key window).1, (h.increment key window).2⟩
  | ttlOf key => exact ⟨congrArg Answer.ttl (h.ttlOf key), h⟩
  | size => exact ⟨congrArg Answer.size h.size, h⟩
  | setOffline offline =>
      exact ⟨rfl, { offline := rfl, distinct := h.distinct, live := h.live }⟩
  | cleanup => exact ⟨trivial, h.sweep⟩

end Store

/-- **A failure** leaves a chronicle as it is. -/
theorem Chronicle.obey_of_isFailure (operation : Store.Operation)
    (failed : (c.obey now operation).1.isFailure) : (c.obey now operation).2 = c := by
  cases operation with
  | write key value ttl =>
      simp only [obey, write] at failed ⊢
      split
      · rfl
      · rename_i online
        rw [if_neg online] at failed
        split
        · rfl
        · rename_i hexpiry
          simp [hexpiry, Store.Answer.isFailure] at failed
  | increment key window =>
      simp only [obey, increment] at failed ⊢
      split
      · rfl
      · rename_i online
        rw [if_neg online] at failed
        split
        · rfl
        · rename_i hitem
          simp [hitem, Store.Answer.isFailure] at failed
        · rename_i hitem
          split
          · rfl
          · rename_i hexpiry
            simp [hitem, hexpiry, Store.Answer.isFailure] at failed
  | setOffline offline => cases failed
  | lookup key => rfl
  | ttlOf key => rfl
  | size => rfl
  | cleanup => rfl

namespace Store

/-- Answers that are alike are both failures, or none is. -/
theorem Answer.Alike.isFailure {a b : Answer} (h : a.Alike b) : a.isFailure = b.isFailure := by
  cases a <;> cases b <;> first | rfl | exact congrArg Answer.isFailure h

/-! ### Sequences of operations -/

variable {operations : List (Instant × Operation)}

/-- **Operations are answered alike**, one after the other. -/
theorem Shows.answers (h : Shows now s c) (sorted : operations.Pairwise (·.1 ≤ ·.1))
    (after : ∀ o ∈ operations, now ≤ o.1) :
    List.Forall₂ Answer.Alike (Store.answers Store.obey operations s)
      (Store.answers Chronicle.obey operations c) := by
  induction operations generalizing now s c with
  | nil => exact .nil
  | cons o rest ih =>
      obtain ⟨time, operation⟩ := o
      obtain ⟨hfirst, hrest⟩ := List.pairwise_cons.mp sorted
      obtain ⟨halike, hshows⟩ := (h.later (List.forall_mem_cons.mp after).1).obey operation
      exact .cons halike (ih hshows hrest hfirst)

/-- A chronicle shows the store after operations, at any time that comes after them. -/
theorem Shows.after (h : Shows now s c) (sorted : operations.Pairwise (·.1 ≤ ·.1))
    (after : ∀ o ∈ operations, now ≤ o.1) {later : Instant} (hlater : now ≤ later)
    (last : ∀ o ∈ operations, o.1 ≤ later) :
    Shows later (Store.after Store.obey operations s)
      (Store.after Chronicle.obey operations c) := by
  induction operations generalizing now s c with
  | nil => exact h.later hlater
  | cons o rest ih =>
      obtain ⟨time, operation⟩ := o
      obtain ⟨hfirst, hrest⟩ := List.pairwise_cons.mp sorted
      obtain ⟨htime, hall⟩ := List.forall_mem_cons.mp last
      have hobey := (h.later (List.forall_mem_cons.mp after).1).obey operation
      exact ih hobey.2 hrest hfirst htime hall

/-- Stores that one chronicle shows answer alike. -/
theorem Shows.answers_of_both {s' : Store} (h : Shows now s c) (h' : Shows now s' c)
    (sorted : operations.Pairwise (·.1 ≤ ·.1)) (after : ∀ o ∈ operations, now ≤ o.1) :
    List.Forall₂ Answer.Alike (Store.answers Store.obey operations s)
      (Store.answers Store.obey operations s') := by
  induction operations generalizing now s s' c with
  | nil => exact .nil
  | cons o rest ih =>
      obtain ⟨time, operation⟩ := o
      obtain ⟨hfirst, hrest⟩ := List.pairwise_cons.mp sorted
      obtain ⟨hafter, -⟩ := List.forall_mem_cons.mp after
      obtain ⟨halike, hshows⟩ := (h.later hafter).obey operation
      obtain ⟨halike', hshows'⟩ := (h'.later hafter).obey operation
      exact .cons (halike.trans halike'.symm) (ih hshows hshows' hrest hfirst)

/-- A chronicle shows a store that holds nothing. -/
theorem Shows.initial (now : Instant) : Shows now {} {} where
  offline := rfl
  distinct := .nil
  live _ := rfl

/-- **Removal goes unseen.** A store that holds nothing at first answers every sequence of
operations, at times that do not decrease, as a chronicle does. And where an operation fails, all
that follow are answered as if it had not been asked. -/
theorem removal_unseen (sorted : operations.Pairwise (·.1 ≤ ·.1)) :
    List.Forall₂ Answer.Alike (Store.answers Store.obey operations {})
      (Store.answers Chronicle.obey operations {}) ∧
    ∀ before now operation rest, operations = before ++ (now, operation) :: rest →
      (Store.obey (Store.after Store.obey before {}) now operation).1.isFailure →
      List.Forall₂ Answer.Alike
        (Store.answers Store.obey rest
          (Store.obey (Store.after Store.obey before {}) now operation).2)
        (Store.answers Store.obey rest (Store.after Store.obey before {})) := by
  refine ⟨(Shows.initial 0).answers sorted fun o _ => Nat.zero_le o.1, ?_⟩
  rintro before now operation rest rfl failed
  obtain ⟨hbefore, hsuffix, hacross⟩ := List.pairwise_append.mp sorted
  obtain ⟨hfirst, hrest⟩ := List.pairwise_cons.mp hsuffix
  have hshows := (Shows.initial 0).after hbefore (fun o _ => Nat.zero_le o.1) (Nat.zero_le now)
    fun o ho => hacross o ho _ List.mem_cons_self
  obtain ⟨halike, hfailed⟩ := hshows.obey operation
  rw [Chronicle.obey_of_isFailure operation (halike.isFailure ▸ failed)] at hfailed
  exact hfailed.answers_of_both hshows hrest hfirst

/-- A text, an attempt to count at it, and a counter in its place when its time is over. -/
def someOperations : List (Instant × Operation) :=
  [(0, .write "k" "v" 5), (1, .increment "k" 10), (4, .ttlOf "k"), (5, .increment "k" 10),
    (5, .size), (6, .cleanup)]

/-- The attempt fails, and the rest is answered as if it had not been made. -/
theorem removal_unseen_some :
    someOperations.Pairwise (·.1 ≤ ·.1) ∧
      (Store.obey (Store.after Store.obey [(0, .write "k" "v" 5)] {}) 1
        (.increment "k" 10)).1.isFailure ∧
      List.Forall₂ Answer.Alike (Store.answers Store.obey someOperations {})
        (Store.answers Chronicle.obey someOperations {}) ∧
      List.Forall₂ Answer.Alike
        (Store.answers Store.obey (someOperations.drop 2)
          (Store.obey (Store.after Store.obey [(0, .write "k" "v" 5)] {}) 1
            (.increment "k" 10)).2)
        (Store.answers Store.obey (someOperations.drop 2)
          (Store.after Store.obey [(0, .write "k" "v" 5)] {})) := by
  have sorted : someOperations.Pairwise (·.1 ≤ ·.1) := by decide
  have failed : (Store.obey (Store.after Store.obey [(0, .write "k" "v" 5)] {}) 1
      (.increment "k" 10)).1.isFailure := by decide
  exact ⟨sorted, failed, (removal_unseen sorted).1, (removal_unseen sorted).2 _ _ _ _ rfl failed⟩

end Store

end PushDelivery
