import Mathlib.Data.List.TakeWhile
import PushDelivery.Proofs.Delivery.Overlap
import PushDelivery.Proofs.Guard.Agreement

/-!
# Windows of a User

The guard has a counter per user, which lives in one store with the counters of all other users and
the markers of all jobs, is removed when a sweep or a lookup finds it expired, and starts anew in
its place. What is decided on the calls of a user is nevertheless a function of their times alone.
They fall into windows of one length: a window starts with the first call that is not in the window
before, and the end of a window belongs to the next. The calls of a window are numbered, and those
whose numbers are above the limit exceed it.

The counter that is live at the user's key is all that the next decision depends on. It is a number
and the start of a window, or nothing, and no operation but a call of the user changes it.

## Main definitions

* `Guard.windows`: times of calls, window by window; `Guard.decisionsIn`: what is decided in one.
* `Guard.callsOf`, `Guard.answersTo`: the calls of a user among other operations, and the answers.
* `Guard.resume`: what is decided on calls if a window has begun before.

## Main results

* `Guard.flatten_windows`, `Guard.windows_within`, `Guard.windows_apart`: what windows are.
* `Guard.Holds.checkRate`, `Guard.Holds.spared`: what an operation does to the counter of a user.
* `Guard.decided_by_windows`: the calls of a user are decided by their windows.
-/

namespace PushDelivery

namespace Guard

/-! ### Windows -/

/-- Times of calls, window by window: each window starts with a call and has all that come before
its end. -/
def windows (length : Duration) : List Instant → List (List Instant)
  | [] => []
  | start :: calls =>
    (start :: calls.takeWhile (· < start + length)) ::
      windows length (calls.dropWhile (· < start + length))
termination_by calls => calls.length
decreasing_by exact Nat.lt_succ_of_le (List.dropWhile_suffix _).length_le

/-- What is decided on the calls of a window: they are counted from one. -/
def decisionsIn (g : Guard) (calls : List Instant) : List Decision :=
  (List.range' 1 calls.length).map g.decision

/-- All calls fall into windows, in their order. -/
theorem flatten_windows (length : Duration) (calls : List Instant) :
    (windows length calls).flatten = calls := by
  induction calls using windows.induct length with
  | case1 => rw [windows, List.flatten_nil]
  | case2 start calls ih =>
      rw [windows, List.flatten_cons, ih, List.cons_append, List.takeWhile_append_dropWhile]

/-- A window has the call that starts it, and others before its end. -/
theorem windows_within {length : Duration} {calls w : List Instant}
    (hw : w ∈ windows length calls) :
    ∃ start inside, w = start :: inside ∧ ∀ t ∈ inside, t < start + length := by
  induction calls using windows.induct length with
  | case1 => simp [windows] at hw
  | case2 start calls ih =>
      rw [windows] at hw
      rcases List.mem_cons.mp hw with rfl | hw
      · exact ⟨start, _, rfl, fun t ht => by simpa using List.mem_takeWhile_imp ht⟩
      · exact ih hw

/-- Of times that do not decrease, those that are left from the first that reaches an end on all
reach it. -/
theorem le_of_mem_dropWhile {calls : List Instant} (sorted : calls.Pairwise (· ≤ ·))
    (till : Instant) : ∀ t ∈ calls.dropWhile (· < till), till ≤ t := by
  induction calls with
  | nil => nofun
  | cons first calls ih =>
      obtain ⟨hfirst, hcalls⟩ := List.pairwise_cons.mp sorted
      by_cases hin : first < till
      · rw [List.dropWhile_cons_of_pos (by simpa using hin)]
        exact ih hcalls
      · rw [List.dropWhile_cons_of_neg (by simpa using hin)]
        have htill := Nat.le_of_not_lt hin
        exact List.forall_mem_cons.mpr ⟨htill, fun t ht => Nat.le_trans htill (hfirst t ht)⟩

/-- No call of a window comes before the end of one that began earlier. -/
theorem windows_apart (length : Duration) {calls : List Instant}
    (sorted : calls.Pairwise (· ≤ ·)) :
    (windows length calls).Pairwise fun w w' =>
      ∀ start ∈ w.head?, ∀ t ∈ w', start + length ≤ t := by
  induction calls using windows.induct length with
  | case1 => rw [windows]; exact .nil
  | case2 start calls ih =>
      obtain ⟨-, hcalls⟩ := List.pairwise_cons.mp sorted
      rw [windows]
      refine .cons (fun w' hw' start' hstart t ht => ?_)
        (ih (hcalls.sublist (List.dropWhile_suffix _).sublist))
      obtain rfl := Option.some.inj hstart
      have hmem : t ∈ (windows length (calls.dropWhile (· < start + length))).flatten :=
        List.mem_flatten.mpr ⟨w', hw', ht⟩
      rw [flatten_windows] at hmem
      exact le_of_mem_dropWhile hcalls _ t hmem

/-! ### Calls of one user -/

/-- The times at which a user calls, among operations. -/
def callsOf (userId : String) (operations : List (Instant × Operation)) : List Instant :=
  (operations.filter (·.2 = .checkRate userId)).map (·.1)

/-- The answers to the calls of a user, among those to operations. -/
def answersTo (userId : String) (operations : List (Instant × Operation))
    (verdicts : List (Option Verdict)) : List (Option Verdict) :=
  ((operations.zip verdicts).filter (·.1.2 = .checkRate userId)).map (·.2)

/-- What is decided on calls if a window has begun at some time and has counted some calls. -/
def resume (g : Guard) : Option (Instant × Nat) → List Instant → List Decision
  | _, [] => []
  | begun, t :: calls =>
    match begun.filter (t < ·.1 + g.window) with
    | some (start, n) => g.decision (n + 1) :: resume g (some (start, n + 1)) calls
    | none => g.decision 1 :: resume g (some (t, 1)) calls

/-- The calls before the end of the window go on counting, and then the window is no more. -/
theorem resume_some (g : Guard) (start : Instant) (n : Nat) (calls : List Instant) :
    g.resume (some (start, n)) calls =
      (List.range' (n + 1) (calls.takeWhile (· < start + g.window)).length).map g.decision ++
        g.resume none (calls.dropWhile (· < start + g.window)) := by
  induction calls generalizing n with
  | nil => rfl
  | cons t calls ih =>
      by_cases hin : t < start + g.window
      · rw [resume, Option.filter_some_pos (by simpa using hin),
          List.takeWhile_cons_of_pos (by simpa using hin),
          List.dropWhile_cons_of_pos (by simpa using hin)]
        dsimp only
        rw [ih, List.length_cons, List.range'_succ, List.map_cons, List.cons_append]
      · rw [resume, Option.filter_some_neg (by simpa using hin),
          List.takeWhile_cons_of_neg (by simpa using hin),
          List.dropWhile_cons_of_neg (by simpa using hin), resume]
        rfl

/-- Calls before which no window has begun are decided by their windows. -/
theorem resume_none (g : Guard) (calls : List Instant) :
    g.resume none calls = (windows g.window calls).flatMap g.decisionsIn := by
  induction calls using windows.induct g.window with
  | case1 => rw [windows]; rfl
  | case2 start calls ih =>
      rw [windows, List.flatMap_cons, ← ih, resume]
      dsimp only [Option.filter_none]
      rw [resume_some, decisionsIn, List.length_cons, List.range'_succ, List.map_cons,
        List.cons_append]

/-! ### The counter of a user -/

/-- Different users have different counters. -/
theorem counterKey_injective : Function.Injective counterKey := by
  intro a b h
  have hlist : ("ratelimit:user:" ++ a).toList = ("ratelimit:user:" ++ b).toList :=
    congrArg String.toList h
  rw [String.toList_append, String.toList_append] at hlist
  exact String.toList_injective (List.append_cancel_left hlist)

/-- A request neither counts nor writes at a key. -/
def Request.Leaves (key : String) : Request → Prop
  | .increment k _ | .write k _ _ => k ≠ key
  | .lookup _ | .letPass _ => True

/-- The counter of a window that has begun. -/
def counting (g : Guard) (begun : Instant × Nat) : Entry :=
  ⟨.counter begun.2, g.window, begun.1 + g.window⟩

/-- The store is online, and what is live at a key is the counter of a window that has begun, or
nothing. -/
structure Holds (g : Guard) (key : String) (begun : Option (Instant × Nat)) (now : Instant)
    (s : Store) : Prop where
  online : s.offline = false
  /-- The store has one entry for each key. -/
  distinct : s.Distinct
  live : s.item? now key = (begun.map g.counting).filter (·.isLive now)

variable {g : Guard} {key : String} {begun : Option (Instant × Nat)} {now : Instant} {s : Store}

/-- The counter is that of the same window later, if it is live. -/
theorem Holds.later (h : Holds g key begun now s) {later : Instant} (hlater : now ≤ later) :
    Holds g key begun later s where
  online := h.online
  distinct := h.distinct
  live := by
    have hlive : ∀ e : Entry, (e.isLive now && e.isLive later) = e.isLive later := fun e => by
      simp only [Entry.isLive, ← Bool.decide_and, decide_eq_decide]
      exact ⟨And.right, fun h' => ⟨Nat.lt_of_le_of_lt hlater h', h'⟩⟩
    rw [Store.item?_later hlater, h.live, Option.filter_filter]
    simp only [hlive]

/-- The counter stays when a write is counted. -/
theorem Holds.recordWrite (h : Holds g key begun now s) :
    Holds g key begun now (s.recordWrite now) where
  online := (Store.offline_recordWrite s now).trans h.online
  distinct := h.distinct.recordWrite now
  live := (Store.item?_recordWrite h.distinct now key).trans h.live

/-- The counter stays when something is put at another key. -/
theorem Holds.put (h : Holds g key begun now s) {other : String} (hother : other ≠ key)
    (e : Entry) : Holds g key begun now (s.put other e) where
  online := h.online
  distinct := h.distinct.put other e
  live := by rw [Store.item?_put h.distinct, if_neg hother.symm, h.live]

/-- **A request that leaves the key** leaves its counter, whether it is answered or not. -/
theorem Holds.perform (h : Holds g key begun now s) {r : Request} (leaves : r.Leaves key) :
    Holds g key begun now (s.perform now r).2 := by
  cases r with
  | increment other window =>
      change Holds g key begun now (s.increment other window now).2
      rw [Store.increment, if_neg (by simp [h.online])]
      dsimp only
      split
      · exact h.recordWrite
      · split
        · exact h.recordWrite.put leaves _
        · exact h.recordWrite
  | lookup other =>
      obtain ⟨-, hdistinct, hsame⟩ := @Store.lookup_ok s now h.online h.distinct other
      exact ⟨(Store.offline_perform s now (.lookup other)).trans h.online, hdistinct,
        (hsame key).trans h.live⟩
  | write other value ttl =>
      change Holds g key begun now (s.write other value ttl now).2
      rw [Store.write, if_neg (by simp [h.online])]
      dsimp only
      split
      · exact h.recordWrite
      · exact h.recordWrite.put leaves _
  | letPass operation => exact h

/-- So does a run that makes only such requests. -/
theorem Holds.conduct {α : Type} {run : Run interface α} (h : Holds g key begun now s)
    (leaves : Run.OnlyAsks (Request.Leaves key) run) :
    Holds g key begun now (Guard.conduct Store.perform now run s).2 := by
  induction run generalizing s with
  | done a => exact h
  | ask r next ih =>
      have hperform := h.perform leaves.1
      rw [Guard.conduct]
      cases hanswer : s.perform now r with
      | mk answer s' =>
          rw [hanswer] at hperform
          cases answer with
          | none => exact hperform
          | some answer => exact ih answer hperform (leaves.2 answer)

/-- Only the calls of a user count at the user's key. -/
theorem onlyAsks_decide (g : Guard) {userId : String} {operation : Operation}
    (other : operation ≠ .checkRate userId) :
    Run.OnlyAsks (Request.Leaves (counterKey userId)) (g.decide operation) := by
  cases operation with
  | checkRate otherId =>
      have hne : counterKey otherId ≠ counterKey userId := fun heq =>
        other (congrArg Operation.checkRate (counterKey_injective heq))
      refine ⟨hne, fun answer => ?_⟩
      cases answer with
      | ok count => trivial
      | error e => exact ⟨trivial, fun _ => trivial⟩
  | isDuplicate jobId =>
      refine ⟨trivial, fun answer => ?_⟩
      cases answer with
      | ok found => trivial
      | error e => exact ⟨trivial, fun _ => trivial⟩
  | markProcessed jobId =>
      refine ⟨(Delivery.counterKey_ne_markerKey userId jobId).symm, fun answer => ?_⟩
      cases answer with
      | ok done => trivial
      | error e => exact ⟨trivial, fun _ => trivial⟩

/-- **Other operations** leave the counter of a user. -/
theorem Holds.spared {userId : String} (h : Holds g (counterKey userId) begun now s)
    {operation : Operation} (other : operation ≠ .checkRate userId) :
    Holds g (counterKey userId) begun now
      (Guard.conduct Store.perform now (g.decide operation) s).2 :=
  h.conduct (onlyAsks_decide g other)

/-- A count that is put at the key is the one that is live, as long as its window is. -/
theorem Holds.put_self (h : Holds g key begun now s) (n : Instant × Nat) :
    Holds g key (some n) now (s.put key (g.counting n)) where
  online := h.online
  distinct := h.distinct.put key _
  live := by rw [Store.item?_put h.distinct, if_pos rfl, Option.map_some]

/-- **A call** in a window that has begun is the next one of it, and the first of its own window
otherwise. -/
theorem Holds.checkRate {userId : String} (h : Holds g (counterKey userId) begun now s)
    (near : now + g.window < Instant.horizon) :
    ∃ n s', (begun.filter (now < ·.1 + g.window)).elim (now, 1) (fun b => (b.1, b.2 + 1)) = n ∧
      Guard.conduct Store.perform now (g.decide (.checkRate userId)) s =
        (some (.rate (g.decision n.2)), s') ∧
      Holds g (counterKey userId) (some n) now s' := by
  have hlive : s.item? now (counterKey userId) =
      (begun.filter (now < ·.1 + g.window)).map g.counting := by
    rw [h.live]
    cases begun with
    | none => rfl
    | some b =>
        by_cases hb : now < b.1 + g.window
        · rw [Option.filter_some_pos (by simpa using hb)]
          exact Option.filter_some_pos (decide_eq_true hb)
        · rw [Option.filter_some_neg (by simpa using hb)]
          exact Option.filter_some_neg (decide_eq_false hb)
  cases hbegun : begun.filter (now < ·.1 + g.window) with
  | none =>
      rw [hbegun] at hlive
      exact ⟨_, _, rfl, conduct_checkRate (Store.increment_new h.online h.distinct hlive near),
        h.recordWrite.put_self (now, 1)⟩
  | some b =>
      rw [hbegun] at hlive
      exact ⟨_, _, rfl,
        conduct_checkRate (Store.increment_next h.online h.distinct hlive rfl g.window),
        h.recordWrite.put_self (b.1, b.2 + 1)⟩

/-! ### Sequences of operations -/

/-- **The calls of a user go on** from the window that has begun, whatever else is asked. -/
theorem Holds.course {userId : String} (h : Holds g (counterKey userId) begun now s)
    {operations : List (Instant × Operation)} (sorted : operations.Pairwise (·.1 ≤ ·.1))
    (after : ∀ o ∈ operations, now ≤ o.1)
    (near : ∀ t ∈ callsOf userId operations, t + g.window < Instant.horizon) :
    answersTo userId operations (Guard.course Store.perform g operations s).1 =
      (g.resume begun (callsOf userId operations)).map fun d => some (.rate d) := by
  induction operations generalizing now begun s with
  | nil => cases begun <;> rfl
  | cons o rest ih =>
      obtain ⟨time, operation⟩ := o
      obtain ⟨hfirst, hrest⟩ := List.pairwise_cons.mp sorted
      have hnow := h.later (List.forall_mem_cons.mp after).1
      by_cases hcall : operation = .checkRate userId
      · subst hcall
        have hcalls : callsOf userId ((time, .checkRate userId) :: rest) =
            time :: callsOf userId rest := by simp [callsOf]
        rw [hcalls] at near ⊢
        obtain ⟨hnear, nearRest⟩ := List.forall_mem_cons.mp near
        obtain ⟨n, s', hn, hconduct, hholds⟩ := hnow.checkRate hnear
        have hresume : g.resume begun (time :: callsOf userId rest) =
            g.decision n.2 :: g.resume (some n) (callsOf userId rest) := by
          rw [resume, ← hn]
          cases begun.filter (time < ·.1 + g.window) <;> rfl
        rw [hresume, List.map_cons, ← ih hholds hrest hfirst nearRest, Guard.course, hconduct]
        simp [answersTo]
      · have hcalls : callsOf userId ((time, operation) :: rest) = callsOf userId rest := by
          simp [callsOf, hcall]
        rw [hcalls] at near ⊢
        rw [← ih (hnow.spared hcall) hrest hfirst near, Guard.course]
        simp [answersTo, hcall]

/-- **Decided by windows.** Over one store that is online and holds nothing at the key of a user,
and for every sequence of operations at times that do not decrease, the calls of the user are
decided by their windows, and by nothing else: call number `k` of a window is allowed if `k` is
within the limit, and exceeds it with a count of `k` otherwise. All that is asked of the clock is
that it reaches the end of a window that starts with a call. -/
theorem decided_by_windows (g : Guard) (userId : String) {s : Store} (online : s.offline = false)
    (distinct : s.Distinct) (unused : s.entry? (counterKey userId) = none)
    {operations : List (Instant × Operation)} (sorted : operations.Pairwise (·.1 ≤ ·.1))
    (near : ∀ t ∈ callsOf userId operations, t + g.window < Instant.horizon) :
    answersTo userId operations (course Store.perform g operations s).1 =
      ((windows g.window (callsOf userId operations)).flatMap g.decisionsIn).map
        fun d => some (.rate d) := by
  have hholds : Holds g (counterKey userId) none 0 s :=
    ⟨online, distinct, by rw [Store.item?, unused]; rfl⟩
  rw [hholds.course sorted (fun o _ => Nat.zero_le o.1) near, resume_none]

/-- Calls of two users and a marker that comes between. The second window of the first user starts
at the end of the first. -/
def callsOfTwo : List (Instant × Operation) :=
  [(0, .checkRate "u"), (Duration.ofSeconds 1, .checkRate "w"),
    (Duration.ofSeconds 59, .checkRate "u"), (Duration.ofSeconds 59, .markProcessed "u"),
    (Duration.ofSeconds 60, .checkRate "u"), (Duration.ofSeconds 61, .checkRate "w")]

/-- The second call of the first window exceeds a limit of one. -/
theorem decided_by_windows_two :
    ({} : Store).offline = false ∧ Store.Distinct {} ∧
      Store.entry? {} (counterKey "u") = none ∧ callsOfTwo.Pairwise (·.1 ≤ ·.1) ∧
      (∀ t ∈ callsOf "u" callsOfTwo, t + Duration.ofSeconds 60 < Instant.horizon) ∧
      answersTo "u" callsOfTwo (course Store.perform ⟨1, .ofSeconds 60⟩ callsOfTwo {}).1 =
        [some (.rate .allowed), some (.rate (.exceeded 2 1)), some (.rate .allowed)] := by
  have sorted : callsOfTwo.Pairwise (·.1 ≤ ·.1) := by decide
  have near : ∀ t ∈ callsOf "u" callsOfTwo, t + Duration.ofSeconds 60 < Instant.horizon := by
    decide
  have hwindows : windows (Duration.ofSeconds 60) (callsOf "u" callsOfTwo) =
      [[0, Duration.ofSeconds 59], [Duration.ofSeconds 60]] := by
    rw [show callsOf "u" callsOfTwo =
      [0, Duration.ofSeconds 59, Duration.ofSeconds 60] by decide]
    simp [windows, Duration.ofSeconds, Duration.perSecond]
  have distinct : Store.Distinct {} := .nil
  refine ⟨rfl, distinct, rfl, sorted, near, ?_⟩
  rw [decided_by_windows ⟨1, .ofSeconds 60⟩ "u" (s := {}) rfl distinct rfl sorted near, hwindows]
  rfl

end Guard

end PushDelivery
