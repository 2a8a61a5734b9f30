import Mathlib.Data.List.Chain
import PushDelivery.Retry.Loop

/-!
# The Invocations of an Operation

An operation is invoked with one number after the other until it succeeds, fails for good, has used
up its attempts, or is cancelled in a wait. This module puts the loop on a clock and keeps a log of
the invocations. The operation may do anything: what it comes to and how long it takes is a function
of its number, the time and what it remembers. Of timers and of the wish to cancel no more is known
than `Waits` says, and where both come at once it leaves open which of them is seen.

## Main definitions

* `Waits`: how a wait that begins at an instant may end, and when.
* `Surroundings`: an operation, a wish to cancel, and waits of this kind.
* `Course`: the invocations of a loop from one of them on, with what it comes to and when.
* `Invocation.Leads`: how an invocation leads to the next one.
* `Invocation.Concludes`: what comes of the last one.

## Main results

* `retry_of_lt`: one round of the loop.
* `waits_pauseFrom`: the waits on a clock are of this kind.
* `course_retry`: every loop takes a course.
* `invocations_of_retry`: which invocations a loop makes, and what it comes to.
-/

namespace PushDelivery

namespace RetryPolicy

/-! ### The loop -/

section Loop

variable {m : Type → Type} [Monad m] {α : Type}

/-- Without an attempt left, nothing is invoked. -/
theorem retry_of_le {p : RetryPolicy} {spent : Nat} (h : p.maxAttempts ≤ spent)
    (pause : Duration → m Pause) (operation : Nat → m (Except DeliveryError α)) :
    p.retry pause operation spent = pure (.error (.maxRetriesExceeded spent)) := by
  rw [retry, Nat.sub_eq_zero_of_le h, attempts]

/-- With an attempt left, the operation is invoked with its number. An error that another attempt
may mend leads to a wait and to the loop from the next number on, unless it was the last attempt. -/
theorem retry_of_lt {p : RetryPolicy} {spent : Nat} (h : spent < p.maxAttempts)
    (pause : Duration → m Pause) (operation : Nat → m (Except DeliveryError α)) :
    p.retry pause operation spent = (do
      match ← operation spent with
      | .ok a => pure (.ok a)
      | .error e =>
        if e.isRetryable ∧ spent + 1 < p.maxAttempts then
          match ← pause (p.backoff spent) with
          | .cancelled => pure (.error .cancelled)
          | .elapsed => p.retry pause operation (spent + 1)
        else pure (.error e)) := by
  obtain ⟨left, hleft⟩ := Nat.exists_eq_add_of_lt h
  have first : p.maxAttempts - spent = left + 1 := by omega
  have others : p.maxAttempts - (spent + 1) = left := by omega
  have again : left ≠ 0 ↔ spent + 1 < p.maxAttempts := by omega
  rw [retry, first]
  refine bind_congr fun result => ?_
  cases result with
  | ok a => rfl
  | error e =>
      refine ite_congr (by rw [again]) (fun _ => bind_congr fun how => ?_) fun _ => rfl
      cases how with
      | cancelled => rfl
      | elapsed => exact congrArg (p.attempts pause operation · (spent + 1)) others.symm

end Loop

/-! ### The clock -/

/-- How a wait that begins at an instant may end, and when: by itself at the first whole millisecond
at which it is over, or by the wish to cancel as soon as both the wish and the wait are there. If
these come at the same instant, either of them may be seen. -/
inductive Waits (now : Instant) (d : Duration) (cancelAt : Option Instant) : Pause → Instant → Prop
  | elapsed (uncut : ∀ c ∈ cancelAt, Duration.ceilMillis (now + d) ≤ max now c) :
      Waits now d cancelAt .elapsed (Duration.ceilMillis (now + d))
  | cancelled {c : Instant} (wish : cancelAt = some c)
      (inTime : max now c ≤ Duration.ceilMillis (now + d)) :
      Waits now d cancelAt .cancelled (max now c)

/-- A whole number of milliseconds that is not less than a duration is not less. -/
theorem le_ceilMillis (d : Duration) : d ≤ Duration.ceilMillis d := by
  have rounded (n : Nat) : n ≤ (n + (1000000 - 1)) / 1000000 * 1000000 := by omega
  exact rounded d

/-- A wait on a clock is such a wait; of the two that come at once it sees the wish if this was
there before. -/
theorem waits_pauseFrom (now : Instant) (d : Duration) (cancelAt : Option Instant) :
    Waits now d cancelAt (pauseFrom now d cancelAt).1 (pauseFrom now d cancelAt).2 := by
  have hle : now ≤ Duration.ceilMillis (now + d) :=
    Nat.le_trans (Nat.le_add_right now d) (le_ceilMillis (now + d))
  cases cancelAt with
  | none => exact .elapsed nofun
  | some c =>
      by_cases seen : c < Duration.ceilMillis (now + d) ∨ c ≤ now
      · rw [pauseFrom, if_pos seen]
        refine .cancelled rfl (max_le hle ?_)
        exact seen.elim Nat.le_of_lt fun before => Nat.le_trans before hle
      · obtain ⟨late, -⟩ := not_or.mp seen
        rw [pauseFrom, if_neg seen]
        refine .elapsed fun c' hc' => ?_
        obtain rfl : c = c' := Option.some.inj hc'
        exact Nat.le_trans (Nat.le_of_not_lt late) (Nat.le_max_right now c)

end RetryPolicy

/-- One invocation of an operation: its number, when it began and ended, and what it came to. -/
structure Invocation (α : Type) where
  attempt : Nat
  begun : Instant
  ended : Instant
  result : Except DeliveryError α

/-- A clock, what an operation remembers, and its invocations so far. -/
structure Clocked (σ α : Type) where
  now : Instant
  memory : σ
  invocations : List (Invocation α)

/-- What a loop of attempts goes on in: an operation that comes to a result and takes some time by
its number, the clock and what it remembers; the instant of a wish to cancel; and waits. -/
structure Surroundings (σ α : Type) where
  operation : Nat → Instant → σ → Except DeliveryError α × Duration × σ
  cancelAt : Option Instant
  wait : Clocked σ α → Duration → Pause × Instant
  waits : ∀ s d, RetryPolicy.Waits s.now d cancelAt (wait s d).1 (wait s d).2

namespace Surroundings

variable {σ α : Type}

/-- An operation, with waits on a clock. -/
def onClock (operation : Nat → Instant → σ → Except DeliveryError α × Duration × σ)
    (cancelAt : Option Instant) : Surroundings σ α where
  operation
  cancelAt
  wait s d := RetryPolicy.pauseFrom s.now d cancelAt
  waits s d := RetryPolicy.waits_pauseFrom s.now d cancelAt

/-- The invocation that a number leads to. -/
def invocation (w : Surroundings σ α) (attempt : Nat) (s : Clocked σ α) : Invocation α where
  attempt
  begun := s.now
  ended := s.now + (w.operation attempt s.now s.memory).2.1
  result := (w.operation attempt s.now s.memory).1

/-- What it leaves. -/
def after (w : Surroundings σ α) (attempt : Nat) (s : Clocked σ α) : Clocked σ α where
  now := (w.invocation attempt s).ended
  memory := (w.operation attempt s.now s.memory).2.2
  invocations := s.invocations ++ [w.invocation attempt s]

/-- Invokes the operation and takes note of it. -/
def invoke (w : Surroundings σ α) (attempt : Nat) :
    StateM (Clocked σ α) (Except DeliveryError α) :=
  modifyGet fun s => ((w.invocation attempt s).result, w.after attempt s)

/-- Waits. -/
def pause (w : Surroundings σ α) (d : Duration) : StateM (Clocked σ α) Pause :=
  modifyGet fun s => ((w.wait s d).1, { s with now := (w.wait s d).2 })

/-- The loop of a policy in these surroundings: what it comes to, and what it leaves. -/
def retry (w : Surroundings σ α) (p : RetryPolicy) (spent : Nat) (s : Clocked σ α) :
    Except DeliveryError α × Clocked σ α :=
  (p.retry w.pause w.invoke spent).run s

/-- One round of the loop on the clock. -/
theorem retry_of_lt (w : Surroundings σ α) {p : RetryPolicy} {spent : Nat}
    (h : spent < p.maxAttempts) (s : Clocked σ α) :
    w.retry p spent s = match (w.invocation spent s).result with
      | .ok a => (.ok a, w.after spent s)
      | .error e =>
        if e.isRetryable ∧ spent + 1 < p.maxAttempts then
          match w.wait (w.after spent s) (p.backoff spent) with
          | (.cancelled, now) => (.error .cancelled, { w.after spent s with now })
          | (.elapsed, now) => w.retry p (spent + 1) { w.after spent s with now }
        else (.error e, w.after spent s) := by
  have invoked (f : Except DeliveryError α → StateM (Clocked σ α) (Except DeliveryError α)) :
      (w.invoke spent >>= f).run s = (f (w.invocation spent s).result).run (w.after spent s) := rfl
  rw [retry, RetryPolicy.retry_of_lt h, invoked]
  cases (w.invocation spent s).result with
  | ok a => rfl
  | error e =>
      by_cases again : e.isRetryable ∧ spent + 1 < p.maxAttempts
      · simp only [if_pos again]
        have waited (f : Pause → StateM (Clocked σ α) (Except DeliveryError α)) :
            (w.pause (p.backoff spent) >>= f).run (w.after spent s) =
              (f (w.wait (w.after spent s) (p.backoff spent)).1).run { w.after spent s with
                now := (w.wait (w.after spent s) (p.backoff spent)).2 } := rfl
        rw [waited]
        obtain ⟨how, now⟩ := w.wait (w.after spent s) (p.backoff spent)
        cases how <;> rfl
      · simp only [if_neg again]
        rfl

end Surroundings

namespace RetryPolicy

variable {σ α : Type}

/-! ### The course of a loop -/

/-- The invocations of a loop from a number and an instant on, what it comes to and when: no attempt
is left; an invocation ends it; the wait after one is cancelled; or one is followed by others. -/
inductive Course (p : RetryPolicy) (cancelAt : Option Instant) :
    Nat → Instant → List (Invocation α) → Except DeliveryError α → Instant → Prop
  | spent {attempt : Nat} {now : Instant} (used : p.maxAttempts ≤ attempt) :
      Course p cancelAt attempt now [] (.error (.maxRetriesExceeded attempt)) now
  | last {attempt : Nat} {now ended : Instant} {result : Except DeliveryError α}
      (left : attempt < p.maxAttempts)
      (final : ∀ e, result = .error e → ¬ (e.isRetryable ∧ attempt + 1 < p.maxAttempts)) :
      Course p cancelAt attempt now [⟨attempt, now, ended, result⟩] result ended
  | cancelled {attempt : Nat} {now ended later : Instant} {e : DeliveryError}
      (again : e.isRetryable ∧ attempt + 1 < p.maxAttempts)
      (cut : Waits ended (p.backoff attempt) cancelAt .cancelled later) :
      Course p cancelAt attempt now [⟨attempt, now, ended, .error e⟩] (.error .cancelled) later
  | again {attempt : Nat} {now ended next later : Instant} {e : DeliveryError}
      {rest : List (Invocation α)} {result : Except DeliveryError α}
      (again : e.isRetryable ∧ attempt + 1 < p.maxAttempts)
      (waited : Waits ended (p.backoff attempt) cancelAt .elapsed next)
      (more : Course p cancelAt (attempt + 1) next rest result later) :
      Course p cancelAt attempt now (⟨attempt, now, ended, .error e⟩ :: rest) result later

/-- Every loop takes a course, and adds its invocations to the log. -/
theorem course_retry (w : Surroundings σ α) (p : RetryPolicy) (spent : Nat) (s : Clocked σ α) :
    ∃ made, (w.retry p spent s).2.invocations = s.invocations ++ made ∧
      Course p w.cancelAt spent s.now made (w.retry p spent s).1 (w.retry p spent s).2.now := by
  induction left : p.maxAttempts - spent generalizing spent s with
  | zero =>
      have used : p.maxAttempts ≤ spent := Nat.sub_eq_zero_iff_le.mp left
      have stops : w.retry p spent s = (.error (.maxRetriesExceeded spent), s) := by
        rw [Surroundings.retry, retry_of_le used]
        rfl
      rw [stops]
      exact ⟨[], (List.append_nil _).symm, .spent used⟩
  | succ left ih =>
      have first : spent < p.maxAttempts := by omega
      have round := w.retry_of_lt first s
      have logged : w.invocation spent s =
          ⟨spent, s.now, (w.invocation spent s).ended, (w.invocation spent s).result⟩ := rfl
      cases hr : (w.invocation spent s).result with
      | ok a =>
          rw [hr] at round logged
          rw [round]
          exact ⟨[_], congrArg (s.invocations ++ [·]) logged, .last first nofun⟩
      | error e =>
          rw [hr] at round logged
          by_cases again : e.isRetryable ∧ spent + 1 < p.maxAttempts
          · simp only [if_pos again] at round
            have waits := w.waits (w.after spent s) (p.backoff spent)
            rcases hw : w.wait (w.after spent s) (p.backoff spent) with ⟨how, now⟩
            rw [hw] at round waits
            cases how with
            | cancelled =>
                rw [round]
                exact ⟨[_], congrArg (s.invocations ++ [·]) logged, .cancelled again waits⟩
            | elapsed =>
                obtain ⟨made, more, course⟩ :=
                  ih (spent + 1) { w.after spent s with now } (by omega)
                rw [round]
                refine ⟨_ :: made, ?_, .again again waits course⟩
                rw [more, Surroundings.after, logged, List.append_assoc, List.singleton_append]
          · simp only [if_neg again] at round
            rw [round]
            refine ⟨[_], congrArg (s.invocations ++ [·]) logged, .last first fun e' he => ?_⟩
            obtain rfl : e = e' := Except.error.inj he
            exact again

end RetryPolicy

/-! ### What a course consists of -/

namespace Invocation

variable {α : Type}

/-- An invocation leads to the next one: it failed with an error that another attempt may mend; the
next one has the next number, and begins when the wait after it is over; and no wish to cancel was
there before that, unless the wait was over as it began. -/
structure Leads (p : RetryPolicy) (cancelAt : Option Instant) (i j : Invocation α) : Prop where
  failed : ∃ e, i.result = .error e ∧ e.isRetryable = true
  next : j.attempt = i.attempt + 1
  waited : j.begun = Duration.ceilMillis (i.ended + p.backoff i.attempt)
  uncut : ∀ c ∈ cancelAt, j.begun ≤ max i.ended c

/-- The last invocation concludes a loop: its value is the result; so is its error if no other
attempt may mend it or none is left; and else the loop was cancelled, by a wish that was there when
the wait after it was over at the latest. -/
structure Concludes (p : RetryPolicy) (cancelAt : Option Instant)
    (result : Except DeliveryError α) (i : Invocation α) : Prop where
  ok : ∀ a, result = .ok a ↔ i.result = .ok a
  error : ∀ e, i.result = .error e →
    (result = .error e ↔ e.isRetryable = false ∨ i.attempt + 1 = p.maxAttempts)
  cancelled : result = .error .cancelled ↔ i.result = .error .cancelled ∨
    ∃ e c, i.result = .error e ∧ e.isRetryable = true ∧ i.attempt + 1 < p.maxAttempts ∧
      cancelAt = some c ∧ c ≤ Duration.ceilMillis (i.ended + p.backoff i.attempt)

end Invocation

namespace RetryPolicy

variable {σ α : Type} {p : RetryPolicy} {cancelAt : Option Instant} {attempt : Nat}
  {now later : Instant} {made : List (Invocation α)} {result : Except DeliveryError α}

open Invocation (Leads Concludes)

/-- Without an attempt left there is none. -/
theorem Course.eq_nil (h : Course p cancelAt attempt now made result later)
    (used : p.maxAttempts ≤ attempt) :
    made = [] ∧ result = .error (.maxRetriesExceeded attempt) := by
  cases h with
  | spent => exact ⟨rfl, rfl⟩
  | last left => exact absurd left (Nat.not_lt.mpr used)
  | cancelled again | again again =>
      exact absurd (Nat.lt_of_succ_lt again.2) (Nat.not_lt.mpr used)

/-- Invocations are numbered from the first one on. -/
theorem Course.attempts (h : Course p cancelAt attempt now made result later) :
    made.map (·.attempt) = List.range' attempt made.length := by
  induction h with
  | spent used => rfl
  | last | cancelled => rfl
  | again _ _ _ ih => rw [List.map_cons, ih, List.length_cons, List.range'_succ]

/-- Their numbers are below the greatest number of attempts. -/
theorem Course.attempt_lt (h : Course p cancelAt attempt now made result later) :
    ∀ i ∈ made, i.attempt < p.maxAttempts := by
  induction h with
  | spent used => exact nofun
  | last left => exact List.forall_mem_singleton.mpr left
  | cancelled again => exact List.forall_mem_singleton.mpr (Nat.lt_of_succ_lt again.2)
  | again again _ _ ih => exact List.forall_mem_cons.mpr ⟨Nat.lt_of_succ_lt again.2, ih⟩

/-- The first one has the number and the instant from which the course is. -/
theorem Course.head (h : Course p cancelAt attempt now made result later) :
    ∀ i ∈ made.head?, i.attempt = attempt ∧ i.begun = now := by
  cases h with
  | spent used => exact nofun
  | last | cancelled | again =>
      rintro i hi
      obtain rfl := Option.some.inj hi
      exact ⟨rfl, rfl⟩

/-- Each one leads to the next. -/
theorem Course.leads (h : Course p cancelAt attempt now made result later) :
    made.IsChain (Leads p cancelAt) := by
  induction h with
  | spent used => exact .nil
  | last | cancelled => exact .singleton _
  | again again waited more ih =>
      refine List.isChain_cons.mpr ⟨fun j hj => ?_, ih⟩
      obtain ⟨hattempt, hbegun⟩ := more.head j hj
      cases waited with
      | elapsed uncut => exact ⟨⟨_, rfl, again.1⟩, hattempt, hbegun, hbegun ▸ uncut⟩

/-- With an attempt left there is a last one, and it concludes the loop. -/
theorem Course.concludes (h : Course p cancelAt attempt now made result later)
    (left : attempt < p.maxAttempts) :
    ∃ earlier last, made = earlier ++ [last] ∧ Concludes p cancelAt result last := by
  induction h with
  | spent used => exact absurd left (Nat.not_lt.mpr used)
  | last _ final =>
      refine ⟨[], _, rfl, fun a => .rfl, fun e he => ⟨fun _ => ?_, fun _ => he⟩, .inl, ?_⟩
      · by_cases mends : e.isRetryable = true
        · exact .inr (Nat.le_antisymm left (Nat.le_of_not_lt fun more => final e he ⟨mends, more⟩))
        · exact .inl (Bool.eq_false_iff.mpr mends)
      · rintro (he | ⟨e, c, he, mends, more, -⟩)
        · exact he
        · exact absurd ⟨mends, more⟩ (final e he)
  | cancelled again cut =>
      refine ⟨[], _, rfl, fun a => ⟨nofun, nofun⟩, fun e' he => ?_, fun _ => .inr ?_, fun _ => rfl⟩
      · obtain rfl := Except.error.inj he
        refine ⟨fun same => .inl ?_, ?_⟩
        · rw [← Except.error.inj same]
          rfl
        · rintro (never | used)
          · exact absurd again.1 (Bool.eq_false_iff.mp never)
          · exact absurd used (Nat.ne_of_lt again.2)
      · cases cut with
        | cancelled wish inTime =>
            exact ⟨_, _, rfl, again.1, again.2, wish, Nat.le_trans (Nat.le_max_right _ _) inTime⟩
  | again again _ _ ih =>
      obtain ⟨earlier, last, rfl, concludes⟩ := ih again.2
      exact ⟨_ :: earlier, last, rfl, concludes⟩

/-- **Which invocations a loop of attempts makes, and what it comes to.** It ends, whatever the
operation does. If no attempt is left nothing is invoked. Else the operation is invoked with
consecutive numbers from the attempts spent before, all below the greatest number of attempts (so
that the next number is a word whenever that one is); each invocation but the last failed with an
error that another attempt may mend, and the next one begins when the wait after it is over; and the
last one decides, or the wait after it was cancelled. -/
theorem invocations_of_retry (p : RetryPolicy) (w : Surroundings σ α) (spent : Nat)
    (start : Instant) (memory : σ) :
    let result := (w.retry p spent ⟨start, memory, []⟩).1
    let made := (w.retry p spent ⟨start, memory, []⟩).2.invocations
    (p.maxAttempts ≤ spent → made = [] ∧ result = .error (.maxRetriesExceeded spent)) ∧
    (spent < p.maxAttempts → (∀ i ∈ made.head?, i.begun = start) ∧
      ∃ earlier last, made = earlier ++ [last] ∧ Concludes p w.cancelAt result last) ∧
    made.map (·.attempt) = List.range' spent made.length ∧
    (∀ i ∈ made, i.attempt < p.maxAttempts ∧
      (p.maxAttempts < Decimal.wordSize 32 → i.attempt + 1 < Decimal.wordSize 32)) ∧
    made.IsChain (Leads p w.cancelAt) := by
  obtain ⟨made, logged, course⟩ := course_retry w p spent ⟨start, memory, []⟩
  rw [List.nil_append] at logged
  rw [logged]
  refine ⟨course.eq_nil, fun left => ⟨fun i hi => (course.head i hi).2, course.concludes left⟩,
    course.attempts, fun i hi => ?_, course.leads⟩
  have below := course.attempt_lt i hi
  exact ⟨below, fun word => Nat.lt_of_le_of_lt below word⟩

/-- An operation that times out at once, with a wish to cancel after a second and a half. -/
def timingOut : Surroundings Unit Unit :=
  .onClock (fun _ _ memory => (.error (.gateway .timeout), 0, memory))
    (some (Duration.ofMillis 1500))

/-- It is invoked twice, a second apart, and cancelled in the wait after that. -/
theorem invocations_of_retry_timingOut :
    let run := timingOut.retry {} 0 ⟨0, (), []⟩
    run.1 = .error .cancelled ∧ run.2.now = Duration.ofMillis 1500 ∧
      run.2.invocations.map (·.begun) = [0, Duration.ofSeconds 1] ∧
      0 < ({} : RetryPolicy).maxAttempts ∧
      ∃ earlier last, run.2.invocations = earlier ++ [last] ∧
        Concludes {} timingOut.cancelAt run.1 last := by
  refine ⟨by decide +kernel, by decide +kernel, by decide +kernel, by decide, ?_⟩
  exact ((invocations_of_retry {} timingOut 0 0 ()).2.1 (by decide)).2

end RetryPolicy

end PushDelivery
