import Mathlib.Data.List.Count
import Mathlib.Logic.Relation
import PushDelivery.Proofs.Breaker.Steps

/-!
# Calls Side by Side

Calls through one breaker overlap. A call is admitted at one time and ends at another, and the
circuit may have changed its state in between, more than once. The breaker does not know which of
its calls has ended. This module puts the calls beside the breaker and shows what its counters have
to do with them.

## Periods and windows

A period is the time between two changes of the state, and a window that between two resets of the
counters. Both are numbered. Every change of the state resets the counters, so a period consists of
windows; a period in which the circuit is open or half open is one window. A call that makes an open
circuit half open is admitted in the period that it begins. A call that ends belongs to the period
and the window that it ends in, even if it is what ends them.

## Main definitions

* `Traffic`: a breaker with the calls in progress and those that have ended.
* `Traffic.Step`, `Traffic.Reachable`: any interleaving of calls, at any times.
* `Traffic.Tallied`: what the counters say about the calls.

## Main results

* `Traffic.Reachable.sound`, `Traffic.Reachable.tallied`: both invariants hold in each
  interleaving.
* `Traffic.Reachable.admittedIn_le`: no half-open period admits more trials than it may.
* `Traffic.Reachable.counters`: the counters in each state of the circuit, and no half-open circuit
  without a trial in progress refuses a call.
-/

namespace PushDelivery.Breaker

/-- A call that has ended: the period in which it was admitted, the period and the window in which
it ended, and whether it succeeded. -/
structure Ending where
  admitted : Nat
  period : Nat
  window : Nat
  success : Bool
  deriving DecidableEq, Repr

/-- A breaker with its calls. Of a call in progress only the period is kept in which it was
admitted. -/
structure Traffic where
  breaker : Breaker
  period : Nat
  window : Nat
  inFlight : List Nat
  ended : List Ending
  deriving Repr

namespace Traffic

variable {c : Config} {t t' : Traffic}

/-! ### Interleavings -/

/-- A new breaker before its first call. -/
def fresh (now : Instant) : Traffic := ⟨.initial now, 0, 0, [], []⟩

/-- The breaker has made a step. -/
def turn (t : Traffic) (b : Breaker) : Traffic :=
  { t with
    breaker := b
    period := if b.circuit = t.breaker.circuit then t.period else t.period + 1
    window :=
      if b.circuit = t.breaker.circuit ∧ b.windowStart = t.breaker.windowStart then t.window
      else t.window + 1 }

/-- The breaker has admitted a call. -/
def enter (t : Traffic) (b : Breaker) : Traffic :=
  { t.turn b with inFlight := (t.turn b).period :: t.inFlight }

/-- A call that was admitted in some period has ended. -/
def leave (t : Traffic) (b : Breaker) (admitted : Nat) (success : Bool) : Traffic :=
  { t.turn b with
    inFlight := t.inFlight.erase admitted
    ended := ⟨admitted, t.period, t.window, success⟩ :: t.ended }

/-- One step of one call: it is admitted, or refused, or one of those in progress ends. -/
inductive Step (c : Config) : Traffic → Traffic → Prop
  | admitted {t : Traffic} {now : Instant} {b : Breaker}
      (step : t.breaker.permit c now = (true, b)) : Step c t (t.enter b)
  | refused {t : Traffic} {now : Instant} {b : Breaker}
      (step : t.breaker.permit c now = (false, b)) : Step c t (t.turn b)
  | ended {t : Traffic} {now : Instant} {b : Breaker} {admitted : Nat} {success : Bool}
      (underWay : admitted ∈ t.inFlight) (step : t.breaker.settle c success now = b) :
      Step c t (t.leave b admitted success)

/-- Some interleaving of calls leads there from a new breaker. -/
def Reachable (c : Config) (t : Traffic) : Prop :=
  ∃ now, Relation.ReflTransGen (Step c) (fresh now) t

/-- The number of calls that were admitted in a period. -/
def admittedIn (t : Traffic) (period : Nat) : Nat :=
  t.inFlight.count period + t.ended.countP (·.admitted = period)

/-- The breaker is sound through all its calls. -/
theorem Step.sound (h : Step c t t') (hs : Sound c t.breaker) : Sound c t'.breaker := by
  cases h with
  | admitted step => exact hs.permit step
  | refused step => exact hs.permit step
  | ended _ step => exact hs.settle step

/-- Every breaker is sound. -/
theorem Reachable.sound (h : Reachable c t) : Sound c t.breaker := by
  obtain ⟨now, steps⟩ := h
  induction steps with
  | refl => exact sound_initial c now
  | tail _ step ih => exact step.sound ih

/-! ### Steps by what they change -/

/-- A step that leaves the state as it is stays in its period. -/
theorem period_turn_of_eq {b : Breaker} (circuit : b.circuit = t.breaker.circuit) :
    (t.turn b).period = t.period := if_pos circuit

/-- A step that changes the state begins a period. -/
theorem period_turn_of_ne {b : Breaker} (circuit : b.circuit ≠ t.breaker.circuit) :
    (t.turn b).period = t.period + 1 := if_neg circuit

/-- Periods are numbered in their order. -/
theorem period_le_turn (t : Traffic) (b : Breaker) : t.period ≤ (t.turn b).period := by
  unfold turn
  dsimp only
  split <;> omega

/-- Windows are numbered in their order. -/
theorem window_le_turn (t : Traffic) (b : Breaker) : t.window ≤ (t.turn b).window := by
  unfold turn
  dsimp only
  split <;> omega

/-- An admission adds one call to those of its period. -/
theorem admittedIn_enter (t : Traffic) (b : Breaker) (period : Nat) :
    (t.enter b).admittedIn period =
      t.admittedIn period + if (t.turn b).period = period then 1 else 0 := by
  simp only [admittedIn, enter, List.count_cons, beq_iff_eq]
  exact Nat.add_right_comm _ _ _

/-- The end of a call leaves it where it was admitted. -/
theorem admittedIn_leave {b : Breaker} {admitted : Nat} {success : Bool}
    (underWay : admitted ∈ t.inFlight) (period : Nat) :
    (t.leave b admitted success).admittedIn period = t.admittedIn period := by
  have one := List.one_le_count_iff.mpr underWay
  by_cases h : admitted = period
  · subst h
    simp only [admittedIn, leave, List.count_erase_self, List.countP_cons, decide_true, if_true]
    omega
  · simp [admittedIn, leave, turn, List.count_erase_of_ne (Ne.symm h), h]

/-! ### What the counters say about the calls -/

/-- Nothing has happened in a period or a window that is still to come. -/
structure Dated (t : Traffic) : Prop where
  inFlight : ∀ p ∈ t.inFlight, p ≤ t.period
  ended : ∀ e ∈ t.ended, e.admitted ≤ e.period ∧ e.period ≤ t.period ∧ e.window ≤ t.window

/-- No step happens in the future. -/
theorem Step.dated (h : Step c t t') (hd : t.Dated) : t'.Dated := by
  have turned : ∀ b, (t.turn b).Dated := fun b => by
    refine ⟨fun p hp => Nat.le_trans (hd.inFlight p hp) (period_le_turn t b), fun e he => ?_⟩
    obtain ⟨begun, period, window⟩ := hd.ended e he
    exact ⟨begun, Nat.le_trans period (period_le_turn t b),
      Nat.le_trans window (window_le_turn t b)⟩
  cases h with
  | @admitted now b step =>
      refine ⟨fun p hp => ?_, (turned b).ended⟩
      rcases List.mem_cons.mp hp with rfl | hp
      · exact Nat.le_refl _
      · exact (turned b).inFlight p hp
  | refused => exact turned _
  | @ended now b admitted success underWay step =>
      refine ⟨fun p hp => (turned b).inFlight p (List.mem_of_mem_erase hp), fun e he => ?_⟩
      rcases List.mem_cons.mp he with rfl | he
      · exact ⟨hd.inFlight _ underWay, period_le_turn t b, window_le_turn t b⟩
      · exact (turned b).ended e he

/-- No call has a number that is still to come. -/
theorem countP_eq_zero_of_lt {ended : List Ending} {number : Ending → Nat} {n : Nat}
    (before : ∀ e ∈ ended, number e < n) : ended.countP (number · = n) = 0 := by
  refine List.countP_eq_zero.mpr fun e he => ?_
  simpa using Nat.ne_of_lt (before e he)

/-- No call was admitted in the next period. -/
theorem Dated.admittedIn_next (h : t.Dated) : t.admittedIn (t.period + 1) = 0 := by
  have inFlight : t.inFlight.count (t.period + 1) = 0 :=
    List.count_eq_zero.mpr fun hp => Nat.not_succ_le_self _ (h.inFlight _ hp)
  have ended : t.ended.countP (·.admitted = t.period + 1) = 0 := countP_eq_zero_of_lt fun e he => by
    obtain ⟨begun, before, -⟩ := h.ended e he
    omega
  rw [admittedIn, inFlight, ended]

/-- No call has ended in the next period. -/
theorem Dated.countP_nextPeriod (h : t.Dated) :
    t.ended.countP (·.period = t.period + 1) = 0 :=
  countP_eq_zero_of_lt fun e he => Nat.lt_succ_of_le (h.ended e he).2.1

/-- No call has ended in the next window. -/
theorem Dated.countP_nextWindow (h : t.Dated) :
    t.ended.countP (·.window = t.window + 1) = 0 :=
  countP_eq_zero_of_lt fun e he => Nat.lt_succ_of_le (h.ended e he).2.2

/-- What the counters say about the calls of a half-open period. -/
structure Trials (t : Traffic) : Prop where
  /-- The trials are the calls that were admitted in this period. -/
  admitted : t.breaker.requests = t.admittedIn t.period
  /-- No call has failed in this period. -/
  unfailing : ∀ e ∈ t.ended, e.period = t.period → e.success = true
  /-- The successes are the calls that have ended in this period, whenever they were admitted. -/
  successes : t.breaker.successes = t.ended.countP (·.period = t.period)

/-- What the counters say about the calls. -/
structure Tallied (t : Traffic) : Prop where
  /-- Failures and successes are the calls that have ended in this window, whenever they were
  admitted. -/
  counted : t.breaker.failures + t.breaker.successes = t.ended.countP (·.window = t.window)
  trials : t.breaker.circuit = .halfOpen → t.Trials

/-- An admission keeps the tally. -/
theorem Tallied.enter (h : t.Tallied) (hd : t.Dated) {now : Instant} {b : Breaker}
    (step : t.breaker.permit c now = (true, b)) : (t.enter b).Tallied := by
  have newWindow := hd.countP_nextWindow.symm
  have newPeriod := hd.countP_nextPeriod.symm
  cases permits step with
  | closed state =>
      exact ⟨by simpa [Traffic.enter, turn] using h.counted, by simp [Traffic.enter, turn, state]⟩
  | forgiven state stale =>
      have moved : now ≠ t.breaker.windowStart :=
        Nat.ne_of_gt (Nat.lt_of_sub_pos (Nat.zero_lt_of_lt stale))
      refine ⟨?_, by simp [Traffic.enter, turn, state]⟩
      simpa [Traffic.enter, turn, moved] using newWindow
  | firstTrial state =>
      have changed : Circuit.halfOpen ≠ t.breaker.circuit := by simp [state]
      refine ⟨by simpa [Traffic.enter, turn, changed] using newWindow, fun _ => ⟨?_, ?_, ?_⟩⟩
      · rw [admittedIn_enter]
        simp [Traffic.enter, turn, changed, hd.admittedIn_next]
      · intro e he same
        have before := (hd.ended e he).2.1
        rw [Traffic.enter, period_turn_of_ne changed] at same
        omega
      · simpa [Traffic.enter, turn, changed] using newPeriod
  | trial state room =>
      have trials := h.trials state
      refine ⟨by simpa [Traffic.enter, turn] using h.counted, fun _ => ⟨?_, ?_, ?_⟩⟩
      · rw [admittedIn_enter]
        simp [Traffic.enter, turn, trials.admitted]
      · simpa [Traffic.enter, turn] using trials.unfailing
      · simpa [Traffic.enter, turn] using trials.successes

/-- A refusal changes nothing. -/
theorem turn_of_refused {now : Instant} {b : Breaker}
    (step : t.breaker.permit c now = (false, b)) : t.turn b = t := by
  cases permits step with
  | waiting | full => simp [turn]

/-- The end of a call keeps the tally. -/
theorem Tallied.leave (h : t.Tallied) (hd : t.Dated) {now : Instant} {b : Breaker}
    {admitted : Nat} {success : Bool} (underWay : admitted ∈ t.inFlight)
    (step : t.breaker.settle c success now = b) : (t.leave b admitted success).Tallied := by
  have newWindow := hd.countP_nextWindow.symm
  cases settles step with
  | success more =>
      refine ⟨?_, fun state => ?_⟩
      · simp [Traffic.leave, turn, ← h.counted, Nat.add_assoc]
      · have trials := h.trials state
        refine ⟨?_, ?_, ?_⟩
        · rw [admittedIn_leave underWay]
          simpa [Traffic.leave, turn] using trials.admitted
        · simpa [Traffic.leave, turn] using trials.unfailing
        · simpa [Traffic.leave, turn] using trials.successes
  | recovery state =>
      have changed : Circuit.closed ≠ t.breaker.circuit := by simp [state]
      exact ⟨by simpa [Traffic.leave, turn, changed] using newWindow, nofun⟩
  | failure state =>
      refine ⟨?_, by simp [Traffic.leave, turn, state]⟩
      simp [Traffic.leave, turn, ← h.counted, Nat.add_right_comm]
  | opening state =>
      have changed : Circuit.isOpen ≠ t.breaker.circuit := by
        rcases state with state | ⟨state, -⟩ <;> simp [state]
      exact ⟨by simpa [Traffic.leave, turn, changed] using newWindow, nofun⟩
  | late state =>
      refine ⟨?_, by simp [Traffic.leave, turn, state]⟩
      simp [Traffic.leave, turn, ← h.counted, Nat.add_right_comm]

/-- A step keeps the tally. -/
theorem Step.tallied (h : Step c t t') (hd : t.Dated) (ht : t.Tallied) : t'.Tallied := by
  cases h with
  | admitted step => exact ht.enter hd step
  | refused step => exact (turn_of_refused step).symm ▸ ht
  | ended underWay step => exact ht.leave hd underWay step

/-- No interleaving happens in the future, and its counters say what they should. -/
theorem Reachable.tallied (h : Reachable c t) : t.Dated ∧ t.Tallied := by
  obtain ⟨now, steps⟩ := h
  induction steps with
  | refl => exact ⟨⟨by simp [fresh], by simp [fresh]⟩, ⟨rfl, nofun⟩⟩
  | tail _ step ih => exact ⟨step.dated ih.1, step.tallied ih.1 ih.2⟩

/-! ### Trials -/

/-- A trial that was admitted is in progress or has succeeded. -/
theorem Trials.requests_le (h : t.Trials) (hd : t.Dated) :
    t.breaker.requests ≤ t.inFlight.count t.period + t.breaker.successes := by
  have ended : t.ended.countP (·.admitted = t.period) ≤ t.ended.countP (·.period = t.period) := by
    refine List.countP_mono_left fun e he admitted => ?_
    obtain ⟨begun, before, -⟩ := hd.ended e he
    simp only [decide_eq_true_eq] at admitted ⊢
    omega
  calc t.breaker.requests = t.inFlight.count t.period + t.ended.countP (·.admitted = t.period) :=
        h.admitted
    _ ≤ t.inFlight.count t.period + t.ended.countP (·.period = t.period) :=
        Nat.add_le_add_left ended _
    _ = t.inFlight.count t.period + t.breaker.successes := by rw [h.successes]

/-- A half-open circuit without a trial in progress admits the next call. -/
theorem Reachable.permit_of_idle (h : Reachable c t) (half : t.breaker.circuit = .halfOpen)
    (idle : t.period ∉ t.inFlight) (now : Instant) : (t.breaker.permit c now).1 = true := by
  obtain ⟨hd, ht⟩ := h.tallied
  obtain ⟨-, begun, -, successes⟩ := h.sound.halfOpen half
  have trials := (ht.trials half).requests_le hd
  rw [List.count_eq_zero.mpr idle] at trials
  cases step : t.breaker.permit c now with
  | mk admitted b =>
      cases admitted with
      | true => rfl
      | false =>
          -- Only a circuit that is full could refuse, but its trials have all succeeded.
          cases permits step with
          | waiting state => simp [half] at state
          | full state full => omega

/-- A step admits no call in a period that is over. -/
theorem Step.admittedIn_of_lt (h : Step c t t') {period : Nat} (past : period < t'.period) :
    t'.admittedIn period = t.admittedIn period := by
  cases h with
  | @admitted now b step =>
      have past : period < (t.turn b).period := past
      rw [admittedIn_enter, if_neg (Nat.ne_of_gt past), Nat.add_zero]
  | refused => rfl
  | ended underWay => exact admittedIn_leave underWay period

/-- A step leaves state and period as they are, or changes the state and begins a period. -/
theorem Step.period_cases (h : Step c t t') :
    (t'.breaker.circuit = t.breaker.circuit ∧ t'.period = t.period) ∨
      (t'.breaker.circuit ≠ t.breaker.circuit ∧ t'.period = t.period + 1) := by
  have turned : ∀ b : Breaker, (b.circuit = t.breaker.circuit ∧ (t.turn b).period = t.period) ∨
      (b.circuit ≠ t.breaker.circuit ∧ (t.turn b).period = t.period + 1) := fun b =>
    (em (b.circuit = t.breaker.circuit)).imp (fun same => ⟨same, period_turn_of_eq same⟩)
      fun changed => ⟨changed, period_turn_of_ne changed⟩
  cases h with
  | admitted | refused | ended => exact turned _

/-- No half-open period admits more trials than it may, however long it is ago. -/
theorem Reachable.admittedIn_le (h : Reachable c t) (half : t.breaker.circuit = .halfOpen)
    (steps : Relation.ReflTransGen (Step c) t t') :
    t'.admittedIn t.period ≤ max 1 c.maxRequests := by
  -- As long as the period goes on, its trials are counted; afterwards none is added.
  have bounded : ∀ {u : Traffic}, Reachable c u → u.breaker.circuit = .halfOpen →
      u.admittedIn u.period ≤ max 1 c.maxRequests := fun {u} hu state => by
    rw [← (hu.tallied.2.trials state).admitted]
    exact (hu.sound.halfOpen state).2.2.1
  have invariant : (t'.breaker.circuit = .halfOpen ∧ t'.period = t.period) ∨
      (t.period < t'.period ∧ t'.admittedIn t.period ≤ max 1 c.maxRequests) := by
    induction steps with
    | refl => exact .inl ⟨half, rfl⟩
    | @tail u v steps step ih =>
        rcases ih with ⟨state, same⟩ | ⟨past, few⟩
        · rcases step.period_cases with ⟨circuit, period⟩ | ⟨-, period⟩
          · exact .inl ⟨circuit.trans state, period.trans same⟩
          · have past : t.period < v.period := by omega
            obtain ⟨now, before⟩ := h
            have few := bounded ⟨now, before.trans steps⟩ state
            rw [same, ← step.admittedIn_of_lt past] at few
            exact .inr ⟨past, few⟩
        · have later : t.period < v.period := by
            rcases step.period_cases with ⟨-, period⟩ | ⟨-, period⟩ <;> omega
          exact .inr ⟨later, (step.admittedIn_of_lt later).symm ▸ few⟩
  rcases invariant with ⟨state, same⟩ | ⟨-, few⟩
  · obtain ⟨now, before⟩ := h
    exact same ▸ bounded ⟨now, before.trans steps⟩ state
  · exact few

/-- **What holds of a breaker in every interleaving of its calls.** A closed circuit has failed less
often than it may and counts no trial. An open one counts no trial and knows its last failure. A
half-open one has not failed, and has trials and too few successes, within their bounds; no more
calls are ever admitted in its period than it may have trials; and if none of them is in progress,
the next call is admitted. Failures and successes together are the calls that have ended since the
counters were reset, so they stay below any bound that these stay below. -/
theorem Reachable.counters (h : Reachable c t) :
    (t.breaker.circuit = .closed →
      t.breaker.failures < max 1 c.failureThreshold ∧ t.breaker.requests = 0) ∧
    (t.breaker.circuit = .isOpen → t.breaker.requests = 0 ∧ t.breaker.lastFailure ≠ none) ∧
    (t.breaker.circuit = .halfOpen →
      (t.breaker.failures = 0 ∧ 1 ≤ t.breaker.requests ∧
        t.breaker.requests ≤ max 1 c.maxRequests ∧ t.breaker.successes < max 1 c.maxRequests) ∧
      (∀ t', Relation.ReflTransGen (Step c) t t' →
        t'.admittedIn t.period ≤ max 1 c.maxRequests) ∧
      (t.period ∉ t.inFlight → ∀ now, (t.breaker.permit c now).1 = true)) ∧
    t.breaker.failures + t.breaker.successes = t.ended.countP (·.window = t.window) := by
  refine ⟨h.sound.closed, h.sound.isOpen, fun half => ⟨h.sound.halfOpen half, ?_, ?_⟩, ?_⟩
  · exact fun t' steps => h.admittedIn_le half steps
  · exact fun idle now => h.permit_of_idle half idle now
  · exact h.tallied.2.counted

/-- Two trials, and a single failure opens the circuit. -/
def twoTrials : Config := { maxRequests := 2, failureThreshold := 1 }

/-- A call fails and opens the circuit, and the first trial succeeds after the timeout. -/
def afterOneTrial : Traffic where
  breaker :=
    { circuit := .halfOpen, failures := 0, successes := 1, requests := 1
      windowStart := Duration.ofSeconds 31, lastFailure := some 0
      lastChange := Duration.ofSeconds 31 }
  period := 2
  window := 2
  inFlight := []
  ended := [⟨2, 2, 2, true⟩, ⟨0, 0, 0, false⟩]

/-- These are four steps. -/
theorem afterOneTrial_reachable : Reachable twoTrials afterOneTrial := by
  refine ⟨(0 : Nat), ?_⟩
  have opened : Relation.ReflTransGen (Step twoTrials) (fresh (0 : Nat)) _ :=
    .tail (.single (@Step.admitted twoTrials _ (0 : Nat) _ rfl))
      (@Step.ended twoTrials _ (0 : Nat) _ 0 false (by decide) rfl)
  have tried := opened.tail (@Step.admitted twoTrials _ (Duration.ofSeconds 31) _ rfl)
  exact tried.tail (@Step.ended twoTrials _ (Duration.ofSeconds 31) _ 2 true (by decide) rfl)

/-- The trial is over, one of two was admitted, and the next call is. -/
theorem counters_afterOneTrial :
    afterOneTrial.breaker.circuit = .halfOpen ∧ afterOneTrial.breaker.requests ≤ 2 ∧
      afterOneTrial.admittedIn afterOneTrial.period ≤ 2 ∧
      ∀ now, (afterOneTrial.breaker.permit twoTrials now).1 = true := by
  obtain ⟨-, -, halfOpen, -⟩ := Reachable.counters afterOneTrial_reachable
  obtain ⟨⟨-, -, requests, -⟩, admitted, idle⟩ := halfOpen rfl
  exact ⟨rfl, requests, admitted _ .refl, idle (by decide)⟩

end Traffic

end PushDelivery.Breaker
