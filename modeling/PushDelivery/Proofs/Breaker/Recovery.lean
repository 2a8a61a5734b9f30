import PushDelivery.Proofs.Breaker.Traffic

/-!
# How a Circuit Recovers

A half-open circuit closes after a number of successes. The breaker counts the calls that succeed in
the period, and does not ask when they were admitted: a call from before the circuit opened that
succeeds late counts as much as a trial. This module shows that nothing else goes wrong. The number
of successes is always the right one, and all of them are trials unless such a call is among them.

## Main definitions

* `Traffic.recoveries`: the calls that have succeeded in a period.

## Main results

* `Traffic.closed_by_trials_iff`: what a half-open circuit has seen when it closes.
* `Traffic.lateSuccess_closes`: a circuit that closes while its only trial is in progress.
-/

namespace PushDelivery.Breaker.Traffic

variable {c : Config} {t t' : Traffic}

/-- The calls that have succeeded in a period, whenever they were admitted. -/
def recoveries (t : Traffic) (period : Nat) : List Ending :=
  t.ended.filter fun e => e.period = period && e.success

/-- The step that closes a half-open circuit is the end of a call, the last one of as many successes
as are needed. -/
theorem Step.recovers (h : Step c t t') (half : t.breaker.circuit = .halfOpen)
    (closed : t'.breaker.circuit = .closed) :
    c.maxRequests ≤ t.breaker.successes + 1 ∧
      ∃ admitted, t'.ended = ⟨admitted, t.period, t.window, true⟩ :: t.ended := by
  have unchanged : ∀ {b : Breaker}, b.circuit = t.breaker.circuit → b.circuit = .closed → False :=
    fun same closed => nomatch half.symm.trans (same.symm.trans closed)
  cases h with
  | @admitted now b step =>
      have closed : b.circuit = .closed := closed
      cases permits step with
      | closed | trial => exact absurd closed (unchanged rfl)
      | forgiven state | firstTrial state => exact nomatch half.symm.trans state
  | refused step =>
      rw [turn_of_refused step] at closed
      exact absurd closed (unchanged rfl)
  | @ended now b admitted success underWay step =>
      have closed : b.circuit = .closed := closed
      cases settles step with
      | success => exact absurd closed (unchanged rfl)
      | recovery _ enough => exact ⟨enough, admitted, rfl⟩
      | failure state | late state => exact nomatch half.symm.trans state
      | opening => cases closed

/-- In a half-open period the successes are the calls that have succeeded in it. -/
theorem Reachable.length_recoveries (h : Reachable c t) (half : t.breaker.circuit = .halfOpen) :
    (t.recoveries t.period).length = t.breaker.successes := by
  have trials := h.tallied.2.trials half
  rw [recoveries, ← List.countP_eq_length_filter, trials.successes]
  refine List.countP_congr fun e he => ?_
  simp only [Bool.and_eq_true, decide_eq_true_eq, and_iff_left_iff_imp]
  exact trials.unfailing e he

/-- **What a half-open circuit has seen when it closes.** As many calls have succeeded in the period
as it needs, neither more nor fewer. They are as many trials, calls that were admitted in the same
period, if and only if no call that was admitted before has succeeded in it. -/
theorem closed_by_trials_iff (h : Reachable c t) (half : t.breaker.circuit = .halfOpen)
    (step : Step c t t') (closed : t'.breaker.circuit = .closed) :
    (t'.recoveries t.period).length = max 1 c.maxRequests ∧
      ((t'.recoveries t.period).countP (·.admitted = t.period) = max 1 c.maxRequests ↔
        ∀ e ∈ t'.recoveries t.period, e.admitted = t.period) := by
  obtain ⟨enough, admitted, ended⟩ := step.recovers half closed
  obtain ⟨-, -, -, few⟩ := h.sound.halfOpen half
  have seen : t'.recoveries t.period =
      ⟨admitted, t.period, t.window, true⟩ :: t.recoveries t.period := by
    simp [recoveries, ended]
  have length : (t'.recoveries t.period).length = max 1 c.maxRequests := by
    rw [seen, List.length_cons, h.length_recoveries half]
    omega
  refine ⟨length, ?_⟩
  rw [← length, List.countP_eq_length]
  simp only [decide_eq_true_eq]

/-- The second trial of a circuit that needs two. -/
def secondTrial : Traffic := afterOneTrial.enter { afterOneTrial.breaker with requests := 2 }

/-- Its success closes the circuit, and both successes are trials. -/
theorem closed_by_trials_iff_second : ∃ t', Reachable twoTrials secondTrial ∧
    secondTrial.breaker.circuit = .halfOpen ∧ Step twoTrials secondTrial t' ∧
    t'.breaker.circuit = .closed ∧
    (t'.recoveries secondTrial.period).countP (·.admitted = secondTrial.period) = 2 := by
  obtain ⟨now, steps⟩ := afterOneTrial_reachable
  have tried : Reachable twoTrials secondTrial :=
    ⟨now, steps.tail (@Step.admitted twoTrials _ (Duration.ofSeconds 32) _ rfl)⟩
  have step := @Step.ended twoTrials secondTrial (Duration.ofSeconds 32) _ 2 true (by decide) rfl
  have seen := closed_by_trials_iff tried rfl step rfl
  exact ⟨_, tried, rfl, step, rfl, seen.2.mpr (by decide)⟩

/-- One trial, and a single failure opens the circuit. -/
def oneTrial : Config := { maxRequests := 1, failureThreshold := 1 }

/-- Two calls are admitted. One of them fails and opens the circuit, and after the timeout a trial
is admitted. The other call and the trial are in progress. -/
def lateCall : Traffic where
  breaker :=
    { circuit := .halfOpen, failures := 0, successes := 0, requests := 1
      windowStart := Duration.ofSeconds 31, lastFailure := some 0
      lastChange := Duration.ofSeconds 31 }
  period := 2
  window := 2
  inFlight := [2, 0]
  ended := [⟨0, 0, 0, false⟩]

/-- These are four steps. -/
theorem lateCall_reachable : Reachable oneTrial lateCall := by
  refine ⟨(0 : Nat), ?_⟩
  have begun : Relation.ReflTransGen (Step oneTrial) (fresh (0 : Nat)) _ :=
    .tail (.single (@Step.admitted oneTrial _ (0 : Nat) _ rfl))
      (@Step.admitted oneTrial _ (0 : Nat) _ rfl)
  have opened := begun.tail (@Step.ended oneTrial _ (0 : Nat) _ 0 false (by decide) rfl)
  exact opened.tail (@Step.admitted oneTrial _ (Duration.ofSeconds 31) _ rfl)

/-- The late success of a call that was admitted before the circuit opened closes it, while its only
trial is still in progress. -/
theorem lateSuccess_closes : ∃ t', Reachable oneTrial lateCall ∧
    lateCall.breaker.circuit = .halfOpen ∧ Step oneTrial lateCall t' ∧
    t'.breaker.circuit = .closed ∧ max 1 oneTrial.maxRequests = 1 ∧
    t'.recoveries lateCall.period = [⟨0, 2, 2, true⟩] ∧
    (t'.recoveries lateCall.period).countP (·.admitted = lateCall.period) = 0 := by
  have step := @Step.ended oneTrial lateCall (Duration.ofSeconds 31) _ 0 true (by decide) rfl
  exact ⟨_, lateCall_reachable, rfl, step, rfl, rfl, by decide, by decide⟩

end PushDelivery.Breaker.Traffic
