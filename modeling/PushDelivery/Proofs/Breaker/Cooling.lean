import PushDelivery.Delivery.Dispatch
import PushDelivery.Proofs.Breaker.Traffic
import PushDelivery.Proofs.Runs.Paths

/-!
# How Long a Circuit Stays Open

An open circuit refuses calls until the timeout has passed since the last failure. Which failure is
the last one does not depend on the state of the circuit, since a change of the state resets the
counters and keeps the time of the failure, and since a call that was admitted before the circuit
opened may fail while it is open. So admission depends on all calls that have ever failed. This
module puts the traffic of a breaker on a clock that does not go back, with the times at which calls
have failed, and shows what the breaker remembers of them.

The circuit opens by the failures of one window only: those since the counters were last reset.

## Main definitions

* `Delivery.call`: an operation behind the breaker.
* `Timeline`: traffic on a clock, with the times of all failures.
* `Traffic.failuresIn`: the calls that have failed in a window.

## Main results

* `Delivery.attempt_eq_call`: the requests of an attempt are such an operation.
* `Delivery.exchanges_call_refused`: an operation that is refused is not carried out.
* `Timeline.Reachable.remembers`: a breaker knows the latest of all failures.
* `Traffic.Reachable.failures`: it has counted those of the window.
* `Timeline.Reachable.cooling`: when an open circuit admits a call, and when a closed one opens.
-/

namespace PushDelivery

/-! ### Operations behind a breaker -/

namespace Delivery

open Run (Exchange Exchanges)

variable {α : Type}

/-- An operation behind the breaker: it asks for admission, is carried out if it is admitted, and
tells the breaker how it ended. -/
def call (breaker : String) (operation : Dispatching (Except GatewayError α)) :
    Dispatching (Except DeliveryError α) := do
  if ← request .permit then
    let result ← operation
    request (.settle result.isOk)
    pure (result.mapError .gateway)
  else pure (.error (.circuitOpen breaker))

/-- An attempt to reach devices sends its requests behind the breaker. -/
theorem attempt_eq_call (breaker : String) (content : Content) (tokens : List String)
    (number : Nat) :
    attempt breaker content tokens number = (do
      modify fun s => { s with spent := number + 1 }
      let pending := (← get).ledger.pending tokens
      match ← call breaker (sendAll content pending) with
      | .error e => pure (.error e)
      | .ok () => pure (verdict ((← get).ledger.outcomes pending))) := by
  unfold attempt call
  refine bind_congr fun _ => bind_congr fun s => ?_
  dsimp only
  rw [bind_assoc]
  refine bind_congr fun admitted => ?_
  cases admitted with
  | false => rfl
  | true =>
      simp only [if_true, bind_assoc]
      refine bind_congr fun result => ?_
      cases result with
      | error e => rfl
      | ok _ => rfl

/-- **An operation that is refused** is not carried out: nothing is asked for but admission, and the
error is that of an open circuit. -/
theorem exchanges_call_refused {breaker : String} {operation : Dispatching (Except GatewayError α)}
    {s : Progress} {es : List (Exchange interface)} {result : Except DeliveryError α × Progress}
    (h : Exchanges ((call breaker operation).run s) (⟨.permit, false⟩ :: es) result) :
    es = [] ∧ result = (.error (.circuitOpen breaker), s) := by
  cases h with
  | ask go => exact Run.exchanges_done_iff.mp go

end Delivery

namespace Breaker

variable {c : Config}

/-! ### Failures of a window -/

namespace Traffic

variable {t t' : Traffic}

/-- The number of calls that have failed in a window, whenever they were admitted. -/
def failuresIn (t : Traffic) (window : Nat) : Nat :=
  t.ended.countP fun e => e.window = window && !e.success

/-- No call has failed in the next window. -/
theorem Dated.failuresIn_next (h : t.Dated) : t.failuresIn (t.window + 1) = 0 := by
  refine List.countP_eq_zero.mpr fun e he => ?_
  have := (h.ended e he).2.2
  simp only [Bool.and_eq_true, decide_eq_true_eq, not_and]
  omega

/-- A step keeps the count of the failures of the window. -/
theorem Step.failures (h : Step c t t') (hd : t.Dated)
    (ht : t.breaker.failures = t.failuresIn t.window) :
    t'.breaker.failures = t'.failuresIn t'.window := by
  have newWindow := hd.failuresIn_next.symm
  cases h with
  | refused step => exact (turn_of_refused step).symm ▸ ht
  | @admitted now b step =>
      cases permits step with
      | closed | trial => simpa [enter, turn, failuresIn] using ht
      | forgiven state stale =>
          have moved : now ≠ t.breaker.windowStart :=
            Nat.ne_of_gt (Nat.lt_of_sub_pos (Nat.zero_lt_of_lt stale))
          simpa [enter, turn, moved, failuresIn] using newWindow
      | firstTrial state => simpa [enter, turn, state, failuresIn] using newWindow
  | @ended now b admitted success underWay step =>
      cases settles step with
      | success => simpa [leave, turn, failuresIn] using ht
      | recovery state => simpa [leave, turn, state, failuresIn] using newWindow
      | failure state | late state => simp [leave, turn, failuresIn, ht]
      | opening state =>
          have changed : Circuit.isOpen ≠ t.breaker.circuit := by
            rcases state with state | ⟨state, -⟩ <;> simp [state]
          simpa [leave, turn, changed, failuresIn] using newWindow

/-- **The failures of the window** are what a breaker has counted. -/
theorem Reachable.failures (h : Reachable c t) : t.breaker.failures = t.failuresIn t.window := by
  obtain ⟨now, steps⟩ := h
  induction steps with
  | refl => rfl
  | tail steps step ih => exact step.failures (Reachable.tallied ⟨now, steps⟩).1 ih

end Traffic

/-! ### Traffic on a clock -/

/-- Traffic on a clock, with the times at which calls have failed, the last one first. -/
structure Timeline where
  traffic : Traffic
  clock : Instant
  failed : List Instant

namespace Timeline

variable {l l' l'' : Timeline}

/-- One step of one call, at a time that is not before the last. -/
inductive Step (c : Config) : Timeline → Timeline → Prop
  | admitted {l : Timeline} {now : Instant} {b : Breaker} (later : l.clock ≤ now)
      (step : l.traffic.breaker.permit c now = (true, b)) :
      Step c l ⟨l.traffic.enter b, now, l.failed⟩
  | refused {l : Timeline} {now : Instant} {b : Breaker} (later : l.clock ≤ now)
      (step : l.traffic.breaker.permit c now = (false, b)) :
      Step c l ⟨l.traffic.turn b, now, l.failed⟩
  | succeeded {l : Timeline} {now : Instant} {b : Breaker} {admitted : Nat} (later : l.clock ≤ now)
      (underWay : admitted ∈ l.traffic.inFlight) (step : l.traffic.breaker.settle c true now = b) :
      Step c l ⟨l.traffic.leave b admitted true, now, l.failed⟩
  | failed {l : Timeline} {now : Instant} {b : Breaker} {admitted : Nat} (later : l.clock ≤ now)
      (underWay : admitted ∈ l.traffic.inFlight) (step : l.traffic.breaker.settle c false now = b) :
      Step c l ⟨l.traffic.leave b admitted false, now, now :: l.failed⟩

/-- Some interleaving of calls leads there from a new breaker. -/
def Reachable (c : Config) (l : Timeline) : Prop :=
  ∃ now, Relation.ReflTransGen (Step c) ⟨.fresh now, now, []⟩ l

/-- Without the clock it is a step of the traffic. -/
theorem Step.traffic (h : Step c l l') : Traffic.Step c l.traffic l'.traffic := by
  cases h with
  | admitted _ step => exact .admitted step
  | refused _ step => exact .refused step
  | succeeded _ underWay step => exact .ended underWay step
  | failed _ underWay step => exact .ended underWay step

/-- So what holds in all traffic holds on a clock. -/
theorem Reachable.traffic (h : Reachable c l) : l.traffic.Reachable c := by
  obtain ⟨now, steps⟩ := h
  exact ⟨now, steps.lift Timeline.traffic fun _ _ => Step.traffic⟩

/-- The clock does not go back. -/
theorem Step.clock_le (h : Step c l l') : l.clock ≤ l'.clock := by
  cases h <;> assumption

/-- What a breaker remembers of the failures: the time of the last one. -/
structure Remembers (l : Timeline) : Prop where
  last : l.traffic.breaker.lastFailure = l.failed.head?
  /-- The failures are in their order, the last one first. -/
  ordered : l.failed.Pairwise (· ≥ ·)
  past : ∀ f ∈ l.failed, f ≤ l.clock

/-- Admission leaves the last failure. -/
theorem lastFailure_of_permits {b b' : Breaker} {now : Instant} {admitted : Bool}
    (h : Permits c b now admitted b') : b'.lastFailure = b.lastFailure := by
  cases h <;> rfl

/-- The end of a call leaves the last failure, or is the last. -/
theorem lastFailure_of_settles {b b' : Breaker} {now : Instant} {success : Bool}
    (h : Settles c b now success b') :
    b'.lastFailure = if success then b.lastFailure else some now := by
  cases h <;> rfl

/-- A step keeps what a breaker remembers, whatever becomes of the circuit. -/
theorem Step.remembers (h : Step c l l') (hl : l.Remembers) : l'.Remembers := by
  have past : ∀ f ∈ l.failed, f ≤ l'.clock := fun f hf => Nat.le_trans (hl.past f hf) h.clock_le
  cases h with
  | admitted _ step | refused _ step =>
      exact ⟨(lastFailure_of_permits (permits step)).trans hl.last, hl.ordered, past⟩
  | succeeded _ _ step =>
      exact ⟨(lastFailure_of_settles (settles step)).trans hl.last, hl.ordered, past⟩
  | failed later _ step =>
      exact ⟨lastFailure_of_settles (settles step), .cons past hl.ordered,
        List.forall_mem_cons.mpr ⟨Nat.le_refl _, past⟩⟩

/-- **A breaker knows the latest of all failures.** -/
theorem Reachable.remembers (h : Reachable c l) : l.Remembers := by
  obtain ⟨now, steps⟩ := h
  induction steps with
  | refl => exact ⟨rfl, .nil, nofun⟩
  | tail _ step ih => exact step.remembers ih

/-! ### Admission to an open circuit -/

/-- A request for admission that is refused changes nothing. -/
theorem permit_refused {b : Breaker} {now : Instant} (h : (b.permit c now).1 = false) :
    b.permit c now = (false, b) :=
  Prod.ext h (permit_eq_of_refused h)

/-- **An open circuit admits a call** if the timeout has passed since all failures. -/
theorem Reachable.admits_iff (h : Reachable c l) (state : l.traffic.breaker.circuit = .isOpen)
    (now : Instant) :
    (l.traffic.breaker.permit c now).1 = true ↔ ∀ f ∈ l.failed, c.timeout < now - f := by
  have known := (h.traffic.sound.isOpen state).2
  obtain ⟨last, ordered, -⟩ := h.remembers
  cases hfailed : l.failed with
  | nil => exact absurd (last.trans (congrArg List.head? hfailed)) known
  | cons f rest =>
      rw [hfailed] at last ordered
      have admitted : (l.traffic.breaker.permit c now).1 = decide (c.timeout < now - f) := by
        simp only [permit, state, cooledDown, last, List.head?_cons]
        split <;> simp_all
      rw [admitted, decide_eq_true_eq, List.forall_mem_cons]
      refine ⟨fun cool => ⟨cool, fun f' hf' => ?_⟩, And.left⟩
      have later := List.rel_of_pairwise_cons ordered hf'
      exact Nat.lt_of_lt_of_le cool (Nat.sub_le_sub_left later now)

/-- As long as the clock stands where a call has failed, a circuit that is open stays so, and the
failure is among all. -/
theorem Step.isOpen_of_same (h : Step c l l') (hl : Reachable c l)
    (state : l.traffic.breaker.circuit = .isOpen) (recent : l.clock ∈ l.failed)
    (same : l'.clock = l.clock) :
    l'.traffic.breaker.circuit = .isOpen ∧ l'.clock ∈ l'.failed := by
  cases h with
  | @admitted now b later step =>
      obtain rfl : now = l.clock := same
      have cool := (hl.admits_iff state l.clock).mp (congrArg Prod.fst step) _ recent
      exact absurd cool (by simp)
  | @refused now b later step =>
      obtain rfl : now = l.clock := same
      rw [Traffic.turn_of_refused step]
      exact ⟨state, recent⟩
  | @succeeded now b admitted later underWay step =>
      obtain rfl : now = l.clock := same
      refine ⟨?_, recent⟩
      change b.circuit = .isOpen
      cases settles step with
      | success => exact state
      | recovery half => exact nomatch state.symm.trans half
  | @failed now b admitted later underWay step =>
      refine ⟨?_, List.mem_cons_self⟩
      change b.circuit = .isOpen
      cases settles step with
      | failure closed => exact nomatch state.symm.trans closed
      | opening => rfl
      | late => exact state

/-- **An open circuit refuses calls** as long as the clock stands where a call has failed. -/
theorem Reachable.refuses (h : Reachable c l) (state : l.traffic.breaker.circuit = .isOpen)
    (recent : l.clock ∈ l.failed) (steps : Relation.ReflTransGen (Step c) l l')
    (same : l'.clock = l.clock) :
    l'.traffic.breaker.permit c l'.clock = (false, l'.traffic.breaker) := by
  have invariant : l.clock ≤ l'.clock ∧ (l'.clock = l.clock → Reachable c l' ∧
      l'.traffic.breaker.circuit = .isOpen ∧ l'.clock ∈ l'.failed) := by
    clear same
    induction steps with
    | refl => exact ⟨Nat.le_refl _, fun _ => ⟨h, state, recent⟩⟩
    | @tail u v _ step ih =>
        refine ⟨Nat.le_trans ih.1 step.clock_le, fun same => ?_⟩
        have before : u.clock = l.clock := Nat.le_antisymm (same ▸ step.clock_le) ih.1
        obtain ⟨⟨now, reached⟩, state, recent⟩ := ih.2 before
        exact ⟨⟨now, reached.tail step⟩,
          step.isOpen_of_same ⟨now, reached⟩ state recent (same.trans before.symm)⟩
  obtain ⟨reached, state, recent⟩ := invariant.2 same
  refine permit_refused (Bool.eq_false_iff.mpr fun admitted => ?_)
  exact absurd ((reached.admits_iff state l'.clock).mp admitted _ recent) (by simp)

/-! ### The opening of a closed circuit -/

/-- **A closed circuit opens** with the failure of a call that is one too many in its window, and
with no other step. -/
theorem Reachable.opens_iff (h : Reachable c l) (closed : l.traffic.breaker.circuit = .closed)
    (step : Step c l l') :
    l'.traffic.breaker.circuit = .isOpen ↔
      l'.failed = l'.clock :: l.failed ∧
        l'.traffic.failuresIn l.traffic.window = max 1 c.failureThreshold := by
  have few := (h.traffic.sound.closed closed).1
  have counted := h.traffic.failures
  cases step with
  | @admitted now b later step =>
      refine ⟨fun opened => ?_, fun more => absurd more.1 (List.cons_ne_self _ _).symm⟩
      have opened : b.circuit = .isOpen := opened
      cases permits step with
      | closed | forgiven | trial => cases closed.symm.trans opened
      | firstTrial => cases opened
  | @refused now b later step =>
      refine ⟨fun opened => ?_, fun more => absurd more.1 (List.cons_ne_self _ _).symm⟩
      rw [Traffic.turn_of_refused step] at opened
      cases closed.symm.trans opened
  | @succeeded now b admitted later underWay step =>
      refine ⟨fun opened => ?_, fun more => absurd more.1 (List.cons_ne_self _ _).symm⟩
      have opened : b.circuit = .isOpen := opened
      cases settles step with
      | success => cases closed.symm.trans opened
      | recovery => cases opened
  | @failed now b admitted later underWay step =>
      have one : (l.traffic.leave b admitted false).failuresIn l.traffic.window =
          l.traffic.breaker.failures + 1 := by
        rw [counted]
        simp [Traffic.leave, Traffic.turn, Traffic.failuresIn]
      rw [one]
      change b.circuit = .isOpen ↔ _
      cases settles step with
      | failure _ fewer =>
          refine ⟨fun opened => ?_, fun more => ?_⟩
          · cases closed.symm.trans opened
          · have := more.2
            omega
      | opening state =>
          have many : c.failureThreshold ≤ l.traffic.breaker.failures + 1 := by
            rcases state with half | ⟨-, many⟩
            · cases closed.symm.trans half
            · exact many
          exact ⟨fun _ => ⟨rfl, by omega⟩, fun _ => rfl⟩
      | late opened => cases closed.symm.trans opened

open Delivery (Dispatching Progress call) in
open Run (Exchange Exchanges) in
/-- **How long a circuit stays open.** In every interleaving of calls on a clock that does not go
back, an open circuit admits a call if and only if the timeout has passed since the failures of all
calls so far, whenever these were admitted. A call before that is refused: the breaker stays as it
is, and the operation of the call is not carried out, for nothing is asked for but admission and the
error is that of an open circuit. A closed circuit opens with the failure that brings those since
the counters were reset to the threshold, and with no other step; and as long as the clock stands
still after that, it refuses all calls. -/
theorem Reachable.cooling (h : Reachable c l) :
    (l.traffic.breaker.circuit = .isOpen → ∀ now, l.clock ≤ now →
      ((l.traffic.breaker.permit c now).1 = true ↔ ∀ f ∈ l.failed, c.timeout < now - f) ∧
      ((∃ f ∈ l.failed, now - f ≤ c.timeout) →
        l.traffic.breaker.permit c now = (false, l.traffic.breaker) ∧
        ∀ (α : Type) (breaker : String) (operation : Dispatching (Except GatewayError α))
          (s : Progress) (es : List (Exchange Delivery.interface)) result,
          Exchanges ((call breaker operation).run s)
            (⟨.permit, (l.traffic.breaker.permit c now).1⟩ :: es) result →
          es = [] ∧ result = (.error (.circuitOpen breaker), s))) ∧
    (l.traffic.breaker.circuit = .closed → ∀ l', Step c l l' →
      (l'.traffic.breaker.circuit = .isOpen ↔
        l'.failed = l'.clock :: l.failed ∧
          l'.traffic.failuresIn l.traffic.window = max 1 c.failureThreshold) ∧
      (l'.traffic.breaker.circuit = .isOpen →
        ∀ l'', Relation.ReflTransGen (Step c) l' l'' → l''.clock = l'.clock →
          l''.traffic.breaker.permit c l''.clock = (false, l''.traffic.breaker))) := by
  refine ⟨fun state now _ => ⟨h.admits_iff state now, ?_⟩, fun closed l' step =>
    ⟨h.opens_iff closed step, fun opened l'' steps same => ?_⟩⟩
  · rintro ⟨f, hf, recent⟩
    have refused : (l.traffic.breaker.permit c now).1 = false :=
      Bool.eq_false_iff.mpr fun admitted =>
        Nat.not_lt_of_le recent ((h.admits_iff state now).mp admitted f hf)
    refine ⟨permit_refused refused, fun α breaker operation s es result run => ?_⟩
    rw [refused] at run
    exact Delivery.exchanges_call_refused run
  · have recent : l'.clock ∈ l'.failed :=
      ((h.opens_iff closed step).mp opened).1 ▸ List.mem_cons_self
    obtain ⟨start, reached⟩ := h
    exact Reachable.refuses ⟨start, reached.tail step⟩ opened recent steps same

/-- Two failures open the circuit. -/
def twoFailures : Config := { failureThreshold := 2 }

/-- Three calls are admitted, and one of them fails. -/
def afterOneFailure : Timeline where
  traffic :=
    { breaker :=
        { circuit := .closed, failures := 1, successes := 0, requests := 0, windowStart := 0
          lastFailure := some (Duration.ofSeconds 1), lastChange := 0 }
      period := 0
      window := 0
      inFlight := [0, 0]
      ended := [⟨0, 0, 0, false⟩] }
  clock := Duration.ofSeconds 1
  failed := [Duration.ofSeconds 1]

/-- The second opens the circuit, and the third fails late. -/
def afterLateFailure : Timeline where
  traffic :=
    { breaker :=
        { circuit := .isOpen, failures := 1, successes := 0, requests := 0
          windowStart := Duration.ofSeconds 2, lastFailure := some (Duration.ofSeconds 20)
          lastChange := Duration.ofSeconds 2 }
      period := 1
      window := 1
      inFlight := []
      ended := [⟨0, 1, 1, false⟩, ⟨0, 0, 0, false⟩, ⟨0, 0, 0, false⟩] }
  clock := Duration.ofSeconds 20
  failed := [Duration.ofSeconds 20, Duration.ofSeconds 2, Duration.ofSeconds 1]

/-- These are four steps. -/
theorem afterOneFailure_reachable : Reachable twoFailures afterOneFailure := by
  refine ⟨(0 : Nat), ?_⟩
  have begun : Relation.ReflTransGen (Step twoFailures) ⟨.fresh (0 : Nat), (0 : Nat), []⟩ _ :=
    .tail (.tail (.single (@Step.admitted twoFailures _ (0 : Nat) _ (Nat.le_refl 0) rfl))
      (@Step.admitted twoFailures _ (0 : Nat) _ (Nat.le_refl 0) rfl))
      (@Step.admitted twoFailures _ (0 : Nat) _ (Nat.le_refl 0) rfl)
  exact begun.tail
    (@Step.failed twoFailures _ (Duration.ofSeconds 1) _ 0 (Nat.zero_le _) (by decide) rfl)

/-- With the circuit open the third call fails at twenty seconds. At forty-five it still counts, and
at fifty-one it does not; and at the second failure itself the circuit refuses. -/
theorem cooling_afterLateFailure : ∃ opened, Reachable twoFailures afterOneFailure ∧
    Step twoFailures afterOneFailure opened ∧
    opened.traffic.breaker.permit twoFailures opened.clock = (false, opened.traffic.breaker) ∧
    Reachable twoFailures afterLateFailure ∧
    (afterLateFailure.traffic.breaker.permit twoFailures (Duration.ofSeconds 45)).1 = false ∧
    (afterLateFailure.traffic.breaker.permit twoFailures (Duration.ofSeconds 51)).1 = true := by
  have step := @Step.failed twoFailures afterOneFailure (Duration.ofSeconds 2) _ 0 (by decide)
    (by decide) rfl
  obtain ⟨start, steps⟩ := afterOneFailure_reachable
  have late : Reachable twoFailures afterLateFailure :=
    ⟨start, (steps.tail step).tail
      (@Step.failed twoFailures _ (Duration.ofSeconds 20) _ 0 (by decide) (by decide) rfl)⟩
  have closed := (Reachable.cooling afterOneFailure_reachable).2 rfl _ step
  have hot := (Reachable.cooling late).1 rfl (Duration.ofSeconds 45) (by decide)
  have cool := (Reachable.cooling late).1 rfl (Duration.ofSeconds 51) (by decide)
  refine ⟨_, afterOneFailure_reachable, step, closed.2 rfl _ .refl rfl, late, ?_, ?_⟩
  · exact congrArg Prod.fst (hot.2 (by decide)).1
  · exact cool.1.mpr (by decide)

end Timeline

end Breaker

end PushDelivery
