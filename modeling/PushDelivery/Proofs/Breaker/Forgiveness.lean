import PushDelivery.Proofs.Breaker.Cooling

/-!
# Which Failures Open a Circuit

A closed circuit counts failures in a window, which is to last for an interval. Whether it is over
is looked at when a call asks for admission, and not when a call ends. So a call that was admitted
while the window lasted may fail when it is over, and if no call has asked for admission in between,
its failure is counted together with those from the beginning of the window. This module keeps a
journal beside the timeline of a breaker and shows that nothing else goes wrong: the failures that
open a circuit are those of one window, and the window is too old exactly if a request for admission
at that time would have found it so.

## Main definitions

* `Failure`: a failure with the window in which it was counted.
* `Journal`: a timeline with the failures and the admissions, and when the counters were last reset.

## Main results

* `Timeline.Step.window_cases`: a window goes on, or the next one begins.
* `Journal.Reachable.opens_within_iff`: which failures open a circuit.
* `Journal.lateFailure_opens`: a circuit that opens by a failure from before the interval.
-/

namespace PushDelivery.Breaker

variable {c : Config}

/-! ### Windows -/

/-- A request for admission leaves state and window as they are, or begins a window now. -/
theorem Permits.window_cases {b b' : Breaker} {now : Instant} {admitted : Bool}
    (h : Permits c b now admitted b') :
    (b'.circuit = b.circuit ∧ b'.windowStart = b.windowStart) ∨
      (¬ (b'.circuit = b.circuit ∧ b'.windowStart = b.windowStart) ∧ b'.windowStart = now) := by
  cases h with
  | closed | waiting | trial | full => exact .inl ⟨rfl, rfl⟩
  | forgiven _ stale =>
      have moved : now ≠ b.windowStart :=
        Nat.ne_of_gt (Nat.lt_of_sub_pos (Nat.zero_lt_of_lt stale))
      exact .inr ⟨fun same => moved same.2, rfl⟩
  | firstTrial state =>
      exact .inr ⟨fun same => Circuit.noConfusion (state.symm.trans same.1.symm), rfl⟩

/-- So does the end of a call. -/
theorem Settles.window_cases {b b' : Breaker} {now : Instant} {success : Bool}
    (h : Settles c b now success b') :
    (b'.circuit = b.circuit ∧ b'.windowStart = b.windowStart) ∨
      (¬ (b'.circuit = b.circuit ∧ b'.windowStart = b.windowStart) ∧ b'.windowStart = now) := by
  cases h with
  | success | failure | late => exact .inl ⟨rfl, rfl⟩
  | recovery state =>
      exact .inr ⟨fun same => Circuit.noConfusion (state.symm.trans same.1.symm), rfl⟩
  | opening state =>
      refine .inr ⟨fun same => ?_, rfl⟩
      rcases state with state | ⟨state, -⟩ <;> cases state.symm.trans same.1.symm

/-- A step stays in its window, with the state and the beginning as they are, or begins the next
window at its time. -/
theorem Timeline.Step.window_cases {l l' : Timeline} (h : Timeline.Step c l l') :
    (l'.traffic.window = l.traffic.window ∧
        l'.traffic.breaker.circuit = l.traffic.breaker.circuit ∧
        l'.traffic.breaker.windowStart = l.traffic.breaker.windowStart) ∨
      (l'.traffic.window = l.traffic.window + 1 ∧
        l'.traffic.breaker.windowStart = l'.clock) := by
  have turned : ∀ {b : Breaker} {now : Instant},
      (b.circuit = l.traffic.breaker.circuit ∧ b.windowStart = l.traffic.breaker.windowStart) ∨
        (¬ (b.circuit = l.traffic.breaker.circuit ∧
          b.windowStart = l.traffic.breaker.windowStart) ∧ b.windowStart = now) →
      ((l.traffic.turn b).window = l.traffic.window ∧
          b.circuit = l.traffic.breaker.circuit ∧
          b.windowStart = l.traffic.breaker.windowStart) ∨
        ((l.traffic.turn b).window = l.traffic.window + 1 ∧ b.windowStart = now) :=
    Or.imp (fun same => ⟨if_pos same, same⟩) fun ⟨moved, start⟩ => ⟨if_neg moved, start⟩
  cases h with
  | admitted _ step | refused _ step => exact turned (permits step).window_cases
  | succeeded _ _ step | failed _ _ step => exact turned (settles step).window_cases

/-! ### Journals -/

/-- A failure that was counted: when, in which state and window, and when the window had begun. -/
structure Failure where
  time : Instant
  circuit : Circuit
  window : Nat
  since : Instant
  deriving DecidableEq, Repr

/-- A call that was admitted: when, and in which window. -/
structure Admission where
  time : Instant
  window : Nat
  deriving DecidableEq, Repr

/-- A timeline with a journal: when the counters were last reset, which is when the window began,
and all admissions and failures. -/
structure Journal where
  timeline : Timeline
  since : Instant
  admissions : List Admission
  failures : List Failure

namespace Journal

variable {j j' : Journal}

/-- The breaker at the end of a journal. -/
abbrev breaker (j : Journal) : Breaker := j.timeline.traffic.breaker

/-- The window that goes on at the end of a journal. -/
abbrev window (j : Journal) : Nat := j.timeline.traffic.window

/-- The time at the end of a journal. -/
abbrev clock (j : Journal) : Instant := j.timeline.clock

/-- A new breaker. -/
def fresh (now : Instant) : Journal := ⟨⟨.fresh now, now, []⟩, now, [], []⟩

/-- The timeline has gone on; a window that is not the last one has begun now. -/
def turn (j : Journal) (l : Timeline) : Journal :=
  { j with
    timeline := l
    since := if l.traffic.window = j.window then j.since else l.clock }

/-- A call has been admitted. -/
def enter (j : Journal) (l : Timeline) : Journal :=
  { j.turn l with admissions := ⟨l.clock, l.traffic.window⟩ :: j.admissions }

/-- A failure has been counted. -/
def fail (j : Journal) (l : Timeline) : Journal :=
  { j.turn l with failures := ⟨l.clock, j.breaker.circuit, j.window, j.since⟩ :: j.failures }

/-- One step of one call, at a time that is not before the last. -/
inductive Step (c : Config) : Journal → Journal → Prop
  | admitted {j : Journal} {now : Instant} {b : Breaker} (later : j.clock ≤ now)
      (step : j.breaker.permit c now = (true, b)) :
      Step c j (j.enter ⟨j.timeline.traffic.enter b, now, j.timeline.failed⟩)
  | refused {j : Journal} {now : Instant} {b : Breaker} (later : j.clock ≤ now)
      (step : j.breaker.permit c now = (false, b)) :
      Step c j (j.turn ⟨j.timeline.traffic.turn b, now, j.timeline.failed⟩)
  | succeeded {j : Journal} {now : Instant} {b : Breaker} {admitted : Nat} (later : j.clock ≤ now)
      (underWay : admitted ∈ j.timeline.traffic.inFlight)
      (step : j.breaker.settle c true now = b) :
      Step c j (j.turn ⟨j.timeline.traffic.leave b admitted true, now, j.timeline.failed⟩)
  | failed {j : Journal} {now : Instant} {b : Breaker} {admitted : Nat} (later : j.clock ≤ now)
      (underWay : admitted ∈ j.timeline.traffic.inFlight)
      (step : j.breaker.settle c false now = b) :
      Step c j (j.fail ⟨j.timeline.traffic.leave b admitted false, now, now :: j.timeline.failed⟩)

/-- Some interleaving of calls leads there from a new breaker. -/
def Reachable (c : Config) (j : Journal) : Prop :=
  ∃ now, Relation.ReflTransGen (Step c) (fresh now) j

/-- Without the journal it is a step of the timeline. -/
theorem Step.timeline (h : Step c j j') : Timeline.Step c j.timeline j'.timeline := by
  cases h with
  | admitted later step => exact .admitted later step
  | refused later step => exact .refused later step
  | succeeded later underWay step => exact .succeeded later underWay step
  | failed later underWay step => exact .failed later underWay step

/-- So what holds on all timelines holds in journals. -/
theorem Reachable.timeline (h : Reachable c j) : j.timeline.Reachable c := by
  obtain ⟨now, steps⟩ := h
  exact ⟨now, steps.lift Journal.timeline fun _ _ => Step.timeline⟩

/-! ### What a journal says about the window -/

/-- What a journal says about the window that goes on. -/
structure Kept (c : Config) (j : Journal) : Prop where
  /-- It has begun when the breaker says so. -/
  begun : j.since = j.breaker.windowStart ∧ j.since ≤ j.clock
  /-- Its failures were counted in it, since it began and in the same state. -/
  counted : ∀ f ∈ j.failures, f.window ≤ j.window ∧ (f.window = j.window →
    f.circuit = j.breaker.circuit ∧ f.since = j.since ∧ j.since ≤ f.time ∧ f.time ≤ j.clock)
  /-- While the circuit is closed, all calls were admitted within the interval. -/
  admitted : ∀ a ∈ j.admissions, a.window ≤ j.window ∧ (a.window = j.window →
    j.breaker.circuit = .closed → j.since ≤ a.time ∧ a.time - j.since ≤ c.interval)

/-- As long as nothing is written down, a step of the timeline keeps what the journal says. -/
theorem Kept.turn (h : Kept c j) {l : Timeline} (step : Timeline.Step c j.timeline l) :
    Kept c (j.turn l) := by
  have later : j.clock ≤ l.clock := step.clock_le
  rcases step.window_cases with ⟨same, circuit, start⟩ | ⟨next, start⟩
  · have since : (j.turn l).since = j.since := if_pos same
    have same : (j.turn l).window = j.window := same
    have circuit : (j.turn l).breaker.circuit = j.breaker.circuit := circuit
    refine ⟨?_, ?_, ?_⟩
    · rw [since]
      exact ⟨h.begun.1.trans start.symm, Nat.le_trans h.begun.2 later⟩
    · rw [since, same, circuit]
      intro f hf
      refine (h.counted f hf).imp_right fun counted current => ?_
      obtain ⟨state, since, first, last⟩ := counted current
      exact ⟨state, since, first, Nat.le_trans last later⟩
    · rw [since, same, circuit]
      exact h.admitted
  · -- Nothing is written down yet of the window that begins.
    have next : (j.turn l).window = j.window + 1 := next
    have since : (j.turn l).since = l.clock :=
      if_neg fun same => Nat.succ_ne_self _ (next.symm.trans same)
    refine ⟨⟨since.trans start.symm, Nat.le_of_eq since⟩, fun f hf => ?_, fun a ha => ?_⟩
    · have past := (h.counted f hf).1
      exact ⟨by omega, fun current => by omega⟩
    · have past := (h.admitted a ha).1
      exact ⟨by omega, fun current => by omega⟩

/-- An admission is written down, if it finds a window that is not over. -/
theorem Kept.enter (h : Kept c j) {l : Timeline} (step : Timeline.Step c j.timeline l)
    (fresh : l.traffic.breaker.circuit = .closed →
      l.clock - l.traffic.breaker.windowStart ≤ c.interval) : Kept c (j.enter l) := by
  have turned := h.turn step
  refine ⟨turned.begun, turned.counted, List.forall_mem_cons.mpr ⟨⟨Nat.le_refl _, ?_⟩,
    turned.admitted⟩⟩
  exact fun _ closed => ⟨turned.begun.2, turned.begun.1.symm ▸ fresh closed⟩

/-- A failure is written down in the window in which it was counted, also if it ends the window. -/
theorem Kept.fail (h : Kept c j) {l : Timeline} (step : Timeline.Step c j.timeline l) :
    Kept c (j.fail l) := by
  have turned := h.turn step
  refine ⟨turned.begun, List.forall_mem_cons.mpr ⟨?_, turned.counted⟩, turned.admitted⟩
  rcases step.window_cases with ⟨same, circuit, -⟩ | ⟨next, -⟩
  · refine ⟨Nat.le_of_eq same.symm, fun _ => ⟨circuit.symm, (if_pos same).symm, ?_⟩⟩
    exact ⟨turned.begun.2, Nat.le_refl _⟩
  · have next : (j.fail l).window = j.window + 1 := next
    rw [next]
    exact ⟨Nat.le_succ _, fun current => absurd current.symm (Nat.succ_ne_self _)⟩

/-- A call that a circuit admits and leaves closed finds a window that is not over. -/
theorem fresh_of_permits {b b' : Breaker} {now : Instant} (h : Permits c b now true b')
    (closed : b'.circuit = .closed) : now - b'.windowStart ≤ c.interval := by
  cases h with
  | closed _ fresh => exact fresh
  | forgiven => simp
  | firstTrial => cases closed
  | trial state => cases state.symm.trans closed

/-- A step keeps what the journal says. -/
theorem Step.kept (h : Step c j j') (hj : Kept c j) : Kept c j' := by
  cases h with
  | admitted later step =>
      exact hj.enter (.admitted later step) (fresh_of_permits (permits step))
  | refused later step => exact hj.turn (.refused later step)
  | succeeded later underWay step => exact hj.turn (.succeeded later underWay step)
  | failed later underWay step => exact hj.fail (.failed later underWay step)

/-- Every journal says so. -/
theorem Reachable.kept (h : Reachable c j) : Kept c j := by
  obtain ⟨now, steps⟩ := h
  induction steps with
  | refl => exact ⟨⟨rfl, Nat.le_refl _⟩, nofun, nofun⟩
  | tail _ step ih => exact step.kept ih

/-- The failures in the journal are those of the calls, window by window. -/
theorem Reachable.failuresIn_eq (h : Reachable c j) (window : Nat) :
    j.timeline.traffic.failuresIn window = j.failures.countP (·.window = window) := by
  obtain ⟨now, steps⟩ := h
  induction steps with
  | refl => rfl
  | @tail u v _ step ih =>
      cases step with
      | admitted | refused => exact ih
      | succeeded =>
          refine Eq.trans ?_ ih
          simp [Journal.turn, Traffic.failuresIn, Traffic.leave]
      | failed =>
          rw [Journal.fail, List.countP_cons, ← ih]
          simp [Journal.turn, Traffic.failuresIn, Traffic.leave, List.countP_cons]

/-! ### The opening of a closed circuit -/

/-- A closed circuit admits a call and keeps its counters if and only if its window is not over. -/
theorem permit_eq_self_iff {b : Breaker} {now : Instant} (closed : b.circuit = .closed) :
    b.permit c now = (true, b) ↔ now - b.windowStart ≤ c.interval := by
  by_cases stale : c.interval < now - b.windowStart
  · refine ⟨fun kept => absurd (congrArg (·.2.windowStart) kept) ?_, fun fresh => absurd stale ?_⟩
    · have moved : now ≠ b.windowStart :=
        Nat.ne_of_gt (Nat.lt_of_sub_pos (Nat.zero_lt_of_lt stale))
      simpa [permit, closed, stale, resetCounters] using moved
    · exact Nat.not_lt_of_le fresh
  · simp [permit, closed, stale, Nat.le_of_not_lt stale]

/-- The failures of the window before a step were all counted in it, and while it was closed if it
was. -/
theorem Step.counted (h : Step c j j') (hj : Kept c j) :
    ∀ f ∈ j'.failures, f.window = j.window →
      f.circuit = j.breaker.circuit ∧ f.since = j.since ∧ j.since ≤ f.time ∧ f.time ≤ j'.clock := by
  have later : j.clock ≤ j'.clock := h.timeline.clock_le
  have before : ∀ f ∈ j.failures, f.window = j.window →
      f.circuit = j.breaker.circuit ∧ f.since = j.since ∧ j.since ≤ f.time ∧ f.time ≤ j'.clock := by
    intro f hf current
    obtain ⟨state, since, first, last⟩ := (hj.counted f hf).2 current
    exact ⟨state, since, first, Nat.le_trans last later⟩
  cases h with
  | admitted | refused | succeeded => exact before
  | failed =>
      refine List.forall_mem_cons.mpr ⟨fun _ => ⟨rfl, rfl, ?_, Nat.le_refl _⟩, before⟩
      exact Nat.le_trans hj.begun.2 later

/-- **Which failures open a circuit.** In every interleaving of calls on a clock that does not go
back, a closed circuit opens by as many failures as the threshold says, and they were all counted in
one window, while the circuit was closed, between the time at which the window began and now. All
calls that were admitted in this window were admitted within the interval from its beginning. The
window has begun within the interval before now if and only if a request for admission at this time
would have left the counters as they were; so it has if a call was admitted in it at this time, and
it has not if all of them were admitted before and the interval is over. -/
theorem Reachable.opens_within_iff (h : Reachable c j) (closed : j.breaker.circuit = .closed)
    (step : Step c j j') (opened : j'.breaker.circuit = .isOpen) :
    (j'.failures.filter (·.window = j.window)).length = max 1 c.failureThreshold ∧
    (∀ f ∈ j'.failures, f.window = j.window →
      f.circuit = .closed ∧ f.since = j.since ∧ j.since ≤ f.time ∧ f.time ≤ j'.clock) ∧
    (∀ a ∈ j.admissions, a.window = j.window →
      j.since ≤ a.time ∧ a.time - j.since ≤ c.interval) ∧
    ((∀ f ∈ j'.failures, f.window = j.window → j'.clock - f.since ≤ c.interval) ↔
      j.breaker.permit c j'.clock = (true, j.breaker)) := by
  have kept := h.kept
  have counted := step.counted kept
  rw [closed] at counted
  have many : (j'.failures.filter (·.window = j.window)).length = max 1 c.failureThreshold := by
    obtain ⟨start, steps⟩ := h
    rw [← List.countP_eq_length_filter, ← Reachable.failuresIn_eq ⟨start, steps.tail step⟩]
    exact ((Reachable.timeline ⟨start, steps⟩).opens_iff closed step.timeline).mp opened |>.2
  refine ⟨many, counted, fun a ha current => (kept.admitted a ha).2 current closed, ?_⟩
  rw [permit_eq_self_iff closed, ← kept.begun.1]
  constructor
  · intro recent
    obtain ⟨f, hf⟩ := List.exists_mem_of_length_pos
      (Nat.lt_of_lt_of_le Nat.zero_lt_one (many ▸ Nat.le_max_left 1 c.failureThreshold))
    obtain ⟨hf, current⟩ := List.mem_filter.mp hf
    have current := of_decide_eq_true current
    exact (counted f hf current).2.1 ▸ recent f hf current
  · intro recent f hf current
    exact (counted f hf current).2.1 ▸ recent

open Timeline (twoFailures afterOneFailure afterOneFailure_reachable)

/-- Three calls are admitted at once, and one of them fails. -/
def afterEarlyFailure : Journal where
  timeline := afterOneFailure
  since := 0
  admissions := [⟨0, 0⟩, ⟨0, 0⟩, ⟨0, 0⟩]
  failures := [⟨Duration.ofSeconds 1, .closed, 0, 0⟩]

/-- These are four steps. -/
theorem afterEarlyFailure_reachable : Reachable twoFailures afterEarlyFailure := by
  refine ⟨(0 : Nat), ?_⟩
  have begun : Relation.ReflTransGen (Step twoFailures) (.fresh (0 : Nat)) _ :=
    .tail (.tail (.single (@Step.admitted twoFailures _ (0 : Nat) _ (Nat.le_refl 0) rfl))
      (@Step.admitted twoFailures _ (0 : Nat) _ (Nat.le_refl 0) rfl))
      (@Step.admitted twoFailures _ (0 : Nat) _ (Nat.le_refl 0) rfl)
  exact begun.tail
    (@Step.failed twoFailures _ (Duration.ofSeconds 1) _ 0 (Nat.zero_le _) (by decide) rfl)

/-- The second failure comes after a minute, at which a request for admission would still have left
the counters as they were. -/
theorem opens_within_iff_afterEarlyFailure : ∃ opened, Reachable twoFailures afterEarlyFailure ∧
    afterEarlyFailure.breaker.circuit = .closed ∧ Step twoFailures afterEarlyFailure opened ∧
    opened.breaker.circuit = .isOpen ∧ opened.clock = Duration.ofSeconds 60 ∧
    ∀ f ∈ opened.failures, f.window = afterEarlyFailure.window →
      opened.clock - f.since ≤ twoFailures.interval := by
  have step := @Step.failed twoFailures afterEarlyFailure (Duration.ofSeconds 60) _ 0 (by decide)
    (by decide) rfl
  have within := (afterEarlyFailure_reachable.opens_within_iff rfl step rfl).2.2.2
  exact ⟨_, afterEarlyFailure_reachable, rfl, step, rfl, rfl, within.mpr rfl⟩

/-- One second later a request for admission would have forgiven the first failure. No call makes
one: the second failure opens the circuit together with the first, in a window that has begun before
the interval. -/
theorem lateFailure_opens : ∃ opened, Reachable twoFailures afterEarlyFailure ∧
    afterEarlyFailure.breaker.circuit = .closed ∧ Step twoFailures afterEarlyFailure opened ∧
    opened.breaker.circuit = .isOpen ∧
    (opened.failures.filter (·.window = afterEarlyFailure.window)).length =
      twoFailures.failureThreshold ∧
    ∀ f ∈ opened.failures, twoFailures.interval < opened.clock - f.since := by
  have step := @Step.failed twoFailures afterEarlyFailure (Duration.ofSeconds 61) _ 0 (by decide)
    (by decide) rfl
  exact ⟨_, afterEarlyFailure_reachable, rfl, step, rfl, rfl, by decide⟩

end Journal

end PushDelivery.Breaker
