import PushDelivery.Breaker.Basic

/-!
# What the Steps of a Call Do

A call asks a breaker for admission and tells it later how it ended. This module lists what each of
the two steps can do, guards included. Whatever holds of a breaker through all its calls is shown by
these cases, and no later proof opens the steps themselves.

## Main definitions

* `Breaker.Permits`, `Breaker.Settles`: the cases of the two steps.
* `Breaker.Sound`: what the counters are in each state of the circuit.

## Main results

* `Breaker.permits`, `Breaker.settles`: there are no other cases.
* `Breaker.Sound.permit`, `Breaker.Sound.settle`: the steps keep a breaker sound.
-/

namespace PushDelivery.Breaker

variable {c : Config} {b : Breaker} {now : Instant}

/-! ### The cases -/

/-- What a request for admission can do. A closed circuit admits the call, and forgets what it
counted if its window is over. An open one refuses it, or becomes half open with this call as the
first trial. A half-open one admits it if there is room for another trial. -/
inductive Permits (c : Config) (b : Breaker) (now : Instant) : Bool → Breaker → Prop
  | closed (state : b.circuit = .closed) (fresh : now - b.windowStart ≤ c.interval) :
      Permits c b now true b
  | forgiven (state : b.circuit = .closed) (stale : c.interval < now - b.windowStart) :
      Permits c b now true
        { b with failures := 0, successes := 0, requests := 0, windowStart := now }
  | waiting (state : b.circuit = .isOpen) (hot : b.cooledDown c now = false) :
      Permits c b now false b
  | firstTrial (state : b.circuit = .isOpen) (cool : b.cooledDown c now = true) :
      Permits c b now true
        { b with
          circuit := .halfOpen, failures := 0, successes := 0, requests := 1, windowStart := now
          lastChange := now }
  | trial (state : b.circuit = .halfOpen) (room : b.requests < c.maxRequests) :
      Permits c b now true { b with requests := b.requests + 1 }
  | full (state : b.circuit = .halfOpen) (full : c.maxRequests ≤ b.requests) :
      Permits c b now false b

/-- What the end of a call can do. A success is counted, and closes a half-open circuit if it is the
last one needed. A failure opens a half-open circuit, and a closed one if it is one too many. A
failure that arrives late, at an open circuit, is counted and moves the time of the last one. -/
inductive Settles (c : Config) (b : Breaker) (now : Instant) : Bool → Breaker → Prop
  | success (more : b.circuit = .halfOpen → b.successes + 1 < c.maxRequests) :
      Settles c b now true { b with successes := b.successes + 1 }
  | recovery (state : b.circuit = .halfOpen) (enough : c.maxRequests ≤ b.successes + 1) :
      Settles c b now true
        { b with
          circuit := .closed, failures := 0, successes := 0, requests := 0, windowStart := now
          lastChange := now }
  | failure (state : b.circuit = .closed) (few : b.failures + 1 < c.failureThreshold) :
      Settles c b now false { b with failures := b.failures + 1, lastFailure := some now }
  | opening (state : b.circuit = .halfOpen ∨
        b.circuit = .closed ∧ c.failureThreshold ≤ b.failures + 1) :
      Settles c b now false
        { b with
          circuit := .isOpen, failures := 0, successes := 0, requests := 0, windowStart := now
          lastFailure := some now, lastChange := now }
  | late (state : b.circuit = .isOpen) :
      Settles c b now false { b with failures := b.failures + 1, lastFailure := some now }

/-- A request for admission does one of these. -/
theorem permits {admitted : Bool} (h : b.permit c now = (admitted, b')) :
    Permits c b now admitted b' := by
  obtain ⟨circuit, failures, successes, requests, windowStart, lastFailure, lastChange⟩ := b
  cases circuit with
  | closed =>
      simp only [permit] at h
      split at h
      · rename_i stale
        cases h
        exact .forgiven rfl stale
      · rename_i fresh
        cases h
        exact .closed rfl (Nat.le_of_not_lt fresh)
  | isOpen =>
      simp only [permit] at h
      split at h
      · rename_i cool
        cases h
        exact .firstTrial rfl cool
      · rename_i hot
        cases h
        exact .waiting rfl (Bool.eq_false_iff.mpr hot)
  | halfOpen =>
      simp only [permit] at h
      split at h
      · rename_i full
        cases h
        exact .full rfl full
      · rename_i room
        cases h
        exact .trial rfl (Nat.lt_of_not_le room)

/-- The end of a call does one of these. -/
theorem settles {success : Bool} (h : b.settle c success now = b') :
    Settles c b now success b' := by
  subst h
  obtain ⟨circuit, failures, successes, requests, windowStart, lastFailure, lastChange⟩ := b
  cases success with
  | true =>
      simp only [settle, succeed, if_true]
      split
      · rename_i last
        obtain ⟨rfl, enough⟩ := last
        exact .recovery rfl enough
      · rename_i more
        exact .success fun state => Nat.lt_of_not_le fun enough => more ⟨state, enough⟩
  | false =>
      simp only [settle, fail, Bool.false_eq_true, if_false]
      cases circuit with
      | closed =>
          dsimp only
          split
          · rename_i many
            exact .opening (.inr ⟨rfl, many⟩)
          · rename_i few
            exact .failure rfl (Nat.lt_of_not_le few)
      | isOpen => exact .late rfl
      | halfOpen => exact .opening (.inl rfl)

/-! ### The counters -/

/-- What the counters of a breaker are, by the state of its circuit. -/
structure Sound (c : Config) (b : Breaker) : Prop where
  /-- A closed circuit has not failed as often as it may, and counts no trial. -/
  closed : b.circuit = .closed → b.failures < max 1 c.failureThreshold ∧ b.requests = 0
  /-- An open circuit counts no trial, and knows when the last call failed. -/
  isOpen : b.circuit = .isOpen → b.requests = 0 ∧ b.lastFailure ≠ none
  /-- A half-open circuit has not failed, has admitted a trial at least and no more than it may, and
  has not seen enough of them succeed. -/
  halfOpen : b.circuit = .halfOpen → b.failures = 0 ∧ 1 ≤ b.requests ∧
    b.requests ≤ max 1 c.maxRequests ∧ b.successes < max 1 c.maxRequests

/-- A new breaker is sound. -/
theorem sound_initial (c : Config) (now : Instant) : Sound c (initial now) where
  closed _ := ⟨Nat.lt_of_lt_of_le Nat.zero_lt_one (Nat.le_max_left _ _), rfl⟩
  isOpen := nofun
  halfOpen := nofun

/-- A request for admission keeps a breaker sound. -/
theorem Sound.permit (h : Sound c b) {admitted : Bool}
    (step : b.permit c now = (admitted, b')) : Sound c b' := by
  cases permits step with
  | closed | waiting | full => exact h
  | forgiven state => exact ⟨fun _ => ⟨by simp only; omega, rfl⟩, by simp [state], by simp [state]⟩
  | firstTrial =>
      refine ⟨nofun, nofun, fun _ => ⟨rfl, Nat.le_refl 1, Nat.le_max_left _ _, ?_⟩⟩
      simp only
      omega
  | trial state room =>
      obtain ⟨failures, -, -, successes⟩ := h.halfOpen state
      refine ⟨by simp [state], by simp [state], fun _ => ⟨failures, ?_, ?_, successes⟩⟩
      · exact Nat.le_add_left 1 _
      · exact Nat.le_trans room (Nat.le_max_right _ _)

/-- The end of a call keeps a breaker sound. -/
theorem Sound.settle (h : Sound c b) {success : Bool} (step : b.settle c success now = b') :
    Sound c b' := by
  cases settles step with
  | success more =>
      refine ⟨h.closed, h.isOpen, fun state => ?_⟩
      obtain ⟨failures, begun, few, -⟩ := h.halfOpen state
      exact ⟨failures, begun, few, Nat.lt_of_lt_of_le (more state) (Nat.le_max_right _ _)⟩
  | recovery => exact ⟨fun _ => ⟨by simp only; omega, rfl⟩, nofun, nofun⟩
  | failure state few =>
      refine ⟨fun _ => ⟨?_, (h.closed state).2⟩, by simp [state], by simp [state]⟩
      exact Nat.lt_of_lt_of_le few (Nat.le_max_right _ _)
  | opening => exact ⟨nofun, fun _ => ⟨rfl, nofun⟩, nofun⟩
  | late state => exact ⟨by simp [state], fun _ => ⟨(h.isOpen state).1, nofun⟩, by simp [state]⟩

end PushDelivery.Breaker
