import PushDelivery.Proofs.Decimal.Powers
import PushDelivery.Retry.Policy

/-!
# Waits of Whole Seconds

The wait after an attempt is to be `min (initialBackoff * multiplier ^ attempt) maxBackoff`. It is
computed in binary64, in which numbers are exact only below the bound of significands, and in which
powers may overflow. This module shows for whole seconds and whole multipliers that neither matters:
a number that is not exact is greater than the greatest wait. There is one exception. If the first
wait is zero and the power overflows, their product is no number, and instead of no wait at all
there is the greatest one.

## Main definitions

* `RetryPolicy.inSeconds`: a policy of whole seconds with a whole multiplier.

## Main results

* `Duration.tracks_toSeconds`, `Duration.ofSecondsValue_of_tracks`: whole seconds are exact.
* `RetryPolicy.backoff_of_tracks`: the wait, from the product.
* `RetryPolicy.backoff_eq_min_iff`: when the wait is what it is to be.
* `RetryPolicy.backoff_of_nothing`: a wait that is not.
-/

namespace PushDelivery

open Decimal (Binary64 roundDiv_mul)
open Decimal.Binary64 (Tracks AtMost significandBound representable_min representable_natCast
  tracks_ofNat tracks_pow ratio_div ratio_snd_pos)

/-! ### Whole seconds -/

namespace Duration

/-- Whole seconds are the value of their number. -/
theorem tracks_toSeconds (n : ℕ) : Tracks n (ofSeconds n).toSeconds := by
  have whole : ofSeconds n / perSecond = n := Nat.mul_div_cancel n (by decide)
  have rest : ofSeconds n % perSecond = 0 := Nat.mul_mod_left n perSecond
  have zero := (tracks_ofNat 0).atMost_zero
  have fraction : AtMost 0 ((Binary64.ofNat 0).div (Binary64.ofNat perSecond)) := by
    have divisor := (tracks_ofNat perSecond).1
    refine zero.div divisor (by exact_mod_cast (by decide : 0 < min perSecond _)) ?_ (zero_div _).le
    simpa using representable_natCast (n := 0) (by decide)
  rw [toSeconds, whole, rest]
  refine ⟨(tracks_ofNat n).1.add fraction.nonneg (representable_min n) (add_zero _).ge, ?_⟩
  intro small
  exact ((tracks_ofNat n).2 small).add fraction (representable_natCast small) (add_zero _).le

/-- A value that stands for a number of seconds is that many, if it is exact. -/
theorem ofSecondsValue_of_tracks {x : Binary64} {n : ℕ} (h : Tracks n x)
    (small : n < significandBound) : ofSecondsValue x = ofSeconds n := by
  obtain ⟨low, high⟩ := h
  rw [Nat.min_eq_left small.le] at low
  match x, low, high small with
  | .finite false m e, low, high =>
      have size : ((Binary64.ratio m e).1 : ℚ) = n * (Binary64.ratio m e).2 := by
        rw [← div_eq_iff (by exact_mod_cast (ratio_snd_pos m e).ne'), ratio_div]
        exact le_antisymm high low
      have size : (Binary64.ratio m e).1 = n * (Binary64.ratio m e).2 := by exact_mod_cast size
      rw [ofSecondsValue, Binary64.roundTimes, size, Nat.mul_right_comm]
      exact roundDiv_mul .toEven (n * perSecond) (ratio_snd_pos m e)

end Duration

namespace RetryPolicy

/-! ### The wait -/

/-- A policy of whole seconds with a whole multiplier. -/
def inSeconds (maxAttempts initial greatest multiplier : ℕ) : RetryPolicy :=
  ⟨maxAttempts, .ofSeconds initial, .ofSeconds greatest, .ofNat multiplier⟩

/-- The product that the wait after an attempt is computed from. -/
def product (p : RetryPolicy) (attempt : ℕ) : Binary64 :=
  p.initialBackoff.toSeconds.mul (p.multiplier.pow (min attempt maxExponent))

/-- The wait is read off the product. -/
theorem backoff_eq (p : RetryPolicy) (attempt : ℕ) :
    p.backoff attempt =
      if !(p.product attempt).isFinite || (p.product attempt).ge p.maxBackoff.toSeconds
        then p.maxBackoff else Duration.ofSecondsValue (p.product attempt) := rfl

/-- The wait is the least of two numbers of seconds, if the product stands for the first. -/
theorem backoff_of_tracks {p : RetryPolicy} {attempt seconds greatest : ℕ}
    (h : Tracks seconds (p.product attempt)) (most : p.maxBackoff = Duration.ofSeconds greatest)
    (small : greatest < significandBound) :
    p.backoff attempt = Duration.ofSeconds (min seconds greatest) := by
  have order := h.ge_iff (most ▸ Duration.tracks_toSeconds greatest) small
  rw [backoff_eq]
  rcases Nat.lt_or_ge seconds greatest with less | reached
  · have precise := less.trans small
    rw [h.isFinite precise, Bool.eq_false_iff.mpr (mt order.mp less.not_ge), if_neg (by decide),
      Duration.ofSecondsValue_of_tracks h precise, Nat.min_eq_left less.le]
  · rw [order.mpr reached, Bool.or_true, if_pos rfl, most, Nat.min_eq_right reached]

/-- The product stands for the number of seconds, unless the first wait is zero and the power is an
infinity. -/
theorem tracks_product (maxAttempts greatest multiplier attempt : ℕ) {initial : ℕ}
    (small : initial < significandBound)
    (some : initial = 0 →
      ((Binary64.ofNat multiplier).pow (min attempt maxExponent)).isFinite = true) :
    Tracks (initial * multiplier ^ min attempt maxExponent)
      ((inSeconds maxAttempts initial greatest multiplier).product attempt) := by
  have first := Duration.tracks_toSeconds initial
  exact first.mul (tracks_pow multiplier _) some fun _ => first.isFinite small

/-- A first wait of zero and a power that is an infinity make the wait the greatest one. -/
theorem backoff_of_overflow {maxAttempts initial greatest multiplier attempt : ℕ}
    (none : initial = 0)
    (overflow : ((Binary64.ofNat multiplier).pow (min attempt maxExponent)).isFinite = false) :
    (inSeconds maxAttempts initial greatest multiplier).backoff attempt =
      Duration.ofSeconds greatest := by
  have zero : (Duration.ofSeconds initial).toSeconds.isZero = true := by
    have first := Duration.tracks_toSeconds initial
    generalize (Duration.ofSeconds initial).toSeconds = x at first ⊢
    subst none
    exact first.atMost_zero.isZero
  have noNumber : (inSeconds maxAttempts initial greatest multiplier).product attempt = .nan :=
    Decimal.Binary64.mul_eq_nan zero overflow
  rw [backoff_eq, noNumber, show Binary64.nan.isFinite = false from rfl, Bool.not_false,
    Bool.true_or, if_pos rfl]
  rfl

/-- With a first wait of zero there should be no wait. -/
theorem min_eq_zero (maxAttempts greatest multiplier power : ℕ) :
    min ((inSeconds maxAttempts 0 greatest multiplier).initialBackoff * power)
      (inSeconds maxAttempts 0 greatest multiplier).maxBackoff = Duration.ofSeconds 0 := by
  change min (0 * Duration.perSecond * power) _ = 0 * Duration.perSecond
  rw [Nat.zero_mul, Nat.zero_mul, Nat.zero_min]

/-- Cutting off the exponent does not change the least of the product and an exact number. -/
theorem min_clamped (initial multiplier attempt : ℕ) {greatest : ℕ}
    (small : greatest < significandBound) :
    min (initial * multiplier ^ min attempt maxExponent) greatest =
      min (initial * multiplier ^ attempt) greatest := by
  rcases Nat.le_total attempt maxExponent with below | above
  · rw [Nat.min_eq_left below]
  rw [Nat.min_eq_right above]
  have positive : 53 ≤ maxExponent := by decide
  match initial, multiplier with
  | 0, _ => rw [Nat.zero_mul, Nat.zero_mul]
  | _, 0 => rw [Nat.zero_pow (by omega), Nat.zero_pow (by omega)]
  | _, 1 => rw [Nat.one_pow, Nat.one_pow]
  | i + 1, m + 2 =>
      have large : ∀ {n : ℕ}, 53 ≤ n → greatest ≤ (i + 1) * (m + 2) ^ n := by
        intro n hn
        calc greatest ≤ 2 ^ 53 := small.le
          _ ≤ 2 ^ n := Nat.pow_le_pow_right Nat.zero_lt_two hn
          _ ≤ (m + 2) ^ n := Nat.pow_le_pow_left (Nat.le_add_left 2 m) n
          _ ≤ (i + 1) * (m + 2) ^ n := Nat.le_mul_of_pos_left _ i.succ_pos
      rw [Nat.min_eq_right (large positive), Nat.min_eq_right (large (positive.trans above))]

/-- **When the wait is what it is to be.** With whole seconds and a whole multiplier the wait after
an attempt is `min (initialBackoff * multiplier ^ attempt) maxBackoff`, for every attempt, unless
the first wait is zero, the greatest one is not, and the power overflows. Then it is the greatest
wait instead of none. If the multiplier is at most `2 ^ bits`, the power is finite while
`bits * attempt` is at most 1023; if it is at least `2 ^ bits`, it overflows once `bits * attempt`
is at least 1024. -/
theorem backoff_eq_min_iff (maxAttempts multiplier attempt : ℕ) {initial greatest : ℕ}
    (exactInitial : initial < 2 ^ 53) (exactGreatest : greatest < 2 ^ 53) :
    let p := inSeconds maxAttempts initial greatest multiplier
    let power := p.multiplier.pow (min attempt maxExponent)
    (p.backoff attempt = min (p.initialBackoff * multiplier ^ attempt) p.maxBackoff ↔
      (initial = 0 → greatest = 0 ∨ power.isFinite = true)) ∧
    (initial = 0 → power.isFinite = false → p.backoff attempt = p.maxBackoff) ∧
    (∀ bits, multiplier ≤ 2 ^ bits → bits * attempt ≤ 1023 → power.isFinite = true) ∧
    (∀ bits, 2 ^ bits ≤ multiplier → 1024 ≤ bits * attempt → power.isFinite = false) := by
  intro p power
  have wanted : min (p.initialBackoff * multiplier ^ attempt) p.maxBackoff =
      Duration.ofSeconds (min (initial * multiplier ^ attempt) greatest) := by
    change min (initial * Duration.perSecond * multiplier ^ attempt) (greatest * _) = _ * _
    rw [Nat.mul_right_comm, Nat.mul_min_mul_right]
  have overflow : initial = 0 → power.isFinite = false → p.backoff attempt = p.maxBackoff :=
    backoff_of_overflow
  refine ⟨?_, overflow, fun bits base few => ?_, fun bits base many => ?_⟩
  · rw [wanted]
    by_cases some : initial = 0 → power.isFinite = true
    · have product := tracks_product maxAttempts greatest multiplier attempt exactInitial some
      rw [backoff_of_tracks product rfl exactGreatest, min_clamped _ _ _ exactGreatest]
      exact iff_of_true rfl fun zero => .inr (some zero)
    · obtain ⟨none, infinite⟩ := Classical.not_imp.mp some
      have infinite := Bool.eq_false_iff.mpr infinite
      have nothing : p.maxBackoff = Duration.ofSeconds 0 ↔ greatest = 0 :=
        Nat.mul_right_cancel_iff (by decide)
      rw [overflow none infinite, none, Nat.zero_mul, Nat.zero_min, nothing, infinite]
      exact ⟨fun nothing _ => .inl nothing, fun spared => (spared rfl).resolve_right nofun⟩
  · exact Decimal.Binary64.isFinite_pow base
      ((Nat.mul_le_mul_left bits (Nat.min_le_left attempt maxExponent)).trans few)
  · have many : 1024 ≤ bits * min attempt maxExponent := by
      rcases Nat.le_total attempt maxExponent with below | above
      · rwa [Nat.min_eq_left below]
      · have some : 0 < bits := Nat.pos_of_mul_pos_right (Nat.lt_of_lt_of_le (by decide) many)
        rw [Nat.min_eq_right above]
        exact (show 1024 ≤ maxExponent by decide).trans (Nat.le_mul_of_pos_left _ some)
    exact congrArg Binary64.isFinite (Decimal.Binary64.pow_eq_infinite base many)

/-- By default the wait after the tenth attempt is cut off. With a first wait of zero and the same
multiplier there are no waits up to attempt 1023. -/
theorem backoff_eq_min_iff_doubling : (0 < 2 ^ 53 ∧ 1 < 2 ^ 53 ∧ 60 < 2 ^ 53) ∧
    ({} : RetryPolicy).backoff 10 = Duration.ofSeconds 60 ∧
    (inSeconds 3 0 60 2).backoff 1023 = Duration.ofSeconds 0 := by
  have growing := backoff_eq_min_iff 3 2 10 (by decide : 1 < 2 ^ 53) (by decide : 60 < 2 ^ 53)
  have none := backoff_eq_min_iff 3 2 1023 (by decide : 0 < 2 ^ 53) (by decide : 60 < 2 ^ 53)
  refine ⟨by decide, (growing.1.mpr nofun).trans (by decide), ?_⟩
  refine (none.1.mpr fun _ => .inr (none.2.2.1 1 (by decide) (by decide))).trans ?_
  exact min_eq_zero 3 60 2 _

/-- At attempt 1024 there is a wait of a minute, where there should be none. -/
theorem backoff_of_nothing :
    (inSeconds 3 0 60 2).backoff 1024 = Duration.ofSeconds 60 ∧
    min ((inSeconds 3 0 60 2).initialBackoff * 2 ^ 1024) (inSeconds 3 0 60 2).maxBackoff =
      Duration.ofSeconds 0 := by
  have overflow := Decimal.Binary64.pow_eq_infinite (m := 2) (b := 1) (n := 1024) le_rfl le_rfl
  have uncut : min 1024 maxExponent = 1024 := by decide
  exact ⟨backoff_of_overflow rfl (by rw [uncut, overflow]; rfl), min_eq_zero 3 60 2 _⟩

end RetryPolicy

end PushDelivery
