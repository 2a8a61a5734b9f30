import PushDelivery.Proofs.Decimal.Sizes

/-!
# Powers of Binary Floating Point Values

A power is a product of squares, each of them rounded. What all products of two factors keep, powers
keep. So a power of a natural number is exact as long as it is less than the bound of significands,
and from there on it is not less than that bound, although it may be an infinity. Whether it is one
is seen from the powers of two around the base.

## Main definitions

* `Tracks`: a value that stands for a natural number in this way.

## Main results

* `pow_keeps`: what products keep, powers keep.
* `Tracks.mul`: a product stands for the product, unless zero meets an infinity.
* `Tracks.ge_iff`: an exact value is compared as its number is.
* `tracks_pow`: powers of natural numbers.
* `isFinite_pow`, `pow_eq_infinite`: when a power is finite.
-/

namespace PushDelivery.Decimal.Binary64

variable {x y : Binary64}

/-! ### Numbers and values -/

/-- The value stands for a natural number. Below the bound of significands it is the number, and
from there on it is not less than the bound. -/
def Tracks (n : ℕ) (x : Binary64) : Prop :=
  AtLeast (min n significandBound : ℕ) x ∧ (n < significandBound → AtMost n x)

/-- The bound itself is a value. -/
theorem representable_min (n : ℕ) : Representable (min n significandBound : ℕ) := by
  rcases Nat.lt_or_ge n significandBound with small | large
  · rw [Nat.min_eq_left small.le]
    exact representable_natCast small
  · rw [Nat.min_eq_right large, show significandBound = 2 ^ 53 from rfl, Nat.cast_pow]
    exact representable_two_pow (by decide)

/-- The value nearest to a natural number stands for it. -/
theorem tracks_ofNat (n : ℕ) : Tracks n (ofNat n) := by
  refine ⟨ofNat_atLeast (representable_min n) ?_, fun small => ?_⟩
  · exact_mod_cast Nat.min_le_left n significandBound
  · exact ofNat_atMost (representable_natCast small) le_rfl

/-- A value that stands for a number below the bound is finite. -/
theorem Tracks.isFinite {n : ℕ} (h : Tracks n x) (small : n < significandBound) :
    x.isFinite = true := (h.2 small).isFinite

/-- A finite value that stands for a number has some upper bound. -/
theorem Tracks.exists_atMost {n : ℕ} (h : Tracks n x) (finite : x.isFinite = true) :
    ∃ q, AtMost q x := h.1.exists_atMost finite

/-- A value that is at most zero stands for it. -/
theorem AtMost.tracks_zero (h : AtMost 0 x) : Tracks 0 x := by
  refine ⟨?_, fun _ => by simpa using h⟩
  simpa using h.nonneg

/-- A value that stands for zero is at most zero. -/
theorem Tracks.atMost_zero (h : Tracks 0 x) : AtMost 0 x := by
  simpa using h.2 (by decide)

/-- Positive numbers that are cut off at a bound have a product that is not less than theirs cut off
there. -/
theorem min_mul_le {a b bound : ℕ} (ha : 0 < a) (hb : 0 < b) (pos : 0 < bound) :
    min (a * b) bound ≤ min a bound * min b bound := by
  rcases Nat.lt_or_ge a bound with smallLeft | large
  · rcases Nat.lt_or_ge b bound with smallRight | large
    · rw [Nat.min_eq_left smallLeft.le, Nat.min_eq_left smallRight.le]
      exact Nat.min_le_left _ _
    · rw [Nat.min_eq_right large]
      exact (Nat.min_le_right _ _).trans (Nat.le_mul_of_pos_left _ (Nat.lt_min.mpr ⟨ha, pos⟩))
  · rw [Nat.min_eq_right large]
    exact (Nat.min_le_right _ _).trans (Nat.le_mul_of_pos_right _ (Nat.lt_min.mpr ⟨hb, pos⟩))

/-- A product stands for the product of the numbers, unless a zero meets an infinity. -/
theorem Tracks.mul {a b : ℕ} (hx : Tracks a x) (hy : Tracks b y)
    (left : a = 0 → y.isFinite = true) (right : b = 0 → x.isFinite = true) :
    Tracks (a * b) (x.mul y) := by
  have zero : Representable 0 := by simpa using representable_natCast (n := 0) (by decide)
  rcases Nat.eq_zero_or_pos a with rfl | ha
  · obtain ⟨q, bound⟩ := hy.exists_atMost (left rfl)
    rw [Nat.zero_mul]
    exact (hx.atMost_zero.mul bound zero (zero_mul q).le).tracks_zero
  rcases Nat.eq_zero_or_pos b with rfl | hb
  · obtain ⟨q, bound⟩ := hx.exists_atMost (right rfl)
    rw [Nat.mul_zero]
    exact (bound.mul hy.atMost_zero zero (mul_zero q).le).tracks_zero
  have bound : 0 < significandBound := by decide
  refine ⟨hx.1.mul hy.1 ?_ ?_ fun hd le => le_ofRatio (representable_min _) hd (le.trans' ?_), ?_⟩
  · exact_mod_cast Nat.lt_min.mpr ⟨ha, bound⟩
  · exact_mod_cast Nat.lt_min.mpr ⟨hb, bound⟩
  · exact_mod_cast min_mul_le ha hb bound
  · intro small
    have smallLeft := (Nat.le_mul_of_pos_right a hb).trans_lt small
    have smallRight := (Nat.le_mul_of_pos_left b ha).trans_lt small
    refine (hx.2 smallLeft).mul (hy.2 smallRight) (representable_natCast small) ?_
    exact (Nat.cast_mul a b).ge

/-- The order of values is that of the numbers they stand for, if the second one is exact. -/
theorem Tracks.ge_iff {a b : ℕ} (hx : Tracks a x) (hy : Tracks b y)
    (small : b < significandBound) : x.ge y = true ↔ b ≤ a := by
  have reached : b ≤ a ↔ b ≤ min a significandBound := by omega
  obtain ⟨low, high⟩ := hy
  rw [Nat.min_eq_left small.le] at low
  match x, y, hx, low, high small with
  | .infinite false, .finite false n f, hx, _, _ =>
      have overflow : significandBound ≤ a := not_lt.mp fun small => hx.2 small
      exact iff_of_true rfl (small.le.trans overflow)
  | .finite false m e, .finite false n f, hx, low, high =>
      have size : (n * 2 ^ f : ℚ) = b := le_antisymm high low
      rw [Binary64.ge_iff, size]
      constructor
      · intro below
        rcases Nat.lt_or_ge a significandBound with inside | large
        · exact_mod_cast below.trans (hx.2 inside)
        · exact small.le.trans large
      · intro below
        exact le_trans (by exact_mod_cast reached.mp below) hx.1

/-! ### Powers -/

/-- What products of two factors keep, the loop keeps. -/
theorem powLoop_keeps {R : ℕ → Binary64 → Prop}
    (mul : ∀ {i j x y}, R i x → R j y → R (i + j) (x.mul y)) {acc square : Binary64} {a s : ℕ}
    (n : ℕ) (hacc : R a acc) (hsquare : R s square) : R (a + s * n) (powLoop acc square n) := by
  induction n using Nat.strong_induction_on generalizing acc square a s with
  | _ n ih =>
      have next : R (a + s * (n % 2)) (if n % 2 = 1 then acc.mul square else acc) := by
        rcases Nat.mod_two_eq_zero_or_one n with even | odd
        · simpa [even] using hacc
        · simpa [odd] using mul hacc hsquare
      rw [powLoop]
      split
      · next last =>
          have whole : n % 2 = n := Nat.mod_eq_of_lt (by omega)
          rwa [whole] at next ⊢
      · next more =>
          have rest := ih (n / 2) (by omega) next (mul hsquare hsquare)
          have sum : a + s * (n % 2) + (s + s) * (n / 2) = a + s * n := by
            conv_rhs => rw [← Nat.mod_add_div n 2]
            ring
          exact sum ▸ rest

/-- **What products of two factors keep, powers keep.** -/
theorem pow_keeps {R : ℕ → Binary64 → Prop}
    (mul : ∀ {i j x y}, R i x → R j y → R (i + j) (x.mul y)) (one : R 0 (ofNat 1))
    (base : R 1 x) (n : ℕ) : R n (x.pow n) := by
  simpa [pow] using powLoop_keeps mul n one base

/-- **Powers of natural numbers** stand for powers of them. -/
theorem tracks_pow (m n : ℕ) : Tracks (m ^ n) ((ofNat m).pow n) := by
  refine pow_keeps (R := fun j x => Tracks (m ^ j) x) ?_ ?_ ?_ n
  · intro i j x y hx hy
    -- A power that is zero is one of zero, and all of those are small.
    have small : ∀ {k l : ℕ}, m ^ k = 0 → m ^ l < significandBound := by
      intro k l none
      obtain rfl := (Nat.pow_eq_zero.mp none).1
      exact (Nat.pow_le_pow_left (Nat.zero_le 1) l).trans_lt (by rw [Nat.one_pow]; decide)
    rw [Nat.pow_add]
    exact hx.mul hy (fun none => hy.isFinite (small none)) fun none => hx.isFinite (small none)
  · simpa using tracks_ofNat 1
  · simpa using tracks_ofNat m

/-- A power of a base of few bits is finite. -/
theorem isFinite_pow {m b n : ℕ} (base : m ≤ 2 ^ b) (few : b * n ≤ 1023) :
    ((ofNat m).pow n).isFinite = true := by
  have bound := pow_keeps (x := ofNat m) (R := fun j x => b * j ≤ 1023 → AtMost (2 ^ (b * j)) x)
    (fun {i j x y} hx hy fits => ?_) ?_ ?_ n
  · exact (bound few).isFinite
  · have fits' : b * i + b * j ≤ 1023 := Nat.mul_add b i j ▸ fits
    refine (hx (by omega)).mul (hy (by omega)) (representable_two_pow fits) ?_
    rw [Nat.mul_add, pow_add]
  · exact fun fits => ofNat_atMost (representable_two_pow fits) (by simp)
  · intro fits
    refine ofNat_atMost (representable_two_pow fits) ?_
    rw [Nat.mul_one]
    exact_mod_cast base

/-- A power of a base of many bits is an infinity. -/
theorem pow_eq_infinite {m b n : ℕ} (base : 2 ^ b ≤ m) (many : 1024 ≤ b * n) :
    (ofNat m).pow n = .infinite false := by
  have bound := pow_keeps (x := ofNat m)
    (R := fun j x => AtLeast (2 ^ (b * j)) x ∧ InRange x) (fun {i j x y} hx hy => ?_) ?_ ?_ n
  · exact (bound.1.mono (pow_le_pow_right₀ one_le_two many)).eq_infinite bound.2
  · refine ⟨hx.1.mul hy.1 (by positivity) (by positivity) fun hd le => ?_, inRange_mul x y⟩
    exact two_pow_le_ofRatio _ hd (by rwa [Nat.mul_add, pow_add])
  · exact ⟨two_pow_le_ofRatio _ Nat.zero_lt_one (by simp), inRange_ofRatio _ _ Nat.zero_lt_one⟩
  · refine ⟨two_pow_le_ofRatio _ Nat.zero_lt_one ?_, inRange_ofRatio _ _ Nat.zero_lt_one⟩
    rw [Nat.mul_one, Nat.cast_one, div_one]
    exact_mod_cast base

end PushDelivery.Decimal.Binary64
