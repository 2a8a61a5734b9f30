import Mathlib.Algebra.Order.Field.Power
import Mathlib.Algebra.Order.Ring.Rat
import Mathlib.Data.Rat.Cast.Defs
import Mathlib.Tactic.FieldSimp
import Mathlib.Tactic.GCongr
import Mathlib.Tactic.Linarith
import Mathlib.Tactic.NormNum
import Mathlib.Tactic.Positivity
import Mathlib.Tactic.Ring
import PushDelivery.Decimal.Binary64

/-!
# Sizes of Binary Floating Point Values

A quotient is rounded to one of the values next to it, so that rounding never crosses a number that
is itself a value. This module shows that of the rounding of all operations, and derives bounds of
products from it. With a bound from both sides a product is exact; with a lower bound alone it may
be an infinity, which counts as greater than every number.

## Main definitions

* `Representable`: the numbers that are values.
* `AtLeast`, `AtMost`: bounds of values that are not negative.
* `InRange`: a value that is finite is less than the least power of two that overflows.

## Main results

* `exponentOf_spec`: the significand has all its bits, unless the exponent is the least one.
* `le_ofRatio`, `ofRatio_le`: rounding does not cross a value.
* `two_pow_le_ofRatio`: nor does it cross a power of two that is too great for a value.
* `AtLeast.mul`, `AtMost.mul`: bounds of products.
* `ge_iff`: the order of values is that of their sizes.
-/

namespace PushDelivery.Decimal

/-! ### Rounding to a whole number -/

/-- Rounding does not cross a whole number from above. -/
theorem le_roundDiv (ties : Ties) {q num den : ℕ} (h : (q : ℚ) ≤ num / den) (hd : 0 < den) :
    q ≤ roundDiv ties num den := by
  have floor : q ≤ num / den := by
    rw [Nat.le_div_iff_mul_le hd]
    exact_mod_cast (le_div_iff₀ (by exact_mod_cast hd)).mp h
  rcases roundDiv_eq_or ties num den with same | next
  · exact same ▸ floor
  · exact next ▸ Nat.le_succ_of_le floor

/-- Rounding does not cross a whole number from below. -/
theorem roundDiv_le (ties : Ties) {q num den : ℕ} (h : (num / den : ℚ) ≤ q) (hd : 0 < den) :
    roundDiv ties num den ≤ q := by
  have bound : num ≤ q * den := by
    exact_mod_cast (div_le_iff₀ (by exact_mod_cast hd)).mp h
  rcases bound.eq_or_lt with rfl | less
  · rw [roundDiv_mul ties q hd]
  · have floor : num / den < q := (Nat.div_lt_iff_lt_mul hd).mpr less
    rcases roundDiv_eq_or ties num den with same | next
    · exact same ▸ floor.le
    · exact next ▸ floor

namespace Binary64

/-! ### Quotients at an exponent -/

theorem scaleDown_snd_pos (num : ℕ) {den : ℕ} (hd : 0 < den) (e : ℤ) :
    0 < (scaleDown num den e).2 := by
  unfold scaleDown
  split
  · exact Nat.mul_pos hd (Nat.pow_pos Nat.zero_lt_two)
  · exact hd

/-- Scaling divides by a power of two. -/
theorem scaleDown_div (num den : ℕ) (e : ℤ) :
    ((scaleDown num den e).1 / (scaleDown num den e).2 : ℚ) = num / den / 2 ^ e := by
  unfold scaleDown
  split
  · next nonneg =>
      obtain ⟨n, rfl⟩ := Int.eq_ofNat_of_zero_le nonneg
      simp [div_div]
  · next negative =>
      obtain ⟨n, rfl⟩ : ∃ n : ℕ, e = -n := ⟨(-e).toNat, by omega⟩
      simp [mul_div_right_comm]

theorem ratio_snd_pos (m : ℕ) (e : ℤ) : 0 < (ratio m e).2 := by
  unfold ratio
  split
  · exact Nat.zero_lt_one
  · exact Nat.pow_pos Nat.zero_lt_two

/-- The size of a finite value is its significand times a power of two. -/
theorem ratio_div (m : ℕ) (e : ℤ) : ((ratio m e).1 / (ratio m e).2 : ℚ) = m * 2 ^ e := by
  unfold ratio
  split
  · next nonneg =>
      obtain ⟨n, rfl⟩ := Int.eq_ofNat_of_zero_le nonneg
      simp
  · next negative =>
      obtain ⟨n, rfl⟩ : ∃ n : ℕ, e = -n := ⟨(-e).toNat, by omega⟩
      simp [div_eq_mul_inv]

/-- The floor of a quotient is less than a natural number if the quotient is. -/
theorem natDiv_lt_iff {num den bound : ℕ} (hd : 0 < den) :
    num / den < bound ↔ (num / den : ℚ) < bound := by
  rw [Nat.div_lt_iff_lt_mul hd, div_lt_iff₀ (by exact_mod_cast hd)]
  exact_mod_cast Iff.rfl

/-- A quotient lies between two powers of two, by the binary logarithms of its parts. -/
theorem log2_bounds {num den : ℕ} (hn : 0 < num) (hd : 0 < den) :
    (2 : ℚ) ^ ((num.log2 : ℤ) - den.log2 - 1) ≤ num / den ∧
      (num / den : ℚ) < 2 ^ ((num.log2 : ℤ) - den.log2 + 1) := by
  have numLow : (2 : ℚ) ^ (num.log2 : ℤ) ≤ num := by
    exact_mod_cast Nat.log2_self_le hn.ne'
  have numHigh : (num : ℚ) < 2 ^ ((num.log2 : ℤ) + 1) := by
    exact_mod_cast Nat.lt_log2_self (n := num)
  have denLow : (2 : ℚ) ^ (den.log2 : ℤ) ≤ den := by
    exact_mod_cast Nat.log2_self_le hd.ne'
  have denHigh : (den : ℚ) < 2 ^ ((den.log2 : ℤ) + 1) := by
    exact_mod_cast Nat.lt_log2_self (n := den)
  have pos : (0 : ℚ) < den := by exact_mod_cast hd
  constructor
  · rw [le_div_iff₀ pos]
    calc (2 : ℚ) ^ ((num.log2 : ℤ) - den.log2 - 1) * den
        ≤ 2 ^ ((num.log2 : ℤ) - den.log2 - 1) * 2 ^ ((den.log2 : ℤ) + 1) := by gcongr
      _ = 2 ^ (num.log2 : ℤ) := by
        rw [← zpow_add₀ two_ne_zero]
        congr 1
        ring
      _ ≤ num := numLow
  · rw [div_lt_iff₀ pos]
    calc (num : ℚ) < 2 ^ ((num.log2 : ℤ) + 1) := numHigh
      _ = 2 ^ ((num.log2 : ℤ) - den.log2 + 1) * 2 ^ (den.log2 : ℤ) := by
        rw [← zpow_add₀ two_ne_zero]
        congr 1
        ring
      _ ≤ 2 ^ ((num.log2 : ℤ) - den.log2 + 1) * den := by gcongr

theorem cast_significandBound : (significandBound : ℚ) = 2 ^ (53 : ℤ) := by
  norm_num [significandBound, wordSize]

/-- The exponent of a quotient leaves it a significand under the bound, with all its bits unless the
exponent is the least one. -/
theorem exponentOf_spec {num den : ℕ} (hn : 0 < num) (hd : 0 < den) :
    minExponent ≤ exponentOf num den ∧
      (num / den : ℚ) < 2 ^ (53 + exponentOf num den) ∧
      (minExponent < exponentOf num den → (2 : ℚ) ^ (52 + exponentOf num den) ≤ num / den) := by
  obtain ⟨low, high⟩ := log2_bounds hn hd
  have mono : ∀ {e f : ℤ}, e ≤ f → (2 : ℚ) ^ e ≤ 2 ^ f := zpow_le_zpow_right₀ one_le_two
  unfold exponentOf
  dsimp only
  generalize hleast : max minExponent ((num.log2 : ℤ) - den.log2 - 53) = least
  have fits : ∀ {e : ℤ}, (scaleDown num den e).1 / (scaleDown num den e).2 < significandBound ↔
      (num / den : ℚ) < 2 ^ (53 + e) := by
    intro e
    rw [natDiv_lt_iff (scaleDown_snd_pos num hd e), scaleDown_div, cast_significandBound,
      div_lt_iff₀ (by positivity), ← zpow_add₀ two_ne_zero]
  split
  · next small =>
      refine ⟨by omega, fits.mp small, fun above => ?_⟩
      exact (mono (by omega)).trans low
  · next large =>
      refine ⟨by omega, high.trans_le (mono (by omega)), fun _ => ?_⟩
      exact (mono (by omega)).trans (not_lt.mp (mt fits.mpr large))

/-! ### Sizes -/

/-- The number is a value: a significand under the bound at an exponent in range. -/
def Representable (q : ℚ) : Prop :=
  ∃ (m : ℕ) (e : ℤ), m < significandBound ∧ minExponent ≤ e ∧ e ≤ maxExponent ∧ q = m * 2 ^ e

/-- A value that is not less than some number. An infinity is greater than all of them. -/
def AtLeast (q : ℚ) : Binary64 → Prop
  | .finite false m e => q ≤ m * 2 ^ e
  | .infinite false => True
  | _ => False

/-- A finite value, without a sign, that is not greater than some number. -/
def AtMost (q : ℚ) : Binary64 → Prop
  | .finite false m e => m * 2 ^ e ≤ q
  | _ => False

/-- A finite value has its significand and its exponent in range. -/
def InRange : Binary64 → Prop
  | .finite _ m e => m < significandBound ∧ e ≤ maxExponent
  | _ => True

/-- Natural numbers under the bound are values. -/
theorem representable_natCast {n : ℕ} (h : n < significandBound) : Representable n :=
  ⟨n, 0, h, by decide, by decide, by simp⟩

/-- Powers of two that do not overflow are values. -/
theorem representable_two_pow {a : ℕ} (h : a ≤ 1023) : Representable (2 ^ a) := by
  rcases Nat.le_total a 52 with small | large
  · refine ⟨2 ^ a, 0, ?_, by decide, by decide, by simp⟩
    exact Nat.pow_lt_pow_right Nat.one_lt_two (Nat.lt_succ_of_le small)
  · refine ⟨2 ^ 52, a - 52, by decide, ?_, ?_, ?_⟩
    · simp only [minExponent]
      omega
    · simp only [maxExponent]
      omega
    · rw [Nat.cast_pow, Nat.cast_two, ← zpow_natCast, ← zpow_natCast, ← zpow_add₀ two_ne_zero]
      congr 1
      push_cast
      ring

/-- A value of a greater exponent is a whole multiple of a smaller power of two. -/
theorem exists_multiple (m : ℕ) {e f : ℤ} (h : e ≤ f) :
    ∃ n : ℕ, (m * 2 ^ f : ℚ) = n * 2 ^ e ∧ (e = f → n = m) := by
  refine ⟨m * 2 ^ (f - e).toNat, ?_, fun same => by simp [same]⟩
  rw [Nat.cast_mul, Nat.cast_pow, Nat.cast_two, mul_assoc, ← zpow_natCast, ← zpow_add₀ two_ne_zero]
  congr 2
  omega

/-- A value of a smaller exponent is less than the least significand with all bits. -/
theorem lt_of_exponent_lt {m : ℕ} (hm : m < significandBound) {e f : ℤ} (h : f < e) :
    (m * 2 ^ f : ℚ) < 2 ^ (52 + e) := by
  have bound : (m : ℚ) < 2 ^ (53 : ℤ) := cast_significandBound ▸ by exact_mod_cast hm
  calc (m * 2 ^ f : ℚ) < 2 ^ (53 : ℤ) * 2 ^ f := by gcongr
    _ = 2 ^ (53 + f) := (zpow_add₀ two_ne_zero _ _).symm
    _ ≤ 2 ^ (52 + e) := zpow_le_zpow_right₀ one_le_two (by omega)

/-! ### Rounding to a value -/

/-- The significand of a quotient at its exponent. -/
def rounded (num den : ℕ) : ℕ :=
  roundDiv .toEven (scaleDown num den (exponentOf num den)).1
    (scaleDown num den (exponentOf num den)).2

theorem ofRatio_eq {num : ℕ} (hn : 0 < num) (negative : Bool) (den : ℕ) :
    ofRatio negative num den = normalize negative (rounded num den) (exponentOf num den) :=
  if_neg hn.ne'

/-- Rounding at the exponent does not cross a value from above. -/
theorem le_rounded {q : ℚ} (hq : Representable q) {num den : ℕ} (hn : 0 < num) (hd : 0 < den)
    (h : q ≤ num / den) : q ≤ rounded num den * 2 ^ exponentOf num den := by
  obtain ⟨m, f, hm, hf, -, rfl⟩ := hq
  have pos : (0 : ℚ) < 2 ^ exponentOf num den := by positivity
  have whole : ∀ {n : ℕ}, (n * 2 ^ exponentOf num den : ℚ) ≤ num / den → n ≤ rounded num den := by
    intro n below
    refine le_roundDiv .toEven ?_ (scaleDown_snd_pos num hd _)
    rwa [scaleDown_div, le_div_iff₀ pos]
  rcases le_or_gt (exponentOf num den) f with finer | coarser
  · obtain ⟨n, same, -⟩ := exists_multiple m finer
    rw [same] at h ⊢
    gcongr
    exact whole h
  · -- The value is less than all significands with all bits, and this is one.
    have full := (exponentOf_spec hn hd).2.2 (hf.trans_lt coarser)
    refine (lt_of_exponent_lt hm coarser).le.trans ?_
    rw [zpow_add₀ two_ne_zero]
    gcongr
    have bits : 2 ^ 52 ≤ rounded num den := whole <| by
      rw [zpow_add₀ two_ne_zero] at full
      exact_mod_cast full
    exact_mod_cast bits

/-- Rounding at the exponent does not cross a value from below, and its exponent is in range. -/
theorem rounded_le {m : ℕ} {f : ℤ} (hm : m < significandBound) (hf : minExponent ≤ f)
    {num den : ℕ} (hn : 0 < num) (hd : 0 < den) (h : (num / den : ℚ) ≤ m * 2 ^ f) :
    exponentOf num den ≤ f ∧ (rounded num den * 2 ^ exponentOf num den : ℚ) ≤ m * 2 ^ f ∧
      (exponentOf num den = f → rounded num den ≤ m) := by
  have pos : (0 : ℚ) < 2 ^ exponentOf num den := by positivity
  have finer : exponentOf num den ≤ f := by
    by_contra coarser
    have coarser := not_le.mp coarser
    have full := (exponentOf_spec hn hd).2.2 (hf.trans_lt coarser)
    exact absurd (full.trans h) (not_le.mpr (lt_of_exponent_lt hm coarser))
  obtain ⟨n, same, aligned⟩ := exists_multiple m finer
  have below : rounded num den ≤ n := by
    refine roundDiv_le .toEven ?_ (scaleDown_snd_pos num hd _)
    rwa [scaleDown_div, div_le_iff₀ pos, ← same]
  refine ⟨finer, ?_, fun here => aligned here ▸ below⟩
  rw [same]
  gcongr

/-- A significand is at most the bound. -/
theorem rounded_le_bound {num den : ℕ} (hn : 0 < num) (hd : 0 < den) :
    rounded num den ≤ significandBound := by
  refine roundDiv_le .toEven ?_ (scaleDown_snd_pos num hd _)
  rw [scaleDown_div, cast_significandBound, div_le_iff₀ (by positivity), ← zpow_add₀ two_ne_zero]
  exact (exponentOf_spec hn hd).2.1.le

/-- A significand that has reached the bound is halved at the next exponent, and what is beyond the
greatest exponent is an infinity. -/
theorem normalize_cases (negative : Bool) {m : ℕ} (e : ℤ) (hm : m ≤ significandBound) :
    (normalize negative m e = .infinite negative ∧
        (maxExponent < e ∨ m = significandBound ∧ e = maxExponent)) ∨
      ∃ (n : ℕ) (f : ℤ), normalize negative m e = .finite negative n f ∧
        n < significandBound ∧ e ≤ f ∧ f ≤ maxExponent ∧ (n * 2 ^ f : ℚ) = m * 2 ^ e := by
  unfold normalize
  rcases hm.lt_or_eq with small | rfl
  · simp only [small, if_true]
    split
    · next beyond => exact .inl ⟨rfl, .inl beyond⟩
    · next within => exact .inr ⟨m, e, rfl, small, le_rfl, not_lt.mp within, rfl⟩
  · simp only [lt_irrefl, if_false]
    split
    · next beyond =>
        refine .inl ⟨rfl, (Int.lt_add_one_iff.mp beyond).lt_or_eq.imp_right fun same => ?_⟩
        exact ⟨trivial, same.symm⟩
    · next within =>
        refine .inr ⟨_, _, rfl, by decide, (Int.lt_succ e).le, not_lt.mp within, ?_⟩
        rw [zpow_add_one₀ two_ne_zero, show significandBound / 2 = 2 ^ 52 from rfl,
          show significandBound = 2 ^ 53 from rfl]
        push_cast
        ring

/-- What an operation rounds to is in range. -/
theorem inRange_ofRatio (negative : Bool) (num : ℕ) {den : ℕ} (hd : 0 < den) :
    InRange (ofRatio negative num den) := by
  rcases Nat.eq_zero_or_pos num with rfl | hn
  · exact ⟨by decide, by decide⟩
  · rw [ofRatio_eq hn]
    rcases normalize_cases negative (exponentOf num den) (rounded_le_bound hn hd) with
      ⟨overflow, -⟩ | ⟨m, f, same, hm, -, hf, -⟩
    · rw [overflow]
      trivial
    · rw [same]
      exact ⟨hm, hf⟩

/-- **Rounding does not cross a value** from above. -/
theorem le_ofRatio {q : ℚ} (hq : Representable q) {num den : ℕ} (hd : 0 < den)
    (h : q ≤ num / den) : AtLeast q (ofRatio false num den) := by
  rcases Nat.eq_zero_or_pos num with rfl | hn
  · change q ≤ (0 : ℕ) * 2 ^ minExponent
    simpa using h
  · rw [ofRatio_eq hn]
    rcases normalize_cases false (exponentOf num den) (rounded_le_bound hn hd) with
      ⟨overflow, -⟩ | ⟨m, f, same, -, -, -, size⟩
    · rw [overflow]
      trivial
    · rw [same]
      exact (le_rounded hq hn hd h).trans size.ge

/-- **Rounding does not cross a value** from below. -/
theorem ofRatio_le {q : ℚ} (hq : Representable q) {num den : ℕ} (hd : 0 < den)
    (h : (num / den : ℚ) ≤ q) : AtMost q (ofRatio false num den) := by
  rcases Nat.eq_zero_or_pos num with rfl | hn
  · change (0 : ℕ) * 2 ^ minExponent ≤ q
    simpa using h
  · obtain ⟨m, f, hm, low, high, rfl⟩ := hq
    obtain ⟨finer, below, aligned⟩ := rounded_le hm low hn hd h
    rw [ofRatio_eq hn]
    rcases normalize_cases false (exponentOf num den) (rounded_le_bound hn hd) with
      ⟨-, beyond | ⟨full, greatest⟩⟩ | ⟨n, g, same, -, -, -, size⟩
    · exact absurd (finer.trans high) (not_le.mpr beyond)
    · have here : exponentOf num den = f := le_antisymm finer (greatest ▸ high)
      exact absurd (full ▸ aligned here) (not_le.mpr hm)
    · rw [same]
      exact size.le.trans below

/-- A quotient that overflows is rounded to an infinity. -/
theorem ofRatio_eq_infinite {num den : ℕ} (hd : 0 < den) (h : (2 : ℚ) ^ 1024 ≤ num / den) :
    ofRatio false num den = .infinite false := by
  have hn : 0 < num := by
    rcases Nat.eq_zero_or_pos num with rfl | hn
    · rw [Nat.cast_zero, zero_div] at h
      exact absurd h (not_le.mpr (by positivity))
    · exact hn
  have beyond : maxExponent < exponentOf num den := by
    have less : (2 : ℚ) ^ (1024 : ℤ) < 2 ^ (53 + exponentOf num den) := by
      exact_mod_cast h.trans_lt (exponentOf_spec hn hd).2.1
    have := (zpow_lt_zpow_iff_right₀ one_lt_two).mp less
    simp only [maxExponent]
    omega
  rw [ofRatio_eq hn]
  rcases normalize_cases false (exponentOf num den) (rounded_le_bound hn hd) with
    ⟨overflow, -⟩ | ⟨m, f, -, -, up, within, -⟩
  · exact overflow
  · exact absurd (up.trans within) (not_le.mpr beyond)

/-- Rounding does not cross a power of two, also if this is too great for a value. -/
theorem two_pow_le_ofRatio (a : ℕ) {num den : ℕ} (hd : 0 < den) (h : (2 : ℚ) ^ a ≤ num / den) :
    AtLeast (2 ^ a) (ofRatio false num den) := by
  rcases Nat.lt_or_ge 1023 a with overflow | fits
  · rw [ofRatio_eq_infinite hd ((pow_le_pow_right₀ one_le_two overflow).trans h)]
    trivial
  · exact le_ofRatio (representable_two_pow fits) hd h

/-! ### Bounds -/

variable {x y : Binary64} {p q r : ℚ}

theorem AtLeast.mono (h : AtLeast q x) (le : p ≤ q) : AtLeast p x := by
  match x, h with
  | .finite false _ _, h => exact le.trans h
  | .infinite false, _ => trivial

/-- A value with an upper bound is finite. -/
theorem AtMost.isFinite (h : AtMost q x) : x.isFinite = true := by
  match x, h with
  | .finite false _ _, _ => rfl

/-- A value with a positive lower bound is not zero. -/
theorem AtLeast.isZero_eq_false (h : AtLeast q x) (hq : 0 < q) : x.isZero = false := by
  match x, h with
  | .finite false 0 e, h =>
      rw [AtLeast, Nat.cast_zero, zero_mul] at h
      exact absurd h (not_le.mpr hq)
  | .finite false (m + 1) e, _ => rfl
  | .infinite false, _ => rfl

/-- A finite value with a lower bound has an upper bound. -/
theorem AtLeast.exists_atMost (h : AtLeast q x) (finite : x.isFinite = true) :
    ∃ p, AtMost p x := by
  match x, h with
  | .finite false m e, _ => exact ⟨m * 2 ^ e, le_rfl⟩
  | .infinite false, _ => cases finite

/-- A value that is at most zero is zero. -/
theorem AtMost.isZero (h : AtMost 0 x) : x.isZero = true := by
  match x, h with
  | .finite false 0 e, _ => rfl
  | .finite false (m + 1) e, h =>
      have pos : (0 : ℚ) < (m + 1 : ℕ) * 2 ^ e := by positivity
      exact absurd h (not_le.mpr pos)

/-- Values with an upper bound have no sign. -/
theorem AtMost.nonneg (h : AtMost q x) : AtLeast 0 x := by
  match x, h with
  | .finite false m e, _ => exact mul_nonneg m.cast_nonneg (zpow_nonneg zero_le_two e)

/-- A value in range with a lower bound that overflows is an infinity. -/
theorem AtLeast.eq_infinite (h : AtLeast (2 ^ 1024) x) (range : InRange x) :
    x = .infinite false := by
  match x, h, range with
  | .infinite false, _, _ => rfl
  | .finite false m e, h, range =>
      have less : (m * 2 ^ e : ℚ) < 2 ^ (1024 : ℤ) := by
        refine (lt_of_exponent_lt range.1 (Int.lt_add_one_iff.mpr range.2)).trans_le ?_
        exact zpow_le_zpow_right₀ one_le_two (by decide)
      exact absurd less (not_lt.mpr (by exact_mod_cast h))

/-- The value nearest to a natural number does not lie on the other side of a value. -/
theorem ofNat_atLeast (hq : Representable q) {n : ℕ} (h : q ≤ n) : AtLeast q (ofNat n) :=
  le_ofRatio hq Nat.zero_lt_one (by simpa using h)

theorem ofNat_atMost (hq : Representable q) {n : ℕ} (h : n ≤ q) : AtMost q (ofNat n) :=
  ofRatio_le hq Nat.zero_lt_one (by simpa using h)

/-! ### Products -/

/-- The quotient that a product of finite values is rounded from. -/
theorem ratio_mul_ratio (m n : ℕ) (e f : ℤ) :
    (((ratio m e).1 * (ratio n f).1 : ℕ) / ((ratio m e).2 * (ratio n f).2 : ℕ) : ℚ) =
      m * 2 ^ e * (n * 2 ^ f) := by
  rw [Nat.cast_mul, Nat.cast_mul, mul_div_mul_comm, ratio_div, ratio_div]

/-- A product is not less than what its quotient is rounded to. -/
theorem AtLeast.mul (hx : AtLeast p x) (hy : AtLeast q y) (hp : 0 < p) (hq : 0 < q)
    (round : ∀ {num den : ℕ}, 0 < den → p * q ≤ num / den → AtLeast r (ofRatio false num den)) :
    AtLeast r (x.mul y) := by
  match x, y, hx, hy with
  | .infinite false, .infinite false, _, _ => trivial
  | .infinite false, .finite false n f, _, hy =>
      change AtLeast r (if (false || (finite false n f).isZero) = true then nan else infinite false)
      rw [hy.isZero_eq_false hq]
      trivial
  | .finite false m e, .infinite false, hx, _ =>
      change AtLeast r (if ((finite false m e).isZero || false) = true then nan else infinite false)
      rw [hx.isZero_eq_false hp]
      trivial
  | .finite false m e, .finite false n f, hx, hy =>
      refine round (Nat.mul_pos (ratio_snd_pos m e) (ratio_snd_pos n f)) ?_
      rw [ratio_mul_ratio]
      exact mul_le_mul hx hy hq.le (hp.le.trans hx)

/-- A product is not greater than a value that bounds the product of the bounds. -/
theorem AtMost.mul (hx : AtMost p x) (hy : AtMost q y) (hr : Representable r) (h : p * q ≤ r) :
    AtMost r (x.mul y) := by
  match x, y, hx, hy with
  | .finite false m e, .finite false n f, hx, hy =>
      refine ofRatio_le hr (Nat.mul_pos (ratio_snd_pos m e) (ratio_snd_pos n f)) ?_
      have nonneg : (0 : ℚ) ≤ m * 2 ^ e := by positivity
      rw [ratio_mul_ratio]
      exact (mul_le_mul hx hy (by positivity) (nonneg.trans hx)).trans h

/-- Zero times a value that is not finite is no number. -/
theorem mul_eq_nan (hx : x.isZero = true) (hy : y.isFinite = false) : x.mul y = .nan := by
  match x, y, hx, hy with
  | .finite s 0 e, .nan, _, _ | .finite s 0 e, .infinite t, _, _ => rfl

/-- A product is in range. -/
theorem inRange_mul (x y : Binary64) : InRange (x.mul y) := by
  match x, y with
  | .finite s m e, .finite t n f =>
      exact inRange_ofRatio _ _ (Nat.mul_pos (ratio_snd_pos m e) (ratio_snd_pos n f))
  | .nan, .nan | .nan, .infinite _ | .nan, .finite .. | .infinite _, .nan | .finite .., .nan =>
      trivial
  | .infinite s, .infinite t | .infinite s, .finite .. | .finite .., .infinite t =>
      simp only [Binary64.mul]
      split <;> trivial

/-! ### Sums and comparisons -/

/-- A sum of finite values without a sign is rounded from the sum of their quotients. -/
theorem finite_add_finite (m n : ℕ) (e f : ℤ) :
    (finite false m e).add (finite false n f) =
      ofRatio false ((ratio m e).1 * (ratio n f).2 + (ratio n f).1 * (ratio m e).2)
        ((ratio m e).2 * (ratio n f).2) := by
  simp only [Binary64.add, Bool.false_eq_true, if_false, one_mul, ← Nat.cast_add,
    Int.natCast_eq_zero, Int.natAbs_natCast, Bool.and_self,
    decide_eq_false (not_lt.mpr (Int.natCast_nonneg _))]
  split
  · next none => rw [none, ofRatio, if_pos rfl]
  · rfl

/-- The quotient that a sum of finite values is rounded from. -/
theorem ratio_add_ratio (m n : ℕ) (e f : ℤ) :
    (((ratio m e).1 * (ratio n f).2 + (ratio n f).1 * (ratio m e).2 : ℕ) /
        ((ratio m e).2 * (ratio n f).2 : ℕ) : ℚ) = m * 2 ^ e + n * 2 ^ f := by
  have left : ((ratio m e).2 : ℚ) ≠ 0 := by exact_mod_cast (ratio_snd_pos m e).ne'
  have right : ((ratio n f).2 : ℚ) ≠ 0 := by exact_mod_cast (ratio_snd_pos n f).ne'
  rw [← ratio_div m e, ← ratio_div n f, div_add_div _ _ left right]
  push_cast
  ring

/-- A sum is not less than a value that is at most the sum of the bounds. -/
theorem AtLeast.add (hx : AtLeast p x) (hy : AtLeast q y) (hr : Representable r) (h : r ≤ p + q) :
    AtLeast r (x.add y) := by
  match x, y, hx, hy with
  | .infinite false, .infinite false, _, _ => trivial
  | .infinite false, .finite false n f, _, _ => trivial
  | .finite false m e, .infinite false, _, _ => trivial
  | .finite false m e, .finite false n f, hx, hy =>
      rw [finite_add_finite]
      refine le_ofRatio hr (Nat.mul_pos (ratio_snd_pos m e) (ratio_snd_pos n f)) ?_
      rw [ratio_add_ratio]
      exact h.trans (add_le_add hx hy)

/-- A sum is not greater than a value that bounds the sum of the bounds. -/
theorem AtMost.add (hx : AtMost p x) (hy : AtMost q y) (hr : Representable r) (h : p + q ≤ r) :
    AtMost r (x.add y) := by
  match x, y, hx, hy with
  | .finite false m e, .finite false n f, hx, hy =>
      rw [finite_add_finite]
      refine ofRatio_le hr (Nat.mul_pos (ratio_snd_pos m e) (ratio_snd_pos n f)) ?_
      rw [ratio_add_ratio]
      exact (add_le_add hx hy).trans h

/-- A quotient of values is not greater than a value that bounds the quotient of the bounds. -/
theorem AtMost.div (hx : AtMost p x) (hy : AtLeast q y) (hq : 0 < q) (hr : Representable r)
    (h : p / q ≤ r) : AtMost r (x.div y) := by
  match x, y, hx, hy with
  | .finite false m e, .infinite false, hx, _ =>
      have nonneg : (0 : ℚ) ≤ m * 2 ^ e := by positivity
      change ((0 : ℕ) * 2 ^ minExponent : ℚ) ≤ r
      rw [Nat.cast_zero, zero_mul]
      exact (div_nonneg (nonneg.trans hx) hq.le).trans h
  | .finite false m e, .finite false n f, hx, hy =>
      have notZero : n ≠ 0 := by
        rintro rfl
        cases hy.isZero_eq_false hq
      have pos : 0 < (ratio n f).1 := by
        refine Nat.pos_of_ne_zero fun none => ?_
        have size := ratio_div n f
        rw [none, Nat.cast_zero, zero_div] at size
        exact absurd (size ▸ hy) (not_le.mpr hq)
      simp only [Binary64.div, if_neg notZero]
      refine ofRatio_le hr (Nat.mul_pos (ratio_snd_pos m e) pos) ?_
      rw [Nat.cast_mul, Nat.cast_mul, mul_div_mul_comm, ratio_div, ← inv_div, ratio_div,
        ← div_eq_mul_inv]
      have nonneg : (0 : ℚ) ≤ m * 2 ^ e := by positivity
      exact (div_le_div₀ (nonneg.trans hx) hx hq hy).trans h

/-- The order of finite values without a sign is that of their sizes. -/
theorem ge_iff {m n : ℕ} {e f : ℤ} :
    (finite false m e).ge (finite false n f) = true ↔ (n * 2 ^ f : ℚ) ≤ m * 2 ^ e := by
  have left : (0 : ℚ) < (ratio m e).2 := by exact_mod_cast ratio_snd_pos m e
  have right : (0 : ℚ) < (ratio n f).2 := by exact_mod_cast ratio_snd_pos n f
  rw [← ratio_div m e, ← ratio_div n f, div_le_div_iff₀ right left]
  have order : ((ratio n f).1 * (ratio m e).2 : ℚ) ≤ (ratio m e).1 * (ratio n f).2 ↔
      (((ratio n f).1 * (ratio m e).2 : ℕ) : ℤ) ≤ ((ratio m e).1 * (ratio n f).2 : ℕ) := by
    exact_mod_cast Iff.rfl
  simp only [ge, compare?, Bool.false_eq_true, if_false, one_mul]
  rw [order, ← compare_ge_iff_ge]
  cases compare (((ratio m e).1 * (ratio n f).2 : ℕ) : ℤ) ((ratio n f).1 * (ratio m e).2 : ℕ) <;>
    simp

end Binary64

end PushDelivery.Decimal
