import PushDelivery.Decimal.Shortest
import PushDelivery.Proofs.Decimal.Digits
import PushDelivery.Proofs.Decimal.Sizes

/-!
# The Nearest Value

A quotient is rounded to the value that is nearest to it. This module shows it the other way round,
as reading needs it: every number in the interval around a value is rounded to that value. The
interval reaches halfway to the neighbours of the value, and has its ends if the significand is
even. Below a power of two the neighbour is half as far.

Values have one form each, with as many bits in the significand as the exponent allows. Rounding
gives this form.

## Main definitions

* `Binary64.IsCanonical`: the values in this form.
* `Binary64.Around`: the numbers in the interval around a value.

## Main results

* `Binary64.ofRatio_of_around`: they are rounded to the value.
* `Binary64.isCanonical_ofRatio`, `Binary64.isCanonical_ofDecimal`: what rounding gives.
-/

namespace PushDelivery.Decimal

/-- A quotient between two halves is rounded to the whole number between them, and so are the halves
if that number is even. -/
theorem roundDiv_toEven_eq {r num den : ℕ} (hd : 0 < den) (low : 2 * r * den ≤ 2 * num + den)
    (high : 2 * num ≤ 2 * r * den + den)
    (tie : r % 2 = 0 ∨ 2 * r * den < 2 * num + den ∧ 2 * num < 2 * r * den + den) :
    roundDiv .toEven num den = r := by
  have hdiv : den * (num / den) + num % den = num := Nat.div_add_mod num den
  have hrem := Nat.mod_lt num hd
  -- The floor is the number itself or the one before it.
  have floor : num / den = r ∨ num / den + 1 = r := by
    have le : num / den ≤ r := by
      by_contra more
      have : den * (r + 1) ≤ den * (num / den) := Nat.mul_le_mul_left den (by omega)
      have : den * (num / den) ≤ num := Nat.mul_div_le num den
      nlinarith
    have ge : r ≤ num / den + 1 := by
      by_contra less
      have : den * (num / den + 2) ≤ den * r := Nat.mul_le_mul_left den (by omega)
      nlinarith
    omega
  unfold roundDiv
  dsimp only
  rcases floor with same | next
  · rw [same] at hdiv ⊢
    have half : 2 * (num % den) ≤ den := by nlinarith
    rcases half.lt_or_eq with less | equal
    · rw [if_pos less]
    · have even : r % 2 = 0 := tie.resolve_right fun strict => by nlinarith [strict.2]
      rw [if_neg (by omega), if_neg (by omega), if_pos even]
  · subst next
    have half : den ≤ 2 * (num % den) := by nlinarith
    rcases half.lt_or_eq with less | equal
    · rw [if_neg (by omega), if_pos less]
    · have even : (num / den + 1) % 2 = 0 := tie.resolve_right fun strict => by nlinarith [strict.1]
      rw [if_neg (by omega), if_neg (by omega), if_neg (by omega)]

/-- The size of a decimal, from the number of its digits. -/
theorem decimal_size {digits : ℕ} (h : 0 < digits) (exponent : ℤ) :
    (10 : ℚ) ^ (exponent + (Nat.toDigits 10 digits).length - 1) ≤ digits * 10 ^ exponent ∧
      (digits * 10 ^ exponent : ℚ) < 10 ^ (exponent + (Nat.toDigits 10 digits).length) := by
  have ten : (10 : ℚ) ≠ 0 := by norm_num
  have low : (10 : ℚ) ^ ((Nat.toDigits 10 digits).length - 1) ≤ digits := by
    exact_mod_cast ten_pow_length_le h
  have high : (digits : ℚ) < 10 ^ (Nat.toDigits 10 digits).length := by
    exact_mod_cast lt_ten_pow_length digits
  obtain ⟨k, hk⟩ := Nat.exists_eq_add_of_lt (Nat.length_toDigits_pos (b := 10) (n := digits))
  rw [hk] at low high ⊢
  rw [Nat.zero_add, Nat.add_sub_cancel] at low
  rw [Nat.zero_add] at high ⊢
  constructor
  · rw [Nat.cast_succ, ← add_assoc, add_sub_cancel_right, add_comm, zpow_add₀ ten, zpow_natCast]
    gcongr
  · rw [add_comm exponent, zpow_add₀ ten, zpow_natCast]
    gcongr

namespace Binary64

/-! ### The form of values -/

/-- A value in its form: the significand has all its bits, unless the exponent is the least one. -/
def IsCanonical : Binary64 → Prop
  | .finite _ m e =>
    m < significandBound ∧ minExponent ≤ e ∧ e ≤ maxExponent ∧ (2 ^ 52 ≤ m ∨ e = minExponent)
  | _ => True

/-- A significand that is rounded has all its bits, unless the exponent is the least one. -/
theorem le_rounded_or {num den : ℕ} (hn : 0 < num) (hd : 0 < den) :
    2 ^ 52 ≤ rounded num den ∨ exponentOf num den = minExponent := by
  obtain ⟨least, -, full⟩ := exponentOf_spec hn hd
  rcases least.lt_or_eq with above | same
  · refine .inl (le_roundDiv .toEven ?_ (scaleDown_snd_pos num hd _))
    have bits := full above
    rw [zpow_add₀ two_ne_zero] at bits
    rw [scaleDown_div, le_div_iff₀ (by positivity)]
    exact_mod_cast bits
  · exact .inr same.symm

/-- **Rounding gives values in their form.** -/
theorem isCanonical_ofRatio (negative : Bool) (num : ℕ) {den : ℕ} (hd : 0 < den) :
    (ofRatio negative num den).IsCanonical := by
  rcases Nat.eq_zero_or_pos num with rfl | hn
  · exact ⟨by decide, le_rfl, by decide, .inr rfl⟩
  · have least := (exponentOf_spec hn hd).1
    rw [ofRatio_eq hn, normalize]
    rcases (rounded_le_bound hn hd).lt_or_eq with small | full
    · rw [if_pos small]
      dsimp only
      split
      · trivial
      · exact ⟨small, least, not_lt.mp ‹_›, le_rounded_or hn hd⟩
    · rw [full, if_neg (lt_irrefl _)]
      dsimp only
      split
      · trivial
      · exact ⟨by decide, by omega, not_lt.mp ‹_›, .inl (by decide)⟩

/-- So does reading a decimal. -/
theorem isCanonical_ofDecimal (negative : Bool) (digits : ℕ) (exponent : ℤ) :
    (ofDecimal negative digits exponent).IsCanonical := by
  have zero : (zero negative).IsCanonical := ⟨by decide, le_rfl, by decide, .inr rfl⟩
  unfold ofDecimal
  dsimp only
  split
  · exact zero
  · split
    · trivial
    · split
      · exact zero
      · split
        · exact isCanonical_ofRatio negative _ Nat.one_pos
        · exact isCanonical_ofRatio negative _ (Nat.pow_pos (by decide))

/-! ### The interval around a value -/

/-- The numbers in the interval around a value. -/
def Around (m : ℕ) (e : ℤ) (q : ℚ) : Prop :=
  let low : ℚ := (Shortest.quarters m e).1 * 2 ^ (e - 2)
  let high : ℚ := (Shortest.quarters m e).2.2 * 2 ^ (e - 2)
  if m % 2 = 0 then low ≤ q ∧ q ≤ high else low < q ∧ q < high

/-- The exponent of a quotient is the one that leaves it a significand in form. -/
theorem exponentOf_eq {num den : ℕ} (hn : 0 < num) (hd : 0 < den) {e : ℤ} (least : minExponent ≤ e)
    (fits : (num / den : ℚ) < 2 ^ (53 + e))
    (full : minExponent < e → (2 : ℚ) ^ (52 + e) ≤ num / den) : exponentOf num den = e := by
  obtain ⟨least', fits', full'⟩ := exponentOf_spec hn hd
  have apart {a b : ℤ} (h : a < b) (low : (2 : ℚ) ^ (52 + b) ≤ num / den)
      (high : (num / den : ℚ) < 2 ^ (53 + a)) : False := by
    have := (zpow_lt_zpow_iff_right₀ one_lt_two).mp (low.trans_lt high)
    omega
  rcases lt_trichotomy (exponentOf num den) e with less | same | more
  · exact (apart less (full (least'.trans_lt less)) fits').elim
  · exact same
  · exact (apart more (full' (least.trans_lt more)) fits).elim

/-- The bounds of the interval in quarters of the unit: two on both sides, but one below a power of
two. Odd significands leave out the ends. -/
theorem Around.bounds {m : ℕ} {e : ℤ} {q : ℚ} (h : Around m e q) (pos : m ≠ 0) :
    ∃ below : ℚ, (below = 2 ∧ ¬(m = 2 ^ 52 ∧ minExponent < e) ∨ below = 1 ∧ m = 2 ^ 52) ∧
      (4 * m - below) * 2 ^ (e - 2) ≤ q ∧ q ≤ (4 * m + 2) * 2 ^ (e - 2) ∧
      (m % 2 = 0 ∨ (4 * m - below) * 2 ^ (e - 2) < q ∧ q < (4 * m + 2) * 2 ^ (e - 2)) := by
  have cast {b : ℕ} (hb : b ≤ 2) : ((4 * m - b : ℕ) : ℚ) = 4 * m - b := by
    rw [Nat.cast_sub (by omega)]
    push_cast
    rfl
  have both {low : ℚ} (hlow : ((Shortest.quarters m e).1 : ℚ) = low) :
      low * 2 ^ (e - 2) ≤ q ∧ q ≤ (4 * m + 2) * 2 ^ (e - 2) ∧
        (m % 2 = 0 ∨ low * 2 ^ (e - 2) < q ∧ q < (4 * m + 2) * 2 ^ (e - 2)) := by
    have hhigh : ((Shortest.quarters m e).2.2 : ℚ) = 4 * m + 2 := by
      simp only [Shortest.quarters]
      push_cast
      rfl
    simp only [Around, hlow, hhigh] at h
    split at h
    · exact ⟨h.1, h.2, .inl ‹_›⟩
    · exact ⟨h.1.le, h.2.le, .inr h⟩
  by_cases power : m = 2 ^ 52 ∧ minExponent < e
  · refine ⟨1, .inr ⟨rfl, power.1⟩, both ?_⟩
    simp only [Shortest.quarters, Nat.pow_eq]
    rw [if_pos power, cast (by decide), Nat.cast_one]
  · refine ⟨2, .inl ⟨rfl, power⟩, both ?_⟩
    simp only [Shortest.quarters, Nat.pow_eq]
    rw [if_neg power, cast le_rfl, Nat.cast_ofNat]

/-- A quotient at an exponent is rounded to the whole number that is nearest, by half of the
unit. -/
theorem rounded_eq {num den : ℕ} (hd : 0 < den) {r : ℕ} {e : ℤ} (exponent : exponentOf num den = e)
    (low : (4 * r - 2) * 2 ^ (e - 2) ≤ (num / den : ℚ))
    (high : (num / den : ℚ) ≤ (4 * r + 2) * 2 ^ (e - 2))
    (tie : r % 2 = 0 ∨
      (4 * r - 2) * 2 ^ (e - 2) < (num / den : ℚ) ∧
        (num / den : ℚ) < (4 * r + 2) * 2 ^ (e - 2)) :
    rounded num den = r := by
  have scaled := scaleDown_div num den e
  have hd' := scaleDown_snd_pos num hd e
  rw [rounded, exponent]
  generalize scaleDown num den e = s at scaled hd'
  obtain ⟨a, b⟩ := s
  have hb : (0 : ℚ) < b := by exact_mod_cast hd'
  have hu : (0 : ℚ) < 2 ^ (e - 2) := by positivity
  have hquotient : (num / den : ℚ) = 4 * a / b * 2 ^ (e - 2) := by
    have hunit : (2 : ℚ) ^ e = 4 * 2 ^ (e - 2) := by
      rw [show (4 : ℚ) = 2 ^ (2 : ℤ) by norm_num, ← zpow_add₀ two_ne_zero]
      congr 1
      ring
    rw [hunit, eq_div_iff (by positivity)] at scaled
    rw [← scaled]
    ring
  rw [hquotient] at low high tie
  rw [mul_le_mul_iff_left₀ hu, le_div_iff₀ hb] at low
  rw [mul_le_mul_iff_left₀ hu, div_le_iff₀ hb] at high
  rw [mul_lt_mul_iff_left₀ hu, lt_div_iff₀ hb, mul_lt_mul_iff_left₀ hu, div_lt_iff₀ hb] at tie
  refine roundDiv_toEven_eq hd' ?_ ?_ (tie.imp_right fun strict => ⟨?_, ?_⟩)
  · have : (2 * r * b : ℚ) ≤ 2 * a + b := by linarith
    exact_mod_cast this
  · have : (2 * a : ℚ) ≤ 2 * r * b + b := by linarith
    exact_mod_cast this
  · have : (2 * r * b : ℚ) < 2 * a + b := by linarith [strict.1]
    exact_mod_cast this
  · have : (2 * a : ℚ) < 2 * r * b + b := by linarith [strict.2]
    exact_mod_cast this

/-- Multiples of a power of two, in quarters of the unit. -/
theorem two_zpow_quarters (k e : ℤ) : (2 : ℚ) ^ (k + e) = 2 ^ (k + 2) * 2 ^ (e - 2) := by
  rw [← zpow_add₀ two_ne_zero]
  congr 1
  ring

/-- A quotient that is less than a power of two by a quarter of the unit or less has a finer unit,
and is rounded up to that power. -/
theorem ofRatio_below_power (negative : Bool) {num den : ℕ} (hn : 0 < num) (hd : 0 < den) {e : ℤ}
    (above : minExponent < e) (greatest : e ≤ maxExponent)
    (low : (2 ^ 54 - 1) * 2 ^ (e - 2) ≤ (num / den : ℚ))
    (high : (num / den : ℚ) < 2 ^ 54 * 2 ^ (e - 2)) :
    ofRatio negative num den = .finite negative (2 ^ 52) e := by
  have finer : (2 : ℚ) ^ (e - 2) = 2 * 2 ^ (e - 1 - 2) := by
    rw [← zpow_one_add₀ two_ne_zero]
    congr 1
    ring
  have hu : (0 : ℚ) < 2 ^ (e - 1 - 2) := by positivity
  rw [finer] at low high
  have exponent : exponentOf num den = e - 1 := by
    refine exponentOf_eq hn hd (by omega) ?_ fun _ => ?_ <;> rw [two_zpow_quarters] <;> norm_num
    · linarith
    · linarith
  have hrounded : rounded num den = significandBound := by
    refine rounded_eq hd exponent ?_ ?_ (.inl (by decide)) <;>
      rw [show significandBound = 2 ^ 53 from rfl] <;> push_cast
    · linarith
    · linarith
  rw [ofRatio_eq hn, hrounded, exponent, normalize, if_neg (lt_irrefl _), sub_add_cancel]
  exact if_neg (not_lt.mpr greatest)

/-- **The nearest value.** A quotient in the interval around a value is rounded to it. -/
theorem ofRatio_of_around (negative : Bool) {m : ℕ} {e : ℤ} (pos : m ≠ 0)
    (form : IsCanonical (.finite negative m e)) {num den : ℕ} (hd : 0 < den)
    (h : Around m e (num / den)) : ofRatio negative num den = .finite negative m e := by
  obtain ⟨small, least, greatest, bits⟩ := form
  obtain ⟨below, hbelow, low, high, tie⟩ := h.bounds pos
  have hm : (m : ℚ) + 1 ≤ 2 ^ 53 := by exact_mod_cast small
  have hone : (1 : ℚ) ≤ m := by exact_mod_cast Nat.one_le_iff_ne_zero.mpr pos
  have hu : (0 : ℚ) < 2 ^ (e - 2) := by positivity
  have wide : below ≤ 2 := by rcases hbelow with ⟨rfl, -⟩ | ⟨rfl, -⟩ <;> norm_num
  have hn : 0 < num := by
    have hq : (0 : ℚ) < num / den := lt_of_lt_of_le (mul_pos (by linarith) hu) low
    by_contra none
    rw [Nat.eq_zero_of_not_pos none, Nat.cast_zero, zero_div] at hq
    exact lt_irrefl _ hq
  by_cases full : minExponent < e → (2 : ℚ) ^ (52 + e) ≤ num / den
  · -- The quotient has the exponent of the value.
    have fits : (num / den : ℚ) < 2 ^ (53 + e) := by
      rw [two_zpow_quarters]
      refine high.trans_lt (mul_lt_mul_of_pos_right ?_ hu)
      norm_num
      linarith
    have exponent := exponentOf_eq hn hd least fits full
    have widened : (4 * m - 2) * 2 ^ (e - 2) ≤ (4 * m - below) * 2 ^ (e - 2) :=
      mul_le_mul_of_nonneg_right (by linarith) hu.le
    have hrounded : rounded num den = m :=
      rounded_eq hd exponent (widened.trans low) high
        (tie.imp_right fun strict => ⟨widened.trans_lt strict.1, strict.2⟩)
    rw [ofRatio_eq hn, hrounded, exponent, normalize, if_pos small]
    exact if_neg (not_lt.mpr greatest)
  · -- It is less than the least significand in form, so that is what the value has.
    rw [Classical.not_imp, not_le, two_zpow_quarters] at full
    obtain ⟨above, less⟩ := full
    norm_num at less
    have hpower : m = 2 ^ 52 := by
      refine le_antisymm ?_ (bits.resolve_right above.ne')
      have part := (mul_lt_mul_iff_left₀ hu).mp (low.trans_lt less)
      have : (m : ℚ) < (2 ^ 52 + 1 : ℕ) := by
        push_cast
        linarith
      exact Nat.lt_succ_iff.mp (by exact_mod_cast this)
    obtain ⟨-, off⟩ | ⟨rfl, -⟩ := hbelow
    · exact absurd ⟨hpower, above⟩ off
    · subst hpower
      refine ofRatio_below_power negative hn hd above greatest (le_trans (le_of_eq ?_) low) ?_
      · norm_num
      · norm_num
        exact less

/-! ### Decimals -/

/-- A number within a quarter of the unit is in the interval. -/
theorem around_of_near {m : ℕ} {e : ℤ} {q : ℚ} (pos : m ≠ 0)
    (low : (4 * m - 1) * 2 ^ (e - 2) < q) (high : q < (4 * m + 1) * 2 ^ (e - 2)) :
    Around m e q := by
  have hu : (0 : ℚ) < 2 ^ (e - 2) := by positivity
  have below : ((Shortest.quarters m e).1 : ℚ) ≤ 4 * m - 1 := by
    have : (Shortest.quarters m e).1 + 1 ≤ 4 * m := by
      simp only [Shortest.quarters]
      split <;> omega
    have : (((Shortest.quarters m e).1 + 1 : ℕ) : ℚ) ≤ (4 * m : ℕ) := by exact_mod_cast this
    push_cast at this
    linarith
  have beyond : (4 * m + 1 : ℚ) ≤ (Shortest.quarters m e).2.2 := by
    simp only [Shortest.quarters]
    push_cast
    linarith
  have low' := (mul_le_mul_of_nonneg_right below hu.le).trans_lt low
  have high' := high.trans_le (mul_le_mul_of_nonneg_right beyond hu.le)
  unfold Around
  dsimp only
  split
  · exact ⟨low'.le, high'.le⟩
  · exact ⟨low', high'⟩

/-- Numbers in the interval around a value are no less than half of the least value that is not
zero, and no greater than all values. -/
theorem Around.size {negative : Bool} {m : ℕ} {e : ℤ} {q : ℚ} (pos : m ≠ 0)
    (form : IsCanonical (.finite negative m e)) (h : Around m e q) :
    (2 : ℚ) ^ (-1075 : ℤ) ≤ q ∧ q ≤ 2 ^ (1024 : ℤ) := by
  obtain ⟨small, least, greatest, -⟩ := form
  obtain ⟨below, hbelow, low, high, -⟩ := h.bounds pos
  have hm : (m : ℚ) + 1 ≤ 2 ^ 53 := by exact_mod_cast small
  have hone : (1 : ℚ) ≤ m := by exact_mod_cast Nat.one_le_iff_ne_zero.mpr pos
  have wide : below ≤ 2 := by rcases hbelow with ⟨rfl, -⟩ | ⟨rfl, -⟩ <;> norm_num
  simp only [minExponent] at least
  simp only [maxExponent] at greatest
  constructor
  · calc (2 : ℚ) ^ (-1075 : ℤ) = 2 * 2 ^ (-1076 : ℤ) := by rw [← zpow_one_add₀ two_ne_zero]; rfl
      _ ≤ 2 * 2 ^ (e - 2) := by
        gcongr
        · exact one_le_two
        · omega
      _ ≤ (4 * m - below) * 2 ^ (e - 2) := by
        gcongr
        linarith
      _ ≤ q := low
  · calc q ≤ (4 * m + 2) * 2 ^ (e - 2) := high
      _ ≤ 2 ^ (55 : ℤ) * 2 ^ (969 : ℤ) := by
        gcongr
        · norm_num
          linarith
        · exact one_le_two
        · omega
      _ = 2 ^ (1024 : ℤ) := by rw [← zpow_add₀ two_ne_zero]; rfl

/-- **Reading a decimal** in the interval around a value gives that value. -/
theorem ofDecimal_of_around (negative : Bool) {m : ℕ} {e : ℤ} (pos : m ≠ 0)
    (form : IsCanonical (.finite negative m e)) {digits : ℕ} {exponent : ℤ}
    (h : Around m e (digits * 10 ^ exponent)) :
    ofDecimal negative digits exponent = .finite negative m e := by
  obtain ⟨low, high⟩ := h.size pos form
  have hdigits : digits ≠ 0 := by
    rintro rfl
    rw [Nat.cast_zero, zero_mul] at low
    exact absurd low (not_le.mpr (by positivity))
  obtain ⟨least, greatest⟩ := decimal_size (Nat.pos_of_ne_zero hdigits) exponent
  have mono {a b : ℤ} (hab : a ≤ b) : (10 : ℚ) ^ a ≤ 10 ^ b :=
    zpow_le_zpow_right₀ (by norm_num) hab
  -- Ten is more than eight, so that far powers of ten are beyond all values.
  have eight : (2 : ℚ) ^ (1200 : ℤ) ≤ 10 ^ (400 : ℤ) := by
    rw [show (1200 : ℤ) = 3 * 400 from rfl, zpow_mul]
    exact zpow_le_zpow_left₀ (by decide) (by positivity) (by norm_num)
  have eighth : (10 : ℚ) ^ (-400 : ℤ) ≤ 2 ^ (-1200 : ℤ) := by
    rw [zpow_neg, zpow_neg]
    exact inv_anti₀ (by positivity) eight
  have within : ¬400 < exponent + (Nat.toDigits 10 digits).length := fun beyond => by
    have far := (mono (show (400 : ℤ) ≤ _ by omega)).trans least
    have := (zpow_le_zpow_iff_right₀ one_lt_two).mp ((eight.trans far).trans high)
    omega
  have apart : ¬exponent + (Nat.toDigits 10 digits).length < -400 := fun below => by
    have near := greatest.trans_le (mono (show _ ≤ (-400 : ℤ) by omega))
    have := (zpow_lt_zpow_iff_right₀ one_lt_two).mp (low.trans_lt (near.trans_le eighth))
    omega
  unfold ofDecimal
  dsimp only
  rw [if_neg hdigits, if_neg within, if_neg apart]
  split
  · rename_i whole
    obtain ⟨k, rfl⟩ := Int.eq_ofNat_of_zero_le whole
    refine ofRatio_of_around negative pos form Nat.one_pos ?_
    simpa using h
  · rename_i part
    obtain ⟨k, rfl⟩ : ∃ k : ℕ, exponent = -k := ⟨(-exponent).toNat, by omega⟩
    refine ofRatio_of_around negative pos form (Nat.pow_pos (by decide)) ?_
    simpa [div_eq_mul_inv] using h

end Binary64

end PushDelivery.Decimal
