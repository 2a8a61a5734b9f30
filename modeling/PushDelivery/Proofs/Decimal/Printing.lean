import Mathlib.Data.Nat.Cast.Order.Field
import PushDelivery.Proofs.Decimal.Literals
import PushDelivery.Proofs.Decimal.Nearest

/-!
# Values, printed and read again

A value is printed as the shortest decimal in the interval around it. All decimals there are read as
that value, so it comes back. A search that has tried all grids ends on one so fine that whatever is
next to the value is in its interval.

A decimal is written out in one way, which is plain: digits around a point, or without one, and no
zero that says nothing.

## Main definitions

* `IsPlain`: digits around a point without needless zeros, after a minus sign or none.

## Main results

* `Shortest.decimal_spec`: the shortest decimal is in the interval around the value, and has no zero
  at its end.
* `Shortest.spells_positional`: it is written out plainly.
* `Binary64.unsigned?_positional`: it is read as the value.
-/

namespace PushDelivery.Decimal

/-! ### Plain texts -/

/-- The digits of a number, and others behind a point if there are any. -/
def written (n : Nat) (fraction : List Char) : List Char :=
  Nat.toDigits 10 n ++ if fraction = [] then [] else '.' :: fraction

/-- Digits behind a point, without a zero at their end. -/
structure IsFraction (cs : List Char) : Prop where
  digits : ∀ c ∈ cs, c.isDigit = true
  stripped : cs.getLast? ≠ some '0'

/-- Digits around a point, or without one. A number in digits has no needless zero in front. -/
def IsUnsignedPlain (cs : List Char) : Prop :=
  ∃ (n : Nat) (fraction : List Char), IsFraction fraction ∧ cs = written n fraction

/-- The same, after a minus sign or none. -/
def IsPlain (cs : List Char) : Prop :=
  ∃ unsigned, IsUnsignedPlain unsigned ∧ (cs = unsigned ∨ cs = '-' :: unsigned)

/-- No digits are a fraction, which is not written. -/
theorem IsFraction.nil : IsFraction [] := ⟨fun _ h => absurd h List.not_mem_nil, by decide⟩

/-- A plain text begins with a digit. -/
theorem exists_written_eq_cons (n : Nat) (fraction : List Char) :
    ∃ c cs, written n fraction = c :: cs ∧ c.isDigit = true := by
  obtain ⟨c, cs, hcs, hc⟩ := exists_toDigits_eq_cons n
  exact ⟨c, _, by rw [written, hcs, List.cons_append], hc⟩

/-- Without a point, a plain text is read as a whole number. -/
theorem natural?_written_nil (n : Nat) : natural? (written n []) = some n := by
  rw [written, if_pos rfl, List.append_nil, natural?_toDigits]

/-- With a point it is not. -/
theorem natural?_written {fraction : List Char} (h : fraction ≠ []) (n : Nat) :
    natural? (written n fraction) = none := by
  refine if_neg fun digits => ?_
  have := List.all_eq_true.mp digits.2 '.' (by simp [written, h])
  exact absurd this (by decide)

/-- A plain text begins with a digit or a minus sign. -/
theorem IsPlain.exists_eq_cons {cs : List Char} (h : IsPlain cs) :
    ∃ c rest, cs = c :: rest ∧ (c = '-' ∨ c.isDigit = true) := by
  obtain ⟨unsigned, ⟨n, fraction, -, rfl⟩, rfl | rfl⟩ := h
  · obtain ⟨c, rest, hcs, hc⟩ := exists_written_eq_cons n fraction
    exact ⟨c, rest, hcs, .inr hc⟩
  · exact ⟨'-', _, rfl, .inl rfl⟩

/-- An integer is written plainly. -/
theorem isPlain_writeInteger (i : Int) : IsPlain (writeInteger i) := by
  have digits (n : Nat) : IsUnsignedPlain (Nat.toDigits 10 n) :=
    ⟨n, [], .nil, (List.append_nil _).symm⟩
  cases i with
  | ofNat n => exact ⟨_, digits n, .inl rfl⟩
  | negSucc n => exact ⟨_, digits (n + 1), .inr rfl⟩

/-- **A plain text** that is read as an integer is how that integer is written, unless it is zero
with a sign. -/
theorem writeInteger_of_integer? {cs : List Char} (plain : IsPlain cs) {i : Int}
    (h : integer? cs = some i) (sign : cs ≠ ['-', '0']) : writeInteger i = cs := by
  obtain ⟨unsigned, ⟨n, fraction, -, rfl⟩, rfl | rfl⟩ := plain
  · obtain ⟨c, rest, hcs, hc⟩ := exists_written_eq_cons n fraction
    rw [hcs, integer?_cons hc, ← hcs] at h
    by_cases none : fraction = []
    · subst none
      rw [natural?_written_nil] at h
      rw [← Option.some.inj h]
      exact (List.append_nil _).symm
    · rw [natural?_written none] at h
      cases h
  · change (natural? (written n fraction)).map (fun n => -(n : Int)) = some i at h
    by_cases none : fraction = []
    · subst none
      rw [natural?_written_nil] at h
      rw [← Option.some.inj h]
      cases n with
      | zero => exact absurd rfl sign
      | succ n => exact congrArg ('-' :: ·) (List.append_nil _).symm
    · rw [natural?_written none] at h
      cases h

/-- A decimal is read from a plain text. -/
theorem Binary64.decimal?_written (negative : Bool) (n : Nat) {fraction : List Char}
    (h : ∀ c ∈ fraction, c.isDigit = true) :
    decimal? negative (written n fraction) =
      some (ofDecimal negative (Nat.ofDigitChars 10 (Nat.toDigits 10 n ++ fraction) 0)
        (-(fraction.length : Int))) := by
  have digits : ∀ c ∈ Nat.toDigits 10 n, c.isDigit = true := fun c hc => isDigit_of_mem_toDigits hc
  have hne : Nat.toDigits 10 n ≠ [] := Nat.toDigits_ne_nil
  unfold decimal?
  by_cases none : fraction = []
  · subst none
    have taken : (written n []).takeWhile Char.isDigit = Nat.toDigits 10 n := by
      rw [written, if_pos rfl, List.append_nil, List.takeWhile_eq_self_iff.mpr digits]
    have dropped : (written n []).dropWhile Char.isDigit = [] := by
      rw [written, if_pos rfl, List.append_nil, List.dropWhile_eq_nil_iff.mpr digits]
    simp [taken, dropped, literalExponent?, hne]
  · have taken : (written n fraction).takeWhile Char.isDigit = Nat.toDigits 10 n := by
      rw [written, if_neg none, List.takeWhile_append_of_pos digits]
      simp
    have dropped : (written n fraction).dropWhile Char.isDigit = '.' :: fraction := by
      rw [written, if_neg none, List.dropWhile_append_of_pos digits]
      simp
    simp [taken, dropped, literalExponent?, hne, List.takeWhile_eq_self_iff.mpr h,
      List.dropWhile_eq_nil_iff.mpr h]

namespace Shortest

/-! ### Decimals, written out -/

/-- A decimal that is printed: without zeros at its end, unless it is zero. -/
def IsStripped (d : Digits) : Prop := d.digits % 10 ≠ 0 ∨ d = ⟨0, 0⟩

/-- A plain text that is read as the value of a decimal. -/
def Spells (cs : List Char) (d : Digits) : Prop :=
  ∃ (n : Nat) (fraction : List Char), IsFraction fraction ∧ cs = written n fraction ∧
    (Nat.ofDigitChars 10 (Nat.toDigits 10 n ++ fraction) 0 * 10 ^ (-(fraction.length : ℤ)) : ℚ) =
      d.digits * 10 ^ d.exponent

/-- A text of zeros has no other characters. -/
theorem toList_zeros (n : Nat) : (zeros n).toList = List.replicate n '0' := String.toList_ofList

/-- A whole number has zeros behind its digits, and no point. -/
theorem spells_whole {digits : Nat} (h : digits ≠ 0) (k : Nat) :
    Spells (positional "" ⟨digits, k⟩).toList ⟨digits, k⟩ := by
  refine ⟨digits * 10 ^ k, [], .nil, ?_, ?_⟩
  · rw [written, toDigits_mul_ten_pow (Nat.pos_of_ne_zero h)]
    simp [positional, toList_zeros, h]
  · simp

/-- With fewer places than digits, the point is among the digits. -/
theorem spells_among {digits k : Nat} (strip : digits % 10 ≠ 0) (part : 0 < k)
    (among : k < (Nat.toDigits 10 digits).length) :
    Spells (positional "" ⟨digits, -k⟩).toList ⟨digits, -k⟩ := by
  have hfraction : (Nat.toDigits 10 digits).drop ((Nat.toDigits 10 digits).length - k) ≠ [] := by
    rw [ne_eq, List.drop_eq_nil_iff]
    omega
  refine ⟨digits / 10 ^ k, (Nat.toDigits 10 digits).drop ((Nat.toDigits 10 digits).length - k),
    ⟨fun c hc => isDigit_of_mem_toDigits (List.mem_of_mem_drop hc), ?_⟩, ?_, ?_⟩
  · rw [List.getLast?_drop, if_neg (by omega)]
    exact getLast?_toDigits_ne strip
  · rw [written, if_neg hfraction, ← take_toDigits among]
    simp [positional, among, part.ne']
  · rw [← take_toDigits among, List.take_append_drop, Nat.ofDigitChars_ten_toDigits,
      List.length_drop, Nat.sub_sub_self among.le]

/-- With as many places or more, it is in front of them, with zeros between. -/
theorem spells_front {digits k : Nat} (strip : digits % 10 ≠ 0)
    (front : (Nat.toDigits 10 digits).length ≤ k) :
    Spells (positional "" ⟨digits, -k⟩).toList ⟨digits, -k⟩ := by
  have part : k ≠ 0 := (Nat.length_toDigits_pos.trans_le front).ne'
  have hlength : (List.replicate (k - (Nat.toDigits 10 digits).length) '0' ++
      Nat.toDigits 10 digits).length = k := by
    rw [List.length_append, List.length_replicate, Nat.sub_add_cancel front]
  refine ⟨0, List.replicate (k - (Nat.toDigits 10 digits).length) '0' ++ Nat.toDigits 10 digits,
    ⟨?_, ?_⟩, ?_, ?_⟩
  · refine List.forall_mem_append.mpr ⟨fun c hc => ?_, fun c hc => isDigit_of_mem_toDigits hc⟩
    rw [List.eq_of_mem_replicate hc]
    rfl
  · rw [List.getLast?_append, getLast?_toDigits, Option.some_or, ← getLast?_toDigits]
    exact getLast?_toDigits_ne strip
  · simp [written, positional, toList_zeros, part, not_lt.mpr front]
  · rw [hlength, ← List.append_assoc, Nat.ofDigitChars_append, Nat.ofDigitChars_append,
      Nat.toDigits_zero, ← List.replicate_one, Nat.ofDigitChars_replicate_zero,
      Nat.ofDigitChars_replicate_zero, Nat.mul_zero, Nat.ofDigitChars_ten_toDigits]

/-- **Written out**, a decimal is a plain text that is read as its value. -/
theorem spells_positional {d : Digits} (h : IsStripped d) : Spells (positional "" d).toList d := by
  rcases h with strip | rfl
  · obtain ⟨digits, exponent⟩ := d
    rcases le_or_gt 0 exponent with whole | part
    · obtain ⟨k, rfl⟩ := Int.eq_ofNat_of_zero_le whole
      have hne : digits ≠ 0 := by
        rintro rfl
        exact strip rfl
      exact spells_whole hne k
    · obtain ⟨k, rfl⟩ : ∃ k : ℕ, exponent = -k := ⟨(-exponent).toNat, by omega⟩
      rcases Nat.lt_or_ge k (Nat.toDigits 10 digits).length with among | front
      · exact spells_among strip (by omega) among
      · exact spells_front strip front
  · have value : Nat.ofDigitChars 10 (Nat.toDigits 10 0 ++ []) 0 = 0 := rfl
    refine ⟨0, [], .nil, rfl, ?_⟩
    rw [value]
    simp

/-! ### The shortest decimal -/

theorem timesTen_snd_pos (num : ℕ) {den : ℕ} (hd : 0 < den) (k : ℤ) :
    0 < (timesTen num den k).2 := by
  unfold timesTen
  split
  · exact hd
  · exact Nat.mul_pos hd (Nat.pow_pos (by decide))

/-- Scaling multiplies by a power of ten. -/
theorem timesTen_div (num den : ℕ) (k : ℤ) :
    ((timesTen num den k).1 / (timesTen num den k).2 : ℚ) = num / den * 10 ^ k := by
  unfold timesTen
  split
  · next nonneg =>
      obtain ⟨n, rfl⟩ := Int.eq_ofNat_of_zero_le nonneg
      simp [mul_div_right_comm]
  · next negative =>
      obtain ⟨n, rfl⟩ : ∃ n : ℕ, k = -n := ⟨(-k).toNat, by omega⟩
      simp [div_eq_mul_inv, mul_assoc, mul_comm]

/-- A decimal reads back if it is in the interval around the value. -/
theorem readsBack_iff (m : ℕ) (e : ℤ) (digits : ℕ) (k : ℤ) :
    readsBack m e digits k = true ↔ Binary64.Around m e (digits * 10 ^ k) := by
  have hunit := Binary64.ratio_div 1 (e - 2)
  have hpoint := timesTen_div digits 1 k
  have hunit' : (0 : ℚ) < (Binary64.ratio 1 (e - 2)).2 := by
    exact_mod_cast Binary64.ratio_snd_pos 1 (e - 2)
  have hpoint' : (0 : ℚ) < (timesTen digits 1 k).2 := by
    exact_mod_cast timesTen_snd_pos digits Nat.one_pos k
  rw [Nat.cast_one, one_mul] at hunit
  rw [Nat.cast_one, div_one] at hpoint
  unfold readsBack Binary64.Around
  dsimp only
  rw [← hunit, ← hpoint]
  generalize Binary64.ratio 1 (e - 2) = u at hunit'
  generalize timesTen digits 1 k = p at hpoint'
  obtain ⟨u₁, u₂⟩ := u
  obtain ⟨p₁, p₂⟩ := p
  dsimp only at hunit' hpoint' ⊢
  simp only [mul_div_assoc', div_le_div_iff₀ hunit' hpoint', div_le_div_iff₀ hpoint' hunit',
    div_lt_div_iff₀ hunit' hpoint', div_lt_div_iff₀ hpoint' hunit']
  norm_cast
  split <;> simp

/-- The leading power of ten is no greater than the quotient. -/
theorem leadingPower_le {num den : ℕ} (hn : 0 < num) (hd : 0 < den) :
    (10 : ℚ) ^ leadingPower num den ≤ num / den := by
  have ten : (10 : ℚ) ≠ 0 := by norm_num
  have hden : (0 : ℚ) < den := by exact_mod_cast hd
  unfold leadingPower
  dsimp only
  split
  · rename_i le
    have value := timesTen_div num den
      (-(((Nat.toDigits 10 num).length : ℤ) - (Nat.toDigits 10 den).length))
    have one : (1 : ℚ) ≤ num / den *
        10 ^ (-(((Nat.toDigits 10 num).length : ℤ) - (Nat.toDigits 10 den).length)) := by
      rw [← value, one_le_div₀ (by exact_mod_cast timesTen_snd_pos num hd _)]
      exact_mod_cast le
    rwa [zpow_neg, ← div_eq_mul_inv, one_le_div₀ (by positivity)] at one
  · have low : (10 : ℚ) ^ (((Nat.toDigits 10 num).length : ℤ) - 1) ≤ num := by
      have := (decimal_size hn 0).1
      simpa using this
    have high : (den : ℚ) ≤ 10 ^ ((Nat.toDigits 10 den).length : ℤ) := by
      exact_mod_cast (lt_ten_pow_length den).le
    rw [le_div_iff₀ hden, sub_right_comm, zpow_sub₀ ten, div_mul_eq_mul_div,
      div_le_iff₀ (by positivity)]
    gcongr

/-- Each grid has two neighbours of the value, and the search goes on if neither reads back. -/
theorem search_succ (ties : Ties) (m : Nat) (e top : Int) (grids tried : Nat) :
    ∃ nearest other k, search ties m e top (grids + 1) tried =
      if readsBack m e nearest k then ⟨nearest, k⟩
      else if readsBack m e other k then ⟨other, k⟩
      else search ties m e top grids (tried + 1) :=
  ⟨_, _, _, rfl⟩

/-- A rounded quotient is no more than one away from the quotient. -/
theorem roundDiv_near (ties : Ties) (num : ℕ) {den : ℕ} (hd : 0 < den) :
    (num / den : ℚ) - 1 ≤ roundDiv ties num den ∧ (roundDiv ties num den : ℚ) ≤ num / den + 1 := by
  have hden : (0 : ℚ) < den := by exact_mod_cast hd
  have low : ((num / den : ℕ) : ℚ) ≤ num / den := Nat.cast_div_le
  have high : (num / den : ℚ) < (num / den : ℕ) + 1 := by
    rw [div_lt_iff₀' hden]
    exact_mod_cast Nat.lt_mul_div_succ num hd
  rcases roundDiv_eq_or ties num den with same | next
  · rw [same]
    constructor <;> linarith
  · rw [next, Nat.cast_succ]
    constructor <;> linarith

/-- A search that has tried all grids takes a neighbour of the value. -/
theorem search_zero (ties : Ties) (m : ℕ) (e top : ℤ) (tried : ℕ) :
    ∃ r : ℕ, search ties m e top 0 tried = ⟨r, top - tried⟩ ∧
      m * 2 ^ e - 10 ^ (top - tried) ≤ (r * 10 ^ (top - tried) : ℚ) ∧
      (r * 10 ^ (top - tried) : ℚ) ≤ m * 2 ^ e + 10 ^ (top - tried) := by
  have grid : (0 : ℚ) < 10 ^ (top - tried) := by positivity
  have value := timesTen_div (Binary64.ratio m e).1 (Binary64.ratio m e).2 (-(top - tried))
  rw [Binary64.ratio_div, zpow_neg, ← div_eq_mul_inv] at value
  obtain ⟨low, high⟩ := roundDiv_near ties
    (timesTen (Binary64.ratio m e).1 (Binary64.ratio m e).2 (-(top - tried))).1
    (timesTen_snd_pos (Binary64.ratio m e).1 (Binary64.ratio_snd_pos m e) (-(top - tried)))
  rw [value] at low high
  refine ⟨_, rfl, ?_, ?_⟩
  · have := (div_le_iff₀ grid).mp (sub_le_iff_le_add.mp low)
    linarith
  · have := (le_div_iff₀ grid).mp (sub_le_iff_le_add.mpr high)
    linarith

/-- On the last grid, neighbours of the value are in its interval. -/
theorem around_last {m : ℕ} (pos : m ≠ 0) (small : m < Binary64.significandBound) (ties : Ties)
    (e : ℤ) {top : ℤ} (leading : (10 : ℚ) ^ top ≤ m * 2 ^ e) :
    Binary64.Around m e ((search ties m e top 0 17).digits *
      10 ^ (search ties m e top 0 17).exponent) := by
  have hm : (m : ℚ) + 1 ≤ 2 ^ 53 := by exact_mod_cast small
  have hunit : (m * 2 ^ e : ℚ) = 4 * m * 2 ^ (e - 2) := by
    have := Binary64.two_zpow_quarters 0 e
    norm_num at this
    rw [this]
    ring
  have hgrid : (10 : ℚ) ^ (top - (17 : ℕ)) < 2 ^ (e - 2) := by
    rw [zpow_sub₀ (by norm_num), div_lt_iff₀ (by positivity)]
    calc (10 : ℚ) ^ top ≤ 4 * m * 2 ^ (e - 2) := hunit ▸ leading
      _ < 10 ^ ((17 : ℕ) : ℤ) * 2 ^ (e - 2) := by
        gcongr
        norm_num
        linarith
      _ = 2 ^ (e - 2) * 10 ^ ((17 : ℕ) : ℤ) := mul_comm _ _
  obtain ⟨r, hsearch, low, high⟩ := search_zero ties m e top 17
  rw [hsearch]
  rw [hunit] at low high
  exact Binary64.around_of_near pos (by linarith) (by linarith)

/-- **What is found** is in the interval around the value. -/
theorem search_around {m : ℕ} (pos : m ≠ 0) (small : m < Binary64.significandBound) (ties : Ties)
    (e : ℤ) {top : ℤ} (leading : (10 : ℚ) ^ top ≤ m * 2 ^ e) (grids tried : ℕ)
    (far : grids + tried = 17) :
    Binary64.Around m e ((search ties m e top grids tried).digits *
      10 ^ (search ties m e top grids tried).exponent) := by
  induction grids generalizing tried with
  | zero =>
      obtain rfl : tried = 17 := by omega
      exact around_last pos small ties e leading
  | succ grids ih =>
      obtain ⟨nearest, other, k, hsearch⟩ := search_succ ties m e top grids tried
      rw [hsearch]
      split
      · rename_i back
        exact (readsBack_iff m e nearest k).mp back
      · split
        · rename_i back
          exact (readsBack_iff m e other k).mp back
        · exact ih (tried + 1) (by omega)

/-- Zeros are stripped by powers of ten. -/
theorem strip_value (digits : ℕ) (exponent : ℤ) :
    ((Digits.strip digits exponent).digits * 10 ^ (Digits.strip digits exponent).exponent : ℚ) =
      digits * 10 ^ exponent := by
  induction digits, exponent using Digits.strip.induct with
  | case1 digits exponent more ih =>
      have tens : (digits : ℚ) = (digits / 10 : ℕ) * 10 := by
        exact_mod_cast (Nat.div_mul_cancel (Nat.dvd_of_mod_eq_zero more.2)).symm
      rw [Digits.strip, dif_pos more, ih, zpow_add_one₀ (by norm_num)]
      rw [tens]
      ring
  | case2 digits exponent done => rw [Digits.strip, dif_neg done]

/-- Without zeros at its end, a number that is not zero ends in another digit. -/
theorem strip_digits {digits : Nat} (h : digits ≠ 0) (exponent : Int) :
    (Digits.strip digits exponent).digits % 10 ≠ 0 := by
  induction digits, exponent using Digits.strip.induct with
  | case1 digits exponent more ih =>
      rw [Digits.strip, dif_pos more]
      exact ih (by omega)
  | case2 digits exponent done =>
      rw [Digits.strip, dif_neg done]
      exact fun hzero => done ⟨h, hzero⟩

/-- **The shortest decimal** of a value that is not zero is in its interval, and has no zero at its
end. -/
theorem decimal_spec {negative : Bool} {m : ℕ} {e : ℤ} (pos : m ≠ 0)
    (form : Binary64.IsCanonical (.finite negative m e)) (ties : Ties) :
    Binary64.Around m e ((decimal ties m e).digits * 10 ^ (decimal ties m e).exponent) ∧
      (decimal ties m e).digits % 10 ≠ 0 := by
  have hratio : (0 : ℚ) < (Binary64.ratio m e).1 / (Binary64.ratio m e).2 := by
    rw [Binary64.ratio_div]
    have : (0 : ℚ) < m := by exact_mod_cast Nat.pos_of_ne_zero pos
    positivity
  have hnum : 0 < (Binary64.ratio m e).1 := by
    by_contra none
    rw [Nat.eq_zero_of_not_pos none, Nat.cast_zero, zero_div] at hratio
    exact lt_irrefl _ hratio
  have leading := leadingPower_le hnum (Binary64.ratio_snd_pos m e)
  rw [Binary64.ratio_div] at leading
  have around := search_around pos form.1 ties e leading 17 0 rfl
  unfold decimal
  rw [if_neg pos]
  refine ⟨?_, strip_digits (fun zero => ?_) _⟩
  · dsimp only
    rwa [strip_value]
  · have size := (around.size pos form).1
    rw [zero, Nat.cast_zero, zero_mul] at size
    exact absurd size (not_le.mpr (by positivity))

/-- The shortest decimal is stripped. -/
theorem isStripped_decimal {negative : Bool} {m : ℕ} {e : ℤ}
    (form : Binary64.IsCanonical (.finite negative m e)) (ties : Ties) :
    IsStripped (decimal ties m e) := by
  by_cases pos : m = 0
  · exact .inr (if_pos pos)
  · exact .inl (decimal_spec pos form ties).2

end Shortest

/-! ### Read again -/

/-- **A value that was printed** is read as it was. -/
theorem Binary64.unsigned?_positional {negative : Bool} {m : ℕ} {e : ℤ}
    (form : IsCanonical (.finite negative m e)) (ties : Ties) :
    unsigned? negative (Shortest.positional "" (Shortest.decimal ties m e)).toList =
      some (.finite negative m e) := by
  obtain ⟨n, fraction, hfraction, htext, value⟩ :=
    Shortest.spells_positional (Shortest.isStripped_decimal form ties)
  obtain ⟨c, cs, hcs, hc⟩ := exists_written_eq_cons n fraction
  rw [htext, hcs, unsigned?_cons hc, ← hcs, decimal?_written negative n hfraction.digits]
  by_cases pos : m = 0
  · have hzero : Nat.ofDigitChars 10 (Nat.toDigits 10 n ++ fraction) 0 = 0 := by
      rw [Shortest.decimal, if_pos pos, Nat.cast_zero, zero_mul, mul_eq_zero] at value
      exact_mod_cast value.resolve_right (by positivity)
    rw [hzero, pos, form.2.2.2.resolve_left (by rw [pos]; decide)]
    rfl
  · rw [ofDecimal_of_around negative pos form]
    rw [value]
    exact (Shortest.decimal_spec pos form ties).1

/-- What is read without a sign is a value in its form. -/
theorem Binary64.isCanonical_of_unsigned? {negative : Bool} {cs : List Char} {x : Binary64}
    (h : unsigned? negative cs = some x) : x.IsCanonical := by
  unfold unsigned? at h
  split at h
  · exact Option.some.inj h ▸ trivial
  · split at h
    · exact Option.some.inj h ▸ trivial
    · unfold decimal? at h
      dsimp only at h
      obtain ⟨exponent, -, h⟩ := Option.bind_eq_some_iff.mp h
      rw [Option.ite_none_left_eq_some] at h
      exact Option.some.inj h.2 ▸ isCanonical_ofDecimal negative _ _

/-- **What is read** with a sign or without one is a value in its form. -/
theorem Binary64.isCanonical_of_ofLiteral? {cs : List Char} {x : Binary64}
    (h : ofLiteral? cs = some x) : x.IsCanonical := by
  unfold ofLiteral? at h
  split at h <;> exact isCanonical_of_unsigned? h

end PushDelivery.Decimal
