import Mathlib.Algebra.Order.Ring.Nat
import PushDelivery.Decimal.Integer

/-!
# Integers, written and read

An integer is written with a minus sign if it is negative, and with digits that have no needless
zero in front. What was written is read as the integer that it was.

## Main results

* `head?_toDigits`: no needless zero in front.
* `toDigits_mul_ten_pow`, `take_toDigits`: zeros behind the digits, and digits left out.
* `natural?_toDigits`, `integer?_writeInteger`: what was written is read as it was.
-/

namespace PushDelivery.Decimal

/-- Only zero is written with a zero in front. -/
theorem head?_toDigits {n : Nat} (h : 0 < n) : (Nat.toDigits 10 n).head? ≠ some '0' := by
  have digit : ∀ n < 10, 0 < n → [Nat.digitChar n].head? ≠ some '0' := by decide
  induction n using Nat.strongRecOn with
  | ind n ih =>
      rw [Nat.toDigits_eq_if (by decide)]
      split
      · rename_i single
        exact digit n single h
      · rename_i more
        have front := ih (n / 10) (by omega) (by omega)
        obtain ⟨c, cs, hcs⟩ :=
          List.exists_cons_of_ne_nil (Nat.toDigits_ne_nil (n := n / 10) (b := 10))
        rw [hcs] at front ⊢
        exact front

/-- The digits of a number are digits. -/
theorem isDigit_of_mem_toDigits {n : Nat} {c : Char} (h : c ∈ Nat.toDigits 10 n) :
    c.isDigit = true :=
  Nat.isDigit_of_mem_toDigits (by decide) (by decide) h

/-- A number in digits begins with one. -/
theorem exists_toDigits_eq_cons (n : Nat) :
    ∃ c cs, Nat.toDigits 10 n = c :: cs ∧ c.isDigit = true := by
  obtain ⟨c, cs, hcs⟩ := List.exists_cons_of_ne_nil (Nat.toDigits_ne_nil (n := n) (b := 10))
  exact ⟨c, cs, hcs, isDigit_of_mem_toDigits (n := n) (hcs ▸ List.mem_cons_self)⟩

/-- An integer begins with a digit or a minus sign, and the rest of it are digits. -/
theorem exists_writeInteger_eq_cons (i : Int) :
    ∃ c cs, writeInteger i = c :: cs ∧ (c = '-' ∨ c.isDigit = true) ∧
      ∀ d ∈ cs, d.isDigit = true := by
  cases i with
  | ofNat n =>
      obtain ⟨c, cs, hcs, hc⟩ := exists_toDigits_eq_cons n
      refine ⟨c, cs, hcs, .inr hc, fun d hd => isDigit_of_mem_toDigits (n := n) ?_⟩
      rw [hcs]
      exact List.mem_cons_of_mem _ hd
  | negSucc n => exact ⟨'-', _, rfl, .inl rfl, fun d hd => isDigit_of_mem_toDigits hd⟩

/-! ### How many digits, and which -/

/-- A number is less than the power of ten with one more digit. -/
theorem lt_ten_pow_length (n : Nat) : n < 10 ^ (Nat.toDigits 10 n).length :=
  (Nat.length_toDigits_le_iff (by decide) Nat.length_toDigits_pos).mp (Nat.le_refl _)

/-- It is no less than the power of ten with as many digits, unless it is zero. -/
theorem ten_pow_length_le {n : Nat} (h : 0 < n) : 10 ^ ((Nat.toDigits 10 n).length - 1) ≤ n := by
  rcases Nat.eq_zero_or_pos ((Nat.toDigits 10 n).length - 1) with one | more
  · rw [one]
    exact h
  · refine Nat.le_of_not_lt fun less => ?_
    have := (Nat.length_toDigits_le_iff (by decide) more).mpr less
    omega

/-- Zeros behind the digits of a number multiply it by a power of ten. -/
theorem toDigits_mul_ten_pow {n : Nat} (h : 0 < n) (k : Nat) :
    Nat.toDigits 10 (n * 10 ^ k) = Nat.toDigits 10 n ++ List.replicate k '0' := by
  induction k with
  | zero => simp
  | succ k ih =>
      have pos : 0 < n * 10 ^ k := Nat.mul_pos h (Nat.pow_pos (by decide))
      rw [Nat.pow_succ, ← Nat.mul_assoc, Nat.toDigits_of_base_le (by decide) (by omega),
        Nat.mul_div_cancel _ (by decide), ih, Nat.mul_mod_left, List.replicate_succ',
        List.append_assoc]
      rfl

/-- Without its last digits a number is divided by a power of ten. -/
theorem take_toDigits {n k : Nat} (h : k < (Nat.toDigits 10 n).length) :
    (Nat.toDigits 10 n).take ((Nat.toDigits 10 n).length - k) = Nat.toDigits 10 (n / 10 ^ k) := by
  induction k generalizing n with
  | zero => simp
  | succ k ih =>
      have more : 10 ≤ n := by
        refine Nat.le_of_not_lt fun single => ?_
        rw [Nat.toDigits_of_lt_base single, List.length_singleton] at h
        omega
      rw [Nat.toDigits_of_base_le (by decide) more] at h ⊢
      rw [List.length_append, List.length_singleton] at h ⊢
      rw [Nat.add_sub_add_right, List.take_append_of_le_length (Nat.sub_le _ _),
        ih (by omega), Nat.div_div_eq_div_mul, Nat.pow_succ']

/-- The last digit of a number. -/
theorem getLast?_toDigits (n : Nat) :
    (Nat.toDigits 10 n).getLast? = some (n % 10).digitChar := by
  rw [Nat.toDigits_eq_if (by decide)]
  split
  · rename_i single
    rw [Nat.mod_eq_of_lt single]
    rfl
  · rw [List.getLast?_append]
    rfl

/-- It is zero for the multiples of ten only. -/
theorem getLast?_toDigits_ne {n : Nat} (h : n % 10 ≠ 0) :
    (Nat.toDigits 10 n).getLast? ≠ some '0' := by
  simpa [getLast?_toDigits] using h

/-! ### Read as it was written -/

/-- A count in digits is read as it was written. -/
theorem natural?_toDigits (n : Nat) : natural? (Nat.toDigits 10 n) = some n := by
  have hall : (Nat.toDigits 10 n).all Char.isDigit = true :=
    List.all_eq_true.mpr fun c hc => isDigit_of_mem_toDigits hc
  rw [natural?, if_pos ⟨Nat.toDigits_ne_nil, hall⟩, Nat.ofDigitChars_ten_toDigits]

/-- A digit is no sign, so what begins with one is read as digits. -/
theorem integer?_cons {c : Char} (hc : c.isDigit = true) (cs : List Char) :
    integer? (c :: cs) = (natural? (c :: cs)).map fun n => (n : Int) := by
  unfold integer?
  split <;> rename_i sign
  · rw [(List.cons.inj sign).1] at hc
    exact absurd hc (by decide)
  · rw [(List.cons.inj sign).1] at hc
    exact absurd hc (by decide)
  · rfl

/-- An integer is read as it was written. -/
theorem integer?_writeInteger (i : Int) : integer? (writeInteger i) = some i := by
  cases i with
  | ofNat n =>
      obtain ⟨c, cs, hcs, hc⟩ := exists_toDigits_eq_cons n
      rw [writeInteger, hcs, integer?_cons hc, ← hcs, natural?_toDigits]
      rfl
  | negSucc n =>
      rw [writeInteger, integer?, natural?_toDigits]
      rfl

end PushDelivery.Decimal
