import Mathlib.Data.List.TakeWhile
import PushDelivery.Time.Moment

/-!
# Dates That Were Written

A date has many texts: blanks may stand between its parts, numbers may have fewer digits, the offset
from UTC may be any, and digits beyond the nanosecond are dropped. One of these texts is the one
that is written. This module shows that reading takes it back to the date, for every day of the
calendar, years of any sign and any number of digits, leap seconds, and fractions of each length;
and that what is read is always a date.

## Main results

* `Moment.read?_write`: a date that was written is read as that date.
* `Moment.valid_of_read?`: what is read is a date.
-/

namespace PushDelivery.Moment

/-! ### Numbers of a fixed width -/

/-- A number in digits, filled up with zeros, is made of digits. -/
theorem isDigit_of_mem_padded {width n : Nat} {c : Char} (h : c ∈ padded width n) :
    c.isDigit = true := by
  rcases List.mem_append.mp h with h | h
  · rw [List.eq_of_mem_replicate h]
    rfl
  · exact Nat.isDigit_of_mem_toDigits (by decide) (by decide) h

/-- Zeros in front do not change a number. -/
theorem ofDigitChars_padded (width n : Nat) : Nat.ofDigitChars 10 (padded width n) 0 = n := by
  rw [padded, Nat.ofDigitChars_append, Nat.ofDigitChars_replicate_zero, Nat.mul_zero,
    Nat.ofDigitChars_ten_toDigits]

/-- A number that fits the width fills it. -/
theorem length_padded {width n : Nat} (hwidth : 0 < width) (h : n < Nat.pow 10 width) :
    (padded width n).length = width := by
  have hdigits : (Nat.toDigits 10 n).length ≤ width :=
    (Nat.length_toDigits_le_iff (by decide) hwidth).mpr h
  rw [padded, List.length_append, List.length_replicate]
  omega

/-- No number is written without digits. -/
theorem padded_ne_nil (width n : Nat) : padded width n ≠ [] := by
  intro h
  exact Nat.toDigits_ne_nil (List.append_eq_nil_iff.mp h).2

/-- Digits are taken until there are no more of them, or no more are allowed. -/
theorem digits?_append {most : Nat} {ds rest : List Char} (digits : ∀ c ∈ ds, c.isDigit = true)
    (some_digit : ds ≠ []) (fits : ds.length ≤ most)
    (ends : ds.length = most ∨ ∀ c ∈ rest.head?, c.isDigit = false) :
    digits? most (ds ++ rest) = some (ds, rest) := by
  have htake : ((ds ++ rest).take most).takeWhile Char.isDigit = ds := by
    rw [List.take_append, List.take_of_length_le fits, List.takeWhile_append_of_pos digits,
      List.append_right_eq_self]
    rcases ends with full | stops
    · simp [full]
    · cases rest with
      | nil => simp
      | cons c rest =>
          cases hleft : most - ds.length with
          | zero => rfl
          | succ k => rw [List.take_succ_cons, List.takeWhile_cons, stops c rfl]; rfl
  rw [digits?, htake, if_neg some_digit, List.drop_left]

/-! ### Blanks -/

/-- A digit is no blank. -/
theorem isBlank_of_isDigit {c : Char} (h : c.isDigit = true) : Text.isBlank c = false := by
  simp only [Char.isDigit, Bool.and_eq_true, decide_eq_true_eq] at h
  have hlow : 48 ≤ c.toNat := h.1
  have hhigh : c.toNat ≤ 57 := h.2
  simp only [Text.isBlank, Bool.or_eq_false_iff, Bool.and_eq_false_iff, decide_eq_false_iff_not,
    beq_eq_false_iff_ne]
  omega

/-- Nothing is trimmed off a text that does not begin with a blank. -/
theorem trimStart_of_head {cs : List Char} (h : ∀ c ∈ cs.head?, Text.isBlank c = false) :
    Text.trimStart cs = cs := by
  cases cs with
  | nil => rfl
  | cons c cs => rw [Text.trimStart, List.dropWhile_cons, h c rfl]; rfl

/-- A number in digits begins with a digit. -/
theorem exists_padded_eq_cons (width n : Nat) :
    ∃ c cs, padded width n = c :: cs ∧ c.isDigit = true := by
  obtain ⟨c, cs, hcs⟩ := List.exists_cons_of_ne_nil (padded_ne_nil width n)
  have hmem : c ∈ padded width n := hcs ▸ List.mem_cons_self
  exact ⟨c, cs, hcs, isDigit_of_mem_padded hmem⟩

/-- Nothing is trimmed off a number. -/
theorem trimStart_padded (width n : Nat) (rest : List Char) :
    Text.trimStart (padded width n ++ rest) = padded width n ++ rest := by
  obtain ⟨c, cs, hcs, hc⟩ := exists_padded_eq_cons width n
  rw [hcs]
  exact trimStart_of_head (by simpa using isBlank_of_isDigit hc)

/-! ### The parts of a date -/

/-- A number of a fixed width, whatever follows it. -/
theorem number?_padded {width n : Nat} (hwidth : 0 < width) (h : n < Nat.pow 10 width)
    (rest : List Char) : number? width (padded width n ++ rest) = some (n, rest) := by
  have hdigits : digits? width (padded width n ++ rest) = some (padded width n, rest) :=
    digits?_append (fun _ => isDigit_of_mem_padded) (padded_ne_nil width n)
      (length_padded hwidth h).le (.inl (length_padded hwidth h))
  rw [number?, trimStart_padded, hdigits]
  simp [ofDigitChars_padded]

/-- A mark between two parts. -/
theorem mark?_cons {c : Char} (h : Text.isBlank c = false) (rest : List Char) :
    mark? c (c :: rest) = some rest := by
  rw [mark?, trimStart_of_head (by simpa using h)]
  exact if_pos rfl

/-- The digits of a year after its sign go up to the next mark. -/
theorem digits?_year (n : Nat) (rest : List Char) :
    digits? (padded 4 n ++ '-' :: rest).length (padded 4 n ++ '-' :: rest) =
      some (padded 4 n, '-' :: rest) :=
  digits?_append (fun _ => isDigit_of_mem_padded) (padded_ne_nil 4 n) (by simp)
    (.inr fun c hc => by cases hc; rfl)

/-- A year of any sign and any number of digits. -/
theorem year?_yearText (year : Int) (rest : List Char) :
    year? (yearText year ++ '-' :: rest) = some (year, '-' :: rest) := by
  unfold yearText
  split
  · rename_i four
    have hdigits : digits? 4 (padded 4 year.toNat ++ '-' :: rest) =
        some (padded 4 year.toNat, '-' :: rest) := by
      have hlength : (padded 4 year.toNat).length = 4 :=
        length_padded (by decide) (by omega : year.toNat < 10000)
      exact digits?_append (fun _ => isDigit_of_mem_padded) (padded_ne_nil 4 _) hlength.le
        (.inl hlength)
    obtain ⟨c, cs, hcs, hc⟩ := exists_padded_eq_cons 4 year.toNat
    rw [year?, trimStart_padded]
    -- a digit is no sign
    split
    · rename_i sign
      rw [hcs] at sign
      cases sign
      exact absurd hc (by decide)
    · rename_i sign
      rw [hcs] at sign
      cases sign
      exact absurd hc (by decide)
    · have value : (year.toNat : Int) = year := by omega
      rw [hdigits]
      exact congrArg (fun n : Int => some (n, '-' :: rest))
        ((congrArg Nat.cast (ofDigitChars_padded 4 year.toNat)).trans value)
  · rename_i long
    split
    · rename_i negative
      have value : -(year.natAbs : Int) = year := by omega
      rw [year?, List.cons_append, trimStart_of_head (fun c hc => by cases hc; rfl)]
      simp only [digits?_year]
      exact congrArg (fun n : Int => some (n, '-' :: rest))
        ((congrArg (fun n : Nat => -(n : Int)) (ofDigitChars_padded 4 year.natAbs)).trans value)
    · have value : (year.natAbs : Int) = year := by omega
      rw [year?, List.cons_append, trimStart_of_head (fun c hc => by cases hc; rfl)]
      simp only [digits?_year]
      exact congrArg (fun n : Int => some (n, '-' :: rest))
        ((congrArg Nat.cast (ofDigitChars_padded 4 year.natAbs)).trans value)

/-- Digits of a fraction that are exact. -/
theorem fraction?_padded {width n : Nat} (hwidth : 0 < width) (hnine : width ≤ 9)
    (h : n < Nat.pow 10 width) :
    fraction? ('.' :: padded width n ++ ['Z']) = some (n * Nat.pow 10 (9 - width), ['Z']) := by
  have hlength := length_padded hwidth h
  have hdigits : digits? 9 (padded width n ++ ['Z']) = some (padded width n, ['Z']) :=
    digits?_append (fun _ => isDigit_of_mem_padded) (padded_ne_nil width n) (by omega)
      (.inr fun c hc => by cases hc; rfl)
  have hdrop : ['Z'].dropWhile Char.isDigit = ['Z'] := by decide
  rw [List.cons_append, fraction?, hdigits]
  simp [ofDigitChars_padded, hlength, hdrop]

/-- A fraction of a second of any length. -/
theorem fraction?_fractionText {nanos : Nat} (h : nanos < 1000000000) :
    fraction? (fractionText nanos ++ ['Z']) = some (nanos, ['Z']) := by
  unfold fractionText
  split
  · rename_i whole
    rw [whole]
    decide
  · split
    · rename_i millis
      rw [fraction?_padded (by decide) (by decide) (by omega : nanos / 1000000 < 1000)]
      simp; omega
    · split
      · rename_i micros
        rw [fraction?_padded (by decide) (by decide) (by omega : nanos / 1000 < 1000000)]
        simp; omega
      · rw [fraction?_padded (by decide) (by decide) (by omega : nanos < 1000000000)]
        simp

/-- No offset changes nothing. -/
theorem backByMinutes_zero {m : Moment} (hhour : m.hour < 24) (hminute : m.minute < 60) :
    m.backByMinutes 0 = m := by
  unfold backByMinutes
  rw [if_neg (by omega), if_neg (by omega)]
  have hh : ((m.hour * 60 + m.minute : Nat) - (0 : Int)) / 60 = m.hour := by omega
  have hm : ((m.hour * 60 + m.minute : Nat) - (0 : Int)) % 60 = m.minute := by omega
  simp only [hh, hm, Int.toNat_natCast]

/-! ### Dates -/

/-- **A written date is read.** What is read from the text of a date is that date. -/
theorem read?_write {m : Moment} (h : m.Valid) : read? m.write = some m := by
  obtain ⟨-, -, -, hmonth, -, hday, hhour, hminute, hsecond, hnanos⟩ := id h
  have hday' : m.day < 100 := by
    have hlast : daysInMonth m.year m.month ≤ 31 := by unfold daysInMonth; split <;> split <;> omega
    omega
  have hT (rest : List Char) : between? ('T' :: rest) = some rest := by
    rw [between?, if_pos (.inl rfl)]
  have hzone : offset? (Text.trimStart ['Z']) = some (0, []) := by decide
  have hend : Text.trimStart [] = [] := rfl
  have hdash : Text.isBlank '-' = false := by decide
  have hcolon : Text.isBlank ':' = false := by decide
  have htwo : 0 < 2 := by decide
  simp only [write, List.append_assoc, List.cons_append]
  rw [read?]
  refine Option.bind_eq_some_iff.mpr ⟨_, year?_yearText m.year _, ?_⟩
  refine Option.bind_eq_some_iff.mpr ⟨_, mark?_cons hdash _, ?_⟩
  refine Option.bind_eq_some_iff.mpr ⟨_, number?_padded htwo (by omega : m.month < 100) _, ?_⟩
  refine Option.bind_eq_some_iff.mpr ⟨_, mark?_cons hdash _, ?_⟩
  refine Option.bind_eq_some_iff.mpr ⟨_, number?_padded htwo (by omega : m.day < 100) _, ?_⟩
  refine Option.bind_eq_some_iff.mpr ⟨_, hT _, ?_⟩
  refine Option.bind_eq_some_iff.mpr ⟨_, number?_padded htwo (by omega : m.hour < 100) _, ?_⟩
  refine Option.bind_eq_some_iff.mpr ⟨_, mark?_cons hcolon _, ?_⟩
  refine Option.bind_eq_some_iff.mpr ⟨_, number?_padded htwo (by omega : m.minute < 100) _, ?_⟩
  refine Option.bind_eq_some_iff.mpr ⟨_, mark?_cons hcolon _, ?_⟩
  refine Option.bind_eq_some_iff.mpr ⟨_, number?_padded htwo (by omega : m.second < 100) _, ?_⟩
  refine Option.bind_eq_some_iff.mpr ⟨_, fraction?_fractionText hnanos, ?_⟩
  refine Option.bind_eq_some_iff.mpr ⟨_, hzone, ?_⟩
  dsimp only
  rw [backByMinutes_zero hhour hminute]
  exact if_pos ⟨hend, h, h⟩

/-- What is read is a date. -/
theorem valid_of_read? {cs : List Char} {m : Moment} (h : read? cs = some m) : m.Valid := by
  rw [read?] at h
  -- the parts that are read, up to the check of the whole
  iterate 13 obtain ⟨_, -, h⟩ := Option.bind_eq_some_iff.mp h
  dsimp only at h
  split at h
  · rename_i valid
    cases h
    exact valid.2.2
  · cases h

/-- A written date is read from its text. -/
@[simp]
theorem ofText?_text {m : Moment} (h : m.Valid) : ofText? m.text = some m := by
  rw [ofText?, text, String.toList_ofList, read?_write h]

end PushDelivery.Moment
