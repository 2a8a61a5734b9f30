import PushDelivery.Proofs.Decimal.Printing
import PushDelivery.Settings.Field

/-!
# Texts from the environment, read and printed again

A text from the environment that looks like a truth value or a number is taken for one. Where a text
is wanted after all, the value is printed, which is one spelling of the many that the value has. So
not every text comes back as it was: this module finds the texts that do.

## Main definitions

* `respelled`: what a text from the environment comes back as.
* `Kept`: the texts that are taken for no value, and those that values are printed as.

## Main results

* `Value.text?_ofText`: a text is wanted, and got.
* `Scalar.ofLiteral?_floatText`: a number that was printed is read as it was.
* `kept_respelled`: what comes back once comes back again.
* `respelled_eq_self_iff`: the texts that come back as they were.
* `Kept.of_mem`: a text with a character that no number has is kept, unless it is a word.
* `Kept.isPlain`: a number that is kept has no plus sign, no exponent and no needless zero.
-/

namespace PushDelivery.Settings

open Decimal (Binary64 IsNumeral IsPlain integer? integerText isSigned64)

/-- What a text from the environment comes back as. -/
def respelled (s : String) : String :=
  match Scalar.ofText s with
  | .bool b => if b then "true" else "false"
  | .int i => integerText i
  | .float x => Scalar.floatText x
  | .str _ | .null => s

namespace Scalar

/-! ### What a text is taken for -/

/-- A text is a word for a truth value, or else an integer of 64 bits, or else a number, or else
itself. -/
theorem ofText_cases (s : String) :
    (Binary64.isWord ['t', 'r', 'u', 'e'] s.toList = true ∧ ofText s = .bool true) ∨
    (Binary64.isWord ['f', 'a', 'l', 's', 'e'] s.toList = true ∧ ofText s = .bool false) ∨
    (∃ i, integer? s.toList = some i ∧ isSigned64 i = true ∧ ofText s = .int i) ∨
    (∃ x, Binary64.ofLiteral? s.toList = some x ∧ ofText s = .float x) ∨
    ofText s = .str s := by
  unfold ofText
  dsimp only
  split
  · exact .inl ⟨‹_›, rfl⟩
  · split
    · exact .inr (.inl ⟨‹_›, rfl⟩)
    · split
      · rename_i i hi
        rw [Option.filter_eq_some_iff] at hi
        exact .inr (.inr (.inl ⟨i, hi.1, hi.2, rfl⟩))
      · split
        · rename_i x hx
          exact .inr (.inr (.inr (.inl ⟨x, hx, rfl⟩)))
        · exact .inr (.inr (.inr (.inr rfl)))

/-- A plain text is no word of letters. -/
theorem isWord_of_isPlain {letter : Char} {word cs : List Char} (plain : IsPlain cs)
    (sign : letter ≠ '-') (hletter : letter.isDigit = false) :
    Binary64.isWord (letter :: word) cs = false := by
  obtain ⟨c, rest, rfl, rfl | digit⟩ := plain.exists_eq_cons
  · exact Binary64.isWord_cons sign.symm
  · exact Binary64.isWord_of_isDigit digit hletter

/-- An integer is printed plainly. -/
theorem isPlain_integerText (i : Int) : IsPlain (integerText i).toList := by
  rw [integerText, String.toList_ofList]
  exact Decimal.isPlain_writeInteger i

/-- An integer is taken for itself. -/
theorem ofText_integerText {i : Int} (fits : isSigned64 i = true) :
    ofText (integerText i) = .int i := by
  have plain := isPlain_integerText i
  have hread : (integer? (integerText i).toList).filter isSigned64 = some i := by
    rw [integerText, String.toList_ofList, Decimal.integer?_writeInteger,
      Option.filter_some_pos fits]
  unfold ofText
  simp only [isWord_of_isPlain plain (show 't' ≠ '-' by decide) rfl,
    isWord_of_isPlain plain (show 'f' ≠ '-' by decide) rfl, hread]
  rfl

/-! ### What a number is printed as -/

/-- A finite number is printed plainly, and read as it was. -/
theorem floatText_finite {negative : Bool} {m : ℕ} {e : ℤ}
    (form : Binary64.IsCanonical (.finite negative m e)) :
    IsPlain (floatText (.finite negative m e)).toList ∧
      Binary64.ofLiteral? (floatText (.finite negative m e)).toList =
        some (.finite negative m e) := by
  have read := Binary64.unsigned?_positional form .up
  obtain ⟨n, fraction, hfraction, htext, -⟩ :=
    Decimal.Shortest.spells_positional (Decimal.Shortest.isStripped_decimal form .up)
  rw [htext] at read
  cases negative with
  | true =>
      have htext : (floatText (.finite true m e)).toList = '-' :: Decimal.written n fraction := by
        simp [floatText, htext]
      rw [htext]
      exact ⟨⟨_, ⟨n, fraction, hfraction, rfl⟩, .inr rfl⟩, read⟩
  | false =>
      have htext : (floatText (.finite false m e)).toList = Decimal.written n fraction := by
        simp [floatText, htext]
      obtain ⟨c, cs, hcs, hc⟩ := Decimal.exists_written_eq_cons n fraction
      refine ⟨htext ▸ ⟨_, ⟨n, fraction, hfraction, rfl⟩, .inl rfl⟩, ?_⟩
      rw [htext, hcs, Binary64.ofLiteral?_cons hc, ← hcs, read]

/-- **A number that was printed** is read as it was. -/
theorem ofLiteral?_floatText {x : Binary64} (form : x.IsCanonical) :
    Binary64.ofLiteral? (floatText x).toList = some x := by
  cases x with
  | nan => decide
  | infinite negative => cases negative <;> decide
  | finite negative m e => exact (floatText_finite form).2

/-- Only zero with a sign is printed as such. -/
theorem floatText_ne {x : Binary64} (form : x.IsCanonical) (sign : x ≠ Binary64.zero true) :
    floatText x ≠ "-0" := by
  intro h
  have read := ofLiteral?_floatText form
  rw [h] at read
  exact sign (Option.some.inj (read.symm.trans (by decide)))

end Scalar

/-! ### What it comes back as -/

/-- **A text is wanted, and got**: what the value is printed as. -/
theorem Value.text?_ofText (origin : Option String) (key s : String) :
    (Value.scalar origin (.ofText s)).text? key = .ok (respelled s) := by
  unfold respelled
  rcases Scalar.ofText_cases s with ⟨-, read⟩ | ⟨-, read⟩ | ⟨i, -, -, read⟩ | ⟨x, -, read⟩ | read
  all_goals
    rw [read]
    rfl

/-- The same where it may be null. -/
theorem Value.textOrNull?_ofText (origin : Option String) (key s : String) :
    (Value.scalar origin (.ofText s)).textOrNull? key = .ok (some (respelled s)) := by
  unfold respelled
  rcases Scalar.ofText_cases s with ⟨-, read⟩ | ⟨-, read⟩ | ⟨i, -, -, read⟩ | ⟨x, -, read⟩ | read
  all_goals
    rw [read]
    rfl

/-- A number that was printed comes back as it was, unless it is zero with a sign. -/
theorem respelled_floatText {x : Binary64} (form : x.IsCanonical) (sign : x ≠ Binary64.zero true) :
    respelled (Scalar.floatText x) = Scalar.floatText x := by
  cases x with
  | nan => decide +kernel
  | infinite negative => cases negative <;> decide +kernel
  | finite negative m e =>
      obtain ⟨plain, number⟩ := Scalar.floatText_finite form
      unfold respelled
      rcases Scalar.ofText_cases (Scalar.floatText (.finite negative m e)) with
        ⟨word, -⟩ | ⟨word, -⟩ | ⟨i, integer, -, read⟩ | ⟨x, same, read⟩ | read
      · rw [Scalar.isWord_of_isPlain plain (by decide) rfl] at word
        cases word
      · rw [Scalar.isWord_of_isPlain plain (by decide) rfl] at word
        cases word
      · -- A whole number of 64 bits is taken for an integer, which is printed alike.
        rw [read]
        change integerText i = _
        rw [← String.toList_inj, integerText, String.toList_ofList]
        refine Decimal.writeInteger_of_integer? plain integer fun zero => ?_
        exact Scalar.floatText_ne form sign (String.toList_inj.mp zero)
      · rw [number] at same
        rw [read, ← Option.some.inj same]
      · rw [read]

/-- The texts that come back as they were: those that truth values, integers of 64 bits and numbers
are printed as, and what is taken for nothing else. Zero with a minus sign is left out, since its
text is taken for the integer. -/
inductive Kept : String → Prop
  | truth (b : Bool) : Kept (if b then "true" else "false")
  | integer {i : Int} (fits : isSigned64 i = true) : Kept (integerText i)
  | number {x : Binary64} (form : x.IsCanonical) (sign : x ≠ Binary64.zero true) :
      Kept (Scalar.floatText x)
  | other {s : String} (read : Scalar.ofText s = .str s) : Kept s

/-- **What comes back** is kept, unless it is zero with a sign. -/
theorem kept_respelled {s : String} (sign : respelled s ≠ "-0") : Kept (respelled s) := by
  revert sign
  unfold respelled
  rcases Scalar.ofText_cases s with
    ⟨-, read⟩ | ⟨-, read⟩ | ⟨i, -, fits, read⟩ | ⟨x, number, read⟩ | read
  · rw [read]
    exact fun _ => .truth true
  · rw [read]
    exact fun _ => .truth false
  · rw [read]
    exact fun _ => .integer fits
  · rw [read]
    refine fun sign => .number (Binary64.isCanonical_of_ofLiteral? number) ?_
    rintro rfl
    exact sign (show Scalar.floatText (Binary64.zero true) = "-0" by decide)
  · rw [read]
    exact fun _ => .other read

/-- **The texts that come back as they were.** -/
theorem respelled_eq_self_iff (s : String) : respelled s = s ↔ Kept s := by
  constructor
  · intro h
    have sign : respelled s ≠ "-0" := by
      intro zero
      rw [h.symm.trans zero] at zero
      exact absurd zero (by decide +kernel)
    exact h ▸ kept_respelled sign
  · intro h
    cases h with
    | truth b => cases b <;> rfl
    | integer fits => rw [respelled, Scalar.ofText_integerText fits]
    | number form sign => exact respelled_floatText form sign
    | other read => rw [respelled, read]

/-! ### Texts that are kept, and texts that are not -/

/-- Whether a text is a word for a truth value or a number, in letters of any case. -/
def IsWord (s : String) : Prop :=
  Binary64.isWord ['t', 'r', 'u', 'e'] s.toList = true ∨
    Binary64.isWord ['f', 'a', 'l', 's', 'e'] s.toList = true ∨ Binary64.IsNumberWord s.toList

/-- **A text with a character that no number has** is kept, unless it is a word. -/
theorem Kept.of_mem {s : String} {c : Char} (mem : c ∈ s.toList) (hc : ¬ IsNumeral c)
    (word : ¬ IsWord s) : Kept s := by
  rcases Scalar.ofText_cases s with
    ⟨yes, -⟩ | ⟨no, -⟩ | ⟨i, integer, -, -⟩ | ⟨x, number, -⟩ | read
  · exact absurd (.inl yes) word
  · exact absurd (.inr (.inl no)) word
  · exact absurd (Decimal.isNumeral_of_integer? integer c mem) hc
  · rcases Binary64.isNumberWord_or_of_ofLiteral? number with hword | numeral
    · exact absurd (.inr (.inr hword)) word
    · exact absurd (numeral c mem) hc
  · exact .other read

/-- **What is kept of a value** is plain: what is taken for a truth value or a number comes back as
it was only if it is one of five words or digits around a point without needless zeros, after a
minus sign or none. -/
theorem Kept.isPlain {s : String} (h : Kept s) (taken : Scalar.ofText s ≠ .str s) :
    s ∈ ["true", "false", "NaN", "inf", "-inf"] ∨ IsPlain s.toList := by
  cases h with
  | truth b => cases b <;> exact .inl (by decide)
  | integer fits => exact .inr (Scalar.isPlain_integerText _)
  | @number x form sign =>
      cases x with
      | nan => exact .inl (by decide)
      | infinite negative => cases negative <;> exact .inl (by decide)
      | finite negative m e => exact .inr (Scalar.floatText_finite form).1
  | other read => exact absurd read taken

end PushDelivery.Settings
