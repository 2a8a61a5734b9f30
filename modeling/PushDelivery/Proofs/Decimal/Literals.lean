import Mathlib.Data.List.TakeWhile
import PushDelivery.Decimal.Literal

/-!
# Numbers as people write them

People write a number in many ways: with a plus sign, with an exponent, with zeros that say nothing,
in words of any case. All of them but the words are made of few characters.

## Main definitions

* `IsNumeral`: the characters that numbers are written with.
* `Binary64.IsNumberWord`: the words for numbers.

## Main results

* `Binary64.isNumberWord_or_of_ofLiteral?`: what is read as a number is a word or made of these
  characters.
* `Binary64.unsigned?_cons`: what begins with a digit is no word.
-/

namespace PushDelivery.Decimal

/-! ### Reading -/

/-- Whether a character may stand in a number that is no word. -/
def IsNumeral (c : Char) : Prop := c.isDigit = true ∨ c ∈ ['+', '-', '.', 'e', 'E']

/-- A natural number is read from digits only. -/
theorem isNumeral_of_natural? {cs : List Char} (h : natural? cs ≠ none) :
    ∀ c ∈ cs, IsNumeral c := by
  unfold natural? at h
  split at h
  · rename_i digits
    exact fun c hc => .inl (List.all_eq_true.mp digits.2 c hc)
  · exact absurd rfl h

/-- A character in front is one more of them. -/
theorem isNumeral_cons {c : Char} {cs : List Char} (hc : c ∈ ['+', '-', '.', 'e', 'E'])
    (hcs : ∀ d ∈ cs, IsNumeral d) : ∀ d ∈ c :: cs, IsNumeral d :=
  List.forall_mem_cons.mpr ⟨.inr hc, hcs⟩

/-- An integer is read from digits behind a sign. -/
theorem isNumeral_of_integer? {cs : List Char} {i : Int} (h : integer? cs = some i) :
    ∀ c ∈ cs, IsNumeral c := by
  unfold integer? at h
  split at h
  · exact isNumeral_cons (by decide) (isNumeral_of_natural? fun hn => by simp [hn] at h)
  · exact isNumeral_cons (by decide) (isNumeral_of_natural? fun hn => by simp [hn] at h)
  · exact isNumeral_of_natural? fun hn => by simp [hn] at h

namespace Binary64

/-- An exponent is read from digits behind a sign behind its letter. -/
theorem isNumeral_of_literalExponent? {cs : List Char} {e : Int}
    (h : literalExponent? cs = some e) : ∀ c ∈ cs, IsNumeral c := by
  cases cs with
  | nil => exact fun _ hc => absurd hc List.not_mem_nil
  | cons c rest =>
      unfold literalExponent? at h
      dsimp only at h
      split at h
      · rename_i letter
        refine isNumeral_cons (by rcases letter with rfl | rfl <;> decide) ?_
        split at h
        · exact isNumeral_cons (by decide) (isNumeral_of_natural? fun hn => by simp [hn] at h)
        · exact isNumeral_cons (by decide) (isNumeral_of_natural? fun hn => by simp [hn] at h)
        · exact isNumeral_of_natural? fun hn => by simp [hn] at h
      · cases h

/-- A decimal is read from digits, a point and an exponent. -/
theorem isNumeral_of_decimal? {negative : Bool} {cs : List Char} {x : Binary64}
    (h : decimal? negative cs = some x) : ∀ c ∈ cs, IsNumeral c := by
  have digits : ∀ c ∈ cs.takeWhile Char.isDigit, IsNumeral c :=
    fun c hc => .inl (List.mem_takeWhile_imp hc)
  have rest : ∀ c ∈ cs.dropWhile Char.isDigit, IsNumeral c := by
    unfold decimal? at h
    dsimp only at h
    obtain ⟨e, he, -⟩ := Option.bind_eq_some_iff.mp h
    split at he
    · rename_i r heq
      rw [heq]
      have fraction : ∀ c ∈ r.takeWhile Char.isDigit, IsNumeral c :=
        fun c hc => .inl (List.mem_takeWhile_imp hc)
      refine isNumeral_cons (by decide) ?_
      rw [← List.takeWhile_append_dropWhile (p := Char.isDigit) (l := r)]
      exact List.forall_mem_append.mpr ⟨fraction, isNumeral_of_literalExponent? he⟩
    · exact isNumeral_of_literalExponent? he
  rw [← List.takeWhile_append_dropWhile (p := Char.isDigit) (l := cs)]
  exact List.forall_mem_append.mpr ⟨digits, rest⟩

/-- Whether characters are a word for a number, without a sign. -/
def IsUnsignedWord (cs : List Char) : Prop :=
  isWord ['i', 'n', 'f'] cs = true ∨ isWord ['i', 'n', 'f', 'i', 'n', 'i', 't', 'y'] cs = true ∨
    isWord ['n', 'a', 'n'] cs = true

/-- What is read as a number without a sign is a word or made of numeral characters. -/
theorem isUnsignedWord_or_of_unsigned? {negative : Bool} {cs : List Char} {x : Binary64}
    (h : unsigned? negative cs = some x) : IsUnsignedWord cs ∨ ∀ c ∈ cs, IsNumeral c := by
  unfold unsigned? at h
  split at h
  · rename_i word
    exact .inl (word.imp_right .inl)
  · split at h
    · rename_i word
      exact .inl (.inr (.inr word))
    · exact .inr (isNumeral_of_decimal? h)

/-- Whether characters are a word for a number, with a sign of either kind or none. -/
def IsNumberWord (cs : List Char) : Prop :=
  ∃ unsigned, IsUnsignedWord unsigned ∧
    (cs = unsigned ∨ cs = '-' :: unsigned ∨ cs = '+' :: unsigned)

/-- **Reading.** What is read as a number is a word or made of numeral characters. -/
theorem isNumberWord_or_of_ofLiteral? {cs : List Char} {x : Binary64}
    (h : ofLiteral? cs = some x) : IsNumberWord cs ∨ ∀ c ∈ cs, IsNumeral c := by
  unfold ofLiteral? at h
  split at h
  · rename_i rest
    exact (isUnsignedWord_or_of_unsigned? h).imp (fun word => ⟨rest, word, .inr (.inl rfl)⟩)
      (isNumeral_cons (by decide))
  · rename_i rest
    exact (isUnsignedWord_or_of_unsigned? h).imp (fun word => ⟨rest, word, .inr (.inr rfl)⟩)
      (isNumeral_cons (by decide))
  · exact (isUnsignedWord_or_of_unsigned? h).imp_left fun word => ⟨cs, word, .inl rfl⟩

end Binary64

/-! ### Texts that are no words -/

/-- A digit has no other case. -/
theorem toLower_of_isDigit {c : Char} (h : c.isDigit = true) : c.toLower = c := by
  have below : ¬ 'A'.val ≤ c.val := by
    simp only [Char.isDigit, Bool.and_eq_true, decide_eq_true_eq, UInt32.le_iff_toNat_le,
      ge_iff_le] at h ⊢
    have nine : '9'.val.toNat = 57 := rfl
    have letter : 'A'.val.toNat = 65 := rfl
    omega
  exact dif_neg fun upper => below upper.1

/-- A word begins as its letters say. -/
theorem Binary64.isWord_cons {letter c : Char} {word cs : List Char} (h : c.toLower ≠ letter) :
    isWord (letter :: word) (c :: cs) = false := by
  simp [isWord, h]

/-- So a text that begins with a digit is no word. -/
theorem Binary64.isWord_of_isDigit {letter c : Char} {word cs : List Char} (hc : c.isDigit = true)
    (hletter : letter.isDigit = false) : isWord (letter :: word) (c :: cs) = false := by
  refine isWord_cons fun h => ?_
  rw [toLower_of_isDigit hc] at h
  rw [h, hletter] at hc
  cases hc

/-- Nor is the digit a sign. -/
theorem Binary64.ofLiteral?_cons {c : Char} (hc : c.isDigit = true) (cs : List Char) :
    ofLiteral? (c :: cs) = unsigned? false (c :: cs) := by
  unfold ofLiteral?
  split <;> rename_i sign
  · rw [(List.cons.inj sign).1] at hc
    exact absurd hc (by decide)
  · rw [(List.cons.inj sign).1] at hc
    exact absurd hc (by decide)
  · rfl

/-- It is read as a decimal. -/
theorem Binary64.unsigned?_cons {c : Char} (hc : c.isDigit = true) (negative : Bool)
    (cs : List Char) : unsigned? negative (c :: cs) = decimal? negative (c :: cs) := by
  unfold unsigned?
  simp [isWord_of_isDigit hc]

end PushDelivery.Decimal
