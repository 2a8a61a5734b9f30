import Mathlib.Data.List.Infix
import PushDelivery.Template.Substitution

/-!
# Occurrences of Placeholders

A variable is applied by going through a text from the left: where its placeholder begins the
variable's text is put in its stead and the search goes on behind it, and any other character is
kept. What comes of a text is therefore known once it is known where in it a placeholder can begin.
This module says where it can: not in a text without an opening brace, and at a placeholder whose
name has no braces only if it is that placeholder.

## Main definitions

* `Braceless`: characters none of which is a brace.

## Main results

* `replaceAll_skip`: a text in which no occurrence begins is kept.
* `replaceAll_of_not_infix`, `replaceAll_of_infix`: what becomes of a text without the pattern, and
  of one with it.
* `replaceAll_append_of_braceless`, `replaceAll_placeholder_self`, `replaceAll_placeholder_of_ne`:
  what a variable does to a literal text, to its own placeholder and to those of others.
-/

namespace PushDelivery

/-- Characters none of which is a brace. -/
def Braceless (cs : List Char) : Prop := '{' ∉ cs ∧ '}' ∉ cs

instance (cs : List Char) : Decidable (Braceless cs) :=
  inferInstanceAs (Decidable (_ ∧ _))

variable {pattern replacement : List Char}

/-! ### Going through a text -/

/-- A character at which no occurrence begins is kept. -/
theorem replaceAll_cons {c : Char} {rest : List Char} (h : ¬ pattern <+: c :: rest) :
    replaceAll pattern replacement (c :: rest) = c :: replaceAll pattern replacement rest := by
  rw [replaceAll, if_neg]
  exact fun occurs => h (List.isPrefixOf_iff_prefix.mp occurs.2)

/-- An occurrence at the front is replaced. -/
theorem replaceAll_append (h : pattern ≠ []) (rest : List Char) :
    replaceAll pattern replacement (pattern ++ rest) =
      replacement ++ replaceAll pattern replacement rest := by
  obtain ⟨c, p, rfl⟩ := List.exists_cons_of_ne_nil h
  have front : (c :: p).isPrefixOf (c :: (p ++ rest)) :=
    List.isPrefixOf_iff_prefix.mpr (List.prefix_append (c :: p) rest)
  rw [List.cons_append, replaceAll, if_pos ⟨h, front⟩, ← List.cons_append, List.drop_left]

/-- A text in which no occurrence begins is kept, whatever follows it. -/
theorem replaceAll_skip {text rest : List Char}
    (h : ∀ s, s <:+ text → s ≠ [] → ¬ pattern <+: s ++ rest) :
    replaceAll pattern replacement (text ++ rest) =
      text ++ replaceAll pattern replacement rest := by
  induction text with
  | nil => rfl
  | cons c text ih =>
      have here : ¬ pattern <+: c :: (text ++ rest) := h _ List.suffix_rfl (List.cons_ne_nil _ _)
      have later := ih fun s hs => h s (hs.trans (List.suffix_cons c text))
      rw [List.cons_append, replaceAll_cons here, later, List.cons_append]

/-- A text without the pattern is kept. -/
theorem replaceAll_of_not_infix {text : List Char} (h : ¬ pattern <:+: text) :
    replaceAll pattern replacement text = text := by
  have kept : replaceAll pattern replacement (text ++ []) =
      text ++ replaceAll pattern replacement [] := replaceAll_skip fun s hs _ hp =>
    h (List.infix_iff_prefix_suffix.mpr ⟨s, List.append_nil s ▸ hp, hs⟩)
  rwa [List.append_nil, replaceAll, List.append_nil] at kept

/-- In a text with the pattern the first occurrence is replaced, and the search goes on behind
it. -/
theorem replaceAll_of_infix {text : List Char} (hp : pattern ≠ []) (h : pattern <:+: text)
    (replacement : List Char) : ∃ before after, text = before ++ pattern ++ after ∧
      replaceAll pattern replacement text =
        before ++ replacement ++ replaceAll pattern replacement after := by
  induction text with
  | nil => exact absurd (List.infix_nil.mp h) hp
  | cons c text ih =>
      by_cases front : pattern <+: c :: text
      · obtain ⟨after, hafter⟩ := front
        refine ⟨[], after, hafter.symm, ?_⟩
        rw [← hafter, replaceAll_append hp, List.nil_append]
      · have inside := (List.infix_cons_iff.mp h).resolve_left front
        obtain ⟨before, after, rfl, hbefore⟩ := ih inside
        exact ⟨c :: before, after, rfl, by rw [replaceAll_cons front, hbefore]; rfl⟩

/-! ### Placeholders -/

theorem placeholder_ne_nil (name : List Char) : placeholder name ≠ [] :=
  List.cons_ne_nil _ _

/-- What begins with a character does not begin in a text without it. -/
theorem not_cons_isPrefix {c : Char} {tail s rest : List Char} (h : c ∉ s) (hs : s ≠ []) :
    ¬ c :: tail <+: s ++ rest := by
  obtain ⟨d, s, rfl⟩ := List.exists_cons_of_ne_nil hs
  intro begins
  have same : c = d := (List.cons_prefix_cons.mp begins).1
  exact h (same ▸ List.mem_cons_self)

/-- A variable leaves a text without opening braces as it is, whatever follows it. -/
theorem replaceAll_append_of_braceless {name text : List Char} (brace : '{' ∉ text)
    (rest : List Char) :
    replaceAll (placeholder name) replacement (text ++ rest) =
      text ++ replaceAll (placeholder name) replacement rest :=
  replaceAll_skip fun _ hs hne => not_cons_isPrefix (fun hmem => brace (hs.subset hmem)) hne

/-- A variable takes the place of its own placeholder. -/
theorem replaceAll_placeholder_self (name rest : List Char) :
    replaceAll (placeholder name) replacement (placeholder name ++ rest) =
      replacement ++ replaceAll (placeholder name) replacement rest :=
  replaceAll_append (placeholder_ne_nil name) rest

/-- Names that end at a closing brace are the same if one of them is there as the other one. -/
theorem eq_of_isPrefix_of_braceless {k n s rest : List Char} (hk : '}' ∉ k) (hn : '}' ∉ n)
    (h : k ++ '}' :: s <+: n ++ '}' :: rest) : k = n := by
  induction k generalizing n with
  | nil =>
      cases n with
      | nil => rfl
      | cons c n => exact absurd (List.cons_prefix_cons.mp h).1 (List.ne_of_not_mem_cons hn)
  | cons d k ih =>
      cases n with
      | nil => exact absurd (List.cons_prefix_cons.mp h).1.symm (List.ne_of_not_mem_cons hk)
      | cons c n =>
          obtain ⟨rfl, later⟩ := List.cons_prefix_cons.mp h
          rw [ih (List.not_mem_of_not_mem_cons hk) (List.not_mem_of_not_mem_cons hn) later]

/-- A placeholder stands where another one does only if they have one name. -/
theorem eq_of_placeholder_isPrefix {k n rest : List Char} (hk : Braceless k) (hn : Braceless n)
    (h : placeholder k <+: placeholder n ++ rest) : k = n := by
  simp only [placeholder, List.cons_append, List.append_assoc, List.cons_prefix_cons,
    true_and] at h
  exact eq_of_isPrefix_of_braceless hk.2 hn.2 h

/-- A variable leaves the placeholders of others as they are, whatever follows them. -/
theorem replaceAll_placeholder_of_ne {k n : List Char} (hk : Braceless k) (hn : Braceless n)
    (hne : k ≠ n) (rest : List Char) :
    replaceAll (placeholder k) replacement (placeholder n ++ rest) =
      placeholder n ++ replaceAll (placeholder k) replacement rest := by
  -- An occurrence could begin at one of the two opening braces only. At the first one it would be
  -- the placeholder itself, and the second one has no other brace behind it.
  have tail : '{' ∉ n ++ ['}', '}'] := by simp [hn.1]
  have more : n ++ ['}', '}'] ≠ [] := List.append_ne_nil_of_right_ne_nil _ (List.cons_ne_nil _ _)
  refine replaceAll_skip fun s hs hne' occurs => ?_
  rcases List.suffix_cons_iff.mp hs with rfl | hs
  · exact hne (eq_of_placeholder_isPrefix hk hn occurs)
  · rcases List.suffix_cons_iff.mp hs with rfl | hs
    · exact not_cons_isPrefix tail more (List.cons_prefix_cons.mp occurs).2
    · exact not_cons_isPrefix (fun hmem => tail (hs.subset hmem)) hne' occurs

end PushDelivery
