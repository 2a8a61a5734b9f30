import Mathlib.Data.List.Perm.Basic
import PushDelivery.Proofs.Template.Occurrences

/-!
# Texts Made of Pieces

A text of a template is made of literal pieces and holes, which are written as placeholders.
Variables are applied to the whole text one after the other. This module states that this is the
same as filling every hole of the text at once, as long as no braces are in the literals, in names
and in what the variables stand for: then what is left behind by each variable is made of pieces
again. So the order of the variables does not matter.

## Main definitions

* `Piece`: a literal or a hole with the name of a variable.
* `Piece.written`: a piece as it stands in a text.
* `Piece.fill`: a piece with all variables applied at once.

## Main results

* `replaceAll_written`: one variable fills its own holes and leaves the pieces in between.
* `not_infix_written`: a text without a hole does not hold its placeholder.
* `substitute_pieces`: variables fill the holes of a text at once, in whatever order they are
  applied.
-/

namespace PushDelivery

/-- A piece of a text: characters as they are, or a hole with the name of a variable. -/
inductive Piece
  | literal (text : List Char)
  | hole (name : String)
  deriving DecidableEq, Repr

namespace Piece

/-- A piece as it stands in a text. -/
def written : Piece → List Char
  | literal text => text
  | hole name => placeholder name.toList

/-- A piece with all variables applied at once: a hole with a variable becomes its text, and one
without a variable stays. -/
def fill (m : DataMap) : Piece → Piece
  | literal text => literal text
  | hole name =>
    match m.lookup name with
    | some v => literal (variableText v)
    | none => hole name

/-- A piece without braces but those of its placeholder. -/
def Plain : Piece → Prop
  | literal text => Braceless text
  | hole name => Braceless name.toList

instance : (p : Piece) → Decidable p.Plain
  | literal text => inferInstanceAs (Decidable (Braceless text))
  | hole name => inferInstanceAs (Decidable (Braceless name.toList))

/-- A hole with a variable of its name. -/
theorem fill_self (name : String) (v : Json) (m : DataMap) :
    (hole name).fill ((name, v) :: m) = literal (variableText v) := by
  rw [fill, List.lookup_cons_self]

/-- A hole with a variable of another name first. -/
theorem fill_of_ne {name other : String} (h : other ≠ name) (v : Json) (m : DataMap) :
    (hole other).fill ((name, v) :: m) = (hole other).fill m := by
  rw [fill, List.lookup_cons, beq_false_of_ne h, fill]

/-- Without variables a piece stays as it is. -/
theorem fill_nil (p : Piece) : p.fill [] = p := by
  cases p <;> rfl

/-- A piece that is no hole of a variable stays as it is under this one. -/
theorem fill_of_ne_hole {name : String} (p : Piece) (h : p ≠ hole name) (v : Json) :
    p.fill [(name, v)] = p := by
  cases p with
  | literal text => rfl
  | hole other => rw [fill_of_ne (fun own => h (congrArg hole own)), fill_nil]

/-- A hole that is left was there before. -/
theorem eq_hole_of_fill {m : DataMap} {p : Piece} {name : String} (h : p.fill m = hole name) :
    p = hole name := by
  cases p with
  | literal text => exact h
  | hole other =>
      rw [fill] at h
      split at h
      · cases h
      · exact h

/-- All variables at once are the first one and then the others. -/
theorem fill_cons (f : String × Json) (m : DataMap) (p : Piece) :
    p.fill (f :: m) = (p.fill [f]).fill m := by
  obtain ⟨name, v⟩ := f
  cases p with
  | literal text => rfl
  | hole other =>
      by_cases own : other = name
      · subst own
        rw [fill_self, fill_self, fill]
      · rw [fill_of_ne own, fill_of_ne own, fill_nil]

end Piece

/-- Variables whose names and texts have no braces. -/
def DataMap.Plain (m : DataMap) : Prop :=
  ∀ f ∈ m, Braceless f.1.toList ∧ Braceless (variableText f.2)

instance (m : DataMap) : Decidable m.Plain :=
  inferInstanceAs (Decidable (∀ f ∈ m, _))

/-- Plain variables leave a plain piece plain. -/
theorem Piece.Plain.fill {p : Piece} (h : p.Plain) {m : DataMap} (values : m.Plain) :
    (p.fill m).Plain := by
  induction m generalizing p with
  | nil => rwa [Piece.fill_nil]
  | cons f m ih =>
      obtain ⟨name, v⟩ := f
      obtain ⟨⟨-, hvalue⟩, hm⟩ := List.forall_mem_cons.mp values
      cases p with
      | literal text => exact h
      | hole other =>
          by_cases own : other = name
          · subst own
            rw [Piece.fill_self]
            exact hvalue
          · rw [Piece.fill_of_ne own]
            exact ih h hm

/-- One variable fills its own holes and leaves the pieces in between as they are. -/
theorem replaceAll_written {name : String} {v : Json} {ps : List Piece}
    (hname : Braceless name.toList) (plain : ∀ p ∈ ps, p.Plain) :
    replaceAll (placeholder name.toList) (variableText v) (ps.flatMap Piece.written) =
      (ps.map (Piece.fill [(name, v)])).flatMap Piece.written := by
  induction ps with
  | nil => exact replaceAll_of_not_infix fun h => placeholder_ne_nil _ (List.infix_nil.mp h)
  | cons p ps ih =>
      obtain ⟨hp, hps⟩ := List.forall_mem_cons.mp plain
      rw [List.flatMap_cons, List.map_cons, List.flatMap_cons, ← ih hps]
      cases p with
      | literal text => exact replaceAll_append_of_braceless hp.1 _
      | hole other =>
          by_cases own : other = name
          · subst own
            rw [Piece.fill_self]
            exact replaceAll_placeholder_self _ _
          · rw [Piece.fill_of_ne own, Piece.fill_nil]
            exact replaceAll_placeholder_of_ne hname hp
              (fun same => own (String.toList_injective same.symm)) _

/-- A text made of pieces holds the placeholder of a variable only if one of them is its hole. -/
theorem not_infix_written {name : String} {ps : List Piece} (hname : Braceless name.toList)
    (plain : ∀ p ∈ ps, p.Plain) (absent : .hole name ∉ ps) :
    ¬ placeholder name.toList <:+: ps.flatMap Piece.written := by
  intro occurs
  -- A value that does not begin with a brace would show, but there is no hole that it could fill.
  let v : Json := .str "x"
  have same : ps.map (Piece.fill [(name, v)]) = ps :=
    (List.map_congr_left fun p hp => p.fill_of_ne_hole (fun own => absent (own ▸ hp)) v).trans
      (List.map_id' ps)
  obtain ⟨before, after, split, replaced⟩ :=
    replaceAll_of_infix (placeholder_ne_nil _) occurs (variableText v)
  rw [replaceAll_written hname plain, same, split, List.append_assoc, List.append_assoc] at replaced
  have first := List.append_cancel_left replaced
  exact absurd (List.cons.inj first).1 (by decide)

/-- Variables fill the holes of a text at once. -/
theorem substituteChars_written {m : DataMap} (values : m.Plain) {ps : List Piece}
    (plain : ∀ p ∈ ps, p.Plain) :
    substituteChars m (ps.flatMap Piece.written) =
      (ps.map (Piece.fill m)).flatMap Piece.written := by
  -- The induction is on the variables: what the first one leaves behind is made of plain pieces.
  induction m generalizing ps with
  | nil =>
      rw [List.map_congr_left fun p _ => p.fill_nil, List.map_id']
      rfl
  | cons f m ih =>
      obtain ⟨hf, hm⟩ := List.forall_mem_cons.mp values
      have left : ∀ p ∈ ps.map (Piece.fill [f]), p.Plain :=
        List.forall_mem_map.mpr fun p hp => (plain p hp).fill (List.forall_mem_singleton.mpr hf)
      calc substituteChars (f :: m) (ps.flatMap Piece.written)
          = substituteChars m (replaceAll (placeholder f.1.toList) (variableText f.2)
              (ps.flatMap Piece.written)) := rfl
        _ = substituteChars m ((ps.map (Piece.fill [f])).flatMap Piece.written) := by
            rw [replaceAll_written hf.1 plain]
        _ = ((ps.map (Piece.fill [f])).map (Piece.fill m)).flatMap Piece.written := ih hm left
        _ = (ps.map (Piece.fill (f :: m))).flatMap Piece.written := by
            rw [List.map_map]
            exact congrArg _ (List.map_congr_left fun p _ => (p.fill_cons f m).symm)

/-- The value of a variable does not depend on the order of the variables. -/
theorem DataMap.lookup_perm {m order : DataMap} (h : order.Perm m)
    (distinct : (order.map (·.1)).Nodup) (name : String) : order.lookup name = m.lookup name := by
  induction h with
  | nil => rfl
  | cons f _ ih => rw [List.lookup_cons, List.lookup_cons, ih (List.nodup_cons.mp distinct).2]
  | swap f g rest =>
      obtain ⟨k, v⟩ := f
      obtain ⟨l, w⟩ := g
      have apart : l ≠ k := fun same => (List.nodup_cons.mp distinct).1 (same ▸ List.mem_cons_self)
      rw [List.lookup_cons, List.lookup_cons, List.lookup_cons, List.lookup_cons]
      by_cases first : name = l
      · subst first
        rw [beq_self_eq_true, beq_false_of_ne apart]
      · rw [beq_false_of_ne first]
  | trans h₁ _ ih₁ ih₂ =>
      rw [ih₁ distinct, ih₂ ((h₁.map _).nodup_iff.mp distinct)]

/-- **Substitution fills all holes at once.** Of a text that is made of literals and placeholders
without braces, under variables whose names and texts have none, substitution leaves the literals
and the placeholders that have no variable, and puts in the place of each other placeholder the text
of its variable. In whatever order the variables are applied, the result is the same. -/
theorem substitute_pieces {m : DataMap} {ps : List Piece} (plain : ∀ p ∈ ps, p.Plain)
    (values : m.Plain) (distinct : (m.map (·.1)).Nodup) :
    substitute m (String.ofList (ps.flatMap Piece.written)) =
        String.ofList ((ps.map (Piece.fill m)).flatMap Piece.written) ∧
      ∀ order : DataMap, order.Perm m →
        substitute order (String.ofList (ps.flatMap Piece.written)) =
          substitute m (String.ofList (ps.flatMap Piece.written)) := by
  have fills : ∀ order : DataMap, order.Plain →
      substitute order (String.ofList (ps.flatMap Piece.written)) =
        String.ofList ((ps.map (Piece.fill order)).flatMap Piece.written) := fun order horder => by
    rw [substitute, String.toList_ofList, substituteChars_written horder plain]
  refine ⟨fills m values, fun order same => ?_⟩
  have looked : ∀ name, order.lookup name = m.lookup name :=
    DataMap.lookup_perm same ((same.map _).nodup_iff.mpr distinct)
  have filled : ps.map (Piece.fill order) = ps.map (Piece.fill m) := by
    refine List.map_congr_left fun p _ => ?_
    cases p with
    | literal text => rfl
    | hole name => rw [Piece.fill, Piece.fill, looked]
  rw [fills order fun f hf => values f (same.subset hf), fills m values, filled]

/-- Placeholders that are repeated, beside one another, without a name and without a variable. -/
theorem substitute_pieces_mixed :
    let m : DataMap := [("", .null), ("a", .num (.int 42)), ("ab", .arr [.bool true, .str "x"])]
    let ps : List Piece :=
      [.hole "ab", .hole "", .hole "a", .literal [':', ' '], .hole "a", .hole "abc"]
    ((∀ p ∈ ps, p.Plain) ∧ m.Plain ∧ (m.map (·.1)).Nodup) ∧
      substitute m (String.ofList (ps.flatMap Piece.written)) =
        "[true,\"x\"]42: 42\x7b\x7babc\x7d\x7d" ∧
      substitute m.reverse (String.ofList (ps.flatMap Piece.written)) =
        substitute m (String.ofList (ps.flatMap Piece.written)) := by
  intro m ps
  have fine : (∀ p ∈ ps, p.Plain) ∧ m.Plain ∧ (m.map (·.1)).Nodup := by decide
  obtain ⟨filled, ordered⟩ := substitute_pieces fine.1 fine.2.1 fine.2.2
  exact ⟨fine, filled.trans (by decide), ordered _ m.reverse_perm⟩

end PushDelivery
