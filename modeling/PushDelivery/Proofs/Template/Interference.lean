import Mathlib.Algebra.Order.BigOperators.Group.List
import PushDelivery.Proofs.Json.Values
import PushDelivery.Proofs.Template.Pieces

/-!
# Interference of Variables

Each variable is applied to what those before it left behind. So a placeholder that is replaced
need not be one of the text: the text of an earlier variable may hold it, or its end may meet
characters of the text with which it forms one. This module states exactly when a variable has no
influence on what becomes of a text, whatever its value is or whether it is there at all: when its
placeholder is not in what the variables before it in the order of names leave behind. It may be
there although it is not in the text.

## Main definitions

* `DataMap.assign`: a map with one variable set or removed.
* `DataMap.around`: a map as the fields before a key, its own one, and those behind it.

## Main results

* `DataMap.assign_eq_around`, `DataMap.exists_eq_around`: sorted maps are maps around each key.
* `replaceAll_around_block`: a placeholder is not replaced across a long enough block without
  braces.
* `unaffected_iff`: the variables without influence on a text.
* `unaffected_of_pieces`: without braces in literals, names and values, a variable whose placeholder
  is not in a text has no influence on it.
* `values_expanded`: texts that a variable changes although its placeholder is not in them.
-/

namespace PushDelivery

/-! ### One variable of a map -/

namespace DataMap

/-- A map with a variable set to a value, or removed. -/
def assign (name : String) (value : Option Json) (m : DataMap) : DataMap :=
  match value with
  | some v => insert name v m
  | none => m.filter (·.1 ≠ name)

/-- The fields before a key. -/
def earlier (name : String) (m : DataMap) : DataMap := m.filter (·.1 < name)

/-- The fields behind a key. -/
def later (name : String) (m : DataMap) : DataMap := m.filter (name < ·.1)

/-- The fields of a map before a key, its own field, if it is to have one, and those behind it. -/
def around (name : String) (value : Option Json) (m : DataMap) : DataMap :=
  m.earlier name ++ (value.toList.map (name, ·) ++ m.later name)

variable {m : DataMap} {f : String × Json} {name : String}

/-- A first field before the key is before it in the map around the key too. -/
theorem around_cons_of_lt (h : f.1 < name) (value : Option Json) :
    around name value (f :: m) = f :: around name value m := by
  have behind : later name (f :: m) = later name m := by
    rw [later, List.filter_cons, if_neg fun above => h.asymm (of_decide_eq_true above), later]
  rw [around, earlier, List.filter_cons, if_pos (decide_eq_true h), behind]
  rfl

/-- If all fields are behind the key, none of them is before it in the map around it. -/
theorem around_of_forall_gt (h : ∀ g ∈ m, name < g.1) (value : Option Json) :
    around name value m = value.toList.map (name, ·) ++ m := by
  have none_before : m.earlier name = [] :=
    List.filter_eq_nil_iff.mpr fun g hg below => (h g hg).asymm (of_decide_eq_true below)
  have all_behind : m.later name = m :=
    List.filter_eq_self.mpr fun g hg => decide_eq_true (h g hg)
  rw [around, none_before, all_behind, List.nil_append]

/-- The field of the key itself is in no map around the key but as its own. -/
theorem around_cons_self (value : Option Json) (v : Json) :
    around name value ((name, v) :: m) = around name value m := by
  have same {p : Prop} [Decidable p] (h : ¬ p) : ¬ decide p = true := fun hp =>
    h (of_decide_eq_true hp)
  rw [around, earlier, later, List.filter_cons, List.filter_cons, if_neg (same (lt_irrefl name)),
    if_neg (same (lt_irrefl name))]
  rfl

/-- The fields behind the first one of a sorted map have greater keys. -/
theorem Sorted.lt_of_mem (h : Sorted (f :: m)) {g : String × Json} (hg : g ∈ m) : f.1 < g.1 :=
  (List.pairwise_cons.mp h).1 g.1 (List.mem_map_of_mem hg)

/-- Setting or removing a variable of a sorted map leaves the fields before and behind it. -/
theorem assign_eq_around (h : Sorted m) (name : String) (value : Option Json) :
    m.assign name value = around name value m := by
  induction m with
  | nil => cases value <;> rfl
  | cons f m ih =>
      have hm : Sorted m := (List.pairwise_cons.mp h).2
      rcases lt_trichotomy f.1 name with hlt | heq | hgt
      · rw [around_cons_of_lt hlt, ← ih hm]
        cases value with
        | none => rw [assign, List.filter_cons, if_pos (decide_eq_true hlt.ne), assign]
        | some v =>
            rw [assign, insert, if_neg hlt.asymm, if_neg hlt.ne']
            rfl
      · obtain ⟨k, w⟩ := f
        subst heq
        have behind : ∀ g ∈ m, k < g.1 := fun g hg => h.lt_of_mem hg
        rw [around_cons_self, around_of_forall_gt behind]
        cases value with
        | none =>
            rw [assign, List.filter_cons_of_neg (by simp)]
            exact List.filter_eq_self.mpr fun g hg => decide_eq_true (behind g hg).ne'
        | some v =>
            rw [assign, insert, if_neg (lt_irrefl k), if_pos rfl]
            rfl
      · have behind : ∀ g ∈ f :: m, name < g.1 :=
          List.forall_mem_cons.mpr ⟨hgt, fun g hg => hgt.trans (h.lt_of_mem hg)⟩
        rw [around_of_forall_gt behind]
        cases value with
        | none => exact List.filter_eq_self.mpr fun g hg => decide_eq_true (behind g hg).ne'
        | some v =>
            rw [assign, insert, if_pos hgt]
            rfl

/-- A sorted map is a map around each key, with or without a field of its own. -/
theorem exists_eq_around (h : Sorted m) (name : String) :
    ∃ value, m = around name value m := by
  induction m with
  | nil => exact ⟨none, rfl⟩
  | cons f m ih =>
      have hm : Sorted m := (List.pairwise_cons.mp h).2
      rcases lt_trichotomy f.1 name with hlt | heq | hgt
      · obtain ⟨value, hvalue⟩ := ih hm
        exact ⟨value, by rw [around_cons_of_lt hlt, ← hvalue]⟩
      · obtain ⟨k, w⟩ := f
        subst heq
        refine ⟨some w, ?_⟩
        rw [around_cons_self, around_of_forall_gt fun g hg => h.lt_of_mem hg]
        rfl
      · have behind : ∀ g ∈ f :: m, name < g.1 :=
          List.forall_mem_cons.mpr ⟨hgt, fun g hg => hgt.trans (h.lt_of_mem hg)⟩
        exact ⟨none, (around_of_forall_gt behind none).symm⟩

end DataMap

/-- Variables around a key are applied in three parts. -/
theorem substituteChars_around (m : DataMap) (name : String) (value : Option Json)
    (text : List Char) :
    substituteChars (m.around name value) text =
      substituteChars (m.later name) (value.elim (substituteChars (m.earlier name) text) fun v =>
        replaceAll (placeholder name.toList) (variableText v)
          (substituteChars (m.earlier name) text)) := by
  rw [substituteChars, DataMap.around, List.foldl_append, List.foldl_append]
  cases value <;> rfl

/-! ### Blocks -/

variable {name replacement : List Char} {c : Char} {n : Nat}

/-- A placeholder ends with a closing brace. -/
theorem closing_mem_of_placeholder_eq {front back : List Char}
    (h : placeholder name = front ++ back) (hback : back ≠ []) : '}' ∈ back := by
  have final : (placeholder name).getLast? = some '}' := by
    rw [placeholder, List.getLast?_append]
    rfl
  rw [h, List.getLast?_append_of_ne_nil _ hback] at final
  exact List.mem_of_getLast? final

/-- A placeholder that begins before a long enough block ends before it. -/
theorem not_placeholder_isPrefix_block {text : List Char} (closes : c ≠ '}')
    (short : (placeholder name).length ≤ n) (rest : List Char)
    (h : ¬ placeholder name <+: text) :
    ¬ placeholder name <+: text ++ (List.replicate n c ++ rest) := by
  intro occurs
  -- It would go on behind the text, but not beyond the block, so that its last brace were in there.
  have long : text.length < (placeholder name).length := by
    by_contra within
    exact h (List.prefix_of_prefix_length_le occurs (List.prefix_append _ _) (not_lt.mp within))
  obtain ⟨back, hback⟩ := List.prefix_of_prefix_length_le (List.prefix_append _ _) occurs long.le
  have nonempty : back ≠ [] := by
    rintro rfl
    exact absurd (congrArg List.length hback) (by simpa using long.ne)
  have inside : back <+: List.replicate n c := by
    have begins : back <+: List.replicate n c ++ rest := by
      rwa [← hback, List.prefix_append_right_inj] at occurs
    have few : back.length ≤ n := by
      have total := congrArg List.length hback
      rw [List.length_append] at total
      omega
    exact List.prefix_of_prefix_length_le begins (List.prefix_append _ _) (by simpa using few)
  have brace := closing_mem_of_placeholder_eq hback.symm nonempty
  exact closes (List.eq_of_mem_replicate (inside.subset brace)).symm

/-- A variable is applied to what is before and behind a long enough block without braces. -/
theorem replaceAll_around_block (opens : c ≠ '{') (closes : c ≠ '}')
    (short : (placeholder name).length ≤ n) (before after : List Char) :
    replaceAll (placeholder name) replacement (before ++ (List.replicate n c ++ after)) =
      replaceAll (placeholder name) replacement before ++
        (List.replicate n c ++ replaceAll (placeholder name) replacement after) := by
  -- The induction follows the search through what is before the block.
  induction before using replaceAll.induct (placeholder name) with
  | case1 =>
      have brace : '{' ∉ List.replicate n c := fun h => opens (List.eq_of_mem_replicate h).symm
      rw [replaceAll, List.nil_append, List.nil_append, replaceAll_append_of_braceless brace]
  | case2 d rest occurs ih =>
      obtain ⟨text, htext⟩ := List.isPrefixOf_iff_prefix.mp occurs.2
      rw [← htext, List.drop_left] at ih
      rw [← htext, List.append_assoc, replaceAll_placeholder_self, replaceAll_placeholder_self, ih,
        List.append_assoc]
  | case3 d rest absent ih =>
      have here : ¬ placeholder name <+: d :: rest := fun h =>
        absent ⟨placeholder_ne_nil _, List.isPrefixOf_iff_prefix.mpr h⟩
      have wide := not_placeholder_isPrefix_block closes short after here
      rw [List.cons_append] at wide ⊢
      rw [replaceAll_cons wide, replaceAll_cons here, ih, List.cons_append]

/-- A long enough block without braces is still there when variables have been applied. -/
theorem block_infix_substituteChars {m : DataMap} (opens : c ≠ '{') (closes : c ≠ '}')
    (short : ∀ f ∈ m, (placeholder f.1.toList).length ≤ n) {text : List Char}
    (h : List.replicate n c <:+: text) : List.replicate n c <:+: substituteChars m text := by
  induction m generalizing text with
  | nil => exact h
  | cons f m ih =>
      obtain ⟨hf, hm⟩ := List.forall_mem_cons.mp short
      obtain ⟨before, after, rfl⟩ := h
      refine ih hm ?_
      change _ <:+: replaceAll (placeholder f.1.toList) (variableText f.2) _
      rw [List.append_assoc, replaceAll_around_block opens closes hf, ← List.append_assoc]
      exact List.infix_append _ _ _

/-! ### Influence -/

/-- A variable whose placeholder is in what those before it leave behind has values that show in
the result, however long the result is to be. -/
theorem exists_long_of_infix {m : DataMap} {name : String} {text : List Char}
    (h : placeholder name.toList <:+: substituteChars (m.earlier name) text) (least : Nat) :
    ∃ v, least ≤ (substituteChars (m.around name (some v)) text).length := by
  -- The value is a block that no later placeholder reaches across.
  let lengths := (m.later name).map fun f => (placeholder f.1.toList).length
  let n := least + lengths.sum
  have short : ∀ f ∈ m.later name, (placeholder f.1.toList).length ≤ n := fun f hf =>
    have mem : (placeholder f.1.toList).length ∈ lengths := List.mem_map.mpr ⟨f, hf, rfl⟩
    Nat.le_trans (List.single_le_sum (fun _ _ => Nat.zero_le _) _ mem) (Nat.le_add_left _ _)
  let v : Json := .str (String.ofList (List.replicate n 'x'))
  obtain ⟨before, after, -, replaced⟩ :=
    replaceAll_of_infix (placeholder_ne_nil _) h (List.replicate n 'x')
  have shows : List.replicate n 'x' <:+: substituteChars (m.around name (some v)) text := by
    rw [substituteChars_around]
    refine block_infix_substituteChars (by decide) (by decide) short ?_
    rw [Option.elim_some, variableText, String.toList_ofList, replaced]
    exact List.infix_append _ _ _
  refine ⟨v, ?_⟩
  calc least ≤ n := Nat.le_add_right _ _
    _ = (List.replicate n 'x').length := (List.length_replicate).symm
    _ ≤ _ := shows.length_le

/-- A variable has no influence on a text if its placeholder is not in what the variables before it
leave behind. -/
theorem unaffected_of_not_infix {m : DataMap} (sorted : m.Sorted) {name text : String}
    (absent : ¬ placeholder name.toList <:+: substituteChars (m.earlier name) text.toList)
    (value : Option Json) : substitute (m.assign name value) text = substitute m text := by
  -- Whatever value is applied, or none, it finds nothing to replace.
  have idle : ∀ value, substituteChars (m.around name value) text.toList =
      substituteChars (m.later name) (substituteChars (m.earlier name) text.toList) := by
    intro value
    rw [substituteChars_around]
    cases value with
    | none => rfl
    | some v => rw [Option.elim_some, replaceAll_of_not_infix absent]
  obtain ⟨own, hown⟩ := DataMap.exists_eq_around sorted name
  have kept : substituteChars m text.toList =
      substituteChars (m.around name own) text.toList := by rw [← hown]
  rw [substitute, substitute, DataMap.assign_eq_around sorted, kept, idle, idle]

/-- **Variables without influence.** Setting a variable to whatever value, or removing it, changes
nothing about what becomes of a text exactly if its placeholder is not in what the variables before
it, in the order of their names, leave behind. -/
theorem unaffected_iff {m : DataMap} (sorted : m.Sorted) (name text : String) :
    (∀ value : Option Json, substitute (m.assign name value) text = substitute m text) ↔
      ¬ placeholder name.toList <:+: substituteChars (m.earlier name) text.toList := by
  refine ⟨fun same occurs => ?_, unaffected_of_not_infix sorted⟩
  obtain ⟨v, long⟩ := exists_long_of_infix occurs ((substituteChars m text.toList).length + 1)
  have equal := String.ofList_injective (same (some v))
  rw [DataMap.assign_eq_around sorted] at equal
  rw [equal] at long
  exact Nat.not_succ_le_self _ long

/-- The placeholder of a variable as a text. -/
def placeholderText (name : String) : String := String.ofList (placeholder name.toList)

/-- A value stays as it is if it holds the placeholder of a variable that was applied before. -/
theorem unaffected_iff_first :
    let m : DataMap := [("a", .str "x"), ("b", .str (placeholderText "a"))]
    m.Sorted ∧ ∀ value,
      substitute (m.assign "a" value) (placeholderText "b") =
        substitute m (placeholderText "b") := by
  intro m
  have sorted : m.Sorted := List.pairwise_pair.mpr (by decide)
  exact ⟨sorted, (unaffected_iff sorted _ _).mpr (by decide +kernel)⟩

/-- A variable whose placeholder is not in the text changes the result: the value of an earlier one
is that placeholder, or forms it with the braces around it. -/
theorem values_expanded :
    (¬ placeholder "b".toList <:+: (placeholderText "a").toList ∧
      substitute [("a", .str (placeholderText "b")), ("b", .str "x")] (placeholderText "a") = "x" ∧
      substitute [("a", .str (placeholderText "b"))] (placeholderText "a") = placeholderText "b") ∧
    (¬ placeholder "b".toList <:+: ("\x7b\x7b" ++ placeholderText "a" ++ "\x7d\x7d").toList ∧
      substitute [("a", .str "b"), ("b", .str "x")]
        ("\x7b\x7b" ++ placeholderText "a" ++ "\x7d\x7d") = "x" ∧
      substitute [("a", .str "b")] ("\x7b\x7b" ++ placeholderText "a" ++ "\x7d\x7d") =
        placeholderText "b") := by
  decide +kernel

/-- Where there are no braces but those of placeholders, a variable whose placeholder is not in a
text has no influence on it, even if braces are in its own values. -/
theorem unaffected_of_pieces {m : DataMap} (sorted : m.Sorted) {name : String} {ps : List Piece}
    (plain : ∀ p ∈ ps, p.Plain) (hname : Braceless name.toList) (values : (m.earlier name).Plain)
    (absent : .hole name ∉ ps) (value : Option Json) :
    substitute (m.assign name value) (String.ofList (ps.flatMap Piece.written)) =
      substitute m (String.ofList (ps.flatMap Piece.written)) := by
  refine unaffected_of_not_infix sorted ?_ value
  rw [String.toList_ofList, substituteChars_written values plain]
  refine not_infix_written hname (List.forall_mem_map.mpr fun p hp => (plain p hp).fill values) ?_
  intro left
  obtain ⟨p, hp, hole⟩ := List.mem_map.mp left
  exact absent (Piece.eq_hole_of_fill hole ▸ hp)

end PushDelivery
