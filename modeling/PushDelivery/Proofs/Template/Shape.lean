import Mathlib.Algebra.BigOperators.Group.List.Basic
import Mathlib.Algebra.GroupWithZero.Nat
import Mathlib.Data.List.Dedup
import PushDelivery.Proofs.Json.Values
import PushDelivery.Template.Substitution

/-!
# The Shape of What Is Substituted

Substitution goes through a value and replaces its texts. Arrays and objects stay what they are, and
so do numbers, truth values and nulls. But the keys of an object are texts too, and two keys that
were different may become equal. An object has one entry per key, so all but the last of such
entries are lost. This module says exactly what becomes of the entries, and when all of them stay.
The keys of a template's data are not replaced, so its own entries always stay.

## Main definitions

* `Json.Shaped`: the shape that a value has when a function is applied to its texts and keys.
* `Json.KeepsApart`: no object inside a value has two keys that become equal.

## Main results

* `DataMap.exists_lost`: an object made of fields, and the fields that are lost.
* `shaped_substituteJson`: substitution keeps the shape.
* `length_parts_substituteJson`: it loses nothing exactly if keys stay apart.
-/

namespace PushDelivery

/-! ### Objects made of fields -/

namespace DataMap

variable {key other : String} {value : Json} {m : DataMap} {fields : List (String × Json)}

/-- A key that is inserted is there, beside the keys that were there before. -/
theorem mem_keys_insert :
    other ∈ (insert key value m).map (·.1) ↔ other = key ∨ other ∈ m.map (·.1) := by
  induction m with
  | nil => simp [insert]
  | cons f rest ih =>
      rw [insert]
      split
      · simp
      · split
        · rename_i same
          simp [same]
        · rw [List.map_cons, List.mem_cons, ih, List.map_cons, List.mem_cons]
          exact or_left_comm

/-- A value that is inserted is found at its key, and at all other keys what was there before. -/
theorem lookup_insert :
    (insert key value m).lookup other = if other = key then some value else m.lookup other := by
  have first : ∀ (k : String) (v : Json) (rest : DataMap),
      ((k, v) :: rest).lookup other = if other = k then some v else rest.lookup other := by
    intro k v rest
    rw [List.lookup_cons]
    by_cases same : other = k
    · simp [same]
    · simp [beq_eq_false_iff_ne.mpr same, same]
  induction m with
  | nil => exact first key value []
  | cons f rest ih =>
      obtain ⟨k, v⟩ := f
      rw [insert]
      split
      · exact first key value _
      · split
        · rename_i equal
          rw [first, first, equal]
          split <;> rfl
        · rename_i differs
          rw [first, first, ih]
          by_cases same : other = k
          · simp [same, Ne.symm differs]
          · simp [same]

/-- What is inserted takes the place of at most one field. -/
theorem exists_replaced (key : String) (value : Json) (m : DataMap) :
    ∃ replaced, ((key, value) :: m).Perm (insert key value m ++ replaced) := by
  induction m with
  | nil => exact ⟨[], .refl _⟩
  | cons f rest ih =>
      rw [insert]
      split
      · exact ⟨[], by rw [List.append_nil]⟩
      · split
        · exact ⟨[f], (List.Perm.swap f _ rest).trans
            (List.perm_append_singleton f ((key, value) :: rest)).symm⟩
        · obtain ⟨replaced, same⟩ := ih
          exact ⟨replaced, (List.Perm.swap f _ rest).trans (same.cons f)⟩

/-- The keys of an object are those of the fields that it is made of. -/
theorem mem_keys_ofFields : key ∈ (ofFields fields).map (·.1) ↔ key ∈ fields.map (·.1) := by
  suffices h : ∀ m : DataMap, key ∈ (fields.foldl (fun m f => insert f.1 f.2 m) m).map (·.1) ↔
      key ∈ m.map (·.1) ∨ key ∈ fields.map (·.1) from
    (h []).trans (or_iff_right (List.not_mem_nil))
  induction fields with
  | nil => simp
  | cons f rest ih =>
      intro m
      rw [List.foldl_cons, ih, mem_keys_insert, List.map_cons, List.mem_cons]
      exact or_assoc.trans or_left_comm

/-- An object has one entry for each of the keys that it is made of. -/
theorem keys_ofFields (fields : List (String × Json)) :
    ((ofFields fields).map (·.1)).Perm (fields.map (·.1)).dedup := by
  have nodup : ((ofFields fields).map (·.1)).Nodup :=
    (ofFields_keeps fields).1.imp fun less => ne_of_lt less
  refine (List.perm_ext_iff_of_nodup nodup (List.nodup_dedup _)).mpr fun key => ?_
  rw [mem_keys_ofFields, List.mem_dedup]

/-- It keeps all of them exactly if no two have one key. -/
theorem length_ofFields_iff :
    (ofFields fields).length = fields.length ↔ (fields.map (·.1)).Nodup := by
  have count : (ofFields fields).length = (fields.map (·.1)).dedup.length := by
    rw [← (keys_ofFields fields).length_eq, List.length_map]
  rw [count, ← List.dedup_eq_self]
  constructor
  · exact fun same => (List.dedup_sublist _).eq_of_length (same.trans (List.length_map _).symm)
  · exact fun same => (congrArg List.length same).trans (List.length_map _)

/-- Of the fields with one key the last one counts. -/
theorem lookup_ofFields : (ofFields fields).lookup key = fields.reverse.lookup key := by
  suffices h : ∀ m : DataMap, (fields.foldl (fun m f => insert f.1 f.2 m) m).lookup key =
      (fields.reverse ++ m).lookup key by
    rw [ofFields, h, List.append_nil]
  induction fields with
  | nil => exact fun m => rfl
  | cons f rest ih =>
      intro m
      rw [List.foldl_cons, ih, List.reverse_cons, List.append_assoc, List.lookup_append,
        List.lookup_append, lookup_insert, List.singleton_append, List.lookup_cons]
      by_cases same : key = f.1
      · simp [same]
      · simp [beq_eq_false_iff_ne.mpr same, same]

/-- An object made of fields, and the fields that are lost since their keys come again. -/
theorem exists_lost (fields : List (String × Json)) :
    ∃ lost, fields.Perm (ofFields fields ++ lost) ∧
      (lost = [] ↔ (fields.map (·.1)).Nodup) := by
  suffices h : ∀ m : DataMap, ∃ lost,
      (fields ++ m).Perm (fields.foldl (fun m f => insert f.1 f.2 m) m ++ lost) by
    obtain ⟨lost, same⟩ := h []
    rw [List.append_nil] at same
    refine ⟨lost, same, ?_⟩
    rw [← length_ofFields_iff, same.length_eq, ofFields, List.length_append, eq_comm (b := _ + _),
      Nat.add_eq_left, List.length_eq_zero_iff]
  induction fields with
  | nil => exact fun m => ⟨[], by simp⟩
  | cons f rest ih =>
      intro m
      obtain ⟨replaced, first⟩ := exists_replaced f.1 f.2 m
      obtain ⟨lost, others⟩ := ih (insert f.1 f.2 m)
      refine ⟨lost ++ replaced, (List.perm_middle.symm.trans (first.append_left rest)).trans ?_⟩
      rw [List.foldl_cons, ← List.append_assoc, ← List.append_assoc]
      exact others.append_right replaced

end DataMap

/-! ### Shapes -/

namespace Json

/-- The second value has the shape of the first one, with a function applied to its texts and keys.
Numbers, truth values and nulls are the same. An array has as many items in the same order. An
object has one entry for each text that its keys become, and there the value of the last key that
becomes this text. -/
inductive Shaped (f : String → String) : Json → Json → Prop
  | null : Shaped f .null .null
  | bool (b : Bool) : Shaped f (.bool b) (.bool b)
  | num (n : Number) : Shaped f (.num n) (.num n)
  | str (s : String) : Shaped f (.str s) (.str (f s))
  | arr {items items' : List Json} (each : List.Forall₂ (Shaped f) items items') :
      Shaped f (.arr items) (.arr items')
  | obj {fields fields' : List (String × Json)}
      (keys : (fields'.map (·.1)).Perm (fields.map (f ·.1)).dedup)
      (last : ∀ before key v after v', fields = before ++ (key, v) :: after →
        (∀ g ∈ after, f g.1 ≠ f key) → fields'.lookup (f key) = some v' → Shaped f v v') :
      Shaped f (.obj fields) (.obj fields')

/-- No object inside a value has two keys that become equal. -/
def KeepsApart (f : String → String) (v : Json) : Prop :=
  ∀ fields, .obj fields ∈ v.parts → (fields.map (f ·.1)).Nodup

theorem keepsApart_arr {f : String → String} {items : List Json} :
    KeepsApart f (.arr items) ↔ ∀ v ∈ items, KeepsApart f v := by
  simp only [KeepsApart, mem_parts_arr, reduceCtorEq, false_or]
  constructor
  · exact fun h v hv fields hf => h fields ⟨v, hv, hf⟩
  · rintro h fields ⟨v, hv, hf⟩
    exact h v hv fields hf

theorem keepsApart_obj {f : String → String} {fields : List (String × Json)} :
    KeepsApart f (.obj fields) ↔
      (fields.map (f ·.1)).Nodup ∧ ∀ g ∈ fields, KeepsApart f g.2 := by
  simp only [KeepsApart, mem_parts_obj, Json.obj.injEq]
  constructor
  · exact fun h => ⟨h fields (.inl rfl), fun g hg inner hm => h inner (.inr ⟨g, hg, hm⟩)⟩
  · rintro ⟨own, inside⟩ inner (rfl | ⟨g, hg, hm⟩)
    · exact own
    · exact inside g hg inner hm

/-- The parts of an array are its own one and those of its items. -/
theorem length_partsOfItems (items : List Json) :
    (partsOfItems items).length = (items.map fun v => v.parts.length).sum := by
  induction items with
  | nil => rfl
  | cons v rest ih => simp [partsOfItems, ih]

/-- The parts of an object are its own one and those of its values. -/
theorem length_partsOfFields (fields : List (String × Json)) :
    (partsOfFields fields).length = (fields.map fun f => f.2.parts.length).sum := by
  induction fields with
  | nil => rfl
  | cons f rest ih => simp [partsOfFields, ih]

/-- Every value is one of its parts. -/
theorem length_parts_pos (v : Json) : 0 < v.parts.length := by
  cases v <;> simp [parts]

end Json

/-! ### Substitution -/

variable (bindings : DataMap)

/-- Substitution in an array goes item by item. -/
theorem substituteItems_eq_map (items : List Json) :
    substituteItems bindings items = items.map (substituteJson bindings) := by
  induction items with
  | nil => rfl
  | cons v rest ih => rw [substituteItems, ih, List.map_cons]

/-- Substitution in an object goes field by field. -/
theorem substituteFields_eq_map (fields : List (String × Json)) :
    substituteFields bindings fields =
      fields.map fun f => (substitute bindings f.1, substituteJson bindings f.2) := by
  induction fields with
  | nil => rfl
  | cons f rest ih => rw [substituteFields, ih, List.map_cons]

/-- The keys of an object after substitution, before equal ones are merged. -/
theorem keys_substituteFields (fields : List (String × Json)) :
    (substituteFields bindings fields).map (·.1) = fields.map (substitute bindings ·.1) := by
  rw [substituteFields_eq_map, List.map_map]
  rfl

/-- The entry of an object at a key that no later key becomes too. -/
theorem lookup_substituteFields {before after : List (String × Json)} {key : String} {v : Json}
    (last : ∀ g ∈ after, substitute bindings g.1 ≠ substitute bindings key) :
    (DataMap.ofFields (substituteFields bindings (before ++ (key, v) :: after))).lookup
      (substitute bindings key) = some (substituteJson bindings v) := by
  have absent : (after.map fun f =>
      (substitute bindings f.1, substituteJson bindings f.2)).reverse.lookup
        (substitute bindings key) = none := by
    refine List.lookup_eq_none_iff.mpr fun g hg => ?_
    obtain ⟨f, hf, rfl⟩ := List.mem_map.mp (List.mem_reverse.mp hg)
    simpa using (last f hf).symm
  rw [DataMap.lookup_ofFields, substituteFields_eq_map, List.map_append, List.map_cons,
    List.reverse_append, List.reverse_cons, List.append_assoc, List.lookup_append, absent]
  simp

/-- **Substitution keeps the shape** of a value. -/
theorem shaped_substituteJson (v : Json) :
    Json.Shaped (substitute bindings) v (substituteJson bindings v) := by
  induction v using Json.induction with
  | null => exact .null
  | bool b => exact .bool b
  | num n => exact .num n
  | str s => exact .str s
  | arr items ih =>
      rw [substituteJson, substituteItems_eq_map]
      refine .arr (List.forall₂_map_right_iff.mpr (List.forall₂_same.mpr ih))
  | obj fields ih =>
      rw [substituteJson]
      refine .obj ?_ ?_
      · rw [← keys_substituteFields]
        exact DataMap.keys_ofFields _
      · rintro before key v after v' rfl last found
        rw [lookup_substituteFields bindings last] at found
        obtain rfl := Option.some.inj found
        exact ih (key, v) (by simp)

/-- Numbers none of which is more than its counterpart have no greater sum, and the same one exactly
if all are the same. -/
theorem sum_map_le {α : Type} {l : List α} {f g : α → Nat} (each : ∀ a ∈ l, f a ≤ g a) :
    (l.map f).sum ≤ (l.map g).sum ∧
      ((l.map f).sum = (l.map g).sum ↔ ∀ a ∈ l, f a = g a) := by
  induction l with
  | nil => simp
  | cons a rest ih =>
      obtain ⟨first, others⟩ := List.forall_mem_cons.mp each
      obtain ⟨less, same⟩ := ih others
      simp only [List.map_cons, List.sum_cons, List.forall_mem_cons, ← same]
      omega

/-- **Substitution loses nothing exactly if keys stay apart.** A value has as many parts after
substitution as before, unless two keys of an object in it become equal; then it has fewer. -/
theorem length_parts_substituteJson (v : Json) :
    (substituteJson bindings v).parts.length ≤ v.parts.length ∧
      ((substituteJson bindings v).parts.length = v.parts.length ↔
        v.KeepsApart (substitute bindings)) := by
  induction v using Json.induction with
  | null | bool | num | str => simp [substituteJson, Json.parts, Json.KeepsApart]
  | arr items ih =>
      obtain ⟨less, same⟩ := sum_map_le fun v hv => (ih v hv).1
      simp only [substituteJson, substituteItems_eq_map, Json.parts, List.length_cons,
        Json.length_partsOfItems, List.map_map, Function.comp_def, Nat.add_le_add_iff_right,
        Nat.add_right_cancel_iff, Json.keepsApart_arr, same]
      exact ⟨less, forall₂_congr fun v hv => (ih v hv).2⟩
  | obj fields ih =>
      obtain ⟨less, same⟩ := sum_map_le fun f hf => (ih f hf).1
      rw [forall₂_congr fun f hf => (ih f hf).2] at same
      -- The fields after substitution are those that stay and those that are lost.
      obtain ⟨lost, split, none⟩ := DataMap.exists_lost (substituteFields bindings fields)
      have total := (split.map fun f => f.2.parts.length).sum_eq
      rw [List.map_append, List.sum_append, substituteFields_eq_map, List.map_map] at total
      have free : (lost.map fun f => f.2.parts.length).sum = 0 ↔
          (fields.map (substitute bindings ·.1)).Nodup := by
        rw [← keys_substituteFields, ← none]
        cases lost with
        | nil => simp
        | cons f rest => simp [Nat.ne_of_gt f.2.length_parts_pos]
      rw [substituteJson, Json.parts, Json.parts, List.length_cons, List.length_cons,
        Json.length_partsOfFields, Json.length_partsOfFields, Json.keepsApart_obj, ← free, ← same,
        substituteFields_eq_map]
      simp only [Function.comp_def] at total
      omega

/-- The data of a template keep all their keys, in their order. -/
theorem shaped_substituteData (data : DataMap) :
    List.Forall₂ (fun f g => g.1 = f.1 ∧ Json.Shaped (substitute bindings) f.2 g.2) data
      (substituteData bindings data) := by
  refine List.forall₂_map_right_iff.mpr (List.forall₂_same.mpr fun f _ => ⟨rfl, ?_⟩)
  exact shaped_substituteJson bindings f.2

/-- **What substitution keeps, and what it loses.** A value keeps its shape: numbers, truth values
and nulls stay the same, arrays keep their items in order, and objects have one entry for each text
that their keys become. So an object keeps its number of entries exactly if no two of its keys
become equal, and a value keeps all its parts exactly if this is so in every object inside it. The
entries of a template's data all stay, in their order, under their own keys. -/
theorem shape_of_substitution (v : Json) (data : DataMap) :
    Json.Shaped (substitute bindings) v (substituteJson bindings v) ∧
      (∀ fields, ∃ fields', substituteJson bindings (.obj fields) = .obj fields' ∧
        (fields'.length = fields.length ↔ (fields.map (substitute bindings ·.1)).Nodup)) ∧
      (substituteJson bindings v).parts.length ≤ v.parts.length ∧
      ((substituteJson bindings v).parts.length = v.parts.length ↔
        v.KeepsApart (substitute bindings)) ∧
      List.Forall₂ (fun f g => g.1 = f.1 ∧ Json.Shaped (substitute bindings) f.2 g.2) data
        (substituteData bindings data) := by
  obtain ⟨less, same⟩ := length_parts_substituteJson bindings v
  refine ⟨shaped_substituteJson bindings v, fun fields => ⟨_, by rw [substituteJson], ?_⟩, less,
    same, shaped_substituteData bindings data⟩
  rw [← keys_substituteFields, ← DataMap.length_ofFields_iff]
  rw [substituteFields_eq_map, List.length_map]

/-- An object whose second key becomes its first one. -/
def mergingFields : List (String × Json) := [("x", .ofNat 1), ("\x7b\x7ba\x7d\x7d", .ofNat 2)]

/-- It loses the value of the first one. -/
theorem keys_merged : DataMap.Sorted mergingFields ∧
    substituteJson [("a", .str "x")] (.obj mergingFields) = .obj [("x", .ofNat 2)] ∧
    [("x", Json.ofNat 2)].length ≠ mergingFields.length := by
  refine ⟨?_, by decide +kernel, by decide⟩
  exact List.pairwise_pair.mpr (by decide)

end PushDelivery
