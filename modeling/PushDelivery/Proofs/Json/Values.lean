import Mathlib.Data.String.Basic
import PushDelivery.Json.Document

/-!
# Values and Documents

A document becomes a value when its strings have texts, its numbers have values, its keys are sorted
and its arrays and objects are not too many inside one another. This module states what comes of
that and what does not: a value that was decoded is sorted throughout, nests no deeper than was
allowed, and holds no number that the document did not hold; and a sorted value is decoded from its
own document exactly when it does not nest too deep.

## Main definitions

* `Json.parts`, `Document.parts`: what is inside a value or a document, itself included.
* `Json.depth`: the number of arrays and objects around the innermost part.
* `Json.Sorted`: every object inside is sorted by key, with one field per key.

## Main results

* `Document.json?_ofJson`: a sorted value comes back if it fits, and else nothing does.
* `Document.sorted_of_json?`, `Document.depth_le_of_json?`, `Document.num_of_json?`: what is true of
  every value that was decoded.
-/

namespace PushDelivery

/-! ### The parts of a value -/

namespace Json

/-- What holds of an array or object whenever it holds of everything in it holds of every value. -/
@[elab_as_elim]
theorem induction {P : Json → Prop} (null : P .null) (bool : ∀ b, P (.bool b))
    (num : ∀ n, P (.num n)) (str : ∀ s, P (.str s))
    (arr : ∀ items, (∀ v ∈ items, P v) → P (.arr items))
    (obj : ∀ fields, (∀ f ∈ fields, P f.2) → P (.obj fields)) (v : Json) : P v :=
  @Json.rec P (fun items => ∀ v ∈ items, P v) (fun fields => ∀ f ∈ fields, P f.2) (fun f => P f.2)
    null bool num str arr obj
    nofun (fun _ _ first rest => List.forall_mem_cons.mpr ⟨first, rest⟩)
    nofun (fun _ _ first rest => List.forall_mem_cons.mpr ⟨first, rest⟩) (fun _ _ value => value) v

mutual

/-- The values inside a value, itself included. -/
def parts : Json → List Json
  | .arr items => .arr items :: partsOfItems items
  | .obj fields => .obj fields :: partsOfFields fields
  | v => [v]

/-- The values inside the items of an array. -/
def partsOfItems : List Json → List Json
  | [] => []
  | v :: rest => parts v ++ partsOfItems rest

/-- The values inside the fields of an object. -/
def partsOfFields : List (String × Json) → List Json
  | [] => []
  | (_, v) :: rest => parts v ++ partsOfFields rest

end

mutual

/-- The number of arrays and objects around the innermost part of a value, itself counted. -/
def depth : Json → Nat
  | .arr items => depthOfItems items + 1
  | .obj fields => depthOfFields fields + 1
  | _ => 0

/-- The greatest depth of the items of an array. -/
def depthOfItems : List Json → Nat
  | [] => 0
  | v :: rest => max (depth v) (depthOfItems rest)

/-- The greatest depth of the fields of an object. -/
def depthOfFields : List (String × Json) → Nat
  | [] => 0
  | (_, v) :: rest => max (depth v) (depthOfFields rest)

end

theorem mem_partsOfItems {w : Json} {items : List Json} :
    w ∈ partsOfItems items ↔ ∃ v ∈ items, w ∈ v.parts := by
  induction items with
  | nil => simp [partsOfItems]
  | cons v rest ih => simp [partsOfItems, ih]

theorem mem_partsOfFields {w : Json} {fields : List (String × Json)} :
    w ∈ partsOfFields fields ↔ ∃ f ∈ fields, w ∈ f.2.parts := by
  induction fields with
  | nil => simp [partsOfFields]
  | cons f rest ih => simp [partsOfFields, ih]

@[simp] theorem mem_parts_arr {w : Json} {items : List Json} :
    w ∈ (Json.arr items).parts ↔ w = .arr items ∨ ∃ v ∈ items, w ∈ v.parts := by
  rw [parts, List.mem_cons, mem_partsOfItems]

@[simp] theorem mem_parts_obj {w : Json} {fields : List (String × Json)} :
    w ∈ (Json.obj fields).parts ↔ w = .obj fields ∨ ∃ f ∈ fields, w ∈ f.2.parts := by
  rw [parts, List.mem_cons, mem_partsOfFields]

theorem depthOfItems_le {items : List Json} {room : Nat} :
    depthOfItems items ≤ room ↔ ∀ v ∈ items, v.depth ≤ room := by
  induction items with
  | nil => simp [depthOfItems]
  | cons v rest ih => simp [depthOfItems, ih]

theorem depthOfFields_le {fields : List (String × Json)} {room : Nat} :
    depthOfFields fields ≤ room ↔ ∀ f ∈ fields, f.2.depth ≤ room := by
  induction fields with
  | nil => simp [depthOfFields]
  | cons f rest ih => simp [depthOfFields, ih]

/-- Every object inside a value is sorted by key, with one field per key. -/
def Sorted (v : Json) : Prop := ∀ fields, .obj fields ∈ v.parts → DataMap.Sorted fields

theorem sorted_arr {items : List Json} : (Json.arr items).Sorted ↔ ∀ v ∈ items, v.Sorted := by
  simp only [Sorted, mem_parts_arr, reduceCtorEq, false_or]
  exact ⟨fun h v hv fields hf => h fields ⟨v, hv, hf⟩, fun h fields ⟨v, hv, hf⟩ => h v hv fields hf⟩

theorem sorted_obj {fields : List (String × Json)} :
    (Json.obj fields).Sorted ↔ DataMap.Sorted fields ∧ ∀ f ∈ fields, f.2.Sorted := by
  simp only [Sorted, mem_parts_obj, Json.obj.injEq]
  constructor
  · exact fun h => ⟨h fields (.inl rfl), fun f hf m hm => h m (.inr ⟨f, hf, hm⟩)⟩
  · rintro ⟨h, _⟩ m (rfl | _)
    · exact h
    · rename_i hrest hin
      obtain ⟨f, hf, hm⟩ := hin
      exact hrest f hf m hm

end Json

/-! ### Sorted fields -/

namespace DataMap

/-- A field that is inserted is there, beside fields that were there before. -/
theorem mem_insert {f : String × Json} {key : String} {value : Json} {m : DataMap}
    (h : f ∈ insert key value m) : f = (key, value) ∨ f ∈ m := by
  induction m with
  | nil => exact .inl (List.mem_singleton.mp h)
  | cons g rest ih =>
      rw [insert] at h
      split at h
      · exact (List.mem_cons.mp h)
      · split at h
        · exact (List.mem_cons.mp h).imp_right (List.mem_cons_of_mem _)
        · rcases List.mem_cons.mp h with rfl | h
          · exact .inr List.mem_cons_self
          · exact (ih h).imp_right (List.mem_cons_of_mem _)

/-- Inserting keeps fields sorted. -/
theorem Sorted.insert {m : DataMap} (h : Sorted m) (key : String) (value : Json) :
    Sorted (insert key value m) := by
  induction m with
  | nil => exact List.pairwise_singleton _ _
  | cons f rest ih =>
      obtain ⟨k, v⟩ := f
      obtain ⟨hfirst, hrest⟩ := List.pairwise_cons.mp h
      rw [DataMap.insert]
      split
      · rename_i hlt
        refine List.pairwise_cons.mpr ⟨fun l hl => ?_, h⟩
        rcases List.mem_cons.mp hl with rfl | hl
        · exact hlt
        · exact lt_trans hlt (hfirst l hl)
      · rename_i hle
        split
        · rename_i heq
          subst heq
          exact List.pairwise_cons.mpr ⟨hfirst, hrest⟩
        · rename_i hne
          have hlt : k < key := lt_of_le_of_ne (not_lt.mp hle) (Ne.symm hne)
          refine List.pairwise_cons.mpr ⟨fun l hl => ?_, ih hrest⟩
          obtain ⟨g, hg, rfl⟩ := List.mem_map.mp hl
          rcases mem_insert hg with rfl | hg
          · exact hlt
          · exact hfirst g.1 (List.mem_map_of_mem hg)

/-- A field beyond all others is inserted at the end. -/
theorem insert_of_forall_lt {m : DataMap} {key : String} (h : ∀ f ∈ m, f.1 < key)
    (value : Json) : insert key value m = m ++ [(key, value)] := by
  induction m with
  | nil => rfl
  | cons f rest ih =>
      have hlt : f.1 < key := h f List.mem_cons_self
      rw [insert, if_neg (lt_asymm hlt), if_neg (ne_of_gt hlt),
        ih fun g hg => h g (List.mem_cons_of_mem _ hg), List.cons_append]

/-- Fields that are sorted after others are added to them in order. -/
theorem foldl_insert_of_sorted {before after : DataMap} (h : Sorted (before ++ after)) :
    after.foldl (fun m f => insert f.1 f.2 m) before = before ++ after := by
  induction after generalizing before with
  | nil => simp
  | cons f rest ih =>
      have hlt : ∀ g ∈ before, g.1 < f.1 := by
        intro g hg
        rw [Sorted, List.map_append, List.map_cons, List.pairwise_append] at h
        exact h.2.2 g.1 (List.mem_map_of_mem hg) f.1 List.mem_cons_self
      rw [List.foldl_cons, insert_of_forall_lt hlt, ih (by simpa using h), List.append_assoc,
        List.singleton_append]

/-- Sorted fields are the object of themselves. -/
theorem ofFields_of_sorted {m : DataMap} (h : Sorted m) : ofFields m = m :=
  @foldl_insert_of_sorted [] m h

/-- An object made of fields is sorted and holds no others. -/
theorem ofFields_keeps (fields : List (String × Json)) :
    Sorted (ofFields fields) ∧ ∀ f ∈ ofFields fields, f ∈ fields := by
  suffices h : ∀ m : DataMap, Sorted m → Sorted (fields.foldl (fun m f => insert f.1 f.2 m) m) ∧
      ∀ f ∈ fields.foldl (fun m f => insert f.1 f.2 m) m, f ∈ m ∨ f ∈ fields by
    obtain ⟨hsorted, hmem⟩ := h [] List.Pairwise.nil
    exact ⟨hsorted, fun f hf => (hmem f hf).resolve_left List.not_mem_nil⟩
  induction fields with
  | nil => exact fun m hm => ⟨hm, fun f hf => .inl hf⟩
  | cons g rest ih =>
      intro m hm
      obtain ⟨hsorted, hmem⟩ := ih _ (hm.insert g.1 g.2)
      refine ⟨hsorted, fun f hf => ?_⟩
      rcases hmem f hf with hf | hf
      · rcases mem_insert hf with rfl | hf
        · exact .inr List.mem_cons_self
        · exact .inl hf
      · exact .inr (List.mem_cons_of_mem _ hf)

end DataMap

/-! ### Documents -/

namespace Document

/-- What holds of an array or object whenever it holds of everything in it holds of every
document. -/
@[elab_as_elim]
theorem induction {P : Document → Prop} (null : P .null) (bool : ∀ b, P (.bool b))
    (num : ∀ n, P (.num n)) (str : ∀ s, P (.str s))
    (arr : ∀ items, (∀ d ∈ items, P d) → P (.arr items))
    (obj : ∀ fields, (∀ f ∈ fields, P f.2) → P (.obj fields)) (d : Document) : P d :=
  @Document.rec P (fun items => ∀ d ∈ items, P d) (fun fields => ∀ f ∈ fields, P f.2)
    (fun f => P f.2) null bool num str arr obj
    nofun (fun _ _ first rest => List.forall_mem_cons.mpr ⟨first, rest⟩)
    nofun (fun _ _ first rest => List.forall_mem_cons.mpr ⟨first, rest⟩) (fun _ _ value => value) d

/-! ### Decoding a value -/

/-- An item that was decoded comes from one of the documents. -/
theorem exists_of_items? {room : Nat} {items : List Document} {vs : List Json}
    (h : items? room items = some vs) : ∀ v ∈ vs, ∃ d ∈ items, json? room d = some v := by
  induction items generalizing vs with
  | nil =>
      obtain rfl := Option.some.inj h
      exact nofun
  | cons d rest ih =>
      simp only [items?, Option.bind_eq_bind, Option.bind_eq_some_iff, Option.pure_def,
        Option.some.injEq] at h
      obtain ⟨w, hw, more, hmore, rfl⟩ := h
      refine List.forall_mem_cons.mpr ⟨⟨d, List.mem_cons_self, hw⟩, fun v hv => ?_⟩
      obtain ⟨d', hd', hv⟩ := ih hmore v hv
      exact ⟨d', List.mem_cons_of_mem _ hd', hv⟩

/-- A field that was decoded comes from one of the documents. -/
theorem exists_of_fields? {room : Nat} {fields : List (Option String × Document)}
    {fs : List (String × Json)} (h : fields? room fields = some fs) :
    ∀ f ∈ fs, ∃ d ∈ fields, json? room d.2 = some f.2 := by
  induction fields generalizing fs with
  | nil =>
      obtain rfl := Option.some.inj h
      exact nofun
  | cons d rest ih =>
      simp only [fields?, Option.bind_eq_bind, Option.bind_eq_some_iff, Option.pure_def,
        Option.some.injEq] at h
      obtain ⟨key, -, w, hw, more, hmore, rfl⟩ := h
      refine List.forall_mem_cons.mpr ⟨⟨d, List.mem_cons_self, hw⟩, fun f hf => ?_⟩
      obtain ⟨d', hd', hf⟩ := ih hmore f hf
      exact ⟨d', List.mem_cons_of_mem _ hd', hf⟩

/-- An array is decoded from its items, with one less room for them. -/
theorem json?_arr {room : Nat} {items : List Document} {v : Json}
    (h : json? room (.arr items) = some v) :
    0 < room ∧ ∃ vs, v = .arr vs ∧ ∀ w ∈ vs, ∃ d ∈ items, json? (room - 1) d = some w := by
  rw [json?] at h
  split at h
  · cases h
  · rename_i hroom
    obtain ⟨vs, hvs, rfl⟩ := Option.map_eq_some_iff.mp h
    exact ⟨Nat.pos_of_ne_zero hroom, vs, rfl, exists_of_items? hvs⟩

/-- An object is decoded from its fields, with one less room for them, and sorted. -/
theorem json?_obj {room : Nat} {fields : List (Option String × Document)} {v : Json}
    (h : json? room (.obj fields) = some v) :
    0 < room ∧ ∃ fs, v = .obj fs ∧ DataMap.Sorted fs ∧
      ∀ f ∈ fs, ∃ d ∈ fields, json? (room - 1) d.2 = some f.2 := by
  rw [json?] at h
  split at h
  · cases h
  · rename_i hroom
    obtain ⟨fs, hfs, rfl⟩ := Option.map_eq_some_iff.mp h
    obtain ⟨hsorted, hmem⟩ := DataMap.ofFields_keeps fs
    exact ⟨Nat.pos_of_ne_zero hroom, _, rfl, hsorted,
      fun f hf => exists_of_fields? hfs f (hmem f hf)⟩

/-- A value that was decoded is sorted throughout. -/
theorem sorted_of_json? {room : Nat} {d : Document} {v : Json} (h : json? room d = some v) :
    v.Sorted := by
  induction d using Document.induction generalizing room v with
  | null => cases h; simp [Json.Sorted, Json.parts]
  | bool b => cases h; simp [Json.Sorted, Json.parts]
  | num n =>
      obtain ⟨n, -, rfl⟩ := Option.map_eq_some_iff.mp h
      simp [Json.Sorted, Json.parts]
  | str s =>
      obtain ⟨s, -, rfl⟩ := Option.map_eq_some_iff.mp h
      simp [Json.Sorted, Json.parts]
  | arr items ih =>
      obtain ⟨-, vs, rfl, hvs⟩ := json?_arr h
      refine Json.sorted_arr.mpr fun w hw => ?_
      obtain ⟨d, hd, hdw⟩ := hvs w hw
      exact ih d hd hdw
  | obj fields ih =>
      obtain ⟨-, fs, rfl, hsorted, hfs⟩ := json?_obj h
      refine Json.sorted_obj.mpr ⟨hsorted, fun f hf => ?_⟩
      obtain ⟨d, hd, hdf⟩ := hfs f hf
      exact ih d hd hdf

/-- A value that was decoded nests no deeper than was allowed. -/
theorem depth_le_of_json? {room : Nat} {d : Document} {v : Json} (h : json? room d = some v) :
    v.depth ≤ room := by
  induction d using Document.induction generalizing room v with
  | null => cases h; exact Nat.zero_le _
  | bool b => cases h; exact Nat.zero_le _
  | num n =>
      obtain ⟨n, -, rfl⟩ := Option.map_eq_some_iff.mp h
      exact Nat.zero_le _
  | str s =>
      obtain ⟨s, -, rfl⟩ := Option.map_eq_some_iff.mp h
      exact Nat.zero_le _
  | arr items ih =>
      obtain ⟨hroom, vs, rfl, hvs⟩ := json?_arr h
      refine Nat.add_le_of_le_sub hroom (Json.depthOfItems_le.mpr fun w hw => ?_)
      obtain ⟨d, hd, hdw⟩ := hvs w hw
      exact ih d hd hdw
  | obj fields ih =>
      obtain ⟨hroom, fs, rfl, -, hfs⟩ := json?_obj h
      refine Nat.add_le_of_le_sub hroom (Json.depthOfFields_le.mpr fun f hf => ?_)
      obtain ⟨d, hd, hdf⟩ := hfs f hf
      exact ih d hd hdf

/-- A document whose numbers are those that numerals stand for. -/
inductive Spelled : Document → Prop
  | null : Spelled .null
  | bool (b : Bool) : Spelled (.bool b)
  | num (n : Numeral) : Spelled (.num n.number?)
  | str (s : Option String) : Spelled (.str s)
  | arr {items : List Document} (items_spelled : ∀ d ∈ items, Spelled d) : Spelled (.arr items)
  | obj {fields : List (Option String × Document)} (fields_spelled : ∀ f ∈ fields, Spelled f.2) :
      Spelled (.obj fields)

/-- The numbers of a value that was decoded are those that numerals stand for. -/
theorem num_of_json? {room : Nat} {d : Document} {v : Json} (spelled : d.Spelled)
    (h : json? room d = some v) {n : Number} (hn : .num n ∈ v.parts) :
    ∃ numeral : Numeral, numeral.number? = some n := by
  induction spelled generalizing room v with
  | null => cases h; simp [Json.parts] at hn
  | bool b => cases h; simp [Json.parts] at hn
  | num numeral =>
      obtain ⟨m, hm, rfl⟩ := Option.map_eq_some_iff.mp h
      obtain rfl : n = m := by simpa [Json.parts] using hn
      exact ⟨numeral, hm⟩
  | str s =>
      obtain ⟨s, -, rfl⟩ := Option.map_eq_some_iff.mp h
      simp [Json.parts] at hn
  | arr _ ih =>
      obtain ⟨-, vs, rfl, hvs⟩ := json?_arr h
      obtain ⟨w, hw, hn⟩ : ∃ w ∈ vs, .num n ∈ w.parts := by simpa using hn
      obtain ⟨d, hd, hdw⟩ := hvs w hw
      exact ih d hd hdw hn
  | obj _ ih =>
      obtain ⟨-, fs, rfl, -, hfs⟩ := json?_obj h
      obtain ⟨f, hf, hn⟩ : ∃ f ∈ fs, .num n ∈ f.2.parts := by simpa using hn
      obtain ⟨d, hd, hdf⟩ := hfs f hf
      exact ih d hd hdf hn

/-! ### A value comes back from its document -/

/-- Items come back if each of them does. -/
theorem items?_ofItems {room : Nat} {items : List Json}
    (h : ∀ v ∈ items, json? room (ofJson v) = if v.depth ≤ room then some v else none) :
    items? room (ofItems items) =
      if Json.depthOfItems items ≤ room then some items else none := by
  induction items with
  | nil => rfl
  | cons v rest ih =>
      obtain ⟨hv, hrest⟩ := List.forall_mem_cons.mp h
      rw [ofItems, items?, hv, ih hrest, Json.depthOfItems]
      by_cases h₁ : v.depth ≤ room <;> by_cases h₂ : Json.depthOfItems rest ≤ room <;> simp [h₁, h₂]

/-- Fields come back if each of them does. -/
theorem fields?_ofFields {room : Nat} {fields : List (String × Json)}
    (h : ∀ f ∈ fields, json? room (ofJson f.2) = if f.2.depth ≤ room then some f.2 else none) :
    fields? room (ofFields fields) =
      if Json.depthOfFields fields ≤ room then some fields else none := by
  induction fields with
  | nil => rfl
  | cons f rest ih =>
      obtain ⟨k, v⟩ := f
      obtain ⟨hv, hrest⟩ := List.forall_mem_cons.mp h
      rw [ofFields, fields?, hv, ih hrest, Json.depthOfFields]
      by_cases h₁ : v.depth ≤ room <;> by_cases h₂ : Json.depthOfFields rest ≤ room <;>
        simp [h₁, h₂]

/-- A sorted value comes back from its document if it does not nest too deep, and else nothing
does. -/
theorem json?_ofJson {v : Json} (h : v.Sorted) (room : Nat) :
    json? room (ofJson v) = if v.depth ≤ room then some v else none := by
  induction v using Json.induction generalizing room with
  | null => rfl
  | bool b => rfl
  | num n => rfl
  | str s => rfl
  | arr items ih =>
      rw [ofJson, json?, Json.depth]
      by_cases hroom : room = 0
      · simp [hroom]
      · rw [if_neg hroom, items?_ofItems fun v hv => ih v hv (Json.sorted_arr.mp h v hv) _]
        simp only [Nat.le_sub_one_iff_lt (Nat.pos_of_ne_zero hroom), Nat.succ_le_iff]
        split <;> rfl
  | obj fields ih =>
      obtain ⟨hsorted, hfields⟩ := Json.sorted_obj.mp h
      rw [ofJson, json?, Json.depth]
      by_cases hroom : room = 0
      · simp [hroom]
      · rw [if_neg hroom, fields?_ofFields fun f hf => ih f hf (hfields f hf) _]
        simp only [Nat.le_sub_one_iff_lt (Nat.pos_of_ne_zero hroom), Nat.succ_le_iff]
        split
        · rw [Option.map_some, DataMap.ofFields_of_sorted hsorted]
        · rfl

end Document

end PushDelivery
