import SqlRender.Proofs.ValueDocuments
import SqlRender.Query.Json

/-!
# Readings of written parts

A `Reading` of a document has the documents and the values in it, and the readings of its
parts.  So the parts of a written record are the readings of its fields, an optional part is
read back unless it is written as `null`, an array is read item by item, and words, counts and
values are read back from what is written for them.  These are the steps by which queries are
read: `Reading.fields?_of` is the one for records.
-/

namespace SqlRender

/-! ### Records -/

section

variable {α : Type} {members : List (String × α)}

theorem find?_of_mem (hnodup : (members.map Prod.fst).Nodup) {m : String × α}
    (hm : m ∈ members) :
  (members.find? fun other => other.1 == m.1) = some m
  := by
  induction members with
  | nil => cases hm
  | cons head members ih =>
    rw [List.map_cons, List.nodup_cons] at hnodup
    obtain rfl | hm := List.mem_cons.mp hm
    · simp
    · have hne : head.1 ≠ m.1 := by
        intro heq
        apply hnodup.1
        rw [heq]
        apply List.mem_map_of_mem hm
      rw [List.find?_cons_of_neg (by simpa using hne), ih hnodup.2 hm]

variable {names : List String}

/-- The parts of an object with exactly the fields of a record. -/
theorem Json.Layer.named?_object (hnames : members.map Prod.fst = names) (hnodup : names.Nodup) :
  named? names (.object members) = some (members.map fun m => some m.2)
  := by
  subst hnames
  have hknown : (members.map Prod.fst).filter (members.map Prod.fst).contains
      = members.map Prod.fst := by
    apply List.filter_eq_self.mpr
    simp
  rw [named?, hknown, if_pos hnodup, List.map_map]
  congr 1
  apply List.map_congr_left
  intro m hm
  simp only [Function.comp_apply]
  rw [find?_of_mem hnodup hm]
  rfl

theorem Json.Layer.fields?_object (hnames : members.map Prod.fst = names) (hnodup : names.Nodup)
    (mayBeShort : Bool) :
  fields? names mayBeShort (.object members) = some (members.map fun m => some m.2)
  := named?_object hnames hnodup

end

namespace Reading

/-! ### Readings and their parts -/

/-- A reading is made from the readings of its parts. -/
theorem of_eq (j : Json) :
  Reading.of j = ofLayer false (j.toLayer.map Reading.of)
  := Json.fold_eq _ j

/-- The values in a document are those that are read from the document alone. -/
theorem toValueReading_of (j : Json) :
  (Reading.of j).toValueReading = j.fold (ValueReading.ofLayer false)
  := Json.fold_fusion (h := Reading.toValueReading) (fun _ => rfl) j

theorem layer_of (j : Json) :
  (Reading.of j).layer = some (j.toLayer.map Reading.of)
  := by
  rw [of_eq]
  rfl

theorem json_of (j : Json) :
  (Reading.of j).json = some j
  := by
  rw [toValueReading_of, ValueReading.json_fold]

theorem value_of (j : Json) :
  (Reading.of j).value () = Value.ofJson? j
  := by
  rw [toValueReading_of, Value.ofJson?]

theorem values_of (items : List Json) :
  (Reading.of (.array items)).values () = items.mapM Value.ofJson?
  := by
  rw [toValueReading_of, Json.fold_eq]
  simp only [ValueReading.ofLayer, Json.toLayer, Json.Layer.map, ValueReading.valuesOf?,
    Json.Layer.items?, Option.bind_some, List.mapM_map]
  rfl

section

variable {names : List String} {members : List (String × Json)}
  (hnames : members.map Prod.fst = names) (hnodup : names.Nodup)

include hnames hnodup

theorem named?_map :
  ((Json.object members).toLayer.map Reading.of).named? names
    = some (members.map fun m => some (Reading.of m.2))
  := by
  have hmap : ((members.map fun m => (m.1, Reading.of m.2)).map Prod.fst) = names := by
    rw [List.map_map, ← hnames]
    rfl
  have hnamed := Json.Layer.named?_object hmap hnodup
  rw [List.map_map] at hnamed
  exact hnamed

/-- The fields of a written record are read. -/
theorem fields?_map (mayBeShort : Bool) :
  ((Json.object members).toLayer.map Reading.of).fields? names mayBeShort
    = some (members.map fun m => some (Reading.of m.2))
  := named?_map hnames hnodup

theorem fields?_of (mayBeShort : Bool) :
  (Reading.of (.object members)).fields? names mayBeShort
    = some (members.map fun m => some (Reading.of m.2))
  := by
  rw [fields?, layer_of]
  exact fields?_map hnames hnodup mayBeShort

/-- The fields of the written content of a variant are read. -/
theorem content?_of :
  (Reading.of (.object members)).content? names
    = some (members.map fun m => some (Reading.of m.2))
  := by
  have htext : (Reading.of (.object members)).inText = false := by
    rw [of_eq]
    rfl
  rw [content?, layer_of, htext]
  exact named?_map hnames hnodup

end

/-- The reading of a written variant. -/
theorem of_variant (name : String) (j : Json) :
  Reading.of (.object [(name, j)]) = ofLayer false (.object [(name, Reading.of j)])
  := of_eq _

/-! ### Parts of records -/

theorem string_of (s : String) :
  (Reading.of (.string s)).string = some s
  := by
  rw [string, json_of]
  rfl

theorem flag_of (b : Bool) :
  (Reading.of (.bool b)).flag = some b
  := by
  rw [flag, json_of]
  rfl

theorem count_of (n : UInt64) :
  (Reading.of (Json.ofUInt64 n)).count = some n
  := by
  rw [count, json_of, Json.ofUInt64, Option.bind_some, Json.uint64?, Value.uint64?_toNat]

theorem word_of {α : Type} {names : List (String × α)} {name : String} {x : α}
    (h : lookup names (.string name) = some x) :
  (Reading.of (.string name)).word names = some x
  := by
  rw [word, json_of, Option.bind_some, h]

theorem optional_null {α : Type} (read : Reading → Option α) :
  optional read (some (Reading.of .null)) = some none
  := by
  simp only [optional, json_of]

/-- An optional part that is given is read if it is not written as `null`. -/
theorem optional_some {α : Type} {read : Reading → Option α} {j : Json} {x : α} (hnull : j ≠ .null)
    (h : read (Reading.of j) = some x) :
  optional read (some (Reading.of j)) = some (some x)
  := by
  simp only [optional, json_of]
  split
  · next heq => exact absurd (Option.some.inj heq) hnull
  · rw [h]
    rfl

theorem optional_ofOption {α : Type} {read : Reading → Option α} {write : α → Json}
    (hnull : ∀ x, write x ≠ .null) (h : ∀ x, read (Reading.of (write x)) = some x)
    (x : Option α) :
  optional read (some (Reading.of (Json.ofOption write x))) = some x
  := by
  cases x with
  | none => exact optional_null read
  | some y => exact optional_some (hnull y) (h y)

theorem optional_string (x : Option String) :
  optional string (some (Reading.of (Json.ofOption .string x))) = some x
  := optional_ofOption (by simp) string_of x

theorem optional_count (x : Option UInt64) :
  optional count (some (Reading.of (Json.ofOption Json.ofUInt64 x))) = some x
  := optional_ofOption (by simp [Json.ofUInt64]) count_of x

theorem each_of {α : Type} (read : Reading → Option α) (items : List Json) :
  (Reading.of (.array items)).each read = items.mapM fun j => read (Reading.of j)
  := by
  rw [each, layer_of]
  simp only [Json.toLayer, Json.Layer.map, Json.Layer.items?, Option.bind_some, List.mapM_map]
  rfl

theorem each_strings (ss : List String) :
  (Reading.of (Json.ofStrings ss)).each string = some ss
  := by
  rw [Json.ofStrings, each_of]
  have hread : (ss.map Json.string).mapM (fun j => string (Reading.of j)) = some (ss.map id) :=
    mapM_map_eq_some fun s _ => string_of s
  rwa [List.map_id] at hread

theorem withClause_of (recursive : Bool) {items : List Json} {ctes : List Cte}
    (h : items.mapM (fun j => (Reading.of j).cte ()) = some ctes) :
  (Reading.of (.object [("recursive", .bool recursive), ("items", .array items)])).withClause
    = some (recursive, ctes)
  := by
  rw [withClause, fields?_of]
  · simp only [List.map_cons, List.map_nil, required, Option.bind_some, flag_of, each_of, h,
      Option.bind_eq_bind, Option.pure_def]
  · rfl
  · decide

/-! ### Contents of variants -/

section

variable {vs : List Value} (h : ∀ v ∈ vs, v.IsWritable)

include h

theorem values_toJsonItems :
  (Reading.of (.array (Value.toJsonItems vs))).values () = some (vs.map Value.reread)
  := by
  rw [values_of, Value.toJsonItems_eq_map]
  exact mapM_map_eq_some fun v hv => Value.ofJson?_toJson (h v hv)

theorem raw_ofRaw (sql : String) :
  (Reading.of (Json.ofRaw sql vs)).raw = some (sql, vs.map Value.reread)
  := by
  rw [Json.ofRaw, raw, content?_of]
  · simp only [List.map_cons, List.map_nil, required, Option.bind_some, string_of,
      values_toJsonItems h, Option.bind_eq_bind, Option.pure_def]
  · rfl
  · decide

end

theorem qualified_of {qualifier : String} (hne : qualifier ≠ "name") (first : Option String)
    (name : String) :
  (Reading.of (.object
      [(qualifier, Json.ofOption .string first), ("name", .string name)])).qualified qualifier
    = some (first, name)
  := by
  rw [qualified, content?_of]
  · simp only [List.map_cons, List.map_nil, optional_string, required, Option.bind_some, string_of,
      Option.bind_eq_bind, Option.pure_def]
  · rfl
  · simpa using hne

end Reading

end SqlRender
