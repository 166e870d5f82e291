import SqlRender.Proofs.CalendarTexts
import SqlRender.Proofs.DecimalKeys
import SqlRender.Proofs.DecimalTexts
import SqlRender.Value.Compare
import SqlRender.Value.Json

/-!
# Documents of values

A value is read back from its document.  Nothing about it changes but the scales of decimals and
the leap seconds within a minute: `Value.reread` is what is read back, and `Value.ofJson?_toJson`
says that it is read.  Decimals stay the same numbers, and a leap second becomes the next second,
so what is read back equals the value exactly if its leap seconds stand at the end of a minute
(`Value.same_reread_iff`).  The document of a value has to be one that can be written at all, which
`Value.IsWritable` says: a float is finite, the scale of a decimal fits into 64 bits, and a document
has its members sorted by name.

The reading of a document is a fold, so what it finds in a part is found from the readings of
the parts of that part: `Json.fold_eq`.
-/

namespace SqlRender

/-- What is read from the things of a list, if something is read from each of them. -/
theorem mapM_map_eq_some {α β γ : Type} {read : β → Option γ} {write : α → β} {result : α → γ}
    {xs : List α} (h : ∀ x ∈ xs, read (write x) = some (result x)) :
  (xs.map write).mapM read = some (xs.map result)
  := by
  induction xs with
  | nil => rfl
  | cons x xs ih =>
    have hhead := h x List.mem_cons_self
    have htail := ih fun y hy => h y (List.mem_cons_of_mem x hy)
    simp [hhead, htail]

/-! ### Folds -/

namespace Json

variable {α : Type} (step : Layer α → α)

theorem foldItems_eq_map (items : List Json) :
  foldItems step items = items.map (fold step)
  := by
  induction items with
  | nil => rfl
  | cons j items ih => rw [foldItems, ih, List.map_cons]

theorem foldMembers_eq_map (members : List (String × Json)) :
  foldMembers step members = members.map fun m => (m.1, fold step m.2)
  := by
  induction members with
  | nil => rfl
  | cons m members ih => rw [foldMembers, ih, List.map_cons]

/-- The result for a document comes from the results for its parts. -/
theorem fold_eq (j : Json) :
  fold step j = step (j.toLayer.map (fold step))
  := by
  cases j with
  | array items => rw [fold, foldItems_eq_map, toLayer, Layer.map]
  | object members => rw [fold, foldMembers_eq_map, toLayer, Layer.map]
  | _ => rfl

section

variable {β : Type} {step : Layer α → α} {step' : Layer β → β} {h : α → β}

mutual

/-- A function that takes the steps of one fold to those of another takes the result of the one
to the result of the other. -/
theorem fold_fusion (hstep : ∀ layer, h (step layer) = step' (layer.map h)) : ∀ j : Json,
  h (j.fold step) = j.fold step'
  | .null | .bool _ | .int _ | .float _ | .string _ => hstep _
  | .array items => by
    rw [fold, fold, hstep, Layer.map, foldItems_fusion hstep items]
  | .object members => by
    rw [fold, fold, hstep, Layer.map, foldMembers_fusion hstep members]

theorem foldItems_fusion (hstep : ∀ layer, h (step layer) = step' (layer.map h)) :
    ∀ items : List Json,
  (foldItems step items).map h = foldItems step' items
  | [] => rfl
  | j :: items => by
    rw [foldItems, foldItems, List.map_cons, fold_fusion hstep j, foldItems_fusion hstep items]

theorem foldMembers_fusion (hstep : ∀ layer, h (step layer) = step' (layer.map h)) :
    ∀ members : List (String × Json),
  ((foldMembers step members).map fun (name, x) => (name, h x)) = foldMembers step' members
  | [] => rfl
  | (name, j) :: members => by
    rw [foldMembers, foldMembers, ← fold_fusion hstep j, ← foldMembers_fusion hstep members]
    rfl

end

end

end Json

/-! ### Identifiers -/

namespace Hex

theorem value?_digit :
  ∀ n < 16, value? (digit n) = some n
  := by
  decide

theorem digit_ne_hyphen :
  ∀ n < 16, digit n ≠ '-'
  := by
  decide

theorem length_encode (bytes : List UInt8) :
  (encode bytes).length = 2 * bytes.length
  := by
  induction bytes with
  | nil => rfl
  | cons b bytes ih =>
    have hencode : encode (b :: bytes)
        = digit (b.toNat / 16) :: digit (b.toNat % 16) :: encode bytes := rfl
    rw [hencode, List.length_cons, List.length_cons, ih, List.length_cons]
    omega

theorem ne_hyphen_of_mem_encode {bytes : List UInt8} {c : Char} (h : c ∈ encode bytes) :
  c ≠ '-'
  := by
  obtain ⟨b, -, hc⟩ := List.mem_flatMap.mp h
  have hb := b.toNat_lt
  obtain rfl | rfl : c = digit (b.toNat / 16) ∨ c = digit (b.toNat % 16) := by simpa using hc
  · apply digit_ne_hyphen _ (by omega)
  · apply digit_ne_hyphen _ (by omega)

theorem decode?_encode (bytes : List UInt8) :
  decode? (encode bytes) = some bytes
  := by
  induction bytes with
  | nil => rfl
  | cons b bytes ih =>
    have hb := b.toNat_lt
    have hencode : encode (b :: bytes)
        = digit (b.toNat / 16) :: digit (b.toNat % 16) :: encode bytes := rfl
    have hbyte : 16 * (b.toNat / 16) + b.toNat % 16 = b.toNat := Nat.div_add_mod b.toNat 16
    rw [hencode, decode?, value?_digit _ (by omega), value?_digit _ (by omega), ih]
    simp only [Option.bind_eq_bind, Option.bind_some, Option.pure_def, hbyte, UInt8.ofNat_toNat]

end Hex

namespace Uuid

variable {digits : List Char}

theorem length_hyphenated (hlength : digits.length = 32) :
  (hyphenated digits).length = 36
  := by
  simp [hyphenated, hlength]

theorem filter_hyphenated (hlength : digits.length = 32) (h : ∀ c ∈ digits, c ≠ '-') :
  (hyphenated digits).filter (· ≠ '-') = digits
  := by
  have hkeep : ∀ m n, ((digits.drop m).take n).filter (· ≠ '-') = (digits.drop m).take n := by
    intro m n
    apply List.filter_eq_self.mpr
    intro c hc
    simpa using h c (List.drop_subset m digits (List.take_subset n _ hc))
  have hjoin : ∀ m n, (digits.drop m).take n ++ digits.drop (m + n) = digits.drop m := by
    intro m n
    rw [← List.drop_drop, List.take_append_drop]
  have hhyphen : ∀ cs : List Char, ('-' :: cs).filter (· ≠ '-') = cs.filter (· ≠ '-') :=
    fun cs => List.filter_cons_of_neg (by simp)
  have hfirst : digits.take 8 = (digits.drop 0).take 8 := rfl
  have hlast : digits.drop 20 = (digits.drop 20).take 12 := by
    rw [List.take_of_length_le]
    simp [hlength]
  rw [hyphenated, hfirst, hlast]
  simp only [List.filter_append, hhyphen, hkeep]
  rw [← hlast, List.append_assoc, List.append_assoc, List.append_assoc]
  rw [hjoin 16 4, hjoin 12 4, hjoin 8 4, hjoin 0 8, List.drop_zero]

theorem withoutHyphens?_hyphenated (hlength : digits.length = 32) (h : ∀ c ∈ digits, c ≠ '-') :
  withoutHyphens? (hyphenated digits) = some digits
  := by
  simp only [withoutHyphens?, filter_hyphenated hlength h, hlength, and_self, if_true]

/-- An identifier is read back from its text. -/
theorem ofText?_toText (u : Uuid) :
  ofText? u.toText = some u
  := by
  have hlength : (Hex.encode u.bytes).length = 32 := by rw [Hex.length_encode, u.size_eq]
  have hhyphen : ∀ c ∈ Hex.encode u.bytes, c ≠ '-' := fun c => Hex.ne_hyphen_of_mem_encode
  simp [ofText?, toText, length_hyphenated hlength, withoutHyphens?_hyphenated hlength hhyphen,
    Hex.decode?_encode, ofBytes?, u.size_eq]

end Uuid

/-! ### Readings of documents -/

namespace ValueReading

mutual

/-- A reading has the document that it is read from. -/
theorem json_fold : ∀ j : Json,
  (j.fold (ofLayer false)).json = some j
  | .null | .bool _ | .int _ | .float _ | .string _ => rfl
  | .array items => by
    rw [Json.fold_eq, ofLayer]
    simp only [Json.toLayer, Json.Layer.map, Json.Layer.all?, List.map_map]
    rw [json_foldItems items]
    rfl
  | .object members => by
    rw [Json.fold_eq, ofLayer]
    simp only [Json.toLayer, Json.Layer.map, Json.Layer.all?, List.map_map, Function.comp_def]
    rw [json_foldMembers members]
    rfl

theorem json_foldItems : ∀ items : List Json,
  (items.map (json ∘ Json.fold (ofLayer false))).mapM id = some items
  | [] => rfl
  | j :: items => by
    simp [json_fold j, json_foldItems items]

theorem json_foldMembers : ∀ members : List (String × Json),
  (members.map fun m => (m.1, (m.2.fold (ofLayer false)).json)).mapM
      (fun m : String × Option Json => m.2.map fun j => (m.1, j))
    = some members
  | [] => rfl
  | (name, j) :: members => by
    simp [json_fold j, json_foldMembers members]

end

end ValueReading

/-! ### Values -/

namespace Value

mutual

/-- The value that is read back from the document of a value: all decimals and dates with a time
in it are those that are read back from their texts. -/
def reread : Value → Value
  | decimal x => decimal x.reread
  | dateTime m => dateTime m.reread
  | timestamp m => timestamp m.reread
  | array items => array (rereadItems items)
  | v => v

/-- The values that are read back from the documents of the values of a list. -/
def rereadItems : List Value → List Value
  | [] => []
  | v :: rest => reread v :: rereadItems rest

end

mutual

/-- The dates with a time in a value. -/
def moments : Value → List DateTime
  | dateTime m | timestamp m => [m]
  | array items => momentsOfItems items
  | _ => []

/-- The dates with a time in the values of a list. -/
def momentsOfItems : List Value → List DateTime
  | [] => []
  | v :: rest => moments v ++ momentsOfItems rest

end

/-- All leap seconds in a value stand at the end of their minutes. -/
def IsSettled (v : Value) : Prop :=
  ∀ m ∈ v.moments, m.time.IsSettled

/-- Whether a value has a document: a float has to be finite.  What is asked of decimals and of
JSON values holds of all that there are: scales have 64 bits, and an object is kept in the order
of its keys. -/
inductive IsWritable : Value → Prop
  | int (n : Int64) : IsWritable (int n)
  | uint (n : UInt64) : IsWritable (uint n)
  | float {x : Float} (finite : Binary64.isFinite x.toBits = true) : IsWritable (float x)
  | decimal {x : Decimal} (scale : (Numeral.int64? x.scale).isSome) : IsWritable (decimal x)
  | string (s : String) : IsWritable (string s)
  | boolean (b : Bool) : IsWritable (boolean b)
  | json {j : Json} (sorted : j.canonical = j) : IsWritable (json j)
  | uuid (u : Uuid) : IsWritable (uuid u)
  | bytes (bs : List UInt8) : IsWritable (bytes bs)
  | date (d : Date) : IsWritable (date d)
  | dateTime (m : DateTime) : IsWritable (dateTime m)
  | timestamp (m : DateTime) : IsWritable (timestamp m)
  | array {items : List Value} (all : ∀ v ∈ items, IsWritable v) : IsWritable (array items)
  | null : IsWritable null

theorem rereadItems_eq_map (items : List Value) :
  rereadItems items = items.map reread
  := by
  induction items with
  | nil => rfl
  | cons v items ih => rw [rereadItems, ih, List.map_cons]

theorem toJsonItems_eq_map (items : List Value) :
  toJsonItems items = items.map toJson
  := by
  induction items with
  | nil => rfl
  | cons v items ih => rw [toJsonItems, ih, List.map_cons]

/-! #### What is kept -/

mutual

/-- A value that equals itself equals what is read back exactly if its leap seconds stand at the
ends of minutes. -/
theorem same_reread_iff : ∀ v : Value,
  v.same v.reread = true ↔ v.same v = true ∧ v.IsSettled
  | .int _ | .uint _ | .float _ | .string _ | .boolean _ | .json _ | .uuid _ | .bytes _ | .date _
  | .null => by simp [reread, IsSettled, moments]
  | .decimal x => by
    simp [reread, IsSettled, moments, same, Decimal.same_reread, Decimal.same_self]
  | .dateTime m | .timestamp m => by
    rw [reread, same, same, IsSettled, moments, List.forall_mem_singleton,
      ← DateTime.reread_eq_self_iff, beq_iff_eq, beq_iff_eq]
    exact ⟨fun h => ⟨rfl, h.symm⟩, fun h => h.2.symm⟩
  | .array items => by
    rw [reread, same, same, IsSettled, moments]
    exact sameItems_reread_iff items

theorem sameItems_reread_iff : ∀ items : List Value,
  sameItems items (rereadItems items) = true
    ↔ sameItems items items = true ∧ ∀ m ∈ momentsOfItems items, m.time.IsSettled
  | [] => by simp [rereadItems, sameItems, momentsOfItems]
  | v :: rest => by
    rw [rereadItems, sameItems, sameItems, momentsOfItems, List.forall_mem_append,
      Bool.and_eq_true, Bool.and_eq_true, same_reread_iff v, sameItems_reread_iff rest, IsSettled]
    exact and_and_and_comm

end

/-! #### Contents without values in them -/

theorem int64?_toInt (n : Int64) :
  Numeral.int64? n.toInt = some n
  := by
  rw [Numeral.int64?, if_pos ⟨n.minValue_le_toInt, n.toInt_le⟩, Int64.ofInt_toInt]

theorem uint64?_toNat (n : UInt64) :
  Numeral.uint64? n.toNat = some n
  := by
  have hn := n.toNat_lt
  rw [Numeral.uint64?, if_pos]
  · simp
  · simp [UInt64.size]
    omega

theorem byte?_toNat (b : UInt8) :
  byte? (.int b.toNat) = some b
  := by
  have hb := b.toNat_lt
  rw [byte?, if_pos (by omega)]
  simp

theorem mapM_byte? (bs : List UInt8) :
  (bs.map fun b => Json.int b.toNat).mapM byte? = some bs
  := by
  have hread : (bs.map fun b => Json.int b.toNat).mapM byte? = some (bs.map id) :=
    mapM_map_eq_some fun b _ => byte?_toNat b
  rwa [List.map_id] at hread

/-! #### Values from their documents -/

theorem ofJson?_eq (j : Json) :
  ofJson? j = ValueReading.valueOf? (j.toLayer.map (Json.fold (ValueReading.ofLayer false)))
  := by
  rw [ofJson?, Json.fold_eq]
  rfl

theorem toLayer_tagged (name : String) (j : Json) :
  (tagged name j).toLayer = .object [(name, j)]
  := rfl

/-- A value without values and decimals in it is read from the content of its variant. -/
theorem ofJson?_tagged {name : String} (harray : name ≠ "Array") (hdecimal : name ≠ "Decimal")
    (j : Json) :
  ofJson? (tagged name j) = ofScalar? name j
  := by
  rw [ofJson?_eq, toLayer_tagged]
  simp [Json.Layer.map, ValueReading.valueOf?, ValueReading.json_fold]

theorem ofJson?_array (items : List Json) :
  ofJson? (tagged "Array" (.array items)) = (items.mapM ofJson?).map array
  := by
  rw [ofJson?_eq, toLayer_tagged]
  simp only [Json.Layer.map, List.map_cons, List.map_nil, ValueReading.valueOf?]
  rw [Json.fold_eq]
  simp only [ValueReading.ofLayer, Json.toLayer, Json.Layer.map, ValueReading.valuesOf?,
    Json.Layer.items?, Option.bind_some, List.mapM_map]
  rfl

theorem ofJson?_decimal (s : String) :
  ofJson? (tagged "Decimal" (.string s)) = (Decimal.ofText? s).map decimal
  := by
  rfl

/-- A value is read back from its document. -/
theorem ofJson?_toJson {v : Value} (h : v.IsWritable) :
  ofJson? v.toJson = some v.reread
  := by
  induction h with
  | int n =>
    rw [toJson, ofJson?_tagged (by decide) (by decide), ofScalar?, int64?_toInt]
    rfl
  | uint n =>
    rw [toJson, ofJson?_tagged (by decide) (by decide), ofScalar?, uint64?_toNat]
    rfl
  | float finite =>
    rw [toJson, ofJson?_tagged (by decide) (by decide), jsonOfFloat, if_pos finite]
    rfl
  | decimal scale =>
    rw [toJson, ofJson?_decimal, Decimal.ofText?_toText scale]
    rfl
  | json sorted =>
    rw [toJson, ofJson?_tagged (by decide) (by decide), ofScalar?, sorted]
    rfl
  | uuid u =>
    rw [toJson, ofJson?_tagged (by decide) (by decide), ofScalar?, Uuid.ofText?_toText]
    rfl
  | bytes bs =>
    rw [toJson, ofJson?_tagged (by decide) (by decide), ofScalar?, mapM_byte?]
    rfl
  | date d =>
    rw [toJson, ofJson?_tagged (by decide) (by decide), ofScalar?, Date.ofText?_toText]
    rfl
  | dateTime m =>
    rw [toJson, ofJson?_tagged (by decide) (by decide), ofScalar?, DateTime.ofText?_toText]
    rfl
  | timestamp m =>
    rw [toJson, ofJson?_tagged (by decide) (by decide), ofScalar?,
      DateTime.ofTextWithOffset?_toText]
    rfl
  | array all ih =>
    rw [toJson, ofJson?_array, toJsonItems_eq_map, mapM_map_eq_some ih, reread, rereadItems_eq_map]
    rfl
  | string s => rfl
  | boolean b => rfl
  | null => rfl

end Value

end SqlRender
