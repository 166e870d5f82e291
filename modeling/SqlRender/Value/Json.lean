import SqlRender.Json.Fields
import SqlRender.Value.Basic

/-!
# Values in JSON

A value is written as an object with its kind as the only name; the null value is the
string `Null`.  Decimals, dates and identifiers are written as texts.  Reading accepts
every text of such a value, integers for floats, numbers for decimals, and the null value
as an object with the content `null`.  It goes through a document once and finds for each
part what it would be as a part of a value, so that it serves for documents and for texts;
in a text a decimal may also be wrapped in an object.
-/

namespace SqlRender.Value

/-- A variant with its content. -/
def tagged (name : String) (j : Json) : Json :=
  .object [(name, j)]

/-- The document that stands for a float.  Only finite floats have one; `null` stands in the
place of the others. -/
def jsonOfFloat (x : Float) : Json :=
  if Binary64.isFinite x.toBits then .float x else .null

mutual

/-- The document that stands for a value. -/
def toJson : Value → Json
  | int n => tagged "Int" (.int n.toInt)
  | uint n => tagged "Uint" (.int n.toNat)
  | float x => tagged "Float" (jsonOfFloat x)
  | decimal x => tagged "Decimal" (.string x.toText)
  | string s => tagged "String" (.string s)
  | boolean b => tagged "Boolean" (.bool b)
  | json j => tagged "Json" j
  | uuid u => tagged "Uuid" (.string u.toText)
  | bytes bs => tagged "Bytes" (.array (bs.map fun b => .int b.toNat))
  | date d => tagged "Date" (.string d.toText)
  | dateTime m => tagged "DateTime" (.string m.toText)
  | timestamp m => tagged "Timestamp" (.string (m.toText ++ "Z"))
  | array items => tagged "Array" (.array (toJsonItems items))
  | null => .string "Null"

/-- The documents that stand for the values of a list. -/
def toJsonItems : List Value → List Json
  | [] => []
  | v :: rest => toJson v :: toJsonItems rest

end

/-! ### Reading -/

/-- The byte that a document writes. -/
def byte? : Json → Option UInt8
  | .int n => if 0 ≤ n ∧ n < 256 then some (UInt8.ofNat n.toNat) else none
  | _ => none

/-- The float that a document writes. -/
def floatOfJson? : Json → Option Float
  | .float x => some x
  | .int n => some (floatOfInt n)
  | _ => none

/-- The value of a kind whose content is read from a document alone. -/
def ofScalar? : String → Json → Option Value
  | "Int", .int n => (Numeral.int64? n).map int
  | "Uint", .int n => (Numeral.uint64? n).map uint
  | "Float", j => (floatOfJson? j).map float
  | "String", .string s => some (string s)
  | "Boolean", .bool b => some (boolean b)
  | "Json", j => some (json j.canonical)
  | "Uuid", .string s => (Uuid.ofText? s).map uuid
  | "Bytes", .array items => (items.mapM byte?).map bytes
  | "Date", .string s => (Date.ofText? s).map date
  | "DateTime", .string s => (DateTime.ofText? s).map dateTime
  | "Timestamp", .string s => (DateTime.ofTextWithOffset? s).map timestamp
  | "Null", .null => some null
  | _, _ => none

end SqlRender.Value

namespace SqlRender

/-- A document with what it would be as each part of a value. -/
structure ValueReading where
  /-- Whether the document is read from its text, in which some parts have further forms. -/
  inText : Bool
  /-- Whether the name that the document has as a member is written without escapes. -/
  plainlyNamed : Bool
  json : Option Json
  decimal : Unit → Option Decimal
  value : Unit → Option Value
  values : Unit → Option (List Value)

namespace ValueReading

/-- The name of the only member of an object that wraps a decimal. -/
def wrapperName : String :=
  "$serde_json::private::Number"

/-- The decimal that a layer stands for.  In a text it may be wrapped, if the name of the
wrapper is written without escapes. -/
def decimalOf? (inText : Bool) : Json.Layer ValueReading → Option Decimal
  | .string s => Decimal.ofText? s
  | .int n => some (Decimal.ofInt n)
  | .float x => Decimal.ofFloat? x
  | .object [(name, r)] =>
    if inText && r.plainlyNamed && name == wrapperName then r.decimal () else none
  | _ => none

/-- The value that a layer stands for. -/
def valueOf? : Json.Layer ValueReading → Option Value
  | .string "Null" => some .null
  | .object [("Array", r)] => (r.values ()).map .array
  | .object [("Decimal", r)] => (r.decimal ()).map .decimal
  | .object [(name, r)] => r.json.bind (Value.ofScalar? name)
  | _ => none

/-- The values that the items of an array stand for. -/
def valuesOf? (layer : Json.Layer ValueReading) : Option (List Value) :=
  layer.items?.bind fun items => items.mapM fun r => r.value ()

/-- The reading of a layer whose parts are read. -/
def ofLayer (inText : Bool) (layer : Json.Layer ValueReading) : ValueReading where
  inText
  plainlyNamed := true
  json := (layer.map ValueReading.json).all?.map Json.ofLayer
  decimal := fun _ => decimalOf? inText layer
  value := fun _ => valueOf? layer
  values := fun _ => valuesOf? layer

/-- The reading of what stands for no value. -/
def unreadable (inText : Bool) : ValueReading where
  inText
  plainlyNamed := true
  json := none
  decimal := fun _ => none
  value := fun _ => none
  values := fun _ => none

end ValueReading

/-- The value that a document stands for. -/
def Value.ofJson? (j : Json) : Option Value :=
  (j.fold (ValueReading.ofLayer false)).value ()

end SqlRender
