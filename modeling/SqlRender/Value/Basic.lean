import SqlRender.Calendar.DateTime
import SqlRender.Json.Basic
import SqlRender.Number.Decimal
import SqlRender.Uuid

/-!
# Values

A value is what a statement binds to one of its placeholders, and what a row holds in
one of its columns.  Besides the type this module has the conversions of a value to an
integer, a float, a text or a truth value.
-/

namespace SqlRender

/-- A value bound to a placeholder. -/
inductive Value where
  | int (n : Int64)
  | uint (n : UInt64)
  | float (x : Float)
  | decimal (x : Decimal)
  | string (s : String)
  | boolean (b : Bool)
  | json (j : Json)
  | uuid (u : Uuid)
  | bytes (bs : List UInt8)
  | date (d : Date)
  | dateTime (m : DateTime)
  /-- A date and time in UTC. -/
  | timestamp (m : DateTime)
  | array (items : List Value)
  | null

namespace Value

instance : Inhabited Value := ⟨null⟩

/-- Whether the value is the null value. -/
def isNull : Value → Bool
  | null => true
  | _ => false

/-- Whether the value is a number. -/
def isNumeric : Value → Bool
  | int _ | uint _ | float _ | decimal _ => true
  | _ => false

/-- An integer of a JSON document as a float. -/
def floatOfInt (n : Int) : Float :=
  if n < 0 then (Int64.ofInt n).toFloat else (UInt64.ofNat n.toNat).toFloat

/-- The value as a signed integer.  A float loses its fraction and is kept within the
range. -/
def toInt? : Value → Option Int64
  | int n => some n
  | uint n => Numeral.int64? n.toNat
  | float x => some x.toInt64
  | string s => Numeral.signed? s
  | boolean b => some (if b then 1 else 0)
  | json (.int n) => Numeral.int64? n
  | _ => none

/-- The value as an unsigned integer.  A float that is not negative loses its fraction
and is kept within the range. -/
def toUInt? : Value → Option UInt64
  | int n => Numeral.uint64? n.toInt
  | uint n => some n
  | float x => if 0 ≤ x then some x.toUInt64 else none
  | decimal x => Numeral.unsigned? x.toText
  | string s => Numeral.unsigned? s
  | json (.int n) => Numeral.uint64? n
  | _ => none

/-- The value as a float. -/
def toFloat? : Value → Option Float
  | int n => some n.toFloat
  | uint n => some n.toFloat
  | float x => some x
  | decimal x => Numeral.float? x.toText
  | string s => Numeral.float? s
  | boolean b => some (if b then 1 else 0)
  | json (.int n) => some (floatOfInt n)
  | json (.float x) => some x
  | _ => none

/-- The value as a text. -/
def toText? : Value → Option String
  | int n => some (toString n.toInt)
  | uint n => some (toString n.toNat)
  | float x => some (Shortest.positional x)
  | decimal x => some x.toText
  | string s => some s
  | boolean b => some (if b then "true" else "false")
  | json (.string s) => some s
  | uuid u => some u.toText
  | date d => some d.toText
  | dateTime m => some m.toPlainText
  | timestamp m => some m.toPlainText
  | json _ | bytes _ | array _ | null => none

/-- The value as a truth value. -/
def toBool? : Value → Option Bool
  | int n => some (n != 0)
  | uint n => some (n != 0)
  | float x => some (x != 0)
  | string s =>
    match Text.lower s with
    | "true" | "1" => some true
    | "false" | "0" => some false
    | _ => none
  | boolean b => some b
  | json (.bool b) => some b
  | _ => none

end Value

end SqlRender
