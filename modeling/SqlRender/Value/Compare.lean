import SqlRender.Json.Printer
import SqlRender.Value.Basic

/-!
# Comparing values

`compare` orders values of one kind, and integers with floats; values of other kinds are
not ordered.  `same` is equality of values of one kind, in which decimals count as
numbers and floats follow their own equality.  `digest` is the data by which a hash table
places a value.
-/

namespace SqlRender.Value

/-- The order of two floats, if neither is missing a number. -/
def compareFloats (x y : Float) : Option Ordering :=
  if x < y then some .lt
  else if y < x then some .gt
  else if x == y then some .eq
  else none

/-- The order of two values, if they have one. -/
def compare : Value → Value → Option Ordering
  | int a, int b => some (Ord.compare a.toInt b.toInt)
  | uint a, uint b => some (Ord.compare a.toNat b.toNat)
  | float a, float b => compareFloats a b
  | int a, float b => compareFloats a.toFloat b
  | float a, int b => compareFloats a b.toFloat
  | decimal a, decimal b => some (a.compare b)
  | string a, string b => some (Ord.compare a b)
  | boolean a, boolean b => some (Ord.compare a.toNat b.toNat)
  | date a, date b => some (a.compare b)
  | dateTime a, dateTime b => some (a.compare b)
  | timestamp a, timestamp b => some (a.compare b)
  | _, _ => none

mutual

/-- Whether two values are of one kind and equal. -/
def same : Value → Value → Bool
  | int a, int b => a == b
  | uint a, uint b => a == b
  | float a, float b => a == b
  | decimal a, decimal b => a.same b
  | string a, string b => a == b
  | boolean a, boolean b => a == b
  | json a, json b => a.same b
  | uuid a, uuid b => a == b
  | bytes a, bytes b => a == b
  | date a, date b => a == b
  | dateTime a, dateTime b => a == b
  | timestamp a, timestamp b => a == b
  | array a, array b => sameItems a b
  | null, null => true
  | _, _ => false

/-- Whether two lists of values are equal item by item. -/
def sameItems : List Value → List Value → Bool
  | [], [] => true
  | a :: as, b :: bs => same a b && sameItems as bs
  | _, _ => false

end

/-- A piece of the data by which a value is hashed. -/
inductive Datum where
  | kind (n : Nat)
  | number (n : Int)
  | text (s : String)
  deriving DecidableEq

/-- The data of a date. -/
def dateDigest (d : Date) : List Datum :=
  [.number d.year, .number d.month, .number d.day]

/-- The data of a date and time. -/
def dateTimeDigest (m : DateTime) : List Datum :=
  dateDigest m.date ++
    [.number m.time.hour, .number m.time.minute, .number m.time.second, .number m.time.nanosecond]

/-- The data of a list of bytes. -/
def bytesDigest (bs : List UInt8) : List Datum :=
  .number bs.length :: bs.map fun b => .number b.toNat

mutual

/-- The data by which a value is hashed: its kind and its content.  Floats are hashed by
their bits, decimals by their digits, and documents by their text. -/
def digest : Value → List Datum
  | int n => [.kind 0, .number n.toInt]
  | uint n => [.kind 1, .number n.toNat]
  | float x => [.kind 2, .number x.toBits.toNat]
  | decimal x => [.kind 3, .number x.digitKey.1, .number x.digitKey.2]
  | string s => [.kind 4, .text s]
  | boolean b => [.kind 5, .number b.toNat]
  | json j => [.kind 6, .text j.compact]
  | uuid u => .kind 7 :: bytesDigest u.bytes
  | bytes bs => .kind 8 :: bytesDigest bs
  | date d => .kind 9 :: dateDigest d
  | dateTime m => .kind 10 :: dateTimeDigest m
  | timestamp m => .kind 11 :: dateTimeDigest m
  | array items => .kind 12 :: .number items.length :: digestItems items
  | null => [.kind 13]

/-- The data by which the values of a list are hashed, one after the other. -/
def digestItems : List Value → List Datum
  | [] => []
  | v :: rest => digest v ++ digestItems rest

end

end SqlRender.Value
