import SqlRender.Json.Basic
import SqlRender.Number.Numeral

/-!
# Records and variants in JSON

A record is written as an object with a member for each of its fields, or as an array of
its fields in order.  Members with other names are ignored, and a field must not be given
twice.  A variant is written as its name alone or as an object with the name as its only
member.

The functions on layers work on one layer of a document, in which the parts have already
been replaced by results of some type.
-/

namespace SqlRender.Json.Layer

variable {α : Type}

/-- The parts of an object with the given names, in their order; `none` stands for a
missing part. -/
def named? (names : List String) : Layer α → Option (List (Option α))
  | .object members =>
    let known := (members.map Prod.fst).filter names.contains
    if known.Nodup then
      some (names.map fun name => (members.find? fun m => m.1 == name).map Prod.snd)
    else none
  | _ => none

/-- The parts of a record with the given field names, in their order; `none` stands for a
missing field.  An array must have as many items as there are fields, or no more if it
`mayBeShort`. -/
def fields? (names : List String) (mayBeShort : Bool) : Layer α → Option (List (Option α))
  | .array items =>
    if items.length = names.length || (mayBeShort && items.length < names.length) then
      some (items.map some ++ List.replicate (names.length - items.length) none)
    else none
  | layer => layer.named? names

/-- The parts of a record whose fields all have to be given. -/
def allFields? (names : List String) (layer : Layer α) : Option (List α) :=
  (layer.fields? names false).bind fun parts => parts.mapM id

/-- The name and the content of a variant that is written as an object. -/
def variant? : Layer α → Option (String × α)
  | .object [(name, x)] => some (name, x)
  | _ => none

/-- The items of an array. -/
def items? : Layer α → Option (List α)
  | .array items => some items
  | _ => none

end SqlRender.Json.Layer

namespace SqlRender.Json

/-- The text of a string. -/
def string? : Json → Option String
  | .string s => some s
  | _ => none

/-- The truth value of a boolean. -/
def bool? : Json → Option Bool
  | .bool b => some b
  | _ => none

/-- The unsigned number of 64 bits that an integer is. -/
def uint64? : Json → Option UInt64
  | .int n => Numeral.uint64? n
  | _ => none

/-- The texts of an array of strings. -/
def strings? : Json → Option (List String)
  | .array items => items.mapM string?
  | _ => none

/-- The name of a variant without content: a string, or an object with the content
`null`. -/
def plainVariant? : Json → Option String
  | .string s => some s
  | .object [(name, .null)] => some name
  | _ => none

end SqlRender.Json
