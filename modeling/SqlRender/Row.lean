import SqlRender.Json.Fields
import SqlRender.Text.AsciiCase
import SqlRender.Value.Json

/-!
# Rows

A row of a result holds a value for each of its columns, in the order in which the columns
were first set.  Columns are found by their names with letter case ignored, and keep the
spelling with which they were first set.
-/

namespace SqlRender

/-- A row of a result. -/
structure Row where
  columns : List (String × Value)

namespace Row

/-- The row without columns. -/
def empty : Row :=
  ⟨[]⟩

/-- The columns with the value of one of them replaced, or with a further column. -/
def put (name : String) (v : Value) : List (String × Value) → List (String × Value)
  | [] => [(name, v)]
  | (other, w) :: rest =>
    if Text.sameIgnoringCase other name then (other, v) :: rest else (other, w) :: put name v rest

/-- The row with a column set. -/
def set (row : Row) (name : String) (v : Value) : Row :=
  ⟨put name v row.columns⟩

/-- The value of a column. -/
def get? (row : Row) (name : String) : Option Value :=
  (row.columns.find? fun c => Text.sameIgnoringCase c.1 name).map Prod.snd

/-- The value of a column, or the null value. -/
def getD (row : Row) (name : String) : Value :=
  (row.get? name).getD .null

/-- The names of the columns, in order. -/
def names (row : Row) : List String :=
  row.columns.map Prod.fst

/-- The row with the given columns set one after the other. -/
def ofList (pairs : List (String × Value)) : Row :=
  pairs.foldl (fun row (name, v) => row.set name v) empty

/-- The document of a row. -/
def toJson (row : Row) : Json :=
  .object [("columns", .array (row.columns.map fun (name, v) => .array [.string name, v.toJson]))]

/-- A column with its value. -/
def columnOfJson? : Json → Option (String × Value)
  | .array [.string name, j] => (Value.ofJson? j).map fun v => (name, v)
  | _ => none

/-- The row that a document stands for. -/
def ofJson? (j : Json) : Option Row :=
  match j.toLayer.fields? ["columns"] false with
  | some [some (.array columns)] => (columns.mapM columnOfJson?).map Row.mk
  | _ => none

end Row

end SqlRender
