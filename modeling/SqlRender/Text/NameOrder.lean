/-!
# Lists in the order of names

A list of named things is sorted by inserting one after the other; a later thing takes the
place of an earlier one of the same name.
-/

namespace SqlRender.Text

variable {α : Type}

/-- The sorted list with `x` in its place under `name`. -/
def insertByName (name : String) (x : α) : List (String × α) → List (String × α)
  | [] => [(name, x)]
  | (other, y) :: rest =>
    if name < other then (name, x) :: (other, y) :: rest
    else if name = other then (name, x) :: rest
    else (other, y) :: insertByName name x rest

/-- The things in the order of their names, the last one of each name only. -/
def sortByName (entries : List (String × α)) : List (String × α) :=
  entries.foldl (fun sorted (name, x) => insertByName name x sorted) []

end SqlRender.Text
