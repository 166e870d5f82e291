import SqlRender.Json.Scanner

/-!
# Parsing JSON

`Json.parseWith` reads a whole text and makes a result for each of its parts from the
results for the parts inside.  The parser takes one lexeme after the other and keeps a
stack of the arrays and objects that are still open.  A part inside of more than
`depthLimit` others that are open at once stands for no value, nor does an object with a
name that stands for no text.  So a text with such parts is well written, and it depends
on the reader whether they matter; `Json.parse?` refuses it.
-/

namespace SqlRender.Json

/-- The greatest number of arrays and objects that may be nested. -/
def depthLimit : Nat :=
  127

/-- An open array or object, with the results for its complete parts in reverse. -/
inductive Frame (α : Type) where
  | array (items : List α)
  /-- An object whose next value belongs to `name`. -/
  | object (members : List (Option Spelled × α)) (name : Option Spelled)

/-- What the parser waits for. -/
inductive Wait (α : Type) where
  /-- A value; the first item of an array may be missing. -/
  | value
  | firstItem
  /-- The name of a member; the first one may be missing. -/
  | name (members : List (Option Spelled × α))
  | firstName
  | colon (members : List (Option Spelled × α)) (name : Option Spelled)
  /-- A comma or the end of the innermost open array or object, after a value. -/
  | next
  /-- Nothing more, after the value of the whole text. -/
  | done (x : α)

variable {α : Type}

/-- The parser's next state after a value is complete. -/
def complete (frames : List (Frame α)) (x : α) : Wait α × List (Frame α) :=
  match frames with
  | [] => (.done x, [])
  | .array items :: rest => (.next, .array (x :: items) :: rest)
  | .object members name :: rest => (.next, .object ((name, x) :: members) name :: rest)

/-- The parser's next state after an array or object with the given layer is closed. -/
def close (r : Reader α) (frames : List (Frame α)) (layer : Option (Layer α)) :
    Wait α × List (Frame α) :=
  complete frames <|
    if frames.length < depthLimit then layer.elim r.unreadable r.part else r.unreadable

/-- The text of the name of a member and the result for the member. -/
def memberPart (r : Reader α) (name : Spelled) (x : α) : String × α :=
  (name.text, if name.plain then x else r.underEscapedName x)

/-- The layer of an object, if all of its names stand for texts. -/
def objectLayer? (r : Reader α) (members : List (Option Spelled × α)) : Option (Layer α) :=
  (members.mapM fun (m : Option Spelled × α) => m.1.map fun name => memberPart r name m.2).map
    .object

/-- The result for a string. -/
def stringPart (r : Reader α) (s : Option Spelled) : α :=
  s.elim r.unreadable fun s => r.part (.string s.text)

/-- The parser's next state after a lexeme. -/
def advance (r : Reader α) (frames : List (Frame α)) :
    Wait α → Lexeme α → Option (Wait α × List (Frame α))
  | .value, .scalar x | .firstItem, .scalar x => some (complete frames x)
  | .value, .string s | .firstItem, .string s => some (complete frames (stringPart r s))
  | .value, .openArray | .firstItem, .openArray => some (.firstItem, .array [] :: frames)
  | .value, .openObject | .firstItem, .openObject =>
    some (.firstName, .object [] none :: frames)
  | .firstItem, .closeArray => some (close r frames.tail (some (.array [])))
  | .firstName, .closeObject => some (close r frames.tail (some (.object [])))
  | .firstName, .string s => some (.colon [] s, frames.tail)
  | .name members, .string s => some (.colon members s, frames)
  | .colon members name, .colon => some (.value, .object members name :: frames)
  | .next, .comma =>
    match frames with
    | .array _ :: _ => some (.value, frames)
    | .object members _ :: rest => some (.name members, rest)
    | [] => none
  | .next, .closeArray =>
    match frames with
    | .array items :: rest => some (close r rest (some (.array items.reverse)))
    | _ => none
  | .next, .closeObject =>
    match frames with
    | .object members _ :: rest => some (close r rest (objectLayer? r members.reverse))
    | _ => none
  | _, _ => none

/-- Parses on from a state. -/
def parseFrom (r : Reader α) : Wait α × List (Frame α) → List (Lexeme α) → Option α
  | (.done x, _), [] => some x
  | _, [] => none
  | (wait, frames), l :: rest =>
    (advance r frames wait l).bind fun state => parseFrom r state rest

/-- The result for a whole text. -/
def parseWith (r : Reader α) (s : String) : Option α :=
  (scan r s).bind (parseFrom r (.value, []))

/-- The document that a whole text writes. -/
def parse? (s : String) : Option Json :=
  (parseWith document s).join

/-- The outermost layer of a whole text, with the documents of its parts. -/
def parseLayer? (s : String) : Option (Layer (Option Json)) :=
  (parseWith outermost s).bind Prod.fst

end SqlRender.Json
