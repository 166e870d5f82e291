import SqlRender.Json.Basic
import SqlRender.Number.Shortest
import SqlRender.Text.Cut
import SqlRender.Text.Hex

/-!
# Printing JSON

`Json.compact` writes a document without blanks.  `Json.pretty` writes each item and each
member on a line of its own, indented by two spaces for each array or object around it;
empty arrays and objects have no line inside.
-/

namespace SqlRender.Json

/-- The letters behind the backslash in the escape of a character, for the characters
that need one. -/
def escape? (c : Char) : Option String :=
  match c with
  | '"' => some "\""
  | '\\' => some "\\"
  | '\x08' => some "b"
  | '\x0c' => some "f"
  | '\n' => some "n"
  | '\r' => some "r"
  | '\t' => some "t"
  | c =>
    if c.toNat < 32 then
      some (String.ofList ['u', '0', '0', Hex.digit (c.toNat / 16), Hex.digit (c.toNat % 16)])
    else none

/-- A text in quotes; quotes, backslashes and the characters below the space are
escaped. -/
def quoted (s : String) : String :=
  "\"" ++ String.join (s.toList.map fun c =>
    match escape? c with
    | some e => "\\" ++ e
    | none => c.toString) ++ "\""

/-- An opening and a closing brace around a text. -/
def braced (s : String) : String :=
  "\x7b" ++ s ++ "\x7d"

mutual

/-- The text of a document without blanks. -/
def compact : Json → String
  | null => "null"
  | bool b => if b then "true" else "false"
  | int n => toString n
  | float x => if Binary64.isFinite x.toBits then Shortest.scientific x else "null"
  | string s => quoted s
  | array items => "[" ++ Text.joinWith "," (compactItems items) ++ "]"
  | object members => braced (Text.joinWith "," (compactMembers members))

/-- The texts of the items of an array. -/
def compactItems : List Json → List String
  | [] => []
  | j :: rest => compact j :: compactItems rest

/-- The texts of the members of an object. -/
def compactMembers : List (String × Json) → List String
  | [] => []
  | (name, j) :: rest => (quoted name ++ ":" ++ compact j) :: compactMembers rest

end

/-- A line break and the indentation for `depth` open arrays and objects. -/
def newLine (depth : Nat) : String :=
  "\n" ++ String.ofList (List.replicate (2 * depth) ' ')

/-- The parts of an array or object on lines of their own. -/
def onLines (depth : Nat) (parts : List String) : String :=
  match parts with
  | [] => ""
  | parts =>
    newLine (depth + 1) ++ Text.joinWith ("," ++ newLine (depth + 1)) parts ++ newLine depth

mutual

/-- The text of a document inside `depth` open arrays and objects. -/
def prettyAt (depth : Nat) : Json → String
  | array items => "[" ++ onLines depth (prettyItems (depth + 1) items) ++ "]"
  | object members => braced (onLines depth (prettyMembers (depth + 1) members))
  | j => compact j

/-- The texts of the items of an array. -/
def prettyItems (depth : Nat) : List Json → List String
  | [] => []
  | j :: rest => prettyAt depth j :: prettyItems depth rest

/-- The texts of the members of an object. -/
def prettyMembers (depth : Nat) : List (String × Json) → List String
  | [] => []
  | (name, j) :: rest => (quoted name ++ ": " ++ prettyAt depth j) :: prettyMembers depth rest

end

/-- The text of a document on several lines. -/
def pretty (j : Json) : String :=
  prettyAt 0 j

end SqlRender.Json
