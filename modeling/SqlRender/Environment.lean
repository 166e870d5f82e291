import SqlRender.Files
import SqlRender.Text.AsciiCase
import SqlRender.Text.Blank
import SqlRender.Text.Cut

/-!
# Environments

An environment gives values to names.  It can be extended by the assignments in a text,
one on each line.  Blank lines and lines that begin with `#` are skipped, the word
`export` may stand before a name, and a value may stand in quotes.  The assignments
before a faulty line remain in force.
-/

namespace SqlRender

/-- The values of names, the latest assignment first. -/
structure Environment where
  assignments : List (String × String)

namespace Environment

/-- The environment in which nothing is assigned. -/
def empty : Environment :=
  ⟨[]⟩

/-- The environment with a further assignment. -/
def assign (name value : String) (env : Environment) : Environment :=
  ⟨(name, value) :: env.assignments⟩

/-- The environment of the given assignments, of which later ones win. -/
def ofPairs (pairs : List (String × String)) : Environment :=
  ⟨pairs.reverse⟩

/-- The value of a name. -/
def value? (name : String) (env : Environment) : Option String :=
  (env.assignments.find? fun a => a.1 == name).map Prod.snd

/-- The value of a name, if it is not empty. -/
def setting? (name : String) (env : Environment) : Option String :=
  (env.value? name).filter fun value => !value.isEmpty

theorem value?_assign (name value wanted : String) (env : Environment) :
  (env.assign name value).value? wanted = if name = wanted then some value else env.value? wanted
  := by
  by_cases h : name = wanted <;> simp [assign, value?, h]

end Environment

/-! ### Switches -/

/-- A value that is no truth value. -/
structure BadSwitch where
  name : String
  value : String
  deriving DecidableEq

/-- The text of the error. -/
def BadSwitch.message (e : BadSwitch) : String :=
  "Invalid value \x60" ++ e.value ++ "\x60 for " ++ e.name ++ ": expected a boolean"

/-- The truth value that a text names, with letter case ignored. -/
def switch? (text : String) : Option Bool :=
  let word := Text.lower text
  if word ∈ ["true", "1", "yes", "on"] then some true
  else if word ∈ ["false", "0", "no", "off"] then some false
  else none

/-- The truth value of a name in an environment, if it has one that is not empty. -/
def Environment.switch (name : String) (env : Environment) : Except BadSwitch (Option Bool) :=
  match env.setting? name with
  | none => .ok none
  | some value =>
    match switch? value with
    | some b => .ok (some b)
    | none => .error ⟨name, value⟩

/-! ### Assignments in a text -/

/-- What a line of an assignment text is. -/
inductive AssignmentLine where
  /-- A blank line or a remark. -/
  | skipped
  | assignment (name value : String)
  /-- A line without `=`. -/
  | unseparated
  /-- A line without a name before `=`. -/
  | nameless
  deriving DecidableEq

/-- The characters behind the word `export` and a space, if the line begins so. -/
def withoutExport (cs : List Char) : List Char :=
  let word := "export ".toList
  if word.isPrefixOf cs then cs.drop word.length else cs

/-- The characters between two marks `quote`, if one stands at each end. -/
def between? (quote : Char) : List Char → Option (List Char)
  | [] => none
  | c :: cs => if c = quote ∧ cs.getLast? = some quote then some cs.dropLast else none

/-- A value without blanks around it and without a pair of quotes. -/
def unquoted (value : String) : String :=
  let cs := (Text.trim value).toList
  String.ofList (((between? '"' cs).orElse fun _ => between? '\'' cs).getD cs)

/-- What a line is. -/
def AssignmentLine.ofText (line : String) : AssignmentLine :=
  match (Text.trim line).toList with
  | [] => .skipped
  | '#' :: _ => .skipped
  | cs =>
    match Text.cutFirst? '=' (withoutExport cs) with
    | none => .unseparated
    | some (before, after) =>
      let name := Text.trim (String.ofList before)
      if name.isEmpty then .nameless else .assignment name (unquoted (String.ofList after))

/-- Why a text of assignments is refused.  Lines are numbered from one. -/
inductive AssignmentError where
  | unseparated (line : Nat)
  | nameless (line : Nat)
  deriving DecidableEq

/-- The text of the error. -/
def AssignmentError.message : AssignmentError → String
  | unseparated line =>
    "Invalid env file: malformed line " ++ toString line ++ " (expected KEY=VALUE)"
  | nameless line => "Invalid env file: empty key at line " ++ toString line

namespace Environment

/-- The environment after the lines up to the first faulty one, the first of the lines
having the number `n`, and the fault. -/
def loadLines (n : Nat) : List AssignmentLine → Environment → Environment × Option AssignmentError
  | [], env => (env, none)
  | .skipped :: rest, env => loadLines (n + 1) rest env
  | .assignment name value :: rest, env => loadLines (n + 1) rest (env.assign name value)
  | .unseparated :: _, env => (env, some (.unseparated n))
  | .nameless :: _, env => (env, some (.nameless n))

/-- The lines of a text of assignments. -/
def linesOf (text : String) : List AssignmentLine :=
  (Text.pieces '\n' text.toList).map fun line => .ofText (String.ofList line)

/-- The environment after the assignments of a text, and the fault that ended them. -/
def load (text : String) (env : Environment) : Environment × Option AssignmentError :=
  loadLines 1 (linesOf text) env

end Environment

end SqlRender
