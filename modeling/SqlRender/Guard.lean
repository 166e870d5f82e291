import SqlRender.Text.Blank

/-!
# Guards

A name that a caller supplies becomes part of the text of a statement, so it is examined
first.  A `Guard` is a text together with the examination it has to pass; `verifyAll`
runs a list of guards and reports the first failure.
-/

namespace SqlRender

/-- Why a query cannot be built or written as a statement. -/
inductive QueryError where
  | blankTableName
  | unsafeIdentifier (identifier reason : String)
  | ambiguousAlias (aliasName : String) (tableCount : Nat)
  | emptyFilterMap
  | unsafeOrder (text : String)
  | duplicateTable (name : String)
  | missingTable (reason : String)
  | fullTableMutation (action : String)
  | inconsistentBatch (reason : String)
  | emptyRow (reason : String)
  | invalidPage (reason : String)
  deriving DecidableEq

namespace QueryError

/-- The text of an error. -/
def message : QueryError → String
  | blankTableName => "Table name must not be blank"
  | unsafeIdentifier identifier reason => "Unsafe identifier `" ++ identifier ++ "`: " ++ reason
  | ambiguousAlias aliasName tableCount =>
    "Cannot alias `" ++ aliasName ++ "`: expected exactly one table, found " ++ toString tableCount
  | emptyFilterMap => "Filter map must not be empty"
  | unsafeOrder text => "Unsafe ORDER BY text: " ++ text
  | duplicateTable name =>
    "Table `" ++ name ++ "` is used more than once without a distinguishing alias"
  | missingTable reason => "Statement needs a target table: " ++ reason
  | fullTableMutation action =>
    "Refusing to " ++ action ++ " every row: the query has no WHERE condition"
  | inconsistentBatch reason => "Inconsistent batch: " ++ reason
  | emptyRow reason => "Nothing to write: " ++ reason
  | invalidPage reason => "Invalid page request: " ++ reason

end QueryError

namespace Guard

/-- The characters that no name may hold. -/
def refusedCharacters : List Char :=
  ['\'', '\x60', '"', '<', '>', '&', '+', '=', '#', '-', ';']

/-- Examines the name of a table, a column, an alias or a function. -/
def checkIdentifier (name : String) : Except QueryError Unit :=
  if Text.isAllBlank name then .error (.unsafeIdentifier name "identifier is blank")
  else if name.toList.any Text.isBlank then .error (.unsafeIdentifier name "contains whitespace")
  else
    match name.toList.find? refusedCharacters.contains with
    | some c => .error (.unsafeIdentifier name ("contains unsafe character `" ++ c.toString ++ "`"))
    | none => .ok ()

/-- Examines the name of a table that is read or written. -/
def checkTableName (name : String) : Except QueryError Unit :=
  if Text.isAllBlank name then .error .blankTableName else checkIdentifier name

/-- Whether a character can stand in an ordering that is given as text. -/
def inOrderText (c : Char) : Bool :=
  c.isAlphanum || c == '_' || c == ' ' || c == ',' || c == '.'

/-- Examines an ordering that is given as text. -/
def checkOrderText (text : String) : Except QueryError Unit :=
  if !Text.isAllBlank text && text.toList.all inOrderText then .ok ()
  else .error (.unsafeOrder text)

end Guard

/-- A text with the examination it has to pass, or an error that is certain. -/
inductive Guard where
  | identifier (name : String)
  | tableName (name : String)
  | orderText (text : String)
  | refuse (e : QueryError)
  deriving DecidableEq

namespace Guard

/-- Runs the examination. -/
def verify : Guard → Except QueryError Unit
  | identifier name => checkIdentifier name
  | tableName name => checkTableName name
  | orderText text => checkOrderText text
  | refuse e => .error e

/-- Runs the examinations in order up to the first that fails. -/
def verifyAll : List Guard → Except QueryError Unit
  | [] => .ok ()
  | g :: rest =>
    match g.verify with
    | .ok () => verifyAll rest
    | .error e => .error e

theorem verifyAll_append (gs hs : List Guard) :
  verifyAll (gs ++ hs)
    = (match verifyAll gs with | .ok () => verifyAll hs | .error e => .error e)
  := by
  induction gs with
  | nil => rfl
  | cons g gs ih =>
    simp only [List.cons_append, verifyAll]
    cases g.verify with
    | ok => simpa using ih
    | error e => rfl

theorem verifyAll_eq_ok_iff (gs : List Guard) :
  verifyAll gs = .ok () ↔ ∀ g ∈ gs, g.verify = .ok ()
  := by
  induction gs with
  | nil => simp [verifyAll]
  | cons g gs ih =>
    simp only [verifyAll, List.mem_cons, forall_eq_or_imp]
    cases h : g.verify with
    | ok => simp [ih]
    | error e => simp

end Guard

end SqlRender
