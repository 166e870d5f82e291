import SqlRender.Select

/-!
# Statements that change rows

DELETE and UPDATE by a query, in the common layout and in the layout of `ALTER TABLE`, and
INSERT of one row or of several rows.  A DELETE or UPDATE needs a table and a condition,
and an UPDATE or INSERT needs columns to set; otherwise there is an error instead of
tokens.
-/

namespace SqlRender

/-- How UPDATE and DELETE are laid out. -/
inductive MutationLayout where
  | standard
  /-- As an `ALTER TABLE` statement. -/
  | alterTable
  deriving DecidableEq

/-- How the INSERT of several rows is laid out. -/
inductive BatchLayout where
  /-- One list of columns and several tuples of values. -/
  | tuples
  /-- As an `INSERT ALL` statement. -/
  | insertAll
  deriving DecidableEq

namespace Mutation

/-- The table that a change by `q` aims at, for a query with a table and a condition. -/
def target (q : Query) (action : String) : Except QueryError Table :=
  match q.sources with
  | [] => .error (.missingTable (action ++ " needs a FROM table"))
  | t :: _ => if q.filter.isEmpty then .error (.fullTableMutation action) else .ok t

/-- Refuses a row without columns. -/
def checkRow (row : UpdateRow) (action : String) : Except QueryError Unit :=
  if row.entries.isEmpty then .error (.emptyRow (action ++ " sets no columns")) else .ok ()

/-- The name of a table without its alias; a derived table has none. -/
def tableName (t : Table) : List Token :=
  match t.source with
  | .named schema name => [.table schema name]
  | .derived _ => [.refuse (.missingTable "a derived table cannot be the target of this statement")]

/-- What a column is set to. -/
def assignedTokens (style : SelectStyle) (scope : Option Scope) : Assigned → List Token
  | .value v => [.bind v]
  | .raw sql params => [.raw sql params]
  | .query q => Token.parenthesized (q.tokens style scope)

/-- The assignments of a row. -/
def assignments (style : SelectStyle) (scope : Option Scope) (row : UpdateRow) : List Token :=
  Token.separated ", " (row.entries.map fun (column, x) =>
    [.name column, .text " = "] ++ assignedTokens style scope x)

/-- The names of the columns of a row, in parentheses. -/
def columnList (row : UpdateRow) : List Token :=
  Token.parenthesized (Token.separated ", " (row.entries.map fun entry => [.name entry.1]))

/-- The values of a row, in parentheses. -/
def valueTuple (style : SelectStyle) (row : UpdateRow) : List Token :=
  Token.parenthesized
    (Token.separated ", " (row.entries.map fun entry => assignedTokens style none entry.2))

/-- The condition of a query with the word before it. -/
def whereTokens (style : SelectStyle) (q : Query) : List Token :=
  .text " WHERE " :: q.filter.tokens style q.scope

/-- The texts at the end of a query. -/
def endingTokens (q : Query) : List Token :=
  q.endings.flatMap fun e => [.text " ", .raw e []]

/-- DELETE by a query. -/
def delete (style : SelectStyle) (layout : MutationLayout) (q : Query) :
    Except QueryError (List Token) := do
  let t ← target q "delete"
  match layout with
  | .standard =>
    pure (.text "DELETE FROM " :: Token.separated ", " (Table.tokensEach style q.scope q.sources)
      ++ Join.includedTokens style q.scope q.joins ++ whereTokens style q ++ endingTokens q)
  | .alterTable =>
    pure (.text "ALTER TABLE " :: tableName t ++ .text " DELETE" :: whereTokens style q)

/-- UPDATE by a query. -/
def update (style : SelectStyle) (layout : MutationLayout) (row : UpdateRow) (q : Query) :
    Except QueryError (List Token) := do
  let t ← target q "update"
  checkRow row "update"
  match layout with
  | .standard =>
    pure (.text "UPDATE " :: t.tokens style q.scope ++ Join.includedTokens style q.scope q.joins
      ++ .text " SET " :: assignments style q.scope row ++ whereTokens style q ++ endingTokens q)
  | .alterTable =>
    pure (.text "ALTER TABLE " :: tableName t ++ .text " UPDATE " :: assignments style q.scope row
      ++ whereTokens style q)

/-- The table of an INSERT with the columns of a row. -/
def insertTarget (t : Table) (row : UpdateRow) : List Token :=
  .text " INTO " :: tableName t ++ columnList row

/-- INSERT of one row. -/
def insert (style : SelectStyle) (t : Table) (row : UpdateRow) : Except QueryError (List Token) := do
  checkRow row "insert"
  pure (.text "INSERT" :: insertTarget t row ++ .text " VALUES " :: valueTuple style row)

/-- The names of columns in square brackets, for an error. -/
def columnNote (row : UpdateRow) : String :=
  "[" ++ Text.joinWith ", " row.columnNames ++ "]"

/-- Refuses a list of rows that is empty or whose rows do not set the same columns. -/
def checkBatch : List UpdateRow → Except QueryError UpdateRow
  | [] => .error (.inconsistentBatch "no rows to insert")
  | first :: rest => do
    checkRow first "insert"
    match (rest.zipIdx 1).find? fun (row, _) => row.columnNames != first.columnNames with
    | some (row, i) =>
      .error (.inconsistentBatch
        ("row " ++ toString i ++ " sets " ++ columnNote row ++ ", expected " ++ columnNote first))
    | none => .ok first

/-- INSERT of several rows. -/
def insertBatch (style : SelectStyle) (layout : BatchLayout) (t : Table) (rows : List UpdateRow) :
    Except QueryError (List Token) := do
  let first ← checkBatch rows
  match layout with
  | .tuples =>
    pure (.text "INSERT" :: insertTarget t first ++ .text " VALUES "
      :: Token.separated ", " (rows.map (valueTuple style)))
  | .insertAll =>
    pure (.text "INSERT ALL" ::
      (rows.flatMap fun row => insertTarget t row ++ .text " VALUES " :: valueTuple style row)
      ++ [.text " SELECT 1 FROM DUAL"])

end Mutation

end SqlRender
