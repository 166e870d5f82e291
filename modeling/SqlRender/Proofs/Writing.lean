import SqlRender.Dialect

/-!
# Writing into a statement

A statement is written in one pass by a writer that holds the text and the values so far
and the tables of the queries under way.  A query inside of a query is written with the
same writer: the select enters the scope of its tables, and leaves it when it is complete
and also when it fails.  A column looks at the innermost scope only.

Here are the steps of the writer.  `Query.write` takes a writer from wherever it is through
a whole query.
-/

namespace SqlRender

/-- What has been written so far. -/
structure Writer where
  sql : String
  params : List Value
  /-- The tables of the queries under way, the innermost first. -/
  scopes : List Scope

/-- A step of a writer; a step that fails still leaves a writer behind. -/
abbrev Writing :=
  EStateM QueryError Writer Unit

namespace Writing

/-- Writes words of the language. -/
def push (text : String) : Writing :=
  modify fun w => { w with sql := w.sql ++ text }

/-- Writes text of the caller with its values. -/
def raw (sql : String) (values : List Value) : Writing :=
  modify fun w => { w with sql := w.sql ++ sql, params := w.params ++ values }

/-- Writes a placeholder and binds a value to it. -/
def bind (v : Value) : Writing :=
  modify fun w => { w with sql := w.sql ++ "?", params := w.params ++ [v] }

/-- Fails unless the text passes its examination. -/
def verify (g : Guard) : Writing :=
  match g.verify with
  | .ok () => pure ()
  | .error e => throw e

/-- Writes a name that is not quoted. -/
def function (n : String) : Writing := do
  verify (.identifier n)
  push n

/-- Writes the steps one after the other with `separator` between them. -/
def separated (separator : String) : List Writing → Writing
  | [] => pure ()
  | [m] => m
  | m :: rest => do
    m
    push separator
    separated separator rest

/-- Writes a parenthesis on each side. -/
def parenthesized (m : Writing) : Writing := do
  push "("
  m
  push ")"

/-- Writes a parenthesis on each side if `needed`. -/
def parenthesizedIf (needed : Bool) (m : Writing) : Writing :=
  if needed then parenthesized m else m

/-- Writes a clause unless there is nothing in it. -/
def clause (isEmpty : Bool) (m : Writing) : Writing :=
  if isEmpty then pure () else m

/-- Writes what there may be. -/
def optional {α : Type} (m : α → Writing) : Option α → Writing
  | none => pure ()
  | some a => m a

/-- Writes inside of the scope of a query.  The scope is left in any case. -/
def inside (scope : Scope) (m : Writing) : Writing := fun w =>
  match m { w with scopes := scope :: w.scopes } with
  | .ok () w => .ok () { w with scopes := w.scopes.tail }
  | .error e w => .error e { w with scopes := w.scopes.tail }

variable (quoting : Quoting)

/-- Writes a quoted name. -/
def name (n : String) : Writing := do
  verify (.identifier n)
  push (quoting.wrapName n)

/-- Writes the name of a table behind its schema. -/
def table (schema : Option String) (n : String) : Writing := do
  verify (.tableName n)
  optional (fun s => do name quoting s; push ".") schema
  name quoting n

/-- Writes the name of a column behind the qualifier that the innermost scope demands. -/
def column (table : Option String) (n : String) : Writing := do
  let w ← get
  optional (fun q => do name quoting q; push ".") (table.bind (Scope.qualifier? w.scopes.head?))
  name quoting n

/-- Writes an alias behind the text that stands before it. -/
def aliased (word : String) : Option String → Writing :=
  optional fun a => do
    push word
    name quoting a

/-- Writes the direction of an ordering and the place of the rows without a value. -/
def orderWords (direction : Option Direction) (nulls : Option NullOrder) : Writing := do
  optional (fun d => do push " "; push d.word) direction
  optional (fun n => do push " "; push n.words) nulls

/-- Writes the name of a common table expression and the names of its columns. -/
def cteHead (n : String) (columns : List String) : Writing := do
  name quoting n
  clause columns.isEmpty (parenthesized (separated ", " (columns.map (name quoting))))
  push " AS "

/-- Writes texts at the end of a statement. -/
def endings : List String → Writing
  | [] => pure ()
  | e :: rest => do
    push " "
    raw e []
    endings rest

end Writing

/-! ### Arranging the steps -/

open Writing

/-- The steps that write the parts of a select. -/
structure SelectSteps where
  layout : PageLayout
  hasCtes : Bool
  /-- The common table expressions, with the word before them. -/
  ctes : Writing
  /-- Fails if two tables cannot be told apart. -/
  clash : Writing
  scope : Scope
  hint : Writing
  columns : List Column
  /-- The columns with their aliases. -/
  items : List Writing
  /-- The columns of a leading DISTINCT. -/
  distinct : List Writing
  clauses : Writing
  isOrdered : Bool
  /-- The ordering, as it is written around the query or inside of it. -/
  order : Bool → Writing
  after : Writing

namespace SelectSteps

/-- Writes the select list behind the head. -/
def list (p : SelectSteps) (head : Option SelectHead) : Writing :=
  let plain := if p.columns.isEmpty then push "*" else separated ", " p.items
  match head, p.columns with
  | none, _ => plain
  | some h, c :: _ =>
    if h.afterDistinct && c.isDistinct then
      separated ", "
        ((do push "DISTINCT "; push h.text; push " "; separated ", " p.distinct) :: p.items.drop 1)
    else do
      push h.text
      push " "
      plain
  | some h, [] => do
    push h.text
    push " "
    plain

/-- Writes the number of a row in the given ordering. -/
def rowNumber (p : SelectSteps) (around : Bool) : Writing := do
  push "ROW_NUMBER() OVER ("
  (if p.isOrdered then (do push "ORDER BY "; p.order around)
    else push "ORDER BY CURRENT_TIMESTAMP")
  push ") AS "
  push "__rn"

/-- Writes the select from its first word to HAVING, with something before its columns. -/
def body (p : SelectSteps) (first : Writing) (head : Option SelectHead) : Writing := do
  push "SELECT "
  p.hint
  first
  p.list head
  p.clauses

/-- Writes the select without common table expressions. -/
def core (p : SelectSteps) (head : Option SelectHead) : Writing := do
  p.clash
  inside p.scope do
    p.body (pure ()) head
    clause (!p.isOrdered) (do push " "; push "ORDER BY "; p.order false)

/-- Writes the select with numbered rows.  Those of a select with distinct columns are
numbered from outside, before its scope is entered. -/
def numberedCore (p : SelectSteps) (aliasSeparator : String) : Writing := do
  p.clash
  if p.columns.any Column.isDistinct then do
    push "SELECT "
    p.rowNumber true
    push ", * FROM ("
    inside p.scope (p.body (pure ()) none)
    push ")"
    push aliasSeparator
    push "temp_distinct"
  else
    inside p.scope (p.body (do p.rowNumber false; push ", ") none)

/-- Writes the common table expressions with a text behind them, if there are any. -/
def preamble (p : SelectSteps) (separator : String) : Writing :=
  clause (!p.hasCtes) do
    p.ctes
    push separator

/-- Writes the select with its common table expressions in front. -/
def standard (p : SelectSteps) (head : Option SelectHead) : Writing := do
  p.preamble " "
  p.core head

/-- Writes the select with its window. -/
def paged (p : SelectSteps) (aliasSeparator : String) : Writing :=
  match p.layout with
  | .inline head tail => do
    p.standard head
    optional (fun t => do push " "; push t) tail
  | .wrapped before after => do
    push before
    p.standard none
    push after
  | .numbered first last => do
    (if p.hasCtes then p.preamble ", " else push "WITH ")
    push "temp_datas AS ("
    p.numberedCore aliasSeparator
    push ") SELECT "
    push (outerNames p.columns)
    push (" FROM temp_datas WHERE __rn BETWEEN " ++ rowText first ++ " AND " ++ rowText last
      ++ " ORDER BY __rn")

/-- Writes the whole query. -/
def write (p : SelectSteps) (aliasSeparator : String) : Writing := do
  p.paged aliasSeparator
  p.after

end SelectSteps

/-! ### Writing the parts -/

/-- Fails if two tables cannot be told apart. -/
def Writing.clash (sources : List Table) (joins : List Join) : Writing :=
  match Table.firstClash? (sources ++ (joins.filter Join.included).map Join.table) with
  | some t => throw (.duplicateTable (t.name?.getD ""))
  | none => pure ()

mutual

/-- The steps that write the parts of a select. -/
def Query.steps (d : Dialect) : Query → SelectSteps
  | ⟨recursive, ctes, hint, columns, sources, joins, filter, groups, having, order, rows, offset,
      partners, endings⟩ =>
    { layout := d.paging.layoutOf rows offset
      hasCtes := !ctes.isEmpty
      ctes := do
        push (if recursive then "WITH RECURSIVE " else "WITH ")
        separated ", " (Cte.writeEach d ctes)
      clash := clash sources joins
      scope := Scope.of sources joins
      hint := optional (fun h => do push "/*+ "; raw h []; push " */ ") hint
      columns
      items := Column.itemEach d columns
      distinct := Column.writeLeading d columns
      clauses := do
        clause sources.isEmpty (do push " FROM "; separated ", " (Table.writeEach d sources))
        Join.writeIncluded d joins
        clause filter.isEmpty (do push " WHERE "; Condition.write d filter)
        clause groups.isEmpty (do push " GROUP BY "; separated ", " (Column.writeEach d groups))
        clause having.isEmpty (do push " HAVING "; Condition.write d having)
      isOrdered := !order.isEmpty
      order := fun around => separated ", " (OrderItem.writeEach d around order)
      after := do
        Writing.endings endings
        Partner.writeAll d partners }

/-- Writes the common table expressions of a list. -/
def Cte.writeEach (d : Dialect) : List Cte → List Writing
  | [] => []
  | ⟨n, columns, q⟩ :: rest =>
    (do
        Writing.cteHead d.quoting n columns
        parenthesized ((Query.steps d q).write d.aliasSeparator))
      :: Cte.writeEach d rest

/-- Writes the partners of a union, each with the words before it. -/
def Partner.writeAll (d : Dialect) : List Partner → Writing
  | [] => pure ()
  | ⟨kind, q⟩ :: rest => do
    push " "
    push kind.words
    push " "
    Writing.parenthesizedIf (!q.order.isEmpty || q.isLimited)
      ((Query.steps d q).write d.aliasSeparator)
    Partner.writeAll d rest

/-- Writes a column without its alias. -/
def Column.write (d : Dialect) : Column → Writing
  | ⟨expr, _⟩ => Expr.write d expr

/-- Writes the columns of a list, without their aliases. -/
def Column.writeEach (d : Dialect) : List Column → List Writing
  | [] => []
  | c :: rest => Column.write d c :: Column.writeEach d rest

/-- Writes the columns of a list with their aliases. -/
def Column.itemEach (d : Dialect) : List Column → List Writing
  | [] => []
  | c :: rest =>
    (do Column.write d c; aliased d.quoting " AS " c.aliasName) :: Column.itemEach d rest

/-- Writes the columns of a leading DISTINCT. -/
def Column.writeLeading (d : Dialect) : List Column → List Writing
  | ⟨.distinct columns, _⟩ :: _ => Column.writeEach d columns
  | _ => []

/-- Writes an expression. -/
def Expr.write (d : Dialect) : Expr → Writing
  | .named table n => column d.quoting table n
  | .call f args => do
    function f
    parenthesized (separated ", " (Column.writeEach d args))
  | .distinct columns => do
    push "DISTINCT "
    separated ", " (Column.writeEach d columns)
  | .raw sql params => raw sql params
  | .param v => bind v
  | .arithmetic left op right => do
    Writing.parenthesizedIf left.isArithmetic (Column.write d left)
    push " "
    push op.word
    push " "
    Writing.parenthesizedIf right.isArithmetic (Column.write d right)
  | .subquery q => parenthesized ((Query.steps d q).write d.aliasSeparator)

/-- Writes a table with its alias. -/
def Table.write (d : Dialect) : Table → Writing
  | ⟨source, aliasName⟩ => do
    Source.write d source
    aliased d.quoting d.aliasSeparator aliasName

/-- Writes the tables of a list. -/
def Table.writeEach (d : Dialect) : List Table → List Writing
  | [] => []
  | t :: rest => Table.write d t :: Table.writeEach d rest

/-- Writes a table without its alias. -/
def Source.write (d : Dialect) : Source → Writing
  | .named schema n => table d.quoting schema n
  | .derived q => parenthesized ((Query.steps d q).write d.aliasSeparator)

/-- Writes a join, whether it is included or not. -/
def Join.write (d : Dialect) : Join → Writing
  | ⟨kind, table, on, _⟩ => do
    push kind.words
    push " "
    Table.write d table
    match on with
    | some c => clause c.isEmpty (do push " ON "; Condition.write d c)
    | none => pure ()

/-- Writes the included joins of a list, each behind a space. -/
def Join.writeIncluded (d : Dialect) : List Join → Writing
  | [] => pure ()
  | j :: rest => do
    clause (!j.included) (do push " "; Join.write d j)
    Join.writeIncluded d rest

/-- Writes a condition. -/
def Condition.write (d : Dialect) : Condition → Writing
  | .empty => pure ()
  | .predicate c op operand => do
    Column.write d c
    push " "
    push op.words
    Operand.write d operand
  | .raw sql params => raw sql params
  | .existence negated q => do
    push (if negated then "NOT EXISTS " else "EXISTS ")
    parenthesized ((Query.steps d q).write d.aliasSeparator)
  | .not c => clause c.isEmpty (do push "NOT "; parenthesized (Condition.write d c))
  | .group c => clause c.isEmpty (parenthesized (Condition.write d c))
  | .connect left op right =>
    if left.isEmpty then Condition.write d right
    else if right.isEmpty then Condition.write d left
    else do
      Writing.parenthesizedIf (left.needsParentheses op) (Condition.write d left)
      push " "
      push op.word
      push " "
      Writing.parenthesizedIf (right.needsParentheses op) (Condition.write d right)

/-- Writes the right side of a predicate, behind a space. -/
def Operand.write (d : Dialect) : Operand → Writing
  | .absent => pure ()
  | .value v => do
    push " "
    bind v
  | .list vs => do
    push " "
    parenthesized (separated ", " (vs.map bind))
  | .range first last => do
    push " "
    bind first
    push " AND "
    bind last
  | .column c => do
    push " "
    Column.write d c
  | .query q => do
    push " "
    parenthesized ((Query.steps d q).write d.aliasSeparator)

/-- Writes an entry of an ordering.  Around the query a column of a table is written without
the table. -/
def OrderItem.write (d : Dialect) (around : Bool) : OrderItem → Writing
  | .column c direction nulls => do
    (match around, c.name? with
      | true, some n => name d.quoting n
      | _, _ => Column.write d c)
    Writing.orderWords direction nulls
  | .raw text => do
    verify (.orderText text)
    push text

/-- Writes the entries of an ordering. -/
def OrderItem.writeEach (d : Dialect) (around : Bool) : List OrderItem → List Writing
  | [] => []
  | item :: rest => OrderItem.write d around item :: OrderItem.writeEach d around rest

end

/-- Writes a query wherever the writer is. -/
def Query.write (d : Dialect) (q : Query) : Writing :=
  (q.steps d).write d.aliasSeparator

end SqlRender
