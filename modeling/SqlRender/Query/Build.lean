import SqlRender.Guard
import SqlRender.Query.Parts
import SqlRender.Text.NameOrder

/-!
# Building queries

Queries are built clause by clause.  A name that a caller supplies is examined when it is
put into the query, so the functions that take names return an error if they are refused.
Optional filters need no case distinctions: a comparison with the null value and a list
without values are empty conditions, and connecting with an empty condition changes
nothing.
-/

namespace SqlRender

/-! ### Columns -/

namespace Column

/-- An expression without an alias. -/
def plain (expr : Expr) : Column :=
  ⟨expr, none⟩

/-- The column `name` of a table. -/
def inTable (table name : String) : Column :=
  plain (.named (some table) name)

/-- The column that a text names, with everything before the last point as its table. -/
def ofText (name : String) : Column :=
  match Text.cutLast? '.' name.toList with
  | some (t :: table, column) => inTable (String.ofList (t :: table)) (String.ofList column)
  | _ => plain (.named none name)

/-- All columns. -/
def all : Column :=
  ofText "*"

/-- All columns of a table. -/
def allOf (table : String) : Column :=
  inTable table "*"

/-- A call of a function. -/
def call (function : String) (args : List Column) : Column :=
  plain (.call function args)

/-- The number of rows. -/
def countAll : Column :=
  call "COUNT" [all]

/-- A list of distinct columns. -/
def distinct (columns : List Column) : Column :=
  plain (.distinct columns)

/-- Text of the caller. -/
def raw (sql : String) (params : List Value) : Column :=
  plain (.raw sql params)

/-- A value in place of a column. -/
def param (v : Value) : Column :=
  plain (.param v)

/-- The result of a query in place of a column. -/
def subquery (q : Query) : Column :=
  plain (.subquery q)

/-- An operation on two columns. -/
def arithmetic (left : Column) (op : Arithmetic) (right : Column) : Column :=
  plain (.arithmetic left op right)

/-- The column with an alias. -/
def named (aliasName : String) (c : Column) : Column :=
  { c with aliasName := some aliasName }

/-! ### Predicates on a column -/

/-- A comparison with a value; nothing for the null value. -/
def compare (c : Column) (op : Comparison) (v : Value) : Condition :=
  if v.isNull then .empty else .predicate c op (.value v)

/-- The column holds the text somewhere. -/
def like (c : Column) (text : String) : Condition :=
  c.compare .like (.string ("%" ++ text ++ "%"))

/-- The column starts with the text. -/
def startsLike (c : Column) (text : String) : Condition :=
  c.compare .like (.string (text ++ "%"))

/-- The column ends with the text. -/
def endsLike (c : Column) (text : String) : Condition :=
  c.compare .like (.string ("%" ++ text))

/-- The column does not hold the text. -/
def notLike (c : Column) (text : String) : Condition :=
  c.compare .notLike (.string ("%" ++ text ++ "%"))

/-- A comparison with a list of values; nothing for the empty list. -/
def compareList (c : Column) (op : Comparison) (vs : List Value) : Condition :=
  if vs.isEmpty then .empty else .predicate c op (.list vs)

/-- A comparison with a range of values; nothing if an end is the null value. -/
def compareRange (c : Column) (op : Comparison) (first last : Value) : Condition :=
  if first.isNull || last.isNull then .empty else .predicate c op (.range first last)

/-- A comparison with the result of a query. -/
def compareQuery (c : Column) (op : Comparison) (q : Query) : Condition :=
  .predicate c op (.query q)

/-- A comparison with a column. -/
def compareColumn (c : Column) (op : Comparison) (other : Column) : Condition :=
  .predicate c op (.column other)

/-- The column holds no value. -/
def isNull (c : Column) : Condition :=
  .predicate c .isNull .absent

/-- The column holds a value. -/
def isNotNull (c : Column) : Condition :=
  .predicate c .isNotNull .absent

end Column

/-! ### Conditions -/

namespace Condition

/-- Two conditions connected; an empty one is left out. -/
def connected (op : Connective) (c d : Condition) : Condition :=
  if c.isEmpty then d else if d.isEmpty then c else .connect c op d

/-- Both conditions. -/
def and (c d : Condition) : Condition :=
  connected .and c d

/-- One of the conditions. -/
def or (c d : Condition) : Condition :=
  connected .or c d

/-- The opposite condition; an empty condition is left as it is. -/
def negated (c : Condition) : Condition :=
  if c.isEmpty then c else .not c

/-- The condition in parentheses; an empty condition is left as it is. -/
def grouped (c : Condition) : Condition :=
  if c.isEmpty then c else .group c

/-- The condition if `b` holds, and nothing otherwise. -/
def onlyIf (c : Condition) (b : Bool) : Condition :=
  if b then c else .empty

end Condition

/-! ### Tables -/

namespace Table

/-- A named table with a schema. -/
def inSchema (schema name : String) : Table :=
  ⟨.named (some schema) name, none⟩

/-- The table that a text names, with everything before the first point as its schema. -/
def ofText (name : String) : Table :=
  match Text.cutFirst? '.' name.toList with
  | some (s :: schema, table) => inSchema (String.ofList (s :: schema)) (String.ofList table)
  | _ => ⟨.named none name, none⟩

/-- The table that a text names, if the names are accepted. -/
def parse (name : String) : Except QueryError Table := do
  Guard.checkTableName name
  let t := ofText name
  Guard.checkTableName (t.name?.getD "")
  pure t

/-- The result of a query as a table. -/
def derived (q : Query) : Table :=
  ⟨.derived q, none⟩

/-- The table with an alias. -/
def named (aliasName : String) (t : Table) : Table :=
  { t with aliasName := some aliasName }

end Table

/-! ### Joins -/

namespace Join

/-- A join without a condition. -/
def start (kind : JoinKind) (t : Table) (included : Bool) : Join :=
  ⟨kind, t, none, included⟩

/-- The join with an alias for its table. -/
def named (aliasName : String) (j : Join) : Except QueryError Join := do
  Guard.checkIdentifier aliasName
  pure { j with table := j.table.named aliasName }

/-- The join with a condition. -/
def onCondition (c : Condition) (j : Join) : Join :=
  { j with on := some c }

/-- The join on two equal columns. -/
def onColumns (left right : Column) (j : Join) : Join :=
  j.onCondition (left.compareColumn .eq right)

end Join

/-! ### Queries -/

namespace Query

/-- The query with further columns. -/
def select (q : Query) (columns : List Column) : Query :=
  { q with columns := q.columns ++ columns }

/-- The query with a further source, unless it reads the same table already. -/
def fromTable (q : Query) (t : Table) : Query :=
  if q.sources.any fun s => s.isSameAs t then q else { q with sources := q.sources ++ [t] }

/-- The query with the table that a text names as a further source. -/
def fromName (q : Query) (name : String) : Except QueryError Query := do
  let t ← Table.parse name
  pure (q.fromTable t)

/-- The query with the result of a query as a further source. -/
def fromQuery (q : Query) (inner : Query) : Query :=
  q.fromTable (Table.derived inner)

/-- The query with an alias for its only source. -/
def named (q : Query) (aliasName : String) : Except QueryError Query := do
  Guard.checkIdentifier aliasName
  match q.sources with
  | [t] => pure { q with sources := [t.named aliasName] }
  | ts => .error (.ambiguousAlias aliasName ts.length)

/-- The query with another condition. -/
def filtered (q : Query) (c : Condition) : Query :=
  { q with filter := c }

/-- The query with a further condition. -/
def and (q : Query) (c : Condition) : Query :=
  { q with filter := q.filter.and c }

/-- The query with an alternative to its condition. -/
def or (q : Query) (c : Condition) : Query :=
  { q with filter := q.filter.or c }

/-- The query with text of the caller as a further condition. -/
def andRaw (q : Query) (sql : String) (params : List Value) : Query :=
  q.and (.raw sql params)

/-- The guards of a column that a filter names. -/
def filterGuards (c : Column) : List Guard :=
  (c.table?.toList ++ [c.name?.getD ""]).map Guard.identifier

/-- The query with an equality for each of the named values, in the order of the names. -/
def andEqual (q : Query) (filters : List (String × Value)) : Except QueryError Query :=
  if filters.isEmpty then .error .emptyFilterMap
  else
    (Text.sortByName filters).foldlM (fun q (name, v) => do
      let c := Column.ofText name
      Guard.verifyAll (filterGuards c)
      pure (q.and (c.compare .eq v))) q

/-- The query with a further join. -/
def join (q : Query) (j : Join) : Query :=
  { q with joins := q.joins ++ [j] }

/-- The query with further columns to group by. -/
def groupBy (q : Query) (columns : List Column) : Query :=
  { q with groups := q.groups ++ columns }

/-- The query with further columns to group by, given by their names. -/
def groupByNames (q : Query) (names : List String) : Except QueryError Query := do
  Guard.verifyAll (names.map Guard.identifier)
  pure (q.groupBy (names.map Column.ofText))

/-- The query with a further condition on its groups. -/
def andHaving (q : Query) (c : Condition) : Query :=
  { q with having := q.having.and c }

/-- The query with a further entry of its ordering. -/
def orderBy (q : Query) (c : Column) (direction : Option Direction) (nulls : Option NullOrder) :
    Query :=
  { q with order := q.order ++ [.column c direction nulls] }

/-- The query with text of the caller as a further entry of its ordering. -/
def orderByText (q : Query) (text : String) : Except QueryError Query := do
  Guard.checkOrderText text
  pure { q with order := q.order ++ [.raw text] }

/-- The query with at most so many rows. -/
def limit (q : Query) (rows : Option UInt64) : Query :=
  { q with rows }

/-- The query without so many rows at the beginning. -/
def skip (q : Query) (offset : Option UInt64) : Query :=
  { q with offset }

/-- The query with a further partner of its union. -/
def union (q : Query) (kind : UnionKind) (partner : Query) : Query :=
  { q with partners := q.partners ++ [⟨kind, partner⟩] }

/-- The query with a further common table expression. -/
def withQuery (q : Query) (name : String) (columns : List String) (inner : Query) :
    Except QueryError Query := do
  Guard.verifyAll ((name :: columns).map Guard.identifier)
  pure { q with ctes := q.ctes ++ [⟨name, columns, inner⟩] }

/-- The query with a further common table expression, which may refer to itself. -/
def withRecursive (q : Query) (name : String) (columns : List String) (inner : Query) :
    Except QueryError Query :=
  { q with recursive := true }.withQuery name columns inner

/-- The query with a hint. -/
def hinted (q : Query) (hint : String) : Query :=
  { q with hint := some hint }

/-- The query with a further text at its end. -/
def ending (q : Query) (text : String) : Query :=
  { q with endings := q.endings ++ [text] }

/-- The query that locks the rows it reads. -/
def forUpdate (q : Query) : Query :=
  q.ending "FOR UPDATE"

/-- The query that locks the rows it reads and fails if it would have to wait. -/
def forUpdateNoWait (q : Query) : Query :=
  q.ending "FOR UPDATE NOWAIT"

end Query

/-! ### Rows of assignments -/

namespace UpdateRow

/-- The row without assignments. -/
def empty : UpdateRow :=
  ⟨[]⟩

/-- The entries with the column set to `x`, at its place if it is set already. -/
def put (column : String) (x : Assigned) : List (String × Assigned) → List (String × Assigned)
  | [] => [(column, x)]
  | (name, y) :: rest =>
    if name = column then (name, x) :: rest else (name, y) :: put column x rest

/-- The row with a column set. -/
def set (column : String) (x : Assigned) (row : UpdateRow) : UpdateRow :=
  ⟨put column x row.entries⟩

end UpdateRow

end SqlRender
