import SqlRender.Database
import SqlRender.Mutation

/-!
# Dialects

A dialect is the way in which a database writes statements: how it quotes names, how it
asks for a window of rows, what it puts before the alias of a table, and how it lays out
the statements that change rows.  Each database product has a built-in dialect.
-/

namespace SqlRender

/-- The way in which a database writes statements. -/
structure Dialect where
  name : String
  quoting : Quoting
  paging : PagingStrategy
  aliasSeparator : String
  mutations : MutationLayout
  batches : BatchLayout
  deriving DecidableEq

namespace Dialect

/-- The style of the selects of a dialect. -/
def style (d : Dialect) : SelectStyle :=
  ⟨d.paging, d.aliasSeparator⟩

/-- A dialect that differs from others in its quoting and paging alone. -/
def common (name : String) (quoting : Quoting) (paging : PagingStrategy) : Dialect :=
  { name, quoting, paging, aliasSeparator := " AS ", mutations := .standard, batches := .tuples }

/-- A dialect of the Oracle family: a space before the alias of a table, and `INSERT ALL`
for several rows. -/
def oracle (name : String) (paging : PagingStrategy) : Dialect :=
  { name, quoting := .oracleKeywords, paging, aliasSeparator := " ", mutations := .standard
    batches := .insertAll }

/-- The dialect of ClickHouse, which changes rows by `ALTER TABLE`. -/
def clickHouse : Dialect :=
  { name := "clickhouse", quoting := .bare, paging := .limitPair, aliasSeparator := " AS "
    mutations := .alterTable, batches := .tuples }

/-- The built-in dialect of a database product. -/
def builtIn (db : Database) : Dialect :=
  match db with
  | .clickhouse => clickHouse
  | .oracle => oracle db.name .rowNum
  | .oracle12c => oracle db.name .offsetFetch
  | .mysql | .mariadb | .h2 | .gbase | .oscar | .xugu | .oceanbase | .cubrid | .goldilocks
  | .csiidb | .hive | .doris | .goldendb | .sundb | .yasdb | .other =>
    common db.name .backQuotes .limitPair
  | .gbase8s => common db.name .bare .limitPair
  | .dm => common db.name .dmKeywords .limitPair
  | .gauss => common db.name .doubleQuotes .rowNum
  | .postgreSql | .sqlite | .hsql | .kingbasees | .phoenix | .sapHana | .impala | .highgo
  | .vertica | .redshift | .opengauss | .uxdb | .lealone | .duckdb | .gbase8c | .gbase8sPg
  | .vastbase | .trino | .presto => common db.name .doubleQuotes .limitOffset
  | .tdengine => common db.name .backQuotes .limitOffset
  | .firebird | .db2 | .derby => common db.name .bare .offsetFetch
  | .db2V1005 => common db.name .bare .rowNumberOver
  | .sqlServer => common db.name .squareBrackets .topOrFetch
  | .sqlServer2005 => common db.name .squareBrackets .rowNumber
  | .informix => common db.name .bare .skipFirst
  | .sinodb => common db.name .doubleQuotes .skipLimit
  | .sybase => common db.name .doubleQuotes .topStartAt

/-- The statement made of tokens under the quoting of a dialect. -/
def statement (d : Dialect) (tokens : List Token) : Except QueryError Statement :=
  Statement.ofTokens d.quoting tokens

/-- SELECT. -/
def select (d : Dialect) (q : Query) : Except QueryError Statement :=
  d.statement (q.tokens d.style none)

/-- DELETE of the rows that a query selects. -/
def delete (d : Dialect) (q : Query) : Except QueryError Statement :=
  (Mutation.delete d.style d.mutations q).bind d.statement

/-- UPDATE of the rows that a query selects. -/
def update (d : Dialect) (row : UpdateRow) (q : Query) : Except QueryError Statement :=
  (Mutation.update d.style d.mutations row q).bind d.statement

/-- INSERT of one row. -/
def insert (d : Dialect) (t : Table) (row : UpdateRow) : Except QueryError Statement :=
  (Mutation.insert d.style t row).bind d.statement

/-- INSERT of several rows. -/
def insertBatch (d : Dialect) (t : Table) (rows : List UpdateRow) : Except QueryError Statement :=
  (Mutation.insertBatch d.style d.batches t rows).bind d.statement

end Dialect

end SqlRender
