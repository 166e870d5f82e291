import SqlRender.Json.Fields
import SqlRender.Json.Parser
import SqlRender.Query.Basic
import SqlRender.Value.Json

/-!
# Queries in JSON

`Query.toJson` writes a query as a document: records as objects with all of their fields,
variants as objects with one member.  `Query.ofJson?` reads such a document.  A query may
lack any of its fields; other records may lack only their optional fields.
`Query.ofText?` reads a text: there the fields in the content of a variant may also be
listed in order, and a part that nothing is read from need not stand for a value.

A document is read from its leaves upward.  A `Reading` is a document together with what
it would be as each part of a query; which of these readings is wanted is known only
further up, so each of them waits until it is asked for.
-/

namespace SqlRender

/-! ### Words -/

/-- The entry of a table of names under a name. -/
def lookup {α : Type} (names : List (String × α)) (j : Json) : Option α :=
  j.plainVariant?.bind fun name => (names.find? fun entry => entry.1 == name).map Prod.snd

namespace JoinKind

/-- The name of a kind of join in a document. -/
def jsonName : JoinKind → String
  | inner => "Inner"
  | left => "Left"
  | right => "Right"
  | full => "Full"
  | cross => "Cross"
  | plain => "Plain"

/-- The kinds of joins under their names. -/
def jsonNames : List (String × JoinKind) :=
  [inner, left, right, full, cross, plain].map fun k => (k.jsonName, k)

end JoinKind

namespace Comparison

/-- The name of a comparison in a document. -/
def jsonName : Comparison → String
  | eq => "Eq"
  | ne => "Ne"
  | gt => "Gt"
  | ge => "Ge"
  | lt => "Lt"
  | le => "Le"
  | like => "Like"
  | notLike => "NotLike"
  | isIn => "In"
  | notIn => "NotIn"
  | between => "Between"
  | notBetween => "NotBetween"
  | isNull => "IsNull"
  | isNotNull => "IsNotNull"

/-- The comparisons under their names. -/
def jsonNames : List (String × Comparison) :=
  [eq, ne, gt, ge, lt, le, like, notLike, isIn, notIn, between, notBetween, isNull,
    isNotNull].map fun c => (c.jsonName, c)

end Comparison

namespace Connective

/-- The name of a connective in a document. -/
def jsonName : Connective → String
  | .and => "And"
  | .or => "Or"

/-- The connectives under their names. -/
def jsonNames : List (String × Connective) :=
  [.and, .or].map fun c => (jsonName c, c)

end Connective

namespace Arithmetic

/-- The name of an operation in a document. -/
def jsonName : Arithmetic → String
  | add => "Add"
  | sub => "Sub"
  | mul => "Mul"
  | div => "Div"

/-- The operations under their names. -/
def jsonNames : List (String × Arithmetic) :=
  [add, sub, mul, div].map fun a => (a.jsonName, a)

end Arithmetic

namespace UnionKind

/-- The name of a kind of union in a document. -/
def jsonName : UnionKind → String
  | distinct => "Union"
  | all => "UnionAll"

/-- The kinds of unions under their names. -/
def jsonNames : List (String × UnionKind) :=
  [distinct, all].map fun u => (u.jsonName, u)

end UnionKind

namespace Direction

/-- The name of a direction in a document. -/
def jsonName : Direction → String
  | ascending => "Asc"
  | descending => "Desc"

/-- The directions under their names. -/
def jsonNames : List (String × Direction) :=
  [ascending, descending].map fun d => (d.jsonName, d)

end Direction

namespace NullOrder

/-- The name of a place of the rows without a value in a document. -/
def jsonName : NullOrder → String
  | first => "First"
  | last => "Last"

/-- The places of the rows without a value under their names. -/
def jsonNames : List (String × NullOrder) :=
  [first, last].map fun n => (n.jsonName, n)

end NullOrder

/-! ### Writing -/

namespace Json

/-- An optional part, with `null` in place of a missing one. -/
def ofOption {α : Type} (f : α → Json) : Option α → Json
  | some x => f x
  | none => .null

/-- An array of strings. -/
def ofStrings (ss : List String) : Json :=
  .array (ss.map .string)

/-- A number of rows. -/
def ofUInt64 (n : UInt64) : Json :=
  .int n.toNat

/-- Text of the caller with its values. -/
def ofRaw (sql : String) (params : List Value) : Json :=
  .object [("sql", .string sql), ("params", .array (Value.toJsonItems params))]

end Json

mutual

/-- The document of a query. -/
def Query.toJson : Query → Json
  | ⟨recursive, ctes, hint, columns, sources, joins, filter, groups, having, order, rows, offset,
      partners, endings⟩ =>
    .object
      [("with", .object [("recursive", .bool recursive), ("items", .array (Cte.toJsonEach ctes))]),
       ("hint", Json.ofOption .string hint),
       ("select", .array (Column.toJsonEach columns)),
       ("from", .array (Table.toJsonEach sources)),
       ("joins", .array (Join.toJsonEach joins)),
       ("where", Condition.toJson filter),
       ("group_by", .array (Column.toJsonEach groups)),
       ("having", Condition.toJson having),
       ("order_by", .array (OrderItem.toJsonEach order)),
       ("limit_rows", Json.ofOption Json.ofUInt64 rows),
       ("limit_offset", Json.ofOption Json.ofUInt64 offset),
       ("unions", .array (Partner.toJsonEach partners)),
       ("end_fragments", Json.ofStrings endings)]

/-- The documents of common table expressions. -/
def Cte.toJsonEach : List Cte → List Json
  | [] => []
  | ⟨name, columns, q⟩ :: rest =>
    .object
      [("name", .string name), ("columns", Json.ofStrings columns), ("query", Query.toJson q)]
      :: Cte.toJsonEach rest

/-- The documents of the partners of a union. -/
def Partner.toJsonEach : List Partner → List Json
  | [] => []
  | ⟨kind, q⟩ :: rest =>
    .object [("kind", .string kind.jsonName), ("query", Query.toJson q)] :: Partner.toJsonEach rest

/-- The document of a column. -/
def Column.toJson : Column → Json
  | ⟨expr, aliasName⟩ =>
    .object [("kind", Expr.toJson expr), ("alias", Json.ofOption .string aliasName)]

/-- The documents of the columns of a list. -/
def Column.toJsonEach : List Column → List Json
  | [] => []
  | c :: rest => Column.toJson c :: Column.toJsonEach rest

/-- The document of an expression. -/
def Expr.toJson : Expr → Json
  | .named table name =>
    .object
      [("Named", .object [("table", Json.ofOption .string table), ("name", .string name)])]
  | .call function args =>
    .object
      [("Function",
        .object [("name", .string function), ("args", .array (Column.toJsonEach args))])]
  | .distinct columns => .object [("Distinct", .array (Column.toJsonEach columns))]
  | .raw sql params => .object [("Raw", Json.ofRaw sql params)]
  | .param v => .object [("Param", v.toJson)]
  | .arithmetic left op right =>
    .object
      [("Arithmetic",
        .object
          [("left", Column.toJson left), ("op", .string op.jsonName), ("right", Column.toJson right)])]
  | .subquery q => .object [("SubSelect", Query.toJson q)]

/-- The document of a table. -/
def Table.toJson : Table → Json
  | ⟨source, aliasName⟩ =>
    .object [("source", Source.toJson source), ("alias", Json.ofOption .string aliasName)]

/-- The documents of the tables of a list. -/
def Table.toJsonEach : List Table → List Json
  | [] => []
  | t :: rest => Table.toJson t :: Table.toJsonEach rest

/-- The document of what a table is read from. -/
def Source.toJson : Source → Json
  | .named schema name =>
    .object
      [("Named", .object [("schema", Json.ofOption .string schema), ("name", .string name)])]
  | .derived q => .object [("Derived", Query.toJson q)]

/-- The documents of the joins of a list. -/
def Join.toJsonEach : List Join → List Json
  | [] => []
  | ⟨kind, table, on, included⟩ :: rest =>
    .object
      [("kind", .string kind.jsonName), ("table", Table.toJson table),
       ("on", match on with | some c => Condition.toJson c | none => .null),
       ("effective", .bool included)]
      :: Join.toJsonEach rest

/-- The document of a condition. -/
def Condition.toJson : Condition → Json
  | .empty => .string "Empty"
  | .predicate column op operand =>
    .object
      [("Predicate",
        .object
          [("column", Column.toJson column), ("operator", .string op.jsonName),
           ("operand", Operand.toJson operand)])]
  | .raw sql params => .object [("Raw", Json.ofRaw sql params)]
  | .existence negated q =>
    .object [("Exists", .object [("negated", .bool negated), ("query", Query.toJson q)])]
  | .not c => .object [("Not", Condition.toJson c)]
  | .group c => .object [("Group", Condition.toJson c)]
  | .connect left op right =>
    .object
      [("Connector",
        .object
          [("left", Condition.toJson left), ("op", .string op.jsonName),
           ("right", Condition.toJson right)])]

/-- The document of the right side of a predicate. -/
def Operand.toJson : Operand → Json
  | .absent => .string "None"
  | .value v => .object [("Value", v.toJson)]
  | .list vs => .object [("List", .array (Value.toJsonItems vs))]
  | .range first last => .object [("Range", .array [first.toJson, last.toJson])]
  | .column c => .object [("Column", Column.toJson c)]
  | .query q => .object [("Query", Query.toJson q)]

/-- The documents of the entries of an ordering. -/
def OrderItem.toJsonEach : List OrderItem → List Json
  | [] => []
  | .column c direction nulls :: rest =>
    .object
      [("Column",
        .object
          [("column", Column.toJson c),
           ("direction", Json.ofOption (fun d => .string d.jsonName) direction),
           ("nulls", Json.ofOption (fun n => .string n.jsonName) nulls)])]
      :: OrderItem.toJsonEach rest
  | .raw text :: rest => .object [("Raw", .string text)] :: OrderItem.toJsonEach rest

end

/-- The document of what a column is set to. -/
def Assigned.toJson : Assigned → Json
  | .value v => .object [("Value", v.toJson)]
  | .raw sql params => .object [("Raw", Json.ofRaw sql params)]
  | .query q => .object [("Query", q.toJson)]

/-- The document of a row of assignments. -/
def UpdateRow.toJson (row : UpdateRow) : Json :=
  .object
    [("entries", .array (row.entries.map fun (column, x) => .array [.string column, x.toJson]))]

/-! ### Reading -/

/-- A document with what it would be as each part of a query. -/
structure Reading extends ValueReading where
  layer : Option (Json.Layer Reading)
  query : Unit → Option Query
  cte : Unit → Option Cte
  partner : Unit → Option Partner
  column : Unit → Option Column
  expr : Unit → Option Expr
  table : Unit → Option Table
  source : Unit → Option Source
  join : Unit → Option Join
  condition : Unit → Option Condition
  operand : Unit → Option Operand
  orderItem : Unit → Option OrderItem

namespace Reading

/-- The parts of a record. -/
def fields? (names : List String) (mayBeShort : Bool) (r : Reading) :
    Option (List (Option Reading)) :=
  r.layer.bind fun layer => layer.fields? names mayBeShort

/-- The parts of a record that is the content of a variant.  In a text they may be listed
in order. -/
def content? (names : List String) (r : Reading) : Option (List (Option Reading)) :=
  r.layer.bind fun layer =>
    if r.inText then layer.fields? names false else layer.named? names

/-! Records are read from the list of their parts, in which `none` stands for a missing
one. -/

/-- A part that has to be given. -/
def required {α : Type} (read : Reading → Option α) (part : Option Reading) : Option α :=
  part.bind read

/-- A part that may be missing or `null`. -/
def optional {α : Type} (read : Reading → Option α) : Option Reading → Option (Option α)
  | none => some none
  | some r =>
    match r.json with
    | some .null => some none
    | _ => (read r).map some

/-- A part with a value in its place if it is missing. -/
def orElse {α : Type} (default : α) (read : Reading → Option α) : Option Reading → Option α
  | none => some default
  | some r => read r

/-- The items of an array, all read in one way. -/
def each {α : Type} (read : Reading → Option α) (r : Reading) : Option (List α) :=
  (r.layer.bind Json.Layer.items?).bind fun items => items.mapM read

/-- The text of a string. -/
def string (r : Reading) : Option String :=
  r.json.bind Json.string?

/-- One of the given words. -/
def word {α : Type} (names : List (String × α)) (r : Reading) : Option α :=
  r.json.bind (lookup names)

/-- A truth value. -/
def flag (r : Reading) : Option Bool :=
  r.json.bind Json.bool?

/-- A number of rows. -/
def count (r : Reading) : Option UInt64 :=
  r.json.bind Json.uint64?

/-- Text of the caller with its values. -/
def raw (r : Reading) : Option (String × List Value) :=
  match r.content? ["sql", "params"] with
  | some [sql, params] => do
    let sql ← required string sql
    let params ← required (fun r => r.values ()) params
    pure (sql, params)
  | _ => none

/-- The common table expressions of a query, and whether they may refer to themselves. -/
def withClause (r : Reading) : Option (Bool × List Cte) :=
  match r.fields? ["recursive", "items"] false with
  | some [recursive, items] => do
    let recursive ← required flag recursive
    let items ← required (each fun r => r.cte ()) items
    pure (recursive, items)
  | _ => none

end Reading

open Reading

/-- The names of the fields of a query, in order. -/
def Query.fieldNames : List String :=
  ["with", "hint", "select", "from", "joins", "where", "group_by", "having", "order_by",
   "limit_rows", "limit_offset", "unions", "end_fragments"]

/-- The query that a layer stands for. -/
def Query.ofLayer? (layer : Json.Layer Reading) : Option Query :=
  match layer.fields? Query.fieldNames true with
  | some [withs, hint, select, sources, joins, filter, groups, having, order, rows, offset,
      partners, endings] => do
    let (recursive, ctes) ← orElse (false, []) withClause withs
    let hint ← optional string hint
    let columns ← orElse [] (each fun r => r.column ()) select
    let sources ← orElse [] (each fun r => r.table ()) sources
    let joins ← orElse [] (each fun r => r.join ()) joins
    let filter ← orElse .empty (fun r => r.condition ()) filter
    let groups ← orElse [] (each fun r => r.column ()) groups
    let having ← orElse .empty (fun r => r.condition ()) having
    let order ← orElse [] (each fun r => r.orderItem ()) order
    let rows ← optional count rows
    let offset ← optional count offset
    let partners ← orElse [] (each fun r => r.partner ()) partners
    let endings ← orElse [] (each string) endings
    pure { recursive, ctes, hint, columns, sources, joins, filter, groups, having, order, rows
           offset, partners, endings }
  | _ => none

/-- The common table expression that a layer stands for. -/
def Cte.ofLayer? (layer : Json.Layer Reading) : Option Cte :=
  match layer.fields? ["name", "columns", "query"] false with
  | some [name, columns, query] => do
    let name ← required string name
    let columns ← required (each string) columns
    let query ← required (fun r => r.query ()) query
    pure { name, columns, query }
  | _ => none

/-- The partner of a union that a layer stands for. -/
def Partner.ofLayer? (layer : Json.Layer Reading) : Option Partner :=
  match layer.fields? ["kind", "query"] false with
  | some [kind, query] => do
    let kind ← required (fun r => r.word UnionKind.jsonNames) kind
    let query ← required (fun r => r.query ()) query
    pure { kind, query }
  | _ => none

/-- The column that a layer stands for. -/
def Column.ofLayer? (layer : Json.Layer Reading) : Option Column :=
  match layer.fields? ["kind", "alias"] false with
  | some [expr, aliasName] => do
    let expr ← required (fun r => r.expr ()) expr
    let aliasName ← optional string aliasName
    pure { expr, aliasName }
  | _ => none

/-- An optional name and a name, in a record with these two fields. -/
def Reading.qualified (qualifier : String) (r : Reading) : Option (Option String × String) :=
  match r.content? [qualifier, "name"] with
  | some [first, name] => do
    let first ← optional string first
    let name ← required string name
    pure (first, name)
  | _ => none

/-- A function with its arguments. -/
def Reading.call (r : Reading) : Option Expr :=
  match r.content? ["name", "args"] with
  | some [name, args] => do
    let name ← required string name
    let args ← required (each fun r => r.column ()) args
    pure (.call name args)
  | _ => none

/-- An operation with its two sides. -/
def Reading.arithmetic (r : Reading) : Option Expr :=
  match r.content? ["left", "op", "right"] with
  | some [left, op, right] => do
    let left ← required (fun r => r.column ()) left
    let op ← required (fun r => r.word Arithmetic.jsonNames) op
    let right ← required (fun r => r.column ()) right
    pure (.arithmetic left op right)
  | _ => none

/-- The expression that a layer stands for. -/
def Expr.ofLayer? (layer : Json.Layer Reading) : Option Expr :=
  match layer.variant? with
  | some ("Named", r) => (r.qualified "table").map fun (table, name) => .named table name
  | some ("Function", r) => r.call
  | some ("Distinct", r) => (each (fun r => r.column ()) r).map .distinct
  | some ("Raw", r) => r.raw.map fun (sql, params) => .raw sql params
  | some ("Param", r) => (r.value ()).map .param
  | some ("Arithmetic", r) => r.arithmetic
  | some ("SubSelect", r) => (r.query ()).map .subquery
  | _ => none

/-- The table that a layer stands for. -/
def Table.ofLayer? (layer : Json.Layer Reading) : Option Table :=
  match layer.fields? ["source", "alias"] false with
  | some [source, aliasName] => do
    let source ← required (fun r => r.source ()) source
    let aliasName ← optional string aliasName
    pure { source, aliasName }
  | _ => none

/-- What a table is read from, as a layer stands for it. -/
def Source.ofLayer? (layer : Json.Layer Reading) : Option Source :=
  match layer.variant? with
  | some ("Named", r) => (r.qualified "schema").map fun (schema, name) => .named schema name
  | some ("Derived", r) => (r.query ()).map .derived
  | _ => none

/-- The join that a layer stands for. -/
def Join.ofLayer? (layer : Json.Layer Reading) : Option Join :=
  match layer.fields? ["kind", "table", "on", "effective"] false with
  | some [kind, table, on, included] => do
    let kind ← required (fun r => r.word JoinKind.jsonNames) kind
    let table ← required (fun r => r.table ()) table
    let on ← optional (fun r => r.condition ()) on
    let included ← required flag included
    pure { kind, table, on, included }
  | _ => none

/-- A comparison with its two sides. -/
def Reading.predicate (r : Reading) : Option Condition :=
  match r.content? ["column", "operator", "operand"] with
  | some [column, op, operand] => do
    let column ← required (fun r => r.column ()) column
    let op ← required (fun r => r.word Comparison.jsonNames) op
    let operand ← required (fun r => r.operand ()) operand
    pure (.predicate column op operand)
  | _ => none

/-- A test for the existence of rows. -/
def Reading.existence (r : Reading) : Option Condition :=
  match r.content? ["negated", "query"] with
  | some [negated, query] => do
    let negated ← required flag negated
    let query ← required (fun r => r.query ()) query
    pure (.existence negated query)
  | _ => none

/-- A connective with its two sides. -/
def Reading.connect (r : Reading) : Option Condition :=
  match r.content? ["left", "op", "right"] with
  | some [left, op, right] => do
    let left ← required (fun r => r.condition ()) left
    let op ← required (fun r => r.word Connective.jsonNames) op
    let right ← required (fun r => r.condition ()) right
    pure (.connect left op right)
  | _ => none

/-- The condition that a layer stands for. -/
def Condition.ofLayer? (layer : Json.Layer Reading) : Option Condition :=
  match layer, layer.variant? with
  | .string "Empty", _ => some .empty
  | _, some ("Empty", r) =>
    match r.json with
    | some .null => some .empty
    | _ => none
  | _, some ("Predicate", r) => r.predicate
  | _, some ("Raw", r) => r.raw.map fun (sql, params) => .raw sql params
  | _, some ("Exists", r) => r.existence
  | _, some ("Not", r) => (r.condition ()).map .not
  | _, some ("Group", r) => (r.condition ()).map .group
  | _, some ("Connector", r) => r.connect
  | _, _ => none

/-- The right side of a predicate that a layer stands for. -/
def Operand.ofLayer? (layer : Json.Layer Reading) : Option Operand :=
  match layer, layer.variant? with
  | .string "None", _ => some .absent
  | _, some ("None", r) =>
    match r.json with
    | some .null => some .absent
    | _ => none
  | _, some ("Value", r) => (r.value ()).map .value
  | _, some ("List", r) => (r.values ()).map .list
  | _, some ("Range", r) =>
    match r.values () with
    | some [first, last] => some (.range first last)
    | _ => none
  | _, some ("Column", r) => (r.column ()).map .column
  | _, some ("Query", r) => (r.query ()).map .query
  | _, _ => none

/-- A column with a direction and a place of the rows without a value. -/
def Reading.ordered (r : Reading) : Option OrderItem :=
  match r.fields? ["column", "direction", "nulls"] false with
  | some [column, direction, nulls] => do
    let column ← required (fun r => r.column ()) column
    let direction ← optional (fun r => r.word Direction.jsonNames) direction
    let nulls ← optional (fun r => r.word NullOrder.jsonNames) nulls
    pure (.column column direction nulls)
  | _ => none

/-- The entry of an ordering that a layer stands for. -/
def OrderItem.ofLayer? (layer : Json.Layer Reading) : Option OrderItem :=
  match layer.variant? with
  | some ("Column", r) => r.ordered
  | some ("Raw", r) => r.string.map .raw
  | _ => none

/-- The reading of a layer whose parts are read. -/
def Reading.ofLayer (inText : Bool) (layer : Json.Layer Reading) : Reading where
  toValueReading := ValueReading.ofLayer inText (layer.map Reading.toValueReading)
  layer := some layer
  query := fun _ => Query.ofLayer? layer
  cte := fun _ => Cte.ofLayer? layer
  partner := fun _ => Partner.ofLayer? layer
  column := fun _ => Column.ofLayer? layer
  expr := fun _ => Expr.ofLayer? layer
  table := fun _ => Table.ofLayer? layer
  source := fun _ => Source.ofLayer? layer
  join := fun _ => Join.ofLayer? layer
  condition := fun _ => Condition.ofLayer? layer
  operand := fun _ => Operand.ofLayer? layer
  orderItem := fun _ => OrderItem.ofLayer? layer

/-- The reading of what stands for no value. -/
def Reading.unreadable (inText : Bool) : Reading where
  toValueReading := ValueReading.unreadable inText
  layer := none
  query := fun _ => none
  cte := fun _ => none
  partner := fun _ => none
  column := fun _ => none
  expr := fun _ => none
  table := fun _ => none
  source := fun _ => none
  join := fun _ => none
  condition := fun _ => none
  operand := fun _ => none
  orderItem := fun _ => none

/-- The reading of a document. -/
def Reading.of (j : Json) : Reading :=
  j.fold (Reading.ofLayer false)

/-- The query that a document stands for. -/
def Query.ofJson? (j : Json) : Option Query :=
  (Reading.of j).query ()

/-- What the readings of the parts of a text are made with. -/
def Reading.ofText : Json.Reader Reading where
  part := Reading.ofLayer true
  unreadable := Reading.unreadable true
  underEscapedName := fun r => { r with plainlyNamed := false }

/-- The query that a text stands for. -/
def Query.ofText? (s : String) : Option Query :=
  (Json.parseWith Reading.ofText s).bind fun r => r.query ()

/-- The column that a document stands for. -/
def Column.ofJson? (j : Json) : Option Column :=
  (Reading.of j).column ()

/-- The table that a document stands for. -/
def Table.ofJson? (j : Json) : Option Table :=
  (Reading.of j).table ()

/-- The condition that a document stands for. -/
def Condition.ofJson? (j : Json) : Option Condition :=
  (Reading.of j).condition ()

/-- What a column is set to, as a reading stands for it. -/
def Reading.assigned (r : Reading) : Option Assigned :=
  match r.layer.bind Json.Layer.variant? with
  | some ("Value", r) => (r.value ()).map .value
  | some ("Raw", r) => r.raw.map fun (sql, params) => .raw sql params
  | some ("Query", r) => (r.query ()).map .query
  | _ => none

/-- A column with what it is set to. -/
def Reading.assignment (r : Reading) : Option (String × Assigned) :=
  match r.layer.bind Json.Layer.items? with
  | some [column, x] => do
    let column ← column.string
    let x ← x.assigned
    pure (column, x)
  | _ => none

/-- The row of assignments that a document stands for. -/
def UpdateRow.ofJson? (j : Json) : Option UpdateRow :=
  match (Reading.of j).fields? ["entries"] false with
  | some [entries] => (required (each Reading.assignment) entries).map UpdateRow.mk
  | _ => none

end SqlRender
