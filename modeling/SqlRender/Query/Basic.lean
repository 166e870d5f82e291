import SqlRender.Query.Words
import SqlRender.Value.Basic

/-!
# Queries

A query is the tree of a SELECT statement, with one field for each clause.  Queries occur
inside queries: as common table expressions, derived tables, sub-selects, operands of
predicates and partners of unions; so the types of all parts are defined together.

An `UpdateRow` is a list of assignments for an INSERT or UPDATE statement.
-/

namespace SqlRender

mutual

/-- A SELECT statement. -/
structure Query where
  /-- Whether the common table expressions may refer to themselves. -/
  recursive : Bool
  ctes : List Cte
  hint : Option String
  columns : List Column
  sources : List Table
  joins : List Join
  filter : Condition
  groups : List Column
  having : Condition
  order : List OrderItem
  rows : Option UInt64
  offset : Option UInt64
  partners : List Partner
  /-- Texts at the end of the statement. -/
  endings : List String

/-- A common table expression. -/
structure Cte where
  name : String
  columns : List String
  query : Query

/-- A further query with which a query is united. -/
structure Partner where
  kind : UnionKind
  query : Query

/-- An expression that may have an alias. -/
structure Column where
  expr : Expr
  aliasName : Option String

/-- What a column is computed from. -/
inductive Expr where
  /-- A column of a table; `table` is the name or the alias of the table. -/
  | named (table : Option String) (name : String)
  | call (function : String) (args : List Column)
  | distinct (columns : List Column)
  /-- Text of the caller with its own values. -/
  | raw (sql : String) (params : List Value)
  | param (v : Value)
  | arithmetic (left : Column) (op : Arithmetic) (right : Column)
  | subquery (q : Query)

/-- A table that a query reads, with an optional alias. -/
structure Table where
  source : Source
  aliasName : Option String

/-- Where the rows of a table come from. -/
inductive Source where
  | named (schema : Option String) (name : String)
  | derived (q : Query)

/-- A table joined to the tables before it. -/
structure Join where
  kind : JoinKind
  table : Table
  on : Option Condition
  /-- A join that is not included has no effect on the statement. -/
  included : Bool

/-- A condition on rows. -/
inductive Condition where
  /-- No condition at all. -/
  | empty
  | predicate (column : Column) (op : Comparison) (operand : Operand)
  /-- Text of the caller with its own values. -/
  | raw (sql : String) (params : List Value)
  | existence (negated : Bool) (q : Query)
  | not (c : Condition)
  /-- A condition in parentheses. -/
  | group (c : Condition)
  | connect (left : Condition) (op : Connective) (right : Condition)

/-- The right side of a predicate. -/
inductive Operand where
  | absent
  | value (v : Value)
  | list (vs : List Value)
  | range (first last : Value)
  | column (c : Column)
  | query (q : Query)

/-- One entry of an ordering. -/
inductive OrderItem where
  | column (c : Column) (direction : Option Direction) (nulls : Option NullOrder)
  | raw (text : String)

end

/-- The query without any clause. -/
def Query.empty : Query :=
  { recursive := false, ctes := [], hint := none, columns := [], sources := [], joins := []
    filter := .empty, groups := [], having := .empty, order := [], rows := none, offset := none
    partners := [], endings := [] }

instance : Inhabited Query := ⟨Query.empty⟩

/-- What a column is set to. -/
inductive Assigned where
  | value (v : Value)
  /-- Text of the caller with its own values. -/
  | raw (sql : String) (params : List Value)
  | query (q : Query)

/-- Assignments to columns, in order. -/
structure UpdateRow where
  entries : List (String × Assigned)

end SqlRender
