import SqlRender.Guard
import SqlRender.Query.Basic

/-!
# The guards of a query

All names and orderings of a query, those of its parts included, as guards.  A query that
was not built step by step is examined by running them.  Unlike a statement, this looks at
joins that are not included and at conditions that have no effect.
-/

namespace SqlRender

/-- The guard of an optional name. -/
def Guard.ofName? (name : Option String) : List Guard :=
  name.toList.map Guard.identifier

mutual

/-- The guards of a query. -/
def Query.guards : Query → List Guard
  | ⟨_, ctes, _, columns, sources, joins, filter, groups, having, order, _, _, partners, _⟩ =>
    Cte.guardsEach ctes ++ Column.guardsEach columns ++ Column.guardsEach groups
      ++ Table.guardsEach sources ++ Join.guardsEach joins ++ Condition.guards filter
      ++ Condition.guards having ++ OrderItem.guardsEach order ++ Partner.guardsEach partners

/-- The guards of common table expressions. -/
def Cte.guardsEach : List Cte → List Guard
  | [] => []
  | ⟨name, columns, q⟩ :: rest =>
    .identifier name :: columns.map Guard.identifier ++ Query.guards q ++ Cte.guardsEach rest

/-- The guards of the partners of a union. -/
def Partner.guardsEach : List Partner → List Guard
  | [] => []
  | ⟨_, q⟩ :: rest => Query.guards q ++ Partner.guardsEach rest

/-- The guards of a column. -/
def Column.guards : Column → List Guard
  | ⟨expr, aliasName⟩ => Guard.ofName? aliasName ++ Expr.guards expr

/-- The guards of the columns of a list. -/
def Column.guardsEach : List Column → List Guard
  | [] => []
  | c :: rest => Column.guards c ++ Column.guardsEach rest

/-- The guards of an expression. -/
def Expr.guards : Expr → List Guard
  | .named table name => Guard.ofName? table ++ [.identifier name]
  | .call function args => .identifier function :: Column.guardsEach args
  | .distinct columns => Column.guardsEach columns
  | .raw .. => []
  | .param _ => []
  | .arithmetic left _ right => Column.guards left ++ Column.guards right
  | .subquery q => Query.guards q

/-- The guards of a table. -/
def Table.guards : Table → List Guard
  | ⟨source, aliasName⟩ => Source.guards source ++ Guard.ofName? aliasName

/-- The guards of the tables of a list. -/
def Table.guardsEach : List Table → List Guard
  | [] => []
  | t :: rest => Table.guards t ++ Table.guardsEach rest

/-- The guards of what a table is read from. -/
def Source.guards : Source → List Guard
  | .named schema name => .tableName name :: Guard.ofName? schema
  | .derived q => Query.guards q

/-- The guards of the joins of a list. -/
def Join.guardsEach : List Join → List Guard
  | [] => []
  | ⟨_, table, on, _⟩ :: rest =>
    Table.guards table ++ (match on with | some c => Condition.guards c | none => [])
      ++ Join.guardsEach rest

/-- The guards of a condition. -/
def Condition.guards : Condition → List Guard
  | .empty => []
  | .predicate column _ operand => Column.guards column ++ Operand.guards operand
  | .raw .. => []
  | .existence _ q => Query.guards q
  | .not c => Condition.guards c
  | .group c => Condition.guards c
  | .connect left _ right => Condition.guards left ++ Condition.guards right

/-- The guards of the right side of a predicate. -/
def Operand.guards : Operand → List Guard
  | .column c => Column.guards c
  | .query q => Query.guards q
  | _ => []

/-- The guards of an ordering. -/
def OrderItem.guardsEach : List OrderItem → List Guard
  | [] => []
  | .column c _ _ :: rest => Column.guards c ++ OrderItem.guardsEach rest
  | .raw text :: rest => .orderText text :: OrderItem.guardsEach rest

end

/-- Examines all names and orderings of a query. -/
def Query.validate (q : Query) : Except QueryError Unit :=
  Guard.verifyAll q.guards

end SqlRender
