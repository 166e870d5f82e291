import SqlRender.Paging
import SqlRender.Query.Parts

/-!
# The values of a query

The values that a query binds, in the order of their placeholders, found without writing
the statement: those of the common table expressions, the columns, the sources, the
included joins, WHERE, GROUP BY, HAVING, ORDER BY and the partners of a union.  Under a
paging that writes the ordering first, the values of the ordering come right behind those
of the common table expressions.
-/

namespace SqlRender

/-- Whether the ordering comes first, under a paging or in the order of the clauses. -/
def ordersFirst (paging : Option PagingStrategy) (rows : Option UInt64) : Bool :=
  paging.any fun p => p.ordersFirst rows

mutual

/-- The values of a query. -/
def Query.values (paging : Option PagingStrategy) : Query → List Value
  | ⟨_, ctes, _, columns, sources, joins, filter, groups, having, order, rows, _, partners, _⟩ =>
    let ordering := OrderItem.valuesEach paging order
    let first := ordersFirst paging rows
    Cte.valuesEach paging ctes
      ++ (if first then ordering else [])
      ++ Column.valuesEach paging columns
      ++ Table.valuesEach paging sources
      ++ Join.valuesEach paging joins
      ++ Condition.values paging filter
      ++ Column.valuesEach paging groups
      ++ Condition.values paging having
      ++ (if first then [] else ordering)
      ++ Partner.valuesEach paging partners

/-- The values of common table expressions. -/
def Cte.valuesEach (paging : Option PagingStrategy) : List Cte → List Value
  | [] => []
  | ⟨_, _, q⟩ :: rest => Query.values paging q ++ Cte.valuesEach paging rest

/-- The values of the partners of a union. -/
def Partner.valuesEach (paging : Option PagingStrategy) : List Partner → List Value
  | [] => []
  | ⟨_, q⟩ :: rest => Query.values paging q ++ Partner.valuesEach paging rest

/-- The values of a column. -/
def Column.values (paging : Option PagingStrategy) : Column → List Value
  | ⟨expr, _⟩ => Expr.values paging expr

/-- The values of the columns of a list. -/
def Column.valuesEach (paging : Option PagingStrategy) : List Column → List Value
  | [] => []
  | c :: rest => Column.values paging c ++ Column.valuesEach paging rest

/-- The values of an expression. -/
def Expr.values (paging : Option PagingStrategy) : Expr → List Value
  | .named .. => []
  | .call _ args => Column.valuesEach paging args
  | .distinct columns => Column.valuesEach paging columns
  | .raw _ params => params
  | .param v => [v]
  | .arithmetic left _ right => Column.values paging left ++ Column.values paging right
  | .subquery q => Query.values paging q

/-- The values of a table. -/
def Table.values (paging : Option PagingStrategy) : Table → List Value
  | ⟨source, _⟩ => Source.values paging source

/-- The values of the tables of a list. -/
def Table.valuesEach (paging : Option PagingStrategy) : List Table → List Value
  | [] => []
  | t :: rest => Table.values paging t ++ Table.valuesEach paging rest

/-- The values of what a table is read from. -/
def Source.values (paging : Option PagingStrategy) : Source → List Value
  | .named .. => []
  | .derived q => Query.values paging q

/-- The values of the included joins of a list. -/
def Join.valuesEach (paging : Option PagingStrategy) : List Join → List Value
  | [] => []
  | ⟨_, table, on, included⟩ :: rest =>
    (if included then
      Table.values paging table ++ (match on with | some c => Condition.values paging c | none => [])
     else [])
      ++ Join.valuesEach paging rest

/-- The values of a condition. -/
def Condition.values (paging : Option PagingStrategy) : Condition → List Value
  | .empty => []
  | .predicate column _ operand => Column.values paging column ++ Operand.values paging operand
  | .raw _ params => params
  | .existence _ q => Query.values paging q
  | .not c => Condition.values paging c
  | .group c => Condition.values paging c
  | .connect left _ right => Condition.values paging left ++ Condition.values paging right

/-- The values of the right side of a predicate. -/
def Operand.values (paging : Option PagingStrategy) : Operand → List Value
  | .absent => []
  | .value v => [v]
  | .list vs => vs
  | .range first last => [first, last]
  | .column c => Column.values paging c
  | .query q => Query.values paging q

/-- The values of an ordering. -/
def OrderItem.valuesEach (paging : Option PagingStrategy) : List OrderItem → List Value
  | [] => []
  | .column c _ _ :: rest => Column.values paging c ++ OrderItem.valuesEach paging rest
  | .raw _ :: rest => OrderItem.valuesEach paging rest

end

/-- The values of what a column is set to. -/
def Assigned.values (paging : Option PagingStrategy) : Assigned → List Value
  | .value v => [v]
  | .raw _ params => params
  | .query q => q.values paging

/-- The values of a row of assignments. -/
def UpdateRow.values (paging : Option PagingStrategy) (row : UpdateRow) : List Value :=
  row.entries.flatMap fun entry => entry.2.values paging

end SqlRender
