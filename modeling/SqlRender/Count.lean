import SqlRender.Query.Build

/-!
# Counting the rows of a query

`Query.countQuery` makes, of a query, the query that counts its rows without its paging.
In general it counts the rows of the query as a derived table.  If the count may be
simplified and the query has no distinct columns, no groups and no union, then the columns
are replaced by `COUNT(*)`, unless the first of them is a count already; and if all joins
are left joins to tables that the condition does not mention, they are left out.
-/

namespace SqlRender

/-- Whether the text of the caller holds the name or the alias of the table, with letter
case ignored. -/
def Table.isInText (t : Table) (sql : String) : Bool :=
  (t.aliasName.toList ++ t.name?.toList).any fun name =>
    Text.occursIn (Text.lower name).toList (Text.lower sql).toList

mutual

/-- Whether the columns, the conditions or the included joins of a query mention the
table. -/
def Query.mentions (t : Table) : Query → Bool
  | ⟨_, _, _, columns, _, joins, filter, _, having, _, _, _, _, _⟩ =>
    Column.anyMentions t columns || Condition.mentions t filter || Condition.mentions t having
      || Join.anyMentions t joins

/-- Whether a column mentions the table. -/
def Column.mentions (t : Table) : Column → Bool
  | ⟨expr, _⟩ => Expr.mentions t expr

/-- Whether one of the columns mentions the table. -/
def Column.anyMentions (t : Table) : List Column → Bool
  | [] => false
  | c :: rest => Column.mentions t c || Column.anyMentions t rest

/-- Whether an expression mentions the table. -/
def Expr.mentions (t : Table) : Expr → Bool
  | .named table _ => table.any t.isReferencedBy
  | .call _ args => Column.anyMentions t args
  | .distinct columns => Column.anyMentions t columns
  | .raw sql _ => t.isInText sql
  | .param _ => false
  | .arithmetic left _ right => Column.mentions t left || Column.mentions t right
  | .subquery q => Query.mentions t q

/-- Whether the condition of one of the included joins mentions the table. -/
def Join.anyMentions (t : Table) : List Join → Bool
  | [] => false
  | ⟨_, _, on, included⟩ :: rest =>
    (included && match on with | some c => Condition.mentions t c | none => false)
      || Join.anyMentions t rest

/-- Whether a condition mentions the table. -/
def Condition.mentions (t : Table) : Condition → Bool
  | .empty => false
  | .predicate column _ operand => Column.mentions t column || Operand.mentions t operand
  | .raw sql _ => t.isInText sql
  | .existence _ q => Query.mentions t q
  | .not c => Condition.mentions t c
  | .group c => Condition.mentions t c
  | .connect left _ right => Condition.mentions t left || Condition.mentions t right

/-- Whether the right side of a predicate mentions the table. -/
def Operand.mentions (t : Table) : Operand → Bool
  | .column c => Column.mentions t c
  | .query q => Query.mentions t q
  | _ => false

end

namespace Query

/-- Whether a simplified count leaves out the joins: there are included joins, and all of
them are left joins to tables that the condition does not mention. -/
def hasIdleJoins (q : Query) : Bool :=
  !q.includedJoins.isEmpty &&
    q.includedJoins.all fun j => j.kind == .left && !q.filter.mentions j.table

/-- The query without ordering and paging. -/
def unordered (q : Query) : Query :=
  { q with order := [], rows := none, offset := none }

/-- The query that counts the rows of `q` as a derived table.  The common table
expressions stay in front of the whole. -/
def countDerived (q : Query) : Query :=
  let inner := { q with recursive := false, ctes := [], endings := [] }
  { empty with
    recursive := q.recursive
    ctes := q.ctes
    columns := [Column.countAll]
    sources := [(Table.derived inner).named "t"] }

/-- Whether the rows can only be counted as those of a derived table. -/
def needsDerivedCount (q : Query) : Bool :=
  q.hasDistinct || !q.groups.isEmpty || !q.partners.isEmpty

/-- The query that counts the rows of `q` without its paging. -/
def countQuery (q : Query) (simplify : Bool) : Query :=
  if !simplify || q.needsDerivedCount then q.unordered.countDerived
  else if q.columns.head?.any (Column.isCallOf "COUNT") then q.unordered
  else
    { q.unordered with
      columns := [Column.countAll]
      endings := []
      joins := if q.hasIdleJoins then [] else q.joins }

end Query

end SqlRender
