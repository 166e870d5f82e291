import SqlRender.Count

/-!
# Leaving out the joins that are not included

`Query.dropExcluded` takes all joins that are not included out of a query, with their tables
and conditions, and out of all queries inside of it: in its common table expressions, columns,
tables, joins, conditions, orderings and partners.  Here is what does not look at such joins:
the names of columns and tables, which conditions have an effect, which tables a query reads
and can tell apart, which tables are mentioned, and how rows are counted.
-/

namespace SqlRender

mutual

/-- The query without the joins that are not included. -/
def Query.dropExcluded : Query → Query
  | ⟨recursive, ctes, hint, columns, sources, joins, filter, groups, having, order, rows, offset,
      partners, endings⟩ =>
    ⟨recursive, Cte.dropExcludedEach ctes, hint, Column.dropExcludedEach columns,
      Table.dropExcludedEach sources, Join.dropExcludedEach joins, Condition.dropExcluded filter,
      Column.dropExcludedEach groups, Condition.dropExcluded having,
      OrderItem.dropExcludedEach order, rows, offset, Partner.dropExcludedEach partners, endings⟩

/-- The common table expressions without the joins that are not included. -/
def Cte.dropExcludedEach : List Cte → List Cte
  | [] => []
  | ⟨name, columns, q⟩ :: rest => ⟨name, columns, Query.dropExcluded q⟩ :: Cte.dropExcludedEach rest

/-- The partners of a union without the joins that are not included. -/
def Partner.dropExcludedEach : List Partner → List Partner
  | [] => []
  | ⟨kind, q⟩ :: rest => ⟨kind, Query.dropExcluded q⟩ :: Partner.dropExcludedEach rest

/-- The column without the joins that are not included. -/
def Column.dropExcluded : Column → Column
  | ⟨expr, aliasName⟩ => ⟨Expr.dropExcluded expr, aliasName⟩

/-- The columns of a list without the joins that are not included. -/
def Column.dropExcludedEach : List Column → List Column
  | [] => []
  | c :: rest => Column.dropExcluded c :: Column.dropExcludedEach rest

/-- The expression without the joins that are not included. -/
def Expr.dropExcluded : Expr → Expr
  | .call function args => .call function (Column.dropExcludedEach args)
  | .distinct columns => .distinct (Column.dropExcludedEach columns)
  | .arithmetic left op right =>
    .arithmetic (Column.dropExcluded left) op (Column.dropExcluded right)
  | .subquery q => .subquery (Query.dropExcluded q)
  | .named table name => .named table name
  | .raw sql params => .raw sql params
  | .param v => .param v

/-- The table without the joins that are not included. -/
def Table.dropExcluded : Table → Table
  | ⟨source, aliasName⟩ => ⟨Source.dropExcluded source, aliasName⟩

/-- The tables of a list without the joins that are not included. -/
def Table.dropExcludedEach : List Table → List Table
  | [] => []
  | t :: rest => Table.dropExcluded t :: Table.dropExcludedEach rest

/-- What a table is read from, without the joins that are not included. -/
def Source.dropExcluded : Source → Source
  | .named schema name => .named schema name
  | .derived q => .derived (Query.dropExcluded q)

/-- The included joins of a list, without the joins inside of them that are not included. -/
def Join.dropExcludedEach : List Join → List Join
  | [] => []
  | ⟨_, _, _, false⟩ :: rest => Join.dropExcludedEach rest
  | ⟨kind, table, on, true⟩ :: rest =>
    ⟨kind, Table.dropExcluded table,
        match on with | some c => some (Condition.dropExcluded c) | none => none, true⟩
      :: Join.dropExcludedEach rest

/-- The condition without the joins that are not included. -/
def Condition.dropExcluded : Condition → Condition
  | .predicate column op operand =>
    .predicate (Column.dropExcluded column) op (Operand.dropExcluded operand)
  | .existence negated q => .existence negated (Query.dropExcluded q)
  | .not c => .not (Condition.dropExcluded c)
  | .group c => .group (Condition.dropExcluded c)
  | .connect left op right => .connect (Condition.dropExcluded left) op (Condition.dropExcluded right)
  | .empty => .empty
  | .raw sql params => .raw sql params

/-- The right side of a predicate without the joins that are not included. -/
def Operand.dropExcluded : Operand → Operand
  | .column c => .column (Column.dropExcluded c)
  | .query q => .query (Query.dropExcluded q)
  | .absent => .absent
  | .value v => .value v
  | .list vs => .list vs
  | .range first last => .range first last

/-- The entries of an ordering without the joins that are not included. -/
def OrderItem.dropExcludedEach : List OrderItem → List OrderItem
  | [] => []
  | .column c direction nulls :: rest =>
    .column (Column.dropExcluded c) direction nulls :: OrderItem.dropExcludedEach rest
  | .raw text :: rest => .raw text :: OrderItem.dropExcludedEach rest

end

/-- What a column is set to, without the joins that are not included. -/
def Assigned.dropExcluded : Assigned → Assigned
  | .value v => .value v
  | .raw sql params => .raw sql params
  | .query q => .query q.dropExcluded

/-- The row without the joins that are not included in its queries. -/
def UpdateRow.dropExcluded (row : UpdateRow) : UpdateRow :=
  ⟨row.entries.map fun entry => (entry.1, entry.2.dropExcluded)⟩

/-- The join without the joins inside of it that are not included. -/
def Join.dropExcluded (j : Join) : Join :=
  ⟨j.kind, j.table.dropExcluded, j.on.map Condition.dropExcluded, j.included⟩

/-! ### Parts of lists -/

theorem Column.dropExcludedEach_eq_map (columns : List Column) :
  Column.dropExcludedEach columns = columns.map Column.dropExcluded
  := by
  induction columns with
  | nil => rfl
  | cons c columns ih => rw [dropExcludedEach, ih, List.map_cons]

theorem Table.dropExcludedEach_eq_map (tables : List Table) :
  Table.dropExcludedEach tables = tables.map Table.dropExcluded
  := by
  induction tables with
  | nil => rfl
  | cons t tables ih => rw [dropExcludedEach, ih, List.map_cons]

/-- The joins that are left are the included ones. -/
theorem Join.dropExcludedEach_eq_map (joins : List Join) :
  Join.dropExcludedEach joins = (joins.filter Join.included).map Join.dropExcluded
  := by
  induction joins with
  | nil => rfl
  | cons j joins ih =>
    obtain ⟨kind, table, on, included⟩ := j
    cases included with
    | false => exact ih
    | true => cases on <;> simp [dropExcludedEach, dropExcluded, ih]

@[simp]
theorem Cte.isEmpty_dropExcludedEach (ctes : List Cte) :
  (Cte.dropExcludedEach ctes).isEmpty = ctes.isEmpty
  := by
  cases ctes with
  | nil => rfl
  | cons cte ctes => cases cte; rfl

@[simp]
theorem Partner.isEmpty_dropExcludedEach (partners : List Partner) :
  (Partner.dropExcludedEach partners).isEmpty = partners.isEmpty
  := by
  cases partners with
  | nil => rfl
  | cons partner partners => cases partner; rfl

@[simp]
theorem Column.isEmpty_dropExcludedEach (columns : List Column) :
  (Column.dropExcludedEach columns).isEmpty = columns.isEmpty
  := by cases columns <;> rfl

@[simp]
theorem Table.isEmpty_dropExcludedEach (tables : List Table) :
  (Table.dropExcludedEach tables).isEmpty = tables.isEmpty
  := by cases tables <;> rfl

@[simp]
theorem OrderItem.isEmpty_dropExcludedEach (order : List OrderItem) :
  (OrderItem.dropExcludedEach order).isEmpty = order.isEmpty
  := by
  cases order with
  | nil => rfl
  | cons item order => cases item <;> rfl

/-! ### Columns and tables -/

namespace Column

variable (c : Column)

@[simp]
theorem aliasName_dropExcluded :
  c.dropExcluded.aliasName = c.aliasName
  := by
  cases c
  rfl

@[simp]
theorem name?_dropExcluded :
  c.dropExcluded.name? = c.name?
  := by
  obtain ⟨expr, aliasName⟩ := c
  cases expr <;> rfl

@[simp]
theorem isDistinct_dropExcluded :
  c.dropExcluded.isDistinct = c.isDistinct
  := by
  obtain ⟨expr, aliasName⟩ := c
  cases expr <;> rfl

@[simp]
theorem isArithmetic_dropExcluded :
  c.dropExcluded.isArithmetic = c.isArithmetic
  := by
  obtain ⟨expr, aliasName⟩ := c
  cases expr <;> rfl

theorem isCallOf_dropExcluded (function : String) :
  c.dropExcluded.isCallOf function = c.isCallOf function
  := by
  obtain ⟨expr, aliasName⟩ := c
  cases expr <;> rfl

end Column

namespace Table

@[simp]
theorem aliasName_dropExcluded (t : Table) :
  t.dropExcluded.aliasName = t.aliasName
  := by
  cases t
  rfl

@[simp]
theorem name?_dropExcluded (t : Table) :
  t.dropExcluded.name? = t.name?
  := by
  obtain ⟨source, aliasName⟩ := t
  cases source <;> rfl

theorem clashes_dropExcluded (t u : Table) :
  t.dropExcluded.clashes u.dropExcluded = t.clashes u
  := by
  obtain ⟨source, aliasName⟩ := t
  obtain ⟨source', aliasName'⟩ := u
  cases source <;> cases source' <;> rfl

/-- The tables that cannot be told apart are the same. -/
theorem firstClash?_map_dropExcluded (tables : List Table) :
  firstClash? (tables.map dropExcluded) = (firstClash? tables).map dropExcluded
  := by
  induction tables with
  | nil => rfl
  | cons t tables ih =>
    have hany : (tables.map dropExcluded).any t.dropExcluded.clashes = tables.any t.clashes := by
      rw [List.any_map]
      congr 1
      funext u
      apply clashes_dropExcluded
    rw [List.map_cons, firstClash?, firstClash?, hany, ih]
    cases tables.any t.clashes <;> rfl

theorem isInText_dropExcluded (t : Table) :
  t.dropExcluded.isInText = t.isInText
  := by
  funext sql
  simp [isInText]

theorem isReferencedBy_dropExcluded (t : Table) :
  t.dropExcluded.isReferencedBy = t.isReferencedBy
  := by
  funext reference
  simp [isReferencedBy]

end Table

/-- No join that is not included is among the tables that a query reads. -/
theorem Join.tables_dropExcludedEach (sources : List Table) (joins : List Join) :
  Table.dropExcludedEach sources
      ++ ((Join.dropExcludedEach joins).filter Join.included).map Join.table
    = (sources ++ (joins.filter Join.included).map Join.table).map Table.dropExcluded
  := by
  have hincluded : Join.included ∘ Join.dropExcluded = Join.included := rfl
  have htable : Join.table ∘ Join.dropExcluded = Table.dropExcluded ∘ Join.table := rfl
  rw [Table.dropExcludedEach_eq_map, Join.dropExcludedEach_eq_map, List.filter_map, hincluded,
    List.filter_filter, List.map_map, htable, List.map_append, List.map_map]
  simp only [Bool.and_self]

/-! ### Conditions -/

namespace Condition

theorem effective?_dropExcluded :
    ∀ c : Condition,
  c.dropExcluded.effective? = c.effective?.map dropExcluded
  | .not c => by
    rw [dropExcluded, effective?, effective?, effective?_dropExcluded c]
    cases c.effective? <;> rfl
  | .group c => by
    rw [dropExcluded, effective?, effective?, effective?_dropExcluded c]
    cases c.effective? <;> rfl
  | .connect left op right => by
    rw [dropExcluded, effective?, effective?, effective?_dropExcluded left,
      effective?_dropExcluded right]
    cases left.effective? <;> cases right.effective? <;> rfl
  | .empty | .predicate .. | .raw .. | .existence .. => rfl

variable (c : Condition)

@[simp]
theorem isEmpty_dropExcluded :
  c.dropExcluded.isEmpty = c.isEmpty
  := by
  rw [Bool.eq_iff_iff, isEmpty_iff, isEmpty_iff, effective?_dropExcluded, Option.map_eq_none_iff]

@[simp]
theorem needsParentheses_dropExcluded (parent : Connective) :
  c.dropExcluded.needsParentheses parent = c.needsParentheses parent
  := by
  unfold needsParentheses
  rw [effective?_dropExcluded]
  cases c.effective? with
  | none => rfl
  | some only => cases only <;> rfl

end Condition

/-! ### Mentions of tables -/

section

variable (t : Table)

mutual

/-- A query mentions the tables that it mentions without the joins that are not included. -/
theorem Query.mentions_dropExcluded :
    ∀ q : Query,
  q.dropExcluded.mentions t.dropExcluded = q.mentions t
  | ⟨_, _, _, columns, _, joins, filter, _, having, _, _, _, _, _⟩ => by
    rw [Query.dropExcluded, Query.mentions, Query.mentions,
      Column.anyMentions_dropExcluded columns, Condition.mentions_dropExcluded filter,
      Condition.mentions_dropExcluded having, Join.anyMentions_dropExcluded joins]

theorem Column.mentions_dropExcluded :
    ∀ c : Column,
  c.dropExcluded.mentions t.dropExcluded = c.mentions t
  | ⟨expr, _⟩ => Expr.mentions_dropExcluded expr

theorem Column.anyMentions_dropExcluded :
    ∀ columns : List Column,
  Column.anyMentions t.dropExcluded (Column.dropExcludedEach columns) = Column.anyMentions t columns
  | [] => rfl
  | c :: rest => by
    rw [Column.dropExcludedEach, Column.anyMentions, Column.anyMentions,
      Column.mentions_dropExcluded c, Column.anyMentions_dropExcluded rest]

theorem Expr.mentions_dropExcluded :
    ∀ e : Expr,
  e.dropExcluded.mentions t.dropExcluded = e.mentions t
  | .named table name => by
    rw [Expr.dropExcluded, Expr.mentions, Expr.mentions, Table.isReferencedBy_dropExcluded]
  | .call function args => Column.anyMentions_dropExcluded args
  | .distinct columns => Column.anyMentions_dropExcluded columns
  | .raw sql params => by
    rw [Expr.dropExcluded, Expr.mentions, Expr.mentions, Table.isInText_dropExcluded]
  | .param v => rfl
  | .arithmetic left op right => by
    rw [Expr.dropExcluded, Expr.mentions, Expr.mentions, Column.mentions_dropExcluded left,
      Column.mentions_dropExcluded right]
  | .subquery q => Query.mentions_dropExcluded q

theorem Join.anyMentions_dropExcluded :
    ∀ joins : List Join,
  Join.anyMentions t.dropExcluded (Join.dropExcludedEach joins) = Join.anyMentions t joins
  | [] => rfl
  | ⟨_, _, _, false⟩ :: rest => Join.anyMentions_dropExcluded rest
  | ⟨_, _, none, true⟩ :: rest => by
    rw [Join.dropExcludedEach, Join.anyMentions, Join.anyMentions,
      Join.anyMentions_dropExcluded rest]
  | ⟨_, _, some c, true⟩ :: rest => by
    rw [Join.dropExcludedEach, Join.anyMentions, Join.anyMentions,
      Condition.mentions_dropExcluded c, Join.anyMentions_dropExcluded rest]

theorem Condition.mentions_dropExcluded :
    ∀ c : Condition,
  c.dropExcluded.mentions t.dropExcluded = c.mentions t
  | .not c => Condition.mentions_dropExcluded c
  | .group c => Condition.mentions_dropExcluded c
  | .connect left op right => by
    rw [Condition.dropExcluded, Condition.mentions, Condition.mentions,
      Condition.mentions_dropExcluded left, Condition.mentions_dropExcluded right]
  | .empty => rfl
  | .predicate column op operand => by
    rw [Condition.dropExcluded, Condition.mentions, Condition.mentions,
      Column.mentions_dropExcluded column, Operand.mentions_dropExcluded operand]
  | .raw sql params => by
    rw [Condition.dropExcluded, Condition.mentions, Condition.mentions, Table.isInText_dropExcluded]
  | .existence negated q => Query.mentions_dropExcluded q

theorem Operand.mentions_dropExcluded :
    ∀ operand : Operand,
  operand.dropExcluded.mentions t.dropExcluded = operand.mentions t
  | .absent | .value _ | .list _ | .range .. => rfl
  | .column c => Column.mentions_dropExcluded c
  | .query q => Query.mentions_dropExcluded q

end

end

/-! ### Counts -/

namespace Query

variable (q : Query)

theorem sources_dropExcluded :
  q.dropExcluded.sources = Table.dropExcludedEach q.sources
  := by
  cases q
  rfl

theorem joins_dropExcluded :
  q.dropExcluded.joins = Join.dropExcludedEach q.joins
  := by
  cases q
  rfl

theorem filter_dropExcluded :
  q.dropExcluded.filter = q.filter.dropExcluded
  := by
  cases q
  rfl

theorem includedJoins_dropExcluded :
  q.dropExcluded.includedJoins = q.includedJoins.map Join.dropExcluded
  := by
  have hincluded : Join.included ∘ Join.dropExcluded = Join.included := rfl
  simp only [includedJoins, joins_dropExcluded, Join.dropExcludedEach_eq_map, List.filter_map,
    hincluded, List.filter_filter, Bool.and_self]

/-- Whether a simplified count leaves out the joins depends on the included joins alone. -/
theorem hasIdleJoins_dropExcluded :
  q.dropExcluded.hasIdleJoins = q.hasIdleJoins
  := by
  have hidle : ∀ j : Join,
      ((j.dropExcluded.kind == .left) && !q.dropExcluded.filter.mentions j.dropExcluded.table)
        = ((j.kind == .left) && !q.filter.mentions j.table) := by
    intro j
    rw [filter_dropExcluded, Join.dropExcluded, Condition.mentions_dropExcluded]
  unfold hasIdleJoins
  rw [includedJoins_dropExcluded, List.isEmpty_map, List.all_map]
  congr 2
  funext j
  apply hidle

theorem needsDerivedCount_dropExcluded :
  q.dropExcluded.needsDerivedCount = q.needsDerivedCount
  := by
  have hdistinct : Column.isDistinct ∘ Column.dropExcluded = Column.isDistinct := by
    funext c
    apply Column.isDistinct_dropExcluded
  cases q
  simp [needsDerivedCount, hasDistinct, dropExcluded, Column.dropExcludedEach_eq_map, hdistinct]

theorem unordered_dropExcluded :
  q.dropExcluded.unordered = q.unordered.dropExcluded
  := by
  cases q
  rfl

theorem countDerived_dropExcluded :
  q.dropExcluded.countDerived = q.countDerived.dropExcluded
  := by
  cases q
  rfl

theorem isCountFirst_dropExcluded (function : String) :
  q.dropExcluded.columns.head?.any (Column.isCallOf function)
    = q.columns.head?.any (Column.isCallOf function)
  := by
  cases q with
  | mk recursive ctes hint columns =>
    cases columns with
    | nil => rfl
    | cons c columns => exact Column.isCallOf_dropExcluded c function

/-- The rows of a query are counted by the same query, without the joins that are not
included. -/
theorem countQuery_dropExcluded (simplify : Bool) :
  q.dropExcluded.countQuery simplify = (q.countQuery simplify).dropExcluded
  := by
  unfold countQuery
  rw [needsDerivedCount_dropExcluded, isCountFirst_dropExcluded, hasIdleJoins_dropExcluded,
    unordered_dropExcluded, countDerived_dropExcluded]
  split
  · rfl
  · split
    · rfl
    · cases q
      split <;> rfl

end Query

end SqlRender
