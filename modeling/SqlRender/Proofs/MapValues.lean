import Mathlib.Tactic.Use
import SqlRender.Count
import SqlRender.Query.Guards

/-!
# Replacing the values of a query

`Query.mapValues` puts the results of a function in the place of all values of a query: of
the values that predicates compare with, of parameters and of the values that come with a
text of the caller, in all queries inside of it.  All else stays.  Here is what can be asked
of a query without a look at its values: the names and the tables of columns, which
conditions have an effect, which tables cannot be told apart, what its count is like, and
whether its names and orderings are allowed.
-/

namespace SqlRender

mutual

/-- The query with its values replaced by their results under `f`. -/
def Query.mapValues (f : Value → Value) : Query → Query
  | ⟨recursive, ctes, hint, columns, sources, joins, filter, groups, having, order, rows, offset,
      partners, endings⟩ =>
    ⟨recursive, Cte.mapValuesEach f ctes, hint, Column.mapValuesEach f columns,
      Table.mapValuesEach f sources, Join.mapValuesEach f joins, Condition.mapValues f filter,
      Column.mapValuesEach f groups, Condition.mapValues f having,
      OrderItem.mapValuesEach f order, rows, offset, Partner.mapValuesEach f partners, endings⟩

/-- The common table expressions with their values replaced. -/
def Cte.mapValuesEach (f : Value → Value) : List Cte → List Cte
  | [] => []
  | ⟨name, columns, q⟩ :: rest => ⟨name, columns, Query.mapValues f q⟩ :: Cte.mapValuesEach f rest

/-- The partners of a union with their values replaced. -/
def Partner.mapValuesEach (f : Value → Value) : List Partner → List Partner
  | [] => []
  | ⟨kind, q⟩ :: rest => ⟨kind, Query.mapValues f q⟩ :: Partner.mapValuesEach f rest

/-- The column with its values replaced. -/
def Column.mapValues (f : Value → Value) : Column → Column
  | ⟨expr, aliasName⟩ => ⟨Expr.mapValues f expr, aliasName⟩

/-- The columns of a list with their values replaced. -/
def Column.mapValuesEach (f : Value → Value) : List Column → List Column
  | [] => []
  | c :: rest => Column.mapValues f c :: Column.mapValuesEach f rest

/-- The expression with its values replaced. -/
def Expr.mapValues (f : Value → Value) : Expr → Expr
  | .named table name => .named table name
  | .call function args => .call function (Column.mapValuesEach f args)
  | .distinct columns => .distinct (Column.mapValuesEach f columns)
  | .raw sql params => .raw sql (params.map f)
  | .param v => .param (f v)
  | .arithmetic left op right =>
    .arithmetic (Column.mapValues f left) op (Column.mapValues f right)
  | .subquery q => .subquery (Query.mapValues f q)

/-- The table with the values of its query replaced. -/
def Table.mapValues (f : Value → Value) : Table → Table
  | ⟨source, aliasName⟩ => ⟨Source.mapValues f source, aliasName⟩

/-- The tables of a list with the values of their queries replaced. -/
def Table.mapValuesEach (f : Value → Value) : List Table → List Table
  | [] => []
  | t :: rest => Table.mapValues f t :: Table.mapValuesEach f rest

/-- What a table is read from, with its values replaced. -/
def Source.mapValues (f : Value → Value) : Source → Source
  | .named schema name => .named schema name
  | .derived q => .derived (Query.mapValues f q)

/-- The joins of a list with their values replaced, whether they are included or not. -/
def Join.mapValuesEach (f : Value → Value) : List Join → List Join
  | [] => []
  | ⟨kind, table, on, included⟩ :: rest =>
    ⟨kind, Table.mapValues f table,
        match on with | some c => some (Condition.mapValues f c) | none => none, included⟩
      :: Join.mapValuesEach f rest

/-- The condition with its values replaced. -/
def Condition.mapValues (f : Value → Value) : Condition → Condition
  | .empty => .empty
  | .predicate column op operand =>
    .predicate (Column.mapValues f column) op (Operand.mapValues f operand)
  | .raw sql params => .raw sql (params.map f)
  | .existence negated q => .existence negated (Query.mapValues f q)
  | .not c => .not (Condition.mapValues f c)
  | .group c => .group (Condition.mapValues f c)
  | .connect left op right => .connect (Condition.mapValues f left) op (Condition.mapValues f right)

/-- The right side of a predicate with its values replaced. -/
def Operand.mapValues (f : Value → Value) : Operand → Operand
  | .absent => .absent
  | .value v => .value (f v)
  | .list vs => .list (vs.map f)
  | .range first last => .range (f first) (f last)
  | .column c => .column (Column.mapValues f c)
  | .query q => .query (Query.mapValues f q)

/-- The entries of an ordering with their values replaced. -/
def OrderItem.mapValuesEach (f : Value → Value) : List OrderItem → List OrderItem
  | [] => []
  | .column c direction nulls :: rest =>
    .column (Column.mapValues f c) direction nulls :: OrderItem.mapValuesEach f rest
  | .raw text :: rest => .raw text :: OrderItem.mapValuesEach f rest

end

/-- What a column is set to, with its values replaced. -/
def Assigned.mapValues (f : Value → Value) : Assigned → Assigned
  | .value v => .value (f v)
  | .raw sql params => .raw sql (params.map f)
  | .query q => .query (q.mapValues f)

/-- The row with its values replaced. -/
def UpdateRow.mapValues (f : Value → Value) (row : UpdateRow) : UpdateRow :=
  ⟨row.entries.map fun entry => (entry.1, entry.2.mapValues f)⟩

/-- The join with its values replaced. -/
def Join.mapValues (f : Value → Value) (j : Join) : Join :=
  ⟨j.kind, j.table.mapValues f, j.on.map (Condition.mapValues f), j.included⟩

variable (f : Value → Value)

/-! ### Parts of lists -/

theorem Column.mapValuesEach_eq_map (columns : List Column) :
  Column.mapValuesEach f columns = columns.map (Column.mapValues f)
  := by
  induction columns with
  | nil => rfl
  | cons c columns ih => rw [mapValuesEach, ih, List.map_cons]

theorem Table.mapValuesEach_eq_map (tables : List Table) :
  Table.mapValuesEach f tables = tables.map (Table.mapValues f)
  := by
  induction tables with
  | nil => rfl
  | cons t tables ih => rw [mapValuesEach, ih, List.map_cons]

theorem Join.mapValuesEach_eq_map (joins : List Join) :
  Join.mapValuesEach f joins = joins.map (Join.mapValues f)
  := by
  induction joins with
  | nil => rfl
  | cons j joins ih =>
    obtain ⟨kind, table, on, included⟩ := j
    rw [List.map_cons, ← ih]
    cases on <;> rfl

@[simp]
theorem Cte.isEmpty_mapValuesEach (ctes : List Cte) :
  (Cte.mapValuesEach f ctes).isEmpty = ctes.isEmpty
  := by
  cases ctes with
  | nil => rfl
  | cons cte ctes => cases cte; rfl

@[simp]
theorem Partner.isEmpty_mapValuesEach (partners : List Partner) :
  (Partner.mapValuesEach f partners).isEmpty = partners.isEmpty
  := by
  cases partners with
  | nil => rfl
  | cons partner partners => cases partner; rfl

@[simp]
theorem Column.isEmpty_mapValuesEach (columns : List Column) :
  (Column.mapValuesEach f columns).isEmpty = columns.isEmpty
  := by
  cases columns <;> rfl

@[simp]
theorem Table.isEmpty_mapValuesEach (tables : List Table) :
  (Table.mapValuesEach f tables).isEmpty = tables.isEmpty
  := by
  cases tables <;> rfl

@[simp]
theorem OrderItem.isEmpty_mapValuesEach (order : List OrderItem) :
  (OrderItem.mapValuesEach f order).isEmpty = order.isEmpty
  := by
  cases order with
  | nil => rfl
  | cons item order => cases item <;> rfl

/-! ### Columns -/

namespace Column

variable (c : Column)

@[simp]
theorem aliasName_mapValues :
  (c.mapValues f).aliasName = c.aliasName
  := by
  cases c
  rfl

@[simp]
theorem name?_mapValues :
  (c.mapValues f).name? = c.name?
  := by
  obtain ⟨expr, aliasName⟩ := c
  cases expr <;> rfl

@[simp]
theorem aliasOrName?_mapValues :
  (c.mapValues f).aliasOrName? = c.aliasOrName?
  := by
  simp [aliasOrName?]

@[simp]
theorem isDistinct_mapValues :
  (c.mapValues f).isDistinct = c.isDistinct
  := by
  obtain ⟨expr, aliasName⟩ := c
  cases expr <;> rfl

@[simp]
theorem isArithmetic_mapValues :
  (c.mapValues f).isArithmetic = c.isArithmetic
  := by
  obtain ⟨expr, aliasName⟩ := c
  cases expr <;> rfl

@[simp]
theorem isCallOf_mapValues (function : String) :
  (c.mapValues f).isCallOf function = c.isCallOf function
  := by
  obtain ⟨expr, aliasName⟩ := c
  cases expr <;> rfl

end Column

/-! ### Tables -/

namespace Table

@[simp]
theorem aliasName_mapValues (t : Table) :
  (t.mapValues f).aliasName = t.aliasName
  := by
  cases t
  rfl

@[simp]
theorem name?_mapValues (t : Table) :
  (t.mapValues f).name? = t.name?
  := by
  obtain ⟨source, aliasName⟩ := t
  cases source <;> rfl

@[simp]
theorem isSameAs_mapValues (t u : Table) :
  (t.mapValues f).isSameAs (u.mapValues f) = t.isSameAs u
  := by
  obtain ⟨source, aliasName⟩ := t
  obtain ⟨source', aliasName'⟩ := u
  cases source <;> cases source' <;> rfl

@[simp]
theorem clashes_mapValues (t u : Table) :
  (t.mapValues f).clashes (u.mapValues f) = t.clashes u
  := by
  simp [clashes]

theorem firstClash?_map_mapValues (tables : List Table) :
  firstClash? (tables.map (mapValues f)) = (firstClash? tables).map (mapValues f)
  := by
  induction tables with
  | nil => rfl
  | cons t tables ih =>
    have hany : (tables.map (mapValues f)).any (t.mapValues f).clashes = tables.any t.clashes := by
      rw [List.any_map]
      congr 1
      funext u
      apply clashes_mapValues
    rw [List.map_cons, firstClash?, firstClash?, hany, ih]
    cases tables.any t.clashes <;> rfl

@[simp]
theorem isInText_mapValues (t : Table) :
  (t.mapValues f).isInText = t.isInText
  := by
  funext sql
  simp [isInText]

@[simp]
theorem isReferencedBy_mapValues (t : Table) :
  (t.mapValues f).isReferencedBy = t.isReferencedBy
  := by
  funext reference
  simp [isReferencedBy]

end Table

/-- The tables that a query reads are the same, those that are derived with other values. -/
theorem Join.tables_mapValuesEach (sources : List Table) (joins : List Join) :
  Table.mapValuesEach f sources
      ++ ((Join.mapValuesEach f joins).filter Join.included).map Join.table
    = (sources ++ (joins.filter Join.included).map Join.table).map (Table.mapValues f)
  := by
  have hincluded : Join.included ∘ Join.mapValues f = Join.included := rfl
  have htable : Join.table ∘ Join.mapValues f = Table.mapValues f ∘ Join.table := rfl
  rw [Table.mapValuesEach_eq_map, Join.mapValuesEach_eq_map, List.filter_map, hincluded,
    List.map_map, htable, List.map_append, List.map_map]

/-! ### Conditions -/

namespace Condition

/-- The part of a condition that has an effect is the same, with other values. -/
theorem effective?_mapValues :
    ∀ c : Condition,
  (c.mapValues f).effective? = c.effective?.map (mapValues f)
  | .empty | .predicate .. | .raw .. | .existence .. => rfl
  | .not c => by
    rw [mapValues, effective?, effective?, effective?_mapValues c]
    cases c.effective? <;> rfl
  | .group c => by
    rw [mapValues, effective?, effective?, effective?_mapValues c]
    cases c.effective? <;> rfl
  | .connect left op right => by
    rw [mapValues, effective?, effective?, effective?_mapValues left, effective?_mapValues right]
    cases left.effective? <;> cases right.effective? <;> rfl

variable (c : Condition)

@[simp]
theorem isEmpty_mapValues :
  (c.mapValues f).isEmpty = c.isEmpty
  := by
  rw [Bool.eq_iff_iff, isEmpty_iff, isEmpty_iff, effective?_mapValues, Option.map_eq_none_iff]

@[simp]
theorem needsParentheses_mapValues (parent : Connective) :
  (c.mapValues f).needsParentheses parent = c.needsParentheses parent
  := by
  unfold needsParentheses
  rw [effective?_mapValues]
  cases c.effective? with
  | none => rfl
  | some only => cases only <;> rfl

end Condition

/-! ### Mentions of tables -/

section

variable (t : Table)

mutual

/-- Whether a query mentions a table does not depend on values. -/
theorem Query.mentions_mapValues :
    ∀ q : Query,
  (q.mapValues f).mentions (t.mapValues f) = q.mentions t
  | ⟨_, _, _, columns, _, joins, filter, _, having, _, _, _, _, _⟩ => by
    rw [Query.mapValues, Query.mentions, Query.mentions, Column.anyMentions_mapValues columns,
      Condition.mentions_mapValues filter, Condition.mentions_mapValues having,
      Join.anyMentions_mapValues joins]

theorem Column.mentions_mapValues :
    ∀ c : Column,
  (c.mapValues f).mentions (t.mapValues f) = c.mentions t
  | ⟨expr, _⟩ => Expr.mentions_mapValues expr

theorem Column.anyMentions_mapValues :
    ∀ columns : List Column,
  Column.anyMentions (t.mapValues f) (Column.mapValuesEach f columns) = Column.anyMentions t columns
  | [] => rfl
  | c :: rest => by
    rw [Column.mapValuesEach, Column.anyMentions, Column.anyMentions, Column.mentions_mapValues c,
      Column.anyMentions_mapValues rest]

theorem Expr.mentions_mapValues :
    ∀ e : Expr,
  (e.mapValues f).mentions (t.mapValues f) = e.mentions t
  | .named table name => by simp [Expr.mapValues, Expr.mentions]
  | .call function args => Column.anyMentions_mapValues args
  | .distinct columns => Column.anyMentions_mapValues columns
  | .raw sql params => by simp [Expr.mapValues, Expr.mentions]
  | .param v => rfl
  | .arithmetic left op right => by
    rw [Expr.mapValues, Expr.mentions, Expr.mentions, Column.mentions_mapValues left,
      Column.mentions_mapValues right]
  | .subquery q => Query.mentions_mapValues q

theorem Join.anyMentions_mapValues :
    ∀ joins : List Join,
  Join.anyMentions (t.mapValues f) (Join.mapValuesEach f joins) = Join.anyMentions t joins
  | [] => rfl
  | ⟨_, _, none, _⟩ :: rest => by
    rw [Join.mapValuesEach, Join.anyMentions, Join.anyMentions, Join.anyMentions_mapValues rest]
  | ⟨_, _, some c, _⟩ :: rest => by
    rw [Join.mapValuesEach, Join.anyMentions, Join.anyMentions, Condition.mentions_mapValues c,
      Join.anyMentions_mapValues rest]

theorem Condition.mentions_mapValues :
    ∀ c : Condition,
  (c.mapValues f).mentions (t.mapValues f) = c.mentions t
  | .empty => rfl
  | .predicate column op operand => by
    rw [Condition.mapValues, Condition.mentions, Condition.mentions,
      Column.mentions_mapValues column, Operand.mentions_mapValues operand]
  | .raw sql params => by simp [Condition.mapValues, Condition.mentions]
  | .existence negated q => Query.mentions_mapValues q
  | .not c => Condition.mentions_mapValues c
  | .group c => Condition.mentions_mapValues c
  | .connect left op right => by
    rw [Condition.mapValues, Condition.mentions, Condition.mentions,
      Condition.mentions_mapValues left, Condition.mentions_mapValues right]

theorem Operand.mentions_mapValues :
    ∀ operand : Operand,
  (operand.mapValues f).mentions (t.mapValues f) = operand.mentions t
  | .absent | .value _ | .list _ | .range .. => rfl
  | .column c => Column.mentions_mapValues c
  | .query q => Query.mentions_mapValues q

end

end

/-! ### Counts -/

namespace Query

variable (q : Query)

theorem includedJoins_mapValues :
  (q.mapValues f).includedJoins = q.includedJoins.map (Join.mapValues f)
  := by
  have hincluded : Join.included ∘ Join.mapValues f = Join.included := rfl
  rw [includedJoins, includedJoins, ← hincluded, ← List.filter_map, ← Join.mapValuesEach_eq_map]
  cases q
  rfl

/-- The joins that a simplified count leaves out do not depend on values. -/
theorem hasIdleJoins_mapValues :
  (q.mapValues f).hasIdleJoins = q.hasIdleJoins
  := by
  have hfilter : (q.mapValues f).filter = q.filter.mapValues f := by
    cases q
    rfl
  have hidle : ∀ j : Join,
      (((j.mapValues f).kind == .left)
          && !(q.mapValues f).filter.mentions (j.mapValues f).table)
        = ((j.kind == .left) && !q.filter.mentions j.table) := by
    intro j
    rw [hfilter, Join.mapValues, Condition.mentions_mapValues]
  unfold hasIdleJoins
  rw [includedJoins_mapValues, List.isEmpty_map, List.all_map]
  congr 2
  funext j
  apply hidle

theorem needsDerivedCount_mapValues :
  (q.mapValues f).needsDerivedCount = q.needsDerivedCount
  := by
  have hdistinct : Column.isDistinct ∘ Column.mapValues f = Column.isDistinct := by
    funext c
    apply Column.isDistinct_mapValues
  cases q
  simp [needsDerivedCount, hasDistinct, mapValues, Column.mapValuesEach_eq_map, hdistinct]

theorem unordered_mapValues :
  (q.mapValues f).unordered = q.unordered.mapValues f
  := by
  cases q
  rfl

theorem countDerived_mapValues :
  (q.mapValues f).countDerived = q.countDerived.mapValues f
  := by
  cases q
  rfl

/-- The first column is a call of a function whatever the values are. -/
theorem isCountFirst_mapValues (function : String) :
  (q.mapValues f).columns.head?.any (Column.isCallOf function)
    = q.columns.head?.any (Column.isCallOf function)
  := by
  cases q with
  | mk recursive ctes hint columns =>
    cases columns with
    | nil => rfl
    | cons c columns => exact Column.isCallOf_mapValues f c function

/-- Counting the rows of a query with other values is counting with other values. -/
theorem countQuery_mapValues (simplify : Bool) :
  (q.mapValues f).countQuery simplify = (q.countQuery simplify).mapValues f
  := by
  unfold countQuery
  rw [needsDerivedCount_mapValues, isCountFirst_mapValues, hasIdleJoins_mapValues,
    unordered_mapValues, countDerived_mapValues]
  split
  · rfl
  · split
    · rfl
    · cases q
      split <;> rfl

end Query

/-! ### Guards -/

mutual

/-- The guards of a query do not depend on values. -/
theorem Query.guards_mapValues :
    ∀ q : Query,
  (q.mapValues f).guards = q.guards
  | ⟨_, ctes, _, columns, sources, joins, filter, groups, having, order, _, _, partners, _⟩ => by
    rw [Query.mapValues, Query.guards, Query.guards, Cte.guardsEach_mapValues ctes,
      Column.guardsEach_mapValues columns, Column.guardsEach_mapValues groups,
      Table.guardsEach_mapValues sources, Join.guardsEach_mapValues joins,
      Condition.guards_mapValues filter, Condition.guards_mapValues having,
      OrderItem.guardsEach_mapValues order, Partner.guardsEach_mapValues partners]

theorem Cte.guardsEach_mapValues :
    ∀ ctes : List Cte,
  Cte.guardsEach (Cte.mapValuesEach f ctes) = Cte.guardsEach ctes
  | [] => rfl
  | ⟨_, _, q⟩ :: rest => by
    rw [Cte.mapValuesEach, Cte.guardsEach, Cte.guardsEach, Query.guards_mapValues q,
      Cte.guardsEach_mapValues rest]

theorem Partner.guardsEach_mapValues :
    ∀ partners : List Partner,
  Partner.guardsEach (Partner.mapValuesEach f partners) = Partner.guardsEach partners
  | [] => rfl
  | ⟨_, q⟩ :: rest => by
    rw [Partner.mapValuesEach, Partner.guardsEach, Partner.guardsEach, Query.guards_mapValues q,
      Partner.guardsEach_mapValues rest]

theorem Column.guards_mapValues :
    ∀ c : Column,
  (c.mapValues f).guards = c.guards
  | ⟨expr, _⟩ => by
    rw [Column.mapValues, Column.guards, Column.guards, Expr.guards_mapValues expr]

theorem Column.guardsEach_mapValues :
    ∀ columns : List Column,
  Column.guardsEach (Column.mapValuesEach f columns) = Column.guardsEach columns
  | [] => rfl
  | c :: rest => by
    rw [Column.mapValuesEach, Column.guardsEach, Column.guardsEach, Column.guards_mapValues c,
      Column.guardsEach_mapValues rest]

theorem Expr.guards_mapValues :
    ∀ e : Expr,
  (e.mapValues f).guards = e.guards
  | .named .. | .raw .. | .param _ => rfl
  | .call _ args => by
    rw [Expr.mapValues, Expr.guards, Expr.guards, Column.guardsEach_mapValues args]
  | .distinct columns => Column.guardsEach_mapValues columns
  | .arithmetic left _ right => by
    rw [Expr.mapValues, Expr.guards, Expr.guards, Column.guards_mapValues left,
      Column.guards_mapValues right]
  | .subquery q => Query.guards_mapValues q

theorem Table.guards_mapValues :
    ∀ t : Table,
  (t.mapValues f).guards = t.guards
  | ⟨source, _⟩ => by
    rw [Table.mapValues, Table.guards, Table.guards, Source.guards_mapValues source]

theorem Table.guardsEach_mapValues :
    ∀ tables : List Table,
  Table.guardsEach (Table.mapValuesEach f tables) = Table.guardsEach tables
  | [] => rfl
  | t :: rest => by
    rw [Table.mapValuesEach, Table.guardsEach, Table.guardsEach, Table.guards_mapValues t,
      Table.guardsEach_mapValues rest]

theorem Source.guards_mapValues :
    ∀ source : Source,
  (source.mapValues f).guards = source.guards
  | .named .. => rfl
  | .derived q => Query.guards_mapValues q

theorem Join.guardsEach_mapValues :
    ∀ joins : List Join,
  Join.guardsEach (Join.mapValuesEach f joins) = Join.guardsEach joins
  | [] => rfl
  | ⟨_, t, none, _⟩ :: rest => by
    rw [Join.mapValuesEach, Join.guardsEach, Join.guardsEach, Table.guards_mapValues t,
      Join.guardsEach_mapValues rest]
  | ⟨_, t, some c, _⟩ :: rest => by
    rw [Join.mapValuesEach, Join.guardsEach, Join.guardsEach, Table.guards_mapValues t,
      Condition.guards_mapValues c, Join.guardsEach_mapValues rest]

theorem Condition.guards_mapValues :
    ∀ c : Condition,
  (c.mapValues f).guards = c.guards
  | .empty => rfl
  | .predicate column _ operand => by
    rw [Condition.mapValues, Condition.guards, Condition.guards, Column.guards_mapValues column,
      Operand.guards_mapValues operand]
  | .raw .. => rfl
  | .existence _ q => Query.guards_mapValues q
  | .not c => Condition.guards_mapValues c
  | .group c => Condition.guards_mapValues c
  | .connect left _ right => by
    rw [Condition.mapValues, Condition.guards, Condition.guards, Condition.guards_mapValues left,
      Condition.guards_mapValues right]

theorem Operand.guards_mapValues :
    ∀ operand : Operand,
  (operand.mapValues f).guards = operand.guards
  | .absent | .value _ | .list _ | .range .. => rfl
  | .column c => Column.guards_mapValues c
  | .query q => Query.guards_mapValues q

theorem OrderItem.guardsEach_mapValues :
    ∀ order : List OrderItem,
  OrderItem.guardsEach (OrderItem.mapValuesEach f order) = OrderItem.guardsEach order
  | [] => rfl
  | .column c _ _ :: rest => by
    rw [OrderItem.mapValuesEach, OrderItem.guardsEach, OrderItem.guardsEach,
      Column.guards_mapValues c, OrderItem.guardsEach_mapValues rest]
  | .raw _ :: rest => by
    rw [OrderItem.mapValuesEach, OrderItem.guardsEach, OrderItem.guardsEach,
      OrderItem.guardsEach_mapValues rest]

end

/-- An examination of a query does not look at its values. -/
theorem Query.validate_mapValues (q : Query) :
  (q.mapValues f).validate = q.validate
  := by
  rw [validate, validate, guards_mapValues]

end SqlRender
