import SqlRender.Dialect
import SqlRender.Proofs.References
import SqlRender.Query.Values

/-!
# The clauses of a count

The count of a query is made in one of three ways (`Query.countQuery_cases`): around the query
as a derived table, with `COUNT(*)` in place of its columns, or by its own columns if the first
of them is a count.  It has the common table expressions of the query, and it neither orders
nor limits rows.  It has no texts at its end either, which could lock rows, unless it is the
query itself that counts: this one keeps the texts at its end.  All this is in
`Query.isCountOf_countQuery`.
-/

namespace SqlRender

namespace Query

/-- Whether the count of a query is made by the columns of the query itself. -/
def countsItself (q : Query) (simplify : Bool) : Bool :=
  simplify && !q.needsDerivedCount && q.columns.head?.any (Column.isCallOf "COUNT")

/-- The ways in which a query is counted. -/
theorem countQuery_cases (q : Query) (simplify : Bool) :
  ((simplify = false ∨ q.needsDerivedCount = true) ∧ q.countsItself simplify = false
      ∧ q.countQuery simplify = q.unordered.countDerived)
    ∨ (simplify = true ∧ q.needsDerivedCount = false ∧ q.countsItself simplify = true
      ∧ q.countQuery simplify = q.unordered)
    ∨ (simplify = true ∧ q.needsDerivedCount = false ∧ q.countsItself simplify = false
      ∧ q.countQuery simplify
        = { q.unordered with
            columns := [Column.countAll]
            endings := []
            joins := if q.hasIdleJoins then [] else q.joins })
  := by
  cases simplify with
  | false => exact .inl ⟨.inl rfl, rfl, countQuery_eq_countDerived (.inl rfl)⟩
  | true =>
    cases hderived : q.needsDerivedCount with
    | true =>
      exact .inl ⟨.inr rfl, by simp [countsItself, hderived],
        countQuery_eq_countDerived (.inr hderived)⟩
    | false =>
      cases hcount : q.columns.head?.any (Column.isCallOf "COUNT") with
      | true =>
        exact .inr (.inl ⟨rfl, rfl, by simp [countsItself, hderived, hcount],
          countQuery_eq_unordered hderived hcount⟩)
      | false =>
        exact .inr (.inr ⟨rfl, rfl, by simp [countsItself, hcount],
          countQuery_eq_countAll hderived hcount⟩)

/-! ### The values of a count -/

/-- `COUNT(*)` has no values. -/
theorem values_countAll (paging : Option PagingStrategy) :
  Column.countAll.values paging = []
  := rfl

/-- The count around a query has the values of the query. -/
theorem values_countDerived (paging : Option PagingStrategy) (q : Query) :
  q.unordered.countDerived.values paging = q.unordered.values paging
  := by
  obtain ⟨recursive, ctes, hint, columns, sources, joins, filter, groups, having, order, rows,
    offset, partners, endings⟩ := q
  have hlast : ordersFirst paging none = false := by
    cases paging <;> simp [ordersFirst, PagingStrategy.ordersFirst]
  simp [unordered, countDerived, empty, Query.values, values_countAll, hlast, Cte.valuesEach,
    Table.valuesEach, Table.values, Source.values, Table.named, Table.derived, Join.valuesEach,
    Condition.values, Column.valuesEach, OrderItem.valuesEach, Partner.valuesEach]

/-- The count in place of the columns has the values of the query but those of the columns,
and perhaps those of the joins. -/
theorem values_countAll_sublist (paging : Option PagingStrategy) {q : Query}
    {joins : List Join} (hjoins : joins = [] ∨ joins = q.joins) :
  ({ q.unordered with columns := [Column.countAll], endings := [], joins }.values paging).Sublist
    (q.unordered.values paging)
  := by
  obtain ⟨recursive, ctes, hint, columns, sources, qjoins, filter, groups, having, order, rows,
    offset, partners, endings⟩ := q
  have hkept : (Join.valuesEach paging joins).Sublist (Join.valuesEach paging qjoins) := by
    obtain rfl | rfl := hjoins
    · apply List.nil_sublist
    · apply List.Sublist.refl
  simp only [unordered, Query.values, Column.valuesEach, values_countAll, OrderItem.valuesEach,
    ite_self, List.append_nil, List.append_assoc]
  apply List.Sublist.append_left
  apply List.Sublist.trans _ (List.sublist_append_right _ _)
  apply List.Sublist.append_left
  apply List.Sublist.append_right hkept

/-! ### What a count is like -/

/-- Nothing of a query arranges, limits or locks its rows. -/
structure IsUnarranged (q : Query) : Prop where
  order : q.order = []
  rows : q.rows = none
  offset : q.offset = none
  endings : q.endings = []

/-- What the count `c` of a query is like. -/
structure IsCountOf (q : Query) (simplify : Bool) (c : Query) : Prop where
  order : c.order = []
  rows : c.rows = none
  offset : c.offset = none
  /-- There are no texts at its end, unless the query counts itself and has some. -/
  endings_iff : c.endings = [] ↔ (q.countsItself simplify = true → q.endings = [])
  recursive : c.recursive = q.recursive
  ctes : c.ctes = q.ctes
  /-- A derived table in which the rows are counted is the only source, and it is neither
  ordered nor limited nor does it lock rows. -/
  derived : simplify = false ∨ q.needsDerivedCount = true →
    ∃ inner, c.sources = [(Table.derived inner).named "t"] ∧ inner.IsUnarranged ∧ inner.ctes = []
  /-- Its values are some of the values of the query without its ordering. -/
  values_sublist : ∀ paging, (c.values paging).Sublist (q.unordered.values paging)
  /-- All of them are bound if the count is not simplified. -/
  values : simplify = false → ∀ paging, c.values paging = q.unordered.values paging

/-- The count of a query keeps its common table expressions and neither orders nor limits rows.
It does not lock rows either, unless the query counts itself and does so. -/
theorem isCountOf_countQuery (q : Query) (simplify : Bool) :
  q.IsCountOf simplify (q.countQuery simplify)
  := by
  obtain ⟨hderived, hself, hcount⟩ | ⟨rfl, hderived, hself, hcount⟩
    | ⟨rfl, hderived, hself, hcount⟩ := q.countQuery_cases simplify
  · rw [hcount]
    constructor
    case order | rows | offset | recursive | ctes => rfl
    case endings_iff => simp [hself, countDerived, empty]
    case derived => exact fun _ => ⟨_, rfl, ⟨rfl, rfl, rfl, rfl⟩, rfl⟩
    case values_sublist =>
      intro paging
      simp only [values_countDerived, List.Sublist.refl]
    case values => exact fun _ paging => values_countDerived paging q
  · rw [hcount]
    constructor
    case order | rows | offset | recursive | ctes => rfl
    case endings_iff => simp [hself, unordered]
    case derived => simp [hderived]
    case values_sublist => exact fun paging => List.Sublist.refl _
    case values => simp
  · rw [hcount]
    constructor
    case order | rows | offset | recursive | ctes => rfl
    case endings_iff => simp [hself]
    case derived => simp [hderived]
    case values_sublist =>
      intro paging
      apply values_countAll_sublist
      split
      · exact .inl rfl
      · exact .inr rfl
    case values => simp

/-- The number of accounts, with their rows locked. -/
def lockedAccounts : Query :=
  { empty with
    columns := [Column.call "COUNT" [Column.ofText "id"]]
    sources := [⟨.named none "tb_account", none⟩] }.forUpdate

/-- A count with locked rows keeps its lock when it is simplified, and has none in it otherwise. -/
theorem isCountOf_countQuery_lockedAccounts :
  (lockedAccounts.countQuery true).endings ≠ [] ∧ (lockedAccounts.countQuery false).endings = []
    ∧ (Dialect.builtIn .mysql).select (lockedAccounts.countQuery true)
      = .ok ⟨"SELECT COUNT(`id`) FROM `tb_account` FOR UPDATE", []⟩
  := by
  have hself : lockedAccounts.countsItself true = true := by decide
  have hlock : lockedAccounts.endings ≠ [] := nofun
  refine ⟨?_, ?_, rfl⟩
  · rw [ne_eq, (isCountOf_countQuery lockedAccounts true).endings_iff]
    exact fun h => hlock (h hself)
  · rw [(isCountOf_countQuery lockedAccounts false).endings_iff]
    exact nofun

end Query

end SqlRender
