import SqlRender.Proofs.BoundValues
import SqlRender.Proofs.Request

/-!
# The values of a statement

A statement binds its values in the order in which its parts stand in the text.  For a select
this is the order of the values of its query.  A DELETE has its tables, its joins and then its
condition, and an UPDATE has the assignments of its row behind the joins; an `ALTER TABLE` has
neither tables nor joins with values; and an INSERT has its rows alone.  `Request.values` lists
the values so, and by `Request.params_of_statement` these are the values that are bound.
-/

namespace SqlRender

/-- The values of a join: those of its table and those of its condition. -/
def Join.values (paging : Option PagingStrategy) (j : Join) : List Value :=
  j.table.values paging ++ j.on.elim [] (Condition.values paging)

/-- The values of the tables and joins that a change lists: all of them in the standard layout,
and none in an `ALTER TABLE`, which has the name of a table only. -/
def MutationLayout.values (paging : Option PagingStrategy) (tables : List Table)
    (joins : List Join) : MutationLayout → List Value
  | standard => tables.flatMap (Table.values paging) ++ joins.flatMap (Join.values paging)
  | alterTable => []

/-- The values that the statement of a request binds in a dialect, part by part.  An UPDATE has
the first table of its query alone. -/
def Request.values (d : Dialect) : Request → List Value
  | select q => q.values (some d.paging)
  | delete q =>
    d.mutations.values (some d.paging) q.sources q.includedJoins
      ++ q.filter.values (some d.paging)
  | update row q =>
    d.mutations.values (some d.paging) (q.sources.take 1) q.includedJoins
      ++ row.values (some d.paging)
      ++ q.filter.values (some d.paging)
  | insert _ row => row.values (some d.paging)
  | insertBatch _ rows => rows.flatMap (UpdateRow.values (some d.paging))
  | count simplify q => (q.countQuery simplify).values (some d.paging)
  | page r q => ((q.skip (some r.offset)).limit (some r.size)).values (some d.paging)

/-! ### Tables and joins -/

/-- The tables of a list have the values of each of them. -/
theorem Table.valuesEach_eq_flatMap (paging : Option PagingStrategy) (tables : List Table) :
  Table.valuesEach paging tables = tables.flatMap (Table.values paging)
  := by
  induction tables with
  | nil => rfl
  | cons t tables ih => rw [valuesEach, ih, List.flatMap_cons]

/-- The joins of a list have the values of each of them that is included. -/
theorem Join.valuesEach_eq_flatMap (paging : Option PagingStrategy) (joins : List Join) :
  Join.valuesEach paging joins = (joins.filter Join.included).flatMap (Join.values paging)
  := by
  induction joins with
  | nil => rfl
  | cons j joins ih =>
    obtain ⟨kind, table, on, included⟩ := j
    cases included with
    | false => simp [valuesEach, ih]
    | true => cases on <;> simp [valuesEach, ih, values]

/-! ### The parts of a change -/

namespace Mutation

variable (style : SelectStyle) (scope : Option Scope)

/-- There are no values in the name of a table, nor in the error that stands in its place. -/
theorem params_tableName (t : Table) :
  (tableName t).flatMap Token.params = []
  := by
  unfold tableName
  split <;> rfl

/-- What a column is set to binds its values. -/
theorem params_assignedTokens (x : Assigned) :
  (assignedTokens style scope x).flatMap Token.params = x.values (some style.paging)
  := by
  cases x with
  | value v => rfl
  | raw sql params => simp [assignedTokens, Assigned.values]
  | query q =>
    rw [assignedTokens, Token.params_parenthesized]
    apply Query.params_parts style scope q

/-- The assignments of a row bind its values. -/
theorem params_assignments (row : UpdateRow) :
  (assignments style scope row).flatMap Token.params = row.values (some style.paging)
  := by
  simp [assignments, UpdateRow.values, List.flatMap_map, params_assignedTokens]

/-- The values of a row are bound in parentheses. -/
theorem params_valueTuple (row : UpdateRow) :
  (valueTuple style row).flatMap Token.params = row.values (some style.paging)
  := by
  simp [valueTuple, UpdateRow.values, List.flatMap_map, params_assignedTokens]

/-- The target of an INSERT is made of names. -/
theorem params_insertTarget (t : Table) (row : UpdateRow) :
  (insertTarget t row).flatMap Token.params = []
  := by
  simp [insertTarget, columnList, params_tableName, List.flatMap_map]

/-- The condition of a query binds its values. -/
theorem params_whereTokens (q : Query) :
  (whereTokens style q).flatMap Token.params = q.filter.values (some style.paging)
  := by
  rw [whereTokens, List.flatMap_cons, Token.params_text, List.nil_append]
  apply Condition.params_tokens

/-- There are no values at the end of a query. -/
theorem params_endingTokens (q : Query) :
  (endingTokens q).flatMap Token.params = []
  := flatMap_endings Token.skipsWords_params q.endings

/-- The included joins of a query bind the values of their tables and conditions. -/
theorem params_includedJoins (q : Query) :
  (Join.includedTokens style scope q.joins).flatMap Token.params
    = q.includedJoins.flatMap (Join.values (some style.paging))
  := by
  rw [Join.params_includedTokens, Join.valuesEach_eq_flatMap, Query.includedJoins]

variable {style} {ts : List Token} {q : Query}

theorem params_delete {layout : MutationLayout} (h : delete style layout q = .ok ts) :
  ts.flatMap Token.params
    = layout.values (some style.paging) q.sources q.includedJoins
      ++ q.filter.values (some style.paging)
  := by
  obtain ⟨t, -, rfl⟩ := delete_eq_ok h
  cases layout with
  | standard =>
    simp [MutationLayout.values, Table.params_tokensEach, Table.valuesEach_eq_flatMap,
      params_includedJoins, params_whereTokens, params_endingTokens]
  | alterTable => simp [MutationLayout.values, params_tableName, params_whereTokens]

theorem params_update {layout : MutationLayout} {row : UpdateRow}
    (h : update style layout row q = .ok ts) :
  ts.flatMap Token.params
    = layout.values (some style.paging) (q.sources.take 1) q.includedJoins
      ++ row.values (some style.paging)
      ++ q.filter.values (some style.paging)
  := by
  obtain ⟨t, ht, -, rfl⟩ := update_eq_ok h
  obtain ⟨⟨rest, hsources⟩, -⟩ := target_eq_ok_iff.mp ht
  cases layout with
  | standard =>
    simp [MutationLayout.values, hsources, Table.params_tokens, params_includedJoins,
      params_assignments, params_whereTokens, params_endingTokens]
  | alterTable =>
    simp [MutationLayout.values, params_tableName, params_assignments, params_whereTokens]

theorem params_insert {t : Table} {row : UpdateRow} (h : insert style t row = .ok ts) :
  ts.flatMap Token.params = row.values (some style.paging)
  := by
  obtain ⟨-, rfl⟩ := insert_eq_ok h
  simp [params_insertTarget, params_valueTuple]

theorem params_insertBatch {layout : BatchLayout} {t : Table} {rows : List UpdateRow}
    (h : insertBatch style layout t rows = .ok ts) :
  ts.flatMap Token.params = rows.flatMap (UpdateRow.values (some style.paging))
  := by
  obtain ⟨first, -, rfl⟩ := insertBatch_eq_ok h
  cases layout with
  | tuples => simp [params_insertTarget, List.flatMap_map, params_valueTuple]
  | insertAll => simp [List.flatMap_assoc, params_insertTarget, params_valueTuple]

end Mutation

/-! ### Statements -/

/-- A statement binds the values of its request, part by part in the order of the text. -/
theorem Request.params_of_statement {d : Dialect} {r : Request} {s : Statement}
    (h : r.statement d = .ok s) :
  s.params = r.values d
  := by
  obtain ⟨ts, hts, hs⟩ := exists_tokens h
  rw [Statement.params_of_ofTokens hs]
  have hquery : ∀ q : Query,
      (q.tokens d.style none).flatMap Token.params = q.values (some d.paging) :=
    fun q => Query.params_parts d.style none q
  cases r with
  | select q | count simplify q | page r q =>
    obtain rfl := Except.ok.inj hts
    apply hquery
  | delete q => apply Mutation.params_delete hts
  | update row q => apply Mutation.params_update hts
  | insert t row => apply Mutation.params_insert hts
  | insertBatch t rows => apply Mutation.params_insertBatch hts

/-- The open articles of some accounts, which are joined as a limited query. -/
def openArticles : Query :=
  { Query.empty with
    sources := [⟨.named none "tb_article", none⟩]
    joins := [⟨.inner, ⟨.derived limitedAccounts, some "a"⟩,
      some (.predicate ⟨.named (some "a") "id", none⟩ .eq
        (.column ⟨.named (some "tb_article") "account", none⟩)), true⟩]
    filter := .predicate ⟨.named (some "tb_article") "state", none⟩ .eq (.value (.int 1)) }

/-- The assignments that close an article. -/
def closingRow : UpdateRow :=
  ⟨[("state", .value (.int 2)), ("score", .raw "score - ?" [.int 3])]⟩

/-- With numbered rows the joined query begins with the value of its ordering; then come the
assignments and the condition, which are all that an `ALTER TABLE` has. -/
theorem Request.params_of_statement_closingRow :
  (∃ s, (Request.update closingRow openArticles).statement (.builtIn .sqlServer2005) = .ok s
      ∧ s.params = [.uint 99, .uint 7, .uint 18, .int 2, .int 3, .int 1])
    ∧ ∃ s, (Request.update closingRow openArticles).statement .clickHouse = .ok s
      ∧ s.params = [.int 2, .int 3, .int 1]
  := by
  constructor
  · obtain ⟨s, hs⟩ : ∃ s, (Request.update closingRow openArticles).statement
        (.builtIn .sqlServer2005) = .ok s := ⟨_, rfl⟩
    use s, hs
    rw [Request.params_of_statement hs]
    rfl
  · obtain ⟨s, hs⟩ : ∃ s, (Request.update closingRow openArticles).statement .clickHouse
        = .ok s := ⟨_, rfl⟩
    use s, hs
    rw [Request.params_of_statement hs]
    rfl

end SqlRender
