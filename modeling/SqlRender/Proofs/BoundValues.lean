import SqlRender.Proofs.WrittenQueries
import SqlRender.Query.Values

/-!
# The values that a statement binds

A select binds the values of its query in the order in which `Query.values` lists them for
the paging of the dialect.  That list is a rearrangement of the one in the order of the
clauses, and equal to it unless the paging writes the ordering of a limited query first.
-/

namespace SqlRender

/-! ### Tokens that bind nothing -/

/-- A condition without effect has no values. -/
theorem Condition.values_eq_nil_of_isEmpty (paging : Option PagingStrategy) :
    ∀ c : Condition, c.isEmpty = true →
  c.values paging = []
  | .empty, _ => rfl
  | .not c, h => values_eq_nil_of_isEmpty paging c h
  | .group c, h => values_eq_nil_of_isEmpty paging c h
  | .connect left _ right, h => by
    simp only [isEmpty, Bool.and_eq_true] at h
    simp [Condition.values, values_eq_nil_of_isEmpty paging left h.1,
      values_eq_nil_of_isEmpty paging right h.2]

/-- There are no values in words and names. -/
theorem Token.skipsWords_params :
  SkipsWords params
  := ⟨params_text, params_name, fun sql => params_raw sql []⟩

@[simp]
theorem params_clashTokens (sources : List Table) (joins : List Join) :
  (clashTokens sources joins).flatMap Token.params = []
  := by
  unfold clashTokens
  split <;> rfl

@[simp]
theorem params_bindTokens (vs : List Value) :
  (bindTokens vs).flatMap Token.params = vs
  := by
  simp [bindTokens, List.flatMap_map]

/-! ### The values of the parts of a query -/

/-- The rows are numbered exactly for a limited query under the paging that writes the
ordering first. -/
theorem SelectParts.isNumbered_of_layout {p : SelectParts} {s : PagingStrategy}
    {rows offset : Option UInt64} (h : p.layout = s.layoutOf rows offset) :
  p.isNumbered = ordersFirst (some s) rows
  := by
  unfold isNumbered
  rw [h]
  cases rows with
  | none => simp [PagingStrategy.layoutOf, Window.of?, ordersFirst, PagingStrategy.ordersFirst]
  | some rows => cases s <;> cases offset <;> rfl

mutual

/-- A query binds its values. -/
theorem Query.params_parts (style : SelectStyle) (scope : Option Scope) :
    ∀ q : Query,
  ((Query.parts style scope q).tokens style.aliasSeparator).flatMap Token.params
    = q.values (some style.paging)
  | ⟨recursive, ctes, hint, columns, sources, joins, filter, groups, having, order, rows,
      offset, partners, endings⟩ => by
    let own := some (Scope.of sources joins)
    have hctes := Cte.params_tokensEach style scope ctes
    have hcolumns := Column.params_tokensEach style own columns
    have hsources := Table.params_tokensEach style own sources
    have hjoins := Join.params_includedTokens style own joins
    have hfilter := Condition.params_tokens style own filter
    have hgroups := Column.params_tokensEach style own groups
    have hhaving := Condition.params_tokens style own having
    have horder := fun scope around => OrderItem.params_tokensEach style scope around order
    have hpartners := Partner.params_tokensEach style scope partners
    have hwords := Token.skipsWords_params
    rw [SelectParts.flatMap_tokens hwords (Query.showsByClause_parts hwords style scope _),
      SelectParts.isNumbered_of_layout rfl]
    simp only [Query.parts, Query.values, List.flatMap_append, Token.params_separated,
      params_clashTokens, flatMap_endings hwords, horder, hpartners]
    rw [flatMap_listClause hwords hctes (fun h : ctes = [] => by rw [h]; rfl),
      flatMap_listClause hwords hsources (fun h : sources = [] => by rw [h]; rfl),
      flatMap_clause hwords hfilter (Condition.values_eq_nil_of_isEmpty _ filter),
      flatMap_listClause hwords hgroups (fun h : groups = [] => by rw [h]; rfl),
      flatMap_clause hwords hhaving (Condition.values_eq_nil_of_isEmpty _ having), hcolumns,
      hjoins]
    simp only [List.append_assoc, List.append_nil, List.nil_append]

/-- Common table expressions bind the values of their queries. -/
theorem Cte.params_tokensEach (style : SelectStyle) (scope : Option Scope) :
    ∀ ctes : List Cte,
  ((Cte.tokensEach style scope ctes).flatMap fun part => part.flatMap Token.params)
    = Cte.valuesEach (some style.paging) ctes
  | [] => rfl
  | ⟨name, columns, q⟩ :: rest => by
    rw [Cte.tokensEach, List.flatMap_cons, List.flatMap_append,
      flatMap_cteHead Token.skipsWords_params, List.nil_append, Token.params_parenthesized,
      Query.params_parts style scope q, Cte.params_tokensEach style scope rest, Cte.valuesEach]

/-- The partners of a union bind the values of their queries. -/
theorem Partner.params_tokensEach (style : SelectStyle) (scope : Option Scope) :
    ∀ partners : List Partner,
  (Partner.tokensEach style scope partners).flatMap Token.params
    = Partner.valuesEach (some style.paging) partners
  | [] => rfl
  | ⟨kind, q⟩ :: rest => by
    simp [Partner.tokensEach, Partner.valuesEach, Query.params_parts style scope q,
      Partner.params_tokensEach style scope rest]

/-- A column binds its values. -/
theorem Column.params_tokens (style : SelectStyle) (scope : Option Scope) :
    ∀ c : Column,
  (Column.tokens style scope c).flatMap Token.params = c.values (some style.paging)
  | ⟨expr, _⟩ => by
    simpa [Column.tokens, Column.values] using Expr.params_tokens style scope expr

/-- The columns of a list bind their values. -/
theorem Column.params_tokensEach (style : SelectStyle) (scope : Option Scope) :
    ∀ columns : List Column,
  ((Column.tokensEach style scope columns).flatMap fun part => part.flatMap Token.params)
    = Column.valuesEach (some style.paging) columns
  | [] => rfl
  | c :: rest => by
    simp [Column.tokensEach, Column.valuesEach, Column.params_tokens style scope c,
      Column.params_tokensEach style scope rest]

/-- An expression binds its values. -/
theorem Expr.params_tokens (style : SelectStyle) (scope : Option Scope) :
    ∀ e : Expr,
  (Expr.tokens style scope e).flatMap Token.params = e.values (some style.paging)
  | .named table name => flatMap_namedTokens Token.skipsWords_params scope table name
  | .call function args => by
    simp [Expr.tokens, Expr.values, Column.params_tokensEach style scope args]
  | .distinct columns => by
    simp [Expr.tokens, Expr.values, Column.params_tokensEach style scope columns]
  | .raw sql params => by simp [Expr.tokens, Expr.values]
  | .param v => by simp [Expr.tokens, Expr.values]
  | .arithmetic left op right => by
    simp [Expr.tokens, Expr.values, Column.params_tokens style scope left,
      Column.params_tokens style scope right]
  | .subquery q => by simp [Expr.tokens, Expr.values, Query.params_parts style scope q]

/-- A table binds the values of what it is read from. -/
theorem Table.params_tokens (style : SelectStyle) (scope : Option Scope) :
    ∀ t : Table,
  (Table.tokens style scope t).flatMap Token.params = t.values (some style.paging)
  | ⟨source, aliasName⟩ => by
    rw [Table.tokens, List.flatMap_append, flatMap_tableAliasTokens Token.skipsWords_params,
      List.append_nil, Source.params_tokens style scope source, Table.values]

/-- The tables of a list bind their values. -/
theorem Table.params_tokensEach (style : SelectStyle) (scope : Option Scope) :
    ∀ tables : List Table,
  ((Table.tokensEach style scope tables).flatMap fun part => part.flatMap Token.params)
    = Table.valuesEach (some style.paging) tables
  | [] => rfl
  | t :: rest => by
    simp [Table.tokensEach, Table.valuesEach, Table.params_tokens style scope t,
      Table.params_tokensEach style scope rest]

/-- What a table is read from binds its values. -/
theorem Source.params_tokens (style : SelectStyle) (scope : Option Scope) :
    ∀ source : Source,
  (Source.tokens style scope source).flatMap Token.params = source.values (some style.paging)
  | .named schema name => by simp [Source.tokens, Source.values]
  | .derived q => by simp [Source.tokens, Source.values, Query.params_parts style scope q]

/-- A join binds the values of its table and of its condition. -/
theorem Join.params_includedTokens (style : SelectStyle) (scope : Option Scope) :
    ∀ joins : List Join,
  (Join.includedTokens style scope joins).flatMap Token.params
    = Join.valuesEach (some style.paging) joins
  | [] => rfl
  | ⟨kind, table, on, included⟩ :: rest => by
    have htable := Table.params_tokens style scope table
    have hrest := Join.params_includedTokens style scope rest
    cases included with
    | false => simpa [Join.includedTokens, Join.valuesEach] using hrest
    | true =>
      cases on with
      | none => simp [Join.includedTokens, Join.tokens, Join.valuesEach, htable, hrest]
      | some c =>
        have hc := Condition.params_tokens style scope c
        by_cases hempty : c.isEmpty
        · simp [Join.includedTokens, Join.tokens, Join.valuesEach, htable, hrest, hempty,
            Condition.values_eq_nil_of_isEmpty _ c hempty]
        · simp [Join.includedTokens, Join.tokens, Join.valuesEach, htable, hrest, hempty, hc]

/-- A condition binds its values; an empty condition has none. -/
theorem Condition.params_tokens (style : SelectStyle) (scope : Option Scope) :
    ∀ c : Condition,
  (Condition.tokens style scope c).flatMap Token.params = c.values (some style.paging)
  | .empty => rfl
  | .predicate column op operand => by
    simp [Condition.tokens, Condition.values, Column.params_tokens style scope column,
      Operand.params_tokens style scope operand]
  | .raw sql params => by simp [Condition.tokens, Condition.values]
  | .existence negated q => by
    simp [Condition.tokens, Condition.values, Query.params_parts style scope q]
  | .not c => by
    have hc := Condition.params_tokens style scope c
    by_cases hempty : c.isEmpty
    · simp [Condition.tokens, Condition.values, hempty, Condition.values_eq_nil_of_isEmpty]
    · simp [Condition.tokens, Condition.values, hempty, hc]
  | .group c => by
    have hc := Condition.params_tokens style scope c
    by_cases hempty : c.isEmpty
    · simp [Condition.tokens, Condition.values, hempty, Condition.values_eq_nil_of_isEmpty]
    · simp [Condition.tokens, Condition.values, hempty, hc]
  | .connect left op right => by
    have hleft := Condition.params_tokens style scope left
    have hright := Condition.params_tokens style scope right
    by_cases hl : left.isEmpty
    · simp [Condition.tokens, Condition.values, hl, hright, Condition.values_eq_nil_of_isEmpty]
    · by_cases hr : right.isEmpty
      · simp [Condition.tokens, Condition.values, hl, hr, hleft,
          Condition.values_eq_nil_of_isEmpty]
      · simp [Condition.tokens, Condition.values, hl, hr, hleft, hright]

/-- The right side of a predicate binds its values. -/
theorem Operand.params_tokens (style : SelectStyle) (scope : Option Scope) :
    ∀ operand : Operand,
  (Operand.tokens style scope operand).flatMap Token.params = operand.values (some style.paging)
  | .absent => rfl
  | .value v => by simp [Operand.tokens, Operand.values]
  | .list vs => by simp [Operand.tokens, Operand.values]
  | .range first last => by simp [Operand.tokens, Operand.values]
  | .column c => by simp [Operand.tokens, Operand.values, Column.params_tokens style scope c]
  | .query q => by simp [Operand.tokens, Operand.values, Query.params_parts style scope q]

/-- An ordering binds its values, around the query and inside of it. -/
theorem OrderItem.params_tokensEach (style : SelectStyle) (scope : Option Scope)
    (around : Bool) :
    ∀ order : List OrderItem,
  ((OrderItem.tokensEach style scope around order).flatMap fun part => part.flatMap Token.params)
    = OrderItem.valuesEach (some style.paging) order
  | [] => rfl
  | .column c direction nulls :: rest => by
    rw [OrderItem.tokensEach, List.flatMap_cons, flatMap_ordered Token.skipsWords_params,
      Column.params_tokens style scope c, OrderItem.params_tokensEach style scope around rest,
      OrderItem.valuesEach]
  | .raw text :: rest => by
    simp [OrderItem.tokensEach, OrderItem.tokens, OrderItem.valuesEach,
      OrderItem.params_tokensEach style scope around rest]

end

/-! ### The order of the clauses -/

/-- The values of the clauses of a query from its columns to HAVING. -/
def Query.clauseValues (paging : Option PagingStrategy) (q : Query) : List Value :=
  Column.valuesEach paging q.columns ++ Table.valuesEach paging q.sources
    ++ Join.valuesEach paging q.joins ++ q.filter.values paging
    ++ Column.valuesEach paging q.groups ++ q.having.values paging

/-- The values of the ordering of a query. -/
def Query.orderValues (paging : Option PagingStrategy) (q : Query) : List Value :=
  OrderItem.valuesEach paging q.order

/-- A relation between lists of values that can be established part by part. -/
structure RelatesByPart (R : List Value → List Value → Prop) : Prop where
  refl : ∀ vs, R vs vs
  trans : ∀ {us vs ws}, R us vs → R vs ws → R us ws
  append : ∀ {vs vs' ws ws'}, R vs vs' → R ws ws' → R (vs ++ ws) (vs' ++ ws')

/-- Under a relation the values of the ordering may stand before those of the clauses, if
`paging` writes them there. -/
def Query.MovesWithin (paging : Option PagingStrategy) (R : List Value → List Value → Prop)
    (q : Query) : Prop :=
  ordersFirst paging q.rows = true →
    R (q.orderValues none ++ q.clauseValues none) (q.clauseValues none ++ q.orderValues none)

section

variable {paging : Option PagingStrategy} {R : List Value → List Value → Prop}

mutual

/-- The values of a query under a paging are related to those in the order of the clauses if
the orderings of all written queries may move. -/
theorem Query.values_related (hR : RelatesByPart R) :
    ∀ q : Query, (∀ p ∈ q.written, p.MovesWithin paging R) →
  R (q.values paging) (q.values none)
  | ⟨_, ctes, _, columns, sources, joins, filter, groups, having, order, rows, _, partners, _⟩,
      h => by
    simp only [Query.written, List.forall_mem_cons, List.forall_mem_append] at h
    obtain ⟨hown, ⟨⟨⟨⟨⟨⟨⟨hctes, hcolumns⟩, hsources⟩, hjoins⟩, hfilter⟩, hgroups⟩, hhaving⟩,
      horder⟩, hpartners⟩ := h
    have hctes := Cte.values_related hR ctes hctes
    have hpartners := Partner.values_related hR partners hpartners
    have horder := OrderItem.values_related hR order horder
    have hclauses := hR.append (hR.append (hR.append (hR.append (hR.append
      (Column.valuesEach_related hR columns hcolumns) (Table.values_related hR sources hsources))
      (Join.values_related hR joins hjoins)) (Condition.values_related hR filter hfilter))
      (Column.valuesEach_related hR groups hgroups)) (Condition.values_related hR having hhaving)
    have hnone : ordersFirst none rows = false := rfl
    by_cases hfirst : ordersFirst paging rows
    · have hmoved := hR.trans (hR.append horder hclauses) (hown hfirst)
      have h := hR.append (hR.append hctes hmoved) hpartners
      simpa [Query.values, Query.clauseValues, Query.orderValues, hfirst, hnone] using h
    · have h := hR.append (hR.append (hR.append hctes hclauses) horder) hpartners
      simpa [Query.values, hfirst, hnone] using h

theorem Cte.values_related (hR : RelatesByPart R) :
    ∀ ctes : List Cte, (∀ p ∈ Cte.writtenEach ctes, p.MovesWithin paging R) →
  R (Cte.valuesEach paging ctes) (Cte.valuesEach none ctes)
  | [], _ => hR.refl _
  | ⟨_, _, q⟩ :: rest, h => by
    obtain ⟨hq, hrest⟩ := List.forall_mem_append.mp h
    apply hR.append (Query.values_related hR q hq) (Cte.values_related hR rest hrest)

theorem Partner.values_related (hR : RelatesByPart R) :
    ∀ partners : List Partner, (∀ p ∈ Partner.writtenEach partners, p.MovesWithin paging R) →
  R (Partner.valuesEach paging partners) (Partner.valuesEach none partners)
  | [], _ => hR.refl _
  | ⟨_, q⟩ :: rest, h => by
    obtain ⟨hq, hrest⟩ := List.forall_mem_append.mp h
    apply hR.append (Query.values_related hR q hq) (Partner.values_related hR rest hrest)

theorem Column.values_related (hR : RelatesByPart R) :
    ∀ c : Column, (∀ p ∈ c.written, p.MovesWithin paging R) →
  R (c.values paging) (c.values none)
  | ⟨expr, _⟩, h => Expr.values_related hR expr h

theorem Column.valuesEach_related (hR : RelatesByPart R) :
    ∀ columns : List Column, (∀ p ∈ Column.writtenEach columns, p.MovesWithin paging R) →
  R (Column.valuesEach paging columns) (Column.valuesEach none columns)
  | [], _ => hR.refl _
  | c :: rest, h => by
    obtain ⟨hc, hrest⟩ := List.forall_mem_append.mp h
    apply hR.append (Column.values_related hR c hc) (Column.valuesEach_related hR rest hrest)

theorem Expr.values_related (hR : RelatesByPart R) :
    ∀ e : Expr, (∀ p ∈ e.written, p.MovesWithin paging R) →
  R (e.values paging) (e.values none)
  | .named .., _ => hR.refl _
  | .call _ args, h => Column.valuesEach_related hR args h
  | .distinct columns, h => Column.valuesEach_related hR columns h
  | .raw .., _ => hR.refl _
  | .param _, _ => hR.refl _
  | .arithmetic left _ right, h => by
    obtain ⟨hleft, hright⟩ := List.forall_mem_append.mp h
    apply hR.append (Column.values_related hR left hleft) (Column.values_related hR right hright)
  | .subquery q, h => Query.values_related hR q h

theorem Table.values_related (hR : RelatesByPart R) :
    ∀ tables : List Table, (∀ p ∈ Table.writtenEach tables, p.MovesWithin paging R) →
  R (Table.valuesEach paging tables) (Table.valuesEach none tables)
  | [], _ => hR.refl _
  | ⟨source, _⟩ :: rest, h => by
    obtain ⟨hsource, hrest⟩ := List.forall_mem_append.mp h
    apply hR.append (Source.values_related hR source hsource) (Table.values_related hR rest hrest)

theorem Source.values_related (hR : RelatesByPart R) :
    ∀ source : Source, (∀ p ∈ source.written, p.MovesWithin paging R) →
  R (source.values paging) (source.values none)
  | .named .., _ => hR.refl _
  | .derived q, h => Query.values_related hR q h

theorem Join.values_related (hR : RelatesByPart R) :
    ∀ joins : List Join, (∀ p ∈ Join.writtenEach joins, p.MovesWithin paging R) →
  R (Join.valuesEach paging joins) (Join.valuesEach none joins)
  | [], _ => hR.refl _
  | ⟨_, _, _, false⟩ :: rest, h => by
    obtain ⟨-, hrest⟩ := List.forall_mem_append.mp h
    apply hR.append (hR.refl _) (Join.values_related hR rest hrest)
  | ⟨_, ⟨source, _⟩, none, true⟩ :: rest, h => by
    obtain ⟨hjoin, hrest⟩ := List.forall_mem_append.mp h
    obtain ⟨hsource, -⟩ := List.forall_mem_append.mp hjoin
    apply hR.append (hR.append (Source.values_related hR source hsource) (hR.refl _))
      (Join.values_related hR rest hrest)
  | ⟨_, ⟨source, _⟩, some c, true⟩ :: rest, h => by
    obtain ⟨hjoin, hrest⟩ := List.forall_mem_append.mp h
    obtain ⟨hsource, hc⟩ := List.forall_mem_append.mp hjoin
    apply hR.append
      (hR.append (Source.values_related hR source hsource) (Condition.values_related hR c hc))
      (Join.values_related hR rest hrest)

theorem Condition.values_related (hR : RelatesByPart R) :
    ∀ c : Condition, (∀ p ∈ c.written, p.MovesWithin paging R) →
  R (c.values paging) (c.values none)
  | .empty, _ => hR.refl _
  | .predicate column _ operand, h => by
    obtain ⟨hcolumn, hoperand⟩ := List.forall_mem_append.mp h
    apply hR.append (Column.values_related hR column hcolumn)
      (Operand.values_related hR operand hoperand)
  | .raw .., _ => hR.refl _
  | .existence _ q, h => Query.values_related hR q h
  | .not c, h => Condition.values_related hR c h
  | .group c, h => Condition.values_related hR c h
  | .connect left _ right, h => by
    obtain ⟨hleft, hright⟩ := List.forall_mem_append.mp h
    apply hR.append (Condition.values_related hR left hleft)
      (Condition.values_related hR right hright)

theorem Operand.values_related (hR : RelatesByPart R) :
    ∀ operand : Operand, (∀ p ∈ operand.written, p.MovesWithin paging R) →
  R (operand.values paging) (operand.values none)
  | .absent, _ => hR.refl _
  | .value _, _ => hR.refl _
  | .list _, _ => hR.refl _
  | .range .., _ => hR.refl _
  | .column c, h => Column.values_related hR c h
  | .query q, h => Query.values_related hR q h

theorem OrderItem.values_related (hR : RelatesByPart R) :
    ∀ order : List OrderItem, (∀ p ∈ OrderItem.writtenEach order, p.MovesWithin paging R) →
  R (OrderItem.valuesEach paging order) (OrderItem.valuesEach none order)
  | [], _ => hR.refl _
  | .column c _ _ :: rest, h => by
    obtain ⟨hc, hrest⟩ := List.forall_mem_append.mp h
    apply hR.append (Column.values_related hR c hc) (OrderItem.values_related hR rest hrest)
  | .raw _ :: rest, h => OrderItem.values_related hR rest h

end

end

/-- Being a rearrangement can be established part by part. -/
theorem RelatesByPart.perm :
  RelatesByPart List.Perm
  := ⟨List.Perm.refl, List.Perm.trans, List.Perm.append⟩

/-- Being equal can be established part by part. -/
theorem RelatesByPart.eq :
  RelatesByPart Eq
  := by
  constructor
  · exact fun _ => rfl
  · apply Eq.trans
  · rintro _ _ _ _ rfl rfl
    rfl

/-- Every ordering may move in a rearrangement. -/
theorem Query.movesWithin_perm (paging : Option PagingStrategy) (q : Query) :
  q.MovesWithin paging List.Perm
  := fun _ => List.perm_append_comm

/-- The values of a query under a paging are a rearrangement of those in the order of the
clauses. -/
theorem Query.values_perm (paging : Option PagingStrategy) (q : Query) :
  (q.values paging).Perm (q.values none)
  := Query.values_related .perm q fun p _ => p.movesWithin_perm paging

/-- A paging that never writes the ordering first leaves the values in the order of the
clauses. -/
theorem Query.values_eq (paging : Option PagingStrategy)
    (h : ∀ rows, ordersFirst paging rows = false) (q : Query) :
  q.values paging = q.values none
  := by
  apply Query.values_related .eq
  intro p _ hfirst
  rw [h] at hfirst
  cases hfirst

/-- A paging other than the one by row numbers never writes the ordering first. -/
theorem ordersFirst_eq_false {s : PagingStrategy} (hs : s ≠ .rowNumber) (rows : Option UInt64) :
  ordersFirst (some s) rows = false
  := by
  simp [ordersFirst, PagingStrategy.ordersFirst, hs]

/-- Queries with the same tokens in every style have the same values under every paging. -/
theorem Query.values_congr {p q : Query} (h : ∀ style, p.tokens style none = q.tokens style none)
    (paging : Option PagingStrategy) :
  p.values paging = q.values paging
  := by
  have hsome : ∀ s : PagingStrategy, p.values (some s) = q.values (some s) := by
    intro s
    have hwritten := Query.params_parts ⟨s, " AS "⟩ none p
    rw [← Query.tokens, h, Query.tokens, Query.params_parts ⟨s, " AS "⟩ none q] at hwritten
    exact hwritten.symm
  cases paging with
  | some s => apply hsome
  | none =>
    have hclauses := Query.values_eq (some .limitPair) (ordersFirst_eq_false (by decide))
    rw [← hclauses, ← hclauses, hsome]

/-- A select binds the values of its query as the paging of the dialect lists them: a
rearrangement of the values in the order of the clauses, which changes nothing unless the
rows are numbered. -/
theorem Dialect.params_of_select (d : Dialect) (q : Query) :
  (∀ s, d.select q = .ok s → s.params = q.values (some d.paging))
    ∧ (q.values (some d.paging)).Perm (q.values none)
    ∧ (d.paging ≠ .rowNumber → q.values (some d.paging) = q.values none)
  := by
  constructor
  · intro s hs
    rw [Statement.params_of_ofTokens hs]
    apply Query.params_parts d.style
  · constructor
    · apply Query.values_perm
    · intro hpaging
      apply Query.values_eq
      apply ordersFirst_eq_false hpaging

/-- Accounts between two ages, in an order with a value of its own, and limited. -/
def limitedAccounts : Query :=
  { Query.empty with
    columns := [⟨.named none "id", none⟩]
    sources := [⟨.named none "tb_account", none⟩]
    filter := .predicate ⟨.named none "age", none⟩ .between (.range (.uint 7) (.uint 18))
    order := [.column ⟨.raw "ABS(id - ?)" [.uint 99], none⟩ none none]
    rows := some 10 }

/-- With numbered rows the value of the ordering is bound first, otherwise last. -/
theorem params_of_select_limitedAccounts :
  (∃ s, (Dialect.builtIn .sqlServer2005).select limitedAccounts = .ok s
      ∧ s.params = [.uint 99, .uint 7, .uint 18])
    ∧ (Dialect.builtIn .mysql).paging ≠ .rowNumber
    ∧ limitedAccounts.values (some (Dialect.builtIn .mysql).paging)
      = [.uint 7, .uint 18, .uint 99]
  := by
  constructor
  · obtain ⟨s, hs⟩ : ∃ s, (Dialect.builtIn .sqlServer2005).select limitedAccounts = .ok s :=
      ⟨_, rfl⟩
    use s, hs
    rw [(Dialect.params_of_select _ limitedAccounts).1 s hs]
    rfl
  · have hpaging : (Dialect.builtIn .mysql).paging ≠ .rowNumber := by decide
    use hpaging
    rw [(Dialect.params_of_select _ limitedAccounts).2.2 hpaging]
    rfl

end SqlRender
